import BookingOffice.Proofs.Http.Gate
import BookingOffice.Service.Serve

/-!
Tokens that lock all clients out. The settings of a server are read with any token but the empty
one, which no client could present. A client presents a token in a header, and the values of headers
are read as printable characters of ASCII only. With a token of such characters, blanks included,
those who present it are let through; with any other token nobody is, although there are such tokens
that a header can hold, with letters that are not of ASCII.

* `Service.Admission`: which requests are let through with a token;
* `Service.admission_of_ofEnvironment`: so it is with every token that settings are read with;
* `Service.exists_lockout`: there is one that locks all clients out.
-/

namespace BookingOffice

open Text.Utf8 (encode encode_append)

/-- A server is not set up with the empty token. -/
lemma ServerSettings.token_ne_empty {env : Environment} {start token : String}
    {settings : ServerSettings} (h : ofEnvironment env start = .ok settings)
    (htoken : settings.apiToken = some token) : token ≠ "" := by
  simp only [ofEnvironment, bind, Except.bind] at h
  split at h
  · cases h
  next token? _ =>
  split at h
  · cases h
  next hne =>
  split at h
  · cases h
  split at h
  · cases h
  cases h
  exact fun hempty => hne (htoken.trans (congrArg some hempty))

namespace Http

variable {surroundings : Surroundings} {token : String} {request : Request} {office : Office}

/-- A client that presents a token with other characters is told that its header cannot be read. -/
lemma rejection?_of_not_printable (hprintable : ¬ (encode token).all Headers.isPrintable)
    (h : request.headers.values "Authorization" = [encode ("Bearer " ++ token)]) :
    rejection? (some token) request = some (.badAuthorization .badEncoding) := by
  have hvalue : ¬ (encode ("Bearer " ++ token)).all Headers.isPrintable := by
    rw [encode_append, List.all_append, Bool.and_eq_true]
    exact fun h => hprintable h.2
  have hbearer : request.headers.bearer = .error .badEncoding := by
    simp only [Headers.bearer, Headers.unique_eq_ok_some_iff.2 h, Headers.text?, if_neg hvalue]
  simp only [rejection?, Option.bind_some, hbearer]

end Http

namespace Service

open Http (Request respond unauthorizedResponse)
open Http.Headers (isPrintable)

/-- Which requests an office with a token lets through. -/
structure Admission (surroundings : Surroundings) (token : String) : Prop where
  ne_empty : token ≠ ""
  /-- If the token is printable, those that present it are answered as by an office without one. -/
  admits : (encode token).all isPrintable → ∀ (request : Request) (office : Office),
    request.headers.values "Authorization" = [encode ("Bearer " ++ token)] →
      respond surroundings (some token) request office = respond surroundings none request office
  /-- If it is not, no request to entities is let through, whatever it presents. -/
  locksOut : ¬ (encode token).all isPrintable → ∀ (request : Request) (office : Office),
    request.IsOnEntities →
      (respond surroundings (some token) request office).2 = office ∧
        ∃ reason, (respond surroundings (some token) request office).1.response =
          some (unauthorizedResponse request.method reason)
  /-- Those that present such a token are told that it cannot be read. -/
  misreads : ¬ (encode token).all isPrintable → ∀ (request : Request) (office : Office),
    request.IsOnEntities →
    request.headers.values "Authorization" = [encode ("Bearer " ++ token)] →
      (respond surroundings (some token) request office).1.response =
        some (unauthorizedResponse request.method
          "Bad encoding in Authorization header: failed to convert header to a str")

/-- So it is with every token that the settings of a server are read with. -/
theorem admission_of_ofEnvironment {env : Environment} {start token : String}
    {settings : ServerSettings} (h : ServerSettings.ofEnvironment env start = .ok settings)
    (htoken : settings.apiToken = some token) (surroundings : Surroundings) :
    Admission surroundings token where
  ne_empty := ServerSettings.token_ne_empty h htoken
  admits hprintable request office hvalue := by
    rw [encode_append] at hvalue
    exact Http.respond_of_carries ⟨hvalue, ServerSettings.token_ne_empty h htoken, hprintable⟩
  locksOut hprintable request office hentities := by
    obtain ⟨r, hr⟩ := Option.ne_none_iff_exists'.1
      (Http.rejection?_eq_none_iff.not.2 fun hcarries => hprintable hcarries.printable)
    rw [Http.respond_of_rejection? hentities hr]
    exact ⟨rfl, r.reason, rfl⟩
  misreads hprintable request office hentities hvalue := by
    rw [Http.respond_of_rejection? hentities (Http.rejection?_of_not_printable hprintable hvalue)]
    rfl

/-- A client with a request for the countries that presents a token. -/
def presenting (token : String) : Request where
  method := "GET"
  target := "/api/v1/external/countries"
  headers := [⟨"Authorization", encode ("Bearer " ++ token)⟩]
  body := []

/-- An environment with a token. -/
def holding (token : String) : Environment := [("TRANSIT_API_TOKEN", encode token)]

lemma presenting_isOnEntities (token : String) : (presenting token).IsOnEntities := by
  have hlist : ((Http.Route.find? (presenting "").path).bind (·.action? "GET")).any
      (fun | .list _ => true | _ => false) = true := by decide +kernel
  obtain ⟨action, haction, hlist⟩ := (Option.any_eq_true _ _).1 hlist
  obtain ⟨route, hroute, haction⟩ := Option.bind_eq_some_iff.1 haction
  refine ⟨route, action, hroute, haction, ?_⟩
  cases action <;> trivial

/-- Blanks around a token and within it make no difference, and an accent does. -/
theorem admission_blanks_and_accent :
    let settings (token : String) : ServerSettings := { apiToken := some token }
    let office := Office.ofLayout .office
    let status (token : String) :=
      (respond .counting (some token) (presenting token) office).1.response.map (·.status)
    (∀ token ∈ [" open  sesame ", "clé"],
      ServerSettings.ofEnvironment (holding token) "TRANSIT" = .ok (settings token) ∧
        Admission .counting token) ∧
      (encode " open  sesame ").all isPrintable ∧ ¬ (encode "clé").all isPrintable ∧
      status " open  sesame " = some 200 ∧ status "clé" = some 401 := by
  intro settings office status
  have hread : ∀ token ∈ [" open  sesame ", "clé"],
      ServerSettings.ofEnvironment (holding token) "TRANSIT" = .ok (settings token) := by
    decide +kernel
  exact ⟨fun token htoken => ⟨hread token htoken,
    admission_of_ofEnvironment (hread token htoken) rfl .counting⟩, by decide +kernel,
    by decide +kernel, by decide +kernel, by decide +kernel⟩

/-- The settings of a server are read with a token that locks all clients out, those included that
present it. -/
theorem exists_lockout :
    let office := Office.ofLayout .office
    let status (token : Option String) :=
      (respond .counting token (presenting "clé") office).1.response.map (·.status)
    (ServerSettings.ofEnvironment (holding "clé") "TRANSIT").map (·.apiToken) = .ok (some "clé") ∧
      (presenting "clé").IsOnEntities ∧
      (presenting "clé").headers.values "Authorization" = [encode "Bearer " ++ encode "clé"] ∧
      status none = some 200 ∧ status (some "clé") = some 401 :=
  ⟨by decide +kernel, presenting_isOnEntities "clé", by decide +kernel, by decide +kernel,
    by decide +kernel⟩

end Service

end BookingOffice
