import BookingOffice.Proofs.Http.Requests

/-!
The gate. An office with a token lets a request to its entities through if the request carries that
token, and then the token makes no difference. Every other request is answered before anything but
its method, its path and its headers is looked at, so that the answer tells nothing of the office.

* `Http.Headers.Carries`: what it means that a request carries a token;
* `Http.Headers.bearer_eq_ok_iff`: the headers are read as that;
* `Http.Gate`: what the gate does;
* `Http.gate`: it does so for every token.
-/

namespace BookingOffice

/-! ### Bytes of texts -/

namespace Text.Utf8

lemma encode_injective : Function.Injective encode := by
  intro s t h
  have hbytes : s.toList.utf8Encode = t.toList.utf8Encode := by
    rw [List.utf8Encode, List.utf8Encode]
    exact congrArg List.toByteArray h
  rwa [String.utf8Encode_toList, String.utf8Encode_toList, String.toByteArray_inj] at hbytes

lemma encode_append (s t : String) : encode (s ++ t) = encode s ++ encode t := by
  rw [encode, String.toList_append, List.flatMap_append, encode, encode]

/-- A byte of ASCII is the encoding of the character with its number. -/
lemma utf8EncodeChar_ofNat {b : UInt8} (h : b.toNat < 128) :
    String.utf8EncodeChar (Char.ofNat b.toNat) = [b] := by
  have hval : (Char.ofNat b.toNat).toNat = b.toNat := by
    rw [Char.ofNat, dif_pos (.inl (by omega : b.toNat < 55296))]
    rfl
  have hsize : (Char.ofNat b.toNat).utf8Size = 1 := by
    rw [Char.utf8Size_eq_one_iff, UInt32.le_iff_toNat_le]
    exact hval.trans_le (Nat.le_of_lt_succ h)
  rw [String.utf8EncodeChar_eq_singleton hsize]
  congr 1
  apply UInt8.toNat_inj.1
  rw [UInt32.toNat_toUInt8]
  change (Char.ofNat b.toNat).toNat % 256 = b.toNat
  omega

/-- Bytes of ASCII are the encoding of the text of their characters. -/
lemma encode_ofList {bytes : List UInt8} (h : ∀ b ∈ bytes, b.toNat < 128) :
    encode (String.ofList (bytes.map fun b => Char.ofNat b.toNat)) = bytes := by
  rw [encode, String.toList_ofList, List.flatMap_map]
  induction bytes with
  | nil => rfl
  | cons b bytes ih =>
    rw [List.flatMap_cons, utf8EncodeChar_ofNat (h b List.mem_cons_self),
      ih fun b hb => h b (List.mem_cons_of_mem _ hb)]
    rfl

end Text.Utf8

namespace Http

open Text.Utf8 (encode encode_injective encode_append encode_ofList)

/-! ### The comparison of tokens -/

/-- The bits in which pairs of bytes differ, put together, are none only if no pair differs. -/
lemma foldl_or_xor_eq_zero (pairs : List (UInt8 × UInt8)) (acc : UInt8) :
    pairs.foldl (fun acc p => acc ||| (p.1 ^^^ p.2)) acc = 0 ↔
      acc = 0 ∧ ∀ p ∈ pairs, p.1 = p.2 := by
  induction pairs generalizing acc with
  | nil => simp
  | cons p pairs ih =>
    rw [List.foldl_cons, ih, UInt8.or_eq_zero_iff, UInt8.xor_eq_zero_iff, List.forall_mem_cons,
      and_assoc]

/-- Two texts match if they are the same. The length is compared first, as the pairs end with the
shorter text. -/
lemma tokenMatches_eq_true {given expected : String} :
    tokenMatches given expected = true ↔ given = expected := by
  rw [← encode_injective.eq_iff, ← List.forall₂_eq_eq_eq, List.forall₂_iff_zip]
  simp only [tokenMatches, Bool.and_eq_true, beq_iff_eq, foldl_or_xor_eq_zero, true_and,
    Prod.forall]

/-! ### The authorization of a request -/

namespace Headers

variable {headers : Headers} {value : List UInt8} {s given : String}

/-- Whether the headers carry a token: there is one for the authorization, whose value is the scheme
and the token. The token is a text of ASCII that may stand in a header. -/
structure Carries (headers : Headers) (token : String) : Prop where
  value : headers.values "Authorization" = [encode "Bearer " ++ encode token]
  ne_empty : token ≠ ""
  printable : (encode token).all isPrintable

lemma toNat_lt_of_isPrintable {b : UInt8} (h : isPrintable b) : b.toNat < 128 := by
  simp only [isPrintable, Bool.or_eq_true, Bool.and_eq_true, decide_eq_true_eq] at h
  obtain rfl | ⟨-, h⟩ := h
  · decide
  · exact (UInt8.lt_iff_toNat_lt.1 h).trans (by decide)

lemma text?_eq_some_iff : text? value = some s ↔ value.all isPrintable ∧ encode s = value := by
  have hencode (h : value.all isPrintable) :
      encode (String.ofList (value.map fun b => Char.ofNat b.toNat)) = value :=
    encode_ofList fun b hb => toNat_lt_of_isPrintable (List.all_eq_true.1 h b hb)
  rw [text?, Option.ite_none_right_eq_some, Option.some.injEq]
  constructor
  · rintro ⟨hvalue, rfl⟩
    exact ⟨hvalue, hencode hvalue⟩
  · rintro ⟨hvalue, hs⟩
    exact ⟨hvalue, encode_injective ((hencode hvalue).trans hs.symm)⟩

/-- A text without a space has no token. -/
lemma readBearer_of_not_mem (h : ' ' ∉ s.toList) :
    readBearer s = if s = "" then .error .noScheme else .error .noToken := by
  have hspace : ∀ c ∈ s.toList, decide (c ≠ ' ') = true := by
    intro c hc
    exact decide_eq_true fun heq => h (heq ▸ hc)
  have htake : s.toList.takeWhile (· ≠ ' ') = s.toList := List.takeWhile_eq_self_iff.2 hspace
  have hdrop : s.toList.dropWhile (· ≠ ' ') = [] := List.dropWhile_eq_nil_iff.2 hspace
  simp only [readBearer, htake, hdrop, List.isEmpty_iff, String.toList_eq_nil_iff, List.drop_nil,
    if_true]

/-- A text with a space has all before the first one as its scheme and all after it as its token. -/
lemma readBearer_append {scheme token : String} (h : ' ' ∉ scheme.toList) :
    readBearer (scheme ++ " " ++ token) =
      if scheme = "" then .error .noScheme
      else if token = "" then .error .noToken
      else if scheme = "Bearer" then .ok token
      else .error .unsupported := by
  have hspace : ∀ c ∈ scheme.toList, decide (c ≠ ' ') = true := by
    intro c hc
    exact decide_eq_true fun heq => h (heq ▸ hc)
  have hcs : (scheme ++ " " ++ token).toList = scheme.toList ++ ' ' :: token.toList := by
    rw [String.toList_append, String.toList_append, List.append_assoc]
    rfl
  have htake : (scheme ++ " " ++ token).toList.takeWhile (· ≠ ' ') = scheme.toList := by
    rw [hcs, List.takeWhile_append_of_pos hspace, List.takeWhile_cons_of_neg (by decide),
      List.append_nil]
  have hdrop : ((scheme ++ " " ++ token).toList.dropWhile (· ≠ ' ')).drop 1 = token.toList := by
    rw [hcs, List.dropWhile_append_of_pos hspace, List.dropWhile_cons_of_neg (by decide)]
    rfl
  simp only [readBearer, htake, hdrop, List.isEmpty_iff, String.toList_eq_nil_iff,
    String.toList_inj, String.ofList_toList]

lemma exists_first_space (s : String) :
    ' ' ∉ s.toList ∨ ∃ scheme token : String, ' ' ∉ scheme.toList ∧ s = scheme ++ " " ++ token := by
  by_cases h : ' ' ∈ s.toList
  · obtain ⟨scheme, token, hs, hscheme⟩ := List.eq_append_cons_of_mem h
    refine .inr ⟨String.ofList scheme, String.ofList token, ?_, ?_⟩
    · rwa [String.toList_ofList]
    · rw [← String.toList_inj, hs, String.toList_append, String.toList_append, List.append_assoc,
        String.toList_ofList, String.toList_ofList, String.toList_ofList]
      rfl
  · exact .inl h

/-- The token is all that follows the scheme and one space, and there must be some. -/
lemma readBearer_eq_ok_iff : readBearer s = .ok given ↔ s = "Bearer " ++ given ∧ given ≠ "" := by
  have hbearer : "Bearer " ++ given = "Bearer" ++ " " ++ given := rfl
  constructor
  · intro h
    obtain hs | ⟨scheme, token, hscheme, rfl⟩ := exists_first_space s
    · rw [readBearer_of_not_mem hs] at h
      split at h <;> cases h
    · rw [readBearer_append hscheme] at h
      split at h
      · cases h
      split at h
      · cases h
      next htoken =>
      split at h
      · next heq =>
        cases h
        rw [hbearer, heq]
        exact ⟨rfl, htoken⟩
      · cases h
  · rintro ⟨rfl, hgiven⟩
    rw [hbearer, readBearer_append (by decide), if_neg (by decide), if_neg hgiven, if_pos rfl]

lemma unique_eq_ok_some_iff {name : String} :
    headers.unique name = .ok (some value) ↔ headers.values name = [value] := by
  rw [unique]
  split
  · next h => simp [h]
  · next h => simp [h]
  · next h => simpa using h value

/-- A token is read from the headers exactly if they carry it. -/
lemma bearer_eq_ok_iff : headers.bearer = .ok given ↔ headers.Carries given := by
  constructor
  · intro h
    rw [bearer] at h
    split at h
    · cases h
    · cases h
    next value hvalue =>
    split at h
    · cases h
    next s hs =>
    obtain ⟨hprintable, rfl⟩ := text?_eq_some_iff.1 hs
    obtain ⟨rfl, hgiven⟩ := readBearer_eq_ok_iff.1 h
    rw [encode_append] at hprintable hvalue
    rw [List.all_append, Bool.and_eq_true] at hprintable
    exact ⟨unique_eq_ok_some_iff.1 hvalue, hgiven, hprintable.2⟩
  · intro h
    have hprintable : (encode "Bearer " ++ encode given).all isPrintable := by
      rw [List.all_append, h.printable]
      decide
    have htext : text? (encode "Bearer " ++ encode given) = some ("Bearer " ++ given) :=
      text?_eq_some_iff.2 ⟨hprintable, encode_append _ _⟩
    simp only [bearer, unique_eq_ok_some_iff.2 h.value, htext]
    exact readBearer_eq_ok_iff.2 ⟨rfl, h.ne_empty⟩

end Headers

/-- An office with a token rejects the requests whose headers do not carry it. -/
lemma rejection?_eq_none_iff {token : String} {request : Request} :
    rejection? (some token) request = none ↔ request.headers.Carries token := by
  rw [rejection?, Option.bind_some]
  split
  · next fault hfault =>
    refine ⟨nofun, fun hcarries => ?_⟩
    rw [Headers.bearer_eq_ok_iff.2 hcarries] at hfault
    cases hfault
  · next given hgiven =>
    rw [← Headers.bearer_eq_ok_iff, hgiven, Except.ok.injEq, ← tokenMatches_eq_true]
    split <;> simp [*]

/-! ### The gate -/

/-- Whether the action is on entities, and not on the server as such. -/
def Action.IsOnEntities : Action → Prop
  | health => False
  | _ => True

/-- Whether a request is led to an action on entities by its path and its method. -/
def Request.IsOnEntities (request : Request) : Prop :=
  ∃ route action, Route.find? request.path = some route ∧
    route.action? request.method = some action ∧ action.IsOnEntities

/-- No action on entities is open to clients without a token. -/
lemma Route.isPublic_of_action? {route : Route} {action : Action} {method : String}
    (ha : route.action? method = some action) (h : action.IsOnEntities) :
    route.isPublic = false := by
  cases route with
  | health =>
    rw [action?, Option.ite_none_right_eq_some] at ha
    obtain ⟨-, ⟨⟩⟩ := ha
    exact h.elim
  | _ => rfl

/-- The response to a request that is not let through, written out. It gives the reason, no data,
and how to authenticate. -/
def unauthorizedResponse (method reason : String) : Response where
  status := 401
  body := .json (.object
    [("code", .nat 401), ("data", .null), ("message", .string ("Unauthorized: " ++ reason))])
  authenticate := some "Bearer realm=\"transit\""
  bodyless := method = "HEAD"

/-- The reason that is given to a client that is not let through. -/
def Rejection.reason : Rejection → String
  | badAuthorization fault => fault.message
  | wrongToken => "Invalid token"

lemma Rejection.toResponse_problem (r : Rejection) (method : String) :
    { r.problem.toResponse with bodyless := method = "HEAD" } =
      unauthorizedResponse method r.reason := by
  rw [unauthorizedResponse, ← Envelope.toJson_mk]
  cases r <;> rfl

variable {env : Surroundings} {token : String} {request : Request} {office : Office}

/-- A request that carries the token is answered as by an office without one. -/
lemma respond_of_carries (h : request.headers.Carries token) :
    respond env (some token) request office = respond env none request office := by
  have hnone : rejection? none request = none := rfl
  simp only [respond, rejection?_eq_none_iff.2 h, hnone]

/-- The answer to a request that is not let through, which is made up of its method, its path and
what is wrong with its headers. -/
def Rejection.answer (r : Rejection) (request : Request) : Answer where
  response := some (unauthorizedResponse request.method r.reason)
  log := [r.warning request]

/-- A request to entities that is rejected is told so, and nothing else is done. -/
lemma respond_of_rejection? (h : request.IsOnEntities) {r : Rejection}
    (hr : rejection? (some token) request = some r) :
    respond env (some token) request office = (r.answer request, office) := by
  obtain ⟨route, action, hroute, haction, hentities⟩ := h
  have hpublic : route.isPublic = false := Route.isPublic_of_action? haction hentities
  have hlog : r.problem.log = [] := by cases r <;> rfl
  have hresponse := r.toResponse_problem request.method
  simp only [respond, hroute, hpublic, hr, answerOn, haction, Answer.ofProblem, Answer.map, hlog,
    Option.map_some, Rejection.answer, Bool.false_eq_true, if_false, hresponse]

/-- What the gate of an office with a token does. -/
structure Gate (env : Surroundings) (token : String) : Prop where
  /-- The tokens that match are those that are the same. -/
  compares : ∀ given expected, tokenMatches given expected = true ↔ given = expected
  /-- A request that carries the token is answered as by an office without one, and does what it
  does there. -/
  admits : ∀ (request : Request) (office : Office), request.headers.Carries token →
    respond env (some token) request office = respond env none request office
  /-- A request to entities with any other headers is told how to authenticate, and leaves the
  office as it was: its database, and the number of times that its clock has been read. -/
  refuses : ∀ (request : Request) (office : Office), request.IsOnEntities →
    ¬ request.headers.Carries token →
    (respond env (some token) request office).2 = office ∧
      ∃ reason, (respond env (some token) request office).1.response =
        some (unauthorizedResponse request.method reason)
  /-- What it is told depends on its method, its path and its headers alone, and not on the office,
  the surroundings, the query or the body. -/
  blind : ∀ (request request' : Request) (env' : Surroundings) (office office' : Office),
    request.IsOnEntities → ¬ request.headers.Carries token →
    request'.method = request.method → request'.path = request.path →
    request'.headers = request.headers →
    (respond env' (some token) request' office').1 = (respond env (some token) request office).1
  /-- Whether the server is up is answered to everyone alike, token or not. -/
  health : ∀ (request request' : Request) (token' : Option String) (office : Office),
    request.path = "/health" → request'.path = "/health" → request'.method = request.method →
    request'.body = request.body →
    respond env token' request' office = respond env (some token) request office

/-- The gate does so for every token. -/
theorem gate (env : Surroundings) (token : String) : Gate env token where
  compares _ _ := tokenMatches_eq_true
  admits _ _ hcarries := respond_of_carries hcarries
  refuses request office hentities hcarries := by
    obtain ⟨r, hr⟩ := Option.ne_none_iff_exists'.1 (rejection?_eq_none_iff.not.2 hcarries)
    rw [respond_of_rejection? hentities hr]
    exact ⟨rfl, r.reason, rfl⟩
  blind request request' env' office office' hentities hcarries hmethod hpath hheaders := by
    obtain ⟨r, hr⟩ := Option.ne_none_iff_exists'.1 (rejection?_eq_none_iff.not.2 hcarries)
    have hentities' : request'.IsOnEntities := by
      rwa [Request.IsOnEntities, hpath, hmethod]
    have hr' : rejection? (some token) request' = some r := by
      rwa [rejection?, hheaders]
    rw [respond_of_rejection? hentities hr, respond_of_rejection? hentities' hr']
    simp only [Rejection.answer, Rejection.warning, hmethod, hpath]
  health request request' token' office hpath hpath' hmethod hbody := by
    have hroute : Route.find? "/health" = some .health := if_pos rfl
    have hempty : request'.emptyBody = request.emptyBody := by
      rw [Request.emptyBody, Request.emptyBody, hbody]
    simp only [respond, hpath, hpath', hroute, Route.isPublic, if_true, answerOn, hmethod]
    cases haction : Route.health.action? request.method with
    | none => rfl
    | some action =>
      rw [Route.action?, Option.ite_none_right_eq_some] at haction
      obtain ⟨-, ⟨⟩⟩ := haction
      simp only [Action.perform, hempty]

/-- The token is all that follows the first space, so that it may have spaces of its own. A request
with the start of it, or with the whole of it twice, is not let through. -/
theorem gate_open_sesame :
    let asking (values : List String) : Request :=
      { method := "GET"
        target := "/api/v1/external/countries?page=1"
        headers := values.map fun value => ⟨"AUTHORIZATION", Text.Utf8.encode value⟩
        body := [] }
    let office := Office.ofLayout .office
    let answer (token : Option String) (values : List String) :=
      respond .counting token (asking values) office
    (∀ values, (asking values).IsOnEntities) ∧
      (asking ["Bearer open sesame"]).headers.Carries "open sesame" ∧
      answer (some "open sesame") ["Bearer open sesame"] = answer none ["Bearer open sesame"] ∧
      (answer none ["Bearer open sesame"]).1.response.map (·.status) = some 200 ∧
      ∀ values ∈ [[], ["Bearer open"], ["Bearer open sesame", "Bearer open sesame"]],
        ¬ (asking values).headers.Carries "open sesame" ∧
          (answer (some "open sesame") values).1.response.map (·.status) = some 401 := by
  intro asking office answer
  have hgate : Gate .counting "open sesame" := gate .counting "open sesame"
  have hentities (values : List String) : (asking values).IsOnEntities := by
    have hlist : ((Route.find? (asking []).path).bind (·.action? "GET")).any
        (fun | .list _ => true | _ => false) = true := by decide +kernel
    obtain ⟨action, haction, hlist⟩ := (Option.any_eq_true _ _).1 hlist
    obtain ⟨route, hroute, haction⟩ := Option.bind_eq_some_iff.1 haction
    refine ⟨route, action, hroute, haction, ?_⟩
    cases action <;> trivial
  have hcarries : (asking ["Bearer open sesame"]).headers.Carries "open sesame" :=
    ⟨by decide +kernel, by decide, by decide +kernel⟩
  refine ⟨hentities, hcarries, hgate.admits _ _ hcarries, by decide +kernel, ?_⟩
  have hvalues : ∀ values ∈ [[], ["Bearer open"], ["Bearer open sesame", "Bearer open sesame"]],
      (asking values).headers.values "Authorization" ≠
        [encode "Bearer " ++ encode "open sesame"] := by
    decide +kernel
  intro values hmem
  have hno : ¬ (asking values).headers.Carries "open sesame" := fun h => hvalues values hmem h.value
  obtain ⟨-, reason, hresponse⟩ := hgate.refuses _ office (hentities values) hno
  exact ⟨hno, congrArg (Option.map (·.status)) hresponse⟩

end Http

end BookingOffice
