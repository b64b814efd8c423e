import BookingOffice.Proofs.Http.Gate

/-!
How authorizations are read. A token is read from the one header for the authorization, if all of
its value is printable and it is the scheme, one space and the token. Anything else is one of six
faults, and those who send it are told the realm that tokens are for.

* `Http.Headers.Faulty`: what is wrong with the values of the header;
* `Http.Headers.faulty_of_bearer`: each fault is found where it is;
* `Http.Headers.Authorizes`: what headers without and with faults come to;
* `Http.Headers.authorizes`: they come to that for every realm.
-/

namespace BookingOffice.Http.Headers

open Text.Utf8 (encode encode_append)

variable {headers : Headers} {s : String} {fault : AuthFault} {value : List UInt8}

/-! ### Faults -/

/-- Whether something is wrong with the authorization in a text. -/
inductive FaultyText : String → AuthFault → Prop
  | empty : FaultyText "" .noScheme
  | blank (rest : String) : FaultyText (" " ++ rest) .noScheme
  /-- There is a scheme and no token, with a space at the end or without one. -/
  | scheme {scheme : String} (hscheme : scheme ≠ "") (hspace : ' ' ∉ scheme.toList) :
      FaultyText scheme .noToken
  | schemeBlank {scheme : String} (hscheme : scheme ≠ "") (hspace : ' ' ∉ scheme.toList) :
      FaultyText (scheme ++ " ") .noToken
  /-- There is a token for another scheme. -/
  | other {scheme token : String} (hscheme : scheme ≠ "") (hspace : ' ' ∉ scheme.toList)
      (htoken : token ≠ "") (hne : scheme ≠ "Bearer") :
      FaultyText (scheme ++ " " ++ token) .unsupported

/-- Whether something is wrong with the values of the headers for the authorization. -/
inductive Faulty : List (List UInt8) → AuthFault → Prop
  | absent : Faulty [] .absent
  | repeated (value value' : List UInt8) (rest : List (List UInt8)) :
      Faulty (value :: value' :: rest) .repeated
  | badEncoding {value : List UInt8} (h : ¬ value.all isPrintable) : Faulty [value] .badEncoding
  | text {s : String} {fault : AuthFault} (hprintable : (encode s).all isPrintable)
      (h : FaultyText s fault) : Faulty [encode s] fault

/-- Each fault of a text is found where it is. -/
lemma faultyText_of_readBearer (h : readBearer s = .error fault) : FaultyText s fault := by
  obtain hs | ⟨scheme, token, hscheme, rfl⟩ := exists_first_space s
  · rw [readBearer_of_not_mem hs] at h
    split at h
    · next hempty =>
      cases h
      rw [hempty]
      exact .empty
    · next hne =>
      cases h
      exact .scheme hne hs
  · rw [readBearer_append hscheme] at h
    split at h
    · next hempty =>
      cases h
      rw [hempty, String.empty_append]
      exact .blank token
    next hne =>
    split at h
    · next hempty =>
      cases h
      rw [hempty, String.append_empty]
      exact .schemeBlank hne hscheme
    next htoken =>
    split at h
    · cases h
    · next hother =>
      cases h
      exact .other hne hscheme htoken hother

/-- Each fault is found where it is. -/
lemma faulty_of_bearer (h : headers.bearer = .error fault) :
    Faulty (headers.values "Authorization") fault := by
  simp only [bearer, unique] at h
  cases hvalues : headers.values "Authorization" with
  | nil =>
    rw [hvalues] at h
    cases h
    exact .absent
  | cons value rest =>
    rw [hvalues] at h
    cases rest with
    | cons value' rest =>
      cases h
      exact .repeated value value' rest
    | nil =>
      cases htext : text? value with
      | none =>
        simp only [htext] at h
        cases h
        refine .badEncoding fun hprintable => ?_
        rw [text?, if_pos hprintable] at htext
        cases htext
      | some s =>
        simp only [htext] at h
        obtain ⟨hprintable, rfl⟩ := text?_eq_some_iff.1 htext
        exact .text hprintable (faultyText_of_readBearer h)

/-! ### Authorization -/

/-- What the headers of a request come to, with a realm that tokens are for. -/
structure Authorizes (headers : Headers) (realm : String) : Prop where
  /-- There is a token exactly if there is one header for the authorization, whatever the case of
  its name, and its value holds nothing but tabs and printable characters of ASCII, which are the
  scheme, a space and the token. -/
  token_iff : ∀ token, headers.bearerFor realm = .ok token ↔
    ∃ h, headers.filter (fun h => lowerCase h.name = "authorization".toList) = [h] ∧
      (∀ b ∈ h.value, b = 9 ∨ 32 ≤ b ∧ b ≤ 126) ∧ h.value = encode ("Bearer " ++ token) ∧
      token ≠ ""
  /-- Those who send anything else are told the scheme, the realm and what is wrong. -/
  faulty : ∀ problem, headers.bearerFor realm = .error problem →
    ∃ fault, Faulty (headers.values "Authorization") fault ∧
      problem = .unauthorized "Bearer" realm fault.message
  /-- Several headers for the authorization, which are else a bad request, are told likewise. -/
  repeated : ∀ message, headers.unique "Authorization" = .error message →
    headers.bearerFor realm = .error (.unauthorized "Bearer" realm message)
  /-- Headers with other names make no difference. -/
  others : ∀ headers' : Headers,
    headers'.filter (fun h => lowerCase h.name = "authorization".toList) =
      headers.filter (fun h => lowerCase h.name = "authorization".toList) →
    headers'.bearerFor realm = headers.bearerFor realm

lemma lowerCase_authorization : lowerCase "Authorization" = "authorization".toList := by decide

lemma values_authorization : headers.values "Authorization" =
    (headers.filter fun h => lowerCase h.name = "authorization".toList).map (·.value) := by
  rw [values, lowerCase_authorization]

lemma isPrintable_iff {b : UInt8} : isPrintable b = true ↔ b = 9 ∨ 32 ≤ b ∧ b ≤ 126 := by
  simp only [isPrintable, Bool.or_eq_true, Bool.and_eq_true, decide_eq_true_eq]
  refine or_congr_right (and_congr_right' ?_)
  rw [UInt8.lt_iff_toNat_lt, UInt8.le_iff_toNat_le]
  exact Nat.lt_succ_iff

lemma all_isPrintable_iff {value : List UInt8} :
    value.all isPrintable = true ↔ ∀ b ∈ value, b = 9 ∨ 32 ≤ b ∧ b ≤ 126 := by
  simp only [List.all_eq_true, isPrintable_iff]

lemma all_isPrintable_bearer {token : String} :
    (encode ("Bearer " ++ token)).all isPrintable = (encode token).all isPrintable := by
  rw [encode_append, List.all_append, show (encode "Bearer ").all isPrintable = true by decide,
    Bool.true_and]

lemma bearerFor_eq_ok_iff {realm token : String} :
    headers.bearerFor realm = .ok token ↔ headers.bearer = .ok token := by
  rw [bearerFor]
  cases headers.bearer <;> simp [Except.mapError]

/-- All headers come to that, for every realm. -/
theorem authorizes (headers : Headers) (realm : String) : Authorizes headers realm where
  token_iff token := by
    rw [bearerFor_eq_ok_iff, bearer_eq_ok_iff]
    constructor
    · rintro ⟨hvalue, hne, hprintable⟩
      rw [values_authorization, List.map_eq_singleton_iff] at hvalue
      obtain ⟨h, hheaders, hvalue⟩ := hvalue
      rw [← encode_append] at hvalue
      refine ⟨h, hheaders, ?_, hvalue, hne⟩
      rw [hvalue, ← all_isPrintable_iff, all_isPrintable_bearer]
      exact hprintable
    · rintro ⟨h, hheaders, hprintable, hvalue, hne⟩
      rw [hvalue, ← all_isPrintable_iff, all_isPrintable_bearer] at hprintable
      refine ⟨?_, hne, hprintable⟩
      rw [values_authorization, hheaders, ← encode_append, ← hvalue]
      rfl
  faulty problem h := by
    rw [bearerFor] at h
    cases hbearer : headers.bearer with
    | ok token =>
      rw [hbearer] at h
      cases h
    | error fault =>
      rw [hbearer] at h
      cases h
      exact ⟨fault, faulty_of_bearer hbearer, rfl⟩
  repeated message h := by
    have hmessage : AuthFault.repeated.message = message := by
      rw [unique] at h
      split at h
      · cases h
      · cases h
      · exact Except.error.inj h
    -- the text is the same, though it stands in another problem
    simp only [bearerFor, bearer, h, Except.mapError, AuthFault.problem, hmessage]
  others headers' h := by
    have hvalues : headers'.values "Authorization" = headers.values "Authorization" := by
      rw [values_authorization, values_authorization, h]
    simp only [bearerFor, bearer, unique, hvalues]

/-- The name of the header may be in any case, and a token may begin and end with spaces. A second
space after the scheme belongs to the token, and one before it leaves the text without a scheme. -/
theorem authorizes_two_words :
    let headers (value : String) : Headers :=
      [⟨"X-Authorization", encode "Bearer other"⟩, ⟨"aUTHORIZATION", encode value⟩]
    Authorizes (headers "Bearer  two words ") "office" ∧
      (headers "Bearer  two words ").bearerFor "office" = .ok " two words " ∧
      ∃ fault, Faulty ((headers " Bearer two words").values "Authorization") fault ∧
        (headers " Bearer two words").bearerFor "office" =
          .error (.unauthorized "Bearer" "office" fault.message) := by
  intro headers
  have hauthorizes := authorizes (headers "Bearer  two words ") "office"
  have htoken : (headers "Bearer  two words ").bearerFor "office" = .ok " two words " :=
    (hauthorizes.token_iff _).2 ⟨⟨"aUTHORIZATION", encode "Bearer  two words "⟩,
      by decide +kernel, by decide +kernel, by decide +kernel, by decide⟩
  refine ⟨hauthorizes, htoken, ?_⟩
  have herror : (headers " Bearer two words").bearerFor "office" =
      .error (.unauthorized "Bearer" "office" AuthFault.noScheme.message) := by decide +kernel
  obtain ⟨fault, hfaulty, hproblem⟩ :=
    (authorizes (headers " Bearer two words") "office").faulty _ herror
  exact ⟨fault, hfaulty, herror.trans (congrArg Except.error hproblem)⟩

end BookingOffice.Http.Headers
