import BookingOffice.Proofs.Dictionary.Lookup
import BookingOffice.Proofs.Script.Query
import BookingOffice.Proofs.Traversal
import BookingOffice.Schema.Validation

/-!
What the checks of payloads let through.

A value passes a field (`Field.Passes`) if it is a null of an optional field, or a value of the kind
of the field that obeys its rules and that storage can keep. A record is accepted by a schema
(`Schema.Accepts`) if it has exactly the fields of the schema and each value passes its field.

* `Field.check_eq_pure`: a checked value passes its field;
* `Schema.get?_of_validate`, `Schema.validate_eq_pure`: what validation gives is determined field
  by field;
* `Schema.accepts_of_validate`: a validated record is accepted.
-/

namespace BookingOffice

/-! ### Values -/

/-- A value as reading leaves it: a text has no NUL character, an integer fits into 64 bits, and a
timestamp has no digits after the microseconds. -/
def Value.IsPlain : Value → Prop
  | .text s => '\x00' ∉ s.toList
  | .integer i => Json.minInt ≤ i ∧ i ≤ Json.maxInt
  | .timestamp t => t.nanos % 1000 = 0
  | _ => True

namespace Value

lemma ofText_eq_ok {s : String} {v : Value} (h : ofText s = .ok v) :
    v = .text s ∧ '\x00' ∉ s.toList := by
  rw [ofText] at h
  split at h
  · cases h
  · next hs => cases h; exact ⟨rfl, hs⟩

lemma readUuid_eq_ok {s : String} {v : Value} (h : readUuid s = .ok v) :
    ∃ u, Uuid.ofText? s = some u ∧ v = .uuid u := by
  rw [readUuid] at h
  split at h
  · next u hu => cases h; exact ⟨u, hu, rfl⟩
  · cases h

lemma readTimestamp_eq_pure {s : String} {v : Value} (h : readTimestamp s = pure v) :
    ∃ m t, Rfc3339.read? s = some m ∧ m.toInstant? = some t ∧ v = .timestamp t.truncated := by
  rw [readTimestamp] at h
  split at h
  · cases h
  · next m hm =>
    split at h
    · next t ht => cases h; exact ⟨m, t, hm, ht, rfl⟩
    · cases h

lemma truncated_nanos_mod (t : Instant) : t.truncated.nanos % 1000 = 0 := by
  simp only [Instant.truncated]
  omega

/-- A value read from a payload is one of the wanted kind as reading leaves it. -/
lemma ofJson_eq_pure {kind : Kind} {json : Json} {v : Value} (h : ofJson kind json = pure v) :
    v.kind = kind ∧ v.isNull = false ∧ v.IsPlain := by
  cases kind with
  | text =>
    cases json with
    | string s =>
      obtain ⟨rfl, hs⟩ := ofText_eq_ok (Option.some.inj h)
      exact ⟨rfl, rfl, hs⟩
    | _ => cases h
  | uuid =>
    cases json with
    | string s =>
      obtain ⟨u, -, rfl⟩ := readUuid_eq_ok (Option.some.inj h)
      exact ⟨rfl, rfl, trivial⟩
    | _ => cases h
  | integer =>
    simp only [ofJson] at h
    split at h
    · next i hi =>
      cases h
      refine ⟨rfl, rfl, ?_⟩
      simp only [Json.asInt?] at hi
      split at hi
      · split at hi
        · next hb => cases hi; exact hb
        · cases hi
      · cases hi
    · cases h
  | real =>
    simp only [ofJson] at h
    split at h
    · cases h; exact ⟨rfl, rfl, trivial⟩
    · cases h
  | timestamp =>
    cases json with
    | string s =>
      obtain ⟨m, t, -, -, rfl⟩ := readTimestamp_eq_pure h
      exact ⟨rfl, rfl, truncated_nanos_mod t⟩
    | _ => cases h

end Value

/-! ### Fields -/

/-- Whether the checks of a field let a value pass. -/
inductive Field.Passes (f : Field) : Value → Prop
  | vacant (optional : f.required = false) : f.Passes (.null f.kind)
  | present {v : Value} (kind : v.kind = f.kind) (notNull : v.isNull = false) (plain : v.IsPlain)
      (checked : f.checkValue v = .ok v) : f.Passes v

namespace Field

lemma checkValue_eq_ok {f : Field} {v w : Value} (h : f.checkValue v = .ok w) : w = v := by
  rw [checkValue] at h
  split at h
  · cases h
  · split at h <;> cases h
    rfl

/-- Whether the member of a field is left out or null. -/
def IsAbsent (json : Option Json) : Prop := json = none ∨ json = some .null

lemma check_of_isAbsent {f : Field} {json : Option Json} (h : IsAbsent json) :
    f.check json = if f.required then throw .missing else pure (.null f.kind) := by
  obtain rfl | rfl := h <;> rfl

lemma check_some {f : Field} {json : Json} (h : ¬ IsAbsent (some json)) :
    f.check (some json) = Value.ofJson f.kind json >>= fun v => .ofExcept (f.checkValue v) := by
  cases json with
  | null => exact absurd (Or.inr rfl) h
  | _ => rfl

/-- A value that has been checked passes. -/
lemma check_eq_pure {f : Field} {json : Option Json} {v : Value} (h : f.check json = pure v) :
    f.Passes v := by
  by_cases habsent : IsAbsent json
  · rw [check_of_isAbsent habsent] at h
    split at h
    · cases h
    · next hr => cases h; exact .vacant (by simpa using hr)
  · cases json with
    | none => exact absurd (Or.inl rfl) habsent
    | some json =>
      rw [check_some habsent] at h
      obtain ⟨w, hw, hc⟩ := Attempt.bind_eq_pure_iff.1 h
      have hc : f.checkValue w = .ok v := Option.some.inj hc
      obtain rfl := checkValue_eq_ok hc
      obtain ⟨hk, hn, hp⟩ := Value.ofJson_eq_pure hw
      exact .present hk hn hp hc

lemma Passes.kind_eq {f : Field} {v : Value} (h : f.Passes v) : v.kind = f.kind := by
  cases h with
  | vacant _ => rfl
  | present kind _ _ _ => exact kind

lemma Passes.isPlain {f : Field} {v : Value} (h : f.Passes v) : v.IsPlain := by
  cases h with
  | vacant _ => trivial
  | present _ _ plain _ => exact plain

/-- Only an optional field has a null. -/
lemma Passes.isNull_eq_false {f : Field} {v : Value} (h : f.Passes v) (hr : f.required = true) :
    v.isNull = false := by
  cases h with
  | vacant optional => rw [hr] at optional; cases optional
  | present _ notNull _ _ => exact notNull

end Field

/-! ### Records -/

namespace Schema

/-- Whether a record has exactly the fields of a schema, each with a value that passes. -/
structure Accepts (s : Schema) (record : Record) : Prop where
  passes : ∀ f ∈ s.fields, ∃ v, record.get? f.name = some v ∧ f.Passes v
  fields : ∀ k v, record.get? k = some v → ∃ f ∈ s.fields, f.name = k

/-- The names of the fields of a schema. -/
def fieldNames (s : Schema) : List String := s.fields.map (·.name)

variable {s : Schema}

lemma findings_eq_some_iff {members : List (String × Json)} {found : Findings} :
    s.findings members = some found ↔
      List.Forall₂ (fun f p => p.1 = f.name ∧
        (f.check (Entries.get? f.name members)).outcome = some p.2) s.fields found := by
  rw [findings, Traversal.mapM_eq_some_iff]
  refine ⟨List.Forall₂.imp ?_, List.Forall₂.imp ?_⟩
  · intro f p h
    obtain ⟨r, hr, hp⟩ := Option.bind_eq_some_iff.1 h
    cases hp
    exact ⟨rfl, hr⟩
  · rintro f ⟨name, r⟩ ⟨rfl, hr⟩
    exact Option.bind_eq_some_iff.2 ⟨r, hr, rfl⟩

/-- The findings have the names of the fields. -/
lemma map_fst_findings {members : List (String × Json)} {found : Findings}
    (h : s.findings members = some found) : found.map Prod.fst = s.fieldNames := by
  have hf := findings_eq_some_iff.1 h
  rw [fieldNames]
  clear h
  generalize s.fields = fields at hf ⊢
  induction hf with
  | nil => rfl
  | cons hp _ ih => rw [List.map_cons, List.map_cons, hp.1, ih]

lemma nodup_findings {members : List (String × Json)} {found : Findings}
    (hnd : s.fieldNames.Nodup) (h : s.findings members = some found) :
    (found.map Prod.fst).Nodup := by
  rw [map_fst_findings h]
  exact hnd

/-- What was found for a field is what its check came to. -/
lemma get?_findings {members : List (String × Json)} {found : Findings}
    (hnd : s.fieldNames.Nodup) (h : s.findings members = some found) {f : Field}
    (hf : f ∈ s.fields) :
    ∃ r, Entries.get? f.name found = some r ∧
      (f.check (Entries.get? f.name members)).outcome = some r := by
  obtain ⟨p, hp, hname, hr⟩ :
      ∃ p ∈ found, p.1 = f.name ∧ (f.check (Entries.get? f.name members)).outcome = some p.2 := by
    have hall := findings_eq_some_iff.1 h
    clear h
    generalize s.fields = fields at hall hf
    induction hall with
    | nil => simp at hf
    | cons hp _ ih =>
      rcases List.mem_cons.1 hf with rfl | hf
      · exact ⟨_, List.mem_cons_self, hp⟩
      · obtain ⟨p, hp, hq⟩ := ih hf
        exact ⟨p, List.mem_cons_of_mem _ hp, hq⟩
  refine ⟨p.2, Entries.get?_of_mem (nodup_findings hnd h) ?_, hr⟩
  rw [← hname]
  exact hp

lemma Findings.get?_record {found : Findings} (hnd : (found.map Prod.fst).Nodup) (k : String) :
    found.record.get? k = (Entries.get? k found).bind (·.toOption) := by
  rw [Findings.record, Dictionary.get?_ofList_of_nodup, Entries.get?_filterMap hnd]
  exact hnd.sublist (Entries.map_fst_filterMap_sublist _ _)

lemma Findings.get?_errors {found : Findings} (hnd : (found.map Prod.fst).Nodup) (k : String) :
    found.errors.get? k = (Entries.get? k found).bind fun r =>
      match r with
      | .error flaw => some flaw.message
      | .ok _ => none := by
  rw [Findings.errors, FieldErrors.get?_ofList, ← Entries.get?_filterMap hnd]
  congr 2
  funext p
  cases p.2 <;> rfl

lemma validate_object {members : List (String × Json)} {found : Findings}
    (h : s.findings members = some found) :
    s.validate (.object members) = .ofExcept (found.errors.orResult found.record) := by
  simp only [validate, Json.members?, h]
  rfl

/-- What validation gives has the values that the checks of the fields gave. -/
lemma get?_of_validate (hnd : s.fieldNames.Nodup) {body : Json} {record : Record}
    (h : s.validate body = pure record) :
    ∃ members, body = .object members ∧
      (∀ f ∈ s.fields, ∃ v, record.get? f.name = some v ∧
        f.check (Entries.get? f.name members) = pure v) ∧
      ∀ k v, record.get? k = some v → ∃ f ∈ s.fields, f.name = k := by
  cases body with
  | object members =>
    refine ⟨members, rfl, ?_⟩
    cases hfs : s.findings members with
    | none => simp only [validate, Json.members?, hfs] at h; cases h
    | some found =>
      rw [validate_object hfs] at h
      obtain ⟨hempty, rfl⟩ := FieldErrors.orResult_eq_ok_iff.1 (Option.some.inj h)
      have hnf := nodup_findings hnd hfs
      refine ⟨fun f hf => ?_, fun k v hk => ?_⟩
      · obtain ⟨r, hget, hcheck⟩ := get?_findings hnd hfs hf
        have herr := hempty f.name
        rw [Findings.get?_errors hnf, hget] at herr
        cases r with
        | ok v =>
          refine ⟨v, ?_, Attempt.eq_pure_of_outcome hcheck⟩
          rw [Findings.get?_record hnf, hget]
          rfl
        | error flaw => cases herr
      · rw [Findings.get?_record hnf] at hk
        obtain ⟨r, hr, -⟩ := Option.bind_eq_some_iff.1 hk
        have hmem := List.mem_map_of_mem (f := Prod.fst) (Entries.mem_of_get? hr)
        rw [map_fst_findings hfs] at hmem
        exact List.mem_map.1 hmem
  | _ => cases h

/-- If all fields of an object pass with the values of a record, validation gives the record. -/
lemma validate_eq_pure (hnd : s.fieldNames.Nodup) {members : List (String × Json)}
    {record : Record}
    (hall : ∀ f ∈ s.fields, ∃ v, record.get? f.name = some v ∧
      f.check (Entries.get? f.name members) = pure v)
    (hkeys : ∀ k v, record.get? k = some v → ∃ f ∈ s.fields, f.name = k) :
    s.validate (.object members) = pure record := by
  -- nothing but values is found, and they are those of the record
  let found : Findings := s.fields.map fun f =>
    (f.name, .ok ((record.get? f.name).getD (.null f.kind)))
  have hfs : s.findings members = some found := by
    rw [findings_eq_some_iff, List.forall₂_map_right_iff, List.forall₂_same]
    intro f hf
    obtain ⟨v, hv, hc⟩ := hall f hf
    rw [hv, hc]
    exact ⟨rfl, rfl⟩
  have hnf := nodup_findings hnd hfs
  have hget : ∀ f ∈ s.fields, ∃ v, record.get? f.name = some v ∧
      Entries.get? f.name found = some (.ok v) := by
    intro f hf
    obtain ⟨r, hr, hcheck⟩ := get?_findings hnd hfs hf
    obtain ⟨v, hv, hc⟩ := hall f hf
    rw [hc] at hcheck
    exact ⟨v, hv, hr.trans hcheck.symm⟩
  have hnone : ∀ k, (∀ f ∈ s.fields, f.name ≠ k) → Entries.get? k found = none := by
    intro k hk
    refine Entries.get?_eq_none_iff.2 fun p hp => ?_
    obtain ⟨f, hf, rfl⟩ := List.mem_map.1 hp
    exact hk f hf
  rw [validate_object hfs]
  refine congrArg some (FieldErrors.orResult_eq_ok_iff.2 ⟨fun k => ?_, ?_⟩)
  · rw [Findings.get?_errors hnf]
    by_cases hk : ∃ f ∈ s.fields, f.name = k
    · obtain ⟨f, hf, rfl⟩ := hk
      obtain ⟨v, -, hv⟩ := hget f hf
      rw [hv]
      rfl
    · rw [hnone k fun f hf he => hk ⟨f, hf, he⟩]
      rfl
  · refine Dictionary.ext_get? fun k => ?_
    rw [Findings.get?_record hnf]
    by_cases hk : ∃ f ∈ s.fields, f.name = k
    · obtain ⟨f, hf, rfl⟩ := hk
      obtain ⟨v, hv, hv'⟩ := hget f hf
      rw [hv', hv]
      rfl
    · rw [hnone k fun f hf he => hk ⟨f, hf, he⟩]
      cases hr : record.get? k with
      | none => rfl
      | some v => exact absurd (hkeys k v hr) hk

/-- A validated record is accepted. -/
lemma accepts_of_validate (hnd : s.fieldNames.Nodup) {body : Json} {record : Record}
    (h : s.validate body = pure record) : s.Accepts record := by
  obtain ⟨members, -, hall, hkeys⟩ := get?_of_validate hnd h
  refine ⟨fun f hf => ?_, hkeys⟩
  obtain ⟨v, hv, hc⟩ := hall f hf
  exact ⟨v, hv, Field.check_eq_pure hc⟩

/-- A record that is accepted has the fields of the schema and nothing else. -/
lemma Accepts.keys_perm {record : Record} (h : s.Accepts record)
    (hnd : s.fieldNames.Nodup) : record.keys.Perm s.fieldNames := by
  refine (List.perm_ext_iff_of_nodup record.ordered.nodup hnd).2 fun k => ?_
  constructor
  · intro hk
    obtain ⟨p, hp, rfl⟩ := List.mem_map.1 hk
    obtain ⟨f, hf, hname⟩ := h.fields p.1 p.2 (Dictionary.mem_entries_iff.1 hp)
    exact List.mem_map.2 ⟨f, hf, hname⟩
  · intro hk
    obtain ⟨f, hf, rfl⟩ := List.mem_map.1 hk
    obtain ⟨v, hv, -⟩ := h.passes f hf
    exact List.mem_map.2 ⟨_, Dictionary.mem_entries_iff.2 hv, rfl⟩

end Schema

end BookingOffice
