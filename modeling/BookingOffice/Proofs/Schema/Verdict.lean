import BookingOffice.Catalogue
import BookingOffice.Proofs.Calendar.Strays
import BookingOffice.Proofs.Schema.Accepted

/-!
What the checks of a payload come to, said without them.

A member of a payload spells a value of a kind (`Value.Spelled`), or is a time that leaves the
calendar (`Kind.Strays`), or has a flaw. The verdict on a field (`Field.Verdict`) follows from what
its member spells, from whether the field must have a value and from its rules; it names the first
check that fails.

* `Value.ofJson_eq_pure_iff`, `Value.ofJson_eq_throw_iff`, `Value.ofJson_eq_abandon_iff`: reading a
  member gives what it spells, a flaw, or nothing;
* `Field.outcome_check_iff`: the check of a field comes to its verdict;
* `Schema.get?_errors_iff`, `Schema.errors_eq_none_iff`: the messages for an object are those of the
  flaws of its fields, and there is none if all fields pass;
* `Schema.judges_of_validate`: so a payload is judged exactly, and nothing is left out.
-/

namespace BookingOffice

/-! ### Members -/

/-- Whether a member of a payload, other than a null, stands for a value of a kind. -/
inductive Value.Spelled : Kind → Json → Value → Prop
  | text {s : String} (noNul : '\x00' ∉ s.toList) : Spelled .text (.string s) (.text s)
  | uuid {s : String} {u : Uuid} (read : Uuid.ofText? s = some u) :
    Spelled .uuid (.string s) (.uuid u)
  | integer {i : Int} (fits : Json.minInt ≤ i ∧ i ≤ Json.maxInt) :
    Spelled .integer (.int i) (.integer i)
  | real {json : Json} {x : Binary64} (read : json.asDouble? = some x) :
    Spelled .real json (.real x)
  /-- A time is moved to UTC, and cut down to microseconds toward the past. -/
  | timestamp {s : String} {m : Moment} {t : Instant} (read : Rfc3339.read? s = some m)
    (inUtc : m.toInstant? = some t) : Spelled .timestamp (.string s) (.timestamp t.truncated)

/-- Whether a member is a time that leaves the calendar when it is moved to UTC. -/
def Kind.Strays (kind : Kind) (json : Json) : Prop :=
  kind = .timestamp ∧ ∃ s, json = .string s ∧ Rfc3339.Strays s

/-- What is wrong with a member that stands for no value of a kind. -/
def Kind.flaw : Kind → Json → Flaw
  | .text, .string _ => .nulCharacter
  | .text, _ => .notText
  | .uuid, _ => .notUuid
  | .integer, _ => .notInteger
  | .real, _ => .notNumber
  | .timestamp, _ => .notTimestamp

namespace Value

/-- Reading a timestamp is abandoned for the times that leave the calendar. -/
lemma readTimestamp_eq_abandon_iff {s : String} :
    readTimestamp s = .abandon ↔ Rfc3339.Strays s := by
  rw [readTimestamp]
  constructor
  · intro h
    split at h
    · cases h
    · next m hm =>
      split at h
      · cases h
      · next hnone => exact ⟨m, hm, (Rfc3339.toInstant?_eq_none_iff hm).1 hnone⟩
  · rintro ⟨m, hm, hlate⟩
    simp only [hm, (Rfc3339.toInstant?_eq_none_iff hm).2 hlate]

/-- Otherwise it gives a value or says that the text is no timestamp. -/
lemma readTimestamp_eq_throw {s : String} {flaw : Flaw} (h : readTimestamp s = throw flaw) :
    flaw = .notTimestamp := by
  rw [readTimestamp] at h
  split at h
  · exact (Attempt.throw_injective h).symm
  · split at h <;> cases h

/-- Reading a member gives what it stands for. -/
lemma ofJson_eq_pure_iff {kind : Kind} {json : Json} {v : Value} :
    ofJson kind json = pure v ↔ Spelled kind json v := by
  constructor
  · intro h
    cases kind with
    | text =>
      cases json with
      | string s =>
        obtain ⟨rfl, hs⟩ := ofText_eq_ok (Option.some.inj h)
        exact .text hs
      | _ => cases h
    | uuid =>
      cases json with
      | string s =>
        obtain ⟨u, hu, rfl⟩ := readUuid_eq_ok (Option.some.inj h)
        exact .uuid hu
      | _ => cases h
    | integer =>
      simp only [ofJson, Json.asInt?] at h
      split at h
      · next i hi =>
        obtain rfl := Attempt.pure_injective h
        split at hi
        · obtain ⟨hfits, hvalue⟩ := Option.ite_none_right_eq_some.1 hi
          obtain rfl := Option.some.inj hvalue
          exact .integer hfits
        · cases hi
      · cases h
    | real =>
      simp only [ofJson] at h
      split at h
      · next x hx =>
        obtain rfl := Attempt.pure_injective h
        exact .real hx
      · cases h
    | timestamp =>
      cases json with
      | string s =>
        obtain ⟨m, t, hm, ht, rfl⟩ := readTimestamp_eq_pure h
        exact .timestamp hm ht
      | _ => cases h
  · intro h
    cases h with
    | text noNul => exact congrArg Attempt.ofExcept (if_neg noNul)
    | uuid read => simp only [ofJson, readUuid, read]; rfl
    | integer fits => simp only [ofJson, Json.int, Json.asInt?, if_pos fits]
    | real read => simp only [ofJson, read]
    | timestamp read inUtc => simp only [ofJson, readTimestamp, read, inUtc]

/-- Reading a member is abandoned for the times that leave the calendar. -/
lemma ofJson_eq_abandon_iff {kind : Kind} {json : Json} :
    ofJson kind json = .abandon ↔ kind.Strays json := by
  constructor
  · intro h
    cases kind with
    | text => cases json <;> cases h
    | uuid => cases json <;> cases h
    | integer => simp only [ofJson] at h; split at h <;> cases h
    | real => simp only [ofJson] at h; split at h <;> cases h
    | timestamp =>
      cases json with
      | string s => exact ⟨rfl, s, rfl, readTimestamp_eq_abandon_iff.1 h⟩
      | _ => cases h
  · rintro ⟨rfl, s, rfl, hs⟩
    exact readTimestamp_eq_abandon_iff.2 hs

lemma ofJson_eq_throw {kind : Kind} {json : Json} {flaw : Flaw}
    (h : ofJson kind json = throw flaw) : flaw = kind.flaw json := by
  cases kind with
  | text =>
    cases json with
    | string s =>
      have hread : ofText s = .error flaw := Option.some.inj h
      rw [ofText] at hread
      split at hread <;> cases hread
      rfl
    | _ => exact (Attempt.throw_injective h).symm
  | uuid =>
    cases json with
    | string s =>
      have hread : readUuid s = .error flaw := Option.some.inj h
      rw [readUuid] at hread
      split at hread <;> cases hread
      rfl
    | _ => exact (Attempt.throw_injective h).symm
  | integer =>
    simp only [ofJson] at h
    split at h
    · cases h
    · exact (Attempt.throw_injective h).symm
  | real =>
    simp only [ofJson] at h
    split at h
    · cases h
    · exact (Attempt.throw_injective h).symm
  | timestamp =>
    cases json with
    | string s => exact readTimestamp_eq_throw h
    | _ => exact (Attempt.throw_injective h).symm

/-- Reading a member fails if it stands for nothing, and does not stray. -/
lemma ofJson_eq_throw_iff {kind : Kind} {json : Json} {flaw : Flaw} :
    ofJson kind json = throw flaw ↔
      (∀ v, ¬ Spelled kind json v) ∧ ¬ kind.Strays json ∧ flaw = kind.flaw json := by
  constructor
  · intro h
    refine ⟨fun v hv => ?_, fun hstrays => ?_, ofJson_eq_throw h⟩
    · exact Attempt.pure_ne_throw v flaw ((ofJson_eq_pure_iff.2 hv).symm.trans h)
    · exact Attempt.throw_ne_abandon flaw (h.symm.trans (ofJson_eq_abandon_iff.2 hstrays))
  · rintro ⟨hspelled, hstrays, rfl⟩
    obtain ⟨v, hv⟩ | ⟨e, he⟩ | ha := (ofJson kind json).eq_pure_or_throw_or_abandon
    · exact absurd (ofJson_eq_pure_iff.1 hv) (hspelled v)
    · rw [he, ofJson_eq_throw he]
    · exact absurd (ofJson_eq_abandon_iff.1 ha) hstrays

end Value

/-! ### Fields -/

/-- A rule says nothing about nulls. -/
lemma Rule.holds_null (rule : Rule) (kind : Kind) : rule.Holds (.null kind) := by
  cases rule <;> trivial

namespace Value.Spelled

variable {kind : Kind} {json : Json} {v : Value}

/-- What stands for a value is there. -/
lemma not_isAbsent (h : Spelled kind json v) : ¬ Field.IsAbsent (some json) := by
  cases h with
  | real read =>
    rintro (⟨⟨⟩⟩ | ⟨⟨⟩⟩)
    cases read
  | _ => simp [Field.IsAbsent, Json.int]

lemma isNull_eq_false (h : Spelled kind json v) : v.isNull = false :=
  (ofJson_eq_pure (ofJson_eq_pure_iff.2 h)).2.1

end Value.Spelled

namespace Field

/-- What a field makes of a value. A required text must not be blank, and the first rule that the
value breaks gives the flaw. -/
inductive Ruling (f : Field) (v : Value) : Except Flaw Value → Prop
  | blank (required : f.required = true) (isBlank : v.isBlank = true) :
    Ruling f v (.error .missing)
  | broken (notBlank : f.required = true → v.isBlank = false) {before after : List Rule}
    {rule : Rule} (rules : f.rules = before ++ rule :: after) (kept : ∀ r ∈ before, r.Holds v)
    (breaks : ¬ rule.Holds v) : Ruling f v (.error rule.flaw)
  | sound (notBlank : f.required = true → v.isBlank = false) (kept : ∀ r ∈ f.rules, r.Holds v) :
    Ruling f v (.ok v)

/-- What a field makes of its member. First of all it may have to be there, and then it has to stand
for a value of the kind of the field. -/
inductive Verdict (f : Field) : Option Json → Except Flaw Value → Prop
  | missing {json : Option Json} (absent : IsAbsent json) (required : f.required = true) :
    Verdict f json (.error .missing)
  | vacant {json : Option Json} (absent : IsAbsent json) (optional : f.required = false) :
    Verdict f json (.ok (.null f.kind))
  | misread {json : Json} (present : ¬ IsAbsent (some json))
    (unread : ∀ v, ¬ Value.Spelled f.kind json v) (stays : ¬ f.kind.Strays json) :
    Verdict f (some json) (.error (f.kind.flaw json))
  | read {json : Json} {v : Value} {result : Except Flaw Value} (present : ¬ IsAbsent (some json))
    (spelled : Value.Spelled f.kind json v) (ruling : f.Ruling v result) :
    Verdict f (some json) result

variable {f : Field} {v : Value} {result : Except Flaw Value}

lemma ruling_checkValue (f : Field) (v : Value) : f.Ruling v (f.checkValue v) := by
  rw [checkValue]
  split
  · next hblank =>
    rw [Bool.and_eq_true] at hblank
    exact .blank hblank.1 hblank.2
  · next hblank =>
    have hnot : f.required = true → v.isBlank = false := by simpa using hblank
    split
    · next rule hfind =>
      obtain ⟨hbreaks, before, after, hrules, hkept⟩ := List.find?_eq_some_iff_append.1 hfind
      exact .broken hnot hrules (by simpa using hkept) (by simpa using hbreaks)
    · next hfind => exact .sound hnot (by simpa using hfind)

/-- The checks of a value come to what the field makes of it. -/
lemma checkValue_eq_iff : f.checkValue v = result ↔ f.Ruling v result := by
  constructor
  · rintro rfl
    exact ruling_checkValue f v
  · intro h
    rw [checkValue]
    cases h with
    | blank required isBlank => rw [if_pos (by rw [required, isBlank]; rfl)]
    | broken notBlank rules kept breaks =>
      rw [if_neg (by simpa using notBlank), List.find?_eq_some_iff_append.2
        ⟨by simpa using breaks, _, _, rules, by simpa using kept⟩]
    | sound notBlank kept =>
      rw [if_neg (by simpa using notBlank), List.find?_eq_none.2 (by simpa using kept)]

/-- The check of a field comes to its verdict. -/
lemma outcome_check_iff {json : Option Json} :
    (f.check json).outcome = some result ↔ f.Verdict json result := by
  constructor
  · intro h
    by_cases habsent : IsAbsent json
    · rw [check_of_isAbsent habsent] at h
      split at h
      · next hrequired =>
        obtain rfl := Option.some.inj h
        exact .missing habsent hrequired
      · next hrequired =>
        obtain rfl := Option.some.inj h
        exact .vacant habsent (by simpa using hrequired)
    · cases json with
      | none => exact absurd (Or.inl rfl) habsent
      | some json =>
        rw [check_some habsent] at h
        obtain ⟨v, hv⟩ | ⟨flaw, hflaw⟩ | ha :=
          (Value.ofJson f.kind json).eq_pure_or_throw_or_abandon
        · rw [hv, pure_bind] at h
          exact .read habsent (Value.ofJson_eq_pure_iff.1 hv)
            (checkValue_eq_iff.1 (Option.some.inj h))
        · rw [hflaw] at h
          obtain ⟨hunread, hstays, rfl⟩ := Value.ofJson_eq_throw_iff.1 hflaw
          obtain rfl := Option.some.inj h
          exact .misread habsent hunread hstays
        · rw [ha] at h
          cases h
  · intro h
    cases h with
    | missing absent required => rw [check_of_isAbsent absent, if_pos required]; rfl
    | vacant absent optional => rw [check_of_isAbsent absent, if_neg (by simp [optional])]; rfl
    | misread present unread stays =>
      rw [check_some present, Value.ofJson_eq_throw_iff.2 ⟨unread, stays, rfl⟩]
      rfl
    | read present spelled ruling =>
      rw [check_some present, Value.ofJson_eq_pure_iff.2 spelled, pure_bind,
        checkValue_eq_iff.2 ruling]
      rfl

/-- The check of a field is abandoned for the times that leave the calendar. -/
lemma check_eq_abandon_iff {json : Option Json} :
    f.check json = .abandon ↔ ∃ j, json = some j ∧ f.kind.Strays j := by
  constructor
  · intro h
    by_cases habsent : IsAbsent json
    · rw [check_of_isAbsent habsent] at h
      split at h <;> cases h
    · cases json with
      | none => exact absurd (Or.inl rfl) habsent
      | some json =>
        rw [check_some habsent, Attempt.bind_eq_abandon_iff] at h
        obtain hread | ⟨v, -, hvalue⟩ := h
        · exact ⟨json, rfl, Value.ofJson_eq_abandon_iff.1 hread⟩
        · cases hvalue
  · rintro ⟨json, rfl, hstrays⟩
    have hpresent : ¬ IsAbsent (some json) := by
      obtain ⟨-, s, rfl, -⟩ := hstrays
      simp [IsAbsent]
    rw [check_some hpresent, Value.ofJson_eq_abandon_iff.2 hstrays]
    rfl

/-- A field makes one thing of a member. -/
lemma Verdict.eq {json : Option Json} {result' : Except Flaw Value} (h : f.Verdict json result)
    (h' : f.Verdict json result') : result = result' :=
  Option.some.inj ((outcome_check_iff.2 h).symm.trans (outcome_check_iff.2 h'))

/-- Whether the member of a field stands for a value, which is a null if there is no member. -/
def Spells (f : Field) (json : Option Json) (v : Value) : Prop :=
  v.isNull = true ∧ IsAbsent json ∨ ∃ j, json = some j ∧ Value.Spelled f.kind j v

/-- A value that passes is what a member is checked to if the member stands for it. -/
lemma Passes.check_eq_pure_iff (hv : f.Passes v) {json : Option Json} :
    f.check json = pure v ↔ f.Spells json v := by
  have houtcome : f.check json = pure v ↔ f.Verdict json (.ok v) :=
    ⟨fun h => outcome_check_iff.1 (congrArg Attempt.outcome h),
      fun h => Attempt.eq_pure_of_outcome (outcome_check_iff.2 h)⟩
  rw [houtcome]
  constructor
  · intro h
    cases h with
    | vacant absent _ => exact Or.inl ⟨rfl, absent⟩
    | read _ spelled ruling => cases ruling; exact Or.inr ⟨_, rfl, spelled⟩
  · rintro (⟨hnull, habsent⟩ | ⟨j, rfl, hspelled⟩)
    · cases hv with
      | vacant optional => exact .vacant habsent optional
      | present _ notNull => rw [notNull] at hnull; cases hnull
    · cases hv with
      | vacant _ => cases hspelled.isNull_eq_false
      | present _ _ _ checked =>
        exact .read hspelled.not_isAbsent hspelled (checkValue_eq_iff.1 checked)

/-- Whether a field with a given member may have a value. -/
structure Suits (f : Field) (json : Option Json) (v : Value) : Prop where
  kind : v.kind = f.kind
  null : v.isNull = true → f.required = false ∧ IsAbsent json
  notBlank : f.required = true → v.isBlank = false
  noNul : ∀ s, v = .text s → '\x00' ∉ s.toList
  rules : ∀ rule ∈ f.rules, rule.Holds v

/-- A field lets no other values pass. -/
lemma Verdict.suits {json : Option Json} (h : f.Verdict json (.ok v)) : f.Suits json v := by
  cases h with
  | vacant absent optional =>
    exact ⟨rfl, fun _ => ⟨optional, absent⟩, fun _ => rfl, nofun, fun rule _ => rule.holds_null _⟩
  | read present spelled ruling =>
    obtain ⟨hkind, hnull, hplain⟩ := Value.ofJson_eq_pure (Value.ofJson_eq_pure_iff.2 spelled)
    cases ruling with
    | sound notBlank kept =>
      refine ⟨hkind, fun h => ?_, notBlank, ?_, kept⟩
      · rw [hnull] at h
        cases h
      · rintro s rfl
        exact hplain

end Field

/-! ### Payloads -/

namespace Schema

/-- What it means that a payload is judged exactly, and that nothing wrong with it is left out. -/
structure Judges (s : Schema) (body : Json) (result : Except FieldErrors Record) : Prop where
  /-- What is no object has this one error, which is none of a field. -/
  notObject : (∀ members, body ≠ .object members) →
    result = .error (.single "body" "must be a JSON object")
  /-- An object passes if each field does by itself. -/
  passes : ∀ members, body = .object members → ((∃ record, result = .ok record) ↔
    ∀ f ∈ s.fields, ∃ v, f.Verdict (Entries.get? f.name members) (.ok v))
  /-- A record has the fields of the schema and nothing else, each with its value. -/
  record : ∀ members, body = .object members → ∀ record, result = .ok record →
    record.keys.Perm s.fieldNames ∧ ∀ f ∈ s.fields, ∃ v, record.get? f.name = some v ∧
      f.Verdict (Entries.get? f.name members) (.ok v) ∧ f.Suits (Entries.get? f.name members) v
  /-- The errors are under the names of the fields that fail, each with its first flaw. -/
  errors : ∀ members, body = .object members → ∀ errors, result = .error errors →
    (∀ k, k ∈ errors.keys ↔
      ∃ f ∈ s.fields, f.name = k ∧ ∃ flaw, f.Verdict (Entries.get? f.name members) (.error flaw)) ∧
    ∀ f ∈ s.fields, ∀ flaw, f.Verdict (Entries.get? f.name members) (.error flaw) →
      errors.get? f.name = some flaw.message
  /-- Other members do not matter. -/
  frame : ∀ members others, body = .object members →
    (∀ f ∈ s.fields, Entries.get? f.name others = Entries.get? f.name members) →
    (s.validate (.object others)).outcome = some result

variable {s : Schema} {members : List (String × Json)} {result : Except FieldErrors Record}

/-- The members that belong to no field do not matter. -/
lemma validate_congr {others : List (String × Json)}
    (h : ∀ f ∈ s.fields, Entries.get? f.name others = Entries.get? f.name members) :
    s.validate (.object others) = s.validate (.object members) := by
  have hfindings : s.findings others = s.findings members :=
    Traversal.mapM_congr fun f hf => by rw [h f hf]
  simp only [validate, Json.members?, hfindings]

lemma exists_findings (h : (s.validate (.object members)).outcome = some result) :
    ∃ found, s.findings members = some found ∧
      found.errors.orResult found.record = result := by
  cases hfs : s.findings members with
  | none => simp only [validate, Json.members?, hfs] at h; cases h
  | some found =>
    rw [validate_object hfs] at h
    exact ⟨found, rfl, Option.some.inj h⟩

/-- The check of a payload is abandoned if that of one of its fields is. -/
lemma validate_eq_abandon_iff {body : Json} :
    s.validate body = .abandon ↔ ∃ members, body = .object members ∧ ∃ f ∈ s.fields,
      f.check (Entries.get? f.name members) = .abandon := by
  have hfindings : ∀ members : List (String × Json),
      s.validate (.object members) = .abandon ↔ s.findings members = none := by
    intro members
    rw [validate]
    simp only [Json.members?]
    cases s.findings members with
    | none => exact iff_of_true rfl rfl
    | some found => exact iff_of_false (Attempt.ofExcept_ne_abandon _) (Option.some_ne_none _)
  constructor
  · intro h
    cases body with
    | object members =>
      obtain ⟨f, hf, hnone⟩ := Traversal.mapM_eq_none_iff.1 ((hfindings members).1 h)
      refine ⟨members, rfl, f, hf, ?_⟩
      rw [← Attempt.outcome_eq_none_iff]
      cases hcheck : (f.check (Entries.get? f.name members)).outcome with
      | none => rfl
      | some finding => rw [hcheck] at hnone; cases hnone
    | _ => cases h
  · rintro ⟨members, rfl, f, hf, hcheck⟩
    refine (hfindings members).2 (Traversal.mapM_eq_none_iff.2 ⟨f, hf, ?_⟩)
    rw [hcheck]
    rfl

/-- What was found for a field is the verdict on it. -/
lemma get?_findings_iff {found : Findings} (hnd : s.fieldNames.Nodup)
    (hfs : s.findings members = some found) {f : Field} (hf : f ∈ s.fields)
    {r : Except Flaw Value} :
    Entries.get? f.name found = some r ↔ f.Verdict (Entries.get? f.name members) r := by
  obtain ⟨r', hget, hcheck⟩ := get?_findings hnd hfs hf
  have hverdict := Field.outcome_check_iff.1 hcheck
  rw [hget]
  constructor
  · intro h
    rwa [← Option.some.inj h]
  · intro h
    rw [h.eq hverdict]

/-- The messages are those of the flaws that fields have. -/
lemma get?_errors_iff {found : Findings} (hnd : s.fieldNames.Nodup)
    (hfs : s.findings members = some found) {k message : String} :
    found.errors.get? k = some message ↔ ∃ f ∈ s.fields, f.name = k ∧
      ∃ flaw : Flaw, f.Verdict (Entries.get? f.name members) (.error flaw) ∧
        flaw.message = message := by
  rw [Findings.get?_errors (nodup_findings hnd hfs)]
  constructor
  · intro h
    obtain ⟨r, hr, hmessage⟩ := Option.bind_eq_some_iff.1 h
    have hk : k ∈ s.fieldNames :=
      map_fst_findings hfs ▸ List.mem_map_of_mem (f := Prod.fst) (Entries.mem_of_get? hr)
    obtain ⟨f, hf, rfl⟩ := List.mem_map.1 hk
    cases r with
    | ok v => cases hmessage
    | error flaw =>
      exact ⟨f, hf, rfl, flaw, (get?_findings_iff hnd hfs hf).1 hr, Option.some.inj hmessage⟩
  · rintro ⟨f, hf, rfl, flaw, hverdict, rfl⟩
    rw [(get?_findings_iff hnd hfs hf).2 hverdict]
    rfl

/-- They are under the names of the fields that fail. -/
lemma mem_keys_errors_iff {found : Findings} (hnd : s.fieldNames.Nodup)
    (hfs : s.findings members = some found) {k : String} :
    k ∈ found.errors.keys ↔ ∃ f ∈ s.fields, f.name = k ∧
      ∃ flaw, f.Verdict (Entries.get? f.name members) (.error flaw) := by
  rw [Dictionary.keys, Entries.mem_map_fst_iff]
  constructor
  · rintro ⟨message, hmessage⟩
    obtain ⟨f, hf, hname, flaw, hverdict, -⟩ := (get?_errors_iff hnd hfs).1 hmessage
    exact ⟨f, hf, hname, flaw, hverdict⟩
  · rintro ⟨f, hf, hname, flaw, hverdict⟩
    exact ⟨flaw.message, (get?_errors_iff hnd hfs).2 ⟨f, hf, hname, flaw, hverdict, rfl⟩⟩

/-- There is no message if all fields pass. -/
lemma errors_eq_none_iff {found : Findings} (hnd : s.fieldNames.Nodup)
    (hfs : s.findings members = some found) :
    (∀ k, found.errors.get? k = none) ↔
      ∀ f ∈ s.fields, ∃ v, f.Verdict (Entries.get? f.name members) (.ok v) := by
  constructor
  · intro hnone f hf
    obtain ⟨r, hget, -⟩ := get?_findings hnd hfs hf
    have hverdict := (get?_findings_iff hnd hfs hf).1 hget
    cases r with
    | ok v => exact ⟨v, hverdict⟩
    | error flaw =>
      have hsome := (get?_errors_iff hnd hfs).2 ⟨f, hf, rfl, flaw, hverdict, rfl⟩
      rw [hnone] at hsome
      cases hsome
  · intro hall k
    refine Option.eq_none_iff_forall_ne_some.2 fun message hmessage => ?_
    obtain ⟨f, hf, -, flaw, hverdict, -⟩ := (get?_errors_iff hnd hfs).1 hmessage
    obtain ⟨v, hv⟩ := hall f hf
    cases hv.eq hverdict

/-- The check of a payload judges it exactly. -/
theorem judges_of_validate (hnd : s.fieldNames.Nodup) {body : Json}
    (h : (s.validate body).outcome = some result) : s.Judges body result where
  notObject hbody := by
    cases body with
    | object members => exact absurd rfl (hbody members)
    | _ => exact (Option.some.inj h).symm
  passes members hbody := by
    subst hbody
    obtain ⟨found, hfs, rfl⟩ := exists_findings h
    rw [← errors_eq_none_iff hnd hfs]
    constructor
    · rintro ⟨record, hok⟩
      exact (FieldErrors.orResult_eq_ok_iff.1 hok).1
    · intro hnone
      exact ⟨found.record, FieldErrors.orResult_eq_ok_iff.2 ⟨hnone, rfl⟩⟩
  record members hbody record hok := by
    subst hbody hok
    have hvalidate := Attempt.eq_pure_of_outcome h
    refine ⟨(accepts_of_validate hnd hvalidate).keys_perm hnd, fun f hf => ?_⟩
    obtain ⟨_, ⟨⟩, hall, -⟩ := get?_of_validate hnd hvalidate
    obtain ⟨v, hv, hcheck⟩ := hall f hf
    have hverdict := Field.outcome_check_iff.1 (congrArg Attempt.outcome hcheck)
    exact ⟨v, hv, hverdict, hverdict.suits⟩
  errors members hbody errors herror := by
    subst hbody
    obtain ⟨found, hfs, hresult⟩ := exists_findings h
    obtain rfl := FieldErrors.eq_of_orResult_eq_error (hresult.trans herror)
    refine ⟨fun k => mem_keys_errors_iff hnd hfs, fun f hf flaw hverdict => ?_⟩
    exact (get?_errors_iff hnd hfs).2 ⟨f, hf, rfl, flaw, hverdict, rfl⟩
  frame members others hbody hothers := by
    subst hbody
    rw [validate_congr hothers, h]

/-- A passenger with a flaw of each sort. The first flaw of a field counts. -/
theorem judges_unsound_passenger :
    let body : Json := .object [("document_number", .string "12a"),
      ("document_type_uuid", .int 5), ("first_name", .string " \t"),
      ("last_name", .string "Gar\x00ía"), ("nickname", .null)]
    let errors : FieldErrors := .ofList [("first_name", "is required"),
      ("last_name", "must not contain NUL characters"),
      ("document_type_uuid", "must be a valid UUID"),
      ("document_number", "must contain only digits"), ("passenger_type_uuid", "is required")]
    Catalogue.passenger.fieldNames.Nodup ∧
      (Catalogue.passenger.validate body).outcome = some (.error errors) ∧
      Catalogue.passenger.Judges body (.error errors) := by
  intro body errors
  have hnames : Catalogue.passenger.fieldNames.Nodup := by decide
  have hvalidate : (Catalogue.passenger.validate body).outcome = some (.error errors) := by
    decide +kernel
  exact ⟨hnames, hvalidate, judges_of_validate hnames hvalidate⟩

end Schema

end BookingOffice
