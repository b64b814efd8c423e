import BookingOffice.Json.Printer
import BookingOffice.Proofs.Entity.RoundTrip
import BookingOffice.Proofs.Listing.Meaning
import BookingOffice.Proofs.Listing.Points
import BookingOffice.Proofs.Number.Written

/-!
Values in queries. What details show of a value can be put into a query as it is written there, and
is read as a condition that the value fulfils. Only texts may have two points in a row, so that no
other value is taken for a range.

* `Json.queryText?`: what stands for a value of a detail in a query;
* `Value.read_of_queryText?`: it is read as that value;
* `Value.not_infix_of_queryText?`: it is not cut as a range;
* `Condition.exists_read`: it is read as a condition that the value fulfils.
-/

namespace BookingOffice

/-- The text that stands for a value of a detail in a query: a string without its quotes, a number
as it is. -/
def Json.queryText? : Json → Option String
  | .string s => some s
  | .number n => some n.write
  | _ => none

namespace Value

/-- Values are the same as themselves. -/
lemma same_refl (v : Value) : v.Same v := by
  cases v <;> rfl

variable {v : Value} {kind : Kind} {text : String}

/-- Only what is written as null has no text. -/
lemma exists_queryText?_of_ne_null (h : v.toJson ≠ .null) :
    ∃ text, v.toJson.queryText? = some text := by
  cases v with
  | text s => exact ⟨s, rfl⟩
  | uuid u => exact ⟨u.toText, rfl⟩
  | integer i => exact ⟨toString i, rfl⟩
  | real x => exact ⟨x.toText, rfl⟩
  | timestamp t =>
    rw [toJson] at h ⊢
    cases ht : Rfc3339.writeInstant? t with
    | some s => exact ⟨s, rfl⟩
    | none =>
      rw [ht] at h
      exact absurd rfl h
  | null kind => exact absurd rfl h

/-- The text of a time is its written form. -/
lemma writeInstant?_of_queryText? {t : Instant} (h : (timestamp t).toJson.queryText? = some text) :
    Rfc3339.writeInstant? t = some text := by
  rw [toJson] at h
  cases ht : Rfc3339.writeInstant? t with
  | some s =>
    rw [ht] at h
    exact h
  | none =>
    rw [ht] at h
    cases h

/-- A value is read back from its text. -/
theorem read_of_queryText? (hv : v.OfKind kind) (h : v.toJson.queryText? = some text) :
    read kind text = pure v := by
  obtain rfl := hv.kind
  have hplain := hv.plain
  cases v with
  | text s =>
    obtain rfl := Option.some.inj h
    exact congrArg Attempt.ofExcept (if_neg hplain)
  | uuid u =>
    obtain rfl := Option.some.inj h
    change Attempt.ofExcept (readUuid u.toText) = _
    rw [readUuid, Uuid.ofText?_toText]
    rfl
  | integer i =>
    obtain rfl := Option.some.inj h
    change Attempt.ofExcept (readInteger (toString i)) = _
    rw [readInteger, Text.readInt_toString]
    · rfl
    · simp only [IsPlain, Json.minInt, Json.maxInt] at hplain
      omega
  | real x =>
    obtain rfl := Option.some.inj h
    change Attempt.ofExcept (readReal x.toText) = _
    rw [readReal, x.read?_toText]
    rfl
  | timestamp t => exact readTimestamp_of_writeInstant? (writeInstant?_of_queryText? h) hplain
  | null kind => cases hv.notNull

end Value

/-! ### Points -/

lemma Text.Hex.count_point_digits (width n : Nat) : (digits width n).count '.' = 0 := by
  have hdigit : ∀ d < 16, (digit d != '.') = true := by decide
  induction width generalizing n with
  | zero => rfl
  | succ width ih =>
    have hlast := hdigit (n % 16) (Nat.mod_lt n (by decide))
    rw [digits, List.count_append, ih, List.count_singleton, if_neg (by simpa using hlast)]

/-- There is no point in a written identifier. -/
lemma Uuid.count_point_toText (u : Uuid) : u.toText.toList.count '.' = 0 := by
  rw [toText, String.toList_ofList, toChars]
  simp [List.count_append, Text.Hex.count_point_digits]

/-- There are no two points in a row in the text of a value that is no text. -/
lemma Value.not_infix_of_queryText? {v : Value} {kind : Kind} {text : String} (hv : v.OfKind kind)
    (hkind : kind ≠ .text) (h : v.toJson.queryText? = some text) :
    ¬ ['.', '.'] <:+: text.toList := by
  have hread := read_of_queryText? hv h
  cases kind with
  | text => exact absurd rfl hkind
  | uuid =>
    cases v with
    | uuid u =>
      obtain rfl := Option.some.inj h
      exact Text.not_infix_of_count_le ((Uuid.count_point_toText u).trans_le (Nat.zero_le 1))
    | null kind => cases hv.notNull
    | _ => cases hv.kind
  | integer => exact not_infix_of_read (Or.inl rfl) hread
  | real => exact not_infix_of_read (Or.inr (Or.inl rfl)) hread
  | timestamp => exact not_infix_of_read (Or.inr (Or.inr rfl)) hread

namespace Condition

/-- The text of a value is read as a condition that the value fulfils. Only texts may have points in
a row, and they are not filtered by range. -/
theorem exists_read {kind : Kind} {mode : FilterMode} {v : Value} {text : String}
    (hv : v.OfKind kind) (htext : v.toJson.queryText? = some text)
    (hmode : mode = .range → kind ≠ .text) : ∃ c, read kind mode text = pure c ∧ c.Holds v := by
  have hread := Value.read_of_queryText? hv htext
  by_cases hcontains : mode = .contains ∧ kind = .text
  · obtain ⟨rfl, rfl⟩ := hcontains
    refine ⟨contains text, read_eq_pure_iff.2 (.contains hread), ?_⟩
    cases v with
    | text s =>
      obtain rfl : s = text := Option.some.inj htext
      exact ⟨s, rfl, List.infix_rfl⟩
    | null kind => cases htext
    | _ => cases hv.kind
  · refine ⟨equals v, read_eq_pure_iff.2 (.equals ?_ ?_ hread), hv.notNull, Value.same_refl v⟩
    · exact fun hmode hkind => hcontains ⟨hmode, hkind⟩
    · exact fun hrange => Value.not_infix_of_queryText? hv (hmode hrange) htext

end Condition

namespace Setting

variable {fields : List Field} {f : Field}

/-- A field that may be filtered by is found under its name. -/
lemma filterable?_of_mem (hnd : (fields.map (·.name)).Nodup) (hf : f ∈ fields)
    (hfilter : f.isFilterable = true) : filterable? fields f.name = some f := by
  have hfound : (filterable? fields f.name).isSome := by
    rw [filterable?, List.find?_isSome]
    exact ⟨f, hf, by rw [hfilter, beq_self_eq_true]; rfl⟩
  obtain ⟨g, hg⟩ := Option.isSome_iff_exists.1 hfound
  obtain ⟨hmem, hname⟩ := filterable?_eq_some hg
  rw [hg, List.inj_on_of_nodup_map hnd hmem hf hname]

/-- A pair that is named after a field is read as a filter on the field. -/
lemma read_of_mem (hnd : (fields.map (·.name)).Nodup) (hf : f ∈ fields)
    (hfilter : f.isFilterable = true) (hcontrols : f.name ∉ controls) {text : String}
    {c : Condition} (hc : Condition.read f.kind (f.filter.getD .exact) text = pure c) :
    read fields f.name text = pure (.filter ⟨f.name, c⟩) :=
  read_eq_pure_iff.2
    (.filter hcontrols (filterable?_of_mem hnd hf hfilter) (Condition.read_eq_pure_iff.1 hc))

/-- A positive number is read back from its text. -/
lemma isCount_toString {n : Nat} (hpos : 1 ≤ n) (hlt : n < 2 ^ 64) : IsCount (toString n) n :=
  ⟨(Text.readNat_eq_ok_iff.1 (Text.readNat_toString (Nat.le_refl n))).1, hpos, hlt⟩

lemma read_page {n : Nat} (hpos : 1 ≤ n) (hlt : n < 2 ^ 64) :
    read fields "page" (toString n) = pure (.page n) :=
  read_eq_pure_iff.2 (.page (isCount_toString hpos hlt))

lemma read_perPage {n : Nat} (hpos : 1 ≤ n) (hle : n ≤ maxPerPage) :
    read fields "per_page" (toString n) = pure (.perPage n) :=
  read_eq_pure_iff.2 (.perPage (isCount_toString hpos (hle.trans_lt (by decide))) hle)

end Setting

namespace Parameters

variable {fields : List Field}

/-- What is found is what the pairs set if they can be read and no name is given twice. -/
lemma findings_eq_some {seen : List String} {pairs : List (String × String)}
    {settings : List Setting}
    (h : List.Forall₂ (fun p setting => Setting.read fields p.1 p.2 = pure setting) pairs settings)
    (hseen : ∀ p ∈ pairs, p.1 ∉ seen) (hnd : (pairs.map Prod.fst).Nodup) :
    ∃ found : Findings, findings fields seen pairs = some found ∧
      found.map Prod.snd = settings.map .ok := by
  induction h generalizing seen with
  | nil => exact ⟨[], rfl, rfl⟩
  | @cons p setting pairs settings hread _ ih =>
    obtain ⟨hnew, hnd⟩ := List.nodup_cons.1 hnd
    have hlater : ∀ q ∈ pairs, q.1 ∉ p.1 :: seen := by
      intro q hq hmem
      rcases List.mem_cons.1 hmem with hname | hmem
      · exact hnew (hname ▸ List.mem_map_of_mem hq)
      · exact hseen q (List.mem_cons_of_mem _ hq) hmem
    obtain ⟨found, hfindings, hfound⟩ := ih hlater hnd
    refine ⟨(p.1, .ok setting) :: found, ?_, congrArg (Except.ok setting :: ·) hfound⟩
    rw [findings, if_neg (hseen p List.mem_cons_self), hread, hfindings]
    rfl

/-- A query whose pairs can all be read and are named apart sets what they set, in their order. -/
theorem ofPairs_eq_pure {pairs : List (String × String)} {settings : List Setting}
    (h : List.Forall₂ (fun p setting => Setting.read fields p.1 p.2 = pure setting) pairs settings)
    (hnd : (pairs.map Prod.fst).Nodup) :
    ofPairs fields pairs = pure (settings.foldl withSetting {}) := by
  obtain ⟨found, hfindings, hfound⟩ := findings_eq_some h (fun p _ => List.not_mem_nil) hnd
  have hok : ∀ p ∈ found, ∃ setting, p.2 = .ok setting := by
    intro p hp
    obtain ⟨setting, -, hsetting⟩ := List.mem_map.1 (hfound ▸ List.mem_map_of_mem hp)
    exact ⟨setting, hsetting.symm⟩
  have herrors : found.errors = .empty := by
    rw [Findings.errors, List.filterMap_eq_nil_iff.2]
    · rfl
    · intro p hp
      obtain ⟨setting, hsetting⟩ := hok p hp
      rw [hsetting]
  have hparameters : found.parameters = settings.foldl withSetting {} := by
    have hsettings : found.filterMap (fun p => p.2.toOption) = settings :=
      calc found.filterMap (fun p => p.2.toOption)
          = (found.map Prod.snd).filterMap Except.toOption := by
            rw [List.filterMap_map]
            rfl
        _ = settings := by
          rw [hfound, List.filterMap_map]
          exact List.filterMap_some
    rw [Findings.parameters, hsettings]
  rw [ofPairs, hfindings]
  change Attempt.ofExcept (found.errors.orResult found.parameters) = _
  rw [herrors, hparameters]
  rfl

end Parameters

end BookingOffice
