import BookingOffice.Catalogue
import BookingOffice.Proofs.Listing.Written
import BookingOffice.Proofs.Schema.Verdict

/-!
Which payloads and queries get no answer. Both are read without a failure of their own kind, with
one exception: a time that leaves the calendar when it is moved to UTC ends the work, and neither a
result nor an error comes of it. Of a query this takes a pair that is read at all, the first of its
name, on a field that holds times.

* `Condition.Strays`: whether the text of a condition holds such a time where it is read;
* `Parameters.findings_eq_none_iff`: which pair of a query ends the work;
* `Schema.answers_unless_straying`: nothing else does.
-/

namespace BookingOffice

/-- Reading a text is abandoned for the times that leave the calendar. -/
lemma Value.read_eq_abandon_iff {kind : Kind} {s : String} :
    read kind s = .abandon ↔ kind = .timestamp ∧ Rfc3339.Strays s := by
  cases kind with
  | timestamp =>
    rw [read, readTimestamp_eq_abandon_iff]
    exact (and_iff_right rfl).symm
  | _ => exact iff_of_false nofun nofun

/-- A timestamp is read from the times that stay in the calendar. -/
lemma Value.exists_readTimestamp_eq_pure_iff {s : String} :
    (∃ v, readTimestamp s = pure v) ↔
      (∃ m, Rfc3339.read? s = some m) ∧ ¬ Rfc3339.Strays s := by
  constructor
  · rintro ⟨v, h⟩
    obtain ⟨m, -, hm, -⟩ := readTimestamp_eq_pure h
    refine ⟨⟨m, hm⟩, fun hstrays => ?_⟩
    exact Attempt.pure_ne_abandon v (h.symm.trans (readTimestamp_eq_abandon_iff.2 hstrays))
  · rintro ⟨⟨m, hm⟩, hstays⟩
    cases ht : m.toInstant? with
    | none => exact absurd ⟨m, hm, (Rfc3339.toInstant?_eq_none_iff hm).1 ht⟩ hstays
    | some t => exact ⟨.timestamp t.truncated, by simp only [readTimestamp, hm, ht]⟩

/-! ### Conditions -/

namespace Condition

/-- Whether the text of a condition on times holds a time that leaves the calendar, at a place where
it is read. The upper bound of a range is not read if the lower one is no time. -/
inductive Strays : FilterMode → String → Prop
  | plain {mode : FilterMode} {s : String} (whole : mode = .range → cutRange? s.toList = none)
    (strays : Rfc3339.Strays s) : Strays mode s
  | low {s : String} {low high : List Char} (cut : cutRange? s.toList = some (low, high))
    (strays : Rfc3339.Strays (String.ofList low)) : Strays .range s
  | high {s : String} {low high : List Char} (cut : cutRange? s.toList = some (low, high))
    (read : low = [] ∨ ∃ m, Rfc3339.read? (String.ofList low) = some m)
    (strays : Rfc3339.Strays (String.ofList high)) : Strays .range s

variable {kind : Kind}

lemma readValue_eq_abandon_iff {s : String} :
    readValue kind s = .abandon ↔ kind = .timestamp ∧ Rfc3339.Strays s := by
  rw [readValue, Attempt.adapt_eq_abandon_iff, Value.read_eq_abandon_iff]

lemma readBound_eq_abandon_iff {cs : List Char} :
    readBound kind cs = .abandon ↔ kind = .timestamp ∧ Rfc3339.Strays (String.ofList cs) := by
  rw [readBound]
  split
  · next hempty =>
    obtain rfl := List.isEmpty_iff.1 hempty
    refine iff_of_false (Attempt.pure_ne_abandon none) ?_
    rintro ⟨-, m, hm, -⟩
    cases hm
  · rw [Attempt.map_eq_abandon_iff, readValue_eq_abandon_iff]

/-- A bound on times is read if it is left out, or a time that stays in the calendar. -/
lemma readBound_eq_pure_iff {cs : List Char} :
    (∃ bound, readBound .timestamp cs = pure bound) ↔
      (cs = [] ∨ ∃ m, Rfc3339.read? (String.ofList cs) = some m) ∧
        ¬ Rfc3339.Strays (String.ofList cs) := by
  rw [readBound]
  split
  · next hempty =>
    obtain rfl := List.isEmpty_iff.1 hempty
    refine iff_of_true ⟨none, rfl⟩ ⟨Or.inl rfl, ?_⟩
    rintro ⟨m, hm, -⟩
    cases hm
  · next hne =>
    rw [or_iff_right (by simpa using hne), ← Value.exists_readTimestamp_eq_pure_iff]
    constructor
    · rintro ⟨bound, h⟩
      obtain ⟨v, hv, -⟩ := Attempt.map_eq_pure_iff.1 h
      exact ⟨v, Attempt.adapt_eq_pure_iff.1 hv⟩
    · rintro ⟨v, hv⟩
      exact ⟨some v, Attempt.map_eq_pure_iff.2 ⟨v, Attempt.adapt_eq_pure_iff.2 hv, rfl⟩⟩

lemma readRange_eq_abandon_iff {low high : List Char} :
    readRange kind low high = .abandon ↔ kind = .timestamp ∧
      (Rfc3339.Strays (String.ofList low) ∨
        (low = [] ∨ ∃ m, Rfc3339.read? (String.ofList low) = some m) ∧
          Rfc3339.Strays (String.ofList high)) := by
  have hrest : ∀ lo : Option Value, (readBound kind high >>= fun hi =>
      if lo.isNone && hi.isNone then throw .noBound
      else pure (.between lo hi : Condition)) = .abandon ↔ readBound kind high = .abandon := by
    intro lo
    rw [Attempt.bind_eq_abandon_iff, or_iff_left]
    rintro ⟨hi, -, h⟩
    split at h
    · exact Attempt.throw_ne_abandon _ h
    · exact Attempt.pure_ne_abandon _ h
  have hsplit : readRange kind low high = .abandon ↔ readBound kind low = .abandon ∨
      (∃ lo, readBound kind low = pure lo) ∧ readBound kind high = .abandon := by
    rw [readRange, Attempt.bind_eq_abandon_iff, ← exists_and_right]
    refine or_congr_right (exists_congr fun lo => and_congr_right fun _ => ?_)
    rw [← hrest lo]
    rfl
  rw [hsplit, readBound_eq_abandon_iff, readBound_eq_abandon_iff]
  by_cases hkind : kind = .timestamp
  · subst hkind
    rw [readBound_eq_pure_iff]
    simp only [true_and]
    by_cases hlow : Rfc3339.Strays (String.ofList low)
    · exact iff_of_true (Or.inl hlow) (Or.inl hlow)
    · rw [or_iff_right hlow, or_iff_right hlow, and_iff_left hlow]
  · exact iff_of_false (by simp [hkind]) fun h => hkind h.1

/-- Reading a condition is abandoned for the times that leave the calendar. -/
lemma read_eq_abandon_iff {mode : FilterMode} {s : String} :
    read kind mode s = .abandon ↔ kind = .timestamp ∧ Strays mode s := by
  simp only [read]
  split
  · rw [Attempt.map_eq_abandon_iff, readValue_eq_abandon_iff]
    exact iff_of_false (by rintro ⟨⟨⟩, -⟩) (by rintro ⟨⟨⟩, -⟩)
  · next low high hcut =>
    rw [readRange_eq_abandon_iff]
    refine and_congr_right fun _ => ⟨?_, fun h => ?_⟩
    · rintro (hlow | ⟨hread, hhigh⟩)
      · exact .low hcut hlow
      · exact .high hcut hread hhigh
    · cases h with
      | plain whole _ => rw [whole rfl] at hcut; cases hcut
      | low cut strays =>
        cases hcut.symm.trans cut
        exact Or.inl strays
      | high cut read strays =>
        cases hcut.symm.trans cut
        exact Or.inr ⟨read, strays⟩
  · next hcontains hrange =>
    rw [Attempt.map_eq_abandon_iff, readValue_eq_abandon_iff]
    refine and_congr_right fun _ => ⟨fun h => ?_, fun h => ?_⟩
    · refine .plain (fun hmode => ?_) h
      exact Option.eq_none_iff_forall_ne_some.2 fun p hp => hrange p.1 p.2 hmode hp
    · cases h with
      | plain _ strays => exact strays
      | low cut _ => exact absurd cut (hrange _ _ rfl)
      | high cut _ _ => exact absurd cut (hrange _ _ rfl)

end Condition

/-! ### Pairs -/

namespace Setting

variable {fields : List Field} {key value : String}

/-- The pairs that are no filters are read without fail, or have a flaw. -/
lemma read_ne_abandon_of_mem_controls (h : key ∈ controls) :
    read fields key value ≠ .abandon := by
  simp only [controls, List.mem_cons, List.not_mem_nil, or_false] at h
  obtain rfl | rfl | rfl | rfl := h <;> exact Attempt.ofExcept_ne_abandon _

/-- Reading a pair of a query is abandoned if it is on a field that holds times and its value
strays. -/
lemma read_eq_abandon_iff :
    read fields key value = .abandon ↔ key ∉ controls ∧ ∃ f, filterable? fields key = some f ∧
      f.kind = .timestamp ∧ Condition.Strays (f.filter.getD .exact) value := by
  by_cases hkey : key ∈ controls
  · exact iff_of_false (read_ne_abandon_of_mem_controls hkey) fun h => h.1 hkey
  · rw [read_of_not_mem_controls hkey, and_iff_right hkey, Attempt.map_eq_abandon_iff, readFilter]
    split
    · next hnone => exact iff_of_false (Attempt.throw_ne_abandon _) (by simp [hnone])
    · next f hf =>
      rw [Attempt.map_eq_abandon_iff, Attempt.adapt_eq_abandon_iff, Condition.read_eq_abandon_iff]
      simp [hf]

end Setting

namespace Parameters

variable {fields : List Field}

/-- Whether a pair of a query is read, being the first of its name. -/
def IsRead (seen : List String) (pairs : List (String × String)) (key value : String) : Prop :=
  ∃ before after, pairs = before ++ (key, value) :: after ∧ key ∉ seen ∧ key ∉ before.map Prod.fst

/-- Of the pairs of a query the first one is read if its name is new, and the others as if its name
had been seen before. -/
lemma isRead_cons {seen : List String} {pair : String × String} {pairs : List (String × String)}
    {key value : String} :
    IsRead seen (pair :: pairs) key value ↔
      pair = (key, value) ∧ key ∉ seen ∨ IsRead (pair.1 :: seen) pairs key value := by
  constructor
  · rintro ⟨before, after, heq, hkey, hbefore⟩
    cases before with
    | nil => exact Or.inl ⟨(List.cons.inj heq).1, hkey⟩
    | cons p before =>
      obtain ⟨rfl, hpairs⟩ := List.cons.inj heq
      obtain ⟨hne, hbefore⟩ := List.ne_and_not_mem_of_not_mem_cons hbefore
      exact Or.inr ⟨before, after, hpairs, List.not_mem_cons_of_ne_of_not_mem hne hkey, hbefore⟩
  · rintro (⟨rfl, hkey⟩ | ⟨before, after, rfl, hkey, hbefore⟩)
    · exact ⟨[], pairs, rfl, hkey, List.not_mem_nil⟩
    · obtain ⟨hne, hkey⟩ := List.ne_and_not_mem_of_not_mem_cons hkey
      exact ⟨pair :: before, after, rfl, hkey, List.not_mem_cons_of_ne_of_not_mem hne hbefore⟩

/-- Reading the pairs of a query is abandoned if reading one of those that are read is. -/
lemma findings_eq_none_iff {seen : List String} {pairs : List (String × String)} :
    findings fields seen pairs = none ↔
      ∃ key value, IsRead seen pairs key value ∧ Setting.read fields key value = .abandon := by
  induction pairs generalizing seen with
  | nil => exact iff_of_false nofun (by simp [IsRead])
  | cons pair pairs ih =>
    obtain ⟨name, text⟩ := pair
    simp only [isRead_cons]
    rw [findings]
    split
    · next hseen =>
      have hrest : (findings fields seen pairs >>= fun others =>
          some ((name, .error .repeated) :: others) : Option Findings) = none ↔
            findings fields seen pairs = none := by
        cases findings fields seen pairs <;> simp
      refine hrest.trans (ih.trans ?_)
      refine exists_congr fun key => exists_congr fun value => and_congr_left fun _ => ?_
      -- a name that has been seen twice is as good as one that has been seen once
      have hsame : IsRead (name :: seen) pairs key value ↔ IsRead seen pairs key value := by
        simp only [IsRead, List.mem_cons, not_or, and_iff_right_of_imp
          (fun h he => h (he ▸ hseen) : key ∉ seen → key ≠ name)]
      rw [hsame, or_iff_right]
      rintro ⟨⟨⟩, hno⟩
      exact hno hseen
    · next hseen =>
      have hrest : ((Setting.read fields name text).outcome >>= fun finding =>
          findings fields (name :: seen) pairs >>= fun others =>
            some ((name, finding) :: others) : Option Findings) = none ↔
          Setting.read fields name text = .abandon ∨
            findings fields (name :: seen) pairs = none := by
        rw [← Attempt.outcome_eq_none_iff]
        cases (Setting.read fields name text).outcome with
        | none => simp
        | some finding => cases findings fields (name :: seen) pairs <;> simp
      refine hrest.trans ?_
      rw [ih]
      constructor
      · rintro (hread | ⟨key, value, hisRead, hread⟩)
        · exact ⟨name, text, Or.inl ⟨rfl, hseen⟩, hread⟩
        · exact ⟨key, value, Or.inr hisRead, hread⟩
      · rintro ⟨key, value, ⟨⟨⟩, -⟩ | hisRead, hread⟩
        · exact Or.inl hread
        · exact Or.inr ⟨key, value, hisRead, hread⟩

/-- Reading a query is abandoned if reading one of its pairs is. -/
lemma ofPairs_eq_abandon_iff {pairs : List (String × String)} :
    ofPairs fields pairs = .abandon ↔ findings fields [] pairs = none := by
  rw [ofPairs]
  cases findings fields [] pairs with
  | none => exact iff_of_true rfl rfl
  | some found => exact iff_of_false (Attempt.ofExcept_ne_abandon _) (Option.some_ne_none _)

end Parameters

/-! ### Payloads and queries -/

namespace Schema

/-- What it means that payloads and queries are answered, by a result or by errors, unless a time
leaves the calendar. -/
structure Answers (s : Schema) : Prop where
  /-- A payload has no answer if a field that holds times is one that leaves the calendar. -/
  payload : ∀ body, (s.validate body).outcome = none ↔ ∃ members, body = .object members ∧
    ∃ f ∈ s.fields, f.kind = .timestamp ∧
      ∃ text, Entries.get? f.name members = some (.string text) ∧ Rfc3339.Strays text
  /-- A query has none if a filter on such a field has one where it is read. -/
  query : ∀ query, (Parameters.ofQuery s.fields query).outcome = none ↔
    ∃ key value, Parameters.IsRead [] (QueryText.pairs (query.getD "")) key value ∧
      key ∉ Setting.controls ∧ ∃ f, Setting.filterable? s.fields key = some f ∧
        f.kind = .timestamp ∧ Condition.Strays (f.filter.getD .exact) value
  /-- Of texts only these times have none. -/
  text : ∀ kind text, (Value.read kind text).outcome = none ↔
    kind = .timestamp ∧ Rfc3339.Strays text
  /-- A time that stays is moved to UTC and cut to microseconds. -/
  time : ∀ text m, Rfc3339.read? text = some m → ¬ Rfc3339.Strays text →
    ∃ t, Value.read .timestamp text = pure (.timestamp t) ∧
      t.nanos = m.utcNanos - m.utcNanos % 1000
  /-- What is no time is said to be none. -/
  noTime : ∀ text, Rfc3339.read? text = none → Value.read .timestamp text = throw .notTimestamp

/-- Payloads and queries are answered, unless a time leaves the calendar. -/
theorem answers_unless_straying (s : Schema) : s.Answers where
  payload body := by
    rw [Attempt.outcome_eq_none_iff, validate_eq_abandon_iff]
    simp only [Field.check_eq_abandon_iff]
    refine exists_congr fun members => and_congr_right fun _ => exists_congr fun f =>
      and_congr_right fun _ => ?_
    constructor
    · rintro ⟨_, hget, hkind, text, rfl, hstrays⟩
      exact ⟨hkind, text, hget, hstrays⟩
    · rintro ⟨hkind, text, hget, hstrays⟩
      exact ⟨_, hget, hkind, text, rfl, hstrays⟩
  query query := by
    rw [Attempt.outcome_eq_none_iff, Parameters.ofQuery, Parameters.ofPairs_eq_abandon_iff,
      Parameters.findings_eq_none_iff]
    simp only [Setting.read_eq_abandon_iff]
  text kind text := Attempt.outcome_eq_none_iff.trans Value.read_eq_abandon_iff
  time text m hm hstays := by
    obtain ⟨v, hv⟩ := Value.exists_readTimestamp_eq_pure_iff.2 ⟨⟨m, hm⟩, hstays⟩
    obtain ⟨m', t, hm', ht, rfl⟩ := Value.readTimestamp_eq_pure hv
    cases hm.symm.trans hm'
    refine ⟨t.truncated, hv, ?_⟩
    rw [← Instant.ofNanos?_eq_some_iff.1 ht]
    rfl
  noTime text h := by
    change Value.readTimestamp text = _
    rw [Value.readTimestamp, h]

/-- The last second of the year 9999 has no UTC time on a clock that is an hour behind UTC. -/
theorem unanswered_end_of_9999 :
    (Catalogue.payment.validate (.object [("amount", .int 5), ("method", .string "card"),
      ("paid_at", .string "9999-12-31T23:59:59-01:00")])).outcome = none ∧
    (Parameters.ofQuery Catalogue.payment.fields
      (some "paid_at=9999-12-31T23:59:59-01:00")).outcome = none ∧
    (Value.read .timestamp "9999-12-31T23:59:59-01:00").outcome = none := by
  decide +kernel

end Schema

end BookingOffice
