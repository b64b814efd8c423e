import BookingOffice.Proofs.Listing.Verdict
import BookingOffice.Proofs.Schema.Accepted

/-!
What queries ask for once they have been read.

A condition fits a kind (`Condition.Fits`) if the values in it are of the kind, and parameters are
accepted for given fields (`Parameters.Accepted`) if they filter and sort by these fields, each
with a condition that fits it, and ask for a page that there is. No pair of a query can set
anything else.

* `Value.read_eq_pure`: a value that a query gives is one of the wanted kind;
* `Condition.Spelled.fits`: a condition fits the kind that its text is read for;
* `Setting.accepted_of_read`: what one pair sets is accepted;
* `Parameters.accepted_of_ofPairs`: so is what all pairs set together.
-/

namespace BookingOffice

/-! ### Values -/

/-- Whether a value is one of a kind as reading leaves it, and no null. -/
structure Value.OfKind (kind : Kind) (v : Value) : Prop where
  kind : v.kind = kind
  notNull : v.isNull = false
  plain : v.IsPlain

/-- A value that a query gives is one of the wanted kind. -/
lemma Value.read_eq_pure {kind : Kind} {s : String} {v : Value} (h : read kind s = pure v) :
    v.OfKind kind := by
  cases kind with
  | text =>
    obtain ⟨rfl, hs⟩ := ofText_eq_ok (Option.some.inj h)
    exact ⟨rfl, rfl, hs⟩
  | uuid =>
    obtain ⟨u, -, rfl⟩ := readUuid_eq_ok (Option.some.inj h)
    exact ⟨rfl, rfl, trivial⟩
  | integer =>
    have hread : readInteger s = .ok v := Option.some.inj h
    rw [readInteger] at hread
    split at hread
    · next i hi =>
      cases hread
      obtain ⟨hlow, hhigh⟩ := Text.readInt_mem hi
      refine ⟨rfl, rfl, ?_, ?_⟩
      · simp only [Json.minInt]
        omega
      · simp only [Json.maxInt]
        omega
    · cases hread
  | real =>
    have hread : readReal s = .ok v := Option.some.inj h
    rw [readReal] at hread
    split at hread
    · cases hread
      exact ⟨rfl, rfl, trivial⟩
    · cases hread
  | timestamp =>
    obtain ⟨m, t, -, -, rfl⟩ := readTimestamp_eq_pure h
    exact ⟨rfl, rfl, truncated_nanos_mod t⟩

/-! ### Conditions -/

namespace Condition

/-- Whether a condition can be set on values of a kind. -/
def Fits (kind : Kind) : Condition → Prop
  | equals v => v.OfKind kind
  | contains _ => kind = .text
  | between low high =>
    (low.isSome ∨ high.isSome) ∧ (∀ v ∈ low, v.OfKind kind) ∧ ∀ v ∈ high, v.OfKind kind

/-- A condition fits the kind that its text is read for. -/
lemma Spelled.fits {kind : Kind} {mode : FilterMode} {s : String} {c : Condition}
    (h : Spelled kind mode s c) : c.Fits kind := by
  have hbound {text : String} {bound : Option Value} (h : IsBound kind text bound) :
      ∀ v ∈ bound, v.OfKind kind := by
    rintro v rfl
    exact Value.read_eq_pure h.2
  cases h with
  | contains => rfl
  | equals _ _ read => exact Value.read_eq_pure read
  | between _ below above bounded => exact ⟨bounded, hbound below, hbound above⟩

end Condition

/-! ### Parameters -/

/-- Whether a filter is on one of the fields, with a condition that fits it. -/
def Filter.Fits (fields : List Field) (filter : Filter) : Prop :=
  ∃ f ∈ fields, f.name = filter.field ∧ filter.condition.Fits f.kind

/-- Whether parameters are on the fields and ask for a page that there is. -/
structure Parameters.Accepted (fields : List Field) (p : Parameters) : Prop where
  filters : ∀ filter ∈ p.filters, filter.Fits fields
  sortBy : ∀ name ∈ p.sortBy, ∃ f ∈ fields, f.name = name
  page : 1 ≤ p.page
  perPage : 1 ≤ p.perPage
  perPage_le : p.perPage ≤ Setting.maxPerPage

namespace Setting

/-- Whether a setting is on the fields and asks for a page that there is. -/
def Accepted (fields : List Field) : Setting → Prop
  | page n => 1 ≤ n
  | perPage n => 1 ≤ n ∧ n ≤ maxPerPage
  | sortBy name => ∃ f ∈ fields, f.name = name
  | direction _ => True
  | filter f => f.Fits fields

variable {fields : List Field}

/-- What one pair of a query sets is accepted. -/
theorem accepted_of_read {key value : String} {setting : Setting}
    (h : read fields key value = pure setting) : setting.Accepted fields := by
  cases read_eq_pure_iff.1 h with
  | page count => exact count.2.1
  | perPage count le => exact ⟨count.2.1, le⟩
  | sortBy offers =>
    obtain ⟨f, hf, hname, -⟩ := offers
    exact ⟨f, hf, hname⟩
  | ascending => trivial
  | descending => trivial
  | filter control found spelled =>
    obtain ⟨hf, hname⟩ := filterable?_eq_some found
    exact ⟨_, hf, hname, spelled.fits⟩

end Setting

namespace Parameters

variable {fields : List Field}

/-- The parameters of a query without pairs are accepted. -/
lemma accepted_default : ({} : Parameters).Accepted fields where
  filters := fun filter hfilter => nomatch hfilter
  sortBy := fun name hname => nomatch hname
  page := Nat.le_refl 1
  perPage := by decide
  perPage_le := by decide

lemma Accepted.withSetting {p : Parameters} (h : p.Accepted fields) {setting : Setting}
    (hs : setting.Accepted fields) : (p.withSetting setting).Accepted fields := by
  cases setting with
  | page n => exact { h with page := hs }
  | perPage n => exact { h with perPage := hs.1, perPage_le := hs.2 }
  | sortBy name =>
    refine { h with sortBy := fun name' hname => ?_ }
    obtain rfl := Option.some.inj hname
    exact hs
  | direction d => exact { h with }
  | filter f =>
    refine { h with filters := fun filter hfilter => ?_ }
    rcases List.mem_append.1 hfilter with hfilter | hfilter
    · exact h.filters filter hfilter
    · rw [List.mem_singleton.1 hfilter]
      exact hs

/-- Every setting that was found in a query was read from one of its pairs. -/
lemma accepted_of_findings {seen : List String} {pairs : List (String × String)}
    {found : Findings} (h : findings fields seen pairs = some found) :
    ∀ p ∈ found, ∀ setting, p.2 = .ok setting → setting.Accepted fields := by
  induction pairs generalizing seen found with
  | nil =>
    obtain rfl := Option.some.inj h
    exact fun p hp => nomatch hp
  | cons pair pairs ih =>
    obtain ⟨key, value⟩ := pair
    rw [findings] at h
    split at h
    · obtain ⟨others, hothers, h⟩ := Option.bind_eq_some_iff.1 h
      obtain rfl := Option.some.inj h
      intro p hp setting hsetting
      rcases List.mem_cons.1 hp with rfl | hp
      · cases hsetting
      · exact ih hothers p hp setting hsetting
    · obtain ⟨finding, hfinding, h⟩ := Option.bind_eq_some_iff.1 h
      obtain ⟨others, hothers, h⟩ := Option.bind_eq_some_iff.1 h
      obtain rfl := Option.some.inj h
      intro p hp setting hsetting
      rcases List.mem_cons.1 hp with rfl | hp
      · obtain rfl : finding = .ok setting := hsetting
        exact Setting.accepted_of_read (Attempt.eq_pure_of_outcome hfinding)
      · exact ih hothers p hp setting hsetting

/-- The parameters of a query that was read are accepted. -/
theorem accepted_of_ofPairs {pairs : List (String × String)} {p : Parameters}
    (h : ofPairs fields pairs = pure p) : p.Accepted fields := by
  obtain ⟨found, hfound, h⟩ := Attempt.bind_eq_pure_iff.1 h
  have hfindings : findings fields [] pairs = some found := by
    cases hf : findings fields [] pairs with
    | none =>
      rw [hf] at hfound
      cases hfound
    | some other =>
      rw [hf] at hfound
      exact congrArg some (Attempt.pure_injective hfound)
  obtain ⟨-, rfl⟩ := FieldErrors.orResult_eq_ok_iff.1 (Option.some.inj h)
  have hall : ∀ setting ∈ found.filterMap fun p => p.2.toOption, setting.Accepted fields := by
    intro setting hsetting
    obtain ⟨p, hp, hsome⟩ := List.mem_filterMap.1 hsetting
    refine accepted_of_findings hfindings p hp setting ?_
    cases hr : p.2 with
    | ok other =>
      rw [hr] at hsome
      exact congrArg Except.ok (Option.some.inj hsome)
    | error fault =>
      rw [hr] at hsome
      cases hsome
  -- each setting keeps what the ones before it made acceptable
  have hfold : ∀ (settings : List Setting) (p : Parameters), p.Accepted fields →
      (∀ setting ∈ settings, setting.Accepted fields) →
      (settings.foldl Parameters.withSetting p).Accepted fields := by
    intro settings
    induction settings with
    | nil => exact fun p hp _ => hp
    | cons setting settings ih =>
      intro p hp hsettings
      exact ih _ (hp.withSetting (hsettings setting List.mem_cons_self)) fun other hother =>
        hsettings other (List.mem_cons_of_mem _ hother)
  exact hfold _ _ accepted_default hall

end Parameters

end BookingOffice
