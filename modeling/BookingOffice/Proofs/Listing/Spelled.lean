import BookingOffice.Proofs.Listing.Cuts
import BookingOffice.Proofs.Script.Query

/-!
Which conditions the texts in queries stand for, said without reading them.

* `Condition.IsBound`: whether a text stands for a bound of a range;
* `Condition.Spelled`: whether a text stands for a condition;
* `Condition.read_eq_pure_iff`: the condition that a text stands for is read.
-/

namespace BookingOffice

namespace Condition

variable {kind : Kind}

/-- Whether a text stands for a bound of a range. The empty text stands for none. -/
def IsBound (kind : Kind) (s : String) : Option Value → Prop
  | none => s = ""
  | some v => s ≠ "" ∧ Value.read kind s = pure v

/-- Which conditions the texts in queries stand for. A range is cut at its first two points in a
row. -/
inductive Spelled : Kind → FilterMode → String → Condition → Prop
  | contains {s : String} {v : Value} (read : Value.read .text s = pure v) :
    Spelled .text .contains s (.contains s)
  | equals {kind : Kind} {mode : FilterMode} {s : String} {v : Value}
    (exact : mode = .contains → kind ≠ .text)
    (whole : mode = .range → ¬ ['.', '.'] <:+: s.toList) (read : Value.read kind s = pure v) :
    Spelled kind mode s (.equals v)
  | between {kind : Kind} {text s t : String} {low high : Option Value} (cut : IsCut text s t)
    (below : IsBound kind s low) (above : IsBound kind t high)
    (bounded : low.isSome ∨ high.isSome) : Spelled kind .range text (.between low high)

lemma readValue_eq_pure_iff {s : String} {v : Value} :
    readValue kind s = pure v ↔ Value.read kind s = pure v := Attempt.adapt_eq_pure_iff

lemma readBound_eq_pure_iff_isBound {cs : List Char} {bound : Option Value} :
    readBound kind cs = pure bound ↔ IsBound kind (String.ofList cs) bound := by
  rw [readBound]
  split
  · next hempty =>
    obtain rfl := List.isEmpty_iff.1 hempty
    cases bound with
    | none => exact iff_of_true rfl rfl
    | some v => exact iff_of_false (by rintro ⟨⟩) fun h => h.1 rfl
  · next hne =>
    have hne : String.ofList cs ≠ "" := by
      intro h
      rw [← String.toList_inj, String.toList_ofList] at h
      exact hne (List.isEmpty_iff.2 h)
    rw [Attempt.map_eq_pure_iff]
    cases bound with
    | none => exact iff_of_false (by simp) hne
    | some v => simp [IsBound, hne, readValue_eq_pure_iff]

lemma readRange_eq_pure_iff {low high : List Char} {c : Condition} :
    readRange kind low high = pure c ↔ ∃ lo hi, IsBound kind (String.ofList low) lo ∧
      IsBound kind (String.ofList high) hi ∧ (lo.isSome ∨ hi.isSome) ∧ c = .between lo hi := by
  have hlast (lo hi : Option Value) : (do
      if lo.isNone && hi.isNone then throw .noBound
      return .between lo hi : Attempt Fault Condition) = pure c ↔
        (lo.isSome ∨ hi.isSome) ∧ c = .between lo hi := by
    have hpure {c' : Condition} : (pure c' : Attempt Fault Condition) = pure c ↔ c = c' :=
      ⟨fun h => (Attempt.pure_injective h).symm, fun h => congrArg pure h.symm⟩
    cases lo with
    | some v => exact hpure.trans (and_iff_right (Or.inl rfl)).symm
    | none =>
      cases hi with
      | some v => exact hpure.trans (and_iff_right (Or.inr rfl)).symm
      | none => exact iff_of_false nofun (by simp)
  simp only [readRange, Attempt.bind_eq_pure_iff, readBound_eq_pure_iff_isBound, hlast,
    exists_and_left]

/-- A condition is read from the texts that stand for it. -/
theorem read_eq_pure_iff {mode : FilterMode} {s : String} {c : Condition} :
    read kind mode s = pure c ↔ Spelled kind mode s c := by
  constructor
  · intro h
    simp only [read] at h
    split at h
    · obtain ⟨v, hv, rfl⟩ := Attempt.map_eq_pure_iff.1 h
      exact .contains (readValue_eq_pure_iff.1 hv)
    · next low high hcut =>
      obtain ⟨lo, hi, hlo, hhi, hsome, rfl⟩ := readRange_eq_pure_iff.1 h
      refine .between (cutRange?_toList_eq_some_iff.1 ?_) hlo hhi hsome
      rw [hcut, String.toList_ofList, String.toList_ofList]
    · next hcontains hrange =>
      obtain ⟨v, hv, rfl⟩ := Attempt.map_eq_pure_iff.1 h
      refine .equals hcontains (fun hmode => ?_) (readValue_eq_pure_iff.1 hv)
      rw [← cutRange?_eq_none_iff]
      exact Option.eq_none_iff_forall_ne_some.2 fun p hp => hrange p.1 p.2 hmode hp
  · intro h
    cases h with
    | contains h =>
      rw [read]
      exact Attempt.map_eq_pure_iff.2 ⟨_, readValue_eq_pure_iff.2 h, rfl⟩
    | equals exact whole h =>
      rw [read]
      · exact Attempt.map_eq_pure_iff.2 ⟨_, readValue_eq_pure_iff.2 h, rfl⟩
      · exact exact
      · intro low high hmode hcut
        rw [cutRange?_eq_none_iff.2 (whole hmode)] at hcut
        cases hcut
    | @between _ _ s t low high cut below above bounded =>
      simp only [read, cutRange?_toList_eq_some_iff.2 cut]
      refine readRange_eq_pure_iff.2 ⟨low, high, ?_, ?_, bounded, rfl⟩
      · rwa [String.ofList_toList]
      · rwa [String.ofList_toList]

end Condition

end BookingOffice
