import BookingOffice.Proofs.Listing.Points
import BookingOffice.Proofs.Listing.Spelled

/-!
Ranges and plain values. No number and no time has two points in a row, so that none of them is
taken for a range, and a range is cut between its bounds unless the lower one ends in a point.

* `Condition.read_bounds`: two bounds are read as a range;
* `Condition.tellsApart`: plain values and ranges are told apart, and nothing else is read.
-/

namespace BookingOffice

namespace Condition

variable {kind : Kind}

/-- Two bounds are read as a range unless the lower one ends in a point. -/
lemma read_bounds (hkind : kind = .integer ∨ kind = .real ∨ kind = .timestamp) {s t : String}
    {low high : Option Value} (hlow : IsBound kind s low) (hhigh : IsBound kind t high)
    (hbounded : low.isSome ∨ high.isSome) (hlast : s.toList.getLast? ≠ some '.') :
    read kind .range (s ++ ".." ++ t) = pure (.between low high) := by
  refine read_eq_pure_iff.2 (.between ⟨rfl, ?_⟩ hlow hhigh hbounded)
  refine Text.not_infix_concat ?_ hlast
  cases low with
  | none =>
    obtain rfl : s = "" := hlow
    exact Text.not_infix_of_count_le (Nat.zero_le 1)
  | some v => exact Value.not_infix_of_read hkind hlow.2

/-- What it means that plain values and ranges of a kind are told apart. -/
structure TellsApart (kind : Kind) : Prop where
  /-- A value is read as itself. -/
  plain : ∀ s v, Value.read kind s = pure v → read kind .range s = pure (.equals v)
  /-- Two bounds, one of which may be left out, are read as a range. The lower one must not end in a
  point, since that would be the first of the two. -/
  range : ∀ s t low high, IsBound kind s low → IsBound kind t high → low.isSome ∨ high.isSome →
    s.toList.getLast? ≠ some '.' → read kind .range (s ++ ".." ++ t) = pure (.between low high)
  /-- Nothing else is read. -/
  only : ∀ text c, read kind .range text = pure c →
    (∃ v, c = .equals v ∧ Value.read kind text = pure v) ∨
      ∃ s t low high, c = .between low high ∧ IsCut text s t ∧ IsBound kind s low ∧
        IsBound kind t high ∧ (low.isSome ∨ high.isSome)
  /-- A text with two points in a row is cut at the first of them. -/
  sides : ∀ text, ['.', '.'] <:+: text.toList → ∃ s t, IsCut text s t
  /-- If one of its sides is no bound, there is an error. -/
  noSide : ∀ text s t, IsCut text s t →
    (∀ low, ¬ IsBound kind s low) ∨ (∀ high, ¬ IsBound kind t high) →
      ∀ result, (read kind .range text).outcome = some result → ∃ fault, result = .error fault
  /-- So there is if both sides are empty. -/
  noBound : read kind .range ".." = throw .noBound
  /-- Without such points, there is one if the text is no value. -/
  noValue : ∀ text, ¬ ['.', '.'] <:+: text.toList → (∀ v, Value.read kind text ≠ pure v) →
    ∀ result, (read kind .range text).outcome = some result → ∃ fault, result = .error fault

/-- Plain values and ranges are told apart where no value has two points in a row. -/
theorem tellsApart (hkind : kind = .integer ∨ kind = .real ∨ kind = .timestamp) :
    TellsApart kind := by
  have herror {text : String} (h : ∀ c, ¬ Spelled kind .range text c) :
      ∀ result, (read kind .range text).outcome = some result → ∃ fault, result = .error fault := by
    intro result hresult
    cases result with
    | ok c => exact absurd (read_eq_pure_iff.1 (Attempt.eq_pure_of_outcome hresult)) (h c)
    | error fault => exact ⟨fault, rfl⟩
  constructor
  case plain =>
    intro s v h
    exact read_eq_pure_iff.2 (.equals nofun (fun _ => Value.not_infix_of_read hkind h) h)
  case range =>
    intro s t low high hlow hhigh hbounded hlast
    exact read_bounds hkind hlow hhigh hbounded hlast
  case only =>
    intro text c h
    cases read_eq_pure_iff.1 h with
    | equals _ _ hv => exact Or.inl ⟨_, rfl, hv⟩
    | between cut below above bounded =>
      exact Or.inr ⟨_, _, _, _, rfl, cut, below, above, bounded⟩
  case sides => exact fun text h => exists_isCut h
  case noSide =>
    intro text s t hcut hno
    refine herror fun c hspelled => ?_
    cases hspelled with
    | equals _ whole _ => exact whole rfl hcut.points
    | between cut below above _ =>
      obtain ⟨rfl, rfl⟩ := hcut.unique cut
      exact hno.elim (fun hlow => hlow _ below) fun hhigh => hhigh _ above
  case noBound => rfl
  case noValue =>
    intro text hpoints hno
    refine herror fun c hspelled => ?_
    cases hspelled with
    | equals _ _ hv => exact hno _ hv
    | between cut _ _ _ => exact hpoints cut.points

/-- Of three points in a row the last one belongs to the upper bound. -/
theorem tellsApart_real :
    let one : Value := .real ⟨false, 4607182418800017408, by decide⟩
    let half : Value := .real ⟨false, 4602678819172646912, by decide⟩
    TellsApart .real ∧ Value.read .real "1" = pure one ∧ Value.read .real ".5" = pure half ∧
      read .real .range "1...5" = pure (.between (some one) (some half)) := by
  intro one half
  have hone : Value.read .real "1" = pure one := by
    exact Attempt.eq_pure_of_outcome (by decide +kernel)
  have hhalf : Value.read .real ".5" = pure half := by
    exact Attempt.eq_pure_of_outcome (by decide +kernel)
  have htells : TellsApart .real := tellsApart (Or.inr (Or.inl rfl))
  refine ⟨htells, hone, hhalf, ?_⟩
  exact htells.range "1" ".5" (some one) (some half) ⟨by decide, hone⟩ ⟨by decide, hhalf⟩
    (Or.inl rfl) (by decide)

end Condition

end BookingOffice
