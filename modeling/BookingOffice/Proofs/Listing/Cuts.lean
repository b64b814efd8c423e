import BookingOffice.Listing.Condition
import Mathlib.Tactic.Common
import Mathlib.Data.List.Infix

/-!
Where ranges are cut. The bounds of a range are separated by two points in a row, of which the first
two count; a single point may stand in a bound.

* `Text.not_infix_of_count_le`, `Text.not_infix_append_cons`, `Text.not_infix_concat`: where there
  are no two points in a row;
* `Condition.cutRange?_eq_some_iff`: a text is cut at its first two points in a row;
* `Condition.cutRange?_eq_none_iff`: a text without such points is not cut;
* `Condition.IsCut`: what the two sides of a text are.
-/

namespace BookingOffice

/-! ### Points in a row -/

namespace Text

variable {cs ds : List Char} {c : Char}

lemma not_infix_of_count_le (h : cs.count '.' ≤ 1) : ¬ ['.', '.'] <:+: cs := by
  intro hpoints
  have hcount := hpoints.sublist.count_le '.'
  have htwo : ['.', '.'].count '.' = 2 := rfl
  omega

/-- Where another character stands in between, points are not in a row. -/
lemma not_infix_append_cons (hcs : ¬ ['.', '.'] <:+: cs) (hc : c ≠ '.')
    (hds : ¬ ['.', '.'] <:+: ds) : ¬ ['.', '.'] <:+: cs ++ c :: ds := by
  induction cs with
  | nil =>
    rw [List.nil_append, List.infix_cons_iff, not_or]
    refine ⟨fun hfront => hc ?_, hds⟩
    exact (List.cons_prefix_cons.1 hfront).1.symm
  | cons b cs ih =>
    rw [List.infix_cons_iff, not_or] at hcs
    rw [List.cons_append, List.infix_cons_iff, not_or]
    refine ⟨fun hfront => ?_, ih hcs.2⟩
    obtain ⟨rfl, hnext⟩ := List.cons_prefix_cons.1 hfront
    cases cs with
    | nil => exact hc (List.cons_prefix_cons.1 hnext).1.symm
    | cons d cs =>
      obtain ⟨rfl, -⟩ := List.cons_prefix_cons.1 hnext
      exact hcs.1 (List.prefix_append ['.', '.'] cs)

/-- Nor are they where a point follows that another character stands in front of. -/
lemma not_infix_concat (hcs : ¬ ['.', '.'] <:+: cs) (hlast : cs.getLast? ≠ some '.') :
    ¬ ['.', '.'] <:+: cs ++ ['.'] := by
  rw [List.infix_concat_iff, not_or]
  refine ⟨?_, hcs⟩
  rintro ⟨front, hfront⟩
  rw [List.append_cons] at hfront
  obtain ⟨rfl, -⟩ := List.append_inj' hfront rfl
  exact hlast List.getLast?_concat

end Text

/-! ### Cuts -/

namespace Condition

/-- A text is cut at its first two points in a row. -/
lemma cutRange?_eq_some_iff {cs low high : List Char} :
    cutRange? cs = some (low, high) ↔
      cs = low ++ '.' :: '.' :: high ∧ ¬ ['.', '.'] <:+: low ++ ['.'] := by
  -- the points after the lower bound start in the same way as the single one
  have hstart (low : List Char) :
      ['.'] <+: low ++ ['.'] ↔ ['.'] <+: low ++ '.' :: '.' :: high := by
    cases low <;> simp
  fun_induction cutRange? cs generalizing low with
  | case1 => simp
  | case2 high' =>
    cases low with
    | nil =>
      have hone : ¬ ['.', '.'] <:+: ['.'] := Text.not_infix_of_count_le (Nat.le_refl 1)
      simp [hone]
    | cons b low =>
      refine iff_of_false (by simp) ?_
      rintro ⟨heq, hno⟩
      obtain ⟨rfl, hnext⟩ := List.cons.inj heq
      refine hno (List.infix_cons_iff.2 (Or.inl ?_))
      refine List.cons_prefix_cons.2 ⟨rfl, (hstart low).2 ?_⟩
      rw [show low ++ '.' :: '.' :: high = '.' :: high' from hnext.symm]
      exact List.prefix_append ['.'] high'
  | case3 c rest hno ih =>
    cases low with
    | nil =>
      refine iff_of_false (by simp) ?_
      rintro ⟨heq, -⟩
      obtain ⟨hc, hrest⟩ := List.cons.inj heq
      exact hno high hc hrest
    | cons b low =>
      have hcut : (cutRange? rest).map (fun p => (c :: p.1, p.2)) = some (b :: low, high) ↔
          c = b ∧ cutRange? rest = some (low, high) := by
        simp [and_comm]
      rw [hcut, List.cons_append, List.cons.injEq, List.cons_append, and_assoc]
      refine (and_congr_right fun _ => @ih low).trans ?_
      refine and_congr_right fun hc => and_congr_right fun hrest => ?_
      rw [List.infix_cons_iff, List.cons_prefix_cons, hstart low, or_iff_right]
      rintro ⟨rfl, hfront⟩
      rw [← hrest] at hfront
      obtain ⟨high', hhigh⟩ := hfront
      exact hno high' hc hhigh.symm

/-- A text without two points in a row is not cut. -/
lemma cutRange?_eq_none_iff {cs : List Char} : cutRange? cs = none ↔ ¬ ['.', '.'] <:+: cs := by
  fun_induction cutRange? cs with
  | case1 => simp
  | case2 high => exact iff_of_false nofun fun hno => hno (List.prefix_append _ high).isInfix
  | case3 c rest hno ih =>
    rw [Option.map_eq_none_iff, ih, List.infix_cons_iff, or_iff_right]
    intro hfront
    obtain ⟨rfl, hnext⟩ := List.cons_prefix_cons.1 hfront
    obtain ⟨high, hhigh⟩ := hnext
    exact hno high rfl hhigh.symm

/-- Whether a text is made of two sides and the first two points in a row, which separate them. -/
def IsCut (text low high : String) : Prop :=
  text = low ++ ".." ++ high ∧ ¬ ['.', '.'] <:+: low.toList ++ ['.']

lemma cutRange?_toList_eq_some_iff {text low high : String} :
    cutRange? text.toList = some (low.toList, high.toList) ↔ IsCut text low high := by
  have hchars : (low ++ ".." ++ high).toList = low.toList ++ '.' :: '.' :: high.toList := by
    simp [String.toList_append]
  rw [cutRange?_eq_some_iff, ← hchars, String.toList_inj, IsCut]

namespace IsCut

variable {text low high low' high' : String}

lemma points (h : IsCut text low high) : ['.', '.'] <:+: text.toList := by
  by_contra hno
  cases (cutRange?_eq_none_iff.2 hno).symm.trans (cutRange?_toList_eq_some_iff.2 h)

/-- A text has two sides at most. -/
lemma unique (h : IsCut text low high) (h' : IsCut text low' high') :
    low = low' ∧ high = high' := by
  have heq := (cutRange?_toList_eq_some_iff.2 h).symm.trans (cutRange?_toList_eq_some_iff.2 h')
  obtain ⟨hlow, hhigh⟩ := Prod.mk.inj (Option.some.inj heq)
  exact ⟨String.toList_inj.1 hlow, String.toList_inj.1 hhigh⟩

end IsCut

/-- A text with two points in a row has two sides. -/
lemma exists_isCut {text : String} (h : ['.', '.'] <:+: text.toList) :
    ∃ low high, IsCut text low high := by
  cases hcut : cutRange? text.toList with
  | none => exact absurd h (cutRange?_eq_none_iff.1 hcut)
  | some p =>
    refine ⟨String.ofList p.1, String.ofList p.2, cutRange?_toList_eq_some_iff.1 ?_⟩
    rw [hcut, String.toList_ofList, String.toList_ofList]

end Condition

end BookingOffice
