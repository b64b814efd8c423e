import Mathlib.Tactic.Common
import Mathlib.Data.List.DropRight
import Mathlib.Data.List.Forall2

/-!
Lists that are read item by item. Reading stops at the first item that cannot be read, so it comes
to a list exactly if every item can be read.

* `Traversal.mapM_eq_some_iff`: the items of the result are those of the list, read one by one;
* `Traversal.mapM_eq_none_iff`: there is no result if one of the items cannot be read;
* `Traversal.mapM_eq_pure_of_forall₂`: so they are for any kind of reading;
* `Traversal.mapM_eq_pure`: reading by a function that does not fail on a list is mapping;
* `Traversal.flatMap_pieces`: the pieces of a list, one after another, are the list.
-/

namespace BookingOffice.Traversal

variable {α β ε : Type}

/-- A list is read to the list of what its items are read to. -/
lemma mapM_eq_some_iff {f : α → Option β} {xs : List α} {ys : List β} :
    xs.mapM f = some ys ↔ List.Forall₂ (fun x y => f x = some y) xs ys := by
  induction xs generalizing ys with
  | nil =>
    rw [List.mapM_nil, List.forall₂_nil_left_iff]
    exact ⟨fun h => (Option.some.inj h).symm, fun h => congrArg some h.symm⟩
  | cons x xs ih =>
    simp only [List.mapM_cons, Option.bind_eq_bind, Option.bind_eq_some_iff, ih,
      List.forall₂_cons_left_iff]
    constructor
    · rintro ⟨y, hy, zs, hzs, h⟩
      exact ⟨y, zs, hy, hzs, (Option.some.inj h).symm⟩
    · rintro ⟨y, zs, hy, hzs, rfl⟩
      exact ⟨y, hy, zs, hzs, rfl⟩

/-- A list is not read if one of its items is not. -/
lemma mapM_eq_none_iff {f : α → Option β} {xs : List α} :
    xs.mapM f = none ↔ ∃ x ∈ xs, f x = none := by
  induction xs with
  | nil => simp [List.mapM_nil]
  | cons x xs ih =>
    rw [List.mapM_cons, List.exists_mem_cons_iff, ← ih]
    cases f x with
    | none => simp
    | some y => cases xs.mapM f <;> simp

/-- A list is read if its items are, one by one. -/
lemma mapM_eq_pure_of_forall₂ {m : Type → Type} [Monad m] [LawfulMonad m] {f : α → m β}
    {xs : List α} {ys : List β} (h : List.Forall₂ (fun x y => f x = pure y) xs ys) :
    xs.mapM f = pure ys := by
  induction h with
  | nil => exact List.mapM_nil
  | cons hxy _ ih => rw [List.mapM_cons, hxy, ih, pure_bind, pure_bind]

/-- Reading that does not fail on a list is mapping. -/
lemma mapM_eq_pure {m : Type → Type} [Monad m] [LawfulMonad m] {f : α → m β} {g : α → β}
    {xs : List α} (h : ∀ x ∈ xs, f x = pure (g x)) : xs.mapM f = pure (xs.map g) := by
  refine mapM_eq_pure_of_forall₂ ?_
  rw [List.forall₂_map_right_iff, List.forall₂_same]
  exact h

lemma mapM_congr {m : Type → Type} [Monad m] [LawfulMonad m] {f g : α → m β} {xs : List α}
    (h : ∀ x ∈ xs, f x = g x) : xs.mapM f = xs.mapM g := by
  induction xs with
  | nil => rfl
  | cons x xs ih =>
    rw [List.mapM_cons, List.mapM_cons, h x List.mem_cons_self,
      ih fun y hy => h y (List.mem_cons_of_mem _ hy)]

/-! ### Items -/

lemma exists_forall₂ {R : α → β → Prop} {xs : List α} (h : ∀ x ∈ xs, ∃ y, R x y) :
    ∃ ys, List.Forall₂ R xs ys := by
  induction xs with
  | nil => exact ⟨[], List.Forall₂.nil⟩
  | cons x xs ih =>
    obtain ⟨y, hy⟩ := h x List.mem_cons_self
    obtain ⟨ys, hys⟩ := ih fun z hz => h z (List.mem_cons_of_mem _ hz)
    exact ⟨y :: ys, List.Forall₂.cons hy hys⟩

lemma map_eq_of_forall₂ {γ : Type} {R : α → β → Prop} {f : α → γ} {g : β → γ} {xs : List α}
    {ys : List β} (h : List.Forall₂ R xs ys) (hR : ∀ {x y}, R x y → f x = g y) :
    xs.map f = ys.map g := by
  rw [← List.forall₂_eq_eq_eq, List.forall₂_map_left_iff, List.forall₂_map_right_iff]
  exact h.imp fun _ _ hxy => hR hxy

/-- If each item can be read, the list can, item by item. -/
lemma exists_mapM_eq_pure {m : Type → Type} [Monad m] [LawfulMonad m] {f : α → m β} {xs : List α}
    (h : ∀ x ∈ xs, ∃ y, f x = pure y) :
    ∃ ys, xs.mapM f = pure ys ∧ List.Forall₂ (fun x y => f x = pure y) xs ys := by
  obtain ⟨ys, hys⟩ := exists_forall₂ h
  exact ⟨ys, mapM_eq_pure_of_forall₂ hys, hys⟩

/-- What is in the result was read from an item. -/
lemma exists_of_forall₂ {R : α → β → Prop} {xs : List α} {ys : List β} (h : List.Forall₂ R xs ys)
    {y : β} (hy : y ∈ ys) : ∃ x ∈ xs, R x y := by
  induction h with
  | nil => cases hy
  | cons hxy _ ih =>
    rcases List.mem_cons.1 hy with rfl | hy
    · exact ⟨_, List.mem_cons_self, hxy⟩
    · obtain ⟨x, hx, hr⟩ := ih hy
      exact ⟨x, List.mem_cons_of_mem _ hx, hr⟩

/-- What holds between the items of a list holds between what was read from them. -/
lemma pairwise_of_forall₂ {R : α → β → Prop} {P : α → α → Prop} {Q : β → β → Prop} {xs : List α}
    {ys : List β} (h : List.Forall₂ R xs ys) (hxs : xs.Pairwise P)
    (hPQ : ∀ {x x' y y'}, R x y → R x' y' → P x x' → Q y y') : ys.Pairwise Q := by
  induction h with
  | nil => exact List.Pairwise.nil
  | cons hxy hrest ih =>
    obtain ⟨hx, hxs⟩ := List.pairwise_cons.1 hxs
    refine List.Pairwise.cons (fun y' hy' => ?_) (ih hxs)
    obtain ⟨x', hx', hr⟩ := exists_of_forall₂ hrest hy'
    exact hPQ hxy hr (hx x' hx')

/-! ### Partial functions -/

/-- What a partial function gives for the items of a list, if it gives something for each. -/
lemma forall₂_filterMap {g : α → Option β} {xs : List α} (h : ∀ x ∈ xs, ∃ y, g x = some y) :
    List.Forall₂ (fun x y => g x = some y) xs (xs.filterMap g) := by
  induction xs with
  | nil => exact List.Forall₂.nil
  | cons x xs ih =>
    obtain ⟨y, hy⟩ := h x List.mem_cons_self
    rw [List.filterMap_cons_some hy]
    exact List.Forall₂.cons hy (ih fun z hz => h z (List.mem_cons_of_mem _ hz))

lemma filterMap_eq_of_forall₂ {g : α → Option β} {xs : List α} {ys : List β}
    (h : List.Forall₂ (fun x y => g x = some y) xs ys) : xs.filterMap g = ys := by
  induction h with
  | nil => rfl
  | cons hxy _ ih => rw [List.filterMap_cons_some hxy, ih]

/-- If each item can be read, the list can, to what a partial function gives for its items. -/
lemma mapM_eq_ok_filterMap {f : α → Except ε β} {g : α → Option β} {xs : List α}
    (h : ∀ x ∈ xs, ∃ y, f x = .ok y ∧ g x = some y) : xs.mapM f = .ok (xs.filterMap g) := by
  obtain ⟨ys, hys⟩ := exists_forall₂ h
  rw [filterMap_eq_of_forall₂ (hys.imp fun _ _ hxy => hxy.2)]
  exact mapM_eq_pure_of_forall₂ (hys.imp fun _ _ hxy => hxy.1)

/-! ### Keys and positions -/

/-- Of a list with different keys at most one item has a given key. -/
lemma filter_eq_toList_find? [DecidableEq β] {f : α → β} {xs : List α} (h : (xs.map f).Nodup)
    (b : β) : xs.filter (f · = b) = (xs.find? (f · = b)).toList := by
  induction xs with
  | nil => rfl
  | cons x xs ih =>
    rw [List.map_cons, List.nodup_cons] at h
    by_cases hx : f x = b
    · have hnone : xs.filter (f · = b) = [] := by
        refine List.filter_eq_nil_iff.2 fun y hy => ?_
        rw [decide_eq_true_eq]
        intro hb
        exact h.1 (List.mem_map.2 ⟨y, hy, hb.trans hx.symm⟩)
      simp [hx, hnone]
    · simp only [List.filter_cons, List.find?_cons, hx, decide_false, Bool.false_eq_true, if_false]
      exact ih h.2

/-- A position may be cut down to the length of a list. -/
lemma drop_min {xs : List α} {n : Nat} (h : xs.length ≤ n) (m : Nat) :
    xs.drop (min m n) = xs.drop m := by
  rcases Nat.le_total m n with hm | hm
  · rw [Nat.min_eq_left hm]
  · rw [Nat.min_eq_right hm, List.drop_eq_nil_of_le h, List.drop_eq_nil_of_le (Nat.le_trans h hm)]

/-- A list is what is left of it without the copies of an item at its end, and these copies. -/
lemma exists_rdropWhile_append [BEq α] [LawfulBEq α] (a : α) (xs : List α) :
    ∃ k, xs.rdropWhile (· == a) ++ List.replicate k a = xs := by
  have hcopies : xs.rtakeWhile (· == a) =
      List.replicate (xs.rtakeWhile (· == a)).length a := by
    refine List.eq_replicate_of_mem fun x hx => ?_
    have hcopy := List.mem_rtakeWhile_imp hx
    exact beq_iff_eq.1 hcopy
  refine ⟨(xs.rtakeWhile (· == a)).length, ?_⟩
  rw [← hcopies, List.rdropWhile_append_rtakeWhile]

/-- Pieces of one length, taken one after another, are the list as far as they go. -/
lemma flatMap_pieces (xs : List α) (n m : Nat) :
    (List.range m).flatMap (fun i => (xs.drop (i * n)).take n) = xs.take (m * n) := by
  induction m with
  | zero => simp
  | succ m ih =>
    rw [List.range_succ, List.flatMap_append, ih, List.flatMap_singleton, Nat.succ_mul,
      List.take_add]

section

variable (xs : List α) {n i : Nat}

/-- Each piece that the list goes to the end of is full. -/
lemma length_piece (h : (i + 1) * n ≤ xs.length) : ((xs.drop (i * n)).take n).length = n := by
  rw [Nat.succ_mul] at h
  rw [List.length_take, List.length_drop]
  omega

/-- The piece that the list ends in holds the rest of it. -/
lemma length_last_piece (hstart : i * n < xs.length) (hend : xs.length ≤ (i + 1) * n) :
    0 < ((xs.drop (i * n)).take n).length ∧
      i * n + ((xs.drop (i * n)).take n).length = xs.length := by
  rw [Nat.succ_mul] at hend
  rw [List.length_take, List.length_drop]
  omega

/-- Pieces past the end of the list are empty. -/
lemma piece_eq_nil (h : xs.length ≤ i * n) : (xs.drop (i * n)).take n = [] := by
  rw [List.drop_eq_nil_of_le h, List.take_nil]

end

end BookingOffice.Traversal
