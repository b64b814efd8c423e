import Mathlib.Data.List.Chain
import BookingOffice.Proofs.Statement.Tokens

/-!
The tokens of a statement do not run together: of two tokens that follow each other, the first is a
phrase that ends in a break or the second one that begins with a break. It is what lets the text of
a statement be read token by token, whatever its names are.

* `Token.Parted`: what it means that tokens are parted;
* `Statement.parted`: the tokens of every form are.
-/

namespace BookingOffice.Statement

namespace Token

/-- Whether a token begins with a break. -/
def opens : Token → Bool
  | phrase s _ => s.toList.head?.any (· ∈ [' ', ',', ')'])
  | _ => false

/-- Whether a token ends in a break. -/
def closes : Token → Bool
  | phrase s _ => s.toList.getLast?.any (· ∈ [' ', '(', '.'])
  | finder => true
  | _ => false

/-- Whether two tokens may follow each other. -/
def Breaks (t u : Token) : Prop := t.closes || u.opens

instance (t u : Token) : Decidable (t.Breaks u) := inferInstanceAs (Decidable (_ = true))

/-- Whether no two tokens run together. -/
def Parted (ts : List Token) : Prop := ts.IsChain Breaks

instance (ts : List Token) : Decidable (Parted ts) :=
  inferInstanceAs (Decidable (ts.IsChain Breaks))

namespace Parted

variable {t u : Token} {ts us : List Token}

lemma cons (h : Parted us) (ht : t.closes) : Parted (t :: us) :=
  List.IsChain.cons h fun u _ => by simp [Breaks, ht]

lemma append (h : Parted ts) (h' : Parted (u :: us)) (hu : u.opens) : Parted (ts ++ u :: us) :=
  List.IsChain.append h h' fun t _ y hy => by
    obtain rfl : u = y := by simpa using hy
    simp [Breaks, hu]

/-- Lists with commas between them are parted if each part is. -/
lemma listed {parts : List (List Token)} (h : ∀ part ∈ parts, Parted part) :
    Parted (listed parts) := by
  induction parts with
  | nil => exact .nil
  | cons part parts ih =>
    have hpart := h part List.mem_cons_self
    have hparts := ih fun part' hmem => h part' (List.mem_cons_of_mem _ hmem)
    cases parts with
    | nil => simpa [Token.listed] using hpart
    | cons part' parts => exact hpart.append (hparts.cons (by decide)) (by decide)

/-- A token may be put in front of one that begins with a break. -/
lemma before (h : Parted (u :: us)) (hu : u.opens) : Parted (t :: u :: us) :=
  append (.singleton t) h hu

end Parted

end Token

open Token

/-! ### The tokens of a form -/

/-- Columns are parted, without a qualifier and with one that ends in a break. -/
lemma parted_columnTokens (names : TableNames) {qualifier : List Token}
    (h : qualifier = [] ∨ qualifier = [.phrase "m."]) : Parted (names.columnTokens qualifier) := by
  refine .listed fun part hpart => ?_
  obtain ⟨t, -, rfl⟩ := List.mem_map.1 hpart
  rcases h with rfl | rfl
  · exact .singleton _
  · exact Parted.cons (.singleton _) rfl

/-- Marks with commas between them are parted. -/
lemma parted_marks (n : Nat) : Parted (listed (List.replicate n [.mark])) := by
  refine .listed fun part hpart => ?_
  rw [List.eq_of_mem_replicate hpart]
  exact .singleton _

lemma parted_filter (f : FilterForm) : Parted (.phrase " AND " :: f.tokens) := by
  obtain ⟨field, condition⟩ := f
  rcases condition with _ | _ | ⟨_ | _, _ | _⟩ <;> exact of_decide_eq_true rfl

/-- A condition is parted, and so it is behind other tokens. -/
lemma parted_filtersTokens (fs : List FilterForm) : Parted (filtersTokens fs) := by
  -- What stands in front of a filter matters, so that the induction carries all of it along.
  suffices h : ∀ ts, Parted ts → Parted (ts ++ fs.flatMap fun f => .phrase " AND " :: f.tokens) from
    h [.phrase " WHERE deleted_at IS NULL"] (.singleton _)
  induction fs with
  | nil => simp
  | cons f fs ih =>
    intro ts hts
    rw [List.flatMap_cons, ← List.append_assoc]
    exact ih _ (hts.append (parted_filter f) rfl)

lemma parted_orderTokens (sortBy : Option String) (direction : Direction) :
    Parted (orderTokens sortBy direction) := by
  cases sortBy <;> cases direction <;> exact of_decide_eq_true rfl

/-- The assignments to the fields of a row end in a comma, and are parted from what follows. -/
lemma parted_assignments (columns : List String) {us : List Token} (h : Parted us) :
    Parted (columns.flatMap (fun c => [.name c, .phrase " = ", .mark, .phrase ", "]) ++ us) := by
  induction columns with
  | nil => exact h
  | cons c columns ih => exact (((ih.cons rfl).before rfl).cons rfl).before rfl

/-- The tokens of a form are parted. -/
theorem parted (f : Form) : Parted f.tokens := by
  cases f with
  | selectLive names =>
    have columns := parted_columnTokens names (.inl rfl)
    exact (columns.append (of_decide_eq_true rfl) rfl).cons rfl
  | selectPage names filters sortBy direction =>
    have columns := parted_columnTokens names (.inl rfl)
    have condition := parted_filtersTokens filters
    have order := parted_orderTokens sortBy direction
    exact .append (.append (.append (.cons columns rfl) (.cons (condition.before rfl) rfl) rfl)
      order rfl) (of_decide_eq_true rfl) rfl
  | selectMembers links names =>
    have columns := parted_columnTokens names (.inr rfl)
    exact (columns.append (of_decide_eq_true rfl) rfl).cons rfl
  | countLive table number =>
    have marks := parted_marks number
    exact .append (.cons (.before (.cons marks rfl) rfl) rfl) (of_decide_eq_true rfl) rfl
  | countMatching table filters => exact ((parted_filtersTokens filters).before rfl).cons rfl
  | insert names =>
    have columns := parted_columnTokens names (.inl rfl)
    have marks := parted_marks (names.columns.length + 3)
    exact .append (.append (.cons (.before (.cons columns rfl) rfl) rfl) (.cons marks rfl) rfl)
      (of_decide_eq_true rfl) rfl
  | update names =>
    exact .cons (.before (.cons (parted_assignments names.columns (of_decide_eq_true rfl)) rfl) rfl)
      rfl
  | countDuplicates table field excluding => cases excluding <;> exact of_decide_eq_true rfl
  | countAny | delete | link | unlink => exact of_decide_eq_true rfl

end BookingOffice.Statement
