import Mathlib.Data.List.Induction
import BookingOffice.Store.Script

/-!
Scripts that take turns. Several pieces of work share a desk (`Shared`), and each turn carries out
the next statement of one of them, in any order. The changes that come up are kept, with whose they
were.

* `Shared.turn`, `Shared.after`: one statement of one piece of work, and a schedule of turns;
* `Shared.lastWord?`: what the last change of a pair of links has made of it;
* `Shared.getElem?_turn`, `Shared.changesOf_turn`: what a turn leaves of every piece of work.
-/

namespace BookingOffice

/-- The change that a script asks for next. -/
def Script.change? {α : Type} : Script α → Option Statement.Change
  | .change c _ => some c
  | _ => none

@[simp] lemma Script.change?_done {α : Type} (result : Attempt Failure α) :
    (done result).change? = none := rfl

@[simp] lemma Script.change?_count {α : Type} (q : Statement.Count) (next : Nat → Script α) :
    (count q next).change? = none := rfl

@[simp] lemma Script.change?_change {α : Type} (c : Statement.Change) (next : Nat → Script α) :
    (change c next).change? = some c := rfl

/-- Whether a change links a pair in a table of links or removes it, if it does either. -/
def Statement.Change.word? (table : String) (l : Link) : Statement.Change → Option Bool
  | .link a owner member => if a.table = table ∧ ⟨owner, member⟩ = l then some true else none
  | .unlink a owner member => if a.table = table ∧ ⟨owner, member⟩ = l then some false else none
  | _ => none

/-- Pieces of work that share a desk. -/
structure Shared where
  desk : Desk
  works : List (Script Unit)
  /-- The changes that have come up, and the places of the work that they were of. -/
  changes : List (Nat × Statement.Change) := []

namespace Shared

variable {ids : Nat → Uuid} {shared : Shared} {work : Script Unit} {i j : Nat}

/-- Carries out the next statement of the work in a place. -/
def turn (ids : Nat → Uuid) (shared : Shared) (i : Nat) : Shared :=
  match shared.works[i]? with
  | some work =>
    { desk := (work.step ids shared.desk).2
      works := shared.works.set i (work.step ids shared.desk).1
      changes := shared.changes ++ (work.change?.map (i, ·)).toList }
  | none => shared

/-- Carries out a statement for each turn of a schedule. -/
def after (ids : Nat → Uuid) (schedule : List Nat) (shared : Shared) : Shared :=
  schedule.foldl (·.turn ids ·) shared

/-- The changes of the work in a place. -/
def changesOf (shared : Shared) (i : Nat) : List Statement.Change :=
  (shared.changes.filter (·.1 = i)).map (·.2)

/-- Whether the last change of a pair has linked it, if there has been one. -/
def lastWord? (shared : Shared) (table : String) (l : Link) : Option Bool :=
  (shared.changes.filterMap (·.2.word? table l)).getLast?

lemma after_snoc (ids : Nat → Uuid) (schedule : List Nat) (i : Nat) (shared : Shared) :
    shared.after ids (schedule ++ [i]) = (shared.after ids schedule).turn ids i :=
  List.foldl_append

lemma turn_of_some (h : shared.works[i]? = some work) :
    shared.turn ids i =
      { desk := (work.step ids shared.desk).2
        works := shared.works.set i (work.step ids shared.desk).1
        changes := shared.changes ++ (work.change?.map (i, ·)).toList } := by
  rw [turn, h]

lemma turn_of_none (h : shared.works[i]? = none) : shared.turn ids i = shared := by
  rw [turn, h]

lemma length_turn (shared : Shared) (i : Nat) :
    (shared.turn ids i).works.length = shared.works.length := by
  rw [turn]
  split
  · exact List.length_set
  · rfl

/-- A turn is one statement for the work in its place. -/
lemma getElem?_turn_self (h : shared.works[i]? = some work) :
    (shared.turn ids i).works[i]? = some (work.step ids shared.desk).1 := by
  rw [turn_of_some h]
  exact List.getElem?_set_self (List.getElem?_eq_some_iff.1 h).1

/-- A turn leaves all other work where it was. -/
lemma getElem?_turn_of_ne (h : i ≠ j) : (shared.turn ids i).works[j]? = shared.works[j]? := by
  rw [turn]
  split
  · exact List.getElem?_set_ne h
  · rfl

lemma changesOf_turn_self (h : shared.works[i]? = some work) :
    (shared.turn ids i).changesOf i = shared.changesOf i ++ work.change?.toList := by
  rw [turn_of_some h, changesOf, changesOf, List.filter_append, List.map_append]
  cases work.change? with
  | none => rfl
  | some c => simp

lemma changesOf_turn_of_ne (h : i ≠ j) : (shared.turn ids i).changesOf j = shared.changesOf j := by
  rw [turn]
  split
  · next work _ =>
    rw [changesOf, changesOf, List.filter_append, List.map_append]
    cases work.change? with
    | none => simp
    | some c => simp [h]
  · rfl

/-- Of what a change says about a pair, the last word is the one that counts. -/
lemma lastWord?_turn (h : shared.works[i]? = some work) (table : String) (l : Link) :
    (shared.turn ids i).lastWord? table l =
      (work.change?.bind (·.word? table l)).or (shared.lastWord? table l) := by
  rw [turn_of_some h, lastWord?, lastWord?, List.filterMap_append, List.getLast?_append]
  cases work.change? with
  | none => rfl
  | some c =>
    simp only [Option.map_some, Option.toList_some, Option.bind_some, List.filterMap_cons,
      List.filterMap_nil]
    cases c.word? table l <;> rfl

end Shared

end BookingOffice
