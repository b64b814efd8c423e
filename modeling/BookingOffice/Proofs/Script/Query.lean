import BookingOffice.Store.Procedure
import Mathlib.Tactic.Common

/-!
Scripts as a monad, and the scripts that only ask.

A script that changes nothing and makes no identifier comes to a result that depends on the store
alone (`Script.ask`). Asking is a morphism of monads (`ask_bind`, `ask_mapM`), so that what a
composed query comes to is composed of what its parts come to.

* `Script.run_bind`: running one script after the other;
* `Script.IsQuery`: the scripts that only ask, closed under sequencing;
* `Script.IsQuery.run_eq`: running such a script asks the store and leaves the desk as it is.
-/

namespace BookingOffice

/-! ### Attempts -/

namespace Attempt

variable {ε δ α β : Type}

@[simp] lemma outcome_pure (a : α) : (pure a : Attempt ε α).outcome = some (.ok a) := rfl

@[simp] lemma outcome_throw (e : ε) : (throw e : Attempt ε α).outcome = some (.error e) := rfl

@[simp] lemma outcome_abandon : (abandon : Attempt ε α).outcome = none := rfl

@[simp] lemma ofExcept_ok (a : α) : (ofExcept (.ok a) : Attempt ε α) = pure a := rfl

@[simp] lemma ofExcept_error (e : ε) : (ofExcept (.error e) : Attempt ε α) = throw e := rfl

@[simp] lemma throw_bind (e : ε) (f : α → Attempt ε β) : throw e >>= f = throw e := rfl

@[simp] lemma abandon_bind (f : α → Attempt ε β) : abandon >>= f = abandon := rfl

@[simp] lemma adapt_pure (f : ε → δ) (a : α) :
    ExceptT.adapt f (pure a : Attempt ε α) = (pure a : Attempt δ α) := rfl

@[simp] lemma adapt_throw (f : ε → δ) (e : ε) :
    ExceptT.adapt f (throw e : Attempt ε α) = (throw (f e) : Attempt δ α) := rfl

@[simp] lemma adapt_abandon (f : ε → δ) :
    ExceptT.adapt f (abandon : Attempt ε α) = (abandon : Attempt δ α) := rfl

/-- An attempt ends with a value or an error, or is abandoned. -/
lemma eq_pure_or_throw_or_abandon (work : Attempt ε α) :
    (∃ a, work = pure a) ∨ (∃ e, work = throw e) ∨ work = abandon := by
  cases work with
  | none => exact Or.inr (Or.inr rfl)
  | some result =>
    cases result with
    | ok a => exact Or.inl ⟨a, rfl⟩
    | error e => exact Or.inr (Or.inl ⟨e, rfl⟩)

lemma eq_pure_of_outcome {work : Attempt ε α} {a : α} (h : work.outcome = some (.ok a)) :
    work = pure a := h

lemma outcome_eq_none_iff {work : Attempt ε α} : work.outcome = none ↔ work = abandon := Iff.rfl

lemma pure_ne_throw (a : α) (e : ε) : (pure a : Attempt ε α) ≠ throw e := nofun

lemma pure_ne_abandon (a : α) : (pure a : Attempt ε α) ≠ abandon := nofun

lemma throw_ne_abandon (e : ε) : (throw e : Attempt ε α) ≠ abandon := nofun

lemma ofExcept_ne_abandon (result : Except ε α) : (ofExcept result : Attempt ε α) ≠ abandon := nofun

lemma pure_injective {a b : α} (h : (pure a : Attempt ε α) = pure b) : a = b := by
  cases h
  rfl

lemma throw_injective {e f : ε} (h : (throw e : Attempt ε α) = throw f) : e = f := by
  cases h
  rfl

/-- Work in two parts ends with a value if each part does. -/
lemma bind_eq_pure_iff {work : Attempt ε α} {f : α → Attempt ε β} {b : β} :
    work >>= f = pure b ↔ ∃ a, work = pure a ∧ f a = pure b := by
  obtain ⟨a, rfl⟩ | ⟨e, rfl⟩ | rfl := work.eq_pure_or_throw_or_abandon
  · rw [pure_bind]
    constructor
    · intro h
      exact ⟨a, rfl, h⟩
    · rintro ⟨a', ha, h⟩
      rw [pure_injective ha]
      exact h
  · rw [throw_bind]
    constructor
    · intro h
      exact absurd h.symm (pure_ne_throw b e)
    · rintro ⟨a, ha, -⟩
      exact absurd ha.symm (pure_ne_throw a e)
  · rw [abandon_bind]
    constructor
    · intro h
      exact absurd h.symm (pure_ne_abandon b)
    · rintro ⟨a, ha, -⟩
      exact absurd ha.symm (pure_ne_abandon a)

lemma map_eq_pure_iff {work : Attempt ε α} {f : α → β} {b : β} :
    f <$> work = pure b ↔ ∃ a, work = pure a ∧ f a = b := by
  rw [map_eq_pure_bind, bind_eq_pure_iff]
  refine exists_congr fun a => and_congr_right fun _ => ?_
  exact ⟨pure_injective, congrArg pure⟩

lemma adapt_eq_pure_iff {f : ε → δ} {work : Attempt ε α} {a : α} :
    ExceptT.adapt f work = pure a ↔ work = pure a := by
  obtain ⟨b, rfl⟩ | ⟨e, rfl⟩ | rfl := work.eq_pure_or_throw_or_abandon
  · rw [adapt_pure]
    exact ⟨fun h => congrArg pure (pure_injective h), fun h => congrArg pure (pure_injective h)⟩
  · rw [adapt_throw]
    exact ⟨fun h => absurd h.symm (pure_ne_throw a _), fun h => absurd h.symm (pure_ne_throw a e)⟩
  · rw [adapt_abandon]
    exact ⟨fun h => absurd h.symm (pure_ne_abandon a), fun h => absurd h.symm (pure_ne_abandon a)⟩

/-- Work in two parts is abandoned if one part is. -/
lemma bind_eq_abandon_iff {work : Attempt ε α} {f : α → Attempt ε β} :
    work >>= f = abandon ↔ work = abandon ∨ ∃ a, work = pure a ∧ f a = abandon := by
  obtain ⟨a, rfl⟩ | ⟨e, rfl⟩ | rfl := work.eq_pure_or_throw_or_abandon
  · rw [pure_bind]
    constructor
    · intro h
      exact Or.inr ⟨a, rfl, h⟩
    · rintro (h | ⟨a', ha, h⟩)
      · exact absurd h (pure_ne_abandon a)
      · rw [pure_injective ha]
        exact h
  · rw [throw_bind]
    constructor
    · intro h
      exact absurd h (throw_ne_abandon e)
    · rintro (h | ⟨a, ha, -⟩)
      · exact absurd h (throw_ne_abandon e)
      · exact absurd ha.symm (pure_ne_throw a e)
  · exact iff_of_true rfl (Or.inl rfl)

lemma map_eq_abandon_iff {work : Attempt ε α} {f : α → β} :
    f <$> work = abandon ↔ work = abandon := by
  rw [map_eq_pure_bind, bind_eq_abandon_iff]
  refine or_iff_left ?_
  rintro ⟨a, -, h⟩
  exact pure_ne_abandon (f a) h

lemma adapt_eq_abandon_iff {f : ε → δ} {work : Attempt ε α} :
    ExceptT.adapt f work = abandon ↔ work = abandon := by
  obtain ⟨a, rfl⟩ | ⟨e, rfl⟩ | rfl := work.eq_pure_or_throw_or_abandon
  · exact iff_of_false (pure_ne_abandon a) (pure_ne_abandon a)
  · exact iff_of_false (throw_ne_abandon (f e)) (throw_ne_abandon e)
  · exact iff_of_true rfl rfl

end Attempt

namespace Script

variable {α β γ : Type}

/-! ### Scripts as a monad -/

@[simp] lemma done_pure_bind (a : α) (f : α → Script β) :
    (done (pure a) : Script α).bind f = f a := rfl

@[simp] lemma done_throw_bind (e : Failure) (f : α → Script β) :
    (done (throw e) : Script α).bind f = done (throw e) := rfl

@[simp] lemma done_abandon_bind (f : α → Script β) :
    (done .abandon : Script α).bind f = done .abandon := rfl

lemma bind_pure' (script : Script α) : script.bind pure = script := by
  induction script with
  | done result =>
    obtain ⟨a, rfl⟩ | ⟨e, rfl⟩ | rfl := result.eq_pure_or_throw_or_abandon <;> rfl
  | fetch q next ih => simp only [bind, ih]
  | count q next ih => simp only [bind, ih]
  | change c next ih => simp only [bind, ih]
  | identifier next ih => simp only [bind, ih]

lemma bind_assoc' (script : Script α) (f : α → Script β) (g : β → Script γ) :
    (script.bind f).bind g = script.bind fun a => (f a).bind g := by
  induction script with
  | done result =>
    obtain ⟨a, rfl⟩ | ⟨e, rfl⟩ | rfl := result.eq_pure_or_throw_or_abandon <;> rfl
  | fetch q next ih => simp only [bind, ih]
  | count q next ih => simp only [bind, ih]
  | change c next ih => simp only [bind, ih]
  | identifier next ih => simp only [bind, ih]

instance : LawfulMonad Script :=
  LawfulMonad.mk' Script bind_pure' (fun _ _ => rfl) bind_assoc'

/-- Running a script and then, if it ends with a value, the next one. -/
lemma run_bind (identifiers : Nat → Uuid) (script : Script α) (f : α → Script β) (desk : Desk) :
    (script >>= f).run identifiers desk =
      match (script.run identifiers desk).1.outcome with
      | some (.ok a) => (f a).run identifiers (script.run identifiers desk).2
      | some (.error e) => (throw e, (script.run identifiers desk).2)
      | none => (.abandon, (script.run identifiers desk).2) := by
  change (script.bind f).run identifiers desk = _
  induction script generalizing desk with
  | done result =>
    obtain ⟨a, rfl⟩ | ⟨e, rfl⟩ | rfl := result.eq_pure_or_throw_or_abandon <;> rfl
  | fetch q next ih =>
    simp only [bind, run]
    cases desk.store.fetch q with
    | ok entries => exact ih entries desk
    | error failure => rfl
  | count q next ih =>
    simp only [bind, run]
    exact ih _ desk
  | change c next ih =>
    simp only [bind, run]
    cases desk.store.apply c with
    | ok answer => exact ih answer.1 _
    | error failure => rfl
  | identifier next ih =>
    simp only [bind, run]
    exact ih _ _

/-- Running a script that ends with a value. -/
lemma run_bind_of_pure {identifiers : Nat → Uuid} {script : Script α} {f : α → Script β}
    {desk desk' : Desk} {a : α} (h : script.run identifiers desk = (pure a, desk')) :
    (script >>= f).run identifiers desk = (f a).run identifiers desk' := by
  rw [run_bind, h]
  rfl

/-- Running a script that fails. -/
lemma run_bind_of_throw {identifiers : Nat → Uuid} {script : Script α} {f : α → Script β}
    {desk desk' : Desk} {e : Failure} (h : script.run identifiers desk = (throw e, desk')) :
    (script >>= f).run identifiers desk = (throw e, desk') := by
  rw [run_bind, h]
  rfl

/-- Running a script that is abandoned. -/
lemma run_bind_of_abandon {identifiers : Nat → Uuid} {script : Script α} {f : α → Script β}
    {desk desk' : Desk} (h : script.run identifiers desk = (.abandon, desk')) :
    (script >>= f).run identifiers desk = (.abandon, desk') := by
  rw [run_bind, h]
  rfl

/-! ### Asking -/

/-- What a script that only asks comes to. One that changes anything is given up. -/
def ask (store : Store) : Script α → Attempt Failure α
  | done result => result
  | fetch q next =>
    match store.fetch q with
    | .ok entries => (next entries).ask store
    | .error failure => throw failure
  | count q next => (next (store.count q)).ask store
  | change _ _ => .abandon
  | identifier _ => .abandon

@[simp] lemma ask_pure (store : Store) (a : α) : (pure a : Script α).ask store = pure a := rfl

@[simp] lemma ask_fail (store : Store) (e : Failure) :
    (fail e : Script α).ask store = throw e := rfl

@[simp] lemma ask_ofExcept (store : Store) (result : Except Failure α) :
    (ofExcept result).ask store = .ofExcept result := rfl

@[simp] lemma ask_ofAttempt {ε : Type} (store : Store) (f : ε → Failure) (work : Attempt ε α) :
    (ofAttempt f work).ask store = ExceptT.adapt f work := rfl

@[simp] lemma ask_numberOf (store : Store) (q : Statement.Count) :
    (numberOf q).ask store = pure (store.count q) := rfl

@[simp] lemma ask_rowsOf (store : Store) (q : Statement.Selection) :
    (rowsOf q).ask store = .ofExcept (store.fetch q) := by
  simp only [rowsOf, ask]
  cases store.fetch q <;> rfl

@[simp] lemma ask_bind (store : Store) (script : Script α) (f : α → Script β) :
    (script >>= f).ask store = script.ask store >>= fun a => (f a).ask store := by
  change (script.bind f).ask store = _
  induction script with
  | done result =>
    obtain ⟨a, rfl⟩ | ⟨e, rfl⟩ | rfl := result.eq_pure_or_throw_or_abandon <;> rfl
  | fetch q next ih =>
    simp only [bind, ask]
    cases store.fetch q with
    | ok entries => exact ih entries
    | error failure => rfl
  | count q next ih => exact ih _
  | change c next ih => rfl
  | identifier next ih => rfl

@[simp] lemma ask_map (store : Store) (f : α → β) (script : Script α) :
    (f <$> script).ask store = f <$> script.ask store := by
  rw [← bind_pure_comp, ← bind_pure_comp, ask_bind]
  rfl

lemma ask_mapM (store : Store) (f : α → Script β) (xs : List α) :
    (xs.mapM f).ask store = xs.mapM fun x => (f x).ask store := by
  induction xs with
  | nil => rfl
  | cons x xs ih => simp only [List.mapM_cons, ask_bind, ih, ask_pure]

/-- A script that neither changes anything nor makes an identifier. -/
inductive IsQuery : Script α → Prop
  | done (result : Attempt Failure α) : IsQuery (.done result)
  | fetch (q : Statement.Selection) {next : List Entry → Script α}
      (h : ∀ entries, IsQuery (next entries)) : IsQuery (.fetch q next)
  | count (q : Statement.Count) {next : Nat → Script α}
      (h : ∀ n, IsQuery (next n)) : IsQuery (.count q next)

namespace IsQuery

lemma pure (a : α) : IsQuery (Pure.pure a : Script α) := done _

lemma fail (e : Failure) : IsQuery (Script.fail e : Script α) := done _

lemma ofExcept (result : Except Failure α) : IsQuery (Script.ofExcept result) := done _

lemma ofAttempt {ε : Type} (f : ε → Failure) (work : Attempt ε α) :
    IsQuery (Script.ofAttempt f work) := done _

lemma rowsOf (q : Statement.Selection) : IsQuery (Script.rowsOf q) := fetch q fun _ => done _

lemma numberOf (q : Statement.Count) : IsQuery (Script.numberOf q) := count q fun _ => done _

lemma bind {script : Script α} {f : α → Script β} (h : IsQuery script)
    (hf : ∀ a, IsQuery (f a)) : IsQuery (script >>= f) := by
  change IsQuery (script.bind f)
  induction h with
  | done result =>
    obtain ⟨a, rfl⟩ | ⟨e, rfl⟩ | rfl := result.eq_pure_or_throw_or_abandon
    · exact hf a
    · exact done _
    · exact done _
  | fetch q _ ih => exact fetch q ih
  | count q _ ih => exact count q ih

lemma mapM {f : α → Script β} (hf : ∀ a, IsQuery (f a)) (xs : List α) :
    IsQuery (xs.mapM f) := by
  induction xs with
  | nil => exact done _
  | cons x xs ih =>
    rw [List.mapM_cons]
    exact (hf x).bind fun y => ih.bind fun ys => done _

lemma forM {f : α → Script Unit} (hf : ∀ a, IsQuery (f a)) (xs : List α) :
    IsQuery (xs.forM f) := by
  induction xs with
  | nil => exact done _
  | cons x xs ih => exact (hf x).bind fun _ => ih

/-- Running a query asks the store and leaves the desk as it is. -/
theorem run_eq {script : Script α} (h : IsQuery script) (identifiers : Nat → Uuid) (desk : Desk) :
    script.run identifiers desk = (script.ask desk.store, desk) := by
  induction h with
  | done result => rfl
  | fetch q _ ih =>
    simp only [run, ask]
    cases desk.store.fetch q with
    | ok entries => exact ih entries
    | error failure => rfl
  | count q _ ih => exact ih _

end IsQuery

end Script

end BookingOffice
