import BookingOffice.Store.Change

/-!
Scripts: work on storage as a sequence of statements, where each statement may depend on the answers
to those before it. A script also asks for the new identifiers that it needs.

`Script.run` carries out a script on its own. `Script.step` carries out its next statement only, so
that the statements of several scripts can take turns; running is stepping until the end
(`run_eq_run_step`).
-/

namespace BookingOffice

/-- Work on storage that ends with a value or a failure, or is abandoned. -/
inductive Script (α : Type) where
  /-- The end of the work. -/
  | done (result : Attempt Failure α)
  /-- Reads the rows of a selection. -/
  | fetch (selection : Statement.Selection) (next : List Entry → Script α)
  /-- Counts rows. -/
  | count (count : Statement.Count) (next : Nat → Script α)
  /-- Carries out a change, which answers with the number of rows that it affected. -/
  | change (change : Statement.Change) (next : Nat → Script α)
  /-- Makes an identifier. -/
  | identifier (next : Uuid → Script α)

/-- What scripts work on: a store, and the number of identifiers that have been made. -/
structure Desk where
  store : Store
  issued : Nat := 0

namespace Script

variable {α β : Type}

/-- Goes on with the value at the end of a script. -/
def bind (script : Script α) (f : α → Script β) : Script β :=
  match script with
  | done result =>
    match result.outcome with
    | some (.ok a) => f a
    | some (.error failure) => done (throw failure)
    | none => done .abandon
  | fetch q next => fetch q fun entries => (next entries).bind f
  | count q next => count q fun n => (next n).bind f
  | change c next => change c fun n => (next n).bind f
  | identifier next => identifier fun u => (next u).bind f

instance : Monad Script where
  pure a := done (pure a)
  bind := bind

/-- A script that fails. -/
def fail (failure : Failure) : Script α := done (throw failure)

/-- A script without statements. -/
def ofExcept (result : Except Failure α) : Script α := done (.ofExcept result)

/-- A script without statements, which may be abandoned. -/
def ofAttempt {ε : Type} (f : ε → Failure) (work : Attempt ε α) : Script α :=
  done (ExceptT.adapt f work)

/-- Reads the rows of a selection. -/
def rowsOf (selection : Statement.Selection) : Script (List Entry) := fetch selection pure

/-- Counts rows. -/
def numberOf (q : Statement.Count) : Script Nat := count q pure

/-- Carries out a change. -/
def execute (c : Statement.Change) : Script Nat := change c pure

/-- Makes an identifier. -/
def newIdentifier : Script Uuid := identifier pure

/-- Carries out a script. A statement that fails ends it. -/
def run (identifiers : Nat → Uuid) : Script α → Desk → Attempt Failure α × Desk
  | done result, desk => (result, desk)
  | fetch q next, desk =>
    match desk.store.fetch q with
    | .ok entries => (next entries).run identifiers desk
    | .error failure => (throw failure, desk)
  | count q next, desk => (next (desk.store.count q)).run identifiers desk
  | change c next, desk =>
    match desk.store.apply c with
    | .ok (affected, store) => (next affected).run identifiers { desk with store := store }
    | .error failure => (throw failure, desk)
  | identifier next, desk =>
    (next (identifiers desk.issued)).run identifiers { desk with issued := desk.issued + 1 }

/-- Carries out the next statement of a script. -/
def step (identifiers : Nat → Uuid) : Script α → Desk → Script α × Desk
  | done result, desk => (done result, desk)
  | fetch q next, desk =>
    match desk.store.fetch q with
    | .ok entries => (next entries, desk)
    | .error failure => (fail failure, desk)
  | count q next, desk => (next (desk.store.count q), desk)
  | change c next, desk =>
    match desk.store.apply c with
    | .ok (affected, store) => (next affected, { desk with store := store })
    | .error failure => (fail failure, desk)
  | identifier next, desk =>
    (next (identifiers desk.issued), { desk with issued := desk.issued + 1 })

/-- Carrying out the next statement and then the rest is carrying out the script. -/
theorem run_eq_run_step (identifiers : Nat → Uuid) (script : Script α) (desk : Desk) :
    script.run identifiers desk =
      (script.step identifiers desk).1.run identifiers (script.step identifiers desk).2 := by
  cases script with
  | done result => rfl
  | fetch q next => simp only [run, step]; split <;> rfl
  | count q next => rfl
  | change c next => simp only [run, step]; split <;> rfl
  | identifier next => rfl

/-- Carries out a script as one transaction: unless it ends with a value, the store is as before. -/
def transact (identifiers : Nat → Uuid) (script : Script α) (desk : Desk) :
    Attempt Failure α × Desk :=
  let (result, after) := script.run identifiers desk
  match result.outcome with
  | some (.ok _) => (result, after)
  | _ => (result, { after with store := desk.store })

end Script

end BookingOffice
