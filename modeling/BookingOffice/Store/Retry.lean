import BookingOffice.Log
import BookingOffice.Store.Failure

/-!
Trying again while the database is unavailable. The number of retries is kept in sixteen bits. The
first pause takes from 100 to 999 milliseconds, and as long as pauses take less than five seconds
each is longer than the one before by up to 999 milliseconds.
-/

namespace BookingOffice.Retry

/-- A pause between two attempts. -/
structure Pause where
  /-- The milliseconds to wait. -/
  delay : Nat
  /-- The number of attempts left. -/
  attemptsLeft : UInt16
  deriving DecidableEq, Repr

/-- What is logged before a pause. -/
def Pause.warning (p : Pause) : LogLine :=
  ⟨.warn, s!"Database is unavailable; waiting {p.delay}ms before retrying with " ++
    s!"{p.attemptsLeft} attempts left"⟩

/-- The first pause that a random number stands for. -/
def firstDelay (random : Nat) : Nat := 100 + random % 900

/-- The pause after another one, and the random numbers left. -/
def nextDelay (delay : Nat) (random : Nat → Nat) : Nat × (Nat → Nat) :=
  if delay < 5000 then (delay + random 0 % 1000, fun n => random (n + 1)) else (delay, random)

/-! ### What is done -/

variable {α : Type}

/-- What is done while an operation is tried. -/
inductive Event (α : Type) where
  /-- The operation is called, and this comes of it. -/
  | call (outcome : Except Failure α)
  /-- A pause is announced in the log. -/
  | warn (pause : Pause)
  /-- Nothing is done for some milliseconds. -/
  | sleep (delay : Nat)

/-- The events of an attempt that is followed by a pause. -/
def Pause.events (p : Pause) : List (Event α) :=
  [.call (.error .unavailable), .warn p, .sleep p.delay]

/-- What attempts came to, and what was done. -/
structure Result (α : Type) where
  outcome : Except Failure α
  events : List (Event α)

namespace Result

/-- A call whose outcome is final. -/
def final (outcome : Except Failure α) : Result α := ⟨outcome, [.call outcome]⟩

/-- What is done from an earlier attempt on, which is followed by a pause. -/
def after (p : Pause) (rest : Result α) : Result α :=
  { rest with events := p.events ++ rest.events }

/-- The outcomes of the calls. -/
def calls (r : Result α) : List (Except Failure α) :=
  r.events.filterMap fun
    | .call outcome => some outcome
    | _ => none

/-- The pauses that were announced. -/
def pauses (r : Result α) : List Pause :=
  r.events.filterMap fun
    | .warn p => some p
    | _ => none

variable (p : Pause) (rest : Result α) (outcome : Except Failure α)

@[simp] theorem outcome_final : (final outcome).outcome = outcome := rfl

@[simp] theorem events_final : (final outcome).events = [.call outcome] := rfl

@[simp] theorem calls_final : (final outcome).calls = [outcome] := rfl

@[simp] theorem pauses_final : (final outcome).pauses = [] := rfl

@[simp] theorem outcome_after : (rest.after p).outcome = rest.outcome := rfl

@[simp] theorem events_after : (rest.after p).events = p.events ++ rest.events := rfl

@[simp] theorem calls_after : (rest.after p).calls = .error .unavailable :: rest.calls := rfl

@[simp] theorem pauses_after : (rest.after p).pauses = p :: rest.pauses := rfl

end Result

/-! ### Attempts -/

/-- One of the retries is used up, unless there is none. -/
theorem toNat_pred_add_one {retries : UInt16} (h : retries ≠ 0) :
    (retries - 1).toNat + 1 = retries.toNat := by
  have hpos : 0 < retries.toNat := Nat.pos_of_ne_zero fun h0 => h (UInt16.toNat_inj.1 h0)
  have hle : 1 ≤ retries := UInt16.le_iff_toNat_le.2 hpos
  rw [UInt16.toNat_sub_of_le _ _ hle]
  exact Nat.sub_add_cancel hpos

/-- Attempts with a number of retries, the next pause taking a given time. -/
def attempts (outcomes : Nat → Except Failure α) (retries : UInt16) (call delay : Nat)
    (random : Nat → Nat) : Result α :=
  match outcomes call with
  | .error .unavailable =>
    if retries = 0 then .final (.error .unavailable)
    else
      let (later, random) := nextDelay delay random
      .after ⟨delay, retries - 1⟩ (attempts outcomes (retries - 1) (call + 1) later random)
  | outcome => .final outcome
  termination_by retries.toNat
  decreasing_by exact Nat.lt_of_succ_le (Nat.le_of_eq (toNat_pred_add_one ‹_›))

/-- Attempts until the database is available or no retries are left. -/
def retry (outcomes : Nat → Except Failure α) (retries : Nat) (random : Nat → Nat) : Result α :=
  attempts outcomes (.ofNat retries) 0 (firstDelay (random 0)) fun n => random (n + 1)

end BookingOffice.Retry
