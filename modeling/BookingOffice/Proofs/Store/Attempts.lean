import BookingOffice.Store.Incident
import BookingOffice.Store.Retry
import Mathlib.Data.ENat.Lattice
import Mathlib.Tactic.Common
import Mathlib.Tactic.IntervalCases

/-!
How often and how patiently an operation is tried. Attempts go on while the database is unavailable
and retries are left, and every attempt but the last is followed by one warning and one pause. The
counter of sixteen bits counts down like a natural number, so it never falls below zero.

* `Retry.Runs`: the ways in which attempts may go, with a natural number as the counter;
* `Retry.runs_attempts`: attempts go in one of these ways;
* `Retry.outages`: how often the database is unavailable before anything else comes of a call;
* `Retry.persists`: how often the operation is called, what comes of it, and what is done meanwhile.
-/

namespace BookingOffice.Retry

variable {α : Type} {outcomes : Nat → Except Failure α}

/-! ### Pauses -/

/-- Whether a pause of one length may be followed by a pause of another one. -/
def MayFollow (later delay : Nat) : Prop := delay ≤ later ∧ (delay < 6000 → later < 6000)

lemma mayFollow_nextDelay (delay : Nat) (random : Nat → Nat) :
    MayFollow (nextDelay delay random).1 delay := by
  have hmod := Nat.mod_lt (random 0) (by decide : 0 < 1000)
  rw [nextDelay]
  split
  · exact ⟨Nat.le_add_right _ _, fun _ => by dsimp only; omega⟩
  · exact ⟨Nat.le_refl _, id⟩

lemma firstDelay_mem (random : Nat) : 100 ≤ firstDelay random ∧ firstDelay random ≤ 999 := by
  rw [firstDelay]
  omega

/-! ### Runs -/

/-- The ways in which attempts may go from some call on, with some retries left and the next pause
taking some time. -/
inductive Runs (outcomes : Nat → Except Failure α) : (retries call delay : Nat) → Result α → Prop
  /-- The database is available, or fails for another reason. -/
  | settled {retries call delay : Nat} (h : outcomes call ≠ .error .unavailable) :
      Runs outcomes retries call delay (.final (outcomes call))
  /-- The database is unavailable, and no retries are left. -/
  | exhausted {call delay : Nat} (h : outcomes call = .error .unavailable) :
      Runs outcomes 0 call delay (.final (.error .unavailable))
  /-- The database is unavailable, and it is tried again after a pause. -/
  | again {retries call later : Nat} {p : Pause} {rest : Result α}
      (h : outcomes call = .error .unavailable) (hleft : p.attemptsLeft.toNat = retries)
      (hlater : MayFollow later p.delay) (hrest : Runs outcomes retries (call + 1) later rest) :
      Runs outcomes (retries + 1) call p.delay (rest.after p)

/-- Attempts go in one of these ways. -/
lemma runs_attempts (outcomes : Nat → Except Failure α) (retries : UInt16) (call delay : Nat)
    (random : Nat → Nat) :
    Runs outcomes retries.toNat call delay (attempts outcomes retries call delay random) := by
  fun_induction attempts outcomes retries call delay random with
  | case1 call delay random h => exact .exhausted h
  | case2 retries call delay random h hretries later random' hnext ih =>
    have hlater : MayFollow later delay := by
      have := mayFollow_nextDelay delay random
      rwa [hnext] at this
    -- the counter is not zero here, so that it loses one and does not wrap around
    rw [← toNat_pred_add_one hretries]
    exact .again (p := ⟨delay, retries - 1⟩) h rfl hlater ih
  | case3 retries call delay random h => exact .settled h

namespace Runs

variable {retries call delay : Nat} {r : Result α}

/-- Every attempt but the last is followed by one warning and one sleep. -/
lemma events_eq (h : Runs outcomes retries call delay r) :
    r.events = (r.pauses.flatMap fun p =>
      [.call (.error .unavailable), .warn p, .sleep p.delay]) ++ [.call r.outcome] := by
  induction h with
  | settled h => rfl
  | exhausted h => rfl
  | again h hleft hlater hrest ih =>
    rw [Result.events_after, Pause.events, ih, Result.pauses_after, List.flatMap_cons,
      List.append_assoc, Result.outcome_after]

/-- So the operation is called once more than there are pauses, and what comes of each call is the
next outcome. -/
lemma calls_eq (h : Runs outcomes retries call delay r) :
    r.calls = (List.range' call (r.pauses.length + 1)).map outcomes := by
  induction h with
  | settled h => rfl
  | exhausted h => simp [h]
  | again h hleft hlater hrest ih =>
    rw [Result.calls_after, Result.pauses_after, List.length_cons, List.range'_succ, List.map_cons,
      ih, h]

lemma outcome_eq (h : Runs outcomes retries call delay r) :
    r.outcome = outcomes (call + r.pauses.length) := by
  induction h with
  | settled h => rfl
  | exhausted h => exact h.symm
  | again h hleft hlater hrest ih =>
    rw [Result.outcome_after, Result.pauses_after, List.length_cons, ih]
    congr 1
    omega

/-- Before each pause the database is unavailable. -/
lemma eq_unavailable (h : Runs outcomes retries call delay r) :
    ∀ i < r.pauses.length, outcomes (call + i) = .error .unavailable := by
  induction h with
  | settled h => simp
  | exhausted h => simp
  | again h hleft hlater hrest ih =>
    intro i hi
    cases i with
    | zero => exact h
    | succ i =>
      rw [Result.pauses_after, List.length_cons] at hi
      have := ih i (by omega)
      rwa [Nat.add_right_comm, Nat.add_assoc] at this

lemma length_le (h : Runs outcomes retries call delay r) : r.pauses.length ≤ retries := by
  induction h with
  | settled h => exact Nat.zero_le _
  | exhausted h => exact Nat.zero_le _
  | again h hleft hlater hrest ih => exact Nat.succ_le_succ ih

/-- Attempts end with an unavailable database only if all retries have been used up. -/
lemma length_eq (h : Runs outcomes retries call delay r) (hr : r.outcome = .error .unavailable) :
    r.pauses.length = retries := by
  induction h with
  | settled h => exact absurd hr h
  | exhausted h => rfl
  | again h hleft hlater hrest ih => exact congrArg (· + 1) (ih hr)

/-- The warnings count the attempts left down from the number of retries. -/
lemma attemptsLeft (h : Runs outcomes retries call delay r) :
    ∀ (i : Nat) (p : Pause), r.pauses[i]? = some p →
      p.attemptsLeft.toNat + (i + 1) = retries := by
  induction h with
  | settled h => simp
  | exhausted h => simp
  | again h hleft hlater hrest ih =>
    intro i p hp
    cases i with
    | zero =>
      obtain rfl : _ = p := by simpa using hp
      rw [hleft]
    | succ i =>
      have := ih i p (by simpa using hp)
      omega

lemma delay_head (h : Runs outcomes retries call delay r) :
    ∀ p ∈ r.pauses.head?, p.delay = delay := by
  cases h with
  | settled h => simp
  | exhausted h => simp
  | again h hleft hlater hrest => simp

/-- No pause is shorter than the first one. -/
lemma le_delay (h : Runs outcomes retries call delay r) : ∀ p ∈ r.pauses, delay ≤ p.delay := by
  induction h with
  | settled h => simp
  | exhausted h => simp
  | again h hleft hlater hrest ih =>
    intro p hp
    rcases List.mem_cons.1 hp with rfl | hp
    · exact Nat.le_refl _
    · exact hlater.1.trans (ih p hp)

/-- No pause is shorter than one before it. -/
lemma pairwise_delay (h : Runs outcomes retries call delay r) :
    r.pauses.Pairwise fun p q => p.delay ≤ q.delay := by
  induction h with
  | settled h => exact .nil
  | exhausted h => exact .nil
  | again h hleft hlater hrest ih =>
    exact .cons (fun q hq => hlater.1.trans (hrest.le_delay q hq)) ih

/-- No pause takes six seconds. -/
lemma delay_lt (h : Runs outcomes retries call delay r) (hdelay : delay < 6000) :
    ∀ p ∈ r.pauses, p.delay < 6000 := by
  induction h with
  | settled h => simp
  | exhausted h => simp
  | again h hleft hlater hrest ih =>
    intro p hp
    rcases List.mem_cons.1 hp with rfl | hp
    · exact hdelay
    · exact ih (hlater.2 hdelay) p hp

end Runs

/-! ### Outages -/

/-- How often the database is unavailable before anything else comes of a call, which is the number
of the first call that anything else comes of. -/
noncomputable def outages (outcomes : Nat → Except Failure α) : ℕ∞ :=
  ⨅ (call : ℕ) (_ : outcomes call ≠ .error .unavailable), (call : ℕ∞)

lemma natCast_lt_outages_iff {n : ℕ} :
    (n : ℕ∞) < outages outcomes ↔ ∀ i ≤ n, outcomes i = .error .unavailable := by
  rw [← ENat.add_one_le_iff (ENat.natCast_ne_top n), outages, le_iInf₂_iff]
  refine forall_congr' fun i => ?_
  rw [← not_imp_not, not_not]
  norm_cast
  rw [Nat.not_le, Nat.lt_add_one_iff]

lemma outages_eq {k : ℕ} (h : outcomes k ≠ .error .unavailable)
    (hbefore : ∀ i < k, outcomes i = .error .unavailable) : outages outcomes = k := by
  refine le_antisymm (iInf₂_le k h) (le_iInf₂ fun i hi => ?_)
  exact Nat.cast_le.2 (Nat.le_of_not_lt fun hlt => hi (hbefore i hlt))

/-! ### Persistence -/

/-- How an operation is tried with a number of retries, and what is done meanwhile. -/
structure Persists (outcomes : Nat → Except Failure α) (retries : Nat) (r : Result α) : Prop where
  /-- The operation is called once, and once more for each time that the database is unavailable,
  as long as there are retries. -/
  length_calls : (r.calls.length : ℕ∞) = min (outages outcomes) retries + 1
  /-- What comes of the calls are the outcomes in their order. -/
  calls_eq : r.calls = (List.range r.calls.length).map outcomes
  /-- The first other outcome is what the attempts come to, if there are retries enough. -/
  settles : ∀ k : ℕ, outages outcomes = k → k ≤ retries → r.outcome = outcomes k
  /-- If there are not, the database is reported to be unavailable. -/
  givesUp : (retries : ℕ∞) < outages outcomes → r.outcome = .error .unavailable
  /-- Between one call and the next there are one warning and one sleep, which takes the time that
  the warning tells. Nothing else is done, and nothing after the last call. -/
  events_eq : r.events = (r.pauses.flatMap fun p =>
    [.call (.error .unavailable), .warn p, .sleep p.delay]) ++ [.call r.outcome]
  /-- The warnings tell how many attempts are left, which are never fewer than none. -/
  warning : ∀ (i : Nat) (p : Pause), r.pauses[i]? = some p →
    p.attemptsLeft.toNat + (i + 1) = retries ∧
      p.warning = ⟨.warn, s!"Database is unavailable; waiting {p.delay}ms before retrying with " ++
        s!"{retries - (i + 1)} attempts left"⟩
  delay_head : ∀ p ∈ r.pauses.head?, 100 ≤ p.delay ∧ p.delay ≤ 999
  pairwise_delay : r.pauses.Pairwise fun p q => p.delay ≤ q.delay
  delay_lt : ∀ p ∈ r.pauses, p.delay < 6000

lemma Runs.length_pauses {retries delay : Nat} {r : Result α}
    (h : Runs outcomes retries 0 delay r) :
    (r.pauses.length : ℕ∞) = min (outages outcomes) retries := by
  have hbefore : ∀ i < r.pauses.length, outcomes i = .error .unavailable := by
    simpa using h.eq_unavailable
  -- the call after the last pause tells whether the outage or the retries ended first
  by_cases hr : outcomes r.pauses.length = .error .unavailable
  · have hlength : r.pauses.length = retries := by
      refine h.length_eq ?_
      rw [h.outcome_eq, Nat.zero_add, hr]
    have hlt : (retries : ℕ∞) < outages outcomes := by
      refine natCast_lt_outages_iff.2 fun i hi => ?_
      rcases Nat.lt_or_eq_of_le (hlength ▸ hi) with hi | rfl
      · exact hbefore i hi
      · exact hr
    rw [min_eq_right hlt.le, hlength]
  · rw [outages_eq hr hbefore, min_eq_left (Nat.cast_le.2 h.length_le)]

lemma Pause.warning_eq {p : Pause} {n : Nat} (h : p.attemptsLeft.toNat = n) :
    p.warning = ⟨.warn, s!"Database is unavailable; waiting {p.delay}ms before retrying with " ++
      s!"{n} attempts left"⟩ := by
  rw [← h]
  rfl

/-- So it is tried with all numbers of retries and all random numbers, whatever it fails with. -/
theorem persists {ε : Type} (toFailure : ε → Failure) (operation : Nat → Except ε α)
    (retries : UInt16) (random : Nat → Nat) :
    let outcomes := fun call => (operation call).mapError toFailure
    Persists outcomes retries.toNat (retry outcomes retries.toNat random) := by
  intro outcomes
  have hruns : Runs outcomes retries.toNat 0 (firstDelay (random 0))
      (retry outcomes retries.toNat random) := by
    rw [retry, UInt16.ofNat_toNat]
    exact runs_attempts _ _ _ _ _
  generalize retry outcomes retries.toNat random = r at hruns
  have hpauses := hruns.length_pauses
  have hfirst := firstDelay_mem (random 0)
  have hcalls := hruns.calls_eq
  have hlength : r.calls.length = r.pauses.length + 1 := by
    rw [hcalls, List.length_map, List.length_range']
  have houtcome : r.outcome = outcomes r.pauses.length := by
    rw [hruns.outcome_eq, Nat.zero_add]
  exact {
    length_calls := by
      rw [hlength, ← hpauses]
      rfl
    calls_eq := by
      rw [hlength, List.range_eq_range']
      exact hcalls
    settles := by
      intro k hk hle
      rw [hk, min_eq_left (Nat.cast_le.2 hle)] at hpauses
      rw [houtcome, Nat.cast_injective hpauses]
    givesUp := by
      intro hlt
      rw [min_eq_right hlt.le] at hpauses
      rw [houtcome, Nat.cast_injective hpauses]
      exact natCast_lt_outages_iff.1 hlt _ le_rfl
    events_eq := hruns.events_eq
    warning := by
      intro i p hp
      have hleft := hruns.attemptsLeft i p hp
      exact ⟨hleft, Pause.warning_eq (by omega)⟩
    delay_head := by
      intro p hp
      rwa [hruns.delay_head p hp]
    pairwise_delay := hruns.pairwise_delay
    delay_lt := hruns.delay_lt (by omega) }

/-- A server without room that then finds a key to be taken. With two retries the operation is
called three times and comes to that, and with one retry it is given up. All that is done is
listed. -/
theorem persists_full_server (random : Nat → Nat) :
    let incident : Nat → Incident
      | 0 => .poolTimedOut
      | 1 => .refused "53300" "too many connections"
      | _ => .refused "23505" "duplicate key"
    let operation (call : Nat) : Except Incident Unit := .error (incident call)
    let outcomes := fun call => (operation call).mapError (Incident.toFailure .postgres)
    let first := 100 + random 0 % 900
    let second := first + random 1 % 1000
    outages outcomes = 2 ∧
      (Persists outcomes 2 (retry outcomes 2 random) ∧
        (retry outcomes 2 random).calls.length = 3 ∧
        (retry outcomes 2 random).outcome = .error .alreadyExists ∧
        (retry outcomes 2 random).events =
          [.call (.error .unavailable), .warn ⟨first, 1⟩, .sleep first,
            .call (.error .unavailable), .warn ⟨second, 0⟩, .sleep second,
            .call (.error .alreadyExists)]) ∧
      Persists outcomes 1 (retry outcomes 1 random) ∧
        (retry outcomes 1 random).calls.length = 2 ∧
        (retry outcomes 1 random).outcome = .error .unavailable ∧
        (retry outcomes 1 random).events =
          [.call (.error .unavailable), .warn ⟨first, 0⟩, .sleep first,
            .call (.error .unavailable)] := by
  intro incident operation outcomes first second
  have houtages : outages outcomes = (2 : ℕ) := by
    refine outages_eq (by decide) fun i hi => ?_
    interval_cases i <;> rfl
  have htwo : Persists outcomes 2 (retry outcomes 2 random) :=
    persists (Incident.toFailure .postgres) operation 2 random
  have hone : Persists outcomes 1 (retry outcomes 1 random) :=
    persists (Incident.toFailure .postgres) operation 1 random
  have hlt : ((1 : ℕ) : ℕ∞) < outages outcomes := by
    rw [houtages]
    exact Nat.cast_lt.2 (Nat.lt_succ_self 1)
  have hcalls := htwo.length_calls
  have hcalls' := hone.length_calls
  rw [houtages, min_self] at hcalls
  rw [min_eq_right hlt.le] at hcalls'
  -- the first pause is short enough for the second one to be longer
  have hfirst : 100 + random 0 % 900 < 5000 := by omega
  have hfailure : outcomes 0 = .error .unavailable ∧ outcomes 1 = .error .unavailable ∧
      outcomes 2 = .error .alreadyExists := ⟨rfl, rfl, rfl⟩
  refine ⟨houtages, ⟨htwo, by exact_mod_cast hcalls, htwo.settles 2 houtages le_rfl, ?_⟩,
    hone, by exact_mod_cast hcalls', hone.givesUp hlt, ?_⟩
  · simp [retry, attempts, hfailure, nextDelay, hfirst, Pause.events, firstDelay, first, second]
  · simp [retry, attempts, hfailure, Pause.events, firstDelay, first]

end BookingOffice.Retry
