import BookingOffice.Calendar.Date
import Mathlib.Algebra.Order.Ring.Int
import Mathlib.Algebra.Order.SuccPred
import Mathlib.Order.Monotone.Basic
import Mathlib.Tactic.Common
import Mathlib.Tactic.IntervalCases

/-!
Days and their numbers.

Inside a cycle of 400 years, which start in March, the year of a day never decreases from one day to
the next, so its value on the first and on the last day of each year settles it in between
(`Date.yearOfCycle_eq`).

* `Date.isValid_ofDayNumber`: every number is that of a day of the calendar;
* `Date.dayNumber_ofDayNumber`: and it is the number of that day;
* `Date.le_year_iff`: days are in the order of their years.
-/

namespace BookingOffice.Date

/-! ### Years of a cycle -/

/-- The first day of a year of a cycle, counted from the start of the cycle. -/
def startOfYear (y : Nat) : Int := 365 * y + y / 4 - y / 100 + y / 400

/-- The year of a cycle that a day of the cycle lies in. -/
def yearOfCycle (d : Int) : Int := (d - d / 1460 + d / 36524 - d / 146096) / 365

lemma yearOfCycle_le_succ (d : Int) : yearOfCycle d ≤ yearOfCycle (d + 1) := by
  have h4 : (d + 1) / 1460 ≤ d / 1460 + 1 := by omega
  have h100 : d / 36524 ≤ (d + 1) / 36524 ∧ (d + 1) / 36524 ≤ d / 36524 + 1 := by omega
  have h400 : ∀ e : Int, e / 146096 = e / 36524 / 4 := fun e => by omega
  refine Int.ediv_le_ediv (by decide) ?_
  rw [h400, h400]
  generalize d / 36524 = a, (d + 1) / 36524 = b, d / 1460 = c, (d + 1) / 1460 = e at *
  omega

/-- The year never decreases from day to day. -/
lemma yearOfCycle_mono {d e : Int} (h : d ≤ e) : yearOfCycle d ≤ yearOfCycle e :=
  monotone_int_of_le_succ yearOfCycle_le_succ h

lemma yearOfCycle_ends : ∀ y < 400,
    yearOfCycle (startOfYear y) = y ∧ yearOfCycle (startOfYear (y + 1) - 1) = y := by
  decide +kernel

/-- The days of a year lie in it. -/
lemma yearOfCycle_eq {d : Int} {y : Nat} (hy : y < 400) (h0 : startOfYear y ≤ d)
    (h1 : d < startOfYear (y + 1)) : yearOfCycle d = y := by
  obtain ⟨hfirst, hlast⟩ := yearOfCycle_ends y hy
  have hle := yearOfCycle_mono h0
  have hge := yearOfCycle_mono (show d ≤ startOfYear (y + 1) - 1 by omega)
  omega

lemma exists_startOfYear_le {d : Int} (h0 : 0 ≤ d) :
    ∀ n, d < startOfYear n → ∃ y < n, startOfYear y ≤ d ∧ d < startOfYear (y + 1) := by
  intro n
  induction n with
  | zero => intro h; simp only [startOfYear] at h; omega
  | succ n ih =>
    intro h
    by_cases hn : d < startOfYear n
    · obtain ⟨y, hy, hd⟩ := ih hn
      exact ⟨y, by omega, hd⟩
    · exact ⟨n, by omega, by omega, h⟩

/-- Every day number is made up of a cycle, a year of the cycle and a day of the year. -/
lemma exists_cycle_year_day (n : Int) :
    ∃ (cycle : Int) (y : Nat) (r : Int), y < 400 ∧ 0 ≤ r ∧ r < startOfYear (y + 1) - startOfYear y ∧
      n + 719468 = cycle * 146097 + (startOfYear y + r) ∧ startOfYear y + r < 146097 := by
  have h0 : 0 ≤ (n + 719468) % 146097 := by omega
  have h1 : (n + 719468) % 146097 < 146097 := by omega
  obtain ⟨y, hy, hle, hlt⟩ := exists_startOfYear_le h0 400 h1
  exact ⟨(n + 719468) / 146097, y, (n + 719468) % 146097 - startOfYear y, hy, by omega, by omega,
    by omega, by omega⟩

lemma startOfYear_nonneg (y : Nat) : 0 ≤ startOfYear y := by
  rw [startOfYear]
  omega

lemma startOfYear_eq {y : Nat} (hy : y < 400) :
    startOfYear y = 365 * (y : Int) + y / 4 - y / 100 := by
  rw [startOfYear]
  omega

lemma isLeap_iff {year : Int} :
    isLeap year ↔ year % 4 = 0 ∧ (year % 100 ≠ 0 ∨ year % 400 = 0) := by
  simp [isLeap]

/-- A year has a leap day at its end if the next calendar year is a leap year. -/
lemma length_of_year {y : Nat} (cycle : Int) (hy : y < 400) :
    startOfYear (y + 1) - startOfYear y =
      if isLeap (y + cycle * 400 + 1) then 366 else 365 := by
  simp only [startOfYear]
  push_cast
  split
  · next h => rw [isLeap_iff] at h; omega
  · next h => rw [isLeap_iff] at h; omega

/-! ### Days -/

/-- The parts of the day with a number. The months are counted from March on. -/
lemma ofDayNumber_eq {n cycle r : Int} {y : Nat} (hy : y < 400) (h0 : 0 ≤ r)
    (h1 : r < startOfYear (y + 1) - startOfYear y)
    (hn : n + 719468 = cycle * 146097 + (startOfYear y + r)) (hlt : startOfYear y + r < 146097) :
    ∃ m : Int, 0 ≤ m ∧ m ≤ 11 ∧ (153 * m + 2) / 5 ≤ r ∧ r < (153 * (m + 1) + 2) / 5 ∧
      ofDayNumber n =
        { year := y + cycle * 400 + if m < 10 then 0 else 1
          month := (if m < 10 then m + 3 else m - 9).toNat
          day := (r - (153 * m + 2) / 5 + 1).toNat } := by
  have hs := startOfYear_nonneg y
  have hcycle : (n + 719468) / 146097 = cycle := by omega
  have hday : (n + 719468) % 146097 = startOfYear y + r := by omega
  have hyear : yearOfCycle (startOfYear y + r) = y := yearOfCycle_eq hy (by omega) (by omega)
  have hr : r ≤ 365 := by
    have := length_of_year 0 hy
    split at this <;> omega
  refine ⟨(5 * r + 2) / 153, by omega, by omega, by omega, by omega, ?_⟩
  rw [yearOfCycle] at hyear
  rw [startOfYear_eq hy] at *
  simp only [ofDayNumber, hcycle, hday, hyear, add_sub_cancel_left]
  by_cases hm : (5 * r + 2) / 153 < 10
  · rw [if_pos hm, if_neg (by omega), if_pos hm]
  · rw [if_neg hm, if_pos (by omega), if_neg hm]

/-- The day with a number has that number. -/
theorem dayNumber_ofDayNumber (n : Int) : (ofDayNumber n).dayNumber = n := by
  obtain ⟨cycle, y, r, hy, h0, h1, hn, hlt⟩ := exists_cycle_year_day n
  obtain ⟨m, hm0, hm1, hr0, hr1, h⟩ := ofDayNumber_eq hy h0 h1 hn hlt
  rw [h]
  rw [startOfYear_eq hy] at hn
  rw [dayNumber]
  by_cases hm : m < 10
  · simp only [if_pos hm]
    rw [if_neg (by omega), if_neg (by omega)]
    have hcycle : ((y : Int) + cycle * 400 + 0) / 400 = cycle := by omega
    have hyear : ((y : Int) + cycle * 400 + 0) % 400 = y := by omega
    rw [hcycle, hyear]
    omega
  · simp only [if_neg hm]
    rw [if_pos (by omega), if_pos (by omega)]
    have hcycle : ((y : Int) + cycle * 400 + 1 - 1) / 400 = cycle := by omega
    have hyear : ((y : Int) + cycle * 400 + 1 - 1) % 400 = y := by omega
    rw [hcycle, hyear]
    omega

/-- Every number is that of a day of the calendar. -/
theorem isValid_ofDayNumber (n : Int) : (ofDayNumber n).IsValid := by
  obtain ⟨cycle, y, r, hy, h0, h1, hn, hlt⟩ := exists_cycle_year_day n
  obtain ⟨m, hm0, hm1, hr0, hr1, h⟩ := ofDayNumber_eq hy h0 h1 hn hlt
  rw [length_of_year cycle hy] at h1
  rw [h]
  refine ⟨?_, ?_, ?_, ?_⟩
  · dsimp only; split <;> omega
  · dsimp only; split <;> omega
  · dsimp only; omega
  · -- the leap day, if any, is the last day of the eleventh month after March
    by_cases hfeb : m = 11
    · subst hfeb
      rw [show ((y : Int) + cycle * 400 + if (11 : Int) < 10 then 0 else 1) = y + cycle * 400 + 1
        from by rw [if_neg (by decide)]]
      rw [monthLength]
      split at h1
      · next hl => rw [hl]; simp; omega
      · next hl => simp only [Bool.not_eq_true] at hl; rw [hl]; simp; omega
    · rw [monthLength]
      interval_cases m <;> simp at hfeb ⊢ <;> omega

/-! ### Years -/

lemma monthLength_le (year : Int) (month : Nat) : monthLength year month ≤ 31 := by
  rw [monthLength]
  split
  · split <;> decide
  · split <;> decide

lemma dayNumber_newYear (year : Int) :
    (⟨year, 1, 1⟩ : Date).dayNumber =
      (year - 1) / 400 * 146097 + (year - 1) % 400 * 365 + (year - 1) % 400 / 4 -
        (year - 1) % 400 / 100 + 306 - 719468 := by
  simp only [dayNumber, if_pos (by decide : 1 ≤ 2)]
  omega

/-- The days of a year lie between its first day and that of the next year. -/
lemma dayNumber_mem_year {d : Date} (h : d.IsValid) :
    (⟨d.year, 1, 1⟩ : Date).dayNumber ≤ d.dayNumber ∧
      d.dayNumber < (⟨d.year + 1, 1, 1⟩ : Date).dayNumber := by
  obtain ⟨hmonth, hmonth', hday, hday'⟩ := h
  have hlength := hday'.trans (monthLength_le _ _)
  rw [dayNumber_newYear, dayNumber_newYear, dayNumber]
  constructor
  · split <;> omega
  · split <;> omega

lemma dayNumber_newYear_mono {y z : Int} (h : y ≤ z) :
    (⟨y, 1, 1⟩ : Date).dayNumber ≤ (⟨z, 1, 1⟩ : Date).dayNumber := by
  rw [dayNumber_newYear, dayNumber_newYear]
  omega

/-- A day is in a year or a later one if it is not before the first day of that year. -/
lemma le_year_iff {y n : Int} : y ≤ (ofDayNumber n).year ↔ (⟨y, 1, 1⟩ : Date).dayNumber ≤ n := by
  obtain ⟨hfirst, hnext⟩ := dayNumber_mem_year (isValid_ofDayNumber n)
  rw [dayNumber_ofDayNumber] at hfirst hnext
  constructor
  · intro h
    exact (dayNumber_newYear_mono h).trans hfirst
  · intro h
    by_contra hlt
    have := dayNumber_newYear_mono (Int.add_one_le_of_lt (Int.not_le.1 hlt))
    omega

end BookingOffice.Date
