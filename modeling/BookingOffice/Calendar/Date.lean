/-!
Days of the Gregorian calendar, carried on before its introduction, and their numbers counted from
the first of January 1970. The calendar repeats after 400 years, or 146097 days; inside such a cycle
the years are taken from March to February, so that the leap day comes last.
-/

namespace BookingOffice

/-- A day by year, month and day of the month. -/
structure Date where
  year : Int
  month : Nat
  day : Nat
  deriving DecidableEq, Repr

namespace Date

/-- Whether the year has a twenty-ninth of February. -/
def isLeap (year : Int) : Bool := year % 4 = 0 && (year % 100 ≠ 0 || year % 400 = 0)

/-- The number of days of a month. -/
def monthLength (year : Int) (month : Nat) : Nat :=
  if month = 2 then (if isLeap year then 29 else 28)
  else if month = 4 ∨ month = 6 ∨ month = 9 ∨ month = 11 then 30
  else 31

/-- Whether the month and the day exist. -/
def IsValid (d : Date) : Prop :=
  1 ≤ d.month ∧ d.month ≤ 12 ∧ 1 ≤ d.day ∧ d.day ≤ monthLength d.year d.month

instance (d : Date) : Decidable d.IsValid :=
  inferInstanceAs (Decidable (_ ∧ _ ∧ _ ∧ _))

/-- The number of days from the first of January 1970 to this one. -/
def dayNumber (d : Date) : Int :=
  let year := if d.month ≤ 2 then d.year - 1 else d.year
  let month : Int := if d.month ≤ 2 then d.month + 9 else d.month - 3
  let cycle := year / 400
  let ofCycle := year % 400
  let ofYear := (153 * month + 2) / 5 + d.day - 1
  cycle * 146097 + ofCycle * 365 + ofCycle / 4 - ofCycle / 100 + ofYear - 719468

/-- The day with a given number. -/
def ofDayNumber (n : Int) : Date :=
  let days := n + 719468
  let cycle := days / 146097
  let ofCycle := days % 146097
  let year := (ofCycle - ofCycle / 1460 + ofCycle / 36524 - ofCycle / 146096) / 365
  let ofYear := ofCycle - (365 * year + year / 4 - year / 100)
  let month := (5 * ofYear + 2) / 153
  let day := ofYear - (153 * month + 2) / 5 + 1
  let civilMonth := if month < 10 then month + 3 else month - 9
  { year := year + cycle * 400 + if civilMonth ≤ 2 then 1 else 0
    month := civilMonth.toNat
    day := day.toNat }

example : (⟨1970, 1, 1⟩ : Date).dayNumber = 0 ∧ (⟨2000, 3, 1⟩ : Date).dayNumber = 11017 := by decide

example : ofDayNumber (-719529) = ⟨-1, 12, 31⟩ ∧ ofDayNumber 19782 = ⟨2024, 2, 29⟩ := by decide

end Date

end BookingOffice
