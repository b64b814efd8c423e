import BookingOffice.Calendar.Date
import BookingOffice.Number.Power

/-!
Points in time. The calendar holds the years from -9999 to 9999, to the nanosecond. An `Instant` is
a point of the calendar in UTC. A `Moment` is a point as a clock somewhere shows it: the local time,
which the calendar holds, and its distance from UTC. Near the ends of the calendar a moment need not
have a UTC time (`Moment.toInstant?`).

Stored times count microseconds. There are two ways down to them: `truncated` drops the digits of
the written time after the sixth, `micros` divides the count of nanoseconds.
-/

namespace BookingOffice

/-- The number of nanoseconds of a day. -/
def dayNanos : Int := 86400 * 10 ^ 9

/-- The first nanosecond of the calendar, counted from 1970. -/
def firstNano : Int := -377705116800 * 10 ^ 9

/-- The last nanosecond of the calendar, counted from 1970. -/
def lastNano : Int := 253402300800 * 10 ^ 9 - 1

theorem firstNano_eq : firstNano = (⟨-9999, 1, 1⟩ : Date).dayNumber * dayNanos := by decide

/-- A point in time in UTC. -/
structure Instant where
  /-- The nanoseconds since the start of 1970. -/
  nanos : Int
  inCalendar : firstNano ≤ nanos ∧ nanos ≤ lastNano
  deriving DecidableEq

namespace Instant

/-- The instant of a count of nanoseconds. -/
def ofNanos? (nanos : Int) : Option Instant :=
  if h : firstNano ≤ nanos ∧ nanos ≤ lastNano then some ⟨nanos, h⟩ else none

/-- The instant of a count of microseconds. -/
def ofMicros? (micros : Int) : Option Instant := ofNanos? (micros * 1000)

/-- The instant of a count of seconds. -/
def ofSeconds? (seconds : Int) : Option Instant := ofNanos? (seconds * 10 ^ 9)

/-- The start of 1970. -/
def epoch : Instant := ⟨0, by decide⟩

instance : Inhabited Instant := ⟨epoch⟩

/-- The count of microseconds, rounded toward 1970. -/
def micros (t : Instant) : Int := t.nanos.tdiv 1000

/-- The instant without its digits after the microseconds. -/
def truncated (t : Instant) : Instant :=
  ⟨t.nanos - t.nanos % 1000, by
    have h := t.inCalendar
    simp only [firstNano, lastNano] at h ⊢
    omega⟩

/-- The count of whole seconds. -/
def seconds (t : Instant) : Int := t.nanos / 10 ^ 9

/-- The day in UTC. -/
def date (t : Instant) : Date := Date.ofDayNumber (t.nanos / dayNanos)

/-- The nanoseconds since the start of the day. -/
def ofDay (t : Instant) : Nat := (t.nanos % dayNanos).toNat

theorem ofNanos?_eq_some_iff {nanos : Int} {t : Instant} :
    ofNanos? nanos = some t ↔ t.nanos = nanos := by
  rw [ofNanos?]
  constructor
  · intro h
    split at h
    · cases h; rfl
    · cases h
  · intro h
    have ht := t.inCalendar
    rw [h] at ht
    rw [dif_pos ht]
    cases t; cases h; rfl

theorem micros_ofMicros? {m : Int} {t : Instant} (h : ofMicros? m = some t) : t.micros = m := by
  rw [micros, ofNanos?_eq_some_iff.1 h]
  exact Int.mul_tdiv_cancel m (by decide)

end Instant

/-- A point in time with the clock that shows it. -/
structure Moment where
  /-- The time on the clock, placed in the calendar as if it were UTC. -/
  clock : Instant
  /-- The seconds that the clock is ahead of UTC. -/
  offset : Int
  deriving DecidableEq

namespace Moment

/-- The nanoseconds of the moment since the start of 1970 in UTC. -/
def utcNanos (m : Moment) : Int := m.clock.nanos - m.offset * 10 ^ 9

/-- The moment in UTC, unless that lies outside of the calendar. -/
def toInstant? (m : Moment) : Option Instant := Instant.ofNanos? m.utcNanos

/-- The count of microseconds since the start of 1970 in UTC, rounded toward 1970 and kept in
sixty-four bits. -/
def packed (m : Moment) : Int64 := .ofInt (m.utcNanos.tdiv 1000)

/-- An instant as a clock with a given offset shows it. -/
def ofInstant? (t : Instant) (offset : Int) : Option Moment :=
  (Instant.ofNanos? (t.nanos + offset * 10 ^ 9)).map (⟨·, offset⟩)

end Moment

end BookingOffice
