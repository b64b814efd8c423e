import BookingOffice.Calendar.Instant

/-!
Clocks. The clock of the system is read in nanoseconds and rounded toward 1970 to microseconds,
which is all that storage keeps. A steady clock starts at a whole second and moves on by one second
with every reading.
-/

namespace BookingOffice.Clock

/-- A reading of the system's clock. -/
def ofSystem (nanos : Int) : Option Instant := Instant.ofNanos? (nanos.tdiv 1000 * 1000)

/-- The n-th reading of a steady clock, unless it has left the calendar. -/
def steady (start : Instant) (n : Nat) : Option Instant := Instant.ofSeconds? (start.seconds + n)

end BookingOffice.Clock
