import BookingOffice.Calendar.Rfc3339
import Mathlib.Tactic.Common

/-!
Written times that leave the calendar. The year of a written time has four digits, and its offset
is below a day, so in UTC it is never before the calendar starts. It may well be after the calendar
ends: at the end of the year 9999, on a clock that is behind UTC.

* `Rfc3339.Strays`: whether a text is such a time;
* `Rfc3339.firstNano_le_of_read?`: no written time is too early;
* `Rfc3339.toInstant?_eq_none_iff`: so a written time without a UTC time is too late.
-/

namespace BookingOffice

/-- The year 0 starts 719528 days before 1970. -/
lemma Date.le_dayNumber {d : Date} (hvalid : d.IsValid) (hyear : 0 ≤ d.year) :
    -719528 ≤ d.dayNumber := by
  obtain ⟨hmonth, -, hday, -⟩ := hvalid
  simp only [dayNumber]
  split <;> omega

namespace Rfc3339

/-- Whether a text is a time that lies beyond the end of the calendar once it is moved to UTC. -/
def Strays (s : String) : Prop := ∃ m, read? s = some m ∧ lastNano < m.utcNanos

/-- An offset is below a day. -/
lemma offset?_mem {cs : List Char} {offset : Int} (h : offset? cs = some offset) :
    -86340 ≤ offset ∧ offset ≤ 86340 := by
  unfold offset? at h
  split at h
  · cases h; omega
  · cases h; omega
  · split at h
    · obtain ⟨⟨hours, cs⟩, -, h⟩ := Option.bind_eq_some_iff.1 h
      obtain ⟨cs, -, h⟩ := Option.bind_eq_some_iff.1 h
      obtain ⟨⟨minutes, cs⟩, -, h⟩ := Option.bind_eq_some_iff.1 h
      obtain ⟨⟨hhours, hminutes, -⟩, hoffset⟩ := Option.ite_none_right_eq_some.1 h
      obtain rfl := Option.some.inj hoffset
      split <;> omega
    · cases h
  · cases h

/-- The clock of a moment shows a time of its date. -/
lemma le_clock_of_moment? {date : Date} {hour minute second nano : Nat} {offset : Int} {m : Moment}
    (h : moment? date hour minute second nano offset = some m) :
    m.offset = offset ∧ date.IsValid ∧ date.dayNumber * dayNanos ≤ m.clock.nanos := by
  simp only [moment?, Option.ite_none_right_eq_some] at h
  obtain ⟨hbounds, h⟩ := h
  obtain ⟨clock, hclock, h⟩ := Option.bind_eq_some_iff.1 h
  have hnanos := Instant.ofNanos?_eq_some_iff.1 hclock
  obtain ⟨-, hm⟩ := Option.ite_none_left_eq_some.1 h
  obtain rfl := Option.some.inj hm
  refine ⟨rfl, hbounds.1, ?_⟩
  change _ ≤ clock.nanos
  rw [hnanos]
  omega

/-- In UTC no written time is before the calendar starts. -/
lemma firstNano_le_of_read? {s : String} {m : Moment} (h : read? s = some m) :
    firstNano ≤ m.utcNanos := by
  rw [read?] at h
  obtain ⟨⟨year, cs⟩, -, h⟩ := Option.bind_eq_some_iff.1 h
  obtain ⟨cs, -, h⟩ := Option.bind_eq_some_iff.1 h
  obtain ⟨⟨month, cs⟩, -, h⟩ := Option.bind_eq_some_iff.1 h
  obtain ⟨cs, -, h⟩ := Option.bind_eq_some_iff.1 h
  obtain ⟨⟨day, cs⟩, -, h⟩ := Option.bind_eq_some_iff.1 h
  obtain ⟨separator, -, h⟩ := Option.bind_eq_some_iff.1 h
  split at h
  · cases h
  · obtain ⟨⟨hour, cs⟩, -, h⟩ := Option.bind_eq_some_iff.1 h
    obtain ⟨cs, -, h⟩ := Option.bind_eq_some_iff.1 h
    obtain ⟨⟨minute, cs⟩, -, h⟩ := Option.bind_eq_some_iff.1 h
    obtain ⟨cs, -, h⟩ := Option.bind_eq_some_iff.1 h
    obtain ⟨⟨second, cs⟩, -, h⟩ := Option.bind_eq_some_iff.1 h
    obtain ⟨⟨nano, cs⟩, -, h⟩ := Option.bind_eq_some_iff.1 h
    obtain ⟨offset, hoffset, h⟩ := Option.bind_eq_some_iff.1 h
    obtain ⟨hmoffset, hvalid, hclock⟩ := le_clock_of_moment? h
    have hday := Date.le_dayNumber hvalid (Int.natCast_nonneg year)
    have hbounds := offset?_mem hoffset
    rw [Moment.utcNanos, hmoffset]
    simp only [firstNano, dayNanos] at hclock ⊢
    omega

/-- A written time has a UTC time unless it is too late for one. -/
lemma toInstant?_eq_none_iff {s : String} {m : Moment} (h : read? s = some m) :
    m.toInstant? = none ↔ lastNano < m.utcNanos := by
  have hfirst := firstNano_le_of_read? h
  rw [Moment.toInstant?, Instant.ofNanos?]
  split
  · next hin => simp [hin.2]
  · next hout => simp; omega

end Rfc3339

end BookingOffice
