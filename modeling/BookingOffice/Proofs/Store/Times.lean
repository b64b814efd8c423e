import BookingOffice.Proofs.Calendar.Days
import BookingOffice.Proofs.Store.Order

/-!
Times as storage counts them, in microseconds and in sixty-four bits. The bits hold the count of
every moment of every clock, and a count is read as a time exactly if the year that it lies in is
one of the calendar. Counts are in the order of the times, so that rows can be sorted and compared
by them.

* `Moment.toInt_packed`: nothing is lost in sixty-four bits;
* `Instant.inCalendar_iff`: what the ends of the calendar mean for the years;
* `Counted`: how times and counts go over into each other;
* `counted`: they do so for all counts and all moments.
-/

namespace BookingOffice

/-! ### Counts of moments -/

namespace Moment

/-- Whether a clock may be so many seconds ahead of UTC, or behind it: less than twenty-six
hours. -/
def IsOffset (seconds : Int) : Prop := seconds.natAbs < 26 * 3600

instance (seconds : Int) : Decidable (IsOffset seconds) := inferInstanceAs (Decidable (_ < _))

variable {m m' : Moment}

/-- The count of a moment of a clock takes no more than sixty-four bits. -/
lemma toInt_packed (h : IsOffset m.offset) : m.packed.toInt = m.utcNanos.tdiv 1000 := by
  have hclock := m.clock.inCalendar
  have hnanos : m.utcNanos = m.clock.nanos - m.offset * 10 ^ 9 := rfl
  have hcount := Instant.tdiv_thousand m.utcNanos
  rw [IsOffset] at h
  -- both ends of the calendar, moved by a day and more, are about 2 ^ 58 microseconds away
  simp only [firstNano, lastNano] at hclock
  exact Int64.toInt_ofInt_of_le (by omega) (by omega)

lemma packed_le_packed (hm : IsOffset m.offset) (hm' : IsOffset m'.offset)
    (h : m.utcNanos ≤ m'.utcNanos) : m.packed ≤ m'.packed := by
  rw [Int64.le_iff_toInt_le, toInt_packed hm, toInt_packed hm']
  exact Int.tdiv_le_tdiv (by decide) h

/-- Whole microseconds are counted exactly. -/
lemma toInt_packed_mul (h : IsOffset m.offset) (hwhole : m.utcNanos % 1000 = 0) :
    m.packed.toInt * 1000 = m.utcNanos := by
  rw [toInt_packed h]
  exact Int.tdiv_mul_cancel (Int.dvd_of_emod_eq_zero hwhole)

lemma packed_lt_packed_iff (hm : IsOffset m.offset) (hm' : IsOffset m'.offset)
    (hwhole : m.utcNanos % 1000 = 0) (hwhole' : m'.utcNanos % 1000 = 0) :
    m.packed < m'.packed ↔ m.utcNanos < m'.utcNanos := by
  have h := toInt_packed_mul hm hwhole
  have h' := toInt_packed_mul hm' hwhole'
  rw [Int64.lt_iff_toInt_lt]
  omega

/-- Clocks that show one instant have the same count. -/
lemma toInt_packed_of_toInstant? {t : Instant} (hm : IsOffset m.offset)
    (ht : m.toInstant? = some t) : m.packed.toInt = t.micros := by
  rw [toInt_packed hm, Instant.micros, Instant.ofNanos?_eq_some_iff.1 ht]

end Moment

namespace Instant

/-- An instant on a clock in UTC. -/
def inUtc (t : Instant) : Moment := ⟨t, 0⟩

lemma toInt_packed_inUtc (t : Instant) : t.inUtc.packed.toInt = t.micros :=
  Moment.toInt_packed_of_toInstant? (by decide : Moment.IsOffset 0)
    (ofNanos?_eq_some_iff.2 (Int.sub_zero t.nanos).symm)

end Instant

/-! ### The calendar -/

/-- The year in UTC at a number of nanoseconds after the start of 1970. -/
def yearAt (nanos : Int) : Int := (Date.ofDayNumber (nanos / dayNanos)).year

/-- The calendar holds the years from -9999 to 9999. -/
lemma Instant.inCalendar_iff {nanos : Int} :
    firstNano ≤ nanos ∧ nanos ≤ lastNano ↔ -9999 ≤ yearAt nanos ∧ yearAt nanos ≤ 9999 := by
  have hfirst : firstNano = (⟨-9999, 1, 1⟩ : Date).dayNumber * dayNanos := firstNano_eq
  have hlast : lastNano + 1 = (⟨10000, 1, 1⟩ : Date).dayNumber * dayNanos := by decide
  have hday : 0 < dayNanos := by decide
  have hlow : firstNano ≤ nanos ↔ -9999 ≤ yearAt nanos := by
    rw [yearAt, Date.le_year_iff, hfirst, Int.le_ediv_iff_mul_le hday]
  have hhigh : lastNano + 1 ≤ nanos ↔ 10000 ≤ yearAt nanos := by
    rw [yearAt, Date.le_year_iff, hlast, Int.le_ediv_iff_mul_le hday]
  omega

/-! ### Cells -/

/-- Cells that hold numbers are compared like anything that is in the order of the numbers. -/
lemma Cell.compare_integer {i j a b : Int} (hlt : i < j ↔ a < b) (hgt : j < i ↔ b < a) :
    (integer i).compare (integer j) = Ord.compare a b := by
  have hprecedes : ∀ i j : Int, (integer i).precedes (integer j) = true ↔ i < j := by
    simp [precedes, classRank]
  rw [compare, Int.compare_eq_ite_lt]
  simp only [hprecedes, hlt, hgt]

lemma Cell.readInstant_eq_ok_iff {count : Int} {t : Instant} :
    readInstant count = .ok t ↔ t.nanos = count * 1000 := by
  rw [← Instant.ofNanos?_eq_some_iff, ← Instant.ofMicros?, readInstant]
  cases Instant.ofMicros? count with
  | some t' => simp
  | none => simp

/-! ### Storage -/

/-- How times and counts go over into each other, for one count and the moments of two clocks. -/
structure Counted (count : Int64) (m m' : Moment) : Prop where
  /-- A count is read if the year that it lies in is one of the calendar. -/
  reads_iff : (∃ t, Cell.readInstant count.toInt = .ok t) ↔
    -9999 ≤ yearAt (count.toInt * 1000) ∧ yearAt (count.toInt * 1000) ≤ 9999
  /-- Otherwise the database holds something that cannot be read. -/
  refuses : ¬ (-9999 ≤ yearAt (count.toInt * 1000) ∧ yearAt (count.toInt * 1000) ≤ 9999) →
    (Cell.readInstant count.toInt).mapError (fun fault => Failure.integrity fault.message) =
      .error (.integrity s!"Invalid timestamp {count.toInt}: timestamp was not in range")
  /-- What is read is the instant that the count counts to, and has that count. -/
  reads : ∀ t, Cell.readInstant count.toInt = .ok t →
    t.nanos = count.toInt * 1000 ∧ t.inUtc.packed = count
  /-- Nothing is lost in sixty-four bits, whatever the clock. -/
  toInt_packed : m.packed.toInt = m.utcNanos.tdiv 1000
  /-- Storage keeps the count. -/
  ofValue : ∀ t, m.toInstant? = some t → Cell.ofValue (.timestamp t) = .integer m.packed.toInt
  /-- A moment of whole microseconds comes back as the same instant. -/
  returns : m.utcNanos % 1000 = 0 → ∀ t, m.toInstant? = some t →
    Cell.readInstant m.packed.toInt = .ok t
  /-- Only one that is outside of the calendar in UTC, whatever its clock shows, does not. -/
  strays : m.utcNanos % 1000 = 0 → m.toInstant? = none →
    Cell.readInstant m.packed.toInt = .error (.notInCalendar m.packed.toInt)
  mono : m.utcNanos ≤ m'.utcNanos → m.packed ≤ m'.packed
  strictMono : m.utcNanos % 1000 = 0 → m'.utcNanos % 1000 = 0 → m.utcNanos < m'.utcNanos →
    m.packed < m'.packed
  /-- Cells that hold the counts of whole microseconds are in the order of the moments. -/
  compare : m.utcNanos % 1000 = 0 → m'.utcNanos % 1000 = 0 →
    (Cell.integer m.packed.toInt).compare (.integer m'.packed.toInt) =
      Ord.compare m.utcNanos m'.utcNanos

/-- They do so for all counts and all moments. -/
theorem counted (count : Int64) {m m' : Moment} (hm : Moment.IsOffset m.offset)
    (hm' : Moment.IsOffset m'.offset) : Counted count m m' where
  reads_iff := by
    rw [← Instant.inCalendar_iff]
    constructor
    · rintro ⟨t, ht⟩
      rw [← Cell.readInstant_eq_ok_iff.1 ht]
      exact t.inCalendar
    · intro h
      exact ⟨⟨_, h⟩, Cell.readInstant_eq_ok_iff.2 rfl⟩
  refuses := by
    intro h
    rw [← Instant.inCalendar_iff] at h
    rw [Cell.readInstant, Instant.ofMicros?, Instant.ofNanos?, dif_neg h]
    rfl
  reads := by
    intro t ht
    have hnanos := Cell.readInstant_eq_ok_iff.1 ht
    refine ⟨hnanos, Int64.toInt_inj.1 ?_⟩
    rw [t.toInt_packed_inUtc]
    exact Instant.micros_ofMicros? (Instant.ofNanos?_eq_some_iff.2 hnanos)
  toInt_packed := Moment.toInt_packed hm
  ofValue t ht := by rw [Moment.toInt_packed_of_toInstant? hm ht, Cell.ofValue]
  returns := by
    intro hwhole t ht
    rw [Cell.readInstant_eq_ok_iff, Moment.toInt_packed_mul hm hwhole]
    exact Instant.ofNanos?_eq_some_iff.1 ht
  strays := by
    intro hwhole hnone
    rw [Moment.toInstant?] at hnone
    rw [Cell.readInstant, Instant.ofMicros?, Moment.toInt_packed_mul hm hwhole, hnone]
  mono := Moment.packed_le_packed hm hm'
  strictMono hwhole hwhole' h := (Moment.packed_lt_packed_iff hm hm' hwhole hwhole').2 h
  compare := by
    intro hwhole hwhole'
    have h := Moment.toInt_packed_mul hm hwhole
    have h' := Moment.toInt_packed_mul hm' hwhole'
    exact Cell.compare_integer (by omega) (by omega)

/-- The last microsecond of 1969 on a clock that is ahead of UTC, and the end of the year 9999 on a
clock that is behind. The first microsecond of the year 10000 is not read. -/
theorem counted_end_of_9999 :
    let before : Moment := ⟨⟨19800 * 10 ^ 9 - 1000, by decide⟩, 19800⟩
    let last : Moment := ⟨⟨lastNano, by decide⟩, -93599⟩
    Moment.IsOffset before.offset ∧ Moment.IsOffset last.offset ∧
      Counted 253402300800000000 before last ∧ before.packed = -1 ∧
      (∃ t, before.toInstant? = some t ∧ Cell.readInstant before.packed.toInt = .ok t) ∧
      before.packed ≤ last.packed ∧ ¬ ∃ t, Cell.readInstant 253402300800000000 = .ok t := by
  intro before last
  have hbefore : Moment.IsOffset before.offset := by decide
  have hlast : Moment.IsOffset last.offset := by decide
  have hcounted : Counted 253402300800000000 before last := counted _ hbefore hlast
  have hutc : before.toInstant? = some ⟨-1000, by decide⟩ := Instant.ofNanos?_eq_some_iff.2 rfl
  refine ⟨hbefore, hlast, hcounted, by decide, ⟨_, hutc, hcounted.returns (by decide) _ hutc⟩,
    hcounted.mono (by decide), ?_⟩
  rintro ⟨t, ht⟩
  exact absurd (hcounted.reads_iff.1 ⟨t, ht⟩).2 (by decide +kernel)

end BookingOffice
