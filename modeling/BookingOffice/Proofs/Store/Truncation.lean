import BookingOffice.Calendar.Clock
import BookingOffice.Calendar.Rfc3339
import BookingOffice.Proofs.Store.Times

/-!
The two ways down to microseconds. One drops the digits of the written time after the sixth, the
other divides a count of nanoseconds that starts in 1970. From 1970 on they agree, and on whole
microseconds they agree throughout. At all other times before 1970 the second way is one microsecond
ahead: it goes up to the next microsecond where the first goes down to the one before.

* `Instant.micros_eq`: the count of an instant is a floor, or one more;
* `Instant.Truncates`: how the two ways compare;
* `Instant.truncates`: for every instant and every clock that shows it;
* `Instant.untruncated_end_of_1969`: a time of which the other way does not drop digits.
-/

namespace BookingOffice.Instant

/-! ### Digits -/

lemma date_truncated (t : Instant) : t.truncated.date = t.date := by
  have h : (t.nanos - t.nanos % 1000) / dayNanos = t.nanos / dayNanos := by
    rw [dayNanos]
    omega
  exact congrArg Date.ofDayNumber h

lemma ofDay_truncated (t : Instant) : t.truncated.ofDay = t.ofDay / 1000 * 1000 := by
  have h : (t.nanos - t.nanos % 1000) % dayNanos = t.nanos % dayNanos / 1000 * 1000 := by
    rw [dayNanos]
    omega
  have hnonneg : 0 ≤ t.nanos % dayNanos := Int.emod_nonneg _ (by decide)
  have hofDay : t.truncated.ofDay = ((t.nanos - t.nanos % 1000) % dayNanos).toNat := rfl
  rw [hofDay, h, ofDay]
  omega

/-! ### Counts -/

lemma micros_eq (t : Instant) :
    t.micros = t.nanos / 1000 + if 0 ≤ t.nanos ∨ 1000 ∣ t.nanos then 0 else 1 :=
  tdiv_thousand t.nanos

lemma micros_truncated (t : Instant) : t.truncated.micros = t.nanos / 1000 := by
  have h := t.truncated.micros_eq
  have hnanos : t.truncated.nanos = t.nanos - t.nanos % 1000 := rfl
  omega

/-! ### Truncation -/

/-- How the two ways down to microseconds compare, for an instant and a clock that shows it. -/
structure Truncates (t : Instant) (m : Moment) : Prop where
  /-- Times of payloads and queries go one way. -/
  read : ∀ s, Rfc3339.read? s = some m → Value.read .timestamp s = pure (.timestamp t.truncated)
  /-- It drops the digits of the time after the sixth. -/
  date_truncated : t.truncated.date = t.date
  ofDay_truncated : t.truncated.ofDay = t.ofDay / 1000 * 1000
  /-- The other way counts the same microseconds from 1970 on, and of whole microseconds. -/
  packed_eq_iff : m.packed = t.truncated.inUtc.packed ↔ 0 ≤ t.nanos ∨ 1000 ∣ t.nanos
  /-- Otherwise it counts one more. -/
  packed_eq_succ : ¬ (0 ≤ t.nanos ∨ 1000 ∣ t.nanos) →
    m.packed.toInt = t.truncated.inUtc.packed.toInt + 1
  /-- The clock of the system goes the other way as well. -/
  clock : ∀ reading, Clock.ofSystem t.nanos = some reading → reading.inUtc.packed = m.packed

/-- So they compare for every instant and every clock. -/
theorem truncates {t : Instant} {m : Moment} (hm : Moment.IsOffset m.offset)
    (ht : m.toInstant? = some t) : Truncates t m := by
  have hpacked := Moment.toInt_packed_of_toInstant? hm ht
  have hmicros := t.micros_eq
  have htruncated := t.truncated.toInt_packed_inUtc.trans t.micros_truncated
  exact {
    read := by
      intro s hs
      simp only [Value.read, Value.readTimestamp, hs, ht]
    date_truncated := t.date_truncated
    ofDay_truncated := t.ofDay_truncated
    packed_eq_iff := by
      rw [← Int64.toInt_inj, hpacked, hmicros, htruncated]
      split
      · next h => simp [h]
      · next h => simp [h]
    packed_eq_succ := by
      intro h
      rw [hpacked, hmicros, htruncated, if_neg h]
    clock := by
      intro reading hreading
      rw [← Int64.toInt_inj, toInt_packed_inUtc, hpacked]
      exact micros_ofMicros? hreading }

/-- Half a microsecond before 1970 belongs to the last microsecond of 1969. On a clock that is ahead
of UTC, too, it is counted as the first microsecond of 1970. -/
theorem truncates_half_microsecond :
    let t : Instant := ⟨-500, by decide⟩
    let m : Moment := ⟨⟨3600 * 10 ^ 9 - 500, by decide⟩, 3600⟩
    Moment.IsOffset m.offset ∧ m.toInstant? = some t ∧ Truncates t m ∧
      t.truncated.nanos = -1000 ∧ t.truncated.inUtc.packed = -1 ∧ m.packed = 0 := by
  intro t m
  have hm : Moment.IsOffset m.offset := by decide
  have ht : m.toInstant? = some t := ofNanos?_eq_some_iff.2 rfl
  exact ⟨hm, ht, truncates hm ht, rfl, by decide, by decide⟩

/-- The digits of a written time that come after the sixth are not always dropped. -/
theorem untruncated_end_of_1969 :
    ∃ m t, Rfc3339.read? "1969-12-31T23:59:59.999999999Z" = some m ∧ m.toInstant? = some t ∧
      Rfc3339.hasFourDigitYear t ∧
      Rfc3339.writeInstant? t.truncated = some "1969-12-31T23:59:59.999999Z" ∧
      t.truncated.inUtc.packed = -1 ∧ m.packed = 0 :=
  ⟨⟨⟨-1, by decide⟩, 0⟩, ⟨-1, by decide⟩, by decide +kernel, by decide +kernel, by decide +kernel,
    by decide +kernel, by decide, by decide⟩

end BookingOffice.Instant
