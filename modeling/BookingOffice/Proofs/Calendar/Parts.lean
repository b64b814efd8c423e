import BookingOffice.Calendar.Rfc3339
import BookingOffice.Proofs.Number.Written
import Mathlib.Data.Rat.Floor

/-!
Times as they are written. A fraction of a second may have any number of digits; the time that the
text stands for has all of them, and reading keeps nine.

* `Rfc3339.parts?`: the parts of a written time, with all digits of the fraction;
* `Rfc3339.written?`: the time that they stand for, as a rational number of nanoseconds;
* `Rfc3339.fractionNanos_eq`: what is left of a fraction is the whole part of its nanoseconds;
* `Rfc3339.exists_written?_of_read?`: so is what is left of a time.
-/

namespace BookingOffice

/-! ### Digits -/

namespace Numeral

/-- Digits and then more of them. -/
lemma ofDigits_append (cs ds : List Char) :
    ofDigits (cs ++ ds) = ofDigits cs * 10 ^ ds.length + ofDigits ds := by
  rw [ofDigits_eq, Nat.ofDigitChars_append, Nat.ofDigitChars_eq_ofDigitChars_zero, Nat.mul_comm]
  rfl

/-- Digits stand for a number below the power of ten that has one digit more. -/
lemma ofDigits_lt {cs : List Char} (h : ∀ c ∈ cs, c.isDigit) : ofDigits cs < 10 ^ cs.length := by
  have hdigit : ∀ c : Char, c.isDigit = true → c.toNat - 48 ≤ 9 := by
    intro c hc
    simp only [Char.isDigit, Bool.and_eq_true, decide_eq_true_eq, ge_iff_le,
      UInt32.le_iff_toNat_le] at hc
    have hle : c.toNat ≤ 57 := hc.2
    omega
  induction cs with
  | nil => exact Nat.one_pos
  | cons c cs ih =>
    obtain ⟨hc, hcs⟩ := List.forall_mem_cons.1 h
    have hfirst : ofDigits [c] = c.toNat - 48 := by
      change 10 * 0 + (c.toNat - 48) = _
      omega
    have hrest := ih hcs
    have hle := Nat.mul_le_mul_right (10 ^ cs.length) (hdigit c hc)
    rw [← List.singleton_append, ofDigits_append, hfirst, List.singleton_append, List.length_cons,
      Nat.pow_succ]
    omega

/-- The first digits stand for the quotient by a power of ten. -/
lemma ofDigits_take {cs : List Char} (h : ∀ c ∈ cs, c.isDigit) (n : Nat) :
    ofDigits (cs.take n) = ofDigits cs / 10 ^ (cs.length - n) := by
  have hrest : ofDigits (cs.drop n) < 10 ^ (cs.length - n) := by
    rw [← List.length_drop]
    exact ofDigits_lt fun c hc => h c (List.mem_of_mem_drop hc)
  have hvalue : ofDigits cs =
      ofDigits (cs.take n) * 10 ^ (cs.length - n) + ofDigits (cs.drop n) := by
    rw [← List.length_drop, ← ofDigits_append, List.take_append_drop]
  rw [hvalue, Nat.add_comm, Nat.add_mul_div_right _ _ (Nat.pow_pos (by decide)),
    Nat.div_eq_of_lt hrest, Nat.zero_add]

end Numeral

namespace Rfc3339

/-- Nine digits of a fraction are the whole part of its nanoseconds. -/
lemma fractionNanos_eq {ds : List Char} (h : ∀ c ∈ ds, c.isDigit) :
    fractionNanos ds = Numeral.ofDigits ds * 10 ^ 9 / 10 ^ ds.length := by
  have hdigits : ∀ c ∈ ds ++ List.replicate 9 '0', c.isDigit := by
    intro c hc
    rcases List.mem_append.1 hc with hc | hc
    · exact h c hc
    · rw [List.eq_of_mem_replicate hc]
      rfl
  have hlength : (ds ++ List.replicate 9 '0').length - 9 = ds.length := by
    rw [List.length_append, List.length_replicate, Nat.add_sub_cancel]
  change Numeral.ofDigits ((ds ++ List.replicate 9 '0').take 9) = _
  rw [Numeral.ofDigits_take hdigits, hlength, Numeral.ofDigits_append_zeros]

/-! ### Parts -/

/-- The digits of the optional fraction of a second, and the characters left. -/
def fractionDigits? : List Char → Option (List Char × List Char)
  | '.' :: cs =>
    let digits := cs.takeWhile Char.isDigit
    if digits.isEmpty then none else some (digits, cs.dropWhile Char.isDigit)
  | cs => some ([], cs)

/-- The parts of a written time. -/
structure Parts where
  date : Date
  hour : Nat
  minute : Nat
  second : Nat
  /-- All digits of the fraction of a second. -/
  fraction : List Char
  /-- The seconds that the clock is ahead of UTC. -/
  offset : Int

/-- The parts that a text is made of, in the order of RFC 3339. -/
def parts? (s : String) : Option Parts := do
  let (year, cs) ← fixed? 4 s.toList
  let cs ← after? '-' cs
  let (month, cs) ← fixed? 2 cs
  let cs ← after? '-' cs
  let (day, cs) ← fixed? 2 cs
  let separator ← cs.head?
  if 128 ≤ separator.toNat then none
  let (hour, cs) ← fixed? 2 (cs.drop 1)
  let cs ← after? ':' cs
  let (minute, cs) ← fixed? 2 cs
  let cs ← after? ':' cs
  let (second, cs) ← fixed? 2 cs
  let (fraction, cs) ← fractionDigits? cs
  let offset ← offset? cs
  return ⟨⟨year, month, day⟩, hour, minute, second, fraction, offset⟩

lemma fraction?_eq (cs : List Char) :
    fraction? cs = (fractionDigits? cs).map fun p => (fractionNanos p.1, p.2) := by
  by_cases hpoint : ∃ ds, cs = '.' :: ds
  · obtain ⟨ds, rfl⟩ := hpoint
    rw [fraction?, fractionDigits?]
    split <;> rfl
  · have hno (ds : List Char) : cs ≠ '.' :: ds := fun h => hpoint ⟨ds, h⟩
    rw [fraction?.eq_2 cs hno, fractionDigits?.eq_2 cs hno]
    rfl

/-- A time is read from its parts. -/
lemma read?_eq (s : String) : read? s = (parts? s).bind fun p =>
    moment? p.date p.hour p.minute p.second (fractionNanos p.fraction) p.offset := by
  have hseparator (c : Prop) [Decidable c] (rest : Option Parts) (f : Parts → Option Moment) :
      (if c then none else rest).bind f = if c then none else rest.bind f := by
    split <;> rfl
  simp only [read?, parts?, fraction?_eq, Option.bind_eq_bind, Option.bind_assoc, Option.bind_map,
    Option.pure_def, Option.bind_some, Option.bind_none, hseparator, Function.comp_def]

/-! ### Characters -/

lemma fixed?_eq_some {width n : Nat} {cs rest : List Char} (h : fixed? width cs = some (n, rest)) :
    ∃ ds, cs = ds ++ rest ∧ ds.length = width ∧ ∀ c ∈ ds, c.isDigit := by
  obtain ⟨⟨hlength, hall⟩, h⟩ := Option.ite_none_right_eq_some.1 h
  obtain ⟨-, rfl⟩ := Prod.mk.inj (Option.some.inj h)
  exact ⟨cs.take width, (List.take_append_drop width cs).symm, hlength, List.all_eq_true.1 hall⟩

lemma after?_eq_some {c : Char} {cs rest : List Char} (h : after? c cs = some rest) :
    cs = c :: rest := by
  cases cs with
  | nil => cases h
  | cons d cs =>
    obtain ⟨rfl, hrest⟩ := Option.ite_none_right_eq_some.1 h
    rw [Option.some.inj hrest]

/-- What follows the point of a fraction are digits. -/
lemma fractionDigits?_eq_some {cs ds rest : List Char}
    (h : fractionDigits? cs = some (ds, rest)) :
    (∀ c ∈ ds, c.isDigit) ∧ (cs = rest ∨ cs = '.' :: (ds ++ rest)) := by
  rw [fractionDigits?.eq_def] at h
  split at h
  · obtain ⟨-, h⟩ := Option.ite_none_left_eq_some.1 h
    obtain ⟨rfl, rfl⟩ := Prod.mk.inj (Option.some.inj h)
    refine ⟨fun c hc => List.mem_takeWhile_imp hc, Or.inr ?_⟩
    rw [List.takeWhile_append_dropWhile]
  · obtain ⟨rfl, rfl⟩ := Prod.mk.inj (Option.some.inj h)
    exact ⟨List.forall_mem_nil _, Or.inl rfl⟩

/-- A written time is a date, any character, the time of day, the fraction and the offset. -/
lemma exists_chars_of_parts? {s : String} {p : Parts} (h : parts? s = some p) :
    ∃ date separator first clock tail zone,
      s.toList = date ++ separator :: first :: (clock ++ tail) ∧
        date.count '.' = 0 ∧ first.isDigit ∧ clock.count '.' = 0 ∧
        fractionDigits? tail = some (p.fraction, zone) ∧ offset? zone = some p.offset := by
  rw [parts?] at h
  obtain ⟨⟨year, cs⟩, hyear, h⟩ := Option.bind_eq_some_iff.1 h
  obtain ⟨cs, hdash, h⟩ := Option.bind_eq_some_iff.1 h
  obtain ⟨⟨month, cs⟩, hmonth, h⟩ := Option.bind_eq_some_iff.1 h
  obtain ⟨cs, hdash', h⟩ := Option.bind_eq_some_iff.1 h
  obtain ⟨⟨day, cs⟩, hday, h⟩ := Option.bind_eq_some_iff.1 h
  obtain ⟨separator, hseparator, h⟩ := Option.bind_eq_some_iff.1 h
  split at h
  · cases h
  · obtain ⟨⟨hour, cs⟩, hhour, h⟩ := Option.bind_eq_some_iff.1 h
    obtain ⟨cs, hcolon, h⟩ := Option.bind_eq_some_iff.1 h
    obtain ⟨⟨minute, cs⟩, hminute, h⟩ := Option.bind_eq_some_iff.1 h
    obtain ⟨cs, hcolon', h⟩ := Option.bind_eq_some_iff.1 h
    obtain ⟨⟨second, cs⟩, hsecond, h⟩ := Option.bind_eq_some_iff.1 h
    obtain ⟨⟨fraction, zone⟩, hfraction, h⟩ := Option.bind_eq_some_iff.1 h
    obtain ⟨offset, hoffset, h⟩ := Option.bind_eq_some_iff.1 h
    obtain rfl := Option.some.inj h
    obtain ⟨years, hys, -, hyears⟩ := fixed?_eq_some hyear
    obtain ⟨months, hms, -, hmonths⟩ := fixed?_eq_some hmonth
    obtain ⟨days, hds, -, hdays⟩ := fixed?_eq_some hday
    obtain ⟨hours, hhs, hlength, hhours⟩ := fixed?_eq_some hhour
    obtain ⟨minutes, hmins, -, hminutes⟩ := fixed?_eq_some hminute
    obtain ⟨seconds, hss, -, hseconds⟩ := fixed?_eq_some hsecond
    obtain ⟨rest, rfl⟩ := List.head?_eq_some_iff.1 hseparator
    obtain ⟨h₁, h₂, rfl⟩ := List.length_eq_two.1 hlength
    obtain ⟨hfirst, hlast⟩ := List.forall_mem_cons.1 hhours
    refine ⟨years ++ '-' :: (months ++ '-' :: days), separator, h₁,
      h₂ :: ':' :: (minutes ++ ':' :: seconds), _, zone, ?_, ?_, hfirst, ?_, hfraction, hoffset⟩
    · rw [List.drop_one, List.tail_cons] at hhs
      rw [hys, after?_eq_some hdash, hms, after?_eq_some hdash', hds, hhs, after?_eq_some hcolon,
        hmins, after?_eq_some hcolon', hss]
      simp
    · simp [List.count_append, Numeral.count_point_of_isDigit hyears,
        Numeral.count_point_of_isDigit hmonths, Numeral.count_point_of_isDigit hdays]
    · have hrest : (':' :: (minutes ++ ':' :: seconds)).count '.' = 0 := by
        simp [List.count_append, Numeral.count_point_of_isDigit hminutes,
          Numeral.count_point_of_isDigit hseconds]
      rw [← List.singleton_append, List.count_append, Numeral.count_point_of_isDigit hlast, hrest]

/-! ### Times -/

namespace Parts

/-- The nanoseconds since the start of 1970 in UTC, without the fraction. A leap second counts as
the last nanosecond before the next minute. -/
def wholeNanos (p : Parts) : Int :=
  p.date.dayNumber * dayNanos +
    (if p.second = 60 then ((p.hour * 3600 + p.minute * 60 + 60) * 10 ^ 9 - 1 : Int)
      else (p.hour * 3600 + p.minute * 60 + p.second) * 10 ^ 9) - p.offset * 10 ^ 9

/-- The nanoseconds of the fraction. That of a leap second does not count. -/
def fractionalNanos (p : Parts) : ℚ :=
  if p.second = 60 then 0
  else (Numeral.ofDigits p.fraction * 10 ^ 9 : Nat) / (10 ^ p.fraction.length : Nat)

/-- The nanoseconds since the start of 1970 in UTC. -/
def nanos (p : Parts) : ℚ := p.wholeNanos + p.fractionalNanos

/-- Of the fraction the reader keeps the whole part. -/
lemma floor_fractionalNanos {p : Parts} (h : ∀ c ∈ p.fraction, c.isDigit) :
    ⌊p.fractionalNanos⌋ = if p.second = 60 then 0 else (fractionNanos p.fraction : Int) := by
  rw [fractionalNanos]
  split
  · exact Int.floor_zero
  · rw [Rat.floor_natCast_div_natCast, fractionNanos_eq h, Int.natCast_div]

lemma utcNanos_of_moment? {p : Parts} {nano : Nat} {m : Moment}
    (h : moment? p.date p.hour p.minute p.second nano p.offset = some m) :
    m.utcNanos = p.wholeNanos + if p.second = 60 then 0 else (nano : Int) := by
  simp only [moment?, Option.ite_none_right_eq_some] at h
  obtain ⟨-, h⟩ := h
  obtain ⟨clock, hclock, h⟩ := Option.bind_eq_some_iff.1 h
  obtain ⟨-, hm⟩ := Option.ite_none_left_eq_some.1 h
  obtain rfl := Option.some.inj hm
  change clock.nanos - p.offset * 10 ^ 9 = _
  rw [Instant.ofNanos?_eq_some_iff.1 hclock, wholeNanos]
  split <;> omega

end Parts

/-- The time that a text stands for, in nanoseconds since the start of 1970 in UTC. Nothing is cut
off. -/
def written? (s : String) : Option ℚ := (parts? s).map Parts.nanos

/-- What is read of a written time is the whole part of its nanoseconds. -/
theorem exists_written?_of_read? {s : String} {m : Moment} (h : read? s = some m) :
    ∃ w, written? s = some w ∧ ⌊w⌋ = m.utcNanos := by
  rw [read?_eq] at h
  obtain ⟨p, hp, hm⟩ := Option.bind_eq_some_iff.1 h
  refine ⟨p.nanos, by rw [written?, hp, Option.map_some], ?_⟩
  have hdigits : ∀ c ∈ p.fraction, c.isDigit := by
    obtain ⟨_, _, _, _, _, _, -, -, -, -, hfraction, -⟩ := exists_chars_of_parts? hp
    exact (fractionDigits?_eq_some hfraction).1
  rw [Parts.nanos, Int.floor_intCast_add, Parts.floor_fractionalNanos hdigits,
    Parts.utcNanos_of_moment? hm]

end Rfc3339

end BookingOffice
