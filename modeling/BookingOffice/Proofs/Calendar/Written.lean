import BookingOffice.Calendar.Rfc3339
import BookingOffice.Proofs.Calendar.Days
import BookingOffice.Proofs.Traversal

/-!
Written times are read back. Each part of a written time has a fixed number of digits, except for
the fraction, which loses its zeros at the end and gets them back when it is read.

* `Rfc3339.fixed?_digits`: digits read back as the number, cut to that many digits;
* `Rfc3339.fraction?_writeFraction`: so does a fraction;
* `Rfc3339.read?_writeInstant?`: a written instant reads back as the same instant in UTC.
-/

namespace BookingOffice.Rfc3339

/-! ### Digits -/

/-- The number that a row of digits stands for, read on from another one. -/
def valueFrom (n : Nat) (cs : List Char) : Nat := cs.foldl (fun n c => 10 * n + (c.toNat - 48)) n

lemma digit_toNat {d : Nat} (h : d < 10) : (Char.ofNat (48 + d)).toNat = 48 + d := by
  have : ∀ d < 10, (Char.ofNat (48 + d)).toNat = 48 + d := by decide
  exact this d h

lemma digit_isDigit {d : Nat} (h : d < 10) : (Char.ofNat (48 + d)).isDigit = true := by
  have : ∀ d < 10, (Char.ofNat (48 + d)).isDigit = true := by decide
  exact this d h

lemma length_digits (width n : Nat) : (digits width n).length = width := by
  induction width generalizing n with
  | zero => rfl
  | succ width ih => simp [digits, ih]

lemma isDigit_of_mem_digits {width n : Nat} {c : Char} (h : c ∈ digits width n) :
    c.isDigit = true := by
  induction width generalizing n with
  | zero => simp [digits] at h
  | succ width ih =>
    rw [digits, List.mem_append, List.mem_singleton] at h
    rcases h with h | rfl
    · exact ih h
    · exact digit_isDigit (Nat.mod_lt n (by decide))

/-- The digits of a number read back as the number, cut to that many digits. -/
lemma valueFrom_digits (width n m : Nat) :
    valueFrom m (digits width n) = m * 10 ^ width + n % 10 ^ width := by
  induction width generalizing n with
  | zero => simp [digits, valueFrom, Nat.mod_one]
  | succ width ih =>
    have hlast : valueFrom m (digits (width + 1) n) =
        10 * valueFrom m (digits width (n / 10)) + n % 10 := by
      simp only [valueFrom, digits, List.foldl_append, List.foldl_cons, List.foldl_nil]
      rw [digit_toNat (Nat.mod_lt n (by decide))]
      omega
    have hmod : n % 10 ^ (width + 1) = 10 * (n / 10 % 10 ^ width) + n % 10 := by
      rw [Nat.pow_succ, Nat.mul_comm, Nat.mod_mul]
      omega
    calc valueFrom m (digits (width + 1) n)
        = 10 * (m * 10 ^ width + n / 10 % 10 ^ width) + n % 10 := by rw [hlast, ih]
      _ = m * 10 ^ width * 10 + (10 * (n / 10 % 10 ^ width) + n % 10) := by omega
      _ = m * 10 ^ (width + 1) + n % 10 ^ (width + 1) := by rw [hmod, Nat.pow_succ, Nat.mul_assoc]

lemma valueFrom_zero_digits {width n : Nat} (h : n < 10 ^ width) :
    valueFrom 0 (digits width n) = n := by
  rw [valueFrom_digits, Nat.mod_eq_of_lt h, Nat.zero_mul, Nat.zero_add]

lemma fixed?_digits {width n : Nat} (h : n < 10 ^ width) (rest : List Char) :
    fixed? width (digits width n ++ rest) = some (n, rest) := by
  have htake : (digits width n ++ rest).take width = digits width n :=
    List.take_left' (length_digits width n)
  have hdrop : (digits width n ++ rest).drop width = rest :=
    List.drop_left' (length_digits width n)
  have hall : (digits width n).all Char.isDigit = true :=
    List.all_eq_true.2 fun c hc => isDigit_of_mem_digits hc
  rw [fixed?]
  rw [htake, hdrop, if_pos ⟨length_digits width n, hall⟩]
  exact congrArg (fun v => some (v, rest)) (valueFrom_zero_digits h)

@[simp] lemma after?_self (c : Char) (rest : List Char) : after? c (c :: rest) = some rest := by
  simp [after?]

/-! ### Fractions -/

/-- The digits of a fraction without the zeros at their end. -/
def stripped (nanos : Nat) : List Char := ((digits 9 nanos).reverse.dropWhile (· == '0')).reverse

lemma exists_stripped_append (nanos : Nat) :
    ∃ k, stripped nanos ++ List.replicate k '0' = digits 9 nanos :=
  Traversal.exists_rdropWhile_append '0' (digits 9 nanos)

lemma isDigit_of_mem_stripped {nanos : Nat} {c : Char} (h : c ∈ stripped nanos) :
    c.isDigit = true := by
  obtain ⟨k, hk⟩ := exists_stripped_append nanos
  exact isDigit_of_mem_digits (hk ▸ List.mem_append_left _ h)

/-- The zeros come back when the fraction is read. -/
lemma fractionNanos_stripped {nanos : Nat} (h : nanos < 10 ^ 9) :
    fractionNanos (stripped nanos) = nanos := by
  obtain ⟨k, hk⟩ := exists_stripped_append nanos
  have hlen : (stripped nanos).length + k = 9 := by
    have := congrArg List.length hk
    rwa [List.length_append, List.length_replicate, length_digits] at this
  have hzeros : min (9 - (stripped nanos).length) 9 = k := by omega
  have htake : (stripped nanos ++ List.replicate 9 '0').take 9 = digits 9 nanos := by
    rw [List.take_append, List.take_of_length_le (by omega), List.take_replicate, hzeros, hk]
  change valueFrom 0 _ = nanos
  rw [htake]
  exact valueFrom_zero_digits h

lemma stripped_ne_nil {nanos : Nat} (h : nanos < 10 ^ 9) (h0 : nanos ≠ 0) :
    stripped nanos ≠ [] := by
  intro hnil
  have := fractionNanos_stripped h
  rw [hnil] at this
  exact h0 (this.symm.trans rfl)

/-- A written fraction is read back. -/
lemma fraction?_writeFraction {nanos : Nat} (h : nanos < 10 ^ 9) :
    fraction? (writeFraction nanos ++ ['Z']) = some (nanos, ['Z']) := by
  by_cases h0 : nanos = 0
  · rw [h0, writeFraction, if_pos rfl]
    simp [fraction?]
  · have htake : (stripped nanos ++ ['Z']).takeWhile Char.isDigit = stripped nanos := by
      rw [List.takeWhile_append_of_pos fun c hc => isDigit_of_mem_stripped hc]
      simp [show Char.isDigit 'Z' = false from by decide]
    have hdrop : (stripped nanos ++ ['Z']).dropWhile Char.isDigit = ['Z'] := by
      rw [List.dropWhile_append_of_pos fun c hc => isDigit_of_mem_stripped hc]
      simp [show Char.isDigit 'Z' = false from by decide]
    have hempty : (stripped nanos).isEmpty = false := by
      simpa using stripped_ne_nil h h0
    have hwrite : writeFraction nanos = '.' :: stripped nanos := if_neg h0
    rw [hwrite, List.cons_append]
    simp only [fraction?, htake, hdrop, hempty, fractionNanos_stripped h]
    rfl

/-! ### Whole times -/

/-- The moment at the date and the time of day of an instant is the instant in UTC. -/
lemma moment?_of_instant {t : Instant} {hour minute second nano : Nat} (hhour : hour ≤ 23)
    (hminute : minute ≤ 59) (hsecond : second ≤ 59)
    (h : t.ofDay = (hour * 3600 + minute * 60 + second) * 10 ^ 9 + nano) :
    moment? t.date hour minute second nano 0 = some ⟨t, 0⟩ := by
  have hsixty : ¬ second = 60 := by omega
  have hnanos : t.date.dayNumber * dayNanos +
      (((hour : Int) * 3600 + minute * 60 + second) * 10 ^ 9 + nano) = t.nanos := by
    have hday : (t.ofDay : Int) = t.nanos % dayNanos := by
      rw [Instant.ofDay, Int.toNat_of_nonneg]
      exact Int.emod_nonneg _ (by decide)
    have hcast : (t.ofDay : Int) =
        ((hour : Int) * 3600 + minute * 60 + second) * 10 ^ 9 + nano := by
      rw [h]
      push_cast
      rfl
    calc t.date.dayNumber * dayNanos +
          (((hour : Int) * 3600 + minute * 60 + second) * 10 ^ 9 + nano)
        = t.date.dayNumber * dayNanos + t.nanos % dayNanos := by rw [← hcast, hday]
      _ = t.nanos / dayNanos * dayNanos + t.nanos % dayNanos := by
        rw [Instant.date, Date.dayNumber_ofDayNumber]
      _ = t.nanos := Int.ediv_mul_add_emod _ _
  have hclock : Instant.ofNanos? t.nanos = some t := Instant.ofNanos?_eq_some_iff.2 rfl
  rw [moment?]
  simp only [hsixty, if_false, false_and]
  rw [if_pos ⟨Date.isValid_ofDayNumber _, hhour, hminute, hsecond⟩, hnanos, hclock]
  rfl

lemma ofDay_lt (t : Instant) : t.ofDay < 86400 * 10 ^ 9 := by
  have hlt : t.nanos % dayNanos < dayNanos := Int.emod_lt_of_pos _ (by decide)
  have hnonneg : 0 ≤ t.nanos % dayNanos := Int.emod_nonneg _ (by decide)
  rw [Instant.ofDay]
  rw [dayNanos] at *
  omega

/-- Months and days are written with two digits. -/
lemma date_lt (t : Instant) : t.date.month < 10 ^ 2 ∧ t.date.day < 10 ^ 2 := by
  obtain ⟨-, hmonth, -, hday⟩ : t.date.IsValid := Date.isValid_ofDayNumber _
  have := Date.monthLength_le t.date.year t.date.month
  constructor <;> omega

/-- A written instant reads back as the same instant in UTC. -/
theorem read?_writeInstant? {t : Instant} {s : String} (h : writeInstant? t = some s) :
    read? s = some ⟨t, 0⟩ := by
  rw [writeInstant?] at h
  split at h
  · next hyear =>
    cases h
    have hday := ofDay_lt t
    obtain ⟨hmonth, hdom⟩ := date_lt t
    have hyear4 : t.date.year.toNat < 10 ^ 4 := by
      have := hyear.2
      omega
    have hdate : (⟨t.date.year.toNat, t.date.month, t.date.day⟩ : Date) = t.date := by
      have hy : (t.date.year.toNat : Int) = t.date.year := Int.toNat_of_nonneg hyear.1
      rw [hy]
    rw [read?, writeClock]
    simp only [String.toList_ofList, List.append_assoc, List.cons_append]
    rw [fixed?_digits hyear4]
    simp only [Option.bind_eq_bind, Option.bind_some, after?_self]
    rw [fixed?_digits hmonth]
    simp only [Option.bind_some, after?_self]
    rw [fixed?_digits hdom]
    simp only [Option.bind_some, List.head?_cons, List.drop_succ_cons, List.drop_zero]
    rw [if_neg (by decide)]
    rw [fixed?_digits (by omega)]
    simp only [Option.bind_some, after?_self]
    rw [fixed?_digits (by omega)]
    simp only [Option.bind_some, after?_self]
    rw [fixed?_digits (by omega)]
    simp only [Option.bind_some]
    rw [fraction?_writeFraction (Nat.mod_lt _ (by decide))]
    simp only [Option.bind_some, offset?]
    rw [hdate]
    exact moment?_of_instant (by omega) (by omega) (by omega) (by omega)
  · cases h

end BookingOffice.Rfc3339
