import BookingOffice.Proofs.Number.Written

/-!
Which texts are whole numbers. A number is a row of digits, maybe behind a sign, and reading finds
the number that the row stands for unless it passes the bound.

* `Text.IsWhole`: whether a text stands for a natural number;
* `Text.readNat_eq_ok_iff`: these texts are read, to that number;
* `Text.exists_digits_of_readInt`: what is read of a text with a sign;
* `Text.count_point_of_readInt`: there is no point in a text that is read.
-/

namespace BookingOffice.Text

variable {bound n m : Nat} {cs : List Char} {s : String}

/-- What is read is a row of digits, and the number that it stands for. -/
lemma isDigit_of_readDigits {past : WholeFault} (h : readDigits bound past n cs = .ok m) :
    (∀ c ∈ cs, c.isDigit) ∧ Nat.ofDigitChars 10 cs n = m := by
  induction cs generalizing n with
  | nil =>
    cases h
    exact ⟨List.forall_mem_nil _, rfl⟩
  | cons c cs ih =>
    simp only [readDigits] at h
    split at h
    · next hc =>
      split at h
      · obtain ⟨hdigits, hvalue⟩ := ih h
        exact ⟨List.forall_mem_cons.2 ⟨hc, hdigits⟩, hvalue⟩
      · cases h
    · cases h

/-- A row of digits is read to the number that it stands for, unless that passes the bound. -/
lemma readDigits_eq_ok_iff {past : WholeFault} :
    readDigits bound past 0 cs = .ok m ↔
      (∀ c ∈ cs, c.isDigit) ∧ Nat.ofDigitChars 10 cs 0 = m ∧ m ≤ bound := by
  constructor
  · intro h
    obtain ⟨hdigits, hvalue⟩ := isDigit_of_readDigits h
    exact ⟨hdigits, hvalue, readDigits_le h (Nat.zero_le _)⟩
  · rintro ⟨hdigits, rfl, hle⟩
    exact readDigits_eq_ok hdigits hle

/-- Whether a text is a row of digits that stands for a number, maybe behind a plus sign. -/
def IsWhole (s : String) (n : Nat) : Prop :=
  ∃ cs, (s.toList = cs ∨ s.toList = '+' :: cs) ∧ cs ≠ [] ∧ (∀ c ∈ cs, c.isDigit) ∧
    Nat.ofDigitChars 10 cs 0 = n

/-- A natural number is read from the texts that stand for it. -/
theorem readNat_eq_ok_iff : readNat bound s = .ok n ↔ IsWhole s n ∧ n ≤ bound := by
  constructor
  · intro h
    rw [readNat] at h
    split at h
    · cases h
    · cases h
    · next cs hne heq =>
      obtain ⟨hdigits, hvalue, hle⟩ := readDigits_eq_ok_iff.1 h
      exact ⟨⟨cs, Or.inr heq, hne, hdigits, hvalue⟩, hle⟩
    · next hne _ _ =>
      obtain ⟨hdigits, hvalue, hle⟩ := readDigits_eq_ok_iff.1 h
      exact ⟨⟨s.toList, Or.inl rfl, hne, hdigits, hvalue⟩, hle⟩
  · rintro ⟨⟨cs, hcs, hne, hdigits, hvalue⟩, hle⟩
    have hread : readDigits bound .tooLarge 0 cs = .ok n :=
      readDigits_eq_ok_iff.2 ⟨hdigits, hvalue, hle⟩
    rw [readNat]
    rcases hcs with hcs | hcs
    · -- a row of digits does not start with a sign
      have hplus : ∀ ds, cs ≠ '+' :: ds := by
        rintro ds rfl
        cases hdigits '+' List.mem_cons_self
      rw [hcs]
      split
      · exact absurd rfl hne
      · exact absurd rfl (hplus [])
      · exact absurd rfl (hplus _)
      · exact hread
    · rw [hcs]
      split
      · next heq => cases heq
      · next heq => exact absurd (List.cons.inj heq).2 hne
      · next heq =>
        obtain ⟨-, rfl⟩ := List.cons.inj heq
        exact hread
      · next hno => exact absurd rfl (hno cs)

/-- A whole number is a row of digits, maybe behind a sign. The bound below is one further away. -/
lemma exists_digits_of_readInt {i : Int} (h : readInt bound s = .ok i) :
    ∃ cs n, (∀ c ∈ cs, c.isDigit) ∧
      ((s.toList = cs ∨ s.toList = '+' :: cs) ∧ n ≤ bound ∧ i = n ∨
        s.toList = '-' :: cs ∧ n ≤ bound + 1 ∧ i = -n) := by
  have hdigits {bound : Nat} {past : WholeFault} {cs : List Char} {f : Nat → Int}
      (h : (readDigits bound past 0 cs).map f = .ok i) :
      ∃ n, (∀ c ∈ cs, c.isDigit) ∧ n ≤ bound ∧ i = f n := by
    cases hread : readDigits bound past 0 cs with
    | ok n =>
      rw [hread] at h
      obtain ⟨hcs, -, hle⟩ := readDigits_eq_ok_iff.1 hread
      exact ⟨n, hcs, hle, (Except.ok.inj h).symm⟩
    | error fault =>
      rw [hread] at h
      cases h
  rw [readInt] at h
  split at h
  · cases h
  · cases h
  · cases h
  · next cs _ heq =>
    obtain ⟨n, hcs, hle, hi⟩ := hdigits h
    exact ⟨cs, n, hcs, Or.inl ⟨Or.inr heq, hle, hi⟩⟩
  · next cs _ heq =>
    obtain ⟨n, hcs, hle, hi⟩ := hdigits h
    exact ⟨cs, n, hcs, Or.inr ⟨heq, hle, hi⟩⟩
  · obtain ⟨n, hcs, hle, hi⟩ := hdigits h
    exact ⟨s.toList, n, hcs, Or.inl ⟨Or.inl rfl, hle, hi⟩⟩

/-- A whole number lies within its bounds. -/
lemma readInt_mem {i : Int} (h : readInt bound s = .ok i) : -(bound + 1 : Int) ≤ i ∧ i ≤ bound := by
  obtain ⟨cs, n, -, ⟨-, hle, rfl⟩ | ⟨-, hle, rfl⟩⟩ := exists_digits_of_readInt h
  · omega
  · omega

/-- There is no point in a whole number. -/
lemma count_point_of_readInt {i : Int} (h : readInt bound s = .ok i) : s.toList.count '.' = 0 := by
  obtain ⟨cs, n, hdigits, hcs⟩ := exists_digits_of_readInt h
  have hpoints := Numeral.count_point_of_isDigit hdigits
  rcases hcs with ⟨heq | heq, -, -⟩ | ⟨heq, -, -⟩
  · rw [heq, hpoints]
  · rw [heq, List.count_cons_of_ne (by decide), hpoints]
  · rw [heq, List.count_cons_of_ne (by decide), hpoints]

end BookingOffice.Text
