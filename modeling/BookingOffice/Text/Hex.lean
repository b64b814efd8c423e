import BookingOffice.Number.Power

/-!
Hexadecimal digits. They are read in either case and written in lower case.
-/

namespace BookingOffice.Text.Hex

/-- The value of a hexadecimal digit. -/
def value? (c : Char) : Option Nat :=
  if '0' ≤ c ∧ c ≤ '9' then some (c.toNat - 48)
  else if 'a' ≤ c ∧ c ≤ 'f' then some (c.toNat - 87)
  else if 'A' ≤ c ∧ c ≤ 'F' then some (c.toNat - 55)
  else none

/-- The number that a row of hexadecimal digits stands for, read on from `n`. -/
def read? (n : Nat) : List Char → Option Nat
  | [] => some n
  | c :: cs =>
    match value? c with
    | some d => read? (16 * n + d) cs
    | none => none

/-- The digit of a value below sixteen. -/
def digit (d : Nat) : Char :=
  if d < 10 then Char.ofNat (48 + d) else Char.ofNat (87 + d)

/-- The last `width` hexadecimal digits of a number. -/
def digits : (width : Nat) → Nat → List Char
  | 0, _ => []
  | width + 1, n => digits width (n / 16) ++ [digit (n % 16)]

theorem value?_digit {d : Nat} (h : d < 16) : value? (digit d) = some d := by
  have : ∀ d < 16, value? (digit d) = some d := by decide
  exact this d h

theorem length_digits (width n : Nat) : (digits width n).length = width := by
  induction width generalizing n with
  | zero => rfl
  | succ width ih => simp [digits, ih]

theorem read?_append (n : Nat) (s t : List Char) :
    read? n (s ++ t) = (read? n s).bind (read? · t) := by
  induction s generalizing n with
  | nil => rfl
  | cons c s ih =>
    simp only [List.cons_append, read?]
    cases value? c with
    | none => rfl
    | some d => exact ih _

/-- The digits of a number read back as the number, cut to that many digits. -/
theorem read?_digits (width n m : Nat) :
    read? m (digits width n) = some (m * 16 ^ width + n % 16 ^ width) := by
  induction width generalizing n with
  | zero => simp [digits, read?, Nat.mod_one]
  | succ width ih =>
    rw [digits, read?_append, ih]
    simp only [Option.bind_some, read?, value?_digit (Nat.mod_lt n (by decide : 0 < 16))]
    have h : n % 16 ^ (width + 1) = 16 * (n / 16 % 16 ^ width) + n % 16 := by
      rw [Nat.pow_succ, Nat.mul_comm, Nat.mod_mul]
      omega
    rw [h, Nat.pow_succ]
    congr 1
    rw [Nat.mul_add, ← Nat.mul_assoc, Nat.mul_comm 16 m, Nat.mul_assoc, Nat.mul_comm 16]
    omega

end BookingOffice.Text.Hex
