/-!
Whole numbers written in decimal: one sign at most, then one ASCII digit at least, leading zeros
allowed. The digits are taken from the left, and the first one that is no digit or takes the
number past its bound decides the fault.
-/

namespace BookingOffice.Text

/-- Why a text is no whole number of the wanted range. -/
inductive WholeFault where
  | empty
  | invalidDigit
  | tooLarge
  | tooSmall
  deriving DecidableEq, Repr

/-- The message of a fault. -/
def WholeFault.message : WholeFault → String
  | .empty => "cannot parse integer from empty string"
  | .invalidDigit => "invalid digit found in string"
  | .tooLarge => "number too large to fit in target type"
  | .tooSmall => "number too small to fit in target type"

/-- Reads digits on from `n` up to `bound`; passing it is the fault `past`. -/
def readDigits (bound : Nat) (past : WholeFault) (n : Nat) : List Char → Except WholeFault Nat
  | [] => .ok n
  | c :: cs =>
    if c.isDigit then
      let m := 10 * n + (c.toNat - 48)
      if m ≤ bound then readDigits bound past m cs else .error past
    else .error .invalidDigit

/-- Reads a number from `0` to `bound`. A plus sign may precede it. -/
def readNat (bound : Nat) (s : String) : Except WholeFault Nat :=
  match s.toList with
  | [] => .error .empty
  | ['+'] => .error .invalidDigit
  | '+' :: cs => readDigits bound .tooLarge 0 cs
  | cs => readDigits bound .tooLarge 0 cs

/-- Reads a number from `-(bound + 1)` to `bound`. A sign may precede it. -/
def readInt (bound : Nat) (s : String) : Except WholeFault Int :=
  match s.toList with
  | [] => .error .empty
  | ['+'] => .error .invalidDigit
  | ['-'] => .error .invalidDigit
  | '+' :: cs => (readDigits bound .tooLarge 0 cs).map Int.ofNat
  | '-' :: cs => (readDigits (bound + 1) .tooSmall 0 cs).map fun n => -(Int.ofNat n)
  | cs => (readDigits bound .tooLarge 0 cs).map Int.ofNat

theorem readDigits_le {bound n m : Nat} {past : WholeFault} {cs : List Char}
    (h : readDigits bound past n cs = .ok m) (hn : n ≤ bound) : m ≤ bound := by
  induction cs generalizing n with
  | nil => cases h; exact hn
  | cons c cs ih =>
    simp only [readDigits] at h
    split at h
    · split at h
      · next hle => exact ih h hle
      · cases h
    · cases h

example : readNat 65535 "+007" = .ok 7 := by cbv

example : readNat 65535 "655360x" = .error .tooLarge := by cbv

example : readInt 127 "-128" = .ok (-128) := by cbv

example : readInt 127 "-129" = .error .tooSmall := by cbv

end BookingOffice.Text
