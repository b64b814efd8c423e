import BookingOffice.Number.Numeral

/-!
The shortest decimal of a double: of all decimals that read back as the number those with the
fewest digits, and of these the nearest. The two neighbours of the value on each decimal grid are
tried, from one digit to seventeen; the exact expansion, which has up to 767 digits, stands behind
them, so that a decimal is always found and always reads back.
-/

namespace BookingOffice.Binary64

/-- The number of decimal digits of a natural number, at least one. -/
def digitCount (n : Nat) : Nat := (Nat.toDigits 10 n).length

/-- The exponent of the leading decimal digit of `num / den`, where `num` is not zero. -/
def leadingExponent (num den : Nat) : Int :=
  if den ≤ num then (digitCount (num / den) : Int) - 1
  else -(digitCount ((den - 1) / num) : Int)

/-- A positive decimal: digits and the exponent of the last one. -/
structure Decimal where
  digits : Nat
  exponent : Int

/-- The rank of the double nearest to a decimal. -/
def Decimal.rank (d : Decimal) : Nat :=
  if 0 ≤ d.exponent then nearest (d.digits * 10 ^ d.exponent.toNat) 1
  else nearest d.digits (10 ^ (-d.exponent).toNat)

/-- The decimals on the grid `10 ^ exponent` next to `num / den`, the nearer one first. -/
def neighbours (num den : Nat) (exponent : Int) : List Decimal :=
  let n := if 0 ≤ exponent then num else num * 10 ^ (-exponent).toNat
  let d := if 0 ≤ exponent then den * 10 ^ exponent.toNat else den
  let q := n / d
  if 2 * (n % d) ≤ d then [⟨q, exponent⟩, ⟨q + 1, exponent⟩]
  else [⟨q + 1, exponent⟩, ⟨q, exponent⟩]

/-- The shortest decimal with at most seventeen digits that reads back as `rank`. -/
def shortest? (rank : Nat) : Option Decimal :=
  let num := unitsOf rank
  let den := 2 ^ 1074
  let lead := leadingExponent num den
  (List.range 17).findSome? fun (k : Nat) =>
    (neighbours num den (lead - k)).find? fun d => d.rank == rank

/-- The whole decimal expansion of the value of `rank`. -/
def exact (rank : Nat) : Decimal := ⟨unitsOf rank * 5 ^ 1074, -1074⟩

/-- The shortest decimal that reads back as `rank`. -/
def shortest (rank : Nat) : Decimal := (shortest? rank).getD (exact rank)

/-- The text of a double: always with a point or an exponent, positional while the point stands
within sixteen digits or at most five places before the first one. -/
def toText (x : Binary64) : String :=
  let sign := if x.negative then "-" else ""
  if x.rank = 0 then sign ++ "0.0"
  else
    let d := shortest x.rank
    let written := Nat.toDigits 10 d.digits
    let digits := (written.reverse.dropWhile (· == '0')).reverse
    let point := (written.length : Int) + d.exponent
    let zeros (n : Int) := List.replicate n.toNat '0'
    sign ++ String.ofList (
      if digits.length ≤ point ∧ point ≤ 16 then
        digits ++ zeros (point - digits.length) ++ ['.', '0']
      else if 0 < point ∧ point ≤ 16 then
        digits.take point.toNat ++ '.' :: digits.drop point.toNat
      else if -5 < point ∧ point ≤ 0 then '0' :: '.' :: zeros (-point) ++ digits
      else
        digits.take 1 ++ (if digits.length = 1 then [] else '.' :: digits.drop 1) ++
          'e' :: (toString (point - 1)).toList)

end BookingOffice.Binary64
