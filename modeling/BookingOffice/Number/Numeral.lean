import BookingOffice.Number.Binary64

/-!
Doubles written in decimal: an optional sign, digits with at most one point and at least one digit
on either side of it, and an optional exponent; or the words for infinity and for what is no
number. Letter case does not matter. The value is the double nearest to the decimal.
-/

namespace BookingOffice

/-- A decimal number as written: the digits before and after the point, and the exponent. -/
structure Numeral where
  whole : List Char
  fraction : List Char
  exponent : Int
  deriving Repr

namespace Numeral

/-- The value of a row of digits. -/
def ofDigits (cs : List Char) : Nat := cs.foldl (fun n c => 10 * n + (c.toNat - 48)) 0

/-- The exponent part: nothing, or an `e` with a signed row of digits. -/
def readExponent : List Char → Option Int
  | [] => some 0
  | e :: cs =>
    if e = 'e' ∨ e = 'E' then
      let (negative, digits) := match cs with
        | '-' :: ds => (true, ds)
        | '+' :: ds => (false, ds)
        | ds => (false, ds)
      if digits.isEmpty || !digits.all Char.isDigit then none
      else
        let n : Int := ofDigits digits
        some (if negative then -n else n)
    else none

/-- A decimal number without its sign. -/
def read? (cs : List Char) : Option Numeral :=
  let whole := cs.takeWhile Char.isDigit
  let rest := cs.dropWhile Char.isDigit
  let fraction := match rest with
    | '.' :: ds => ds.takeWhile Char.isDigit
    | _ => []
  let tail := match rest with
    | '.' :: ds => ds.dropWhile Char.isDigit
    | ds => ds
  if whole.isEmpty && fraction.isEmpty then none
  else (readExponent tail).map fun exponent => ⟨whole, fraction, exponent⟩

/-- The double nearest to the decimal. -/
def toDouble (negative : Bool) (n : Numeral) : Double :=
  Double.ofDecimal negative (ofDigits (n.whole ++ n.fraction)) (n.exponent - n.fraction.length)

end Numeral

namespace Double

/-- A number or a word without its sign. -/
def readUnsigned (negative : Bool) (cs : List Char) : Option Double :=
  match Numeral.read? cs with
  | some n => some (n.toDouble negative)
  | none =>
    match String.ofList (cs.map Char.toLower) with
    | "inf" | "infinity" => some (.infinite negative)
    | "nan" => some .nan
    | _ => none

/-- The double that a text stands for. -/
def read? (s : String) : Option Double :=
  match s.toList with
  | '-' :: cs => readUnsigned true cs
  | '+' :: cs => readUnsigned false cs
  | cs => readUnsigned false cs

end Double

end BookingOffice
