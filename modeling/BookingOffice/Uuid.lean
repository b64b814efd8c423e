import BookingOffice.Text.Hex

/-!
Identifiers of 128 bits. They are written as thirty-two hexadecimal digits in five groups, and read
in either letter case with or without the hyphens; the hyphenated form may stand in braces or after
`urn:uuid:`, whose letter case does not matter either.
-/

namespace BookingOffice

/-- A universally unique identifier. Its order is that of its sixteen bytes. -/
structure Uuid where
  value : Fin (2 ^ 128)
  deriving DecidableEq

namespace Uuid

/-- The identifier of a number, cut to 128 bits. -/
def ofNat (n : Nat) : Uuid := ⟨Fin.ofNat _ n⟩

/-- The identifier whose bits are all zero. -/
def nil : Uuid := ofNat 0

instance : Inhabited Uuid := ⟨nil⟩

/-- The written form: groups of 8, 4, 4, 4 and 12 digits. -/
def toChars (u : Uuid) : List Char :=
  let n := u.value.val
  Text.Hex.digits 8 (n / 16 ^ 24) ++ '-' :: Text.Hex.digits 4 (n / 16 ^ 20) ++
    '-' :: Text.Hex.digits 4 (n / 16 ^ 16) ++ '-' :: Text.Hex.digits 4 (n / 16 ^ 12) ++
    '-' :: Text.Hex.digits 12 n

/-- The written form as a text. -/
def toText (u : Uuid) : String := String.ofList u.toChars

/-- Reads the digits of an identifier without hyphens. -/
def readDigits (cs : List Char) : Option Uuid := (Text.Hex.read? 0 cs).map ofNat

/-- Reads the thirty-six characters of the hyphenated form. -/
def readGroups (cs : List Char) : Option Uuid :=
  let hyphens := cs.length = 36 ∧
    ∀ i ∈ [8, 13, 18, 23], cs[i]? = some '-'
  if hyphens then
    readDigits (cs.take 8 ++ (cs.drop 9).take 4 ++ (cs.drop 14).take 4 ++ (cs.drop 19).take 4 ++
      cs.drop 24)
  else none

/-- Reads an identifier in any of its forms. -/
def ofChars? (cs : List Char) : Option Uuid :=
  match cs.length with
  | 32 => readDigits cs
  | 36 => readGroups cs
  | 38 =>
    if cs.head? = some '\x7b' ∧ cs.getLast? = some '\x7d' then readGroups ((cs.drop 1).take 36)
    else none
  | 45 =>
    if (cs.take 9).map Char.toLower = "urn:uuid:".toList then readGroups (cs.drop 9) else none
  | _ => none

/-- Reads an identifier in any of its forms. -/
def ofText? (s : String) : Option Uuid := ofChars? s.toList

end Uuid

end BookingOffice
