import BookingOffice.Text.Hex

/-! Percent signs with two hexadecimal digits, which stand for bytes in addresses and queries. -/

namespace BookingOffice.Text.Percent

/-- The byte that two hexadecimal digits stand for. -/
def hexByte? (high low : UInt8) : Option UInt8 := do
  let h ← Hex.value? (Char.ofNat high.toNat)
  let l ← Hex.value? (Char.ofNat low.toNat)
  return UInt8.ofNat (16 * h + l)

/-- Replaces each percent sign and the two digits behind it by the byte that they stand for. A
percent sign without digits stands for itself. -/
def decode : List UInt8 → List UInt8
  | [] => []
  | b :: rest =>
    match b, rest with
    | 37, high :: low :: rest' =>
      match hexByte? high low with
      | some c => c :: decode rest'
      | none => b :: decode (high :: low :: rest')
    | b, rest => b :: decode rest

end BookingOffice.Text.Percent
