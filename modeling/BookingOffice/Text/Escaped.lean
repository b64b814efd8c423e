import BookingOffice.Text.Picture

/-!
Texts in double quotes, as they appear in diagnostics: the quote, the backslash and the characters
without a picture of their own are written as escapes.
-/

namespace BookingOffice.Text

/-- A number in lower-case hexadecimal digits without leading zeros. -/
def hexText (n : Nat) : String := String.ofList (Nat.toDigits 16 n)

/-- One character inside double quotes. -/
def escapeChar (c : Char) : String :=
  match c with
  | '"' => "\\\""
  | '\\' => "\\\\"
  | '\n' => "\\n"
  | '\r' => "\\r"
  | '\t' => "\\t"
  | '\x00' => "\\0"
  | c => if isPictureless c then "\\u\x7b" ++ hexText c.toNat ++ "\x7d" else c.toString

/-- A text in double quotes. -/
def quoted (s : String) : String :=
  "\"" ++ String.join (s.toList.map escapeChar) ++ "\""

end BookingOffice.Text
