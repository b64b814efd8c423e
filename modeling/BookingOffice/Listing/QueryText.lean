import BookingOffice.Text.Percent
import BookingOffice.Text.Utf8

/-!
The text of a query, as in `name=foo&page=2`: pairs of a name and a value, separated by ampersands.
In both a plus stands for a space, and a percent sign with two hexadecimal digits for a byte. Bytes
that are not UTF-8 turn into replacement characters.
-/

namespace BookingOffice.QueryText

/-- The text of a name or a value. -/
def decode (bytes : List UInt8) : String :=
  Text.Utf8.decodeLossy (Text.Percent.decode (bytes.map fun b => if b = 43 then 32 else b))

/-- Cuts bytes at the first separator, which is left out. -/
def cut (separator : UInt8) (bytes : List UInt8) : List UInt8 × List UInt8 :=
  (bytes.takeWhile (· != separator), (bytes.dropWhile (· != separator)).drop 1)

/-- The parts between separators. -/
def split (separator : UInt8) : List UInt8 → List (List UInt8)
  | [] => [[]]
  | b :: rest =>
    if b = separator then [] :: split separator rest
    else
      match split separator rest with
      | part :: parts => (b :: part) :: parts
      | [] => [[b]]

/-- The pairs of a query, in order. Empty parts do not count. -/
def pairs (query : String) : List (String × String) :=
  ((split 38 (Text.Utf8.encode query)).filter (! ·.isEmpty)).map fun part =>
    let (name, value) := cut 61 part
    (decode name, decode value)

end BookingOffice.QueryText
