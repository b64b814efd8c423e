import BookingOffice.Json.Basic
import BookingOffice.Text.Hex

/-!
Writing JSON without any white space.
-/

namespace BookingOffice.Json

/-- A character inside a string. -/
def escapeChar (c : Char) : List Char :=
  match c with
  | '"' => ['\\', '"']
  | '\\' => ['\\', '\\']
  | '\n' => ['\\', 'n']
  | '\r' => ['\\', 'r']
  | '\t' => ['\\', 't']
  | c =>
    if c.toNat < 0x20 then '\\' :: 'u' :: Text.Hex.digits 4 c.toNat else [c]

/-- A string in its quotes. -/
def quote (s : String) : List Char := '"' :: s.toList.flatMap escapeChar ++ ['"']

/-- A number. -/
def Number.write : Number → String
  | .integer i => toString i
  | .real x => x.toText

mutual

/-- The characters of a value in front of those given. -/
def writeBefore : Json → List Char → List Char
  | null, cs => "null".toList ++ cs
  | bool b, cs => (if b then "true".toList else "false".toList) ++ cs
  | number n, cs => n.write.toList ++ cs
  | string s, cs => quote s ++ cs
  | array items, cs => '[' :: writeItems items (']' :: cs)
  | object members, cs => '\x7b' :: writeMembers members ('\x7d' :: cs)

/-- The items of an array with commas between them. -/
def writeItems : List Json → List Char → List Char
  | [], cs => cs
  | [item], cs => writeBefore item cs
  | item :: items, cs => writeBefore item (',' :: writeItems items cs)

/-- The members of an object with commas between them. -/
def writeMembers : List (String × Json) → List Char → List Char
  | [], cs => cs
  | [(name, value)], cs => quote name ++ ':' :: writeBefore value cs
  | (name, value) :: members, cs =>
    quote name ++ ':' :: writeBefore value (',' :: writeMembers members cs)

end

/-- The text of a value. -/
def toText (j : Json) : String := String.ofList (j.writeBefore [])

end BookingOffice.Json
