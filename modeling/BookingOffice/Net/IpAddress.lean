import BookingOffice.Text.Hex

/-!
Internet addresses. One of version 4 is written as four numbers, one of version 6 as eight groups of
hexadecimal digits, of which a row of zeros may be left out and the last two may be written as an
address of version 4. The written form leaves out the first of the longest rows of zeros.
-/

namespace BookingOffice

/-- An internet address. -/
inductive IpAddress where
  /-- Version 4, with its four bytes. -/
  | v4 (octets : List Nat)
  /-- Version 6, with its eight groups of sixteen bits. -/
  | v6 (groups : List Nat)
  deriving DecidableEq, Repr

namespace IpAddress

/-! ### Reading -/

/-- A decimal number below 256 without leading zeros. -/
def readOctet (cs : List Char) : Option (Nat × List Char) :=
  let digits := cs.takeWhile Char.isDigit
  let n := digits.foldl (fun n c => 10 * n + (c.toNat - 48)) 0
  if digits.isEmpty ∨ 3 < digits.length ∨ 255 < n ∨ (1 < digits.length ∧ digits.head? = some '0')
  then none
  else some (n, cs.dropWhile Char.isDigit)

/-- A group of one to four hexadecimal digits. -/
def readGroup (cs : List Char) : Option (Nat × List Char) :=
  let isHex (c : Char) := (Text.Hex.value? c).isSome
  let digits := cs.takeWhile isHex
  if digits.isEmpty ∨ 4 < digits.length then none
  else (Text.Hex.read? 0 digits).map (·, cs.dropWhile isHex)

/-- The characters after a separator, which the first part of a row does not have. -/
def skip (separator : Char) (first : Bool) (cs : List Char) : Option (List Char) :=
  if first then some cs
  else
    match cs with
    | [] => none
    | c :: rest => if c = separator then some rest else none

/-- A number of octets with points between them. -/
def readOctets : (count : Nat) → (first : Bool) → List Char → Option (List Nat × List Char)
  | 0, _, cs => some ([], cs)
  | count + 1, first, cs => do
    let cs ← skip '.' first cs
    let (octet, cs) ← readOctet cs
    let (octets, cs) ← readOctets count false cs
    return (octet :: octets, cs)

/-- The two groups of an address of version 4. -/
def groupsOfOctets : List Nat → List Nat
  | a :: b :: rest => (256 * a + b) :: groupsOfOctets rest
  | _ => []

/-- Groups that have been read, whether they end with an address of version 4, and what is left. -/
structure Groups where
  groups : List Nat
  endsWithOctets : Bool
  rest : List Char

/-- As many groups as there are, up to a limit, with colons between them. -/
def readGroups : (limit : Nat) → (first : Bool) → List Char → Groups
  | 0, _, cs => ⟨[], false, cs⟩
  | limit + 1, first, cs =>
    match (if limit = 0 then none else (skip ':' first cs).bind (readOctets 4 true)) with
    | some (octets, rest) => ⟨groupsOfOctets octets, true, rest⟩
    | none =>
      match (skip ':' first cs).bind readGroup with
      | some (group, rest) =>
        let more := readGroups limit false rest
        { more with groups := group :: more.groups }
      | none => ⟨[], false, cs⟩

/-- The groups of an address of version 6, and what is left. -/
def readV6 (cs : List Char) : Option (List Nat × List Char) :=
  let head := readGroups 8 true cs
  if head.groups.length = 8 then some (head.groups, head.rest)
  else if head.endsWithOctets then none
  else
    match head.rest with
    | ':' :: ':' :: rest =>
      let tail := readGroups (8 - (head.groups.length + 1)) true rest
      let zeros := List.replicate (8 - head.groups.length - tail.groups.length) 0
      some (head.groups ++ zeros ++ tail.groups, tail.rest)
    | _ => none

/-- Reads an address. -/
def read? (s : String) : Option IpAddress :=
  match readOctets 4 true s.toList with
  | some (octets, rest) => if rest.isEmpty then some (.v4 octets) else none
  | none =>
    match readV6 s.toList with
    | some (groups, rest) => if rest.isEmpty then some (.v6 groups) else none
    | none => none

/-! ### Writing -/

/-- The number of zeros that a list starts with. -/
def leadingZeros (groups : List Nat) : Nat := (groups.takeWhile (· = 0)).length

/-- The start and the length of the first of the longest rows of zeros. -/
def longestZeros : List Nat → Nat × Nat
  | [] => (0, 0)
  | g :: rest =>
    let here := leadingZeros (g :: rest)
    let (start, length) := longestZeros rest
    if length ≤ here then (0, here) else (start + 1, length)

/-- Groups with colons between them. -/
def writeGroups (groups : List Nat) : String :=
  ":".intercalate (groups.map fun g => String.ofList (Nat.toDigits 16 g))

/-- Octets with points between them. -/
def writeOctets (octets : List Nat) : String := ".".intercalate (octets.map toString)

/-- The written form of an address. -/
def toText : IpAddress → String
  | v4 octets => writeOctets octets
  | v6 [0, 0, 0, 0, 0, 0xFFFF, high, low] =>
    "::ffff:" ++ writeOctets [high / 256, high % 256, low / 256, low % 256]
  | v6 groups =>
    let (start, length) := longestZeros groups
    if 1 < length then
      writeGroups (groups.take start) ++ "::" ++ writeGroups (groups.drop (start + length))
    else writeGroups groups

end IpAddress

end BookingOffice
