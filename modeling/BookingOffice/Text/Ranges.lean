/-!
Tables of code points, as closed ranges in ascending order. A table is cut into pieces, and only the
piece that may hold a code point is searched.
-/

namespace BookingOffice.Text

/-- A table of ranges in pieces, each with the last code point that it covers. -/
abbrev RangeTable := List (Nat × List (Nat × Nat))

/-- Whether a code point lies in one of the ranges. -/
def inRanges (n : Nat) (ranges : List (Nat × Nat)) : Bool :=
  ranges.any fun range => range.1 ≤ n && n ≤ range.2

/-- Whether a code point lies in a range of the table. -/
def RangeTable.covers (table : RangeTable) (n : Nat) : Bool :=
  match table.find? fun piece => n ≤ piece.1 with
  | some (_, ranges) => inRanges n ranges
  | none => false

end BookingOffice.Text
