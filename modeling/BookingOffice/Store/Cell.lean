import BookingOffice.Schema.Value
import BookingOffice.Text.Search
import BookingOffice.Text.Utf8

/-!
Cells: what a column of a row holds. A timestamp is kept as a whole number of microseconds and zero
has no sign, so a value need not come back as it went in (`Cell.ofValue`, `Cell.read`).

Cells of all classes are in one order: nothing, then numbers by their size, then texts by code
points, then identifiers by their bytes.
-/

namespace BookingOffice

/-- What a column of a row holds. -/
inductive Cell where
  | null
  | integer (i : Int)
  | real (x : Binary64)
  | text (s : String)
  | blob (u : Uuid)
  deriving DecidableEq

namespace Cell

/-- The cell that keeps a value. -/
def ofValue : Value → Cell
  | .text s => text s
  | .uuid u => blob u
  | .integer i => integer i
  | .real x => real x.withoutNegativeZero
  | .timestamp t => integer t.micros
  | .null _ => null

/-- Whether the cell holds nothing. -/
def isNull : Cell → Bool
  | null => true
  | _ => false

/-! ### Order -/

/-- The place of the class of a cell among the classes. -/
def classRank : Cell → Nat
  | null => 0
  | integer _ => 1
  | real _ => 1
  | text _ => 2
  | blob _ => 3

/-- The number in a cell, in units of `2^-1074`. -/
def units : Cell → Int
  | integer i => i * 2 ^ 1074
  | real x => x.units
  | _ => 0

/-- Whether one cell comes before another. -/
def precedes (a b : Cell) : Bool :=
  match a, b with
  | text s, text t => s < t
  | blob u, blob v => u.value < v.value
  | a, b => a.classRank < b.classRank || (a.classRank == b.classRank && a.units < b.units)

/-- The order of two cells. -/
def compare (a b : Cell) : Ordering :=
  if a.precedes b then .lt else if b.precedes a then .gt else .eq

/-- Whether two cells hold equal values. Nothing equals nothing else, not even itself. -/
def equals (a b : Cell) : Bool := !a.isNull && !b.isNull && a.compare b == .eq

/-- Whether a cell holds a value that is at least another one. -/
def atLeast (a b : Cell) : Bool := !a.isNull && !b.isNull && a.compare b != .lt

/-- Whether a cell holds a value that is at most another one. -/
def atMost (a b : Cell) : Bool := !a.isNull && !b.isNull && a.compare b != .gt

/-- Whether a cell holds a text that contains another one. -/
def contains (needle : String) : Cell → Bool
  | text s => Text.occursIn needle.toList s.toList
  | _ => false

/-! ### Reading -/

/-- Why a cell holds no value of a kind. -/
inductive Fault where
  /-- The cell is of another class. -/
  | mistyped (kind : Kind) (optional : Bool) (found : Cell)
  /-- The cell has the wrong number of bytes for an identifier. -/
  | wrongLength (bytes : Nat)
  /-- The time is outside of the calendar. -/
  | notInCalendar (micros : Int)

/-- The name of the class of a cell in messages. -/
def className : Cell → String
  | null => "NULL"
  | integer _ => "INTEGER"
  | real _ => "REAL"
  | text _ => "TEXT"
  | blob _ => "BLOB"

/-- How messages name the type and the class that values of a kind are read from. -/
def expectation : Kind → String × String
  | .text => ("alloc::string::String", "TEXT")
  | .uuid => ("uuid::Uuid", "BLOB")
  | .integer => ("i64", "INTEGER")
  | .real => ("f64", "REAL")
  | .timestamp => ("i64", "INTEGER")

/-- The message for a cell that cannot be read. -/
def Fault.message : Fault → String
  | .mistyped kind optional found =>
    let (bare, sql) := expectation kind
    let type := if optional then "core::option::Option<" ++ bare ++ ">" else bare
    s!"mismatched types; Rust type \x60{type}\x60 (as SQL type \x60{sql}\x60) is not compatible " ++
      s!"with SQL type \x60{found.className}\x60"
  | .wrongLength bytes => s!"invalid length: expected 16 bytes, found {bytes}"
  | .notInCalendar micros => s!"Invalid timestamp {micros}: timestamp was not in range"

/-- The instant of a count of microseconds. -/
def readInstant (micros : Int) : Except Fault Instant :=
  match Instant.ofMicros? micros with
  | some t => .ok t
  | none => .error (.notInCalendar micros)

/-- The number in a cell with a count of microseconds that must be there. -/
def readMicros : Cell → Except Fault Int
  | integer i => .ok i
  | cell => .error (.mistyped .timestamp false cell)

/-- The value of a kind that a cell holds. -/
def read (kind : Kind) (cell : Cell) : Except Fault Value :=
  match kind, cell with
  | kind, null => .ok (.null kind)
  | .text, text s => .ok (.text s)
  | .uuid, blob u => .ok (.uuid u)
  | .uuid, text s =>
    let bytes := Text.Utf8.encode s
    if bytes.length = 16 then
      .ok (.uuid (.ofNat (bytes.foldl (fun n b => 256 * n + b.toNat) 0)))
    else .error (.wrongLength bytes.length)
  | .integer, integer i => .ok (.integer i)
  | .real, real x => .ok (.real x)
  | .timestamp, integer i => (readInstant i).map .timestamp
  | kind, cell => .error (.mistyped kind true cell)

end Cell

end BookingOffice
