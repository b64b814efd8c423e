import BookingOffice.Dictionary
import BookingOffice.Number.Shortest

/-!
JSON values. A number is an integer or a finite double; which of the two a literal is depends on
how it is written. The members of an object are kept in the order of their names, each name once.
-/

namespace BookingOffice

/-- A JSON number. -/
inductive Json.Number where
  | integer (i : Int)
  | real (x : Binary64)
  deriving DecidableEq, BEq

/-- A JSON value. -/
inductive Json where
  | null
  | bool (b : Bool)
  | number (n : Json.Number)
  | string (s : String)
  | array (items : List Json)
  | object (members : List (String × Json))
  deriving BEq, Inhabited

namespace Json

/-- An integer. -/
def int (i : Int) : Json := .number (.integer i)

/-- A natural number. -/
def nat (n : Nat) : Json := .number (.integer n)

/-- A double. JSON has no literal for one that is not finite, and `null` takes its place. -/
def ofDouble : Double → Json
  | .finite x => .number (.real x)
  | _ => .null

/-- The object with the given members, of which the last wins among equal names. -/
def ofMembers (pairs : List (String × Json)) : Json := .object (Entries.ofList pairs)

/-- The object of a dictionary. -/
def ofDictionary (d : Dictionary Json) : Json := .object d.entries

/-- The value or `null`. -/
def ofOption : Option Json → Json
  | some j => j
  | none => .null

/-- The members of an object. -/
def members? : Json → Option (List (String × Json))
  | object members => some members
  | _ => none

/-- The member of an object with the given name. -/
def get? (name : String) : Json → Option Json
  | object members => Entries.get? name members
  | _ => none

/-- The least integer of 64 bits with a sign. -/
def minInt : Int := -9223372036854775808

/-- The greatest integer of 64 bits with a sign. -/
def maxInt : Int := 9223372036854775807

/-- The value as an integer of 64 bits with a sign. A literal with a fraction is none. -/
def asInt? : Json → Option Int
  | number (.integer i) => if minInt ≤ i ∧ i ≤ maxInt then some i else none
  | _ => none

/-- The value as a double, an integer being rounded. -/
def asDouble? : Json → Option Binary64
  | number (.integer i) => (Double.ofInt i).finite?
  | number (.real x) => some x
  | _ => none

end Json

end BookingOffice
