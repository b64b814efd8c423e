import BookingOffice.Schema.Basic

/-!
Conditions of list queries, and how they are written. A text field that is filtered by content takes
any text; a field that is filtered by range takes `lo..hi`, `lo..` and `..hi` as well as plain
values; every other field takes a plain value.
-/

namespace BookingOffice

/-- A condition on the value of a field. -/
inductive Condition where
  /-- The value equals another one. -/
  | equals (value : Value)
  /-- The text contains another one. -/
  | contains (text : String)
  /-- The value lies between two bounds, each of which counts as inside. -/
  | between (low high : Option Value)
  deriving DecidableEq

/-- A condition on a named field. -/
structure Filter where
  field : String
  condition : Condition
  deriving DecidableEq

namespace Condition

/-- What is wrong with the text of a condition. -/
inductive Fault where
  | unreadable (flaw : Flaw)
  | noBound
  deriving DecidableEq, Repr

/-- The message for a faulty condition. -/
def Fault.message : Fault → String
  | .unreadable flaw => flaw.message
  | .noBound => "range needs at least one bound"

/-- Cuts a text at its first two points in a row, which are left out. -/
def cutRange? : List Char → Option (List Char × List Char)
  | [] => none
  | c :: rest =>
    match c, rest with
    | '.', '.' :: high => some ([], high)
    | c, rest => (cutRange? rest).map fun p => (c :: p.1, p.2)

/-- Reads a value. -/
def readValue (kind : Kind) (s : String) : Attempt Fault Value :=
  ExceptT.adapt .unreadable (Value.read kind s)

/-- Reads a bound, which may be left out. -/
def readBound (kind : Kind) (cs : List Char) : Attempt Fault (Option Value) :=
  if cs.isEmpty then pure none
  else some <$> readValue kind (String.ofList cs)

/-- Reads a range from the texts of its bounds. -/
def readRange (kind : Kind) (low high : List Char) : Attempt Fault Condition := do
  let low ← readBound kind low
  let high ← readBound kind high
  if low.isNone && high.isNone then throw .noBound
  return .between low high

/-- Reads the condition that a query sets for a field. -/
def read (kind : Kind) (mode : FilterMode) (s : String) : Attempt Fault Condition :=
  match mode, kind, cutRange? s.toList with
  | .contains, .text, _ => (fun _ => .contains s) <$> readValue .text s
  | .range, kind, some (low, high) => readRange kind low high
  | _, kind, _ => .equals <$> readValue kind s

end Condition

end BookingOffice
