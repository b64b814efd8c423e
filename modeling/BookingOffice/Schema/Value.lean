import BookingOffice.Calendar.Rfc3339
import BookingOffice.Json.Basic
import BookingOffice.Text.Whole
import BookingOffice.Uuid

/-!
Typed values of fields. A value is read from the text of a query (`Value.read`) or from a payload
(`Value.ofJson`), and written as JSON (`Value.toJson`). A text holds no NUL character, a real is
finite, and a timestamp is in UTC without digits after the microseconds.

A written time near the ends of the calendar may have no UTC time. Reading it is abandoned, which is
neither a value nor an error (`Attempt`).
-/

namespace BookingOffice

/-- Work that ends with a value or an error, or is abandoned because a time leaves the calendar. -/
abbrev Attempt (ε α : Type) := ExceptT ε Option α

namespace Attempt

/-- Work that is abandoned. -/
def abandon {ε α : Type} : Attempt ε α := (none : Option (Except ε α))

/-- Work that is not abandoned. -/
def ofExcept {ε α : Type} (result : Except ε α) : Attempt ε α := (some result : Option (Except ε α))

/-- How the work ended, with `none` for abandoned work. -/
def outcome {ε α : Type} (work : Attempt ε α) : Option (Except ε α) := work

end Attempt

/-- What a field stores. -/
inductive Kind where
  | text
  | uuid
  | integer
  | real
  | timestamp
  deriving DecidableEq, Repr

/-- What can be wrong with a value. -/
inductive Flaw where
  | missing
  | nulCharacter
  | notText
  | notUuid
  | notInteger
  | notNumber
  | notTimestamp
  | notLetters
  | notDigits
  | length (min max : Nat)
  | notPositive
  | negative
  deriving DecidableEq, Repr

/-- The message of a flaw, which continues a sentence that starts with the field. -/
def Flaw.message : Flaw → String
  | .missing => "is required"
  | .nulCharacter => "must not contain NUL characters"
  | .notText => "must be a string"
  | .notUuid => "must be a valid UUID"
  | .notInteger => "must be an integer"
  | .notNumber => "must be a number"
  | .notTimestamp => "must be an RFC 3339 timestamp"
  | .notLetters => "must contain only letters"
  | .notDigits => "must contain only digits"
  | .length min max => s!"must be between {min} and {max} characters long"
  | .notPositive => "must be positive"
  | .negative => "must not be negative"

/-- A value of a field. -/
inductive Value where
  | text (s : String)
  | uuid (u : Uuid)
  | integer (i : Int)
  | real (x : Binary64)
  | timestamp (t : Instant)
  | null (kind : Kind)
  deriving DecidableEq

namespace Value

/-- What the value is, a null being one of a kind. -/
def kind : Value → Kind
  | text _ => .text
  | uuid _ => .uuid
  | integer _ => .integer
  | real _ => .real
  | timestamp _ => .timestamp
  | null kind => kind

/-- A text value. Storage has no NUL characters. -/
def ofText (s : String) : Except Flaw Value :=
  if '\x00' ∈ s.toList then .error .nulCharacter else .ok (.text s)

/-- An identifier. -/
def readUuid (s : String) : Except Flaw Value :=
  match Uuid.ofText? s with
  | some u => .ok (.uuid u)
  | none => .error .notUuid

/-- An integer of 64 bits with a sign. -/
def readInteger (s : String) : Except Flaw Value :=
  match Text.readInt (2 ^ 63 - 1) s with
  | .ok i => .ok (.integer i)
  | .error _ => .error .notInteger

/-- A finite number. -/
def readReal (s : String) : Except Flaw Value :=
  match Double.read? s with
  | some (.finite x) => .ok (.real x)
  | _ => .error .notNumber

/-- A timestamp, moved to UTC and cut to microseconds. -/
def readTimestamp (s : String) : Attempt Flaw Value :=
  match Rfc3339.read? s with
  | none => throw .notTimestamp
  | some moment =>
    match moment.toInstant? with
    | some t => pure (.timestamp t.truncated)
    | none => Attempt.abandon

/-- Reads the text of a query. -/
def read (kind : Kind) (s : String) : Attempt Flaw Value :=
  match kind with
  | .text => .ofExcept (ofText s)
  | .uuid => .ofExcept (readUuid s)
  | .integer => .ofExcept (readInteger s)
  | .real => .ofExcept (readReal s)
  | .timestamp => readTimestamp s

/-- Reads a member of a payload. Numbers are no texts there, and texts are no numbers. -/
def ofJson (kind : Kind) (json : Json) : Attempt Flaw Value :=
  match kind, json with
  | .text, .string s => .ofExcept (ofText s)
  | .text, _ => throw .notText
  | .integer, json =>
    match json.asInt? with
    | some i => pure (.integer i)
    | none => throw .notInteger
  | .real, json =>
    match json.asDouble? with
    | some x => pure (.real x)
    | none => throw .notNumber
  | .uuid, .string s => .ofExcept (readUuid s)
  | .uuid, _ => throw .notUuid
  | .timestamp, .string s => readTimestamp s
  | .timestamp, _ => throw .notTimestamp

/-- The value in JSON. A timestamp whose year has not four digits cannot be written. -/
def toJson : Value → Json
  | text s => .string s
  | uuid u => .string u.toText
  | integer i => .int i
  | real x => .number (.real x)
  | timestamp t =>
    match Rfc3339.writeInstant? t with
    | some s => .string s
    | none => .null
  | null _ => .null

/-- Whether the value is a null. -/
def isNull : Value → Bool
  | null _ => true
  | _ => false

end Value

/-- The values of the fields of an entity. -/
abbrev Record := Dictionary Value

namespace Record

/-- The record as the members of an object. -/
def toMembers (record : Record) : List (String × Json) :=
  record.entries.map fun p => (p.1, p.2.toJson)

/-- The record as an object. -/
def toJson (record : Record) : Json := .object record.toMembers

end Record

end BookingOffice
