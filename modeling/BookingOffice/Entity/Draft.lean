import BookingOffice.Schema.Basic
import BookingOffice.Text.Escaped

/-!
Drafts: the typed contents of an entity, before it has an identity. A draft has one slot for each
field of its schema; a slot is filled with content of the kind of the field, and that of an optional
field may be vacant.

A draft is looser than a record. Its texts and numbers obey no rule, its reals need not be finite,
and its times keep the offset they were written with. `Draft.toJson` and `Draft.ofJson` are its own
form in JSON, which obeys no rules either.
-/

namespace BookingOffice

/-- What a slot for a kind of field is filled with. -/
abbrev Kind.Content : Kind → Type
  | .text => String
  | .uuid => Uuid
  | .integer => Int
  | .real => Double
  | .timestamp => Moment

/-- The place of a field in a draft. -/
inductive Slot (f : Field) where
  | filled (content : f.kind.Content)
  | vacant (optional : f.required = false)

/-- The contents of an entity with the given fields. -/
inductive Draft : List Field → Type where
  | nil : Draft []
  | cons {f : Field} {fields : List Field} (slot : Slot f) (rest : Draft fields) :
      Draft (f :: fields)

/-! ### To JSON -/

/-- Content in JSON. A real that is not finite turns into `null`. -/
def Kind.contentToJson : (kind : Kind) → kind.Content → Except Rfc3339.Unwritable Json
  | .text, s => .ok (.string s)
  | .uuid, u => .ok (.string u.toText)
  | .integer, i => .ok (.int i)
  | .real, x => .ok (.ofDouble x)
  | .timestamp, m => (Rfc3339.write m).map .string

/-- A slot in JSON. -/
def Slot.toJson {f : Field} : Slot f → Except Rfc3339.Unwritable Json
  | .filled content => f.kind.contentToJson content
  | .vacant _ => .ok .null

/-- The members of a draft in the order of the fields, unless a time cannot be written. -/
def Draft.toMembers : {fields : List Field} → Draft fields →
    Except Rfc3339.Unwritable (List (String × Json))
  | [], .nil => .ok []
  | f :: _, .cons slot rest => do
    let json ← slot.toJson
    let members ← rest.toMembers
    return (f.name, json) :: members

/-- A draft as an object, unless a time cannot be written. -/
def Draft.toJson {fields : List Field} (draft : Draft fields) : Except Rfc3339.Unwritable Json :=
  draft.toMembers.map .ofMembers

/-! ### From JSON -/

/-- Why JSON does not fit an entity. -/
inductive Misfit where
  /-- The value is of another type. -/
  | mistyped (found : Json) (expected : String)
  /-- The value is of the expected type but stands for nothing. -/
  | meaningless (found : Json) (expected : String)
  /-- There is no member for a slot that may not be vacant. -/
  | missing (name : String)
  /-- A list has too few or too many items. -/
  | wrongLength (length : Nat)

/-- A short description of a JSON value. -/
def Json.description : Json → String
  | .null => "null"
  | .bool b => s!"boolean \x60{b}\x60"
  | .number (.integer i) => s!"integer \x60{i}\x60"
  | .number (.real x) => "floating point \x60" ++ x.toText ++ "\x60"
  | .string s => "string " ++ Text.quoted s
  | .array _ => "sequence"
  | .object _ => "map"

/-- The message for JSON that does not fit. -/
def Misfit.message : Misfit → String
  | .mistyped found expected => s!"invalid type: {found.description}, expected {expected}"
  | .meaningless found expected => s!"invalid value: {found.description}, expected {expected}"
  | .missing name => s!"missing field \x60{name}\x60"
  | .wrongLength length => s!"invalid length {length}"

/-- The name of a kind in messages about JSON that does not fit. -/
def Kind.expectation : Kind → String
  | .text => "a string"
  | .uuid => "a UUID string"
  | .integer => "i64"
  | .real => "f64"
  | .timestamp => "an RFC3339-formatted \x60OffsetDateTime\x60"

/-- Content from JSON. -/
def Kind.contentOfJson : (kind : Kind) → Json → Except Misfit kind.Content
  | .text, .string s => .ok s
  | .uuid, .string s =>
    match Uuid.ofText? s with
    | some u => .ok u
    | none => .error (.meaningless (.string s) Kind.uuid.expectation)
  | .integer, .number (.integer i) =>
    if (Json.int i).asInt?.isSome then .ok i
    else .error (.meaningless (.int i) Kind.integer.expectation)
  | .real, .number n =>
    match (Json.number n).asDouble? with
    | some x => .ok (.finite x)
    | none => .error (.meaningless (.number n) Kind.real.expectation)
  | .timestamp, .string s =>
    match Rfc3339.read? s with
    | some m => .ok m
    | none => .error (.meaningless (.string s) Kind.timestamp.expectation)
  | kind, json => .error (.mistyped json kind.expectation)

/-- A slot from JSON. A vacant slot is written as `null`. -/
def Slot.ofJson (f : Field) (json : Json) : Except Misfit (Slot f) :=
  match h : f.required, json with
  | false, .null => .ok (.vacant h)
  | _, json => (f.kind.contentOfJson json).map .filled

/-- A slot for which there is no member. It is vacant if it may be, but a time that is vacant has
to be written as such. -/
def Slot.ofNothing (f : Field) : Except Misfit (Slot f) :=
  match h : f.required, f.kind with
  | false, .timestamp => .error (.missing f.name)
  | false, _ => .ok (.vacant h)
  | true, _ => .error (.missing f.name)

/-- The first misfit among the members of an object, in their order. -/
def firstMisfit? (fields : List Field) (members : List (String × Json)) : Option Misfit :=
  members.findSome? fun m =>
    match fields.find? (·.name == m.1) with
    | some f =>
      match Slot.ofJson f m.2 with
      | .error misfit => some misfit
      | .ok _ => none
    | none => none

/-- The slots of an object. -/
def Draft.ofMembers : (fields : List Field) → List (String × Json) → Except Misfit (Draft fields)
  | [], _ => .ok .nil
  | f :: fields, members => do
    let slot ← match Entries.get? f.name members with
      | some json => Slot.ofJson f json
      | none => Slot.ofNothing f
    let rest ← Draft.ofMembers fields members
    return .cons slot rest

/-- The slots of a list of values, one for each field. -/
def Draft.ofItems : (fields : List Field) → (taken : Nat) → List Json → Except Misfit (Draft fields)
  | [], _, [] => .ok .nil
  | [], taken, items => .error (.wrongLength (taken + items.length))
  | _ :: _, taken, [] => .error (.wrongLength taken)
  | f :: fields, taken, json :: items => do
    let slot ← Slot.ofJson f json
    let rest ← Draft.ofItems fields (taken + 1) items
    return .cons slot rest

/-- A draft from an object or from the list of its values. A member that does not fit counts before
one that is missing. -/
def Draft.ofJson (fields : List Field) : Json → Except Misfit (Draft fields)
  | .object members =>
    match firstMisfit? fields members with
    | some misfit => .error misfit
    | none => Draft.ofMembers fields members
  | .array items => Draft.ofItems fields 0 items
  | json => .error (.mistyped json "an object")

end BookingOffice
