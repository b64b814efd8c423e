import BookingOffice.Schema.Value

/-!
Schemas. Every entity of the office is described by data: its names, its table, its fields with
their kinds, rules, ways of filtering and references, and the collections that it owns. Checking,
storing, listing and serving entities is written once against this description.

A field that refers to another entity, and an association, carry the `Outline` of that entity: what
it takes to read its rows.
-/

namespace BookingOffice

/-- How list queries may filter on a field. -/
inductive FilterMode where
  /-- The field equals the given value. -/
  | exact
  /-- The text field contains the given text. -/
  | contains
  /-- The field equals the given value or lies in a range. -/
  | range
  deriving DecidableEq, Repr

/-- A rule for the values of a field. -/
inductive Rule where
  | letters
  | digits
  | length (min max : Nat)
  | positive
  | nonNegative
  deriving DecidableEq, Repr

/-- What it takes to read the rows of an entity. -/
structure Outline where
  name : String
  table : String
  columns : List (String × Kind)
  deriving DecidableEq, Repr

/-- A field of an entity. -/
structure Field where
  /-- The name of the member in payloads and of the column in storage. -/
  name : String
  kind : Kind
  /-- Whether a value must be present and not null. -/
  required : Bool := true
  /-- How list queries may filter on the field, if they may. -/
  filter : Option FilterMode := none
  /-- The rules for values other than null. -/
  rules : List Rule := []
  /-- Whether no two live rows may have the same value. -/
  unique : Bool := false
  /-- The entity that the field points to. -/
  references : Option Outline := none
  deriving DecidableEq, Repr

/-- A many-to-many relation between an owner and its members, kept in a join table. -/
structure Association where
  /-- The name of the collection in payloads and details. -/
  name : String
  table : String
  ownerColumn : String
  memberColumn : String
  member : Outline
  deriving DecidableEq, Repr

/-- The description of an entity. -/
structure Schema where
  name : String
  plural : String
  /-- The name of the entity in messages. -/
  title : String
  table : String
  fields : List Field
  associations : List Association := []
  deriving DecidableEq, Repr

namespace Field

/-- The name under which details embed the entity that the field points to. -/
def relationName (f : Field) : String :=
  let cs := f.name.toList
  if "_uuid".toList.isSuffixOf cs then String.ofList (cs.take (cs.length - 5)) else f.name

/-- Whether list queries may filter and sort by the field. -/
def isFilterable (f : Field) : Bool := f.filter.isSome

end Field

namespace Schema

/-- The first field with a given name. -/
def field? (s : Schema) (name : String) : Option Field := s.fields.find? (·.name == name)

/-- What it takes to read the rows of the entity. -/
def outline (s : Schema) : Outline :=
  { name := s.name, table := s.table, columns := s.fields.map fun f => (f.name, f.kind) }

/-- The schema in diagnostics. -/
def debugText (s : Schema) : String := "Schema \x7b name: \"" ++ s.name ++ "\", .. \x7d"

end Schema

end BookingOffice
