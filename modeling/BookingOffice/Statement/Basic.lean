import BookingOffice.Listing.Parameters

/-!
Statements: everything that the office asks of its storage. A selection asks for rows, a count for
their number, and a change writes rows or links. What a statement means is said by the store; how
it is written for a database server is said by its text.

Entities are never removed. A deletion stamps the row, and a row without a stamp is live.
-/

namespace BookingOffice.Statement

/-- A question for rows. -/
inductive Selection where
  /-- The live row with an identifier. -/
  | live (outline : Outline) (uuid : Uuid)
  /-- A page of the live rows that match filters. -/
  | page (outline : Outline) (parameters : Parameters)
  /-- The live members that are linked to an owner. -/
  | members (association : Association) (owner : Uuid)

/-- A question for the number of rows. -/
inductive Count where
  /-- The live rows with one of the identifiers. -/
  | live (outline : Outline) (uuids : List Uuid)
  /-- The rows with an identifier, deleted ones included. -/
  | any (outline : Outline) (uuid : Uuid)
  /-- The live rows with a value in a field, one of them perhaps left out. -/
  | duplicates (outline : Outline) (field : String) (value : Value) (exclude : Option Uuid)
  /-- The live rows that match filters. -/
  | matching (outline : Outline) (filters : List Filter)

/-- A change to rows or links. -/
inductive Change where
  /-- Adds a row. -/
  | insert (outline : Outline) (uuid : Uuid) (record : Record) (now : Instant)
  /-- Replaces the fields of a live row. -/
  | update (outline : Outline) (uuid : Uuid) (record : Record) (now : Instant)
  /-- Stamps a live row as deleted. -/
  | delete (outline : Outline) (uuid : Uuid) (now : Instant)
  /-- Links a member to an owner, unless it is linked already. -/
  | link (association : Association) (owner member : Uuid)
  /-- Removes the link of a member to an owner, if there is one. -/
  | unlink (association : Association) (owner member : Uuid)

/-- The selection of the rows that a selection returns rows of. -/
def Selection.outline : Selection → Outline
  | live outline _ => outline
  | page outline _ => outline
  | members association _ => association.member

/-- The value of a field in a record, which is null if the record has none. -/
def valueOf (record : Record) (name : String) (kind : Kind) : Value :=
  (record.get? name).getD (.null kind)

/-- The values of the columns of an entity in a record. -/
def valuesOf (record : Record) (outline : Outline) : List (String × Value) :=
  outline.columns.map fun c => (c.1, valueOf record c.1 c.2)

/-- The greatest number that a statement passes as a limit. -/
def maxLimit : Nat := 2 ^ 63 - 1

/-- The most rows that a page has. -/
def pageLimit (p : Parameters) : Nat := min p.perPage maxLimit

/-- The number of rows before a page. -/
def pageOffset (p : Parameters) : Nat := min p.offset maxLimit

end BookingOffice.Statement
