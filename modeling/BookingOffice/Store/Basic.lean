import BookingOffice.Entity.Stored
import BookingOffice.Statement.Basic
import BookingOffice.Store.Cell
import BookingOffice.Store.Failure
import BookingOffice.Store.Layout

/-!
The store: the rows of its tables and the links between them. This module says what selections and
counts return (`Store.select`, `Store.fetch`, `Store.count`); what changes do is said in another.
-/

namespace BookingOffice

/-- A row of a table. -/
structure Row where
  uuid : Uuid
  /-- The cells of the columns that belong to fields. -/
  cells : List (String × Cell)
  createdAt : Cell
  updatedAt : Cell
  /-- When the row was deleted; nothing if it is live. -/
  deletedAt : Cell := .null
  deriving DecidableEq

namespace Row

/-- Whether the row has not been deleted. -/
def isLive (row : Row) : Bool := row.deletedAt.isNull

/-- The cell of a column. -/
def cell (row : Row) (column : String) : Cell :=
  if column = "uuid" then .blob row.uuid
  else if column = "created_at" then row.createdAt
  else if column = "updated_at" then row.updatedAt
  else if column = "deleted_at" then row.deletedAt
  else (Entries.get? column row.cells).getD .null

end Row

/-- Whether a cell fulfils a condition. -/
def Condition.admits : Condition → Cell → Bool
  | .equals value, cell => cell.equals (.ofValue value)
  | .contains s, cell => cell.contains s
  | .between low high, cell =>
    low.all (fun v => cell.atLeast (.ofValue v)) && high.all (fun v => cell.atMost (.ofValue v))

/-- Whether a row passes a filter. -/
def Filter.admits (f : Filter) (row : Row) : Bool := f.condition.admits (row.cell f.field)

/-! ### Reading rows -/

/-- A row as it has been read. -/
structure Entry where
  uuid : Uuid
  record : Record
  createdAt : Instant
  updatedAt : Instant
  deriving DecidableEq

namespace Entry

/-- The detail of the entity in the row, without relations. -/
def detail (e : Entry) : Json :=
  .ofMembers (e.record.toMembers ++ Stored.identity e.uuid e.createdAt e.updatedAt)

/-- The entity in the row. -/
def toStored {E : Type} (e : Entry) (m : Model E) (related : Dictionary Json) :
    Except Failure (Stored E) := do
  let entity ← (m.ofRecord e.record).mapError .integrity
  return ⟨e.uuid, e.createdAt, e.updatedAt, entity, related⟩

end Entry

/-- Reads the columns of an entity. -/
def Row.readRecord (row : Row) (outline : Outline) : Except Cell.Fault Record := do
  let values ← outline.columns.mapM fun c => do
    let value ← (row.cell c.1).read c.2
    return (c.1, value)
  return .ofList values

/-- Reads a row. -/
def Row.read (row : Row) (outline : Outline) : Except Cell.Fault Entry := do
  let created ← row.createdAt.readMicros
  let updated ← row.updatedAt.readMicros
  let record ← row.readRecord outline
  let createdAt ← Cell.readInstant created
  let updatedAt ← Cell.readInstant updated
  return ⟨row.uuid, record, createdAt, updatedAt⟩

/-! ### The store -/

/-- The link of a member to an owner. -/
structure Link where
  owner : Uuid
  member : Uuid
  deriving DecidableEq

/-- The rows and links of a database. -/
structure Store where
  layout : Layout
  /-- The rows of a table, in the order in which they were inserted. -/
  rows : String → List Row
  /-- The links of a table of links. -/
  links : String → List Link

namespace Store

/-- The store without rows. -/
def empty (layout : Layout) : Store := ⟨layout, fun _ => [], fun _ => []⟩

instance : Inhabited Store := ⟨empty .office⟩

/-- The live rows of a table. -/
def liveRows (s : Store) (table : String) : List Row := (s.rows table).filter Row.isLive

/-- The rows of a table with an identifier. -/
def withUuid (s : Store) (table : String) (uuid : Uuid) : List Row :=
  (s.rows table).filter (·.uuid = uuid)

/-! ### Order -/

/-- The order of two rows by given columns. -/
def compareBy (columns : List String) (a b : Row) : Ordering :=
  columns.foldr (fun c rest => ((a.cell c).compare (b.cell c)).then rest) .eq

/-- Whether a row may stand before another in a list. -/
def mayPrecede (columns : List String) (direction : Direction) (a b : Row) : Bool :=
  match direction with
  | .ascending => compareBy columns a b != .gt
  | .descending => compareBy columns b a != .gt

/-- The columns that the rows of a list are sorted by. -/
def sortColumns (sortBy : Option String) : List String := sortBy.toList ++ ["created_at", "uuid"]

/-! ### Selections and counts -/

/-- The live rows that match filters. -/
def matching (s : Store) (table : String) (filters : List Filter) : List Row :=
  (s.liveRows table).filter fun row => filters.all (·.admits row)

/-- The live rows that match filters, in the order of a list. -/
def listing (s : Store) (table : String) (p : Parameters) : List Row :=
  (s.matching table p.filters).mergeSort (mayPrecede (sortColumns p.sortBy) p.direction)

/-- Whether a member is linked to an owner. -/
def isLinked (s : Store) (linkTable : String) (owner member : Uuid) : Bool :=
  (s.links linkTable).contains ⟨owner, member⟩

/-- The rows that a selection returns. -/
def select (s : Store) : Statement.Selection → List Row
  | .live o uuid => (s.liveRows o.table).filter (·.uuid = uuid)
  | .page o p =>
    ((s.listing o.table p).drop (Statement.pageOffset p)).take (Statement.pageLimit p)
  | .members a owner =>
    ((s.liveRows a.member.table).filter fun row => s.isLinked a.table owner row.uuid).mergeSort
      (mayPrecede ["created_at", "uuid"] .ascending)

/-- What reading the rows of a selection comes to. -/
def fetch (s : Store) (q : Statement.Selection) : Except Failure (List Entry) :=
  (s.select q).mapM fun row =>
    (row.read q.outline).mapError fun fault => .integrity fault.message

/-- The number that a count returns. -/
def count (s : Store) : Statement.Count → Nat
  | .live o uuids => ((s.liveRows o.table).filter (·.uuid ∈ uuids)).length
  | .any o uuid => (s.withUuid o.table uuid).length
  | .duplicates o field value exclude =>
    ((s.liveRows o.table).filter fun row =>
      (row.cell field).equals (.ofValue value) && exclude.all (row.uuid ≠ ·)).length
  | .matching o filters => (s.matching o.table filters).length

end Store

end BookingOffice
