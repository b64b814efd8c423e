import BookingOffice.Number.Numeral
import BookingOffice.Store.Basic

/-!
What changes do to a store (`Store.apply`). A change either breaks a constraint of the layout, and
then does nothing, or affects a number of rows. A frozen table is never affected.
-/

namespace BookingOffice.Store

/-! ### Constraints -/

/-- Whether two rows hold equal values in a column. -/
def clash (a b : Row) (column : String) : Bool := (a.cell column).equals (b.cell column)

/-- Whether a row may not stand beside another one in a table. -/
def excludes (t : Table) (a b : Row) : Bool :=
  a.uuid == b.uuid || t.uniqueAlways.any (clash a b) ||
    (a.isLive && b.isLive && t.uniqueLive.any (clash a b))

/-- The first column of a row that holds nothing but must not. -/
def missingColumn? (t : Table) (row : Row) : Option String :=
  (t.columns.find? fun c => !c.nullable && (row.cell c.name).isNull).map (·.name)

/-- Why a row cannot stand in a table beside others. -/
def violation? (t : Table) (others : List Row) (row : Row) : Option Failure :=
  match missingColumn? t row with
  | some column =>
    some (.backend (s!"error returned from database: (code: 1299) NOT NULL constraint failed: " ++
      s!"{t.name}.{column}"))
  | none => if others.any (excludes t row) then some .alreadyExists else none

/-! ### Rows -/

/-- The store with other rows in a table. -/
def withRows (s : Store) (table : String) (rows : List Row) : Store :=
  { s with rows := fun t => if t = table then rows else s.rows t }

/-- The store with other links in a table of links. -/
def withLinks (s : Store) (linkTable : String) (links : List Link) : Store :=
  { s with links := fun t => if t = linkTable then links else s.links t }

/-- The failure for a table that is not there. -/
def noTable (name : String) : Failure :=
  .backend s!"error returned from database: (code: 1) no such table: {name}"

/-- The cells that keep the fields of a record. -/
def cellsOf (record : Record) (outline : Outline) : List (String × Cell) :=
  (Statement.valuesOf record outline).map fun p => (p.1, .ofValue p.2)

/-- The row of a new entity. -/
def newRow (outline : Outline) (uuid : Uuid) (record : Record) (now : Instant) : Row where
  uuid := uuid
  cells := cellsOf record outline
  createdAt := .integer now.micros
  updatedAt := .integer now.micros

/-- Adds a row to a table. -/
def insert (s : Store) (t : Table) (row : Row) : Except Failure (Nat × Store) :=
  if t.frozen then .ok (0, s)
  else
    match violation? t (s.rows t.name) row with
    | some failure => .error failure
    | none => .ok (1, s.withRows t.name (s.rows t.name ++ [row]))

/-- Replaces the rows that a test picks. -/
def replace (s : Store) (t : Table) (picked : Row → Bool) (f : Row → Row) :
    Except Failure (Nat × Store) :=
  let rows := s.rows t.name
  if t.frozen then .ok (0, s)
  else
    match (rows.filter picked).findSome? fun row =>
        violation? t (rows.filter (·.uuid ≠ row.uuid)) (f row) with
    | some failure => .error failure
    | none =>
      .ok ((rows.filter picked).length,
        s.withRows t.name (rows.map fun row => if picked row then f row else row))

/-- Whether a row is live and has an identifier. -/
def isLiveWith (uuid : Uuid) (row : Row) : Bool := row.isLive && row.uuid == uuid

/-- Links a member to an owner, both of which must have rows, be they deleted. -/
def link (s : Store) (t : LinkTable) (l : Link) : Except Failure (Nat × Store) :=
  if (s.links t.name).contains l then .ok (0, s)
  else if (s.withUuid t.ownerTable l.owner).isEmpty || (s.withUuid t.memberTable l.member).isEmpty
  then .error .notFound
  else .ok (1, s.withLinks t.name (s.links t.name ++ [l]))

/-- Removes a link. -/
def unlink (s : Store) (t : LinkTable) (l : Link) : Nat × Store :=
  ((s.links t.name).count l, s.withLinks t.name ((s.links t.name).filter (· ≠ l)))

/-- Carries out a change. -/
def apply (s : Store) : Statement.Change → Except Failure (Nat × Store)
  | .insert o uuid record now =>
    match s.layout.table? o.table with
    | some t => s.insert t (newRow o uuid record now)
    | none => .error (noTable o.table)
  | .update o uuid record now =>
    match s.layout.table? o.table with
    | some t =>
      s.replace t (isLiveWith uuid) fun row =>
        { row with cells := cellsOf record o, updatedAt := .integer now.micros }
    | none => .error (noTable o.table)
  | .delete o uuid now =>
    match s.layout.table? o.table with
    | some t =>
      s.replace t (isLiveWith uuid) fun row => { row with deletedAt := .integer now.micros }
    | none => .error (noTable o.table)
  | .link a owner member =>
    match s.layout.linkTable? a.table with
    | some t => s.link t ⟨owner, member⟩
    | none => .error (noTable a.table)
  | .unlink a owner member =>
    match s.layout.linkTable? a.table with
    | some t => .ok (s.unlink t ⟨owner, member⟩)
    | none => .error (noTable a.table)

/-! ### Changes by hand -/

/-- A text without the spaces and line breaks at its ends. -/
def trimmed (s : String) : String :=
  let isSpace (c : Char) : Bool := c = ' ' || (9 ≤ c.toNat && c.toNat ≤ 13)
  String.ofList (((s.toList.dropWhile isSpace).reverse.dropWhile isSpace).reverse)

/-- The number that a numeral stands for, as a cell. Whole numbers have no fraction there, and space
around the numeral does not matter. -/
def numeralCell? (numeral : String) : Option Cell :=
  let s := trimmed numeral
  match Text.readInt (2 ^ 63 - 1) s, Double.read? s with
  | .ok i, _ => some (.integer i)
  | .error _, some (.finite x) =>
    let whole := x.units / 2 ^ 1074
    if x.units % 2 ^ 1074 = 0 ∧ whole.natAbs < 2 ^ 63 then some (.integer whole) else some (.real x)
  | .error _, _ => none

/-- What a column makes of a cell that is put into it: numbers turn into texts, and numerals into
numbers. -/
def adapt (kind : Kind) (cell : Cell) : Cell :=
  match kind, cell with
  | .text, .integer i => .text (toString i)
  | .real, .integer i => ((Double.ofInt i).finite?.map Cell.real).getD cell
  | .real, .text s =>
    match numeralCell? s with
    | some (.integer i) => ((Double.ofInt i).finite?.map Cell.real).getD cell
    | some number => number
    | none => cell
  | .integer, .text s => (numeralCell? s).getD cell
  | .timestamp, .text s => (numeralCell? s).getD cell
  | _, cell => cell

/-- The row with another cell in a column. -/
def withCell (row : Row) (column : String) (cell : Cell) : Row :=
  if column = "created_at" then { row with createdAt := cell }
  else if column = "updated_at" then { row with updatedAt := cell }
  else if column = "deleted_at" then { row with deletedAt := cell }
  else { row with cells := row.cells.map fun p => if p.1 = column then (column, cell) else p }

/-- The kind that a column of a table is made for. -/
def columnKind (t : Table) (column : String) : Kind :=
  ((t.columns.find? (·.name == column)).map (·.kind)).getD .timestamp

/-- Puts a cell into the row with an identifier, past all checks but those of storage. -/
def overwrite (s : Store) (table column : String) (uuid : Uuid) (cell : Cell) :
    Except Failure (Nat × Store) :=
  match s.layout.table? table with
  | some t =>
    s.replace t (·.uuid == uuid) (withCell · column (adapt (columnKind t column) cell))
  | none => .error (noTable table)

/-- Whether two of the rows hold equal values in a column. -/
def repeats (column : String) : List Row → Bool
  | [] => false
  | row :: rows => rows.any (clash row · column) || repeats column rows

/-- The store in which a column holds no value twice, unless it does already. -/
def constrain (s : Store) (table column : String) : Except Failure Store :=
  if repeats column (s.rows table) then .error .alreadyExists
  else .ok { s with layout := s.layout.constrain table column }

/-- The store in which a table cannot be changed. -/
def freeze (s : Store) (table : String) : Store := { s with layout := s.layout.freeze table }

end BookingOffice.Store
