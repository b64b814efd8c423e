import BookingOffice.Statement.Basic

/-!
The text of statements. A text is put together from pieces: words of the statement, which come from
schemas only, and places for arguments. Values never become part of the text; they are passed beside
it, in the order of their places.

The two dialects differ in the marks for arguments, which are numbered in one and not in the other,
and in the name of the function that finds a text in another.
-/

namespace BookingOffice.Statement

/-- The language of a database server. -/
inductive Dialect where
  | postgres
  | sqlite
  deriving DecidableEq, Repr

/-- A piece of the text of a statement. -/
inductive Piece where
  /-- Words, which are the same in both dialects. -/
  | words (s : String)
  /-- The place of an argument. -/
  | argument (value : Value)
  /-- The function that finds a text in another. -/
  | finder
  deriving DecidableEq

namespace Dialect

/-- The mark for the argument with a number. -/
def mark : Dialect → Nat → String
  | postgres, n => "$" ++ toString n
  | sqlite, _ => "?"

/-- The name of the function that finds a text in another. -/
def finder : Dialect → String
  | postgres => "strpos"
  | sqlite => "instr"

end Dialect

/-- The text of pieces, the next argument having a given number. -/
def textFrom (dialect : Dialect) (next : Nat) : List Piece → String
  | [] => ""
  | .words s :: rest => s ++ textFrom dialect next rest
  | .argument _ :: rest => dialect.mark next ++ textFrom dialect (next + 1) rest
  | .finder :: rest => dialect.finder ++ textFrom dialect next rest

/-- The text of a statement. -/
def text (dialect : Dialect) (pieces : List Piece) : String := textFrom dialect 1 pieces

/-- The arguments of a statement, in the order of their places. -/
def arguments (pieces : List Piece) : List Value :=
  pieces.filterMap fun
    | .argument value => some value
    | _ => none

/-- Pieces with others between them. -/
def separated (between : List Piece) (parts : List (List Piece)) : List Piece :=
  (parts.intersperse between).flatten

/-- The names of the columns that are read, each behind a given qualifier. -/
def columnNames (qualifier : String) (outline : Outline) : String :=
  ", ".intercalate
    ((["uuid"] ++ outline.columns.map Prod.fst ++ ["created_at", "updated_at"]).map
      (qualifier ++ ·))

/-- The condition that one bound of a range sets. -/
def boundPieces (column operator : String) : Option Value → List (List Piece)
  | some value => [[.words s!"{column} {operator} ", .argument value]]
  | none => []

/-- A filter. -/
def filterPieces (f : Filter) : List Piece :=
  match f.condition with
  | .equals value => [.words s!"{f.field} = ", .argument value]
  | .contains s => [.finder, .words s!"({f.field}, ", .argument (.text s), .words ") > 0"]
  | .between low high =>
    separated [.words " AND "] (boundPieces f.field ">=" low ++ boundPieces f.field "<=" high)

/-- The condition on the rows of a list. -/
def filtersPieces (filters : List Filter) : List Piece :=
  .words " WHERE deleted_at IS NULL" ::
    filters.flatMap fun f => .words " AND " :: filterPieces f

/-- The keyword of a direction. -/
def keyword : Direction → String
  | .ascending => "ASC"
  | .descending => "DESC"

/-- The order of the rows of a list. -/
def orderText (p : Parameters) : String :=
  let key (column : String) := s!"{column} {keyword p.direction}"
  " ORDER BY " ++ ", ".intercalate ((p.sortBy.toList ++ ["created_at", "uuid"]).map key)

namespace Selection

/-- The text of a selection in pieces. -/
def pieces : Selection → List Piece
  | live o uuid =>
    let columns := columnNames "" o
    [.words s!"SELECT {columns} FROM {o.table} WHERE uuid = ", .argument (.uuid uuid),
      .words " AND deleted_at IS NULL"]
  | page o p =>
    let columns := columnNames "" o
    .words s!"SELECT {columns} FROM {o.table}" :: filtersPieces p.filters ++
      [.words (orderText p ++ " LIMIT "), .argument (.integer (pageLimit p)),
        .words " OFFSET ", .argument (.integer (pageOffset p))]
  | members a owner =>
    let columns := columnNames "m." a.member
    [.words (s!"SELECT {columns} FROM {a.member.table} m JOIN {a.table} j " ++
        s!"ON j.{a.memberColumn} = m.uuid WHERE j.{a.ownerColumn} = "),
      .argument (.uuid owner),
      .words " AND m.deleted_at IS NULL ORDER BY m.created_at, m.uuid"]

end Selection

namespace Count

/-- The text of a count in pieces. -/
def pieces : Count → List Piece
  | live o uuids =>
    .words s!"SELECT COUNT(*) AS count FROM {o.table} WHERE uuid IN (" ::
      separated [.words ", "] (uuids.map fun u => [.argument (.uuid u)]) ++
      [.words ") AND deleted_at IS NULL"]
  | any o uuid =>
    [.words s!"SELECT COUNT(*) AS count FROM {o.table} WHERE uuid = ", .argument (.uuid uuid)]
  | duplicates o field value exclude =>
    [.words s!"SELECT COUNT(*) AS count FROM {o.table} WHERE {field} = ", .argument value,
      .words " AND deleted_at IS NULL"] ++
      match exclude with
      | some uuid => [.words " AND uuid <> ", .argument (.uuid uuid)]
      | none => []
  | matching o filters =>
    .words s!"SELECT COUNT(*) AS count FROM {o.table}" :: filtersPieces filters

end Count

namespace Change

/-- The text of a change in pieces. -/
def pieces : Change → List Piece
  | insert o uuid record now =>
    let names :=
      ", ".intercalate (["uuid"] ++ o.columns.map Prod.fst ++ ["created_at", "updated_at"])
    let values :=
      [.uuid uuid] ++ (valuesOf record o).map Prod.snd ++ [.timestamp now, .timestamp now]
    .words s!"INSERT INTO {o.table} ({names}) VALUES (" ::
      separated [.words ", "] (values.map fun v => [.argument v]) ++ [.words ")"]
  | update o uuid record now =>
    let fields := (valuesOf record o).flatMap fun p =>
      [.words s!"{p.1} = ", .argument p.2, .words ", "]
    .words s!"UPDATE {o.table} SET " :: fields ++
      [.words "updated_at = ", .argument (.timestamp now), .words " WHERE uuid = ",
        .argument (.uuid uuid), .words " AND deleted_at IS NULL"]
  | delete o uuid now =>
    [.words s!"UPDATE {o.table} SET deleted_at = ", .argument (.timestamp now),
      .words " WHERE uuid = ", .argument (.uuid uuid), .words " AND deleted_at IS NULL"]
  | link a owner member =>
    [.words s!"INSERT INTO {a.table} ({a.ownerColumn}, {a.memberColumn}) VALUES (",
      .argument (.uuid owner), .words ", ", .argument (.uuid member),
      .words ") ON CONFLICT DO NOTHING"]
  | unlink a owner member =>
    [.words s!"DELETE FROM {a.table} WHERE {a.ownerColumn} = ", .argument (.uuid owner),
      .words s!" AND {a.memberColumn} = ", .argument (.uuid member)]

end Change

end BookingOffice.Statement
