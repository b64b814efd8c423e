import Mathlib.Data.List.Forall2
import Mathlib.Tactic.Common
import BookingOffice.Statement.Sql

/-!
The tokens of statements. The form of a statement is what is left of it without the values that are
bound to it, and the form alone decides of which tokens the text is made: phrases of the language,
names, marks for arguments and the function that finds a text in another.

* `Statement.Form`: what statements are but for the values that are bound to them;
* `Statement.Token`, `Statement.Form.tokens`: the tokens of a form;
* `Statement.Spells`: what it means that tokens spell pieces;
* `Statement.spells`: every statement is spelled by the tokens of its form.
-/

namespace BookingOffice

/-! ### Statements and their forms -/

/-- A statement of any sort. -/
inductive Statement where
  | selection (q : Statement.Selection)
  | count (q : Statement.Count)
  | change (c : Statement.Change)

namespace Statement

/-- What is passed to a database server. -/
structure Built where
  text : String
  arguments : List Value

/-- The text of a statement in pieces. -/
def pieces : Statement → List Piece
  | selection q => q.pieces
  | count q => q.pieces
  | change c => c.pieces

/-- A statement as it is passed to a database server. -/
def built (d : Dialect) (a : Statement) : Built := ⟨text d a.pieces, Statement.arguments a.pieces⟩

/-- The names of a table and of its columns for the fields of an entity. -/
structure TableNames where
  table : String
  columns : List String

/-- The names of a table of links and of its columns. -/
structure LinkNames where
  table : String
  owner : String
  member : String

/-- A condition without the values in it. -/
inductive ConditionForm where
  | equals
  | contains
  /-- Which of the bounds there are. -/
  | between (low high : Bool)

/-- A filter without the values in it. -/
structure FilterForm where
  field : String
  condition : ConditionForm

/-- A statement without the values that are bound to it. -/
inductive Form where
  | selectLive (names : TableNames)
  | selectPage (names : TableNames) (filters : List FilterForm) (sortBy : Option String)
    (direction : Direction)
  | selectMembers (links : LinkNames) (names : TableNames)
  | countLive (table : String) (number : Nat)
  | countAny (table : String)
  | countDuplicates (table field : String) (excluding : Bool)
  | countMatching (table : String) (filters : List FilterForm)
  | insert (names : TableNames)
  | update (names : TableNames)
  | delete (table : String)
  | link (links : LinkNames)
  | unlink (links : LinkNames)

end Statement

/-- The names of an outline. -/
def Outline.names (o : Outline) : Statement.TableNames := ⟨o.table, o.columns.map Prod.fst⟩

/-- The names of an association, but for those of its members. -/
def Association.names (a : Association) : Statement.LinkNames :=
  ⟨a.table, a.ownerColumn, a.memberColumn⟩

/-- The form of a condition. -/
def Condition.form : Condition → Statement.ConditionForm
  | equals _ => .equals
  | contains _ => .contains
  | between low high => .between low.isSome high.isSome

/-- The form of a filter. -/
def Filter.form (f : Filter) : Statement.FilterForm := ⟨f.field, f.condition.form⟩

namespace Statement

/-- The form of a statement. -/
@[simp] def form : Statement → Form
  | selection (.live o _) => .selectLive o.names
  | selection (.page o p) => .selectPage o.names (p.filters.map Filter.form) p.sortBy p.direction
  | selection (.members a _) => .selectMembers a.names a.member.names
  | count (.live o uuids) => .countLive o.table uuids.length
  | count (.any o _) => .countAny o.table
  | count (.duplicates o field _ exclude) => .countDuplicates o.table field exclude.isSome
  | count (.matching o filters) => .countMatching o.table (filters.map Filter.form)
  | change (.insert o _ _ _) => .insert o.names
  | change (.update o _ _ _) => .update o.names
  | change (.delete o _ _) => .delete o.table
  | change (.link a _ _) => .link a.names
  | change (.unlink a _ _) => .unlink a.names

/-! ### Tokens -/

/-- The phrases of the language that statements are made of. -/
def phrases : List String := [
  "SELECT ", "SELECT COUNT(*) AS count FROM ", "INSERT INTO ", "UPDATE ", "DELETE FROM ", " FROM ",
  " SET ", " SET deleted_at = ", "updated_at = ", " WHERE ", " WHERE uuid = ", " WHERE uuid IN (",
  " WHERE deleted_at IS NULL", " AND ", " AND uuid <> ", " AND deleted_at IS NULL",
  ") AND deleted_at IS NULL", " = ", " >= ", " <= ", ") > 0", ", ", " (", ") VALUES (", ")",
  ") ON CONFLICT DO NOTHING", "uuid", "created_at", "updated_at", " ORDER BY ", " ASC", " DESC",
  " LIMIT ", " OFFSET ", "m.", " m JOIN ", " j ON j.", " = m.uuid WHERE j.",
  " AND m.deleted_at IS NULL ORDER BY m.created_at, m.uuid"]

/-- A token of the text of a statement. -/
inductive Token where
  /-- A phrase of the language, with the blanks and the punctuation around it. -/
  | phrase (s : String) (known : s ∈ phrases := by decide)
  /-- A name of a schema. -/
  | name (s : String)
  /-- A mark for the next argument. -/
  | mark
  /-- The function that finds a text in another, with the parenthesis behind it. -/
  | finder

namespace Token

/-- The text of tokens, for given marks and a given function, the next argument having a given
number. -/
@[simp] def textWith (mark : Nat → String) (finder : String) (next : Nat) : List Token → String
  | [] => ""
  | .phrase s _ :: rest => s ++ textWith mark finder next rest
  | .name s :: rest => s ++ textWith mark finder next rest
  | .mark :: rest => mark next ++ textWith mark finder (next + 1) rest
  | .finder :: rest => finder ++ "(" ++ textWith mark finder next rest

/-- The number of marks among tokens. -/
@[simp] def marks : List Token → Nat
  | [] => 0
  | .mark :: rest => marks rest + 1
  | _ :: rest => marks rest

/-- The names among tokens. -/
def names : List Token → List String
  | [] => []
  | .name s :: rest => s :: names rest
  | _ :: rest => names rest

/-- Lists of tokens with commas between them. -/
def listed (parts : List (List Token)) : List Token := (parts.intersperse [.phrase ", "]).flatten

end Token

/-- The tokens for the columns of an entity. -/
def TableNames.allColumns (names : TableNames) : List Token :=
  .phrase "uuid" :: names.columns.map .name ++ [.phrase "created_at", .phrase "updated_at"]

/-- The tokens that name the columns of an entity, each behind a qualifier. -/
def TableNames.columnTokens (qualifier : List Token) (names : TableNames) : List Token :=
  Token.listed (names.allColumns.map (qualifier ++ [·]))

/-- The tokens of a filter. -/
def FilterForm.tokens (f : FilterForm) : List Token :=
  match f.condition with
  | .equals => [.name f.field, .phrase " = ", .mark]
  | .contains => [.finder, .name f.field, .phrase ", ", .mark, .phrase ") > 0"]
  | .between true true =>
    [.name f.field, .phrase " >= ", .mark, .phrase " AND ", .name f.field, .phrase " <= ", .mark]
  | .between true false => [.name f.field, .phrase " >= ", .mark]
  | .between false true => [.name f.field, .phrase " <= ", .mark]
  | .between false false => []

/-- The tokens of the condition on the rows of a list. -/
def filtersTokens (filters : List FilterForm) : List Token :=
  .phrase " WHERE deleted_at IS NULL" :: filters.flatMap fun f => .phrase " AND " :: f.tokens

/-- The token for a direction. -/
def directionToken : Direction → Token
  | .ascending => .phrase " ASC"
  | .descending => .phrase " DESC"

/-- The tokens of the order of the rows of a list. -/
def orderTokens (sortBy : Option String) (direction : Direction) : List Token :=
  let sort := sortBy.toList.flatMap fun name => [.name name, directionToken direction, .phrase ", "]
  .phrase " ORDER BY " :: sort ++ [.phrase "created_at", directionToken direction, .phrase ", ",
    .phrase "uuid", directionToken direction]

/-- The tokens of a form. -/
@[simp] def Form.tokens : Form → List Token
  | selectLive names =>
    .phrase "SELECT " :: names.columnTokens [] ++
      [.phrase " FROM ", .name names.table, .phrase " WHERE uuid = ", .mark,
        .phrase " AND deleted_at IS NULL"]
  | selectPage names filters sortBy direction =>
    .phrase "SELECT " :: names.columnTokens [] ++ .phrase " FROM " :: .name names.table ::
      filtersTokens filters ++ orderTokens sortBy direction ++
        [.phrase " LIMIT ", .mark, .phrase " OFFSET ", .mark]
  | selectMembers links names =>
    .phrase "SELECT " :: names.columnTokens [.phrase "m."] ++
      [.phrase " FROM ", .name names.table, .phrase " m JOIN ", .name links.table,
        .phrase " j ON j.", .name links.member, .phrase " = m.uuid WHERE j.", .name links.owner,
        .phrase " = ", .mark, .phrase " AND m.deleted_at IS NULL ORDER BY m.created_at, m.uuid"]
  | countLive table number =>
    .phrase "SELECT COUNT(*) AS count FROM " :: .name table :: .phrase " WHERE uuid IN (" ::
      Token.listed (List.replicate number [.mark]) ++ [.phrase ") AND deleted_at IS NULL"]
  | countAny table =>
    [.phrase "SELECT COUNT(*) AS count FROM ", .name table, .phrase " WHERE uuid = ", .mark]
  | countDuplicates table field excluding =>
    [.phrase "SELECT COUNT(*) AS count FROM ", .name table, .phrase " WHERE ", .name field,
      .phrase " = ", .mark, .phrase " AND deleted_at IS NULL"] ++
      if excluding then [.phrase " AND uuid <> ", .mark] else []
  | countMatching table filters =>
    .phrase "SELECT COUNT(*) AS count FROM " :: .name table :: filtersTokens filters
  | insert names =>
    .phrase "INSERT INTO " :: .name names.table :: .phrase " (" :: names.columnTokens [] ++
      .phrase ") VALUES (" :: Token.listed (List.replicate (names.columns.length + 3) [.mark]) ++
        [.phrase ")"]
  | update names =>
    .phrase "UPDATE " :: .name names.table :: .phrase " SET " ::
      names.columns.flatMap (fun c => [.name c, .phrase " = ", .mark, .phrase ", "]) ++
        [.phrase "updated_at = ", .mark, .phrase " WHERE uuid = ", .mark,
          .phrase " AND deleted_at IS NULL"]
  | delete table =>
    [.phrase "UPDATE ", .name table, .phrase " SET deleted_at = ", .mark, .phrase " WHERE uuid = ",
      .mark, .phrase " AND deleted_at IS NULL"]
  | link links =>
    [.phrase "INSERT INTO ", .name links.table, .phrase " (", .name links.owner, .phrase ", ",
      .name links.member, .phrase ") VALUES (", .mark, .phrase ", ", .mark,
      .phrase ") ON CONFLICT DO NOTHING"]
  | unlink links =>
    [.phrase "DELETE FROM ", .name links.table, .phrase " WHERE ", .name links.owner,
      .phrase " = ", .mark, .phrase " AND ", .name links.member, .phrase " = ", .mark]

/-! ### The text of pieces and of tokens -/

section Pieces

variable (d : Dialect) (next : Nat) (ps qs : List Piece) (s : String) (v : Value)

@[simp] lemma textFrom_nil : textFrom d next [] = "" := rfl

@[simp] lemma textFrom_words : textFrom d next (.words s :: ps) = s ++ textFrom d next ps := rfl

@[simp] lemma textFrom_argument :
    textFrom d next (.argument v :: ps) = d.mark next ++ textFrom d (next + 1) ps := rfl

@[simp] lemma textFrom_finder : textFrom d next (.finder :: ps) = d.finder ++ textFrom d next ps :=
  rfl

@[simp] lemma arguments_nil : arguments [] = [] := rfl

@[simp] lemma arguments_words : arguments (.words s :: ps) = arguments ps := rfl

@[simp] lemma arguments_argument : arguments (.argument v :: ps) = v :: arguments ps := rfl

@[simp] lemma arguments_finder : arguments (.finder :: ps) = arguments ps := rfl

@[simp] lemma arguments_append : arguments (ps ++ qs) = arguments ps ++ arguments qs :=
  List.filterMap_append

@[simp] lemma textFrom_append :
    textFrom d next (ps ++ qs) =
      textFrom d next ps ++ textFrom d (next + (arguments ps).length) qs := by
  induction ps generalizing next with
  | nil => exact String.empty_append.symm
  | cons p ps ih =>
    cases p
    case argument =>
      simp only [List.cons_append, textFrom_argument, ih, String.append_assoc, arguments_argument,
        List.length_cons]
      rw [Nat.add_assoc, Nat.add_comm 1]
    all_goals simp [ih, String.append_assoc]

end Pieces

namespace Token

variable {mark : Nat → String} {finder : String} (ts us : List Token)

@[simp] lemma marks_append : marks (ts ++ us) = marks ts + marks us := by
  induction ts with
  | nil => exact (Nat.zero_add _).symm
  | cons t ts ih =>
    cases t
    case mark =>
      simp only [List.cons_append, marks, ih]
      omega
    all_goals simp only [List.cons_append, marks, ih]

@[simp] lemma textWith_append (next : Nat) :
    textWith mark finder next (ts ++ us) =
      textWith mark finder next ts ++ textWith mark finder (next + marks ts) us := by
  induction ts generalizing next with
  | nil => exact String.empty_append.symm
  | cons t ts ih =>
    cases t
    case mark =>
      simp only [List.cons_append, textWith, marks, ih, String.append_assoc]
      rw [Nat.add_assoc, Nat.add_comm 1]
    all_goals simp only [List.cons_append, textWith, marks, ih, String.append_assoc]

end Token

/-- Whether tokens spell words, none of them being a mark or the function. -/
structure Reads (s : String) (ts : List Token) : Prop where
  text : ∀ mark finder next, Token.textWith mark finder next ts = s
  marks : Token.marks ts = 0

namespace Reads

variable {s s' : String} {ts ts' : List Token}

lemma nil : Reads "" [] := ⟨fun _ _ _ => rfl, rfl⟩

lemma append (h : Reads s ts) (h' : Reads s' ts') : Reads (s ++ s') (ts ++ ts') where
  text mark finder next := by rw [Token.textWith_append, h.text, h'.text]
  marks := by rw [Token.marks_append, h.marks, h'.marks]

lemma phrase (s : String) (known : s ∈ phrases := by decide) : Reads s [.phrase s known] :=
  ⟨fun _ _ _ => String.append_empty, rfl⟩

lemma name (s : String) : Reads s [.name s] := ⟨fun _ _ _ => String.append_empty, rfl⟩

/-- Tokens with commas between them spell texts with commas between them. -/
lemma listed {ss : List String} {tss : List (List Token)} (h : List.Forall₂ Reads ss tss) :
    Reads (", ".intercalate ss) (Token.listed tss) := by
  induction h with
  | nil => exact nil
  | @cons s ts ss tss hs hss ih =>
    cases hss with
    | nil => simpa [Token.listed] using hs
    | cons hs' hss =>
      rw [String.intercalate_cons_cons, String.append_assoc]
      exact hs.append ((phrase ", ").append ih)

end Reads

/-- What it means that tokens spell pieces: they have the same text, with a mark for each
argument. -/
structure Spells (ps : List Piece) (ts : List Token) : Prop where
  text : ∀ (d : Dialect) next, textFrom d next ps = Token.textWith d.mark d.finder next ts
  marks : (arguments ps).length = Token.marks ts

namespace Spells

variable {ps qs : List Piece} {ts us : List Token}

lemma nil : Spells [] [] := ⟨fun _ _ => rfl, rfl⟩

lemma append (h : Spells ps ts) (h' : Spells qs us) : Spells (ps ++ qs) (ts ++ us) where
  text d next := by rw [textFrom_append, Token.textWith_append, h.text, h'.text, h.marks]
  marks := by rw [Token.marks_append, ← h.marks, ← h'.marks, arguments_append, List.length_append]

lemma words {s : String} (h : Reads s ts) : Spells [.words s] ts :=
  ⟨fun _ _ => String.append_empty.trans (h.text _ _ _).symm, h.marks.symm⟩

lemma argument (v : Value) : Spells [.argument v] [.mark] := ⟨fun _ _ => rfl, rfl⟩

/-- Pieces with commas between them are spelled by tokens with commas between them. -/
lemma listed {pss : List (List Piece)} {tss : List (List Token)}
    (h : List.Forall₂ Spells pss tss) :
    Spells (separated [.words ", "] pss) (Token.listed tss) := by
  induction h with
  | nil => exact nil
  | @cons ps ts pss tss hs hss ih =>
    cases hss with
    | nil => simpa [Token.listed, separated] using hs
    | cons hs' hss => exact hs.append ((words (.phrase ", ")).append ih)

/-- Places with commas between them are spelled by as many marks with commas between them. -/
lemma places (vs : List Value) :
    Spells (separated [.words ", "] (vs.map fun v => [.argument v]))
      (Token.listed (List.replicate vs.length [.mark])) := by
  refine listed ?_
  induction vs with
  | nil => exact .nil
  | cons v vs ih => exact .cons (argument v) ih

lemma flatMap {α : Type} {f : α → List Piece} {g : α → List Token} {xs : List α}
    (h : ∀ x ∈ xs, Spells (f x) (g x)) : Spells (xs.flatMap f) (xs.flatMap g) := by
  induction xs with
  | nil => exact nil
  | cons x xs ih =>
    exact (h x List.mem_cons_self).append (ih fun y hy => h y (List.mem_cons_of_mem _ hy))

end Spells

/-! ### Columns, filters and orders -/

/-- The columns of an entity are spelled by the tokens that name them. -/
lemma reads_columns {qualifier : String} {ts : List Token} (h : Reads qualifier ts) (o : Outline) :
    Reads (columnNames qualifier o) (o.names.columnTokens ts) := by
  refine Reads.listed ?_
  rw [List.forall₂_map_left_iff, List.forall₂_map_right_iff, TableNames.allColumns]
  have hfields : List.Forall₂ (fun c t => Reads (qualifier ++ c) (ts ++ [t]))
      (o.columns.map Prod.fst) (o.names.columns.map Token.name) := by
    rw [List.forall₂_map_right_iff]
    exact List.forall₂_same.2 fun c _ => h.append (.name c)
  refine List.rel_append ?_ ?_
  · exact .cons (h.append (.phrase "uuid")) hfields
  · exact .cons (h.append (.phrase "created_at")) (.cons (h.append (.phrase "updated_at")) .nil)

/-- The order of the rows of a list is spelled by its tokens. -/
lemma reads_order (p : Parameters) : Reads (orderText p) (orderTokens p.sortBy p.direction) := by
  have hd : Reads (" " ++ keyword p.direction) [directionToken p.direction] := by
    cases p.direction <;> exact Reads.phrase _
  have hkey (s : String) : s!"{s} {keyword p.direction}" = s ++ (" " ++ keyword p.direction) := by
    rw [← String.append_assoc]
    rfl
  have key {s : String} {t : Token} (h : Reads s [t]) :
      Reads s!"{s} {keyword p.direction}" [t, directionToken p.direction] :=
    hkey s ▸ h.append hd
  refine (Reads.phrase " ORDER BY ").append ?_
  cases p.sortBy with
  | none => exact .listed (.cons (key (.phrase "created_at")) (.cons (key (.phrase "uuid")) .nil))
  | some name =>
    exact .listed (.cons (key (.name name))
      (.cons (key (.phrase "created_at")) (.cons (key (.phrase "uuid")) .nil)))

@[simp] lemma toString_text (s : String) : toString s = s := rfl

/-- A filter is spelled by the tokens of its form. -/
lemma spells_filter (f : Filter) : Spells (filterPieces f) f.form.tokens := by
  obtain ⟨field, condition⟩ := f
  cases condition with
  | equals | contains =>
    constructor <;> simp [filterPieces, Filter.form, Condition.form, FilterForm.tokens,
      String.append_assoc]
  | between low high =>
    cases low <;> cases high <;> constructor <;>
      simp [filterPieces, Filter.form, Condition.form, FilterForm.tokens, boundPieces, separated,
        String.append_assoc]

/-- The condition on the rows of a list is spelled by its tokens. -/
lemma spells_filters (fs : List Filter) :
    Spells (filtersPieces fs) (filtersTokens (fs.map Filter.form)) := by
  rw [filtersPieces, filtersTokens, List.flatMap_map]
  exact (Spells.words (.phrase " WHERE deleted_at IS NULL")).append
    (Spells.flatMap fun f _ => (Spells.words (.phrase " AND ")).append (spells_filter f))

/-! ### Statements -/

@[simp] lemma names_table (o : Outline) : o.names.table = o.table := rfl

@[simp] lemma names_links (a : Association) :
    a.names = ⟨a.table, a.ownerColumn, a.memberColumn⟩ := rfl

/-- A selection is spelled by the tokens of its form. -/
lemma Selection.spells (q : Selection) : Spells q.pieces (selection q).form.tokens := by
  cases q with
  | live o uuid =>
    have columns := reads_columns .nil o
    constructor <;> simp [pieces, columns.text, columns.marks, String.append_assoc]
  | page o p =>
    have columns := reads_columns .nil o
    have condition := spells_filters p.filters
    have order := reads_order p
    constructor <;> simp [pieces, columns.text, columns.marks, condition.text, condition.marks,
      order.text, order.marks, String.append_assoc]
  | members a uuid =>
    have columns := reads_columns (Reads.phrase "m.") a.member
    -- The phrase between the two names is put together from the ends of two texts.
    have joined : " j ON j." = " j " ++ "ON j." := by decide
    constructor <;> simp [pieces, columns.text, columns.marks, String.append_assoc]
    intro d next
    rw [joined, String.append_assoc]

/-- A count is spelled by the tokens of its form. -/
lemma Count.spells (q : Count) : Spells q.pieces (count q).form.tokens := by
  cases q with
  | live o uuids =>
    have places := Spells.places (uuids.map Value.uuid)
    rw [List.map_map, List.length_map] at places
    constructor <;> simp [pieces, ← places.text, ← places.marks, Function.comp_def,
      String.append_assoc]
  | any => constructor <;> simp [pieces, String.append_assoc]
  | duplicates o field v exclude =>
    cases exclude <;> constructor <;> simp [pieces, String.append_assoc]
  | matching o filters =>
    have condition := spells_filters filters
    constructor <;> simp [pieces, condition.text, condition.marks, String.append_assoc]

/-- The columns of a new row with their values. -/
def insertions (o : Outline) (uuid : Uuid) (record : Record) (now : Instant) :
    List (String × Value) :=
  ("uuid", .uuid uuid) :: valuesOf record o ++
    [("created_at", .timestamp now), ("updated_at", .timestamp now)]

/-- The columns of a new row are those that are read of a row. -/
lemma insertions_columns (o : Outline) (uuid : Uuid) (record : Record) (now : Instant) :
    ", ".intercalate ((insertions o uuid record now).map Prod.fst) = columnNames "" o := by
  simp [insertions, valuesOf, columnNames, Function.comp_def]

/-- A row is inserted with a list of columns and a list of their values. -/
lemma pieces_insert (o : Outline) (uuid : Uuid) (record : Record) (now : Instant) :
    (Change.insert o uuid record now).pieces =
      .words ("INSERT INTO " ++ o.table ++ " (" ++ columnNames "" o ++ ") VALUES (") ::
        separated [.words ", "]
          (((insertions o uuid record now).map Prod.snd).map fun v => [.argument v]) ++
        [.words ")"] := by
  rw [← insertions_columns o uuid record now]
  simp [Change.pieces, insertions, valuesOf, Function.comp_def]

/-- The fields of a row are assigned to one after the other. -/
lemma spells_assignments (record : Record) (o : Outline) :
    Spells
      ((valuesOf record o).flatMap fun p => [.words (p.1 ++ " = "), .argument p.2, .words ", "])
      (o.names.columns.flatMap fun c => [.name c, .phrase " = ", .mark, .phrase ", "]) := by
  have columns : o.names.columns = (valuesOf record o).map Prod.fst := by
    simp [valuesOf, Outline.names, Function.comp_def]
  rw [columns, List.flatMap_map]
  refine Spells.flatMap fun p _ => ?_
  constructor <;> simp [String.append_assoc]

/-- A change is spelled by the tokens of its form. -/
lemma Change.spells (c : Change) : Spells c.pieces (change c).form.tokens := by
  cases c with
  | insert o uuid record now =>
    have columns := reads_columns .nil o
    have places := Spells.places ((insertions o uuid record now).map Prod.snd)
    have number : ((insertions o uuid record now).map Prod.snd).length =
        o.names.columns.length + 3 := by
      simp [insertions, valuesOf, Outline.names]
    rw [number, List.map_map] at places
    rw [Statement.pieces_insert]
    constructor <;> simp [columns.text, columns.marks, ← places.text, ← places.marks,
      String.append_assoc]
  | update o uuid record now =>
    have assignments := spells_assignments record o
    constructor <;> simp [pieces, assignments.text, assignments.marks, String.append_assoc]
  | delete | link | unlink => constructor <;> simp [pieces, String.append_assoc]

/-- Every statement is spelled by the tokens of its form. -/
theorem spells (a : Statement) : Spells a.pieces a.form.tokens := by
  cases a with
  | selection q => exact q.spells
  | count q => exact q.spells
  | change c => exact c.spells

end Statement

end BookingOffice
