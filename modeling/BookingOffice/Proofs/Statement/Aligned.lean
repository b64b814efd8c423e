import BookingOffice.Catalogue.Geography
import BookingOffice.Proofs.Statement.Marks

/-!
The marks, arguments and columns of statements line up. A statement has a mark for each argument;
where marks are numbered, they are counted up in the order of the text; and the two dialects differ
in marks and in the name of a function only, so that what is known about one is known about the
other. Values are bound to the columns that they are the values of.

* `Statement.LinesUp`, `Statement.linesUp`: the marks and the arguments of any statement;
* `Statement.built_insert`, `Statement.built_update`, `Statement.built_page`: the columns and the
  values of a statement that writes a row, and the two statements for a list;
* `Statement.Aligned`: what it means that marks, arguments and columns line up;
* `Statement.aligned`: they do.
-/

namespace BookingOffice.Statement

/-! ### Marks and arguments -/

/-- What it means that the texts of a statement have marks for its arguments, and are the same but
for the marks and the function. -/
structure LinesUp (a : Statement) : Prop where
  arguments_eq : (built .postgres a).arguments = (built .sqlite a).arguments
  /-- There is a question mark for each argument. -/
  count_eq : (built .sqlite a).text.toList.count '?' = (built .sqlite a).arguments.length
  /-- There is a numbered mark for each argument, in the order of their numbers. -/
  numbered : numberedMarks (built .postgres a).text =
    (List.range' 1 (built .postgres a).arguments.length).map fun n => "$" ++ toString n
  /-- Without its numbers one text is made of the tokens of the other, with the one function. -/
  unnumbered_eq :
    unnumbered (built .postgres a).text = Token.textWith (fun _ => "?") "strpos" 1 a.form.tokens
  /-- The other text is made of the same tokens, with the other function. -/
  text_eq : (built .sqlite a).text = Token.textWith (fun _ => "?") "instr" 1 a.form.tokens
  /-- The texts are turned into each other unless a name looks like a call of the function. -/
  replaced_eq : (∀ n ∈ Token.names a.form.tokens, ¬"strpos(".toList <:+: n.toList) →
    replaced "strpos(" "instr(" (unnumbered (built .postgres a).text) = (built .sqlite a).text

/-- A statement lines up if there are no marks in the names that it is made of. -/
lemma linesUp {a : Statement} (h : ∀ n ∈ Token.names a.form.tokens, Unmarked n) : LinesUp a := by
  have htext (d : Dialect) :
      (built d a).text = Token.textWith d.mark d.finder 1 a.form.tokens := (spells a).text d 1
  have hmarks : (Statement.arguments a.pieces).length = Token.marks a.form.tokens :=
    (spells a).marks
  have hparted := parted a.form
  have hfinder : Unmarked "strpos" := by decide
  have hunnumbered := Token.unnumbered_text hfinder hparted h 1
  refine ⟨rfl, ?_, ?_, ?_, htext .sqlite, fun hnames => ?_⟩
  · rw [htext]
    exact (Token.count_text (by decide) h 1).trans hmarks.symm
  · rw [htext]
    exact (Token.numberedMarks_text (by decide) hparted h 1).trans (by rw [← hmarks]; rfl)
  · rw [htext]
    exact hunnumbered
  · rw [htext, htext]
    exact (congrArg _ hunnumbered).trans (Token.replaced_text hparted hnames 1)

/-! ### Columns and values -/

section Columns

variable (d : Dialect) (o : Outline) (uuid : Uuid) (record : Record) (now : Instant)

/-- Places with commas between them have marks that are counted up. -/
lemma textFrom_places (vs : List Value) (next : Nat) :
    textFrom d next (separated [.words ", "] (vs.map fun v => [.argument v])) =
      ", ".intercalate ((List.range' next vs.length).map d.mark) := by
  induction vs generalizing next with
  | nil => rfl
  | cons v vs ih =>
    cases vs with
    | nil => simp [separated]
    | cons v' vs =>
      have hrest := ih (next + 1)
      simp only [separated, List.map_cons, List.length_cons, List.range'_succ] at hrest ⊢
      rw [String.intercalate_cons_cons, String.append_assoc, ← hrest]
      rfl

/-- Places with commas between them have the arguments that are put there. -/
lemma arguments_places (vs : List Value) :
    arguments (separated [.words ", "] (vs.map fun v => [.argument v])) = vs := by
  induction vs with
  | nil => rfl
  | cons v vs ih =>
    cases vs with
    | nil => rfl
    | cons v' vs => simpa [separated] using ih

/-- The columns that an update assigns to, with their values. -/
def assignments : List (String × Value) := valuesOf record o ++ [("updated_at", .timestamp now)]

/-- An assignment to a column, with the number of its argument. -/
def assignment (p : (String × Value) × Nat) : String := p.1.1 ++ " = " ++ d.mark p.2

/-- Assignments with the one of the instant at their end have marks that are counted up. -/
lemma textFrom_assignments (ps : List (String × Value)) (v : Value) (next : Nat) :
    textFrom d next (ps.flatMap fun p => [.words (p.1 ++ " = "), .argument p.2, .words ", "]) ++
        ("updated_at = " ++ d.mark (next + ps.length)) =
      ", ".intercalate (((ps ++ [("updated_at", v)]).zipIdx next).map (assignment d)) := by
  induction ps generalizing next with
  | nil => simp [assignment]
  | cons p ps ih =>
    have hrest := ih (next + 1)
    have hne : ((ps ++ [("updated_at", v)]).zipIdx (next + 1)).map (assignment d) ≠ [] := by simp
    rw [Nat.add_assoc, Nat.add_comm 1] at hrest
    rw [List.cons_append, List.zipIdx_cons, List.map_cons, String.intercalate_cons_of_ne_nil hne,
      ← hrest]
    simp [assignment, String.append_assoc]

lemma arguments_assignments (ps : List (String × Value)) :
    arguments (ps.flatMap fun p => [.words (p.1 ++ " = "), .argument p.2, .words ", "]) =
      ps.map Prod.snd := by
  induction ps with
  | nil => rfl
  | cons p ps ih => simpa using ih

/-- An insertion with the columns and the values of pairs, in their order. -/
def insertion (table : String) (pairs : List (String × Value)) : Built :=
  ⟨"INSERT INTO " ++ table ++ " (" ++ ", ".intercalate (pairs.map Prod.fst) ++ ") VALUES (" ++
      ", ".intercalate ((List.range' 1 pairs.length).map d.mark) ++ ")",
    pairs.map Prod.snd⟩

/-- An update of a row that assigns the values of pairs to their columns, in their order. -/
def replacement (table : String) (pairs : List (String × Value)) : Built :=
  ⟨"UPDATE " ++ table ++ " SET " ++ ", ".intercalate ((pairs.zipIdx 1).map (assignment d)) ++
      " WHERE uuid = " ++ d.mark (pairs.length + 1) ++ " AND deleted_at IS NULL",
    pairs.map Prod.snd ++ [.uuid uuid]⟩

/-- A count of the rows for which a condition with arguments holds. -/
def total (table condition : String) (arguments : List Value) : Built :=
  ⟨"SELECT COUNT(*) AS count FROM " ++ table ++ " WHERE " ++ condition, arguments⟩

/-- A selection of a page of the rows for which a condition with arguments holds. -/
def page (p : Parameters) (condition : String) (arguments : List Value) : Built :=
  ⟨"SELECT " ++ columnNames "" o ++ " FROM " ++ o.table ++ " WHERE " ++ condition ++ orderText p ++
      " LIMIT " ++ d.mark (arguments.length + 1) ++ " OFFSET " ++ d.mark (arguments.length + 2),
    arguments ++ [.integer (pageLimit p), .integer (pageOffset p)]⟩

/-- A row is inserted with a value for each of its columns. -/
lemma built_insert :
    built d (change (.insert o uuid record now)) =
      insertion d o.table (insertions o uuid record now) := by
  let pairs := insertions o uuid record now
  have htext := textFrom_places d (pairs.map Prod.snd) 1
  have harguments := arguments_places (pairs.map Prod.snd)
  rw [List.map_map] at htext harguments
  rw [List.length_map] at htext
  unfold built insertion
  rw [insertions_columns, Statement.pieces, pieces_insert, text]
  simp [pairs, htext, harguments, String.append_assoc]

/-- Fields are assigned their values, and the row is found by its identifier. -/
lemma built_update :
    built d (change (.update o uuid record now)) =
      replacement d uuid o.table (assignments o record now) := by
  have htext := textFrom_assignments d (valuesOf record o) (.timestamp now) 1
  have harguments := arguments_assignments (valuesOf record o)
  have hnumber : 1 + (valuesOf record o).length + 1 = (assignments o record now).length + 1 := by
    simp [assignments, Nat.add_comm]
  unfold built replacement
  simp [Statement.pieces, Change.pieces, text, harguments, hnumber, assignments, ← htext,
    String.append_assoc]

/-- The rows of a page are those that are counted: one condition stands in both statements, and its
arguments come first in both. -/
lemma built_page (p : Parameters) : ∃ condition arguments,
    built d (count (.matching o p.filters)) = total o.table condition arguments ∧
      built d (selection (.page o p)) = page d o p condition arguments := by
  let filters := p.filters.flatMap fun f => .words " AND " :: filterPieces f
  have hfilters : filtersPieces p.filters = .words " WHERE deleted_at IS NULL" :: filters := rfl
  have hnext : 1 + (arguments filters).length = (arguments filters).length + 1 := Nat.add_comm _ _
  have hwhere (s : String) :
      " WHERE deleted_at IS NULL" ++ s = " WHERE " ++ ("deleted_at IS NULL" ++ s) := by
    rw [← String.append_assoc]
    rfl
  let condition := "deleted_at IS NULL" ++ textFrom d 1 filters
  have htotal : built d (count (.matching o p.filters)) =
      total o.table condition (arguments filters) := by
    unfold built total
    simp [Statement.pieces, Count.pieces, text, hfilters, hwhere, condition, String.append_assoc]
  have hpage : built d (selection (.page o p)) = page d o p condition (arguments filters) := by
    unfold built page
    simp [Statement.pieces, Selection.pieces, text, hfilters, hnext, hwhere, condition,
      String.append_assoc]
  exact ⟨condition, arguments filters, htotal, hpage⟩

end Columns

/-! ### The main statement -/

/-- What it means that the marks, the arguments and the columns of statements line up. -/
structure Aligned : Prop where
  /-- Unless there are marks in the names, the texts have marks for the arguments, and are the same
  but for the marks and the function. -/
  linesUp : ∀ a, (∀ n ∈ Token.names a.form.tokens, Unmarked n) → LinesUp a
  /-- A column has the value of its field, or a null of its kind. -/
  values : ∀ record (o : Outline), valuesOf record o =
    o.columns.map fun c => (c.1, match record.get? c.1 with | some v => v | none => .null c.2)
  /-- A row is inserted with its identifier, the values of its columns and twice the instant. -/
  insert : ∀ d (o : Outline) uuid record now, built d (change (.insert o uuid record now)) =
    insertion d o.table (("uuid", .uuid uuid) :: valuesOf record o ++
      [("created_at", .timestamp now), ("updated_at", .timestamp now)])
  /-- A row is updated with the values of its columns and the instant. -/
  update : ∀ d (o : Outline) uuid record now, built d (change (.update o uuid record now)) =
    replacement d uuid o.table (valuesOf record o ++ [("updated_at", .timestamp now)])
  /-- The total of a list and a page of it are about the same rows. -/
  page : ∀ d (o : Outline) (p : Parameters), ∃ condition arguments,
    built d (count (.matching o p.filters)) = total o.table condition arguments ∧
      built d (selection (.page o p)) = page d o p condition arguments

/-- The marks, the arguments and the columns of statements line up. -/
theorem aligned : Aligned where
  linesUp _ h := Statement.linesUp h
  values record o := List.map_congr_left fun c _ => by
    rw [valueOf]
    cases record.get? c.1 <;> rfl
  insert := built_insert
  update := built_update
  page := built_page

/-- A page of countries, by a part of their names and a range of codes, as both servers get it. -/
theorem aligned_page :
    let filters : List Filter :=
      [⟨"name", .contains "a"⟩, ⟨"code", .between (some (.text "b")) (some (.text "c"))⟩]
    let a := selection (.page Catalogue.country.outline { filters := filters, page := 3 })
    (∀ n ∈ Token.names a.form.tokens, Unmarked n) ∧
      (∀ n ∈ Token.names a.form.tokens, ¬"strpos(".toList <:+: n.toList) ∧
      (built .postgres a).arguments =
        [.text "a", .text "b", .text "c", .integer 5, .integer 10] ∧
      (built .postgres a).text = "SELECT uuid, name, code, created_at, updated_at FROM " ++
        "countries WHERE deleted_at IS NULL AND strpos(name, $1) > 0 AND code >= $2 AND " ++
        "code <= $3 ORDER BY created_at ASC, uuid ASC LIMIT $4 OFFSET $5" ∧
      LinesUp a ∧
      replaced "strpos(" "instr(" (unnumbered (built .postgres a).text) =
        (built .sqlite a).text := by
  intro filters a
  have hnames : ∀ n ∈ Token.names a.form.tokens, Unmarked n := by decide +kernel
  have hcalls : ∀ n ∈ Token.names a.form.tokens, ¬"strpos(".toList <:+: n.toList := by
    decide +kernel
  exact ⟨hnames, hcalls, by decide +kernel, by decide +kernel, aligned.linesUp a hnames,
    (aligned.linesUp a hnames).replaced_eq hcalls⟩

end BookingOffice.Statement
