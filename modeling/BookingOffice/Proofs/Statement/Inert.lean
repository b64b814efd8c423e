import BookingOffice.Catalogue.Geography
import BookingOffice.Proofs.Listing.Accepted
import BookingOffice.Proofs.Statement.Tokens

/-!
Values never become part of the text of statements. The text of a statement is that of the tokens
of its form, and the form of a statement is what is left of it without the values: two statements
that differ in identifiers, records, instants, members, values of filters and pages only have one
text, whatever the values look like.

What a query names becomes part of the text, in the conditions and in the order of a list. It can
only be the name of a field.

* `Token.mem_names_selectPage`, `Token.mem_names_countMatching`: which names the text of a list has;
* `Statement.Inert`: what it means that values stay out of the text of statements;
* `Statement.inert`: they do, for both servers.
-/

namespace BookingOffice.Statement

/-! ### Names -/

namespace Token

variable {n : String}

@[simp] lemma names_append (ts us : List Token) : names (ts ++ us) = names ts ++ names us := by
  induction ts with
  | nil => rfl
  | cons t ts ih => cases t <;> simp [names, ih]

@[simp] lemma names_flatMap {α : Type} (f : α → List Token) (xs : List α) :
    names (xs.flatMap f) = xs.flatMap fun x => names (f x) := by
  induction xs with
  | nil => rfl
  | cons x xs ih => simp [ih]

/-- Commas add no names. -/
@[simp] lemma names_listed (parts : List (List Token)) :
    names (listed parts) = parts.flatMap names := by
  induction parts with
  | nil => rfl
  | cons part parts ih =>
    cases parts with
    | nil => simp [listed]
    | cons part' parts => simpa [listed, names] using ih

/-- The columns of an entity that are named are those for its fields. -/
@[simp] lemma names_columnTokens (t : TableNames) : names (t.columnTokens []) = t.columns := by
  simp [TableNames.columnTokens, TableNames.allColumns, names, List.flatMap_map]

/-- A condition names the fields that it is on. -/
lemma mem_names_filtersTokens {fs : List FilterForm} (hn : n ∈ names (filtersTokens fs)) :
    ∃ f ∈ fs, f.field = n := by
  obtain ⟨f, hf, hn⟩ : ∃ f ∈ fs, n ∈ names f.tokens := by simpa [filtersTokens, names] using hn
  refine ⟨f, hf, ?_⟩
  obtain ⟨field, condition⟩ := f
  rcases condition with _ | _ | ⟨_ | _, _ | _⟩ <;> simp [FilterForm.tokens, names] at hn <;>
    exact hn.symm

/-- An order names the field that it is by, if there is one. -/
lemma mem_names_orderTokens {sortBy : Option String} {direction : Direction}
    (hn : n ∈ names (orderTokens sortBy direction)) : n ∈ sortBy := by
  cases sortBy <;> cases direction <;> simp [orderTokens, directionToken, names] at hn <;>
    exact congrArg some hn.symm

/-- What a list names. -/
lemma mem_names_selectPage {t : TableNames} {fs : List FilterForm} {sortBy : Option String}
    {direction : Direction} (hn : n ∈ names (Form.selectPage t fs sortBy direction).tokens) :
    n = t.table ∨ n ∈ t.columns ∨ (∃ f ∈ fs, f.field = n) ∨ n ∈ sortBy := by
  simp only [Form.tokens, names, names_append, names_columnTokens, List.cons_append,
    List.append_assoc, List.mem_append, List.mem_cons] at hn
  rcases hn with h | h | h | h | h
  · exact .inr (.inl h)
  · exact .inl h
  · exact .inr (.inr (.inl (mem_names_filtersTokens h)))
  · exact .inr (.inr (.inr (mem_names_orderTokens h)))
  · cases h

/-- What the count of a list names. -/
lemma mem_names_countMatching {table : String} {fs : List FilterForm}
    (hn : n ∈ names (Form.countMatching table fs).tokens) : n = table ∨ ∃ f ∈ fs, f.field = n :=
  (List.mem_cons.1 hn).imp_right mem_names_filtersTokens

end Token

/-! ### The main statement -/

/-- What it means that values stay out of the text of statements for a server. -/
structure Inert (d : Dialect) : Prop where
  /-- The text of a statement is made of the tokens of its form. -/
  written : ∀ a, (built d a).text = Token.textWith d.mark d.finder 1 a.form.tokens
  /-- Statements that differ in values only have the same text. -/
  text_eq : ∀ a b, a.form = b.form → (built d a).text = (built d b).text
  /-- The names in the statements for a list that a query asks for are the name of a table and names
  of fields. -/
  named : ∀ (s : Schema) query p, Parameters.ofQuery s.fields query = pure p →
    ∀ a ∈ [selection (.page s.outline p), count (.matching s.outline p.filters)],
      ∀ n ∈ Token.names a.form.tokens, n = s.table ∨ ∃ f ∈ s.fields, f.name = n

/-- Values stay out of the text of statements. -/
theorem inert (d : Dialect) : Inert d := by
  have written (a : Statement) :
      (built d a).text = Token.textWith d.mark d.finder 1 a.form.tokens := (spells a).text d 1
  refine ⟨written, fun a b h => by rw [written, written, h], fun s query p hp a ha n hn => ?_⟩
  have accepted := Parameters.accepted_of_ofPairs hp
  have filtered (h : ∃ f ∈ p.filters.map Filter.form, f.field = n) :
      ∃ f ∈ s.fields, f.name = n := by
    obtain ⟨_, hform, rfl⟩ := h
    obtain ⟨filter, hfilter, rfl⟩ := List.mem_map.1 hform
    obtain ⟨f, hf, hname, -⟩ := accepted.filters filter hfilter
    exact ⟨f, hf, hname⟩
  rcases List.mem_pair.1 ha with rfl | rfl
  · rcases Token.mem_names_selectPage hn with h | h | h | h
    · exact .inl h
    · obtain ⟨_, hc, rfl⟩ := List.mem_map.1 h
      obtain ⟨f, hf, rfl⟩ := List.mem_map.1 hc
      exact .inr ⟨f, hf, rfl⟩
    · exact .inr (filtered h)
    · exact .inr (accepted.sortBy n h)
  · exact (Token.mem_names_countMatching hn).imp_right filtered

/-- The filter of a query may look like the end of a statement. It stays out of the text, which is
that for any other filter on the field. -/
theorem inert_quote :
    let s := Catalogue.country
    let p : Parameters := { filters := [⟨"name", .contains "') $1 ?; --"⟩], sortBy := some "name" }
    let q : Parameters := { p with filters := [⟨"name", .contains "a"⟩] }
    let page (p : Parameters) : Statement := selection (.page s.outline p)
    Parameters.ofQuery s.fields (some "name=%27)+%241+%3F;+--&sort_by=name") = pure p ∧
      (∀ d, (built d (page p)).text = (built d (page q)).text) ∧
      (built .postgres (page p)).arguments = [.text "') $1 ?; --", .integer 5, .integer 0] ∧
      (built .postgres (page p)).text = "SELECT uuid, name, code, created_at, updated_at FROM " ++
        "countries WHERE deleted_at IS NULL AND strpos(name, $1) > 0 " ++
        "ORDER BY name ASC, created_at ASC, uuid ASC LIMIT $2 OFFSET $3" ∧
      ∀ n ∈ Token.names (page p).form.tokens, n = s.table ∨ ∃ f ∈ s.fields, f.name = n := by
  intro s p q page
  have hquery : Parameters.ofQuery s.fields (some "name=%27)+%241+%3F;+--&sort_by=name") = pure p :=
    Attempt.eq_pure_of_outcome (by decide +kernel)
  exact ⟨hquery, fun d => (inert d).text_eq (page p) (page q) rfl, by decide +kernel,
    by decide +kernel, (inert .postgres).named s _ p hquery _ List.mem_cons_self⟩

end BookingOffice.Statement
