import BookingOffice.Proofs.Procedure.Query
import BookingOffice.Proofs.Store.Sound

/-!
What the questions of the office come to in a sound store, where every live entry makes an entity.

* `Procedure.exists_ask_get`: an entity is got exactly if its identifier stands for a live row;
* `Procedure.exists_ask_list`: a list never fails, and it holds what `get` would give for the rows
  of the page.
-/

namespace BookingOffice

namespace Store

/-- The entries in the rows of a page. -/
def page (st : Store) (o : Outline) (p : Parameters) : List Entry :=
  (st.select (.page o p)).filterMap (·.decoded? o)

variable {st : Store} {s : Schema}

lemma Readable.fetch_page (h : st.Readable) (hs : s ∈ Catalogue.schemas) (p : Parameters) :
    st.fetch (.page s.outline p) = .ok (st.page s.outline p) :=
  h.fetch_eq (q := .page s.outline p) hs rfl fun _ => mem_rows_of_mem_select_page

lemma Readable.lookup?_of_mem_page (h : st.Readable) (hs : s ∈ Catalogue.schemas) {p : Parameters}
    {e : Entry} (he : e ∈ st.page s.outline p) : st.lookup? s.outline e.uuid = some e := by
  obtain ⟨row, hrow, he⟩ := List.mem_filterMap.1 he
  refine (h.lookup?_eq_some_iff hs).2 ⟨List.mem_filterMap.2 ⟨row, ?_, he⟩, rfl⟩
  exact mem_rows_of_mem_select_page hrow

end Store

namespace Procedure

variable {st : Store} {s : Schema}

/-- The entity of a live entry is completed. -/
lemma exists_ask_complete (h : st.Sound) (hs : s ∈ Catalogue.schemas) {uuid : Uuid} {e : Entry}
    (he : st.lookup? s.outline uuid = some e) :
    ∃ stored, (complete s.model e).ask st = pure stored := by
  obtain ⟨draft, hdraft⟩ := h.builds s hs uuid e he
  rw [ask_complete h.toReadable hs, Entry.toStored, hdraft]
  exact ⟨_, rfl⟩

/-- Getting an entity is completing the entry under its identifier. -/
lemma ask_get_of_lookup? (h : st.Readable) (hs : s ∈ Catalogue.schemas) {uuid : Uuid} {e : Entry}
    (he : st.lookup? s.outline uuid = some e) :
    (get s.model uuid).ask st = (complete s.model e).ask st := by
  rw [ask_get h hs, he, ask_complete h hs]

/-- An entity is got exactly if its identifier stands for a live row. -/
theorem exists_ask_get (h : st.Sound) (hs : s ∈ Catalogue.schemas) (uuid : Uuid) :
    (∃ stored, (get s.model uuid).ask st = pure stored) ∨
      st.lookup? s.outline uuid = none ∧ (get s.model uuid).ask st = throw .notFound := by
  cases he : st.lookup? s.outline uuid with
  | some e =>
    rw [ask_get_of_lookup? h.toReadable hs he]
    exact Or.inl (exists_ask_complete h hs he)
  | none =>
    refine Or.inr ⟨rfl, ?_⟩
    rw [ask_get h.toReadable hs, he]

/-- A list holds what `get` gives for the rows of the page, and how many rows match. -/
theorem exists_ask_list (h : st.Sound) (hs : s ∈ Catalogue.schemas) (p : Parameters) :
    ∃ entities,
      (list s.model p).ask st = pure (entities,
        .ofTotal p (st.matching s.table p.filters).length) ∧
      List.Forall₂ (fun e stored => (get s.model e.uuid).ask st = pure stored)
        (st.page s.outline p) entities := by
  have hcomplete : ∀ e ∈ st.page s.outline p, ∃ stored,
      (complete s.model e).ask st = pure stored :=
    fun e he => exists_ask_complete h hs (h.toReadable.lookup?_of_mem_page hs he)
  obtain ⟨entities, hentities, hall⟩ := Traversal.exists_mapM_eq_pure hcomplete
  refine ⟨entities, ?_, ?_⟩
  · simp only [list, Schema.model_schema, Script.ask_bind, Script.ask_numberOf, Script.ask_rowsOf,
      h.toReadable.fetch_page hs, Attempt.ofExcept_ok, pure_bind, Script.ask_mapM, hentities,
      Script.ask_pure]
    rfl
  · have hget : ∀ e ∈ st.page s.outline p, st.lookup? s.outline e.uuid = some e :=
      fun e he => h.toReadable.lookup?_of_mem_page hs he
    refine ((List.forall₂_and_left _ _).2 ⟨hget, hall⟩).imp ?_
    rintro e stored ⟨he, hstored⟩
    rw [ask_get_of_lookup? h.toReadable hs he]
    exact hstored

end Procedure

end BookingOffice
