import BookingOffice.Proofs.Listing.Written
import BookingOffice.Proofs.Office.Detail
import BookingOffice.Proofs.Office.Pages

/-!
Finding what is stored. Whatever the detail of an entity shows of a field that queries may filter
by, a query with exactly that is about the entity: nothing is lost on the way of a value from
storage into a detail, and from the detail into a query and back to storage.

* `Office.Sound.exists_written`: what storage keeps of a field can be written;
* `Office.IsFound`: what it means that an entity is found by a field;
* `Office.Sound.exists_isFound`: every entity is found by every field that may be filtered by;
* `Office.Reachable.findable`: so it is in every state that the office gets into.
-/

namespace BookingOffice

/-- A field that queries may filter by must have a value and has no name that means something else
in queries, and texts are not filtered by range. -/
lemma Catalogue.filterable {s : Schema} (hs : s ∈ schemas) {f : Field} (hf : f ∈ s.fields)
    (hfilter : f.isFilterable = true) : f.required = true ∧ f.name ∉ Setting.controls ∧
      (f.filter.getD .exact = .range → f.kind ≠ .text) :=
  (by decide : ∀ s ∈ schemas, ∀ f ∈ s.fields, f.isFilterable = true → f.required = true ∧
    f.name ∉ Setting.controls ∧ (f.filter.getD .exact = .range → f.kind ≠ .text)) s hs f hf hfilter

namespace Parameters

variable {fields : List Field} {key text : String} {filter : Filter}

/-- The parameters of a query that does nothing but filter. -/
def ofFilter (filter : Filter) : Parameters := { filters := [filter] }

/-- A query that is one filter. -/
lemma ofPairs_filter (h : Setting.read fields key text = pure (.filter filter)) :
    ofPairs fields [(key, text)] = pure (ofFilter filter) := by
  have hread : List.Forall₂ (fun p setting => Setting.read fields p.1 p.2 = pure setting)
      [(key, text)] [.filter filter] := .cons h .nil
  exact ofPairs_eq_pure hread (List.nodup_singleton _)

/-- The same query for another page, with another size. -/
lemma ofPairs_filter_turned (h : Setting.read fields key text = pure (.filter filter))
    (hkey : key ∉ Setting.controls) {page perPage : Nat} (hpage : 1 ≤ page) (hlt : page < 2 ^ 64)
    (hpos : 1 ≤ perPage) (hle : perPage ≤ Setting.maxPerPage) :
    ofPairs fields [(key, text), ("page", toString page), ("per_page", toString perPage)] =
      pure ((ofFilter filter).turned page perPage) := by
  have hread : List.Forall₂ (fun p setting => Setting.read fields p.1 p.2 = pure setting)
      [(key, text), ("page", toString page), ("per_page", toString perPage)]
      [.filter filter, .page page, .perPage perPage] :=
    .cons h (.cons (Setting.read_page hpage hlt) (.cons (Setting.read_perPage hpos hle) .nil))
  refine ofPairs_eq_pure hread ?_
  simp only [Setting.controls, List.mem_cons, List.not_mem_nil, or_false, not_or] at hkey
  simp [hkey]

end Parameters

namespace Office

variable {env : Surroundings} {office : Office} {s : Schema} {f : Field} {p : Parameters}
  {stored : Stored (Draft s.fields)}

/-- What is kept of a field that must have a value is one of its kind, and can be written. -/
lemma Sound.exists_written (h : office.Sound) (hs : s ∈ Catalogue.schemas)
    (hshows : office.Shows env s stored) (hf : f ∈ s.fields) (hrequired : f.required = true) :
    ∃ v, stored.value? f.name = some v ∧ v.OfKind f.kind ∧ v.toJson ≠ .null := by
  have hread := h.store.toReadable
  obtain ⟨e, hshown⟩ := (h.shows_iff hs).1 hshows
  have haccepts := hshown.accepts hread hs
  obtain ⟨e', draft, hlookup, hbuilds, -⟩ := (Procedure.ask_get_eq_pure_iff hread hs).1 hshown.get
  obtain rfl : e = e' :=
    Option.some.inj (((hread.lookup?_eq_some_iff hs).2 ⟨hshown.mem, rfl⟩).symm.trans hlookup)
  obtain ⟨members, -, -, hall⟩ := Draft.check_of_ofMembers
    (fun f hf => ⟨(Catalogue.fits hs).times f hf, haccepts.passes f hf⟩)
    (Schema.ofMembers_of_ofRecord hbuilds)
  obtain ⟨v, hv, -, hcheck⟩ := hall f hf
  have hpasses := Field.check_eq_pure hcheck
  refine ⟨v, by rw [(hshown.eq hread hs).2.2, hv],
    ⟨hpasses.kind_eq, hpasses.isNull_eq_false hrequired, hpasses.isPlain⟩, fun hnull => ?_⟩
  -- a null is not let through where there must be a value
  rw [hnull] at hcheck
  simp only [Field.check, hrequired, if_true] at hcheck
  cases hcheck

/-- Whether an entity is found by what its detail shows of a field. -/
structure IsFound (env : Surroundings) (office : Office) (s : Schema)
    (stored : Stored (Draft s.fields)) (f : Field) (text : String) (p : Parameters) : Prop where
  /-- The text is what the detail shows: a string itself, or a number as it is written. -/
  shown : ∃ detail json, stored.detail s.model = .ok detail ∧ detail.get? f.name = some json ∧
    json.queryText? = some text
  /-- It is read as a filter on the field. -/
  query : Parameters.ofPairs s.fields [(f.name, text)] = pure p
  /-- With a page and a size it is read as the same query for that page. -/
  turned : ∀ page perPage, 1 ≤ page → page < 2 ^ 64 → 1 ≤ perPage → perPage ≤ Setting.maxPerPage →
    Parameters.ofPairs s.fields
      [(f.name, text), ("page", toString page), ("per_page", toString perPage)] =
        pure (p.turned page perPage)
  /-- The entity is among those that the query is about, which every page counts. -/
  counted : ∃ all, office.IsSorted env s p all ∧ stored ∈ all ∧
    ∀ page perPage, 1 ≤ page → 1 ≤ perPage → perPage ≤ Setting.maxPerPage → ∃ entities info,
      (office.list env s.model (p.turned page perPage)).1 = pure (entities, info) ∧
        info.total = all.length
  /-- One of the pages holds it, whatever their size is, as long as storage can count the rows. -/
  paged : office.Countable → ∀ perPage, 1 ≤ perPage → perPage ≤ Setting.maxPerPage →
    ∃ page entities info, 1 ≤ page ∧ page < 2 ^ 64 ∧ page ≤ info.totalPages ∧
      (office.list env s.model (p.turned page perPage)).1 = pure (entities, info) ∧
        stored ∈ entities

/-- What passes the filters of a query is counted on every page. -/
lemma Sound.exists_counted (h : office.Sound) (hs : s ∈ Catalogue.schemas)
    (hp : p.Accepted s.fields) (hshows : office.Shows env s stored)
    (hselects : p.Selects stored.value?) :
    ∃ all, office.IsSorted env s p all ∧ stored ∈ all ∧
      ∀ page perPage, 1 ≤ page → 1 ≤ perPage → perPage ≤ Setting.maxPerPage → ∃ entities info,
        (office.list env s.model (p.turned page perPage)).1 = pure (entities, info) ∧
          info.total = all.length := by
  obtain ⟨all, hall⟩ := h.exists_sorted hs hp
  have hsorted : office.IsSorted env s p all := h.isSorted hs hp hall
  refine ⟨all, hsorted, (hsorted.mem_iff stored).2 ⟨hshows, hselects⟩, ?_⟩
  intro page perPage hpage hpos hle
  exact ⟨_, _, h.list_eq_part hs (hp.turned hpage hpos hle) hall, rfl⟩

/-- What passes the filters of a query is on one of its pages. -/
lemma Sound.exists_page (h : office.Sound) (hs : s ∈ Catalogue.schemas)
    (hp : p.Accepted s.fields) (hshows : office.Shows env s stored)
    (hselects : p.Selects stored.value?) (hcount : office.Countable) {perPage : Nat}
    (hpos : 1 ≤ perPage) (hle : perPage ≤ Setting.maxPerPage) :
    ∃ page entities info, 1 ≤ page ∧ page < 2 ^ 64 ∧ page ≤ info.totalPages ∧
      (office.list env s.model (p.turned page perPage)).1 = pure (entities, info) ∧
        stored ∈ entities := by
  obtain ⟨all, number, entities, hpaged⟩ :
      ∃ all number entities, office.Paged env s p perPage all number entities :=
    h.exists_paged hs hp hpos hle hcount
  have hmem : stored ∈ (List.range number).flatMap fun i => entities (i + 1) := by
    rw [hpaged.whole, hpaged.sorted.mem_iff]
    exact ⟨hshows, hselects⟩
  obtain ⟨i, hi, hstored⟩ := List.mem_flatMap.1 hmem
  rw [List.mem_range] at hi
  have hword : i + 1 < 2 ^ 64 := hpaged.succ_lt hpos hi
  exact ⟨i + 1, entities (i + 1), ⟨i + 1, perPage, all.length, number⟩, Nat.le_add_left 1 i, hword,
    hi, hpaged.answer (i + 1) (Nat.le_add_left 1 i) hword, hstored⟩

/-- Every entity that the office shows is found by every field that queries may filter by. -/
theorem Sound.exists_isFound (h : office.Sound) (hs : s ∈ Catalogue.schemas)
    (hshows : office.Shows env s stored) (hf : f ∈ s.fields) (hfilter : f.isFilterable = true) :
    ∃ text p, office.IsFound env s stored f text p := by
  obtain ⟨hrequired, hcontrols, hmode⟩ := Catalogue.filterable hs hf hfilter
  obtain ⟨v, hv, hkind, hne⟩ := h.exists_written hs hshows hf hrequired
  obtain ⟨text, htext⟩ := Value.exists_queryText?_of_ne_null hne
  obtain ⟨c, hc, hholds⟩ := Condition.exists_read hkind htext hmode
  have hsetting := Setting.read_of_mem (Catalogue.fits hs).names hf hfilter hcontrols hc
  have hquery := Parameters.ofPairs_filter hsetting
  have haccepted := Parameters.accepted_of_ofPairs hquery
  have hselects : (Parameters.ofFilter ⟨f.name, c⟩).Selects stored.value? := by
    intro filter hmem
    obtain rfl := List.mem_singleton.1 hmem
    exact ⟨v, hv, hholds⟩
  refine ⟨text, .ofFilter ⟨f.name, c⟩, ?_⟩
  exact {
    shown := by
      obtain ⟨detail, hdetail⟩ : ∃ detail, office.IsDetail env s stored detail :=
        h.exists_isDetail hs hshows
      obtain ⟨w, hw, hget⟩ := hdetail.fields f hf
      obtain rfl : v = w := Option.some.inj (hv.symm.trans hw)
      exact ⟨detail, v.toJson, hdetail.written, hget, htext⟩
    query := hquery
    turned := fun _ _ hpage hlt hpos hle =>
      Parameters.ofPairs_filter_turned hsetting hcontrols hpage hlt hpos hle
    counted := h.exists_counted hs haccepted hshows hselects
    paged := fun hcount _ hpos hle =>
      h.exists_page hs haccepted hshows hselects hcount hpos hle }

/-- What it means that everything in the office can be found. -/
structure Findable (env : Surroundings) (office : Office) : Prop where
  /-- Every live row can be got under its identifier. -/
  live : ∀ s ∈ Catalogue.schemas, ∀ row ∈ office.desk.store.liveRows s.table, ∃ stored,
    office.Shows env s stored ∧ stored.uuid = row.uuid
  /-- Whatever can be got is found by every field that queries may filter by. -/
  found : ∀ s ∈ Catalogue.schemas, ∀ stored, office.Shows env s stored → ∀ f ∈ s.fields,
    f.isFilterable = true → ∃ text p, office.IsFound env s stored f text p

/-- In every state that the office gets into, everything in it can be found. -/
theorem Reachable.findable (h : Reachable env office) : office.Findable env where
  live _ hs row hrow := (h.sound.exists_shows_iff hs row.uuid).2 ⟨row, hrow, rfl⟩
  found _ hs _ hshows _ hf hfilter := h.sound.exists_isFound hs hshows hf hfilter

/-- A price is found by its number, which has a point in it. -/
theorem findable_price_of_150 :
    let child := .cons (.filled "Child") (.cons (.vacant rfl) .nil)
    let price := .cons (.filled (.ofNat 0)) (.cons (.filled (Double.ofInt 150)) .nil)
    let ops : List Operation :=
      [.create Catalogue.passengerType none child, .create Catalogue.price none price]
    let office := (ofLayout .office).after .counting ops
    let total (pairs : List (String × String)) : Option Nat := do
      let p ← (Parameters.ofPairs Catalogue.price.fields pairs).outcome.bind (·.toOption)
      let page ← (office.list .counting Catalogue.price.model p).1.outcome.bind (·.toOption)
      return page.2.total
    Reachable .counting office ∧ office.Countable ∧
      (office.desk.store.liveRows "prices").length = 1 ∧ office.Findable .counting ∧
      total [("price", "150.0")] = some 1 ∧ total [("price", "150.5")] = some 0 := by
  intro child price ops office total
  have hschemas : Catalogue.passengerType ∈ Catalogue.schemas ∧
      Catalogue.price ∈ Catalogue.schemas := by decide
  have hops : ∀ op ∈ ops, op.Served := by simp [ops, Operation.Served, hschemas]
  have hoffice : Reachable .counting office := Reachable.start.after hops
  have hlength : ops.length ≤ Statement.maxLimit := by
    change 2 ≤ 2 ^ 63 - 1
    omega
  exact ⟨hoffice, countable_after .counting hops hlength, by decide +kernel,
    Reachable.findable hoffice, by decide +kernel, by decide +kernel⟩

end Office

end BookingOffice
