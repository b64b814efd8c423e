import BookingOffice.Proofs.Listing.Words
import BookingOffice.Proofs.Office.Operation
import BookingOffice.Proofs.Procedure.Listing
import BookingOffice.Proofs.Store.Listing

/-!
List queries. What the office answers to a query is told by the entities that `get` shows and by
the values of their fields, whatever the rows and cells are that they are kept in.

* `Office.IsSorted`: the entities that a query is about, all of them, each once and in order;
* `Office.Lists`: what the answer to a query has to be;
* `Office.Reachable.lists`: so it is in every state that the office gets into, for all parameters
  that a query can set.
-/

namespace BookingOffice

namespace Stored

variable {s : Schema}

/-- The value of a field of a stored entity. -/
def value? (stored : Stored (Draft s.fields)) (name : String) : Option Value :=
  match (s.model.toRecord stored.entity).outcome with
  | some (.ok record) => record.get? name
  | _ => none

/-- What a stored entity is sorted by. -/
def sortKey (p : Parameters) (stored : Stored (Draft s.fields)) : List Value :=
  p.sortKey stored.value? stored.createdAt stored.uuid

/-- Whether a stored entity comes before another one in a list. -/
def Before (p : Parameters) : Stored (Draft s.fields) → Stored (Draft s.fields) → Prop :=
  p.direction.Along fun a b => Value.LexLt (a.sortKey p) (b.sortKey p)

end Stored

namespace Office

variable {env : Surroundings} {office : Office} {s : Schema} {p : Parameters}

/-- Whether the office shows an entity under its identifier. -/
def Shows (env : Surroundings) (office : Office) (s : Schema) (stored : Stored (Draft s.fields)) :
    Prop :=
  (office.get env s.model stored.uuid).1 = pure stored

/-- Whether these are the entities that pass the filters, each once and in order. -/
structure IsSorted (env : Surroundings) (office : Office) (s : Schema) (p : Parameters)
    (all : List (Stored (Draft s.fields))) : Prop where
  mem_iff : ∀ stored, stored ∈ all ↔ office.Shows env s stored ∧ p.Selects stored.value?
  ordered : all.Pairwise (Stored.Before p)

/-- What it means that the office answers a list query right. -/
structure Lists (env : Surroundings) (office : Office) (s : Schema) (p : Parameters) : Prop where
  /-- The entities that the office shows are those of the live rows. -/
  live : ∀ uuid, (∃ stored, office.Shows env s stored ∧ stored.uuid = uuid) ↔
    ∃ row ∈ office.desk.store.liveRows s.table, row.uuid = uuid
  /-- They have a value in every field that the checks of the field let pass. -/
  values : ∀ stored, office.Shows env s stored → ∀ f ∈ s.fields,
    ∃ v, stored.value? f.name = some v ∧ f.Passes v
  /-- The order of a list is strict and total between them. -/
  order : StrictTotal (office.Shows env s) (Stored.Before p)
  /-- The answer counts all that pass the filters, and holds those of the page, each as it is shown.
  A position past the limit of storage counts as that limit, which is past the end of any list that
  is not longer. -/
  answer : ∃ all entities info, office.IsSorted env s p all ∧
    (office.list env s.model p).1 = pure (entities, info) ∧
    info.page = p.page ∧ info.perPage = p.perPage ∧ info.total = all.length ∧
    info.totalPages = (all.length + p.perPage - 1) / p.perPage ∧
    entities = (all.drop (min ((p.page - 1) * p.perPage) Statement.maxLimit)).take p.perPage ∧
    (all.length ≤ Statement.maxLimit →
      entities = (all.drop ((p.page - 1) * p.perPage)).take p.perPage) ∧
    ∀ stored ∈ entities, office.Shows env s stored

/-! ### Entities and entries -/

/-- Whether a stored entity is what is shown of an entry. -/
structure ShownOf (st : Store) (s : Schema) (e : Entry) (stored : Stored (Draft s.fields)) :
    Prop where
  mem : e ∈ st.entries s.outline
  get : (Procedure.get s.model e.uuid).ask st = pure stored

namespace ShownOf

variable {st : Store} {e e' : Entry} {stored stored' : Stored (Draft s.fields)}

lemma unique (h : ShownOf st s e stored) (h' : ShownOf st s e stored') : stored = stored' :=
  Attempt.pure_injective (h.get.symm.trans h'.get)

/-- What is shown of an entry is made of the entry and what it is related to. -/
lemma exists_eq (h : ShownOf st s e stored) (hst : st.Readable) (hs : s ∈ Catalogue.schemas) :
    st.lookup? s.outline e.uuid = some e ∧ ∃ entity, s.model.ofRecord e.record = .ok entity ∧
      stored = ⟨e.uuid, e.createdAt, e.updatedAt, entity, st.related s e⟩ := by
  have hlookup := (hst.lookup?_eq_some_iff hs).2 ⟨h.mem, rfl⟩
  obtain ⟨e', entity, he', hbuilds, rfl⟩ := (Procedure.ask_get_eq_pure_iff hst hs).1 h.get
  obtain rfl : e = e' := Option.some.inj (hlookup.symm.trans he')
  exact ⟨hlookup, entity, hbuilds, rfl⟩

/-- What is shown of an entry has the identifier, the times and the values of the entry. -/
lemma eq (h : ShownOf st s e stored) (hst : st.Readable) (hs : s ∈ Catalogue.schemas) :
    stored.uuid = e.uuid ∧ stored.createdAt = e.createdAt ∧ stored.value? = e.record.get? := by
  obtain ⟨-, entity, hbuilds, rfl⟩ := h.exists_eq hst hs
  obtain ⟨row, -, hkeeps⟩ := (hst.mem_entries_iff hs).1 h.mem
  have hfits := Catalogue.fits hs
  have hrecord := Schema.toRecord_of_ofRecord hfits.names hfits.times hkeeps.accepted hbuilds
  refine ⟨rfl, rfl, funext fun name => ?_⟩
  simp only [Stored.value?, hrecord, Attempt.outcome_pure]

lemma sortKey (h : ShownOf st s e stored) (hst : st.Readable) (hs : s ∈ Catalogue.schemas)
    (p : Parameters) : stored.sortKey p = e.sortKey p := by
  obtain ⟨huuid, hcreated, hvalue⟩ := h.eq hst hs
  rw [Stored.sortKey, Entry.sortKey]
  rw [huuid, hcreated, hvalue]

lemma before_iff (h : ShownOf st s e stored) (h' : ShownOf st s e' stored') (hst : st.Readable)
    (hs : s ∈ Catalogue.schemas) (p : Parameters) :
    e.Before p e' ↔ stored.Before p stored' := by
  rw [Entry.Before, Stored.Before]
  cases p.direction <;> simp only [Direction.Along, h.sortKey hst hs, h'.sortKey hst hs]

end ShownOf

/-- The office shows what is shown of the entries. -/
lemma Sound.shows_iff (h : office.Sound) (hs : s ∈ Catalogue.schemas)
    {stored : Stored (Draft s.fields)} :
    office.Shows env s stored ↔ ∃ e, ShownOf office.desk.store s e stored := by
  have hread := h.store.toReadable
  rw [Shows, get_eq_pure_iff h]
  constructor
  · intro hget
    obtain ⟨e, entity, he, -⟩ := (Procedure.ask_get_eq_pure_iff hread hs).1 hget
    obtain ⟨hmem, huuid⟩ := (hread.lookup?_eq_some_iff hs).1 he
    exact ⟨e, hmem, huuid ▸ hget⟩
  · rintro ⟨e, hshown⟩
    rw [(hshown.eq hread hs).1]
    exact hshown.get

lemma Sound.exists_shownOf (h : office.Sound) (hs : s ∈ Catalogue.schemas) {e : Entry}
    (he : e ∈ office.desk.store.entries s.outline) :
    ∃ stored, ShownOf office.desk.store s e stored := by
  have hread := h.store.toReadable
  have hlookup := (hread.lookup?_eq_some_iff hs).2 ⟨he, rfl⟩
  obtain ⟨stored, hstored⟩ := Procedure.exists_ask_complete h.store hs hlookup
  exact ⟨stored, he, (Procedure.ask_get_of_lookup? hread hs hlookup).trans hstored⟩

/-- The entities that the office shows are those of the live rows. -/
lemma Sound.exists_shows_iff (h : office.Sound) (hs : s ∈ Catalogue.schemas) (uuid : Uuid) :
    (∃ stored, office.Shows env s stored ∧ stored.uuid = uuid) ↔
      ∃ row ∈ office.desk.store.liveRows s.table, row.uuid = uuid := by
  have hread := h.store.toReadable
  rw [← hread.exists_lookup?_iff hs, Option.isSome_iff_exists]
  constructor
  · rintro ⟨stored, hshows, rfl⟩
    obtain ⟨e, hshown⟩ := (h.shows_iff hs).1 hshows
    have huuid := (hshown.eq hread hs).1
    exact ⟨e, (hread.lookup?_eq_some_iff hs).2 ⟨hshown.mem, huuid.symm⟩⟩
  · rintro ⟨e, he⟩
    obtain ⟨hmem, rfl⟩ := (hread.lookup?_eq_some_iff hs).1 he
    obtain ⟨stored, hshown⟩ := h.exists_shownOf hs hmem
    exact ⟨stored, (h.shows_iff hs).2 ⟨e, hshown⟩, (hshown.eq hread hs).1⟩

/-- An entity that the office shows has a value in every field. -/
lemma Sound.exists_value (h : office.Sound) (hs : s ∈ Catalogue.schemas)
    {stored : Stored (Draft s.fields)} (hshows : office.Shows env s stored) {f : Field}
    (hf : f ∈ s.fields) : ∃ v, stored.value? f.name = some v ∧ f.Passes v := by
  have hread := h.store.toReadable
  obtain ⟨e, hshown⟩ := (h.shows_iff hs).1 hshows
  obtain ⟨row, -, hkeeps⟩ := (hread.mem_entries_iff hs).1 hshown.mem
  rw [(hshown.eq hread hs).2.2]
  exact hkeeps.accepted.passes f hf

/-! ### Lists -/

/-- The order of a list is strict and total between the entities that the office shows. -/
lemma Sound.strictTotal_before (h : office.Sound) (hs : s ∈ Catalogue.schemas)
    (hp : p.Accepted s.fields) : StrictTotal (office.Shows env s) (Stored.Before p) := by
  have hread := h.store.toReadable
  have hentries := hread.strictTotal_before hs hp
  refine hentries.transfer (ShownOf office.desk.store s) ?_ ?_ ?_
  · intro stored hshows
    obtain ⟨e, hshown⟩ := (h.shows_iff hs).1 hshows
    exact ⟨e, hshown.mem, hshown⟩
  · intro e e' stored stored' hshown hshown'
    exact hshown.before_iff hshown' hread hs p
  · intro e stored stored' hshown hshown'
    exact hshown.unique hshown'

/-- What is shown of the entries of a list is what passes the filters, in order. -/
lemma Sound.isSorted (h : office.Sound) (hs : s ∈ Catalogue.schemas) (hp : p.Accepted s.fields)
    {all : List (Stored (Draft s.fields))}
    (hall : List.Forall₂ (ShownOf office.desk.store s) (office.desk.store.sorted s.outline p) all) :
    office.IsSorted env s p all where
  mem_iff stored := by
    have hread := h.store.toReadable
    rw [h.shows_iff hs]
    constructor
    · intro hstored
      obtain ⟨e, he, hshown⟩ := Traversal.exists_of_forall₂ hall hstored
      obtain ⟨-, hselects⟩ := (hread.mem_sorted_iff hs hp).1 he
      rw [(hshown.eq hread hs).2.2]
      exact ⟨⟨e, hshown⟩, hselects⟩
    · rintro ⟨⟨e, hshown⟩, hselects⟩
      rw [(hshown.eq hread hs).2.2] at hselects
      have he := (hread.mem_sorted_iff hs hp).2 ⟨hshown.mem, hselects⟩
      obtain ⟨stored', hstored', hshown'⟩ := Traversal.exists_of_forall₂ hall.flip he
      rw [hshown.unique hshown']
      exact hstored'
  ordered := by
    have hread := h.store.toReadable
    refine Traversal.pairwise_of_forall₂ hall (hread.pairwise_sorted hs hp) ?_
    intro e e' stored stored' hshown hshown' hbefore
    exact (hshown.before_iff hshown' hread hs p).1 hbefore

/-- The page of a list is a part of it. -/
lemma page_eq {st : Store} (h : st.Readable) (hs : s ∈ Catalogue.schemas)
    (hp : p.Accepted s.fields) :
    st.page s.outline p =
      ((st.sorted s.outline p).drop (min ((p.page - 1) * p.perPage) Statement.maxLimit)).take
        p.perPage := by
  have hlimit : Statement.pageLimit p = p.perPage := by
    have hle := hp.perPage_le
    simp only [Statement.pageLimit, Statement.maxLimit, Setting.maxPerPage] at hle ⊢
    omega
  have hrows := List.forall₂_take (Statement.pageLimit p)
    (List.forall₂_drop (Statement.pageOffset p) (h.forall₂_sorted hs p))
  rw [← Statement.pageOffset_eq, ← hlimit]
  exact Traversal.filterMap_eq_of_forall₂ hrows

/-- Something is shown of each entry of a list. -/
lemma Sound.exists_sorted (h : office.Sound) (hs : s ∈ Catalogue.schemas)
    (hp : p.Accepted s.fields) :
    ∃ all,
      List.Forall₂ (ShownOf office.desk.store s) (office.desk.store.sorted s.outline p) all := by
  have hread := h.store.toReadable
  refine Traversal.exists_forall₂ fun e he => ?_
  exact h.exists_shownOf hs ((hread.mem_sorted_iff hs hp).1 he).1

/-- The answer to a list query is the page of what is shown of the entries of the list. -/
lemma Sound.list_eq_part (h : office.Sound) (hs : s ∈ Catalogue.schemas) (hp : p.Accepted s.fields)
    {all : List (Stored (Draft s.fields))}
    (hall : List.Forall₂ (ShownOf office.desk.store s) (office.desk.store.sorted s.outline p) all) :
    (office.list env s.model p).1 = pure
      ((all.drop (min ((p.page - 1) * p.perPage) Statement.maxLimit)).take p.perPage,
        .ofTotal p all.length) := by
  have hread := h.store.toReadable
  obtain ⟨entities, hlist, hgot⟩ := Procedure.exists_ask_list h.store hs p
  have hlength : all.length = (office.desk.store.matching s.table p.filters).length :=
    calc all.length = (office.desk.store.sorted s.outline p).length := hall.length_eq.symm
      _ = (office.desk.store.matching s.table p.filters).length := hread.length_sorted hs p
  have hentities : entities =
      (all.drop (min ((p.page - 1) * p.perPage) Statement.maxLimit)).take p.perPage := by
    have hpage := List.forall₂_take p.perPage
      (List.forall₂_drop (min ((p.page - 1) * p.perPage) Statement.maxLimit) hall)
    rw [← page_eq hread hs hp] at hpage
    refine List.right_unique_forall₂' ?_ hgot (hpage.imp fun _ _ hshown => hshown.get)
    intro e stored stored' hget hget'
    exact Attempt.pure_injective (hget.symm.trans hget')
  rw [list_eq_pure_iff h, hlist, hentities, hlength]

/-- The answer to a list query is the page of all that pass the filters. -/
theorem Sound.list_eq_page (h : office.Sound) (hs : s ∈ Catalogue.schemas)
    (hp : p.Accepted s.fields) :
    ∃ all, office.IsSorted env s p all ∧
      (office.list env s.model p).1 = pure
        ((all.drop (min ((p.page - 1) * p.perPage) Statement.maxLimit)).take p.perPage,
          .ofTotal p all.length) := by
  obtain ⟨all, hall⟩ := h.exists_sorted hs hp
  exact ⟨all, h.isSorted hs hp hall, h.list_eq_part hs hp hall⟩

/-- Every state that the office gets into answers list queries right. -/
theorem Reachable.lists (h : Reachable env office) (hs : s ∈ Catalogue.schemas)
    {pairs : List (String × String)} (hpairs : Parameters.ofPairs s.fields pairs = pure p) :
    office.Lists env s p := by
  have hp := Parameters.accepted_of_ofPairs hpairs
  obtain ⟨all, hsorted, hlist⟩ := h.sound.list_eq_page hs hp
  refine ⟨h.sound.exists_shows_iff hs, ?_, h.sound.strictTotal_before hs hp,
    all, _, _, hsorted, hlist, rfl, rfl, rfl, ?_, rfl, ?_, ?_⟩
  · intro stored hshows f hf
    exact h.sound.exists_value hs hshows hf
  · exact if_neg (Nat.pos_iff_ne_zero.1 hp.perPage)
  · intro hle
    rw [Traversal.drop_min hle]
  · intro stored hstored
    have hmem := List.mem_of_mem_drop (List.mem_of_mem_take hstored)
    exact ((hsorted.mem_iff stored).1 hmem).1

/-- Of three countries the two with a text in their names are listed, one on each page. -/
theorem lists_some_countries :
    let france := .cons (.filled "France") (.cons (.filled "FR") .nil)
    let iceland := .cons (.filled "Iceland") (.cons (.filled "IS") .nil)
    let peru := .cons (.filled "Peru") (.cons (.filled "PE") .nil)
    let ops : List Operation := [.create Catalogue.country none france,
      .create Catalogue.country none peru, .create Catalogue.country none iceland]
    let office := (ofLayout .office).after .counting ops
    let pairs := [("name", "an"), ("sort_by", "code"), ("sort_direction", "desc"),
      ("page", "2"), ("per_page", "1")]
    let p : Parameters := ⟨[⟨"name", .contains "an"⟩], some "code", .descending, 2, 1⟩
    Reachable .counting office ∧ Catalogue.country ∈ Catalogue.schemas ∧
      Parameters.ofPairs Catalogue.country.fields pairs = pure p ∧
      (office.desk.store.matching "countries" p.filters).length = 2 ∧
      office.Lists .counting Catalogue.country p := by
  intro france iceland peru ops office pairs p
  have hcountry : Catalogue.country ∈ Catalogue.schemas := List.mem_cons_self
  have hops : ∀ op ∈ ops, op.Served := by simp [ops, Operation.Served, hcountry]
  have hoffice : Reachable .counting office := Reachable.start.after hops
  have hpairs : Parameters.ofPairs Catalogue.country.fields pairs = pure p := rfl
  exact ⟨hoffice, hcountry, hpairs, by decide +kernel, Reachable.lists hoffice hcountry hpairs⟩

end Office

end BookingOffice
