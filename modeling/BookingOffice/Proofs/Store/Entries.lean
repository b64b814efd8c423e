import BookingOffice.Proofs.Catalogue.Fit
import BookingOffice.Proofs.Store.Cells

/-!
The entries of a store. A row keeps an entry (`Row.Keeps`) if its cells are those of a record that
the schema accepts and its times are those of a clock. In a store whose rows all keep entries
(`Store.Readable`) no selection fails, and the live rows of a table are as good as their entries.

* `Row.Keeps.read`: a row is read to the entry that it keeps;
* `Store.Readable.fetch_eq`: what a selection of rows is read to;
* `Store.Readable.fetch_live`: the entry under an identifier.
-/

namespace BookingOffice

/-! ### Rows -/

namespace Row

/-- Whether a row keeps an entry of a schema. -/
structure Keeps (s : Schema) (row : Row) (e : Entry) : Prop where
  uuid : row.uuid = e.uuid
  accepted : s.Accepts e.record
  normal : e.record.normal = e.record
  cells : row.cells = Store.cellsOf e.record s.outline
  createdAt : row.createdAt = .integer e.createdAt.micros
  updatedAt : row.updatedAt = .integer e.updatedAt.micros
  created : e.createdAt.kept = e.createdAt
  updated : e.updatedAt.kept = e.updatedAt

/-- The entry in a row, if it can be read. -/
def decoded? (o : Outline) (row : Row) : Option Entry := (row.read o).toOption

/-- The entry in a row has the identifier of the row. -/
lemma uuid_of_decoded? {o : Outline} {row : Row} {e : Entry} (h : row.decoded? o = some e) :
    e.uuid = row.uuid := by
  have hread : row.read o = .ok e := by
    rw [decoded?] at h
    cases hr : row.read o with
    | ok e' => rw [hr] at h; exact congrArg Except.ok (Option.some.inj h)
    | error fault => rw [hr] at h; cases h
  rw [read] at hread
  simp only [bind, Except.bind] at hread
  split at hread <;> try cases hread
  split at hread <;> try cases hread
  split at hread <;> try cases hread
  split at hread <;> try cases hread
  split at hread <;> try cases hread
  rfl

lemma filterMap_decoded?_filter (o : Outline) (rows : List Row) (uuid : Uuid) :
    (rows.filter (·.uuid = uuid)).filterMap (·.decoded? o) =
      (rows.filterMap (·.decoded? o)).filter (·.uuid = uuid) := by
  rw [List.filterMap_filter, List.filter_filterMap]
  congr 1
  funext row
  cases h : row.decoded? o with
  | none => simp
  | some e =>
    rw [Option.filter_some, uuid_of_decoded? h]

lemma cell_of_not_reserved {row : Row} {column : String} (h : column ∉ reservedColumns) :
    row.cell column = (Entries.get? column row.cells).getD .null := by
  simp only [reservedColumns, List.mem_cons, List.not_mem_nil, or_false, not_or] at h
  obtain ⟨h1, h2, h3, h4⟩ := h
  rw [cell, if_neg h1, if_neg h2, if_neg h3, if_neg h4]

namespace Keeps

variable {s : Schema} {row : Row} {e : Entry}

/-- The cell of a field keeps its value. -/
lemma cell (h : row.Keeps s e) (hs : s.Fits .office) {f : Field} (hf : f ∈ s.fields) {v : Value}
    (hv : e.record.get? f.name = some v) : row.cell f.name = .ofValue v := by
  rw [cell_of_not_reserved (hs.notReserved f hf), h.cells, Store.get?_cellsOf hs.names hf hv,
    Option.getD_some]

lemma readRecord (h : row.Keeps s e) (hs : s.Fits .office) :
    row.readRecord s.outline = .ok e.record := by
  have hread : ∀ c ∈ s.outline.columns, (do
      let value ← (row.cell c.1).read c.2
      return (c.1, value) : Except Cell.Fault (String × Value)) =
        .ok (c.1, Statement.valueOf e.record c.1 c.2) := by
    intro c hc
    obtain ⟨f, hf, rfl⟩ := List.mem_map.1 hc
    obtain ⟨v, hv, hp⟩ := h.accepted.passes f hf
    have hnormal : v.normal = v := by
      have := congrArg (·.get? f.name) h.normal
      simpa [hv] using this
    have hcell := Cell.read_ofValue hp.isPlain
    rw [hp.kind_eq, hnormal] at hcell
    simp only [h.cell hs hf hv, hcell, Statement.valueOf, hv, Option.getD_some]
    rfl
  have hnd : ((s.outline.columns.map fun c =>
      (c.1, Statement.valueOf e.record c.1 c.2)).map Prod.fst).Nodup := by
    rw [Schema.outline, List.map_map, List.map_map]
    exact hs.names
  rw [Row.readRecord]
  rw [Traversal.mapM_eq_pure hread]
  refine congrArg Except.ok (Dictionary.ext_get? fun k => ?_)
  rw [Dictionary.get?_ofList_of_nodup hnd]
  by_cases hk : ∃ f ∈ s.fields, f.name = k
  · obtain ⟨f, hf, rfl⟩ := hk
    obtain ⟨v, hv, -⟩ := h.accepted.passes f hf
    rw [hv]
    refine Entries.get?_of_mem hnd (List.mem_map.2 ⟨(f.name, f.kind), ?_, ?_⟩)
    · exact List.mem_map.2 ⟨f, hf, rfl⟩
    · simp only [Statement.valueOf, hv, Option.getD_some]
  · have hnone : e.record.get? k = none :=
      Option.eq_none_iff_forall_ne_some.2 fun v hv => hk (h.accepted.fields k v hv)
    rw [hnone, Entries.get?_eq_none_iff]
    intro p hp he
    obtain ⟨c, hc, rfl⟩ := List.mem_map.1 hp
    obtain ⟨f, hf, rfl⟩ := List.mem_map.1 hc
    exact hk ⟨f, hf, he⟩

/-- A row is read to the entry that it keeps. -/
theorem read (h : row.Keeps s e) (hs : s.Fits .office) : row.read s.outline = .ok e := by
  rw [Row.read]
  rw [h.createdAt, h.updatedAt, h.readRecord hs]
  simp only [Cell.readMicros, bind, Except.bind, Cell.readInstant_micros, h.created, h.updated,
    h.uuid]
  rfl

lemma decoded? (h : row.Keeps s e) (hs : s.Fits .office) : row.decoded? s.outline = some e := by
  rw [Row.decoded?, h.read hs]
  rfl

end Keeps

end Row

/-! ### Stores -/

namespace Store

/-- The entries in the live rows of a table. -/
def entries (st : Store) (o : Outline) : List Entry :=
  (st.liveRows o.table).filterMap (·.decoded? o)

/-- The entry in the live row with an identifier. -/
def lookup? (st : Store) (o : Outline) (uuid : Uuid) : Option Entry :=
  (st.entries o).find? (·.uuid = uuid)

/-- The entries of the live members of an owner. -/
def members (st : Store) (a : Association) (owner : Uuid) : List Entry :=
  (st.select (.members a owner)).filterMap (·.decoded? a.member)

/-- Whether the rows of the office keep entries, no two of a table under one identifier. -/
structure Readable (st : Store) : Prop where
  layout : st.layout = .office
  uuids : ∀ s ∈ Catalogue.schemas, ((st.rows s.table).map (·.uuid)).Nodup
  rows : ∀ s ∈ Catalogue.schemas, ∀ row ∈ st.rows s.table, ∃ e, row.Keeps s e

variable {st : Store} {s : Schema}

lemma mem_liveRows_iff {table : String} {row : Row} :
    row ∈ st.liveRows table ↔ row ∈ st.rows table ∧ row.isLive = true := List.mem_filter

lemma mem_rows_of_mem_select_page {o : Outline} {p : Parameters} {row : Row}
    (h : row ∈ st.select (.page o p)) : row ∈ st.liveRows o.table := by
  have hlisting : row ∈ st.listing o.table p := List.mem_of_mem_drop (List.mem_of_mem_take h)
  exact List.mem_of_mem_filter (List.mem_mergeSort.1 hlisting)

lemma mem_select_members_iff {a : Association} {owner : Uuid} {row : Row} :
    row ∈ st.select (.members a owner) ↔
      row ∈ st.liveRows a.member.table ∧ st.isLinked a.table owner row.uuid = true := by
  rw [select, List.mem_mergeSort, List.mem_filter]

namespace Readable

/-- What a selection of rows of a table is read to. -/
theorem fetch_eq (h : st.Readable) (hs : s ∈ Catalogue.schemas) {q : Statement.Selection}
    (hq : q.outline = s.outline) (hsub : ∀ row ∈ st.select q, row ∈ st.liveRows s.table) :
    st.fetch q = .ok ((st.select q).filterMap (·.decoded? s.outline)) := by
  refine Traversal.mapM_eq_ok_filterMap fun row hrow => ?_
  obtain ⟨e, he⟩ := h.rows s hs row (mem_liveRows_iff.1 (hsub row hrow)).1
  refine ⟨e, ?_, he.decoded? (Catalogue.fits hs)⟩
  rw [hq, he.read (Catalogue.fits hs)]
  rfl

lemma keeps_of_decoded? (h : st.Readable) (hs : s ∈ Catalogue.schemas) {row : Row}
    (hrow : row ∈ st.rows s.table) {e : Entry} (he : row.decoded? s.outline = some e) :
    row.Keeps s e := by
  obtain ⟨e', he'⟩ := h.rows s hs row hrow
  rw [he'.decoded? (Catalogue.fits hs), Option.some.injEq] at he
  exact he ▸ he'

lemma mem_entries_iff (h : st.Readable) (hs : s ∈ Catalogue.schemas) {e : Entry} :
    e ∈ st.entries s.outline ↔ ∃ row ∈ st.liveRows s.table, row.Keeps s e := by
  rw [entries, List.mem_filterMap]
  constructor
  · rintro ⟨row, hrow, he⟩
    exact ⟨row, hrow, h.keeps_of_decoded? hs (mem_liveRows_iff.1 hrow).1 he⟩
  · rintro ⟨row, hrow, he⟩
    exact ⟨row, hrow, he.decoded? (Catalogue.fits hs)⟩

/-- The entries of a table have the identifiers of its live rows. -/
lemma map_uuid_entries (h : st.Readable) (hs : s ∈ Catalogue.schemas) :
    (st.entries s.outline).map (·.uuid) = (st.liveRows s.table).map (·.uuid) := by
  have hrows : ∀ row ∈ st.liveRows s.table, ∃ e, row.decoded? s.outline = some e := by
    intro row hrow
    obtain ⟨e, he⟩ := h.rows s hs row (mem_liveRows_iff.1 hrow).1
    exact ⟨e, he.decoded? (Catalogue.fits hs)⟩
  rw [entries]
  change ((st.liveRows s.table).filterMap _).map _ = _
  generalize st.liveRows s.table = rows at hrows
  induction rows with
  | nil => rfl
  | cons row rows ih =>
    obtain ⟨e, he⟩ := hrows row List.mem_cons_self
    rw [List.filterMap_cons_some he, List.map_cons, List.map_cons, Row.uuid_of_decoded? he,
      ih fun r hr => hrows r (List.mem_cons_of_mem _ hr)]

lemma nodup_liveRows (h : st.Readable) (hs : s ∈ Catalogue.schemas) :
    ((st.liveRows s.table).map (·.uuid)).Nodup :=
  (h.uuids s hs).sublist (List.filter_sublist.map _)

lemma nodup_entries (h : st.Readable) (hs : s ∈ Catalogue.schemas) :
    ((st.entries s.outline).map (·.uuid)).Nodup := by
  rw [h.map_uuid_entries hs]
  exact h.nodup_liveRows hs

lemma length_entries (h : st.Readable) (hs : s ∈ Catalogue.schemas) :
    (st.entries s.outline).length = (st.liveRows s.table).length := by
  have := congrArg List.length (h.map_uuid_entries hs)
  rwa [List.length_map, List.length_map] at this

/-- An identifier stands for the one entry that has it. -/
lemma lookup?_eq_some_iff (h : st.Readable) (hs : s ∈ Catalogue.schemas) {uuid : Uuid} {e : Entry} :
    st.lookup? s.outline uuid = some e ↔ e ∈ st.entries s.outline ∧ e.uuid = uuid := by
  constructor
  · intro he
    exact ⟨List.mem_of_find?_eq_some he, by simpa using List.find?_some he⟩
  · rintro ⟨he, rfl⟩
    obtain ⟨e', he'⟩ : ∃ e', st.lookup? s.outline e.uuid = some e' := by
      rw [← Option.isSome_iff_exists, lookup?, List.find?_isSome]
      exact ⟨e, he, by simp⟩
    have hmem := List.mem_of_find?_eq_some he'
    have huuid : e'.uuid = e.uuid := by simpa using List.find?_some he'
    rw [he', List.inj_on_of_nodup_map (h.nodup_entries hs) hmem he huuid]

lemma exists_lookup?_iff (h : st.Readable) (hs : s ∈ Catalogue.schemas) {uuid : Uuid} :
    (st.lookup? s.outline uuid).isSome ↔ ∃ row ∈ st.liveRows s.table, row.uuid = uuid := by
  rw [lookup?, List.find?_isSome]
  have hmem : uuid ∈ (st.entries s.outline).map (·.uuid) ↔
      uuid ∈ (st.liveRows s.table).map (·.uuid) := by rw [h.map_uuid_entries hs]
  simpa using hmem

/-- The entry under an identifier is what is read from the live rows that have it. -/
theorem fetch_live (h : st.Readable) (hs : s ∈ Catalogue.schemas) (uuid : Uuid) :
    st.fetch (.live s.outline uuid) = .ok (st.lookup? s.outline uuid).toList := by
  have hfetch := h.fetch_eq (q := .live s.outline uuid) hs rfl fun _ => List.mem_of_mem_filter
  rw [hfetch, lookup?, ← Traversal.filter_eq_toList_find? (h.nodup_entries hs), entries,
    ← Row.filterMap_decoded?_filter]
  rfl

/-! ### Counts -/

lemma count_live_pos_iff (h : st.Readable) (hs : s ∈ Catalogue.schemas) (uuid : Uuid) :
    0 < st.count (.live s.outline [uuid]) ↔ (st.lookup? s.outline uuid).isSome := by
  rw [h.exists_lookup?_iff hs, count, List.length_pos_iff_exists_mem]
  simp only [List.mem_filter, List.mem_singleton, decide_eq_true_eq]
  rfl

end Readable

lemma count_any_pos_iff (st : Store) (o : Outline) (uuid : Uuid) :
    0 < st.count (.any o uuid) ↔ ∃ row ∈ st.rows o.table, row.uuid = uuid := by
  rw [count, withUuid, List.length_pos_iff_exists_mem]
  simp only [List.mem_filter, decide_eq_true_eq]

/-- A text is counted where a live row has it, but for the row left out. -/
lemma count_duplicates_pos_iff {o : Outline} {column : String} {t : String}
    {exclude : Option Uuid} :
    0 < st.count (.duplicates o column (.text t) exclude) ↔
      ∃ row ∈ st.liveRows o.table, row.cell column = .text t ∧ exclude ≠ some row.uuid := by
  have hexclude : ∀ uuid, exclude.all (uuid ≠ ·) = true ↔ exclude ≠ some uuid := by
    intro uuid
    cases exclude with
    | none => simp
    | some u =>
      rw [Option.all_some, decide_eq_true_eq, ne_eq, ne_eq, Option.some.injEq]
      exact not_congr eq_comm
  rw [count, List.length_pos_iff_exists_mem]
  simp only [List.mem_filter, Bool.and_eq_true, Cell.ofValue, Cell.equals_text, hexclude]

end Store

end BookingOffice
