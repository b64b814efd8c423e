import BookingOffice.Proofs.Store.Entries

/-!
What changes do to the entries of a store. Each change of rows is a map on the rows of one table
(`Store.inserted`, `Store.updated`, `Store.deleted`), and the entries of that table follow it.

* `Store.Readable.entries_inserted`, `entries_updated`, `entries_deleted`: the entries afterwards;
* `Store.Readable.apply_insert`, `apply_update`, `apply_delete`: a change that was checked breaks no
  constraint of the layout.
-/

namespace BookingOffice

/-! ### Changed rows -/

namespace Row

/-- A row with the fields of another record. -/
def rewritten (row : Row) (o : Outline) (record : Record) (now : Instant) : Row :=
  { row with cells := Store.cellsOf record o, updatedAt := .integer now.micros }

/-- The entry in a row, if the row is live and can be read. -/
def visible? (o : Outline) (row : Row) : Option Entry := if row.isLive then row.decoded? o else none

/-- A row with the stamp of a deletion. -/
def stamped (row : Row) (now : Instant) : Row := { row with deletedAt := .integer now.micros }

end Row

namespace Entry

/-- The entry of a new entity. -/
def ofNew (uuid : Uuid) (record : Record) (now : Instant) : Entry :=
  ⟨uuid, record.normal, now.kept, now.kept⟩

/-- The entry with another record. -/
def rewritten (e : Entry) (record : Record) (now : Instant) : Entry :=
  { e with record := record.normal, updatedAt := now.kept }

end Entry

namespace Instant

lemma kept_kept (t : Instant) : t.kept.kept = t.kept := kept_eq_self t.nanos_kept_mod

end Instant

namespace Row

variable {s : Schema} {row : Row} {e : Entry} {record : Record}

lemma keeps_newRow (hrecord : s.Accepts record) (uuid : Uuid) (now : Instant) :
    (Store.newRow s.outline uuid record now).Keeps s (.ofNew uuid record now) where
  uuid := rfl
  accepted := hrecord.normal
  normal := record.normal_normal
  cells := (Store.cellsOf_normal record s.outline).symm
  createdAt := congrArg Cell.integer now.micros_kept.symm
  updatedAt := congrArg Cell.integer now.micros_kept.symm
  created := now.kept_kept
  updated := now.kept_kept

lemma Keeps.rewritten (h : row.Keeps s e) (hrecord : s.Accepts record) (now : Instant) :
    (row.rewritten s.outline record now).Keeps s (e.rewritten record now) where
  uuid := h.uuid
  accepted := hrecord.normal
  normal := record.normal_normal
  cells := (Store.cellsOf_normal record s.outline).symm
  createdAt := h.createdAt
  updatedAt := congrArg Cell.integer now.micros_kept.symm
  created := h.created
  updated := now.kept_kept

lemma Keeps.stamped (h : row.Keeps s e) (now : Instant) : (row.stamped now).Keeps s e where
  uuid := h.uuid
  accepted := h.accepted
  normal := h.normal
  cells := h.cells
  createdAt := h.createdAt
  updatedAt := h.updatedAt
  created := h.created
  updated := h.updated

@[simp] lemma isLive_stamped (row : Row) (now : Instant) : (row.stamped now).isLive = false := rfl

@[simp] lemma isLive_rewritten (row : Row) (o : Outline) (record : Record) (now : Instant) :
    (row.rewritten o record now).isLive = row.isLive := rfl

end Row

/-! ### Changed stores -/

namespace Store

variable {st : Store} {s t : Schema} {uuid : Uuid} {record : Record}

@[simp] lemma withRows_rows_self (st : Store) (table : String) (rows : List Row) :
    (st.withRows table rows).rows table = rows := if_pos rfl

lemma withRows_rows_of_ne {table table' : String} (rows : List Row) (h : table' ≠ table) :
    (st.withRows table rows).rows table' = st.rows table' := if_neg h

@[simp] lemma withRows_layout (st : Store) (table : String) (rows : List Row) :
    (st.withRows table rows).layout = st.layout := rfl

@[simp] lemma withRows_links (st : Store) (table : String) (rows : List Row) :
    (st.withRows table rows).links = st.links := rfl

@[simp] lemma withLinks_rows (st : Store) (table : String) (links : List Link) :
    (st.withLinks table links).rows = st.rows := rfl

@[simp] lemma withLinks_layout (st : Store) (table : String) (links : List Link) :
    (st.withLinks table links).layout = st.layout := rfl

@[simp] lemma withLinks_links_self (st : Store) (table : String) (links : List Link) :
    (st.withLinks table links).links table = links := if_pos rfl

lemma withLinks_links_of_ne {table t : String} (links : List Link) (h : t ≠ table) :
    (st.withLinks table links).links t = st.links t := if_neg h

/-- The store with a new row. -/
def inserted (st : Store) (o : Outline) (uuid : Uuid) (record : Record) (now : Instant) : Store :=
  st.withRows o.table (st.rows o.table ++ [newRow o uuid record now])

/-- The store in which a live row has another record. -/
def updated (st : Store) (o : Outline) (uuid : Uuid) (record : Record) (now : Instant) : Store :=
  st.withRows o.table ((st.rows o.table).map fun row =>
    if isLiveWith uuid row then row.rewritten o record now else row)

/-- The store in which a live row is stamped as deleted. -/
def deleted (st : Store) (o : Outline) (uuid : Uuid) (now : Instant) : Store :=
  st.withRows o.table ((st.rows o.table).map fun row =>
    if isLiveWith uuid row then row.stamped now else row)

/-- The store in which a member is linked to an owner. -/
def linked (st : Store) (a : Association) (owner member : Uuid) : Store :=
  if (st.links a.table).contains ⟨owner, member⟩ then st
  else st.withLinks a.table (st.links a.table ++ [⟨owner, member⟩])

/-- The store in which a member is not linked to an owner. -/
def unlinked (st : Store) (a : Association) (owner member : Uuid) : Store :=
  st.withLinks a.table ((st.links a.table).filter (· ≠ ⟨owner, member⟩))

@[simp] lemma linked_rows (st : Store) (a : Association) (owner member : Uuid) :
    (st.linked a owner member).rows = st.rows := by
  rw [linked]
  split <;> rfl

@[simp] lemma unlinked_rows (st : Store) (a : Association) (owner member : Uuid) :
    (st.unlinked a owner member).rows = st.rows := rfl

lemma foldl_linked_rows (st : Store) (a : Association) (owner : Uuid) (members : List Uuid) :
    (members.foldl (·.linked a owner ·) st).rows = st.rows :=
  List.foldlRecOn (motive := fun other : Store => other.rows = st.rows) members _ rfl
    fun other h v _ => (other.linked_rows a owner v).trans h

lemma foldl_unlinked_rows (st : Store) (a : Association) (owner : Uuid) (members : List Uuid) :
    (members.foldl (·.unlinked a owner ·) st).rows = st.rows :=
  List.foldlRecOn (motive := fun other : Store => other.rows = st.rows) members _ rfl
    fun _ h _ _ => h

/-- Whether a row of a table, be it deleted, has an identifier. -/
def HasUuid (st : Store) (table : String) (uuid : Uuid) : Prop :=
  ∃ row ∈ st.rows table, row.uuid = uuid

/-- Whether a live row, but for one left out, has the value of a record in a field that has to
differ. -/
def Repeats (st : Store) (s : Schema) (record : Record) (exclude : Option Uuid) (name : String) :
    Prop :=
  ∃ f ∈ s.fields, f.name = name ∧ f.unique = true ∧ ∃ v, record.get? name = some v ∧
    ∃ row ∈ st.liveRows s.table, row.cell name = .ofValue v ∧ exclude ≠ some row.uuid

lemma isLiveWith_iff {row : Row} :
    isLiveWith uuid row = true ↔ row.isLive = true ∧ row.uuid = uuid := by
  rw [isLiveWith, Bool.and_eq_true, beq_iff_eq]

lemma entries_eq_filterMap (st : Store) (o : Outline) :
    st.entries o = (st.rows o.table).filterMap (·.visible? o) := List.filterMap_filter

lemma entries_congr {st' : Store} {o : Outline} (h : st'.rows o.table = st.rows o.table) :
    st'.entries o = st.entries o := by
  simp only [entries, liveRows]
  rw [h]

lemma lookup?_congr {st' : Store} {o : Outline} (h : st'.rows o.table = st.rows o.table) :
    st'.lookup? o = st.lookup? o := by
  funext uuid
  rw [lookup?, lookup?, entries_congr h]

/-- Changing the rows of a schema changes nothing for another one. -/
lemma entries_withRows_of_ne (hs : s ∈ Catalogue.schemas) (ht : t ∈ Catalogue.schemas) (h : t ≠ s)
    (rows : List Row) : (st.withRows s.table rows).entries t.outline = st.entries t.outline :=
  entries_congr (withRows_rows_of_ne rows fun he => h (Catalogue.eq_of_table ht hs he))

lemma lookup?_withRows_of_ne (hs : s ∈ Catalogue.schemas) (ht : t ∈ Catalogue.schemas) (h : t ≠ s)
    (rows : List Row) : (st.withRows s.table rows).lookup? t.outline = st.lookup? t.outline :=
  lookup?_congr (withRows_rows_of_ne rows fun he => h (Catalogue.eq_of_table ht hs he))

namespace Readable

/-! ### Stores that can still be read -/

/-- A store can still be read if the rows of one table have been changed to rows that keep entries
under different identifiers. -/
lemma withRows (h : st.Readable) (hs : s ∈ Catalogue.schemas) {rows : List Row}
    (hnd : (rows.map (·.uuid)).Nodup) (hrows : ∀ row ∈ rows, ∃ e, row.Keeps s e) :
    (st.withRows s.table rows).Readable where
  layout := h.layout
  uuids t ht := by
    by_cases hts : t.table = s.table
    · rw [hts, withRows_rows_self]
      exact hnd
    · rw [withRows_rows_of_ne rows hts]
      exact h.uuids t ht
  rows t ht := by
    by_cases hts : t.table = s.table
    · obtain rfl := Catalogue.eq_of_table ht hs hts
      rw [withRows_rows_self]
      exact hrows
    · rw [withRows_rows_of_ne rows hts]
      exact h.rows t ht

lemma withLinks (h : st.Readable) (table : String) (links : List Link) :
    (st.withLinks table links).Readable := ⟨h.layout, h.uuids, h.rows⟩

lemma linked (h : st.Readable) (a : Association) (owner member : Uuid) :
    (st.linked a owner member).Readable := by
  rw [Store.linked]
  split
  · exact h
  · exact h.withLinks _ _

lemma inserted (h : st.Readable) (hs : s ∈ Catalogue.schemas) (hrecord : s.Accepts record)
    (hfresh : ¬ st.HasUuid s.table uuid) (now : Instant) :
    (st.inserted s.outline uuid record now).Readable := by
  refine h.withRows hs ?_ fun row hrow => ?_
  · rw [List.map_append, List.map_singleton, List.nodup_append]
    refine ⟨h.uuids s hs, List.nodup_singleton _, ?_⟩
    intro a ha b hb hab
    obtain ⟨row, hrow, rfl⟩ := List.mem_map.1 ha
    exact hfresh ⟨row, hrow, hab.trans (List.mem_singleton.1 hb)⟩
  · rcases List.mem_append.1 hrow with hrow | hrow
    · exact h.rows s hs row hrow
    · rw [List.mem_singleton.1 hrow]
      exact ⟨_, Row.keeps_newRow hrecord uuid now⟩

/-- Changing live rows in place leaves a store that can be read. -/
lemma replaced (h : st.Readable) (hs : s ∈ Catalogue.schemas) {f : Row → Row}
    (huuid : ∀ row, (f row).uuid = row.uuid)
    (hkeeps : ∀ row e, row.Keeps s e → ∃ e', (f row).Keeps s e') (uuid : Uuid) :
    (st.withRows s.table ((st.rows s.table).map fun row =>
      if isLiveWith uuid row then f row else row)).Readable := by
  refine h.withRows hs ?_ fun row hrow => ?_
  · have hsame : ∀ row, ((·.uuid) ∘ fun row => if isLiveWith uuid row then f row else row) row =
        row.uuid := by
      intro row
      simp only [Function.comp]
      split
      · exact huuid row
      · rfl
    rw [List.map_map, funext hsame]
    exact h.uuids s hs
  · obtain ⟨old, hold, rfl⟩ := List.mem_map.1 hrow
    obtain ⟨e, he⟩ := h.rows s hs old hold
    split
    · exact hkeeps old e he
    · exact ⟨e, he⟩

lemma updated (h : st.Readable) (hs : s ∈ Catalogue.schemas) (hrecord : s.Accepts record)
    (uuid : Uuid) (now : Instant) : (st.updated s.outline uuid record now).Readable :=
  h.replaced (f := (·.rewritten s.outline record now)) hs (fun _ => rfl)
    (fun _ _ he => ⟨_, he.rewritten hrecord now⟩) uuid

lemma deleted (h : st.Readable) (hs : s ∈ Catalogue.schemas) (uuid : Uuid) (now : Instant) :
    (st.deleted s.outline uuid now).Readable :=
  h.replaced (f := (·.stamped now)) hs (fun _ => rfl) (fun _ _ he => ⟨_, he.stamped now⟩) uuid

/-! ### The entries afterwards -/

lemma entries_inserted (hs : s ∈ Catalogue.schemas) (hrecord : s.Accepts record) (now : Instant) :
    (st.inserted s.outline uuid record now).entries s.outline =
      st.entries s.outline ++ [.ofNew uuid record now] := by
  have hnew := (Row.keeps_newRow hrecord uuid now).decoded? (Catalogue.fits hs)
  have hlive : (newRow s.outline uuid record now).isLive = true := rfl
  have hrows : (st.inserted s.outline uuid record now).rows s.outline.table =
      st.rows s.outline.table ++ [newRow s.outline uuid record now] := withRows_rows_self _ _ _
  simp [entries, liveRows, hrows, hnew, hlive]

/-- Of a live row that is changed in place the new entry counts, if it is still live. -/
lemma entries_replaced (h : st.Readable) (hs : s ∈ Catalogue.schemas) {f : Row → Row}
    {g : Entry → Option Entry}
    (hfg : ∀ row e, row.Keeps s e → row.isLive = true → (f row).visible? s.outline = g e)
    (uuid : Uuid) :
    (st.withRows s.table ((st.rows s.table).map fun row =>
      if isLiveWith uuid row then f row else row)).entries s.outline =
      (st.entries s.outline).filterMap fun e => if e.uuid = uuid then g e else some e := by
  rw [entries_eq_filterMap, entries_eq_filterMap]
  change List.filterMap _ (Store.rows _ s.table) =
    List.filterMap _ (List.filterMap _ (st.rows s.table))
  rw [withRows_rows_self, List.filterMap_map, List.filterMap_filterMap]
  refine List.filterMap_congr fun row hrow => ?_
  obtain ⟨e, he⟩ := h.rows s hs row hrow
  have hentry := he.decoded? (Catalogue.fits hs)
  by_cases hlive : row.isLive = true
  · have hvisible : row.visible? s.outline = some e := (if_pos hlive).trans hentry
    by_cases hu : row.uuid = uuid
    · simp only [Function.comp, isLiveWith_iff.2 ⟨hlive, hu⟩, hfg row e he hlive, hvisible,
        Option.bind_some, he.uuid ▸ hu, if_true]
    · have hnot : isLiveWith uuid row = false :=
        Bool.eq_false_iff.2 fun hw => hu (isLiveWith_iff.1 hw).2
      simp only [Function.comp, hnot, Bool.false_eq_true, if_false, hvisible, Option.bind_some,
        he.uuid ▸ hu]
  · have hnot : isLiveWith uuid row = false :=
      Bool.eq_false_iff.2 fun hw => hlive (isLiveWith_iff.1 hw).1
    have hvisible : row.visible? s.outline = none := if_neg hlive
    simp only [Function.comp, hnot, Bool.false_eq_true, if_false, hvisible, Option.bind_none]

lemma entries_updated (h : st.Readable) (hs : s ∈ Catalogue.schemas) (hrecord : s.Accepts record)
    (uuid : Uuid) (now : Instant) :
    (st.updated s.outline uuid record now).entries s.outline =
      (st.entries s.outline).map fun e => if e.uuid = uuid then e.rewritten record now else e := by
  have hnew : ∀ (row : Row) (e : Entry), row.Keeps s e → row.isLive = true →
      (row.rewritten s.outline record now).visible? s.outline = some (e.rewritten record now) :=
    fun row e he hlive =>
      (if_pos hlive).trans ((he.rewritten hrecord now).decoded? (Catalogue.fits hs))
  refine (h.entries_replaced hs hnew uuid).trans ?_
  rw [← List.filterMap_eq_map]
  congr 1
  funext e
  simp only [Function.comp]
  split <;> rfl

lemma entries_deleted (h : st.Readable) (hs : s ∈ Catalogue.schemas) (uuid : Uuid)
    (now : Instant) :
    (st.deleted s.outline uuid now).entries s.outline =
      (st.entries s.outline).filter fun e => e.uuid ≠ uuid := by
  have hnone : ∀ (row : Row) (e : Entry), row.Keeps s e → row.isLive = true →
      (row.stamped now).visible? s.outline = none := fun _ _ _ _ => rfl
  refine (h.entries_replaced hs hnone uuid).trans ?_
  rw [← List.filterMap_eq_filter]
  congr 1
  funext e
  by_cases hu : e.uuid = uuid <;> simp [Option.guard, hu]

/-! ### Entries by their identifiers -/

lemma hasUuid_of_lookup? (h : st.Readable) (hs : s ∈ Catalogue.schemas) {e : Entry}
    (he : st.lookup? s.outline uuid = some e) : st.HasUuid s.table uuid := by
  obtain ⟨row, hrow, hu⟩ := (h.exists_lookup?_iff hs).1 (Option.isSome_iff_exists.2 ⟨e, he⟩)
  exact ⟨row, (mem_liveRows_iff.1 hrow).1, hu⟩

theorem lookup?_inserted (h : st.Readable) (hs : s ∈ Catalogue.schemas) (hrecord : s.Accepts record)
    (hfresh : ¬ st.HasUuid s.table uuid) (now : Instant) (ht : t ∈ Catalogue.schemas) (v : Uuid) :
    (st.inserted s.outline uuid record now).lookup? t.outline v =
      if t = s ∧ v = uuid then some (.ofNew uuid record now) else st.lookup? t.outline v := by
  by_cases hts : t = s
  · subst hts
    rw [lookup?, entries_inserted hs hrecord, List.find?_append]
    change (st.lookup? t.outline v).or _ = _
    by_cases hv : v = uuid
    · have hnone : st.lookup? t.outline v = none :=
        Option.eq_none_iff_forall_ne_some.2 fun e he => hfresh (hv ▸ h.hasUuid_of_lookup? hs he)
      rw [hnone, if_pos ⟨rfl, hv⟩, hv]
      simp [Entry.ofNew]
    · have hv' : ¬ uuid = v := fun he => hv he.symm
      simp [hv, hv', Entry.ofNew]
  · rw [if_neg fun hc => hts hc.1]
    exact congrFun (lookup?_withRows_of_ne hs ht hts _) v

theorem lookup?_updated (h : st.Readable) (hs : s ∈ Catalogue.schemas) (hrecord : s.Accepts record)
    (uuid : Uuid) (now : Instant) (ht : t ∈ Catalogue.schemas) (v : Uuid) :
    (st.updated s.outline uuid record now).lookup? t.outline v =
      if t = s ∧ v = uuid then (st.lookup? t.outline v).map (·.rewritten record now)
      else st.lookup? t.outline v := by
  by_cases hts : t = s
  · subst hts
    have huuid : ∀ e : Entry,
        (if e.uuid = uuid then e.rewritten record now else e).uuid = e.uuid := by
      intro e
      split <;> rfl
    rw [lookup?, h.entries_updated hs hrecord, List.find?_map]
    simp only [Function.comp_def, huuid]
    change (st.lookup? t.outline v).map _ = _
    cases he : st.lookup? t.outline v with
    | none => simp
    | some e =>
      have hev := ((h.lookup?_eq_some_iff hs).1 he).2
      by_cases hv : v = uuid <;> simp [hv, hev]
  · rw [if_neg fun hc => hts hc.1]
    exact congrFun (lookup?_withRows_of_ne hs ht hts _) v

theorem lookup?_deleted (h : st.Readable) (hs : s ∈ Catalogue.schemas) (uuid : Uuid) (now : Instant)
    (ht : t ∈ Catalogue.schemas) (v : Uuid) :
    (st.deleted s.outline uuid now).lookup? t.outline v =
      if t = s ∧ v = uuid then none else st.lookup? t.outline v := by
  by_cases hts : t = s
  · subst hts
    rw [lookup?, h.entries_deleted hs, List.find?_filter]
    by_cases hv : v = uuid
    · rw [if_pos ⟨rfl, hv⟩, List.find?_eq_none]
      simp [hv]
    · rw [if_neg fun hc => hv hc.2, lookup?]
      congr 1
      funext e
      by_cases he : e.uuid = v <;> simp [he, hv]
  · rw [if_neg fun hc => hts hc.1]
    exact congrFun (lookup?_withRows_of_ne hs ht hts _) v

/-! ### The number of entries -/

lemma length_entries_inserted (hs : s ∈ Catalogue.schemas) (hrecord : s.Accepts record)
    (now : Instant) (ht : t ∈ Catalogue.schemas) :
    ((st.inserted s.outline uuid record now).entries t.outline).length =
      (st.entries t.outline).length + if t = s then 1 else 0 := by
  by_cases hts : t = s
  · subst hts
    rw [entries_inserted hs hrecord, List.length_append, if_pos rfl]
    rfl
  · rw [if_neg hts]
    exact congrArg List.length (entries_withRows_of_ne hs ht hts _)

lemma length_entries_updated (h : st.Readable) (hs : s ∈ Catalogue.schemas)
    (hrecord : s.Accepts record) (uuid : Uuid) (now : Instant) (ht : t ∈ Catalogue.schemas) :
    ((st.updated s.outline uuid record now).entries t.outline).length =
      (st.entries t.outline).length := by
  by_cases hts : t = s
  · subst hts
    rw [h.entries_updated hs hrecord, List.length_map]
  · exact congrArg List.length (entries_withRows_of_ne hs ht hts _)

/-- Deleting a live row takes away one entry. -/
lemma length_entries_deleted (h : st.Readable) (hs : s ∈ Catalogue.schemas)
    (hlive : (st.lookup? s.outline uuid).isSome) (now : Instant) (ht : t ∈ Catalogue.schemas) :
    ((st.deleted s.outline uuid now).entries t.outline).length + (if t = s then 1 else 0) =
      (st.entries t.outline).length := by
  by_cases hts : t = s
  · subst hts
    have hsplit := List.length_eq_length_filter_add (l := st.entries t.outline) (·.uuid = uuid)
    have hone : ((st.entries t.outline).filter (·.uuid = uuid)).length = 1 := by
      obtain ⟨e, he⟩ := Option.isSome_iff_exists.1 hlive
      rw [Traversal.filter_eq_toList_find? (h.nodup_entries hs)]
      exact congrArg (·.toList.length) he
    have hrest : (st.entries t.outline).filter (fun e => e.uuid ≠ uuid) =
        (st.entries t.outline).filter fun e => !decide (e.uuid = uuid) := by simp
    rw [h.entries_deleted hs, if_pos rfl, hrest]
    omega
  · rw [if_neg hts]
    exact congrArg List.length (entries_withRows_of_ne hs ht hts _)

/-! ### Changes that were checked -/

lemma table?_eq (h : st.Readable) (hs : s ∈ Catalogue.schemas) :
    st.layout.table? s.outline.table = some s.tableOf := by
  rw [h.layout]
  exact (Catalogue.fits hs).table

lemma missingColumn?_eq_none (hs : s ∈ Catalogue.schemas) {row : Row} {e : Entry}
    (he : row.Keeps s e) : missingColumn? s.tableOf row = none := by
  rw [missingColumn?, Option.map_eq_none_iff, List.find?_eq_none]
  intro c hc
  obtain ⟨f, hf, rfl⟩ := List.mem_map.1 hc
  obtain ⟨v, hv, hp⟩ := he.accepted.passes f hf
  rw [he.cell (Catalogue.fits hs) hf hv]
  by_cases hr : f.required = true
  · have hnull := hp.isNull_eq_false hr
    cases v <;> simp_all [Cell.ofValue, Cell.isNull, Value.isNull]
  · simp [hr]

/-- A row that keeps an entry may stand beside others if they have other identifiers and the live
ones other values where they have to. -/
lemma violation?_eq_none (hs : s ∈ Catalogue.schemas) {row : Row} {e : Entry}
    (he : row.Keeps s e) {others : List Row} (huuid : ∀ r ∈ others, r.uuid ≠ row.uuid)
    (hdiffer : row.isLive = true → ∀ r ∈ others, r.isLive = true → ∀ f ∈ s.fields,
      f.unique = true → r.cell f.name ≠ row.cell f.name) :
    violation? s.tableOf others row = none := by
  have hexcludes : others.any (excludes s.tableOf row) = false := by
    rw [List.any_eq_false]
    intro r hr hex
    simp only [excludes, Bool.or_eq_true, Bool.and_eq_true, beq_iff_eq] at hex
    rcases hex with (hu | halways) | ⟨⟨hrow, hrlive⟩, hclash⟩
    · exact huuid r hr hu.symm
    · simp [Schema.tableOf] at halways
    · obtain ⟨c, hc, hclash⟩ := List.any_eq_true.1 hclash
      obtain ⟨f, hf, rfl⟩ := List.mem_map.1 hc
      obtain ⟨hf, hunique⟩ := List.mem_filter.1 hf
      obtain ⟨v, hv, hp⟩ := he.accepted.passes f hf
      obtain ⟨text, rfl⟩ := hp.exists_text ((Catalogue.fits hs).unique f hf hunique)
      have hcell := he.cell (Catalogue.fits hs) hf hv
      rw [clash, Cell.equals_comm, hcell] at hclash
      exact hdiffer hrow r hr hrlive f hf hunique ((Cell.equals_text.1 hclash).trans hcell.symm)
  rw [violation?, missingColumn?_eq_none hs he]
  simp only [hexcludes]
  rfl

/-- A row with the cells of a record that repeats nothing differs from the other live rows. -/
lemma differs_of_not_repeats (hs : s ∈ Catalogue.schemas) {row : Row}
    (hcells : row.cells = cellsOf record s.outline) {exclude : Option Uuid}
    (hrepeats : ∀ name, ¬ st.Repeats s record exclude name) (hrecord : s.Accepts record)
    {r : Row} (hr : r ∈ st.liveRows s.table) (hne : exclude ≠ some r.uuid) {f : Field}
    (hf : f ∈ s.fields) (hunique : f.unique = true) : r.cell f.name ≠ row.cell f.name := by
  intro hcell
  obtain ⟨v, hv, hp⟩ := hrecord.passes f hf
  refine hrepeats f.name ⟨f, hf, rfl, hunique, v, hv, r, hr, ?_, hne⟩
  rw [hcell, Row.cell_of_not_reserved ((Catalogue.fits hs).notReserved f hf), hcells,
    get?_cellsOf (Catalogue.fits hs).names hf hv, Option.getD_some]

/-- A new row under a new identifier that repeats nothing is inserted. -/
theorem apply_insert (h : st.Readable) (hs : s ∈ Catalogue.schemas) (hrecord : s.Accepts record)
    (hfresh : ¬ st.HasUuid s.table uuid) (hrepeats : ∀ name, ¬ st.Repeats s record none name)
    (now : Instant) :
    st.apply (.insert s.outline uuid record now) =
      .ok (1, st.inserted s.outline uuid record now) := by
  have hkeeps := Row.keeps_newRow hrecord uuid now
  have hviolation : violation? s.tableOf (st.rows s.table) (newRow s.outline uuid record now) =
      none := by
    refine violation?_eq_none hs hkeeps (fun r hr hu => hfresh ⟨r, hr, hu⟩) ?_
    intro _ r hr hlive f hf hunique
    exact differs_of_not_repeats hs rfl hrepeats hrecord (mem_liveRows_iff.2 ⟨hr, hlive⟩) nofun hf
      hunique
  have htable : s.tableOf.name = s.table := rfl
  have hfrozen : s.tableOf.frozen = false := rfl
  simp only [apply, h.table?_eq hs, Store.insert, htable, hfrozen, Bool.false_eq_true, if_false,
    hviolation]
  rfl

/-- No row is inserted under an identifier that another row has. -/
theorem apply_insert_of_hasUuid (h : st.Readable) (hs : s ∈ Catalogue.schemas)
    (hrecord : s.Accepts record) (hused : st.HasUuid s.table uuid) (now : Instant) :
    st.apply (.insert s.outline uuid record now) = .error .alreadyExists := by
  have hmissing := missingColumn?_eq_none hs (Row.keeps_newRow hrecord uuid now)
  have hexcludes : (st.rows s.table).any
      (excludes s.tableOf (newRow s.outline uuid record now)) = true := by
    obtain ⟨row, hrow, rfl⟩ := hused
    refine List.any_eq_true.2 ⟨row, hrow, ?_⟩
    simp [excludes, newRow]
  have hviolation : violation? s.tableOf (st.rows s.table) (newRow s.outline uuid record now) =
      some .alreadyExists := by
    rw [violation?, hmissing]
    simp only [hexcludes, if_true]
  have htable : s.tableOf.name = s.table := rfl
  have hfrozen : s.tableOf.frozen = false := rfl
  simp only [apply, h.table?_eq hs, Store.insert, htable, hfrozen, Bool.false_eq_true, if_false,
    hviolation]

/-- Live rows are replaced by rows that break no constraint. -/
lemma replace_eq_ok {f : Row → Row}
    (hviolation : ∀ row ∈ st.rows s.table, isLiveWith uuid row = true →
      violation? s.tableOf ((st.rows s.table).filter (·.uuid ≠ row.uuid)) (f row) = none) :
    st.replace s.tableOf (isLiveWith uuid) f =
      .ok (((st.rows s.table).filter (isLiveWith uuid)).length,
        st.withRows s.table ((st.rows s.table).map fun row =>
          if isLiveWith uuid row then f row else row)) := by
  have hnone : ((st.rows s.table).filter (isLiveWith uuid)).findSome? (fun row =>
      violation? s.tableOf ((st.rows s.table).filter (·.uuid ≠ row.uuid)) (f row)) = none := by
    rw [List.findSome?_eq_none_iff]
    intro row hrow
    exact hviolation row (List.mem_filter.1 hrow).1 (List.mem_filter.1 hrow).2
  have htable : s.tableOf.name = s.table := rfl
  have hfrozen : s.tableOf.frozen = false := rfl
  simp only [replace, htable, hfrozen, Bool.false_eq_true, if_false, hnone]

lemma length_live_eq_zero_iff (h : st.Readable) (hs : s ∈ Catalogue.schemas) (uuid : Uuid) :
    ((st.rows s.table).filter (isLiveWith uuid)).length = 0 ↔
      st.lookup? s.outline uuid = none := by
  rw [← Option.not_isSome_iff_eq_none, h.exists_lookup?_iff hs, List.length_eq_zero_iff,
    List.filter_eq_nil_iff]
  constructor
  · rintro hnone ⟨row, hrow, hu⟩
    obtain ⟨hrow, hlive⟩ := mem_liveRows_iff.1 hrow
    exact hnone row hrow (isLiveWith_iff.2 ⟨hlive, hu⟩)
  · intro hnone row hrow hwith
    obtain ⟨hlive, hu⟩ := isLiveWith_iff.1 hwith
    exact hnone ⟨row, mem_liveRows_iff.2 ⟨hrow, hlive⟩, hu⟩

/-- A live row is updated to a record that repeats nothing of another row. -/
theorem apply_update (h : st.Readable) (hs : s ∈ Catalogue.schemas) (hrecord : s.Accepts record)
    (hrepeats : ∀ name, ¬ st.Repeats s record (some uuid) name) (now : Instant) :
    ∃ n, st.apply (.update s.outline uuid record now) =
        .ok (n, st.updated s.outline uuid record now) ∧
      (n = 0 ↔ st.lookup? s.outline uuid = none) := by
  refine ⟨_, ?_, h.length_live_eq_zero_iff hs uuid⟩
  simp only [apply, h.table?_eq hs]
  refine replace_eq_ok (f := (·.rewritten s.outline record now)) fun row hrow hwith => ?_
  obtain ⟨hlive, rfl⟩ := isLiveWith_iff.1 hwith
  obtain ⟨e, he⟩ := h.rows s hs row hrow
  refine violation?_eq_none hs (he.rewritten hrecord now) (fun r hr => ?_) ?_
  · exact of_decide_eq_true (List.mem_filter.1 hr).2
  · intro _ r hr hrlive f hf hunique
    obtain ⟨hr, hne⟩ := List.mem_filter.1 hr
    have hne : some row.uuid ≠ some r.uuid := by
      intro heq
      simp [Option.some.inj heq] at hne
    exact differs_of_not_repeats hs rfl hrepeats hrecord (mem_liveRows_iff.2 ⟨hr, hrlive⟩) hne hf
      hunique

/-- A live row is stamped as deleted. -/
theorem apply_delete (h : st.Readable) (hs : s ∈ Catalogue.schemas) (uuid : Uuid)
    (now : Instant) :
    ∃ n, st.apply (.delete s.outline uuid now) = .ok (n, st.deleted s.outline uuid now) ∧
      (n = 0 ↔ st.lookup? s.outline uuid = none) := by
  refine ⟨_, ?_, h.length_live_eq_zero_iff hs uuid⟩
  simp only [apply, h.table?_eq hs]
  refine replace_eq_ok (f := (·.stamped now)) fun row hrow hwith => ?_
  obtain ⟨e, he⟩ := h.rows s hs row hrow
  refine violation?_eq_none hs (he.stamped now) (fun r hr => ?_) nofun
  exact of_decide_eq_true (List.mem_filter.1 hr).2

/-- A live member is linked to a live owner, unless it is linked already. -/
theorem apply_link (h : st.Readable) (hs : s ∈ Catalogue.schemas) {a : Association}
    (ha : a ∈ s.associations) {owner member : Uuid} (howner : st.HasUuid s.table owner)
    (hmember : st.HasUuid a.member.table member) :
    ∃ n, st.apply (.link a owner member) = .ok (n, st.linked a owner member) := by
  have hlinkTable := ((Catalogue.fits hs).members a ha).2
  have hnonempty : ∀ {table : String} {v : Uuid}, st.HasUuid table v →
      (st.withUuid table v).isEmpty = false := by
    rintro table v ⟨row, hrow, rfl⟩
    rw [List.isEmpty_eq_false_iff_exists_mem]
    exact ⟨row, List.mem_filter.2 ⟨hrow, by simp⟩⟩
  simp only [apply, h.layout, hlinkTable, link, Store.linked]
  split
  · exact ⟨0, rfl⟩
  · rw [hnonempty howner, hnonempty hmember]
    exact ⟨1, rfl⟩

lemma apply_unlink (h : st.Readable) (hs : s ∈ Catalogue.schemas) {a : Association}
    (ha : a ∈ s.associations) (owner member : Uuid) :
    ∃ n, st.apply (.unlink a owner member) = .ok (n, st.unlinked a owner member) := by
  have hlinkTable := ((Catalogue.fits hs).members a ha).2
  simp only [apply, h.layout, hlinkTable, unlink, unlinked]
  exact ⟨_, rfl⟩

end Readable

end Store

end BookingOffice
