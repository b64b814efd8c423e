import BookingOffice.Proofs.Procedure.Query
import BookingOffice.Proofs.Store.Sound

/-!
Stores without what has been deleted. Erasing a store (`Store.erased`) takes away its deleted rows
and the links that they have a part in, which no selection of live rows can tell.

* `Store.fetch_erased`, `Store.Readable.related_erased`: what is read of live entries;
* `Store.erased_inserted`, `erased_replaced`, `erased_linked`, `erased_unlinked`: what is left of a
  changed store depends on what is left of the store only;
* `Store.SameLive`: the relation of stores with the same erasure, kept by all changes.
-/

namespace BookingOffice

namespace Store

/-- Whether a deleted row of a table has an identifier. -/
def isDead (st : Store) (table : String) (uuid : Uuid) : Bool :=
  (st.rows table).any fun row => !row.isLive && row.uuid == uuid

/-- Whether neither end of a link has been deleted. -/
def isIntact (st : Store) (table : String) (l : Link) : Bool :=
  (st.layout.linkTable? table).all fun t =>
    !st.isDead t.ownerTable l.owner && !st.isDead t.memberTable l.member

/-- The store without its deleted rows and the links that they have a part in. -/
def erased (st : Store) : Store where
  layout := st.layout
  rows := st.liveRows
  links table := (st.links table).filter (st.isIntact table)

variable {st other : Store} {s : Schema} {a : Association} {uuid owner : Uuid} {record : Record}

lemma isDead_iff {table : String} :
    st.isDead table uuid = true ↔ ∃ row ∈ st.rows table, row.isLive = false ∧ row.uuid = uuid := by
  rw [isDead, List.any_eq_true]
  simp only [Bool.and_eq_true, Bool.not_eq_true', beq_iff_eq]

@[simp] lemma erased_layout (st : Store) : st.erased.layout = st.layout := rfl

@[simp] lemma erased_rows (st : Store) : st.erased.rows = st.liveRows := rfl

@[simp] lemma liveRows_erased (st : Store) : st.erased.liveRows = st.liveRows := by
  funext table
  exact List.filter_filter.trans (congrArg (List.filter · _) (funext fun row => Bool.and_self _))

@[simp] lemma isDead_erased (st : Store) (table : String) (uuid : Uuid) :
    st.erased.isDead table uuid = false := by
  rw [Bool.eq_false_iff, ne_eq, isDead_iff]
  rintro ⟨row, hrow, hdead, -⟩
  rw [(mem_liveRows_iff.1 hrow).2] at hdead
  cases hdead

@[simp] lemma isIntact_erased (st : Store) (table : String) (l : Link) :
    st.erased.isIntact table l = true := by
  simp [isIntact]

lemma erased_ext (hlayout : st.layout = other.layout) (hrows : st.liveRows = other.liveRows)
    (hlinks : ∀ table, (st.links table).filter (st.isIntact table) =
      (other.links table).filter (other.isIntact table)) : st.erased = other.erased := by
  rw [erased, erased, hlayout, hrows, funext hlinks]

/-- Erasing takes away everything at once. -/
@[simp] lemma erased_erased (st : Store) : st.erased.erased = st.erased := by
  refine erased_ext rfl st.liveRows_erased fun table => ?_
  rw [List.filter_eq_self.2 fun l _ => st.isIntact_erased table l]
  rfl

/-! ### What is read -/

lemma entries_erased (st : Store) (o : Outline) : st.erased.entries o = st.entries o := by
  rw [entries, entries, liveRows_erased]

@[simp] lemma lookup?_erased (st : Store) (o : Outline) (uuid : Uuid) :
    st.erased.lookup? o uuid = st.lookup? o uuid := by
  rw [lookup?, lookup?, entries_erased]

lemma matching_erased (st : Store) (table : String) (filters : List Filter) :
    st.erased.matching table filters = st.matching table filters := by
  rw [matching, matching, liveRows_erased]

lemma select_page_erased (st : Store) (o : Outline) (p : Parameters) :
    st.erased.select (.page o p) = st.select (.page o p) := by
  simp only [select, listing, matching_erased]

/-- Only the search for an identifier that is in use counts deleted rows. -/
lemma count_erased (st : Store) {q : Statement.Count} (hq : ∀ o u, q ≠ .any o u) :
    st.erased.count q = st.count q := by
  cases q with
  | live o uuids => simp only [count, liveRows_erased]
  | any o uuid => exact absurd rfl (hq o uuid)
  | duplicates o field value exclude => simp only [count, liveRows_erased]
  | matching o filters => simp only [count, matching_erased]

namespace Readable

protected lemma erased (h : st.Readable) : st.erased.Readable where
  layout := h.layout
  uuids _ hs := h.nodup_liveRows hs
  rows s hs row hrow := h.rows s hs row (mem_liveRows_iff.1 hrow).1

/-- The identifier of a live row is not that of a deleted one. -/
lemma isDead_eq_false (h : st.Readable) (hs : s ∈ Catalogue.schemas) {row : Row}
    (hrow : row ∈ st.liveRows s.table) : st.isDead s.table row.uuid = false := by
  rw [Bool.eq_false_iff, ne_eq, isDead_iff]
  rintro ⟨dead, hdead, hnot, huuid⟩
  obtain ⟨hrow, hlive⟩ := mem_liveRows_iff.1 hrow
  rw [List.inj_on_of_nodup_map (h.uuids s hs) hdead hrow huuid, hlive] at hnot
  cases hnot

lemma isDead_of_lookup? (h : st.Readable) (hs : s ∈ Catalogue.schemas)
    (hlive : (st.lookup? s.outline uuid).isSome) : st.isDead s.table uuid = false := by
  obtain ⟨row, hrow, rfl⟩ := (h.exists_lookup?_iff hs).1 hlive
  exact h.isDead_eq_false hs hrow

/-- Nothing is found under the identifier of a deleted row. -/
lemma lookup?_of_isDead (h : st.Readable) (hs : s ∈ Catalogue.schemas)
    (hdead : st.isDead s.table uuid = true) : st.lookup? s.outline uuid = none := by
  rw [← Option.not_isSome_iff_eq_none]
  intro hlive
  rw [h.isDead_of_lookup? hs hlive] at hdead
  cases hdead

/-- A link between two live rows is intact. -/
lemma isIntact_of_live (h : st.Readable) (hs : s ∈ Catalogue.schemas) (ha : a ∈ s.associations)
    (howner : st.isDead s.table owner = false) (hmember : st.isDead a.member.table uuid = false) :
    st.isIntact a.table ⟨owner, uuid⟩ = true := by
  rw [isIntact, h.layout, ((Catalogue.fits hs).members a ha).2, Option.all_some, howner, hmember]
  rfl

/-- The members of a live owner are not among what is erased. -/
lemma members_erased (h : st.Readable) (hs : s ∈ Catalogue.schemas) (ha : a ∈ s.associations)
    (howner : st.isDead s.table owner = false) :
    st.erased.members a owner = st.members a owner := by
  obtain ⟨t, ht, hmember⟩ := ((Catalogue.fits hs).members a ha).1
  have hlinked : ∀ row ∈ st.liveRows a.member.table,
      st.erased.isLinked a.table owner row.uuid = st.isLinked a.table owner row.uuid := by
    intro row hrow
    have hintact : st.isIntact a.table ⟨owner, row.uuid⟩ = true := by
      refine h.isIntact_of_live hs ha howner ?_
      rw [← hmember] at hrow ⊢
      exact h.isDead_eq_false ht hrow
    rw [Bool.eq_iff_iff, isLinked, isLinked, List.contains_iff_mem, List.contains_iff_mem]
    change _ ∈ List.filter _ _ ↔ _
    rw [List.mem_filter, and_iff_left hintact]
  have hselect : st.erased.select (.members a owner) = st.select (.members a owner) := by
    simp only [select, liveRows_erased]
    rw [List.filter_congr hlinked]
  rw [members, members, hselect]

/-- What a live entry is related to is not among what is erased. -/
lemma related_erased (h : st.Readable) (hs : s ∈ Catalogue.schemas) {e : Entry}
    (he : st.lookup? s.outline e.uuid = some e) : st.erased.related s e = st.related s e := by
  have hdead := h.isDead_of_lookup? hs (Option.isSome_iff_exists.2 ⟨e, he⟩)
  have hreferred : ∀ target value, st.erased.referred target value = st.referred target value := by
    intro target value
    simp only [referred]
    split
    · rw [lookup?_erased]
    · rfl
  have hmembers : (s.associations.map fun a =>
      (a.name, Json.array ((st.erased.members a e.uuid).map Entry.detail))) =
        s.associations.map fun a => (a.name, Json.array ((st.members a e.uuid).map Entry.detail)) :=
    List.map_congr_left fun a ha => by rw [h.members_erased hs ha hdead]
  simp only [related, hreferred, hmembers]

end Readable

lemma Sound.erased (h : st.Sound) : st.erased.Sound where
  toReadable := h.toReadable.erased
  unique s hs := by
    rw [Differs]
    rw [liveRows_erased]
    exact h.unique s hs
  builds s hs uuid e he := h.builds s hs uuid e (by rwa [lookup?_erased] at he)

/-! ### Changes -/

/-- A change of live rows leaves the same live rows without what has been deleted. -/
lemma liveRows_withRows_erased (st : Store) (table : String) (change : List Row → List Row)
    (hlive : ∀ rows, (change rows).filter Row.isLive =
      (change (rows.filter Row.isLive)).filter Row.isLive) :
    (st.withRows table (change (st.rows table))).liveRows =
      (st.erased.withRows table (change (st.erased.rows table))).liveRows := by
  funext t
  by_cases ht : t = table
  · subst ht
    rw [liveRows, liveRows, withRows_rows_self, withRows_rows_self]
    exact hlive _
  · rw [liveRows, liveRows, withRows_rows_of_ne _ ht, withRows_rows_of_ne _ ht]
    exact congrFun st.liveRows_erased.symm t

/-- What is dead after a change was so before it, or the change of live rows made it so. -/
lemma isDead_withRows_erased (st : Store) (table : String) (change : List Row → List Row)
    (hdead : ∀ rows row, row.isLive = false →
      (row ∈ change rows ↔ row ∈ rows ∨ row ∈ change (rows.filter Row.isLive)))
    (t : String) (v : Uuid) :
    (st.withRows table (change (st.rows table))).isDead t v =
      ((st.erased.withRows table (change (st.erased.rows table))).isDead t v || st.isDead t v) := by
  rw [Bool.eq_iff_iff, Bool.or_eq_true, isDead_iff, isDead_iff, isDead_iff]
  by_cases ht : t = table
  · subst ht
    rw [withRows_rows_self, withRows_rows_self]
    constructor
    · rintro ⟨row, hrow, hnot, hv⟩
      rcases (hdead _ row hnot).1 hrow with hrow | hrow
      · exact Or.inr ⟨row, hrow, hnot, hv⟩
      · exact Or.inl ⟨row, hrow, hnot, hv⟩
    · rintro (⟨row, hrow, hnot, hv⟩ | ⟨row, hrow, hnot, hv⟩)
      · exact ⟨row, (hdead _ row hnot).2 (Or.inr hrow), hnot, hv⟩
      · exact ⟨row, (hdead _ row hnot).2 (Or.inl hrow), hnot, hv⟩
  · have hnone := st.isDead_erased t v
    rw [Bool.eq_false_iff, ne_eq, isDead_iff] at hnone
    rw [withRows_rows_of_ne _ ht, withRows_rows_of_ne _ ht, or_iff_right hnone]

/-- Changing the rows of a table leaves the same, with and without what has been deleted, if the
change leaves the same of live rows and lets no other rows die. -/
lemma erased_withRows (st : Store) (table : String) (change : List Row → List Row)
    (hlive : ∀ rows, (change rows).filter Row.isLive =
      (change (rows.filter Row.isLive)).filter Row.isLive)
    (hdead : ∀ rows row, row.isLive = false →
      (row ∈ change rows ↔ row ∈ rows ∨ row ∈ change (rows.filter Row.isLive))) :
    (st.withRows table (change (st.rows table))).erased =
      (st.erased.withRows table (change (st.erased.rows table))).erased := by
  have hdies := st.isDead_withRows_erased table change hdead
  refine erased_ext rfl (st.liveRows_withRows_erased table change hlive) fun t => ?_
  change (st.links t).filter _ = ((st.links t).filter _).filter _
  rw [List.filter_filter]
  refine List.filter_congr fun l _ => ?_
  -- a link is intact if its ends are alive before and after the change
  have hlayout : ∀ rows, (st.withRows table rows).layout = st.layout ∧
      (st.erased.withRows table rows).layout = st.layout := fun _ => ⟨rfl, rfl⟩
  rw [isIntact, isIntact, isIntact, (hlayout _).1, (hlayout _).2]
  cases st.layout.linkTable? t with
  | none => rfl
  | some linkTable =>
    simp only [Option.all_some, hdies, Bool.not_or]
    ac_rfl

lemma erased_inserted (st : Store) (o : Outline) (uuid : Uuid) (record : Record) (now : Instant) :
    (st.inserted o uuid record now).erased = (st.erased.inserted o uuid record now).erased := by
  refine st.erased_withRows o.table (· ++ [newRow o uuid record now]) ?_ ?_
  · intro rows
    simp
  · intro rows row hdead
    simp only [List.mem_append, List.mem_singleton, List.mem_filter, hdead]
    simp

/-- A change of live rows leaves deleted rows as they are. -/
lemma ite_isLiveWith_of_dead {row : Row} (h : row.isLive = false) (uuid : Uuid) (f : Row → Row) :
    (if isLiveWith uuid row then f row else row) = row := by
  refine if_neg fun hwith => ?_
  rw [(isLiveWith_iff.1 hwith).1] at h
  cases h

/-- Changing live rows in place leaves the same of live rows and lets no other rows die. -/
lemma erased_replaced (st : Store) (table : String) (uuid : Uuid) (f : Row → Row) :
    (st.withRows table ((st.rows table).map fun row =>
        if isLiveWith uuid row then f row else row)).erased =
      (st.erased.withRows table ((st.erased.rows table).map fun row =>
        if isLiveWith uuid row then f row else row)).erased := by
  refine st.erased_withRows table
    (List.map fun row => if isLiveWith uuid row then f row else row) ?_ ?_
  · intro rows
    induction rows with
    | nil => rfl
    | cons row rows ih =>
      by_cases hlive : row.isLive = true
      · rw [List.filter_cons_of_pos hlive, List.map_cons, List.map_cons, List.filter_cons,
          List.filter_cons, ih]
      · rw [List.filter_cons_of_neg hlive, List.map_cons,
          ite_isLiveWith_of_dead (by simpa using hlive), List.filter_cons_of_neg hlive, ih]
  · intro rows row hdead
    simp only [List.mem_map, List.mem_filter]
    constructor
    · rintro ⟨old, hold, rfl⟩
      by_cases hlive : old.isLive = true
      · exact Or.inr ⟨old, ⟨hold, hlive⟩, rfl⟩
      · rw [ite_isLiveWith_of_dead (by simpa using hlive)]
        exact Or.inl hold
    · rintro (hrow | ⟨old, ⟨hold, -⟩, rfl⟩)
      · exact ⟨row, hrow, ite_isLiveWith_of_dead hdead uuid f⟩
      · exact ⟨old, hold, rfl⟩

/-- Changing links leaves the same if it leaves the same of intact links. -/
lemma erased_withLinks (st : Store) {table : String} {links links' : List Link}
    (h : links.filter (st.isIntact table) = links') :
    (st.withLinks table links).erased = (st.erased.withLinks table links').erased := by
  refine erased_ext rfl st.liveRows_erased.symm fun t => ?_
  have hintact : ∀ l, (st.erased.withLinks table links').isIntact t l = true :=
    st.isIntact_erased t
  rw [List.filter_eq_self.2 fun l _ => hintact l]
  by_cases ht : t = table
  · subst ht
    rw [withLinks_links_self, withLinks_links_self]
    exact h
  · rw [withLinks_links_of_ne _ ht, withLinks_links_of_ne _ ht]
    rfl

/-- Linking what is intact leaves the same. -/
lemma erased_linked (st : Store) {owner member : Uuid}
    (h : st.isIntact a.table ⟨owner, member⟩ = true) :
    (st.linked a owner member).erased = (st.erased.linked a owner member).erased := by
  have hmem : (⟨owner, member⟩ : Link) ∈ st.erased.links a.table ↔
      (⟨owner, member⟩ : Link) ∈ st.links a.table := by
    change _ ∈ List.filter _ _ ↔ _
    rw [List.mem_filter, and_iff_left h]
  by_cases hlink : (⟨owner, member⟩ : Link) ∈ st.links a.table
  · rw [linked, linked, if_pos (List.contains_iff_mem.2 hlink),
      if_pos (List.contains_iff_mem.2 (hmem.2 hlink)), erased_erased]
  · rw [linked, linked, if_neg fun hc => hlink (List.contains_iff_mem.1 hc),
      if_neg fun hc => hlink (hmem.1 (List.contains_iff_mem.1 hc))]
    refine st.erased_withLinks ?_
    rw [List.filter_append, List.filter_cons_of_pos h, List.filter_nil]
    rfl

lemma erased_unlinked (st : Store) (a : Association) (owner member : Uuid) :
    (st.unlinked a owner member).erased = (st.erased.unlinked a owner member).erased := by
  refine st.erased_withLinks ?_
  change List.filter _ (List.filter _ _) = List.filter _ (List.filter _ _)
  rw [List.filter_filter, List.filter_filter]
  exact List.filter_congr fun l _ => Bool.and_comm _ _

/-! ### Deleted rows -/

/-- Whether what has been deleted from a store is still deleted in another. -/
def DeadIn (st other : Store) : Prop :=
  ∀ table uuid, st.isDead table uuid = true → other.isDead table uuid = true

lemma deadIn_of_rows (h : ∀ table, ∀ row ∈ st.rows table, row.isLive = false →
    row ∈ other.rows table) : st.DeadIn other := by
  intro table uuid hdead
  obtain ⟨row, hrow, hnot, hu⟩ := isDead_iff.1 hdead
  exact isDead_iff.2 ⟨row, h table row hrow hnot, hnot, hu⟩

lemma deadIn_withRows {table : String} {rows : List Row}
    (h : ∀ row ∈ st.rows table, row.isLive = false → row ∈ rows) :
    st.DeadIn (st.withRows table rows) := by
  refine deadIn_of_rows fun t row hrow hnot => ?_
  by_cases ht : t = table
  · subst ht
    rw [withRows_rows_self]
    exact h row hrow hnot
  · rw [withRows_rows_of_ne _ ht]
    exact hrow

lemma deadIn_inserted (st : Store) (o : Outline) (uuid : Uuid) (record : Record) (now : Instant) :
    st.DeadIn (st.inserted o uuid record now) :=
  deadIn_withRows fun _ hrow _ => List.mem_append_left _ hrow

lemma deadIn_replaced (st : Store) (table : String) (uuid : Uuid) (f : Row → Row) :
    st.DeadIn (st.withRows table ((st.rows table).map fun row =>
      if isLiveWith uuid row then f row else row)) :=
  deadIn_withRows fun row hrow hnot =>
    List.mem_map.2 ⟨row, hrow, ite_isLiveWith_of_dead hnot uuid f⟩

/-! ### Stores with the same erasure -/

/-- Whether two stores differ in what has been deleted only, and an identifier that is new to the
first is new to the second. -/
structure SameLive (st other : Store) : Prop where
  erased : st.erased = other.erased
  uuids : ∀ table uuid, other.HasUuid table uuid → st.HasUuid table uuid

/-- A store differs from its erasure in what has been deleted only. -/
lemma sameLive_erased (st : Store) : st.SameLive st.erased where
  erased := st.erased_erased.symm
  uuids := by
    rintro table uuid ⟨row, hrow, hu⟩
    exact ⟨row, (mem_liveRows_iff.1 hrow).1, hu⟩

lemma hasUuid_withRows {table t : String} {rows : List Row} {v : Uuid} :
    (st.withRows table rows).HasUuid t v ↔
      if t = table then v ∈ rows.map (·.uuid) else st.HasUuid t v := by
  by_cases ht : t = table
  · subst ht
    rw [if_pos rfl, HasUuid, withRows_rows_self, List.mem_map]
  · rw [if_neg ht, HasUuid, withRows_rows_of_ne _ ht]
    rfl

namespace SameLive

lemma inserted (h : st.SameLive other) (o : Outline) (uuid : Uuid) (record : Record)
    (now : Instant) :
    (st.inserted o uuid record now).SameLive (other.inserted o uuid record now) where
  erased := by rw [erased_inserted, h.erased, ← erased_inserted]
  uuids table v := by
    rw [Store.inserted, Store.inserted, hasUuid_withRows, hasUuid_withRows]
    split
    · next ht =>
      simp only [List.map_append, List.mem_append, List.mem_map]
      exact Or.imp_left (ht ▸ h.uuids table v)
    · exact h.uuids table v

/-- Changing live rows in place adds no identifiers and takes none away. -/
lemma replaced (h : st.SameLive other) (table : String) (uuid : Uuid) {f : Row → Row}
    (hf : ∀ row, (f row).uuid = row.uuid) :
    (st.withRows table ((st.rows table).map fun row =>
        if isLiveWith uuid row then f row else row)).SameLive
      (other.withRows table ((other.rows table).map fun row =>
        if isLiveWith uuid row then f row else row)) where
  erased := by rw [erased_replaced, h.erased, ← erased_replaced]
  uuids t v := by
    have huuid : ((·.uuid) ∘ fun row => if isLiveWith uuid row then f row else row) =
        fun row : Row => row.uuid := by
      funext row
      simp only [Function.comp]
      split
      · exact hf row
      · rfl
    rw [hasUuid_withRows, hasUuid_withRows, List.map_map, List.map_map, huuid]
    split
    · next ht =>
      simp only [List.mem_map]
      exact ht ▸ h.uuids t v
    · exact h.uuids t v

lemma updated (h : st.SameLive other) (o : Outline) (uuid : Uuid) (record : Record)
    (now : Instant) : (st.updated o uuid record now).SameLive (other.updated o uuid record now) :=
  h.replaced o.table uuid fun _ => rfl

lemma deleted (h : st.SameLive other) (o : Outline) (uuid : Uuid) (now : Instant) :
    (st.deleted o uuid now).SameLive (other.deleted o uuid now) :=
  h.replaced o.table uuid fun _ => rfl

lemma linked (h : st.SameLive other) {owner member : Uuid}
    (hintact : st.isIntact a.table ⟨owner, member⟩ = true)
    (hintact' : other.isIntact a.table ⟨owner, member⟩ = true) :
    (st.linked a owner member).SameLive (other.linked a owner member) where
  erased := by rw [erased_linked _ hintact, h.erased, ← erased_linked _ hintact']
  uuids table v := by
    simp only [HasUuid]
    rw [linked_rows, linked_rows]
    exact h.uuids table v

lemma unlinked (h : st.SameLive other) (a : Association) (owner member : Uuid) :
    (st.unlinked a owner member).SameLive (other.unlinked a owner member) where
  erased := by rw [erased_unlinked, h.erased, ← erased_unlinked]
  uuids := h.uuids

/-- Links of members are intact after other links as they were before. -/
lemma foldl_linked (h : st.SameLive other) {owner : Uuid} {members : List Uuid}
    (hintact : ∀ v ∈ members, st.isIntact a.table ⟨owner, v⟩ = true)
    (hintact' : ∀ v ∈ members, other.isIntact a.table ⟨owner, v⟩ = true) :
    (members.foldl (·.linked a owner ·) st).SameLive
      (members.foldl (·.linked a owner ·) other) := by
  have hlinked : ∀ (st : Store) (v : Uuid), (st.linked a owner v).isIntact = st.isIntact := by
    intro st v
    rw [Store.linked]
    split <;> rfl
  induction members generalizing st other with
  | nil => exact h
  | cons v members ih =>
    refine ih (h.linked (hintact v List.mem_cons_self) (hintact' v List.mem_cons_self))
      (fun w hw => ?_) fun w hw => ?_
    · rw [hlinked]
      exact hintact w (List.mem_cons_of_mem _ hw)
    · rw [hlinked]
      exact hintact' w (List.mem_cons_of_mem _ hw)

lemma foldl_unlinked (h : st.SameLive other) (a : Association) (owner : Uuid)
    (members : List Uuid) :
    (members.foldl (·.unlinked a owner ·) st).SameLive
      (members.foldl (·.unlinked a owner ·) other) := by
  induction members generalizing st other with
  | nil => exact h
  | cons v members ih => exact ih (h.unlinked a owner v)

end SameLive

end Store

end BookingOffice
