import BookingOffice.Proofs.Store.Entries
import BookingOffice.Proofs.Store.Order

/-!
Lists of rows. Rows are compared column by column, which is comparing lists of cells, so that a
sorted list of rows is in order throughout. As no two rows share an identifier and the last column
is that of identifiers, the order is strict.

* `Store.pairwise_listing`: the rows of a list are in order;
* `Store.Readable.mem_sorted_iff`: which entries are in a list;
* `Store.Readable.pairwise_sorted`: in which order they are;
* `Store.Readable.strictTotal_before`: the order of entries is strict and total;
* `Store.Readable.mem_members_iff`, `Store.Readable.pairwise_members`: the members of an owner.
-/

namespace BookingOffice

/-! ### Rows -/

namespace Store

lemma compareBy_eq_compareLex (columns : List String) (a b : Row) :
    compareBy columns a b =
      List.compareLex Cell.compare (columns.map a.cell) (columns.map b.cell) := by
  induction columns with
  | nil => rfl
  | cons c columns ih =>
    rw [List.map_cons, List.map_cons, List.compareLex_cons_cons, ← ih]
    rfl

instance (columns : List String) : Std.TransCmp (compareBy columns) where
  eq_swap := by
    intro a b
    rw [compareBy_eq_compareLex, compareBy_eq_compareLex]
    exact Std.OrientedCmp.eq_swap
  isLE_trans := by
    intro a b c hab hbc
    rw [compareBy_eq_compareLex] at hab hbc ⊢
    exact Std.TransCmp.isLE_trans hab hbc

lemma mayPrecede_iff (columns : List String) (d : Direction) (a b : Row) :
    mayPrecede columns d a b = true ↔
      d.Along (fun a b => (compareBy columns a b).isLE = true) a b := by
  have hisLE : ∀ o : Ordering, (o != .gt) = o.isLE := by decide
  cases d <;> simp only [mayPrecede, hisLE, Direction.Along]

lemma mayPrecede_trans {columns : List String} {d : Direction} (a b c : Row)
    (hab : mayPrecede columns d a b = true) (hbc : mayPrecede columns d b c = true) :
    mayPrecede columns d a c = true := by
  rw [mayPrecede_iff] at hab hbc ⊢
  cases d with
  | ascending => exact Std.TransCmp.isLE_trans hab hbc
  | descending => exact Std.TransCmp.isLE_trans hbc hab

lemma mayPrecede_total {columns : List String} {d : Direction} (a b : Row) :
    (mayPrecede columns d a b || mayPrecede columns d b a) = true := by
  rw [Bool.or_eq_true, mayPrecede_iff, mayPrecede_iff]
  have htotal : ∀ a b : Row,
      (compareBy columns a b).isLE = true ∨ (compareBy columns b a).isLE = true := by
    intro a b
    have hswap : compareBy columns b a = (compareBy columns a b).swap := Std.OrientedCmp.eq_swap
    rw [hswap]
    cases compareBy columns a b <;> decide
  cases d with
  | ascending => exact htotal a b
  | descending => exact htotal b a

/-- Rows that compare equal in the column of identifiers have the same identifier. -/
lemma uuid_eq_of_compareBy {columns : List String} (hc : "uuid" ∈ columns) {a b : Row}
    (h : compareBy columns a b = .eq) : a.uuid = b.uuid := by
  induction columns with
  | nil => cases hc
  | cons c columns ih =>
    obtain ⟨hhead, htail⟩ : (a.cell c).compare (b.cell c) = .eq ∧ compareBy columns a b = .eq :=
      Ordering.then_eq_eq.1 h
    rcases List.mem_cons.1 hc with rfl | hc
    · have hcells : (Cell.blob a.uuid).compare (.blob b.uuid) = .eq := hhead
      exact (Cell.number_inj _ _).1 (Cell.compare_eq_eq_iff.1 hcells).2.2.2
    · exact ih hc htail

lemma uuid_mem_sortColumns (sortBy : Option String) : "uuid" ∈ sortColumns sortBy := by
  simp [sortColumns]

variable {st : Store} {s : Schema} {p : Parameters}

/-- The rows of a list are in order. -/
theorem pairwise_listing (st : Store) (table : String) (p : Parameters) :
    (st.listing table p).Pairwise fun a b =>
      mayPrecede (sortColumns p.sortBy) p.direction a b = true :=
  List.pairwise_mergeSort mayPrecede_trans mayPrecede_total _

lemma mem_listing_iff {table : String} {row : Row} :
    row ∈ st.listing table p ↔
      row ∈ st.liveRows table ∧ ∀ filter ∈ p.filters, filter.admits row = true := by
  rw [listing, List.mem_mergeSort, matching, List.mem_filter, List.all_eq_true]

lemma length_listing (st : Store) (table : String) (p : Parameters) :
    (st.listing table p).length = (st.matching table p.filters).length :=
  List.length_mergeSort _

end Store

/-! ### Entries -/

namespace Entry

/-- What an entry is sorted by. -/
def sortKey (p : Parameters) (e : Entry) : List Value := p.sortKey e.record.get? e.createdAt e.uuid

/-- Whether an entry comes before another in a list. -/
def Before (p : Parameters) : Entry → Entry → Prop :=
  p.direction.Along fun e e' => Value.LexLt (e.sortKey p) (e'.sortKey p)

end Entry

namespace Row.Keeps

variable {s : Schema} {p : Parameters} {row row' : Row} {e e' : Entry}

/-- The cells that a row is sorted by keep what its entry is sorted by. -/
lemma map_cell_sortColumns (h : row.Keeps s e) (hs : s.Fits .office) (hp : p.Accepted s.fields) :
    (Store.sortColumns p.sortBy).map row.cell = (e.sortKey p).map Cell.ofValue := by
  have hcreated : row.cell "created_at" = Cell.ofValue (.timestamp e.createdAt) := h.createdAt
  have huuid : row.cell "uuid" = Cell.ofValue (.uuid e.uuid) := congrArg Cell.blob h.uuid
  rw [Store.sortColumns, Entry.sortKey, Parameters.sortKey]
  cases hsort : p.sortBy with
  | none => simp [hcreated, huuid]
  | some name =>
    obtain ⟨f, hf, rfl⟩ := hp.sortBy name hsort
    obtain ⟨v, hv, -⟩ := h.accepted.passes f hf
    simp [hv, h.cell hs hf hv, hcreated, huuid]

/-- What two entries are sorted by can be compared. -/
lemma comparable (h : row.Keeps s e) (h' : row'.Keeps s e') (hp : p.Accepted s.fields) :
    Cell.Comparable (e.sortKey p) (e'.sortKey p) := by
  have hplain : ∀ {row : Row} {e : Entry}, row.Keeps s e →
      (Value.timestamp e.createdAt).IsPlain := by
    intro row e h
    have hmod := e.createdAt.nanos_kept_mod
    rwa [h.created] at hmod
  have htail : Cell.Comparable [.timestamp e.createdAt, .uuid e.uuid]
      [.timestamp e'.createdAt, .uuid e'.uuid] :=
    .cons ⟨rfl, hplain h, hplain h'⟩ (.cons ⟨rfl, trivial, trivial⟩ .nil)
  simp only [Entry.sortKey, Parameters.sortKey]
  cases hsort : p.sortBy with
  | none => exact htail
  | some name =>
    obtain ⟨f, hf, rfl⟩ := hp.sortBy name hsort
    obtain ⟨v, hv, hpasses⟩ := h.accepted.passes f hf
    obtain ⟨v', hv', hpasses'⟩ := h'.accepted.passes f hf
    simp only [Option.bind_some, hv, hv']
    exact .cons ⟨hpasses.kind_eq.trans hpasses'.kind_eq.symm, hpasses.isPlain, hpasses'.isPlain⟩
      htail

/-- Comparing rows is comparing what their entries are sorted by. -/
lemma compareBy_eq_lt_iff (h : row.Keeps s e) (h' : row'.Keeps s e') (hs : s.Fits .office)
    (hp : p.Accepted s.fields) :
    Store.compareBy (Store.sortColumns p.sortBy) row row' = .lt ↔
      Value.LexLt (e.sortKey p) (e'.sortKey p) := by
  rw [Store.compareBy_eq_compareLex, h.map_cell_sortColumns hs hp, h'.map_cell_sortColumns hs hp,
    Cell.compareLex_ofValue_eq_lt (h.comparable h' hp)]

/-- A row passes a filter if the value of its entry does. -/
lemma admits_iff (h : row.Keeps s e) (hs : s.Fits .office) {filter : Filter}
    (hfilter : filter.Fits s.fields) :
    filter.admits row = true ↔
      ∃ v, e.record.get? filter.field = some v ∧ filter.condition.Holds v := by
  obtain ⟨f, hf, hname, hfits⟩ := hfilter
  obtain ⟨v, hv, hpasses⟩ := h.accepted.passes f hf
  rw [Filter.admits, ← hname, h.cell hs hf hv,
    Condition.admits_ofValue_iff (hpasses.kind_eq ▸ hfits) hpasses.isPlain, hv]
  simp

end Row.Keeps

namespace Store

variable {st : Store} {s : Schema} {p : Parameters}

/-- The entries in the rows of a list, in order. -/
def sorted (st : Store) (o : Outline) (p : Parameters) : List Entry :=
  (st.listing o.table p).filterMap (·.decoded? o)

namespace Readable

lemma keeps_of_mem_listing (h : st.Readable) (hs : s ∈ Catalogue.schemas) {row : Row}
    (hrow : row ∈ st.listing s.table p) : ∃ e, row.Keeps s e :=
  h.rows s hs row (mem_liveRows_iff.1 (mem_listing_iff.1 hrow).1).1

lemma forall₂_sorted (h : st.Readable) (hs : s ∈ Catalogue.schemas) (p : Parameters) :
    List.Forall₂ (fun row e => row.decoded? s.outline = some e) (st.listing s.table p)
      (st.sorted s.outline p) := by
  refine Traversal.forall₂_filterMap fun row hrow => ?_
  obtain ⟨e, he⟩ := h.keeps_of_mem_listing hs hrow
  exact ⟨e, he.decoded? (Catalogue.fits hs)⟩

lemma length_sorted (h : st.Readable) (hs : s ∈ Catalogue.schemas) (p : Parameters) :
    (st.sorted s.outline p).length = (st.matching s.table p.filters).length := by
  rw [← (h.forall₂_sorted hs p).length_eq, length_listing]

/-- The entries of a list are those that pass the filters. -/
theorem mem_sorted_iff (h : st.Readable) (hs : s ∈ Catalogue.schemas) (hp : p.Accepted s.fields)
    {e : Entry} :
    e ∈ st.sorted s.outline p ↔ e ∈ st.entries s.outline ∧ p.Selects e.record.get? := by
  rw [h.mem_entries_iff hs, sorted, List.mem_filterMap]
  constructor
  · rintro ⟨row, hrow, he⟩
    obtain ⟨hlive, hfilters⟩ := mem_listing_iff.1 hrow
    have hkeeps := h.keeps_of_decoded? hs (mem_liveRows_iff.1 hlive).1 he
    refine ⟨⟨row, hlive, hkeeps⟩, fun filter hfilter => ?_⟩
    exact (hkeeps.admits_iff (Catalogue.fits hs) (hp.filters filter hfilter)).1
      (hfilters filter hfilter)
  · rintro ⟨⟨row, hlive, hkeeps⟩, hselects⟩
    refine ⟨row, mem_listing_iff.2 ⟨hlive, fun filter hfilter => ?_⟩,
      hkeeps.decoded? (Catalogue.fits hs)⟩
    exact (hkeeps.admits_iff (Catalogue.fits hs) (hp.filters filter hfilter)).2
      (hselects filter hfilter)

/-- The order of entries is strict and total. -/
theorem strictTotal_before (h : st.Readable) (hs : s ∈ Catalogue.schemas)
    (hp : p.Accepted s.fields) : StrictTotal (· ∈ st.entries s.outline) (Entry.Before p) := by
  have hkeeps : ∀ e ∈ st.entries s.outline, ∃ row ∈ st.liveRows s.table, row.Keeps s e :=
    fun e he => (h.mem_entries_iff hs).1 he
  refine StrictTotal.along ?_ _
  refine StrictTotal.of_compare (List.compareLex Cell.compare)
    (fun e => (e.sortKey p).map Cell.ofValue) ?_ ?_
  · intro e e' he he'
    obtain ⟨row, -, hrow⟩ := hkeeps e he
    obtain ⟨row', -, hrow'⟩ := hkeeps e' he'
    exact (Cell.compareLex_ofValue_eq_lt (hrow.comparable hrow' hp)).symm
  · intro e e' he he' heq
    obtain ⟨row, -, hrow⟩ := hkeeps e he
    obtain ⟨row', -, hrow'⟩ := hkeeps e' he'
    rw [← hrow.map_cell_sortColumns (Catalogue.fits hs) hp,
      ← hrow'.map_cell_sortColumns (Catalogue.fits hs) hp, ← compareBy_eq_compareLex] at heq
    have huuid := uuid_eq_of_compareBy (uuid_mem_sortColumns _) heq
    rw [hrow.uuid, hrow'.uuid] at huuid
    exact List.inj_on_of_nodup_map (h.nodup_entries hs) he he' huuid

lemma nodup_listing (h : st.Readable) (hs : s ∈ Catalogue.schemas) (p : Parameters) :
    ((st.listing s.table p).map (·.uuid)).Nodup := by
  have hperm : ((st.listing s.table p).map (·.uuid)).Perm
      ((st.matching s.table p.filters).map (·.uuid)) := (List.mergeSort_perm _ _).map _
  exact hperm.nodup_iff.2 ((h.nodup_liveRows hs).sublist (List.filter_sublist.map _))

/-- The entries of live rows that are sorted are in order. As no two of the rows share an
identifier, none of them may stand on either side of another. -/
lemma pairwise_decoded (h : st.Readable) (hs : s ∈ Catalogue.schemas) (hp : p.Accepted s.fields)
    {rows : List Row} (hlive : ∀ row ∈ rows, row ∈ st.liveRows s.table)
    (hnodup : (rows.map (·.uuid)).Nodup)
    (hsorted : rows.Pairwise fun a b => mayPrecede (sortColumns p.sortBy) p.direction a b = true) :
    (rows.filterMap (·.decoded? s.outline)).Pairwise (Entry.Before p) := by
  have hstrict : ∀ a b : Row, a.uuid ≠ b.uuid →
      (compareBy (sortColumns p.sortBy) a b).isLE = true →
      compareBy (sortColumns p.sortBy) a b = .lt := by
    intro a b hne hle
    cases hc : compareBy (sortColumns p.sortBy) a b with
    | lt => rfl
    | eq => exact absurd (uuid_eq_of_compareBy (uuid_mem_sortColumns _) hc) hne
    | gt =>
      rw [hc] at hle
      cases hle
  refine List.pairwise_filterMap.2 ?_
  refine (hsorted.and (List.pairwise_map.1 hnodup)).imp_of_mem ?_
  rintro a b ha hb ⟨hle, hne⟩ e he e' he'
  have hkeeps := h.keeps_of_decoded? hs (mem_liveRows_iff.1 (hlive a ha)).1 he
  have hkeeps' := h.keeps_of_decoded? hs (mem_liveRows_iff.1 (hlive b hb)).1 he'
  have hlt := fun hc => (hkeeps.compareBy_eq_lt_iff hkeeps' (Catalogue.fits hs) hp).1 hc
  have hgt := fun hc => (hkeeps'.compareBy_eq_lt_iff hkeeps (Catalogue.fits hs) hp).1 hc
  rw [mayPrecede_iff] at hle
  rw [Entry.Before]
  cases hd : p.direction with
  | ascending =>
    rw [hd] at hle
    exact hlt (hstrict a b hne hle)
  | descending =>
    rw [hd] at hle
    exact hgt (hstrict b a hne.symm hle)

/-- The entries of a list are in order. -/
theorem pairwise_sorted (h : st.Readable) (hs : s ∈ Catalogue.schemas) (hp : p.Accepted s.fields) :
    (st.sorted s.outline p).Pairwise (Entry.Before p) :=
  h.pairwise_decoded hs hp (fun _ hrow => (mem_listing_iff.1 hrow).1) (h.nodup_listing hs p)
    (pairwise_listing st s.table p)

/-! ### Members -/

variable {t : Schema} {a : Association} {owner : Uuid}

/-- The members of an owner are the live entries that are linked to it. -/
lemma mem_members_iff (h : st.Readable) (ht : t ∈ Catalogue.schemas) (ha : t.outline = a.member)
    {e : Entry} :
    e ∈ st.members a owner ↔
      e ∈ st.entries t.outline ∧ st.isLinked a.table owner e.uuid = true := by
  rw [h.mem_entries_iff ht, members, ← ha, List.mem_filterMap]
  simp only [mem_select_members_iff, ← ha]
  constructor
  · rintro ⟨row, ⟨hlive, hlinked⟩, he⟩
    have hkeeps := h.keeps_of_decoded? ht (mem_liveRows_iff.1 hlive).1 he
    exact ⟨⟨row, hlive, hkeeps⟩, hkeeps.uuid ▸ hlinked⟩
  · rintro ⟨⟨row, hlive, hkeeps⟩, hlinked⟩
    exact ⟨row, ⟨hlive, hkeeps.uuid.symm ▸ hlinked⟩, hkeeps.decoded? (Catalogue.fits ht)⟩

/-- They are in the order of a list that nothing was asked of. -/
lemma pairwise_members (h : st.Readable) (ht : t ∈ Catalogue.schemas) (ha : t.outline = a.member) :
    (st.members a owner).Pairwise (Entry.Before {}) := by
  have hlive : ∀ row ∈ st.select (.members a owner), row ∈ st.liveRows t.table := by
    intro row hrow
    have hmember := (mem_select_members_iff.1 hrow).1
    rwa [← ha] at hmember
  have hnodup : ((st.select (.members a owner)).map (·.uuid)).Nodup := by
    have hperm : ((st.select (.members a owner)).map (·.uuid)).Perm _ :=
      (List.mergeSort_perm _ _).map _
    refine hperm.nodup_iff.2 ?_
    rw [← ha]
    exact (h.nodup_liveRows ht).sublist (List.filter_sublist.map _)
  have hsorted : (st.select (.members a owner)).Pairwise fun a b =>
      mayPrecede (sortColumns none) .ascending a b = true :=
    List.pairwise_mergeSort mayPrecede_trans mayPrecede_total _
  rw [members, ← ha]
  exact h.pairwise_decoded ht Parameters.accepted_default hlive hnodup hsorted

end Readable

end Store

end BookingOffice
