import Mathlib.Algebra.Order.Floor.Div
import BookingOffice.Proofs.Office.Listing

/-!
Pages. All pages of a query are cut from one list, which is that of everything that matches. The
position of a page is computed in words of 64 bits and passed to storage as a word with a sign, so
what lies past the greatest such word is out of reach; but no table has that many rows.

* `Office.Countable`: whether the rows of every table can be counted in words of storage;
* `Office.countable_after`: they can after as many operations as such words count;
* `Office.Paged`: what the pages of a query have to be;
* `Parameters.toInt_offset_turned`: where the words for the position of a page stop;
* `Office.Reachable.paged`: the pages are the parts of one list in every state that is reached.
-/

namespace BookingOffice

/-! ### Numbers of rows -/

/-- What matches filters is no more than the rows of the table. -/
lemma Store.length_matching_le (st : Store) (table : String) (filters : List Filter) :
    (st.matching table filters).length ≤ (st.rows table).length :=
  (List.length_filter_le _ _).trans (List.length_filter_le _ _)

namespace Office

variable {env : Surroundings} {office : Office}

/-- Whether the number of rows of each table is a word of storage, which has 64 bits and a sign.
Storage gives every row of a table such a number, so that it cannot keep more. -/
def Countable (office : Office) : Prop :=
  ∀ table, (office.desk.store.rows table).length ≤ Statement.maxLimit

/-- An operation adds one row at most. -/
lemma Sound.length_rows_perform_le (h : office.Sound) (env : Surroundings) {op : Operation}
    (hop : op.Served) (table : String) :
    ((op.perform env office).2.desk.store.rows table).length ≤
      (office.desk.store.rows table).length + 1 := by
  -- rows that are not written stay, and so does the number of those that are
  have hwith : ∀ (st : Store) (t : String) (rows : List Row),
      rows.length ≤ (st.rows t).length + 1 →
      ((st.withRows t rows).rows table).length ≤ (st.rows table).length + 1 := by
    intro st t rows hrows
    by_cases ht : table = t
    · rw [ht, Store.withRows_rows_self]
      exact hrows
    · rw [Store.withRows_rows_of_ne rows ht]
      exact Nat.le_succ _
  have heffect := h.effect env hop
  generalize (op.perform env office).1 = result at heffect
  generalize (op.perform env office).2.desk.store = st at heffect ⊢
  cases heffect with
  | refused _ => exact Nat.le_succ _
  | got _ => exact Nat.le_succ _
  | listed _ => exact Nat.le_succ _
  | created _ _ _ _ => exact hwith _ _ _ (List.length_append.trans_le (Nat.le_refl _))
  | updated _ _ _ _ => exact hwith _ _ _ ((List.length_map _).trans_le (Nat.le_succ _))
  | deleted _ => exact hwith _ _ _ ((List.length_map _).trans_le (Nat.le_succ _))
  | linked _ _ =>
    rw [Store.foldl_linked_rows]
    exact Nat.le_succ _
  | unlinked =>
    rw [Store.foldl_unlinked_rows]
    exact Nat.le_succ _

/-- A run adds as many rows as it has operations at most. -/
theorem Sound.length_rows_after_le (h : office.Sound) {ops : List Operation}
    (hops : ∀ op ∈ ops, op.Served) (table : String) :
    ((office.after env ops).desk.store.rows table).length ≤
      (office.desk.store.rows table).length + ops.length := by
  induction ops generalizing office with
  | nil => exact Nat.le_refl _
  | cons op ops ih =>
    have hop := hops op List.mem_cons_self
    have hstep := h.length_rows_perform_le env hop table
    have hsound : (op.perform env office).2.Sound := h.perform hop
    have hrest := ih hsound fun op' hop' => hops op' (List.mem_cons_of_mem _ hop')
    rw [List.length_cons]
    exact hrest.trans (by omega)

/-- From an empty database, rows stay countable for as many operations as words count. -/
lemma countable_after (env : Surroundings) {ops : List Operation} (hops : ∀ op ∈ ops, op.Served)
    (hlength : ops.length ≤ Statement.maxLimit) :
    ((ofLayout .office).after env ops).Countable := by
  intro table
  have hstart : Reachable env (ofLayout .office) := .start
  exact (hstart.sound.length_rows_after_le hops table).trans ((Nat.zero_add _).trans_le hlength)

end Office

/-! ### Pages -/

namespace Parameters

variable {p : Parameters} {page perPage : Nat}

/-- The same query for another page, with another size. -/
def turned (p : Parameters) (page perPage : Nat) : Parameters :=
  { p with page := page, perPage := perPage }

lemma Accepted.turned {fields : List Field} (h : p.Accepted fields) (hpage : 1 ≤ page)
    (hpos : 1 ≤ perPage) (hle : perPage ≤ Setting.maxPerPage) :
    (p.turned page perPage).Accepted fields :=
  ⟨h.filters, h.sortBy, hpage, hpos, hle⟩

end Parameters

namespace Office

variable {env : Surroundings} {office : Office} {s : Schema} {p : Parameters}

/-- What it means that the pages of a query, all of one size, are the parts of one list. Pages are
counted from one, in words of 64 bits. -/
structure Paged (env : Surroundings) (office : Office) (s : Schema) (p : Parameters) (perPage : Nat)
    (all : List (Stored (Draft s.fields))) (number : Nat)
    (entities : Nat → List (Stored (Draft s.fields))) : Prop where
  /-- The list is of all the entities that match, in the order of the query. -/
  sorted : office.IsSorted env s p all
  /-- They are those of the live rows that match, in the order of the listing without pages. -/
  rows : all.map (·.uuid) = (office.desk.store.listing s.table p).map (·.uuid)
  /-- No two of them are of one row. -/
  once : (all.map (·.uuid)).Nodup
  /-- Each page is answered with its entities, and all with the same totals. -/
  answer : ∀ page, 1 ≤ page → page < 2 ^ 64 →
    (office.list env s.model (p.turned page perPage)).1 =
      pure (entities page, ⟨page, perPage, all.length, number⟩)
  /-- There are no more pages than it takes. -/
  least : ∀ n, all.length ≤ n * perPage ↔ number ≤ n
  /-- A page holds the entities from its position on. -/
  position : ∀ page, entities page = (all.drop ((page - 1) * perPage)).take perPage
  /-- All pages but the last are full. -/
  full : ∀ page, 1 ≤ page → page < number → (entities page).length = perPage
  /-- The last page holds the rest, which is something. -/
  last : 0 < all.length → 0 < (entities number).length ∧
    (number - 1) * perPage + (entities number).length = all.length
  /-- Past the last page there is nothing. -/
  past : ∀ page, number < page → entities page = []
  /-- The pages one after another are the list. -/
  whole : (List.range number).flatMap (fun i => entities (i + 1)) = all
  /-- The position of a page, computed in words, is the one that goes into the statement. It is that
  of the page, or past the end of the list. -/
  words : ∀ page, 1 ≤ page → page < 2 ^ 64 →
    let offset := Word.toSigned
      (Word.saturatingMul (Word.saturatingSub (.ofNat page) 1) (.ofNat perPage))
    offset.toInt = Statement.pageOffset (p.turned page perPage) ∧
      (offset.toInt = ((page - 1) * perPage : Nat) ∨ all.length ≤ offset.toInt)
  /-- The number of pages, computed in words, is that number. -/
  division : all.length < 2 ^ 64 ∧
    (Word.divCeil (.ofNat all.length) (.ofNat perPage)).toNat = number

/-- Pages up to the last one have numbers that are words. -/
lemma Paged.succ_lt {perPage number : Nat} {all : List (Stored (Draft s.fields))}
    {entities : Nat → List (Stored (Draft s.fields))}
    (h : office.Paged env s p perPage all number entities) (hpos : 1 ≤ perPage) {i : Nat}
    (hi : i < number) : i + 1 < 2 ^ 64 := by
  have hnumber : number ≤ all.length := (h.least all.length).1 (Nat.le_mul_of_pos_right _ hpos)
  exact (Nat.succ_le_of_lt hi).trans_lt (hnumber.trans_lt h.division.1)

/-- The list that is cut into pages holds one entity for each row that matches. -/
lemma Sound.map_uuid_sorted (h : office.Sound) (hs : s ∈ Catalogue.schemas)
    {all : List (Stored (Draft s.fields))}
    (hall : List.Forall₂ (ShownOf office.desk.store s) (office.desk.store.sorted s.outline p) all) :
    all.map (·.uuid) = (office.desk.store.listing s.table p).map (·.uuid) := by
  have hread := h.store.toReadable
  have hshown : (office.desk.store.sorted s.outline p).map (·.uuid) = all.map (·.uuid) :=
    Traversal.map_eq_of_forall₂ hall fun hshown => (hshown.eq hread hs).1.symm
  have hrows : (office.desk.store.listing s.table p).map (·.uuid) =
      (office.desk.store.sorted s.outline p).map (·.uuid) :=
    Traversal.map_eq_of_forall₂ (hread.forall₂_sorted hs p) fun he =>
      (Row.uuid_of_decoded? he).symm
  exact (hrows.trans hshown).symm

/-- The list that is cut into pages is no longer than storage counts. -/
lemma Countable.length_le (h : office.Countable) {all : List (Stored (Draft s.fields))}
    (hrows : all.map (·.uuid) = (office.desk.store.listing s.table p).map (·.uuid)) :
    all.length ≤ Statement.maxLimit := by
  have hlength : all.length = (office.desk.store.matching s.table p.filters).length := by
    simpa [Store.length_listing] using congrArg List.length hrows
  rw [hlength]
  exact (Store.length_matching_le ..).trans (h s.table)

end Office

namespace Parameters

variable {p : Parameters} {page perPage : Nat}

/-- A page says of itself and of the list what was asked for and how many pages it takes. -/
lemma ofTotal_turned (hpos : 1 ≤ perPage) (total : Nat) :
    PageInfo.ofTotal (p.turned page perPage) total =
      ⟨page, perPage, total, (total + perPage - 1) / perPage⟩ := by
  have hne : (p.turned page perPage).perPage ≠ 0 := Nat.pos_iff_ne_zero.1 hpos
  rw [PageInfo.ofTotal, if_neg hne]
  rfl

/-- The number of pages is the least one with room for everything. -/
lemma total_le_mul_iff (hpos : 1 ≤ perPage) (total n : Nat) :
    total ≤ n * perPage ↔ (total + perPage - 1) / perPage ≤ n := by
  rw [← Nat.ceilDiv_eq_add_pred_div, ceilDiv_le_iff_le_mul hpos, Nat.mul_comm]

/-- The position of a page in words is that of the page, or past everything that can be counted. -/
lemma toInt_offset_turned (p : Parameters) (hpage : page < 2 ^ 64) (hsize : perPage < 2 ^ 64)
    {total : Nat} (htotal : total ≤ Statement.maxLimit) :
    let offset := Word.toSigned
      (Word.saturatingMul (Word.saturatingSub (.ofNat page) 1) (.ofNat perPage))
    offset.toInt = Statement.pageOffset (p.turned page perPage) ∧
      (offset.toInt = ((page - 1) * perPage : Nat) ∨ total ≤ offset.toInt) := by
  have hoffset := Parameters.pageOffset_eq_words (p.turned page perPage)
    (UInt64.toNat_ofNat_of_lt' hpage).symm (UInt64.toNat_ofNat_of_lt' hsize).symm
  have hcut : Statement.pageOffset (p.turned page perPage) =
      min ((page - 1) * perPage) Statement.maxLimit := Statement.pageOffset_eq _
  refine ⟨hoffset.symm, ?_⟩
  rw [← hoffset, hcut]
  omega

end Parameters

namespace Office

variable {env : Surroundings} {office : Office} {s : Schema} {p : Parameters}

/-- The pages of a query are the parts of one list. -/
theorem Sound.exists_paged (h : office.Sound) (hs : s ∈ Catalogue.schemas)
    (hp : p.Accepted s.fields) {perPage : Nat} (hpos : 1 ≤ perPage)
    (hle : perPage ≤ Setting.maxPerPage) (hcount : office.Countable) :
    ∃ all number entities, office.Paged env s p perPage all number entities := by
  obtain ⟨all, hall⟩ := h.exists_sorted hs hp
  have hrows := h.map_uuid_sorted hs hall
  have hlimit : all.length ≤ Statement.maxLimit := hcount.length_le hrows
  have hword : all.length < 2 ^ 64 := hlimit.trans_lt (by decide)
  have hsize : perPage < 2 ^ 64 := hle.trans_lt (by decide)
  obtain ⟨number, hnumber⟩ : ∃ n, n = (all.length + perPage - 1) / perPage := ⟨_, rfl⟩
  have hleast : ∀ n, all.length ≤ n * perPage ↔ number ≤ n := fun n =>
    hnumber ▸ Parameters.total_le_mul_iff hpos all.length n
  have hlt : ∀ n, n * perPage < all.length ↔ n < number := by
    intro n
    rw [← Nat.not_le, ← Nat.not_le, hleast]
  refine ⟨all, number, fun page => (all.drop ((page - 1) * perPage)).take perPage, ?_⟩
  exact {
    sorted := h.isSorted hs hp hall
    rows := hrows
    once := by
      rw [hrows]
      exact h.store.toReadable.nodup_listing hs p
    answer := by
      intro page hpage _
      have hturned := hp.turned hpage hpos hle
      have hlist : (office.list env s.model (p.turned page perPage)).1 = _ :=
        h.list_eq_part hs hturned hall
      rw [Traversal.drop_min hlimit, Parameters.ofTotal_turned hpos, ← hnumber] at hlist
      exact hlist
    least := hleast
    position := fun _ => rfl
    full := by
      intro page hpage hbefore
      refine Traversal.length_piece all ?_
      rw [Nat.sub_add_cancel hpage]
      exact ((hlt page).2 hbefore).le
    last := by
      intro htotal
      have hsome : 0 < number := by
        rw [← hlt, Nat.zero_mul]
        exact htotal
      refine Traversal.length_last_piece all ((hlt _).2 (Nat.sub_one_lt_of_lt hsome)) ?_
      rw [Nat.sub_add_cancel hsome]
      exact (hleast number).2 (Nat.le_refl _)
    past := fun page hpage =>
      Traversal.piece_eq_nil all ((hleast _).2 (Nat.le_sub_one_of_lt hpage))
    whole := by
      have hpieces := Traversal.flatMap_pieces all perPage number
      rw [List.take_of_length_le ((hleast number).2 (Nat.le_refl _))] at hpieces
      exact hpieces
    words := fun page _ hpage => Parameters.toInt_offset_turned p hpage hsize hlimit
    division := ⟨hword, hnumber ▸ Word.toNat_divCeil_ofNat hword hsize hpos⟩ }

/-- In every state that the office gets into, the pages of a query are the parts of one list, for
all filters and orders that a query can set and all sizes of pages. -/
theorem Reachable.paged (h : Reachable env office) (hs : s ∈ Catalogue.schemas)
    {pairs : List (String × String)} (hpairs : Parameters.ofPairs s.fields pairs = pure p)
    {perPage : Nat} (hpos : 1 ≤ perPage) (hle : perPage ≤ Setting.maxPerPage)
    (hcount : office.Countable) :
    ∃ all number entities, office.Paged env s p perPage all number entities :=
  h.sound.exists_paged hs (Parameters.accepted_of_ofPairs hpairs) hpos hle hcount

/-- Three countries fill a page of two and begin another one. -/
theorem paged_three_countries :
    let france := .cons (.filled "France") (.cons (.filled "FR") .nil)
    let iceland := .cons (.filled "Iceland") (.cons (.filled "IS") .nil)
    let peru := .cons (.filled "Peru") (.cons (.filled "PE") .nil)
    let ops : List Operation := [.create Catalogue.country none france,
      .create Catalogue.country none peru, .create Catalogue.country none iceland]
    let office := (ofLayout .office).after .counting ops
    let pairs := [("sort_by", "name"), ("sort_direction", "desc")]
    let p : Parameters := { sortBy := some "name", direction := .descending }
    Reachable .counting office ∧ Catalogue.country ∈ Catalogue.schemas ∧
      Parameters.ofPairs Catalogue.country.fields pairs = pure p ∧ office.Countable ∧
      (office.desk.store.matching "countries" p.filters).length = 3 ∧
      ∃ all number entities, office.Paged .counting Catalogue.country p 2 all number entities := by
  intro france iceland peru ops office pairs p
  have hcountry : Catalogue.country ∈ Catalogue.schemas := List.mem_cons_self
  have hops : ∀ op ∈ ops, op.Served := by simp [ops, Operation.Served, hcountry]
  have hoffice : Reachable .counting office := Reachable.start.after hops
  have hpairs : Parameters.ofPairs Catalogue.country.fields pairs = pure p := rfl
  have hlength : ops.length ≤ Statement.maxLimit := by
    change 3 ≤ 2 ^ 63 - 1
    omega
  have hcount : office.Countable := countable_after .counting hops hlength
  exact ⟨hoffice, hcountry, hpairs, hcount, by decide +kernel,
    Reachable.paged hoffice hcountry hpairs (by decide) (by decide) hcount⟩

end Office

end BookingOffice
