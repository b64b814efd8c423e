import Mathlib.Data.Set.Basic
import BookingOffice.Proofs.Store.Erasure

/-!
The links of a store. What is linked to an owner is a set (`Store.linkedTo`): linking members is a
union, removing their links a difference, and neither has to do with anything else in the store.

* `Store.linkedTo_foldl_linked`, `Store.linkedTo_foldl_unlinked`: the sets afterwards;
* `Store.sameBut_foldl_linked`, `Store.sameBut_foldl_unlinked`: what else there is stays;
* `Store.foldl_linked_of_subset`, `Store.foldl_unlinked_foldl_linked`: linking what is linked does
  nothing, and linking what was not is undone by removing it;
* `Store.Joined`: no pair is linked twice, and both ends of every link have rows.
-/

namespace BookingOffice.Store

variable {st other : Store} {s : Schema} {a : Association} {owner : Uuid} {members : List Uuid}

/-- The members that are linked to an owner, be they deleted. -/
def linkedTo (st : Store) (a : Association) (owner : Uuid) : Set Uuid :=
  {v | ⟨owner, v⟩ ∈ st.links a.table}

/-- Whether a store differs from another in the links of one owner only. -/
structure SameBut (st other : Store) (a : Association) (owner : Uuid) : Prop where
  layout : other.layout = st.layout
  /-- All rows stay as they are, with the times of their last updates. -/
  rows : other.rows = st.rows
  tables : ∀ table, table ≠ a.table → other.links table = st.links table
  owners : (other.links a.table).filter (·.owner ≠ owner) =
    (st.links a.table).filter (·.owner ≠ owner)

/-- Whether two stores differ in the order of their links only, which no question can tell. -/
structure SameLinks (st other : Store) : Prop where
  layout : other.layout = st.layout
  rows : other.rows = st.rows
  links : ∀ table l, l ∈ other.links table ↔ l ∈ st.links table

namespace SameLinks

lemma refl (st : Store) : st.SameLinks st := ⟨rfl, rfl, fun _ _ => Iff.rfl⟩

lemma isLinked (h : st.SameLinks other) : other.isLinked = st.isLinked := by
  funext table owner member
  rw [Bool.eq_iff_iff, Store.isLinked, Store.isLinked, List.contains_iff_mem,
    List.contains_iff_mem, h.links]

lemma liveRows (h : st.SameLinks other) : other.liveRows = st.liveRows := by
  funext table
  rw [Store.liveRows, Store.liveRows, h.rows]

lemma fetch (h : st.SameLinks other) (q : Statement.Selection) : other.fetch q = st.fetch q := by
  cases q <;> simp only [Store.fetch, select, listing, matching, h.liveRows, h.isLinked]

lemma count (h : st.SameLinks other) (q : Statement.Count) : other.count q = st.count q := by
  cases q <;> simp only [Store.count, matching, withUuid, h.liveRows, h.rows]

/-- The order of links has no part in what a script finds. -/
lemma ask {α : Type} (h : st.SameLinks other) (script : Script α) :
    script.ask other = script.ask st := by
  induction script with
  | done result => rfl
  | fetch q next ih =>
    simp only [Script.ask, h.fetch]
    split
    · next entries _ => exact ih entries
    · rfl
  | count q next ih =>
    simp only [Script.ask, h.count]
    exact ih _
  | change _ _ => rfl
  | identifier _ => rfl

end SameLinks

/-! ### Linking and removing -/

lemma withLinks_self (st : Store) (table : String) : st.withLinks table (st.links table) = st := by
  have hlinks : (fun t => if t = table then st.links table else st.links t) = st.links := by
    funext t
    split
    · next h => rw [h]
    · rfl
  rw [withLinks, hlinks]

/-- Only the last word on the links of a table counts. -/
lemma withLinks_withLinks (st : Store) (table : String) (links links' : List Link) :
    (st.withLinks table links).withLinks table links' = st.withLinks table links' := by
  have hlinks : (fun t => if t = table then links' else (st.withLinks table links).links t) =
      fun t => if t = table then links' else st.links t := by
    funext t
    by_cases h : t = table
    · rw [if_pos h, if_pos h]
    · rw [if_neg h, if_neg h, withLinks_links_of_ne links h]
  rw [withLinks, hlinks]
  rfl

/-- Linking adds a link at the end, if it adds one. -/
lemma exists_linked_eq (st : Store) (a : Association) (owner member : Uuid) :
    ∃ added, st.linked a owner member = st.withLinks a.table (st.links a.table ++ added) ∧
      ∀ l ∈ added, l = ⟨owner, member⟩ := by
  rw [linked]
  split
  · exact ⟨[], by rw [List.append_nil, withLinks_self], List.forall_mem_nil _⟩
  · exact ⟨[⟨owner, member⟩], rfl, fun l hl => List.mem_singleton.1 hl⟩

/-- Linking adds links at the end, all of them to given members of the owner. -/
lemma exists_foldl_linked_eq (st : Store) (a : Association) (owner : Uuid) (members : List Uuid) :
    ∃ added, members.foldl (·.linked a owner ·) st =
        st.withLinks a.table (st.links a.table ++ added) ∧
      ∀ l ∈ added, l.owner = owner ∧ l.member ∈ members := by
  induction members generalizing st with
  | nil => exact ⟨[], by rw [List.append_nil, withLinks_self]; rfl, List.forall_mem_nil _⟩
  | cons v members ih =>
    obtain ⟨first, hfirst, hone⟩ := st.exists_linked_eq a owner v
    obtain ⟨rest, hrest, hall⟩ := ih (st.linked a owner v)
    refine ⟨first ++ rest, ?_, fun l hl => ?_⟩
    · rw [List.foldl_cons, hrest, hfirst, withLinks_links_self, withLinks_withLinks,
        List.append_assoc]
    · rcases List.mem_append.1 hl with hl | hl
      · rw [hone l hl]
        exact ⟨rfl, List.mem_cons_self⟩
      · exact ⟨(hall l hl).1, List.mem_cons_of_mem _ (hall l hl).2⟩

lemma mem_links_linked {l : Link} {member : Uuid} :
    l ∈ (st.linked a owner member).links a.table ↔
      l ∈ st.links a.table ∨ l = ⟨owner, member⟩ := by
  rw [linked]
  split
  · next h =>
    rw [or_iff_left_of_imp]
    rintro rfl
    exact List.contains_iff_mem.1 h
  · rw [withLinks_links_self, List.mem_append, List.mem_singleton]

lemma mem_links_foldl_linked {l : Link} :
    l ∈ (members.foldl (·.linked a owner ·) st).links a.table ↔
      l ∈ st.links a.table ∨ l.owner = owner ∧ l.member ∈ members := by
  induction members generalizing st with
  | nil => simp
  | cons v members ih =>
    have hlink : l = ⟨owner, v⟩ ↔ l.owner = owner ∧ l.member = v := by
      cases l
      rw [Link.mk.injEq]
    rw [List.foldl_cons, ih, mem_links_linked, hlink, List.mem_cons, or_assoc, ← and_or_left]

/-- Removing the links of members leaves all others. -/
lemma foldl_unlinked_eq (st : Store) (a : Association) (owner : Uuid) (members : List Uuid) :
    members.foldl (·.unlinked a owner ·) st =
      st.withLinks a.table
        ((st.links a.table).filter fun l => ¬ (l.owner = owner ∧ l.member ∈ members)) := by
  induction members generalizing st with
  | nil =>
    have hall : (st.links a.table).filter (fun l => ¬ (l.owner = owner ∧ l.member ∈ [])) =
        st.links a.table := List.filter_eq_self.2 (by simp)
    rw [hall, withLinks_self]
    rfl
  | cons v members ih =>
    rw [List.foldl_cons, ih, unlinked, withLinks_withLinks, withLinks_links_self,
      List.filter_filter]
    congr 1
    refine List.filter_congr fun l _ => ?_
    cases l
    simp only [ne_eq, Link.mk.injEq, List.mem_cons]
    grind

lemma mem_links_foldl_unlinked {l : Link} :
    l ∈ (members.foldl (·.unlinked a owner ·) st).links a.table ↔
      l ∈ st.links a.table ∧ ¬ (l.owner = owner ∧ l.member ∈ members) := by
  rw [foldl_unlinked_eq, withLinks_links_self, List.mem_filter, decide_eq_true_eq]

/-! ### Linked sets -/

/-- Linking members is the union. -/
theorem linkedTo_foldl_linked (st : Store) (a : Association) (owner : Uuid) (members : List Uuid) :
    (members.foldl (·.linked a owner ·) st).linkedTo a owner =
      st.linkedTo a owner ∪ {v | v ∈ members} := by
  ext v
  exact mem_links_foldl_linked.trans (or_congr_right (and_iff_right rfl))

/-- Removing the links of members is the difference. -/
theorem linkedTo_foldl_unlinked (st : Store) (a : Association) (owner : Uuid)
    (members : List Uuid) :
    (members.foldl (·.unlinked a owner ·) st).linkedTo a owner =
      st.linkedTo a owner \ {v | v ∈ members} := by
  ext v
  exact mem_links_foldl_unlinked.trans (and_congr_right fun _ => not_congr (and_iff_right rfl))

lemma SameBut.refl (st : Store) (a : Association) (owner : Uuid) : st.SameBut st a owner :=
  ⟨rfl, rfl, fun _ _ => rfl, rfl⟩

theorem sameBut_foldl_linked (st : Store) (a : Association) (owner : Uuid) (members : List Uuid) :
    st.SameBut (members.foldl (·.linked a owner ·) st) a owner := by
  obtain ⟨added, hadded, howner⟩ := st.exists_foldl_linked_eq a owner members
  rw [hadded]
  refine ⟨rfl, rfl, fun table h => withLinks_links_of_ne _ h, ?_⟩
  have hnone : added.filter (·.owner ≠ owner) = [] := by
    rw [List.filter_eq_nil_iff]
    intro l hl
    simp [(howner l hl).1]
  rw [withLinks_links_self, List.filter_append, hnone, List.append_nil]

theorem sameBut_foldl_unlinked (st : Store) (a : Association) (owner : Uuid)
    (members : List Uuid) : st.SameBut (members.foldl (·.unlinked a owner ·) st) a owner := by
  rw [foldl_unlinked_eq]
  refine ⟨rfl, rfl, fun table h => withLinks_links_of_ne _ h, ?_⟩
  rw [withLinks_links_self, List.filter_filter]
  refine List.filter_congr fun l _ => ?_
  by_cases h : l.owner = owner <;> simp [h]

/-- Linking members that are linked does nothing. -/
lemma foldl_linked_of_subset (h : ∀ v ∈ members, v ∈ st.linkedTo a owner) :
    members.foldl (·.linked a owner ·) st = st := by
  induction members with
  | nil => rfl
  | cons v members ih =>
    have hv : st.linked a owner v = st :=
      if_pos (List.contains_iff_mem.2 (h v List.mem_cons_self))
    rw [List.foldl_cons, hv, ih fun w hw => h w (List.mem_cons_of_mem _ hw)]

/-- Linking members again does nothing. -/
lemma foldl_linked_foldl_linked (st : Store) (a : Association) (owner : Uuid)
    (members : List Uuid) :
    members.foldl (·.linked a owner ·) (members.foldl (·.linked a owner ·) st) =
      members.foldl (·.linked a owner ·) st := by
  refine foldl_linked_of_subset fun v hv => ?_
  rw [linkedTo_foldl_linked]
  exact Or.inr hv

/-- Removing the links of the same members, in any order, leaves the same store. -/
lemma foldl_unlinked_congr {members' : List Uuid} (st : Store) (a : Association) (owner : Uuid)
    (h : ∀ v, v ∈ members ↔ v ∈ members') :
    members.foldl (·.unlinked a owner ·) st = members'.foldl (·.unlinked a owner ·) st := by
  simp only [foldl_unlinked_eq, h]

/-- Removing the links of members again does nothing. -/
lemma foldl_unlinked_foldl_unlinked (st : Store) (a : Association) (owner : Uuid)
    (members : List Uuid) :
    members.foldl (·.unlinked a owner ·) (members.foldl (·.unlinked a owner ·) st) =
      members.foldl (·.unlinked a owner ·) st := by
  rw [← List.foldl_append]
  refine foldl_unlinked_congr st a owner fun v => ?_
  rw [List.mem_append, or_self]

/-- No link to members that are not linked is found among the links. -/
lemma filter_links_of_disjoint (h : ∀ v ∈ members, v ∉ st.linkedTo a owner) :
    (st.links a.table).filter (fun l => ¬ (l.owner = owner ∧ l.member ∈ members)) =
      st.links a.table := by
  rw [List.filter_eq_self]
  rintro ⟨o, v⟩ hl
  rw [decide_eq_true_eq]
  rintro ⟨rfl, hv⟩
  exact h v hv hl

/-- Removing members that are not linked does nothing. -/
lemma foldl_unlinked_of_disjoint (h : ∀ v ∈ members, v ∉ st.linkedTo a owner) :
    members.foldl (·.unlinked a owner ·) st = st := by
  rw [foldl_unlinked_eq, filter_links_of_disjoint h, withLinks_self]

/-- Removing members that were not linked before they were added leaves the store from before. -/
theorem foldl_unlinked_foldl_linked (h : ∀ v ∈ members, v ∉ st.linkedTo a owner) :
    members.foldl (·.unlinked a owner ·) (members.foldl (·.linked a owner ·) st) = st := by
  obtain ⟨added, hadded, howner⟩ := st.exists_foldl_linked_eq a owner members
  have hnew : added.filter (fun l => ¬ (l.owner = owner ∧ l.member ∈ members)) = [] := by
    rw [List.filter_eq_nil_iff]
    intro l hl
    simp [howner l hl]
  rw [hadded, foldl_unlinked_eq, withLinks_links_self, withLinks_withLinks, List.filter_append,
    filter_links_of_disjoint h, hnew, List.append_nil, withLinks_self]

/-- Linking the same members, in any order, leaves stores that differ in that of their links. -/
lemma sameLinks_foldl_linked {members' : List Uuid} (st : Store) (a : Association) (owner : Uuid)
    (h : ∀ v, v ∈ members ↔ v ∈ members') :
    (members.foldl (·.linked a owner ·) st).SameLinks (members'.foldl (·.linked a owner ·) st) := by
  have hsame := st.sameBut_foldl_linked a owner members
  have hsame' := st.sameBut_foldl_linked a owner members'
  refine ⟨hsame'.layout.trans hsame.layout.symm, hsame'.rows.trans hsame.rows.symm, ?_⟩
  intro table l
  by_cases ht : table = a.table
  · rw [ht, mem_links_foldl_linked, mem_links_foldl_linked, h]
  · rw [hsame'.tables table ht, hsame.tables table ht]

/-! ### Both ends of links -/

/-- Whether no pair is linked twice and both ends of every link have rows, be they deleted. -/
structure Joined (st : Store) : Prop where
  once : ∀ table, (st.links table).Nodup
  ends : ∀ s ∈ Catalogue.schemas, ∀ a ∈ s.associations, ∀ l ∈ st.links a.table,
    st.HasUuid s.table l.owner ∧ st.HasUuid a.member.table l.member

lemma joined_empty : (empty .office).Joined :=
  ⟨fun _ => List.nodup_nil, fun _ _ _ _ _ hl => absurd hl List.not_mem_nil⟩

/-- Rows that are replaced in place keep their identifiers. -/
lemma hasUuid_replaced {table t : String} {uuid v : Uuid} {f : Row → Row}
    (huuid : ∀ row, (f row).uuid = row.uuid) :
    (st.withRows table ((st.rows table).map fun row =>
      if isLiveWith uuid row then f row else row)).HasUuid t v ↔ st.HasUuid t v := by
  rw [hasUuid_withRows]
  split
  · next ht =>
    have hsame : ∀ row, (if isLiveWith uuid row then f row else row).uuid = row.uuid := by
      intro row
      split
      · exact huuid row
      · rfl
    rw [ht, HasUuid, List.map_map, List.mem_map]
    simp only [Function.comp, hsame]
  · rfl

@[simp] lemma hasUuid_updated {table : String} {uuid v : Uuid} {o : Outline} {record : Record}
    {now : Instant} : (st.updated o uuid record now).HasUuid table v ↔ st.HasUuid table v :=
  hasUuid_replaced (f := (·.rewritten o record now)) fun _ => rfl

@[simp] lemma hasUuid_deleted {table : String} {uuid v : Uuid} {o : Outline} {now : Instant} :
    (st.deleted o uuid now).HasUuid table v ↔ st.HasUuid table v :=
  hasUuid_replaced (f := (·.stamped now)) fun _ => rfl

lemma HasUuid.inserted {table : String} {v : Uuid} (h : st.HasUuid table v) (o : Outline)
    (uuid : Uuid) (record : Record) (now : Instant) :
    (st.inserted o uuid record now).HasUuid table v := by
  rw [Store.inserted, hasUuid_withRows]
  split
  · next ht =>
    obtain ⟨row, hrow, rfl⟩ := h
    exact List.mem_map.2 ⟨row, List.mem_append_left _ (ht ▸ hrow), rfl⟩
  · exact h

namespace Joined

/-- Links stay joined if no row goes away. -/
lemma ofRows (h : st.Joined) (hlinks : other.links = st.links)
    (hrows : ∀ table v, st.HasUuid table v → other.HasUuid table v) : other.Joined where
  once := hlinks ▸ h.once
  ends s hs a ha l hl := by
    obtain ⟨howner, hmember⟩ := h.ends s hs a ha l (hlinks ▸ hl)
    exact ⟨hrows _ _ howner, hrows _ _ hmember⟩

/-- Linking an owner and a member that have rows keeps links joined. -/
lemma linked (h : st.Joined) (hs : s ∈ Catalogue.schemas) (ha : a ∈ s.associations)
    {member : Uuid} (howner : st.HasUuid s.table owner)
    (hmember : st.HasUuid a.member.table member) : (st.linked a owner member).Joined where
  once table := by
    rw [Store.linked]
    split
    · exact h.once table
    · next hnew =>
      by_cases ht : table = a.table
      · rw [ht, withLinks_links_self, List.nodup_append]
        refine ⟨h.once _, List.nodup_singleton _, fun l hl l' hl' he => ?_⟩
        rw [List.mem_singleton.1 hl'] at he
        exact hnew (List.contains_iff_mem.2 (he ▸ hl))
      · rw [withLinks_links_of_ne _ ht]
        exact h.once table
  ends t ht b hb l hl := by
    rw [HasUuid, HasUuid, linked_rows]
    by_cases hsame : b.table = a.table
    · rw [hsame, mem_links_linked] at hl
      obtain hl | rfl := hl
      · exact h.ends t ht b hb l (hsame ▸ hl)
      · -- a table of links has one table of owners and one of members
        have hlinkTable := ((Catalogue.fits ht).members b hb).2
        rw [hsame, ((Catalogue.fits hs).members a ha).2, Option.some.injEq,
          LinkTable.mk.injEq] at hlinkTable
        exact ⟨hlinkTable.2.1 ▸ howner, hlinkTable.2.2 ▸ hmember⟩
    · refine h.ends t ht b hb l ?_
      rw [Store.linked] at hl
      split at hl
      · exact hl
      · rwa [withLinks_links_of_ne _ hsame] at hl

lemma unlinked (h : st.Joined) (a : Association) (owner member : Uuid) :
    (st.unlinked a owner member).Joined := by
  have hsub : ∀ table, ((st.unlinked a owner member).links table).Sublist (st.links table) := by
    intro table
    by_cases ht : table = a.table
    · rw [ht, Store.unlinked, withLinks_links_self]
      exact List.filter_sublist
    · rw [Store.unlinked, withLinks_links_of_ne _ ht]
  exact ⟨fun table => (h.once table).sublist (hsub table),
    fun s hs b hb l hl => h.ends s hs b hb l ((hsub _).subset hl)⟩

end Joined

end BookingOffice.Store
