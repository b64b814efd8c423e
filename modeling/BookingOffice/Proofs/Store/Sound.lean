import BookingOffice.Proofs.Store.Changes

/-!
The invariant of the office. A store is sound (`Store.Sound`) if its rows can be read, no two live
rows of a table have the same value where they must not, and every live entry makes an entity.

* `Store.Sound.inserted`, `updated`, `deleted`, `linked`, `unlinked`: changes that were checked
  keep a store sound;
* `Store.sound_empty`: the store without rows is sound;
* `Store.Built`: every row makes an entity, also those that have been deleted.
-/

namespace BookingOffice

/-- Whether an entity can be made of a record. -/
def Schema.Builds (s : Schema) (record : Record) : Prop :=
  ∃ draft, s.model.ofRecord record = .ok draft

namespace Store

variable {st : Store} {s t : Schema} {uuid : Uuid} {record : Record}

/-- Whether the live rows of a schema differ where they have to. -/
def Differs (st : Store) (s : Schema) : Prop :=
  ∀ f ∈ s.fields, f.unique = true → ∀ a ∈ st.liveRows s.table, ∀ b ∈ st.liveRows s.table,
    a.cell f.name = b.cell f.name → a.uuid = b.uuid

/-- Whether the rows of the office are as the office leaves them. -/
structure Sound (st : Store) : Prop extends st.Readable where
  unique : ∀ s ∈ Catalogue.schemas, st.Differs s
  builds : ∀ s ∈ Catalogue.schemas, ∀ uuid e, st.lookup? s.outline uuid = some e → s.Builds e.record

/-- The store without rows is sound. -/
lemma sound_empty : (empty .office).Sound where
  layout := rfl
  uuids _ _ := List.nodup_nil
  rows _ _ _ hrow := absurd hrow List.not_mem_nil
  unique _ _ _ _ _ _ ha := absurd (mem_liveRows_iff.1 ha).1 List.not_mem_nil
  builds _ _ _ _ he := absurd (List.mem_of_find?_eq_some he) List.not_mem_nil

lemma differs_congr {st' : Store} (h : st'.rows s.table = st.rows s.table) :
    st'.Differs s ↔ st.Differs s := by
  simp only [Differs, liveRows]
  rw [h]

lemma differs_withRows_of_ne (hs : s ∈ Catalogue.schemas) (ht : t ∈ Catalogue.schemas) (h : t ≠ s)
    (rows : List Row) : (st.withRows s.table rows).Differs t ↔ st.Differs t :=
  differs_congr (withRows_rows_of_ne rows fun he => h (Catalogue.eq_of_table ht hs he))

/-- A live row, after live rows with an identifier have been changed in place, is an old one with
another identifier or a changed one. -/
lemma mem_liveRows_replaced {table : String} {f : Row → Row} {row : Row}
    (h : row ∈ (st.withRows table ((st.rows table).map fun row =>
      if isLiveWith uuid row then f row else row)).liveRows table) :
    (row ∈ st.liveRows table ∧ row.uuid ≠ uuid) ∨
      ∃ old, old.uuid = uuid ∧ row = f old ∧ row.isLive = true := by
  obtain ⟨hrow, hlive⟩ := mem_liveRows_iff.1 h
  rw [withRows_rows_self] at hrow
  obtain ⟨old, hold, rfl⟩ := List.mem_map.1 hrow
  by_cases hwith : isLiveWith uuid old = true
  · rw [if_pos hwith] at hlive ⊢
    exact Or.inr ⟨old, (isLiveWith_iff.1 hwith).2, rfl, hlive⟩
  · rw [if_neg hwith] at hlive ⊢
    refine Or.inl ⟨mem_liveRows_iff.2 ⟨hold, hlive⟩, fun huuid => ?_⟩
    exact hwith (isLiveWith_iff.2 ⟨hlive, huuid⟩)

namespace Sound

lemma inserted (h : st.Sound) (hs : s ∈ Catalogue.schemas) (hrecord : s.Accepts record)
    (hfresh : ¬ st.HasUuid s.table uuid) (hrepeats : ∀ name, ¬ st.Repeats s record none name)
    (hbuilds : s.Builds record.normal) (now : Instant) :
    (st.inserted s.outline uuid record now).Sound where
  toReadable := h.toReadable.inserted hs hrecord hfresh now
  unique t ht := by
    by_cases hts : t = s
    · subst hts
      intro f hf hunique a ha b hb hcell
      have hlive : ∀ {r}, r ∈ (st.inserted t.outline uuid record now).liveRows t.table →
          r ∈ st.liveRows t.table ∨ r = newRow t.outline uuid record now := by
        intro r hr
        obtain ⟨hr, hl⟩ := mem_liveRows_iff.1 hr
        change r ∈ (st.withRows t.table _).rows t.table at hr
        rw [withRows_rows_self, List.mem_append, List.mem_singleton] at hr
        exact hr.imp (fun hr => mem_liveRows_iff.2 ⟨hr, hl⟩) id
      have hnew : ∀ r ∈ st.liveRows t.table,
          r.cell f.name ≠ (newRow t.outline uuid record now).cell f.name := fun r hr =>
        Readable.differs_of_not_repeats hs rfl hrepeats hrecord hr nofun hf hunique
      rcases hlive ha with ha | rfl <;> rcases hlive hb with hb | rfl
      · exact h.unique t hs f hf hunique a ha b hb hcell
      · exact absurd hcell (hnew a ha)
      · exact absurd hcell.symm (hnew b hb)
      · rfl
    · exact (differs_withRows_of_ne hs ht hts _).2 (h.unique t ht)
  builds t ht v e he := by
    rw [h.lookup?_inserted hs hrecord hfresh now ht] at he
    split at he
    · next hc =>
      cases he
      rw [hc.1]
      exact hbuilds
    · exact h.builds t ht v e he

lemma updated (h : st.Sound) (hs : s ∈ Catalogue.schemas) (hrecord : s.Accepts record)
    (hrepeats : ∀ name, ¬ st.Repeats s record (some uuid) name)
    (hbuilds : s.Builds record.normal) (now : Instant) :
    (st.updated s.outline uuid record now).Sound where
  toReadable := h.toReadable.updated hs hrecord uuid now
  unique t ht := by
    by_cases hts : t = s
    · subst hts
      intro f hf hunique a ha b hb hcell
      -- a live row is an old one with another identifier, or an old one rewritten
      have hlive : ∀ {r}, r ∈ (st.updated t.outline uuid record now).liveRows t.table →
          (r ∈ st.liveRows t.table ∧ r.uuid ≠ uuid) ∨
            (r.uuid = uuid ∧ r.cells = cellsOf record t.outline) := by
        intro r hr
        obtain hold | ⟨old, huuid, rfl, -⟩ := mem_liveRows_replaced hr
        · exact Or.inl hold
        · exact Or.inr ⟨huuid, rfl⟩
      have hnew : ∀ {r r' : Row}, r ∈ st.liveRows t.table → r.uuid ≠ uuid →
          r'.cells = cellsOf record t.outline → r.cell f.name ≠ r'.cell f.name :=
        fun hr hne hcells => Readable.differs_of_not_repeats hs hcells hrepeats hrecord hr
          (fun he => hne (Option.some.inj he).symm) hf hunique
      rcases hlive ha with ⟨ha, hna⟩ | ⟨hua, hca⟩ <;> rcases hlive hb with ⟨hb, hnb⟩ | ⟨hub, hcb⟩
      · exact h.unique t hs f hf hunique a ha b hb hcell
      · exact absurd hcell (hnew ha hna hcb)
      · exact absurd hcell.symm (hnew hb hnb hca)
      · rw [hua, hub]
    · exact (differs_withRows_of_ne hs ht hts _).2 (h.unique t ht)
  builds t ht v e he := by
    rw [h.lookup?_updated hs hrecord uuid now ht] at he
    split at he
    · next hc =>
      obtain ⟨e', -, rfl⟩ := Option.map_eq_some_iff.1 he
      rw [hc.1]
      exact hbuilds
    · exact h.builds t ht v e he

lemma deleted (h : st.Sound) (hs : s ∈ Catalogue.schemas) (uuid : Uuid) (now : Instant) :
    (st.deleted s.outline uuid now).Sound where
  toReadable := h.toReadable.deleted hs uuid now
  unique t ht := by
    by_cases hts : t = s
    · subst hts
      have hlive : ∀ {r}, r ∈ (st.deleted t.outline uuid now).liveRows t.table →
          r ∈ st.liveRows t.table := by
        intro r hr
        obtain ⟨hold, -⟩ | ⟨old, -, rfl, hlive⟩ := mem_liveRows_replaced hr
        · exact hold
        · cases hlive
      intro f hf hunique a ha b hb hcell
      exact h.unique t hs f hf hunique a (hlive ha) b (hlive hb) hcell
    · exact (differs_withRows_of_ne hs ht hts _).2 (h.unique t ht)
  builds t ht v e he := by
    rw [h.lookup?_deleted hs uuid now ht] at he
    split at he
    · cases he
    · exact h.builds t ht v e he

/-- Links have no part in being sound. -/
lemma withLinks (h : st.Sound) (table : String) (links : List Link) :
    (st.withLinks table links).Sound where
  toReadable := h.toReadable.withLinks table links
  unique := h.unique
  builds := h.builds

lemma linked (h : st.Sound) (a : Association) (owner member : Uuid) :
    (st.linked a owner member).Sound := by
  rw [Store.linked]
  split
  · exact h
  · exact h.withLinks _ _

lemma unlinked (h : st.Sound) (a : Association) (owner member : Uuid) :
    (st.unlinked a owner member).Sound := h.withLinks _ _

end Sound

/-! ### Deleted rows -/

/-- Whether every row keeps an entry that makes an entity, be it deleted. -/
def Built (st : Store) : Prop :=
  ∀ s ∈ Catalogue.schemas, ∀ row ∈ st.rows s.table, ∃ e, row.Keeps s e ∧ s.Builds e.record

namespace Built

lemma withRows (h : st.Built) (hs : s ∈ Catalogue.schemas) {rows : List Row}
    (hrows : ∀ row ∈ rows, ∃ e, row.Keeps s e ∧ s.Builds e.record) :
    (st.withRows s.table rows).Built := by
  intro t ht
  by_cases hts : t.table = s.table
  · obtain rfl := Catalogue.eq_of_table ht hs hts
    rw [withRows_rows_self]
    exact hrows
  · rw [withRows_rows_of_ne rows hts]
    exact h t ht

lemma inserted (h : st.Built) (hs : s ∈ Catalogue.schemas) (hrecord : s.Accepts record)
    (hbuilds : s.Builds record.normal) (uuid : Uuid) (now : Instant) :
    (st.inserted s.outline uuid record now).Built := by
  refine h.withRows hs fun row hrow => ?_
  rcases List.mem_append.1 hrow with hrow | hrow
  · exact h s hs row hrow
  · rw [List.mem_singleton.1 hrow]
    exact ⟨_, Row.keeps_newRow hrecord uuid now, hbuilds⟩

lemma updated (h : st.Built) (hs : s ∈ Catalogue.schemas) (hrecord : s.Accepts record)
    (hbuilds : s.Builds record.normal) (uuid : Uuid) (now : Instant) :
    (st.updated s.outline uuid record now).Built := by
  refine h.withRows hs fun row hrow => ?_
  obtain ⟨old, hold, rfl⟩ := List.mem_map.1 hrow
  obtain ⟨e, he, hold'⟩ := h s hs old hold
  split
  · exact ⟨_, he.rewritten hrecord now, hbuilds⟩
  · exact ⟨e, he, hold'⟩

lemma deleted (h : st.Built) (hs : s ∈ Catalogue.schemas) (uuid : Uuid) (now : Instant) :
    (st.deleted s.outline uuid now).Built := by
  refine h.withRows hs fun row hrow => ?_
  obtain ⟨old, hold, rfl⟩ := List.mem_map.1 hrow
  obtain ⟨e, he, hold'⟩ := h s hs old hold
  split
  · exact ⟨e, he.stamped now, hold'⟩
  · exact ⟨e, he, hold'⟩

lemma congr {st' : Store} (h : st.Built) (hrows : st'.rows = st.rows) : st'.Built := by
  intro s hs
  rw [hrows]
  exact h s hs

end Built

end Store

end BookingOffice
