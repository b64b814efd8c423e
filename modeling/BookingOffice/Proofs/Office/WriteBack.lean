import BookingOffice.Proofs.Office.Detail

/-!
Writing back what was read. The detail of an entity is a payload for the entity itself: what it has
besides the fields does not matter to the checks, and the fields are checked to the values that the
row keeps. An update with that payload conflicts with no other row, and all that it leaves behind is
the time of the update. What the entity is related to stays as it is, as it is never related to
entities of its own type.

* `Schema.validate_detail`: the detail of an entry is checked to its record;
* `Store.touched`: the store in which a row has another time of its last update;
* `Store.Readable.updated_self`: that is all that is left of an update with the same record;
* `Store.related_touched`: what an entry is related to is the same then;
* `Office.Sound.ofPayload_detail`: the detail of an entity is read as the entity;
* `Office.Sound.update_self`: an update with the same contents;
* `Office.Renewed`: what it means that nothing but the time of an update has changed;
* `Office.Sound.renewed`: nothing else has, after such an update.
-/

namespace BookingOffice

variable {s : Schema} {e : Entry} {uuid : Uuid}

/-! ### Payloads -/

/-- The detail of an entry, with whatever it is related to, is checked to its record. -/
lemma Schema.validate_detail (hs : s ∈ Catalogue.schemas) {related : Dictionary Json}
    (hrelated : related.keys.Perm s.relationNames) (hrecord : s.Accepts e.record)
    {draft : Draft s.fields} (hdraft : s.model.ofRecord e.record = .ok draft) :
    s.validate (e.detailWith related) = pure e.record := by
  have hfits := Catalogue.fits hs
  refine validate_object_of_ofRecord hfits.names hfits.times hrecord hdraft fun f _ v hv => ?_
  have hmember : (f.name, v.toJson) ∈ e.membersWith related :=
    List.mem_append_left _ (List.mem_append_left _
      (List.mem_map.2 ⟨(f.name, v), Dictionary.mem_entries_iff.2 hv, rfl⟩))
  exact Entry.get?_detailWith (hrecord.keys_perm hfits.names) hrelated
    (Catalogue.nodup_detailNames hs) hmember

/-! ### Rows -/

namespace Catalogue

/-- No entity refers to entities of its own type. -/
lemma references_table_ne (hs : s ∈ schemas) {f : Field} (hf : f ∈ s.fields) {o : Outline}
    (ho : f.references = some o) : o.table ≠ s.table :=
  (by decide : ∀ s ∈ schemas, ∀ f ∈ s.fields, ∀ o ∈ f.references, o.table ≠ s.table)
    s hs f hf o ho

/-- No entity has members of its own type. -/
lemma members_table_ne (hs : s ∈ schemas) {a : Association} (ha : a ∈ s.associations) :
    a.member.table ≠ s.table :=
  (by decide : ∀ s ∈ schemas, ∀ a ∈ s.associations, a.member.table ≠ s.table) s hs a ha

end Catalogue

/-- The row with another time of its last update. -/
def Row.touched (row : Row) (now : Instant) : Row := { row with updatedAt := .integer now.micros }

/-- Rewriting a row with the record that it keeps changes nothing else. -/
lemma Row.Keeps.rewritten_self {row : Row} (h : row.Keeps s e) (now : Instant) :
    row.rewritten s.outline e.record now = row.touched now := by
  rw [Row.rewritten, ← h.cells]
  rfl

namespace Store

variable {st : Store}

/-- The store in which the live row with an identifier has another time of its last update. -/
def touched (st : Store) (table : String) (uuid : Uuid) (now : Instant) : Store :=
  st.withRows table ((st.rows table).map fun row =>
    if isLiveWith uuid row then row.touched now else row)

lemma touched_rows_of_ne {table table' : String} (h : table' ≠ table) (uuid : Uuid)
    (now : Instant) : (st.touched table uuid now).rows table' = st.rows table' :=
  withRows_rows_of_ne _ h

/-- Of several such times the last one counts. -/
lemma touched_touched (st : Store) (table : String) (uuid : Uuid) (now later : Instant) :
    (st.touched table uuid now).touched table uuid later = st.touched table uuid later := by
  have hrows : (st.touched table uuid now).rows table =
      (st.rows table).map fun row => if isLiveWith uuid row then row.touched now else row :=
    withRows_rows_self ..
  have htable (rows rows' : List Row) :
      (st.withRows table rows).withRows table rows' = st.withRows table rows' := by
    simp only [withRows, Store.mk.injEq, true_and, and_true]
    funext table'
    split <;> rfl
  rw [touched, hrows, List.map_map, touched, htable, touched]
  refine congrArg (st.withRows table) (List.map_congr_left fun row _ => ?_)
  by_cases hlive : isLiveWith uuid row
  · have hlive' : isLiveWith uuid (row.touched now) := hlive
    simp only [Function.comp, if_pos hlive, if_pos hlive']
    rfl
  · simp only [Function.comp, if_neg hlive]

/-- What storage keeps of a time is what it keeps of it. -/
lemma touched_kept (st : Store) (table : String) (uuid : Uuid) (now : Instant) :
    st.touched table uuid now.kept = st.touched table uuid now := by
  simp only [touched, Row.touched, Instant.micros_kept]

/-- All that is left of an update with the same record is its time. -/
lemma Readable.updated_self (h : st.Readable) (hs : s ∈ Catalogue.schemas)
    (he : st.lookup? s.outline uuid = some e) (now : Instant) :
    st.updated s.outline uuid e.record now = st.touched s.table uuid now := by
  refine congrArg (st.withRows s.table) (List.map_congr_left fun row hrow => ?_)
  by_cases hlive : isLiveWith uuid row
  · obtain ⟨hislive, huuid⟩ := isLiveWith_iff.1 hlive
    obtain ⟨e', hkeeps⟩ := h.rows s hs row hrow
    have he' : st.lookup? s.outline uuid = some e' := by
      refine (h.lookup?_eq_some_iff hs).2 ⟨?_, hkeeps.uuid.symm.trans huuid⟩
      exact (h.mem_entries_iff hs).2 ⟨row, mem_liveRows_iff.2 ⟨hrow, hislive⟩, hkeeps⟩
    obtain rfl : e = e' := Option.some.inj (he.symm.trans he')
    rw [if_pos hlive, if_pos hlive, hkeeps.rewritten_self]
  · rw [if_neg hlive, if_neg hlive]

/-- Another time of its last update does not change what an entry is related to. -/
lemma related_touched (hs : s ∈ Catalogue.schemas) (uuid : Uuid) (now time : Instant) :
    (st.touched s.table uuid now).related s { e with updatedAt := time } = st.related s e := by
  have hreferred : ∀ f ∈ s.fields, ∀ o, f.references = some o → ∀ value,
      (st.touched s.table uuid now).referred o value = st.referred o value := by
    intro f hf o ho value
    have hrows : (st.touched s.table uuid now).rows o.table = st.rows o.table :=
      touched_rows_of_ne (Catalogue.references_table_ne hs hf ho) uuid now
    simp only [referred, lookup?_congr hrows]
  have hmembers : ∀ a ∈ s.associations,
      (st.touched s.table uuid now).members a e.uuid = st.members a e.uuid := by
    intro a ha
    have hrows : (st.touched s.table uuid now).rows a.member.table = st.rows a.member.table :=
      touched_rows_of_ne (Catalogue.members_table_ne hs ha) uuid now
    simp only [members, select, liveRows, hrows]
    rfl
  rw [related, related]
  congr 2
  · refine List.map_congr_left ?_
    rintro ⟨f, o⟩ hp
    obtain ⟨g, hg, hgo⟩ := List.mem_filterMap.1 hp
    obtain ⟨o', ho', heq⟩ := Option.map_eq_some_iff.1 hgo
    obtain ⟨rfl, rfl⟩ := Prod.mk.inj heq
    exact congrArg (Prod.mk g.relationName) (hreferred g hg o' ho' _)
  · refine List.map_congr_left fun a ha => ?_
    exact congrArg (fun members => (a.name, Json.array (members.map Entry.detail))) (hmembers a ha)

/-- No other live row has a value of a live row in a field that has to differ. -/
lemma Sound.not_repeats_self (h : st.Sound) (hs : s ∈ Catalogue.schemas)
    (he : st.lookup? s.outline uuid = some e) (name : String) :
    ¬ st.Repeats s e.record (some uuid) name := by
  rintro ⟨f, hf, rfl, hunique, v, hv, other, hother, hcell, hne⟩
  obtain ⟨hmem, rfl⟩ := (h.lookup?_eq_some_iff hs).1 he
  obtain ⟨row, hrow, hkeeps⟩ := (h.mem_entries_iff hs).1 hmem
  have hsame : other.cell f.name = row.cell f.name :=
    hcell.trans (hkeeps.cell (Catalogue.fits hs) hf hv).symm
  have huuid : other.uuid = row.uuid := h.unique s hs f hf hunique other hother row hrow hsame
  exact hne (congrArg some (hkeeps.uuid.symm.trans huuid.symm))

end Store

/-! ### Updates -/

namespace Office

variable {env : Surroundings} {office : Office} {stored : Stored (Draft s.fields)}

/-- The office after another time of the last update of an entity, for which the clock was read. -/
def touched (env : Surroundings) (office : Office) (table : String) (uuid : Uuid) : Office where
  desk := office.desk.withStore
    (office.desk.store.touched table uuid (env.clock office.readings))
  isOpen := office.isOpen
  readings := office.readings + 1

/-- The detail of an entity that the office shows is read as that entity. -/
theorem Sound.ofPayload_detail (h : office.Sound) (hs : s ∈ Catalogue.schemas)
    (hshows : office.Shows env s stored) {detail : Json}
    (hdetail : stored.detail s.model = .ok detail) :
    s.model.ofPayload detail = pure stored.entity := by
  have hread := h.store.toReadable
  obtain ⟨e, hshown⟩ := (h.shows_iff hs).1 hshows
  obtain rfl : e.detailWith (office.desk.store.related s e) = detail :=
    Except.ok.inj ((hshown.detail hread hs).symm.trans hdetail)
  obtain ⟨-, entity, hbuilds, rfl⟩ := hshown.exists_eq hread hs
  have hrelated : (office.desk.store.related s e).keys.Perm s.relationNames :=
    Store.keys_related_perm hs
  have hvalidate := Schema.validate_detail hs hrelated (hshown.accepts hread hs) hbuilds
  rw [Model.ofPayload, Schema.model_schema, hvalidate, pure_bind, hbuilds]
  rfl

/-- An update of an entity with its own contents succeeds. It leaves the time of the update behind,
and nothing else. -/
theorem Sound.update_self (h : office.Sound) (hs : s ∈ Catalogue.schemas)
    (hshows : office.Shows env s stored) :
    office.update env s.model stored.uuid stored.entity =
      (pure { stored with updatedAt := (env.clock office.readings).kept },
        office.touched env s.table stored.uuid) := by
  have hread := h.store.toReadable
  obtain ⟨e, hshown⟩ := (h.shows_iff hs).1 hshows
  obtain ⟨hlookup, entity, hbuilds, rfl⟩ := hshown.exists_eq hread hs
  obtain ⟨row, -, hkeeps⟩ := (hread.mem_entries_iff hs).1 hshown.mem
  have hfits := Catalogue.fits hs
  have haccepts := hshown.accepts hread hs
  have hrecord := Schema.toRecord_of_ofRecord hfits.names hfits.times haccepts hbuilds
  generalize hnow : env.clock office.readings = now
  have hself := hread.updated_self hs hlookup now
  -- what is got afterwards is the entry with the new time and the same relations
  have hentry : e.rewritten e.record now = { e with updatedAt := now.kept } := by
    rw [Entry.rewritten, hkeeps.normal]
  have hlookup' : (office.desk.store.touched s.table e.uuid now).lookup? s.outline e.uuid =
      some { e with updatedAt := now.kept } := by
    rw [← hself, hread.lookup?_updated hs haccepts e.uuid now hs, if_pos ⟨rfl, rfl⟩, hlookup,
      Option.map_some, hentry]
  have hget : (Procedure.get s.model e.uuid).ask (office.desk.store.touched s.table e.uuid now) =
      pure ⟨e.uuid, e.createdAt, now.kept, entity, office.desk.store.related s e⟩ := by
    refine (Procedure.ask_get_eq_pure_iff (hself ▸ hread.updated hs haccepts e.uuid now) hs).2
      ⟨_, entity, hlookup', hbuilds, ?_⟩
    rw [Store.related_touched hs]
  have hrun := Procedure.run_update_of_admitted env.identifiers hread hs hrecord
    (Option.isSome_iff_exists.2 ⟨e, hlookup⟩) (h.store.not_repeats_self hs hlookup) now
  rw [hself, hget] at hrun
  subst hnow
  exact transact_of_run_eq_pure (h.readClock env).isOpen hrun

/-- Getting an entity that the office shows leaves the office alone. -/
lemma Sound.get_eq (h : office.Sound) (hshows : office.Shows env s stored) :
    office.get env s.model stored.uuid = (pure stored, office) := by
  have hrun := (Procedure.isQuery_get s.model stored.uuid).run_eq env.identifiers office.desk
  rw [(get_eq_pure_iff h).1 hshows] at hrun
  exact transact_of_run_eq_pure h.isOpen hrun

/-- Whether an office is as it was, but for the time of the last update of an entity. -/
structure Renewed (env : Surroundings) (s : Schema) (uuid : Uuid) (now : Instant)
    (office after : Office) : Prop where
  /-- Of all rows and links one cell of the live row has changed. -/
  store : after.desk.store = office.desk.store.touched s.table uuid now
  isOpen : after.isOpen = office.isOpen
  /-- The entity is the same, and is related to the same. -/
  shows : ∀ stored, office.Shows env s stored → stored.uuid = uuid →
    after.Shows env s { stored with updatedAt := now }

lemma Renewed.trans {middle after : Office} {now later : Instant}
    (h : Renewed env s uuid now office middle) (h' : Renewed env s uuid later middle after) :
    Renewed env s uuid later office after where
  store := by rw [h'.store, h.store, Store.touched_touched]
  isOpen := h'.isOpen.trans h.isOpen
  shows stored hshows huuid :=
    h'.shows { stored with updatedAt := now } (h.shows stored hshows huuid) huuid

/-- After an update of an entity with its own contents the office is as it was, but for its time, as
storage keeps it. -/
theorem Sound.renewed (h : office.Sound) (hs : s ∈ Catalogue.schemas)
    (hshows : office.Shows env s stored) :
    (office.touched env s.table stored.uuid).Sound ∧
      Renewed env s stored.uuid (env.clock office.readings).kept office
        (office.touched env s.table stored.uuid) := by
  let op : Operation := .update s stored.uuid stored.entity
  have hupdate : op.perform env office = _ := h.update_self hs hshows
  have hop : op.Served := hs
  have hsound : (op.perform env office).2.Sound := h.perform hop
  have hanswer := congrArg Prod.fst hupdate
  have hshown := h.shows_entities hop hanswer _ List.mem_cons_self
  rw [hupdate] at hsound hshown
  refine ⟨hsound, (Store.touched_kept ..).symm, rfl, fun other hother huuid => ?_⟩
  obtain rfl : other = stored := by
    rw [Shows, huuid] at hother
    exact Attempt.pure_injective (hother.symm.trans hshows)
  exact hshown

end Office

end BookingOffice
