import BookingOffice.Proofs.Office.Operation
import BookingOffice.Proofs.Procedure.Listing

/-!
The office as a map that remembers the last write. A run leaves a chronicle of the entities that
were created, updated and deleted (`Office.chronicle`); what the office answers afterwards is
determined by the chronicle alone.

* `Chronicle.version?`: what the chronicle says an identifier stands for, one event after another;
* `Chronicle.version?_isSome_iff`, `Chronicle.exists_creation`, `Chronicle.exists_lastWrite`: that
  is, what was created and not deleted since, with what was last written;
* `Store.Follows`: the relation of a store to a chronicle, kept by every operation
  (`Store.Follows.perform`);
* `Office.recorded_after`: what can be got and listed after a run.
-/

namespace BookingOffice

/-! ### Chronicles -/

/-- A change of the entities of the office. -/
inductive Event where
  | created (s : Schema) (uuid : Uuid) (draft : Draft s.fields) (time : Instant)
  | updated (s : Schema) (uuid : Uuid) (draft : Draft s.fields) (time : Instant)
  | deleted (s : Schema) (uuid : Uuid)

/-- What an entity was last written to. -/
structure Version where
  /-- The record of the contents. -/
  record : Attempt FieldErrors Record
  createdAt : Instant
  updatedAt : Instant

namespace Event

/-- Whether an entity of a type is created. -/
def creates (s : Schema) : Event → Bool
  | created t _ _ _ => s = t
  | _ => false

/-- Whether an entity of a type is deleted. -/
def deletes (s : Schema) : Event → Bool
  | deleted t _ => s = t
  | _ => false

/-- What the event makes of the version under an identifier. -/
def apply (s : Schema) (uuid : Uuid) (current : Option Version) : Event → Option Version
  | created t v draft time =>
    if s = t ∧ uuid = v then some ⟨t.model.toRecord draft, time, time⟩ else current
  | updated t v draft time =>
    if s = t ∧ uuid = v then current.map fun c => ⟨t.model.toRecord draft, c.createdAt, time⟩
    else current
  | deleted t v => if s = t ∧ uuid = v then none else current

end Event

namespace Chronicle

variable {s : Schema} {uuid : Uuid} {events : List Event} {v : Version}

/-- What a chronicle says an identifier stands for. -/
def version? (s : Schema) (uuid : Uuid) (events : List Event) : Option Version :=
  events.foldl (Event.apply s uuid) none

lemma version?_snoc (s : Schema) (uuid : Uuid) (events : List Event) (e : Event) :
    version? s uuid (events ++ [e]) = e.apply s uuid (version? s uuid events) := by
  rw [version?, List.foldl_append]
  rfl

/-- Whether nothing in a chronicle deletes an entity. -/
def Undeleted (s : Schema) (uuid : Uuid) (events : List Event) : Prop := .deleted s uuid ∉ events

/-- Whether nothing in a chronicle writes an entity. -/
def Unwritten (s : Schema) (uuid : Uuid) (events : List Event) : Prop :=
  ∀ draft time, .created s uuid draft time ∉ events ∧ .updated s uuid draft time ∉ events

/-- All that can be behind a version: it was just created, or just updated, or left alone. -/
lemma apply_eq_some {current : Option Version} {e : Event} (h : e.apply s uuid current = some v) :
    (∃ draft time, e = .created s uuid draft time ∧ v = ⟨s.model.toRecord draft, time, time⟩) ∨
    (∃ draft time c, e = .updated s uuid draft time ∧ current = some c ∧
      v = ⟨s.model.toRecord draft, c.createdAt, time⟩) ∨
    (current = some v ∧ e ≠ .deleted s uuid ∧
      ∀ draft time, e ≠ .created s uuid draft time ∧ e ≠ .updated s uuid draft time) := by
  cases e with
  | created t u draft time =>
    simp only [Event.apply] at h
    split at h
    · next hc =>
      obtain ⟨rfl, rfl⟩ := hc
      exact Or.inl ⟨draft, time, rfl, (Option.some.inj h).symm⟩
    · next hc =>
      refine Or.inr (Or.inr ⟨h, nofun, fun draft' time' => ⟨?_, nofun⟩⟩)
      intro he
      cases he
      exact hc ⟨rfl, rfl⟩
  | updated t u draft time =>
    simp only [Event.apply] at h
    split at h
    · next hc =>
      obtain ⟨rfl, rfl⟩ := hc
      obtain ⟨c, hcurrent, rfl⟩ := Option.map_eq_some_iff.1 h
      exact Or.inr (Or.inl ⟨draft, time, c, rfl, hcurrent, rfl⟩)
    · next hc =>
      refine Or.inr (Or.inr ⟨h, nofun, fun draft' time' => ⟨nofun, ?_⟩⟩)
      intro he
      cases he
      exact hc ⟨rfl, rfl⟩
  | deleted t u =>
    simp only [Event.apply] at h
    split at h
    · cases h
    · next hc =>
      refine Or.inr (Or.inr ⟨h, ?_, fun draft' time' => ⟨nofun, nofun⟩⟩)
      intro he
      cases he
      exact hc ⟨rfl, rfl⟩

/-- An identifier stands for something that was created under it and not deleted since. -/
lemma exists_creation (h : version? s uuid events = some v) :
    ∃ before draft after, events = before ++ .created s uuid draft v.createdAt :: after ∧
      Undeleted s uuid after := by
  induction events using List.reverseRecOn generalizing v with
  | nil => cases h
  | append_singleton events e ih =>
    rw [version?_snoc] at h
    -- what was created before stays so if the last event does not delete it
    have hold : ∀ {c : Version}, version? s uuid events = some c → e ≠ .deleted s uuid →
        ∃ before draft after, events ++ [e] =
          before ++ .created s uuid draft c.createdAt :: after ∧ Undeleted s uuid after := by
      intro c hc he
      obtain ⟨before, draft, after, rfl, hafter⟩ := ih hc
      refine ⟨before, draft, after ++ [e], by simp, fun hmem => ?_⟩
      rcases List.mem_append.1 hmem with hmem | hmem
      · exact hafter hmem
      · exact he (List.mem_singleton.1 hmem).symm
    obtain ⟨draft, time, rfl, rfl⟩ | ⟨draft, time, c, rfl, hc, rfl⟩ | ⟨hc, he, -⟩ := apply_eq_some h
    · exact ⟨events, draft, [], rfl, List.not_mem_nil⟩
    · exact hold (c := c) hc nofun
    · exact hold hc he

/-- It has the contents that were last written under the identifier. -/
lemma exists_lastWrite (h : version? s uuid events = some v) :
    ∃ before draft after,
      (events = before ++ .created s uuid draft v.updatedAt :: after ∨
        events = before ++ .updated s uuid draft v.updatedAt :: after) ∧
      Unwritten s uuid after ∧ v.record = s.model.toRecord draft := by
  induction events using List.reverseRecOn generalizing v with
  | nil => cases h
  | append_singleton events e ih =>
    rw [version?_snoc] at h
    obtain ⟨draft, time, rfl, rfl⟩ | ⟨draft, time, c, rfl, hc, rfl⟩ | ⟨hc, -, he⟩ := apply_eq_some h
    · exact ⟨events, draft, [], Or.inl rfl, fun _ _ => ⟨List.not_mem_nil, List.not_mem_nil⟩, rfl⟩
    · exact ⟨events, draft, [], Or.inr rfl, fun _ _ => ⟨List.not_mem_nil, List.not_mem_nil⟩, rfl⟩
    · obtain ⟨before, draft, after, hevents, hafter, hrecord⟩ := ih hc
      refine ⟨before, draft, after ++ [e], ?_, fun draft' time' => ?_, hrecord⟩
      · exact hevents.imp (fun h => by rw [h]; simp) fun h => by rw [h]; simp
      · obtain ⟨hcreated, hupdated⟩ := hafter draft' time'
        obtain ⟨hne, hne'⟩ := he draft' time'
        simp only [List.mem_append, List.mem_singleton, not_or]
        exact ⟨⟨hcreated, fun h => hne h.symm⟩, hupdated, fun h => hne' h.symm⟩

lemma isSome_apply {current : Option Version} {e : Event} (h : current.isSome)
    (he : e ≠ .deleted s uuid) : (e.apply s uuid current).isSome := by
  obtain ⟨c, rfl⟩ := Option.isSome_iff_exists.1 h
  cases e with
  | created t u draft time => simp only [Event.apply]; split <;> rfl
  | updated t u draft time => simp only [Event.apply]; split <;> rfl
  | deleted t u =>
    simp only [Event.apply]
    split
    · next hc =>
      obtain ⟨rfl, rfl⟩ := hc
      exact absurd rfl he
    · rfl

/-- An identifier stands for something exactly if something was created under it and not deleted
since. -/
theorem version?_isSome_iff :
    (version? s uuid events).isSome ↔
      ∃ before draft time after, events = before ++ .created s uuid draft time :: after ∧
        Undeleted s uuid after := by
  constructor
  · intro h
    obtain ⟨v, hv⟩ := Option.isSome_iff_exists.1 h
    obtain ⟨before, draft, after, hevents, hafter⟩ := exists_creation hv
    exact ⟨before, draft, _, after, hevents, hafter⟩
  · rintro ⟨before, draft, time, after, rfl, hafter⟩
    rw [version?, List.foldl_append, List.foldl_cons]
    have hcreated : ((Event.created s uuid draft time).apply s uuid
        (before.foldl (Event.apply s uuid) none)).isSome := by simp [Event.apply]
    generalize (Event.created s uuid draft time).apply s uuid _ = current at hcreated
    induction after generalizing current with
    | nil => exact hcreated
    | cons e after ih =>
      rw [Undeleted, List.mem_cons, not_or] at hafter
      exact ih hafter.2 _ (isSome_apply hcreated fun he => hafter.1 he.symm)

end Chronicle

/-! ### Stores that follow a chronicle -/

/-- Whether an entry is what storage keeps of a version. -/
def Version.IsKept (v : Version) (uuid : Uuid) (e : Entry) : Prop :=
  ∃ record, v.record = pure record ∧ e = ⟨uuid, record.normal, v.createdAt, v.updatedAt⟩

namespace Store

/-- Whether the live entries of a store are what a chronicle says. -/
structure Follows (st : Store) (events : List Event) : Prop where
  versions : ∀ s ∈ Catalogue.schemas, ∀ uuid,
    Option.Rel (Version.IsKept · uuid) (Chronicle.version? s uuid events)
      (st.lookup? s.outline uuid)
  number : ∀ s ∈ Catalogue.schemas,
    (st.entries s.outline).length + events.countP (Event.deletes s) =
      events.countP (Event.creates s)

variable {st : Store} {s t : Schema} {uuid : Uuid} {record : Record} {events : List Event}
  {draft : Draft s.fields} {now : Instant}

lemma follows_empty : (empty .office).Follows [] where
  versions _ _ _ := .none
  number _ _ := rfl

lemma Follows.congr {st' : Store} (h : st.Follows events) (hrows : st'.rows = st.rows) :
    st'.Follows events where
  versions s hs uuid := by
    rw [lookup?_congr (congrFun hrows _)]
    exact h.versions s hs uuid
  number s hs := by
    rw [entries, liveRows, hrows]
    exact h.number s hs

namespace Follows

/-- A store with a new entity follows the chronicle that goes on with its creation. -/
lemma inserted (h : st.Follows events) (hread : st.Readable) (hs : s ∈ Catalogue.schemas)
    (hrecord : s.model.toRecord draft = pure record) (hfresh : ¬ st.HasUuid s.table uuid)
    (hnow : now.kept = now) :
    (st.inserted s.outline uuid record now).Follows (events ++ [.created s uuid draft now]) where
  versions t ht v := by
    rw [Chronicle.version?_snoc,
      hread.lookup?_inserted hs (Schema.accepts_of_toRecord hs hrecord) hfresh now ht, Event.apply]
    by_cases hc : t = s ∧ v = uuid
    · rw [if_pos hc, if_pos hc]
      refine .some ⟨record, hrecord, ?_⟩
      rw [Entry.ofNew, hnow, hc.2]
    · rw [if_neg hc, if_neg hc]
      exact h.versions t ht v
  number t ht := by
    have hnumber := h.number t ht
    have hlength : ((st.inserted s.outline uuid record now).entries t.outline).length = _ :=
      Readable.length_entries_inserted hs (Schema.accepts_of_toRecord hs hrecord) now ht
    rw [hlength, List.countP_append, List.countP_append]
    simp only [List.countP_singleton, Event.creates, Event.deletes, decide_eq_true_eq,
      Bool.false_eq_true, if_false]
    omega

/-- A store with a rewritten entity follows the chronicle that goes on with its update. -/
lemma updated (h : st.Follows events) (hread : st.Readable) (hs : s ∈ Catalogue.schemas)
    (hrecord : s.model.toRecord draft = pure record) (uuid : Uuid) (hnow : now.kept = now) :
    (st.updated s.outline uuid record now).Follows (events ++ [.updated s uuid draft now]) where
  versions t ht v := by
    rw [Chronicle.version?_snoc,
      hread.lookup?_updated hs (Schema.accepts_of_toRecord hs hrecord) uuid now ht, Event.apply]
    have hold := h.versions t ht v
    by_cases hc : t = s ∧ v = uuid
    · rw [if_pos hc, if_pos hc]
      revert hold
      generalize Chronicle.version? t v events = current
      generalize st.lookup? t.outline v = entry
      rintro (⟨old, -, rfl⟩ | _)
      · refine .some ⟨record, hrecord, ?_⟩
        simp only [Entry.rewritten, hnow]
      · exact .none
    · rw [if_neg hc, if_neg hc]
      exact hold
  number t ht := by
    have hnumber := h.number t ht
    rw [hread.length_entries_updated hs (Schema.accepts_of_toRecord hs hrecord) uuid now ht,
      List.countP_append, List.countP_append]
    simpa [Event.creates, Event.deletes] using hnumber

/-- A store without an entity follows the chronicle that goes on with its deletion. -/
lemma deleted (h : st.Follows events) (hread : st.Readable) (hs : s ∈ Catalogue.schemas)
    (hlive : (st.lookup? s.outline uuid).isSome) (now : Instant) :
    (st.deleted s.outline uuid now).Follows (events ++ [.deleted s uuid]) where
  versions t ht v := by
    rw [Chronicle.version?_snoc, hread.lookup?_deleted hs uuid now ht, Event.apply]
    by_cases hc : t = s ∧ v = uuid
    · rw [if_pos hc, if_pos hc]
      exact .none
    · rw [if_neg hc, if_neg hc]
      exact h.versions t ht v
  number t ht := by
    have hnumber := h.number t ht
    have hlength := hread.length_entries_deleted hs hlive now ht
    rw [List.countP_append, List.countP_append]
    simp only [List.countP_singleton, Event.creates, Event.deletes, decide_eq_true_eq,
      Bool.false_eq_true, if_false]
    omega

end Follows

end Store

/-! ### Runs -/

/-- The event that an operation comes to, if it succeeds and changes an entity. -/
def Operation.event? (time : Instant) : (op : Operation) → Attempt Refusal op.Answer → Option Event
  | create s _ draft, result =>
    match result.outcome with
    | some (.ok stored) => some (.created s stored.uuid draft time)
    | _ => none
  | update s uuid draft, result =>
    match result.outcome with
    | some (.ok _) => some (.updated s uuid draft time)
    | _ => none
  | delete s uuid, result =>
    match result.outcome with
    | some (.ok _) => some (.deleted s uuid)
    | _ => none
  | get _ _, _ => none
  | list _ _, _ => none
  | addMembers _ _ _ _, _ => none
  | removeMembers _ _ _ _, _ => none

lemma Operation.event?_of_ne_pure {op : Operation} {result : Attempt Refusal op.Answer}
    (h : ∀ answer, result ≠ pure answer) (time : Instant) : op.event? time result = none := by
  have hne : ∀ answer, result.outcome ≠ some (.ok answer) := fun answer ha => h answer ha
  cases op with
  | create s uuid draft =>
    rw [event?]
    split
    · next ha => exact absurd ha (hne _)
    · rfl
  | get s uuid => rfl
  | list s p => rfl
  | update s uuid draft =>
    rw [event?]
    split
    · next ha => exact absurd ha (hne _)
    · rfl
  | delete s uuid =>
    rw [event?]
    split
    · next ha => exact absurd ha (hne _)
    · rfl
  | addMembers s a owner members => rfl
  | removeMembers s a owner members => rfl

namespace Office

variable {env : Surroundings} {office : Office} {events : List Event}

/-- What a run of operations changes, and when. -/
def chronicle (env : Surroundings) : List Operation → Office → List Event
  | [], _ => []
  | op :: ops, office =>
    let (result, next) := op.perform env office
    (op.event? (env.clock office.readings) result).toList ++ chronicle env ops next

/-- An operation leaves a store that follows the chronicle that goes on with its event. -/
theorem Sound.follows_perform (h : office.Sound) (hf : office.desk.store.Follows events)
    (hclock : ∀ n, (env.clock n).kept = env.clock n) {op : Operation} (hop : op.Served) :
    (op.perform env office).2.desk.store.Follows
      (events ++ (op.event? (env.clock office.readings) (op.perform env office).1).toList) := by
  have hread := h.store.toReadable
  have hnow := hclock office.readings
  have heffect := h.effect env hop
  generalize (op.perform env office).1 = result at heffect ⊢
  generalize (op.perform env office).2.desk.store = st at heffect ⊢
  generalize env.clock office.readings = now at heffect hnow ⊢
  cases heffect with
  | refused hne =>
    rw [Operation.event?_of_ne_pure hne]
    exact (List.append_nil events).symm ▸ hf
  | got _ => exact (List.append_nil events).symm ▸ hf
  | listed _ => exact (List.append_nil events).symm ▸ hf
  | created hrecord hfresh _ _ => exact hf.inserted hread hop hrecord hfresh hnow
  | updated hrecord _ _ _ => exact hf.updated hread hop hrecord _ hnow
  | deleted hlive => exact hf.deleted hread hop hlive now
  | linked _ _ =>
    exact (List.append_nil events).symm ▸ hf.congr (Store.foldl_linked_rows ..)
  | unlinked =>
    exact (List.append_nil events).symm ▸ hf.congr (Store.foldl_unlinked_rows ..)

/-- A run leaves a sound office whose store follows the chronicle of the run. -/
theorem Sound.follows_after (h : office.Sound) (hf : office.desk.store.Follows events)
    (hclock : ∀ n, (env.clock n).kept = env.clock n) {ops : List Operation}
    (hops : ∀ op ∈ ops, op.Served) :
    (office.after env ops).Sound ∧
      (office.after env ops).desk.store.Follows (events ++ office.chronicle env ops) := by
  induction ops generalizing office events with
  | nil => exact ⟨h, (List.append_nil events).symm ▸ hf⟩
  | cons op ops ih =>
    have hop := hops op List.mem_cons_self
    have hnext := ih (h.perform hop) (h.follows_perform hf hclock hop)
      fun op' hop' => hops op' (List.mem_cons_of_mem _ hop')
    rw [List.append_assoc] at hnext
    exact hnext

/-! ### What the office answers -/

/-- Whether an office answers what a chronicle says. -/
structure Recorded (env : Surroundings) (events : List Event) (office : Office) : Prop where
  /-- An entity is got exactly if it was created and not deleted since. -/
  got : ∀ s ∈ Catalogue.schemas, ∀ uuid,
    (∃ stored, (office.get env s.model uuid).1 = pure stored) ↔
      ∃ before draft time after, events = before ++ .created s uuid draft time :: after ∧
        Chronicle.Undeleted s uuid after
  /-- It was created when it says. -/
  createdAt : ∀ s ∈ Catalogue.schemas, ∀ uuid stored,
    (office.get env s.model uuid).1 = pure stored → stored.uuid = uuid ∧
      ∃ before draft after, events = before ++ .created s uuid draft stored.createdAt :: after ∧
        Chronicle.Undeleted s uuid after
  /-- It has the record that it was last written with, when it says. The minus sign of a zero is
  lost. -/
  written : ∀ s ∈ Catalogue.schemas, ∀ uuid stored,
    (office.get env s.model uuid).1 = pure stored → ∃ before draft after,
      (events = before ++ .created s uuid draft stored.updatedAt :: after ∨
        events = before ++ .updated s uuid draft stored.updatedAt :: after) ∧
      Chronicle.Unwritten s uuid after ∧ ∃ record, s.model.toRecord draft = pure record ∧
        s.model.toRecord stored.entity = pure record.normal
  /-- As many entities are listed as were created and not deleted. -/
  total : ∀ s ∈ Catalogue.schemas, ∀ p : Parameters, p.filters = [] → ∃ entities info,
    (office.list env s.model p).1 = pure (entities, info) ∧
      info.total + events.countP (Event.deletes s) = events.countP (Event.creates s)

/-- The entity that is got is the version in the chronicle. -/
lemma exists_version_of_get (h : office.Sound) (hf : office.desk.store.Follows events)
    {s : Schema} (hs : s ∈ Catalogue.schemas) {uuid : Uuid} {stored : Stored (Draft s.fields)}
    (hg : (office.get env s.model uuid).1 = pure stored) :
    ∃ v record, Chronicle.version? s uuid events = some v ∧ v.record = pure record ∧
      s.model.toRecord stored.entity = pure record.normal ∧ stored.uuid = uuid ∧
      stored.createdAt = v.createdAt ∧ stored.updatedAt = v.updatedAt := by
  have hread := h.store.toReadable
  obtain ⟨e, entity, he, hentity, rfl⟩ :=
    (Procedure.ask_get_eq_pure_iff hread hs).1 ((get_eq_pure_iff h).1 hg)
  obtain ⟨row, -, hkeeps⟩ := (hread.mem_entries_iff hs).1 ((hread.lookup?_eq_some_iff hs).1 he).1
  have hversion := hf.versions s hs uuid
  rw [he] at hversion
  cases hv : Chronicle.version? s uuid events with
  | none =>
    rw [hv] at hversion
    cases hversion
  | some v =>
    rw [hv] at hversion
    cases hversion with
    | some hkept =>
      obtain ⟨record, hrecord, rfl⟩ := hkept
      have hfits := Catalogue.fits hs
      exact ⟨v, record, rfl, hrecord,
        Schema.toRecord_of_ofRecord hfits.names hfits.times hkeeps.accepted hentity, rfl, rfl, rfl⟩

/-- An office whose store follows a chronicle answers what the chronicle says. -/
theorem Sound.recorded (h : office.Sound) (hf : office.desk.store.Follows events) :
    office.Recorded env events where
  got s hs uuid := by
    rw [← Chronicle.version?_isSome_iff]
    constructor
    · rintro ⟨stored, hg⟩
      obtain ⟨v, -, hv, -⟩ := exists_version_of_get h hf hs hg
      exact Option.isSome_iff_exists.2 ⟨v, hv⟩
    · intro hsome
      have hversion := hf.versions s hs uuid
      rcases Procedure.exists_ask_get h.store hs uuid with ⟨stored, hstored⟩ | ⟨hnone, -⟩
      · exact ⟨stored, (get_eq_pure_iff h).2 hstored⟩
      · obtain ⟨v, hv⟩ := Option.isSome_iff_exists.1 hsome
        rw [hv, hnone] at hversion
        cases hversion
  createdAt s hs uuid stored hg := by
    obtain ⟨v, record, hv, -, -, huuid, hcreated, -⟩ := exists_version_of_get h hf hs hg
    rw [hcreated]
    exact ⟨huuid, Chronicle.exists_creation hv⟩
  written s hs uuid stored hg := by
    obtain ⟨v, record, hv, hrecord, hgot, -, -, hupdated⟩ := exists_version_of_get h hf hs hg
    obtain ⟨before, draft, after, hevents, hafter, hlast⟩ := Chronicle.exists_lastWrite hv
    rw [hupdated]
    exact ⟨before, draft, after, hevents, hafter, record, hlast.symm.trans hrecord, hgot⟩
  total s hs p hp := by
    obtain ⟨entities, hlist, -⟩ := Procedure.exists_ask_list h.store hs p
    refine ⟨entities, _, (list_eq_pure_iff h).2 hlist, ?_⟩
    have hmatching : office.desk.store.matching s.table [] = office.desk.store.liveRows s.table :=
      List.filter_eq_self.2 fun _ _ => rfl
    have hnumber := hf.number s hs
    rw [h.store.toReadable.length_entries hs] at hnumber
    rw [hp, hmatching]
    exact hnumber

/-- After every run of operations from an empty database, what succeeds and what does not, the
office answers what the chronicle of the run says. The clock counts microseconds. -/
theorem recorded_after (hclock : ∀ n, (env.clock n).nanos % 1000 = 0) {ops : List Operation}
    (hops : ∀ op ∈ ops, op.Served) :
    ((ofLayout .office).after env ops).Recorded env ((ofLayout .office).chronicle env ops) := by
  have hsound : (ofLayout .office).Sound := ⟨rfl, Store.sound_empty⟩
  have hkept := fun n => Instant.kept_eq_self (hclock n)
  obtain ⟨hafter, hfollows⟩ := hsound.follows_after Store.follows_empty hkept hops
  exact hafter.recorded hfollows

/-- A country is created and updated, another one created and deleted. -/
theorem recorded_two_countries :
    let france := .cons (.filled "France") (.cons (.filled "FR") .nil)
    let gaul := .cons (.filled "Gaul") (.cons (.filled "GA") .nil)
    let ops : List Operation := [.create Catalogue.country none france,
      .update Catalogue.country (.ofNat 0) gaul, .create Catalogue.country (some (.ofNat 7)) france,
      .create Catalogue.country none gaul, .delete Catalogue.country (.ofNat 7)]
    let office := (ofLayout .office).after .counting ops
    let events := (ofLayout .office).chronicle .counting ops
    (∀ n, (Surroundings.counting.clock n).nanos % 1000 = 0) ∧ (∀ op ∈ ops, op.Served) ∧
      events.length = 4 ∧ office.Recorded .counting events := by
  intro france gaul ops office events
  have hclock : ∀ n, (Surroundings.counting.clock n).nanos % 1000 = 0 := by
    intro n
    simp only [Surroundings.counting]
    split <;> rfl
  have hops : ∀ op ∈ ops, op.Served := by
    have hcountry : Catalogue.country ∈ Catalogue.schemas := List.mem_cons_self
    simp [ops, Operation.Served, hcountry]
  exact ⟨hclock, hops, by decide +kernel, recorded_after hclock hops⟩

end Office

end BookingOffice
