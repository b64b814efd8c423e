import BookingOffice.Proofs.Procedure.Checks

/-!
What the writes of the office come to in a store that can be read. After its checks a write breaks
no constraint, so it ends with what `Procedure.get` finds in the changed store.

* `Procedure.run_save`: storing an entity, with all that it can come to (`SaveOutcome`);
* `Procedure.run_update`: updating one (`UpdateOutcome`);
* `Procedure.run_delete`, `run_addMembers`, `run_removeMembers`: the other writes.
-/

namespace BookingOffice

/-- The desk with another store. -/
def Desk.withStore (desk : Desk) (store : Store) : Desk := { desk with store := store }

/-- The identifier that a new entity gets, and the desk that it was taken from. -/
def Desk.pick (ids : Nat → Uuid) (desk : Desk) : Option Uuid → Uuid × Desk
  | some uuid => (uuid, desk)
  | none => (ids desk.issued, { desk with issued := desk.issued + 1 })

@[simp] lemma Desk.withStore_store (desk : Desk) (store : Store) :
    (desk.withStore store).store = store := rfl

@[simp] lemma Desk.pick_store (ids : Nat → Uuid) (desk : Desk) (uuid : Option Uuid) :
    (desk.pick ids uuid).2.store = desk.store := by cases uuid <;> rfl

lemma Script.run_execute_bind {α : Type} (ids : Nat → Uuid) (c : Statement.Change)
    (f : Nat → Script α) (desk : Desk) :
    (execute c >>= f).run ids desk =
      match desk.store.apply c with
      | .ok (n, store) => (f n).run ids (desk.withStore store)
      | .error failure => (throw failure, desk) := by
  rw [run_bind]
  simp only [execute, run]
  cases desk.store.apply c <;> rfl

namespace Procedure

variable {s : Schema} {record : Record} (ids : Nat → Uuid) {desk : Desk}

/-- Work that starts with the record of an entity ends there if the entity has no sound one. -/
lemma run_of_unsound (desk : Desk) {E α : Type} {m : Model E} {entity : E}
    (hnone : ∀ record, m.toRecord entity ≠ pure record) (f : Record → Script α) :
    ∃ result : Attempt Failure α, ((∃ errors, result = throw (.invalid errors)) ∨
      result = .abandon) ∧
      (Script.ofAttempt .invalid (m.toRecord entity) >>= f).run ids desk = (result, desk) := by
  have hrun : (Script.ofAttempt .invalid (m.toRecord entity)).run ids desk =
      (ExceptT.adapt .invalid (m.toRecord entity), desk) := rfl
  obtain ⟨record, hr⟩ | ⟨e, he⟩ | ha := (m.toRecord entity).eq_pure_or_throw_or_abandon
  · exact absurd hr (hnone record)
  · rw [he, Attempt.adapt_throw] at hrun
    exact ⟨_, Or.inl ⟨e, rfl⟩, he ▸ Script.run_bind_of_throw hrun⟩
  · rw [ha, Attempt.adapt_abandon] at hrun
    exact ⟨_, Or.inr rfl, ha ▸ Script.run_bind_of_abandon hrun⟩

/-! ### New entities -/

lemma run_choose (desk : Desk) (uuid : Option Uuid) :
    (choose uuid).run ids desk = (pure (desk.pick ids uuid).1, (desk.pick ids uuid).2) := by
  cases uuid <;> rfl

/-- A record that was admitted is stored under a new identifier. -/
theorem run_enter (h : desk.store.Readable) (hs : s ∈ Catalogue.schemas)
    (hrecord : s.Accepts record) {uuid : Uuid} (hfresh : ¬ desk.store.HasUuid s.table uuid)
    (hrepeats : ∀ name, ¬ desk.store.Repeats s record none name) (now : Instant) :
    (enter s.model uuid record now).run ids desk =
      ((get s.model uuid).ask (desk.store.inserted s.outline uuid record now),
        desk.withStore (desk.store.inserted s.outline uuid record now)) := by
  rw [enter]
  rw [Script.run_execute_bind, Schema.model_schema, h.apply_insert hs hrecord hfresh hrepeats]
  exact (isQuery_get s.model uuid).run_eq ids _

/-- A new identifier that a row has already is refused by storage. -/
theorem run_enter_of_hasUuid (h : desk.store.Readable) (hs : s ∈ Catalogue.schemas)
    (hrecord : s.Accepts record) {uuid : Uuid} (hused : desk.store.HasUuid s.table uuid)
    (now : Instant) :
    (enter s.model uuid record now).run ids desk = (throw .alreadyExists, desk) := by
  rw [enter]
  rw [Script.run_execute_bind, Schema.model_schema, h.apply_insert_of_hasUuid hs hrecord hused]

/-- An entity that conflicts with nothing is stored. -/
theorem run_save_of_admitted (hs : s ∈ Catalogue.schemas) {draft : Draft s.fields}
    (hrecord : s.model.toRecord draft = pure record) {uuid : Option Uuid}
    (hnone : ∀ k, ¬ NewConflict desk.store s uuid record k) (now : Instant) :
    (save s.model uuid draft now).run ids desk =
      (enter s.model (desk.pick ids uuid).1 record now).run ids (desk.pick ids uuid).2 := by
  obtain ⟨errors, hmark, hask⟩ := ask_admitNew desk.store hs hrecord uuid
  rw [hmark.orResult_of_none hnone] at hask
  have hadmitted := (isQuery_admitNew s.model uuid draft).run_eq ids desk
  rw [hask] at hadmitted
  rw [save_eq, Script.run_bind_of_pure hadmitted,
    Script.run_bind_of_pure (run_choose ids desk uuid)]

/-- An entity that conflicts with nothing is stored under its identifier if that is new. -/
theorem run_save_of_fresh (h : desk.store.Readable) (hs : s ∈ Catalogue.schemas)
    {draft : Draft s.fields} (hrecord : s.model.toRecord draft = pure record) {uuid : Option Uuid}
    (hnone : ∀ k, ¬ NewConflict desk.store s uuid record k)
    (hfresh : ¬ desk.store.HasUuid s.table (desk.pick ids uuid).1) (now : Instant) :
    (save s.model uuid draft now).run ids desk =
      ((get s.model (desk.pick ids uuid).1).ask
          (desk.store.inserted s.outline (desk.pick ids uuid).1 record now),
        (desk.pick ids uuid).2.withStore
          (desk.store.inserted s.outline (desk.pick ids uuid).1 record now)) := by
  have hstore := desk.pick_store ids uuid
  rw [run_save_of_admitted ids hs hrecord hnone, run_enter ids (hstore ▸ h) hs
    (Schema.accepts_of_toRecord hs hrecord) (hstore ▸ hfresh)
    (hstore ▸ fun name hname => hnone name (Or.inr hname)), hstore]

/-- An entity that conflicts with a row is refused with an error for each conflict. -/
theorem run_save_of_conflict (hs : s ∈ Catalogue.schemas) {draft : Draft s.fields}
    (hrecord : s.model.toRecord draft = pure record) {uuid : Option Uuid}
    (hsome : ∃ k, NewConflict desk.store s uuid record k) (now : Instant) :
    ∃ errors : FieldErrors,
      errors.Mark repeatedMessage (NewConflict desk.store s uuid record) ∧
      (save s.model uuid draft now).run ids desk = (throw (.invalid errors), desk) := by
  obtain ⟨errors, hmark, hask⟩ := ask_admitNew desk.store hs hrecord uuid
  rw [hmark.orResult_of_some hsome] at hask
  have hadmitted := (isQuery_admitNew s.model uuid draft).run_eq ids desk
  rw [hask] at hadmitted
  exact ⟨errors, hmark, by rw [save_eq, Script.run_bind_of_throw hadmitted]⟩

/-- An entity without a sound record is not stored. -/
theorem run_save_of_unsound (desk : Desk) {draft : Draft s.fields}
    (hnone : ∀ record, s.model.toRecord draft ≠ pure record) (uuid : Option Uuid) (now : Instant) :
    ∃ result : Attempt Failure (Stored (Draft s.fields)),
      ((∃ errors, result = throw (.invalid errors)) ∨ result = .abandon) ∧
      (save s.model uuid draft now).run ids desk = (result, desk) := run_of_unsound ids desk hnone _

/-- All that storing an entity can come to. -/
inductive SaveOutcome (ids : Nat → Uuid) (desk : Desk) {s : Schema} (uuid : Option Uuid)
    (draft : Draft s.fields) (now : Instant) :
    Attempt Failure (Stored (Draft s.fields)) × Desk → Prop
  /-- There is no sound record. -/
  | unsound (hnone : ∀ record, s.model.toRecord draft ≠ pure record) (errors : FieldErrors) :
      SaveOutcome ids desk uuid draft now (throw (.invalid errors), desk)
  /-- The record cannot be checked to the end. -/
  | abandoned (hnone : ∀ record, s.model.toRecord draft ≠ pure record) :
      SaveOutcome ids desk uuid draft now (.abandon, desk)
  /-- The identifier or values are in use. -/
  | conflict {record : Record} {errors : FieldErrors}
      (hrecord : s.model.toRecord draft = pure record)
      (hsome : ∃ k, NewConflict desk.store s uuid record k)
      (hmark : errors.Mark repeatedMessage (NewConflict desk.store s uuid record)) :
      SaveOutcome ids desk uuid draft now (throw (.invalid errors), desk)
  /-- The identifier that was made is in use. -/
  | collision {record : Record} (hrecord : s.model.toRecord draft = pure record)
      (hnone : ∀ k, ¬ NewConflict desk.store s uuid record k) (hmade : uuid = none)
      (hused : desk.store.HasUuid s.table (ids desk.issued)) :
      SaveOutcome ids desk uuid draft now (throw .alreadyExists, (desk.pick ids uuid).2)
  /-- The row is added. -/
  | stored {record : Record} (hrecord : s.model.toRecord draft = pure record)
      (hnone : ∀ k, ¬ NewConflict desk.store s uuid record k)
      (hfresh : ¬ desk.store.HasUuid s.table (desk.pick ids uuid).1) :
      SaveOutcome ids desk uuid draft now
        ((get s.model (desk.pick ids uuid).1).ask
            (desk.store.inserted s.outline (desk.pick ids uuid).1 record now),
          (desk.pick ids uuid).2.withStore
            (desk.store.inserted s.outline (desk.pick ids uuid).1 record now))

theorem run_save (h : desk.store.Readable) (hs : s ∈ Catalogue.schemas) (uuid : Option Uuid)
    (draft : Draft s.fields) (now : Instant) :
    SaveOutcome ids desk uuid draft now ((save s.model uuid draft now).run ids desk) := by
  by_cases hrecord : ∃ record, s.model.toRecord draft = pure record
  · obtain ⟨record, hrecord⟩ := hrecord
    have hacc := Schema.accepts_of_toRecord hs hrecord
    by_cases hconflict : ∃ k, NewConflict desk.store s uuid record k
    · obtain ⟨errors, hmark, hrun⟩ := run_save_of_conflict ids hs hrecord hconflict now
      exact hrun ▸ .conflict hrecord hconflict hmark
    · rw [not_exists] at hconflict
      by_cases hused : desk.store.HasUuid s.table (desk.pick ids uuid).1
      · have hstore := desk.pick_store ids uuid
        rw [run_save_of_admitted ids hs hrecord hconflict,
          run_enter_of_hasUuid ids (hstore ▸ h) hs hacc (hstore ▸ hused)]
        cases uuid with
        | none => exact .collision hrecord hconflict rfl hused
        | some u => exact absurd (Or.inl ⟨rfl, u, rfl, hused⟩) (hconflict "uuid")
      · rw [run_save_of_fresh ids h hs hrecord hconflict hused]
        exact .stored hrecord hconflict hused
  · rw [not_exists] at hrecord
    obtain ⟨result, ⟨e, rfl⟩ | rfl, hrun⟩ :=
      run_save_of_unsound ids desk hrecord uuid now
    · exact hrun ▸ .unsound hrecord e
    · exact hrun ▸ .abandoned hrecord

/-! ### Updated entities -/

/-- A record that was admitted replaces that of a live entity. -/
theorem run_rewrite (h : desk.store.Readable) (hs : s ∈ Catalogue.schemas)
    (hrecord : s.Accepts record) {uuid : Uuid} (hlive : (desk.store.lookup? s.outline uuid).isSome)
    (hrepeats : ∀ name, ¬ desk.store.Repeats s record (some uuid) name) (now : Instant) :
    (rewrite s.model uuid record now).run ids desk =
      ((get s.model uuid).ask (desk.store.updated s.outline uuid record now),
        desk.withStore (desk.store.updated s.outline uuid record now)) := by
  obtain ⟨n, happly, hn⟩ := h.apply_update hs hrecord hrepeats now
  have hn : n ≠ 0 := fun h0 => by rw [hn.1 h0] at hlive; cases hlive
  rw [rewrite]
  rw [Script.run_execute_bind, Schema.model_schema, happly]
  simp only [if_neg hn]
  exact (isQuery_get s.model uuid).run_eq ids _

/-- A live entity is updated to contents that conflict with nothing. -/
theorem run_update_of_admitted (h : desk.store.Readable) (hs : s ∈ Catalogue.schemas)
    {draft : Draft s.fields} (hrecord : s.model.toRecord draft = pure record) {uuid : Uuid}
    (hlive : (desk.store.lookup? s.outline uuid).isSome)
    (hnone : ∀ k, ¬ desk.store.Repeats s record (some uuid) k) (now : Instant) :
    (update s.model uuid draft now).run ids desk =
      ((get s.model uuid).ask (desk.store.updated s.outline uuid record now),
        desk.withStore (desk.store.updated s.outline uuid record now)) := by
  obtain ⟨errors, hmark, hask⟩ := ask_admitUpdate h hs hrecord uuid
  rw [if_pos hlive, hmark.orResult_of_none hnone] at hask
  have hadmitted := (isQuery_admitUpdate s.model uuid draft).run_eq ids desk
  rw [hask] at hadmitted
  rw [update_eq, Script.run_bind_of_pure hadmitted]
  exact run_rewrite ids h hs (Schema.accepts_of_toRecord hs hrecord) hlive hnone now

/-- Contents that conflict with another row are refused with an error for each conflict. -/
theorem run_update_of_conflict (h : desk.store.Readable) (hs : s ∈ Catalogue.schemas)
    {draft : Draft s.fields} (hrecord : s.model.toRecord draft = pure record) {uuid : Uuid}
    (hlive : (desk.store.lookup? s.outline uuid).isSome)
    (hsome : ∃ k, desk.store.Repeats s record (some uuid) k) (now : Instant) :
    ∃ errors : FieldErrors,
      errors.Mark repeatedMessage (desk.store.Repeats s record (some uuid)) ∧
      (update s.model uuid draft now).run ids desk = (throw (.invalid errors), desk) := by
  obtain ⟨errors, hmark, hask⟩ := ask_admitUpdate h hs hrecord uuid
  rw [if_pos hlive, hmark.orResult_of_some hsome] at hask
  have hadmitted := (isQuery_admitUpdate s.model uuid draft).run_eq ids desk
  rw [hask] at hadmitted
  exact ⟨errors, hmark, by rw [update_eq, Script.run_bind_of_throw hadmitted]⟩

/-- There is nothing to update under an identifier that no live row has. -/
theorem run_update_of_missing (h : desk.store.Readable) (hs : s ∈ Catalogue.schemas)
    {draft : Draft s.fields} (hrecord : s.model.toRecord draft = pure record) {uuid : Uuid}
    (hdead : desk.store.lookup? s.outline uuid = none) (now : Instant) :
    (update s.model uuid draft now).run ids desk = (throw .notFound, desk) := by
  obtain ⟨errors, -, hask⟩ := ask_admitUpdate h hs hrecord uuid
  rw [hdead] at hask
  have hadmitted := (isQuery_admitUpdate s.model uuid draft).run_eq ids desk
  rw [hask] at hadmitted
  rw [update_eq, Script.run_bind_of_throw hadmitted]

/-- An entity is not updated to contents without a sound record. -/
theorem run_update_of_unsound (desk : Desk) {draft : Draft s.fields}
    (hnone : ∀ record, s.model.toRecord draft ≠ pure record) (uuid : Uuid) (now : Instant) :
    ∃ result : Attempt Failure (Stored (Draft s.fields)),
      ((∃ errors, result = throw (.invalid errors)) ∨ result = .abandon) ∧
      (update s.model uuid draft now).run ids desk = (result, desk) :=
  run_of_unsound ids desk hnone _

/-- All that updating an entity can come to. -/
inductive UpdateOutcome (desk : Desk) {s : Schema} (uuid : Uuid) (draft : Draft s.fields)
    (now : Instant) : Attempt Failure (Stored (Draft s.fields)) × Desk → Prop
  /-- There is no sound record. -/
  | unsound (hnone : ∀ record, s.model.toRecord draft ≠ pure record) (errors : FieldErrors) :
      UpdateOutcome desk uuid draft now (throw (.invalid errors), desk)
  /-- The record cannot be checked to the end. -/
  | abandoned (hnone : ∀ record, s.model.toRecord draft ≠ pure record) :
      UpdateOutcome desk uuid draft now (.abandon, desk)
  /-- No live row has the identifier. -/
  | missing {record : Record} (hrecord : s.model.toRecord draft = pure record)
      (hdead : desk.store.lookup? s.outline uuid = none) :
      UpdateOutcome desk uuid draft now (throw .notFound, desk)
  /-- Other rows have the values. -/
  | conflict {record : Record} {errors : FieldErrors}
      (hrecord : s.model.toRecord draft = pure record)
      (hlive : (desk.store.lookup? s.outline uuid).isSome)
      (hsome : ∃ k, desk.store.Repeats s record (some uuid) k)
      (hmark : errors.Mark repeatedMessage (desk.store.Repeats s record (some uuid))) :
      UpdateOutcome desk uuid draft now (throw (.invalid errors), desk)
  /-- The row is changed. -/
  | updated {record : Record} (hrecord : s.model.toRecord draft = pure record)
      (hlive : (desk.store.lookup? s.outline uuid).isSome)
      (hnone : ∀ k, ¬ desk.store.Repeats s record (some uuid) k) :
      UpdateOutcome desk uuid draft now
        ((get s.model uuid).ask (desk.store.updated s.outline uuid record now),
          desk.withStore (desk.store.updated s.outline uuid record now))

theorem run_update (h : desk.store.Readable) (hs : s ∈ Catalogue.schemas) (uuid : Uuid)
    (draft : Draft s.fields) (now : Instant) :
    UpdateOutcome desk uuid draft now ((update s.model uuid draft now).run ids desk) := by
  by_cases hrecord : ∃ record, s.model.toRecord draft = pure record
  · obtain ⟨record, hrecord⟩ := hrecord
    cases hlive : desk.store.lookup? s.outline uuid with
    | none => exact run_update_of_missing ids h hs hrecord hlive now ▸ .missing hrecord hlive
    | some e =>
      have hlive : (desk.store.lookup? s.outline uuid).isSome := by rw [hlive]; rfl
      by_cases hconflict : ∃ k, desk.store.Repeats s record (some uuid) k
      · obtain ⟨errors, hmark, hrun⟩ :=
          run_update_of_conflict ids h hs hrecord hlive hconflict now
        exact hrun ▸ .conflict hrecord hlive hconflict hmark
      · rw [not_exists] at hconflict
        rw [run_update_of_admitted ids h hs hrecord hlive hconflict]
        exact .updated hrecord hlive hconflict
  · rw [not_exists] at hrecord
    obtain ⟨result, ⟨e, rfl⟩ | rfl, hrun⟩ :=
      run_update_of_unsound ids desk hrecord uuid now
    · exact hrun ▸ .unsound hrecord e
    · exact hrun ▸ .abandoned hrecord

/-! ### Deleted entities -/

theorem run_delete (h : desk.store.Readable) (hs : s ∈ Catalogue.schemas) (uuid : Uuid)
    (now : Instant) :
    (delete s.outline uuid now).run ids desk =
      (if (desk.store.lookup? s.outline uuid).isSome then pure () else throw .notFound,
        desk.withStore (desk.store.deleted s.outline uuid now)) := by
  obtain ⟨n, happly, hn⟩ := h.apply_delete hs uuid now
  rw [delete]
  rw [Script.run_execute_bind, happly]
  cases hlive : desk.store.lookup? s.outline uuid with
  | none =>
    simp only [if_pos (hn.2 hlive)]
    rfl
  | some e =>
    have hn : n ≠ 0 := fun h0 => by rw [hn.1 h0] at hlive; cases hlive
    simp only [if_neg hn]
    rfl

/-! ### Links -/

/-- Changes of links that storage carries out, one for each member. -/
lemma run_forMembers (change : Uuid → Statement.Change) (after : Store → Uuid → Store)
    (P : Store → Prop) (members : List Uuid) (desk : Desk)
    (happly : ∀ st, P st → ∀ v ∈ members, ∃ n, st.apply (change v) = .ok (n, after st v))
    (hafter : ∀ st, P st → ∀ v, P (after st v)) (hdesk : P desk.store) :
    (forMembers change members).run ids desk =
        (pure (), desk.withStore (members.foldl after desk.store)) ∧
      P (members.foldl after desk.store) := by
  induction members generalizing desk with
  | nil => exact ⟨rfl, hdesk⟩
  | cons v members ih =>
    obtain ⟨n, hv⟩ := happly desk.store hdesk v List.mem_cons_self
    have hrun : (forMembers change (v :: members)).run ids desk =
        (forMembers change members).run ids (desk.withStore (after desk.store v)) := by
      have hcons : forMembers change (v :: members) =
          Script.execute (change v) >>= fun _ => forMembers change members := rfl
      rw [hcons, Script.run_execute_bind, hv]
    rw [hrun]
    exact ih (desk.withStore (after desk.store v))
      (fun st hst w hw => happly st hst w (List.mem_cons_of_mem _ hw))
      (hafter desk.store hdesk v)

lemma hasUuid_of_live {st : Store} (h : st.Readable) (hs : s ∈ Catalogue.schemas) {uuid : Uuid}
    (hlive : (st.lookup? s.outline uuid).isSome) : st.HasUuid s.table uuid := by
  obtain ⟨e, he⟩ := Option.isSome_iff_exists.1 hlive
  exact h.hasUuid_of_lookup? hs he

/-- Members that were admitted are linked. -/
lemma run_forMembers_link (h : desk.store.Readable) (hs : s ∈ Catalogue.schemas) {a : Association}
    (ha : a ∈ s.associations) {owner : Uuid} {members : List Uuid}
    (hadmitted : (admitMembers s.outline a owner members).ask desk.store = pure ()) :
    (forMembers (.link a owner) members).run ids desk =
        (pure (), desk.withStore (members.foldl (·.linked a owner ·) desk.store)) ∧
      (members.foldl (·.linked a owner ·) desk.store).Readable := by
  obtain ⟨⟨t, ht, hmember⟩, -⟩ := (Catalogue.fits hs).members a ha
  obtain ⟨howner, hmembers⟩ := ask_admitMembers_eq_pure h hs ha hadmitted
  -- linking leaves the rows alone, so owner and members keep theirs
  have hlinks := run_forMembers ids (.link a owner) (·.linked a owner ·)
    (fun st => st.Readable ∧ st.rows = desk.store.rows) members desk
    (fun st hst v hv => by
      refine hst.1.apply_link hs ha ?_ ?_
      · rw [Store.HasUuid]
        rw [hst.2]
        exact hasUuid_of_live h hs howner
      · rw [Store.HasUuid]
        rw [hst.2, ← hmember]
        exact hasUuid_of_live h ht (hmember ▸ hmembers v hv))
    (fun st hst v => ⟨hst.1.linked a owner v, by rw [Store.linked_rows, hst.2]⟩) ⟨h, rfl⟩
  exact ⟨hlinks.1, hlinks.2.1⟩

lemma run_forMembers_unlink (h : desk.store.Readable) (hs : s ∈ Catalogue.schemas)
    {a : Association} (ha : a ∈ s.associations) (owner : Uuid) (members : List Uuid) :
    (forMembers (.unlink a owner) members).run ids desk =
        (pure (), desk.withStore (members.foldl (·.unlinked a owner ·) desk.store)) ∧
      (members.foldl (·.unlinked a owner ·) desk.store).Readable :=
  run_forMembers ids (.unlink a owner) (·.unlinked a owner ·) Store.Readable members desk
    (fun _ hst v _ => hst.apply_unlink hs ha owner v) (fun _ hst _ => hst.withLinks _ _) h

/-- Linking members comes to what its checks refuse, or to the owner with the links. -/
theorem run_addMembers (h : desk.store.Readable) (hs : s ∈ Catalogue.schemas) {a : Association}
    (ha : a ∈ s.associations) (owner : Uuid) (members : List Uuid) :
    (∃ failure, (failure = .notFound ∨ ∃ errors, failure = .invalid errors) ∧
      (addMembers s.outline a owner members >>= fun _ => get s.model owner).run ids desk =
        (throw failure, desk)) ∨
    (desk.store.lookup? s.outline owner).isSome ∧
      (∀ v ∈ members, (desk.store.lookup? a.member v).isSome) ∧
      (members.foldl (·.linked a owner ·) desk.store).Readable ∧
      (addMembers s.outline a owner members >>= fun _ => get s.model owner).run ids desk =
        ((get s.model owner).ask (members.foldl (·.linked a owner ·) desk.store),
          desk.withStore (members.foldl (·.linked a owner ·) desk.store)) := by
  have hrun := (isQuery_admitMembers s.outline a owner members).run_eq ids desk
  have hask := ask_admitMembers h hs ha owner members
  rw [addMembers_eq, bind_assoc]
  split at hask
  · split at hask
    · obtain ⟨howner, hmembers⟩ := ask_admitMembers_eq_pure h hs ha hask
      obtain ⟨hlinks, hreadable⟩ := run_forMembers_link ids h hs ha hask
      rw [hask] at hrun
      refine Or.inr ⟨howner, hmembers, hreadable, ?_⟩
      rw [Script.run_bind_of_pure hrun, Script.run_bind_of_pure hlinks, (isQuery_get _ _).run_eq]
      rfl
    · rw [hask] at hrun
      exact Or.inl ⟨_, Or.inr ⟨_, rfl⟩, Script.run_bind_of_throw hrun⟩
  · rw [hask] at hrun
    exact Or.inl ⟨_, Or.inl rfl, Script.run_bind_of_throw hrun⟩

/-- Removing members comes to a missing owner, or to the owner without the links. -/
theorem run_removeMembers (h : desk.store.Readable) (hs : s ∈ Catalogue.schemas) {a : Association}
    (ha : a ∈ s.associations) (owner : Uuid) (members : List Uuid) :
    (removeMembers s.outline a owner members >>= fun _ => get s.model owner).run ids desk =
        (throw .notFound, desk) ∨
    (members.foldl (·.unlinked a owner ·) desk.store).Readable ∧
      (removeMembers s.outline a owner members >>= fun _ => get s.model owner).run ids desk =
        ((get s.model owner).ask (members.foldl (·.unlinked a owner ·) desk.store),
          desk.withStore (members.foldl (·.unlinked a owner ·) desk.store)) := by
  have hrun := (isQuery_admitOwner s.outline owner).run_eq ids desk
  have hask := ask_admitOwner h hs owner
  rw [removeMembers_eq, bind_assoc]
  split at hask
  · obtain ⟨hlinks, hreadable⟩ := run_forMembers_unlink ids h hs ha owner members
    rw [hask] at hrun
    refine Or.inr ⟨hreadable, ?_⟩
    rw [Script.run_bind_of_pure hrun, Script.run_bind_of_pure hlinks, (isQuery_get _ _).run_eq]
    rfl
  · rw [hask] at hrun
    exact Or.inl (Script.run_bind_of_throw hrun)

end Procedure

end BookingOffice
