import BookingOffice.Proofs.Office.Operation
import BookingOffice.Proofs.Procedure.Listing

/-!
Uniqueness over whole runs. Identifiers are never used twice in a table, and values that have to
differ do so between live rows; the office sees to both by its own checks, which are complete (what
passes them breaks no constraint of storage) and exact (what they refuse is in use).

* `Office.Guarded`: what the checks of the office guarantee in a state;
* `Office.Reachable.guarded`: they guarantee it in every state that the office gets into.
-/

namespace BookingOffice

/-- Whether an identifier that the operation has to make belongs to no row yet. -/
def Operation.MakesNewUuid (env : Surroundings) (office : Office) : Operation → Prop
  | create s none _ => ¬ office.desk.store.HasUuid s.table (env.identifiers office.desk.issued)
  | _ => True

namespace Office

variable {env : Surroundings} {office : Office}

/-- What the checks of the office guarantee in a state. -/
structure Guarded (env : Surroundings) (office : Office) : Prop where
  /-- No two rows of a table, live or deleted, have the same identifier. -/
  uuids : ∀ s ∈ Catalogue.schemas, ((office.desk.store.rows s.table).map (·.uuid)).Nodup
  /-- No two live rows of a table agree on a field that is marked as unique. -/
  differs : ∀ s ∈ Catalogue.schemas, office.desk.store.Differs s
  /-- A new entity that passes the checks breaks no constraint under a new identifier. -/
  insert : ∀ s ∈ Catalogue.schemas, ∀ uuid (draft : Draft s.fields) record u now,
    (Procedure.admitNew s.model uuid draft).ask office.desk.store = pure record →
    uuid = some u ∨ uuid = none ∧ ¬ office.desk.store.HasUuid s.table u →
    ∃ st, office.desk.store.apply (.insert s.outline u record now) = .ok (1, st)
  /-- Neither do new contents of an entity that pass the checks. -/
  update : ∀ s ∈ Catalogue.schemas, ∀ uuid (draft : Draft s.fields) record now,
    (Procedure.admitUpdate s.model uuid draft).ask office.desk.store = pure record →
    ∃ n st, office.desk.store.apply (.update s.outline uuid record now) = .ok (n, st) ∧ n ≠ 0
  /-- A deletion breaks none, as it is. -/
  delete : ∀ s ∈ Catalogue.schemas, ∀ uuid now,
    ∃ n st, office.desk.store.apply (.delete s.outline uuid now) = .ok (n, st)
  /-- All links of members that pass the checks are made. -/
  links : ∀ s ∈ Catalogue.schemas, ∀ a ∈ s.associations, ∀ owner members,
    (Procedure.admitMembers s.outline a owner members).ask office.desk.store = pure () →
    ((Procedure.forMembers (.link a owner) members).run env.identifiers office.desk).1 = pure ()
  /-- Storage never has to refuse a second row for a key. -/
  neverExists : ∀ op : Operation, op.Served → op.MakesNewUuid env office →
    ∀ message, (op.perform env office).1 ≠ throw (.alreadyExists message)
  /-- A sound entity is refused for exactly what a row has of its identifier and a live row of its
  values. -/
  createRefused : ∀ s ∈ Catalogue.schemas, ∀ uuid (draft : Draft s.fields) record,
    s.model.toRecord draft = pure record → ∀ errors,
      (office.create env s.model uuid draft).1 = throw (.invalid errors) ↔
        (∃ k, Procedure.NewConflict office.desk.store s uuid record k) ∧
          errors.Mark "already exists" (Procedure.NewConflict office.desk.store s uuid record)
  /-- Sound contents of a live row are refused for exactly what another live row has of them. -/
  updateRefused : ∀ s ∈ Catalogue.schemas, ∀ uuid (draft : Draft s.fields) record,
    s.model.toRecord draft = pure record →
    (∃ row ∈ office.desk.store.liveRows s.table, row.uuid = uuid) → ∀ errors,
      (office.update env s.model uuid draft).1 = throw (.invalid errors) ↔
        (∃ k, office.desk.store.Repeats s record (some uuid) k) ∧
          errors.Mark "already exists" (office.desk.store.Repeats s record (some uuid))

end Office

/-! ### Refusals -/

namespace Refusal

lemma ofFailure_eq_alreadyExists {failure : Failure} {message : String}
    (h : ofFailure failure = .alreadyExists message) : failure = .alreadyExists := by
  cases failure <;> first | rfl | cases h

lemma ofEntity_eq_alreadyExists {title : String} {uuid : Option Uuid} {failure : Failure}
    {message : String} (h : ofEntity title uuid failure = .alreadyExists message) :
    failure = .alreadyExists := by
  cases failure <;> cases uuid <;> first | rfl | cases h

lemma ofEntity_eq_invalid_iff {title : String} {uuid : Option Uuid} {failure : Failure}
    {errors : FieldErrors} :
    ofEntity title uuid failure = .invalid errors ↔ failure = .invalid errors := by
  constructor
  · intro h
    cases failure <;> cases uuid <;> cases h <;> rfl
  · rintro rfl
    cases uuid <;> rfl

end Refusal

namespace Procedure

variable {s : Schema} {record : Record} (ids : Nat → Uuid) {desk : Desk}

/-- Storing an entity with a sound record is refused with field errors exactly on a conflict. -/
lemma run_save_eq_throw_invalid_iff (h : desk.store.Readable) (hs : s ∈ Catalogue.schemas)
    (uuid : Option Uuid) {draft : Draft s.fields} (hrecord : s.model.toRecord draft = pure record)
    (now : Instant) (errors : FieldErrors) :
    ((save s.model uuid draft now).run ids desk).1 = throw (.invalid errors) ↔
      (∃ k, NewConflict desk.store s uuid record k) ∧
        errors.Mark repeatedMessage (NewConflict desk.store s uuid record) := by
  have hout := run_save ids h hs uuid draft now
  generalize (save s.model uuid draft now).run ids desk = out at hout
  cases hout with
  | unsound hnone _ => exact absurd hrecord (hnone record)
  | abandoned hnone => exact absurd hrecord (hnone record)
  | conflict hr hsome hmark =>
    cases Attempt.pure_injective (hrecord.symm.trans hr)
    exact hmark.throw_eq_iff hsome
  | collision hr hnone _ _ =>
    cases Attempt.pure_injective (hrecord.symm.trans hr)
    exact ⟨nofun, fun hc => absurd hc.1 (not_exists.2 hnone)⟩
  | stored hr hnone hfresh =>
    cases Attempt.pure_injective (hrecord.symm.trans hr)
    refine ⟨fun ht => ?_, fun hc => absurd hc.1 (not_exists.2 hnone)⟩
    have hread := h.inserted hs (Schema.accepts_of_toRecord hs hrecord) hfresh now
    obtain hf | ⟨d, hf⟩ := eq_of_ask_get_eq_throw hread hs ht <;> cases hf

/-- Updating an entity to a sound record is refused with field errors exactly on a conflict. -/
lemma run_update_eq_throw_invalid_iff (h : desk.store.Readable) (hs : s ∈ Catalogue.schemas)
    {uuid : Uuid} {draft : Draft s.fields} (hrecord : s.model.toRecord draft = pure record)
    (hlive : (desk.store.lookup? s.outline uuid).isSome) (now : Instant) (errors : FieldErrors) :
    ((update s.model uuid draft now).run ids desk).1 = throw (.invalid errors) ↔
      (∃ k, desk.store.Repeats s record (some uuid) k) ∧
        errors.Mark repeatedMessage (desk.store.Repeats s record (some uuid)) := by
  have hout := run_update ids h hs uuid draft now
  generalize (update s.model uuid draft now).run ids desk = out at hout
  cases hout with
  | unsound hnone _ => exact absurd hrecord (hnone record)
  | abandoned hnone => exact absurd hrecord (hnone record)
  | missing _ hdead =>
    rw [hdead] at hlive
    cases hlive
  | conflict hr _ hsome hmark =>
    cases Attempt.pure_injective (hrecord.symm.trans hr)
    exact hmark.throw_eq_iff hsome
  | updated hr _ hnone =>
    cases Attempt.pure_injective (hrecord.symm.trans hr)
    refine ⟨fun ht => ?_, fun hc => absurd hc.1 (not_exists.2 hnone)⟩
    have hread := h.updated hs (Schema.accepts_of_toRecord hs hrecord) uuid now
    obtain hf | ⟨d, hf⟩ := eq_of_ask_get_eq_throw hread hs ht <;> cases hf

/-- An entity is not stored under an identifier that is in use, so storage has nothing to refuse. -/
lemma run_save_ne_alreadyExists (h : desk.store.Readable) (hs : s ∈ Catalogue.schemas)
    {uuid : Option Uuid} (hnew : uuid = none → ¬ desk.store.HasUuid s.table (ids desk.issued))
    (draft : Draft s.fields) (now : Instant) :
    ((save s.model uuid draft now).run ids desk).1 ≠ throw .alreadyExists := by
  intro ht
  have hout := run_save ids h hs uuid draft now
  generalize (save s.model uuid draft now).run ids desk = out at hout ht
  cases hout with
  | unsound _ _ => cases ht
  | abandoned _ => cases ht
  | conflict _ _ _ => cases ht
  | collision _ _ hmade hused => exact hnew hmade hused
  | stored hrecord _ hfresh =>
    have hread := h.inserted hs (Schema.accepts_of_toRecord hs hrecord) hfresh now
    obtain hf | ⟨d, hf⟩ := eq_of_ask_get_eq_throw hread hs ht <;> cases hf

lemma run_update_ne_alreadyExists (h : desk.store.Readable) (hs : s ∈ Catalogue.schemas)
    (uuid : Uuid) (draft : Draft s.fields) (now : Instant) :
    ((update s.model uuid draft now).run ids desk).1 ≠ throw .alreadyExists := by
  intro ht
  have hout := run_update ids h hs uuid draft now
  generalize (update s.model uuid draft now).run ids desk = out at hout ht
  cases hout with
  | unsound _ _ => cases ht
  | abandoned _ => cases ht
  | missing _ _ => cases ht
  | conflict _ _ _ _ => cases ht
  | updated hrecord _ _ =>
    have hread := h.updated hs (Schema.accepts_of_toRecord hs hrecord) uuid now
    obtain hf | ⟨d, hf⟩ := eq_of_ask_get_eq_throw hread hs ht <;> cases hf

end Procedure

namespace Office

variable {env : Surroundings} {office : Office}

/-- A script that does not fail on a second row for a key is not refused for one. -/
lemma transact_ne_alreadyExists {α : Type} {refuse : Failure → Refusal} {script : Script α}
    (hopen : office.isOpen = true)
    (hrefuse : ∀ failure message, refuse failure = .alreadyExists message →
      failure = .alreadyExists)
    (hne : (script.run env.identifiers office.desk).1 ≠ throw .alreadyExists) (message : String) :
    (office.transact env refuse script).1 ≠ throw (.alreadyExists message) := by
  intro ht
  obtain ⟨failure, hrun, hf⟩ := (transact_eq_throw_iff hopen).1 ht
  exact hne (hrefuse failure message hf ▸ hrun)

lemma perform_ne_alreadyExists (h : office.Sound) {op : Operation} (hop : op.Served)
    (hnew : op.MakesNewUuid env office) (message : String) :
    (op.perform env office).1 ≠ throw (.alreadyExists message) := by
  have hread := h.store.toReadable
  have hget : ∀ {st : Store} {s : Schema} {uuid : Uuid}, st.Readable → s ∈ Catalogue.schemas →
      (Procedure.get s.model uuid).ask st ≠ throw .alreadyExists := by
    intro st s uuid hst hs ht
    obtain hf | ⟨d, hf⟩ := Procedure.eq_of_ask_get_eq_throw hst hs ht <;> cases hf
  have hrefuse : ∀ title uuid failure message,
      Refusal.ofEntity title uuid failure = .alreadyExists message → failure = .alreadyExists :=
    fun _ _ _ _ => Refusal.ofEntity_eq_alreadyExists
  cases op with
  | create s uuid draft =>
    refine transact_ne_alreadyExists (h.readClock env).isOpen (hrefuse _ _) ?_ message
    refine Procedure.run_save_ne_alreadyExists _ hread hop (fun hnone => ?_) draft _
    subst hnone
    exact hnew
  | get s uuid =>
    refine transact_ne_alreadyExists h.isOpen (hrefuse _ _) ?_ message
    rw [(Procedure.isQuery_get s.model uuid).run_eq]
    exact hget hread hop
  | list s p =>
    rw [Operation.perform, list]
    refine transact_ne_alreadyExists h.isOpen (fun _ _ => Refusal.ofFailure_eq_alreadyExists) ?_
      message
    obtain ⟨entities, hask, -⟩ := Procedure.exists_ask_list h.store hop p
    rw [(Procedure.isQuery_list s.model p).run_eq, hask]
    exact nofun
  | update s uuid draft =>
    refine transact_ne_alreadyExists (h.readClock env).isOpen (hrefuse _ _) ?_ message
    exact Procedure.run_update_ne_alreadyExists _ hread hop uuid draft _
  | delete s uuid =>
    refine transact_ne_alreadyExists (h.readClock env).isOpen (hrefuse _ _) ?_ message
    rw [readClock_desk, Schema.model_schema, Procedure.run_delete env.identifiers hread hop]
    split <;> exact nofun
  | addMembers s a owner members =>
    rw [Operation.perform, addMembers]
    refine transact_ne_alreadyExists h.isOpen (hrefuse _ _) ?_ message
    rw [Schema.model_schema]
    obtain ⟨failure, hf, hrun⟩ | ⟨-, -, hlinked, hrun⟩ :=
      Procedure.run_addMembers env.identifiers hread hop.1 hop.2 owner members
    · rw [hrun]
      intro ht
      cases Attempt.throw_injective ht
      obtain hf | ⟨errors, hf⟩ := hf <;> cases hf
    · rw [hrun]
      exact hget hlinked hop.1
  | removeMembers s a owner members =>
    rw [Operation.perform, removeMembers]
    refine transact_ne_alreadyExists h.isOpen (hrefuse _ _) ?_ message
    rw [Schema.model_schema]
    obtain hrun | ⟨hunlinked, hrun⟩ :=
      Procedure.run_removeMembers env.identifiers hread hop.1 hop.2 owner members
    · rw [hrun]
      exact nofun
    · rw [hrun]
      exact hget hunlinked hop.1

/-- The checks of the office are complete and exact in every state that it gets into. -/
theorem Reachable.guarded (h : Reachable env office) : Guarded env office where
  uuids := h.sound.store.uuids
  differs := h.sound.store.unique
  insert s hs uuid draft record u now hadmitted hu := by
    have hread := h.sound.store.toReadable
    obtain ⟨hrecord, hnone⟩ := Procedure.ask_admitNew_eq_pure hs hadmitted
    have hfresh : ¬ office.desk.store.HasUuid s.table u := by
      rintro hused
      rcases hu with hu | ⟨-, hu⟩
      · exact hnone "uuid" (Or.inl ⟨rfl, u, hu, hused⟩)
      · exact hu hused
    exact ⟨_, hread.apply_insert hs (Schema.accepts_of_toRecord hs hrecord) hfresh
      (fun name hname => hnone name (Or.inr hname)) now⟩
  update s hs uuid draft record now hadmitted := by
    have hread := h.sound.store.toReadable
    obtain ⟨hrecord, hlive, hnone⟩ := Procedure.ask_admitUpdate_eq_pure hread hs hadmitted
    obtain ⟨n, happly, hn⟩ :=
      hread.apply_update hs (Schema.accepts_of_toRecord hs hrecord) hnone now
    refine ⟨n, _, happly, fun h0 => ?_⟩
    rw [hn.1 h0] at hlive
    cases hlive
  delete s hs uuid now := by
    obtain ⟨n, happly, -⟩ := h.sound.store.toReadable.apply_delete hs uuid now
    exact ⟨n, _, happly⟩
  links s hs a ha owner members hadmitted := by
    rw [(Procedure.run_forMembers_link env.identifiers h.sound.store.toReadable hs ha hadmitted).1]
  neverExists op hop hnew := perform_ne_alreadyExists h.sound hop hnew
  createRefused s hs uuid draft record hrecord errors := by
    have hsave := Procedure.run_save_eq_throw_invalid_iff env.identifiers
      h.sound.store.toReadable hs uuid hrecord (env.clock office.readings) errors
    refine Iff.trans ?_ hsave
    refine (transact_eq_throw_iff (h.sound.readClock env).isOpen).trans ?_
    simp only [Refusal.ofEntity_eq_invalid_iff, exists_eq_right]
    rfl
  updateRefused s hs uuid draft record hrecord hlive errors := by
    have hread := h.sound.store.toReadable
    have hupdate := Procedure.run_update_eq_throw_invalid_iff env.identifiers
      hread hs hrecord ((hread.exists_lookup?_iff hs).2 hlive) (env.clock office.readings) errors
    refine Iff.trans ?_ hupdate
    refine (transact_eq_throw_iff (h.sound.readClock env).isOpen).trans ?_
    simp only [Refusal.ofEntity_eq_invalid_iff, exists_eq_right]
    rfl

/-- So they are once a country has been created. -/
theorem guarded_one_country :
    let france := .cons (.filled "France") (.cons (.filled "FR") .nil)
    let office := ((Operation.create Catalogue.country none france).perform .counting
      (ofLayout .office)).2
    (office.desk.store.rows "countries").length = 1 ∧ Guarded .counting office :=
  ⟨by decide +kernel, Reachable.guarded (.step .start (List.mem_cons_self (l := _)))⟩

end Office

end BookingOffice
