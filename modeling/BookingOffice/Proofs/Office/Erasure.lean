import BookingOffice.Proofs.Office.Operation
import BookingOffice.Proofs.Procedure.Erasure

/-!
Deleted entities cannot be observed. An office and the same office without what has been deleted
answer every run of operations in the same way, so long as no new entity takes an identifier that
is in use.

* `Office.SameLive`: the relation of two offices that differ in what has been deleted only;
* `Office.SameLive.perform`: an operation has the same result in both and keeps the relation;
* `Office.SameLive.answers`: so do runs of operations;
* `Office.Reachable.oblivious`: no state that the office gets into shows what has been deleted, and
  what has been deleted never comes back.
-/

namespace BookingOffice

/-- Whether an entity that the operation creates gets an identifier that belongs to no row. -/
def Operation.UsesNewUuid (env : Surroundings) (office : Office) : Operation → Prop
  | create s uuid _ =>
    ¬ office.desk.store.HasUuid s.table (office.desk.pick env.identifiers uuid).1
  | _ => True

/-- Whether all entities that are created in a run get identifiers that belong to no rows. -/
def Operation.UseNewUuids (env : Surroundings) : List Operation → Office → Prop
  | [], _ => True
  | op :: ops, office => op.UsesNewUuid env office ∧ UseNewUuids env ops (op.perform env office).2

namespace Office

variable {env : Surroundings} {office other : Office}

/-- The office without what has been deleted. -/
def erased (office : Office) : Office :=
  { office with desk := office.desk.withStore office.desk.store.erased }

/-- What the operations of a run are answered. -/
def answers (env : Surroundings) :
    List Operation → Office → List ((op : Operation) × Attempt Refusal op.Answer)
  | [], _ => []
  | op :: ops, office =>
    let (result, next) := op.perform env office
    ⟨op, result⟩ :: answers env ops next

/-- What it means that an office shows nothing of what has been deleted. -/
structure Oblivious (env : Surroundings) (office : Office) : Prop where
  /-- An operation has the same result without what has been deleted, and leaves the same. -/
  step : ∀ op : Operation, op.Served → op.UsesNewUuid env office →
    (op.perform env office.erased).1 = (op.perform env office).1 ∧
      (op.perform env office.erased).2.erased = (op.perform env office).2.erased
  /-- So does a run of operations. -/
  run : ∀ ops : List Operation, (∀ op ∈ ops, op.Served) → Operation.UseNewUuids env ops office →
    office.erased.answers env ops = office.answers env ops ∧
      (office.erased.after env ops).erased = (office.after env ops).erased
  /-- After no run a deleted entity is got, listed, updated or deleted again. -/
  gone : ∀ s ∈ Catalogue.schemas, ∀ uuid, office.desk.store.isDead s.table uuid = true →
    ∀ ops : List Operation, (∀ op ∈ ops, op.Served) →
      ((office.after env ops).get env s.model uuid).1 =
          throw (.ofEntity s.title (some uuid) .notFound) ∧
        (∀ p entities info, ((office.after env ops).list env s.model p).1 = pure (entities, info) →
          ∀ stored ∈ entities, stored.uuid ≠ uuid) ∧
        (∀ draft stored, ((office.after env ops).update env s.model uuid draft).1 ≠ pure stored) ∧
        ((office.after env ops).delete env s.model uuid).1 ≠ pure ()

/-! ### Two offices -/

/-- Whether two offices differ in what has been deleted only. -/
structure SameLive (office other : Office) : Prop where
  isOpen : office.isOpen = other.isOpen
  readings : office.readings = other.readings
  desk : office.desk.SameLive other.desk

lemma sameLive_erased (office : Office) : office.SameLive office.erased :=
  ⟨rfl, rfl, rfl, office.desk.store.sameLive_erased⟩

namespace SameLive

lemma erased_eq (h : office.SameLive other) : office.erased = other.erased := by
  obtain ⟨⟨store, issued⟩, isOpen, readings⟩ := office
  obtain ⟨⟨store', issued'⟩, isOpen', readings'⟩ := other
  obtain ⟨rfl, rfl, rfl, herased, -⟩ := h
  simp only at herased
  simp only [erased, Desk.withStore, herased]

lemma readClock (h : office.SameLive other) (env : Surroundings) :
    (office.readClock env).2.SameLive (other.readClock env).2 :=
  ⟨h.isOpen, congrArg (· + 1) h.readings, h.desk⟩

/-- Transactions are the same if the work in them is. -/
lemma transact (h : office.SameLive other) {α : Type} {refuse : Failure → Refusal}
    {script script' : Script α}
    (hrun : Script.Agree (script.run env.identifiers office.desk)
      (script'.run env.identifiers other.desk)) :
    (office.transact env refuse script).1 = (other.transact env refuse script').1 ∧
      (office.transact env refuse script).2.SameLive (other.transact env refuse script').2 := by
  obtain ⟨hresult, hdesk⟩ := hrun
  simp only [Office.transact, Script.transact]
  by_cases hopen : office.isOpen = true
  · rw [if_pos hopen, if_pos (h.isOpen ▸ hopen)]
    obtain ⟨a, ha⟩ | ⟨e, he⟩ | hab :=
      (script'.run env.identifiers other.desk).1.eq_pure_or_throw_or_abandon
    · simp only [hresult, ha, Attempt.outcome_pure]
      exact ⟨trivial, h.isOpen, h.readings, hdesk⟩
    · simp only [hresult, he, Attempt.outcome_throw]
      exact ⟨trivial, h.isOpen, h.readings, hdesk.issued, h.desk.store⟩
    · simp only [hresult, hab, Attempt.outcome_abandon]
      exact ⟨trivial, h.isOpen, h.readings, hdesk.issued, h.desk.store⟩
  · rw [if_neg hopen, if_neg (h.isOpen ▸ hopen)]
    exact ⟨rfl, h⟩

/-- An operation has the same result in both offices and keeps them alike. -/
theorem perform (h : office.SameLive other) (ho : office.Sound) (ho' : other.Sound)
    {op : Operation} (hop : op.Served) (hnew : op.UsesNewUuid env office) :
    (op.perform env office).1 = (op.perform env other).1 ∧
      (op.perform env office).2.SameLive (op.perform env other).2 := by
  have hread := ho.store.toReadable
  have hread' := ho'.store.toReadable
  have hnow : env.clock other.readings = env.clock office.readings := by rw [h.readings]
  cases op with
  | create s uuid draft =>
    refine (h.readClock env).transact ?_
    rw [hnow]
    exact Procedure.agree_save _ h.desk hread hread' hop hnew draft _
  | get s uuid => exact h.transact (Procedure.agree_get _ h.desk hread hread' hop uuid)
  | list s p => exact h.transact (Procedure.agree_list _ h.desk hread hread' hop p)
  | update s uuid draft =>
    refine (h.readClock env).transact ?_
    rw [hnow]
    exact Procedure.agree_update _ h.desk hread hread' hop uuid draft _
  | delete s uuid =>
    refine (h.readClock env).transact ?_
    rw [hnow]
    exact Procedure.agree_delete _ h.desk hread hread' hop uuid _
  | addMembers s a owner members =>
    exact h.transact (Procedure.agree_addMembers _ h.desk hread hread' hop.1 hop.2 owner members)
  | removeMembers s a owner members =>
    exact h.transact (Procedure.agree_removeMembers _ h.desk hread hread' hop.1 hop.2 owner members)

/-- A run of operations has the same answers in both offices and keeps them alike. -/
theorem answers (h : office.SameLive other) (ho : office.Sound) (ho' : other.Sound)
    {ops : List Operation} (hops : ∀ op ∈ ops, op.Served)
    (hnew : Operation.UseNewUuids env ops office) :
    office.answers env ops = other.answers env ops ∧
      (office.after env ops).SameLive (other.after env ops) := by
  induction ops generalizing office other with
  | nil => exact ⟨rfl, h⟩
  | cons op ops ih =>
    have hop := hops op List.mem_cons_self
    obtain ⟨hresult, hnext⟩ := h.perform ho ho' hop hnew.1
    obtain ⟨hanswers, hafter⟩ := ih hnext (ho.perform hop) (ho'.perform hop)
      (fun op' hop' => hops op' (List.mem_cons_of_mem _ hop')) hnew.2
    refine ⟨?_, hafter⟩
    simp only [Office.answers, hresult, hanswers]

end SameLive

lemma Sound.erased (h : office.Sound) : office.erased.Sound :=
  ⟨h.isOpen, Store.Sound.erased h.store⟩

/-! ### What has been deleted -/

/-- What has been deleted stays deleted. -/
lemma Sound.deadIn_perform (h : office.Sound) {op : Operation} (hop : op.Served) :
    office.desk.store.DeadIn (op.perform env office).2.desk.store := by
  have heffect := h.effect env hop
  generalize (op.perform env office).1 = result at heffect
  generalize (op.perform env office).2.desk.store = st at heffect ⊢
  have hsame : ∀ {st : Store}, st.rows = office.desk.store.rows → office.desk.store.DeadIn st :=
    fun hrows => Store.deadIn_of_rows fun table row hrow _ => hrows ▸ hrow
  cases heffect with
  | refused _ => exact hsame rfl
  | got _ => exact hsame rfl
  | listed _ => exact hsame rfl
  | created _ _ _ _ => exact Store.deadIn_inserted _ _ _ _ _
  | updated _ _ _ _ => exact Store.deadIn_replaced _ _ _ (·.rewritten _ _ _)
  | deleted _ => exact Store.deadIn_replaced _ _ _ (·.stamped _)
  | linked _ _ => exact hsame (Store.foldl_linked_rows ..)
  | unlinked => exact hsame (Store.foldl_unlinked_rows ..)

lemma Sound.deadIn_after (h : office.Sound) {ops : List Operation} (hops : ∀ op ∈ ops, op.Served) :
    (office.after env ops).Sound ∧ office.desk.store.DeadIn (office.after env ops).desk.store := by
  induction ops generalizing office with
  | nil => exact ⟨h, fun _ _ hdead => hdead⟩
  | cons op ops ih =>
    have hop := hops op List.mem_cons_self
    obtain ⟨hsound, hdead⟩ := ih (h.perform hop) fun op' hop' =>
      hops op' (List.mem_cons_of_mem _ hop')
    exact ⟨hsound, fun table uuid hd => hdead table uuid (h.deadIn_perform hop table uuid hd)⟩

/-- Nothing is got, listed, updated or deleted under the identifier of a deleted row. -/
lemma Sound.gone (h : office.Sound) {s : Schema} (hs : s ∈ Catalogue.schemas) {uuid : Uuid}
    (hdead : office.desk.store.isDead s.table uuid = true) :
    (office.get env s.model uuid).1 = throw (.ofEntity s.title (some uuid) .notFound) ∧
      (∀ p entities info, (office.list env s.model p).1 = pure (entities, info) →
        ∀ stored ∈ entities, stored.uuid ≠ uuid) ∧
      (∀ draft stored, (office.update env s.model uuid draft).1 ≠ pure stored) ∧
      (office.delete env s.model uuid).1 ≠ pure () := by
  have hread := h.store.toReadable
  have hnone := hread.lookup?_of_isDead hs hdead
  have hget : (Procedure.get s.model uuid).ask office.desk.store = throw .notFound := by
    rw [Procedure.ask_get hread hs, hnone]
  refine ⟨?_, ?_, ?_, ?_⟩
  · refine (transact_eq_throw_iff h.isOpen).2 ⟨.notFound, ?_, rfl⟩
    rw [(Procedure.isQuery_get s.model uuid).run_eq, hget]
  · rintro p entities info hlist stored hstored rfl
    obtain ⟨entities', hlist', hall⟩ := Procedure.exists_ask_list h.store hs p
    cases Attempt.pure_injective (((list_eq_pure_iff h).1 hlist).symm.trans hlist')
    obtain ⟨e, he, hgot⟩ := Traversal.exists_of_forall₂ hall hstored
    obtain ⟨e', entity, hlive, -, rfl⟩ := (Procedure.ask_get_eq_pure_iff hread hs).1 hgot
    rw [hnone] at hlive
    cases hlive
  · intro draft stored hupdate
    obtain ⟨-, -, -, hlive, -⟩ := update_eq_pure h hs hupdate
    rw [hnone] at hlive
    cases hlive
  · intro hdelete
    have hlive := (delete_eq_pure h hs hdelete).1
    rw [hnone] at hlive
    cases hlive

/-- No state that the office gets into shows what has been deleted. -/
theorem Reachable.oblivious (h : Reachable env office) : office.Oblivious env where
  step op hop hnew := by
    obtain ⟨hresult, hnext⟩ := office.sameLive_erased.perform h.sound h.sound.erased hop hnew
    exact ⟨hresult.symm, hnext.erased_eq.symm⟩
  run ops hops hnew := by
    obtain ⟨hanswers, hafter⟩ := office.sameLive_erased.answers h.sound h.sound.erased hops hnew
    exact ⟨hanswers.symm, hafter.erased_eq.symm⟩
  gone s hs uuid hdead ops hops := by
    obtain ⟨hsound, hstill⟩ := h.sound.deadIn_after hops
    exact hsound.gone hs (hstill _ _ hdead)

/-- A country that was deleted is not told from one that never was. -/
theorem oblivious_deleted_country :
    let france := .cons (.filled "France") (.cons (.filled "FR") .nil)
    let ops : List Operation := [.create Catalogue.country none france,
      .delete Catalogue.country (.ofNat 0), .create Catalogue.country none france]
    let office := (ofLayout .office).after .counting ops
    Reachable .counting office ∧ office.desk.store.isDead "countries" (.ofNat 0) = true ∧
      office.Oblivious .counting := by
  intro france ops office
  have hops : ∀ op ∈ ops, op.Served := by
    have hcountry : Catalogue.country ∈ Catalogue.schemas := List.mem_cons_self
    simp [ops, Operation.Served, hcountry]
  have hoffice : Reachable .counting office := Reachable.start.after hops
  exact ⟨hoffice, by decide +kernel, Reachable.oblivious hoffice⟩

end Office

end BookingOffice
