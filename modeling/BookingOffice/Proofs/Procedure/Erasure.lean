import BookingOffice.Proofs.Procedure.Listing
import BookingOffice.Proofs.Procedure.Write
import BookingOffice.Proofs.Store.Erasure

/-!
The procedures of the office in two stores that differ in what has been deleted only. Their
questions have the same answers and their changes keep the stores alike, so nothing that they come
to tells the two apart; a new entity must not get an identifier that is in use.

* `Procedure.ask_get_erased`, `Procedure.ask_list_erased`: what is got and listed;
* `Procedure.agree_save`, `agree_update`, `agree_delete`, `agree_addMembers`,
  `agree_removeMembers`: what the writes come to.
-/

namespace BookingOffice

/-! ### Questions -/

/-- Two stores that differ in what has been deleted only give the same answer to a question that
erasing has no part in. -/
lemma Store.SameLive.ask_eq {st other : Store} (h : st.SameLive other) {α : Type}
    {script : Script α} (hst : script.ask st.erased = script.ask st)
    (hother : script.ask other.erased = script.ask other) : script.ask st = script.ask other := by
  rw [← hst, h.erased, hother]

lemma Store.SameLive.lookup?_eq {st other : Store} (h : st.SameLive other) (o : Outline)
    (uuid : Uuid) : st.lookup? o uuid = other.lookup? o uuid := by
  rw [← st.lookup?_erased, h.erased, other.lookup?_erased]

namespace Procedure

variable {st : Store} {s : Schema} {a : Association}

lemma ask_get_erased (h : st.Readable) (hs : s ∈ Catalogue.schemas) (uuid : Uuid) :
    (get s.model uuid).ask st.erased = (get s.model uuid).ask st := by
  rw [ask_get h.erased hs, ask_get h hs, Store.lookup?_erased]
  cases he : st.lookup? s.outline uuid with
  | none => rfl
  | some e =>
    obtain rfl := ((h.lookup?_eq_some_iff hs).1 he).2
    simp only [h.related_erased hs he]

lemma ask_list_erased (h : st.Readable) (hs : s ∈ Catalogue.schemas) (p : Parameters) :
    (list s.model p).ask st.erased = (list s.model p).ask st := by
  have hpage : st.erased.page s.outline p = st.page s.outline p := by
    rw [Store.page, Store.page, Store.select_page_erased]
  have hcount := st.count_erased (q := .matching s.outline p.filters) (by simp)
  have hcomplete : ∀ e ∈ st.page s.outline p,
      (complete s.model e).ask st.erased = (complete s.model e).ask st := fun e he => by
    rw [ask_complete h.erased hs, ask_complete h hs,
      h.related_erased hs (h.lookup?_of_mem_page hs he)]
  simp only [list, Schema.model_schema, Script.ask_bind, Script.ask_numberOf, Script.ask_rowsOf,
    h.fetch_page hs, h.erased.fetch_page hs, hpage, hcount, Attempt.ofExcept_ok, pure_bind,
    Script.ask_mapM, Traversal.mapM_congr hcomplete, Script.ask_pure]

lemma ask_duplicates_erased (st : Store) (s : Schema) (record : Record) (exclude : Option Uuid) :
    (duplicates s record exclude).ask st.erased = (duplicates s record exclude).ask st := by
  simp only [duplicates, Script.ask_bind, Script.ask_mapM]
  congr 1
  refine Traversal.mapM_congr fun f _ => ?_
  split
  · rfl
  · rfl
  · next value _ _ =>
    have hcount := st.count_erased (q := .duplicates s.outline f.name value exclude)
      (by simp)
    simp only [Script.ask_bind, Script.ask_numberOf, hcount, pure_bind, Script.ask_pure]

/-- Deleted rows have a part in the checks of a new entity only if one has its identifier. -/
lemma ask_admitNew_erased {uuid : Option Uuid}
    (hfresh : ∀ u, uuid = some u → ¬ st.HasUuid s.table u) (draft : Draft s.fields) :
    (admitNew s.model uuid draft).ask st.erased = (admitNew s.model uuid draft).ask st := by
  have htaken : (takenUuid s uuid).ask st.erased = (takenUuid s uuid).ask st := by
    cases uuid with
    | none => rfl
    | some u =>
      have hst : ¬ 0 < st.count (.any s.outline u) :=
        fun h => hfresh u rfl ((st.count_any_pos_iff s.outline u).1 h)
      have herased : ¬ 0 < st.erased.count (.any s.outline u) := fun h =>
        hfresh u rfl (st.sameLive_erased.uuids _ _ ((st.erased.count_any_pos_iff s.outline u).1 h))
      simp only [takenUuid, Script.ask_bind, Script.ask_numberOf, pure_bind, if_neg hst,
        if_neg herased, Script.ask_pure]
  simp only [admitNew, Schema.model_schema, Script.ask_bind, Script.ask_ofAttempt, htaken,
    ask_duplicates_erased, refuse, Script.ask_ofExcept, Script.ask_pure]

lemma ask_admitUpdate_erased (h : st.Readable) (hs : s ∈ Catalogue.schemas) (uuid : Uuid)
    (draft : Draft s.fields) :
    (admitUpdate s.model uuid draft).ask st.erased = (admitUpdate s.model uuid draft).ask st := by
  simp only [admitUpdate, Schema.model_schema, Script.ask_bind, Script.ask_ofAttempt,
    ask_isLive h hs, ask_isLive h.erased hs, Store.lookup?_erased, pure_bind]
  refine bind_congr fun record => ?_
  cases (st.lookup? s.outline uuid).isSome with
  | false => rfl
  | true =>
    simp only [Bool.not_true, Bool.false_eq_true, if_false, Script.ask_bind,
      ask_duplicates_erased, refuse, Script.ask_ofExcept, Script.ask_pure]

lemma ask_admitMembers_erased (h : st.Readable) (hs : s ∈ Catalogue.schemas)
    (ha : a ∈ s.associations) (owner : Uuid) (members : List Uuid) :
    (admitMembers s.outline a owner members).ask st.erased =
      (admitMembers s.outline a owner members).ask st := by
  rw [ask_admitMembers h.erased hs ha, ask_admitMembers h hs ha]
  simp only [Store.lookup?_erased]

/-- Links of members that are admitted are intact. -/
lemma isIntact_of_ask_admitMembers (h : st.Readable) (hs : s ∈ Catalogue.schemas)
    (ha : a ∈ s.associations) {owner v : Uuid} {members : List Uuid}
    (hadmitted : (admitMembers s.outline a owner members).ask st = pure ()) (hv : v ∈ members) :
    st.isIntact a.table ⟨owner, v⟩ = true := by
  obtain ⟨t, ht, hmember⟩ := ((Catalogue.fits hs).members a ha).1
  obtain ⟨howner, hmembers⟩ := ask_admitMembers_eq_pure h hs ha hadmitted
  refine h.isIntact_of_live hs ha (h.isDead_of_lookup? hs howner) ?_
  rw [← hmember]
  exact h.isDead_of_lookup? ht (hmember ▸ hmembers v hv)

lemma ask_admitOwner_erased (h : st.Readable) (hs : s ∈ Catalogue.schemas) (owner : Uuid) :
    (admitOwner s.outline owner).ask st.erased = (admitOwner s.outline owner).ask st := by
  rw [ask_admitOwner h.erased hs, ask_admitOwner h hs, Store.lookup?_erased]

end Procedure

/-! ### Writes -/

/-- Whether two desks differ in what has been deleted only. -/
structure Desk.SameLive (desk other : Desk) : Prop where
  issued : desk.issued = other.issued
  store : desk.store.SameLive other.store

/-- Whether two ends of work are the same but for what has been deleted. -/
def Script.Agree {α : Type} (x y : Attempt Failure α × Desk) : Prop := x.1 = y.1 ∧ x.2.SameLive y.2

open Script (Agree)

lemma Desk.SameLive.withStore {desk other : Desk} (h : desk.SameLive other) {st st' : Store}
    (hst : st.SameLive st') : (desk.withStore st).SameLive (other.withStore st') := ⟨h.issued, hst⟩

lemma Desk.SameLive.pick {desk other : Desk} (h : desk.SameLive other) (ids : Nat → Uuid)
    (uuid : Option Uuid) :
    (desk.pick ids uuid).1 = (other.pick ids uuid).1 ∧
      (desk.pick ids uuid).2.SameLive (other.pick ids uuid).2 := by
  cases uuid with
  | some u => exact ⟨rfl, h⟩
  | none => exact ⟨congrArg ids h.issued, congrArg (· + 1) h.issued, h.store⟩

namespace Procedure

variable {desk other : Desk} {s : Schema} {a : Association} (ids : Nat → Uuid)

/-- Work that starts with a question agrees if the answers do and the work goes on alike. -/
lemma agree_bind {α β : Type} {question : Script α} (hq : question.IsQuery) {f : α → Script β}
    (h : desk.SameLive other) (hask : question.ask desk.store = question.ask other.store)
    (hnext : ∀ answer, question.ask desk.store = pure answer →
      Agree ((f answer).run ids desk) ((f answer).run ids other)) :
    Agree ((question >>= f).run ids desk) ((question >>= f).run ids other) := by
  have hrun := hq.run_eq ids desk
  have hrun' := hq.run_eq ids other
  rw [← hask] at hrun'
  obtain ⟨answer, he⟩ | ⟨failure, he⟩ | he :=
    (question.ask desk.store).eq_pure_or_throw_or_abandon
  · rw [he] at hrun hrun'
    rw [Script.run_bind_of_pure hrun, Script.run_bind_of_pure hrun']
    exact hnext answer he
  · rw [he] at hrun hrun'
    rw [Script.run_bind_of_throw hrun, Script.run_bind_of_throw hrun']
    exact ⟨rfl, h⟩
  · rw [he] at hrun hrun'
    rw [Script.run_bind_of_abandon hrun, Script.run_bind_of_abandon hrun']
    exact ⟨rfl, h⟩

/-- A question agrees if its answers do. -/
lemma agree_of_isQuery {α : Type} {question : Script α} (hq : question.IsQuery)
    (h : desk.SameLive other) (hask : question.ask desk.store = question.ask other.store) :
    Agree (question.run ids desk) (question.run ids other) := by
  rw [hq.run_eq, hq.run_eq]
  exact ⟨hask, h⟩

/-- Entities are got alike. -/
lemma agree_get (h : desk.SameLive other) (hd : desk.store.Readable) (ho : other.store.Readable)
    (hs : s ∈ Catalogue.schemas) (uuid : Uuid) :
    Agree ((get s.model uuid).run ids desk) ((get s.model uuid).run ids other) :=
  agree_of_isQuery ids (isQuery_get s.model uuid) h
    (h.store.ask_eq (ask_get_erased hd hs uuid) (ask_get_erased ho hs uuid))

/-- Lists are the same. -/
lemma agree_list (h : desk.SameLive other) (hd : desk.store.Readable) (ho : other.store.Readable)
    (hs : s ∈ Catalogue.schemas) (p : Parameters) :
    Agree ((list s.model p).run ids desk) ((list s.model p).run ids other) :=
  agree_of_isQuery ids (isQuery_list s.model p) h
    (h.store.ask_eq (ask_list_erased hd hs p) (ask_list_erased ho hs p))

/-- An entity is stored alike if its identifier is new. -/
theorem agree_save (h : desk.SameLive other) (hd : desk.store.Readable) (ho : other.store.Readable)
    (hs : s ∈ Catalogue.schemas) {uuid : Option Uuid}
    (hfresh : ¬ desk.store.HasUuid s.table (desk.pick ids uuid).1) (draft : Draft s.fields)
    (now : Instant) :
    Agree ((save s.model uuid draft now).run ids desk)
      ((save s.model uuid draft now).run ids other) := by
  obtain ⟨hpick, hpicked⟩ := h.pick ids uuid
  have hfresh' : ¬ other.store.HasUuid s.table (desk.pick ids uuid).1 :=
    fun hu => hfresh (h.store.uuids _ _ hu)
  have hsupplied : ∀ u, uuid = some u → ¬ desk.store.HasUuid s.table u := by
    rintro u rfl
    exact hfresh
  have hsupplied' : ∀ u, uuid = some u → ¬ other.store.HasUuid s.table u :=
    fun u hu hused => hsupplied u hu (h.store.uuids _ _ hused)
  have hask := h.store.ask_eq (ask_admitNew_erased hsupplied draft)
    (ask_admitNew_erased hsupplied' draft)
  rw [save_eq]
  refine agree_bind ids (isQuery_admitNew s.model uuid draft) h hask fun record hadmitted => ?_
  obtain ⟨hrecord, hnone⟩ := ask_admitNew_eq_pure hs hadmitted
  obtain ⟨-, hnone'⟩ := ask_admitNew_eq_pure hs (hask ▸ hadmitted)
  have hacc := Schema.accepts_of_toRecord hs hrecord
  rw [Script.run_bind_of_pure (run_choose ids desk uuid),
    Script.run_bind_of_pure (run_choose ids other uuid), ← hpick]
  have hstore := desk.pick_store ids uuid
  have hstore' := other.pick_store ids uuid
  rw [run_enter ids (hstore ▸ hd) hs hacc (hstore ▸ hfresh)
      (hstore ▸ fun name hname => hnone name (Or.inr hname)),
    run_enter ids (hstore' ▸ ho) hs hacc (hstore' ▸ hfresh')
      (hstore' ▸ fun name hname => hnone' name (Or.inr hname)), hstore, hstore']
  have hinserted := h.store.inserted s.outline (desk.pick ids uuid).1 record now
  exact ⟨hinserted.ask_eq (ask_get_erased (hd.inserted hs hacc hfresh now) hs _)
    (ask_get_erased (ho.inserted hs hacc hfresh' now) hs _), hpicked.withStore hinserted⟩

/-- An entity is updated alike. -/
theorem agree_update (h : desk.SameLive other) (hd : desk.store.Readable)
    (ho : other.store.Readable) (hs : s ∈ Catalogue.schemas) (uuid : Uuid)
    (draft : Draft s.fields) (now : Instant) :
    Agree ((update s.model uuid draft now).run ids desk)
      ((update s.model uuid draft now).run ids other) := by
  have hask := h.store.ask_eq (ask_admitUpdate_erased hd hs uuid draft)
    (ask_admitUpdate_erased ho hs uuid draft)
  rw [update_eq]
  refine agree_bind ids (isQuery_admitUpdate s.model uuid draft) h hask fun record hadmitted => ?_
  obtain ⟨hrecord, hlive, hnone⟩ := ask_admitUpdate_eq_pure hd hs hadmitted
  obtain ⟨-, hlive', hnone'⟩ := ask_admitUpdate_eq_pure ho hs (hask ▸ hadmitted)
  have hacc := Schema.accepts_of_toRecord hs hrecord
  rw [run_rewrite ids hd hs hacc hlive hnone, run_rewrite ids ho hs hacc hlive' hnone']
  have hupdated := h.store.updated s.outline uuid record now
  exact ⟨hupdated.ask_eq (ask_get_erased (hd.updated hs hacc uuid now) hs _)
    (ask_get_erased (ho.updated hs hacc uuid now) hs _), h.withStore hupdated⟩

/-- An entity is deleted alike. -/
theorem agree_delete (h : desk.SameLive other) (hd : desk.store.Readable)
    (ho : other.store.Readable) (hs : s ∈ Catalogue.schemas) (uuid : Uuid) (now : Instant) :
    Agree ((delete s.outline uuid now).run ids desk)
      ((delete s.outline uuid now).run ids other) := by
  rw [run_delete ids hd hs, run_delete ids ho hs, h.store.lookup?_eq]
  exact ⟨rfl, h.withStore (h.store.deleted s.outline uuid now)⟩

/-- Members are linked alike. -/
theorem agree_addMembers (h : desk.SameLive other) (hd : desk.store.Readable)
    (ho : other.store.Readable) (hs : s ∈ Catalogue.schemas) (ha : a ∈ s.associations)
    (owner : Uuid) (members : List Uuid) :
    Agree ((addMembers s.outline a owner members >>= fun _ => get s.model owner).run ids desk)
      ((addMembers s.outline a owner members >>= fun _ => get s.model owner).run ids other) := by
  have hask := h.store.ask_eq (ask_admitMembers_erased hd hs ha owner members)
    (ask_admitMembers_erased ho hs ha owner members)
  rw [addMembers_eq, bind_assoc]
  refine agree_bind ids (isQuery_admitMembers s.outline a owner members) h hask ?_
  intro _ hadmitted
  have hadmitted' := hask ▸ hadmitted
  obtain ⟨hlinks, hread⟩ := run_forMembers_link ids hd hs ha hadmitted
  obtain ⟨hlinks', hread'⟩ := run_forMembers_link ids ho hs ha hadmitted'
  rw [Script.run_bind_of_pure hlinks, Script.run_bind_of_pure hlinks']
  refine agree_get ids (h.withStore ?_) hread hread' hs owner
  exact h.store.foldl_linked (fun v hv => isIntact_of_ask_admitMembers hd hs ha hadmitted hv)
    fun v hv => isIntact_of_ask_admitMembers ho hs ha hadmitted' hv

/-- The links of members are removed alike. -/
theorem agree_removeMembers (h : desk.SameLive other) (hd : desk.store.Readable)
    (ho : other.store.Readable) (hs : s ∈ Catalogue.schemas) (ha : a ∈ s.associations)
    (owner : Uuid) (members : List Uuid) :
    Agree ((removeMembers s.outline a owner members >>= fun _ => get s.model owner).run ids desk)
      ((removeMembers s.outline a owner members >>= fun _ => get s.model owner).run ids other) := by
  have hask := h.store.ask_eq (ask_admitOwner_erased hd hs owner)
    (ask_admitOwner_erased ho hs owner)
  rw [removeMembers_eq, bind_assoc]
  refine agree_bind ids (isQuery_admitOwner s.outline owner) h hask fun _ _ => ?_
  obtain ⟨hlinks, hread⟩ := run_forMembers_unlink ids hd hs ha owner members
  obtain ⟨hlinks', hread'⟩ := run_forMembers_unlink ids ho hs ha owner members
  rw [Script.run_bind_of_pure hlinks, Script.run_bind_of_pure hlinks']
  exact agree_get ids (h.withStore (h.store.foldl_unlinked a owner members)) hread hread' hs owner

end Procedure

end BookingOffice
