import BookingOffice.Office.Basic
import BookingOffice.Proofs.Procedure.Write

/-!
Operations of the office as data, what each of them does to the store when it succeeds, and the
states that runs of them reach.

* `Operation.perform`: an operation in a state of the office;
* `Operation.perform_eq`: it is one transaction;
* `Office.Reachable`: the states that the office gets into from an empty database;
* `Office.create_eq_pure`, `update_eq_pure`, `delete_eq_pure`, `addMembers_eq_pure`,
  `removeMembers_eq_pure`: all that a successful operation can do;
* `Office.Sound.effect`: all that an operation can come to (`Office.Effect`);
* `Office.Reachable.sound`: the store is sound in every state that is reached.
-/

namespace BookingOffice

/-- What can be asked of the office. -/
inductive Operation where
  | create (s : Schema) (uuid : Option Uuid) (draft : Draft s.fields)
  | get (s : Schema) (uuid : Uuid)
  | list (s : Schema) (p : Parameters)
  | update (s : Schema) (uuid : Uuid) (draft : Draft s.fields)
  | delete (s : Schema) (uuid : Uuid)
  | addMembers (s : Schema) (a : Association) (owner : Uuid) (members : List Uuid)
  | removeMembers (s : Schema) (a : Association) (owner : Uuid) (members : List Uuid)

namespace Operation

/-- What the office answers to an operation that succeeds. -/
abbrev Answer : Operation → Type
  | create s _ _ => Stored (Draft s.fields)
  | get s _ => Stored (Draft s.fields)
  | list s _ => List (Stored (Draft s.fields)) × PageInfo
  | update s _ _ => Stored (Draft s.fields)
  | delete _ _ => Unit
  | addMembers s _ _ _ => Stored (Draft s.fields)
  | removeMembers s _ _ _ => Stored (Draft s.fields)

/-- Whether the operation is on entities that the office keeps and an association that they have. -/
def Served : Operation → Prop
  | create s _ _ => s ∈ Catalogue.schemas
  | get s _ => s ∈ Catalogue.schemas
  | list s _ => s ∈ Catalogue.schemas
  | update s _ _ => s ∈ Catalogue.schemas
  | delete s _ => s ∈ Catalogue.schemas
  | addMembers s a _ _ => s ∈ Catalogue.schemas ∧ a ∈ s.associations
  | removeMembers s a _ _ => s ∈ Catalogue.schemas ∧ a ∈ s.associations

/-- Carries out an operation. -/
def perform (env : Surroundings) : (op : Operation) → Office → Attempt Refusal op.Answer × Office
  | create s uuid draft => Office.create env s.model uuid draft
  | get s uuid => Office.get env s.model uuid
  | list s p => Office.list env s.model p
  | update s uuid draft => Office.update env s.model uuid draft
  | delete s uuid => Office.delete env s.model uuid
  | addMembers s a owner members => Office.addMembers env s.model a owner members
  | removeMembers s a owner members => Office.removeMembers env s.model a owner members

/-- The office when work on an operation begins. The clock may have been read. -/
def begun (env : Surroundings) : Operation → Office → Office
  | create _ _ _, office => (office.readClock env).2
  | update _ _ _, office => (office.readClock env).2
  | delete _ _, office => (office.readClock env).2
  | _, office => office

/-- The work of an operation at some time. -/
def script (now : Instant) : (op : Operation) → Script op.Answer
  | create s uuid draft => Procedure.save s.model uuid draft now
  | get s uuid => Procedure.get s.model uuid
  | list s p => Procedure.list s.model p
  | update s uuid draft => Procedure.update s.model uuid draft now
  | delete s uuid => Procedure.delete s.outline uuid now
  | addMembers s a owner members => do
    Procedure.addMembers s.outline a owner members
    Procedure.get s.model owner
  | removeMembers s a owner members => do
    Procedure.removeMembers s.outline a owner members
    Procedure.get s.model owner

/-- The refusal that a failure of the work becomes. -/
def refuse : Operation → Failure → Refusal
  | create s uuid _ => .ofEntity s.title uuid
  | get s uuid => .ofEntity s.title (some uuid)
  | list _ _ => .ofFailure
  | update s uuid _ => .ofEntity s.title (some uuid)
  | delete s uuid => .ofEntity s.title (some uuid)
  | addMembers s _ owner _ => .ofEntity s.title (some owner)
  | removeMembers s _ owner _ => .ofEntity s.title (some owner)

/-- Every operation is one transaction. -/
lemma perform_eq (env : Surroundings) (op : Operation) (office : Office) :
    op.perform env office =
      (op.begun env office).transact env op.refuse (op.script (env.clock office.readings)) := by
  cases op <;> rfl

@[simp] lemma begun_desk (env : Surroundings) (op : Operation) (office : Office) :
    (op.begun env office).desk = office.desk := by
  cases op <;> rfl

@[simp] lemma begun_isOpen (env : Surroundings) (op : Operation) (office : Office) :
    (op.begun env office).isOpen = office.isOpen := by
  cases op <;> rfl

end Operation

/-- Surroundings that count identifiers, with a clock that moves once, by a microsecond. -/
def Surroundings.counting : Surroundings where
  clock n := if n = 0 then .epoch else ⟨1000, by decide⟩
  identifiers := .ofNat

/-! ### Transactions -/

namespace Office

variable {α : Type} {env : Surroundings} {refuse : Failure → Refusal} {script : Script α}
  {office : Office}

/-- Whether the office is open and its store sound. -/
structure Sound (office : Office) : Prop where
  isOpen : office.isOpen = true
  store : office.desk.store.Sound

@[simp] lemma readClock_fst (env : Surroundings) (office : Office) :
    (office.readClock env).1 = env.clock office.readings := rfl

@[simp] lemma readClock_desk (env : Surroundings) (office : Office) :
    (office.readClock env).2.desk = office.desk := rfl

@[simp] lemma readClock_isOpen (env : Surroundings) (office : Office) :
    (office.readClock env).2.isOpen = office.isOpen := rfl

lemma Sound.readClock (h : office.Sound) (env : Surroundings) : (office.readClock env).2.Sound :=
  ⟨h.isOpen, h.store⟩

@[simp] lemma transact_isOpen (env : Surroundings) (refuse : Failure → Refusal)
    (script : Script α) (office : Office) :
    (office.transact env refuse script).2.isOpen = office.isOpen := by
  rw [transact]
  split <;> rfl

/-- On a closed database nothing is done. -/
lemma transact_of_isOpen_eq_false (h : office.isOpen = false) :
    office.transact env refuse script = (throw (.ofFailure closedFailure), office) := by
  rw [transact]
  rw [if_neg (h ▸ Bool.false_ne_true)]

/-- The result of a transaction is that of its script. -/
lemma transact_fst (h : office.isOpen = true) :
    (office.transact env refuse script).1 =
      ExceptT.adapt refuse (script.run env.identifiers office.desk).1 := by
  rw [transact, Script.transact]
  rw [if_pos h]
  cases hr : (script.run env.identifiers office.desk).1.outcome with
  | none => simp only [hr]
  | some result => cases result <;> simp only [hr]

/-- A transaction that ends with a value keeps what its script did. -/
lemma transact_store_of_pure (h : office.isOpen = true) {a : α}
    (ha : (office.transact env refuse script).1 = pure a) :
    (office.transact env refuse script).2.desk.store =
      (script.run env.identifiers office.desk).2.store := by
  rw [transact_fst h, Attempt.adapt_eq_pure_iff] at ha
  rw [transact, Script.transact]
  rw [if_pos h]
  simp only [ha, Attempt.outcome_pure]

/-- A transaction whose script ends with a value ends with it, and with the desk of the script. -/
lemma transact_of_run_eq_pure (h : office.isOpen = true) {a : α} {desk : Desk}
    (hrun : script.run env.identifiers office.desk = (pure a, desk)) :
    office.transact env refuse script = (pure a, { office with desk := desk }) := by
  rw [transact, Script.transact]
  rw [if_pos h, hrun]
  rfl

/-- A transaction whose script fails and leaves the desk alone is refused, and leaves the office
alone. -/
lemma transact_of_run_eq_throw (h : office.isOpen = true) {failure : Failure}
    (hrun : script.run env.identifiers office.desk = (throw failure, office.desk)) :
    office.transact env refuse script = (throw (refuse failure), office) := by
  rw [transact, Script.transact]
  rw [if_pos h, hrun]
  rfl

/-- A transaction that does not end with a value leaves the store as it was. -/
lemma transact_store_of_ne_pure (hne : ∀ a, (office.transact env refuse script).1 ≠ pure a) :
    (office.transact env refuse script).2.desk.store = office.desk.store := by
  by_cases h : office.isOpen = true
  · rw [transact_fst h] at hne
    rw [transact, Script.transact]
    rw [if_pos h]
    obtain ⟨a, ha⟩ | ⟨e, he⟩ | hab :=
      (script.run env.identifiers office.desk).1.eq_pure_or_throw_or_abandon
    · exact absurd (Attempt.adapt_eq_pure_iff.2 ha) (hne a)
    · simp only [he, Attempt.outcome_throw]
    · simp only [hab, Attempt.outcome_abandon]
  · rw [transact]
    rw [if_neg h]

/-- A transaction that ends with a value is its script. -/
lemma transact_eq_pure (h : office.isOpen = true) {a : α}
    (ha : (office.transact env refuse script).1 = pure a) :
    (script.run env.identifiers office.desk).1 = pure a ∧
      (office.transact env refuse script).2.desk.store =
        (script.run env.identifiers office.desk).2.store :=
  ⟨Attempt.adapt_eq_pure_iff.1 ((transact_fst h).symm.trans ha), transact_store_of_pure h ha⟩

/-- A transaction is refused for the failure of its script. -/
lemma transact_eq_throw_iff (h : office.isOpen = true) {refusal : Refusal} :
    (office.transact env refuse script).1 = throw refusal ↔
      ∃ failure, (script.run env.identifiers office.desk).1 = throw failure ∧
        refuse failure = refusal := by
  rw [transact_fst h]
  generalize (script.run env.identifiers office.desk).1 = work
  obtain ⟨a, rfl⟩ | ⟨e, rfl⟩ | rfl := work.eq_pure_or_throw_or_abandon
  · exact ⟨nofun, by rintro ⟨f, hf, -⟩; cases hf⟩
  · constructor
    · intro ht
      exact ⟨e, rfl, Attempt.throw_injective ht⟩
    · rintro ⟨f, hf, rfl⟩
      rw [Attempt.throw_injective hf]
      rfl
  · exact ⟨nofun, by rintro ⟨f, hf, -⟩; cases hf⟩

/-! ### Successful operations -/

variable {s : Schema} {a : Association} {uuid owner : Uuid} {members : List Uuid}
  {draft : Draft s.fields} {stored : Stored (Draft s.fields)}

/-- Creating an entity adds its row under a new identifier, and gets the entity. -/
theorem create_eq_pure (h : office.Sound) (hs : s ∈ Catalogue.schemas) {uuid : Option Uuid}
    (hc : (office.create env s.model uuid draft).1 = pure stored) :
    ∃ record, s.model.toRecord draft = pure record ∧
      (uuid = none ∨ uuid = some stored.uuid) ∧
      ¬ office.desk.store.HasUuid s.table stored.uuid ∧
      (∀ name, ¬ office.desk.store.Repeats s record none name) ∧ s.Builds record.normal ∧
      (office.create env s.model uuid draft).2.desk.store =
        office.desk.store.inserted s.outline stored.uuid record (env.clock office.readings) ∧
      (Procedure.get s.model stored.uuid).ask (office.create env s.model uuid draft).2.desk.store =
        pure stored := by
  obtain ⟨hp, hstore⟩ := transact_eq_pure (h.readClock env).isOpen hc
  have hout := Procedure.run_save env.identifiers (h.readClock env).store.toReadable hs
    uuid draft (env.clock office.readings)
  rw [show (office.create env s.model uuid draft).2.desk.store = _ from hstore]
  simp only [readClock_desk] at hp hout ⊢
  generalize (Procedure.save s.model uuid draft _).run env.identifiers office.desk = out
    at hout hp ⊢
  cases hout with
  | unsound _ _ => cases hp
  | abandoned _ => cases hp
  | conflict _ _ _ => cases hp
  | collision _ _ _ _ => cases hp
  | stored hrecord hnone hfresh =>
    have hacc := Schema.accepts_of_toRecord hs hrecord
    have hread := h.store.toReadable.inserted hs hacc hfresh (env.clock office.readings)
    obtain ⟨e, entity, he, hbuilds, rfl⟩ := (Procedure.ask_get_eq_pure_iff hread hs).1 hp
    rw [h.store.toReadable.lookup?_inserted hs hacc hfresh _ hs, if_pos ⟨rfl, rfl⟩] at he
    cases he
    refine ⟨_, hrecord, ?_, hfresh, fun name hname => hnone name (Or.inr hname),
      ⟨entity, hbuilds⟩, rfl, hp⟩
    cases uuid with
    | none => exact Or.inl rfl
    | some u => exact Or.inr rfl

/-- Updating an entity gives its live row another record, and gets the entity. -/
theorem update_eq_pure (h : office.Sound) (hs : s ∈ Catalogue.schemas)
    (hu : (office.update env s.model uuid draft).1 = pure stored) :
    ∃ record, s.model.toRecord draft = pure record ∧ stored.uuid = uuid ∧
      (office.desk.store.lookup? s.outline uuid).isSome ∧
      (∀ name, ¬ office.desk.store.Repeats s record (some uuid) name) ∧ s.Builds record.normal ∧
      (office.update env s.model uuid draft).2.desk.store =
        office.desk.store.updated s.outline uuid record (env.clock office.readings) ∧
      (Procedure.get s.model stored.uuid).ask (office.update env s.model uuid draft).2.desk.store =
        pure stored := by
  obtain ⟨hp, hstore⟩ := transact_eq_pure (h.readClock env).isOpen hu
  have hout := Procedure.run_update env.identifiers (h.readClock env).store.toReadable hs
    uuid draft (env.clock office.readings)
  rw [show (office.update env s.model uuid draft).2.desk.store = _ from hstore]
  simp only [readClock_desk] at hp hout ⊢
  generalize (Procedure.update s.model uuid draft _).run env.identifiers office.desk = out
    at hout hp ⊢
  cases hout with
  | unsound _ _ => cases hp
  | abandoned _ => cases hp
  | missing _ _ => cases hp
  | conflict _ _ _ _ => cases hp
  | updated hrecord hlive hnone =>
    have hacc := Schema.accepts_of_toRecord hs hrecord
    have hread := h.store.toReadable.updated hs hacc uuid (env.clock office.readings)
    obtain ⟨e, entity, he, hbuilds, rfl⟩ := (Procedure.ask_get_eq_pure_iff hread hs).1 hp
    rw [h.store.toReadable.lookup?_updated hs hacc uuid _ hs, if_pos ⟨rfl, rfl⟩] at he
    obtain ⟨old, hold, rfl⟩ := Option.map_eq_some_iff.1 he
    exact ⟨_, hrecord, rfl, hlive, hnone, ⟨entity, hbuilds⟩, rfl, hp⟩

/-- Deleting an entity stamps its live row. -/
theorem delete_eq_pure (h : office.Sound) (hs : s ∈ Catalogue.schemas)
    (hd : (office.delete env s.model uuid).1 = pure ()) :
    (office.desk.store.lookup? s.outline uuid).isSome ∧
      (office.delete env s.model uuid).2.desk.store =
        office.desk.store.deleted s.outline uuid (env.clock office.readings) := by
  obtain ⟨hp, hstore⟩ := transact_eq_pure (h.readClock env).isOpen hd
  rw [show (office.delete env s.model uuid).2.desk.store = _ from hstore]
  simp only [readClock_desk, Schema.model_schema] at hp ⊢
  rw [Procedure.run_delete env.identifiers h.store.toReadable hs] at hp ⊢
  split at hp
  · next hlive => exact ⟨hlive, rfl⟩
  · cases hp

/-- Adding members links them to the owner, all of them being live, and gets the owner. -/
theorem addMembers_eq_pure (h : office.Sound) (hs : s ∈ Catalogue.schemas)
    (ha : a ∈ s.associations)
    (hm : (office.addMembers env s.model a owner members).1 = pure stored) :
    (office.desk.store.lookup? s.outline owner).isSome ∧
      (∀ v ∈ members, (office.desk.store.lookup? a.member v).isSome) ∧
      (office.addMembers env s.model a owner members).2.desk.store =
        members.foldl (·.linked a owner ·) office.desk.store ∧
      (Procedure.get s.model owner).ask (office.addMembers env s.model a owner members).2.desk.store
        = pure stored := by
  obtain ⟨hp, hstore⟩ := transact_eq_pure h.isOpen hm
  rw [show (office.addMembers env s.model a owner members).2.desk.store = _ from hstore]
  simp only [Schema.model_schema] at hp ⊢
  obtain ⟨failure, -, hrun⟩ | ⟨howner, hmembers, -, hrun⟩ :=
    Procedure.run_addMembers env.identifiers h.store.toReadable hs ha owner members
  · rw [hrun] at hp
    cases hp
  · rw [hrun] at hp ⊢
    exact ⟨howner, hmembers, rfl, hp⟩

/-- Removing members removes their links to the owner, and gets the owner. -/
theorem removeMembers_eq_pure (h : office.Sound) (hs : s ∈ Catalogue.schemas)
    (ha : a ∈ s.associations)
    (hm : (office.removeMembers env s.model a owner members).1 = pure stored) :
    (office.removeMembers env s.model a owner members).2.desk.store =
        members.foldl (·.unlinked a owner ·) office.desk.store ∧
      (Procedure.get s.model owner).ask
        (office.removeMembers env s.model a owner members).2.desk.store = pure stored := by
  obtain ⟨hp, hstore⟩ := transact_eq_pure h.isOpen hm
  rw [show (office.removeMembers env s.model a owner members).2.desk.store = _ from hstore]
  simp only [Schema.model_schema] at hp ⊢
  obtain hrun | ⟨-, hrun⟩ :=
    Procedure.run_removeMembers env.identifiers h.store.toReadable hs ha owner members
  · rw [hrun] at hp
    cases hp
  · rw [hrun] at hp ⊢
    exact ⟨rfl, hp⟩

/-! ### Operations that change nothing -/

/-- A transaction that only asks leaves the store as it was. -/
lemma transact_store_of_isQuery (hq : script.IsQuery) :
    (office.transact env refuse script).2.desk.store = office.desk.store := by
  by_cases hp : ∃ a, (office.transact env refuse script).1 = pure a
  · by_cases h : office.isOpen = true
    · obtain ⟨a, ha⟩ := hp
      rw [transact_store_of_pure h ha, hq.run_eq]
    · rw [transact]
      rw [if_neg h]
  · exact transact_store_of_ne_pure fun a ha => hp ⟨a, ha⟩

/-- A transaction that only asks ends with the answer of its script. -/
lemma transact_eq_pure_iff_of_isQuery (h : office.isOpen = true) (hq : script.IsQuery) {a : α} :
    (office.transact env refuse script).1 = pure a ↔ script.ask office.desk.store = pure a := by
  rw [transact_fst h, Attempt.adapt_eq_pure_iff, hq.run_eq]

lemma get_eq_pure_iff (h : office.Sound) :
    (office.get env s.model uuid).1 = pure stored ↔
      (Procedure.get s.model uuid).ask office.desk.store = pure stored :=
  transact_eq_pure_iff_of_isQuery h.isOpen (Procedure.isQuery_get s.model uuid)

lemma list_eq_pure_iff (h : office.Sound) {p : Parameters}
    {answer : List (Stored (Draft s.fields)) × PageInfo} :
    (office.list env s.model p).1 = pure answer ↔
      (Procedure.list s.model p).ask office.desk.store = pure answer :=
  transact_eq_pure_iff_of_isQuery h.isOpen (Procedure.isQuery_list s.model p)

lemma get_store (env : Surroundings) (s : Schema) (uuid : Uuid) (office : Office) :
    (office.get env s.model uuid).2.desk.store = office.desk.store :=
  transact_store_of_isQuery (Procedure.isQuery_get s.model uuid)

lemma list_store (env : Surroundings) (s : Schema) (p : Parameters) (office : Office) :
    (office.list env s.model p).2.desk.store = office.desk.store :=
  transact_store_of_isQuery (Procedure.isQuery_list s.model p)

/-- An operation that does not succeed leaves the store as it was. -/
theorem store_of_ne_pure {op : Operation}
    (hne : ∀ answer, (op.perform env office).1 ≠ pure answer) :
    (op.perform env office).2.desk.store = office.desk.store := by
  rw [op.perform_eq] at hne ⊢
  rw [transact_store_of_ne_pure hne, op.begun_desk]

/-! ### Effects -/

/-- All that an operation on a sound store can come to, with what it leaves. -/
inductive Effect (now : Instant) (st : Store) :
    (op : Operation) → Attempt Refusal op.Answer → Store → Prop
  | refused {op : Operation} {result : Attempt Refusal op.Answer}
      (hne : ∀ answer, result ≠ pure answer) : Effect now st op result st
  | got {s : Schema} {uuid : Uuid} (result : Attempt Refusal (Stored (Draft s.fields))) :
      Effect now st (.get s uuid) result st
  | listed {s : Schema} {p : Parameters}
      (result : Attempt Refusal (List (Stored (Draft s.fields)) × PageInfo)) :
      Effect now st (.list s p) result st
  | created {s : Schema} {uuid : Option Uuid} {draft : Draft s.fields} {record : Record}
      {stored : Stored (Draft s.fields)} (hrecord : s.model.toRecord draft = pure record)
      (hfresh : ¬ st.HasUuid s.table stored.uuid)
      (hrepeats : ∀ name, ¬ st.Repeats s record none name) (hbuilds : s.Builds record.normal) :
      Effect now st (.create s uuid draft) (pure stored)
        (st.inserted s.outline stored.uuid record now)
  | updated {s : Schema} {uuid : Uuid} {draft : Draft s.fields} {record : Record}
      {stored : Stored (Draft s.fields)} (hrecord : s.model.toRecord draft = pure record)
      (hlive : (st.lookup? s.outline uuid).isSome)
      (hrepeats : ∀ name, ¬ st.Repeats s record (some uuid) name)
      (hbuilds : s.Builds record.normal) :
      Effect now st (.update s uuid draft) (pure stored) (st.updated s.outline uuid record now)
  | deleted {s : Schema} {uuid : Uuid} (hlive : (st.lookup? s.outline uuid).isSome) :
      Effect now st (.delete s uuid) (pure ()) (st.deleted s.outline uuid now)
  | linked {s : Schema} {a : Association} {owner : Uuid} {members : List Uuid}
      {stored : Stored (Draft s.fields)} (howner : (st.lookup? s.outline owner).isSome)
      (hmembers : ∀ v ∈ members, (st.lookup? a.member v).isSome) :
      Effect now st (.addMembers s a owner members) (pure stored)
        (members.foldl (·.linked a owner ·) st)
  | unlinked {s : Schema} {a : Association} {owner : Uuid} {members : List Uuid}
      {stored : Stored (Draft s.fields)} :
      Effect now st (.removeMembers s a owner members) (pure stored)
        (members.foldl (·.unlinked a owner ·) st)

/-- What an operation comes to. -/
theorem Sound.effect (h : office.Sound) (env : Surroundings) {op : Operation} (hop : op.Served) :
    Effect (env.clock office.readings) office.desk.store op (op.perform env office).1
      (op.perform env office).2.desk.store := by
  by_cases hp : ∃ answer, (op.perform env office).1 = pure answer
  · obtain ⟨answer, hanswer⟩ := hp
    cases op with
    | create s uuid draft =>
      obtain ⟨record, hrecord, -, hfresh, hrepeats, hbuilds, hafter, -⟩ :=
        create_eq_pure h hop hanswer
      rw [hanswer]
      exact hafter ▸ .created hrecord hfresh hrepeats hbuilds
    | get s uuid => exact (get_store env s uuid office).symm ▸ .got _
    | list s p => exact (list_store env s p office).symm ▸ .listed _
    | update s uuid draft =>
      obtain ⟨record, hrecord, -, hlive, hrepeats, hbuilds, hafter, -⟩ :=
        update_eq_pure h hop hanswer
      rw [hanswer]
      exact hafter ▸ .updated hrecord hlive hrepeats hbuilds
    | delete s uuid =>
      obtain ⟨hlive, hafter⟩ := delete_eq_pure h hop hanswer
      rw [hanswer]
      exact hafter ▸ .deleted hlive
    | addMembers s a owner members =>
      obtain ⟨howner, hmembers, hafter, -⟩ := addMembers_eq_pure h hop.1 hop.2 hanswer
      rw [hanswer]
      exact hafter ▸ .linked howner hmembers
    | removeMembers s a owner members =>
      rw [hanswer]
      exact (removeMembers_eq_pure h hop.1 hop.2 hanswer).1 ▸ .unlinked
  · have hne : ∀ answer, (op.perform env office).1 ≠ pure answer :=
      fun answer hanswer => hp ⟨answer, hanswer⟩
    rw [store_of_ne_pure hne]
    exact .refused hne

/-! ### Runs -/

lemma perform_isOpen (env : Surroundings) (op : Operation) (office : Office) :
    (op.perform env office).2.isOpen = office.isOpen := by
  rw [op.perform_eq, transact_isOpen, op.begun_isOpen]

/-- Every operation keeps the office sound. -/
theorem Sound.perform (h : office.Sound) {op : Operation} (hop : op.Served) :
    (op.perform env office).2.Sound := by
  refine ⟨(perform_isOpen env op office).trans h.isOpen, ?_⟩
  have heffect := h.effect env hop
  generalize (op.perform env office).1 = result at heffect
  generalize (op.perform env office).2.desk.store = st at heffect ⊢
  cases heffect with
  | refused _ => exact h.store
  | got _ => exact h.store
  | listed _ => exact h.store
  | created hrecord hfresh hrepeats hbuilds =>
    exact h.store.inserted hop (Schema.accepts_of_toRecord hop hrecord) hfresh hrepeats hbuilds _
  | updated hrecord _ hrepeats hbuilds =>
    exact h.store.updated hop (Schema.accepts_of_toRecord hop hrecord) hrepeats hbuilds _
  | deleted _ => exact h.store.deleted hop _ _
  | linked _ _ => exact List.foldlRecOn _ _ h.store fun st hst v _ => hst.linked _ _ v
  | unlinked => exact List.foldlRecOn _ _ h.store fun st hst v _ => hst.unlinked _ _ v

/-- Every operation leaves rows that make entities, be they deleted. -/
lemma Sound.built_perform (h : office.Sound) (hb : office.desk.store.Built) {op : Operation}
    (hop : op.Served) : (op.perform env office).2.desk.store.Built := by
  have heffect := h.effect env hop
  generalize (op.perform env office).1 = result at heffect
  generalize (op.perform env office).2.desk.store = st at heffect ⊢
  cases heffect with
  | refused _ => exact hb
  | got _ => exact hb
  | listed _ => exact hb
  | created hrecord _ _ hbuilds =>
    exact hb.inserted hop (Schema.accepts_of_toRecord hop hrecord) hbuilds _ _
  | updated hrecord _ _ hbuilds =>
    exact hb.updated hop (Schema.accepts_of_toRecord hop hrecord) hbuilds _ _
  | deleted _ => exact hb.deleted hop _ _
  | linked _ _ => exact hb.congr (Store.foldl_linked_rows ..)
  | unlinked => exact hb.congr (Store.foldl_unlinked_rows ..)

/-- The office after a run of operations. -/
def after (env : Surroundings) (ops : List Operation) (office : Office) : Office :=
  ops.foldl (fun office op => (op.perform env office).2) office

/-- The states that the office gets into from an empty database. -/
inductive Reachable (env : Surroundings) : Office → Prop
  | start : Reachable env (ofLayout .office)
  | step {office : Office} (h : Reachable env office) {op : Operation} (hop : op.Served) :
      Reachable env (op.perform env office).2

/-- Runs of operations lead to such states. -/
lemma Reachable.after (h : Reachable env office) {ops : List Operation}
    (hops : ∀ op ∈ ops, op.Served) : Reachable env (office.after env ops) := by
  induction ops generalizing office with
  | nil => exact h
  | cons op ops ih =>
    exact ih (h.step (hops op List.mem_cons_self)) fun op' hop' =>
      hops op' (List.mem_cons_of_mem _ hop')

/-- The office is sound in every state that it gets into. -/
theorem Reachable.sound (h : Reachable env office) : office.Sound := by
  induction h with
  | start => exact ⟨rfl, Store.sound_empty⟩
  | step _ hop ih => exact ih.perform hop

/-- Every row makes an entity in every state that the office gets into. -/
theorem Reachable.built (h : Reachable env office) : office.desk.store.Built := by
  induction h with
  | start => exact fun _ _ _ hrow => absurd hrow List.not_mem_nil
  | step h hop ih => exact h.sound.built_perform ih hop

end Office

end BookingOffice
