import BookingOffice.Proofs.Office.Operation
import BookingOffice.Proofs.Procedure.Listing
import BookingOffice.Proofs.Store.Links

/-!
The members of an owner as a set. Adding members and removing them come to a refusal, which leaves
the office as it was, or to the union and the difference with what was linked before.

* `Office.Adds`, `Office.Removes`: what adding and removing have to come to;
* `Office.Gathers`: the laws of sets that follow for adding and removing in turn;
* `Office.Reachable.gathered`: all of this in every state that the office gets into.
-/

namespace BookingOffice

/-! ### Live rows -/

namespace Store

variable {st other : Store} {s : Schema} {a : Association} {owner : Uuid}

/-- Whether a live row of a table has an identifier. -/
def IsLive (st : Store) (o : Outline) (uuid : Uuid) : Prop :=
  ∃ row ∈ st.liveRows o.table, row.uuid = uuid

lemma Readable.isLive_iff (h : st.Readable) (hs : s ∈ Catalogue.schemas) (uuid : Uuid) :
    st.IsLive s.outline uuid ↔ (st.lookup? s.outline uuid).isSome := (h.exists_lookup?_iff hs).symm

lemma Readable.isLive_member_iff (h : st.Readable) (hs : s ∈ Catalogue.schemas)
    (ha : a ∈ s.associations) (uuid : Uuid) :
    st.IsLive a.member uuid ↔ (st.lookup? a.member uuid).isSome := by
  obtain ⟨⟨t, ht, hmember⟩, -⟩ := (Catalogue.fits hs).members a ha
  rw [← hmember]
  exact h.isLive_iff ht uuid

lemma SameBut.isLive_iff (h : st.SameBut other a owner) (o : Outline) (uuid : Uuid) :
    other.IsLive o uuid ↔ st.IsLive o uuid := by
  rw [IsLive, IsLive, liveRows, liveRows, h.rows]

/-- Members that are not all live start with some that are, up to one that is not. -/
lemma exists_first_dead {o : Outline} {members : List Uuid} (h : ¬ ∀ v ∈ members, st.IsLive o v) :
    ∃ before v after, members = before ++ v :: after ∧ (∀ w ∈ before, st.IsLive o w) ∧
      ¬ st.IsLive o v := by
  induction members with
  | nil => exact absurd (fun _ hv => absurd hv List.not_mem_nil) h
  | cons v members ih =>
    by_cases hv : st.IsLive o v
    · obtain ⟨before, w, after, rfl, hbefore, hw⟩ :=
        ih fun hall => h (List.forall_mem_cons.2 ⟨hv, hall⟩)
      exact ⟨v :: before, w, after, rfl, List.forall_mem_cons.2 ⟨hv, hbefore⟩, hw⟩
    · exact ⟨[], v, members, rfl, nofun, hv⟩

end Store

/-! ### The work on storage -/

namespace Procedure

variable {s : Schema} {a : Association} {owner v : Uuid} {members before after : List Uuid}
  {desk : Desk} (ids : Nat → Uuid)

/-- Members are not linked to an owner that is not live. -/
lemma run_addMembers_of_missing (h : desk.store.Readable) (hs : s ∈ Catalogue.schemas)
    (ha : a ∈ s.associations) (howner : ¬ desk.store.IsLive s.outline owner) :
    (addMembers s.outline a owner members).run ids desk = (throw .notFound, desk) := by
  have hrun := (isQuery_admitMembers s.outline a owner members).run_eq ids desk
  rw [ask_admitMembers h hs ha,
    if_neg fun hlive => howner ((h.isLive_iff hs owner).2 hlive)] at hrun
  rw [addMembers_eq, Script.run_bind_of_throw hrun]

/-- Members are not linked if one of them is not live, and the first such is named. -/
lemma run_addMembers_of_unknown (h : desk.store.Readable) (hs : s ∈ Catalogue.schemas)
    (ha : a ∈ s.associations) (howner : desk.store.IsLive s.outline owner)
    (hbefore : ∀ w ∈ before, desk.store.IsLive a.member w) (hv : ¬ desk.store.IsLive a.member v) :
    (addMembers s.outline a owner (before ++ v :: after)).run ids desk =
      (throw (.invalid (.single a.name s!"unknown {a.member.name} {v.toText}")), desk) := by
  have hfind : (before ++ v :: after).find? (fun w => (desk.store.lookup? a.member w).isNone) =
      some v := by
    refine List.find?_eq_some_iff_append.2 ⟨?_, before, after, rfl, fun w hw => ?_⟩
    · rw [h.isLive_member_iff hs ha, Option.not_isSome_iff_eq_none] at hv
      rw [hv]
      rfl
    · rw [← Option.not_isSome, (h.isLive_member_iff hs ha w).1 (hbefore w hw)]
      rfl
  have hrun := (isQuery_admitMembers s.outline a owner (before ++ v :: after)).run_eq ids desk
  rw [ask_admitMembers h hs ha, if_pos ((h.isLive_iff hs owner).1 howner), hfind] at hrun
  rw [addMembers_eq, Script.run_bind_of_throw hrun]

/-- Live members are linked to a live owner. -/
lemma run_addMembers_of_live (h : desk.store.Readable) (hs : s ∈ Catalogue.schemas)
    (ha : a ∈ s.associations) (howner : desk.store.IsLive s.outline owner)
    (hmembers : ∀ v ∈ members, desk.store.IsLive a.member v) :
    (addMembers s.outline a owner members).run ids desk =
      (pure (), desk.withStore (members.foldl (·.linked a owner ·) desk.store)) := by
  have hfind : members.find? (fun w => (desk.store.lookup? a.member w).isNone) = none := by
    rw [List.find?_eq_none]
    intro w hw
    rw [← Option.not_isSome, (h.isLive_member_iff hs ha w).1 (hmembers w hw)]
    nofun
  have hask : (admitMembers s.outline a owner members).ask desk.store = pure () := by
    rw [ask_admitMembers h hs ha, if_pos ((h.isLive_iff hs owner).1 howner), hfind]
  have hrun := (isQuery_admitMembers s.outline a owner members).run_eq ids desk
  rw [hask] at hrun
  rw [addMembers_eq, Script.run_bind_of_pure hrun]
  exact (run_forMembers_link ids h hs ha hask).1

/-- Links are not removed from an owner that is not live. -/
lemma run_removeMembers_of_missing (h : desk.store.Readable) (hs : s ∈ Catalogue.schemas)
    (howner : ¬ desk.store.IsLive s.outline owner) :
    (removeMembers s.outline a owner members).run ids desk = (throw .notFound, desk) := by
  have hrun := (isQuery_admitOwner s.outline owner).run_eq ids desk
  rw [ask_admitOwner h hs, if_neg fun hlive => howner ((h.isLive_iff hs owner).2 hlive)] at hrun
  rw [removeMembers_eq, Script.run_bind_of_throw hrun]

/-- Links are removed from a live owner, whatever the members. -/
lemma run_removeMembers_of_live (h : desk.store.Readable) (hs : s ∈ Catalogue.schemas)
    (ha : a ∈ s.associations) (howner : desk.store.IsLive s.outline owner) :
    (removeMembers s.outline a owner members).run ids desk =
      (pure (), desk.withStore (members.foldl (·.unlinked a owner ·) desk.store)) := by
  have hrun := (isQuery_admitOwner s.outline owner).run_eq ids desk
  rw [ask_admitOwner h hs, if_pos ((h.isLive_iff hs owner).1 howner)] at hrun
  rw [removeMembers_eq, Script.run_bind_of_pure hrun]
  exact (run_forMembers_unlink ids h hs ha owner members).1

end Procedure

namespace Office

variable {env : Surroundings} {office : Office} {s : Schema} {a : Association} {owner v : Uuid}
  {members before after : List Uuid}

/-! ### The work in the office -/

/-- The office with another store. -/
def withStore (office : Office) (st : Store) : Office :=
  { office with desk := office.desk.withStore st }

@[simp] lemma withStore_store (office : Office) (st : Store) :
    (office.withStore st).desk.store = st := rfl

@[simp] lemma withStore_self (office : Office) : office.withStore office.desk.store = office := rfl

@[simp] lemma withStore_withStore (office : Office) (st st' : Store) :
    (office.withStore st).withStore st' = office.withStore st' := rfl

lemma Sound.withStore (h : office.Sound) {st : Store} (hst : st.Sound) :
    (office.withStore st).Sound := ⟨h.isOpen, hst⟩

lemma Sound.withLinked (h : office.Sound) (a : Association) (owner : Uuid) (members : List Uuid) :
    (office.withStore (members.foldl (·.linked a owner ·) office.desk.store)).Sound :=
  h.withStore (List.foldlRecOn _ _ h.store fun _ hst v _ => hst.linked a owner v)

lemma Sound.withUnlinked (h : office.Sound) (a : Association) (owner : Uuid)
    (members : List Uuid) :
    (office.withStore (members.foldl (·.unlinked a owner ·) office.desk.store)).Sound :=
  h.withStore (List.foldlRecOn _ _ h.store fun _ hst v _ => hst.unlinked a owner v)

/-- The refusal for an owner that is not live. -/
def ownerMissing (s : Schema) (owner : Uuid) : Refusal :=
  .notFound s!"{s.title} {owner.toText} not found"

/-- The refusal for a member that is not live. -/
def memberUnknown (a : Association) (member : Uuid) : Refusal :=
  .invalid (.single a.name s!"unknown {a.member.name} {member.toText}")

lemma Sound.addMembers_of_missing (h : office.Sound) (env : Surroundings)
    (hs : s ∈ Catalogue.schemas) (ha : a ∈ s.associations)
    (howner : ¬ office.desk.store.IsLive s.outline owner) :
    office.addMembers env s.model a owner members = (throw (ownerMissing s owner), office) :=
  transact_of_run_eq_throw h.isOpen (Script.run_bind_of_throw
    (Procedure.run_addMembers_of_missing _ h.store.toReadable hs ha howner))

lemma Sound.addMembers_of_unknown (h : office.Sound) (env : Surroundings)
    (hs : s ∈ Catalogue.schemas) (ha : a ∈ s.associations)
    (howner : office.desk.store.IsLive s.outline owner)
    (hbefore : ∀ w ∈ before, office.desk.store.IsLive a.member w)
    (hv : ¬ office.desk.store.IsLive a.member v) (after : List Uuid) :
    office.addMembers env s.model a owner (before ++ v :: after) =
      (throw (memberUnknown a v), office) :=
  transact_of_run_eq_throw h.isOpen (Script.run_bind_of_throw
    (Procedure.run_addMembers_of_unknown _ h.store.toReadable hs ha howner hbefore hv))

/-- Work that changes links ends with the owner, if the owner is live. -/
lemma Sound.exists_transact_eq (h : office.Sound) (hs : s ∈ Catalogue.schemas)
    {refuse : Failure → Refusal} {work : Script Unit} {st : Store} (hst : st.Sound)
    (howner : st.IsLive s.outline owner)
    (hrun : work.run env.identifiers office.desk = (pure (), office.desk.withStore st)) :
    ∃ stored, (Procedure.get s.model owner).ask st = pure stored ∧
      office.transact env refuse (work >>= fun _ => Procedure.get s.model owner) =
        (pure stored, office.withStore st) := by
  obtain ⟨stored, hstored⟩ | ⟨hnone, -⟩ := Procedure.exists_ask_get hst hs owner
  · refine ⟨stored, hstored, transact_of_run_eq_pure h.isOpen ?_⟩
    rw [Script.run_bind_of_pure hrun, (Procedure.isQuery_get s.model owner).run_eq,
      Desk.withStore_store, hstored]
  · rw [hst.toReadable.isLive_iff hs, hnone] at howner
    cases howner

lemma Sound.addMembers_of_live (h : office.Sound) (env : Surroundings)
    (hs : s ∈ Catalogue.schemas) (ha : a ∈ s.associations)
    (howner : office.desk.store.IsLive s.outline owner)
    (hmembers : ∀ v ∈ members, office.desk.store.IsLive a.member v) :
    ∃ stored,
      (Procedure.get s.model owner).ask (members.foldl (·.linked a owner ·) office.desk.store) =
        pure stored ∧
      office.addMembers env s.model a owner members =
        (pure stored, office.withStore (members.foldl (·.linked a owner ·) office.desk.store)) := by
  have hsame := office.desk.store.sameBut_foldl_linked a owner members
  exact h.exists_transact_eq hs (h.withLinked a owner members).store
    ((hsame.isLive_iff _ _).2 howner)
    (Procedure.run_addMembers_of_live _ h.store.toReadable hs ha howner hmembers)

lemma Sound.removeMembers_of_missing (h : office.Sound) (env : Surroundings)
    (hs : s ∈ Catalogue.schemas) (howner : ¬ office.desk.store.IsLive s.outline owner)
    (a : Association) (members : List Uuid) :
    office.removeMembers env s.model a owner members = (throw (ownerMissing s owner), office) :=
  transact_of_run_eq_throw h.isOpen (Script.run_bind_of_throw
    (Procedure.run_removeMembers_of_missing _ h.store.toReadable hs howner))

lemma Sound.removeMembers_of_live (h : office.Sound) (env : Surroundings)
    (hs : s ∈ Catalogue.schemas) (ha : a ∈ s.associations)
    (howner : office.desk.store.IsLive s.outline owner) (members : List Uuid) :
    ∃ stored,
      (Procedure.get s.model owner).ask (members.foldl (·.unlinked a owner ·) office.desk.store) =
        pure stored ∧
      office.removeMembers env s.model a owner members =
        (pure stored,
          office.withStore (members.foldl (·.unlinked a owner ·) office.desk.store)) := by
  have hsame := office.desk.store.sameBut_foldl_unlinked a owner members
  exact h.exists_transact_eq hs (h.withUnlinked a owner members).store
    ((hsame.isLive_iff _ _).2 howner)
    (Procedure.run_removeMembers_of_live _ h.store.toReadable hs ha howner)

/-- All that adding members can come to. -/
inductive AddOutcome (office : Office) (s : Schema) (a : Association) (owner : Uuid) :
    List Uuid → Attempt Refusal (Stored (Draft s.fields)) × Office → Prop
  /-- The owner is not live. -/
  | missing {members : List Uuid} (howner : ¬ office.desk.store.IsLive s.outline owner) :
      AddOutcome office s a owner members (throw (ownerMissing s owner), office)
  /-- A member is not live, and those before it are. -/
  | unknown {before after : List Uuid} {v : Uuid}
      (howner : office.desk.store.IsLive s.outline owner)
      (hbefore : ∀ w ∈ before, office.desk.store.IsLive a.member w)
      (hv : ¬ office.desk.store.IsLive a.member v) :
      AddOutcome office s a owner (before ++ v :: after) (throw (memberUnknown a v), office)
  /-- The members are linked. -/
  | added {members : List Uuid} {stored : Stored (Draft s.fields)}
      (howner : office.desk.store.IsLive s.outline owner)
      (hmembers : ∀ v ∈ members, office.desk.store.IsLive a.member v)
      (hget : (Procedure.get s.model owner).ask
        (members.foldl (·.linked a owner ·) office.desk.store) = pure stored) :
      AddOutcome office s a owner members
        (pure stored, office.withStore (members.foldl (·.linked a owner ·) office.desk.store))

/-- What adding members comes to. -/
theorem Sound.addOutcome (h : office.Sound) (env : Surroundings) (hs : s ∈ Catalogue.schemas)
    (ha : a ∈ s.associations) (owner : Uuid) (members : List Uuid) :
    AddOutcome office s a owner members (office.addMembers env s.model a owner members) := by
  by_cases howner : office.desk.store.IsLive s.outline owner
  · by_cases hmembers : ∀ v ∈ members, office.desk.store.IsLive a.member v
    · obtain ⟨stored, hget, hrun⟩ := h.addMembers_of_live env hs ha howner hmembers
      exact hrun ▸ .added howner hmembers hget
    · obtain ⟨before, v, after, rfl, hbefore, hv⟩ := Store.exists_first_dead hmembers
      rw [h.addMembers_of_unknown env hs ha howner hbefore hv]
      exact .unknown howner hbefore hv
  · rw [h.addMembers_of_missing env hs ha howner]
    exact .missing howner

/-- All that removing members can come to. -/
inductive RemoveOutcome (office : Office) (s : Schema) (a : Association) (owner : Uuid)
    (members : List Uuid) : Attempt Refusal (Stored (Draft s.fields)) × Office → Prop
  /-- The owner is not live. -/
  | missing (howner : ¬ office.desk.store.IsLive s.outline owner) :
      RemoveOutcome office s a owner members (throw (ownerMissing s owner), office)
  /-- The members are not linked any more. -/
  | removed {stored : Stored (Draft s.fields)}
      (howner : office.desk.store.IsLive s.outline owner)
      (hget : (Procedure.get s.model owner).ask
        (members.foldl (·.unlinked a owner ·) office.desk.store) = pure stored) :
      RemoveOutcome office s a owner members
        (pure stored, office.withStore (members.foldl (·.unlinked a owner ·) office.desk.store))

/-- What removing members comes to. -/
theorem Sound.removeOutcome (h : office.Sound) (env : Surroundings) (hs : s ∈ Catalogue.schemas)
    (ha : a ∈ s.associations) (owner : Uuid) (members : List Uuid) :
    RemoveOutcome office s a owner members (office.removeMembers env s.model a owner members) := by
  by_cases howner : office.desk.store.IsLive s.outline owner
  · obtain ⟨stored, hget, hrun⟩ := h.removeMembers_of_live env hs ha howner members
    exact hrun ▸ .removed howner hget
  · rw [h.removeMembers_of_missing env hs howner]
    exact .missing howner

/-! ### Union and difference -/

/-- What it means that adding members to an owner is the union with them. -/
structure Adds (env : Surroundings) (office : Office) (s : Schema) (a : Association)
    (owner : Uuid) : Prop where
  /-- It is refused for the owner, whatever the members, if the owner is not live, and only then. -/
  missing : ∀ members, (office.addMembers env s.model a owner members).1 =
    throw (.notFound s!"{s.title} {owner.toText} not found") ↔
      ¬ office.desk.store.IsLive s.outline owner
  /-- It is refused for invalid fields if the owner is live but a member is not, and only then. -/
  unknown : ∀ members,
    (∃ errors, (office.addMembers env s.model a owner members).1 = throw (.invalid errors)) ↔
      office.desk.store.IsLive s.outline owner ∧
        ∃ v ∈ members, ¬ office.desk.store.IsLive a.member v
  /-- The error is under the name of the association and names the first such member. -/
  first : ∀ before v after, office.desk.store.IsLive s.outline owner →
    (∀ w ∈ before, office.desk.store.IsLive a.member w) →
    ¬ office.desk.store.IsLive a.member v →
    (office.addMembers env s.model a owner (before ++ v :: after)).1 =
      throw (.invalid (.single a.name s!"unknown {a.member.name} {v.toText}"))
  /-- What is refused leaves the office as it was. -/
  refused : ∀ members refusal,
    (office.addMembers env s.model a owner members).1 = throw refusal →
    (office.addMembers env s.model a owner members).2 = office
  /-- Everything else is answered with the owner, to which the members are linked as well. -/
  union : ∀ members, office.desk.store.IsLive s.outline owner →
    (∀ v ∈ members, office.desk.store.IsLive a.member v) →
    ∃ stored, (office.addMembers env s.model a owner members).1 = pure stored ∧
      ((office.addMembers env s.model a owner members).2.get env s.model owner).1 = pure stored ∧
      (office.addMembers env s.model a owner members).2.desk.store.linkedTo a owner =
        office.desk.store.linkedTo a owner ∪ {v | v ∈ members}
  /-- Links of other owners, other tables and all rows stay as they are. -/
  frame : ∀ members, office.desk.store.SameBut
    (office.addMembers env s.model a owner members).2.desk.store a owner
  /-- The work leaves the same without a transaction around it, also when it fails. -/
  direct : ∀ members,
    ((Procedure.addMembers s.outline a owner members).run env.identifiers office.desk).2 =
      (office.addMembers env s.model a owner members).2.desk

/-- What it means that removing members from an owner is the difference with them. -/
structure Removes (env : Surroundings) (office : Office) (s : Schema) (a : Association)
    (owner : Uuid) : Prop where
  /-- It is refused for the owner if the owner is not live, and only then. -/
  missing : ∀ members, (office.removeMembers env s.model a owner members).1 =
    throw (.notFound s!"{s.title} {owner.toText} not found") ↔
      ¬ office.desk.store.IsLive s.outline owner
  /-- It is refused for nothing else. -/
  refused : ∀ members refusal,
    (office.removeMembers env s.model a owner members).1 = throw refusal →
    ¬ office.desk.store.IsLive s.outline owner ∧
      (office.removeMembers env s.model a owner members).2 = office
  /-- Whatever the members, the answer is a live owner, to which they are not linked any more. -/
  difference : ∀ members, office.desk.store.IsLive s.outline owner →
    ∃ stored, (office.removeMembers env s.model a owner members).1 = pure stored ∧
      ((office.removeMembers env s.model a owner members).2.get env s.model owner).1 =
        pure stored ∧
      (office.removeMembers env s.model a owner members).2.desk.store.linkedTo a owner =
        office.desk.store.linkedTo a owner \ {v | v ∈ members}
  /-- Links of other owners, other tables and all rows stay as they are. -/
  frame : ∀ members, office.desk.store.SameBut
    (office.removeMembers env s.model a owner members).2.desk.store a owner
  /-- The work leaves the same without a transaction around it. -/
  direct : ∀ members,
    ((Procedure.removeMembers s.outline a owner members).run env.identifiers office.desk).2 =
      (office.removeMembers env s.model a owner members).2.desk

/-- The laws of sets for adding and removing members in turn. -/
structure Gathers (env : Surroundings) (office : Office) (s : Schema) (a : Association)
    (owner : Uuid) : Prop where
  /-- Adding twice is adding once. -/
  add_twice : ∀ members,
    (office.addMembers env s.model a owner members).2.addMembers env s.model a owner members =
      office.addMembers env s.model a owner members
  /-- Removing twice is removing once. -/
  remove_twice : ∀ members,
    (office.removeMembers env s.model a owner members).2.removeMembers env s.model a owner members =
      office.removeMembers env s.model a owner members
  /-- Neither order nor repetitions matter to adding: if the one succeeds, the other does with the
  same answer, and the stores differ in the order of links at most. -/
  add_order : ∀ members members', (∀ v, v ∈ members ↔ v ∈ members') →
    (∀ stored, (office.addMembers env s.model a owner members).1 = pure stored ↔
      (office.addMembers env s.model a owner members').1 = pure stored) ∧
    (office.addMembers env s.model a owner members).2.desk.store.SameLinks
      (office.addMembers env s.model a owner members').2.desk.store
  /-- Neither order nor repetitions matter to removing. -/
  remove_order : ∀ members members', (∀ v, v ∈ members ↔ v ∈ members') →
    office.removeMembers env s.model a owner members =
      office.removeMembers env s.model a owner members'
  /-- Adding some members and then others is adding all of them, if they can be added. -/
  append : ∀ members members' stored,
    (office.addMembers env s.model a owner (members ++ members')).1 = pure stored →
    (office.addMembers env s.model a owner members).2.addMembers env s.model a owner members' =
      office.addMembers env s.model a owner (members ++ members')
  /-- If the first can be added but not the others, the answer is that to adding all of them. -/
  append_answer : ∀ members members' stored,
    (office.addMembers env s.model a owner members).1 = pure stored →
    ((office.addMembers env s.model a owner members).2.addMembers env s.model a owner members').1 =
      (office.addMembers env s.model a owner (members ++ members')).1
  /-- If the first cannot be added, all of them are refused like the first. -/
  append_refused : ∀ members members' refusal,
    (office.addMembers env s.model a owner members).1 = throw refusal →
    (office.addMembers env s.model a owner (members ++ members')).1 = throw refusal
  /-- Removing undoes adding what was not linked. -/
  undo : ∀ members, (∀ v ∈ members, v ∉ office.desk.store.linkedTo a owner) →
    ((office.addMembers env s.model a owner members).2.removeMembers env s.model a owner
      members).2 = office

theorem Sound.adds (h : office.Sound) (env : Surroundings) (hs : s ∈ Catalogue.schemas)
    (ha : a ∈ s.associations) (owner : Uuid) : office.Adds env s a owner where
  missing members := by
    constructor
    · intro hrefused
      have hout := h.addOutcome env hs ha owner members
      generalize office.addMembers env s.model a owner members = out at hout hrefused
      cases hout with
      | missing howner => exact howner
      | unknown _ _ _ => cases hrefused
      | added _ _ _ => cases hrefused
    · intro howner
      rw [h.addMembers_of_missing env hs ha howner]
      rfl
  unknown members := by
    constructor
    · rintro ⟨errors, hrefused⟩
      have hout := h.addOutcome env hs ha owner members
      generalize office.addMembers env s.model a owner members = out at hout hrefused
      cases hout with
      | missing _ => cases hrefused
      | unknown howner _ hv =>
        exact ⟨howner, _, List.mem_append_right _ List.mem_cons_self, hv⟩
      | added _ _ _ => cases hrefused
    · rintro ⟨howner, v, hv, hdead⟩
      obtain ⟨before, w, after, rfl, hbefore, hw⟩ :=
        Store.exists_first_dead fun hall => hdead (hall v hv)
      rw [h.addMembers_of_unknown env hs ha howner hbefore hw]
      exact ⟨_, rfl⟩
  first before v after howner hbefore hv := by
    rw [h.addMembers_of_unknown env hs ha howner hbefore hv]
    rfl
  refused members refusal hrefused := by
    have hout := h.addOutcome env hs ha owner members
    generalize office.addMembers env s.model a owner members = out at hout hrefused ⊢
    cases hout with
    | missing _ => rfl
    | unknown _ _ _ => rfl
    | added _ _ _ => cases hrefused
  union members howner hmembers := by
    obtain ⟨stored, hget, hrun⟩ := h.addMembers_of_live env hs ha howner hmembers
    rw [hrun]
    exact ⟨stored, rfl, (get_eq_pure_iff (h.withLinked a owner members)).2 hget,
      Store.linkedTo_foldl_linked ..⟩
  frame members := by
    have hout := h.addOutcome env hs ha owner members
    generalize office.addMembers env s.model a owner members = out at hout
    cases hout with
    | missing _ => exact .refl ..
    | unknown _ _ _ => exact .refl ..
    | added _ _ _ => exact Store.sameBut_foldl_linked ..
  direct members := by
    have hout := h.addOutcome env hs ha owner members
    generalize office.addMembers env s.model a owner members = out at hout
    cases hout with
    | missing howner => rw [Procedure.run_addMembers_of_missing _ h.store.toReadable hs ha howner]
    | unknown howner hbefore hv =>
      rw [Procedure.run_addMembers_of_unknown _ h.store.toReadable hs ha howner hbefore hv]
    | added howner hmembers _ =>
      rw [Procedure.run_addMembers_of_live _ h.store.toReadable hs ha howner hmembers]
      rfl

theorem Sound.removes (h : office.Sound) (env : Surroundings) (hs : s ∈ Catalogue.schemas)
    (ha : a ∈ s.associations) (owner : Uuid) : office.Removes env s a owner where
  missing members := by
    have hout := h.removeOutcome env hs ha owner members
    generalize office.removeMembers env s.model a owner members = out at hout
    cases hout with
    | missing howner => exact iff_of_true rfl howner
    | removed howner _ => exact iff_of_false nofun (not_not_intro howner)
  refused members refusal hrefused := by
    have hout := h.removeOutcome env hs ha owner members
    generalize office.removeMembers env s.model a owner members = out at hout hrefused ⊢
    cases hout with
    | missing howner => exact ⟨howner, rfl⟩
    | removed _ _ => cases hrefused
  difference members howner := by
    obtain ⟨stored, hget, hrun⟩ := h.removeMembers_of_live env hs ha howner members
    rw [hrun]
    exact ⟨stored, rfl, (get_eq_pure_iff (h.withUnlinked a owner members)).2 hget,
      Store.linkedTo_foldl_unlinked ..⟩
  frame members := by
    have hout := h.removeOutcome env hs ha owner members
    generalize office.removeMembers env s.model a owner members = out at hout
    cases hout with
    | missing _ => exact .refl ..
    | removed _ _ => exact Store.sameBut_foldl_unlinked ..
  direct members := by
    have hout := h.removeOutcome env hs ha owner members
    generalize office.removeMembers env s.model a owner members = out at hout
    cases hout with
    | missing howner => rw [Procedure.run_removeMembers_of_missing _ h.store.toReadable hs howner]
    | removed howner _ =>
      rw [Procedure.run_removeMembers_of_live _ h.store.toReadable hs ha howner]
      rfl

/-! ### Adding and removing in turn -/

/-- Adding what cannot be added is refused and leaves the office as it was. -/
lemma Sound.addMembers_of_dead (h : office.Sound) (env : Surroundings) (hs : s ∈ Catalogue.schemas)
    (ha : a ∈ s.associations) (hdead : ¬ (office.desk.store.IsLive s.outline owner ∧
      ∀ v ∈ members, office.desk.store.IsLive a.member v)) :
    ∃ refusal, office.addMembers env s.model a owner members = (throw refusal, office) := by
  have hout := h.addOutcome env hs ha owner members
  generalize office.addMembers env s.model a owner members = out at hout
  cases hout with
  | missing _ => exact ⟨_, rfl⟩
  | unknown _ _ _ => exact ⟨_, rfl⟩
  | added howner hmembers _ => exact absurd ⟨howner, hmembers⟩ hdead

/-- What has been added could be added. -/
lemma Sound.live_of_addMembers (h : office.Sound) (hs : s ∈ Catalogue.schemas)
    (ha : a ∈ s.associations) {stored : Stored (Draft s.fields)}
    (hadded : (office.addMembers env s.model a owner members).1 = pure stored) :
    office.desk.store.IsLive s.outline owner ∧
      ∀ v ∈ members, office.desk.store.IsLive a.member v := by
  by_contra hdead
  obtain ⟨refusal, hrun⟩ := h.addMembers_of_dead env hs ha hdead
  rw [hrun] at hadded
  cases hadded

/-- Members are added to an owner that others have been added to before. -/
lemma Sound.addMembers_withLinked (h : office.Sound) (env : Surroundings)
    (hs : s ∈ Catalogue.schemas) (ha : a ∈ s.associations)
    (howner : office.desk.store.IsLive s.outline owner) (members : List Uuid)
    {members' : List Uuid}
    (hmembers' : ∀ v ∈ members', office.desk.store.IsLive a.member v) :
    ∃ stored,
      (Procedure.get s.model owner).ask
        ((members ++ members').foldl (·.linked a owner ·) office.desk.store) = pure stored ∧
      (office.withStore (members.foldl (·.linked a owner ·) office.desk.store)).addMembers env
          s.model a owner members' = (pure stored, office.withStore
            ((members ++ members').foldl (·.linked a owner ·) office.desk.store)) := by
  have hsame := office.desk.store.sameBut_foldl_linked a owner members
  rw [List.foldl_append]
  exact (h.withLinked a owner members).addMembers_of_live env hs ha
    ((hsame.isLive_iff _ _).2 howner) fun v hv => (hsame.isLive_iff _ _).2 (hmembers' v hv)

theorem Sound.gathers (h : office.Sound) (env : Surroundings) (hs : s ∈ Catalogue.schemas)
    (ha : a ∈ s.associations) (owner : Uuid) : office.Gathers env s a owner where
  add_twice members := by
    by_cases hlive : office.desk.store.IsLive s.outline owner ∧
        ∀ v ∈ members, office.desk.store.IsLive a.member v
    · obtain ⟨howner, hmembers⟩ := hlive
      obtain ⟨stored, hget, hrun⟩ := h.addMembers_of_live env hs ha howner hmembers
      obtain ⟨stored', hget', hrun'⟩ :=
        h.addMembers_withLinked env hs ha howner members hmembers
      rw [List.foldl_append, Store.foldl_linked_foldl_linked] at hget' hrun'
      rw [hrun, hrun', Attempt.pure_injective (hget'.symm.trans hget)]
    · obtain ⟨refusal, hrun⟩ := h.addMembers_of_dead env hs ha hlive
      rw [hrun]
      exact hrun
  remove_twice members := by
    by_cases howner : office.desk.store.IsLive s.outline owner
    · obtain ⟨stored, hget, hrun⟩ := h.removeMembers_of_live env hs ha howner members
      have hsame := office.desk.store.sameBut_foldl_unlinked a owner members
      obtain ⟨stored', hget', hrun'⟩ := (h.withUnlinked a owner members).removeMembers_of_live env
        hs ha ((hsame.isLive_iff _ _).2 howner) members
      rw [withStore_store, Store.foldl_unlinked_foldl_unlinked] at hget' hrun'
      rw [hrun, hrun', Attempt.pure_injective (hget'.symm.trans hget), withStore_withStore]
    · have hrun := h.removeMembers_of_missing env hs howner a members
      rw [hrun]
      exact hrun
  add_order members members' hsame := by
    by_cases hlive : office.desk.store.IsLive s.outline owner ∧
        ∀ v ∈ members, office.desk.store.IsLive a.member v
    · obtain ⟨howner, hmembers⟩ := hlive
      have hlinks := office.desk.store.sameLinks_foldl_linked a owner hsame
      obtain ⟨stored, hget, hrun⟩ := h.addMembers_of_live env hs ha howner hmembers
      obtain ⟨stored', hget', hrun'⟩ := h.addMembers_of_live env hs ha howner
        fun v hv => hmembers v ((hsame v).2 hv)
      rw [hlinks.ask, hget] at hget'
      rw [hrun, hrun', Attempt.pure_injective hget']
      exact ⟨fun _ => Iff.rfl, hlinks⟩
    · have hlive' : ¬ (office.desk.store.IsLive s.outline owner ∧
          ∀ v ∈ members', office.desk.store.IsLive a.member v) := by
        simpa only [hsame] using hlive
      obtain ⟨refusal, hrun⟩ := h.addMembers_of_dead env hs ha hlive
      obtain ⟨refusal', hrun'⟩ := h.addMembers_of_dead env hs ha hlive'
      rw [hrun, hrun']
      exact ⟨fun stored => iff_of_false nofun nofun, .refl _⟩
  remove_order members members' hsame := by
    by_cases howner : office.desk.store.IsLive s.outline owner
    · obtain ⟨stored, hget, hrun⟩ := h.removeMembers_of_live env hs ha howner members
      obtain ⟨stored', hget', hrun'⟩ := h.removeMembers_of_live env hs ha howner members'
      rw [← Store.foldl_unlinked_congr _ a owner hsame] at hget' hrun'
      rw [hrun, hrun', Attempt.pure_injective (hget'.symm.trans hget)]
    · rw [h.removeMembers_of_missing env hs howner, h.removeMembers_of_missing env hs howner]
  append members members' stored hadded := by
    obtain ⟨howner, hall⟩ := h.live_of_addMembers hs ha hadded
    obtain ⟨hmembers, hmembers'⟩ := List.forall_mem_append.1 hall
    obtain ⟨first, -, hfirst⟩ := h.addMembers_of_live env hs ha howner hmembers
    obtain ⟨second, hget, hsecond⟩ :=
      h.addMembers_withLinked env hs ha howner members hmembers'
    obtain ⟨both, hget', hboth⟩ := h.addMembers_of_live env hs ha howner hall
    rw [hfirst, hsecond, hboth, Attempt.pure_injective (hget.symm.trans hget')]
  append_answer members members' stored hadded := by
    obtain ⟨howner, hmembers⟩ := h.live_of_addMembers hs ha hadded
    obtain ⟨first, -, hfirst⟩ := h.addMembers_of_live env hs ha howner hmembers
    rw [hfirst]
    by_cases hmembers' : ∀ v ∈ members', office.desk.store.IsLive a.member v
    · obtain ⟨second, hget, hsecond⟩ :=
        h.addMembers_withLinked env hs ha howner members hmembers'
      obtain ⟨both, hget', hboth⟩ := h.addMembers_of_live env hs ha howner
        (List.forall_mem_append.2 ⟨hmembers, hmembers'⟩)
      rw [hsecond, hboth, Attempt.pure_injective (hget.symm.trans hget')]
    · obtain ⟨before, v, after, rfl, hbefore, hv⟩ := Store.exists_first_dead hmembers'
      have hsame := office.desk.store.sameBut_foldl_linked a owner members
      have hsecond := (h.withLinked a owner members).addMembers_of_unknown env hs ha
        ((hsame.isLive_iff _ _).2 howner) (fun w hw => (hsame.isLive_iff _ _).2 (hbefore w hw))
        (fun hlive => hv ((hsame.isLive_iff _ _).1 hlive)) after
      rw [hsecond, ← List.append_assoc, h.addMembers_of_unknown env hs ha howner
        (List.forall_mem_append.2 ⟨hmembers, hbefore⟩) hv]
  append_refused members members' refusal hrefused := by
    have hout := h.addOutcome env hs ha owner members
    generalize hrun : office.addMembers env s.model a owner members = out at hout hrefused
    cases hout with
    | missing howner =>
      rw [h.addMembers_of_missing env hs ha howner]
      exact hrefused
    | unknown howner hbefore hv =>
      rw [List.append_assoc, List.cons_append, h.addMembers_of_unknown env hs ha howner hbefore hv]
      exact hrefused
    | added _ _ _ => cases hrefused
  undo members hnew := by
    have hout := h.addOutcome env hs ha owner members
    generalize office.addMembers env s.model a owner members = out at hout
    cases hout with
    | missing howner => rw [h.removeMembers_of_missing env hs howner]
    | @unknown before after v howner _ _ =>
      obtain ⟨stored, -, hrun⟩ := h.removeMembers_of_live env hs ha howner (before ++ v :: after)
      rw [Store.foldl_unlinked_of_disjoint hnew] at hrun
      rw [hrun, withStore_self]
    | added howner _ _ =>
      have hsame := office.desk.store.sameBut_foldl_linked a owner members
      obtain ⟨stored, -, hrun⟩ := (h.withLinked a owner members).removeMembers_of_live env hs ha
        ((hsame.isLive_iff _ _).2 howner) members
      rw [withStore_store, Store.foldl_unlinked_foldl_linked hnew] at hrun
      rw [hrun, withStore_withStore, withStore_self]

/-! ### Every state -/

/-- Every operation keeps links joined. -/
lemma Sound.joined_perform (h : office.Sound) (hj : office.desk.store.Joined) {op : Operation}
    (hop : op.Served) : (op.perform env office).2.desk.store.Joined := by
  have heffect := h.effect env hop
  generalize (op.perform env office).1 = result at heffect
  generalize (op.perform env office).2.desk.store = st at heffect ⊢
  cases heffect with
  | refused _ => exact hj
  | got _ => exact hj
  | listed _ => exact hj
  | created _ _ _ _ => exact hj.ofRows rfl fun _ _ hv => hv.inserted _ _ _ _
  | updated _ _ _ _ => exact hj.ofRows rfl fun _ _ hv => Store.hasUuid_updated.2 hv
  | deleted _ => exact hj.ofRows rfl fun _ _ hv => Store.hasUuid_deleted.2 hv
  | @linked s a owner members _ howner hmembers =>
    obtain ⟨hs, ha⟩ := hop
    obtain ⟨⟨t, ht, hmember⟩, -⟩ := (Catalogue.fits hs).members a ha
    have hread := h.store.toReadable
    -- linking leaves the rows alone, so owner and members keep theirs
    refine (List.foldlRecOn (motive := fun st : Store =>
      st.Joined ∧ st.rows = office.desk.store.rows) members _ ⟨hj, rfl⟩ ?_).1
    intro st hst v hv
    refine ⟨hst.1.linked hs ha ?_ ?_, (st.linked_rows a owner v).trans hst.2⟩
    · rw [Store.HasUuid, hst.2]
      exact Procedure.hasUuid_of_live hread hs howner
    · rw [Store.HasUuid, hst.2, ← hmember]
      exact Procedure.hasUuid_of_live hread ht (hmember ▸ hmembers v hv)
  | unlinked => exact List.foldlRecOn _ _ hj fun st hst v _ => hst.unlinked _ _ v

/-- Links are joined in every state that the office gets into. -/
lemma Reachable.joined (h : Reachable env office) : office.desk.store.Joined := by
  induction h with
  | start => exact Store.joined_empty
  | step h hop ih => exact h.sound.joined_perform ih hop

/-- In every state that the office gets into, the members of an owner are a set: no pair is linked
twice, adding is the union and removing the difference, and their laws hold. -/
theorem Reachable.gathered (h : Reachable env office) (hs : s ∈ Catalogue.schemas)
    (ha : a ∈ s.associations) :
    office.desk.store.Joined ∧ ∀ owner, office.Adds env s a owner ∧ office.Removes env s a owner ∧
      office.Gathers env s a owner := by
  refine ⟨h.joined, fun owner => ⟨?_, ?_, ?_⟩⟩
  · exact h.sound.adds env hs ha owner
  · exact h.sound.removes env hs ha owner
  · exact h.sound.gathers env hs ha owner

/-- A driver of a van and of a bus that has been deleted, while another vehicle is not linked. -/
theorem gathered_driver_with_vehicles :
    let van := .cons (.filled "Van") (.cons (.filled "AB-12") (.cons (.filled 8) .nil))
    let bus := .cons (.filled "Bus") (.cons (.filled "CD-34") (.cons (.filled 50) .nil))
    let tram := .cons (.filled "Tram") (.cons (.filled "EF-56") (.cons (.filled 90) .nil))
    let ada := .cons (.filled "Ada") (.cons (.filled "Byron") (.cons (.filled "L-1815") .nil))
    let ops : List Operation := [.create Catalogue.vehicle none van,
      .create Catalogue.vehicle none bus, .create Catalogue.vehicle none tram,
      .create Catalogue.driver none ada,
      .addMembers Catalogue.driver Catalogue.driverVehicles (.ofNat 3) [.ofNat 1, .ofNat 1],
      .delete Catalogue.vehicle (.ofNat 1),
      .addMembers Catalogue.driver Catalogue.driverVehicles (.ofNat 3) [.ofNat 0]]
    let office := (ofLayout .office).after .counting ops
    Reachable .counting office ∧ Catalogue.driver ∈ Catalogue.schemas ∧
      Catalogue.driverVehicles ∈ Catalogue.driver.associations ∧
      office.desk.store.links "driver_vehicles" = [⟨.ofNat 3, .ofNat 1⟩, ⟨.ofNat 3, .ofNat 0⟩] ∧
      (office.desk.store.liveRows "vehicles").map (·.uuid) = [.ofNat 0, .ofNat 2] ∧
      office.desk.store.Joined ∧ ∀ owner,
        office.Adds .counting Catalogue.driver Catalogue.driverVehicles owner ∧
        office.Removes .counting Catalogue.driver Catalogue.driverVehicles owner ∧
        office.Gathers .counting Catalogue.driver Catalogue.driverVehicles owner := by
  intro van bus tram ada ops office
  have hschemas : Catalogue.vehicle ∈ Catalogue.schemas ∧ Catalogue.driver ∈ Catalogue.schemas := by
    decide
  have hvehicles : Catalogue.driverVehicles ∈ Catalogue.driver.associations :=
    List.mem_singleton_self _
  have hops : ∀ op ∈ ops, op.Served := by simp [ops, Operation.Served, hschemas, hvehicles]
  have hoffice : Reachable .counting office := Reachable.start.after hops
  exact ⟨hoffice, hschemas.2, hvehicles, by decide +kernel, by decide +kernel,
    Reachable.gathered hoffice hschemas.2 hvehicles⟩

end Office

end BookingOffice
