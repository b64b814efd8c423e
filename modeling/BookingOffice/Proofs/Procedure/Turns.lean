import BookingOffice.Proofs.Procedure.Write
import BookingOffice.Proofs.Script.Turns
import BookingOffice.Proofs.Store.Links

/-!
Changes of members and deletions that take turns, each of them without a transaction. Between a
check and the change that it is for, other work may have its turns; but rows are never removed, so
what a check has found still has a row, and storage carries out every change.

* `Call`: work that changes links, or deletes an owner or a member;
* `Call.Stage`: where a call is, with what its checks have found;
* `Store.Carried`: a change that storage carries out, with what it leaves;
* `Call.Stage.step`: one turn, from one stage to the next;
* `Shared.Keeps`: what turns keep, for all calls and schedules.
-/

namespace BookingOffice

/-! ### Changes -/

namespace Store

variable {st st' : Store} {change : Option Statement.Change}

/-- A change of links or a deletion that breaks no constraint of a store, if there is one, and the
store after it. -/
inductive Carried (st : Store) : Option Statement.Change → Store → Prop
  | quiet : Carried st none st
  | linked {s : Schema} {a : Association} {owner member : Uuid} (hs : s ∈ Catalogue.schemas)
      (ha : a ∈ s.associations) (howner : st.HasUuid s.table owner)
      (hmember : st.HasUuid a.member.table member) :
      Carried st (some (.link a owner member)) (st.linked a owner member)
  | unlinked {s : Schema} {a : Association} {owner member : Uuid} (hs : s ∈ Catalogue.schemas)
      (ha : a ∈ s.associations) :
      Carried st (some (.unlink a owner member)) (st.unlinked a owner member)
  | deleted {s : Schema} {uuid : Uuid} {now : Instant} (hs : s ∈ Catalogue.schemas) :
      Carried st (some (.delete s.outline uuid now)) (st.deleted s.outline uuid now)

namespace Carried

/-- Storage carries out the change. -/
lemma apply {c : Statement.Change} (h : Carried st (some c) st') (hread : st.Readable) :
    ∃ n, st.apply c = .ok (n, st') := by
  cases h with
  | linked hs ha howner hmember => exact hread.apply_link hs ha howner hmember
  | unlinked hs ha => exact hread.apply_unlink hs ha _ _
  | deleted hs =>
    obtain ⟨n, happly, -⟩ := hread.apply_delete hs _ _
    exact ⟨n, happly⟩

lemma readable (h : Carried st change st') (hread : st.Readable) : st'.Readable := by
  cases h with
  | quiet => exact hread
  | linked _ _ _ _ => exact hread.linked _ _ _
  | unlinked _ _ => exact hread.withLinks _ _
  | deleted hs => exact hread.deleted hs _ _

lemma joined (h : Carried st change st') (hj : st.Joined) : st'.Joined := by
  cases h with
  | quiet => exact hj
  | linked hs ha howner hmember => exact hj.linked hs ha howner hmember
  | unlinked _ _ => exact hj.unlinked _ _ _
  | deleted _ => exact hj.ofRows rfl fun _ _ hv => hasUuid_deleted.2 hv

/-- Only a deletion changes rows. -/
lemma rows (h : Carried st change st')
    (hchange : ∀ o uuid now, change ≠ some (.delete o uuid now)) : st'.rows = st.rows := by
  cases h with
  | quiet => rfl
  | linked _ _ _ _ => exact linked_rows _ _ _ _
  | unlinked _ _ => rfl
  | deleted _ => exact absurd rfl (hchange _ _ _)

/-- Rows may be stamped, but none goes away. -/
lemma hasUuid (h : Carried st change st') {table : String} {v : Uuid} (hv : st.HasUuid table v) :
    st'.HasUuid table v := by
  cases h with
  | quiet => exact hv
  | linked _ _ _ _ =>
    rw [HasUuid, linked_rows]
    exact hv
  | unlinked _ _ => exact hv
  | deleted _ => exact hasUuid_deleted.2 hv

/-- A pair is linked after a change if the change says so, or says nothing and it was before. -/
lemma mem_links_iff (h : Carried st change st') (table : String) (l : Link) :
    l ∈ st'.links table ↔ change.bind (·.word? table l) = some true ∨
      change.bind (·.word? table l) = none ∧ l ∈ st.links table := by
  cases h with
  | quiet => rw [Option.bind_none, or_iff_right (Option.some_ne_none _).symm, and_iff_right rfl]
  | @linked s a owner member _ _ _ _ =>
    rw [Option.bind_some]
    by_cases ht : a.table = table
    · subst ht
      rw [mem_links_linked, Statement.Change.word?]
      grind
    · have hsame := st.sameBut_foldl_linked a owner [member]
      rw [show (st.linked a owner member).links table = st.links table from
        hsame.tables table fun he => ht he.symm]
      simp [Statement.Change.word?, ht]
  | @unlinked s a owner member _ _ =>
    rw [Option.bind_some]
    by_cases ht : a.table = table
    · subst ht
      rw [Store.unlinked, withLinks_links_self, List.mem_filter, Statement.Change.word?]
      grind
    · rw [Store.unlinked, withLinks_links_of_ne _ fun he => ht he.symm]
      simp [Statement.Change.word?, ht]
  | deleted _ =>
    simp only [Option.bind_some, Statement.Change.word?, reduceCtorEq, false_or, true_and]
    rfl

end Carried

end Store

/-! ### Calls -/

/-- Work that changes the links of an owner, or deletes an entity. -/
inductive Call where
  | addMembers (s : Schema) (a : Association) (owner : Uuid) (members : List Uuid)
  | removeMembers (s : Schema) (a : Association) (owner : Uuid) (members : List Uuid)
  | delete (s : Schema) (uuid : Uuid) (now : Instant)

namespace Call

open Procedure (forMembers requireMembers)

/-- The statements of a call. -/
def script : Call → Script Unit
  | addMembers s a owner members => Procedure.addMembers s.outline a owner members
  | removeMembers s a owner members => Procedure.removeMembers s.outline a owner members
  | delete s uuid now => Procedure.delete s.outline uuid now

/-- Whether the call is on entities that the office keeps and an association that they have. -/
def Served : Call → Prop
  | addMembers s a _ _ => s ∈ Catalogue.schemas ∧ a ∈ s.associations
  | removeMembers s a _ _ => s ∈ Catalogue.schemas ∧ a ∈ s.associations
  | delete s _ _ => s ∈ Catalogue.schemas

/-- Whether the call deletes an entity. -/
def IsDelete : Call → Prop
  | delete _ _ _ => True
  | _ => False

/-- Whether all that the call needs is live. -/
def IsLive (st : Store) : Call → Prop
  | addMembers s a owner members =>
    (st.lookup? s.outline owner).isSome ∧ ∀ v ∈ members, (st.lookup? a.member v).isSome
  | removeMembers s _ owner _ => (st.lookup? s.outline owner).isSome
  | delete s uuid _ => (st.lookup? s.outline uuid).isSome

/-- The changes of a call that is not refused, in their order. -/
def changes : Call → List Statement.Change
  | addMembers _ a owner members => members.map (.link a owner)
  | removeMembers _ a owner members => members.map (.unlink a owner)
  | delete s uuid now => [.delete s.outline uuid now]

/-- The number of statements of a call that is not refused. -/
def size : Call → Nat
  | addMembers _ _ _ members => members.length + members.length + 1
  | removeMembers _ _ _ members => members.length + 1
  | delete _ _ _ => 1

/-- What is left of adding members when the owner and some members have been checked. -/
def checking (a : Association) (owner : Uuid) (rest members : List Uuid) : Script Unit :=
  requireMembers a rest >>= fun _ => forMembers (.link a owner) members

/-- The failure for a member that is not live. -/
def unknownMember (a : Association) (member : Uuid) : Failure :=
  .invalid (.single a.name s!"unknown {a.member.name} {member.toText}")

lemma isLive_bind {α : Type} (o : Outline) (uuid : Uuid) (f : Bool → Script α) :
    Procedure.isLive o uuid >>= f = .count (.live o [uuid]) fun n => f (decide (0 < n)) := rfl

/-- What is refused is not gone on with. -/
lemma unless_bind {α β : Type} (live : Bool) (failure : Failure) (work : Script α)
    (f : α → Script β) :
    (if !live then .fail failure else work) >>= f =
      if live = true then work >>= f else .fail failure := by
  cases live <;> rfl

lemma forMembers_cons (change : Uuid → Statement.Change) (v : Uuid) (rest : List Uuid) :
    forMembers change (v :: rest) = .change (change v) fun _ => forMembers change rest := rfl

lemma checking_nil (a : Association) (owner : Uuid) (members : List Uuid) :
    checking a owner [] members = forMembers (.link a owner) members := rfl

lemma checking_cons (a : Association) (owner v : Uuid) (rest members : List Uuid) :
    checking a owner (v :: rest) members =
      .count (.live a.member [v]) fun n =>
        if 0 < n then checking a owner rest members else .fail (unknownMember a v) := by
  have hcons : requireMembers a (v :: rest) =
      (Procedure.isLive a.member v >>= fun live =>
        if !live then .fail (unknownMember a v) else pure ()) >>= fun _ => requireMembers a rest :=
    rfl
  rw [checking, hcons, bind_assoc, bind_assoc, isLive_bind]
  simp only [unless_bind, decide_eq_true_eq]
  rfl

lemma script_addMembers (s : Schema) (a : Association) (owner : Uuid) (members : List Uuid) :
    (addMembers s a owner members).script =
      .count (.live s.outline [owner]) fun n =>
        if 0 < n then checking a owner members members else .fail .notFound := by
  rw [script, Procedure.addMembers_eq, Procedure.admitMembers, bind_assoc, isLive_bind]
  simp only [unless_bind, decide_eq_true_eq]
  rfl

lemma script_removeMembers (s : Schema) (a : Association) (owner : Uuid) (members : List Uuid) :
    (removeMembers s a owner members).script =
      .count (.live s.outline [owner]) fun n =>
        if 0 < n then forMembers (.unlink a owner) members else .fail .notFound := by
  rw [script, Procedure.removeMembers_eq, Procedure.admitOwner, bind_assoc, isLive_bind]
  simp only [unless_bind, decide_eq_true_eq, pure_bind]

lemma script_delete (s : Schema) (uuid : Uuid) (now : Instant) :
    (delete s uuid now).script =
      .change (.delete s.outline uuid now) fun n =>
        if n = 0 then .fail .notFound else pure () := rfl

/-- A call whose changes hold a deletion is one. -/
lemma isDelete_of_mem_changes {call : Call} {o : Outline} {uuid : Uuid} {now : Instant}
    (h : .delete o uuid now ∈ call.changes) : call.IsDelete := by
  cases call with
  | addMembers _ _ _ _ =>
    obtain ⟨v, -, hv⟩ := List.mem_map.1 h
    cases hv
  | removeMembers _ _ _ _ =>
    obtain ⟨v, -, hv⟩ := List.mem_map.1 h
    cases hv
  | delete _ _ _ => trivial

/-! ### Stages -/

/-- Whether none of the calls deletes an entity. -/
def Calm (calls : List Call) : Prop := ∀ call ∈ calls, ¬ call.IsDelete

/-- Where a call is, one of several that started from a store, with the changes that it has made
and with as many statements left as a number at most. -/
inductive Stage (calls : List Call) (start st : Store) :
    Call → List Statement.Change → Nat → Script Unit → Prop
  /-- It has not had a turn. -/
  | waiting (call : Call) : Stage calls start st call [] call.size call.script
  /-- The owner and some members have been found. -/
  | checking {s : Schema} {a : Association} {owner : Uuid} {found rest : List Uuid}
      (howner : st.HasUuid s.table owner) (hfound : ∀ v ∈ found, st.HasUuid a.member.table v) :
      Stage calls start st (.addMembers s a owner (found ++ rest)) []
        (rest.length + (found ++ rest).length) (checking a owner rest (found ++ rest))
  /-- All members have been found, and some have been linked. -/
  | linking {s : Schema} {a : Association} {owner : Uuid} {linked rest : List Uuid}
      (howner : st.HasUuid s.table owner) (hrest : ∀ v ∈ rest, st.HasUuid a.member.table v) :
      Stage calls start st (.addMembers s a owner (linked ++ rest)) (linked.map (.link a owner))
        rest.length (forMembers (.link a owner) rest)
  /-- The owner has been found, and some links have been removed. -/
  | unlinking {s : Schema} {a : Association} {owner : Uuid} {removed rest : List Uuid} :
      Stage calls start st (.removeMembers s a owner (removed ++ rest))
        (removed.map (.unlink a owner)) rest.length (forMembers (.unlink a owner) rest)
  /-- The entity has been deleted. -/
  | deleted {s : Schema} {uuid : Uuid} {now : Instant} :
      Stage calls start st (.delete s uuid now) [.delete s.outline uuid now] 0 (.done (pure ()))
  /-- Something was not found. -/
  | refused {call : Call} {issued : List Statement.Change} {failure : Failure}
      (hissued : issued <+: call.changes)
      (hfailure : failure = .notFound ∨ ∃ errors, failure = .invalid errors)
      (hlive : Calm calls → ¬ call.IsLive start) :
      Stage calls start st call issued 0 (.done (throw failure))

namespace Stage

variable {calls : List Call} {start st st' : Store} {call : Call}
  {issued : List Statement.Change} {left : Nat} {work : Script Unit} {desk : Desk}

/-- What has been found is still there if no row goes away. -/
lemma mono (h : Stage calls start st call issued left work)
    (hst : ∀ {table v}, st.HasUuid table v → st'.HasUuid table v) :
    Stage calls start st' call issued left work := by
  cases h with
  | waiting call => exact .waiting call
  | checking howner hfound => exact .checking (hst howner) fun v hv => hst (hfound v hv)
  | linking howner hrest => exact .linking (hst howner) fun v hv => hst (hrest v hv)
  | unlinking => exact .unlinking
  | deleted => exact .deleted
  | refused hissued hfailure hlive => exact .refused hissued hfailure hlive

/-- A call makes its changes in their order. -/
lemma issued_prefix (h : Stage calls start st call issued left work) : issued <+: call.changes := by
  cases h with
  | waiting call => exact List.nil_prefix
  | checking _ _ => exact List.nil_prefix
  | linking _ _ => exact ⟨_, List.map_append.symm⟩
  | unlinking => exact ⟨_, List.map_append.symm⟩
  | deleted => exact List.prefix_rfl
  | refused hissued _ _ => exact hissued

/-- A call with no statements left is over. -/
lemma exists_done (h : Stage calls start st call issued 0 work) :
    ∃ result, work = .done result := by
  generalize hleft : 0 = left at h
  cases h with
  | waiting call => cases call <;> simp [size] at hleft
  | @checking s a owner found rest _ _ =>
    obtain ⟨hrest, hall⟩ := Nat.add_eq_zero_iff.1 hleft.symm
    rw [List.length_eq_zero_iff] at hrest hall
    rw [hall, hrest]
    exact ⟨_, rfl⟩
  | linking _ _ =>
    rw [List.length_eq_zero_iff.1 hleft.symm]
    exact ⟨_, rfl⟩
  | unlinking =>
    rw [List.length_eq_zero_iff.1 hleft.symm]
    exact ⟨_, rfl⟩
  | deleted => exact ⟨_, rfl⟩
  | refused _ _ _ => exact ⟨_, rfl⟩

/-- A call that is over has made all its changes, or something was not found. -/
lemma of_done {result : Attempt Failure Unit}
    (h : Stage calls start st call issued left (.done result)) :
    result = pure () ∧ issued = call.changes ∨
      ∃ failure, result = throw failure ∧
        (failure = .notFound ∨ ∃ errors, failure = .invalid errors) ∧
        (Calm calls → ¬ call.IsLive start) := by
  generalize hwork : Script.done result = work at h
  cases h with
  | waiting call =>
    cases call with
    | addMembers _ _ _ _ =>
      rw [script_addMembers] at hwork
      cases hwork
    | removeMembers _ _ _ _ =>
      rw [script_removeMembers] at hwork
      cases hwork
    | delete _ _ _ => cases hwork
  | @checking s a owner found rest _ _ =>
    cases rest with
    | nil =>
      cases found with
      | nil => exact Or.inl ⟨Script.done.inj hwork, rfl⟩
      | cons v found => cases hwork
    | cons v rest =>
      rw [checking_cons] at hwork
      cases hwork
  | @linking s a owner linked rest _ _ =>
    cases rest with
    | nil =>
      refine Or.inl ⟨Script.done.inj hwork, ?_⟩
      rw [changes, List.append_nil]
    | cons v rest => cases hwork
  | @unlinking s a owner removed rest =>
    cases rest with
    | nil =>
      refine Or.inl ⟨Script.done.inj hwork, ?_⟩
      rw [changes, List.append_nil]
    | cons v rest => cases hwork
  | deleted => exact Or.inl ⟨Script.done.inj hwork, rfl⟩
  | refused _ hfailure hlive => exact Or.inr ⟨_, Script.done.inj hwork, hfailure, hlive⟩

/-- What one turn of a call comes to: a change that storage carries out, or none, and a stage with
a statement less. -/
def Turns (calls : List Call) (start : Store) (ids : Nat → Uuid) (desk : Desk) (call : Call)
    (issued : List Statement.Change) (left : Nat) (work : Script Unit) : Prop :=
  ∃ st' left', (work.step ids desk).2 = desk.withStore st' ∧ left' ≤ left - 1 ∧
    desk.store.Carried work.change? st' ∧
    Stage calls start st' call (issued ++ work.change?.toList) left' (work.step ids desk).1

variable (ids : Nat → Uuid)

/-- A call that is over stays so. -/
lemma turns_done {result : Attempt Failure Unit}
    (h : Stage calls start desk.store call issued 0 (.done result)) :
    Turns calls start ids desk call issued left (.done result) :=
  ⟨desk.store, 0, rfl, Nat.zero_le _, .quiet, by
    rwa [Script.change?_done, Option.toList_none, List.append_nil]⟩

/-- A check finds a live row, or the call is refused. -/
lemma turns_count {o : Outline} {uuid : Uuid} {next : Script Unit} {failure : Failure}
    (hfound : 0 < desk.store.count (.live o [uuid]) →
      Stage calls start desk.store call issued left next)
    (hmissing : ¬ 0 < desk.store.count (.live o [uuid]) →
      Stage calls start desk.store call issued 0 (.done (throw failure))) :
    Turns calls start ids desk call issued (left + 1)
      (.count (.live o [uuid]) fun n => if 0 < n then next else .fail failure) := by
  by_cases hpos : 0 < desk.store.count (.live o [uuid])
  · refine ⟨desk.store, left, rfl, Nat.le_refl _, .quiet, ?_⟩
    rw [Script.step, if_pos hpos, Script.change?_count, Option.toList_none, List.append_nil]
    exact hfound hpos
  · refine ⟨desk.store, 0, rfl, Nat.zero_le _, .quiet, ?_⟩
    rw [Script.step, if_neg hpos, Script.change?_count, Option.toList_none, List.append_nil]
    exact hmissing hpos

/-- Storage carries out a change. -/
lemma turns_change {c : Statement.Change} {next : Nat → Script Unit} {n left' : Nat}
    (hcarried : desk.store.Carried (some c) st') (happly : desk.store.apply c = .ok (n, st'))
    (hleft : left' ≤ left - 1) (hnext : Stage calls start st' call (issued ++ [c]) left' (next n)) :
    Turns calls start ids desk call issued left (.change c next) := by
  have hstep : (Script.change c next).step ids desk = (next n, desk.withStore st') := by
    rw [Script.step, happly]
    rfl
  rw [Turns, hstep]
  exact ⟨st', left', rfl, hleft, hcarried, hnext⟩

/-- Members that have been found are linked. -/
lemma turns_linking {s : Schema} {a : Association} {owner : Uuid} {rest : List Uuid}
    (hserved : s ∈ Catalogue.schemas ∧ a ∈ s.associations) (hread : desk.store.Readable)
    (linked : List Uuid)
    (howner : desk.store.HasUuid s.table owner)
    (hrest : ∀ v ∈ rest, desk.store.HasUuid a.member.table v) :
    Turns calls start ids desk (.addMembers s a owner (linked ++ rest))
      (linked.map (.link a owner)) rest.length (forMembers (.link a owner) rest) := by
  cases rest with
  | nil => exact turns_done ids (.linking howner hrest)
  | cons v rest =>
    obtain ⟨hv, hrest⟩ := List.forall_mem_cons.1 hrest
    have hcarried := Store.Carried.linked hserved.1 hserved.2 howner hv
    obtain ⟨n, happly⟩ := hcarried.apply hread
    rw [forMembers_cons]
    refine turns_change ids hcarried happly (Nat.le_refl rest.length) ?_
    rw [← List.map_singleton, ← List.map_append, ← List.singleton_append, ← List.append_assoc]
    exact .linking (hcarried.hasUuid howner) fun w hw => hcarried.hasUuid (hrest w hw)

/-- Every turn of a call leads from one stage to the next. -/
theorem turns (h : Stage calls start desk.store call issued left work) (hserved : call.Served)
    (hcall : call ∈ calls) (hread : desk.store.Readable)
    (hrows : Calm calls → desk.store.rows = start.rows) :
    Turns calls start ids desk call issued left work := by
  -- what is not live is not live at the start either, unless something has been deleted
  have hstart : Calm calls → ∀ o, desk.store.lookup? o = start.lookup? o := fun hcalm o =>
    Store.lookup?_congr (congrFun (hrows hcalm) _)
  cases h with
  | waiting call =>
    cases call with
    | addMembers s a owner members =>
      obtain ⟨hs, ha⟩ := hserved
      rw [script_addMembers]
      refine turns_count ids (fun hpos => ?_) fun hpos => ?_
      · rw [hread.count_live_pos_iff hs] at hpos
        have howner := Procedure.hasUuid_of_live hread hs hpos
        exact @Stage.checking calls start desk.store s a owner [] members howner nofun
      · rw [hread.count_live_pos_iff hs] at hpos
        refine .refused List.nil_prefix (Or.inl rfl) fun hcalm hlive => hpos ?_
        rw [hstart hcalm]
        exact hlive.1
    | removeMembers s a owner members =>
      obtain ⟨hs, ha⟩ := hserved
      rw [script_removeMembers]
      refine turns_count ids (fun hpos => ?_) fun hpos => ?_
      · exact @Stage.unlinking calls start desk.store s a owner [] members
      · rw [hread.count_live_pos_iff hs] at hpos
        refine .refused List.nil_prefix (Or.inl rfl) fun hcalm hlive => hpos ?_
        rw [hstart hcalm]
        exact hlive
    | delete s uuid now =>
      obtain ⟨n, happly, -⟩ := hread.apply_delete hserved uuid now
      rw [script_delete]
      refine turns_change ids (.deleted hserved) happly (Nat.zero_le _) ?_
      split
      · refine .refused List.prefix_rfl (Or.inl rfl) fun hcalm => ?_
        exact absurd trivial (hcalm _ hcall)
      · exact .deleted
  | @checking s a owner found rest howner hfound =>
    obtain ⟨hs, ha⟩ := hserved
    cases rest with
    | nil =>
      rw [checking_nil, List.length_nil, Nat.zero_add, List.append_nil]
      exact turns_linking ids ⟨hs, ha⟩ hread [] howner hfound
    | cons v rest =>
      obtain ⟨⟨t, ht, hmember⟩, -⟩ := (Catalogue.fits hs).members a ha
      have hpos : 0 < desk.store.count (.live a.member [v]) ↔
          (desk.store.lookup? a.member v).isSome := by
        rw [← hmember]
        exact hread.count_live_pos_iff ht v
      rw [checking_cons, List.length_cons, Nat.succ_add]
      refine turns_count ids (fun hv => ?_) fun hv => ?_
      · rw [hpos, ← hmember] at hv
        rw [← List.singleton_append, ← List.append_assoc]
        refine .checking howner (List.forall_mem_append.2 ⟨hfound, ?_⟩)
        rw [List.forall_mem_singleton, ← hmember]
        exact Procedure.hasUuid_of_live hread ht hv
      · refine .refused List.nil_prefix (Or.inr ⟨_, rfl⟩) fun hcalm hlive => hv (hpos.2 ?_)
        rw [hstart hcalm]
        exact hlive.2 v (List.mem_append_right _ List.mem_cons_self)
  | @linking s a owner linked rest howner hrest =>
    exact turns_linking ids hserved hread linked howner hrest
  | @unlinking s a owner removed rest =>
    obtain ⟨hs, ha⟩ := hserved
    cases rest with
    | nil => exact turns_done ids .unlinking
    | cons v rest =>
      obtain ⟨n, happly⟩ := hread.apply_unlink hs ha owner v
      rw [forMembers_cons]
      refine turns_change ids (.unlinked hs ha) happly (Nat.le_refl rest.length) ?_
      rw [← List.map_singleton, ← List.map_append, ← List.singleton_append, ← List.append_assoc]
      exact .unlinking
  | deleted => exact turns_done ids .deleted
  | refused hissued hfailure hlive => exact turns_done ids (.refused hissued hfailure hlive)

end Stage

end Call

end BookingOffice
