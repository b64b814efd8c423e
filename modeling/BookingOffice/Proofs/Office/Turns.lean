import BookingOffice.Proofs.Office.Members
import BookingOffice.Proofs.Procedure.Turns

/-!
Members of an owner under calls that take turns, each statement by statement and without a
transaction, in any order and together with deletions.

* `Shared.Keeps`: what turns keep, whatever the schedule;
* `Shared.Orderly`: what calls that take turns come to;
* `Office.Reachable.orderly`: they come to that from every state that the office gets into.
-/

namespace BookingOffice

namespace Shared

open Call (Calm Stage)

variable {ids : Nat → Uuid} {calls : List Call} {start : Store} {schedule : List Nat}
  {shared : Shared} {desk : Desk}

/-- Calls at a desk, before the first turn. -/
def ofCalls (desk : Desk) (calls : List Call) : Shared where
  desk := desk
  works := calls.map Call.script

/-- What turns keep. -/
structure Keeps (calls : List Call) (start : Store) (schedule : List Nat) (shared : Shared) :
    Prop where
  readable : shared.desk.store.Readable
  joined : shared.desk.store.Joined
  rows : Calm calls → shared.desk.store.rows = start.rows
  /-- A pair is linked if the last change of it says so, or if there has been none and it was. -/
  links : ∀ table l, l ∈ shared.desk.store.links table ↔
    shared.lastWord? table l = some true ∨
      shared.lastWord? table l = none ∧ l ∈ start.links table
  places : ∀ p ∈ shared.changes, p.1 < calls.length
  length : shared.works.length = calls.length
  /-- Every call is at a stage, and each of its turns was one statement of it. -/
  stages : ∀ i call, calls[i]? = some call → ∃ work left, shared.works[i]? = some work ∧
    left ≤ call.size - schedule.count i ∧
    Stage calls start shared.desk.store call (shared.changesOf i) left work

lemma keeps_ofCalls (hread : desk.store.Readable) (hj : desk.store.Joined) (calls : List Call) :
    Keeps calls desk.store [] (ofCalls desk calls) where
  readable := hread
  joined := hj
  rows _ := rfl
  links _ _ := ((or_iff_right nofun).trans (and_iff_right rfl)).symm
  places _ hp := absurd hp List.not_mem_nil
  length := List.length_map _
  stages i call hcall := by
    refine ⟨call.script, call.size, ?_, Nat.le_refl _, .waiting call⟩
    rw [ofCalls, List.getElem?_map, hcall]
    rfl

/-- A turn keeps what turns keep. -/
lemma Keeps.turn (h : Keeps calls start schedule shared) (hcalls : ∀ call ∈ calls, call.Served)
    (ids : Nat → Uuid) (i : Nat) : Keeps calls start (schedule ++ [i]) (shared.turn ids i) := by
  -- the turns of other calls are not counted
  have hcount : ∀ j, i ≠ j → (schedule ++ [i]).count j = schedule.count j := by
    intro j hne
    rw [List.count_append, List.count_singleton, if_neg (by simpa using hne), Nat.add_zero]
  cases hwork : shared.works[i]? with
  | none =>
    rw [turn_of_none hwork]
    refine { h with stages := fun j call hcall => ?_ }
    obtain ⟨work, left, hj, hleft, hstage⟩ := h.stages j call hcall
    have hne : i ≠ j := by
      rintro rfl
      rw [hwork] at hj
      cases hj
    exact ⟨work, left, hj, hcount j hne ▸ hleft, hstage⟩
  | some work =>
    have hi : i < calls.length := h.length ▸ (List.getElem?_eq_some_iff.1 hwork).1
    have hcall : calls[i]? = some calls[i] := List.getElem?_eq_getElem hi
    have hmem : calls[i] ∈ calls := List.getElem_mem hi
    obtain ⟨work', left, hwork', hleft, hstage⟩ := h.stages i _ hcall
    obtain rfl : work = work' := Option.some.inj (hwork.symm.trans hwork')
    obtain ⟨st', left', hdesk, hleft', hcarried, hnext⟩ :=
      hstage.turns ids (hcalls _ hmem) hmem h.readable h.rows
    have hstore : (shared.turn ids i).desk.store = st' := by
      rw [turn_of_some hwork, hdesk]
      rfl
    refine {
      readable := hstore ▸ hcarried.readable h.readable
      joined := hstore ▸ hcarried.joined h.joined
      rows := fun hcalm => ?_
      links := fun table l => ?_
      places := fun p hp => ?_
      length := (length_turn shared i).trans h.length
      stages := fun j call hj => ?_ }
    · rw [hstore, hcarried.rows, h.rows hcalm]
      rintro o uuid now hdelete
      have hissued : .delete o uuid now ∈ shared.changesOf i ++ work.change?.toList := by
        rw [hdelete]
        exact List.mem_append_right _ List.mem_cons_self
      exact hcalm _ hmem (Call.isDelete_of_mem_changes (hnext.issued_prefix.subset hissued))
    · rw [hstore, hcarried.mem_links_iff, h.links, lastWord?_turn hwork]
      cases work.change?.bind (·.word? table l) <;> simp
    · rw [turn_of_some hwork, List.mem_append] at hp
      obtain hp | hp := hp
      · exact h.places p hp
      · obtain ⟨c, -, rfl⟩ := Option.map_eq_some_iff.1 (Option.mem_toList.1 hp)
        exact hi
    · rw [hstore]
      by_cases hne : i = j
      · subst hne
        obtain rfl : calls[i] = call := Option.some.inj (hcall.symm.trans hj)
        refine ⟨_, left', getElem?_turn_self hwork, ?_, changesOf_turn_self hwork ▸ hnext⟩
        rw [List.count_append, List.count_singleton_self]
        omega
      · obtain ⟨other, left, hother, hleft, hstage⟩ := h.stages j call hj
        refine ⟨other, left, (getElem?_turn_of_ne hne).trans hother, hcount j hne ▸ hleft, ?_⟩
        rw [changesOf_turn_of_ne hne]
        exact hstage.mono hcarried.hasUuid

/-- Turns keep it, whatever their schedule. -/
theorem keeps_after (hread : desk.store.Readable) (hj : desk.store.Joined)
    (hcalls : ∀ call ∈ calls, call.Served) (ids : Nat → Uuid) (schedule : List Nat) :
    Keeps calls desk.store schedule ((ofCalls desk calls).after ids schedule) := by
  induction schedule using List.reverseRecOn with
  | nil => exact keeps_ofCalls hread hj calls
  | append_singleton schedule i ih =>
    rw [after_snoc]
    exact ih.turn hcalls ids i

/-- What calls that take turns come to. -/
structure Orderly (calls : List Call) (start : Store) (schedule : List Nat) (shared : Shared) :
    Prop where
  /-- Whenever a change is next, storage carries it out: it breaks no constraint, neither of links
  nor of the rows at their ends. -/
  carried : ∀ (i : Nat) (c : Statement.Change) (next : Nat → Script Unit),
    shared.works[i]? = some (.change c next) → ∃ n st, shared.desk.store.apply c = .ok (n, st)
  /-- A call that is over has succeeded, or something was not found. -/
  ended : ∀ (i : Nat) (result : Attempt Failure Unit), shared.works[i]? = some (.done result) →
    result = pure () ∨ result = throw .notFound ∨ ∃ errors, result = throw (.invalid errors)
  /-- It has succeeded if nothing is deleted and all that the calls need was live. -/
  calm : Calm calls → (∀ call ∈ calls, call.IsLive start) →
    ∀ (i : Nat) (result : Attempt Failure Unit), shared.works[i]? = some (.done result) →
      result = pure ()
  /-- A call is over once it has had a turn for each of its statements. -/
  ends : ∀ (i : Nat) (call : Call), calls[i]? = some call → call.size ≤ schedule.count i →
    ∃ result : Attempt Failure Unit, shared.works[i]? = some (.done result)
  /-- The changes that a call makes are its own, in their order, and all of them if it succeeds. -/
  made : ∀ (i : Nat) (call : Call), calls[i]? = some call → shared.changesOf i <+: call.changes ∧
    (shared.works[i]? = some (.done (pure ())) → shared.changesOf i = call.changes)
  /-- No pair is linked twice, and both ends of every link have rows. -/
  joined : shared.desk.store.Joined
  /-- A pair is linked if the last change of it has linked it, or if there has been none and it was
  linked at the start. -/
  links : ∀ table l, l ∈ shared.desk.store.links table ↔
    shared.lastWord? table l = some true ∨
      shared.lastWord? table l = none ∧ l ∈ start.links table
  /-- Calls that all link one live pair all succeed, and leave it linked once. -/
  agree : ∀ (s : Schema) (a : Association) (owner v : Uuid),
    calls ≠ [] → (∀ call ∈ calls, call = .addMembers s a owner [v]) →
    (start.lookup? s.outline owner).isSome → (start.lookup? a.member v).isSome →
    (∀ i < calls.length, ∃ result : Attempt Failure Unit,
      shared.works[i]? = some (.done result)) →
    (∀ work ∈ shared.works, work = .done (pure ())) ∧
      (shared.desk.store.links a.table).count ⟨owner, v⟩ = 1

namespace Keeps

/-- A call is at a stage. -/
lemma exists_stage (h : Keeps calls start schedule shared) {i : Nat} {work : Script Unit}
    (hwork : shared.works[i]? = some work) : ∃ call ∈ calls, ∃ left, calls[i]? = some call ∧
      Stage calls start shared.desk.store call (shared.changesOf i) left work := by
  have hi : i < calls.length := h.length ▸ (List.getElem?_eq_some_iff.1 hwork).1
  have hcall : calls[i]? = some calls[i] := List.getElem?_eq_getElem hi
  obtain ⟨work', left, hwork', -, hstage⟩ := h.stages i _ hcall
  obtain rfl : work = work' := Option.some.inj (hwork.symm.trans hwork')
  exact ⟨calls[i], List.getElem_mem hi, left, hcall, hstage⟩

lemma carried (h : Keeps calls start schedule shared) (hcalls : ∀ call ∈ calls, call.Served)
    {i : Nat} {c : Statement.Change} {next : Nat → Script Unit}
    (hwork : shared.works[i]? = some (.change c next)) :
    ∃ n st, shared.desk.store.apply c = .ok (n, st) := by
  obtain ⟨call, hmem, left, -, hstage⟩ := h.exists_stage hwork
  obtain ⟨st, -, -, -, hcarried, -⟩ :=
    hstage.turns (fun _ => default) (hcalls _ hmem) hmem h.readable h.rows
  obtain ⟨n, happly⟩ := hcarried.apply h.readable
  exact ⟨n, st, happly⟩

lemma eq_pure_of_calm (h : Keeps calls start schedule shared) (hcalm : Calm calls)
    (hlive : ∀ call ∈ calls, call.IsLive start) {i : Nat} {result : Attempt Failure Unit}
    (hwork : shared.works[i]? = some (.done result)) : result = pure () := by
  obtain ⟨call, hmem, left, -, hstage⟩ := h.exists_stage hwork
  obtain ⟨rfl, -⟩ | ⟨failure, -, -, hnot⟩ := hstage.of_done
  · rfl
  · exact absurd (hlive call hmem) (hnot hcalm)

lemma made (h : Keeps calls start schedule shared) {i : Nat} {call : Call}
    (hcall : calls[i]? = some call) : shared.changesOf i <+: call.changes ∧
      (shared.works[i]? = some (.done (pure ())) → shared.changesOf i = call.changes) := by
  obtain ⟨work, left, hwork, -, hstage⟩ := h.stages i call hcall
  refine ⟨hstage.issued_prefix, fun hdone => ?_⟩
  obtain rfl : work = .done (pure ()) := Option.some.inj (hwork.symm.trans hdone)
  obtain ⟨-, hissued⟩ | ⟨failure, hfailed, -⟩ := hstage.of_done
  · exact hissued
  · cases hfailed

/-- If all calls link one pair, there is no other change. -/
lemma eq_link_of_mem (h : Keeps calls start schedule shared) {s : Schema} {a : Association}
    {owner v : Uuid} (hcalls : ∀ call ∈ calls, call = .addMembers s a owner [v])
    {p : Nat × Statement.Change} (hp : p ∈ shared.changes) : p.2 = .link a owner v := by
  have hi := h.places p hp
  have hcall : calls[p.1]? = some (.addMembers s a owner [v]) := by
    rw [List.getElem?_eq_getElem hi, hcalls _ (List.getElem_mem hi)]
  have hmem : p.2 ∈ shared.changesOf p.1 :=
    List.mem_map.2 ⟨p, List.mem_filter.2 ⟨hp, decide_eq_true rfl⟩, rfl⟩
  exact List.mem_singleton.1 ((h.made hcall).1.subset hmem)

/-- A pair that all calls link is linked, and once, when they are over. -/
lemma agree (h : Keeps calls start schedule shared) {s : Schema} {a : Association}
    {owner v : Uuid} (hsome : calls ≠ [])
    (hcalls : ∀ call ∈ calls, call = .addMembers s a owner [v])
    (howner : (start.lookup? s.outline owner).isSome) (hmember : (start.lookup? a.member v).isSome)
    (hover : ∀ i < calls.length, ∃ result, shared.works[i]? = some (.done result)) :
    (∀ work ∈ shared.works, work = .done (pure ())) ∧
      (shared.desk.store.links a.table).count ⟨owner, v⟩ = 1 := by
  have hcalm : Calm calls := fun call hcall hdelete => by
    rw [hcalls call hcall] at hdelete
    exact hdelete
  have hlive : ∀ call ∈ calls, call.IsLive start := fun call hcall => by
    rw [hcalls call hcall]
    exact ⟨howner, List.forall_mem_singleton.2 hmember⟩
  have hdone : ∀ i < calls.length, shared.works[i]? = some (.done (pure ())) := by
    intro i hi
    obtain ⟨result, hresult⟩ := hover i hi
    rw [hresult, h.eq_pure_of_calm hcalm hlive hresult]
  constructor
  · intro work hwork
    obtain ⟨i, hi, rfl⟩ := List.getElem_of_mem hwork
    have hwork := hdone i (h.length ▸ hi)
    rw [List.getElem?_eq_getElem hi] at hwork
    exact Option.some.inj hwork
  · refine List.count_eq_one_of_mem (h.joined.once _) ((h.links _ _).2 (Or.inl ?_))
    -- the first call has linked the pair, and no change has said otherwise
    have hpos := List.length_pos_iff.2 hsome
    have hmade := (h.made (List.getElem?_eq_getElem hpos)).2 (hdone 0 hpos)
    rw [hcalls _ (List.getElem_mem hpos)] at hmade
    obtain ⟨p, hp, -⟩ : ∃ p ∈ shared.changes.filter (·.1 = 0), p.2 = .link a owner v := by
      rw [← List.mem_map, ← changesOf, hmade]
      exact List.mem_cons_self
    have hword : ∀ p ∈ shared.changes, p.2.word? a.table ⟨owner, v⟩ = some true := by
      intro p hp
      rw [h.eq_link_of_mem hcalls hp]
      exact if_pos ⟨rfl, rfl⟩
    have hp := List.mem_of_mem_filter hp
    have hne : shared.changes.filterMap (·.2.word? a.table ⟨owner, v⟩) ≠ [] :=
      List.ne_nil_of_mem (List.mem_filterMap.2 ⟨p, hp, hword p hp⟩)
    obtain ⟨q, hq, hlast⟩ := List.mem_filterMap.1 (List.getLast_mem hne)
    rw [lastWord?, List.getLast?_eq_some_getLast hne, ← hlast]
    exact hword q hq

end Keeps

/-- Calls that take turns come to what they should, from every store that can be read. -/
theorem orderly_after (hread : desk.store.Readable) (hj : desk.store.Joined)
    (hcalls : ∀ call ∈ calls, call.Served) (ids : Nat → Uuid) (schedule : List Nat) :
    Orderly calls desk.store schedule ((ofCalls desk calls).after ids schedule) := by
  have h := keeps_after hread hj hcalls ids schedule
  exact {
    carried := fun _ _ _ hwork => h.carried hcalls hwork
    ended := fun i result hwork => by
      obtain ⟨call, -, left, -, hstage⟩ := h.exists_stage hwork
      obtain ⟨rfl, -⟩ | ⟨failure, rfl, rfl | ⟨errors, rfl⟩, -⟩ := hstage.of_done
      · exact Or.inl rfl
      · exact Or.inr (Or.inl rfl)
      · exact Or.inr (Or.inr ⟨errors, rfl⟩)
    calm := fun hcalm hlive _ _ hwork => h.eq_pure_of_calm hcalm hlive hwork
    ends := fun i call hcall hturns => by
      obtain ⟨work, left, hwork, hleft, hstage⟩ := h.stages i call hcall
      rw [Nat.sub_eq_zero_of_le hturns, Nat.le_zero] at hleft
      obtain ⟨result, rfl⟩ := (hleft ▸ hstage).exists_done
      exact ⟨result, hwork⟩
    made := fun _ _ hcall => h.made hcall
    joined := h.joined
    links := h.links
    agree := fun _ _ _ _ hsome hcalls howner hmember hover =>
      h.agree hsome hcalls howner hmember hover }

end Shared

namespace Office

variable {env : Surroundings} {office : Office}

/-- From every state that the office gets into, calls that take turns come to what they should: for
any number of calls on any owners and members, and any order of their statements. -/
theorem Reachable.orderly (h : Reachable env office) {calls : List Call}
    (hcalls : ∀ call ∈ calls, call.Served) (schedule : List Nat) :
    Shared.Orderly calls office.desk.store schedule
      ((Shared.ofCalls office.desk calls).after env.identifiers schedule) :=
  Shared.orderly_after h.sound.store.toReadable h.joined hcalls env.identifiers schedule

/-- A van is deleted after it has been found twice; then it is linked, removed and linked again. -/
theorem orderly_deleted_van :
    let van := .cons (.filled "Van") (.cons (.filled "AB-12") (.cons (.filled 8) .nil))
    let ada := .cons (.filled "Ada") (.cons (.filled "Byron") (.cons (.filled "L-1815") .nil))
    let ops : List Operation :=
      [.create Catalogue.vehicle none van, .create Catalogue.driver none ada]
    let office := (ofLayout .office).after .counting ops
    let calls : List Call := [
      .addMembers Catalogue.driver Catalogue.driverVehicles (.ofNat 1) [.ofNat 0],
      .addMembers Catalogue.driver Catalogue.driverVehicles (.ofNat 1) [.ofNat 0],
      .removeMembers Catalogue.driver Catalogue.driverVehicles (.ofNat 1) [.ofNat 0],
      .delete Catalogue.vehicle (.ofNat 0) .epoch]
    let schedule := [0, 1, 0, 1, 3, 2, 0, 2, 1]
    let shared :=
      (Shared.ofCalls office.desk calls).after Surroundings.counting.identifiers schedule
    Reachable .counting office ∧ (∀ call ∈ calls, call.Served) ∧
      (shared.desk.store.liveRows "vehicles").length = 0 ∧
      shared.desk.store.links "driver_vehicles" = [⟨.ofNat 1, .ofNat 0⟩] ∧
      Shared.Orderly calls office.desk.store schedule shared := by
  intro van ada ops office calls schedule shared
  have hschemas : Catalogue.vehicle ∈ Catalogue.schemas ∧ Catalogue.driver ∈ Catalogue.schemas := by
    decide
  have hvehicles : Catalogue.driverVehicles ∈ Catalogue.driver.associations :=
    List.mem_singleton_self _
  have hops : ∀ op ∈ ops, op.Served := by simp [ops, Operation.Served, hschemas]
  have hcalls : ∀ call ∈ calls, call.Served := by simp [calls, Call.Served, hschemas, hvehicles]
  have hoffice : Reachable .counting office := Reachable.start.after hops
  exact ⟨hoffice, hcalls, by decide +kernel, by decide +kernel,
    Reachable.orderly hoffice hcalls schedule⟩

end Office

end BookingOffice
