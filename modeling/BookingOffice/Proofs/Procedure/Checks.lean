import BookingOffice.Proofs.Procedure.Query
import BookingOffice.Proofs.Store.Sound

/-!
The checks before a write. Creating and updating an entity fall into checks, which only ask, and the
write (`Procedure.save_eq`, `Procedure.update_eq`), and so does linking members.

* `FieldErrors.Mark`: errors that give one message to exactly the fields with a property;
* `Procedure.ask_admitNew`, `Procedure.ask_admitUpdate`: a record is refused exactly for the
  identifier that a row has and the values that live rows have;
* `Procedure.ask_requireMembers`: members are refused for the first that is not live.
-/

namespace BookingOffice

/-! ### Errors with one message -/

namespace FieldErrors

/-- Whether exactly the fields with a property have an error, all with one message. -/
def Mark (errors : FieldErrors) (message : String) (P : String → Prop) : Prop :=
  ∀ k m, errors.get? k = some m ↔ P k ∧ m = message

variable {errors others : FieldErrors} {message : String} {P Q : String → Prop}

lemma mark_empty (message : String) : Mark .empty message fun _ => False := by
  intro k m
  simp [Dictionary.get?_empty]

lemma mark_single (field message : String) : (single field message).Mark message (· = field) := by
  intro k m
  rw [get?_single]
  split <;> simp_all [eq_comm]

/-- Messages in a list mark the fields that they are listed for. -/
lemma mark_ofList {es : List (String × String)} (h : ∀ k m, (k, m) ∈ es ↔ P k ∧ m = message) :
    (FieldErrors.ofList es).Mark message P := by
  intro k m
  rw [get?_ofList]
  constructor
  · intro hget
    exact (h k m).1 (Entries.mem_of_get? hget)
  · rintro ⟨hp, rfl⟩
    have hmem := (h k m).2 ⟨hp, rfl⟩
    cases hget : Entries.get? k es with
    | none => exact absurd rfl (Entries.get?_eq_none_iff.1 hget (k, m) hmem)
    | some m' => rw [((h k m').1 (Entries.mem_of_get? hget)).2]

lemma Mark.extend (h : errors.Mark message P) (h' : others.Mark message Q) :
    (errors.extend others).Mark message fun k => P k ∨ Q k := by
  intro k m
  rw [get?_extend, Option.or_eq_some_iff, h k m, h' k m]
  constructor
  · rintro (hp | ⟨-, hq⟩)
    · exact ⟨Or.inl hp.1, hp.2⟩
    · exact ⟨Or.inr hq.1, hq.2⟩
  · rintro ⟨hp | hq, hm⟩
    · exact Or.inl ⟨hp, hm⟩
    · by_cases hp : P k
      · exact Or.inl ⟨hp, hm⟩
      · refine Or.inr ⟨?_, hq, hm⟩
        exact Option.eq_none_iff_forall_ne_some.2 fun m' hm' => hp ((h k m').1 hm').1

/-- The marked fields and the message determine the errors. -/
lemma Mark.ext (h : errors.Mark message P) (h' : others.Mark message P) : errors = others :=
  Dictionary.ext_get? fun k => Option.ext fun m => (h k m).trans (h' k m).symm

lemma Mark.congr (h : errors.Mark message P) (hpq : ∀ k, P k ↔ Q k) : errors.Mark message Q :=
  fun k m => (h k m).trans (and_congr_left' (hpq k))

/-- Without a field to be marked there is no error. -/
lemma Mark.orResult_of_none {α : Type} (h : errors.Mark message P) (hnone : ∀ k, ¬ P k) (v : α) :
    errors.orResult v = .ok v :=
  orResult_eq_ok_iff.2
    ⟨fun k => Option.eq_none_iff_forall_ne_some.2 fun m hm => hnone k ((h k m).1 hm).1, rfl⟩

lemma Mark.orResult_of_some {α : Type} (h : errors.Mark message P) (hsome : ∃ k, P k) (v : α) :
    errors.orResult v = .error errors := by
  obtain ⟨k, hk⟩ := hsome
  cases hr : errors.orResult v with
  | ok w =>
    have hnone := (orResult_eq_ok_iff.1 hr).1 k
    rw [(h k message).2 ⟨hk, rfl⟩] at hnone
    cases hnone
  | error e => rw [eq_of_orResult_eq_error hr]

/-- Work that errors would have refused shows, if it ends with a value, that there are none. -/
lemma Mark.of_eq_pure {α : Type} {v w : α} (h : errors.Mark message P)
    (hpure : (pure w : Attempt Failure α) = .ofExcept ((errors.orResult v).mapError .invalid)) :
    w = v ∧ ∀ k, ¬ P k := by
  by_cases hsome : ∃ k, P k
  · rw [h.orResult_of_some hsome] at hpure
    cases hpure
  · rw [not_exists] at hsome
    rw [h.orResult_of_none hsome] at hpure
    exact ⟨Attempt.pure_injective hpure, hsome⟩

lemma Mark.throw_eq_iff {α : Type} (h : errors.Mark message P) (hsome : ∃ k, P k) :
    (throw (.invalid errors) : Attempt Failure α) = throw (.invalid others) ↔
      (∃ k, P k) ∧ others.Mark message P := by
  constructor
  · intro ht
    cases Attempt.throw_injective ht
    exact ⟨hsome, h⟩
  · rintro ⟨-, hothers⟩
    rw [h.ext hothers]

end FieldErrors

/-- The checked record of an entity is accepted. -/
lemma Schema.accepts_of_toRecord {s : Schema} (hs : s ∈ Catalogue.schemas)
    {draft : Draft s.fields} {record : Record} (h : s.model.toRecord draft = pure record) :
    s.Accepts record := by
  rw [Model.toRecord] at h
  split at h
  · exact Schema.accepts_of_validate (Catalogue.fits hs).names h
  · cases h

namespace Procedure

open Script (IsQuery)

variable {E : Type}

/-! ### Checks and writes -/

/-- The checks before an entity is stored. -/
def admitNew (m : Model E) (uuid : Option Uuid) (entity : E) : Script Record := do
  let record ← Script.ofAttempt .invalid (m.toRecord entity)
  let taken ← takenUuid m.schema uuid
  let repeated ← duplicates m.schema record none
  refuse (taken.extend repeated)
  return record

/-- The identifier for a new entity. -/
def choose : Option Uuid → Script Uuid
  | some uuid => pure uuid
  | none => Script.newIdentifier

/-- Stores a record that was admitted. -/
def enter (m : Model E) (uuid : Uuid) (record : Record) (now : Instant) : Script (Stored E) := do
  let affected ← Script.execute (.insert m.schema.outline uuid record now)
  if affected ≠ 1 then
    Script.fail (.backend s!"Insertion into {m.schema.table} affected {affected} rows")
  else get m uuid

lemma save_eq (m : Model E) (uuid : Option Uuid) (entity : E) (now : Instant) :
    save m uuid entity now = admitNew m uuid entity >>= fun record =>
      choose uuid >>= fun uuid => enter m uuid record now := by
  simp only [save, admitNew, bind_assoc, pure_bind]
  cases uuid <;> rfl

/-- The checks before an entity is updated. -/
def admitUpdate (m : Model E) (uuid : Uuid) (entity : E) : Script Record := do
  let record ← Script.ofAttempt .invalid (m.toRecord entity)
  if !(← isLive m.schema.outline uuid) then Script.fail .notFound
  else
    let repeated ← duplicates m.schema record (some uuid)
    refuse repeated
    return record

/-- Replaces the record of an entity by one that was admitted. -/
def rewrite (m : Model E) (uuid : Uuid) (record : Record) (now : Instant) : Script (Stored E) := do
  let affected ← Script.execute (.update m.schema.outline uuid record now)
  if affected = 0 then Script.fail .notFound else get m uuid

lemma update_eq (m : Model E) (uuid : Uuid) (entity : E) (now : Instant) :
    update m uuid entity now =
      admitUpdate m uuid entity >>= fun record => rewrite m uuid record now := by
  simp only [update, admitUpdate, bind_assoc]
  refine bind_congr fun record => bind_congr fun live => ?_
  cases live <;> simp [bind_assoc, rewrite]
  rfl

/-- The checks before members are linked to an owner. -/
def admitMembers (o : Outline) (a : Association) (owner : Uuid) (members : List Uuid) :
    Script Unit := do
  if !(← isLive o owner) then Script.fail .notFound
  else requireMembers a members

/-- Carries out changes of links, one for each member. -/
def forMembers (change : Uuid → Statement.Change) (members : List Uuid) : Script Unit :=
  members.forM fun member => do
    let _ ← Script.execute (change member)

lemma addMembers_eq (o : Outline) (a : Association) (owner : Uuid) (members : List Uuid) :
    addMembers o a owner members =
      admitMembers o a owner members >>= fun _ => forMembers (.link a owner) members := by
  simp only [addMembers, admitMembers, bind_assoc]
  refine bind_congr fun live => ?_
  cases live <;> simp [forMembers]
  rfl

/-- The check before members are removed from an owner. -/
def admitOwner (o : Outline) (owner : Uuid) : Script Unit := do
  if !(← isLive o owner) then Script.fail .notFound

lemma removeMembers_eq (o : Outline) (a : Association) (owner : Uuid) (members : List Uuid) :
    removeMembers o a owner members =
      admitOwner o owner >>= fun _ => forMembers (.unlink a owner) members := by
  simp only [removeMembers, admitOwner, bind_assoc]
  refine bind_congr fun live => ?_
  cases live <;> simp [forMembers]
  rfl

lemma isQuery_admitNew (m : Model E) (uuid : Option Uuid) (entity : E) :
    IsQuery (admitNew m uuid entity) :=
  (IsQuery.ofAttempt _ _).bind fun _ => (isQuery_takenUuid _ _).bind fun _ =>
    (isQuery_duplicates _ _ _).bind fun _ => (isQuery_refuse _).bind fun _ => .pure _

lemma isQuery_admitUpdate (m : Model E) (uuid : Uuid) (entity : E) :
    IsQuery (admitUpdate m uuid entity) := by
  refine (IsQuery.ofAttempt _ _).bind fun _ => (isQuery_isLive _ _).bind fun live => ?_
  cases live with
  | true => exact (isQuery_duplicates _ _ _).bind fun _ => (isQuery_refuse _).bind fun _ => .pure _
  | false => exact .fail _

lemma isQuery_admitOwner (o : Outline) (owner : Uuid) : IsQuery (admitOwner o owner) := by
  refine (isQuery_isLive _ _).bind fun live => ?_
  cases live with
  | true => exact .pure _
  | false => exact .fail _

lemma isQuery_admitMembers (o : Outline) (a : Association) (owner : Uuid) (members : List Uuid) :
    IsQuery (admitMembers o a owner members) := by
  refine (isQuery_isLive _ _).bind fun live => ?_
  cases live with
  | true => exact isQuery_requireMembers a members
  | false => exact .fail _

/-! ### What the checks come to -/

variable {st : Store} {s : Schema} {record : Record}

/-- The message for a value that has to be new but is not. -/
def repeatedMessage : String := "already exists"

lemma ask_takenUuid (st : Store) (s : Schema) (uuid : Option Uuid) :
    ∃ errors : FieldErrors, (takenUuid s uuid).ask st = pure errors ∧
      errors.Mark repeatedMessage fun k =>
        k = "uuid" ∧ ∃ u, uuid = some u ∧ st.HasUuid s.table u := by
  cases uuid with
  | none =>
    refine ⟨.empty, rfl, (FieldErrors.mark_empty _).congr fun k => ?_⟩
    simp
  | some u =>
    refine ⟨_, rfl, ?_⟩
    have hpos := st.count_any_pos_iff s.outline u
    by_cases hused : st.HasUuid s.table u
    · rw [if_pos (hpos.2 hused)]
      refine (FieldErrors.mark_single _ _).congr fun k => ?_
      simp [hused]
    · rw [if_neg fun h => hused (hpos.1 h)]
      refine (FieldErrors.mark_empty _).congr fun k => ?_
      simp [hused]

/-- A record has a text in each field that has to differ. -/
lemma exists_text_of_unique (hs : s ∈ Catalogue.schemas) (hrecord : s.Accepts record) {f : Field}
    (hf : f ∈ s.fields) (hunique : f.unique = true) : ∃ t, record.get? f.name = some (.text t) := by
  obtain ⟨v, hv, hp⟩ := hrecord.passes f hf
  obtain ⟨t, rfl⟩ := hp.exists_text ((Catalogue.fits hs).unique f hf hunique)
  exact ⟨t, hv⟩

/-- How often other live rows have the value of a record in a field. -/
def numberOfRepeats (st : Store) (s : Schema) (record : Record) (exclude : Option Uuid)
    (f : Field) : Nat :=
  st.count (.duplicates s.outline f.name (Statement.valueOf record f.name f.kind) exclude)

lemma numberOfRepeats_pos_iff (st : Store) (hs : s ∈ Catalogue.schemas)
    (hrecord : s.Accepts record) (exclude : Option Uuid) {f : Field} (hf : f ∈ s.fields)
    (hunique : f.unique = true) :
    0 < numberOfRepeats st s record exclude f ↔ st.Repeats s record exclude f.name := by
  obtain ⟨t, ht⟩ := exists_text_of_unique hs hrecord hf hunique
  rw [numberOfRepeats, Statement.valueOf, ht, Option.getD_some, Store.count_duplicates_pos_iff]
  constructor
  · rintro ⟨row, hrow, hcell, hne⟩
    exact ⟨f, hf, rfl, hunique, _, ht, row, hrow, hcell, hne⟩
  · rintro ⟨g, hg, hname, -, v, hv, row, hrow, hcell, hne⟩
    rw [ht] at hv
    cases hv
    exact ⟨row, hrow, hcell, hne⟩

/-- The values of a record that other live rows have but must not are found. -/
lemma ask_duplicates (st : Store) (hs : s ∈ Catalogue.schemas) (hrecord : s.Accepts record)
    (exclude : Option Uuid) :
    ∃ errors : FieldErrors, (duplicates s record exclude).ask st = pure errors ∧
      errors.Mark repeatedMessage (st.Repeats s record exclude) := by
  let number := numberOfRepeats st s record exclude
  let found := ((s.fields.filter (·.unique)).map fun f => (f.name, number f)).filter
    fun p => 0 < p.2
  refine ⟨.ofList (found.map fun p => (p.1, repeatedMessage)), ?_, FieldErrors.mark_ofList ?_⟩
  · simp only [duplicates, Script.ask_bind, Script.ask_mapM]
    rw [Traversal.mapM_eq_pure (g := fun f => (f.name, number f)) fun f hf => ?_]
    · rfl
    · obtain ⟨hf, hunique⟩ := List.mem_filter.1 hf
      obtain ⟨t, ht⟩ := exists_text_of_unique hs hrecord hf hunique
      simp only [number, numberOfRepeats, Statement.valueOf, ht, Option.getD_some]
      rfl
  · intro k m
    simp only [found, List.mem_map, List.mem_filter, decide_eq_true_eq, Prod.mk.injEq]
    constructor
    · rintro ⟨-, ⟨⟨f, ⟨hf, hunique⟩, rfl⟩, hpos⟩, rfl, rfl⟩
      exact ⟨(numberOfRepeats_pos_iff st hs hrecord exclude hf hunique).1 hpos, rfl⟩
    · rintro ⟨hrepeats, rfl⟩
      obtain ⟨f, hf, rfl, hunique, -⟩ := id hrepeats
      have hpos := (numberOfRepeats_pos_iff st hs hrecord exclude hf hunique).2 hrepeats
      exact ⟨_, ⟨⟨f, ⟨hf, hunique⟩, rfl⟩, hpos⟩, rfl, rfl⟩

/-- The errors that refuse a new entity: one for an identifier that a row has, be it deleted, and
one for each value that has to differ but is that of a live row. -/
def NewConflict (st : Store) (s : Schema) (uuid : Option Uuid) (record : Record) (k : String) :
    Prop :=
  (k = "uuid" ∧ ∃ u, uuid = some u ∧ st.HasUuid s.table u) ∨ st.Repeats s record none k

theorem ask_admitNew (st : Store) (hs : s ∈ Catalogue.schemas) {draft : Draft s.fields}
    (hrecord : s.model.toRecord draft = pure record) (uuid : Option Uuid) :
    ∃ errors : FieldErrors, errors.Mark repeatedMessage (NewConflict st s uuid record) ∧
      (admitNew s.model uuid draft).ask st =
        .ofExcept ((errors.orResult record).mapError .invalid) := by
  obtain ⟨taken, htaken, hmarkTaken⟩ := ask_takenUuid st s uuid
  obtain ⟨repeated, hrepeated, hmarkRepeated⟩ :=
    ask_duplicates st hs (Schema.accepts_of_toRecord hs hrecord) none
  refine ⟨taken.extend repeated, hmarkTaken.extend hmarkRepeated, ?_⟩
  simp only [admitNew, Schema.model_schema, Script.ask_bind, Script.ask_ofAttempt, hrecord,
    Attempt.adapt_pure, htaken, hrepeated, pure_bind, refuse, Script.ask_ofExcept, Script.ask_pure]
  simp only [FieldErrors.orResult]
  split <;> rfl

/-- What is admitted is the record of the entity, and it conflicts with nothing. -/
lemma ask_admitNew_eq_pure (hs : s ∈ Catalogue.schemas) {draft : Draft s.fields}
    {uuid : Option Uuid} (h : (admitNew s.model uuid draft).ask st = pure record) :
    s.model.toRecord draft = pure record ∧ ∀ k, ¬ NewConflict st s uuid record k := by
  obtain ⟨r, hr⟩ | ⟨e, he⟩ | ha := (s.model.toRecord draft).eq_pure_or_throw_or_abandon
  · obtain ⟨errors, hmark, hask⟩ := ask_admitNew st hs hr uuid
    obtain ⟨rfl, hnone⟩ := hmark.of_eq_pure (h.symm.trans hask)
    exact ⟨hr, hnone⟩
  · simp only [admitNew, Script.ask_bind, Script.ask_ofAttempt, he] at h
    cases h
  · simp only [admitNew, Script.ask_bind, Script.ask_ofAttempt, ha] at h
    cases h

theorem ask_admitUpdate (h : st.Readable) (hs : s ∈ Catalogue.schemas) {draft : Draft s.fields}
    (hrecord : s.model.toRecord draft = pure record) (uuid : Uuid) :
    ∃ errors : FieldErrors,
      errors.Mark repeatedMessage (st.Repeats s record (some uuid)) ∧
      (admitUpdate s.model uuid draft).ask st =
        if (st.lookup? s.outline uuid).isSome then
          .ofExcept ((errors.orResult record).mapError .invalid)
        else throw .notFound := by
  obtain ⟨errors, herrors, hmark⟩ :=
    ask_duplicates st hs (Schema.accepts_of_toRecord hs hrecord) (some uuid)
  refine ⟨errors, hmark, ?_⟩
  simp only [admitUpdate, Schema.model_schema, Script.ask_bind, Script.ask_ofAttempt, hrecord,
    Attempt.adapt_pure, ask_isLive h hs, pure_bind]
  cases (st.lookup? s.outline uuid).isSome with
  | false => rfl
  | true =>
    simp only [Bool.not_true, Bool.false_eq_true, if_false, Script.ask_bind, herrors, pure_bind,
      refuse, Script.ask_ofExcept, Script.ask_pure, if_true]
    simp only [FieldErrors.orResult]
    split <;> rfl

/-- What is admitted is the record of the contents, for a live row and without a conflict. -/
lemma ask_admitUpdate_eq_pure (h : st.Readable) (hs : s ∈ Catalogue.schemas)
    {draft : Draft s.fields} {uuid : Uuid}
    (hadmitted : (admitUpdate s.model uuid draft).ask st = pure record) :
    s.model.toRecord draft = pure record ∧ (st.lookup? s.outline uuid).isSome ∧
      ∀ k, ¬ st.Repeats s record (some uuid) k := by
  obtain ⟨r, hr⟩ | ⟨e, he⟩ | ha := (s.model.toRecord draft).eq_pure_or_throw_or_abandon
  · obtain ⟨errors, hmark, hask⟩ := ask_admitUpdate h hs hr uuid
    rw [hadmitted] at hask
    split at hask
    · next hlive =>
      obtain ⟨rfl, hnone⟩ := hmark.of_eq_pure hask
      exact ⟨hr, hlive, hnone⟩
    · cases hask
  · simp only [admitUpdate, Script.ask_bind, Script.ask_ofAttempt, he] at hadmitted
    cases hadmitted
  · simp only [admitUpdate, Script.ask_bind, Script.ask_ofAttempt, ha] at hadmitted
    cases hadmitted

/-- Members are refused for the first that is not live. -/
theorem ask_requireMembers (h : st.Readable) {a : Association}
    (ha : ∃ t ∈ Catalogue.schemas, t.outline = a.member) (members : List Uuid) :
    (requireMembers a members).ask st =
      match members.find? (fun v => (st.lookup? a.member v).isNone) with
      | none => pure ()
      | some v => throw (.invalid (.single a.name s!"unknown {a.member.name} {v.toText}")) := by
  obtain ⟨t, ht, hmember⟩ := ha
  rw [← hmember]
  induction members with
  | nil => rfl
  | cons v members ih =>
    have hcons : (requireMembers a (v :: members)).ask st =
        ((isLive a.member v).ask st >>= fun live => (if !live then Script.fail (.invalid
          (.single a.name s!"unknown {a.member.name} {v.toText}")) else pure ()).ask st) >>=
            fun _ => (requireMembers a members).ask st := by
      rw [← Script.ask_bind, ← Script.ask_bind]
      rfl
    rw [hcons, ← hmember, ask_isLive h ht, pure_bind, List.find?_cons]
    cases hlive : st.lookup? t.outline v with
    | some e => exact ih
    | none => rfl

/-- Linking is refused for an owner that is not live, and then for the first such member. -/
theorem ask_admitMembers (h : st.Readable) (hs : s ∈ Catalogue.schemas) {a : Association}
    (ha : a ∈ s.associations) (owner : Uuid) (members : List Uuid) :
    (admitMembers s.outline a owner members).ask st =
      if (st.lookup? s.outline owner).isSome then
        match members.find? (fun v => (st.lookup? a.member v).isNone) with
        | none => pure ()
        | some v => throw (.invalid (.single a.name s!"unknown {a.member.name} {v.toText}"))
      else throw .notFound := by
  rw [← ask_requireMembers h ((Catalogue.fits hs).members a ha).1]
  simp only [admitMembers, Script.ask_bind, ask_isLive h hs, pure_bind]
  cases (st.lookup? s.outline owner).isSome <;> rfl

lemma ask_admitMembers_eq_pure (h : st.Readable) (hs : s ∈ Catalogue.schemas) {a : Association}
    (ha : a ∈ s.associations) {owner : Uuid} {members : List Uuid}
    (hask : (admitMembers s.outline a owner members).ask st = pure ()) :
    (st.lookup? s.outline owner).isSome ∧ ∀ v ∈ members, (st.lookup? a.member v).isSome := by
  rw [ask_admitMembers h hs ha] at hask
  split at hask
  · next howner =>
    refine ⟨howner, fun v hv => ?_⟩
    split at hask
    · next hfind =>
      have := List.find?_eq_none.1 hfind v hv
      rwa [Option.isNone_iff_eq_none, ← ne_eq, ← Option.isSome_iff_ne_none] at this
    · cases hask
  · cases hask

lemma ask_admitOwner (h : st.Readable) (hs : s ∈ Catalogue.schemas) (owner : Uuid) :
    (admitOwner s.outline owner).ask st =
      if (st.lookup? s.outline owner).isSome then pure () else throw .notFound := by
  simp only [admitOwner, Script.ask_bind, ask_isLive h hs, pure_bind]
  cases (st.lookup? s.outline owner).isSome <;> rfl

end Procedure

end BookingOffice
