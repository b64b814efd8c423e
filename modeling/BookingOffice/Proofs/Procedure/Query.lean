import BookingOffice.Proofs.Script.Query
import BookingOffice.Proofs.Store.Entries

/-!
What the questions of the office come to in a store that can be read: finding an entity, completing
it with what it is related to, and the checks before a write.

* `Procedure.ask_complete`: the entity of an entry with the details of `Store.related`;
* `Procedure.ask_get`: an entity is got if a live row has its identifier;
* `Procedure.ask_takenUuid`, `Procedure.ask_duplicates`: the errors of the checks, key by key.
-/

namespace BookingOffice

/-! ### Relations -/

namespace Store

/-- The detail of the live entity that a value refers to, or null. -/
def referred (st : Store) (target : Outline) : Option Value → Json
  | some (.uuid uuid) => Json.ofOption ((st.lookup? target uuid).map Entry.detail)
  | _ => .null

/-- The details of what an entry is related to, under the names of the relations. -/
def related (st : Store) (s : Schema) (e : Entry) : Dictionary Json :=
  .ofList (((s.fields.filterMap fun f => f.references.map (f, ·)).map fun p =>
      (p.1.relationName, st.referred p.2 (e.record.get? p.1.name))) ++
    s.associations.map fun a => (a.name, .array ((st.members a e.uuid).map Entry.detail)))

/-- The members of an owner are read from the rows that are selected for them. -/
lemma Readable.fetch_members {st : Store} (h : st.Readable) {a : Association}
    (ha : ∃ t ∈ Catalogue.schemas, t.outline = a.member) (owner : Uuid) :
    st.fetch (.members a owner) = .ok (st.members a owner) := by
  obtain ⟨t, ht, hmember⟩ := ha
  have hrows : ∀ row ∈ st.select (.members a owner), row ∈ st.liveRows t.table := by
    intro row hrow
    have := (mem_select_members_iff.1 hrow).1
    rwa [← hmember] at this
  rw [h.fetch_eq (q := .members a owner) ht hmember.symm hrows, members, hmember]

end Store

namespace Procedure

open Script (IsQuery)

variable {E : Type}

/-! ### The procedures that only ask -/

lemma isQuery_findRow (o : Outline) (uuid : Uuid) : IsQuery (findRow o uuid) :=
  (IsQuery.rowsOf _).bind fun _ => .pure _

lemma isQuery_isLive (o : Outline) (uuid : Uuid) : IsQuery (isLive o uuid) :=
  (IsQuery.numberOf _).bind fun _ => .pure _

lemma isQuery_reference (target : Outline) (value : Option Value) :
    IsQuery (reference target value) := by
  simp only [reference]
  split
  · exact (isQuery_findRow _ _).bind fun _ => .pure _
  · exact .pure _

lemma isQuery_references (fields : List Field) (record : Record) :
    IsQuery (references fields record) :=
  .mapM (fun _ => (isQuery_reference _ _).bind fun _ => .pure _) _

lemma isQuery_memberships (associations : List Association) (owner : Uuid) :
    IsQuery (memberships associations owner) :=
  .mapM (fun _ => (IsQuery.rowsOf _).bind fun _ => .pure _) _

lemma isQuery_complete (m : Model E) (e : Entry) : IsQuery (complete m e) :=
  (isQuery_references _ _).bind fun _ => (isQuery_memberships _ _).bind fun _ => .ofExcept _

lemma isQuery_duplicates (s : Schema) (record : Record) (exclude : Option Uuid) :
    IsQuery (duplicates s record exclude) := by
  refine (IsQuery.mapM (fun f => ?_) _).bind fun _ => .pure _
  split
  · exact .pure _
  · exact .pure _
  · exact (IsQuery.numberOf _).bind fun _ => .pure _

lemma isQuery_takenUuid (s : Schema) (uuid : Option Uuid) : IsQuery (takenUuid s uuid) := by
  cases uuid with
  | none => exact .pure _
  | some uuid => exact (IsQuery.numberOf _).bind fun _ => .pure _

lemma isQuery_refuse (errors : FieldErrors) : IsQuery (refuse errors) := .ofExcept _

lemma isQuery_get (m : Model E) (uuid : Uuid) : IsQuery (get m uuid) := by
  refine (isQuery_findRow _ _).bind fun entry => ?_
  cases entry with
  | none => exact .fail _
  | some e => exact isQuery_complete m e

lemma isQuery_list (m : Model E) (p : Parameters) : IsQuery (list m p) :=
  (IsQuery.numberOf _).bind fun _ => (IsQuery.rowsOf _).bind fun _ =>
    (IsQuery.mapM (isQuery_complete m) _).bind fun _ => .pure _

lemma isQuery_requireMembers (a : Association) (members : List Uuid) :
    IsQuery (requireMembers a members) := by
  refine .forM (fun member => (isQuery_isLive _ _).bind fun live => ?_) _
  cases live with
  | true => exact .pure _
  | false => exact .fail _

/-! ### Finding entities -/

variable {st : Store} {s : Schema}

lemma ask_findRow (h : st.Readable) (hs : s ∈ Catalogue.schemas) (uuid : Uuid) :
    (findRow s.outline uuid).ask st = pure (st.lookup? s.outline uuid) := by
  simp only [findRow, Script.ask_bind, Script.ask_rowsOf, h.fetch_live hs, Attempt.ofExcept_ok,
    pure_bind, Script.ask_pure]
  cases st.lookup? s.outline uuid <;> rfl

lemma ask_isLive (h : st.Readable) (hs : s ∈ Catalogue.schemas) (uuid : Uuid) :
    (isLive s.outline uuid).ask st = pure (st.lookup? s.outline uuid).isSome := by
  have hpos := h.count_live_pos_iff hs uuid
  simp only [isLive, Script.ask_bind, Script.ask_numberOf, pure_bind, Script.ask_pure, hpos,
    Bool.decide_eq_true]

lemma ask_reference (h : st.Readable) (hs : s ∈ Catalogue.schemas) (value : Option Value) :
    (reference s.outline value).ask st = pure (st.referred s.outline value) := by
  cases value with
  | none => rfl
  | some v =>
    cases v with
    | uuid uuid =>
      simp only [reference, Store.referred, Script.ask_bind, ask_findRow h hs, pure_bind,
        Script.ask_pure]
    | _ => rfl

lemma ask_references (h : st.Readable) (hs : s ∈ Catalogue.schemas) (record : Record) :
    (references s.fields record).ask st =
      pure ((s.fields.filterMap fun f => f.references.map (f, ·)).map fun p =>
        (p.1.relationName, st.referred p.2 (record.get? p.1.name))) := by
  rw [references, Script.ask_mapM]
  refine Traversal.mapM_eq_pure ?_
  rintro ⟨f, target⟩ hp
  obtain ⟨g, hg, htarget⟩ := List.mem_filterMap.1 hp
  obtain ⟨o, ho, he⟩ := Option.map_eq_some_iff.1 htarget
  obtain ⟨rfl, rfl⟩ := Prod.mk.inj he
  obtain ⟨t, ht, rfl⟩ := (Catalogue.fits hs).references g hg o ho
  simp only [Script.ask_bind, ask_reference h ht, pure_bind, Script.ask_pure]

lemma ask_memberships (h : st.Readable) (hs : s ∈ Catalogue.schemas) (owner : Uuid) :
    (memberships s.associations owner).ask st =
      pure (s.associations.map fun a =>
        (a.name, .array ((st.members a owner).map Entry.detail))) := by
  rw [memberships, Script.ask_mapM]
  refine Traversal.mapM_eq_pure fun a ha => ?_
  have hfetch := h.fetch_members ((Catalogue.fits hs).members a ha).1 owner
  simp only [Script.ask_bind, Script.ask_rowsOf, hfetch, Attempt.ofExcept_ok, pure_bind,
    Script.ask_pure]

/-- The entity of an entry is completed with the details of what the entry is related to. -/
theorem ask_complete (h : st.Readable) (hs : s ∈ Catalogue.schemas) (e : Entry) :
    (complete s.model e).ask st = .ofExcept (e.toStored s.model (st.related s e)) := by
  simp only [complete, Schema.model, Script.ask_bind, ask_references h hs, ask_memberships h hs,
    pure_bind, Script.ask_ofExcept]
  rfl

/-- An entity is got if a live row has its identifier. -/
theorem ask_get (h : st.Readable) (hs : s ∈ Catalogue.schemas) (uuid : Uuid) :
    (get s.model uuid).ask st =
      match st.lookup? s.outline uuid with
      | some e => .ofExcept (e.toStored s.model (st.related s e))
      | none => throw .notFound := by
  have hrow := ask_findRow h hs uuid
  simp only [get, Script.ask_bind]
  rw [show s.model.schema = s from rfl, hrow, pure_bind]
  cases st.lookup? s.outline uuid with
  | some e => exact ask_complete h hs e
  | none => rfl

/-- Getting an entity fails if there is none, or if the row makes no entity. -/
lemma eq_of_ask_get_eq_throw (h : st.Readable) (hs : s ∈ Catalogue.schemas) {uuid : Uuid}
    {failure : Failure} (hg : (get s.model uuid).ask st = throw failure) :
    failure = .notFound ∨ ∃ detail, failure = .integrity detail := by
  rw [ask_get h hs] at hg
  cases he : st.lookup? s.outline uuid with
  | none =>
    rw [he] at hg
    exact Or.inl (Attempt.throw_injective hg).symm
  | some e =>
    simp only [he, Entry.toStored] at hg
    cases hr : s.model.ofRecord e.record with
    | ok entity => rw [hr] at hg; cases hg
    | error message =>
      rw [hr] at hg
      exact Or.inr ⟨message, (Attempt.throw_injective hg).symm⟩

/-- An entity is got exactly from the live entry under its identifier. -/
theorem ask_get_eq_pure_iff (h : st.Readable) (hs : s ∈ Catalogue.schemas) {uuid : Uuid}
    {stored : Stored (Draft s.fields)} :
    (get s.model uuid).ask st = pure stored ↔
      ∃ e entity, st.lookup? s.outline uuid = some e ∧ s.model.ofRecord e.record = .ok entity ∧
        stored = ⟨uuid, e.createdAt, e.updatedAt, entity, st.related s e⟩ := by
  rw [ask_get h hs]
  cases he : st.lookup? s.outline uuid with
  | none => exact ⟨nofun, by rintro ⟨e, entity, hnone, -⟩; cases hnone⟩
  | some e =>
    have huuid := ((h.lookup?_eq_some_iff hs).1 he).2
    cases hr : s.model.ofRecord e.record with
    | error message =>
      simp only [Entry.toStored, hr]
      refine ⟨nofun, ?_⟩
      rintro ⟨e', entity, he', hok, -⟩
      cases he'
      rw [hr] at hok
      cases hok
    | ok entity =>
      have hstored : e.toStored s.model (st.related s e) =
          .ok ⟨uuid, e.createdAt, e.updatedAt, entity, st.related s e⟩ := by
        simp only [Entry.toStored, hr, huuid]
        rfl
      simp only [hstored, Attempt.ofExcept_ok]
      constructor
      · intro hp
        exact ⟨e, entity, rfl, hr, (Attempt.pure_injective hp).symm⟩
      · rintro ⟨e', entity', he', hok, rfl⟩
        cases he'
        rw [hr] at hok
        cases hok
        rfl

end Procedure

end BookingOffice
