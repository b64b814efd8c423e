import BookingOffice.Proofs.Entity.Lossless
import BookingOffice.Proofs.Office.Detail
import BookingOffice.Proofs.Office.Uniqueness

/-!
Entities that come from payloads. The entity that is built of a payload has the record that the
payload is checked to, so creating it fails for nothing but values and identifiers that are in use.
The errors of a payload are never under the name of a column that every table has, and new contents
change neither the identifier of a row nor its time of creation.

* `Schema.exists_record_of_ofPayload`: the record of an entity that is built of a payload;
* `Schema.get?_of_ofPayload_eq_throw`: where the errors of a payload are not;
* `Office.IsCreated`: what it means that an entity has been created;
* `Office.Sound.exists_isCreated`, `Office.Sound.create_of_conflict`: what creating one comes to;
* `Office.Sound.identities_update`: what an update does not change.
-/

namespace BookingOffice

/-! ### Payloads -/

/-- What storage keeps of a record can be written if the record can. -/
lemma Record.IsWritable.normal {record : Record} (h : record.IsWritable) :
    record.normal.IsWritable := by
  intro k v hv
  rw [Record.get?_normal] at hv
  obtain ⟨w, hw, rfl⟩ := Option.map_eq_some_iff.1 hv
  have hwritable := h k w hw
  cases w <;> exact hwritable

namespace Schema

variable {s : Schema} {record : Record} {body : Json} {draft : Draft s.fields}
  {errors : FieldErrors}

/-- The entity that is built of a payload has the record that the payload is checked to, and storage
can build it again. -/
lemma exists_record_of_ofPayload (hs : s ∈ Catalogue.schemas)
    (h : s.model.ofPayload body = pure draft) :
    ∃ record, s.validate body = pure record ∧ s.model.toRecord draft = pure record ∧
      s.Builds record.normal := by
  have hbuilds := buildsFrom hs body
  obtain ⟨record, hrecord⟩ | ⟨errors, herrors⟩ | habandon :=
    (s.validate body).eq_pure_or_throw_or_abandon
  · have hfits := Catalogue.fits hs
    have haccepts := accepts_of_validate hfits.names hrecord
    by_cases hwritable : record.IsWritable
    · obtain ⟨built, hbuilt, hpayload⟩ := hbuilds.built record hrecord hwritable
      obtain rfl := Attempt.pure_injective (h.symm.trans hpayload)
      exact ⟨record, hrecord, toRecord_of_ofRecord hfits.names hfits.times haccepts hbuilt,
        exists_ofRecord haccepts.normal hwritable.normal⟩
    · cases h.symm.trans (hbuilds.unwritable record hrecord hwritable)
  · cases h.symm.trans (hbuilds.errors errors herrors).1
  · cases h.symm.trans (hbuilds.abandoned habandon)

/-- The errors of a payload are those of its check, or there is one for the whole payload. -/
lemma eq_of_ofPayload_eq_throw (hs : s ∈ Catalogue.schemas)
    (h : s.model.ofPayload body = throw errors) :
    s.validate body = throw errors ∨ ∃ message, errors = .single "body" message := by
  have hbuilds := buildsFrom hs body
  obtain ⟨record, hrecord⟩ | ⟨others, hothers⟩ | habandon :=
    (s.validate body).eq_pure_or_throw_or_abandon
  · by_cases hwritable : record.IsWritable
    · obtain ⟨built, -, hpayload⟩ := hbuilds.built record hrecord hwritable
      cases h.symm.trans hpayload
    · exact .inr ⟨_, Attempt.throw_injective
        (h.symm.trans (hbuilds.unwritable record hrecord hwritable))⟩
  · obtain rfl := Attempt.throw_injective (h.symm.trans (hbuilds.errors others hothers).1)
    exact .inl hothers
  · cases h.symm.trans (hbuilds.abandoned habandon)

/-- A payload that is refused has an error. -/
lemma isEmpty_of_ofPayload_eq_throw (hs : s ∈ Catalogue.schemas)
    (h : s.model.ofPayload body = throw errors) : errors.isEmpty = false := by
  obtain hvalidate | ⟨message, rfl⟩ := eq_of_ofPayload_eq_throw hs h
  · cases body with
    | object members =>
      obtain ⟨found, -, hresult⟩ := exists_findings (congrArg Attempt.outcome hvalidate)
      exact FieldErrors.isEmpty_of_orResult_eq_error hresult
    | _ => obtain rfl := Attempt.throw_injective hvalidate; rfl
  · rfl

/-- None of its errors is under the name of a column that every table has. -/
lemma get?_of_ofPayload_eq_throw (hs : s ∈ Catalogue.schemas)
    (h : s.model.ofPayload body = throw errors) {name : String} (hname : name ∈ reservedColumns) :
    errors.get? name = none := by
  have hbody (message : String) : (FieldErrors.single "body" message).get? name = none := by
    rw [FieldErrors.get?_single, if_neg]
    rintro rfl
    exact absurd hname (by decide)
  obtain hvalidate | ⟨message, rfl⟩ := eq_of_ofPayload_eq_throw hs h
  · cases body with
    | object members =>
      refine Option.eq_none_iff_forall_ne_some.2 fun message hmessage => ?_
      have hkey : name ∈ errors.keys := Entries.mem_map_fst_iff.2 ⟨message, hmessage⟩
      obtain ⟨f, hf, rfl, -⟩ := ((buildsFrom hs _).errors errors hvalidate).2 members rfl name hkey
      exact (Catalogue.fits hs).notReserved f hf hname
    | _ => obtain rfl := Attempt.throw_injective hvalidate; exact hbody _
  · exact hbody message

/-- The members of a payload that belong to no field do not matter to the entity. -/
lemma ofPayload_congr {members others : List (String × Json)}
    (h : ∀ f ∈ s.fields, Entries.get? f.name others = Entries.get? f.name members) :
    s.model.ofPayload (.object others) = s.model.ofPayload (.object members) := by
  rw [Model.ofPayload, Model.ofPayload, model_schema, validate_congr h]

end Schema

/-! ### New entities -/

namespace Office

variable {env : Surroundings} {office : Office} {s : Schema} {record : Record}
  {given : Option Uuid} {draft : Draft s.fields}

/-- What it means that an entity has been created from a record, under the identifier that was given
or under the next one that is made. -/
structure IsCreated (env : Surroundings) (office : Office) (s : Schema) (given : Option Uuid)
    (record : Record) (stored : Stored (Draft s.fields)) (after : Office) : Prop where
  uuid : stored.uuid = given.getD (env.identifiers office.desk.issued)
  /-- No row had this identifier, be it deleted. -/
  fresh : ¬ office.desk.store.HasUuid s.table stored.uuid
  createdAt : stored.createdAt = (env.clock office.readings).kept
  updatedAt : stored.updatedAt = (env.clock office.readings).kept
  /-- The values are those of the record, as storage keeps them. -/
  values : stored.value? = record.normal.get?
  shows : after.Shows env s stored
  /-- One row has been added, and the clock has been read once. -/
  store : after.desk.store =
    office.desk.store.inserted s.outline stored.uuid record (env.clock office.readings)
  readings : after.readings = office.readings + 1

/-- An entity that conflicts with nothing is created, if the identifier that is made is new. -/
theorem Sound.exists_isCreated (h : office.Sound) (hs : s ∈ Catalogue.schemas)
    (hrecord : s.model.toRecord draft = pure record) (hbuilds : s.Builds record.normal)
    (hnew : (Operation.create s given draft).MakesNewUuid env office)
    (hfree : ∀ k, ¬ Procedure.NewConflict office.desk.store s given record k) :
    ∃ stored after, office.create env s.model given draft = (pure stored, after) ∧
      office.IsCreated env s given record stored after := by
  have hread := h.store.toReadable
  have hfits := Catalogue.fits hs
  have haccepts := Schema.accepts_of_toRecord hs hrecord
  have huuid : (office.desk.pick env.identifiers given).1 =
      given.getD (env.identifiers office.desk.issued) := by
    cases given <;> rfl
  have hfresh : ¬ office.desk.store.HasUuid s.table (office.desk.pick env.identifiers given).1 := by
    cases given with
    | none => exact hnew
    | some u => exact fun hused => hfree "uuid" (.inl ⟨rfl, u, rfl, hused⟩)
  have hrun := Procedure.run_save_of_fresh env.identifiers hread hs hrecord hfree hfresh
    (env.clock office.readings)
  -- what is got afterwards is the new entry
  obtain ⟨entity, hentity⟩ := hbuilds
  have hlookup := hread.lookup?_inserted hs haccepts hfresh (env.clock office.readings) hs
    (office.desk.pick env.identifiers given).1
  rw [if_pos ⟨rfl, rfl⟩] at hlookup
  have hinserted := hread.inserted hs haccepts hfresh (env.clock office.readings)
  rw [(Procedure.ask_get_eq_pure_iff hinserted hs).2 ⟨_, entity, hlookup, hentity, rfl⟩] at hrun
  have hcreate : office.create env s.model given draft = _ :=
    transact_of_run_eq_pure (h.readClock env).isOpen hrun
  refine ⟨_, _, hcreate, huuid, hfresh, rfl, rfl, ?_, ?_, rfl, rfl⟩
  · have hnormal := Schema.toRecord_of_ofRecord hfits.names hfits.times haccepts.normal hentity
    funext name
    simp only [Stored.value?, hnormal, Attempt.outcome_pure]
  · have hserved : (Operation.create s given draft).Served := hs
    have hshows := h.shows_entities hserved (congrArg Prod.fst hcreate) _ List.mem_cons_self
    rwa [show (Operation.create s given draft).perform env office = _ from hcreate] at hshows

/-- An entity that conflicts with rows is refused with an error for each conflict. All that is left
of the attempt is a reading of the clock. -/
theorem Sound.create_of_conflict (h : office.Sound) (env : Surroundings)
    (hs : s ∈ Catalogue.schemas) (hrecord : s.model.toRecord draft = pure record)
    (hsome : ∃ k, Procedure.NewConflict office.desk.store s given record k) :
    ∃ errors : FieldErrors, errors.Mark Procedure.repeatedMessage
        (Procedure.NewConflict office.desk.store s given record) ∧
      office.create env s.model given draft =
        (throw (.invalid errors), (office.readClock env).2) := by
  obtain ⟨errors, hmark, hrun⟩ := Procedure.run_save_of_conflict env.identifiers hs hrecord hsome
    (env.clock office.readings)
  have hcreate : office.create env s.model given draft = _ :=
    transact_of_run_eq_throw (h.readClock env).isOpen hrun
  rw [Refusal.ofEntity_eq_invalid_iff.2 rfl] at hcreate
  exact ⟨errors, hmark, hcreate⟩

/-! ### Identities -/

/-- The identifiers of the rows of a table, live or deleted, with their times of creation. -/
def identities (office : Office) (table : String) : List (Uuid × Cell) :=
  (office.desk.store.rows table).map fun row => (row.uuid, row.createdAt)

/-- New contents of an entity change no identifier and no time of creation. -/
theorem Sound.identities_update (h : office.Sound) (hs : s ∈ Catalogue.schemas) (uuid : Uuid)
    (draft : Draft s.fields) (table : String) :
    (office.update env s.model uuid draft).2.identities table = office.identities table := by
  have hserved : (Operation.update s uuid draft).Served := hs
  have heffect := h.effect env hserved
  simp only [Operation.perform] at heffect
  rw [identities, identities]
  generalize (office.update env s.model uuid draft).1 = result at heffect
  generalize (office.update env s.model uuid draft).2.desk.store = st at heffect ⊢
  cases heffect with
  | refused _ => rfl
  | updated _ _ _ _ =>
    by_cases htable : table = s.outline.table
    · rw [htable, Store.updated, Store.withRows_rows_self, List.map_map]
      refine List.map_congr_left fun row _ => ?_
      simp only [Function.comp]
      split <;> rfl
    · rw [Store.updated, Store.withRows_rows_of_ne _ htable]

end Office

end BookingOffice
