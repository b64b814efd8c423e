import BookingOffice.Proofs.Catalogue.Fit
import BookingOffice.Proofs.Schema.Verdict

/-!
Payloads, records and entities. A record that has passed the checks is written as JSON before an
entity is made of it. All its values can be written but one kind: a time that is before the year 0
once it is in UTC. So an entity can be made of the record unless it has such a time, and then
nothing is lost on the way.

* `Record.IsWritable`: whether the years that can be written hold all times of a record;
* `Schema.exists_ofRecord`, `Schema.ofRecord_of_not_isWritable`: which records make an entity;
* `Schema.buildsFrom`: so what payloads come to;
* `Schema.lossless_of_validate`: a record is what its own JSON is checked to, and the record of the
  entity that is made of it.
-/

namespace BookingOffice

/-! ### Values -/

/-- Whether a value can be written. The year of a time has to have four digits. -/
def Value.IsWritable : Value → Prop
  | .timestamp t => Rfc3339.hasFourDigitYear t
  | _ => True

instance : (v : Value) → Decidable v.IsWritable
  | .timestamp t => inferInstanceAs (Decidable (Rfc3339.hasFourDigitYear t))
  | .text _ | .uuid _ | .integer _ | .real _ | .null _ => .isTrue trivial

/-- Whether all values of a record can be written. -/
def Record.IsWritable (record : Record) : Prop :=
  ∀ k v, record.get? k = some v → v.IsWritable

instance (record : Record) : Decidable record.IsWritable :=
  decidable_of_iff (∀ p ∈ record.entries, p.2.IsWritable)
    ⟨fun h k v hv => h (k, v) (Dictionary.mem_entries_iff.2 hv),
      fun h p hp => h p.1 p.2 (Dictionary.mem_entries_iff.1 hp)⟩

namespace Value

/-- A value that can be written makes content of its kind. -/
lemma exists_content {kind : Kind} {v : Value} (hkind : v.kind = kind) (hnull : v.isNull = false)
    (hplain : v.IsPlain) (hwritable : v.IsWritable) :
    ∃ content, kind.contentOfJson v.toJson = .ok content := by
  subst hkind
  cases v with
  | null kind => cases hnull
  | text s => exact ⟨s, rfl⟩
  | uuid u =>
    refine ⟨u, ?_⟩
    simp only [toJson, Value.kind, Kind.contentOfJson, Uuid.ofText?_toText]
  | integer i =>
    refine ⟨i, ?_⟩
    have hint : (Json.int i).asInt? = some i := if_pos hplain
    exact if_pos (by rw [hint, Option.isSome_some])
  | real x => exact ⟨.finite x, rfl⟩
  | timestamp t =>
    obtain ⟨s, hs⟩ : ∃ s, Rfc3339.writeInstant? t = some s := ⟨_, if_pos hwritable⟩
    refine ⟨⟨t, 0⟩, ?_⟩
    simp only [toJson, Value.kind, hs, Kind.contentOfJson, Rfc3339.read?_writeInstant? hs]

/-- What cannot be written is a time, and stands as a null in JSON. -/
lemma toJson_of_not_isWritable {v : Value} (h : ¬ v.IsWritable) :
    v.kind = .timestamp ∧ v.isNull = false ∧ v.toJson = .null := by
  cases v with
  | timestamp t =>
    have hwrite : Rfc3339.writeInstant? t = none := if_neg h
    exact ⟨rfl, rfl, by rw [toJson, hwrite]⟩
  | _ => exact absurd trivial h

end Value

/-- A null is content of no kind. -/
lemma Kind.contentOfJson_null (kind : Kind) :
    kind.contentOfJson .null = .error (.mistyped .null kind.expectation) := by
  cases kind <;> rfl

/-! ### Fields -/

section

variable {f : Field} {v : Value}

/-- A value that passes and can be written is read back from what is written. -/
lemma Field.Passes.check_toJson (hv : f.Passes v) (hwritable : v.IsWritable) :
    f.check (some v.toJson) = pure v := by
  cases hv with
  | vacant optional =>
    rw [Value.toJson, check_of_isAbsent (Or.inr rfl), optional]
    rfl
  | present kind notNull plain checked =>
    obtain ⟨content, hcontent⟩ := Value.exists_content kind notNull plain hwritable
    obtain ⟨-, hne, hread⟩ := Kind.ofJson_of_contentOfJson kind notNull plain hcontent
    rw [check_some (by simpa [IsAbsent] using hne), hread, pure_bind, checked]
    rfl

/-- A value that passes and can be written fills a slot. -/
lemma Field.Passes.exists_slot (hv : f.Passes v) (hwritable : v.IsWritable) :
    ∃ slot, Slot.ofJson f v.toJson = .ok slot := by
  cases hv with
  | vacant optional =>
    refine ⟨.vacant optional, ?_⟩
    unfold Slot.ofJson
    split
    · rfl
    · next hno => exact absurd rfl (hno optional)
  | present kind notNull plain checked =>
    obtain ⟨content, hcontent⟩ := Value.exists_content kind notNull plain hwritable
    obtain ⟨-, hne, -⟩ := Kind.ofJson_of_contentOfJson kind notNull plain hcontent
    refine ⟨.filled content, ?_⟩
    unfold Slot.ofJson
    split
    · next hjson => exact absurd hjson hne
    · rw [hcontent]
      rfl

/-- A time that cannot be written does not, since a time is expected in place of the null. -/
lemma Field.Passes.slot_eq_error (hv : f.Passes v) (hreq : f.RequiresTime)
    (hwritable : ¬ v.IsWritable) :
    Slot.ofJson f v.toJson = .error (.mistyped .null Kind.timestamp.expectation) := by
  obtain ⟨hkind, -, hjson⟩ := Value.toJson_of_not_isWritable hwritable
  have hfkind : f.kind = .timestamp := hv.kind_eq.symm.trans hkind
  rw [hjson]
  unfold Slot.ofJson
  split
  · next hoptional _ =>
    rw [hreq hfkind] at hoptional
    cases hoptional
  · rw [Kind.contentOfJson_null]
    change Except.error _ = Except.error _
    rw [hfkind]

end

/-! ### Records -/

/-- The slots of a record that passes and can be written. -/
lemma Draft.exists_ofMembers {record : Record} {fields : List Field}
    (h : ∀ f ∈ fields, ∃ v, record.get? f.name = some v ∧ f.Passes v ∧ v.IsWritable) :
    ∃ draft, Draft.ofMembers fields record.toMembers = .ok draft := by
  induction fields with
  | nil => exact ⟨.nil, rfl⟩
  | cons f fields ih =>
    obtain ⟨v, hv, hpasses, hwritable⟩ := h f List.mem_cons_self
    obtain ⟨slot, hslot⟩ := hpasses.exists_slot hwritable
    obtain ⟨rest, hrest⟩ := ih fun g hg => h g (List.mem_cons_of_mem _ hg)
    have hget : Entries.get? f.name record.toMembers = some v.toJson := by
      rw [Record.get?_toMembers, hv]
      rfl
    refine ⟨.cons slot rest, ?_⟩
    simp only [Draft.ofMembers, hget, hslot, hrest]
    rfl

/-- Why a record with a time that cannot be written makes no entity. -/
def Misfit.timeless : Misfit := .mistyped .null Kind.timestamp.expectation

namespace Schema

variable {s : Schema} {record : Record}

/-- The value under the name of a field passes the field. -/
lemma Accepts.passes_of_get? (hrecord : s.Accepts record) {f : Field} (hf : f ∈ s.fields)
    {v : Value} (hv : record.get? f.name = some v) : f.Passes v := by
  obtain ⟨w, hw, hpasses⟩ := hrecord.passes f hf
  rw [hw] at hv
  rwa [← Option.some.inj hv]

/-- The member of a record belongs to a field. -/
lemma Accepts.exists_find? (hrecord : s.Accepts record) {m : String × Json}
    (hm : m ∈ record.toMembers) :
    ∃ f v, s.fields.find? (·.name == m.1) = some f ∧ record.get? m.1 = some v ∧ f.Passes v ∧
      m.2 = v.toJson := by
  obtain ⟨⟨k, v⟩, hp, rfl⟩ := List.mem_map.1 hm
  have hv := Dictionary.mem_entries_iff.1 hp
  obtain ⟨g, hg, hname⟩ := hrecord.fields k v hv
  cases hfind : s.fields.find? (·.name == k) with
  | none => exact absurd (List.find?_eq_none.1 hfind g hg) (by simp [hname])
  | some f =>
    have hf := List.mem_of_find?_eq_some hfind
    obtain rfl : f.name = k := by simpa using List.find?_some hfind
    exact ⟨f, v, rfl, hv, hrecord.passes_of_get? hf hv, rfl⟩

/-- An entity is made of every record that is accepted and can be written. -/
theorem exists_ofRecord (hrecord : s.Accepts record) (hwritable : record.IsWritable) :
    ∃ draft, s.model.ofRecord record = .ok draft := by
  obtain ⟨draft, hdraft⟩ := Draft.exists_ofMembers fun f hf => by
    obtain ⟨v, hv, hpasses⟩ := hrecord.passes f hf
    exact ⟨v, hv, hpasses, hwritable f.name v hv⟩
  have hfits : firstMisfit? s.fields record.toMembers = none := by
    refine List.findSome?_eq_none_iff.2 fun m hm => ?_
    obtain ⟨f, v, hfind, hv, hpasses, hjson⟩ := hrecord.exists_find? hm
    obtain ⟨slot, hslot⟩ := hpasses.exists_slot (hwritable m.1 v hv)
    rw [hfind, hjson]
    simp only [hslot]
  refine ⟨draft, ?_⟩
  have hjson : Draft.ofJson s.fields record.toJson = .ok draft := by
    rw [Record.toJson, Draft.ofJson, hfits]
    exact hdraft
  rw [ofRecord_eq, hjson]
  rfl

/-- None is made of a record with a time that cannot be written. -/
theorem ofRecord_of_not_isWritable (htime : ∀ f ∈ s.fields, f.RequiresTime)
    (hrecord : s.Accepts record) (hwritable : ¬ record.IsWritable) :
    s.model.ofRecord record = .error (s.model.recordMessage .timeless) := by
  have htimeless : ∀ misfit, firstMisfit? s.fields record.toMembers = some misfit →
      misfit = .timeless := by
    intro misfit h
    obtain ⟨m, hm, hmisfit⟩ := List.exists_of_findSome?_eq_some h
    obtain ⟨f, v, hfind, -, hpasses, hjson⟩ := hrecord.exists_find? hm
    rw [hfind, hjson] at hmisfit
    by_cases hv : v.IsWritable
    · obtain ⟨slot, hslot⟩ := hpasses.exists_slot hv
      simp only [hslot] at hmisfit
      cases hmisfit
    · have hslot := hpasses.slot_eq_error (htime f (List.mem_of_find?_eq_some hfind)) hv
      simp only [hslot] at hmisfit
      exact (Option.some.inj hmisfit).symm
  have hsome : (firstMisfit? s.fields record.toMembers).isSome := by
    simp only [Record.IsWritable, not_forall] at hwritable
    obtain ⟨k, v, hv, hno⟩ := hwritable
    have hm : (k, v.toJson) ∈ record.toMembers :=
      List.mem_map.2 ⟨_, Dictionary.mem_entries_iff.2 hv, rfl⟩
    obtain ⟨f, w, hfind, hw, hpasses, -⟩ := hrecord.exists_find? hm
    obtain rfl := Option.some.inj (hv.symm.trans hw)
    refine List.findSome?_isSome_iff.2 ⟨_, hm, ?_⟩
    have hslot := hpasses.slot_eq_error (htime f (List.mem_of_find?_eq_some hfind)) hno
    simp only [hfind, hslot]
    rfl
  obtain ⟨misfit, hmisfit⟩ := Option.isSome_iff_exists.1 hsome
  have hjson : Draft.ofJson s.fields record.toJson = .error .timeless := by
    rw [Record.toJson, Draft.ofJson, hmisfit, htimeless misfit hmisfit]
  rw [ofRecord_eq, hjson]
  rfl

lemma recordMessage_timeless (s : Schema) :
    s.model.recordMessage .timeless = s!"Cannot build {s.name} from record: " ++
      "invalid type: null, expected an RFC3339-formatted \x60OffsetDateTime\x60" := by
  have hmessage : Misfit.timeless.message =
      "invalid type: null, expected an RFC3339-formatted \x60OffsetDateTime\x60" := by decide
  rw [Model.recordMessage, hmessage]
  rfl

/-! ### Payloads -/

/-- A payload that is checked to such a record is refused as a whole. -/
lemma ofPayload_of_not_isWritable (hnd : s.fieldNames.Nodup)
    (htime : ∀ f ∈ s.fields, f.RequiresTime) {body : Json} (h : s.validate body = pure record)
    (hwritable : ¬ record.IsWritable) :
    s.model.ofPayload body = throw (.single "body" (s!"Cannot build {s.name} from record: " ++
      "invalid type: null, expected an RFC3339-formatted \x60OffsetDateTime\x60")) := by
  rw [Model.ofPayload, model_schema, h, pure_bind,
    ofRecord_of_not_isWritable htime (accepts_of_validate hnd h) hwritable,
    recordMessage_timeless]
  rfl

/-- A payload of which the checks make something makes a record. -/
lemma exists_validate_of_any (s : Schema) (body : Json) (p : Record → Bool)
    (h : ((s.validate body).outcome.bind (·.toOption)).any p) :
    ∃ record, s.validate body = pure record ∧ p record := by
  obtain ⟨record, hrecord, hp⟩ := (Option.any_eq_true _ _).1 h
  obtain ⟨result, hresult, hok⟩ := Option.bind_eq_some_iff.1 hrecord
  cases result with
  | ok other => exact ⟨other, hresult, Option.some.inj hok ▸ hp⟩
  | error errors => cases hok

/-- What it means that an entity is built of a payload if its record can be written, and only
then. -/
structure BuildsFrom (s : Schema) (body : Json) : Prop where
  /-- The flaws of the fields of an object are reported under their names. -/
  errors : ∀ errors, s.validate body = throw errors → s.model.ofPayload body = throw errors ∧
    ∀ members, body = .object members → ∀ k ∈ errors.keys, ∃ f ∈ s.fields, f.name = k ∧
      ∃ flaw, f.Verdict (Entries.get? f.name members) (.error flaw)
  abandoned : s.validate body = .abandon → s.model.ofPayload body = .abandon
  built : ∀ record, s.validate body = pure record → record.IsWritable →
    ∃ draft, s.model.ofRecord record = .ok draft ∧ s.model.ofPayload body = pure draft
  /-- A time that cannot be written is reported as a flaw of the whole payload. -/
  unwritable : ∀ record, s.validate body = pure record → ¬ record.IsWritable →
    s.model.ofPayload body = throw (.single "body" (s!"Cannot build {s.name} from record: " ++
      "invalid type: null, expected an RFC3339-formatted \x60OffsetDateTime\x60"))

/-- What payloads come to. -/
theorem buildsFrom (hs : s ∈ Catalogue.schemas) (body : Json) : s.BuildsFrom body where
  errors errors h := by
    constructor
    · rw [Model.ofPayload, model_schema, h]
      rfl
    · rintro members rfl k hk
      obtain ⟨found, hfs, hresult⟩ := exists_findings (congrArg Attempt.outcome h)
      obtain rfl := FieldErrors.eq_of_orResult_eq_error hresult
      exact (mem_keys_errors_iff (Catalogue.fits hs).names hfs).1 hk
  abandoned h := by
    rw [Model.ofPayload, model_schema, h]
    rfl
  built record h hwritable := by
    have hrecord := accepts_of_validate (Catalogue.fits hs).names h
    obtain ⟨draft, hdraft⟩ := exists_ofRecord hrecord hwritable
    refine ⟨draft, hdraft, ?_⟩
    rw [Model.ofPayload, model_schema, h, pure_bind, hdraft]
    rfl
  unwritable record h hwritable :=
    ofPayload_of_not_isWritable (Catalogue.fits hs).names (Catalogue.fits hs).times h hwritable

/-- The first hour of the year 0 is built of on a clock in UTC, but not on one that is an hour ahead
of UTC. -/
theorem buildsFrom_first_hour :
    let body (paidAt : String) : Json := .object [("amount", .int 5), ("method", .string "card"),
      ("paid_at", .string paidAt)]
    Catalogue.payment ∈ Catalogue.schemas ∧
      (∃ draft, Catalogue.payment.model.ofPayload (body "0000-01-01T00:00:00Z") = pure draft) ∧
      Catalogue.payment.model.ofPayload (body "0000-01-01T00:00:00+01:00") =
        throw (.single "body" ("Cannot build payment from record: invalid type: null, " ++
          "expected an RFC3339-formatted \x60OffsetDateTime\x60")) := by
  intro body
  have hpayment : Catalogue.payment ∈ Catalogue.schemas := by decide
  obtain ⟨record, hvalidate, hwritable⟩ := exists_validate_of_any Catalogue.payment
    (body "0000-01-01T00:00:00Z") (fun record => record.IsWritable) (by decide +kernel)
  obtain ⟨late, hlate, hno⟩ := exists_validate_of_any Catalogue.payment
    (body "0000-01-01T00:00:00+01:00") (fun record => ¬ record.IsWritable) (by decide +kernel)
  obtain ⟨draft, -, hdraft⟩ :=
    (buildsFrom hpayment _).built record hvalidate (by simpa using hwritable)
  exact ⟨hpayment, ⟨draft, hdraft⟩,
    (buildsFrom hpayment _).unwritable late hlate (by simpa using hno)⟩

/-- A payment in the first hour of the year 0, on a clock that is an hour ahead of UTC, passes the
checks and makes no entity. -/
theorem unbuilt_first_hour :
    let body : Json := .object [("amount", .int 5), ("method", .string "card"),
      ("paid_at", .string "0000-01-01T00:00:00+01:00")]
    let message := "Cannot build payment from record: invalid type: null, " ++
      "expected an RFC3339-formatted \x60OffsetDateTime\x60"
    (∃ record, Catalogue.payment.validate body = pure record) ∧
      Catalogue.payment.model.ofPayload body = throw (.single "body" message) := by
  intro body message
  have hfits := Catalogue.fits (s := Catalogue.payment) (by decide)
  obtain ⟨record, hvalidate, hno⟩ := exists_validate_of_any Catalogue.payment body
    (fun record => ¬ record.IsWritable) (by decide +kernel)
  exact ⟨⟨record, hvalidate⟩,
    ofPayload_of_not_isWritable hfits.names hfits.times hvalidate (by simpa using hno)⟩

/-- Whether the members of an object stand for the values of a record. -/
def Spells (s : Schema) (members : List (String × Json)) (record : Record) : Prop :=
  ∀ f ∈ s.fields, ∃ v, record.get? f.name = some v ∧ f.Spells (Entries.get? f.name members) v

/-- Objects that stand for an accepted record are checked to it. -/
lemma validate_of_spells (hnd : s.fieldNames.Nodup) (hrecord : s.Accepts record)
    {members : List (String × Json)} (h : s.Spells members record) :
    s.validate (.object members) = pure record := by
  refine validate_eq_pure hnd (fun f hf => ?_) hrecord.fields
  obtain ⟨v, hv, hspells⟩ := h f hf
  exact ⟨v, hv, (hrecord.passes_of_get? hf hv).check_eq_pure_iff.2 hspells⟩

/-- What an accepted record is written as stands for it. -/
lemma spells_toMembers (hrecord : s.Accepts record) (hwritable : record.IsWritable) :
    s.Spells record.toMembers record := by
  intro f hf
  obtain ⟨v, hv, hpasses⟩ := hrecord.passes f hf
  refine ⟨v, hv, ?_⟩
  rw [Record.get?_toMembers, hv]
  exact hpasses.check_eq_pure_iff.1 (hpasses.check_toJson (hwritable f.name v hv))

/-- What it means that a payload is checked to a record from which nothing is lost. -/
structure Lossless (s : Schema) (body : Json) (record : Record) : Prop where
  /-- The payload stands for the record, in some spelling. -/
  read : ∃ members, body = .object members ∧ s.Spells members record
  /-- So does what the record is written as. -/
  written : s.Spells record.toMembers record
  /-- Of the spellings of a record nothing is left. -/
  spellings : ∀ members, s.Spells members record → s.validate (.object members) = pure record
  /-- What is written is checked to the record again. -/
  again : s.validate record.toJson = pure record
  /-- An entity of the office is made of it, which is written as the record is and has this
  record. -/
  entity : s ∈ Catalogue.schemas → ∃ draft, s.model.ofRecord record = .ok draft ∧
    s.model.toJson draft = .ok record.toJson ∧ s.model.toRecord draft = pure record

/-- Nothing is lost from a record that has been checked, if its times can be written. -/
theorem lossless_of_validate (hnd : s.fieldNames.Nodup) {body : Json}
    (h : s.validate body = pure record) (hwritable : record.IsWritable) :
    s.Lossless body record := by
  have hrecord := accepts_of_validate hnd h
  have hwritten := spells_toMembers hrecord hwritable
  refine ⟨?_, hwritten, fun members => validate_of_spells hnd hrecord,
    validate_of_spells hnd hrecord hwritten, fun hs => ?_⟩
  · obtain ⟨members, rfl, hall, -⟩ := get?_of_validate hnd h
    refine ⟨members, rfl, fun f hf => ?_⟩
    obtain ⟨v, hv, hcheck⟩ := hall f hf
    exact ⟨v, hv, (Field.check_eq_pure hcheck).check_eq_pure_iff.1 hcheck⟩
  · obtain ⟨draft, hdraft⟩ := exists_ofRecord hrecord hwritable
    have htime := (Catalogue.fits hs).times
    exact ⟨draft, hdraft, toJson_of_ofRecord hnd htime hrecord hdraft,
      toRecord_of_ofRecord hnd htime hrecord hdraft⟩

/-- Identifiers in three spellings, and times with offsets, a leap second and digits that are
cut. -/
theorem lossless_trip :
    let u : Uuid := .ofNat 0x67e5504410b1426f9247bb680e5fe0c8
    let body : Json := .object [
      ("arrival_at", .string "2017-01-01t01:29:59.1234567+01:30"),
      ("departure_at", .string "2016-12-31T23:59:60.5Z"),
      ("driver_uuid", .string "67E5504410B1426F9247BB680E5FE0C8"),
      ("regularity_type_uuid", .string "67e55044-10b1-426f-9247-bb680e5fe0c8"),
      ("route_uuid", .string "\x7b67e55044-10b1-426f-9247-bb680e5fe0c8\x7d"),
      ("vehicle_uuid", .string "urn:uuid:67e55044-10b1-426f-9247-bb680e5fe0c8")]
    let record : Record := .ofList [
      ("route_uuid", .uuid u), ("vehicle_uuid", .uuid u), ("driver_uuid", .uuid u),
      ("regularity_type_uuid", .uuid u),
      ("departure_at", .timestamp ⟨1483228799999999000, by decide⟩),
      ("arrival_at", .timestamp ⟨1483228799123456000, by decide⟩)]
    Catalogue.trip.fieldNames.Nodup ∧ Catalogue.trip.validate body = pure record ∧
      record.IsWritable ∧ Catalogue.trip.Lossless body record := by
  intro u body record
  have hnames : Catalogue.trip.fieldNames.Nodup := by decide
  have hvalidate : (Catalogue.trip.validate body).outcome = some (.ok record) := by
    decide +kernel
  have hwritable : record.IsWritable := by decide +kernel
  exact ⟨hnames, hvalidate, hwritable, lossless_of_validate hnames hvalidate hwritable⟩

end Schema

end BookingOffice
