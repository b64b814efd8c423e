import BookingOffice.Entity.Model
import BookingOffice.Proofs.Calendar.Written
import BookingOffice.Proofs.Schema.Accepted

/-!
From a record to the entity and back. The entity of an accepted record has that record, provided
that no field may lack its time: a time that cannot be written reads as no time at all.

* `Uuid.ofText?_toText`: a written identifier reads back;
* `Slot.check_of_ofJson`: so does the value of a slot;
* `Schema.toJson_of_ofRecord`: the entity of an accepted record is written as the record is;
* `Schema.validate_object_of_ofRecord`: an object with the members of the record is checked to it;
* `Schema.toRecord_of_ofRecord`: so the entity has that record.
-/

namespace BookingOffice

/-! ### Identifiers -/

namespace Uuid

lemma ofNat_val (u : Uuid) : ofNat u.value.val = u := by
  have h : Fin.ofNat (2 ^ 128) u.value.val = u.value := Fin.ofNat_val_eq_self u.value
  rw [ofNat, h]

/-- The groups of digits of an identifier read as the whole of it. -/
lemma read?_groups {n : Nat} (h : n < 2 ^ 128) :
    Text.Hex.read? 0 (Text.Hex.digits 8 (n / 16 ^ 24) ++ Text.Hex.digits 4 (n / 16 ^ 20) ++
      Text.Hex.digits 4 (n / 16 ^ 16) ++ Text.Hex.digits 4 (n / 16 ^ 12) ++
      Text.Hex.digits 12 n) = some n := by
  simp only [Text.Hex.read?_append, Text.Hex.read?_digits, Option.bind_some]
  congr 1
  omega

/-- Five groups between hyphens are read as their digits in a row. -/
lemma readGroups_append {a b c d e : List Char} (ha : a.length = 8) (hb : b.length = 4)
    (hc : c.length = 4) (hd : d.length = 4) (he : e.length = 12) :
    readGroups (a ++ '-' :: b ++ '-' :: c ++ '-' :: d ++ '-' :: e) =
      readDigits (a ++ b ++ c ++ d ++ e) := by
  have hdrop : ∀ {xs : List Char} {n : Nat}, xs.length ≤ n → xs.drop n = [] :=
    fun h => List.drop_of_length_le h
  have hhyphens : ∀ i ∈ [8, 13, 18, 23],
      (a ++ '-' :: b ++ '-' :: c ++ '-' :: d ++ '-' :: e)[i]? = some '-' := by
    simp [List.getElem?_append, List.getElem?_cons, ha, hb, hc, hd]
  have hlen : (a ++ '-' :: b ++ '-' :: c ++ '-' :: d ++ '-' :: e).length = 36 := by
    simp [ha, hb, hc, hd, he]
  rw [readGroups, if_pos ⟨hlen, hhyphens⟩]
  congr 1
  simp [List.drop_append, hdrop, ha, hb, hc, hd]

/-- A written identifier reads back. -/
lemma ofText?_toText (u : Uuid) : ofText? u.toText = some u := by
  have hlen : u.toChars.length = 36 := by simp [toChars, Text.Hex.length_digits]
  rw [ofText?, toText, String.toList_ofList, ofChars?, hlen]
  change readGroups u.toChars = some u
  rw [toChars, readGroups_append (Text.Hex.length_digits _ _) (Text.Hex.length_digits _ _)
    (Text.Hex.length_digits _ _) (Text.Hex.length_digits _ _) (Text.Hex.length_digits _ _),
    readDigits, read?_groups u.value.isLt, Option.map_some, ofNat_val]

end Uuid

/-! ### Slots -/

/-- The instant of a written moment in UTC, as a payload has it. -/
lemma Value.readTimestamp_of_writeInstant? {t : Instant} {s : String}
    (hs : Rfc3339.writeInstant? t = some s) (hplain : t.nanos % 1000 = 0) :
    readTimestamp s = pure (.timestamp t) := by
  have hutc : (⟨t, 0⟩ : Moment).toInstant? = some t :=
    Instant.ofNanos?_eq_some_iff.2 (by simp [Moment.utcNanos])
  have htruncated : t.truncated = t := by
    cases t
    simp only [Instant.truncated, Instant.mk.injEq]
    simp only at hplain
    omega
  rw [readTimestamp]
  rw [Rfc3339.read?_writeInstant? hs]
  simp only [hutc, htruncated]

/-- A moment in UTC is written as its instant is. -/
lemma Rfc3339.write_of_writeInstant? {t : Instant} {s : String} (hs : writeInstant? t = some s) :
    write ⟨t, 0⟩ = .ok s := by
  rw [writeInstant?] at hs
  split at hs
  · next hyear =>
    cases hs
    rw [write]
    rw [if_neg (not_not.2 hyear), if_neg (by simp), if_neg (by simp)]
    rfl
  · cases hs

/-- Content that was taken from a value other than a null is written as the value is, and is checked
to that value again. -/
lemma Kind.ofJson_of_contentOfJson {kind : Kind} {v : Value} {content : kind.Content}
    (hkind : v.kind = kind) (hnull : v.isNull = false) (hplain : v.IsPlain)
    (h : kind.contentOfJson v.toJson = .ok content) :
    kind.contentToJson content = .ok v.toJson ∧ v.toJson ≠ .null ∧
      Value.ofJson kind v.toJson = pure v := by
  subst hkind
  cases v with
  | null kind => cases hnull
  | text s =>
    cases h
    refine ⟨rfl, Json.noConfusion, ?_⟩
    exact congrArg Attempt.ofExcept (if_neg hplain)
  | uuid u =>
    simp only [Value.toJson, Value.kind, contentOfJson, Uuid.ofText?_toText] at h
    cases h
    refine ⟨rfl, Json.noConfusion, ?_⟩
    simp only [Value.toJson, Value.kind, Value.ofJson, Value.readUuid, Uuid.ofText?_toText]
    rfl
  | integer i =>
    have hint : (Json.int i).asInt? = some i := if_pos hplain
    have hcontent : Kind.integer.contentOfJson (.int i) = .ok i :=
      if_pos (by rw [hint, Option.isSome_some])
    rw [show content = i from Except.ok.inj (h.symm.trans hcontent)]
    refine ⟨rfl, Json.noConfusion, ?_⟩
    simp only [Value.toJson, Value.kind, Value.ofJson, hint]
  | real x =>
    cases h
    exact ⟨rfl, Json.noConfusion, rfl⟩
  | timestamp t =>
    cases hs : Rfc3339.writeInstant? t with
    | none =>
      simp only [Value.toJson, Value.kind, hs, contentOfJson] at h
      cases h
    | some s =>
      simp only [Value.toJson, Value.kind, hs, contentOfJson, Rfc3339.read?_writeInstant? hs] at h
      cases h
      simp only [Value.toJson, Value.kind, hs]
      refine ⟨?_, Json.noConfusion, Value.readTimestamp_of_writeInstant? hs hplain⟩
      simp only [contentToJson, Rfc3339.write_of_writeInstant? hs]
      rfl

/-- Besides nulls only times may be written as null. -/
lemma Value.toJson_ne_null {v : Value} (hnull : v.isNull = false) (hkind : v.kind ≠ .timestamp) :
    v.toJson ≠ .null := by
  cases v with
  | null kind => cases hnull
  | timestamp t => exact absurd rfl hkind
  | _ => nofun

/-- Whether the field, if it holds a time, has to hold one. -/
def Field.RequiresTime (f : Field) : Prop := f.kind = .timestamp → f.required = true

/-- What was taken from a value that passes is written as the value is, and is checked to that value
again. -/
lemma Slot.check_of_ofJson {f : Field} {v : Value} {slot : Slot f} (hv : f.Passes v)
    (hreq : f.RequiresTime) (h : Slot.ofJson f v.toJson = .ok slot) :
    slot.toJson = .ok v.toJson ∧ f.check (some v.toJson) = pure v := by
  cases hv with
  | vacant optional =>
    have hslot : slot = .vacant optional := by
      unfold Slot.ofJson at h
      split at h
      · exact (Except.ok.inj h).symm
      · next hno => exact absurd rfl (hno optional)
    subst hslot
    refine ⟨rfl, ?_⟩
    simp only [Value.toJson, Field.check, optional]
    rfl
  | present kind notNull plain checked =>
    obtain ⟨content, hcontent, hslot⟩ :
        ∃ content, f.kind.contentOfJson v.toJson = .ok content ∧ slot = .filled content := by
      unfold Slot.ofJson at h
      split at h
      · next hnone hjson =>
        refine absurd hjson (Value.toJson_ne_null notNull fun hk => ?_)
        have := hreq (kind.symm.trans hk)
        rw [hnone] at this
        cases this
      · cases hc : f.kind.contentOfJson v.toJson with
        | ok content =>
          rw [hc] at h
          exact ⟨content, rfl, (Except.ok.inj h).symm⟩
        | error misfit => rw [hc] at h; cases h
    subst hslot
    obtain ⟨hjson, hne, hv⟩ := Kind.ofJson_of_contentOfJson kind notNull plain hcontent
    refine ⟨hjson, ?_⟩
    rw [Field.check_some (by simpa [Field.IsAbsent] using hne), hv, pure_bind, checked]
    rfl

/-! ### Records -/

lemma Record.get?_toMembers (record : Record) (k : String) :
    Entries.get? k record.toMembers = (record.get? k).map Value.toJson :=
  Entries.get?_map _ _ _

/-- The members of a draft that was taken from a record are the values of the record, and are
checked to them again. -/
lemma Draft.check_of_ofMembers {record : Record} {fields : List Field} {draft : Draft fields}
    (hpass : ∀ f ∈ fields, f.RequiresTime ∧ ∃ v, record.get? f.name = some v ∧ f.Passes v)
    (h : Draft.ofMembers fields record.toMembers = .ok draft) :
    ∃ members, draft.toMembers = .ok members ∧ members.map Prod.fst = fields.map (·.name) ∧
      ∀ f ∈ fields, ∃ v, record.get? f.name = some v ∧ (f.name, v.toJson) ∈ members ∧
        f.check (some v.toJson) = pure v := by
  induction fields with
  | nil =>
    cases h
    exact ⟨[], rfl, rfl, nofun⟩
  | cons f fields ih =>
    obtain ⟨hreq, v, hv, hpasses⟩ := hpass f List.mem_cons_self
    have hget : Entries.get? f.name record.toMembers = some v.toJson := by
      rw [Record.get?_toMembers, hv]
      rfl
    simp only [Draft.ofMembers, hget] at h
    cases hslot : Slot.ofJson f v.toJson with
    | error misfit => rw [hslot] at h; cases h
    | ok slot =>
      cases hrest : Draft.ofMembers fields record.toMembers with
      | error misfit => rw [hslot, hrest] at h; cases h
      | ok rest =>
        rw [hslot, hrest] at h
        obtain rfl : Draft.cons slot rest = draft := Except.ok.inj h
        obtain ⟨hjson, hcheck⟩ := Slot.check_of_ofJson hpasses hreq hslot
        obtain ⟨members, hmembers, hnames, hall⟩ :=
          ih (fun g hg => hpass g (List.mem_cons_of_mem _ hg)) hrest
        refine ⟨(f.name, v.toJson) :: members, ?_, ?_, ?_⟩
        · simp only [Draft.toMembers, hjson, hmembers]
          rfl
        · rw [List.map_cons, List.map_cons, hnames]
        · intro g hg
          rcases List.mem_cons.1 hg with rfl | hg
          · exact ⟨v, hv, List.mem_cons_self, hcheck⟩
          · obtain ⟨w, hw, hmem, hc⟩ := hall g hg
            exact ⟨w, hw, List.mem_cons_of_mem _ hmem, hc⟩

namespace Schema

variable {s : Schema} {record : Record} {draft : Draft s.fields}

@[simp] lemma model_schema (s : Schema) : s.model.schema = s := rfl

/-- An entity is made of a record by way of its JSON. -/
lemma ofRecord_eq (record : Record) : s.model.ofRecord record =
    (Draft.ofJson s.fields record.toJson).mapError s.model.recordMessage := rfl

/-- An entity is made of the members of a record. -/
lemma ofMembers_of_ofRecord (h : s.model.ofRecord record = .ok draft) :
    Draft.ofMembers s.fields record.toMembers = .ok draft := by
  have hofJson : Draft.ofJson s.fields record.toJson = .ok draft := by
    rw [ofRecord_eq] at h
    cases hj : Draft.ofJson s.fields record.toJson with
    | ok d => rw [hj] at h; cases h; rfl
    | error misfit => rw [hj] at h; cases h
  rw [Record.toJson] at hofJson
  rw [Draft.ofJson] at hofJson
  split at hofJson
  · cases hofJson
  · exact hofJson

/-- The entity of an accepted record is written as the record is. -/
theorem toJson_of_ofRecord (hnd : s.fieldNames.Nodup) (htime : ∀ f ∈ s.fields, f.RequiresTime)
    (hrecord : s.Accepts record) (h : s.model.ofRecord record = .ok draft) :
    s.model.toJson draft = .ok record.toJson := by
  obtain ⟨members, hmembers, hnames, hall⟩ := Draft.check_of_ofMembers
    (fun f hf => ⟨htime f hf, hrecord.passes f hf⟩) (ofMembers_of_ofRecord h)
  have hndm : (members.map Prod.fst).Nodup := hnames ▸ hnd
  -- the members are those of the record, which has no others
  have hget : ∀ k, Entries.get? k members = Entries.get? k record.toMembers := by
    intro k
    rw [Record.get?_toMembers]
    by_cases hk : ∃ f ∈ s.fields, f.name = k
    · obtain ⟨f, hf, rfl⟩ := hk
      obtain ⟨v, hv, hmem, -⟩ := hall f hf
      rw [hv, Entries.get?_of_mem hndm hmem]
      rfl
    · have hnone : record.get? k = none :=
        Option.eq_none_iff_forall_ne_some.2 fun v hv => hk (hrecord.fields k v hv)
      rw [hnone, Option.map_none, Entries.get?_eq_none_iff]
      intro e he hek
      have hname : e.1 ∈ s.fields.map (·.name) := hnames ▸ List.mem_map_of_mem he
      obtain ⟨f, hf, hfe⟩ := List.mem_map.1 hname
      exact hk ⟨f, hf, hfe.trans hek⟩
  have hordered : Entries.Ordered record.toMembers :=
    List.pairwise_map.2 record.ordered
  have hentries : Entries.ofList members = record.toMembers := by
    refine (Entries.ordered_ofList members).ext hordered fun k => ?_
    rw [Entries.get?_ofList, Entries.get?_reverse hndm, hget]
  change draft.toMembers.map Json.ofMembers = _
  rw [hmembers, Record.toJson, ← hentries]
  rfl

/-- An accepted record of which an entity can be made is what an object with its members is checked
to, whatever other members the object has. -/
theorem validate_object_of_ofRecord (hnd : s.fieldNames.Nodup)
    (htime : ∀ f ∈ s.fields, f.RequiresTime) (hrecord : s.Accepts record)
    (h : s.model.ofRecord record = .ok draft) {members : List (String × Json)}
    (hmembers : ∀ f ∈ s.fields, ∀ v, record.get? f.name = some v →
      Entries.get? f.name members = some v.toJson) :
    s.validate (.object members) = pure record := by
  obtain ⟨own, -, -, hall⟩ := Draft.check_of_ofMembers
    (fun f hf => ⟨htime f hf, hrecord.passes f hf⟩) (ofMembers_of_ofRecord h)
  refine validate_eq_pure hnd (fun f hf => ?_) hrecord.fields
  obtain ⟨v, hv, -, hcheck⟩ := hall f hf
  exact ⟨v, hv, hmembers f hf v hv ▸ hcheck⟩

/-- Such a record is checked to itself. -/
theorem validate_toJson (hnd : s.fieldNames.Nodup) (htime : ∀ f ∈ s.fields, f.RequiresTime)
    (hrecord : s.Accepts record) (h : s.model.ofRecord record = .ok draft) :
    s.validate record.toJson = pure record := by
  refine validate_object_of_ofRecord hnd htime hrecord h fun f _ v hv => ?_
  rw [Record.get?_toMembers, hv]
  rfl

/-- The entity of an accepted record has that record. -/
theorem toRecord_of_ofRecord (hnd : s.fieldNames.Nodup) (htime : ∀ f ∈ s.fields, f.RequiresTime)
    {record : Record} (hrecord : s.Accepts record) {draft : Draft s.fields}
    (h : s.model.ofRecord record = .ok draft) : s.model.toRecord draft = pure record := by
  rw [Model.toRecord]
  rw [toJson_of_ofRecord hnd htime hrecord h]
  exact validate_toJson hnd htime hrecord h

end Schema

end BookingOffice
