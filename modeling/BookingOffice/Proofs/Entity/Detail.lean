import BookingOffice.Proofs.Catalogue.Fit
import BookingOffice.Store.Basic

/-!
Details. The detail of an entity has the members of its record, three that storage adds, and one for
each relation. No two of these share a name, so that each of them can be read off the detail, and
without the relations it is the detail of the row alone.

* `Schema.detailNames`: the names of the members;
* `Catalogue.nodup_detailNames`: they are different for every schema of the office;
* `Stored.detail_eq_ok_iff`: what the detail of an entity is made of;
* `Entry.detailWith`: the detail of an entry with what it is related to;
* `Entry.detail_toStored`: the entity of an entry has that detail;
* `Entry.without_detailWith`: without the relations it is that of the entry alone.
-/

namespace BookingOffice

/-- An object without the members of some names. -/
def Json.without (names : List String) : Json → Json
  | .object members => .object (members.filter fun m => m.1 ∉ names)
  | json => json

/-- Among members with different names each is read off the object. -/
lemma Json.get?_ofMembers {pairs : List (String × Json)} {name : String} {json : Json}
    (hnd : (pairs.map Prod.fst).Nodup) (h : (name, json) ∈ pairs) :
    (Json.ofMembers pairs).get? name = some json := by
  rw [ofMembers, get?, Entries.get?_ofList, Entries.get?_reverse hnd, Entries.get?_of_mem hnd h]

/-! ### Names -/

namespace Schema

/-- The names of the members that storage adds. -/
def identityNames : List String := ["uuid", "created_at", "updated_at"]

/-- The names of the relations: one for each field that refers to an entity, and one for each
association. -/
def relationNames (s : Schema) : List String :=
  (s.fields.filterMap fun f => f.references.map fun _ => f.relationName) ++
    s.associations.map (·.name)

/-- The names of the members of details. -/
def detailNames (s : Schema) : List String := s.fieldNames ++ identityNames ++ s.relationNames

end Schema

namespace Catalogue

variable {s : Schema}

/-- No member of a detail has the name of another one. -/
theorem nodup_detailNames (hs : s ∈ schemas) : s.detailNames.Nodup :=
  (by decide +kernel : ∀ s ∈ schemas, s.detailNames.Nodup) s hs

/-- A field that refers to an entity holds an identifier. -/
lemma uuid_of_references (hs : s ∈ schemas) {f : Field} (hf : f ∈ s.fields) {o : Outline}
    (ho : f.references = some o) : f.kind = .uuid ∧ f.required = true :=
  (by decide : ∀ s ∈ schemas, ∀ f ∈ s.fields, f.references.isSome →
    f.kind = .uuid ∧ f.required = true) s hs f hf (ho ▸ rfl)

end Catalogue

/-- A required field of identifiers holds an identifier. -/
lemma Field.Passes.exists_uuid {f : Field} {v : Value} (h : f.Passes v)
    (hf : f.kind = .uuid ∧ f.required = true) : ∃ u, v = .uuid u := by
  have hkind := h.kind_eq.trans hf.1
  have hnull := h.isNull_eq_false hf.2
  cases v with
  | uuid u => exact ⟨u, rfl⟩
  | null kind => cases hnull
  | _ => cases hkind

/-! ### Members -/

namespace Stored

variable {E : Type} {m : Model E} {stored : Stored E} {detail : Json}

/-- A detail has the members of the entity in JSON, those of the identity and those of the
relations. -/
lemma detail_eq_ok_iff : stored.detail m = .ok detail ↔ ∃ json members,
    m.toJson stored.entity = .ok json ∧ json.members? = some members ∧
      detail = .ofMembers (members ++
        identity stored.uuid stored.createdAt stored.updatedAt ++ stored.related.entries) := by
  cases hjson : m.toJson stored.entity with
  | error unwritable =>
    rw [Stored.detail, hjson]
    exact ⟨nofun, nofun⟩
  | ok json =>
    cases hmembers : json.members? <;>
      simp [Stored.detail, hjson, hmembers, Except.mapError, bind, Except.bind, pure, Except.pure,
        eq_comm]

/-- The detail of an entity with another time of its last update differs in that time only. -/
lemma exists_detail_of_updatedAt (h : stored.detail m = .ok detail) (time : Instant) :
    ∃ detail', { stored with updatedAt := time }.detail m = .ok detail' ∧
      ∀ name, name ≠ "updated_at" → detail'.get? name = detail.get? name := by
  obtain ⟨json, members, hjson, hmembers, rfl⟩ := detail_eq_ok_iff.1 h
  refine ⟨_, detail_eq_ok_iff.2 ⟨json, members, hjson, hmembers, rfl⟩, fun name hname => ?_⟩
  have hidentity : Entries.get? name (identity stored.uuid stored.createdAt time).reverse =
      Entries.get? name (identity stored.uuid stored.createdAt stored.updatedAt).reverse := by
    simp [identity, Entries.get?, hname]
  simp only [Json.ofMembers, Json.get?, Entries.get?_ofList, List.reverse_append,
    Entries.get?_append, hidentity]

end Stored

namespace Entry

variable {s : Schema} {e : Entry} {related : Dictionary Json}

/-- The members of the detail of an entry with what it is related to. -/
def membersWith (e : Entry) (related : Dictionary Json) : List (String × Json) :=
  e.record.toMembers ++ Stored.identity e.uuid e.createdAt e.updatedAt ++ related.entries

/-- The detail of an entry with what it is related to. -/
def detailWith (e : Entry) (related : Dictionary Json) : Json := .ofMembers (e.membersWith related)

lemma detailWith_empty (e : Entry) : e.detailWith .empty = e.detail := by
  rw [detailWith, membersWith, detail]
  exact congrArg Json.ofMembers (List.append_nil _)

/-- The members have the names of the details of the schema. -/
lemma map_fst_membersWith_perm (hrecord : e.record.keys.Perm s.fieldNames)
    (hrelated : related.keys.Perm s.relationNames) :
    ((e.membersWith related).map Prod.fst).Perm s.detailNames := by
  have hmembers : e.record.toMembers.map Prod.fst = e.record.keys := by
    rw [Record.toMembers, List.map_map]
    rfl
  rw [membersWith, List.map_append, List.map_append, hmembers]
  exact (hrecord.append (List.Perm.refl _)).append hrelated

/-- The entity of an entry has the detail of the entry. -/
theorem detail_toStored (hnd : s.fieldNames.Nodup) (htime : ∀ f ∈ s.fields, f.RequiresTime)
    (hrecord : s.Accepts e.record) {stored : Stored (Draft s.fields)}
    (h : e.toStored s.model related = .ok stored) :
    stored.detail s.model = .ok (e.detailWith related) := by
  cases hdraft : s.model.ofRecord e.record with
  | error message =>
    rw [toStored, hdraft] at h
    cases h
  | ok draft =>
    rw [toStored, hdraft] at h
    cases h
    have hjson := Schema.toJson_of_ofRecord hnd htime hrecord hdraft
    rw [Stored.detail]
    rw [hjson]
    rfl

section

variable (hrecord : e.record.keys.Perm s.fieldNames) (hrelated : related.keys.Perm s.relationNames)
  (hnd : s.detailNames.Nodup)

include hrecord hrelated hnd

/-- The detail is an object with these names. -/
lemma exists_detailWith_eq_object :
    ∃ members, e.detailWith related = .object members ∧
      (members.map Prod.fst).Perm s.detailNames := by
  have hnames := map_fst_membersWith_perm hrecord hrelated
  exact ⟨_, rfl, (Entries.map_fst_ofList_perm (hnames.nodup_iff.2 hnd)).trans hnames⟩

/-- Each member is read off the detail. -/
lemma get?_detailWith {name : String} {json : Json} (h : (name, json) ∈ e.membersWith related) :
    (e.detailWith related).get? name = some json := by
  have hnames := map_fst_membersWith_perm hrecord hrelated
  exact Json.get?_ofMembers (hnames.nodup_iff.2 hnd) h

/-- Without the relations the detail is that of the entry alone. -/
theorem without_detailWith : (e.detailWith related).without s.relationNames = e.detail := by
  have hall : ((e.membersWith related).map Prod.fst).Nodup :=
    (map_fst_membersWith_perm hrecord hrelated).nodup_iff.2 hnd
  rw [membersWith] at hall
  rw [detailWith, membersWith, detail]
  generalize e.record.toMembers ++ Stored.identity e.uuid e.createdAt e.updatedAt = own at hall ⊢
  obtain ⟨hown, -, hdisjoint⟩ := List.nodup_append.1 (List.map_append ▸ hall)
  refine congrArg Json.object (Entries.Ordered.ext ((Entries.ordered_ofList _).filter _)
    (Entries.ordered_ofList own) fun k => ?_)
  rw [Entries.get?_filter_key fun name => decide (name ∉ s.relationNames), Entries.get?_ofList,
    Entries.get?_reverse hall, Entries.get?_append, Entries.get?_ofList, Entries.get?_reverse hown]
  by_cases hk : k ∈ s.relationNames
  · have hnone : Entries.get? k own = none := Entries.get?_eq_none_iff.2 fun p hp hpk =>
      hdisjoint p.1 (List.mem_map_of_mem hp) k (hrelated.mem_iff.2 hk) hpk
    simp [hk, hnone]
  · have hnone : Entries.get? k related.entries = none := Entries.get?_eq_none_iff.2 fun p hp hpk =>
      hk (hrelated.mem_iff.1 (hpk ▸ List.mem_map_of_mem hp))
    simp [hk, hnone]

end

end Entry

end BookingOffice
