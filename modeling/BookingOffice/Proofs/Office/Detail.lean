import BookingOffice.Proofs.Entity.Detail
import BookingOffice.Proofs.Office.Listing

/-!
What clients see of an entity. The detail of everything that the office answers with has one member
for each field, each part of the identity and each relation. What stands for a relation is read from
the rows that are live at that time, and is what a client would get of them without their own
relations.

* `Office.IsDetail`: what the detail of an entity has to be;
* `Operation.entities`: the entities in an answer;
* `Office.Detailed`: what it means that the details of an office are complete and agree;
* `Office.Reachable.detailed`: so they are in every state that the office gets into.
-/

namespace BookingOffice

/-! ### Relations -/

namespace Store

variable {st : Store} {s : Schema} {e : Entry}

/-- What an entry is related to, pair by pair: one for each relation. -/
lemma exists_related_eq (st : Store) (s : Schema) (e : Entry) :
    ∃ pairs, st.related s e = .ofList pairs ∧ pairs.map Prod.fst = s.relationNames ∧
      (∀ f ∈ s.fields, ∀ o, f.references = some o →
        (f.relationName, st.referred o (e.record.get? f.name)) ∈ pairs) ∧
      ∀ a ∈ s.associations, (a.name, .array ((st.members a e.uuid).map Entry.detail)) ∈ pairs := by
  refine ⟨_, rfl, ?_, fun f hf o ho => List.mem_append_left _ ?_, fun a ha =>
    List.mem_append_right _ (List.mem_map_of_mem ha)⟩
  · rw [List.map_append, List.map_map, List.map_map, List.map_filterMap, Schema.relationNames]
    congr 2
    funext f
    rw [Option.map_map]
    rfl
  · exact List.mem_map.2 ⟨(f, o), List.mem_filterMap.2 ⟨f, hf, by rw [ho]; rfl⟩, rfl⟩

lemma nodup_relationNames (hs : s ∈ Catalogue.schemas) : s.relationNames.Nodup :=
  (List.nodup_append.1 (Catalogue.nodup_detailNames hs)).2.1

/-- What an entry is related to is under the names of the relations. -/
lemma keys_related_perm (hs : s ∈ Catalogue.schemas) :
    (st.related s e).keys.Perm s.relationNames := by
  obtain ⟨pairs, hpairs, hnames, -, -⟩ := exists_related_eq st s e
  rw [hpairs, ← hnames]
  exact Entries.map_fst_ofList_perm (hnames ▸ nodup_relationNames hs)

lemma get?_related_of_references (hs : s ∈ Catalogue.schemas) {f : Field} (hf : f ∈ s.fields)
    {o : Outline} (ho : f.references = some o) :
    (st.related s e).get? f.relationName = some (st.referred o (e.record.get? f.name)) := by
  obtain ⟨pairs, hpairs, hnames, hreferences, -⟩ := exists_related_eq st s e
  have hnd : (pairs.map Prod.fst).Nodup := hnames ▸ nodup_relationNames hs
  rw [hpairs, Dictionary.get?_ofList_of_nodup hnd]
  exact Entries.get?_of_mem hnd (hreferences f hf o ho)

lemma get?_related_of_association (hs : s ∈ Catalogue.schemas) {a : Association}
    (ha : a ∈ s.associations) :
    (st.related s e).get? a.name = some (.array ((st.members a e.uuid).map Entry.detail)) := by
  obtain ⟨pairs, hpairs, hnames, -, hassociations⟩ := exists_related_eq st s e
  have hnd : (pairs.map Prod.fst).Nodup := hnames ▸ nodup_relationNames hs
  rw [hpairs, Dictionary.get?_ofList_of_nodup hnd]
  exact Entries.get?_of_mem hnd (hassociations a ha)

end Store

/-! ### Details -/

/-- Whether JSON is the detail of an entity without what it is related to. -/
def Schema.IsOwnDetail (s : Schema) (stored : Stored (Draft s.fields)) (json : Json) : Prop :=
  ∃ detail, stored.detail s.model = .ok detail ∧ json = detail.without s.relationNames

namespace Office

variable {env : Surroundings} {office : Office} {s : Schema}

/-- What stands in details for an entity that is referred to: null exactly if no live row has the
identifier, and otherwise what clients get of the row, without its relations. -/
structure IsReference (env : Surroundings) (office : Office) (s : Schema) (uuid : Uuid)
    (json : Json) : Prop where
  null_iff : json = .null ↔ ∀ row ∈ office.desk.store.liveRows s.table, row.uuid ≠ uuid
  own : ∀ stored, office.Shows env s stored → stored.uuid = uuid → s.IsOwnDetail stored json

/-- What stands in details for the members of an association: what clients get of the live rows that
are linked to the owner, each once, by the time of creation and the identifier. -/
structure IsCollection (env : Surroundings) (office : Office) (s : Schema) (links : String)
    (owner : Uuid) (members : List (Stored (Draft s.fields))) (items : List Json) : Prop where
  mem_iff : ∀ member, member ∈ members ↔
    office.Shows env s member ∧ office.desk.store.isLinked links owner member.uuid = true
  ordered : members.Pairwise (Stored.Before {})
  own : List.Forall₂ s.IsOwnDetail members items

/-- Whether JSON is the complete detail of an entity in a state of the office. -/
structure IsDetail (env : Surroundings) (office : Office) (s : Schema)
    (stored : Stored (Draft s.fields)) (detail : Json) : Prop where
  written : stored.detail s.model = .ok detail
  /-- It has these members and no others. -/
  names : ∃ members, detail = .object members ∧ (members.map Prod.fst).Perm s.detailNames
  fields : ∀ f ∈ s.fields, ∃ v, stored.value? f.name = some v ∧
    detail.get? f.name = some v.toJson
  identity : ∀ p ∈ Stored.identity stored.uuid stored.createdAt stored.updatedAt,
    detail.get? p.1 = some p.2
  references : ∀ f ∈ s.fields, ∀ o, f.references = some o → ∃ t ∈ Catalogue.schemas,
    t.outline = o ∧ ∃ uuid json, stored.value? f.name = some (.uuid uuid) ∧
      detail.get? f.relationName = some json ∧ office.IsReference env t uuid json
  associations : ∀ a ∈ s.associations, ∃ t ∈ Catalogue.schemas, t.outline = a.member ∧
    ∃ members items, detail.get? a.name = some (.array items) ∧
      office.IsCollection env t a.table stored.uuid members items

/-! ### Details of entries -/

namespace ShownOf

variable {st : Store} {e : Entry} {stored : Stored (Draft s.fields)}

/-- The record of an entry that is shown is accepted. -/
lemma accepts (h : ShownOf st s e stored) (hst : st.Readable) (hs : s ∈ Catalogue.schemas) :
    s.Accepts e.record := by
  obtain ⟨row, -, hkeeps⟩ := (hst.mem_entries_iff hs).1 h.mem
  exact hkeeps.accepted

/-- What is shown of an entry has the detail of the entry. -/
lemma detail (h : ShownOf st s e stored) (hst : st.Readable) (hs : s ∈ Catalogue.schemas) :
    stored.detail s.model = .ok (e.detailWith (st.related s e)) := by
  have hget := h.get
  have hlookup := (hst.lookup?_eq_some_iff hs).2 ⟨h.mem, rfl⟩
  rw [Procedure.ask_get hst hs, hlookup] at hget
  have hfits := Catalogue.fits hs
  exact Entry.detail_toStored hfits.names hfits.times (h.accepts hst hs) (Option.some.inj hget)

lemma identity (h : ShownOf st s e stored) (hst : st.Readable) (hs : s ∈ Catalogue.schemas) :
    Stored.identity stored.uuid stored.createdAt stored.updatedAt =
      Stored.identity e.uuid e.createdAt e.updatedAt := by
  obtain ⟨-, entity, -, rfl⟩ := h.exists_eq hst hs
  rfl

/-- Without the relations that is the detail of the entry alone. -/
lemma isOwnDetail (h : ShownOf st s e stored) (hst : st.Readable) (hs : s ∈ Catalogue.schemas) :
    s.IsOwnDetail stored e.detail := by
  refine ⟨_, h.detail hst hs, (Entry.without_detailWith ?_ ?_ ?_).symm⟩
  · exact (h.accepts hst hs).keys_perm (Catalogue.fits hs).names
  · exact Store.keys_related_perm hs
  · exact Catalogue.nodup_detailNames hs

end ShownOf

/-- What an identifier refers to is read from the live row that has it. -/
lemma Sound.isReference (h : office.Sound) (hs : s ∈ Catalogue.schemas) (uuid : Uuid) :
    office.IsReference env s uuid
      (office.desk.store.referred s.outline (some (.uuid uuid))) where
  null_iff := by
    have hlive : (office.desk.store.lookup? s.outline uuid).isSome ↔ _ :=
      h.store.toReadable.exists_lookup?_iff hs
    rw [Store.referred]
    cases hlookup : office.desk.store.lookup? s.outline uuid with
    | none =>
      refine ⟨fun _ row hrow huuid => ?_, fun _ => rfl⟩
      have hsome := hlive.2 ⟨row, hrow, huuid⟩
      rw [hlookup] at hsome
      cases hsome
    | some e =>
      obtain ⟨row, hrow, huuid⟩ := hlive.1 (hlookup ▸ rfl)
      exact ⟨Json.noConfusion, fun hnone => absurd huuid (hnone row hrow)⟩
  own stored hshows huuid := by
    have hread := h.store.toReadable
    obtain ⟨e, hshown⟩ := (h.shows_iff hs).1 hshows
    have hlookup : office.desk.store.lookup? s.outline uuid = some e :=
      (hread.lookup?_eq_some_iff hs).2 ⟨hshown.mem, (hshown.eq hread hs).1.symm.trans huuid⟩
    rw [Store.referred, hlookup]
    exact hshown.isOwnDetail hread hs

/-- The members of an owner are read from the live rows that are linked to it. -/
lemma Sound.exists_isCollection (h : office.Sound) (hs : s ∈ Catalogue.schemas) {a : Association}
    (ha : s.outline = a.member) (owner : Uuid) :
    ∃ members, office.IsCollection env s a.table owner members
      ((office.desk.store.members a owner).map Entry.detail) := by
  have hread := h.store.toReadable
  obtain ⟨members, hmembers⟩ : ∃ members,
      List.Forall₂ (ShownOf office.desk.store s) (office.desk.store.members a owner) members := by
    refine Traversal.exists_forall₂ fun e he => h.exists_shownOf hs ?_
    exact ((hread.mem_members_iff hs ha).1 he).1
  refine ⟨members, ?_, ?_, ?_⟩
  · intro member
    rw [h.shows_iff hs]
    constructor
    · intro hmember
      obtain ⟨e, he, hshown⟩ := Traversal.exists_of_forall₂ hmembers hmember
      rw [(hshown.eq hread hs).1]
      exact ⟨⟨e, hshown⟩, ((hread.mem_members_iff hs ha).1 he).2⟩
    · rintro ⟨⟨e, hshown⟩, hlinked⟩
      rw [(hshown.eq hread hs).1] at hlinked
      have he := (hread.mem_members_iff hs ha).2 ⟨hshown.mem, hlinked⟩
      obtain ⟨member', hmember', hshown'⟩ := Traversal.exists_of_forall₂ hmembers.flip he
      rw [hshown.unique hshown']
      exact hmember'
  · refine Traversal.pairwise_of_forall₂ hmembers (hread.pairwise_members hs ha) ?_
    intro e e' stored stored' hshown hshown' hbefore
    exact (hshown.before_iff hshown' hread hs _).1 hbefore
  · rw [List.forall₂_map_right_iff]
    exact (hmembers.flip).imp fun _ _ hshown => hshown.isOwnDetail hread hs

/-- Everything that the office shows has a complete detail. -/
theorem Sound.exists_isDetail (h : office.Sound) (hs : s ∈ Catalogue.schemas)
    {stored : Stored (Draft s.fields)} (hshows : office.Shows env s stored) :
    ∃ detail, office.IsDetail env s stored detail := by
  have hread := h.store.toReadable
  obtain ⟨e, hshown⟩ := (h.shows_iff hs).1 hshows
  obtain ⟨huuid, -, hvalue⟩ := hshown.eq hread hs
  have hrecord := hshown.accepts hread hs
  have hkeys := hrecord.keys_perm (Catalogue.fits hs).names
  have hrelated : (office.desk.store.related s e).keys.Perm s.relationNames :=
    Store.keys_related_perm hs
  have hnd := Catalogue.nodup_detailNames hs
  have hget : ∀ {name json}, (name, json) ∈ e.membersWith (office.desk.store.related s e) →
      (e.detailWith (office.desk.store.related s e)).get? name = some json :=
    fun hmem => Entry.get?_detailWith hkeys hrelated hnd hmem
  refine ⟨e.detailWith (office.desk.store.related s e), ?_⟩
  exact {
    written := hshown.detail hread hs
    names := Entry.exists_detailWith_eq_object hkeys hrelated hnd
    fields := by
      intro f hf
      obtain ⟨v, hv, -⟩ := hrecord.passes f hf
      refine ⟨v, hvalue ▸ hv, hget (List.mem_append_left _ (List.mem_append_left _ ?_))⟩
      exact List.mem_map.2 ⟨(f.name, v), Dictionary.mem_entries_iff.2 hv, rfl⟩
    identity := by
      intro p hp
      rw [hshown.identity hread hs] at hp
      exact hget (List.mem_append_left _ (List.mem_append_right _ hp))
    references := by
      intro f hf o ho
      obtain ⟨t, ht, rfl⟩ := (Catalogue.fits hs).references f hf o ho
      obtain ⟨v, hv, hpasses⟩ := hrecord.passes f hf
      obtain ⟨uuid, rfl⟩ := hpasses.exists_uuid (Catalogue.uuid_of_references hs hf ho)
      refine ⟨t, ht, rfl, uuid, _, hvalue ▸ hv, hget (List.mem_append_right _ ?_),
        h.isReference ht uuid⟩
      rw [Dictionary.mem_entries_iff, Store.get?_related_of_references hs hf ho, hv]
    associations := by
      intro a ha
      obtain ⟨⟨t, ht, hmember⟩, -⟩ := (Catalogue.fits hs).members a ha
      obtain ⟨members, hmembers⟩ : ∃ members,
          office.IsCollection env t a.table stored.uuid members _ :=
        h.exists_isCollection ht hmember stored.uuid
      refine ⟨t, ht, hmember, members, _, hget (List.mem_append_right _ ?_), hmembers⟩
      rw [Dictionary.mem_entries_iff, Store.get?_related_of_association hs ha, huuid] }

end Office

/-! ### Answers -/

namespace Operation

/-- The type of the entities that the operation is on. -/
def schema : Operation → Schema
  | create s _ _ => s
  | get s _ => s
  | list s _ => s
  | update s _ _ => s
  | delete s _ => s
  | addMembers s _ _ _ => s
  | removeMembers s _ _ _ => s

/-- The entities in an answer. -/
def entities : (op : Operation) → op.Answer → List (Stored (Draft op.schema.fields))
  | create _ _ _, stored => [stored]
  | get _ _, stored => [stored]
  | list _ _, (page, _) => page
  | update _ _ _, stored => [stored]
  | delete _ _, () => []
  | addMembers _ _ _ _, stored => [stored]
  | removeMembers _ _ _ _, stored => [stored]

lemma Served.schema_mem {op : Operation} (h : op.Served) : op.schema ∈ Catalogue.schemas := by
  cases op with
  | create s uuid draft => exact h
  | get s uuid => exact h
  | list s p => exact h
  | update s uuid draft => exact h
  | delete s uuid => exact h
  | addMembers s a owner members => exact h.1
  | removeMembers s a owner members => exact h.1

end Operation

namespace Office

variable {env : Surroundings} {office : Office} {s : Schema}

/-- What an operation answers with is what the office shows from then on. -/
theorem Sound.shows_entities (h : office.Sound) {op : Operation} (hop : op.Served)
    {answer : op.Answer} (hanswer : (op.perform env office).1 = pure answer) :
    ∀ stored ∈ op.entities answer, (op.perform env office).2.Shows env op.schema stored := by
  have hafter : (op.perform env office).2.Sound := h.perform hop
  intro stored hstored
  refine (get_eq_pure_iff hafter).2 ?_
  cases op with
  | create s uuid draft =>
    obtain rfl := List.mem_singleton.1 hstored
    obtain ⟨-, -, -, -, -, -, -, hget⟩ := create_eq_pure h hop hanswer
    exact hget
  | get s uuid =>
    obtain rfl := List.mem_singleton.1 hstored
    have hget := (get_eq_pure_iff h).1 hanswer
    obtain ⟨e, entity, -, -, rfl⟩ :=
      (Procedure.ask_get_eq_pure_iff h.store.toReadable hop).1 hget
    rw [Operation.perform, get_store]
    exact hget
  | list s p =>
    obtain ⟨entities, hlist, hall⟩ := Procedure.exists_ask_list h.store hop p
    have hpage := Attempt.pure_injective (((list_eq_pure_iff h).1 hanswer).symm.trans hlist)
    rw [hpage] at hstored
    obtain ⟨e, -, hget⟩ := Traversal.exists_of_forall₂ hall hstored
    obtain ⟨e', entity, -, -, rfl⟩ :=
      (Procedure.ask_get_eq_pure_iff h.store.toReadable hop).1 hget
    rw [Operation.perform, list_store]
    exact hget
  | update s uuid draft =>
    obtain rfl := List.mem_singleton.1 hstored
    obtain ⟨-, -, -, -, -, -, -, hget⟩ := update_eq_pure h hop hanswer
    exact hget
  | delete s uuid => cases hstored
  | addMembers s a owner members =>
    obtain rfl := List.mem_singleton.1 hstored
    obtain ⟨-, -, -, hget⟩ := addMembers_eq_pure h hop.1 hop.2 hanswer
    obtain ⟨e, entity, -, -, rfl⟩ :=
      (Procedure.ask_get_eq_pure_iff hafter.store.toReadable hop.1).1 hget
    exact hget
  | removeMembers s a owner members =>
    obtain rfl := List.mem_singleton.1 hstored
    obtain ⟨-, hget⟩ := removeMembers_eq_pure h hop.1 hop.2 hanswer
    obtain ⟨e, entity, -, -, rfl⟩ :=
      (Procedure.ask_get_eq_pure_iff hafter.store.toReadable hop.1).1 hget
    exact hget

/-- What it means that the details of an office are complete and agree with each other. -/
structure Detailed (env : Surroundings) (office : Office) : Prop where
  /-- No member of a detail takes the place of another one. -/
  names : ∀ s ∈ Catalogue.schemas, s.detailNames.Nodup
  /-- What is got under the identifier of a live row has a complete detail. -/
  live : ∀ s ∈ Catalogue.schemas, ∀ row ∈ office.desk.store.liveRows s.table, ∃ stored detail,
    office.Shows env s stored ∧ stored.uuid = row.uuid ∧ office.IsDetail env s stored detail
  /-- So has everything that an operation answers with, in the state that it leaves. -/
  answers : ∀ (op : Operation) (answer : op.Answer), op.Served →
    (op.perform env office).1 = pure answer →
    ∀ stored ∈ op.entities answer, ∃ detail,
      (op.perform env office).2.Shows env op.schema stored ∧
      (op.perform env office).2.IsDetail env op.schema stored detail
  /-- The detail that is made of a row alone is the one that is made of its entity, also where the
  row has been deleted. -/
  projections : ∀ s ∈ Catalogue.schemas, ∀ row ∈ office.desk.store.rows s.table, ∃ e stored,
    row.read s.outline = .ok e ∧ e.toStored s.model .empty = .ok stored ∧
      stored.detail s.model = .ok e.detail

/-- The detail of a row is that of its entity. -/
lemma exists_toStored {row : Row} {e : Entry} (hs : s ∈ Catalogue.schemas) (hkeeps : row.Keeps s e)
    (hbuilds : s.Builds e.record) :
    ∃ stored, e.toStored s.model .empty = .ok stored ∧ stored.detail s.model = .ok e.detail := by
  have hfits := Catalogue.fits hs
  obtain ⟨draft, hdraft⟩ := hbuilds
  have hstored : e.toStored s.model .empty =
      .ok ⟨e.uuid, e.createdAt, e.updatedAt, draft, .empty⟩ := by
    rw [Entry.toStored, hdraft]
    rfl
  refine ⟨_, hstored, ?_⟩
  rw [Entry.detail_toStored hfits.names hfits.times hkeeps.accepted hstored, Entry.detailWith_empty]

/-- In every state that the office gets into, details are complete and agree. -/
theorem Reachable.detailed (h : Reachable env office) : office.Detailed env where
  names _ := Catalogue.nodup_detailNames
  live s hs row hrow := by
    obtain ⟨stored, hshows, huuid⟩ : ∃ stored, office.Shows env s stored ∧ stored.uuid = row.uuid :=
      (h.sound.exists_shows_iff hs row.uuid).2 ⟨row, hrow, rfl⟩
    obtain ⟨detail, hdetail⟩ := h.sound.exists_isDetail hs hshows
    exact ⟨stored, detail, hshows, huuid, hdetail⟩
  answers op answer hop hanswer stored hstored := by
    have hafter : (op.perform env office).2.Sound := h.sound.perform hop
    have hshows := h.sound.shows_entities hop hanswer stored hstored
    obtain ⟨detail, hdetail⟩ := hafter.exists_isDetail hop.schema_mem hshows
    exact ⟨detail, hshows, hdetail⟩
  projections s hs row hrow := by
    obtain ⟨e, hkeeps, hbuilds⟩ := h.built s hs row hrow
    obtain ⟨stored, hstored, hdetail⟩ := exists_toStored hs hkeeps hbuilds
    exact ⟨e, stored, hkeeps.read (Catalogue.fits hs), hstored, hdetail⟩

/-- A city whose country has been deleted, and a driver of one of two vehicles. -/
theorem detailed_city_and_driver :
    let france := .cons (.filled "France") (.cons (.filled "FR") .nil)
    let paris := .cons (.filled "Paris") (.cons (.filled (.ofNat 0)) .nil)
    let van := .cons (.filled "Van") (.cons (.filled "AB-12") (.cons (.filled 8) .nil))
    let bus := .cons (.filled "Bus") (.cons (.filled "CD-34") (.cons (.filled 50) .nil))
    let ada := .cons (.filled "Ada") (.cons (.filled "Byron") (.cons (.filled "L-1815") .nil))
    let ops : List Operation := [.create Catalogue.country none france,
      .create Catalogue.city none paris, .delete Catalogue.country (.ofNat 0),
      .create Catalogue.vehicle none van, .create Catalogue.vehicle none bus,
      .create Catalogue.driver none ada,
      .addMembers Catalogue.driver Catalogue.driverVehicles (.ofNat 4) [.ofNat 3]]
    let office := (ofLayout .office).after .counting ops
    Reachable .counting office ∧ (office.desk.store.liveRows "countries").length = 0 ∧
      (office.desk.store.liveRows "cities").length = 1 ∧
      (office.desk.store.links "driver_vehicles").length = 1 ∧ office.Detailed .counting := by
  intro france paris van bus ada ops office
  have hschemas : Catalogue.country ∈ Catalogue.schemas ∧ Catalogue.city ∈ Catalogue.schemas ∧
      Catalogue.vehicle ∈ Catalogue.schemas ∧ Catalogue.driver ∈ Catalogue.schemas := by decide
  have hvehicles : Catalogue.driverVehicles ∈ Catalogue.driver.associations :=
    List.mem_singleton_self _
  have hops : ∀ op ∈ ops, op.Served := by simp [ops, Operation.Served, hschemas, hvehicles]
  have hoffice : Reachable .counting office := Reachable.start.after hops
  exact ⟨hoffice, by decide +kernel, by decide +kernel, by decide +kernel,
    Reachable.detailed hoffice⟩

end Office

end BookingOffice
