import BookingOffice.Proofs.Http.Membership
import BookingOffice.Proofs.Http.WriteBack
import BookingOffice.Proofs.Office.Creation

/-!
Requests for a new entity, next to those that put new contents in place of one. A body for a new
entity may offer an identifier (`Offers`); if that is misnamed (`Misnamed`), it is told so together
with all that is wrong with the fields. Such a body is turned down before the office is asked for
anything. New contents are checked in the same way, but their identifier is never looked at.

* `Http.givenUuid_of_offers`, `Http.givenUuid_of_misnamed`: the identifier that a body offers;
* `Http.Finds`: whether errors are all that is wrong with a body for a new entity;
* `Http.readNew_eq_pure`, `Http.exists_readNew_eq_throw`: how such a body is read;
* `Http.respond_of_put_eq_throw`, `Http.respond_of_put_eq_pure`: requests with new contents;
* `Office.Vets`: what it means that the office vets a body for both kinds of requests;
* `Office.Reachable.vets`: so it does in every state that it gets into.
-/

namespace BookingOffice

namespace Http

variable {env : Surroundings} {office : Office} {token : Option String} {request : Request}
  {s : Schema} {body : Json} {given : Option Uuid} {uuid : Uuid} {draft : Draft s.fields}
  {errors : FieldErrors}

/-! ### The identifier in a body -/

/-- What identifier a body offers for a new entity. It offers none if its member is missing or null,
and if it is no object. -/
inductive Offers (body : Json) : Option Uuid → Prop
  | nothing (absent : Field.IsAbsent (body.get? "uuid")) : Offers body none
  | text {u : Uuid} (h : Membership.Identifies (body.get? "uuid") u) : Offers body (some u)

/-- Whether a body is an object with a member for the identifier that is no text for one. -/
def Misnamed (body : Json) : Prop :=
  ∃ entries, body = .object entries ∧ Membership.Misnames (Entries.get? "uuid" entries) .notUuid

lemma misnamed_iff : Misnamed body ↔ Membership.Misnames (body.get? "uuid") .notUuid := by
  cases body with
  | object entries =>
    refine ⟨?_, fun h => ⟨entries, rfl, h⟩⟩
    rintro ⟨_, ⟨⟩, h⟩
    exact h
  | _ => exact iff_of_false nofun nofun

/-- A body offers an identifier or none, or it is misnamed. -/
lemma offers_or_misnamed (body : Json) : (∃ given, Offers body given) ∨ Misnamed body := by
  rw [misnamed_iff]
  obtain ⟨u, hu⟩ | ⟨flaw, hflaw⟩ := Membership.identifies_or_misnames (body.get? "uuid")
  · exact .inl ⟨_, .text hu⟩
  · obtain rfl | rfl := hflaw.flaw
    · exact .inl ⟨_, .nothing hflaw.isAbsent⟩
    · exact .inr hflaw

/-- It is not both. -/
lemma Offers.not_misnamed (h : Offers body given) : ¬ Misnamed body := by
  rw [misnamed_iff]
  intro hmisnames
  cases h with
  | nothing absent => exact hmisnames.not_isAbsent absent
  | text h =>
    cases (Membership.readUuid_of_identifies h).symm.trans
      (Membership.readUuid_of_misnames hmisnames)

lemma givenUuid_of_offers (h : Offers body given) : givenUuid body = (given, .empty) := by
  cases h with
  | nothing absent =>
    rw [givenUuid]
    obtain habsent | habsent := absent <;> simp only [habsent]
  | text h =>
    have hread := Membership.readUuid_of_identifies h
    obtain ⟨text, htext, -⟩ := h
    rw [htext] at hread
    simp only [givenUuid, htext, hread]

lemma givenUuid_of_misnamed (h : Misnamed body) :
    givenUuid body = (none, .single "uuid" "must be a valid UUID") := by
  rw [misnamed_iff] at h
  have hpresent := h.not_isAbsent
  have hread := Membership.readUuid_of_misnames h
  rw [givenUuid]
  split
  · next habsent => exact absurd (.inl habsent) hpresent
  · next habsent => exact absurd (.inr habsent) hpresent
  · next json _ hjson =>
    rw [hjson] at hread
    rw [hread]
    rfl

/-- What is told of the identifier of a body. -/
lemma get?_givenUuid (body : Json) (key message : String) :
    (givenUuid body).2.get? key = some message ↔
      key = "uuid" ∧ Misnamed body ∧ message = "must be a valid UUID" := by
  obtain ⟨given, hgiven⟩ | hmisnamed := offers_or_misnamed body
  · rw [givenUuid_of_offers hgiven, Dictionary.get?_empty]
    exact iff_of_false nofun fun h => hgiven.not_misnamed h.2.1
  · rw [givenUuid_of_misnamed hmisnamed, FieldErrors.get?_single]
    simp [hmisnamed, eq_comm]

/-! ### Bodies for new entities -/

/-- Whether errors are all that is wrong with a body for a new entity: the one for the identifier,
if the body is misnamed, and those of the entity, if there is none in the body. -/
def Finds (s : Schema) (body : Json) (errors : FieldErrors) : Prop :=
  ∀ key message, errors.get? key = some message ↔
    (key = "uuid" ∧ Misnamed body ∧ message = "must be a valid UUID") ∨
    ∃ others, s.model.ofPayload body = throw others ∧ others.get? key = some message

/-- A body that offers an identifier, or none, and has an entity is read as both. -/
lemma readNew_eq_pure (hgiven : Offers body given) (hdraft : s.model.ofPayload body = pure draft) :
    readNew s body = pure (given, draft) := by
  rw [readNew, givenUuid_of_offers hgiven, hdraft]
  rfl

/-- A body without an entity is told all that is wrong with it. -/
lemma exists_readNew_of_throw (hs : s ∈ Catalogue.schemas)
    (h : s.model.ofPayload body = throw errors) :
    ∃ all, Finds s body all ∧ all.isEmpty = false ∧
      readNew s body = throw (.ofFieldErrors all) := by
  refine ⟨(givenUuid body).2.extend errors, fun key message => ?_, ?_, ?_⟩
  · have hentity : (∃ others, s.model.ofPayload body = throw others ∧
        others.get? key = some message) ↔ errors.get? key = some message := by
      constructor
      · rintro ⟨others, hothers, hmessage⟩
        rwa [Attempt.throw_injective (h.symm.trans hothers)]
      · exact fun hmessage => ⟨errors, h, hmessage⟩
    rw [hentity, FieldErrors.get?_extend, Option.or_eq_some_iff, get?_givenUuid]
    refine or_congr Iff.rfl (and_iff_right_of_imp fun hmessage => ?_)
    -- the errors of the entity are not where the one for the identifier is
    refine Option.eq_none_iff_forall_ne_some.2 fun other hother => ?_
    obtain ⟨rfl, -⟩ := (get?_givenUuid body key other).1 hother
    rw [Schema.get?_of_ofPayload_eq_throw hs h (by decide)] at hmessage
    cases hmessage
  · have hnonempty := Schema.isEmpty_of_ofPayload_eq_throw hs h
    refine Bool.eq_false_iff.2 fun hempty => Bool.eq_false_iff.1 hnonempty ?_
    refine Dictionary.isEmpty_iff.2 fun key => ?_
    have hnone := Dictionary.isEmpty_iff.1 hempty key
    rw [FieldErrors.get?_extend, Option.or_eq_none_iff] at hnone
    exact hnone.2
  · rw [readNew, h]
    rfl

/-- A misnamed body with an entity is told nothing else. -/
lemma exists_readNew_of_misnamed (hmisnamed : Misnamed body)
    (h : s.model.ofPayload body = pure draft) :
    ∃ all, Finds s body all ∧ all.isEmpty = false ∧
      readNew s body = throw (.ofFieldErrors all) := by
  refine ⟨(givenUuid body).2, fun key message => ?_, ?_, ?_⟩
  · rw [get?_givenUuid, or_iff_left]
    rintro ⟨others, hothers, -⟩
    cases h.symm.trans hothers
  · rw [givenUuid_of_misnamed hmisnamed]
    rfl
  · rw [readNew, h, givenUuid_of_misnamed hmisnamed]
    rfl

/-- A body that is not read as an identifier and an entity is told all that is wrong with it. -/
lemma exists_readNew_eq_throw (hs : s ∈ Catalogue.schemas)
    (hreturns : s.model.ofPayload body ≠ .abandon)
    (h : ¬ ((∃ given, Offers body given) ∧ ∃ draft, s.model.ofPayload body = pure draft)) :
    ∃ all, Finds s body all ∧ all.isEmpty = false ∧
      readNew s body = throw (.ofFieldErrors all) := by
  obtain ⟨draft, hdraft⟩ | ⟨errors, herrors⟩ | habandon :=
    (s.model.ofPayload body).eq_pure_or_throw_or_abandon
  · have hmisnamed : Misnamed body :=
      (offers_or_misnamed body).resolve_left fun hgiven => h ⟨hgiven, draft, hdraft⟩
    exact exists_readNew_of_misnamed hmisnamed hdraft
  · exact exists_readNew_of_throw hs herrors
  · exact absurd habandon hreturns

/-! ### Requests -/

lemma respond_of_post (h : request.Sends token (.entry s) "POST" body) :
    respond env token request office =
      (.ofResult ((Action.create s).perform env request office).1,
        ((Action.create s).perform env request office).2) :=
  respond_of_action h.admitted h.led (by rw [h.method]; decide) (by rw [h.method]; rfl)

/-- A request for a new entity whose body is read comes to an operation. -/
lemma respond_of_readNew_eq_pure (h : request.Sends token (.entry s) "POST" body)
    (hread : readNew s body = pure (given, draft)) :
    respond env token request office = carryOut env (.create s given draft) office := by
  rw [respond_of_post h]
  simp only [Action.perform, h.body, Attempt.ofExcept_ok, Handler.after_pure, hread]
  rfl

/-- A request whose body is not read is turned down before the office is asked for anything. -/
lemma respond_of_readNew_eq_throw (h : request.Sends token (.entry s) "POST" body)
    (hread : readNew s body = throw (.ofFieldErrors errors)) :
    respond env token request office = (.ofProblem (.ofFieldErrors errors), office) := by
  rw [respond_of_post h]
  simp only [Action.perform, h.body, Attempt.ofExcept_ok, Handler.after_pure, hread,
    Handler.after_throw]
  rfl

lemma respond_of_put (h : request.Puts token s uuid body) :
    respond env token request office =
      let work : Handler Reply :=
        .after (ExceptT.adapt .ofFieldErrors (s.model.ofPayload body)) fun draft =>
          .reply (Office.update env s.model uuid draft) (.ofStored .ok s.model)
      (.ofResult (work office).1, (work office).2) := by
  obtain ⟨raw, hroute, huuid⟩ := h.led
  have haction : (Route.entity s raw).action? request.method = some (.replace s raw) := by
    rw [h.method]
    rfl
  rw [respond_of_action h.admitted hroute (by rw [h.method]; decide) haction]
  simp only [Action.perform, huuid, h.body, Attempt.ofExcept_ok, Handler.after_pure]

/-- A request with new contents that have an entity comes to an operation. -/
lemma respond_of_put_eq_pure (h : request.Puts token s uuid body)
    (hdraft : s.model.ofPayload body = pure draft) :
    respond env token request office = carryOut env (.update s uuid draft) office := by
  rw [respond_of_put h, hdraft]
  rfl

/-- Otherwise it is turned down before the office is asked for anything. -/
lemma respond_of_put_eq_throw (h : request.Puts token s uuid body)
    (herrors : s.model.ofPayload body = throw errors) :
    respond env token request office = (.ofProblem (.ofFieldErrors errors), office) := by
  rw [respond_of_put h, herrors]
  rfl

end Http

/-! ### Vetted bodies -/

namespace Office

variable {env : Surroundings} {office : Office} {s : Schema} {body : Json}

/-- What it means that the office vets a body, for a new entity and for new contents of one. -/
structure Vets (env : Surroundings) (office : Office) (s : Schema) (body : Json) : Prop where
  /-- The entity in the body has the record that the body is checked to. -/
  checked : ∀ draft, s.model.ofPayload body = pure draft →
    ∃ record, s.validate body = pure record ∧ s.model.toRecord draft = pure record
  /-- If it conflicts with nothing, it is created under the identifier that the body offers, or
  under a new one, and the response gives its detail. -/
  created : ∀ token request given draft record, request.Sends token (.entry s) "POST" body →
    Http.Offers body given → s.model.ofPayload body = pure draft → s.validate body = pure record →
    (Operation.create s given draft).MakesNewUuid env office →
    (∀ k, ¬ Procedure.NewConflict office.desk.store s given record k) →
    ∃ stored detail r after, office.IsCreated env s given record stored after ∧
      after.IsDetail env s stored detail ∧ r.Gives 201 "Created" detail ∧
      Http.respond env token request office = ({ response := some r }, after)
  /-- Otherwise the answer tells an error for each conflict, and no others. All that is left is a
  reading of the clock. -/
  conflicting : ∀ token request given draft record, request.Sends token (.entry s) "POST" body →
    Http.Offers body given → s.model.ofPayload body = pure draft → s.validate body = pure record →
    (∃ k, Procedure.NewConflict office.desk.store s given record k) →
    ∃ errors : FieldErrors,
      errors.Mark "already exists" (Procedure.NewConflict office.desk.store s given record) ∧
      (Http.respond env token request office).1.Tells errors ∧
      (Http.respond env token request office).2 = (office.readClock env).2
  /-- A misnamed body, and one without an entity, is told all that is wrong with it. Nothing is left
  of the request. -/
  refused : ∀ token request, request.Sends token (.entry s) "POST" body →
    ¬ ((∃ given, Http.Offers body given) ∧ ∃ draft, s.model.ofPayload body = pure draft) →
    ∃ errors, Http.Finds s body errors ∧
      (Http.respond env token request office).1.Tells errors ∧
      (Http.respond env token request office).2 = office
  /-- New contents without an entity are told what is wrong with the fields and nothing of the
  identifier, whatever rows there are. -/
  replaced : ∀ errors, s.model.ofPayload body = throw errors → errors.get? "uuid" = none ∧
    ∀ token request uuid, request.Puts token s uuid body → ∃ answer : Http.Answer,
      answer.Tells errors ∧ ∀ env office, Http.respond env token request office = (answer, office)
  /-- Whatever new contents come to, every row keeps its identifier and its time of creation. -/
  identities : ∀ token request uuid, request.Puts token s uuid body → ∀ table,
    (Http.respond env token request office).2.identities table = office.identities table
  /-- What new contents have for these does not matter. -/
  frame : ∀ entries others, body = .object entries →
    (∀ k, k ∉ ["uuid", "created_at", "updated_at"] →
      Entries.get? k others = Entries.get? k entries) →
    ∀ token request request' uuid, request.Puts token s uuid body →
      request'.Puts token s uuid (.object others) →
      Http.respond env token request' office = Http.respond env token request office

/-- In every state that it gets into, the office vets every body whose check ends. -/
theorem Reachable.vets (h : Reachable env office) (hs : s ∈ Catalogue.schemas)
    (hreturns : s.model.ofPayload body ≠ .abandon) : office.Vets env s body where
  checked draft hdraft := by
    obtain ⟨record, hvalidate, hrecord, -⟩ := Schema.exists_record_of_ofPayload hs hdraft
    exact ⟨record, hvalidate, hrecord⟩
  created token request given draft record hpost hgiven hdraft hvalidate hnew hfree := by
    obtain ⟨record', hvalidate', hrecord, hbuilds⟩ := Schema.exists_record_of_ofPayload hs hdraft
    obtain rfl := Attempt.pure_injective (hvalidate.symm.trans hvalidate')
    obtain ⟨stored, after, hcreate, hcreated⟩ :=
      h.sound.exists_isCreated hs hrecord hbuilds hnew hfree
    have hperform : (Operation.create s given draft).perform env office = (pure stored, after) :=
      hcreate
    have hserved : (Operation.create s given draft).Served := hs
    have hafter : ((Operation.create s given draft).perform env office).2.Sound :=
      h.sound.perform hserved
    rw [hperform] at hafter
    obtain ⟨detail, hdetail⟩ := hafter.exists_isDetail hs hcreated.shows
    refine ⟨stored, detail, _, after, hcreated, hdetail,
      Http.Response.gives_ofEnvelope 201 "Created" detail, ?_⟩
    rw [Http.respond_of_readNew_eq_pure hpost (Http.readNew_eq_pure hgiven hdraft),
      Http.carryOut_of_eq_pure hperform]
    have hreply := Http.Reply.ofStored_eq hdetail.written .created
    rw [show Http.Reply.ofAnswer (.create s given draft) stored = _ from hreply]
    rfl
  conflicting token request given draft record hpost hgiven hdraft hvalidate hsome := by
    obtain ⟨record', hvalidate', hrecord, -⟩ := Schema.exists_record_of_ofPayload hs hdraft
    obtain rfl := Attempt.pure_injective (hvalidate.symm.trans hvalidate')
    obtain ⟨errors, hmark, hcreate⟩ := h.sound.create_of_conflict env hs hrecord hsome
    have hperform : (Operation.create s given draft).perform env office =
        (throw (.invalid errors), (office.readClock env).2) := hcreate
    have hnonempty := FieldErrors.isEmpty_of_orResult_eq_error (hmark.orResult_of_some hsome ())
    rw [Http.respond_of_readNew_eq_pure hpost (Http.readNew_eq_pure hgiven hdraft),
      Http.carryOut_of_eq_throw hperform]
    exact ⟨errors, hmark, Http.Answer.tells_ofProblem hnonempty, rfl⟩
  refused token request hpost hno := by
    obtain ⟨errors, hfinds, hnonempty, hread⟩ := Http.exists_readNew_eq_throw hs hreturns hno
    rw [Http.respond_of_readNew_eq_throw hpost hread]
    exact ⟨errors, hfinds, Http.Answer.tells_ofProblem hnonempty, rfl⟩
  replaced errors herrors := by
    have hnonempty := Schema.isEmpty_of_ofPayload_eq_throw hs herrors
    exact ⟨Schema.get?_of_ofPayload_eq_throw hs herrors (by decide), fun _ _ _ hput =>
      ⟨_, Http.Answer.tells_ofProblem hnonempty,
        fun _ _ => Http.respond_of_put_eq_throw hput herrors⟩⟩
  identities token request uuid hput table := by
    obtain ⟨draft, hdraft⟩ | ⟨errors, herrors⟩ | habandon :=
      (s.model.ofPayload body).eq_pure_or_throw_or_abandon
    · rw [Http.respond_of_put_eq_pure hput hdraft]
      exact h.sound.identities_update hs uuid draft table
    · rw [Http.respond_of_put_eq_throw hput herrors]
    · exact absurd habandon hreturns
  frame entries others hbody hothers token request request' uuid hput hput' := by
    subst hbody
    have hfields : ∀ f ∈ s.fields, Entries.get? f.name others = Entries.get? f.name entries := by
      refine fun f hf => hothers f.name fun hname => (Catalogue.fits hs).notReserved f hf ?_
      exact List.mem_of_mem_dropLast (l := reservedColumns) hname
    rw [Http.respond_of_put hput, Http.respond_of_put hput', Schema.ofPayload_congr hfields]

/-- A body with a bad identifier, a bad name and no code, one that is sound, and one with the name
of the country that there is. The sound one is answered with the detail of the new country. The
first one is also turned down as new contents of no row at all. -/
theorem vets_three_countries :
    let france := .cons (.filled "France") (.cons (.filled "FR") .nil)
    let office := (ofLayout .office).after .counting [.create Catalogue.country none france]
    let bad : Json := .object [("name", .string "Sp4in"), ("uuid", .string "bad")]
    let sound : Json := .object [("code", .string "PE"), ("name", .string "Peru"),
      ("uuid", .string (Uuid.ofNat 7).toText)]
    let taken : Json := .object [("code", .string "FX"), ("name", .string "France")]
    let asking (method path : String) (body : Json) : Http.Request :=
      { method := method
        target := "/api/v1/external/country" ++ path
        headers := [⟨"content-type", Text.Utf8.encode "application/json"⟩]
        body := Text.Utf8.encode body.toText }
    let response (request : Http.Request) := (Http.respond .counting none request office).1.response
    let status (request : Http.Request) := (response request).map (·.status)
    let data (request : Http.Request) :=
      ((response request).bind (·.member? "data")).map Json.toText
    Reachable .counting office ∧ Catalogue.country ∈ Catalogue.schemas ∧
      (∀ body ∈ [bad, sound, taken], ∃ sent,
        (asking "POST" "" body).Sends none (.entry Catalogue.country) "POST" sent ∧
          Catalogue.country.model.ofPayload sent ≠ .abandon ∧
          office.Vets .counting Catalogue.country sent) ∧
      [bad, sound, taken].map (fun body => status (asking "POST" "" body)) =
        [some 422, some 201, some 422] ∧
      status (asking "PUT" ("/" ++ (Uuid.ofNat 7).toText) bad) = some 422 ∧
      [bad, sound, taken].map (fun body => data (asking "POST" "" body)) =
        [some ("\x7b\"code\":\"is required\",\"name\":\"must contain only letters\"," ++
            "\"uuid\":\"must be a valid UUID\"\x7d"),
          some ("\x7b\"code\":\"PE\",\"created_at\":\"1970-01-01T00:00:00.000001Z\"," ++
            "\"name\":\"Peru\",\"updated_at\":\"1970-01-01T00:00:00.000001Z\"," ++
            "\"uuid\":\"00000000-0000-0000-0000-000000000007\"\x7d"),
          some "\x7b\"name\":\"already exists\"\x7d"] := by
  intro france office bad sound taken asking response status data
  have hcountry : Catalogue.country ∈ Catalogue.schemas := List.mem_cons_self
  have hops : ∀ op ∈ [Operation.create Catalogue.country none france], op.Served := by
    simp [Operation.Served, hcountry]
  have hoffice : Reachable .counting office := Reachable.start.after hops
  have hsent : ∀ body ∈ [bad, sound, taken], (asking "POST" "" body).jsonBody.toOption.any
      fun sent => (Catalogue.country.model.ofPayload sent).outcome.isSome := by
    decide +kernel
  have hroute : ∀ body ∈ [bad, sound, taken],
      Http.Route.find? (asking "POST" "" body).path = some (.entry Catalogue.country) := by
    decide +kernel
  refine ⟨hoffice, hcountry, fun body hbody => ?_, by decide +kernel, by decide +kernel,
    by decide +kernel⟩
  have hreturns := hsent body hbody
  cases hjson : (asking "POST" "" body).jsonBody with
  | error => rw [hjson] at hreturns; cases hreturns
  | ok sent =>
    rw [hjson] at hreturns
    have hends : Catalogue.country.model.ofPayload sent ≠ .abandon := by
      intro habandon
      simp only [Except.toOption, Option.any, habandon] at hreturns
      cases hreturns
    exact ⟨sent, ⟨by simp, hroute body hbody, rfl, hjson⟩, hends,
      Reachable.vets hoffice hcountry hends⟩

end Office

end BookingOffice
