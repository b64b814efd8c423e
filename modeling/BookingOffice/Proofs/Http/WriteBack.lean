import BookingOffice.Json.Printer
import BookingOffice.Proofs.Http.Bodies
import BookingOffice.Proofs.Office.WriteBack

/-!
Clients that write back what they have read. The data of the response to a request for an entity can
be put back as it is, with its identifier, its times and everything that the entity is related to.
That succeeds, and all that comes of it is the time of the update, however often it is done.

* `Http.Request.Gets`, `Http.Request.Puts`: the two requests of a round;
* `Http.exists_respond_of_gets`, `Http.exists_respond_of_puts`: what each of them comes to;
* `Http.Rounds`: rounds of getting an entity and putting it back;
* `Http.respond_round`, `Http.Rounds.renewed`: what is left of a round, and of a whole run of them;
* `Office.WritesBack`: what it means that writing back what was read changes nothing else;
* `Office.Reachable.writesBack`: so it is in every state that the office gets into.
-/

namespace BookingOffice

namespace Http

variable {env : Surroundings} {office : Office} {token : Option String} {request : Request}
  {s : Schema} {uuid : Uuid} {stored : Stored (Draft s.fields)} {detail : Json}

/-! ### Requests on an entity -/

/-- Whether a request is let through to an entity. -/
structure Request.IsOn (request : Request) (token : Option String) (s : Schema) (uuid : Uuid) :
    Prop where
  admitted : ∀ expected, token = some expected → request.headers.Carries expected
  led : ∃ raw, Route.find? request.path = some (.entity s raw) ∧ pathUuid raw = .ok uuid

/-- Whether a request gets an entity. -/
structure Request.Gets (request : Request) (token : Option String) (s : Schema) (uuid : Uuid) :
    Prop extends request.IsOn token s uuid where
  method : request.method = "GET"
  body : request.body = []

/-- Whether a request puts contents in place of those of an entity, as its body of JSON. Such a body
is declared to be JSON and is within the limit of the server. -/
structure Request.Puts (request : Request) (token : Option String) (s : Schema) (uuid : Uuid)
    (contents : Json) : Prop extends request.IsOn token s uuid where
  method : request.method = "PUT"
  body : request.jsonBody = .ok contents

lemma Handler.reply_of_eq_pure {α : Type} {operation : Office → Attempt Refusal α × Office} {a : α}
    {after : Office} (h : operation office = (pure a, after)) (f : α → Reply) :
    Handler.reply operation f office = (pure (f a), after) := by
  rw [Handler.reply, h]
  rfl

/-- If the action that a request asks for comes to an envelope, that is the answer. -/
lemma Request.IsOn.respond_of_perform (h : request.IsOn token s uuid)
    (hmethod : request.method ≠ "HEAD") {f : String → Action}
    (haction : ∀ raw, (Route.entity s raw).action? request.method = some (f raw)) {e : Envelope}
    {after : Office} (hperform : ∀ raw, pathUuid raw = .ok uuid →
      (f raw).perform env request office = (pure { envelope := e }, after)) :
    respond env token request office = ({ response := some (.ofEnvelope e) }, after) := by
  obtain ⟨raw, hroute, huuid⟩ := h.led
  rw [respond_of_action h.admitted hroute hmethod (haction raw), hperform raw huuid]
  rfl

lemma respond_of_gets (h : request.Gets token s uuid)
    (hget : office.get env s.model uuid = (pure stored, office))
    (hdetail : stored.detail s.model = .ok detail) :
    respond env token request office =
      ({ response := some (.ofEnvelope (.ok detail)) }, office) := by
  have hempty : request.emptyBody = .ok () := by
    rw [Request.emptyBody, h.body]
    rfl
  refine h.respond_of_perform (f := .get s) (by rw [h.method]; decide)
    (fun raw => by rw [h.method]; rfl) fun raw huuid => ?_
  simp only [Action.perform, huuid, hempty, Attempt.ofExcept_ok, Handler.after_pure]
  rw [Handler.reply_of_eq_pure hget, Reply.ofStored_eq hdetail .ok]

lemma respond_of_puts {contents : Json} {draft : Draft s.fields} {after : Office}
    (h : request.Puts token s uuid contents) (hdraft : s.model.ofPayload contents = pure draft)
    (hupdate : office.update env s.model uuid draft = (pure stored, after))
    (hdetail : stored.detail s.model = .ok detail) :
    respond env token request office =
      ({ response := some (.ofEnvelope (.ok detail)) }, after) := by
  refine h.respond_of_perform (f := .replace s) (by rw [h.method]; decide)
    (fun raw => by rw [h.method]; rfl) fun raw huuid => ?_
  simp only [Action.perform, huuid, h.body, hdraft, Attempt.ofExcept_ok, Attempt.adapt_pure,
    Handler.after_pure]
  rw [Handler.reply_of_eq_pure hupdate, Reply.ofStored_eq hdetail .ok]

/-- A request for an entity that the office shows is answered with its detail, and leaves the office
alone. -/
theorem exists_respond_of_gets (h : office.Sound) (hs : s ∈ Catalogue.schemas)
    (hshows : office.Shows env s stored) (hget : request.Gets token s stored.uuid) :
    ∃ detail r, stored.detail s.model = .ok detail ∧ r.Gives 200 "OK" detail ∧
      respond env token request office = ({ response := some r }, office) := by
  obtain ⟨detail, hdetail⟩ := h.exists_isDetail hs hshows
  exact ⟨detail, _, hdetail.written, Response.gives_ofEnvelope 200 "OK" detail,
    respond_of_gets hget (h.get_eq hshows) hdetail.written⟩

/-- A request that puts this detail in place of the entity is answered with the detail at the time
of the update, and leaves nothing but that time behind. -/
theorem exists_respond_of_puts (h : office.Sound) (hs : s ∈ Catalogue.schemas)
    (hshows : office.Shows env s stored) (hdetail : stored.detail s.model = .ok detail)
    (hput : request.Puts token s stored.uuid detail) :
    ∃ detail' r, { stored with updatedAt := (env.clock office.readings).kept }.detail s.model =
        .ok detail' ∧
      (∀ name, name ≠ "updated_at" → detail'.get? name = detail.get? name) ∧
      r.Gives 200 "OK" detail' ∧
      respond env token request office =
        ({ response := some r }, office.touched env s.table stored.uuid) := by
  obtain ⟨detail', hdetail', hnames⟩ :=
    Stored.exists_detail_of_updatedAt hdetail (env.clock office.readings).kept
  exact ⟨detail', _, hdetail', hnames, Response.gives_ofEnvelope 200 "OK" detail',
    respond_of_puts hput (h.ofPayload_detail hs hshows hdetail) (h.update_self hs hshows) hdetail'⟩

/-! ### Rounds -/

/-- Rounds in which clients get an entity and put back what the data of the response shows, with the
offices before and after them. -/
inductive Rounds (env : Surroundings) (token : Option String) (s : Schema) (uuid : Uuid) :
    Nat → Office → Office → Prop
  | none (office : Office) : Rounds env token s uuid 0 office office
  | more {n : Nat} {before office : Office} (h : Rounds env token s uuid n before office)
      {get put : Request} {r : Response} {data : Json} (hget : get.Gets token s uuid)
      (hr : (respond env token get office).1.response = some r)
      (hdata : r.member? "data" = some data) (hput : put.Puts token s uuid data) :
      Rounds env token s uuid (n + 1) before
        (respond env token put (respond env token get office).2).2

/-- What a round comes to. -/
lemma respond_round (h : office.Sound) (hs : s ∈ Catalogue.schemas)
    (hshows : office.Shows env s stored) {get put : Request} {r : Response} {data : Json}
    (hget : get.Gets token s stored.uuid)
    (hr : (respond env token get office).1.response = some r)
    (hdata : r.member? "data" = some data) (hput : put.Puts token s stored.uuid data) :
    (respond env token put (respond env token get office).2).2 =
      office.touched env s.table stored.uuid := by
  obtain ⟨detail, r', hdetail, hgives, hgot⟩ := exists_respond_of_gets h hs hshows hget
  rw [hgot] at hr ⊢
  obtain rfl : r' = r := Option.some.inj hr
  obtain rfl : detail = data := Option.some.inj (hgives.data.symm.trans hdata)
  obtain ⟨detail', r', -, -, -, hdone⟩ := exists_respond_of_puts h hs hshows hdetail hput
  rw [hdone]

/-- All that is left of rounds is the time of the last one. -/
theorem Rounds.renewed {n : Nat} {before after : Office}
    (h : Rounds env token s uuid n before after) (hbefore : before.Sound)
    (hs : s ∈ Catalogue.schemas) (hshows : before.Shows env s stored)
    (huuid : stored.uuid = uuid) :
    after.Sound ∧ after.readings = before.readings + n ∧
      (∃ time, after.Shows env s { stored with updatedAt := time }) ∧
      ∀ m, n = m + 1 →
        Office.Renewed env s uuid (env.clock (before.readings + m)).kept before after := by
  subst huuid
  induction h with
  | none office => exact ⟨hbefore, rfl, ⟨stored.updatedAt, hshows⟩, nofun⟩
  | @more n before office h get put r data hget hr hdata hput ih =>
    obtain ⟨hsound, hreadings, ⟨time, htime⟩, hrenewed⟩ := ih hbefore hshows
    have hround := respond_round hsound hs htime hget hr hdata hput
    obtain ⟨hafter, hstep⟩ := hsound.renewed hs htime
    rw [hround]
    have hshown := hstep.shows { stored with updatedAt := time } htime rfl
    refine ⟨hafter, congrArg Nat.succ hreadings, ⟨_, hshown⟩, ?_⟩
    rintro m ⟨⟩
    rw [hreadings] at hstep
    cases n with
    | zero =>
      cases h
      exact hstep
    | succ m => exact (hrenewed m rfl).trans hstep

end Http

namespace Office

variable {env : Surroundings} {office : Office} {s : Schema}

/-- What it means that clients can write back what they have read of an entity. -/
structure WritesBack (env : Surroundings) (office : Office) (s : Schema) (uuid : Uuid) : Prop where
  /-- Who gets the entity is shown its detail, and leaves the office alone. -/
  got : ∀ token (get : Http.Request), get.Gets token s uuid → ∃ stored detail r,
    office.Shows env s stored ∧ stored.uuid = uuid ∧ stored.detail s.model = .ok detail ∧
      r.Gives 200 "OK" detail ∧ Http.respond env token get office = ({ response := some r }, office)
  /-- Who puts back what was shown succeeds, and is shown the same but for the time of the update.
  The office is as it was but for that time. -/
  put : ∀ token (get put : Http.Request) (r : Http.Response) (data : Json),
    get.Gets token s uuid → (Http.respond env token get office).1.response = some r →
    r.member? "data" = some data → put.Puts token s uuid data → ∃ data' r',
      r'.Gives 200 "OK" data' ∧ (Http.respond env token put office).1 = { response := some r' } ∧
      (∀ name, name ≠ "updated_at" → data'.get? name = data.get? name) ∧
      data'.get? "updated_at" = some (Value.timestamp (env.clock office.readings)).toJson ∧
      Renewed env s uuid (env.clock office.readings) office (Http.respond env token put office).2
  /-- However often this is done, the office is as it was but for the time of the last update. -/
  rounds : ∀ token n after, Http.Rounds env token s uuid (n + 1) office after →
    Renewed env s uuid (env.clock (office.readings + n)) office after

/-- In every state that the office gets into, clients can write back what they have read of a live
row, with a clock of whole microseconds. -/
theorem Reachable.writesBack (h : Reachable env office) (hs : s ∈ Catalogue.schemas) {row : Row}
    (hrow : row ∈ office.desk.store.liveRows s.table)
    (hclock : ∀ n, (env.clock n).nanos % 1000 = 0) : office.WritesBack env s row.uuid := by
  obtain ⟨stored, hshows, huuid⟩ : ∃ stored, office.Shows env s stored ∧ stored.uuid = row.uuid :=
    (h.sound.exists_shows_iff hs row.uuid).2 ⟨row, hrow, rfl⟩
  rw [← huuid]
  have hkept (n : Nat) : (env.clock n).kept = env.clock n := Instant.kept_eq_self (hclock n)
  exact {
    got := by
      intro token get hget
      obtain ⟨detail, r, hdetail, hgives, hgot⟩ :=
        Http.exists_respond_of_gets h.sound hs hshows hget
      exact ⟨stored, detail, r, hshows, rfl, hdetail, hgives, hgot⟩
    put := by
      intro token get put r data hget hr hdata hput
      obtain ⟨detail, r', hdetail, hgives, hgot⟩ :=
        Http.exists_respond_of_gets h.sound hs hshows hget
      rw [hgot] at hr
      obtain rfl : r' = r := Option.some.inj hr
      obtain rfl : detail = data := Option.some.inj (hgives.data.symm.trans hdata)
      obtain ⟨detail', answered, hdetail', hnames, hanswered, hdone⟩ :=
        Http.exists_respond_of_puts h.sound hs hshows hdetail hput
      obtain ⟨hafter, hrenewed⟩ := h.sound.renewed hs hshows
      rw [hkept] at hdetail' hrenewed
      rw [hdone]
      obtain ⟨detail'', hcomplete⟩ := hafter.exists_isDetail hs (hrenewed.shows stored hshows rfl)
      obtain rfl : detail'' = detail' := Except.ok.inj (hcomplete.written.symm.trans hdetail')
      refine ⟨detail'', answered, hanswered, rfl, hnames, ?_, hrenewed⟩
      exact hcomplete.identity ("updated_at", (Value.timestamp (env.clock office.readings)).toJson)
        (List.mem_cons_of_mem _ (List.mem_cons_of_mem _ List.mem_cons_self))
    rounds := by
      intro token n after hrounds
      obtain ⟨-, -, -, hrenewed⟩ := hrounds.renewed h.sound hs hshows rfl
      exact hkept _ ▸ hrenewed n rfl }

/-- A country whose detail is put back as it was printed. -/
theorem writesBack_printed_country :
    let france := .cons (.filled "France") (.cons (.filled "FR") .nil)
    let office := (ofLayout .office).after .counting [.create Catalogue.country none france]
    let asking (method body : String) : Http.Request :=
      { method := method
        target := "/api/v1/external/country/" ++ (Uuid.ofNat 0).toText
        headers := [⟨"content-type", Text.Utf8.encode "application/json"⟩]
        body := Text.Utf8.encode body }
    let answer (request : Http.Request) := (Http.respond .counting none request office).1.response
    let shown := ((answer (asking "GET" "")).bind (·.member? "data")).map Json.toText
    Reachable .counting office ∧ (∀ n, (Surroundings.counting.clock n).nanos % 1000 = 0) ∧
      shown.map (fun text => (answer (asking "PUT" text)).map (·.status)) = some (some 200) ∧
      ∃ row ∈ office.desk.store.liveRows "countries", row.uuid = .ofNat 0 ∧
        office.WritesBack .counting Catalogue.country row.uuid := by
  intro france office asking answer shown
  have hcountry : Catalogue.country ∈ Catalogue.schemas := List.mem_cons_self
  have hops : ∀ op ∈ [Operation.create Catalogue.country none france], op.Served := by
    simp [Operation.Served, hcountry]
  have hoffice : Reachable .counting office := Reachable.start.after hops
  have hclock : ∀ n, (Surroundings.counting.clock n).nanos % 1000 = 0 := by
    intro n
    simp only [Surroundings.counting]
    split <;> decide
  obtain ⟨row, hrow, huuid⟩ :
      ∃ row ∈ office.desk.store.liveRows "countries", row.uuid = .ofNat 0 := by decide +kernel
  exact ⟨hoffice, hclock, by decide +kernel, row, hrow, huuid,
    Reachable.writesBack hoffice hcountry hrow hclock⟩

end Office

end BookingOffice
