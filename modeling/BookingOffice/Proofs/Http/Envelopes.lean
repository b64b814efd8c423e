import BookingOffice.Proofs.Office.Detail
import BookingOffice.Proofs.Http.Requests

/-!
Envelopes. Whatever comes of a request, its response is an envelope whose code is the status, and
clients tell from the status what they find in it. A success has the data that it promises, as
everything that the office answers with can be written; a failure has none, unless it tells what is
wrong with the fields of the request.

* `Http.Response.IsEnvelope`: what the response to a request has to be;
* `Http.Response.Gives`: what it means that a response gives a status, a message and data;
* `Http.Problem.isEnvelope`: the response to a problem is that;
* `Http.Reply.isEnvelope`: so is the response to what was done;
* `Office.Writable`: what it means that all that the office answers with can be written;
* `Office.Writable.isEnvelope_respond`: then all responses are envelopes;
* `Office.Reachable.enveloped`: so they are in every state that the office gets into.
-/

namespace BookingOffice

namespace Http

/-! ### Envelopes -/

/-- A member of the object in the body of a response. -/
def Response.member? (r : Response) (name : String) : Option Json :=
  match r.body with
  | .json json => json.get? name
  | .text _ => none

/-- Whether a request is for a list of entities. -/
def Request.IsListing (request : Request) : Prop :=
  ∃ route s, Route.find? request.path = some route ∧
    route.action? request.method = some (.list s)

/-- What the response to a request has to be. -/
structure Response.IsEnvelope (request : Request) (r : Response) : Prop where
  /-- The body is sent, and is an object with these members and no others. -/
  bodyless : r.bodyless = false
  object : ∃ members, r.body = .json (.object members) ∧ ∀ name, name ∈ members.map Prod.fst ↔
    name ∈ ["code", "message", "data"] ∨ name = "meta" ∧ request.IsListing ∧ r.IsSuccess
  status : r.status ∈ [200, 201, 400, 401, 404, 405, 413, 422, 500]
  code : r.member? "code" = some (.nat r.status)
  message : ∃ message, r.member? "message" = some (.string message)
  /-- Where there is a page, it is one. -/
  page : ∀ json, r.member? "meta" = some json → ∃ page : PageInfo, json = page.toJson
  /-- A failure has no data, but for the messages for the fields of what cannot be processed. -/
  failure : 400 ≤ r.status → r.member? "data" = some .null ∨
    r.status = 422 ∧ ∃ errors : FieldErrors, errors.isEmpty = false ∧
      r.member? "data" = some (.object (errors.entries.map fun p => (p.1, .string p.2)))
  authenticate : r.authenticate.isSome ↔ r.status = 401

/-- What it means that a response gives a status, a message and data, and nothing else. -/
structure Response.Gives (r : Response) (n : Nat) (text : String) (json : Json) : Prop where
  status : r.status = n
  /-- The body is sent, and is an object with three members in the order of their names. -/
  bodyless : r.bodyless = false
  object : ∃ members, r.body = .json (.object members) ∧
    members.map Prod.fst = ["code", "data", "message"]
  code : r.member? "code" = some (.nat n)
  data : r.member? "data" = some json
  message : r.member? "message" = some (.string text)
  /-- The headers say neither which methods are allowed nor how to authenticate. -/
  allow : r.allow = none
  authenticate : r.authenticate = none

namespace Envelope

variable (e : Envelope)

/-- The members of an envelope. -/
def members : List (String × Json) :=
  [("code", .nat e.code), ("message", .string e.message), ("data", e.data)] ++
    (e.page.map fun page => ("meta", page.toJson)).toList

lemma toJson_eq : e.toJson = .ofMembers e.members := rfl

lemma nodup_members : (e.members.map Prod.fst).Nodup := by
  have hnames : ["code", "message", "data", "meta"].Nodup := by decide
  cases h : e.page with
  | none =>
    rw [members, h]
    exact hnames.sublist (List.sublist_append_left _ ["meta"])
  | some page =>
    rw [members, h]
    exact hnames

lemma mem_members_iff {name : String} :
    name ∈ e.members.map Prod.fst ↔
      name ∈ ["code", "message", "data"] ∨ name = "meta" ∧ e.page.isSome := by
  cases h : e.page <;> simp [members, h, or_assoc]

lemma get?_toJson_iff {name : String} {json : Json} :
    e.toJson.get? name = some json ↔ (name, json) ∈ e.members := by
  rw [toJson_eq, Json.ofMembers, Json.get?, Entries.get?_ofList,
    Entries.get?_reverse e.nodup_members]
  exact ⟨Entries.mem_of_get?, Entries.get?_of_mem e.nodup_members⟩

end Envelope

/-- The response that carries an envelope without a page gives what is in the envelope. -/
lemma Response.gives_ofEnvelope (n : Nat) (text : String) (json : Json) :
    (Response.ofEnvelope ⟨n, text, json, none⟩).Gives n text json := by
  have hmember {name : String} {value : Json}
      (h : (name, value) ∈ (Envelope.mk n text json none).members) :
      (Response.ofEnvelope ⟨n, text, json, none⟩).member? name = some value :=
    (Envelope.get?_toJson_iff _).2 h
  exact {
    status := rfl
    bodyless := rfl
    object := ⟨_, congrArg Body.json (Envelope.toJson_mk n text json), rfl⟩
    code := hmember (by simp [Envelope.members])
    data := hmember (by simp [Envelope.members])
    message := hmember (by simp [Envelope.members])
    allow := rfl
    authenticate := rfl }

variable {request : Request} {r : Response}

/-- A response with an envelope is as it has to be if its parts are. -/
lemma Response.isEnvelope_of {e : Envelope} (hbody : r.body = .json e.toJson)
    (hcode : r.status = e.code) (hbodyless : r.bodyless = false)
    (hstatus : e.code ∈ [200, 201, 400, 401, 404, 405, 413, 422, 500])
    (hpage : e.page.isSome ↔ request.IsListing ∧ r.IsSuccess)
    (hfailure : 400 ≤ e.code → e.data = .null ∨
      e.code = 422 ∧ ∃ errors : FieldErrors, errors.isEmpty = false ∧
        e.data = .object (errors.entries.map fun p => (p.1, .string p.2)))
    (hauthenticate : r.authenticate.isSome ↔ e.code = 401) : r.IsEnvelope request := by
  have hmember {name : String} {json : Json} :
      r.member? name = some json ↔ (name, json) ∈ e.members := by
    rw [member?, hbody]
    exact e.get?_toJson_iff
  have hdata : r.member? "data" = some e.data := hmember.2 (by simp [Envelope.members])
  rw [← hcode] at hstatus hfailure hauthenticate
  exact {
    bodyless := hbodyless
    object := by
      refine ⟨Entries.ofList e.members, hbody, fun name => ?_⟩
      rw [(Entries.map_fst_ofList_perm e.nodup_members).mem_iff, e.mem_members_iff, hpage]
    status := hstatus
    code := hmember.2 (by simp [Envelope.members, hcode])
    message := ⟨e.message, hmember.2 (by simp [Envelope.members])⟩
    page := by
      intro json hjson
      have hmem := hmember.1 hjson
      cases hp : e.page with
      | none => simp [Envelope.members, hp] at hmem
      | some page =>
        obtain rfl : json = page.toJson := by simpa [Envelope.members, hp] using hmem
        exact ⟨page, rfl⟩
    failure := by
      simpa only [hdata, Option.some.injEq] using hfailure
    authenticate := hauthenticate }

/-! ### Problems -/

/-- Whether a problem says how to authenticate exactly if that is what is wrong. -/
def Problem.IsPlain (p : Problem) : Prop := p.authenticate?.isSome ↔ p.status = 401

lemma Problem.IsOfReading.isPlain {p : Problem} (h : p.IsOfReading) : p.IsPlain := by
  cases p <;> first | exact h.elim | exact ⟨nofun, nofun⟩

lemma Problem.isPlain_notFound (message : String) : (notFound message).IsPlain := ⟨nofun, nofun⟩

lemma Problem.isPlain_methodNotAllowed (message : String) : (methodNotAllowed message).IsPlain :=
  ⟨nofun, nofun⟩

lemma Problem.isPlain_ofRefusal (refusal : Refusal) : (Problem.ofRefusal refusal).IsPlain := by
  cases refusal <;> exact ⟨nofun, nofun⟩

lemma Rejection.isPlain_problem (rejection : Rejection) : rejection.problem.IsPlain := by
  cases rejection <;> exact ⟨fun _ => rfl, fun _ => rfl⟩

lemma Problem.status_mem (p : Problem) : p.status ∈ [400, 401, 404, 405, 413, 422, 500] := by
  cases p <;> simp [status]

/-- The response to a problem is an envelope, whatever methods it allows. -/
lemma Problem.isEnvelope {p : Problem} (h : p.IsPlain) (hbody : r.body = p.toResponse.body)
    (hstatus : r.status = p.status) (hauthenticate : r.authenticate = p.authenticate?)
    (hbodyless : r.bodyless = false) : r.IsEnvelope request := by
  have hfailure : 300 ≤ p.status :=
    (by decide : ∀ n ∈ [400, 401, 404, 405, 413, 422, 500], 300 ≤ n) _ p.status_mem
  have hno : ¬ r.IsSuccess := fun hsuccess => by
    rw [Response.IsSuccess, hstatus] at hsuccess
    omega
  refine Response.isEnvelope_of hbody hstatus hbodyless ?_ ?_ ?_ (hauthenticate ▸ h)
  · exact List.mem_cons_of_mem _ (List.mem_cons_of_mem _ p.status_mem)
  · exact iff_of_false Bool.false_ne_true fun hlist => hno hlist.2
  · intro _
    cases p with
    | unprocessable message errors =>
      by_cases hempty : errors.isEmpty
      · exact .inl (if_pos hempty)
      · exact .inr ⟨rfl, errors, by simpa using hempty, if_neg hempty⟩
    | _ => exact .inl rfl

/-! ### Replies -/

/-- Whether the answer to an operation can be written. -/
def Reply.Writable (op : Operation) (answer : op.Answer) : Prop :=
  ∀ stored ∈ op.entities answer, ∃ detail, stored.detail op.schema.model = .ok detail

lemma Reply.ofStored_eq {s : Schema} {stored : Stored (Draft s.fields)} {detail : Json}
    (hdetail : stored.detail s.model = .ok detail) (envelope : Json → Envelope) :
    Reply.ofStored envelope s.model stored = { envelope := envelope detail } := by
  rw [ofStored, hdetail]
  rfl

/-- The reply to an answer that can be written has its data, and a page if it is a list. -/
lemma Reply.exists_ofAnswer_eq {op : Operation} {answer : op.Answer}
    (h : Reply.Writable op answer) :
    ∃ e : Envelope, Reply.ofAnswer op answer = { envelope := e } ∧ e.code ∈ [200, 201] ∧
      (e.page.isSome ↔ ∃ s p, op = .list s p) := by
  have hok : 200 ∈ [200, 201] := List.mem_cons_self
  have hcreated : 201 ∈ [200, 201] := List.mem_cons_of_mem _ List.mem_cons_self
  cases op with
  | create s uuid draft =>
    obtain ⟨detail, hdetail⟩ := h _ List.mem_cons_self
    exact ⟨_, ofStored_eq hdetail .created, hcreated, nofun, nofun⟩
  | get s uuid =>
    obtain ⟨detail, hdetail⟩ := h _ List.mem_cons_self
    exact ⟨_, ofStored_eq hdetail .ok, hok, nofun, nofun⟩
  | list s p =>
    obtain ⟨details, hdetails, -⟩ := Traversal.exists_mapM_eq_pure h
    have hreply : Reply.ofAnswer (.list s p) answer =
        { envelope := (Envelope.ok (.array details)).withPage answer.2 } := by
      rw [ofAnswer, ofList]
      exact congrArg (fun data => ofData _ (Except.map Json.array data)) hdetails
    exact ⟨_, hreply, hok, fun _ => ⟨s, p, rfl⟩, fun _ => rfl⟩
  | update s uuid draft =>
    obtain ⟨detail, hdetail⟩ := h _ List.mem_cons_self
    exact ⟨_, ofStored_eq hdetail .ok, hok, nofun, nofun⟩
  | delete s uuid => exact ⟨_, rfl, hok, nofun, nofun⟩
  | addMembers s a owner members =>
    obtain ⟨detail, hdetail⟩ := h _ List.mem_cons_self
    exact ⟨_, ofStored_eq hdetail .ok, hok, nofun, nofun⟩
  | removeMembers s a owner members =>
    obtain ⟨detail, hdetail⟩ := h _ List.mem_cons_self
    exact ⟨_, ofStored_eq hdetail .ok, hok, nofun, nofun⟩

/-- The response to what was done is an envelope, if there is a page exactly for lists. -/
lemma Reply.isEnvelope {e : Envelope} (hcode : e.code ∈ [200, 201])
    (hpage : e.page.isSome ↔ request.IsListing) :
    (Reply.toResponse { envelope := e }).IsEnvelope request := by
  have hsuccess : 200 ≤ e.code ∧ e.code < 300 :=
    (by decide : ∀ n ∈ [200, 201], 200 ≤ n ∧ n < 300) _ hcode
  refine Response.isEnvelope_of rfl rfl rfl (List.mem_append_left _ hcode) ?_ ?_ ?_
  · exact hpage.trans (and_iff_left hsuccess).symm
  · exact fun hfailure : 400 ≤ e.code => by omega
  · exact ⟨nofun, fun hcode : e.code = 401 => by omega⟩

/-! ### Requests -/

/-- An action that asks for a list is to list. -/
lemma Action.Asks.isList_iff {action : Action} {op : Operation} (h : action.Asks op) :
    (∃ s p, op = .list s p) ↔ ∃ s, action = .list s := by
  cases action with
  | health => cases h
  | list s =>
    obtain ⟨p, rfl⟩ := h
    exact ⟨fun _ => ⟨s, rfl⟩, fun _ => ⟨s, p, rfl⟩⟩
  | create s => obtain ⟨uuid, draft, rfl⟩ := h; exact ⟨nofun, nofun⟩
  | get s raw => obtain ⟨uuid, rfl⟩ := h; exact ⟨nofun, nofun⟩
  | replace s raw => obtain ⟨uuid, draft, rfl⟩ := h; exact ⟨nofun, nofun⟩
  | delete s raw => obtain ⟨uuid, rfl⟩ := h; exact ⟨nofun, nofun⟩
  | link s a => obtain ⟨owner, members, rfl⟩ := h; exact ⟨nofun, nofun⟩
  | unlink s a => obtain ⟨owner, members, rfl⟩ := h; exact ⟨nofun, nofun⟩

end Http

/-- Whether all that the office answers with can be written. -/
def Office.Writable (env : Surroundings) (office : Office) : Prop :=
  ∀ (op : Operation) (answer : op.Answer), op.Served →
    (op.perform env office).1 = pure answer → Http.Reply.Writable op answer

variable {env : Surroundings} {office : Office}

lemma Office.Sound.writable (h : office.Sound) : office.Writable env := by
  intro op answer hop hanswer stored hstored
  have hshows := h.shows_entities hop hanswer stored hstored
  obtain ⟨detail, hdetail⟩ := (h.perform hop).exists_isDetail hop.schema_mem hshows
  exact ⟨detail, hdetail.written⟩

/-- Once the database has been closed, nothing is answered with. -/
lemma Office.writable_of_isOpen_eq_false (h : office.isOpen = false) : office.Writable env := by
  intro op answer hop hanswer
  rw [op.perform_eq, transact_of_isOpen_eq_false ((op.begun_isOpen env office).trans h)] at hanswer
  cases hanswer

namespace Http

variable {action : Action} {request : Request} {result : Attempt Problem Reply} {after : Office}

/-- The response to work on an action is an envelope. -/
lemma Action.Outcome.isEnvelope (h : action.Outcome env office result after)
    (hoffered : action.Offered) (hwritable : office.Writable env)
    (haction : request.IsListing ↔ ∃ s, action = .list s) {r : Response}
    (hr : (Answer.ofResult result).response = some r) : r.IsEnvelope request := by
  cases h with
  | @misread p hp =>
    cases hr
    exact Problem.isEnvelope hp.isPlain rfl rfl rfl rfl
  | abandoned => cases hr
  | up hhealth =>
    cases hr
    refine Reply.isEnvelope List.mem_cons_self ⟨nofun, fun hlist => ?_⟩
    obtain ⟨s, hs⟩ := haction.1 hlist
    cases hhealth.symm.trans hs
  | asked op hasks =>
    obtain ⟨answer, hanswer⟩ | ⟨refusal, hrefusal⟩ | habandon :=
      (op.perform env office).1.eq_pure_or_throw_or_abandon
    · have hop := (hasks.allows hoffered).1
      obtain ⟨e, hreply, hcode, hpage⟩ :=
        Reply.exists_ofAnswer_eq (hwritable op answer hop hanswer)
      obtain rfl : r = Reply.toResponse { envelope := e } := by
        rw [hanswer] at hr
        exact hreply ▸ (Option.some.inj hr).symm
      exact Reply.isEnvelope hcode (hpage.trans (hasks.isList_iff.trans haction.symm))
    · obtain rfl : r = (Problem.ofRefusal refusal).toResponse := by
        rw [hrefusal] at hr
        exact (Option.some.inj hr).symm
      exact Problem.isEnvelope (Problem.isPlain_ofRefusal refusal) rfl rfl rfl rfl
    · rw [habandon] at hr
      cases hr

lemma isEnvelope_answerOn {route : Route} (hroute : Route.find? request.path = some route)
    (hwritable : office.Writable env) (hmethod : request.method ≠ "HEAD")
    (rejection : Option Rejection) {r : Response}
    (hr : (answerOn env route rejection request office).1.response = some r) :
    r.IsEnvelope request := by
  have hlisting : request.IsListing ↔
      ∃ s, route.action? request.method = some (.list s) := by
    constructor
    · rintro ⟨route', s, hroute', haction⟩
      obtain rfl : route' = route := Option.some.inj (hroute'.symm.trans hroute)
      exact ⟨s, haction⟩
    · exact fun ⟨s, haction⟩ => ⟨route, s, hroute, haction⟩
  cases rejection with
  | some rejection =>
    have hplain := rejection.isPlain_problem
    cases haction : route.action? request.method with
    | none =>
      simp only [answerOn, haction] at hr
      cases hr
      exact Problem.isEnvelope hplain rfl rfl rfl rfl
    | some action =>
      simp only [answerOn, haction] at hr
      cases hr
      exact Problem.isEnvelope hplain rfl rfl rfl (decide_eq_false hmethod)
  | none =>
    cases haction : route.action? request.method with
    | none =>
      simp only [answerOn, haction] at hr
      cases hr
      exact Problem.isEnvelope (Problem.isPlain_methodNotAllowed _) rfl rfl rfl rfl
    | some action =>
      simp only [answerOn, haction] at hr
      obtain ⟨r', hr', rfl⟩ := Option.map_eq_some_iff.1 hr
      have hoffered := (Route.action?_eq_some (Route.offered_of_find? hroute) haction).1
      have henvelope : r'.IsEnvelope request := by
        refine (action.outcome env request office).isEnvelope hoffered hwritable ?_ hr'
        rw [hlisting, haction]
        simp only [Option.some.injEq]
      have hbodyless : { r' with bodyless := decide (request.method = "HEAD") } = r' := by
        rw [decide_eq_false hmethod, ← henvelope.bodyless]
      rw [hbodyless]
      exact henvelope

/-- If all that the office answers with can be written, every response is an envelope. -/
theorem isEnvelope_respond (hwritable : office.Writable env) (token : Option String)
    (hmethod : request.method ≠ "HEAD") {r : Response}
    (hr : (respond env token request office).1.response = some r) : r.IsEnvelope request := by
  rw [respond] at hr
  cases hroute : Route.find? request.path with
  | none =>
    rw [hroute] at hr
    cases hr
    exact Problem.isEnvelope (Problem.isPlain_notFound _) rfl rfl rfl rfl
  | some route =>
    rw [hroute] at hr
    exact isEnvelope_answerOn hroute hwritable hmethod _ hr

end Http

namespace Office

/-- What it means that the office answers with envelopes: an answer to a request, unless work on it
was abandoned and but for those whose bodies are left out, is one, and nothing that the office
answers with cannot be written. -/
structure Enveloped (env : Surroundings) (office : Office) : Prop where
  responses : ∀ (token : Option String) (request : Http.Request) (r : Http.Response),
    request.method ≠ "HEAD" → (Http.respond env token request office).1.response = some r →
    r.IsEnvelope request
  payloads : ∀ (op : Operation) (answer : op.Answer), op.Served →
    (op.perform env office).1 = pure answer → (Http.Reply.ofAnswer op answer).fault = none

lemma enveloped_of_writable (h : office.Writable env) : office.Enveloped env where
  responses token _ _ hmethod hr := Http.isEnvelope_respond h token hmethod hr
  payloads op answer hop hanswer := by
    obtain ⟨e, hreply, -⟩ := Http.Reply.exists_ofAnswer_eq (h op answer hop hanswer)
    rw [hreply]

/-- In every state that it gets into, the office answers with envelopes, and goes on to do so when
the database has been closed. -/
theorem Reachable.enveloped (h : Reachable env office) :
    office.Enveloped env ∧ office.close.Enveloped env :=
  ⟨enveloped_of_writable h.sound.writable,
    enveloped_of_writable (writable_of_isOpen_eq_false rfl)⟩

/-- Requests that come to each of the statuses, the last of them with the database closed. -/
theorem enveloped_all_statuses :
    let france := .cons (.filled "France") (.cons (.filled "FR") .nil)
    let office := (ofLayout .office).after .counting [.create Catalogue.country none france]
    let asking (method path token body : String) : Http.Request :=
      { method := method
        target := "/api/v1/external/" ++ path
        headers := [⟨"authorization", Text.Utf8.encode ("Bearer " ++ token)⟩,
          ⟨"content-type", Text.Utf8.encode "application/json"⟩]
        body := Text.Utf8.encode body }
    let requests := [asking "GET" "countries" "token" "",
      asking "POST" "country" "token" "\x7b\"name\": \"Peru\", \"code\": \"PE\"\x7d",
      asking "GET" "country/france" "token" "", asking "GET" "countries" "other" "",
      asking "GET" "planets" "token" "", asking "PATCH" "countries" "token" "",
      asking "GET" "countries" "token" "all", asking "POST" "country" "token" "\x7b\x7d"]
    let responses (office : Office) (requests : List Http.Request) :=
      requests.filterMap fun request =>
        (Http.respond .counting (some "token") request office).1.response
    Reachable .counting office ∧ (∀ request ∈ requests, request.method ≠ "HEAD") ∧
      (responses office requests).map (·.status) = [200, 201, 400, 401, 404, 405, 413, 422] ∧
      (responses office.close requests).map (·.status) = [500, 500, 400, 401, 404, 405, 413, 422] ∧
      ∀ request ∈ requests, ∀ r ∈ responses office [request] ++ responses office.close [request],
        r.IsEnvelope request := by
  intro france office asking requests responses
  have hcountry : Catalogue.country ∈ Catalogue.schemas := List.mem_cons_self
  have hops : ∀ op ∈ [Operation.create Catalogue.country none france], op.Served := by
    simp [Operation.Served, hcountry]
  have hoffice : Reachable .counting office := Reachable.start.after hops
  have henveloped : office.Enveloped .counting ∧ office.close.Enveloped .counting :=
    Reachable.enveloped hoffice
  have hmethods : ∀ request ∈ requests, request.method ≠ "HEAD" := by decide
  refine ⟨hoffice, hmethods, by decide +kernel, by decide +kernel, ?_⟩
  intro request hrequest r hr
  simp only [responses, List.mem_append, List.mem_filterMap, List.mem_singleton, exists_eq_left]
    at hr
  obtain hr | hr := hr
  · exact henveloped.1.responses _ _ r (hmethods request hrequest) hr
  · exact henveloped.2.responses _ _ r (hmethods request hrequest) hr

end Office

end BookingOffice
