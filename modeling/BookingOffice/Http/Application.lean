import BookingOffice.Http.Membership
import BookingOffice.Http.Route
import BookingOffice.Office.Basic

/-!
The application: how the office answers requests. A request is led to a route by its path, then let
through by its token, then told apart by its method, and only then looked at.
-/

namespace BookingOffice.Http

/-- What a request that was carried out is answered with. -/
structure Reply where
  envelope : Envelope
  /-- Why there is no data, if that is so. -/
  fault : Option Stored.DetailFault := none

namespace Reply

variable {E : Type}

/-- The reply with data that may be missing. -/
def ofData (envelope : Json → Envelope) : Except Stored.DetailFault Json → Reply
  | .ok data => { envelope := envelope data }
  | .error fault => { envelope := envelope .null, fault := some fault }

/-- The reply with an entity. -/
def ofStored (envelope : Json → Envelope) (m : Model E) (stored : Stored E) : Reply :=
  ofData envelope (stored.detail m)

/-- The reply with a page of entities. -/
def ofList (m : Model E) (page : List (Stored E) × PageInfo) : Reply :=
  ofData (fun data => (Envelope.ok data).withPage page.2)
    ((page.1.mapM fun stored : Stored E => stored.detail m).map .array)

/-- The reply without data. -/
def done : Reply := { envelope := .ok .null }

/-- The response that carries the reply. -/
def toResponse (r : Reply) : Response :=
  match r.fault with
  | none => .ofEnvelope r.envelope
  | some fault => { status := r.envelope.code, body := .text fault.message }

end Reply

/-! ### Handlers -/

/-- Work on the office that ends with a value or a problem. -/
abbrev Handler (α : Type) := Office → Attempt Problem α × Office

namespace Handler

variable {α β : Type}

/-- Goes on with the result of work that does not touch the office. -/
def after (work : Attempt Problem α) (next : α → Handler β) : Handler β := fun office =>
  match work.outcome with
  | some (.ok a) => next a office
  | some (.error problem) => (throw problem, office)
  | none => (.abandon, office)

/-- The reply to the result of an operation of the office. -/
def reply (operation : Office → Attempt Refusal α × Office) (f : α → Reply) : Handler Reply :=
  fun office =>
    let (result, office) := operation office
    (f <$> ExceptT.adapt Problem.ofRefusal result, office)

end Handler

/-- The identifier that stands in a path. -/
def pathUuid (raw : String) : Except Problem Uuid :=
  match Text.Utf8.decode? (Text.Percent.decode (Text.Utf8.encode raw)) with
  | none => .error (.badRequest "Invalid URL: Invalid UTF-8 in \x60uuid\x60")
  | some s =>
    match Uuid.ofText? s with
    | some u => .ok u
    | none => .error (.badRequest s!"Invalid UUID {s}")

/-- The identifier that a body gives to a new entity, and what is wrong with it. -/
def givenUuid (body : Json) : Option Uuid × FieldErrors :=
  match body.get? "uuid" with
  | none => (none, .empty)
  | some .null => (none, .empty)
  | some json =>
    match Membership.readUuid (some json) with
    | .ok u => (some u, .empty)
    | .error message => (none, .single "uuid" message)

/-- The new entity in a body with the identifier that it is given. All errors are reported. -/
def readNew (s : Schema) (body : Json) : Attempt Problem (Option Uuid × Draft s.fields) := do
  let (uuid, errors) := givenUuid body
  let draft ←
    ExceptT.adapt (fun e => Problem.ofFieldErrors (errors.extend e)) (s.model.ofPayload body)
  .ofExcept ((errors.orResult (uuid, draft)).mapError .ofFieldErrors)

/-- Carries out what a request asks for. -/
def Action.perform (env : Surroundings) (request : Request) : Action → Handler Reply
  | health => .after (.ofExcept request.emptyBody) fun _ office => (pure .done, office)
  | list s =>
    .after (.ofExcept request.emptyBody) fun _ =>
    .after (ExceptT.adapt .ofFieldErrors (Parameters.ofQuery s.fields request.query)) fun p =>
    .reply (Office.list env s.model p) (.ofList s.model)
  | create s =>
    .after (.ofExcept request.jsonBody) fun body =>
    .after (readNew s body) fun (uuid, draft) =>
    .reply (Office.create env s.model uuid draft) (.ofStored .created s.model)
  | get s raw =>
    .after (.ofExcept (pathUuid raw)) fun uuid =>
    .after (.ofExcept request.emptyBody) fun _ =>
    .reply (Office.get env s.model uuid) (.ofStored .ok s.model)
  | replace s raw =>
    .after (.ofExcept (pathUuid raw)) fun uuid =>
    .after (.ofExcept request.jsonBody) fun body =>
    .after (ExceptT.adapt .ofFieldErrors (s.model.ofPayload body)) fun draft =>
    .reply (Office.update env s.model uuid draft) (.ofStored .ok s.model)
  | delete s raw =>
    .after (.ofExcept (pathUuid raw)) fun uuid =>
    .after (.ofExcept request.emptyBody) fun _ =>
    .reply (Office.delete env s.model uuid) fun _ => .done
  | link s a =>
    .after (.ofExcept request.jsonBody) fun body =>
    .after (.ofExcept ((Membership.read a body).mapError .ofFieldErrors)) fun (owner, members) =>
    .reply (Office.addMembers env s.model a owner members) (.ofStored .ok s.model)
  | unlink s a =>
    .after (.ofExcept request.jsonBody) fun body =>
    .after (.ofExcept ((Membership.read a body).mapError .ofFieldErrors)) fun (owner, members) =>
    .reply (Office.removeMembers env s.model a owner members) (.ofStored .ok s.model)

/-! ### The gate -/

/-- The realm that tokens are for. -/
def realm : String := "transit"

/-- The problem of headers with a faulty authorization for a realm. -/
def Headers.AuthFault.problem (fault : AuthFault) (realm : String) : Problem :=
  .unauthorized "Bearer" realm fault.message

/-- The token for a realm that headers carry, or the problem that they carry none. -/
def Headers.bearerFor (headers : Headers) (realm : String) : Except Problem String :=
  headers.bearer.mapError (·.problem realm)

/-- Whether two texts have the same bytes. All bytes of texts of equal length are looked at. -/
def tokenMatches (given expected : String) : Bool :=
  let given := Text.Utf8.encode given
  let expected := Text.Utf8.encode expected
  given.length == expected.length &&
    (given.zip expected).foldl (fun acc p => acc ||| (p.1 ^^^ p.2)) 0 == 0

/-- Why a request is not let through. -/
inductive Rejection where
  | badAuthorization (fault : Headers.AuthFault)
  | wrongToken
  deriving DecidableEq, Repr

/-- The problem that clients without the token are told. -/
def Rejection.problem : Rejection → Problem
  | .badAuthorization fault => fault.problem realm
  | .wrongToken => .unauthorized "Bearer" realm "Invalid token"

/-- What is logged about a request that is not let through. -/
def Rejection.warning (r : Rejection) (request : Request) : LogLine :=
  let reason := match r with
    | .badAuthorization _ => r.problem.message
    | .wrongToken => "invalid token"
  let path := (Route.below? request.path).getD request.path
  ⟨.warn, s!"Rejected {request.method} {path}: {reason}"⟩

/-- Why a request is not let through, if it is not. Without a token everyone is. -/
def rejection? (token : Option String) (request : Request) : Option Rejection :=
  token.bind fun expected =>
    match request.headers.bearer with
    | .error fault => some (.badAuthorization fault)
    | .ok given => if tokenMatches given expected then none else some .wrongToken

/-! ### Answers -/

/-- What a request leads to: a response, unless work on it was abandoned, and lines of the log. -/
structure Answer where
  response : Option Response
  log : List LogLine := []

namespace Answer

/-- The answer that tells a problem. -/
def ofProblem (p : Problem) : Answer := { response := some p.toResponse, log := p.log }

/-- The answer to the result of a handler. -/
def ofResult (result : Attempt Problem Reply) : Answer :=
  match result.outcome with
  | some (.ok reply) => { response := some reply.toResponse }
  | some (.error problem) => .ofProblem problem
  | none => { response := none }

/-- Changes the response. -/
def map (f : Response → Response) (a : Answer) : Answer := { a with response := a.response.map f }

end Answer

/-- Answers a request whose route has been found, and which has been let through or not. A response
to a method that the route does not know names those that it does. -/
def answerOn (env : Surroundings) (route : Route) (rejection : Option Rejection)
    (request : Request) (office : Office) : Answer × Office :=
  match rejection, route.action? request.method with
  | some r, action =>
    let answer := Answer.ofProblem r.problem
    let answer := { answer with log := r.warning request :: answer.log }
    match action with
    | some _ => (answer.map fun x => { x with bodyless := request.method = "HEAD" }, office)
    | none => (answer.map fun x => { x with allow := some route.allow }, office)
  | none, some action =>
    let (result, office) := action.perform env request office
    ((Answer.ofResult result).map fun x => { x with bodyless := request.method = "HEAD" }, office)
  | none, none =>
    let problem :=
      Problem.methodNotAllowed s!"Method {request.method} not allowed for {request.path}"
    ((Answer.ofProblem problem).map fun x => { x with allow := some route.allow }, office)

/-- Answers a request. -/
def respond (env : Surroundings) (token : Option String) (request : Request) (office : Office) :
    Answer × Office :=
  match Route.find? request.path with
  | none => (.ofProblem (.notFound s!"No route for {request.path}"), office)
  | some route =>
    let rejection := if route.isPublic then none else rejection? token request
    answerOn env route rejection request office

end BookingOffice.Http
