import BookingOffice.Proofs.Http.Envelopes
import BookingOffice.Proofs.Http.Gate

/-!
Requests with a body of JSON that are let through. The body is judged before the office is asked for
anything: either the request is told what is wrong with its fields, and nothing is done, or it comes
to one operation, whose answer it is told.

* `Http.Answer.Tells`: what it means that an answer tells errors;
* `Http.Request.Sends`: whether a request is let through to a route with a body of JSON;
* `Http.respond_of_action`: such a request is answered with what work on its action comes to;
* `Http.carryOut`: the answer to a request that comes to an operation.
-/

namespace BookingOffice.Http

variable {env : Surroundings} {office : Office} {token : Option String} {request : Request}

/-! ### Answers -/

/-- Whether an answer tells what is wrong with the fields of a request, and nothing else. There is
nothing to be logged. -/
structure Answer.Tells (answer : Answer) (errors : FieldErrors) : Prop where
  response : ∃ r, answer.response = some r ∧ r.Gives 422 "Validation failed"
    (.object (errors.entries.map fun p => (p.1, .string p.2)))
  log : answer.log = []

lemma Answer.tells_ofProblem {errors : FieldErrors} (h : errors.isEmpty = false) :
    (Answer.ofProblem (.ofFieldErrors errors)).Tells errors := by
  have hdata : (Problem.ofFieldErrors errors).data =
      .object (errors.entries.map fun p => (p.1, .string p.2)) := if_neg (by simp [h])
  refine ⟨⟨_, rfl, ?_⟩, rfl⟩
  rw [← hdata]
  exact Response.gives_ofEnvelope 422 "Validation failed" _

/-- An answer to work on an action has its body. -/
lemma Answer.map_ofResult (result : Attempt Problem Reply) :
    (Answer.ofResult result).map (fun r => { r with bodyless := false }) = .ofResult result := by
  obtain ⟨reply, rfl⟩ | ⟨problem, rfl⟩ | rfl := result.eq_pure_or_throw_or_abandon
  · cases h : reply.fault <;> simp [ofResult, map, Reply.toResponse, h, Response.ofEnvelope]
  · rfl
  · rfl

/-! ### Work on actions -/

lemma Handler.after_pure {α β : Type} (a : α) (next : α → Handler β) :
    Handler.after (pure a) next = next a := rfl

lemma Handler.after_throw {α β : Type} (problem : Problem) (next : α → Handler β) :
    Handler.after (throw problem) next office = (throw problem, office) := rfl

/-- A request that is let through to an action is answered with what work on it comes to. -/
theorem respond_of_action {route : Route} {action : Action}
    (hadmitted : ∀ expected, token = some expected → request.headers.Carries expected)
    (hroute : Route.find? request.path = some route) (hmethod : request.method ≠ "HEAD")
    (haction : route.action? request.method = some action) :
    respond env token request office =
      (.ofResult (action.perform env request office).1, (action.perform env request office).2) := by
  have hrejection : rejection? token request = none := by
    cases token with
    | none => rfl
    | some expected => exact rejection?_eq_none_iff.2 (hadmitted expected rfl)
  simp only [respond, hroute, hrejection, ite_self, answerOn, haction, hmethod, decide_false,
    Answer.map_ofResult]

/-- Whether a request is let through to a route with a method and a body of JSON. Such a body is
declared to be JSON and is within the limit of the server. -/
structure Request.Sends (request : Request) (token : Option String) (route : Route)
    (method : String) (body : Json) : Prop where
  admitted : ∀ expected, token = some expected → request.headers.Carries expected
  led : Route.find? request.path = some route
  method : request.method = method
  body : request.jsonBody = .ok body

/-- The answer to a request that comes to an operation, and the office that it leaves. -/
def carryOut (env : Surroundings) (op : Operation) (office : Office) : Answer × Office :=
  (.ofResult (Reply.ofAnswer op <$> ExceptT.adapt Problem.ofRefusal (op.perform env office).1),
    (op.perform env office).2)

lemma carryOut_of_eq_pure {op : Operation} {answer : op.Answer} {after : Office}
    (h : op.perform env office = (pure answer, after)) :
    carryOut env op office = (.ofResult (pure (Reply.ofAnswer op answer)), after) := by
  rw [carryOut, h]
  rfl

lemma carryOut_of_eq_throw {op : Operation} {refusal : Refusal} {after : Office}
    (h : op.perform env office = (throw refusal, after)) :
    carryOut env op office = (.ofProblem (.ofRefusal refusal), after) := by
  rw [carryOut, h]
  rfl

end BookingOffice.Http
