import BookingOffice.Http.Application
import BookingOffice.Proofs.Office.Operation

/-!
What requests do to the office. Whatever is wrong with a request is found before the office is asked
for anything, and then it is asked for one operation, whose answer is told. So a request is at most
one operation, and it succeeds if the operation does.

* `Http.Action.outcome`: all that work on an action can come to (`Http.Action.Outcome`);
* `Http.Course`: the two ways in which work on a request can go;
* `Http.Action.course`: every action goes one of them;
* `Http.effect`: all that a request can do (`Http.Effect`);
* `Http.Attainable`: the states that operations and requests lead to;
* `Http.attainable_iff`: they are those that operations alone lead to.
-/

namespace BookingOffice

/-- Whether the operation only asks. -/
def Operation.IsReading : Operation → Prop
  | get _ _ => True
  | list _ _ => True
  | _ => False

/-- An operation that only asks leaves the store as it was. -/
lemma Operation.IsReading.store_perform {op : Operation} (h : op.IsReading) (env : Surroundings)
    (office : Office) : (op.perform env office).2.desk.store = office.desk.store := by
  cases op with
  | get s uuid => exact Office.get_store env s uuid office
  | list s p => exact Office.list_store env s p office
  | create _ _ _ => cases h
  | update _ _ _ => cases h
  | delete _ _ => cases h
  | addMembers _ _ _ _ => cases h
  | removeMembers _ _ _ _ => cases h

namespace Http

/-! ### Routes and actions -/

/-- Whether the route is to entities that the office keeps and to an association that they have. -/
def Route.Offered : Route → Prop
  | health => True
  | entities s => s ∈ Catalogue.schemas
  | entry s => s ∈ Catalogue.schemas
  | entity s _ => s ∈ Catalogue.schemas
  | linking s a => s ∈ Catalogue.schemas ∧ a ∈ s.associations
  | unlinking s a => s ∈ Catalogue.schemas ∧ a ∈ s.associations

namespace Action

/-- Whether the action is on entities that the office keeps and an association that they have. -/
def Offered : Action → Prop
  | health => True
  | list s => s ∈ Catalogue.schemas
  | create s => s ∈ Catalogue.schemas
  | get s _ => s ∈ Catalogue.schemas
  | replace s _ => s ∈ Catalogue.schemas
  | delete s _ => s ∈ Catalogue.schemas
  | link s a => s ∈ Catalogue.schemas ∧ a ∈ s.associations
  | unlink s a => s ∈ Catalogue.schemas ∧ a ∈ s.associations

/-- Whether the action only asks. -/
def IsReading : Action → Prop
  | health => True
  | list _ => True
  | get _ _ => True
  | _ => False

/-- Whether the operation may come of the action. -/
def Allows (a : Action) (op : Operation) : Prop := op.Served ∧ (a.IsReading → op.IsReading)

end Action

namespace Route

variable {route : Route} {action : Action} {method : String}

lemma offered_of_ofAssociation? {s : Schema} (hs : s ∈ Catalogue.schemas) {segment : String}
    (h : ofAssociation? s segment = some route) : route.Offered := by
  obtain ⟨a, ha, hroute⟩ := List.exists_of_findSome?_eq_some h
  split at hroute
  · cases hroute
    exact ⟨hs, ha⟩
  · split at hroute
    · cases hroute
      exact ⟨hs, ha⟩
    · cases hroute

lemma offered_of_ofName? {name : String} (h : ofName? name = some route) : route.Offered := by
  rw [ofName?] at h
  split at h
  · next hs =>
    cases h
    exact List.mem_of_find?_eq_some hs
  · next hs =>
    cases h
    exact List.mem_of_find?_eq_some hs
  · cases h

lemma offered_of_ofSegments? {segments : List (List Char)}
    (h : ofSegments? segments = some route) : route.Offered := by
  simp only [ofSegments?] at h
  split at h
  · exact offered_of_ofName? h
  · split at h
    · cases h
    · obtain ⟨s, hs, rfl⟩ := Option.map_eq_some_iff.1 h
      have hmem : s ∈ Catalogue.schemas := List.mem_of_find?_eq_some hs
      cases ha : ofAssociation? s _ with
      | none => exact hmem
      | some route => exact offered_of_ofAssociation? hmem ha
  · cases h

/-- A path leads to what the office keeps, or nowhere. -/
lemma offered_of_find? {path : String} (h : find? path = some route) : route.Offered := by
  rw [find?] at h
  split at h
  · cases h
    trivial
  · obtain ⟨rest, -, hrest⟩ := Option.bind_eq_some_iff.1 h
    split at hrest
    · exact offered_of_ofSegments? hrest
    · cases hrest

/-- What a method asks for is on what the route is to, and two of the methods only ask. -/
lemma action?_eq_some (h : route.Offered) (ha : route.action? method = some action) :
    action.Offered ∧ (method = "GET" ∨ method = "HEAD" → action.IsReading) := by
  cases route with
  | health =>
    simp only [action?, Option.ite_none_right_eq_some, Option.some.injEq] at ha
    obtain ⟨-, rfl⟩ := ha
    exact ⟨trivial, fun _ => trivial⟩
  | entities s =>
    simp only [action?, Option.ite_none_right_eq_some, Option.some.injEq] at ha
    obtain ⟨-, rfl⟩ := ha
    exact ⟨h, fun _ => trivial⟩
  | entry s =>
    simp only [action?, Option.ite_none_right_eq_some, Option.some.injEq] at ha
    obtain ⟨rfl, rfl⟩ := ha
    exact ⟨h, fun hreads => absurd hreads (by decide)⟩
  | entity s raw =>
    simp only [action?] at ha
    by_cases hreads : method = "GET" ∨ method = "HEAD"
    · rw [if_pos hreads] at ha
      cases ha
      exact ⟨h, fun _ => trivial⟩
    · rw [if_neg hreads] at ha
      refine ⟨?_, fun hm => absurd hm hreads⟩
      split at ha
      · cases ha
        exact h
      · obtain ⟨-, ha⟩ := Option.ite_none_right_eq_some.1 ha
        cases ha
        exact h
  | linking s a =>
    simp only [action?, Option.ite_none_right_eq_some, Option.some.injEq] at ha
    obtain ⟨rfl, rfl⟩ := ha
    exact ⟨h, fun hreads => absurd hreads (by decide)⟩
  | unlinking s a =>
    simp only [action?, Option.ite_none_right_eq_some, Option.some.injEq] at ha
    obtain ⟨rfl, rfl⟩ := ha
    exact ⟨h, fun hreads => absurd hreads (by decide)⟩

end Route

/-! ### Handlers -/

/-- Whether the response tells of success. -/
def Response.IsSuccess (r : Response) : Prop := 200 ≤ r.status ∧ r.status < 300

/-- Whether a reply is sent as a success. -/
def Reply.IsSuccess (r : Reply) : Prop := 200 ≤ r.envelope.code ∧ r.envelope.code < 300

lemma Reply.IsSuccess.toResponse {r : Reply} (h : r.IsSuccess) : r.toResponse.IsSuccess := by
  rw [Response.IsSuccess, Reply.toResponse]
  cases r.fault <;> exact h

/-- Data may be missing from a success. -/
lemma Reply.isSuccess_ofData {envelope : Json → Envelope}
    (h : ∀ data, 200 ≤ (envelope data).code ∧ (envelope data).code < 300)
    (data : Except Stored.DetailFault Json) : (Reply.ofData envelope data).IsSuccess := by
  cases data <;> exact h _

lemma Reply.isSuccess_ofStored {E : Type} (m : Model E) (stored : Stored E) :
    (Reply.ofStored .ok m stored).IsSuccess :=
  isSuccess_ofData (fun _ => ⟨Nat.le_refl 200, (by decide : 200 < 300)⟩) _

lemma Reply.isSuccess_ofStored_created {E : Type} (m : Model E) (stored : Stored E) :
    (Reply.ofStored .created m stored).IsSuccess :=
  isSuccess_ofData (fun _ => ⟨Nat.le_succ 200, (by decide : 201 < 300)⟩) _

lemma Reply.isSuccess_ofList {E : Type} (m : Model E) (page : List (Stored E) × PageInfo) :
    (Reply.ofList m page).IsSuccess :=
  isSuccess_ofData (fun _ => ⟨Nat.le_refl 200, (by decide : 200 < 300)⟩) _

lemma Reply.isSuccess_done : Reply.done.IsSuccess :=
  ⟨Nat.le_refl 200, (by decide : 200 < 300)⟩

/-- How the answer to an operation is told. -/
def Reply.ofAnswer : (op : Operation) → op.Answer → Reply
  | .create s _ _, stored => .ofStored .created s.model stored
  | .get s _, stored => .ofStored .ok s.model stored
  | .list s _, page => .ofList s.model page
  | .update s _ _, stored => .ofStored .ok s.model stored
  | .delete _ _, () => .done
  | .addMembers s _ _ _, stored => .ofStored .ok s.model stored
  | .removeMembers s _ _ _, stored => .ofStored .ok s.model stored

/-- The answer to an operation that succeeds is told as a success. -/
lemma Reply.isSuccess_ofAnswer {op : Operation} (answer : op.Answer) :
    (Reply.ofAnswer op answer).IsSuccess := by
  cases op with
  | create s uuid draft => exact isSuccess_ofStored_created s.model answer
  | get s uuid => exact isSuccess_ofStored s.model answer
  | list s p => exact isSuccess_ofList s.model answer
  | update s uuid draft => exact isSuccess_ofStored s.model answer
  | delete s uuid => exact isSuccess_done
  | addMembers s a owner members => exact isSuccess_ofStored s.model answer
  | removeMembers s a owner members => exact isSuccess_ofStored s.model answer

/-- Whether a problem is one that is found when a request is read. -/
def Problem.IsOfReading : Problem → Prop
  | badRequest _ => True
  | payloadNotEmpty => True
  | unprocessable _ _ => True
  | _ => False

/-- Whether the only problems that work ends with are found when a request is read. -/
def Reads {α : Type} (work : Attempt Problem α) : Prop := ∀ p, work = throw p → p.IsOfReading

namespace Reads

variable {α : Type}

lemma ofExcept {x : Except Problem α} (h : ∀ p, x = .error p → p.IsOfReading) :
    Reads (.ofExcept x) := by
  intro p hp
  cases x with
  | ok a => cases hp
  | error q =>
    cases hp
    exact h p rfl

lemma ofFieldErrors {ε : Type} {f : ε → FieldErrors} (work : Attempt ε α) :
    Reads (ExceptT.adapt (fun e => Problem.ofFieldErrors (f e)) work) := by
  intro p hp
  obtain ⟨a, rfl⟩ | ⟨e, rfl⟩ | rfl := work.eq_pure_or_throw_or_abandon
  · cases hp
  · cases hp
    trivial
  · cases hp

lemma mapError_ofFieldErrors (x : Except FieldErrors α) :
    Reads (.ofExcept (x.mapError Problem.ofFieldErrors)) := by
  refine ofExcept fun p hp => ?_
  cases x with
  | ok a => cases hp
  | error errors =>
    cases hp
    trivial

lemma emptyBody (request : Request) : Reads (.ofExcept request.emptyBody) := by
  refine ofExcept fun p hp => ?_
  rw [Request.emptyBody] at hp
  split at hp <;> cases hp
  trivial

lemma jsonBody (request : Request) : Reads (.ofExcept request.jsonBody) := by
  refine ofExcept fun p hp => ?_
  rw [Request.jsonBody] at hp
  split at hp
  · cases hp
    trivial
  · split at hp
    · cases hp
      trivial
    · cases hread : Json.readFirst request.body with
      | ok json =>
        rw [hread] at hp
        cases hp
      | error e =>
        rw [hread] at hp
        cases hp
        trivial

lemma pathUuid (raw : String) : Reads (.ofExcept (pathUuid raw)) := by
  refine ofExcept fun p hp => ?_
  rw [Http.pathUuid] at hp
  split at hp
  · cases hp
    trivial
  · split at hp <;> cases hp
    trivial

lemma bind {β : Type} {work : Attempt Problem α} {f : α → Attempt Problem β} (h : Reads work)
    (hf : ∀ a, Reads (f a)) : Reads (work >>= f) := by
  intro p hp
  obtain ⟨a, rfl⟩ | ⟨q, rfl⟩ | rfl := work.eq_pure_or_throw_or_abandon
  · exact hf a p hp
  · obtain rfl : q = p := Attempt.throw_injective hp
    exact h q rfl
  · cases hp

lemma readNew (s : Schema) (body : Json) : Reads (readNew s body) :=
  (ofFieldErrors _).bind fun _ => mapError_ofFieldErrors _

end Reads

/-- Whether an action asks the office for an operation. -/
def Action.Asks : Action → Operation → Prop
  | health, _ => False
  | list s, op => ∃ p, op = .list s p
  | create s, op => ∃ uuid draft, op = .create s uuid draft
  | get s _, op => ∃ uuid, op = .get s uuid
  | replace s _, op => ∃ uuid draft, op = .update s uuid draft
  | delete s _, op => ∃ uuid, op = .delete s uuid
  | link s a, op => ∃ owner members, op = .addMembers s a owner members
  | unlink s a, op => ∃ owner members, op = .removeMembers s a owner members

/-- What an action may ask for is on what the office keeps, and an action that only asks asks for
nothing else. -/
lemma Action.Asks.allows {action : Action} {op : Operation} (h : action.Asks op)
    (hoffered : action.Offered) : action.Allows op := by
  cases action with
  | health => cases h
  | list s => obtain ⟨p, rfl⟩ := h; exact ⟨hoffered, fun _ => trivial⟩
  | create s => obtain ⟨uuid, draft, rfl⟩ := h; exact ⟨hoffered, False.elim⟩
  | get s raw => obtain ⟨uuid, rfl⟩ := h; exact ⟨hoffered, fun _ => trivial⟩
  | replace s raw => obtain ⟨uuid, draft, rfl⟩ := h; exact ⟨hoffered, False.elim⟩
  | delete s raw => obtain ⟨uuid, rfl⟩ := h; exact ⟨hoffered, False.elim⟩
  | link s a => obtain ⟨owner, members, rfl⟩ := h; exact ⟨hoffered, False.elim⟩
  | unlink s a => obtain ⟨owner, members, rfl⟩ := h; exact ⟨hoffered, False.elim⟩

/-- All that work on an action can come to, with the office that it leaves: something is wrong with
the request, or reading it is abandoned, or it is told that the server is up, or the office is asked
for one operation, whose answer is told. -/
inductive Action.Outcome (env : Surroundings) (office : Office) (action : Action) :
    Attempt Problem Reply → Office → Prop
  | misread {p : Problem} (hp : p.IsOfReading) : Outcome env office action (throw p) office
  | abandoned : Outcome env office action .abandon office
  | up (haction : action = .health) : Outcome env office action (pure .done) office
  | asked (op : Operation) (hasks : action.Asks op) :
      Outcome env office action
        (Reply.ofAnswer op <$> ExceptT.adapt Problem.ofRefusal (op.perform env office).1)
        (op.perform env office).2

/-- A request is read before the office is asked. -/
lemma Action.Outcome.after {env : Surroundings} {office : Office} {action : Action} {α : Type}
    {work : Attempt Problem α} {next : α → Handler Reply} (hwork : Reads work)
    (h : ∀ a, Outcome env office action (next a office).1 (next a office).2) :
    Outcome env office action (Handler.after work next office).1
      (Handler.after work next office).2 := by
  obtain ⟨a, rfl⟩ | ⟨problem, rfl⟩ | rfl := work.eq_pure_or_throw_or_abandon
  · exact h a
  · exact .misread (hwork problem rfl)
  · exact .abandoned

/-- What work on an action comes to. -/
theorem Action.outcome (action : Action) (env : Surroundings) (request : Request)
    (office : Office) :
    action.Outcome env office (action.perform env request office).1
      (action.perform env request office).2 := by
  cases action with
  | health => exact .after (.emptyBody request) fun _ => .up rfl
  | list s =>
    refine .after (.emptyBody request) fun _ => .after (.ofFieldErrors _) fun p => ?_
    exact .asked (.list s p) ⟨p, rfl⟩
  | create s =>
    refine .after (.jsonBody request) fun body => .after (.readNew s body) fun (uuid, draft) => ?_
    exact .asked (.create s uuid draft) ⟨uuid, draft, rfl⟩
  | get s raw =>
    refine .after (.pathUuid raw) fun uuid => .after (.emptyBody request) fun _ => ?_
    exact .asked (.get s uuid) ⟨uuid, rfl⟩
  | replace s raw =>
    refine .after (.pathUuid raw) fun uuid => .after (.jsonBody request) fun body =>
      .after (.ofFieldErrors _) fun draft => ?_
    exact .asked (.update s uuid draft) ⟨uuid, draft, rfl⟩
  | delete s raw =>
    refine .after (.pathUuid raw) fun uuid => .after (.emptyBody request) fun _ => ?_
    exact .asked (.delete s uuid) ⟨uuid, rfl⟩
  | link s a =>
    refine .after (.jsonBody request) fun body =>
      .after (.mapError_ofFieldErrors _) fun (owner, members) => ?_
    exact .asked (.addMembers s a owner members) ⟨owner, members, rfl⟩
  | unlink s a =>
    refine .after (.jsonBody request) fun body =>
      .after (.mapError_ofFieldErrors _) fun (owner, members) => ?_
    exact .asked (.removeMembers s a owner members) ⟨owner, members, rfl⟩

/-- The ways in which work on a request can go, with its result and the office that it leaves: the
office is left alone, or it is asked for one operation, whose answer is told as a success. -/
inductive Course (env : Surroundings) (allowed : Operation → Prop) (office : Office) :
    Attempt Problem Reply → Office → Prop
  | aside (result : Attempt Problem Reply) : Course env allowed office result office
  | asked (op : Operation) (hop : allowed op) {f : op.Answer → Reply}
      (hf : ∀ answer, (f answer).IsSuccess) :
      Course env allowed office (f <$> ExceptT.adapt Problem.ofRefusal (op.perform env office).1)
        (op.perform env office).2

/-- Every action goes one of the ways. -/
theorem Action.course {action : Action} (h : action.Offered) (env : Surroundings)
    (request : Request) (office : Office) :
    Course env action.Allows office (action.perform env request office).1
      (action.perform env request office).2 := by
  have houtcome := action.outcome env request office
  generalize (action.perform env request office).1 = result at houtcome ⊢
  generalize (action.perform env request office).2 = after at houtcome ⊢
  cases houtcome with
  | misread _ => exact .aside _
  | abandoned => exact .aside _
  | up _ => exact .aside _
  | asked op hasks => exact .asked op (hasks.allows h) Reply.isSuccess_ofAnswer

/-! ### Requests -/

/-- Whether a request is made with one of the methods that only ask. -/
def Request.IsReading (request : Request) : Prop :=
  request.method = "GET" ∨ request.method = "HEAD"

/-- All that a request can do, with the answer and the office that it leaves: it leaves the office
alone, or it is one operation on what the office keeps, and tells of success if that succeeds. -/
inductive Effect (env : Surroundings) (request : Request) (office : Office) :
    Answer → Office → Prop
  | aside (answer : Answer) : Effect env request office answer office
  | asked {op : Operation} (hop : op.Served) (hreads : request.IsReading → op.IsReading)
      {answer : Answer} (hanswer : ∀ a, (op.perform env office).1 = pure a →
        ∃ response, answer.response = some response ∧ response.IsSuccess) :
      Effect env request office answer (op.perform env office).2

variable {env : Surroundings} {request : Request} {office : Office}

/-- The answer to work that was carried out tells of success if the operation succeeded. -/
lemma Course.effect {action : Action} {result : Attempt Problem Reply} {after : Office}
    (h : Course env action.Allows office result after)
    (hreads : request.IsReading → action.IsReading) {f : Response → Response}
    (hf : ∀ r, (f r).status = r.status) :
    Effect env request office ((Answer.ofResult result).map f) after := by
  cases h with
  | aside result => exact .aside _
  | @asked op hop g hsuccess =>
    refine .asked hop.1 (fun hr => hop.2 (hreads hr)) fun a ha => ⟨f (g a).toResponse, ?_, ?_⟩
    · rw [ha]
      rfl
    · rw [Response.IsSuccess, hf]
      exact (hsuccess a).toResponse

lemma effect_answerOn {route : Route} (h : route.Offered) (env : Surroundings)
    (rejection : Option Rejection) (request : Request) (office : Office) :
    Effect env request office (answerOn env route rejection request office).1
      (answerOn env route rejection request office).2 := by
  cases haction : route.action? request.method with
  | none =>
    cases rejection <;> (simp only [answerOn, haction]; exact .aside _)
  | some action =>
    cases rejection with
    | some r => simp only [answerOn, haction]; exact .aside _
    | none =>
      obtain ⟨hoffered, hreads⟩ := Route.action?_eq_some h haction
      simp only [answerOn, haction]
      exact (Action.course hoffered env request office).effect hreads fun _ => rfl

/-- What a request does. -/
theorem effect (env : Surroundings) (token : Option String) (request : Request) (office : Office) :
    Effect env request office (respond env token request office).1
      (respond env token request office).2 := by
  rw [respond]
  cases hroute : Route.find? request.path with
  | none => exact .aside _
  | some route => exact effect_answerOn (Route.offered_of_find? hroute) env _ request office

/-- The states that operations and requests lead to from an empty database. -/
inductive Attainable (env : Surroundings) : Office → Prop
  | start : Attainable env (Office.ofLayout .office)
  | operation {office : Office} (h : Attainable env office) {op : Operation} (hop : op.Served) :
      Attainable env (op.perform env office).2
  | request {office : Office} (h : Attainable env office) (token : Option String)
      (request : Request) : Attainable env (respond env token request office).2

lemma Attainable.of_reachable (h : Office.Reachable env office) : Attainable env office := by
  induction h with
  | start => exact .start
  | step _ hop ih => exact ih.operation hop

lemma Attainable.reachable (h : Attainable env office) : Office.Reachable env office := by
  induction h with
  | start => exact .start
  | operation _ hop ih => exact ih.step hop
  | @request office _ token request ih =>
    have heffect := effect env token request office
    generalize (respond env token request office).1 = answer at heffect
    generalize (respond env token request office).2 = after at heffect ⊢
    cases heffect with
    | aside _ => exact ih
    | asked hop _ _ => exact ih.step hop

/-- Requests lead to no other states than operations. -/
theorem attainable_iff : Attainable env office ↔ Office.Reachable env office :=
  ⟨Attainable.reachable, Attainable.of_reachable⟩

end Http

end BookingOffice
