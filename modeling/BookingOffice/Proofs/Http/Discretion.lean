import BookingOffice.Proofs.Http.Envelopes

/-!
Discretion. When work on an operation fails, the failure is worded twice on its way to the client:
as a refusal, which may name the entity, and as a problem, whose response and whose line of the log
are what is left of it. What went wrong inside goes to the log alone; what the client has to know
goes to the client alone.

* `Failure.IsInternal`: the failures that are no business of clients;
* `Operation.refuse_of_isInternal`: every operation words them by their messages;
* `Failure.eq_of_message_eq`: these tell them apart;
* `Http.Answer.ofFailure`: the answer to a failure of an operation;
* `Http.ofResult_reply_of_throw`: it is what a request for the operation gets;
* `Operation.Discreet`: what it means that it keeps details from clients, and nothing else;
* `Operation.discreet`: it does, for every operation.
-/

namespace BookingOffice

/-! ### Failures -/

namespace Failure

/-- Whether a failure is one of storage itself, whatever was asked of it. -/
def IsInternal : Failure → Prop
  | backend _ => True
  | integrity _ => True
  | unavailable => True
  | _ => False

/-- The first five characters of the messages of such failures. They differ between the kinds. -/
def lead : Failure → List Char
  | backend _ => "Datab".toList
  | integrity _ => "Data ".toList
  | _ => "Unava".toList

lemma IsInternal.take_message {f : Failure} (h : f.IsInternal) :
    f.message.toList.take 5 = f.lead := by
  have htake (s detail : String) (hs : 5 ≤ s.toList.length) :
      (s ++ detail).toList.take 5 = s.toList.take 5 := by
    rw [String.toList_append, List.take_append_of_le_length hs]
  cases f with
  | backend detail => exact htake "Database error: " detail (by decide)
  | integrity detail => exact htake "Data integrity error: " detail (by decide)
  | unavailable => rfl
  | _ => exact h.elim

/-- The messages of such failures tell them apart, with all their details. -/
lemma eq_of_message_eq {f f' : Failure} (h : f.IsInternal) (h' : f'.IsInternal)
    (hmessage : f.message = f'.message) : f = f' := by
  have hlead : f.lead = f'.lead := by rw [← h.take_message, ← h'.take_message, hmessage]
  cases f with
  | backend detail =>
    cases f' with
    | backend detail' => exact congrArg backend ((String.append_right_inj _).1 hmessage)
    | _ => exact absurd hlead (by simp [lead])
  | integrity detail =>
    cases f' with
    | integrity detail' => exact congrArg integrity ((String.append_right_inj _).1 hmessage)
    | _ => exact absurd hlead (by simp [lead])
  | unavailable =>
    cases f' with
    | unavailable => rfl
    | backend detail' => exact absurd hlead (by simp [lead])
    | integrity detail' => exact absurd hlead (by simp [lead])
    | _ => exact h'.elim
  | _ => exact h.elim

end Failure

/-! ### Refusals -/

namespace Operation

/-- The refusals of an operation name the entity, if it is about a certain one. -/
lemma refuse_eq (op : Operation) :
    op.refuse = .ofFailure ∨ ∃ title uuid, op.refuse = .ofEntity title uuid := by
  cases op with
  | list s p => exact .inl rfl
  | _ => exact .inr ⟨_, _, rfl⟩

/-- What went wrong inside is worded by its message in every operation. -/
lemma refuse_of_isInternal (op : Operation) {f : Failure} (h : f.IsInternal) :
    op.refuse f = .backend f.message := by
  obtain hrefuse | ⟨title, uuid, hrefuse⟩ := op.refuse_eq <;> rw [hrefuse]
  · cases f <;> first | rfl | exact h.elim
  · cases f <;> cases uuid <;> first | rfl | exact h.elim

lemma refuse_invalid (op : Operation) (errors : FieldErrors) :
    op.refuse (.invalid errors) = .invalid errors := by
  obtain hrefuse | ⟨title, uuid, hrefuse⟩ := op.refuse_eq <;> rw [hrefuse]
  · rfl
  · cases uuid <;> rfl

lemma exists_refuse_notFound (op : Operation) :
    ∃ message, op.refuse .notFound = .notFound message := by
  obtain hrefuse | ⟨title, uuid, hrefuse⟩ := op.refuse_eq <;> rw [hrefuse]
  · exact ⟨_, rfl⟩
  · cases uuid <;> exact ⟨_, rfl⟩

lemma exists_refuse_alreadyExists (op : Operation) :
    ∃ message, op.refuse .alreadyExists = .alreadyExists message := by
  obtain hrefuse | ⟨title, uuid, hrefuse⟩ := op.refuse_eq <;> rw [hrefuse]
  · exact ⟨_, rfl⟩
  · exact ⟨_, rfl⟩

end Operation

/-! ### Answers -/

namespace Http

/-- The answer to a failure of work on an operation. -/
def Answer.ofFailure (op : Operation) (f : Failure) : Answer :=
  .ofProblem (.ofRefusal (op.refuse f))

namespace Answer

variable (op : Operation)

lemma exists_ofFailure_of_isInternal {f : Failure} (h : f.IsInternal) :
    ∃ r, r.Gives 500 "Internal server error" .null ∧ ofFailure op f =
      { response := some r, log := [⟨.error, "Internal error: " ++ f.message⟩] } := by
  rw [ofFailure, op.refuse_of_isInternal h]
  exact ⟨_, Response.gives_ofEnvelope 500 _ _, rfl⟩

lemma exists_ofFailure_invalid (errors : FieldErrors) :
    ∃ r, r.Gives 422 "Validation failed"
        (if errors.isEmpty then .null
          else .object (errors.entries.map fun p => (p.1, .string p.2))) ∧
      ofFailure op (.invalid errors) = { response := some r } := by
  rw [ofFailure, op.refuse_invalid]
  exact ⟨_, Response.gives_ofEnvelope 422 _ _, rfl⟩

lemma exists_ofFailure_notFound :
    ∃ r message, r.Gives 404 message .null ∧ ofFailure op .notFound = { response := some r } := by
  obtain ⟨message, hmessage⟩ := op.exists_refuse_notFound
  rw [ofFailure, hmessage]
  exact ⟨_, message, Response.gives_ofEnvelope 404 _ _, rfl⟩

lemma exists_ofFailure_alreadyExists :
    ∃ r message, r.Gives 422 message .null ∧
      ofFailure op .alreadyExists = { response := some r } := by
  obtain ⟨message, hmessage⟩ := op.exists_refuse_alreadyExists
  rw [ofFailure, hmessage]
  exact ⟨_, message, Response.gives_ofEnvelope 422 _ _, rfl⟩

/-- What goes wrong inside makes no difference to the response. -/
lemma response_ofFailure_congr {f f' : Failure} (h : f.IsInternal) (h' : f'.IsInternal) :
    (ofFailure op f).response = (ofFailure op f').response := by
  rw [ofFailure, ofFailure, op.refuse_of_isInternal h, op.refuse_of_isInternal h']
  rfl

/-- Nothing but what goes wrong inside gets its status. -/
lemma status_ofFailure_iff (f : Failure) :
    (ofFailure op f).response.map (·.status) = some 500 ↔ f.IsInternal := by
  constructor
  · intro hstatus
    cases f with
    | alreadyExists =>
      obtain ⟨r, message, hgives, hanswer⟩ := exists_ofFailure_alreadyExists op
      rw [hanswer] at hstatus
      cases hgives.status.symm.trans (Option.some.inj hstatus)
    | invalid errors =>
      obtain ⟨r, hgives, hanswer⟩ := exists_ofFailure_invalid op errors
      rw [hanswer] at hstatus
      cases hgives.status.symm.trans (Option.some.inj hstatus)
    | notFound =>
      obtain ⟨r, message, hgives, hanswer⟩ := exists_ofFailure_notFound op
      rw [hanswer] at hstatus
      cases hgives.status.symm.trans (Option.some.inj hstatus)
    | _ => trivial
  · intro h
    obtain ⟨r, hgives, hanswer⟩ := exists_ofFailure_of_isInternal op h
    rw [hanswer]
    exact congrArg some hgives.status

end Answer

/-- If the work of an operation fails, that is what a request for the operation is answered. -/
lemma ofResult_reply_of_throw {env : Surroundings} {office : Office} {op : Operation}
    {script : Script op.Answer} {f : Failure} (hopen : office.isOpen = true)
    (hf : (script.run env.identifiers office.desk).1 = throw f) (reply : op.Answer → Reply) :
    Answer.ofResult (Handler.reply (Office.transact env op.refuse script) reply office).1 =
      .ofFailure op f := by
  have hrefused : (office.transact env op.refuse script).1 = throw (op.refuse f) :=
    (Office.transact_eq_throw_iff hopen).2 ⟨f, hf, rfl⟩
  simp only [Handler.reply, hrefused]
  rfl

/-- Once the database has been closed, that is what went wrong inside. -/
lemma ofResult_reply_of_isOpen_eq_false {env : Surroundings} {office : Office} {op : Operation}
    (h : office.isOpen = false) (reply : op.Answer → Reply) :
    Answer.ofResult (Handler.reply (op.perform env) reply office).1 =
      .ofFailure op Office.closedFailure := by
  have hrefuse : op.refuse Office.closedFailure = .ofFailure Office.closedFailure :=
    op.refuse_of_isInternal trivial
  have hclosed := (op.begun_isOpen env office).trans h
  simp only [Handler.reply, op.perform_eq, Office.transact_of_isOpen_eq_false hclosed]
  rw [Answer.ofFailure, hrefuse]
  rfl

end Http

/-- What it means that an operation keeps from clients what went wrong inside, and nothing else. -/
structure Operation.Discreet (env : Surroundings) (op : Operation) : Prop where
  /-- The operation is a transaction with work of its own. -/
  performs : ∀ office : Office, op.perform env office =
    (op.begun env office).transact env op.refuse (op.script (env.clock office.readings))
  /-- Whatever the work is, its failure is all that the answer depends on. -/
  answer : ∀ (script : Script op.Answer) (office : Office) (reply : op.Answer → Http.Reply)
    (f : Failure), office.isOpen = true →
    (script.run env.identifiers office.desk).1 = throw f →
    Http.Answer.ofResult
        (Http.Handler.reply (Office.transact env op.refuse script) reply office).1 =
      .ofFailure op f
  /-- A database that has been closed is a failure like others. -/
  closed : ∀ (office : Office) (reply : op.Answer → Http.Reply), office.isOpen = false →
    Http.Answer.ofResult (Http.Handler.reply (op.perform env) reply office).1 =
      .ofFailure op Office.closedFailure
  /-- Clients cannot tell one failure inside from another. -/
  hidden : ∀ f f' : Failure, f.IsInternal → f'.IsInternal →
    (Http.Answer.ofFailure op f).response = (Http.Answer.ofFailure op f').response
  /-- They are told that something went wrong, and one line of the log tells what. -/
  internal : ∀ f : Failure, f.IsInternal → ∃ r, r.Gives 500 "Internal server error" .null ∧
    Http.Answer.ofFailure op f =
      { response := some r, log := [⟨.error, "Internal error: " ++ f.message⟩] }
  /-- The line tells failures apart. -/
  logged : ∀ f f' : Failure, f.IsInternal → f'.IsInternal →
    (Http.Answer.ofFailure op f).log = (Http.Answer.ofFailure op f').log → f = f'
  /-- Invalid fields are told with their messages. -/
  invalid : ∀ errors : FieldErrors, ∃ r, r.Gives 422 "Validation failed"
      (if errors.isEmpty then .null
        else .object (errors.entries.map fun p => (p.1, .string p.2))) ∧
    Http.Answer.ofFailure op (.invalid errors) = { response := some r }
  notFound : ∃ r message, r.Gives 404 message .null ∧
    Http.Answer.ofFailure op .notFound = { response := some r }
  alreadyExists : ∃ r message, r.Gives 422 message .null ∧
    Http.Answer.ofFailure op .alreadyExists = { response := some r }
  /-- Nothing else is taken for something that went wrong inside. -/
  status_iff : ∀ f : Failure,
    (Http.Answer.ofFailure op f).response.map (·.status) = some 500 ↔ f.IsInternal

/-- Every operation is discreet. -/
theorem Operation.discreet (env : Surroundings) (op : Operation) : op.Discreet env where
  performs := op.perform_eq env
  answer _ _ reply _ hopen hf := Http.ofResult_reply_of_throw hopen hf reply
  closed _ reply h := Http.ofResult_reply_of_isOpen_eq_false h reply
  hidden _ _ h h' := Http.Answer.response_ofFailure_congr op h h'
  internal _ h := Http.Answer.exists_ofFailure_of_isInternal op h
  logged f f' h h' hlog := by
    obtain ⟨_, -, hanswer⟩ := Http.Answer.exists_ofFailure_of_isInternal op h
    obtain ⟨_, -, hanswer'⟩ := Http.Answer.exists_ofFailure_of_isInternal op h'
    rw [hanswer, hanswer'] at hlog
    have hline := congrArg LogLine.message (List.cons.inj hlog).1
    exact Failure.eq_of_message_eq h h' ((String.append_right_inj _).1 hline)
  invalid := Http.Answer.exists_ofFailure_invalid op
  notFound := Http.Answer.exists_ofFailure_notFound op
  alreadyExists := Http.Answer.exists_ofFailure_alreadyExists op
  status_iff := Http.Answer.status_ofFailure_iff op

/-- Work that fails for what nobody outside should know, and for what they should. -/
theorem Operation.discreet_failing_work :
    let op : Operation := .get Catalogue.country (.ofNat 0)
    let answer (f : Failure) := Http.Answer.ofResult (Http.Handler.reply
      (Office.transact .counting op.refuse (.fail f)) (Http.Reply.ofAnswer op)
      (Office.ofLayout .office)).1
    (answer (.backend "no route to 10.0.0.7")).response = (answer .unavailable).response ∧
      (answer (.backend "no route to 10.0.0.7")).log =
        [⟨.error, "Internal error: Database error: no route to 10.0.0.7"⟩] ∧
      (answer .unavailable).log = [⟨.error, "Internal error: Unavailable"⟩] ∧
      (answer (.invalid (.single "name" "is required"))).response.map (·.status) = some 422 ∧
      (answer .notFound).response.map (·.status) = some 404 := by
  intro op answer
  have hdiscreet : op.Discreet .counting := Operation.discreet .counting op
  have hanswer (f : Failure) : answer f = .ofFailure op f :=
    hdiscreet.answer (.fail f) (Office.ofLayout .office) _ f rfl rfl
  obtain ⟨_, -, hbackend⟩ := hdiscreet.internal (.backend "no route to 10.0.0.7") trivial
  obtain ⟨_, -, hunavailable⟩ := hdiscreet.internal .unavailable trivial
  obtain ⟨_, hinvalid, hrefused⟩ := hdiscreet.invalid (.single "name" "is required")
  obtain ⟨_, message, hnotFound, hmissing⟩ := hdiscreet.notFound
  simp only [hanswer]
  refine ⟨hdiscreet.hidden _ _ trivial trivial, ?_, ?_, ?_, ?_⟩
  · rw [hbackend]
    rfl
  · rw [hunavailable]
    rfl
  · rw [hrefused]
    exact congrArg some hinvalid.status
  · rw [hmissing]
    exact congrArg some hnotFound.status

end BookingOffice
