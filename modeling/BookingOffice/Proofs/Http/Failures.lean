import BookingOffice.Proofs.Office.Legible

/-!
Failures. Every operation is one transaction, and a transaction that does not end with a value is
undone, however much it has written. As a request is at most one operation, and nothing goes wrong
between a successful operation and its answer, a request that is not answered with success has
changed nothing either.

* `Office.Traceless`: what it means that failures leave no trace;
* `Office.traceless`: in no state they do.
-/

namespace BookingOffice

namespace Http

variable {env : Surroundings} {token : Option String} {request : Request} {office : Office}

/-- A request that is not answered with success leaves the store as it was. -/
lemma store_of_not_isSuccess
    (h : ∀ response, (respond env token request office).1.response = some response →
      ¬ response.IsSuccess) :
    (respond env token request office).2.desk.store = office.desk.store := by
  have heffect := effect env token request office
  generalize (respond env token request office).1 = answer at h heffect
  generalize (respond env token request office).2 = after at heffect ⊢
  cases heffect with
  | aside _ => rfl
  | asked hop _ hanswer =>
    refine Office.store_of_ne_pure fun a ha => ?_
    obtain ⟨response, hresponse, hsuccess⟩ := hanswer a ha
    exact h response hresponse hsuccess

/-- A request with a method that only asks leaves the store as it was. -/
lemma store_of_isReading (h : request.IsReading) :
    (respond env token request office).2.desk.store = office.desk.store := by
  have heffect := effect env token request office
  generalize (respond env token request office).1 = answer at heffect
  generalize (respond env token request office).2 = after at heffect ⊢
  cases heffect with
  | aside _ => rfl
  | asked _ hreads _ => exact (hreads h).store_perform env office

/-- The office after requests, one after another. -/
def served (env : Surroundings) (token : Option String) (requests : List Request)
    (office : Office) : Office :=
  requests.foldl (fun office request => (respond env token request office).2) office

/-- If requests have changed the store, one of them was to do so and was answered with success. -/
lemma exists_isSuccess_of_store_ne {requests : List Request}
    (h : (served env token requests office).desk.store ≠ office.desk.store) :
    ∃ before request after response, requests = before ++ request :: after ∧
      ¬ request.IsReading ∧
      (respond env token request (served env token before office)).1.response = some response ∧
      response.IsSuccess := by
  induction requests generalizing office with
  | nil => exact absurd rfl h
  | cons request requests ih =>
    by_cases hfirst : (respond env token request office).2.desk.store = office.desk.store
    · have hrest : (served env token requests (respond env token request office).2).desk.store ≠
          (respond env token request office).2.desk.store := hfirst ▸ h
      obtain ⟨before, later, after, response, rfl, hlater⟩ := ih hrest
      exact ⟨request :: before, later, after, response, rfl, hlater⟩
    · have hreads : ¬ request.IsReading := fun hr => hfirst (store_of_isReading hr)
      have hsuccess : ∃ response, (respond env token request office).1.response = some response ∧
          response.IsSuccess := by
        by_contra hno
        exact hfirst (store_of_not_isSuccess fun response hr hs => hno ⟨response, hr, hs⟩)
      obtain ⟨response, hresponse, hs⟩ := hsuccess
      exact ⟨[], request, requests, response, rfl, hreads, hresponse, hs⟩

end Http

namespace Office

/-- What it means that failures leave no trace: rows and links are as they were. -/
structure Traceless (env : Surroundings) (office : Office) : Prop where
  /-- Work that does not end with a value is undone, whatever it has written before. -/
  work : ∀ {α : Type} (refuse : Failure → Refusal) (script : Script α),
    (∀ a, (office.transact env refuse script).1 ≠ pure a) →
    (office.transact env refuse script).2.desk.store = office.desk.store
  /-- So is an operation that does not succeed. -/
  operation : ∀ op : Operation, (∀ answer, (op.perform env office).1 ≠ pure answer) →
    (op.perform env office).2.desk.store = office.desk.store
  /-- So is a request that is not answered with success, or not at all. -/
  request : ∀ token request,
    (∀ response, (Http.respond env token request office).1.response = some response →
      ¬ response.IsSuccess) →
    (Http.respond env token request office).2.desk.store = office.desk.store
  /-- A request with a method that only asks changes nothing, whatever it is answered. -/
  reading : ∀ token (request : Http.Request), request.IsReading →
    (Http.respond env token request office).2.desk.store = office.desk.store
  /-- What a run of requests has changed, a request did that was answered with success. -/
  run : ∀ token requests, (Http.served env token requests office).desk.store ≠ office.desk.store →
    ∃ before request after response, requests = before ++ request :: after ∧
      ¬ request.IsReading ∧
      (Http.respond env token request (Http.served env token before office)).1.response =
        some response ∧
      response.IsSuccess

/-- Failures leave no trace in any state of the office. -/
theorem traceless (env : Surroundings) (office : Office) : office.Traceless env where
  work _ _ := transact_store_of_ne_pure
  operation _ := store_of_ne_pure
  request _ _ := Http.store_of_not_isSuccess
  reading _ _ := Http.store_of_isReading
  run _ _ := Http.exists_isSuccess_of_store_ne

/-- A payment is written, at a time that UTC cannot write, and cannot be read again, so the row is
gone. A request for it is answered with a problem and writes nothing. -/
theorem traceless_lost_payment :
    let office := ofLayout .office
    let script := Procedure.save Catalogue.payment.model none (Catalogue.paymentAt .lost) .epoch
    let op : Operation := .create Catalogue.payment none (Catalogue.paymentAt .lost)
    let request : Http.Request :=
      { method := "POST"
        target := "/api/v1/external/payment"
        headers := [⟨"content-type", Text.Utf8.encode "application/json"⟩]
        body := Text.Utf8.encode ("\x7b\"amount\": 1, \"method\": \"cash\", " ++
          "\"paid_at\": \"0000-01-01T00:30:00+01:00\"\x7d") }
    let answer := (Http.respond .counting none request office).1
    ((script.run Uuid.ofNat office.desk).2.store.rows "payments").length = 1 ∧
      (∀ stored, (op.perform .counting office).1 ≠ pure stored) ∧
      (op.perform .counting office).2.desk.store = office.desk.store ∧
      answer.response.map (·.status) = some 422 ∧
      (Http.respond .counting none request office).2.desk.store = office.desk.store := by
  intro office script op request answer
  have hrefused : ((op.perform .counting office).1.outcome.bind (·.toOption)).isNone = true := by
    decide +kernel
  have hne : ∀ stored, (op.perform .counting office).1 ≠ pure stored := by
    intro stored hstored
    rw [hstored] at hrefused
    cases hrefused
  have hstatus : answer.response.map (·.status) = some 422 := by decide +kernel
  have htraceless : office.Traceless .counting := traceless .counting office
  refine ⟨by decide +kernel, hne, htraceless.operation op hne, hstatus,
    htraceless.request none request ?_⟩
  intro response hresponse hsuccess
  change answer.response = some response at hresponse
  rw [hresponse, Option.map_some, Option.some.injEq] at hstatus
  rw [Http.Response.IsSuccess, hstatus] at hsuccess
  exact absurd hsuccess.2 (by decide)

end Office

end BookingOffice
