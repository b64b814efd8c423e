import BookingOffice.Http.Response
import BookingOffice.Log
import BookingOffice.Office.Refusal

/-!
Problems: why a request was not carried out, and the responses that say so. What went wrong inside
is logged and never shown to clients.
-/

namespace BookingOffice.Http

/-- Why a request was not carried out. -/
inductive Problem where
  | badRequest (message : String)
  | internal (detail : String)
  | methodNotAllowed (message : String)
  | notFound (message : String)
  | payloadNotEmpty
  | unauthorized (scheme realm message : String)
  | unprocessable (message : String) (errors : FieldErrors)
  deriving DecidableEq

namespace Problem

/-- The description of a problem. -/
def message : Problem → String
  | badRequest message => message
  | internal detail => detail
  | methodNotAllowed message => message
  | notFound message => message
  | payloadNotEmpty => "Content should be empty"
  | unauthorized _ _ message => s!"Unauthorized: {message}"
  | unprocessable message _ => message

/-- The problem of invalid fields or parameters. -/
def ofFieldErrors (errors : FieldErrors) : Problem := unprocessable "Validation failed" errors

/-- The problem of a body that cannot be read. -/
def ofBody (message : String) : Problem := unprocessable message .empty

/-- The problem that a refusal of the office comes to. -/
def ofRefusal : Refusal → Problem
  | .alreadyExists message => unprocessable message .empty
  | .backend message => internal message
  | .invalid errors => ofFieldErrors errors
  | .notFound message => notFound message

/-- The status of a problem. -/
def status : Problem → Nat
  | badRequest _ => 400
  | internal _ => 500
  | methodNotAllowed _ => 405
  | notFound _ => 404
  | payloadNotEmpty => 413
  | unauthorized _ _ _ => 401
  | unprocessable _ _ => 422

/-- The message that clients see. -/
def publicMessage : Problem → String
  | internal _ => "Internal server error"
  | p => p.message

/-- The data that clients see: the errors of fields, if there are any. -/
def data : Problem → Json
  | unprocessable _ errors =>
    if errors.isEmpty then .null else .object (errors.entries.map fun p => (p.1, .string p.2))
  | _ => .null

/-- How to authenticate, if that can stand in a header. -/
def authenticate? : Problem → Option String
  | unauthorized scheme realm _ =>
    let value := s!"{scheme} realm=" ++ "\"" ++ realm ++ "\""
    if (Text.Utf8.encode value).all fun b => b = 9 || (32 ≤ b && b ≠ 127) then some value else none
  | _ => none

/-- The response to a problem. -/
def toResponse (p : Problem) : Response :=
  { Response.ofEnvelope ⟨p.status, p.publicMessage, p.data, none⟩ with
    authenticate := p.authenticate? }

/-- What is logged about a problem. -/
def log : Problem → List LogLine
  | internal detail => [⟨.error, s!"Internal error: {detail}"⟩]
  | _ => []

end Problem

end BookingOffice.Http
