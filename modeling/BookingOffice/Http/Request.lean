import BookingOffice.Http.MediaType
import BookingOffice.Http.Problem
import BookingOffice.Json.Reader

/-!
Requests, and what handlers take from them: the query, an empty body or a body of JSON. A body of
JSON must be declared as such and not be too long; what follows its first value does not matter.
-/

namespace BookingOffice.Http

/-- A request. -/
structure Request where
  method : String
  /-- The path and the query, as they were sent. -/
  target : String
  headers : Headers
  body : List UInt8

namespace Request

/-- The target without its fragment. -/
def address (r : Request) : List Char := r.target.toList.takeWhile (· ≠ '#')

/-- The path. -/
def path (r : Request) : String := String.ofList (r.address.takeWhile (· ≠ '?'))

/-- The query, if there is one. -/
def query (r : Request) : Option String :=
  match r.address.dropWhile (· ≠ '?') with
  | [] => none
  | _ :: rest => some (String.ofList rest)

/-- The longest body that is read. -/
def maxBody : Nat := 2 * 1024 * 1024

/-- Makes sure that the body is empty. -/
def emptyBody (r : Request) : Except Problem Unit :=
  if r.body.isEmpty then .ok () else .error .payloadNotEmpty

/-- Whether the body is declared to be JSON. -/
def declaresJson (r : Request) : Bool :=
  match r.headers.values "content-type" with
  | [] => false
  | value :: _ =>
    match (Headers.text? value).bind MediaType.read? with
    | some essence => essence.isJson
    | none => false

/-- The body as JSON. -/
def jsonBody (r : Request) : Except Problem Json :=
  if !r.declaresJson then
    .error (.ofBody "Expected request with \x60Content-Type: application/json\x60")
  else if maxBody < r.body.length then
    .error (.ofBody "Failed to buffer the request body: length limit exceeded")
  else
    (Json.readFirst r.body).mapError fun e =>
      .ofBody s!"Failed to parse the request body as JSON: {e.messageWithPath}"

end Request

end BookingOffice.Http
