import BookingOffice.Entity.Stored
import BookingOffice.Http.Header
import BookingOffice.Listing.Parameters

/-!
Responses. Every response carries an envelope, an object with the status, a message, the data and,
for lists, the page.
-/

namespace BookingOffice.Http

/-- What every response carries. -/
structure Envelope where
  code : Nat
  message : String
  data : Json
  page : Option PageInfo := none

namespace Envelope

/-- The envelope of a request that was carried out. -/
def ok (data : Json) : Envelope := ⟨200, "OK", data, none⟩

/-- The envelope of a request that created an entity. -/
def created (data : Json) : Envelope := ⟨201, "Created", data, none⟩

/-- The envelope of a list. -/
def withPage (e : Envelope) (page : PageInfo) : Envelope := { e with page := some page }

/-- The envelope in JSON. There is no member for a page that there is not. -/
def toJson (e : Envelope) : Json :=
  .ofMembers ([("code", .nat e.code), ("message", .string e.message), ("data", e.data)] ++
    (e.page.map fun page => ("meta", page.toJson)).toList)

/-- Without a page there are three members, in the order of their names. -/
theorem toJson_mk (code : Nat) (message : String) (data : Json) :
    (Envelope.mk code message data none).toJson =
      .object [("code", .nat code), ("data", data), ("message", .string message)] := by
  have hcode : ¬ "message" < "code" ∧ ¬ "data" < "code" ∧ "data" < "message" := by decide
  have hne : "message" ≠ "code" ∧ "data" ≠ "code" := by decide
  simp only [toJson, Json.ofMembers, Entries.ofList, Option.map_none, Option.toList_none,
    List.append_nil, List.foldl_cons, List.foldl_nil, Entries.insert, hcode, hne, if_true, if_false]

end Envelope

/-- The body of a response. -/
inductive Body where
  | json (j : Json)
  | text (s : String)

/-- A response. -/
structure Response where
  status : Nat
  body : Body
  /-- The methods that the address allows. -/
  allow : Option String := none
  /-- How to authenticate. -/
  authenticate : Option String := none
  /-- Whether the body is left out. -/
  bodyless : Bool := false

namespace Response

/-- The response that carries an envelope. -/
def ofEnvelope (e : Envelope) : Response := { status := e.code, body := .json e.toJson }

/-- The type of the content. -/
def contentType (r : Response) : String :=
  match r.body with
  | .json _ => "application/json"
  | .text _ => "text/plain; charset=utf-8"

end Response

end BookingOffice.Http
