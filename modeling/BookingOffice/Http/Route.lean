import BookingOffice.Catalogue
import BookingOffice.Http.Request
import BookingOffice.Text.Percent

/-!
Routes. Every type of entities has a route for its list, one for creating and one for each entity,
named after its schema, and two routes for each association that it owns. They all lie under one
path; only the check that the server is up has a route of its own.
-/

namespace BookingOffice.Http

/-- What a path leads to. -/
inductive Route where
  | health
  /-- The entities of a type. -/
  | entities (s : Schema)
  /-- The place where entities of a type are created. -/
  | entry (s : Schema)
  /-- One entity of a type, with its identifier as it was sent. -/
  | entity (s : Schema) (raw : String)
  /-- The place where members of an association are linked. -/
  | linking (s : Schema) (a : Association)
  /-- The place where members of an association are unlinked. -/
  | unlinking (s : Schema) (a : Association)
  deriving DecidableEq

/-- What a request asks for. -/
inductive Action where
  | health
  | list (s : Schema)
  | create (s : Schema)
  | get (s : Schema) (raw : String)
  | replace (s : Schema) (raw : String)
  | delete (s : Schema) (raw : String)
  | link (s : Schema) (a : Association)
  | unlink (s : Schema) (a : Association)

namespace Route

/-- The path that the routes of entities lie under. -/
def base : String := "/api/v1/external"

/-- The part of a path behind the common path of the entities. -/
def below? (path : String) : Option String :=
  if base.toList.isPrefixOf path.toList then
    some (String.ofList (path.toList.drop base.toList.length))
  else none

/-- Cuts a path into the parts behind its slashes. -/
def segments : List Char → List (List Char)
  | [] => []
  | '/' :: rest =>
    let segment := rest.takeWhile (· ≠ '/')
    segment :: segments (rest.drop segment.length)
  | _ :: rest => segments rest
termination_by cs => cs.length
decreasing_by
  all_goals simp only [List.length_drop, List.length_cons]
  all_goals omega

/-- The route to an association of a type. -/
def ofAssociation? (s : Schema) (segment : String) : Option Route :=
  s.associations.findSome? fun a =>
    if segment = s!"{a.member.name}_add" then some (.linking s a)
    else if segment = s!"{a.member.name}_del" then some (.unlinking s a)
    else none

/-- The route that one part of a path leads to. -/
def ofName? (name : String) : Option Route :=
  match Catalogue.schemas.find? (·.plural == name), Catalogue.schema? name with
  | some s, _ => some (.entities s)
  | none, some s => some (.entry s)
  | none, none => none

/-- The route that the parts of a path below the common one lead to. -/
def ofSegments? : List (List Char) → Option Route
  | [name] => ofName? (String.ofList name)
  | [name, segment] =>
    if segment.isEmpty then none
    else
      (Catalogue.schema? (String.ofList name)).map fun s =>
        (ofAssociation? s (String.ofList segment)).getD (.entity s (String.ofList segment))
  | _ => none

/-- The route that a path leads to. -/
def find? (path : String) : Option Route :=
  if path = "/health" then some .health
  else
    (below? path).bind fun rest =>
      if rest.toList.head? = some '/' then ofSegments? (segments rest.toList) else none

/-- Whether the route is open to clients without a token. -/
def isPublic : Route → Bool
  | health => true
  | _ => false

/-- The methods of a route. -/
def allow : Route → String
  | health => "GET,HEAD"
  | entities _ => "GET,HEAD"
  | entry _ => "POST"
  | entity _ _ => "GET,HEAD,PUT,DELETE"
  | linking _ _ => "POST"
  | unlinking _ _ => "POST"

/-- What a method asks for on a route. -/
def action? (route : Route) (method : String) : Option Action :=
  let reads := method = "GET" ∨ method = "HEAD"
  match route with
  | health => if reads then some .health else none
  | entities s => if reads then some (.list s) else none
  | entry s => if method = "POST" then some (.create s) else none
  | entity s raw =>
    if reads then some (.get s raw)
    else if method = "PUT" then some (.replace s raw)
    else if method = "DELETE" then some (.delete s raw)
    else none
  | linking s a => if method = "POST" then some (.link s a) else none
  | unlinking s a => if method = "POST" then some (.unlink s a) else none

end Route

end BookingOffice.Http
