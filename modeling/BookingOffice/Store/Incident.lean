import BookingOffice.Log
import BookingOffice.Store.Failure
import BookingOffice.Text.Search

/-!
Incidents between the office and the system that keeps its data, and the failures that they come to.
The two systems tell broken constraints apart in their own ways: one reports codes, the other only
texts. Being out of connections passes for one of them and not for the other.
-/

namespace BookingOffice

/-- The system that keeps the data. -/
inductive Backend where
  | postgres
  | sqlite
  deriving DecidableEq, Repr

/-- What may happen between the office and its database. -/
inductive Incident where
  | rowNotFound
  /-- The database answered with an error of its own, which may have a code. -/
  | refused (code detail : String)
  | poolTimedOut
  | poolClosed
  | workerCrashed
  | columnNotFound (name : String)
  | columnDecode (source : String)
  | protocol (detail : String)
  | io (detail : String)
  deriving DecidableEq, Repr

namespace Incident

/-- The description of an incident. -/
def message : Incident → String
  | rowNotFound => "no rows returned by a query that expected to return at least one row"
  | refused _ detail => s!"error returned from database: {detail}"
  | poolTimedOut => "pool timed out while waiting for an open connection"
  | poolClosed => "attempted to acquire a connection on a closed pool"
  | workerCrashed => "attempted to communicate with a crashed background worker"
  | columnNotFound name => s!"no column found for name: {name}"
  | columnDecode source => source
  | protocol detail => s!"encountered unexpected or invalid data: {detail}"
  | io detail => s!"error communicating with database: {detail}"

/-- Whether the description of an incident contains a text. -/
def mentions (incident : Incident) (s : String) : Bool :=
  Text.occursIn s.toList incident.message.toList

/-- The failure that an incident comes to. -/
def toFailure (backend : Backend) (incident : Incident) : Failure :=
  match incident, backend with
  | columnDecode source, _ => .integrity source
  | rowNotFound, _ => .notFound
  | refused "23503" _, .postgres => .notFound
  | refused "23505" _, .postgres => .alreadyExists
  | refused "53300" _, .postgres => .unavailable
  | refused code detail, .postgres => .backend s!"pgsql error {code}: {detail}"
  | poolTimedOut, .postgres => .unavailable
  | incident, .postgres => .backend incident.message
  | incident, .sqlite =>
    if incident.mentions "FOREIGN KEY constraint failed" then .notFound
    else if incident.mentions "UNIQUE constraint failed" then .alreadyExists
    else .backend incident.message

end Incident

/-- What becomes of connections that are given up: whether that is fatal, and what is logged. They
must have been closed before. -/
def Backend.giveUp (backend : Backend) (closed : Bool) : Bool × List LogLine :=
  match backend, closed with
  | _, true => (false, [])
  | .postgres, false => (true, [])
  | .sqlite, false =>
    (false, [⟨.warn, "Dropping connection without having called close() first"⟩])

end BookingOffice
