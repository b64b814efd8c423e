import BookingOffice.Office.Refusal
import BookingOffice.Store.Procedure

/-!
The office: a store, whether its database is open, and how often its clock has been read. Each
operation is one transaction, so a refused one leaves the store as it was. Creating, updating and
deleting read the clock once, before anything else and whether they succeed or not.
-/

namespace BookingOffice

/-- What the office gets from outside: the readings of its clock and new identifiers, each in the
order in which they are asked for. -/
structure Surroundings where
  clock : Nat → Instant
  identifiers : Nat → Uuid

/-- The state of the office. -/
structure Office where
  desk : Desk
  /-- Whether the database has not been closed. -/
  isOpen : Bool := true
  /-- The number of times that the clock has been read. -/
  readings : Nat := 0

namespace Office

variable {α E : Type}

/-- An office with the given layout and without entities. -/
def ofLayout (layout : Layout) : Office := { desk := { store := .empty layout } }

/-- The failure of work on a closed database. -/
def closedFailure : Failure := .backend "attempted to acquire a connection on a closed pool"

/-- Carries out a script as a transaction. -/
def transact (env : Surroundings) (refuse : Failure → Refusal) (script : Script α)
    (office : Office) : Attempt Refusal α × Office :=
  if office.isOpen then
    let (result, desk) := script.transact env.identifiers office.desk
    (ExceptT.adapt refuse result, { office with desk := desk })
  else (throw (.ofFailure closedFailure), office)

/-- The next reading of the clock. -/
def readClock (env : Surroundings) (office : Office) : Instant × Office :=
  (env.clock office.readings, { office with readings := office.readings + 1 })

/-- Creates an entity, with a new identifier if none is given. -/
def create (env : Surroundings) (m : Model E) (uuid : Option Uuid) (entity : E) (office : Office) :
    Attempt Refusal (Stored E) × Office :=
  let (now, office) := office.readClock env
  office.transact env (.ofEntity m.schema.title uuid) (Procedure.save m uuid entity now)

/-- Gets an entity. -/
def get (env : Surroundings) (m : Model E) (uuid : Uuid) (office : Office) :
    Attempt Refusal (Stored E) × Office :=
  office.transact env (.ofEntity m.schema.title (some uuid)) (Procedure.get m uuid)

/-- Lists a page of the entities that match filters. -/
def list (env : Surroundings) (m : Model E) (p : Parameters) (office : Office) :
    Attempt Refusal (List (Stored E) × PageInfo) × Office :=
  office.transact env .ofFailure (Procedure.list m p)

/-- Replaces the contents of an entity. -/
def update (env : Surroundings) (m : Model E) (uuid : Uuid) (entity : E) (office : Office) :
    Attempt Refusal (Stored E) × Office :=
  let (now, office) := office.readClock env
  office.transact env (.ofEntity m.schema.title (some uuid)) (Procedure.update m uuid entity now)

/-- Deletes an entity. -/
def delete (env : Surroundings) (m : Model E) (uuid : Uuid) (office : Office) :
    Attempt Refusal Unit × Office :=
  let (now, office) := office.readClock env
  office.transact env (.ofEntity m.schema.title (some uuid))
    (Procedure.delete m.schema.outline uuid now)

/-- Links members to an owner, and gets the owner. -/
def addMembers (env : Surroundings) (m : Model E) (a : Association) (owner : Uuid)
    (members : List Uuid) (office : Office) : Attempt Refusal (Stored E) × Office :=
  office.transact env (.ofEntity m.schema.title (some owner)) do
    Procedure.addMembers m.schema.outline a owner members
    Procedure.get m owner

/-- Removes the links of members to an owner, and gets the owner. -/
def removeMembers (env : Surroundings) (m : Model E) (a : Association) (owner : Uuid)
    (members : List Uuid) (office : Office) : Attempt Refusal (Stored E) × Office :=
  office.transact env (.ofEntity m.schema.title (some owner)) do
    Procedure.removeMembers m.schema.outline a owner members
    Procedure.get m owner

/-- Closes the database. -/
def close (office : Office) : Office := { office with isOpen := false }

end Office

end BookingOffice
