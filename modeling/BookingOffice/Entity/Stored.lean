import BookingOffice.Entity.Model

/-!
Stored entities, with the identity and the times that storage adds and the entities that they are
related to. Clients see them as one object, the detail: the fields of the entity next to `uuid`,
`created_at`, `updated_at` and one member for each relation.
-/

namespace BookingOffice

/-- An entity as it is stored. -/
structure Stored (E : Type) where
  uuid : Uuid
  createdAt : Instant
  updatedAt : Instant
  entity : E
  /-- The details of the related entities under the names of the relations. -/
  related : Dictionary Json := .empty

namespace Stored

variable {E : Type}

/-- Why a stored entity has no detail. -/
inductive DetailFault where
  | unwritable (part : Rfc3339.Unwritable)
  | notObject (name : String)
  deriving DecidableEq, Repr

/-- The message for an entity without a detail. -/
def DetailFault.message : DetailFault → String
  | .unwritable part => part.message
  | .notObject name => s!"{name} does not serialize to an object"

/-- The members that storage adds to those of an entity. -/
def identity (uuid : Uuid) (createdAt updatedAt : Instant) : List (String × Json) :=
  [("uuid", (Value.uuid uuid).toJson), ("created_at", (Value.timestamp createdAt).toJson),
    ("updated_at", (Value.timestamp updatedAt).toJson)]

/-- The detail. Of equal names relations count before identity and identity before fields. -/
def detail (stored : Stored E) (m : Model E) : Except DetailFault Json := do
  let json ← (m.toJson stored.entity).mapError .unwritable
  let members ← match json.members? with
    | some members => .ok members
    | none => .error (.notObject m.schema.name)
  return .ofMembers (members ++ identity stored.uuid stored.createdAt stored.updatedAt ++
    stored.related.entries)

end Stored

end BookingOffice
