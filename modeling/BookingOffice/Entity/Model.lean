import BookingOffice.Entity.Draft
import BookingOffice.Schema.Validation

/-!
Models: what the office must know of a type of entities. Entities and records are converted into
each other by way of JSON, so the checks of payloads apply to everything that is stored.
-/

namespace BookingOffice

/-- A type of entities with its schema and its own form in JSON. -/
structure Model (E : Type) where
  schema : Schema
  toJson : E → Except Rfc3339.Unwritable Json
  ofJson : Json → Except Misfit E

/-- The entities that a schema describes. -/
def Schema.model (s : Schema) : Model (Draft s.fields) where
  schema := s
  toJson := Draft.toJson
  ofJson := Draft.ofJson s.fields

namespace Model

variable {E : Type}

/-- The message for a record that is no entity. -/
def recordMessage (m : Model E) (misfit : Misfit) : String :=
  s!"Cannot build {m.schema.name} from record: {misfit.message}"

/-- The entity of a record that has been checked. -/
def ofRecord (m : Model E) (record : Record) : Except String E :=
  (m.ofJson record.toJson).mapError m.recordMessage

/-- Checks a payload and takes the entity from it. -/
def ofPayload (m : Model E) (body : Json) : Attempt FieldErrors E := do
  let record ← m.schema.validate body
  .ofExcept ((m.ofRecord record).mapError (FieldErrors.single "body"))

/-- The checked record of an entity. -/
def toRecord (m : Model E) (entity : E) : Attempt FieldErrors Record :=
  match m.toJson entity with
  | .ok json => m.schema.validate json
  | .error unwritable => throw (.single "body" unwritable.message)

end Model

end BookingOffice
