import BookingOffice.Store.Script

/-!
Procedures: what the office does with its storage, written once for all types of entities as scripts
of statements. Everything but the check of an identifier for a new entity considers live rows only.
-/

namespace BookingOffice.Procedure

variable {E : Type}

/-- The row of a live entity. -/
def findRow (outline : Outline) (uuid : Uuid) : Script (Option Entry) := do
  let entries ← Script.rowsOf (.live outline uuid)
  return entries.getLast?

/-- Whether there is a live entity with an identifier. -/
def isLive (outline : Outline) (uuid : Uuid) : Script Bool := do
  let n ← Script.numberOf (.live outline [uuid])
  return decide (0 < n)

/-- The detail of the entity that a field refers to, or null. -/
def reference (target : Outline) (value : Option Value) : Script Json :=
  match value with
  | some (.uuid uuid) => do
    let entry ← findRow target uuid
    return Json.ofOption (entry.map Entry.detail)
  | _ => pure .null

/-- The details of the entities that the fields of a row refer to, under the names of the
relations. -/
def references (fields : List Field) (record : Record) : Script (List (String × Json)) :=
  (fields.filterMap fun f => f.references.map (f, ·)).mapM fun (f, target) => do
    let detail ← reference target (record.get? f.name)
    return (f.relationName, detail)

/-- The details of the members of an owner, under the names of the associations. -/
def memberships (associations : List Association) (owner : Uuid) :
    Script (List (String × Json)) :=
  associations.mapM fun a => do
    let entries ← Script.rowsOf (.members a owner)
    return (a.name, .array (entries.map Entry.detail))

/-- The entity in a row with everything that it is related to. -/
def complete (m : Model E) (entry : Entry) : Script (Stored E) := do
  let references ← references m.schema.fields entry.record
  let memberships ← memberships m.schema.associations entry.uuid
  Script.ofExcept (entry.toStored m (.ofList (references ++ memberships)))

/-- The errors for the values of a record that other live rows have but must not. -/
def duplicates (schema : Schema) (record : Record) (exclude : Option Uuid) :
    Script FieldErrors := do
  let found ← (schema.fields.filter (·.unique)).mapM fun f =>
    match record.get? f.name with
    | none => pure (f.name, 0)
    | some (.null _) => pure (f.name, 0)
    | some value => do
      let n ← Script.numberOf (.duplicates schema.outline f.name value exclude)
      return (f.name, n)
  return .ofList ((found.filter fun p => 0 < p.2).map fun p => (p.1, "already exists"))

/-- The error for an identifier that a row has, be it deleted. -/
def takenUuid (schema : Schema) : Option Uuid → Script FieldErrors
  | none => pure .empty
  | some uuid => do
    let n ← Script.numberOf (.any schema.outline uuid)
    return if 0 < n then .single "uuid" "already exists" else .empty

/-- Fails if there are errors. -/
def refuse (errors : FieldErrors) : Script Unit :=
  Script.ofExcept ((errors.orResult ()).mapError .invalid)

/-- A live entity. -/
def get (m : Model E) (uuid : Uuid) : Script (Stored E) := do
  match ← findRow m.schema.outline uuid with
  | some entry => complete m entry
  | none => Script.fail .notFound

/-- Stores a new entity, under a new identifier if none is given. -/
def save (m : Model E) (uuid : Option Uuid) (entity : E) (now : Instant) : Script (Stored E) := do
  let record ← Script.ofAttempt .invalid (m.toRecord entity)
  let taken ← takenUuid m.schema uuid
  let repeated ← duplicates m.schema record none
  refuse (taken.extend repeated)
  let uuid ← match uuid with
    | some uuid => pure uuid
    | none => Script.newIdentifier
  let affected ← Script.execute (.insert m.schema.outline uuid record now)
  if affected ≠ 1 then
    Script.fail (.backend s!"Insertion into {m.schema.table} affected {affected} rows")
  else get m uuid

/-- Replaces the contents of a live entity. -/
def update (m : Model E) (uuid : Uuid) (entity : E) (now : Instant) : Script (Stored E) := do
  let record ← Script.ofAttempt .invalid (m.toRecord entity)
  if !(← isLive m.schema.outline uuid) then Script.fail .notFound
  else
    let repeated ← duplicates m.schema record (some uuid)
    refuse repeated
    let affected ← Script.execute (.update m.schema.outline uuid record now)
    if affected = 0 then Script.fail .notFound else get m uuid

/-- Deletes a live entity. -/
def delete (outline : Outline) (uuid : Uuid) (now : Instant) : Script Unit := do
  let affected ← Script.execute (.delete outline uuid now)
  if affected = 0 then Script.fail .notFound

/-- A page of the live entities that match filters, and how many there are. -/
def list (m : Model E) (p : Parameters) : Script (List (Stored E) × PageInfo) := do
  let total ← Script.numberOf (.matching m.schema.outline p.filters)
  let entries ← Script.rowsOf (.page m.schema.outline p)
  let entities ← entries.mapM (complete m)
  return (entities, .ofTotal p total)

/-- Fails for the first of the members that is not live. -/
def requireMembers (a : Association) (members : List Uuid) : Script Unit :=
  members.forM fun member => do
    if !(← isLive a.member member) then
      Script.fail (.invalid (.single a.name s!"unknown {a.member.name} {member.toText}"))

/-- Links members to a live owner. -/
def addMembers (outline : Outline) (a : Association) (owner : Uuid) (members : List Uuid) :
    Script Unit := do
  if !(← isLive outline owner) then Script.fail .notFound
  else
    requireMembers a members
    members.forM fun member => do
      let _ ← Script.execute (.link a owner member)

/-- Removes the links of members to a live owner. -/
def removeMembers (outline : Outline) (a : Association) (owner : Uuid) (members : List Uuid) :
    Script Unit := do
  if !(← isLive outline owner) then Script.fail .notFound
  else
    members.forM fun member => do
      let _ ← Script.execute (.unlink a owner member)

end BookingOffice.Procedure
