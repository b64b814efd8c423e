import BookingOffice.Schema.Validation

/-!
Bodies of requests that link or unlink members: an object with the identifier of the owner under
`uuid` and, under the name of the association, a list of objects with the identifiers of the
members. Both parts are checked, and the first bad item of the list is reported.
-/

namespace BookingOffice.Http.Membership

/-- Reads an identifier, which must be there. -/
def readUuid : Option Json → Except String Uuid
  | none => .error Flaw.missing.message
  | some .null => .error Flaw.missing.message
  | some (.string s) =>
    match Uuid.ofText? s with
    | some u => .ok u
    | none => .error Flaw.notUuid.message
  | some _ => .error Flaw.notUuid.message

/-- Reads the items of the list of members, counted from a given index. -/
def readItems : (index : Nat) → List Json → Except String (List Uuid)
  | _, [] => .ok []
  | index, item :: items => do
    let member ← (readUuid (item.get? "uuid")).mapError fun e => s!"item {index}: uuid {e}"
    let members ← readItems (index + 1) items
    return member :: members

/-- Reads the list of members. -/
def readMembers : Option Json → Except String (List Uuid)
  | none => .error Flaw.missing.message
  | some (.array items) => readItems 0 items
  | some _ => .error "must be an array"

/-- The errors of a part of the body. -/
def errorsOf {α : Type} (field : String) : Except String α → FieldErrors
  | .ok _ => .empty
  | .error message => .single field message

/-- Reads the owner and the members. -/
def read (a : Association) (body : Json) : Except FieldErrors (Uuid × List Uuid) :=
  match body.members? with
  | none => .error Schema.notObject
  | some members =>
    let owner := readUuid (Entries.get? "uuid" members)
    let linked := readMembers (Entries.get? a.name members)
    match owner, linked with
    | .ok owner, .ok linked => .ok (owner, linked)
    | owner, linked => .error ((errorsOf "uuid" owner).extend (errorsOf a.name linked))

end BookingOffice.Http.Membership
