import BookingOffice.Schema.FieldErrors
import BookingOffice.Text.Escaped

/-! What can go wrong in storage. -/

namespace BookingOffice

/-- Why storage refused a piece of work. -/
inductive Failure where
  /-- A row with an equal key exists. -/
  | alreadyExists
  /-- The database failed. -/
  | backend (detail : String)
  /-- The database holds something that cannot be read. -/
  | integrity (detail : String)
  /-- Fields of the entity are invalid. -/
  | invalid (errors : FieldErrors)
  /-- There is no such row. -/
  | notFound
  /-- The database cannot be reached for now. -/
  | unavailable
  deriving DecidableEq

namespace Failure

/-- The message of a failure. -/
def message : Failure → String
  | alreadyExists => "Already exists"
  | backend detail => s!"Database error: {detail}"
  | integrity detail => s!"Data integrity error: {detail}"
  | invalid errors => errors.message
  | notFound => "Entity not found"
  | unavailable => "Unavailable"

/-- A failure in diagnostics. -/
def debugText : Failure → String
  | alreadyExists => "AlreadyExists"
  | backend detail => s!"BackendError({Text.quoted detail})"
  | integrity detail => s!"DataIntegrityError({Text.quoted detail})"
  | invalid errors =>
    let entry (p : String × String) : String := s!"{Text.quoted p.1}: {Text.quoted p.2}"
    "InvalidFields(FieldErrors(\x7b" ++ ", ".intercalate (errors.entries.map entry) ++ "\x7d))"
  | notFound => "NotFound"
  | unavailable => "Unavailable"

end Failure

end BookingOffice
