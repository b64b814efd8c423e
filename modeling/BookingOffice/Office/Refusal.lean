import BookingOffice.Store.Failure
import BookingOffice.Uuid

/-!
Refusals: how the office words the failures of its storage. A failure that is about an entity names
it; every failure that is no fault of the caller becomes a backend error.
-/

namespace BookingOffice

/-- Why the office refused a request. -/
inductive Refusal where
  | alreadyExists (message : String)
  | backend (message : String)
  | invalid (errors : FieldErrors)
  | notFound (message : String)
  deriving DecidableEq

namespace Refusal

/-- The message of a refusal. -/
def message : Refusal → String
  | alreadyExists message => message
  | backend message => message
  | invalid errors => errors.message
  | notFound message => message

/-- The refusal for a failure that is not about a certain entity. -/
def ofFailure (failure : Failure) : Refusal :=
  match failure with
  | .alreadyExists => alreadyExists failure.message
  | .backend _ => backend failure.message
  | .integrity _ => backend failure.message
  | .invalid errors => invalid errors
  | .notFound => notFound failure.message
  | .unavailable => backend failure.message

/-- The refusal for a failure of work on an entity with a title and perhaps an identifier. -/
def ofEntity (title : String) (uuid : Option Uuid) (failure : Failure) : Refusal :=
  match failure, uuid with
  | .notFound, some uuid => notFound s!"{title} {uuid.toText} not found"
  | .alreadyExists, _ => alreadyExists s!"{title} already exists"
  | failure, _ => ofFailure failure

end Refusal

end BookingOffice
