import BookingOffice.Dictionary

/-!
Field errors: one message for each offending field or parameter. Checks report everything they find
and do not stop at the first problem; of several messages for one field the first is kept.
-/

namespace BookingOffice

/-- The messages for the offending fields. -/
abbrev FieldErrors := Dictionary String

namespace FieldErrors

/-- Records a message for a field that has none. -/
def add (errors : FieldErrors) (field message : String) : FieldErrors :=
  errors.insertNew field message

/-- The first message of each field of a list of pairs. -/
def ofList (pairs : List (String × String)) : FieldErrors :=
  pairs.foldl (fun errors p => errors.add p.1 p.2) .empty

/-- The message for one field. -/
def single (field message : String) : FieldErrors := add .empty field message

/-- Records the messages of another collection for the fields that have none. -/
def extend (errors others : FieldErrors) : FieldErrors :=
  others.entries.foldl (fun errors p => errors.add p.1 p.2) errors

/-- The value if there is no error, and else the errors. -/
def orResult (errors : FieldErrors) (value : α) : Except FieldErrors α :=
  if errors.isEmpty then .ok value else .error errors

/-- All messages in one line. -/
def message (errors : FieldErrors) : String :=
  "Invalid fields: " ++ "; ".intercalate (errors.entries.map fun p => p.1 ++ " " ++ p.2)

theorem get?_add (errors : FieldErrors) (field message key : String) :
    (errors.add field message).get? key =
      if key = field then some ((errors.get? field).getD message) else errors.get? key :=
  Dictionary.get?_insertNew errors field key message

end FieldErrors

end BookingOffice
