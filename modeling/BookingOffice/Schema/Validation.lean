import BookingOffice.Schema.Basic
import BookingOffice.Schema.FieldErrors
import BookingOffice.Text.Blank
import BookingOffice.Text.Letter

/-!
Checking payloads. Each field is checked on its own, in this order: presence, kind, a required text
not being blank, and the rules. A payload passes if all of its fields do; else every field that
fails is reported. Members that are no fields do not matter.
-/

namespace BookingOffice

namespace Rule

/-- Whether a value obeys the rule. A rule says nothing about values of other kinds than its own. -/
def Holds : Rule → Value → Prop
  | letters, .text s => ∀ c ∈ s.toList, Text.isLetter c ∨ c ∈ [' ', '-', '\'']
  | digits, .text s => ∀ c ∈ s.toList, c.isDigit
  | length min max, .text s => min ≤ s.length ∧ s.length ≤ max
  | positive, .integer i => 0 < i
  | positive, .real x => 0 < x.units
  | nonNegative, .integer i => 0 ≤ i
  | nonNegative, .real x => 0 ≤ x.units
  | _, _ => True

instance (rule : Rule) (value : Value) : Decidable (rule.Holds value) := by
  simp only [Holds]
  -- the characters of the text are gone through, not all that there are
  split <;> first | exact List.decidableBAll _ _ | infer_instance

/-- What is wrong with a value that breaks the rule. -/
def flaw : Rule → Flaw
  | letters => .notLetters
  | digits => .notDigits
  | length min max => .length min max
  | positive => .notPositive
  | nonNegative => .negative

end Rule

namespace Value

/-- Whether the value is a text of white space. -/
def isBlank : Value → Bool
  | text s => Text.isBlankText s
  | _ => false

end Value

namespace Field

/-- Checks a value that is present: blank required texts and the rules. -/
def checkValue (f : Field) (value : Value) : Except Flaw Value :=
  if f.required && value.isBlank then .error .missing
  else
    match f.rules.find? fun rule => ¬ rule.Holds value with
    | some rule => .error rule.flaw
    | none => .ok value

/-- Checks the member of a payload that belongs to the field. -/
def check (f : Field) (json : Option Json) : Attempt Flaw Value :=
  match json with
  | none => if f.required then throw .missing else pure (.null f.kind)
  | some .null => if f.required then throw .missing else pure (.null f.kind)
  | some json => do
    let value ← Value.ofJson f.kind json
    .ofExcept (f.checkValue value)

end Field

namespace Schema

/-- What the checks of the fields came to, in the order of the fields. -/
abbrev Findings := List (String × Except Flaw Value)

/-- Checks every field. Of a name that two fields have the last value counts, and the first flaw. -/
def findings (s : Schema) (members : List (String × Json)) : Option Findings :=
  s.fields.mapM fun f => do
    let finding ← (f.check (Entries.get? f.name members)).outcome
    pure (f.name, finding)

/-- The values of the fields that passed. -/
def Findings.record (findings : Findings) : Record :=
  .ofList (findings.filterMap fun p => p.2.toOption.map (p.1, ·))

/-- The messages of the fields that failed. -/
def Findings.errors (findings : Findings) : FieldErrors :=
  .ofList (findings.filterMap fun p =>
    match p.2 with
    | .error flaw => some (p.1, flaw.message)
    | .ok _ => none)

/-- The errors for a payload that is no object. -/
def notObject : FieldErrors := .single "body" "must be a JSON object"

/-- Checks a payload. -/
def validate (s : Schema) (body : Json) : Attempt FieldErrors Record :=
  match body.members? with
  | none => throw notObject
  | some members => do
    let findings ← ExceptT.lift (s.findings members)
    .ofExcept (findings.errors.orResult findings.record)

end Schema

end BookingOffice
