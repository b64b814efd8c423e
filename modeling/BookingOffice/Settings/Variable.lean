import BookingOffice.Net.IpAddress
import BookingOffice.Number.Power
import BookingOffice.Text.Utf8
import BookingOffice.Text.Whole

/-!
Variables of the environment. The name of a variable is put together from a prefix and a suffix. Its
value is bytes, which must be UTF-8, and is then read as one of a few types.
-/

namespace BookingOffice

/-- The variables of a process with their values. -/
abbrev Environment := List (String × List UInt8)

namespace Environment

/-- The value of a variable. -/
def value? (env : Environment) (name : String) : Option (List UInt8) :=
  (env.find? (·.1 == name)).map Prod.snd

/-- Why a text is no value of a type. -/
inductive TypeFault where
  | notBool
  | notWhole (type : String) (fault : Text.WholeFault)
  | notAddress
  deriving DecidableEq, Repr

/-- The message for a text that is no value of a type. -/
def TypeFault.message : TypeFault → String
  | .notBool => "Invalid bool: provided string was not \x60true\x60 or \x60false\x60"
  | .notWhole type fault => s!"Invalid {type}: {fault.message}"
  | .notAddress => "Invalid IpAddr: invalid IP address syntax"

/-- Why a variable has no value. -/
inductive Fault where
  | absent (name : String)
  | notText (name : String)
  | mistyped (name : String) (fault : TypeFault)
  deriving DecidableEq, Repr

/-- The message for a variable without a value. -/
def Fault.message : Fault → String
  | .absent name => s!"Required environment variable {name} not present"
  | .notText name => s!"Invalid value in environment variable {name}"
  | .mistyped name fault => s!"Invalid type in environment variable {name}: {fault.message}"

/-! ### Types -/

/-- Any text. -/
def text (s : String) : Except TypeFault String := .ok s

/-- `true` or `false`. -/
def bool (s : String) : Except TypeFault Bool :=
  if s = "true" then .ok true else if s = "false" then .ok false else .error .notBool

/-- A whole number of sixteen bits. -/
def nat16 (s : String) : Except TypeFault Nat :=
  (Text.readNat (2 ^ 16 - 1) s).mapError (.notWhole "u16")

/-- A whole number of thirty-two bits. -/
def nat32 (s : String) : Except TypeFault Nat :=
  (Text.readNat (2 ^ 32 - 1) s).mapError (.notWhole "u32")

/-- An internet address. -/
def address (s : String) : Except TypeFault IpAddress :=
  match IpAddress.read? s with
  | some a => .ok a
  | none => .error .notAddress

/-! ### Reading variables -/

/-- The name of a variable. -/
def nameOf (start suffix : String) : String := s!"{start}_{suffix}"

/-- Reads a variable that may be absent. -/
def optional {α : Type} (env : Environment) (type : String → Except TypeFault α)
    (start suffix : String) : Except Fault (Option α) :=
  let name := nameOf start suffix
  match env.value? name with
  | none => .ok none
  | some bytes =>
    match Text.Utf8.decode? bytes with
    | none => .error (.notText name)
    | some s => ((type s).mapError (.mistyped name)).map some

/-- Reads a variable that must be present. -/
def required {α : Type} (env : Environment) (type : String → Except TypeFault α)
    (start suffix : String) : Except Fault α :=
  match env.optional type start suffix with
  | .ok (some a) => .ok a
  | .ok none => .error (.absent (nameOf start suffix))
  | .error fault => .error fault

end Environment

end BookingOffice
