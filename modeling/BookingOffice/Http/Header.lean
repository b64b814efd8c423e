import BookingOffice.Text.Utf8

/-!
Headers of requests. Names are compared without regard to case, and a value is any bytes. The
content of an authorization header is a scheme and a token with a space between them.
-/

namespace BookingOffice.Http

/-- A header of a request. -/
structure Header where
  name : String
  value : List UInt8
  deriving DecidableEq

/-- The headers of a request in their order. -/
abbrev Headers := List Header

namespace Headers

/-- A name with its ASCII letters in lower case. -/
def lowerCase (name : String) : List Char := name.toList.map Char.toLower

/-- The values of the headers with a name. -/
def values (headers : Headers) (name : String) : List (List UInt8) :=
  (headers.filter fun h => lowerCase h.name = lowerCase name).map (·.value)

/-- The value of the header with a name, unless there are several. -/
def unique (headers : Headers) (name : String) : Except String (Option (List UInt8)) :=
  match headers.values name with
  | [] => .ok none
  | [value] => .ok (some value)
  | _ => .error s!"Header {name} cannot have more than one value"

/-- Whether a byte is a tab or a printable character of ASCII. -/
def isPrintable (b : UInt8) : Bool := b = 9 || (32 ≤ b && b < 127)

/-- The text of a value of printable characters. -/
def text? (value : List UInt8) : Option String :=
  if value.all isPrintable then some (String.ofList (value.map fun b => Char.ofNat b.toNat))
  else none

/-! ### Authorization -/

/-- What is wrong with the authorization of a request. -/
inductive AuthFault where
  | absent
  | repeated
  | badEncoding
  | noScheme
  | noToken
  | unsupported
  deriving DecidableEq, Repr

/-- The message for a faulty authorization. -/
def AuthFault.message : AuthFault → String
  | .absent => "Missing Authorization header"
  | .repeated => "Header Authorization cannot have more than one value"
  | .badEncoding => "Bad encoding in Authorization header: failed to convert header to a str"
  | .noScheme => "Bad Authorization header: missing scheme"
  | .noToken => "Bad Authorization header: missing payload"
  | .unsupported => "Unsupported scheme"

/-- The token of an authorization text, which is all that follows the first space. -/
def readBearer (s : String) : Except AuthFault String :=
  let scheme := s.toList.takeWhile (· ≠ ' ')
  let token := (s.toList.dropWhile (· ≠ ' ')).drop 1
  if scheme.isEmpty then .error .noScheme
  else if token.isEmpty then .error .noToken
  else if scheme = "Bearer".toList then .ok (String.ofList token)
  else .error .unsupported

/-- The token that a request carries. -/
def bearer (headers : Headers) : Except AuthFault String :=
  match headers.unique "Authorization" with
  | .error _ => .error .repeated
  | .ok none => .error .absent
  | .ok (some value) =>
    match text? value with
    | none => .error .badEncoding
    | some s => readBearer s

end Headers

end BookingOffice.Http
