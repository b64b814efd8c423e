/-!
Media types of request bodies, as in `application/json; charset=utf-8`: a type and a subtype, and
parameters with values that may be quoted. A subtype may end with a suffix behind a plus.
-/

namespace BookingOffice.Http.MediaType

/-- Whether a character may stand in a name. -/
def isTokenChar (c : Char) : Bool := c.isAlphanum || "!#$%&'*+-.^_\x60|~".toList.contains c

/-- The parts of a media type without its parameters, in lower case. -/
structure Essence where
  type : List Char
  /-- The subtype up to the suffix. -/
  subtype : List Char
  suffix : Option (List Char)
  deriving DecidableEq, Repr

/-- Cuts a subtype at its last plus. A plus at its start starts no suffix. -/
def cutSuffix (cs : List Char) : List Char × Option (List Char) :=
  let reversed := cs.reverse
  let suffix := (reversed.takeWhile (· ≠ '+')).reverse
  let stem := ((reversed.dropWhile (· ≠ '+')).drop 1).reverse
  if stem.isEmpty then (cs, none) else (stem, some suffix)

/-- The rest of the parameters after a quoted value. -/
def afterQuoted? : List Char → Option (List Char)
  | [] => some []
  | ';' :: rest => some rest
  | ' ' :: rest => afterQuoted? rest
  | _ => none

/-- The characters after a quoted value. A quote right at its start is part of it. -/
def quoted? : List Char → Option (List Char)
  | [] => none
  | c :: rest =>
    if c.toNat < 32 ∨ c = '\x7f' then none
    else
      let inside := rest.takeWhile fun d => d ≠ '"' ∧ 32 ≤ d.toNat ∧ d ≠ '\x7f'
      match rest.drop inside.length with
      | '"' :: after => some after
      | _ => none

/-- The rest of the parameters after the value of one. -/
def afterValue? (cs : List Char) : Option (List Char) :=
  match cs with
  | '"' :: rest => (quoted? rest).bind afterQuoted?
  | cs =>
    let value := cs.takeWhile isTokenChar
    match cs.drop value.length with
    | [] => some []
    | ';' :: rest => if value.isEmpty then none else some rest
    | _ => none

/-- Whether characters are well-formed parameters, at most `fuel` of them. -/
def areParameters : (fuel : Nat) → List Char → Bool
  | 0, cs => cs.isEmpty
  | fuel + 1, cs =>
    match cs.dropWhile (· = ' ') with
    | [] => true
    | cs =>
      let name := cs.takeWhile isTokenChar
      match cs.drop name.length with
      | '=' :: rest =>
        if name.isEmpty then false
        else
          match afterValue? rest with
          | some rest => areParameters fuel rest
          | none => false
      | _ => false

/-- Reads a media type, with parameters behind a semicolon. -/
def read? (s : String) : Option Essence :=
  let cs := s.toList
  let type := cs.takeWhile isTokenChar
  match cs.drop type.length with
  | '/' :: cs =>
    let subtype := cs.takeWhile isTokenChar
    let rest := cs.drop subtype.length
    if type.isEmpty then none
    else
      let (stem, suffix) := cutSuffix (subtype.map Char.toLower)
      let essence : Essence := ⟨type.map Char.toLower, stem, suffix⟩
      match rest with
      | [] => some essence
      | ';' :: parameters =>
        if !subtype.isEmpty && areParameters s.length parameters then some essence else none
      | _ => none
  | _ => none

/-- Whether a media type is that of JSON, or of a format based on JSON. -/
def Essence.isJson (e : Essence) : Bool :=
  e.type == "application".toList &&
    (e.subtype == "json".toList || e.suffix == some "json".toList)

end BookingOffice.Http.MediaType
