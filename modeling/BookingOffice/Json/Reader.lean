import BookingOffice.Json.Basic
import BookingOffice.Text.Hex
import BookingOffice.Text.Utf8

/-!
Reading JSON from bytes. The reader works from left to right and stops at the first fault, which it
reports with the line and column it has come to and with the path from the outermost value to the
one that could not be read.

A byte is seen as the character of the same code, so that the syntax reads as it is written; only
the content of strings is decoded. A fault found in a character that has been taken is reported
behind it, and so is one found in the next character, which still waits to be taken; at the end of
the text nothing waits.

A literal without fraction and exponent that fits in 64 bits is an integer. Every other literal is
a double: its digits are kept while they fit in 64 bits, and the number they make is multiplied or
divided by a power of ten, each step rounded. At most 127 arrays and objects may be open at once.
-/

namespace BookingOffice.Json

/-- What is wrong with a text that is not JSON. -/
inductive Fault where
  | endInValue
  | endInString
  | endInArray
  | endInObject
  | expectedValue
  | expectedLiteral
  | expectedColon
  | expectedArrayComma
  | expectedObjectComma
  | trailingComma
  | nameNotString
  | invalidNumber
  | numberTooLarge
  | invalidEscape
  | unfinishedEscape
  | loneSurrogate
  | controlCharacter
  | invalidUtf8
  | tooDeep
  | trailingCharacters
  deriving DecidableEq, Repr

/-- The description of a fault. -/
def Fault.message : Fault → String
  | .endInValue => "EOF while parsing a value"
  | .endInString => "EOF while parsing a string"
  | .endInArray => "EOF while parsing a list"
  | .endInObject => "EOF while parsing an object"
  | .expectedValue => "expected value"
  | .expectedLiteral => "expected ident"
  | .expectedColon => "expected \x60:\x60"
  | .expectedArrayComma => "expected \x60,\x60 or \x60]\x60"
  | .expectedObjectComma => "expected \x60,\x60 or \x60\x7d\x60"
  | .trailingComma => "trailing comma"
  | .nameNotString => "key must be a string"
  | .invalidNumber => "invalid number"
  | .numberTooLarge => "number out of range"
  | .invalidEscape => "invalid escape"
  | .unfinishedEscape => "unexpected end of hex escape"
  | .loneSurrogate => "lone leading surrogate in hex escape"
  | .controlCharacter =>
      "control character (\\u0000-\\u001F) found while parsing a string"
  | .invalidUtf8 => "invalid unicode code point"
  | .tooDeep => "recursion limit exceeded"
  | .trailingCharacters => "trailing characters"

/-- A step from a value to one of its parts. -/
inductive Step where
  | item (index : Nat)
  | member (name : String)
  /-- To the place of a member whose name could not be read. -/
  | nameless
  deriving DecidableEq, Repr

/-- The text of a path, as in `a.b[0]`, with a question mark for a name that could not be read. -/
def pathText (path : List Step) : String :=
  let step (first : Bool) : Step → String
    | .item index => s!"[{index}]"
    | .member name => if first then name else "." ++ name
    | .nameless => if first then "?" else ".?"
  match path with
  | [] => ""
  | s :: rest => step true s ++ String.join (rest.map (step false))

/-- A fault, the number of characters behind the place it is reported at, and its path. -/
structure Failure where
  fault : Fault
  left : Nat
  path : List Step := []
  deriving Repr

namespace Reader

/-- A fault reported in front of the characters left. -/
def failAt (cs : List Char) (fault : Fault) : Except Failure α :=
  .error { fault, left := cs.length }

/-- A fault found in the next of the characters left. -/
def failNext (cs : List Char) (fault : Fault) : Except Failure α :=
  .error { fault, left := cs.length - 1 }

/-- The characters after white space. -/
def skipBlanks (cs : List Char) : List Char :=
  cs.dropWhile fun c => c == ' ' || c == '\n' || c == '\t' || c == '\r'

/-- The rest of a word such as `null`, taken character by character. -/
def literal (value : Json) : List Char → List Char → Except Failure (Json × List Char)
  | [], cs => .ok (value, cs)
  | _ :: _, [] => failAt [] .endInValue
  | w :: word, c :: cs => if w = c then literal value word cs else failAt cs .expectedLiteral

/-! ### Strings -/

/-- Four hexadecimal digits. -/
def hex4 : List Char → Except Failure (Nat × List Char)
  | a :: b :: c :: d :: cs =>
    match Text.Hex.read? 0 [a, b, c, d] with
    | some n => .ok (n, cs)
    | none => failAt cs .invalidEscape
  | _ => failAt [] .endInString

/-- The code point that a leading and a trailing surrogate stand for. -/
def joinSurrogates (lead trail : Nat) : Nat := 0x10000 + (lead - 0xD800) * 0x400 + (trail - 0xDC00)

/-- The second half of a surrogate pair, from its backslash on. -/
def trailing (lead : Nat) : List Char → Except Failure (Nat × List Char)
  | [] => failAt [] .endInString
  | '\\' :: [] => failAt [] .endInString
  | '\\' :: 'u' :: cs =>
    match hex4 cs with
    | .error e => .error e
    | .ok (n, cs) =>
      if 0xDC00 ≤ n ∧ n ≤ 0xDFFF then .ok (joinSurrogates lead n, cs)
      else failAt cs .loneSurrogate
  | '\\' :: _ :: cs => failAt cs .unfinishedEscape
  | _ :: cs => failAt cs .unfinishedEscape

/-- The code points of the escapes of one letter. -/
def simpleEscape? (c : Char) : Option Nat :=
  match c with
  | '"' => some 0x22
  | '\\' => some 0x5C
  | '/' => some 0x2F
  | 'b' => some 8
  | 'f' => some 12
  | 'n' => some 10
  | 'r' => some 13
  | 't' => some 9
  | _ => none

/-- The code point of an escape, which starts after the backslash. -/
def escape : List Char → Except Failure (Nat × List Char)
  | [] => failAt [] .endInString
  | c :: cs =>
    if c = 'u' then
      match hex4 cs with
      | .error e => .error e
      | .ok (n, cs) =>
        if 0xDC00 ≤ n ∧ n ≤ 0xDFFF then failAt cs .loneSurrogate
        else if 0xD800 ≤ n ∧ n ≤ 0xDBFF then trailing n cs
        else .ok (n, cs)
    else
      match simpleEscape? c with
      | some n => .ok (n, cs)
      | none => failAt cs .invalidEscape

theorem length_hex4 {cs rest : List Char} {n : Nat} (h : hex4 cs = .ok (n, rest)) :
    rest.length < cs.length := by
  unfold hex4 at h
  split at h
  · split at h
    · simp only [Except.ok.injEq, Prod.mk.injEq] at h
      simp only [← h.2, List.length_cons]; omega
    · cases h
  · cases h

theorem length_trailing {cs rest : List Char} {lead n : Nat}
    (h : trailing lead cs = .ok (n, rest)) : rest.length < cs.length := by
  simp only [trailing] at h
  split at h
  · cases h
  · cases h
  · split at h
    · cases h
    · next hx =>
      have := length_hex4 hx
      split at h
      · simp only [Except.ok.injEq, Prod.mk.injEq] at h
        simp only [← h.2, List.length_cons]; omega
      · cases h
  · cases h
  · cases h

theorem length_escape {cs rest : List Char} {n : Nat} (h : escape cs = .ok (n, rest)) :
    rest.length < cs.length := by
  simp only [escape] at h
  split at h
  · cases h
  · split at h
    · split at h
      · cases h
      · next hx =>
        have := length_hex4 hx
        split at h
        · cases h
        · split at h
          · have := length_trailing h
            simp only [List.length_cons]; omega
          · simp only [Except.ok.injEq, Prod.mk.injEq] at h
            simp only [← h.2, List.length_cons]; omega
    · split at h
      · simp only [Except.ok.injEq, Prod.mk.injEq] at h
        simp [← h.2]
      · cases h

/-- The bytes of a string, last first, up to its closing quote. -/
def stringBytes (bytes : List UInt8) (cs : List Char) : Except Failure (List UInt8 × List Char) :=
  match cs with
  | [] => failAt [] .endInString
  | c :: cs =>
    match c with
    | '"' => .ok (bytes, cs)
    | '\\' =>
      match _h : escape cs with
      | .error e => .error e
      | .ok (n, rest) =>
        stringBytes ((String.utf8EncodeChar (Char.ofNat n)).reverse ++ bytes) rest
    | c =>
      if c.toNat < 0x20 then failAt cs .controlCharacter
      else stringBytes (c.toUInt8 :: bytes) cs
  termination_by cs.length
  decreasing_by
    · have := length_escape _h
      simp only [List.length_cons]; omega
    · simp

/-- A string, from behind its opening quote. Bytes that are not UTF-8 are reported where the first
wrong one would end if the content stood with its escapes resolved right before the closing quote.
-/
def string (cs : List Char) : Except Failure (String × List Char) :=
  match stringBytes [] cs with
  | .error e => .error e
  | .ok (bytes, rest) =>
    match Text.Utf8.decode? bytes.reverse with
    | some s => .ok (s, rest)
    | none =>
      let valid := Text.Utf8.validLength bytes.reverse
      .error { fault := .invalidUtf8, left := rest.length + bytes.length - valid }

/-! ### Numbers -/

/-- Takes digits on from `n` while the number fits in 64 bits. The result is the number and how
many digits are left. -/
def absorb (n : Nat) : List Char → Nat × Nat
  | [] => (n, 0)
  | c :: cs =>
    let m := 10 * n + (c.toNat - 48)
    if m < 2 ^ 64 then absorb m cs else (n, cs.length + 1)

/-- A power of ten as a double, for exponents up to 308. -/
def powerOfTen (exponent : Nat) : Binary64 :=
  ((Double.ofDecimal false 1 exponent).finite?).getD .zero

/-- A double times a power of ten; an exponent below -308 takes several divisions, the first few
of which leave nothing of any number. The result is infinite where the number is too large. -/
def scale : (steps : Nat) → Binary64 → Int → Double
  | 0, x, _ => .finite { Binary64.zero with negative := x.negative }
  | steps + 1, x, exponent =>
    if exponent.natAbs ≤ 308 then
      if 0 ≤ exponent then Double.scaleUp x (powerOfTen exponent.toNat)
      else Double.scaleDown x (powerOfTen exponent.natAbs)
    else if x.rank = 0 then .finite x
    else if 0 ≤ exponent then .infinite x.negative
    else
      match Double.scaleDown x (powerOfTen 308) with
      | .finite y => scale steps y (exponent + 308)
      | other => other

/-- The number `significand * 10 ^ exponent` at the place behind its literal. -/
def ofParts (negative : Bool) (significand : Nat) (exponent : Int) (cs : List Char) :
    Except Failure (Json × List Char) :=
  match Double.ofQuotient negative significand 1 with
  | .finite x =>
    match scale 4 x exponent with
    | .finite y => .ok (.number (.real y), cs)
    | _ => failAt cs .numberTooLarge
  | _ => failAt cs .numberTooLarge

/-- The digits of an exponent, read on from `n`. The result says with `none` that the exponent
does not fit in 32 bits, and then what is left behind the digit that took it too far. -/
def exponentDigits (n : Nat) : List Char → Option Nat × List Char
  | [] => (some n, [])
  | c :: cs =>
    if c.isDigit then
      let m := 10 * n + (c.toNat - 48)
      if m ≤ 2147483647 then exponentDigits m cs else (none, cs)
    else (some n, c :: cs)

/-- A number from behind the `e` of its exponent. -/
def withExponent (negative : Bool) (significand : Nat) (exponent : Int) (cs : List Char) :
    Except Failure (Json × List Char) :=
  let (down, cs) := match cs with
    | '+' :: cs => (false, cs)
    | '-' :: cs => (true, cs)
    | cs => (false, cs)
  match cs with
  | [] => failAt [] .endInValue
  | c :: rest =>
    if !c.isDigit then failAt rest .invalidNumber
    else
      match exponentDigits 0 cs with
      | (some n, rest) =>
        ofParts negative significand (if down then exponent - n else exponent + n) rest
      | (none, rest) =>
        if significand ≠ 0 ∧ !down then failAt rest .numberTooLarge
        else .ok (.number (.real { Binary64.zero with negative }), rest.dropWhile Char.isDigit)

/-- A number from behind its whole digits. -/
def afterWhole (negative : Bool) (whole : List Char) (cs : List Char) :
    Except Failure (Json × List Char) :=
  let (significand, dropped) := absorb 0 whole
  match cs with
  | '.' :: cs =>
    let fraction := cs.takeWhile Char.isDigit
    let rest := cs.dropWhile Char.isDigit
    if fraction.isEmpty then
      failNext rest (if rest.isEmpty then .endInValue else .invalidNumber)
    else
      let (significand, ignored) := absorb significand fraction
      let exponent : Int := (dropped + ignored : Nat) - (fraction.length : Int)
      match rest with
      | 'e' :: cs => withExponent negative significand exponent cs
      | 'E' :: cs => withExponent negative significand exponent cs
      | cs => ofParts negative significand exponent cs
  | 'e' :: cs => withExponent negative significand dropped cs
  | 'E' :: cs => withExponent negative significand dropped cs
  | cs =>
    if dropped ≠ 0 then ofParts negative significand dropped cs
    else if !negative then .ok (Json.int significand, cs)
    else if significand ≠ 0 ∧ significand ≤ 2 ^ 63 then .ok (Json.int (-significand), cs)
    else ofParts true significand 0 cs

/-- A number from behind its sign. -/
def number (negative : Bool) : List Char → Except Failure (Json × List Char)
  | [] => failAt [] .endInValue
  | c :: cs =>
    if c = '0' then
      match cs with
      | d :: _ => if d.isDigit then failNext cs .invalidNumber else afterWhole negative [c] cs
      | [] => afterWhole negative [c] []
    else if c.isDigit then
      afterWhole negative (c :: cs.takeWhile Char.isDigit) (cs.dropWhile Char.isDigit)
    else failAt cs .invalidNumber

/-! ### Values -/

/-- The colon between a name and its value. -/
def colon (cs : List Char) : Except Failure (List Char) :=
  match skipBlanks cs with
  | [] => failNext [] .endInObject
  | ':' :: cs => .ok cs
  | cs => failNext cs .expectedColon

/-- The start of the next item of an array, or `none` behind its end. -/
def nextItem (first : Bool) (cs : List Char) : Except Failure (List Char ⊕ List Char) :=
  match skipBlanks cs with
  | [] => failNext [] .endInArray
  | ']' :: cs => .ok (.inr cs)
  | c :: cs =>
    if first then .ok (.inl (c :: cs))
    else if c = ',' then
      match skipBlanks cs with
      | [] => failNext [] .endInValue
      | ']' :: cs => failNext (']' :: cs) .trailingComma
      | cs => .ok (.inl cs)
    else failNext (c :: cs) .expectedArrayComma

/-- The place behind the opening quote of the next name of an object, or behind its end. -/
def nextName (first : Bool) (cs : List Char) : Except Failure (List Char ⊕ List Char) :=
  match skipBlanks cs with
  | [] => failNext [] .endInObject
  | '\x7d' :: cs => .ok (.inr cs)
  | c :: cs =>
    if first then
      if c = '"' then .ok (.inl cs) else failNext (c :: cs) .nameNotString
    else if c = ',' then
      match skipBlanks cs with
      | [] => failNext [] .endInValue
      | '"' :: cs => .ok (.inl cs)
      | '\x7d' :: cs => failNext ('\x7d' :: cs) .trailingComma
      | cs => failNext cs .nameNotString
    else failNext (c :: cs) .expectedObjectComma

/-- The failure of a part, seen from the whole. -/
def within (step : Step) (e : Failure) : Failure := { e with path := step :: e.path }

mutual

/-- A value; `depth` more arrays and objects may be opened. -/
def value : (fuel depth : Nat) → List Char → Except Failure (Json × List Char)
  | 0, _, cs => failNext cs .endInValue
  | fuel + 1, depth, cs =>
    match skipBlanks cs with
    | [] => failNext [] .endInValue
    | c :: cs =>
      match c with
      | 'n' => literal .null ['u', 'l', 'l'] cs
      | 't' => literal (.bool true) ['r', 'u', 'e'] cs
      | 'f' => literal (.bool false) ['a', 'l', 's', 'e'] cs
      | '"' => (string cs).map fun p => (.string p.1, p.2)
      | '-' => number true cs
      | '[' => if depth = 0 then failAt cs .tooDeep else items fuel (depth - 1) [] cs
      | '\x7b' => if depth = 0 then failAt cs .tooDeep else members fuel (depth - 1) [] cs
      | c => if c.isDigit then number false (c :: cs) else failAt cs .expectedValue

/-- The items of an array behind those already read, which are given last first. -/
def items : (fuel depth : Nat) → List Json → List Char → Except Failure (Json × List Char)
  | 0, _, _, cs => failNext cs .endInArray
  | fuel + 1, depth, read, cs =>
    match nextItem read.isEmpty cs with
    | .error e => .error e
    | .ok (.inr cs) => .ok (.array read.reverse, cs)
    | .ok (.inl cs) =>
      match value fuel depth cs with
      | .error e => .error (within (.item read.length) e)
      | .ok (item, cs) => items fuel depth (item :: read) cs

/-- The members of an object behind those already read, which are given last first. -/
def members : (fuel depth : Nat) → List (String × Json) → List Char →
    Except Failure (Json × List Char)
  | 0, _, _, cs => failNext cs .endInObject
  | fuel + 1, depth, read, cs =>
    match nextName read.isEmpty cs with
    | .error e => .error (within .nameless e)
    | .ok (.inr cs) => .ok (Json.ofMembers read.reverse, cs)
    | .ok (.inl cs) =>
      match string cs with
      | .error e => .error (within .nameless e)
      | .ok (name, cs) =>
        match colon cs with
        | .error e => .error e
        | .ok cs =>
          match value fuel depth cs with
          | .error e => .error (within (.member name) e)
          | .ok (item, cs) => members fuel depth ((name, item) :: read) cs

end

/-- The value at the front of a text, and the characters behind it. Every other call takes a
character, so twice the length is fuel enough. -/
def first (cs : List Char) : Except Failure (Json × List Char) := value (2 * cs.length + 2) 127 cs

end Reader

/-- A fault with its path and its place. -/
structure SyntaxError where
  fault : Fault
  path : List Step
  line : Nat
  column : Nat
  deriving Repr

namespace SyntaxError

/-- The message without the path. -/
def message (e : SyntaxError) : String :=
  s!"{e.fault.message} at line {e.line} column {e.column}"

/-- The message, after the path unless no step of that is known. -/
def messageWithPath (e : SyntaxError) : String :=
  if e.path.all (· == .nameless) then e.message else pathText e.path ++ ": " ++ e.message

/-- Finds line and column of a failure in the text that was read. -/
def ofFailure (cs : List Char) (e : Failure) : SyntaxError :=
  let before := cs.take (cs.length - e.left)
  { fault := e.fault
    path := e.path
    line := 1 + before.count '\n'
    column := (before.reverse.takeWhile (· ≠ '\n')).length }

end SyntaxError

/-- The value at the front of a sequence of bytes; whatever follows it is not looked at. -/
def readFirst (bytes : List UInt8) : Except SyntaxError Json :=
  let cs := bytes.map Char.ofUInt8
  match Reader.first cs with
  | .ok (json, _) => .ok json
  | .error e => .error (.ofFailure cs e)

/-- The only value of a sequence of bytes. -/
def read (bytes : List UInt8) : Except SyntaxError Json :=
  let cs := bytes.map Char.ofUInt8
  match Reader.first cs with
  | .error e => .error (.ofFailure cs e)
  | .ok (json, rest) =>
    match Reader.skipBlanks rest with
    | [] => .ok json
    | _ :: rest => .error (.ofFailure cs { fault := .trailingCharacters, left := rest.length })

end BookingOffice.Json
