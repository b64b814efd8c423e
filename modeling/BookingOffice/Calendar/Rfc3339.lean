import BookingOffice.Calendar.Instant

/-!
Times written as in RFC 3339: date, separator, time of day, fraction and offset. Any ASCII
character may separate date and time, any number of fractional digits may follow the seconds, of
which nine count, and the offset may reach twenty-three hours and fifty-nine minutes. Second 60 is
read as the last nanosecond before the next minute, provided that the minute starts a month in UTC.

Only the years from 0 to 9999 can be written, with an offset of whole minutes below twenty-four
hours.
-/

namespace BookingOffice.Rfc3339

/-- A number in exactly `width` digits, and the characters left. -/
def fixed? (width : Nat) (cs : List Char) : Option (Nat × List Char) :=
  let digits := cs.take width
  if digits.length = width ∧ digits.all Char.isDigit then
    some (digits.foldl (fun n c => 10 * n + (c.toNat - 48)) 0, cs.drop width)
  else none

/-- The characters after an expected one. -/
def after? (c : Char) : List Char → Option (List Char)
  | [] => none
  | d :: cs => if c = d then some cs else none

/-- The nanoseconds of a row of fractional digits, of which the first nine count. -/
def fractionNanos (digits : List Char) : Nat :=
  ((digits ++ List.replicate 9 '0').take 9).foldl (fun n c => 10 * n + (c.toNat - 48)) 0

/-- The optional fraction of a second, and the characters left. -/
def fraction? : List Char → Option (Nat × List Char)
  | '.' :: cs =>
    let digits := cs.takeWhile Char.isDigit
    if digits.isEmpty then none
    else some (fractionNanos digits, cs.dropWhile Char.isDigit)
  | cs => some (0, cs)

/-- The offset in seconds, which ends the text. -/
def offset? (cs : List Char) : Option Int :=
  match cs with
  | ['Z'] => some 0
  | ['z'] => some 0
  | sign :: cs =>
    if sign = '+' ∨ sign = '-' then do
      let (hours, cs) ← fixed? 2 cs
      let cs ← after? ':' cs
      let (minutes, cs) ← fixed? 2 cs
      if hours ≤ 23 ∧ minutes ≤ 59 ∧ cs.isEmpty then
        let seconds : Int := hours * 3600 + minutes * 60
        some (if sign = '-' then -seconds else seconds)
      else none
    else none
  | [] => none

/-- Whether the next nanosecond starts a month in UTC, as it does after a leap second. -/
def endsMonth (m : Moment) : Bool :=
  let next := m.utcNanos + 1
  m.toInstant?.isSome && next % dayNanos = 0 && (Date.ofDayNumber (next / dayNanos)).day = 1

/-- The moment at a date and a time of day. -/
def moment? (date : Date) (hour minute second nano : Nat) (offset : Int) : Option Moment :=
  let leap := second = 60
  let second := if leap then 59 else second
  let nano := if leap then 999999999 else nano
  if date.IsValid ∧ hour ≤ 23 ∧ minute ≤ 59 ∧ second ≤ 59 then do
    let ofDay : Int := (hour * 3600 + minute * 60 + second) * 10 ^ 9 + nano
    let clock ← Instant.ofNanos? (date.dayNumber * dayNanos + ofDay)
    let moment : Moment := ⟨clock, offset⟩
    if leap ∧ ¬ endsMonth moment then none else some moment
  else none

/-- The moment that a text stands for. -/
def read? (s : String) : Option Moment := do
  let (year, cs) ← fixed? 4 s.toList
  let cs ← after? '-' cs
  let (month, cs) ← fixed? 2 cs
  let cs ← after? '-' cs
  let (day, cs) ← fixed? 2 cs
  let separator ← cs.head?
  if 128 ≤ separator.toNat then none
  let (hour, cs) ← fixed? 2 (cs.drop 1)
  let cs ← after? ':' cs
  let (minute, cs) ← fixed? 2 cs
  let cs ← after? ':' cs
  let (second, cs) ← fixed? 2 cs
  let (nano, cs) ← fraction? cs
  let offset ← offset? cs
  moment? ⟨year, month, day⟩ hour minute second nano offset

/-- Why a moment cannot be written. -/
inductive Unwritable where
  | year
  | offsetHour
  | offsetSecond
  deriving DecidableEq, Repr

/-- The message for a moment that cannot be written. -/
def Unwritable.message (u : Unwritable) : String :=
  let component := match u with
    | .year => "year"
    | .offsetHour => "offset_hour"
    | .offsetSecond => "offset_second"
  s!"The {component} component cannot be formatted into the requested format."

/-- The last `width` decimal digits of a number. -/
def digits : (width : Nat) → Nat → List Char
  | 0, _ => []
  | width + 1, n => digits width (n / 10) ++ [Char.ofNat (48 + n % 10)]

/-- The fraction of a second with a point in front and no zeros at the end. -/
def writeFraction (nanos : Nat) : List Char :=
  if nanos = 0 then []
  else '.' :: ((digits 9 nanos).reverse.dropWhile (· == '0')).reverse

/-- Date and time of day, without an offset. -/
def writeClock (t : Instant) : List Char :=
  let date := t.date
  let second := t.ofDay / 10 ^ 9
  digits 4 date.year.toNat ++ '-' :: digits 2 date.month ++ '-' :: digits 2 date.day ++
    'T' :: digits 2 (second / 3600) ++ ':' :: digits 2 (second / 60 % 60) ++
    ':' :: digits 2 (second % 60) ++ writeFraction (t.ofDay % 10 ^ 9)

/-- The offset: `Z` for none, else sign, hours and minutes. -/
def writeOffset (offset : Int) : List Char :=
  if offset = 0 then ['Z']
  else
    (if offset < 0 then '-' else '+') :: digits 2 (offset.natAbs / 3600) ++
      ':' :: digits 2 (offset.natAbs / 60 % 60)

/-- Whether the years of four digits hold an instant. -/
def hasFourDigitYear (t : Instant) : Prop := 0 ≤ t.date.year ∧ t.date.year ≤ 9999

instance (t : Instant) : Decidable (hasFourDigitYear t) := inferInstanceAs (Decidable (_ ∧ _))

/-- The text of a moment, or the first part of it that has none. -/
def write (m : Moment) : Except Unwritable String :=
  if ¬ hasFourDigitYear m.clock then .error .year
  else if 24 * 3600 ≤ m.offset.natAbs then .error .offsetHour
  else if m.offset % 60 ≠ 0 then .error .offsetSecond
  else .ok (String.ofList (writeClock m.clock ++ writeOffset m.offset))

/-- The text of an instant, in UTC. -/
def writeInstant? (t : Instant) : Option String :=
  if hasFourDigitYear t then some (String.ofList (writeClock t ++ ['Z'])) else none

end BookingOffice.Rfc3339
