import BookingOffice.Number.Power

/-!
Finite double-precision numbers and the rounding of quotients to them.

The non-negative finite doubles are put in order and numbered from zero; a double is a sign and
such a *rank*. Its value in units of `2^-1074`, the least positive double, is the whole number
`units`: ranks below `2^53` are their own values, and from there on each further block of `2^52`
ranks doubles the distance between neighbours. `nearest` rounds a quotient to a rank, a tie to the
even one.
-/

namespace BookingOffice

/-- The number of ranks of non-negative finite doubles. -/
def Binary64.limit : Nat := 2047 * 2 ^ 52

/-- A finite double-precision number. -/
structure Binary64 where
  /-- Whether the sign is a minus; zero has both signs. -/
  negative : Bool
  /-- The place of the absolute value among the non-negative finite doubles. -/
  rank : Nat
  bounded : rank < Binary64.limit
  deriving DecidableEq

/-- A double-precision number, finite or not. -/
inductive Double where
  | finite (x : Binary64)
  | infinite (negative : Bool)
  | nan
  deriving DecidableEq

namespace Binary64

/-- The block of a rank, which is the exponent of the distance to the next double. -/
def block (rank : Nat) : Nat := rank / 2 ^ 52 - 1

/-- The value of a rank in units of `2^-1074`. -/
def unitsOf (rank : Nat) : Nat := (rank - block rank * 2 ^ 52) * 2 ^ block rank

/-- The quotient rounded to the nearest whole number, a tie to the even one. -/
def roundQuotient (num den : Nat) : Nat :=
  let q := num / den
  let r := num % den
  if 2 * r < den then q
  else if den < 2 * r then q + 1
  else q + q % 2

/-- The rank of the double nearest to `num / den`, a tie to the even one. A quotient too large for
a finite double gets a rank from `limit` on. -/
def nearest (num den : Nat) : Nat :=
  let scaled := num * 2 ^ 1074
  let k := (scaled / den).log2 - 52
  k * 2 ^ 52 + roundQuotient scaled (den * 2 ^ k)

/-- The number `units / 2^1074` with its sign. -/
def units (x : Binary64) : Int :=
  if x.negative then -(unitsOf x.rank : Int) else unitsOf x.rank

/-- Zero without a minus sign. -/
def zero : Binary64 := ⟨false, 0, by decide⟩

instance : Inhabited Binary64 := ⟨zero⟩

/-- The same number with the other sign. -/
def neg (x : Binary64) : Binary64 := { x with negative := !x.negative }

/-- The number as storage keeps it: of the two zeros only the one without a minus sign. -/
def withoutNegativeZero (x : Binary64) : Binary64 := if x.rank = 0 then zero else x

theorem units_withoutNegativeZero (x : Binary64) : x.withoutNegativeZero.units = x.units := by
  rw [withoutNegativeZero]
  split
  · next h =>
    simp [units, zero, h, show unitsOf 0 = 0 from by decide]
  · rfl

end Binary64

namespace Double

/-- The double nearest to a quotient with a sign, infinite if it is too large. -/
def ofQuotient (negative : Bool) (num den : Nat) : Double :=
  let rank := Binary64.nearest num den
  if h : rank < Binary64.limit then .finite ⟨negative, rank, h⟩ else .infinite negative

/-- The double nearest to a whole number. -/
def ofInt (i : Int) : Double := ofQuotient (decide (i < 0)) i.natAbs 1

/-- The double nearest to `mantissa * 10 ^ exponent`. Exponents so large or so small that the
answer is plain are not raised to a power. -/
def ofDecimal (negative : Bool) (mantissa : Nat) (exponent : Int) : Double :=
  if mantissa = 0 then ofQuotient negative 0 1
  else if 400 < exponent then .infinite negative
  else if (mantissa.log2 : Int) + 1076 < -3 * exponent then ofQuotient negative 0 1
  else if 0 ≤ exponent then ofQuotient negative (mantissa * 10 ^ exponent.toNat) 1
  else ofQuotient negative mantissa (10 ^ (-exponent).toNat)

/-- The rounded product of a number and a positive number. -/
def scaleUp (x y : Binary64) : Double :=
  ofQuotient x.negative (Binary64.unitsOf x.rank * Binary64.unitsOf y.rank) (2 ^ 2148)

/-- The rounded quotient of a number by a positive number. -/
def scaleDown (x y : Binary64) : Double :=
  ofQuotient x.negative (Binary64.unitsOf x.rank) (Binary64.unitsOf y.rank)

/-- The number itself if it is finite. -/
def finite? : Double → Option Binary64
  | finite x => some x
  | _ => none

end Double

end BookingOffice
