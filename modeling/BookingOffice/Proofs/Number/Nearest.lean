import BookingOffice.Number.Shortest
import Mathlib.Tactic.Ring

/-!
Rounding to the nearest double. What a quotient is rounded to depends on its value alone, and the
value of a double is rounded to that double. So a decimal may be shifted, with its exponent making
up for it, and the bounds past which a decimal is not raised to a power are safe.

* `Binary64.nearest_congr`: equal quotients have the same nearest double;
* `Binary64.nearest_unitsOf`: the value of a rank rounds to the rank;
* `Binary64.Decimal.rank_shift`: zeros at the end of a decimal do not count;
* `Double.ofDecimal_eq_finite`: a decimal is read as the double that it is rounded to.
-/

namespace BookingOffice

namespace Binary64

/-! ### Quotients -/

/-- The rounded quotient does not change if both numbers are multiplied. -/
lemma roundQuotient_mul {c : Nat} (hc : 0 < c) (num den : Nat) :
    roundQuotient (num * c) (den * c) = roundQuotient num den := by
  have hlt : 2 * (num % den * c) < den * c ↔ 2 * (num % den) < den := by
    rw [← Nat.mul_assoc, Nat.mul_lt_mul_right hc]
  have hgt : den * c < 2 * (num % den * c) ↔ den < 2 * (num % den) := by
    rw [← Nat.mul_assoc, Nat.mul_lt_mul_right hc]
  rw [roundQuotient, Nat.mul_div_mul_right _ _ hc, Nat.mul_mod_mul_right]
  simp only [hlt, hgt]
  rfl

/-- How often the least positive double goes into one. The power has a name so that it is not
evaluated. -/
def oneUnits : Nat := 2 ^ 1074

lemma oneUnits_pos : 0 < oneUnits := by
  have hpos (n : Nat) : 0 < 2 ^ n := Nat.two_pow_pos n
  rw [oneUnits]
  exact hpos 1074

/-- A quotient is rounded on the grid of the block that it lies in. -/
lemma nearest_eq (num den : Nat) :
    nearest num den = ((num * oneUnits / den).log2 - 52) * 2 ^ 52 +
      roundQuotient (num * oneUnits) (den * 2 ^ ((num * oneUnits / den).log2 - 52)) := rfl

/-- Nor does the nearest double. -/
lemma nearest_mul {c : Nat} (hc : 0 < c) (num den : Nat) :
    nearest (num * c) (den * c) = nearest num den := by
  have hnum : num * c * oneUnits = num * oneUnits * c := Nat.mul_right_comm _ _ _
  have hden (k : Nat) : den * c * 2 ^ k = den * 2 ^ k * c := Nat.mul_right_comm _ _ _
  simp only [nearest_eq, hnum, hden, Nat.mul_div_mul_right _ _ hc, roundQuotient_mul hc]

/-- Equal quotients have the same nearest double. -/
theorem nearest_congr {a b c d : Nat} (hb : 0 < b) (hd : 0 < d) (h : a * d = c * b) :
    nearest a b = nearest c d :=
  calc nearest a b
      = nearest (a * d) (b * d) := (nearest_mul hd a b).symm
    _ = nearest (c * b) (d * b) := by rw [h, Nat.mul_comm b d]
    _ = nearest c d := nearest_mul hb c d

/-- A whole number is its own rounded quotient. -/
lemma roundQuotient_mul_self (n : Nat) {den : Nat} (hden : 0 < den) :
    roundQuotient (n * den) den = n := by
  have hzero : 2 * (n * den % den) < den := by
    rw [Nat.mul_mod_left]
    exact hden
  rw [roundQuotient, Nat.mul_div_cancel _ hden, if_pos hzero]

/-! ### Values of ranks -/

lemma block_mul_le (rank : Nat) : block rank * 2 ^ 52 ≤ rank :=
  (Nat.mul_le_mul_right _ (Nat.sub_le _ _)).trans (Nat.div_mul_le_self _ _)

/-- The value of a rank has fifty-three digits before the zeros of its block, or less in the first
block, which has no such zeros. -/
lemma log2_unitsOf_sub (rank : Nat) : (unitsOf rank).log2 - 52 = block rank := by
  obtain ⟨m, hm⟩ : ∃ m, rank - block rank * 2 ^ 52 = m := ⟨_, rfl⟩
  rw [unitsOf, hm]
  have hrank := Nat.div_add_mod rank (2 ^ 52)
  have hrest : rank % 2 ^ 52 < 2 ^ 52 := Nat.mod_lt _ (by decide)
  rcases Nat.eq_zero_or_pos (rank / 2 ^ 52) with hq | hq
  · have hblock : block rank = 0 := by rw [block, hq]
    rw [hblock, Nat.zero_mul, Nat.sub_zero] at hm
    rw [hq, Nat.mul_zero, Nat.zero_add] at hrank
    rw [hblock, Nat.pow_zero, Nat.mul_one]
    rcases Nat.eq_zero_or_pos m with rfl | hpos
    · rfl
    · have hlog : m.log2 < 52 := (Nat.log2_lt hpos.ne').2 (by rw [← hm, ← hrank]; exact hrest)
      omega
  · have hblock : rank / 2 ^ 52 = block rank + 1 := by
      rw [block, Nat.sub_add_cancel hq]
    have hdigits : m = 2 ^ 52 + rank % 2 ^ 52 := by
      rw [hblock, Nat.mul_succ, Nat.mul_comm] at hrank
      omega
    have hlog : (m * 2 ^ block rank).log2 = 52 + block rank := by
      have hne : m * 2 ^ block rank ≠ 0 :=
        (Nat.mul_pos (by omega) (Nat.two_pow_pos _)).ne'
      refine (Nat.log2_eq_iff hne).2 ⟨?_, ?_⟩
      · rw [Nat.pow_add]
        exact Nat.mul_le_mul_right _ (by omega)
      · rw [Nat.add_right_comm, Nat.pow_add]
        exact Nat.mul_lt_mul_of_pos_right (by omega) (Nat.two_pow_pos _)
    rw [hlog, Nat.add_sub_cancel_left]

/-- The value of a rank rounds to the rank. -/
theorem nearest_unitsOf (rank : Nat) : nearest (unitsOf rank) oneUnits = rank := by
  have hvalue : unitsOf rank * oneUnits / oneUnits = unitsOf rank :=
    Nat.mul_div_cancel _ oneUnits_pos
  have hround : roundQuotient (unitsOf rank * oneUnits) (oneUnits * 2 ^ block rank) =
      rank - block rank * 2 ^ 52 := by
    rw [Nat.mul_comm oneUnits, roundQuotient_mul oneUnits_pos, unitsOf,
      roundQuotient_mul_self _ (Nat.two_pow_pos _)]
  rw [nearest_eq, hvalue, log2_unitsOf_sub, hround, Nat.add_sub_cancel' (block_mul_le rank)]

/-! ### Bounds -/

/-- Zero is rounded to zero. -/
lemma nearest_zero (den : Nat) : nearest 0 den = 0 := by
  have hround (n : Nat) : roundQuotient 0 n = 0 := by
    rw [roundQuotient, Nat.zero_div, Nat.zero_mod]
    split
    · rfl
    · split <;> omega
  rw [nearest_eq, Nat.zero_mul, Nat.zero_div, Nat.log2_zero, hround]
  rfl

/-- What is less than half of the least positive double is rounded to zero. -/
lemma nearest_eq_zero {num den : Nat} (h : 2 * (num * oneUnits) < den) : nearest num den = 0 := by
  have hlt : num * oneUnits < den := by omega
  have hlog : (num * oneUnits / den).log2 - 52 = 0 := by
    rw [Nat.div_eq_of_lt hlt, Nat.log2_zero]
  have hround : roundQuotient (num * oneUnits) den = 0 := by
    rw [roundQuotient, Nat.div_eq_of_lt hlt, Nat.mod_eq_of_lt hlt, if_pos h]
  rw [nearest_eq, hlog, Nat.pow_zero, Nat.mul_one, hround]
  rfl

/-- What is twice the power of two that finite doubles stay below has no finite double. -/
lemma limit_le_nearest {num den : Nat} (hden : 0 < den) (h : den * 2 ^ 1025 ≤ num) :
    limit ≤ nearest num den := by
  have hvalue : 2 ^ 2099 ≤ num * oneUnits / den := by
    rw [Nat.le_div_iff_mul_le hden]
    calc 2 ^ 2099 * den = den * 2 ^ 1025 * oneUnits := by
          rw [oneUnits, Nat.mul_assoc, ← Nat.pow_add, Nat.mul_comm]
      _ ≤ num * oneUnits := Nat.mul_le_mul_right _ h
  have hpow {k n : Nat} (hk : 2 ^ k ≤ n) : k ≤ n.log2 :=
    (Nat.le_log2 ((Nat.two_pow_pos k).trans_le hk).ne').2 hk
  have hlog : 2099 ≤ (num * oneUnits / den).log2 := hpow hvalue
  calc limit = 2047 * 2 ^ 52 := rfl
    _ ≤ ((num * oneUnits / den).log2 - 52) * 2 ^ 52 := Nat.mul_le_mul_right _ (by omega)
    _ ≤ nearest num den := Nat.le_add_right _ _

/-! ### Decimals -/

namespace Decimal

/-- The numerator of a decimal. -/
def num (d : Decimal) : Nat := d.digits * 10 ^ d.exponent.toNat

/-- The denominator of a decimal. -/
def den (d : Decimal) : Nat := 10 ^ (-d.exponent).toNat

lemma den_pos (d : Decimal) : 0 < d.den := Nat.pow_pos (by decide)

lemma rank_eq (d : Decimal) : d.rank = nearest d.num d.den := by
  rw [rank, num, den]
  split
  · next h =>
    rw [Int.toNat_of_nonpos (Int.neg_nonpos_of_nonneg h), Nat.pow_zero]
  · next h =>
    rw [Int.toNat_of_nonpos (Int.not_le.1 h).le, Nat.pow_zero, Nat.mul_one]

lemma two_pow_le_ten_pow {k n : Nat} (h : k ≤ 3 * n) : 2 ^ k ≤ 10 ^ n :=
  calc 2 ^ k ≤ 2 ^ (3 * n) := Nat.pow_le_pow_right (by decide) h
    _ = (2 ^ 3) ^ n := Nat.pow_mul 2 3 n
    _ ≤ 10 ^ n := Nat.pow_le_pow_left (by decide) n

/-- A decimal with so large an exponent has no finite double. -/
lemma limit_le_rank {d : Decimal} (hdigits : d.digits ≠ 0) (h : 400 < d.exponent) :
    limit ≤ d.rank := by
  rw [rank_eq]
  refine limit_le_nearest d.den_pos ?_
  have hden : d.den = 1 := by
    rw [den, Int.toNat_of_nonpos (by omega), Nat.pow_zero]
  rw [hden, Nat.one_mul, num]
  calc 2 ^ 1025 ≤ 10 ^ d.exponent.toNat := two_pow_le_ten_pow (by omega)
    _ ≤ d.digits * 10 ^ d.exponent.toNat := Nat.le_mul_of_pos_left _ (Nat.pos_of_ne_zero hdigits)

/-- A decimal with so small an exponent is rounded to zero. -/
lemma rank_eq_zero {d : Decimal} (h : (d.digits.log2 : Int) + 1076 < -3 * d.exponent) :
    d.rank = 0 := by
  rw [rank_eq]
  refine nearest_eq_zero ?_
  have hnum : d.num = d.digits := by
    rw [num, Int.toNat_of_nonpos (by omega), Nat.pow_zero, Nat.mul_one]
  have hlt : d.digits < 2 ^ (d.digits.log2 + 1) := Nat.lt_log2_self
  calc 2 * (d.num * oneUnits)
      < 2 * (2 ^ (d.digits.log2 + 1) * oneUnits) := by
        rw [hnum]
        exact Nat.mul_lt_mul_of_pos_left (Nat.mul_lt_mul_of_pos_right hlt oneUnits_pos) (by decide)
    _ = 2 ^ (d.digits.log2 + 1076) := by
        rw [oneUnits, ← Nat.pow_add, ← Nat.pow_succ']
    _ ≤ d.den := two_pow_le_ten_pow (by omega)

/-- Zeros at the end of a decimal do not count if the exponent makes up for them. -/
theorem rank_shift (digits k : Nat) (exponent : Int) :
    rank ⟨digits * 10 ^ k, exponent - k⟩ = rank ⟨digits, exponent⟩ := by
  rw [rank_eq, rank_eq]
  refine nearest_congr (den_pos _) (den_pos _) ?_
  simp only [num, den]
  rw [Nat.mul_assoc, Nat.mul_assoc, Nat.mul_assoc, ← Nat.pow_add, ← Nat.pow_add, ← Nat.pow_add]
  congr 2
  omega

end Decimal

end Binary64

namespace Double

open Binary64

/-- A decimal is read as the double that it is rounded to. -/
theorem ofDecimal_eq_finite {x : Binary64} {d : Decimal} (h : d.rank = x.rank) :
    ofDecimal x.negative d.digits d.exponent = .finite x := by
  have hquotient (num den : Nat) (hrank : nearest num den = x.rank) :
      ofQuotient x.negative num den = .finite x := by
    simp only [ofQuotient, hrank, x.bounded, dif_pos]
  rw [ofDecimal]
  split
  · next hzero =>
    refine hquotient 0 1 ?_
    rw [nearest_zero, ← h, Decimal.rank_eq, Decimal.num, hzero, Nat.zero_mul, nearest_zero]
  next hdigits =>
  split
  · next hlarge =>
    have hlimit : limit ≤ x.rank := h ▸ Decimal.limit_le_rank hdigits hlarge
    exact absurd x.bounded (Nat.not_lt.2 hlimit)
  split
  · next hsmall =>
    refine hquotient 0 1 ?_
    rw [nearest_zero, ← h, Decimal.rank_eq_zero hsmall]
  rw [Decimal.rank_eq] at h
  split
  · next hexponent =>
    refine hquotient _ _ ?_
    rw [← h, Decimal.num, Decimal.den, Int.toNat_of_nonpos (Int.neg_nonpos_of_nonneg hexponent),
      Nat.pow_zero]
  · next hexponent =>
    refine hquotient _ _ ?_
    rw [← h, Decimal.num, Decimal.den, Int.toNat_of_nonpos (Int.not_le.1 hexponent).le,
      Nat.pow_zero, Nat.mul_one]

end Double

end BookingOffice
