import BookingOffice.Proofs.Listing.Accepted

/-!
The numbers of pages in words of 64 bits. Where the position of a page is computed in words, the
product stops at the greatest word and what goes into a statement at the greatest word with a sign;
neither wraps around. The number of pages is a quotient that is rounded up without adding to the
dividend, so that every step of it is a word.

* `Word.toNat_saturatingMul`, `Word.toInt_toSigned`, `Word.toNat_divCeil`: what words come to;
* `Parameters.pageOffset_eq_words`: the position of a page comes to the same.
-/

namespace BookingOffice

namespace Word

/-- The difference of two words, or zero where there is none. -/
def saturatingSub (a b : UInt64) : UInt64 := if b ≤ a then a - b else 0

/-- The product of two words, or the greatest word where it is none. -/
def saturatingMul (a b : UInt64) : UInt64 :=
  if a.toNat * b.toNat < 2 ^ 64 then a * b else 18446744073709551615

/-- The word as one with a sign, or the greatest of these where it is none. -/
def toSigned (a : UInt64) : Int64 := if a.toNat < 2 ^ 63 then a.toInt64 else Int64.maxValue

/-- The quotient of two words, rounded up. -/
def divCeil (a b : UInt64) : UInt64 := if a % b = 0 then a / b else a / b + 1

lemma toNat_saturatingSub (a b : UInt64) :
    (saturatingSub a b).toNat = a.toNat - b.toNat := by
  rw [saturatingSub]
  split
  · next h => exact UInt64.toNat_sub_of_le a b h
  · next h =>
    rw [UInt64.le_iff_toNat_le] at h
    rw [UInt64.toNat_zero]
    omega

/-- A product of words is the product of numbers, cut down to the greatest word. -/
lemma toNat_saturatingMul (a b : UInt64) :
    (saturatingMul a b).toNat = min (a.toNat * b.toNat) (2 ^ 64 - 1) := by
  rw [saturatingMul]
  split
  · next h =>
    rw [UInt64.toNat_mul, Nat.mod_eq_of_lt h]
    omega
  · next h =>
    rw [show (18446744073709551615 : UInt64).toNat = 2 ^ 64 - 1 from rfl]
    omega

/-- A word with a sign is the number, cut down to the greatest of these words. -/
lemma toInt_toSigned (a : UInt64) : (toSigned a).toInt = (min a.toNat (2 ^ 63 - 1) : Nat) := by
  rw [toSigned]
  split
  · next h =>
    have hsmall : 2 * a.toBitVec.toNat < 2 ^ 64 := by
      rw [UInt64.toNat_toBitVec]
      omega
    rw [← Int64.toInt_toBitVec, UInt64.toBitVec_toInt64, BitVec.toInt_eq_toNat_of_lt hsmall,
      UInt64.toNat_toBitVec]
    omega
  · next h =>
    rw [show Int64.maxValue.toInt = 2 ^ 63 - 1 from rfl]
    omega

/-- A quotient of words is the quotient of numbers, rounded up. Adding one never leaves the words:
where a remainder is left, the divisor is not one. -/
lemma toNat_divCeil (a b : UInt64) (hb : 0 < b.toNat) :
    (divCeil a b).toNat = (a.toNat + b.toNat - 1) / b.toNat := by
  have hdiv := Nat.div_add_mod a.toNat b.toNat
  have hmod := Nat.mod_lt a.toNat hb
  have hround : (a.toNat + b.toNat - 1) / b.toNat =
      a.toNat / b.toNat + if a.toNat % b.toNat = 0 then 0 else 1 := by
    split
    · next h0 =>
      refine Nat.div_eq_of_lt_le ?_ ?_
      · rw [Nat.add_zero, Nat.mul_comm]
        omega
      · rw [Nat.add_zero, Nat.succ_mul, Nat.mul_comm]
        omega
    · next h0 =>
      refine Nat.div_eq_of_lt_le ?_ ?_
      · rw [Nat.succ_mul, Nat.mul_comm]
        omega
      · rw [Nat.succ_mul, Nat.succ_mul, Nat.mul_comm]
        omega
  have hzero : a % b = 0 ↔ a.toNat % b.toNat = 0 := by
    rw [← UInt64.toNat_inj, UInt64.toNat_mod, UInt64.toNat_zero]
  rw [divCeil, hround]
  simp only [hzero]
  split
  · rw [UInt64.toNat_div, Nat.add_zero]
  · next h0 =>
    have hlt : a.toNat / b.toNat + 1 ≤ a.toNat := by
      have hle : a.toNat / b.toNat ≤ b.toNat * (a.toNat / b.toNat) := Nat.le_mul_of_pos_left _ hb
      omega
    have ha := a.toNat_lt
    rw [UInt64.toNat_add, UInt64.toNat_div, UInt64.toNat_one, Nat.mod_eq_of_lt (by omega)]

/-- So it is the quotient of the numbers that the words stand for. -/
lemma toNat_divCeil_ofNat {n m : Nat} (hn : n < 2 ^ 64) (hm : m < 2 ^ 64) (hpos : 0 < m) :
    (divCeil (.ofNat n) (.ofNat m)).toNat = (n + m - 1) / m := by
  have hdividend : (UInt64.ofNat n).toNat = n := UInt64.toNat_ofNat_of_lt' hn
  have hdivisor : (UInt64.ofNat m).toNat = m := UInt64.toNat_ofNat_of_lt' hm
  rw [toNat_divCeil _ _ (hdivisor.symm ▸ hpos), hdividend, hdivisor]

end Word

/-- The rows before a page, as far as a statement goes. -/
lemma Statement.pageOffset_eq (p : Parameters) :
    pageOffset p = min ((p.page - 1) * p.perPage) maxLimit := by
  simp only [pageOffset, Parameters.offset, maxLimit]
  omega

/-- The rows before a page, as far as a statement goes, in words. -/
lemma Parameters.pageOffset_eq_words (p : Parameters) {page perPage : UInt64}
    (hpage : p.page = page.toNat) (hperPage : p.perPage = perPage.toNat) :
    (Statement.pageOffset p : Int) =
      (Word.toSigned (Word.saturatingMul (Word.saturatingSub page 1) perPage)).toInt := by
  rw [Word.toInt_toSigned, Word.toNat_saturatingMul, Word.toNat_saturatingSub, UInt64.toNat_one]
  rw [Statement.pageOffset_eq, Statement.maxLimit, hpage, hperPage]
  omega

end BookingOffice
