import BookingOffice.Proofs.Number.Nearest
import BookingOffice.Proofs.Traversal
import BookingOffice.Text.Whole

/-!
Written numbers are read back. The text of a double is a decimal that the double is the nearest one
to, with its digits spread around a point or in front of an exponent; wherever the point is put, the
decimal stays the same up to zeros at its end.

* `Binary64.rank_shortest`: the shortest decimal rounds to the double;
* `Numeral.read?_chars`: the parts of a numeral are read back from its characters;
* `Binary64.exists_toText_eq`: the text of a double is a sign and the characters of a numeral;
* `Binary64.read?_toText`: it is read back as the double;
* `Text.readInt_toString`: a whole number is read back from its text.
-/

namespace BookingOffice

/-! ### The shortest decimal -/

namespace Binary64

/-- A number of units of `2 ^ -n` is a decimal with `n` digits behind the point. -/
lemma rank_mul_five_pow (digits n : Nat) :
    Decimal.rank ⟨digits * 5 ^ n, -n⟩ = nearest digits (2 ^ n) := by
  have hnum : (-(n : Int)).toNat = 0 := Int.toNat_of_nonpos (by omega)
  have hden : (-(-(n : Int))).toNat = n := by omega
  rw [Decimal.rank_eq]
  simp only [Decimal.num, Decimal.den, hnum, hden, Nat.pow_zero, Nat.mul_one]
  rw [show 10 ^ n = 2 ^ n * 5 ^ n from Nat.mul_pow 2 5 n, nearest_mul (Nat.pow_pos (by decide))]

/-- The whole expansion of a double rounds to it. -/
lemma rank_exact (rank : Nat) : (exact rank).rank = rank :=
  (rank_mul_five_pow (unitsOf rank) 1074).trans (nearest_unitsOf rank)

/-- The shortest decimal of a double rounds to it. -/
theorem rank_shortest (rank : Nat) : (shortest rank).rank = rank := by
  rw [shortest]
  cases h : shortest? rank with
  | none => exact rank_exact rank
  | some d =>
    obtain ⟨k, -, hfind⟩ := List.exists_of_findSome?_eq_some h
    have hd := List.find?_some hfind
    rw [Option.getD_some]
    exact beq_iff_eq.1 hd

end Binary64

/-! ### Numerals -/

namespace Numeral

lemma ofDigits_eq (cs : List Char) : ofDigits cs = Nat.ofDigitChars 10 cs 0 := rfl

lemma ofDigits_toDigits (n : Nat) : ofDigits (Nat.toDigits 10 n) = n :=
  Nat.ofDigitChars_ten_toDigits

/-- Zeros at the end multiply a row of digits. -/
lemma ofDigits_append_zeros (cs : List Char) (k : Nat) :
    ofDigits (cs ++ List.replicate k '0') = ofDigits cs * 10 ^ k := by
  rw [ofDigits_eq, Nat.ofDigitChars_append, Nat.ofDigitChars_replicate_zero, Nat.mul_comm]
  rfl

/-- Zeros in front do not count. -/
lemma ofDigits_zeros_append (k : Nat) (cs : List Char) :
    ofDigits (List.replicate k '0' ++ cs) = ofDigits cs := by
  rw [ofDigits_eq, Nat.ofDigitChars_append, Nat.ofDigitChars_replicate_zero, Nat.mul_zero]
  rfl

/-- The characters of an exponent. -/
def exponentChars : Option Int → List Char
  | none => []
  | some e => 'e' :: (toString e).toList

/-- The characters of a numeral: digits, a point with digits behind it, and an exponent. -/
def chars (whole : List Char) : (fraction : Option (List Char)) → Option Int → List Char
  | none, exponent => whole ++ exponentChars exponent
  | some fraction, exponent => whole ++ '.' :: (fraction ++ exponentChars exponent)

lemma isDigit_of_mem_toDigits (n : Nat) : ∀ c ∈ Nat.toDigits 10 n, c.isDigit :=
  fun _ => Nat.isDigit_of_mem_toDigits (by decide) (by decide)

/-- A row of digits starts with no sign. -/
lemma toDigits_ne_cons {c : Char} (hc : c.isDigit = false) (n : Nat) (cs : List Char) :
    Nat.toDigits 10 n ≠ c :: cs := by
  intro h
  have hdigit : c.isDigit = true := isDigit_of_mem_toDigits n c (h ▸ List.mem_cons_self)
  rw [hc] at hdigit
  cases hdigit

/-- A whole number is written as its digits, behind a sign if it is negative. -/
lemma toList_toString (i : Int) :
    0 ≤ i ∧ (toString i).toList = Nat.toDigits 10 i.natAbs ∨
      i < 0 ∧ (toString i).toList = '-' :: Nat.toDigits 10 i.natAbs := by
  cases i with
  | ofNat n => exact .inl ⟨Int.natCast_nonneg n, Nat.toList_repr⟩
  | negSucc n =>
    refine .inr ⟨Int.negSucc_lt_zero n, ?_⟩
    change ("-" ++ Nat.repr (n + 1)).toList = _
    rw [String.toList_append, Nat.toList_repr]
    rfl

/-- A whole number is read as an exponent. -/
lemma readExponent_toString (e : Int) : readExponent ('e' :: (toString e).toList) = some e := by
  have hempty (n : Nat) : (Nat.toDigits 10 n).isEmpty = false :=
    List.isEmpty_eq_false_iff.2 Nat.toDigits_ne_nil
  have hall (n : Nat) : (Nat.toDigits 10 n).all Char.isDigit = true :=
    List.all_eq_true.2 (isDigit_of_mem_toDigits n)
  rcases toList_toString e with ⟨he, hchars⟩ | ⟨he, hchars⟩
  · have hvalue : (e.natAbs : Int) = e := Int.natAbs_of_nonneg he
    rw [hchars, readExponent, if_pos (.inl rfl)]
    split
    · next h =>
      rw [hempty, hall] at h
      cases h
    · rw [ofDigits_toDigits]
      exact congrArg some hvalue
    · exact fun ds => toDigits_ne_cons rfl _ ds
    · exact fun ds => toDigits_ne_cons rfl _ ds
  · have hvalue : -(e.natAbs : Int) = e := by omega
    rw [hchars, readExponent, if_pos (.inl rfl)]
    simp only [hempty, hall, ofDigits_toDigits]
    exact congrArg some hvalue

lemma readExponent_exponentChars (exponent : Option Int) :
    readExponent (exponentChars exponent) = some (exponent.getD 0) := by
  cases exponent with
  | none => rfl
  | some e => exact readExponent_toString e

/-- Digits end where an exponent begins. -/
lemma span_exponentChars {cs : List Char} (h : ∀ c ∈ cs, c.isDigit) (exponent : Option Int) :
    (cs ++ exponentChars exponent).takeWhile Char.isDigit = cs ∧
      (cs ++ exponentChars exponent).dropWhile Char.isDigit = exponentChars exponent := by
  rw [List.takeWhile_append_of_pos h, List.dropWhile_append_of_pos h]
  cases exponent with
  | none => exact ⟨List.append_nil _, rfl⟩
  | some e => exact ⟨List.append_nil _, rfl⟩

/-- The parts of a numeral are read back from its characters. -/
theorem read?_chars {whole : List Char} {fraction : Option (List Char)} {exponent : Option Int}
    (hne : whole ≠ []) (hwhole : ∀ c ∈ whole, c.isDigit)
    (hfraction : ∀ c ∈ fraction.getD [], c.isDigit) :
    read? (chars whole fraction exponent) =
      some ⟨whole, fraction.getD [], exponent.getD 0⟩ := by
  have hempty : whole.isEmpty = false := List.isEmpty_eq_false_iff.2 hne
  cases fraction with
  | none =>
    obtain ⟨htake, hdrop⟩ := span_exponentChars hwhole exponent
    rw [chars, read?]
    simp only [htake, hdrop, hempty]
    cases exponent with
    | none => rfl
    | some e =>
      have hread := readExponent_toString e
      exact congrArg (Option.map fun exponent => Numeral.mk whole [] exponent) hread
  | some fraction =>
    obtain ⟨htake, hdrop⟩ := span_exponentChars hfraction exponent
    have hpoint (cs : List Char) : (whole ++ '.' :: cs).takeWhile Char.isDigit = whole ∧
        (whole ++ '.' :: cs).dropWhile Char.isDigit = '.' :: cs := by
      rw [List.takeWhile_append_of_pos hwhole, List.dropWhile_append_of_pos hwhole]
      exact ⟨List.append_nil _, rfl⟩
    rw [Option.getD_some] at htake hdrop
    rw [chars, read?]
    simp only [hpoint, htake, hdrop, hempty, readExponent_exponentChars]
    rfl

/-- There is no point among digits. -/
lemma count_point_of_isDigit {cs : List Char} (h : ∀ c ∈ cs, c.isDigit) : cs.count '.' = 0 :=
  List.count_eq_zero.2 fun hc => absurd (h _ hc) (by decide)

/-! ### Decimals in characters -/

open Binary64 (Decimal)

/-- Whether characters are those of a numeral that stands for a decimal, maybe with zeros at its
end. -/
inductive Spells (d : Decimal) : List Char → Prop
  | chars {whole : List Char} {fraction : Option (List Char)} {exponent : Option Int} (k : Nat)
      (ne_nil : whole ≠ []) (whole_digits : ∀ c ∈ whole, c.isDigit)
      (fraction_digits : ∀ c ∈ fraction.getD [], c.isDigit)
      (digits : ofDigits (whole ++ fraction.getD []) = d.digits * 10 ^ k)
      (exponent_eq : exponent.getD 0 - (fraction.getD []).length = d.exponent - k) :
      Spells d (chars whole fraction exponent)

namespace Spells

variable {d : Decimal} {cs : List Char}

/-- The characters are read as the double that the decimal is rounded to. -/
lemma readUnsigned (h : Spells d cs) {x : Binary64} (hd : d.rank = x.rank) :
    Double.readUnsigned x.negative cs = some (.finite x) := by
  cases h with
  | @chars whole fraction exponent k ne_nil whole_digits fraction_digits digits exponent_eq =>
    have hshift : Decimal.rank ⟨d.digits * 10 ^ k, d.exponent - k⟩ = x.rank :=
      (Decimal.rank_shift d.digits k d.exponent).trans hd
    rw [Double.readUnsigned, read?_chars ne_nil whole_digits fraction_digits]
    simp only [toDouble, digits, exponent_eq]
    exact congrArg some (Double.ofDecimal_eq_finite hshift)

/-- They start with a digit. -/
lemma exists_cons (h : Spells d cs) : ∃ c rest, cs = c :: rest ∧ c.isDigit := by
  cases h with
  | @chars whole fraction exponent k ne_nil whole_digits fraction_digits digits exponent_eq =>
    obtain ⟨c, rest, rfl⟩ := List.exists_cons_of_ne_nil ne_nil
    cases fraction with
    | none => exact ⟨c, _, rfl, whole_digits c List.mem_cons_self⟩
    | some fraction => exact ⟨c, _, rfl, whole_digits c List.mem_cons_self⟩

end Spells

/-- The characters of a row of digits with the point at a place relative to its start. -/
def layout (digits : List Char) (point : Int) : List Char :=
  if digits.length ≤ point ∧ point ≤ 16 then
    digits ++ List.replicate (point - digits.length).toNat '0' ++ ['.', '0']
  else if 0 < point ∧ point ≤ 16 then
    digits.take point.toNat ++ '.' :: digits.drop point.toNat
  else if -5 < point ∧ point ≤ 0 then
    '0' :: '.' :: List.replicate (-point).toNat '0' ++ digits
  else
    digits.take 1 ++ (if digits.length = 1 then [] else '.' :: digits.drop 1) ++
      'e' :: (toString (point - 1)).toList

section Layout

variable {digits : List Char} {point : Int}

/-- Digits, zeros up to the point, and one behind it. -/
lemma spells_whole (hne : digits ≠ []) (hdigits : ∀ c ∈ digits, c.isDigit)
    (h : digits.length ≤ point) :
    Spells ⟨ofDigits digits, point - digits.length⟩
      (digits ++ List.replicate (point - digits.length).toNat '0' ++ ['.', '0']) := by
  obtain ⟨n, hn⟩ : ∃ n : Nat, point - digits.length = n := ⟨(point - digits.length).toNat, by omega⟩
  rw [hn, Int.toNat_natCast]
  have hspells : Spells ⟨ofDigits digits, n⟩
      (chars (digits ++ List.replicate n '0') (some ['0']) none) := by
    refine .chars (n + 1) (by simp [hne]) ?_ (by simp) ?_ (by simp)
    · intro c hc
      rcases List.mem_append.1 hc with hc | hc
      · exact hdigits c hc
      · rw [List.eq_of_mem_replicate hc]
        rfl
    · rw [Option.getD_some, List.append_assoc, ← List.replicate_succ', ofDigits_append_zeros]
  exact hspells

/-- Digits on both sides of the point. -/
lemma spells_split (hdigits : ∀ c ∈ digits, c.isDigit) (h : 0 < point ∧ point < digits.length) :
    Spells ⟨ofDigits digits, point - digits.length⟩
      (digits.take point.toNat ++ '.' :: digits.drop point.toNat) := by
  have hspells : Spells ⟨ofDigits digits, point - digits.length⟩
      (chars (digits.take point.toNat) (some (digits.drop point.toNat)) none) := by
    refine .chars 0 ?_ ?_ ?_ ?_ ?_
    · rw [← List.length_pos_iff, List.length_take]
      omega
    · exact fun c hc => hdigits c (List.mem_of_mem_take hc)
    · exact fun c hc => hdigits c (List.mem_of_mem_drop hc)
    · rw [Option.getD_some, List.take_append_drop, Nat.pow_zero, Nat.mul_one]
    · rw [Option.getD_none, Option.getD_some, List.length_drop]
      simp only [Nat.cast_zero]
      omega
  rwa [chars, exponentChars, List.append_nil] at hspells

/-- A zero before the point, and zeros and digits behind it. -/
lemma spells_fraction (hdigits : ∀ c ∈ digits, c.isDigit) (h : point ≤ 0) :
    Spells ⟨ofDigits digits, point - digits.length⟩
      ('0' :: '.' :: List.replicate (-point).toNat '0' ++ digits) := by
  have hspells : Spells ⟨ofDigits digits, point - digits.length⟩
      (chars ['0'] (some (List.replicate (-point).toNat '0' ++ digits)) none) := by
    refine .chars 0 (by simp) (by simp) ?_ ?_ ?_
    · intro c hc
      rcases List.mem_append.1 hc with hc | hc
      · rw [List.eq_of_mem_replicate hc]
        rfl
      · exact hdigits c hc
    · rw [Option.getD_some, ← List.append_assoc, List.singleton_append, ← List.replicate_succ,
        ofDigits_zeros_append, Nat.pow_zero, Nat.mul_one]
    · rw [Option.getD_none, Option.getD_some, List.length_append, List.length_replicate]
      simp only [Nat.cast_zero]
      omega
  rwa [chars, exponentChars, List.append_nil] at hspells

/-- One digit before the point, if there is one, and an exponent. -/
lemma spells_scientific (hne : digits ≠ []) (hdigits : ∀ c ∈ digits, c.isDigit) (point : Int) :
    Spells ⟨ofDigits digits, point - digits.length⟩
      (digits.take 1 ++ (if digits.length = 1 then [] else '.' :: digits.drop 1) ++
        'e' :: (toString (point - 1)).toList) := by
  obtain ⟨c, rest, rfl⟩ := List.exists_cons_of_ne_nil hne
  cases rest with
  | nil =>
    have hspells : Spells ⟨ofDigits [c], point - 1⟩ (chars [c] none (some (point - 1))) :=
      .chars 0 (by simp) hdigits (by simp) (by simp) (by simp)
    exact hspells
  | cons d rest =>
    have hspells : Spells ⟨ofDigits (c :: d :: rest), point - (c :: d :: rest).length⟩
        (chars [c] (some (d :: rest)) (some (point - 1))) := by
      refine .chars 0 (by simp) ?_ ?_ (by simp) ?_
      · exact fun c' hc => hdigits c' (List.mem_singleton.1 hc ▸ List.mem_cons_self)
      · exact fun c' hc => hdigits c' (List.mem_cons_of_mem _ hc)
      · simp only [Option.getD_some, List.length_cons, Nat.cast_zero]
        omega
    have hone : ¬ (c :: d :: rest).length = 1 := by simp
    rw [if_neg hone]
    exact hspells

/-- Wherever the point is put, the characters stand for the same decimal. -/
theorem spells_layout (hne : digits ≠ []) (hdigits : ∀ c ∈ digits, c.isDigit) (point : Int) :
    Spells ⟨ofDigits digits, point - digits.length⟩ (layout digits point) := by
  rw [layout]
  split
  · next h => exact spells_whole hne hdigits h.1
  split
  · next h hpoint => exact spells_split hdigits (by omega)
  split
  · next hpoint => exact spells_fraction hdigits hpoint.2
  · exact spells_scientific hne hdigits point

end Layout

end Numeral

namespace Binary64

/-- The text of a double is a sign and characters that are read as the double. -/
lemma exists_toText_eq (x : Binary64) : ∃ d cs, Numeral.Spells d cs ∧ d.rank = x.rank ∧
    x.toText = (if x.negative then "-" else "") ++ String.ofList cs := by
  by_cases h : x.rank = 0
  · have hspells : Numeral.Spells ⟨0, 0⟩ (Numeral.chars ['0'] (some ['0']) none) :=
      .chars 1 (by simp) (by simp) (by simp) (by decide) (by decide)
    refine ⟨_, _, hspells, ?_, ?_⟩
    · rw [h, Decimal.rank_eq]
      exact nearest_zero _
    · rw [toText, if_pos h]
      cases x.negative <;> rfl
  · obtain ⟨d, hd⟩ : ∃ d, shortest x.rank = d := ⟨_, rfl⟩
    have hrank : d.rank = x.rank := hd ▸ rank_shortest x.rank
    obtain ⟨written, hwritten⟩ : ∃ written, Nat.toDigits 10 d.digits = written := ⟨_, rfl⟩
    obtain ⟨digits, hdigits⟩ : ∃ digits, written.rdropWhile (· == '0') = digits := ⟨_, rfl⟩
    obtain ⟨k, hk⟩ := Traversal.exists_rdropWhile_append '0' written
    rw [hdigits] at hk
    have hvalue : Numeral.ofDigits digits * 10 ^ k = d.digits := by
      rw [← Numeral.ofDigits_append_zeros, hk, ← hwritten, Numeral.ofDigits_toDigits]
    have hlength : (written.length : Int) = digits.length + k := by
      rw [← hk, List.length_append, List.length_replicate]
      rfl
    have hne : digits ≠ [] := by
      rintro rfl
      refine h ?_
      rw [← hrank, Decimal.rank_eq, Decimal.num, ← hvalue]
      simp [Numeral.ofDigits, nearest_zero]
    have hall : ∀ c ∈ digits, c.isDigit := by
      intro c hc
      refine Numeral.isDigit_of_mem_toDigits d.digits c ?_
      rw [hwritten, ← hk]
      exact List.mem_append_left _ hc
    refine ⟨_, _, Numeral.spells_layout hne hall (written.length + d.exponent), ?_, ?_⟩
    · have hexponent : d.exponent = written.length + d.exponent - digits.length - k := by omega
      rw [← Decimal.rank_shift _ k, hvalue, ← hexponent]
      exact hrank
    · rw [toText, if_neg h, hd, ← hdigits, ← hwritten]
      rfl

/-- A double is read back from its text. -/
theorem read?_toText (x : Binary64) : Double.read? x.toText = some (.finite x) := by
  obtain ⟨d, cs, hspells, hrank, htext⟩ := x.exists_toText_eq
  have hread := hspells.readUnsigned hrank
  rw [htext, Double.read?]
  cases hnegative : x.negative with
  | true =>
    have hchars : ("-" ++ String.ofList cs).toList = '-' :: cs := by
      simp only [String.toList_append, String.toList_ofList]
      rfl
    rw [hnegative] at hread
    simp only [if_true, hchars, hread]
  | false =>
    obtain ⟨c, rest, rfl, hc⟩ := hspells.exists_cons
    have hchars : ("" ++ String.ofList (c :: rest)).toList = c :: rest := by
      rw [String.empty_append, String.toList_ofList]
    rw [hnegative] at hread
    simp only [Bool.false_eq_true, if_false, hchars]
    split
    · next hcs =>
      obtain ⟨rfl, rfl⟩ := List.cons.inj hcs
      cases hc
    · next hcs =>
      obtain ⟨rfl, rfl⟩ := List.cons.inj hcs
      cases hc
    · exact hread

end Binary64

/-! ### Whole numbers -/

namespace Text

open Numeral (toDigits_ne_cons toList_toString isDigit_of_mem_toDigits)

/-- Digits are read on to the number that they stand for if that does not pass the bound. -/
lemma readDigits_eq_ok {bound n : Nat} {past : WholeFault} {cs : List Char}
    (hcs : ∀ c ∈ cs, c.isDigit) (h : Nat.ofDigitChars 10 cs n ≤ bound) :
    readDigits bound past n cs = .ok (Nat.ofDigitChars 10 cs n) := by
  have hle : ∀ (cs : List Char) (n : Nat), n ≤ Nat.ofDigitChars 10 cs n := by
    intro cs
    induction cs with
    | nil => exact fun n => Nat.le_refl n
    | cons c cs ih =>
      intro n
      rw [Nat.ofDigitChars_cons]
      exact (by omega : n ≤ 10 * n + (c.toNat - '0'.toNat)).trans (ih _)
  induction cs generalizing n with
  | nil => rfl
  | cons c cs ih =>
    rw [Nat.ofDigitChars_cons] at h ⊢
    have hstep : 10 * n + (c.toNat - 48) ≤ bound := (hle cs _).trans h
    rw [readDigits, if_pos (hcs c List.mem_cons_self)]
    exact (if_pos hstep).trans (ih (fun d hd => hcs d (List.mem_cons_of_mem _ hd)) h)

lemma readDigits_toDigits {bound n : Nat} {past : WholeFault} (h : n ≤ bound) :
    readDigits bound past 0 (Nat.toDigits 10 n) = .ok n := by
  rw [readDigits_eq_ok (isDigit_of_mem_toDigits n) (Nat.ofDigitChars_ten_toDigits.trans_le h),
    Nat.ofDigitChars_ten_toDigits]

/-- A natural number is read back from its text. -/
theorem readNat_toString {bound n : Nat} (h : n ≤ bound) : readNat bound (toString n) = .ok n := by
  have hchars : (toString n).toList = Nat.toDigits 10 n := Nat.toList_repr
  rw [readNat, hchars]
  split
  · next heq => exact absurd heq Nat.toDigits_ne_nil
  · next heq => exact absurd heq (toDigits_ne_cons rfl _ _)
  · next heq => exact absurd heq (toDigits_ne_cons rfl _ _)
  · exact readDigits_toDigits h

/-- A whole number is read back from its text. -/
theorem readInt_toString {bound : Nat} {i : Int} (h : -(bound + 1 : Int) ≤ i ∧ i ≤ bound) :
    readInt bound (toString i) = .ok i := by
  have hsigned (n : Nat) (c : Char) : c :: Nat.toDigits 10 n ≠ [c] := fun heq =>
    Nat.toDigits_ne_nil (List.cons.inj heq).2
  rcases toList_toString i with ⟨hi, hchars⟩ | ⟨hi, hchars⟩
  · have hvalue : (i.natAbs : Int) = i := Int.natAbs_of_nonneg hi
    have hread : readDigits bound .tooLarge 0 (Nat.toDigits 10 i.natAbs) = .ok i.natAbs :=
      readDigits_toDigits (by omega)
    rw [readInt, hchars]
    split
    · next heq => exact absurd heq Nat.toDigits_ne_nil
    · next heq => exact absurd heq (toDigits_ne_cons rfl _ _)
    · next heq => exact absurd heq (toDigits_ne_cons rfl _ _)
    · next heq => exact absurd heq (toDigits_ne_cons rfl _ _)
    · next heq => exact absurd heq (toDigits_ne_cons rfl _ _)
    · rw [hread]
      exact congrArg Except.ok hvalue
  · have hvalue : -(i.natAbs : Int) = i := by omega
    have hread : readDigits (bound + 1) .tooSmall 0 (Nat.toDigits 10 i.natAbs) = .ok i.natAbs :=
      readDigits_toDigits (by omega)
    rw [readInt, hchars]
    split
    · next heq => cases heq
    · next heq => cases heq
    · next heq => exact absurd heq (hsigned _ _)
    · next heq => cases heq
    · next cs _ heq =>
      obtain ⟨-, rfl⟩ := List.cons.inj heq
      rw [hread]
      exact congrArg Except.ok hvalue
    · next hno => exact absurd rfl (hno _)

end Text

end BookingOffice
