import BookingOffice.Proofs.Calendar.Parts
import BookingOffice.Proofs.Listing.Cuts
import BookingOffice.Proofs.Schema.Accepted
import BookingOffice.Proofs.Text.Whole

/-!
Points in numbers and times. A number has one point at most, and of the two that a time may have
none is next to the other, so that neither is taken for a range.

* `Double.count_point_of_read?`: a number has one point at most;
* `Rfc3339.not_infix_of_read?`: a time has no two points in a row;
* `Rfc3339.getLast?_ne_of_read?`: none ends in a point;
* `Value.not_infix_of_read`: there are no two points in a row in what is read as a number or a time.
-/

namespace BookingOffice

/-! ### Points in numbers -/

namespace Numeral

/-- Digits can be dropped from what points are counted in. -/
lemma count_point_dropWhile (cs : List Char) :
    (cs.dropWhile Char.isDigit).count '.' = cs.count '.' := by
  have hspan : cs.takeWhile Char.isDigit ++ cs.dropWhile Char.isDigit = cs :=
    List.takeWhile_append_dropWhile
  have hdigits : (cs.takeWhile Char.isDigit).count '.' = 0 :=
    count_point_of_isDigit fun c hc => List.mem_takeWhile_imp hc
  conv_rhs => rw [← hspan, List.count_append, hdigits, Nat.zero_add]

/-- There is no point in an exponent. -/
lemma count_point_of_readExponent {cs : List Char} {e : Int} (h : readExponent cs = some e) :
    cs.count '.' = 0 := by
  rw [readExponent.eq_def] at h
  split at h
  · rfl
  · next c cs =>
    obtain ⟨hc, h⟩ := Option.ite_none_right_eq_some.1 h
    have hne : c ≠ '.' := by
      rintro rfl
      revert hc
      decide
    rw [List.count_cons_of_ne hne]
    split at h
    · next digits hsign =>
      obtain ⟨hall, -⟩ := Option.ite_none_left_eq_some.1 h
      have hdigits : digits.count '.' = 0 := by
        simp only [Bool.or_eq_true, not_or, Bool.not_eq_true', Bool.not_eq_false] at hall
        exact count_point_of_isDigit (List.all_eq_true.1 hall.2)
      split at hsign
      · obtain ⟨-, rfl⟩ := Prod.mk.inj hsign
        rwa [List.count_cons_of_ne (by decide)]
      · obtain ⟨-, rfl⟩ := Prod.mk.inj hsign
        rwa [List.count_cons_of_ne (by decide)]
      · obtain ⟨-, rfl⟩ := Prod.mk.inj hsign
        exact hdigits

/-- There is one point at most in a number without its sign. -/
lemma count_point_of_read? {cs : List Char} {n : Numeral} (h : read? cs = some n) :
    cs.count '.' ≤ 1 := by
  obtain ⟨-, h⟩ := Option.ite_none_left_eq_some.1 h
  obtain ⟨e, he, -⟩ := Option.map_eq_some_iff.1 h
  have htail := count_point_of_readExponent he
  rw [← count_point_dropWhile cs]
  split at htail
  · next ds hds =>
    rw [hds, List.count_cons_self, ← count_point_dropWhile ds, htail]
  · exact htail.trans_le (Nat.zero_le 1)

end Numeral

/-- There is one point at most in a finite number. -/
lemma Double.count_point_of_read? {s : String} {x : Binary64} (h : read? s = some (.finite x)) :
    s.toList.count '.' ≤ 1 := by
  have hunsigned {negative : Bool} {cs : List Char}
      (h : readUnsigned negative cs = some (.finite x)) : cs.count '.' ≤ 1 := by
    rw [readUnsigned] at h
    split at h
    · next n hn => exact Numeral.count_point_of_read? hn
    · split at h <;> cases h
  rw [read?] at h
  split at h
  · next cs hcs =>
    rw [hcs, List.count_cons_of_ne (by decide)]
    exact hunsigned h
  · next cs hcs =>
    rw [hcs, List.count_cons_of_ne (by decide)]
    exact hunsigned h
  · exact hunsigned h

/-! ### Points in times -/

namespace Rfc3339

lemma count_point_of_offset? {cs : List Char} {offset : Int} (h : offset? cs = some offset) :
    cs.count '.' = 0 := by
  rw [offset?.eq_def] at h
  split at h
  · rfl
  · rfl
  · next sign cs _ _ =>
    obtain ⟨hsign, h⟩ := Option.ite_none_right_eq_some.1 h
    obtain ⟨⟨hours, rest⟩, hhours, h⟩ := Option.bind_eq_some_iff.1 h
    obtain ⟨rest', hcolon, h⟩ := Option.bind_eq_some_iff.1 h
    obtain ⟨⟨minutes, last⟩, hminutes, h⟩ := Option.bind_eq_some_iff.1 h
    obtain ⟨⟨-, -, hlast⟩, -⟩ := Option.ite_none_right_eq_some.1 h
    obtain ⟨hs, rfl, -, hhs⟩ := fixed?_eq_some hhours
    obtain rfl := after?_eq_some hcolon
    obtain ⟨ms, rfl, -, hms⟩ := fixed?_eq_some hminutes
    obtain rfl := List.isEmpty_iff.1 hlast
    have hne : sign ≠ '.' := by
      rintro rfl
      revert hsign
      decide
    simp [List.count_cons_of_ne hne, List.count_append, Numeral.count_point_of_isDigit hhs,
      Numeral.count_point_of_isDigit hms]
  · rfl

/-- Even if a point separates date and time, no other one is next to it. -/
lemma not_infix_of_read? {s : String} {m : Moment} (h : read? s = some m) :
    ¬ ['.', '.'] <:+: s.toList := by
  rw [read?_eq] at h
  obtain ⟨p, hp, -⟩ := Option.bind_eq_some_iff.1 h
  obtain ⟨date, separator, first, clock, tail, zone, hchars, hdate, hfirst, hclock, hfraction,
    hzone⟩ := exists_chars_of_parts? hp
  have hne : first ≠ '.' := by
    rintro rfl
    cases hfirst
  have hfront : (date ++ [separator]).count '.' ≤ 1 := by
    rw [List.count_append, hdate, Nat.zero_add]
    exact List.count_le_length
  have hback : (clock ++ tail).count '.' ≤ 1 := by
    obtain ⟨hdigits, htail⟩ := fractionDigits?_eq_some hfraction
    have hzone := count_point_of_offset? hzone
    rw [List.count_append, hclock, Nat.zero_add]
    rcases htail with rfl | rfl
    · exact hzone.trans_le (Nat.zero_le 1)
    · rw [List.count_cons_self, List.count_append, Numeral.count_point_of_isDigit hdigits, hzone]
  rw [hchars, List.append_cons]
  exact Text.not_infix_append_cons (Text.not_infix_of_count_le hfront) hne
    (Text.not_infix_of_count_le hback)

/-- No written time ends in a point. -/
lemma getLast?_ne_of_read? {s : String} {m : Moment} (h : read? s = some m) :
    s.toList.getLast? ≠ some '.' := by
  rw [read?_eq] at h
  obtain ⟨p, hp, -⟩ := Option.bind_eq_some_iff.1 h
  obtain ⟨date, separator, first, clock, tail, zone, hchars, -, -, -, hfraction, hzone⟩ :=
    exists_chars_of_parts? hp
  obtain ⟨front, hfront⟩ : ∃ front, s.toList = front ++ zone := by
    rcases (fractionDigits?_eq_some hfraction).2 with rfl | rfl
    · exact ⟨date ++ separator :: first :: clock, by simp [hchars]⟩
    · exact ⟨date ++ separator :: first :: (clock ++ '.' :: p.fraction), by simp [hchars]⟩
  have hne : zone ≠ [] := by
    rintro rfl
    cases hzone
  intro hlast
  rw [hfront, List.getLast?_append_of_ne_nil _ hne] at hlast
  have hpos := List.count_pos_iff.2 (List.mem_of_getLast? hlast)
  rw [count_point_of_offset? hzone] at hpos
  exact Nat.lt_irrefl 0 hpos

end Rfc3339

/-! ### Points in values -/

/-- There are no two points in a row in numbers and times. -/
lemma Value.not_infix_of_read {kind : Kind} {s : String} {v : Value}
    (hkind : kind = .integer ∨ kind = .real ∨ kind = .timestamp) (h : read kind s = pure v) :
    ¬ ['.', '.'] <:+: s.toList := by
  rcases hkind with rfl | rfl | rfl
  · have hread : readInteger s = .ok v := Option.some.inj h
    rw [readInteger] at hread
    split at hread
    · next i hi =>
      exact Text.not_infix_of_count_le ((Text.count_point_of_readInt hi).trans_le (Nat.zero_le 1))
    · cases hread
  · have hread : readReal s = .ok v := Option.some.inj h
    rw [readReal] at hread
    split at hread
    · next x hx => exact Text.not_infix_of_count_le (Double.count_point_of_read? hx)
    · cases hread
  · obtain ⟨m, -, hm, -⟩ := readTimestamp_eq_pure h
    exact Rfc3339.not_infix_of_read? hm

end BookingOffice
