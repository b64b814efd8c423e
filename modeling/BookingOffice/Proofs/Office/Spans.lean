import BookingOffice.Proofs.Listing.Ranges
import BookingOffice.Proofs.Office.Found
import BookingOffice.Proofs.Office.Legible

/-!
Spans of time in queries. Storage keeps whole microseconds, and the bounds of a span are cut down to
them as well. For the upper bound this makes no difference: a whole microsecond that is not past
the bound is not past what is left of it. A lower bound gives way to the start of its microsecond.

* `Value.exists_written?_of_read`: what is left of a written time;
* `Instant.IsWithin`: which instants lie within the bounds;
* `Condition.holds_between_iff`: these are the ones that the range of the bounds holds for;
* `Office.Reachable.exists_spans`: so a span finds what lies within it, and nothing else.
-/

namespace BookingOffice

open Rfc3339 (written?)

/-! ### Bounds -/

/-- A written time is cut down to microseconds, toward the past. -/
lemma Value.exists_written?_of_read {text : String} {v : Value}
    (h : read .timestamp text = pure v) :
    ∃ w t, written? text = some w ∧ v = .timestamp t ∧ t.nanos = ⌊w / 1000⌋ * 1000 := by
  obtain ⟨m, t, hm, ht, rfl⟩ := readTimestamp_eq_pure h
  obtain ⟨w, hw, hfloor⟩ := Rfc3339.exists_written?_of_read? hm
  refine ⟨w, t.truncated, hw, rfl, ?_⟩
  have hnanos : t.nanos = ⌊w⌋ := (Instant.ofNanos?_eq_some_iff.1 ht).trans hfloor.symm
  have hquotient : ⌊w / 1000⌋ = ⌊w⌋ / 1000 := Int.floor_div_natCast w 1000
  change t.nanos - t.nanos % 1000 = _
  rw [hnanos, hquotient]
  omega

lemma Value.le_timestamp_iff {t u : Instant} :
    (timestamp t).Le (.timestamp u) ↔ t.nanos ≤ u.nanos := by
  have hsame : (timestamp t).Same (.timestamp u) ↔ t.nanos = u.nanos := by
    refine ⟨fun h => congrArg Instant.nanos (timestamp.inj h), fun h => ?_⟩
    cases t
    cases u
    cases h
    rfl
  rw [Le, hsame]
  exact Int.le_iff_lt_or_eq.symm

namespace Instant

/-- Whether an instant is not before a written time, or in the same microsecond. -/
def NotBefore (text : String) (t : Instant) : Prop :=
  ∃ w, written? text = some w ∧ ⌊w / 1000⌋ * 1000 ≤ t.nanos

/-- Whether an instant is not after a written time. -/
def NotAfter (text : String) (t : Instant) : Prop :=
  ∃ w, written? text = some w ∧ (t.nanos : ℚ) ≤ w

/-- Whether an instant lies within bounds as they are written, of which the lower one counts from
the start of its microsecond. -/
structure IsWithin (low high : Option String) (t : Instant) : Prop where
  notBefore : ∀ text ∈ low, t.NotBefore text
  notAfter : ∀ text ∈ high, t.NotAfter text

variable {text : String} {v : Value} {t : Instant}

lemma notBefore_iff (h : Value.read .timestamp text = pure v) :
    v.Le (.timestamp t) ↔ t.NotBefore text := by
  obtain ⟨w, u, hw, rfl, hu⟩ := Value.exists_written?_of_read h
  rw [Value.le_timestamp_iff, hu, NotBefore, hw]
  simp

/-- A whole microsecond is not after a time if it is not after the microsecond of the time. -/
lemma notAfter_iff (h : Value.read .timestamp text = pure v) (ht : t.nanos % 1000 = 0) :
    (Value.timestamp t).Le v ↔ t.NotAfter text := by
  obtain ⟨w, u, hw, rfl, hu⟩ := Value.exists_written?_of_read h
  obtain ⟨x, hx⟩ : ∃ x, t.nanos = x * 1000 := ⟨t.nanos / 1000, by omega⟩
  have hle : (t.nanos : ℚ) ≤ w ↔ x ≤ ⌊w / 1000⌋ := by
    rw [hx, Int.le_floor, le_div_iff₀ (by norm_num)]
    push_cast
    rfl
  rw [Value.le_timestamp_iff, hu, NotAfter, hw]
  simp only [Option.some.injEq, exists_eq_left', hle]
  omega

end Instant

namespace Condition

/-- A bound that may be left out is read if its text is. -/
lemma exists_bound {bound : Option String}
    (h : ∀ text ∈ bound, ∃ v, Value.read .timestamp text = pure v) :
    ∃ b, IsBound .timestamp (bound.getD "") b ∧ (bound.getD "").toList.getLast? ≠ some '.' ∧
      b.isSome = bound.isSome ∧
      Option.Rel (fun text v => Value.read .timestamp text = pure v) bound b := by
  cases bound with
  | none => exact ⟨none, rfl, by decide, rfl, .none⟩
  | some text =>
    obtain ⟨v, hv⟩ := h text rfl
    obtain ⟨m, -, hm, -⟩ := Value.readTimestamp_eq_pure hv
    refine ⟨some v, ⟨?_, hv⟩, Rfc3339.getLast?_ne_of_read? hm, rfl, .some hv⟩
    rintro rfl
    cases hm

/-- The range of two bounds holds for what lies within them. -/
lemma holds_between_iff {low high : Option String} {lo hi : Option Value} {t : Instant}
    (hlow : Option.Rel (fun text v => Value.read .timestamp text = pure v) low lo)
    (hhigh : Option.Rel (fun text v => Value.read .timestamp text = pure v) high hi)
    (ht : t.nanos % 1000 = 0) :
    (between lo hi).Holds (.timestamp t) ↔ t.IsWithin low high := by
  have hbefore : (∀ v ∈ lo, v.Le (.timestamp t)) ↔ ∀ text ∈ low, t.NotBefore text := by
    cases hlow with
    | none => simp
    | some h => simpa using Instant.notBefore_iff h
  have hafter : (∀ v ∈ hi, (Value.timestamp t).Le v) ↔ ∀ text ∈ high, t.NotAfter text := by
    cases hhigh with
    | none => simp
    | some h => simpa using Instant.notAfter_iff h ht
  rw [Holds, hbefore, hafter]
  exact ⟨fun h => ⟨h.2.1, h.2.2⟩, fun h => ⟨rfl, h.notBefore, h.notAfter⟩⟩

end Condition

/-! ### Rows -/

/-- A value that holds a time is one of whole microseconds. -/
lemma Value.OfKind.exists_timestamp {v : Value} (h : v.OfKind .timestamp) :
    ∃ t, v = .timestamp t ∧ t.nanos % 1000 = 0 := by
  cases v with
  | timestamp t => exact ⟨t, rfl, h.plain⟩
  | null kind => cases h.notNull
  | _ => cases h.kind

/-- A field that holds times is filtered by range. -/
lemma Catalogue.filter_of_timestamp {s : Schema} (hs : s ∈ schemas) {f : Field} (hf : f ∈ s.fields)
    (hkind : f.kind = .timestamp) : f.filter = some .range :=
  (by decide : ∀ s ∈ schemas, ∀ f ∈ s.fields, f.kind = .timestamp → f.filter = some .range)
    s hs f hf hkind

namespace Office

variable {env : Surroundings} {office : Office} {s : Schema} {f : Field}
  {low high : Option String}

/-- What it means that the parameters of a query find what lies within bounds. -/
structure Spans (env : Surroundings) (office : Office) (s : Schema) (f : Field)
    (low high : Option String) (p : Parameters) : Prop where
  /-- They are those of the bounds with two points in between. -/
  query : Parameters.ofPairs s.fields [(f.name, low.getD "" ++ ".." ++ high.getD "")] = pure p
  /-- Every live row keeps an instant, which decides whether the row is found. -/
  rows : ∀ row ∈ office.desk.store.liveRows s.table, ∃ t : Instant,
    row.cell f.name = .integer t.micros ∧ t.nanos = t.micros * 1000 ∧
      (row ∈ office.desk.store.matching s.table p.filters ↔ t.IsWithin low high)
  /-- So it is with the entities that the office shows. -/
  shown : ∀ stored, office.Shows env s stored → ∃ t, stored.value? f.name = some (.timestamp t) ∧
    (p.Selects stored.value? ↔ t.IsWithin low high)

/-- Bounds on a field that holds times find what lies within them. -/
theorem Reachable.exists_spans (h : Reachable env office) (hs : s ∈ Catalogue.schemas)
    (hf : f ∈ s.fields) (hkind : f.kind = .timestamp)
    (hlow : ∀ text ∈ low, ∃ v, Value.read .timestamp text = pure v)
    (hhigh : ∀ text ∈ high, ∃ v, Value.read .timestamp text = pure v)
    (hbounded : low.isSome ∨ high.isSome) : ∃ p, office.Spans env s f low high p := by
  have hsound := h.sound
  have hfits := Catalogue.fits hs
  have hfilter := Catalogue.filter_of_timestamp hs hf hkind
  have hfilterable : f.isFilterable = true := by rw [Field.isFilterable, hfilter]; rfl
  obtain ⟨hrequired, hcontrols, -⟩ := Catalogue.filterable hs hf hfilterable
  obtain ⟨lo, hlo, hlast, hloSome, hlows⟩ := Condition.exists_bound hlow
  obtain ⟨hi, hhi, -, hhiSome, hhighs⟩ := Condition.exists_bound hhigh
  rw [← hloSome, ← hhiSome] at hbounded
  have hread : Condition.read f.kind (f.filter.getD .exact)
      (low.getD "" ++ ".." ++ high.getD "") = pure (.between lo hi) := by
    rw [hkind, hfilter]
    exact Condition.read_bounds (Or.inr (Or.inr rfl)) hlo hhi hbounded hlast
  have hquery := Parameters.ofPairs_filter
    (Setting.read_of_mem hfits.names hf hfilterable hcontrols hread)
  have haccepted := Parameters.accepted_of_ofPairs hquery
  refine ⟨.ofFilter ⟨f.name, .between lo hi⟩, hquery, fun row hrow => ?_, fun stored hshows => ?_⟩
  · obtain ⟨e, hkeeps⟩ := hsound.store.toReadable.rows s hs row (Store.mem_liveRows_iff.1 hrow).1
    obtain ⟨v, hv, hpasses⟩ := hkeeps.accepted.passes f hf
    obtain ⟨t, rfl, ht⟩ := Value.OfKind.exists_timestamp
      ⟨hpasses.kind_eq.trans hkind, hpasses.isNull_eq_false hrequired, hpasses.isPlain⟩
    refine ⟨t, hkeeps.cell hfits hf hv, ?_, ?_⟩
    · exact (Int.tdiv_mul_cancel (Int.dvd_of_emod_eq_zero ht)).symm
    · have hadmits := hkeeps.admits_iff hfits
        (haccepted.filters ⟨f.name, .between lo hi⟩ List.mem_cons_self)
      rw [hv] at hadmits
      simp only [Option.some.injEq, exists_eq_left'] at hadmits
      rw [← Condition.holds_between_iff hlows hhighs ht, ← hadmits, Store.matching,
        List.mem_filter, and_iff_right hrow]
      simp [Parameters.ofFilter]
  · obtain ⟨v, hv, hkindOf, -⟩ := hsound.exists_written hs hshows hf hrequired
    rw [hkind] at hkindOf
    obtain ⟨t, rfl, ht⟩ := hkindOf.exists_timestamp
    refine ⟨t, hv, ?_⟩
    rw [← Condition.holds_between_iff hlows hhighs ht]
    simp [Parameters.Selects, Parameters.ofFilter, hv]

/-- Payments at the epoch and the microsecond before it, and a span within this microsecond. -/
theorem exists_spans_payments :
    let ops : List Operation :=
      [.create Catalogue.payment none (Catalogue.paymentAt ⟨.epoch, 0⟩),
        .create Catalogue.payment none (Catalogue.paymentAt ⟨⟨-1000, by decide⟩, 0⟩)]
    let office := (ofLayout .office).after .counting ops
    let paidAt : Field := { name := "paid_at", kind := .timestamp, filter := some .range }
    let low := "1969-12-31T23:59:59.9999999Z"
    let high := "1970-01-01T00:59:59.99999999+01:00"
    Reachable .counting office ∧ paidAt ∈ Catalogue.payment.fields ∧
      (office.desk.store.liveRows "payments").map (·.cell "paid_at") =
        [.integer 0, .integer (-1)] ∧
      ∃ p, office.Spans .counting Catalogue.payment paidAt (some low) (some high) p := by
  intro ops office paidAt low high
  have hpayment : Catalogue.payment ∈ Catalogue.schemas := by decide
  have hops : ∀ op ∈ ops, op.Served := by simp [ops, Operation.Served, hpayment]
  have hreachable : Reachable .counting office := Reachable.start.after hops
  have hfield : paidAt ∈ Catalogue.payment.fields := by decide
  have hlow : Value.read .timestamp low = pure (.timestamp ⟨-1000, by decide⟩) := by
    exact Attempt.eq_pure_of_outcome (by decide +kernel)
  have hhigh : Value.read .timestamp high = pure (.timestamp ⟨-1000, by decide⟩) := by
    exact Attempt.eq_pure_of_outcome (by decide +kernel)
  refine ⟨hreachable, hfield, by decide +kernel, ?_⟩
  refine Reachable.exists_spans hreachable hpayment hfield rfl ?_ ?_ (Or.inl rfl)
  · rintro text ⟨⟩
    exact ⟨_, hlow⟩
  · rintro text ⟨⟩
    exact ⟨_, hhigh⟩

/-- A payment at the epoch is found from half a microsecond after the epoch on. -/
theorem exists_matching_before_bound :
    let ops : List Operation :=
      [.create Catalogue.payment none (Catalogue.paymentAt ⟨.epoch, 0⟩)]
    let office := (ofLayout .office).after .counting ops
    let low := "1970-01-01T00:00:00.0000005Z"
    Reachable .counting office ∧ (∃ v, Value.read .timestamp low = pure v) ∧
      ∃ w p, written? low = some w ∧
        Parameters.ofPairs Catalogue.payment.fields [("paid_at", low ++ "..")] = pure p ∧
        ∃ row ∈ office.desk.store.matching "payments" p.filters, ∃ t : Instant,
          row.cell "paid_at" = .integer t.micros ∧ t.nanos = t.micros * 1000 ∧
            ¬ w ≤ (t.nanos : ℚ) := by
  intro ops office low
  have hpayment : Catalogue.payment ∈ Catalogue.schemas := by decide
  have hops : ∀ op ∈ ops, op.Served := by simp [ops, Operation.Served, hpayment]
  have hlow : Value.read .timestamp low = pure (.timestamp .epoch) := by
    exact Attempt.eq_pure_of_outcome (by decide +kernel)
  have hquery : Parameters.ofPairs Catalogue.payment.fields [("paid_at", low ++ "..")] =
      pure (.ofFilter ⟨"paid_at", .between (some (.timestamp .epoch)) none⟩) := by
    exact Attempt.eq_pure_of_outcome (by decide +kernel)
  refine ⟨Reachable.start.after hops, ⟨_, hlow⟩, 500, _, by decide +kernel, hquery, ?_⟩
  have hfound : ∃ row ∈ office.desk.store.matching "payments"
      [⟨"paid_at", .between (some (.timestamp .epoch)) none⟩],
      row.cell "paid_at" = .integer Instant.epoch.micros := by
    decide +kernel
  obtain ⟨row, hrow, hcell⟩ := hfound
  exact ⟨row, hrow, .epoch, hcell, rfl, by decide⟩

end Office

end BookingOffice
