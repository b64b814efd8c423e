import BookingOffice.Proofs.Schema.Accepted
import BookingOffice.Store.Change

/-!
What comes back from cells. A value is read from the cell that keeps it, but for the sign of zero
(`Value.normal`), which is the only thing that is lost of an accepted record.

* `Cell.read_ofValue`: reading a value that was kept;
* `Schema.Accepts.normal`: what is read is accepted like what was kept;
* `Cell.readInstant_micros`: reading the time of a clock that was kept.
-/

namespace BookingOffice

/-! ### Times -/

namespace Instant

/-- Rounded toward 1970, a count of microseconds is the floor, or one more before 1970. -/
lemma tdiv_thousand (nanos : Int) :
    nanos.tdiv 1000 = nanos / 1000 + if 0 ≤ nanos ∨ 1000 ∣ nanos then 0 else 1 :=
  Int.tdiv_eq_ediv

/-- An instant stays in the calendar without its digits after the microseconds. -/
lemma inCalendar_micros (t : Instant) :
    firstNano ≤ t.micros * 1000 ∧ t.micros * 1000 ≤ lastNano := by
  have h := t.inCalendar
  have hcount := tdiv_thousand t.nanos
  simp only [micros, firstNano, lastNano] at h ⊢
  omega

/-- The instant without its digits after the microseconds, rounded toward 1970. -/
def kept (t : Instant) : Instant := ⟨t.micros * 1000, t.inCalendar_micros⟩

lemma micros_kept (t : Instant) : t.kept.micros = t.micros :=
  Int.mul_tdiv_cancel _ (by decide)

lemma nanos_kept_mod (t : Instant) : t.kept.nanos % 1000 = 0 := by
  simp only [kept]
  omega

lemma ext_nanos {t u : Instant} (h : t.nanos = u.nanos) : t = u := by
  cases t
  cases u
  cases h
  rfl

/-- A time of whole microseconds is kept as it is. -/
lemma kept_eq_self {t : Instant} (h : t.nanos % 1000 = 0) : t.kept = t :=
  ext_nanos (Int.tdiv_mul_cancel (Int.dvd_of_emod_eq_zero h))

end Instant

/-- The time of a clock is read back to the microsecond. -/
lemma Cell.readInstant_micros (t : Instant) : Cell.readInstant t.micros = .ok t.kept := by
  have h : Instant.ofMicros? t.micros = some t.kept := Instant.ofNanos?_eq_some_iff.2 rfl
  rw [readInstant, h]

/-! ### Values -/

namespace Binary64

lemma withoutNegativeZero_idem (x : Binary64) :
    x.withoutNegativeZero.withoutNegativeZero = x.withoutNegativeZero := by
  by_cases h : x.rank = 0
  · have hx : x.withoutNegativeZero = zero := if_pos h
    rw [hx]
    rfl
  · have hx : x.withoutNegativeZero = x := if_neg h
    rw [hx, hx]

end Binary64

namespace Value

/-- The value as storage keeps it: of the two zeros only the one without a minus sign. -/
def normal : Value → Value
  | .real x => .real x.withoutNegativeZero
  | v => v

@[simp] lemma normal_kind (v : Value) : v.normal.kind = v.kind := by cases v <;> rfl

@[simp] lemma normal_isNull (v : Value) : v.normal.isNull = v.isNull := by cases v <;> rfl

@[simp] lemma normal_normal (v : Value) : v.normal.normal = v.normal := by
  cases v with
  | real x => exact congrArg Value.real x.withoutNegativeZero_idem
  | _ => rfl

lemma IsPlain.normal {v : Value} (h : v.IsPlain) : v.normal.IsPlain := by
  cases v with
  | real x => trivial
  | _ => exact h

/-- No rule tells the two zeros apart. -/
lemma holds_normal_iff (rule : Rule) (v : Value) : rule.Holds v.normal ↔ rule.Holds v := by
  cases v with
  | real x => cases rule <;> simp only [normal, Rule.Holds, x.units_withoutNegativeZero]
  | _ => rfl

end Value

@[simp] lemma Cell.ofValue_normal (v : Value) : Cell.ofValue v.normal = Cell.ofValue v := by
  cases v with
  | real x => exact congrArg Cell.real x.withoutNegativeZero_idem
  | _ => rfl

/-- A value is read from the cell that keeps it. -/
lemma Cell.read_ofValue {v : Value} (h : v.IsPlain) :
    (Cell.ofValue v).read v.kind = .ok v.normal := by
  cases v with
  | timestamp t =>
    change (Cell.readInstant t.micros).map Value.timestamp = .ok (.timestamp t)
    rw [readInstant_micros, Instant.kept_eq_self h]
    rfl
  | null kind => cases kind <;> rfl
  | _ => rfl

/-- A cell equals a text in storage only if it holds the text. -/
lemma Cell.equals_text {c : Cell} {t : String} : c.equals (text t) = true ↔ c = text t := by
  cases c with
  | text s =>
    have hprecedes : ∀ s t : String, (text s).precedes (text t) = true ↔ s < t := by
      simp [precedes]
    simp only [equals, isNull, compare, hprecedes, Bool.not_false, Bool.true_and, beq_iff_eq,
      text.injEq]
    constructor
    · intro h
      split at h
      · cases h
      · next hst =>
        split at h
        · cases h
        · next hts => exact String.le_antisymm (String.not_lt.1 hts) (String.not_lt.1 hst)
    · rintro rfl
      rw [if_neg (String.lt_irrefl s), if_neg (String.lt_irrefl s)]
  | _ => simp [equals, isNull, compare, precedes, classRank]

lemma Cell.equals_comm (a b : Cell) : a.equals b = b.equals a := by
  have heq : (a.compare b == .eq) = (b.compare a == .eq) := by
    simp only [compare]
    cases a.precedes b <;> cases b.precedes a <;> rfl
  rw [equals, equals, heq, Bool.and_comm (!a.isNull)]

/-- A required text field holds a text. -/
lemma Field.Passes.exists_text {f : Field} {v : Value} (h : f.Passes v)
    (hf : f.kind = .text ∧ f.required = true) : ∃ t, v = .text t := by
  have hkind := h.kind_eq.trans hf.1
  have hnull := h.isNull_eq_false hf.2
  cases v with
  | text t => exact ⟨t, rfl⟩
  | null kind => cases hnull
  | _ => cases hkind

lemma Field.Passes.normal {f : Field} {v : Value} (h : f.Passes v) : f.Passes v.normal := by
  cases h with
  | vacant optional => exact .vacant optional
  | present kind notNull plain checked =>
    refine .present (v.normal_kind.trans kind) (v.normal_isNull.trans notNull) plain.normal ?_
    have hblank : v.normal.isBlank = v.isBlank := by cases v <;> rfl
    have hrules : (fun rule : Rule => decide ¬ rule.Holds v.normal) =
        fun rule => decide ¬ rule.Holds v := by
      funext rule
      rw [decide_eq_decide, Value.holds_normal_iff]
    rw [checkValue] at checked ⊢
    rw [hblank, hrules]
    split at checked
    · cases checked
    · next hb =>
      rw [if_neg hb]
      split at checked
      · cases checked
      · rfl

/-! ### Records -/

namespace Record

/-- The record as storage keeps it. -/
def normal (record : Record) : Record where
  entries := record.entries.map fun p => (p.1, p.2.normal)
  ordered := List.pairwise_map.2 (record.ordered.imp id)

@[simp] lemma get?_normal (record : Record) (k : String) :
    record.normal.get? k = (record.get? k).map Value.normal := Entries.get?_map _ _ _

@[simp] lemma normal_normal (record : Record) : record.normal.normal = record.normal := by
  refine Dictionary.ext_get? fun k => ?_
  cases h : record.get? k <;> simp [h]

end Record

namespace Schema

variable {s : Schema}

/-- What is read is accepted like what was kept. -/
lemma Accepts.normal {record : Record} (h : s.Accepts record) : s.Accepts record.normal where
  passes f hf := by
    obtain ⟨v, hv, hp⟩ := h.passes f hf
    exact ⟨v.normal, by rw [Record.get?_normal, hv]; rfl, hp.normal⟩
  fields k v hk := by
    rw [Record.get?_normal, Option.map_eq_some_iff] at hk
    obtain ⟨w, hw, -⟩ := hk
    exact h.fields k w hw

end Schema

/-! ### Cells of a record -/

namespace Store

lemma cellsOf_normal (record : Record) (o : Outline) :
    cellsOf record.normal o = cellsOf record o := by
  simp only [cellsOf, Statement.valuesOf]
  rw [List.map_map, List.map_map]
  refine List.map_congr_left fun c _ => ?_
  have h : Cell.ofValue (Statement.valueOf record.normal c.1 c.2) =
      Cell.ofValue (Statement.valueOf record c.1 c.2) := by
    simp only [Statement.valueOf]
    rw [Record.get?_normal]
    cases record.get? c.1 with
    | none => rfl
    | some v => exact Cell.ofValue_normal v
  exact congrArg (Prod.mk c.1) h

/-- The cell of a field keeps the value of the field. -/
lemma get?_cellsOf {s : Schema} (hnd : s.fieldNames.Nodup) {record : Record} {f : Field}
    (hf : f ∈ s.fields) {v : Value} (hv : record.get? f.name = some v) :
    Entries.get? f.name (cellsOf record s.outline) = some (.ofValue v) := by
  have hnames : ((cellsOf record s.outline).map Prod.fst) = s.fieldNames := by
    simp only [cellsOf, Statement.valuesOf, Schema.outline, Schema.fieldNames, List.map_map]
    rfl
  refine Entries.get?_of_mem (hnames ▸ hnd) ?_
  rw [cellsOf, Statement.valuesOf, Schema.outline]
  rw [List.map_map, List.map_map, List.mem_map]
  refine ⟨f, hf, ?_⟩
  simp only [Function.comp, Statement.valueOf, hv, Option.getD_some]

end Store

end BookingOffice
