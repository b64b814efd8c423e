import BookingOffice.Proofs.Listing.Meaning
import BookingOffice.Proofs.Store.Cells

/-!
The order of cells.

Cells are compared by keys, one after another (`Cell.compareKeys`), and so are in a linear preorder.
Between cells that keep values of one kind it is the order of the values.

* `Cell.compare_ofValue_eq_lt`, `Cell.compare_ofValue_eq_eq`: what comparing two such cells says;
* `Condition.admits_ofValue_iff`: what a condition says about such a cell.
-/

namespace BookingOffice

/-! ### Cells -/

namespace Cell

/-- The text in a cell. -/
def string : Cell → String
  | text s => s
  | _ => ""

/-- The number of the identifier in a cell. -/
def number : Cell → Nat
  | blob u => u.value
  | _ => 0

/-- The comparison of the classes of two cells and then of what cells of a class hold. -/
def compareKeys : Cell → Cell → Ordering :=
  compareLex (compareOn classRank) (compareLex (compareOn units)
    (compareLex (compareOn string) (compareOn number)))

instance : Std.TransCmp compareKeys :=
  inferInstanceAs (Std.TransCmp (compareLex _ _))

@[simp] lemma units_null : null.units = 0 := rfl

@[simp] lemma units_text (s : String) : (text s).units = 0 := rfl

@[simp] lemma units_blob (u : Uuid) : (blob u).units = 0 := rfl

lemma precedes_iff (a b : Cell) : a.precedes b = true ↔ compareKeys a b = .lt := by
  have hstring : ∀ s t : String, Ord.compare s t = .lt ↔ s < t :=
    fun _ _ => compareOfLessAndEq_eq_lt
  have hirrefl : ¬ "" < "" := String.lt_irrefl ""
  simp only [compareKeys, compareLex, compareOn]
  simp only [Ordering.then_eq_lt, Std.compare_eq_eq_iff_eq, Nat.compare_eq_lt, Int.compare_eq_lt,
    hstring]
  cases a <;> cases b
  case blob.blob u v =>
    have hblob : (blob u).precedes (blob v) = true ↔ u.value.val < v.value.val := decide_eq_true_iff
    rw [hblob]
    simp only [classRank, units_blob, string, number, Nat.lt_irrefl, Int.lt_irrefl, hirrefl,
      true_and, false_or]
  all_goals simp [precedes, classRank, string, number]

lemma compare_eq_compareKeys : compare = compareKeys := by
  funext a b
  have hswap : compareKeys b a = (compareKeys a b).swap := Std.OrientedCmp.eq_swap
  simp only [compare, precedes_iff, hswap]
  cases compareKeys a b <;> rfl

instance : Std.TransCmp compare := compare_eq_compareKeys ▸ inferInstance

lemma compare_eq_lt_iff {a b : Cell} : a.compare b = .lt ↔ a.precedes b = true := by
  rw [compare_eq_compareKeys, precedes_iff]

lemma compare_eq_eq_iff {a b : Cell} : a.compare b = .eq ↔
    a.classRank = b.classRank ∧ a.units = b.units ∧ a.string = b.string ∧ a.number = b.number := by
  rw [compare_eq_compareKeys, compareKeys]
  simp only [compareLex_eq_eq, compareOn, Std.compare_eq_eq_iff_eq]

@[simp] lemma units_real (x : Binary64) : (real x).units = x.units := rfl

@[simp] lemma units_integer_lt (i j : Int) : (integer i).units < (integer j).units ↔ i < j :=
  Int.mul_lt_mul_right (Int.pow_pos (by decide))

@[simp] lemma units_integer_inj (i j : Int) : (integer i).units = (integer j).units ↔ i = j :=
  Int.mul_eq_mul_right_iff (Int.ne_of_gt (Int.pow_pos (by decide)))

@[simp] lemma number_inj (u v : Uuid) : (blob u).number = (blob v).number ↔ u = v := by
  cases u
  cases v
  simp [number, Fin.ext_iff]

end Cell

/-- Times of whole microseconds are told apart by these. -/
lemma Instant.micros_inj {t u : Instant} (ht : t.nanos % 1000 = 0) (hu : u.nanos % 1000 = 0) :
    t.micros = u.micros ↔ t = u := by
  constructor
  · intro h
    rw [← kept_eq_self ht, ← kept_eq_self hu]
    exact ext_nanos (congrArg (· * 1000) h)
  · exact congrArg micros

lemma Instant.micros_lt {t u : Instant} (ht : t.nanos % 1000 = 0) (hu : u.nanos % 1000 = 0) :
    t.micros < u.micros ↔ t.nanos < u.nanos := by
  have hmul : ∀ {t : Instant}, t.nanos % 1000 = 0 → t.nanos = t.micros * 1000 :=
    fun h => (congrArg nanos (kept_eq_self h)).symm
  rw [hmul ht, hmul hu]
  omega

/-- How two values of one kind can look: unless one is a null, they have the same constructor. -/
inductive Value.Alike : Value → Value → Prop
  | text (s t : String) : Alike (.text s) (.text t)
  | uuid (u v : Uuid) : Alike (.uuid u) (.uuid v)
  | integer (i j : Int) : Alike (.integer i) (.integer j)
  | real (x y : Binary64) : Alike (.real x) (.real y)
  | timestamp (t u : Instant) : Alike (.timestamp t) (.timestamp u)
  | nullLeft (w : Value) : Alike (.null w.kind) w
  | nullRight (v : Value) : Alike v (.null v.kind)

lemma Value.alike {v w : Value} (hk : v.kind = w.kind) : Alike v w := by
  cases v with
  | null kind =>
    obtain rfl : kind = w.kind := hk
    exact .nullLeft w
  | _ =>
    cases w with
    | null kind =>
      obtain rfl := hk
      exact .nullRight _
    | _ => first | constructor | cases hk

namespace Cell

variable {v w : Value}

/-- Between cells that keep values of one kind the order is that of the values. -/
lemma compare_ofValue_eq_lt (hk : v.kind = w.kind) (hv : v.IsPlain) (hw : w.IsPlain) :
    (ofValue v).compare (ofValue w) = .lt ↔ v.Lt w := by
  rw [compare_eq_lt_iff]
  cases Value.alike hk with
  | text s t => exact decide_eq_true_iff
  | uuid u u' => exact decide_eq_true_iff.trans (u.bytes_lt_iff u').symm
  | integer i j => simp [ofValue, precedes, classRank, Value.Lt]
  | real x y => simp [ofValue, precedes, classRank, Value.Lt, Binary64.units_withoutNegativeZero]
  | timestamp t u => simp [ofValue, precedes, classRank, Value.Lt, Instant.micros_lt hv hw]
  | nullLeft w => cases w <;> simp [ofValue, precedes, classRank, Value.Lt, Value.isNull]
  | nullRight v => cases v <;> simp [ofValue, precedes, classRank, Value.Lt, Value.isNull]

/-- Cells that keep values of one kind are equal in order if the values are the same. -/
lemma compare_ofValue_eq_eq (hk : v.kind = w.kind) (hv : v.IsPlain) (hw : w.IsPlain) :
    (ofValue v).compare (ofValue w) = .eq ↔ v.Same w := by
  rw [compare_eq_eq_iff]
  cases Value.alike hk with
  | text s t => simp [ofValue, classRank, string, number, Value.Same]
  | uuid u u' => simp [ofValue, classRank, string, Value.Same]
  | integer i j => simp [ofValue, classRank, string, number, Value.Same]
  | real x y =>
    simp [ofValue, classRank, string, number, Value.Same, Binary64.units_withoutNegativeZero]
  | timestamp t u =>
    simp [ofValue, classRank, string, number, Value.Same, Instant.micros_inj hv hw]
  | nullLeft w => cases w <;> simp [ofValue, classRank, Value.Same, Value.kind]
  | nullRight v => cases v <;> simp [ofValue, classRank, Value.Same, Value.kind]

/-- Between cells that keep values of one kind the order is that of the values. -/
lemma compare_ofValue_ne_gt (hk : v.kind = w.kind) (hv : v.IsPlain) (hw : w.IsPlain) :
    (ofValue v).compare (ofValue w) ≠ .gt ↔ v.Le w := by
  rw [Value.Le, ← compare_ofValue_eq_lt hk hv hw, ← compare_ofValue_eq_eq hk hv hw]
  cases (ofValue v).compare (ofValue w) <;> simp

/-- Whether values are of the same kinds, one by one, and as reading leaves them. -/
def Comparable (vs ws : List Value) : Prop :=
  List.Forall₂ (fun v w => v.kind = w.kind ∧ v.IsPlain ∧ w.IsPlain) vs ws

/-- So it is between lists of such cells. -/
lemma compareLex_ofValue_eq_lt {vs ws : List Value} (h : Comparable vs ws) :
    List.compareLex compare (vs.map ofValue) (ws.map ofValue) = .lt ↔ Value.LexLt vs ws := by
  induction h with
  | nil => simp [Value.LexLt, List.compareLex_nil_nil]
  | @cons v w vs ws hvw _ ih =>
    obtain ⟨hk, hv, hw⟩ := hvw
    rw [List.map_cons, List.map_cons, List.compareLex_cons_cons, Ordering.then_eq_lt, ih,
      compare_ofValue_eq_lt hk hv hw, compare_ofValue_eq_eq hk hv hw]
    rfl

@[simp] lemma isNull_ofValue (v : Value) : (ofValue v).isNull = v.isNull := by cases v <;> rfl

lemma equals_iff {a b : Cell} :
    a.equals b = true ↔ a.isNull = false ∧ b.isNull = false ∧ a.compare b = .eq := by
  simp [equals, and_assoc]

lemma atMost_iff {a b : Cell} :
    a.atMost b = true ↔ a.isNull = false ∧ b.isNull = false ∧ a.compare b ≠ .gt := by
  simp [atMost, and_assoc]

lemma atLeast_iff {a b : Cell} :
    a.atLeast b = true ↔ a.isNull = false ∧ b.isNull = false ∧ b.compare a ≠ .gt := by
  rw [ne_eq, Std.OrientedCmp.gt_iff_lt]
  simp [atLeast, and_assoc]

end Cell

/-- A cell fulfils a condition if the value that it keeps does. -/
theorem Condition.admits_ofValue_iff {c : Condition} {v : Value} (hc : c.Fits v.kind)
    (hv : v.IsPlain) : c.admits (.ofValue v) = true ↔ c.Holds v := by
  cases c with
  | equals w =>
    rw [admits, Cell.equals_iff, Cell.compare_ofValue_eq_eq hc.kind.symm hv hc.plain]
    simp [Holds, hc.notNull]
  | contains s =>
    have hkind : v.kind = .text := hc
    cases v with
    | text t => simp [admits, Cell.ofValue, Cell.contains, Holds, Text.occursIn_iff]
    | null kind => simp [admits, Cell.ofValue, Cell.contains, Holds]
    | _ => cases hkind
  | between low high =>
    obtain ⟨hsome, hlow, hhigh⟩ := hc
    have hlow' : ∀ w ∈ low, (Cell.ofValue v).atLeast (.ofValue w) = true ↔
        v.isNull = false ∧ w.Le v := by
      intro w hw
      have h := hlow w hw
      rw [Cell.atLeast_iff, Cell.compare_ofValue_ne_gt h.kind h.plain hv]
      simp [h.notNull]
    have hhigh' : ∀ w ∈ high, (Cell.ofValue v).atMost (.ofValue w) = true ↔
        v.isNull = false ∧ v.Le w := by
      intro w hw
      have h := hhigh w hw
      rw [Cell.atMost_iff, Cell.compare_ofValue_ne_gt h.kind.symm hv h.plain]
      simp [h.notNull]
    simp only [admits, Holds, Bool.and_eq_true]
    cases low with
    | none =>
      cases high with
      | none => simp at hsome
      | some w => simpa using hhigh' w rfl
    | some w =>
      cases high with
      | none => simpa using hlow' w rfl
      | some w' =>
        have h := hlow' w rfl
        have h' := hhigh' w' rfl
        simp only [Option.all_some, h, h', Option.mem_some_iff, forall_eq']
        tauto

end BookingOffice
