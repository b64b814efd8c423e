import BookingOffice.Proofs.Listing.Accepted

/-!
What filters and orders mean, told by values and not by cells: numbers by their size, times by their
succession, texts by code points and identifiers by their bytes.

* `Value.Lt`, `Value.Same`: the order of the values of one kind;
* `Condition.Holds`: what a condition says about a value;
* `Parameters.Selects`, `Parameters.sortKey`: what parameters say about entities;
* `StrictTotal`: strict total orders, and where they come from;
* `Uuid.bytes_lt_iff`: the order of bytes is that of numbers.
-/

namespace BookingOffice

/-! ### Identifiers -/

namespace Uuid

/-- The last `k` bytes of a number, the first of them the most significant. -/
def bytesOf : Nat → Nat → List Nat
  | 0, _ => []
  | k + 1, n => n / 256 ^ k % 256 :: bytesOf k n

/-- The sixteen bytes of an identifier. -/
def bytes (u : Uuid) : List Nat := bytesOf 16 u.value

lemma bytesOf_lt_iff (k n m : Nat) : bytesOf k n < bytesOf k m ↔ n % 256 ^ k < m % 256 ^ k := by
  induction k with
  | zero => simp [bytesOf, Nat.mod_one]
  | succ k ih =>
    rw [bytesOf, bytesOf, List.cons_lt_cons_iff, ih, Nat.mod_pow_succ, Nat.mod_pow_succ]
    have hn : n % 256 ^ k < 256 ^ k := Nat.mod_lt _ (Nat.pow_pos (by decide))
    have hm : m % 256 ^ k < 256 ^ k := Nat.mod_lt _ (Nat.pow_pos (by decide))
    generalize n / 256 ^ k % 256 = a
    generalize m / 256 ^ k % 256 = b
    rcases Nat.lt_trichotomy a b with hab | rfl | hab
    · have := Nat.mul_le_mul_left (256 ^ k) (Nat.succ_le_of_lt hab)
      rw [Nat.mul_succ] at this
      omega
    · omega
    · have := Nat.mul_le_mul_left (256 ^ k) (Nat.succ_le_of_lt hab)
      rw [Nat.mul_succ] at this
      omega

/-- The order of bytes is that of numbers. -/
theorem bytes_lt_iff (u v : Uuid) : u.bytes < v.bytes ↔ u.value < v.value := by
  have hu : u.value.val < 256 ^ 16 := u.value.isLt
  have hv : v.value.val < 256 ^ 16 := v.value.isLt
  calc u.bytes < v.bytes
      ↔ u.value.val % 256 ^ 16 < v.value.val % 256 ^ 16 := bytesOf_lt_iff 16 _ _
    _ ↔ u.value < v.value := by rw [Nat.mod_eq_of_lt hu, Nat.mod_eq_of_lt hv, Fin.lt_def]

end Uuid

/-! ### Values -/

namespace Value

/-- Whether a value is less than another one of its kind. A null is less than all other values. -/
def Lt : Value → Value → Prop
  | text s, text t => s < t
  | uuid u, uuid v => u.bytes < v.bytes
  | integer i, integer j => i < j
  | real x, real y => x.units < y.units
  | timestamp t, timestamp u => t.nanos < u.nanos
  | null _, w => w.isNull = false
  | _, _ => False

/-- Whether values are the same, reals as numbers: the two zeros are. -/
def Same : Value → Value → Prop
  | real x, real y => x.units = y.units
  | v, w => v = w

/-- Whether a value is at most another one. -/
def Le (v w : Value) : Prop := v.Lt w ∨ v.Same w

/-- Whether values come before others in the order of the first that differ. -/
def LexLt : List Value → List Value → Prop
  | v :: vs, w :: ws => v.Lt w ∨ v.Same w ∧ LexLt vs ws
  | _, _ => False

end Value

/-! ### Parameters -/

/-- What a condition says about a value. A null fulfils none. -/
def Condition.Holds : Condition → Value → Prop
  | equals w, v => v.isNull = false ∧ v.Same w
  | contains s, v => ∃ t, v = .text t ∧ s.toList <:+: t.toList
  | between low high, v => v.isNull = false ∧ (∀ w ∈ low, w.Le v) ∧ ∀ w ∈ high, v.Le w

namespace Parameters

/-- Whether an entity with given values of fields passes the filters. -/
def Selects (p : Parameters) (value? : String → Option Value) : Prop :=
  ∀ filter ∈ p.filters, ∃ v, value? filter.field = some v ∧ filter.condition.Holds v

/-- What an entity is sorted by: the value of the chosen field, if there is one, the time of its
creation and its identifier. -/
def sortKey (p : Parameters) (value? : String → Option Value) (createdAt : Instant) (uuid : Uuid) :
    List Value :=
  (p.sortBy.bind value?).toList ++ [.timestamp createdAt, .uuid uuid]

end Parameters

/-- A relation, or the converse one for the descending direction. -/
def Direction.Along {α : Type} (r : α → α → Prop) : Direction → α → α → Prop
  | ascending, a, b => r a b
  | descending, a, b => r b a

/-! ### Strict orders -/

/-- Whether a relation is a strict total order of what has a property. -/
structure StrictTotal {α : Type} (P : α → Prop) (r : α → α → Prop) : Prop where
  irrefl : ∀ a, P a → ¬ r a a
  trans : ∀ a b c, P a → P b → P c → r a b → r b c → r a c
  trichotomous : ∀ a b, P a → P b → r a b ∨ a = b ∨ r b a

namespace StrictTotal

variable {α β : Type} {P : α → Prop} {r : α → α → Prop}

/-- A comparison of keys is a strict total order of what has different keys. -/
lemma of_compare (cmp : β → β → Ordering) [Std.TransCmp cmp] (key : α → β)
    (hlt : ∀ a b, P a → P b → (r a b ↔ cmp (key a) (key b) = .lt))
    (heq : ∀ a b, P a → P b → cmp (key a) (key b) = .eq → a = b) : StrictTotal P r where
  irrefl a ha h := by
    have hself : cmp (key a) (key a) = .eq := Std.ReflCmp.compare_self
    rw [(hlt a a ha ha).1 h] at hself
    cases hself
  trans a b c ha hb hc hab hbc :=
    (hlt a c ha hc).2 (Std.TransCmp.lt_trans ((hlt a b ha hb).1 hab) ((hlt b c hb hc).1 hbc))
  trichotomous a b ha hb := by
    cases h : cmp (key a) (key b) with
    | lt => exact Or.inl ((hlt a b ha hb).2 h)
    | eq => exact Or.inr (Or.inl (heq a b ha hb h))
    | gt => exact Or.inr (Or.inr ((hlt b a hb ha).2 (Std.OrientedCmp.gt_iff_lt.1 h)))

/-- What is told apart as things in a strict total order are is in such an order itself. -/
lemma transfer (h : StrictTotal P r) {Q : β → Prop} {q : β → β → Prop} (R : α → β → Prop)
    (hQ : ∀ b, Q b → ∃ a, P a ∧ R a b) (hq : ∀ {a a' b b'}, R a b → R a' b' → (r a a' ↔ q b b'))
    (hunique : ∀ {a b b'}, R a b → R a b' → b = b') : StrictTotal Q q where
  irrefl b hb hbb := by
    obtain ⟨a, ha, hab⟩ := hQ b hb
    exact h.irrefl a ha ((hq hab hab).2 hbb)
  trans b c d hb hc hd hbc hcd := by
    obtain ⟨a, ha, hab⟩ := hQ b hb
    obtain ⟨a', ha', hac⟩ := hQ c hc
    obtain ⟨a'', ha'', had⟩ := hQ d hd
    exact (hq hab had).1 (h.trans a a' a'' ha ha' ha'' ((hq hab hac).2 hbc) ((hq hac had).2 hcd))
  trichotomous b c hb hc := by
    obtain ⟨a, ha, hab⟩ := hQ b hb
    obtain ⟨a', ha', hac⟩ := hQ c hc
    rcases h.trichotomous a a' ha ha' with hlt | rfl | hgt
    · exact Or.inl ((hq hab hac).1 hlt)
    · exact Or.inr (Or.inl (hunique hab hac))
    · exact Or.inr (Or.inr ((hq hac hab).1 hgt))

lemma along (h : StrictTotal P r) (d : Direction) : StrictTotal P (d.Along r) := by
  cases d with
  | ascending => exact h
  | descending =>
    refine ⟨h.irrefl, fun a b c ha hb hc hab hbc => h.trans c b a hc hb ha hbc hab, ?_⟩
    intro a b ha hb
    rcases h.trichotomous a b ha hb with hab | rfl | hba
    · exact Or.inr (Or.inr hab)
    · exact Or.inr (Or.inl rfl)
    · exact Or.inl hba

end StrictTotal

end BookingOffice
