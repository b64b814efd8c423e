/-!
Dictionaries: finite maps from texts, kept in the order of their keys. The order is that of code
points, which is also the order of the UTF-8 bytes. Two dictionaries with the same values are equal
(`ext`), since the ordered list of entries is the only form that a map has.

The operations on plain lists of entries come first; they also serve types that cannot hold a proof
about their own entries.
-/

namespace BookingOffice

variable {α β : Type}

namespace Entries

/-- Puts a value under a key of an ordered list, in place of an earlier one. -/
def insert (key : String) (value : α) : List (String × α) → List (String × α)
  | [] => [(key, value)]
  | (k, v) :: rest =>
    if key < k then (key, value) :: (k, v) :: rest
    else if key = k then (key, value) :: rest
    else (k, v) :: insert key value rest

/-- The first value under a key. -/
def get? (key : String) : List (String × α) → Option α
  | [] => none
  | (k, v) :: rest => if key = k then some v else get? key rest

/-- The ordered list of a list of pairs, of which the last wins among equal keys. -/
def ofList (pairs : List (String × α)) : List (String × α) :=
  pairs.foldl (fun entries p => insert p.1 p.2 entries) []

/-- Each key is below the next ones. -/
def Ordered (entries : List (String × α)) : Prop := entries.Pairwise fun a b => a.1 < b.1

theorem key_of_mem_insert {key : String} {value : α} {entries : List (String × α)}
    {e : String × α} (h : e ∈ insert key value entries) : e.1 = key ∨ e ∈ entries := by
  induction entries with
  | nil => simp_all [insert]
  | cons p rest ih =>
    simp only [insert] at h
    split at h
    · simp only [List.mem_cons] at h ⊢; rcases h with rfl | h <;> simp_all
    · split at h
      · simp only [List.mem_cons] at h ⊢; rcases h with rfl | h <;> simp_all
      · simp only [List.mem_cons] at h ⊢
        rcases h with h | h
        · exact Or.inr (Or.inl h)
        · exact (ih h).imp id Or.inr

theorem Ordered.insert {key : String} {value : α} {entries : List (String × α)}
    (h : Ordered entries) : Ordered (insert key value entries) := by
  induction entries with
  | nil => simp [Entries.insert, Ordered]
  | cons p rest ih =>
    obtain ⟨hp, hrest⟩ := List.pairwise_cons.1 h
    simp only [Entries.insert]
    split
    · next hlt =>
      refine List.pairwise_cons.2 ⟨fun e he => ?_, h⟩
      rcases List.mem_cons.1 he with rfl | he
      · exact hlt
      · exact String.lt_trans hlt (hp e he)
    · next hlt =>
      split
      · next heq => exact List.pairwise_cons.2 ⟨fun e he => heq ▸ hp e he, hrest⟩
      · next hne =>
        refine List.pairwise_cons.2 ⟨fun e he => ?_, ih hrest⟩
        rcases key_of_mem_insert he with hk | he
        · rw [hk]
          refine Decidable.byContradiction fun hnlt => hne ?_
          exact String.le_antisymm (String.not_lt.1 hnlt) (String.not_lt.1 hlt)
        · exact hp e he

theorem ordered_ofList (pairs : List (String × α)) : Ordered (ofList pairs) := by
  have key : ∀ (ps : List (String × α)) (es : List (String × α)), Ordered es →
      Ordered (ps.foldl (fun entries p => insert p.1 p.2 entries) es) := by
    intro ps
    induction ps with
    | nil => exact fun es h => h
    | cons p ps ih => exact fun es h => ih _ h.insert
  exact key pairs [] List.Pairwise.nil

theorem get?_insert (key k : String) (value : α) (entries : List (String × α)) :
    get? k (insert key value entries) = if k = key then some value else get? k entries := by
  induction entries with
  | nil => simp only [insert, get?]
  | cons p rest ih =>
    simp only [insert]
    split
    · simp only [get?]
    · split
      · next heq => simp only [get?, heq]; split <;> rfl
      · next hne =>
        simp only [get?, ih]
        split
        · next hk => rw [if_neg fun h => hne (h.symm.trans hk)]
        · rfl

end Entries

/-- A finite map from texts. -/
structure Dictionary (α : Type) where
  /-- The entries in the order of their keys. -/
  entries : List (String × α)
  ordered : Entries.Ordered entries

namespace Dictionary

instance [DecidableEq α] : DecidableEq (Dictionary α) := fun a b =>
  if h : a.entries = b.entries then
    .isTrue (by cases a; cases b; cases h; rfl)
  else .isFalse fun e => h (e ▸ rfl)

/-- The map without entries. -/
def empty : Dictionary α := ⟨[], List.Pairwise.nil⟩

instance : Inhabited (Dictionary α) := ⟨empty⟩

/-- The value under a key. -/
def get? (d : Dictionary α) (key : String) : Option α := Entries.get? key d.entries

/-- Puts a value under a key, in place of an earlier one. -/
def insert (d : Dictionary α) (key : String) (value : α) : Dictionary α :=
  ⟨Entries.insert key value d.entries, d.ordered.insert⟩

/-- Puts a value under a key that has none. -/
def insertNew (d : Dictionary α) (key : String) (value : α) : Dictionary α :=
  if (d.get? key).isSome then d else d.insert key value

/-- The map of a list of pairs, of which the last wins among equal keys. -/
def ofList (pairs : List (String × α)) : Dictionary α :=
  ⟨Entries.ofList pairs, Entries.ordered_ofList pairs⟩

/-- Puts all values of another map over those of this one. -/
def override (d e : Dictionary α) : Dictionary α :=
  e.entries.foldl (fun d p => d.insert p.1 p.2) d

/-- Whether there is no entry. -/
def isEmpty (d : Dictionary α) : Bool := d.entries.isEmpty

/-- The number of entries. -/
def size (d : Dictionary α) : Nat := d.entries.length

/-- The keys in order. -/
def keys (d : Dictionary α) : List String := d.entries.map Prod.fst

@[simp] theorem get?_empty (k : String) : (empty : Dictionary α).get? k = none := rfl

theorem get?_insert (d : Dictionary α) (key k : String) (value : α) :
    (d.insert key value).get? k = if k = key then some value else d.get? k :=
  Entries.get?_insert key k value d.entries

theorem get?_insertNew (d : Dictionary α) (key k : String) (value : α) :
    (d.insertNew key value).get? k =
      if k = key then some ((d.get? key).getD value) else d.get? k := by
  rw [insertNew]
  split
  · next h =>
    obtain ⟨v, hv⟩ := Option.isSome_iff_exists.1 h
    split
    · next hk => rw [hk, hv]; rfl
    · rfl
  · next h =>
    rw [get?_insert, Option.not_isSome_iff_eq_none.1 h]
    rfl

end Dictionary

end BookingOffice
