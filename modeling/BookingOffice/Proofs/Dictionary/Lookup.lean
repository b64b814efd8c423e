import BookingOffice.Schema.FieldErrors
import Mathlib.Tactic.Common
import Mathlib.Data.List.Nodup

/-!
Dictionaries read by their keys.

* `Dictionary.ext_get?`: a dictionary is determined by what is under its keys;
* `Dictionary.get?_ofList`: of a list of pairs the last one under a key counts;
* `Entries.map_fst_ofList_perm`: the keys are those of the pairs, if these are different;
* `FieldErrors.get?_ofList`, `FieldErrors.get?_extend`: of several messages the first one counts.
-/

namespace BookingOffice

variable {α β : Type}

namespace Entries

lemma get?_eq_none_iff {key : String} {entries : List (String × α)} :
    get? key entries = none ↔ ∀ e ∈ entries, e.1 ≠ key := by
  induction entries with
  | nil => simp [get?]
  | cons p rest ih =>
    simp only [get?, List.mem_cons, forall_eq_or_imp]
    split
    · next h => simp [h]
    · next h => rw [ih]; exact ⟨fun hr => ⟨fun e => h e.symm, hr⟩, fun hr => hr.2⟩

lemma mem_of_get? {key : String} {value : α} {entries : List (String × α)}
    (h : get? key entries = some value) : (key, value) ∈ entries := by
  induction entries with
  | nil => simp [get?] at h
  | cons p rest ih =>
    simp only [get?] at h
    split at h
    · next hk => cases h; rw [hk]; exact List.mem_cons_self
    · exact List.mem_cons_of_mem _ (ih h)

/-- Among pairs with different keys each one is found under its own key. -/
lemma get?_of_mem {key : String} {value : α} {entries : List (String × α)}
    (hnd : (entries.map Prod.fst).Nodup) (h : (key, value) ∈ entries) :
    get? key entries = some value := by
  induction entries with
  | nil => simp at h
  | cons p rest ih =>
    rw [List.map_cons, List.nodup_cons] at hnd
    rcases List.mem_cons.1 h with rfl | h
    · simp [get?]
    · have hne : key ≠ p.1 := fun he => hnd.1 (List.mem_map.2 ⟨_, h, he⟩)
      rw [get?, if_neg hne]
      exact ih hnd.2 h

/-- A function on the values acts on what is found. -/
lemma get?_map (f : α → β) (key : String) (entries : List (String × α)) :
    get? key (entries.map fun p => (p.1, f p.2)) = (get? key entries).map f := by
  induction entries with
  | nil => rfl
  | cons p rest ih =>
    simp only [List.map_cons, get?, ih]
    split <;> rfl

lemma get?_append (key : String) (as bs : List (String × α)) :
    get? key (as ++ bs) = (get? key as).or (get? key bs) := by
  induction as with
  | nil => simp [get?]
  | cons p rest ih =>
    simp only [List.cons_append, get?, ih]
    split <;> rfl

lemma get?_foldl_insert (key : String) (pairs entries : List (String × α)) :
    get? key (pairs.foldl (fun entries p => insert p.1 p.2 entries) entries) =
      (get? key pairs.reverse).or (get? key entries) := by
  induction pairs generalizing entries with
  | nil => simp [get?]
  | cons p rest ih =>
    have hinsert : get? key (insert p.1 p.2 entries) = (get? key [p]).or (get? key entries) := by
      rw [get?_insert]
      simp only [get?]
      split <;> rfl
    calc get? key ((p :: rest).foldl (fun entries p => insert p.1 p.2 entries) entries)
        = (get? key rest.reverse).or (get? key (insert p.1 p.2 entries)) := ih _
      _ = ((get? key rest.reverse).or (get? key [p])).or (get? key entries) := by
        rw [hinsert, Option.or_assoc]
      _ = (get? key (p :: rest).reverse).or (get? key entries) := by
        rw [List.reverse_cons, get?_append]

/-- The last pair under a key counts. -/
lemma get?_ofList (key : String) (pairs : List (String × α)) :
    get? key (ofList pairs) = get? key pairs.reverse := by
  rw [ofList, get?_foldl_insert]
  simp [get?]

/-- Among pairs with different keys no order counts. -/
lemma get?_reverse {key : String} {pairs : List (String × α)}
    (hnd : (pairs.map Prod.fst).Nodup) : get? key pairs.reverse = get? key pairs := by
  cases h : get? key pairs with
  | none =>
    rw [get?_eq_none_iff] at h ⊢
    intro e he
    exact h e (List.mem_reverse.1 he)
  | some value =>
    refine get?_of_mem ?_ (List.mem_reverse.2 (mem_of_get? h))
    rw [List.map_reverse]
    exact List.nodup_reverse.2 hnd

lemma Ordered.nodup {entries : List (String × α)} (h : Ordered entries) :
    (entries.map Prod.fst).Nodup := by
  rw [List.Nodup, List.pairwise_map]
  refine h.imp ?_
  intro a b hlt he
  rw [he] at hlt
  exact String.lt_irrefl _ hlt

/-- Ordered entries with the same values under all keys are the same. -/
lemma Ordered.ext {as bs : List (String × α)} (ha : Ordered as) (hb : Ordered bs)
    (h : ∀ k, get? k as = get? k bs) : as = bs := by
  have hmem : ∀ p, p ∈ as ↔ p ∈ bs := by
    intro p
    constructor
    · intro hp
      exact mem_of_get? (h p.1 ▸ get?_of_mem ha.nodup hp)
    · intro hp
      exact mem_of_get? (h p.1 ▸ get?_of_mem hb.nodup hp)
  have hperm : as.Perm bs :=
    (List.perm_ext_iff_of_nodup ha.nodup.of_map hb.nodup.of_map).2 hmem
  refine hperm.eq_of_pairwise ?_ ha hb
  intro p q _ _ hpq hqp
  exact absurd (String.lt_trans hpq hqp) (String.lt_irrefl _)

/-- A choice among the values acts on what is found. -/
lemma get?_filterMap {g : α → Option β} {entries : List (String × α)}
    (hnd : (entries.map Prod.fst).Nodup) (key : String) :
    get? key (entries.filterMap fun p => (g p.2).map (p.1, ·)) = (get? key entries).bind g := by
  induction entries with
  | nil => rfl
  | cons p rest ih =>
    rw [List.map_cons, List.nodup_cons] at hnd
    rw [List.filterMap_cons]
    cases hg : g p.2 with
    | none =>
      rw [Option.map_none]
      simp only [ih hnd.2, get?]
      split
      · next hk =>
        have hnone : get? key rest = none :=
          get?_eq_none_iff.2 fun e he h => hnd.1 (List.mem_map.2 ⟨e, he, h.trans hk⟩)
        rw [hnone, Option.bind_some, hg]
        rfl
      · rfl
    | some b =>
      rw [Option.map_some]
      simp only [get?, ih hnd.2]
      split
      · rw [Option.bind_some, hg]
      · rfl

lemma map_fst_filterMap_sublist (g : α → Option β) (entries : List (String × α)) :
    ((entries.filterMap fun p => (g p.2).map (p.1, ·)).map Prod.fst).Sublist
      (entries.map Prod.fst) := by
  induction entries with
  | nil => exact List.Sublist.slnil
  | cons p rest ih =>
    rw [List.filterMap_cons]
    cases g p.2 with
    | none => exact ih.cons _
    | some b => exact ih.cons_cons _

/-- The keys are those that something is under. -/
lemma mem_map_fst_iff {key : String} {entries : List (String × α)} :
    key ∈ entries.map Prod.fst ↔ ∃ value, get? key entries = some value := by
  rw [← Option.ne_none_iff_exists', Ne, get?_eq_none_iff]
  simp

/-- Pairs with different keys keep their keys when they are put in order. -/
lemma map_fst_ofList_perm {pairs : List (String × α)} (hnd : (pairs.map Prod.fst).Nodup) :
    ((ofList pairs).map Prod.fst).Perm (pairs.map Prod.fst) := by
  refine (List.perm_ext_iff_of_nodup (ordered_ofList pairs).nodup hnd).2 fun key => ?_
  rw [mem_map_fst_iff, mem_map_fst_iff, get?_ofList, get?_reverse hnd]

/-- Of chosen keys nothing but the values is left. -/
lemma get?_filter_key (p : String → Bool) (key : String) (entries : List (String × α)) :
    get? key (entries.filter fun e => p e.1) = if p key then get? key entries else none := by
  induction entries with
  | nil => simp [get?]
  | cons e rest ih =>
    rw [List.filter_cons]
    by_cases hk : key = e.1
    · subst hk
      by_cases hp : p e.1 = true
      · simp [hp, get?]
      · simp [hp, ih]
    · by_cases hp : p e.1 = true
      · simp [hp, get?, hk, ih]
      · simp [hp, get?, hk, ih]

end Entries

namespace Dictionary

/-- A dictionary is determined by what is under its keys. -/
lemma ext_get? {d e : Dictionary α} (h : ∀ k, d.get? k = e.get? k) : d = e := by
  have := Entries.Ordered.ext d.ordered e.ordered h
  cases d
  cases e
  cases this
  rfl

lemma mem_entries_iff {d : Dictionary α} {k : String} {v : α} :
    (k, v) ∈ d.entries ↔ d.get? k = some v :=
  ⟨Entries.get?_of_mem d.ordered.nodup, Entries.mem_of_get?⟩

/-- The last pair under a key counts. -/
lemma get?_ofList (pairs : List (String × α)) (k : String) :
    (ofList pairs).get? k = Entries.get? k pairs.reverse := Entries.get?_ofList k pairs

lemma get?_ofList_of_nodup {pairs : List (String × α)} (h : (pairs.map Prod.fst).Nodup)
    (k : String) : (ofList pairs).get? k = Entries.get? k pairs := by
  rw [get?_ofList, Entries.get?_reverse h]

lemma isEmpty_iff {d : Dictionary α} : d.isEmpty = true ↔ ∀ k, d.get? k = none := by
  rw [isEmpty, List.isEmpty_iff]
  constructor
  · intro h k
    rw [get?, h]
    rfl
  · intro h
    by_contra hne
    obtain ⟨p, hp⟩ := List.exists_mem_of_ne_nil _ hne
    rw [show p = (p.1, p.2) from rfl, mem_entries_iff, h] at hp
    cases hp

end Dictionary

namespace FieldErrors

lemma get?_foldl_add (errors : FieldErrors) (pairs : List (String × String)) (k : String) :
    (pairs.foldl (fun errors p => errors.add p.1 p.2) errors).get? k =
      (errors.get? k).or (Entries.get? k pairs) := by
  induction pairs generalizing errors with
  | nil => simp [Entries.get?]
  | cons p rest ih =>
    rw [List.foldl_cons, ih, get?_add]
    simp only [Entries.get?]
    split
    · next h => rw [h]; cases errors.get? p.1 <;> rfl
    · rfl

/-- The first message for a field counts. -/
lemma get?_ofList (pairs : List (String × String)) (k : String) :
    (ofList pairs).get? k = Entries.get? k pairs := by
  rw [ofList, get?_foldl_add]
  simp

lemma get?_extend (errors others : FieldErrors) (k : String) :
    (errors.extend others).get? k = (errors.get? k).or (others.get? k) :=
  get?_foldl_add errors others.entries k

lemma get?_single (field message k : String) :
    (single field message).get? k = if k = field then some message else none := by
  rw [single, get?_add]
  simp

lemma orResult_eq_ok_iff {errors : FieldErrors} {v w : α} :
    errors.orResult v = .ok w ↔ (∀ k, errors.get? k = none) ∧ v = w := by
  rw [orResult, ← Dictionary.isEmpty_iff]
  split
  · next h => simp [h]
  · next h => simp [h]

lemma eq_of_orResult_eq_error {errors others : FieldErrors} {v : α}
    (h : errors.orResult v = .error others) : errors = others := by
  rw [orResult] at h
  split at h
  · cases h
  · exact Except.error.inj h

/-- Errors that are reported are not empty. -/
lemma isEmpty_of_orResult_eq_error {errors others : FieldErrors} {v : α}
    (h : errors.orResult v = .error others) : others.isEmpty = false := by
  rw [orResult] at h
  split at h
  · cases h
  · next hempty => exact Except.error.inj h ▸ Bool.eq_false_iff.2 hempty

end FieldErrors

end BookingOffice
