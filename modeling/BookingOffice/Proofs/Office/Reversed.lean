import BookingOffice.Proofs.Office.Pages

/-!
Directions. What a query lists in descending order is what it lists in ascending order, read from
the end. All that entities are sorted by turns round with the direction, down to the identifier, in
which no two of them are equal.

* `StrictTotal.eq_of_pairwise`: a strict total order leaves one way to list things;
* `Parameters.Opposed`: what it means that parameters ask for the same in the two directions;
* `Office.IsSorted.reverse`: lists of such parameters are the reverse of each other;
* `Office.gather`: the complete listing of a query, page by page;
* `Office.Reachable.reverses`: complete listings are the reverse of each other in every state that
  is reached, whatever the size of the pages.
-/

namespace BookingOffice

/-- A strict total order leaves one way to list things. -/
lemma StrictTotal.eq_of_pairwise {α : Type} {P : α → Prop} {r : α → α → Prop} {xs ys : List α}
    (h : StrictTotal P r) (hP : ∀ a ∈ xs, P a) (hmem : ∀ a, a ∈ xs ↔ a ∈ ys)
    (hxs : xs.Pairwise r) (hys : ys.Pairwise r) : xs = ys := by
  have hnodup : ∀ {zs : List α}, (∀ a ∈ zs, P a) → zs.Pairwise r → zs.Nodup := by
    intro zs hzs hpairwise
    refine hpairwise.imp_of_mem fun ha _ hab heq => ?_
    exact h.irrefl _ (hzs _ ha) (heq ▸ hab)
  have hP' : ∀ a ∈ ys, P a := fun a ha => hP a ((hmem a).2 ha)
  have hperm : xs.Perm ys := (List.perm_ext_iff_of_nodup (hnodup hP hxs) (hnodup hP' hys)).2 hmem
  refine List.Perm.eq_of_pairwise (fun a b ha hb hab hba => ?_) hxs hys hperm
  exact absurd (h.trans a b a (hP a ha) (hP' b hb) (hP a ha) hab hba) (h.irrefl a (hP a ha))

/-- What it means that parameters ask for the same, the first ones in ascending order and the others
in descending order. -/
structure Parameters.Opposed (p q : Parameters) : Prop where
  filters : p.filters.Perm q.filters
  sortBy : p.sortBy = q.sortBy
  ascending : p.direction = .ascending
  descending : q.direction = .descending

namespace Office

variable {env : Surroundings} {office : Office} {s : Schema} {p q : Parameters}
  {all all' : List (Stored (Draft s.fields))}

/-! ### Sorted lists -/

namespace IsSorted

/-- A query is about one list only. -/
lemma unique (h : office.IsSorted env s p all) (h' : office.IsSorted env s p all')
    (htotal : StrictTotal (office.Shows env s) (Stored.Before p)) : all = all' := by
  refine htotal.eq_of_pairwise ?_ ?_ h.ordered h'.ordered
  · intro stored hstored
    exact ((h.mem_iff stored).1 hstored).1
  · intro stored
    rw [h.mem_iff, h'.mem_iff]

/-- The list in the one direction is that in the other, from its end. -/
lemma reverse (h : office.IsSorted env s p all) (hopposed : p.Opposed q) :
    office.IsSorted env s q all.reverse where
  mem_iff stored := by
    rw [List.mem_reverse, h.mem_iff]
    simp only [Parameters.Selects, hopposed.filters.mem_iff]
  ordered := by
    rw [List.pairwise_reverse]
    refine h.ordered.imp fun {stored stored'} hbefore => ?_
    rw [Stored.Before, hopposed.ascending] at hbefore
    rw [Stored.Before, hopposed.descending]
    -- what is sorted by does not depend on the direction
    simpa only [Direction.Along, Stored.sortKey, Parameters.sortKey, hopposed.sortBy] using hbefore

end IsSorted

/-! ### Complete listings -/

/-- The complete listing of a query: as many pages of one size as the first one says that there are,
one after another. -/
def gather (env : Surroundings) (office : Office) (s : Schema) (p : Parameters) (perPage : Nat) :
    Attempt Refusal (List (Stored (Draft s.fields))) := do
  let first ← (office.list env s.model (p.turned 1 perPage)).1
  let pages ← (List.range first.2.totalPages).mapM fun i =>
    (office.list env s.model (p.turned (i + 1) perPage)).1
  return pages.flatMap Prod.fst

/-- All pages together are the list that they are cut from. -/
lemma Paged.gather_eq {perPage number : Nat} {entities : Nat → List (Stored (Draft s.fields))}
    (h : office.Paged env s p perPage all number entities) (hpos : 1 ≤ perPage) :
    office.gather env s p perPage = pure all := by
  have hfirst : (office.list env s.model (p.turned 1 perPage)).1 =
      pure (entities 1, ⟨1, perPage, all.length, number⟩) :=
    h.answer 1 (Nat.le_refl 1) (by decide)
  have hpages : (List.range number).mapM
      (fun i => (office.list env s.model (p.turned (i + 1) perPage)).1) =
        pure ((List.range number).map fun i =>
          (entities (i + 1), ⟨i + 1, perPage, all.length, number⟩)) := by
    refine Traversal.mapM_eq_pure fun i hi => ?_
    exact h.answer (i + 1) (Nat.le_add_left 1 i) (h.succ_lt hpos (List.mem_range.1 hi))
  simp only [gather, hfirst, hpages, pure_bind, List.flatMap_map, h.whole]

/-- What it means that the complete listings of two queries are the reverse of each other. -/
def Reverses (env : Surroundings) (office : Office) (s : Schema) (p q : Parameters) : Prop :=
  ∃ all, office.IsSorted env s p all ∧ office.IsSorted env s q all.reverse ∧
    ∀ perPage, 1 ≤ perPage → perPage ≤ Setting.maxPerPage →
      office.gather env s p perPage = pure all ∧ office.gather env s q perPage = pure all.reverse

/-- The complete listing of a query is the list that the query is about. -/
lemma Sound.gather_eq (h : office.Sound) (hs : s ∈ Catalogue.schemas) (hp : p.Accepted s.fields)
    (hcount : office.Countable) (hall : office.IsSorted env s p all) {perPage : Nat}
    (hpos : 1 ≤ perPage) (hle : perPage ≤ Setting.maxPerPage) :
    office.gather env s p perPage = pure all := by
  obtain ⟨all', number, entities, hpaged⟩ :
      ∃ all' number entities, office.Paged env s p perPage all' number entities :=
    h.exists_paged hs hp hpos hle hcount
  rw [hpaged.gather_eq hpos, hpaged.sorted.unique hall (h.strictTotal_before hs hp)]

/-- In every state that the office gets into, the complete listing of a query in descending order is
the reverse of the one in ascending order. -/
theorem Reachable.reverses (h : Reachable env office) (hs : s ∈ Catalogue.schemas)
    {pairs pairs' : List (String × String)} (hp : Parameters.ofPairs s.fields pairs = pure p)
    (hq : Parameters.ofPairs s.fields pairs' = pure q) (hopposed : p.Opposed q)
    (hcount : office.Countable) : office.Reverses env s p q := by
  have hsound := h.sound
  have hp := Parameters.accepted_of_ofPairs hp
  have hq := Parameters.accepted_of_ofPairs hq
  obtain ⟨all, hsorted, -⟩ : ∃ all, office.IsSorted env s p all ∧ _ :=
    hsound.list_eq_page hs hp
  have hreversed : office.IsSorted env s q all.reverse := hsorted.reverse hopposed
  refine ⟨all, hsorted, hreversed, fun perPage hpos hle => ⟨?_, ?_⟩⟩
  · exact hsound.gather_eq hs hp hcount hsorted hpos hle
  · exact hsound.gather_eq hs hq hcount hreversed hpos hle

/-- Two prices of zero that were made at one time, with either sign, and a greater one that was made
before them. -/
theorem reverses_two_zeros :
    let real (negative : Bool) (rank : Fin Binary64.limit) : Binary64 := ⟨negative, rank, rank.isLt⟩
    let price (x : Binary64) : Draft Catalogue.price.fields :=
      .cons (.filled (.ofNat 0)) (.cons (.filled (.finite x)) .nil)
    let ops : List Operation := [.create Catalogue.price none (price (real false ⟨1, by decide⟩)),
      .create Catalogue.price none (price (real true ⟨0, by decide⟩)),
      .create Catalogue.price none (price (real false ⟨0, by decide⟩))]
    let office := (ofLayout .office).after .counting ops
    let pairs := [("sort_by", "price"), ("price", "0..")]
    let pairs' := [("sort_direction", "desc"), ("price", "0.."), ("sort_by", "price")]
    let filter : Filter := ⟨"price", .between (some (.real (real false ⟨0, by decide⟩))) none⟩
    let p : Parameters := { filters := [filter], sortBy := some "price" }
    let q : Parameters := { p with direction := .descending }
    let least : Cell := .real (real false ⟨0, by decide⟩)
    Reachable .counting office ∧ Catalogue.price ∈ Catalogue.schemas ∧
      Parameters.ofPairs Catalogue.price.fields pairs = pure p ∧
      Parameters.ofPairs Catalogue.price.fields pairs' = pure q ∧
      p.Opposed q ∧ office.Countable ∧
      (office.desk.store.matching "prices" p.filters).map
          (fun row => (row.cell "price" == least, row.createdAt)) =
        [(false, .integer 0), (true, .integer 1), (true, .integer 1)] ∧
      office.Reverses .counting Catalogue.price p q := by
  intro real price ops office pairs pairs' filter p q least
  have hprice : Catalogue.price ∈ Catalogue.schemas := by decide
  have hops : ∀ op ∈ ops, op.Served := by simp [ops, Operation.Served, hprice]
  have hoffice : Reachable .counting office := Reachable.start.after hops
  have hp : Parameters.ofPairs Catalogue.price.fields pairs = pure p :=
    Attempt.eq_pure_of_outcome (by decide +kernel)
  have hq : Parameters.ofPairs Catalogue.price.fields pairs' = pure q :=
    Attempt.eq_pure_of_outcome (by decide +kernel)
  have hopposed : p.Opposed q := ⟨.refl _, rfl, rfl, rfl⟩
  have hlength : ops.length ≤ Statement.maxLimit := by
    change 3 ≤ 2 ^ 63 - 1
    omega
  have hcount : office.Countable := countable_after .counting hops hlength
  exact ⟨hoffice, hprice, hp, hq, hopposed, hcount, by decide +kernel,
    Reachable.reverses hoffice hprice hp hq hopposed hcount⟩

end Office

end BookingOffice
