import BookingOffice.Office.Basic
import BookingOffice.Proofs.Listing.Judged
import BookingOffice.Proofs.Procedure.Query

/-!
Queries whose pairs come in another order. Settings under different names can be put into effect in
any order: only the filters end up in another one, and an entity must pass all of them. So a list
holds the same entities, and a query that is not accepted has errors under the same names.

* `Parameters.Alike`: parameters that differ in the order of their filters only;
* `Parameters.Alike.foldl`: settings can be put into effect in any order;
* `Office.list_eq_of_alike`: alike parameters list the same;
* `Parameters.exists_reported_iff_mem`, `Parameters.reported_iff_of_nodup`: what is reported, said
  without an order of the pairs;
* `Parameters.indifferent_of_perm`: the order of the pairs does not matter.
-/

namespace BookingOffice

namespace Parameters

/-! ### Settings in another order -/

/-- Whether parameters differ in the order of their filters only. -/
structure Alike (p q : Parameters) : Prop where
  page : p.page = q.page
  perPage : p.perPage = q.perPage
  sortBy : p.sortBy = q.sortBy
  direction : p.direction = q.direction
  filters : p.filters.Perm q.filters

namespace Alike

variable {p q r : Parameters}

lemma refl (p : Parameters) : p.Alike p := ⟨rfl, rfl, rfl, rfl, .refl _⟩

lemma trans (h : p.Alike q) (h' : q.Alike r) : p.Alike r :=
  ⟨h.page.trans h'.page, h.perPage.trans h'.perPage, h.sortBy.trans h'.sortBy,
    h.direction.trans h'.direction, h.filters.trans h'.filters⟩

lemma withSetting (h : p.Alike q) (setting : Setting) :
    (p.withSetting setting).Alike (q.withSetting setting) := by
  cases setting with
  | page n => exact { h with page := rfl }
  | perPage n => exact { h with perPage := rfl }
  | sortBy field => exact { h with sortBy := rfl }
  | direction d => exact { h with direction := rfl }
  | filter f => exact { h with filters := h.filters.append_right [f] }

/-- Two settings under different names can be put into effect in either order. -/
lemma swap (p : Parameters) {setting other : Setting} (hne : setting.givenAs ≠ other.givenAs) :
    ((p.withSetting setting).withSetting other).Alike
      ((p.withSetting other).withSetting setting) := by
  cases setting <;> cases other
  case page.page | perPage.perPage | sortBy.sortBy | direction.direction => exact absurd rfl hne
  case filter.filter f g =>
    refine ⟨rfl, rfl, rfl, rfl, ?_⟩
    simp only [Parameters.withSetting, List.append_assoc]
    exact (List.Perm.swap g f []).append_left p.filters
  all_goals exact refl _

lemma foldl_self (settings : List Setting) (h : p.Alike q) :
    (settings.foldl Parameters.withSetting p).Alike
      (settings.foldl Parameters.withSetting q) := by
  induction settings generalizing p q with
  | nil => exact h
  | cons setting settings ih => exact ih (h.withSetting setting)

/-- Settings under different names can be put into effect in any order. -/
lemma foldl {settings settings' : List Setting} (hperm : settings.Perm settings')
    (hnd : (settings.map Setting.givenAs).Nodup) (h : p.Alike q) :
    (settings.foldl Parameters.withSetting p).Alike
      (settings'.foldl Parameters.withSetting q) := by
  induction hperm generalizing p q with
  | nil => exact h
  | cons setting _ ih => exact ih (List.nodup_cons.1 hnd).2 (h.withSetting setting)
  | swap setting other settings =>
    have hne : other.givenAs ≠ setting.givenAs := fun heq =>
      (List.nodup_cons.1 hnd).1 (heq ▸ List.mem_cons_self)
    exact foldl_self settings
      ((swap p hne).trans ((h.withSetting setting).withSetting other))
  | trans hperm _ ih ih' =>
    exact (ih hnd h).trans (ih' ((hperm.map _).nodup_iff.1 hnd) (refl q))

end Alike

end Parameters

/-! ### Lists -/

/-- An entity must pass all filters, in whatever order they are. -/
lemma Store.matching_perm (st : Store) (table : String) {filters filters' : List Filter}
    (h : filters.Perm filters') : st.matching table filters = st.matching table filters' := by
  rw [matching, matching]
  exact List.filter_congr fun row _ => h.all_eq

section

variable {E : Type} {p q : Parameters}

lemma Procedure.ask_list_of_alike (m : Model E) (h : p.Alike q) (st : Store) :
    (list m p).ask st = (list m q).ask st := by
  have hcount : st.count (.matching m.schema.outline p.filters) =
      st.count (.matching m.schema.outline q.filters) := by
    simp only [Store.count, st.matching_perm _ h.filters]
  have hselect : st.select (.page m.schema.outline p) = st.select (.page m.schema.outline q) := by
    simp only [Store.select, Store.listing, Statement.pageOffset, Statement.pageLimit,
      Parameters.offset, st.matching_perm _ h.filters, h.page, h.perPage, h.sortBy, h.direction]
  have hfetch : st.fetch (.page m.schema.outline p) = st.fetch (.page m.schema.outline q) := by
    rw [Store.fetch, hselect]
    rfl
  have hinfo (total : Nat) : PageInfo.ofTotal p total = PageInfo.ofTotal q total := by
    simp only [PageInfo.ofTotal, h.page, h.perPage]
  simp only [list, Script.ask_bind, Script.ask_numberOf, Script.ask_rowsOf, hcount, hfetch, hinfo]

/-- Alike parameters list the same. -/
lemma Office.list_eq_of_alike (m : Model E) (h : p.Alike q) (env : Surroundings)
    (office : Office) : office.list env m p = office.list env m q := by
  have hrun := (Procedure.isQuery_list m p).run_eq env.identifiers office.desk
  have hrun' := (Procedure.isQuery_list m q).run_eq env.identifiers office.desk
  rw [Procedure.ask_list_of_alike m h, ← hrun'] at hrun
  simp only [list, transact, Script.transact, hrun]

end

namespace Parameters

variable {fields : List Field} {pairs pairs' : List (String × String)} {key message : String}
  {result result' : Except FieldErrors Parameters}

/-! ### Problems in another order -/

/-- A name is reported if it has several pairs or one that is not sound. -/
lemma exists_reported_iff_mem (h : (ofPairs fields pairs).outcome = some result) :
    (∃ message, Reported fields [] pairs key message) ↔
      1 < (pairs.map Prod.fst).count key ∨ ∃ text, (key, text) ∈ pairs ∧
        ∀ setting, ¬ Setting.Verdict fields key text (.ok setting) := by
  rw [exists_reported_iff h]
  constructor
  · rintro (htwice | ⟨text, hread, hno⟩)
    · exact Or.inl htwice
    · exact Or.inr ⟨text, hread.mem, hno⟩
  · rintro (htwice | ⟨text, hmem, hno⟩)
    · exact Or.inl htwice
    · by_cases htwice : 1 < (pairs.map Prod.fst).count key
      · exact Or.inl htwice
      · exact Or.inr ⟨text, isRead_of_mem (Nat.not_lt.1 htwice) hmem, hno⟩

/-- If the names are different, the messages are the faults of the pairs. -/
lemma reported_iff_of_nodup (hnd : (pairs.map Prod.fst).Nodup) :
    Reported fields [] pairs key message ↔ ∃ text fault, (key, text) ∈ pairs ∧
      Setting.Verdict fields key text (.error fault) ∧ fault.message = message := by
  have honce := List.nodup_iff_count_le_one.1 hnd key
  constructor
  · rintro (⟨old, -⟩ | ⟨isRead, verdict⟩ | ⟨-, -, twice⟩)
    · cases old
    · exact ⟨_, _, isRead.mem, verdict, rfl⟩
    · exact absurd honce (Nat.not_le.2 twice)
  · rintro ⟨text, fault, hmem, hverdict, rfl⟩
    exact .first (isRead_of_mem honce hmem) hverdict

/-- The parameters of accepted queries with the same pairs are alike. -/
lemma alike_of_perm {p p' : Parameters} (hperm : pairs.Perm pairs')
    (h : (ofPairs fields pairs).outcome = some (.ok p))
    (h' : (ofPairs fields pairs').outcome = some (.ok p')) : p.Alike p' := by
  obtain ⟨hnd, settings, hsettings, rfl⟩ := exists_settings h
  obtain ⟨-, settings', hsettings', rfl⟩ := exists_settings h'
  have hunique : Relator.RightUnique fun (pair : String × String) setting =>
      Setting.Verdict fields pair.1 pair.2 (.ok setting) :=
    fun _ _ _ hv hv' => Except.ok.inj (hv.unique hv')
  have hsame : settings.Perm settings' := List.rel_perm_imp hunique hsettings hsettings' hperm
  refine Alike.foldl hsame ?_ (.refl {})
  rwa [← Traversal.map_eq_of_forall₂ hsettings fun hv => hv.givenAs_eq.symm]

/-- What it means that queries whose pairs differ in their order come to the same. -/
structure Indifferent (fields : List Field) (pairs : List (String × String))
    (result result' : Except FieldErrors Parameters) : Prop where
  /-- One fails if the other one does. -/
  fails : (∃ errors, result = .error errors) ↔ ∃ errors, result' = .error errors
  /-- The errors are under the same names. -/
  keys : ∀ errors errors', result = .error errors → result' = .error errors' →
    ∀ key, key ∈ errors.keys ↔ key ∈ errors'.keys
  /-- They are the same if the names are different. -/
  messages : (pairs.map Prod.fst).Nodup → ∀ errors errors', result = .error errors →
    result' = .error errors' → errors = errors'
  /-- The parameters differ in the order of the filters only. -/
  parameters : ∀ p p', result = .ok p → result' = .ok p' → p.Alike p'
  /-- They list the same entities in the same order, with the same page, whatever is stored. -/
  listed : ∀ p p', result = .ok p → result' = .ok p' → ∀ {E : Type} (m : Model E)
    (env : Surroundings) (office : Office), office.list env m p = office.list env m p'

/-- **The order of the pairs of a query does not matter.** -/
theorem indifferent_of_perm (hperm : pairs.Perm pairs')
    (h : (ofPairs fields pairs).outcome = some result)
    (h' : (ofPairs fields pairs').outcome = some result') :
    Indifferent fields pairs result result' := by
  have hkeys := hperm.map Prod.fst
  have hreported (key : String) : (∃ message, Reported fields [] pairs key message) ↔
      ∃ message, Reported fields [] pairs' key message := by
    rw [exists_reported_iff_mem h, exists_reported_iff_mem h', hkeys.count_eq]
    simp only [hperm.mem_iff]
  constructor
  case fails =>
    rw [exists_eq_error_iff h, exists_eq_error_iff h']
    exact exists_congr hreported
  case keys =>
    rintro errors errors' rfl rfl key
    rw [mem_keys_iff_reported h, mem_keys_iff_reported h']
    exact hreported key
  case messages =>
    rintro hnd errors errors' rfl rfl
    refine Dictionary.ext_get? fun key => Option.ext fun message => ?_
    have hnd' := hkeys.nodup_iff.1 hnd
    rw [get?_iff_reported h, get?_iff_reported h',
      reported_iff_of_nodup hnd, reported_iff_of_nodup hnd']
    simp only [hperm.mem_iff]
  case parameters =>
    rintro p p' rfl rfl
    exact alike_of_perm hperm h h'
  case listed =>
    rintro p p' rfl rfl E m env office
    exact Office.list_eq_of_alike m (alike_of_perm hperm h h') env office

/-- The second page of the minibuses of a make, the largest ones first, asked for in two ways. -/
theorem indifferent_minibuses :
    let pairs := [("model", "Sprinter"), ("sort_by", "capacity"), ("page", "2"),
      ("sort_direction", "desc"), ("capacity", "9..")]
    let pairs' := [("page", "2"), ("capacity", "9.."), ("sort_direction", "desc"),
      ("sort_by", "capacity"), ("model", "Sprinter")]
    let model : Filter := ⟨"model", .contains "Sprinter"⟩
    let capacity : Filter := ⟨"capacity", .between (some (.integer 9)) none⟩
    let p : Parameters := ⟨[model, capacity], some "capacity", .descending, 2, 5⟩
    let p' : Parameters := { p with filters := [capacity, model] }
    pairs.Perm pairs' ∧ (ofPairs Catalogue.vehicle.fields pairs).outcome = some (.ok p) ∧
      (ofPairs Catalogue.vehicle.fields pairs').outcome = some (.ok p') ∧
      Indifferent Catalogue.vehicle.fields pairs (.ok p) (.ok p') := by
  intro pairs pairs' model capacity p p'
  have hperm : pairs.Perm pairs' := by decide
  have h : (ofPairs Catalogue.vehicle.fields pairs).outcome = some (.ok p) := by decide +kernel
  have h' : (ofPairs Catalogue.vehicle.fields pairs').outcome = some (.ok p') := by
    decide +kernel
  exact ⟨hperm, h, h', indifferent_of_perm hperm h h'⟩

end Parameters

end BookingOffice
