import BookingOffice.Proofs.Listing.Strays

/-!
What a query comes to. It is accepted if its names are different and the verdicts on its pairs are
sound. If it is not, each name is reported with its first problem, which is the fault of its first
pair, or else that there is another one.

* `Parameters.Reported`, `Parameters.get?_errors_iff`: which messages there are;
* `Parameters.SetBy`: what the parameters of an accepted query are;
* `Parameters.judges_of_ofPairs`: queries are judged exactly, and nothing is left out.
-/

namespace BookingOffice

namespace Parameters

variable {fields : List Field} {seen : List String} {pairs : List (String × String)}
  {key text message : String}

/-! ### Problems -/

namespace Findings

variable {found : Findings}

lemma get?_errors_cons_error (name : String) (fault : Setting.Fault) :
    (errors ((name, .error fault) :: found)).get? key =
      if key = name then some fault.message else found.errors.get? key := by
  simp only [errors, FieldErrors.get?_ofList]
  rfl

lemma errors_cons_ok (name : String) (setting : Setting) :
    errors ((name, .ok setting) :: found) = found.errors := rfl

end Findings

/-- The messages for a name: that of the first pair, if it has a fault, or else that there is
another pair. A name that has been seen before has only pairs of the latter sort. -/
inductive Reported (fields : List Field) (seen : List String) (pairs : List (String × String))
    (key : String) : String → Prop
  | again (old : key ∈ seen) (mem : key ∈ pairs.map Prod.fst) :
    Reported fields seen pairs key Setting.Fault.repeated.message
  | first {text : String} {fault : Setting.Fault} (isRead : IsRead seen pairs key text)
    (verdict : Setting.Verdict fields key text (.error fault)) :
    Reported fields seen pairs key fault.message
  | other {text : String} {setting : Setting} (isRead : IsRead seen pairs key text)
    (verdict : Setting.Verdict fields key text (.ok setting))
    (twice : 1 < (pairs.map Prod.fst).count key) :
    Reported fields seen pairs key Setting.Fault.repeated.message

/-- The pairs of a query that are read have a verdict. -/
lemma exists_verdict {found : Findings} (h : findings fields seen pairs = some found)
    (hread : IsRead seen pairs key text) : ∃ r, Setting.Verdict fields key text r := by
  cases hr : (Setting.read fields key text).outcome with
  | some r => exact ⟨r, Setting.outcome_read_iff.1 hr⟩
  | none =>
    cases (findings_eq_none_iff.2 ⟨key, text, hread, hr⟩).symm.trans h

/-- Every name with a pair has a first one. -/
lemma exists_isRead (hkey : key ∉ seen) (hmem : key ∈ pairs.map Prod.fst) :
    ∃ text, IsRead seen pairs key text := by
  induction pairs generalizing seen with
  | nil => cases hmem
  | cons pair pairs ih =>
    simp only [isRead_cons]
    by_cases hfirst : key = pair.1
    · exact ⟨pair.2, Or.inl ⟨by rw [hfirst], hkey⟩⟩
    · obtain ⟨text, htext⟩ := ih (List.not_mem_cons_of_ne_of_not_mem hfirst hkey)
        ((List.mem_cons.1 hmem).resolve_left hfirst)
      exact ⟨text, Or.inr htext⟩

/-- The only pair of a name is the first one. -/
lemma isRead_of_mem (honce : (pairs.map Prod.fst).count key ≤ 1) (hmem : (key, text) ∈ pairs) :
    IsRead [] pairs key text := by
  obtain ⟨before, after, rfl⟩ := List.append_of_mem hmem
  refine ⟨before, after, rfl, List.not_mem_nil, fun hbefore => ?_⟩
  rw [List.map_append, List.map_cons, List.count_append, List.count_cons_self] at honce
  have hpos := List.count_pos_iff.2 hbefore
  omega

lemma IsRead.mem (h : IsRead seen pairs key text) : (key, text) ∈ pairs := by
  obtain ⟨before, after, rfl, -, -⟩ := h
  exact List.mem_append_right _ List.mem_cons_self

lemma isRead_cons_of_ne {pair : String × String} (hne : key ≠ pair.1) :
    IsRead seen (pair :: pairs) key text ↔ IsRead seen pairs key text := by
  rw [isRead_cons, or_iff_right (fun h => hne (congrArg Prod.fst h.1).symm)]
  simp only [IsRead, List.mem_cons, hne, false_or]

lemma isRead_cons_self {text' : String} (hnew : key ∉ seen) :
    IsRead seen ((key, text) :: pairs) key text' ↔ text = text' := by
  have hrest : ¬ IsRead (key :: seen) pairs key text' := fun ⟨_, _, _, hkey, _⟩ =>
    hkey List.mem_cons_self
  rw [isRead_cons, or_iff_left hrest, and_iff_left hnew, Prod.mk.injEq, and_iff_right rfl]

namespace Reported

lemma not_nil : ¬ Reported fields seen [] key message := by
  rintro (⟨-, mem⟩ | ⟨⟨before, after, hnil, -⟩, -⟩ | ⟨-, -, twice⟩)
  · cases mem
  · cases before <;> cases hnil
  · cases twice

/-- What has been seen counts only as far as the name goes. -/
lemma congr_seen {seen' : List String} (hseen : key ∈ seen ↔ key ∈ seen') :
    Reported fields seen pairs key message → Reported fields seen' pairs key message := by
  have hread {text : String} (h : IsRead seen pairs key text) : IsRead seen' pairs key text := by
    rwa [IsRead, ← hseen]
  rintro (⟨old, mem⟩ | ⟨isRead, verdict⟩ | ⟨isRead, verdict, twice⟩)
  · exact .again (hseen.1 old) mem
  · exact .first (hread isRead) verdict
  · exact .other (hread isRead) verdict twice

lemma cons_iff_of_ne {pair : String × String} (hne : key ≠ pair.1) :
    Reported fields seen (pair :: pairs) key message ↔ Reported fields seen pairs key message := by
  have hmem : key ∈ (pair :: pairs).map Prod.fst ↔ key ∈ pairs.map Prod.fst := by
    rw [List.map_cons, List.mem_cons, or_iff_right hne]
  have hcount : ((pair :: pairs).map Prod.fst).count key = (pairs.map Prod.fst).count key := by
    rw [List.map_cons, List.count_cons_of_ne hne.symm]
  constructor
  · rintro (⟨old, mem⟩ | ⟨isRead, verdict⟩ | ⟨isRead, verdict, twice⟩)
    · exact .again old (hmem.1 mem)
    · exact .first ((isRead_cons_of_ne hne).1 isRead) verdict
    · exact .other ((isRead_cons_of_ne hne).1 isRead) verdict (hcount ▸ twice)
  · rintro (⟨old, mem⟩ | ⟨isRead, verdict⟩ | ⟨isRead, verdict, twice⟩)
    · exact .again old (hmem.2 mem)
    · exact .first ((isRead_cons_of_ne hne).2 isRead) verdict
    · exact .other ((isRead_cons_of_ne hne).2 isRead) verdict (hcount.symm ▸ twice)

lemma cons_iff_of_mem (old : key ∈ seen) :
    Reported fields seen ((key, text) :: pairs) key message ↔
      message = Setting.Fault.repeated.message := by
  constructor
  · rintro (- | ⟨⟨_, _, _, hnew, -⟩, -⟩ | ⟨⟨_, _, _, hnew, -⟩, -, -⟩)
    · rfl
    · exact absurd old hnew
    · exact absurd old hnew
  · rintro rfl
    exact .again old List.mem_cons_self

lemma cons_iff_of_fault {fault : Setting.Fault} (hnew : key ∉ seen)
    (verdict : Setting.Verdict fields key text (.error fault)) :
    Reported fields seen ((key, text) :: pairs) key message ↔ message = fault.message := by
  constructor
  · rintro (⟨old, -⟩ | ⟨isRead, verdict'⟩ | ⟨isRead, verdict', -⟩)
    · exact absurd old hnew
    · obtain rfl := (isRead_cons_self hnew).1 isRead
      cases verdict.unique verdict'
      rfl
    · obtain rfl := (isRead_cons_self hnew).1 isRead
      cases verdict.unique verdict'
  · rintro rfl
    exact .first ((isRead_cons_self hnew).2 rfl) verdict

/-- After a sound pair, another one of its name is a problem. -/
lemma cons_iff_of_sound {setting : Setting} (hnew : key ∉ seen)
    (verdict : Setting.Verdict fields key text (.ok setting)) :
    Reported fields seen ((key, text) :: pairs) key message ↔
      Reported fields (key :: seen) pairs key message := by
  have hcount : 1 < (((key, text) :: pairs).map Prod.fst).count key ↔ key ∈ pairs.map Prod.fst := by
    rw [List.map_cons, List.count_cons_self, Nat.lt_add_left_iff_pos, List.count_pos_iff]
  constructor
  · rintro (⟨old, -⟩ | ⟨isRead, verdict'⟩ | ⟨isRead, verdict', twice⟩)
    · exact absurd old hnew
    · obtain rfl := (isRead_cons_self hnew).1 isRead
      cases verdict.unique verdict'
    · exact .again List.mem_cons_self (hcount.1 twice)
  · rintro (⟨-, mem⟩ | ⟨⟨_, _, _, hnew, -⟩, -⟩ | ⟨⟨_, _, _, hnew, -⟩, -, -⟩)
    · exact .other ((isRead_cons_self hnew).2 rfl) verdict (hcount.2 mem)
    · exact absurd List.mem_cons_self hnew
    · exact absurd List.mem_cons_self hnew

end Reported

/-- There is a message for each name with a problem, which is its first one. -/
theorem get?_errors_iff {found : Findings} (h : findings fields seen pairs = some found) :
    found.errors.get? key = some message ↔ Reported fields seen pairs key message := by
  induction pairs generalizing seen found with
  | nil =>
    obtain rfl := Option.some.inj h
    exact iff_of_false nofun Reported.not_nil
  | cons pair pairs ih =>
    obtain ⟨name, text⟩ := pair
    rw [findings] at h
    split at h
    · next hseen =>
      obtain ⟨others, hothers, h⟩ := Option.bind_eq_some_iff.1 h
      obtain rfl := Option.some.inj h
      rw [Findings.get?_errors_cons_error]
      split
      · next hname =>
        subst hname
        rw [Reported.cons_iff_of_mem hseen, Option.some.injEq, eq_comm]
      · next hne => rw [Reported.cons_iff_of_ne hne, ih hothers]
    · next hnew =>
      obtain ⟨finding, hfinding, h⟩ := Option.bind_eq_some_iff.1 h
      obtain ⟨others, hothers, h⟩ := Option.bind_eq_some_iff.1 h
      obtain rfl := Option.some.inj h
      have hverdict := Setting.outcome_read_iff.1 hfinding
      have hother (hne : key ≠ name) : others.errors.get? key = some message ↔
          Reported fields seen ((name, text) :: pairs) key message := by
        have hseen : key ∈ name :: seen ↔ key ∈ seen := by rw [List.mem_cons, or_iff_right hne]
        rw [ih hothers, Reported.cons_iff_of_ne hne]
        exact ⟨Reported.congr_seen hseen, Reported.congr_seen hseen.symm⟩
      cases finding with
      | error fault =>
        rw [Findings.get?_errors_cons_error]
        split
        · next hname =>
          subst hname
          rw [Reported.cons_iff_of_fault hnew hverdict, Option.some.injEq, eq_comm]
        · next hne => exact hother hne
      | ok setting =>
        rw [Findings.errors_cons_ok]
        by_cases hname : key = name
        · subst hname
          rw [Reported.cons_iff_of_sound hnew hverdict, ih hothers]
        · exact hother hname

/-! ### Parameters -/

/-- Whether parameters are as a setting says. -/
def Follows (p : Parameters) : Setting → Prop
  | .page n => p.page = n
  | .perPage n => p.perPage = n
  | .sortBy field => p.sortBy = some field
  | .direction d => p.direction = d
  | .filter f => f ∈ p.filters

/-- A setting that is given under another name changes nothing about it. -/
lemma Follows.withSetting {p : Parameters} {setting other : Setting} (h : p.Follows setting)
    (hne : setting.givenAs ≠ other.givenAs) : (p.withSetting other).Follows setting := by
  cases setting with
  | page n =>
    cases other with
    | page m => exact absurd rfl hne
    | _ => exact h
  | perPage n =>
    cases other with
    | perPage m => exact absurd rfl hne
    | _ => exact h
  | sortBy field =>
    cases other with
    | sortBy field' => exact absurd rfl hne
    | _ => exact h
  | direction d =>
    cases other with
    | direction d' => exact absurd rfl hne
    | _ => exact h
  | filter f =>
    cases other with
    | filter f' => exact List.mem_append_left _ h
    | _ => exact h

lemma follows_withSetting (p : Parameters) (setting : Setting) :
    (p.withSetting setting).Follows setting := by
  cases setting with
  | filter f => exact List.mem_append_right _ List.mem_cons_self
  | _ => rfl

/-- Whether a filter is what a pair of a query asks for. -/
def Asks (fields : List Field) (pair : String × String) (filter : Filter) : Prop :=
  pair.1 = filter.field ∧ ∃ f, Setting.filterable? fields filter.field = some f ∧
    Condition.Spelled f.kind (f.filter.getD .exact) pair.2 filter.condition ∧
      filter.condition.Fits f.kind

/-- Whether parameters are what the pairs of a query set. -/
structure SetBy (fields : List Field) (pairs : List (String × String)) (p : Parameters) : Prop where
  /-- What a pair sets is in effect. -/
  follows : ∀ key text, (key, text) ∈ pairs →
    ∃ setting, Setting.Verdict fields key text (.ok setting) ∧ p.Follows setting
  /-- Controls that are not given have their defaults. -/
  noPage : "page" ∉ pairs.map Prod.fst → p.page = 1
  noPerPage : "per_page" ∉ pairs.map Prod.fst → p.perPage = 5
  noSortBy : "sort_by" ∉ pairs.map Prod.fst → p.sortBy = none
  noDirection : "sort_direction" ∉ pairs.map Prod.fst → p.direction = .ascending
  /-- There is one filter for each pair that is no control, in their order. -/
  filters : List.Forall₂ (Asks fields) (pairs.filter fun pair => pair.1 ∉ Setting.controls)
    p.filters

namespace SetBy

lemma nil : SetBy fields [] {} where
  follows := fun _ _ hmem => nomatch hmem
  noPage := fun _ => rfl
  noPerPage := fun _ => rfl
  noSortBy := fun _ => rfl
  noDirection := fun _ => rfl
  filters := .nil

/-- What one more pair sets, under a name that is new, is put into effect. -/
lemma concat {p : Parameters} (h : SetBy fields pairs p) {setting : Setting}
    (hnew : key ∉ pairs.map Prod.fst) (hv : Setting.Verdict fields key text (.ok setting)) :
    SetBy fields (pairs ++ [(key, text)]) (p.withSetting setting) := by
  have habsent {name : String} (hname : name ∉ (pairs ++ [(key, text)]).map Prod.fst) :
      name ∉ pairs.map Prod.fst ∧ name ≠ setting.givenAs := by
    rw [List.map_append, List.mem_append, not_or] at hname
    rw [hv.givenAs_eq]
    exact ⟨hname.1, fun hkey => hname.2 (List.mem_singleton.2 hkey)⟩
  constructor
  case follows =>
    intro key' text' hmem
    rcases List.mem_append.1 hmem with hold | hlast
    · obtain ⟨other, hother, hfollows⟩ := h.follows key' text' hold
      refine ⟨other, hother, hfollows.withSetting ?_⟩
      rw [hother.givenAs_eq, hv.givenAs_eq]
      rintro rfl
      exact hnew (List.mem_map_of_mem hold)
    · obtain ⟨rfl, rfl⟩ := Prod.mk.inj (List.mem_singleton.1 hlast)
      exact ⟨setting, hv, p.follows_withSetting setting⟩
  case noPage =>
    intro hname
    obtain ⟨hname, hne⟩ := habsent hname
    cases setting with
    | page n => exact absurd rfl hne
    | _ => exact h.noPage hname
  case noPerPage =>
    intro hname
    obtain ⟨hname, hne⟩ := habsent hname
    cases setting with
    | perPage n => exact absurd rfl hne
    | _ => exact h.noPerPage hname
  case noSortBy =>
    intro hname
    obtain ⟨hname, hne⟩ := habsent hname
    cases setting with
    | sortBy field => exact absurd rfl hne
    | _ => exact h.noSortBy hname
  case noDirection =>
    intro hname
    obtain ⟨hname, hne⟩ := habsent hname
    cases setting with
    | direction d => exact absurd rfl hne
    | _ => exact h.noDirection hname
  case filters =>
    have hcontrol (hkey : key ∈ Setting.controls) :
        (pairs ++ [(key, text)]).filter (fun pair => pair.1 ∉ Setting.controls) =
          pairs.filter fun pair => pair.1 ∉ Setting.controls := by
      rw [List.filter_append, List.filter_cons_of_neg (by simpa using hkey), List.filter_nil,
        List.append_nil]
    cases hv with
    | filter control found spelled =>
      rw [List.filter_append, List.filter_cons_of_pos (by simpa using control), List.filter_nil]
      exact List.rel_append h.filters (.cons ⟨rfl, _, found, spelled, spelled.fits⟩ .nil)
    | _ =>
      rw [hcontrol (by decide)]
      exact h.filters

/-- The pairs of a query, read one after another, set what they say. -/
lemma foldl {p : Parameters} {done : List (String × String)} (h : SetBy fields done p)
    {settings : List Setting} (hnd : ((done ++ pairs).map Prod.fst).Nodup)
    (hpairs : List.Forall₂ (fun pair setting => Setting.Verdict fields pair.1 pair.2 (.ok setting))
      pairs settings) : SetBy fields (done ++ pairs) (settings.foldl withSetting p) := by
  induction hpairs generalizing done p with
  | nil =>
    rw [List.append_nil]
    exact h
  | @cons pair setting pairs settings hv _ ih =>
    rw [List.append_cons] at hnd ⊢
    refine ih (h.concat ?_ hv) hnd
    rw [List.map_append, List.map_append, List.append_assoc] at hnd
    exact fun hmem => List.disjoint_of_nodup_append hnd hmem List.mem_cons_self

/-- Filters are on different fields. -/
lemma nodup_fields {p : Parameters} (h : SetBy fields pairs p) (hnd : (pairs.map Prod.fst).Nodup) :
    (p.filters.map (·.field)).Nodup := by
  rw [← Traversal.map_eq_of_forall₂ h.filters fun hask => hask.1]
  exact hnd.sublist ((List.filter_sublist).map Prod.fst)

end SetBy

/-! ### Queries -/

/-- What it means that a query is judged exactly. -/
structure Judges (fields : List Field) (pairs : List (String × String))
    (result : Except FieldErrors Parameters) : Prop where
  /-- A query is accepted if its names are different and each pair is sound by itself. -/
  accepted : (∃ p, result = .ok p) ↔ (pairs.map Prod.fst).Nodup ∧
    ∀ key text, (key, text) ∈ pairs → ∃ setting, Setting.Verdict fields key text (.ok setting)
  /-- The parameters of an accepted query are what its pairs set. -/
  parameters : ∀ p, result = .ok p → p.SetBy fields pairs
  /-- There is a page that they ask for. -/
  page : ∀ p, result = .ok p → 1 ≤ p.page ∧ 1 ≤ p.perPage ∧ p.perPage ≤ Setting.maxPerPage
  /-- Their filters are on different fields. -/
  distinct : ∀ p, result = .ok p → (p.filters.map (·.field)).Nodup
  /-- The errors are under the names with several pairs and those whose first pair is not sound. -/
  keys : ∀ errors, result = .error errors → ∀ key, key ∈ errors.keys ↔
    1 < (pairs.map Prod.fst).count key ∨ ∃ text, IsRead [] pairs key text ∧
      ∀ setting, ¬ Setting.Verdict fields key text (.ok setting)
  /-- There is one message for each. -/
  single : ∀ errors, result = .error errors → errors.keys.Nodup
  /-- It is the fault of the first pair, if that is not sound. -/
  fault : ∀ errors, result = .error errors → ∀ key text, IsRead [] pairs key text →
    (∀ setting, ¬ Setting.Verdict fields key text (.ok setting)) →
      ∃ fault, Setting.Verdict fields key text (.error fault) ∧
        errors.get? key = some fault.message
  /-- Else it is that there is another pair. -/
  repeated : ∀ errors, result = .error errors → ∀ key text setting, IsRead [] pairs key text →
    Setting.Verdict fields key text (.ok setting) → 1 < (pairs.map Prod.fst).count key →
      errors.get? key = some Setting.Fault.repeated.message

variable {result : Except FieldErrors Parameters}

lemma exists_findings (h : (ofPairs fields pairs).outcome = some result) :
    ∃ found : Findings, findings fields [] pairs = some found ∧
      found.errors.orResult found.parameters = result := by
  rw [ofPairs] at h
  cases hfound : findings fields [] pairs with
  | none =>
    rw [hfound] at h
    cases h
  | some found =>
    rw [hfound] at h
    exact ⟨found, rfl, Option.some.inj h⟩

/-- A query is accepted if there is nothing to report. -/
lemma exists_eq_ok_iff (h : (ofPairs fields pairs).outcome = some result) :
    (∃ p, result = .ok p) ↔ ∀ key message, ¬ Reported fields [] pairs key message := by
  obtain ⟨found, hfound, rfl⟩ := exists_findings h
  have hnone : (∀ key message, ¬ Reported fields [] pairs key message) ↔
      ∀ key, found.errors.get? key = none := by
    simp only [← get?_errors_iff hfound, Option.eq_none_iff_forall_ne_some, ne_eq]
  rw [hnone]
  constructor
  · rintro ⟨p, hp⟩
    exact (FieldErrors.orResult_eq_ok_iff.1 hp).1
  · intro hno
    exact ⟨found.parameters, FieldErrors.orResult_eq_ok_iff.2 ⟨hno, rfl⟩⟩

/-- A query fails if there is something to report. -/
lemma exists_eq_error_iff (h : (ofPairs fields pairs).outcome = some result) :
    (∃ errors, result = .error errors) ↔
      ∃ key message, Reported fields [] pairs key message := by
  have hok := not_congr (exists_eq_ok_iff h)
  simp only [not_forall, not_not] at hok
  rw [← hok]
  cases result with
  | ok p => simp
  | error errors => simp

/-- The messages of a query that is not accepted are those that there are to report. -/
lemma get?_iff_reported {errors : FieldErrors}
    (h : (ofPairs fields pairs).outcome = some (.error errors)) :
    errors.get? key = some message ↔ Reported fields [] pairs key message := by
  obtain ⟨found, hfound, herrors⟩ := exists_findings h
  rw [← FieldErrors.eq_of_orResult_eq_error herrors]
  exact get?_errors_iff hfound

lemma mem_keys_iff_reported {errors : FieldErrors}
    (h : (ofPairs fields pairs).outcome = some (.error errors)) :
    key ∈ errors.keys ↔ ∃ message, Reported fields [] pairs key message := by
  simp only [← get?_iff_reported h]
  exact Entries.mem_map_fst_iff

/-- There is something to report unless the names are different and all pairs are sound. -/
lemma forall_not_reported_iff (h : (ofPairs fields pairs).outcome = some result) :
    (∀ key message, ¬ Reported fields [] pairs key message) ↔ (pairs.map Prod.fst).Nodup ∧
      ∀ key text, (key, text) ∈ pairs →
        ∃ setting, Setting.Verdict fields key text (.ok setting) := by
  obtain ⟨found, hfound, -⟩ := exists_findings h
  constructor
  · intro hno
    have hsound {key text : String} (hread : IsRead [] pairs key text) :
        ∃ setting, Setting.Verdict fields key text (.ok setting) := by
      obtain ⟨verdict, hverdict⟩ := exists_verdict hfound hread
      cases verdict with
      | ok setting => exact ⟨setting, hverdict⟩
      | error fault => exact absurd (.first hread hverdict) (hno key fault.message)
    have hnd : (pairs.map Prod.fst).Nodup := by
      rw [List.nodup_iff_count_le_one]
      intro key
      by_contra htwice
      rw [Nat.not_le] at htwice
      obtain ⟨text, hread⟩ := exists_isRead List.not_mem_nil
        (List.count_pos_iff.1 (Nat.zero_lt_of_lt htwice))
      obtain ⟨setting, hverdict⟩ := hsound hread
      exact hno key _ (.other hread hverdict htwice)
    exact ⟨hnd, fun key text hmem =>
      hsound (isRead_of_mem (List.nodup_iff_count_le_one.1 hnd key) hmem)⟩
  · rintro ⟨hnd, hsound⟩ key message (⟨old, -⟩ | ⟨isRead, verdict⟩ | ⟨-, -, twice⟩)
    · cases old
    · obtain ⟨setting, hverdict⟩ := hsound key _ isRead.mem
      cases verdict.unique hverdict
    · exact absurd (List.nodup_iff_count_le_one.1 hnd key) (Nat.not_le.2 twice)

/-- A name is reported if it has several pairs or the first one is not sound. -/
lemma exists_reported_iff (h : (ofPairs fields pairs).outcome = some result) :
    (∃ message, Reported fields [] pairs key message) ↔
      1 < (pairs.map Prod.fst).count key ∨ ∃ text, IsRead [] pairs key text ∧
        ∀ setting, ¬ Setting.Verdict fields key text (.ok setting) := by
  obtain ⟨found, hfound, -⟩ := exists_findings h
  constructor
  · rintro ⟨_, ⟨old, -⟩ | ⟨isRead, verdict⟩ | ⟨-, -, twice⟩⟩
    · cases old
    · exact Or.inr ⟨_, isRead, fun setting hv => nomatch verdict.unique hv⟩
    · exact Or.inl twice
  · rintro (htwice | ⟨text, hread, hno⟩)
    · obtain ⟨text, hread⟩ := exists_isRead List.not_mem_nil
        (List.count_pos_iff.1 (Nat.zero_lt_of_lt htwice))
      obtain ⟨fault | setting, hverdict⟩ := exists_verdict hfound hread
      · exact ⟨_, .first hread hverdict⟩
      · exact ⟨_, .other hread hverdict htwice⟩
    · obtain ⟨fault | setting, hverdict⟩ := exists_verdict hfound hread
      · exact ⟨_, .first hread hverdict⟩
      · exact absurd hverdict (hno setting)

/-- The names in an accepted query are different, and its pairs are put into effect one after
another. -/
lemma exists_settings {p : Parameters} (h : ofPairs fields pairs = pure p) :
    (pairs.map Prod.fst).Nodup ∧ ∃ settings, List.Forall₂
      (fun pair setting => Setting.Verdict fields pair.1 pair.2 (.ok setting)) pairs settings ∧
        settings.foldl withSetting {} = p := by
  have houtcome : (ofPairs fields pairs).outcome = some (.ok p) := congrArg Attempt.outcome h
  obtain ⟨hnd, hsound⟩ :=
    (forall_not_reported_iff houtcome).1 ((exists_eq_ok_iff houtcome).1 ⟨p, rfl⟩)
  obtain ⟨settings, hsettings⟩ := Traversal.exists_forall₂ fun (pair : String × String) hpair =>
    hsound pair.1 pair.2 hpair
  have hread := hsettings.imp fun _ _ hv => Setting.read_eq_pure_iff.2 hv
  exact ⟨hnd, settings, hsettings,
    Attempt.pure_injective ((ofPairs_eq_pure hread hnd).symm.trans h)⟩

/-- **Queries are judged exactly.** -/
theorem judges_of_ofPairs (h : (ofPairs fields pairs).outcome = some result) :
    Judges fields pairs result := by
  constructor
  case accepted => exact (exists_eq_ok_iff h).trans (forall_not_reported_iff h)
  case parameters =>
    rintro p rfl
    obtain ⟨hnd, settings, hsettings, rfl⟩ := exists_settings h
    exact SetBy.nil.foldl hnd hsettings
  case page =>
    rintro p rfl
    have haccepted := accepted_of_ofPairs (Attempt.eq_pure_of_outcome h)
    exact ⟨haccepted.page, haccepted.perPage, haccepted.perPage_le⟩
  case distinct =>
    rintro p rfl
    obtain ⟨hnd, settings, hsettings, rfl⟩ := exists_settings h
    exact (SetBy.nil.foldl hnd hsettings).nodup_fields hnd
  case keys =>
    rintro errors rfl key
    rw [mem_keys_iff_reported h, exists_reported_iff h]
  case single =>
    rintro errors rfl
    exact errors.ordered.nodup
  case fault =>
    rintro errors rfl key text hread hno
    obtain ⟨found, hfound, -⟩ := exists_findings h
    obtain ⟨fault | setting, hverdict⟩ := exists_verdict hfound hread
    · exact ⟨fault, hverdict, (get?_iff_reported h).2 (.first hread hverdict)⟩
    · exact absurd hverdict (hno setting)
  case repeated =>
    rintro errors rfl key text setting hread hverdict htwice
    exact (get?_iff_reported h).2 (.other hread hverdict htwice)

/-- A query with a fault of each sort. Of the two faults of `paid_at` the first one counts, and
`sort_direction` is sound but for being given twice. -/
theorem judges_unsound_query :
    let pairs := [("page", "0"), ("per_page", "101"), ("sort_by", "secret"), ("paid_at", ".."),
      ("paid_at", "now"), ("amount", "1..x"), ("bogus", "1"), ("sort_direction", "asc"),
      ("sort_direction", "asc"), ("method", "card")]
    let errors : FieldErrors := .ofList [("page", "must be a positive integer"),
      ("per_page", "must not exceed 100"), ("sort_by", "field secret is not sortable"),
      ("paid_at", "range needs at least one bound"), ("amount", "must be a number"),
      ("bogus", "field is not filterable"), ("sort_direction", "parameter given more than once")]
    (ofPairs Catalogue.payment.fields pairs).outcome = some (.error errors) ∧
      Judges Catalogue.payment.fields pairs (.error errors) := by
  intro pairs errors
  have hpairs : (ofPairs Catalogue.payment.fields pairs).outcome = some (.error errors) := by
    decide +kernel
  exact ⟨hpairs, judges_of_ofPairs hpairs⟩

end Parameters

end BookingOffice
