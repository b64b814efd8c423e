import BookingOffice.Listing.Parameters
import BookingOffice.Proofs.Listing.Spelled
import BookingOffice.Proofs.Text.Whole

/-!
What a pair of a query comes to, said without reading it. The verdict on a pair says what the pair
sets, or what is wrong with it.

* `Setting.Offers`, `Setting.IsCount`: what names and numbers may be given;
* `Setting.Verdict`: the verdict on a pair;
* `Setting.outcome_read_iff`: reading a pair gives its verdict, and there is only one.
-/

namespace BookingOffice

namespace Setting

variable {fields : List Field} {key name text : String}

/-! ### Names and numbers -/

/-- The names in queries that are no fields. -/
def controls : List String := ["page", "per_page", "sort_by", "sort_direction"]

/-- A pair that is named after none of them is read as a filter. -/
lemma read_of_not_mem_controls (h : key ∉ controls) (value : String) :
    read fields key value = filter <$> readFilter fields key value := by
  simp only [controls, List.mem_cons, List.not_mem_nil, or_false, not_or] at h
  obtain ⟨hpage, hperPage, hsortBy, hdirection⟩ := h
  rw [read, if_neg hpage, if_neg hperPage, if_neg hsortBy, if_neg hdirection]

lemma filterable?_eq_some {f : Field} (h : filterable? fields name = some f) :
    f ∈ fields ∧ f.name = name := by
  have hfound := List.find?_some h
  simp only [Bool.and_eq_true, beq_iff_eq] at hfound
  exact ⟨List.mem_of_find?_eq_some h, hfound.1⟩

/-- Whether there is a field of a name that queries may filter and sort by. -/
def Offers (fields : List Field) (name : String) : Prop :=
  ∃ f ∈ fields, f.name = name ∧ f.isFilterable = true

lemma filterable?_eq_none_iff : filterable? fields name = none ↔ ¬ Offers fields name := by
  simp [filterable?, Offers]

lemma offers_of_filterable? {f : Field} (h : filterable? fields name = some f) :
    Offers fields name := by
  by_contra hno
  cases (filterable?_eq_none_iff.2 hno).symm.trans h

/-- Whether a text is a positive number of 64 bits. -/
def IsCount (s : String) (n : Nat) : Prop := Text.IsWhole s n ∧ 1 ≤ n ∧ n < 2 ^ 64

lemma readPositive_eq_ok_iff {n : Nat} : readPositive text = .ok n ↔ IsCount text n := by
  rw [readPositive]
  constructor
  · intro h
    split at h
    · next m hm =>
      split at h
      · next hpos =>
        cases h
        obtain ⟨hwhole, hle⟩ := Text.readNat_eq_ok_iff.1 hm
        exact ⟨hwhole, hpos, Nat.lt_of_le_sub_one (by decide) hle⟩
      · cases h
    · cases h
  · rintro ⟨hwhole, hpos, hlt⟩
    rw [Text.readNat_eq_ok_iff.2 ⟨hwhole, Nat.le_sub_one_of_lt hlt⟩]
    exact if_pos hpos

lemma readPositive_eq_error_iff {fault : Fault} :
    readPositive text = .error fault ↔ fault = .notPositive ∧ ∀ n, ¬ IsCount text n := by
  have hfault {fault : Fault} (h : readPositive text = .error fault) : fault = .notPositive := by
    rw [readPositive] at h
    split at h
    · split at h <;> cases h
      rfl
    · cases h
      rfl
  constructor
  · intro h
    refine ⟨hfault h, fun n hn => ?_⟩
    cases h.symm.trans (readPositive_eq_ok_iff.2 hn)
  · rintro ⟨rfl, hno⟩
    cases h : readPositive text with
    | ok n => exact absurd (readPositive_eq_ok_iff.1 h) (hno n)
    | error fault => rw [hfault h]

/-! ### Verdicts -/

/-- What a pair of a query sets, or what is wrong with it. -/
inductive Verdict (fields : List Field) : String → String → Except Fault Setting → Prop
  | page {text : String} {n : Nat} (count : IsCount text n) :
    Verdict fields "page" text (.ok (.page n))
  | noPage {text : String} (none : ∀ n, ¬ IsCount text n) :
    Verdict fields "page" text (.error .notPositive)
  | perPage {text : String} {n : Nat} (count : IsCount text n) (le : n ≤ maxPerPage) :
    Verdict fields "per_page" text (.ok (.perPage n))
  | noPerPage {text : String} (none : ∀ n, ¬ IsCount text n) :
    Verdict fields "per_page" text (.error .notPositive)
  | tooMany {text : String} {n : Nat} (count : IsCount text n) (many : maxPerPage < n) :
    Verdict fields "per_page" text (.error .tooMany)
  | sortBy {name : String} (offers : Offers fields name) :
    Verdict fields "sort_by" name (.ok (.sortBy name))
  | noSortBy {name : String} (none : ¬ Offers fields name) :
    Verdict fields "sort_by" name (.error (.notSortable name))
  | ascending : Verdict fields "sort_direction" "asc" (.ok (.direction .ascending))
  | descending : Verdict fields "sort_direction" "desc" (.ok (.direction .descending))
  | noDirection {text : String} (ne_asc : text ≠ "asc") (ne_desc : text ≠ "desc") :
    Verdict fields "sort_direction" text (.error .notDirection)
  /-- Of several fields of the name the first one counts. -/
  | filter {key text : String} {f : Field} {c : Condition} (control : key ∉ controls)
    (found : filterable? fields key = some f)
    (spelled : Condition.Spelled f.kind (f.filter.getD .exact) text c) :
    Verdict fields key text (.ok (.filter ⟨key, c⟩))
  | badFilter {key text : String} {f : Field} {fault : Condition.Fault} (control : key ∉ controls)
    (found : filterable? fields key = some f)
    (flaw : Condition.read f.kind (f.filter.getD .exact) text = throw fault) :
    Verdict fields key text (.error (.badCondition fault))
  | noFilter {key text : String} (control : key ∉ controls) (none : ¬ Offers fields key) :
    Verdict fields key text (.error .notFilterable)

/-! ### Reading pairs -/

lemma verdict_readPositive (fields : List Field) (text : String) :
    Verdict fields "page" text ((readPositive text).map page) := by
  cases hcount : readPositive text with
  | ok n => exact .page (readPositive_eq_ok_iff.1 hcount)
  | error fault =>
    obtain ⟨rfl, hno⟩ := readPositive_eq_error_iff.1 hcount
    exact .noPage hno

lemma verdict_readPerPage (fields : List Field) (text : String) :
    Verdict fields "per_page" text ((readPerPage text).map perPage) := by
  rw [readPerPage]
  cases hcount : readPositive text with
  | ok n =>
    change Verdict _ _ _ (Except.map perPage (if maxPerPage < n then .error .tooMany else .ok n))
    split
    · next hmany => exact .tooMany (readPositive_eq_ok_iff.1 hcount) hmany
    · next hle => exact .perPage (readPositive_eq_ok_iff.1 hcount) (Nat.not_lt.1 hle)
  | error fault =>
    obtain ⟨rfl, hno⟩ := readPositive_eq_error_iff.1 hcount
    exact .noPerPage hno

lemma verdict_readSortBy (fields : List Field) (text : String) :
    Verdict fields "sort_by" text ((readSortBy fields text).map sortBy) := by
  rw [readSortBy]
  split
  · next f hf =>
    obtain ⟨-, rfl⟩ := filterable?_eq_some hf
    exact .sortBy (offers_of_filterable? hf)
  · next hnone => exact .noSortBy (filterable?_eq_none_iff.1 hnone)

lemma verdict_readDirection (fields : List Field) (text : String) :
    Verdict fields "sort_direction" text ((readDirection text).map direction) := by
  rw [readDirection]
  split
  · next hasc =>
    subst hasc
    exact .ascending
  · next hasc =>
    split
    · next hdesc =>
      subst hdesc
      exact .descending
    · next hdesc => exact .noDirection hasc hdesc

lemma verdict_of_outcome_readFilter {result : Except Fault Setting} (hkey : key ∉ controls)
    (h : (filter <$> readFilter fields key text).outcome = some result) :
    Verdict fields key text result := by
  rw [readFilter] at h
  split at h
  · next hnone =>
    obtain rfl := Option.some.inj h
    exact .noFilter hkey (filterable?_eq_none_iff.1 hnone)
  · next f hf =>
    obtain ⟨c, hc⟩ | ⟨fault, hfault⟩ | habandon :=
      (Condition.read f.kind (f.filter.getD .exact) text).eq_pure_or_throw_or_abandon
    · rw [hc] at h
      obtain rfl := Option.some.inj h
      rw [(filterable?_eq_some hf).2]
      exact .filter hkey hf (Condition.read_eq_pure_iff.1 hc)
    · rw [hfault] at h
      obtain rfl := Option.some.inj h
      exact .badFilter hkey hf hfault
    · rw [habandon] at h
      cases h

lemma verdict_of_outcome_read {result : Except Fault Setting}
    (h : (read fields key text).outcome = some result) : Verdict fields key text result := by
  by_cases hkey : key ∈ controls
  · simp only [controls, List.mem_cons, List.not_mem_nil, or_false] at hkey
    rcases hkey with rfl | rfl | rfl | rfl
    · exact Option.some.inj h ▸ verdict_readPositive fields text
    · exact Option.some.inj h ▸ verdict_readPerPage fields text
    · exact Option.some.inj h ▸ verdict_readSortBy fields text
    · exact Option.some.inj h ▸ verdict_readDirection fields text
  · rw [read_of_not_mem_controls hkey] at h
    exact verdict_of_outcome_readFilter hkey h

/-- Reading a pair gives its verdict. -/
theorem outcome_read_iff {result : Except Fault Setting} :
    (read fields key text).outcome = some result ↔ Verdict fields key text result := by
  have hfound {name : String} (h : Offers fields name) :
      ∃ f, filterable? fields name = some f ∧ f.name = name := by
    obtain ⟨f, hf⟩ := Option.ne_none_iff_exists'.1 (mt filterable?_eq_none_iff.1 (not_not.2 h))
    exact ⟨f, hf, (filterable?_eq_some hf).2⟩
  refine ⟨verdict_of_outcome_read, fun h => ?_⟩
  cases h with
  | page count =>
    rw [read, if_pos rfl, readPositive_eq_ok_iff.2 count]
    rfl
  | noPage none =>
    rw [read, if_pos rfl, readPositive_eq_error_iff.2 ⟨rfl, none⟩]
    rfl
  | @perPage _ n count le =>
    have hread : readPerPage text = .ok n := by
      rw [readPerPage, readPositive_eq_ok_iff.2 count]
      exact if_neg (Nat.not_lt.2 le)
    rw [read, if_neg (by decide), if_pos rfl, hread]
    rfl
  | noPerPage none =>
    rw [read, if_neg (by decide), if_pos rfl, readPerPage,
      readPositive_eq_error_iff.2 ⟨rfl, none⟩]
    rfl
  | tooMany count many =>
    have hread : readPerPage text = .error .tooMany := by
      rw [readPerPage, readPositive_eq_ok_iff.2 count]
      exact if_pos many
    rw [read, if_neg (by decide), if_pos rfl, hread]
    rfl
  | sortBy offers =>
    obtain ⟨f, hf, rfl⟩ := hfound offers
    have hread : readSortBy fields f.name = .ok f.name := by
      rw [readSortBy, hf]
    rw [read, if_neg (by decide), if_neg (by decide), if_pos rfl, hread]
    rfl
  | noSortBy none =>
    have hread : readSortBy fields text = .error (.notSortable text) := by
      rw [readSortBy, filterable?_eq_none_iff.2 none]
    rw [read, if_neg (by decide), if_neg (by decide), if_pos rfl, hread]
    rfl
  | ascending => rfl
  | descending => rfl
  | noDirection ne_asc ne_desc =>
    have hread : readDirection text = .error .notDirection := by
      rw [readDirection, if_neg ne_asc, if_neg ne_desc]
    rw [read, if_neg (by decide), if_neg (by decide), if_neg (by decide), if_pos rfl, hread]
    rfl
  | filter control found spelled =>
    obtain ⟨-, rfl⟩ := filterable?_eq_some found
    rw [read_of_not_mem_controls control, readFilter]
    simp only [found, Condition.read_eq_pure_iff.2 spelled]
    rfl
  | badFilter control found flaw =>
    rw [read_of_not_mem_controls control, readFilter]
    simp only [found, flaw]
    rfl
  | noFilter control none =>
    rw [read_of_not_mem_controls control, readFilter, filterable?_eq_none_iff.2 none]
    rfl

lemma read_eq_pure_iff {setting : Setting} :
    read fields key text = pure setting ↔ Verdict fields key text (.ok setting) := outcome_read_iff

/-- A pair has one verdict at most. -/
lemma Verdict.unique {r r' : Except Fault Setting} (h : Verdict fields key text r)
    (h' : Verdict fields key text r') : r = r' :=
  Option.some.inj ((outcome_read_iff.2 h).symm.trans (outcome_read_iff.2 h'))

/-- The name that a setting is given under. -/
def givenAs : Setting → String
  | page _ => "page"
  | perPage _ => "per_page"
  | sortBy _ => "sort_by"
  | direction _ => "sort_direction"
  | filter f => f.field

lemma Verdict.givenAs_eq {setting : Setting} (h : Verdict fields key text (.ok setting)) :
    setting.givenAs = key := by
  cases h <;> rfl

end Setting

end BookingOffice
