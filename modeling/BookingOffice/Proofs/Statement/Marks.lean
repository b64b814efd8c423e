import Mathlib.Data.List.Infix
import BookingOffice.Proofs.Statement.Parted

/-!
Marks in the text of statements. What can be read off a text without knowing how it was made: its
numbered marks, the text with question marks in their places, and the text with one word in the
place of another. On the text of tokens that are parted, and whose names have no marks in them,
these readers find what the tokens say.

* `numberedMarks`, `unnumbered`, `replaced`: the readers;
* `Token.numberedMarks_text`, `Token.count_text`: the marks of a text are those of its tokens;
* `Token.unnumbered_text`, `Token.replaced_text`: one dialect is turned into the other.
-/

namespace BookingOffice.Statement

/-! ### Readers -/

/-- The numbered marks in a text, each being a dollar sign and the digits behind it. -/
def numberedMarksOf : List Char → List (List Char)
  | [] => []
  | c :: cs =>
    let digits := cs.takeWhile Char.isDigit
    if c = '$' ∧ digits ≠ [] then (c :: digits) :: numberedMarksOf cs else numberedMarksOf cs

/-- The numbered marks in a text. -/
def numberedMarks (s : String) : List String := (numberedMarksOf s.toList).map String.ofList

/-- A text with question marks for its numbered marks, behind the beginning of one or not. -/
def unnumberedFrom (behind : Bool) : List Char → List Char
  | [] => []
  | c :: cs =>
    if c = '$' ∧ cs.head?.any Char.isDigit then '?' :: unnumberedFrom true cs
    else if behind ∧ c.isDigit then unnumberedFrom true cs
    else c :: unnumberedFrom false cs

/-- A text with question marks for its numbered marks. -/
def unnumbered (s : String) : String := .ofList (unnumberedFrom false s.toList)

/-- A text with one word in the place of another, some characters being left out first. -/
def replacedFrom (old new : List Char) : Nat → List Char → List Char
  | _, [] => []
  | skip + 1, _ :: cs => replacedFrom old new skip cs
  | 0, c :: cs =>
    if old <+: c :: cs then new ++ replacedFrom old new (old.length - 1) cs
    else c :: replacedFrom old new 0 cs

/-- A text with one word in the place of another wherever that occurs. -/
def replaced (old new s : String) : String :=
  .ofList (replacedFrom old.toList new.toList 0 s.toList)

example : numberedMarks "a = $1, b = $12, $c" = ["$1", "$12"] := by decide

example : unnumbered "a = $1, b = $12, $c" = "a = ?, b = ?, $c" := by decide

example : replaced "strpos(" "instr(" "strpos(strpos, $1)" = "instr(strpos, $1)" := by decide

section NumberedMarks

variable {a b digits : List Char}

lemma numberedMarksOf_append (ha : '$' ∉ a) : numberedMarksOf (a ++ b) = numberedMarksOf b := by
  induction a with
  | nil => rfl
  | cons c a ih =>
    have hc : c ≠ '$' := fun h => ha (h ▸ List.mem_cons_self)
    rw [List.cons_append, numberedMarksOf, if_neg fun h => hc h.1]
    exact ih fun h => ha (List.mem_cons_of_mem _ h)

/-- A mark is read up to what is behind its digits. -/
lemma numberedMarksOf_mark (hne : digits ≠ []) (hdigits : ∀ c ∈ digits, c.isDigit)
    (hb : ∀ c ∈ b.head?, ¬c.isDigit) :
    numberedMarksOf ('$' :: digits ++ b) = ('$' :: digits) :: numberedMarksOf b := by
  have hdollar : '$' ∉ digits := fun h => absurd (hdigits _ h) (by decide)
  have hend : b.takeWhile Char.isDigit = [] := by
    cases b with
    | nil => rfl
    | cons c b => exact List.takeWhile_cons_of_neg (hb c rfl)
  have htake : (digits ++ b).takeWhile Char.isDigit = digits := by
    rw [List.takeWhile_append_of_pos hdigits, hend, List.append_nil]
  simp [numberedMarksOf, htake, hne, numberedMarksOf_append hdollar]

end NumberedMarks

section Unnumbered

variable {a b digits : List Char}

lemma unnumberedFrom_append (ha : '$' ∉ a) :
    unnumberedFrom false (a ++ b) = a ++ unnumberedFrom false b := by
  induction a with
  | nil => rfl
  | cons c a ih =>
    have hc : c ≠ '$' := fun h => ha (h ▸ List.mem_cons_self)
    rw [List.cons_append, unnumberedFrom, if_neg fun h => hc h.1, if_neg (by simp), ih]
    · rfl
    · exact fun h => ha (List.mem_cons_of_mem _ h)

/-- Behind the beginning of a mark its digits are left out. -/
lemma unnumberedFrom_digits (hdigits : ∀ c ∈ digits, c.isDigit) (hb : ∀ c ∈ b.head?, ¬c.isDigit) :
    unnumberedFrom true (digits ++ b) = unnumberedFrom false b := by
  induction digits with
  | nil =>
    cases b with
    | nil => rfl
    | cons c b => simp [unnumberedFrom, hb c rfl]
  | cons c digits ih =>
    have hc : c.isDigit := hdigits c List.mem_cons_self
    have hdollar : c ≠ '$' := fun h => absurd (h ▸ hc) (by decide)
    rw [List.cons_append, unnumberedFrom, if_neg fun h => hdollar h.1, if_pos ⟨rfl, hc⟩]
    exact ih fun c hc => hdigits c (List.mem_cons_of_mem _ hc)

/-- A mark becomes a question mark. -/
lemma unnumberedFrom_mark (hne : digits ≠ []) (hdigits : ∀ c ∈ digits, c.isDigit)
    (hb : ∀ c ∈ b.head?, ¬c.isDigit) :
    unnumberedFrom false ('$' :: digits ++ b) = '?' :: unnumberedFrom false b := by
  obtain ⟨c, cs, rfl⟩ := List.exists_cons_of_ne_nil hne
  have hhead : ((c :: cs ++ b).head?.any Char.isDigit) = true := hdigits c List.mem_cons_self
  rw [List.cons_append, unnumberedFrom, if_pos ⟨rfl, hhead⟩, unnumberedFrom_digits hdigits hb]

end Unnumbered

section Replaced

variable {old new a b : List Char}

lemma replacedFrom_length : replacedFrom old new a.length (a ++ b) = replacedFrom old new 0 b := by
  induction a with
  | nil => rfl
  | cons c a ih => exact ih

lemma replacedFrom_old (hne : old ≠ []) :
    replacedFrom old new 0 (old ++ b) = new ++ replacedFrom old new 0 b := by
  obtain ⟨c, cs, rfl⟩ := List.exists_cons_of_ne_nil hne
  have hprefix : c :: cs <+: c :: (cs ++ b) := List.prefix_append (c :: cs) b
  rw [List.cons_append, replacedFrom, if_pos hprefix, List.length_cons, Nat.add_sub_cancel,
    replacedFrom_length]

/-- Nothing is replaced in front of a text if the word does not lie across the beginning of it. -/
lemma replacedFrom_append (ha : ¬old <:+: a)
    (hacross : ∀ u v, u ≠ [] → v ≠ [] → u ++ v = old → u <:+ a → ¬v <+: b) :
    replacedFrom old new 0 (a ++ b) = a ++ replacedFrom old new 0 b := by
  induction a with
  | nil => rfl
  | cons x a ih =>
    have hprefix : ¬old <+: x :: (a ++ b) := by
      intro h
      -- the word ends within `x :: a`, or it lies across the beginning of `b`
      rcases List.prefix_or_prefix_of_prefix h (List.prefix_append (x :: a) b) with h' | ⟨v, rfl⟩
      · exact ha h'.isInfix
      · have hv : v <+: b := (List.prefix_append_right_inj (x :: a)).1 h
        have hne : v ≠ [] := fun h => ha (by simp [h])
        exact hacross (x :: a) v (List.cons_ne_nil x a) hne rfl (List.suffix_refl _) hv
    have hsuffix {u : List Char} (h : u <:+ a) : u <:+ x :: a := h.trans (List.suffix_cons x a)
    rw [List.cons_append, replacedFrom, if_neg hprefix,
      ih (fun h => ha (h.trans (List.suffix_cons x a).isInfix))
        fun u v hu hv huv h => hacross u v hu hv huv (hsuffix h)]
    rfl

end Replaced

/-! ### Texts in front of texts -/

/-- Whether a text has no marks in it. -/
def Unmarked (s : String) : Prop := '?' ∉ s.toList ∧ '$' ∉ s.toList

instance (s : String) : Decidable (Unmarked s) := inferInstanceAs (Decidable (_ ∧ _))

/-- Whether a text is empty or begins with a break. -/
def Opened (s : String) : Prop := ∀ c ∈ s.toList.head?, c ∈ [' ', ',', ')']

/-- Whether a text ends in a break. -/
def Closed (s : String) : Prop := ∃ c ∈ s.toList.getLast?, c ∈ [' ', '(', '.']

section Texts

variable {s t : String} {n : ℕ}

lemma Opened.not_isDigit (h : Opened s) : ∀ c ∈ s.toList.head?, ¬c.isDigit := by
  have hbreak : [' ', ',', ')'].all (!·.isDigit) := by decide
  intro c hc
  simpa using List.all_eq_true.1 hbreak c (h c hc)

/-- The characters of a number are digits. -/
lemma isDigit_of_mem_toString : ∀ c ∈ (toString n).toList, c.isDigit := by
  intro c hc
  rw [show toString n = n.repr from rfl, Nat.toList_repr] at hc
  exact Nat.isDigit_of_mem_toDigits (by decide) (by decide) hc

lemma toList_toString_ne_nil : (toString n).toList ≠ [] := by
  rw [show toString n = n.repr from rfl, Nat.toList_repr]
  exact Nat.toDigits_ne_nil

lemma toList_numberedMark :
    (Dialect.postgres.mark n).toList = '$' :: (toString n).toList := String.toList_append

lemma Unmarked.call (h : Unmarked s) : Unmarked (s ++ "(") := by
  simpa [Unmarked, String.toList_append] using h

lemma count_append (hs : Unmarked s) : (s ++ t).toList.count '?' = t.toList.count '?' := by
  rw [String.toList_append, List.count_append, List.count_eq_zero.2 hs.1, Nat.zero_add]

lemma numberedMarks_append (hs : Unmarked s) : numberedMarks (s ++ t) = numberedMarks t := by
  rw [numberedMarks, String.toList_append, numberedMarksOf_append hs.2, numberedMarks]

lemma numberedMarks_mark (ht : Opened t) :
    numberedMarks (Dialect.postgres.mark n ++ t) = Dialect.postgres.mark n :: numberedMarks t := by
  rw [numberedMarks, String.toList_append, toList_numberedMark,
    numberedMarksOf_mark toList_toString_ne_nil isDigit_of_mem_toString ht.not_isDigit,
    ← toList_numberedMark, List.map_cons, String.ofList_toList, numberedMarks]

lemma unnumbered_append (hs : Unmarked s) : unnumbered (s ++ t) = s ++ unnumbered t := by
  rw [unnumbered, String.toList_append, unnumberedFrom_append hs.2, String.ofList_append,
    String.ofList_toList, unnumbered]

lemma unnumbered_mark (ht : Opened t) :
    unnumbered (Dialect.postgres.mark n ++ t) = "?" ++ unnumbered t := by
  rw [unnumbered, String.toList_append, toList_numberedMark,
    unnumberedFrom_mark toList_toString_ne_nil isDigit_of_mem_toString ht.not_isDigit]
  change String.ofList (['?'] ++ _) = _
  rw [String.ofList_append]
  rfl

/-- The beginning of a call of the function stays whole if there is a break in front of it or
behind it. -/
lemma replaced_append (hs : ¬"strpos(".toList <:+: s.toList) (h : Closed s ∨ Opened t) :
    replaced "strpos(" "instr(" (s ++ t) = s ++ replaced "strpos(" "instr(" t := by
  have hacross : ∀ u v, u ≠ [] → v ≠ [] → u ++ v = "strpos(".toList → u <:+ s.toList →
      ¬v <+: t.toList := by
    rintro u v hu hv huv ⟨rest, hrest⟩ ⟨rest', hrest'⟩
    rcases h with ⟨c, hc, hbreak⟩ | h
    · -- The break in front is the last character of `u`, which does not end the word.
      rw [← hrest, List.getLast?_append_of_ne_nil _ hu] at hc
      have hword : c ∈ "strpos(".toList.dropLast := by
        rw [← huv, List.dropLast_append_of_ne_nil hv]
        exact List.mem_append_left _ (List.mem_of_getLast? hc)
      have hnot : [' ', '(', '.'].all (· ∉ "strpos(".toList.dropLast) := by decide
      exact of_decide_eq_true (List.all_eq_true.1 hnot c hbreak) hword
    · obtain ⟨c, v, rfl⟩ := List.exists_cons_of_ne_nil hv
      have hbreak : c ∈ [' ', ',', ')'] := h c (by rw [← hrest']; rfl)
      have hnot : [' ', ',', ')'].all (· ∉ "strpos(".toList) := by decide
      exact of_decide_eq_true (List.all_eq_true.1 hnot c hbreak) (huv ▸ by simp)
  rw [replaced, String.toList_append, replacedFrom_append hs hacross, String.ofList_append,
    String.ofList_toList, replaced]

/-- A call of the function becomes one of the other function. -/
lemma replaced_call :
    replaced "strpos(" "instr(" ("strpos" ++ "(" ++ t) =
      "instr" ++ "(" ++ replaced "strpos(" "instr(" t := by
  rw [replaced, String.toList_append]
  change String.ofList (replacedFrom _ _ 0 ("strpos(".toList ++ _)) = _
  rw [replacedFrom_old (by decide), String.ofList_append, String.ofList_toList]
  rfl

end Texts

/-! ### Texts of tokens -/

/-- The phrases of the language have no marks in them. -/
lemma unmarked_of_mem_phrases : ∀ s ∈ phrases, Unmarked s := by decide

lemma not_infix_of_mem_phrases : ∀ s ∈ phrases, ¬"strpos(".toList <:+: s.toList := by
  decide +kernel

namespace Token

variable {ts : List Token} {finder : String}

/-- What follows a token that does not end in a break begins with one. -/
lemma Parted.opened {t : Token} (h : Parted (t :: ts)) (ht : t.closes = false)
    (mark : Nat → String) (finder : String) (next : Nat) :
    Opened (textWith mark finder next ts) := by
  cases ts with
  | nil => simp [Opened, textWith]
  | cons u ts =>
    have hu : u.opens := by simpa [Breaks, ht] using (List.isChain_cons_cons.1 h).1
    cases u with
    | phrase s known =>
      obtain ⟨c, hc, hbreak⟩ := (Option.any_eq_true _ _).1 hu
      obtain ⟨cs, hcs⟩ := List.head?_eq_some_iff.1 hc
      rw [textWith, Opened, String.toList_append, hcs]
      rintro _ ⟨⟩
      exact of_decide_eq_true hbreak
    | _ => exact absurd hu Bool.false_ne_true

/-- The text of a token that is not a mark. -/
def plain? (finder : String) : Token → Option String
  | phrase s _ => some s
  | name s => some s
  | mark => none
  | .finder => some (finder ++ "(")

section Plain

variable {t : Token} {s : String}

lemma textWith_plain (h : t.plain? finder = some s) (mark : Nat → String) (next : Nat) :
    textWith mark finder next (t :: ts) = s ++ textWith mark finder next ts := by
  cases t <;> cases h <;> rfl

lemma marks_plain (h : t.plain? finder = some s) : marks (t :: ts) = marks ts := by
  cases t <;> cases h <;> rfl

lemma eq_mark_of_plain? (h : t.plain? finder = none) : t = mark := by
  cases t <;> cases h
  rfl

/-- Names without marks leave no marks but those for arguments. -/
lemma unmarked_plain (hfinder : Unmarked finder) (hnames : ∀ n ∈ names (t :: ts), Unmarked n)
    (h : t.plain? finder = some s) : Unmarked s ∧ ∀ n ∈ names ts, Unmarked n := by
  cases t <;> cases h
  case phrase known => exact ⟨unmarked_of_mem_phrases s known, hnames⟩
  case name => exact List.forall_mem_cons.1 hnames
  case finder => exact ⟨hfinder.call, hnames⟩

end Plain

/-- The numbered marks in the text of tokens are counted up from the first. -/
theorem numberedMarks_text (hfinder : Unmarked finder) (h : Parted ts)
    (hnames : ∀ n ∈ names ts, Unmarked n) (next : Nat) :
    numberedMarks (textWith Dialect.postgres.mark finder next ts) =
      (List.range' next (marks ts)).map Dialect.postgres.mark := by
  induction ts generalizing next with
  | nil => rfl
  | cons t ts ih =>
    cases hplain : t.plain? finder with
    | some s =>
      obtain ⟨hs, hnames⟩ := unmarked_plain hfinder hnames hplain
      rw [textWith_plain hplain, numberedMarks_append hs, marks_plain hplain, ih h.tail hnames]
    | none =>
      obtain rfl := eq_mark_of_plain? hplain
      rw [textWith, numberedMarks_mark (h.opened rfl _ _ _), ih h.tail hnames]
      rfl

/-- Without its numbers the text of tokens has the marks of the other dialect. -/
theorem unnumbered_text (hfinder : Unmarked finder) (h : Parted ts)
    (hnames : ∀ n ∈ names ts, Unmarked n) (next : Nat) :
    unnumbered (textWith Dialect.postgres.mark finder next ts) =
      textWith Dialect.sqlite.mark finder next ts := by
  induction ts generalizing next with
  | nil => rfl
  | cons t ts ih =>
    cases hplain : t.plain? finder with
    | some s =>
      obtain ⟨hs, hnames⟩ := unmarked_plain hfinder hnames hplain
      rw [textWith_plain hplain, textWith_plain hplain, unnumbered_append hs, ih h.tail hnames]
    | none =>
      obtain rfl := eq_mark_of_plain? hplain
      rw [textWith, unnumbered_mark (h.opened rfl _ _ _), ih h.tail hnames]
      rfl

/-- There are as many question marks in the text of tokens as there are marks. -/
theorem count_text (hfinder : Unmarked finder) (hnames : ∀ n ∈ names ts, Unmarked n) (next : Nat) :
    (textWith Dialect.sqlite.mark finder next ts).toList.count '?' = marks ts := by
  induction ts generalizing next with
  | nil => rfl
  | cons t ts ih =>
    cases hplain : t.plain? finder with
    | some s =>
      obtain ⟨hs, hnames⟩ := unmarked_plain hfinder hnames hplain
      rw [textWith_plain hplain, count_append hs, marks_plain hplain, ih hnames]
    | none =>
      obtain rfl := eq_mark_of_plain? hplain
      change ("?" ++ _).toList.count '?' = _
      rw [String.toList_append, List.count_append, ih hnames, Nat.add_comm]
      rfl

/-- With the other function the text of tokens is that of the other dialect. -/
theorem replaced_text (h : Parted ts) (hnames : ∀ n ∈ names ts, ¬"strpos(".toList <:+: n.toList)
    (next : Nat) :
    replaced "strpos(" "instr(" (textWith Dialect.sqlite.mark "strpos" next ts) =
      textWith Dialect.sqlite.mark "instr" next ts := by
  induction ts generalizing next with
  | nil => rfl
  | cons t ts ih =>
    cases t with
    | phrase s known =>
      have hbreak : Closed s ∨ Opened (textWith Dialect.sqlite.mark "strpos" next ts) := by
        cases hcloses : (phrase s known).closes with
        | false => exact .inr (h.opened hcloses _ _ _)
        | true =>
          obtain ⟨c, hc, hbreak⟩ := (Option.any_eq_true _ _).1 hcloses
          exact .inl ⟨c, hc, of_decide_eq_true hbreak⟩
      rw [textWith, replaced_append (not_infix_of_mem_phrases s known) hbreak, ih h.tail hnames]
      rfl
    | name s =>
      obtain ⟨hs, hnames⟩ := List.forall_mem_cons.1 hnames
      rw [textWith, replaced_append hs (.inr (h.opened rfl _ _ _)), ih h.tail hnames]
      rfl
    | finder =>
      rw [textWith, replaced_call, ih h.tail hnames]
      rfl
    | mark =>
      change replaced _ _ ("?" ++ _) = "?" ++ _
      rw [replaced_append (by decide) (.inr (h.opened rfl _ _ _)), ih h.tail hnames]

end Token

end BookingOffice.Statement
