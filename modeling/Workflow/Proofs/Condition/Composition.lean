import Mathlib.Data.List.Infix
import Workflow.Condition.Truth
import Workflow.Proofs.Condition.Borders

/-!
# Conditions made of conditions

Two labels that are conditions can be written one after the other with a connective between them,
and a label in parentheses can stand wherever a label can. Parentheses keep each label a condition
of its own. Without them the label is cut at the first connective in it, which may stand in the
first of the two, so that another tree is read; as the connectives are associative, it has the same
truth.

`and` binds tighter than an `or` beside it, so that labels joined by `and` may have none outside
parentheses.

Main statement: `parse_composes`, from `parseChars_group`, `parseChars_join_groups` and
`exists_parseChars_join`.
-/

namespace Workflow.Condition

open Text

/-! ## Definitions -/

/-- The word stands in the text outside quotes and parentheses. -/
def OccursOutside (word text : List Char) : Prop :=
  ∃ before after, text = before ++ word ++ after ∧ balanced before = true

/-- The nesting inside one more pair of parentheses. -/
def Nesting.deeper (n : Nesting) : Nesting := ⟨n.quote, n.depth + 1⟩

namespace Connective

/-- The connective as it stands between two conditions. -/
def word (c : Connective) : List Char := ' ' :: c.start

def join : Connective → Condition → Condition → Condition
  | or => .or
  | and => .and

def cut : Connective → List Char → List Char → Cut
  | or => .or
  | and => .and

def truth : Connective → Bool → Bool → Bool
  | or => (· || ·)
  | and => (· && ·)

/-- No connective in the text is looser than this one. -/
def Binds : Connective → List Char → Prop
  | or, _ => True
  | and, text => splitTop orWord text = none

end Connective

/-! ## Inside parentheses -/

section Deeper

variable {n m : Nesting}

theorem Nesting.step_deeper {c : Char} (h : n.step c = some m) :
    n.deeper.step c = some m.deeper := by
  rw [step_eq_some_iff] at h ⊢
  cases h with
  | closeQuote _ depth => exact .closeQuote c (depth + 1)
  | quoted depth hne => exact .quoted (depth + 1) hne
  | openQuote depth hquote => exact .openQuote (depth + 1) hquote
  | openGroup depth => exact .openGroup (depth + 1)
  | closeGroup depth => exact .closeGroup (depth + 1)
  | plain depth plain => exact .plain (depth + 1) plain

theorem Nesting.after_deeper {text : List Char} (h : n.after text = some m) :
    n.deeper.after text = some m.deeper := by
  induction n, text, h using after_induction with
  | nil => rfl
  | cons n next c text hstep _ ih => rw [after_cons, step_deeper hstep, Option.bind_some, ih]

/-- No cut is made inside parentheses. -/
theorem splitTopAt_deeper (needle : List Char) {text : List Char} (h : n.after text = some m)
    (rest : List Char) :
    splitTopAt needle n.deeper (text ++ rest) =
      (splitTopAt needle m.deeper rest).map fun parts => (text ++ parts.1, parts.2) := by
  induction n, text, h using Nesting.after_induction with
  | nil => simp
  | cons n next c text hstep _ ih =>
      have inside : n.deeper ≠ .outside := by
        intro same
        exact absurd (congrArg Nesting.depth same) (Nat.succ_ne_zero _)
      rw [List.cons_append, splitTopAt_cons, if_neg fun found => inside found.1,
        Nesting.step_deeper hstep, Option.bind_some, ih]
      simp [Function.comp_def]

end Deeper

section Group

variable {text rest : List Char} (closed : Nesting.outside.after text = some .outside)
include closed

theorem after_group : Nesting.outside.after ('(' :: (text ++ [')'])) = some .outside := by
  have inside : Nesting.outside.deeper.after (text ++ [')']) = some .outside := by
    rw [Nesting.after_append, Nesting.after_deeper closed]
    rfl
  exact inside

/-- A cut is made behind a group or not at all. -/
theorem splitTop_group (needle rest : List Char) :
    splitTop needle ('(' :: (text ++ ')' :: rest)) =
      (splitTop needle rest).map fun parts => ('(' :: (text ++ ')' :: parts.1), parts.2) := by
  have opening : Nesting.outside.step '(' = some (Nesting.outside.deeper) := rfl
  have closing : Nesting.outside.deeper.step ')' = some .outside := rfl
  have first : ¬(Nesting.outside = .outside ∧ isPlain '(' = true) := by decide
  have last : ¬(Nesting.outside.deeper = .outside ∧ isPlain ')' = true) := by decide
  rw [splitTop, splitTopAt_cons, if_neg first, opening, Option.bind_some,
    splitTopAt_deeper needle closed, splitTopAt_cons, if_neg last, closing]
  simp [splitTop, Function.comp_def]

/-- Parentheses at the ends do not belong together if nothing is open in between. -/
theorem stripParens_append (hne : text ≠ []) (hrest : rest ≠ []) :
    stripParens (text ++ rest) = none := by
  obtain ⟨c, text, rfl⟩ := List.exists_cons_of_ne_nil hne
  by_cases hopen : c = '('
  · subst hopen
    have early : Nesting.outside.after text = none := by
      by_contra h
      obtain ⟨m, hm⟩ := Option.ne_none_iff_exists'.1 h
      have inside : Nesting.outside.deeper.after text = some .outside := closed
      rw [Nesting.after_deeper hm] at inside
      exact absurd (congrArg Nesting.depth (Option.some.inj inside)) (Nat.succ_ne_zero _)
    have unbalanced : balanced (text ++ rest).dropLast = false := by
      rw [List.dropLast_append_of_ne_nil hrest, balanced, Nesting.after_append, early]
      rfl
    rw [List.cons_append, stripParens, unbalanced]
    simp
  · unfold stripParens
    split
    · next heq => exact absurd (List.cons.inj heq).1 hopen
    · rfl

end Group

/-! ## Where a joined text is cut -/

/-- A cut in a text is a cut in what starts with it. -/
theorem splitTopAt_append_of_some {needle : List Char} {n : Nesting} {text : List Char}
    {parts : List Char × List Char} (h : splitTopAt needle n text = some parts) (rest : List Char) :
    splitTopAt needle n (text ++ rest) = some (parts.1, parts.2 ++ rest) := by
  induction text generalizing n parts with
  | nil => cases h
  | cons c text ih =>
      -- The needle fits into the text, so that it begins at a character of the text only if it ends
      -- in the text.
      have fits : needle.length ≤ (c :: text).length := by
        rw [append_of_splitTopAt h]
        simp only [List.length_append]
        omega
      have same : needle.isPrefixOf (c :: (text ++ rest)) = needle.isPrefixOf (c :: text) := by
        rw [Bool.eq_iff_iff, List.isPrefixOf_iff_prefix, List.isPrefixOf_iff_prefix,
          ← List.cons_append]
        constructor
        · intro found
          exact List.prefix_of_prefix_length_le found (List.prefix_append _ rest) fits
        · intro found
          exact found.trans (List.prefix_append _ rest)
      rw [List.cons_append, splitTopAt, same]
      rcases splitTopAt_cons_cases h with ⟨here, rfl⟩ | ⟨elsewhere, next, later, hstep, hlater, rfl⟩
      · rw [if_pos here, ← List.cons_append, List.drop_append_of_le_length fits]
      · rw [if_neg elsewhere, hstep]
        simp only [ih hlater, Option.map_some]

/-- If a text has no cut, the first one in what starts with it lies behind it, provided that the
needle does not reach from the text into what follows. -/
theorem splitTopAt_append_of_none {needle : List Char} {n m : Nesting} {text rest : List Char}
    (closed : n.after text = some m) (uncut : splitTopAt needle n text = none)
    (apart : ∀ tail more, tail ≠ [] → more ≠ [] → tail <:+ text → needle = tail ++ more →
      ¬more <+: rest) :
    splitTopAt needle n (text ++ rest) =
      (splitTopAt needle m rest).map fun parts => (text ++ parts.1, parts.2) := by
  induction n, text, closed using Nesting.after_induction with
  | nil => simp
  | cons n next c text hstep closed ih =>
      rw [splitTopAt, hstep] at uncut
      have not_here : ¬(n = .outside ∧ isPlain c = true ∧
          needle.isPrefixOf (c :: (text ++ rest)) = true) := by
        rintro ⟨hn, plain, found⟩
        have found := List.isPrefixOf_iff_prefix.1 found
        rw [← List.cons_append] at found
        rcases List.prefix_or_prefix_of_prefix found (List.prefix_append _ rest) with short | long
        · rw [if_pos ⟨hn, plain, List.isPrefixOf_iff_prefix.2 short⟩] at uncut
          cases uncut
        · obtain ⟨more, rfl⟩ := long
          by_cases hmore : more = []
          · rw [hmore, List.append_nil, if_pos ⟨hn, plain, by simp⟩] at uncut
            cases uncut
          · exact apart (c :: text) more (List.cons_ne_nil c text) hmore (List.suffix_refl _) rfl
              ((List.prefix_append_right_inj _).1 found)
      have uncut : splitTopAt needle next text = none := by
        split at uncut
        · cases uncut
        · exact Option.map_eq_none_iff.1 uncut
      have later := ih uncut fun tail more htail hmore within =>
        apart tail more htail hmore (within.trans (List.suffix_cons c text))
      rw [List.cons_append, splitTopAt, if_neg not_here, hstep]
      simp only [later, Option.map_map]
      rfl

/-- The first cut of a text is where the word first stands outside quotes and parentheses. -/
theorem splitTop_eq_none_iff {first : Char} (plain : isPlain first = true)
    {needle text : List Char} :
    splitTop (first :: needle) text = none ↔ ¬OccursOutside (first :: needle) text := by
  constructor
  · rintro uncut ⟨before, after, rfl, outside⟩
    rw [splitTop, List.append_assoc] at uncut
    have found := splitTopAt_suffix uncut ((balanced_iff before).1 outside)
    exact splitTop_ne_none plain (List.prefix_append _ after) found
  · intro absent
    by_contra found
    obtain ⟨parts, hparts⟩ := Option.ne_none_iff_exists'.1 found
    exact absent ⟨parts.1, parts.2, append_of_splitTop hparts,
      (balanced_iff _).2 (after_of_splitTopAt hparts)⟩

/-- A stretch of an uncut text that begins outside quotes and parentheses has no cut. -/
theorem splitTop_infix {needle before text rest : List Char}
    (uncut : splitTop needle (before ++ text ++ rest) = none)
    (outside : Nesting.outside.after before = some .outside) : splitTop needle text = none := by
  rw [splitTop, List.append_assoc] at uncut
  have uncut := splitTopAt_suffix uncut outside
  by_contra found
  obtain ⟨parts, hparts⟩ := Option.ne_none_iff_exists'.1 found
  rw [splitTopAt_append_of_some hparts rest] at uncut
  cases uncut

theorem isBlank_head_space (rest : List Char) : ∀ d ∈ (' ' :: rest).head?, isBlank d = true := by
  rintro _ ⟨⟩
  decide

namespace Connective

/-- Where a connective is taken apart, the name ends the first part, or the second part starts with
a letter of it. -/
theorem cases_of_word_eq (c : Connective) {tail more : List Char} (htail : tail ≠ [])
    (hmore : more ≠ []) (h : c.word = tail ++ more) :
    c.name <:+ tail ∨ ∃ d ∈ more.head?, isBlank d = false := by
  obtain ⟨first, tail, rfl⟩ := List.exists_cons_of_ne_nil htail
  have h := (List.cons.inj h).2
  rcases List.append_eq_append_iff.1 h with ⟨rest, rfl, hrest⟩ | ⟨rest, hname, rfl⟩
  · obtain ⟨rfl, _⟩ | ⟨_, rfl⟩ := List.append_eq_singleton_iff.1 hrest.symm
    · rw [List.append_nil]
      exact .inl (List.suffix_cons first c.name)
    · exact absurd rfl hmore
  · cases rest with
    | nil =>
        rw [hname, List.append_nil]
        exact .inl (List.suffix_cons first tail)
    | cons d rest =>
        refine .inr ⟨d, rfl, c.not_isBlank_of_mem_name d ?_⟩
        rw [hname]
        exact List.mem_append_right tail List.mem_cons_self

section Word

variable {c : Connective} {text rest : List Char}

/-- Behind a text that does not end with the name of a connective, and before a blank, connectives
are found as they are in what follows. -/
theorem splitTop_word_append (closed : Nesting.outside.after text = some .outside)
    (uncut : splitTop c.word text = none) (ends : ¬c.name <:+ text)
    (starts : ∀ d ∈ rest.head?, isBlank d = true) :
    splitTop c.word (text ++ rest) =
      (splitTop c.word rest).map fun parts => (text ++ parts.1, parts.2) := by
  apply splitTopAt_append_of_none closed uncut
  intro tail more htail hmore within heq found
  rcases c.cases_of_word_eq htail hmore heq with name | ⟨d, hd, letter⟩
  · exact ends (name.trans within)
  · obtain ⟨more, rfl⟩ := List.head?_eq_some_iff.1 hd
    obtain ⟨rest, rfl⟩ := found
    rw [starts d rfl] at letter
    cases letter

/-- So they are behind a condition. -/
theorem splitTop_condition_append (c : Connective) {e : Condition} (h : parseChars text = .ok e)
    (uncut : splitTop c.word text = none) (starts : ∀ d ∈ rest.head?, isBlank d = true) :
    splitTop c.word (text ++ rest) =
      (splitTop c.word rest).map fun parts => (text ++ parts.1, parts.2) :=
  splitTop_word_append (closed_of_parseChars h).2 uncut (c.not_suffix_of_parseChars h) starts

theorem isBlank_head_word (c : Connective) (rest : List Char) :
    ∀ d ∈ (c.word ++ rest).head?, isBlank d = true :=
  isBlank_head_space (c.start ++ rest)

theorem splitTop_word_self (c : Connective) (rest : List Char) :
    splitTop c.word (c.word ++ rest) = some ([], rest) := by
  have plain : isPlain ' ' = true := by decide
  have found : c.word.isPrefixOf (c.word ++ rest) = true :=
    List.isPrefixOf_iff_prefix.2 (List.prefix_append c.word rest)
  have here : splitTopAt c.word .outside (' ' :: (c.start ++ rest)) = some ([], rest) := by
    rw [splitTopAt, if_pos ⟨rfl, plain, found⟩]
    exact congrArg (fun tail => some ([], tail)) List.drop_left
  exact here

/-- A space is part of a connective only before its name and another space. -/
theorem splitTop_space (apart : ¬c.start <+: rest) :
    splitTop c.word (' ' :: rest) =
      (splitTop c.word rest).map fun parts => (' ' :: parts.1, parts.2) := by
  have not_here : ¬(Nesting.outside = .outside ∧ isPlain ' ' = true ∧
      c.word.isPrefixOf (' ' :: rest) = true) := by
    rintro ⟨_, _, found⟩
    exact apart (List.cons_prefix_cons.1 (List.isPrefixOf_iff_prefix.1 found)).2
  have stays : Nesting.outside.step ' ' = some .outside := rfl
  rw [splitTop, splitTopAt, if_neg not_here, stays]
  rfl

/-- Blanks hold no connective. -/
theorem splitTop_blanks (h : ∀ d ∈ text, isBlank d = true) : splitTop c.word text = none := by
  by_contra found
  obtain ⟨parts, hparts⟩ := Option.ne_none_iff_exists'.1 found
  obtain ⟨d, name, hname⟩ := List.exists_cons_of_ne_nil c.name_ne_nil
  have hd : d ∈ c.name := by
    rw [hname]
    exact List.mem_cons_self
  have within : d ∈ text := by
    rw [append_of_splitTop hparts]
    simp [word, start, hd]
  have letter := c.not_isBlank_of_mem_name d hd
  rw [h d within] at letter
  cases letter

end Word

section Cut

variable {c : Connective} {x y : List Char}

/-- A text is cut at a connective if it has no looser one. -/
theorem cutText?_of_splitTop {text left right : List Char}
    (closed : Nesting.outside.after text = some .outside) (binds : c.Binds text)
    (h : splitTop c.word text = some (left, right)) : cutText? text = some (c.cut left right) := by
  have written : text = (left ++ [' ']) ++ (c.start ++ right) := by
    have written := append_of_splitTop h
    simpa [word] using written
  have space : ' ' ∈ text := by
    rw [written]
    simp
  have other : ∀ {l : List Char}, ' ' ∉ l → text ≠ l := by
    rintro _ absent rfl
    exact absent space
  have first : Nesting.outside.after (left ++ [' ']) = some .outside := by
    rw [Nesting.after_append, after_of_splitTopAt h]
    rfl
  have ungrouped : stripParens text = none := by
    rw [written]
    exact stripParens_append first (by simp) (by simp [start])
  have readable : ¬(text = [] ∨ balanced text = false) := by
    rw [not_or, Bool.not_eq_false, balanced_iff]
    exact ⟨other (by simp), closed⟩
  rw [cutText?, if_neg readable, ungrouped, if_neg (other (by decide)), if_neg (other (by decide))]
  cases c with
  | or =>
      have h : splitTop orWord text = some (left, right) := h
      rw [h]
      rfl
  | and =>
      have h : splitTop andWord text = some (left, right) := h
      have none_looser : splitTop orWord text = none := binds
      rw [none_looser, h]
      rfl

/-- A cut text reads as the two parts do. -/
theorem read_cut_eq_ok_iff {left right : List Char} {e : Condition} :
    (c.cut left right).read = .ok e ↔
      ∃ l r, parseChars left = .ok l ∧ parseChars right = .ok r ∧ e = c.join l r := by
  have both : ∀ make : Condition → Condition → Condition,
      (do let l ← parseChars left; let r ← parseChars right; return make l r) =
          (Except.ok e : Except ParseError Condition) ↔
        ∃ l r, parseChars left = .ok l ∧ parseChars right = .ok r ∧ e = make l r := by
    intro make
    cases parseChars left <;> cases parseChars right <;>
      simp [bind, Except.bind, pure, Except.pure, eq_comm]
  cases c with
  | or => exact both .or
  | and => exact both .and

theorem holds_join (c : Connective) (l r : Condition) (state : State) :
    (c.join l r).holds state = c.truth (l.holds state) (r.holds state) := by
  cases c <;> rfl

theorem truth_assoc (c : Connective) (p q r : Bool) :
    c.truth (c.truth p q) r = c.truth p (c.truth q r) := by
  cases c with
  | or => exact Bool.or_assoc p q r
  | and => exact Bool.and_assoc p q r

theorem Binds.infix {before rest : List Char} (h : c.Binds (before ++ x ++ rest))
    (outside : Nesting.outside.after before = some .outside) : c.Binds x := by
  cases c with
  | or => trivial
  | and => exact splitTop_infix h outside

end Cut

/-! ## Joined conditions -/

/-- The text is a condition that the connective can stand beside. -/
structure Joins (c : Connective) (text : List Char) (e : Condition) : Prop where
  reads : parseChars text = .ok e
  binds : c.Binds text

section Joins

variable {c : Connective} {x y : List Char} {ex ey : Condition}

theorem Joins.closed (h : c.Joins x ex) : Nesting.outside.after x = some .outside :=
  (closed_of_parseChars h.reads).2

/-- Blanks around a condition may be left out. -/
theorem Joins.infix {before after : List Char} (h : c.Joins (before ++ x ++ after) ex)
    (blank : ∀ d ∈ before, isBlank d = true) (blank' : ∀ d ∈ after, isBlank d = true) :
    c.Joins x ex where
  reads := by
    have same : trim (before ++ x ++ after) = trim x := by
      rw [trim_append_blanks blank', trim_blanks_append blank]
    exact (parseChars_congr same).1 h.reads
  binds := h.binds.infix (Nesting.after_blanks Nesting.proper_outside blank)

theorem Joins.trimmed (h : c.Joins x ex) : c.Joins (trim x) ex := by
  obtain ⟨before, after, blank, blank', heq⟩ := exists_blanks_trim x
  rw [heq] at h
  exact h.infix blank blank'

/-- The connectives that are looser are found neither in the two texts nor where they meet. -/
theorem binds_join (hx : c.Joins x ex) (hy : c.Joins y ey) : c.Binds (x ++ c.word ++ y) := by
  cases c with
  | or => trivial
  | and =>
      -- The connective itself is a text that has no `or`, and `y` stands behind its last space.
      have split_and : and.word ++ y = " and".toList ++ ' ' :: y := rfl
      have closed' : Nesting.outside.after " and".toList = some .outside := by decide
      have uncut' : splitTop or.word " and".toList = none := by decide
      have uncut_x : splitTop or.word x = none := hx.binds
      have uncut_y : splitTop or.word y = none := hy.binds
      have later : splitTop or.word (and.word ++ y) = none := by
        rw [split_and, splitTop_word_append closed' uncut' (by decide) (isBlank_head_space y),
          splitTop_space (or.not_prefix_of_parseChars hy.reads), uncut_y]
        rfl
      show splitTop or.word (x ++ and.word ++ y) = none
      rw [List.append_assoc,
        or.splitTop_condition_append hx.reads uncut_x (and.isBlank_head_word y), later]
      rfl

/-- Nothing is open behind two conditions that a connective joins. -/
theorem closed_join (hx : c.Joins x ex) (hy : c.Joins y ey) :
    Nesting.outside.after (x ++ c.word ++ y) = some .outside := by
  rw [Nesting.after_append, Nesting.after_append, hx.closed, Option.bind_some]
  cases c <;> exact hy.closed

/-- Two conditions joined by a connective are cut there, unless it stands in the first of them. -/
theorem cutText?_join (hx : c.Joins x ex) (hy : c.Joins y ey) (uncut : splitTop c.word x = none) :
    cutText? (x ++ c.word ++ y) = some (c.cut x y) := by
  apply cutText?_of_splitTop (closed_join hx hy) (binds_join hx hy)
  rw [List.append_assoc, c.splitTop_condition_append hx.reads uncut (c.isBlank_head_word y),
    splitTop_word_self]
  simp

/-- The blanks at the outer ends are left out when two joined conditions are read. -/
theorem exists_trim_join (hx : c.Joins x ex) (hy : c.Joins y ey) :
    ∃ between y', (∀ d ∈ between, isBlank d = true) ∧ trim x ++ between <:+ x ∧
      c.Joins y' ey ∧ trim (x ++ c.word ++ y) = trim x ++ between ++ c.word ++ y' := by
  obtain ⟨before, between, blank, blank_between, hwritten⟩ := exists_blanks_trim x
  obtain ⟨between', after, blank_between', blank', hwritten'⟩ := exists_blanks_trim y
  have nothing : ∀ d ∈ ([] : List Char), isBlank d = true := by simp
  refine ⟨between, between' ++ trim y, blank_between, ?_, ?_, ?_⟩
  · exact ⟨before, by rw [← List.append_assoc, ← hwritten]⟩
  · have around : c.Joins ([] ++ (between' ++ trim y) ++ after) ey := by
      rwa [List.nil_append, ← hwritten']
    exact around.infix nothing blank'
  have starts : ∀ d ∈ (trim x ++ between ++ c.word ++ (between' ++ trim y)).head?,
      isBlank d = false := by
    rw [List.append_assoc, List.append_assoc,
      List.head?_append_of_ne_nil _ (trim_ne_nil_of_parseChars hx.reads)]
    exact (isTrimmed_trim x).starts
  have ends : ∀ d ∈ (trim x ++ between ++ c.word ++ (between' ++ trim y)).getLast?,
      isBlank d = false := by
    rw [← List.append_assoc, List.getLast?_append_of_ne_nil _ (trim_ne_nil_of_parseChars hy.reads)]
    exact (isTrimmed_trim y).ends
  calc trim (x ++ c.word ++ y)
      = trim (before ++ (trim x ++ between ++ c.word ++ (between' ++ trim y)) ++ after) := by
        conv_lhs => rw [hwritten, hwritten']
        simp only [List.append_assoc]
    _ = trim x ++ between ++ c.word ++ (between' ++ trim y) :=
        trim_between blank blank' ⟨starts, ends⟩

/-- Blanks behind a condition that has no connective hold none either. -/
theorem splitTop_append_blanks (d : Connective) {between : List Char} (hx : parseChars x = .ok ex)
    (uncut : splitTop d.word x = none) (blank : ∀ e ∈ between, isBlank e = true) :
    splitTop d.word (x ++ between) = none := by
  have starts : ∀ e ∈ between.head?, isBlank e = true :=
    fun e he => blank e (List.mem_of_mem_head? he)
  rw [d.splitTop_condition_append hx uncut starts, splitTop_blanks blank]
  rfl

theorem Joins.append_blanks {between : List Char} (h : c.Joins x ex)
    (blank : ∀ d ∈ between, isBlank d = true) : c.Joins (x ++ between) ex where
  reads := (parseChars_congr (trim_append_blanks blank x)).2 h.reads
  binds := by
    cases c with
    | or => trivial
    | and => exact or.splitTop_append_blanks h.reads h.binds blank

/-- A condition in which the connective is found is a join itself. -/
theorem Joins.exists_of_splitTop {left right : List Char} (h : c.Joins x ex)
    (hcut : splitTop c.word (trim x) = some (left, right)) :
    ∃ el er, parseChars left = .ok el ∧ c.Joins right er ∧ ex = c.join el er := by
  obtain ⟨cut, hfirst, hread⟩ := parseChars_eq_ok_iff.1 h.reads
  rw [cut?, cutText?_of_splitTop h.trimmed.closed h.trimmed.binds hcut] at hfirst
  obtain rfl := Option.some.inj hfirst
  obtain ⟨el, er, hl, hr, rfl⟩ := read_cut_eq_ok_iff.1 hread
  refine ⟨el, er, hl, ⟨hr, ?_⟩, rfl⟩
  have outside : Nesting.outside.after (left ++ c.word) = some .outside := by
    rw [Nesting.after_append, after_of_splitTopAt hcut]
    cases c <;> rfl
  have binds := h.trimmed.binds
  rw [append_of_splitTop hcut, ← List.append_nil (left ++ c.word ++ right)] at binds
  exact binds.infix outside

/-- Two conditions with a connective between them are a condition. It holds as the two together do,
though it may be another tree than their join. -/
theorem exists_parseChars_join (hx : c.Joins x ex) (hy : c.Joins y ey) :
    ∃ e, parseChars (x ++ c.word ++ y) = .ok e ∧
      ∀ state, e.holds state = c.truth (ex.holds state) (ey.holds state) := by
  -- The first text is cut again and again; the second one stays as it is.
  induction hn : x.length using Nat.strong_induction_on generalizing x y ex with
  | _ n ih =>
      obtain ⟨between, y', blank, within, hy', hjoined⟩ := exists_trim_join hx hy
      have hx' := hx.trimmed.append_blanks blank
      cases hcut : splitTop c.word (trim x) with
      | none =>
          have uncut := c.splitTop_append_blanks hx.trimmed.reads hcut blank
          refine ⟨c.join ex ey, ?_, c.holds_join ex ey⟩
          rw [parseChars_eq_ok_iff, cut?, hjoined]
          exact ⟨_, cutText?_join hx' hy' uncut,
            read_cut_eq_ok_iff.2 ⟨_, _, hx'.reads, hy'.reads, rfl⟩⟩
      | some parts =>
          obtain ⟨left, right⟩ := parts
          obtain ⟨el, er, hl, hr, rfl⟩ := hx.exists_of_splitTop hcut
          have shorter : (right ++ between).length < n := by
            have written : trim x = left ++ c.word ++ right := append_of_splitTop hcut
            have bound := within.length_le
            simp only [written, word, List.length_append, List.length_cons] at bound ⊢
            omega
          obtain ⟨e', he', htruth⟩ := ih _ shorter (hr.append_blanks blank) hy' rfl
          refine ⟨c.join el e', ?_, fun state => ?_⟩
          · have later : splitTop c.word (trim x ++ between ++ c.word ++ y') =
                some (left, right ++ between ++ c.word ++ y') := by
              rw [List.append_assoc, List.append_assoc, splitTop,
                splitTopAt_append_of_some hcut]
              simp
            rw [parseChars_eq_ok_iff, cut?, hjoined]
            exact ⟨_, cutText?_of_splitTop (closed_join hx' hy') (binds_join hx' hy') later,
              read_cut_eq_ok_iff.2 ⟨_, _, hl, he', rfl⟩⟩
          · calc (c.join el e').holds state
                = c.truth (el.holds state) (c.truth (er.holds state) (ey.holds state)) := by
                  rw [holds_join, htruth]
              _ = c.truth ((c.join el er).holds state) (ey.holds state) := by
                  rw [holds_join, truth_assoc]

end Joins

end Connective

/-! ## Conditions in parentheses -/

section Group

variable {a b : List Char} {ea eb : Condition}

/-- A text that starts and ends with characters other than blanks is read as it is. -/
theorem trim_of_ends {first last : Char} (hfirst : isBlank first = false)
    (hlast : isBlank last = false) (text : List Char) :
    trim (first :: (text ++ [last])) = first :: (text ++ [last]) := by
  refine trim_eq_self ⟨?_, ?_⟩
  · rintro _ ⟨⟩
    exact hfirst
  · rw [← List.cons_append, List.getLast?_concat]
    rintro _ ⟨⟩
    exact hlast

theorem parseChars_group (ha : parseChars a = .ok ea) :
    parseChars ('(' :: (a ++ [')'])) = .ok ea := by
  have closed := (closed_of_parseChars ha).2
  have inside : stripParens ('(' :: (a ++ [')'])) = some a := by
    have together : (a ++ [')']).getLast? = some ')' ∧ balanced (a ++ [')']).dropLast = true := by
      rw [List.getLast?_concat, List.dropLast_concat, balanced_iff]
      exact ⟨rfl, closed⟩
    rw [stripParens, if_pos together, List.dropLast_concat]
  have readable : ¬('(' :: (a ++ [')']) = [] ∨ balanced ('(' :: (a ++ [')'])) = false) := by
    rw [not_or, Bool.not_eq_false, balanced_iff]
    exact ⟨List.cons_ne_nil _ _, after_group closed⟩
  rw [parseChars_eq_ok_iff, cut?, trim_of_ends (by decide) (by decide), cutText?, if_neg readable,
    inside]
  exact ⟨_, rfl, ha⟩

/-- No connective stands in parentheses. -/
theorem splitTop_group_eq_none (c : Connective) (ha : parseChars a = .ok ea) :
    splitTop c.word ('(' :: (a ++ [')'])) = none := by
  rw [splitTop_group (closed_of_parseChars ha).2]
  rfl

theorem joins_group (c : Connective) (ha : parseChars a = .ok ea) :
    c.Joins ('(' :: (a ++ [')'])) ea where
  reads := parseChars_group ha
  binds := by
    cases c with
    | or => trivial
    | and => exact splitTop_group_eq_none .or ha

/-- Between parentheses the labels keep their trees. -/
theorem parseChars_join_groups (c : Connective) (ha : parseChars a = .ok ea)
    (hb : parseChars b = .ok eb) :
    parseChars ('(' :: (a ++ [')']) ++ c.word ++ '(' :: (b ++ [')'])) = .ok (c.join ea eb) := by
  have written : '(' :: (a ++ [')']) ++ c.word ++ '(' :: (b ++ [')']) =
      '(' :: (a ++ ')' :: (c.word ++ '(' :: b) ++ [')']) := by simp
  have hcut := c.cutText?_join (joins_group c ha) (joins_group c hb) (splitTop_group_eq_none c ha)
  rw [parseChars_eq_ok_iff, cut?, written, trim_of_ends (by decide) (by decide), ← written]
  exact ⟨_, hcut, Connective.read_cut_eq_ok_iff.2
    ⟨_, _, parseChars_group ha, parseChars_group hb, rfl⟩⟩

theorem parseChars_not_group (ha : parseChars a = .ok ea) :
    parseChars (notWord ++ '(' :: (a ++ [')'])) = .ok (.not ea) := by
  have written : notWord ++ '(' :: (a ++ [')']) = 'n' :: ("ot (".toList ++ a ++ [')']) := by
    simp [notWord]
  have closed : Nesting.outside.after (notWord ++ '(' :: (a ++ [')'])) = some .outside := by
    rw [Nesting.after_append]
    exact after_group (closed_of_parseChars ha).2
  have uncut : ∀ c : Connective, splitTop c.word (notWord ++ '(' :: (a ++ [')'])) = none := by
    intro c
    have split_not :
        notWord ++ '(' :: (a ++ [')']) = "not".toList ++ ' ' :: '(' :: (a ++ [')']) := rfl
    rw [split_not,
      c.splitTop_word_append (by decide) (by cases c <;> decide) (by cases c <;> decide)
        (isBlank_head_space _),
      c.splitTop_space (c.not_prefix_of_parseChars (parseChars_group ha)),
      splitTop_group_eq_none c ha]
    rfl
  have uncut_or : splitTop orWord (notWord ++ '(' :: (a ++ [')'])) = none := uncut .or
  have uncut_and : splitTop andWord (notWord ++ '(' :: (a ++ [')'])) = none := uncut .and
  have readable : ¬(notWord ++ '(' :: (a ++ [')']) = [] ∨
      balanced (notWord ++ '(' :: (a ++ [')'])) = false) := by
    rw [not_or, Bool.not_eq_false, balanced_iff]
    exact ⟨List.cons_ne_nil _ _, closed⟩
  have found : afterStart? notWord (notWord ++ '(' :: (a ++ [')'])) =
      some ('(' :: (a ++ [')'])) := by
    simp [afterStart?]
  rw [parseChars_eq_ok_iff, cut?, written, trim_of_ends (by decide) (by decide), ← written,
    cutText?, if_neg readable, uncut_or, uncut_and, found]
  exact ⟨.not ('(' :: (a ++ [')'])), rfl, by rw [Cut.read, parseChars_group ha]; rfl⟩

end Group

/-! ## Composed labels -/

/-- Conditions compose: in parentheses they keep their trees, and without parentheses they keep
their truth, provided that `and` does not stand beside an `or` that it binds tighter than. -/
theorem parse_composes {a b : String} {ea eb : Condition} (ha : parse a = .ok ea)
    (hb : parse b = .ok eb) :
    parse ("(" ++ a ++ ")") = .ok ea ∧
    parse ("not (" ++ a ++ ")") = .ok (.not ea) ∧
    parse ("(" ++ a ++ ") and (" ++ b ++ ")") = .ok (.and ea eb) ∧
    parse ("(" ++ a ++ ") or (" ++ b ++ ")") = .ok (.or ea eb) ∧
    (∃ e, parse (a ++ " or " ++ b) = .ok e ∧
      ∀ state, e.holds state = (ea.holds state || eb.holds state)) ∧
    (¬OccursOutside " or ".toList a.toList → ¬OccursOutside " or ".toList b.toList →
      ∃ e, parse (a ++ " and " ++ b) = .ok e ∧
        ∀ state, e.holds state = (ea.holds state && eb.holds state)) := by
  have plain : isPlain ' ' = true := by decide
  refine ⟨?_, ?_, ?_, ?_, ?_, ?_⟩
  · simpa [parse] using parseChars_group ha
  · simpa [parse, notWord] using parseChars_not_group ha
  · simpa [parse, Connective.word, Connective.start, Connective.name, Connective.join] using
      parseChars_join_groups .and ha hb
  · simpa [parse, Connective.word, Connective.start, Connective.name, Connective.join] using
      parseChars_join_groups .or ha hb
  · have joined := Connective.exists_parseChars_join (c := .or) ⟨ha, trivial⟩ ⟨hb, trivial⟩
    simpa [parse, Connective.word, Connective.start, Connective.name, Connective.truth] using joined
  · intro apart apart'
    have binds : ∀ {l : List Char}, ¬OccursOutside " or ".toList l → Connective.and.Binds l :=
      fun h => (splitTop_eq_none_iff plain).2 h
    have joined :=
      Connective.exists_parseChars_join (c := .and) ⟨ha, binds apart⟩ ⟨hb, binds apart'⟩
    simpa [parse, Connective.word, Connective.start, Connective.name, Connective.truth] using joined

/-- A quoted connective and one in parentheses do not count. -/
theorem parse_composes_of_apart :
    parse "x.a == ' or ('" = .ok (.compare ⟨"x", "a", []⟩ .eq (.text " or (")) ∧
      parse "(y.b == true or y.c == null)" =
        .ok (.or (.compare ⟨"y", "b", []⟩ .eq (.bool true)) (.compare ⟨"y", "c", []⟩ .eq .null)) ∧
      ∃ e, parse "x.a == ' or (' and (y.b == true or y.c == null)" = .ok e ∧
        ∀ state, e.holds state =
          (compares (state.at? ⟨"x", "a", []⟩) .eq (.text " or (") &&
            (compares (state.at? ⟨"y", "b", []⟩) .eq (.bool true) ||
              compares (state.at? ⟨"y", "c", []⟩) .eq .null)) := by
  have quoted : parse "x.a == ' or ('" = .ok (.compare ⟨"x", "a", []⟩ .eq (.text " or (")) := by
    decide +kernel
  have grouped : parse "(y.b == true or y.c == null)" =
      .ok (.or (.compare ⟨"y", "b", []⟩ .eq (.bool true)) (.compare ⟨"y", "c", []⟩ .eq .null)) := by
    decide +kernel
  have apart : ¬OccursOutside " or ".toList "x.a == ' or ('".toList :=
    (splitTop_eq_none_iff (by decide)).1 (by decide +kernel)
  have apart' : ¬OccursOutside " or ".toList "(y.b == true or y.c == null)".toList :=
    (splitTop_eq_none_iff (by decide)).1 (by decide +kernel)
  obtain ⟨_, _, _, _, _, joined⟩ := parse_composes quoted grouped
  exact ⟨quoted, grouped, by simpa [holds] using joined apart apart'⟩

end Workflow.Condition
