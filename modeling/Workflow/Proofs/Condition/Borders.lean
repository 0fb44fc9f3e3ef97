import Mathlib.Data.List.Infix
import Workflow.Proofs.Condition.Replacement

/-!
# The ends of conditions

Where two labels meet with a connective between them, a connective might begin in one of them and
end in the other. But no condition ends with the name of a connective, nor starts with one and a
space: at either end of a label stands a path, a literal, a truth value, a parenthesis or `not`.

Main statements: `not_suffix_of_parseChars` and `not_prefix_of_parseChars`.
-/

namespace Workflow.Condition

open Text

/-! ## Trimmed texts -/

section Trim

variable {before text after : List Char}

theorem trim_trim (text : List Char) : trim (trim text) = trim text :=
  trim_eq_self (isTrimmed_trim text)

/-- A text that starts with no blank starts with what is left of it. -/
theorem trim_prefix (starts : ∀ c ∈ text.head?, isBlank c = false) : trim text <+: text := by
  obtain ⟨before, after, blank, _, heq⟩ := exists_blanks_trim text
  cases before with
  | nil => exact ⟨after, heq.symm⟩
  | cons c before =>
      rw [heq] at starts
      have first := starts c rfl
      rw [blank c List.mem_cons_self] at first
      cases first

theorem trim_append_blanks (hafter : ∀ c ∈ after, isBlank c = true) (text : List Char) :
    trim (text ++ after) = trim text := by
  obtain ⟨before, rest, blank, blank', heq⟩ := exists_blanks_trim text
  have blanks : ∀ c ∈ rest ++ after, isBlank c = true := by
    intro c hc
    exact (List.mem_append.1 hc).elim (blank' c) (hafter c)
  calc trim (text ++ after)
      = trim (before ++ trim text ++ (rest ++ after)) := by
        rw [← List.append_assoc, ← heq]
    _ = trim text := trim_between blank blanks (isTrimmed_trim text)

theorem trim_blanks_append (hbefore : ∀ c ∈ before, isBlank c = true) (text : List Char) :
    trim (before ++ text) = trim text := by
  rw [trim, trimWhile, List.dropWhile_append_of_pos hbefore]
  rfl

/-- Blanks around a text neither open nor close anything. -/
theorem Nesting.after_trim {n : Nesting} (proper : n.Proper) (text : List Char) :
    n.after (trim text) = n.after text := by
  obtain ⟨before, after, blank, blank', heq⟩ := exists_blanks_trim text
  have around : n.after text = (n.after (trim text)).bind fun m => m.after after := by
    conv_lhs => rw [heq]
    rw [Nesting.after_append, Nesting.after_append, Nesting.after_blanks proper blank,
      Option.bind_some]
  rw [around]
  cases hm : n.after (trim text) with
  | none => rfl
  | some m =>
      rw [Option.bind_some, Nesting.after_blanks (Nesting.proper_of_after proper hm) blank']

theorem balanced_trim (text : List Char) : balanced (trim text) = balanced text := by
  rw [balanced, balanced, Nesting.after_trim Nesting.proper_outside]

end Trim

/-! ## Accepted labels -/

theorem parseChars_eq_ok_iff {label : List Char} {e : Condition} :
    parseChars label = .ok e ↔ ∃ cut, cut? label = some cut ∧ cut.read = .ok e := by
  rw [← toOption_eq_some_iff, toOption_parseChars, Option.bind_eq_some_iff]
  exact exists_congr fun cut => and_congr_right fun _ => toOption_eq_some_iff

theorem parseChars_congr {a b : List Char} (h : trim a = trim b) {e : Condition} :
    parseChars a = .ok e ↔ parseChars b = .ok e := by
  rw [parseChars_eq_ok_iff, parseChars_eq_ok_iff, cut?, cut?, h]

theorem exists_read_of_parseChars {label : List Char} {e : Condition}
    (h : parseChars label = .ok e) : ∃ o, IsOutline label o ∧ o.read? = some e := by
  obtain ⟨o, outline⟩ := exists_isOutline h
  exact ⟨o, outline, by rw [← outline.toOption_parseChars, h]; rfl⟩

section Accepted

variable {label : List Char} {e : Condition}

/-- A condition is not blank. -/
theorem trim_ne_nil_of_parseChars (h : parseChars label = .ok e) : trim label ≠ [] := by
  intro blank
  obtain ⟨cut, hcut, _⟩ := parseChars_eq_ok_iff.1 h
  rw [cut?, cutText?, if_pos (.inl blank)] at hcut
  cases hcut

/-- Nothing is open at the end of a condition. -/
theorem closed_of_parseChars (h : parseChars label = .ok e) :
    Nesting.outside.after (trim label) = some .outside ∧
      Nesting.outside.after label = some .outside := by
  obtain ⟨cut, hcut, _⟩ := parseChars_eq_ok_iff.1 h
  have closed := (balanced_iff _).1 (foundIn_of_cut? hcut).1
  exact ⟨closed, by rwa [← Nesting.after_trim Nesting.proper_outside]⟩

end Accepted

/-- A word at the end of a text stands behind a mark whose last character it does not hold. -/
theorem suffix_of_last_not_mem {word before mark rest : List Char}
    (hmark : ∃ c ∈ mark.getLast?, c ∉ word) (h : word <:+ before ++ mark ++ rest) :
    word <:+ rest := by
  obtain ⟨c, hlast, hc⟩ := hmark
  obtain ⟨init, rfl⟩ := List.getLast?_eq_some_iff.1 hlast
  rw [List.append_assoc, List.append_assoc, List.singleton_append, ← List.append_assoc] at h
  rcases List.suffix_or_suffix_of_suffix h (List.suffix_append _ (c :: rest)) with short | long
  · rcases List.suffix_cons_iff.1 short with rfl | short
    · exact absurd List.mem_cons_self hc
    · exact short
  · exact absurd (long.subset List.mem_cons_self) hc

/-- A word without blanks at the end of a text is at the end of the trimmed text. -/
theorem suffix_trim {word text : List Char} (hne : word ≠ [])
    (hword : ∀ c ∈ word, isBlank c = false) (h : word <:+ text) : word <:+ trim text := by
  obtain ⟨before, after, blank, blank', heq⟩ := exists_blanks_trim text
  have last : ∀ {blanks : List Char}, (∀ c ∈ blanks, isBlank c = true) → blanks ≠ [] →
      ∃ c ∈ blanks.getLast?, c ∉ word := by
    intro blanks hblanks hne
    refine ⟨_, List.getLast?_eq_some_getLast hne, fun hmem => ?_⟩
    have contrary := hword _ hmem
    rw [hblanks _ (List.getLast_mem hne)] at contrary
    cases contrary
  have ended : after = [] := by
    by_contra hafter
    rw [heq, ← List.append_nil (before ++ trim text ++ after)] at h
    exact hne (List.suffix_nil.1 (suffix_of_last_not_mem (last blank' hafter) h))
  rw [heq, ended, List.append_nil] at h
  by_cases hbefore : before = []
  · rwa [hbefore] at h
  · have h : word <:+ [] ++ before ++ trim text := h
    exact suffix_of_last_not_mem (last blank hbefore) h

theorem IsOutline.cut?_ne_none {label : List Char} {o : Outline} (h : IsOutline label o) :
    cut? label ≠ none := by
  intro nothing
  cases h <;> simp_all

/-! ## Connectives -/

/-- What joins two conditions. -/
inductive Connective where
  | or
  | and

namespace Connective

def name : Connective → List Char
  | or => "or".toList
  | and => "and".toList

/-- The name of a connective and a space. -/
def start (c : Connective) : List Char := c.name ++ [' ']

theorem name_ne_nil (c : Connective) : c.name ≠ [] := by
  cases c <;> decide

theorem not_isBlank_of_mem_name (c : Connective) : ∀ d ∈ c.name, isBlank d = false := by
  have letters : c.name.all (!isBlank ·) = true := by cases c <;> decide
  intro d hd
  simpa using List.all_eq_true.1 letters d hd

/-- The name holds a character that no literal but a text holds, and does not end in a quote. -/
theorem exists_foreign (c : Connective) :
    (∃ d ∈ c.name, Foreign d) ∧ ∃ last, c.name.getLast? = some last ∧ isQuote last = false := by
  cases c with
  | or => exact ⟨⟨'o', by decide, by constructor <;> decide⟩, 'r', by decide, by decide⟩
  | and => exact ⟨⟨'d', by decide, by constructor <;> decide⟩, 'd', by decide, by decide⟩

/-- What is read as a literal does not end with the name of a connective. -/
theorem not_suffix_of_parseLiteral (c : Connective) {text : List Char} {literal : Literal}
    (h : parseLiteral text = .ok literal) : ¬c.name <:+ text := by
  intro ends
  obtain ⟨⟨d, hd, foreign⟩, letter, hletter, unquoted⟩ := c.exists_foreign
  have ends := suffix_trim c.name_ne_nil c.not_isBlank_of_mem_name ends
  obtain ⟨inner, hquoted, _⟩ := quoted_of_foreign foreign h (ends.subset hd)
  obtain ⟨quote, hquote, heq⟩ := exists_quote_of_stripQuotes? hquoted
  obtain ⟨before, hbefore⟩ := ends
  have last := congrArg List.getLast? hbefore
  rw [List.getLast?_append_of_ne_nil _ c.name_ne_nil, heq, ← List.cons_append,
    List.getLast?_concat, hletter] at last
  rw [← Option.some.inj last, unquoted] at hquote
  cases hquote

/-- The name at the end of a text that is cut at a mark is at the end of the last part. -/
theorem suffix_of_trim_eq (c : Connective) {text before mark rest : List Char}
    (ends : c.name <:+ text) (hmark : ∃ d ∈ mark.getLast?, d ∉ c.name)
    (written : trim text = before ++ mark ++ rest) : c.name <:+ rest := by
  have ends := suffix_trim c.name_ne_nil c.not_isBlank_of_mem_name ends
  rw [written] at ends
  exact suffix_of_last_not_mem hmark ends

theorem not_suffix_of_isOutline (c : Connective) {label : List Char} {o : Outline}
    (h : IsOutline label o) {e : Condition} (he : o.read? = some e) : ¬c.name <:+ label := by
  intro ends
  induction h generalizing e with
  | @group label inner _ hcut _ _ =>
      have grouped : trim label = '(' :: (inner ++ [')']) := isOf_of_cut? hcut
      have written : trim label = '(' :: inner ++ [')'] ++ [] := by
        rw [grouped, List.append_nil, List.cons_append]
      have nothing := c.suffix_of_trim_eq ends ⟨')', rfl, by cases c <;> decide⟩ written
      exact c.name_ne_nil (List.suffix_nil.1 nothing)
  | @const label value hcut =>
      have written : trim label = _ := isOf_of_cut? hcut
      have ends := suffix_trim c.name_ne_nil c.not_isBlank_of_mem_name ends
      rw [written] at ends
      cases c <;> cases value <;> exact absurd ends (by decide)
  | or hcut _ _ _ ihr =>
      obtain ⟨_, r, _, hr, _⟩ := Outline.read?_both_eq_some.1 he
      apply ihr hr
      exact c.suffix_of_trim_eq ends ⟨' ', rfl, by cases c <;> decide⟩ (isOf_of_cut? hcut)
  | and hcut _ _ _ ihr =>
      obtain ⟨_, r, _, hr, _⟩ := Outline.read?_both_eq_some.1 he
      apply ihr hr
      exact c.suffix_of_trim_eq ends ⟨' ', rfl, by cases c <;> decide⟩ (isOf_of_cut? hcut)
  | @not label inner _ hcut _ ih =>
      obtain ⟨e', he', _⟩ := Option.map_eq_some_iff.1 he
      have written : trim label = [] ++ notWord ++ inner := isOf_of_cut? hcut
      apply ih he'
      exact c.suffix_of_trim_eq ends ⟨' ', rfl, by cases c <;> decide⟩ written
  | compare hcut =>
      obtain ⟨_, literal, _, hliteral, _⟩ := Outline.read?_compare_eq_some.1 he
      obtain ⟨symbol, hsymbol, written⟩ := isOf_of_cut? hcut
      have last : ∀ entry ∈ operators, entry.1.toList.getLast?.any (· ∉ c.name) = true := by
        cases c <;> decide
      obtain ⟨d, hd, other⟩ := Option.any_eq_true _ _ |>.1 (last _ hsymbol)
      apply c.not_suffix_of_parseLiteral hliteral
      exact c.suffix_of_trim_eq ends ⟨d, hd, of_decide_eq_true other⟩ written

/-- No condition ends with the name of a connective. -/
theorem not_suffix_of_parseChars (c : Connective) {label : List Char} {e : Condition}
    (h : parseChars label = .ok e) : ¬c.name <:+ label := by
  obtain ⟨o, outline, he⟩ := exists_read_of_parseChars h
  exact c.not_suffix_of_isOutline outline he

theorem exists_start (c : Connective) :
    ∃ first rest, c.start = first :: rest ∧ isBlank first = false ∧
      first ∉ ['(', '{', 't', 'f', 'n'] := by
  cases c with
  | or => exact ⟨'o', "r ".toList, by decide⟩
  | and => exact ⟨'a', "nd ".toList, by decide⟩

section Start

variable {c : Connective} {text : List Char} (starts : c.start <+: text)
include starts

/-- A text that starts so starts with no blank. -/
theorem trim_prefix_of_start : trim text <+: text := by
  obtain ⟨first, rest, hstart, blank, _⟩ := c.exists_start
  apply trim_prefix
  obtain ⟨more, rfl⟩ := starts
  rw [hstart]
  rintro _ ⟨⟩
  exact blank

theorem head_trim_of_start {d : Char} {rest : List Char} (h : trim text = d :: rest) :
    d ∉ ['(', '{', 't', 'f', 'n'] := by
  obtain ⟨first, tail, hstart, _, apart⟩ := c.exists_start
  have within := trim_prefix_of_start starts
  rw [h] at within
  rw [hstart] at starts
  obtain ⟨more, rfl⟩ := within
  rwa [← (List.cons_prefix_cons.1 starts).1]

/-- What is cut off at the left of such a text starts so itself, or is too short to. -/
theorem prefix_of_start {left rest : List Char} (h : trim text = left ++ rest) :
    c.start <+: left ∨ left ∈ c.start.inits := by
  have within := trim_prefix_of_start starts
  rw [h] at within
  have within := (List.prefix_append left rest).trans within
  rw [List.mem_inits]
  exact List.prefix_or_prefix_of_prefix starts within

end Start

/-- What is read as a path does not start with the name of a connective and a space. -/
theorem not_prefix_of_parsePath (c : Connective) {text : List Char} {path : Path}
    (h : parsePath text = .ok path) : ¬c.start <+: text := by
  intro starts
  obtain ⟨hpoint, hchars⟩ := segments_of_parsePath h
  have bare : ∀ inner, trim text ≠ '{' :: (inner ++ ['}']) :=
    fun inner braced => head_trim_of_start starts braced (by simp)
  rw [stripBraces_of_not_braced bare, trim_trim] at hpoint hchars
  rcases prefix_of_start starts (List.append_nil (trim text)).symm with long | short
  · have space : ' ' ∈ c.start := by simp [start]
    exact absurd (hchars ' ' (long.subset space)) (by decide)
  · have hpoint := (List.mem_inits _ _).1 short |>.subset hpoint
    cases c <;> exact absurd hpoint (by decide)

theorem not_prefix_of_isOutline (c : Connective) {label : List Char} {o : Outline}
    (h : IsOutline label o) {e : Condition} (he : o.read? = some e) : ¬c.start <+: label := by
  have too_short : ∀ left ∈ c.start.inits, cut? left = none := by
    cases c <;> decide +kernel
  have first_starts : ∀ {text left rest : List Char} {o : Outline}, c.start <+: text →
      IsOutline left o → trim text = left ++ rest → c.start <+: left := by
    intro text left rest o starts outline written
    rcases prefix_of_start starts written with long | short
    · exact long
    · exact absurd (too_short left short) outline.cut?_ne_none
  intro starts
  induction h generalizing e with
  | group hcut _ _ => exact head_trim_of_start starts (isOf_of_cut? hcut) (by decide)
  | @const label value hcut =>
      have written : trim label = _ := isOf_of_cut? hcut
      cases value <;> exact head_trim_of_start starts written (by decide)
  | @or label left right _ _ hcut hl _ ihl _ =>
      obtain ⟨l, _, he, _, _⟩ := Outline.read?_both_eq_some.1 he
      have written : trim label = left ++ orWord ++ right := isOf_of_cut? hcut
      rw [List.append_assoc] at written
      exact ihl he (first_starts starts hl written)
  | @and label left right _ _ hcut hl _ ihl _ =>
      obtain ⟨l, _, he, _, _⟩ := Outline.read?_both_eq_some.1 he
      have written : trim label = left ++ andWord ++ right := isOf_of_cut? hcut
      rw [List.append_assoc] at written
      exact ihl he (first_starts starts hl written)
  | not hcut _ _ => exact head_trim_of_start starts (isOf_of_cut? hcut) (by decide)
  | compare hcut =>
      obtain ⟨path, _, hpath, _, _⟩ := Outline.read?_compare_eq_some.1 he
      obtain ⟨symbol, _, written⟩ := isOf_of_cut? hcut
      rw [List.append_assoc] at written
      rcases prefix_of_start starts written with long | short
      · exact c.not_prefix_of_parsePath hpath long
      · have unread : ∀ left ∈ c.start.inits, (parsePath left).toOption = none := by
          cases c <;> decide +kernel
        have nothing := unread _ short
        rw [hpath] at nothing
        cases nothing

/-- No condition starts with the name of a connective and a space. -/
theorem not_prefix_of_parseChars (c : Connective) {label : List Char} {e : Condition}
    (h : parseChars label = .ok e) : ¬c.start <+: label := by
  obtain ⟨o, outline, he⟩ := exists_read_of_parseChars h
  exact c.not_prefix_of_isOutline outline he

end Connective

end Workflow.Condition
