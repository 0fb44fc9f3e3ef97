import Mathlib.Data.List.Infix
import Workflow.Text.Blank

/-!
# Trimmed texts

Trimming takes the characters of a class away from both ends of a text. What is left starts and
ends with characters outside the class, or is nothing; and of a stretch that does so, nothing is
taken away, whatever characters of the class stand around it.

Main statements: `exists_trimWhile`, `trimWhile_between` and `trimWhile_eq_self_iff`.
-/

namespace Workflow.Text

variable {p : Char → Bool} {before text after : List Char}

/-- The text neither starts nor ends with a character of the class. -/
structure IsTrimmed (p : Char → Bool) (text : List Char) : Prop where
  starts : ∀ c ∈ text.head?, p c = false
  ends : ∀ c ∈ text.getLast?, p c = false

theorem IsTrimmed.reverse (h : IsTrimmed p text) : IsTrimmed p text.reverse where
  starts := by
    rw [List.head?_reverse]
    exact h.ends
  ends := by
    rw [List.getLast?_reverse]
    exact h.starts

/-- Characters outside the class are no reason to trim. -/
theorem isTrimmed_of_forall (h : ∀ c ∈ text, p c = false) : IsTrimmed p text where
  starts c hc := h c (List.mem_of_mem_head? hc)
  ends c hc := h c (List.mem_of_getLast? hc)

theorem dropWhile_eq_self_of_head? (h : ∀ c ∈ text.head?, p c = false) :
    text.dropWhile p = text := by
  cases text with
  | nil => rfl
  | cons c text => exact List.dropWhile_cons_of_neg (by simp [h c rfl])

/-- What is taken away at either end are characters of the class. -/
theorem exists_trimWhile (p : Char → Bool) (text : List Char) :
    ∃ before after, (∀ c ∈ before, p c = true) ∧ (∀ c ∈ after, p c = true) ∧
      text = before ++ trimWhile p text ++ after := by
  have taken : ∀ l : List Char, ∀ c ∈ l.takeWhile p, p c = true :=
    fun l c hc => List.all_eq_true.1 List.all_takeWhile c hc
  refine ⟨text.takeWhile p, ((text.dropWhile p).reverse.takeWhile p).reverse, taken text,
    fun c hc => taken _ c (List.mem_reverse.1 hc), ?_⟩
  rw [trimWhile, dropEndWhile, List.append_assoc, ← List.reverse_append,
    List.takeWhile_append_dropWhile, List.reverse_reverse, List.takeWhile_append_dropWhile]

theorem trimWhile_isInfix (p : Char → Bool) (text : List Char) : trimWhile p text <:+: text := by
  obtain ⟨before, after, _, _, heq⟩ := exists_trimWhile p text
  exact ⟨before, after, heq.symm⟩

theorem isTrimmed_trimWhile (p : Char → Bool) (text : List Char) :
    IsTrimmed p (trimWhile p text) where
  starts := by
    intro c hc
    obtain ⟨rest, hrest⟩ := List.head?_eq_some_iff.1 hc
    have start : trimWhile p text <+: text.dropWhile p := by
      rw [← List.reverse_suffix, trimWhile, dropEndWhile, List.reverse_reverse]
      exact List.dropWhile_suffix p
    obtain ⟨more, hmore⟩ := start
    have head := List.head?_dropWhile_not p text
    rw [← hmore, hrest] at head
    exact head
  ends := by
    intro c hc
    have head := List.head?_dropWhile_not p (text.dropWhile p).reverse
    rw [trimWhile, dropEndWhile, List.getLast?_reverse, Option.mem_def] at hc
    rw [hc] at head
    exact head

/-- A trimmed text is what is left when characters of the class around it are taken away. -/
theorem trimWhile_between (hbefore : ∀ c ∈ before, p c = true) (hafter : ∀ c ∈ after, p c = true)
    (h : IsTrimmed p text) : trimWhile p (before ++ text ++ after) = text := by
  rw [trimWhile, List.append_assoc, List.dropWhile_append_of_pos hbefore, dropEndWhile]
  by_cases hne : text = []
  · subst hne
    have nothing : (after ++ []).dropWhile p = [] := List.dropWhile_append_of_pos hafter
    rw [List.append_nil] at nothing
    rw [List.nil_append, nothing]
    rfl
  · have first : (text ++ after).dropWhile p = text ++ after := by
      apply dropWhile_eq_self_of_head?
      rw [List.head?_append_of_ne_nil _ hne]
      exact h.starts
    rw [first, List.reverse_append,
      List.dropWhile_append_of_pos fun c hc => hafter c (List.mem_reverse.1 hc),
      dropWhile_eq_self_of_head? h.reverse.starts, List.reverse_reverse]

/-- Nothing is taken away from the trimmed texts, and from no others. -/
theorem trimWhile_eq_self_iff : trimWhile p text = text ↔ IsTrimmed p text := by
  constructor
  · intro same
    rw [← same]
    exact isTrimmed_trimWhile p text
  · intro trimmed
    have nothing : ∀ c ∈ ([] : List Char), p c = true := by simp
    have around := trimWhile_between nothing nothing trimmed
    rwa [List.nil_append, List.append_nil] at around

/-! ## White space -/

theorem exists_blanks_trim (text : List Char) :
    ∃ before after, (∀ c ∈ before, isBlank c = true) ∧ (∀ c ∈ after, isBlank c = true) ∧
      text = before ++ trim text ++ after :=
  exists_trimWhile isBlank text

theorem trim_isInfix (text : List Char) : trim text <:+: text := trimWhile_isInfix isBlank text

theorem isTrimmed_trim (text : List Char) : IsTrimmed isBlank (trim text) :=
  isTrimmed_trimWhile isBlank text

theorem trim_between (hbefore : ∀ c ∈ before, isBlank c = true)
    (hafter : ∀ c ∈ after, isBlank c = true) (h : IsTrimmed isBlank text) :
    trim (before ++ text ++ after) = text :=
  trimWhile_between hbefore hafter h

theorem trim_eq_self (h : IsTrimmed isBlank text) : trim text = text := trimWhile_eq_self_iff.2 h

end Workflow.Text
