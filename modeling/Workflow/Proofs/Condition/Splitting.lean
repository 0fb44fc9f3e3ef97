import Workflow.Proofs.Condition.Words

/-!
# Cutting rewritten labels

Quotes and parentheses stand between words, and what a label is cut at starts and ends between words
with at most one name in it. So a tame rewriting of the words of a label leaves its nesting as it
is, and to cut the rewritten label is to cut the label and rewrite both parts.

The search for what a label is cut at counts on below zero where checking the balance stops. In a
balanced label the two counts are one, and proofs go by the one that stops.

Main statements: `findTop_eq_splitTop`, `splitTop_mapWords`, `afterStart?_mapWords` and
`stripParens_mapWords`.
-/

namespace Workflow.Condition

open Text

/-! ## Nesting -/

theorem isPlain_iff (c : Char) : isPlain c = true ↔ isQuote c = false ∧ c ≠ '(' ∧ c ≠ ')' := by
  simp [isPlain, and_assoc]

namespace Nesting

/-- The open quote of a nesting is a quote. -/
def Proper (n : Nesting) : Prop := ∀ q ∈ n.quote, isQuote q = true

theorem proper_outside : outside.Proper := by simp [Proper, outside]

theorem step_of_isWordChar {n : Nesting} (proper : n.Proper) {c : Char} (h : isWordChar c = true) :
    n.step c = some n := by
  cases hn : n.quote with
  | some q =>
      have : c ≠ q := (ne_of_apart (isWordChar_of_isQuote (proper q hn)) h).symm
      simp [step, hn, this]
  | none =>
      have hopen : c ≠ '(' := (ne_of_apart (by decide) h).symm
      have hclose : c ≠ ')' := (ne_of_apart (by decide) h).symm
      simp [step, hn, isQuote_of_isWordChar h, hopen, hclose]

/-- What a character may do to a nesting. -/
inductive Steps : Nesting → Char → Nesting → Prop where
  | closeQuote (q : Char) (depth : Nat) : Steps ⟨some q, depth⟩ q ⟨none, depth⟩
  | quoted {q c : Char} (depth : Nat) : c ≠ q → Steps ⟨some q, depth⟩ c ⟨some q, depth⟩
  | openQuote {c : Char} (depth : Nat) : isQuote c = true → Steps ⟨none, depth⟩ c ⟨some c, depth⟩
  | openGroup (depth : Nat) : Steps ⟨none, depth⟩ '(' ⟨none, depth + 1⟩
  | closeGroup (depth : Nat) : Steps ⟨none, depth + 1⟩ ')' ⟨none, depth⟩
  | plain {c : Char} (depth : Nat) : isPlain c = true → Steps ⟨none, depth⟩ c ⟨none, depth⟩

theorem step_of_isPlain {c : Char} (plain : isPlain c = true) (depth : Nat) :
    step ⟨none, depth⟩ c = some ⟨none, depth⟩ := by
  obtain ⟨hquote, hopen, hclose⟩ := (isPlain_iff c).1 plain
  simp [step, hquote, hopen, hclose]

theorem steps_of_step {n next : Nesting} {c : Char} (h : n.step c = some next) :
    Steps n c next := by
  obtain ⟨quote, depth⟩ := n
  cases quote with
  | some q =>
      obtain rfl := Option.some.inj h
      split
      · next hc =>
          subst hc
          exact .closeQuote c depth
      · next hc => exact .quoted depth hc
  | none =>
      simp only [step] at h
      by_cases hquote : isQuote c = true
      · rw [if_pos hquote] at h
        cases h
        exact .openQuote depth hquote
      rw [if_neg hquote] at h
      by_cases hopen : c = '('
      · rw [if_pos hopen] at h
        cases h
        exact hopen ▸ .openGroup depth
      rw [if_neg hopen] at h
      by_cases hclose : c = ')'
      · rw [if_pos hclose] at h
        cases depth with
        | zero => cases h
        | succ depth =>
            cases h
            exact hclose ▸ .closeGroup depth
      · rw [if_neg hclose] at h
        cases h
        exact .plain depth ((isPlain_iff c).2 ⟨by simpa using hquote, hopen, hclose⟩)

theorem step_eq_some_iff {n next : Nesting} {c : Char} : n.step c = some next ↔ Steps n c next := by
  refine ⟨steps_of_step, fun h => ?_⟩
  cases h with
  | closeQuote => simp [step]
  | quoted _ hne => simp [step, hne]
  | openQuote _ hquote => simp [step, hquote]
  | openGroup => simp [step, isQuote]
  | closeGroup => simp [step, isQuote]
  | plain depth plain => exact step_of_isPlain plain depth

theorem quote_of_step {n next : Nesting} {c : Char} (h : n.step c = some next) :
    next.quote = quoteAfter n.quote c := by
  cases steps_of_step h with
  | closeQuote => simp [quoteAfter]
  | quoted _ hne => simp [quoteAfter, hne]
  | openQuote _ hquote => simp [quoteAfter, hquote]
  | openGroup | closeGroup => rfl
  | plain _ plain => simp [quoteAfter, ((isPlain_iff c).1 plain).1]

theorem proper_of_step {n next : Nesting} (proper : n.Proper) {c : Char}
    (h : n.step c = some next) : next.Proper := by
  intro q hq
  rw [quote_of_step h] at hq
  unfold quoteAfter at hq
  split at hq
  · next q' hq' =>
      split at hq
      · cases hq
      · cases hq
        exact proper _ hq'
  · split at hq
    · next hc =>
        cases hq
        exact hc
    · cases hq

theorem after_cons (n : Nesting) (c : Char) (rest : List Char) :
    n.after (c :: rest) = (n.step c).bind fun next => next.after rest := by
  rw [after, List.foldlM_cons]
  rfl

/-- A text is gone through from its first character on. -/
theorem exists_of_after_cons {n m : Nesting} {c : Char} {rest : List Char}
    (h : n.after (c :: rest) = some m) :
    ∃ next, n.step c = some next ∧ next.after rest = some m := by
  rw [after_cons] at h
  exact Option.bind_eq_some_iff.1 h

/-- What holds where a text ends, and is kept by each character before that, holds of the text. -/
theorem after_induction {m : Nesting}
    {motive : (n : Nesting) → (text : List Char) → n.after text = some m → Prop}
    (nil : motive m [] rfl)
    (cons : ∀ n next c rest (hstep : n.step c = some next) (h : next.after rest = some m),
      motive next rest h → motive n (c :: rest) ((after_cons n c rest).trans (hstep ▸ h)))
    (n : Nesting) (text : List Char) (h : n.after text = some m) : motive n text h := by
  induction text generalizing n with
  | nil =>
      obtain rfl := Option.some.inj h
      exact nil
  | cons c rest ih =>
      obtain ⟨next, hstep, later⟩ := exists_of_after_cons h
      exact cons n next c rest hstep later (ih next later)

theorem after_word {n : Nesting} (proper : n.Proper) {word : List Char}
    (hword : ∀ c ∈ word, isWordChar c = true) (rest : List Char) :
    n.after (word ++ rest) = n.after rest := by
  induction word with
  | nil => rfl
  | cons c word ih =>
      rw [List.cons_append, after_cons, step_of_isWordChar proper (hword c (List.mem_cons_self ..)),
        Option.bind_some, ih fun d hd => hword d (List.mem_cons_of_mem c hd)]

theorem after_append (n : Nesting) (a b : List Char) :
    n.after (a ++ b) = (n.after a).bind fun m => m.after b :=
  List.foldlM_append

theorem proper_of_after {n m : Nesting} (proper : n.Proper) {text : List Char}
    (h : n.after text = some m) : m.Proper := by
  induction n, text, h using after_induction with
  | nil => exact proper
  | cons n next c rest hstep _ ih => exact ih (proper_of_step proper hstep)

theorem step_of_isBlank {n : Nesting} (proper : n.Proper) {c : Char} (h : isBlank c = true) :
    n.step c = some n := by
  have apart : ∀ {d : Char}, isBlank d = false → c ≠ d := by
    rintro d hd rfl
    rw [h] at hd
    cases hd
  cases hn : n.quote with
  | some q =>
      have other : c ≠ q := by
        rintro rfl
        exact absurd (proper c hn) (by simp [not_isQuote_of_isBlank h])
      simp [step, hn, other]
  | none =>
      have opening : c ≠ '(' := apart (by decide)
      have closing : c ≠ ')' := apart (by decide)
      simp [step, hn, not_isQuote_of_isBlank h, opening, closing]

theorem after_blanks {n : Nesting} (proper : n.Proper) {blanks : List Char}
    (h : ∀ c ∈ blanks, isBlank c = true) : n.after blanks = some n := by
  induction blanks with
  | nil => rfl
  | cons c blanks ih =>
      rw [after_cons, step_of_isBlank proper (h c List.mem_cons_self), Option.bind_some,
        ih fun d hd => h d (List.mem_cons_of_mem c hd)]

/-- A quoted run leaves the nesting as it is. -/
theorem after_quoted {quote : Char} (hquote : isQuote quote = true) {inner : List Char}
    (h : quote ∉ inner) : outside.after (quote :: (inner ++ [quote])) = some outside := by
  have opening : outside.step quote = some ⟨some quote, 0⟩ := by simp [step, outside, hquote]
  have inside : after ⟨some quote, 0⟩ (inner ++ [quote]) = some outside := by
    induction inner with
    | nil => simp [step, after, outside]
    | cons c inner ih =>
        have other : c ≠ quote := fun same => h (same ▸ List.mem_cons_self)
        rw [List.cons_append, after_cons]
        simpa [step, other] using ih fun hmem => h (List.mem_cons_of_mem c hmem)
  rw [after_cons, opening, Option.bind_some, inside]

end Nesting

theorem balanced_iff (text : List Char) :
    balanced text = true ↔ Nesting.outside.after text = some .outside :=
  decide_eq_true_iff

section Tame

variable {f : Bool → List Char → List Char} (tame : IsTame f)
include tame

/-- A word, also an empty one, is rewritten apart from what follows. -/
theorem mapWordsFrom_append_word (quote : Option Char) {word rest : List Char}
    (hword : ∀ c ∈ word, isWordChar c = true) (hrest : StartsApart rest) :
    mapWordsFrom f quote (word ++ rest) = f quote.isSome word ++ mapWordsFrom f quote rest := by
  by_cases hne : word = []
  · rw [hne, tame.nil, List.nil_append, List.nil_append]
  · exact mapWordsFrom_word hne hword hrest

theorem after_mapWordsFrom {n : Nesting} (proper : n.Proper) (text : List Char) :
    n.after (mapWordsFrom f n.quote text) = n.after text := by
  have any : ∀ quote text (n : Nesting), n.Proper → n.quote = quote →
      n.after (mapWordsFrom f quote text) = n.after text := by
    intro quote text
    induction quote, text using word_induction with
    | nil quote => intro n _ _; rw [mapWordsFrom_nil]
    | between quote c rest hc ih =>
        intro n proper hn
        rw [mapWordsFrom_between hc, Nesting.after_cons, Nesting.after_cons]
        cases hstep : n.step c with
        | none => rfl
        | some next =>
            rw [Option.bind_some, Option.bind_some, ih next (Nesting.proper_of_step proper hstep)
              (by rw [Nesting.quote_of_step hstep, hn])]
    | word quote word rest hne hword hrest ih =>
        intro n proper hn
        rw [mapWordsFrom_word hne hword hrest, Nesting.after_word proper (tame.word _ word hword),
          Nesting.after_word proper hword, ih n proper hn]
  exact any n.quote text n proper rfl

theorem balanced_mapWords (text : List Char) : balanced (mapWords f text) = balanced text := by
  rw [balanced, balanced]
  exact congrArg (fun n => decide (n = some Nesting.outside))
    (after_mapWordsFrom tame Nesting.proper_outside text)

end Tame

/-! ## Marks -/

theorem afterStart?_cons_cons (a c : Char) (start text : List Char) :
    afterStart? (a :: start) (c :: text) = if a = c then afterStart? start text else none := by
  by_cases h : a = c <;> simp [afterStart?, h]

/-- A text starts with a name that ends there just if its first word is that name. -/
theorem afterStart?_append {name word last rest : List Char}
    (hname : ∀ c ∈ name, isWordChar c = true) (hword : ∀ c ∈ word, isWordChar c = true)
    (hlast : StartsApart last) (hne : last ≠ []) (hrest : StartsApart rest) :
    afterStart? (name ++ last) (word ++ rest) =
      if name = word then afterStart? last rest else none := by
  obtain ⟨d, last', rfl⟩ := List.exists_cons_of_ne_nil hne
  have hd : isWordChar d = false := hlast d rfl
  induction name generalizing word with
  | nil =>
      cases word with
      | nil => rfl
      | cons c word =>
          have hc := hword c (List.mem_cons_self ..)
          rw [List.nil_append, List.cons_append, afterStart?_cons_cons, if_neg (ne_of_apart hd hc),
            if_neg (List.cons_ne_nil c word).symm]
  | cons a name ih =>
      have ha := hname a (List.mem_cons_self ..)
      cases word with
      | nil =>
          rw [if_neg (List.cons_ne_nil a name)]
          cases rest with
          | nil => rfl
          | cons c rest =>
              rw [List.cons_append, List.nil_append, afterStart?_cons_cons,
                if_neg (ne_of_apart (hrest c rfl) ha).symm]
      | cons c word =>
          rw [List.cons_append, List.cons_append, afterStart?_cons_cons,
            ih (fun e he => hname e (List.mem_cons_of_mem a he))
              fun e he => hword e (List.mem_cons_of_mem c he)]
          by_cases h : a = c
          · simp [h]
          · simp [h]

/-- A character between words that is no quote. -/
def isSpacer (c : Char) : Bool := !isWordChar c && !isQuote c

theorem isSpacer_iff (c : Char) : isSpacer c = true ↔ isWordChar c = false ∧ isQuote c = false := by
  simp [isSpacer]

/-- A name, if there is one, and spacers. A name at the very end would not be known to end there. -/
structure IsEnding (name last : List Char) : Prop where
  isName : ∀ c ∈ name, isNameChar c = true
  spacers : ∀ c ∈ last, isSpacer c = true
  ends : last = [] → name = []

/-- What a label is cut at starts between words. -/
structure IsMark (first : Char) (name last : List Char) : Prop extends IsEnding name last where
  apart : isWordChar first = false

section Tame

variable {f : Bool → List Char → List Char} (tame : IsTame f)
include tame

theorem afterStart?_between {last : List Char} (hlast : ∀ c ∈ last, isSpacer c = true)
    (text : List Char) :
    afterStart? last (mapWords f text) = (afterStart? last text).map (mapWords f) := by
  induction last generalizing text with
  | nil => rfl
  | cons d last ih =>
      obtain ⟨hd, hquote⟩ := (isSpacer_iff d).1 (hlast d (List.mem_cons_self ..))
      cases text with
      | nil =>
          rw [mapWords, mapWordsFrom_nil]
          rfl
      | cons c rest =>
          cases hc : isWordChar c with
          | false =>
              rw [mapWords, mapWordsFrom_between hc, afterStart?_cons_cons, afterStart?_cons_cons]
              by_cases h : d = c
              · subst h
                have unquoted : quoteAfter none d = none := by simp [quoteAfter, hquote]
                rw [if_pos rfl, if_pos rfl, unquoted]
                exact ih (fun e he => hlast e (List.mem_cons_of_mem d he)) rest
              · rw [if_neg h, if_neg h]
                rfl
          | true =>
              -- The text starts with a word, and so does the rewritten text.
              have apart : ∀ {word rest : List Char}, word ≠ [] →
                  (∀ e ∈ word, isWordChar e = true) → StartsApart rest →
                  afterStart? (d :: last) (word ++ rest) = none := by
                intro word rest hne hword hrest
                have h : afterStart? ([] ++ d :: last) (word ++ rest) = _ :=
                  afterStart?_append (by simp) hword (startsApart_cons hd last)
                    (List.cons_ne_nil d last) hrest
                rwa [if_neg hne.symm, List.nil_append] at h
              obtain ⟨word, rest', hsplit, hne, hword, hrest⟩ := exists_word hc rest
              rw [hsplit, mapWords, mapWordsFrom_word hne hword hrest,
                apart (tame.ne_nil _ _ hne hword) (tame.word _ _ hword)
                  (startsApart_mapWordsFrom hrest),
                apart hne hword hrest]
              rfl

/-- A name and what ends it are found at the start of the rewritten text where they are found at the
start of the text. -/
theorem afterStart?_mapWords {name last : List Char} (ending : IsEnding name last)
    (text : List Char) :
    afterStart? (name ++ last) (mapWords f text) =
      (afterStart? (name ++ last) text).map (mapWords f) := by
  by_cases hne : last = []
  · rw [hne, ending.ends hne]
    rfl
  · have hword : ∀ c ∈ text.takeWhile isWordChar, isWordChar c = true :=
      fun c hc => List.all_eq_true.1 List.all_takeWhile c hc
    have hrest := startsApart_dropWhile text
    have hname' : ∀ c ∈ name, isWordChar c = true :=
      fun c hc => isWordChar_of_isNameChar (ending.isName c hc)
    have hlast : StartsApart last :=
      fun c hc => ((isSpacer_iff c).1 (ending.spacers c (List.mem_of_mem_head? hc))).1
    rw [← List.takeWhile_append_dropWhile (p := isWordChar) (l := text), mapWords,
      mapWordsFrom_append_word tame none hword hrest,
      afterStart?_append hname' (tame.word _ _ hword) hlast hne (startsApart_mapWordsFrom hrest),
      afterStart?_append hname' hword hlast hne hrest]
    have same : name = f (none : Option Char).isSome (text.takeWhile isWordChar) ↔
        name = text.takeWhile isWordChar := by
      rw [eq_comm, tame.eq_iff hword ending.isName, eq_comm]
    by_cases h : name = text.takeWhile isWordChar
    · rw [if_pos (same.2 h), if_pos h]
      exact afterStart?_between tame ending.spacers _
    · rw [if_neg (same.not.2 h), if_neg h]
      rfl

end Tame

/-! ## Cutting -/

/-- The parts before and after the first occurrence of `needle` outside quotes and parentheses, for
a text that starts at a given nesting. Behind a parenthesis that closes what is not open there is
none. -/
def splitTopAt (needle : List Char) (n : Nesting) : List Char → Option (List Char × List Char)
  | [] => none
  | c :: rest =>
      if n = .outside ∧ isPlain c ∧ needle.isPrefixOf (c :: rest) then
        some ([], (c :: rest).drop needle.length)
      else
        match n.step c with
        | none => none
        | some next => (splitTopAt needle next rest).map fun parts => (c :: parts.1, parts.2)

/-- The parts before and after the first occurrence of `needle` outside quotes and parentheses. -/
def splitTop (needle text : List Char) : Option (List Char × List Char) :=
  splitTopAt needle .outside text

/-- A cut is made at the first character of a text, or it is one in the rest of it. -/
theorem splitTopAt_cons_cases {needle : List Char} {n : Nesting} {c : Char} {rest : List Char}
    {parts : List Char × List Char} (h : splitTopAt needle n (c :: rest) = some parts) :
    ((n = .outside ∧ isPlain c = true ∧ needle.isPrefixOf (c :: rest) = true) ∧
      parts = ([], (c :: rest).drop needle.length)) ∨
    (¬(n = .outside ∧ isPlain c = true ∧ needle.isPrefixOf (c :: rest) = true) ∧
      ∃ next later, n.step c = some next ∧ splitTopAt needle next rest = some later ∧
        parts = (c :: later.1, later.2)) := by
  rw [splitTopAt] at h
  split at h
  · next here => exact .inl ⟨here, (Option.some.inj h).symm⟩
  · next elsewhere =>
      split at h
      · cases h
      · next next hstep =>
          obtain ⟨later, hlater, rfl⟩ := Option.map_eq_some_iff.1 h
          exact .inr ⟨elsewhere, next, later, hstep, hlater, rfl⟩

theorem append_of_splitTopAt {needle : List Char} {n : Nesting} {text : List Char}
    {parts : List Char × List Char} (h : splitTopAt needle n text = some parts) :
    text = parts.1 ++ needle ++ parts.2 := by
  induction text generalizing n parts with
  | nil => cases h
  | cons c rest ih =>
      rcases splitTopAt_cons_cases h with ⟨⟨-, -, starts⟩, rfl⟩ | ⟨-, _, later, -, hlater, rfl⟩
      · rw [List.nil_append]
        exact (List.prefix_iff_eq_append.1 (List.isPrefixOf_iff_prefix.1 starts)).symm
      · simp [ih hlater]

theorem append_of_splitTop {needle text : List Char} {parts : List Char × List Char}
    (h : splitTop needle text = some parts) : text = parts.1 ++ needle ++ parts.2 :=
  append_of_splitTopAt h

/-! ### The search and its own count -/

namespace Nesting

/-- The nesting as the search for a connective counts it. -/
def tally (n : Nesting) : Tally := ⟨n.quote, n.depth⟩

theorem tally_eq_zero_iff (n : Nesting) : n.tally = .zero ↔ n = .outside := by
  obtain ⟨quote, depth⟩ := n
  simp [tally, Tally.zero, outside]

/-- As long as no parenthesis is refused both count the same. -/
theorem tally_step {n m : Nesting} {c : Char} (h : n.step c = some m) :
    n.tally.step c = m.tally := by
  cases steps_of_step h with
  | closeQuote => simp [tally, Tally.step]
  | quoted _ hne => simp [tally, Tally.step, hne]
  | openQuote _ hquote => simp [tally, Tally.step, hquote]
  | openGroup => simp [tally, Tally.step, isQuote]
  | closeGroup => simp [tally, Tally.step, isQuote]
  | plain _ plain => simp [tally, Tally.step, (isPlain_iff c).1 plain]

theorem tally_after {n m : Nesting} {text : List Char} (h : n.after text = some m) :
    n.tally.after text = m.tally := by
  induction n, text, h using after_induction with
  | nil => rfl
  | cons n next c rest hstep _ ih =>
      rw [Tally.after, List.foldl_cons, tally_step hstep]
      exact ih

end Nesting

theorem findTopAt_tally (needle : List Char) {n m : Nesting} {text : List Char}
    (h : n.after text = some m) : findTopAt needle n.tally text = splitTopAt needle n text := by
  induction n, text, h using Nesting.after_induction with
  | nil => rfl
  | cons n next c rest hstep _ ih =>
      simp only [findTopAt, splitTopAt, Nesting.tally_eq_zero_iff, Nesting.tally_step hstep, ih,
        hstep]

/-- In a balanced text the search finds what it would find if it refused parentheses that close
nothing. -/
theorem findTop_eq_splitTop (needle : List Char) {text : List Char}
    (closed : balanced text = true) : findTop needle text = splitTop needle text :=
  findTopAt_tally needle ((balanced_iff text).1 closed)

/-! ### Parts -/

theorem splitTopAt_cons (needle : List Char) (n : Nesting) (c : Char) (rest : List Char) :
    splitTopAt needle n (c :: rest) =
      ((if n = .outside ∧ isPlain c = true then afterStart? needle (c :: rest) else none).map
          fun tail => ([], tail)).or
        ((n.step c).bind fun next =>
          (splitTopAt needle next rest).map fun parts => (c :: parts.1, parts.2)) := by
  rw [splitTopAt, afterStart?]
  by_cases hn : n = .outside ∧ isPlain c = true
  · by_cases hp : needle.isPrefixOf (c :: rest) = true
    · rw [if_pos ⟨hn.1, hn.2, hp⟩, if_pos hn, if_pos hp]
      rfl
    · rw [if_neg fun h => hp h.2.2, if_pos hn, if_neg hp]
      cases n.step c <;> rfl
  · rw [if_neg hn, if_neg fun h => hn ⟨h.1, h.2.1⟩]
    cases n.step c <;> rfl

/-- Where a text is cut, nothing is open. -/
theorem after_of_splitTopAt {needle : List Char} {n : Nesting} {text : List Char}
    {parts : List Char × List Char} (h : splitTopAt needle n text = some parts) :
    n.after parts.1 = some .outside := by
  induction text generalizing n parts with
  | nil => cases h
  | cons c rest ih =>
      rcases splitTopAt_cons_cases h with ⟨⟨rfl, -⟩, rfl⟩ | ⟨-, next, later, hstep, hlater, rfl⟩
      · rfl
      · rw [Nesting.after_cons, hstep]
        exact ih hlater

/-- Where no cut is found in a text, none is found in the rest of it. -/
theorem splitTopAt_suffix {needle : List Char} {n m : Nesting} {before rest : List Char}
    (h : splitTopAt needle n (before ++ rest) = none) (hm : n.after before = some m) :
    splitTopAt needle m rest = none := by
  induction n, before, hm using Nesting.after_induction with
  | nil => exact h
  | cons n next c before hstep _ ih =>
      rw [List.cons_append, splitTopAt_cons, hstep, Option.bind_some] at h
      exact ih (Option.map_eq_none_iff.1 (Option.or_eq_none_iff.1 h).2)

/-- A needle at the start of a text is found. -/
theorem splitTop_ne_none {first : Char} (plain : isPlain first = true) {needle text : List Char}
    (h : first :: needle <+: text) : splitTop (first :: needle) text ≠ none := by
  obtain ⟨rest, rfl⟩ := h
  have found : (first :: needle).isPrefixOf (first :: (needle ++ rest)) = true :=
    List.isPrefixOf_iff_prefix.2 (List.prefix_append (first :: needle) rest)
  rw [splitTop, List.cons_append, splitTopAt, if_pos ⟨rfl, plain, found⟩]
  exact Option.some_ne_none _

/-- No cut is made inside a word. -/
theorem splitTopAt_word {first : Char} (hfirst : isWordChar first = false) (needle : List Char)
    {n : Nesting} (proper : n.Proper) {word : List Char}
    (hword : ∀ c ∈ word, isWordChar c = true) (rest : List Char) :
    splitTopAt (first :: needle) n (word ++ rest) =
      (splitTopAt (first :: needle) n rest).map fun parts => (word ++ parts.1, parts.2) := by
  induction word with
  | nil => simp
  | cons c word ih =>
      have hc := hword c (List.mem_cons_self ..)
      rw [List.cons_append, splitTopAt_cons, afterStart?_cons_cons,
        if_neg (ne_of_apart hfirst hc), ite_self,
        Nesting.step_of_isWordChar proper hc, Option.bind_some,
        ih fun d hd => hword d (List.mem_cons_of_mem c hd)]
      simp [Function.comp_def]

theorem startsApart_of_splitTopAt {needle : List Char} {n : Nesting} {text : List Char}
    {parts : List Char × List Char} (hapart : StartsApart text)
    (h : splitTopAt needle n text = some parts) : StartsApart parts.1 := by
  intro c hc
  have written := append_of_splitTopAt h
  obtain ⟨rest, hrest⟩ : ∃ rest, parts.1 = c :: rest := List.head?_eq_some_iff.1 hc
  refine hapart c ?_
  rw [written, hrest]
  rfl

section Tame

variable {f : Bool → List Char → List Char} (tame : IsTame f)
include tame

/-- Between words the rewriting neither makes a cut nor takes one away. -/
theorem cutHere_mapWordsFrom {first : Char} {name last : List Char} (mark : IsMark first name last)
    (n : Nesting) (c : Char) (rest : List Char) :
    (if n = .outside ∧ isPlain c = true then
        afterStart? (first :: (name ++ last)) (c :: mapWordsFrom f (quoteAfter n.quote c) rest)
      else none) =
      (if n = .outside ∧ isPlain c = true then
        afterStart? (first :: (name ++ last)) (c :: rest) else none).map (mapWords f) := by
  by_cases hplain : n = .outside ∧ isPlain c = true
  · rw [if_pos hplain, if_pos hplain, afterStart?_cons_cons, afterStart?_cons_cons]
    by_cases hfirst : first = c
    · -- A plain character outside quotes leaves no quote open.
      have unquoted : quoteAfter n.quote c = none := by
        obtain ⟨rfl, hc⟩ := hplain
        simp [quoteAfter, Nesting.outside, ((isPlain_iff c).1 hc).1]
      rw [if_pos hfirst, if_pos hfirst, unquoted]
      exact afterStart?_mapWords tame mark.toIsEnding rest
    · rw [if_neg hfirst, if_neg hfirst]
      rfl
  · rw [if_neg hplain, if_neg hplain]
    rfl

/-- The cut goes through the same place, wherever reading starts. -/
theorem splitTopAt_mapWordsFrom {first : Char} {name last : List Char}
    (mark : IsMark first name last) {n : Nesting} (proper : n.Proper) (text : List Char) :
    splitTopAt (first :: (name ++ last)) n (mapWordsFrom f n.quote text) =
      (splitTopAt (first :: (name ++ last)) n text).map fun parts =>
        (mapWordsFrom f n.quote parts.1, mapWords f parts.2) := by
  -- The quote is all that the rewriting knows of the nesting, so that the induction is on it.
  have any : ∀ quote text (n : Nesting), n.Proper → n.quote = quote →
      splitTopAt (first :: (name ++ last)) n (mapWordsFrom f quote text) =
        (splitTopAt (first :: (name ++ last)) n text).map fun parts =>
          (mapWordsFrom f quote parts.1, mapWords f parts.2) := by
    intro quote text
    induction quote, text using word_induction with
    | nil quote => intro n _ _; rw [mapWordsFrom_nil]; rfl
    | between quote c rest hc ih =>
        rintro n proper rfl
        rw [mapWordsFrom_between hc, splitTopAt_cons, splitTopAt_cons,
          cutHere_mapWordsFrom tame mark n c rest]
        cases hfound : (if n = .outside ∧ isPlain c = true then
            afterStart? (first :: (name ++ last)) (c :: rest) else none) with
        | some tail => simp [mapWordsFrom_nil]
        | none =>
            cases hstep : n.step c with
            | none => rfl
            | some next =>
                have hnext := Nesting.quote_of_step hstep
                simp [ih next (Nesting.proper_of_step proper hstep) hnext, Function.comp_def,
                  mapWordsFrom_between hc]
    | word quote word rest hne hword hrest ih =>
        intro n proper hn
        rw [mapWordsFrom_word hne hword hrest,
          splitTopAt_word mark.apart _ proper (tame.word _ word hword),
          splitTopAt_word mark.apart _ proper hword, ih n proper hn, Option.map_map, Option.map_map]
        refine Option.map_congr fun parts hparts => ?_
        have hapart := startsApart_of_splitTopAt hrest hparts
        simp only [Function.comp_apply, mapWordsFrom_word hne hword hapart]
  exact any n.quote text n proper rfl

theorem splitTop_mapWords {first : Char} {name last : List Char} (mark : IsMark first name last)
    (text : List Char) :
    splitTop (first :: (name ++ last)) (mapWords f text) =
      (splitTop (first :: (name ++ last)) text).map fun parts =>
        (mapWords f parts.1, mapWords f parts.2) :=
  splitTopAt_mapWordsFrom tame mark Nesting.proper_outside text

theorem head?_mapWords_iff {c : Char} (hc : isWordChar c = false) (text : List Char) :
    (mapWords f text).head? = some c ↔ text.head? = some c := by
  cases text with
  | nil => rw [mapWords, mapWordsFrom_nil]
  | cons d rest =>
      cases hd : isWordChar d with
      | false =>
          rw [mapWords, mapWordsFrom_between hd]
          rfl
      | true =>
          obtain ⟨word, rest', hsplit, hne, hword, hrest⟩ := exists_word hd rest
          have head : ∀ {word rest : List Char}, word ≠ [] → (∀ e ∈ word, isWordChar e = true) →
              (word ++ rest).head? ≠ some c := by
            intro word rest hne hword hhead
            obtain ⟨e, word', rfl⟩ := List.exists_cons_of_ne_nil hne
            exact ne_of_apart hc (hword e (List.mem_cons_self ..)) (Option.some.inj hhead).symm
          rw [hsplit, mapWords, mapWordsFrom_word hne hword hrest]
          exact iff_of_false (head (tame.ne_nil _ _ hne hword) (tame.word _ _ hword))
            (head hne hword)

theorem getLast?_mapWords_iff {c : Char} (hc : isWordChar c = false) (text : List Char) :
    (mapWords f text).getLast? = some c ↔ text.getLast? = some c := by
  rcases List.eq_nil_or_concat text with rfl | ⟨before, d, rfl⟩
  · rw [mapWords, mapWordsFrom_nil]
  · rw [List.concat_eq_append]
    cases hd : isWordChar d with
    | false => rw [mapWords, mapWordsFrom_snoc hd, List.getLast?_concat, List.getLast?_concat]
    | true =>
        obtain ⟨e, he, he_word⟩ := getLast?_mapWordsFrom tame none (before ++ [d]) ⟨d, by simp, hd⟩
        rw [mapWords, he, List.getLast?_concat, Option.some_inj, Option.some_inj]
        exact iff_of_false (ne_of_apart hc he_word).symm (ne_of_apart hc hd).symm

theorem stripParens_mapWords (text : List Char) :
    stripParens (mapWords f text) = (stripParens text).map (mapWords f) := by
  have without : ∀ text : List Char, text.head? ≠ some '(' → stripParens text = none := by
    intro text h
    unfold stripParens
    split
    · exact absurd rfl h
    · rfl
  by_cases hopen : text.head? = some '('
  · obtain ⟨rest, rfl⟩ := List.head?_eq_some_iff.1 hopen
    have hmapped : mapWords f ('(' :: rest) = '(' :: mapWords f rest :=
      mapWordsFrom_between (by decide) rest
    rw [hmapped, stripParens, stripParens]
    by_cases hclose : rest.getLast? = some ')'
    · obtain ⟨inner, rfl⟩ := List.getLast?_eq_some_iff.1 hclose
      have hinner : mapWords f (inner ++ [')']) = mapWords f inner ++ [')'] :=
        mapWordsFrom_snoc (by decide) none inner
      rw [hinner, List.dropLast_concat, List.dropLast_concat, List.getLast?_concat,
        List.getLast?_concat, balanced_mapWords tame]
      split <;> rfl
    · rw [if_neg fun h => hclose ((getLast?_mapWords_iff tame (by decide) rest).1 h.1),
        if_neg fun h => hclose h.1]
      rfl
  · rw [without text hopen,
      without _ fun h => hopen ((head?_mapWords_iff tame (by decide) text).1 h)]
    rfl

end Tame

end Workflow.Condition
