import Mathlib.Data.List.Induction
import Mathlib.Data.Nat.Init
import Workflow.Proofs.Reference.Substitution
import Workflow.Proofs.Text.Trimming

/-!
# Labels word by word

A word of a label is a stretch of the characters that names, paths and placeholders are made of.
Rewriting the words of a label one by one touches nothing that the reading of a label goes by:
blanks, quotes, parentheses and operators stand between words, and the connectives are names, which
a tame rewriting leaves alone and makes nothing else into.

Main statement: `trim_mapWords`.
-/

namespace Workflow.Condition

open Text

/-! ## Words -/

/-- A character of words: of names, or one that paths and placeholders are put together with. -/
def isWordChar (c : Char) : Bool := isNameChar c || c = '.' || c = '{' || c = '}'

theorem isWordChar_of_isNameChar {c : Char} (h : isNameChar c = true) : isWordChar c = true := by
  simp [isWordChar, h]

theorem isStop_of_not_isWordChar {c : Char} (h : isWordChar c = false) :
    Reference.isStop c = true ∧ c ≠ '{' := by
  simp only [isWordChar, Bool.or_eq_false_iff, decide_eq_false_iff_not] at h
  obtain ⟨⟨⟨hname, hdot⟩, hopen⟩, hclose⟩ := h
  exact ⟨by simp [Reference.isStop, hname, hdot, hclose], hopen⟩

theorem toNat_of_isWordChar {c : Char} (h : isWordChar c = true) :
    33 ≤ c.toNat ∧ c.toNat < 127 := by
  rw [isWordChar, isNameChar] at h
  delta Char.isAlphanum Char.isAlpha Char.isUpper Char.isLower Char.isDigit at h
  simp only [Bool.or_eq_true, Bool.and_eq_true, decide_eq_true_eq, ge_iff_le,
    UInt32.le_iff_toNat_le, Char.toNat_val] at h
  have within {low high : Char} (hlow : 33 ≤ low.toNat) (hhigh : high.toNat < 127)
      (h : low.toNat ≤ c.toNat ∧ c.toNat ≤ high.toNat) : 33 ≤ c.toNat ∧ c.toNat < 127 :=
    ⟨Nat.le_trans hlow h.1, Nat.lt_of_le_of_lt h.2 hhigh⟩
  rcases h with (((((((h | h) | h) | rfl) | rfl) | rfl) | rfl) | rfl)
  · exact within (by decide) (by decide) h
  · exact within (by decide) (by decide) h
  · exact within (by decide) (by decide) h
  all_goals decide

theorem isBlank_of_isWordChar {c : Char} (h : isWordChar c = true) : isBlank c = false := by
  obtain ⟨low, high⟩ := toNat_of_isWordChar h
  have space : c ≠ ' ' := by
    rintro rfl
    exact absurd low (by decide)
  rw [isBlank, if_pos (by omega)]
  simp [space]
  omega

theorem isWordChar_of_isQuote {c : Char} (h : isQuote c = true) : isWordChar c = false := by
  simp only [isQuote, Bool.or_eq_true, decide_eq_true_eq] at h
  rcases h with rfl | rfl <;> decide

theorem isQuote_of_isWordChar {c : Char} (h : isWordChar c = true) : isQuote c = false := by
  cases hq : isQuote c with
  | false => rfl
  | true =>
      rw [isWordChar_of_isQuote hq] at h
      cases h

theorem ne_of_apart {c d : Char} (hc : isWordChar c = false) (hd : isWordChar d = true) :
    c ≠ d := by
  rintro rfl
  rw [hc] at hd
  cases hd

/-- The quote that is open after a character. -/
def quoteAfter (quote : Option Char) (c : Char) : Option Char :=
  match quote with
  | some q => if c = q then none else some q
  | none => if isQuote c then some c else none

/-- White space stands between words and opens no quote. -/
theorem between_of_isBlank {c : Char} (h : isBlank c = true) :
    isWordChar c = false ∧ quoteAfter none c = none := by
  constructor
  · cases hword : isWordChar c with
    | false => rfl
    | true =>
        rw [isBlank_of_isWordChar hword] at h
        cases h
  · cases hq : isQuote c with
    | false => simp [quoteAfter, hq]
    | true =>
        simp only [isQuote, Bool.or_eq_true, decide_eq_true_eq] at hq
        rcases hq with rfl | rfl <;> exact absurd h (by decide)

theorem not_isQuote_of_isBlank {c : Char} (h : isBlank c = true) : isQuote c = false := by
  cases hc : isQuote c with
  | false => rfl
  | true =>
      have unquoted := (between_of_isBlank h).2
      rw [quoteAfter, if_pos hc] at unquoted
      cases unquoted

theorem not_isBlank_of_isQuote {c : Char} (h : isQuote c = true) : isBlank c = false := by
  by_contra blank
  rw [not_isQuote_of_isBlank (by simpa using blank)] at h
  cases h

theorem dropWhile_isBlank_word {word : List Char} (hne : word ≠ [])
    (hword : ∀ c ∈ word, isWordChar c = true) (rest : List Char) :
    (word ++ rest).dropWhile isBlank = word ++ rest := by
  obtain ⟨c, word, rfl⟩ := List.exists_cons_of_ne_nil hne
  exact List.dropWhile_cons_of_neg
    (by simp [isBlank_of_isWordChar (hword c (List.mem_cons_self ..))])

/-- Rewrites the words of a text that starts with this quote open; the rewriting is told whether a
word stands in quotes. -/
def mapWordsFrom (f : Bool → List Char → List Char) (quote : Option Char) : List Char → List Char
  | [] => []
  | c :: rest =>
      if isWordChar c then
        f quote.isSome ((c :: rest).takeWhile isWordChar)
          ++ mapWordsFrom f quote (rest.dropWhile isWordChar)
      else c :: mapWordsFrom f (quoteAfter quote c) rest
termination_by text => text.length
decreasing_by
  · exact Nat.lt_succ_of_le (List.dropWhile_suffix isWordChar).length_le
  · simp

/-- Rewrites the words of a text. -/
def mapWords (f : Bool → List Char → List Char) (text : List Char) : List Char :=
  mapWordsFrom f none text

/-- The text does not start in the middle of a word. -/
def StartsApart (text : List Char) : Prop := ∀ c ∈ text.head?, isWordChar c = false

theorem startsApart_nil : StartsApart [] := by simp [StartsApart]

theorem startsApart_cons {c : Char} (h : isWordChar c = false) (rest : List Char) :
    StartsApart (c :: rest) := by
  simpa [StartsApart] using h

theorem startsApart_dropWhile (text : List Char) : StartsApart (text.dropWhile isWordChar) := by
  intro c hc
  have h := List.head?_dropWhile_not isWordChar text
  rw [Option.mem_def.1 hc] at h
  exact h

theorem takeWhile_word {word rest : List Char} (hword : ∀ c ∈ word, isWordChar c = true)
    (hrest : StartsApart rest) : (word ++ rest).takeWhile isWordChar = word := by
  rw [List.takeWhile_append_of_pos hword]
  cases rest with
  | nil => simp
  | cons c rest => simp [hrest c rfl]

theorem dropWhile_word {word rest : List Char} (hword : ∀ c ∈ word, isWordChar c = true)
    (hrest : StartsApart rest) : (word ++ rest).dropWhile isWordChar = rest := by
  rw [List.dropWhile_append_of_pos hword]
  cases rest with
  | nil => rfl
  | cons c rest => simp [hrest c rfl]

theorem exists_word {c : Char} (h : isWordChar c = true) (rest : List Char) :
    ∃ word rest', c :: rest = word ++ rest' ∧ word ≠ [] ∧ (∀ d ∈ word, isWordChar d = true) ∧
      StartsApart rest' :=
  ⟨(c :: rest).takeWhile isWordChar, (c :: rest).dropWhile isWordChar,
    List.takeWhile_append_dropWhile.symm, by simp [h],
    fun d hd => List.all_eq_true.1 List.all_takeWhile d hd, startsApart_dropWhile _⟩

/-- A text is empty, or starts with a character between words, or with a word. -/
theorem word_induction {motive : Option Char → List Char → Prop}
    (nil : ∀ quote, motive quote [])
    (between : ∀ quote c rest, isWordChar c = false → motive (quoteAfter quote c) rest →
      motive quote (c :: rest))
    (word : ∀ quote word rest, word ≠ [] → (∀ c ∈ word, isWordChar c = true) → StartsApart rest →
      motive quote rest → motive quote (word ++ rest))
    (quote : Option Char) (text : List Char) : motive quote text := by
  induction hn : text.length using Nat.strong_induction_on generalizing quote text with
  | _ n ih =>
      cases text with
      | nil => exact nil quote
      | cons c rest =>
          cases hc : isWordChar c with
          | false =>
              refine between quote c rest hc (ih rest.length ?_ _ rest rfl)
              rw [← hn, List.length_cons]
              exact Nat.lt_succ_self _
          | true =>
              obtain ⟨w, rest', hsplit, hne, hw, hrest'⟩ := exists_word hc rest
              rw [hsplit] at hn ⊢
              refine word quote w rest' hne hw hrest' (ih rest'.length ?_ _ rest' rfl)
              have := List.length_pos_iff.2 hne
              rw [← hn, List.length_append]
              omega

section Unfolding

variable {f : Bool → List Char → List Char} {quote : Option Char}

theorem mapWordsFrom_nil : mapWordsFrom f quote [] = [] := by rw [mapWordsFrom]

theorem mapWordsFrom_between {c : Char} (h : isWordChar c = false) (rest : List Char) :
    mapWordsFrom f quote (c :: rest) = c :: mapWordsFrom f (quoteAfter quote c) rest := by
  rw [mapWordsFrom, if_neg (by simp [h])]

theorem mapWordsFrom_word {word rest : List Char} (hne : word ≠ [])
    (hword : ∀ c ∈ word, isWordChar c = true) (hrest : StartsApart rest) :
    mapWordsFrom f quote (word ++ rest) = f quote.isSome word ++ mapWordsFrom f quote rest := by
  cases word with
  | nil => exact absurd rfl hne
  | cons c word =>
      have hc := hword c (List.mem_cons_self ..)
      have take := takeWhile_word hword hrest
      have drop := dropWhile_word (fun d hd => hword d (List.mem_cons_of_mem c hd)) hrest
      rw [List.cons_append] at take ⊢
      rw [mapWordsFrom, if_pos hc, take, drop]

theorem mapWordsFrom_single {word : List Char} (hne : word ≠ [])
    (hword : ∀ c ∈ word, isWordChar c = true) :
    mapWordsFrom f quote word = f quote.isSome word := by
  have h : mapWordsFrom f quote (word ++ []) = _ := mapWordsFrom_word hne hword startsApart_nil
  rwa [List.append_nil, mapWordsFrom_nil, List.append_nil] at h

theorem startsApart_mapWordsFrom {text : List Char} (h : StartsApart text) :
    StartsApart (mapWordsFrom f quote text) := by
  cases text with
  | nil =>
      rw [mapWordsFrom_nil]
      exact startsApart_nil
  | cons c rest =>
      have hc := h c rfl
      rw [mapWordsFrom_between hc]
      exact startsApart_cons hc _

/-- What is not a word comes through at the end of a text. -/
theorem mapWordsFrom_snoc {c : Char} (h : isWordChar c = false) (quote : Option Char)
    (text : List Char) :
    mapWordsFrom f quote (text ++ [c]) = mapWordsFrom f quote text ++ [c] := by
  induction quote, text using word_induction with
  | nil quote =>
      rw [List.nil_append, mapWordsFrom_between h, mapWordsFrom_nil, mapWordsFrom_nil]
      rfl
  | between quote d rest hd ih =>
      rw [List.cons_append, mapWordsFrom_between hd, mapWordsFrom_between hd, ih, List.cons_append]
  | word quote word rest hne hword hrest ih =>
      have apart : StartsApart (rest ++ [c]) := by
        cases rest with
        | nil => exact startsApart_cons h []
        | cons d rest => exact startsApart_cons (hrest d rfl) _
      rw [List.append_assoc, mapWordsFrom_word hne hword apart, mapWordsFrom_word hne hword hrest,
        ih, List.append_assoc]

/-- Rewriting no word changes nothing. -/
theorem mapWordsFrom_eq_self (quote : Option Char) (text : List Char)
    (h : ∀ inside word, word <:+: text → f inside word = word) :
    mapWordsFrom f quote text = text := by
  induction quote, text using word_induction with
  | nil quote => exact mapWordsFrom_nil
  | between quote c rest hc ih =>
      rw [mapWordsFrom_between hc, ih fun inside word hw =>
        h inside word (hw.trans (List.suffix_cons c rest).isInfix)]
  | word quote word rest hne hword hrest ih =>
      rw [mapWordsFrom_word hne hword hrest,
        h _ word (List.prefix_append word rest).isInfix, ih fun inside w hw =>
          h inside w (hw.trans (List.suffix_append word rest).isInfix)]

end Unfolding

/-! ## Tame rewritings -/

/-- A rewriting that makes words of words, leaves names alone and makes nothing else into them. -/
structure IsTame (f : Bool → List Char → List Char) : Prop where
  ne_nil : ∀ inside word, word ≠ [] → (∀ c ∈ word, isWordChar c = true) → f inside word ≠ []
  word : ∀ inside word, (∀ c ∈ word, isWordChar c = true) →
    ∀ c ∈ f inside word, isWordChar c = true
  changed : ∀ inside word, (∀ c ∈ word, isWordChar c = true) → f inside word ≠ word →
    (∃ c ∈ word, isNameChar c = false) ∧ ∃ c ∈ f inside word, isNameChar c = false

section Tame

variable {f : Bool → List Char → List Char} (tame : IsTame f)
include tame

theorem IsTame.eq_iff {inside : Bool} {word name : List Char}
    (hword : ∀ c ∈ word, isWordChar c = true) (hname : ∀ c ∈ name, isNameChar c = true) :
    f inside word = name ↔ word = name := by
  by_cases h : f inside word = word
  · rw [h]
  · obtain ⟨⟨c, hc, hother⟩, d, hd, hother'⟩ := tame.changed inside word hword h
    refine iff_of_false ?_ ?_
    · rintro rfl
      rw [hname d hd] at hother'
      cases hother'
    · rintro rfl
      rw [hname c hc] at hother
      cases hother

theorem IsTame.nil (inside : Bool) : f inside [] = [] :=
  (tame.eq_iff (by simp) (by simp)).2 rfl

theorem mapWordsFrom_eq_nil_iff (quote : Option Char) (text : List Char) :
    mapWordsFrom f quote text = [] ↔ text = [] := by
  induction quote, text using word_induction with
  | nil quote => simp [mapWordsFrom_nil]
  | between quote c rest hc ih => simp [mapWordsFrom_between hc]
  | word quote word rest hne hword hrest ih =>
      rw [mapWordsFrom_word hne hword hrest]
      simp [hne, tame.ne_nil quote.isSome word hne hword]

/-- No characters come up between words. -/
theorem not_mem_mapWordsFrom {c : Char} (hc : isWordChar c = false) (quote : Option Char)
    (text : List Char) : c ∉ text → c ∉ mapWordsFrom f quote text := by
  induction quote, text using word_induction with
  | nil quote =>
      rw [mapWordsFrom_nil]
      exact id
  | between quote d rest hd ih =>
      rw [mapWordsFrom_between hd, List.mem_cons, List.mem_cons]
      exact mt (Or.imp_right fun h => by_contra fun h' => ih h' h)
  | word quote word rest hne hword hrest ih =>
      rw [mapWordsFrom_word hne hword hrest, List.mem_append, List.mem_append]
      rintro h (h' | h')
      · exact ne_of_apart hc (tame.word _ word hword c h') rfl
      · exact ih (fun hmem => h (.inr hmem)) h'

/-! ### Trimming -/

theorem dropWhile_mapWords (text : List Char) :
    (mapWords f text).dropWhile isBlank = mapWords f (text.dropWhile isBlank) := by
  -- Blanks open no quote, so that no other case comes up.
  have outside : ∀ quote text, quote = none →
      (mapWordsFrom f quote text).dropWhile isBlank =
        mapWordsFrom f quote (text.dropWhile isBlank) := by
    intro quote text
    induction quote, text using word_induction with
    | nil quote => intro _; rw [mapWordsFrom_nil, List.dropWhile_nil, mapWordsFrom_nil]
    | between quote c rest hc ih =>
        rintro rfl
        rw [mapWordsFrom_between hc]
        cases hblank : isBlank c with
        | false =>
            rw [List.dropWhile_cons_of_neg (by simp [hblank]),
              List.dropWhile_cons_of_neg (by simp [hblank]), mapWordsFrom_between hc]
        | true =>
            have unquoted := (between_of_isBlank hblank).2
            rw [List.dropWhile_cons_of_pos hblank, List.dropWhile_cons_of_pos hblank, unquoted]
            rw [unquoted] at ih
            exact ih rfl
    | word quote word rest hne hword hrest ih =>
        rintro rfl
        rw [mapWordsFrom_word hne hword hrest]
        rw [dropWhile_isBlank_word (tame.ne_nil _ word hne hword) (tame.word _ word hword),
          dropWhile_isBlank_word hne hword, mapWordsFrom_word hne hword hrest]
  exact outside none text rfl

/-- A text that ends with a word still does. -/
theorem getLast?_mapWordsFrom (quote : Option Char) (text : List Char) :
    (∃ c ∈ text.getLast?, isWordChar c = true) →
      ∃ d ∈ (mapWordsFrom f quote text).getLast?, isWordChar d = true := by
  induction quote, text using word_induction with
  | nil quote => rintro ⟨c, hc, _⟩; cases hc
  | between quote c rest hc ih =>
      rintro ⟨d, hd, hword⟩
      cases rest with
      | nil =>
          obtain rfl : c = d := by simpa using hd
          rw [hc] at hword
          cases hword
      | cons e rest =>
          rw [List.getLast?_cons_cons] at hd
          obtain ⟨d', hd', hword'⟩ := ih ⟨d, hd, hword⟩
          have hne := (mapWordsFrom_eq_nil_iff tame (quoteAfter quote c) (e :: rest)).not.2
            (List.cons_ne_nil e rest)
          rw [mapWordsFrom_between hc]
          obtain ⟨e', rest', hcons⟩ := List.exists_cons_of_ne_nil hne
          rw [hcons] at hd' ⊢
          rw [List.getLast?_cons_cons]
          exact ⟨d', hd', hword'⟩
  | word quote word rest hne hword hrest ih =>
      rintro ⟨d, hd, hd_word⟩
      rw [mapWordsFrom_word hne hword hrest]
      cases rest with
      | nil =>
          have hlast := List.getLast?_eq_some_getLast (tame.ne_nil quote.isSome word hne hword)
          rw [mapWordsFrom_nil, List.append_nil]
          exact ⟨_, hlast, tame.word _ word hword _ (List.getLast_mem _)⟩
      | cons e rest =>
          have last_rest : ∀ {before after : List Char}, after ≠ [] →
              (before ++ after).getLast? = after.getLast? := by
            intro before after hafter
            rw [List.getLast?_append, List.getLast?_eq_some_getLast hafter, Option.some_or]
          rw [last_rest (List.cons_ne_nil e rest)] at hd
          obtain ⟨d', hd', hword'⟩ := ih ⟨d, hd, hd_word⟩
          rw [last_rest ((mapWordsFrom_eq_nil_iff tame quote (e :: rest)).not.2
            (List.cons_ne_nil e rest))]
          exact ⟨d', hd', hword'⟩

theorem dropEndWhile_mapWordsFrom (quote : Option Char) (text : List Char) :
    dropEndWhile isBlank (mapWordsFrom f quote text) =
      mapWordsFrom f quote (dropEndWhile isBlank text) := by
  have snoc : ∀ (l : List Char) (c : Char), dropEndWhile isBlank (l ++ [c]) =
      if isBlank c then dropEndWhile isBlank l else l ++ [c] := by
    intro l c
    rw [dropEndWhile, List.reverse_append, List.reverse_singleton, List.singleton_append,
      List.dropWhile_cons]
    split
    · rfl
    · simp
  induction text using List.reverseRecOn with
  | nil =>
      rw [mapWordsFrom_nil]
      exact mapWordsFrom_nil.symm
  | append_singleton text c ih =>
      cases hc : isWordChar c with
      | false =>
          rw [mapWordsFrom_snoc hc, snoc, snoc]
          split
          · exact ih
          · exact (mapWordsFrom_snoc hc quote text).symm
      | true =>
          obtain ⟨d, hd, hword⟩ := getLast?_mapWordsFrom tame quote (text ++ [c]) ⟨c, by simp, hc⟩
          obtain ⟨before, hsplit⟩ := List.getLast?_eq_some_iff.1 hd
          rw [snoc, if_neg (by simp [isBlank_of_isWordChar hc]), hsplit, snoc,
            if_neg (by simp [isBlank_of_isWordChar hword])]

theorem trim_mapWords (text : List Char) : trim (mapWords f text) = mapWords f (trim text) := by
  rw [trim, trimWhile, dropWhile_mapWords tame]
  exact dropEndWhile_mapWordsFrom tame none _

end Tame

end Workflow.Condition
