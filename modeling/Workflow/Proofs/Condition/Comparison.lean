import Workflow.Proofs.Condition.Outline
import Workflow.Proofs.Condition.Renaming

/-!
# Comparisons under renaming

A label may spell the path of a comparison bare, as a placeholder, or in braces that stand apart
from it. These spellings are the ones that renaming sees; it turns each of them into a spelling of
the renamed path. A literal is kept if it holds no placeholder and none of the paths outside its
quotes.

Main statements: `parsePath_of_spells` and `parseLiteral_mapWords`.
-/

namespace Workflow.Condition

open Text

/-! ## Paths in writing -/

/-- The parts, each after a point. -/
def dotted (parts : List String) : List Char := parts.flatMap fun part => '.' :: part.toList

/-- Whether every part of the path is a name. -/
def HasNames (path : Path) : Prop := ∀ part ∈ path.segments, isName part = true

instance (path : Path) : Decidable (HasNames path) :=
  inferInstanceAs (Decidable (∀ part ∈ path.segments, isName part = true))

theorem toList_intercalate_point (first : String) (parts : List String) :
    (".".intercalate (first :: parts)).toList = first.toList ++ dotted parts := by
  induction parts generalizing first with
  | nil => simp [dotted]
  | cons part parts ih =>
      rw [String.intercalate_cons_cons, String.toList_append, String.toList_append, ih]
      simp [dotted]

theorem toList_text (path : Path) :
    path.text.toList = path.step.toList ++ dotted (path.field :: path.inner) :=
  toList_intercalate_point path.step (path.field :: path.inner)

theorem isWordChar_of_mem_dotted {parts : List String} (h : ∀ part ∈ parts, isName part = true) :
    ∀ c ∈ dotted parts, isWordChar c = true := by
  intro c hc
  obtain ⟨part, hpart, hc⟩ := List.mem_flatMap.1 hc
  rcases List.mem_cons.1 hc with rfl | hc
  · decide
  · exact isWordChar_of_isNameChar (((isName_iff part).1 (h part hpart)).2 c hc)

section Names

variable {path : Path} (names : HasNames path)
include names

theorem isName_step : isName path.step = true := names _ (List.mem_cons_self ..)

theorem isName_parts : ∀ part ∈ path.field :: path.inner, isName part = true :=
  fun part hpart => names part (List.mem_cons_of_mem _ hpart)

theorem isWordChar_of_mem_text : ∀ c ∈ path.text.toList, isWordChar c = true := by
  intro c hc
  rw [toList_text] at hc
  rcases List.mem_append.1 hc with hc | hc
  · exact isWordChar_of_isNameChar (((isName_iff _).1 (isName_step names)).2 c hc)
  · exact isWordChar_of_mem_dotted (isName_parts names) c hc

theorem not_mem_text_brace : '{' ∉ path.text.toList ∧ '}' ∉ path.text.toList := by
  have parts : ∀ c ∈ path.text.toList, isNameChar c = true ∨ c = '.' := by
    intro c hc
    rw [toList_text] at hc
    rcases List.mem_append.1 hc with hc | hc
    · exact .inl (((isName_iff _).1 (isName_step names)).2 c hc)
    · obtain ⟨part, hpart, hc⟩ := List.mem_flatMap.1 hc
      rcases List.mem_cons.1 hc with rfl | hc
      · exact .inr rfl
      · exact .inl (((isName_iff part).1 (isName_parts names part hpart)).2 c hc)
  refine ⟨fun h => ?_, fun h => ?_⟩
  · exact absurd (parts _ h) (by decide)
  · exact absurd (parts _ h) (by decide)

theorem text_ne_nil : path.text.toList ≠ [] := by
  rw [toList_text]
  exact fun h => ((isName_iff _).1 (isName_step names)).1 (List.append_eq_nil_iff.1 h).1

theorem exists_text_eq_cons : ∃ c rest, path.text.toList = c :: rest ∧ isNameChar c = true := by
  obtain ⟨hne, hchars⟩ := (isName_iff _).1 (isName_step names)
  obtain ⟨c, rest, hstep⟩ := List.exists_cons_of_ne_nil hne
  refine ⟨c, rest ++ dotted (path.field :: path.inner), ?_, hchars c (by rw [hstep]; simp)⟩
  rw [toList_text, hstep, List.cons_append]

end Names

/-! ### Cutting at points -/

theorem point_not_mem_name {name : String} (h : isName name = true) : '.' ∉ name.toList := by
  intro hpoint
  exact absurd (((isName_iff name).1 h).2 _ hpoint) (by decide)

theorem splitOn_dotted {first : String} {parts : List String} (hfirst : isName first = true)
    (hparts : ∀ part ∈ parts, isName part = true) :
    (first.toList ++ dotted parts).splitOn '.' = (first :: parts).map String.toList := by
  induction parts generalizing first with
  | nil =>
      rw [dotted, List.flatMap_nil, List.append_nil,
        List.splitOn_eq_singleton (point_not_mem_name hfirst)]
      rfl
  | cons part parts ih =>
      have hrest : dotted (part :: parts) = '.' :: (part.toList ++ dotted parts) := by
        simp [dotted]
      rw [hrest, List.splitOn_append_cons_self_of_not_mem (point_not_mem_name hfirst),
        ih (hparts part (List.mem_cons_self ..)) fun p hp =>
          hparts p (List.mem_cons_of_mem part hp)]
      rfl

theorem isSegment_of_isName {name : String} (h : isName name = true) :
    isSegment name.toList = true := by
  obtain ⟨hne, hchars⟩ := (isName_iff name).1 h
  have all : ∀ c ∈ name.toList, (isAlphanumeric c || c = '_' || c = '-') = true := by
    intro c hc
    have hname := hchars c hc
    have ascii := (toNat_of_isWordChar (isWordChar_of_isNameChar hname)).2
    rw [isAlphanumeric_ascii (by omega)]
    exact hname
  rw [isSegment, Bool.and_eq_true, List.all_eq_true]
  exact ⟨by simp [hne], all⟩

/-! ## Spellings -/

/-- The spellings of a path that renaming sees. -/
inductive SpellsPath (path : Path) : List Char → Prop where
  | bare : SpellsPath path path.text.toList
  | placeholder : path.inner = [] →
      SpellsPath path (Reference.output path.step path.field).chars
  | apart {before after : List Char} : before ≠ [] → after ≠ [] →
      (∀ c ∈ before, isBlank c = true) → (∀ c ∈ after, isBlank c = true) →
      SpellsPath path ('{' :: (before ++ path.text.toList ++ after ++ ['}']))

theorem chars_output (path : Path) (h : path.inner = []) :
    (Reference.output path.step path.field).chars = '{' :: (path.text.toList ++ ['}']) := by
  rw [toList_text, h, Reference.chars]
  simp [dotted]

/-- A spelling is read as its path. -/
theorem parsePath_of_spells {path : Path} (names : HasNames path) {text : List Char}
    (h : SpellsPath path (trim text)) : parsePath text = .ok path := by
  have word := isWordChar_of_mem_text names
  obtain ⟨c, rest, hcons, hname⟩ := exists_text_eq_cons names
  have unspaced : IsTrimmed isBlank path.text.toList :=
    isTrimmed_of_forall fun d hd => isBlank_of_isWordChar (word d hd)
  have braced : ∀ inner : List Char, stripBraces ('{' :: (inner ++ ['}'])) = inner := by
    intro inner
    simp [stripBraces, beforeEnd?]
  -- Braces come off first, and the blanks within them after that.
  have stripped : trim (stripBraces (trim text)) = path.text.toList := by
    have alone := trim_eq_self unspaced
    generalize trim text = raw at h
    cases h with
    | bare =>
        have open_ne : c ≠ '{' := by
          rintro rfl
          exact absurd hname (by decide)
        have unbraced : stripBraces path.text.toList = path.text.toList := by
          rw [hcons]
          simp [stripBraces, open_ne]
        rw [unbraced, alone]
    | placeholder hinner => rw [chars_output path hinner, braced, alone]
    | apart _ _ hbefore hafter => rw [braced, trim_between hbefore hafter unspaced]
  have segments : path.text.toList.splitOn '.' = path.segments.map String.toList := by
    rw [toList_text]
    exact splitOn_dotted (isName_step names) (isName_parts names)
  have valid : (path.segments.map String.toList).all isSegment = true := by
    rw [List.all_map, List.all_eq_true]
    exact fun part hpart => isSegment_of_isName (names part hpart)
  have whole : Path.ofSegments? ((path.segments.map String.toList).map String.ofList) =
      some path := by
    simp [Path.segments, Path.ofSegments?]
  simp only [parsePath, stripped, segments, whole, valid, if_true]

/-! ### Placeholders in a spelling -/

section Placeholders

variable {path : Path} (names : HasNames path)
include names

theorem isReadable_output : (Reference.output path.step path.field).isReadable = true := by
  rw [Reference.isReadable, isName_step names, isName_parts names _ (List.mem_cons_self ..)]
  rfl

theorem references_bare : (Template.ofChars path.text.toList).references = [] :=
  Template.references_ofChars_of_not_mem (not_mem_text_brace names).1

theorem references_apart {before after : List Char} (hbefore : before ≠ [])
    (blank : ∀ c ∈ before, isBlank c = true) (blank' : ∀ c ∈ after, isBlank c = true) :
    (Template.ofChars ('{' :: (before ++ path.text.toList ++ after ++ ['}']))).references = [] := by
  obtain ⟨c, before, rfl⟩ := List.exists_cons_of_ne_nil hbefore
  have hc := blank c (List.mem_cons_self ..)
  have other : ∀ {l : List Char}, (∀ d ∈ l, isBlank d = true) → '{' ∉ l := by
    intro l hl h
    exact absurd (hl _ h) (by decide)
  have opening : (Template.ofChars ['{']).references = [] := by
    rw [Template.ofChars_of_read?_none rfl, Template.ofChars]
    rfl
  have rest : '{' ∉ before ++ path.text.toList ++ after ++ ['}'] := by
    have hbefore := other fun d hd => blank d (List.mem_cons_of_mem c hd)
    simp [hbefore, (not_mem_text_brace names).1, other blank']
  have cut := references_append_between (between_of_isBlank hc).1 ['{']
    (before ++ path.text.toList ++ after ++ ['}'])
  rw [opening, Template.references_ofChars_of_not_mem rest] at cut
  exact cut

/-- A spelling holds at most the placeholder of its path. -/
theorem eq_of_mem_references {text : List Char} (h : SpellsPath path text) {r : Reference}
    (hr : r ∈ (Template.ofChars text).references) : r = .output path.step path.field := by
  cases h with
  | bare =>
      rw [references_bare names] at hr
      cases hr
  | placeholder hinner =>
      have read := Reference.read?_chars_append (isReadable_output names) []
      rw [List.append_nil] at read
      rw [Template.ofChars_of_read? read, Template.ofChars] at hr
      exact List.mem_singleton.1 hr
  | apart hbefore _ blank blank' =>
      rw [references_apart names hbefore blank blank'] at hr
      cases hr

end Placeholders

/-! ### Rewriting a spelling -/

section Spellings

variable {f : Bool → List Char → List Char} {path new : Path}

theorem mapWords_bare (names : HasNames path) (h : f false path.text.toList = new.text.toList) :
    mapWords f path.text.toList = new.text.toList := by
  rw [mapWords, mapWordsFrom_single (text_ne_nil names) (isWordChar_of_mem_text names),
    Option.isSome_none, h]

theorem mapWords_placeholder (names : HasNames path)
    (h : f false (Reference.output path.step path.field).chars =
      (Reference.output new.step new.field).chars) :
    mapWords f (Reference.output path.step path.field).chars =
      (Reference.output new.step new.field).chars := by
  rw [mapWords, mapWordsFrom_single (Reference.chars_ne_nil _)
    fun c hc => isWordChar_of_mem_chars (isReadable_output names) hc, Option.isSome_none, h]

theorem mapWordsFrom_blanks {blanks : List Char} (h : ∀ c ∈ blanks, isBlank c = true)
    (rest : List Char) :
    mapWordsFrom f none (blanks ++ rest) = blanks ++ mapWordsFrom f none rest := by
  induction blanks with
  | nil => rfl
  | cons c blanks ih =>
      have hc := h c (List.mem_cons_self ..)
      obtain ⟨hword, unquoted⟩ := between_of_isBlank hc
      rw [List.cons_append, mapWordsFrom_between hword, unquoted,
        ih fun d hd => h d (List.mem_cons_of_mem c hd), List.cons_append]

theorem mapWords_apart (names : HasNames path) (hopen : f false ['{'] = ['{'])
    (hclose : f false ['}'] = ['}']) (h : f false path.text.toList = new.text.toList)
    {before after : List Char} (hbefore : before ≠ []) (hafter : after ≠ [])
    (blank : ∀ c ∈ before, isBlank c = true) (blank' : ∀ c ∈ after, isBlank c = true) :
    mapWords f ('{' :: (before ++ path.text.toList ++ after ++ ['}'])) =
      '{' :: (before ++ new.text.toList ++ after ++ ['}']) := by
  have starts : ∀ {blanks : List Char} (rest : List Char), blanks ≠ [] →
      (∀ c ∈ blanks, isBlank c = true) → StartsApart (blanks ++ rest) := by
    intro blanks rest hne hblank
    obtain ⟨c, blanks, rfl⟩ := List.exists_cons_of_ne_nil hne
    exact startsApart_cons (between_of_isBlank (hblank c (List.mem_cons_self ..))).1 _
  have closing : mapWordsFrom f none ['}'] = ['}'] := by
    rw [mapWordsFrom_single (by simp) (List.all_eq_true.1 (by decide)), Option.isSome_none, hclose]
  calc mapWords f ('{' :: (before ++ path.text.toList ++ after ++ ['}']))
      = mapWordsFrom f none (['{'] ++ (before ++ (path.text.toList ++ (after ++ ['}'])))) := by
        simp [mapWords]
    _ = ['{'] ++ (before ++ (new.text.toList ++ (after ++ ['}']))) := by
        rw [mapWordsFrom_word (by simp) (List.all_eq_true.1 (by decide)) (starts _ hbefore blank),
          mapWordsFrom_blanks blank,
          mapWordsFrom_word (text_ne_nil names) (isWordChar_of_mem_text names)
            (starts _ hafter blank'),
          mapWordsFrom_blanks blank', closing, Option.isSome_none, hopen, h]
    _ = '{' :: (before ++ new.text.toList ++ after ++ ['}']) := by simp

end Spellings

/-! ### Replacing placeholders -/

section Placeholders

variable {replace : Reference → Option Reference} {path : Path}

theorem substituteWord_chars {r : Reference} (readable : r.isReadable = true) (inside : Bool) :
    substituteWord replace inside r.chars = (r.replacedBy replace).chars := by
  have read := Reference.read?_chars_append readable []
  rw [List.append_nil] at read
  rw [substituteWord, Template.ofChars_of_read? read, Template.substitute_cons_reference,
    Template.render, Template.ofChars]
  exact List.append_nil _

end Placeholders

/-! ### Renaming paths -/

theorem dottedNames_dotted {parts : List String} (hparts : ∀ part ∈ parts, isName part = true)
    {rest : List Char} (hrest : ∀ c ∈ rest.head?, isNameChar c = false ∧ c ≠ '.') :
    dottedNames (dotted parts ++ rest) = dotted parts := by
  induction parts with
  | nil =>
      unfold dottedNames
      split
      · next tail heq =>
          have ended := hrest '.' (by rw [show rest = '.' :: tail from heq]; rfl)
          exact absurd rfl ended.2
      · rfl
  | cons part parts ih =>
      have hpart := hparts part (List.mem_cons_self ..)
      have hcons : dotted (part :: parts) = '.' :: (part.toList ++ dotted parts) := by
        simp [dotted]
      have next_char : ∀ c ∈ (dotted parts ++ rest).head?, isNameChar c = false := by
        intro c hc
        cases parts with
        | nil => exact (hrest c hc).1
        | cons p parts =>
            obtain rfl : '.' = c := Option.some.inj hc
            decide
      obtain ⟨leading, after⟩ :=
        leadingName_isName_append ((leadingName_eq_nil_iff _).2 next_char) hpart
      rw [hcons, List.cons_append, List.append_assoc, dottedNames, leading, after,
        if_neg ((isName_iff part).1 hpart).1,
        ih fun p hp => hparts p (List.mem_cons_of_mem part hp)]

theorem leadingPath?_text {path : Path} (names : HasNames path) {rest : List Char}
    (hrest : ∀ c ∈ rest.head?, isNameChar c = false ∧ c ≠ '.') :
    leadingPath? (path.text.toList ++ rest) = some path.text.toList := by
  have hstep := isName_step names
  have next_char : ∀ c ∈ (dotted (path.field :: path.inner) ++ rest).head?,
      isNameChar c = false := by
    intro c hc
    obtain rfl : '.' = c := Option.some.inj hc
    decide
  obtain ⟨leading, after⟩ :=
    leadingName_isName_append ((leadingName_eq_nil_iff _).2 next_char) hstep
  have parts := dottedNames_dotted (isName_parts names) hrest
  have dotted_ne : dotted (path.field :: path.inner) ≠ [] := by simp [dotted]
  rw [toList_text, List.append_assoc, leadingPath?, leading, after, parts, if_neg]
  exact fun h => h.elim ((isName_iff _).1 hstep).1 dotted_ne

section Tokens

variable (paths : List Path) (rename : String → Option String) {path : Path}
  (names : HasNames path)
include names

/-- A path that the condition reads follows its step. -/
theorem renameTokens_text {new : String} (hpath : path ∈ paths)
    (hnew : rename path.step = some new) :
    renameTokens paths rename path.text.toList =
      (Path.mk new path.field path.inner).text.toList := by
  obtain ⟨c, rest, hcons, hname⟩ := exists_text_eq_cons names
  have hopen : c ≠ '{' := by
    rintro rfl
    exact absurd hname (by decide)
  have leading : leadingPath? (path.text.toList ++ []) = _ := leadingPath?_text names (by simp)
  rw [List.append_nil] at leading
  have token : leadingToken? path.text.toList = some path.text.toList := by
    rw [hcons] at leading ⊢
    rw [leadingToken?_of_ne hopen, leading, Option.map_some, List.drop_length, closingBrace,
      List.append_nil]
    simp
  have before : ∀ d ∈ path.step.toList, decide (d ≠ '.') = true := by
    intro d hd
    refine decide_eq_true fun heq => ?_
    exact point_not_mem_name (isName_step names) (heq ▸ hd)
  have step : path.text.toList.takeWhile (· ≠ '.') = path.step.toList ∧
      path.text.toList.dropWhile (· ≠ '.') = dotted (path.field :: path.inner) := by
    rw [toList_text, List.takeWhile_append_of_pos before, List.dropWhile_append_of_pos before]
    simp [dotted]
  have renamed : renameToken paths rename path.text.toList =
      new.toList ++ dotted (path.field :: path.inner) := by
    have seen : ¬(path.text.toList.head? = some '{' ∨
        String.ofList path.text.toList ∉ paths.map Path.text) := by
      rintro (h | h)
      · rw [hcons] at h
        exact hopen (Option.some.inj h)
      · rw [String.ofList_toList] at h
        exact h (List.mem_map_of_mem hpath)
    rw [renameToken, if_neg seen, step.1, step.2, String.ofList_toList, hnew]
  rw [renameTokens_of_token paths rename token, renamed, List.drop_length, renameTokens,
    List.append_nil, toList_text]

/-- A placeholder is not renamed a second time. -/
theorem renameTokens_placeholder (hinner : path.inner = []) :
    renameTokens paths rename (Reference.output path.step path.field).chars =
      (Reference.output path.step path.field).chars := by
  rw [chars_output path hinner]
  have leading : leadingPath? (path.text.toList ++ ['}']) = _ :=
    leadingPath?_text names fun c hc => by
      cases hc
      decide
  have token : leadingToken? ('{' :: (path.text.toList ++ ['}'])) =
      some ('{' :: (path.text.toList ++ ['}'])) := by
    rw [leadingToken?, leading, Option.map_some, List.drop_left]
    rfl
  rw [renameTokens_of_token paths rename token, List.drop_length, renameTokens, List.append_nil,
    renameToken, if_pos (.inl rfl)]

end Tokens

theorem renameTokens_brace (paths : List Path) (rename : String → Option String) :
    renameTokens paths rename ['{'] = ['{'] ∧ renameTokens paths rename ['}'] = ['}'] := by
  have opening : leadingToken? ['{'] = none := rfl
  have closing : leadingToken? ['}'] = none := rfl
  rw [renameTokens_of_none _ _ opening, renameTokens_of_none _ _ closing, renameTokens]
  exact ⟨rfl, rfl⟩

/-! ## Literals -/

/-- Renaming keeps the right side of a comparison: no placeholder stands in it, and it is one quoted
run, or none of the paths occurs in it. -/
def IsPlainLiteral (paths : List Path) (right : List Char) : Prop :=
  (Template.ofChars right).references = [] ∧
    ((∃ quote inner, isQuote quote = true ∧ quote ∉ inner ∧
        trim right = quote :: (inner ++ [quote])) ∨
      ∀ path ∈ paths, ¬path.text.toList <:+: right)

/-- Renaming touches nothing but placeholders in the right side of a comparison: it is one quoted
run, or neither a placeholder nor one of the paths occurs in it. -/
def IsSparedLiteral (paths : List Path) (right : List Char) : Prop :=
  (∃ quote inner, isQuote quote = true ∧ quote ∉ inner ∧
      trim right = quote :: (inner ++ [quote])) ∨
    (Template.ofChars right).references = [] ∧ ∀ path ∈ paths, ¬path.text.toList <:+: right

theorem IsPlainLiteral.isSpared {paths : List Path} {right : List Char}
    (h : IsPlainLiteral paths right) : IsSparedLiteral paths right :=
  h.2.imp_right fun absent => ⟨h.1, absent⟩

theorem parseLiteral_congr {a b : List Char} (h : trim a = trim b) :
    parseLiteral a = parseLiteral b := by
  unfold parseLiteral
  rw [h]

/-- Quotes around a text make it a literal. -/
theorem parseLiteral_of_quoted {text inner : List Char} {quote : Char}
    (hquote : isQuote quote = true) (h : trim text = quote :: (inner ++ [quote])) :
    parseLiteral text = .ok (.text (String.ofList inner)) := by
  have quoted : stripQuotes? (trim text) = some inner := by
    rw [h, stripQuotes?, if_pos hquote, beforeEnd?, if_pos (by simp), List.dropLast_concat]
  -- No word that is a literal by itself starts with a quote.
  have word : ∀ {w : String}, w.toList.head?.any isQuote = false →
      String.ofList (trim text) ≠ w := by
    rintro _ unquoted rfl
    rw [String.toList_ofList, h, List.head?_cons, Option.any_some, hquote] at unquoted
    cases unquoted
  unfold parseLiteral
  dsimp only
  split
  · next hword => exact absurd hword (word (by decide))
  · next hword => exact absurd hword (word (by decide))
  · next hword => exact absurd hword (word (by decide))
  · rw [quoted]

/-- What is read as a literal: one of three words, a quoted text, or a number. -/
theorem parseLiteral_cases {text : List Char} {literal : Literal}
    (h : parseLiteral text = .ok literal) :
    ((∃ word ∈ ["null", "true", "false"], trim text = word.toList) ∧
        ∀ value, literal ≠ .text value) ∨
      (∃ inner, stripQuotes? (trim text) = some inner ∧ literal = .text (String.ofList inner)) ∨
      ∃ value, Binary64.read? (trim text) = some value ∧ literal = .number value := by
  have written : ∀ {word : String}, String.ofList (trim text) = word → trim text = word.toList := by
    rintro _ rfl
    exact String.toList_ofList.symm
  unfold parseLiteral at h
  dsimp only at h
  split at h
  · next hword =>
      cases h
      exact .inl ⟨⟨_, by simp, written hword⟩, nofun⟩
  · next hword =>
      cases h
      exact .inl ⟨⟨_, by simp, written hword⟩, nofun⟩
  · next hword =>
      cases h
      exact .inl ⟨⟨_, by simp, written hword⟩, nofun⟩
  · split at h
    · next inner hquoted =>
        cases h
        exact .inr (.inl ⟨inner, hquoted, rfl⟩)
    · split at h
      · next value hnumber =>
          cases h
          exact .inr (.inr ⟨value, hnumber, rfl⟩)
      · cases h

theorem stripQuotes?_of_parseLiteral {text : List Char} {value : String}
    (h : parseLiteral text = .ok (.text value)) : stripQuotes? (trim text) = some value.toList := by
  rcases parseLiteral_cases h with ⟨_, other⟩ | ⟨inner, hquoted, htext⟩ | ⟨_, _, hnumber⟩
  · exact absurd rfl (other value)
  · cases htext
    rw [hquoted, String.toList_ofList]
  · cases hnumber

/-- A text literal is written in quotes. -/
theorem exists_quote_of_stripQuotes? {text inner : List Char} (h : stripQuotes? text = some inner) :
    ∃ quote, isQuote quote = true ∧ text = quote :: (inner ++ [quote]) := by
  unfold stripQuotes? at h
  split at h
  · next quote rest =>
      split at h
      · next hquote =>
          unfold beforeEnd? at h
          split at h
          · next hlast =>
              cases h
              obtain ⟨before, rfl⟩ := List.getLast?_eq_some_iff.1 hlast
              exact ⟨quote, hquote, by rw [List.dropLast_concat]⟩
          · cases h
      · cases h
  · cases h

theorem mapWords_substituteWord_eq_self {replace : Reference → Option Reference}
    {text : List Char} (h : (Template.ofChars text).references = []) :
    mapWords (substituteWord replace) text = text :=
  (render_substitute_eq_mapWordsFrom replace none text).symm.trans (substituteWord_eq_self h false)

section Tokens

variable {paths : List Path} {rename : String → Option String}

theorem renameTokens_eq_self {text : List Char} (h : ∀ path ∈ paths, ¬path.text.toList <:+: text) :
    renameTokens paths rename text = text := by
  fun_induction renameTokens paths rename text with
  | case1 => rfl
  | case2 c rest token htoken ih =>
      obtain ⟨tail, htail⟩ := leadingToken?_isPrefix htoken
      have kept : renameToken paths rename token = token := by
        refine if_pos (.inr fun hmem => ?_)
        obtain ⟨path, hpath, htext⟩ := List.mem_map.1 hmem
        refine h path hpath ?_
        rw [htext, String.toList_ofList]
        exact (leadingToken?_isPrefix htoken).isInfix
      rw [kept, ih fun path hpath hin =>
        h path hpath (hin.trans (List.drop_suffix token.length (c :: rest)).isInfix), ← htail,
        List.drop_left]
  | case3 c rest htoken ih =>
      rw [ih fun path hpath hin => h path hpath (hin.trans (List.suffix_cons c rest).isInfix)]

theorem mapWords_renameWord_eq_self {text : List Char}
    (h : ∀ path ∈ paths, ¬path.text.toList <:+: text) :
    mapWords (renameWord paths rename) text = text := by
  refine mapWordsFrom_eq_self none text fun inside word hword => ?_
  cases inside with
  | true => rfl
  | false => exact renameTokens_eq_self fun path hpath hin => h path hpath (hin.trans hword)

/-- Renaming the steps of a condition is a rewriting of words, told of its paths. -/
theorem toList_renameSteps_eq_mapWords {rename : String → Option String} {label : String}
    {e : Condition} (h : parse label = .ok e) :
    (renameSteps rename label).toList = mapWords (renameWord e.paths rename) label.toList := by
  rw [renameSteps, h]
  dsimp only
  split
  · next hpaths =>
      rw [hpaths]
      exact (mapWords_renameWord_eq_self (by simp)).symm
  · rw [String.toList_ofList, mapUnquoted_renameTokens]

theorem mapWordsFrom_renameWord_inside {quote : Char} (hquote : isQuote quote = true)
    {inner : List Char} (hinner : quote ∉ inner) (rest : List Char) :
    mapWordsFrom (renameWord paths rename) (some quote) (inner ++ rest) =
      inner ++ mapWordsFrom (renameWord paths rename) (some quote) rest := by
  induction inner with
  | nil => rfl
  | cons c inner ih =>
      have hc : c ≠ quote := fun e => hinner (e ▸ List.mem_cons_self ..)
      have still : quoteAfter (some quote) c = some quote := by simp [quoteAfter, hc]
      rw [List.cons_append, mapWordsFrom_renameWord_quoted _ _ hquote, still,
        ih fun h => hinner (List.mem_cons_of_mem c h), List.cons_append]

theorem mapWords_renameWord_quoted {quote : Char} (hquote : isQuote quote = true)
    {inner : List Char} (hinner : quote ∉ inner) :
    mapWords (renameWord paths rename) (quote :: (inner ++ [quote])) =
      quote :: (inner ++ [quote]) := by
  have apart := isWordChar_of_isQuote hquote
  have opened : quoteAfter none quote = some quote := by simp [quoteAfter, hquote]
  rw [mapWords, mapWordsFrom_between apart, opened, mapWordsFrom_renameWord_inside hquote hinner,
    mapWordsFrom_between apart, mapWordsFrom_nil]

/-- Of a quoted literal the placeholders are replaced. -/
theorem mapWords_substituteWord_quoted {replace : Reference → Option Reference} {quote : Char}
    (hquote : isQuote quote = true) (inner : List Char) :
    mapWords (substituteWord replace) (quote :: (inner ++ [quote])) =
      quote :: (((Template.ofChars inner).substitute replace).render ++ [quote]) := by
  have apart := isWordChar_of_isQuote hquote
  rw [mapWords, mapWordsFrom_between apart, mapWordsFrom_snoc apart,
    ← render_substitute_eq_mapWordsFrom]

/-- Placeholders in quotes do not end the quoted run. -/
theorem quote_not_mem_render_substitute {replace : Reference → Option Reference}
    (tame : IsTame (substituteWord replace)) {quote : Char} (hquote : isQuote quote = true)
    {inner : List Char} (hinner : quote ∉ inner) :
    quote ∉ ((Template.ofChars inner).substitute replace).render := by
  rw [render_substitute_eq_mapWordsFrom replace none]
  exact not_mem_mapWordsFrom tame (isWordChar_of_isQuote hquote) none inner hinner

theorem substituteText_of_spared {replace : Reference → Option Reference} {right : List Char}
    {literal : Literal} (h : parseLiteral right = .ok literal)
    (noReferences : (Template.ofChars right).references = []) :
    mapText (substituteText replace) literal = literal := by
  cases literal with
  | text value =>
      obtain ⟨quote, hquote, heq⟩ := exists_quote_of_stripQuotes? (stripQuotes?_of_parseLiteral h)
      have apart := isWordChar_of_isQuote hquote
      have last : (Template.ofChars []).references = [] := by rw [Template.ofChars]; rfl
      rw [← references_trim, heq, references_cons_between apart, references_append_between apart,
        last, List.append_nil] at noReferences
      rw [mapText, substituteText_eq_self noReferences]
  | number value => rfl
  | bool value => rfl
  | null => rfl

/-- Of a spared literal only the placeholders are replaced. -/
theorem parseLiteral_of_spared {replace : Reference → Option Reference}
    (tame : IsTame (renameWord paths rename)) (tame' : IsTame (substituteWord replace))
    {right : List Char} {literal : Literal} (h : IsSparedLiteral paths right)
    (hliteral : parseLiteral right = .ok literal) :
    parseLiteral (mapWords (renameWord paths rename) (mapWords (substituteWord replace) right)) =
      .ok (mapText (substituteText replace) literal) := by
  rcases h with ⟨quote, inner, hquote, hinner, htrim⟩ | ⟨noReferences, absent⟩
  · rw [parseLiteral_of_quoted hquote htrim] at hliteral
    cases hliteral
    have unquoted := quote_not_mem_render_substitute tame' hquote hinner
    have trimmed : trim (mapWords (renameWord paths rename)
        (mapWords (substituteWord replace) right)) =
          quote :: (((Template.ofChars inner).substitute replace).render ++ [quote]) := by
      rw [trim_mapWords tame, trim_mapWords tame', htrim,
        mapWords_substituteWord_quoted hquote inner, mapWords_renameWord_quoted hquote unquoted]
    rw [parseLiteral_of_quoted hquote trimmed, mapText, substituteText, Template.ofText,
      String.toList_ofList]
  · rw [mapWords_substituteWord_eq_self noReferences, mapWords_renameWord_eq_self absent, hliteral,
      substituteText_of_spared hliteral noReferences]

/-- A plain literal is read as before. -/
theorem parseLiteral_mapWords {replace : Reference → Option Reference}
    (tame : IsTame (renameWord paths rename)) {right : List Char} (h : IsPlainLiteral paths right) :
    parseLiteral (mapWords (renameWord paths rename) (mapWords (substituteWord replace) right)) =
      parseLiteral right := by
  obtain ⟨noReferences, ⟨quote, inner, hquote, hinner, htrim⟩ | absent⟩ := h
  · rw [mapWords_substituteWord_eq_self noReferences]
    refine parseLiteral_congr ?_
    rw [trim_mapWords tame, htrim, mapWords_renameWord_quoted hquote hinner]
  · rw [mapWords_substituteWord_eq_self noReferences, mapWords_renameWord_eq_self absent]

end Tokens

end Workflow.Condition
