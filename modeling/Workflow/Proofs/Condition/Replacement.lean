import Workflow.Proofs.Condition.Comparison

/-!
# Conditions with other placeholders

Reading takes the braces off a path, whether they are those of a placeholder or not. So a condition
is still a condition when its placeholders are replaced by ones of other outputs, even inside the
quotes of a literal. The new condition reads the new outputs where the placeholders are its paths.

Main statement: `exists_parse_substituteText`.
-/

namespace Workflow

/-! ## Characters of literals -/

/-- A character that stands in no literal but in texts. -/
structure Foreign (c : Char) : Prop where
  no_word : ∀ word ∈ ["null", "true", "false"], c ∉ word.toList
  no_digit : c.isDigit = false
  no_sign : c ≠ '-' ∧ c ≠ '+'
  no_point : c ≠ '.'
  no_exponent : c ≠ 'e' ∧ c ≠ 'E'
  no_letter : ∀ word ∈ ["inf", "infinity", "nan"], c.toLower ∉ word.toList

theorem foreign_brace : Foreign '{' := by constructor <;> decide

section Foreign

variable {c : Char} {text : List Char}

theorem mem_splitSign (h : c ∈ text) (hc : c ≠ '-' ∧ c ≠ '+') : c ∈ (splitSign text).2 := by
  unfold splitSign
  split
  · exact (List.mem_cons.1 h).resolve_left hc.1
  · exact (List.mem_cons.1 h).resolve_left hc.2
  · exact h

variable (foreign : Foreign c)
include foreign

theorem Foreign.not_mem_of_readNat? {n : Nat} (h : readNat? text = some n) : c ∉ text := by
  unfold readNat? at h
  split at h
  · next digits =>
      intro hmem
      have digit := List.all_eq_true.1 digits.2 _ hmem
      rw [foreign.no_digit] at digit
      cases digit
  · cases h

theorem Foreign.not_mem_of_readExponent? {n : Int} (h : readExponent? text = some n) :
    c ∉ text := by
  unfold readExponent? at h
  split at h
  · exact List.not_mem_nil
  · next d rest =>
      split at h
      · next letter =>
          intro hmem
          rcases List.mem_cons.1 hmem with rfl | hmem
          · exact letter.elim foreign.no_exponent.1 foreign.no_exponent.2
          · cases hdigits : readNat? (splitSign rest).2 with
            | none =>
                dsimp only at h
                rw [hdigits] at h
                cases h
            | some m =>
                exact foreign.not_mem_of_readNat? hdigits (mem_splitSign hmem foreign.no_sign)
      · cases h

theorem Foreign.not_mem_of_readMagnitude? {negative : Bool} {value : Binary64}
    (h : Binary64.readMagnitude? negative text = some value) : c ∉ text := by
  have digits : ∀ l : List Char, c ∉ l.takeWhile Char.isDigit := by
    intro l hl
    have digit := List.all_eq_true.1 List.all_takeWhile _ hl
    rw [foreign.no_digit] at digit
    cases digit
  unfold Binary64.readMagnitude? at h
  rw [← List.takeWhile_append_dropWhile (p := Char.isDigit) (l := text)]
  generalize text.dropWhile Char.isDigit = afterWhole at h ⊢
  refine fun hmem => (List.mem_append.1 hmem).elim (digits text) ?_
  -- With a point or without one, what follows the digits is an exponent.
  dsimp only at h
  split at h
  · next tail =>
      split at h
      · cases h
      · obtain ⟨_, hexponent, -⟩ := Option.map_eq_some_iff.1 h
        have ended := foreign.not_mem_of_readExponent? hexponent
        rw [← List.takeWhile_append_dropWhile (p := Char.isDigit) (l := tail)]
        intro hmem
        rcases List.mem_cons.1 hmem with hpoint | hmem
        · exact foreign.no_point hpoint
        · exact (List.mem_append.1 hmem).elim (digits tail) ended
  · split at h
    · cases h
    · obtain ⟨_, hexponent, -⟩ := Option.map_eq_some_iff.1 h
      exact foreign.not_mem_of_readExponent? hexponent

theorem Foreign.not_mem_of_read? {value : Binary64} (h : Binary64.read? text = some value) :
    c ∉ text := by
  have lower : ∀ {word : String} {magnitude : List Char}, word ∈ ["inf", "infinity", "nan"] →
      String.ofList (magnitude.map Char.toLower) = word → c ∉ magnitude := by
    rintro _ magnitude known rfl hmem
    have free := foreign.no_letter _ known
    rw [String.toList_ofList] at free
    exact free (List.mem_map.2 ⟨_, hmem, rfl⟩)
  intro hmem
  have hmagnitude := mem_splitSign hmem foreign.no_sign
  unfold Binary64.read? at h
  dsimp only at h
  split at h
  · next hword => exact lower (by simp) hword hmagnitude
  · next hword => exact lower (by simp) hword hmagnitude
  · next hword => exact lower (by simp) hword hmagnitude
  · exact foreign.not_mem_of_readMagnitude? h hmagnitude

end Foreign

namespace Condition

open Text

/-! ## Sides of comparisons -/

theorem parsePath_congr {a b : List Char} (h : trim a = trim b) : parsePath a = parsePath b := by
  unfold parsePath
  rw [h]

/-- A character of a text is cut at, or it stands in a piece. -/
theorem mem_splitOn (separator : Char) {c : Char} {text : List Char} (h : c ∈ text) :
    c = separator ∨ ∃ piece ∈ text.splitOn separator, c ∈ piece := by
  have joined : [separator].intercalate (text.splitOn separator) = text :=
    List.intercalate_splitOn separator
  rw [← joined] at h
  generalize text.splitOn separator = pieces at h ⊢
  induction pieces with
  | nil => cases h
  | cons piece pieces ih =>
      cases pieces with
      | nil =>
          rw [List.intercalate_singleton] at h
          exact .inr ⟨piece, List.mem_singleton_self _, h⟩
      | cons next pieces =>
          rw [List.intercalate_cons_cons, List.mem_append, List.mem_append, List.mem_singleton] at h
          rcases h with (h | h) | h
          · exact .inr ⟨piece, List.mem_cons_self, h⟩
          · exact .inl h
          · refine (ih h).imp_right ?_
            rintro ⟨other, hother, hc⟩
            exact ⟨other, List.mem_cons_of_mem piece hother, hc⟩

/-- A character of segments, or the point between them. -/
def isPathChar (c : Char) : Bool := isAlphanumeric c || c = '_' || c = '-' || c = '.'

theorem ne_of_isPathChar {c d : Char} (h : isPathChar c = true) (hd : isPathChar d = false) :
    c ≠ d := by
  rintro rfl
  rw [h] at hd
  cases hd

/-- What is read as a path: two or more segments, with nothing but points between them. -/
theorem segments_of_parsePath {text : List Char} {path : Path} (h : parsePath text = .ok path) :
    '.' ∈ trim (stripBraces (trim text)) ∧
      ∀ c ∈ trim (stripBraces (trim text)), isPathChar c = true := by
  unfold parsePath at h
  dsimp only at h
  generalize trim (stripBraces (trim text)) = inner at h ⊢
  split at h
  · next hsegments =>
    split at h
    · next valid =>
      constructor
      · by_contra hpoint
        rw [List.splitOn_eq_singleton hpoint] at hsegments
        cases hsegments
      · intro c hc
        rcases mem_splitOn '.' hc with rfl | ⟨segment, hsegment, hc⟩
        · decide
        · have within := List.all_eq_true.1 valid segment hsegment
          rw [isSegment, Bool.and_eq_true, List.all_eq_true] at within
          rw [isPathChar, within.2 c hc, Bool.true_or]
    · cases h
  · cases h

theorem stripBraces_of_not_braced {text : List Char} (h : ∀ inner, text ≠ '{' :: (inner ++ ['}'])) :
    stripBraces text = text := by
  unfold stripBraces
  split
  · next rest =>
      unfold beforeEnd?
      split
      · next hlast =>
          obtain ⟨inner, rfl⟩ := List.getLast?_eq_some_iff.1 hlast
          exact absurd rfl (h inner)
      · rfl
  · rfl

/-- A placeholder in what is read as a path is all of it. -/
theorem eq_chars_of_parsePath {text : List Char} {path : Path} (h : parsePath text = .ok path) :
    (Template.ofChars (trim text)).references = [] ∨
      ∃ step field, (Reference.output step field).isReadable = true ∧
        trim text = (Reference.output step field).chars := by
  obtain ⟨hpoint, hchars⟩ := segments_of_parsePath h
  have no_open : ∀ {l : List Char}, (∀ c ∈ trim l, isPathChar c = true) → '{' ∉ l :=
    fun hl hmem => ne_of_isPathChar (hl _ (mem_trim hmem (by decide))) (by decide) rfl
  have no_close : ∀ {l : List Char}, (∀ c ∈ trim l, isPathChar c = true) → '}' ∉ l :=
    fun hl hmem => ne_of_isPathChar (hl _ (mem_trim hmem (by decide))) (by decide) rfl
  generalize trim text = raw at hpoint hchars ⊢
  by_cases hbraced : ∃ inner, raw = '{' :: (inner ++ ['}'])
  · obtain ⟨inner, rfl⟩ := hbraced
    have stripped : stripBraces ('{' :: (inner ++ ['}'])) = inner := by
      simp [stripBraces, beforeEnd?]
    rw [stripped] at hpoint hchars
    cases hread : Reference.read? ('{' :: (inner ++ ['}'])) with
    | none =>
        refine .inl ?_
        rw [Template.ofChars_of_read?_none hread]
        exact Template.references_ofChars_of_not_mem (by simp [no_open hchars])
    | some found =>
        obtain ⟨r, rest⟩ := found
        have readable := Reference.isReadable_of_read? hread
        obtain ⟨body, hbody⟩ : ∃ body, r.chars = '{' :: (body ++ ['}']) := by
          cases r with
          | artifact name => exact ⟨name.toList, by simp [Reference.chars]⟩
          | output step field =>
              exact ⟨step.toList ++ '.' :: field.toList, by simp [Reference.chars]⟩
        have written : inner ++ ['}'] = body ++ '}' :: rest := by
          simpa [hbody] using Reference.read?_append hread
        -- The closing brace of the placeholder is the only one.
        rcases List.eq_nil_or_concat rest with rfl | ⟨init, last, rfl⟩
        · obtain rfl : inner = body := List.append_cancel_right written
          cases r with
          | output step field => exact .inr ⟨step, field, readable, hbody.symm⟩
          | artifact name =>
              obtain rfl : name.toList = inner := by simpa [Reference.chars] using hbody
              exact absurd ((trim_isInfix _).subset hpoint) (point_not_mem_name readable)
        · rw [List.concat_eq_append, ← List.cons_append, ← List.append_assoc] at written
          obtain rfl := (List.append_inj' written rfl).1
          exact absurd (List.mem_append_right _ (List.mem_cons_self ..)) (no_close hchars)
  · rw [stripBraces_of_not_braced fun inner heq => hbraced ⟨inner, heq⟩] at hchars
    exact .inl (Template.references_ofChars_of_not_mem (no_open hchars))

/-- A literal with a foreign character is a text. -/
theorem quoted_of_foreign {c : Char} (foreign : Foreign c) {text : List Char} {literal : Literal}
    (h : parseLiteral text = .ok literal) (hmem : c ∈ trim text) :
    ∃ inner, stripQuotes? (trim text) = some inner ∧ literal = .text (String.ofList inner) := by
  rcases parseLiteral_cases h with ⟨⟨word, hword, heq⟩, _⟩ | quoted | ⟨_, hnumber, _⟩
  · rw [heq] at hmem
    exact absurd hmem (foreign.no_word word hword)
  · exact quoted
  · exact absurd hmem (foreign.not_mem_of_read? hnumber)

/-! ## Replacing placeholders -/

section Replacement

variable {replace : Reference → Option Reference}
  (readable : ∀ r : Reference, r.isReadable = true → (r.replacedBy replace).isReadable = true)
include readable

theorem exists_literal_substituteWord {text : List Char} {literal : Literal}
    (h : parseLiteral text = .ok literal) :
    ∃ literal', parseLiteral (mapWords (substituteWord replace) text) = .ok literal' := by
  have trimmed := trim_mapWords (isTame_substituteWord readable) text
  by_cases hbrace : '{' ∈ trim text
  · obtain ⟨inner, hquoted, _⟩ := quoted_of_foreign foreign_brace h hbrace
    obtain ⟨quote, hquote, hwritten⟩ := exists_quote_of_stripQuotes? hquoted
    have apart := isWordChar_of_isQuote hquote
    rw [hwritten, mapWords, mapWords, mapWordsFrom_between apart,
      mapWordsFrom_snoc apart] at trimmed
    exact ⟨_, parseLiteral_of_quoted hquote trimmed⟩
  · rw [mapWords_substituteWord_eq_self (Template.references_ofChars_of_not_mem hbrace)] at trimmed
    exact ⟨literal, (parseLiteral_congr trimmed).trans h⟩

variable (outputs : ∀ step field, ∃ step' field',
  (Reference.output step field).replacedBy replace = .output step' field')
include outputs

theorem exists_path_substituteWord {text : List Char} {path : Path}
    (h : parsePath text = .ok path) :
    ∃ path', parsePath (mapWords (substituteWord replace) text) = .ok path' := by
  have trimmed := trim_mapWords (isTame_substituteWord readable) text
  rcases eq_chars_of_parsePath h with hnone | ⟨step, field, hreadable, hwritten⟩
  · rw [mapWords_substituteWord_eq_self hnone] at trimmed
    exact ⟨path, (parsePath_congr trimmed).trans h⟩
  · obtain ⟨step', field', hnew⟩ := outputs step field
    have hreadable' := readable _ hreadable
    rw [hnew] at hreadable'
    have names : HasNames ⟨step', field', []⟩ := by
      simpa [HasNames, Path.segments, Reference.isReadable] using hreadable'
    refine ⟨⟨step', field', []⟩, parsePath_of_spells names ?_⟩
    rw [trimmed, hwritten, mapWords, mapWordsFrom_single (Reference.chars_ne_nil _)
      fun c hc => isWordChar_of_mem_chars hreadable hc, substituteWord_chars hreadable, hnew]
    exact .placeholder rfl

/-- A condition is still one when its placeholders are replaced. -/
theorem exists_parse_substituteText {label : String} {e : Condition} (h : parse label = .ok e) :
    ∃ e', parse (substituteText replace label) = .ok e' := by
  obtain ⟨o, outline, he⟩ := (parse_eq_ok_iff label e).1 h
  have outline' := outline.mapWords (isTame_substituteWord readable)
  rw [← substituteText_eq_mapWords] at outline'
  obtain ⟨e', he'⟩ : ∃ e', (o.map (mapWords (substituteWord replace))).read? = some e' := by
    refine Outline.exists_read? fun c' hc' => ?_
    rw [Outline.comparisons_map] at hc'
    obtain ⟨c, hc, rfl⟩ := List.mem_map.1 hc'
    obtain ⟨path, _, hpath⟩ := Outline.exists_path_of_mem_comparisons he hc
    obtain ⟨literal, hliteral⟩ := Outline.exists_literal_of_read? he c hc
    exact ⟨exists_path_substituteWord readable outputs hpath,
      exists_literal_substituteWord readable hliteral⟩
  exact ⟨e', (parse_eq_ok_iff _ e').2 ⟨_, outline', he'⟩⟩

end Replacement

end Condition

end Workflow
