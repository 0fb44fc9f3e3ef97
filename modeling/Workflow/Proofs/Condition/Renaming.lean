import Workflow.Condition.Renaming
import Workflow.Proofs.Condition.Words

/-!
# Renaming is done word by word

No placeholder and no path token goes on past the end of a word. So replacing the placeholders of a
label, and renaming the state paths outside its quotes, are rewritings of its words, and tame ones
if the new names are made of the characters of names.

Main statements: `substituteText_eq_mapWords`, `mapUnquoted_renameTokens` and the tameness of both.
-/

namespace Workflow.Condition

open Text

/-! ## Placeholders -/

/-- A word with its placeholders replaced, in quotes or not. -/
def substituteWord (replace : Reference → Option Reference) (_ : Bool) (word : List Char) :
    List Char :=
  ((Template.ofChars word).substitute replace).render

theorem render_substitute_eq_mapWordsFrom (replace : Reference → Option Reference)
    (quote : Option Char) (text : List Char) :
    ((Template.ofChars text).substitute replace).render =
      mapWordsFrom (substituteWord replace) quote text := by
  induction quote, text using word_induction with
  | nil quote =>
      rw [mapWordsFrom_nil, Template.ofChars]
      rfl
  | between quote c rest hc ih =>
      rw [mapWordsFrom_between hc, Template.ofChars_cons_of_ne (isStop_of_not_isWordChar hc).2,
        ← ih]
      rfl
  | word quote word rest hne hword hrest ih =>
      have apart : Template.ofChars (word ++ rest) =
          Template.ofChars word ++ Template.ofChars rest := by
        cases rest with
        | nil => rw [List.append_nil, Template.ofChars, List.append_nil]
        | cons c rest =>
            exact Template.ofChars_append_stop (isStop_of_not_isWordChar (hrest c rfl)).1 word rest
      rw [mapWordsFrom_word hne hword hrest, apart, Template.substitute_append,
        Template.render_append, ih]
      rfl

theorem substituteText_eq_mapWords (replace : Reference → Option Reference) (label : String) :
    (substituteText replace label).toList = mapWords (substituteWord replace) label.toList := by
  rw [substituteText, String.toList_ofList]
  exact render_substitute_eq_mapWordsFrom replace none label.toList

theorem substituteWord_eq_self {replace : Reference → Option Reference} {word : List Char}
    (h : (Template.ofChars word).references = []) (inside : Bool) :
    substituteWord replace inside word = word := by
  rw [substituteWord, Template.substitute_eq_self _ h, Template.render_ofChars]

theorem isWordChar_of_mem_chars {r : Reference} (readable : r.isReadable = true) {c : Char}
    (hc : c ∈ r.chars) : isWordChar c = true := by
  have name : ∀ {name : String}, isName name = true → c ∈ name.toList → isWordChar c = true :=
    fun h hc => isWordChar_of_isNameChar (((isName_iff _).1 h).2 c hc)
  cases r with
  | artifact x =>
      simp only [Reference.chars, List.mem_cons, List.mem_append, List.not_mem_nil, or_false] at hc
      rcases hc with rfl | hc | rfl
      · decide
      · exact name readable hc
      · decide
  | output x field =>
      obtain ⟨hx, hfield⟩ : isName x = true ∧ isName field = true := by
        simpa [Reference.isReadable] using readable
      simp only [Reference.chars, List.mem_cons, List.mem_append, List.not_mem_nil, or_false] at hc
      rcases hc with rfl | hc | rfl | hc | rfl
      · decide
      · exact name hx hc
      · decide
      · exact name hfield hc
      · decide

theorem mem_render {template : Template} {c : Char} (h : c ∈ template.render) :
    .literal c ∈ template ∨ ∃ r ∈ template.references, c ∈ r.chars := by
  induction template with
  | nil => cases h
  | cons piece rest ih =>
      cases piece with
      | literal d =>
          rcases List.mem_cons.1 h with rfl | h
          · exact .inl (List.mem_cons_self ..)
          · exact (ih h).imp_left (List.mem_cons_of_mem _)
      | reference r =>
          rcases List.mem_append.1 h with h | h
          · exact .inr ⟨r, List.mem_cons_self .., h⟩
          · rcases ih h with h | ⟨r', hr', h⟩
            · exact .inl (List.mem_cons_of_mem _ h)
            · exact .inr ⟨r', List.mem_cons_of_mem _ hr', h⟩

theorem chars_subset_render {template : Template} {r : Reference} (h : r ∈ template.references) :
    r.chars ⊆ template.render := by
  obtain ⟨before, after, rfl⟩ := List.append_of_mem ((Template.mem_references_iff _ r).1 h)
  intro c hc
  rw [Template.render_append, Template.render]
  exact List.mem_append_right _ (List.mem_append_left _ hc)

theorem literal_mem_render {template : Template} {c : Char} (h : .literal c ∈ template) :
    c ∈ template.render := by
  obtain ⟨before, after, rfl⟩ := List.append_of_mem h
  rw [Template.render_append, Template.render]
  exact List.mem_append_right _ (List.mem_cons_self ..)

theorem substituteWord_ne_nil {replace : Reference → Option Reference} {word : List Char}
    (hne : word ≠ []) (inside : Bool) : substituteWord replace inside word ≠ [] := by
  intro h
  have empty : (Template.ofChars word).substitute replace = [] := by
    cases hs : (Template.ofChars word).substitute replace with
    | nil => rfl
    | cons piece rest =>
        rw [substituteWord, hs] at h
        cases piece with
        | literal c => cases h
        | reference r => exact absurd (List.append_eq_nil_iff.1 h).1 r.chars_ne_nil
  have written := Template.render_ofChars word
  rw [List.map_eq_nil_iff.1 empty] at written
  exact hne written.symm

/-- Readable references are written in the characters of words. -/
theorem isWordChar_of_mem_substituteWord {replace : Reference → Option Reference}
    (readable : ∀ r : Reference, r.isReadable = true → (r.replacedBy replace).isReadable = true)
    {inside : Bool} {word : List Char} (hword : ∀ c ∈ word, isWordChar c = true) {c : Char}
    (hc : c ∈ substituteWord replace inside word) : isWordChar c = true := by
  rcases mem_render hc with h | ⟨r, hr, h⟩
  · obtain ⟨piece, hpiece, heq⟩ := List.mem_map.1 h
    cases piece with
    | reference r => cases heq
    | literal d =>
        cases heq
        have hmem := literal_mem_render hpiece
        rw [Template.render_ofChars] at hmem
        exact hword _ hmem
  · rw [Template.references_substitute] at hr
    obtain ⟨r', hr', rfl⟩ := List.mem_map.1 hr
    exact isWordChar_of_mem_chars (readable r' (Template.isReadable_of_mem_ofChars hr')) h

/-- A placeholder brings a character that no name has. -/
theorem exists_brace {template : Template} {r : Reference} (hr : r ∈ template.references) :
    ∃ c ∈ template.render, isNameChar c = false := by
  obtain ⟨rest, hrest⟩ := r.head_chars
  exact ⟨'{', chars_subset_render hr (by rw [hrest]; exact List.mem_cons_self ..), by decide⟩

/-- Placeholders that are replaced by readable ones leave a label its shape. -/
theorem isTame_substituteWord {replace : Reference → Option Reference}
    (readable : ∀ r : Reference, r.isReadable = true → (r.replacedBy replace).isReadable = true) :
    IsTame (substituteWord replace) where
  ne_nil inside _ hne _ := substituteWord_ne_nil hne inside
  word _ _ hword _ hc := isWordChar_of_mem_substituteWord readable hword hc
  changed inside word hword hne := by
    cases hrefs : (Template.ofChars word).references with
    | nil => exact absurd (substituteWord_eq_self hrefs inside) hne
    | cons r rest =>
        have hr : r ∈ (Template.ofChars word).references := by
          rw [hrefs]
          exact List.mem_cons_self ..
        have before := exists_brace hr
        rw [Template.render_ofChars] at before
        refine ⟨before, exists_brace (r := r.replacedBy replace) ?_⟩
        rw [Template.references_substitute]
        exact List.mem_map_of_mem hr

/-! ## Path tokens -/

theorem leadingToken?_of_ne {c : Char} (h : c ≠ '{') (text : List Char) :
    leadingToken? (c :: text) =
      (leadingPath? (c :: text)).map fun path =>
        path ++ closingBrace ((c :: text).drop path.length) := by
  simp [leadingToken?, h]

section Apart

variable {rest : List Char} (hrest : StartsApart rest)
include hrest

theorem leadingName_of_startsApart : leadingName rest = [] := by
  rw [leadingName_eq_nil_iff]
  exact fun c hc => Reference.not_isNameChar_of_isStop (isStop_of_not_isWordChar (hrest c hc)).1

theorem dottedNames_append_apart (text : List Char) :
    dottedNames (text ++ rest) = dottedNames text := by
  have ended : ∀ {text : List Char}, text.head? ≠ some '.' → dottedNames text = [] := by
    intro text h
    unfold dottedNames
    split
    · exact absurd rfl h
    · rfl
  have noName := leadingName_of_startsApart hrest
  fun_induction dottedNames text with
  | case1 tail h =>
      rw [List.cons_append, dottedNames, leadingName_append noName, if_pos h]
  | case2 tail h ih =>
      rw [List.cons_append, dottedNames, leadingName_append noName, if_neg h,
        afterName_append noName, ih]
  | case3 text h =>
      refine ended fun hhead => ?_
      cases text with
      | nil =>
          have := hrest '.' hhead
          exact absurd this (by decide)
      | cons c text =>
          obtain rfl : c = '.' := Option.some.inj hhead
          exact h text rfl

theorem leadingPath?_append_apart (text : List Char) :
    leadingPath? (text ++ rest) = leadingPath? text := by
  have noName := leadingName_of_startsApart hrest
  rw [leadingPath?, leadingPath?, leadingName_append noName, afterName_append noName,
    dottedNames_append_apart hrest]

theorem closingBrace_append_apart (text : List Char) :
    closingBrace (text ++ rest) = closingBrace text := by
  cases text with
  | nil =>
      cases rest with
      | nil => rfl
      | cons c rest =>
          have : c ≠ '}' := ne_of_apart (hrest c rfl) (by decide)
          simp [closingBrace, this]
  | cons c text =>
      by_cases h : c = '}'
      · rw [h]
        rfl
      · simp [closingBrace, h]

theorem leadingToken?_append_apart (c : Char) (text : List Char) :
    leadingToken? (c :: (text ++ rest)) = leadingToken? (c :: text) := by
  have brace : ∀ {text path : List Char}, leadingPath? text = some path →
      closingBrace ((text ++ rest).drop path.length) = closingBrace (text.drop path.length) := by
    intro text path h
    rw [List.drop_append_of_le_length (leadingPath?_isPrefix h).length_le,
      closingBrace_append_apart hrest]
  by_cases hc : c = '{'
  · subst hc
    simp only [leadingToken?, leadingPath?_append_apart hrest]
    refine Option.map_congr fun path hpath => ?_
    rw [brace hpath]
  · rw [leadingToken?_of_ne hc, leadingToken?_of_ne hc, ← List.cons_append,
      leadingPath?_append_apart hrest]
    refine Option.map_congr fun path hpath => ?_
    rw [brace hpath]

end Apart

section Tokens

variable (paths : List Path) (rename : String → Option String)

theorem renameTokens_of_token {text token : List Char} (h : leadingToken? text = some token) :
    renameTokens paths rename text =
      renameToken paths rename token ++ renameTokens paths rename (text.drop token.length) := by
  cases text with
  | nil => cases h
  | cons c rest =>
      rw [renameTokens]
      split
      · next h' =>
          rw [h] at h'
          cases h'
          rfl
      · next h' =>
          rw [h] at h'
          cases h'

theorem renameTokens_of_none {c : Char} {rest : List Char} (h : leadingToken? (c :: rest) = none) :
    renameTokens paths rename (c :: rest) = c :: renameTokens paths rename rest := by
  rw [renameTokens]
  split
  · next h' =>
      rw [h] at h'
      cases h'
  · rfl

theorem renameTokens_cons_between {c : Char} (h : isWordChar c = false) (rest : List Char) :
    renameTokens paths rename (c :: rest) = c :: renameTokens paths rename rest := by
  obtain ⟨hstop, hopen⟩ := isStop_of_not_isWordChar h
  have noName := leadingName_cons (Reference.not_isNameChar_of_isStop hstop) rest
  refine renameTokens_of_none paths rename ?_
  rw [leadingToken?_of_ne hopen, leadingPath?, if_pos (.inl noName)]
  rfl

/-- No token goes on past the end of a word. -/
theorem renameTokens_append_apart {rest : List Char} (hrest : StartsApart rest) (text : List Char) :
    renameTokens paths rename (text ++ rest) =
      renameTokens paths rename text ++ renameTokens paths rename rest := by
  fun_induction renameTokens paths rename text with
  | case1 => rfl
  | case2 c text token h ih =>
      have h' : leadingToken? (c :: (text ++ rest)) = some token := by
        rw [leadingToken?_append_apart hrest, h]
      rw [List.cons_append, renameTokens_of_token paths rename h', ← List.cons_append,
        List.drop_append_of_le_length (leadingToken?_isPrefix h).length_le, ih, List.append_assoc]
  | case3 c text h ih =>
      have h' : leadingToken? (c :: (text ++ rest)) = none := by
        rw [leadingToken?_append_apart hrest, h]
      rw [List.cons_append, renameTokens_of_none paths rename h', ih, List.cons_append]

/-- A word with its path tokens renamed, unless it stands in quotes. -/
def renameWord (inside : Bool) (word : List Char) : List Char :=
  if inside then word else renameTokens paths rename word

/-- In quotes every character is copied. -/
theorem mapWordsFrom_renameWord_quoted {quote : Char} (hquote : isQuote quote = true) (c : Char)
    (text : List Char) :
    mapWordsFrom (renameWord paths rename) (some quote) (c :: text) =
      c :: mapWordsFrom (renameWord paths rename) (quoteAfter (some quote) c) text := by
  cases hc : isWordChar c with
  | false => exact mapWordsFrom_between hc text
  | true =>
      have other : c ≠ quote := (ne_of_apart (isWordChar_of_isQuote hquote) hc).symm
      have open_still : quoteAfter (some quote) c = some quote := by simp [quoteAfter, other]
      have stays : ∀ text, mapWordsFrom (renameWord paths rename) (some quote) text =
          text.takeWhile isWordChar ++
            mapWordsFrom (renameWord paths rename) (some quote) (text.dropWhile isWordChar) := by
        intro text
        cases text with
        | nil => rw [mapWordsFrom_nil]; exact mapWordsFrom_nil.symm
        | cons d text =>
            cases hd : isWordChar d with
            | false =>
                rw [List.takeWhile_cons_of_neg (by simp [hd]),
                  List.dropWhile_cons_of_neg (by simp [hd])]
                rfl
            | true =>
                rw [mapWordsFrom, if_pos hd, List.dropWhile_cons_of_pos hd]
                rfl
      rw [open_still, stays (c :: text), stays text, List.takeWhile_cons_of_pos hc,
        List.dropWhile_cons_of_pos hc, List.cons_append]

theorem mapWordsFrom_renameWord_unquoted {text : List Char} (h : ∀ c ∈ text, isQuote c = false)
    {rest : List Char} (hrest : StartsApart rest) :
    mapWordsFrom (renameWord paths rename) none (text ++ rest) =
      renameTokens paths rename text ++ mapWordsFrom (renameWord paths rename) none rest := by
  have any : ∀ quote text, quote = none → (∀ c ∈ text, isQuote c = false) →
      mapWordsFrom (renameWord paths rename) quote (text ++ rest) =
        renameTokens paths rename text ++ mapWordsFrom (renameWord paths rename) quote rest := by
    intro quote text
    induction quote, text using word_induction with
    | nil quote => intro _ _; rw [renameTokens]; rfl
    | between quote c text hc ih =>
        rintro rfl h
        have unquoted : quoteAfter none c = none := by
          simp [quoteAfter, h c (List.mem_cons_self ..)]
        rw [unquoted] at ih
        rw [List.cons_append, mapWordsFrom_between hc, unquoted, renameTokens_cons_between _ _ hc,
          ih rfl fun d hd => h d (List.mem_cons_of_mem c hd), List.cons_append]
    | word quote word text hne hword htext ih =>
        rintro rfl h
        have apart : StartsApart (text ++ rest) := by
          cases text with
          | nil => exact hrest
          | cons c text => exact startsApart_cons (htext c rfl) _
        rw [List.append_assoc, mapWordsFrom_word hne hword apart,
          renameTokens_append_apart _ _ htext, ih rfl fun d hd => h d (List.mem_append_right _ hd),
          List.append_assoc]
        rfl
  exact any none text rfl h

/-- Renaming outside quotes is a rewriting of words. -/
theorem mapUnquoted_renameTokens (text : List Char) :
    mapUnquoted (renameTokens paths rename) text = mapWords (renameWord paths rename) text := by
  -- Characters outside quotes are held back and renamed together, and no token of theirs goes on
  -- past the quote that ends them.
  have both : ∀ (text : List Char),
      (∀ quote, isQuote quote = true → ∀ pending,
        mapUnquotedFrom (renameTokens paths rename) (some quote) pending text =
          mapWordsFrom (renameWord paths rename) (some quote) text) ∧
      ∀ pending, (∀ c ∈ pending, isQuote c = false) →
        mapUnquotedFrom (renameTokens paths rename) none pending text =
          mapWordsFrom (renameWord paths rename) none (pending.reverse ++ text) := by
    intro text
    induction text with
    | nil =>
        refine ⟨fun quote _ pending => ?_, fun pending h => ?_⟩
        · rw [mapWordsFrom_nil]
          rfl
        · rw [mapWordsFrom_renameWord_unquoted _ _ (fun c hc => h c (List.mem_reverse.1 hc))
            startsApart_nil, mapWordsFrom_nil, List.append_nil]
          rfl
    | cons c text ih =>
        refine ⟨fun quote hquote pending => ?_, fun pending h => ?_⟩
        · rw [mapWordsFrom_renameWord_quoted _ _ hquote, mapUnquotedFrom]
          by_cases hc : c = quote
          · have closed : quoteAfter (some quote) c = none := by simp [quoteAfter, hc]
            rw [if_pos hc, closed, ih.2 [] (by simp)]
            rfl
          · have still : quoteAfter (some quote) c = some quote := by simp [quoteAfter, hc]
            rw [if_neg hc, still, ih.1 quote hquote []]
        · rw [mapUnquotedFrom]
          cases hc : isQuote c with
          | false =>
              rw [if_neg (by simp), ih.2 (c :: pending) (by simpa [hc] using h), List.reverse_cons,
                List.append_assoc]
              rfl
          | true =>
              have apart := isWordChar_of_isQuote hc
              have opened : quoteAfter none c = some c := by simp [quoteAfter, hc]
              rw [if_pos rfl, ih.1 c hc [],
                mapWordsFrom_renameWord_unquoted _ _ (fun d hd => h d (List.mem_reverse.1 hd))
                  (startsApart_cons apart text),
                mapWordsFrom_between apart, opened]
  exact (both text).2 [] (by simp)

end Tokens

/-! ### Tokens of words -/

theorem point_mem_of_leadingPath? {text path : List Char} (h : leadingPath? text = some path) :
    '.' ∈ path := by
  unfold leadingPath? at h
  split at h
  · cases h
  · next hne =>
      cases h
      have hdotted : dottedNames (afterName text) ≠ [] := fun h => hne (.inr h)
      refine List.mem_append_right _ ?_
      unfold dottedNames at hdotted ⊢
      split
      · split
        · simp_all
        · exact List.mem_cons_self ..
      · simp_all

theorem point_mem_of_leadingToken? {text token : List Char} (h : leadingToken? text = some token) :
    '.' ∈ token := by
  unfold leadingToken? at h
  split at h
  · obtain ⟨path, hpath, rfl⟩ := Option.map_eq_some_iff.1 h
    exact List.mem_cons_of_mem _ (List.mem_append_left _ (point_mem_of_leadingPath? hpath))
  · obtain ⟨path, hpath, rfl⟩ := Option.map_eq_some_iff.1 h
    exact List.mem_append_left _ (point_mem_of_leadingPath? hpath)

section Words

variable {paths : List Path} {rename : String → Option String}
  (keeps : ∀ {x y : String}, rename x = some y → (∀ c ∈ x.toList, isWordChar c = true) →
    ∀ c ∈ y.toList, isWordChar c = true)
include keeps

theorem renameToken_word {token : List Char} (hpoint : '.' ∈ token)
    (hword : ∀ c ∈ token, isWordChar c = true) :
    '.' ∈ renameToken paths rename token ∧
      ∀ c ∈ renameToken paths rename token, isWordChar c = true := by
  unfold renameToken
  split
  · exact ⟨hpoint, hword⟩
  · split
    · next new hnew =>
        refine ⟨List.mem_append_right _ ?_, fun c hc => ?_⟩
        · rw [← List.takeWhile_append_dropWhile (p := (· ≠ '.')) (l := token)] at hpoint
          refine (List.mem_append.1 hpoint).resolve_left fun h => ?_
          have := List.all_eq_true.1 List.all_takeWhile _ h
          simp at this
        · rcases List.mem_append.1 hc with hc | hc
          · refine keeps hnew (fun d hd => hword d ?_) c hc
            rw [String.toList_ofList] at hd
            exact (List.takeWhile_prefix _).subset hd
          · exact hword c ((List.dropWhile_suffix _).subset hc)
    · exact ⟨hpoint, hword⟩

theorem renameTokens_word {word : List Char} (hword : ∀ c ∈ word, isWordChar c = true) :
    (∀ c ∈ renameTokens paths rename word, isWordChar c = true) ∧
      (word ≠ [] → renameTokens paths rename word ≠ []) ∧
      (renameTokens paths rename word ≠ word →
        '.' ∈ word ∧ '.' ∈ renameTokens paths rename word) := by
  fun_induction renameTokens paths rename word with
  | case1 => simp
  | case2 c rest token h ih =>
      obtain ⟨tail, htail⟩ := leadingToken?_isPrefix h
      have hpoint := point_mem_of_leadingToken? h
      have htoken : ∀ d ∈ token, isWordChar d = true :=
        fun d hd => hword d (htail ▸ List.mem_append_left _ hd)
      obtain ⟨hrenamed, hchars⟩ := renameToken_word keeps hpoint htoken
      obtain ⟨hrest, -, -⟩ := ih fun d hd => hword d (List.mem_of_mem_drop hd)
      refine ⟨fun d hd => ?_, fun _ h => ?_, fun _ => ⟨?_, List.mem_append_left _ hrenamed⟩⟩
      · rcases List.mem_append.1 hd with hd | hd
        · exact hchars d hd
        · exact hrest d hd
      · rw [(List.append_eq_nil_iff.1 h).1] at hrenamed
        cases hrenamed
      · rw [← htail]
        exact List.mem_append_left _ hpoint
  | case3 c rest h ih =>
      obtain ⟨hrest, -, hchanged⟩ := ih fun d hd => hword d (List.mem_cons_of_mem c hd)
      refine ⟨fun d hd => ?_, fun _ => List.cons_ne_nil _ _, fun hne => ?_⟩
      · rcases List.mem_cons.1 hd with rfl | hd
        · exact hword d (List.mem_cons_self ..)
        · exact hrest d hd
      · obtain ⟨h, h'⟩ := hchanged fun heq => hne (by rw [heq])
        exact ⟨List.mem_cons_of_mem c h, List.mem_cons_of_mem c h'⟩

/-- Renaming to names leaves a label its shape. -/
theorem isTame_renameWord : IsTame (renameWord paths rename) where
  ne_nil inside word hne hword := by
    cases inside with
    | true => exact hne
    | false => exact (renameTokens_word keeps hword).2.1 hne
  word inside word hword := by
    cases inside with
    | true => exact hword
    | false => exact (renameTokens_word keeps hword).1
  changed inside word hword hne := by
    cases inside with
    | true => exact absurd rfl hne
    | false =>
        obtain ⟨h, h'⟩ := (renameTokens_word keeps hword).2.2 hne
        exact ⟨⟨'.', h, by decide⟩, '.', h', by decide⟩

end Words

end Workflow.Condition
