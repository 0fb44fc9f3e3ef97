import Mathlib.Data.List.Chain
import Workflow.Proofs.Condition.Placeholders

/-!
# Path tokens

What a path token is, without the reading of it: names with points between them, with or without a
brace at either end. What is read at the start of a text is the longest token that starts there, and
the token ends where no other one goes on, so that tokens that are read one after the other are
whole ones: no token begins in the middle of one and ends behind it.

Main statements: `isToken_of_leadingToken?`, `IsToken.prefix_leadingToken?` and
`not_isToken_across_end`.
-/

namespace Workflow.Condition

open Text

/-! ## Definitions -/

/-- One name, or several with points between them. -/
inductive IsNames : List Char → Prop where
  | single {name : List Char} : name ≠ [] → (∀ c ∈ name, isNameChar c = true) → IsNames name
  | dotted {name rest : List Char} : name ≠ [] → (∀ c ∈ name, isNameChar c = true) →
      IsNames rest → IsNames (name ++ '.' :: rest)

/-- Two or more names with points between them. -/
def IsDotted (text : List Char) : Prop :=
  ∃ name rest, name ≠ [] ∧ (∀ c ∈ name, isNameChar c = true) ∧ IsNames rest ∧
    text = name ++ '.' :: rest

/-- A path, with an opening brace before it or not, and with a closing brace after it or not. -/
def IsToken (text : List Char) : Prop :=
  ∃ opening path closing, (opening = [] ∨ opening = ['{']) ∧ IsDotted path ∧
    (closing = [] ∨ closing = ['}']) ∧ text = opening ++ path ++ closing

/-! ## Neighbours -/

/-- What may come after what in a token. -/
def Follows (c d : Char) : Prop :=
  isNameChar c = true ∧ (isNameChar d = true ∨ d = '.' ∨ d = '}') ∨
    (c = '.' ∨ c = '{') ∧ isNameChar d = true

/-- Names with points between them, seen from character to character. -/
structure IsLinked (text : List Char) : Prop where
  chain : text.IsChain Follows
  first : ∃ c ∈ text.head?, isNameChar c = true
  last : ∃ c ∈ text.getLast?, isNameChar c = true

theorem isLinked_name {name : List Char} (hne : name ≠ [])
    (hname : ∀ c ∈ name, isNameChar c = true) : IsLinked name where
  chain := by
    induction name with
    | nil => exact .nil
    | cons c name ih =>
        cases name with
        | nil => exact .singleton c
        | cons d name =>
            have hrest : ∀ c ∈ d :: name, isNameChar c = true :=
              fun e he => hname e (List.mem_cons_of_mem c he)
            refine .cons_cons (.inl ⟨hname c List.mem_cons_self, .inl ?_⟩)
              (ih (List.cons_ne_nil d name) hrest)
            exact hrest d List.mem_cons_self
  first := ⟨_, List.head?_eq_some_head hne, hname _ (List.head_mem hne)⟩
  last := ⟨_, List.getLast?_eq_some_getLast hne, hname _ (List.getLast_mem hne)⟩

theorem IsLinked.dotted {name rest : List Char} (hne : name ≠ [])
    (hname : ∀ c ∈ name, isNameChar c = true) (h : IsLinked rest) :
    IsLinked (name ++ '.' :: rest) := by
  have before := isLinked_name hne hname
  obtain ⟨c, hc, first⟩ := h.first
  obtain ⟨tail, rfl⟩ := List.head?_eq_some_iff.1 hc
  refine ⟨List.isChain_append.2 ⟨before.chain, .cons_cons (.inr ⟨.inl rfl, first⟩) h.chain, ?_⟩,
    ?_, ?_⟩
  · rintro x hx _ ⟨⟩
    exact .inl ⟨hname x (List.mem_of_mem_getLast? hx), .inr (.inl rfl)⟩
  · rw [List.head?_append_of_ne_nil _ hne]
    exact before.first
  · rw [List.getLast?_append_of_ne_nil _ (List.cons_ne_nil _ _), List.getLast?_cons_cons]
    exact h.last

theorem IsNames.isLinked {text : List Char} (h : IsNames text) : IsLinked text := by
  induction h with
  | single hne hname => exact isLinked_name hne hname
  | dotted hne hname _ ih => exact ih.dotted hne hname

theorem IsDotted.isNames {text : List Char} (h : IsDotted text) : IsNames text := by
  obtain ⟨name, rest, hne, hname, hrest, rfl⟩ := h
  exact .dotted hne hname hrest

theorem IsDotted.isLinked {text : List Char} (h : IsDotted text) : IsLinked text :=
  h.isNames.isLinked

namespace IsToken

variable {token : List Char}

theorem chain (h : IsToken token) : token.IsChain Follows := by
  obtain ⟨opening, path, closing, hopening, hpath, hclosing, rfl⟩ := h
  obtain ⟨chain, first, last⟩ := hpath.isLinked
  have closed : (path ++ closing).IsChain Follows := by
    rcases hclosing with rfl | rfl
    · rwa [List.append_nil]
    · refine List.isChain_append.2 ⟨chain, .singleton _, ?_⟩
      rintro x hx _ ⟨⟩
      obtain ⟨c, hc, hname⟩ := last
      obtain rfl := Option.mem_unique hc hx
      exact .inl ⟨hname, .inr (.inr rfl)⟩
  rw [List.append_assoc]
  rcases hopening with rfl | rfl
  · exact closed
  · obtain ⟨c, hc, hname⟩ := first
    obtain ⟨tail, rfl⟩ := List.head?_eq_some_iff.1 hc
    exact .cons_cons (.inr ⟨.inr rfl, hname⟩) closed

theorem last (h : IsToken token) : ∃ c ∈ token.getLast?, isNameChar c = true ∨ c = '}' := by
  obtain ⟨opening, path, closing, -, hpath, hclosing, rfl⟩ := h
  rcases hclosing with rfl | rfl
  · obtain ⟨c, hc, hname⟩ := hpath.isLinked.last
    have hne : path ≠ [] := by
      rintro rfl
      cases hc
    refine ⟨c, ?_, .inl hname⟩
    rwa [List.append_nil, List.getLast?_append_of_ne_nil _ hne]
  · exact ⟨'}', List.getLast?_concat, .inr rfl⟩

end IsToken

theorem IsNames.isWordChar {text : List Char} (h : IsNames text) :
    ∀ c ∈ text, isWordChar c = true := by
  induction h with
  | single _ hname => exact fun c hc => isWordChar_of_isNameChar (hname c hc)
  | dotted _ hname _ ih =>
      intro c hc
      rcases List.mem_append.1 hc with hc | hc
      · exact isWordChar_of_isNameChar (hname c hc)
      · rcases List.mem_cons.1 hc with rfl | hc
        · decide
        · exact ih c hc

/-- A token is part of a word, and so it holds no quote. -/
theorem IsToken.isWordChar {token : List Char} (h : IsToken token) :
    ∀ c ∈ token, isWordChar c = true := by
  obtain ⟨opening, path, closing, hopening, hpath, hclosing, rfl⟩ := h
  intro c hc
  rcases List.mem_append.1 hc with hc | hc
  · rcases List.mem_append.1 hc with hc | hc
    · rcases hopening with rfl | rfl
      · cases hc
      · rw [List.mem_singleton.1 hc]
        decide
    · exact hpath.isNames.isWordChar c hc
  · rcases hclosing with rfl | rfl
    · cases hc
    · rw [List.mem_singleton.1 hc]
      decide

/-! ## What is read is a token -/

theorem leadingName_isNameChar (text : List Char) : ∀ c ∈ leadingName text, isNameChar c = true :=
  fun _ hc => List.all_eq_true.1 List.all_takeWhile _ hc

theorem isNames_of_dottedNames (text : List Char) :
    dottedNames text = [] ∨ ∃ rest, IsNames rest ∧ dottedNames text = '.' :: rest := by
  fun_induction dottedNames text with
  | case1 => exact .inl rfl
  | case2 rest hne ih =>
      refine .inr ⟨_, ?_, rfl⟩
      rcases ih with hnil | ⟨more, hmore, heq⟩
      · rw [hnil, List.append_nil]
        exact .single hne (leadingName_isNameChar rest)
      · rw [heq]
        exact .dotted hne (leadingName_isNameChar rest) hmore
  | case3 => exact .inl rfl

theorem isDotted_of_leadingPath? {text path : List Char} (h : leadingPath? text = some path) :
    IsDotted path := by
  unfold leadingPath? at h
  split at h
  · cases h
  · next hne =>
      cases h
      obtain ⟨hname, hdotted⟩ := not_or.1 hne
      rcases isNames_of_dottedNames (afterName text) with hnil | ⟨rest, hrest, heq⟩
      · exact absurd hnil hdotted
      · exact ⟨_, rest, hname, leadingName_isNameChar text, hrest, by rw [heq]⟩

/-- What is read at the start of a text: a path up to where it ends, with the braces around it. -/
theorem exists_of_leadingToken? {text token : List Char} (h : leadingToken? text = some token) :
    ∃ opening path tail, (opening = [] ∨ opening = ['{']) ∧ IsDotted path ∧ EndsPath tail ∧
      text = opening ++ path ++ tail ∧ token = opening ++ path ++ closingBrace tail := by
  unfold leadingToken? at h
  split at h
  · next rest =>
      obtain ⟨path, hpath, rfl⟩ := Option.map_eq_some_iff.1 h
      obtain ⟨-, tail, rfl, htail⟩ := exists_rest_of_leadingPath? hpath
      rw [List.drop_left]
      exact ⟨['{'], path, tail, .inr rfl, isDotted_of_leadingPath? hpath, htail, rfl, rfl⟩
  · obtain ⟨path, hpath, rfl⟩ := Option.map_eq_some_iff.1 h
    obtain ⟨-, tail, rfl, htail⟩ := exists_rest_of_leadingPath? hpath
    rw [List.drop_left]
    exact ⟨[], path, tail, .inl rfl, isDotted_of_leadingPath? hpath, htail, rfl, rfl⟩

theorem closingBrace_cases (text : List Char) :
    closingBrace text = [] ∨ closingBrace text = ['}'] := by
  unfold closingBrace
  split
  · exact .inr rfl
  · exact .inl rfl

theorem isToken_of_leadingToken? {text token : List Char} (h : leadingToken? text = some token) :
    IsToken token := by
  obtain ⟨opening, path, tail, hopening, hpath, -, -, rfl⟩ := exists_of_leadingToken? h
  exact ⟨opening, path, closingBrace tail, hopening, hpath, closingBrace_cases tail, rfl⟩

/-! ## A token is read where there is one -/

theorem IsDotted.leadingPath?_ne_none {path : List Char} (h : IsDotted path) (rest : List Char) :
    leadingPath? (path ++ rest) ≠ none := by
  obtain ⟨name, names, hne, hname, hnames, rfl⟩ := h
  have point : leadingName ('.' :: (names ++ rest)) = [] := leadingName_cons (by decide) _
  obtain ⟨c, hc, hfirst⟩ := hnames.isLinked.first
  obtain ⟨tail, rfl⟩ := List.head?_eq_some_iff.1 hc
  have here : leadingName (name ++ '.' :: (c :: tail ++ rest)) ≠ [] := by
    rw [leadingName, List.takeWhile_append_of_pos hname]
    exact List.append_ne_nil_of_left_ne_nil hne _
  have behind : afterName (name ++ '.' :: (c :: tail ++ rest)) = '.' :: (c :: tail ++ rest) := by
    rw [afterName, List.dropWhile_append_of_pos hname]
    exact List.dropWhile_cons_of_neg (by decide)
  have more : dottedNames ('.' :: (c :: tail ++ rest)) ≠ [] := by
    have named : leadingName (c :: tail ++ rest) ≠ [] := by
      rw [leadingName, List.cons_append, List.takeWhile_cons_of_pos hfirst]
      exact List.cons_ne_nil _ _
    rw [dottedNames, if_neg named]
    exact List.cons_ne_nil _ _
  rw [List.append_assoc, List.cons_append, leadingPath?, behind, if_neg (not_or.2 ⟨here, more⟩)]
  exact Option.some_ne_none _

theorem IsToken.exists_leadingToken? {token : List Char} (h : IsToken token) (rest : List Char) :
    ∃ read, leadingToken? (token ++ rest) = some read := by
  obtain ⟨opening, path, closing, hopening, hpath, -, rfl⟩ := h
  obtain ⟨read, hread⟩ :=
    Option.ne_none_iff_exists'.1 (hpath.leadingPath?_ne_none (closing ++ rest))
  rcases hopening with rfl | rfl
  · obtain ⟨c, hc, hname⟩ := hpath.isLinked.first
    obtain ⟨tail, rfl⟩ := List.head?_eq_some_iff.1 hc
    have unbraced : c ≠ '{' := by
      rintro rfl
      exact absurd hname (by decide)
    rw [List.nil_append, List.append_assoc]
    rw [List.cons_append, leadingToken?_of_ne unbraced, ← List.cons_append, hread]
    exact ⟨_, rfl⟩
  · rw [List.append_assoc, List.append_assoc, List.singleton_append]
    exact ⟨_, by rw [leadingToken?, hread]; rfl⟩

theorem not_follows_closingBrace (d : Char) : ¬Follows '}' d := by
  have unnamed : isNameChar '}' = false := by decide
  rintro (⟨hname, -⟩ | ⟨hpoint | hopen, -⟩)
  · rw [unnamed] at hname
    cases hname
  · exact absurd hpoint (by decide)
  · exact absurd hopen (by decide)

/-- Where a path ends and no brace closes it, nothing goes on that would make a longer token. -/
theorem not_follows_end {c d : Char} {before after rest : List Char} (ends : EndsPath rest)
    (unclosed : closingBrace rest = []) (hafter : d :: after <+: rest)
    (across : IsToken (before ++ d :: after)) : ¬Follows c d := by
  obtain ⟨more, rfl⟩ := hafter
  have unnamed := (leadingName_eq_nil_iff _).1 ends.1 d rfl
  have go_on : ∀ {d : Char}, isNameChar d = true ∨ d = '.' ∨ d = '}' → isNameChar d = false →
      d = '.' ∨ d = '}' := by
    intro d h hd
    exact h.resolve_left fun hname => by rw [hd] at hname; cases hname
  rintro (⟨-, hd⟩ | ⟨-, hname⟩)
  · rcases go_on hd unnamed with rfl | rfl
    · -- Behind the point there would have to be a name.
      have noName : leadingName (after ++ more) = [] := leadingName_of_dottedNames ends.2
      obtain ⟨-, chain, -⟩ := List.isChain_append.1 across.chain
      cases after with
      | nil =>
          obtain ⟨c, hc, hlast⟩ := across.last
          rw [List.getLast?_concat] at hc
          cases hc
          exact absurd hlast (by decide)
      | cons e after =>
          have hname : isNameChar e = true := by
            rcases (List.isChain_cons_cons.1 chain).1 with ⟨hpoint, -⟩ | ⟨-, hname⟩
            · exact absurd hpoint (by decide)
            · exact hname
          have unnamed := (leadingName_eq_nil_iff _).1 noName e rfl
          rw [unnamed] at hname
          cases hname
    · cases unclosed
  · rw [unnamed] at hname
    cases hname

/-- No token goes on beyond the end of the one that is read, wherever in that it begins. -/
theorem not_isToken_across_end {token rest : List Char}
    (h : leadingToken? (token ++ rest) = some token) {before after : List Char}
    (hbefore : before <:+ token) (hne : before ≠ []) (hafter : after <+: rest) (hne' : after ≠ []) :
    ¬IsToken (before ++ after) := by
  intro across
  obtain ⟨opening, path, tail, -, hpath, ends, htext, htoken⟩ := exists_of_leadingToken? h
  obtain ⟨d, after, rfl⟩ := List.exists_cons_of_ne_nil hne'
  -- The last character that both tokens share is followed by one that only the other has.
  obtain ⟨c, hc, -⟩ := (isToken_of_leadingToken? h).last
  have shared : before.getLast? = token.getLast? := by
    obtain ⟨more, rfl⟩ := hbefore
    rw [List.getLast?_append_of_ne_nil _ hne]
  have follows : Follows c d := (List.isChain_append.1 across.chain).2.2 c (shared ▸ hc) d rfl
  rcases closingBrace_cases tail with unclosed | closed
  · have written : rest = tail := by
      rw [unclosed, List.append_nil] at htoken
      rw [← htoken] at htext
      exact List.append_cancel_left htext
    subst written
    exact not_follows_end ends unclosed hafter across follows
  · rw [htoken, closed, List.getLast?_concat] at hc
    cases hc
    exact not_follows_closingBrace d follows

/-- The token that is read at the start of a text is the longest one there. -/
theorem IsToken.prefix_leadingToken? {token text : List Char} (h : IsToken token)
    (starts : token <+: text) : ∃ read, leadingToken? text = some read ∧ token <+: read := by
  obtain ⟨rest, rfl⟩ := starts
  obtain ⟨read, hread⟩ := h.exists_leadingToken? rest
  refine ⟨read, hread, ?_⟩
  obtain ⟨tail, htail⟩ := leadingToken?_isPrefix hread
  rcases List.prefix_or_prefix_of_prefix (List.prefix_append token rest) ⟨tail, htail⟩ with
    longer | shorter
  · exact longer
  · obtain ⟨more, rfl⟩ := shorter
    by_cases hmore : more = []
    · rw [hmore, List.append_nil]
    · have beyond : more <+: tail := by
        rw [List.append_assoc] at htail
        exact ⟨rest, (List.append_cancel_left htail).symm⟩
      rw [← htail] at hread
      exact absurd h (not_isToken_across_end hread List.suffix_rfl (leadingToken?_ne_nil hread)
        beyond hmore)

end Workflow.Condition
