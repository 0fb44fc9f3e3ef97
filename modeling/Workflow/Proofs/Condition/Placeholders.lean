import Workflow.Proofs.Condition.Renaming
import Workflow.Proofs.Reference.Spelling

/-!
# Renaming keeps the placeholders

The steps of a label are renamed in its bare paths only. A placeholder is passed over as one token,
and no other token begins behind a brace, so that a label holds the same placeholders as before.

Main statement: `references_renameSteps`.
-/

namespace Workflow

open Text

/-! ## Where placeholders start -/

namespace Template

/-- The references of a text are those whose placeholders start at its characters. -/
theorem references_ofChars_cons (c : Char) (rest : List Char) :
    (ofChars (c :: rest)).references =
      ((Reference.read? (c :: rest)).map (·.1)).toList ++ (ofChars rest).references := by
  cases hread : Reference.read? (c :: rest) with
  | none =>
      rw [ofChars_of_read?_none hread]
      rfl
  | some found =>
      obtain ⟨r, tail⟩ := found
      have plain := Reference.isPlain_of_isReadable (Reference.isReadable_of_read? hread)
      obtain ⟨body, hbody, closed⟩ := Reference.exists_chars_of_isPlain plain
      have written := Reference.read?_append hread
      rw [hbody] at written
      obtain rfl : rest = body ++ tail := (List.cons.inj written).2
      rw [ofChars_of_read? hread, references_append_of_not_mem closed]
      rfl

end Template

namespace Condition

/-! ## Where paths end -/

/-- No path goes on into the text. -/
def EndsPath (text : List Char) : Prop := leadingName text = [] ∧ dottedNames text = []

theorem leadingName_of_dottedNames {rest : List Char} (h : dottedNames ('.' :: rest) = []) :
    leadingName rest = [] := by
  by_contra hne
  rw [dottedNames, if_neg hne] at h
  cases h

/-- What is read at a brace before a path is known where the path ends. -/
theorem read?_append_endsPath {path : List Char}
    (hpath : ∀ c ∈ path, isNameChar c = true ∨ c = '.') {rest : List Char} (hrest : EndsPath rest) :
    (Reference.read? ('{' :: (path ++ rest))).map (·.1) =
      if rest.head? = some '}' then (Reference.read? ('{' :: (path ++ ['}']))).map (·.1)
      else none := by
  have brace : leadingName ['}'] = [] := by decide
  -- The characters of the path behind a name can only be a point.
  have point : ∀ {text : List Char}, (∀ c ∈ text, c ∈ path) → ∀ {c after},
      afterName text = c :: after → c = '.' := by
    intro text within c after hafter
    have hmem : c ∈ afterName text := hafter ▸ List.mem_cons_self ..
    refine (hpath c (within c ((List.dropWhile_suffix _).subset hmem))).resolve_left fun hname => ?_
    have hnot := (leadingName_eq_nil_iff _).1 (leadingName_afterName text) c (by rw [hafter]; rfl)
    rw [hnot] at hname
    cases hname
  simp only [Reference.read?, leadingName_append hrest.1, afterName_append hrest.1,
    leadingName_append brace, afterName_append brace]
  by_cases hname : leadingName path = []
  · simp [hname]
  · simp only [if_neg hname]
    cases hafter : afterName path with
    | nil =>
        rcases rest with _ | ⟨d, tail⟩
        · simp
        · by_cases hclose : d = '}'
          · simp [hclose]
          · by_cases hpoint : d = '.'
            · subst hpoint
              simp [leadingName_of_dottedNames hrest.2]
            · simp [hclose, hpoint]
    | cons d after =>
        obtain rfl := point (fun _ h => h) hafter
        simp only [List.cons_append, leadingName_append hrest.1, afterName_append hrest.1,
          leadingName_append brace, afterName_append brace]
        by_cases hfield : leadingName after = []
        · simp [hfield]
        · simp only [if_neg hfield]
          cases hafter' : afterName after with
          | nil =>
              rcases rest with _ | ⟨d, tail⟩
              · simp
              · by_cases hclose : d = '}' <;> simp [hclose]
          | cons d after' =>
              have within : ∀ c ∈ after, c ∈ path := fun c hc =>
                (List.dropWhile_suffix _).subset (hafter ▸ List.mem_cons_of_mem _ hc)
              obtain rfl := point within hafter'
              simp

theorem endsPath_after_dottedNames {text : List Char} (h : leadingName text = []) :
    ∃ rest, text = dottedNames text ++ rest ∧ EndsPath rest := by
  fun_induction dottedNames text with
  | case1 rest hrest => exact ⟨_, rfl, h, by rw [dottedNames, if_pos hrest]⟩
  | case2 rest hrest ih =>
      obtain ⟨after, heq, hafter⟩ := ih (leadingName_afterName rest)
      refine ⟨after, ?_, hafter⟩
      rw [List.cons_append, List.append_assoc, ← heq, leadingName_append_afterName]
  | case3 text hpoint =>
      refine ⟨text, rfl, h, ?_⟩
      unfold dottedNames
      split
      · exact absurd rfl (hpoint _)
      · rfl

theorem mem_dottedNames {text : List Char} :
    ∀ c ∈ dottedNames text, isNameChar c = true ∨ c = '.' := by
  fun_induction dottedNames text with
  | case1 => simp
  | case2 rest _ ih =>
      intro c hc
      rcases List.mem_cons.1 hc with rfl | hc
      · exact .inr rfl
      · rcases List.mem_append.1 hc with hc | hc
        · exact .inl (List.all_eq_true.1 List.all_takeWhile c hc)
        · exact ih c hc
  | case3 => simp

/-- A text that starts with a path goes on with one that ends it. -/
theorem exists_rest_of_leadingPath? {text path : List Char} (h : leadingPath? text = some path) :
    (∀ c ∈ path, isNameChar c = true ∨ c = '.') ∧ ∃ rest, text = path ++ rest ∧ EndsPath rest := by
  unfold leadingPath? at h
  split at h
  · cases h
  · cases h
    refine ⟨fun c hc => ?_, ?_⟩
    · rcases List.mem_append.1 hc with hc | hc
      · exact .inl (List.all_eq_true.1 List.all_takeWhile c hc)
      · exact mem_dottedNames c hc
    · obtain ⟨rest, heq, hrest⟩ := endsPath_after_dottedNames (leadingName_afterName text)
      refine ⟨rest, ?_, hrest⟩
      rw [List.append_assoc, ← heq, leadingName_append_afterName]

/-! ## Renaming -/

section Rename

variable (paths : List Path) (rename : String → Option String)

theorem leadingToken?_of_noName {c : Char} {rest : List Char} (h : leadingName (c :: rest) = [])
    (hopen : c ≠ '{') : leadingToken? (c :: rest) = none := by
  rw [leadingToken?_of_ne hopen, leadingPath?, if_pos (.inl h)]
  rfl

theorem renameToken_brace {token : List Char} (h : token.head? = some '{') :
    renameToken paths rename token = token := by
  rw [renameToken, if_pos (.inl h)]

/-- What starts with no name keeps its first character. -/
theorem head?_renameTokens {text : List Char} (h : leadingName text = []) :
    (renameTokens paths rename text).head? = text.head? := by
  cases text with
  | nil => rw [renameTokens]
  | cons c rest =>
      cases htoken : leadingToken? (c :: rest) with
      | none => rw [renameTokens_of_none _ _ htoken]; rfl
      | some token =>
          obtain rfl : c = '{' := by
            by_contra hne
            rw [leadingToken?_of_noName h hne] at htoken
            cases htoken
          obtain ⟨path, -, rfl⟩ := Option.map_eq_some_iff.1 (htoken : Option.map _ _ = some token)
          rw [renameTokens_of_token _ _ htoken, renameToken_brace _ _ rfl]
          rfl

theorem leadingName_renameTokens {text : List Char} (h : leadingName text = []) :
    leadingName (renameTokens paths rename text) = [] := by
  rw [leadingName_eq_nil_iff, head?_renameTokens paths rename h]
  exact (leadingName_eq_nil_iff text).1 h

theorem EndsPath.renameTokens {text : List Char} (h : EndsPath text) :
    EndsPath (renameTokens paths rename text) := by
  refine ⟨leadingName_renameTokens paths rename h.1, ?_⟩
  cases text with
  | nil => rw [Condition.renameTokens]; exact h.2
  | cons c rest =>
      by_cases hc : c = '.'
      · subst hc
        rw [renameTokens_of_none _ _ (leadingToken?_of_noName h.1 (by decide)), dottedNames,
          if_pos (leadingName_renameTokens paths rename (leadingName_of_dottedNames h.2))]
      · have hhead := head?_renameTokens paths rename h.1
        obtain ⟨rest', hrest'⟩ := List.head?_eq_some_iff.1 hhead
        rw [hrest']
        unfold dottedNames
        split
        · next heq => exact absurd (List.cons.inj heq).1 hc
        · rfl

/-- No token begins in a single name. -/
theorem renameTokens_name_append {name rest : List Char}
    (hname : ∀ c ∈ name, isNameChar c = true) (hrest : EndsPath rest) :
    renameTokens paths rename (name ++ rest) = name ++ renameTokens paths rename rest := by
  induction name with
  | nil => rfl
  | cons c name ih =>
      have hopen : c ≠ '{' := by
        rintro rfl
        exact absurd (hname _ (List.mem_cons_self ..)) (by decide)
      have after : afterName (c :: name ++ rest) = rest := by
        rw [afterName, List.dropWhile_append_of_pos hname]
        exact afterName_append hrest.1 []
      have none_here : leadingToken? (c :: (name ++ rest)) = none := by
        rw [leadingToken?_of_ne hopen, leadingPath?, ← List.cons_append, after,
          if_pos (.inr hrest.2)]
        rfl
      rw [List.cons_append, renameTokens_of_none _ _ none_here,
        ih fun d hd => hname d (List.mem_cons_of_mem c hd), List.cons_append]

theorem renameTokens_closingBrace (text : List Char) :
    renameTokens paths rename text =
      closingBrace text ++ renameTokens paths rename (text.drop (closingBrace text).length) := by
  unfold closingBrace
  split
  · next tail =>
      have noName := leadingName_cons (c := '}') (by decide) tail
      rw [renameTokens_of_none _ _ (leadingToken?_of_noName noName (by decide))]
      rfl
  · rfl

/-- Behind a brace nothing is renamed before the end of the path. -/
theorem exists_rest_of_brace {text : List Char} (h : leadingName text ≠ []) :
    ∃ path rest, text = path ++ rest ∧ (∀ c ∈ path, isNameChar c = true ∨ c = '.') ∧
      EndsPath rest ∧
      renameTokens paths rename ('{' :: text) =
        '{' :: (path ++ renameTokens paths rename rest) := by
  cases hpath : leadingPath? text with
  | none =>
      have hrest : EndsPath (afterName text) := by
        refine ⟨leadingName_afterName text, ?_⟩
        by_contra hdotted
        rw [leadingPath?, if_neg (not_or.2 ⟨h, hdotted⟩)] at hpath
        cases hpath
      have hname : ∀ c ∈ leadingName text, isNameChar c = true :=
        fun c hc => List.all_eq_true.1 List.all_takeWhile c hc
      have none_here : leadingToken? ('{' :: text) = none := by
        rw [leadingToken?, hpath]
        rfl
      refine ⟨leadingName text, afterName text, (leadingName_append_afterName text).symm,
        fun c hc => .inl (hname c hc), hrest, ?_⟩
      rw [renameTokens_of_none _ _ none_here, ← renameTokens_name_append _ _ hname hrest,
        leadingName_append_afterName]
  | some path =>
      obtain ⟨hchars, rest, rfl, hrest⟩ := exists_rest_of_leadingPath? hpath
      have token : leadingToken? ('{' :: (path ++ rest)) =
          some ('{' :: (path ++ closingBrace rest)) := by
        rw [leadingToken?, hpath, Option.map_some, List.drop_left]
      refine ⟨path, rest, rfl, hchars, hrest, ?_⟩
      rw [renameTokens_of_token _ _ token, renameToken_brace _ _ rfl,
        renameTokens_closingBrace _ _ rest]
      simp

/-- At a brace the same placeholder starts after the renaming, if any does. -/
theorem references_renameTokens_brace {text : List Char}
    (shorter : ∀ rest : List Char, rest.length ≤ text.length →
      (Template.ofChars (renameTokens paths rename rest)).references =
        (Template.ofChars rest).references) :
    (Template.ofChars (renameTokens paths rename ('{' :: text))).references =
      (Template.ofChars ('{' :: text)).references := by
  by_cases hname : leadingName text = []
  · -- Without a name no placeholder starts here, neither before nor after the renaming.
    have none_here : leadingToken? ('{' :: text) = none := by
      rw [leadingToken?, leadingPath?, if_pos (.inl hname)]
      rfl
    have closed : ∀ {text : List Char}, leadingName text = [] →
        Reference.read? ('{' :: text) = none := by
      intro text h
      rw [Reference.read?, if_pos h]
    rw [renameTokens_of_none _ _ none_here, Template.references_ofChars_cons,
      Template.references_ofChars_cons, closed hname,
      closed (leadingName_renameTokens paths rename hname), shorter text (Nat.le_refl _)]
  · obtain ⟨path, rest, rfl, hchars, hrest, renamed⟩ := exists_rest_of_brace paths rename hname
    have hpath : '{' ∉ path := fun hmem => absurd (hchars _ hmem) (by decide)
    have after := shorter rest (List.suffix_append path rest).length_le
    rw [renamed, Template.references_ofChars_cons, Template.references_ofChars_cons,
      read?_append_endsPath hchars (hrest.renameTokens paths rename),
      read?_append_endsPath hchars hrest, head?_renameTokens paths rename hrest.1,
      Template.references_append_of_not_mem hpath, Template.references_append_of_not_mem hpath,
      after]

section Keeps

variable {rename} (keeps : ∀ {x y : String}, rename x = some y → '{' ∉ x.toList → '{' ∉ y.toList)
include keeps

/-- Neither a token that starts without a brace nor what it is renamed to holds one. -/
theorem brace_not_mem_token {c : Char} {rest token : List Char} (hopen : c ≠ '{')
    (h : leadingToken? (c :: rest) = some token) :
    '{' ∉ token ∧ '{' ∉ renameToken paths rename token := by
  rw [leadingToken?_of_ne hopen] at h
  obtain ⟨path, hpath, rfl⟩ := Option.map_eq_some_iff.1 h
  have hchars := (exists_rest_of_leadingPath? hpath).1
  have hpath : '{' ∉ path := fun hmem => absurd (hchars _ hmem) (by decide)
  have hclosing : ∀ text : List Char, '{' ∉ closingBrace text := by
    intro text
    unfold closingBrace
    split <;> decide
  have closed := List.not_mem_append hpath (hclosing ((c :: rest).drop path.length))
  refine ⟨closed, ?_⟩
  unfold renameToken
  split
  · exact closed
  · split
    · next new hnew =>
        refine List.not_mem_append (keeps hnew fun hmem => ?_) fun hmem => ?_
        · rw [String.toList_ofList] at hmem
          exact closed ((List.takeWhile_prefix _).subset hmem)
        · exact closed ((List.dropWhile_suffix _).subset hmem)
    · exact closed

/-- A text holds the same placeholders after its tokens are renamed. -/
theorem references_renameTokens (text : List Char) :
    (Template.ofChars (renameTokens paths rename text)).references =
      (Template.ofChars text).references := by
  induction hlength : text.length using Nat.strong_induction_on generalizing text with
  | _ length ih =>
      subst hlength
      cases text with
      | nil => rw [renameTokens]
      | cons c rest =>
          by_cases hopen : c = '{'
          · subst hopen
            exact references_renameTokens_brace paths rename fun tail hle =>
              ih tail.length (Nat.lt_succ_of_le hle) tail rfl
          · cases htoken : leadingToken? (c :: rest) with
            | none =>
                rw [renameTokens_of_none _ _ htoken, Template.ofChars_cons_of_ne hopen,
                  Template.ofChars_cons_of_ne hopen]
                exact ih rest.length (Nat.lt_succ_self _) rest rfl
            | some token =>
                obtain ⟨closed, closed'⟩ := brace_not_mem_token paths keeps hopen htoken
                obtain ⟨tail, htail⟩ := leadingToken?_isPrefix htoken
                have hlength : tail.length < (c :: rest).length := by
                  have := List.length_pos_iff.2 (leadingToken?_ne_nil htoken)
                  rw [← htail, List.length_append]
                  omega
                rw [renameTokens_of_token _ _ htoken, ← htail, List.drop_left,
                  Template.references_append_of_not_mem closed,
                  Template.references_append_of_not_mem closed', ih _ hlength tail rfl]

end Keeps

end Rename

/-! ## The whole label -/

/-- A text holds the same placeholders after its words are rewritten if each word does. -/
theorem references_mapWordsFrom {f : Bool → List Char → List Char}
    (same : ∀ inside word,
      (Template.ofChars (f inside word)).references = (Template.ofChars word).references)
    (quote : Option Char) (text : List Char) :
    (Template.ofChars (mapWordsFrom f quote text)).references =
      (Template.ofChars text).references := by
  have apart : ∀ {rest : List Char}, StartsApart rest → ∀ word : List Char,
      (Template.ofChars (word ++ rest)).references =
        (Template.ofChars word).references ++ (Template.ofChars rest).references := by
    intro rest hrest word
    cases rest with
    | nil => simp [Template.ofChars, Template.references]
    | cons c rest =>
        rw [Template.ofChars_append_stop (isStop_of_not_isWordChar (hrest c rfl)).1]
        exact List.filterMap_append
  induction quote, text using word_induction with
  | nil quote => rw [mapWordsFrom_nil]
  | between quote c rest hc ih =>
      have hopen := (isStop_of_not_isWordChar hc).2
      rw [mapWordsFrom_between hc, Template.ofChars_cons_of_ne hopen,
        Template.ofChars_cons_of_ne hopen]
      exact ih
  | word quote word rest hne hword hrest ih =>
      rw [mapWordsFrom_word hne hword hrest, apart (startsApart_mapWordsFrom hrest), apart hrest,
        ih, same]

/-- Renaming steps leaves the placeholders of a label as they are. -/
theorem references_renameSteps {rename : String → Option String}
    (keeps : ∀ {x y : String}, rename x = some y → '{' ∉ x.toList → '{' ∉ y.toList)
    (label : String) : referencesInText (renameSteps rename label) = referencesInText label := by
  unfold renameSteps
  split
  · next condition _ =>
      split
      · rfl
      · rw [mapUnquoted_renameTokens, referencesInText, referencesInText, Template.ofText,
          Template.ofText, String.toList_ofList, mapWords]
        refine references_mapWordsFrom (fun inside word => ?_) none label.toList
        cases inside with
        | true => rfl
        | false => exact references_renameTokens condition.paths keeps word
  · rfl

end Condition

end Workflow
