import Workflow.Proofs.Condition.Splitting

/-!
# One step of reading a label

Reading a label cuts it at a connective, at parentheses or at an operator, and goes on with the
parts. One step of this is a function by itself here. The parts are shorter stretches of the label,
they hold all of its placeholders, and a tame rewriting of the words of the label rewrites the words
of the parts.

Main statements: `parseChars_eq`, `cut?_mapWords` and `references_cut`.
-/

namespace Workflow.Condition

open Text

/-! ## Definitions -/

/-- What one step of reading cuts a label into. -/
inductive Cut where
  | group (inner : List Char)
  | const (value : Bool)
  | or (left right : List Char)
  | and (left right : List Char)
  | not (inner : List Char)
  | compare (left : List Char) (op : Comparison) (right : List Char)
deriving DecidableEq, Repr

namespace Cut

/-- The parts, in order. -/
def parts : Cut → List (List Char)
  | group inner => [inner]
  | const _ => []
  | or left right => [left, right]
  | and left right => [left, right]
  | not inner => [inner]
  | compare left _ right => [left, right]

def map (f : List Char → List Char) : Cut → Cut
  | group inner => group (f inner)
  | const value => const value
  | or left right => or (f left) (f right)
  | and left right => and (f left) (f right)
  | not inner => not (f inner)
  | compare left op right => compare (f left) op (f right)

/-- The condition that the parts make up. -/
def read : Cut → Except ParseError Condition
  | group inner => parseChars inner
  | const value => .ok (.const value)
  | or left right => do
      let l ← parseChars left
      let r ← parseChars right
      return .or l r
  | and left right => do
      let l ← parseChars left
      let r ← parseChars right
      return .and l r
  | not inner => (parseChars inner).map .not
  | compare left op right => do
      let path ← parsePath left
      let literal ← parseLiteral right
      return .compare path op literal

/-- The text is cut here: the parts stand in it with nothing but the marks around them. -/
def IsOf (text : List Char) : Cut → Prop
  | group inner => text = '(' :: (inner ++ [')'])
  | const value => text = (if value then "true" else "false").toList
  | or left right => text = left ++ orWord ++ right
  | and left right => text = left ++ andWord ++ right
  | not inner => text = notWord ++ inner
  | compare left op right =>
      ∃ symbol, (symbol, op) ∈ operators ∧ text = left ++ symbol.toList ++ right

/-- The text is cut so because of what is found in it, and of what is not. -/
def FoundIn (text : List Char) : Cut → Prop
  | group inner => stripParens text = some inner
  | const value => text = (if value then "true" else "false").toList
  | or left right => splitTop orWord text = some (left, right)
  | and left right => splitTop andWord text = some (left, right)
  | not inner => afterStart? notWord text = some inner
  | compare left op right =>
      splitTop orWord text = none ∧ splitTop andWord text = none ∧
        ∃ symbol, (symbol, op) ∈ operators ∧ splitTop symbol.toList text = some (left, right)

end Cut

/-- Cuts at the first operator of the list that occurs in the text. -/
def cutComparison? (text : List Char) : List (String × Comparison) → Option Cut
  | [] => none
  | (symbol, op) :: rest =>
      ((splitTop symbol.toList text).map fun parts => .compare parts.1 op parts.2).or
        (cutComparison? text rest)

/-- Cuts a trimmed text. -/
def cutText? (text : List Char) : Option Cut :=
  if text = [] ∨ balanced text = false then none
  else
    ((stripParens text).map .group).or <|
    (if text = "true".toList then some (.const true) else none).or <|
    (if text = "false".toList then some (.const false) else none).or <|
    ((splitTop orWord text).map fun parts => .or parts.1 parts.2).or <|
    ((splitTop andWord text).map fun parts => .and parts.1 parts.2).or <|
    ((afterStart? notWord text).map .not).or <|
    cutComparison? text operators

/-- One step of reading a label. -/
def cut? (label : List Char) : Option Cut := cutText? (trim label)

/-- Why a trimmed text that is not cut is no condition. -/
def refusal (text : List Char) : ParseError :=
  if text = [] then .empty
  else if balanced text = false then .unbalanced (String.ofList text)
  else .noOperator (String.ofList text)

/-! ## What a cut is -/

theorem parseComparisonBy_eq {text : List Char} (closed : balanced text = true)
    (symbols : List (String × Comparison)) :
    parseComparisonBy text symbols =
      match cutComparison? text symbols with
      | some cut => cut.read
      | none => .error (.noOperator (String.ofList text)) := by
  induction symbols with
  | nil => rfl
  | cons entry rest ih =>
      obtain ⟨symbol, op⟩ := entry
      rw [parseComparisonBy, cutComparison?, findTop_eq_splitTop _ closed]
      cases splitTop symbol.toList text with
      | none => exact ih
      | some parts => rfl

/-- Both sides are read, and the left one's error comes first. -/
theorem read_both (make : Condition → Condition → Condition) (x y : Except ParseError Condition) :
    (match x, y with
      | .ok l, .ok r => .ok (make l r)
      | .error e, _ => .error e
      | _, .error e => .error e) = (do let l ← x; let r ← y; return make l r) := by
  cases x <;> cases y <;> rfl

/-- Reading a label is reading what it is cut into. -/
theorem parseChars_eq (label : List Char) :
    parseChars label =
      match cut? label with
      | some cut => cut.read
      | none => .error (refusal (trim label)) := by
  rw [parseChars, cut?, cutText?, refusal]
  split
  · next hempty => rw [if_pos (.inl hempty)]
  · next hne =>
    split
    · next hunbalanced => rw [if_pos (.inr hunbalanced)]
    · next hbalanced =>
      have readable : ¬(trim label = [] ∨ balanced (trim label) = false) :=
        fun h => h.elim hne hbalanced
      have closed : balanced (trim label) = true := by simpa using hbalanced
      rw [if_neg readable]
      -- From here on reading goes through the ways to cut in their order.
      split
      · next inner h => rw [h]; rfl
      · next h =>
        rw [h, Option.map_none, Option.none_or]
        split
        · rfl
        · rw [Option.none_or]
          split
          · rfl
          · rw [Option.none_or]
            rw [← findTop_eq_splitTop orWord closed, ← findTop_eq_splitTop andWord closed]
            split
            · next left right h =>
              rw [h]
              exact read_both .or (parseChars left) (parseChars right)
            · next h =>
              rw [h, Option.map_none, Option.none_or]
              split
              · next left right h =>
                rw [h]
                exact read_both .and (parseChars left) (parseChars right)
              · next h =>
                rw [h, Option.map_none, Option.none_or]
                split
                · next rest h => rw [h]; rfl
                · next h =>
                  rw [h, Option.map_none, Option.none_or]
                  exact parseComparisonBy_eq closed _

theorem toOption_parseChars (label : List Char) :
    (parseChars label).toOption = (cut? label).bind fun cut => cut.read.toOption := by
  rw [parseChars_eq]
  cases cut? label <;> rfl

theorem foundIn_of_cutComparison? {text : List Char} {symbols : List (String × Comparison)}
    {cut : Cut} (h : cutComparison? text symbols = some cut) :
    ∃ left op right symbol, cut = .compare left op right ∧ (symbol, op) ∈ symbols ∧
      splitTop symbol.toList text = some (left, right) := by
  induction symbols with
  | nil => cases h
  | cons entry rest ih =>
      obtain ⟨symbol, op⟩ := entry
      rcases Option.or_eq_some_iff.1 h with h | ⟨-, h⟩
      · obtain ⟨parts, hparts, rfl⟩ := Option.map_eq_some_iff.1 h
        exact ⟨_, op, _, symbol, rfl, List.mem_cons_self, hparts⟩
      · obtain ⟨left, op', right, symbol', rfl, hmem, hparts⟩ := ih h
        exact ⟨left, op', right, symbol', rfl, List.mem_cons_of_mem _ hmem, hparts⟩

/-- A label is cut only if it is balanced, and then by what is found first. -/
theorem foundIn_of_cut? {label : List Char} {cut : Cut} (h : cut? label = some cut) :
    balanced (trim label) = true ∧ cut.FoundIn (trim label) := by
  unfold cut? cutText? at h
  split at h
  · cases h
  · next readable =>
      refine ⟨by simpa using (not_or.1 readable).2, ?_⟩
      rcases Option.or_eq_some_iff.1 h with h | ⟨-, h⟩
      · obtain ⟨inner, hinner, rfl⟩ := Option.map_eq_some_iff.1 h
        exact hinner
      rcases Option.or_eq_some_iff.1 h with h | ⟨-, h⟩
      · obtain ⟨htrue, same⟩ := Option.ite_none_right_eq_some.1 h
        obtain rfl := Option.some.inj same
        exact htrue
      rcases Option.or_eq_some_iff.1 h with h | ⟨-, h⟩
      · obtain ⟨hfalse, same⟩ := Option.ite_none_right_eq_some.1 h
        obtain rfl := Option.some.inj same
        exact hfalse
      rcases Option.or_eq_some_iff.1 h with h | ⟨no_or, h⟩
      · obtain ⟨parts, hparts, rfl⟩ := Option.map_eq_some_iff.1 h
        exact hparts
      rcases Option.or_eq_some_iff.1 h with h | ⟨no_and, h⟩
      · obtain ⟨parts, hparts, rfl⟩ := Option.map_eq_some_iff.1 h
        exact hparts
      rcases Option.or_eq_some_iff.1 h with h | ⟨-, h⟩
      · obtain ⟨rest, hrest, rfl⟩ := Option.map_eq_some_iff.1 h
        exact hrest
      · obtain ⟨left, op, right, symbol, rfl, hmem, hparts⟩ := foundIn_of_cutComparison? h
        exact ⟨Option.map_eq_none_iff.1 no_or, Option.map_eq_none_iff.1 no_and, symbol, hmem,
          hparts⟩

theorem stripParens_eq_some {text inner : List Char} (h : stripParens text = some inner) :
    text = '(' :: (inner ++ [')']) := by
  unfold stripParens at h
  split at h
  · next rest =>
      split at h
      · next hclose =>
          cases h
          obtain ⟨before, rfl⟩ := List.getLast?_eq_some_iff.1 hclose.1
          rw [List.dropLast_concat]
      · cases h
  · cases h

theorem append_of_afterStart? {start text rest : List Char}
    (h : afterStart? start text = some rest) : text = start ++ rest := by
  unfold afterStart? at h
  split at h
  · next hp =>
      cases h
      exact (List.prefix_iff_eq_append.1 (List.isPrefixOf_iff_prefix.1 hp)).symm
  · cases h

theorem isOf_of_cut? {label : List Char} {cut : Cut} (h : cut? label = some cut) :
    cut.IsOf (trim label) := by
  have found := (foundIn_of_cut? h).2
  cases cut with
  | group inner => exact stripParens_eq_some found
  | const value => exact found
  | or left right => exact append_of_splitTop found
  | and left right => exact append_of_splitTop found
  | not inner => exact append_of_afterStart? found
  | compare left op right =>
      obtain ⟨-, -, symbol, hmem, hparts⟩ := found
      exact ⟨symbol, hmem, append_of_splitTop hparts⟩

/-- The parts are shorter stretches of the text. -/
theorem Cut.part_of_isOf {text part : List Char} {cut : Cut} (h : cut.IsOf text)
    (hpart : part ∈ cut.parts) : part <:+: text ∧ part.length < text.length := by
  have around : ∀ {before mark after : List Char}, mark ≠ [] → text = before ++ mark ++ after →
      (before <:+: text ∧ before.length < text.length) ∧
        (after <:+: text ∧ after.length < text.length) := by
    intro before mark after hmark htext
    have := List.length_pos_iff.2 hmark
    refine ⟨⟨⟨[], mark ++ after, by simp [htext]⟩, ?_⟩, ⟨⟨before ++ mark, [], by simp [htext]⟩, ?_⟩⟩
    all_goals
      simp only [htext, List.length_append]
      omega
  have either : ∀ {left mark right : List Char}, mark ≠ [] → text = left ++ mark ++ right →
      part ∈ [left, right] → part <:+: text ∧ part.length < text.length := by
    intro left mark right hmark htext hpart
    rcases List.mem_cons.1 hpart with rfl | hpart
    · exact (around hmark htext).1
    · rw [List.mem_singleton.1 hpart]
      exact (around hmark htext).2
  cases cut with
  | group inner =>
      obtain rfl := List.mem_singleton.1 hpart
      refine ⟨⟨['('], [')'], h.symm⟩, ?_⟩
      rw [show text = _ from h]
      simp only [List.length_cons, List.length_append]
      omega
  | const value => cases hpart
  | or left right => exact either (by decide) h hpart
  | and left right => exact either (by decide) h hpart
  | not inner =>
      obtain rfl := List.mem_singleton.1 hpart
      have whole : text = [] ++ notWord ++ part := h
      exact (around (by decide) whole).2
  | compare left op right =>
      obtain ⟨symbol, hsymbol, htext⟩ := h
      have written : ∀ entry ∈ operators, entry.1.toList ≠ [] := by decide
      exact either (written _ hsymbol) htext hpart

theorem part_of_cut? {label part : List Char} {cut : Cut} (h : cut? label = some cut)
    (hpart : part ∈ cut.parts) : part <:+: label ∧ part.length < label.length := by
  obtain ⟨within, shorter⟩ := Cut.part_of_isOf (isOf_of_cut? h) hpart
  exact ⟨within.trans (trim_isInfix label), Nat.lt_of_lt_of_le shorter (length_trim_le label)⟩

/-! ## Marks -/

theorem isEnding_of_all {name last : List Char} (hname : name.all isNameChar = true)
    (hlast : last.all isSpacer = true) (ends : last = [] → name = []) : IsEnding name last :=
  ⟨List.all_eq_true.1 hname, List.all_eq_true.1 hlast, ends⟩

theorem isMark_orWord : IsMark ' ' "or".toList [' '] :=
  ⟨isEnding_of_all (by decide) (by decide) (by decide), by decide⟩

theorem isMark_andWord : IsMark ' ' "and".toList [' '] :=
  ⟨isEnding_of_all (by decide) (by decide) (by decide), by decide⟩

theorem isEnding_notWord : IsEnding "not".toList [' '] :=
  isEnding_of_all (by decide) (by decide) (by decide)

theorem isMark_of_mem_operators {symbol : String} {op : Comparison} (h : (symbol, op) ∈ operators) :
    ∃ first name last, symbol.toList = first :: (name ++ last) ∧ IsMark first name last := by
  have bare : ∀ {first : Char} {last : List Char}, isWordChar first = false →
      last.all isSpacer = true → IsMark first [] last :=
    fun hfirst hlast => ⟨isEnding_of_all rfl hlast fun _ => rfl, hfirst⟩
  simp only [operators, List.mem_cons, Prod.mk.injEq, List.not_mem_nil, or_false] at h
  rcases h with ⟨rfl, -⟩ | ⟨rfl, -⟩ | ⟨rfl, -⟩ | ⟨rfl, -⟩ | ⟨rfl, -⟩ | ⟨rfl, -⟩ | ⟨rfl, -⟩
  · exact ⟨'!', [], ['='], rfl, bare (by decide) (by decide)⟩
  · exact ⟨'>', [], ['='], rfl, bare (by decide) (by decide)⟩
  · exact ⟨'<', [], ['='], rfl, bare (by decide) (by decide)⟩
  · exact ⟨'=', [], ['='], rfl, bare (by decide) (by decide)⟩
  · exact ⟨'>', [], [], rfl, bare (by decide) rfl⟩
  · exact ⟨'<', [], [], rfl, bare (by decide) rfl⟩
  · exact ⟨' ', "contains".toList, [' '], rfl,
      isEnding_of_all (by decide) (by decide) (by decide), by decide⟩

/-! ## Cutting a rewritten label -/

section Tame

variable {f : Bool → List Char → List Char} (tame : IsTame f)
include tame

theorem mapWords_eq_name_iff {name : List Char} (hname : ∀ c ∈ name, isNameChar c = true)
    (text : List Char) : mapWords f text = name ↔ text = name := by
  have whole : ∀ {word rest : List Char}, (∀ c ∈ word, isWordChar c = true) → StartsApart rest →
      (word ++ rest = name ↔ word = name ∧ rest = []) := by
    intro word rest hword hrest
    refine ⟨fun h => ?_, by rintro ⟨rfl, rfl⟩; exact List.append_nil word⟩
    cases rest with
    | nil => exact ⟨by rw [← h, List.append_nil], rfl⟩
    | cons c rest =>
        have hc := isWordChar_of_isNameChar (hname c (by rw [← h]; simp))
        rw [hrest c rfl] at hc
        cases hc
  have hword : ∀ c ∈ text.takeWhile isWordChar, isWordChar c = true :=
    fun c hc => List.all_eq_true.1 List.all_takeWhile c hc
  have hrest := startsApart_dropWhile text
  rw [← List.takeWhile_append_dropWhile (p := isWordChar) (l := text), mapWords,
    mapWordsFrom_append_word tame none hword hrest,
    whole (tame.word _ _ hword) (startsApart_mapWordsFrom hrest), whole hword hrest,
    tame.eq_iff hword hname, mapWordsFrom_eq_nil_iff tame]

theorem cutComparison?_mapWords (text : List Char) {symbols : List (String × Comparison)}
    (within : symbols ⊆ operators) :
    cutComparison? (mapWords f text) symbols =
      (cutComparison? text symbols).map (Cut.map (mapWords f)) := by
  induction symbols with
  | nil => rfl
  | cons entry rest ih =>
      obtain ⟨symbol, op⟩ := entry
      obtain ⟨first, name, last, hsymbol, mark⟩ :=
        isMark_of_mem_operators (within (List.mem_cons_self ..))
      rw [cutComparison?, cutComparison?, hsymbol, splitTop_mapWords tame mark,
        ih fun e he => within (List.mem_cons_of_mem _ he), Option.map_or, Option.map_map,
        Option.map_map]
      rfl

theorem cut?_mapWords (label : List Char) :
    cut? (mapWords f label) = (cut? label).map (Cut.map (mapWords f)) := by
  have splitOr : splitTop orWord (mapWords f (trim label)) = _ :=
    splitTop_mapWords tame isMark_orWord (trim label)
  have splitAnd : splitTop andWord (mapWords f (trim label)) = _ :=
    splitTop_mapWords tame isMark_andWord (trim label)
  have afterNot : afterStart? ("not".toList ++ [' ']) (mapWords f (trim label)) = _ :=
    afterStart?_mapWords tame isEnding_notWord (trim label)
  have splitNot : afterStart? notWord (mapWords f (trim label)) =
      (afterStart? notWord (trim label)).map (mapWords f) := afterNot
  have isTrue : mapWords f (trim label) = "true".toList ↔ _ :=
    mapWords_eq_name_iff tame (List.all_eq_true.1 (by decide)) (trim label)
  have isFalse : mapWords f (trim label) = "false".toList ↔ _ :=
    mapWords_eq_name_iff tame (List.all_eq_true.1 (by decide)) (trim label)
  have isEmpty : mapWords f (trim label) = [] ↔ trim label = [] :=
    mapWordsFrom_eq_nil_iff tame none (trim label)
  rw [cut?, cut?, trim_mapWords tame, cutText?, cutText?, balanced_mapWords tame]
  by_cases h : trim label = [] ∨ balanced (trim label) = false
  · rw [if_pos h, if_pos (h.imp_left isEmpty.2)]
    rfl
  · have const : ∀ {text : List Char} {value : Bool},
        (mapWords f (trim label) = text ↔ trim label = text) →
          (if mapWords f (trim label) = text then some (Cut.const value) else none) =
            (if trim label = text then some (Cut.const value) else none).map
              (Cut.map (mapWords f)) := by
      intro text value same
      by_cases ht : trim label = text
      · rw [if_pos (same.2 ht), if_pos ht]
        rfl
      · rw [if_neg (same.not.2 ht), if_neg ht]
        rfl
    rw [if_neg h, if_neg fun h' => h (h'.imp_left isEmpty.1), stripParens_mapWords tame,
      const isTrue, const isFalse, splitOr, splitAnd, splitNot,
      cutComparison?_mapWords tame _ (List.Subset.refl operators)]
    simp only [Option.map_or, Option.map_map]
    rfl

end Tame

/-! ## Placeholders -/

section References

variable {c : Char} (hc : isWordChar c = false)
include hc

theorem references_cons_between (rest : List Char) :
    (Template.ofChars (c :: rest)).references = (Template.ofChars rest).references := by
  rw [Template.ofChars_cons_of_ne (isStop_of_not_isWordChar hc).2]
  rfl

theorem references_append_between (before rest : List Char) :
    (Template.ofChars (before ++ c :: rest)).references =
      (Template.ofChars before).references ++ (Template.ofChars rest).references := by
  rw [Template.ofChars_append_stop (isStop_of_not_isWordChar hc).1,
    Template.ofChars_cons_of_ne (isStop_of_not_isWordChar hc).2]
  exact List.filterMap_append

end References

theorem references_between {last : List Char} (hlast : ∀ c ∈ last, isWordChar c = false)
    (rest : List Char) :
    (Template.ofChars (last ++ rest)).references = (Template.ofChars rest).references := by
  induction last with
  | nil => rfl
  | cons c last ih =>
      rw [List.cons_append, references_cons_between (hlast c (List.mem_cons_self ..)),
        ih fun d hd => hlast d (List.mem_cons_of_mem c hd)]

theorem references_name {name : List Char} (hname : ∀ c ∈ name, isNameChar c = true) :
    (Template.ofChars name).references = [] := by
  refine Template.references_ofChars_of_not_mem fun h => ?_
  exact absurd (hname _ h) (by decide)

/-- An ending holds no placeholder. -/
theorem references_ending {name last : List Char} (ending : IsEnding name last) (rest : List Char) :
    (Template.ofChars (name ++ last ++ rest)).references = (Template.ofChars rest).references := by
  have between : ∀ c ∈ last, isWordChar c = false :=
    fun c hc => ((isSpacer_iff c).1 (ending.spacers c hc)).1
  cases last with
  | nil =>
      rw [ending.ends rfl]
      rfl
  | cons c last =>
      rw [List.append_assoc, List.cons_append,
        references_append_between (between c (List.mem_cons_self ..)),
        references_name ending.isName, List.nil_append,
        references_between fun d hd => between d (List.mem_cons_of_mem c hd)]

theorem references_mark {first : Char} {name last : List Char} (mark : IsMark first name last)
    (before rest : List Char) :
    (Template.ofChars (before ++ (first :: (name ++ last)) ++ rest)).references =
      (Template.ofChars before).references ++ (Template.ofChars rest).references := by
  rw [List.append_assoc, List.cons_append, references_append_between mark.apart,
    references_ending mark.toIsEnding]

theorem references_trim (text : List Char) :
    (Template.ofChars (trim text)).references = (Template.ofChars text).references := by
  have ended : ∀ (text : List Char) {l : List Char}, (∀ c ∈ l, isWordChar c = false) →
      (Template.ofChars (text ++ l)).references = (Template.ofChars text).references := by
    intro text l hl
    cases l with
    | nil => rw [List.append_nil]
    | cons c l =>
        have rest := references_between (fun d hd => hl d (List.mem_cons_of_mem c hd)) []
        rw [List.append_nil, Template.ofChars] at rest
        rw [references_append_between (hl c (List.mem_cons_self ..)), rest]
        exact List.append_nil _
  obtain ⟨before, after, blank, blank', heq⟩ := exists_blanks_trim text
  have between : ∀ c ∈ before, isWordChar c = false :=
    fun c hc => (between_of_isBlank (blank c hc)).1
  have between' : ∀ c ∈ after, isWordChar c = false :=
    fun c hc => (between_of_isBlank (blank' c hc)).1
  calc (Template.ofChars (trim text)).references
      = (Template.ofChars (before ++ trim text ++ after)).references := by
        rw [ended _ between', references_between between]
    _ = (Template.ofChars text).references := by rw [← heq]

/-- The placeholders of a label stand in the parts that it is cut into. -/
theorem references_cut {label : List Char} {cut : Cut} (h : cut? label = some cut) :
    (Template.ofChars label).references =
      cut.parts.flatMap fun part => (Template.ofChars part).references := by
  have two : ∀ left right : List Char,
      [left, right].flatMap (fun part => (Template.ofChars part).references) =
        (Template.ofChars left).references ++ (Template.ofChars right).references := by
    intro left right
    simp
  have one : ∀ inner : List Char,
      [inner].flatMap (fun part => (Template.ofChars part).references) =
        (Template.ofChars inner).references := by
    intro inner
    simp
  have isOf := isOf_of_cut? h
  rw [← references_trim label]
  cases cut with
  | group inner =>
      have nothing : (Template.ofChars []).references = [] := references_name (by simp)
      rw [show trim label = _ from isOf, references_cons_between (by decide),
        references_append_between (by decide), nothing, List.append_nil]
      exact (one inner).symm
  | const value =>
      rw [show trim label = _ from isOf]
      cases value <;> exact references_name (List.all_eq_true.1 (by decide))
  | or left right =>
      rw [show trim label = _ from isOf]
      exact (references_mark isMark_orWord left right).trans (two left right).symm
  | and left right =>
      rw [show trim label = _ from isOf]
      exact (references_mark isMark_andWord left right).trans (two left right).symm
  | not inner =>
      have after : (Template.ofChars ("not".toList ++ [' '] ++ inner)).references = _ :=
        references_ending isEnding_notWord inner
      rw [show trim label = _ from isOf]
      exact after.trans (one inner).symm
  | compare left op right =>
      obtain ⟨symbol, hsymbol, htext⟩ := isOf
      obtain ⟨first, name, last, hwritten, mark⟩ := isMark_of_mem_operators hsymbol
      rw [htext, hwritten, references_mark mark]
      exact (two left right).symm

end Workflow.Condition
