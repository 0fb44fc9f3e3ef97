import Mathlib.Data.List.Infix
import Mathlib.Data.List.TakeWhile
import Workflow.Proofs.Condition.Words
import Workflow.Proofs.Run.Choosing
import Workflow.Proofs.Run.Drive
import Workflow.Proofs.Run.Selection
import Workflow.Proofs.Text.Trimming

/-!
# Choosing by an answer

A reasoner is offered the labels of a step as numbered options. What it answers is stripped of the
blanks and marks around it before it is compared with the labels, which keep theirs; and letter case
makes no difference. So a label that ends with a quote or a point is not found by those who answer
with it, nor is one that an earlier label differs from in case only. Nothing of this stands in the
way of numbers.

Main statements: `matchLabel_self_iff` and `Engine.move_of_number`.
-/

namespace Workflow

open Text

variable {World : Type}

/-! ## Bare answers -/

/-- No blanks and no marks stand around the label. -/
structure IsBare (label : String) : Prop where
  unspaced : IsTrimmed isBlank label.toList
  unmarked : IsTrimmed isAnswerMark label.toList

/-- The answer is the text, with any marks around it and any blanks around those. -/
def IsWrapped (text : List Char) (answer : String) : Prop :=
  ∃ blanks marks marks' blanks', (∀ c ∈ blanks ++ blanks', isBlank c = true) ∧
    (∀ c ∈ marks ++ marks', isAnswerMark c = true) ∧
    answer.toList = blanks ++ (marks ++ text ++ marks') ++ blanks'

theorem bareAnswer_isInfix (answer : String) : bareAnswer answer <:+: answer.toList :=
  (trimWhile_isInfix isAnswerMark _).trans (trimWhile_isInfix isBlank _)

theorem bareAnswer_eq_self_iff {label : String} :
    bareAnswer label = label.toList ↔ IsBare label := by
  have outer := trimWhile_isInfix isBlank label.toList
  have inner := trimWhile_isInfix isAnswerMark (trim label.toList)
  constructor
  · intro same
    have long : label.toList.length ≤ (trim label.toList).length := by
      calc label.toList.length = (bareAnswer label).length := by rw [same]
        _ ≤ (trim label.toList).length := inner.length_le
    have unspaced : trim label.toList = label.toList := outer.eq_of_length_le long
    rw [bareAnswer, unspaced] at same
    exact ⟨trimWhile_eq_self_iff.1 unspaced, trimWhile_eq_self_iff.1 same⟩
  · intro bare
    rw [bareAnswer, trim, trimWhile_eq_self_iff.2 bare.unspaced,
      trimWhile_eq_self_iff.2 bare.unmarked]

/-- A mark is no white space. -/
theorem not_isBlank_of_isAnswerMark {c : Char} (h : isAnswerMark c = true) : isBlank c = false := by
  simp only [isAnswerMark, Bool.or_eq_true, decide_eq_true_eq] at h
  rcases h with ((rfl | rfl) | rfl) | rfl <;> decide

theorem bareAnswer_of_isWrapped {text : List Char} {answer : String} (h : IsWrapped text answer)
    (spaceless : ∀ c ∈ text, isBlank c = false) (unmarked : IsTrimmed isAnswerMark text) :
    bareAnswer answer = text := by
  obtain ⟨blanks, marks, marks', blanks', hblanks, hmarks, written⟩ := h
  rw [List.forall_mem_append] at hblanks hmarks
  have inside : ∀ c ∈ marks ++ text ++ marks', isBlank c = false := by
    rw [List.forall_mem_append, List.forall_mem_append]
    exact ⟨⟨fun c hc => not_isBlank_of_isAnswerMark (hmarks.1 c hc), spaceless⟩,
      fun c hc => not_isBlank_of_isAnswerMark (hmarks.2 c hc)⟩
  rw [bareAnswer, written, trim,
    trimWhile_between hblanks.1 hblanks.2 (isTrimmed_of_forall inside),
    trimWhile_between hmarks.1 hmarks.2 unmarked]

/-! ## Labels that an answer mentions -/

theorem Text.occursIn_iff {needle text : List Char} :
    occursIn needle text = true ↔ needle <:+: text := by
  induction text with
  | nil => rw [occursIn, List.isEmpty_iff, List.infix_nil]
  | cons c rest ih =>
      rw [occursIn, Bool.or_eq_true, List.isPrefixOf_iff_prefix, ih, List.infix_cons_iff]

/-- The length of a text in lower case: only one character has a small letter that takes two. -/
theorem Text.length_lowercase (text : List Char) :
    (lowercase text).length = text.length + text.count 'İ' := by
  have after (before : List Char) :
      (lowercaseAfter before text).length = text.length + text.count 'İ' := by
    induction text generalizing before with
    | nil => rfl
    | cons c rest ih =>
        rw [lowercaseAfter]
        by_cases sigma : c = 'Σ'
        · subst sigma
          rw [if_pos rfl, List.length_cons, ih, List.length_cons, List.count_cons_of_ne (by decide)]
          omega
        · rw [if_neg sigma]
          by_cases dotted : c = 'İ'
          · subst dotted
            rw [if_pos rfl, List.length_cons, List.length_cons, ih, List.length_cons,
              List.count_cons_self]
            omega
          · rw [if_neg dotted, List.length_cons, ih, List.length_cons, List.count_cons_of_ne dotted]
            omega
  exact after []

/-- No text is mentioned in a shorter stretch of itself. -/
theorem Text.eq_of_lowercase_isInfix {part text : List Char} (h : part <:+: text)
    (mentioned : lowercase text <:+: lowercase part) : part = text := by
  apply h.eq_of_length_le
  have long := mentioned.length_le
  have count := h.sublist.count_le 'İ'
  rw [length_lowercase, length_lowercase] at long
  omega

theorem mem_of_foldl_longerLabel {best : Option String} {labels : List String} {found : String}
    (h : labels.foldl longerLabel best = some found) : best = some found ∨ found ∈ labels := by
  induction labels generalizing best with
  | nil => exact .inl h
  | cons label rest ih =>
      rcases ih h with kept | later
      · cases best with
        | none =>
            obtain rfl := Option.some.inj kept
            exact .inr List.mem_cons_self
        | some b =>
            rw [longerLabel] at kept
            split at kept
            · obtain rfl := Option.some.inj kept
              exact .inr List.mem_cons_self
            · exact .inl kept
      · exact .inr (List.mem_cons_of_mem _ later)

theorem isInfix_of_mentionedLabel? {answer : List Char} {labels : List String} {found : String}
    (h : mentionedLabel? answer labels = some found) :
    lowercase found.toList <:+: lowercase answer := by
  rcases mem_of_foldl_longerLabel h with nothing | hmem
  · cases nothing
  · exact occursIn_iff.1 (List.mem_filter.1 hmem).2

/-! ## Answering with a label -/

/-- The label is the text, the case of ASCII letters aside. -/
def Spells (text : List Char) (label : String) : Prop :=
  eqIgnoringAsciiCase label.toList text = true

/-- The text starts with digits that make this number. -/
def StartsWithNumber (number : Nat) (text : List Char) : Prop :=
  readNat? (text.takeWhile Char.isDigit) = some number

theorem Spells.length_eq {text : List Char} {label : String} (h : Spells text label) :
    label.toList.length = text.length := by
  simpa using congrArg List.length (of_decide_eq_true h)

theorem spells_self (label : String) : Spells label.toList label := decide_eq_true rfl

theorem optionByNumber?_eq_some_iff {answer : List Char} {labels : List String} {label : String} :
    optionByNumber? answer labels = some label ↔
      ∃ place, StartsWithNumber (place + 1) answer ∧ labels[place]? = some label := by
  unfold StartsWithNumber optionByNumber?
  constructor
  · intro found
    split at found
    · next place number => exact ⟨place, number, found⟩
    · cases found
  · rintro ⟨place, number, there⟩
    rw [number]
    exact there

/-- A label that is chosen when it is answered: it is bare and no earlier label differs from it in
letter case only; or it is taken for its own number. -/
inductive IsAnswerable (labels : List String) (label : String) : Prop where
  | whole : IsBare label → IsFirst (Spells label.toList) labels label → IsAnswerable labels label
  | number {place : Nat} : ¬IsBare label → (∀ other ∈ labels, ¬Spells (bareAnswer label) other) →
      StartsWithNumber (place + 1) (bareAnswer label) → labels[place]? = some label →
      IsAnswerable labels label

section Match

variable {labels : List String} {label : String}

theorem IsBare.of_spells (h : Spells (bareAnswer label) label) : IsBare label :=
  bareAnswer_eq_self_iff.1 ((bareAnswer_isInfix label).eq_of_length h.length_eq.symm)

/-- An answer that spells a label chooses the first one that it spells. -/
theorem matchLabel_of_spells {answer found : String}
    (first : IsFirst (Spells (bareAnswer answer)) labels found) :
    matchLabel answer labels = found := by
  have hfound := isFirst_iff_find?.1 first
  rw [matchLabel, hfound]
  rfl

/-- An answer that spells none is taken for a number. -/
theorem matchLabel_of_number {answer found : String}
    (unspelled : ∀ other ∈ labels, ¬Spells (bareAnswer answer) other)
    (chosen : optionByNumber? (bareAnswer answer) labels = some found) :
    matchLabel answer labels = found := by
  have none_spelled := List.find?_eq_none.2 unspelled
  rw [matchLabel, none_spelled, chosen]
  rfl

/-- An answer that is neither a label nor a number never chooses itself, unless it is bare. -/
theorem IsBare.of_matchLabel (unspelled : ∀ other ∈ labels, ¬Spells (bareAnswer label) other)
    (unnumbered : optionByNumber? (bareAnswer label) labels = none)
    (chosen : matchLabel label labels = label) : IsBare label := by
  have none_spelled := List.find?_eq_none.2 unspelled
  rw [matchLabel, none_spelled, unnumbered] at chosen
  rw [← bareAnswer_eq_self_iff]
  cases hmentioned : mentionedLabel? (bareAnswer label) labels with
  | some found =>
      rw [hmentioned] at chosen
      obtain rfl : found = label := chosen
      exact eq_of_lowercase_isInfix (bareAnswer_isInfix found)
        (isInfix_of_mentionedLabel? hmentioned)
  | none =>
      rw [hmentioned] at chosen
      have kept : String.ofList (bareAnswer label) = label := chosen
      simpa using congrArg String.toList kept

/-- A label that is answered is chosen just if it is answerable: what it mentions besides is of no
help to it. -/
theorem matchLabel_self_iff (h : label ∈ labels) :
    matchLabel label labels = label ↔ IsAnswerable labels label := by
  cases hspelled : labels.find? fun other =>
      eqIgnoringAsciiCase other.toList (bareAnswer label) with
  | some found =>
      have first : IsFirst (Spells (bareAnswer label)) labels found := isFirst_iff_find?.2 hspelled
      have ⟨_, _, written, spelled, _⟩ := first
      rw [matchLabel_of_spells first]
      constructor
      · rintro rfl
        have bare : IsBare found := .of_spells spelled
        rw [bareAnswer_eq_self_iff.2 bare] at first
        exact .whole bare first
      · rintro (⟨bare, whole⟩ | ⟨_, unspelled, _, _⟩)
        · rw [bareAnswer_eq_self_iff.2 bare] at first
          exact first.unique whole
        · exact absurd spelled (unspelled found (by simp [written]))
  | none =>
      have unspelled : ∀ other ∈ labels, ¬Spells (bareAnswer label) other :=
        List.find?_eq_none.1 hspelled
      have not_bare : ¬IsBare label := by
        intro bare
        apply unspelled label h
        rw [bareAnswer_eq_self_iff.2 bare]
        exact spells_self label
      constructor
      · intro chosen
        cases hnumber : optionByNumber? (bareAnswer label) labels with
        | some found =>
            rw [matchLabel_of_number unspelled hnumber] at chosen
            obtain ⟨place, number, there⟩ := optionByNumber?_eq_some_iff.1 hnumber
            rw [chosen] at there
            exact .number not_bare unspelled number there
        | none => exact absurd (IsBare.of_matchLabel unspelled hnumber chosen) not_bare
      · rintro (⟨bare, _⟩ | ⟨_, _, number, there⟩)
        · exact absurd bare not_bare
        · exact matchLabel_of_number unspelled (optionByNumber?_eq_some_iff.2 ⟨_, number, there⟩)

/-- A label can be answered with its point only if no point belongs to it. -/
theorem pointed_label_not_answerable :
    IsAnswerable ["if it rains", "if it stays dry."] "if it rains" ∧
      ¬IsAnswerable ["if it rains", "if it stays dry."] "if it stays dry." := by
  rw [← matchLabel_self_iff (by decide), ← matchLabel_self_iff (by decide)]
  decide +kernel

/-- The quote at the end of a condition is taken for a mark, so that the condition is not found when
it is answered; and a label may be answered and another one chosen. -/
theorem quoted_label_not_chosen :
    ["fetch.conditions == 'rainy'", "otherwise"].Nodup ∧
      matchLabel "fetch.conditions == 'rainy'" ["fetch.conditions == 'rainy'", "otherwise"] =
        "fetch.conditions == 'rainy" ∧
      ["2.", "1."].Nodup ∧ matchLabel "2." ["2.", "1."] = "1." := by
  decide +kernel

end Match

/-! ## Answering with a number -/

section Number

variable {labels : List String} {label answer : String} {place : Nat}

/-- No letter has a digit for its small letter. -/
theorem Text.eq_of_toLower_of_isDigit {c d : Char} (hd : d.isDigit = true)
    (h : c.toLower = d.toLower) : c = d := by
  simp only [Char.isDigit, ge_iff_le, Bool.and_eq_true, decide_eq_true_eq,
    UInt32.le_iff_toNat_le] at hd
  have kept : d.toLower = d := by
    unfold Char.toLower
    rw [dif_neg]
    simp only [ge_iff_le, UInt32.le_iff_toNat_le]
    simp only [Char.reduceVal, UInt32.reduceToNat, not_and, not_le] at hd ⊢
    omega
  rw [kept] at h
  unfold Char.toLower at h
  split at h
  · next upper =>
      subst h
      simp only [Char.reduceVal, UInt32.reduceToNat, UInt32.reduceSub, UInt32.toNat_add,
        Nat.reducePow, ge_iff_le, UInt32.le_iff_toNat_le] at hd upper
      omega
  · exact h

theorem Text.eq_of_map_toLower_of_digits {text digits : List Char}
    (hdigits : ∀ c ∈ digits, c.isDigit = true)
    (h : text.map Char.toLower = digits.map Char.toLower) : text = digits := by
  induction digits generalizing text with
  | nil => exact List.map_eq_nil_iff.1 h
  | cons d digits ih =>
      rw [List.forall_mem_cons] at hdigits
      cases text with
      | nil => cases h
      | cons c text =>
          obtain ⟨first, rest⟩ := List.cons.inj h
          rw [eq_of_toLower_of_isDigit hdigits.1 first, ih hdigits.2 rest]

theorem digits_toString (n : Nat) :
    (toString n).toList = Nat.toDigits 10 n ∧ ∀ c ∈ (toString n).toList, c.isDigit = true := by
  have written : (toString n).toList = Nat.toDigits 10 n := Nat.toList_repr
  refine ⟨written, fun c hc => ?_⟩
  rw [written] at hc
  exact Nat.isDigit_of_mem_toDigits (by decide) (by decide) hc

theorem startsWithNumber_toString (n : Nat) : StartsWithNumber n (toString n).toList := by
  obtain ⟨written, digits⟩ := digits_toString n
  have value : digitsValue (Nat.toDigits 10 n) = n := Nat.ofDigitChars_ten_toDigits
  rw [written] at digits ⊢
  rw [StartsWithNumber, List.takeWhile_eq_self_iff.2 digits, readNat?, value, if_pos]
  exact ⟨Nat.toDigits_ne_nil, List.all_eq_true.2 digits⟩

theorem not_mark_of_isDigit {c : Char} (h : c.isDigit = true) :
    isBlank c = false ∧ isAnswerMark c = false := by
  constructor
  · apply Condition.isBlank_of_isWordChar
    apply Condition.isWordChar_of_isNameChar
    simp [isNameChar, Char.isAlphanum, h]
  · by_contra marked
    simp only [isAnswerMark, Bool.not_eq_false, Bool.or_eq_true, decide_eq_true_eq] at marked
    rcases marked with ((rfl | rfl) | rfl) | rfl <;> exact absurd h (by decide)

/-- The number of an option, wrapped in any way, chooses the option, unless it is a label. -/
theorem matchLabel_toString (there : labels[place]? = some label)
    (unlabelled : toString (place + 1) ∉ labels)
    (wrapped : IsWrapped (toString (place + 1)).toList answer) :
    matchLabel answer labels = label := by
  have digits := (digits_toString (place + 1)).2
  have bare : bareAnswer answer = (toString (place + 1)).toList :=
    bareAnswer_of_isWrapped wrapped (fun c hc => (not_mark_of_isDigit (digits c hc)).1)
      (isTrimmed_of_forall fun c hc => (not_mark_of_isDigit (digits c hc)).2)
  apply matchLabel_of_number
  · rw [bare]
    intro other hother spelled
    have same := eq_of_map_toLower_of_digits digits (of_decide_eq_true spelled)
    rw [String.toList_inj.1 same] at hother
    exact unlabelled hother
  · rw [bare, optionByNumber?_eq_some_iff]
    exact ⟨place, startsWithNumber_toString (place + 1), there⟩

/-- The line of a prompt that offers a label. -/
def optionLine (number : Nat) (label : String) : String := toString number ++ ". " ++ label ++ "\n"

theorem optionLines_eq_join (number : Nat) (labels : List String) :
    optionLines number labels =
      String.join (labels.mapIdx fun i label => optionLine (number + i) label) := by
  induction labels generalizing number with
  | nil => rfl
  | cons label rest ih =>
      have shifted : (fun i label => optionLine (number + 1 + i) label) =
          fun i label => optionLine (number + (i + 1)) label := by
        funext i label
        rw [Nat.add_assoc, Nat.add_comm 1 i]
      rw [optionLines, ih, List.mapIdx_cons, String.join_cons, shifted]
      rfl

/-- A prompt consists of what would stand in it without any options, and a line for each option. -/
theorem choicePrompt_eq (step : Step) (state : State) :
    choicePrompt step state = choicePrompt { step with transitions := [] } state ++
      String.join (step.labels.mapIdx fun i label => optionLine (i + 1) label) := by
  have numbered : (fun i label => optionLine (1 + i) label) =
      fun i label => optionLine (i + 1) label := by
    funext i label
    rw [Nat.add_comm]
  have none_offered : optionLines 1 ({ step with transitions := [] } : Step).labels = "" := rfl
  unfold choicePrompt
  rw [none_offered, String.append_empty, optionLines_eq_join, numbered]

end Number

/-! ## Leaving a step by a number -/

namespace Engine

/-- A reasoner that answers with the number of an option is followed to the target of the transition
that the prompt offers under this number, unless a label is that number: there the run, which is
running, enters next. -/
theorem move_of_number {e : Engine} {c : Collaborators World} {ask : Reasoner World} {step : Step}
    {t : Transition} {place : Nat} {answer : String} {world world' : World}
    (selects : c.selector = some (selectByReasoner ask)) (hstep : e.graph.step? step.id = some step)
    (leaving : e.run.cursor = .leave step.id) (several : 2 ≤ step.transitions.length)
    (offered : step.transitions[place]? = some t) (unlabelled : toString (place + 1) ∉ step.labels)
    (asked : ask (choicePrompt step e.run.state) world = (.ok answer, world'))
    (wrapped : IsWrapped (toString (place + 1)).toList answer) :
    (∃ lines, choicePrompt step e.run.state =
        choicePrompt { step with transitions := [] } e.run.state ++ String.join lines ∧
      lines.length = step.transitions.length ∧
      lines[place]? = some (toString (place + 1) ++ ". " ++ t.label ++ "\n")) ∧
    e.move c world =
      (.goesOn { e.run with cursor := .enter t.target, status := .running }, world') ∧
    (e.run.IsOpen → e.advance c world =
      moveOn c (2 * e.graph.steps.size)
        (e.withRun { e.run with cursor := .enter t.target, status := .running }) world') := by
  obtain ⟨_, _, wf⟩ := Graph.wellFormed_of_isAccepted e.accepted
  have nodup := wf.labels_nodup step (Graph.mem_stepList_of_step? hstep)
  have label : step.labels[place]? = some t.label := by
    rw [Step.labels, List.getElem?_map, offered]
    rfl
  -- The status is no part of what is asked, so that the choice is the same once the run is running.
  have moves (run : Run) (hstate : run.state = e.run.state)
      (hcursor : run.cursor = .leave step.id) :
      (e.withRun run).move c world =
        (.goesOn { run with cursor := .enter t.target, status := .running }, world') := by
    have selected : selectByReasoner ask step run.state world = (.ok t.label, world') := by
      rw [selectByReasoner, hstate, asked]
      simp only [matchLabel_toString label unlabelled wrapped]
    rw [move_of_leave c hstep hcursor,
      leave_of_selected selects several nodup (List.mem_of_getElem? offered) selected, Run.goTo]
  refine ⟨⟨_, choicePrompt_eq step e.run.state, ?_, ?_⟩, moves e.run rfl leaving, ?_⟩
  · rw [List.length_mapIdx, Step.labels, List.length_map]
  · rw [List.getElem?_mapIdx, label]
    rfl
  · intro isOpen
    have first := moves e.begun.run rfl leaving
    rw [advance_of_open isOpen, maxMoves, moveOn, show e.begun.move c world = _ from first]
    rfl

/-- The step at which the weather service branches. -/
def forecastFork : Step :=
  ⟨"ask", .tool "weather" (Dict.empty.insert "city" (.text "Oslo")),
    [⟨"ask.temperature > 25", "warn"⟩, ⟨"otherwise", "quiet"⟩], none⟩

/-- A reasoner that puts the number of an option into quotes, with a point and blanks. -/
def secondOption : Reasoner Unit := fun _ world => (.ok " '2.'\n", world)

/-- The weather service goes the quiet way for a reasoner that answers with its number. -/
theorem forecastTold_goes_by_number :
    forecastTold.run.cursor = .leave "ask" ∧ IsWrapped (toString 2).toList " '2.'\n" ∧
      forecastTold.move ⟨none, some (selectByReasoner secondOption)⟩ () =
        (.goesOn { forecastTold.run with cursor := .enter "quiet", status := .running }, ()) := by
  have leaving : forecastTold.run.cursor = .leave "ask" := by decide +kernel
  have hstep : forecastTold.graph.step? forecastFork.id = some forecastFork := by decide +kernel
  have unlabelled : toString 2 ∉ forecastFork.labels := by decide +kernel
  have wrapped : IsWrapped (toString 2).toList " '2.'\n" :=
    ⟨[' '], ['\''], ['.', '\''], ['\n'], List.all_eq_true.1 (by decide +kernel),
      List.all_eq_true.1 (by decide +kernel), by decide +kernel⟩
  obtain ⟨_, moves, _⟩ := move_of_number (c := ⟨none, some (selectByReasoner secondOption)⟩)
    (t := ⟨"otherwise", "quiet"⟩) rfl hstep leaving (Nat.le_refl 2) rfl unlabelled rfl wrapped
  exact ⟨leaving, wrapped, moves⟩

end Engine

end Workflow
