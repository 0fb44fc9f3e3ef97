import Workflow.Proofs.Condition.Cut
import Workflow.Proofs.Run.Choosing
import Workflow.Proofs.Run.Selection

/-!
# Choosing with a fallback

If no condition of a step holds and one of its labels is neither a condition nor a catch-all, the
choice is left to a fallback. The fallback is given the whole step, and what it answers is taken as
it is. So it can choose a condition that is false; otherwise no condition is ever taken that is.

Main statement: `chosen_false_iff`.
-/

namespace Workflow

open Text

variable {World : Type}

/-! ## Catch-alls are no conditions -/

section CatchAll

variable {label : String} (caught : isCatchAll label = true)
include caught

/-- A catch-all has no characters but those of its word. -/
theorem not_mem_trim_of_isCatchAll {c : Char}
    (free : ∀ word ∈ catchAllWords, c.toLower ∉ word.toList.map Char.toLower) :
    c ∉ trim label.toList := by
  obtain ⟨word, hword, heq⟩ := List.any_eq_true.1 caught
  intro hmem
  have lower := List.mem_map_of_mem (f := Char.toLower) hmem
  rw [of_decide_eq_true heq] at lower
  exact free word hword lower

theorem trim_ne_of_isCatchAll {text : List Char}
    (other : ∀ word ∈ catchAllWords, text.map Char.toLower ≠ word.toList.map Char.toLower) :
    trim label.toList ≠ text := by
  obtain ⟨word, hword, heq⟩ := List.any_eq_true.1 caught
  intro same
  have lower := of_decide_eq_true heq
  rw [same] at lower
  exact other word hword lower

/-- A catch-all cannot be cut. -/
theorem cut?_of_isCatchAll : Condition.cut? label.toList = none := by
  by_contra found
  obtain ⟨cut, hcut⟩ := Option.ne_none_iff_exists'.1 found
  have unspaced : ∀ left mark right : List Char, ' ' ∈ mark →
      trim label.toList ≠ left ++ mark ++ right := by
    intro left mark right hspace written
    apply not_mem_trim_of_isCatchAll caught (c := ' ') (by decide)
    rw [written]
    exact List.mem_append_left right (List.mem_append_right left hspace)
  cases cut with
  | group inner =>
      have written : trim label.toList = '(' :: (inner ++ [')']) := Condition.isOf_of_cut? hcut
      apply not_mem_trim_of_isCatchAll caught (c := '(') (by decide)
      rw [written]
      exact List.mem_cons_self
  | const value =>
      have other : ∀ word ∈ catchAllWords,
          (if value then "true" else "false").toList.map Char.toLower ≠
            word.toList.map Char.toLower := by
        cases value <;> decide
      exact trim_ne_of_isCatchAll caught other (Condition.isOf_of_cut? hcut)
  | or left right =>
      exact unspaced left Condition.orWord right (by decide) (Condition.isOf_of_cut? hcut)
  | and left right =>
      exact unspaced left Condition.andWord right (by decide) (Condition.isOf_of_cut? hcut)
  | not inner =>
      exact unspaced [] Condition.notWord inner (by decide) (Condition.isOf_of_cut? hcut)
  | compare left op right =>
      obtain ⟨symbol, hsymbol, written⟩ := Condition.isOf_of_cut? hcut
      have foreign : ∀ entry ∈ Condition.operators, entry.1.toList.any (fun c =>
          ∀ word ∈ catchAllWords, c.toLower ∉ word.toList.map Char.toLower) = true := by decide
      obtain ⟨c, hc, free⟩ := List.any_eq_true.1 (foreign _ hsymbol)
      apply not_mem_trim_of_isCatchAll caught (of_decide_eq_true free)
      rw [written]
      exact List.mem_append_left right (List.mem_append_right left hc)

theorem parse_ne_ok_of_isCatchAll (e : Condition) : Condition.parse label ≠ .ok e := by
  intro he
  have read := Condition.toOption_parseChars label.toList
  rw [cut?_of_isCatchAll caught, show Condition.parseChars label.toList = _ from he] at read
  cases read

end CatchAll

/-! ## What the fallback decides -/

/-- The label of the transition is neither a condition nor a catch-all. -/
def Transition.Free (t : Transition) : Prop :=
  isCatchAll t.label = false ∧ ∀ e, Condition.parse t.label ≠ .ok e

/-- The conditions do not decide how the step is left, and there are labels that are
no conditions. -/
structure Step.Consults (step : Step) (state : State) : Prop where
  undecided : ∀ t ∈ step.transitions, ¬t.Holds state
  free : ∃ t ∈ step.transitions, t.Free

section Fallback

variable {fallback : Selector World} {step : Step} {state : State} {world : World}

theorem isFreeLabel_iff {t : Transition} : isFreeLabel t.label = true ↔ t.Free := by
  rw [isFreeLabel, Bool.and_eq_true, Bool.not_eq_true', Transition.Free, Condition.parse?]
  cases Condition.parse t.label <;> simp [Except.toOption]

theorem any_isFreeLabel_iff :
    step.labels.any isFreeLabel = true ↔ ∃ t ∈ step.transitions, t.Free := by
  rw [Step.labels, List.any_map, List.any_eq_true]
  simp only [Function.comp_apply, isFreeLabel_iff]

/-- Where the fallback is asked, its answer is the choice, and what it makes of the world. -/
theorem selectByCondition_of_consults (consults : step.Consults state) :
    selectByCondition (some fallback) step state world = fallback step state world := by
  have none_holds : step.labels.find? (labelHolds state) = none := by
    rw [Step.labels, List.find?_map, Option.map_eq_none_iff]
    exact find?_labelHolds_eq_none_iff.2 consults.undecided
  have asked : step.labels.any isFreeLabel = true := any_isFreeLabel_iff.2 consults.free
  rw [selectByCondition, none_holds]
  simp only [Option.filter_some, asked, if_true]

/-- Elsewhere the choice is the one that conditions make without a fallback. -/
theorem selectByCondition_of_not_consults (alone : ¬step.Consults state) :
    selectByCondition (some fallback) step state world =
      selectByCondition none step state world := by
  rw [selectByCondition, selectByCondition]
  cases hheld : step.labels.find? (labelHolds state) with
  | some label => rfl
  | none =>
      have silent : step.labels.any isFreeLabel = false := by
        rw [Bool.eq_false_iff, Ne, any_isFreeLabel_iff]
        intro free
        rw [Step.labels, List.find?_map, Option.map_eq_none_iff] at hheld
        exact alone ⟨find?_labelHolds_eq_none_iff.1 hheld, free⟩
      simp only [Option.filter_some, silent, Option.filter_none, Bool.false_eq_true, if_false]

/-- What conditions pick is no false condition. -/
theorem Step.Picks.not_false {t : Transition} (picks : step.Picks state t) {e : Condition}
    (he : Condition.parse t.label = .ok e) : e.holds state = true := by
  cases picks with
  | condition first =>
      obtain ⟨_, _, _, ⟨_, e', he', holds⟩, _⟩ := first
      rw [he] at he'
      rwa [Except.ok.inj he']
  | catchAll _ first =>
      obtain ⟨_, _, _, caught, _⟩ := first
      exact absurd he (parse_ne_ok_of_isCatchAll caught e)

/-- A condition that is false is chosen just if the conditions of the step leave the choice to the
fallback and the fallback answers with it. -/
theorem chosen_false_iff {label : String} {e : Condition} (he : Condition.parse label = .ok e)
    (is_false : e.holds state = false) :
    (selectByCondition (some fallback) step state world).1 = .ok label ↔
      step.Consults state ∧ (fallback step state world).1 = .ok label := by
  by_cases consults : step.Consults state
  · rw [selectByCondition_of_consults consults]
    constructor
    · intro answered
      exact ⟨consults, answered⟩
    · rintro ⟨_, answered⟩
      exact answered
  · rw [selectByCondition_of_not_consults consults]
    constructor
    · intro chosen
      obtain ⟨t, picks, rfl⟩ := Engine.selectByCondition_ok_iff.1 chosen
      rw [picks.not_false he] at is_false
      cases is_false
    · rintro ⟨asked, _⟩
      exact absurd asked consults

/-- A step with a condition and a label in words. -/
def judge : Step :=
  ⟨"judge", .reasoning "?", [⟨"a.x == 1", "umbrella"⟩, ⟨"if it rains", "sunglasses"⟩], none⟩

/-- A state in which the condition is false. -/
def unclear : State := .commit .empty "a" (Dict.empty.insert "x" (.int 2))

theorem judge_consults : judge.Consults unclear where
  undecided := by
    rw [← find?_labelHolds_eq_none_iff]
    decide +kernel
  free := by
    rw [← any_isFreeLabel_iff]
    decide +kernel

/-- A fallback that keeps to the labels in words is followed, and chooses no false condition. -/
theorem chosen_in_words :
    Condition.parse "a.x == 1" = .ok (.compare ⟨"a", "x", []⟩ .eq (.number (.ofInt 1))) ∧
      Condition.holds unclear (.compare ⟨"a", "x", []⟩ .eq (.number (.ofInt 1))) = false ∧
      (selectByCondition (some (.ofFunction fun _ _ => "if it rains")) judge unclear ()).1 =
        .ok "if it rains" ∧
      (selectByCondition (some (.ofFunction fun _ _ => "if it rains")) judge unclear ()).1 ≠
        .ok "a.x == 1" := by
  have he : Condition.parse "a.x == 1" =
      .ok (.compare ⟨"a", "x", []⟩ .eq (.number (.ofInt 1))) := by
    decide +kernel
  have is_false :
      Condition.holds unclear (.compare ⟨"a", "x", []⟩ .eq (.number (.ofInt 1))) = false := by
    decide +kernel
  refine ⟨he, is_false, ?_, ?_⟩
  · rw [selectByCondition_of_consults judge_consults]
    rfl
  · rw [Ne, chosen_false_iff he is_false]
    rintro ⟨_, answered⟩
    exact absurd answered (by decide)

/-- A reasoner that is asked is offered the false conditions too, and can choose one by
its number. -/
theorem false_condition_chosen_by_number :
    ∃ e, Condition.parse "a.x == 1" = .ok e ∧ e.holds unclear = false ∧
      (selectByCondition (some (selectByReasoner fun _ world => (.ok "1", world)))
          judge unclear ()).1 =
        .ok "a.x == 1" := by
  refine ⟨.compare ⟨"a", "x", []⟩ .eq (.number (.ofInt 1)), ?_, ?_, ?_⟩
  · decide +kernel
  · decide +kernel
  · decide +kernel

end Fallback

end Workflow
