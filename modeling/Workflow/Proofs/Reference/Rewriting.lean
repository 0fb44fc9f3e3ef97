import Mathlib.Data.List.Forall2
import Workflow.Proofs.Reference.Segments

/-!
# Rewriting inside strings

Placeholders stand in the strings of a value, and nothing but these strings is rewritten: a value
and what became of it have the same shape, the same keys and the same numbers. What may become of a
string is a parameter, so that one relation serves for placeholders that are resolved and for those
that are replaced by others.

Main statement: `Action.rewritten_substitute`, to replace references is to rewrite inside strings.
-/

namespace Workflow

/-- The second value is the first one with something else for its strings. -/
inductive Json.Rewritten (becomes : String → Json → Prop) : Json → Json → Prop where
  | null : Rewritten becomes .null .null
  | bool (value : Bool) : Rewritten becomes (.bool value) (.bool value)
  | int (value : Int) : Rewritten becomes (.int value) (.int value)
  | float (value : Binary64) : Rewritten becomes (.float value) (.float value)
  | text {s : String} {value : Json} : becomes s value → Rewritten becomes (.text s) value
  | array {items items' : List Json} : List.Forall₂ (Rewritten becomes) items items' →
      Rewritten becomes (.array items) (.array items')
  | object {fields fields' : List (String × Json)} : fields.map (·.1) = fields'.map (·.1) →
      List.Forall₂ (Rewritten becomes) (fields.map (·.2)) (fields'.map (·.2)) →
      Rewritten becomes (.object fields) (.object fields')

/-- The second action is the first one with something else for its prompt, or for the strings of its
parameters. -/
inductive Action.Rewritten (prompts : String → String → Prop) (strings : String → Json → Prop) :
    Action → Action → Prop where
  | tool {name : String} {parameters parameters' : Fields} : parameters.keys = parameters'.keys →
      List.Forall₂ (Json.Rewritten strings) parameters.values parameters'.values →
      Rewritten prompts strings (.tool name parameters) (.tool name parameters')
  | reasoning {prompt prompt' : String} : prompts prompt prompt' →
      Rewritten prompts strings (.reasoning prompt) (.reasoning prompt')
  | final : Rewritten prompts strings .final .final

/-! ## Functions on strings -/

section MapStrings

variable {becomes : String → Json → Prop} {f : String → String}

mutual

theorem Json.rewritten_mapStrings : ∀ value : Json,
    (∀ s ∈ value.strings, becomes s (.text (f s))) → value.Rewritten becomes (value.mapStrings f)
  | .null, _ => .null
  | .bool value, _ => .bool value
  | .int value, _ => .int value
  | .float value, _ => .float value
  | .text s, h => .text (h s (List.mem_singleton_self s))
  | .array items, h => .array (Json.rewritten_mapItemStrings items h)
  | .object fields, h =>
      have rewritten := Json.rewritten_mapFieldStrings fields h
      .object rewritten.1 rewritten.2

theorem Json.rewritten_mapItemStrings : ∀ items : List Json,
    (∀ s ∈ Json.itemStrings items, becomes s (.text (f s))) →
      List.Forall₂ (Json.Rewritten becomes) items (Json.mapItemStrings f items)
  | [], _ => .nil
  | item :: rest, h =>
      .cons (Json.rewritten_mapStrings item fun s hs => h s (List.mem_append_left _ hs))
        (Json.rewritten_mapItemStrings rest fun s hs => h s (List.mem_append_right _ hs))

theorem Json.rewritten_mapFieldStrings : ∀ fields : List (String × Json),
    (∀ s ∈ Json.fieldStrings fields, becomes s (.text (f s))) →
      fields.map (·.1) = (Json.mapFieldStrings f fields).map (·.1) ∧
        List.Forall₂ (Json.Rewritten becomes) (fields.map (·.2))
          ((Json.mapFieldStrings f fields).map (·.2))
  | [], _ => ⟨rfl, .nil⟩
  | (key, value) :: rest, h =>
      have here := Json.rewritten_mapStrings value fun s hs => h s (List.mem_append_left _ hs)
      have there := Json.rewritten_mapFieldStrings rest fun s hs => h s (List.mem_append_right _ hs)
      ⟨congrArg (key :: ·) there.1, .cons here there.2⟩

end

end MapStrings

/-! ## Replacing references -/

/-- The text after a replacement has the same pieces between its placeholders. -/
theorem toList_substituteText {replace : Reference → Option Reference} {text : String}
    {s : Segments} (cuts : s.Cuts text.toList) :
    (substituteText replace text).toList =
      s.write fun r => (r.replacedBy replace).chars := by
  obtain rfl := cuts.eq_ofTemplate
  rw [substituteText, String.toList_ofList, Template.ofText]
  generalize Template.ofChars text.toList = template
  induction template with
  | nil => rfl
  | cons piece rest ih =>
      cases piece with
      | literal c => exact congrArg (c :: ·) ih
      | reference r =>
          rw [Segments.write_ofTemplate_reference, Template.substitute_cons_reference,
            Template.render, ih]

/-- The references of an action are replaced by rewriting its prompt or its strings. -/
theorem Action.rewritten_substitute {replace : Reference → Option Reference}
    {becomes : String → String → Prop} (action : Action)
    (h : ∀ text, (∀ r ∈ referencesInText text, r ∈ action.references) →
      becomes text (substituteText replace text)) :
    action.Rewritten becomes (fun text value => ∃ text', value = .text text' ∧ becomes text text')
      (action.substitute replace) := by
  cases action with
  | final => exact .final
  | reasoning prompt => exact .reasoning (h prompt fun r hr => hr)
  | tool name parameters =>
      refine .tool (by simp [Dict.keys, Dict.map]) ?_
      rw [Dict.values_map, List.forall₂_map_right_iff, List.forall₂_same]
      intro value hvalue
      refine Json.rewritten_mapStrings value fun s hs => ⟨_, rfl, h s fun r hr => ?_⟩
      exact List.mem_flatMap.2 ⟨value, hvalue, mem_referencesInText_of_mem_strings hs hr⟩

end Workflow
