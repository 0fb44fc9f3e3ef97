import Workflow.Proofs.Reference.Substitution

/-!
# Resolving with any look-up

A run resolves a reference in its state. For comparing what is read under different names the
look-up is a parameter here: any function from references to values. Resolving in a state is the
case of the look-up of that state, and to resolve what is left by a replacement of references is to
resolve the original and look up the replacements.
-/

namespace Workflow

/-! ## Definitions -/

section Definitions

variable (look : Reference → Except ResolveError Json)

/-- A prompt with its placeholders replaced by the texts of their values. -/
def lookUpPrompt (prompt : String) : Except ResolveError String :=
  ((Template.ofText prompt).fill look).map String.ofList

/-- A string parameter: a value of any type if it is one placeholder, a text otherwise. -/
def lookUpString (text : String) : Except ResolveError Json :=
  match Template.ofText text with
  | [.reference r] => look r
  | template => (template.fill look).map fun cs => .text (String.ofList cs)

mutual

/-- A value with the placeholders in its strings looked up. -/
def lookUpValue : Json → Except ResolveError Json
  | .text s => lookUpString look s
  | .array items => (lookUpItems items).map .array
  | .object fields => (lookUpFields fields).map .object
  | value => .ok value

/-- The items of an array, looked up in order. -/
def lookUpItems : List Json → Except ResolveError (List Json)
  | [] => .ok []
  | item :: rest => do
      let value ← lookUpValue item
      let values ← lookUpItems rest
      return value :: values

/-- The fields of an object, looked up in order. -/
def lookUpFields : List (String × Json) → Except ResolveError (List (String × Json))
  | [] => .ok []
  | (key, item) :: rest => do
      let value ← lookUpValue item
      let fields ← lookUpFields rest
      return (key, value) :: fields

end

/-- The parameters of a tool call, looked up in order of their names. -/
def lookUpParameters (parameters : Fields) : Except ResolveError Fields :=
  (lookUpFields look parameters.entries).map Dict.ofList

end Definitions

/-! ## The look-up of a state -/

section State

variable (step : String) (state : State)

theorem resolvePrompt_eq_lookUp (prompt : String) :
    resolvePrompt step prompt state = lookUpPrompt (state.resolve step) prompt := rfl

mutual

theorem resolveValue_eq_lookUp : ∀ value : Json,
    resolveValue step state value = lookUpValue (state.resolve step) value
  | .null | .bool _ | .int _ | .float _ => rfl
  | .text _ => rfl
  | .array items => congrArg (Except.map Json.array) (resolveItems_eq_lookUp items)
  | .object fields => congrArg (Except.map Json.object) (resolveFields_eq_lookUp fields)

theorem resolveItems_eq_lookUp : ∀ items : List Json,
    resolveItems step state items = lookUpItems (state.resolve step) items
  | [] => rfl
  | item :: rest => by
      rw [resolveItems, lookUpItems, resolveValue_eq_lookUp item, resolveItems_eq_lookUp rest]

theorem resolveFields_eq_lookUp : ∀ fields : List (String × Json),
    resolveFields step state fields = lookUpFields (state.resolve step) fields
  | [] => rfl
  | (key, item) :: rest => by
      rw [resolveFields, lookUpFields, resolveValue_eq_lookUp item, resolveFields_eq_lookUp rest]

end

theorem resolveParameters_eq_lookUp (parameters : Fields) :
    resolveParameters step parameters state = lookUpParameters (state.resolve step) parameters := by
  rw [resolveParameters, lookUpParameters, resolveFields_eq_lookUp]

end State

/-! ## Looking up after a replacement -/

section Replacement

variable {look : Reference → Except ResolveError Json} {replace : Reference → Option Reference}

theorem lookUpPrompt_substituteText {prompt : String}
    (readable : ∀ r ∈ referencesInText prompt, (r.replacedBy replace).isReadable = true) :
    lookUpPrompt look (substituteText replace prompt) =
      lookUpPrompt (fun r => look (r.replacedBy replace)) prompt := by
  rw [lookUpPrompt, ofText_substituteText readable, Template.fill_substitute]
  rfl

/-- A string is one placeholder before the replacement exactly if it is one after it. -/
theorem lookUpString_substituteText {text : String}
    (readable : ∀ r ∈ referencesInText text, (r.replacedBy replace).isReadable = true) :
    lookUpString look (substituteText replace text) =
      lookUpString (fun r => look (r.replacedBy replace)) text := by
  rw [lookUpString, lookUpString, ofText_substituteText readable]
  rcases Template.ofText text with _ | ⟨piece, _ | ⟨piece', rest⟩⟩
  · rfl
  · cases piece with
    | literal c => rfl
    | reference r => rfl
  · have fill := Template.fill_substitute replace look (piece :: piece' :: rest)
    cases piece <;> exact congrArg (Except.map fun cs => Json.text (String.ofList cs)) fill

mutual

theorem lookUpValue_substituteValue : ∀ value : Json,
    (∀ r ∈ referencesInValue value, (r.replacedBy replace).isReadable = true) →
      lookUpValue look (substituteValue replace value) =
        lookUpValue (fun r => look (r.replacedBy replace)) value
  | .null, _ | .bool _, _ | .int _, _ | .float _, _ => rfl
  | .text s, readable =>
      lookUpString_substituteText fun r hr =>
        readable r (mem_referencesInText_of_mem_strings (List.mem_singleton_self s) hr)
  | .array items, readable =>
      congrArg (Except.map Json.array) (lookUpItems_substituteText items readable)
  | .object fields, readable =>
      congrArg (Except.map Json.object) (lookUpFields_substituteText fields readable)

theorem lookUpItems_substituteText : ∀ items : List Json,
    (∀ r ∈ (Json.itemStrings items).flatMap referencesInText,
      (r.replacedBy replace).isReadable = true) →
      lookUpItems look (Json.mapItemStrings (substituteText replace) items) =
        lookUpItems (fun r => look (r.replacedBy replace)) items
  | [], _ => rfl
  | item :: rest, readable => by
      rw [Json.itemStrings, List.flatMap_append] at readable
      have here := lookUpValue_substituteValue item fun r hr =>
        readable r (List.mem_append_left _ hr)
      rw [substituteValue] at here
      rw [Json.mapItemStrings, lookUpItems, lookUpItems, here,
        lookUpItems_substituteText rest fun r hr => readable r (List.mem_append_right _ hr)]

theorem lookUpFields_substituteText : ∀ fields : List (String × Json),
    (∀ r ∈ (Json.fieldStrings fields).flatMap referencesInText,
      (r.replacedBy replace).isReadable = true) →
      lookUpFields look (Json.mapFieldStrings (substituteText replace) fields) =
        lookUpFields (fun r => look (r.replacedBy replace)) fields
  | [], _ => rfl
  | (key, item) :: rest, readable => by
      rw [Json.fieldStrings, List.flatMap_append] at readable
      have here := lookUpValue_substituteValue item fun r hr =>
        readable r (List.mem_append_left _ hr)
      rw [substituteValue] at here
      rw [Json.mapFieldStrings, lookUpFields, lookUpFields, here,
        lookUpFields_substituteText rest fun r hr => readable r (List.mem_append_right _ hr)]

end

theorem lookUpParameters_substitute {name : String} {parameters : Fields}
    (readable : ∀ r ∈ (Action.tool name parameters).references,
      (r.replacedBy replace).isReadable = true) :
    lookUpParameters look (parameters.map (substituteValue replace)) =
      lookUpParameters (fun r => look (r.replacedBy replace)) parameters := by
  have readable' : ∀ r ∈ (Json.fieldStrings parameters.entries).flatMap referencesInText,
      (r.replacedBy replace).isReadable = true := by
    rw [flatMap_fieldStrings]
    exact readable
  have entries_eq : (parameters.map (substituteValue replace)).entries =
      Json.mapFieldStrings (substituteText replace) parameters.entries :=
    (Json.mapFieldStrings_eq_map _ _).symm
  rw [lookUpParameters, lookUpParameters, entries_eq, lookUpFields_substituteText _ readable']

end Replacement

end Workflow
