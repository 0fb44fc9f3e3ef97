import Workflow.Reference.Resolve

/-!
# What steps read, and when it can be resolved

The scan for references and the replacement of placeholders go through texts and nested values each
in their own way. They meet the same references in the same order: resolving fails exactly with the
error of the first reference, in the order of the scan, that has no value.

Main statements: `errorOf?_resolveParameters` and `errorOf?_resolvePrompt`; for labels,
`mem_step_labelReferences_iff`.
-/

namespace Workflow

/-! ## What labels read -/

/-- A label reads a reference if it is no catch-all and the reference is one of its placeholders or
the start of a path of its condition. -/
def LabelReads (label : String) (reference : Reference) : Prop :=
  isCatchAll label = false ∧
    (reference ∈ referencesInText label ∨
      ∃ condition, Condition.parse? label = some condition ∧
        ∃ path ∈ condition.paths, reference = .output path.step path.field)

/-- Adding references one by one, each only if it is new, gathers all of them. -/
theorem mem_foldl_addNew_iff {α : Type} (f : α → Reference) (l : List α) (found : List Reference)
    (reference : Reference) :
    reference ∈ l.foldl (fun found a => if f a ∈ found then found else found ++ [f a]) found ↔
      reference ∈ found ∨ ∃ a ∈ l, reference = f a := by
  induction l generalizing found with
  | nil => simp
  | cons a rest ih =>
      rw [List.foldl_cons, ih]
      by_cases h : f a ∈ found
      · simp only [if_pos h, List.mem_cons, exists_eq_or_imp]
        constructor
        · rintro (hm | hm)
          · exact .inl hm
          · exact .inr (.inr hm)
        · rintro (hm | rfl | hm)
          · exact .inl hm
          · exact .inl h
          · exact .inr hm
      · simp only [if_neg h, List.mem_append, List.mem_cons, List.not_mem_nil, or_false,
          exists_eq_or_imp, or_assoc]

theorem mem_labelReferences_iff (label : String) (reference : Reference) :
    reference ∈ labelReferences label ↔ LabelReads label reference := by
  unfold labelReferences LabelReads
  cases hc : isCatchAll label with
  | true => simp
  | false =>
      simp only [Bool.false_eq_true, if_false, true_and]
      rw [mem_foldl_addNew_iff fun path : Path => Reference.output path.step path.field]
      cases hp : Condition.parse? label with
      | none => simp
      | some condition => simp

/-- A step reads by its labels what one of them reads. -/
theorem mem_step_labelReferences_iff (step : Step) (reference : Reference) :
    reference ∈ step.labelReferences ↔ ∃ label ∈ step.labels, LabelReads label reference := by
  refine (mem_foldl_addNew_iff id _ [] reference).trans ?_
  simp [mem_labelReferences_iff]

/-! ## The first error -/

/-- The error of a computation that failed. -/
def errorOf? {ε α : Type} : Except ε α → Option ε
  | .ok _ => none
  | .error e => some e

theorem Except.exists_of_map_eq_ok {ε α β : Type} {f : α → β} {x : Except ε α} {b : β}
    (h : x.map f = .ok b) : ∃ a, x = .ok a ∧ f a = b := by
  cases x with
  | error e => cases h
  | ok a => exact ⟨a, rfl, Except.ok.inj h⟩

theorem Except.exists_of_bind_eq_ok {ε α β : Type} {f : α → Except ε β} {x : Except ε α} {b : β}
    (h : (x >>= f) = .ok b) : ∃ a, x = .ok a ∧ f a = .ok b := by
  cases x with
  | error e => cases h
  | ok a => exact ⟨a, rfl, h⟩

theorem toOption_eq_some_iff {ε α : Type} {x : Except ε α} {a : α} :
    x.toOption = some a ↔ x = .ok a := by
  cases x <;> simp [Except.toOption]

theorem errorOf?_eq_none_iff {ε α : Type} (x : Except ε α) :
    errorOf? x = none ↔ ∃ a, x = .ok a := by
  cases x <;> simp [errorOf?]

theorem errorOf?_eq_some_iff {ε α : Type} {x : Except ε α} {e : ε} :
    errorOf? x = some e ↔ x = .error e := by
  cases x <;> simp [errorOf?]

@[simp] theorem errorOf?_map {ε α β : Type} (f : α → β) (x : Except ε α) :
    errorOf? (x.map f) = errorOf? x := by
  cases x <;> rfl

/-- Of two computations in a row the first one that fails gives the error. -/
theorem errorOf?_both {ε α β γ : Type} (x : Except ε α) (y : Except ε β) (f : α → β → γ) :
    errorOf? (do let a ← x; let b ← y; return f a b) = (errorOf? x).or (errorOf? y) := by
  cases x <;> cases y <;> rfl

/-- The error of the first reference that has no value. -/
def firstError? (resolve : Reference → Except ResolveError Json) (references : List Reference) :
    Option ResolveError :=
  references.findSome? fun reference => errorOf? (resolve reference)

theorem firstError?_cons (resolve : Reference → Except ResolveError Json) (reference : Reference)
    (rest : List Reference) :
    firstError? resolve (reference :: rest) =
      (errorOf? (resolve reference)).or (firstError? resolve rest) := by
  unfold firstError?
  rw [List.findSome?_cons]
  cases errorOf? (resolve reference) <;> rfl

theorem firstError?_append (resolve : Reference → Except ResolveError Json)
    (references rest : List Reference) :
    firstError? resolve (references ++ rest) =
      (firstError? resolve references).or (firstError? resolve rest) :=
  List.findSome?_append

/-! ## Texts -/

variable (step : String) (state : State)

theorem errorOf?_fill (resolve : Reference → Except ResolveError Json) (template : Template) :
    errorOf? (template.fill resolve) = firstError? resolve template.references := by
  induction template with
  | nil => rfl
  | cons piece rest ih =>
      cases piece with
      | literal c =>
          rw [Template.fill, errorOf?_map, ih]
          rfl
      | reference r =>
          rw [Template.fill, errorOf?_both, ih]
          exact (firstError?_cons resolve r (Template.references rest)).symm

theorem errorOf?_resolvePrompt (prompt : String) :
    errorOf? (resolvePrompt step prompt state) =
      firstError? (state.resolve step) (referencesInText prompt) := by
  rw [resolvePrompt, errorOf?_map, errorOf?_fill]
  rfl

theorem errorOf?_resolveString (text : String) :
    errorOf? (resolveString step text state) =
      firstError? (state.resolve step) (referencesInText text) := by
  unfold resolveString referencesInText
  split
  · next r h =>
      rw [h]
      exact (Option.or_none).symm.trans (firstError?_cons (state.resolve step) r []).symm
  · rw [errorOf?_map, errorOf?_fill]

/-! ## Values -/

mutual

theorem errorOf?_resolveValue : ∀ value : Json,
    errorOf? (resolveValue step state value) =
      firstError? (state.resolve step) (referencesInValue value)
  | .null | .bool _ | .int _ | .float _ => rfl
  | .text s => by
      rw [resolveValue, errorOf?_resolveString, referencesInValue, Json.strings,
        List.flatMap_singleton]
  | .array items => by
      rw [resolveValue, errorOf?_map, errorOf?_resolveItems items]
      rfl
  | .object fields => by
      rw [resolveValue, errorOf?_map, errorOf?_resolveFields fields]
      rfl

theorem errorOf?_resolveItems : ∀ items : List Json,
    errorOf? (resolveItems step state items) =
      firstError? (state.resolve step) ((Json.itemStrings items).flatMap referencesInText)
  | [] => rfl
  | item :: rest => by
      rw [resolveItems, errorOf?_both, errorOf?_resolveValue item, errorOf?_resolveItems rest,
        Json.itemStrings, List.flatMap_append, firstError?_append]
      rfl

theorem errorOf?_resolveFields : ∀ fields : List (String × Json),
    errorOf? (resolveFields step state fields) =
      firstError? (state.resolve step) ((Json.fieldStrings fields).flatMap referencesInText)
  | [] => rfl
  | (key, item) :: rest => by
      rw [resolveFields, errorOf?_both, errorOf?_resolveValue item, errorOf?_resolveFields rest,
        Json.fieldStrings, List.flatMap_append, firstError?_append]
      rfl

end

theorem flatMap_fieldStrings (fields : List (String × Json)) :
    (Json.fieldStrings fields).flatMap referencesInText =
      (fields.map (·.2)).flatMap referencesInValue := by
  induction fields with
  | nil => rfl
  | cons field rest ih =>
      rw [Json.fieldStrings, List.flatMap_append, ih]
      rfl

theorem errorOf?_resolveParameters (name : String) (parameters : Fields) :
    errorOf? (resolveParameters step parameters state) =
      firstError? (state.resolve step) (Action.tool name parameters).references := by
  rw [resolveParameters, errorOf?_map, errorOf?_resolveFields, flatMap_fieldStrings]
  rfl

/-! ## Recorded references -/

/-- The value of the reference is recorded. -/
def State.Records (state : State) : Reference → Prop
  | .output source field => (state.field? source field).isSome = true
  | .artifact _ => False

theorem errorOf?_resolve_eq_none_iff (reference : Reference) :
    errorOf? (state.resolve step reference) = none ↔ state.Records reference := by
  cases reference with
  | artifact name => simp [State.resolve, State.Records, errorOf?]
  | output source field =>
      simp only [State.resolve, State.Records]
      cases state.field? source field with
      | none => simp [errorOf?]
      | some value => simp [errorOf?]

/-- No reference lacks a value exactly if all of them are recorded. -/
theorem firstError?_eq_none_iff (references : List Reference) :
    firstError? (state.resolve step) references = none ↔
      ∀ reference ∈ references, state.Records reference := by
  simp [firstError?, List.findSome?_eq_none_iff, errorOf?_resolve_eq_none_iff]

end Workflow
