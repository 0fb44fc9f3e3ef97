import Workflow.Proofs.Reference.Rewriting

/-!
# Replacing references one after the other

Whoever replaces the references of a text or value is asked about each of them once, in the order in
which they stand there, and may go by what was asked before. The placeholders of the answers are put
between the pieces of text that stand between the old ones. As there is only one way to cut a text
at its placeholders, the new text has these references and no others: what is written cannot join
with what stands around it, nor break it up.

Main statement: `rewrite_replaces_in_order`.
-/

namespace Workflow

/-- The texts have the same pieces between their placeholders. -/
def SamePieces (text text' : String) : Prop :=
  ∃ cut cut' : Segments, cut.Cuts text.toList ∧ cut'.Cuts text'.toList ∧ cut'.pieces = cut.pieces

/-- Asked about the references of the first list one after the other, `replace` has those of the
second list put in their places and comes from the first state to the last one. A reference is kept
if there is no answer. -/
inductive Replaces {σ : Type} (replace : Reference → StateM σ (Option Reference)) :
    σ → List Reference → List Reference → σ → Prop where
  | nil (s : σ) : Replaces replace s [] [] s
  | cons {s s' last : σ} {r : Reference} {answer : Option Reference} {refs refs' : List Reference} :
      (replace r).run s = (answer, s') → Replaces replace s' refs refs' last →
      Replaces replace s (r :: refs) (answer.getD r :: refs') last

section Rewriting

variable {σ : Type} {replace : Reference → StateM σ (Option Reference)}

/-- All answers can be read in placeholders. -/
def AnswersReadably (replace : Reference → StateM σ (Option Reference)) : Prop :=
  ∀ r s answer, ((replace r).run s).1 = some answer → answer.isReadable = true

theorem Replaces.append {s s' last : σ} {refs refs' more more' : List Reference}
    (h : Replaces replace s refs refs' s') (k : Replaces replace s' more more' last) :
    Replaces replace s (refs ++ more) (refs' ++ more') last := by
  induction h with
  | nil s => exact k
  | cons answered _ ih => exact .cons answered (ih k)

theorem Replaces.readable {s last : σ} {refs refs' : List Reference}
    (h : Replaces replace s refs refs' last) (readably : AnswersReadably replace)
    (readable : ∀ r ∈ refs, r.isReadable = true) : ∀ r ∈ refs', r.isReadable = true := by
  induction h with
  | nil s => exact readable
  | @cons s s' last r answer refs refs' answered _ ih =>
      obtain ⟨here, there⟩ := List.forall_mem_cons.1 readable
      refine List.forall_mem_cons.2 ⟨?_, ih there⟩
      cases answer with
      | none => exact here
      | some new => exact readably r s new (by rw [answered])

/-! ## Templates -/

/-- The references are replaced in order, and the literal characters stay where they are. -/
theorem Template.replaces_rewrite (replace : Reference → StateM σ (Option Reference))
    (template : Template) (s : σ) :
    Replaces replace s template.references ((template.rewrite replace).run s).1.references
        ((template.rewrite replace).run s).2 ∧
      (Segments.ofTemplate ((template.rewrite replace).run s).1).pieces =
        (Segments.ofTemplate template).pieces := by
  induction template generalizing s with
  | nil => exact ⟨.nil s, rfl⟩
  | cons piece rest ih =>
      cases piece with
      | literal c =>
          obtain ⟨replaced, same⟩ := ih s
          obtain ⟨lead, later⟩ := List.cons.inj same
          refine ⟨replaced, ?_⟩
          exact congrArg₂ (fun lead later => (c :: lead) :: later) lead later
      | reference r =>
          obtain ⟨replaced, same⟩ := ih ((replace r).run s).2
          refine ⟨.cons rfl replaced, ?_⟩
          exact congrArg ([] :: ·) same

theorem Template.rewrite_of_no_answer (silent : ∀ r s, ((replace r).run s).1 = none)
    (template : Template) (s : σ) : ((template.rewrite replace).run s).1 = template := by
  induction template generalizing s with
  | nil => rfl
  | cons piece rest ih =>
      cases piece with
      | literal c => exact congrArg (.literal c :: ·) (ih s)
      | reference r =>
          have kept : (((replace r).run s).1).getD r = r := by rw [silent, Option.getD_none]
          have later := ih ((replace r).run s).2
          show Piece.reference (((replace r).run s).1.getD r) ::
            ((Template.rewrite replace rest).run ((replace r).run s).2).1 = .reference r :: rest
          rw [kept, later]

/-! ## Texts -/

theorem replaces_rewriteText (readably : AnswersReadably replace) (text : String) (s : σ) :
    Replaces replace s (referencesInText text)
        (referencesInText ((rewriteText replace text).run s).1)
        ((rewriteText replace text).run s).2 ∧
      SamePieces text ((rewriteText replace text).run s).1 := by
  have cuts := Segments.cuts_ofChars text.toList
  obtain ⟨replaced, same⟩ := (Template.ofText text).replaces_rewrite replace s
  have out : ((rewriteText replace text).run s).1 =
      String.ofList (((Template.ofText text).rewrite replace).run s).1.render := rfl
  have cuts' : (Segments.ofTemplate (((Template.ofText text).rewrite replace).run s).1).Cuts
      ((rewriteText replace text).run s).1.toList := by
    rw [out, String.toList_ofList]
    refine ⟨Segments.write_chars_ofTemplate _, ?_, ?_⟩
    · rw [Segments.references_ofTemplate]
      exact replaced.readable readably fun r hr => Template.isReadable_of_mem_ofChars hr
    · rw [same]
      exact cuts.literal
  have read : referencesInText ((rewriteText replace text).run s).1 =
      (((Template.ofText text).rewrite replace).run s).1.references := by
    rw [← Segments.references_ofTemplate, cuts'.eq_ofTemplate, Segments.references_ofTemplate]
    rfl
  refine ⟨?_, _, _, cuts, cuts', same⟩
  rw [read]
  exact replaced

theorem rewriteText_of_no_answer (silent : ∀ r s, ((replace r).run s).1 = none) (text : String)
    (s : σ) : ((rewriteText replace text).run s).1 = text := by
  show String.ofList (((Template.ofText text).rewrite replace).run s).1.render = text
  rw [Template.rewrite_of_no_answer silent, Template.ofText, Template.render_ofChars,
    String.ofList_toList]

/-! ## Values -/

/-- What becomes of a string inside a value: a string with the same pieces between
its placeholders. -/
def Json.KeepsPieces (text : String) (value : Json) : Prop :=
  ∃ text', value = .text text' ∧ SamePieces text text'

mutual

theorem replaces_rewriteValue (readably : AnswersReadably replace) : ∀ (value : Json) (s : σ),
    Replaces replace s (referencesInValue value)
        (referencesInValue ((rewriteValue replace value).run s).1)
        ((rewriteValue replace value).run s).2 ∧
      value.Rewritten Json.KeepsPieces ((rewriteValue replace value).run s).1
  | .null, s => ⟨.nil s, .null⟩
  | .bool value, s => ⟨.nil s, .bool value⟩
  | .int value, s => ⟨.nil s, .int value⟩
  | .float value, s => ⟨.nil s, .float value⟩
  | .text text, s => by
      obtain ⟨replaced, same⟩ := replaces_rewriteText readably text s
      rw [← List.flatMap_singleton referencesInText, ← List.flatMap_singleton referencesInText]
        at replaced
      exact ⟨replaced, .text ⟨_, rfl, same⟩⟩
  | .array items, s => by
      obtain ⟨replaced, rewritten⟩ := replaces_rewriteItems readably items s
      exact ⟨replaced, .array rewritten⟩
  | .object fields, s => by
      obtain ⟨replaced, keys, rewritten⟩ := replaces_rewriteFields readably fields s
      exact ⟨replaced, .object keys rewritten⟩

theorem replaces_rewriteItems (readably : AnswersReadably replace) : ∀ (items : List Json) (s : σ),
    Replaces replace s ((Json.itemStrings items).flatMap referencesInText)
        ((Json.itemStrings ((rewriteItems replace items).run s).1).flatMap referencesInText)
        ((rewriteItems replace items).run s).2 ∧
      List.Forall₂ (Json.Rewritten Json.KeepsPieces) items ((rewriteItems replace items).run s).1
  | [], s => ⟨.nil s, .nil⟩
  | item :: rest, s => by
      obtain ⟨here, rewritten⟩ := replaces_rewriteValue readably item s
      obtain ⟨there, rewrittenRest⟩ :=
        replaces_rewriteItems readably rest ((rewriteValue replace item).run s).2
      refine ⟨?_, .cons rewritten rewrittenRest⟩
      have both := here.append there
      rw [referencesInValue, referencesInValue, ← List.flatMap_append,
        ← List.flatMap_append] at both
      exact both

theorem replaces_rewriteFields (readably : AnswersReadably replace) :
    ∀ (fields : List (String × Json)) (s : σ),
    Replaces replace s ((Json.fieldStrings fields).flatMap referencesInText)
        ((Json.fieldStrings ((rewriteFields replace fields).run s).1).flatMap referencesInText)
        ((rewriteFields replace fields).run s).2 ∧
      fields.map (·.1) = ((rewriteFields replace fields).run s).1.map (·.1) ∧
      List.Forall₂ (Json.Rewritten Json.KeepsPieces) (fields.map (·.2))
        (((rewriteFields replace fields).run s).1.map (·.2))
  | [], s => ⟨.nil s, rfl, .nil⟩
  | (key, item) :: rest, s => by
      obtain ⟨here, rewritten⟩ := replaces_rewriteValue readably item s
      obtain ⟨there, keys, rewrittenRest⟩ :=
        replaces_rewriteFields readably rest ((rewriteValue replace item).run s).2
      refine ⟨?_, congrArg (key :: ·) keys, .cons rewritten rewrittenRest⟩
      have both := here.append there
      rw [referencesInValue, referencesInValue, ← List.flatMap_append,
        ← List.flatMap_append] at both
      exact both

end

mutual

theorem rewriteValue_of_no_answer (silent : ∀ r s, ((replace r).run s).1 = none) :
    ∀ (value : Json) (s : σ), ((rewriteValue replace value).run s).1 = value
  | .null, _ => rfl
  | .bool _, _ => rfl
  | .int _, _ => rfl
  | .float _, _ => rfl
  | .text text, s => congrArg Json.text (rewriteText_of_no_answer silent text s)
  | .array items, s => congrArg Json.array (rewriteItems_of_no_answer silent items s)
  | .object fields, s => congrArg Json.object (rewriteFields_of_no_answer silent fields s)

theorem rewriteItems_of_no_answer (silent : ∀ r s, ((replace r).run s).1 = none) :
    ∀ (items : List Json) (s : σ), ((rewriteItems replace items).run s).1 = items
  | [], _ => rfl
  | item :: rest, s => by
      have here := rewriteValue_of_no_answer silent item s
      have there := rewriteItems_of_no_answer silent rest ((rewriteValue replace item).run s).2
      show ((rewriteValue replace item).run s).1 :: _ = item :: rest
      rw [here]
      exact congrArg (item :: ·) there

theorem rewriteFields_of_no_answer (silent : ∀ r s, ((replace r).run s).1 = none) :
    ∀ (fields : List (String × Json)) (s : σ), ((rewriteFields replace fields).run s).1 = fields
  | [], _ => rfl
  | (key, item) :: rest, s => by
      have here := rewriteValue_of_no_answer silent item s
      have there := rewriteFields_of_no_answer silent rest ((rewriteValue replace item).run s).2
      show (key, ((rewriteValue replace item).run s).1) :: _ = (key, item) :: rest
      rw [here]
      exact congrArg ((key, item) :: ·) there

end

/-- To rewrite a text or value is to replace its references one after the other and to leave all
else as it is. -/
theorem rewrite_replaces_in_order (readably : AnswersReadably replace) :
    (∀ (text : String) (s : σ),
      Replaces replace s (referencesInText text)
          (referencesInText ((rewriteText replace text).run s).1)
          ((rewriteText replace text).run s).2 ∧
        SamePieces text ((rewriteText replace text).run s).1) ∧
    (∀ (value : Json) (s : σ),
      Replaces replace s (referencesInValue value)
          (referencesInValue ((rewriteValue replace value).run s).1)
          ((rewriteValue replace value).run s).2 ∧
        value.Rewritten Json.KeepsPieces ((rewriteValue replace value).run s).1) ∧
    ((∀ r s, ((replace r).run s).1 = none) →
      (∀ (text : String) (s : σ), ((rewriteText replace text).run s).1 = text) ∧
        ∀ (value : Json) (s : σ), ((rewriteValue replace value).run s).1 = value) :=
  ⟨replaces_rewriteText readably, replaces_rewriteValue readably,
    fun silent => ⟨rewriteText_of_no_answer silent, rewriteValue_of_no_answer silent⟩⟩

end Rewriting

/-- Artifacts become a step's response, the first one that of another step than the later ones. It
is counted how often it was asked. -/
def firstAndLater : Reference → StateM Nat (Option Reference)
  | .output _ _ => do
      modify (· + 1)
      return none
  | .artifact _ => do
      let asked ← get
      set (asked + 1)
      return some (.output (if asked = 0 then "first" else "later") "response")

/-- Never answers. -/
def noAnswer : Reference → StateM Nat (Option Reference) := fun _ => return none

/-- The same artifact becomes one thing and then another, the brace that opens nothing and the ones
around it stay, and so does whatever is not a string. Who never answers changes nothing. -/
theorem firstAndLater_replaces :
    AnswersReadably firstAndLater ∧
      Replaces firstAndLater 0 [.artifact "a", .output "b" "c", .artifact "a"]
        [.output "first" "response", .output "b" "c", .output "later" "response"] 3 ∧
      SamePieces "\x7b\x7ba\x7d\x7d \x7bb.c\x7d\x7ba\x7d"
        "\x7b\x7bfirst.response\x7d\x7d \x7bb.c\x7d\x7blater.response\x7d" ∧
      Replaces firstAndLater 1 [.artifact "a"] [.output "later" "response"] 2 ∧
      (Json.array [.int 4, .text "\x7ba\x7d!"]).Rewritten Json.KeepsPieces
        (.array [.int 4, .text "\x7blater.response\x7d!"]) ∧
      ((rewriteText noAnswer "\x7b\x7ba\x7d").run 0).1 = "\x7b\x7ba\x7d" := by
  have readably : AnswersReadably firstAndLater := by
    intro r s answer given
    cases r with
    | output step field => cases given
    | artifact name =>
        cases given
        split <;> decide
  obtain ⟨replaced, same⟩ :=
    (rewrite_replaces_in_order readably).1 "\x7b\x7ba\x7d\x7d \x7bb.c\x7d\x7ba\x7d" 0
  obtain ⟨replaced', rewritten⟩ :=
    (rewrite_replaces_in_order readably).2.1 (.array [.int 4, .text "\x7ba\x7d!"]) 1
  refine ⟨readably, ?_, ?_, ?_, ?_, ?_⟩
  · convert replaced using 1 <;> decide +kernel
  · convert same using 1
    decide +kernel
  · convert replaced' using 1 <;> decide +kernel
  · convert rewritten using 1
    decide +kernel
  · exact ((rewrite_replaces_in_order (fun _ _ _ given => by cases given)).2.2
      fun _ _ => rfl).1 _ 0

end Workflow
