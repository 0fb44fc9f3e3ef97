import Workflow.Proofs.Merge.Merged
import Workflow.Proofs.Reference.Lookup

/-!
# Resolving after merging

Resolving the action of a merged step gives what the action of the original step gives when each of
its references is looked up where it leads in the joined graph: a local one at the renamed step, an
artifact at the field that its first offer is bound to. A step of a graph may have any id, though,
and a placeholder holds only names, so this needs the references that are written to be readable.
Where one is not, its text is left over as it stands, and nothing reports it.

Main statement: `merged_action_resolves`.
-/

namespace Workflow

/-- Resolving the action in any state is looking up the references of `original` where `led` leads
them. -/
def Action.ResolvesAs (action original : Action) (step : String) (led : Reference → Reference) :
    Prop :=
  match original, action with
  | .tool name parameters, .tool name' parameters' =>
      name' = name ∧ ∀ state : State, resolveParameters step parameters' state =
        lookUpParameters (fun r => state.resolve step (led r)) parameters
  | .reasoning prompt, .reasoning prompt' =>
      ∀ state : State, resolvePrompt step prompt' state =
        lookUpPrompt (fun r => state.resolve step (led r)) prompt
  | .final, .final => True
  | _, _ => False

theorem resolvesAs_substitute (action : Action) (step : String) (led : Reference → Reference)
    (readable : ∀ r ∈ action.references, (led r).isReadable = true) :
    (action.substitute fun r => some (led r)).ResolvesAs action step led := by
  cases action with
  | final => trivial
  | reasoning prompt =>
      intro state
      rw [resolvePrompt_eq_lookUp]
      exact lookUpPrompt_substituteText readable
  | tool name parameters =>
      refine ⟨rfl, fun state => ?_⟩
      rw [resolveParameters_eq_lookUp]
      exact lookUpParameters_substitute readable

/-- The references of the rewritten action are those of the original, led to their places, exactly
if all of them can be read again. -/
theorem references_substitute_iff (action : Action) (led : Reference → Reference) :
    (action.substitute fun r => some (led r)).references = action.references.map led ↔
      ∀ r ∈ action.references, (led r).isReadable = true := by
  constructor
  · intro h r hr
    have hmem : led r ∈ (action.substitute fun r => some (led r)).references := by
      rw [h]
      exact List.mem_map_of_mem hr
    exact Action.isReadable_of_mem_references hmem
  · intro readable
    exact Action.references_substitute readable

/-- In a merged graph each artifact that a step of a fragment reads has a first offer up to that
fragment. The placeholders of the step are read again as references to where they lead exactly if
these can be spelled in placeholders, and then the step resolves as its original does. -/
theorem merged_action_resolves {schemas : Schemas} {fragments : List Fragment}
    {dependencies : Option (List Dependency)} {g : Graph}
    (h : merge schemas fragments dependencies = .ok g) {i : Nat} {fragment : Fragment}
    {step m : Step} (hi : fragments[i]? = some fragment) (hstep : step ∈ fragment.graph.stepList)
    (hm : g.step? (scopedName step.id (i + 1)) = some m) :
    (∀ name, .artifact name ∈ step.actionReferences →
        ∃ p binding, p ≤ i ∧ firstOffer? fragments name = some (p, binding)) ∧
      (m.actionReferences = step.actionReferences.map (joinedReference fragments i) ↔
        ∀ r ∈ step.actionReferences, (joinedReference fragments i r).isReadable = true) ∧
      ((∀ r ∈ step.actionReferences, (joinedReference fragments i r).isReadable = true) →
        m.action.ResolvesAs step.action m.id (joinedReference fragments i)) := by
  have merged := merged_of_merge h
  have hmerged := merged.eq_mergedStep hi hstep hm
  have haction :
      m.action = step.action.substitute fun r => some (joinedReference fragments i r) := by
    rw [hmerged]
    rfl
  refine ⟨fun name hname => ?_, ?_, ?_⟩
  · exact isBound_of_mem_references merged.plan hi hstep (List.mem_append_left _ hname)
  · rw [Step.actionReferences, haction]
    exact references_substitute_iff step.action (joinedReference fragments i)
  · intro readable
    rw [haction]
    exact resolvesAs_substitute step.action m.id (joinedReference fragments i) readable

/-- What the second fragment of a relay is asked holds the answer of the first one. -/
theorem relay_asks_with_answer :
    ∃ g m, merge (fun _ => none) relay none = .ok g ∧ g.step? "spell_2" = some m ∧
      m.actionReferences = [.output "think_1" "response"] ∧
      m.action.ResolvesAs (.reasoning "Spell \x7bword\x7d.") m.id (joinedReference relay 1) := by
  obtain ⟨g, hg⟩ := relay_merges
  have merged := merged_of_merge hg
  have inside : (⟨"spell", .reasoning "Spell \x7bword\x7d.", [⟨"always", "end"⟩], none⟩ : Step) ∈
      (questionFragment "spell" "Spell \x7bword\x7d." none ["word"]).graph.stepList := by
    decide +kernel
  have kept : (planWiring relay (deriveDependencies relay)).redirects.get? "spell_2" = none := by
    decide +kernel
  have hm := merged.step?_of_kept (i := 1) rfl inside kept
  obtain ⟨_, read, resolves⟩ := merged_action_resolves hg rfl inside hm
  have readable : ∀ r ∈ referencesInText "Spell \x7bword\x7d.",
      (joinedReference relay 1 r).isReadable = true := by
    decide +kernel
  refine ⟨g, _, hg, hm, (read.2 readable).trans ?_, resolves readable⟩
  decide +kernel

/-! ## A binding that cannot be spelled -/

/-- A fragment that asks about a note before the note is taken, in a step with this id. -/
def notesPlan (id : String) : List Fragment :=
  [ { name := "walk"
      graph := Graph.ofSteps
        [ ⟨"b", .reasoning "Continue \x7bnote\x7d.", [⟨"always", id⟩], none⟩,
          ⟨id, .reasoning "Look around.", [⟨"always", "end"⟩], none⟩,
          ⟨"end", .final, [], none⟩ ] "b"
      produces := Dict.empty.insert "note" ⟨id, "response"⟩
      consumes := ["note"] } ]

/-- A note that is asked for too early is noticed. -/
example : (merge (fun _ => none) (notesPlan "stage") none).isOk = false := by decide +kernel

/-- It is not noticed if the step has a name outside ASCII: what is written for the artifact is no
placeholder, so that the step reads nothing. -/
theorem accented_note_is_lost :
    ∃ g m, merge (fun _ => none) (notesPlan "étape") none = .ok g ∧ g.step? "b_1" = some m ∧
      joinedReference (notesPlan "étape") 0 (.artifact "note") = .output "étape_1" "response" ∧
      m.action = .reasoning "Continue \x7bétape_1.response\x7d." ∧ m.actionReferences = [] := by
  have result : (((merge (fun _ => none) (notesPlan "étape") none).toOption.bind
      fun g => g.step? "b_1").map fun m => (m.action, m.actionReferences)) =
        some (.reasoning "Continue \x7bétape_1.response\x7d.", []) := by
    decide +kernel
  obtain ⟨m, hm, heq⟩ := Option.map_eq_some_iff.1 result
  obtain ⟨g, hg, hm⟩ := Option.bind_eq_some_iff.1 hm
  obtain ⟨haction, hreferences⟩ := Prod.mk.inj heq
  exact ⟨g, m, toOption_eq_some_iff.1 hg, hm, by decide +kernel, haction, hreferences⟩

end Workflow
