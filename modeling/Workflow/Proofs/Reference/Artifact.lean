import Workflow.Reference.Artifact
import Workflow.Proofs.Reference.Rewriting

/-!
# Binding artifacts

Artifacts are bound in one pass over an action or a label, which replaces placeholders and notes the
first artifact that the fragment does not see. The pass replaces what a replacement without notes
would, and its note is what a search through the references of the scan finds. So an artifact
decides where its first placeholder stands, whatever value or text this is nested in.

Main statements: `ArtifactTable.resolveAction_eq` and `ArtifactTable.resolveLabel_eq`, and for the
resolver as a whole `ArtifactTable.binds_to_first_declarations`.
-/

namespace Workflow

/-! ## Notes taken along the way -/

theorem StateT.run_bind_of_run {σ α β : Type} {x : StateM σ α} {f : α → StateM σ β} {s s' : σ}
    {a : α} (h : x.run s = (a, s')) : (x >>= f).run s = (f a).run s' := by
  rw [StateT.run_bind, h]
  rfl

/-- Whatever is noted, references are replaced by `new`; the notes grow by `note`. -/
def TakesNotes {σ : Type} (replace : Reference → StateM σ (Option Reference))
    (new : Reference → Option Reference) (note : σ → Reference → σ) : Prop :=
  ∀ r s, (replace r).run s = (new r, note s r)

section Rewriting

variable {σ : Type} {replace : Reference → StateM σ (Option Reference)}
  {new : Reference → Option Reference} {note : σ → Reference → σ}

/-- Such a pass replaces as if there were no notes, and takes them in the order of
the references. -/
theorem Template.run_rewrite (pass : TakesNotes replace new note) (template : Template) (s : σ) :
    (template.rewrite replace).run s =
      (template.substitute new, template.references.foldl note s) := by
  induction template generalizing s with
  | nil => rfl
  | cons piece rest ih =>
      cases piece with
      | literal c =>
          rw [Template.rewrite, StateT.run_bind_of_run (ih s)]
          rfl
      | reference r =>
          rw [Template.rewrite, StateT.run_bind_of_run (pass r s),
            StateT.run_bind_of_run (ih (note s r))]
          rfl

theorem run_rewriteText (pass : TakesNotes replace new note) (text : String) (s : σ) :
    (rewriteText replace text).run s =
      (substituteText new text, (referencesInText text).foldl note s) := by
  rw [rewriteText, StateT.run_bind_of_run (Template.run_rewrite pass _ s)]
  rfl

mutual

theorem run_rewriteValue (pass : TakesNotes replace new note) : ∀ (value : Json) (s : σ),
    (rewriteValue replace value).run s =
      (substituteValue new value, (referencesInValue value).foldl note s)
  | .null, _ | .bool _, _ | .int _, _ | .float _, _ => rfl
  | .text text, s => by
      rw [rewriteValue, StateT.run_bind_of_run (run_rewriteText pass text s), referencesInValue,
        Json.strings, List.flatMap_singleton]
      rfl
  | .array items, s => by
      rw [rewriteValue, StateT.run_bind_of_run (run_rewriteItems pass items s)]
      rfl
  | .object fields, s => by
      rw [rewriteValue, StateT.run_bind_of_run (run_rewriteFields pass fields s)]
      rfl

theorem run_rewriteItems (pass : TakesNotes replace new note) : ∀ (items : List Json) (s : σ),
    (rewriteItems replace items).run s =
      (Json.mapItemStrings (substituteText new) items,
        ((Json.itemStrings items).flatMap referencesInText).foldl note s)
  | [], _ => rfl
  | item :: rest, s => by
      rw [rewriteItems, StateT.run_bind_of_run (run_rewriteValue pass item s),
        StateT.run_bind_of_run (run_rewriteItems pass rest _), Json.itemStrings,
        List.flatMap_append, List.foldl_append]
      rfl

theorem run_rewriteFields (pass : TakesNotes replace new note) :
    ∀ (fields : List (String × Json)) (s : σ),
    (rewriteFields replace fields).run s =
      (Json.mapFieldStrings (substituteText new) fields,
        ((Json.fieldStrings fields).flatMap referencesInText).foldl note s)
  | [], _ => rfl
  | (key, item) :: rest, s => by
      rw [rewriteFields, StateT.run_bind_of_run (run_rewriteValue pass item s),
        StateT.run_bind_of_run (run_rewriteFields pass rest _), Json.fieldStrings,
        List.flatMap_append, List.foldl_append]
      rfl

end

theorem Action.run_rewrite (pass : TakesNotes replace new note) (action : Action) (s : σ) :
    (action.rewrite replace).run s =
      (action.substitute new, action.references.foldl note s) := by
  cases action with
  | final => rfl
  | reasoning prompt =>
      rw [Action.rewrite, StateT.run_bind_of_run (run_rewriteText pass prompt s)]
      rfl
  | tool name parameters =>
      have made : Dict.ofList (Json.mapFieldStrings (substituteText new) parameters.entries) =
          parameters.map (substituteValue new) := by
        refine Dict.ofList_of_perm ?_
        rw [Json.mapFieldStrings_eq_map]
        exact .refl _
      rw [Action.rewrite, StateT.run_bind_of_run (run_rewriteFields pass parameters.entries s),
        made, flatMap_fieldStrings]
      rfl

end Rewriting

/-- Of notes that stand where they are the first one is left. -/
theorem foldl_or_eq_findSome? {α β : Type} (f : α → Option β) (l : List α) (found : Option β) :
    l.foldl (fun found a => found.or (f a)) found = found.or (l.findSome? f) := by
  induction l generalizing found with
  | nil => rw [List.foldl_nil, List.findSome?_nil, Option.or_none]
  | cons a rest ih =>
      rw [List.foldl_cons, ih, Option.or_assoc, List.findSome?_cons]
      cases f a <;> rfl

namespace ArtifactTable

variable {table : ArtifactTable} {position : Nat} {fragment : String}

/-! ## Binding in one pass -/

/-- The output that stands behind an artifact for the fragment at a position. -/
def replacement (table : ArtifactTable) (position : Nat) : Reference → Option Reference
  | .artifact name => (table.visibleTo name position).map fun s => .output s.step s.field
  | .output _ _ => none

/-- The artifact, if the fragment at a position does not see it. -/
def unseen? (table : ArtifactTable) (position : Nat) : Reference → Option String
  | .artifact name => if (table.visibleTo name position).isNone then some name else none
  | .output _ _ => none

/-- The first artifact among the references that the fragment at a position does not see. -/
def missing? (table : ArtifactTable) (position : Nat) (references : List Reference) :
    Option String :=
  references.findSome? (table.unseen? position)

theorem bind_takesNotes : TakesNotes (table.bind position) (table.replacement position)
    fun missing r => missing.or (table.unseen? position r) := by
  intro r missing
  cases r with
  | output step field => exact congrArg (Prod.mk none) Option.or_none.symm
  | artifact name =>
      simp only [bind, replacement, unseen?]
      cases table.visibleTo name position with
      | none => rfl
      | some source => exact congrArg (Prod.mk _) Option.or_none.symm

theorem foldl_unseen? (references : List Reference) :
    references.foldl (fun missing r => missing.or (table.unseen? position r)) none =
      table.missing? position references := by
  rw [foldl_or_eq_findSome?, Option.none_or, missing?]

theorem resolveAction_eq (action : Action) :
    table.resolveAction action position fragment =
      finish fragment (action.substitute (table.replacement position),
        table.missing? position action.references) := by
  rw [resolveAction, Action.run_rewrite bind_takesNotes, foldl_unseen?]

theorem resolveLabel_eq (label : String) :
    table.resolveLabel label position fragment =
      finish fragment (substituteText (table.replacement position) label,
        table.missing? position (referencesInText label)) := by
  rw [resolveLabel, run_rewriteText bind_takesNotes, foldl_unseen?]

/-! ## Declarations -/

/-- The table after some declarations. -/
def declareAll (table : ArtifactTable) (declarations : List (String × ArtifactSource)) :
    ArtifactTable :=
  declarations.foldl (fun table declaration => table.declare declaration.1 declaration.2) table

/-- Of several declarations of an artifact the first one stands. -/
theorem source?_declareAll (table : ArtifactTable) (declarations : List (String × ArtifactSource))
    (artifact : String) :
    (table.declareAll declarations).source? artifact =
      (table.source? artifact).or (declarations.lookup artifact) := by
  induction declarations generalizing table with
  | nil => exact Option.or_none.symm
  | cons declaration rest ih =>
      obtain ⟨name, source⟩ := declaration
      rw [declareAll, List.foldl_cons, ← declareAll, ih, source?_declare, List.lookup_cons]
      by_cases hname : artifact = name
      · subst hname
        cases table.source? artifact <;> simp
      · simp [hname, beq_eq_false_iff_ne.2 hname]

/-! ## What binding does -/

/-- The artifact has a source, and this is not after the position. -/
def Sees (table : ArtifactTable) (position : Nat) (artifact : String) : Prop :=
  ∃ source, table.source? artifact = some source ∧ source.fragment ≤ position

/-- The second text is the first one with the placeholders of the sources in place of those of
artifacts. -/
def Binds (table : ArtifactTable) (text bound : String) : Prop :=
  ∃ (segments : Segments) (becomes : Reference → Reference), segments.Cuts text.toList ∧
    (∀ step field, becomes (.output step field) = .output step field) ∧
    (∀ artifact, .artifact artifact ∈ segments.references → ∃ source,
      table.source? artifact = some source ∧
        becomes (.artifact artifact) = .output source.step source.field) ∧
    bound.toList = segments.write fun r => (becomes r).chars

/-- The outcome of binding the artifacts of something with these references, for the fragment at a
position: it succeeds if all of them are seen, with something of which `becomes` holds, and else
reports the first one that is not. -/
structure Decides {α : Type} (table : ArtifactTable) (position : Nat) (fragment : String)
    (references : List Reference) (becomes : α → Prop)
    (outcome : Except ResolveError α) : Prop where
  ok_iff : (∃ bound, outcome = .ok bound) ↔
    ∀ artifact, .artifact artifact ∈ references → table.Sees position artifact
  becomes : ∀ bound, outcome = .ok bound → becomes bound
  error_iff : ∀ e, outcome = .error e ↔ ∃ before artifact after,
    references = before ++ .artifact artifact :: after ∧
      (∀ a, .artifact a ∈ before → table.Sees position a) ∧
      ¬ table.Sees position artifact ∧ e = .unresolvedArtifact artifact fragment

theorem visibleTo_eq_some_iff (artifact : String) (source : ArtifactSource) :
    table.visibleTo artifact position = some source ↔
      table.source? artifact = some source ∧ source.fragment ≤ position := by
  rw [visibleTo, Option.filter_eq_some_iff, decide_eq_true_eq]

theorem sees_iff (artifact : String) :
    table.Sees position artifact ↔ (table.visibleTo artifact position).isSome = true := by
  rw [Option.isSome_iff_exists, Sees]
  exact exists_congr fun source => (visibleTo_eq_some_iff artifact source).symm

theorem unseen?_eq_some_iff (r : Reference) (artifact : String) :
    table.unseen? position r = some artifact ↔
      r = .artifact artifact ∧ ¬ table.Sees position artifact := by
  cases r with
  | output step field => simp [unseen?]
  | artifact name =>
      have unseen : table.unseen? position (.artifact name) = some artifact ↔
          (table.visibleTo name position).isNone = true ∧ name = artifact := by
        rw [unseen?, Option.ite_none_right_eq_some, Option.some.injEq]
      rw [unseen, Reference.artifact.injEq, sees_iff, and_comm]
      refine and_congr_right fun same => ?_
      rw [same, Option.not_isSome_iff_eq_none, Option.isNone_iff_eq_none]

theorem unseen?_eq_none_iff (r : Reference) :
    table.unseen? position r = none ↔ ∀ artifact, r = .artifact artifact →
      table.Sees position artifact := by
  simp only [Option.eq_none_iff_forall_ne_some, ne_eq, unseen?_eq_some_iff, not_and, not_not]

theorem missing?_eq_none_iff (references : List Reference) :
    table.missing? position references = none ↔
      ∀ artifact, .artifact artifact ∈ references → table.Sees position artifact := by
  rw [missing?, List.findSome?_eq_none_iff]
  simp only [unseen?_eq_none_iff]
  constructor
  · exact fun seen artifact h => seen _ h artifact rfl
  · rintro seen r h artifact rfl
    exact seen artifact h

theorem missing?_eq_some_iff (references : List Reference) (artifact : String) :
    table.missing? position references = some artifact ↔ ∃ before after,
      references = before ++ .artifact artifact :: after ∧
        (∀ a, .artifact a ∈ before → table.Sees position a) ∧ ¬ table.Sees position artifact := by
  rw [missing?, List.findSome?_eq_some_iff]
  constructor
  · rintro ⟨before, r, after, split, first, seen⟩
    obtain ⟨rfl, unseen⟩ := (unseen?_eq_some_iff r artifact).1 first
    refine ⟨before, after, split, fun a ha => ?_, unseen⟩
    exact (unseen?_eq_none_iff _).1 (seen _ ha) a rfl
  · rintro ⟨before, after, split, seen, unseen⟩
    refine ⟨before, _, after, split, (unseen?_eq_some_iff _ _).2 ⟨rfl, unseen⟩, fun r hr => ?_⟩
    exact (unseen?_eq_none_iff r).2 fun a ha => seen a (ha ▸ hr)

theorem finish_eq_ok_iff {α : Type} (rewritten : α) (missing : Option String) (bound : α) :
    finish fragment (rewritten, missing) = .ok bound ↔ missing = none ∧ rewritten = bound := by
  cases missing <;> simp [finish]

theorem finish_eq_error_iff {α : Type} (rewritten : α) (missing : Option String)
    (e : ResolveError) :
    finish fragment (rewritten, missing) = .error e ↔
      ∃ artifact, missing = some artifact ∧ e = .unresolvedArtifact artifact fragment := by
  cases missing <;> simp [finish, eq_comm]

/-- A finished pass decides, if what it has made is right wherever nothing was missing. -/
theorem decides_finish {α : Type} {references : List Reference} {becomes : α → Prop} {rewritten : α}
    (h : table.missing? position references = none → becomes rewritten) :
    table.Decides position fragment references becomes
      (finish fragment (rewritten, table.missing? position references)) where
  ok_iff := by
    simp only [finish_eq_ok_iff, exists_and_left, exists_eq', and_true, missing?_eq_none_iff]
  becomes bound hbound := by
    obtain ⟨seen, rfl⟩ := (finish_eq_ok_iff ..).1 hbound
    exact h seen
  error_iff e := by
    simp only [finish_eq_error_iff, missing?_eq_some_iff]
    constructor
    · rintro ⟨artifact, ⟨before, after, split, seen, unseen⟩, he⟩
      exact ⟨before, artifact, after, split, seen, unseen, he⟩
    · rintro ⟨before, artifact, after, split, seen, unseen, he⟩
      exact ⟨artifact, ⟨before, after, split, seen, unseen⟩, he⟩

theorem binds_substituteText {text : String}
    (seen : table.missing? position (referencesInText text) = none) :
    table.Binds text (substituteText (table.replacement position) text) := by
  have cuts := Segments.cuts_ofChars text.toList
  refine ⟨_, Reference.replacedBy (table.replacement position), cuts, fun _ _ => rfl,
    fun artifact h => ?_, toList_substituteText cuts⟩
  rw [Segments.references_ofTemplate] at h
  obtain ⟨source, hsource, visible⟩ := (missing?_eq_none_iff _).1 seen artifact h
  have bound := (visibleTo_eq_some_iff artifact source).2 ⟨hsource, visible⟩
  refine ⟨source, hsource, ?_⟩
  rw [Reference.replacedBy, replacement, bound]
  rfl

theorem decides_resolveAction (action : Action) :
    table.Decides position fragment action.references
      (action.Rewritten table.Binds fun text value => ∃ bound, value = .text bound ∧
        table.Binds text bound)
      (table.resolveAction action position fragment) := by
  rw [resolveAction_eq]
  refine decides_finish fun seen => Action.rewritten_substitute action fun text within => ?_
  refine binds_substituteText ((missing?_eq_none_iff _).2 fun artifact h => ?_)
  exact (missing?_eq_none_iff _).1 seen artifact (within _ h)

theorem decides_resolveLabel (label : String) :
    table.Decides position fragment (referencesInText label) (table.Binds label)
      (table.resolveLabel label position fragment) := by
  rw [resolveLabel_eq]
  exact decides_finish binds_substituteText

/-- After any declarations each artifact has the source of its first one. With this table, which is
only read, actions and labels are bound for every fragment: all their artifacts have to be seen from
its position, the first one that is not is reported, and nothing but the placeholders of artifacts
is replaced. -/
theorem binds_to_first_declarations (declarations : List (String × ArtifactSource)) :
    (∀ artifact,
      (empty.declareAll declarations).source? artifact = declarations.lookup artifact) ∧
    ∀ (position : Nat) (fragment : String),
      (∀ action : Action, (empty.declareAll declarations).Decides position fragment
        action.references
        (action.Rewritten (empty.declareAll declarations).Binds fun text value =>
          ∃ bound, value = .text bound ∧ (empty.declareAll declarations).Binds text bound)
        ((empty.declareAll declarations).resolveAction action position fragment)) ∧
      ∀ label : String, (empty.declareAll declarations).Decides position fragment
        (referencesInText label) ((empty.declareAll declarations).Binds label)
        ((empty.declareAll declarations).resolveLabel label position fragment) := by
  refine ⟨fun artifact => ?_, fun position fragment =>
    ⟨decides_resolveAction, decides_resolveLabel⟩⟩
  exact (source?_declareAll empty declarations artifact).trans Option.none_or

end ArtifactTable

end Workflow
