import Workflow.Reference.Resolve

/-!
# Artifacts

An artifact is a named value that one fragment produces and later ones read. When fragments are
joined, each artifact gets one source, the field to which the first declaring fragment binds it, and
the placeholders of the artifact become references to that field. A fragment sees the artifacts
declared by itself and by the fragments before it.

Main statement: `source?_declare`, the first declaration of an artifact stands.
-/

namespace Workflow

/-- Where the value of an artifact comes from. -/
structure ArtifactSource where
  /-- The position of the producing fragment. -/
  fragment : Nat
  /-- The producing step, by its name in the joined graph. -/
  step : String
  field : String
deriving DecidableEq, Repr

/-- The sources of artifacts. -/
structure ArtifactTable where
  sources : Dict ArtifactSource
deriving DecidableEq

namespace ArtifactTable

/-- The table without artifacts. -/
def empty : ArtifactTable := ⟨.empty⟩

/-- The recorded source of an artifact. -/
def source? (table : ArtifactTable) (artifact : String) : Option ArtifactSource :=
  table.sources.get? artifact

/-- Records the source of an artifact, unless it has one. -/
def declare (table : ArtifactTable) (artifact : String) (source : ArtifactSource) : ArtifactTable :=
  if (table.source? artifact).isSome then table else ⟨table.sources.insert artifact source⟩

/-- The source of an artifact, if it is declared at or before a position. -/
def visibleTo (table : ArtifactTable) (artifact : String) (position : Nat) :
    Option ArtifactSource :=
  (table.source? artifact).filter (·.fragment ≤ position)

/-- The output that stands behind an artifact for the fragment at a position. The first artifact
that the fragment does not see is noted. -/
def bind (table : ArtifactTable) (position : Nat) :
    Reference → StateM (Option String) (Option Reference)
  | .artifact name =>
      match table.visibleTo name position with
      | some source => return some (.output source.step source.field)
      | none => do
          modify fun missing => missing.or (some name)
          return none
  | .output _ _ => return none

/-- What was rewritten in a fragment, unless an artifact was missing there. -/
def finish {α : Type} (fragment : String) : α × Option String → Except ResolveError α
  | (_, some artifact) => .error (.unresolvedArtifact artifact fragment)
  | (rewritten, none) => .ok rewritten

/-- The action of a step in a fragment with its artifacts bound. -/
def resolveAction (table : ArtifactTable) (action : Action) (position : Nat) (fragment : String) :
    Except ResolveError Action :=
  finish fragment ((action.rewrite (table.bind position)).run none)

/-- A transition label in a fragment with its artifacts bound. -/
def resolveLabel (table : ArtifactTable) (label : String) (position : Nat) (fragment : String) :
    Except ResolveError String :=
  finish fragment ((rewriteText (table.bind position) label).run none)

theorem source?_declare (table : ArtifactTable) (artifact : String) (source : ArtifactSource)
    (a : String) :
    (table.declare artifact source).source? a =
      if a = artifact ∧ table.source? artifact = none then some source else table.source? a := by
  unfold declare
  split
  · next h =>
      have : table.source? artifact ≠ none := Option.isSome_iff_ne_none.1 h
      simp [this]
  · next h =>
      have hn : table.source? artifact = none := by simpa using h
      simp only [source?, Dict.get?_insert] at hn ⊢
      simp [hn]

end ArtifactTable

end Workflow
