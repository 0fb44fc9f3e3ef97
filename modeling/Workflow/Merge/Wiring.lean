import Workflow.Merge.Naming
import Workflow.Validation.Plan

/-!
# Wiring fragments together

A final step of one fragment after which another fragment reads a result is replaced by a jump to
the entry of that fragment. If several fragments read results at one final step, the earliest of
them comes next and the others wait: they run after it, and are passed on to its only final step.
Where it is not clear which of several final steps leads on, the wiring is ambiguous.
-/

namespace Workflow

/-! ## Findings -/

/-- Fragments wait for a fragment that does not end in exactly one final step. -/
def Violation.ambiguousEnd (finals : List String) (fragment : String) (waiting : List String) :
    Violation :=
  ⟨.ambiguousWiring, finals,
    "fragment '" ++ fragment ++ "' runs before " ++ Text.quotedList waiting ++ " but ends in "
      ++ toString finals.length ++ " final steps; cannot tell which one continues"⟩

/-- The step that an artifact is bound to leads to several final steps. -/
def Violation.ambiguousSource (producer : String) (finals : List String) (d : Dependency) :
    Violation :=
  ⟨.ambiguousWiring, producer :: finals,
    "artifact '" ++ d.artifact ++ "' of fragment '" ++ d.producer
      ++ "' is produced before a branch and reaches " ++ toString finals.length
      ++ " final steps; cannot tell which one feeds '" ++ d.consumer ++ "'"⟩

/-! ## Which final step feeds whom -/

/-- The number in its place among ascending ones, unless it is there already. -/
def insertNumber (n : Nat) : List Nat → List Nat
  | [] => [n]
  | m :: rest =>
      if n < m then n :: m :: rest else if n = m then m :: rest else m :: insertNumber n rest

/-- The numbers that occur in the list, each once, in ascending order. -/
def sortedNumbers (numbers : List Nat) : List Nat := numbers.foldr insertNumber []

/-- What is known about the wiring after some of the fragments. -/
structure Wiring where
  /-- Final steps and the entries that take their places. -/
  redirects : Dict String
  /-- Pairs of fragments of which the second has to run after the first. -/
  waiting : List (Nat × Nat)
  failures : List Violation

/-- The final steps of a fragment that can be reached from a step. -/
def Fragment.finalsAfter (fragment : Fragment) (step : String) : List String :=
  let reached := fragment.graph.reachable step
  (fragment.graph.finals.map (·.id)).filter (· ∈ reached)

/-- What one dependency on a fragment asks for: the final step that has to lead on and the position
of the fragment to which it has to lead, or a failure, or nothing. -/
def feed? (fragments : List Fragment) (fragment : Fragment) (position : Nat) (d : Dependency) :
    Option (Except Violation (String × Nat)) :=
  match fragmentPosition? fragments d.consumer, fragment.produces.get? d.artifact with
  | some consumer, some binding =>
      match fragment.finalsAfter binding.step with
      | [] => none
      | [final] => some (.ok (final, consumer))
      | finals =>
          some (.error (.ambiguousSource (fragment.newName position binding.step)
            (finals.map (fragment.newName position)) d))
  | _, _ => none

/-- The failures among results. -/
def failuresOf {α : Type} (results : List (Except Violation α)) : List Violation :=
  results.filterMap fun r =>
    match r with
    | .error e => some e
    | .ok _ => none

/-- The successes among results. -/
def successesOf {α : Type} (results : List (Except Violation α)) : List α :=
  results.filterMap fun r =>
    match r with
    | .ok a => some a
    | .error _ => none

/-- What the fragments that wait for a fragment ask for. -/
def inheritedFeeds (fragments : List Fragment) (fragment : Fragment) (position : Nat)
    (waiting : List Nat) : List (Except Violation (String × Nat)) :=
  if waiting.isEmpty then []
  else
    match fragment.graph.finals.map (·.id) with
    | [final] => waiting.map fun consumer => .ok (final, consumer)
    | finals =>
        [.error (.ambiguousEnd (finals.map (fragment.newName position)) fragment.name
          (waiting.filterMap fun consumer => (fragments[consumer]?).map (·.name)))]

/-- Leads a final step of a fragment to the first of its consumers and lets the others wait
for it. -/
def Wiring.connect (fragments : List Fragment) (fragment : Fragment) (position : Nat)
    (wiring : Wiring) (final : String) (consumers : List Nat) : Wiring :=
  match consumers with
  | [] => wiring
  | next :: others =>
      match (fragments[next]?).bind fun f => f.graph.entry.map (f.newName next) with
      | none => wiring
      | some entry =>
          { wiring with
            redirects := wiring.redirects.insert (fragment.newName position final) entry
            waiting := wiring.waiting ++ others.map (next, ·) }

/-- Wires the final steps of one fragment. -/
def Wiring.addFragment (fragments : List Fragment) (dependencies : List Dependency)
    (wiring : Wiring) (fragment : Fragment) (position : Nat) : Wiring :=
  let waiting := sortedNumbers ((wiring.waiting.filter (·.1 = position)).map (·.2))
  let results :=
    inheritedFeeds fragments fragment position waiting
      ++ (dependencies.filter (·.producer = fragment.name)).filterMap
        (feed? fragments fragment position)
  let feeds := successesOf results
  let wiring := { wiring with failures := wiring.failures ++ failuresOf results }
  (fragment.graph.finals.map (·.id)).foldl
    (fun wiring final =>
      wiring.connect fragments fragment position final
        (sortedNumbers ((feeds.filter (·.1 = final)).map (·.2))))
    wiring

/-- The wiring of all fragments of a plan. -/
def planWiring (fragments : List Fragment) (dependencies : List Dependency) : Wiring :=
  fragments.zipIdx.foldl
    (fun wiring (fragment, position) => wiring.addFragment fragments dependencies fragment position)
    ⟨.empty, [], []⟩

/-! ## Jumps -/

/-- Where a chain of redirections ends, followed for at most `fuel` steps. -/
def followRedirects (redirects : Dict String) : Nat → String → String
  | 0, id => id
  | fuel + 1, id =>
      match redirects.get? id with
      | some next => followRedirects redirects fuel next
      | none => id

/-- The graph with each redirected step removed and everything that led to it led to the end of its
chain. -/
def Graph.redirect (g : Graph) (redirects : Dict String) : Graph :=
  redirects.keys.foldl
    (fun g old =>
      (g.retarget old (followRedirects redirects (redirects.size + 1) old)).removeStep old)
    g

end Workflow
