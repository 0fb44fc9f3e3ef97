import Workflow.Run.Engine

/-!
# Driving runs

A runner feeds an engine until nothing is left to do: each tool that the run waits for is called,
and its result is handed in. A run can also be driven along all branches at once: at every branch
point it is split, and the parts are driven round by round.
-/

namespace Workflow

variable {World : Type}

/-- Calls tools. -/
abbrev Dispatcher (World : Type) := Invocation → World → Except String Fields × World

/-- What a runner works with. -/
structure Runner (World : Type) where
  collaborators : Collaborators World
  dispatch : Dispatcher World
  /-- Makes an id that no other run has. -/
  newId : World → String × World
  /-- Keeps the record of a run that has been driven. -/
  save : Run → World → World

namespace Runner

/-- Advances a run and calls the tools that it waits for, at most `calls` times. -/
def driveWithin (r : Runner World) (calls : Nat) (e : Engine) (world : World) : Engine × World :=
  let o := e.advance r.collaborators world
  match o.result with
  | .ok (.awaitingTool invocation) =>
      match calls with
      | 0 => (o.engine, o.world)
      | calls + 1 =>
          match r.dispatch invocation o.world with
          | (.ok outputs, world) =>
              match o.engine.resume outputs with
              | (.ok _, e) => r.driveWithin calls e world
              | (.error _, e) => (e, world)
          | (.error message, world) => ((o.engine.failTool message).2, world)
  | _ => (o.engine, o.world)

/-- Drives a run until it ends or waits for the choice of a branch. Each tool step of the graph is
called at most once. -/
def drive (r : Runner World) (e : Engine) (world : World) : Engine × World :=
  r.driveWithin e.graph.steps.size e world

/-- Drives a run and keeps its record. -/
def run (r : Runner World) (e : Engine) (world : World) : Run × World :=
  let (e, world) := r.drive e world
  (e.run, r.save e.run world)

/-! ## All branches -/

/-- The runner that leaves branches to the caller. -/
def forking (r : Runner World) : Runner World :=
  { r with collaborators := { r.collaborators with selector := none } }

/-- Drives several runs in order. -/
def driveAll (r : Runner World) : List Engine → World → List Engine × World
  | [], world => ([], world)
  | e :: rest, world =>
      let (e, world) := r.drive e world
      let (others, world) := r.driveAll rest world
      (e :: others, world)

/-- What a round leads to: the runs that have ended, and those to be driven next. -/
structure Round where
  leaves : List Run
  next : List Engine

/-- Splits the driven runs that wait for the choice of a branch, and keeps the records of all. -/
def split (r : Runner World) : List Engine → World → Except RunError Round × World
  | [], world => (.ok ⟨[], []⟩, world)
  | e :: rest, world =>
      match e.run.status with
      | .awaitingBranch .. =>
          match e.fork r.newId world with
          | (.error error, world) => (.error error, world)
          | (.ok children, world) =>
              match r.split rest (r.save e.run world) with
              | (.ok round, world) => (.ok { round with next := children ++ round.next }, world)
              | (.error error, world) => (.error error, world)
      | _ =>
          match r.split rest (r.save e.run world) with
          | (.ok round, world) => (.ok { round with leaves := e.run :: round.leaves }, world)
          | (.error error, world) => (.error error, world)

/-- Drives runs and all that they are split into, in at most `rounds` rounds. -/
def runRounds (r : Runner World) (rounds : Nat) (frontier : List Engine) (world : World) :
    Except RunError (List Run) × World :=
  match rounds, frontier with
  | _, [] => (.ok [], world)
  | 0, _ => (.ok [], world)
  | rounds + 1, frontier =>
      let (driven, world) := r.driveAll frontier world
      match r.split driven world with
      | (.error error, world) => (.error error, world)
      | (.ok round, world) =>
          match r.runRounds rounds round.next world with
          | (.ok leaves, world) => (.ok (round.leaves ++ leaves), world)
          | (.error error, world) => (.error error, world)

/-- Drives a run along all branches: the records of the runs in which it ends. Each round but the
last passes a branch point, and a path passes each one at most once. -/
def runAllBranches (r : Runner World) (e : Engine) (world : World) :
    Except RunError (List Run) × World :=
  r.forking.runRounds (e.graph.steps.size + 1) [e] world

end Runner

end Workflow
