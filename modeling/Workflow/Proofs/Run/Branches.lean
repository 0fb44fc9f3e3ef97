import Workflow.Proofs.Run.Drive

/-!
# Runs along all branches

A frontier of runs is driven round by round. A round takes each run to its end or to its next
choice, where it is split, so the steps that were ahead of the frontier are those that are done in
the round and those that are ahead of the next frontier. Nothing of one part is ahead of another
one, since the graph is a tree. So when the frontier is empty, each step below the entry has been
done once.

Main statements: `runRounds_accounts` and `runAllBranches_covers`.
-/

namespace Workflow

open Engine

variable {World : Type}

/-- A run that is about to enter a step, with at least `done` steps behind it. -/
structure Run.Ready (schemas : Schemas) (g : Graph) (entry : String) (replies : Replies)
    (done : Nat) (run : Run) : Prop where
  tracks : run.Tracks schemas g entry replies
  is_open : run.status = .pending ∨ run.status = .running
  enters : ∃ id, run.cursor = .enter id
  behind : done ≤ run.trail.length

/-- A run that was driven: it has ended, or has to be split. -/
structure Run.Settled (schemas : Schemas) (g : Graph) (entry : String) (replies : Replies)
    (done : Nat) (run : Run) : Prop where
  tracks : run.Tracks schemas g entry replies
  ended : run.status = .completed ∨ ∃ id labels, run.status = .awaitingBranch id labels
  behind : done ≤ run.trail.length

namespace Runner

section Rounds

variable {r : Runner World} {replies : Replies} {after : World → List Call → World → Prop}
  {e : Engine} {entry : String} {done : Nat}

/-- The steps ahead of several runs. -/
def aheadOf (g : Graph) (runs : List Run) : List String :=
  runs.flatMap fun run => g.ahead run.cursor

/-! ## Driving a frontier -/

theorem driveAll_accounts (serves : r.Serves replies after) (all : replies.AreComplete e.schemas)
    (wf : e.graph.WellFormed e.schemas entry) (unattended : r.collaborators.selector = none)
    (runs : List Run) (ready : ∀ run ∈ runs, run.Ready e.schemas e.graph entry replies done)
    (world : World) :
    ∃ driven visited made world',
      r.driveAll (runs.map e.withRun) world = (driven.map e.withRun, world') ∧
      after world (made.map (·.2)) world' ∧
      e.graph.Accounts e.schemas entry replies visited made
        (driven.filter fun run => run.status = .completed) ∧
      (aheadOf e.graph runs).Perm (visited ++ aheadOf e.graph driven) ∧
      ∀ run ∈ driven, run.Settled e.schemas e.graph entry replies (done + 1) := by
  induction runs generalizing world with
  | nil => exact ⟨[], [], [], world, rfl, serves.refl world, .nil, .refl _, by simp⟩
  | cons run rest ih =>
      obtain ⟨tracks, is_open, ⟨id, hcursor⟩, behind⟩ := ready run (List.mem_cons_self ..)
      have contains := (tracks.consistent.entering id hcursor).contains_last
      obtain ⟨walk, last, course, hlast, below⟩ := exists_course serves wf unattended contains
      obtain ⟨run', world', hdrive, hdriven, made⟩ :=
        drive_course (e := e.withRun run) serves all wf tracks is_open hcursor course world
      obtain ⟨driven, visited, made', world'', hrest, after_rest, accounts, perm, settled⟩ :=
        ih (fun other hother => ready other (List.mem_cons_of_mem _ hother)) world'
      obtain ⟨tracks', trail_eq, ended, ⟨stop, hstop, ahead_eq⟩, accounts'⟩ := hdriven
      obtain rfl : last = stop := Option.some.inj (hlast.symm.trans hstop)
      refine ⟨run' :: driven, walk ++ visited, _ ++ made', world'', ?_,
        by rw [List.map_append]; exact serves.trans made after_rest, ?_, ?_, ?_⟩
      · simp only [List.map_cons, driveAll, hdrive, hrest, withRun_withRun]
      · rw [← List.singleton_append, List.filter_append]
        exact accounts'.append accounts
      · -- What was ahead of the first run is its walk and what is ahead of it now.
        have first : (e.graph.ahead run.cursor).Perm (walk ++ e.graph.ahead run'.cursor) := by
          rw [hcursor, show e.graph.ahead run'.cursor = _ from ahead_eq]
          exact below
        refine (first.append perm).trans ?_
        rw [List.append_assoc, List.append_assoc]
        exact (List.perm_append_comm_assoc _ visited (aheadOf e.graph driven)).append_left walk
      · intro other hother
        rcases List.mem_cons.1 hother with rfl | hother
        · refine ⟨tracks', ended, ?_⟩
          have passed : walk ≠ [] := by
            rintro rfl
            cases hlast
          have := List.length_pos_iff.2 passed
          rw [show other.trail = run.trail ++ walk from trail_eq, List.length_append]
          omega
        · exact settled other hother

/-! ## Splitting -/

/-- The runs that are forked enter one target each. -/
theorem forkAlong_eq (serves : r.Serves replies after) (run : Run) (targets : List String)
    (world : World) :
    ∃ (children : List Run) (world' : World),
      forkAlong r.newId (e.withRun run) targets world = (children.map e.withRun, world') ∧
      after world [] world' ∧ children.map (·.cursor) = targets.map .enter ∧
      ∀ child ∈ children, ∃ id, ∃ target ∈ targets, child = forkedRun run id target := by
  induction targets generalizing world with
  | nil => exact ⟨[], world, rfl, serves.refl world, rfl, by simp⟩
  | cons target rest ih =>
      obtain ⟨children, world', heq, quiet, cursors, forked⟩ := ih (r.newId world).2
      refine ⟨forkedRun run (r.newId world).1 target :: children, world', ?_,
        serves.trans (serves.names world) quiet, ?_, ?_⟩
      · simp only [forkAlong, heq, run_withRun, withRun_withRun, List.map_cons]
      · rw [List.map_cons, cursors]
        rfl
      · intro child hchild
        rcases List.mem_cons.1 hchild with rfl | hchild
        · exact ⟨_, target, List.mem_cons_self .., rfl⟩
        · obtain ⟨id, other, hother, heq⟩ := forked child hchild
          exact ⟨id, other, List.mem_cons_of_mem _ hother, heq⟩

theorem aheadOf_of_cursors {g : Graph} {children : List Run} {targets : List String}
    (h : children.map (·.cursor) = targets.map .enter) :
    aheadOf g children = targets.flatMap g.reachable := by
  have along := congrArg (List.flatMap g.ahead) h
  rw [List.flatMap_map, List.flatMap_map] at along
  exact along

/-- Runs that have ended are set aside, and the others are split. What is ahead stays the same. -/
theorem split_accounts (serves : r.Serves replies after) (wf : e.graph.WellFormed e.schemas entry)
    (runs : List Run) (settled : ∀ run ∈ runs, run.Settled e.schemas e.graph entry replies done)
    (world : World) :
    ∃ next world',
      r.split (runs.map e.withRun) world =
        (.ok ⟨runs.filter fun run => run.status = .completed, next.map e.withRun⟩, world') ∧
      after world [] world' ∧ aheadOf e.graph next = aheadOf e.graph runs ∧
      ∀ run ∈ next, run.Ready e.schemas e.graph entry replies done := by
  induction runs generalizing world with
  | nil => exact ⟨[], world, rfl, serves.refl world, rfl, by simp⟩
  | cons run rest ih =>
      obtain ⟨tracks, ended, behind⟩ := settled run (List.mem_cons_self ..)
      have settled_rest := fun other hother => settled other (List.mem_cons_of_mem _ hother)
      rcases ended with completed | ⟨id, labels, waiting⟩
      · obtain ⟨next, world', hsplit, quiet, ahead, ready⟩ := ih settled_rest (r.save run world)
        have idle : run.cursor = .idle := by
          rw [tracks.consistent.idle_iff, completed]
          rfl
        refine ⟨next, world', ?_, serves.trans (serves.saves run world) quiet, ?_, ready⟩
        · simp [split, completed, hsplit]
        · rw [ahead, aheadOf, aheadOf, List.flatMap_cons, idle]
          rfl
      · obtain ⟨hcursor, step, hstep, _⟩ := tracks.consistent.awaits_branch id labels waiting
        obtain ⟨children, world₁, hfork, quiet, cursors, forked⟩ :=
          forkAlong_eq (e := e) serves run step.targets world
        obtain ⟨next, world₂, hsplit, quiet', ahead, ready⟩ :=
          ih settled_rest (r.save run world₁)
        have targets_eq := Graph.successors_of_step? hstep
        refine ⟨children ++ next, world₂, ?_,
          serves.trans quiet (serves.trans (serves.saves run world₁) quiet'), ?_, ?_⟩
        · simp [split, waiting, fork, Engine.step, hstep, hfork, hsplit]
        · rw [aheadOf, List.flatMap_append, ← aheadOf, ← aheadOf, ahead,
            aheadOf_of_cursors cursors, ← targets_eq]
          rw [aheadOf, aheadOf, List.flatMap_cons, hcursor]
          rfl
        · intro child hchild
          rcases List.mem_append.1 hchild with hchild | hchild
          · obtain ⟨newId, target, htarget, rfl⟩ := forked child hchild
            rw [← targets_eq] at htarget
            have goes := tracks.goTo wf hcursor htarget
            exact ⟨⟨goes.consistent.withId _ _, goes.state_eq⟩, .inr rfl, ⟨target, rfl⟩, behind⟩
          · exact ready child hchild

/-! ## All rounds -/

/-- A run that is about to enter a step has passed fewer steps than there are. -/
theorem length_trail_lt {run : Run} (wf : e.graph.WellFormed e.schemas entry)
    (ready : run.Ready e.schemas e.graph entry replies done) : done < e.graph.steps.size := by
  obtain ⟨id, hcursor⟩ := ready.enters
  have bound := (ready.tracks.consistent.entering id hcursor).length_le wf.acyclic
  have behind := ready.behind
  rw [List.length_append, List.length_singleton] at bound
  omega

/-- With one round for each step, the rounds end when all that was ahead has been done,
once each. -/
theorem runRounds_accounts (serves : r.Serves replies after) (all : replies.AreComplete e.schemas)
    (wf : e.graph.WellFormed e.schemas entry) (unattended : r.collaborators.selector = none)
    (rounds : Nat) (runs : List Run) (enough : e.graph.steps.size ≤ rounds + done)
    (ready : ∀ run ∈ runs, run.Ready e.schemas e.graph entry replies done) (world : World) :
    ∃ leaves visited made world',
      r.runRounds rounds (runs.map e.withRun) world = (.ok leaves, world') ∧
      after world (made.map (·.2)) world' ∧
      e.graph.Accounts e.schemas entry replies visited made leaves ∧
      (aheadOf e.graph runs).Perm visited := by
  induction rounds generalizing runs done world with
  | zero =>
      cases runs with
      | nil => exact ⟨[], [], [], world, rfl, serves.refl world, .nil, .refl _⟩
      | cons run rest =>
          -- Each run has passed as many steps as there are, so it has none to enter.
          have := length_trail_lt wf (ready run (List.mem_cons_self ..))
          omega
  | succ rounds ih =>
      cases runs with
      | nil => exact ⟨[], [], [], world, rfl, serves.refl world, .nil, .refl _⟩
      | cons run rest =>
          obtain ⟨driven, visited, made, world₁, hdrive, after_drive, accounts, perm, settled⟩ :=
            driveAll_accounts serves all wf unattended (run :: rest) ready world
          obtain ⟨next, world₂, hsplit, quiet, ahead, ready_next⟩ :=
            split_accounts serves wf driven settled world₁
          obtain ⟨leaves, visited', made', world₃, hrounds, after_rounds, accounts', perm'⟩ :=
            ih next (by omega) ready_next world₂
          refine ⟨_ ++ leaves, visited ++ visited', made ++ made', world₃, ?_, ?_,
            accounts.append accounts', ?_⟩
          · rw [List.map_cons] at hdrive ⊢
            simp only [runRounds, hdrive, hsplit, hrounds]
          · rw [List.map_append]
            exact serves.trans after_drive (serves.trans quiet after_rounds)
          · rw [ahead] at perm'
            exact perm.trans (perm'.append_left visited)

end Rounds

/-! ## Every branch once -/

/-- The reasoner and the tools of the runner answer each question by what is asked alone, and always
with success. -/
structure Answers (r : Runner World) (replies : Replies) : Prop where
  asks : ∃ ask, r.collaborators.reasoner = some ask ∧
    ∀ prompt world, (ask prompt world).1 = .ok (replies.answer prompt)
  dispatches : ∀ invocation world,
    (r.dispatch invocation world).1 = .ok (replies.respond invocation)

/-- The world keeps a log of the calls that are made, and nothing else is written there. -/
structure Logs (r : Runner World) (log : World → List Call) : Prop where
  asks : ∀ ask, r.collaborators.reasoner = some ask → ∀ prompt world,
    log (ask prompt world).2 = log world ++ [.asked prompt]
  dispatches : ∀ invocation world,
    log (r.dispatch invocation world).2 = log world ++ [.dispatched invocation]
  names : ∀ world, log (r.newId world).2 = log world
  saves : ∀ run world, log (r.save run world) = log world

section Covers

variable {r : Runner World} {replies : Replies} {log : World → List Call} {schemas : Schemas}
  {g : Graph} {entry : String}

theorem Answers.serves (answers : r.Answers replies) :
    r.Serves replies (fun _ _ _ => True) := by
  obtain ⟨ask, hask, hanswer⟩ := answers.asks
  refine ⟨fun _ => trivial, fun _ _ => trivial, ⟨ask, hask, fun prompt world => ?_⟩,
    fun invocation world => ?_, fun _ => trivial, fun _ _ => trivial⟩
  · exact ⟨_, Prod.ext (hanswer prompt world) rfl, trivial⟩
  · exact ⟨_, Prod.ext (answers.dispatches invocation world) rfl, trivial⟩

/-- A runner with a log serves by the calls that it logs. -/
theorem Logs.serves (logs : r.Logs log) (answers : r.Answers replies) :
    r.Serves replies (fun world calls world' => log world' = log world ++ calls) := by
  obtain ⟨ask, hask, hanswer⟩ := answers.asks
  refine
    { refl := fun world => (List.append_nil _).symm
      trans := ?_
      asks := ⟨ask, hask, fun prompt world => ?_⟩
      dispatches := fun invocation world => ?_
      names := ?_
      saves := ?_ }
  · intro world world' world'' calls calls' first second
    rw [second, first, List.append_assoc]
  · exact ⟨_, Prod.ext (hanswer prompt world) rfl, logs.asks ask hask prompt world⟩
  · exact ⟨_, Prod.ext (answers.dispatches invocation world) rfl, logs.dispatches invocation world⟩
  · intro world
    rw [logs.names, List.append_nil]
  · intro run world
    rw [logs.saves, List.append_nil]

/-- A new run that is steered along a walk to a final step takes this walk, and records what the
steps on it record. -/
theorem run_of_steers (answers : r.Answers replies) (all : replies.AreComplete schemas)
    (wf : g.WellFormed schemas entry) (hentry : g.entry = some entry) {last : String}
    {walk : List String} {step : Step} (w : g.Walk entry last walk)
    (hlast : g.step? last = some step) (final : step.action = .final) (steers : r.Steers g walk)
    {id startedAt : String} {e : Engine} (hstart : Engine.start g schemas id startedAt = .ok e)
    (world : World) :
    (r.run e world).1.status = .completed ∧ (r.run e world).1.trail = walk ∧
      (r.run e world).1.state = g.recordAlong replies walk := by
  obtain ⟨rfl, rfl, entry', hentry', hrun⟩ := start_eq_ok hstart
  obtain rfl := Option.some.inj (hentry.symm.trans hentry')
  have begun : e.run.Tracks e.schemas e.graph entry replies := by
    rw [hrun]
    exact .start wf.contains_entry id startedAt
  have is_new : e.run.status = .pending ∧ e.run.cursor = .enter entry ∧ e.run.trail = [] := by
    rw [hrun]
    exact ⟨rfl, rfl, rfl⟩
  obtain ⟨run', world', hdrive, driven, _⟩ := drive_course answers.serves all wf begun
    (.inl is_new.1) is_new.2.1 (course_of_steers wf w hlast final steers) world
  have trail_eq : run'.trail = walk := by
    rw [driven.trail_eq, is_new.2.2, List.nil_append]
  have result : (r.run e world).1 = run' := by
    simp only [run, hdrive, run_withRun]
  rw [result]
  refine ⟨?_, trail_eq, by rw [driven.tracks.state_eq, trail_eq]⟩
  rcases driven.settled with completed | ⟨at_step, labels, waiting⟩
  · exact completed
  · -- A run waits only at a working step, and the walk ends at a final one.
    obtain ⟨hcursor, _⟩ := driven.tracks.consistent.awaits_branch at_step labels waiting
    obtain ⟨v, other, hother, works⟩ := driven.tracks.consistent.leaving at_step hcursor
    have ends := v.getLast?_eq
    rw [trail_eq, w.getLast?_eq] at ends
    obtain rfl := Option.some.inj ends
    obtain rfl := Option.some.inj (hlast.symm.trans hother)
    exact absurd final works

/-- What comes of a run that is driven along all branches of a graph. -/
structure Covers (schemas : Schemas) (g : Graph) (entry : String) (replies : Replies)
    (leaves : List Run) (made : List (String × Call)) : Prop where
  one_each : (leaves.map (·.trail.getLast?)).Perm (g.finals.map fun step => some step.id)
  /-- A leaf has taken the only walk to its final step. -/
  leaf : ∀ leaf ∈ leaves, leaf.status = .completed ∧
    ∃ last, leaf.trail.getLast? = some last ∧ ∀ walk, g.Walk entry last walk ↔ walk = leaf.trail
  /-- Each working step has made one call. -/
  made_ids : (made.map (·.1)).Perm ((g.stepList.filter fun step => !step.isFinal).map (·.id))
  /-- It is the one for which the steps before it have recorded the values. -/
  made_calls : ∀ m ∈ made, ∃ step trail, g.step? m.1 = some step ∧
    g.Walk entry m.1 (trail ++ [m.1]) ∧ step.call? (g.recordAlong replies trail) = some m.2
  /-- A leaf has the state of a run that is steered to its final step and never split. -/
  alone : ∀ leaf ∈ leaves, ∀ {World : Type} (r : Runner World), r.Answers replies →
    r.Steers g leaf.trail → ∀ id startedAt e world, Engine.start g schemas id startedAt = .ok e →
      (r.run e world).1.status = .completed ∧ (r.run e world).1.trail = leaf.trail ∧
        (r.run e world).1.state = leaf.state

theorem isFinalAt_of_mem {step : Step} (h : step ∈ g.stepList) :
    g.isFinalAt step.id = step.isFinal := by
  rw [Graph.isFinalAt, (Graph.mem_stepList_iff g step).1 h]
  rfl

/-- If all steps below the entry have been done once each, all branches are covered. -/
theorem covers_of_accounts (all : replies.AreComplete schemas) (wf : g.WellFormed schemas entry)
    (hentry : g.entry = some entry) {visited : List String} {made : List (String × Call)}
    {leaves : List Run} (accounts : g.Accounts schemas entry replies visited made leaves)
    (visits : (g.reachable entry).Perm visited) : Covers schemas g entry replies leaves made := by
  have everything : visited.Perm (g.stepList.map (·.id)) := by
    refine visits.symm.trans ((List.perm_ext_iff_of_nodup (g.ids_nodup.filter _)
      (Graph.map_id_nodup g)).2 fun id => ?_)
    rw [Graph.map_id_stepList, Graph.mem_ids_iff]
    refine (Graph.mem_reachable_iff g entry id).trans ⟨fun h => h.contains_last, wf.reached id⟩
  have ended (leaf : Run) (h : leaf ∈ leaves) : leaf.status = .completed ∧
      ∃ last step, g.Walk entry last leaf.trail ∧ g.step? last = some step ∧ step.action = .final ∧
        leaf.state = g.recordAlong replies leaf.trail := by
    obtain ⟨completed, tracks⟩ := accounts.ended_tracks leaf h
    obtain ⟨_, last, step, hlast, hstep, final⟩ := tracks.consistent.completed completed
    refine ⟨completed, last, step, ?_, hstep, final, tracks.state_eq⟩
    rcases tracks.consistent.trail_walk with hnil | ⟨stop, w⟩
    · rw [hnil] at hlast
      cases hlast
    · obtain rfl := Option.some.inj (w.getLast?_eq.symm.trans hlast)
      exact w
  refine
    { one_each := ?_
      leaf := ?_
      made_ids := ?_
      made_calls := ?_
      alone := ?_ }
  · refine accounts.endings.trans (((everything.filter _).map _).trans (.of_eq ?_))
    rw [List.filter_map, List.map_map, Graph.finals]
    congr 1
    exact List.filter_congr fun step hstep => isFinalAt_of_mem hstep
  · intro leaf hleaf
    obtain ⟨completed, last, _, w, _⟩ := ended leaf hleaf
    refine ⟨completed, last, w.getLast?_eq, fun walk => ⟨fun v => wf.walk_unique v w, ?_⟩⟩
    rintro rfl
    exact w
  · refine accounts.made_ids.trans ((everything.filter _).trans (.of_eq ?_))
    rw [List.filter_map]
    congr 1
    exact List.filter_congr fun step hstep => congrArg Bool.not (isFinalAt_of_mem hstep)
  · intro m hm
    obtain ⟨trail, w, hcall⟩ := accounts.made_calls m hm
    obtain ⟨step, hstep, hcall⟩ := Option.bind_eq_some_iff.1 hcall
    exact ⟨step, trail, hstep, w, hcall⟩
  · intro leaf hleaf World r answers steers id startedAt e world hstart
    obtain ⟨_, last, step, w, hstep, final, state_eq⟩ := ended leaf hleaf
    rw [state_eq]
    exact run_of_steers answers all wf hentry w hstep final steers hstart world

end Covers

/-- With known answers, driving a new run of an accepted graph along all branches ends with one
completed run for each final step, has each working step make its call once, and gives each leaf the
state that a run straight to its final step has. -/
theorem runAllBranches_covers (r : Runner World) (replies : Replies) (log : World → List Call)
    {schemas : Schemas} {g : Graph} (accepted : (g.validate schemas).isAccepted = true)
    (answers : r.Answers replies) (all : replies.AreComplete schemas) (logs : r.Logs log)
    (id startedAt : String) (world : World) :
    ∃ e entry leaves made world', Engine.start g schemas id startedAt = .ok e ∧
      g.entry = some entry ∧ r.runAllBranches e world = (.ok leaves, world') ∧
      log world' = log world ++ made.map (·.2) ∧ Covers schemas g entry replies leaves made := by
  obtain ⟨entry, hentry, wf⟩ := Graph.wellFormed_of_isAccepted accepted
  have serves : r.forking.Serves replies fun world calls world' =>
      log world' = log world ++ calls :=
    Logs.serves (r := r.forking) ⟨logs.asks, logs.dispatches, logs.names, logs.saves⟩
      ⟨answers.asks, answers.dispatches⟩
  have ready : (Run.start id startedAt entry).Ready schemas g entry replies 0 :=
    ⟨.start wf.contains_entry id startedAt, .inl rfl, ⟨entry, rfl⟩, Nat.zero_le _⟩
  have enough : g.steps.size ≤ g.steps.size + 1 + 0 := Nat.le_succ _
  obtain ⟨leaves, visited, made, world', hrounds, logged, accounts, perm⟩ :=
    runRounds_accounts (e := ⟨g, schemas, .start id startedAt entry, accepted⟩) serves all wf rfl
      (g.steps.size + 1) [.start id startedAt entry] enough
      (fun run hrun => by obtain rfl := List.mem_singleton.1 hrun; exact ready) world
  refine ⟨_, entry, leaves, made, world', start_of_isAccepted id startedAt accepted hentry, hentry,
    hrounds, logged, covers_of_accounts all wf hentry accounts ?_⟩
  rw [aheadOf, List.flatMap_singleton] at perm
  exact perm

/-! ## A runner with a log -/

/-- Tools measure 31 degrees, and the reasoner has one thing to say. -/
def plainReplies : Replies where
  answer _ := "Stay in the shade."
  respond _ := Dict.empty.insert "temperature" (.int 31)

/-- A runner that does nothing but write down its calls. -/
def scribe : Runner (List Call) where
  collaborators :=
    { reasoner := some fun prompt log => (.ok (plainReplies.answer prompt), log ++ [.asked prompt])
      selector := none }
  dispatch invocation log :=
    (.ok (plainReplies.respond invocation), log ++ [.dispatched invocation])
  newId log := ("branch", log)
  save _ log := log

/-- The weather service is driven to its two ends by one call of the tool and one question. -/
theorem forecast_covered :
    ∃ e leaves log, Engine.start forecast forecastSchemas "run" "today" = .ok e ∧
      scribe.runAllBranches e [] = (.ok leaves, log) ∧ leaves.length = 2 ∧ log.length = 2 := by
  have complete : plainReplies.AreComplete forecastSchemas := by
    intro invocation schema hschema field hfield
    unfold forecastSchemas at hschema
    split at hschema
    · cases hschema
      obtain rfl := List.mem_singleton.1 hfield
      rfl
    · cases hschema
  have logs : scribe.Logs id := by
    refine ⟨fun ask hask prompt log => ?_, fun _ _ => rfl, fun _ => rfl, fun _ _ => rfl⟩
    cases hask
    rfl
  obtain ⟨e, _, leaves, made, log, hstart, _, hleaves, hlog, covers⟩ :=
    runAllBranches_covers scribe plainReplies id forecast_isAccepted
      ⟨⟨_, rfl, fun _ _ => rfl⟩, fun _ _ => rfl⟩ complete logs "run" "today" []
  have one_each := covers.one_each.length_eq
  have calls := covers.made_ids.length_eq
  rw [List.length_map] at one_each calls
  have written : log.length = made.length := by
    rw [show log = _ from hlog, List.length_append, List.length_map]
    exact Nat.zero_add _
  refine ⟨e, leaves, log, hstart, hleaves, one_each.trans ?_, (written.trans calls).trans ?_⟩
  · decide +kernel
  · decide +kernel

end Runner

end Workflow
