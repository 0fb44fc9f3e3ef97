import Workflow.Proofs.Run.Halting
import Workflow.Proofs.Run.Move

/-!
# Advancing and driving end

The loops of an advance and of a drive have no counter. They are said here as relations without a
bound: a loop that goes on forever is related to nothing. Each move leads to a place further on in
the graph, from entering a step to leaving it and from there to entering the next one; as an
accepted graph has no cycle, no place is visited twice, whatever the record of a restored run says.

Main statements: `moves_of_enough` and `drives_of_enough`, the bounded loops do all that the
unbounded ones do, and from them `Engine.loops_end`.
-/

namespace Workflow

variable {World : Type}

/-! ## Places -/

/-- A move can lead from one place of the graph to the other. -/
inductive Graph.Next (g : Graph) : Cursor → Cursor → Prop where
  | executed {id : String} : g.contains id = true → Next g (.enter id) (.leave id)
  | left {id target : String} : target ∈ g.successors id → Next g (.leave id) (.enter target)

namespace Graph

variable {g : Graph} {p q : Cursor}

/-- Further on is the end of the same step, or a step to which transitions lead. -/
theorem cases_of_further (h : Relation.TransGen g.Next p q) :
    ∃ a b, p.step? = some a ∧ q.step? = some b ∧
      (Relation.TransGen g.Leads a b ∨ a = b ∧ p = .enter a ∧ q = .leave a) := by
  induction h with
  | single next =>
      cases next with
      | @executed id _ => exact ⟨id, id, rfl, rfl, .inr ⟨rfl, rfl, rfl⟩⟩
      | @left id target leads => exact ⟨id, target, rfl, rfl, .inl (.single leads)⟩
  | tail _ next ih =>
      obtain ⟨a, b, ha, hb, far⟩ := ih
      cases next with
      | executed _ =>
          obtain rfl := Option.some.inj hb
          rcases far with far | ⟨_, _, other⟩
          · exact ⟨a, _, ha, rfl, .inl far⟩
          · cases other
      | left leads =>
          obtain rfl := Option.some.inj hb
          rcases far with far | ⟨rfl, _, _⟩
          · exact ⟨a, _, ha, rfl, .inl (far.tail leads)⟩
          · exact ⟨a, _, ha, rfl, .inl (.single leads)⟩

/-- No place is further on than itself. -/
theorem Acyclic.not_further (acyclic : g.Acyclic) : ¬ Relation.TransGen g.Next p p := by
  intro h
  obtain ⟨a, b, ha, hb, far⟩ := cases_of_further h
  obtain rfl := Option.some.inj (ha.symm.trans hb)
  rcases far with far | ⟨_, enters, leaves⟩
  · exact acyclic a far
  · cases enters.symm.trans leaves

/-- The places of a graph: each step is entered and left. -/
def places (g : Graph) : List Cursor := g.ids.map .enter ++ g.ids.map .leave

theorem length_places (g : Graph) : g.places.length = 2 * g.steps.size := by
  simp [places, ids, Dict.keys, Dict.size]
  omega

theorem Next.mem_places (h : g.Next p q) : p ∈ g.places := by
  cases h with
  | executed contained =>
      exact List.mem_append_left _ (List.mem_map_of_mem ((mem_ids_iff g _).2 contained))
  | left leads =>
      exact List.mem_append_right _
        (List.mem_map_of_mem ((mem_ids_iff g _).2 (contains_of_mem_successors leads)))

/-- The steps that call tools. -/
def toolIds (g : Graph) : List String :=
  (g.stepList.filter fun step => step.tool?.isSome).map (·.id)

theorem mem_toolIds {step : Step} (hstep : g.step? step.id = some step)
    (h : step.tool?.isSome = true) : step.id ∈ g.toolIds :=
  List.mem_map_of_mem (List.mem_filter.2 ⟨(mem_stepList_iff g step).2 hstep, h⟩)

theorem contains_of_mem_toolIds {id : String} (h : id ∈ g.toolIds) : g.contains id = true := by
  obtain ⟨step, hstep, rfl⟩ := List.mem_map.1 h
  exact contains_of_mem_stepList (List.mem_filter.1 hstep).1

theorem length_toolIds_le (g : Graph) : g.toolIds.length ≤ g.steps.size := by
  have bound : (g.stepList.filter fun step => step.tool?.isSome).length ≤ g.stepList.length :=
    List.length_filter_le _ _
  simpa [toolIds, stepList, Dict.values, Dict.size] using bound

end Graph

namespace Engine

/-! ## Moving without a bound -/

/-- The loop of an advance: moves follow each other until one stops or fails. They are made at the
places `visits`. -/
inductive Moves (c : Collaborators World) :
    Engine → World → List Cursor → Outcome World RunStatus → Prop where
  | stops {e : Engine} {world world' : World} {run : Run} : e.move c world = (.stops run, world') →
      Moves c e world [e.run.cursor] ⟨.ok run.status, e.withRun run, world'⟩
  | fails {e : Engine} {world world' : World} {run : Run} {error : RunError} :
      e.move c world = (.fails run error, world') →
      Moves c e world [e.run.cursor] ⟨.error error, e.withRun run, world'⟩
  | goesOn {e : Engine} {world world' : World} {run : Run} {visits : List Cursor}
      {o : Outcome World RunStatus} : e.move c world = (.goesOn run, world') →
      Moves c (e.withRun run) world' visits o → Moves c e world (e.run.cursor :: visits) o

/-- An advance: a run that is not open is refused, any other one is moved without a bound. -/
inductive Advances (c : Collaborators World) (e : Engine) (world : World) :
    List Cursor → Outcome World RunStatus → Prop where
  | refused : ¬ e.run.IsOpen →
      Advances c e world [] ⟨.error (e.run.refusal "advance"), e, world⟩
  | moves {visits : List Cursor} {o : Outcome World RunStatus} : e.run.IsOpen →
      Moves c e.begun world visits o → Advances c e world visits o

variable {c : Collaborators World} {e : Engine} {world : World}

theorem Moves.unique {visits visits' : List Cursor} {o o' : Outcome World RunStatus}
    (h : Moves c e world visits o) (k : Moves c e world visits' o') :
    visits = visits' ∧ o = o' := by
  induction h generalizing visits' with
  | stops hmove =>
      cases k with
      | stops hmove' => cases hmove.symm.trans hmove'; exact ⟨rfl, rfl⟩
      | fails hmove' => cases hmove.symm.trans hmove'
      | goesOn hmove' _ => cases hmove.symm.trans hmove'
  | fails hmove =>
      cases k with
      | stops hmove' => cases hmove.symm.trans hmove'
      | fails hmove' => cases hmove.symm.trans hmove'; exact ⟨rfl, rfl⟩
      | goesOn hmove' _ => cases hmove.symm.trans hmove'
  | goesOn hmove _ ih =>
      cases k with
      | stops hmove' => cases hmove.symm.trans hmove'
      | fails hmove' => cases hmove.symm.trans hmove'
      | goesOn hmove' later =>
          cases hmove.symm.trans hmove'
          obtain ⟨rfl, rfl⟩ := ih later
          exact ⟨rfl, rfl⟩

theorem Advances.unique {visits visits' : List Cursor} {o o' : Outcome World RunStatus}
    (h : Advances c e world visits o) (k : Advances c e world visits' o') :
    visits = visits' ∧ o = o' := by
  cases h with
  | refused closed =>
      cases k with
      | refused _ => exact ⟨rfl, rfl⟩
      | moves hopen _ => exact absurd hopen closed
  | moves hopen moves =>
      cases k with
      | refused closed => exact absurd hopen closed
      | moves _ moves' => exact moves.unique moves'

/-- A move after which the run goes on leads to the next place. -/
theorem Moved.next {g : Graph} {run run' : Run} (m : Moved c g run (.goesOn run')) :
    g.Next run.cursor run'.cursor := by
  cases m with
  | answered hstep h _ =>
      rw [h]
      exact .executed ((Graph.contains_iff g _).2 ⟨_, hstep⟩)
  | @passed step only hstep h honly =>
      rw [h]
      refine .left ?_
      rw [Graph.successors_of_step? hstep, Step.targets, honly]
      exact List.mem_singleton_self _
  | chosen hstep h ht =>
      rw [h]
      refine .left ?_
      rw [Graph.successors_of_step? hstep]
      exact List.mem_map_of_mem ht

/-- With more moves than there are places, moving is never cut off. The places in `passed` were
visited before. -/
theorem moves_of_enough (c : Collaborators World) (moves : Nat) (e : Engine) (world : World)
    (acyclic : e.graph.Acyclic) (passed : List Cursor) (known : passed ⊆ e.graph.places)
    (different : passed.Nodup)
    (before : ∀ p ∈ passed, Relation.TransGen e.graph.Next p e.run.cursor)
    (enough : 2 * e.graph.steps.size < passed.length + moves) :
    ∃ visits, Moves c e world visits (moveOn c moves e world) ∧ (passed ++ visits).Nodup := by
  induction moves generalizing e world passed with
  | zero =>
      have bound := (different.subperm known).length_le
      rw [Graph.length_places] at bound
      omega
  | succ moves ih =>
      have here : (passed ++ [e.run.cursor]).Nodup := by
        refine List.Nodup.append different (List.nodup_singleton _) ?_
        exact List.disjoint_singleton.2 fun again => acyclic.not_further (before _ again)
      have made := moved c e world
      rw [moveOn]
      split
      · next run world' hmove =>
          rw [hmove] at made
          have next := made.next
          have further : ∀ p ∈ passed ++ [e.run.cursor],
              Relation.TransGen e.graph.Next p run.cursor := by
            intro p hp
            rcases List.mem_append.1 hp with hp | hp
            · exact (before p hp).tail next
            · obtain rfl := List.mem_singleton.1 hp
              exact .single next
          obtain ⟨visits, later, distinct⟩ := ih (e.withRun run) world' acyclic
            (passed ++ [e.run.cursor])
            (List.append_subset.2 ⟨known, List.cons_subset.2 ⟨next.mem_places, List.nil_subset _⟩⟩)
            here further
            (by rw [graph_withRun, List.length_append, List.length_singleton]; omega)
          refine ⟨e.run.cursor :: visits, .goesOn hmove later, ?_⟩
          rwa [List.append_cons]
      · next run world' hmove => exact ⟨_, .stops hmove, here⟩
      · next run error world' hmove => exact ⟨_, .fails hmove, here⟩

theorem acyclic (e : Engine) : e.graph.Acyclic := by
  obtain ⟨_, _, wf⟩ := Graph.wellFormed_of_isAccepted e.accepted
  exact wf.acyclic

/-- An advance does all that it would do without a bound, and visits no place twice. -/
theorem exists_advances (c : Collaborators World) (e : Engine) (world : World) :
    ∃ visits, Advances c e world visits (e.advance c world) ∧ visits.Nodup := by
  by_cases hopen : e.run.IsOpen
  · rw [advance_of_open hopen]
    obtain ⟨visits, moves, distinct⟩ := moves_of_enough c e.maxMoves e.begun world e.acyclic []
      (List.nil_subset _) List.nodup_nil (by simp) (by simp [begun, maxMoves])
    exact ⟨visits, .moves hopen moves, distinct⟩
  · rw [advance_of_not_open hopen]
    exact ⟨[], .refused hopen, List.nodup_nil⟩

/-! ## Calls -/

/-- An advance that hands out the call of a tool has come to the step of that tool. -/
theorem Moves.called {visits : List Cursor} {o : Outcome World RunStatus} {invocation : Invocation}
    (h : Moves c e world visits o) (result : o.result = .ok (.awaitingTool invocation)) :
    o.engine.graph = e.graph ∧ o.engine.run.status = .awaitingTool invocation ∧
      o.engine.run.cursor = .enter invocation.step ∧ invocation.step ∈ e.graph.toolIds ∧
      Relation.ReflTransGen e.graph.Next e.run.cursor (.enter invocation.step) := by
  induction h with
  | @stops e world world' run hmove =>
      have status : run.status = .awaitingTool invocation := Except.ok.inj result
      have made := moved c e world
      rw [hmove] at made
      cases made with
      | finished _ _ _ => cases status
      | @called step tool parameters resolved hstep hcursor hact _ =>
          cases status
          have is_tool : step.tool?.isSome = true := by rw [Step.tool?, hact]; rfl
          exact ⟨rfl, rfl, hcursor, Graph.mem_toolIds hstep is_tool, by rw [hcursor]⟩
      | undecided _ _ _ => cases status
  | fails _ => cases result
  | @goesOn e world world' run visits o hmove _ ih =>
      have made := moved c e world
      rw [hmove] at made
      obtain ⟨graph_eq, status, cursor, tool, further⟩ := ih result
      exact ⟨graph_eq, status, cursor, tool, .head made.next further⟩

theorem Advances.called {visits : List Cursor} {o : Outcome World RunStatus}
    {invocation : Invocation} (h : Advances c e world visits o)
    (result : o.result = .ok (.awaitingTool invocation)) :
    o.engine.graph = e.graph ∧ o.engine.run.status = .awaitingTool invocation ∧
      o.engine.run.cursor = .enter invocation.step ∧ invocation.step ∈ e.graph.toolIds ∧
      Relation.ReflTransGen e.graph.Next e.run.cursor (.enter invocation.step) := by
  cases h with
  | refused _ => cases result
  | moves _ moves => exact moves.called result

theorem resume_eq_ok {outputs : Fields} {invocation : Invocation} {e' : Engine}
    (h : e.run.status = .awaitingTool invocation) (resumed : e.resume outputs = (.ok (), e')) :
    e' = e.withRun { e.run.complete invocation.step outputs with status := .running } := by
  unfold resume at resumed
  rw [h] at resumed
  dsimp only at resumed
  split at resumed
  · exact (Prod.mk.inj resumed).2.symm
  · cases resumed

end Engine

/-! ## Driving without a bound -/

namespace Runner

open Engine

/-- What a drive comes to when it has handled the outcome of an advance. -/
inductive Handled (World : Type) where
  | ends (calls : List Invocation) (last : Engine × World)
  | goesOn (invocation : Invocation) (e : Engine) (world : World)

/-- One turn of the loop of a drive: if the advanced run waits for a tool, the tool is called and
its result is handed in. -/
def handle (r : Runner World) (o : Outcome World RunStatus) : Handled World :=
  match o.result with
  | .ok (.awaitingTool invocation) =>
      match r.dispatch invocation o.world with
      | (.ok outputs, world) =>
          match o.engine.resume outputs with
          | (.ok _, e) => .goesOn invocation e world
          | (.error _, e) => .ends [invocation] (e, world)
      | (.error message, world) => .ends [invocation] ((o.engine.failTool message).2, world)
  | _ => .ends [] (o.engine, o.world)

/-- The loop of a drive: advances are made and handled until one of them ends it. The calls that are
made are listed. -/
inductive Drives (r : Runner World) :
    Engine → World → List Invocation → Engine × World → Prop where
  | ends {e : Engine} {world : World} {visits : List Cursor} {o : Outcome World RunStatus}
      {calls : List Invocation} {last : Engine × World} :
      Advances r.collaborators e world visits o →
      r.handle o = .ends calls last → Drives r e world calls last
  | goesOn {e e' : Engine} {world world' : World} {visits : List Cursor}
      {o : Outcome World RunStatus} {invocation : Invocation} {calls : List Invocation}
      {last : Engine × World} : Advances r.collaborators e world visits o →
      r.handle o = .goesOn invocation e' world' → Drives r e' world' calls last →
      Drives r e world (invocation :: calls) last

variable {r : Runner World} {e : Engine} {world : World}

theorem Drives.unique {calls calls' : List Invocation} {last last' : Engine × World}
    (h : Drives r e world calls last) (k : Drives r e world calls' last') :
    calls = calls' ∧ last = last' := by
  induction h generalizing calls' with
  | ends advances handled =>
      cases k with
      | ends advances' handled' =>
          obtain ⟨_, rfl⟩ := advances.unique advances'
          cases handled.symm.trans handled'
          exact ⟨rfl, rfl⟩
      | goesOn advances' handled' _ =>
          obtain ⟨_, rfl⟩ := advances.unique advances'
          cases handled.symm.trans handled'
  | goesOn advances handled _ ih =>
      cases k with
      | ends advances' handled' =>
          obtain ⟨_, rfl⟩ := advances.unique advances'
          cases handled.symm.trans handled'
      | goesOn advances' handled' later =>
          obtain ⟨_, rfl⟩ := advances.unique advances'
          cases handled.symm.trans handled'
          obtain ⟨rfl, rfl⟩ := ih later
          exact ⟨rfl, rfl⟩

/-- With a call left, a drive handles the outcome of its advance as the loop does. -/
theorem takeUp_succ (calls : Nat) (o : Outcome World RunStatus) :
    r.takeUp (calls + 1) o =
      match r.handle o with
      | .ends _ last => last
      | .goesOn _ e world => r.driveWithin calls e world := by
  unfold takeUp handle
  cases o.result with
  | error _ => rfl
  | ok status =>
      cases status with
      | awaitingTool invocation =>
          dsimp only
          rcases r.dispatch invocation o.world with ⟨_ | outputs, world⟩
          · rfl
          · dsimp only
            rcases o.engine.resume outputs with ⟨_ | _, e⟩ <;> rfl
      | _ => rfl

theorem handle_of_settled {o : Outcome World RunStatus}
    (h : ∀ invocation, o.result ≠ .ok (.awaitingTool invocation)) :
    r.handle o = .ends [] (o.engine, o.world) := by
  unfold handle
  split
  · next invocation result => exact absurd result (h invocation)
  · rfl

/-- The tool that is waited for is called, and the loop goes on if its result is accepted. -/
theorem handle_cases {o : Outcome World RunStatus} {invocation : Invocation}
    (h : o.result = .ok (.awaitingTool invocation)) :
    (∃ last, r.handle o = .ends [invocation] last) ∨
      ∃ outputs e world, o.engine.resume outputs = (.ok (), e) ∧
        r.handle o = .goesOn invocation e world := by
  unfold handle
  rw [h]
  dsimp only
  split
  · split
    · next resumed => exact .inr ⟨_, _, _, resumed, rfl⟩
    · exact .inl ⟨_, rfl⟩
  · exact .inl ⟨_, rfl⟩

/-- The step that an advance comes to is not among those that were passed before. -/
theorem fresh_of_called {c : Collaborators World} {visits : List Cursor}
    {o : Outcome World RunStatus} {invocation : Invocation} (advances : Advances c e world visits o)
    (result : o.result = .ok (.awaitingTool invocation)) {called : List String}
    (known : called ⊆ e.graph.toolIds) (different : called.Nodup)
    (before : ∀ id ∈ called, Relation.TransGen e.graph.Next (.enter id) e.run.cursor) :
    called ++ [invocation.step] ⊆ e.graph.toolIds ∧ (called ++ [invocation.step]).Nodup ∧
      ∀ id ∈ called ++ [invocation.step],
        Relation.TransGen e.graph.Next (.enter id) (.leave invocation.step) := by
  obtain ⟨_, _, _, tool, further⟩ := advances.called result
  have fresh : invocation.step ∉ called := fun again =>
    e.acyclic.not_further ((before _ again).trans_left further)
  have next : e.graph.Next (.enter invocation.step) (.leave invocation.step) :=
    .executed (Graph.contains_of_mem_toolIds tool)
  refine ⟨List.append_subset.2 ⟨known, List.cons_subset.2 ⟨tool, List.nil_subset _⟩⟩,
    List.Nodup.append different (List.nodup_singleton _) (List.disjoint_singleton.2 fresh), ?_⟩
  intro id hid
  rcases List.mem_append.1 hid with hid | hid
  · exact ((before id hid).trans_left further).tail next
  · obtain rfl := List.mem_singleton.1 hid
    exact .single next

/-- With a call for each step that calls a tool, a drive is never cut off. The steps in `called`
were passed before. -/
theorem drives_of_enough (r : Runner World) (calls : Nat) (e : Engine) (world : World)
    (called : List String) (known : called ⊆ e.graph.toolIds) (different : called.Nodup)
    (before : ∀ id ∈ called, Relation.TransGen e.graph.Next (.enter id) e.run.cursor)
    (enough : e.graph.toolIds.length ≤ called.length + calls) :
    ∃ made, Drives r e world made (r.driveWithin calls e world) ∧
      called.length + made.length ≤ e.graph.toolIds.length := by
  obtain ⟨visits, advances, _⟩ := exists_advances r.collaborators e world
  have passed := (different.subperm known).length_le
  by_cases waiting : ∃ invocation,
      (e.advance r.collaborators world).result = .ok (.awaitingTool invocation)
  · obtain ⟨invocation, result⟩ := waiting
    obtain ⟨graph_eq, status, _⟩ := advances.called result
    obtain ⟨known', different', before'⟩ := fresh_of_called advances result known different before
    have room := (different'.subperm known').length_le
    rw [List.length_append, List.length_singleton] at room
    cases calls with
    | zero => omega
    | succ calls =>
        rw [driveWithin_eq_takeUp, takeUp_succ]
        rcases handle_cases (r := r) result with
          ⟨last, handled⟩ | ⟨outputs, e', world', resumed, handled⟩
        · rw [handled]
          exact ⟨_, .ends advances handled, room⟩
        · rw [handled]
          have after := resume_eq_ok status resumed
          have graph_after : e'.graph = e.graph := by rw [after, graph_withRun, graph_eq]
          have cursor_after : e'.run.cursor = .leave invocation.step := by rw [after]; rfl
          obtain ⟨made, drives, bound⟩ := drives_of_enough r calls e' world'
            (called ++ [invocation.step]) (by rwa [graph_after]) different'
            (by rwa [graph_after, cursor_after])
            (by rw [graph_after, List.length_append, List.length_singleton]; omega)
          rw [graph_after, List.length_append, List.length_singleton] at bound
          refine ⟨_, .goesOn advances handled drives, ?_⟩
          rw [List.length_cons]
          omega
  · have settled := not_exists.1 waiting
    have handled := handle_of_settled (r := r) settled
    refine ⟨[], ?_, passed⟩
    rw [driveWithin_of_settled settled]
    exact .ends advances handled

end Runner

/-- Whatever the record of a run says, an advance visits each step at most once when it enters and
at most once when it leaves steps, and a drive calls no more tools than there are steps that call
some. Both come to one end, which is the one that the bounded loops come to. -/
theorem Engine.loops_end (e : Engine) :
    (∀ {World : Type} (c : Collaborators World) (world : World), ∃ visits,
        (∀ visits' o, Advances c e world visits' o ↔ visits' = visits ∧ o = e.advance c world) ∧
          ∀ id, visits.count (.enter id) ≤ 1 ∧ visits.count (.leave id) ≤ 1) ∧
      ∀ {World : Type} (r : Runner World) (world : World), ∃ calls,
        (∀ calls' last, r.Drives e world calls' last ↔ calls' = calls ∧ last = r.drive e world) ∧
          calls.length ≤ (e.graph.stepList.filter fun step => step.tool?.isSome).length := by
  constructor
  · intro World c world
    obtain ⟨visits, advances, different⟩ := exists_advances c e world
    refine ⟨visits, fun visits' o => ⟨fun other => other.unique advances, ?_⟩, fun id => ?_⟩
    · rintro ⟨rfl, rfl⟩
      exact advances
    · exact ⟨List.nodup_iff_count_le_one.1 different _, List.nodup_iff_count_le_one.1 different _⟩
  · intro World r world
    obtain ⟨calls, drives, bound⟩ := Runner.drives_of_enough r e.graph.steps.size e world []
      (List.nil_subset _) List.nodup_nil (by simp)
      (Nat.le_trans e.graph.length_toolIds_le (Nat.le_add_left _ _))
    refine ⟨calls, fun calls' last => ⟨fun other => other.unique drives, ?_⟩, ?_⟩
    · rintro ⟨rfl, rfl⟩
      exact drives
    · simpa [Graph.toolIds] using bound

/-- A record that says of a run that it is running behind its final step is restored, and the run
then waits for a choice between no labels. -/
example :
    (match Engine.restore forecast forecastSchemas
        { Run.start "run" "today" "ask" with cursor := .leave "end", status := .running } with
      | .ok e => (e.advance Engine.unattended ()).engine.run.status.name
      | .error _ => "") = "awaiting_branch" := by
  decide +kernel

end Workflow
