import Mathlib.Data.Finset.Card
import Workflow.Merge.Wiring
import Workflow.Proofs.Graph.Walk

/-!
# Following redirections

A chain of redirections that climbs, by whatever measure, cannot come back to where it has been. So
it ends before all redirections are used up, at a step that is not redirected, and a graph in which
the redirected steps are taken out one by one has its transitions led to the ends of the chains, in
whatever order that is done.

Main statements: `endsAt_of_size_lt`, `step?_redirect`, `redirect_names_no_redirected` and
`foldl_rewirings`.
-/

namespace Workflow

/-! ## Chains -/

/-- The chain of redirections from `id` ends at `last`. -/
inductive EndsAt (redirects : Dict String) (last : String) : String → Prop where
  | here : redirects.get? last = none → EndsAt redirects last last
  | next {id target : String} : redirects.get? id = some target → EndsAt redirects last target →
      EndsAt redirects last id

/-- Where the chain of redirections from `id` leads. -/
def landing (redirects : Dict String) (id : String) : String :=
  followRedirects redirects (redirects.size + 1) id

section Chains

variable {redirects : Dict String} {id target last last' : String}

theorem EndsAt.not_redirected (h : EndsAt redirects last id) : redirects.get? last = none := by
  induction h with
  | here hnone => exact hnone
  | next _ _ ih => exact ih

/-- A chain has one end. -/
theorem EndsAt.unique (h : EndsAt redirects last id) (h' : EndsAt redirects last' id) :
    last = last' := by
  induction h with
  | here hnone =>
      cases h' with
      | here _ => rfl
      | next hsome _ =>
          rw [hnone] at hsome
          cases hsome
  | next hsome _ ih =>
      cases h' with
      | here hnone =>
          rw [hnone] at hsome
          cases hsome
      | next hsome' h' =>
          rw [hsome] at hsome'
          cases hsome'
          exact ih h'

/-- With as much fuel as there are keys at least as high as its start, a climbing chain is followed
to its end. -/
theorem endsAt_followRedirects (height : String → Nat)
    (climbs : ∀ id target, redirects.get? id = some target → height id < height target)
    (fuel : Nat) (id : String)
    (enough : (redirects.keys.toFinset.filter fun k => height id ≤ height k).card < fuel) :
    EndsAt redirects (followRedirects redirects fuel id) id := by
  induction fuel generalizing id with
  | zero => exact absurd enough (Nat.not_lt_zero _)
  | succ fuel ih =>
      rw [followRedirects]
      cases h : redirects.get? id with
      | none => exact .here h
      | some target =>
          refine .next h (ih target (Nat.lt_of_lt_of_le ?_ (Nat.le_of_lt_succ enough)))
          have up := climbs id target h
          have is_key : id ∈ redirects.keys := (Dict.mem_keys_iff _ _).2 (by rw [h]; rfl)
          -- The keys as high as the target are fewer: `id` is not among them.
          refine Finset.card_lt_card (Finset.ssubset_iff_subset_ne.2 ⟨?_, fun heq => ?_⟩)
          · intro k hk
            obtain ⟨hmem, hle⟩ := Finset.mem_filter.1 hk
            exact Finset.mem_filter.2 ⟨hmem, by omega⟩
          · have hmem : id ∈ redirects.keys.toFinset.filter fun k => height id ≤ height k :=
              Finset.mem_filter.2 ⟨List.mem_toFinset.2 is_key, Nat.le_refl _⟩
            rw [← heq] at hmem
            have := (Finset.mem_filter.1 hmem).2
            omega

/-- A climbing chain needs no more fuel than there are redirections. -/
theorem endsAt_of_size_lt (height : String → Nat)
    (climbs : ∀ id target, redirects.get? id = some target → height id < height target)
    {fuel : Nat} (enough : redirects.size < fuel) (id : String) :
    EndsAt redirects (followRedirects redirects fuel id) id := by
  refine endsAt_followRedirects height climbs fuel id (Nat.lt_of_le_of_lt ?_ enough)
  calc (redirects.keys.toFinset.filter fun k => height id ≤ height k).card
      ≤ redirects.keys.toFinset.card := Finset.card_filter_le _ _
    _ ≤ redirects.keys.length := List.toFinset_card_le _
    _ = redirects.size := List.length_map _

theorem landing_of_not_redirected (h : redirects.get? id = none) : landing redirects id = id := by
  rw [landing, followRedirects, h]

/-- No chain ends at a redirected step. -/
theorem landing_ne (ends : ∀ id, redirects.get? (landing redirects id) = none) {old : String}
    (redirected : (redirects.get? old).isSome) (id : String) : landing redirects id ≠ old := by
  rintro rfl
  rw [ends] at redirected
  cases redirected

theorem landing_notMem (ends : ∀ id, redirects.get? (landing redirects id) = none)
    {olds : List String} (hsub : ∀ old ∈ olds, old ∈ redirects.keys) (id : String) :
    landing redirects id ∉ olds := by
  intro hmem
  exact landing_ne ends ((Dict.mem_keys_iff _ _).1 (hsub _ hmem)) id rfl

end Chains

/-! ## Redirected graphs -/

namespace Graph

variable {g : Graph}

theorem step?_retarget (g : Graph) (old new id : String) :
    (g.retarget old new).step? id = (g.step? id).map (Step.retarget old new) :=
  Dict.get?_map _ _ _

theorem step?_removeStep (g : Graph) (old id : String) :
    (g.removeStep old).step? id = if id = old then none else g.step? id :=
  Dict.get?_erase _ _ _

end Graph

/-- A name after everything that led to `old` has been led to `new`. -/
def ledFrom (old new id : String) : String := if id = old then new else id

theorem Step.retarget_eq_ledFrom (old new : String) (step : Step) :
    step.retarget old new =
      { step with
        transitions := step.transitions.map fun t =>
          { t with target := ledFrom old new t.target } } := by
  rw [Step.retarget]
  congr 1
  refine List.map_congr_left fun t _ => ?_
  rw [ledFrom]
  split <;> rfl

theorem Graph.entry_retarget (g : Graph) (old new : String) :
    (g.retarget old new).entry = g.entry.map (ledFrom old new) := by
  show (if g.entry = some old then some new else g.entry) = _
  cases g.entry with
  | none => rfl
  | some id =>
      rw [Option.map_some, ledFrom]
      simp only [Option.some.injEq]
      split <;> rfl

/-- The step with its transitions led to the ends of the chains. -/
def Step.redirect (redirects : Dict String) (step : Step) : Step :=
  { step with
    transitions := step.transitions.map fun t => { t with target := landing redirects t.target } }

/-- The step with those transitions led to the ends of their chains that go to one of `olds`. -/
def Step.redirectAmong (redirects : Dict String) (olds : List String) (step : Step) : Step :=
  { step with
    transitions := step.transitions.map fun t =>
      { t with target := if t.target ∈ olds then landing redirects t.target else t.target } }

section Redirect

variable {redirects : Dict String}

/-- Only redirected names are led anywhere. -/
theorem ite_mem_keys_landing (id : String) :
    (if id ∈ redirects.keys then landing redirects id else id) = landing redirects id := by
  split
  · rfl
  · next h =>
      rw [Dict.mem_keys_iff, Option.not_isSome_iff_eq_none] at h
      exact (landing_of_not_redirected h).symm

theorem Step.redirectAmong_keys :
    Step.redirectAmong redirects redirects.keys = Step.redirect redirects := by
  funext step
  simp only [Step.redirectAmong, Step.redirect, ite_mem_keys_landing]

/-- Leading away the transitions to one more step. -/
theorem Step.redirectAmong_retarget {old : String} {olds : List String}
    (kept : landing redirects old ∉ olds) (step : Step) :
    (step.retarget old (landing redirects old)).redirectAmong redirects olds =
      step.redirectAmong redirects (old :: olds) := by
  simp only [Step.redirectAmong, Step.retarget, List.map_map]
  congr 1
  refine List.map_congr_left fun t _ => ?_
  by_cases h : t.target = old
  · subst h
    simp [kept]
  · simp [h]

theorem Graph.step?_foldl_redirect (ends : ∀ id, redirects.get? (landing redirects id) = none)
    (olds : List String) (hsub : ∀ old ∈ olds, old ∈ redirects.keys) (g : Graph) (id : String) :
    (olds.foldl (fun g old => (g.retarget old (landing redirects old)).removeStep old) g).step? id =
      if id ∈ olds then none else (g.step? id).map (Step.redirectAmong redirects olds) := by
  induction olds generalizing g with
  | nil =>
      have unchanged : Step.redirectAmong redirects [] = fun step => step := by
        funext step
        simp [Step.redirectAmong]
      simp [unchanged]
  | cons old olds ih =>
      have hrest : ∀ x ∈ olds, x ∈ redirects.keys := fun x hx => hsub x (List.mem_cons_of_mem _ hx)
      have kept := landing_notMem ends hrest old
      rw [List.foldl_cons, ih hrest, step?_removeStep,
        step?_retarget]
      by_cases hold : id = old
      · simp [hold]
      · simp only [List.mem_cons, hold, false_or, if_false, Option.map_map]
        split
        · rfl
        · refine Option.map_congr fun step _ => ?_
          exact Step.redirectAmong_retarget kept step

/-- The redirected steps are gone, and the others lead to the ends of the chains. -/
theorem Graph.step?_redirect (ends : ∀ id, redirects.get? (landing redirects id) = none)
    (g : Graph) (id : String) :
    (g.redirect redirects).step? id =
      if (redirects.get? id).isSome then none else (g.step? id).map (Step.redirect redirects) := by
  have spec := step?_foldl_redirect ends redirects.keys (fun _ h => h) g id
  simp only [Step.redirectAmong_keys, Dict.mem_keys_iff] at spec
  exact spec

theorem Graph.entry_foldl_redirect (ends : ∀ id, redirects.get? (landing redirects id) = none)
    (olds : List String) (hsub : ∀ old ∈ olds, old ∈ redirects.keys) (g : Graph) :
    (olds.foldl (fun g old => (g.retarget old (landing redirects old)).removeStep old) g).entry =
      g.entry.map fun id => if id ∈ olds then landing redirects id else id := by
  induction olds generalizing g with
  | nil => simp
  | cons old olds ih =>
      have hrest : ∀ x ∈ olds, x ∈ redirects.keys := fun x hx => hsub x (List.mem_cons_of_mem _ hx)
      have kept := landing_notMem ends hrest old
      have removed (g : Graph) : (g.removeStep old).entry = g.entry := rfl
      rw [List.foldl_cons, ih hrest, removed,
        Graph.entry_retarget, Option.map_map]
      refine congrArg (Option.map · g.entry) (funext fun id => ?_)
      rw [Function.comp_apply, ledFrom]
      by_cases hold : id = old
      · subst hold
        simp [kept]
      · simp [hold]

/-- The entry is led to the end of its chain. -/
theorem Graph.entry_redirect (ends : ∀ id, redirects.get? (landing redirects id) = none)
    (g : Graph) : (g.redirect redirects).entry = g.entry.map (landing redirects) := by
  refine (entry_foldl_redirect ends redirects.keys (fun _ h => h) g).trans ?_
  simp only [ite_mem_keys_landing]

/-- Nothing in the redirected form of a graph names a step that was taken out. -/
theorem Graph.redirect_names_no_redirected
    (ends : ∀ id, redirects.get? (landing redirects id) = none) (g : Graph) {old : String}
    (redirected : (redirects.get? old).isSome) :
    (g.redirect redirects).contains old = false ∧
      (∀ step ∈ (g.redirect redirects).stepList, old ∉ step.targets) ∧
      (g.redirect redirects).entry ≠ some old := by
  refine ⟨?_, fun step hstep htarget => ?_, fun hentry => ?_⟩
  · have gone := Graph.step?_redirect ends g old
    rw [if_pos redirected] at gone
    show ((g.redirect redirects).step? old).isSome = false
    rw [gone]
    rfl
  · have found := (Graph.mem_stepList_iff _ step).1 hstep
    rw [Graph.step?_redirect ends] at found
    split at found
    · cases found
    · obtain ⟨before, -, rfl⟩ := Option.map_eq_some_iff.1 found
      rw [Step.targets, Step.redirect, List.map_map] at htarget
      obtain ⟨t, -, ht⟩ := List.mem_map.1 htarget
      exact landing_ne ends redirected t.target ht
  · rw [Graph.entry_redirect ends] at hentry
    obtain ⟨id, -, hid⟩ := Option.map_eq_some_iff.1 hentry
    exact landing_ne ends redirected id hid

end Redirect

/-! ## In any order -/

/-- One change of a graph on the way to its redirected form. -/
inductive Rewiring where
  | retarget (old new : String)
  | remove (old : String)

namespace Rewiring

/-- The graph after the change. -/
def apply (g : Graph) : Rewiring → Graph
  | .retarget old new => g.retarget old new
  | .remove old => g.removeStep old

end Rewiring

/-- All changes that a table of redirections asks for. -/
def rewirings (redirects : Dict String) : List Rewiring :=
  redirects.keys.flatMap fun old => [.retarget old (landing redirects old), .remove old]

theorem Graph.redirect_eq_foldl (g : Graph) (redirects : Dict String) :
    g.redirect redirects = (rewirings redirects).foldl Rewiring.apply g := by
  rw [rewirings, List.foldl_flatMap]
  rfl

section Order

variable {redirects : Dict String} {a b : String}

/-- What is led to the end of a chain is not led away from there. -/
theorem ledFrom_comm (ends : ∀ id, redirects.get? (landing redirects id) = none)
    (ha : (redirects.get? a).isSome) (hb : (redirects.get? b).isSome) :
    ledFrom b (landing redirects b) ∘ ledFrom a (landing redirects a) =
      ledFrom a (landing redirects a) ∘ ledFrom b (landing redirects b) := by
  have apart_a := landing_ne ends ha b
  have apart_b := landing_ne ends hb a
  ext1 id
  simp only [Function.comp_apply, ledFrom]
  by_cases hab : a = b
  · subst hab
    rfl
  · by_cases hida : id = a
    · subst hida
      simp [hab, apart_b]
    · by_cases hidb : id = b
      · subst hidb
        simp [hida, apart_a]
      · simp [hida, hidb]

theorem Step.retarget_comm (ends : ∀ id, redirects.get? (landing redirects id) = none)
    (ha : (redirects.get? a).isSome) (hb : (redirects.get? b).isSome) (step : Step) :
    (step.retarget a (landing redirects a)).retarget b (landing redirects b) =
      (step.retarget b (landing redirects b)).retarget a (landing redirects a) := by
  have led (id : String) := congrFun (ledFrom_comm ends ha hb) id
  simp only [Function.comp_apply] at led
  simp only [Step.retarget_eq_ledFrom, List.map_map, Function.comp_def, led]

theorem mem_rewirings_iff (change : Rewiring) :
    change ∈ rewirings redirects ↔
      ∃ old, (redirects.get? old).isSome ∧
        (change = .retarget old (landing redirects old) ∨ change = .remove old) := by
  simp [rewirings, Dict.mem_keys_iff]

/-- Any two of the changes may be made in either order. -/
theorem Rewiring.apply_comm (ends : ∀ id, redirects.get? (landing redirects id) = none)
    {first second : Rewiring} (hfirst : first ∈ rewirings redirects)
    (hsecond : second ∈ rewirings redirects) (g : Graph) :
    second.apply (first.apply g) = first.apply (second.apply g) := by
  obtain ⟨a, ha, hfirst⟩ := (mem_rewirings_iff first).1 hfirst
  obtain ⟨b, hb, hsecond⟩ := (mem_rewirings_iff second).1 hsecond
  rcases hfirst with rfl | rfl <;> rcases hsecond with rfl | rfl
  · -- Both lead away.
    refine Graph.eq_of_step? (fun id => ?_) ?_ rfl
    · simp only [Rewiring.apply, Graph.step?_retarget, Option.map_map]
      exact congrArg (Option.map · (g.step? id))
        (funext fun step => Step.retarget_comm ends ha hb step)
    · simp only [Rewiring.apply, Graph.entry_retarget, Option.map_map, ledFrom_comm ends ha hb]
  · refine Graph.eq_of_step? (fun id => ?_) rfl rfl
    simp only [Rewiring.apply, Graph.step?_retarget, Graph.step?_removeStep]
    split <;> rfl
  · refine Graph.eq_of_step? (fun id => ?_) rfl rfl
    simp only [Rewiring.apply, Graph.step?_retarget, Graph.step?_removeStep]
    split <;> rfl
  · -- Both take a step out.
    refine Graph.eq_of_step? (fun id => ?_) rfl rfl
    simp only [Rewiring.apply, Graph.step?_removeStep]
    by_cases hida : id = a <;> simp [hida]

/-- The redirected form of a graph does not depend on the order of the changes. -/
theorem Graph.foldl_rewirings (ends : ∀ id, redirects.get? (landing redirects id) = none)
    {changes : List Rewiring} (perm : changes.Perm (rewirings redirects)) (g : Graph) :
    changes.foldl Rewiring.apply g = g.redirect redirects := by
  rw [Graph.redirect_eq_foldl]
  refine perm.foldl_eq' (fun first hfirst second hsecond g => ?_) g
  exact Rewiring.apply_comm ends (perm.subset hfirst) (perm.subset hsecond) g

end Order

end Workflow
