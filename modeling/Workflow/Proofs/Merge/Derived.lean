import Workflow.Proofs.Merge.Merged
import Workflow.Proofs.Validation.Kinds

/-!
# Derived dependencies

A producer of an artifact is looked for three times: among the fragments before the reader when
dependencies are derived, among those up to the reader when a plan is validated, and among all of
them, the first one to be taken, when artifacts are bound. The searches agree: if a fragment before
the reader offers the artifact, the first offer of all is the first one before the reader, and if
there is none, either the reader itself makes the first offer or the artifact is reported.

Main statement: `derived_dependencies_agree_with_binding`.
-/

namespace Workflow

/-! ## Specification -/

/-- A fragment before the position offers the artifact. -/
def OfferedBefore (fragments : List Fragment) (position : Nat) (artifact : String) : Prop :=
  ∃ (p : Nat) (producer : Fragment), p < position ∧ fragments[p]? = some producer ∧
    producer.producesArtifact artifact = true

/-- Whether the dependency is the one of a reader on an artifact. -/
def Dependency.brings (d : Dependency) (artifact : String) (reader : Fragment) : Bool :=
  d.artifact = artifact ∧ d.consumer = reader.name

theorem Dependency.brings_iff (d : Dependency) (artifact : String) (reader : Fragment) :
    d.brings artifact reader = true ↔ d.artifact = artifact ∧ d.consumer = reader.name :=
  decide_eq_true_iff

/-! ## Which dependencies are derived -/

theorem mem_dependenciesOn_iff (earlier : List Fragment) (reader : Fragment) (d : Dependency) :
    d ∈ dependenciesOn earlier reader ↔
      d.artifact ∈ reader.consumedArtifacts ∧ reader.name = d.consumer ∧
        ∃ producer, earlier.find? (·.producesArtifact d.artifact) = some producer ∧
          producer.name = d.producer := by
  simp only [dependenciesOn, List.mem_filterMap, Option.map_eq_some_iff]
  constructor
  · rintro ⟨artifact, hread, producer, hfind, rfl⟩
    exact ⟨hread, rfl, producer, hfind, rfl⟩
  · rintro ⟨hread, hreader, producer, hfind, hproducer⟩
    exact ⟨d.artifact, hread, producer, hfind, by rw [hreader, hproducer]⟩

theorem mem_deriveDependenciesAfter_iff (earlier fragments : List Fragment) (d : Dependency) :
    d ∈ deriveDependenciesAfter earlier fragments ↔
      ∃ c reader, fragments[c]? = some reader ∧
        d ∈ dependenciesOn (earlier ++ fragments.take c) reader := by
  induction fragments generalizing earlier with
  | nil => simp [deriveDependenciesAfter]
  | cons fragment rest ih =>
      rw [deriveDependenciesAfter, List.mem_append, ih]
      constructor
      · rintro (here | ⟨c, reader, hc, there⟩)
        · exact ⟨0, fragment, rfl, by simpa using here⟩
        · exact ⟨c + 1, reader, by simpa using hc, by simpa using there⟩
      · rintro ⟨c, reader, hc, h⟩
        cases c with
        | zero =>
            obtain rfl : fragment = reader := by simpa using hc
            exact .inl (by simpa using h)
        | succ c => exact .inr ⟨c, reader, by simpa using hc, by simpa using h⟩

theorem mem_deriveDependencies_iff (fragments : List Fragment) (d : Dependency) :
    d ∈ deriveDependencies fragments ↔
      ∃ c reader, fragments[c]? = some reader ∧ d ∈ dependenciesOn (fragments.take c) reader :=
  mem_deriveDependenciesAfter_iff [] fragments d

/-- A fragment has one dependency for an artifact that it reads and that one before offers. -/
theorem countP_dependenciesOn (earlier : List Fragment) (reader : Fragment) (artifact : String) :
    (dependenciesOn earlier reader).countP (·.brings artifact reader) =
      if artifact ∈ reader.consumedArtifacts ∧
        (earlier.find? (·.producesArtifact artifact)).isSome = true then 1 else 0 := by
  have brought : ∀ a, (((earlier.find? (·.producesArtifact a)).map fun producer =>
      (⟨a, producer.name, reader.name⟩ : Dependency)).map (·.brings artifact reader)).getD false =
        (a == artifact && (earlier.find? (·.producesArtifact artifact)).isSome) := by
    intro a
    by_cases ha : a = artifact
    · subst ha
      cases earlier.find? (·.producesArtifact a) <;> simp [Dependency.brings]
    · cases earlier.find? (·.producesArtifact a) <;> simp [Dependency.brings, ha]
  rw [dependenciesOn, List.countP_filterMap]
  simp only [brought]
  cases (earlier.find? (·.producesArtifact artifact)).isSome with
  | false => simp
  | true =>
      simp only [Bool.and_true, and_true]
      exact (nodup_sortedNames _).count

/-- The dependencies of other fragments bring nothing to a reader. -/
theorem countP_eq_zero_of_consumer_ne {l : List Dependency} {reader : Fragment} (artifact : String)
    (h : ∀ d ∈ l, d.consumer ≠ reader.name) : l.countP (·.brings artifact reader) = 0 := by
  refine List.countP_eq_zero.2 fun d hd hbrings => ?_
  exact h d hd ((d.brings_iff artifact reader).1 hbrings).2

theorem countP_deriveDependenciesAfter {earlier fragments : List Fragment} {c : Nat}
    {reader : Fragment} (distinct : (fragments.map (·.name)).Nodup)
    (hc : fragments[c]? = some reader) (artifact : String) :
    (deriveDependenciesAfter earlier fragments).countP (·.brings artifact reader) =
      (dependenciesOn (earlier ++ fragments.take c) reader).countP (·.brings artifact reader) := by
  induction fragments generalizing earlier c with
  | nil => cases hc
  | cons fragment rest ih =>
      obtain ⟨foreign, distinct⟩ := List.nodup_cons.1 distinct
      rw [deriveDependenciesAfter, List.countP_append]
      cases c with
      | zero =>
          obtain rfl : fragment = reader := by simpa using hc
          have later : ∀ d ∈ deriveDependenciesAfter (earlier ++ [fragment]) rest,
              d.consumer ≠ fragment.name := by
            intro d hd hname
            obtain ⟨i, other, hi, hd⟩ := (mem_deriveDependenciesAfter_iff _ _ d).1 hd
            obtain ⟨_, hother, _⟩ := (mem_dependenciesOn_iff _ _ d).1 hd
            exact foreign (List.mem_map.2 ⟨other, List.mem_of_getElem? hi, hother.trans hname⟩)
          rw [countP_eq_zero_of_consumer_ne artifact later, Nat.add_zero, List.take_zero,
            List.append_nil]
      | succ c =>
          rw [List.getElem?_cons_succ] at hc
          have here : ∀ d ∈ dependenciesOn earlier fragment, d.consumer ≠ reader.name := by
            intro d hd hname
            obtain ⟨_, hfragment, _⟩ := (mem_dependenciesOn_iff _ _ d).1 hd
            exact foreign (List.mem_map.2
              ⟨reader, List.mem_of_getElem? hc, (hfragment.trans hname).symm⟩)
          rw [countP_eq_zero_of_consumer_ne artifact here, Nat.zero_add, ih distinct hc,
            List.take_succ_cons, List.append_assoc, List.singleton_append]

/-! ## The three searches -/

variable {fragments : List Fragment}

theorem offeredBefore_iff (position : Nat) (artifact : String) :
    OfferedBefore fragments position artifact ↔
      ((fragments.take position).find? (·.producesArtifact artifact)).isSome = true := by
  rw [List.find?_isSome]
  constructor
  · rintro ⟨p, producer, hlt, hp, offers⟩
    refine ⟨producer, List.mem_of_getElem? (i := p) ?_, offers⟩
    rwa [List.getElem?_take_of_lt hlt]
  · rintro ⟨producer, hmem, offers⟩
    obtain ⟨p, hlt, rfl⟩ := List.mem_take_iff_getElem.1 hmem
    exact ⟨p, _, by omega, List.getElem?_eq_getElem (by omega), offers⟩

/-- The first fragment before a position that offers an artifact makes the first offer of all. -/
theorem firstOffer?_of_find?_take {position : Nat} {artifact : String} {producer : Fragment}
    (h : (fragments.take position).find? (·.producesArtifact artifact) = some producer) :
    ∃ p binding, p < position ∧ fragments[p]? = some producer ∧
      firstOffer? fragments artifact = some (p, binding) := by
  obtain ⟨offers, p, hlt, hp, first⟩ := List.find?_eq_some_iff_getElem.1 h
  rw [List.length_take] at hlt
  rw [List.getElem_take] at hp
  obtain ⟨binding, hbinding⟩ := Option.isSome_iff_exists.1 offers
  have place : fragments[p]? = some producer := by
    rw [List.getElem?_eq_getElem (by omega), hp]
  refine ⟨p, binding, by omega, place,
    (firstOffer?_eq_some_iff ..).2 ⟨producer, place, hbinding, ?_⟩⟩
  intro q earlier hq hearlier
  have before := first q hq
  rw [List.getElem_take, (List.getElem?_eq_some_iff.1 hearlier).2] at before
  simpa using before

theorem noProducer_mem_consumptionFindings {earlier : List Fragment} {c : Nat} {reader : Fragment}
    {artifact : String} (hc : fragments[c]? = some reader)
    (hread : artifact ∈ reader.consumedArtifacts)
    (unoffered : ∀ other ∈ earlier ++ fragments.take (c + 1),
      other.producesArtifact artifact = false) :
    ∃ later, .noProducer reader.name artifact (reader.consumingSteps artifact) later ∈
      consumptionFindings earlier fragments := by
  induction fragments generalizing earlier c with
  | nil => cases hc
  | cons fragment rest ih =>
      cases c with
      | zero =>
          obtain rfl : fragment = reader := by simpa using hc
          have nobody : (!(earlier ++ [fragment]).any (·.producesArtifact artifact)) = true := by
            rw [Bool.not_eq_true', List.any_eq_false]
            intro other hother
            rw [unoffered other (by simpa using hother)]
            exact Bool.false_ne_true
          have reported : artifact ∈ fragment.consumedArtifacts.filter fun a =>
              !(earlier ++ [fragment]).any (·.producesArtifact a) :=
            List.mem_filter.2 ⟨hread, nobody⟩
          exact ⟨_, List.mem_append_left _ (List.mem_map.2 ⟨artifact, reported, rfl⟩)⟩
      | succ c =>
          have still : ∀ other ∈ (earlier ++ [fragment]) ++ rest.take (c + 1),
              other.producesArtifact artifact = false :=
            fun other hother => unoffered other (by simpa using hother)
          obtain ⟨later, hlater⟩ := ih (by simpa using hc) still
          exact ⟨later, List.mem_append_right _ hlater⟩

/-! ## Derived dependencies -/

/-- Everything about a derived dependency: who reads, who offers, and where the artifact
is bound. -/
theorem exists_of_mem_deriveDependencies {d : Dependency} (h : d ∈ deriveDependencies fragments) :
    ∃ c reader p producer binding, fragments[c]? = some reader ∧ reader.name = d.consumer ∧
      reader.Reads d.artifact ∧ p < c ∧ fragments[p]? = some producer ∧
      producer.name = d.producer ∧ firstOffer? fragments d.artifact = some (p, binding) := by
  obtain ⟨c, reader, hc, hd⟩ := (mem_deriveDependencies_iff fragments d).1 h
  obtain ⟨hread, hreader, producer, hfind, hproducer⟩ := (mem_dependenciesOn_iff _ _ d).1 hd
  obtain ⟨p, binding, hlt, hp, hoffer⟩ := firstOffer?_of_find?_take hfind
  exact ⟨c, reader, p, producer, binding, hc, hreader, (reader.reads_iff d.artifact).2 hread, hlt,
    hp, hproducer, hoffer⟩

theorem countP_deriveDependencies (distinct : (fragments.map (·.name)).Nodup) {c : Nat}
    {reader : Fragment} (hc : fragments[c]? = some reader) {artifact : String}
    (hread : reader.Reads artifact) (offered : OfferedBefore fragments c artifact) :
    (deriveDependencies fragments).countP (·.brings artifact reader) = 1 := by
  rw [deriveDependencies, countP_deriveDependenciesAfter distinct hc, List.nil_append,
    countP_dependenciesOn, if_pos]
  exact ⟨(reader.reads_iff artifact).1 hread, (offeredBefore_iff c artifact).1 offered⟩

theorem dependencyFindings_of_mem_deriveDependencies (distinct : (fragments.map (·.name)).Nodup)
    {d : Dependency} (h : d ∈ deriveDependencies fragments) :
    dependencyFindings fragments d = [] := by
  obtain ⟨c, reader, p, producer, binding, hc, hreader, _, hlt, hp, hproducer, hoffer⟩ :=
    exists_of_mem_deriveDependencies h
  have reads_at := (fragmentPosition?_eq_some_iff distinct d.consumer c).2 ⟨reader, hc, hreader⟩
  have offers_at :=
    (fragmentPosition?_eq_some_iff distinct d.producer p).2 ⟨producer, hp, hproducer⟩
  obtain ⟨_, hp', hbinding, _⟩ := (firstOffer?_eq_some_iff ..).1 hoffer
  obtain rfl := Option.some.inj (hp.symm.trans hp')
  have offers : producer.producesArtifact d.artifact = true :=
    Option.isSome_iff_exists.2 ⟨_, hbinding⟩
  simp only [dependencyFindings, reads_at, offers_at]
  rw [if_neg (Nat.not_le.2 hlt), hp, Option.any_some, if_pos offers, List.append_nil]

/-- An artifact that is not offered before its reader is offered by the reader, or reported. -/
theorem bound_or_reported {c : Nat} {reader : Fragment} {artifact : String}
    (hc : fragments[c]? = some reader) (hread : reader.Reads artifact)
    (unoffered : ¬ OfferedBefore fragments c artifact) :
    (∃ source, (artifactTable fragments).source? artifact = some source ∧ source.fragment = c) ∨
      ∀ schemas dependencies, ∃ later,
        .noProducer reader.name artifact (reader.consumingSteps artifact) later ∈
          (validatePlan schemas fragments dependencies).violations := by
  have first : ∀ (q : Nat) (earlier : Fragment), q < c → fragments[q]? = some earlier →
      earlier.producesArtifact artifact = false := by
    intro q earlier hq hearlier
    by_contra offers
    exact unoffered ⟨q, earlier, hq, hearlier, by simpa using offers⟩
  cases offers : reader.producesArtifact artifact with
  | true =>
      obtain ⟨binding, hbinding⟩ := Option.isSome_iff_exists.1 offers
      have hoffer := (firstOffer?_eq_some_iff ..).2 ⟨reader, hc, hbinding, first⟩
      exact .inl ⟨_, source?_of_firstOffer hc hoffer, rfl⟩
  | false =>
      refine .inr fun schemas dependencies => ?_
      have nobody : ∀ other ∈ [] ++ fragments.take (c + 1),
          other.producesArtifact artifact = false := by
        intro other hother
        obtain ⟨q, hq, rfl⟩ := List.mem_take_iff_getElem.1 hother
        have hget : fragments[q]? = some fragments[q] := List.getElem?_eq_getElem (by omega)
        rcases Nat.lt_or_ge q c with hlt | hge
        · exact first q _ hlt hget
        · obtain rfl : q = c := by omega
          rwa [Option.some.inj (hget.symm.trans hc)]
      obtain ⟨later, hlater⟩ :=
        noProducer_mem_consumptionFindings hc ((reader.reads_iff artifact).1 hread) nobody
      have nonempty : fragments ≠ [] := by
        rintro rfl
        cases hc
      refine ⟨later, ?_⟩
      rw [validatePlan, if_neg (by simpa using nonempty)]
      exact List.mem_append_left _ (List.mem_append_left _ (List.mem_append_right _ hlater))

/-- In a plan whose fragments have different names, one dependency is derived for each artifact that
a fragment reads and that one before it offers, and no other. None of them is found invalid, and
each is on the fragment to which the artifact is bound. Where a fragment that reads an artifact has
no dependency for it, the artifact is bound to the fragment itself or reported as unresolved. -/
theorem derived_dependencies_agree_with_binding (schemas : Schemas)
    (distinct : (fragments.map (·.name)).Nodup) :
    (∀ (c : Nat) (reader : Fragment), fragments[c]? = some reader → ∀ artifact,
      reader.Reads artifact → OfferedBefore fragments c artifact →
        (deriveDependencies fragments).countP (·.brings artifact reader) = 1) ∧
    (∀ d ∈ deriveDependencies fragments, ∃ (c : Nat) (reader : Fragment),
      fragments[c]? = some reader ∧ reader.name = d.consumer ∧ reader.Reads d.artifact ∧
        OfferedBefore fragments c d.artifact) ∧
    (validatePlan schemas fragments (deriveDependencies fragments)).ofKind .invalidDependency = [] ∧
    (∀ d ∈ deriveDependencies fragments, ∃ source producer,
      (artifactTable fragments).source? d.artifact = some source ∧
        fragments[source.fragment]? = some producer ∧ producer.name = d.producer) ∧
    ∀ (c : Nat) (reader : Fragment), fragments[c]? = some reader → ∀ artifact,
      reader.Reads artifact →
      (deriveDependencies fragments).countP (·.brings artifact reader) = 0 →
        (∃ source, (artifactTable fragments).source? artifact = some source ∧ source.fragment = c) ∨
        ∀ dependencies,
          ∃ v ∈ (validatePlan schemas fragments dependencies).ofKind .unresolvedArtifact,
            ∃ later,
              v = .noProducer reader.name artifact (reader.consumingSteps artifact) later := by
  refine ⟨fun c reader hc artifact => countP_deriveDependencies distinct hc, fun d hd => ?_, ?_,
    fun d hd => ?_, fun c reader hc artifact hread none_brings => ?_⟩
  · obtain ⟨c, reader, p, producer, binding, hc, hreader, hread, hlt, hp, _, hoffer⟩ :=
      exists_of_mem_deriveDependencies hd
    obtain ⟨_, hp', hbinding, _⟩ := (firstOffer?_eq_some_iff ..).1 hoffer
    exact ⟨c, reader, hc, hreader, hread, p, _, hlt, hp', Option.isSome_iff_exists.2 ⟨_, hbinding⟩⟩
  · by_cases nonempty : fragments = []
    · subst nonempty
      rfl
    · rw [ofKind_invalidDependency_validatePlan nonempty, List.flatMap_eq_nil_iff]
      exact fun d hd => dependencyFindings_of_mem_deriveDependencies distinct hd
  · obtain ⟨c, reader, p, producer, binding, _, _, _, _, hp, hproducer, hoffer⟩ :=
      exists_of_mem_deriveDependencies hd
    exact ⟨_, producer, source?_of_firstOffer hp hoffer, hp, hproducer⟩
  · have unoffered : ¬ OfferedBefore fragments c artifact := by
      intro offered
      rw [countP_deriveDependencies distinct hc hread offered] at none_brings
      cases none_brings
    refine (bound_or_reported hc hread unoffered).imp_right fun reported dependencies => ?_
    obtain ⟨later, hlater⟩ := reported schemas dependencies
    exact ⟨_, List.mem_filter.2 ⟨hlater, rfl⟩, later, rfl⟩

/-- The last reader of a relay has one dependency for the word, on the fragment to which it is
bound. -/
theorem relay_brings_word_once :
    (relay.map (·.name)).Nodup ∧ OfferedBefore relay 2 "word" ∧
      (deriveDependencies relay).countP (·.brings "word"
        (questionFragment "rhyme" "What rhymes with \x7bword\x7d?" none ["word"])) = 1 ∧
      (validatePlan (fun _ => none) relay (deriveDependencies relay)).ofKind .invalidDependency =
        [] ∧
      ∃ source producer, (artifactTable relay).source? "word" = some source ∧
        relay[source.fragment]? = some producer ∧ producer.name = "think" := by
  have distinct : (relay.map (·.name)).Nodup := by decide +kernel
  have offered : OfferedBefore relay 2 "word" := ⟨0, relay[0], by decide, rfl, by decide +kernel⟩
  have edge : (⟨"word", "think", "rhyme"⟩ : Dependency) ∈ deriveDependencies relay := by
    decide +kernel
  obtain ⟨once, _, valid, bound, _⟩ :=
    derived_dependencies_agree_with_binding (fun _ => none) distinct
  exact ⟨distinct, offered, once 2 _ rfl "word" (.inl (List.mem_singleton_self _)) offered, valid,
    bound _ edge⟩

end Workflow
