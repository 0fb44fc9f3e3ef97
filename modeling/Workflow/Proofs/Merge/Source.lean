import Workflow.Proofs.Condition.Placeholders
import Workflow.Proofs.Merge.Derived

/-!
# Where a reader's artifacts come from

A dependency names the fragment that the reader of an artifact runs after. What the reader gets is
decided separately: the field that the first offer in the plan is bound to. The two are one fragment
where no fragment before the named one offers the artifact, which is so for all dependencies that
are derived from the plan; given ones may name a later offer, and then only the order follows them.

Main statement: `dependency_reads_first_offer`.
-/

namespace Workflow

/-! ## What a reader gets -/

/-- A derived dependency is on the first fragment of all that offers the artifact. -/
theorem first_of_derived {fragments : List Fragment} (nodup : (fragments.map (·.name)).Nodup)
    {d : Dependency} (h : d ∈ deriveDependencies fragments) {p : Nat} {producer : Fragment}
    (hp : fragments[p]? = some producer) (hname : producer.name = d.producer) (q : Nat)
    (earlier : Fragment) (hlt : q < p) (hq : fragments[q]? = some earlier) :
    earlier.producesArtifact d.artifact = false := by
  obtain ⟨_, _, first, _, _, _, _, _, _, place, hfirst, hoffer⟩ :=
    exists_of_mem_deriveDependencies h
  obtain rfl : p = first := eq_of_getElem?_name nodup hp place (hname.trans hfirst.symm)
  obtain ⟨_, _, _, none_before⟩ := (firstOffer?_eq_some_iff ..).1 hoffer
  exact none_before q earlier hlt hq

/-- Renaming the bare paths of a label keeps its placeholders. -/
theorem referencesInText_joinedLabel (fragments : List Fragment) (fragment : Fragment)
    (position : Nat) (label : String) :
    referencesInText (joinedLabel fragments fragment position label) =
      referencesInText
        (substituteText (fun r => some (joinedReference fragments position r)) label) := by
  rw [joinedLabel, Condition.references_renameSteps]
  intro x y hnew hx hy
  obtain ⟨_, rfl⟩ := Fragment.newName?_eq_some hnew
  exact (mem_scopedName hy).elim hx (by decide)

/-- A joined label holds the placeholders of the original, led to where they belong, if these can be
spelled in placeholders. -/
theorem references_joinedLabel {fragments : List Fragment} {position : Nat} {label : String}
    (fragment : Fragment) (readable : ∀ r ∈ referencesInText label,
      (joinedReference fragments position r).isReadable = true) :
    referencesInText (joinedLabel fragments fragment position label) =
      (referencesInText label).map (joinedReference fragments position) := by
  rw [referencesInText_joinedLabel]
  exact referencesInText_substituteText readable

/-- In a merged graph the steps and labels of a fragment that depends on an artifact have the
artifact led to its first offer, and that is what the named fragment binds it to if no fragment
before that one offers it, as is so for derived dependencies. A label holds just the placeholders
that are led there if they can be spelled: what is renamed in it afterwards are bare paths. -/
theorem dependency_reads_first_offer {schemas : Schemas} {fragments : List Fragment}
    {dependencies : Option (List Dependency)} {g : Graph}
    (h : merge schemas fragments dependencies = .ok g) {d : Dependency}
    (hd : d ∈ dependencies.getD (deriveDependencies fragments)) :
    ∃ p producer c consumer binding q source,
      q ≤ p ∧ p < c ∧ fragments[p]? = some producer ∧ producer.name = d.producer ∧
      fragments[c]? = some consumer ∧ consumer.name = d.consumer ∧
      producer.produces.get? d.artifact = some binding ∧
      firstOffer? fragments d.artifact = some (q, source) ∧
      (∀ step ∈ consumer.graph.stepList, ∀ m, g.step? (scopedName step.id (c + 1)) = some m →
        m.action = step.action.substitute (fun r => some (joinedReference fragments c r)) ∧
        m.labels = step.labels.map (joinedLabel fragments consumer c) ∧
        ∀ label ∈ step.labels, (∀ r ∈ referencesInText label,
            (joinedReference fragments c r).isReadable = true) →
          referencesInText (joinedLabel fragments consumer c label) =
            (referencesInText label).map (joinedReference fragments c)) ∧
      joinedReference fragments c (.artifact d.artifact) =
        .output (scopedName source.step (q + 1)) source.field ∧
      ((∀ (j : Nat) (earlier : Fragment), j < p → fragments[j]? = some earlier →
          earlier.producesArtifact d.artifact = false) → q = p ∧ source = binding) ∧
      (dependencies = none → ∀ (j : Nat) (earlier : Fragment), j < p →
        fragments[j]? = some earlier → earlier.producesArtifact d.artifact = false) := by
  have merged := merged_of_merge h
  obtain ⟨p, producer, c, consumer, before, hp, hpname, hc, hcname, offers⟩ :=
    merged.plan.ordered d hd
  obtain ⟨binding, hbinding⟩ := Option.isSome_iff_exists.1 offers
  obtain ⟨q, source, hq, hoffer⟩ := exists_firstOffer hp offers
  refine ⟨p, producer, c, consumer, binding, q, source, hq, before, hp, hpname, hc, hcname,
    hbinding, hoffer, ?_, ?_, ?_, ?_⟩
  · intro step hstep m hm
    rw [merged.eq_mergedStep hc hstep hm]
    exact ⟨rfl, mergedStep_labels ..,
      fun label _ readable => references_joinedLabel consumer readable⟩
  · rw [joinedReference, hoffer]
  · intro first
    obtain ⟨other, hother, hsource, _⟩ :=
      (firstOffer?_eq_some_iff fragments d.artifact q source).1 hoffer
    have same : q = p := by
      by_contra hne
      have := first q other (by omega) hother
      rw [producesArtifact_eq_false_iff, hsource] at this
      cases this
    subst same
    rw [hp] at hother
    cases hother
    rw [hbinding] at hsource
    exact ⟨rfl, (Option.some.inj hsource).symm⟩
  · rintro rfl
    exact first_of_derived merged.plan.names_nodup hd hp hpname

/-- The last reader of a relay is asked about the word that the dependency is on. -/
theorem relay_reads_producer :
    ∃ g, merge (fun _ => none) relay none = .ok g ∧
      joinedReference relay 2 (.artifact "word") = .output "think_1" "response" ∧
      ∀ step ∈ (questionFragment "rhyme" "What rhymes with \x7bword\x7d?" none
        ["word"]).graph.stepList, ∀ m, g.step? (scopedName step.id 3) = some m →
          m.action = step.action.substitute (fun r => some (joinedReference relay 2 r)) := by
  obtain ⟨g, hg⟩ := relay_merges
  have edge : (⟨"word", "think", "rhyme"⟩ : Dependency) ∈
      (none : Option (List Dependency)).getD (deriveDependencies relay) := by decide +kernel
  obtain ⟨p, producer, c, consumer, binding, q, source, _, _, hp, hpname, hc, hcname, hbinding, _,
    steps, reads, same, first⟩ := dependency_reads_first_offer hg edge
  have nodup : (relay.map (·.name)).Nodup := by decide +kernel
  obtain rfl : p = 0 := eq_of_getElem?_name nodup hp (b := relay[0]) rfl hpname
  obtain rfl : c = 2 := eq_of_getElem?_name nodup hc (b := relay[2]) rfl hcname
  obtain ⟨rfl, rfl⟩ := same (first rfl)
  cases hp
  cases hc
  cases hbinding
  exact ⟨g, hg, reads, fun step hstep m hm => (steps step hstep m hm).1⟩

/-! ## A dependency on a later offer -/

/-- A plan in which the word is thought of twice before it is asked about. -/
def rethought : List Fragment :=
  [ questionFragment "think" "Think of a word." (some "word") [],
    questionFragment "rethink" "Think of a better word." (some "word") [],
    questionFragment "rhyme" "What rhymes with \x7bword\x7d?" none ["word"] ]

/-- The reader is to run after the second thought. -/
def rethoughtDependencies : List Dependency :=
  [⟨"word", "think", "rethink"⟩, ⟨"word", "rethink", "rhyme"⟩]

/-- The reader runs after the second thought, and is asked about the first one. -/
theorem rethought_reads_first_thought :
    ⟨"word", "rethink", "rhyme"⟩ ∈ rethoughtDependencies ∧
      ∃ g m, merge (fun _ => none) rethought (some rethoughtDependencies) = .ok g ∧
        g.step? "rhyme_3" = some m ∧
        m.action = .reasoning "What rhymes with \x7bthink_1.response\x7d?" := by
  refine ⟨by decide, ?_⟩
  have result : ((merge (fun _ => none) rethought (some rethoughtDependencies)).toOption.bind
      fun g => g.step? "rhyme_3").map (·.action) =
        some (.reasoning "What rhymes with \x7bthink_1.response\x7d?") := by
    decide +kernel
  obtain ⟨m, hm, haction⟩ := Option.map_eq_some_iff.1 result
  obtain ⟨g, hg, hm⟩ := Option.bind_eq_some_iff.1 hm
  exact ⟨g, m, toOption_eq_some_iff.1 hg, hm, haction⟩

end Workflow
