import Workflow.Merge.Naming
import Workflow.Proofs.Graph.Walk
import Workflow.Proofs.Reference.Substitution

/-!
# New names are all different

The number of a fragment stands behind the last underscore of a new name, and no decimal holds an
underscore. So a new name says of which fragment it is and what the step was called there, whatever
characters the ids are made of.

Main statement: `scopedName_inj`.
-/

namespace Workflow

/-! ## Numbers behind the last underscore -/

/-- What stands behind the last underscore is not told apart from the rest in a second way. -/
theorem append_underscore_inj {a b s t : List Char} (hs : '_' ∉ s) (ht : '_' ∉ t)
    (h : a ++ '_' :: s = b ++ '_' :: t) : a = b ∧ s = t := by
  rcases List.append_eq_append_iff.1 h with ⟨m, rfl, hm⟩ | ⟨m, rfl, hm⟩
  · cases m with
    | nil => simpa using hm
    | cons c m =>
        have : '_' ∈ s := by
          rw [List.cons_append] at hm
          rw [(List.cons.inj hm).2]
          exact List.mem_append_right _ (List.mem_cons_self ..)
        exact absurd this hs
  · cases m with
    | nil => simpa using hm.symm
    | cons c m =>
        have : '_' ∈ t := by
          rw [List.cons_append] at hm
          rw [(List.cons.inj hm).2]
          exact List.mem_append_right _ (List.mem_cons_self ..)
        exact absurd this ht

theorem toDigits_inj {n m : Nat} (h : Nat.toDigits 10 n = Nat.toDigits 10 m) : n = m := by
  rw [← Nat.ofDigitChars_ten_toDigits (n := n), h, Nat.ofDigitChars_ten_toDigits]

theorem toList_scopedName (id : String) (n : Nat) :
    (scopedName id n).toList = id.toList ++ '_' :: Nat.toDigits 10 n := by
  simp [scopedName]

/-- New names are equal only for one step of one fragment. -/
theorem scopedName_inj {x y : String} {n m : Nat} (h : scopedName x n = scopedName y m) :
    x = y ∧ n = m := by
  have hlist := congrArg String.toList h
  rw [toList_scopedName, toList_scopedName] at hlist
  obtain ⟨hid, hdigits⟩ :=
    append_underscore_inj Nat.underscore_not_in_toDigits Nat.underscore_not_in_toDigits hlist
  exact ⟨String.toList_inj.1 hid, toDigits_inj hdigits⟩

/-- The number behind the last underscore of a name. -/
def placeOf (id : String) : Nat :=
  Nat.ofDigitChars 10 (id.toList.reverse.takeWhile (· ≠ '_')).reverse 0

theorem placeOf_scopedName (id : String) (n : Nat) : placeOf (scopedName id n) = n := by
  have digits : ∀ c ∈ (Nat.toDigits 10 n).reverse, decide (c ≠ '_') = true := by
    intro c hc
    refine decide_eq_true fun heq => ?_
    exact Nat.underscore_not_in_toDigits (heq ▸ List.mem_reverse.1 hc)
  rw [placeOf, toList_scopedName, List.reverse_append, List.reverse_cons, List.append_assoc,
    List.takeWhile_append_of_pos digits, List.singleton_append,
    List.takeWhile_cons_of_neg (by simp), List.append_nil, List.reverse_reverse,
    Nat.ofDigitChars_ten_toDigits]

/-- A new name adds characters of names only. -/
theorem mem_scopedName {id : String} {n : Nat} {c : Char} (h : c ∈ (scopedName id n).toList) :
    c ∈ id.toList ∨ Text.isNameChar c = true := by
  rw [toList_scopedName] at h
  refine (List.mem_append.1 h).imp_right fun h => ?_
  rcases List.mem_cons.1 h with rfl | h
  · rfl
  · have digit := Nat.isDigit_of_mem_toDigits (by decide) (by decide) h
    simp [Text.isNameChar, Char.isAlphanum, digit]

/-- The new name of a step can be spelled in a placeholder if the old name can. -/
theorem isName_scopedName {id : String} (h : ∀ c ∈ id.toList, Text.isNameChar c = true) (n : Nat) :
    isName (scopedName id n) = true := by
  rw [isName_iff]
  exact ⟨by simp [toList_scopedName], fun c hc => (mem_scopedName hc).elim (h c) fun hname => hname⟩

theorem isReadable_scopedName {step field : String}
    (readable : (Reference.output step field).isReadable = true) (n : Nat) :
    (Reference.output (scopedName step n) field).isReadable = true := by
  obtain ⟨hstep, hfield⟩ : isName step = true ∧ isName field = true := by
    simpa [Reference.isReadable] using readable
  have hnew := isName_scopedName ((isName_iff step).1 hstep).2 n
  simp [Reference.isReadable, hnew, hfield]

/-! ## New names of the steps of a fragment -/

namespace Fragment

variable {fragment : Fragment} {id : String}

theorem newName?_of_contains (h : fragment.graph.contains id = true) (position : Nat) :
    fragment.newName? position id = some (scopedName id (position + 1)) :=
  if_pos h

theorem newName_of_contains (h : fragment.graph.contains id = true) (position : Nat) :
    fragment.newName position id = scopedName id (position + 1) := by
  rw [newName, newName?_of_contains h]
  rfl

theorem newName?_eq_some {position : Nat} {new : String}
    (h : fragment.newName? position id = some new) :
    fragment.graph.contains id = true ∧ new = scopedName id (position + 1) := by
  unfold newName? at h
  split at h
  · next hin => exact ⟨hin, (Option.some.inj h).symm⟩
  · cases h

end Fragment

end Workflow
