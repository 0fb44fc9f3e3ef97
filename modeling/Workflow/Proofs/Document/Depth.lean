import Mathlib.Order.MinMax
import Workflow.Proofs.Document.Reading
import Workflow.Source.JsonText

/-!
# Trees that are cut off

A text in which brackets are nested too deep is read as a tree that is cut off there: nothing can be
read from the part that stands for what was too deep. Such a part is not passed over. Whatever has
to read it as a value, or to set it aside, gives nothing at all.

Main statements: `treeWithin_eq_tree`, nothing is cut off where brackets are not nested too deep,
and `isCut_treeWithin`, something is where they are.
-/

namespace Workflow

open Source

namespace Json

mutual

/-- How deep brackets are nested in the text of the value. -/
def nesting : Json → Nat
  | .array items => itemsNesting items + 1
  | .object fields => fieldsNesting fields + 1
  | _ => 0

/-- How deep brackets are nested in the text of any of the items. -/
def itemsNesting : List Json → Nat
  | [] => 0
  | item :: rest => max (nesting item) (itemsNesting rest)

/-- How deep brackets are nested in the text of the value of any of the fields. -/
def fieldsNesting : List (String × Json) → Nat
  | [] => 0
  | (_, value) :: rest => max (nesting value) (fieldsNesting rest)

end

theorem lt_itemsNesting_iff {n : Nat} {items : List Json} :
    n < itemsNesting items ↔ ∃ item ∈ items, n < item.nesting := by
  induction items with
  | nil => simp [itemsNesting]
  | cons item rest ih => simp [itemsNesting, ih]

theorem nesting_array_le {n : Nat} {items : List Json} (h : ∀ item ∈ items, item.nesting ≤ n) :
    (Json.array items).nesting ≤ n + 1 := by
  apply Nat.succ_le_succ
  apply Nat.le_of_not_lt
  rw [lt_itemsNesting_iff]
  rintro ⟨item, hitem, deep⟩
  exact Nat.not_lt_of_le (h item hitem) deep

theorem lt_fieldsNesting_iff {n : Nat} {fields : List (String × Json)} :
    n < fieldsNesting fields ↔ ∃ p ∈ fields, n < p.2.nesting := by
  induction fields with
  | nil => simp [fieldsNesting]
  | cons field rest ih =>
      obtain ⟨key, value⟩ := field
      simp [fieldsNesting, ih]

end Json

open Json

namespace Source

namespace JsonText

mutual

/-- The tree of the value, cut off where brackets are nested more than so many levels deep. -/
def treeWithin (levels : Nat) : Json → Source
  | .array items => withinDepth levels (.list .loose (treeItemsWithin (levels - 1) items))
  | .object fields => withinDepth levels (.map .loose (treeFieldsWithin (levels - 1) fields))
  | value => ofJson value

/-- The trees of the items of an array, cut off in the same way. -/
def treeItemsWithin (levels : Nat) : List Json → List Source
  | [] => []
  | item :: rest => treeWithin levels item :: treeItemsWithin levels rest

/-- The trees of the fields of an object, cut off in the same way. -/
def treeFieldsWithin (levels : Nat) : List (String × Json) → List (Source × Source)
  | [] => []
  | (key, value) :: rest => (ofText key, treeWithin levels value) :: treeFieldsWithin levels rest

end

mutual

theorem treeWithin_eq_tree : ∀ (value : Json) (levels : Nat), value.nesting ≤ levels →
    treeWithin levels value = tree .loose value
  | .null, _, _ | .bool _, _, _ | .int _, _, _ | .float _, _, _ | .text _, _, _ => rfl
  | .array items, levels, h => by
      have positive : levels ≠ 0 := Nat.ne_of_gt (Nat.lt_of_lt_of_le (Nat.succ_pos _) h)
      rw [treeWithin, tree, withinDepth, if_neg positive,
        treeItemsWithin_eq_treeItems items (levels - 1) (Nat.le_sub_one_of_lt h)]
  | .object fields, levels, h => by
      have positive : levels ≠ 0 := Nat.ne_of_gt (Nat.lt_of_lt_of_le (Nat.succ_pos _) h)
      rw [treeWithin, tree, withinDepth, if_neg positive,
        treeFieldsWithin_eq_treeFields fields (levels - 1) (Nat.le_sub_one_of_lt h)]

theorem treeItemsWithin_eq_treeItems : ∀ (items : List Json) (levels : Nat),
    itemsNesting items ≤ levels → treeItemsWithin levels items = treeItems .loose items
  | [], _, _ => rfl
  | item :: rest, levels, h => by
      obtain ⟨first, others⟩ := Nat.max_le.1 h
      rw [treeItemsWithin, treeItems, treeWithin_eq_tree item levels first,
        treeItemsWithin_eq_treeItems rest levels others]

theorem treeFieldsWithin_eq_treeFields : ∀ (fields : List (String × Json)) (levels : Nat),
    fieldsNesting fields ≤ levels → treeFieldsWithin levels fields = treeFields .loose fields
  | [], _, _ => rfl
  | (key, value) :: rest, levels, h => by
      obtain ⟨first, others⟩ := Nat.max_le.1 h
      rw [treeFieldsWithin, treeFields, treeWithin_eq_tree value levels first,
        treeFieldsWithin_eq_treeFields rest levels others]

end

theorem treeFieldsWithin_eq_map (levels : Nat) (fields : List (String × Json)) :
    treeFieldsWithin levels fields = fields.map fun p => (ofText p.1, treeWithin levels p.2) := by
  induction fields with
  | nil => rfl
  | cons field rest ih =>
      obtain ⟨key, value⟩ := field
      rw [treeFieldsWithin, ih, List.map_cons]

end JsonText

/-! ## What is missing in a tree -/

/-- The tree is cut off somewhere. -/
inductive IsCut : Source → Prop where
  | here : IsCut unreadable
  | item {standing : Standing} {items : List Source} {part : Source} :
      part ∈ items → IsCut part → IsCut (.list standing items)
  | entry {standing : Standing} {entries : List (Source × Source)} {key part : Source} :
      (key, part) ∈ entries → IsCut part → IsCut (.map standing entries)

namespace JsonText

theorem isCut_withinDepth {levels : Nat} {source : Source} (h : levels ≠ 0 → source.IsCut) :
    (withinDepth levels source).IsCut := by
  unfold withinDepth
  split
  · exact .here
  · next positive => exact h positive

mutual

/-- Where brackets are nested too deep, the tree is cut off. -/
theorem isCut_treeWithin : ∀ (value : Json) (levels : Nat), levels < value.nesting →
    (treeWithin levels value).IsCut
  | .null, _, h | .bool _, _, h | .int _, _, h | .float _, _, h | .text _, _, h =>
      absurd h (Nat.not_lt_zero _)
  | .array items, levels, h => by
      rw [treeWithin]
      apply isCut_withinDepth
      intro positive
      have within : levels - 1 < itemsNesting items := by
        rw [nesting] at h
        omega
      obtain ⟨part, hpart, cut⟩ := exists_isCut_item items (levels - 1) within
      exact .item hpart cut
  | .object fields, levels, h => by
      rw [treeWithin]
      apply isCut_withinDepth
      intro positive
      have within : levels - 1 < fieldsNesting fields := by
        rw [nesting] at h
        omega
      obtain ⟨key, part, hpart, cut⟩ := exists_isCut_entry fields (levels - 1) within
      exact .entry hpart cut

theorem exists_isCut_item : ∀ (items : List Json) (levels : Nat), levels < itemsNesting items →
    ∃ part ∈ treeItemsWithin levels items, part.IsCut
  | [], _, h => absurd h (Nat.not_lt_zero _)
  | item :: rest, levels, h => by
      rw [treeItemsWithin]
      rcases lt_max_iff.1 h with first | others
      · exact ⟨_, List.mem_cons_self .., isCut_treeWithin item levels first⟩
      · obtain ⟨part, hpart, cut⟩ := exists_isCut_item rest levels others
        exact ⟨part, List.mem_cons_of_mem _ hpart, cut⟩

theorem exists_isCut_entry : ∀ (fields : List (String × Json)) (levels : Nat),
    levels < fieldsNesting fields →
      ∃ key part, (key, part) ∈ treeFieldsWithin levels fields ∧ part.IsCut
  | [], _, h => absurd h (Nat.not_lt_zero _)
  | (key, value) :: rest, levels, h => by
      rw [treeFieldsWithin]
      rcases lt_max_iff.1 h with first | others
      · exact ⟨_, _, List.mem_cons_self .., isCut_treeWithin value levels first⟩
      · obtain ⟨name, part, hpart, cut⟩ := exists_isCut_entry rest levels others
        exact ⟨name, part, List.mem_cons_of_mem _ hpart, cut⟩

end

end JsonText

/-! ## Reading fails -/

section

variable {α β : Type}

/-- Nothing is read if nothing is read afterwards. -/
theorem bind_eq_failure {read : Reading α} {next : α → Reading β} (h : ∀ a, next a = failure) :
    read >>= next = failure := by
  obtain rfl : next = fun _ => failure := funext h
  funext left
  show (read left >>= fun _ => none) = none
  cases read left <;> rfl

theorem mapM_eq_failure {read : α → Reading β} {items : List α} {item : α} (h : item ∈ items)
    (fails : read item = failure) : items.mapM read = failure := by
  induction items with
  | nil => cases h
  | cons first rest ih =>
      rw [List.mapM_cons]
      rcases List.mem_cons.1 h with rfl | later
      · rw [fails]
        rfl
      · apply bind_eq_failure
        intro value
        rw [ih later]
        rfl

theorem entries?_eq_failure {read : Source → Reading α} {entries : List (Source × Source)}
    {key part : Source} (h : (key, part) ∈ entries) (fails : read part = failure) :
    entries? read entries = failure := by
  apply mapM_eq_failure h
  apply bind_eq_failure
  intro name
  rw [fails]
  rfl

/-- A dictionary has to be read as a whole. -/
theorem dict?_of_isCut {read : Source → Reading α}
    (fails : ∀ part : Source, part.IsCut → read part = failure) {source : Source}
    (h : source.IsCut) : dict? read source = failure := by
  cases h with
  | here => rfl
  | item => rfl
  | entry hpart cut =>
      show (entries? read _ >>= fun entries => pure (Dict.ofList entries)) = failure
      rw [entries?_eq_failure hpart (fails _ cut)]
      rfl

theorem values?_eq_mapM (items : List Source) : values? items = items.mapM value? := by
  induction items with
  | nil => rfl
  | cons item rest ih => rw [values?, ih, List.mapM_cons]

/-- A value has to be read as a whole. -/
theorem value?_of_isCut {source : Source} (h : source.IsCut) : value? source = failure := by
  induction h with
  | here => rfl
  | @item standing items part hpart cut ih =>
      rw [value?]
      split
      · rfl
      · rw [values?_eq_mapM, mapM_eq_failure hpart ih]
        rfl
  | @entry standing entries key part hpart cut ih =>
      rw [value?]
      split
      · rfl
      · rw [fields?_eq_entries?, entries?_eq_failure hpart ih]
        rfl

theorem setAsideItems?_eq_mapM (items : List Source) :
    setAsideItems? items = items.mapM setAside? := by
  induction items with
  | nil => rfl
  | cons item rest ih => rw [setAsideItems?, ih, List.mapM_cons]

theorem setAsideEntries?_eq_failure {entries : List (Source × Source)} {key part : Source}
    (h : (key, part) ∈ entries) (fails : setAside? part = failure) :
    setAsideEntries? entries = failure := by
  induction entries with
  | nil => cases h
  | cons entry rest ih =>
      obtain ⟨name, first⟩ := entry
      rw [setAsideEntries?]
      apply bind_eq_failure
      intro _
      rcases List.mem_cons.1 h with same | later
      · cases same
        rw [fails]
        rfl
      · apply bind_eq_failure
        intro _
        rw [ih later]
        rfl

/-- A part has to be set aside as a whole. -/
theorem setAside?_of_isCut {source : Source} (h : source.IsCut) : setAside? source = failure := by
  induction h with
  | here => rfl
  | @item standing items part hpart cut ih =>
      rw [setAside?]
      split
      · rfl
      · rw [setAsideItems?_eq_mapM, mapM_eq_failure hpart ih]
        rfl
  | @entry standing entries key part hpart cut ih =>
      rw [setAside?]
      split
      · rfl
      · rw [setAsideEntries?_eq_failure hpart ih]
        rfl

/-! ## Records inside records -/

variable {names : List String} {entries : List (Source × Source)} {key : String} {part : Source}

/-- What is not known to the outer record has to be set aside as a whole. -/
theorem splitEntries_of_isCut (h : (ofText key, part) ∈ entries) (foreign : key ∉ names)
    (cut : part.IsCut) (outer : FieldValues) (inner : List (Source × Source)) :
    splitEntries names outer inner entries = failure := by
  induction entries generalizing outer inner with
  | nil => cases h
  | cons entry rest ih =>
      obtain ⟨first, value⟩ := entry
      rw [splitEntries]
      rcases List.mem_cons.1 h with same | later
      · cases same
        rw [text?_ofText, pure_bind, if_neg foreign, setAside?_of_isCut cut]
        rfl
      · apply bind_eq_failure
        intro name
        by_cases known : name ∈ names
        · rw [if_pos known, ih later, ite_self]
        · rw [if_neg known]
          apply bind_eq_failure
          intro _
          exact ih later _ _

section

variable {next : FieldValues × List (Source × Source) → Reading α}
  (fails : ∀ found rest, found.lookup key = some part → next (found, rest) = failure)
include fails

/-- A field of the outer record that was found stays. -/
theorem splitEntries_of_found (outer : FieldValues) (inner : List (Source × Source))
    (found : outer.lookup key = some part) :
    splitEntries names outer inner entries >>= next = failure := by
  induction entries generalizing outer inner with
  | nil => exact fails _ _ found
  | cons entry rest ih =>
      obtain ⟨first, value⟩ := entry
      rw [splitEntries, bind_assoc]
      apply bind_eq_failure
      intro name
      by_cases known : name ∈ names
      · rw [if_pos known]
        split
        · rfl
        · next free =>
            apply ih
            have other : key ≠ name := by
              rintro rfl
              simp [found] at free
            rw [List.lookup_cons, beq_false_of_ne other]
            exact found
      · rw [if_neg known, bind_assoc]
        apply bind_eq_failure
        intro _
        exact ih _ _ found

/-- A field of the outer record is found among the entries. -/
theorem splitEntries_of_mem (known : key ∈ names) (h : (ofText key, part) ∈ entries)
    (outer : FieldValues) (inner : List (Source × Source)) :
    splitEntries names outer inner entries >>= next = failure := by
  induction entries generalizing outer inner with
  | nil => cases h
  | cons entry rest ih =>
      obtain ⟨first, value⟩ := entry
      rw [splitEntries, bind_assoc]
      rcases List.mem_cons.1 h with same | later
      · cases same
        rw [text?_ofText, pure_bind, if_pos known]
        split
        · rfl
        · exact splitEntries_of_found fails _ _ List.lookup_cons_self
      · apply bind_eq_failure
        intro name
        by_cases known' : name ∈ names
        · rw [if_pos known']
          split
          · rfl
          · exact ih later _ _
        · rw [if_neg known', bind_assoc]
          apply bind_eq_failure
          intro _
          exact ih later _ _

end

end

end Source

end Workflow
