import Mathlib.Data.List.Nodup
import Mathlib.Data.List.Perm.Basic
import Workflow.Dict

/-!
# Dictionaries made from lists

A list without repeated keys and the dictionary made from it have the same look-ups, whatever the
order of the list. Of a list with repeated keys the dictionary keeps the keys.

Main statements: `Dict.ofList_of_perm`, `Dict.get?_ofList_eq_some_iff` and `mem_sortedNames_iff`.
-/

namespace Workflow

/-! ## Look-up in lists without repeated keys -/

section Lookup

variable {α : Type} {fields fields' : List (String × α)} {key : String}

theorem lookup_eq_some_iff_mem (distinct : (fields.map (·.1)).Nodup) (value : α) :
    fields.lookup key = some value ↔ (key, value) ∈ fields := by
  induction fields with
  | nil => simp
  | cons field rest ih =>
      obtain ⟨name, first⟩ := field
      rw [List.map_cons, List.nodup_cons] at distinct
      by_cases h : key = name
      · subst h
        have foreign : (key, value) ∉ rest := by
          intro hmem
          exact distinct.1 (List.mem_map.2 ⟨_, hmem, rfl⟩)
        simp [foreign, eq_comm]
      · have h' : (key == name) = false := beq_false_of_ne h
        rw [List.lookup_cons, h', List.mem_cons, ih distinct.2]
        simp [h]

theorem lookup_eq_none_of_not_mem (h : key ∉ fields.map (·.1)) : fields.lookup key = none := by
  rw [List.lookup_eq_none_iff]
  intro field hfield
  rw [bne_iff_ne]
  rintro rfl
  exact h (List.mem_map_of_mem hfield)

theorem lookup_eq_of_perm (perm : fields.Perm fields') (distinct : (fields.map (·.1)).Nodup) :
    fields.lookup key = fields'.lookup key := by
  have distinct' := (perm.map (·.1)).nodup_iff.1 distinct
  apply Option.ext
  intro value
  rw [lookup_eq_some_iff_mem distinct, lookup_eq_some_iff_mem distinct', perm.mem_iff]

theorem lookup_map_snd {β : Type} (f : α → β) :
    (fields.map fun p => (p.1, f p.2)).lookup key = (fields.lookup key).map f := by
  induction fields with
  | nil => rfl
  | cons field rest ih =>
      rw [List.map_cons, List.lookup_cons, List.lookup_cons, ih]
      cases key == field.1 <;> rfl

theorem lookup_filter_of_true {p : String → Bool} (h : p key = true) :
    (fields.filter (p ·.1)).lookup key = fields.lookup key := by
  induction fields with
  | nil => rfl
  | cons field rest ih =>
      by_cases hkey : key = field.1
      · subst hkey
        rw [List.filter_cons_of_pos (by simpa using h), List.lookup_cons, List.lookup_cons]
        simp
      · have hkey' : (key == field.1) = false := beq_false_of_ne hkey
        rw [List.lookup_cons, hkey', ← ih]
        rw [List.filter_cons]
        split
        · rw [List.lookup_cons, hkey']
        · rfl

end Lookup

/-! ## Dictionaries -/

namespace Dict

variable {α β γ : Type} {fields : List (String × α)}

theorem keys_nodup (d : Dict α) : d.keys.Nodup := d.keys_sorted.imp String.ne_of_lt

theorem get?_insertAll (d : Dict α) (distinct : (fields.map (·.1)).Nodup) (key : String) :
    (fields.foldl (fun d p => d.insert p.1 p.2) d).get? key =
      (fields.lookup key <|> d.get? key) := by
  induction fields generalizing d with
  | nil => rfl
  | cons field rest ih =>
      rw [List.map_cons, List.nodup_cons] at distinct
      rw [List.foldl_cons, ih _ distinct.2, get?_insert, List.lookup_cons]
      by_cases h : key = field.1
      · subst h
        simp [lookup_eq_none_of_not_mem distinct.1]
      · simp [h, beq_false_of_ne h]

/-- The entries of a dictionary in any order make the dictionary. -/
theorem ofList_of_perm {d : Dict α} (perm : fields.Perm d.entries) : Dict.ofList fields = d := by
  have distinct : (fields.map (·.1)).Nodup := (perm.map _).nodup_iff.2 d.keys_nodup
  apply ext_get?
  intro key
  rw [Dict.ofList, get?_insertAll _ distinct, lookup_eq_of_perm perm distinct]
  simp [Dict.get?, Dict.empty]

theorem get?_ofList_eq_some_iff (distinct : (fields.map (·.1)).Nodup) (key : String) (value : α) :
    (Dict.ofList fields).get? key = some value ↔ (key, value) ∈ fields := by
  rw [Dict.ofList, get?_insertAll _ distinct, ← lookup_eq_some_iff_mem distinct]
  simp [Dict.get?, Dict.empty]

theorem mem_of_mem_insertAll {d : Dict α} {p : String × α}
    (h : p ∈ (fields.foldl (fun d p => d.insert p.1 p.2) d).entries) :
    p ∈ fields ∨ p ∈ d.entries := by
  induction fields generalizing d with
  | nil => exact .inr h
  | cons q rest ih =>
      rcases ih h with listed | before
      · exact .inl (List.mem_cons_of_mem _ listed)
      · rcases mem_of_mem_insert before with rfl | old
        · exact .inl (List.mem_cons_self ..)
        · exact .inr old

theorem mem_of_mem_ofList {p : String × α} (h : p ∈ (Dict.ofList fields).entries) :
    p ∈ fields := by
  rcases mem_of_mem_insertAll h with listed | nothing
  · exact listed
  · cases nothing

theorem contains_insertAll (d : Dict α) (key : String) :
    (fields.foldl (fun d p => d.insert p.1 p.2) d).contains key = true ↔
      d.contains key = true ∨ key ∈ fields.map (·.1) := by
  induction fields generalizing d with
  | nil => simp
  | cons field rest ih =>
      rw [List.foldl_cons, ih, contains, get?_insert, List.map_cons, List.mem_cons]
      by_cases h : key = field.1 <;> simp [h, contains]

/-! ### Other values -/

theorem mem_values_of_mem_entries {d : Dict α} {p : String × α} (h : p ∈ d.entries) :
    p.2 ∈ d.values :=
  List.mem_map_of_mem h

theorem map_map (f : α → β) (g : β → γ) (d : Dict α) :
    (d.map f).map g = d.map (g ∘ f) := by
  simp [Dict.map]

theorem map_congr {f g : α → β} {d : Dict α} (h : ∀ a ∈ d.values, f a = g a) :
    d.map f = d.map g := by
  have entries_eq : d.entries.map (fun p => (p.1, f p.2)) = d.entries.map fun p => (p.1, g p.2) :=
    List.map_congr_left fun p hp => by rw [h p.2 (mem_values_of_mem_entries hp)]
  simp only [Dict.map, entries_eq]

theorem values_map (f : α → β) (d : Dict α) : (d.map f).values = d.values.map f := by
  simp [Dict.map, Dict.values]

end Dict

/-! ## Sets of names -/

theorem mem_sortedNames_iff (names : List String) (name : String) :
    name ∈ sortedNames names ↔ name ∈ names := by
  rw [sortedNames, Dict.mem_keys_iff]
  refine (Dict.contains_insertAll Dict.empty name).trans ?_
  simp [Dict.contains]

theorem nodup_sortedNames (names : List String) : (sortedNames names).Nodup := Dict.keys_nodup _

end Workflow
