/-!
# Dictionaries sorted by key

Tool outputs, run states, parameter maps and the steps of a graph are all finite maps from names to
values, and every listing of them is in ascending order of the name. A dictionary is therefore a
list of entries whose keys strictly ascend. The order is part of the type, so two dictionaries that
hold the same entries are equal, and no operation has to sort.

Main statements: `get?_insert` and `get?_erase` say what an update does to every look-up,
`ext_get?` that look-ups determine the dictionary.
-/

namespace Workflow

/-- A finite map from names to values, kept as entries with strictly ascending keys. -/
structure Dict (α : Type) where
  /-- The entries, in ascending order of the key. -/
  entries : List (String × α)
  /-- Each key is below all later ones. -/
  sorted : entries.Pairwise (fun p q => p.1 < q.1)
deriving DecidableEq

namespace Dict

variable {α β : Type}

/-! ## Insertion into a sorted list of entries -/

/-- Puts `value` under `key`, in place of the entry that has this key if there is one. -/
def insertEntry (key : String) (value : α) : List (String × α) → List (String × α)
  | [] => [(key, value)]
  | entry :: rest =>
      if key < entry.1 then (key, value) :: entry :: rest
      else if key = entry.1 then (key, value) :: rest
      else entry :: insertEntry key value rest

theorem fst_mem_insertEntry {key : String} {value : α} {l : List (String × α)} {p : String × α}
    (h : p ∈ insertEntry key value l) : p.1 = key ∨ p ∈ l := by
  induction l with
  | nil => simp_all [insertEntry]
  | cons entry rest ih =>
      simp only [insertEntry] at h
      split at h
      · rcases List.mem_cons.1 h with rfl | h
        · exact .inl rfl
        · exact .inr h
      · split at h
        · rcases List.mem_cons.1 h with rfl | h
          · exact .inl rfl
          · exact .inr (List.mem_cons_of_mem _ h)
        · rcases List.mem_cons.1 h with rfl | h
          · exact .inr (List.mem_cons_self ..)
          · exact (ih h).imp_right (List.mem_cons_of_mem _)

theorem pairwise_insertEntry (key : String) (value : α) {l : List (String × α)}
    (h : l.Pairwise (fun p q => p.1 < q.1)) :
    (insertEntry key value l).Pairwise (fun p q => p.1 < q.1) := by
  induction l with
  | nil => simp [insertEntry]
  | cons entry rest ih =>
      obtain ⟨hd, tl⟩ := List.pairwise_cons.1 h
      simp only [insertEntry]
      split
      · next hlt =>
          refine List.pairwise_cons.2 ⟨?_, h⟩
          intro q hq
          rcases List.mem_cons.1 hq with rfl | hq
          · exact hlt
          · exact String.lt_trans hlt (hd q hq)
      · next hnlt =>
          split
          · next heq => exact List.pairwise_cons.2 ⟨fun q hq => heq ▸ hd q hq, tl⟩
          · next hne =>
              refine List.pairwise_cons.2 ⟨?_, ih tl⟩
              intro q hq
              rcases fst_mem_insertEntry hq with hk | hq
              · rcases Std.lt_trichotomy key entry.1 with h' | h' | h'
                · exact absurd h' hnlt
                · exact absurd h' hne
                · exact hk ▸ h'
              · exact hd q hq

/-! ## Operations -/

/-- The dictionary without entries. -/
def empty : Dict α := ⟨[], .nil⟩

/-- The value under `key`. -/
def get? (d : Dict α) (key : String) : Option α := d.entries.lookup key

/-- Whether there is an entry under `key`. -/
def contains (d : Dict α) (key : String) : Bool := (d.get? key).isSome

/-- The dictionary with `value` under `key`; an earlier value is replaced. -/
def insert (d : Dict α) (key : String) (value : α) : Dict α :=
  ⟨insertEntry key value d.entries, pairwise_insertEntry key value d.sorted⟩

/-- The dictionary without the entry under `key`. -/
def erase (d : Dict α) (key : String) : Dict α :=
  ⟨d.entries.filter (fun p => p.1 ≠ key), d.sorted.filter _⟩

/-- The dictionary that results from inserting the entries in order: of two with one key, the
later wins. -/
def ofList (l : List (String × α)) : Dict α :=
  l.foldl (fun d p => d.insert p.1 p.2) empty

/-- Applies `f` to every value, keys kept. -/
def map (f : α → β) (d : Dict α) : Dict β :=
  ⟨d.entries.map (fun p => (p.1, f p.2)), by
    simpa [List.pairwise_map] using d.sorted⟩

/-- The entries whose values satisfy `keep`. -/
def filter (keep : α → Bool) (d : Dict α) : Dict α :=
  ⟨d.entries.filter (fun p => keep p.2), d.sorted.filter _⟩

/-- The keys, in ascending order. -/
def keys (d : Dict α) : List String := d.entries.map (·.1)

/-- The values, in ascending order of their keys. -/
def values (d : Dict α) : List α := d.entries.map (·.2)

/-- The number of entries. -/
def size (d : Dict α) : Nat := d.entries.length

/-- Whether there are no entries. -/
def isEmpty (d : Dict α) : Bool := d.entries.isEmpty

/-! ## Look-up after an update -/

@[simp] theorem get?_empty (key : String) : (empty : Dict α).get? key = none := rfl

theorem lookup_insertEntry (key : String) (value : α) (l : List (String × α)) (k : String)
    (h : l.Pairwise (fun p q => p.1 < q.1)) :
    (insertEntry key value l).lookup k = if k = key then some value else l.lookup k := by
  induction l with
  | nil => simp [insertEntry, List.lookup_cons]; grind
  | cons entry rest ih =>
      have ih := ih (List.pairwise_cons.1 h).2
      simp only [insertEntry]
      grind

theorem get?_insert (d : Dict α) (key : String) (value : α) (k : String) :
    (d.insert key value).get? k = if k = key then some value else d.get? k :=
  lookup_insertEntry key value d.entries k d.sorted

@[simp] theorem get?_insert_self (d : Dict α) (key : String) (value : α) :
    (d.insert key value).get? key = some value := by simp [get?_insert]

theorem get?_erase (d : Dict α) (key k : String) :
    (d.erase key).get? k = if k = key then none else d.get? k := by
  simp only [get?, erase]
  induction d.entries with
  | nil => simp
  | cons entry rest ih => grind

theorem get?_map (f : α → β) (d : Dict α) (key : String) :
    (d.map f).get? key = (d.get? key).map f := by
  simp only [get?, map]
  induction d.entries with
  | nil => rfl
  | cons entry rest ih =>
      rw [List.map_cons, List.lookup_cons, List.lookup_cons, ih]
      cases key == entry.1 <;> rfl

theorem contains_map (f : α → β) (d : Dict α) (key : String) :
    (d.map f).contains key = d.contains key := by
  rw [contains, contains, get?_map, Option.isSome_map]

theorem get?_eq_some_iff (d : Dict α) (key : String) (value : α) :
    d.get? key = some value ↔ (key, value) ∈ d.entries := by
  have hs := d.sorted
  simp only [get?]
  induction h : d.entries generalizing d with
  | nil => simp
  | cons entry rest ih =>
      rw [h] at hs
      have := ih ⟨rest, (List.pairwise_cons.1 hs).2⟩ (List.pairwise_cons.1 hs).2 rfl
      have lt := (List.pairwise_cons.1 hs).1
      obtain ⟨k, v⟩ := entry
      by_cases hk : key = k
      · subst hk
        simp only [List.lookup_cons, beq_self_eq_true, Option.some.injEq, List.mem_cons,
          Prod.mk.injEq, true_and]
        constructor
        · intro e; exact .inl e.symm
        · rintro (e | e)
          · exact e.symm
          · exact absurd (lt _ e) (String.lt_irrefl _)
      · simp only [List.lookup_cons, List.mem_cons, Prod.mk.injEq, hk, false_and, false_or]
        simpa [hk, beq_eq_false_iff_ne.2 hk] using this

/-- Two dictionaries with the same look-ups are the same. -/
theorem ext_get? {d e : Dict α} (h : ∀ k, d.get? k = e.get? k) : d = e := by
  obtain ⟨dl, dh⟩ := d
  obtain ⟨el, eh⟩ := e
  have mem : ∀ p, p ∈ dl ↔ p ∈ el := fun p => by
    have := get?_eq_some_iff ⟨dl, dh⟩ p.1 p.2
    have := get?_eq_some_iff ⟨el, eh⟩ p.1 p.2
    have := h p.1
    simp_all
  have : dl = el := by
    clear h
    induction dl generalizing el with
    | nil => cases el with
      | nil => rfl
      | cons p _ => exact absurd ((mem p).2 (List.mem_cons_self ..)) (by simp)
    | cons p dl ih => cases el with
      | nil => exact absurd ((mem p).1 (List.mem_cons_self ..)) (by simp)
      | cons q el =>
          have hd := List.pairwise_cons.1 dh
          have he := List.pairwise_cons.1 eh
          have hpq : p = q := by
            rcases List.mem_cons.1 ((mem p).1 (List.mem_cons_self ..)) with h1 | h1
            · exact h1
            · rcases List.mem_cons.1 ((mem q).2 (List.mem_cons_self ..)) with h2 | h2
              · exact h2.symm
              · exact absurd (String.lt_trans (hd.1 q h2) (he.1 p h1)) (String.lt_irrefl _)
          subst hpq
          congr 1
          refine ih hd.2 el he.2 fun r => ?_
          have := mem r
          constructor
          · intro hr
            rcases List.mem_cons.1 (this.1 (List.mem_cons_of_mem _ hr)) with h1 | h1
            · exact absurd (h1 ▸ hd.1 r hr) (String.lt_irrefl _)
            · exact h1
          · intro hr
            rcases List.mem_cons.1 (this.2 (List.mem_cons_of_mem _ hr)) with h1 | h1
            · exact absurd (h1 ▸ he.1 r hr) (String.lt_irrefl _)
            · exact h1
  subst this
  rfl

theorem mem_keys_iff (d : Dict α) (key : String) : key ∈ d.keys ↔ (d.get? key).isSome := by
  simp only [keys, List.mem_map, Option.isSome_iff_exists, get?_eq_some_iff]
  constructor
  · rintro ⟨p, hp, rfl⟩; exact ⟨p.2, hp⟩
  · rintro ⟨v, hv⟩; exact ⟨_, hv, rfl⟩

theorem keys_sorted (d : Dict α) : d.keys.Pairwise (· < ·) := List.pairwise_map.2 d.sorted

theorem mem_keys_insert_iff (d : Dict α) (key : String) (value : α) (k : String) :
    k ∈ (d.insert key value).keys ↔ k = key ∨ k ∈ d.keys := by
  rw [mem_keys_iff, mem_keys_iff, get?_insert]
  split <;> simp_all

theorem mem_keys_erase_iff (d : Dict α) (key k : String) :
    k ∈ (d.erase key).keys ↔ k ≠ key ∧ k ∈ d.keys := by
  rw [mem_keys_iff, mem_keys_iff, get?_erase]
  split <;> simp_all

theorem mem_keys_filter_iff (keep : α → Bool) (d : Dict α) (key : String) :
    key ∈ (d.filter keep).keys ↔ ∃ value, d.get? key = some value ∧ keep value = true := by
  simp only [filter, keys, List.mem_map, List.mem_filter, get?_eq_some_iff]
  constructor
  · rintro ⟨p, ⟨hp, keeps⟩, rfl⟩; exact ⟨p.2, hp, keeps⟩
  · rintro ⟨value, hp, keeps⟩; exact ⟨_, ⟨hp, keeps⟩, rfl⟩

theorem mem_of_mem_map {f : α → β} {d : Dict α} {p : String × β} (h : p ∈ (d.map f).entries) :
    ∃ v, (p.1, v) ∈ d.entries ∧ p.2 = f v := by
  obtain ⟨q, hq, rfl⟩ := List.mem_map.1 h
  exact ⟨q.2, hq, rfl⟩

theorem mem_of_mem_insert {d : Dict α} {key : String} {value : α} {p : String × α}
    (h : p ∈ (d.insert key value).entries) : p = (key, value) ∨ p ∈ d.entries := by
  have h' := (get?_eq_some_iff (d.insert key value) p.1 p.2).2 h
  rw [get?_insert] at h'
  split at h'
  · next hk =>
      left
      obtain ⟨k, v⟩ := p
      simp_all
  · exact .inr ((get?_eq_some_iff d p.1 p.2).1 h')

theorem mem_of_mem_erase {d : Dict α} {key : String} {p : String × α}
    (h : p ∈ (d.erase key).entries) : p ∈ d.entries :=
  (List.mem_filter.1 h).1

/-! ## Counting entries -/

theorem insertEntry_perm (key : String) (value : α) {l : List (String × α)}
    (h : l.Pairwise (fun p q => p.1 < q.1)) :
    (insertEntry key value l).Perm ((key, value) :: l.filter (fun p => p.1 ≠ key)) := by
  induction l with
  | nil => exact .refl _
  | cons entry rest ih =>
      obtain ⟨above, tl⟩ := List.pairwise_cons.1 h
      -- Where no later key can be `key`, the filter takes nothing from the rest.
      have kept : ¬ entry.1 < key → rest.filter (fun p => p.1 ≠ key) = rest := by
        intro hlt
        refine List.filter_eq_self.2 fun p hp => ?_
        have : p.1 ≠ key := fun heq => hlt (heq ▸ above p hp)
        simpa using this
      simp only [insertEntry]
      split
      · next hlt =>
          have hne : entry.1 ≠ key := fun heq => String.lt_irrefl key (heq ▸ hlt)
          rw [List.filter_cons_of_pos (by simpa using hne), kept (String.lt_asymm hlt)]
      · split
        · next heq =>
            rw [List.filter_cons_of_neg (by simp [heq]), kept (heq ▸ String.lt_irrefl key)]
        · next hne =>
            rw [List.filter_cons_of_pos (by simpa using Ne.symm hne)]
            exact ((ih tl).cons entry).trans (.swap ..)

theorem insert_perm (d : Dict α) (key : String) (value : α) :
    (d.insert key value).entries.Perm ((key, value) :: (d.erase key).entries) :=
  insertEntry_perm key value d.sorted

theorem insert_of_get? {d : Dict α} {key : String} {value : α} (h : d.get? key = some value) :
    d.insert key value = d := by
  refine ext_get? fun k => ?_
  rw [get?_insert]
  split
  · next hk => rw [hk, h]
  · rfl

theorem entries_perm {d : Dict α} {key : String} {value : α} (h : d.get? key = some value) :
    d.entries.Perm ((key, value) :: (d.erase key).entries) := by
  have perm := d.insert_perm key value
  rwa [insert_of_get? h] at perm

/-- A new value under a key counts in place of the old one. -/
theorem countP_insert (q : String × α → Bool) {d : Dict α} {key : String} {old : α}
    (h : d.get? key = some old) (new : α) :
    (d.insert key new).entries.countP q + (if q (key, old) then 1 else 0) =
      d.entries.countP q + (if q (key, new) then 1 else 0) := by
  rw [(d.insert_perm key new).countP_eq, (entries_perm h).countP_eq, List.countP_cons,
    List.countP_cons, Nat.add_right_comm]

theorem size_insert_le (d : Dict α) (key : String) (value : α) :
    (d.insert key value).size ≤ d.size + 1 := by
  have erased : (d.erase key).size ≤ d.size := List.length_filter_le ..
  have inserted := (d.insert_perm key value).length_eq
  simp only [size, List.length_cons] at erased inserted ⊢
  omega

theorem size_erase_lt (d : Dict α) {key : String} (h : key ∈ d.keys) :
    (d.erase key).size < d.size := by
  obtain ⟨value, hvalue⟩ := Option.isSome_iff_exists.1 ((mem_keys_iff d key).1 h)
  have counted := (entries_perm hvalue).length_eq
  simp only [size, List.length_cons] at counted ⊢
  omega

end Dict

/-! ## Sets of names -/

/-- The names that occur in the list, each once, in ascending order. -/
def sortedNames (names : List String) : List String :=
  (Dict.ofList (names.map fun name => (name, ()))).keys

end Workflow
