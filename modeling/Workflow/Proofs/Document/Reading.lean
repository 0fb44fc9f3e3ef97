import Workflow.Proofs.Dict
import Workflow.Proofs.Document.Tree

/-!
# Reading what a part shows

Each way of reading a part of a document gives back what was written there: a text, a list, a
dictionary, and the fields of a record under their names, whatever the order in which they stand. A
field that was left out is missing for the reader too.

Main statements: `value?_of_shows`, `list?_of_shows`, `dict?_of_shows`, `record?_of_shows`, and
`splitRecord?_of_shows` for a record whose fields stand among those of another one.
-/

namespace Workflow

/-! ## Forms of a part -/

theorem Json.lookup_sameField {fields ordered : List (String × Json)}
    (h : List.Forall₂ SameField fields ordered) (key : String) :
    Option.Rel Reorders (fields.lookup key) (ordered.lookup key) := by
  induction h with
  | nil => exact .none
  | @cons p q _ _ same _ ih =>
      obtain ⟨same_key, same_value⟩ := same
      rw [List.lookup_cons, List.lookup_cons, ← same_key]
      cases key == p.1 with
      | true => exact .some same_value
      | false => exact ih

theorem Json.map_fst_of_sameField {fields ordered : List (String × Json)}
    (h : List.Forall₂ SameField fields ordered) : fields.map (·.1) = ordered.map (·.1) := by
  induction h with
  | nil => rfl
  | cons same _ ih => rw [List.map_cons, List.map_cons, same.1, ih]

theorem Json.nodup_of_sameField {fields fields' ordered : List (String × Json)}
    (distinct : (fields.map (·.1)).Nodup) (perm : fields'.Perm ordered)
    (h : List.Forall₂ SameField fields ordered) : (fields'.map (·.1)).Nodup := by
  rw [(perm.map (·.1)).nodup_iff, ← map_fst_of_sameField h]
  exact distinct

theorem Json.reorders_object {fields fields' ordered : List (String × Json)}
    (perm : fields'.Perm ordered) (h : List.Forall₂ SameField fields ordered) :
    Reorders (.object fields) (.object fields') := by
  refine .object perm (map_fst_of_sameField h) ?_
  induction h generalizing fields' with
  | nil => exact .nil
  | cons same _ ih => exact .cons same.2 (ih (.refl _))

theorem Json.forall₂_sameField_filter {fields ordered : List (String × Json)} (p : String → Bool)
    (h : List.Forall₂ SameField fields ordered) :
    List.Forall₂ SameField (fields.filter (p ·.1)) (ordered.filter (p ·.1)) := by
  induction h with
  | nil => exact .nil
  | @cons f g _ _ same _ ih =>
      rw [List.filter_cons, List.filter_cons, ← same.1]
      cases p f.1 with
      | true => exact .cons same ih
      | false => exact ih

namespace Source

variable {source : Source} {standing : Standing}

namespace Shows

theorem follow {value : Json} (h : source.Shows value) : source.follow = pure source := by
  obtain ⟨standing, value', _, _, rfl⟩ := h
  exact follow_tree value'

theorem setAside {value : Json} (h : source.Shows value) :
    ∃ aside, source.setAside? = pure aside ∧ aside.Shows value := by
  obtain ⟨standing, value', free, same, rfl⟩ := h
  exact ⟨_, setAside?_tree free value', .aside, value', by decide, same, rfl⟩

theorem text {t : String} (h : source.Shows (.text t)) : source = ofText t := by
  obtain ⟨standing, value', _, same, rfl⟩ := h
  cases same
  rfl

theorem bool {b : Bool} (h : source.Shows (.bool b)) : source = .scalar (.ofValue (.bool b)) := by
  obtain ⟨standing, value', _, same, rfl⟩ := h
  cases same
  rfl

theorem null (h : source.Shows .null) : source = .scalar (.ofValue .null) := by
  obtain ⟨standing, value', _, same, rfl⟩ := h
  cases same
  rfl

theorem array {items : List Json} (h : source.Shows (.array items)) :
    ∃ standing sources, standing ≠ .fixed ∧ source = .list standing sources ∧
      List.Forall₂ Shows sources items := by
  obtain ⟨standing, value', free, same, rfl⟩ := h
  obtain ⟨items', rfl, each⟩ := same.array_cases
  refine ⟨standing, _, free, by rw [tree, treeItems_eq_map], ?_⟩
  rw [List.forall₂_map_left_iff]
  exact each.flip.imp fun value' value same => ⟨standing, value', free, same, rfl⟩

/-- The entries of a map that shows an object are the fields of it, with their trees. -/
theorem object {fields : List (String × Json)} (h : source.Shows (.object fields)) :
    ∃ standing fields' ordered, standing ≠ .fixed ∧
      source = .map standing (treeFields standing fields') ∧ fields'.Perm ordered ∧
      List.Forall₂ Json.SameField fields ordered := by
  obtain ⟨standing, value', free, same, rfl⟩ := h
  obtain ⟨fields', ordered, rfl, perm, each⟩ := same.object_cases
  exact ⟨standing, fields', ordered, free, rfl, perm, each⟩

/-- Only null can stand for an absent thing. -/
theorem absent? {value : Json} (h : source.Shows value) (present : value ≠ .null) :
    source.absent? = some false := by
  obtain ⟨standing, value', _, same, rfl⟩ := h
  cases same with
  | refl =>
      cases value with
      | null => exact absurd rfl present
      | _ => rfl
  | array => rfl
  | object => rfl

end Shows

/-! ## Scalars and lists -/

theorem text?_of_shows {t : String} (h : source.Shows (.text t)) : text? source = pure t := by
  rw [h.text, text?_ofText]

theorem bool?_of_shows {b : Bool} (h : source.Shows (.bool b)) : bool? source = pure b := by
  rw [h.bool]
  rfl

section Collections

variable {α : Type} {read : Source → Reading α}

theorem mapM_of_forall₂ {sources : List Source} {values : List α}
    (h : List.Forall₂ (fun source value => read source = pure value) sources values) :
    sources.mapM read = pure values := by
  induction h with
  | nil => rfl
  | cons reads _ ih => simp only [List.mapM_cons, reads, ih, pure_bind]

theorem forall₂_reads {write : α → Json} {sources : List Source} {values : List α}
    (shows : List.Forall₂ (fun part value => part.Shows (write value)) sources values)
    (reads : ∀ value ∈ values, ∀ part : Source, part.Shows (write value) → read part = pure value) :
    List.Forall₂ (fun part value => read part = pure value) sources values := by
  induction shows with
  | nil => exact .nil
  | cons first _ ih =>
      refine .cons (reads _ (List.mem_cons_self ..) _ first) (ih ?_)
      intro value hvalue
      exact reads value (List.mem_cons_of_mem _ hvalue)

/-- If the parts of a list are read as what they show, the list is. -/
theorem list?_of_shows {write : α → Json} {values : List α}
    (h : source.Shows (.array (values.map write)))
    (reads : ∀ value ∈ values, ∀ part : Source, part.Shows (write value) → read part = pure value) :
    list? read source = pure values := by
  have follow := h.follow
  obtain ⟨standing, sources, _, rfl, shows⟩ := h.array
  rw [List.forall₂_map_right_iff] at shows
  rw [list?, follow, pure_bind]
  exact mapM_of_forall₂ (forall₂_reads shows reads)

theorem texts_of_shows {texts : List String} (h : source.Shows (.texts texts)) :
    list? text? source = pure texts :=
  list?_of_shows h fun _ _ _ shows => text?_of_shows shows

/-- What the entries of a map are read as, whose fields are listed in another order. -/
theorem exists_entries {β : Type} {fields : List (String × β)}
    {fields' ordered : List (String × Json)} {read : Source → Reading β}
    (perm : fields'.Perm ordered)
    (reads : List.Forall₂ (fun p q => p.1 = q.1 ∧ read (tree standing p.2) = pure q.2)
      ordered fields) :
    ∃ entries, entries.Perm fields ∧
      entries? read (treeFields standing fields') = pure entries := by
  obtain ⟨entries, reads', perm'⟩ := List.perm_comp_forall₂ perm reads
  refine ⟨entries, perm', ?_⟩
  clear perm perm' reads
  induction reads' with
  | nil => rfl
  | @cons p q _ _ first _ ih =>
      rw [entries?, treeFields, List.mapM_cons, ← entries?, ih]
      simp only [text?_ofText, first.2, pure_bind, first.1]

theorem forall₂_reads_fields {β : Type} {write : β → Json} {read : Source → Reading β}
    (free : standing ≠ .fixed) {fields : List (String × β)} {ordered : List (String × Json)}
    (same : List.Forall₂ (fun p q => Json.SameField (p.1, write p.2) q) fields ordered)
    (reads : ∀ p ∈ fields, ∀ part : Source, part.Shows (write p.2) → read part = pure p.2) :
    List.Forall₂ (fun q p => q.1 = p.1 ∧ read (tree standing q.2) = pure p.2) ordered fields := by
  induction same with
  | nil => exact .nil
  | @cons p q _ _ first _ ih =>
      obtain ⟨key, value⟩ := first
      have shows : (tree standing q.2).Shows (write p.2) := ⟨standing, q.2, free, value, rfl⟩
      refine .cons ⟨key.symm, reads p (List.mem_cons_self ..) _ shows⟩ (ih ?_)
      intro p hp
      exact reads p (List.mem_cons_of_mem _ hp)

/-- If the values of a dictionary are read as what they show, the dictionary is. -/
theorem dict?_of_shows {write : α → Json} {d : Dict α} (h : source.Shows (.ofFields (d.map write)))
    (reads : ∀ p ∈ d.entries, ∀ part : Source, part.Shows (write p.2) → read part = pure p.2) :
    dict? read source = pure d := by
  have follow := h.follow
  obtain ⟨standing, fields', ordered, free, rfl, perm, same⟩ := h.object
  rw [Dict.map, List.forall₂_map_left_iff] at same
  obtain ⟨entries, perm', hentries⟩ := exists_entries perm (forall₂_reads_fields free same reads)
  rw [dict?, follow, pure_bind]
  simp only [hentries, pure_bind, Dict.ofList_of_perm perm']

end Collections

/-! ## Values -/

theorem fields?_eq_entries? (entries : List (Source × Source)) :
    fields? entries = entries? value? entries := by
  induction entries with
  | nil => rfl
  | cons entry rest ih =>
      obtain ⟨key, item⟩ := entry
      rw [fields?, ih, entries?, entries?, List.mapM_cons]
      simp only [bind_assoc, pure_bind]

mutual

/-- A part that shows a canonical value is read as this value. -/
theorem value?_of_shows : ∀ value : Json, value.IsCanonical →
    ∀ source : Source, source.Shows value → value? source = pure value
  | .null, _, source, h => by
      rw [h.null]
      rfl
  | .bool b, _, source, h => by
      rw [h.bool]
      rfl
  | .text t, _, source, h => by
      rw [h.text]
      rfl
  | .int n, _, source, h => by
      obtain ⟨standing, value', _, same, rfl⟩ := h
      cases same
      rfl
  | .float x, c, source, h => by
      obtain ⟨standing, value', _, same, rfl⟩ := h
      cases same
      have stays : finite (.float x) = .float x := if_pos c
      have read : value? (tree standing (.float x)) = pure (finite (.float x)) := rfl
      rw [read, stays]
  | .array items, c, source, h => by
      obtain ⟨standing, sources, free, rfl, shows⟩ := h.array
      have read := values?_of_shows items c sources shows
      simp only [value?, free, if_false, read, pure_bind]
  | .object fields, c, source, h => by
      obtain ⟨standing, fields', ordered, free, rfl, perm, same⟩ := h.object
      have read := forall₂_value? standing free fields c.2 ordered same
      obtain ⟨entries, perm', hentries⟩ := exists_entries perm read
      have kept : Dict.ofList entries = ⟨fields, c.1⟩ := Dict.ofList_of_perm perm'
      simp only [value?, free, if_false, fields?_eq_entries?, hentries, pure_bind, kept]
      rfl

theorem values?_of_shows : ∀ items : List Json, Json.ItemsCanonical items →
    ∀ sources, List.Forall₂ Shows sources items → values? sources = pure items
  | [], _, sources, h => by
      cases h
      rfl
  | item :: rest, c, sources, h => by
      cases h with
      | cons first others =>
          have head := value?_of_shows item c.1 _ first
          have tail := values?_of_shows rest c.2 _ others
          simp only [values?, head, tail, pure_bind]

theorem forall₂_value? (standing : Standing) (free : standing ≠ .fixed) :
    ∀ fields : List (String × Json), Json.FieldsCanonical fields →
      ∀ ordered, List.Forall₂ Json.SameField fields ordered →
        List.Forall₂ (fun q p => q.1 = p.1 ∧ value? (tree standing q.2) = pure p.2) ordered fields
  | [], _, ordered, h => by
      cases h
      exact .nil
  | (key, value) :: rest, c, ordered, h => by
      cases h with
      | cons first others =>
          have shows : (tree standing _).Shows value := ⟨standing, _, free, first.2, rfl⟩
          have head := value?_of_shows value c.1 _ shows
          exact .cons ⟨first.1.symm, head⟩ (forall₂_value? standing free rest c.2 _ others)

end

/-! ## Records -/

/-- What is found under the names is what the fields of these names hold. -/
def FieldValues.Show (found : FieldValues) (names : List String) (fields : List (String × Json)) :
    Prop :=
  ∀ name ∈ names,
    Option.Rel (fun source value => source.Shows value) (found.lookup name) (fields.lookup name)

/-- The trees of fields, under their names. -/
def trees (standing : Standing) (fields : List (String × Json)) : FieldValues :=
  fields.map fun p => (p.1, tree standing p.2)

theorem fieldName?_ofText (names : List String) (key : String) :
    fieldName? names (ofText key) = pure (if key ∈ names then some key else none) := rfl

/-- Of fields with different names those that are known are collected. -/
theorem collectFields_treeFields (names : List String) {fields : List (String × Json)}
    (distinct : (fields.map (·.1)).Nodup) (found : FieldValues)
    (fresh : ∀ p ∈ fields, found.lookup p.1 = none) :
    collectFields names found (treeFields standing fields) =
      pure ((trees standing (fields.filter (·.1 ∈ names))).reverse ++ found) := by
  induction fields generalizing found with
  | nil => rfl
  | cons field rest ih =>
      obtain ⟨key, value⟩ := field
      rw [List.map_cons, List.nodup_cons] at distinct
      have fresh_rest (p : String × Json) (hp : p ∈ rest) : found.lookup p.1 = none :=
        fresh p (List.mem_cons_of_mem _ hp)
      rw [treeFields, collectFields, fieldName?_ofText, pure_bind]
      by_cases known : key ∈ names
      · rw [if_pos known, List.filter_cons_of_pos (by simpa using known)]
        have new : found.lookup key = none := fresh _ (List.mem_cons_self ..)
        dsimp only
        rw [new, Option.isSome_none, if_neg (by decide), ih distinct.2]
        · simp [trees]
        · intro p hp
          have other : p.1 ≠ key := by
            intro same
            exact distinct.1 (same ▸ List.mem_map.2 ⟨p, hp, rfl⟩)
          rw [List.lookup_cons, beq_false_of_ne other]
          exact fresh_rest p hp
      · rw [if_neg known, List.filter_cons_of_neg (by simpa using known)]
        exact ih distinct.2 found fresh_rest

theorem lookup_trees (fields : List (String × Json)) (key : String) :
    (trees standing fields).lookup key = (fields.lookup key).map (tree standing) :=
  lookup_map_snd (tree standing)

/-- What was collected is what the fields hold. -/
theorem show_trees (free : standing ≠ .fixed) (names : List String)
    {fields fields' ordered : List (String × Json)} (distinct : (fields'.map (·.1)).Nodup)
    (perm : fields'.Perm ordered) (same : List.Forall₂ Json.SameField fields ordered) :
    FieldValues.Show (trees standing (fields'.filter (·.1 ∈ names))).reverse names
      fields := by
  intro name known
  have found : (trees standing (fields'.filter (·.1 ∈ names))).reverse.lookup name =
      (ordered.lookup name).map (tree standing) := by
    rw [← lookup_eq_of_perm (List.reverse_perm _).symm, lookup_trees,
      lookup_filter_of_true (p := fun key => decide (key ∈ names)) (by simpa using known),
      lookup_eq_of_perm perm distinct]
    rw [trees, List.map_map]
    exact (List.filter_sublist.map _).nodup distinct
  have related := Json.lookup_sameField same name
  rw [found]
  revert related
  generalize fields.lookup name = value
  generalize ordered.lookup name = value'
  intro related
  cases related with
  | none => exact .none
  | some reorders => exact .some ⟨standing, _, free, reorders, rfl⟩

/-- The fields of a record are found under their names. -/
theorem record?_of_shows (names : List String) {fields : List (String × Json)}
    (distinct : (fields.map (·.1)).Nodup) (h : source.Shows (.object fields)) :
    ∃ found, record? names source = pure found ∧ FieldValues.Show found names fields := by
  have follow := h.follow
  obtain ⟨standing, fields', ordered, free, rfl, perm, same⟩ := h.object
  have distinct' := Json.nodup_of_sameField distinct perm same
  refine ⟨_, ?_, show_trees free names distinct' perm same⟩
  rw [record?, follow, pure_bind]
  have collected : collectFields names [] (treeFields standing fields') =
      pure ((trees standing (fields'.filter (·.1 ∈ names))).reverse ++ []) :=
    collectFields_treeFields names distinct' [] (by simp)
  rw [List.append_nil] at collected
  exact collected

/-- Of fields with different names the known ones are found, and the others are set aside. -/
theorem splitEntries_treeFields (free : standing ≠ .fixed) (names : List String)
    {fields : List (String × Json)} (distinct : (fields.map (·.1)).Nodup) (outer : FieldValues)
    (inner : List (Source × Source)) (fresh : ∀ p ∈ fields, outer.lookup p.1 = none) :
    splitEntries names outer inner (treeFields standing fields) =
      pure ((trees standing (fields.filter (·.1 ∈ names))).reverse ++ outer,
        inner.reverse ++ treeFields .aside (fields.filter (·.1 ∉ names))) := by
  induction fields generalizing outer inner with
  | nil => simp [splitEntries, treeFields, trees]
  | cons field rest ih =>
      obtain ⟨key, value⟩ := field
      rw [List.map_cons, List.nodup_cons] at distinct
      have fresh_rest (p : String × Json) (hp : p ∈ rest) : outer.lookup p.1 = none :=
        fresh p (List.mem_cons_of_mem _ hp)
      rw [treeFields, splitEntries, text?_ofText, pure_bind]
      by_cases known : key ∈ names
      · have new : outer.lookup key = none := fresh _ (List.mem_cons_self ..)
        rw [if_pos known, new, Option.isSome_none, if_neg (by decide), ih distinct.2]
        · simp [known, trees]
        · intro p hp
          have other : p.1 ≠ key := by
            intro same
            exact distinct.1 (same ▸ List.mem_map.2 ⟨p, hp, rfl⟩)
          rw [List.lookup_cons, beq_false_of_ne other]
          exact fresh_rest p hp
      · rw [if_neg known, setAside?_tree free, pure_bind, ih distinct.2 _ _ fresh_rest]
        simp [known, trees, treeFields, ofText]

/-- A record whose fields stand among those of another one: its own fields are found, and what is
set aside shows the other ones. -/
theorem splitRecord?_of_shows (names : List String) {fields : List (String × Json)}
    (distinct : (fields.map (·.1)).Nodup) (h : source.Shows (.object fields)) :
    ∃ found rest, splitRecord? names source = pure (found, rest) ∧
      FieldValues.Show found names fields ∧
      (Source.map .aside rest).Shows (.object (fields.filter (·.1 ∉ names))) := by
  have follow := h.follow
  obtain ⟨standing, fields', ordered, free, rfl, perm, same⟩ := h.object
  have distinct' := Json.nodup_of_sameField distinct perm same
  refine ⟨_, _, ?_, show_trees free names distinct' perm same,
    .aside, .object (fields'.filter (·.1 ∉ names)), by decide, ?_, rfl⟩
  · rw [splitRecord?, follow, pure_bind]
    have split := splitEntries_treeFields free names distinct' [] [] (by simp)
    rw [List.append_nil, List.reverse_nil, List.nil_append] at split
    exact split
  · apply Json.reorders_object (perm.filter _)
    exact Json.forall₂_sameField_filter (fun key => decide (key ∉ names)) same

/-! ## Fields -/

theorem Shows.option? {α : Type} {read : Source → Reading α} {written : Json} {x : α}
    (h : source.Shows written) (not_null : written ≠ .null) (reads : read source = pure x) :
    source.option? read = pure (some x) := by
  rw [Source.option?, h.follow, pure_bind, h.absent? not_null, reads]
  rfl

namespace FieldValues.Show

variable {α : Type} {found : FieldValues} {names : List String} {fields : List (String × Json)}
  {name : String} {read : Source → Reading α}

/-- A field that is there is found. -/
theorem exists_part (shows : found.Show names fields) (known : name ∈ names) {written : Json}
    (there : fields.lookup name = some written) :
    ∃ part, found.lookup name = some part ∧ part.Shows written := by
  have related := shows name known
  rw [there] at related
  cases hpart : found.lookup name with
  | none =>
      rw [hpart] at related
      cases related
  | some part =>
      rw [hpart] at related
      cases related with
      | some shows => exact ⟨part, rfl, shows⟩

theorem lookup_eq_none (shows : found.Show names fields) (known : name ∈ names)
    (missing : fields.lookup name = none) : found.lookup name = none := by
  have related := shows name known
  rw [missing] at related
  cases hpart : found.lookup name with
  | none => rfl
  | some part =>
      rw [hpart] at related
      cases related

theorem required (shows : found.Show names fields) (known : name ∈ names) {written : Json}
    (there : fields.lookup name = some written) {value : α}
    (reads : ∀ part : Source, part.Shows written → read part = pure value) :
    found.required name read = pure value := by
  obtain ⟨part, hpart, hshows⟩ := shows.exists_part known there
  rw [FieldValues.required, hpart]
  exact reads part hshows

theorem optional (write : α → Json) (shows : found.Show names fields) (known : name ∈ names)
    {value : Option α} (there : fields.lookup name = value.map write)
    (not_null : ∀ x, write x ≠ .null)
    (reads : ∀ x, value = some x → ∀ part : Source, part.Shows (write x) → read part = pure x) :
    found.optional name read = pure value := by
  cases value with
  | none => rw [FieldValues.optional, shows.lookup_eq_none known there]
  | some x =>
      obtain ⟨part, hpart, hshows⟩ := shows.exists_part known there
      rw [FieldValues.optional, hpart]
      exact hshows.option? (not_null x) (reads x rfl part hshows)

/-- A field that is null if there is nothing to write. -/
theorem nullable (write : α → Json) (shows : found.Show names fields) (known : name ∈ names)
    {value : Option α} (there : fields.lookup name = some ((value.map write).getD .null))
    (not_null : ∀ x, write x ≠ .null)
    (reads : ∀ x, value = some x → ∀ part : Source, part.Shows (write x) → read part = pure x) :
    found.optional name read = pure value := by
  obtain ⟨part, hpart, hshows⟩ := shows.exists_part known there
  rw [FieldValues.optional, hpart]
  cases value with
  | none =>
      rw [Option.map_none, Option.getD_none] at hshows
      rw [hshows.null]
      rfl
  | some x => exact hshows.option? (not_null x) (reads x rfl part hshows)

/-- A field that is left out if its value is the one that a missing field stands for. -/
theorem default (shows : found.Show names fields) (known : name ∈ names) {value missing : α}
    {left_out : Prop} [Decidable left_out] {written : Json}
    (there : fields.lookup name = if left_out then none else some written)
    (stands_for : left_out → value = missing)
    (reads : ¬ left_out → ∀ part : Source, part.Shows written → read part = pure value) :
    found.default name missing read = pure value := by
  by_cases h : left_out
  · rw [if_pos h] at there
    rw [FieldValues.default, shows.lookup_eq_none known there, stands_for h]
  · rw [if_neg h] at there
    obtain ⟨part, hpart, hshows⟩ := shows.exists_part known there
    rw [FieldValues.default, hpart]
    exact reads h part hshows

end FieldValues.Show

/-! ## Fields that may be left out -/

/-- The fields that are present among those that may be left out. -/
def present (slots : List (String × Option Json)) : List (String × Json) :=
  slots.filterMap fun slot => slot.2.map (slot.1, ·)

theorem distinct_present {slots : List (String × Option Json)} (h : (slots.map (·.1)).Nodup) :
    ((present slots).map (·.1)).Nodup := by
  have within : ((present slots).map (·.1)).Sublist (slots.map (·.1)) := by
    clear h
    induction slots with
    | nil => exact .slnil
    | cons slot rest ih =>
        obtain ⟨name, value⟩ := slot
        cases value with
        | none => exact ih.cons name
        | some written => exact ih.cons_cons name
  exact within.nodup h

theorem lookup_present {slots : List (String × Option Json)} (h : (slots.map (·.1)).Nodup)
    (name : String) : (present slots).lookup name = (slots.lookup name).join := by
  induction slots with
  | nil => rfl
  | cons slot rest ih =>
      obtain ⟨key, value⟩ := slot
      rw [List.map_cons, List.nodup_cons] at h
      have ih := ih h.2
      cases value with
      | none =>
          have same : present ((key, none) :: rest) = present rest := rfl
          rw [same, ih, List.lookup_cons]
          by_cases hkey : name = key
          · subst hkey
            simp [lookup_eq_none_of_not_mem h.1]
          · rw [beq_false_of_ne hkey]
      | some written =>
          have same : present ((key, some written) :: rest) = (key, written) :: present rest := rfl
          rw [same, List.lookup_cons, List.lookup_cons, ih]
          cases name == key <;> rfl

theorem present_filter (p : String → Bool) (slots : List (String × Option Json)) :
    (present slots).filter (p ·.1) = present (slots.filter (p ·.1)) := by
  induction slots with
  | nil => rfl
  | cons slot rest ih =>
      obtain ⟨name, value⟩ := slot
      by_cases h : p name = true
      · rw [List.filter_cons_of_pos (by exact h)]
        cases value with
        | none => exact ih
        | some written =>
            exact (List.filter_cons_of_pos (by exact h)).trans (congrArg _ ih)
      · rw [List.filter_cons_of_neg (by exact h)]
        cases value with
        | none => exact ih
        | some written => exact (List.filter_cons_of_neg (by exact h)).trans ih

end Source

end Workflow
