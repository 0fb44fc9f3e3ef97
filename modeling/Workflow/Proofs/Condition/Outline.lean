import Workflow.Proofs.Condition.Cut

/-!
# Labels as trees of comparisons

The cutting of a label as a whole is a relation between the label and a tree with the unread sides
of its comparisons. What a condition reads, which placeholders its label holds, and what becomes of
both when the words of the label are rewritten is decided by the comparisons alone.

Main statements: `parse_eq_ok_iff`, `IsOutline.mapWords` and `IsOutline.references`.
-/

namespace Workflow.Condition

open Text

/-! ## Definitions -/

/-- A condition whose comparisons are not read yet. -/
inductive Outline where
  | compare (left : List Char) (op : Comparison) (right : List Char)
  | and (left right : Outline)
  | or (left right : Outline)
  | not (inner : Outline)
  | const (value : Bool)
deriving DecidableEq, Repr

namespace Outline

/-- The two sides of each comparison, in order. -/
def comparisons : Outline → List (List Char × List Char)
  | compare left _ right => [(left, right)]
  | and left right => left.comparisons ++ right.comparisons
  | or left right => left.comparisons ++ right.comparisons
  | not inner => inner.comparisons
  | const _ => []

def map (f : List Char → List Char) : Outline → Outline
  | compare left op right => compare (f left) op (f right)
  | and left right => and (left.map f) (right.map f)
  | or left right => or (left.map f) (right.map f)
  | not inner => not (inner.map f)
  | const value => const value

/-- The condition, if every comparison can be read. -/
def read? : Outline → Option Condition
  | compare left op right => do
      let path ← (parsePath left).toOption
      let literal ← (parseLiteral right).toOption
      return .compare path op literal
  | and left right => do
      let l ← left.read?
      let r ← right.read?
      return .and l r
  | or left right => do
      let l ← left.read?
      let r ← right.read?
      return .or l r
  | not inner => inner.read?.map .not
  | const value => some (.const value)

end Outline

/-- The path and the literal of each comparison, in order. -/
def comparisons : Condition → List (Path × Literal)
  | .compare path _ right => [(path, right)]
  | .and left right => left.comparisons ++ right.comparisons
  | .or left right => left.comparisons ++ right.comparisons
  | .not inner => inner.comparisons
  | .const _ => []

/-- The condition with every path replaced. -/
def mapPaths (f : Path → Path) : Condition → Condition
  | .compare path op right => .compare (f path) op right
  | .and left right => .and (mapPaths f left) (mapPaths f right)
  | .or left right => .or (mapPaths f left) (mapPaths f right)
  | .not inner => .not (mapPaths f inner)
  | .const value => .const value

/-- The condition with every path and every literal replaced. -/
def rewrite (onPath : Path → Path) (onLiteral : Literal → Literal) : Condition → Condition
  | .compare path op right => .compare (onPath path) op (onLiteral right)
  | .and left right => .and (rewrite onPath onLiteral left) (rewrite onPath onLiteral right)
  | .or left right => .or (rewrite onPath onLiteral left) (rewrite onPath onLiteral right)
  | .not inner => .not (rewrite onPath onLiteral inner)
  | .const value => .const value

/-- The literal with its text replaced, if it is a text. -/
def mapText (f : String → String) : Literal → Literal
  | .text value => .text (f value)
  | other => other

/-- The tree that a label is cut into. -/
inductive IsOutline : List Char → Outline → Prop where
  | group {label inner : List Char} {o : Outline} : cut? label = some (.group inner) →
      IsOutline inner o → IsOutline label o
  | const {label : List Char} {value : Bool} : cut? label = some (.const value) →
      IsOutline label (.const value)
  | or {label left right : List Char} {l r : Outline} : cut? label = some (.or left right) →
      IsOutline left l → IsOutline right r → IsOutline label (.or l r)
  | and {label left right : List Char} {l r : Outline} : cut? label = some (.and left right) →
      IsOutline left l → IsOutline right r → IsOutline label (.and l r)
  | not {label inner : List Char} {o : Outline} : cut? label = some (.not inner) →
      IsOutline inner o → IsOutline label (.not o)
  | compare {label left right : List Char} {op : Comparison} :
      cut? label = some (.compare left op right) → IsOutline label (.compare left op right)

/-! ## Reading a tree -/

theorem paths_eq_map (e : Condition) : e.paths = e.comparisons.map Prod.fst := by
  induction e with
  | compare path op right => rfl
  | and left right ihl ihr => rw [paths, comparisons, List.map_append, ihl, ihr]
  | or left right ihl ihr => rw [paths, comparisons, List.map_append, ihl, ihr]
  | not inner ih => exact ih
  | const value => rfl

theorem paths_rewrite (onPath : Path → Path) (onLiteral : Literal → Literal) (e : Condition) :
    (rewrite onPath onLiteral e).paths = e.paths.map onPath := by
  induction e with
  | compare path op right => rfl
  | and left right ihl ihr => simp [rewrite, paths, ihl, ihr]
  | or left right ihl ihr => simp [rewrite, paths, ihl, ihr]
  | not inner ih => exact ih
  | const value => rfl

theorem rewrite_id (f : Path → Path) (e : Condition) : rewrite f id e = mapPaths f e := by
  induction e with
  | compare path op right => rfl
  | and left right ihl ihr => rw [rewrite, mapPaths, ihl, ihr]
  | or left right ihl ihr => rw [rewrite, mapPaths, ihl, ihr]
  | not inner ih => rw [rewrite, mapPaths, ih]
  | const value => rfl

theorem paths_mapPaths (f : Path → Path) (e : Condition) :
    (mapPaths f e).paths = e.paths.map f := by
  rw [← rewrite_id, paths_rewrite]

namespace Outline

theorem read?_compare_eq_some {left right : List Char} {op : Comparison} {e : Condition} :
    (compare left op right).read? = some e ↔
      ∃ path literal, parsePath left = .ok path ∧ parseLiteral right = .ok literal ∧
        e = .compare path op literal := by
  rw [read?]
  constructor
  · intro h
    obtain ⟨path, hpath, h⟩ := Option.bind_eq_some_iff.1 h
    obtain ⟨literal, hliteral, h⟩ := Option.bind_eq_some_iff.1 h
    exact ⟨path, literal, toOption_eq_some_iff.1 hpath, toOption_eq_some_iff.1 hliteral,
      (Option.some.inj h).symm⟩
  · rintro ⟨path, literal, hpath, hliteral, rfl⟩
    rw [hpath, hliteral]
    rfl

theorem read?_both_eq_some {make : Condition → Condition → Condition} {left right : Outline}
    {e : Condition} :
    (do let l ← left.read?; let r ← right.read?; return make l r) = some e ↔
      ∃ l r, left.read? = some l ∧ right.read? = some r ∧ e = make l r := by
  constructor
  · intro h
    obtain ⟨l, hl, h⟩ := Option.bind_eq_some_iff.1 h
    obtain ⟨r, hr, h⟩ := Option.bind_eq_some_iff.1 h
    exact ⟨l, r, hl, hr, (Option.some.inj h).symm⟩
  · rintro ⟨l, r, hl, hr, rfl⟩
    rw [hl, hr]
    rfl

/-- A tree can be read if its comparisons can. -/
theorem exists_read? {o : Outline}
    (h : ∀ c ∈ o.comparisons, (∃ path, parsePath c.1 = .ok path) ∧
      ∃ literal, parseLiteral c.2 = .ok literal) : ∃ e, o.read? = some e := by
  have both : ∀ (make : Condition → Condition → Condition) {left right : Outline},
      (∃ e, left.read? = some e) → (∃ e, right.read? = some e) →
        ∃ e, (do let l ← left.read?; let r ← right.read?; return make l r) = some e := by
    rintro make left right ⟨l, hl⟩ ⟨r, hr⟩
    exact ⟨make l r, read?_both_eq_some.2 ⟨l, r, hl, hr, rfl⟩⟩
  induction o with
  | compare left op right =>
      obtain ⟨⟨path, hpath⟩, literal, hliteral⟩ := h _ (List.mem_singleton_self _)
      exact ⟨_, read?_compare_eq_some.2 ⟨path, literal, hpath, hliteral, rfl⟩⟩
  | and left right ihl ihr =>
      exact both .and (ihl fun c hc => h c (List.mem_append_left _ hc))
        (ihr fun c hc => h c (List.mem_append_right _ hc))
  | or left right ihl ihr =>
      exact both .or (ihl fun c hc => h c (List.mem_append_left _ hc))
        (ihr fun c hc => h c (List.mem_append_right _ hc))
  | not inner ih =>
      obtain ⟨e, he⟩ := ih h
      exact ⟨.not e, by rw [read?, he]; rfl⟩
  | const value => exact ⟨_, rfl⟩

/-- What is read of a tree has the paths and literals that its comparisons are read as, in order. -/
theorem map_sides_of_read? {o : Outline} {e : Condition} (h : o.read? = some e) :
    o.comparisons.map (fun c => (parsePath c.1, parseLiteral c.2)) =
      e.comparisons.map fun r => (.ok r.1, .ok r.2) := by
  induction o generalizing e with
  | compare left op right =>
      obtain ⟨path, literal, hpath, hliteral, rfl⟩ := read?_compare_eq_some.1 h
      simp [comparisons, Condition.comparisons, hpath, hliteral]
  | and left right ihl ihr =>
      obtain ⟨l, r, hl, hr, rfl⟩ := read?_both_eq_some.1 h
      rw [comparisons, Condition.comparisons, List.map_append, List.map_append, ihl hl, ihr hr]
  | or left right ihl ihr =>
      obtain ⟨l, r, hl, hr, rfl⟩ := read?_both_eq_some.1 h
      rw [comparisons, Condition.comparisons, List.map_append, List.map_append, ihl hl, ihr hr]
  | not inner ih =>
      obtain ⟨e', he', rfl⟩ := Option.map_eq_some_iff.1 h
      rw [comparisons, Condition.comparisons, ih he']
  | const value =>
      obtain rfl := Option.some.inj h
      rfl

theorem map_parsePath_of_read? {o : Outline} {e : Condition} (h : o.read? = some e) :
    o.comparisons.map (fun c => parsePath c.1) = e.paths.map .ok := by
  have paths := congrArg (List.map Prod.fst) (map_sides_of_read? h)
  rw [paths_eq_map, List.map_map]
  rwa [List.map_map, List.map_map] at paths

/-- The right sides of a tree that is read are literals. -/
theorem exists_literal_of_read? {o : Outline} {e : Condition} (h : o.read? = some e) :
    ∀ c ∈ o.comparisons, ∃ literal, parseLiteral c.2 = .ok literal := by
  intro c hc
  have hmem : (parsePath c.1, parseLiteral c.2) ∈
      o.comparisons.map fun c => (parsePath c.1, parseLiteral c.2) := List.mem_map.2 ⟨c, hc, rfl⟩
  rw [map_sides_of_read? h] at hmem
  obtain ⟨r, -, same⟩ := List.mem_map.1 hmem
  exact ⟨r.2, (congrArg Prod.snd same).symm⟩

theorem exists_path_of_mem_comparisons {o : Outline} {e : Condition} (h : o.read? = some e)
    {c : List Char × List Char} (hc : c ∈ o.comparisons) :
    ∃ path ∈ e.paths, parsePath c.1 = .ok path := by
  have hmem : parsePath c.1 ∈ o.comparisons.map fun c => parsePath c.1 :=
    List.mem_map.2 ⟨c, hc, rfl⟩
  rw [map_parsePath_of_read? h] at hmem
  obtain ⟨path, hpath, heq⟩ := List.mem_map.1 hmem
  exact ⟨path, hpath, heq.symm⟩

theorem exists_comparison_of_mem_paths {o : Outline} {e : Condition} (h : o.read? = some e)
    {path : Path} (hpath : path ∈ e.paths) : ∃ c ∈ o.comparisons, parsePath c.1 = .ok path := by
  have hmem : (.ok path : Except ParseError Path) ∈ e.paths.map .ok := List.mem_map_of_mem hpath
  rw [← map_parsePath_of_read? h] at hmem
  exact List.mem_map.1 hmem

theorem comparisons_map (f : List Char → List Char) (o : Outline) :
    (o.map f).comparisons = o.comparisons.map fun c => (f c.1, f c.2) := by
  induction o with
  | compare left op right => rfl
  | and left right ihl ihr => simp [map, comparisons, ihl, ihr]
  | or left right ihl ihr => simp [map, comparisons, ihl, ihr]
  | not inner ih => exact ih
  | const value => rfl

theorem map_map (f g : List Char → List Char) (o : Outline) :
    (o.map f).map g = o.map (g ∘ f) := by
  induction o with
  | compare left op right => rfl
  | and left right ihl ihr => simp [map, ihl, ihr]
  | or left right ihl ihr => simp [map, ihl, ihr]
  | not inner ih => simp [map, ih]
  | const value => rfl

/-- If a rewriting replaces the path and the literal of every comparison, the tree reads as the
condition with all of them replaced. -/
theorem read?_map {f : List Char → List Char} {onPath : Path → Path} {onLiteral : Literal → Literal}
    {o : Outline} {e : Condition}
    (hpaths : ∀ c ∈ o.comparisons, ∀ path, parsePath c.1 = .ok path →
      parsePath (f c.1) = .ok (onPath path))
    (hliterals : ∀ c ∈ o.comparisons, ∀ literal, parseLiteral c.2 = .ok literal →
      parseLiteral (f c.2) = .ok (onLiteral literal))
    (h : o.read? = some e) : (o.map f).read? = some (rewrite onPath onLiteral e) := by
  induction o generalizing e with
  | compare left op right =>
      obtain ⟨path, literal, hpath, hliteral, rfl⟩ := read?_compare_eq_some.1 h
      have here := List.mem_singleton_self (left, right)
      exact read?_compare_eq_some.2 ⟨onPath path, onLiteral literal, hpaths _ here path hpath,
        hliterals _ here literal hliteral, rfl⟩
  | and left right ihl ihr =>
      obtain ⟨l, r, hl, hr, rfl⟩ := read?_both_eq_some.1 h
      refine read?_both_eq_some.2 ⟨_, _, ihl (fun c hc => ?_) (fun c hc => ?_) hl,
        ihr (fun c hc => ?_) (fun c hc => ?_) hr, rfl⟩
      · exact hpaths c (List.mem_append_left _ hc)
      · exact hliterals c (List.mem_append_left _ hc)
      · exact hpaths c (List.mem_append_right _ hc)
      · exact hliterals c (List.mem_append_right _ hc)
  | or left right ihl ihr =>
      obtain ⟨l, r, hl, hr, rfl⟩ := read?_both_eq_some.1 h
      refine read?_both_eq_some.2 ⟨_, _, ihl (fun c hc => ?_) (fun c hc => ?_) hl,
        ihr (fun c hc => ?_) (fun c hc => ?_) hr, rfl⟩
      · exact hpaths c (List.mem_append_left _ hc)
      · exact hliterals c (List.mem_append_left _ hc)
      · exact hpaths c (List.mem_append_right _ hc)
      · exact hliterals c (List.mem_append_right _ hc)
  | not inner ih =>
      obtain ⟨e', he', rfl⟩ := Option.map_eq_some_iff.1 h
      rw [map, read?, ih hpaths hliterals he']
      rfl
  | const value =>
      obtain rfl := Option.some.inj h
      rfl

end Outline

/-! ## The whole label -/

namespace IsOutline

/-- A label reads as its tree does. -/
theorem toOption_parseChars {label : List Char} {o : Outline} (h : IsOutline label o) :
    (parseChars label).toOption = o.read? := by
  have both : ∀ (make : Condition → Condition → Condition) (x y : Except ParseError Condition),
      Except.toOption (do let l ← x; let r ← y; return make l r) =
        (do let l ← x.toOption; let r ← y.toOption; return make l r) := by
    intro make x y
    cases x <;> cases y <;> rfl
  induction h with
  | group hcut inner ih => rw [Condition.toOption_parseChars, hcut, ← ih]; rfl
  | const hcut => rw [Condition.toOption_parseChars, hcut]; rfl
  | or hcut left right ihl ihr =>
      rw [Condition.toOption_parseChars, hcut, Outline.read?, ← ihl, ← ihr]
      exact both .or _ _
  | and hcut left right ihl ihr =>
      rw [Condition.toOption_parseChars, hcut, Outline.read?, ← ihl, ← ihr]
      exact both .and _ _
  | not hcut inner ih =>
      rw [Condition.toOption_parseChars, hcut, Outline.read?, ← ih]
      rename_i inner' _
      show Except.toOption (Except.map Condition.not (parseChars inner')) = _
      cases parseChars inner' <;> rfl
  | compare hcut =>
      rw [Condition.toOption_parseChars, hcut, Outline.read?]
      rename_i left right op
      show Except.toOption (Cut.read (.compare left op right)) = _
      rw [Cut.read]
      cases parsePath left <;> cases parseLiteral right <;> rfl

theorem read?_eq_some {label : String} {o : Outline} (h : IsOutline label.toList o) {e : Condition}
    (he : parse label = .ok e) : o.read? = some e := by
  rw [← h.toOption_parseChars, toOption_eq_some_iff]
  exact he

/-- The tree of a label whose words are rewritten. -/
theorem mapWords {f : Bool → List Char → List Char} (tame : IsTame f) {label : List Char}
    {o : Outline} (h : IsOutline label o) :
    IsOutline (Condition.mapWords f label) (o.map (Condition.mapWords f)) := by
  have cut : ∀ {label : List Char} {c : Cut}, cut? label = some c →
      cut? (Condition.mapWords f label) = some (c.map (Condition.mapWords f)) := by
    intro label c hc
    rw [cut?_mapWords tame, hc]
    rfl
  induction h with
  | group hcut _ ih => exact .group (cut hcut) ih
  | const hcut => exact .const (cut hcut)
  | or hcut _ _ ihl ihr => exact .or (cut hcut) ihl ihr
  | and hcut _ _ ihl ihr => exact .and (cut hcut) ihl ihr
  | not hcut _ ih => exact .not (cut hcut) ih
  | compare hcut => exact .compare (cut hcut)

/-- The placeholders of a label are those of its comparisons. -/
theorem references {label : List Char} {o : Outline} (h : IsOutline label o) :
    (Template.ofChars label).references =
      o.comparisons.flatMap fun c =>
        (Template.ofChars c.1).references ++ (Template.ofChars c.2).references := by
  induction h with
  | group hcut _ ih => simp [references_cut hcut, Cut.parts, ih]
  | const hcut => simp [references_cut hcut, Cut.parts, Outline.comparisons]
  | or hcut _ _ ihl ihr => simp [references_cut hcut, Cut.parts, Outline.comparisons, ihl, ihr]
  | and hcut _ _ ihl ihr => simp [references_cut hcut, Cut.parts, Outline.comparisons, ihl, ihr]
  | not hcut _ ih => simp [references_cut hcut, Cut.parts, Outline.comparisons, ih]
  | compare hcut => simp [references_cut hcut, Cut.parts, Outline.comparisons]

/-- The sides of the comparisons stand in the label. -/
theorem isInfix {label : List Char} {o : Outline} (h : IsOutline label o) :
    ∀ c ∈ o.comparisons, c.1 <:+: label ∧ c.2 <:+: label := by
  have part : ∀ {label part : List Char} {cut : Cut}, cut? label = some cut → part ∈ cut.parts →
      part <:+: label := fun hcut hpart => (part_of_cut? hcut hpart).1
  have within : ∀ {label part : List Char} {c : List Char × List Char}, part <:+: label →
      c.1 <:+: part ∧ c.2 <:+: part → c.1 <:+: label ∧ c.2 <:+: label :=
    fun h hc => ⟨hc.1.trans h, hc.2.trans h⟩
  induction h with
  | group hcut _ ih => exact fun c hc => within (part hcut (by simp [Cut.parts])) (ih c hc)
  | const hcut => exact fun c hc => absurd hc List.not_mem_nil
  | or hcut _ _ ihl ihr =>
      intro c hc
      rcases List.mem_append.1 hc with hc | hc
      · exact within (part hcut (by simp [Cut.parts])) (ihl c hc)
      · exact within (part hcut (by simp [Cut.parts])) (ihr c hc)
  | and hcut _ _ ihl ihr =>
      intro c hc
      rcases List.mem_append.1 hc with hc | hc
      · exact within (part hcut (by simp [Cut.parts])) (ihl c hc)
      · exact within (part hcut (by simp [Cut.parts])) (ihr c hc)
  | not hcut _ ih => exact fun c hc => within (part hcut (by simp [Cut.parts])) (ih c hc)
  | compare hcut =>
      intro c hc
      obtain rfl := List.mem_singleton.1 hc
      exact ⟨part hcut (by simp [Cut.parts]), part hcut (by simp [Cut.parts])⟩

end IsOutline

/-- What is made of two texts is read of both of them. -/
theorem parseChars_both_eq_ok {make : Condition → Condition → Condition} {left right : List Char}
    {e : Condition}
    (h : (do let l ← parseChars left; let r ← parseChars right; return make l r) = .ok e) :
    ∃ l r, parseChars left = .ok l ∧ parseChars right = .ok r := by
  cases hl : parseChars left with
  | error _ => rw [hl] at h; cases h
  | ok l =>
      cases hr : parseChars right with
      | error _ => rw [hl, hr] at h; cases h
      | ok r => exact ⟨l, r, rfl, rfl⟩

/-- A label that is a condition has a tree. -/
theorem exists_isOutline {label : List Char} {e : Condition} (h : parseChars label = .ok e) :
    ∃ o, IsOutline label o := by
  induction hn : label.length using Nat.strong_induction_on generalizing label e with
  | _ n ih =>
      -- The parts that a label is cut into are shorter than it.
      have shorter : ∀ {cut : Cut} {part : List Char} {e : Condition}, cut? label = some cut →
          part ∈ cut.parts → parseChars part = .ok e → ∃ o, IsOutline part o := by
        intro cut part e hcut hpart he
        exact ih part.length (hn ▸ (part_of_cut? hcut hpart).2) he rfl
      have hread := Condition.toOption_parseChars label
      rw [h] at hread
      obtain ⟨cut, hcut, he⟩ := Option.bind_eq_some_iff.1 hread.symm
      have he := toOption_eq_some_iff.1 he
      cases cut with
      | group inner =>
          obtain ⟨o, ho⟩ := shorter hcut (by simp [Cut.parts]) he
          exact ⟨o, .group hcut ho⟩
      | const value => exact ⟨_, .const hcut⟩
      | or left right =>
          obtain ⟨_, _, hl, hr⟩ := parseChars_both_eq_ok he
          obtain ⟨_, hl⟩ := shorter hcut (by simp [Cut.parts]) hl
          obtain ⟨_, hr⟩ := shorter hcut (by simp [Cut.parts]) hr
          exact ⟨_, .or hcut hl hr⟩
      | and left right =>
          obtain ⟨_, _, hl, hr⟩ := parseChars_both_eq_ok he
          obtain ⟨_, hl⟩ := shorter hcut (by simp [Cut.parts]) hl
          obtain ⟨_, hr⟩ := shorter hcut (by simp [Cut.parts]) hr
          exact ⟨_, .and hcut hl hr⟩
      | not inner =>
          cases hinner : parseChars inner with
          | error e => rw [Cut.read, hinner] at he; cases he
          | ok i =>
              obtain ⟨o, ho⟩ := shorter hcut (by simp [Cut.parts]) hinner
              exact ⟨_, .not hcut ho⟩
      | compare left op right => exact ⟨_, .compare hcut⟩

/-- A label is a condition just if it has a tree whose comparisons can be read. -/
theorem parse_eq_ok_iff (label : String) (e : Condition) :
    parse label = .ok e ↔ ∃ o, IsOutline label.toList o ∧ o.read? = some e := by
  constructor
  · intro h
    obtain ⟨o, ho⟩ := exists_isOutline h
    exact ⟨o, ho, ho.read?_eq_some h⟩
  · rintro ⟨o, ho, he⟩
    rw [← ho.toOption_parseChars] at he
    exact toOption_eq_some_iff.1 he

end Workflow.Condition
