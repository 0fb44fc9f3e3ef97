import Workflow.Proofs.Condition.Composition
import Workflow.Proofs.Condition.Quotation

/-!
# Balance is kept by cutting

A label is well paired if it is made of plain characters, quoted runs and groups in parentheses that
are well paired inside. This is what counting finds out. Cuts are made where nothing is open, and
the words that they are made at open nothing, so that the parts of a well-paired label are well
paired and only the label itself, never a part of it, is refused for its quotes and parentheses.

Main statements: `balanced_iff_isPaired` and `parse_refuses_unpaired`.
-/

namespace Workflow.Condition

open Text

/-! ## Well-paired texts -/

/-- Quotes and, outside them, parentheses come in pairs. -/
inductive IsPaired : List Char → Prop where
  | nil : IsPaired []
  | plain {c : Char} {rest : List Char} : isPlain c = true → IsPaired rest → IsPaired (c :: rest)
  /-- A quoted run ends with the first quote of its kind; in it parentheses do not count. -/
  | quoted {quote : Char} {inner rest : List Char} : isQuote quote = true → quote ∉ inner →
      IsPaired rest → IsPaired (quote :: (inner ++ quote :: rest))
  | group {inner rest : List Char} : IsPaired inner → IsPaired rest →
      IsPaired ('(' :: (inner ++ ')' :: rest))

/-- The text closes `depth` parentheses that were opened before it, and is well paired
in between. -/
def Closes : Nat → List Char → Prop
  | 0, text => IsPaired text
  | depth + 1, text =>
      ∃ inner rest, text = inner ++ ')' :: rest ∧ IsPaired inner ∧ Closes depth rest

/-- The text closes what is open in the nesting. -/
def Nesting.ClosedBy (n : Nesting) (text : List Char) : Prop :=
  match n.quote with
  | none => Closes n.depth text
  | some quote => ∃ inner rest, text = inner ++ quote :: rest ∧ quote ∉ inner ∧ Closes n.depth rest

namespace Closes

variable {rest inner : List Char} {depth : Nat}

/-- What may stand before all well-paired texts may stand before all that close something. -/
theorem prepend (before : List Char)
    (paired : ∀ {rest : List Char}, IsPaired rest → IsPaired (before ++ rest))
    (h : Closes depth rest) : Closes depth (before ++ rest) := by
  cases depth with
  | zero => exact paired h
  | succ depth =>
      obtain ⟨inner, tail, rfl, hinner, htail⟩ := h
      exact ⟨before ++ inner, tail, (List.append_assoc ..).symm, paired hinner, htail⟩

theorem plain {c : Char} (hc : isPlain c = true) (h : Closes depth rest) :
    Closes depth (c :: rest) :=
  h.prepend [c] (IsPaired.plain hc)

theorem quoted {quote : Char} (hquote : isQuote quote = true) (hinner : quote ∉ inner)
    (h : Closes depth rest) : Closes depth (quote :: (inner ++ quote :: rest)) := by
  have run : ∀ {rest : List Char}, IsPaired rest →
      IsPaired ((quote :: (inner ++ [quote])) ++ rest) := by
    intro rest hrest
    simpa using IsPaired.quoted hquote hinner hrest
  simpa using h.prepend (quote :: (inner ++ [quote])) run

theorem group (hinner : IsPaired inner) (h : Closes depth rest) :
    Closes depth ('(' :: (inner ++ ')' :: rest)) := by
  have around : ∀ {rest : List Char}, IsPaired rest →
      IsPaired (('(' :: (inner ++ [')'])) ++ rest) := by
    intro rest hrest
    simpa using IsPaired.group hinner hrest
  simpa using h.prepend ('(' :: (inner ++ [')'])) around

end Closes

theorem Nesting.closedBy_of_after {n : Nesting} {text : List Char}
    (h : n.after text = some .outside) : n.ClosedBy text := by
  induction n, text, h using after_induction with
  | nil => exact IsPaired.nil
  | cons n next c rest hstep _ closed =>
      cases steps_of_step hstep with
      | closeQuote => exact ⟨[], rest, rfl, List.not_mem_nil, closed⟩
      | quoted _ hne =>
          obtain ⟨inner, tail, rfl, hinner, htail⟩ := closed
          exact ⟨c :: inner, tail, rfl, List.not_mem_cons_of_ne_of_not_mem hne.symm hinner, htail⟩
      | openQuote _ hquote =>
          obtain ⟨inner, tail, rfl, hinner, htail⟩ := closed
          exact Closes.quoted hquote hinner htail
      | openGroup =>
          -- What follows closes one more, and up to there is a group.
          obtain ⟨inner, tail, rfl, hinner, htail⟩ := closed
          exact Closes.group hinner htail
      | closeGroup => exact ⟨[], rest, rfl, .nil, closed⟩
      | plain _ plain => exact Closes.plain plain closed

theorem IsPaired.closed {text : List Char} (h : IsPaired text) :
    Nesting.outside.after text = some .outside := by
  induction h with
  | nil => rfl
  | plain plain _ ih =>
      rw [Nesting.after_cons, Nesting.outside, Nesting.step_of_isPlain plain 0]
      exact ih
  | @quoted quote inner rest hquote hinner _ ih =>
      have run := Nesting.after_quoted hquote hinner
      rw [show quote :: (inner ++ quote :: rest) = quote :: (inner ++ [quote]) ++ rest by simp,
        Nesting.after_append, run]
      exact ih
  | @group inner rest _ _ inside ih =>
      have group := after_group inside
      rw [show '(' :: (inner ++ ')' :: rest) = '(' :: (inner ++ [')']) ++ rest by simp,
        Nesting.after_append, group]
      exact ih

/-- Counting tells the well-paired texts from the others. -/
theorem balanced_iff_isPaired (text : List Char) : balanced text = true ↔ IsPaired text := by
  rw [balanced_iff]
  constructor
  · intro h
    exact Nesting.closedBy_of_after h
  · exact IsPaired.closed

/-! ## Parts of a well-paired label -/

/-- The parts that are read as conditions again. -/
def Cut.conditions : Cut → List (List Char)
  | group inner => [inner]
  | const _ => []
  | or left right => [left, right]
  | and left right => [left, right]
  | not inner => [inner]
  | compare _ _ _ => []

theorem Cut.conditions_subset (cut : Cut) : cut.conditions ⊆ cut.parts := by
  cases cut <;> simp [conditions, parts]

/-- Where a well-paired text is cut at a word that opens nothing, both parts are well paired. -/
theorem isPaired_of_splitTop {word text left right : List Char}
    (opens_nothing : Nesting.outside.after word = some .outside) (h : IsPaired text)
    (hcut : splitTop word text = some (left, right)) : IsPaired left ∧ IsPaired right := by
  have before := after_of_splitTopAt hcut
  have whole := h.closed
  rw [append_of_splitTop hcut, Nesting.after_append, Nesting.after_append, before, Option.bind_some,
    opens_nothing, Option.bind_some] at whole
  rw [← balanced_iff_isPaired, ← balanced_iff_isPaired, balanced_iff, balanced_iff]
  exact ⟨before, whole⟩

/-- The parts of a label that is cut are well paired where they are read as conditions. -/
theorem isPaired_of_cut? {label part : List Char} {cut : Cut} (h : cut? label = some cut)
    (hpart : part ∈ cut.conditions) : IsPaired part := by
  obtain ⟨closed, found⟩ := foundIn_of_cut? h
  have paired := (balanced_iff_isPaired _).1 closed
  have either : ∀ {left right : List Char}, IsPaired left ∧ IsPaired right →
      part ∈ [left, right] → IsPaired part := by
    rintro left right ⟨hleft, hright⟩ hpart
    rcases List.mem_cons.1 hpart with rfl | hpart
    · exact hleft
    · exact List.mem_singleton.1 hpart ▸ hright
  cases cut with
  | group inner =>
      obtain rfl := List.mem_singleton.1 hpart
      exact (balanced_iff_isPaired _).1 (balanced_of_stripParens found)
  | const _ => cases hpart
  | or left right => exact either (isPaired_of_splitTop (by decide) paired found) hpart
  | and left right => exact either (isPaired_of_splitTop (by decide) paired found) hpart
  | not inner =>
      obtain rfl := List.mem_singleton.1 hpart
      have opens_nothing : Nesting.outside.after notWord = some .outside := by decide
      have whole := paired.closed
      rw [append_of_afterStart? found, Nesting.after_append, opens_nothing,
        Option.bind_some] at whole
      exact (balanced_iff_isPaired _).1 ((balanced_iff _).2 whole)
  | compare _ _ _ => cases hpart

theorem error_of_parsePath {text : List Char} {e : ParseError} (h : parsePath text = .error e) :
    ∃ raw, e = .invalidPath raw := by
  simp only [parsePath] at h
  split at h
  · split at h
    · cases h
    · cases h
      exact ⟨_, rfl⟩
  · cases h
    exact ⟨_, rfl⟩

theorem error_of_parseLiteral {text : List Char} {e : ParseError}
    (h : parseLiteral text = .error e) : ∃ written, e = .invalidLiteral written := by
  simp only [parseLiteral] at h
  split at h
  · cases h
  · cases h
  · cases h
  · split at h
    · cases h
    · split at h
      · cases h
      · cases h
        exact ⟨_, rfl⟩

/-- Where quotes or parentheses are the trouble of a label that is cut, they are so in a part that
is read as a condition. -/
theorem Cut.exists_unbalanced {cut : Cut} {text : String}
    (h : cut.read = .error (.unbalanced text)) :
    ∃ part ∈ cut.conditions, parseChars part = .error (.unbalanced text) := by
  have of_two : ∀ {left right : List Char},
      (errorOf? (parseChars left)).or (errorOf? (parseChars right)) = some (.unbalanced text) →
        ∃ part ∈ [left, right], parseChars part = .error (.unbalanced text) := by
    intro left right h
    rcases Option.or_eq_some_iff.1 h with h | ⟨-, h⟩
    · exact ⟨left, by simp, errorOf?_eq_some_iff.1 h⟩
    · exact ⟨right, by simp, errorOf?_eq_some_iff.1 h⟩
  have h := errorOf?_eq_some_iff.2 h
  cases cut with
  | group inner => exact ⟨inner, List.mem_singleton_self _, errorOf?_eq_some_iff.1 h⟩
  | const value => cases h
  | or left right =>
      exact of_two ((errorOf?_both (parseChars left) (parseChars right) Condition.or).symm.trans h)
  | and left right =>
      exact of_two ((errorOf?_both (parseChars left) (parseChars right) Condition.and).symm.trans h)
  | not inner =>
      rw [read, errorOf?_map] at h
      exact ⟨inner, List.mem_singleton_self _, errorOf?_eq_some_iff.1 h⟩
  | compare left op right =>
      have h := (errorOf?_both (parsePath left) (parseLiteral right) fun path literal =>
        Condition.compare path op literal).symm.trans h
      rcases Option.or_eq_some_iff.1 h with h | ⟨-, h⟩
      · obtain ⟨_, other⟩ := error_of_parsePath (errorOf?_eq_some_iff.1 h)
        cases other
      · obtain ⟨_, other⟩ := error_of_parseLiteral (errorOf?_eq_some_iff.1 h)
        cases other

/-- A well-paired label is not refused for its quotes and parentheses. -/
theorem parseChars_ne_unbalanced {label : List Char} (paired : IsPaired label) (text : String) :
    parseChars label ≠ .error (.unbalanced text) := by
  intro h
  induction hn : label.length using Nat.strong_induction_on generalizing label with
  | _ n ih =>
      have closed : balanced (trim label) = true := by
        rw [balanced_trim]
        exact (balanced_iff_isPaired label).2 paired
      rw [parseChars_eq] at h
      cases hcut : cut? label with
      | none =>
          rw [hcut] at h
          have other := Except.error.inj h
          rw [refusal, closed] at other
          split at other <;> cases other
      | some cut =>
          -- The trouble would be in a part, but that is shorter and well paired.
          rw [hcut] at h
          obtain ⟨part, hpart, hread⟩ := Cut.exists_unbalanced h
          have shorter := (part_of_cut? hcut (cut.conditions_subset hpart)).2
          exact ih part.length (hn ▸ shorter) (isPaired_of_cut? hcut hpart) hread rfl

/-! ## What is refused -/

theorem parseChars_eq_unbalanced_iff (label : List Char) (text : String) :
    parseChars label = .error (.unbalanced text) ↔
      trim label ≠ [] ∧ ¬IsPaired (trim label) ∧ text = String.ofList (trim label) := by
  constructor
  · intro h
    have unpaired : ¬IsPaired (trim label) := by
      intro paired
      rw [← balanced_iff_isPaired, balanced_trim, balanced_iff_isPaired] at paired
      exact parseChars_ne_unbalanced paired text h
    have uncut : cut? label = none := by
      by_contra hne
      obtain ⟨cut, hcut⟩ := Option.ne_none_iff_exists'.1 hne
      exact unpaired ((balanced_iff_isPaired _).1 (foundIn_of_cut? hcut).1)
    rw [parseChars_eq, uncut] at h
    have refused : refusal (trim label) = .unbalanced text := Except.error.inj h
    have unbalanced : balanced (trim label) = false := by
      rw [← Bool.not_eq_true, balanced_iff_isPaired]
      exact unpaired
    rw [refusal, unbalanced] at refused
    by_cases hne : trim label = []
    · rw [if_pos hne] at refused
      cases refused
    · rw [if_neg hne, if_pos rfl] at refused
      exact ⟨hne, unpaired, (ParseError.unbalanced.inj refused).symm⟩
  · rintro ⟨hne, unpaired, rfl⟩
    rw [← balanced_iff_isPaired, Bool.not_eq_true] at unpaired
    have uncut : cut? label = none := by
      rw [cut?, cutText?, if_pos (.inr unpaired)]
    rw [parseChars_eq, uncut]
    show Except.error (refusal (trim label)) = _
    rw [refusal, if_neg hne, if_pos unpaired]

/-- Nothing is refused at the start of a well-paired text. -/
theorem IsPaired.exists_after {text before : List Char} (h : IsPaired text)
    (hbefore : before <+: text) : ∃ n, Nesting.outside.after before = some n := by
  have closed := h.closed
  obtain ⟨rest, rfl⟩ := hbefore
  rw [Nesting.after_append] at closed
  obtain ⟨n, hn, -⟩ := Option.bind_eq_some_iff.1 closed
  exact ⟨n, hn⟩

/-- The search for a connective in a well-paired text never counts below zero. -/
theorem IsPaired.tally_nonneg {text before : List Char} (h : IsPaired text)
    (hbefore : before <+: text) : 0 ≤ (Tally.zero.after before).depth := by
  obtain ⟨n, hn⟩ := h.exists_after hbefore
  have counted : Tally.zero.after before = n.tally := Nesting.tally_after hn
  rw [counted]
  exact Int.natCast_nonneg n.depth

/-- The outer parentheses that are stripped belong together: the first is open up to the last. -/
theorem open_within_stripped {text inner before : List Char} (h : stripParens text = some inner)
    (hbefore : before <+: inner) :
    ∃ n, Nesting.outside.after ('(' :: before) = some n ∧ 0 < n.depth := by
  have paired := (balanced_iff_isPaired _).1 (balanced_of_stripParens h)
  obtain ⟨n, hn⟩ := paired.exists_after hbefore
  exact ⟨n.deeper, Nesting.after_deeper hn, Nat.succ_pos _⟩

/-- A label is refused for its quotes and parentheses just if it is not blank and they do not come
in pairs, and then as a whole. Reading a label that is well paired goes on with shorter texts that
are well paired again, looks for connectives without ever counting below zero, and strips
parentheses only where the first belongs to the last. -/
theorem parse_refuses_unpaired (label : String) :
    (∀ text, parse label = .error (.unbalanced text) ↔
      trim label.toList ≠ [] ∧ ¬IsPaired (trim label.toList) ∧
        text = String.ofList (trim label.toList)) ∧
    (∀ cut, cut? label.toList = some cut → parse label = cut.read ∧
      ∀ part ∈ cut.conditions, IsPaired part ∧ part.length < (trim label.toList).length) ∧
    (IsPaired (trim label.toList) → ∀ before, before <+: trim label.toList →
      0 ≤ (Tally.zero.after before).depth) ∧
    ∀ inner, stripParens (trim label.toList) = some inner →
      trim label.toList = '(' :: (inner ++ [')']) ∧ IsPaired inner ∧
        ∀ before, before <+: inner →
          ∃ n, Nesting.outside.after ('(' :: before) = some n ∧ 0 < n.depth := by
  refine ⟨fun text => parseChars_eq_unbalanced_iff label.toList text, fun cut hcut => ⟨?_, ?_⟩,
    fun paired before hbefore => paired.tally_nonneg hbefore, fun inner hinner => ⟨?_, ?_, ?_⟩⟩
  · rw [parse, parseChars_eq, hcut]
  · intro part hpart
    exact ⟨isPaired_of_cut? hcut hpart,
      (Cut.part_of_isOf (isOf_of_cut? hcut) (cut.conditions_subset hpart)).2⟩
  · exact stripParens_eq_some hinner
  · exact (balanced_iff_isPaired _).1 (balanced_of_stripParens hinner)
  · exact fun before hbefore => open_within_stripped hinner hbefore

/-- A parenthesis between quotes does not close the one before them. Where the pair is whole it is
stripped, with the first parenthesis open up to the last, and what stood in it is cut at a
connective in front of the group that follows. -/
theorem grouped_label_read :
    parse " (a.b == ')' " = .error (.unbalanced "(a.b == ')'") ∧
      (cut? "(a.b == ')' or (c.d))".toList = some (.group "a.b == ')' or (c.d)".toList) ∧
        IsPaired "a.b == ')' or (c.d)".toList ∧
        ∃ n, Nesting.outside.after "(a.b == ')' or (c.d)".toList = some n ∧ 0 < n.depth) ∧
      cut? "a.b == ')' or (c.d)".toList = some (.or "a.b == ')'".toList "(c.d)".toList) ∧
        IsPaired "a.b == ')'".toList ∧ IsPaired "(c.d)".toList ∧
        0 ≤ (Tally.zero.after "a.b == ')' or (c.d".toList).depth := by
  have unpaired : ¬IsPaired (trim " (a.b == ')' ".toList) := by
    rw [← balanced_iff_isPaired]
    decide +kernel
  obtain ⟨refused, -, -, -⟩ := parse_refuses_unpaired " (a.b == ')' "
  -- The outer pair is stripped.
  obtain ⟨-, grouped, -, stripped⟩ := parse_refuses_unpaired "(a.b == ')' or (c.d))"
  have group : cut? "(a.b == ')' or (c.d))".toList =
      some (.group "a.b == ')' or (c.d)".toList) := by
    decide +kernel
  obtain ⟨-, inner, within⟩ := stripped "a.b == ')' or (c.d)".toList (by decide +kernel)
  -- What is left is cut at the connective.
  obtain ⟨-, joined, counted, -⟩ := parse_refuses_unpaired "a.b == ')' or (c.d)"
  have either : cut? "a.b == ')' or (c.d)".toList =
      some (.or "a.b == ')'".toList "(c.d)".toList) := by
    decide +kernel
  obtain ⟨-, parts⟩ := joined _ either
  refine ⟨(refused _).2 ⟨by decide +kernel, unpaired, by decide +kernel⟩,
    ⟨group, ((grouped _ group).2 _ List.mem_cons_self).1, within _ List.prefix_rfl⟩,
    either, (parts _ (by simp [Cut.conditions])).1, (parts _ (by simp [Cut.conditions])).1,
    counted inner _ ?_⟩
  decide +kernel

end Workflow.Condition
