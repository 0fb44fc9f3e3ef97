import Mathlib.Algebra.Order.BigOperators.Group.List
import Mathlib.Algebra.Order.Group.Nat
import Workflow.Proofs.Condition.Replacement

/-!
# Quoted runs of labels

A quoted run goes from an opening quote to the next quote of the same kind. This is how the search
for connectives and operators reads quotes. A literal is told by its first and its last character
alone, so that it may hold several runs and what stands between them: an alternative that is joined
by a word that is none of the connectives becomes part of it.

It does so just if some run is not the last thing in its comparison. All runs of a label stand in
the right sides of its comparisons, and no connective is left there; so a run that a connective
follows is all of its side.

Main statement: `texts_eq_runs_iff`, from `IsOutline.quotesIn`.
-/

namespace Workflow

/-- The text of a literal, if it is one. -/
def Literal.texts : Literal → List String
  | .text value => [value]
  | _ => []

namespace Condition

open Text

/-! ## Definitions -/

/-- A quoted run of a text, and what follows it. -/
structure Quotation where
  inner : List Char
  after : List Char
deriving DecidableEq, Repr

/-- The quoted run in a text that goes on. -/
def Quotation.extend (more : List Char) (run : Quotation) : Quotation :=
  ⟨run.inner, run.after ++ more⟩

/-- The quoted runs of a text. If a quote is open, it is given with what was read since, in
reverse. -/
def quotationsFrom : Option (Char × List Char) → List Char → List Quotation
  | _, [] => []
  | none, c :: rest => quotationsFrom (if isQuote c then some (c, []) else none) rest
  | some (quote, inner), c :: rest =>
      if c = quote then ⟨inner.reverse, rest⟩ :: quotationsFrom none rest
      else quotationsFrom (some (quote, c :: inner)) rest

/-- The quoted runs of a text, in order. -/
def quotations (text : List Char) : List Quotation := quotationsFrom none text

/-- What stands in the quoted runs of a text. -/
def runs (text : List Char) : List String :=
  (quotations text).map fun run => String.ofList run.inner

/-- The words between two conditions. -/
def connectives : List (List Char) := [orWord, andWord]

/-- Nothing but white space and closing parentheses comes before the next connective, or before the
end. -/
def endsComparison : List Char → Bool
  | [] => true
  | c :: rest =>
      connectives.any (·.isPrefixOf (c :: rest)) || (isBlank c || c = ')') && endsComparison rest

/-- Each quoted run is the last thing in its comparison. -/
def IsTidy (text : List Char) : Prop := ∀ run ∈ quotations text, endsComparison run.after = true

instance (text : List Char) : Decidable (IsTidy text) :=
  inferInstanceAs (Decidable (∀ run ∈ quotations text, endsComparison run.after = true))

/-- The texts that a condition compares with, in order. -/
def texts : Condition → List String
  | .compare _ _ right => right.texts
  | .and left right => left.texts ++ right.texts
  | .or left right => left.texts ++ right.texts
  | .not inner => inner.texts
  | .const _ => []

/-- The text stands between an opening quote of the label and the next quote of this kind. -/
def StandsQuoted (label : List Char) (text : String) : Prop :=
  ∃ before quote after, isQuote quote = true ∧ before.foldl quoteAfter none = none ∧
    quote ∉ text.toList ∧ label = before ++ quote :: (text.toList ++ quote :: after)

/-! ## Quoted runs of texts -/

section Quotations

variable {text rest inner : List Char} {quote : Char}

theorem unquoted_of_all (h : text.all (!isQuote ·) = true) : ∀ c ∈ text, isQuote c = false := by
  simpa using h

theorem quotations_unquoted_append (h : ∀ c ∈ text, isQuote c = false) (rest : List Char) :
    quotations (text ++ rest) = quotations rest := by
  induction text with
  | nil => rfl
  | cons c text ih =>
      rw [List.cons_append, quotations, quotationsFrom, h c List.mem_cons_self]
      exact ih fun d hd => h d (List.mem_cons_of_mem c hd)

theorem quotations_of_unquoted (h : ∀ c ∈ text, isQuote c = false) : quotations text = [] := by
  rw [← List.append_nil text, quotations_unquoted_append h]
  rfl

theorem quotations_quoted_append (hquote : isQuote quote = true) (h : quote ∉ inner)
    (rest : List Char) :
    quotations (quote :: (inner ++ quote :: rest)) = ⟨inner, rest⟩ :: quotations rest := by
  have inside : ∀ read, quotationsFrom (some (quote, read)) (inner ++ quote :: rest) =
      ⟨read.reverse ++ inner, rest⟩ :: quotations rest := by
    induction inner with
    | nil => intro read; simp [quotationsFrom, quotations]
    | cons c inner ih =>
        intro read
        have other : c ≠ quote := fun same => h (same ▸ List.mem_cons_self)
        rw [List.cons_append, quotationsFrom, if_neg other,
          ih fun hmem => h (List.mem_cons_of_mem c hmem), List.reverse_cons, List.append_assoc,
          List.singleton_append]
  rw [quotations, quotationsFrom, if_pos hquote, inside]
  rfl

theorem quotationsFrom_append {opened : Option (Char × List Char)} {n : Nesting}
    (same : opened.map Prod.fst = n.quote) (closed : n.after text = some .outside)
    (rest : List Char) :
    quotationsFrom opened (text ++ rest) =
      (quotationsFrom opened text).map (·.extend rest) ++ quotations rest := by
  -- Of the nesting only the open quote matters, and the scan knows the same one at each character.
  induction n, text, closed using Nesting.after_induction generalizing opened with
  | nil =>
      obtain rfl := Option.map_eq_none_iff.1 same
      rfl
  | cons n next c text hstep _ ih =>
      have hnext := Nesting.quote_of_step hstep
      rw [← same] at hnext
      rw [List.cons_append]
      rcases opened with _ | ⟨quote, inner⟩
      · rw [quotationsFrom, quotationsFrom]
        apply ih
        rw [hnext, Option.map_none, quoteAfter]
        split <;> rfl
      · rw [Option.map_some, quoteAfter] at hnext
        rw [quotationsFrom, quotationsFrom]
        by_cases hc : c = quote
        · rw [if_pos hc] at hnext
          have later : quotationsFrom none (text ++ rest) = _ := ih hnext.symm
          rw [if_pos hc, if_pos hc, later]
          rfl
        · rw [if_neg hc] at hnext
          have later : quotationsFrom (some (quote, c :: inner)) (text ++ rest) = _ :=
            ih hnext.symm
          rw [if_neg hc, if_neg hc, later]

/-- The runs of two texts, the first of which leaves nothing open. -/
theorem quotations_append (closed : Nesting.outside.after text = some .outside) (rest : List Char) :
    quotations (text ++ rest) = (quotations text).map (·.extend rest) ++ quotations rest :=
  quotationsFrom_append rfl closed rest

/-- With a quote open, a run is the one that is being read, or it comes after that. -/
theorem cases_of_mem_quotationsFrom {run : Quotation} {read : List Char}
    (h : run ∈ quotationsFrom (some (quote, read)) text) :
    ∃ more rest, quote ∉ more ∧ text = more ++ quote :: rest ∧
      (run = ⟨read.reverse ++ more, rest⟩ ∨ run ∈ quotations rest) := by
  induction text generalizing read with
  | nil => cases h
  | cons c text ih =>
      rw [quotationsFrom] at h
      split at h
      · next closing =>
          subst closing
          refine ⟨[], text, List.not_mem_nil, rfl, ?_⟩
          simpa [quotations] using List.mem_cons.1 h
      · next other =>
          obtain ⟨more, rest, free, rfl, found⟩ := ih h
          refine ⟨c :: more, rest, ?_, rfl, ?_⟩
          · exact fun hmem => (List.mem_cons.1 hmem).elim (fun same => other same.symm) free
          · simpa using found

theorem foldl_quoteAfter_quoted (hquote : isQuote quote = true) (h : quote ∉ inner)
    (rest : List Char) :
    (quote :: (inner ++ quote :: rest)).foldl quoteAfter none = rest.foldl quoteAfter none := by
  have inside : (inner ++ quote :: rest).foldl quoteAfter (some quote) =
      rest.foldl quoteAfter none := by
    induction inner with
    | nil => simp [quoteAfter]
    | cons c inner ih =>
        have other : c ≠ quote := fun same => h (same ▸ List.mem_cons_self)
        simpa [quoteAfter, other] using ih fun hmem => h (List.mem_cons_of_mem c hmem)
  rw [List.foldl_cons, quoteAfter, if_pos hquote, inside]

/-- A quoted run stands between an opening quote and the next one of this kind. -/
theorem standsQuoted_of_mem_runs {value : String} (h : value ∈ runs text) :
    StandsQuoted text value := by
  obtain ⟨run, hrun, rfl⟩ := List.mem_map.1 h
  rw [StandsQuoted, String.toList_ofList]
  clear h
  induction hn : text.length using Nat.strong_induction_on generalizing text with
  | _ n ih =>
      cases text with
      | nil => cases hrun
      | cons c text =>
          rw [quotations, quotationsFrom] at hrun
          cases hc : isQuote c with
          | false =>
              rw [hc] at hrun
              obtain ⟨before, quote, after, hquote, closed, free, rfl⟩ :=
                ih text.length (hn ▸ Nat.lt_succ_self _) hrun rfl
              exact ⟨c :: before, quote, after, hquote, by simpa [quoteAfter, hc] using closed,
                free, rfl⟩
          | true =>
              rw [if_pos hc] at hrun
              obtain ⟨more, rest, free, rfl, rfl | later⟩ := cases_of_mem_quotationsFrom hrun
              · exact ⟨[], c, rest, hc, rfl, free, rfl⟩
              · have shorter : rest.length < n := by
                  rw [← hn, List.length_cons, List.length_append, List.length_cons]
                  omega
                obtain ⟨before, quote, after, hquote, closed, free', rfl⟩ := ih _ shorter later rfl
                refine ⟨c :: (more ++ c :: before), quote, after, hquote, ?_, free', by simp⟩
                rw [foldl_quoteAfter_quoted hc free, closed]

end Quotations

/-! ## The sides of comparisons -/

/-- A text at the end of which nothing is open, and that holds no connective outside quotes and
parentheses. -/
structure IsBare (text : List Char) : Prop where
  closed : Nesting.outside.after text = some .outside
  uncut : ∀ word ∈ connectives, splitTop word text = none

theorem IsBare.suffix {before rest : List Char} (bare : IsBare (before ++ rest))
    (closed : Nesting.outside.after before = some .outside) : IsBare rest where
  closed := by
    have whole := bare.closed
    rwa [Nesting.after_append, closed, Option.bind_some] at whole
  uncut word hword := splitTopAt_suffix (bare.uncut word hword) closed

theorem endsComparison_append {text rest : List Char} (h : endsComparison text = true)
    (k : endsComparison rest = true) : endsComparison (text ++ rest) = true := by
  induction text with
  | nil => exact k
  | cons c text ih =>
      rw [List.cons_append]
      rw [endsComparison, Bool.or_eq_true, Bool.and_eq_true, List.any_eq_true] at h ⊢
      refine h.imp ?_ fun passed => ⟨passed.1, ih passed.2⟩
      rintro ⟨word, hword, starts⟩
      refine ⟨word, hword, List.isPrefixOf_iff_prefix.2 ?_⟩
      exact (List.isPrefixOf_iff_prefix.1 starts).trans (List.prefix_append (c :: text) rest)

theorem endsComparison_blanks {blanks : List Char} (h : ∀ c ∈ blanks, isBlank c = true) :
    endsComparison blanks = true := by
  induction blanks with
  | nil => rfl
  | cons c blanks ih =>
      simp [endsComparison, h c List.mem_cons_self, ih fun d hd => h d (List.mem_cons_of_mem c hd)]

/-- A connective begins with a plain character and holds no quote. -/
theorem exists_cons_of_mem_connectives {word : List Char} (h : word ∈ connectives) :
    (∃ first rest, word = first :: rest ∧ isPlain first = true) ∧
      ∀ c ∈ word, isQuote c = false := by
  simp only [connectives, List.mem_cons, List.not_mem_nil, or_false] at h
  rcases h with rfl | rfl
  · exact ⟨⟨_, _, rfl, by decide⟩, unquoted_of_all (by decide)⟩
  · exact ⟨⟨_, _, rfl, by decide⟩, unquoted_of_all (by decide)⟩

theorem endsComparison_connective {word : List Char} (h : word ∈ connectives) (rest : List Char) :
    endsComparison (word ++ rest) = true := by
  obtain ⟨⟨first, tail, rfl, _⟩, _⟩ := exists_cons_of_mem_connectives h
  rw [List.cons_append, endsComparison, Bool.or_eq_true, List.any_eq_true]
  exact .inl ⟨_, h, List.isPrefixOf_iff_prefix.2 (List.prefix_append (first :: tail) rest)⟩

/-- A word at the start of a text ends before a character that it does not hold. -/
theorem starts_of_not_mem {word before rest : List Char} {c : Char} (hc : c ∉ word)
    (h : word <+: before ++ c :: rest) : word <+: before := by
  rcases List.prefix_or_prefix_of_prefix h (List.prefix_append before (c :: rest)) with short | long
  · exact short
  · obtain ⟨tail, rfl⟩ := long
    have tail_starts := (List.prefix_append_right_inj before).1 h
    cases tail with
    | nil => exact (List.append_nil before).symm ▸ List.prefix_rfl
    | cons d tail =>
        obtain ⟨rfl, -⟩ := List.cons_prefix_cons.1 tail_starts
        exact absurd (List.mem_append_right before List.mem_cons_self) hc

section Bare

variable {before rest : List Char} {quote : Char} (hquote : isQuote quote = true)
include hquote

/-- A bare text does not start with a connective, whatever follows its first quote. -/
theorem IsBare.not_starts_with_connective (bare : IsBare (before ++ quote :: rest))
    (more : List Char) {word : List Char} (hword : word ∈ connectives) :
    ¬word <+: before ++ quote :: more := by
  intro found
  obtain ⟨⟨first, tail, rfl, plain⟩, unquoted⟩ := exists_cons_of_mem_connectives hword
  have short : quote ∉ first :: tail := by
    intro hmem
    rw [unquoted quote hmem] at hquote
    cases hquote
  have here := starts_of_not_mem short found
  exact splitTop_ne_none plain (here.trans (List.prefix_append before (quote :: rest)))
    (bare.uncut _ hword)

/-- In a bare text no comparison ends in front of a quote. -/
theorem IsBare.not_endsComparison (bare : IsBare (before ++ quote :: rest)) (more : List Char) :
    endsComparison (before ++ quote :: more) = false := by
  have no_connective : ∀ {before : List Char}, IsBare (before ++ quote :: rest) →
      connectives.any (·.isPrefixOf (before ++ quote :: more)) = false := by
    intro before bare
    rw [List.any_eq_false]
    exact fun word hword found =>
      bare.not_starts_with_connective hquote more hword (List.isPrefixOf_iff_prefix.1 found)
  -- What is passed over before the quote leaves the rest of the text bare.
  induction before with
  | nil =>
      have no_closing : quote ≠ ')' := by
        rintro rfl
        exact absurd hquote (by decide)
      have none_here := no_connective bare
      rw [List.nil_append] at none_here ⊢
      rw [endsComparison, none_here]
      simp [no_closing, not_isBlank_of_isQuote hquote]
  | cons c before ih =>
      have none_here := no_connective bare
      rw [List.cons_append] at bare none_here ⊢
      rw [endsComparison, none_here, Bool.false_or, Bool.and_eq_false_imp]
      intro passed
      rcases Bool.or_eq_true_iff.1 passed with blank | closing
      · have kept : Nesting.outside.after [c] = some .outside := by
          rw [Nesting.after_cons, Nesting.step_of_isBlank Nesting.proper_outside blank]
          rfl
        have whole : IsBare ([c] ++ (before ++ quote :: rest)) := bare
        exact ih (whole.suffix kept)
      · -- There is no parenthesis open that it could close.
        obtain rfl := of_decide_eq_true closing
        have closed := bare.closed
        rw [Nesting.after_cons] at closed
        cases closed

end Bare

/-- The quoted runs of a text are those of some stretches of it, each of which is followed by what
ends a comparison. -/
def QuotesIn (text : List Char) (stretches : List (List Char)) : Prop :=
  ∃ sides : List (List Char × List Char), sides.map Prod.fst = stretches ∧
    (∀ side ∈ sides, endsComparison side.2 = true) ∧
    quotations text = sides.flatMap fun side => (quotations side.1).map (·.extend side.2)

section QuotesIn

variable {text rest : List Char} {stretches more : List (List Char)}

theorem QuotesIn.self (text : List Char) : QuotesIn text [text] := by
  have same : ∀ run : Quotation, run.extend [] = run := by
    intro run
    rw [Quotation.extend, List.append_nil]
  exact ⟨[(text, [])], rfl, by simp [endsComparison], by simp [same]⟩

theorem QuotesIn.nil (h : ∀ c ∈ text, isQuote c = false) : QuotesIn text [] :=
  ⟨[], rfl, by simp, quotations_of_unquoted h⟩

theorem QuotesIn.unquoted_append (h : QuotesIn rest stretches)
    (unquoted : ∀ c ∈ text, isQuote c = false) : QuotesIn (text ++ rest) stretches := by
  obtain ⟨sides, same, ends, quotes⟩ := h
  exact ⟨sides, same, ends, (quotations_unquoted_append unquoted rest).trans quotes⟩

theorem QuotesIn.append (h : QuotesIn text stretches) (k : QuotesIn rest more)
    (closed : Nesting.outside.after text = some .outside) (ends : endsComparison rest = true) :
    QuotesIn (text ++ rest) (stretches ++ more) := by
  obtain ⟨sides, rfl, ends_each, quotes⟩ := h
  obtain ⟨sides', rfl, ends_each', quotes'⟩ := k
  have extended : ∀ side : List Char × List Char, ((quotations side.1).map (·.extend side.2)).map
      (·.extend rest) = (quotations side.1).map (·.extend (side.2 ++ rest)) := by
    intro side
    simp [Quotation.extend, Function.comp_def]
  refine ⟨(sides.map fun side => (side.1, side.2 ++ rest)) ++ sides', ?_, ?_, ?_⟩
  · simp [Function.comp_def]
  · intro side hside
    rcases List.mem_append.1 hside with hside | hside
    · obtain ⟨side, hmem, rfl⟩ := List.mem_map.1 hside
      exact endsComparison_append (ends_each side hmem) ends
    · exact ends_each' side hside
  · rw [quotations_append closed, quotes, quotes', List.map_flatMap, List.flatMap_append,
      List.flatMap_map]
    simp only [extended]

/-- Blanks around a text make no difference. -/
theorem QuotesIn.of_trim (h : QuotesIn (trim text) stretches)
    (closed : balanced (trim text) = true) : QuotesIn text stretches := by
  obtain ⟨before, after, blank, blank', heq⟩ := exists_blanks_trim text
  have ended := h.append (.nil fun c hc => not_isQuote_of_isBlank (blank' c hc))
    ((balanced_iff _).1 closed) (endsComparison_blanks blank')
  rw [heq, List.append_assoc, ← List.append_nil stretches]
  exact ended.unquoted_append fun c hc => not_isQuote_of_isBlank (blank c hc)

end QuotesIn

/-! ## Whole labels -/

theorem operators_unquoted {symbol : String} {op : Comparison} (h : (symbol, op) ∈ operators) :
    (∀ c ∈ symbol.toList, isQuote c = false) ∧
      Nesting.outside.after symbol.toList = some .outside := by
  have all : ∀ entry ∈ operators, entry.1.toList.all (!isQuote ·) = true ∧
      Nesting.outside.after entry.1.toList = some .outside := by decide
  obtain ⟨unquoted, closed⟩ := all _ h
  exact ⟨unquoted_of_all unquoted, closed⟩

theorem balanced_of_stripParens {text inner : List Char} (h : stripParens text = some inner) :
    balanced inner = true := by
  unfold stripParens at h
  split at h
  · split at h
    · next hclose =>
        cases h
        exact hclose.2
    · cases h
  · cases h

/-- The right side of a comparison is bare. -/
theorem IsOutline.isBare {label : List Char} {o : Outline} (h : IsOutline label o) :
    ∀ c ∈ o.comparisons, IsBare c.2 := by
  induction h with
  | group _ _ ih => exact ih
  | const _ => exact fun c hc => absurd hc List.not_mem_nil
  | or _ _ _ ihl ihr => exact fun c hc => (List.mem_append.1 hc).elim (ihl c) (ihr c)
  | and _ _ _ ihl ihr => exact fun c hc => (List.mem_append.1 hc).elim (ihl c) (ihr c)
  | not _ _ ih => exact ih
  | compare hcut =>
      intro c hc
      obtain rfl := List.mem_singleton.1 hc
      obtain ⟨closed, no_or, no_and, symbol, hsymbol, hparts⟩ := foundIn_of_cut? hcut
      have bare : IsBare _ := ⟨(balanced_iff _).1 closed, by simp [connectives, no_or, no_and]⟩
      rw [append_of_splitTop hparts] at bare
      refine bare.suffix ?_
      rw [Nesting.after_append, after_of_splitTopAt hparts, Option.bind_some,
        (operators_unquoted hsymbol).2]

/-- The quoted runs of a label are those of the right sides of its comparisons. -/
theorem IsOutline.quotesIn {label : List Char} {o : Outline} (h : IsOutline label o)
    (unquoted : ∀ c ∈ o.comparisons, ∀ d ∈ c.1, isQuote d = false) :
    QuotesIn label (o.comparisons.map Prod.snd) := by
  -- A connective holds no quote, and ends the comparison on its left.
  have joined : ∀ {word left right : List Char} {xs ys : List (List Char)}, word ∈ connectives →
      Nesting.outside.after left = some .outside → QuotesIn left xs → QuotesIn right ys →
      QuotesIn (left ++ word ++ right) (xs ++ ys) := by
    intro word left right xs ys hword closed hl hr
    rw [List.append_assoc]
    exact hl.append (hr.unquoted_append (exists_cons_of_mem_connectives hword).2) closed
      (endsComparison_connective hword right)
  induction h with
  | @group label inner o hcut _ ih =>
      obtain ⟨closed, found⟩ := foundIn_of_cut? hcut
      refine .of_trim ?_ closed
      have opening : ∀ c ∈ ['('], isQuote c = false := unquoted_of_all (by decide)
      have closing : ∀ c ∈ [')'], isQuote c = false := unquoted_of_all (by decide)
      have ended := (ih unquoted).append (.nil closing)
        ((balanced_iff _).1 (balanced_of_stripParens found)) rfl
      rw [stripParens_eq_some found, ← List.append_nil (o.comparisons.map Prod.snd)]
      exact ended.unquoted_append opening
  | @const label value hcut =>
      obtain ⟨closed, found⟩ := foundIn_of_cut? hcut
      refine .of_trim (.nil ?_) closed
      rw [show trim label = _ from found]
      cases value <;> exact unquoted_of_all (by decide)
  | @or label left right l r hcut _ _ ihl ihr =>
      obtain ⟨closed, found⟩ := foundIn_of_cut? hcut
      refine .of_trim ?_ closed
      rw [append_of_splitTop found, Outline.comparisons, List.map_append]
      exact joined (by simp [connectives]) (after_of_splitTopAt found)
        (ihl fun c hc => unquoted c (List.mem_append_left _ hc))
        (ihr fun c hc => unquoted c (List.mem_append_right _ hc))
  | @and label left right l r hcut _ _ ihl ihr =>
      obtain ⟨closed, found⟩ := foundIn_of_cut? hcut
      refine .of_trim ?_ closed
      rw [append_of_splitTop found, Outline.comparisons, List.map_append]
      exact joined (by simp [connectives]) (after_of_splitTopAt found)
        (ihl fun c hc => unquoted c (List.mem_append_left _ hc))
        (ihr fun c hc => unquoted c (List.mem_append_right _ hc))
  | @not label inner o hcut _ ih =>
      obtain ⟨closed, found⟩ := foundIn_of_cut? hcut
      refine .of_trim ?_ closed
      rw [append_of_afterStart? found]
      exact (ih unquoted).unquoted_append (unquoted_of_all (by decide))
  | @compare label left right op hcut =>
      obtain ⟨closed, _, _, symbol, hsymbol, hparts⟩ := foundIn_of_cut? hcut
      refine .of_trim ?_ closed
      rw [append_of_splitTop hparts]
      refine (QuotesIn.self right).unquoted_append fun c hc => ?_
      rcases List.mem_append.1 hc with hc | hc
      · exact unquoted _ (List.mem_singleton_self _) c hc
      · exact (operators_unquoted hsymbol).1 c hc

/-! ## What is read -/

theorem foreign_of_isQuote {c : Char} (h : isQuote c = true) : Foreign c := by
  simp only [isQuote, Bool.or_eq_true, decide_eq_true_eq] at h
  rcases h with rfl | rfl <;> constructor <;> decide

/-- What is read as a path holds no quote. -/
theorem unquoted_of_parsePath {text : List Char} {path : Path} (h : parsePath text = .ok path) :
    ∀ c ∈ text, isQuote c = false := by
  intro c hc
  by_contra hquote
  rw [Bool.not_eq_false] at hquote
  have other : ∀ d, isQuote d = false → c ≠ d := by
    rintro d hd rfl
    rw [hquote] at hd
    cases hd
  have blank := not_isBlank_of_isQuote hquote
  -- Trimming and taking off braces leave a quote where it is.
  have stripped : c ∈ stripBraces (trim text) := by
    have hmem := mem_trim hc blank
    by_cases hbraced : ∃ inner, trim text = '{' :: (inner ++ ['}'])
    · obtain ⟨inner, heq⟩ := hbraced
      have inside : stripBraces ('{' :: (inner ++ ['}'])) = inner := by
        simp [stripBraces, beforeEnd?]
      rw [heq] at hmem ⊢
      rw [inside]
      simpa [other '{' (by decide), other '}' (by decide)] using hmem
    · rwa [stripBraces_of_not_braced fun inner heq => hbraced ⟨inner, heq⟩]
  have valid := (segments_of_parsePath h).2 c (mem_trim stripped blank)
  simp only [isQuote, Bool.or_eq_true, decide_eq_true_eq] at hquote
  rcases hquote with rfl | rfl <;> exact absurd valid (by decide)

/-- What is read as a literal that is no text holds no quote. -/
theorem unquoted_of_parseLiteral {text : List Char} {literal : Literal}
    (h : parseLiteral text = .ok literal) (other : ∀ value, literal ≠ .text value) :
    ∀ c ∈ text, isQuote c = false := by
  intro c hc
  by_contra hquote
  rw [Bool.not_eq_false] at hquote
  have hmem := mem_trim hc (not_isBlank_of_isQuote hquote)
  obtain ⟨_, _, is_text⟩ := quoted_of_foreign (foreign_of_isQuote hquote) h hmem
  exact other _ is_text

/-- The texts of the literal that is read. -/
def textsRead (right : List Char) : List String :=
  ((parseLiteral right).toOption.map Literal.texts).getD []

theorem textsRead_of_parseLiteral {right : List Char} {literal : Literal}
    (h : parseLiteral right = .ok literal) : textsRead right = literal.texts := by
  rw [textsRead, h]
  rfl

theorem texts_eq_flatMap (e : Condition) : e.texts = e.comparisons.flatMap fun r => r.2.texts := by
  induction e with
  | compare path op right => simp [texts, comparisons]
  | and left right ihl ihr => rw [texts, comparisons, List.flatMap_append, ihl, ihr]
  | or left right ihl ihr => rw [texts, comparisons, List.flatMap_append, ihl, ihr]
  | not inner ih => exact ih
  | const value => rfl

theorem Outline.texts_of_read? {o : Outline} {e : Condition} (h : o.read? = some e) :
    e.texts = (o.comparisons.map Prod.snd).flatMap textsRead := by
  have literals := congrArg
    (List.flatMap fun side => (side.2.toOption.map Literal.texts).getD []) (map_sides_of_read? h)
  rw [List.flatMap_map, List.flatMap_map] at literals
  rw [texts_eq_flatMap, List.flatMap_map]
  exact literals.symm

/-- The text of a literal is the only run of its side, or the first run ends inside it: then nothing
that ends a comparison follows that run. -/
theorem runs_of_text {right : List Char} {value : String} (bare : IsBare right)
    (h : parseLiteral right = .ok (.text value)) :
    (∃ after, (∀ c ∈ after, isBlank c = true) ∧ quotations right = [⟨value.toList, after⟩]) ∨
      ∃ first rest, quotations right = first :: rest ∧ first.inner ≠ value.toList ∧
        ∀ more, endsComparison (first.after ++ more) = false := by
  obtain ⟨quote, hquote, htrim⟩ := exists_quote_of_stripQuotes? (stripQuotes?_of_parseLiteral h)
  obtain ⟨blanks, after, blank, blank', heq⟩ := exists_blanks_trim right
  have unquoted : ∀ c ∈ blanks, isQuote c = false := fun c hc => not_isQuote_of_isBlank (blank c hc)
  generalize value.toList = inner at htrim ⊢
  rw [htrim, List.append_assoc, List.cons_append, List.append_assoc, List.singleton_append] at heq
  rw [heq] at bare ⊢
  rw [quotations_unquoted_append unquoted]
  by_cases held : quote ∈ inner
  · -- The quote inside ends the first run, and nothing is open behind it.
    obtain ⟨first, rest, rfl, free⟩ := List.eq_append_cons_of_mem held
    right
    rw [List.append_assoc, List.cons_append] at bare ⊢
    refine ⟨_, _, quotations_quoted_append hquote free _, ?_, fun more => ?_⟩
    · exact fun same => by simpa using congrArg List.length same
    · have closed :
          Nesting.outside.after (blanks ++ quote :: (first ++ [quote])) = some .outside := by
        rw [Nesting.after_append, Nesting.after_blanks Nesting.proper_outside blank,
          Option.bind_some, Nesting.after_quoted hquote free]
      have whole :
          IsBare ((blanks ++ quote :: (first ++ [quote])) ++ (rest ++ quote :: after)) := by
        simpa using bare
      simpa using (whole.suffix closed).not_endsComparison hquote (after ++ more)
  · left
    refine ⟨after, blank', ?_⟩
    rw [quotations_quoted_append hquote held,
      quotations_of_unquoted fun c hc => not_isQuote_of_isBlank (blank' c hc)]

/-- The literal of a side is made of its runs just if each of them is the last thing in it. -/
theorem textsRead_eq_runs_iff {right after : List Char} {literal : Literal} (bare : IsBare right)
    (h : parseLiteral right = .ok literal) (ends : endsComparison after = true) :
    (textsRead right).length ≤ (runs right).length ∧
      (textsRead right = runs right ↔
        ∀ run ∈ quotations right, endsComparison (run.after ++ after) = true) := by
  rw [textsRead_of_parseLiteral h]
  by_cases is_text : ∃ value, literal = .text value
  · obtain ⟨value, rfl⟩ := is_text
    rcases runs_of_text bare h with ⟨rest, blank, only⟩ | ⟨first, rest, several, other, goes_on⟩
    · rw [runs, only]
      simp [Literal.texts, endsComparison_append (endsComparison_blanks blank) ends]
    · rw [runs, several]
      refine ⟨by simp [Literal.texts], iff_of_false ?_ ?_⟩
      · intro same
        have head := (List.cons.inj same).1
        exact other (by rw [head, String.toList_ofList])
      · intro all
        cases (goes_on after).symm.trans (all first List.mem_cons_self)
  · have none_here := quotations_of_unquoted
      (unquoted_of_parseLiteral h fun value same => is_text ⟨value, same⟩)
    rw [runs, none_here]
    cases literal with
    | text value => exact absurd ⟨value, rfl⟩ is_text
    | _ => simp [Literal.texts]

/-- Two ways to put a list together are the same if they are for each part, provided that no part is
longer in the first way. -/
theorem flatMap_eq_iff {α β : Type} {f g : α → List β} {xs : List α}
    (h : ∀ x ∈ xs, (f x).length ≤ (g x).length) :
    xs.flatMap f = xs.flatMap g ↔ ∀ x ∈ xs, f x = g x := by
  induction xs with
  | nil => simp
  | cons x xs ih =>
      have rest := fun y hy => h y (List.mem_cons_of_mem x hy)
      have shorter : (xs.flatMap f).length ≤ (xs.flatMap g).length := by
        rw [List.length_flatMap, List.length_flatMap]
        exact List.sum_le_sum rest
      have first := h x List.mem_cons_self
      rw [List.flatMap_cons, List.flatMap_cons, List.forall_mem_cons, ← ih rest]
      refine ⟨fun same => ?_, fun same => by rw [same.1, same.2]⟩
      have lengths := congrArg List.length same
      rw [List.length_append, List.length_append] at lengths
      -- A part that is shorter would leave the rest longer, which it is not.
      exact List.append_inj same (by omega)

/-- The texts that a condition compares with are the quoted runs of its label just if each run is
the last thing in its comparison, and then each of them stands between quotes of a kind that it does
not hold. -/
theorem texts_eq_runs_iff {label : String} {e : Condition} (h : parse label = .ok e) :
    (e.texts = runs label.toList ↔ IsTidy label.toList) ∧
      (IsTidy label.toList → ∀ text ∈ e.texts, StandsQuoted label.toList text) := by
  obtain ⟨o, outline, he⟩ := (parse_eq_ok_iff label e).1 h
  have unquoted : ∀ c ∈ o.comparisons, ∀ d ∈ c.1, isQuote d = false := by
    intro c hc
    obtain ⟨path, _, hpath⟩ := Outline.exists_path_of_mem_comparisons he hc
    exact unquoted_of_parsePath hpath
  -- From here on the label is a list of right sides, with what follows each of them.
  obtain ⟨sides, rights, ends, quotes⟩ := outline.quotesIn unquoted
  have side : ∀ side ∈ sides, (textsRead side.1).length ≤ (runs side.1).length ∧
      (textsRead side.1 = runs side.1 ↔
        ∀ run ∈ quotations side.1, endsComparison (run.after ++ side.2) = true) := by
    intro side hside
    have hright : side.1 ∈ o.comparisons.map Prod.snd := rights ▸ List.mem_map_of_mem hside
    obtain ⟨c, hc, same⟩ := List.mem_map.1 hright
    obtain ⟨literal, hliteral⟩ := Outline.exists_literal_of_read? he c hc
    have bare := outline.isBare c hc
    rw [same] at bare hliteral
    exact textsRead_eq_runs_iff bare hliteral (ends side hside)
  have texts_eq : e.texts = sides.flatMap fun side => textsRead side.1 := by
    rw [Outline.texts_of_read? he, ← rights, List.flatMap_map]
  have runs_eq : runs label.toList = sides.flatMap fun side => runs side.1 := by
    simp [runs, quotes, List.map_flatMap, Quotation.extend, Function.comp_def]
  have tidy_iff : IsTidy label.toList ↔
      ∀ side ∈ sides, ∀ run ∈ quotations side.1, endsComparison (run.after ++ side.2) = true := by
    rw [IsTidy, quotes]
    constructor
    · intro tidy side hside run hrun
      exact tidy _ (List.mem_flatMap.2 ⟨side, hside, List.mem_map_of_mem hrun⟩)
    · intro tidy run hrun
      obtain ⟨side, hside, hextended⟩ := List.mem_flatMap.1 hrun
      obtain ⟨original, hmem, rfl⟩ := List.mem_map.1 hextended
      exact tidy side hside original hmem
  have main : e.texts = runs label.toList ↔ IsTidy label.toList := by
    rw [texts_eq, runs_eq, flatMap_eq_iff fun s hs => (side s hs).1, tidy_iff]
    exact forall₂_congr fun s hs => (side s hs).2
  refine ⟨main, fun tidy text htext => ?_⟩
  rw [main.2 tidy] at htext
  exact standsQuoted_of_mem_runs htext

/-- Joined by a connective, two comparisons with texts are read as they are written. -/
theorem joined_texts_are_runs :
    parse "a.x == 'y' and b.z == \"w\"" =
        .ok (.and (.compare ⟨"a", "x", []⟩ .eq (.text "y"))
          (.compare ⟨"b", "z", []⟩ .eq (.text "w"))) ∧
      runs "a.x == 'y' and b.z == \"w\"".toList = ["y", "w"] ∧
      ∀ text ∈ ["y", "w"], StandsQuoted "a.x == 'y' and b.z == \"w\"".toList text := by
  have read : parse "a.x == 'y' and b.z == \"w\"" =
      .ok (.and (.compare ⟨"a", "x", []⟩ .eq (.text "y"))
        (.compare ⟨"b", "z", []⟩ .eq (.text "w"))) := by
    decide +kernel
  have tidy : IsTidy "a.x == 'y' and b.z == \"w\"".toList := by decide +kernel
  obtain ⟨same, quoted⟩ := texts_eq_runs_iff read
  exact ⟨read, (same.2 tidy).symm, quoted tidy⟩

/-- Joined by a word that is no connective, they are read as one: the second comparison becomes part
of the text of the first one, which no two quotes enclose. -/
theorem joined_otherwise_is_one_text :
    parse "a.x == 'y' OR b.z == 'w'" =
        .ok (.compare ⟨"a", "x", []⟩ .eq (.text "y' OR b.z == 'w")) ∧
      runs "a.x == 'y' OR b.z == 'w'".toList = ["y", "w"] ∧
      ¬StandsQuoted "a.x == 'y' OR b.z == 'w'".toList "y' OR b.z == 'w" := by
  refine ⟨by decide +kernel, by decide +kernel, ?_⟩
  rintro ⟨before, quote, after, hquote, -, free, written⟩
  have here : quote ∈ "a.x == 'y' OR b.z == 'w'".toList := by
    rw [written]
    exact List.mem_append_right _ List.mem_cons_self
  simp only [isQuote, Bool.or_eq_true, decide_eq_true_eq] at hquote
  rcases hquote with rfl | rfl
  · exact absurd free (by decide)
  · exact absurd here (by decide)

end Condition

end Workflow
