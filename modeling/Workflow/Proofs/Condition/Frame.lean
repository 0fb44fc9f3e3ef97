import Workflow.Proofs.Condition.Borders
import Workflow.Proofs.Condition.Quotation
import Workflow.Proofs.Condition.Tokens

/-!
# What renaming leaves alone

A label that is a condition is tiled by its quoted runs, its path tokens outside quotes, each as
long as it can be, and single characters in between. Renaming goes through these pieces one by one:
runs and characters are copied, and so are tokens, but for those that are the text of a path of the
condition, of which the name before the first point may become another one.

Main statements: `Seam.exists_tiles` and `renameSteps_frame`.
-/

namespace Workflow.Condition

open Text

/-! ## Pieces -/

/-- A piece of a label. -/
inductive Piece where
  | quoted (quote : Char) (inner : List Char)
  | token (text : List Char)
  | gap (c : Char)

namespace Piece

def text : Piece → List Char
  | quoted quote inner => quote :: (inner ++ [quote])
  | token text => text
  | gap c => [c]

/-- The piece is as it has to be between two texts: a run ends at the first quote of its kind, a
token cannot be made longer at either side, and a single character is in no token. -/
def Fits (before after : List Char) : Piece → Prop
  | quoted quote inner => isQuote quote = true ∧ quote ∉ inner
  | token text => IsToken text ∧ ∀ left right, left <:+ before → right <+: after →
      IsToken (left ++ text ++ right) → left = [] ∧ right = []
  | gap c => isQuote c = false ∧ ∀ left right, left <:+ before → right <+: after →
      ¬IsToken (left ++ c :: right)

/-- What becomes of a piece when the steps of these paths are renamed. -/
inductive Becomes (paths : List Path) (rename : String → Option String) :
    Piece → List Char → Prop where
  | quoted (quote : Char) (inner : List Char) :
      Becomes paths rename (quoted quote inner) (quote :: (inner ++ [quote]))
  | gap (c : Char) : Becomes paths rename (gap c) [c]
  | kept {text : List Char} :
      (∀ path ∈ paths, path.text.toList = text → ∀ step rest, text = step ++ '.' :: rest →
        '.' ∉ step → rename (String.ofList step) = none) →
      Becomes paths rename (token text) text
  | renamed {path : Path} {step rest : List Char} {new : String} : path ∈ paths →
      path.text.toList = step ++ '.' :: rest → '.' ∉ step →
      '{' ∉ step ++ '.' :: rest → '}' ∉ step ++ '.' :: rest →
      rename (String.ofList step) = some new →
      Becomes paths rename (token (step ++ '.' :: rest)) (new.toList ++ '.' :: rest)

end Piece

/-- The pieces make up the text that comes after `before`, each of them begins outside quotes, and
each fits where it stands. -/
inductive Tiles : List Char → List Piece → List Char → Prop where
  | nil (before : List Char) : Tiles before [] []
  | cons {before after : List Char} {piece : Piece} {pieces : List Piece} :
      before.foldl quoteAfter none = none → piece.Fits before after →
      Tiles (before ++ piece.text) pieces after →
      Tiles before (piece :: pieces) (piece.text ++ after)

theorem Tiles.flatMap_text {before text : List Char} {pieces : List Piece}
    (h : Tiles before pieces text) : pieces.flatMap Piece.text = text := by
  induction h with
  | nil => rfl
  | cons _ _ _ ih => rw [List.flatMap_cons, ih]

/-! ## What is read at a piece -/

namespace Piece.Fits

variable {before after : List Char}

/-- Where a token stands it is what is read, and nothing longer. -/
theorem leadingToken?_eq_some {token : List Char} (h : Fits before after (.token token)) :
    leadingToken? (token ++ after) = some token := by
  obtain ⟨isToken, longest⟩ := h
  obtain ⟨read, hread, hprefix⟩ := isToken.prefix_leadingToken? (List.prefix_append token after)
  obtain ⟨more, rfl⟩ := hprefix
  have goes_on : more <+: after :=
    (List.prefix_append_right_inj token).1 (leadingToken?_isPrefix hread)
  have longer : IsToken ([] ++ token ++ more) := isToken_of_leadingToken? hread
  rw [hread, (longest [] more List.nil_suffix goes_on longer).2, List.append_nil]

theorem leadingToken?_eq_none {c : Char} (h : Fits before after (.gap c)) :
    leadingToken? (c :: after) = none := by
  by_contra hne
  obtain ⟨read, hread⟩ := Option.ne_none_iff_exists'.1 hne
  obtain ⟨d, more, rfl⟩ := List.exists_cons_of_ne_nil (leadingToken?_ne_nil hread)
  obtain ⟨rfl, hmore⟩ := List.cons_prefix_cons.1 (leadingToken?_isPrefix hread)
  exact h.2 [] more List.nil_suffix hmore (isToken_of_leadingToken? hread)

end Piece.Fits

/-! ## Renaming piece by piece -/

section Rename

variable (paths : List Path) (rename : String → Option String)

theorem mapWords_quoted {quote : Char} (hquote : isQuote quote = true) {inner : List Char}
    (h : quote ∉ inner) (rest : List Char) :
    mapWords (renameWord paths rename) (quote :: (inner ++ quote :: rest)) =
      quote :: (inner ++ quote :: mapWords (renameWord paths rename) rest) := by
  have opened : quoteAfter none quote = some quote := by simp [quoteAfter, hquote]
  have closed : quoteAfter (some quote) quote = none := by simp [quoteAfter]
  rw [mapWords, mapWordsFrom_between (isWordChar_of_isQuote hquote), opened,
    mapWordsFrom_renameWord_inside hquote h, mapWordsFrom_renameWord_quoted _ _ hquote, closed]
  rfl

theorem startsApart_dropWhile_unquoted (text : List Char) :
    StartsApart (text.dropWhile (!isQuote ·)) := by
  intro c hc
  have quoted := List.head?_dropWhile_not (!isQuote ·) text
  rw [show (text.dropWhile (!isQuote ·)).head? = some c from hc] at quoted
  exact isWordChar_of_isQuote (by simpa using quoted)

/-- Up to the first quote a text is renamed by itself. -/
theorem mapWords_stretch (text : List Char) :
    mapWords (renameWord paths rename) text =
      renameTokens paths rename (text.takeWhile (!isQuote ·)) ++
        mapWords (renameWord paths rename) (text.dropWhile (!isQuote ·)) := by
  have unquoted : ∀ c ∈ text.takeWhile (!isQuote ·), isQuote c = false := by
    intro c hc
    simpa using List.all_eq_true.1 List.all_takeWhile c hc
  conv_lhs => rw [← List.takeWhile_append_dropWhile (p := (!isQuote ·)) (l := text)]
  exact mapWordsFrom_renameWord_unquoted _ _ unquoted (startsApart_dropWhile_unquoted text)

/-- What is read at the start of a text is read before its first quote. -/
theorem leadingToken?_takeWhile_unquoted {c : Char} (hc : isQuote c = false) (text : List Char) :
    leadingToken? ((c :: text).takeWhile (!isQuote ·)) = leadingToken? (c :: text) := by
  have here : (c :: text).takeWhile (!isQuote ·) = c :: text.takeWhile (!isQuote ·) :=
    List.takeWhile_cons_of_pos (by simp [hc])
  rw [here, ← leadingToken?_append_apart (startsApart_dropWhile_unquoted text),
    List.takeWhile_append_dropWhile]

theorem mapWords_gap {c : Char} (hc : isQuote c = false) {rest : List Char}
    (h : leadingToken? (c :: rest) = none) :
    mapWords (renameWord paths rename) (c :: rest) =
      c :: mapWords (renameWord paths rename) rest := by
  have here : (c :: rest).takeWhile (!isQuote ·) = c :: rest.takeWhile (!isQuote ·) :=
    List.takeWhile_cons_of_pos (by simp [hc])
  have behind : (c :: rest).dropWhile (!isQuote ·) = rest.dropWhile (!isQuote ·) :=
    List.dropWhile_cons_of_pos (by simp [hc])
  rw [← leadingToken?_takeWhile_unquoted hc, here] at h
  rw [mapWords_stretch, here, behind, renameTokens_of_none _ _ h, List.cons_append,
    ← mapWords_stretch]

theorem mapWords_token {token rest : List Char} (h : leadingToken? (token ++ rest) = some token) :
    mapWords (renameWord paths rename) (token ++ rest) =
      renameToken paths rename token ++ mapWords (renameWord paths rename) rest := by
  have unquoted : ∀ c ∈ token, (!isQuote c) = true := by
    intro c hc
    simp [isQuote_of_isWordChar ((isToken_of_leadingToken? h).isWordChar c hc)]
  obtain ⟨c, tail, rfl⟩ := List.exists_cons_of_ne_nil (leadingToken?_ne_nil h)
  have first : isQuote c = false := by simpa using unquoted c List.mem_cons_self
  have here : leadingToken? (c :: tail ++ rest.takeWhile (!isQuote ·)) = some (c :: tail) := by
    rw [← List.takeWhile_append_of_pos unquoted, List.cons_append,
      leadingToken?_takeWhile_unquoted first]
    exact h
  rw [mapWords_stretch, List.takeWhile_append_of_pos unquoted,
    List.dropWhile_append_of_pos unquoted, renameTokens_of_token _ _ here, List.drop_left,
    List.append_assoc, ← mapWords_stretch]

theorem cut_at_point {step : List Char} (h : '.' ∉ step) (rest : List Char) :
    (step ++ '.' :: rest).takeWhile (· ≠ '.') = step ∧
      (step ++ '.' :: rest).dropWhile (· ≠ '.') = '.' :: rest := by
  have before : ∀ c ∈ step, decide (c ≠ '.') = true := by
    intro c hc
    exact decide_eq_true fun same => h (same ▸ hc)
  rw [List.takeWhile_append_of_pos before, List.dropWhile_append_of_pos before]
  simp

/-- A token that is a path of the condition carries no brace. -/
theorem becomes_renameToken {token : List Char} (hpoint : '.' ∈ token)
    (bare : ∀ path ∈ paths, '{' ∉ path.text.toList ∧ '}' ∉ path.text.toList) :
    Piece.Becomes paths rename (.token token) (renameToken paths rename token) := by
  rw [renameToken]
  split
  · next hcopied =>
      refine .kept fun path hpath htext _ _ _ _ => ?_
      rcases hcopied with hopen | hforeign
      · obtain ⟨rest, rfl⟩ := List.head?_eq_some_iff.1 hopen
        exact absurd (htext ▸ List.mem_cons_self) (bare path hpath).1
      · refine absurd (List.mem_map.2 ⟨path, hpath, ?_⟩) hforeign
        rw [← htext, String.ofList_toList]
  · next hread =>
      obtain ⟨path, hpath, htext⟩ := List.mem_map.1 (not_not.1 (not_or.1 hread).2)
      have htext : path.text.toList = token := by rw [htext, String.toList_ofList]
      obtain ⟨step, rest, rfl, hstep⟩ := List.eq_append_cons_of_mem hpoint
      rw [(cut_at_point hstep rest).1, (cut_at_point hstep rest).2]
      split
      · next new hnew =>
          have braces := bare path hpath
          rw [htext] at braces
          exact .renamed hpath htext hstep braces.1 braces.2 hnew
      · next hnone =>
          refine .kept fun _ _ _ step' rest' heq hstep' => ?_
          rw [← (cut_at_point hstep' rest').1, ← heq, (cut_at_point hstep rest).1]
          exact hnone

/-- A tiled text is renamed tile by tile. -/
theorem Tiles.mapWords {before text : List Char} {pieces : List Piece}
    (h : Tiles before pieces text)
    (bare : ∀ path ∈ paths, '{' ∉ path.text.toList ∧ '}' ∉ path.text.toList) :
    ∃ outs, List.Forall₂ (Piece.Becomes paths rename) pieces outs ∧
      Condition.mapWords (renameWord paths rename) text = outs.flatten := by
  induction h with
  | nil => exact ⟨[], .nil, mapWordsFrom_nil⟩
  | @cons before after piece pieces _ fits _ ih =>
      obtain ⟨outs, becomes, renamed⟩ := ih
      cases piece with
      | quoted quote inner =>
          refine ⟨_ :: outs, .cons (.quoted quote inner) becomes, ?_⟩
          have written : Piece.text (.quoted quote inner) ++ after =
              quote :: (inner ++ quote :: after) := by
            simp [Piece.text]
          rw [written, mapWords_quoted _ _ fits.1 fits.2, renamed]
          simp
      | token token =>
          have hread := fits.leadingToken?_eq_some
          have hpoint := point_mem_of_leadingToken? hread
          refine ⟨_ :: outs, .cons (becomes_renameToken paths rename hpoint bare) becomes, ?_⟩
          rw [List.flatten_cons, ← renamed]
          exact mapWords_token paths rename hread
      | gap c =>
          refine ⟨_ :: outs, .cons (.gap c) becomes, ?_⟩
          rw [List.flatten_cons, ← renamed]
          exact mapWords_gap paths rename fits.1 fits.leadingToken?_eq_none

end Rename

/-! ## Every label is tiled -/

/-- No token begins in the one text and ends in the other. -/
def NoneAcross (before rest : List Char) : Prop :=
  ∀ left right, left <:+ before → left ≠ [] → right <+: rest → right ≠ [] → ¬IsToken (left ++ right)

/-- What ends with one text does so within its last part or goes back before it. -/
theorem suffix_append_cases {α : Type} {left before last : List α} (h : left <:+ before ++ last) :
    left <:+ last ∨ ∃ more, more <:+ before ∧ more ≠ [] ∧ left = more ++ last := by
  rcases List.suffix_or_suffix_of_suffix h (List.suffix_append before last) with short | long
  · exact .inl short
  · obtain ⟨more, rfl⟩ := long
    by_cases hmore : more = []
    · rw [hmore, List.nil_append]
      exact .inl List.suffix_rfl
    · obtain ⟨first, heq⟩ := h
      rw [← List.append_assoc] at heq
      exact .inr ⟨more, ⟨first, List.append_cancel_right heq⟩, hmore, rfl⟩

namespace NoneAcross

variable {before rest : List Char}

theorem nil (rest : List Char) : NoneAcross [] rest := by
  intro left right hleft hne _ _ _
  exact hne (List.suffix_nil.1 hleft)

/-- A quote is in no token. -/
theorem concat_quote {quote : Char} (hquote : isQuote quote = true) (before rest : List Char) :
    NoneAcross (before ++ [quote]) rest := by
  intro left right hleft hne _ _ token
  have inside : quote ∈ left := by
    obtain ⟨more, heq⟩ := hleft
    have last := congrArg List.getLast? heq
    rw [List.getLast?_append_of_ne_nil _ hne, List.getLast?_concat] at last
    exact List.mem_of_mem_getLast? last
  have word := token.isWordChar quote (List.mem_append_left _ inside)
  rw [isWordChar_of_isQuote hquote] at word
  cases word

/-- Behind the token that is read no other one is open. -/
theorem append_token {token : List Char} (h : NoneAcross before (token ++ rest))
    (hread : leadingToken? (token ++ rest) = some token) : NoneAcross (before ++ token) rest := by
  intro left right hleft hne hright hne' isToken
  rcases suffix_append_cases hleft with within | ⟨more, hmore, hmore_ne, rfl⟩
  · exact not_isToken_across_end hread within hne hright hne' isToken
  · rw [List.append_assoc] at isToken
    exact h more (token ++ right) hmore hmore_ne ((List.prefix_append_right_inj token).2 hright)
      (List.append_ne_nil_of_right_ne_nil _ hne') isToken

/-- Where no token is read none begins, and none is open behind the character. -/
theorem concat_gap {c : Char} (h : NoneAcross before (c :: rest))
    (hread : leadingToken? (c :: rest) = none) :
    (∀ left right, left <:+ before → right <+: rest → ¬IsToken (left ++ c :: right)) ∧
      NoneAcross (before ++ [c]) rest := by
  have free : ∀ left right, left <:+ before → right <+: rest → ¬IsToken (left ++ c :: right) := by
    intro left right hleft hright isToken
    have starts : c :: right <+: c :: rest := List.cons_prefix_cons.2 ⟨rfl, hright⟩
    by_cases hne : left = []
    · subst hne
      obtain ⟨read, hread', -⟩ := isToken.prefix_leadingToken? starts
      rw [hread] at hread'
      cases hread'
    · exact h left (c :: right) hleft hne starts (List.cons_ne_nil c right) isToken
  refine ⟨free, fun left right hleft hne hright _ isToken => ?_⟩
  rcases List.suffix_concat_iff.1 hleft with hnil | ⟨more, rfl, hmore⟩
  · exact hne hnil
  · rw [List.append_assoc] at isToken
    exact free more right hmore hright isToken

end NoneAcross

/-- An open quote that is closed in the end is closed by the next quote of its kind. -/
theorem exists_closing_quote {quote : Char} {text : List Char}
    (h : text.foldl quoteAfter (some quote) = none) :
    ∃ inner rest, text = inner ++ quote :: rest ∧ quote ∉ inner ∧
      rest.foldl quoteAfter none = none := by
  induction text with
  | nil => cases h
  | cons c text ih =>
      rw [List.foldl_cons, quoteAfter] at h
      split at h
      · next closing =>
          subst closing
          exact ⟨[], text, rfl, List.not_mem_nil, h⟩
      · next other =>
          obtain ⟨inner, rest, rfl, hinner, hrest⟩ := ih h
          exact ⟨c :: inner, rest, rfl, by simp [Ne.symm other, hinner], hrest⟩

theorem foldl_quoteAfter_unquoted {text : List Char} (h : ∀ c ∈ text, isQuote c = false) :
    text.foldl quoteAfter none = none := by
  induction text with
  | nil => rfl
  | cons c text ih =>
      rw [List.foldl_cons, quoteAfter, h c List.mem_cons_self, if_neg Bool.false_ne_true,
        ih fun d hd => h d (List.mem_cons_of_mem c hd)]

/-- Tiling may go on between two texts: no quote is open there and none stays open behind, and no
token goes across. -/
structure Seam (before rest : List Char) : Prop where
  outside : before.foldl quoteAfter none = none
  closed : rest.foldl quoteAfter none = none
  apart : NoneAcross before rest

namespace Seam

variable {before rest : List Char}

theorem quoted {quote : Char} {inner : List Char} (hquote : isQuote quote = true)
    (hinner : quote ∉ inner) (outside : before.foldl quoteAfter none = none)
    (closed : rest.foldl quoteAfter none = none) :
    Seam (before ++ Piece.text (.quoted quote inner)) rest where
  outside := by
    rw [List.foldl_append, outside]
    exact foldl_quoteAfter_quoted hquote hinner []
  closed := closed
  apart := by
    have ended := NoneAcross.concat_quote hquote (before ++ quote :: inner) rest
    rwa [List.append_assoc] at ended

theorem gap {c : Char} (h : Seam before (c :: rest)) (unquoted : isQuote c = false)
    (hread : leadingToken? (c :: rest) = none) : Seam (before ++ Piece.text (.gap c)) rest := by
  have still : quoteAfter none c = none := by simp [quoteAfter, unquoted]
  have closed := h.closed
  rw [List.foldl_cons, still] at closed
  refine ⟨?_, closed, (h.apart.concat_gap hread).2⟩
  rw [List.foldl_append, h.outside]
  exact still

theorem token {token : List Char} (h : Seam before (token ++ rest))
    (hread : leadingToken? (token ++ rest) = some token) :
    Seam (before ++ Piece.text (.token token)) rest := by
  have unquoted : ∀ c ∈ token, isQuote c = false :=
    fun c hc => isQuote_of_isWordChar ((isToken_of_leadingToken? hread).isWordChar c hc)
  have closed := h.closed
  rw [List.foldl_append, foldl_quoteAfter_unquoted unquoted] at closed
  refine ⟨?_, closed, h.apart.append_token hread⟩
  rw [List.foldl_append, h.outside]
  exact foldl_quoteAfter_unquoted unquoted

/-- The token that is read at a seam cannot be made longer. -/
theorem fits_token {token : List Char} (h : Seam before (token ++ rest))
    (hread : leadingToken? (token ++ rest) = some token) :
    Piece.Fits before rest (.token token) := by
  have nonempty := leadingToken?_ne_nil hread
  refine ⟨isToken_of_leadingToken? hread, fun left right hleft hright longer => ?_⟩
  by_cases hne : left = []
  · subst hne
    refine ⟨rfl, ?_⟩
    by_contra hne'
    exact not_isToken_across_end hread List.suffix_rfl nonempty hright hne' longer
  · rw [List.append_assoc] at longer
    exact absurd longer (h.apart left (token ++ right) hleft hne
      ((List.prefix_append_right_inj token).2 hright)
      (List.append_ne_nil_of_left_ne_nil nonempty _))

/-- At a seam a piece can be taken off, and behind it there is a seam again. -/
theorem exists_piece {c : Char} (h : Seam before (c :: rest)) :
    ∃ piece after, c :: rest = Piece.text piece ++ after ∧ piece.text ≠ [] ∧
      piece.Fits before after ∧ Seam (before ++ piece.text) after := by
  by_cases hquote : isQuote c = true
  · have opened : quoteAfter none c = some c := by simp [quoteAfter, hquote]
    have closed := h.closed
    rw [List.foldl_cons, opened] at closed
    obtain ⟨inner, after, rfl, hinner, hafter⟩ := exists_closing_quote closed
    refine ⟨.quoted c inner, after, ?_, List.cons_ne_nil c _, ⟨hquote, hinner⟩,
      .quoted hquote hinner h.outside hafter⟩
    rw [Piece.text, List.cons_append, List.append_assoc, List.singleton_append]
  · have unquoted : isQuote c = false := by simpa using hquote
    cases hread : leadingToken? (c :: rest) with
    | none =>
        exact ⟨.gap c, rest, rfl, List.cons_ne_nil c [], ⟨unquoted, (h.apart.concat_gap hread).1⟩,
          h.gap unquoted hread⟩
    | some token =>
        obtain ⟨after, hafter⟩ := leadingToken?_isPrefix hread
        rw [← hafter] at hread h
        exact ⟨.token token, after, hafter.symm, leadingToken?_ne_nil hread, h.fits_token hread,
          h.token hread⟩

/-- What comes behind a seam is tiled. -/
theorem exists_tiles (h : Seam before rest) : ∃ pieces, Tiles before pieces rest := by
  induction hn : rest.length using Nat.strong_induction_on generalizing before rest with
  | _ n ih =>
      cases rest with
      | nil => exact ⟨[], .nil before⟩
      | cons c rest =>
          obtain ⟨piece, after, htext, hne, fits, seam⟩ := h.exists_piece
          have shorter : after.length < n := by
            have := List.length_pos_iff.2 hne
            rw [← hn, htext, List.length_append]
            omega
          obtain ⟨pieces, tiles⟩ := ih after.length shorter seam rfl
          exact ⟨piece :: pieces, htext ▸ .cons h.outside fits tiles⟩

end Seam

/-! ## Labels -/

theorem Nesting.quote_of_after {n m : Nesting} {text : List Char} (h : n.after text = some m) :
    m.quote = text.foldl quoteAfter n.quote := by
  induction n, text, h using after_induction with
  | nil => rfl
  | cons n next c text hstep _ ih => rw [ih, quote_of_step hstep, List.foldl_cons]

theorem segments_of_ofSegments? {parts : List String} {path : Path}
    (h : Path.ofSegments? parts = some path) : path.segments = parts := by
  unfold Path.ofSegments? at h
  split at h
  · cases h
    rfl
  · cases h

/-- What is read as a path holds no other characters than a path may. -/
theorem isPathChar_of_parsePath {text : List Char} {path : Path} (h : parsePath text = .ok path) :
    ∀ c ∈ path.text.toList, isPathChar c = true := by
  simp only [parsePath] at h
  split at h
  · next path' hsegments =>
      split at h
      · next valid =>
          obtain rfl : path' = path := Except.ok.inj h
          have part : ∀ part ∈ path'.segments, ∀ c ∈ part.toList, isPathChar c = true := by
            rw [segments_of_ofSegments? hsegments]
            intro part hpart c hc
            obtain ⟨segment, hsegment, rfl⟩ := List.mem_map.1 hpart
            rw [String.toList_ofList] at hc
            have within := List.all_eq_true.1 valid segment hsegment
            rw [isSegment, Bool.and_eq_true, List.all_eq_true] at within
            rw [isPathChar, within.2 c hc, Bool.true_or]
          intro c hc
          rw [toList_text] at hc
          rcases List.mem_append.1 hc with hc | hc
          · exact part path'.step List.mem_cons_self c hc
          · obtain ⟨name, hname, hc⟩ := List.mem_flatMap.1 hc
            rcases List.mem_cons.1 hc with rfl | hc
            · decide
            · exact part name (List.mem_cons_of_mem _ hname) c hc
      · cases h
  · cases h

/-- The paths of a condition that is read carry no brace. -/
theorem bare_of_mem_paths {label : List Char} {condition : Condition}
    (h : parseChars label = .ok condition) {path : Path} (hpath : path ∈ condition.paths) :
    '{' ∉ path.text.toList ∧ '}' ∉ path.text.toList := by
  obtain ⟨outline, -, hread⟩ := exists_read_of_parseChars h
  obtain ⟨comparison, -, hparse⟩ := Outline.exists_comparison_of_mem_paths hread hpath
  have chars := isPathChar_of_parsePath hparse
  exact ⟨fun hmem => absurd (chars _ hmem) (by decide),
    fun hmem => absurd (chars _ hmem) (by decide)⟩

/-- A label that is a condition is tiled. -/
theorem exists_tiles_of_parseChars {label : List Char} {condition : Condition}
    (h : parseChars label = .ok condition) : ∃ pieces, Tiles [] pieces label := by
  have closed := Nesting.quote_of_after (closed_of_parseChars h).2
  have seam : Seam [] label := ⟨rfl, closed.symm, NoneAcross.nil label⟩
  exact seam.exists_tiles

theorem Piece.Becomes.eq_text {paths : List Path} {rename : String → Option String} {piece : Piece}
    {out : List Char} (h : piece.Becomes paths rename out) (unnamed : ∀ step, rename step = none) :
    out = piece.text := by
  cases h with
  | quoted | gap | kept => rfl
  | renamed _ _ _ _ _ hnew =>
      rw [unnamed] at hnew
      cases hnew

theorem flatten_of_unnamed {paths : List Path} {rename : String → Option String}
    {pieces : List Piece} {outs : List (List Char)} (unnamed : ∀ step, rename step = none)
    (h : List.Forall₂ (Piece.Becomes paths rename) pieces outs) :
    outs.flatten = pieces.flatMap Piece.text := by
  induction h with
  | nil => rfl
  | cons becomes _ ih => rw [List.flatten_cons, becomes.eq_text unnamed, ih, List.flatMap_cons]

/-- Renaming steps leaves a label alone that is no condition or reads no path. Any other label is
tiled by quoted runs, by tokens outside quotes that cannot be made longer, and by single characters
that are in none, and however it is tiled, renaming copies all but the tokens that are a path of the
condition, of which it replaces what stands before the first point, if the step gets a new name. So
nothing changes if no step does. -/
theorem renameSteps_frame (rename : String → Option String) (label : String) :
    (∀ e, parse label = .error e → renameSteps rename label = label) ∧
    (∀ condition, parse label = .ok condition → condition.paths = [] →
      renameSteps rename label = label) ∧
    (∀ condition, parse label = .ok condition →
      (∃ pieces, Tiles [] pieces label.toList) ∧
      ∀ pieces, Tiles [] pieces label.toList → ∃ outs,
        List.Forall₂ (Piece.Becomes condition.paths rename) pieces outs ∧
        renameSteps rename label = String.ofList outs.flatten) ∧
    ((∀ step, rename step = none) → renameSteps rename label = label) := by
  have unread : ∀ e, parse label = .error e → renameSteps rename label = label := by
    intro e h
    rw [renameSteps, h]
  have read : ∀ condition, parse label = .ok condition → ∀ pieces, Tiles [] pieces label.toList →
      ∃ outs, List.Forall₂ (Piece.Becomes condition.paths rename) pieces outs ∧
        renameSteps rename label = String.ofList outs.flatten := by
    intro condition h pieces tiles
    obtain ⟨outs, becomes, renamed⟩ :=
      tiles.mapWords condition.paths rename fun _ hpath => bare_of_mem_paths h hpath
    refine ⟨outs, becomes, ?_⟩
    rw [← renamed, ← toList_renameSteps_eq_mapWords h, String.ofList_toList]
  refine ⟨unread, fun condition h hpaths => ?_, fun condition h => ⟨exists_tiles_of_parseChars h,
    read condition h⟩, fun unnamed => ?_⟩
  · rw [renameSteps, h]
    exact if_pos hpaths
  · cases h : parse label with
    | error e => exact unread e h
    | ok condition =>
        obtain ⟨pieces, tiles⟩ := exists_tiles_of_parseChars h
        obtain ⟨outs, becomes, renamed⟩ := read condition h pieces tiles
        rw [renamed, flatten_of_unnamed unnamed becomes, tiles.flatMap_text, String.ofList_toList]

/-- A label with each of its paths also in quotes or in braces. -/
def quotingLabel : String := "b.x == null and \x7bb.n\x7d contains \"b.n\" or b.n == 'b.x'"

def quotingCondition : Condition :=
  .or
    (.and (.compare ⟨"b", "x", []⟩ .eq .null) (.compare ⟨"b", "n", []⟩ .contains (.text "b.n")))
    (.compare ⟨"b", "n", []⟩ .eq (.text "b.x"))

/-- What stands in quotes or in braces is copied, though it is a path of the label. -/
theorem bare_paths_renamed :
    parse quotingLabel = .ok quotingCondition ∧ ∃ pieces outs,
      Tiles [] pieces quotingLabel.toList ∧
      List.Forall₂ (Piece.Becomes quotingCondition.paths fun _ => some "ask") pieces outs ∧
      String.ofList outs.flatten =
        "ask.x == null and \x7bb.n\x7d contains \"b.n\" or ask.n == 'b.x'" := by
  have hparse : parse quotingLabel = .ok quotingCondition := by decide +kernel
  obtain ⟨-, -, read, -⟩ := renameSteps_frame (fun _ => some "ask") quotingLabel
  obtain ⟨⟨pieces, tiles⟩, renamed⟩ := read quotingCondition hparse
  obtain ⟨outs, becomes, heq⟩ := renamed pieces tiles
  refine ⟨hparse, pieces, outs, tiles, becomes, ?_⟩
  rw [← heq]
  decide +kernel

end Workflow.Condition
