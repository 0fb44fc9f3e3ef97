import Workflow.Proofs.Condition.Comparison

/-!
# Getting a label back from a rewritten one

A rewriting of words leaves everything between words alone. So if a second rewriting takes back what
a first one does to the sides of the comparisons, it takes back what the first one does to the
label. Placeholders that are told apart can be put back everywhere.

Main statements: `substituteText_undoAmong` and `IsOutline.restored`.
-/

namespace Workflow

/-! ## Putting references back -/

/-- The one of the references in the place of which `new` stands. -/
def undoAmong (references : List Reference) (replace : Reference → Option Reference)
    (new : Reference) : Option Reference :=
  references.find? fun r => r.replacedBy replace = new

section Undo

variable {replace : Reference → Option Reference}

theorem replacedBy_undoAmong {references : List Reference} {r : Reference} (hr : r ∈ references)
    (apart : ∀ s ∈ references, s.replacedBy replace = r.replacedBy replace → s = r) :
    (r.replacedBy replace).replacedBy (undoAmong references replace) = r := by
  obtain ⟨s, hs⟩ : ∃ s, undoAmong references replace (r.replacedBy replace) = some s :=
    Option.isSome_iff_exists.1 (List.find?_isSome.2 ⟨r, hr, by simp⟩)
  have same : s.replacedBy replace = r.replacedBy replace := by simpa using List.find?_some hs
  rw [Reference.replacedBy, hs, Option.getD_some, apart s (List.mem_of_find?_eq_some hs) same]

theorem substituteText_undoAmong {text : String}
    (readable : ∀ r ∈ referencesInText text, (r.replacedBy replace).isReadable = true)
    (apart : ∀ r s : Reference, r.replacedBy replace = s.replacedBy replace → r = s) :
    substituteText (undoAmong (referencesInText text) replace) (substituteText replace text) =
      text := by
  rw [substituteText_substituteText _ readable]
  have back : ∀ r ∈ referencesInText text,
      r.replacedBy (Reference.replaceTwice replace (undoAmong (referencesInText text) replace)) =
        r.replacedBy fun _ => none :=
    fun r hr => replacedBy_undoAmong hr fun s _ => apart s r
  rw [substituteText_congr back, substituteText, Template.substitute_none, Template.ofText,
    Template.render_ofChars, String.ofList_toList]

end Undo

namespace Condition

open Text

/-! ## Cuts -/

/-- The parts of a cut and the marks around them make up the text. -/
theorem Cut.IsOf.unique {a b : List Char} {cut : Cut} (ha : cut.IsOf a) (hb : cut.IsOf b) :
    a = b := by
  cases cut with
  | compare left op right =>
      obtain ⟨symbol, hsymbol, rfl⟩ := ha
      obtain ⟨symbol', hsymbol', rfl⟩ := hb
      have symbols : ∀ e ∈ operators, ∀ e' ∈ operators, e.2 = e'.2 → e.1 = e'.1 := by decide
      rw [show symbol = symbol' from symbols _ hsymbol _ hsymbol' rfl]
  | group inner => exact Eq.trans ha (Eq.symm hb)
  | const value => exact Eq.trans ha (Eq.symm hb)
  | or left right => exact Eq.trans ha (Eq.symm hb)
  | and left right => exact Eq.trans ha (Eq.symm hb)
  | not inner => exact Eq.trans ha (Eq.symm hb)

/-! ## Labels -/

section Restored

variable {f back : Bool → List Char → List Char}

theorem mapWords_between_blanks {before after : List Char} (blank : ∀ c ∈ before, isBlank c = true)
    (blank' : ∀ c ∈ after, isBlank c = true) (text : List Char) :
    mapWords f (before ++ text ++ after) = before ++ mapWords f text ++ after := by
  have ended : ∀ text : List Char, mapWords f (text ++ after) = mapWords f text ++ after := by
    intro text
    induction after using List.reverseRecOn with
    | nil => rw [List.append_nil, List.append_nil]
    | append_singleton after c ih =>
        have hc := (between_of_isBlank (blank' c (by simp))).1
        rw [← List.append_assoc, mapWords, mapWordsFrom_snoc hc, ← mapWords,
          ih fun d hd => blank' d (List.mem_append_left _ hd), List.append_assoc]
  rw [List.append_assoc, mapWords, mapWordsFrom_blanks blank, ← mapWords, ended, List.append_assoc]

/-- Blanks at the ends come through by themselves. -/
theorem restored_of_trim {text : List Char}
    (h : mapWords back (mapWords f (trim text)) = trim text) :
    mapWords back (mapWords f text) = text := by
  obtain ⟨before, after, blank, blank', heq⟩ := exists_blanks_trim text
  calc mapWords back (mapWords f text)
      = mapWords back (mapWords f (before ++ trim text ++ after)) := by rw [← heq]
    _ = before ++ trim text ++ after := by
        rw [mapWords_between_blanks blank blank', mapWords_between_blanks blank blank', h]
    _ = text := heq.symm

variable (tame : IsTame f) (tame' : IsTame back)
include tame tame'

/-- A cut label is taken back where its parts are. -/
theorem restored_of_cut {label : List Char} {cut : Cut} (hcut : cut? label = some cut)
    (parts : ∀ part ∈ cut.parts, mapWords back (mapWords f part) = part) :
    mapWords back (mapWords f label) = label := by
  have same : (cut.map (mapWords f)).map (mapWords back) = cut := by
    cases cut <;> simp_all [Cut.parts, Cut.map]
  have again : cut? (mapWords back (mapWords f label)) = some cut := by
    rw [cut?_mapWords tame', cut?_mapWords tame, hcut, Option.map_some, Option.map_some, same]
  refine restored_of_trim ?_
  rw [← trim_mapWords tame, ← trim_mapWords tame']
  exact (isOf_of_cut? again).unique (isOf_of_cut? hcut)

/-- A label is taken back where the sides of its comparisons are. -/
theorem IsOutline.restored {label : List Char} {o : Outline} (h : IsOutline label o)
    (sides : ∀ c ∈ o.comparisons, Condition.mapWords back (Condition.mapWords f c.1) = c.1 ∧
      Condition.mapWords back (Condition.mapWords f c.2) = c.2) :
    Condition.mapWords back (Condition.mapWords f label) = label := by
  induction h with
  | group hcut _ ih => exact restored_of_cut tame tame' hcut (by simpa [Cut.parts] using ih sides)
  | const hcut => exact restored_of_cut tame tame' hcut (by simp [Cut.parts])
  | or hcut _ _ ihl ihr =>
      have left := ihl fun c hc => sides c (List.mem_append_left _ hc)
      have right := ihr fun c hc => sides c (List.mem_append_right _ hc)
      exact restored_of_cut tame tame' hcut (by simp [Cut.parts, left, right])
  | and hcut _ _ ihl ihr =>
      have left := ihl fun c hc => sides c (List.mem_append_left _ hc)
      have right := ihr fun c hc => sides c (List.mem_append_right _ hc)
      exact restored_of_cut tame tame' hcut (by simp [Cut.parts, left, right])
  | not hcut _ ih => exact restored_of_cut tame tame' hcut (by simpa [Cut.parts] using ih sides)
  | compare hcut =>
      obtain ⟨left, right⟩ := sides _ (List.mem_singleton_self _)
      exact restored_of_cut tame tame' hcut (by simp [Cut.parts, left, right])

end Restored

end Condition

end Workflow
