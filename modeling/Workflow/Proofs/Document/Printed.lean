import Workflow.Proofs.Document.Literal
import Workflow.Proofs.Document.Depth

/-!
# Written values are read again

The text of a value as it stands in a file is read as the tree of this value, if its integers fit a
machine word and each of its doubles is what the reader makes of its digits. Where brackets are
nested too deep the tree is cut off. The bound on the recursion of the reader is never reached:
every call has read a character or more.

Main statement: `read?_pretty`, for all values.
-/

namespace Workflow

open Source JsonText

/-- The double is what the reader makes of its text. -/
def Binary64.ReadsBack (x : Binary64) : Prop :=
  readNumber (Json.numberLayout.text x).toList = some (.scalar (.ofValue (.float x)), [])

instance (x : Binary64) : Decidable x.ReadsBack :=
  match h : readNumber (Json.numberLayout.text x).toList with
  | some (.scalar readings, []) =>
      decidable_of_iff (readings = .ofValue (.float x)) (by simp [Binary64.ReadsBack, h])
  | some (.scalar _, _ :: _) => .isFalse (by simp [Binary64.ReadsBack, h])
  | some (.list .., _) => .isFalse (by simp [Binary64.ReadsBack, h])
  | some (.map .., _) => .isFalse (by simp [Binary64.ReadsBack, h])
  | some (.alias _, _) => .isFalse (by simp [Binary64.ReadsBack, h])
  | none => .isFalse (by simp [Binary64.ReadsBack, h])

example : (Binary64.ofDecimal false 1 (-4)).ReadsBack := by decide +kernel
example : ¬ (Binary64.ofDecimal false 1 (-24)).ReadsBack := by decide +kernel

namespace Json

mutual

/-- The numbers in the value are what the reader makes of their texts. -/
def ReadsBack : Json → Prop
  | .int n => FitsWord n
  | .float x => x.ReadsBack
  | .array items => ItemsReadBack items
  | .object fields => FieldsReadBack fields
  | .null | .bool _ | .text _ => True

/-- The numbers in all items are what the reader makes of their texts. -/
def ItemsReadBack : List Json → Prop
  | [] => True
  | item :: rest => ReadsBack item ∧ ItemsReadBack rest

/-- The numbers in the values of all fields are what the reader makes of their texts. -/
def FieldsReadBack : List (String × Json) → Prop
  | [] => True
  | (_, value) :: rest => ReadsBack value ∧ FieldsReadBack rest

end

mutual

def decReadsBack : (value : Json) → Decidable value.ReadsBack
  | .null | .bool _ | .text _ => .isTrue trivial
  | .int n => inferInstanceAs (Decidable (FitsWord n))
  | .float x => inferInstanceAs (Decidable x.ReadsBack)
  | .array items => decItemsReadBack items
  | .object fields => decFieldsReadBack fields

def decItemsReadBack : (items : List Json) → Decidable (ItemsReadBack items)
  | [] => .isTrue trivial
  | item :: rest => @instDecidableAnd _ _ (decReadsBack item) (decItemsReadBack rest)

def decFieldsReadBack : (fields : List (String × Json)) → Decidable (FieldsReadBack fields)
  | [] => .isTrue trivial
  | (_, value) :: rest => @instDecidableAnd _ _ (decReadsBack value) (decFieldsReadBack rest)

end

instance : DecidablePred ReadsBack := decReadsBack

/-! ## Texts of values -/

theorem toList_quote (s : String) :
    (quote s).toList = '"' :: (s.toList.flatMap escapedChar ++ ['"']) := by
  rw [quote, String.toList_ofList]

theorem toList_lineBreak (depth : Nat) :
    (lineBreak depth).toList = '\n' :: List.replicate (2 * depth) ' ' := by
  simp [lineBreak]

theorem length_lineBreak (depth : Nat) : (lineBreak depth).toList.length = 2 * depth + 1 := by
  rw [toList_lineBreak, List.length_cons, List.length_replicate]

/-- Items on lines of their own, between brackets. -/
def joined (depth : Nat) (items : List String) : List Char :=
  (("," ++ lineBreak depth).intercalate items).toList

theorem joined_singleton (depth : Nat) (item : String) : joined depth [item] = item.toList := by
  simp [joined]

theorem joined_cons_cons (depth : Nat) (item next : String) (items : List String) :
    joined depth (item :: next :: items) =
      item.toList ++ ',' :: ((lineBreak depth).toList ++ joined depth (next :: items)) := by
  simp [joined, List.intercalate]

theorem toList_spreadOver_nil (left right : String) (depth : Nat) :
    (spreadOver left right depth []).toList = left.toList ++ right.toList := by
  simp [spreadOver]

theorem toList_spreadOver_cons (left right : String) (depth : Nat) (item : String)
    (items : List String) :
    (spreadOver left right depth (item :: items)).toList =
      left.toList ++ ((lineBreak (depth + 1)).toList ++ (joined (depth + 1) (item :: items) ++
        ((lineBreak depth).toList ++ right.toList))) := by
  simp [spreadOver, joined]

end Json

open Json

namespace Source.JsonText

/-! ## Blanks -/

theorem skipBlanks_lineBreak (depth : Nat) (text : List Char) :
    skipBlanks ((lineBreak depth).toList ++ text) = skipBlanks text := by
  rw [toList_lineBreak, skipBlanks, skipBlanks, List.dropWhile_append_of_pos]
  intro c hc
  rcases List.mem_cons.1 hc with rfl | blank
  · rfl
  · rw [List.eq_of_mem_replicate blank]
    rfl

/-- The text begins with a character that is neither blank nor a closing bracket. -/
def StartsValue (text : List Char) : Prop :=
  ∃ c rest, text = c :: rest ∧ c ∉ [' ', '\n', '\r', '\t', ']', '\x7d']

theorem StartsValue.skipBlanks {text : List Char} (h : StartsValue text) (rest : List Char) :
    skipBlanks (text ++ rest) = text ++ rest := by
  obtain ⟨c, tail, rfl, hc⟩ := h
  simp only [List.mem_cons, not_or] at hc
  obtain ⟨blank, newline, back, tab, _⟩ := hc
  exact List.dropWhile_cons_of_neg (by simp [blank, newline, back, tab])

theorem StartsValue.length_pos {text : List Char} (h : StartsValue text) : 0 < text.length := by
  obtain ⟨c, tail, rfl, _⟩ := h
  exact Nat.succ_pos _

theorem startsValue_of_readNumber {text : List Char} {result : Source × List Char}
    (h : readNumber text = some result) : StartsValue text := by
  obtain ⟨c, rest, rfl, hc⟩ := exists_cons_of_readNumber h
  refine ⟨c, rest, rfl, ?_⟩
  intro other
  simp only [List.mem_cons, List.not_mem_nil, or_false] at other
  rcases other with rfl | rfl | rfl | rfl | rfl | rfl <;> revert hc <;> decide

theorem startsValue_spread (depth : Nat) {value : Json} (h : value.ReadsBack) :
    StartsValue (spread depth value).toList := by
  cases value with
  | null =>
      rw [spread]
      exact ⟨'n', _, rfl, by decide⟩
  | bool b =>
      rw [spread]
      cases b
      · exact ⟨'f', _, rfl, by decide⟩
      · exact ⟨'t', _, rfl, by decide⟩
  | int n =>
      rw [spread]
      exact startsValue_of_readNumber (readNumber_toString h)
  | float x =>
      rw [spread]
      exact startsValue_of_readNumber h
  | text s =>
      rw [spread, toList_quote]
      exact ⟨'"', _, rfl, by decide⟩
  | array items =>
      rw [spread]
      cases spreadItems (depth + 1) items with
      | nil => exact ⟨'[', _, toList_spreadOver_nil .., by decide⟩
      | cons => exact ⟨'[', _, toList_spreadOver_cons .., by decide⟩
  | object fields =>
      rw [spread]
      cases spreadFields (depth + 1) fields with
      | nil => exact ⟨'\x7b', _, toList_spreadOver_nil .., by decide⟩
      | cons => exact ⟨'\x7b', _, toList_spreadOver_cons .., by decide⟩

/-! ## Single values -/

/-- Where a value is read, blanks in front of it do not matter. -/
theorem readValue_of_skipBlanks {text text' : List Char} (h : skipBlanks text = skipBlanks text')
    (fuel levels : Nat) : readValue (fuel + 1) levels text = readValue (fuel + 1) levels text' := by
  rw [readValue, readValue, h]

theorem readValue_number {text rest : List Char} {source : Source}
    (h : readNumber text = some (source, [])) (ends : EndsValue rest) (fuel levels : Nat) :
    readValue (fuel + 1) levels (text ++ rest) = some (source, rest) := by
  rw [readValue, (startsValue_of_readNumber h).skipBlanks]
  obtain ⟨c, tail, rfl, hc⟩ := exists_cons_of_readNumber h
  have other : ∀ d ∈ ['n', 't', 'f', '"', '[', '\x7b'], c ≠ d := by
    rintro d hd rfl
    simp only [List.mem_cons, List.not_mem_nil, or_false] at hd
    rcases hd with rfl | rfl | rfl | rfl | rfl | rfl <;> revert hc <;> decide
  rw [List.cons_append]
  split
  · next h' => exact absurd (List.cons.inj h').1 (other 'n' (by decide))
  · next h' => exact absurd (List.cons.inj h').1 (other 't' (by decide))
  · next h' => exact absurd (List.cons.inj h').1 (other 'f' (by decide))
  · next h' => exact absurd (List.cons.inj h').1 (other '"' (by decide))
  · next h' => exact absurd (List.cons.inj h').1 (other '[' (by decide))
  · next h' => exact absurd (List.cons.inj h').1 (other '\x7b' (by decide))
  · exact readNumber_append ends h

theorem readValue_quote (s : String) (rest : List Char) (fuel levels : Nat) :
    readValue (fuel + 1) levels ((quote s).toList ++ rest) = some (ofText s, rest) := by
  have start : skipBlanks ((quote s).toList ++ rest) =
      '"' :: (s.toList.flatMap escapedChar ++ '"' :: rest) := by
    rw [toList_quote]
    simp [skipBlanks]
  rw [readValue, start]
  simp only [readString_quote, Option.map_some, ofChars, String.ofList_toList]
  rfl

/-! ## Items and fields -/

section

variable {fuel levels : Nat} {text after rest : List Char} {source : Source}

theorem readValue_brackets (rest : List Char) :
    readValue (fuel + 1) levels ('[' :: ']' :: rest) =
      some (withinDepth levels (.list .loose []), rest) := by
  have opened : skipBlanks ('[' :: ']' :: rest) = '[' :: ']' :: rest := rfl
  have closed : skipBlanks (']' :: rest) = ']' :: rest := rfl
  rw [readValue, opened]
  simp [closed]

theorem readValue_braces (rest : List Char) :
    readValue (fuel + 1) levels ('\x7b' :: '\x7d' :: rest) =
      some (withinDepth levels (.map .loose []), rest) := by
  have opened : skipBlanks ('\x7b' :: '\x7d' :: rest) = '\x7b' :: '\x7d' :: rest := rfl
  have closed : skipBlanks ('\x7d' :: rest) = '\x7d' :: rest := rfl
  rw [readValue, opened]
  simp [closed]

theorem readValue_array {inner : List Char} {depth : Nat} (starts : StartsValue inner)
    {items : List Source}
    (h : readItems fuel (levels - 1) ((lineBreak depth).toList ++ (inner ++ after)) =
      some (items, rest)) :
    readValue (fuel + 1) levels ('[' :: ((lineBreak depth).toList ++ (inner ++ after))) =
      some (withinDepth levels (.list .loose items), rest) := by
  have first := (skipBlanks_lineBreak depth (inner ++ after)).trans (starts.skipBlanks after)
  obtain ⟨c, tail, rfl, hc⟩ := starts
  have other : c ≠ ']' := by
    rintro rfl
    simp at hc
  have opened (text : List Char) : skipBlanks ('[' :: text) = '[' :: text := rfl
  simp only [List.cons_append] at first h ⊢
  rw [readValue, opened]
  simp [first, other, h]

theorem readValue_object {inner : List Char} {depth : Nat} (starts : StartsValue inner)
    {entries : List (Source × Source)}
    (h : readEntries fuel (levels - 1) ((lineBreak depth).toList ++ (inner ++ after)) =
      some (entries, rest)) :
    readValue (fuel + 1) levels ('\x7b' :: ((lineBreak depth).toList ++ (inner ++ after))) =
      some (withinDepth levels (.map .loose entries), rest) := by
  have first := (skipBlanks_lineBreak depth (inner ++ after)).trans (starts.skipBlanks after)
  obtain ⟨c, tail, rfl, hc⟩ := starts
  have other : c ≠ '\x7d' := by
    rintro rfl
    simp at hc
  have opened (text : List Char) : skipBlanks ('\x7b' :: text) = '\x7b' :: text := rfl
  simp only [List.cons_append] at first h ⊢
  rw [readValue, opened]
  simp [first, other, h]

theorem readItems_of_close (h : readValue fuel levels text = some (source, after))
    (close : skipBlanks after = ']' :: rest) :
    readItems (fuel + 1) levels text = some ([source], rest) := by
  rw [readItems, h]
  simp [close]

theorem readItems_of_comma (h : readValue fuel levels text = some (source, ',' :: after))
    {items : List Source} (others : readItems fuel levels after = some (items, rest)) :
    readItems (fuel + 1) levels text = some (source :: items, rest) := by
  have comma : skipBlanks (',' :: after) = ',' :: after := rfl
  rw [readItems, h]
  simp [comma, others]

/-- The key of a field and the colon after it, in front of the text of its value. -/
theorem exists_of_key {key : String} {value : List Char}
    (h : skipBlanks text = (quote key).toList ++ ':' :: value) :
    ∃ opened, skipBlanks text = '"' :: opened ∧
      readString opened = some (some key.toList, ':' :: value) := by
  refine ⟨key.toList.flatMap escapedChar ++ '"' :: ':' :: value, ?_, readString_quote _ _⟩
  rw [h, toList_quote]
  simp

theorem readEntries_of_close {key : String} {value : List Char}
    (hkey : skipBlanks text = (quote key).toList ++ ':' :: value)
    (h : readValue fuel levels value = some (source, after))
    (close : skipBlanks after = '\x7d' :: rest) :
    readEntries (fuel + 1) levels text = some ([(ofText key, source)], rest) := by
  obtain ⟨opened, start, hstring⟩ := exists_of_key hkey
  have colon : skipBlanks (':' :: value) = ':' :: value := rfl
  rw [readEntries, start]
  simp [hstring, colon, h, close, ofChars, ofText]

theorem readEntries_of_comma {key : String} {value : List Char}
    (hkey : skipBlanks text = (quote key).toList ++ ':' :: value)
    (h : readValue fuel levels value = some (source, ',' :: after))
    {entries : List (Source × Source)}
    (others : readEntries fuel levels after = some (entries, rest)) :
    readEntries (fuel + 1) levels text = some ((ofText key, source) :: entries, rest) := by
  obtain ⟨opened, start, hstring⟩ := exists_of_key hkey
  have colon : skipBlanks (':' :: value) = ':' :: value := rfl
  have comma : skipBlanks (',' :: after) = ',' :: after := rfl
  rw [readEntries, start]
  simp [hstring, colon, h, comma, others, ofChars, ofText]

end

/-! ## All values -/

theorem endsValue_lineBreak (depth : Nat) (text : List Char) :
    EndsValue ((lineBreak depth).toList ++ text) := by
  rw [toList_lineBreak]
  rintro c ⟨rfl⟩
  exact .inr rfl

theorem endsValue_comma (text : List Char) : EndsValue (',' :: text) := by
  rintro c ⟨rfl⟩
  exact .inl rfl

theorem StartsValue.append {text : List Char} (h : StartsValue text) (rest : List Char) :
    StartsValue (text ++ rest) := by
  obtain ⟨c, tail, rfl, hc⟩ := h
  exact ⟨c, tail ++ rest, rfl, hc⟩

theorem startsValue_joined (depth : Nat) {item : Json} (items : List Json) (h : item.ReadsBack) :
    StartsValue (joined depth (spreadItems depth (item :: items))) := by
  cases items with
  | nil =>
      rw [spreadItems, spreadItems, joined_singleton]
      exact startsValue_spread depth h
  | cons next items =>
      rw [spreadItems, spreadItems, joined_cons_cons]
      exact (startsValue_spread depth h).append _

theorem toList_field (depth : Nat) (key : String) (value : Json) :
    (quote key ++ ": " ++ spread depth value).toList =
      (quote key).toList ++ ':' :: ' ' :: (spread depth value).toList := by
  simp

theorem startsValue_quote (s : String) : StartsValue (quote s).toList := by
  rw [toList_quote]
  exact ⟨'"', _, rfl, by decide⟩

theorem startsValue_joinedFields (depth : Nat) (key : String) (value : Json)
    (fields : List (String × Json)) :
    StartsValue (joined depth (spreadFields depth ((key, value) :: fields))) := by
  cases fields with
  | nil =>
      rw [spreadFields, spreadFields, joined_singleton, toList_field]
      exact (startsValue_quote key).append _
  | cons next fields =>
      obtain ⟨name, _⟩ := next
      rw [spreadFields, spreadFields, joined_cons_cons, toList_field, List.append_assoc]
      exact (startsValue_quote key).append _

theorem skipBlanks_field (depth : Nat) (key : String) (text : List Char) :
    skipBlanks ((lineBreak depth).toList ++ ((quote key).toList ++ text)) =
      (quote key).toList ++ text := by
  rw [skipBlanks_lineBreak, (startsValue_quote key).skipBlanks]

theorem skipBlanks_blank (text : List Char) : skipBlanks (' ' :: text) = skipBlanks text := rfl

/-- The text of the value is read as its tree, if the reader may go on for each of
its characters. -/
def IsRead (value : Json) : Prop :=
  ∀ (levels depth fuel : Nat) (rest : List Char), value.ReadsBack → EndsValue rest →
    2 * (spread depth value).toList.length ≤ fuel + 1 →
      readValue (fuel + 1) levels ((spread depth value).toList ++ rest) =
        some (treeWithin levels value, rest)

/-- The texts of the items are read as their trees, up to the bracket after them. -/
def ItemsAreRead (items : List Json) : Prop :=
  ∀ (levels depth outer fuel : Nat) (rest : List Char), items ≠ [] → ItemsReadBack items →
    2 * (joined depth (spreadItems depth items)).length + 1 ≤ fuel →
      readItems fuel levels ((lineBreak depth).toList ++
        (joined depth (spreadItems depth items) ++ ((lineBreak outer).toList ++ ']' :: rest))) =
          some (treeItemsWithin levels items, rest)

/-- The texts of the fields are read as their trees, up to the brace after them. -/
def FieldsAreRead (fields : List (String × Json)) : Prop :=
  ∀ (levels depth outer fuel : Nat) (rest : List Char), fields ≠ [] → FieldsReadBack fields →
    2 * (joined depth (spreadFields depth fields)).length + 1 ≤ fuel →
      readEntries fuel levels ((lineBreak depth).toList ++
        (joined depth (spreadFields depth fields) ++
          ((lineBreak outer).toList ++ '\x7d' :: rest))) =
          some (treeFieldsWithin levels fields, rest)

theorem isRead_array {items : List Json} (h : ItemsAreRead items) : IsRead (.array items) := by
  intro levels depth fuel rest back _ enough
  cases items with
  | nil =>
      rw [spread, spreadItems, toList_spreadOver_nil]
      exact readValue_brackets rest
  | cons item items =>
      have starts := startsValue_joined (depth + 1) items back.1
      rw [spread, spreadItems, toList_spreadOver_cons, ← spreadItems] at enough ⊢
      simp only [List.length_append, length_lineBreak] at enough
      have read := h (levels - 1) (depth + 1) depth fuel rest (List.cons_ne_nil _ _) back (by omega)
      have all := readValue_array starts read
      simp only [List.append_assoc]
      exact all

theorem isRead_object {fields : List (String × Json)} (h : FieldsAreRead fields) :
    IsRead (.object fields) := by
  intro levels depth fuel rest back _ enough
  cases fields with
  | nil =>
      rw [spread, spreadFields, toList_spreadOver_nil]
      exact readValue_braces rest
  | cons field fields =>
      obtain ⟨key, value⟩ := field
      have starts := startsValue_joinedFields (depth + 1) key value fields
      rw [spread, spreadFields, toList_spreadOver_cons, ← spreadFields] at enough ⊢
      simp only [List.length_append, length_lineBreak] at enough
      have read := h (levels - 1) (depth + 1) depth fuel rest (List.cons_ne_nil _ _) back (by omega)
      have all := readValue_object starts read
      simp only [List.append_assoc]
      exact all

theorem itemsAreRead_cons {item : Json} {items : List Json} (first : IsRead item)
    (others : ItemsAreRead items) : ItemsAreRead (item :: items) := by
  intro levels depth outer fuel rest _ back enough
  have long := (startsValue_spread depth back.1).length_pos
  cases items with
  | nil =>
      rw [spreadItems, spreadItems, joined_singleton] at enough ⊢
      obtain ⟨fuel, rfl⟩ : ∃ left, fuel = left + 2 := ⟨fuel - 2, by omega⟩
      refine readItems_of_close ?_ (skipBlanks_lineBreak outer (']' :: rest))
      rw [readValue_of_skipBlanks (skipBlanks_lineBreak depth _)]
      exact first levels depth fuel _ back.1 (endsValue_lineBreak _ _) (by omega)
  | cons next items =>
      rw [spreadItems, spreadItems, joined_cons_cons, ← spreadItems] at enough ⊢
      simp only [List.length_append, List.length_cons, length_lineBreak] at enough
      obtain ⟨fuel, rfl⟩ : ∃ left, fuel = left + 2 := ⟨fuel - 2, by omega⟩
      simp only [List.append_assoc, List.cons_append]
      refine readItems_of_comma ?_
        (others levels depth outer (fuel + 1) rest (List.cons_ne_nil _ _) back.2 (by omega))
      rw [readValue_of_skipBlanks (skipBlanks_lineBreak depth _)]
      exact first levels depth fuel _ back.1 (endsValue_comma _) (by omega)

theorem fieldsAreRead_cons {key : String} {value : Json} {fields : List (String × Json)}
    (first : IsRead value) (others : FieldsAreRead fields) :
    FieldsAreRead ((key, value) :: fields) := by
  intro levels depth outer fuel rest _ back enough
  cases fields with
  | nil =>
      rw [spreadFields, spreadFields, joined_singleton, toList_field] at enough ⊢
      simp only [List.length_append, List.length_cons] at enough
      obtain ⟨fuel, rfl⟩ : ∃ left, fuel = left + 2 := ⟨fuel - 2, by omega⟩
      simp only [List.append_assoc, List.cons_append]
      refine readEntries_of_close (skipBlanks_field depth key _) ?_
        (skipBlanks_lineBreak outer ('\x7d' :: rest))
      rw [readValue_of_skipBlanks (skipBlanks_blank _)]
      exact first levels depth fuel _ back.1 (endsValue_lineBreak _ _) (by omega)
  | cons next fields =>
      obtain ⟨name, next⟩ := next
      rw [spreadFields, spreadFields, joined_cons_cons, toList_field, ← spreadFields] at enough ⊢
      simp only [List.length_append, List.length_cons, length_lineBreak] at enough
      obtain ⟨fuel, rfl⟩ : ∃ left, fuel = left + 2 := ⟨fuel - 2, by omega⟩
      simp only [List.append_assoc, List.cons_append]
      refine readEntries_of_comma (skipBlanks_field depth key _) ?_
        (others levels depth outer (fuel + 1) rest (List.cons_ne_nil _ _) back.2 (by omega))
      rw [readValue_of_skipBlanks (skipBlanks_blank _)]
      exact first levels depth fuel _ back.1 (endsValue_comma _) (by omega)

mutual

theorem isRead : ∀ value : Json, IsRead value
  | .null => by
      intro levels depth fuel rest _ _ _
      rw [spread]
      rfl
  | .bool b => by
      intro levels depth fuel rest _ _ _
      rw [spread]
      cases b <;> rfl
  | .int n => by
      intro levels depth fuel rest fits ends _
      rw [spread]
      exact readValue_number (readNumber_toString fits) ends fuel levels
  | .float x => by
      intro levels depth fuel rest back ends _
      rw [spread]
      exact readValue_number back ends fuel levels
  | .text s => by
      intro levels depth fuel rest _ _ _
      rw [spread]
      exact readValue_quote s rest fuel levels
  | .array items => isRead_array (itemsAreRead items)
  | .object fields => isRead_object (fieldsAreRead fields)

theorem itemsAreRead : ∀ items : List Json, ItemsAreRead items
  | [] => fun _ _ _ _ _ some_item => absurd rfl some_item
  | item :: rest => itemsAreRead_cons (isRead item) (itemsAreRead rest)

theorem fieldsAreRead : ∀ fields : List (String × Json), FieldsAreRead fields
  | [] => fun _ _ _ _ _ some_field => absurd rfl some_field
  | (_, value) :: rest => fieldsAreRead_cons (isRead value) (fieldsAreRead rest)

end

/-- The text of a value in a file is read as the tree of the value, cut off where it is too deep. -/
theorem read?_pretty {value : Json} (h : value.ReadsBack) :
    read? value.pretty = some (treeWithin maxDepth value) := by
  have ends : EndsValue [] := by simp [EndsValue]
  have read := isRead value maxDepth 0 (2 * value.pretty.toList.length + 1) [] h ends
    (Nat.le_add_right _ 2)
  rw [List.append_nil] at read
  rw [read?, readWithin?]
  simp only [pretty] at read ⊢
  rw [read]
  rfl

end Source.JsonText

end Workflow
