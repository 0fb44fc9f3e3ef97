import Mathlib.Data.List.TakeWhile
import Workflow.Json.Printer
import Workflow.Source.JsonText

/-!
# Written literals are read again

The reader takes from a text what it takes from the literal alone, as long as the literal is
followed by something that cannot be a part of it. Every string is read as the one that was written,
every integer too if it fits a machine word. For doubles this is not so: the reader rounds more than
once.

Main statements: `readString_quote`, `readNumber_toString` and `readNumber_append`.
-/

namespace Workflow.Source.JsonText

/-! ## Strings -/

/-- The character is written in a form that is read as it, whatever follows. -/
def IsReadAs (c : Char) (written : List Char) : Prop :=
  ∃ unit, (∀ rest, readUnits (written ++ rest) =
      (readUnits rest).map fun (units, after) => (unit :: units, after)) ∧
    ∀ units, joinUnits (unit :: units) = (joinUnits units).map (c :: ·)

theorem isReadAs_plain {c : Char} (quote : c ≠ '"') (slash : c ≠ '\\')
    (visible : ¬ c.toNat < 0x20) : IsReadAs c [c] := by
  refine ⟨.char c, fun rest => ?_, fun units => rfl⟩
  rw [List.singleton_append, readUnits.eq_def]
  split
  · next h => cases h
  · next h => exact absurd (List.cons.inj h).1 quote
  · next h => exact absurd (List.cons.inj h).1 slash
  · next h => exact absurd (List.cons.inj h).1 slash
  · next h =>
      obtain ⟨rfl, rfl⟩ := List.cons.inj h
      rw [if_neg visible]
      cases readUnits rest <;> rfl

theorem isReadAs_letter {c letter : Char} (h : escaped? letter = some c) (other : letter ≠ 'u') :
    IsReadAs c ['\\', letter] := by
  refine ⟨.char c, fun rest => ?_, fun units => rfl⟩
  have opened : ['\\', letter] ++ rest = '\\' :: letter :: rest := rfl
  rw [opened, readUnits.eq_def]
  split
  · next h => cases h
  · next h => cases (List.cons.inj h).1
  · next h =>
      obtain ⟨_, h⟩ := List.cons.inj h
      exact absurd (List.cons.inj h).1 other
  · next h' =>
      obtain ⟨_, h'⟩ := List.cons.inj h'
      obtain ⟨rfl, rfl⟩ := List.cons.inj h'
      rw [h]
      cases readUnits rest <;> rfl
  · next unescaped h' =>
      obtain ⟨rfl, rfl⟩ := List.cons.inj h'
      exact absurd rfl (unescaped letter rest rfl)

theorem isReadAs_digits {n : Nat} (h : n < 0x20) {a b c d : Char} (hex : hex4? a b c d = some n) :
    IsReadAs (Char.ofNat n) ['\\', 'u', a, b, c, d] := by
  refine ⟨.unit n, fun rest => ?_, fun units => ?_⟩
  · have opened : readUnits (['\\', 'u', a, b, c, d] ++ rest) = (do
      let n ← hex4? a b c d
      let (units, rest) ← readUnits rest
      return (Unit16.unit n :: units, rest)) := rfl
    rw [opened, hex]
    cases readUnits rest <;> rfl
  · have low : ¬ (0xD800 ≤ n ∧ n < 0xDC00) := by omega
    have high : ¬ (0xDC00 ≤ n ∧ n < 0xE000) := by omega
    have half : ¬ (0xD800 ≤ n ∧ n < 0xE000) := by omega
    rcases units with _ | ⟨_ | _, _⟩
    · simp only [joinUnits, if_neg half]
    · simp only [joinUnits, if_neg half]
    · simp only [joinUnits, if_neg low, if_neg high]

/-- A control character is written by its place with four hexadecimal digits. -/
theorem hex4?_hexDigits : ∀ n < 0x20,
    List.replicate (4 - (Text.hexDigits n).length) '0' ++ Text.hexDigits n =
        ['0', '0', (n / 16).digitChar, (n % 16).digitChar] ∧
      hex4? '0' '0' (n / 16).digitChar (n % 16).digitChar = some n := by
  decide +kernel

theorem isReadAs_escapedChar (c : Char) : IsReadAs c (Json.escapedChar c) := by
  unfold Json.escapedChar
  split
  · exact isReadAs_letter rfl (by decide)
  · exact isReadAs_letter rfl (by decide)
  · exact isReadAs_letter rfl (by decide)
  · exact isReadAs_letter rfl (by decide)
  · exact isReadAs_letter rfl (by decide)
  · next quote slash _ _ _ =>
      split
      · next h =>
          obtain rfl : c = Char.ofNat 8 := by rw [← h, Char.ofNat_toNat]
          exact isReadAs_letter rfl (by decide)
      · split
        · next h =>
            obtain rfl : c = Char.ofNat 12 := by rw [← h, Char.ofNat_toNat]
            exact isReadAs_letter rfl (by decide)
        · split
          · next h =>
              obtain ⟨padded, hex⟩ := hex4?_hexDigits c.toNat h
              have read := isReadAs_digits h hex
              rw [Char.ofNat_toNat] at read
              rw [List.append_assoc, padded]
              exact read
          · next visible => exact isReadAs_plain quote slash visible

/-- A string literal is read as its characters. -/
theorem readString_quote (chars rest : List Char) :
    readString (chars.flatMap Json.escapedChar ++ '"' :: rest) = some (some chars, rest) := by
  have read : ∃ units,
      readUnits (chars.flatMap Json.escapedChar ++ '"' :: rest) = some (units, rest) ∧
      joinUnits units = some chars := by
    induction chars with
    | nil => exact ⟨[], rfl, rfl⟩
    | cons c chars ih =>
        obtain ⟨units, hunits, hjoin⟩ := ih
        obtain ⟨unit, reads, joins⟩ := isReadAs_escapedChar c
        refine ⟨unit :: units, ?_, ?_⟩
        · rw [List.flatMap_cons, List.append_assoc, reads, hunits]
          rfl
        · rw [joins, hjoin]
          rfl
  obtain ⟨units, hunits, hjoin⟩ := read
  simp only [readString, hunits, Option.map_some, hjoin]

/-! ## Where a number ends -/

/-- What follows a value in a text: nothing, a comma, or the end of the line. -/
def EndsValue (rest : List Char) : Prop := ∀ c ∈ rest.head?, c = ',' ∨ c = '\n'

section

variable {rest : List Char} (ends : EndsValue rest)

include ends

theorem takeWhile_digits_append (text : List Char) :
    (text ++ rest).takeWhile Char.isDigit = text.takeWhile Char.isDigit ∧
      (text ++ rest).dropWhile Char.isDigit = text.dropWhile Char.isDigit ++ rest := by
  induction text with
  | nil =>
      cases rest with
      | nil => exact ⟨rfl, rfl⟩
      | cons c rest => rcases ends c rfl with rfl | rfl <;> exact ⟨rfl, rfl⟩
  | cons c text ih =>
      rw [List.cons_append, List.takeWhile_cons, List.takeWhile_cons, List.dropWhile_cons,
        List.dropWhile_cons, ih.1, ih.2]
      cases c.isDigit <;> exact ⟨rfl, rfl⟩

theorem readExponentPart_ends : readExponentPart rest = some (none, rest) := by
  cases rest with
  | nil => rfl
  | cons c rest => rcases ends c rfl with rfl | rfl <;> rfl

theorem splitSign_append (text : List Char) :
    splitSign (text ++ rest) = ((splitSign text).1, (splitSign text).2 ++ rest) := by
  cases text with
  | nil =>
      cases rest with
      | nil => rfl
      | cons c rest => rcases ends c rfl with rfl | rfl <;> rfl
  | cons c text =>
      by_cases minus : c = '-'
      · subst minus
        rfl
      · by_cases plus : c = '+'
        · subst plus
          rfl
        · simp [splitSign, minus, plus]

/-- An exponent up to the end of a text is the same one in front of what follows a value. -/
theorem readExponentPart_append {text : List Char} {exponent : Option Int}
    (h : readExponentPart text = some (exponent, [])) :
    readExponentPart (text ++ rest) = some (exponent, rest) := by
  cases text with
  | nil =>
      cases h
      exact readExponentPart_ends ends
  | cons c text =>
      rw [readExponentPart] at h
      rw [List.cons_append, readExponentPart, splitSign_append ends]
      split at h
      · next letter =>
          obtain ⟨same, left⟩ := takeWhile_digits_append ends (splitSign text).2
          rw [if_pos letter]
          dsimp only at h ⊢
          rw [same, left]
          split at h
          · cases h
          · next digits =>
              obtain ⟨rfl, nothing⟩ := Prod.mk.inj (Option.some.inj h)
              rw [if_neg digits, nothing, List.nil_append]
      · cases h

/-- The number with these digits before the point that is read from what follows them. -/
def readAfterWhole (negative : Bool) (whole rest : List Char) : Option (Source × List Char) :=
  match rest with
  | '.' :: tail =>
      let fraction := tail.takeWhile Char.isDigit
      if fraction = [] then none
      else
        (readExponentPart (tail.dropWhile Char.isDigit)).map fun (exponent, rest) =>
          (ofNumber ((readDouble negative whole fraction (exponent.getD 0)).map .float), rest)
  | _ =>
      (readExponentPart rest).map fun (exponent, rest) =>
        match exponent with
        | some exponent => (ofNumber ((readDouble negative whole [] exponent).map .float), rest)
        | none => (ofNumber (readInteger negative whole), rest)

/-- The number that is read from a text after its sign. -/
def readMagnitude (negative : Bool) (text : List Char) : Option (Source × List Char) :=
  let whole := text.takeWhile Char.isDigit
  if whole = [] ∨ (whole.head? = some '0' ∧ 1 < whole.length) then none
  else readAfterWhole negative whole (text.dropWhile Char.isDigit)

omit ends in
theorem readNumber_minus (text : List Char) :
    readNumber ('-' :: text) = readMagnitude true text :=
  rfl

omit ends in
theorem readNumber_of_ne_minus {c : Char} (h : c ≠ '-') (text : List Char) :
    readNumber (c :: text) = readMagnitude false (c :: text) := by
  unfold readNumber
  split
  next negative tail hsign =>
    split at hsign
    · next h' => exact absurd (List.cons.inj h').1 h
    · cases hsign
      rfl

omit ends in
theorem readAfterWhole_of_no_point {negative : Bool} {whole after : List Char}
    (h : ∀ tail, after ≠ '.' :: tail) :
    readAfterWhole negative whole after =
      (readExponentPart after).map fun (exponent, rest) =>
        match exponent with
        | some exponent => (ofNumber ((readDouble negative whole [] exponent).map .float), rest)
        | none => (ofNumber (readInteger negative whole), rest) := by
  unfold readAfterWhole
  split
  · next tail => exact absurd rfl (h tail)
  · rfl

theorem readAfterWhole_append {negative : Bool} {whole after : List Char} {source : Source}
    (h : readAfterWhole negative whole after = some (source, [])) :
    readAfterWhole negative whole (after ++ rest) = some (source, rest) := by
  by_cases point : ∃ tail, after = '.' :: tail
  · obtain ⟨tail, rfl⟩ := point
    obtain ⟨same, left⟩ := takeWhile_digits_append ends tail
    rw [List.cons_append]
    simp only [readAfterWhole, same, left] at h ⊢
    split at h
    · cases h
    · next fraction =>
        obtain ⟨⟨exponent, _⟩, hread, heq⟩ := Option.map_eq_some_iff.1 h
        obtain ⟨rfl, rfl⟩ := Prod.mk.inj heq
        rw [if_neg fraction, readExponentPart_append ends hread]
        rfl
  · have no_point : ∀ tail, after ++ rest ≠ '.' :: tail := by
      intro tail dotted
      cases after with
      | nil =>
          have here : rest.head? = some '.' := by
            rw [← List.nil_append rest, dotted]
            rfl
          rcases ends '.' here with dot | dot <;> cases dot
      | cons c after =>
          obtain ⟨rfl, _⟩ := List.cons.inj dotted
          exact point ⟨after, rfl⟩
    rw [readAfterWhole_of_no_point fun tail h => point ⟨tail, h⟩] at h
    rw [readAfterWhole_of_no_point no_point]
    obtain ⟨⟨exponent, after'⟩, hread, heq⟩ := Option.map_eq_some_iff.1 h
    cases exponent with
    | none =>
        obtain ⟨rfl, rfl⟩ := Prod.mk.inj heq
        rw [readExponentPart_append ends hread]
        rfl
    | some exponent =>
        obtain ⟨rfl, rfl⟩ := Prod.mk.inj heq
        rw [readExponentPart_append ends hread]
        rfl

theorem readMagnitude_append {negative : Bool} {text : List Char} {source : Source}
    (h : readMagnitude negative text = some (source, [])) :
    readMagnitude negative (text ++ rest) = some (source, rest) := by
  obtain ⟨same, left⟩ := takeWhile_digits_append ends text
  simp only [readMagnitude, same, left] at h ⊢
  split at h
  · cases h
  · next whole =>
      rw [if_neg whole]
      exact readAfterWhole_append ends h

/-- A number up to the end of a text is the same one in front of what follows a value. -/
theorem readNumber_append {text : List Char} {source : Source}
    (h : readNumber text = some (source, [])) :
    readNumber (text ++ rest) = some (source, rest) := by
  cases text with
  | nil => cases h
  | cons c text =>
      by_cases minus : c = '-'
      · subst minus
        exact readMagnitude_append ends h
      · rw [readNumber_of_ne_minus minus] at h
        rw [List.cons_append, readNumber_of_ne_minus minus]
        exact readMagnitude_append ends h

end

/-! ## Integers -/

/-- A text that is read as a number begins with a sign or a digit. -/
theorem exists_cons_of_readNumber {text : List Char} {result : Source × List Char}
    (h : readNumber text = some result) :
    ∃ c rest, text = c :: rest ∧ (c = '-' ∨ c.isDigit = true) := by
  cases text with
  | nil => cases h
  | cons c rest =>
      refine ⟨c, rest, rfl, ?_⟩
      by_cases minus : c = '-'
      · exact .inl minus
      · by_cases digit : c.isDigit = true
        · exact .inr digit
        · rw [readNumber_of_ne_minus minus, readMagnitude, List.takeWhile_cons_of_neg digit] at h
          cases h

/-- No digits of a number are in front of its first one. -/
theorem head?_toDigits_ne {n : Nat} (h : 0 < n) : (Nat.toDigits 10 n).head? ≠ some '0' := by
  induction n using Nat.strong_induction_on with
  | _ n ih =>
      by_cases small : n < 10
      · have single : ∀ n < 10, 0 < n → [Nat.digitChar n].head? ≠ some '0' := by decide
        rw [Nat.toDigits_of_lt_base small]
        exact single n small h
      · rw [Nat.toDigits_of_base_le (by decide) (by omega)]
        obtain ⟨c, rest, hlead⟩ :=
          List.exists_cons_of_ne_nil (Nat.toDigits_ne_nil (n := n / 10) (b := 10))
        have later := ih (n / 10) (by omega) (by omega)
        rw [hlead] at later ⊢
        exact later

/-- Digits of a number are read as the integer that they make, or the double if they make none. -/
theorem readMagnitude_toDigits (negative : Bool) (n : Nat) :
    readMagnitude negative (Nat.toDigits 10 n) =
      some (ofNumber (readInteger negative (Nat.toDigits 10 n)), []) := by
  have digits : ∀ c ∈ Nat.toDigits 10 n, c.isDigit = true := fun c hc =>
    Nat.isDigit_of_mem_toDigits (by decide) (by decide) hc
  have whole : (Nat.toDigits 10 n).takeWhile Char.isDigit = Nat.toDigits 10 n :=
    List.takeWhile_eq_self_iff.2 digits
  have rest : (Nat.toDigits 10 n).dropWhile Char.isDigit = [] := List.dropWhile_eq_nil_iff.2 digits
  have lead : ¬ ((Nat.toDigits 10 n).head? = some '0' ∧ 1 < (Nat.toDigits 10 n).length) := by
    rintro ⟨zero, long⟩
    rcases Nat.eq_zero_or_pos n with rfl | pos
    · exact absurd long (by decide)
    · exact head?_toDigits_ne pos zero
  rw [readMagnitude, whole, rest]
  simp [Nat.toDigits_ne_nil, lead, readAfterWhole, readExponentPart]

/-- The integer fits a machine word, signed or unsigned. -/
def FitsWord (n : Int) : Prop := -(Nat.pow 2 63 : Nat) ≤ n ∧ n < (Nat.pow 2 64 : Nat)

instance (n : Int) : Decidable (FitsWord n) :=
  inferInstanceAs (Decidable (-(Nat.pow 2 63 : Nat) ≤ n ∧ n < (Nat.pow 2 64 : Nat)))

theorem readNumber_toString {n : Int} (fits : FitsWord n) :
    readNumber (toString n).toList = some (.scalar (.ofValue (.int n)), []) := by
  obtain ⟨above, below⟩ := fits
  have value (n : Nat) : digitsValue (Nat.toDigits 10 n) = n := Nat.ofDigitChars_ten_toDigits
  cases n with
  | ofNat n =>
      have text : (toString (Int.ofNat n)).toList = Nat.toDigits 10 n := Nat.toList_repr
      obtain ⟨c, rest, hdigits⟩ :=
        List.exists_cons_of_ne_nil (Nat.toDigits_ne_nil (n := n) (b := 10))
      have unsigned : c ≠ '-' := by
        rintro rfl
        have digit : '-'.isDigit = true := Nat.isDigit_of_mem_toDigits (n := n) (b := 10)
          (by decide) (by decide) (by rw [hdigits]; exact List.mem_cons_self ..)
        cases digit
      have within : n < Nat.pow 2 64 := Int.ofNat_lt.1 below
      rw [text, hdigits, readNumber_of_ne_minus unsigned, ← hdigits, readMagnitude_toDigits]
      simp only [readInteger, value, if_pos within]
      rfl
  | negSucc n =>
      have text : (toString (Int.negSucc n)).toList = '-' :: Nat.toDigits 10 (n + 1) := by
        have spelled : toString (Int.negSucc n) = "-" ++ (n + 1).repr := rfl
        rw [spelled, String.toList_append, Nat.toList_repr]
        rfl
      have within : 0 < n + 1 ∧ n + 1 ≤ Nat.pow 2 63 :=
        ⟨Nat.succ_pos n, Int.ofNat_le.1 (Int.neg_le_neg_iff.1 above)⟩
      rw [text, readNumber_minus, readMagnitude_toDigits]
      simp only [readInteger, value, if_pos within]
      rfl

end Workflow.Source.JsonText
