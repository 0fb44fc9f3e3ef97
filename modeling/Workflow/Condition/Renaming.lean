import Workflow.Condition.Parser
import Workflow.Text.Name

/-!
# Renaming steps in labels

When fragments are joined, steps get new names, and the state paths in labels have to follow. Only
what the condition of a label reads is renamed: a token outside quotes and without braces whose text
is one of the paths of the condition. Labels that are not conditions, and all other text, stay as
they are.
-/

namespace Workflow.Condition

open Text

/-- The names that follow, each after a point. -/
def dottedNames : List Char → List Char
  | '.' :: rest =>
      if leadingName rest = [] then []
      else '.' :: (leadingName rest ++ dottedNames (afterName rest))
  | _ => []
termination_by text => text.length
decreasing_by
  have := length_afterName_le rest
  simp only [List.length_cons]
  omega

/-- The path at the start of the text: two or more names separated by points. -/
def leadingPath? (text : List Char) : Option (List Char) :=
  if leadingName text = [] ∨ dottedNames (afterName text) = [] then none
  else some (leadingName text ++ dottedNames (afterName text))

/-- The closing brace at the start of the text, if there is one. -/
def closingBrace : List Char → List Char
  | '}' :: _ => ['}']
  | _ => []

/-- The path token at the start of the text: a path, with an opening brace before and a closing
brace after it where the text has one. -/
def leadingToken? (text : List Char) : Option (List Char) :=
  match text with
  | '{' :: rest =>
      (leadingPath? rest).map fun path => '{' :: (path ++ closingBrace (rest.drop path.length))
  | _ => (leadingPath? text).map fun path => path ++ closingBrace (text.drop path.length)

theorem dottedNames_isPrefix (text : List Char) : dottedNames text <+: text := by
  fun_induction dottedNames text with
  | case1 => exact List.nil_prefix
  | case2 rest h ih =>
      obtain ⟨tail, ht⟩ := ih
      refine ⟨tail, ?_⟩
      rw [List.cons_append, List.append_assoc, ht, leadingName_append_afterName]
  | case3 => exact List.nil_prefix

theorem leadingPath?_isPrefix {text path : List Char} (h : leadingPath? text = some path) :
    path <+: text := by
  unfold leadingPath? at h
  split at h
  · cases h
  · cases h
    obtain ⟨tail, ht⟩ := dottedNames_isPrefix (afterName text)
    exact ⟨tail, by rw [List.append_assoc, ht, leadingName_append_afterName]⟩

theorem closingBrace_isPrefix (text : List Char) : closingBrace text <+: text := by
  unfold closingBrace
  split
  · exact ⟨_, rfl⟩
  · exact List.nil_prefix

theorem append_closingBrace_isPrefix {text path : List Char} (h : path <+: text) :
    path ++ closingBrace (text.drop path.length) <+: text := by
  obtain ⟨tail, rfl⟩ := h
  rw [List.drop_left]
  exact (List.prefix_append_right_inj path).2 (closingBrace_isPrefix tail)

theorem leadingToken?_isPrefix {text token : List Char} (h : leadingToken? text = some token) :
    token <+: text := by
  unfold leadingToken? at h
  split at h
  · obtain ⟨path, hp, rfl⟩ := Option.map_eq_some_iff.1 h
    exact List.cons_prefix_cons.2 ⟨rfl, append_closingBrace_isPrefix (leadingPath?_isPrefix hp)⟩
  · obtain ⟨path, hp, rfl⟩ := Option.map_eq_some_iff.1 h
    exact append_closingBrace_isPrefix (leadingPath?_isPrefix hp)

theorem leadingToken?_ne_nil {text token : List Char} (h : leadingToken? text = some token) :
    token ≠ [] := by
  have path_ne_nil : ∀ {text path : List Char}, leadingPath? text = some path → path ≠ [] := by
    intro text path hp
    unfold leadingPath? at hp
    split at hp
    · cases hp
    · next hne =>
        cases hp
        exact fun e => hne (.inl (List.append_eq_nil_iff.1 e).1)
  unfold leadingToken? at h
  split at h
  · obtain ⟨path, -, rfl⟩ := Option.map_eq_some_iff.1 h
    exact List.cons_ne_nil _ _
  · obtain ⟨path, hp, rfl⟩ := Option.map_eq_some_iff.1 h
    exact fun e => path_ne_nil hp (List.append_eq_nil_iff.1 e).1

/-- The token with its first name replaced, if it is a path that the condition reads and `rename`
gives that name a new one. -/
def renameToken (paths : List Path) (rename : String → Option String) (token : List Char) :
    List Char :=
  if token.head? = some '{' ∨ String.ofList token ∉ paths.map Path.text then token
  else
    match rename (String.ofList (token.takeWhile (· ≠ '.'))) with
    | some step => step.toList ++ token.dropWhile (· ≠ '.')
    | none => token

/-- Renames every token of a text without quotes. -/
def renameTokens (paths : List Path) (rename : String → Option String) : List Char → List Char
  | [] => []
  | c :: rest =>
      match _h : leadingToken? (c :: rest) with
      | some token =>
          renameToken paths rename token
            ++ renameTokens paths rename ((c :: rest).drop token.length)
      | none => c :: renameTokens paths rename rest
termination_by text => text.length
decreasing_by
  · have := List.length_pos_iff.2 (leadingToken?_ne_nil _h)
    simp only [List.length_drop, List.length_cons]
    omega
  · simp

/-- The label with the steps of its state paths renamed. -/
def renameSteps (rename : String → Option String) (label : String) : String :=
  match parse label with
  | .ok condition =>
      if condition.paths = [] then label
      else String.ofList (mapUnquoted (renameTokens condition.paths rename) label.toList)
  | .error _ => label

end Workflow.Condition
