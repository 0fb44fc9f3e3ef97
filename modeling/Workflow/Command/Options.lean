/-!
# Options of commands

A command takes options and at most one word besides. An option has a long name, after two dashes,
and it may have a letter, after one; some take a value. What a command takes is described by data,
and both reading the command line and the text of help follow the description.
-/

namespace Workflow.Command

/-- An option of a command. -/
structure OptionForm where
  name : String
  letter : Option Char
  /-- What the value stands for, if the option takes one. -/
  value : Option String
  about : String
deriving DecidableEq, Repr

/-- The word that a command takes besides options. -/
structure WordForm where
  name : String
  /-- The word that is taken where none is given; without it a word has to be given. -/
  default : Option String
  /-- The words that are allowed, if not all are. -/
  choices : List String
  about : String
deriving DecidableEq, Repr

/-- What a command is called, what it does and what it takes. -/
structure CommandForm where
  name : String
  about : String
  word : Option WordForm
  options : List OptionForm
deriving DecidableEq, Repr

/-! ## One argument -/

/-- What an argument of the command line is. -/
inductive Argument where
  | word
  /-- Two dashes alone: only words follow. -/
  | separator
  | help
  | version
  /-- An option that takes no value. -/
  | switch (name : String)
  /-- An option that takes a value, which the next argument holds if this one does not. -/
  | setting (name : String) (value : Option String)
  | unknown
deriving DecidableEq, Repr

/-- Whether an argument stands for an option rather than for a word. -/
def looksLikeOption (argument : String) : Bool :=
  match argument.toList with
  | '-' :: _ :: _ => true
  | _ => false

/-- The option as an argument, with the value that the argument holds. -/
def OptionForm.argument (option : OptionForm) (value : Option String) : Argument :=
  match option.value, value with
  | some _, value => .setting option.name value
  | none, none => .switch option.name
  | none, some _ => .unknown

/-- An argument after two dashes: a name, and perhaps a value after the sign `=`. -/
def readLong (options : List OptionForm) (hasVersion : Bool) (text : List Char) : Argument :=
  let name := String.ofList (text.takeWhile (· ≠ '='))
  let value :=
    match text.dropWhile (· ≠ '=') with
    | [] => none
    | _ :: value => some (String.ofList value)
  match options.find? (·.name = name) with
  | some option => option.argument value
  | none =>
      if name = "help" && value.isNone then .help
      else if hasVersion && name = "version" && value.isNone then .version
      else .unknown

/-- An argument after one dash: a letter, and perhaps a value, which may follow the sign `=`. -/
def readShort (options : List OptionForm) (hasVersion : Bool) (letter : Char) (text : List Char) :
    Argument :=
  match options.find? (·.letter = some letter) with
  | some option =>
      option.argument
        (match text with
        | [] => none
        | '=' :: value => some (String.ofList value)
        | value => some (String.ofList value))
  | none =>
      if letter = 'h' then .help else if hasVersion && letter = 'V' then .version else .unknown

/-- What an argument is for a command with these options. -/
def readArgument (options : List OptionForm) (hasVersion : Bool) (argument : String) : Argument :=
  match argument.toList with
  | ['-', '-'] => .separator
  | '-' :: '-' :: text => readLong options hasVersion text
  | '-' :: letter :: text => readShort options hasVersion letter text
  | _ => .word

/-! ## All arguments -/

/-- What has been given on a command line: words, and options, each with its value. -/
structure Given where
  words : List String
  options : List (String × String)
deriving DecidableEq, Repr

namespace Given

/-- The line on which nothing is given. -/
def nothing : Given := ⟨[], []⟩

/-- Whether an option is given. -/
def has (given : Given) (name : String) : Bool := (given.options.lookup name).isSome

/-- The value of an option. -/
def value? (given : Given) (name : String) : Option String := given.options.lookup name

/-- Adds an option with its value. -/
def setOption (given : Given) (name value : String) : Given :=
  { given with options := (name, value) :: given.options }

end Given

namespace CommandForm

/-- Whether a command takes a word where these have been given. -/
def takesWord (form : CommandForm) (given : Given) : Bool := form.word.isSome && given.words.isEmpty

/-- Whether a word is one that the command takes. -/
def allows (form : CommandForm) (word : String) : Bool :=
  form.word.any fun w => if w.choices.isEmpty then !word.isEmpty else word ∈ w.choices

/-- Whether an option takes a value. -/
def isSetting (form : CommandForm) (name : String) : Bool :=
  form.options.any fun option => option.name = name && option.value.isSome

/-- Whether the values are ones that the command takes: no value is empty. -/
def isSound (form : CommandForm) (given : Given) : Bool :=
  given.words.all form.allows
    && given.options.all fun (name, value) => !(form.isSetting name && value.isEmpty)

end CommandForm

/-- What a command line asks for. -/
inductive Reading where
  | help
  | version
  /-- The line is not understood. -/
  | mistake
  /-- What is given, and the arguments from the first word on, for a command that takes none. -/
  | given (given : Given) (rest : List String)
deriving DecidableEq, Repr

/-- The reading at an option, before which all values have to be sound. -/
def CommandForm.atOption (form : CommandForm) (given : Given) (reading : Reading) : Reading :=
  if form.isSound given then reading else .mistake

/-- Reads the words after two dashes. -/
def readWords (form : CommandForm) (given : Given) : List String → Reading
  | [] => if form.isSound given then .given given [] else .mistake
  | word :: rest =>
      if form.takesWord given then readWords form { given with words := [word] } rest else .mistake

/-- Reads arguments for a command. Options may stand before and after the word, each at
most once. -/
def readArguments (form : CommandForm) (hasVersion : Bool) (given : Given) : List String → Reading
  | [] => if form.isSound given then .given given [] else .mistake
  | argument :: rest =>
      match readArgument form.options hasVersion argument with
      | .word =>
          if form.word.isNone then .given given (argument :: rest)
          else if form.takesWord given then
            readArguments form hasVersion { given with words := [argument] } rest
          else .mistake
      | .separator => readWords form given rest
      | .help => form.atOption given .help
      | .version => form.atOption given .version
      | .unknown => .mistake
      | .switch name =>
          form.atOption given
            (if given.has name then .mistake
              else readArguments form hasVersion (given.setOption name "") rest)
      | .setting name (some value) =>
          form.atOption given
            (if given.has name then .mistake
              else readArguments form hasVersion (given.setOption name value) rest)
      | .setting name none =>
          match rest with
          | [] => .mistake
          | value :: rest =>
              form.atOption given
                (if given.has name || looksLikeOption value then .mistake
                  else readArguments form hasVersion (given.setOption name value) rest)

/-! ## Help -/

/-- A text, filled up with blanks to a width. -/
def padded (width : Nat) (text : String) : String :=
  text ++ String.ofList (List.replicate (width - text.length) ' ')

/-- Lines of names and what they mean, in two columns. -/
def columns (entries : List (String × String)) : String :=
  let width := (entries.map (·.1.length)).foldl max 0
  String.join (entries.map fun (name, about) => "  " ++ padded width name ++ "  " ++ about ++ "\n")

/-- An option with its letter, name and value. -/
def OptionForm.text (option : OptionForm) : String :=
  (match option.letter with
    | some letter => String.ofList ['-', letter, ',', ' ']
    | none => "    ")
    ++ "--" ++ option.name ++ (option.value.map fun value => " <" ++ value ++ ">").getD ""

/-- The option that asks for help. -/
def helpOption : OptionForm := ⟨"help", some 'h', none, "Print help"⟩

/-- The option that asks for the version. -/
def versionOption : OptionForm := ⟨"version", some 'V', none, "Print version"⟩

/-- The lines on options. -/
def optionLines (options : List OptionForm) : String :=
  "Options:\n" ++ columns (options.map fun option => (option.text, option.about))

/-- A word as usage shows it. -/
def WordForm.text (word : WordForm) : String :=
  if word.default.isSome then "[" ++ word.name ++ "]" else "<" ++ word.name ++ ">"

/-- What help says about a word. -/
def WordForm.notes (word : WordForm) : String :=
  " ".intercalate
    ((if word.about.isEmpty then [] else [word.about])
      ++ (word.default.map fun default => "[default: " ++ default ++ "]").toList
      ++ (if word.choices.isEmpty then []
          else ["[possible values: " ++ ", ".intercalate word.choices ++ "]"]))

/-- The help on a command of a program. -/
def CommandForm.help (program : String) (form : CommandForm) : String :=
  let word := form.word.toList
  form.about ++ "\n\nUsage: " ++ program ++ " " ++ form.name ++ " [OPTIONS]"
    ++ String.join (word.map fun word => " " ++ word.text) ++ "\n\n"
    ++ String.join (word.map fun word =>
        "Arguments:\n" ++ columns [(word.text, word.notes)] ++ "\n")
    ++ optionLines (form.options ++ [helpOption])

end Workflow.Command
