/-
# The command line

What the program can be asked to do, and how it is asked. The configuration file
may be named before the action or after it, in which case the latter counts. An
option takes its value from the same word, after an equals sign, or from the next
word, which must not look like an option itself. Naming an option twice is an error.
-/

namespace ChatCommands.Console

/-- What the program is asked to do. -/
inductive Action where
  /-- Answer lines. -/
  | run (author channel : String)
  /-- List the commands, as a table or as data. -/
  | commands (json : Bool)
  /-- Check the configuration and the packages. -/
  | check
deriving DecidableEq, Repr, Inhabited

/-- What a command line asks for. -/
inductive CommandLine where
  /-- To tell the version. -/
  | version
  /-- To explain the usage. -/
  | help
  /-- Nothing that can be made out. -/
  | unusable
  /-- An action, with the configuration file if one is named. -/
  | act (config? : Option String) (action : Action)
deriving DecidableEq, Repr, Inhabited

namespace CommandLine

/-! ## Words -/

/-- Whether a word looks like an option. A single hyphen does not. -/
def looksLikeOption (word : String) : Bool :=
  match word.toList with
  | '-' :: _ :: _ => true
  | _ => false

/-- A word of a command line, taken apart. -/
inductive Word where
  /-- Two hyphens: no options follow. -/
  | endOfOptions
  /-- An option with a long name and the value in the same word. -/
  | long (name : String) (value? : Option String)
  /-- An option of one letter and what follows it in the word. -/
  | short (letter : Char) (value? : Option String)
  /-- Any other word. -/
  | plain (word : String)
deriving DecidableEq, Repr

/-- What stands in a word after an equals sign at its start. -/
def withoutEquals : List Char → List Char
  | '=' :: rest => rest
  | cs => cs

/-- Take a word apart. -/
def Word.ofText (text : String) : Word :=
  match text.toList with
  | ['-', '-'] => endOfOptions
  | '-' :: '-' :: rest =>
    match rest.dropWhile (· ≠ '=') with
    | _ :: value =>
      long (String.ofList (rest.takeWhile (· ≠ '='))) (some (String.ofList value))
    | [] => long (String.ofList rest) none
  | '-' :: letter :: rest =>
    short letter (if rest.isEmpty then none else some (String.ofList (withoutEquals rest)))
  | _ => plain text

/-- The value of an option and the words after it: what stands in the same word, or
the next word. -/
def optionValue? (value? : Option String) (rest : List String) : Option (String × List String) :=
  match value?, rest with
  | some value, rest => some (value, rest)
  | none, next :: rest => if looksLikeOption next then none else some (next, rest)
  | none, [] => none

/-! ## Options -/

/-- An option that takes a value. -/
inductive ValueOption where
  /-- The configuration file. -/
  | config
  /-- The author of the lines. -/
  | author
  /-- The channel of the lines. -/
  | channel
deriving DecidableEq, Repr

/-- What is given on a command line. -/
structure Given where
  /-- The configuration file. -/
  config? : Option String := none
  /-- The author of the lines. -/
  author? : Option String := none
  /-- The channel of the lines. -/
  channel? : Option String := none
  /-- Whether data is asked for. -/
  json : Bool := false
deriving DecidableEq, Repr, Inhabited

/-- Note the value of an option. It must not have one yet, and the name of the
configuration file must not be empty. -/
def Given.set? (given : Given) (option : ValueOption) (value : String) : Option Given :=
  match option with
  | .config =>
    if value.isEmpty || given.config?.isSome then none
    else some { given with config? := some value }
  | .author => if given.author?.isSome then none else some { given with author? := some value }
  | .channel => if given.channel?.isSome then none else some { given with channel? := some value }

/-- The actions by name. -/
inductive ActionName where
  /-- Answer lines. -/
  | run
  /-- List the commands. -/
  | commands
  /-- Check the configuration. -/
  | check
deriving DecidableEq, Repr

/-- The action of a name. -/
def ActionName.ofWord? : String → Option ActionName
  | "run" => some run
  | "commands" => some commands
  | "check" => some check
  | _ => none

/-- Whether an explanation can be asked for: of everything, of an action or of the
word for it itself. -/
def isHelpTopic : List String → Bool
  | [] => true
  | [word] => word == "help" || (ActionName.ofWord? word).isSome
  | _ => false

/-- The option of an action that takes a value and has a long name. -/
def valueOption? (action : ActionName) (name : String) : Option ValueOption :=
  match action, name with
  | _, "config" => some .config
  | .run, "author" => some .author
  | .run, "channel" => some .channel
  | _, _ => none

/-- What is asked for once all words are read. -/
def finish (action : ActionName) (outer? : Option String) (given : Given) : CommandLine :=
  let config? := given.config?.or outer?
  match action with
  | .run => act config? (.run (given.author?.getD "console") (given.channel?.getD "console"))
  | .commands => act config? (.commands given.json)
  | .check => act config? .check

/-! ## Reading a command line

Every word uses up at least itself, so the number of words bounds the reading. -/

/-- Read the words after the name of an action. -/
def readAction (action : ActionName) (outer? : Option String) :
    Nat → Given → List String → CommandLine
  | _, given, [] => finish action outer? given
  | 0, _, _ :: _ => unusable
  | fuel + 1, given, text :: rest =>
    let withOption (option : ValueOption) (value? : Option String) : CommandLine :=
      match optionValue? value? rest with
      | none => unusable
      | some (value, rest) =>
        match given.set? option value with
        | none => unusable
        | some given => readAction action outer? fuel given rest
    match Word.ofText text with
    | .endOfOptions => if rest.isEmpty then finish action outer? given else unusable
    | .short 'c' value? => withOption .config value?
    | .short 'h' _ => help
    | .short _ _ => unusable
    | .long "help" none => help
    | .long "json" none =>
      if action = .commands ∧ !given.json then
        readAction action outer? fuel { given with json := true } rest
      else unusable
    | .long name value? =>
      match valueOption? action name with
      | some option => withOption option value?
      | none => unusable
    | .plain _ => unusable

/-- Read the words up to the name of an action and beyond. -/
def readWords : Nat → Given → List String → CommandLine
  | _, _, [] => unusable
  | 0, _, _ :: _ => unusable
  | fuel + 1, given, text :: rest =>
    let withConfig (value? : Option String) : CommandLine :=
      match optionValue? value? rest with
      | none => unusable
      | some (value, rest) =>
        match given.set? .config value with
        | none => unusable
        | some given => readWords fuel given rest
    match Word.ofText text with
    | .short 'c' value? => withConfig value?
    | .short 'V' _ => version
    | .short 'h' _ => help
    | .long "config" value? => withConfig value?
    | .long "version" none => version
    | .long "help" none => help
    | .plain "help" => if isHelpTopic rest then help else unusable
    | .plain word =>
      match ActionName.ofWord? word with
      | some action => readAction action given.config? rest.length {} rest
      | none => unusable
    | .endOfOptions | .short _ _ | .long _ _ => unusable

/-- Read a command line. -/
def ofWords (words : List String) : CommandLine := readWords words.length {} words

end CommandLine

end ChatCommands.Console
