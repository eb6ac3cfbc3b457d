/-
# Checking a configuration

What is wrong with a configuration, and what merely looks wrong. Problems keep a
host from starting; warnings do not. Both name the place in the configuration they
are about.
-/

import ChatCommands.Config
import ChatCommands.FileTree
import ChatCommands.Text.CharClass

namespace ChatCommands

open Text (isAlphanumeric isBlank isSingleWord)

/-- A field of a shortcut. -/
inductive ShortcutField where
  /-- The second name. -/
  | name
  /-- The command it stands for. -/
  | command
  /-- The keyword that takes the rest of the line. -/
  | parameter
deriving DecidableEq, Repr

namespace ShortcutField

/-- The fields of a shortcut, in order. -/
def all : List ShortcutField := [name, command, parameter]

/-- The key of a field. -/
def key : ShortcutField → String
  | name => "name"
  | command => "command"
  | parameter => "parameter"

/-- The value of a field. -/
def value (shortcut : Shortcut) : ShortcutField → String
  | name => shortcut.name
  | command => shortcut.command
  | parameter => shortcut.parameter

end ShortcutField

/-- What is wrong with a configuration. -/
inductive ConfigProblem where
  | emptyCommandPrefix
  /-- The command prefix holds a blank. -/
  | blankInCommandPrefix
  /-- The parameter prefix is not a single character. -/
  | parameterPrefixLength
  /-- The parameter prefix is a letter, a numeral, an underscore or a blank. -/
  | parameterPrefixClass (c : Char)
  /-- The window is not a positive number of seconds long. -/
  | rateNotPositive
  /-- A window admits no call. -/
  | countZero
  | notAWord (index : Nat) (field : ShortcutField) (value : String)
deriving DecidableEq, Repr

/-- What looks wrong with a configuration. -/
inductive ConfigWarning where
  /-- Commands and parameters begin with the same mark. -/
  | equalPrefixes
  /-- The directory with the package manifests does not exist. -/
  | noComponents (directory : String)
  /-- The log level is not known. -/
  | unknownLogLevel (level : String)
  /-- An earlier shortcut has the same name. -/
  | repeatedShortcut (index : Nat) (name : String)
deriving DecidableEq, Repr

/-- The place of a shortcut. -/
def shortcutPath (index : Nat) : String := s!"shortcuts[{index}]"

namespace ConfigProblem

/-- The place a problem is about. -/
def path : ConfigProblem → String
  | emptyCommandPrefix | blankInCommandPrefix => "ux.prefix"
  | parameterPrefixLength | parameterPrefixClass _ => "ux.parameterPrefix"
  | rateNotPositive => "limiting.rate"
  | countZero => "limiting.count"
  | notAWord index field _ => shortcutPath index ++ "." ++ field.key

/-- The wording of a problem. -/
def message : ConfigProblem → String
  | emptyCommandPrefix => "Command prefix cannot be empty"
  | blankInCommandPrefix => "Command prefix cannot contain whitespace"
  | parameterPrefixLength => "Parameter prefix must be exactly one character"
  | parameterPrefixClass c =>
    String.join
      ["Parameter prefix '", String.singleton c, "' must not be a word or whitespace character"]
  | rateNotPositive => "rate must be a positive number of seconds"
  | countZero => "count must be >= 1"
  | notAWord _ _ value => String.join ["'", value, "' is not a single word"]

end ConfigProblem

/-- The log levels that are known. -/
def logLevels : List String := ["trace", "debug", "info", "warn", "error", "off"]

namespace ConfigWarning

/-- The place a warning is about. -/
def path : ConfigWarning → String
  | equalPrefixes => "ux.parameterPrefix"
  | noComponents _ => "ux.components"
  | unknownLogLevel _ => "logging.level"
  | repeatedShortcut index _ => shortcutPath index ++ "." ++ ShortcutField.name.key

/-- The wording of a warning. -/
def message : ConfigWarning → String
  | equalPrefixes => "Parameter prefix equals the command prefix; commands may be hard to read"
  | noComponents directory =>
    String.join ["Components directory ", directory, " does not exist; no plugins will load"]
  | unknownLogLevel level =>
    String.join
      ["Unknown log level '", level, "'; expected one of ", String.intercalate ", " logLevels]
  | repeatedShortcut _ name =>
    String.join ["Duplicate shortcut '", name, "'; the first one wins"]

end ConfigWarning

/-- A finding about a place of a configuration as a line of text. -/
def findingText (path message : String) : String :=
  String.join ["Config validation error at '", path, "': ", message]

/-- A problem as a line of text. -/
def ConfigProblem.text (problem : ConfigProblem) : String :=
  findingText problem.path problem.message

/-- A warning as a line of text. -/
def ConfigWarning.text (warning : ConfigWarning) : String :=
  findingText warning.path warning.message

/-! ## Problems -/

/-- What is wrong with a command prefix. -/
def commandPrefixProblems (mark : String) : List ConfigProblem :=
  if mark.isEmpty then [.emptyCommandPrefix]
  else if mark.toList.any isBlank then [.blankInCommandPrefix]
  else []

/-- What is wrong with a parameter prefix. -/
def parameterPrefixProblems (mark : String) : List ConfigProblem :=
  match mark.toList with
  | [c] => if isAlphanumeric c || c == '_' || isBlank c then [.parameterPrefixClass c] else []
  | _ => [.parameterPrefixLength]

/-- Whether a number of seconds is positive and finite. -/
def isPositiveRate (rate : Number.Binary64) : Bool :=
  rate.isFinite && !rate.isNegative && !rate.isZero

/-- What is wrong with a rate limit. -/
def limitingProblems (limiting : LimitingSection) : List ConfigProblem :=
  (if isPositiveRate limiting.rate then [] else [.rateNotPositive]) ++
    (if limiting.count = 0 then [.countZero] else [])

/-- What is wrong with a shortcut. -/
def shortcutProblems (index : Nat) (shortcut : Shortcut) : List ConfigProblem :=
  ShortcutField.all.filterMap fun field =>
    let value := field.value shortcut
    if isSingleWord value then none else some (.notAWord index field value)

namespace Config

/-- What is wrong with a configuration. -/
def problems (config : Config) : List ConfigProblem :=
  ((config.ux?.bind UxSection.commandPrefix?).map commandPrefixProblems).getD [] ++
    ((config.ux?.bind UxSection.parameterPrefix?).map parameterPrefixProblems).getD [] ++
    (config.limiting?.map limitingProblems).getD [] ++
    config.shortcuts.zipIdx.flatMap fun (shortcut, index) => shortcutProblems index shortcut

/-- Whether a host can start with the configuration. -/
def isValid (config : Config) : Bool := config.problems.isEmpty

/-! ## Warnings -/

/-- Whether commands and parameters are given the same mark. -/
def equalPrefixWarnings (ux : UxSection) : List ConfigWarning :=
  match ux.parameterPrefix? with
  | none => []
  | some mark => if ux.commandPrefix? = some mark then [.equalPrefixes] else []

/-- Whether the directory with the package manifests is missing. -/
def componentsWarnings (files : FileTree) (ux : UxSection) : List ConfigWarning :=
  match ux.components? with
  | none => []
  | some directory => if files.isDirectory directory then [] else [.noComponents directory]

/-- Whether a log level is unknown. One with an equals sign is a rule of its own and is
not looked at. -/
def logLevelWarnings (level : String) : List ConfigWarning :=
  if level.toList.contains '=' || logLevels.contains level.toLower then []
  else [.unknownLogLevel level]

/-- The shortcuts that come after one of the same name; `seen` are the names so far. -/
def repeatedShortcuts : List String → Nat → List Shortcut → List ConfigWarning
  | _, _, [] => []
  | seen, index, shortcut :: rest =>
    let later := repeatedShortcuts (shortcut.name :: seen) (index + 1) rest
    if seen.contains shortcut.name then .repeatedShortcut index shortcut.name :: later else later

/-- What looks wrong with a configuration, given the files there are. -/
def warnings (files : FileTree) (config : Config) : List ConfigWarning :=
  (config.ux?.map equalPrefixWarnings).getD [] ++
    (config.ux?.map (componentsWarnings files)).getD [] ++
    ((config.logging?.bind LoggingSection.level?).map logLevelWarnings).getD [] ++
    repeatedShortcuts [] 0 config.shortcuts

end Config

end ChatCommands
