/-
# The command language

A message is a command if it begins with the command prefix and a word, the name
of the command. After the name, a word with the parameter prefix in front of it
opens a keyword argument if it stands at the very start or after a blank; its value
runs to the next such word or to the end. A value is trimmed and passed through the
filters of the grammar, and a keyword whose value comes out empty, or which is not
followed by a blank, does not count. A keyword that is repeated keeps its place and
takes the last value.

A shortcut is a second name for a command. Everything after it is the value of the
one keyword the shortcut names.
-/

import ChatCommands.DispatchError
import ChatCommands.Grammar.Mention
import ChatCommands.OrderedMap
import ChatCommands.Settings
import ChatCommands.Text.Replace
import ChatCommands.Text.Trim

namespace ChatCommands

open Text (Found Finder Piece isBlank isWord)

/-- A call as it was written: the command and the keyword arguments in the order in
which the keywords first occur. -/
structure Invocation where
  /-- The name of the command. -/
  command : String
  /-- The keyword arguments. -/
  keywords : OrderedMap String String

/-- A second name for a command, followed by the value of a single keyword. -/
structure Shortcut where
  /-- The second name. -/
  name : String
  /-- The command it stands for. -/
  command : String
  /-- The keyword that takes the rest of the line. -/
  parameter : String
deriving DecidableEq, Repr, Inhabited

/-- What is done to every value, one filter after the other. -/
abbrev ValueFilter := String → String

/-- The command language of a dispatcher. -/
structure Grammar where
  /-- The mark a command begins with. -/
  commandPrefix : String := defaultCommandPrefix
  /-- The mark a parameter begins with. -/
  parameterPrefix : String := defaultParameterPrefix
  /-- What is done to every value. -/
  filters : List ValueFilter := [Grammar.reduceMentions]
  /-- The shortcuts; of several with one name the first counts. -/
  shortcuts : List Shortcut := []

namespace Grammar

/-! ## Values -/

/-- A value after all filters. -/
def filtered (grammar : Grammar) (value : String) : String :=
  grammar.filters.foldl (fun value filter => filter value) value

/-- What a stretch of text amounts to as a value: trimmed and filtered. -/
def valueOf (grammar : Grammar) (raw : List Char) : String :=
  grammar.filtered (String.ofList (Text.trim raw))

/-! ## Keywords -/

/-- A parameter prefix and a word at the start of a text: the word and the length of
both. -/
def markedWord? (parameterPrefix cs : List Char) : Option (Found (List Char)) :=
  match Text.after? parameterPrefix cs with
  | none => none
  | some rest =>
    let name := rest.takeWhile isWord
    if name.isEmpty then none else some ⟨name, parameterPrefix.length + name.length⟩

/-- A marked word after a blank, which belongs to it. -/
def blankMarkedWord? (parameterPrefix : List Char) : List Char → Option (Found (List Char))
  | [] => none
  | c :: rest =>
    if isBlank c then
      (markedWord? parameterPrefix rest).map fun found => ⟨found.value, found.length + 1⟩
    else none

/-- The finder of keywords: a marked word at the very start of the text, or one after
a blank. -/
def keywordFinder (parameterPrefix : List Char) : Finder (List Char) := fun before cs =>
  match before, markedWord? parameterPrefix cs with
  | none, some found => some found
  | _, _ => blankMarkedWord? parameterPrefix cs

/-- The characters before the first occurrence. -/
def leadingChars : List (Piece (List Char)) → List Char
  | .char c :: rest => c :: leadingChars rest
  | _ => []

/-- The keywords among the pieces of a text, each with the stretch of text up to the
next one. -/
def keywordStretches : List (Piece (List Char)) → List (List Char × List Char)
  | [] => []
  | .char _ :: rest => keywordStretches rest
  | .found name :: rest => (name, leadingChars rest) :: keywordStretches rest

/-- Whether a stretch of text begins with a blank. -/
def startsWithBlank : List Char → Bool
  | [] => false
  | c :: _ => isBlank c

/-- The keyword argument of a keyword and the stretch after it, if it counts. -/
def argument? (grammar : Grammar) (name stretch : List Char) : Option (String × String) :=
  let value := grammar.valueOf stretch
  if startsWithBlank stretch && !value.isEmpty then some (String.ofList name, value) else none

/-- The keyword arguments after the name of a command. -/
def keywordsOf (grammar : Grammar) (rest : List Char) : OrderedMap String String :=
  .ofList <|
    (keywordStretches (Text.pieces (keywordFinder grammar.parameterPrefix.toList) rest)).filterMap
      fun (name, stretch) => grammar.argument? name stretch

/-! ## Calls -/

/-- The name of the command a line calls, and what follows it. -/
def commandWord? (grammar : Grammar) (line : List Char) : Option (String × List Char) :=
  match Text.after? grammar.commandPrefix.toList line with
  | none => none
  | some rest =>
    let name := rest.takeWhile isWord
    if name.isEmpty then none else some (String.ofList name, rest.dropWhile isWord)

/-- The shortcut with a given name. -/
def shortcut? (grammar : Grammar) (name : String) : Option Shortcut :=
  grammar.shortcuts.find? fun shortcut => shortcut.name == name

/-- The call a shortcut and the text after it stand for. -/
def expand (grammar : Grammar) (shortcut : Shortcut) (rest : List Char) : Invocation :=
  let value := grammar.valueOf rest
  ⟨shortcut.command,
    if value.isEmpty then .empty else OrderedMap.empty.insert shortcut.parameter value⟩

/-- Read a message as a call. -/
def parse (grammar : Grammar) (text : String) : Except DispatchError Invocation :=
  match grammar.commandWord? (Text.trim text.toList) with
  | none => .error (.missingPrefix grammar.commandPrefix)
  | some (command, rest) =>
    match grammar.shortcut? command with
    | some shortcut => .ok (grammar.expand shortcut rest)
    | none => .ok ⟨command, grammar.keywordsOf rest⟩

/-- A message that is not a call is refused for want of the command prefix, and for
no other reason. -/
theorem eq_missingPrefix_of_parse_error {grammar : Grammar} {text : String}
    {error : DispatchError} (refused : grammar.parse text = .error error) :
    error = .missingPrefix grammar.commandPrefix := by
  unfold parse at refused
  split at refused
  · cases refused; rfl
  · split at refused <;> cases refused

end Grammar

end ChatCommands
