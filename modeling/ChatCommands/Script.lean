/-
# Scripted components

Components whose commands are written down as data: a command may answer with a
fixed text, fail in a given way, or report on the arguments it was called with. If
a name is declared more than once, the last declaration says what the command does.
-/

import ChatCommands.Arguments.Query
import ChatCommands.Builtin

namespace ChatCommands

/-- What a scripted command does. -/
inductive ScriptAction where
  /-- Say nothing. -/
  | silent
  /-- Say a text. -/
  | reply (text : String)
  /-- Report an error. -/
  | fail (error : ErrorChain)
  /-- Break off. -/
  | panic (message? : Option String)
  /-- Say the answer to a question about the arguments. -/
  | answer (query : Query)
  /-- Say what the arguments are. -/
  | describe
deriving DecidableEq, Repr, Inhabited

/-- A scripted component. -/
structure Script where
  /-- What the component is for. -/
  doc? : Option String
  /-- The commands and what they do, in declaration order. -/
  declarations : List (CommandSpec × ScriptAction)
deriving DecidableEq, Repr, Inhabited

/-! ## Plain texts -/

mutual

/-- A data tree without quotes and brackets; the values of arrays and objects are
joined by commas. -/
def Json.plain : Json → String
  | .null => "null"
  | .bool value => if value then "true" else "false"
  | .number (.whole value) => toString value
  | .number (.binary value) => value.shortest
  | .string value => value
  | .array items => String.intercalate "," (plainItems items)
  | .object members => String.intercalate "," (plainMembers members)

/-- The plain texts of the items of an array. -/
def Json.plainItems : List Json → List String
  | [] => []
  | item :: rest => item.plain :: plainItems rest

/-- The plain texts of the values of an object. -/
def Json.plainMembers : List (String × Json) → List String
  | [] => []
  | (_, value) :: rest => value.plain :: plainMembers rest

end

variable {π : Type}

/-- A short description of a value. -/
def ArgumentValue.description : ArgumentValue π → String
  | .text content => "T:" ++ content
  | .request called => "C:" ++ called.message.id
  | .service kind _ => "S:" ++ kind.name

/-- A short description of a call. -/
def Arguments.description (arguments : Arguments π) : String :=
  arguments.command ++ "(" ++
    String.intercalate "|"
      (arguments.values.entries.map fun (name, value) => name ++ "=" ++ value.description) ++ ")"

/-! ## Running scripts -/

/-- Do what a scripted command does. -/
def ScriptAction.run (arguments : Arguments π) : ScriptAction → Reaction
  | silent => { ending := .response .silent }
  | reply text => .say text
  | fail error => { ending := .failure error }
  | panic message? => { ending := .panic message? }
  | answer query => .withValue (arguments.answer query) fun answer => .say answer.plain
  | describe => .say arguments.description

namespace Script

/-- The action of a command: that of its last declaration. -/
def action? (script : Script) (command : String) : Option ScriptAction :=
  (script.declarations.reverse.find? fun (spec, _) => spec.name == command).map Prod.snd

/-- Run a scripted command. -/
def invoke (script : Script) (command : String) (arguments : Arguments π) : Reaction :=
  ((script.action? command).getD .describe).run arguments

end Script

/-- A component a host can load: built in or scripted. -/
inductive Extension where
  /-- A built-in component. -/
  | builtin (builtin : Builtin)
  /-- A scripted component. -/
  | script (script : Script)
deriving DecidableEq, Repr, Inhabited

namespace Extension

instance : Plugin Extension where
  doc? := fun
    | .builtin component => some component.doc
    | .script component => component.doc?
  commands := fun
    | .builtin component => component.commands
    | .script component => component.declarations.map Prod.fst
  invoke := fun
    | .builtin component => component.invoke
    | .script component => component.invoke

end Extension

end ChatCommands
