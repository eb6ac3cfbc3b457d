/-
# Plugins

A plugin object describes its commands and runs them. Running a command is a
function of its name and its arguments: it ends in a response, an error or a break,
and may leave the verbosity of error replies changed. It has no other effect on the
dispatcher; in particular it cannot record calls in the rate limiter.
-/

import ChatCommands.Arguments

namespace ChatCommands

/-- How the body of a command ends. -/
inductive Ending where
  /-- The command is done. -/
  | response (response : Response)
  /-- The command reports an error. -/
  | failure (error : ErrorChain)
  /-- The command breaks off, with a message if it can be had. -/
  | panic (message? : Option String)
deriving DecidableEq, Repr, Inhabited

/-- What running a command amounts to. -/
structure Reaction where
  /-- How the body ended. -/
  ending : Ending
  /-- The verbosity the command has set, if it has set one. -/
  verbose? : Option Bool := none
deriving DecidableEq, Repr, Inhabited

namespace Reaction

/-- The command says a text. -/
def say (text : String) : Reaction := { ending := .response (.text text) }

/-- The command reports an error without further causes. -/
def fail (message : String) : Reaction := { ending := .failure (.ofMessage message) }

/-- Go on with what an accessor returned; its error is the error of the command. -/
def withValue {α : Type} (value : Except ArgumentError α) (next : α → Reaction) : Reaction :=
  match value with
  | .ok value => next value
  | .error error => fail error.message

end Reaction

/-- A type of plugin objects. -/
class Plugin (π : Type) where
  /-- What the component is for. -/
  doc? : π → Option String
  /-- The commands the object declares. -/
  commands : π → List CommandSpec
  /-- Run a command with arguments that have been bound against its descriptor. -/
  invoke : π → String → Arguments π → Reaction

/-- The component a plugin object makes under a name. -/
def Component.ofPlugin {π : Type} [Plugin π] (name : String) (plugin : π) : Component π :=
  .ofDeclared name (Plugin.doc? plugin) plugin (Plugin.commands plugin)

end ChatCommands
