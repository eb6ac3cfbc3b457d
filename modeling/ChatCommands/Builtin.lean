/-
# The built-in components

The components every host has at hand. They make up the package `general`.
-/

import ChatCommands.Builtin.Echo
import ChatCommands.Builtin.Info
import ChatCommands.Builtin.Poll
import ChatCommands.Builtin.Utility

namespace ChatCommands

/-- A built-in component. -/
inductive Builtin where
  /-- Says what it is told to say. -/
  | echo
  /-- Tells what is loaded. -/
  | info
  /-- Starts polls. -/
  | poll
  /-- Switches and diagnostics. -/
  | utility
deriving DecidableEq, Repr, Inhabited

namespace Builtin

/-- The package the built-in components belong to. -/
def packageName : String := "general"

/-- The built-in components, in increasing order of their names. -/
def all : List Builtin := [echo, info, poll, utility]

/-- The name of a built-in component. -/
def name : Builtin → String
  | echo => "Echo"
  | info => "Info"
  | poll => "Poll"
  | utility => "Utility"

/-- The built-in component with a name. -/
def ofName? (text : String) : Option Builtin := all.find? fun builtin => builtin.name == text

/-- What a built-in component is for. -/
def doc : Builtin → String
  | echo => Echo.doc
  | info => Info.doc
  | poll => Poll.doc
  | utility => Utility.doc

/-- The commands of a built-in component. -/
def commands : Builtin → List CommandSpec
  | echo => Echo.commands
  | info => Info.commands
  | poll => Poll.commands
  | utility => Utility.commands

/-- Run a command of a built-in component. The packages among the arguments may hold
plugin objects of any type. -/
def invoke {π : Type} : Builtin → String → Arguments π → Reaction
  | echo => Echo.invoke
  | info => Info.invoke
  | poll => Poll.invoke
  | utility => Utility.invoke

instance : Plugin Builtin where
  doc? builtin := some builtin.doc
  commands := commands
  invoke := invoke

/-- A built-in component is found under its name. -/
@[simp] theorem ofName?_name (builtin : Builtin) : ofName? builtin.name = some builtin := by
  cases builtin <;> decide

end Builtin

end ChatCommands
