/-
# Echo

A component that says what it is told to say.
-/

import ChatCommands.Plugin

namespace ChatCommands.Echo

/-- What the component is for. -/
def doc : String := "Repeats text back to the channel."

/-- The command `echo`. -/
def echoCommand : CommandSpec where
  name := "echo"
  doc? := some "Reply with the given text."
  parameters := [.request "context", .requiredText "text"]

/-- The commands of the component. -/
def commands : List CommandSpec := [echoCommand]

/-- Run a command of the component. -/
def invoke {π : Type} (_command : String) (arguments : Arguments π) : Reaction :=
  .withValue (arguments.requireText "text") Reaction.say

end ChatCommands.Echo
