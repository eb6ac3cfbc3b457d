/-
# The console host

A host that answers lines instead of chat messages: its dispatcher is made from a
configuration, and every reply is printed after the number of the line it answers.
-/

import ChatCommands.Config.File
import ChatCommands.Console.Style
import ChatCommands.Dispatcher
import ChatCommands.Loading

namespace ChatCommands.Console

variable {π : Type}

/-- The grammar a configuration asks for. -/
def grammarOf (config : Config) : Grammar where
  commandPrefix := config.commandPrefix
  parameterPrefix := config.parameterPrefix
  shortcuts := config.shortcuts

/-- The settings a configuration asks for. -/
def settingsOf (config : Config) : Settings where
  commandPrefix := config.commandPrefix
  parameterPrefix := config.parameterPrefix
  verbose := config.verbose
  owner? := config.owner?

/-- The dispatcher a configuration asks for, with the packages of its components
directory, and the report on loading them. -/
def buildDispatcher [Plugin π] (files : FileTree) (config : Config) (catalog : Catalog π) :
    LoadReport × Dispatcher π :=
  let (report, snapshot) := loadDirectory files config.componentsDirectory catalog
  (report,
    { grammar := grammarOf config
      snapshot := snapshot
      limiter := .ofPolicy config.policy?
      settings := settingsOf config
      hostServices := .empty })

/-- A reply as the host prints it. -/
def printed (color : Bool) (message : Message) (reply : Reply) : String :=
  "[" ++ message.id ++ "] " ++ replyText color reply ++ "\n"

/-- What the host prints for a message, and the dispatcher afterwards. -/
def answer [Plugin π] (color : Bool) (dispatcher : Dispatcher π) (clock : Clock)
    (message : Message) : String × Dispatcher π :=
  let dispatch := dispatcher.dispatch clock message
  (match dispatch.outcome.reply? with
    | some reply => printed color message reply
    | none => "",
    dispatch.after)

/-! ## Answering lines -/

/-- Who the lines are from. -/
structure Speaker where
  /-- The author of every line. -/
  author : String
  /-- The channel of every line. -/
  channel : String
deriving DecidableEq, Repr, Inhabited

/-- A host in the course of answering lines. -/
structure Session (π : Type) where
  dispatcher : Dispatcher π
  /-- How many lines have been numbered. -/
  count : Nat

/-- Answer a line that was read at a given time. A blank line has no number and no
answer. -/
def Session.line [Plugin π] (color : Bool) (speaker : Speaker) (session : Session π)
    (clock : Clock) (time : Int) (line : String) : String × Session π :=
  if Text.isBlankText line then ("", session)
  else
    let number := session.count + 1
    let message : Message :=
      { id := toString number, author := speaker.author, channel := speaker.channel,
        content := line, time := time }
    let (text, dispatcher) := answer color session.dispatcher clock message
    (text, ⟨dispatcher, number⟩)

/-- A line without the carriage return at its end. -/
def withoutReturn (line : String) : String :=
  match line.toList.reverse with
  | '\r' :: rest => String.ofList rest.reverse
  | _ => line

/-- The lines of a text. A line break at the end opens no further line. -/
def linesOf (text : String) : List String :=
  let lines := text.splitOn "\n"
  (if lines.getLast? == some "" then lines.dropLast else lines).map withoutReturn

/-- What the host prints for lines that are all read at the same time. -/
def Session.run [Plugin π] (color : Bool) (speaker : Speaker) (clock : Clock) (time : Int) :
    Session π → List String → String
  | _, [] => ""
  | session, line :: rest =>
    let (text, session) := session.line color speaker clock time line
    text ++ run color speaker clock time session rest

end ChatCommands.Console
