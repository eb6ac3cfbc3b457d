/-
# Dispatching messages

A dispatcher answers messages. It reads a message as a call, looks the command up,
asks the rate limiter, binds the arguments and runs the command; the first of these
steps that fails decides the reply. Everything before the command runs is a single
step, `consider`: of several messages that are answered at the same time each is
admitted or refused as a whole, and the limiter is up to date before the next one.

A message that is not a call is ignored: nothing is logged and nothing is sent.
For every other message exactly two events are logged.
-/

import ChatCommands.Arguments.Binding
import ChatCommands.DispatchEvent
import ChatCommands.Grammar
import ChatCommands.Plugin
import ChatCommands.Reply

namespace ChatCommands

/-- What a local clock tells during a dispatch. -/
structure Clock where
  /-- For how many seconds the host has been running. -/
  uptime : Int := 0
  /-- How many milliseconds the command takes. -/
  elapsedMillis : Nat := 0
deriving DecidableEq, Repr, Inhabited

/-- A dispatcher with everything it refers to. -/
structure Dispatcher (π : Type) where
  /-- The command language. -/
  grammar : Grammar
  /-- The packages that are loaded. -/
  snapshot : Snapshot π
  limiter : RateLimiter
  settings : Settings
  hostServices : Capabilities π

/-- What became of a message. -/
inductive Outcome where
  /-- The message is no call. -/
  | ignored
  /-- The command ran and said something or nothing. -/
  | replied (response : Response)
  /-- The dispatch failed. -/
  | failed (reply : ErrorReply)
deriving DecidableEq, Repr, Inhabited

/-- What is sent back for an outcome, if anything. -/
def Outcome.reply? : Outcome → Option Reply
  | ignored => none
  | replied .silent => none
  | replied (.text content) => some (.text content)
  | failed reply => some (.error reply)

/-- A call that may run. -/
structure Call (π : Type) where
  /-- The command with its component and package. -/
  registration : Registration π
  arguments : Arguments π

/-- How far a message gets without running a command. -/
inductive Admission (π : Type) where
  /-- The message is no call. -/
  | ignored
  /-- The call is refused; suggestions are drawn from the candidates. -/
  | refused (command : String) (error : DispatchError) (candidates : List String)
  /-- The call may run. -/
  | ready (call : Call π)

/-- What a dispatch amounts to. -/
structure Dispatch (π : Type) where
  /-- What became of the message. -/
  outcome : Outcome
  /-- The events that were logged, redacted. -/
  events : List DispatchEvent
  after : Dispatcher π

/-- What a command said, or the error it ended in. -/
def Ending.result (command : String) : Ending → Except DispatchError Response
  | response said => .ok said
  | failure error => .error (.commandFailed command error)
  | panic message? => .error (.commandPanicked command (message?.getD "command panicked"))

/-- The event of a call that failed. Having to wait is an event of its own. -/
def failureEvent (command : String) : DispatchError → DispatchEvent
  | .rateLimited remaining => .rateLimited command remaining
  | error => .failed (some command) error.kind error.message

namespace Dispatcher

variable {π : Type}

/-- The dispatcher with a grammar and packages that limits nobody and has the
settings of the grammar. -/
def ofGrammar (grammar : Grammar) (snapshot : Snapshot π) : Dispatcher π where
  grammar := grammar
  snapshot := snapshot
  limiter := .unlimited
  settings := { commandPrefix := grammar.commandPrefix, parameterPrefix := grammar.parameterPrefix }
  hostServices := .empty

/-- The services the dispatcher supplies itself. -/
def ownServices (dispatcher : Dispatcher π) (message : Message) : Capabilities π :=
  .ofList
    [(.currentMessage, .message message), (.settings, .settings dispatcher.settings),
      (.rateLimiter, .limiter dispatcher.limiter), (.packages, .packages dispatcher.snapshot)]

/-- The services of a dispatch. Those of the dispatcher take precedence over those of
the host. -/
def services (dispatcher : Dispatcher π) (message : Message) : Capabilities π :=
  Capabilities.merged dispatcher.hostServices (dispatcher.ownServices message)

/-- The values a command gets by position: the request, if its first parameter takes
it. -/
def positional (command : CommandSpec) (request : Request) : List (ArgumentValue π) :=
  if command.takesRequestFirst then [.request request] else []

/-- Bind the arguments of a call that has passed the limiter. -/
def bindCall (dispatcher : Dispatcher π) (registration : Registration π)
    (keywords : OrderedMap String String) (request : Request) : Admission π :=
  let command := registration.command
  match Binding.bind command (positional command request) keywords
      (dispatcher.services request.message) with
  | .error error => .refused command.name error command.keywordNames
  | .ok arguments => .ready ⟨registration, arguments⟩

/-- Take a message as far as it gets without running a command. -/
def consider (dispatcher : Dispatcher π) (uptime : Int) (message : Message) :
    Admission π × Dispatcher π :=
  match dispatcher.grammar.parse message.content with
  | .error _ => (.ignored, dispatcher)
  | .ok invocation =>
    match dispatcher.snapshot.get invocation.command with
    | .error error =>
      (.refused invocation.command error dispatcher.snapshot.commandNames, dispatcher)
    | .ok registration =>
      match dispatcher.limiter.check message.author message.time with
      | (.denied remaining, limiter) =>
        (.refused registration.command.name (.rateLimited remaining) [],
          { dispatcher with limiter := limiter })
      | (.admitted, limiter) =>
        let admitting := { dispatcher with limiter := limiter }
        (admitting.bindCall registration invocation.keywords ⟨message, uptime⟩, admitting)

/-- The reply to an error, with the marks and the verbosity of the dispatcher. -/
def replyTo (dispatcher : Dispatcher π) (error : DispatchError) (candidates : List String) :
    ErrorReply :=
  .ofError error
    { verbose := dispatcher.settings.verbose
      commandPrefix := dispatcher.grammar.commandPrefix
      parameterPrefix := dispatcher.grammar.parameterPrefix
      candidates := candidates }

/-- The dispatcher after a command has set the verbosity, if it has. -/
def setVerbose (dispatcher : Dispatcher π) : Option Bool → Dispatcher π
  | none => dispatcher
  | some verbose => { dispatcher with settings := { dispatcher.settings with verbose := verbose } }

/-- The outcome and the last event of a call that ran. -/
def conclude (dispatcher : Dispatcher π) (command : String) (elapsedMillis : Nat)
    (ending : Ending) : Outcome × DispatchEvent :=
  match ending.result command with
  | .ok response => (.replied response, .completed command elapsedMillis (response != .silent))
  | .error error => (.failed (dispatcher.replyTo error []), failureEvent command error)

/-- The command a call runs, and what comes of it. -/
def run [Plugin π] (dispatcher : Dispatcher π) (call : Call π) : Reaction × Dispatcher π :=
  let reaction :=
    Plugin.invoke call.registration.component.plugin call.registration.command.name call.arguments
  (reaction, dispatcher.setVerbose reaction.verbose?)

/-- The event of a message that was read as a call. -/
def receivedEvent (message : Message) : DispatchEvent :=
  .received message.author message.channel message.content

/-- Answer a message. -/
def dispatch [Plugin π] (dispatcher : Dispatcher π) (clock : Clock) (message : Message) :
    Dispatch π :=
  match dispatcher.consider clock.uptime message with
  | (.ignored, after) => ⟨.ignored, [], after⟩
  | (.refused command error candidates, after) =>
    ⟨.failed (after.replyTo error candidates),
      [receivedEvent message, failureEvent command error].map DispatchEvent.redacted, after⟩
  | (.ready call, admitting) =>
    let (reaction, after) := admitting.run call
    let (outcome, event) :=
      after.conclude call.registration.command.name clock.elapsedMillis reaction.ending
    ⟨outcome, [receivedEvent message, event].map DispatchEvent.redacted, after⟩

end Dispatcher

/-- A dispatch with what was sent for it. -/
structure Delivery (π : Type) where
  dispatch : Dispatch π
  sent? : Option Reply
  /-- Whether the reply, if there was one, arrived. -/
  arrived : Bool

/-- Answer a message and send what there is to send. Whether it arrives makes no
difference to the dispatch. -/
def Dispatcher.handle {π : Type} [Plugin π] (dispatcher : Dispatcher π) (clock : Clock)
    (message : Message) (send : Message → Reply → Bool) : Delivery π :=
  let dispatch := dispatcher.dispatch clock message
  let sent? := dispatch.outcome.reply?
  ⟨dispatch, sent?, sent?.all (send message)⟩

end ChatCommands
