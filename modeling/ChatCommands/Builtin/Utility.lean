/-
# Utility

A component for switches and diagnostics: it turns the causes in error replies on
and off, which is the privilege of the owner if there is one, and tells authors how
many commands they have left.
-/

import ChatCommands.Plugin

namespace ChatCommands.Utility

variable {π : Type}

/-- What the component is for. -/
def doc : String := "Runtime switches and diagnostics."

/-- The descriptor of a switch. -/
def switchCommand (name doc : String) : CommandSpec where
  name := name
  doc? := some doc
  parameters := [.request "context", .service "settings" .settings]

/-- The command `limits`. -/
def limitsCommand : CommandSpec where
  name := "limits"
  doc? := some "Show how much of your rate limit is in use."
  parameters :=
    [.request "context", .service "rate_limiter" .rateLimiter,
      .service "current_message" .currentMessage]

/-- The commands of the component. -/
def commands : List CommandSpec :=
  [switchCommand "enable_verbose" "Include the full error chain in error replies.",
    switchCommand "disable_verbose" "Stop including the error chain in error replies.",
    limitsCommand]

/-- Turn the causes in error replies on or off. -/
def switch (verbose : Bool) (arguments : Arguments π) : Reaction :=
  .withValue (arguments.service Service.settings? "settings") fun settings =>
    .withValue arguments.request fun request =>
      if settings.isOwner request.message.author then
        { ending :=
            .response (.text (if verbose then "Verbose errors enabled." else "Verbose errors disabled."))
          verbose? := some verbose }
      else .fail "Only the owner can change error verbosity."

/-- The answer of `limits`. -/
def limitsText (usage? : Option WindowUsage) : String :=
  match usage? with
  | none => "No rate limit is configured."
  | some usage =>
    s!"{usage.capacity - usage.used} of {usage.capacity} commands left in any " ++
      Number.Duration.text 0 usage.interval ++ "s window."

/-- Run a command of the component. -/
def invoke (command : String) (arguments : Arguments π) : Reaction :=
  match command with
  | "enable_verbose" => switch true arguments
  | "disable_verbose" => switch false arguments
  | "limits" =>
    .withValue (arguments.service Service.limiter? "rate_limiter") fun limiter =>
      .withValue (arguments.service Service.message? "current_message") fun message =>
        .say (limitsText (limiter.usage? message.author message.time))
  | other => .fail ("Utility has no command " ++ other)

end ChatCommands.Utility
