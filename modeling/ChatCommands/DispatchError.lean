/-
# Errors of a dispatch

Every way in which answering a message can fail. A message that is no command is
the only failure nobody is told about; every other one becomes exactly one reply.
-/

import ChatCommands.ErrorChain
import ChatCommands.Number.Duration

namespace ChatCommands

/-- Why the arguments of a call do not fit the command. -/
inductive ArgumentIssue where
  /-- Names were given that no keyword parameter has. -/
  | unknown (names : List String)
  /-- Required parameters got no value. -/
  | missing (names : List String)
  /-- More values were given by position than there are parameters. -/
  | tooMany (declared given : Nat)
deriving DecidableEq, Repr, Inhabited

/-- The wording of an argument issue. -/
def ArgumentIssue.message : ArgumentIssue → String
  | unknown names => String.join ["unknown parameter(s): ", String.intercalate ", " names]
  | missing names => 
    String.join ["missing required parameter(s): ", String.intercalate ", " names]
  | tooMany declared given =>
    String.join
      ["takes ", toString declared, " parameter(s) but ", toString given,
        " positional value(s) were supplied"]

/-- Why a message was not answered by a command. -/
inductive DispatchError where
  /-- The message is not a command: it lacks the mark. -/
  | missingPrefix (expected : String)
  /-- No command of that name is registered. -/
  | commandLookup (command : String)
  /-- No component of that name is registered. -/
  | componentLookup (component : String)
  /-- The arguments do not fit the command, whose parameters are listed. -/
  | badArguments (command : String) (issue : ArgumentIssue) (valid : List String)
  /-- The author has called too many commands lately. -/
  | rateLimited (remaining : Number.Duration)
  /-- The command reported an error. -/
  | commandFailed (command : String) (cause : ErrorChain)
  /-- The command broke off. -/
  | commandPanicked (command : String) (message : String)
deriving DecidableEq, Repr, Inhabited

namespace DispatchError

/-- The name of the kind of error; replies carry it as their title. -/
def kind : DispatchError → String
  | missingPrefix .. => "MissingPrefixError"
  | commandLookup .. => "CommandLookupError"
  | componentLookup .. => "ComponentLookupError"
  | badArguments .. => "CommandSyntaxError"
  | rateLimited .. => "RateLimitActive"
  | commandFailed .. => "CommandError"
  | commandPanicked .. => "CommandError"

/-- The wording of an error. -/
def message : DispatchError → String
  | missingPrefix expected =>
    String.join ["Message did not begin with the prefix '", expected, "'."]
  | commandLookup command => String.join ["Could not find specified command: ", command, "."]
  | componentLookup component =>
    String.join ["Could not find specified component: ", component, "."]
  | badArguments command issue _ =>
    String.join ["Invalid arguments for ", command, ": ", issue.message]
  | rateLimited remaining =>
    String.join ["Triggered rate limit: try again in ", Number.Duration.text 2 remaining, "s"]
  | commandFailed command cause => String.join ["Command ", command, " failed: ", cause.outermost]
  | commandPanicked command message => String.join ["Command ", command, " panicked: ", message]

/-- Whether nobody is told about the error. -/
def isSilent : DispatchError → Bool
  | missingPrefix .. => true
  | _ => false

/-- Whether a name was not found. -/
def isLookup : DispatchError → Bool
  | commandLookup .. | componentLookup .. => true
  | _ => false

end DispatchError

end ChatCommands
