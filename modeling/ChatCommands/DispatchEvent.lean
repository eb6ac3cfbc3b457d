/-
# Events of a dispatch

What is logged about a dispatch: that a message was received, and how the dispatch
ended. Chat text and error messages are redacted before they are logged.
-/

import ChatCommands.Number.Duration
import ChatCommands.Redaction

namespace ChatCommands

/-- A milestone of a dispatch. -/
inductive DispatchEvent where
  /-- A message was read as a command. -/
  | received (author channel content : String)
  /-- A command ran to its end. -/
  | completed (command : String) (elapsedMillis : Nat) (replied : Bool)
  | failed (command? : Option String) (kind message : String)
  /-- The author had to wait. -/
  | rateLimited (command : String) (remaining : Number.Duration)
deriving DecidableEq, Repr, Inhabited

/-- The event as it is logged: what the author wrote and what the error quotes of it
are redacted. -/
def DispatchEvent.redacted : DispatchEvent → DispatchEvent
  | .received author channel content => .received author channel (Redaction.redact content)
  | .failed command? kind message => .failed command? kind (Redaction.redact message)
  | other => other

end ChatCommands
