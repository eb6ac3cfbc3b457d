/-
# Services

What a command is handed for a parameter that asks for a capability. The kind says
what the service is for; what it is in fact depends on who supplied it, so a command
asks for the form it can use and is refused if the service has another one.
-/

import ChatCommands.Message
import ChatCommands.RateLimit
import ChatCommands.Settings
import ChatCommands.Snapshot

namespace ChatCommands

/-- A service, as it is at the time of the call. -/
inductive Service (π : Type) where
  /-- A handle of the host, known by a text. -/
  | text (handle : String)
  | message (message : Message)
  | settings (settings : Settings)
  | limiter (limiter : RateLimiter)
  /-- The loaded packages. -/
  | packages (snapshot : Snapshot π)

namespace Service

variable {π : Type}

/-- The text of a handle of the host. -/
def text? : Service π → Option String
  | text value => some value
  | _ => none

/-- The message, if it is one. -/
def message? : Service π → Option Message
  | message value => some value
  | _ => none

/-- The settings, if that is what it is. -/
def settings? : Service π → Option Settings
  | settings value => some value
  | _ => none

/-- The rate limiter, if it is one. -/
def limiter? : Service π → Option RateLimiter
  | limiter value => some value
  | _ => none

/-- The loaded packages, if that is what it is. -/
def packages? : Service π → Option (Snapshot π)
  | packages value => some value
  | _ => none

end Service

/-- The services of a dispatch by kind. -/
abbrev Capabilities (π : Type) := OrderedMap Capability (Service π)

namespace Capabilities

variable {π : Type}

/-- The services of both, where those of `overrides` take precedence. -/
def merged (base overrides : Capabilities π) : Capabilities π := base.insertAll overrides.entries

end Capabilities

end ChatCommands
