/-
# Capabilities

The kinds of service a command can ask its surroundings for. A command names the
kinds it needs among its parameters; which services there are in a given dispatch
is the business of the surroundings.
-/

namespace ChatCommands

/-- A kind of service. -/
inductive Capability where
  /-- The message that is being answered. -/
  | currentMessage
  /-- A message archive supplied by the host. -/
  | archiver
  /-- The settings commands may look at and change. -/
  | settings
  /-- The rate limiter of the dispatcher. -/
  | rateLimiter
  /-- The packages that are loaded. -/
  | packages
deriving DecidableEq, Repr, Inhabited

namespace Capability

/-- The name of a kind of service in descriptors and messages. -/
def name : Capability → String
  | currentMessage => "current_message"
  | archiver => "archiver"
  | settings => "settings"
  | rateLimiter => "rate_limiter"
  | packages => "packages"

/-- All kinds of service, in the order in which they are listed. -/
def all : List Capability := [currentMessage, archiver, settings, rateLimiter, packages]

/-- The kind of service with a given name. -/
def ofName? (text : String) : Option Capability := all.find? fun kind => kind.name == text

/-- A kind of service is found under its name. -/
@[simp] theorem ofName?_name (kind : Capability) : ofName? kind.name = some kind := by
  cases kind <;> decide

end Capability

end ChatCommands
