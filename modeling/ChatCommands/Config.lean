/-
# Configuration

The configuration of a host. Everything may be left out of it; what is left out has
a default, except for the rate limit, without which nobody is limited.
-/

import ChatCommands.Grammar
import ChatCommands.Json
import ChatCommands.RateLimit

namespace ChatCommands

open Json (record?)
open Number (Binary64)

/-- The section about the command language and the host. -/
structure UxSection where
  /-- The mark a command begins with. -/
  commandPrefix? : Option String := none
  /-- The mark a parameter begins with. -/
  parameterPrefix? : Option String := none
  /-- The directory with the package manifests. -/
  components? : Option String := none
  /-- Whether replies to errors show the causes of the error. -/
  verbose? : Option Bool := none
  /-- The author who may change settings. -/
  owner? : Option String := none
deriving DecidableEq, Repr, Inhabited

/-- The section about the rate limit. -/
structure LimitingSection where
  /-- The length of the window in seconds. -/
  rate : Binary64
  /-- How many calls a window admits. -/
  count : Nat
deriving DecidableEq, Repr, Inhabited

/-- The section about logging. -/
structure LoggingSection where
  /-- How much is logged. -/
  level? : Option String := none
  /-- The directory of the log files; without one nothing is written to files. -/
  directory? : Option String := none
deriving DecidableEq, Repr, Inhabited

/-- The configuration of a host. -/
structure Config where
  /-- About the command language and the host. -/
  ux? : Option UxSection := none
  /-- About the rate limit. -/
  limiting? : Option LimitingSection := none
  /-- About logging. -/
  logging? : Option LoggingSection := none
  shortcuts : List Shortcut := []
deriving DecidableEq, Repr, Inhabited

/-! ## Reading -/

/-- Read a field that may be missing or absent. -/
def Json.Field.absentable {α : Type} (read : Json → Option α) (field : Json.Field) :
    Option (Option α) :=
  field.optional (Json.orNull read) none

/-- Read the section about the command language. -/
def UxSection.ofJson? (value : Json) : Option UxSection :=
  match record? ["prefix", "parameterPrefix", "components", "verbose", "owner"] value with
  | some [commandPrefix, parameterPrefix, components, verbose, owner] => do
    let commandPrefix? ← commandPrefix.absentable Json.string?
    let parameterPrefix? ← parameterPrefix.absentable Json.string?
    let components? ← components.absentable Json.string?
    let verbose? ← verbose.absentable Json.bool?
    let owner? ← owner.absentable Json.string?
    return { commandPrefix?, parameterPrefix?, components?, verbose?, owner? }
  | _ => none

/-- The greatest number of calls a configuration can admit. -/
def greatestLimit : Int := 4294967295

/-- Read a count: a whole number that fits. -/
def count? (value : Json) : Option Nat :=
  value.int?.bind fun count =>
    if 0 ≤ count ∧ count ≤ greatestLimit then some count.toNat else none

/-- Read the section about the rate limit. -/
def LimitingSection.ofJson? (value : Json) : Option LimitingSection :=
  match record? ["rate", "count"] value with
  | some [rate, count] => do
    let rate ← rate.required Json.binary?
    let count ← count.required count?
    return ⟨rate, count⟩
  | _ => none

/-- Read the section about logging. -/
def LoggingSection.ofJson? (value : Json) : Option LoggingSection :=
  match record? ["level", "dir"] value with
  | some [level, directory] => do
    let level? ← level.absentable Json.string?
    let directory? ← directory.absentable Json.string?
    return { level?, directory? }
  | _ => none

/-- Read a shortcut. -/
def Shortcut.ofJson? (value : Json) : Option Shortcut :=
  match record? ["name", "command", "parameter"] value with
  | some [name, command, parameter] => do
    let name ← name.required Json.string?
    let command ← command.required Json.string?
    let parameter ← parameter.required Json.string?
    return ⟨name, command, parameter⟩
  | _ => none

/-- Read a configuration. -/
def Config.ofJson? (value : Json) : Option Config :=
  match record? ["ux", "limiting", "logging", "shortcuts"] value with
  | some [ux, limiting, logging, shortcuts] => do
    let ux? ← ux.absentable UxSection.ofJson?
    let limiting? ← limiting.absentable LimitingSection.ofJson?
    let logging? ← logging.absentable LoggingSection.ofJson?
    let shortcuts ← shortcuts.optional (Json.listOf? Shortcut.ofJson?) []
    return { ux?, limiting?, logging?, shortcuts }
  | _ => none

namespace Config

/-! ## What is configured -/

/-- The directory with the package manifests, if nothing else is configured. -/
def defaultComponents : String := "./plugins"

/-- How much is logged, if nothing else is configured. -/
def defaultLogLevel : String := "info"

variable (config : Config)

/-- The mark a command begins with. -/
def commandPrefix : String :=
  (config.ux?.bind UxSection.commandPrefix?).getD defaultCommandPrefix

/-- The mark a parameter begins with. -/
def parameterPrefix : String :=
  (config.ux?.bind UxSection.parameterPrefix?).getD defaultParameterPrefix

/-- The directory with the package manifests. -/
def componentsDirectory : String := (config.ux?.bind UxSection.components?).getD defaultComponents

/-- Whether replies to errors show the causes of the error. -/
def verbose : Bool := (config.ux?.bind UxSection.verbose?).getD false

/-- The author who may change settings. -/
def owner? : Option String := config.ux?.bind UxSection.owner?

/-- How much is logged. -/
def logLevel : String := (config.logging?.bind LoggingSection.level?).getD defaultLogLevel

/-- The directory of the log files. -/
def logDirectory? : Option String := config.logging?.bind LoggingSection.directory?

/-! ## Defaults -/

/-- The section about the command language with its gaps filled. -/
def filledUx : UxSection where
  commandPrefix? := some config.commandPrefix
  parameterPrefix? := some config.parameterPrefix
  components? := some config.componentsDirectory
  verbose? := some config.verbose
  owner? := config.owner?

/-- The configuration with its gaps filled. The rate limit is left as it is. -/
def withDefaults : Config :=
  { config with
    ux? := some config.filledUx
    logging? := some { level? := some config.logLevel, directory? := config.logDirectory? } }

end Config

/-! ## Limits -/

/-- The length of the window. A number of seconds that is no duration counts as none. -/
def LimitingSection.interval (limiting : LimitingSection) : Number.Duration :=
  (Number.Duration.ofSeconds? limiting.rate).getD 0

/-- The policy of the rate limit. -/
def LimitingSection.policy (limiting : LimitingSection) : RatePolicy :=
  ⟨limiting.interval, limiting.count⟩

/-- The policy of the rate limit, if there is a limit. -/
def Config.policy? (config : Config) : Option RatePolicy :=
  config.limiting?.map LimitingSection.policy

end ChatCommands
