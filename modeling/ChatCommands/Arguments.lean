/-
# Arguments of a call

The values a command is called with, by parameter and in declaration order. A
parameter that may be left out and was is simply absent. The accessors return what
a command body needs and say exactly why they cannot.
-/

import ChatCommands.Number.Literal
import ChatCommands.Service
import ChatCommands.Text.Lowercase
import ChatCommands.Text.Trim

namespace ChatCommands

/-- The value of a parameter. -/
inductive ArgumentValue (π : Type) where
  /-- The request that is being answered. -/
  | request (request : Request)
  | text (content : String)
  /-- A service and the kind it was supplied under. -/
  | service (kind : Capability) (service : Service π)

/-- The values of the parameters of a command. -/
structure Arguments (π : Type) where
  /-- The name of the command. -/
  command : String
  /-- The values by parameter. -/
  values : OrderedMap String (ArgumentValue π)

/-- Why an accessor has nothing to return. -/
inductive ArgumentError where
  /-- No value is a request. -/
  | noRequest (command : String)
  /-- A text is needed and there is none. -/
  | noText (command name : String)
  /-- A text does not read as what is expected. -/
  | invalid (raw name reason : String)
  /-- There is no value where a service is expected. -/
  | noService (command name : String)
  /-- The value is not a service. -/
  | notService (name : String)
  /-- The service has another form. -/
  | otherService (name : String) (kind : Capability)
deriving DecidableEq, Repr

/-- The wording of an argument error. -/
def ArgumentError.message : ArgumentError → String
  | noRequest command => String.join [command, " was invoked without a request context"]
  | noText command name => String.join [command, " requires a value for '", name, "'"]
  | invalid raw name reason =>
    String.join ["invalid value '", raw, "' for '", name, "': ", reason]
  | noService command name => String.join [command, " was not given service '", name, "'"]
  | notService name => String.join ["'", name, "' is not a service parameter"]
  | otherService name kind =>
    String.join ["service '", name, "' (", kind.name, ") has an unexpected type"]

/-- Read a truth value. -/
def readTruth : String → Except String Bool
  | "true" => .ok true
  | "false" => .ok false
  | _ => .error "provided string was not `true` or `false`"

/-- Read the word of a switch. -/
def readSwitch (word : String) : Option Bool :=
  if ["true", "yes", "on", "1"].contains word then some true
  else if ["false", "no", "off", "0"].contains word then some false
  else none

namespace Arguments

variable {π : Type}

/-- The arguments that give values to parameters one after the other. -/
def ofList (command : String) (values : List (String × ArgumentValue π)) : Arguments π :=
  ⟨command, .ofList values⟩

/-- The value of a parameter. -/
def get? (arguments : Arguments π) (name : String) : Option (ArgumentValue π) :=
  arguments.values.get? name

/-- Whether a parameter has a value. -/
def contains (arguments : Arguments π) (name : String) : Bool := arguments.values.contains name

/-- The first value that is a request. -/
def request (arguments : Arguments π) : Except ArgumentError Request :=
  let found? := arguments.values.values.findSome? fun
    | .request request => some request
    | _ => none
  match found? with
  | some request => .ok request
  | none => .error (.noRequest arguments.command)

/-- The text of a parameter, if it has one. -/
def text? (arguments : Arguments π) (name : String) : Option String :=
  match arguments.get? name with
  | some (.text content) => some content
  | _ => none

/-- The text of a parameter that must have one. -/
def requireText (arguments : Arguments π) (name : String) : Except ArgumentError String :=
  match arguments.text? name with
  | some content => .ok content
  | none => .error (.noText arguments.command name)

/-- Read the text of a parameter without the blanks around it. The error quotes the
text as it was given. -/
def parse {α : Type} (read : String → Except String α) (arguments : Arguments π)
    (name : String) : Except ArgumentError (Option α) :=
  match arguments.text? name with
  | none => .ok none
  | some raw =>
    match read (Text.trimmed raw) with
    | .ok value => .ok (some value)
    | .error reason => .error (.invalid raw name reason)

/-- Read the text of a parameter as a switch, whatever its case. -/
def flag (arguments : Arguments π) (name : String) : Except ArgumentError (Option Bool) :=
  match arguments.text? name with
  | none => .ok none
  | some raw =>
    let word := Text.lowercase (Text.trimmed raw)
    match readSwitch word with
    | some value => .ok (some value)
    | none => .error (.invalid word name "expected true or false")

/-- The service of a parameter in the form a command can use. -/
def service {α : Type} (form : Service π → Option α) (arguments : Arguments π)
    (name : String) : Except ArgumentError α :=
  match arguments.get? name with
  | some (.service kind service) =>
    match form service with
    | some value => .ok value
    | none => .error (.otherService name kind)
  | some _ => .error (.notService name)
  | none => .error (.noService arguments.command name)

end Arguments

end ChatCommands
