/-
# Questions about arguments

Each accessor of the arguments of a call as a question, and its answer as a data
tree. A script can say with it what it wants to know, without being a program.
-/

import ChatCommands.Arguments
import ChatCommands.Json

namespace ChatCommands

open Number (IntegerRange)

/-- The form a text is read in. -/
inductive ValueForm where
  /-- A whole number of a range. -/
  | integer (range : IntegerRange)
  /-- A truth value. -/
  | boolean
  /-- A binary number. -/
  | float
deriving DecidableEq, Repr

/-- The form a service is wanted in. -/
inductive ServiceForm where
  /-- A handle of the host. -/
  | text
  | settings
  /-- A rate limiter. -/
  | limiter
  | message
  /-- The loaded packages. -/
  | packages
deriving DecidableEq, Repr

/-- A question about the arguments of a call. -/
inductive Query where
  /-- What is the text of a parameter? -/
  | text (name : String)
  /-- What is the text of a parameter that must have one? -/
  | requiredText (name : String)
  /-- Does a parameter have a value? -/
  | contains (name : String)
  /-- What is the value of a parameter? -/
  | value (name : String)
  /-- Which way is a switch? -/
  | flag (name : String)
  | request
  /-- What does the text of a parameter read as? -/
  | parse (form : ValueForm) (name : String)
  /-- What service does a parameter have? -/
  | service (form : ServiceForm) (name : String)
deriving DecidableEq, Repr

variable {π : Type}

/-- The value of a parameter as a data tree. Of a service only a handle of the host is
shown. -/
def ArgumentValue.toJson : ArgumentValue π → Json
  | .text content => .object [("text", .string content)]
  | .request called => .object [("context", .string called.message.id)]
  | .service kind supplied =>
    .object [("service", .string kind.name), ("value", .ofOption supplied.text?)]

/-- The names and values of the arguments of a call. -/
def Arguments.toJson (arguments : Arguments π) : Json :=
  .object
    [("command", .string arguments.command), ("len", .ofNat arguments.values.size),
      ("empty", .bool arguments.values.isEmpty),
      ("values",
        .array (arguments.values.entries.map fun (name, value) =>
          .array [.string name, value.toJson]))]

/-- The answer of an accessor that may find nothing. -/
def answerOf {α : Type} (show? : α → Json) (found : Except ArgumentError (Option α)) :
    Except ArgumentError Json :=
  found.map fun value? => (value?.map show?).getD .null

/-- Read a text in a given form. -/
def ValueForm.read : ValueForm → String → Except String Json
  | integer range, text =>
    match Number.readInteger range text with
    | .ok value => .ok (.ofInt value)
    | .error error => .error error.message
  | boolean, text => (readTruth text).map .bool
  | float, text =>
    match Number.readFloat text with
    | .ok value => .ok (.string value.toHex)
    | .error error => .error error.message

/-- A service as a data tree, if it has the wanted form. -/
def ServiceForm.show? : ServiceForm → Service π → Option Json
  | text, service => service.text?.map .string
  | settings, service =>
    service.settings?.map fun settings =>
      .array
        [.string settings.commandPrefix, .string settings.parameterPrefix,
          .bool settings.verbose]
  | limiter, service => service.limiter?.map fun limiter => .ofNat limiter.trackedAuthors
  | message, service =>
    service.message?.map fun message =>
      .ofTexts [message.author, message.channel, message.id, message.content]
  | packages, service => service.packages?.map fun packages => .ofTexts packages.commandNames

/-- The answer to a question about the arguments of a call. -/
def Arguments.answer (arguments : Arguments π) : Query → Except ArgumentError Json
  | .text name => .ok (.ofOption (arguments.text? name))
  | .requiredText name => (arguments.requireText name).map .string
  | .contains name => .ok (.bool (arguments.contains name))
  | .value name => .ok (((arguments.get? name).map ArgumentValue.toJson).getD .null)
  | .flag name => answerOf Json.bool (arguments.flag name)
  | .request =>
    arguments.request.map fun request =>
      .object
        [("author", .string request.message.author), ("channel", .string request.message.channel),
          ("id", .string request.message.id)]
  | .parse form name => answerOf id (arguments.parse form.read name)
  | .service form name => arguments.service form.show? name

end ChatCommands
