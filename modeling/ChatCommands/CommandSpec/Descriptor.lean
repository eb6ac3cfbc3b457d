/-
# Descriptors as data trees

The form in which descriptors are exchanged. A kind of parameter is a tag with the
kind of service beside it, a requirement is a word or an object that holds the
declared value, and records may be given as objects or as arrays of their fields.
-/

import ChatCommands.CommandSpec
import ChatCommands.Json

namespace ChatCommands

open Json (record?)

/-! ## Writing -/

/-- The data tree of a kind of parameter. -/
def ParameterKind.toJson : ParameterKind → Json
  | .context => .object [("type", .string "context")]
  | .text => .object [("type", .string "text")]
  | .integer => .object [("type", .string "integer")]
  | .float => .object [("type", .string "float")]
  | .boolean => .object [("type", .string "boolean")]
  | .capability kind =>
    .object [("type", .string "capability"), ("capability", .string kind.name)]

/-- The data tree of a requirement. -/
def Requirement.toJson : Requirement → Json
  | .required => .string "required"
  | .optional => .string "optional"
  | .default value => .object [("default", .string value)]

/-- The data tree of a parameter. -/
def Parameter.toJson (parameter : Parameter) : Json :=
  .object
    [("name", .string parameter.name), ("kind", parameter.kind.toJson),
      ("requirement", parameter.requirement.toJson)]

/-- The data tree of a descriptor. -/
def CommandSpec.toJson (spec : CommandSpec) : Json :=
  .object
    [("name", .string spec.name), ("doc", .ofOption spec.doc?),
      ("params", .array (spec.parameters.map Parameter.toJson))]

/-! ## Reading -/

/-- A word that stands for one of several choices: the word itself, or an object
with the word as its only key and nothing under it. -/
def choice? : Json → Option String
  | .string word => some word
  | .object [(word, .null)] => some word
  | _ => none

/-- A kind of service beside a tag. In an object nothing may also be written as an
object without members. -/
def capabilityIn? (inObject : Bool) (value : Json) : Option Capability :=
  match value with
  | .object [(word, .object [])] => if inObject then Capability.ofName? word else none
  | value => (choice? value).bind Capability.ofName?

/-- The kind of parameter with a tag and what is given beside it. -/
def ParameterKind.ofTag? (tag : String) (inObject : Bool) (content : Json.Field) :
    Option ParameterKind :=
  let plain (kind : ParameterKind) : Option ParameterKind :=
    match content with
    | .missing | .given .null => some kind
    | _ => none
  match tag with
  | "context" => plain .context
  | "text" => plain .text
  | "integer" => plain .integer
  | "float" => plain .float
  | "boolean" => plain .boolean
  | "capability" => (content.required (capabilityIn? inObject)).map .capability
  | _ => none

/-- Read a kind of parameter. -/
def ParameterKind.ofJson? (value : Json) : Option ParameterKind :=
  match record? ["type", "capability"] value with
  | some [tag, content] =>
    (tag.required choice?).bind fun tag =>
      ofTag? tag (match value with | .object _ => true | _ => false) content
  | _ => none

/-- Read a requirement. -/
def Requirement.ofJson? : Json → Option Requirement
  | .object [("default", .string value)] => some (.default value)
  | value =>
    match choice? value with
    | some "required" => some .required
    | some "optional" => some .optional
    | _ => none

/-- Read a parameter. -/
def Parameter.ofJson? (value : Json) : Option Parameter :=
  match record? ["name", "kind", "requirement"] value with
  | some [name, kind, requirement] => do
    let name ← name.required Json.string?
    let kind ← kind.required ParameterKind.ofJson?
    let requirement ← requirement.required Requirement.ofJson?
    return ⟨name, kind, requirement⟩
  | _ => none

/-- Read a descriptor. The documentation may be missing from an object. -/
def CommandSpec.ofJson? (value : Json) : Option CommandSpec :=
  match record? ["name", "doc", "params"] value with
  | some [name, doc, parameters] => do
    let name ← name.required Json.string?
    let doc? ← doc.nullable (Json.orNull Json.string?)
    let parameters ← parameters.required (Json.listOf? Parameter.ofJson?)
    return ⟨name, doc?, parameters⟩
  | _ => none

end ChatCommands
