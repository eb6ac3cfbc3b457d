/-
# Command descriptors

A command is described before it is ever called: its name, its documentation and
its parameters in order. Matching a call against a command goes by the descriptor
alone. The numeric and truth kinds of parameter only document what is expected;
every value a user types reaches the command as text.
-/

import ChatCommands.Capability

namespace ChatCommands

/-- What a parameter takes. -/
inductive ParameterKind where
  /-- The request itself, handed over by position. -/
  | context
  /-- Text of any form. -/
  | text
  /-- Text that should read as a whole number. -/
  | integer
  /-- Text that should read as a number. -/
  | float
  /-- Text that should read as a truth value. -/
  | boolean
  /-- A service of the surroundings. -/
  | capability (kind : Capability)
deriving DecidableEq, Repr, Inhabited

namespace ParameterKind

/-- Whether a user can give the parameter by its name. -/
def isKeyword : ParameterKind → Bool
  | text | integer | float | boolean => true
  | context | capability _ => false

/-- The word for the kind in usage lines. -/
def label : ParameterKind → String
  | context => "context"
  | text => "str"
  | integer => "int"
  | float => "float"
  | boolean => "bool"
  | capability _ => "capability"

/-- The kind of service a parameter asks for. -/
def capability? : ParameterKind → Option Capability
  | capability kind => some kind
  | _ => none

end ParameterKind

/-- What happens when nothing is given for a parameter. -/
inductive Requirement where
  /-- The call is refused. -/
  | required
  /-- The declared value is used. -/
  | default (value : String)
  /-- The parameter is left out. -/
  | optional
deriving DecidableEq, Repr, Inhabited

/-- A declared parameter of a command. -/
structure Parameter where
  name : String
  /-- What it takes. -/
  kind : ParameterKind
  /-- What happens when nothing is given. -/
  requirement : Requirement
deriving DecidableEq, Repr, Inhabited

namespace Parameter

/-- The parameter that takes the request. -/
def request (name : String) : Parameter := ⟨name, .context, .required⟩

/-- A parameter that takes a service the call cannot do without. -/
def service (name : String) (kind : Capability) : Parameter := ⟨name, .capability kind, .required⟩

/-- A text the call cannot do without. -/
def requiredText (name : String) : Parameter := ⟨name, .text, .required⟩

/-- A text that may be left out. -/
def optionalText (name : String) : Parameter := ⟨name, .text, .optional⟩

/-- Whether a call without the parameter is refused. -/
def isRequired (parameter : Parameter) : Bool := parameter.requirement == .required

/-- The declared value for calls that give none. -/
def default? (parameter : Parameter) : Option String :=
  match parameter.requirement with
  | .default value => some value
  | _ => none

/-- How the parameter is written in a usage line. -/
def usage (parameterPrefix : String) (parameter : Parameter) : String :=
  let token := parameterPrefix ++ parameter.name ++ " <" ++ parameter.kind.label ++ ">"
  if parameter.isRequired then token else "[" ++ token ++ "]"

end Parameter

/-- The descriptor of a command. -/
structure CommandSpec where
  /-- The name the command is called by. -/
  name : String
  /-- What the command does, for its users. -/
  doc? : Option String
  /-- The parameters, in declaration order. -/
  parameters : List Parameter
deriving DecidableEq, Repr, Inhabited

namespace CommandSpec

/-- The first parameter declared under a name. -/
def parameter? (spec : CommandSpec) (name : String) : Option Parameter :=
  spec.parameters.find? fun parameter => parameter.name == name

/-- The names of all parameters, in declaration order. -/
def parameterNames (spec : CommandSpec) : List String := spec.parameters.map Parameter.name

/-- The parameters a user can give by name, in declaration order. -/
def keywordParameters (spec : CommandSpec) : List Parameter :=
  spec.parameters.filter fun parameter => parameter.kind.isKeyword

/-- The names a user can give values for, in declaration order. -/
def keywordNames (spec : CommandSpec) : List String := spec.keywordParameters.map Parameter.name

/-- Whether a user can give a value under a name. The first declaration decides. -/
def acceptsKeyword (spec : CommandSpec) (name : String) : Bool :=
  match spec.parameter? name with
  | some parameter => parameter.kind.isKeyword
  | none => false

/-- Whether the first parameter takes the request. -/
def takesRequestFirst (spec : CommandSpec) : Bool :=
  match spec.parameters with
  | [] => false
  | first :: _ => first.kind == .context

/-- The usage line of a command: its name and how to give each keyword. -/
def usage (spec : CommandSpec) (parameterPrefix : String) : String :=
  String.intercalate " " (spec.name :: spec.keywordParameters.map (Parameter.usage parameterPrefix))

end CommandSpec

end ChatCommands
