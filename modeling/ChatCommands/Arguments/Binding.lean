/-
# Binding

Matching a call with the parameters of a command. Values given by position go to
the leading parameters. Every other parameter takes the keyword argument of its
name if it is a keyword parameter, the service of its kind if it asks for one, and
else its declared value. What is then still without a value may be left out or not;
in the latter case the call is refused.
-/

import ChatCommands.Arguments

namespace ChatCommands.Binding

variable {π : Type}

/-- What a parameter gets. -/
inductive Resolution (π : Type) where
  | bound (value : ArgumentValue π)
  /-- Nothing, which is allowed. -/
  | omitted
  /-- Nothing, which is not allowed. -/
  | missing

/-- The value a call or its surroundings supply for a parameter. -/
def supplied? (keywords : OrderedMap String String) (services : Capabilities π)
    (parameter : Parameter) : Option (ArgumentValue π) :=
  match parameter.kind with
  | .context => none
  | .capability kind => (services.get? kind).map (.service kind)
  | .text | .integer | .float | .boolean => (keywords.get? parameter.name).map .text

/-- What a parameter gets if no value is given by position. -/
def resolve (keywords : OrderedMap String String) (services : Capabilities π)
    (parameter : Parameter) : Resolution π :=
  match supplied? keywords services parameter, parameter.requirement with
  | some value, _ => .bound value
  | none, .default value => .bound (.text value)
  | none, .optional => .omitted
  | none, .required => .missing

/-- The value of a resolution. -/
def Resolution.value? : Resolution π → Option (ArgumentValue π)
  | bound value => some value
  | _ => none

/-- Whether a resolution refuses the call. -/
def Resolution.isMissing : Resolution π → Bool
  | missing => true
  | _ => false

/-- The keywords of a call that no keyword parameter has. -/
def unknownKeywords (spec : CommandSpec) (keywords : OrderedMap String String) : List String :=
  keywords.keys.filter fun name => !spec.acceptsKeyword name

/-- The values of the leading parameters. -/
def positionalValues (spec : CommandSpec) (positional : List (ArgumentValue π)) :
    List (String × ArgumentValue π) :=
  spec.parameterNames.zip positional

/-- The parameters no value is given for by position. -/
def remainingParameters (spec : CommandSpec) (positional : List (ArgumentValue π)) :
    List Parameter :=
  spec.parameters.drop positional.length

/-- The values of those among the given parameters that get one. -/
def resolvedValues (keywords : OrderedMap String String) (services : Capabilities π)
    (parameters : List Parameter) : List (String × ArgumentValue π) :=
  parameters.filterMap fun parameter =>
    (resolve keywords services parameter).value?.map fun value => (parameter.name, value)

/-- The names of the parameters that refuse the call. -/
def missingNames (keywords : OrderedMap String String) (services : Capabilities π)
    (parameters : List Parameter) : List String :=
  (parameters.filter fun parameter => (resolve keywords services parameter).isMissing).map
    Parameter.name

/-- The refusal of a call. -/
def refusal (spec : CommandSpec) (issue : ArgumentIssue) : DispatchError :=
  .badArguments spec.name issue spec.parameterNames

/-- The arguments of a call, or the first reason to refuse it: keywords that are
unknown, too many values by position, parameters without a value. -/
def bind (spec : CommandSpec) (positional : List (ArgumentValue π))
    (keywords : OrderedMap String String) (services : Capabilities π) :
    Except DispatchError (Arguments π) :=
  let unknown := unknownKeywords spec keywords
  let remaining := remainingParameters spec positional
  let missing := missingNames keywords services remaining
  if !unknown.isEmpty then .error (refusal spec (.unknown unknown))
  else if positional.length > spec.parameters.length then
    .error (refusal spec (.tooMany spec.parameters.length positional.length))
  else if !missing.isEmpty then .error (refusal spec (.missing missing))
  else
    .ok (Arguments.ofList spec.name
      (positionalValues spec positional ++ resolvedValues keywords services remaining))

end ChatCommands.Binding
