/-
# Substituting variables

A text in a configuration may refer to a variable of the environment by a dollar
sign and its name in braces. Substitution replaces every reference by the value of
the variable; a reference after one more dollar sign is escaped and only loses that
sign. What has been put in is not looked at again. A variable that is not set, or
set to nothing, makes the substitution fail and is named together with the place of
the text in the tree.

Names consist of capital letters, digits and underscores and do not begin with a
digit. Whatever looks different is no reference.
-/

import ChatCommands.Json
import ChatCommands.OrderedMap
import ChatCommands.Text.Pieces

namespace ChatCommands

open Text (Finder Found Piece)

/-- The variables of the environment. -/
abbrev Environment := OrderedMap String String

/-- A reference to a variable. -/
structure Reference where
  /-- Whether it stands for its own text. -/
  escaped : Bool
  /-- The name of the variable. -/
  name : List Char
deriving DecidableEq, Repr

/-- A reference to a variable that has no value. -/
structure MissingVariable where
  name : String
  /-- The place of the text that refers to it. -/
  path : String
deriving DecidableEq, Repr, Inhabited

/-- The wording of the error. -/
def MissingVariable.message (missing : MissingVariable) : String :=
  String.join ["Missing env var \"", missing.name, "\" referenced at config path: ", missing.path]

namespace Reference

/-- A character a name can begin with. -/
def isNameStart (c : Char) : Bool := c.isUpper || c == '_'

/-- A character of a name. -/
def isNameChar (c : Char) : Bool := c.isUpper || c.isDigit || c == '_'

/-- The name between the braces at the start of a text. -/
def bracedName? : List Char → Option (List Char)
  | '\x7b' :: first :: rest =>
    if isNameStart first then
      match rest.dropWhile isNameChar with
      | '\x7d' :: _ => some (first :: rest.takeWhile isNameChar)
      | _ => none
    else none
  | _ => none

/-- The finder of references. -/
def finder : Finder Reference := fun _ cs =>
  match cs with
  | '$' :: '$' :: rest => (bracedName? rest).map fun name => ⟨⟨true, name⟩, name.length + 4⟩
  | '$' :: rest => (bracedName? rest).map fun name => ⟨⟨false, name⟩, name.length + 3⟩
  | _ => none

/-- A reference as it is written without an escape. -/
def literal (name : List Char) : List Char := '$' :: '\x7b' :: name ++ ['\x7d']

end Reference

namespace Environment

/-- The value of a variable, if it has one. -/
def value? (environment : Environment) (name : List Char) : Option String :=
  match environment.get? (String.ofList name) with
  | some value => if value.isEmpty then none else some value
  | none => none

/-- What a piece of a text becomes. -/
def substitutePiece (environment : Environment) (path : String) :
    Piece Reference → Except MissingVariable (List Char)
  | .char c => .ok [c]
  | .found ⟨true, name⟩ => .ok (Reference.literal name)
  | .found ⟨false, name⟩ =>
    match environment.value? name with
    | some value => .ok value.toList
    | none => .error ⟨String.ofList name, path⟩

/-- What pieces become, put together. The first one that fails decides. -/
def substitutePieces (environment : Environment) (path : String) :
    List (Piece Reference) → Except MissingVariable (List Char)
  | [] => .ok []
  | piece :: rest =>
    match environment.substitutePiece path piece with
    | .error missing => .error missing
    | .ok first =>
      match environment.substitutePieces path rest with
      | .error missing => .error missing
      | .ok others => .ok (first ++ others)

/-- A text at a place of a tree with its references replaced. -/
def substituteText (environment : Environment) (path text : String) :
    Except MissingVariable String :=
  (environment.substitutePieces path (Text.pieces Reference.finder text.toList)).map String.ofList

/-- The place of an item of the array at a place. -/
def itemPath (path : String) (index : Nat) : String := s!"{path}[{index}]"

/-- The place of a member of the object at a place. -/
def memberPath (path key : String) : String := if path.isEmpty then key else path ++ "." ++ key

mutual

/-- A tree at a place with the references in its texts replaced. -/
def substituteAt (environment : Environment) (path : String) :
    Json → Except MissingVariable Json
  | .string text => (environment.substituteText path text).map .string
  | .array items => (environment.substituteItems path 0 items).map .array
  | .object members => (environment.substituteMembers path members).map .object
  | .null => .ok .null
  | .bool value => .ok (.bool value)
  | .number value => .ok (.number value)

/-- The items of an array from an index on. -/
def substituteItems (environment : Environment) (path : String) (index : Nat) :
    List Json → Except MissingVariable (List Json)
  | [] => .ok []
  | item :: rest =>
    match environment.substituteAt (itemPath path index) item with
    | .error missing => .error missing
    | .ok item =>
      (environment.substituteItems path (index + 1) rest).map fun others => item :: others

/-- The members of an object. -/
def substituteMembers (environment : Environment) (path : String) :
    List (String × Json) → Except MissingVariable (List (String × Json))
  | [] => .ok []
  | (key, value) :: rest =>
    match environment.substituteAt (memberPath path key) value with
    | .error missing => .error missing
    | .ok value =>
      (environment.substituteMembers path rest).map fun others => (key, value) :: others

end

/-- A tree with the references in its texts replaced. -/
def substitute (environment : Environment) (tree : Json) : Except MissingVariable Json :=
  environment.substituteAt "" tree

end Environment

/-! ## What a tree refers to -/

/-- The name an unescaped reference refers to. -/
def referredName? : Piece Reference → Option String
  | .found ⟨false, name⟩ => some (String.ofList name)
  | _ => none

/-- The names a text refers to, from left to right. -/
def referredInText (text : String) : List String :=
  (Text.pieces Reference.finder text.toList).filterMap referredName?

mutual

/-- The names a tree refers to, in the order in which they are met. -/
def referredNames : Json → List String
  | .string text => referredInText text
  | .array items => referredInItems items
  | .object members => referredInMembers members
  | .null | .bool _ | .number _ => []

/-- The names the items of an array refer to. -/
def referredInItems : List Json → List String
  | [] => []
  | item :: rest => referredNames item ++ referredInItems rest

/-- The names the members of an object refer to. -/
def referredInMembers : List (String × Json) → List String
  | [] => []
  | (_, value) :: rest => referredNames value ++ referredInMembers rest

end

/-- Remove every name that equals the one before it. -/
def withoutRepeats : List String → List String
  | [] => []
  | name :: rest =>
    match withoutRepeats rest with
    | next :: others => if name = next then next :: others else name :: next :: others
    | [] => [name]

/-- The variables a tree refers to, each once and in increasing order. -/
def referencedVariables (tree : Json) : List String :=
  withoutRepeats ((referredNames tree).mergeSort fun first second => decide (first ≤ second))

end ChatCommands
