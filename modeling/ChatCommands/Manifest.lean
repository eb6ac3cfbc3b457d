/-
# Package manifests

A file that announces a package: its name, what it is for, which components belong
to it and whether it is to be loaded at all. Everything may be left out; a name that
is left out is taken from the file.

Members the manifest does not know are passed over unread. A known member that
occurs twice makes the manifest unreadable.
-/

import ChatCommands.Json.Syntax
import ChatCommands.LoadError
import ChatCommands.Text.Trim

namespace ChatCommands

open Json (SyntaxTree)

/-- A package manifest. -/
structure Manifest where
  /-- The name of the package. -/
  name? : Option String := none
  /-- What the package is for. -/
  doc? : Option String := none
  /-- The components to load; without a list, all that are defined in the package. -/
  components? : Option (List String) := none
  /-- Whether the package is to be loaded. -/
  enabled : Bool := true
deriving DecidableEq, Repr, Inhabited

namespace Manifest

/-! ## Reading -/

/-- The text a tree denotes. -/
def text? : SyntaxTree → Option String
  | .string content? => content?
  | _ => none

/-- What a tree denotes that may be the absent value. -/
def nullable? {α : Type} (read : SyntaxTree → Option α) : SyntaxTree → Option (Option α)
  | .null => some none
  | tree => (read tree).map some

/-- The texts an array denotes. -/
def texts? : SyntaxTree → Option (List String)
  | .array items => items.mapM text?
  | _ => none

/-- The truth value a tree denotes. -/
def truth? : SyntaxTree → Option Bool
  | .bool value => some value
  | _ => none

/-- The members a manifest knows, in their order. -/
def fields : List String := ["name", "doc", "components", "enabled"]

/-- The manifest with one of its members, read from a tree. -/
def setField? (manifest : Manifest) (field : String) (tree : SyntaxTree) : Option Manifest :=
  match field with
  | "name" => (nullable? text? tree).map fun name? => { manifest with name? := name? }
  | "doc" => (nullable? text? tree).map fun doc? => { manifest with doc? := doc? }
  | "components" =>
    (nullable? texts? tree).map fun components? => { manifest with components? := components? }
  | "enabled" => (truth? tree).map fun enabled => { manifest with enabled := enabled }
  | _ => some manifest

/-- Read members one after the other; `seen` are the known ones that have occurred. -/
def readMembers? :
    List String → Manifest → List (Option String × SyntaxTree) → Option Manifest
  | _, manifest, [] => some manifest
  | _, _, (none, _) :: _ => none
  | seen, manifest, (some key, tree) :: rest =>
    if seen.contains key then none
    else
      match manifest.setField? key tree with
      | none => none
      | some manifest =>
        readMembers? (if fields.contains key then key :: seen else seen) manifest rest

/-- Read fields given in order. -/
def readInOrder? : Manifest → List String → List SyntaxTree → Option Manifest
  | manifest, _, [] => some manifest
  | _, [], _ :: _ => none
  | manifest, field :: fields, tree :: rest =>
    (manifest.setField? field tree).bind fun manifest => readInOrder? manifest fields rest

/-- Read a manifest from a tree: an object, or an array of fields in order. -/
def ofTree? : SyntaxTree → Option Manifest
  | .object members => readMembers? [] {} members
  | .array items => readInOrder? {} fields items
  | _ => none

/-- What is wrong with the contents of a manifest. -/
def issue? (manifest : Manifest) : Option ManifestIssue :=
  if manifest.name?.any Text.isBlankText then some .blankName
  else if manifest.components?.any fun components => components.any Text.isBlankText then
    some .blankComponent
  else none

/-- Read the text of a manifest. -/
def ofText (text : String) : Except ManifestIssue Manifest :=
  match (SyntaxTree.parse? text).bind ofTree? with
  | none => .error .malformed
  | some manifest =>
    match manifest.issue? with
    | some issue => .error issue
    | none => .ok manifest

/-- Read a manifest from a file. -/
def read (files : FileTree) (path : String) : Except LoadError Manifest :=
  match files.readText path with
  | .error error => .error (.unreadable path error)
  | .ok text =>
    match ofText text with
    | .error issue => .error (.manifest path issue)
    | .ok manifest => .ok manifest

/-- The name of the package: the one that is given, or that of the file. -/
def resolvedName (manifest : Manifest) (path : String) : String :=
  manifest.name?.getD (FilePath.stem path)

end Manifest

end ChatCommands
