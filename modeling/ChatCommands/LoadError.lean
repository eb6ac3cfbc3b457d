/-
# Errors of loading

What can be wrong with a package or a component when packages are loaded. None of
these stops the loading of the rest.
-/

import ChatCommands.FileTree

namespace ChatCommands

/-- What is wrong with a package manifest. -/
inductive ManifestIssue where
  /-- It cannot be read as a manifest. -/
  | malformed
  /-- It gives a blank name. -/
  | blankName
  /-- It lists a component with a blank name. -/
  | blankComponent
  /-- Its name is that of a package loaded from another file. -/
  | repeatedName (name first : String)
deriving DecidableEq, Repr, Inhabited

/-- The wording of a manifest issue. What a reader would say of a text that is no
manifest, and of the place where it gave up, is not modelled; a fixed text stands
for it. -/
def ManifestIssue.message : ManifestIssue → String
  | malformed => "<json error>"
  | blankName => "Package manifest has an empty 'name'"
  | blankComponent => "Package manifest lists an empty component name"
  | repeatedName name first => "package name " ++ name ++ " is already loaded from " ++ first

/-- Why a package or a component is not loaded. -/
inductive LoadError where
  /-- The component cannot be made without parameters. -/
  | needsParameters (component : String) (parameters : List String)
  /-- No component of that name is known. -/
  | unknownComponent (package component : String)
  /-- The manifest is of no use. -/
  | manifest (path : String) (issue : ManifestIssue)
  /-- The file cannot be read. -/
  | unreadable (path : String) (error : FileError)
deriving DecidableEq, Repr, Inhabited

namespace LoadError

/-- The name of the kind of error. -/
def kind : LoadError → String
  | needsParameters .. => "InvalidInitializer"
  | unknownComponent .. => "UnknownComponent"
  | manifest .. => "Manifest"
  | unreadable .. => "Io"

/-- The wording of an error. -/
def message : LoadError → String
  | needsParameters component parameters =>
    String.join
      ["Component ", component, " requires initialization parameters (",
        String.intercalate ", " parameters, "), which are not supported."]
  | unknownComponent package component =>
    String.join ["Package ", package, " lists unknown component ", component]
  | manifest path issue => String.join ["Invalid package manifest ", path, ": ", issue.message]
  | unreadable path error => String.join ["Failed to read ", path, ": ", error.message]

end LoadError

end ChatCommands
