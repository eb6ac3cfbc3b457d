/-
# Loading packages

Packages are loaded from the manifests in a directory, in the order of their file
names. What is wrong with one of them is reported and does not affect the others. A
name that is taken keeps the package that was loaded first.
-/

import ChatCommands.Catalog

namespace ChatCommands

/-- What came of loading a directory. -/
structure LoadReport where
  directory : String
  /-- The names of the loaded packages, in order. -/
  packages : List String
  /-- How many commands can be looked up. -/
  commands : Nat
  /-- What could not be loaded. -/
  failures : List LoadError
deriving DecidableEq, Repr, Inhabited

/-- Whether everything could be loaded. -/
def LoadReport.isClean (report : LoadReport) : Bool := report.failures.isEmpty

/-- How far loading a directory has got. -/
structure LoadProgress (π : Type) where
  /-- The file each loaded package comes from, by the name of the package. -/
  sources : OrderedMap String String
  snapshot : Snapshot π
  /-- What could not be loaded. -/
  failures : List LoadError

namespace LoadProgress

variable {π : Type}

/-- Nothing is loaded yet. -/
def start : LoadProgress π := ⟨.empty, .empty, []⟩

/-- Report a failure. -/
def fail (progress : LoadProgress π) (failure : LoadError) : LoadProgress π :=
  { progress with failures := progress.failures ++ [failure] }

/-- Load the package of a manifest that is in order. -/
def accept [Plugin π] (catalog : Catalog π) (progress : LoadProgress π) (path : String)
    (manifest : Manifest) : LoadProgress π :=
  let (package, failures) := Package.ofManifest path manifest catalog
  { sources := progress.sources.insert package.name path
    snapshot := progress.snapshot.insert package
    failures := progress.failures ++ failures }

/-- Deal with what reading a manifest file gave. -/
def step [Plugin π] (catalog : Catalog π) (progress : LoadProgress π) (path : String)
    (outcome : Except LoadError Manifest) : LoadProgress π :=
  match outcome with
  | .error failure => progress.fail failure
  | .ok manifest =>
    if !manifest.enabled then progress
    else
      let name := manifest.resolvedName path
      match progress.sources.get? name with
      | some first => progress.fail (.manifest path (.repeatedName name first))
      | none => progress.accept catalog path manifest

/-- Load manifests one after the other. -/
def run [Plugin π] (catalog : Catalog π) (progress : LoadProgress π)
    (manifests : List (String × Except LoadError Manifest)) : LoadProgress π :=
  manifests.foldl (fun progress (path, outcome) => progress.step catalog path outcome) progress

/-- The report on a directory. -/
def report (progress : LoadProgress π) (directory : String) : LoadReport where
  directory := directory
  packages := progress.sources.keys
  commands := progress.snapshot.size
  failures := progress.failures

end LoadProgress

/-- The extension of manifest files. -/
def manifestExtension : String := "json"

/-- The manifest files in a directory, in the order of their names. -/
def manifestPaths (files : FileTree) (directory : String) : List String :=
  ((files.fileNames directory).filter fun name =>
    FilePath.extension? name == some manifestExtension).map (FilePath.join directory)

/-- Load all packages announced in a directory. A directory that does not exist holds
none. -/
def loadDirectory {π : Type} [Plugin π] (files : FileTree) (directory : String)
    (catalog : Catalog π) : LoadReport × Snapshot π :=
  let manifests := (manifestPaths files directory).map fun path => (path, Manifest.read files path)
  let progress := LoadProgress.start.run catalog manifests
  (progress.report directory, progress.snapshot)

end ChatCommands
