/-
# Catalogs of components

A catalog lists the components that can be made: for each the package that defines
it, its name and how it is made. A manifest decides which of them become part of a
package. Components that need parameters are listed but can never be made, because
there is nobody to supply them.
-/

import ChatCommands.Builtin
import ChatCommands.Manifest

namespace ChatCommands

/-- How a component is made. -/
inductive Maker (π : Type) where
  /-- Out of nothing. -/
  | ready (plugin : π)
  | parameterized (parameters : List String)

/-- A component that can be made. -/
structure Factory (π : Type) where
  /-- The package that defines the component. -/
  package : String
  /-- The name of the component. -/
  name : String
  /-- How the component is made. -/
  maker : Maker π

/-- Make the plugin object of a component. -/
def Factory.make {π : Type} (factory : Factory π) : Except LoadError π :=
  match factory.maker with
  | .ready plugin => .ok plugin
  | .parameterized parameters => .error (.needsParameters factory.name parameters)

/-- The components that can be made, in the order in which they were registered. -/
structure Catalog (π : Type) where
  /-- The components. -/
  factories : List (Factory π)

namespace Catalog

variable {π : Type}

/-- The components a package defines. -/
def definedIn (catalog : Catalog π) (package : String) : List (Factory π) :=
  catalog.factories.filter fun factory => factory.package == package

/-- The first component of a package with a name. -/
def findIn? (catalog : Catalog π) (package name : String) : Option (Factory π) :=
  catalog.factories.find? fun factory => factory.package == package && factory.name == name

/-- The first component with a name, in whatever package. -/
def find? (catalog : Catalog π) (name : String) : Option (Factory π) :=
  catalog.factories.find? fun factory => factory.name == name

/-- The catalog of the built-in components. -/
def builtin (wrap : Builtin → π) : Catalog π :=
  ⟨Builtin.all.map fun component => ⟨Builtin.packageName, component.name, .ready (wrap component)⟩⟩

end Catalog

namespace Package

variable {π : Type}

/-- The components a manifest asks for. A listed component that only other packages
define is an import and not asked for. -/
def wanted (catalog : Catalog π) (package : String) (manifest : Manifest) : List (Factory π) :=
  match manifest.components? with
  | none => catalog.definedIn package
  | some listed => listed.filterMap fun component => catalog.findIn? package component

/-- The failures of a manifest that lists components no package defines. -/
def unknownFailures (catalog : Catalog π) (package : String) (manifest : Manifest) :
    List LoadError :=
  (manifest.components?.getD []).filterMap fun component =>
    match catalog.find? component with
    | some _ => none
    | none => some (.unknownComponent package component)

/-- The failures of components that cannot be made. -/
def makingFailures (factories : List (Factory π)) : List LoadError :=
  factories.filterMap fun factory =>
    match factory.make with
    | .ok _ => none
    | .error error => some error

/-- The components that can be made. -/
def madeComponents [Plugin π] (factories : List (Factory π)) : List (Component π) :=
  factories.filterMap fun factory =>
    match factory.make with
    | .ok plugin => some (Component.ofPlugin factory.name plugin)
    | .error _ => none

/-- The package a manifest announces, and what could not be loaded of it. -/
def ofManifest [Plugin π] (path : String) (manifest : Manifest) (catalog : Catalog π) :
    Package π × List LoadError :=
  let name := manifest.resolvedName path
  let factories := wanted catalog name manifest
  ((Package.ofName name manifest.doc?).addAll (madeComponents factories),
    unknownFailures catalog name manifest ++ makingFailures factories)

end Package

end ChatCommands
