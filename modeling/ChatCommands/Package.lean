/-
# Components and packages

A component is a plugin object under a name, with the commands it exposes. A
package is a named collection of components. Both keep their parts in order, and a
part that is added under a name that is taken replaces the earlier one in its place.

The type `π` of plugin objects is left open: nothing here runs a command.
-/

import ChatCommands.CommandSpec
import ChatCommands.OrderedMap
import ChatCommands.Text.CharClass

namespace ChatCommands

/-- Whether a command can be registered under a name: a single word that does not
begin with an underscore. -/
def isExposedName (name : String) : Bool :=
  Text.isSingleWord name && name.toList.head? != some '_'

/-- A plugin object with the commands it exposes. -/
structure Component (π : Type) where
  name : String
  doc? : Option String
  /-- The object that runs the commands. -/
  plugin : π
  /-- The exposed commands by name. -/
  commands : OrderedMap String CommandSpec

namespace Component

variable {π : Type}

/-- The exposed commands among those that are declared. -/
def exposed (declared : List CommandSpec) : OrderedMap String CommandSpec :=
  .ofList ((declared.filter fun spec => isExposedName spec.name).map fun spec => (spec.name, spec))

/-- The component with a plugin object and the commands it declares. -/
def ofDeclared (name : String) (doc? : Option String) (plugin : π)
    (declared : List CommandSpec) : Component π :=
  ⟨name, doc?, plugin, exposed declared⟩

/-- The command with a name. -/
def command? (component : Component π) (name : String) : Option CommandSpec :=
  component.commands.get? name

/-- The names of the exposed commands, in order. -/
def commandNames (component : Component π) : List String := component.commands.keys

end Component

/-- A named collection of components. -/
structure Package (π : Type) where
  name : String
  doc? : Option String
  /-- The components by name. -/
  components : OrderedMap String (Component π)

namespace Package

variable {π : Type}

/-- The package without components. -/
def ofName (name : String) (doc? : Option String) : Package π := ⟨name, doc?, .empty⟩

/-- The package with one more component. -/
def add (package : Package π) (component : Component π) : Package π :=
  { package with components := package.components.insert component.name component }

/-- The package with components added one after the other. -/
def addAll (package : Package π) (components : List (Component π)) : Package π :=
  components.foldl add package

/-- The component with a name. -/
def component? (package : Package π) (name : String) : Option (Component π) :=
  package.components.get? name

end Package

end ChatCommands
