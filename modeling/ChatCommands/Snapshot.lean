/-
# The commands that are loaded

A snapshot holds the loaded packages and an index of their commands. The index
remembers for each command the names of the package and the component that
registered it last; the command itself is found through the packages. A package
that is replaced by another one of its name leaves its entries in the index, so a
name that is indexed need not be found.
-/

import ChatCommands.DispatchError
import ChatCommands.Package

namespace ChatCommands

/-- A command with the component and the package it belongs to. -/
structure Registration (π : Type) where
  package : Package π
  /-- The component of the package. -/
  component : Component π
  /-- The command of the component. -/
  command : CommandSpec

/-- Where a command was registered last. -/
structure IndexEntry where
  /-- The name of the package. -/
  package : String
  /-- The name of the component. -/
  component : String
deriving DecidableEq, Repr

/-- The loaded packages and the index of their commands. -/
structure Snapshot (π : Type) where
  /-- The packages by name. -/
  packages : OrderedMap String (Package π)
  /-- Where each command was registered last. -/
  index : OrderedMap String IndexEntry

namespace Snapshot

variable {π : Type}

/-- The snapshot without packages. -/
def empty : Snapshot π := ⟨.empty, .empty⟩

instance : Inhabited (Snapshot π) := ⟨empty⟩

/-- The index entries of a package, component by component. -/
def indexEntries (package : Package π) : List (String × IndexEntry) :=
  package.components.values.flatMap fun component =>
    component.commandNames.map fun command => (command, ⟨package.name, component.name⟩)

/-- The snapshot with one more package. Its commands take over the names that are
taken already. -/
def insert (snapshot : Snapshot π) (package : Package π) : Snapshot π where
  packages := snapshot.packages.insert package.name package
  index := snapshot.index.insertAll (indexEntries package)

/-- The registration an index entry leads to. -/
def resolve (snapshot : Snapshot π) (name : String) (entry : IndexEntry) :
    Except DispatchError (Registration π) :=
  match snapshot.packages.get? entry.package with
  | none => .error (.componentLookup entry.component)
  | some package =>
    match package.component? entry.component with
    | none => .error (.componentLookup entry.component)
    | some component =>
      match component.command? name with
      | none => .error (.commandLookup name)
      | some command => .ok ⟨package, component, command⟩

/-- The registration of a command. -/
def get (snapshot : Snapshot π) (name : String) : Except DispatchError (Registration π) :=
  match snapshot.index.get? name with
  | none => .error (.commandLookup name)
  | some entry => snapshot.resolve name entry

/-- The component with a name. Of several packages that have one the last counts. -/
def component (snapshot : Snapshot π) (name : String) : Except DispatchError (Component π) :=
  match snapshot.packages.values.reverse.findSome? fun package => package.component? name with
  | none => .error (.componentLookup name)
  | some component => .ok component

/-- The package with a name. -/
def package? (snapshot : Snapshot π) (name : String) : Option (Package π) :=
  snapshot.packages.get? name

/-- The indexed command names in increasing order. -/
def commandNames (snapshot : Snapshot π) : List String :=
  snapshot.index.keys.mergeSort fun first second => decide (first ≤ second)

/-- The registrations that are found, in increasing order of the command names. -/
def commands (snapshot : Snapshot π) : List (Registration π) :=
  snapshot.commandNames.filterMap fun name => (snapshot.get name).toOption

/-- The number of indexed names. -/
def size (snapshot : Snapshot π) : Nat := snapshot.index.size

/-- Whether no name is indexed. -/
def isEmpty (snapshot : Snapshot π) : Bool := snapshot.index.isEmpty

/-- The sorted names are the indexed names. -/
theorem mem_commandNames {snapshot : Snapshot π} {name : String} :
    name ∈ snapshot.commandNames ↔ name ∈ snapshot.index.keys :=
  (List.mergeSort_perm _ _).mem_iff

/-- What is found for a name is a command of a component of a loaded package. -/
theorem get_eq_ok {snapshot : Snapshot π} {name : String} {found : Registration π}
    (success : snapshot.get name = .ok found) :
    ∃ entry, snapshot.index.get? name = some entry ∧
      snapshot.packages.get? entry.package = some found.package ∧
      found.package.component? entry.component = some found.component ∧
      found.component.command? name = some found.command := by
  unfold get at success
  split at success
  · cases success
  · next entry indexed =>
    unfold resolve at success
    split at success
    · cases success
    · next package packaged =>
      split at success
      · cases success
      · next component held =>
        split at success
        · cases success
        · next command declared =>
          cases success
          exact ⟨entry, indexed, packaged, held, declared⟩

end Snapshot

end ChatCommands
