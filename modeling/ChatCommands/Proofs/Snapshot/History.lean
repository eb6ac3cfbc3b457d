/-
# Lookups after any history of registrations

A registry is changed in two ways: a package is added to what is held, or a directory is
loaded and replaces it. The index keeps the entries of packages that have been replaced
since, so a lookup goes through what was exposed at some time and what is held now, and the
two need not agree.

Main statement: `get_snapshotAfter`. The entry of a name was made by the package inserted
last, since the last load, among those that expose it; it is looked up again in the package
that was inserted last under the name of that one.
-/

import ChatCommands.Proofs.Snapshot.Loaded

namespace ChatCommands

variable {π : Type}

/-- A way in which a registry is changed. -/
inductive RegistryOperation (π : Type) where
  | add (package : Package π)
  | load (files : FileTree) (directory : String) (catalog : Catalog π)

namespace Snapshot

/-- Of several packages with one name the last is held. -/
theorem package?_insertAll (packages : List (Package π)) (name : String) :
    ((empty : Snapshot π).insertAll packages).package? name =
      (packages.filter fun package => package.name = name).getLast? := by
  rw [package?]
  induction packages using List.reverseRecOn with
  | nil => rfl
  | append_singleton packages package ih =>
      rw [insertAll_concat, insert, OrderedMap.get?_insert, ih, List.filter_append,
        List.getLast?_append]
      by_cases named : package.name = name
      · simp [named]
      · simp [named]

variable [Plugin π]

/-- What a registry holds after one more operation. -/
def afterOperation (snapshot : Snapshot π) : RegistryOperation π → Snapshot π
  | .add package => snapshot.insert package
  | .load files directory catalog => (loadDirectory files directory catalog).2

/-- What a new registry holds after a history of operations. -/
def snapshotAfter (history : List (RegistryOperation π)) : Snapshot π :=
  history.foldl afterOperation .empty

/-- The packages inserted since the last load, after one more operation. A load starts over
with the packages it inserts itself. -/
def insertionsAfter (inserted : List (Package π)) : RegistryOperation π → List (Package π)
  | .add package => inserted ++ [package]
  | .load files directory catalog => loadedPackages files directory catalog

/-- The packages that are inserted by the last load of a history and by the additions after
it, in this order. -/
def insertions (history : List (RegistryOperation π)) : List (Package π) :=
  history.foldl insertionsAfter []

theorem insertAll_insertionsAfter (inserted : List (Package π))
    (operation : RegistryOperation π) :
    (empty.insertAll inserted).afterOperation operation =
      empty.insertAll (insertionsAfter inserted operation) := by
  cases operation with
  | add package => exact (insertAll_concat empty inserted package).symm
  | load files directory catalog => exact snapshot_loadDirectory files directory catalog

/-- A history leaves what its last insertions make. -/
theorem snapshotAfter_eq_insertAll (history : List (RegistryOperation π)) :
    snapshotAfter history = empty.insertAll (insertions history) := by
  induction history using List.reverseRecOn with
  | nil => rfl
  | append_singleton history operation ih =>
      rw [snapshotAfter] at ih
      rw [snapshotAfter, insertions, List.foldl_append, List.foldl_append, ih]
      exact insertAll_insertionsAfter _ operation

/-- If every package that is added is put together from components of plugin objects, so is
what the history leaves. -/
theorem isBuilt_snapshotAfter {history : List (RegistryOperation π)}
    (added : ∀ package, .add package ∈ history → package.IsBuilt) :
    (snapshotAfter history).IsBuilt := by
  induction history using List.reverseRecOn with
  | nil => exact .empty
  | append_singleton history operation ih =>
      rw [snapshotAfter, List.foldl_append]
      cases operation with
      | add package =>
          exact (ih fun earlier member => added earlier (List.mem_append_left _ member)).insert
            (added package (List.mem_append_right _ List.mem_cons_self))
      | load files directory catalog => exact isBuilt_loadDirectory files directory catalog

/-- After any history, a name is looked up as the last inserted package that exposes it and
the last of its components that does have recorded it, in the package that is held by now
under the name of that package, which is the last one inserted under it. -/
theorem get_snapshotAfter (history : List (RegistryOperation π)) (name : String) :
    (∀ owner, (snapshotAfter history).package? owner =
      ((insertions history).filter fun package => package.name = owner).getLast?) ∧
    (snapshotAfter history).get name =
      match lastExposing? (insertions history) name with
      | none => .error (.commandLookup name)
      | some (recorded, recorder) =>
        match (snapshotAfter history).package? recorded.name with
        | none => .error (.componentLookup recorder.name)
        | some held =>
          match held.component? recorder.name with
          | none => .error (.componentLookup recorder.name)
          | some component =>
            match component.command? name with
            | none => .error (.commandLookup name)
            | some command => .ok ⟨held, component, command⟩ := by
  rw [snapshotAfter_eq_insertAll]
  refine ⟨package?_insertAll (insertions history), ?_⟩
  have indexed := get?_index_insertAll (insertions history) name
  cases last : lastExposing? (insertions history) name with
  | none =>
      rw [last, Option.map_none] at indexed
      rw [get, indexed]
  | some exposing =>
      rw [last, Option.map_some] at indexed
      rw [get, indexed]
      rfl

end Snapshot

end ChatCommands
