/-
# What the index of a snapshot holds

The index names, for every command, the package inserted last among those that expose it,
and within this package the last of the components that do. This holds after any
insertions, also if packages replace one another; only to look the entry up again it takes
that the names of the packages are distinct, because an entry holds names and not the
package it was made for.

Main statements: `get?_index_insertAll` for any insertions, and `get_insertAll` for
packages of distinct names, which makes every indexed name resolvable.
-/

import ChatCommands.Proofs.Snapshot.Built
import Mathlib.Data.List.Induction

namespace ChatCommands

variable {π : Type}

/-! ## Exposing a command -/

/-- Whether one of the commands of a component has the name. -/
def Component.exposes (component : Component π) (name : String) : Bool :=
  component.commands.contains name

/-- Whether one of the components of a package exposes the name. -/
def Package.exposes (package : Package π) (name : String) : Bool :=
  package.components.values.any fun component => component.exposes name

theorem Component.exposes_iff {component : Component π} {name : String} :
    component.exposes name = true ↔ name ∈ component.commandNames :=
  OrderedMap.contains_eq_true_iff component.commands name

theorem Package.exposes_iff {package : Package π} {name : String} :
    package.exposes name = true ↔
      ∃ component ∈ package.components.values, name ∈ component.commandNames := by
  simp only [exposes, List.any_eq_true, Component.exposes_iff]

namespace Package

/-- The last component of a package that exposes a name. -/
def lastExposing? (package : Package π) (name : String) : Option (Component π) :=
  (package.components.values.filter fun component => component.exposes name).getLast?

theorem isSome_lastExposing?_iff {package : Package π} {name : String} :
    (package.lastExposing? name).isSome = true ↔ package.exposes name = true := by
  rw [lastExposing?, List.getLast?_isSome, ne_eq, List.filter_eq_nil_iff, exposes,
    List.any_eq_true]
  push Not
  rfl

end Package

namespace Snapshot

/-! ## One insertion -/

theorem find?_reverse_map_const (names : List String) (entry : IndexEntry) (name : String) :
    OrderedMap.find? name (names.map fun command => (command, entry)).reverse =
      if name ∈ names then some entry else none := by
  induction names with
  | nil => rfl
  | cons first rest ih =>
      rw [List.map_cons, List.reverse_cons, OrderedMap.find?_append, ih]
      by_cases later : name ∈ rest
      · simp [later]
      · by_cases here : first = name
        · simp [later, here, OrderedMap.find?]
        · simp [later, here, Ne.symm here, OrderedMap.find?]

/-- Of the components of a package the last one that exposes a name gets the entry. -/
theorem find?_reverse_indexEntries (package : Package π) (name : String) :
    OrderedMap.find? name (indexEntries package).reverse =
      (package.lastExposing? name).map fun component => ⟨package.name, component.name⟩ := by
  rw [indexEntries, Package.lastExposing?]
  induction package.components.values using List.reverseRecOn with
  | nil => rfl
  | append_singleton components component ih =>
      rw [List.flatMap_append, List.reverse_append, OrderedMap.find?_append, ih,
        List.flatMap_singleton, find?_reverse_map_const, List.filter_append,
        List.getLast?_append]
      by_cases exposed : component.exposes name = true
      · rw [if_pos (Component.exposes_iff.mp exposed)]
        simp [exposed]
      · rw [if_neg (mt Component.exposes_iff.mpr exposed)]
        simp [exposed]

/-! ## Any insertions -/

/-- The snapshot after packages are inserted one after the other. -/
def insertAll (snapshot : Snapshot π) (packages : List (Package π)) : Snapshot π :=
  packages.foldl insert snapshot

/-- The last of the packages that exposes a name, with the last of its components that
does. -/
def lastExposing? (packages : List (Package π)) (name : String) :
    Option (Package π × Component π) :=
  (packages.filter fun package => package.exposes name).getLast?.bind fun package =>
    (package.lastExposing? name).map fun component => (package, component)

theorem insertAll_concat (snapshot : Snapshot π) (packages : List (Package π))
    (package : Package π) :
    snapshot.insertAll (packages ++ [package]) = (snapshot.insertAll packages).insert package := by
  rw [insertAll, List.foldl_append]
  rfl

theorem lastExposing?_concat (packages : List (Package π)) (package : Package π)
    (name : String) :
    lastExposing? (packages ++ [package]) name =
      ((package.lastExposing? name).map fun component => (package, component)).or
        (lastExposing? packages name) := by
  rw [lastExposing?, List.filter_append, List.getLast?_append]
  by_cases exposed : package.exposes name = true
  · obtain ⟨component, last⟩ := Option.isSome_iff_exists.mp
      (Package.isSome_lastExposing?_iff.mpr exposed)
    simp [exposed, last]
  · have none : package.lastExposing? name = none := by
      rw [← Option.not_isSome_iff_eq_none]
      exact mt Package.isSome_lastExposing?_iff.mp exposed
    simp [exposed, none, lastExposing?]

/-- The index leads to the last package and component that expose the name. -/
theorem get?_index_insertAll (packages : List (Package π)) (name : String) :
    ((empty : Snapshot π).insertAll packages).index.get? name =
      (lastExposing? packages name).map fun (package, component) =>
        ⟨package.name, component.name⟩ := by
  induction packages using List.reverseRecOn with
  | nil => rfl
  | append_singleton packages package ih =>
      rw [insertAll_concat, insert, OrderedMap.get?_insertAll, ih, find?_reverse_indexEntries,
        lastExposing?_concat]
      cases package.lastExposing? name with
      | none => rfl
      | some component => rfl

theorem lastExposing?_eq_some_iff {packages : List (Package π)} {name : String}
    {package : Package π} {component : Component π} :
    lastExposing? packages name = some (package, component) ↔
      (packages.filter fun package => package.exposes name).getLast? = some package ∧
        package.lastExposing? name = some component := by
  simp only [lastExposing?, Option.bind_eq_some_iff, Option.map_eq_some_iff, Prod.mk.injEq]
  constructor
  · rintro ⟨found, packageLast, held, componentLast, rfl, rfl⟩
    exact ⟨packageLast, componentLast⟩
  · rintro ⟨packageLast, componentLast⟩
    exact ⟨package, packageLast, component, componentLast, rfl, rfl⟩

theorem isSome_lastExposing?_iff {packages : List (Package π)} {name : String} :
    (lastExposing? packages name).isSome = true ↔
      ∃ package ∈ packages, package.exposes name = true := by
  constructor
  · intro found
    obtain ⟨⟨package, component⟩, last⟩ := Option.isSome_iff_exists.mp found
    have member := List.mem_of_getLast? (lastExposing?_eq_some_iff.mp last).1
    rw [List.mem_filter] at member
    exact ⟨package, member⟩
  · rintro ⟨package, member, exposed⟩
    have listed : package ∈ packages.filter fun package => package.exposes name :=
      List.mem_filter.mpr ⟨member, exposed⟩
    obtain ⟨last, lastIs⟩ := Option.isSome_iff_exists.mp
      (List.getLast?_isSome.mpr (List.ne_nil_of_mem listed))
    have lastExposes := (List.mem_filter.mp (List.mem_of_getLast? lastIs)).2
    rw [lastExposing?, lastIs, Option.bind_some, Option.isSome_map]
    exact Package.isSome_lastExposing?_iff.mpr lastExposes

/-- A name is indexed exactly if one of the packages exposes it. -/
theorem mem_keys_index_insertAll_iff {packages : List (Package π)} {name : String} :
    name ∈ ((empty : Snapshot π).insertAll packages).index.keys ↔
      ∃ package ∈ packages, package.exposes name = true := by
  rw [← OrderedMap.contains_eq_true_iff, OrderedMap.contains, get?_index_insertAll,
    Option.isSome_map, isSome_lastExposing?_iff]

/-! ## Looking names up again -/

theorem packages_insertAll (snapshot : Snapshot π) (packages : List (Package π)) :
    (snapshot.insertAll packages).packages =
      snapshot.packages.insertAll (packages.map fun package => (package.name, package)) := by
  induction packages generalizing snapshot with
  | nil => rfl
  | cons package rest ih => exact ih (snapshot.insert package)

variable {packages : List (Package π)}

/-- Packages with distinct names are all kept, in order. -/
theorem entries_packages_insertAll (distinct : (packages.map Package.name).Nodup) :
    ((empty : Snapshot π).insertAll packages).packages.entries =
      packages.map fun package => (package.name, package) := by
  rw [packages_insertAll]
  apply OrderedMap.entries_ofList
  rw [List.map_map]
  exact distinct

theorem values_packages_insertAll (distinct : (packages.map Package.name).Nodup) :
    ((empty : Snapshot π).insertAll packages).packages.values = packages := by
  rw [OrderedMap.values, entries_packages_insertAll distinct, List.map_map]
  exact List.map_id packages

theorem get?_packages_insertAll (distinct : (packages.map Package.name).Nodup)
    {package : Package π} (member : package ∈ packages) :
    ((empty : Snapshot π).insertAll packages).packages.get? package.name = some package := by
  rw [OrderedMap.get?_eq_some_iff, entries_packages_insertAll distinct]
  exact List.mem_map_of_mem member

end Snapshot

variable [Plugin π]

/-- A component of a package that is put together is found under its own name. -/
theorem Package.IsBuilt.component?_of_mem_values {package : Package π} (built : package.IsBuilt)
    {component : Component π} (member : component ∈ package.components.values) :
    package.component? component.name = some component := by
  obtain ⟨⟨key, value⟩, entry, rfl⟩ := List.mem_map.mp member
  have found := (OrderedMap.get?_eq_some_iff package.components key value).mpr entry
  obtain ⟨plugin, same⟩ := built.component?_eq_some found
  have named : value.name = key := by rw [same]; rfl
  rw [named]
  exact found

/-- Every name that one of the packages exposes is found, in the last package and component
that expose it. -/
theorem Snapshot.get_insertAll {packages : List (Package π)}
    (distinct : (packages.map Package.name).Nodup) (built : ∀ package ∈ packages, package.IsBuilt)
    {name : String} {package : Package π} {component : Component π}
    (last : lastExposing? packages name = some (package, component)) :
    ∃ command, component.command? name = some command ∧ command.name = name ∧
      ((empty : Snapshot π).insertAll packages).get name = .ok ⟨package, component, command⟩ := by
  have indexed := get?_index_insertAll packages name
  rw [last, Option.map_some] at indexed
  obtain ⟨packageLast, componentLast⟩ := lastExposing?_eq_some_iff.mp last
  have packageIn := List.mem_filter.mp (List.mem_of_getLast? packageLast)
  have componentIn := List.mem_filter.mp (List.mem_of_getLast? componentLast)
  have isBuilt := built package packageIn.1
  have held := isBuilt.component?_of_mem_values componentIn.1
  obtain ⟨command, declared⟩ : ∃ command, component.command? name = some command :=
    Option.isSome_iff_exists.mp componentIn.2
  obtain ⟨plugin, same⟩ := isBuilt.component?_eq_some held
  refine ⟨command, declared, ?_, ?_⟩
  · rw [same] at declared
    exact (Component.command?_ofPlugin declared).2.1
  · simp only [get, indexed, resolve, get?_packages_insertAll distinct packageIn.1, held, declared]

end ChatCommands
