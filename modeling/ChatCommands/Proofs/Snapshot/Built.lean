/-
# Packages that are put together

Packages come about by adding components of plugin objects one after the other, and
snapshots by adding packages. No other component and no other package is ever looked up,
so what every component of a plugin object satisfies holds of every command that is found.
Loading a directory is one way to put a snapshot together.
-/

import ChatCommands.Loading
import ChatCommands.Proofs.OrderedMap

namespace ChatCommands

variable {π : Type} [Plugin π]

/-! ## Components -/

/-- A plugin object exposes its commands under their own names, none of which is
reserved. -/
theorem Component.command?_ofPlugin {component name : String} {plugin : π}
    {command : CommandSpec}
    (found : (Component.ofPlugin component plugin).command? name = some command) :
    command ∈ Plugin.commands plugin ∧ command.name = name ∧ isExposedName name = true := by
  have listed := OrderedMap.mem_of_get?_ofList found
  rw [List.mem_map] at listed
  obtain ⟨spec, declared, same⟩ := listed
  rw [List.mem_filter] at declared
  cases same
  exact ⟨declared.1, rfl, declared.2⟩

/-! ## Packages -/

/-- The packages that are put together from components of plugin objects. -/
inductive Package.IsBuilt : Package π → Prop where
  | ofName (name : String) (doc? : Option String) : IsBuilt (.ofName name doc?)
  | add {package : Package π} (built : IsBuilt package) (name : String) (plugin : π) :
    IsBuilt (package.add (.ofPlugin name plugin))

namespace Package

theorem IsBuilt.addAll {package : Package π} (built : package.IsBuilt)
    {components : List (Component π)}
    (made : ∀ component ∈ components, ∃ name plugin, component = .ofPlugin name plugin) :
    (package.addAll components).IsBuilt := by
  induction components generalizing package with
  | nil => exact built
  | cons component rest ih =>
      obtain ⟨name, plugin, rfl⟩ := made component List.mem_cons_self
      exact ih (built.add name plugin) fun other member =>
        made other (List.mem_cons_of_mem _ member)

/-- The components of a package that is put together are those of plugin objects, under
their own names. -/
theorem IsBuilt.component?_eq_some {package : Package π} (built : package.IsBuilt)
    {name : String} {component : Component π}
    (found : package.component? name = some component) :
    ∃ plugin, component = .ofPlugin name plugin := by
  induction built with
  | ofName => cases found
  | @add package built added plugin ih =>
      rw [component?, Package.add, OrderedMap.get?_insert] at found
      split at found
      · next same =>
        cases found
        exact ⟨plugin, by rw [← same]; rfl⟩
      · exact ih found

theorem isBuilt_ofManifest (path : String) (manifest : Manifest) (catalog : Catalog π) :
    (ofManifest path manifest catalog).1.IsBuilt := by
  apply (IsBuilt.ofName _ _).addAll
  intro component member
  rw [madeComponents, List.mem_filterMap] at member
  obtain ⟨factory, -, made⟩ := member
  split at made
  · next plugin _ =>
    cases made
    exact ⟨factory.name, plugin, rfl⟩
  · cases made

end Package

/-! ## Snapshots -/

/-- The snapshots that are put together from packages. -/
inductive Snapshot.IsBuilt : Snapshot π → Prop where
  | empty : IsBuilt .empty
  | insert {snapshot : Snapshot π} {package : Package π} (built : IsBuilt snapshot)
    (new : package.IsBuilt) : IsBuilt (snapshot.insert package)

namespace Snapshot

theorem IsBuilt.get?_packages {snapshot : Snapshot π} (built : snapshot.IsBuilt)
    {name : String} {package : Package π} (found : snapshot.packages.get? name = some package) :
    package.name = name ∧ package.IsBuilt := by
  induction built with
  | empty => cases found
  | @insert snapshot added built new ih =>
      rw [Snapshot.insert, OrderedMap.get?_insert] at found
      split at found
      · next same =>
        cases found
        exact ⟨same, new⟩
      · exact ih found

/-- What is found for a name is the command of that name, exposed by the component of a
plugin object. -/
theorem IsBuilt.get_eq_ok {snapshot : Snapshot π} (built : snapshot.IsBuilt) {name : String}
    {found : Registration π} (success : snapshot.get name = .ok found) :
    found.command ∈ Plugin.commands found.component.plugin ∧ found.command.name = name ∧
      isExposedName name = true := by
  obtain ⟨entry, -, packaged, held, listed⟩ := Snapshot.get_eq_ok success
  obtain ⟨plugin, same⟩ := (built.get?_packages packaged).2.component?_eq_some held
  rw [same] at listed ⊢
  exact Component.command?_ofPlugin listed

end Snapshot

/-! ## Loading -/

namespace LoadProgress

theorem isBuilt_step (catalog : Catalog π) {progress : LoadProgress π}
    (built : progress.snapshot.IsBuilt) (path : String) (outcome : Except LoadError Manifest) :
    (progress.step catalog path outcome).snapshot.IsBuilt := by
  unfold step
  split
  · exact built
  · next manifest =>
    split
    · exact built
    · simp only
      split
      · exact built
      · exact built.insert (Package.isBuilt_ofManifest path manifest catalog)

theorem isBuilt_run (catalog : Catalog π) {progress : LoadProgress π}
    (built : progress.snapshot.IsBuilt) (manifests : List (String × Except LoadError Manifest)) :
    (progress.run catalog manifests).snapshot.IsBuilt := by
  induction manifests generalizing progress with
  | nil => exact built
  | cons manifest rest ih => exact ih (isBuilt_step catalog built manifest.1 manifest.2)

end LoadProgress

/-- The packages of a directory are put together from components of plugin objects. -/
theorem isBuilt_loadDirectory (files : FileTree) (directory : String) (catalog : Catalog π) :
    (loadDirectory files directory catalog).2.IsBuilt :=
  LoadProgress.isBuilt_run catalog .empty _

end ChatCommands
