/-
# What loading a directory leaves

Loading inserts the packages of the accepted manifests, in the order of the file names. A
manifest whose package name is taken is not accepted, so the names are distinct, and what
the index says can be looked up again.

Main statement: `loadDirectory_indexes_last`. A name is indexed exactly if a loaded package
exposes it, and looking it up gives the last package and the last component that do.
-/

import ChatCommands.Proofs.FileTree
import ChatCommands.Proofs.Snapshot.Index

namespace ChatCommands

variable {π : Type}

/-! ## Packages -/

namespace Package

theorem name_addAll (package : Package π) (components : List (Component π)) :
    (package.addAll components).name = package.name := by
  induction components generalizing package with
  | nil => rfl
  | cons component rest ih => exact ih (package.add component)

variable [Plugin π]

/-- The package a manifest announces. -/
def announced (catalog : Catalog π) (source : String × Manifest) : Package π :=
  (ofManifest source.1 source.2 catalog).1

theorem name_announced (catalog : Catalog π) (source : String × Manifest) :
    (announced catalog source).name = source.2.resolvedName source.1 :=
  name_addAll _ _

theorem map_name_announced (catalog : Catalog π) (sources : List (String × Manifest)) :
    (sources.map (announced catalog)).map name =
      sources.map fun source => source.2.resolvedName source.1 := by
  rw [List.map_map]
  exact List.map_congr_left fun source _ => name_announced catalog source

end Package

/-! ## Accepted manifests -/

namespace LoadProgress

variable [Plugin π]

/-- The manifests that are accepted when some package names are taken: those that are in
order, enabled, and give a new name. -/
def accepted (taken : List String) :
    List (String × Except LoadError Manifest) → List (String × Manifest)
  | [] => []
  | (_, .error _) :: rest => accepted taken rest
  | (path, .ok manifest) :: rest =>
    if manifest.enabled ∧ manifest.resolvedName path ∉ taken then
      (path, manifest) :: accepted (taken ++ [manifest.resolvedName path]) rest
    else accepted taken rest

theorem accepted_sublist (taken : List String)
    (manifests : List (String × Except LoadError Manifest)) :
    ((accepted taken manifests).map fun source => (source.1, Except.ok source.2)).Sublist
      manifests := by
  induction manifests generalizing taken with
  | nil => exact .slnil
  | cons manifest rest ih =>
      obtain ⟨path, outcome⟩ := manifest
      cases outcome with
      | error failure => exact (ih taken).cons _
      | ok manifest =>
          rw [accepted]
          split
          · exact (ih _).cons_cons _
          · exact (ih taken).cons _

/-- A manifest that is not accepted adds no package and takes no name. -/
theorem step_of_not_accepted (catalog : Catalog π) (progress : LoadProgress π) (path : String)
    {manifest : Manifest}
    (refused : ¬(manifest.enabled ∧ manifest.resolvedName path ∉ progress.sources.keys)) :
    (progress.step catalog path (.ok manifest)).snapshot = progress.snapshot ∧
      (progress.step catalog path (.ok manifest)).sources = progress.sources := by
  cases enabled : manifest.enabled with
  | false => simp [step, enabled]
  | true =>
      cases taken : progress.sources.get? (manifest.resolvedName path) with
      | none =>
          rw [OrderedMap.get?_eq_none_iff] at taken
          exact absurd ⟨enabled, taken⟩ refused
      | some first => simp [step, enabled, taken, fail]

theorem step_of_accepted (catalog : Catalog π) (progress : LoadProgress π) (path : String)
    {manifest : Manifest} (enabled : manifest.enabled = true)
    (new : manifest.resolvedName path ∉ progress.sources.keys) :
    (progress.step catalog path (.ok manifest)).snapshot =
        progress.snapshot.insert (Package.announced catalog (path, manifest)) ∧
      (progress.step catalog path (.ok manifest)).sources.keys =
        progress.sources.keys ++ [manifest.resolvedName path] := by
  have free := (OrderedMap.get?_eq_none_iff _ _).mpr new
  have named := Package.name_announced catalog (path, manifest)
  simp only [step, enabled, Bool.not_true, Bool.false_eq_true, if_false, free, accept]
  refine ⟨rfl, ?_⟩
  rw [Package.announced] at named
  rw [OrderedMap.keys_insert, named, if_neg new]

/-- Loading inserts the packages of the accepted manifests and takes their names. -/
theorem run_eq (catalog : Catalog π) (progress : LoadProgress π)
    (manifests : List (String × Except LoadError Manifest)) :
    (progress.run catalog manifests).snapshot =
        progress.snapshot.insertAll
          ((accepted progress.sources.keys manifests).map (Package.announced catalog)) ∧
      (progress.run catalog manifests).sources.keys =
        progress.sources.keys ++
          (accepted progress.sources.keys manifests).map
            fun source => source.2.resolvedName source.1 := by
  induction manifests generalizing progress with
  | nil => exact ⟨rfl, (List.append_nil _).symm⟩
  | cons manifest rest ih =>
      obtain ⟨path, outcome⟩ := manifest
      cases outcome with
      | error failure => exact ih (progress.fail failure)
      | ok manifest =>
          have later := ih (progress.step catalog path (.ok manifest))
          by_cases chosen :
              manifest.enabled ∧ manifest.resolvedName path ∉ progress.sources.keys
          · obtain ⟨snapshot_eq, keys_eq⟩ :=
              step_of_accepted catalog progress path chosen.1 chosen.2
            rw [snapshot_eq, keys_eq] at later
            rw [accepted, if_pos chosen, List.map_cons, List.map_cons]
            refine ⟨later.1, later.2.trans ?_⟩
            rw [List.append_assoc, List.singleton_append]
          · obtain ⟨snapshot_eq, sources_eq⟩ :=
              step_of_not_accepted catalog progress path chosen
            rw [snapshot_eq, sources_eq] at later
            rw [accepted, if_neg chosen]
            exact later

/-- The packages of accepted manifests have distinct names. -/
theorem nodup_name_announced (catalog : Catalog π)
    (manifests : List (String × Except LoadError Manifest)) :
    (((accepted [] manifests).map (Package.announced catalog)).map Package.name).Nodup := by
  have keys_eq := (run_eq catalog start manifests).2
  have distinct := (start.run catalog manifests).sources.nodup_keys
  rw [keys_eq] at distinct
  rw [Package.map_name_announced]
  exact distinct

end LoadProgress

/-! ## Directories -/

/-- In whatever order a directory is listed, its manifests are in the order of their names. -/
theorem manifestPaths_eq {files : FileTree} {directory : String} (names : List String)
    (isDirectory : files.isDirectory directory = true)
    (listed : names.Perm (files.listing (files.placeOf directory)))
    (sorted : names.Pairwise (· ≤ ·)) :
    manifestPaths files directory = (names.filter fun name =>
      FilePath.extension? name == some manifestExtension).map (FilePath.join directory) := by
  rw [manifestPaths, FileTree.fileNames_eq (FileTree.find_of_isDirectory isDirectory) listed sorted]

/-- The manifests in a directory that are accepted, in the order of their files. -/
def acceptedManifests (files : FileTree) (directory : String) : List (String × Manifest) :=
  LoadProgress.accepted [] <|
    (manifestPaths files directory).map fun path => (path, Manifest.read files path)

theorem paths_acceptedManifests_sublist (files : FileTree) (directory : String) :
    ((acceptedManifests files directory).map Prod.fst).Sublist
      (manifestPaths files directory) := by
  have read := (LoadProgress.accepted_sublist []
    ((manifestPaths files directory).map fun path => (path, Manifest.read files path))).map
      Prod.fst
  rw [List.map_map, List.map_map] at read
  exact (List.map_id (manifestPaths files directory)) ▸ read

theorem Snapshot.length_commands {snapshot : Snapshot π}
    (resolvable : ∀ name ∈ snapshot.index.keys, ∃ found, snapshot.get name = .ok found) :
    snapshot.commands.length = snapshot.size := by
  have all : ∀ name ∈ snapshot.commandNames, (snapshot.get name).toOption.isSome = true := by
    intro name listed
    obtain ⟨found, success⟩ := resolvable name (Snapshot.mem_commandNames.mp listed)
    rw [success]
    rfl
  rw [commands, List.length_filterMap_eq_countP, List.countP_eq_length.mpr all, commandNames,
    List.length_mergeSort, OrderedMap.length_keys, size]

section

variable [Plugin π] (files : FileTree) (directory : String) (catalog : Catalog π)

/-- The packages that loading a directory inserts. -/
def loadedPackages : List (Package π) :=
  (acceptedManifests files directory).map (Package.announced catalog)

theorem snapshot_loadDirectory :
    (loadDirectory files directory catalog).2 =
      Snapshot.empty.insertAll (loadedPackages files directory catalog) :=
  (LoadProgress.run_eq catalog .start _).1

theorem packages_report_loadDirectory :
    (loadDirectory files directory catalog).1.packages =
      (loadedPackages files directory catalog).map Package.name := by
  rw [loadedPackages, Package.map_name_announced]
  exact (LoadProgress.run_eq catalog .start _).2

theorem nodup_name_loadedPackages :
    ((loadedPackages files directory catalog).map Package.name).Nodup :=
  LoadProgress.nodup_name_announced catalog _

/-- Loading a directory leaves the packages it inserts, each of them and in their order. -/
theorem values_packages_loadDirectory :
    (loadDirectory files directory catalog).2.packages.values =
      loadedPackages files directory catalog := by
  rw [snapshot_loadDirectory,
    Snapshot.values_packages_insertAll (nodup_name_loadedPackages files directory catalog)]

theorem isBuilt_of_mem_loadedPackages :
    ∀ package ∈ loadedPackages files directory catalog, package.IsBuilt := by
  intro package member
  obtain ⟨source, -, rfl⟩ := List.mem_map.mp member
  exact Package.isBuilt_ofManifest source.1 source.2 catalog

/-- Loading a directory indexes a name exactly if a component of a loaded package exposes it,
and the name is then found: in the last of these packages, which are in the order of the
file names, and there in the last component that exposes it. -/
theorem loadDirectory_indexes_last :
    let report := (loadDirectory files directory catalog).1
    let snapshot := (loadDirectory files directory catalog).2
    snapshot.packages.values =
      (acceptedManifests files directory).map (Package.announced catalog) ∧
    ((acceptedManifests files directory).map Prod.fst).Sublist (manifestPaths files directory) ∧
    (files.fileNames directory).Pairwise (· ≤ ·) ∧
    (∀ name, name ∈ snapshot.index.keys ↔ ∃ package ∈ snapshot.packages.values,
      ∃ component ∈ package.components.values, name ∈ component.commandNames) ∧
    (∀ name ∈ snapshot.index.keys, ∃ found, snapshot.get name = .ok found ∧
      (snapshot.packages.values.filter fun package => package.exposes name).getLast? =
        some found.package ∧
      (found.package.components.values.filter fun component =>
        component.exposes name).getLast? = some found.component ∧
      found.component.command? name = some found.command ∧ found.command.name = name) ∧
    report.packages = snapshot.packages.values.map Package.name ∧
    report.commands = snapshot.size ∧ snapshot.commands.length = snapshot.size := by
  intro report snapshot
  have distinct := nodup_name_loadedPackages files directory catalog
  have built := isBuilt_of_mem_loadedPackages files directory catalog
  have values_eq : snapshot.packages.values = loadedPackages files directory catalog :=
    values_packages_loadDirectory files directory catalog
  have indexed : ∀ name, name ∈ snapshot.index.keys ↔
      ∃ package ∈ loadedPackages files directory catalog, package.exposes name = true := by
    intro name
    rw [← Snapshot.mem_keys_index_insertAll_iff, ← snapshot_loadDirectory]
  have found : ∀ name ∈ snapshot.index.keys, ∃ found, snapshot.get name = .ok found ∧
      ((loadedPackages files directory catalog).filter fun package =>
        package.exposes name).getLast? = some found.package ∧
      (found.package.components.values.filter fun component =>
        component.exposes name).getLast? = some found.component ∧
      found.component.command? name = some found.command ∧ found.command.name = name := by
    intro name member
    obtain ⟨⟨package, component⟩, last⟩ := Option.isSome_iff_exists.mp
      (Snapshot.isSome_lastExposing?_iff.mpr ((indexed name).mp member))
    obtain ⟨command, declared, named, success⟩ := Snapshot.get_insertAll distinct built last
    rw [← snapshot_loadDirectory] at success
    obtain ⟨packageLast, componentLast⟩ := Snapshot.lastExposing?_eq_some_iff.mp last
    exact ⟨_, success, packageLast, componentLast, declared, named⟩
  rw [values_eq]
  refine ⟨rfl, paths_acceptedManifests_sublist files directory,
    files.pairwise_fileNames directory, ?_, found,
    packages_report_loadDirectory files directory catalog, rfl, ?_⟩
  · intro name
    rw [indexed]
    simp only [Package.exposes_iff]
  · apply Snapshot.length_commands
    intro name member
    obtain ⟨registration, success, -⟩ := found name member
    exact ⟨registration, success⟩

end

end ChatCommands
