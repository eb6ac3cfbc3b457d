/-
# Rejected manifests leave no trace

What a directory loads is decided by the manifests that are accepted. The others can be
taken away, all of them or some, and the same is loaded; the report then lacks what it said
of the files that are gone and nothing else. Nor does it matter in which order the system
lists the directory.

Main statement: `loadDirectory_skips_rejected`. Of every manifest file exactly one of three
is true: its package is loaded, it is disabled and not mentioned, or the report names it once.
-/

import ChatCommands.Proofs.Snapshot.Fate
import ChatCommands.Script
import Mathlib.Data.List.Nodup

namespace ChatCommands

open FilePath (IsName)

/-- The manifest files in a directory and what reading them gives. -/
def readManifests (files : FileTree) (directory : String) :
    List (String × Except LoadError Manifest) :=
  (manifestPaths files directory).map fun path => (path, Manifest.read files path)

/-- What becomes of the manifest files in a directory. -/
def fatesIn (files : FileTree) (directory : String) : List (String × ManifestFate) :=
  ManifestFate.all .empty (readManifests files directory)

variable {files other : FileTree} {directory path : String} {place : List String}
  {deleted : List String}

/-! ## Reading -/

/-- An error of reading a manifest names its file. -/
theorem Manifest.file?_of_read_eq_error {error : LoadError}
    (failed : Manifest.read files path = .error error) : error.file? = some path := by
  rw [read] at failed
  split at failed
  · cases failed
    rfl
  · split at failed
    · cases failed
      rfl
    · cases failed

theorem Manifest.read_congr (same : other.find path = files.find path) :
    Manifest.read other path = Manifest.read files path := by
  rw [read, read, FileTree.readText, FileTree.readText, same]

theorem find_join_of_mem_fileNames (named : files.HasNames)
    (found : files.find directory = .ok (place, .directory)) {name : String}
    (listed : name ∈ files.fileNames directory) :
    ∃ content, files.find (FilePath.join directory name) =
      .ok (place ++ [name], .file content) := by
  obtain ⟨content, there⟩ := (FileTree.mem_fileNames_iff found).mp listed
  exact ⟨content, FileTree.find_join (named.isName there) found there⟩

theorem exists_of_mem_manifestPaths (named : files.HasNames)
    (listed : path ∈ manifestPaths files directory) :
    ∃ place name content, files.find directory = .ok (place, .directory) ∧
      name ∈ files.fileNames directory ∧ FilePath.join directory name = path ∧
      files.find path = .ok (place ++ [name], .file content) := by
  obtain ⟨name, member, rfl⟩ := List.mem_map.mp listed
  have inDirectory := (List.mem_filter.mp member).1
  obtain ⟨place, found⟩ := FileTree.exists_find_of_mem_fileNames inDirectory
  obtain ⟨content, file⟩ := find_join_of_mem_fileNames named found inDirectory
  exact ⟨place, name, content, found, inDirectory, rfl, file⟩

theorem nodup_manifestPaths (named : files.HasNames) (directory : String) :
    (manifestPaths files directory).Nodup := by
  rw [manifestPaths]
  refine List.Nodup.map_on ?_ ((files.nodup_fileNames directory).filter _)
  intro first member second listed same
  obtain ⟨place, found⟩ := FileTree.exists_find_of_mem_fileNames (List.mem_filter.mp member).1
  obtain ⟨_, firstFile⟩ := find_join_of_mem_fileNames named found (List.mem_filter.mp member).1
  obtain ⟨_, secondFile⟩ := find_join_of_mem_fileNames named found (List.mem_filter.mp listed).1
  have places := FileTree.placeOf_of_find firstFile
  rw [same, FileTree.placeOf_of_find secondFile] at places
  exact (List.singleton_inj.mp (List.append_cancel_left places)).symm

/-! ## Taking manifests away -/

section

variable (named : files.HasNames)
  (listed : ∀ path ∈ deleted, path ∈ manifestPaths files directory)
  (same : other.HoldsSame (files.removeAll deleted))
include named listed

/-- Of the places in the directory only those of the files that are gone are gone. -/
theorem forall_not_prefix_iff (found : files.find directory = .ok (place, .directory))
    {name : String} (inDirectory : name ∈ files.fileNames directory) :
    (∀ gone ∈ deleted.map files.placeOf, ¬ gone <+: place ++ [name]) ↔
      FilePath.join directory name ∉ deleted := by
  obtain ⟨_, file⟩ := find_join_of_mem_fileNames named found inDirectory
  constructor
  · intro spared member
    have place_eq := FileTree.placeOf_of_find file
    exact spared _ (List.mem_map_of_mem member) (place_eq ▸ List.prefix_rfl)
  · rintro kept _ member below
    obtain ⟨path, isGone, rfl⟩ := List.mem_map.mp member
    obtain ⟨_, other, _, foundAgain, -, rfl, goneFile⟩ :=
      exists_of_mem_manifestPaths named (listed path isGone)
    rw [found] at foundAgain
    cases foundAgain
    rw [FileTree.placeOf_of_find goneFile] at below
    have places := below.eq_of_length (by simp)
    rw [List.singleton_inj.mp (List.append_cancel_left places)] at isGone
    exact kept isGone

theorem forall_not_prefix_directory (found : files.find directory = .ok (place, .directory)) :
    ∀ gone ∈ deleted.map files.placeOf, ¬ gone <+: place := by
  intro _ member below
  obtain ⟨path, isGone, rfl⟩ := List.mem_map.mp member
  obtain ⟨_, name, _, foundAgain, -, -, goneFile⟩ :=
    exists_of_mem_manifestPaths named (listed path isGone)
  rw [found] at foundAgain
  cases foundAgain
  rw [FileTree.placeOf_of_find goneFile] at below
  have shorter := below.length_le
  rw [List.length_append, List.length_singleton] at shorter
  exact Nat.not_succ_le_self _ shorter

include same

theorem lacks_of_removed : other.Lacks files (deleted.map files.placeOf) := by
  refine same.lacks fun path isGone => ?_
  obtain ⟨place, name, content, -, -, -, file⟩ :=
    exists_of_mem_manifestPaths named (listed path isGone)
  exact ⟨place ++ [name], content, file⟩

/-- The manifest files that are left are listed as before. -/
theorem manifestPaths_of_removed :
    manifestPaths other directory =
      (manifestPaths files directory).filter fun path => path ∉ deleted := by
  have lacks := lacks_of_removed named listed same
  by_cases isDirectory : ∃ place, files.find directory = .ok (place, .directory)
  · obtain ⟨place, found⟩ := isDirectory
    have spared := forall_not_prefix_directory named listed found
    rw [manifestPaths, manifestPaths, lacks.fileNames_eq found spared, List.filter_map,
      List.filter_filter, List.filter_filter]
    congr 1
    refine List.filter_congr fun name inDirectory => ?_
    rw [Bool.and_comm]
    congr 1
    rw [Bool.eq_iff_iff, decide_eq_true_iff, Function.comp_apply, decide_eq_true_iff]
    exact forall_not_prefix_iff named listed found inDirectory
  · -- Nothing is listed, so nothing was taken away.
    have nothing : manifestPaths files directory = [] := by
      refine List.eq_nil_iff_forall_not_mem.mpr fun path member => isDirectory ?_
      obtain ⟨place, _, _, found, -⟩ := exists_of_mem_manifestPaths named member
      exact ⟨place, found⟩
    have none : deleted = [] := by
      refine List.eq_nil_iff_forall_not_mem.mpr fun path member => ?_
      have absurd := listed path member
      rw [nothing] at absurd
      cases absurd
    subst none
    rw [nothing]
    refine List.eq_nil_iff_forall_not_mem.mpr fun path member => isDirectory ?_
    obtain ⟨name, listedThere, rfl⟩ := List.mem_map.mp member
    obtain ⟨place, found⟩ :=
      FileTree.exists_find_of_mem_fileNames (List.mem_filter.mp listedThere).1
    exact ⟨place, (lacks.find_eq directory).symm.trans found⟩

/-- The manifest files that are left read as before. -/
theorem readManifests_of_removed :
    readManifests other directory =
      (readManifests files directory).filter fun manifest => manifest.1 ∉ deleted := by
  have lacks := lacks_of_removed named listed same
  rw [readManifests, readManifests, manifestPaths_of_removed named listed same, List.filter_map]
  refine List.map_congr_left fun path member => ?_
  obtain ⟨there, kept⟩ := List.mem_filter.mp member
  obtain ⟨place, name, content, found, inDirectory, rfl, file⟩ :=
    exists_of_mem_manifestPaths named there
  have spared := (forall_not_prefix_iff named listed found inDirectory).mpr
    (of_decide_eq_true kept)
  rw [Manifest.read_congr ((lacks.find_eq_ok spared file).trans file.symm)]

end

/-! ## What becomes of the files -/

theorem acceptedManifests_eq (files : FileTree) (directory : String) :
    acceptedManifests files directory = (fatesIn files directory).filterMap fun file =>
      file.2.manifest?.map fun manifest => (file.1, manifest) :=
  LoadProgress.accepted_eq_filterMap .empty (readManifests files directory)

theorem failures_loadDirectory {π : Type} [Plugin π] (files : FileTree) (directory : String)
    (catalog : Catalog π) :
    (loadDirectory files directory catalog).1.failures =
      ManifestFate.report catalog (fatesIn files directory) :=
  LoadProgress.failures_run catalog .start (readManifests files directory)

theorem file?_of_mem_fatesIn : ∀ file ∈ fatesIn files directory, ∀ failure,
    file.2.failure? = some failure → failure.file? = some file.1 := by
  refine ManifestFate.file?_of_mem_all fun manifest member error failed => ?_
  obtain ⟨path, -, rfl⟩ := List.mem_map.mp member
  exact Manifest.file?_of_read_eq_error failed

theorem map_fst_fatesIn (files : FileTree) (directory : String) :
    (fatesIn files directory).map Prod.fst = manifestPaths files directory := by
  rw [fatesIn, ManifestFate.map_fst_all, readManifests, List.map_map]
  exact List.map_id _

/-- A file is accepted exactly if it is loaded. -/
theorem mem_acceptedManifests_iff {manifest : Manifest} :
    (path, manifest) ∈ acceptedManifests files directory ↔
      (path, .loaded manifest) ∈ fatesIn files directory := by
  rw [acceptedManifests_eq, List.mem_filterMap]
  constructor
  · rintro ⟨⟨first, fate⟩, member, accepted⟩
    obtain ⟨held, loaded, pair⟩ := Option.map_eq_some_iff.mp accepted
    cases pair
    cases fate with
    | loaded first =>
        cases loaded
        exact member
    | disabled | failed => cases loaded
  · intro member
    exact ⟨_, member, rfl⟩

theorem mem_map_fst_acceptedManifests_iff :
    path ∈ (acceptedManifests files directory).map Prod.fst ↔
      ∃ manifest, (path, .loaded manifest) ∈ fatesIn files directory := by
  rw [List.mem_map]
  constructor
  · rintro ⟨⟨_, manifest⟩, accepted, rfl⟩
    exact ⟨manifest, mem_acceptedManifests_iff.mp accepted⟩
  · rintro ⟨manifest, loaded⟩
    exact ⟨(path, manifest), mem_acceptedManifests_iff.mpr loaded, rfl⟩

/-- Each file meets one fate. -/
theorem eq_of_mem_fatesIn (named : files.HasNames) {first second : ManifestFate}
    (one : (path, first) ∈ fatesIn files directory)
    (another : (path, second) ∈ fatesIn files directory) : first = second := by
  have distinct := nodup_manifestPaths named directory
  rw [← map_fst_fatesIn] at distinct
  exact congrArg Prod.snd (List.inj_on_of_nodup_map distinct one another rfl)

/-- What the report says of a file as a whole depends on what becomes of it. -/
theorem filter_failures_loadDirectory {π : Type} [Plugin π] (named : files.HasNames)
    (catalog : Catalog π) {fate : ManifestFate} (member : (path, fate) ∈ fatesIn files directory) :
    ((loadDirectory files directory catalog).1.failures.filter fun failure =>
      failure.file? = some path) = fate.failure?.toList := by
  have distinct := nodup_manifestPaths named directory
  rw [← map_fst_fatesIn] at distinct
  rw [failures_loadDirectory]
  exact ManifestFate.filter_report catalog file?_of_mem_fatesIn distinct member

theorem not_mem_acceptedManifests (named : files.HasNames) {fate : ManifestFate}
    (member : (path, fate) ∈ fatesIn files directory) (unloaded : fate.manifest? = none) :
    path ∉ (acceptedManifests files directory).map Prod.fst := by
  intro accepted
  obtain ⟨manifest, loaded⟩ := mem_map_fst_acceptedManifests_iff.mp accepted
  rw [eq_of_mem_fatesIn named member loaded] at unloaded
  cases unloaded

theorem exists_manifest_of_disabled (member : (path, .disabled) ∈ fatesIn files directory) :
    ∃ manifest, Manifest.read files path = .ok manifest ∧ manifest.enabled = false := by
  obtain ⟨_, outcome, read, fate⟩ := ManifestFate.exists_outcome_of_mem_all member
  obtain ⟨_, -, same⟩ := List.mem_map.mp read
  obtain ⟨rfl, rfl⟩ := Prod.mk.inj same
  exact ManifestFate.exists_manifest_of_disabled fate

/-! ## Directories without rejected files -/

section

variable (named : files.HasNames)
  (rejected : ∀ path ∈ deleted, path ∈ manifestPaths files directory ∧
    path ∉ (acceptedManifests files directory).map Prod.fst)
include rejected

theorem manifest?_eq_none_of_rejected :
    ∀ file ∈ fatesIn files directory, decide (file.1 ∉ deleted) = false →
      file.2.manifest? = none := by
  rintro ⟨path, fate⟩ member isGone
  rw [decide_eq_false_iff_not, Classical.not_not] at isGone
  cases fate with
  | loaded manifest =>
      exact absurd (mem_map_fst_acceptedManifests_iff.mpr ⟨manifest, member⟩)
        (rejected path isGone).2
  | disabled | failed => rfl

variable (same : other.HoldsSame (files.removeAll deleted))
include named same

/-- Without rejected files the others meet the fates they met with them. -/
theorem fatesIn_of_removed :
    fatesIn other directory = (fatesIn files directory).filter fun file => file.1 ∉ deleted := by
  rw [fatesIn, readManifests_of_removed named (fun path isGone => (rejected path isGone).1) same]
  exact ManifestFate.all_filter (fun path => path ∉ deleted)
    (manifest?_eq_none_of_rejected rejected)

theorem acceptedManifests_of_removed :
    acceptedManifests other directory = acceptedManifests files directory := by
  rw [acceptedManifests_eq, acceptedManifests_eq, fatesIn_of_removed named rejected same,
    List.filterMap_filter]
  refine List.filterMap_congr fun file member => ?_
  have unloaded := manifest?_eq_none_of_rejected rejected file member
  split
  · rfl
  · next isGone => rw [unloaded (Bool.not_eq_true _ ▸ isGone), Option.map_none]

end

variable {π : Type} [Plugin π]

/-- Loading a directory is decided by the manifests that are accepted, in the order of the
file names: their packages are what is loaded. If any of the other manifest files are deleted and the system lists what is left
in any order, the same is accepted and loaded, and the report lacks the failures of the
deleted files and nothing else. Every manifest file is loaded, or is disabled and not
mentioned, or is named by exactly one failure. -/
theorem loadDirectory_skips_rejected (files other : FileTree) (named : files.HasNames)
    (directory : String) (catalog : Catalog π) (deleted : List String)
    (rejected : ∀ path ∈ deleted, path ∈ manifestPaths files directory ∧
      path ∉ (acceptedManifests files directory).map Prod.fst)
    (same : other.HoldsSame (files.removeAll deleted)) :
    let report := (loadDirectory files directory catalog).1
    let snapshot := (loadDirectory files directory catalog).2
    let accepted := acceptedManifests files directory
    ((accepted.map Prod.fst).Sublist (manifestPaths files directory) ∧
      (files.fileNames directory).Pairwise (· ≤ ·) ∧
      snapshot = Snapshot.empty.insertAll (accepted.map (Package.announced catalog)) ∧
      snapshot.packages.values = accepted.map (Package.announced catalog) ∧
      report.packages = accepted.map (fun source => source.2.resolvedName source.1) ∧
      report.commands = snapshot.size) ∧
    (acceptedManifests other directory = accepted ∧
      (loadDirectory other directory catalog).2 = snapshot ∧
      (loadDirectory other directory catalog).1.packages = report.packages ∧
      (loadDirectory other directory catalog).1.commands = report.commands ∧
      (loadDirectory other directory catalog).1.failures =
        report.failures.filter fun failure => failure.file?.all fun path => path ∉ deleted) ∧
    ∀ path ∈ manifestPaths files directory,
      let mentions := report.failures.filter fun failure => failure.file? = some path
      (path ∈ accepted.map Prod.fst ∧ mentions = []) ∨
      (path ∉ accepted.map Prod.fst ∧ mentions = [] ∧
        ∃ manifest, Manifest.read files path = .ok manifest ∧ manifest.enabled = false) ∨
      (path ∉ accepted.map Prod.fst ∧
        ∃ failure, failure.file? = some path ∧ mentions = [failure]) := by
  intro report snapshot accepted
  have accepted_eq : acceptedManifests other directory = accepted :=
    acceptedManifests_of_removed named rejected same
  have snapshot_eq : ∀ tree : FileTree, (loadDirectory tree directory catalog).2 =
      Snapshot.empty.insertAll
        ((acceptedManifests tree directory).map (Package.announced catalog)) :=
    fun tree => snapshot_loadDirectory tree directory catalog
  have packages_eq : ∀ tree : FileTree, (loadDirectory tree directory catalog).1.packages =
      (acceptedManifests tree directory).map fun source => source.2.resolvedName source.1 :=
    fun tree => (LoadProgress.run_eq catalog .start _).2
  have loaded_eq : (loadDirectory other directory catalog).2 = snapshot := by
    rw [snapshot_eq other, accepted_eq, ← snapshot_eq files]
  refine ⟨⟨paths_acceptedManifests_sublist files directory, files.pairwise_fileNames directory,
      snapshot_eq files, values_packages_loadDirectory files directory catalog, packages_eq files,
      rfl⟩,
    ⟨accepted_eq, loaded_eq, ?packages, congrArg Snapshot.size loaded_eq, ?failures⟩, ?fates⟩
  case packages => rw [packages_eq other, accepted_eq, ← packages_eq files]
  case failures =>
    show (loadDirectory other directory catalog).1.failures =
      (loadDirectory files directory catalog).1.failures.filter _
    rw [failures_loadDirectory, failures_loadDirectory, fatesIn_of_removed named rejected same]
    exact ManifestFate.report_filter catalog file?_of_mem_fatesIn (fun path => path ∉ deleted)
      (manifest?_eq_none_of_rejected rejected)
  case fates =>
    intro path listed mentions
    rw [← map_fst_fatesIn] at listed
    obtain ⟨⟨_, fate⟩, member, rfl⟩ := List.mem_map.mp listed
    have mentions_eq := filter_failures_loadDirectory named catalog member
    cases fate with
    | loaded manifest =>
        exact .inl ⟨mem_map_fst_acceptedManifests_iff.mpr ⟨manifest, member⟩, mentions_eq⟩
    | disabled =>
        exact .inr (.inl ⟨not_mem_acceptedManifests named member rfl, mentions_eq,
          exists_manifest_of_disabled member⟩)
    | failed failure =>
        exact .inr (.inr ⟨not_mem_acceptedManifests named member rfl, failure,
          file?_of_mem_fatesIn _ member failure rfl, mentions_eq⟩)

/-- A file that is no manifest, one that is disabled and one that repeats a name: without them,
and with the directory listed backwards, what is said of the one component that cannot be made
is all there is to report. -/
theorem loadDirectory_skips_rejected_mixed :
    let text := fun content : String => FileEntry.file content.toUTF8
    let files := ((((FileTree.emptyAt ["home"]).write "p/zeta.json"
      (text "\x7b\"name\": \"alpha\"\x7d")).write "p/off.json"
      (text "\x7b\"enabled\": false\x7d")).write "p/broken.json" (text "\x7b nope")).write
      "p/alpha.json" (text "\x7b\x7d")
    let catalog : Catalog Extension :=
      ⟨[⟨"alpha", "Echo", .ready (.builtin .echo)⟩, ⟨"alpha", "Needy", .parameterized ["client"]⟩]⟩
    let deleted := ["p/zeta.json", "p/broken.json", "p/off.json"]
    let other := (files.removeAll deleted).backwards
    files.HasNames ∧ other.HoldsSame (files.removeAll deleted) ∧
      (∀ path ∈ deleted, path ∈ manifestPaths files "p" ∧
        path ∉ (acceptedManifests files "p").map Prod.fst) ∧
      (loadDirectory files "p" catalog).1.failures =
        [.needsParameters "Needy" ["client"], .manifest "p/broken.json" .malformed,
          .manifest "p/zeta.json" (.repeatedName "alpha" "p/alpha.json")] ∧
      (loadDirectory other "p" catalog).1.failures = [.needsParameters "Needy" ["client"]] ∧
      (loadDirectory other "p" catalog).1.packages = ["alpha"] ∧
      ((loadDirectory other "p" catalog).2.packages.values.map fun package =>
        (package.name, package.components.keys)) = [("alpha", ["Echo"])] := by
  intro text files catalog deleted other
  have named : files.HasNames := by
    refine ((((FileTree.HasNames.emptyAt ?_).write _ _).write _ _).write _ _).write _ _
    intro name member
    rw [List.mem_singleton.mp member]
    exact ⟨by decide, by decide, by decide, by decide⟩
  have same : other.HoldsSame (files.removeAll deleted) := FileTree.holdsSame_backwards _
  have found : files.find "p" = .ok (files.placeOf "p", .directory) :=
    FileTree.find_of_isDirectory (by decide +kernel)
  have paths : manifestPaths files "p" =
      ["p/alpha.json", "p/broken.json", "p/off.json", "p/zeta.json"] := by
    have names : files.fileNames "p" =
        ["alpha.json", "broken.json", "off.json", "zeta.json"] :=
      FileTree.fileNames_eq found (by decide +kernel) (by decide +kernel)
    rw [manifestPaths, names]
    decide +kernel
  have rejected : ∀ path ∈ deleted, path ∈ manifestPaths files "p" ∧
      path ∉ (acceptedManifests files "p").map Prod.fst := by
    rw [acceptedManifests, paths]
    decide +kernel
  have failures : (loadDirectory files "p" catalog).1.failures =
      [.needsParameters "Needy" ["client"], .manifest "p/broken.json" .malformed,
        .manifest "p/zeta.json" (.repeatedName "alpha" "p/alpha.json")] := by
    rw [loadDirectory, paths]
    decide +kernel
  have packages : (loadDirectory files "p" catalog).1.packages = ["alpha"] := by
    rw [loadDirectory, paths]
    decide +kernel
  obtain ⟨⟨-, -, -, values_eq, -, -⟩, ⟨-, loaded_eq, packages_eq, -, failures_eq⟩, -⟩ :=
    loadDirectory_skips_rejected files other named "p" catalog deleted rejected same
  rw [failures] at failures_eq
  rw [packages] at packages_eq
  refine ⟨named, same, rejected, failures, failures_eq, packages_eq, ?_⟩
  rw [loaded_eq, values_eq, acceptedManifests, paths]
  decide +kernel

end ChatCommands
