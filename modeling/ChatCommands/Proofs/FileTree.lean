/-
# Looking into a tree from which files were taken away

What a path leads to is decided by the entries on the way. A way that passes a place goes
through a directory there, so taking away files changes nothing about the places that are
left, whatever the detours of the path; and a directory lists what it listed before, less
what was taken away from it.

The names in a tree are taken to be names (`HasNames`), as they are in every tree that is
made by writing and removing: a text with a slash in it would be read as a path, and one of
the two names of points would lead elsewhere.
-/

import ChatCommands.FileTree
import ChatCommands.Proofs.OrderedMap
import Mathlib.Data.List.Basic

namespace ChatCommands

/-- Sorting brings texts into increasing order. -/
theorem pairwise_mergeSort_le (texts : List String) :
    (texts.mergeSort fun first second => decide (first ≤ second)).Pairwise (· ≤ ·) := by
  refine (List.pairwise_mergeSort ?_ ?_ texts).imp of_decide_eq_true
  · intro first second third below above
    simp only [decide_eq_true_eq] at below above ⊢
    exact String.le_trans below above
  · intro first second
    simp only [Bool.or_eq_true, decide_eq_true_eq]
    exact String.le_total first second

/-! ## Paths -/

namespace FilePath

/-- A text that stands for an entry of the directory it is looked up in. -/
structure IsName (name : String) : Prop where
  plain : '/' ∉ name.toList
  nonempty : name ≠ ""
  notHere : name ≠ "."
  notParent : name ≠ ".."

theorem parts_append_slash (first second : String) :
    parts (first ++ "/" ++ second) = parts first ++ parts second := by
  have slash : (first ++ "/" ++ second).toList = first.toList ++ '/' :: second.toList := by
    rw [String.toList_append, String.toList_append, List.append_assoc]
    rfl
  rw [parts, slash, List.splitOn_append_cons_self, List.map_append]
  rfl

theorem parts_of_plain {name : String} (plain : '/' ∉ name.toList) : parts name = [name] := by
  rw [parts, List.splitOn_eq_singleton plain, List.map_singleton, String.ofList_toList]

theorem not_mem_of_mem_splitOn {c : Char} {text piece : List Char}
    (member : piece ∈ text.splitOn c) : c ∉ piece := by
  induction text generalizing piece with
  | nil =>
      rw [List.splitOn_nil, List.mem_singleton] at member
      rw [member]
      exact List.not_mem_nil
  | cons first rest ih =>
      rw [List.splitOn_cons_eq_if_modifyHead] at member
      split at member
      · rcases List.mem_cons.mp member with rfl | later
        · exact List.not_mem_nil
        · exact ih later
      · next other =>
        obtain ⟨head, tail, pieces⟩ := List.exists_cons_of_ne_nil (List.splitOn_ne_nil c rest)
        rw [pieces] at member ih
        rw [List.modifyHead_cons] at member
        rcases List.mem_cons.mp member with rfl | later
        · rw [List.mem_cons, not_or]
          exact ⟨fun same => other (beq_iff_eq.mpr same.symm), ih List.mem_cons_self⟩
        · exact ih (List.mem_cons_of_mem head later)

theorem not_mem_of_mem_parts {path part : String} (member : part ∈ parts path) :
    '/' ∉ part.toList := by
  obtain ⟨chars, piece, rfl⟩ := List.mem_map.mp member
  rw [String.toList_ofList]
  exact not_mem_of_mem_splitOn piece

theorem isAbsolute_append {directory : String} (nonempty : directory ≠ "") (rest : String) :
    isAbsolute (directory ++ rest) = isAbsolute directory := by
  rw [isAbsolute, isAbsolute, String.toList_append]
  cases chars : directory.toList with
  | nil => exact absurd (String.toList_eq_nil_iff.mp chars) nonempty
  | cons first others => rfl

theorem append_ne_empty {directory : String} (nonempty : directory ≠ "") (rest : String) :
    directory ++ rest ≠ "" := by
  intro empty
  rw [← String.toList_eq_nil_iff, String.toList_append, List.append_eq_nil_iff] at empty
  exact nonempty (String.toList_eq_nil_iff.mp empty.1)

/-- The path of an entry of a directory is the path of the directory, less the empty part
after a slash at its end, and then the name. -/
theorem parts_join {directory name : String} (nonempty : directory ≠ "")
    (isName : IsName name) :
    ∃ base, parts (join directory name) = base ++ [name] ∧
      (parts directory = base ∨ parts directory = base ++ [""]) ∧
      ∃ rest, join directory name = directory ++ rest := by
  have relative : isAbsolute name = false := by
    rw [isAbsolute, beq_eq_false_iff_ne]
    exact fun slash => isName.plain (List.mem_of_head? slash)
  have some : directory.isEmpty = false := by
    rw [← Bool.not_eq_true, String.isEmpty_iff]
    exact nonempty
  rw [join, relative, some, Bool.or_false, if_neg Bool.false_ne_true]
  split
  · next slash =>
    -- The directory ends in a slash, so its last part is empty.
    obtain ⟨chars, ending⟩ := List.getLast?_eq_some_iff.mp (beq_iff_eq.mp slash)
    have cut : directory = String.ofList chars ++ "/" ++ "" := by
      rw [← String.toList_inj, ending]
      simp
    have parts_name : parts (directory ++ name) = parts (String.ofList chars) ++ [name] := by
      rw [cut, String.append_empty, parts_append_slash, parts_of_plain isName.plain]
    refine ⟨_, parts_name, .inr ?_, name, rfl⟩
    rw [cut, parts_append_slash]
    rfl
  · refine ⟨parts directory, ?_, .inl rfl, "/" ++ name, by rw [String.append_assoc]⟩
    rw [parts_append_slash, parts_of_plain isName.plain]

end FilePath

namespace FileTree

open FilePath (IsName)

variable {tree other : FileTree} {place start : List String} {entry : FileEntry}

/-! ## Ways -/

/-- Where a part of a path leads from a place. -/
def follow (place : List String) (part : String) : List String :=
  if part == "" || part == "." then place
  else if part == ".." then place.dropLast
  else place ++ [part]

/-- Where a path starts. -/
def origin (tree : FileTree) (path : String) : List String :=
  if FilePath.isAbsolute path then [] else tree.here

theorem placeOf_eq (tree : FileTree) (path : String) :
    tree.placeOf path = (FilePath.parts path).foldl follow (tree.origin path) := rfl

theorem follow_of_isName {name : String} (isName : IsName name) :
    follow place name = place ++ [name] := by
  simp [follow, isName.nonempty, isName.notHere, isName.notParent]

theorem walk_nil_eq_ok_iff : tree.walk start [] = .ok (place, entry) ↔
    start = place ∧ tree.entry? start = some entry := by
  rw [walk]
  cases tree.entry? start with
  | none => simp
  | some found => simp

/-- A way goes through directories only. -/
theorem walk_cons_eq_ok_iff {part : String} {rest : List String} :
    tree.walk start (part :: rest) = .ok (place, entry) ↔
      tree.entry? start = some .directory ∧
        tree.walk (follow start part) rest = .ok (place, entry) := by
  rw [walk]
  cases tree.entry? start with
  | none => simp
  | some found =>
      cases found with
      | file content => simp
      | directory =>
          simp only [true_and]
          rw [follow]
          split
          · rfl
          · split <;> rfl

theorem arrives_of_walk {parts : List String}
    (found : tree.walk start parts = .ok (place, entry)) : tree.entry? place = some entry := by
  induction parts generalizing start with
  | nil =>
      obtain ⟨rfl, there⟩ := walk_nil_eq_ok_iff.mp found
      exact there
  | cons part rest ih => exact ih (walk_cons_eq_ok_iff.mp found).2

theorem walk_append_eq_ok {first second : List String} {middle : List String}
    (before : tree.walk start first = .ok (middle, .directory))
    (after : tree.walk middle second = .ok (place, entry)) :
    tree.walk start (first ++ second) = .ok (place, entry) := by
  induction first generalizing start with
  | nil =>
      obtain ⟨rfl, -⟩ := walk_nil_eq_ok_iff.mp before
      exact after
  | cons part rest ih =>
      obtain ⟨directory, further⟩ := walk_cons_eq_ok_iff.mp before
      exact walk_cons_eq_ok_iff.mpr ⟨directory, ih further⟩

theorem walk_eq_ok_of_append_empty {parts : List String}
    (found : tree.walk start (parts ++ [""]) = .ok (place, entry)) :
    tree.walk start parts = .ok (place, entry) := by
  induction parts generalizing start with
  | nil =>
      obtain ⟨-, arrived⟩ := walk_cons_eq_ok_iff.mp found
      exact arrived
  | cons part rest ih =>
      obtain ⟨directory, further⟩ := walk_cons_eq_ok_iff.mp found
      exact walk_cons_eq_ok_iff.mpr ⟨directory, ih further⟩

theorem find_of_ne_empty {path : String} (nonempty : path ≠ "") :
    tree.find path = tree.walk (tree.origin path) (FilePath.parts path) := by
  rw [find, if_neg (by rwa [String.isEmpty_iff])]
  rfl

theorem ne_empty_of_find {path : String} (found : tree.find path = .ok (place, entry)) :
    path ≠ "" := by
  rintro rfl
  cases found

theorem foldl_follow_of_walk {parts : List String}
    (found : tree.walk start parts = .ok (place, entry)) : parts.foldl follow start = place := by
  induction parts generalizing start with
  | nil => exact (walk_nil_eq_ok_iff.mp found).1
  | cons part rest ih => exact ih (walk_cons_eq_ok_iff.mp found).2

/-- What is found under a path is found where the path leads. -/
theorem placeOf_of_find {path : String} (found : tree.find path = .ok (place, entry)) :
    tree.placeOf path = place := by
  rw [find_of_ne_empty (ne_empty_of_find found)] at found
  exact foldl_follow_of_walk found

theorem find_of_isDirectory {path : String} (directory : tree.isDirectory path = true) :
    tree.find path = .ok (tree.placeOf path, .directory) := by
  rw [isDirectory] at directory
  split at directory
  · next place found => rw [placeOf_of_find found, found]
  · cases directory

/-- What is in a directory is found by its name. -/
theorem find_join {directory name : String} (isName : IsName name)
    (found : tree.find directory = .ok (place, .directory))
    (listed : tree.entry? (place ++ [name]) = some entry) :
    tree.find (FilePath.join directory name) = .ok (place ++ [name], entry) := by
  have nonempty := ne_empty_of_find found
  obtain ⟨base, parts_eq, parts_directory, rest, join_eq⟩ := FilePath.parts_join nonempty isName
  have origin_eq : tree.origin (FilePath.join directory name) = tree.origin directory := by
    rw [join_eq, origin, origin, FilePath.isAbsolute_append nonempty]
  have arrived : tree.walk (tree.origin directory) base = .ok (place, .directory) := by
    rw [find_of_ne_empty nonempty] at found
    rcases parts_directory with same | slash
    · rwa [same] at found
    · rw [slash] at found
      exact walk_eq_ok_of_append_empty found
  rw [find_of_ne_empty (by rw [join_eq]; exact FilePath.append_ne_empty nonempty rest),
    origin_eq, parts_eq]
  apply walk_append_eq_ok arrived
  rw [walk_cons_eq_ok_iff, follow_of_isName isName, walk_nil_eq_ok_iff]
  exact ⟨arrives_of_walk arrived, rfl, listed⟩

/-! ## Taking files away -/

/-- A tree that holds what another one does except for what is under some places, where the
other one has files. The order in which the entries are listed does not matter. -/
structure Lacks (other tree : FileTree) (gone : List (List String)) : Prop where
  here : other.here = tree.here
  entries : other.entries.entries.Perm
    (tree.entries.entries.filter fun entry => ∀ place ∈ gone, ¬ place <+: entry.1)
  files : ∀ place ∈ gone, ∃ content, tree.entry? place = some (.file content)

variable {gone : List (List String)}

theorem prefix_follow {place file : List String} (below : file <+: place) (apart : file ≠ place)
    (part : String) : file <+: follow place part := by
  rw [follow]
  split
  · exact below
  · split
    · obtain ⟨rest, rfl⟩ := below
      have some : rest ≠ [] := by
        rintro rfl
        exact apart (List.append_nil file).symm
      rw [List.dropLast_append_of_ne_nil some]
      exact List.prefix_append file _
    · exact below.trans (List.prefix_append place _)

/-- A way that starts from below a file does not leave it, since it would have to go through
it. -/
theorem prefix_of_walk {parts file : List String} {content : ByteArray}
    (isFile : tree.entry? file = some (.file content)) (below : file <+: start)
    (found : tree.walk start parts = .ok (place, entry)) : file <+: place := by
  induction parts generalizing start with
  | nil =>
      obtain ⟨rfl, -⟩ := walk_nil_eq_ok_iff.mp found
      exact below
  | cons part rest ih =>
      obtain ⟨directory, further⟩ := walk_cons_eq_ok_iff.mp found
      refine ih (prefix_follow below ?_ part) further
      rintro rfl
      rw [isFile] at directory
      cases directory

namespace Lacks

theorem agrees (lacks : other.Lacks tree gone) (spared : ∀ file ∈ gone, ¬ file <+: place) :
    other.entry? place = tree.entry? place := by
  unfold entry?
  split
  · rfl
  · ext entry
    rw [OrderedMap.get?_eq_some_iff, OrderedMap.get?_eq_some_iff, lacks.entries.mem_iff,
      List.mem_filter, decide_eq_true_iff]
    exact and_iff_left spared

/-- A way to a place that is left is left. -/
theorem walk_eq_ok (lacks : other.Lacks tree gone) {parts : List String}
    (spared : ∀ file ∈ gone, ¬ file <+: place)
    (found : tree.walk start parts = .ok (place, entry)) :
    other.walk start parts = .ok (place, entry) := by
  induction parts generalizing start with
  | nil =>
      obtain ⟨rfl, there⟩ := walk_nil_eq_ok_iff.mp found
      exact walk_nil_eq_ok_iff.mpr ⟨rfl, (lacks.agrees spared).trans there⟩
  | cons part rest ih =>
      have sparedHere : ∀ file ∈ gone, ¬ file <+: start := by
        intro file member below
        obtain ⟨content, isFile⟩ := lacks.files file member
        exact spared file member (prefix_of_walk isFile below found)
      obtain ⟨directory, further⟩ := walk_cons_eq_ok_iff.mp found
      exact walk_cons_eq_ok_iff.mpr
        ⟨(lacks.agrees sparedHere).trans directory, ih further⟩

theorem find_eq_ok (lacks : other.Lacks tree gone) {path : String}
    (spared : ∀ file ∈ gone, ¬ file <+: place) (found : tree.find path = .ok (place, entry)) :
    other.find path = .ok (place, entry) := by
  have nonempty := ne_empty_of_find found
  rw [find_of_ne_empty nonempty] at found ⊢
  rw [origin, lacks.here]
  exact lacks.walk_eq_ok spared found

/-- If nothing was taken away, every path leads to what it led to. -/
theorem find_eq (lacks : other.Lacks tree []) (path : String) :
    other.find path = tree.find path := by
  have same : ∀ place, other.entry? place = tree.entry? place :=
    fun place => lacks.agrees fun _ member => absurd member List.not_mem_nil
  have walks : ∀ parts start, other.walk start parts = tree.walk start parts := by
    intro parts
    induction parts with
    | nil => intro start; rw [walk, walk, same]
    | cons part rest ih => intro start; rw [walk, walk, same, ih, ih, ih]
  rw [find, find, lacks.here, walks]

end Lacks

/-! ## Listings -/

/-- The name of an entry, if it is a file and belongs to a directory. -/
def fileName? (place : List String) : List String × FileEntry → Option String
  | (location, .file _) => if location.dropLast = place then location.getLast? else none
  | (_, .directory) => none

theorem fileName?_eq_some_iff {entry : List String × FileEntry} {name : String} :
    fileName? place entry = some name ↔ ∃ content, entry = (place ++ [name], .file content) := by
  obtain ⟨location, stored⟩ := entry
  cases stored with
  | directory => simp [fileName?]
  | file content =>
      rw [fileName?]
      constructor
      · intro named
        split at named
        · next inside =>
          obtain ⟨before, rfl⟩ := List.getLast?_eq_some_iff.mp named
          rw [List.dropLast_concat] at inside
          exact ⟨content, by rw [inside]⟩
        · cases named
      · rintro ⟨content, same⟩
        obtain rfl := (Prod.mk.inj same).1
        rw [List.dropLast_concat, if_pos rfl, List.getLast?_concat]

/-- The names of the files in a directory, in the order in which they are listed. -/
def listing (tree : FileTree) (place : List String) : List String :=
  tree.entries.entries.filterMap (fileName? place)

theorem mem_listing_iff {name : String} : name ∈ tree.listing place ↔
    ∃ content, tree.entry? (place ++ [name]) = some (.file content) := by
  rw [listing, List.mem_filterMap]
  have nonempty : (place ++ [name]).isEmpty = false := by
    cases place <;> rfl
  simp only [fileName?_eq_some_iff, entry?, nonempty, Bool.false_eq_true, if_false,
    OrderedMap.get?_eq_some_iff]
  constructor
  · rintro ⟨_, member, content, rfl⟩
    exact ⟨content, member⟩
  · rintro ⟨content, member⟩
    exact ⟨_, member, content, rfl⟩

theorem nodup_listing (tree : FileTree) (place : List String) : (tree.listing place).Nodup := by
  have distinct := List.pairwise_map.mp tree.entries.nodup
  refine List.pairwise_filterMap.mpr (distinct.imp ?_)
  intro first second apart name named other same names
  obtain ⟨_, rfl⟩ := fileName?_eq_some_iff.mp named
  obtain ⟨_, rfl⟩ := fileName?_eq_some_iff.mp same
  exact apart (by rw [names])

/-- The names of the files in a directory are in increasing order. -/
theorem pairwise_fileNames (files : FileTree) (directory : String) :
    (files.fileNames directory).Pairwise (· ≤ ·) := by
  rw [fileNames]
  split
  · exact pairwise_mergeSort_le _
  · exact .nil

theorem perm_fileNames {directory : String}
    (found : tree.find directory = .ok (place, .directory)) :
    (tree.fileNames directory).Perm (tree.listing place) := by
  rw [fileNames, found]
  exact List.mergeSort_perm _ _

theorem exists_find_of_mem_fileNames {directory name : String}
    (member : name ∈ tree.fileNames directory) :
    ∃ place, tree.find directory = .ok (place, .directory) := by
  rw [fileNames] at member
  split at member
  · next place found => exact ⟨place, found⟩
  · cases member

theorem mem_fileNames_iff {directory name : String}
    (found : tree.find directory = .ok (place, .directory)) :
    name ∈ tree.fileNames directory ↔
      ∃ content, tree.entry? (place ++ [name]) = some (.file content) := by
  rw [(perm_fileNames found).mem_iff, mem_listing_iff]

theorem nodup_fileNames (tree : FileTree) (directory : String) :
    (tree.fileNames directory).Nodup := by
  rw [fileNames]
  split
  · next place _ => exact (List.mergeSort_perm _ _).nodup_iff.mpr (tree.nodup_listing place)
  · exact List.nodup_nil

/-- The order in which a directory is listed does not matter to the names of its files. -/
theorem fileNames_eq {directory : String} {names : List String}
    (found : tree.find directory = .ok (place, .directory))
    (listed : names.Perm (tree.listing place)) (sorted : names.Pairwise (· ≤ ·)) :
    tree.fileNames directory = names :=
  ((perm_fileNames found).trans listed.symm).eq_of_pairwise
    (fun _ _ _ _ => String.le_antisymm) (tree.pairwise_fileNames directory) sorted

namespace Lacks

theorem perm_listing (lacks : other.Lacks tree gone) (place : List String) :
    (other.listing place).Perm
      ((tree.listing place).filter fun name => ∀ file ∈ gone, ¬ file <+: place ++ [name]) := by
  refine (lacks.entries.filterMap (fileName? place)).trans (.of_eq ?_)
  rw [listing, List.filterMap_filter, List.filter_filterMap]
  refine List.filterMap_congr fun entry _ => ?_
  cases named : fileName? place entry with
  | none => simp
  | some name =>
      obtain ⟨content, rfl⟩ := fileName?_eq_some_iff.mp named
      simp [Option.filter_some]

/-- A directory that is left lists what it listed, less what was taken away from it. -/
theorem fileNames_eq (lacks : other.Lacks tree gone) {directory : String}
    (found : tree.find directory = .ok (place, .directory))
    (spared : ∀ file ∈ gone, ¬ file <+: place) :
    other.fileNames directory = (tree.fileNames directory).filter fun name =>
      ∀ file ∈ gone, ¬ file <+: place ++ [name] := by
  refine FileTree.fileNames_eq (lacks.find_eq_ok spared found) ?_
    ((tree.pairwise_fileNames directory).filter _)
  exact ((perm_fileNames found).filter _).trans (lacks.perm_listing place).symm

end Lacks

/-! ## Changing a tree -/

/-- Two trees that hold the same, listed in any order. -/
structure HoldsSame (other tree : FileTree) : Prop where
  here : other.here = tree.here
  entries : other.entries.entries.Perm tree.entries.entries

/-- The tree listed backwards. -/
def backwards (tree : FileTree) : FileTree where
  here := tree.here
  entries :=
    ⟨tree.entries.entries.reverse,
      (tree.entries.entries.reverse_perm.map Prod.fst).nodup_iff.mpr tree.entries.nodup⟩

theorem holdsSame_backwards (tree : FileTree) : tree.backwards.HoldsSame tree :=
  ⟨rfl, List.reverse_perm _⟩

/-- The tree without what was under some paths. -/
def removeAll (tree : FileTree) (paths : List String) : FileTree := paths.foldl remove tree

theorem here_removeAll (tree : FileTree) (paths : List String) :
    (tree.removeAll paths).here = tree.here := by
  induction paths generalizing tree with
  | nil => rfl
  | cons path rest ih => exact ih (tree.remove path)

theorem entries_removeAll (tree : FileTree) (paths : List String) :
    (tree.removeAll paths).entries.entries = tree.entries.entries.filter fun entry =>
      ∀ place ∈ paths.map tree.placeOf, ¬ place <+: entry.1 := by
  induction paths generalizing tree with
  | nil => exact (List.filter_eq_self.mpr fun _ _ => by simp).symm
  | cons path rest ih =>
      have later := ih (tree.remove path)
      rw [show (tree.remove path).placeOf = tree.placeOf from rfl] at later
      refine later.trans ?_
      rw [remove, OrderedMap.entries_filter, List.filter_filter]
      refine List.filter_congr fun entry _ => ?_
      rw [Bool.eq_iff_iff]
      have below : ∀ place, place.isPrefixOf entry.1 = false ↔ ¬ place <+: entry.1 := by
        intro place
        rw [← List.isPrefixOf_iff_prefix, Bool.not_eq_true]
      simp [below, and_comm]

/-- Removing files takes away nothing else. -/
theorem HoldsSame.lacks {paths : List String} (same : other.HoldsSame (tree.removeAll paths))
    (files : ∀ path ∈ paths, ∃ place content, tree.find path = .ok (place, .file content)) :
    other.Lacks tree (paths.map tree.placeOf) where
  here := same.here.trans (here_removeAll tree paths)
  entries := same.entries.trans (.of_eq (entries_removeAll tree paths))
  files := by
    intro place listed
    obtain ⟨path, member, rfl⟩ := List.mem_map.mp listed
    obtain ⟨place, content, found⟩ := files path member
    rw [placeOf_of_find found]
    rw [find_of_ne_empty (ne_empty_of_find found)] at found
    exact ⟨content, arrives_of_walk found⟩

/-! ## Names in a tree -/

/-- A tree in which every entry has a name. -/
structure HasNames (tree : FileTree) : Prop where
  here : ∀ name ∈ tree.here, IsName name
  entries : ∀ place ∈ tree.entries.keys, ∀ name ∈ place, IsName name

theorem HasNames.isName {name : String} (named : tree.HasNames)
    (there : tree.entry? (place ++ [name]) = some entry) : IsName name := by
  unfold entry? at there
  rw [if_neg (by simp), OrderedMap.get?_eq_some_iff] at there
  exact named.entries _ (List.mem_map_of_mem there) name
    (List.mem_append_right place List.mem_cons_self)

theorem isName_of_mem_follow {part : String} (plain : '/' ∉ part.toList)
    (names : ∀ name ∈ place, IsName name) : ∀ name ∈ follow place part, IsName name := by
  intro name member
  rw [follow] at member
  split at member
  · exact names name member
  · next solid =>
    rw [Bool.not_eq_true, Bool.or_eq_false_iff, beq_eq_false_iff_ne, beq_eq_false_iff_ne] at solid
    split at member
    · exact names name (List.dropLast_subset place member)
    · next down =>
      rcases List.mem_append.mp member with earlier | last
      · exact names name earlier
      · rw [List.mem_singleton.mp last]
        exact ⟨plain, solid.1, solid.2, fun up => down (beq_iff_eq.mpr up)⟩

theorem HasNames.placeOf (named : tree.HasNames) (path : String) :
    ∀ name ∈ tree.placeOf path, IsName name := by
  have start : ∀ name ∈ tree.origin path, IsName name := by
    rw [origin]
    split
    · exact fun _ member => absurd member List.not_mem_nil
    · exact named.here
  have plain : ∀ part ∈ FilePath.parts path, '/' ∉ part.toList :=
    fun _ member => FilePath.not_mem_of_mem_parts member
  rw [placeOf_eq]
  generalize tree.origin path = place at start
  generalize FilePath.parts path = parts at plain
  induction parts generalizing place with
  | nil => exact start
  | cons part rest ih =>
      exact ih (follow place part) (isName_of_mem_follow (plain part List.mem_cons_self) start)
        fun other member => plain other (List.mem_cons_of_mem part member)

theorem isName_of_mem_placesTo (names : ∀ name ∈ place, IsName name) :
    ∀ parent ∈ (placesTo place).map fun parent => (parent, FileEntry.directory),
      ∀ name ∈ parent.1, IsName name := by
  intro parent member name inside
  obtain ⟨_, listed, rfl⟩ := List.mem_map.mp member
  obtain ⟨count, -, rfl⟩ := List.mem_map.mp listed
  exact names name (List.mem_of_mem_take inside)

theorem HasNames.emptyAt {here : List String} (names : ∀ name ∈ here, IsName name) :
    (emptyAt here).HasNames where
  here := names
  entries := by
    intro place listed
    obtain ⟨entry, member, rfl⟩ := List.mem_map.mp listed
    rw [← OrderedMap.get?_eq_some_iff] at member
    exact isName_of_mem_placesTo names entry (OrderedMap.mem_of_get?_ofList member)

/-- Writing and removing keep names names. -/
theorem HasNames.write (named : tree.HasNames) (path : String) (entry : FileEntry) :
    (tree.write path entry).HasNames := by
  have names := named.placeOf path
  have parents : ∀ name ∈ (tree.placeOf path).dropLast, IsName name :=
    fun name member => names name (List.dropLast_subset _ member)
  rw [FileTree.write]
  split
  · exact named
  · refine ⟨named.here, ?_⟩
    intro place listed
    rw [OrderedMap.mem_keys_insert, OrderedMap.mem_keys_insertAll] at listed
    rcases listed with rfl | above | before
    · exact names
    · obtain ⟨entry, member, rfl⟩ := List.mem_map.mp above
      exact isName_of_mem_placesTo parents entry member
    · exact named.entries place before

end FileTree

end ChatCommands
