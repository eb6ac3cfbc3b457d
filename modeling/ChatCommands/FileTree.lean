/-
# Trees of files

The files and directories a host can read, as they are at one moment. Paths are
texts with slashes; one that does not begin with a slash starts from the directory
the tree is looked at from. Looking something up fails in the ways file systems
fail, and with their words.
-/

import ChatCommands.OrderedMap

namespace ChatCommands

/-- What a name in a directory stands for. -/
inductive FileEntry where
  | file (content : ByteArray)
  | directory
deriving Inhabited

/-- Why a file cannot be read. -/
inductive FileError where
  /-- There is nothing under the path. -/
  | notFound
  /-- The path goes through something that is not a directory. -/
  | notDirectory
  /-- There is a directory where a file is expected. -/
  | isDirectory
  /-- The file does not hold text. -/
  | notText
deriving DecidableEq, Repr, Inhabited

/-- The wording of a file error. -/
def FileError.message : FileError → String
  | notFound => "No such file or directory (os error 2)"
  | notDirectory => "Not a directory (os error 20)"
  | isDirectory => "Is a directory (os error 21)"
  | notText => "stream did not contain valid UTF-8"

/-! ## Paths -/

namespace FilePath

/-- The parts of a path between its slashes. -/
def parts (path : String) : List String := (path.toList.splitOn '/').map String.ofList

/-- Whether a path starts from the root. -/
def isAbsolute (path : String) : Bool := path.toList.head? == some '/'

/-- The last name in a path, if it ends in a name. Slashes and single points at the
end do not matter. -/
def name? (path : String) : Option String :=
  match (parts path).reverse.dropWhile fun part => part == "" || part == "." with
  | [] => none
  | last :: _ => if last == ".." then none else some last

/-- A name cut at its last point, if there is a point after the first character. -/
def cutAtLastPoint (name : String) : String × Option String :=
  let reversed := name.toList.reverse
  let extension := reversed.takeWhile (· ≠ '.')
  match reversed.dropWhile (· ≠ '.') with
  | _ :: stem =>
    if stem.isEmpty || name == ".." then (name, none)
    else (String.ofList stem.reverse, some (String.ofList extension.reverse))
  | [] => (name, none)

/-- The last name in a path without its extension; empty if the path has none. -/
def stem (path : String) : String :=
  match name? path with
  | some name => (cutAtLastPoint name).1
  | none => ""

/-- The extension of the last name in a path. -/
def extension? (path : String) : Option String :=
  (name? path).bind fun name => (cutAtLastPoint name).2

/-- A path from within a directory. A path from the root stays what it is. -/
def join (directory path : String) : String :=
  if isAbsolute path || directory.isEmpty then path
  else if directory.toList.getLast? == some '/' then directory ++ path
  else directory ++ "/" ++ path

end FilePath

/-! ## Trees -/

/-- The files and directories there are, by the names on the way to them from the
root. Every directory on the way to an entry is an entry too, except for the root. -/
structure FileTree where
  /-- The directory the tree is looked at from. -/
  here : List String
  entries : OrderedMap (List String) FileEntry

namespace FileTree

/-- The places on the way to a place, itself included and the root excluded. -/
def placesTo (place : List String) : List (List String) :=
  (List.range place.length).map fun count => place.take (count + 1)

/-- The tree without files, looked at from a directory. -/
def emptyAt (here : List String) : FileTree where
  here := here
  entries := .ofList ((placesTo here).map fun place => (place, .directory))

/-- What is at a place of the tree. -/
def entry? (tree : FileTree) (place : List String) : Option FileEntry :=
  if place.isEmpty then some .directory else tree.entries.get? place

/-- Go from a place on along the parts of a path. Every step starts from a directory;
the root is its own parent. -/
def walk (tree : FileTree) : List String → List String → Except FileError (List String × FileEntry)
  | place, [] =>
    match tree.entry? place with
    | some entry => .ok (place, entry)
    | none => .error .notFound
  | place, part :: rest =>
    match tree.entry? place with
    | none => .error .notFound
    | some (.file _) => .error .notDirectory
    | some .directory =>
      if part == "" || part == "." then walk tree place rest
      else if part == ".." then walk tree place.dropLast rest
      else walk tree (place ++ [part]) rest

/-- The place a path leads to, and what is there. -/
def find (tree : FileTree) (path : String) : Except FileError (List String × FileEntry) :=
  if path.isEmpty then .error .notFound
  else tree.walk (if FilePath.isAbsolute path then [] else tree.here) (FilePath.parts path)

/-- Whether there is anything under a path. -/
def contains (tree : FileTree) (path : String) : Bool :=
  match tree.find path with
  | .ok _ => true
  | .error _ => false

/-- Whether a path leads to a directory. -/
def isDirectory (tree : FileTree) (path : String) : Bool :=
  match tree.find path with
  | .ok (_, .directory) => true
  | _ => false

/-- The text of a file. -/
def readText (tree : FileTree) (path : String) : Except FileError String :=
  match tree.find path with
  | .error error => .error error
  | .ok (_, .directory) => .error .isDirectory
  | .ok (_, .file content) =>
    match String.fromUTF8? content with
    | some text => .ok text
    | none => .error .notText

/-- The names of the files in a directory, in increasing order. -/
def fileNames (tree : FileTree) (directory : String) : List String :=
  match tree.find directory with
  | .ok (place, .directory) =>
    let names := tree.entries.entries.filterMap fun
      | (location, .file _) =>
        if location.dropLast = place then location.getLast? else none
      | (_, .directory) => none
    names.mergeSort fun first second => decide (first ≤ second)
  | _ => []

/-! ## Changing a tree -/

/-- The place a path leads to if every name on the way is a directory. -/
def placeOf (tree : FileTree) (path : String) : List String :=
  (FilePath.parts path).foldl
    (fun place part =>
      if part == "" || part == "." then place
      else if part == ".." then place.dropLast
      else place ++ [part])
    (if FilePath.isAbsolute path then [] else tree.here)

/-- The tree with an entry put in place of what was under a path, and with the
directories on the way to it. -/
def write (tree : FileTree) (path : String) (entry : FileEntry) : FileTree :=
  let place := tree.placeOf path
  if place.isEmpty then tree
  else
    { tree with
      entries :=
        (tree.entries.insertAll
          ((placesTo place.dropLast).map fun parent => (parent, .directory))).insert place entry }

/-- The tree without what was under a path. -/
def remove (tree : FileTree) (path : String) : FileTree :=
  let place := tree.placeOf path
  { tree with entries := tree.entries.filter fun other _ => !place.isPrefixOf other }

end FileTree

end ChatCommands
