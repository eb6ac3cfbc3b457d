/-
# Finding occurrences in a text

A finder says whether something it looks for begins at a place of a text, how long
it is and what it stands for. Reading a text with a finder from left to right
cuts it into pieces: the occurrences, none of which overlap, and the characters
between them. A later occurrence is looked for only after the end of the one
before it, and what an occurrence stands for is never searched again.
-/

namespace ChatCommands.Text

/-- Something found at a place of a text. -/
structure Found (α : Type) where
  /-- What it stands for. -/
  value : α
  /-- How many characters it takes, at least one. -/
  length : Nat
deriving Repr

/-- A finder is given the character before the place, if there is one, and the
text from the place on. -/
abbrev Finder (α : Type) := Option Char → List Char → Option (Found α)

/-- A piece of a text that has been read with a finder. -/
inductive Piece (α : Type) where
  /-- A character that belongs to no occurrence. -/
  | char (c : Char)
  /-- An occurrence. -/
  | found (value : α)
deriving Repr

variable {α : Type}

/-- The pieces of a text after the character `before`, where `skip` characters
still belong to the occurrence found last. -/
def piecesFrom (find : Finder α) : Option Char → Nat → List Char → List (Piece α)
  | _, _, [] => []
  | _, skip + 1, c :: rest => piecesFrom find (some c) skip rest
  | before, 0, c :: rest =>
    match find before (c :: rest) with
    | some found => .found found.value :: piecesFrom find (some c) (found.length - 1) rest
    | none => .char c :: piecesFrom find (some c) 0 rest

/-- The pieces of a text. -/
def pieces (find : Finder α) (cs : List Char) : List (Piece α) := piecesFrom find none 0 cs

/-- What a piece becomes if every occurrence is replaced. -/
def Piece.render (replacement : α → List Char) : Piece α → List Char
  | .char c => [c]
  | .found value => replacement value

/-- A text with every occurrence replaced. -/
def replaceFound (find : Finder α) (replacement : α → List Char) (cs : List Char) : List Char :=
  (pieces find cs).flatMap (Piece.render replacement)

/-- A text without characters has no pieces. -/
@[simp] theorem piecesFrom_nil (find : Finder α) (before : Option Char) (skip : Nat) :
    piecesFrom find before skip [] = [] := by
  cases skip <;> rfl

/-- Nothing is found where there is nothing. -/
@[simp] theorem replaceFound_nil (find : Finder α) (replacement : α → List Char) :
    replaceFound find replacement [] = [] := by
  simp [replaceFound, pieces]

end ChatCommands.Text
