/-
# Edit distance

The least number of characters to insert, remove or change that turns one text
into another. It is computed by rows: the row of a beginning of the first text
holds its distances to all beginnings of the second.
-/

namespace ChatCommands.Text

/-- The rest of a row: `left` is the distance just found, `diagonal` the one above
it, and `above` holds what is left of the row before. -/
def rowAfter (c : Char) : List Char → Nat → Nat → List Nat → List Nat
  | d :: target, left, diagonal, up :: above =>
    let here := min (min (up + 1) (left + 1)) (if c = d then diagonal else diagonal + 1)
    here :: rowAfter c target here up above
  | _, _, _, _ => []

/-- The row of a text that is longer by the character `c`. -/
def nextRow (target : List Char) (row : List Nat) (c : Char) : List Nat :=
  match row with
  | [] => []
  | diagonal :: above => (diagonal + 1) :: rowAfter c target (diagonal + 1) diagonal above

/-- The row of the empty text: everything has to be inserted. -/
def firstRow (target : List Char) : List Nat := List.range (target.length + 1)

/-- The edit distance between two lists of characters. -/
def editDistance (source target : List Char) : Nat :=
  (source.foldl (nextRow target) (firstRow target)).getLast?.getD 0

end ChatCommands.Text
