/-
# Tables

A table is printed with its columns aligned to the left and a rule under the
header. Style codes in a cell take no room. Cells beyond the last header are not
shown, and no line ends in blanks.
-/

import ChatCommands.Console.Style
import ChatCommands.Text.Trim

namespace ChatCommands.Console

/-- The widths of the columns, made wide enough for a row. -/
def widen : List Nat → List String → List Nat
  | width :: widths, cell :: cells => max width (visibleWidth cell) :: widen widths cells
  | widths, _ => widths

/-- The widths of the columns of a table. -/
def columnWidths (headers : List String) (rows : List (List String)) : List Nat :=
  rows.foldl widen (headers.map String.length)

/-- A cell with blanks up to the width of its column. -/
def padCell (cell : String) (width : Nat) : String :=
  cell ++ String.ofList (List.replicate (width - visibleWidth cell) ' ')

/-- A line of a table. -/
def tableLine (widths : List Nat) (cells : List String) : String :=
  String.ofList
    (Text.trimEnd (String.intercalate "  " (List.zipWith padCell cells widths)).toList)

/-- The cells of the rule under the header. -/
def ruleCells (widths : List Nat) : List String :=
  widths.map fun width => String.ofList (List.replicate width '-')

/-- A table with a header. -/
def table (headers : List String) (rows : List (List String)) : String :=
  let widths := columnWidths headers rows
  String.intercalate "\n" ((headers :: ruleCells widths :: rows).map (tableLine widths))

end ChatCommands.Console
