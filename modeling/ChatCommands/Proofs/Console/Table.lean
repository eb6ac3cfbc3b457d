/-
# Columns that line up

The width of a column is the greatest extent of its header and of the cells under it, where only
visible characters count. Every cell is filled up to that width, so in every line a column begins
after as many visible characters as the columns before it and the blanks between them take,
whatever style codes the cells hold. A line has no other cells than those under a header, and
none of them is shortened but by the blanks that the end of a line loses.

Main statement: `table_in_columns`.
-/

import ChatCommands.Console.Table
import ChatCommands.Proofs.Console.Style
import ChatCommands.Proofs.Text.Blank
import Mathlib.Algebra.GroupWithZero.Nat
import Mathlib.Data.List.Induction
import Mathlib.Order.Bounds.Basic

namespace ChatCommands.Console

open Text (AllBlank isBlank trimEnd)

/-- What a column has to have room for: its header and the visible text of the cells under it. -/
def extents (headers : List String) (rows : List (List String)) (column : Nat) : Set Nat :=
  {extent | (∃ header, headers[column]? = some header ∧ extent = header.length) ∨
    ∃ row ∈ rows, ∃ cell, row[column]? = some cell ∧ extent = visibleWidth cell}

/-- How many visible characters of a line come before a column. -/
def columnStart (widths : List Nat) (column : Nat) : Nat :=
  ((widths.take column).map (· + 2)).sum

/-- A text has cells in columns of the given widths. -/
structure InColumns (widths : List Nat) (cells : List String) (text : List Char) : Prop where
  /-- Every cell that has a column stands where the column begins. -/
  stands : ∀ (column : Nat) (cell : String), column < widths.length →
    cells[column]? = some cell → ∃ before after, text = before ++ (cell.toList ++ after) ∧
        (visible before).length = columnStart widths column
  /-- The text consists of these cells, in their order, and the spaces after them. -/
  spaced : ∃ gaps : List Nat, gaps.length = min cells.length widths.length ∧
    text = (List.zipWith (fun cell gap => cell.toList ++ List.replicate gap ' ') cells gaps).flatten

/-- A line shows cells in columns of the given widths, but for blanks at its end. -/
structure ShowsRow (widths : List Nat) (cells : List String) (line : List Char) : Prop where
  trimmed : ∀ c ∈ line.getLast?, isBlank c = false
  columns : ∃ trail, AllBlank trail ∧ InColumns widths cells (line ++ trail)

variable {widths : List Nat} {cells : List String} {headers : List String}
  {rows : List (List String)}

/-! ## Widths -/

theorem length_widen (widths : List Nat) (cells : List String) :
    (widen widths cells).length = widths.length := by
  induction widths generalizing cells with
  | nil => rfl
  | cons width widths ih =>
      cases cells with
      | nil => rfl
      | cons cell cells => exact congrArg (· + 1) (ih cells)

/-- A column is made wide enough for the cell that is in it, if there is one. -/
theorem getElem?_widen (widths : List Nat) (cells : List String) (column : Nat) :
    (widen widths cells)[column]? = widths[column]?.map fun width =>
      match cells[column]? with
      | some cell => max width (visibleWidth cell)
      | none => width := by
  induction widths generalizing cells column with
  | nil => rfl
  | cons width widths ih =>
      cases cells with
      | nil => simp [widen]
      | cons cell cells =>
          cases column with
          | zero => rfl
          | succ column => exact ih cells column

theorem columnWidths_concat (headers : List String) (rows : List (List String))
    (row : List String) :
    columnWidths headers (rows ++ [row]) = widen (columnWidths headers rows) row :=
  List.foldl_concat _ _ _ _

theorem length_columnWidths (headers : List String) (rows : List (List String)) :
    (columnWidths headers rows).length = headers.length := by
  induction rows using List.reverseRecOn with
  | nil => exact List.length_map _
  | append_singleton rows row ih => rw [columnWidths_concat, length_widen, ih]

theorem extents_concat (headers : List String) (rows : List (List String)) (row : List String)
    (column : Nat) :
    extents headers (rows ++ [row]) column =
      extents headers rows column ∪ {extent | ∃ cell, row[column]? = some cell ∧
        extent = visibleWidth cell} := by
  ext extent
  simp only [extents, List.mem_append, List.mem_singleton, Set.mem_ofPred_eq, Set.mem_union,
    or_and_right, exists_or, exists_eq_left, or_assoc]

/-- The width of a column is the greatest extent in it. -/
theorem isGreatest_columnWidths {column width : Nat}
    (there : (columnWidths headers rows)[column]? = some width) :
    IsGreatest (extents headers rows column) width := by
  induction rows using List.reverseRecOn generalizing width with
  | nil =>
      rw [columnWidths, List.foldl_nil, List.getElem?_map, Option.map_eq_some_iff] at there
      obtain ⟨header, here, rfl⟩ := there
      refine ⟨.inl ⟨header, here, rfl⟩, ?_⟩
      rintro extent (⟨other, again, rfl⟩ | ⟨row, member, -⟩)
      · rw [here] at again
        cases again
        exact le_rfl
      · cases member
  | append_singleton rows row ih =>
      rw [columnWidths_concat, getElem?_widen, Option.map_eq_some_iff] at there
      obtain ⟨before, here, rfl⟩ := there
      rw [extents_concat]
      cases inRow : row[column]? with
      | none => simpa using ih here
      | some cell => simpa using (ih here).union isGreatest_singleton

/-! ## Lines -/

/-- Cells that have room in columns of the given widths. -/
structure Fit (widths : List Nat) (cells : List String) : Prop where
  closes : ∀ cell ∈ cells, ClosesStyles cell.toList
  within : ∀ (column : Nat) (cell : String) (width : Nat), cells[column]? = some cell →
    widths[column]? = some width → visibleWidth cell ≤ width

theorem Fit.tail {width : Nat} {cell : String} (fit : Fit (width :: widths) (cell :: cells)) :
    Fit widths cells where
  closes cell member := fit.closes cell (List.mem_cons_of_mem _ member)
  within column := fit.within (column + 1)

/-- The text of a line before its end is trimmed. -/
def lineText (widths : List Nat) (cells : List String) : List Char :=
  (String.intercalate "  " (List.zipWith padCell cells widths)).toList

theorem lineText_nil_left (cells : List String) : lineText [] cells = [] := by
  rw [lineText, List.zipWith_nil_right, String.intercalate_nil]
  rfl

theorem lineText_nil_right (widths : List Nat) : lineText widths [] = [] := by
  rw [lineText, List.zipWith_nil_left, String.intercalate_nil]
  rfl

/-- After a cell come spaces, up to the next column if a cell is shown there. -/
theorem exists_gap_lineText (width : Nat) (cell : String) (widths : List Nat)
    (cells : List String) :
    ∃ gap, lineText (width :: widths) (cell :: cells) =
        cell.toList ++ List.replicate gap ' ' ++ lineText widths cells ∧
      (widths ≠ [] → cells ≠ [] → gap = width - visibleWidth cell + 2) := by
  cases widths with
  | nil =>
      refine ⟨width - visibleWidth cell, ?_, fun more => absurd rfl more⟩
      simp [lineText, padCell]
  | cons next widths =>
      cases cells with
      | nil =>
          refine ⟨width - visibleWidth cell, ?_, fun _ more => absurd rfl more⟩
          simp [lineText, padCell]
      | cons second cells =>
          refine ⟨width - visibleWidth cell + 2, ?_, fun _ _ => rfl⟩
          rw [lineText, List.zipWith_cons_cons, List.zipWith_cons_cons,
            String.intercalate_cons_cons, ← List.zipWith_cons_cons, String.toList_append,
            String.toList_append, List.replicate_add, padCell, String.toList_append,
            String.toList_ofList, ← List.append_assoc cell.toList]
          rfl

theorem escape_not_mem_spaces (gap : Nat) : escape ∉ List.replicate gap ' ' :=
  fun member => absurd (List.eq_of_mem_replicate member) (by decide)

theorem ClosesStyles.append_spaces {cs : List Char} (closes : ClosesStyles cs) (gap : Nat) :
    ClosesStyles (cs ++ List.replicate gap ' ') :=
  closes.append (closesStyles_of_not_mem (escape_not_mem_spaces gap))

theorem length_visible_append_spaces {cs : List Char} (closes : ClosesStyles cs) (gap : Nat) :
    (visible (cs ++ List.replicate gap ' ')).length = (visible cs).length + gap := by
  rw [visible_append closes, visible_of_not_mem (escape_not_mem_spaces gap), List.length_append,
    List.length_replicate]

theorem inColumns_nil : InColumns widths [] [] where
  stands column cell _ there := by
    cases there
  spaced := ⟨[], by simp, rfl⟩

/-- A cell and its spaces in front move the other cells one column on. -/
theorem InColumns.cons {width gap : Nat} {cell : String} {text : List Char}
    (closes : ClosesStyles cell.toList) (inRest : InColumns widths cells text)
    (fills : widths ≠ [] → cells ≠ [] → visibleWidth cell + gap = width + 2) :
    InColumns (width :: widths) (cell :: cells)
      (cell.toList ++ List.replicate gap ' ' ++ text) where
  stands column other inside there := by
    cases column with
    | zero =>
        cases there
        exact ⟨[], List.replicate gap ' ' ++ text, by simp, rfl⟩
    | succ column =>
        rw [List.length_cons, Nat.succ_lt_succ_iff] at inside
        rw [List.getElem?_cons_succ] at there
        obtain ⟨before, after, rfl, start⟩ := inRest.stands column other inside there
        have filled := fills (by rintro rfl; cases inside) (by rintro rfl; cases there)
        refine ⟨cell.toList ++ List.replicate gap ' ' ++ before, after, by simp, ?_⟩
        rw [visible_append (closes.append_spaces gap), List.length_append,
          length_visible_append_spaces closes, start]
        simp only [columnStart, List.take_succ_cons, List.map_cons, List.sum_cons]
        rw [← filled]
        rfl
  spaced := by
    obtain ⟨gaps, size, rfl⟩ := inRest.spaced
    exact ⟨gap :: gaps, by simp [size], rfl⟩

theorem inColumns_lineText (fit : Fit widths cells) :
    InColumns widths cells (lineText widths cells) := by
  induction cells generalizing widths with
  | nil =>
      rw [lineText_nil_right]
      exact inColumns_nil
  | cons cell cells ih =>
      cases widths with
      | nil =>
          rw [lineText_nil_left]
          exact ⟨fun _ _ inside => absurd inside (Nat.not_lt_zero _), [], by simp, rfl⟩
      | cons width widths =>
          obtain ⟨gap, split, size⟩ := exists_gap_lineText width cell widths cells
          have room : visibleWidth cell ≤ width := fit.within 0 cell width rfl rfl
          -- The cell fills its column, so the other ones begin after its width and two spaces.
          rw [split]
          refine (ih fit.tail).cons (fit.closes cell List.mem_cons_self) fun more others => ?_
          rw [size more others]
          omega

theorem showsRow_tableLine (fit : Fit widths cells) :
    ShowsRow widths cells (tableLine widths cells).toList := by
  rw [tableLine, String.toList_ofList, ← lineText]
  obtain ⟨trail, blank, split⟩ := Text.exists_trimEnd_append (lineText widths cells)
  refine ⟨Text.isBlank_getLast?_trimEnd, trail, blank, ?_⟩
  have shown := inColumns_lineText fit
  rwa [← split] at shown

theorem not_mem_tableLine (fit : Fit widths cells) {c : Char} (solid : c ≠ ' ')
    (absent : ∀ cell ∈ cells, c ∉ cell.toList) : c ∉ (tableLine widths cells).toList := by
  intro member
  obtain ⟨trail, -, -, gaps, -, text⟩ := (showsRow_tableLine fit).columns
  have inText := List.mem_append_left trail member
  rw [text, List.mem_flatten] at inText
  obtain ⟨part, inParts, inPart⟩ := inText
  rw [← List.map_uncurry_zip_eq_zipWith, List.mem_map] at inParts
  obtain ⟨⟨cell, gap⟩, paired, rfl⟩ := inParts
  rcases List.mem_append.mp inPart with inCell | inGap
  · exact absent cell (List.of_mem_zip paired).1 inCell
  · exact solid (List.eq_of_mem_replicate inGap)

/-! ## Tables -/

theorem visibleWidth_of_not_mem {text : String} (plain : escape ∉ text.toList) :
    visibleWidth text = text.length := by
  rw [visibleWidth, visible_of_not_mem plain, String.length_toList]

theorem not_mem_dashes {c : Char} (other : c ≠ '-') (width : Nat) :
    c ∉ (String.ofList (List.replicate width '-')).toList := by
  rw [String.toList_ofList]
  exact fun member => other (List.eq_of_mem_replicate member)

theorem fit_headers (plain : ∀ header ∈ headers, escape ∉ header.toList) :
    Fit (columnWidths headers rows) headers where
  closes header member := closesStyles_of_not_mem (plain header member)
  within column header width here there := by
    rw [visibleWidth_of_not_mem (plain header (List.mem_of_getElem? here))]
    exact (isGreatest_columnWidths there).2 (.inl ⟨header, here, rfl⟩)

theorem fit_of_mem_rows {row : List String} (member : row ∈ rows)
    (closes : ∀ cell ∈ row, ClosesStyles cell.toList) : Fit (columnWidths headers rows) row where
  closes := closes
  within _ cell _ here there :=
    (isGreatest_columnWidths there).2 (.inr ⟨row, member, cell, here, rfl⟩)

theorem fit_ruleCells (widths : List Nat) : Fit widths (ruleCells widths) where
  closes cell member := by
    obtain ⟨width, -, rfl⟩ := List.mem_map.mp member
    exact closesStyles_of_not_mem (not_mem_dashes (by decide) width)
  within column cell width here there := by
    rw [ruleCells, List.getElem?_map, there] at here
    cases here
    rw [visibleWidth_of_not_mem (not_mem_dashes (by decide) width), String.length_ofList,
      List.length_replicate]

/-- The columns of a table are as wide as the greatest extent in them. A table has two lines and
one for each row: the header, a rule of dashes over the width of every column, and the rows. In
every line the cells that have a header, and no other ones, stand in their columns. -/
theorem table_in_columns (headers : List String) (rows : List (List String))
    (plain : ∀ header ∈ headers, escape ∉ header.toList ∧ '\n' ∉ header.toList)
    (whole : ∀ row ∈ rows, ∀ cell ∈ row, ClosesStyles cell.toList ∧ '\n' ∉ cell.toList) :
    let widths := columnWidths headers rows
    let rule := widths.map fun width => String.ofList (List.replicate width '-')
    let lines := (table headers rows).toList.splitOn '\n'
    widths.length = headers.length ∧
      (∀ column width, widths[column]? = some width →
        IsGreatest (extents headers rows column) width) ∧
      lines.length = 2 + rows.length ∧
      List.Forall₂ (ShowsRow widths) (headers :: rule :: rows) lines := by
  intro widths rule lines
  let printed := headers :: rule :: rows
  have fits : ∀ cells ∈ printed, Fit widths cells ∧ ∀ cell ∈ cells, '\n' ∉ cell.toList := by
    intro cells member
    rcases List.mem_cons.mp member with rfl | member
    · exact ⟨fit_headers fun header there => (plain header there).1,
        fun header there => (plain header there).2⟩
    rcases List.mem_cons.mp member with rfl | member
    · refine ⟨fit_ruleCells widths, fun cell there => ?_⟩
      obtain ⟨width, -, rfl⟩ := List.mem_map.mp there
      exact not_mem_dashes (by decide) width
    · exact ⟨fit_of_mem_rows member fun cell there => (whole cells member cell there).1,
        fun cell there => (whole cells member cell there).2⟩
  have split : lines = printed.map fun cells => (tableLine widths cells).toList := by
    have newline : "\n".toList = ['\n'] := rfl
    simp only [lines]
    rw [table, String.toList_intercalate, newline, List.splitOn_intercalate '\n' ?_ (by simp),
      List.map_map]
    · rfl
    · simp only [List.map_map]
      intro line member
      obtain ⟨cells, there, rfl⟩ := List.mem_map.mp member
      exact not_mem_tableLine (fits cells there).1 (by decide) (fits cells there).2
  refine ⟨length_columnWidths headers rows, fun _ _ => isGreatest_columnWidths, ?_, ?_⟩
  · rw [split, List.length_map]
    simp only [printed, List.length_cons]
    omega
  · rw [split, List.forall₂_map_right_iff, List.forall₂_same]
    exact fun cells member => showsRow_tableLine (fits cells member).1

/-- A painted cell takes no more room than it shows, and a third cell has no header. -/
theorem table_in_columns_ragged :
    let headers := ["Command", "Doc"]
    let ping := ["\x1b[32mping\x1b[0m", "answers", "lost"]
    let rows := [ping, [], ["enable_verbose"]]
    (∀ header ∈ headers, escape ∉ header.toList ∧ '\n' ∉ header.toList) ∧
      (∀ row ∈ rows, ∀ cell ∈ row, ClosesStyles cell.toList ∧ '\n' ∉ cell.toList) ∧
      ShowsRow [14, 7] headers "Command         Doc".toList ∧
      ShowsRow [14, 7] ["--------------", "-------"] "--------------  -------".toList ∧
      ShowsRow [14, 7] ping "\x1b[32mping\x1b[0m            answers".toList ∧
      ShowsRow [14, 7] [] [] ∧ ShowsRow [14, 7] ["enable_verbose"] "enable_verbose".toList := by
  intro headers ping rows
  have plain : ∀ header ∈ headers, escape ∉ header.toList ∧ '\n' ∉ header.toList := by
    decide +kernel
  have whole : ∀ row ∈ rows, ∀ cell ∈ row, ClosesStyles cell.toList ∧ '\n' ∉ cell.toList := by
    decide +kernel
  have lines : (table headers rows).toList.splitOn '\n' =
      ["Command         Doc".toList, "--------------  -------".toList,
        "\x1b[32mping\x1b[0m            answers".toList, [], "enable_verbose".toList] := by
    decide +kernel
  have widths : columnWidths headers rows = [14, 7] := by decide +kernel
  obtain ⟨-, -, -, shown⟩ := table_in_columns headers rows plain whole
  rw [lines, widths] at shown
  obtain ⟨first, shown⟩ := List.forall₂_cons.mp shown
  obtain ⟨second, shown⟩ := List.forall₂_cons.mp shown
  obtain ⟨third, shown⟩ := List.forall₂_cons.mp shown
  obtain ⟨fourth, shown⟩ := List.forall₂_cons.mp shown
  exact ⟨plain, whole, first, second, third, fourth, (List.forall₂_cons.mp shown).1⟩

end ChatCommands.Console
