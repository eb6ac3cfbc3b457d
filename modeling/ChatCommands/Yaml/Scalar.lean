/-
# The text of YAML scalars

The three ways to write a scalar: plain, quoted and as a block. Lines of a plain
or quoted scalar are folded: a single break between two lines becomes a space,
and of several breaks all but the first are kept. A block keeps its breaks or
folds them, and its header says what becomes of the breaks at its end.
-/

import ChatCommands.Number.Literal
import ChatCommands.Yaml.Cursor

namespace ChatCommands.Yaml

/-! ## Folding -/

/-- A scalar that is being read over several lines. -/
structure Folding where
  /-- What has been read for good. -/
  text : String
  /-- Gaps read after it on the same line. -/
  gaps : String
  /-- The first break read after it. -/
  firstBreak : String
  /-- The breaks read after the first one. -/
  moreBreaks : String
  /-- Whether the line has been left since the last character of the text. -/
  onNewLine : Bool

namespace Folding

/-- Nothing has been read. -/
def empty : Folding := ⟨"", "", "", "", false⟩

/-- Add a character. -/
def push (folding : Folding) (c : Char) : Folding :=
  { folding with text := folding.text.push c }

/-- Decide what the gaps or breaks read last become in the text. -/
def join (folding : Folding) : Folding :=
  let between :=
    if !folding.onNewLine then folding.gaps
    else if folding.firstBreak.startsWith "\n" then
      if folding.moreBreaks.isEmpty then " " else folding.moreBreaks
    else folding.firstBreak ++ folding.moreBreaks
  ⟨folding.text ++ between, "", "", "", false⟩

/-- Add a line break to what was read after the text. -/
def addBreak (folding : Folding) (found : String) : Folding :=
  if folding.onNewLine then { folding with moreBreaks := folding.moreBreaks ++ found }
  else { folding with gaps := "", firstBreak := found, onNewLine := true }

/-- Read gaps and breaks, at most `fuel` of them. On a new line a tab must not
stand before the column `floor`. -/
def blanks? (floor : Nat) : Nat → Cursor → Folding → Option (Cursor × Folding)
  | 0, cursor, folding => some (cursor, folding)
  | fuel + 1, cursor, folding =>
    match cursor.rest with
    | [] => some (cursor, folding)
    | c :: _ =>
      if isGap c then
        if folding.onNewLine then
          if c == '\t' && cursor.column < floor then none
          else blanks? floor fuel (cursor.skip 1) folding
        else blanks? floor fuel (cursor.skip 1) { folding with gaps := folding.gaps.push c }
      else if isBreak c then
        let (found, after) := cursor.takeBreak
        blanks? floor fuel after (folding.addBreak found)
      else some (cursor, folding)

end Folding

/-! ## Plain scalars -/

/-- A character with a meaning of its own inside brackets and braces. -/
def isFlowMark (c : Char) : Bool :=
  c == ',' || c == '[' || c == ']' || c == '\x7b' || c == '\x7d'

/-- Read the characters of a plain scalar up to the next blank or the end of the
scalar. -/
def plainWord? (inFlow : Bool) : Nat → Cursor → Folding → Option (Cursor × Folding)
  | 0, cursor, folding => some (cursor, folding)
  | fuel + 1, cursor, folding =>
    match cursor.rest with
    | [] => some (cursor, folding)
    | c :: rest =>
      let followed : Bool :=
        match rest with
        | next :: _ => isFlowMark next || next == '?'
        | [] => false
      if isGap c || isBreak c then some (cursor, folding)
      else if inFlow && c == ':' && followed then none
      else if (c == ':' && cursor.endsAt 1) || (inFlow && isFlowMark c) then
        some (cursor, folding)
      else
        let folding :=
          if folding.onNewLine || !folding.gaps.isEmpty then folding.join else folding
        plainWord? inFlow fuel (cursor.skip 1) (folding.push c)

/-- Read a plain scalar whose further lines must reach the column `floor`. -/
def plainWithin? (inFlow : Bool) (floor : Nat) :
    Nat → Cursor → Folding → Option (Cursor × Folding)
  | 0, cursor, folding => some (cursor, folding)
  | fuel + 1, cursor, folding =>
    if cursor.atAnyDocumentMarker || cursor.sees 0 '#' then some (cursor, folding)
    else
      match plainWord? inFlow cursor.rest.length cursor folding with
      | none => none
      | some (cursor, folding) =>
        if !cursor.atBlank then some (cursor, folding)
        else
          match Folding.blanks? floor cursor.rest.length cursor folding with
          | none => none
          | some (cursor, folding) =>
            if !inFlow && cursor.column < floor then some (cursor, folding)
            else plainWithin? inFlow floor fuel cursor folding

/-- Read a plain scalar. The result also says whether the scalar was followed by a
line break. -/
def plain? (inFlow : Bool) (floor : Nat) (cursor : Cursor) :
    Option (String × Bool × Cursor) :=
  (plainWithin? inFlow floor (cursor.rest.length + 1) cursor .empty).map
    fun (after, folding) => (folding.text, folding.onNewLine, after)

/-! ## Quoted scalars -/

/-- What the escape of a single letter stands for. -/
def escaped? : Char → Option Char
  | '0' => some (Char.ofNat 0)
  | 'a' => some (Char.ofNat 0x07)
  | 'b' => some (Char.ofNat 0x08)
  | 't' => some '\t'
  | '\t' => some '\t'
  | 'n' => some '\n'
  | 'v' => some (Char.ofNat 0x0B)
  | 'f' => some (Char.ofNat 0x0C)
  | 'r' => some '\r'
  | 'e' => some (Char.ofNat 0x1B)
  | ' ' => some ' '
  | '"' => some '"'
  | '/' => some '/'
  | '\\' => some '\\'
  | 'N' => some (Char.ofNat 0x85)
  | '_' => some (Char.ofNat 0xA0)
  | 'L' => some (Char.ofNat 0x2028)
  | 'P' => some (Char.ofNat 0x2029)
  | _ => none

/-- How many hexadecimal digits follow the letter of an escape. -/
def escapeWidth : Char → Nat
  | 'x' => 2
  | 'u' => 4
  | 'U' => 8
  | _ => 0

/-- The value of hexadecimal digits. -/
def hexValue? (digits : List Char) : Option Nat :=
  digits.foldl
    (fun total? c => total?.bind fun total => (Number.digitIn? 16 c).map (16 * total + ·))
    (some 0)

/-- Read the escape that starts with a backslash and the given letter. -/
def escape? (letter : Char) (cursor : Cursor) : Option (Char × Cursor) :=
  let width := escapeWidth letter
  if width = 0 then (escaped? letter).map fun c => (c, cursor.skip 2)
  else
    let digits := (cursor.rest.drop 2).take width
    if digits.length < width then none
    else
      match hexValue? digits with
      | none => none
      | some value =>
        if (0xD800 ≤ value ∧ value ≤ 0xDFFF) ∨ value > 0x10FFFF then none
        else some (Char.ofNat value, cursor.skip (2 + width))

/-- Read the characters of a quoted scalar up to the next blank, the closing quote
or an escaped line break. -/
def quotedWord? (single : Bool) : Nat → Cursor → Folding → Option (Cursor × Folding)
  | 0, cursor, folding => some (cursor, folding)
  | fuel + 1, cursor, folding =>
    match cursor.rest with
    | [] => some (cursor, folding)
    | c :: rest =>
      if isGap c || isBreak c then some (cursor, folding)
      else if single then
        if c == '\'' then
          if rest.head? == some '\'' then
            quotedWord? single fuel (cursor.skip 2) (folding.push '\'')
          else some (cursor, folding)
        else quotedWord? single fuel (cursor.skip 1) (folding.push c)
      else if c == '"' then some (cursor, folding)
      else if c == '\\' then
        match rest with
        | [] => none
        | letter :: _ =>
          if isBreak letter then
            some ((cursor.skip 1).takeBreak.2, { folding with onNewLine := true })
          else
            match escape? letter cursor with
            | none => none
            | some (found, after) => quotedWord? single fuel after (folding.push found)
      else quotedWord? single fuel (cursor.skip 1) (folding.push c)

/-- Read the rest of a quoted scalar after its opening quote. -/
def quotedWithin? (single : Bool) : Nat → Cursor → Folding → Option (String × Cursor)
  | 0, _, _ => none
  | fuel + 1, cursor, folding =>
    if cursor.atAnyDocumentMarker || cursor.atEnd then none
    else
      match quotedWord? single cursor.rest.length cursor folding with
      | none => none
      | some (cursor, folding) =>
        if cursor.sees 0 (if single then '\'' else '"') then
          some (folding.text, cursor.skip 1)
        else
          match Folding.blanks? 0 cursor.rest.length cursor folding with
          | none => none
          | some (cursor, folding) => quotedWithin? single fuel cursor folding.join

/-- Read a quoted scalar, from its opening quote to its closing one. -/
def quoted? (single : Bool) (cursor : Cursor) : Option (String × Cursor) :=
  quotedWithin? single (cursor.rest.length + 1) (cursor.skip 1) .empty

/-! ## Block scalars -/

/-- What becomes of the line breaks at the end of a block. -/
inductive Chomping where
  /-- All of them are dropped. -/
  | strip
  /-- The first one is kept. -/
  | clip
  /-- All of them are kept. -/
  | keep
deriving DecidableEq

/-- Read an indicator of what becomes of the last breaks. -/
def chomping? (cursor : Cursor) : Option (Chomping × Cursor) :=
  if cursor.sees 0 '+' then some (.keep, cursor.skip 1)
  else if cursor.sees 0 '-' then some (.strip, cursor.skip 1)
  else none

/-- Read an indicator of the block's indentation. Zero is refused. -/
def increment? (cursor : Cursor) : Option (Nat × Cursor) :=
  match cursor.rest with
  | c :: _ =>
    match Number.digitValue? c with
    | some 0 => none
    | some value => some (value, cursor.skip 1)
    | none => some (0, cursor)
  | [] => some (0, cursor)

/-- Read the header of a block after its first character: the two indicators in
either order, and the rest of the line. An increment of zero means that the
indentation is found out from the lines. -/
def header? (cursor : Cursor) : Option (Chomping × Nat × Cursor) :=
  let indicators? : Option (Chomping × Nat × Cursor) :=
    match chomping? cursor with
    | some (chomping, cursor) =>
      (increment? cursor).map fun (increment, cursor) => (chomping, increment, cursor)
    | none =>
      (increment? cursor).map fun (increment, cursor) =>
        match if increment = 0 then none else chomping? cursor with
        | some (chomping, cursor) => (chomping, increment, cursor)
        | none => (.clip, increment, cursor)
  match indicators? with
  | none => none
  | some (chomping, increment, cursor) =>
    cursor.finishLine?.map fun cursor => (chomping, increment, cursor)

/-- Read empty lines and the indentation of the line after them. With an `indent`
of zero all spaces are passed over, and the widest indentation met is returned. -/
def blockBreaks? (indent : Nat) :
    Nat → Cursor → String → Nat → Option (String × Nat × Cursor)
  | 0, cursor, breaks, widest => some (breaks, widest, cursor)
  | fuel + 1, cursor, breaks, widest =>
    let spaces := (cursor.rest.takeWhile (· == ' ')).length
    let allowed := if indent = 0 then spaces else min spaces (indent - cursor.column)
    let cursor := cursor.skip allowed
    let widest := max widest cursor.column
    if (indent = 0 ∨ cursor.column < indent) ∧ cursor.sees 0 '\t' then none
    else if cursor.atBreakOrEnd && !cursor.atEnd then
      let (found, after) := cursor.takeBreak
      blockBreaks? indent fuel after (breaks ++ found) widest
    else some (breaks, widest, cursor)

/-- A block that is being read. -/
structure Block where
  /-- What has been read for good. -/
  text : String
  /-- The break at the end of the line read last. -/
  lastBreak : String
  /-- The empty lines after it. -/
  emptyLines : String
  /-- Whether the line read last starts with a gap. -/
  afterGap : Bool

/-- Add the breaks between two lines. A folded block turns a single break between
two lines that start without a gap into a space. -/
def Block.joinLine (block : Block) (literal beforeGap : Bool) : String :=
  let fold :=
    !literal && block.lastBreak.startsWith "\n" && !block.afterGap && !beforeGap
  if fold then
    block.text ++ (if block.emptyLines.isEmpty then " " else block.emptyLines)
  else block.text ++ block.lastBreak ++ block.emptyLines

/-- Read the lines of a block with the given indentation. -/
def blockLines? (literal : Bool) (indent : Nat) :
    Nat → Cursor → Block → Option (Block × Cursor)
  | 0, cursor, block => some (block, cursor)
  | fuel + 1, cursor, block =>
    if cursor.column ≠ indent ∨ cursor.atEnd then some (block, cursor)
    else
      let gap : Bool :=
        match cursor.rest with
        | c :: _ => isGap c
        | [] => false
      let line := cursor.rest.takeWhile (!isBreak ·)
      let text := block.joinLine literal gap ++ String.ofList line
      let (found, after) := (cursor.skip line.length).takeBreak
      match blockBreaks? indent (after.rest.length + 1) after "" 0 with
      | none => none
      | some (breaks, _, after) => blockLines? literal indent fuel after ⟨text, found, breaks, gap⟩

/-- Read a block inside a collection with the given indentation, `none` outside
all collections. -/
def block? (literal : Bool) (parent? : Option Nat) (cursor : Cursor) :
    Option (String × Cursor) :=
  match header? (cursor.skip 1) with
  | none => none
  | some (chomping, increment, cursor) =>
    let declared := if increment = 0 then 0 else parent?.getD 0 + increment
    match blockBreaks? declared (cursor.rest.length + 1) cursor "" 0 with
    | none => none
    | some (breaks, widest, cursor) =>
      let least := match parent? with
        | some parent => parent + 1
        | none => 1
      let indent := if declared = 0 then max widest (max least 1) else declared
      match blockLines? literal indent (cursor.rest.length + 1) cursor ⟨"", "", breaks, false⟩ with
      | none => none
      | some (block, cursor) =>
        let tail := match chomping with
          | .strip => ""
          | .clip => block.lastBreak
          | .keep => block.lastBreak ++ block.emptyLines
        some (block.text ++ tail, cursor)

end ChatCommands.Yaml
