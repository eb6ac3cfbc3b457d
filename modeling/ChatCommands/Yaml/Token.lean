/-
# Tokens of YAML

From a text to its tokens. Indentation turns into tokens that open and close
block collections. Whether a scalar is a key shows only at the colon after it, so
the scanner remembers where a key may have started and puts the tokens of the key
there afterwards.
-/

import ChatCommands.Yaml.Tag

namespace ChatCommands.Yaml

/-- A token. -/
inductive Token where
  /-- The declaration of the format's version. -/
  | version (major minor : Nat)
  /-- The declaration of a tag handle. -/
  | tagHandle (handle : String) (expansion : List UInt8)
  /-- The marker of a document's start. -/
  | documentStart
  /-- The marker of a document's end. -/
  | documentEnd
  /-- The start of a block sequence. -/
  | blockSequence
  /-- The start of a block mapping. -/
  | blockMapping
  /-- The end of a block collection. -/
  | blockEnd
  /-- The dash before an item of a block sequence. -/
  | blockItem
  /-- An opening bracket. -/
  | openSequence
  /-- A closing bracket. -/
  | closeSequence
  /-- An opening brace. -/
  | openMapping
  /-- A closing brace. -/
  | closeMapping
  /-- A comma between items. -/
  | comma
  /-- What comes before a key. -/
  | key
  /-- What comes before the value of a key. -/
  | value
  /-- A reference to an anchored node. -/
  | alias (name : String)
  /-- The anchor of the node that follows. -/
  | anchor (name : String)
  /-- The tag of the node that follows. -/
  | tag (handle : String) (rest : List UInt8)
  | scalar (plain : Bool) (text : String)
deriving DecidableEq, Repr

/-! ## Names and directives -/

/-- Read the name of an anchor or alias after its first character. -/
def anchorName? (cursor : Cursor) : Option (String × Cursor) :=
  let name := cursor.rest.takeWhile isNameChar
  let after := cursor.skip name.length
  let closed := after.endsAt 0 || "?:,]\x7d%@`".toList.any (after.sees 0)
  if name.isEmpty || !closed then none else some (String.ofList name, after)

/-- Read a number of a version. -/
def versionNumber? (cursor : Cursor) : Option (Nat × Cursor) :=
  let digits := cursor.rest.takeWhile Char.isDigit
  if digits.isEmpty || digits.length > 9 then none
  else some (Number.decimalValue 0 digits, cursor.skip digits.length)

/-- Read what a directive declares, after its name. -/
def declaration? (name : String) (cursor : Cursor) : Option (Token × Cursor) :=
  let cursor := cursor.skipWhile isGap
  if name = "YAML" then
    match versionNumber? cursor with
    | none => none
    | some (major, after) =>
      if !after.sees 0 '.' then none
      else (versionNumber? (after.skip 1)).map fun (minor, after) => (.version major minor, after)
  else if name = "TAG" then
    match handle? cursor with
    | none => none
    | some (handle, after) =>
      let isHandle := handle = "!" || isFullHandle handle
      if !isHandle || !(after.sees 0 ' ' || after.sees 0 '\t') then none
      else
        match tagBytesAt? true (after.skipWhile isGap) with
        | none => none
        | some (bytes, after) =>
          if bytes.isEmpty || !after.endsAt 0 then none
          else some (.tagHandle handle bytes, after)
  else none

/-- Read a directive and the rest of its line. -/
def directive? (cursor : Cursor) : Option (Token × Cursor) :=
  let name := (cursor.rest.drop 1).takeWhile isNameChar
  let after := cursor.skip (1 + name.length)
  if name.isEmpty || !after.endsAt 0 then none
  else
    match declaration? (String.ofList name) after with
    | none => none
    | some (token, after) => after.finishLine?.map fun after => (token, after)

/-! ## The scanner -/

/-- A place where a key may have started. -/
structure PossibleKey where
  /-- How many tokens come before the key. -/
  position : Nat
  /-- How many bytes come before the key. -/
  index : Nat
  line : Nat
  column : Nat
  /-- Whether the place can only be a key. -/
  required : Bool

/-- A scanner in the middle of a text. -/
structure Scanner where
  /-- The place reached. -/
  cursor : Cursor
  /-- The tokens found so far. -/
  tokens : Array Token
  /-- The columns of the open block collections, the innermost first. -/
  indents : List Nat
  /-- For each open bracket or brace, and for the text outside them, where a key
  may have started; the innermost first. -/
  keys : List (Option PossibleKey)
  /-- Whether a key may start at this place. -/
  keyAllowed : Bool

namespace Scanner

/-- A scanner at the start of a text. -/
def start (cs : List Char) : Scanner := ⟨.start cs, #[], [], [none], true⟩

/-- Whether the place is inside brackets or braces. -/
def inFlow (s : Scanner) : Bool := s.keys.length > 1

/-- Add a token and move past it. -/
def emitAt (s : Scanner) (token : Token) (after : Cursor) : Scanner :=
  { s with tokens := s.tokens.push token, cursor := after }

/-- Whether a line at the column would be inside the innermost block collection. -/
def isDeeper (s : Scanner) (column : Nat) : Bool :=
  match s.indents with
  | indent :: _ => indent < column
  | [] => true

/-- Close the block collections that a line at the given column ends, all of them
if there is no column. -/
def closeTo (column? : Option Nat) : List Nat → Array Token → List Nat × Array Token
  | [], tokens => ([], tokens)
  | indent :: outer, tokens =>
    match column? with
    | none => closeTo column? outer (tokens.push .blockEnd)
    | some column =>
      if column < indent then closeTo column? outer (tokens.push .blockEnd)
      else (indent :: outer, tokens)

/-- Leave the block collections that end before the column. -/
def unroll (s : Scanner) (column? : Option Nat) : Scanner :=
  if s.inFlow then s
  else
    let (indents, tokens) := closeTo column? s.indents s.tokens
    { s with indents := indents, tokens := tokens }

/-- Open a block collection at a column, unless one is open there already. Its
token goes before the token with the given number. -/
def roll (s : Scanner) (column position : Nat) (token : Token) : Scanner :=
  if s.inFlow || !s.isDeeper column then s
  else
    { s with
      indents := column :: s.indents
      tokens := s.tokens.insertIdxIfInBounds position token }

/-- Forget the place where a key may have started. A place that can only be a key
must not be forgotten. -/
def dropKey? (s : Scanner) : Option Scanner :=
  match s.keys with
  | some key :: outer => if key.required then none else some { s with keys := none :: outer }
  | _ => some s

/-- Remember the place as one where a key may start. -/
def saveKey? (s : Scanner) : Option Scanner :=
  if !s.keyAllowed then some s
  else
    s.dropKey?.map fun s =>
      let c := s.cursor
      let required := !s.inFlow && s.indents.head? == some c.column
      let key : PossibleKey := ⟨s.tokens.size, c.index, c.line, c.column, required⟩
      { s with keys := some key :: s.keys.drop 1 }

/-- Whether a place where a key may have started is too far back: a key ends on
its line and within 1024 bytes. -/
def isStale (cursor : Cursor) (key : PossibleKey) : Bool :=
  key.line < cursor.line || key.index + 1024 < cursor.index

/-- Forget the places that have become too far back, none of which may be one that
can only be a key. -/
def dropStale? (s : Scanner) : Option Scanner :=
  let stale (key? : Option PossibleKey) : Bool :=
    match key? with
    | some key => isStale s.cursor key
    | none => false
  let isLost (key? : Option PossibleKey) : Bool :=
    stale key? && (key?.map (·.required)).getD false
  if s.keys.any isLost then none
  else some { s with keys := s.keys.map fun key? => if stale key? then none else key? }

/-- Move to the next token, past gaps, comments and line breaks, and past a mark of
the byte order where a line starts with one. Outside brackets a new line allows a
key, and a tab must not come where a key may start. -/
def toNextToken : Nat → Scanner → Scanner
  | 0, s => s
  | fuel + 1, s =>
    let cursor :=
      if s.cursor.column = 0 ∧ s.cursor.sees 0 '\uFEFF' then s.cursor.skip 1 else s.cursor
    let passes (c : Char) : Bool := c == ' ' || ((s.inFlow || !s.keyAllowed) && c == '\t')
    let cursor := cursor.skipWhile passes
    let cursor := if cursor.sees 0 '#' then cursor.skipWhile (!isBreak ·) else cursor
    if cursor.atBreakOrEnd && !cursor.atEnd then
      toNextToken fuel
        { s with cursor := cursor.takeBreak.2, keyAllowed := s.keyAllowed || !s.inFlow }
    else { s with cursor := cursor }

/-- Read the dash before an item. -/
def item? (s : Scanner) : Option Scanner :=
  if !s.inFlow && !s.keyAllowed then none
  else
    let s := s.roll s.cursor.column s.tokens.size .blockSequence
    s.dropKey?.map fun s =>
      { s.emitAt .blockItem (s.cursor.skip 1) with keyAllowed := true }

/-- Read the mark before a key. -/
def key? (s : Scanner) : Option Scanner :=
  if !s.inFlow && !s.keyAllowed then none
  else
    let s := s.roll s.cursor.column s.tokens.size .blockMapping
    s.dropKey?.map fun s =>
      { s.emitAt .key (s.cursor.skip 1) with keyAllowed := !s.inFlow }

/-- Read the mark before a value. If a key may have started, this is where it turns
out that it did. -/
def value? (s : Scanner) : Option Scanner :=
  let after := s.cursor.skip 1
  match s.keys with
  | some key :: outer =>
    let s := { s with tokens := s.tokens.insertIdxIfInBounds key.position .key }
    let s := s.roll key.column key.position .blockMapping
    some { s.emitAt .value after with keys := none :: outer, keyAllowed := false }
  | _ =>
    if !s.inFlow && !s.keyAllowed then none
    else
      let s := s.roll s.cursor.column s.tokens.size .blockMapping
      some { s.emitAt .value after with keyAllowed := !s.inFlow }

/-- Read an opening bracket or brace. -/
def openFlow? (s : Scanner) (token : Token) : Option Scanner :=
  s.saveKey?.map fun s =>
    { s.emitAt token (s.cursor.skip 1) with keys := none :: s.keys, keyAllowed := true }

/-- Read a closing bracket or brace. -/
def closeFlow? (s : Scanner) (token : Token) : Option Scanner :=
  s.dropKey?.map fun s =>
    let keys := if s.inFlow then s.keys.drop 1 else s.keys
    { s.emitAt token (s.cursor.skip 1) with keys := keys, keyAllowed := false }

/-- Read a comma. -/
def comma? (s : Scanner) : Option Scanner :=
  s.dropKey?.map fun s => { s.emitAt .comma (s.cursor.skip 1) with keyAllowed := true }

/-- Add a token that may start a key. -/
def keyed? (s : Scanner) (found? : Option (Token × Cursor)) : Option Scanner :=
  match s.saveKey?, found? with
  | some s, some (token, after) => some { s.emitAt token after with keyAllowed := false }
  | _, _ => none

/-- Read a block scalar. -/
def block? (s : Scanner) (literal : Bool) : Option Scanner :=
  match s.dropKey?, Yaml.block? literal s.indents.head? s.cursor with
  | some s, some (text, after) =>
    some { s.emitAt (.scalar false text) after with keyAllowed := true }
  | _, _ => none

/-- Read a plain scalar. If it turns out to be followed by a line break, a key may
start after it. -/
def plain? (s : Scanner) : Option Scanner :=
  let floor := match s.indents with
    | indent :: _ => indent + 1
    | [] => 0
  match s.saveKey?, Yaml.plain? s.inFlow floor s.cursor with
  | some s, some (text, onNewLine, after) =>
    some { s.emitAt (.scalar true text) after with keyAllowed := onNewLine }
  | _, _ => none

/-- Read a directive or the marker of a document, before which all block
collections end. -/
def atMargin? (s : Scanner) (read : Cursor → Option (Token × Cursor)) : Option Scanner :=
  let s := s.unroll none
  match s.dropKey?, read s.cursor with
  | some s, some (token, after) => some { s.emitAt token after with keyAllowed := false }
  | _, _ => none

/-- Whether a plain scalar may start at a place. -/
def startsPlain (s : Scanner) (c : Char) : Bool :=
  let isIndicator := "-?:,[]\x7b\x7d#&*!|>'\"%@`".toList.contains c
  let gapFollows := s.cursor.sees 1 ' ' || s.cursor.sees 1 '\t'
  !(isGap c || isBreak c || isIndicator) || (c == '-' && !gapFollows) ||
    (!s.inFlow && (c == '?' || c == ':') && !s.cursor.endsAt 1)

/-- Read the token that starts with the given character. -/
def token? (s : Scanner) (c : Char) : Option Scanner :=
  let cursor := s.cursor
  if cursor.column = 0 ∧ c = '%' then s.atMargin? directive?
  else if cursor.atDocumentMarker '-' then
    s.atMargin? fun cursor => some (.documentStart, cursor.skip 3)
  else if cursor.atDocumentMarker '.' then
    s.atMargin? fun cursor => some (.documentEnd, cursor.skip 3)
  else if c = '[' then s.openFlow? .openSequence
  else if c = '\x7b' then s.openFlow? .openMapping
  else if c = ']' then s.closeFlow? .closeSequence
  else if c = '\x7d' then s.closeFlow? .closeMapping
  else if c = ',' then s.comma?
  else if c = '-' ∧ cursor.endsAt 1 then s.item?
  else if c = '?' ∧ (s.inFlow ∨ cursor.endsAt 1) then s.key?
  else if c = ':' ∧ (s.inFlow ∨ cursor.endsAt 1) then s.value?
  else if c = '*' then
    s.keyed? ((anchorName? (cursor.skip 1)).map fun (name, after) => (.alias name, after))
  else if c = '&' then
    s.keyed? ((anchorName? (cursor.skip 1)).map fun (name, after) => (.anchor name, after))
  else if c = '!' then
    s.keyed? ((tag? s.inFlow cursor).map fun ((handle, rest), after) => (.tag handle rest, after))
  else if c = '|' ∧ !s.inFlow then s.block? true
  else if c = '>' ∧ !s.inFlow then s.block? false
  else if c = '\'' then
    s.keyed? ((quoted? true cursor).map fun (text, after) => (.scalar false text, after))
  else if c = '"' then
    s.keyed? ((quoted? false cursor).map fun (text, after) => (.scalar false text, after))
  else if s.startsPlain c then s.plain?
  else none

/-- Read tokens up to the end of the text, at most `fuel` of them. -/
def run? : Nat → Scanner → Option (Array Token)
  | 0, _ => none
  | fuel + 1, s =>
    match (toNextToken (s.cursor.rest.length + 1) s).dropStale? with
    | none => none
    | some s =>
      match s.cursor.rest with
      | [] => (s.unroll none).dropKey?.map (·.tokens)
      | c :: _ =>
        match (s.unroll (some s.cursor.column)).token? c with
        | none => none
        | some s => run? fuel s

end Scanner

/-- The tokens of a text. Every token takes at least one character. -/
def tokens? (text : String) : Option (List Token) :=
  let cs := text.toList
  if cs.all isAllowed then
    ((Scanner.start cs).run? (cs.length + 1)).map Array.toList
  else none

end ChatCommands.Yaml
