/-
# A place in a YAML text

What is left of a text, and where it starts: the line, the column and the number
of bytes before it. The characters are told apart the way the format does:
blanks are the space and the tab, and five characters break a line.
-/

namespace ChatCommands.Yaml

/-- A place in a text. -/
structure Cursor where
  /-- What is left of the text. -/
  rest : List Char
  /-- How many bytes come before. -/
  index : Nat
  /-- How many lines come before. -/
  line : Nat
  /-- How many characters of the line come before. -/
  column : Nat

/-- Whether a text may hold the character at all. -/
def isAllowed (c : Char) : Bool :=
  let n := c.toNat
  n == 0x9 || n == 0xA || n == 0xD || (0x20 ≤ n && n ≤ 0x7E) || n == 0x85 ||
    (0xA0 ≤ n && n ≤ 0xD7FF) || (0xE000 ≤ n && n ≤ 0xFFFD) || 0x10000 ≤ n

/-- A space or a tab. -/
def isGap (c : Char) : Bool := c == ' ' || c == '\t'

/-- A character that ends a line. -/
def isBreak (c : Char) : Bool :=
  c == '\n' || c == '\r' || c.toNat == 0x85 || c.toNat == 0x2028 || c.toNat == 0x2029

/-- A character of an anchor or of the name of a directive. -/
def isNameChar (c : Char) : Bool := c.isAlphanum || c == '_' || c == '-'

/-- How many bytes characters take. -/
def byteCount (cs : List Char) : Nat := cs.foldl (fun total c => total + c.utf8Size) 0

namespace Cursor

/-- The start of a text. -/
def start (cs : List Char) : Cursor := ⟨cs, 0, 0, 0⟩

/-- The character `n` places ahead. -/
def ahead (cursor : Cursor) (n : Nat) : Option Char := cursor.rest[n]?

/-- Whether the given character is `n` places ahead. -/
def sees (cursor : Cursor) (n : Nat) (c : Char) : Bool := cursor.ahead n == some c

/-- Whether `n` places ahead there is a gap, a line break or the end. -/
def endsAt (cursor : Cursor) (n : Nat) : Bool :=
  match cursor.ahead n with
  | some c => isGap c || isBreak c
  | none => true

/-- Whether the text is used up. -/
def atEnd (cursor : Cursor) : Bool := cursor.rest.isEmpty

/-- Whether a line break or the end is next. -/
def atBreakOrEnd (cursor : Cursor) : Bool :=
  match cursor.rest with
  | c :: _ => isBreak c
  | [] => true

/-- Whether a gap or a line break is next. -/
def atBlank (cursor : Cursor) : Bool :=
  match cursor.rest with
  | c :: _ => isGap c || isBreak c
  | [] => false

/-- Move ahead by `n` characters of the same line. -/
def skip (cursor : Cursor) (n : Nat) : Cursor :=
  let passed := cursor.rest.take n
  { cursor with
    rest := cursor.rest.drop n
    index := cursor.index + byteCount passed
    column := cursor.column + passed.length }

/-- Move ahead over the characters that satisfy a test, none of them a break. -/
def skipWhile (cursor : Cursor) (test : Char → Bool) : Cursor :=
  cursor.skip (cursor.rest.takeWhile test).length

/-- Move past a line break. The break is returned the way it counts in a scalar:
separators of lines and paragraphs stay, every other break is a newline. -/
def takeBreak (cursor : Cursor) : String × Cursor :=
  let next (broken rest : List Char) : Cursor :=
    ⟨rest, cursor.index + byteCount broken, cursor.line + 1, 0⟩
  match cursor.rest with
  | '\r' :: '\n' :: rest => ("\n", next ['\r', '\n'] rest)
  | c :: rest =>
    if c.toNat = 0x2028 ∨ c.toNat = 0x2029 then (c.toString, next [c] rest)
    else ("\n", next [c] rest)
  | [] => ("", cursor)

/-- Move past the rest of the line and its break, if only gaps and a comment are
left of it. -/
def finishLine? (cursor : Cursor) : Option Cursor :=
  let cursor := cursor.skipWhile isGap
  let cursor := if cursor.sees 0 '#' then cursor.skipWhile (!isBreak ·) else cursor
  if cursor.atBreakOrEnd then some cursor.takeBreak.2 else none

/-- Whether a line starts with the marker of a document's start or end. -/
def atDocumentMarker (cursor : Cursor) (c : Char) : Bool :=
  cursor.column == 0 && cursor.sees 0 c && cursor.sees 1 c && cursor.sees 2 c &&
    cursor.endsAt 3

/-- Whether a line starts with either marker of a document. -/
def atAnyDocumentMarker (cursor : Cursor) : Bool :=
  cursor.atDocumentMarker '-' || cursor.atDocumentMarker '.'

end Cursor

end ChatCommands.Yaml
