/-
# Tokens of the data format

The lexical level of the JSON data format: punctuation, the three constants,
numbers and texts. A number token keeps its digits; what it denotes is decided
later. A text token may contain an escape for half of a character pair without
its other half. Such a text is well formed but denotes nothing, and only a reader
that wants its content has to refuse it.
-/

import ChatCommands.Number.Literal

namespace ChatCommands.Json

/-- A number as it is written. -/
structure NumberToken where
  /-- Whether it starts with a minus sign. -/
  negative : Bool
  /-- The digits before the point, without needless zeros. -/
  whole : List Char
  /-- The digits after the point, if there is one. -/
  fraction? : Option (List Char)
  /-- The sign and the digits of the exponent, if there is one. -/
  exponent? : Option (Bool × List Char)
deriving Repr

/-- A token. -/
inductive Token where
  /-- One of the punctuation characters. -/
  | mark (c : Char)
  /-- The absent value. -/
  | null
  /-- A truth value. -/
  | bool (value : Bool)
  | number (token : NumberToken)
  /-- A text, with its content if it denotes one. -/
  | string (content? : Option String)
deriving Repr

/-! ## Texts -/

/-- A piece of a text: a character, or a sixteen-bit code given by an escape. -/
inductive Piece where
  /-- A character that stands for itself or has a short escape. -/
  | char (c : Char)
  /-- A code given by four hexadecimal digits. -/
  | code (value : Nat)

/-- The value of four hexadecimal digits. -/
def hexCode? (a b c d : Char) : Option Nat := do
  let a ← Number.digitIn? 16 a
  let b ← Number.digitIn? 16 b
  let c ← Number.digitIn? 16 c
  let d ← Number.digitIn? 16 d
  return ((a * 16 + b) * 16 + c) * 16 + d

/-- What a short escape stands for. -/
def shortEscape? : Char → Option Char
  | '"' => some '"'
  | '\\' => some '\\'
  | '/' => some '/'
  | 'b' => some '\x08'
  | 'f' => some '\x0c'
  | 'n' => some '\n'
  | 'r' => some '\r'
  | 't' => some '\t'
  | _ => none

/-- Read the pieces of a text up to its closing quote, and what follows it. -/
def pieces? : List Char → Option (List Piece × List Char)
  | [] => none
  | '"' :: rest => some ([], rest)
  | '\\' :: 'u' :: a :: b :: c :: d :: rest =>
    match hexCode? a b c d with
    | none => none
    | some value => (pieces? rest).map fun (found, after) => (.code value :: found, after)
  | '\\' :: e :: rest =>
    match shortEscape? e with
    | none => none
    | some c => (pieces? rest).map fun (found, after) => (.char c :: found, after)
  | c :: rest =>
    if c.toNat < 0x20 ∨ c = '\\' then none
    else (pieces? rest).map fun (found, after) => (.char c :: found, after)

/-- The first half of a character pair. -/
def isLeadingHalf (code : Nat) : Bool := 0xD800 ≤ code && code ≤ 0xDBFF

/-- The second half of a character pair. -/
def isTrailingHalf (code : Nat) : Bool := 0xDC00 ≤ code && code ≤ 0xDFFF

/-- The characters that pieces denote: a leading half must be followed at once by
the escape of a trailing half, and a trailing half must not stand alone. -/
def denotation? : List Piece → Option (List Char)
  | [] => some []
  | .char c :: rest => (denotation? rest).map (c :: ·)
  | .code lead :: .code trail :: rest =>
    if isLeadingHalf lead then
      if isTrailingHalf trail then
        let code := 0x10000 + (lead - 0xD800) * 0x400 + (trail - 0xDC00)
        (denotation? rest).map (Char.ofNat code :: ·)
      else none
    else if isTrailingHalf lead then none
    else (denotation? (.code trail :: rest)).map (Char.ofNat lead :: ·)
  | .code value :: rest =>
    if isLeadingHalf value || isTrailingHalf value then none
    else (denotation? rest).map (Char.ofNat value :: ·)

/-! ## Numbers -/

/-- Read digits, at least one of them. -/
def digits? (cs : List Char) : Option (List Char × List Char) :=
  let found := cs.takeWhile Char.isDigit
  if found.isEmpty then none else some (found, cs.dropWhile Char.isDigit)

/-- Read the digits before the point: a lone zero, or digits that start otherwise. -/
def wholePart? : List Char → Option (List Char × List Char)
  | '0' :: rest => some (['0'], rest)
  | cs => digits? cs

/-- Read the part after the point, if there is a point. -/
def fractionPart? : List Char → Option (Option (List Char) × List Char)
  | '.' :: rest => (digits? rest).map fun (found, after) => (some found, after)
  | cs => some (none, cs)

/-- Read the sign and the digits of an exponent. -/
def signedDigits? : List Char → Option ((Bool × List Char) × List Char)
  | '-' :: rest => (digits? rest).map fun (found, after) => ((true, found), after)
  | '+' :: rest => (digits? rest).map fun (found, after) => ((false, found), after)
  | cs => (digits? cs).map fun (found, after) => ((false, found), after)

/-- Read the exponent, if there is one. -/
def exponentPart? : List Char → Option (Option (Bool × List Char) × List Char)
  | 'e' :: rest => (signedDigits? rest).map fun (found, after) => (some found, after)
  | 'E' :: rest => (signedDigits? rest).map fun (found, after) => (some found, after)
  | cs => some (none, cs)

/-- Read a number after its sign. -/
def number? (negative : Bool) (cs : List Char) : Option (NumberToken × List Char) := do
  let (whole, cs) ← wholePart? cs
  let (fraction?, cs) ← fractionPart? cs
  let (exponent?, cs) ← exponentPart? cs
  return (⟨negative, whole, fraction?, exponent?⟩, cs)

/-! ## All tokens -/

/-- The characters that separate tokens and are otherwise passed over. -/
def isSpace (c : Char) : Bool := c == ' ' || c == '\n' || c == '\r' || c == '\t'

/-- The punctuation characters. -/
def isMark (c : Char) : Bool :=
  c == '\x7b' || c == '\x7d' || c == '[' || c == ']' || c == ',' || c == ':'

/-- Read the token at the start of a non-blank text. -/
def token? : List Char → Option (Token × List Char)
  | 'n' :: 'u' :: 'l' :: 'l' :: rest => some (.null, rest)
  | 't' :: 'r' :: 'u' :: 'e' :: rest => some (.bool true, rest)
  | 'f' :: 'a' :: 'l' :: 's' :: 'e' :: rest => some (.bool false, rest)
  | '"' :: rest =>
    (pieces? rest).map fun (found, after) =>
      (.string ((denotation? found).map String.ofList), after)
  | '-' :: rest => (number? true rest).map fun (found, after) => (.number found, after)
  | c :: rest =>
    if isMark c then some (.mark c, rest)
    else if c.isDigit then
      (number? false (c :: rest)).map fun (found, after) => (.number found, after)
    else none
  | [] => none

/-- Read tokens, at most `fuel` of them, until the text is used up. -/
def tokensWithin? : Nat → List Char → Option (List Token)
  | 0, cs => if (cs.dropWhile isSpace).isEmpty then some [] else none
  | fuel + 1, cs =>
    match cs.dropWhile isSpace with
    | [] => some []
    | rest =>
      match token? rest with
      | none => none
      | some (token, after) => (tokensWithin? fuel after).map (token :: ·)

/-- The tokens of a text. Each token takes at least one character, so a text has no
more tokens than characters. -/
def tokens? (text : String) : Option (List Token) :=
  let cs := text.toList
  tokensWithin? cs.length cs

end ChatCommands.Json
