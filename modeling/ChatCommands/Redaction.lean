/-
# Redaction

Before chat text is logged, what looks like a secret is blotted out: the tokens of
bots, keys and bearer credentials of services, and whatever is assigned to a word
such as `password`. The three kinds are looked for one after the other, each in the
text the one before has left.
-/

import ChatCommands.Text.CharClass
import ChatCommands.Text.Pieces

namespace ChatCommands.Redaction

open Text (Found Finder isBlank isWord)

/-! ## Tokens of bots -/

/-- A character of a token: a word character or a hyphen. -/
def isTokenChar (c : Char) : Bool := isWord c || c == '-'

/-- The length of the run of token characters a text begins with, as far as `limit`. -/
def tokenRun (limit : Nat) (cs : List Char) : Nat := ((cs.take limit).takeWhile isTokenChar).length

/-- The text after `n` characters and a point, if there is a point. -/
def afterPoint? (n : Nat) (cs : List Char) : Option (List Char) :=
  match cs.drop n with
  | '.' :: rest => some rest
  | _ => none

/-- The finder of bot tokens: three runs of token characters with points between
them, of 24 to 28, of 6, and of 27 to 38 characters. -/
def botTokenFinder : Finder Unit := fun _ cs =>
  let first := tokenRun 28 cs
  if first < 24 then none
  else
    match afterPoint? first cs with
    | none => none
    | some middle =>
      if tokenRun 6 middle < 6 then none
      else
        match afterPoint? 6 middle with
        | none => none
        | some last =>
          if tokenRun 38 last < 27 then none
          else some ⟨(), first + 1 + 6 + 1 + tokenRun 38 last⟩

/-! ## Keys of services -/

/-- A basic letter or digit. -/
def isKeyChar (c : Char) : Bool := c.isAlphanum

/-- A character of a bearer credential. -/
def isCredentialChar (c : Char) : Bool := c.isAlphanum || "-._~+/".toList.contains c

/-- The length of a service key at the start of a text: `sk-` and at least 32 basic
letters and digits. -/
def serviceKeyLength? : List Char → Option Nat
  | 's' :: 'k' :: '-' :: rest =>
    let run := (rest.takeWhile isKeyChar).length
    if run < 32 then none else some (3 + run)
  | _ => none

/-- The length of a bearer credential at the start of a text: the word, blanks,
characters of a credential and equals signs. -/
def bearerLength? : List Char → Option Nat
  | 'B' :: 'e' :: 'a' :: 'r' :: 'e' :: 'r' :: rest =>
    let blanks := (rest.takeWhile isBlank).length
    let afterBlanks := rest.dropWhile isBlank
    let run := (afterBlanks.takeWhile isCredentialChar).length
    let padding := ((afterBlanks.dropWhile isCredentialChar).takeWhile (· == '=')).length
    if blanks = 0 ∨ run = 0 then none else some (6 + blanks + run + padding)
  | _ => none

/-- The finder of service keys and bearer credentials. -/
def serviceKeyFinder : Finder Unit := fun _ cs =>
  match serviceKeyLength? cs with
  | some length => some ⟨(), length⟩
  | none => (bearerLength? cs).map fun length => ⟨(), length⟩

/-! ## Assigned secrets -/

/-- The words after which something secret is assigned. -/
def secretWords : List (List Char) :=
  ["token".toList, "password".toList, "secret".toList, "api_key".toList]

/-- A character without its case. The long s and the Kelvin sign count as the letters
they stand for. -/
def foldCase (c : Char) : Char :=
  if c == '\u017f' then 's' else if c == '\u212a' then 'k' else c.toLower

/-- The text after a word at its start, whatever the case. -/
def afterWord? : List Char → List Char → Option (List Char)
  | [], cs => some cs
  | _ :: _, [] => none
  | w :: word, c :: cs => if foldCase c = w then afterWord? word cs else none

/-- The text after one of the secret words at its start. -/
def afterSecretWord? (cs : List Char) : Option (List Char) :=
  secretWords.findSome? fun word => afterWord? word cs

/-- The text after an equals sign or a colon with blanks on either side. -/
def afterSeparator? (cs : List Char) : Option (List Char) :=
  match cs.dropWhile isBlank with
  | c :: rest => if c == '=' || c == ':' then some (rest.dropWhile isBlank) else none
  | [] => none

/-- Whether a word can begin after the given character. -/
def isWordStart (before : Option Char) : Bool :=
  match before with
  | none => true
  | some c => !isWord c

/-- The finder of assigned secrets: a secret word, a separator and a run of anything
but blanks. It stands for the word and the separator, which are kept. -/
def assignmentFinder : Finder (List Char) := fun before cs =>
  if isWordStart before then
    match (afterSecretWord? cs).bind afterSeparator? with
    | none => none
    | some value =>
      let run := (value.takeWhile fun c => !isBlank c).length
      let kept := cs.length - value.length
      if run = 0 then none else some ⟨cs.take kept, kept + run⟩
  else none

/-! ## All of them -/

/-- What takes the place of a token or key. -/
def tokenMark : String := "[REDACTED_TOKEN]"

/-- What takes the place of an assigned secret. -/
def secretMark : String := "[REDACTED]"

/-- A text without bot tokens. -/
def redactBotTokens (cs : List Char) : List Char :=
  Text.replaceFound botTokenFinder (fun _ => tokenMark.toList) cs

/-- A text without service keys and bearer credentials. -/
def redactServiceKeys (cs : List Char) : List Char :=
  Text.replaceFound serviceKeyFinder (fun _ => tokenMark.toList) cs

/-- A text without assigned secrets. -/
def redactAssignments (cs : List Char) : List Char :=
  Text.replaceFound assignmentFinder (fun kept => kept ++ secretMark.toList) cs

/-- A text in which everything that looks like a secret is blotted out. -/
def redact (text : String) : String :=
  String.ofList (redactAssignments (redactServiceKeys (redactBotTokens text.toList)))

/-- There is nothing to blot out in the empty text. -/
@[simp] theorem redact_empty : redact "" = "" := by
  simp [redact, redactAssignments, redactServiceKeys, redactBotTokens]

end ChatCommands.Redaction
