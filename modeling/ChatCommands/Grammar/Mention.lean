/-
# Mentions

Chat platforms write a reference to a user, a role or a channel as an identifier in
angle brackets after a sign. A command is interested in the identifier, so the
mentions in a value are reduced to it.
-/

import ChatCommands.Text.CharClass
import ChatCommands.Text.Pieces

namespace ChatCommands.Grammar

open Text (Found Finder isDecimalDigit)

/-- The opening of a mention at the start of a text: its length and what follows. -/
def mentionOpening? : List Char → Option (Nat × List Char)
  | '<' :: '@' :: '!' :: rest => some (3, rest)
  | '<' :: '@' :: '&' :: rest => some (3, rest)
  | '<' :: '@' :: rest => some (2, rest)
  | '<' :: '#' :: rest => some (2, rest)
  | _ => none

/-- The finder of mentions: an opening, decimal digits and a closing bracket. It
stands for the digits. -/
def mentionFinder : Finder (List Char) := fun _ cs =>
  match mentionOpening? cs with
  | none => none
  | some (opening, rest) =>
    let digits := rest.takeWhile isDecimalDigit
    match digits, rest.dropWhile isDecimalDigit with
    | _ :: _, '>' :: _ => some ⟨digits, opening + digits.length + 1⟩
    | _, _ => none

/-- A value with every mention reduced to its identifier. -/
def reduceMentions (value : String) : String :=
  String.ofList (Text.replaceFound mentionFinder id value.toList)

end ChatCommands.Grammar
