/-
# Lower case

Lower case for whole texts, every script included. Two rules go beyond the table
of partners: the dotted capital I becomes an *i* followed by a combining dot, and
the capital sigma takes its final form at the end of a cased word.
-/

import ChatCommands.Text.Property.Case
import ChatCommands.Text.Property.Lowercase

namespace ChatCommands.Text

/-- Whether a character is passed over when the case of its neighbours matters. -/
def isCaseIgnorable (c : Char) : Bool := inRanges Property.caseIgnorable c

/-- Whether a character has case. -/
def isCased (c : Char) : Bool := inRanges Property.cased c

/-- The lower-case form of one character, regardless of its neighbours. -/
def lowerChar (c : Char) : List Char :=
  if c.toNat < 128 then [c.toLower]
  else if c.toNat = 0x130 then ['i', Char.ofNat 0x307]
  else
    match Property.lowercaseRuns.find? (·.contains c.toNat) with
    | some run => [Char.ofNat (Int.toNat (c.toNat + run.offset))]
    | none => [c]

/-- Whether the first character that is not case-ignorable has case. -/
def meetsCased (cs : List Char) : Bool :=
  match cs.dropWhile isCaseIgnorable with
  | c :: _ => isCased c
  | [] => false

/-- The form of a capital sigma between the given neighbours: final when a cased
character comes before it and none comes after it. `before` is read backwards. -/
def lowerSigma (before after : List Char) : Char :=
  if meetsCased before && !meetsCased after then 'ς' else 'σ'

/-- The lower-case form of a text whose earlier part, read backwards, is `before`. -/
def lowerAfter (before : List Char) : List Char → List Char
  | [] => []
  | c :: rest =>
    let here := if c = 'Σ' then [lowerSigma before rest] else lowerChar c
    here ++ lowerAfter (c :: before) rest

/-- The lower-case form of a text. -/
def lowercase (text : String) : String :=
  String.ofList (lowerAfter [] text.toList)

end ChatCommands.Text
