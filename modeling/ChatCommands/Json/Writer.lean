/-
# Writing the data format

Two ways to write a value: on one line without spaces, and indented by two
columns for each level. Only what the format demands is escaped.
-/

import ChatCommands.Json
import ChatCommands.Number.Decimal

namespace ChatCommands.Json

/-- A character inside a quoted text. -/
def quotedChar (c : Char) : String :=
  match c with
  | '"' => "\\\""
  | '\\' => "\\\\"
  | '\n' => "\\n"
  | '\r' => "\\r"
  | '\t' => "\\t"
  | '\x08' => "\\b"
  | '\x0c' => "\\f"
  | c =>
    if c.toNat < 0x20 then
      let digits := Nat.toDigits 16 c.toNat
      "\\u" ++ String.ofList (List.replicate (4 - digits.length) '0' ++ digits)
    else c.toString

/-- A text in quotes. -/
def quoted (text : String) : String :=
  "\"" ++ String.join (text.toList.map quotedChar) ++ "\""

/-- A number. -/
def numberText : JsonNumber → String
  | .whole value => toString value
  | .binary value => if value.isFinite then value.shortest else "null"

mutual

/-- A value on one line. -/
def compact : Json → String
  | null => "null"
  | bool value => if value then "true" else "false"
  | number value => numberText value
  | string value => quoted value
  | array items => "[" ++ String.intercalate "," (compactItems items) ++ "]"
  | object members => "\x7b" ++ String.intercalate "," (compactMembers members) ++ "\x7d"

/-- The items of an array, each on one line. -/
def compactItems : List Json → List String
  | [] => []
  | item :: rest => compact item :: compactItems rest

/-- The members of an object, each on one line. -/
def compactMembers : List (String × Json) → List String
  | [] => []
  | (key, value) :: rest => (quoted key ++ ":" ++ compact value) :: compactMembers rest

end

/-- A bracketed list of lines, indented by the given number of columns. -/
def bracketed (opening closing : String) (indent : Nat) (lines : List String) : String :=
  if lines.isEmpty then opening ++ closing
  else
    let inner := "\n" ++ String.ofList (List.replicate (indent + 2) ' ')
    let outer := "\n" ++ String.ofList (List.replicate indent ' ')
    opening ++ inner ++ String.intercalate ("," ++ inner) lines ++ outer ++ closing

mutual

/-- A value over several lines, the first of which is already indented. -/
def prettyAt (indent : Nat) : Json → String
  | null => "null"
  | bool value => if value then "true" else "false"
  | number value => numberText value
  | string value => quoted value
  | array items => bracketed "[" "]" indent (prettyItems (indent + 2) items)
  | object members => bracketed "\x7b" "\x7d" indent (prettyMembers (indent + 2) members)

/-- The items of an array over several lines. -/
def prettyItems (indent : Nat) : List Json → List String
  | [] => []
  | item :: rest => prettyAt indent item :: prettyItems indent rest

/-- The members of an object over several lines. -/
def prettyMembers (indent : Nat) : List (String × Json) → List String
  | [] => []
  | (key, value) :: rest =>
    (quoted key ++ ": " ++ prettyAt indent value) :: prettyMembers indent rest

end

/-- A value over several lines. -/
def pretty (value : Json) : String := prettyAt 0 value

end ChatCommands.Json
