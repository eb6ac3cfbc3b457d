/-
# Poll

A component for simple polls: the options are listed one to a line, each after the
marker that voters react with.
-/

import ChatCommands.Plugin

namespace ChatCommands.Poll

/-- What the component is for. -/
def doc : String := "Simple reaction polls."

/-- The command `poll`. -/
def pollCommand : CommandSpec where
  name := "poll"
  doc? := some "Start a poll from a comma separated list of options."
  parameters :=
    [.request "context", .requiredText "options", .optionalText "title",
      .optionalText "description"]

/-- The commands of the component. -/
def commands : List CommandSpec := [pollCommand]

/-- How many options a poll may have: as many as a message can carry markers. -/
def greatestCount : Nat := 8

/-- The stretches of a text between the commas. -/
def betweenCommas : List Char → List (List Char)
  | [] => [[]]
  | c :: rest =>
    if c = ',' then [] :: betweenCommas rest
    else
      match betweenCommas rest with
      | first :: others => (c :: first) :: others
      | [] => [[c]]

/-- The options in a text: what stands between the commas, trimmed, and is not blank. -/
def options (text : String) : List String :=
  (((betweenCommas text.toList).map Text.trim).filter fun option => !option.isEmpty).map
    String.ofList

/-- The marker of an option: the regional indicator letters, from the first one on. -/
def marker (index : Nat) : Char := Char.ofNat (0x1F1E6 + index)

/-- The line of an option. -/
def optionLine (option : String) (index : Nat) : String :=
  String.singleton (marker index) ++ " " ++ option

/-- The text of a poll. -/
def pollText (title? description? : Option String) (options : List String) : String :=
  String.intercalate "\n" <|
    ("**" ++ title?.getD "Poll" ++ "**") :: description?.toList ++
      options.zipIdx.map fun (option, index) => optionLine option index

/-- Start a poll with the given options, if there are enough of them and not too many. -/
def start (title? description? : Option String) (options : List String) : Reaction :=
  if options.isEmpty then .fail "A poll needs at least one option."
  else if options.length > greatestCount then
    .fail s!"A poll supports at most {greatestCount} options ({options.length} given)."
  else .say (pollText title? description? options)

/-- Run a command of the component. -/
def invoke {π : Type} (_command : String) (arguments : Arguments π) : Reaction :=
  .withValue (arguments.requireText "options") fun text =>
    start (arguments.text? "title") (arguments.text? "description") (options text)

end ChatCommands.Poll
