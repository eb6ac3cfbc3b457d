/-
# Chains of causes

An error that a command reports is a message together with the causes behind it,
the nearest first. For a report the causes are listed under the message; they are
numbered if there are several, and a message of several lines keeps its margin.
-/

namespace ChatCommands

/-- An error message and the causes behind it, the nearest cause first. -/
structure ErrorChain where
  /-- What went wrong, as far as the outside is concerned. -/
  outermost : String
  /-- Why, each message being the cause of the one before. -/
  causes : List String
deriving DecidableEq, Repr, Inhabited

namespace ErrorChain

/-- An error without a cause. -/
def ofMessage (message : String) : ErrorChain := ⟨message, []⟩

/-- All messages on one line. -/
def inline (chain : ErrorChain) : String :=
  String.intercalate ": " (chain.outermost :: chain.causes)

/-- A message with a label in front of its first line and a margin in front of the
others. -/
def labelled (label margin message : String) : String :=
  label ++ String.intercalate ("\n" ++ margin) (message.splitOn "\n")

/-- The label of the cause with a given number. -/
def numberLabel (number : Nat) : String :=
  let digits := toString number
  String.ofList (List.replicate (5 - digits.length) ' ') ++ digits ++ ": "

/-- The causes of an error, each from a line of its own on. -/
def causeTexts : List String → List String
  | [single] => [labelled "    " "    " single]
  | causes =>
    causes.zipIdx.map fun (cause, number) => labelled (numberLabel number) "       " cause

/-- The error and its causes as a block of text. -/
def traceback (chain : ErrorChain) : String :=
  if chain.causes.isEmpty then chain.outermost
  else
    chain.outermost ++ "\n\nCaused by:" ++
      String.join ((causeTexts chain.causes).map fun text => "\n" ++ text)

/-- An error without a cause is reported by its message alone. -/
@[simp] theorem traceback_ofMessage (message : String) :
    (ofMessage message).traceback = message := rfl

end ErrorChain

end ChatCommands
