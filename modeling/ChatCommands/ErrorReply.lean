/-
# Replies to errors

The one reply a user sees when a dispatch fails: a title, a description and the
details, with a suggestion where a name looks mistyped and, if that is asked for,
the causes of the error.
-/

import ChatCommands.DispatchError
import ChatCommands.Json
import ChatCommands.Text.EditDistance

namespace ChatCommands

/-- What the reply depends on besides the error. -/
structure ReplyOptions where
  /-- Whether the causes of the error are shown. -/
  verbose : Bool
  /-- The mark a command begins with. -/
  commandPrefix : String
  /-- The mark a parameter begins with. -/
  parameterPrefix : String
  /-- The names suggestions are drawn from. -/
  candidates : List String
deriving Repr

/-- A reply to an error. -/
structure ErrorReply where
  /-- The kind of error. -/
  title : String
  /-- What the kind of error means. -/
  description : String
  /-- The wording of this error. -/
  details : String
  /-- What might have been meant. -/
  suggestion? : Option String
  /-- The causes of the error. -/
  traceback? : Option String
deriving DecidableEq, Repr, Inhabited

/-! ## Suggestions -/

/-- The greatest edit distance at which a name is suggested. -/
def greatestSuggestionDistance : Nat := 3

/-- The edit distance between two names. -/
def nameDistance (name candidate : String) : Nat :=
  Text.editDistance name.toList candidate.toList

/-- The first of the candidates with the least distance. -/
def nearest? (distance : String → Nat) : List String → Option String
  | [] => none
  | candidate :: rest =>
    match nearest? distance rest with
    | none => some candidate
    | some other => if distance candidate ≤ distance other then some candidate else some other

/-- The candidate that is nearest to a name without being the name, if it is near
enough to be suggested. Of several the first is taken. -/
def closest? (name : String) (candidates : List String) : Option String :=
  nearest? (nameDistance name)
    (candidates.filter fun candidate =>
      candidate ≠ name && nameDistance name candidate ≤ greatestSuggestionDistance)

/-- The names unknown keywords are compared with: the candidates, or all parameters
of the command if there is no candidate. -/
def keywordPool (options : ReplyOptions) (valid : List String) : List String :=
  if options.candidates.isEmpty then valid else options.candidates

/-- The suggestion for a name that was not found. -/
def lookupSuggestion? (options : ReplyOptions) (name : String) : Option String :=
  (closest? name options.candidates).map fun hit =>
    "Did you mean " ++ options.commandPrefix ++ hit ++ "?"

/-- The hints for unknown keywords that have a near name in the pool. -/
def keywordHints (parameterPrefix : String) (pool unknown : List String) : List String :=
  unknown.filterMap fun name =>
    (closest? name pool).map fun hit =>
      parameterPrefix ++ hit ++ " for " ++ parameterPrefix ++ name

/-- The suggestion for unknown keywords: hints where there are any, and the names
that are known. -/
def keywordSuggestion (options : ReplyOptions) (unknown valid : List String) : String :=
  let pool := keywordPool options valid
  let hints := keywordHints options.parameterPrefix pool unknown
  let joined := String.intercalate ", " (pool.map (options.parameterPrefix ++ ·))
  let listed := if joined.isEmpty then "none" else joined
  if hints.isEmpty then "Valid parameters: " ++ listed
  else
    "Did you mean " ++ String.intercalate ", " hints ++ "? Valid parameters: " ++ listed

/-- What might have been meant, if the error is about a name. -/
def DispatchError.suggestion? (options : ReplyOptions) : DispatchError → Option String
  | commandLookup name | componentLookup name => lookupSuggestion? options name
  | badArguments _ (.unknown names) valid => some (keywordSuggestion options names valid)
  | _ => none

/-! ## The reply -/

/-- What a kind of error means. -/
def DispatchError.description : DispatchError → String
  | missingPrefix .. => "Message was not a command."
  | commandLookup .. | componentLookup .. => "Command not found."
  | badArguments .. => "The arguments did not match the command."
  | rateLimited .. => "Too many commands, slow down."
  | commandFailed .. | commandPanicked .. => "An error occurred during command execution."

/-- The causes of an error that arose inside a command. -/
def DispatchError.traceback? : DispatchError → Option String
  | commandFailed _ cause => some cause.traceback
  | commandPanicked _ message => some ("panic: " ++ message)
  | _ => none

namespace ErrorReply

/-- The reply to an error. -/
def ofError (error : DispatchError) (options : ReplyOptions) : ErrorReply where
  title := error.kind
  description := error.description
  details := error.message
  suggestion? := error.suggestion? options
  traceback? := if options.verbose then error.traceback? else none

/-- The reply as one text. -/
def text (reply : ErrorReply) : String :=
  "**" ++ reply.title ++ "**\n" ++ reply.description ++ "\nDetails: " ++ reply.details ++
    (match reply.suggestion? with
      | some suggestion => "\n" ++ suggestion
      | none => "") ++
    (match reply.traceback? with
      | some traceback => "\nTraceback:\n" ++ traceback
      | none => "")

/-- The reply as a data tree; what is absent is left out. -/
def toJson (reply : ErrorReply) : Json :=
  .object <|
    [("title", .string reply.title), ("description", .string reply.description),
      ("details", .string reply.details)] ++
    (match reply.suggestion? with
      | some suggestion => [("suggestion", .string suggestion)]
      | none => []) ++
    (match reply.traceback? with
      | some traceback => [("traceback", .string traceback)]
      | none => [])

/-- The title of a reply is the kind of the error. -/
@[simp] theorem title_ofError (error : DispatchError) (options : ReplyOptions) :
    (ofError error options).title = error.kind := rfl

/-- The details of a reply are the wording of the error. -/
@[simp] theorem details_ofError (error : DispatchError) (options : ReplyOptions) :
    (ofError error options).details = error.message := rfl

end ErrorReply

end ChatCommands
