/-
# Replies

What is sent back for a message: the text a command says, or the reply to an error.
-/

import ChatCommands.ErrorReply

namespace ChatCommands

/-- What is sent back for a message. -/
inductive Reply where
  /-- What a command says. -/
  | text (content : String)
  | error (reply : ErrorReply)
deriving DecidableEq, Repr, Inhabited

/-- A reply as chat text. -/
def Reply.plain : Reply → String
  | .text content => content
  | .error reply => reply.text

end ChatCommands
