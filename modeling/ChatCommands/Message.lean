/-
# Messages and what commands say to them

A message is a unit of chat text with its author, its channel and the time at
which the chat platform says it was written. All limits on how often an author may
call commands are computed from that time, never from a local clock.

Times are nanoseconds on one line, so the difference of two times is the time
between them. An instant within a leap second has no place on the line and is no
time of a message.
-/

namespace ChatCommands

/-- A chat message. -/
structure Message where
  /-- The identifier of the message, empty if the host gives none. -/
  id : String
  /-- Who wrote it. -/
  author : String
  /-- Where it was written. -/
  channel : String
  /-- What was written. -/
  content : String
  /-- When it was written: the nanoseconds since an origin, negative before it. -/
  time : Int
deriving DecidableEq, Repr, Inhabited

/-- What a command is told about the request it answers. -/
structure Request where
  /-- The message that calls the command. -/
  message : Message
  /-- For how many seconds the host has been running. -/
  uptime : Int
deriving DecidableEq, Repr, Inhabited

/-- What a command says. -/
inductive Response where
  /-- Nothing is said. -/
  | silent
  /-- A text is said in the channel of the message. -/
  | text (content : String)
deriving DecidableEq, Repr, Inhabited

end ChatCommands
