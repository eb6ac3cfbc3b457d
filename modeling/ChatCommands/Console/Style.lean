/-
# Styled terminal text

A terminal takes an escape character and everything up to the next letter `m` as a
change of style. Painted text carries such codes; its visible text is what is left
without them.
-/

import ChatCommands.Reply

namespace ChatCommands.Console

/-! ## Visible text -/

/-- The escape character, which opens a style code. -/
def escape : Char := '\x1b'

/-- The visible characters of a text that begins inside a style code or outside. -/
def visibleFrom (inCode : Bool) : List Char → List Char
  | [] => []
  | c :: rest =>
    if inCode then visibleFrom (c != 'm') rest
    else if c = escape then visibleFrom true rest
    else c :: visibleFrom false rest

/-- The visible characters of a text. -/
def visible (cs : List Char) : List Char := visibleFrom false cs

/-- A text without style codes. -/
def stripStyles (text : String) : String := String.ofList (visible text.toList)

/-- How many characters of a text can be seen. -/
def visibleWidth (text : String) : Nat := (visible text.toList).length

/-- Text without an escape character is visible as it is. -/
theorem visible_of_not_mem {cs : List Char} (plain : escape ∉ cs) : visible cs = cs := by
  unfold visible
  induction cs with
  | nil => rfl
  | cons c rest ih =>
    simp only [List.mem_cons, not_or] at plain
    simp [visibleFrom, Ne.symm plain.1, ih plain.2]

/-! ## Painting -/

/-- A change of style. -/
inductive Style where
  /-- Back to plain text. -/
  | reset
  /-- Bold text. -/
  | bold
  /-- Faint text. -/
  | dim
  /-- Red text. -/
  | red
  /-- Green text. -/
  | green
  /-- Yellow text. -/
  | yellow
deriving DecidableEq, Repr

/-- The code of a change of style. -/
def Style.code : Style → String
  | reset => "\x1b[0m"
  | bold => "\x1b[1m"
  | dim => "\x1b[2m"
  | red => "\x1b[31m"
  | green => "\x1b[32m"
  | yellow => "\x1b[33m"

/-- A text in the given styles, if colour is wanted. -/
def paint (color : Bool) (styles : List Style) (text : String) : String :=
  if color then String.join (styles.map Style.code) ++ text ++ Style.reset.code else text

/-! ## Replies -/

/-- The lines of a reply to an error. -/
def errorLines (color : Bool) (reply : ErrorReply) : List String :=
  [paint color [.bold, .red] reply.title, reply.description,
    paint color [.dim] "Details:" ++ " " ++ reply.details] ++
  (match reply.suggestion? with
    | some suggestion => [paint color [.yellow] suggestion]
    | none => []) ++
  (match reply.traceback? with
    | some traceback => [paint color [.dim] "Traceback:", traceback]
    | none => [])

/-- A reply as it is printed. -/
def replyText (color : Bool) : Reply → String
  | .text content => content
  | .error reply => String.intercalate "\n" (errorLines color reply)

end ChatCommands.Console
