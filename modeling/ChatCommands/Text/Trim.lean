/-
# Trimming

Removing the blanks at the ends of a text. The functions work on lists of
characters, where their laws are short; `trimmed` is the version for whole texts.
-/

import ChatCommands.Text.CharClass

namespace ChatCommands.Text

/-- A list of characters without the blanks it starts with. -/
def trimStart (cs : List Char) : List Char := cs.dropWhile isBlank

/-- A list of characters without the blanks it ends with. -/
def trimEnd (cs : List Char) : List Char := (trimStart cs.reverse).reverse

/-- A list of characters without the blanks at either end. -/
def trim (cs : List Char) : List Char := trimEnd (trimStart cs)

/-- A text without the blanks at either end. -/
def trimmed (text : String) : String := String.ofList (trim text.toList)

/-- A text that holds nothing but blanks, the empty text included. -/
def isBlankText (text : String) : Bool := text.toList.all isBlank

/-- A text that starts with something other than a blank is not trimmed there. -/
theorem trimStart_cons_of_not_blank {c : Char} {cs : List Char} (h : isBlank c = false) :
    trimStart (c :: cs) = c :: cs := by
  simp [trimStart, h]

end ChatCommands.Text
