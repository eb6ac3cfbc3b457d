/-
# Character classes

The classes of characters the command language distinguishes: blanks separate,
word characters make up names, decimal digits make up identifiers. The tables of
`ChatCommands.Text.Property` hold the data; this file says which properties make
up which class. Words and digits follow the sixteenth edition of the character
standard, letters and numerals the seventeenth. A character below 128 is decided
without the tables.
-/

import ChatCommands.Text.Property.Addition
import ChatCommands.Text.Property.Alphabetic
import ChatCommands.Text.Property.Mark
import ChatCommands.Text.Property.Numeral

namespace ChatCommands.Text

/-- Whether a character is one of the 128 of the basic set. -/
def isBasic (c : Char) : Bool := c.toNat < 128

/-! ## Blanks -/

/-- The code points of the characters with the property *White space*. -/
def blankRanges : List CodeRange :=
  [⟨0x9, 0xD⟩, ⟨0x20, 0x20⟩, ⟨0x85, 0x85⟩, ⟨0xA0, 0xA0⟩, ⟨0x1680, 0x1680⟩,
    ⟨0x2000, 0x200A⟩, ⟨0x2028, 0x2029⟩, ⟨0x202F, 0x202F⟩, ⟨0x205F, 0x205F⟩,
    ⟨0x3000, 0x3000⟩]

/-- A blank: any character with the property *White space*. -/
def isBlank (c : Char) : Bool := inRanges blankRanges c

/-! ## Digits and numerals -/

/-- A decimal digit of any script. -/
def isDecimalDigit (c : Char) : Bool :=
  if isBasic c then c.isDigit else inRanges Property.decimalDigit c

/-- A letter or numeral of any script, fractions and superscripts included. -/
def isAlphanumeric (c : Char) : Bool :=
  if isBasic c then c.isAlphanum
  else inRanges Property.alphabetic c || inRanges Property.decimalDigit c ||
    inRanges Property.otherNumeral c || inRanges Property.laterAlphanumeric c

/-! ## Words -/

/-- Punctuation that connects the parts of a word, such as the underscore. -/
def connectorRanges : List CodeRange :=
  [⟨0x5F, 0x5F⟩, ⟨0x203F, 0x2040⟩, ⟨0x2054, 0x2054⟩, ⟨0xFE33, 0xFE34⟩,
    ⟨0xFE4D, 0xFE4F⟩, ⟨0xFF3F, 0xFF3F⟩]

/-- The two invisible characters that control whether letters are joined. -/
def joinControlRanges : List CodeRange := [⟨0x200C, 0x200D⟩]

/-- A word character: alphabetic, a mark, a decimal digit, a connector or a join
control. Fractions and superscripts are numerals but not word characters. -/
def isWord (c : Char) : Bool :=
  if isBasic c then c.isAlphanum || c == '_'
  else inRanges Property.alphabetic c || inRanges Property.mark c ||
    inRanges Property.decimalDigit c || inRanges connectorRanges c ||
    inRanges joinControlRanges c

/-- A single word: at least one character, and word characters only. -/
def isSingleWord (text : String) : Bool :=
  !text.isEmpty && text.toList.all isWord

end ChatCommands.Text
