/-
# Reading numbers from text

Reading whole numbers of a given range, and binary numbers, from a text that
holds nothing else. Only the ten basic digits count as digits. A text that is
refused is refused for the first reason met from left to right.
-/

import ChatCommands.Number.Binary64

namespace ChatCommands.Number

/-- The value of a basic decimal digit. -/
def digitValue? (c : Char) : Option Nat :=
  if c.isDigit then some (c.toNat - '0'.toNat) else none

/-- The value of a digit in a base up to sixteen, letters in either case. -/
def digitIn? (base : Nat) (c : Char) : Option Nat :=
  let value? : Option Nat :=
    if c.isDigit then some (c.toNat - '0'.toNat)
    else if 'a' ≤ c ∧ c ≤ 'f' then some (c.toNat - 'a'.toNat + 10)
    else if 'A' ≤ c ∧ c ≤ 'F' then some (c.toNat - 'A'.toNat + 10)
    else none
  value?.bind fun value => if value < base then some value else none

/-! ## Whole numbers -/

/-- The integers a reader accepts. A range without negative numbers does not read
a minus sign. -/
structure IntegerRange where
  least : Int
  greatest : Int
deriving DecidableEq, Repr

namespace IntegerRange

/-- The integers of `width` bits without a sign. -/
def unsigned (width : Nat) : IntegerRange := ⟨0, Nat.pow 2 width - 1⟩

/-- The integers of `width` bits with a sign. -/
def signed (width : Nat) : IntegerRange := ⟨-(Nat.pow 2 (width - 1)), Nat.pow 2 (width - 1) - 1⟩

end IntegerRange

/-- Why a text is not an integer of the range. -/
inductive IntegerError where
  /-- There is nothing to read. -/
  | empty
  /-- A character is no digit, or there is a sign and no digit. -/
  | invalidDigit
  /-- The digits exceed the greatest integer of the range. -/
  | tooLarge
  /-- The digits fall below the least integer of the range. -/
  | tooSmall
deriving DecidableEq, Repr

/-- The wording of an integer error. -/
def IntegerError.message : IntegerError → String
  | .empty => "cannot parse integer from empty string"
  | .invalidDigit => "invalid digit found in string"
  | .tooLarge => "number too large to fit in target type"
  | .tooSmall => "number too small to fit in target type"

/-- Read digits after those that make up `value`, refusing the first character
that is no digit or takes the magnitude beyond `limit`. -/
def readDigits (base limit : Nat) (overflow : IntegerError) :
    Nat → List Char → Except IntegerError Nat
  | value, [] => .ok value
  | value, c :: rest =>
    match digitIn? base c with
    | none => .error .invalidDigit
    | some digit =>
      if base * value + digit > limit then .error overflow
      else readDigits base limit overflow (base * value + digit) rest

/-- Read an integer of the range in the given base: an optional sign and digits. -/
def readIntegerIn (base : Nat) (range : IntegerRange) (cs : List Char) :
    Except IntegerError Int :=
  let positive (digits : List Char) : Except IntegerError Int :=
    (readDigits base range.greatest.toNat .tooLarge 0 digits).map Int.ofNat
  match cs with
  | [] => .error .empty
  | ['+'] => .error .invalidDigit
  | ['-'] => .error .invalidDigit
  | '+' :: digits => positive digits
  | '-' :: digits =>
    if range.least < 0 then
      (readDigits base (-range.least).toNat .tooSmall 0 digits).map fun n => -(n : Int)
    else .error .invalidDigit
  | digits => positive digits

/-- Read a decimal integer of the range. -/
def readInteger (range : IntegerRange) (text : String) : Except IntegerError Int :=
  readIntegerIn 10 range text.toList

/-! ## Binary numbers -/

/-- Why a text is not a binary number. -/
inductive FloatError where
  /-- There is nothing to read. -/
  | empty
  /-- The text is not laid out as a number. -/
  | invalid
deriving DecidableEq, Repr

/-- The wording of a number error. -/
def FloatError.message : FloatError → String
  | .empty => "cannot parse float from empty string"
  | .invalid => "invalid float literal"

/-- The value of a list of decimal digits after those that make up `value`. -/
def decimalValue (value : Nat) (digits : List Char) : Nat :=
  digits.foldl (fun total c => 10 * total + (c.toNat - '0'.toNat)) value

/-- An exponent part: nothing, or the letter, an optional sign and digits. -/
def exponentPart? : List Char → Option Int
  | [] => some 0
  | letter :: rest =>
    if letter ≠ 'e' ∧ letter ≠ 'E' then none
    else
      let (negative, digits) :=
        match rest with
        | '-' :: digits => (true, digits)
        | '+' :: digits => (false, digits)
        | digits => (false, digits)
      if digits.isEmpty || !digits.all Char.isDigit then none
      else
        let magnitude : Int := decimalValue 0 digits
        some (if negative then -magnitude else magnitude)

/-- A number without its sign: digits around an optional point, at least one of
them, and an optional exponent. -/
def magnitude? (negative : Bool) (cs : List Char) : Option Binary64 :=
  let whole := cs.takeWhile Char.isDigit
  let afterWhole := cs.dropWhile Char.isDigit
  let (fraction, afterFraction) :=
    match afterWhole with
    | '.' :: rest => (rest.takeWhile Char.isDigit, rest.dropWhile Char.isDigit)
    | rest => ([], rest)
  if whole.isEmpty && fraction.isEmpty then none
  else
    (exponentPart? afterFraction).map fun exponent =>
      Binary64.ofDecimal negative (decimalValue (decimalValue 0 whole) fraction)
        (exponent - fraction.length)

/-- The names of the values that have no digits, in any case. -/
def named? (negative : Bool) (cs : List Char) : Option Binary64 :=
  let name := String.ofList (cs.map Char.toLower)
  if name = "inf" ∨ name = "infinity" then some (.infinity negative)
  else if name = "nan" then some .undefined
  else none

/-- Read a binary number, rounded to the nearest. -/
def readFloat (text : String) : Except FloatError Binary64 :=
  let unsigned (negative : Bool) (cs : List Char) : Except FloatError Binary64 :=
    match (magnitude? negative cs).or (named? negative cs) with
    | some x => .ok x
    | none => .error .invalid
  match text.toList with
  | [] => .error .empty
  | '+' :: rest => unsigned false rest
  | '-' :: rest => unsigned true rest
  | cs => unsigned false cs

end ChatCommands.Number
