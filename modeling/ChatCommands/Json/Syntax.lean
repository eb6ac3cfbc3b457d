/-
# Reading the data format

From tokens to trees, in two steps. `SyntaxTree` is what a text looks like: it
keeps repeated members and texts without a denotation. `SyntaxTree.value?` is
what it means. A reader that is interested in some members only can look at the
former and leave the rest without a meaning.
-/

import ChatCommands.Json
import ChatCommands.Json.Token

namespace ChatCommands.Json

open ChatCommands.Number (Binary64)

/-- The shape of a value as it is written. -/
inductive SyntaxTree where
  /-- The absent value. -/
  | null
  /-- A truth value. -/
  | bool (value : Bool)
  | number (token : NumberToken)
  /-- A text, with its content if it denotes one. -/
  | string (content? : Option String)
  /-- A sequence of values. -/
  | array (items : List SyntaxTree)
  /-- Members in the order they are written, repeated ones included. -/
  | object (members : List (Option String × SyntaxTree))
deriving Inhabited

/-! ## Trees of tokens -/

mutual

/-- Read the value at the start of a list of tokens. -/
def treeWithin? : Nat → List Token → Option (SyntaxTree × List Token)
  | fuel + 1, token :: rest =>
    match token with
    | .null => some (.null, rest)
    | .bool value => some (.bool value, rest)
    | .number written => some (.number written, rest)
    | .string content? => some (.string content?, rest)
    | .mark '[' =>
      match rest with
      | .mark ']' :: after => some (.array [], after)
      | _ => (itemsWithin? fuel rest).map fun (items, after) => (.array items, after)
    | .mark '\x7b' =>
      match rest with
      | .mark '\x7d' :: after => some (.object [], after)
      | _ => (membersWithin? fuel rest).map fun (members, after) => (.object members, after)
    | .mark _ => none
  | _, _ => none

/-- Read the items of an array after its opening bracket. -/
def itemsWithin? : Nat → List Token → Option (List SyntaxTree × List Token)
  | 0, _ => none
  | fuel + 1, tokens =>
    match treeWithin? fuel tokens with
    | some (item, .mark ']' :: after) => some ([item], after)
    | some (item, .mark ',' :: rest) =>
      (itemsWithin? fuel rest).map fun (items, after) => (item :: items, after)
    | _ => none

/-- Read the members of an object after its opening brace. -/
def membersWithin? : Nat → List Token → Option (List (Option String × SyntaxTree) × List Token)
  | fuel + 1, .string key? :: .mark ':' :: tokens =>
    match treeWithin? fuel tokens with
    | some (value, .mark '\x7d' :: after) => some ([(key?, value)], after)
    | some (value, .mark ',' :: rest) =>
      (membersWithin? fuel rest).map fun (members, after) => ((key?, value) :: members, after)
    | _ => none
  | _, _ => none

end

/-- Read a text that holds one value and nothing else. Every call that descends
or goes on has used up a token or is answered by one that does, so twice the
number of tokens bounds the depth. -/
def SyntaxTree.parse? (text : String) : Option SyntaxTree :=
  match tokens? text with
  | none => none
  | some tokens =>
    match treeWithin? (2 * tokens.length + 1) tokens with
    | some (tree, []) => some tree
    | _ => none

/-! ## What numbers mean

A number without point and exponent is whole if it fits 64 bits. Every other
number is read in two steps: its leading digits, as many as fit 64 bits without
sign, are rounded to a binary number, and that is scaled by a power of ten with
one more rounding. Beyond the greatest finite number there is no meaning. -/

/-- The greatest whole number that is kept exactly. -/
def greatestWhole : Nat := 18446744073709551615

/-- The digits that fit the significand, and how many further digits there are. -/
def leadingDigits : Nat → List Char → Nat × List Char
  | value, [] => (value, [])
  | value, c :: rest =>
    let next := 10 * value + (c.toNat - '0'.toNat)
    if next > greatestWhole then (value, c :: rest) else leadingDigits next rest

/-- A magnitude times a power of ten. The powers above 308 are out of reach, and a
magnitude is first brought down by 308 places at a time. -/
def scaleBy : Nat → Binary64 → Int → Option Binary64
  | 0, magnitude, _ => some magnitude
  | fuel + 1, magnitude, power =>
    if power.natAbs ≤ 308 then
      let factor := Binary64.ofNat (Nat.pow 10 power.natAbs)
      if power ≥ 0 then
        let product := magnitude.mulMagnitudes factor
        if product.isFinite then some product else none
      else some (magnitude.divMagnitudes factor)
    else if magnitude.isZero then some magnitude
    else if power ≥ 0 then none
    else scaleBy fuel (magnitude.divMagnitudes (.ofNat (Nat.pow 10 308))) (power + 308)

/-- The greatest exponent that is read digit by digit. -/
def greatestExponent : Nat := 2147483647

/-- A significand times a power of ten, with the exponent that is written. Two
thousand places down every significand is zero. -/
def scaled? (significand : Nat) (places : Int) : Option (Bool × List Char) → Option Binary64
  | none => scaleBy 8 (.ofNat significand) places
  | some (negative, digits) =>
    let written := Number.decimalValue 0 digits
    if written > greatestExponent then
      if significand ≠ 0 ∧ !negative then none else some (.zero false)
    else
      let power : Int := if negative then places - written else places + written
      scaleBy 8 (.ofNat significand) (max power (-2000))

/-- What a number means, if it is in reach. -/
def NumberToken.value? (token : NumberToken) : Option JsonNumber :=
  let (head, rest) := leadingDigits 0 token.whole
  let signed (x : Binary64) : JsonNumber := .binary (if token.negative then x.negate else x)
  match token.fraction?, token.exponent? with
  | none, none =>
    if rest.isEmpty ∧ !token.negative then some (.whole head)
    else if rest.isEmpty ∧ 0 < head ∧ head ≤ Nat.pow 2 63 then some (.whole (-(head : Int)))
    else (scaled? head rest.length none).map signed
  | none, exponent? => (scaled? head rest.length exponent?).map signed
  | some fraction, exponent? =>
    let (significand, unread) := leadingDigits head fraction
    let places : Int := rest.length - ((fraction.length : Int) - unread.length)
    (scaled? significand places exponent?).map signed

/-! ## What trees mean -/

mutual

/-- What a tree means: every text denotes something and every number is in reach. -/
def SyntaxTree.value? : SyntaxTree → Option Json
  | .null => some .null
  | .bool value => some (.bool value)
  | .number token => token.value?.map .number
  | .string content? => content?.map .string
  | .array items => (itemValues? items).map .array
  | .object members => (memberValues? members).map ofMembers

/-- What the items of an array mean. -/
def itemValues? : List SyntaxTree → Option (List Json)
  | [] => some []
  | item :: rest =>
    match item.value?, itemValues? rest with
    | some value, some values => some (value :: values)
    | _, _ => none

/-- What the members of an object mean. -/
def memberValues? : List (Option String × SyntaxTree) → Option (List (String × Json))
  | [] => some []
  | (key?, item) :: rest =>
    match key?, item.value?, memberValues? rest with
    | some key, some value, some values => some ((key, value) :: values)
    | _, _, _ => none

end

/-- Read the value a text holds. -/
def parse? (text : String) : Option Json :=
  (SyntaxTree.parse? text).bind SyntaxTree.value?

end ChatCommands.Json
