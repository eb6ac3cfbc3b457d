/-
# Data trees

The tree of values that configuration, package manifests and command descriptors
are written in. An object that was read from a text holds its members in increasing
order of their keys and each key once; `Json.ofMembers` is how such an object is made
from members in any order. An object that is only written, such as a descriptor,
lists its members in the order in which they are to appear.
-/

import ChatCommands.Number.Binary64

namespace ChatCommands

/-- A number of a data tree. Whole numbers written without point and exponent stay
whole; everything else is a binary number. -/
inductive JsonNumber where
  /-- A number written without point and exponent. -/
  | whole (value : Int)
  /-- Any other number. -/
  | binary (value : Number.Binary64)
deriving DecidableEq, Repr, Inhabited

/-- A tree of values. -/
inductive Json where
  /-- The absent value. -/
  | null
  /-- A truth value. -/
  | bool (value : Bool)
  | number (value : JsonNumber)
  /-- A text. -/
  | string (value : String)
  /-- A sequence of values. -/
  | array (items : List Json)
  /-- Values under keys. -/
  | object (members : List (String × Json))
deriving Inhabited, Repr

namespace Json

/-! ## Making values -/

/-- The value of a whole number. -/
def ofInt (n : Int) : Json := number (.whole n)

/-- The value of a natural number. -/
def ofNat (n : Nat) : Json := number (.whole n)

/-- A text, or the absent value. -/
def ofOption : Option String → Json
  | some text => string text
  | none => null

/-- The array of texts. -/
def ofTexts (texts : List String) : Json := array (texts.map string)

/-- Put a member in its place among members in increasing order of keys. A member
with the same key gives way. -/
def insertMember (key : String) (value : Json) :
    List (String × Json) → List (String × Json)
  | [] => [(key, value)]
  | (other, old) :: rest =>
    if key < other then (key, value) :: (other, old) :: rest
    else if key = other then (key, value) :: rest
    else (other, old) :: insertMember key value rest

/-- The object with the given members. Of members with the same key the last one
counts. -/
def ofMembers (members : List (String × Json)) : Json :=
  object (members.foldl (fun sorted (key, value) => insertMember key value sorted) [])

/-! ## Looking inside -/

/-- The member of an object under a key. -/
def member? (key : String) : Json → Option Json
  | object members => members.lookup key
  | _ => none

/-- The truth value, if it is one. -/
def bool? : Json → Option Bool
  | bool value => some value
  | _ => none

/-- The text, if it is one. -/
def string? : Json → Option String
  | string value => some value
  | _ => none

/-- The whole number, if it is one. -/
def int? : Json → Option Int
  | number (.whole value) => some value
  | _ => none

/-- The items, if it is an array. -/
def array? : Json → Option (List Json)
  | array items => some items
  | _ => none

/-- The number as a binary number, if it is a number at all. -/
def binary? : Json → Option Number.Binary64
  | number (.whole value) => some (.ofInt value)
  | number (.binary value) => some value
  | _ => none

/-! ## Records

A record is an object, or an array of its fields in declared order. Of an object
unknown members are passed over; an array must not have more items than the
record has fields. -/

/-- What a record gives for one of its fields. -/
inductive Field where
  /-- The record is an object without a member for the field. -/
  | missing
  /-- The record is an array that ends before the field. -/
  | cutOff
  | given (value : Json)

namespace Field

/-- The value of a field that may be left out, read with `read`. -/
def optional {α : Type} (read : Json → Option α) (fallback : α) : Field → Option α
  | missing => some fallback
  | cutOff => some fallback
  | given value => read value

/-- The value of a field that must be there, read with `read`. -/
def required {α : Type} (read : Json → Option α) : Field → Option α
  | missing => none
  | cutOff => none
  | given value => read value

/-- The value of a field an object may leave out but an array may not. -/
def nullable {α : Type} (read : Json → Option (Option α)) : Field → Option (Option α)
  | missing => some none
  | cutOff => none
  | given value => read value

end Field

/-- The fields a record gives, in declared order. -/
def record? (names : List String) : Json → Option (List Field)
  | object members =>
    some (names.map fun name =>
      match members.lookup name with
      | some value => .given value
      | none => .missing)
  | array items =>
    if items.length > names.length then none
    else some (items.map .given ++ List.replicate (names.length - items.length) .cutOff)
  | _ => none

/-- Read a value that may be absent. -/
def orNull {α : Type} (read : Json → Option α) : Json → Option (Option α)
  | null => some none
  | value => (read value).map some

/-- Read every item of an array. -/
def listOf? {α : Type} (read : Json → Option α) : Json → Option (List α)
  | array items => items.mapM read
  | _ => none

end Json

end ChatCommands
