/-
# Tags of YAML

A tag says what kind of value a node is. It is written in full between angle
brackets, or as a handle, which stands for the beginning of the tag, and the rest.
A tag is a string of bytes: escapes can spell any byte, so a tag need not be a
text, and the first zero byte is the end of it.
-/

import ChatCommands.Yaml.Scalar

namespace ChatCommands.Yaml

/-- A tag, given by its bytes. -/
structure Tag where
  /-- The bytes, in order. -/
  bytes : List UInt8
deriving DecidableEq, Repr

namespace Tag

/-- The bytes of a text of the basic set. -/
def bytesOf (cs : List Char) : List UInt8 := cs.map fun c => UInt8.ofNat c.toNat

/-- The byte of the exclamation mark. -/
def mark : UInt8 := 33

/-- The bytes before the first zero byte. -/
def untilZero (bytes : List UInt8) : List UInt8 := bytes.takeWhile (· != 0)

/-- The tag of one of the standard kinds of values. -/
def standard (name : String) : Tag := ⟨bytesOf ("tag:yaml.org,2002:" ++ name).toList⟩

/-- Whether a tag starts with an exclamation mark. -/
def isLocal (tag : Tag) : Bool := tag.bytes.head? == some mark

/-- The name in a tag that starts with an exclamation mark: what comes after the
mark, or the mark itself where nothing does. Bytes that are no text are no name. -/
def localName? (tag : Tag) : Option String :=
  if tag.isLocal then
    let name := if tag.bytes.length = 1 then tag.bytes else tag.bytes.drop 1
    String.fromUTF8? ⟨name.toArray⟩
  else none

end Tag

/-! ## Characters of a tag -/

/-- Whether a character may stand in a tag. A comma and brackets are allowed only
where the tag is delimited. -/
def isTagChar (delimited : Bool) (c : Char) : Bool :=
  isNameChar c || ";/?:@&=+$.!~*'()%".toList.contains c ||
    (delimited && ",[]".toList.contains c)

/-- The value of an escaped byte: a percent sign and two hexadecimal digits. -/
def escapedByte? : List Char → Option (UInt8 × List Char)
  | '%' :: a :: b :: rest => (hexValue? [a, b]).map fun value => (UInt8.ofNat value, rest)
  | _ => none

/-- How many bytes follow the first byte of a character, if a character may start
with it. -/
def furtherBytes? (first : UInt8) : Option Nat :=
  let n := first.toNat
  if n < 0x80 then some 0
  else if n / 32 = 6 then some 1
  else if n / 16 = 14 then some 2
  else if n / 8 = 30 then some 3
  else none

/-- Read the given number of escaped bytes, each of which goes on with a character. -/
def escapedTail? : Nat → List Char → Option (List UInt8 × List Char)
  | 0, cs => some ([], cs)
  | count + 1, cs =>
    match escapedByte? cs with
    | some (byte, rest) =>
      if byte.toNat / 64 = 2 then
        (escapedTail? count rest).map fun (bytes, rest) => (byte :: bytes, rest)
      else none
    | none => none

/-- Read escaped bytes that have the shape of one character. The character itself
is not looked at, so a longer spelling than needed is allowed. -/
def escapedChar? (cs : List Char) : Option (List UInt8 × List Char) :=
  match escapedByte? cs with
  | none => none
  | some (first, rest) =>
    match furtherBytes? first with
    | none => none
    | some count =>
      (escapedTail? count rest).map fun (bytes, rest) => (first :: bytes, rest)

/-- Read the characters of a tag, with escapes replaced. -/
def tagBytes? (delimited : Bool) : Nat → List Char → Option (List UInt8 × List Char)
  | 0, cs => some ([], cs)
  | fuel + 1, cs =>
    match cs with
    | [] => some ([], [])
    | '%' :: rest =>
      match escapedChar? ('%' :: rest) with
      | none => none
      | some (found, after) =>
        (tagBytes? delimited fuel after).map fun (bytes, after) => (found ++ bytes, after)
    | c :: rest =>
      if isTagChar delimited c then
        (tagBytes? delimited fuel rest).map fun (bytes, after) =>
          (Tag.bytesOf [c] ++ bytes, after)
      else some ([], c :: rest)

/-- Read the characters of a tag at a place of the text. -/
def tagBytesAt? (delimited : Bool) (cursor : Cursor) : Option (List UInt8 × Cursor) :=
  (tagBytes? delimited cursor.rest.length cursor.rest).map fun (bytes, after) =>
    (bytes, cursor.skip (cursor.rest.length - after.length))

/-! ## Handles -/

/-- Read a handle: an exclamation mark, name characters and perhaps another mark. -/
def handle? (cursor : Cursor) : Option (String × Cursor) :=
  if !cursor.sees 0 '!' then none
  else
    let name := (cursor.rest.drop 1).takeWhile isNameChar
    let after := cursor.skip (1 + name.length)
    if after.sees 0 '!' then some (String.ofList ('!' :: name ++ ['!']), after.skip 1)
    else some (String.ofList ('!' :: name), after)

/-- Whether a handle has a mark at both ends. -/
def isFullHandle (handle : String) : Bool :=
  handle.length ≥ 2 && handle.endsWith "!"

/-- What handles stand for. -/
abbrev Handles := List (String × List UInt8)

/-- The handles that need no declaration. -/
def standardHandles : Handles :=
  [("!", [Tag.mark]), ("!!", (Tag.standard "").bytes)]

/-- The tag that a handle and the rest of a tag denote. A handle must be declared,
and without a handle the rest is the tag. -/
def expandTag? (handles : Handles) (handle : String) (rest : List UInt8) : Option Tag :=
  if handle.isEmpty then some ⟨Tag.untilZero rest⟩
  else (handles.lookup handle).map fun expansion =>
    ⟨Tag.untilZero expansion ++ Tag.untilZero rest⟩

/-! ## Tags in a text -/

/-- Read the handle and the rest of a tag. A tag without a full handle has the
handle of a single mark, and a lone mark is a tag without handle. -/
def tagParts? (cursor : Cursor) : Option (String × List UInt8 × Cursor) :=
  if cursor.sees 1 '<' then
    match tagBytesAt? true (cursor.skip 2) with
    | none => none
    | some (bytes, after) =>
      if bytes.isEmpty || !after.sees 0 '>' then none else some ("", bytes, after.skip 1)
  else
    match handle? cursor with
    | none => none
    | some (handle, after) =>
      match tagBytesAt? false after with
      | none => none
      | some (bytes, after) =>
        if isFullHandle handle then
          if bytes.isEmpty then none else some (handle, bytes, after)
        else
          let rest := Tag.bytesOf (handle.toList.drop 1) ++ bytes
          if (Tag.untilZero rest).isEmpty then some ("", [Tag.mark], after)
          else some ("!", rest, after)

/-- Read a tag, which must be followed by a blank or, inside brackets, a comma. -/
def tag? (inFlow : Bool) (cursor : Cursor) : Option ((String × List UInt8) × Cursor) :=
  match tagParts? cursor with
  | none => none
  | some (handle, rest, after) =>
    if after.endsAt 0 || (inFlow && after.sees 0 ',') then some ((handle, rest), after)
    else none

end ChatCommands.Yaml
