/-
# What YAML nodes mean

From the node of a document to a data tree. A plain scalar is the absent value, a
truth value or a number if it is spelled like one, and a text otherwise; every
other scalar is a text unless a tag says what it is. A reference means what the
node it refers to means. How deep nodes are nested and how many references are
followed is limited, which also ends the reading of a node that refers to itself.
-/

import ChatCommands.Json
import ChatCommands.Yaml.Anchor

namespace ChatCommands.Yaml

open ChatCommands.Number (Binary64 IntegerRange)

/-! ## Scalars -/

/-- The spellings of the absent value. -/
def isNullWord (text : String) : Bool := ["null", "Null", "NULL", "~"].contains text

/-- The spellings of the truth values. -/
def truth? (text : String) : Option Bool :=
  if ["true", "True", "TRUE"].contains text then some true
  else if ["false", "False", "FALSE"].contains text then some false
  else none

/-- A text without the plus sign it starts with. -/
def withoutPlus : List Char → List Char
  | '+' :: rest => rest
  | cs => cs

/-- Whether a text starts with a sign. -/
def isSigned : List Char → Bool
  | '+' :: _ => true
  | '-' :: _ => true
  | _ => false

/-- Digits that start with a needless zero, which are a text and no number. -/
def hasNeedlessZero (cs : List Char) : Bool :=
  let digits := if isSigned cs then cs.drop 1 else cs
  digits.length > 1 && digits.all Char.isDigit && digits.head? == some '0'

/-- The bases that a number can announce, with the letter that does so. -/
def announcedBases : List (Char × Nat) := [('x', 16), ('o', 8), ('b', 2)]

/-- Read the digits in the base that a text announces, if it announces one. The
outer result is absent if a sign follows the announcement. -/
def announced? (range : IntegerRange) (cs : List Char) : Option (Option Int) :=
  match cs with
  | '0' :: letter :: digits =>
    match announcedBases.lookup letter with
    | some base =>
      if isSigned digits then none
      else some (Number.readIntegerIn base range digits).toOption
    | none => some none
  | _ => some none

/-- Read a whole number that is not negative. -/
def naturalIn? (range : IntegerRange) (cs : List Char) : Option Int :=
  let digits := withoutPlus cs
  match announced? range digits with
  | none => none
  | some (some value) => some value
  | some none =>
    if isSigned digits || hasNeedlessZero cs then none
    else (Number.readIntegerIn 10 range digits).toOption

/-- Read a whole number with its minus sign, in the base it announces. -/
def negativeIn? (range : IntegerRange) (cs : List Char) : Option Int :=
  let announcedValue? : Option Int :=
    match cs with
    | '-' :: '0' :: letter :: digits =>
      (announcedBases.lookup letter).bind fun base =>
        (Number.readIntegerIn base range ('-' :: digits)).toOption
    | _ => none
  match announcedValue? with
  | some value => some value
  | none =>
    if hasNeedlessZero cs then none else (Number.readIntegerIn 10 range cs).toOption

/-- A whole number, if the text is one. A number of more than 64 bits has no value
in a data tree; of more than 128 bits it is not read as a whole number. -/
def whole? (text : String) : Option (Option Json) :=
  let cs := text.toList
  match (naturalIn? (.unsigned 64) cs).or (negativeIn? (.signed 64) cs) with
  | some value => some (some (.ofInt value))
  | none =>
    match (naturalIn? (.unsigned 128) cs).or (negativeIn? (.signed 128) cs) with
    | some _ => some none
    | none => none

/-- A binary number, if the text is spelled like one. The infinities and the
undefined number have spellings of their own. -/
def binary? (text : String) : Option Binary64 :=
  let cs := text.toList
  let digits := withoutPlus cs
  let magnitude := String.ofList digits
  if cs.head? == some '+' && isSigned digits then none
  else if [".inf", ".Inf", ".INF"].contains magnitude then some (.infinity false)
  else if ["-.inf", "-.Inf", "-.INF"].contains text then some (.infinity true)
  else if [".nan", ".NaN", ".NAN"].contains text then some .undefined
  else
    match Number.readFloat magnitude with
    | .ok x => if x.isFinite then some x else none
    | .error _ => none

/-- A binary number in a data tree, which has no place for the others. -/
def binaryValue (x : Binary64) : Json :=
  if x.isFinite then .number (.binary x) else .null

/-- What a plain scalar without tag means. -/
def plainValue? (text : String) : Option Json :=
  if text.isEmpty || isNullWord text then some .null
  else
    match truth? text with
    | some value => some (.bool value)
    | none =>
      match whole? text with
      | some value? => value?
      | none =>
        if hasNeedlessZero text.toList then some (.string text)
        else
          match binary? text with
          | some x => some (binaryValue x)
          | none => some (.string text)

/-- What a scalar with a tag means. A tag with a name of the text's own is refused. -/
def taggedValue? (tag : Tag) (plain : Bool) (text : String) : Option Json :=
  if tag.localName?.isSome then none
  else if tag = .standard "bool" then (truth? text).map .bool
  else if tag = .standard "int" then (whole? text).bind id
  else if tag = .standard "float" then (binary? text).map binaryValue
  else if tag = .standard "null" then if isNullWord text then some .null else none
  else if tag.isLocal && plain then plainValue? text
  else some (.string text)

/-- What a scalar means. -/
def scalarValue? (tag? : Option Tag) (plain : Bool) (text : String) : Option Json :=
  match tag? with
  | some tag => taggedValue? tag plain text
  | none => if plain then plainValue? text else some (.string text)

/-- Whether a sequence or mapping may have the tag. -/
def allowsTag (tag? : Option Tag) : Bool := (tag?.bind Tag.localName?).isNone

/-! ## Limits -/

/-- How deep sequences and mappings may be nested. -/
def greatestDepth : Nat := 128

/-- How many references may be followed for each event of the text. -/
def referencesPerEvent : Nat := 100

mutual

/-- The number of events of a node: one for a scalar or reference, and one at
either end of a sequence or mapping. -/
def events {ρ : Type} : Node ρ → Nat
  | .alias _ => 1
  | .scalar _ _ _ => 1
  | .sequence _ items => 2 + itemEvents items
  | .mapping _ pairs => 2 + pairEvents pairs

/-- The number of events of the items of a sequence. -/
def itemEvents {ρ : Type} : List (Node ρ) → Nat
  | [] => 0
  | item :: rest => events item + itemEvents rest

/-- The number of events of the pairs of a mapping. -/
def pairEvents {ρ : Type} : List (Node ρ × Node ρ) → Nat
  | [] => 0
  | (key, value) :: rest => events key + events value + pairEvents rest

end

/-! ## Nodes -/

/-- A reading of a value, which fails or counts down the number of references that
may still be followed. -/
abbrev Reading := StateT Nat Option

/-- The node itself, or the node it refers to. No target is a reference. -/
def follow (targets : Targets) : Node Nat → Reading (Node Nat)
  | .alias number => fun left =>
    match left, targets.lookup number with
    | left + 1, some node => some (node, left)
    | _, _ => none
  | node => pure node

/-- The text of a key. Only a scalar can be a key, and its tag does not count. -/
def keyText (targets : Targets) (key : Node Nat) : Reading String := do
  match ← follow targets key with
  | .scalar _ _ text => pure text
  | _ => failure

/-- What a scalar means. Any other node has no meaning where nothing may be nested. -/
def flatValue : Node Nat → Reading Json
  | .scalar properties plain text => liftM (scalarValue? properties.tag? plain text)
  | _ => failure

/-- What a node means if sequences and mappings may be nested in it to the given
depth. -/
def value (targets : Targets) : Nat → Node Nat → Reading Json
  | 0, node => do flatValue (← follow targets node)
  | depth + 1, node => do
    match ← follow targets node with
    | .sequence properties items =>
      if allowsTag properties.tag? then .array <$> items.mapM (value targets depth)
      else failure
    | .mapping properties pairs =>
      if allowsTag properties.tag? then
        .ofMembers <$> pairs.mapM fun (key, item) => do
          let name ← keyText targets key
          let found ← value targets depth item
          pure (name, found)
      else failure
    | found => flatValue found

/-! ## Texts -/

/-- Whether a document is there but says nothing. -/
def saysNothing : Node Nat → Bool
  | .scalar properties plain text =>
    plain && match properties.tag? with
      | some tag => tag = .standard "null" && isNullWord text
      | none => text.isEmpty || isNullWord text
  | _ => false

/-- The value a text holds, `some none` if it holds none. A text that is not well
formed, has no value in a data tree or exceeds a limit is refused. -/
def parse? (text : String) : Option (Option Json) :=
  match document? text with
  | none => none
  | some none => some none
  | some (some node) =>
    match resolve? node with
    | none => none
    | some ⟨root, targets⟩ =>
      if saysNothing root then some none
      else ((value targets greatestDepth root).run' (referencesPerEvent * events root)).map some

end ChatCommands.Yaml
