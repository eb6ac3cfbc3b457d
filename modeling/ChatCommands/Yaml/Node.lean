/-
# Nodes of YAML

From tokens to the node of a document. A node may carry an anchor and a tag; a
reference to an anchor is a node of its own. Which node a reference refers to is
decided in `ChatCommands.Yaml.Anchor`, and what the nodes mean in
`ChatCommands.Yaml.Value`.
-/

import ChatCommands.Yaml.Token

namespace ChatCommands.Yaml

/-- What may come before a node. Anchors are of type `ρ`: names in a text, and
numbers once the references are resolved. -/
structure Properties (ρ : Type) where
  /-- The anchor by which the node can be referred to. -/
  anchor? : Option ρ
  /-- The tag that says what kind of value the node is. -/
  tag? : Option Tag
deriving DecidableEq, Repr

/-- A node whose anchors are of type `ρ`. -/
inductive Node (ρ : Type) where
  /-- A reference to the node with an anchor. -/
  | alias (anchor : ρ)
  /-- A scalar, and whether it is written without quotes and not as a block. -/
  | scalar (properties : Properties ρ) (plain : Bool) (text : String)
  | sequence (properties : Properties ρ) (items : List (Node ρ))
  | mapping (properties : Properties ρ) (pairs : List (Node ρ × Node ρ))

/-- The node that stands where nothing is written. -/
def Node.absent : Node String := .scalar ⟨none, none⟩ true ""

/-! ## Properties -/

/-- Read an anchor and a tag, in either order and each at most once. -/
def properties? (handles : Handles) (tokens : List Token) :
    Option (Properties String × List Token) :=
  let expand := expandTag? handles
  match tokens with
  | .anchor name :: .tag handle rest :: after =>
    (expand handle rest).map fun tag => (⟨some name, some tag⟩, after)
  | .tag handle rest :: .anchor name :: after =>
    (expand handle rest).map fun tag => (⟨some name, some tag⟩, after)
  | .anchor name :: after => some (⟨some name, none⟩, after)
  | .tag handle rest :: after =>
    (expand handle rest).map fun tag => (⟨none, some tag⟩, after)
  | after => some (⟨none, none⟩, after)

/-! ## Nodes

Each function takes a bound on the number of nested calls. Every call either uses
up a token or is answered by one that does. -/

/-- Whether a block collection goes on, so that nothing is written here. -/
def goesOn : List Token → Bool
  | .key :: _ => true
  | .value :: _ => true
  | .blockEnd :: _ => true
  | _ => false

/-- Whether an item of a block sequence is empty. -/
def isEmptyItem : List Token → Bool
  | .blockItem :: _ => true
  | .blockEnd :: _ => true
  | _ => false

mutual

/-- Read a node. Block collections are allowed if `block` is set; a sequence whose
dashes stand at the column of the key is allowed if `flush` is set. -/
def nodeWithin? (handles : Handles) (block flush : Bool) :
    Nat → List Token → Option (Node String × List Token)
  | 0, _ => none
  | fuel + 1, tokens =>
    match tokens with
    | .alias name :: after => some (.alias name, after)
    | _ =>
      match properties? handles tokens with
      | none => none
      | some (properties, tokens) =>
        match tokens with
        | .blockItem :: _ =>
          if flush then
            (flushItemsWithin? handles fuel tokens).map fun (items, after) =>
              (.sequence properties items, after)
          else emptyNode? properties tokens
        | .scalar plain text :: after =>
          some (.scalar properties plain text, after)
        | .openSequence :: after =>
          (flowItemsWithin? handles true fuel after).map fun (items, after) =>
            (.sequence properties items, after)
        | .openMapping :: after =>
          (flowPairsWithin? handles true fuel after).map fun (pairs, after) =>
            (.mapping properties pairs, after)
        | .blockSequence :: after =>
          if block then
            (blockItemsWithin? handles fuel after).map fun (items, after) =>
              (.sequence properties items, after)
          else emptyNode? properties tokens
        | .blockMapping :: after =>
          if block then
            (blockPairsWithin? handles fuel after).map fun (pairs, after) =>
              (.mapping properties pairs, after)
          else emptyNode? properties tokens
        | _ => emptyNode? properties tokens

/-- The empty scalar, which needs an anchor or a tag to stand where a node must
be. -/
def emptyNode? (properties : Properties String) (tokens : List Token) :
    Option (Node String × List Token) :=
  if properties.anchor?.isSome || properties.tag?.isSome then
    some (.scalar properties true "", tokens)
  else none

/-- Read the items of a block sequence. -/
def blockItemsWithin? (handles : Handles) :
    Nat → List Token → Option (List (Node String) × List Token)
  | 0, _ => none
  | fuel + 1, tokens =>
    match tokens with
    | .blockEnd :: after => some ([], after)
    | .blockItem :: after =>
      let item? :=
        if isEmptyItem after then some (.absent, after)
        else nodeWithin? handles true false fuel after
      match item? with
      | none => none
      | some (item, after) =>
        (blockItemsWithin? handles fuel after).map fun (items, after) => (item :: items, after)
    | _ => none

/-- Read the items of a sequence whose dashes stand at the column of the key. It
ends at the first token that is no dash. -/
def flushItemsWithin? (handles : Handles) :
    Nat → List Token → Option (List (Node String) × List Token)
  | 0, _ => none
  | fuel + 1, tokens =>
    match tokens with
    | .blockItem :: after =>
      let item? :=
        if isEmptyItem after || goesOn after then some (.absent, after)
        else nodeWithin? handles true false fuel after
      match item? with
      | none => none
      | some (item, after) =>
        (flushItemsWithin? handles fuel after).map fun (items, after) => (item :: items, after)
    | _ => some ([], tokens)

/-- Read the pairs of a block mapping. -/
def blockPairsWithin? (handles : Handles) :
    Nat → List Token → Option (List (Node String × Node String) × List Token)
  | 0, _ => none
  | fuel + 1, tokens =>
    match tokens with
    | .blockEnd :: after => some ([], after)
    | .key :: after =>
      let key? :=
        if goesOn after then some (.absent, after)
        else nodeWithin? handles true true fuel after
      match key? with
      | none => none
      | some (key, after) =>
        match blockValueWithin? handles fuel after with
        | none => none
        | some (value, after) =>
          (blockPairsWithin? handles fuel after).map fun (pairs, after) =>
            ((key, value) :: pairs, after)
    | _ => none

/-- Read the value of a pair of a block mapping. -/
def blockValueWithin? (handles : Handles) :
    Nat → List Token → Option (Node String × List Token)
  | 0, _ => none
  | fuel + 1, tokens =>
    match tokens with
    | .value :: after =>
      if goesOn after then some (.absent, after)
      else nodeWithin? handles true true fuel after
    | _ => some (.absent, tokens)

/-- Read the items of a sequence in brackets, `first` if none has been read. An
item with a key is a mapping of one pair. -/
def flowItemsWithin? (handles : Handles) (first : Bool) :
    Nat → List Token → Option (List (Node String) × List Token)
  | 0, _ => none
  | fuel + 1, tokens =>
    let tokens? :=
      match first, tokens with
      | true, _ => some tokens
      | false, .closeSequence :: _ => some tokens
      | false, .comma :: after => some after
      | false, _ => none
    match tokens? with
    | none => none
    | some (.closeSequence :: after) => some ([], after)
    | some tokens =>
      let item? :=
        match tokens with
        | .key :: after =>
          (singlePairWithin? handles fuel after).map fun (pair, after) =>
            (.mapping ⟨none, none⟩ [pair], after)
        | _ => nodeWithin? handles false false fuel tokens
      match item? with
      | none => none
      | some (item, after) =>
        (flowItemsWithin? handles false fuel after).map fun (items, after) =>
          (item :: items, after)

/-- Read the pair of an item with a key, after the mark of the key. Where the key is
empty the token after it is passed over. -/
def singlePairWithin? (handles : Handles) :
    Nat → List Token → Option ((Node String × Node String) × List Token)
  | 0, _ => none
  | fuel + 1, tokens =>
    let key? : Option (Node String × List Token) :=
      match tokens with
      | .value :: after => some (.absent, after)
      | .comma :: after => some (.absent, after)
      | .closeSequence :: after => some (.absent, after)
      | _ => nodeWithin? handles false false fuel tokens
    match key? with
    | none => none
    | some (key, .value :: after) =>
      let isEmpty := match after with
        | .comma :: _ => true
        | .closeSequence :: _ => true
        | _ => false
      if isEmpty then some ((key, .absent), after)
      else
        (nodeWithin? handles false false fuel after).map fun (value, after) =>
          ((key, value), after)
    | some (key, after) => some ((key, .absent), after)

/-- Read the pairs of a mapping in braces, `first` if none has been read. -/
def flowPairsWithin? (handles : Handles) (first : Bool) :
    Nat → List Token → Option (List (Node String × Node String) × List Token)
  | 0, _ => none
  | fuel + 1, tokens =>
    let tokens? :=
      match first, tokens with
      | true, _ => some tokens
      | false, .closeMapping :: _ => some tokens
      | false, .comma :: after => some after
      | false, _ => none
    match tokens? with
    | none => none
    | some (.closeMapping :: after) => some ([], after)
    | some tokens =>
      let pair? :=
        match tokens with
        | .key :: after =>
          let isEmpty := match after with
            | .value :: _ => true
            | .comma :: _ => true
            | .closeMapping :: _ => true
            | _ => false
          let key? :=
            if isEmpty then some (.absent, after)
            else nodeWithin? handles false false fuel after
          match key? with
          | none => none
          | some (key, after) =>
            (flowValueWithin? handles fuel after).map fun (value, after) => ((key, value), after)
        | _ =>
          (nodeWithin? handles false false fuel tokens).map fun (key, after) =>
            ((key, .absent), after)
      match pair? with
      | none => none
      | some (pair, after) =>
        (flowPairsWithin? handles false fuel after).map fun (pairs, after) =>
          (pair :: pairs, after)

/-- Read the value of a pair of a mapping in braces. -/
def flowValueWithin? (handles : Handles) :
    Nat → List Token → Option (Node String × List Token)
  | 0, _ => none
  | fuel + 1, tokens =>
    match tokens with
    | .value :: .comma :: after => some (.absent, .comma :: after)
    | .value :: .closeMapping :: after => some (.absent, .closeMapping :: after)
    | .value :: after => nodeWithin? handles false false fuel after
    | _ => some (.absent, tokens)

end

/-! ## Documents -/

/-- Read the directives before the start of a document: at most one version, which
must be a known one, and each handle once. -/
def directives? (seenVersion : Bool) (handles : Handles) :
    List Token → Option (Handles × List Token)
  | .version major minor :: rest =>
    if seenVersion || major ≠ 1 || (minor ≠ 1 && minor ≠ 2) then none
    else directives? true handles rest
  | .tagHandle handle expansion :: rest =>
    if (handles.lookup handle).isSome then none
    else directives? seenVersion (handles ++ [(handle, expansion)]) rest
  | rest => some (handles, rest)

/-- Whether a document that has been started explicitly is empty. -/
def isEmptyDocument : List Token → Bool
  | [] => true
  | .version _ _ :: _ => true
  | .tagHandle _ _ :: _ => true
  | .documentStart :: _ => true
  | .documentEnd :: _ => true
  | _ => false

/-- Whether a document has to be started explicitly. -/
def startsExplicitly : List Token → Bool
  | .version _ _ :: _ => true
  | .tagHandle _ _ :: _ => true
  | .documentStart :: _ => true
  | _ => false

/-- Whether nothing but markers of a document's end is left. -/
def isFinished (tokens : List Token) : Bool := tokens.all (· == .documentEnd)

/-- The node of a text with a single document, `some none` if the text holds no
document at all. A text with a second document is refused. -/
def document? (text : String) : Option (Option (Node String)) :=
  match tokens? text with
  | none => none
  | some [] => some none
  | some tokens =>
    let fuel := 4 * tokens.length + 4
    let root? :=
      if startsExplicitly tokens then
        match directives? false [] tokens with
        | some (handles, .documentStart :: after) =>
          if isEmptyDocument after then some (.absent, after)
          else nodeWithin? (handles ++ standardHandles) true false fuel after
        | _ => none
      else nodeWithin? standardHandles true false fuel tokens
    match root? with
    | some (node, after) => if isFinished after then some (some node) else none
    | none => none

end ChatCommands.Yaml
