/-
# Which node a reference refers to

A text anchors nodes and refers to them by name. Here names give way to numbers:
an anchor gets the number of the names known before it, and a reference takes the
number its name has at that place, so a name must be anchored before it is used.
Anchoring a known name again makes no new name known, and so the next new name
takes the same number once more. A number stands for the node that took it last in
the whole document, which may come after the reference or be around it.
-/

import ChatCommands.Yaml.Node

namespace ChatCommands.Yaml

/-! ## Numbers for names -/

/-- The known names, each with the number it has. -/
abbrev AnchorNumbers := List (String × Nat)

/-- The number the next anchor takes. -/
def AnchorNumbers.next (known : AnchorNumbers) : Nat := known.length

/-- Give the next number to a name, in place of the number it may have had. -/
def AnchorNumbers.add (known : AnchorNumbers) (name : String) : AnchorNumbers :=
  (name, known.next) :: known.filter (·.1 != name)

/-- Number the anchor in the properties of a node. -/
def AnchorNumbers.number (known : AnchorNumbers) (properties : Properties String) :
    Properties Nat × AnchorNumbers :=
  match properties.anchor? with
  | some name => (⟨some known.next, properties.tag?⟩, known.add name)
  | none => (⟨none, properties.tag?⟩, known)

mutual

/-- Number the anchors and references of a node where the given names are known. -/
def numbered? (known : AnchorNumbers) : Node String → Option (Node Nat × AnchorNumbers)
  | .alias name => (known.lookup name).map fun number => (.alias number, known)
  | .scalar properties plain text =>
    let (properties, known) := known.number properties
    some (.scalar properties plain text, known)
  | .sequence properties items =>
    let (properties, known) := known.number properties
    (itemsNumbered? known items).map fun (items, known) => (.sequence properties items, known)
  | .mapping properties pairs =>
    let (properties, known) := known.number properties
    (pairsNumbered? known pairs).map fun (pairs, known) => (.mapping properties pairs, known)

/-- Number the anchors and references of nodes, one after the other. -/
def itemsNumbered? (known : AnchorNumbers) :
    List (Node String) → Option (List (Node Nat) × AnchorNumbers)
  | [] => some ([], known)
  | item :: rest =>
    match numbered? known item with
    | none => none
    | some (item, known) =>
      (itemsNumbered? known rest).map fun (rest, known) => (item :: rest, known)

/-- Number the anchors and references of pairs, the key of each before its value. -/
def pairsNumbered? (known : AnchorNumbers) :
    List (Node String × Node String) → Option (List (Node Nat × Node Nat) × AnchorNumbers)
  | [] => some ([], known)
  | (key, value) :: rest =>
    match numbered? known key with
    | none => none
    | some (key, known) =>
      match numbered? known value with
      | none => none
      | some (value, known) =>
        (pairsNumbered? known rest).map fun (rest, known) => ((key, value) :: rest, known)

end

/-! ## Nodes for numbers -/

/-- The nodes that numbers stand for, the last one of the document first. -/
abbrev Targets := List (Nat × Node Nat)

/-- Note the node if it has an anchor. -/
def Targets.add (targets : Targets) (properties : Properties Nat) (node : Node Nat) : Targets :=
  match properties.anchor? with
  | some number => (number, node) :: targets
  | none => targets

mutual

/-- Note the anchored nodes in a node, the outer ones before those in them. -/
def Targets.collect (targets : Targets) : Node Nat → Targets
  | .alias _ => targets
  | .scalar properties plain text =>
    targets.add properties (.scalar properties plain text)
  | .sequence properties items =>
    (targets.add properties (.sequence properties items)).collectItems items
  | .mapping properties pairs =>
    (targets.add properties (.mapping properties pairs)).collectPairs pairs

/-- Note the anchored nodes in nodes, one after the other. -/
def Targets.collectItems (targets : Targets) : List (Node Nat) → Targets
  | [] => targets
  | item :: rest => (targets.collect item).collectItems rest

/-- Note the anchored nodes in pairs, the key of each before its value. -/
def Targets.collectPairs (targets : Targets) : List (Node Nat × Node Nat) → Targets
  | [] => targets
  | (key, value) :: rest => ((targets.collect key).collect value).collectPairs rest

end

/-- A document whose references are resolved. -/
structure Resolved where
  /-- The node of the document. -/
  root : Node Nat
  /-- The nodes that references refer to. -/
  targets : Targets

/-- Resolve the references of a document. Each must refer to a name anchored before
it. -/
def resolve? (root : Node String) : Option Resolved :=
  (numbered? [] root).map fun (root, _) => ⟨root, Targets.collect [] root⟩

end ChatCommands.Yaml
