/-
# When a substitution fails

A substitution fails if a variable that the tree refers to is not set, or set to nothing; the
variables that are looked up are those that a diagnosis of the tree lists. The reference that
is reported is the first one without a value: texts are read in the order of their places, and
a text from left to right.

Main statement: `substitute_agrees_with_diagnosis`. References are told there by where they
stand in the text, not by how they are found.
-/

import ChatCommands.Proofs.Substitution.Place
import ChatCommands.Proofs.Substitution.Reference

namespace ChatCommands

open Text (Piece pieces)

/-- The error of a result. -/
def failure? {ε α : Type} : Except ε α → Option ε
  | .error error => some error
  | .ok _ => none

theorem failure?_eq_some_iff {ε α : Type} {result : Except ε α} {error : ε} :
    failure? result = some error ↔ result = .error error := by
  cases result <;> simp [failure?]

theorem failure?_eq_none_iff {ε α : Type} {result : Except ε α} :
    failure? result = none ↔ ∃ value, result = .ok value := by
  cases result <;> simp [failure?]

theorem failure?_map {ε α β : Type} (f : α → β) (result : Except ε α) :
    failure? (result.map f) = failure? result := by
  cases result <;> rfl

/-- In a list that is ordered by a relation, what is found first comes before everything else
that would be found. -/
theorem findSome?_eq_some_iff_of_pairwise {α β : Type} {precedes : α → α → Prop} {list : List α}
    (ordered : list.Pairwise precedes)
    (asymm : ∀ first second, precedes first second → ¬ precedes second first)
    {find : α → Option β} {found : β} :
    list.findSome? find = some found ↔
      ∃ first ∈ list, find first = some found ∧
        ∀ earlier ∈ list, precedes earlier first → find earlier = none := by
  rw [List.findSome?_eq_some_iff]
  constructor
  · rintro ⟨before, first, after, rfl, here, nothing⟩
    refine ⟨first, List.mem_append_right _ List.mem_cons_self, here, ?_⟩
    intro earlier member precedes
    obtain ⟨-, ordered, -⟩ := List.pairwise_append.mp ordered
    rcases List.mem_append.mp member with inBefore | inRest
    · exact nothing earlier inBefore
    · rcases List.mem_cons.mp inRest with rfl | inAfter
      · exact absurd precedes (asymm _ _ precedes)
      · exact absurd precedes (asymm _ _ ((List.pairwise_cons.mp ordered).1 earlier inAfter))
  · rintro ⟨first, member, here, nothing⟩
    obtain ⟨before, after, rfl⟩ := List.append_of_mem member
    refine ⟨before, first, after, rfl, here, fun earlier inBefore => ?_⟩
    exact nothing earlier (List.mem_append_left _ inBefore)
      ((List.pairwise_append.mp ordered).2.2 earlier inBefore first List.mem_cons_self)

/-! ## The variables of the environment -/

namespace Environment

variable {environment : Environment}

/-- A variable has a value that is not empty. -/
def Sets (environment : Environment) (name : String) : Prop :=
  ∃ value, environment.get? name = some value ∧ value ≠ ""

theorem isSome_value?_iff {name : List Char} :
    (environment.value? name).isSome = true ↔ environment.Sets (String.ofList name) := by
  rw [value?, Sets]
  cases environment.get? (String.ofList name) with
  | none => simp
  | some value => by_cases empty : value = "" <;> simp [empty]

instance (name : String) : Decidable (environment.Sets name) :=
  decidable_of_iff ((environment.value? name.toList).isSome = true) <| by
    rw [isSome_value?_iff, String.ofList_toList]

/-- The error of looking a variable up for the text at a place, if it is not set. -/
def unset? (environment : Environment) (path name : String) : Option MissingVariable :=
  if environment.Sets name then none else some ⟨name, path⟩

theorem unset?_eq_none_iff {path name : String} :
    environment.unset? path name = none ↔ environment.Sets name := by
  simp [unset?]

theorem unset?_eq_some_iff {path name : String} {missing : MissingVariable} :
    environment.unset? path name = some missing ↔
      ¬ environment.Sets name ∧ missing = ⟨name, path⟩ := by
  rw [unset?]
  split
  · next set => simp [set]
  · next unset => simp [unset, eq_comm]

/-! ## What a substitution fails at -/

theorem failure?_substitutePiece (path : String) (piece : Piece Reference) :
    failure? (environment.substitutePiece path piece) =
      (referredName? piece).bind (environment.unset? path) := by
  match piece with
  | .char c => rfl
  | .found ⟨true, name⟩ => rfl
  | .found ⟨false, name⟩ =>
      have known : (environment.value? name).isSome = true ↔
          environment.Sets (String.ofList name) := isSome_value?_iff
      rw [substitutePiece, referredName?, Option.bind_some, unset?]
      cases found : environment.value? name with
      | none =>
          rw [found] at known
          rw [if_neg fun set => absurd (known.mpr set) (by decide)]
          rfl
      | some value =>
          rw [found] at known
          rw [if_pos (known.mp rfl)]
          rfl

theorem failure?_substitutePieces (path : String) (pieces : List (Piece Reference)) :
    failure? (environment.substitutePieces path pieces) =
      (pieces.filterMap referredName?).findSome? (environment.unset? path) := by
  induction pieces with
  | nil => rfl
  | cons piece rest ih =>
      have here : failure? (environment.substitutePiece path piece) =
          (referredName? piece).bind (environment.unset? path) :=
        failure?_substitutePiece path piece
      rw [substitutePieces]
      cases replaced : environment.substitutePiece path piece with
      | error missing =>
          rw [replaced] at here
          obtain ⟨name, named, unset⟩ := Option.bind_eq_some_iff.mp here.symm
          rw [List.filterMap_cons_some named, List.findSome?_cons, unset]
          rfl
      | ok first =>
          rw [replaced] at here
          have skipped : ((piece :: rest).filterMap referredName?).findSome?
              (environment.unset? path) =
                (rest.filterMap referredName?).findSome? (environment.unset? path) := by
            cases named : referredName? piece with
            | none => rw [List.filterMap_cons_none named]
            | some name =>
                rw [named, Option.bind_some] at here
                rw [List.filterMap_cons_some named, List.findSome?_cons, ← here]
                rfl
          rw [skipped, ← ih]
          cases environment.substitutePieces path rest <;> rfl

theorem failure?_substituteText (path text : String) :
    failure? (environment.substituteText path text) =
      (referredInText text).findSome? (environment.unset? path) := by
  rw [substituteText, failure?_map, failure?_substitutePieces, referredInText]

/-- A text without a dollar sign is left as it is. -/
theorem substituteText_of_not_mem_dollar {text : String} (absent : '$' ∉ text.toList)
    (path : String) : environment.substituteText path text = .ok text := by
  have nothing : ∀ before part, part <:+ text.toList → Reference.finder before part = none := by
    intro before part suffix
    by_contra found
    obtain ⟨found, here⟩ := Option.ne_none_iff_exists'.mp found
    obtain ⟨name, after, -, ⟨rfl, -⟩ | ⟨rfl, -⟩⟩ := Reference.of_finder here <;>
      exact absent (suffix.subset List.mem_cons_self)
  have kept : ∀ cs, environment.substitutePieces path (cs.map .char) = .ok cs := by
    intro cs
    induction cs with
    | nil => rfl
    | cons c rest ih =>
        rw [List.map_cons, substitutePieces, ih]
        rfl
  rw [substituteText, pieces, Text.piecesFrom_eq_map_char nothing, kept, Except.map,
    String.ofList_toList]

/-- The error of the first text that has one, the places being seen from a place. -/
def unsetIn? (environment : Environment) (path : String) (texts : List (Json.Place × String)) :
    Option MissingVariable :=
  texts.findSome? fun (place, text) =>
    (referredInText text).findSome? (environment.unset? (place.describe path))

theorem unsetIn?_append (path : String) (first second : List (Json.Place × String)) :
    environment.unsetIn? path (first ++ second) =
      (environment.unsetIn? path first).or (environment.unsetIn? path second) :=
  List.findSome?_append

theorem unsetIn?_item (path : String) (index : Nat) (texts : List (Json.Place × String)) :
    environment.unsetIn? path (texts.map (Prod.map (.item index :: ·) id)) =
      environment.unsetIn? (itemPath path index) texts := by
  rw [unsetIn?, List.findSome?_map]
  rfl

theorem unsetIn?_member (path key : String) (texts : List (Json.Place × String)) :
    environment.unsetIn? path (texts.map (Prod.map (.member key :: ·) id)) =
      environment.unsetIn? (memberPath path key) texts := by
  rw [unsetIn?, List.findSome?_map]
  rfl

mutual

/-- A substitution fails at the first reference that is not set, text by text. -/
theorem failure?_substituteAt (path : String) : ∀ tree : Json,
    failure? (environment.substituteAt path tree) = environment.unsetIn? path tree.texts
  | .string text => by
      rw [substituteAt, failure?_map, failure?_substituteText, Json.texts, unsetIn?,
        List.findSome?_singleton]
      rfl
  | .array items => by
      rw [substituteAt, failure?_map, failure?_substituteItems, Json.texts]
  | .object members => by
      rw [substituteAt, failure?_map, failure?_substituteMembers, Json.texts]
  | .null | .bool _ | .number _ => rfl

theorem failure?_substituteItems (path : String) (index : Nat) : ∀ items : List Json,
    failure? (environment.substituteItems path index items) =
      environment.unsetIn? path (Json.textsOfItems index items)
  | [] => rfl
  | item :: rest => by
      have here := failure?_substituteAt (itemPath path index) item
      have later := failure?_substituteItems path (index + 1) rest
      rw [Json.textsOfItems, unsetIn?_append, unsetIn?_item, ← here, ← later, substituteItems]
      cases environment.substituteAt (itemPath path index) item with
      | error missing => rfl
      | ok replaced => exact failure?_map _ _

theorem failure?_substituteMembers (path : String) : ∀ members : List (String × Json),
    failure? (environment.substituteMembers path members) =
      environment.unsetIn? path (Json.textsOfMembers members)
  | [] => rfl
  | (key, value) :: rest => by
      have here := failure?_substituteAt (memberPath path key) value
      have later := failure?_substituteMembers path rest
      rw [Json.textsOfMembers, unsetIn?_append, unsetIn?_member, ← here, ← later,
        substituteMembers]
      cases environment.substituteAt (memberPath path key) value with
      | error missing => rfl
      | ok replaced => exact failure?_map _ _

end

end Environment

/-! ## What a tree refers to -/

open Reference (OccursIn)

/-- The references of a text, as they are met. -/
structure ReadsFrom (text : String) (occurrences : List (List Char × String)) : Prop where
  names : referredInText text = occurrences.map Prod.snd
  ordered : occurrences.Pairwise fun first second => first.1.length < second.1.length
  complete : ∀ before name, (before, name) ∈ occurrences ↔ OccursIn text before name

theorem exists_readsFrom (text : String) : ∃ occurrences, ReadsFrom text occurrences := by
  obtain ⟨occurrences, lists⟩ :=
    Reference.exists_lists none text.toList fun _ _ _ => by decide
  refine ⟨occurrences.map (Prod.map id String.ofList), ?_, ?_, ?_⟩
  · rw [referredInText, Text.pieces, lists.names, List.map_map]
    rfl
  · rw [List.pairwise_map]
    exact lists.ordered
  · intro before name
    rw [OccursIn, ← lists.complete, List.mem_map]
    constructor
    · rintro ⟨⟨_, letters⟩, member, same⟩
      cases same
      rwa [String.toList_ofList]
    · intro member
      exact ⟨(before, name.toList), member, by simp⟩

theorem mem_referredInText_iff {text name : String} :
    name ∈ referredInText text ↔ ∃ before, OccursIn text before name := by
  obtain ⟨occurrences, reads⟩ := exists_readsFrom text
  simp only [reads.names, List.mem_map, Prod.exists, exists_eq_right, reads.complete]

mutual

theorem referredNames_eq_flatMap : ∀ tree : Json,
    referredNames tree = tree.texts.flatMap fun (_, text) => referredInText text
  | .string text => by rw [referredNames, Json.texts, List.flatMap_singleton]
  | .array items => by rw [referredNames, Json.texts, referredInItems_eq_flatMap 0]
  | .object members => by rw [referredNames, Json.texts, referredInMembers_eq_flatMap]
  | .null | .bool _ | .number _ => rfl

theorem referredInItems_eq_flatMap (index : Nat) : ∀ items : List Json,
    referredInItems items =
      (Json.textsOfItems index items).flatMap fun (_, text) => referredInText text
  | [] => rfl
  | item :: rest => by
      rw [referredInItems, Json.textsOfItems, List.flatMap_append, List.flatMap_map,
        referredNames_eq_flatMap item, referredInItems_eq_flatMap (index + 1) rest]
      rfl

theorem referredInMembers_eq_flatMap : ∀ members : List (String × Json),
    referredInMembers members =
      (Json.textsOfMembers members).flatMap fun (_, text) => referredInText text
  | [] => rfl
  | (key, value) :: rest => by
      rw [referredInMembers, Json.textsOfMembers, List.flatMap_append, List.flatMap_map,
        referredNames_eq_flatMap value, referredInMembers_eq_flatMap rest]
      rfl

end

theorem mem_withoutRepeats_iff {name : String} {names : List String} :
    name ∈ withoutRepeats names ↔ name ∈ names := by
  induction names with
  | nil => rfl
  | cons first rest ih =>
      rw [withoutRepeats, List.mem_cons, ← ih]
      cases withoutRepeats rest with
      | nil => simp
      | cons next others =>
          by_cases same : first = next <;> simp [same]

/-- In a tree, the text at a place refers to a variable behind the part `before` of it. -/
def Json.RefersTo (tree : Json) (place : Json.Place) (before : List Char) (name : String) : Prop :=
  ∃ text, tree.HoldsText place text ∧ OccursIn text before name

/-- The variables that are listed are those the tree refers to. -/
theorem mem_referencedVariables_iff {tree : Json} {name : String} :
    name ∈ referencedVariables tree ↔ ∃ place before, tree.RefersTo place before name := by
  rw [referencedVariables, mem_withoutRepeats_iff, List.mem_mergeSort, referredNames_eq_flatMap,
    List.mem_flatMap]
  constructor
  · rintro ⟨⟨place, text⟩, held, listed⟩
    obtain ⟨before, occurs⟩ := mem_referredInText_iff.mp listed
    exact ⟨place, before, text, Json.mem_texts_iff.mp held, occurs⟩
  · rintro ⟨place, before, text, held, occurs⟩
    exact ⟨(place, text), Json.mem_texts_iff.mpr held, mem_referredInText_iff.mpr ⟨before, occurs⟩⟩

/-! ## The first reference without a value -/

variable {environment : Environment} {text path : String} {missing : MissingVariable}

theorem findSome?_unset?_eq_none_iff :
    (referredInText text).findSome? (environment.unset? path) = none ↔
      ∀ before name, OccursIn text before name → environment.Sets name := by
  simp only [List.findSome?_eq_none_iff, Environment.unset?_eq_none_iff, mem_referredInText_iff]
  exact ⟨fun sets before name occurs => sets name ⟨before, occurs⟩,
    fun sets name ⟨before, occurs⟩ => sets before name occurs⟩

/-- A text fails at its leftmost reference without a value. -/
theorem findSome?_unset?_eq_some_iff :
    (referredInText text).findSome? (environment.unset? path) = some missing ↔
      missing.path = path ∧ ¬ environment.Sets missing.name ∧
        ∃ before, OccursIn text before missing.name ∧
          ∀ earlier name, OccursIn text earlier name → earlier.length < before.length →
            environment.Sets name := by
  obtain ⟨occurrences, reads⟩ := exists_readsFrom text
  rw [reads.names, List.findSome?_map,
    findSome?_eq_some_iff_of_pairwise reads.ordered fun _ _ => Nat.lt_asymm]
  simp only [Function.comp_apply, Environment.unset?_eq_none_iff,
    Environment.unset?_eq_some_iff, Prod.exists, Prod.forall, reads.complete]
  constructor
  · rintro ⟨before, name, occurs, ⟨unset, rfl⟩, sets⟩
    exact ⟨rfl, unset, before, occurs, sets⟩
  · rintro ⟨rfl, unset, before, occurs, sets⟩
    exact ⟨before, missing.name, occurs, ⟨unset, rfl⟩, sets⟩

theorem failure?_substitute (tree : Json) :
    failure? (environment.substitute tree) = environment.unsetIn? "" tree.texts :=
  Environment.failure?_substituteAt "" tree

theorem exists_substitute_eq_ok_iff {tree : Json} :
    (∃ result, environment.substitute tree = .ok result) ↔
      ∀ name ∈ referencedVariables tree, environment.Sets name := by
  rw [← failure?_eq_none_iff, failure?_substitute, Environment.unsetIn?,
    List.findSome?_eq_none_iff]
  simp only [Prod.forall, findSome?_unset?_eq_none_iff, Json.mem_texts_iff,
    mem_referencedVariables_iff]
  constructor
  · rintro sets name ⟨place, before, text, held, occurs⟩
    exact sets place text held before name occurs
  · intro sets place text held before name occurs
    exact sets name ⟨place, before, text, held, occurs⟩

theorem substitute_eq_error_iff {tree : Json} (ordered : tree.IsOrdered) :
    environment.substitute tree = .error missing ↔
      ∃ place before, tree.RefersTo place before missing.name ∧
        ¬ environment.Sets missing.name ∧ missing.path = place.describe "" ∧
        ∀ other earlier name, tree.RefersTo other earlier name →
          Json.Place.Precedes other place ∨ other = place ∧ earlier.length < before.length →
            environment.Sets name := by
  rw [← failure?_eq_some_iff, failure?_substitute, Environment.unsetIn?,
    findSome?_eq_some_iff_of_pairwise (Json.pairwise_texts ordered)
      fun _ _ => Json.Place.Precedes.asymm]
  simp only [Prod.exists, Prod.forall, findSome?_unset?_eq_none_iff, findSome?_unset?_eq_some_iff,
    Json.mem_texts_iff]
  constructor
  · rintro ⟨place, text, held, ⟨described, unset, before, occurs, leftmost⟩, sets⟩
    refine ⟨place, before, ⟨text, held, occurs⟩, unset, described, ?_⟩
    rintro other earlier name ⟨text', held', occurs'⟩ (precedes | ⟨rfl, shorter⟩)
    · exact sets other text' held' precedes earlier name occurs'
    · cases held'.unique ordered held
      exact leftmost earlier name occurs' shorter
  · rintro ⟨place, before, ⟨text, held, occurs⟩, unset, described, sets⟩
    refine ⟨place, text, held, ⟨described, unset, before, occurs, ?_⟩, ?_⟩
    · intro earlier name occurs' shorter
      exact sets place earlier name ⟨text, held, occurs'⟩ (.inr ⟨rfl, shorter⟩)
    · intro other text' held' precedes earlier name occurs'
      exact sets other earlier name ⟨text', held', occurs'⟩ (.inl precedes)

/-- A substitution succeeds if and only if every variable that is listed for the tree is
set. If it does not, then it reports the first reference, in the order of the places and from
left to right in a text, that has no value, and the place of the text that holds it. -/
theorem substitute_agrees_with_diagnosis (environment : Environment) (tree : Json) :
    (∀ name, name ∈ referencedVariables tree ↔
      ∃ place before, tree.RefersTo place before name) ∧
    ((∃ result, environment.substitute tree = .ok result) ↔
      ∀ name ∈ referencedVariables tree, environment.Sets name) ∧
    (tree.IsOrdered → ∀ missing, environment.substitute tree = .error missing ↔
      ∃ place before, tree.RefersTo place before missing.name ∧
        ¬ environment.Sets missing.name ∧ missing.path = place.describe "" ∧
        ∀ other earlier name, tree.RefersTo other earlier name →
          Json.Place.Precedes other place ∨ other = place ∧ earlier.length < before.length →
            environment.Sets name) :=
  ⟨fun _ => mem_referencedVariables_iff, exists_substitute_eq_ok_iff,
    fun ordered _ => substitute_eq_error_iff ordered⟩

/-- An item that holds an escaped reference and two references to variables without a value,
before a member that refers to another one. -/
theorem substitute_error_nested :
    let tree : Json := .object [("a", .array [.null, .string "$${A} ${B} ${C}"]),
      ("b", .string "${D}")]
    let environment : Environment := .ofList [("A", "1"), ("B", "")]
    tree.IsOrdered ∧ environment.substitute tree = .error ⟨"B", "a[1]"⟩ ∧
      ∃ place before, tree.RefersTo place before "B" ∧
        Json.Place.describe "" place = "a[1]" := by
  intro tree environment
  have ordered : tree.IsOrdered := by
    refine .object (by decide) fun member listed => ?_
    rcases List.mem_pair.mp listed with rfl | rfl
    · refine .array fun item listed => ?_
      rcases List.mem_pair.mp listed with rfl | rfl
      · exact .null
      · exact .string _
    · exact .string _
  have reported : environment.substitute tree = .error ⟨"B", "a[1]"⟩ := by rfl
  obtain ⟨-, -, agrees⟩ := substitute_agrees_with_diagnosis environment tree
  obtain ⟨place, before, refers, -, described, -⟩ := (agrees ordered _).mp reported
  exact ⟨ordered, reported, place, before, refers, described.symm⟩

end ChatCommands
