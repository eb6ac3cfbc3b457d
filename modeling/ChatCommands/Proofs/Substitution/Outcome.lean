/-
# What a substitution gives

A substitution changes nothing but the texts of a tree, and of a text nothing but its
references: each gives way to the value of its variable, or to itself without the escape if it
is escaped. Since the result is put together from what the pieces of the text give way to, it
is not read again: a value may look like a reference, or make one with what stands next to it.

Only variables that are listed for the tree are looked up, so the others make no difference.

Main statement: `substitute_local_single_pass`.
-/

import ChatCommands.Proofs.Substitution.Missing
import ChatCommands.Proofs.Substitution.Reading
import Mathlib.Data.List.Forall2

namespace ChatCommands

open Reference (Reads)
open Text (Piece)

/-! ## Texts -/

namespace Environment

variable {environment other : Environment} {path text result : String}

theorem value?_eq_some_iff {name : List Char} {value : String} :
    environment.value? name = some value ↔
      environment.get? (String.ofList name) = some value ∧ value ≠ "" := by
  rw [value?]
  cases environment.get? (String.ofList name) with
  | none => simp
  | some found =>
      simp only [String.isEmpty_iff, Option.some.injEq]
      by_cases empty : found = ""
      · rw [if_pos empty]
        constructor
        · intro held
          cases held
        · rintro ⟨rfl, nonempty⟩
          exact absurd empty nonempty
      · rw [if_neg empty, Option.some.injEq]
        exact ⟨fun same => ⟨same, same ▸ empty⟩, And.left⟩

/-- What a piece of a text gives way to. -/
def replacement (environment : Environment) : Piece Reference → List Char
  | .char c => [c]
  | .found ⟨true, name⟩ => Reference.literal name
  | .found ⟨false, name⟩ => ((environment.get? (String.ofList name)).getD "").toList

/-- A text resolves to another one: the variables it refers to have values, and the other text
is what its pieces give way to. -/
def Resolves (environment : Environment) (text result : String) : Prop :=
  ∃ pieces, Reads text pieces ∧
    (∀ name, .found ⟨false, name⟩ ∈ pieces → environment.Sets (String.ofList name)) ∧
    result.toList = pieces.flatMap environment.replacement

theorem substitutePiece_eq_ok_iff {piece : Piece Reference} {chars : List Char} :
    environment.substitutePiece path piece = .ok chars ↔
      (∀ name, piece = .found ⟨false, name⟩ → environment.Sets (String.ofList name)) ∧
        chars = environment.replacement piece := by
  match piece with
  | .char c => simp [substitutePiece, replacement, eq_comm]
  | .found ⟨true, name⟩ => simp [substitutePiece, replacement, eq_comm]
  | .found ⟨false, name⟩ =>
      have set : environment.Sets (String.ofList name) ↔
          ∃ value, environment.value? name = some value := by
        simp only [Sets, value?_eq_some_iff]
      rw [substitutePiece]
      cases found : environment.value? name with
      | none => simp [set, found]
      | some value =>
          have looked := (value?_eq_some_iff.mp found).1
          simp [set, found, replacement, looked, eq_comm]

theorem substitutePieces_eq_ok_iff {pieces : List (Piece Reference)} {chars : List Char} :
    environment.substitutePieces path pieces = .ok chars ↔
      (∀ name, .found ⟨false, name⟩ ∈ pieces → environment.Sets (String.ofList name)) ∧
        chars = pieces.flatMap environment.replacement := by
  induction pieces generalizing chars with
  | nil => simp [substitutePieces, eq_comm]
  | cons piece rest ih =>
      have whole : environment.substitutePieces path (piece :: rest) = .ok chars ↔
          ∃ first, environment.substitutePiece path piece = .ok first ∧
            ∃ others, environment.substitutePieces path rest = .ok others ∧
              chars = first ++ others := by
        rw [substitutePieces]
        cases environment.substitutePiece path piece with
        | error missing => simp
        | ok first =>
            cases environment.substitutePieces path rest with
            | error missing => simp
            | ok others => simp [eq_comm]
      simp only [whole, substitutePiece_eq_ok_iff, ih, List.mem_cons, List.flatMap_cons]
      constructor
      · rintro ⟨_, ⟨here, rfl⟩, _, ⟨later, rfl⟩, rfl⟩
        exact ⟨fun name listed => listed.elim (fun same => here name same.symm) (later name), rfl⟩
      · rintro ⟨sets, rfl⟩
        exact ⟨_, ⟨fun name same => sets name (.inl same.symm), rfl⟩, _,
          ⟨fun name listed => sets name (.inr listed), rfl⟩, rfl⟩

/-- Substituting in a text succeeds exactly if the text resolves, and gives what it resolves
to. -/
theorem substituteText_eq_ok_iff :
    environment.substituteText path text = .ok result ↔ environment.Resolves text result := by
  have chars : environment.substituteText path text = .ok result ↔
      environment.substitutePieces path (Text.pieces Reference.finder text.toList) =
        .ok result.toList := by
    rw [substituteText]
    cases environment.substitutePieces path (Text.pieces Reference.finder text.toList) with
    | error missing => simp [Except.map]
    | ok chars =>
        simp only [Except.map, Except.ok.injEq]
        rw [← String.toList_inj, String.toList_ofList]
  rw [chars, substitutePieces_eq_ok_iff, Resolves]
  simp only [Reference.reads_iff, exists_eq_left]

end Environment

/-! ## Trees -/

/-- Two trees that differ in their texts only; texts at the same place are related. Objects have
the same keys in the same order. -/
inductive Json.Corresponds (related : String → String → Prop) : Json → Json → Prop
  | null : Corresponds related .null .null
  | bool (value : Bool) : Corresponds related (.bool value) (.bool value)
  | number (value : JsonNumber) : Corresponds related (.number value) (.number value)
  | string {text result : String} (texts : related text result) :
    Corresponds related (.string text) (.string result)
  | array {items results : List Json} (each : List.Forall₂ (Corresponds related) items results) :
    Corresponds related (.array items) (.array results)
  | object {members results : List (String × Json)}
    (keys : members.map Prod.fst = results.map Prod.fst)
    (each : List.Forall₂ (Corresponds related) (members.map Prod.snd) (results.map Prod.snd)) :
    Corresponds related (.object members) (.object results)

namespace Environment

open Json (Corresponds)

variable {environment other : Environment}

theorem map_eq_ok_iff {ε α β : Type} {f : α → β} {outcome : Except ε α} {result : β} :
    outcome.map f = .ok result ↔ ∃ value, outcome = .ok value ∧ f value = result := by
  cases outcome <;> simp [Except.map]

mutual

/-- Substituting in a tree succeeds exactly with the trees that correspond to it, all texts
being resolved. -/
theorem substituteAt_eq_ok_iff (path : String) : ∀ {tree result : Json},
    environment.substituteAt path tree = .ok result ↔
      Corresponds environment.Resolves tree result
  | .string text, result => by
      rw [substituteAt, map_eq_ok_iff]
      constructor
      · rintro ⟨replaced, here, rfl⟩
        exact .string (substituteText_eq_ok_iff.mp here)
      · rintro ⟨⟩
        next resolved resolves => exact ⟨resolved, substituteText_eq_ok_iff.mpr resolves, rfl⟩
  | .array items, result => by
      rw [substituteAt, map_eq_ok_iff]
      constructor
      · rintro ⟨results, here, rfl⟩
        exact .array ((substituteItems_eq_ok_iff path 0).mp here)
      · rintro ⟨⟩
        next results each => exact ⟨results, (substituteItems_eq_ok_iff path 0).mpr each, rfl⟩
  | .object members, result => by
      rw [substituteAt, map_eq_ok_iff]
      constructor
      · rintro ⟨results, here, rfl⟩
        obtain ⟨keys, each⟩ := (substituteMembers_eq_ok_iff path).mp here
        exact .object keys each
      · rintro ⟨⟩
        next results keys each =>
          exact ⟨results, (substituteMembers_eq_ok_iff path).mpr ⟨keys, each⟩, rfl⟩
  | .null, result => by
      rw [substituteAt, Except.ok.injEq]
      exact ⟨fun same => same ▸ .null, fun | .null => rfl⟩
  | .bool value, result => by
      rw [substituteAt, Except.ok.injEq]
      exact ⟨fun same => same ▸ .bool value, fun | .bool _ => rfl⟩
  | .number value, result => by
      rw [substituteAt, Except.ok.injEq]
      exact ⟨fun same => same ▸ .number value, fun | .number _ => rfl⟩

theorem substituteItems_eq_ok_iff (path : String) (index : Nat) : ∀ {items results : List Json},
    environment.substituteItems path index items = .ok results ↔
      List.Forall₂ (Corresponds environment.Resolves) items results
  | [], results => by
      rw [substituteItems, List.forall₂_nil_left_iff, Except.ok.injEq, eq_comm]
  | item :: rest, results => by
      have whole : environment.substituteItems path index (item :: rest) = .ok results ↔
          ∃ first, environment.substituteAt (itemPath path index) item = .ok first ∧
            ∃ others, environment.substituteItems path (index + 1) rest = .ok others ∧
              first :: others = results := by
        rw [substituteItems]
        cases environment.substituteAt (itemPath path index) item with
        | error missing => simp
        | ok first => simp [map_eq_ok_iff]
      rw [whole, List.forall₂_cons_left_iff]
      simp only [substituteAt_eq_ok_iff, substituteItems_eq_ok_iff]
      constructor
      · rintro ⟨first, here, others, later, rfl⟩
        exact ⟨first, others, here, later, rfl⟩
      · rintro ⟨first, others, here, later, rfl⟩
        exact ⟨first, here, others, later, rfl⟩

theorem substituteMembers_eq_ok_iff (path : String) : ∀ {members results : List (String × Json)},
    environment.substituteMembers path members = .ok results ↔
      members.map Prod.fst = results.map Prod.fst ∧ List.Forall₂
        (Corresponds environment.Resolves) (members.map Prod.snd) (results.map Prod.snd)
  | [], results => by
      rw [substituteMembers, Except.ok.injEq]
      constructor
      · rintro rfl
        exact ⟨rfl, .nil⟩
      · rintro ⟨keys, -⟩
        exact (List.map_eq_nil_iff.mp keys.symm).symm
  | (key, value) :: rest, results => by
      have whole : environment.substituteMembers path ((key, value) :: rest) = .ok results ↔
          ∃ first, environment.substituteAt (memberPath path key) value = .ok first ∧
            ∃ others, environment.substituteMembers path rest = .ok others ∧
              (key, first) :: others = results := by
        rw [substituteMembers]
        cases environment.substituteAt (memberPath path key) value with
        | error missing => simp
        | ok first => simp [map_eq_ok_iff]
      simp only [whole, substituteAt_eq_ok_iff, substituteMembers_eq_ok_iff]
      constructor
      · rintro ⟨first, here, others, ⟨keys, later⟩, rfl⟩
        exact ⟨congrArg (List.cons key) keys, .cons here later⟩
      · rintro ⟨keys, each⟩
        cases results with
        | nil => cases keys
        | cons result others =>
            obtain ⟨rfl, otherKeys⟩ := List.cons.inj keys
            obtain ⟨here, later⟩ := List.forall₂_cons.mp each
            exact ⟨result.2, here, others, ⟨otherKeys, later⟩, rfl⟩

end

/-! ## Environments that agree -/

/-- Two environments have the same values for the names. -/
def AgreeOn (environment other : Environment) (names : List String) : Prop :=
  ∀ name ∈ names, environment.get? name = other.get? name

theorem AgreeOn.left {names others : List String}
    (agree : environment.AgreeOn other (names ++ others)) : environment.AgreeOn other names :=
  fun name listed => agree name (List.mem_append_left _ listed)

theorem AgreeOn.right {names others : List String}
    (agree : environment.AgreeOn other (names ++ others)) : environment.AgreeOn other others :=
  fun name listed => agree name (List.mem_append_right _ listed)

theorem substitutePieces_congr (path : String) {pieces : List (Piece Reference)}
    (agree : environment.AgreeOn other (pieces.filterMap referredName?)) :
    environment.substitutePieces path pieces = other.substitutePieces path pieces := by
  induction pieces with
  | nil => rfl
  | cons piece rest ih =>
      have first : environment.substitutePiece path piece = other.substitutePiece path piece := by
        match piece with
        | .char c => rfl
        | .found ⟨true, name⟩ => rfl
        | .found ⟨false, name⟩ =>
            rw [substitutePiece, substitutePiece, value?, value?,
              agree (String.ofList name) List.mem_cons_self]
      have later : environment.AgreeOn other (rest.filterMap referredName?) := by
        intro name listed
        obtain ⟨piece, member, refers⟩ := List.mem_filterMap.mp listed
        exact agree name (List.mem_filterMap.mpr ⟨piece, List.mem_cons_of_mem _ member, refers⟩)
      rw [substitutePieces, substitutePieces, first, ih later]

theorem substituteText_congr (path : String) {text : String}
    (agree : environment.AgreeOn other (referredInText text)) :
    environment.substituteText path text = other.substituteText path text := by
  rw [substituteText, substituteText, substitutePieces_congr path agree]

mutual

theorem substituteAt_congr (path : String) : ∀ {tree : Json},
    environment.AgreeOn other (referredNames tree) →
      environment.substituteAt path tree = other.substituteAt path tree
  | .string text, agree => by
      rw [substituteAt, substituteAt, substituteText_congr path agree]
  | .array items, agree => by
      rw [substituteAt, substituteAt, substituteItems_congr path 0 agree]
  | .object members, agree => by
      rw [substituteAt, substituteAt, substituteMembers_congr path agree]
  | .null, _ | .bool _, _ | .number _, _ => rfl

theorem substituteItems_congr (path : String) (index : Nat) : ∀ {items : List Json},
    environment.AgreeOn other (referredInItems items) →
      environment.substituteItems path index items = other.substituteItems path index items
  | [], _ => rfl
  | item :: rest, agree => by
      rw [substituteItems, substituteItems, substituteAt_congr _ agree.left,
        substituteItems_congr path (index + 1) agree.right]

theorem substituteMembers_congr (path : String) : ∀ {members : List (String × Json)},
    environment.AgreeOn other (referredInMembers members) →
      environment.substituteMembers path members = other.substituteMembers path members
  | [], _ => rfl
  | (key, value) :: rest, agree => by
      rw [substituteMembers, substituteMembers, substituteAt_congr _ agree.left,
        substituteMembers_congr path agree.right]

end

theorem mem_referencedVariables_iff_mem_referredNames {tree : Json} {name : String} :
    name ∈ referencedVariables tree ↔ name ∈ referredNames tree := by
  rw [referencedVariables, mem_withoutRepeats_iff, List.mem_mergeSort]

end Environment

/-- Two environments that agree on the variables listed for a tree give the same result or the
same error. A result has the shape of the tree, its keys and its other values; each of its
texts is the text of the tree with the values in place of the references that are not escaped,
and with escaped references without the escape. -/
theorem substitute_local_single_pass (tree : Json) :
    (∀ environment other : Environment,
      (∀ name ∈ referencedVariables tree, environment.get? name = other.get? name) →
        environment.substitute tree = other.substitute tree) ∧
    ∀ (environment : Environment) (result : Json), environment.substitute tree = .ok result ↔
      Json.Corresponds environment.Resolves tree result := by
  refine ⟨fun environment other agree => ?_, fun environment result => ?_⟩
  · refine Environment.substituteAt_congr "" fun name listed => agree name ?_
    exact Environment.mem_referencedVariables_iff_mem_referredNames.mpr listed
  · exact Environment.substituteAt_eq_ok_iff ""

/-- The value of a variable is a dollar sign before braces, the value of another one is itself
a reference: neither is read again. The two environments differ in a variable that is only
named there. -/
theorem substitute_local_single_pass_lookalike :
    let tree : Json :=
      .object [("a", .array [.string "${A}{C} $${B}", .null]), ("b", .string "${B}$")]
    let environment : Environment := .ofList [("A", "$"), ("B", "${C}"), ("C", "1")]
    let other : Environment := .ofList [("B", "${C}"), ("A", "$")]
    let result : Json :=
      .object [("a", .array [.string "${C} ${B}", .null]), ("b", .string "${C}$")]
    (∀ name ∈ referencedVariables tree, environment.get? name = other.get? name) ∧
      environment.get? "C" ≠ other.get? "C" ∧
      environment.substitute tree = .ok result ∧ other.substitute tree = .ok result ∧
      environment.Resolves "${A}{C} $${B}" "${C} ${B}" := by
  intro tree environment other result
  have agree : ∀ name ∈ referencedVariables tree, environment.get? name = other.get? name := by
    intro name listed
    rw [Environment.mem_referencedVariables_iff_mem_referredNames] at listed
    have names : referredNames tree = ["A", "B"] := by decide +kernel
    rw [names] at listed
    rcases List.mem_pair.mp listed with rfl | rfl <;> decide +kernel
  obtain ⟨isLocal, outcome⟩ := substitute_local_single_pass tree
  have given : environment.substitute tree = .ok result := by rfl
  have same : environment.substitute tree = other.substitute tree :=
    isLocal environment other agree
  refine ⟨agree, by decide +kernel, given, same ▸ given, ?_⟩
  have corresponds := (outcome environment result).mp given
  simp only [tree, result] at corresponds
  obtain _ | _ | _ | _ | _ | ⟨-, members⟩ := corresponds
  obtain _ | _ | _ | _ | items := (List.forall₂_cons.mp members).1
  obtain _ | _ | _ | resolves := (List.forall₂_cons.mp items).1
  exact resolves

end ChatCommands
