/-
# The name that is suggested

Someone who writes a command that is not registered is told of the nearest one. The candidates
are the registered names in order, and of several at the least distance the first is taken, so
the answer does not depend on the order in which they were registered. Names that are further
away than three edits are left out before the nearest is looked for, which makes no difference:
if one name is near enough, then so is the nearest.

Main statement: `suggestion_nearest`.
-/

import ChatCommands.Proofs.Config.Addressing
import ChatCommands.Proofs.Dispatcher.Suggestions
import ChatCommands.Proofs.Text.ByteOrder
import ChatCommands.Proofs.Text.EditDistance

namespace ChatCommands

/-! ## Nearest candidates -/

/-- A candidate at the least distance, the first in the order of bytes of those that are. -/
structure IsNearest (distance : String → Nat) (candidates : List String) (nearest : String) :
    Prop where
  mem : nearest ∈ candidates
  least : ∀ other ∈ candidates, distance nearest ≤ distance other
  first : ∀ other ∈ candidates, distance other = distance nearest →
    Text.bytes nearest ≤ Text.bytes other

theorem nearest?_eq_none_iff {distance : String → Nat} {candidates : List String} :
    nearest? distance candidates = none ↔ candidates = [] := by
  cases candidates with
  | nil => exact iff_of_true rfl rfl
  | cons candidate rest =>
      refine iff_of_false ?_ (List.cons_ne_nil _ _)
      rw [nearest?]
      split
      · exact Option.some_ne_none _
      · split <;> exact Option.some_ne_none _

/-- Of candidates in order the first at the least distance is found. -/
theorem isNearest_of_nearest?_eq_some {distance : String → Nat} {candidates : List String}
    (sorted : candidates.Pairwise (· ≤ ·)) {nearest : String}
    (found : nearest? distance candidates = some nearest) :
    IsNearest distance candidates nearest := by
  induction candidates generalizing nearest with
  | nil => cases found
  | cons candidate rest ih =>
      obtain ⟨before, later⟩ := List.pairwise_cons.mp sorted
      -- The head is nearest if no other candidate is nearer than it.
      have head (least : ∀ other ∈ rest, distance candidate ≤ distance other) :
          IsNearest distance (candidate :: rest) candidate :=
        { mem := List.mem_cons_self
          least := List.forall_mem_cons.mpr ⟨le_rfl, least⟩
          first := List.forall_mem_cons.mpr ⟨fun _ => Text.le_iff_bytes_le.mp le_rfl,
            fun other member _ => Text.le_iff_bytes_le.mp (before other member)⟩ }
      rw [nearest?] at found
      split at found
      · next nothing =>
        cases found
        rw [nearest?_eq_none_iff.mp nothing] at head ⊢
        exact head fun other member => absurd member List.not_mem_nil
      · next other foundLater =>
        have isNearest := ih later foundLater
        split at found
        · next near =>
          cases found
          exact head fun _ member => near.trans (isNearest.least _ member)
        · next far =>
          cases found
          refine ⟨List.mem_cons_of_mem _ isNearest.mem, ?_, ?_⟩
          · exact List.forall_mem_cons.mpr ⟨(not_le.mp far).le, isNearest.least⟩
          · exact List.forall_mem_cons.mpr ⟨fun same => absurd same.le far, isNearest.first⟩

/-- Of candidates in order, none of which is the name, the nearest is found if it is near
enough, and otherwise none is. -/
theorem closest?_spec {name : String} {candidates : List String}
    (sorted : candidates.Pairwise (· ≤ ·)) (absent : name ∉ candidates) :
    (∃ nearest, IsNearest (nameDistance name) candidates nearest ∧
      nameDistance name nearest ≤ greatestSuggestionDistance ∧
      closest? name candidates = some nearest) ∨
    (∀ other ∈ candidates, greatestSuggestionDistance < nameDistance name other) ∧
      closest? name candidates = none := by
  let near := candidates.filter fun candidate =>
    candidate ≠ name && nameDistance name candidate ≤ greatestSuggestionDistance
  have mem_near : ∀ {other}, other ∈ near ↔ other ∈ candidates ∧
      nameDistance name other ≤ greatestSuggestionDistance := by
    intro other
    rw [List.mem_filter, Bool.and_eq_true, decide_eq_true_iff, decide_eq_true_iff]
    refine and_congr_right fun member => and_iff_right ?_
    exact fun same => absent (same ▸ member)
  cases found : closest? name candidates with
  | none =>
      have nothing : near = [] := nearest?_eq_none_iff.mp found
      refine .inr ⟨fun other member => not_le.mp fun close => ?_, rfl⟩
      have listed := mem_near.mpr ⟨member, close⟩
      rw [nothing] at listed
      cases listed
  | some nearest =>
      have isNearest : IsNearest (nameDistance name) near nearest :=
        isNearest_of_nearest?_eq_some (sorted.filter _) found
      obtain ⟨member, close⟩ := mem_near.mp isNearest.mem
      refine .inl ⟨nearest, ⟨member, fun other listed => ?_, fun other listed same => ?_⟩,
        close, rfl⟩
      · by_cases further : nameDistance name other ≤ greatestSuggestionDistance
        · exact isNearest.least other (mem_near.mpr ⟨listed, further⟩)
        · exact close.trans (not_le.mp further).le
      · exact isNearest.first other (mem_near.mpr ⟨listed, same.trans_le close⟩) same

/-! ## Messages whose command is not registered -/

theorem Snapshot.get_of_not_mem_commandNames {π : Type} {snapshot : Snapshot π} {name : String}
    (absent : name ∉ snapshot.commandNames) :
    snapshot.get name = .error (.commandLookup name) := by
  rw [mem_commandNames, ← OrderedMap.get?_eq_none_iff] at absent
  simp only [get, absent]

namespace Dispatcher

variable {π : Type} [Plugin π]

/-- To a message whose command is not registered in what loading a directory leaves, the reply
suggests the registered name that is nearest to the command, if it is at most three edits away,
and nothing otherwise. Where several names are nearest, it is the first in the order of bytes.
Unless the message calls a shortcut, the command is the word it was written with. -/
theorem suggestion_nearest (files : FileTree) (directory : String) (catalog : Catalog π)
    (dispatcher : Dispatcher π)
    (loaded : dispatcher.snapshot = (loadDirectory files directory catalog).2) (clock : Clock)
    (message : Message) (invocation : Invocation)
    (parsed : dispatcher.grammar.parse message.content = .ok invocation)
    (missing : ∀ found, dispatcher.snapshot.get invocation.command ≠ .ok found) :
    let name := invocation.command
    let registered := dispatcher.snapshot.commandNames
    (∀ other : String,
      Text.IsEditDistance name.toList other.toList (nameDistance name other)) ∧
    ((¬∃ place, dispatcher.grammar.Expands message.content place) →
      ∃ rest, dispatcher.grammar.commandWord? (Text.trim message.content.toList) =
        some (name, rest)) ∧
    ∃ reply, (dispatcher.dispatch clock message).outcome = .failed reply ∧
      ((∃ nearest, IsNearest (nameDistance name) registered nearest ∧
          nameDistance name nearest ≤ 3 ∧
          reply.suggestion? = some
            ("Did you mean " ++ dispatcher.grammar.commandPrefix ++ nearest ++ "?")) ∨
        (∀ other ∈ registered, 3 < nameDistance name other) ∧ reply.suggestion? = none) := by
  intro name registered
  have absent : name ∉ registered := by
    intro indexed
    simp only [registered, loaded] at indexed
    obtain ⟨found, success, -⟩ := exists_get_of_mem_commandNames files directory catalog indexed
    rw [← loaded] at success
    exact missing found success
  have failed : (dispatcher.dispatch clock message).outcome =
      .failed (dispatcher.replyTo (.commandLookup name) registered) :=
    outcome_of_not_found (by rw [parsed]; rfl) (Snapshot.get_of_not_mem_commandNames absent)
  refine ⟨fun other => Text.isEditDistance_editDistance _ _,
    Grammar.exists_commandWord?_of_not_expands parsed, _, failed, ?_⟩
  have sorted : registered.Pairwise (· ≤ ·) := pairwise_mergeSort_le _
  rcases closest?_spec sorted absent with ⟨nearest, isNearest, close, found⟩ | ⟨far, nothing⟩
  · exact .inl ⟨nearest, isNearest, close, congrArg (Option.map _) found⟩
  · exact .inr ⟨far, congrArg (Option.map _) nothing⟩

/-- Two names are two edits away and were registered in the other order; a third is three edits
away. -/
theorem suggestion_nearest_tie :
    let files := (FileTree.emptyAt ["home"]).write "p/alpha.json" (.file "\x7b\x7d".toUTF8)
    let catalog : Catalog Builtin :=
      ⟨[⟨"alpha", "Poll", .ready .poll⟩, ⟨"alpha", "Info", .ready .info⟩,
        ⟨"alpha", "Echo", .ready .echo⟩]⟩
    let dispatcher := ofGrammar {} (loadDirectory files "p" catalog).2
    let message : Message := ⟨"m1", "ann", "room", "/hol", 0⟩
    dispatcher.snapshot.index.keys = ["poll", "about", "help", "echo"] ∧
      (∀ found, dispatcher.snapshot.get "hol" ≠ .ok found) ∧
      ["poll", "help", "echo"].map (nameDistance "hol") = [2, 2, 3] ∧
      ∃ reply, (dispatcher.dispatch {} message).outcome = .failed reply ∧
        reply.suggestion? = some "Did you mean /help?" := by
  intro files catalog dispatcher message
  have paths : manifestPaths files "p" = ["p/alpha.json"] := by
    rw [manifestPaths_eq ["alpha.json"] (by decide +kernel) (by decide +kernel) (by decide +kernel)]
    decide +kernel
  have indexed : dispatcher.snapshot.index.keys = ["poll", "about", "help", "echo"] := by
    simp only [dispatcher, ofGrammar]
    rw [loadDirectory, paths]
    decide +kernel
  have registered : ∀ {name}, name ∈ dispatcher.snapshot.commandNames ↔
      name ∈ ["poll", "about", "help", "echo"] := by
    intro name
    rw [Snapshot.mem_commandNames, indexed]
  have missing : ∀ found, dispatcher.snapshot.get "hol" ≠ .ok found := by
    intro found success
    rw [Snapshot.get_of_not_mem_commandNames (mt registered.mp (by decide))] at success
    cases success
  have distances : ["poll", "help", "echo"].map (nameDistance "hol") = [2, 2, 3] := by
    decide +kernel
  have parsed : dispatcher.grammar.parse message.content =
      .ok ⟨"hol", dispatcher.grammar.keywordsOf []⟩ := by
    have called : dispatcher.grammar.commandWord? (Text.trim message.content.toList) =
        some ("hol", []) := by decide +kernel
    rw [Grammar.parse, called]
    rfl
  obtain ⟨-, -, reply, failed, said⟩ :=
    suggestion_nearest files "p" catalog dispatcher rfl {} message _ parsed missing
  refine ⟨indexed, missing, distances, reply, failed, ?_⟩
  obtain ⟨nearest, isNearest, -, suggested⟩ | ⟨far, -⟩ := said
  · have help : "help" ∈ dispatcher.snapshot.commandNames := registered.mpr (by decide)
    have same : nearest = "help" := by
      have listed := registered.mp isNearest.mem
      have least := isNearest.least "help" help
      have first := isNearest.first "help" help
      simp only [List.mem_cons, List.not_mem_nil, or_false] at listed
      rcases listed with rfl | rfl | rfl | rfl
      · exact absurd (first (by decide +kernel)) (by decide +kernel)
      · exact absurd least (by decide +kernel)
      · rfl
      · exact absurd least (by decide +kernel)
    rw [suggested, same]
    rfl
  · exact absurd (far "help" (registered.mpr (by decide))) (by decide +kernel)

end Dispatcher

end ChatCommands
