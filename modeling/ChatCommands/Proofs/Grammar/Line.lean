/-
# Lines that spell out a call

The plainest way to write a call: one blank between any two parts and none around. In the
language of a host, whose marks have been checked and whose only filter reduces mentions,
such a line is read as the command with the reduced values, each under its keyword. No
keyword is lost, since reducing the mentions of a value never empties it.
-/

import ChatCommands.Config.Validation
import ChatCommands.Proofs.Grammar.Mention
import ChatCommands.Proofs.Grammar.RoundTrip

namespace ChatCommands

open Grammar (HoldsMark IsMark reduceMentions)
open Text (IsTrimmed isSingleWord)

/-! ## Checked marks -/

/-- The language of a host: its marks are ones a configuration may set, and the only thing
done to a value is to reduce its mentions. -/
structure Grammar.IsStandard (grammar : Grammar) : Prop where
  commandPrefix : commandPrefixProblems grammar.commandPrefix = []
  parameterPrefix : parameterPrefixProblems grammar.parameterPrefix = []
  filters : grammar.filters = [reduceMentions]

theorem startsWithBlank_of_commandPrefixProblems {mark : String}
    (accepted : commandPrefixProblems mark = []) :
    Grammar.startsWithBlank mark.toList = false := by
  unfold commandPrefixProblems at accepted
  split at accepted
  · cases accepted
  · split at accepted
    · cases accepted
    · next solid =>
      rw [Bool.not_eq_true, List.any_eq_false] at solid
      cases chars : mark.toList with
      | nil => rfl
      | cons c rest =>
          have notBlank := solid c (by rw [chars]; exact List.mem_cons_self)
          rw [Bool.not_eq_true] at notBlank
          exact notBlank

theorem isMark_of_parameterPrefixProblems {mark : String}
    (accepted : parameterPrefixProblems mark = []) : IsMark mark.toList := by
  unfold parameterPrefixProblems at accepted
  split at accepted
  · next c single =>
    split at accepted
    · cases accepted
    · next plain =>
      simp only [Bool.or_eq_true, not_or, Bool.not_eq_true] at plain
      rw [single]
      refine ⟨List.cons_ne_nil c [], ?_⟩
      intro d member
      rw [List.mem_singleton.mp member]
      exact plain.2
  · cases accepted

namespace Grammar

/-! ## Lines -/

/-- The line that calls a command with values for keywords. -/
def line (grammar : Grammar) (command : String) (assignment : OrderedMap String String) :
    String :=
  grammar.commandPrefix ++ command ++
    String.join (assignment.entries.map fun (name, value) =>
      " " ++ grammar.parameterPrefix ++ name ++ " " ++ value)

/-- Values that stay readable when they are written into a line. -/
structure CanWrite (grammar : Grammar) (assignment : OrderedMap String String) : Prop where
  nonempty : ∀ value ∈ assignment.values, value ≠ ""
  trimmed : ∀ value ∈ assignment.values, IsTrimmed value.toList
  unmarked : ∀ value ∈ assignment.values, ¬HoldsMark grammar.parameterPrefix.toList value.toList

/-- The call a line spells out, with the blanks it is written with. -/
def spelledOut (command : String) (assignment : OrderedMap String String) : WrittenCall where
  lead := []
  command := command
  arguments := assignment.entries.map fun (name, value) => ⟨[' '], name, [' '], value⟩
  trail := []

variable {grammar : Grammar} {assignment : OrderedMap String String}

theorem text_spelledOut (grammar : Grammar) (command : String)
    (assignment : OrderedMap String String) :
    (spelledOut command assignment).text grammar = grammar.line command assignment := by
  rw [← String.toList_inj, WrittenCall.text, line, String.toList_ofList]
  simp [spelledOut, WrittenArgument.allChars, WrittenArgument.chars, String.toList_join,
    List.flatMap_map]

theorem isReadable_spelledOut {command : String} (word : isSingleWord command = true)
    (notShortcut : grammar.shortcut? command = none)
    (names : ∀ name ∈ assignment.keys, isSingleWord name = true)
    (canWrite : grammar.CanWrite assignment) :
    (spelledOut command assignment).IsReadable grammar where
  lead := Text.allBlank_nil
  command := word
  notShortcut := notShortcut
  arguments := by
    have isGap : Text.IsGap [' '] := by decide +kernel
    intro argument member
    rw [spelledOut, List.mem_map] at member
    obtain ⟨⟨name, value⟩, listed, rfl⟩ := member
    have key : name ∈ assignment.keys := List.mem_map_of_mem (f := Prod.fst) listed
    have held : value ∈ assignment.values := List.mem_map_of_mem (f := Prod.snd) listed
    exact
      { gap := isGap
        name := names name key
        separator := isGap
        nonempty := canWrite.nonempty value held
        trimmed := canWrite.trimmed value held
        unmarked := canWrite.unmarked value held }
  trail := Text.allBlank_nil

theorem filtered_eq_reduceMentions (filters : grammar.filters = [reduceMentions])
    (value : String) : grammar.filtered value = reduceMentions value := by
  rw [filtered, filters]
  rfl

/-- Reducing mentions leaves no keyword out. -/
theorem keptPairs_spelledOut (filters : grammar.filters = [reduceMentions]) (command : String)
    (nonempty : ∀ value ∈ assignment.values, value ≠ "") :
    (spelledOut command assignment).keptPairs grammar =
      (assignment.mapValues reduceMentions).entries := by
  have reduced := filtered_eq_reduceMentions filters
  rw [WrittenCall.keptPairs, spelledOut, List.map_map]
  refine (List.filter_eq_self.mpr ?_).trans ?_
  · rintro pair member
    rw [List.mem_map] at member
    obtain ⟨⟨name, value⟩, listed, rfl⟩ := member
    have held : value ∈ assignment.values := List.mem_map_of_mem (f := Prod.snd) listed
    have stays := reduceMentions_ne_empty (nonempty value held)
    simp [reduced, stays]
  · simp [OrderedMap.mapValues, Function.comp_def, reduced]

/-- A line is read as its command with the reduced values of its keywords. -/
theorem parse_line (standard : grammar.IsStandard) {command : String}
    (word : isSingleWord command = true) (notShortcut : grammar.shortcut? command = none)
    (names : ∀ name ∈ assignment.keys, isSingleWord name = true)
    (canWrite : grammar.CanWrite assignment) :
    grammar.parse (grammar.line command assignment) =
      .ok ⟨command, assignment.mapValues reduceMentions⟩ := by
  have readable := isReadable_spelledOut word notShortcut names canWrite
  have kept := keptPairs_spelledOut standard.filters command canWrite.nonempty
  have listed : OrderedMap.ofList (assignment.mapValues reduceMentions).entries =
      assignment.mapValues reduceMentions :=
    OrderedMap.ext (OrderedMap.entries_ofList (assignment.mapValues reduceMentions).nodup)
  have visible := startsWithBlank_of_commandPrefixProblems standard.commandPrefix
  have isMark := isMark_of_parameterPrefixProblems standard.parameterPrefix
  rw [← text_spelledOut, parse, commandWord?_text visible readable]
  simp only [readable.notShortcut]
  rw [keywordsOf_allChars isMark readable.arguments, ← WrittenCall.keptPairs, kept, listed]
  rfl

end Grammar

end ChatCommands
