/-
# Reading undoes writing

A call can be written down with any blanks between its parts. Reading the text gives the
call back: the command and, in the order of the arguments, the keywords with their
filtered values. A value may hold anything but a mark that opens a keyword; in
particular it may hold blanks and the mark itself.

The blank in front of a mark belongs to the keyword, and the other blanks in front of it
to the value before. So the stretch that is cut out for a value has blanks at both ends,
which trimming removes.
-/

import ChatCommands.Proofs.Grammar.Scan
import ChatCommands.Proofs.OrderedMap

namespace ChatCommands

open Grammar (HoldsMark IsMark Quiet)
open Text (AllBlank BlankFirst IsGap IsTrimmed isSingleWord isWord)

/-! ## Written calls -/

/-- A keyword argument as it is written: the blanks in front of the mark, the name, the
blanks after the name and the value. -/
structure WrittenArgument where
  gap : List Char
  name : String
  separator : List Char
  value : String
deriving DecidableEq, Repr

def WrittenArgument.chars (mark : List Char) (argument : WrittenArgument) : List Char :=
  argument.gap ++
    (mark ++ (argument.name.toList ++ (argument.separator ++ argument.value.toList)))

def WrittenArgument.allChars (mark : List Char) (arguments : List WrittenArgument) : List Char :=
  arguments.flatMap (chars mark)

/-- What keeps a keyword argument readable. The value may hold blanks and marks, but no mark
that opens a keyword. -/
structure WrittenArgument.IsReadable (mark : List Char) (argument : WrittenArgument) : Prop where
  gap : IsGap argument.gap
  name : isSingleWord argument.name = true
  separator : IsGap argument.separator
  nonempty : argument.value ≠ ""
  trimmed : IsTrimmed argument.value.toList
  unmarked : ¬HoldsMark mark argument.value.toList

instance (mark : List Char) (argument : WrittenArgument) :
    Decidable (argument.IsReadable mark) :=
  decidable_of_iff (IsGap argument.gap ∧ isSingleWord argument.name = true ∧
      IsGap argument.separator ∧ argument.value ≠ "" ∧ IsTrimmed argument.value.toList ∧
      ¬HoldsMark mark argument.value.toList)
    ⟨fun ⟨gap, name, separator, nonempty, trimmed, unmarked⟩ =>
      ⟨gap, name, separator, nonempty, trimmed, unmarked⟩,
    fun ⟨gap, name, separator, nonempty, trimmed, unmarked⟩ =>
      ⟨gap, name, separator, nonempty, trimmed, unmarked⟩⟩

/-- A call as it is written, with the blanks around it. -/
structure WrittenCall where
  lead : List Char
  command : String
  arguments : List WrittenArgument
  trail : List Char
deriving DecidableEq, Repr

namespace WrittenCall

/-- The text of a call in a command language. -/
def text (grammar : Grammar) (call : WrittenCall) : String :=
  String.ofList <|
    call.lead ++
      ((grammar.commandPrefix.toList ++ (call.command.toList ++
        WrittenArgument.allChars grammar.parameterPrefix.toList call.arguments)) ++ call.trail)

/-- The keywords of a call with their filtered values. Those a filter has made empty are
left out. -/
def keptPairs (grammar : Grammar) (call : WrittenCall) : List (String × String) :=
  (call.arguments.map fun argument => (argument.name, grammar.filtered argument.value)).filter
    fun pair => !pair.2.isEmpty

/-- What keeps a call readable. -/
structure IsReadable (grammar : Grammar) (call : WrittenCall) : Prop where
  lead : AllBlank call.lead
  command : isSingleWord call.command = true
  notShortcut : grammar.shortcut? call.command = none
  arguments : ∀ argument ∈ call.arguments, argument.IsReadable grammar.parameterPrefix.toList
  trail : AllBlank call.trail

end WrittenCall

/-! ## Arguments -/

namespace WrittenArgument

variable {mark : List Char}

/-- The blanks in front of the first argument, without the last of them. -/
def leadIn : List WrittenArgument → List Char
  | [] => []
  | argument :: _ => argument.gap.dropLast

/-- The keywords of arguments, each with the stretch that is cut out for its value. -/
def stretches : List WrittenArgument → List (List Char × List Char)
  | [] => []
  | argument :: rest =>
    (argument.name.toList, argument.separator ++ (argument.value.toList ++ leadIn rest)) ::
      stretches rest

theorem blankFirst_allChars {arguments : List WrittenArgument}
    (readable : ∀ argument ∈ arguments, argument.IsReadable mark) :
    BlankFirst (allChars mark arguments) := by
  cases arguments with
  | nil => exact Text.blankFirst_nil
  | cons argument rest =>
      have gap := (readable argument (by simp)).gap
      rw [allChars, List.flatMap_cons, chars, List.append_assoc]
      exact gap.blankFirst_append _

theorem allBlank_leadIn {arguments : List WrittenArgument}
    (readable : ∀ argument ∈ arguments, argument.IsReadable mark) :
    AllBlank (leadIn arguments) := by
  cases arguments with
  | nil =>
      intro c member
      cases member
  | cons argument rest =>
      intro c member
      exact (readable argument (by simp)).gap.blank c ((List.dropLast_subset _) member)

theorem IsReadable.quiet {argument : WrittenArgument} {rest : List WrittenArgument}
    (readable : argument.IsReadable mark) (isMark : IsMark mark)
    (others : ∀ argument ∈ rest, argument.IsReadable mark) :
    Quiet mark (argument.separator ++ (argument.value.toList ++ leadIn rest)) := by
  obtain ⟨closed, quiet⟩ := Grammar.not_holdsMark_iff.mp readable.unmarked
  rw [← List.append_assoc]
  exact isMark.quiet_append
    (isMark.quiet_append_of_allBlank readable.separator.blank closed quiet)
    (allBlank_leadIn others)

/-- The scan of a quiet stretch and the arguments after it finds the arguments with their
stretches, and before them nothing but the stretch and the blanks after it. -/
theorem scan_append_allChars (isMark : IsMark mark) (plain : List Char)
    {arguments : List WrittenArgument}
    (readable : ∀ argument ∈ arguments, argument.IsReadable mark)
    (quiet : Quiet mark (plain ++ leadIn arguments)) :
    Grammar.leadingChars (Grammar.innerPieces mark (plain ++ allChars mark arguments)) =
        plain ++ leadIn arguments ∧
      Grammar.keywordStretches (Grammar.innerPieces mark (plain ++ allChars mark arguments)) =
        stretches arguments := by
  -- `plain` becomes the blanks and the value of the argument the scan has just passed.
  induction arguments generalizing plain with
  | nil =>
      rw [leadIn, List.append_nil] at quiet
      have pieces := isMark.innerPieces_append quiet Text.blankFirst_nil
      have nothing : Grammar.innerPieces mark [] = [] := Text.piecesFrom_nil _ _ _
      rw [allChars, List.flatMap_nil, pieces, nothing, List.append_nil,
        Grammar.leadingChars_map]
      refine ⟨by rw [leadIn, List.append_nil], ?_⟩
      have none := Grammar.keywordStretches_map_append plain []
      rwa [List.append_nil] at none
  | cons argument rest ih =>
      have first := readable argument (by simp)
      have others : ∀ argument ∈ rest, argument.IsReadable mark := fun other member =>
        readable other (List.mem_cons_of_mem argument member)
      obtain ⟨nonempty, all⟩ := Text.isSingleWord_iff.mp first.name
      obtain ⟨last, blank, gap_eq⟩ := first.gap.append_eq
      -- The last blank of the gap starts the occurrence, the others end the stretch before.
      have split : plain ++ allChars mark (argument :: rest) =
          (plain ++ argument.gap.dropLast) ++ last :: (mark ++ (argument.name.toList ++
            ((argument.separator ++ argument.value.toList) ++ allChars mark rest))) := by
        simp only [allChars, List.flatMap_cons, chars, List.append_assoc, gap_eq,
          List.cons_append]
      have follows : BlankFirst
          ((argument.separator ++ argument.value.toList) ++ allChars mark rest) := by
        rw [List.append_assoc]
        exact first.separator.blankFirst_append _
      have before : Quiet mark (plain ++ argument.gap.dropLast) := quiet
      have later := ih (argument.separator ++ argument.value.toList) others (by
        rw [List.append_assoc]
        exact first.quiet isMark others)
      rw [split, isMark.innerPieces_append before (Text.blankFirst_cons blank),
        Grammar.innerPieces_found mark blank nonempty all follows.wordEnds]
      refine ⟨Grammar.leadingChars_map_append_found _ _ _, ?_⟩
      rw [Grammar.keywordStretches_map_append, Grammar.keywordStretches, later.1, later.2,
        stretches, List.append_assoc]

theorem endsSolid_append_allChars {before : List Char} {arguments : List WrittenArgument}
    (solid : Text.EndsSolid before)
    (readable : ∀ argument ∈ arguments, argument.IsReadable mark) :
    Text.EndsSolid (before ++ allChars mark arguments) := by
  induction arguments generalizing before with
  | nil =>
      rw [allChars, List.flatMap_nil, List.append_nil]
      exact solid
  | cons argument rest ih =>
      have first := readable argument (by simp)
      have value : Text.EndsSolid argument.value.toList :=
        first.trimmed.endsSolid (by
          rw [ne_eq, String.toList_eq_nil_iff]
          exact first.nonempty)
      have here : Text.EndsSolid (before ++ chars mark argument) := by
        simp only [chars, ← List.append_assoc]
        exact value.append _
      rw [allChars, List.flatMap_cons, ← List.append_assoc]
      exact ih here fun other member => readable other (List.mem_cons_of_mem argument member)

end WrittenArgument

/-! ## Calls -/

namespace Grammar

variable {grammar : Grammar} {mark : List Char}

/-- The stretch that is cut out for a value gives the filtered value, if any. -/
theorem argument?_stretch (grammar : Grammar) {argument : WrittenArgument} {trail : List Char}
    (readable : argument.IsReadable mark) (blank : AllBlank trail) :
    grammar.argument? argument.name.toList
        (argument.separator ++ (argument.value.toList ++ trail)) =
      if (grammar.filtered argument.value).isEmpty then none
      else some (argument.name, grammar.filtered argument.value) := by
  have value : grammar.valueOf (argument.separator ++ (argument.value.toList ++ trail)) =
      grammar.filtered argument.value := by
    rw [valueOf, Text.trim_append_append readable.separator.blank readable.trimmed blank,
      String.ofList_toList]
  have starts : startsWithBlank
      (argument.separator ++ (argument.value.toList ++ trail)) = true := by
    obtain ⟨nonempty, allBlank⟩ := readable.separator
    cases same : argument.separator with
    | nil => exact absurd same nonempty
    | cons c rest => exact allBlank c (by rw [same]; simp)
  rw [argument?, value, starts, String.ofList_toList, Bool.true_and]
  cases (grammar.filtered argument.value).isEmpty with
  | true => rfl
  | false => rfl

theorem filterMap_argument?_stretches {arguments : List WrittenArgument}
    (readable : ∀ argument ∈ arguments, argument.IsReadable mark) :
    ((WrittenArgument.stretches arguments).filterMap
        fun (name, stretch) => grammar.argument? name stretch) =
      (arguments.map fun argument =>
        (argument.name, grammar.filtered argument.value)).filter fun pair => !pair.2.isEmpty := by
  induction arguments with
  | nil => rfl
  | cons argument rest ih =>
      have others : ∀ argument ∈ rest, argument.IsReadable mark := fun other member =>
        readable other (List.mem_cons_of_mem argument member)
      have first := argument?_stretch grammar (readable argument (by simp))
        (WrittenArgument.allBlank_leadIn others)
      rw [WrittenArgument.stretches, List.filterMap_cons, List.map_cons, List.filter_cons,
        ← ih others]
      simp only [first]
      cases (grammar.filtered argument.value).isEmpty with
      | true => rfl
      | false => rfl

theorem keywordsOf_allChars (isMark : IsMark grammar.parameterPrefix.toList)
    {arguments : List WrittenArgument}
    (readable : ∀ argument ∈ arguments, argument.IsReadable grammar.parameterPrefix.toList) :
    grammar.keywordsOf (WrittenArgument.allChars grammar.parameterPrefix.toList arguments) =
      .ofList ((arguments.map fun argument =>
        (argument.name, grammar.filtered argument.value)).filter fun pair => !pair.2.isEmpty) := by
  have quiet : Quiet grammar.parameterPrefix.toList ([] ++ WrittenArgument.leadIn arguments) :=
    isMark.quiet_append (quiet_nil _) (WrittenArgument.allBlank_leadIn readable)
  have scan := (WrittenArgument.scan_append_allChars isMark [] readable quiet).2
  rw [List.nil_append] at scan
  have closed : ¬OpensMark grammar.parameterPrefix.toList
      (WrittenArgument.allChars grammar.parameterPrefix.toList arguments) :=
    isMark.not_opensMark_of_blankFirst (WrittenArgument.blankFirst_allChars readable)
  rw [keywordsOf, pieces_eq_innerPieces closed, scan, filterMap_argument?_stretches readable]

theorem commandWord?_append (grammar : Grammar) {word rest : List Char} (nonempty : word ≠ [])
    (all : ∀ c ∈ word, isWord c = true) (follows : BlankFirst rest) :
    grammar.commandWord? (grammar.commandPrefix.toList ++ (word ++ rest)) =
      some (String.ofList word, rest) :=
  grammar.commandWord?_found nonempty all follows.wordEnds

/-- A call begins with its prefix or, without one, with its command. -/
theorem isBlank_head?_commandPrefix_append
    (visible : startsWithBlank grammar.commandPrefix.toList = false) {word : List Char}
    (nonempty : word ≠ []) (all : ∀ c ∈ word, isWord c = true) (rest : List Char) :
    ∀ c ∈ (grammar.commandPrefix.toList ++ (word ++ rest)).head?, Text.isBlank c = false := by
  intro c member
  cases mark : grammar.commandPrefix.toList with
  | nil =>
      cases word with
      | nil => exact absurd rfl nonempty
      | cons first word =>
          rw [mark] at member
          cases member
          exact Text.isBlank_eq_false_of_isWord (all c (by simp))
  | cons first mark' =>
      rw [mark] at member visible
      cases member
      exact visible

theorem isTrimmed_call {call : WrittenCall}
    (visible : startsWithBlank grammar.commandPrefix.toList = false)
    (readable : call.IsReadable grammar) :
    IsTrimmed (grammar.commandPrefix.toList ++ (call.command.toList ++
      WrittenArgument.allChars grammar.parameterPrefix.toList call.arguments)) := by
  obtain ⟨nonempty, all⟩ := Text.isSingleWord_iff.mp readable.command
  have solid := (WrittenArgument.endsSolid_append_allChars
    (Text.endsSolid_of_isWord nonempty all) readable.arguments).append
      grammar.commandPrefix.toList
  exact solid.isTrimmed (isBlank_head?_commandPrefix_append visible nonempty all _)

/-- The text of a call is cut after its command. -/
theorem commandWord?_text {call : WrittenCall}
    (visible : startsWithBlank grammar.commandPrefix.toList = false)
    (readable : call.IsReadable grammar) :
    grammar.commandWord? (Text.trim (call.text grammar).toList) =
      some (call.command,
        WrittenArgument.allChars grammar.parameterPrefix.toList call.arguments) := by
  obtain ⟨nonempty, all⟩ := Text.isSingleWord_iff.mp readable.command
  rw [WrittenCall.text, String.toList_ofList,
    Text.trim_append_append readable.lead (isTrimmed_call visible readable) readable.trail,
    commandWord?_append grammar nonempty all
      (WrittenArgument.blankFirst_allChars readable.arguments), String.ofList_toList]

/-- Reading the text of a call gives back the command and the keywords with their filtered
values, inserted in the order in which they are written. -/
theorem parse_text (grammar : Grammar)
    (visible : startsWithBlank grammar.commandPrefix.toList = false)
    (isMark : IsMark grammar.parameterPrefix.toList) (call : WrittenCall)
    (readable : call.IsReadable grammar) :
    grammar.parse (call.text grammar) =
      .ok ⟨call.command, .ofList (call.keptPairs grammar)⟩ := by
  obtain ⟨nonempty, all⟩ := Text.isSingleWord_iff.mp readable.command
  have line : Text.trim (call.text grammar).toList =
      grammar.commandPrefix.toList ++ (call.command.toList ++
        WrittenArgument.allChars grammar.parameterPrefix.toList call.arguments) := by
    rw [WrittenCall.text, String.toList_ofList]
    exact Text.trim_append_append readable.lead (isTrimmed_call visible readable) readable.trail
  have word := commandWord?_append grammar nonempty all
    (WrittenArgument.blankFirst_allChars readable.arguments)
  rw [parse, line, word, String.ofList_toList]
  simp only [readable.notShortcut]
  rw [keywordsOf_allChars isMark readable.arguments, WrittenCall.keptPairs]

/-- A value may hold the mark, a repeated keyword keeps its place and takes the last value,
and a keyword whose value a filter has emptied is left out. -/
theorem parse_text_poll :
    let grammar : Grammar :=
      { commandPrefix := "$ "
        parameterPrefix := "--"
        filters := [reduceMentions, Text.replaceAll "spam" ""]
        shortcuts := [⟨"say", "echo", "text"⟩] }
    let call : WrittenCall :=
      { lead := ['\n']
        command := "poll"
        arguments :=
          [⟨[' ', '\t'], "title", [' '], "well--known -- <@!12>"⟩, ⟨[' '], "note", [' '], "spam"⟩,
            ⟨['\n'], "options", [' ', ' '], "x, y"⟩, ⟨[' '], "title", [' '], "last --"⟩]
        trail := [' ', '\n'] }
    startsWithBlank grammar.commandPrefix.toList = false ∧
      IsMark grammar.parameterPrefix.toList ∧ call.IsReadable grammar ∧
      (grammar.parse (call.text grammar)).toOption.map
          (fun invocation => (invocation.command, invocation.keywords.entries)) =
        some ("poll", [("title", "last --"), ("options", "x, y")]) := by
  intro grammar call
  have readable : call.IsReadable grammar :=
    ⟨by decide +kernel, by decide +kernel, by decide +kernel, by decide +kernel, by decide +kernel⟩
  refine ⟨by decide +kernel, by decide +kernel, readable, ?_⟩
  rw [parse_text grammar (by decide +kernel) (by decide +kernel) call readable]
  decide +kernel

end Grammar

end ChatCommands
