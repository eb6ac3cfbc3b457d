/-
# Shortcuts and what they stand for

A shortcut has a short line, its name with a text after it, and a long line, its command with
the text as the value of its keyword. The short line never looks for keywords: marks in the
text are part of the value. The long line does, so the two can only agree on a text without
a mark.

They part on one more point. Without a text the short line still passes the empty text through
the filters, while the keyword of the long line, with nothing after it, has no value at all.

Main statement: `parse_shortcut`. The condition on the empty text cannot be dropped
(`not_forall_shortLine_eq_longLine`).

Of several shortcuts with one name only the first is ever expanded (`expands_iff`); what the
others stand for makes no difference to any text (`parse_withShortcut_of_repeated`).
-/

import ChatCommands.Proofs.Grammar.RoundTrip

namespace ChatCommands.Grammar

open Text (AllBlank BlankFirst IsGap WordEnds isSingleWord isWord)

/-! ## The two lines -/

/-- The line that calls a shortcut with a text. -/
def shortLine (grammar : Grammar) (shortcut : Shortcut) (text : String) : String :=
  grammar.commandPrefix ++ shortcut.name ++ " " ++ text

/-- The line that spells out the call a shortcut stands for. -/
def longLine (grammar : Grammar) (shortcut : Shortcut) (text : String) : String :=
  grammar.commandPrefix ++ shortcut.command ++ " " ++ grammar.parameterPrefix ++
    shortcut.parameter ++ " " ++ text

/-- A shortcut that can be called: no earlier one has its name, its command is not a shortcut
in turn, and its name, its command and its keyword are words. -/
structure IsCallable (grammar : Grammar) (shortcut : Shortcut) : Prop where
  first : grammar.shortcut? shortcut.name = some shortcut
  notShortcut : grammar.shortcut? shortcut.command = none
  name : isSingleWord shortcut.name = true
  command : isSingleWord shortcut.command = true
  parameter : isSingleWord shortcut.parameter = true

/-- The keyword arguments that consist of a single keyword, or of none if its value is
empty. -/
def single (keyword value : String) : OrderedMap String String :=
  if value = "" then .empty else .ofList [(keyword, value)]

variable {grammar : Grammar} {shortcut : Shortcut}

/-! ## What follows the command -/

/-- A line is cut after its command. Of what follows, the blanks at the end are gone, and all
blanks if nothing else follows. -/
theorem exists_gap_commandWord? (visible : startsWithBlank grammar.commandPrefix.toList = false)
    {command : String} (word : isSingleWord command = true) {c : Char}
    (separates : Text.isBlank c = true) (cs : List Char) :
    ∃ gap, AllBlank gap ∧ (gap = [] ↔ Text.trim cs = []) ∧
      grammar.commandWord?
          (Text.trim (grammar.commandPrefix.toList ++ (command.toList ++ c :: cs))) =
        some (command, gap ++ Text.trim cs) := by
  obtain ⟨nonempty, all⟩ := Text.isSingleWord_iff.mp word
  have starts := isBlank_head?_commandPrefix_append visible nonempty all []
  rw [List.append_nil] at starts
  have solid := (Text.endsSolid_of_isWord nonempty all).append grammar.commandPrefix.toList
  obtain ⟨gap, blank, empty, trimmed⟩ :=
    Text.exists_gap_trim_append solid starts separates cs
  have follows : BlankFirst (gap ++ Text.trim cs) := by
    cases gap with
    | nil =>
        rw [empty.mp rfl]
        exact Text.blankFirst_nil
    | cons c gap => exact Text.blankFirst_cons (blank c (by simp))
  refine ⟨gap, blank, empty, ?_⟩
  rw [← List.append_assoc, trimmed, List.append_assoc, commandWord?_append grammar nonempty all
    follows, String.ofList_toList]

/-- Nothing is left of a line after its command if the line ends there. -/
theorem commandWord?_bare (visible : startsWithBlank grammar.commandPrefix.toList = false)
    {command : String} (word : isSingleWord command = true) :
    grammar.commandWord? (Text.trim (grammar.commandPrefix.toList ++ command.toList)) =
      some (command, []) := by
  obtain ⟨nonempty, all⟩ := Text.isSingleWord_iff.mp word
  have starts := isBlank_head?_commandPrefix_append visible nonempty all []
  have read := commandWord?_append grammar nonempty all Text.blankFirst_nil
  rw [List.append_nil] at starts read
  have solid := (Text.endsSolid_of_isWord nonempty all).append grammar.commandPrefix.toList
  rw [(solid.isTrimmed starts).trim_eq_self, read, String.ofList_toList]

/-- The blanks in front of a trimmed text do not count for its value. -/
theorem valueOf_append_trim {gap : List Char} (blank : AllBlank gap) (text : String) :
    grammar.valueOf (gap ++ Text.trim text.toList) = grammar.filtered (Text.trimmed text) := by
  have trimmed := Text.trim_append_append blank (Text.isTrimmed_trim text.toList)
    Text.allBlank_nil
  rw [List.append_nil] at trimmed
  rw [valueOf, trimmed, Text.trimmed]

/-- A keyword with nothing after it does not count. -/
theorem keywordsOf_bare (isMark : IsMark grammar.parameterPrefix.toList) {gap word : List Char}
    (isGap : IsGap gap) (nonempty : word ≠ []) (all : ∀ c ∈ word, isWord c = true) :
    grammar.keywordsOf (gap ++ (grammar.parameterPrefix.toList ++ word)) = .empty := by
  obtain ⟨last, blank, split⟩ := isGap.append_eq
  have quiet : Quiet grammar.parameterPrefix.toList ([] ++ gap.dropLast) :=
    isMark.quiet_append (quiet_nil _) fun c member =>
      isGap.blank c (List.dropLast_subset _ member)
  have found := innerPieces_found grammar.parameterPrefix.toList blank nonempty all
    Text.blankFirst_nil.wordEnds
  have nothing : innerPieces grammar.parameterPrefix.toList [] = [] := Text.piecesFrom_nil _ _ _
  rw [List.append_nil, nothing] at found
  rw [keywordsOf,
    pieces_eq_innerPieces (isMark.not_opensMark_of_blankFirst (isGap.blankFirst_append _)),
    split, ← List.nil_append gap.dropLast,
    isMark.innerPieces_append quiet (Text.blankFirst_cons blank), found,
    keywordStretches_map_append]
  rfl

/-- A keyword with a text after it counts with the value of the text. -/
theorem keywordsOf_single (isMark : IsMark grammar.parameterPrefix.toList)
    {argument : WrittenArgument} (readable : argument.IsReadable grammar.parameterPrefix.toList) :
    grammar.keywordsOf (argument.chars grammar.parameterPrefix.toList) =
      single argument.name (grammar.filtered argument.value) := by
  have alone : argument.chars grammar.parameterPrefix.toList =
      WrittenArgument.allChars grammar.parameterPrefix.toList [argument] := by
    rw [WrittenArgument.allChars, List.flatMap_cons, List.flatMap_nil, List.append_nil]
  rw [alone, keywordsOf_allChars isMark fun other member => by
    rwa [List.mem_singleton.mp member], single]
  by_cases emptied : grammar.filtered argument.value = ""
  · rw [if_pos emptied, List.map_singleton, emptied]
    rfl
  · rw [if_neg emptied]
    simp [emptied]

/-! ## Reading the lines -/

/-- A text that calls a shortcut is the command with the value of the rest. -/
theorem parse_of_shortcut? {text name : String} {rest : List Char}
    (called : grammar.commandWord? (Text.trim text.toList) = some (name, rest))
    (found : grammar.shortcut? name = some shortcut) :
    grammar.parse text =
      .ok ⟨shortcut.command, single shortcut.parameter (grammar.valueOf rest)⟩ := by
  rw [parse, called]
  simp only [found]
  rw [expand, single]
  simp only [String.isEmpty_iff]
  rfl

/-- The short line is the command with the text as the only value, whatever the text holds. -/
theorem parse_shortLine (visible : startsWithBlank grammar.commandPrefix.toList = false)
    (callable : grammar.IsCallable shortcut) (text : String) :
    grammar.parse (grammar.shortLine shortcut text) =
      .ok ⟨shortcut.command, single shortcut.parameter (grammar.filtered (Text.trimmed text))⟩ := by
  have chars : (grammar.shortLine shortcut text).toList =
      grammar.commandPrefix.toList ++ (shortcut.name.toList ++ ' ' :: text.toList) := by
    simp [shortLine]
  obtain ⟨gap, blank, -, word⟩ := exists_gap_commandWord? visible callable.name (c := ' ')
    (by decide +kernel) text.toList
  rw [← chars] at word
  rw [parse_of_shortcut? word callable.first, valueOf_append_trim blank]

/-- The long line is cut after its command. What follows is the keyword with the trimmed text,
and no blanks are left after the keyword if there is no text. -/
theorem commandWord?_longLine (visible : startsWithBlank grammar.commandPrefix.toList = false)
    (isMark : IsMark grammar.parameterPrefix.toList) (callable : grammar.IsCallable shortcut)
    (text : String) :
    ∃ gap separator, IsGap gap ∧ AllBlank separator ∧
      (separator = [] ↔ Text.trim text.toList = []) ∧
      grammar.commandWord? (Text.trim (grammar.longLine shortcut text).toList) =
        some (shortcut.command, gap ++ (grammar.parameterPrefix.toList ++
          (shortcut.parameter.toList ++ (separator ++ Text.trim text.toList)))) := by
  obtain ⟨nonempty, all⟩ := Text.isSingleWord_iff.mp callable.parameter
  have chars : (grammar.longLine shortcut text).toList = grammar.commandPrefix.toList ++
      (shortcut.command.toList ++ ' ' ::
        (grammar.parameterPrefix.toList ++ shortcut.parameter.toList ++ ' ' :: text.toList)) := by
    simp [longLine]
  have solid := (Text.endsSolid_of_isWord nonempty all).append grammar.parameterPrefix.toList
  have starts : ∀ c ∈ (grammar.parameterPrefix.toList ++ shortcut.parameter.toList).head?,
      Text.isBlank c = false := by
    intro c member
    obtain ⟨first, rest, same⟩ := List.exists_cons_of_ne_nil isMark.nonempty
    rw [same] at member
    cases member
    exact isMark.solid c (by rw [same]; exact List.mem_cons_self)
  obtain ⟨separator, separatorBlank, bare, trimmed⟩ :=
    Text.exists_gap_trim_append solid starts (c := ' ') (by decide +kernel) text.toList
  obtain ⟨gap, gapBlank, gapEmpty, word⟩ := exists_gap_commandWord? visible callable.command
    (c := ' ') (by decide +kernel)
    (grammar.parameterPrefix.toList ++ shortcut.parameter.toList ++ ' ' :: text.toList)
  have isGap : IsGap gap := by
    refine ⟨fun none => ?_, gapBlank⟩
    rw [gapEmpty, trimmed, List.append_eq_nil_iff, List.append_eq_nil_iff] at none
    exact nonempty none.1.2
  refine ⟨gap, separator, isGap, separatorBlank, bare, ?_⟩
  rw [chars, word, trimmed, List.append_assoc grammar.parameterPrefix.toList]

/-- The long line has the text as the only value if the text holds no mark. Without a text
there is no value to filter. -/
theorem parse_longLine (visible : startsWithBlank grammar.commandPrefix.toList = false)
    (isMark : IsMark grammar.parameterPrefix.toList) (callable : grammar.IsCallable shortcut)
    {text : String}
    (unmarked : ¬HoldsMark grammar.parameterPrefix.toList (Text.trimmed text).toList) :
    grammar.parse (grammar.longLine shortcut text) =
      .ok ⟨shortcut.command,
        if Text.trimmed text = "" then .empty
        else single shortcut.parameter (grammar.filtered (Text.trimmed text))⟩ := by
  obtain ⟨nonempty, all⟩ := Text.isSingleWord_iff.mp callable.parameter
  obtain ⟨gap, separator, isGap, blank, bare, word⟩ :=
    commandWord?_longLine visible isMark callable text
  have empty : Text.trimmed text = "" ↔ Text.trim text.toList = [] := String.ofList_eq_empty_iff
  rw [parse, word]
  simp only [callable.notShortcut]
  by_cases nothing : Text.trimmed text = ""
  · have trimmed := empty.mp nothing
    rw [if_pos nothing, trimmed, bare.mpr trimmed, List.append_nil, List.append_nil,
      keywordsOf_bare isMark isGap nonempty all]
  · let argument : WrittenArgument := ⟨gap, shortcut.parameter, separator, Text.trimmed text⟩
    have characters : argument.value.toList = Text.trim text.toList := String.toList_ofList
    have readable : argument.IsReadable grammar.parameterPrefix.toList :=
      { gap := isGap
        name := callable.parameter
        separator := ⟨fun none => nothing (empty.mpr (bare.mp none)), blank⟩
        nonempty := nothing
        trimmed := by
          rw [characters]
          exact Text.isTrimmed_trim _
        unmarked := unmarked }
    rw [if_neg nothing, ← characters]
    have keywords := keywordsOf_single isMark readable
    rw [WrittenArgument.chars] at keywords
    rw [keywords]

/-! ## The two lines compared -/

theorem single_eq_empty_iff {keyword value : String} :
    single keyword value = .empty ↔ value = "" := by
  constructor
  · intro same
    by_contra held
    rw [single, if_neg held] at same
    have size : 1 = 0 := congrArg OrderedMap.size same
    cases size
  · rintro rfl
    rfl

/-- Calling a shortcut with a text is the command with the text as the only value, marks and
all, or without a value if the filters leave none. For a text without a mark the line that
spells the call out is read the same, exactly if there is a text or the filters leave the empty
text empty. -/
theorem parse_shortcut (grammar : Grammar)
    (visible : startsWithBlank grammar.commandPrefix.toList = false)
    (isMark : IsMark grammar.parameterPrefix.toList) (shortcut : Shortcut)
    (callable : grammar.IsCallable shortcut) (text : String) :
    grammar.parse (grammar.shortLine shortcut text) =
        .ok ⟨shortcut.command,
          single shortcut.parameter (grammar.filtered (Text.trimmed text))⟩ ∧
      (¬HoldsMark grammar.parameterPrefix.toList (Text.trimmed text).toList →
        (grammar.parse (grammar.shortLine shortcut text) =
            grammar.parse (grammar.longLine shortcut text) ↔
          Text.trimmed text ≠ "" ∨ grammar.filtered "" = "")) := by
  have short := parse_shortLine visible callable text
  refine ⟨short, fun unmarked => ?_⟩
  rw [short, parse_longLine visible isMark callable unmarked]
  by_cases nothing : Text.trimmed text = ""
  · rw [if_pos nothing, nothing, Except.ok.injEq, Invocation.mk.injEq, single_eq_empty_iff]
    simp
  · rw [if_neg nothing]
    simp [nothing]

/-- A text of marks, and blanks in odd places. -/
theorem parse_shortcut_say :
    let grammar : Grammar :=
      { commandPrefix := "$"
        parameterPrefix := "--"
        filters := [reduceMentions, Text.replaceAll "spam" ""]
        shortcuts := [⟨"say", "echo", "text"⟩, ⟨"say", "poll", "title"⟩] }
    let shortcut : Shortcut := ⟨"say", "echo", "text"⟩
    let reading := fun text => (grammar.parse text).toOption.map
      fun invocation => (invocation.command, invocation.keywords.entries)
    startsWithBlank grammar.commandPrefix.toList = false ∧
      IsMark grammar.parameterPrefix.toList ∧ grammar.IsCallable shortcut ∧
      reading (grammar.shortLine shortcut " hello --world <@!5> ") =
        some ("echo", [("text", "hello --world 5")]) ∧
      ¬HoldsMark grammar.parameterPrefix.toList (Text.trimmed "\t well--known -- ").toList ∧
      reading (grammar.shortLine shortcut "\t well--known -- ") =
        reading (grammar.longLine shortcut "\t well--known -- ") := by
  intro grammar shortcut reading
  have visible : startsWithBlank grammar.commandPrefix.toList = false := by decide +kernel
  have isMark : IsMark grammar.parameterPrefix.toList := by decide +kernel
  have callable : grammar.IsCallable shortcut :=
    ⟨by decide +kernel, by decide +kernel, by decide +kernel, by decide +kernel, by decide +kernel⟩
  have unmarked :
      ¬HoldsMark grammar.parameterPrefix.toList (Text.trimmed "\t well--known -- ").toList := by
    decide +kernel
  have expanded := parse_shortcut grammar visible isMark shortcut callable
  refine ⟨visible, isMark, callable, ?_, unmarked, ?_⟩
  · simp only [reading]
    rw [(expanded " hello --world <@!5> ").1]
    decide +kernel
  · simp only [reading]
    rw [((expanded "\t well--known -- ").2 unmarked).mpr (.inl (by decide +kernel))]

/-- A filter that makes something of the empty text gives a shortcut without a text a value,
which the keyword of the long line does not have. -/
theorem not_forall_shortLine_eq_longLine :
    ¬∀ (grammar : Grammar) (shortcut : Shortcut) (text : String),
      startsWithBlank grammar.commandPrefix.toList = false →
      IsMark grammar.parameterPrefix.toList → grammar.IsCallable shortcut →
      ¬HoldsMark grammar.parameterPrefix.toList (Text.trimmed text).toList →
        grammar.parse (grammar.shortLine shortcut text) =
          grammar.parse (grammar.longLine shortcut text) := by
  intro all
  let shortcut : Shortcut := ⟨"say", "echo", "text"⟩
  have same := all { filters := [Text.replaceAll "" "x"], shortcuts := [shortcut] } shortcut ""
    (by decide +kernel) (by decide +kernel)
    ⟨by decide +kernel, by decide +kernel, by decide +kernel, by decide +kernel,
      by decide +kernel⟩
    (by decide +kernel)
  have entries := congrArg
    (fun parsed => parsed.toOption.map fun invocation => invocation.keywords.entries) same
  exact absurd entries (by decide +kernel)

/-! ## Shortcuts that share a name -/

/-- A text calls a name: without the blanks around it, it is the command prefix, the name, which
is a word, and a rest that does not go on with it. -/
structure Calls (grammar : Grammar) (text name rest : String) : Prop where
  written : Text.trimmed text = grammar.commandPrefix ++ name ++ rest
  word : isSingleWord name = true
  ends : WordEnds rest.toList

/-- The grammar with another shortcut at a place. -/
def withShortcut (grammar : Grammar) (place : Nat) (shortcut : Shortcut) : Grammar :=
  { grammar with shortcuts := grammar.shortcuts.set place shortcut }

/-- Reading a text expands the shortcut at a place: the text calls its name, and whatever command
and keyword the shortcut stands for, the text is read as this command with the rest as the value
of this keyword. -/
def Expands (grammar : Grammar) (text : String) (place : Nat) : Prop :=
  ∃ shortcut rest, grammar.shortcuts[place]? = some shortcut ∧
    grammar.Calls text shortcut.name rest ∧
      ∀ command parameter,
        (grammar.withShortcut place ⟨shortcut.name, command, parameter⟩).parse text =
          .ok ⟨command, single parameter (grammar.filtered (Text.trimmed rest))⟩

variable {text name rest : String} {place : Nat}

theorem calls_iff : grammar.Calls text name rest ↔
    grammar.commandWord? (Text.trim text.toList) = some (name, rest.toList) := by
  have line : Text.trimmed text = grammar.commandPrefix ++ name ++ rest ↔ Text.trim text.toList =
      grammar.commandPrefix.toList ++ (name.toList ++ rest.toList) := by
    rw [← String.toList_inj, Text.trimmed, String.toList_ofList, String.toList_append,
      String.toList_append, List.append_assoc]
  rw [commandWord?_eq_some_iff, ← line]
  exact ⟨fun calls => ⟨calls.written, calls.word, calls.ends⟩, fun ⟨written, word, ends⟩ =>
    ⟨written, word, ends⟩⟩

/-- Every word can be called. -/
theorem exists_calls (visible : startsWithBlank grammar.commandPrefix.toList = false)
    (word : isSingleWord name = true) : ∃ text rest, grammar.Calls text name rest := by
  refine ⟨grammar.commandPrefix ++ name, "", calls_iff.mpr ?_⟩
  rw [String.toList_append, commandWord?_bare visible word]
  rfl

/-- A text that calls a shortcut is the command with the rest as the only value. -/
theorem Calls.parse_eq (calls : grammar.Calls text name rest)
    (found : grammar.shortcut? name = some shortcut) :
    grammar.parse text = .ok ⟨shortcut.command,
      single shortcut.parameter (grammar.filtered (Text.trimmed rest))⟩ :=
  parse_of_shortcut? (calls_iff.mp calls) found

theorem Calls.withShortcut (calls : grammar.Calls text name rest) (place : Nat)
    (shortcut : Shortcut) : (grammar.withShortcut place shortcut).Calls text name rest :=
  ⟨calls.written, calls.word, calls.ends⟩

/-- The shortcut that is found for a name is the first one that has it. -/
theorem shortcut?_eq_some_iff : grammar.shortcut? name = some shortcut ↔
    shortcut.name = name ∧ ∃ place, grammar.shortcuts[place]? = some shortcut ∧
      name ∉ (grammar.shortcuts.take place).map Shortcut.name := by
  rw [shortcut?, List.find?_eq_some_iff_getElem, beq_iff_eq]
  refine and_congr_right fun _ => exists_congr fun place => ?_
  rw [List.getElem?_eq_some_iff, ← exists_and_right]
  refine exists_congr fun inside => and_congr_right fun _ => ?_
  constructor
  · intro first listed
    obtain ⟨_, taken, same⟩ := List.mem_map.mp listed
    obtain ⟨index, below, rfl⟩ := List.mem_take_iff_getElem.mp taken
    have different := first index (Nat.lt_of_lt_of_le below (Nat.min_le_left _ _))
    rw [Bool.not_eq_true', beq_eq_false_iff_ne] at different
    exact different same
  · intro first index below
    rw [Bool.not_eq_true', beq_eq_false_iff_ne]
    intro same
    refine first (List.mem_map.mpr ⟨_, List.mem_take_iff_getElem.mpr ⟨index, ?_, rfl⟩, same⟩)
    exact Nat.lt_min.mpr ⟨below, Nat.lt_trans below inside⟩

section Repeated

variable (here : grammar.shortcuts[place]? = some shortcut)
  (repeated : shortcut.name ∈ (grammar.shortcuts.take place).map Shortcut.name)
  (command parameter : String)
include here repeated

/-- A shortcut whose name an earlier one has is never found. -/
theorem shortcut?_withShortcut_of_repeated (name : String) :
    (grammar.withShortcut place ⟨shortcut.name, command, parameter⟩).shortcut? name =
      grammar.shortcut? name := by
  obtain ⟨inside, rfl⟩ := List.getElem?_eq_some_iff.mp here
  have split : grammar.shortcuts = grammar.shortcuts.take place ++
      grammar.shortcuts[place] :: grammar.shortcuts.drop (place + 1) := by
    rw [← List.drop_eq_getElem_cons inside, List.take_append_drop]
  rw [shortcut?, shortcut?, withShortcut, List.set_eq_take_append_cons_drop, if_pos inside,
    List.find?_append]
  conv_rhs => rw [split, List.find?_append]
  rw [List.find?_cons, List.find?_cons]
  by_cases called : grammar.shortcuts[place].name = name
  · -- The search ends before it comes to the place.
    obtain ⟨earlier, taken, named⟩ := List.mem_map.mp repeated
    have found : ((grammar.shortcuts.take place).find? fun shortcut =>
        shortcut.name == name).isSome = true :=
      List.find?_isSome.mpr ⟨earlier, taken, beq_iff_eq.mpr (named.trans called)⟩
    obtain ⟨first, search⟩ := Option.isSome_iff_exists.mp found
    rw [search, Option.some_or, Option.some_or]
  · rw [beq_eq_false_iff_ne.mpr called]

/-- What a shortcut stands for whose name an earlier one has makes no difference. -/
theorem parse_withShortcut_of_repeated (text : String) :
    (grammar.withShortcut place ⟨shortcut.name, command, parameter⟩).parse text =
      grammar.parse text := by
  let changed := grammar.withShortcut place ⟨shortcut.name, command, parameter⟩
  have called : ∀ line, changed.commandWord? line = grammar.commandWord? line := fun _ => rfl
  have keywords : ∀ rest, changed.keywordsOf rest = grammar.keywordsOf rest := fun _ => rfl
  have expanded : ∀ found rest, changed.expand found rest = grammar.expand found rest :=
    fun _ _ => rfl
  have mark : changed.commandPrefix = grammar.commandPrefix := rfl
  have search : ∀ name, changed.shortcut? name = grammar.shortcut? name :=
    shortcut?_withShortcut_of_repeated here repeated command parameter
  show changed.parse text = grammar.parse text
  rw [parse, parse, called, mark]
  simp only [search, keywords, expanded]

end Repeated

/-- A shortcut is expanded by the texts that call its name, if no earlier one has the name. -/
theorem expands_iff (here : grammar.shortcuts[place]? = some shortcut) :
    grammar.Expands text place ↔
      shortcut.name ∉ (grammar.shortcuts.take place).map Shortcut.name ∧
        ∃ rest, grammar.Calls text shortcut.name rest := by
  constructor
  · rintro ⟨found, rest, there, calls, reading⟩
    obtain rfl := Option.some.inj (here.symm.trans there)
    refine ⟨fun repeated => ?_, rest, calls⟩
    -- The text would be read as any command, so as two at once.
    have any : ∀ command, ∃ keywords, grammar.parse text = .ok ⟨command, keywords⟩ :=
      fun command => ⟨_, (parse_withShortcut_of_repeated here repeated command "" text).symm.trans
        (reading command "")⟩
    obtain ⟨_, one⟩ := any "one"
    obtain ⟨_, another⟩ := any "another"
    have same : "one" = "another" :=
      congrArg Invocation.command (Except.ok.inj (one.symm.trans another))
    exact absurd same (by decide)
  · rintro ⟨first, rest, calls⟩
    obtain ⟨inside, -⟩ := List.getElem?_eq_some_iff.mp here
    refine ⟨shortcut, rest, here, calls, fun command parameter => ?_⟩
    let changed := grammar.withShortcut place ⟨shortcut.name, command, parameter⟩
    have there : changed.shortcuts[place]? = some ⟨shortcut.name, command, parameter⟩ :=
      List.getElem?_set_self inside
    have kept : changed.shortcuts.take place = grammar.shortcuts.take place :=
      List.take_set_of_le (Nat.le_refl place)
    have found : changed.shortcut? shortcut.name = some ⟨shortcut.name, command, parameter⟩ :=
      shortcut?_eq_some_iff.mpr ⟨rfl, place, there, by rwa [kept]⟩
    exact (calls.withShortcut place _).parse_eq found

/-- A text that expands a shortcut is the command of the shortcut with the rest as the value of
its keyword. -/
theorem Expands.parse_eq (expands : grammar.Expands text place)
    (here : grammar.shortcuts[place]? = some shortcut)
    (calls : grammar.Calls text shortcut.name rest) :
    grammar.parse text = .ok ⟨shortcut.command,
      single shortcut.parameter (grammar.filtered (Text.trimmed rest))⟩ :=
  calls.parse_eq (shortcut?_eq_some_iff.mpr
    ⟨rfl, place, here, ((expands_iff here).mp expands).1⟩)

/-- A text that calls the name of a shortcut expands one. -/
theorem exists_expands {rest : List Char}
    (called : grammar.commandWord? (Text.trim text.toList) = some (name, rest))
    (found : grammar.shortcut? name = some shortcut) : ∃ place, grammar.Expands text place := by
  obtain ⟨rfl, place, here, first⟩ := shortcut?_eq_some_iff.mp found
  refine ⟨place, (expands_iff here).mpr ⟨first, String.ofList rest, calls_iff.mpr ?_⟩⟩
  rw [called, String.toList_ofList]

end ChatCommands.Grammar
