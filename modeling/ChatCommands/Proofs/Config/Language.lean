/-
# The language of a configuration

A host makes its command language from a configuration. If the configuration has no problems,
the marks of the language can be told from blanks and words, and shortcuts are made of words.

The check of the parameter prefix is narrower than the words of the language. It refuses
letters, numerals and the underscore, while a word may also hold combining marks, other
connectors and join controls. A configuration may set one of these as its parameter prefix,
and then the names of commands and keywords may hold the prefix.

Main statement: `parameterPrefix_kept_out_iff`; `not_forall_parameterPrefix_kept_out` shows
a call whose names hold the prefix.
-/

import ChatCommands.Console.Host
import ChatCommands.Proofs.Grammar.Cutting
import ChatCommands.Proofs.Grammar.Line

namespace ChatCommands

open Text (inRanges isAlphanumeric isBasic isBlank isSingleWord isWord)

/-! ## Configurations without problems -/

namespace Config

variable {config : Config}

theorem commandPrefixProblems_eq_nil (valid : config.isValid = true) :
    commandPrefixProblems config.commandPrefix = [] := by
  rw [isValid, List.isEmpty_iff, problems] at valid
  simp only [List.append_eq_nil_iff] at valid
  rw [commandPrefix]
  cases configured : config.ux?.bind UxSection.commandPrefix? with
  | none => decide +kernel
  | some mark =>
      rw [configured] at valid
      exact valid.1.1.1

theorem parameterPrefixProblems_eq_nil (valid : config.isValid = true) :
    parameterPrefixProblems config.parameterPrefix = [] := by
  rw [isValid, List.isEmpty_iff, problems] at valid
  simp only [List.append_eq_nil_iff] at valid
  rw [parameterPrefix]
  cases configured : config.ux?.bind UxSection.parameterPrefix? with
  | none => decide +kernel
  | some mark =>
      rw [configured] at valid
      exact valid.1.1.2

/-- The name of a shortcut, its command and its keyword are words. -/
theorem isSingleWord_value (valid : config.isValid = true) {shortcut : Shortcut}
    (listed : shortcut ∈ config.shortcuts) (field : ShortcutField) :
    isSingleWord (field.value shortcut) = true := by
  rw [isValid, List.isEmpty_iff, problems, List.append_eq_nil_iff] at valid
  obtain ⟨place, here⟩ := List.mem_iff_getElem?.mp listed
  have sound := List.flatMap_eq_nil_iff.mp valid.2 (shortcut, place)
    (List.mk_mem_zipIdx_iff_getElem?.mpr here)
  have known : field ∈ ShortcutField.all := by cases field <;> decide
  by_contra wrong
  have silent := List.filterMap_eq_nil_iff.mp sound field known
  simp only [wrong] at silent
  cases silent

/-- The marks of a configuration without problems are those of a host's language. -/
theorem isStandard_grammarOf (valid : config.isValid = true) :
    (Console.grammarOf config).IsStandard where
  commandPrefix := commandPrefixProblems_eq_nil valid
  parameterPrefix := parameterPrefixProblems_eq_nil valid
  filters := rfl

end Config

/-! ## The names in a call -/

/-- A character occurs neither in the name of the command nor in that of a keyword. -/
def Invocation.KeepsOut (invocation : Invocation) (c : Char) : Prop :=
  c ∉ invocation.command.toList ∧ ∀ name ∈ invocation.keywords.keys, c ∉ name.toList

namespace Grammar

variable {grammar : Grammar}

/-- The names of keywords are made of word characters. -/
theorem isWord_of_mem_keywordsOf (isMark : IsMark grammar.parameterPrefix.toList)
    {rest : List Char} {name : String} (listed : name ∈ (grammar.keywordsOf rest).keys) :
    ∀ c ∈ name.toList, isWord c = true := by
  rw [keywordsOf_eq_cut grammar isMark, OrderedMap.ofList, OrderedMap.mem_keys_insertAll] at listed
  have kept := listed.resolve_right List.not_mem_nil
  rw [keptArguments, List.map_map, List.mem_map] at kept
  obtain ⟨part, -, rfl⟩ := kept
  intro c member
  rw [Function.comp_apply, String.toList_ofList] at member
  exact List.mem_takeWhile_imp member

/-- Without shortcuts the names in a call hold nothing but word characters. -/
theorem keepsOut_of_parse (isMark : IsMark grammar.parameterPrefix.toList)
    (plain : grammar.shortcuts = []) {text : String} {invocation : Invocation}
    (parsed : grammar.parse text = .ok invocation) {c : Char} (other : isWord c = false) :
    invocation.KeepsOut c := by
  have notShortcut : ∀ command, grammar.shortcut? command = none := by
    intro command
    rw [shortcut?, plain, List.find?_nil]
  have outside : ∀ {name : String}, (∀ d ∈ name.toList, isWord d = true) → c ∉ name.toList := by
    intro name all member
    rw [all c member] at other
    cases other
  rw [parse] at parsed
  split at parsed
  · cases parsed
  · next command rest found =>
    simp only [notShortcut] at parsed
    obtain rfl := Except.ok.inj parsed
    have word := isSingleWord_of_commandWord? found
    exact ⟨outside (Text.isSingleWord_iff.mp word).2,
      fun name listed => outside (isWord_of_mem_keywordsOf isMark listed)⟩

/-- Without shortcuts every word is the name of a command in some call. -/
theorem exists_parse_command (standard : grammar.IsStandard) (plain : grammar.shortcuts = [])
    {command : String} (word : isSingleWord command = true) :
    ∃ text invocation, grammar.parse text = .ok invocation ∧ invocation.command = command := by
  have notShortcut : grammar.shortcut? command = none := by
    rw [shortcut?, plain, List.find?_nil]
  exact ⟨grammar.line command .empty, _,
    parse_line standard word notShortcut nofun ⟨nofun, nofun, nofun⟩, rfl⟩

end Grammar

/-! ## The parameter prefix -/

/-- A word character that is neither a letter, a numeral nor the underscore: a combining mark,
another connector or a join control. -/
def Text.isWordSign (c : Char) : Bool :=
  !isBasic c && (inRanges Property.mark c || inRanges connectorRanges c ||
    inRanges joinControlRanges c)

theorem exists_singleton_of_parameterPrefixProblems {mark : String}
    (accepted : parameterPrefixProblems mark = []) :
    ∃ c, mark = String.singleton c ∧ isAlphanumeric c = false ∧ c ≠ '_' := by
  unfold parameterPrefixProblems at accepted
  split at accepted
  · next c single =>
    split at accepted
    · cases accepted
    · next plain =>
      simp only [Bool.or_eq_true, not_or, Bool.not_eq_true, beq_eq_false_iff_ne] at plain
      refine ⟨c, ?_, plain.1.1, plain.1.2⟩
      rw [← String.toList_inj, single, String.toList_singleton]
  · cases accepted

/-- The word characters that are accepted as a parameter prefix. -/
theorem Text.isWord_eq_isWordSign {c : Char} (other : isAlphanumeric c = false)
    (notUnderscore : c ≠ '_') : isWord c = isWordSign c := by
  rw [isAlphanumeric] at other
  rw [isWord, isWordSign]
  cases basic : isBasic c with
  | true =>
      rw [basic, if_pos rfl] at other
      simp [other, notUnderscore]
  | false =>
      rw [basic, if_neg Bool.false_ne_true, Bool.or_eq_false_iff, Bool.or_eq_false_iff,
        Bool.or_eq_false_iff] at other
      obtain ⟨⟨⟨notLetter, notDigit⟩, -⟩, -⟩ := other
      simp [notLetter, notDigit]

namespace Console

variable {π : Type} [Plugin π]

/-- The parameter prefix of a configuration without problems and without shortcuts is a single
character. It occurs in no name in a call exactly if it is not a word character, and the word
characters it can be are combining marks, connectors and join controls. -/
theorem parameterPrefix_kept_out_iff (files : FileTree) (catalog : Catalog π) {config : Config}
    (valid : config.isValid = true) (plain : config.shortcuts = []) :
    let grammar := (buildDispatcher files config catalog).2.grammar
    ∃ mark, config.parameterPrefix = String.singleton mark ∧
      ((∀ text invocation, grammar.parse text = .ok invocation → invocation.KeepsOut mark) ↔
        isWord mark = false) ∧
      isWord mark = Text.isWordSign mark := by
  intro grammar
  have standard : grammar.IsStandard := Config.isStandard_grammarOf valid
  have isMark := isMark_of_parameterPrefixProblems standard.parameterPrefix
  obtain ⟨mark, single, other, notUnderscore⟩ :=
    exists_singleton_of_parameterPrefixProblems standard.parameterPrefix
  refine ⟨mark, single, ⟨fun keepsOut => ?_, fun other text invocation parsed => ?_⟩,
    Text.isWord_eq_isWordSign other notUnderscore⟩
  · rw [← Bool.not_eq_true]
    intro isWord
    -- A prefix that is a word character is itself the name of a command.
    have word : isSingleWord (String.singleton mark) = true := by
      rw [Text.isSingleWord_iff, String.toList_singleton]
      exact ⟨List.cons_ne_nil mark [], fun c member => List.mem_singleton.mp member ▸ isWord⟩
    obtain ⟨text, invocation, parsed, named⟩ :=
      Grammar.exists_parse_command standard plain word
    refine (keepsOut text invocation parsed).1 ?_
    rw [named, String.toList_singleton]
    exact List.mem_singleton_self mark
  · exact Grammar.keepsOut_of_parse isMark plain parsed other

/-- The middle dot is a mark beyond the basic characters that is kept out of all names. -/
theorem parameterPrefix_kept_out_middle_dot :
    let config : Config := { ux? := some { parameterPrefix? := some "·" } }
    let grammar := (buildDispatcher (.emptyAt ["home"]) config (Catalog.builtin id)).2.grammar
    config.isValid = true ∧ config.shortcuts = [] ∧
      ∀ text invocation, grammar.parse text = .ok invocation → invocation.KeepsOut '·' := by
  intro config grammar
  have valid : config.isValid = true := by decide +kernel
  obtain ⟨mark, single, keepsOut, -⟩ := parameterPrefix_kept_out_iff (.emptyAt ["home"])
    (Catalog.builtin id) valid rfl
  have chars : "·".toList = (String.singleton mark).toList := congrArg String.toList single
  obtain rfl : '·' = mark := by simpa using chars
  exact ⟨valid, rfl, keepsOut.mpr (by decide +kernel)⟩

/-- The undertie is accepted as a parameter prefix and read as part of a name. -/
theorem not_forall_parameterPrefix_kept_out :
    ¬∀ (files : FileTree) (config : Config) (catalog : Catalog Builtin) (mark : Char)
      (text : String) (invocation : Invocation),
      config.isValid = true → config.shortcuts = [] →
        config.parameterPrefix = String.singleton mark →
          (buildDispatcher files config catalog).2.grammar.parse text = .ok invocation →
            invocation.KeepsOut mark := by
  intro keepsOut
  let config : Config := { ux? := some { parameterPrefix? := some "‿" } }
  have names : ((grammarOf config).parse "/a‿b ‿c‿d x").toOption.map
      (fun invocation => (invocation.command, invocation.keywords.keys)) =
        some ("a‿b", ["c‿d"]) := by decide +kernel
  cases parsed : (grammarOf config).parse "/a‿b ‿c‿d x" with
  | error error =>
      rw [parsed] at names
      cases names
  | ok invocation =>
      rw [parsed] at names
      have kept := keepsOut (.emptyAt ["home"]) config (Catalog.builtin id) '‿' _ invocation
        (by decide +kernel) rfl rfl parsed
      obtain ⟨command, -⟩ := Prod.mk.inj (Option.some.inj names)
      refine kept.1 ?_
      rw [command]
      decide +kernel

end Console

end ChatCommands
