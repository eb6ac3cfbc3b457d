/-
# Warnings about shortcuts

A shortcut whose name an earlier one has can never be called: a call looks for the first
shortcut of its name. It could stand for anything and no text would be read differently. Every
other shortcut can be called, because its name is a word and a word after the command prefix is
read whole, and it is then read as its command with what follows the name. The warnings of a
configuration tell the two kinds apart, and their paths tell the shortcuts apart.

Main statement: `exists_expands_iff_not_warned`.
-/

import ChatCommands.Proofs.Config.Language
import ChatCommands.Proofs.Grammar.Expansion

namespace ChatCommands

/-! ## Warnings -/

namespace Config

/-- A shortcut is warned of if its name is among those seen before or an earlier one has it. -/
theorem mem_repeatedShortcuts_iff {seen : List String} {start : Nat} {shortcuts : List Shortcut}
    {warning : ConfigWarning} :
    warning ∈ repeatedShortcuts seen start shortcuts ↔
      ∃ place, ∃ inside : place < shortcuts.length,
        shortcuts[place].name ∈ seen ++ (shortcuts.take place).map Shortcut.name ∧
          warning = .repeatedShortcut (start + place) shortcuts[place].name := by
  -- The head joins the names seen before, so both they and the start vary.
  induction shortcuts generalizing seen start with
  | nil =>
      refine ⟨nofun, ?_⟩
      rintro ⟨place, inside, -⟩
      cases inside
  | cons shortcut rest ih =>
      have here : warning ∈ repeatedShortcuts seen start (shortcut :: rest) ↔
          shortcut.name ∈ seen ∧ warning = .repeatedShortcut start shortcut.name ∨
            warning ∈ repeatedShortcuts (shortcut.name :: seen) (start + 1) rest := by
        rw [repeatedShortcuts]
        by_cases known : shortcut.name ∈ seen
        · simp [known]
        · simp [known]
      rw [here, ih]
      constructor
      · rintro (⟨known, rfl⟩ | ⟨place, inside, repeated, rfl⟩)
        · exact ⟨0, Nat.succ_pos _, by simpa using known, rfl⟩
        · refine ⟨place + 1, Nat.succ_lt_succ inside, ?_, ?_⟩
          · simpa [or_left_comm] using repeated
          · simp [Nat.add_right_comm, Nat.add_assoc]
      · rintro ⟨place, inside, repeated, rfl⟩
        cases place with
        | zero => exact .inl ⟨by simpa using repeated, rfl⟩
        | succ place =>
            refine .inr ⟨place, Nat.lt_of_succ_lt_succ inside, ?_, ?_⟩
            · simpa [or_left_comm] using repeated
            · simp [Nat.add_comm 1, Nat.add_assoc]

theorem repeatedShortcut_mem_warnings_iff (files : FileTree) (config : Config) {place : Nat}
    {name : String} :
    .repeatedShortcut place name ∈ config.warnings files ↔
      .repeatedShortcut place name ∈ repeatedShortcuts [] 0 config.shortcuts := by
  have prefixes : ∀ ux, .repeatedShortcut place name ∉ equalPrefixWarnings ux := by
    intro ux member
    unfold equalPrefixWarnings at member
    split at member
    · cases member
    · split at member <;> simp at member
  have directory : ∀ ux, .repeatedShortcut place name ∉ componentsWarnings files ux := by
    intro ux member
    unfold componentsWarnings at member
    split at member
    · cases member
    · split at member <;> simp at member
  have level : ∀ level, .repeatedShortcut place name ∉ logLevelWarnings level := by
    intro level member
    unfold logLevelWarnings at member
    split at member <;> simp at member
  have absent : ∀ {α : Type} {check : α → List ConfigWarning} (field? : Option α),
      (∀ value, .repeatedShortcut place name ∉ check value) →
        .repeatedShortcut place name ∉ (field?.map check).getD [] := by
    intro α check field? never
    cases field? with
    | none => exact List.not_mem_nil
    | some value => exact never value
  rw [warnings, List.mem_append, List.mem_append, List.mem_append]
  simp only [absent _ prefixes, absent _ directory, absent _ level, false_or]

end Config

theorem shortcutPath_injective : Function.Injective shortcutPath := by
  intro first second same
  have digits : first.repr = second.repr :=
    (String.append_right_inj _).mp ((String.append_left_inj _).mp same)
  have read := congrArg (fun text : String => Nat.ofDigitChars 10 text.toList 0) digits
  simpa only [Nat.toList_repr, Nat.ofDigitChars_ten_toDigits] using read

/-- The path of a warning tells whether it is about a shortcut and about which. -/
theorem ConfigWarning.path_eq_iff {warning : ConfigWarning} {place : Nat} :
    warning.path = shortcutPath place ++ ".name" ↔
      ∃ name, warning = .repeatedShortcut place name := by
  have spelled : shortcutPath place = "shortcuts[" ++ place.repr ++ "]" := rfl
  have first : (shortcutPath place ++ ".name").toList.head? = some 's' := by
    simp [spelled]
  have elsewhere : ∀ other : String, other.toList.head? ≠ some 's' →
      other ≠ shortcutPath place ++ ".name" := by
    intro other different same
    rw [same] at different
    exact different first
  cases warning with
  | equalPrefixes => exact iff_of_false (elsewhere "ux.parameterPrefix" (by decide +kernel)) nofun
  | noComponents => exact iff_of_false (elsewhere "ux.components" (by decide +kernel)) nofun
  | unknownLogLevel => exact iff_of_false (elsewhere "logging.level" (by decide +kernel)) nofun
  | repeatedShortcut index name =>
    have suffix : ("." ++ ShortcutField.name.key : String) = ".name" := rfl
    rw [path, String.append_assoc, suffix, String.append_left_inj, shortcutPath_injective.eq_iff]
    simp

/-- The name of a shortcut is warned of exactly if an earlier shortcut has it. -/
theorem Config.exists_warning_iff (files : FileTree) {config : Config} {place : Nat}
    (inside : place < config.shortcuts.length) :
    (∃ warning ∈ config.warnings files, warning.path = shortcutPath place ++ ".name") ↔
      config.shortcuts[place].name ∈ (config.shortcuts.take place).map Shortcut.name := by
  constructor
  · rintro ⟨warning, warned, about⟩
    obtain ⟨name, rfl⟩ := ConfigWarning.path_eq_iff.mp about
    rw [repeatedShortcut_mem_warnings_iff, mem_repeatedShortcuts_iff] at warned
    obtain ⟨index, _, repeated, same⟩ := warned
    rw [Nat.zero_add, ConfigWarning.repeatedShortcut.injEq] at same
    obtain ⟨rfl, -⟩ := same
    exact repeated
  · intro repeated
    refine ⟨.repeatedShortcut place config.shortcuts[place].name, ?_,
      ConfigWarning.path_eq_iff.mpr ⟨_, rfl⟩⟩
    rw [repeatedShortcut_mem_warnings_iff, mem_repeatedShortcuts_iff]
    exact ⟨place, inside, repeated, by rw [Nat.zero_add]⟩

namespace Console

variable {π : Type} [Plugin π]

/-- A host can be made to expand a shortcut of a configuration without problems exactly if no
warning is about the name of the shortcut; and then every text that calls the name expands it. An
expanded shortcut is read as its command with what follows the name, its mentions reduced, as the
value of its keyword, or without a keyword if nothing follows. What a shortcut stands for whose
name is warned of makes no difference to any text. -/
theorem exists_expands_iff_not_warned (files : FileTree) (catalog : Catalog π) {config : Config}
    (valid : config.isValid = true) {place : Nat} (inside : place < config.shortcuts.length) :
    let grammar := (buildDispatcher files config catalog).2.grammar
    let shortcut := config.shortcuts[place]
    let warned := ∃ warning ∈ config.warnings files, warning.path = shortcutPath place ++ ".name"
    ((∃ text, grammar.Expands text place) ↔ ¬warned) ∧
    (∀ text, grammar.Expands text place ↔ ¬warned ∧ ∃ rest, grammar.Calls text shortcut.name rest) ∧
    (∀ text rest, grammar.Expands text place → grammar.Calls text shortcut.name rest →
      grammar.parse text = .ok ⟨shortcut.command,
        Grammar.single shortcut.parameter (Grammar.reduceMentions (Text.trimmed rest))⟩) ∧
    (warned → ∀ text command parameter,
      (grammar.withShortcut place ⟨shortcut.name, command, parameter⟩).parse text =
        grammar.parse text) := by
  intro grammar shortcut warned
  have standard : grammar.IsStandard := Config.isStandard_grammarOf valid
  have here : grammar.shortcuts[place]? = some shortcut := List.getElem?_eq_getElem inside
  have repeated : warned ↔ shortcut.name ∈ (grammar.shortcuts.take place).map Shortcut.name :=
    Config.exists_warning_iff files inside
  have expands_iff : ∀ text, grammar.Expands text place ↔
      ¬warned ∧ ∃ rest, grammar.Calls text shortcut.name rest := by
    intro text
    rw [grammar.expands_iff here, repeated]
  refine ⟨⟨fun ⟨text, expands⟩ => ((expands_iff text).mp expands).1, fun unwarned => ?_⟩,
    expands_iff, fun text rest expands calls => ?_, fun warned => ?_⟩
  · -- Nothing but the check of its name is needed for a shortcut to be callable.
    have word := Config.isSingleWord_value valid (List.getElem_mem inside) .name
    obtain ⟨text, rest, calls⟩ := Grammar.exists_calls
      (startsWithBlank_of_commandPrefixProblems standard.commandPrefix) word
    exact ⟨text, (expands_iff text).mpr ⟨unwarned, rest, calls⟩⟩
  · rw [expands.parse_eq here calls, Grammar.filtered_eq_reduceMentions standard.filters]
  · intro text command parameter
    exact Grammar.parse_withShortcut_of_repeated here (repeated.mp warned) command parameter text

/-- The third shortcut has the name of the first one: it is warned of and could stand for
anything. The one in between has the command of the third one and is not warned of; a text that
calls it is read as its command, with the rest of the text under its keyword. -/
theorem exists_expands_iff_not_warned_third :
    let config : Config :=
      { ux? := some { commandPrefix? := some "bot" }
        shortcuts := [⟨"say", "echo", "text"⟩, ⟨"ask", "poll", "title"⟩, ⟨"say", "poll", "title"⟩] }
    let files := FileTree.emptyAt ["home"]
    let grammar := (buildDispatcher files config (Catalog.builtin id)).2.grammar
    config.isValid = true ∧ 1 < config.shortcuts.length ∧ 2 < config.shortcuts.length ∧
      (config.warnings files).map ConfigWarning.path = ["shortcuts[2].name"] ∧
      grammar.Expands "\tbotask: Who -limit 3 <@!7>? " 1 ∧
      grammar.parse "\tbotask: Who -limit 3 <@!7>? " =
        .ok ⟨"poll", .ofList [("title", ": Who -limit 3 7?")]⟩ ∧
      (¬∃ text, grammar.Expands text 2) ∧
      (grammar.withShortcut 2 ⟨"say", "stop", "all"⟩).parse "botsay hello" =
        grammar.parse "botsay hello" := by
  intro config files grammar
  have valid : config.isValid = true := by decide +kernel
  have second : 1 < config.shortcuts.length := by decide
  have third : 2 < config.shortcuts.length := by decide
  obtain ⟨-, expands_iff, parse_eq, -⟩ :=
    exists_expands_iff_not_warned files (Catalog.builtin id) valid second
  obtain ⟨never, -, -, unchanged⟩ :=
    exists_expands_iff_not_warned files (Catalog.builtin id) valid third
  have calls : grammar.Calls "\tbotask: Who -limit 3 <@!7>? " "ask" ": Who -limit 3 <@!7>?" :=
    ⟨by decide +kernel, by decide +kernel, by decide +kernel⟩
  have expands : grammar.Expands "\tbotask: Who -limit 3 <@!7>? " 1 :=
    (expands_iff _).mpr ⟨by decide +kernel, _, calls⟩
  refine ⟨valid, second, third, by decide +kernel, expands, ?_, ?_, ?_⟩
  · have keywords : Grammar.single "title"
        (Grammar.reduceMentions (Text.trimmed ": Who -limit 3 <@!7>?")) =
          .ofList [("title", ": Who -limit 3 7?")] := OrderedMap.ext (by decide +kernel)
    rw [parse_eq _ _ expands calls, ← keywords]
    rfl
  · rw [never]
    decide +kernel
  · exact unchanged (by decide +kernel) "botsay hello" "stop" "all"

end Console

end ChatCommands
