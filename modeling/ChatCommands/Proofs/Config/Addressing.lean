/-
# Addressing registered commands

Three places decide which names a command can have. A component registers only exposed
names, a message is read as far as word characters go, and a configuration checks the prefix
in front. They agree: every name that loading a directory leaves can be called, and a word
that is called could have been registered, unless it begins with an underscore.

The prefix may consist of word characters itself. It is matched before the word is read, so
it takes nothing from the name.

Main statement: `registered_addressable`.
-/

import ChatCommands.Proofs.Config.Shortcuts
import ChatCommands.Proofs.Snapshot.Loaded

namespace ChatCommands

open Text (AllBlank BlankFirst isSingleWord)

/-! ## Reading a name -/

namespace Grammar

variable {grammar : Grammar}

/-- A word after the command prefix is read as the name of a command, with any blanks in front
and, after another blank, any text behind. -/
theorem exists_commandWord?_around
    (visible : startsWithBlank grammar.commandPrefix.toList = false) {command : String}
    (word : isSingleWord command = true) {lead rest : List Char} (leading : AllBlank lead)
    (follows : BlankFirst rest) :
    ∃ after, grammar.commandWord? (Text.trim
      (lead ++ (grammar.commandPrefix.toList ++ (command.toList ++ rest)))) =
        some (command, after) := by
  rw [Text.trim, Text.trimStart_append leading, ← Text.trim]
  cases rest with
  | nil =>
      rw [List.append_nil, commandWord?_bare visible word]
      exact ⟨[], rfl⟩
  | cons c cs =>
      obtain ⟨gap, -, -, read⟩ := exists_gap_commandWord? visible word (follows c rfl) cs
      exact ⟨_, read⟩

/-- A call that expands no shortcut is of the word that was read. -/
theorem exists_commandWord?_of_not_expands {text : String} {invocation : Invocation}
    (parsed : grammar.parse text = .ok invocation)
    (plain : ¬∃ place, grammar.Expands text place) :
    ∃ rest, grammar.commandWord? (Text.trim text.toList) = some (invocation.command, rest) := by
  rw [parse] at parsed
  split at parsed
  · cases parsed
  · next name rest called =>
    split at parsed
    · next shortcut found =>
      exact absurd (exists_expands called found) plain
    · cases parsed
      exact ⟨rest, called⟩

end Grammar

theorem isExposedName_iff_of_isSingleWord {name : String} (word : isSingleWord name = true) :
    isExposedName name = true ↔ name.toList.head? ≠ some '_' := by
  rw [isExposedName, word, Bool.true_and, bne_iff_ne]

theorem isSingleWord_of_isExposedName {name : String} (exposed : isExposedName name = true) :
    isSingleWord name = true := by
  rw [isExposedName, Bool.and_eq_true] at exposed
  exact exposed.1

/-! ## Registered names -/

section

variable {π : Type} [Plugin π] (files : FileTree) (directory : String) (catalog : Catalog π)

/-- A name that loading a directory leaves is found, and it is exposed. -/
theorem exists_get_of_mem_commandNames {name : String}
    (registered : name ∈ (loadDirectory files directory catalog).2.commandNames) :
    ∃ found, (loadDirectory files directory catalog).2.get name = .ok found ∧
      found.command.name = name ∧ isExposedName name = true := by
  have built := isBuilt_loadDirectory files directory catalog
  have indexed := Snapshot.mem_commandNames.mp registered
  rw [snapshot_loadDirectory, Snapshot.mem_keys_index_insertAll_iff,
    ← Snapshot.isSome_lastExposing?_iff] at indexed
  obtain ⟨⟨package, component⟩, last⟩ := Option.isSome_iff_exists.mp indexed
  obtain ⟨command, -, -, success⟩ := Snapshot.get_insertAll
    (nodup_name_loadedPackages files directory catalog)
    (isBuilt_of_mem_loadedPackages files directory catalog) last
  rw [← snapshot_loadDirectory] at success
  exact ⟨_, success, (built.get_eq_ok success).2⟩

namespace Console

/-- With a configuration without problems, every name that loading a directory leaves is called
by the command prefix and the name, whatever blanks are around and whatever follows a blank,
unless a shortcut has the name; and it is found. A word that is called without a shortcut could
be registered exactly if it does not begin with an underscore. -/
theorem registered_addressable {config : Config} (valid : config.isValid = true) :
    let grammar := grammarOf config
    let snapshot := (loadDirectory files directory catalog).2
    (∀ name ∈ snapshot.commandNames,
      ((∀ shortcut ∈ config.shortcuts, shortcut.name ≠ name) →
        ∀ lead rest : String, AllBlank lead.toList → BlankFirst rest.toList →
          ∃ keywords,
            grammar.parse (lead ++ config.commandPrefix ++ name ++ rest) = .ok ⟨name, keywords⟩) ∧
      ∃ found, snapshot.get name = .ok found ∧ found.command.name = name) ∧
    ∀ text invocation, grammar.parse text = .ok invocation →
      (¬∃ place, grammar.Expands text place) →
        (isExposedName invocation.command = true ↔
          invocation.command.toList.head? ≠ some '_') := by
  intro grammar snapshot
  have standard : grammar.IsStandard := Config.isStandard_grammarOf valid
  have visible := startsWithBlank_of_commandPrefixProblems standard.commandPrefix
  refine ⟨fun name registered => ?_, fun text invocation parsed plain => ?_⟩
  · obtain ⟨found, success, named, exposed⟩ :=
      exists_get_of_mem_commandNames files directory catalog registered
    refine ⟨fun unshared lead rest leading follows => ?_, found, success, named⟩
    obtain ⟨after, called⟩ := Grammar.exists_commandWord?_around visible
      (isSingleWord_of_isExposedName exposed) leading follows
    have characters : (lead ++ config.commandPrefix ++ name ++ rest).toList =
        lead.toList ++ (grammar.commandPrefix.toList ++ (name.toList ++ rest.toList)) := by
      simp only [String.toList_append, List.append_assoc]
      rfl
    have notShortcut : grammar.shortcut? name = none := by
      rw [Grammar.shortcut?, List.find?_eq_none]
      intro shortcut listed same
      exact unshared shortcut listed (beq_iff_eq.mp same)
    refine ⟨grammar.keywordsOf after, ?_⟩
    rw [Grammar.parse, characters, called]
    simp only [notShortcut]
  · obtain ⟨rest, called⟩ := Grammar.exists_commandWord?_of_not_expands parsed plain
    exact isExposedName_iff_of_isSingleWord (Grammar.isSingleWord_of_commandWord? called)

/-- A prefix of word characters leaves the name whole, and blanks of any kind may stand around
the call. -/
theorem registered_addressable_word_prefix :
    let files := (FileTree.emptyAt ["home"]).write "p/alpha.json" (.file "\x7b\x7d".toUTF8)
    let catalog : Catalog Builtin := ⟨[⟨"alpha", "Echo", .ready .echo⟩]⟩
    let config : Config :=
      { ux? := some { commandPrefix? := some "bot" }, shortcuts := [⟨"say", "echo", "text"⟩] }
    let snapshot := (loadDirectory files "p" catalog).2
    config.isValid = true ∧ "echo" ∈ snapshot.commandNames ∧
      (∃ keywords, (grammarOf config).parse ("\t " ++ config.commandPrefix ++ "echo" ++
        "\u2003bot echo\n") = .ok ⟨"echo", keywords⟩) ∧
      ∃ found, snapshot.get "echo" = .ok found ∧ found.command.name = "echo" := by
  intro files catalog config snapshot
  have valid : config.isValid = true := by decide +kernel
  have paths : manifestPaths files "p" = ["p/alpha.json"] := by
    rw [manifestPaths_eq ["alpha.json"] (by decide +kernel) (by decide +kernel) (by decide +kernel)]
    decide +kernel
  have registered : "echo" ∈ snapshot.commandNames := by
    rw [Snapshot.mem_commandNames]
    simp only [snapshot]
    rw [loadDirectory, paths]
    decide +kernel
  obtain ⟨called, found⟩ := (registered_addressable files "p" catalog valid).1 "echo" registered
  have unshared : ∀ shortcut ∈ config.shortcuts, shortcut.name ≠ "echo" := by decide
  exact ⟨valid, registered,
    called unshared "\t " "\u2003bot echo\n" (by decide +kernel) (by decide +kernel), found⟩

end Console

end

end ChatCommands
