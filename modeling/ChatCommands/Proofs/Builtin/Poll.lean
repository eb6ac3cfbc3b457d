/-
# What a poll makes of its options

The options of a poll are what stands between the commas of a text, without the blanks around
it. However a list of options is joined by commas, with blanks around the options and with blank
stretches before, between or behind them, the poll lists exactly these options, in their order
and as they are written. What decides whether a poll is started is the number of stretches that
are not blank.

Main statement: `invoke_keeps_options`.
-/

import ChatCommands.Builtin.Poll
import ChatCommands.Proofs.Text.Blank

namespace ChatCommands.Poll

open Text (AllBlank IsTrimmed)

/-- An option that can be told from a text with commas. -/
structure IsOption (option : String) : Prop where
  nonempty : option ≠ ""
  trimmed : IsTrimmed option.toList
  unparted : ',' ∉ option.toList

/-- Stretches of text hold options in their order: every stretch is blank or an option with
blanks around it. -/
inductive Hold : List String → List String → Prop where
  | nil : Hold [] []
  | blank {stretch : String} {stretches options : List String}
      (blank : AllBlank stretch.toList) (rest : Hold stretches options) :
      Hold (stretch :: stretches) options
  | option {lead option trail : String} {stretches options : List String}
      (leading : AllBlank lead.toList) (isOption : IsOption option)
      (trailing : AllBlank trail.toList) (rest : Hold stretches options) :
      Hold ((lead ++ option ++ trail) :: stretches) (option :: options)

/-- How many of the stretches between the commas of a text are not blank. -/
def heldCount (text : String) : Nat :=
  (text.toList.splitOn ',').countP fun stretch => ¬AllBlank stretch

/-- The regional indicator letters. -/
def indicators : List Char :=
  ['🇦', '🇧', '🇨', '🇩', '🇪', '🇫', '🇬', '🇭', '🇮', '🇯', '🇰', '🇱', '🇲',
    '🇳', '🇴', '🇵', '🇶', '🇷', '🇸', '🇹', '🇺', '🇻', '🇼', '🇽', '🇾', '🇿']

variable {stretches opts : List String}

/-! ## Reading options -/

theorem betweenCommas_eq_splitOn (cs : List Char) : betweenCommas cs = cs.splitOn ',' := by
  induction cs with
  | nil => rfl
  | cons c rest ih =>
      rw [betweenCommas, List.splitOn_cons_eq_if_modifyHead, ih]
      by_cases comma : c = ','
      · simp [comma]
      · obtain ⟨first, others, same⟩ := List.exists_cons_of_ne_nil (List.splitOn_ne_nil ',' rest)
        simp [comma, same]

/-- What is not blank in stretches of text, trimmed. -/
def trimmedParts (stretches : List (List Char)) : List (List Char) :=
  (stretches.map Text.trim).filter fun part => !part.isEmpty

theorem options_eq (text : String) :
    options text = (trimmedParts (text.toList.splitOn ',')).map String.ofList := by
  rw [options, betweenCommas_eq_splitOn]
  rfl

theorem length_options (text : String) : (options text).length = heldCount text := by
  rw [options_eq, List.length_map, trimmedParts, ← List.countP_eq_length_filter, List.countP_map,
    heldCount]
  refine List.countP_congr fun stretch _ => ?_
  simp [Text.trim_eq_nil_iff]

theorem Hold.comma_not_mem (hold : Hold stretches opts) :
    ∀ stretch ∈ stretches.map String.toList, ',' ∉ stretch := by
  have solid : Text.isBlank ',' = false := by decide
  induction hold with
  | nil => exact fun _ member => nomatch member
  | blank blank _ ih =>
      rw [List.map_cons, List.forall_mem_cons]
      exact ⟨blank.not_mem solid, ih⟩
  | option leading isOption trailing _ ih =>
      rw [List.map_cons, List.forall_mem_cons]
      refine ⟨?_, ih⟩
      simp [leading.not_mem solid, isOption.unparted, trailing.not_mem solid]

theorem Hold.trimmedParts_eq (hold : Hold stretches opts) :
    trimmedParts (stretches.map String.toList) = opts.map String.toList := by
  induction hold with
  | nil => rfl
  | blank blank _ ih =>
      rw [trimmedParts, List.map_cons, List.map_cons, Text.trim_eq_nil_iff.mpr blank]
      exact ih
  | option leading isOption trailing _ ih =>
      have kept := Text.trim_append_append leading isOption.trimmed trailing
      rw [← List.append_assoc, ← String.toList_append, ← String.toList_append] at kept
      rw [trimmedParts, List.map_cons, List.map_cons, kept,
        List.filter_cons_of_pos (by simpa using isOption.nonempty)]
      exact congrArg _ ih

/-- The options are read back from the stretches that hold them. -/
theorem options_intercalate (hold : Hold stretches opts) (nonempty : opts ≠ []) :
    options (String.intercalate "," stretches) = opts := by
  have some : stretches.map String.toList ≠ [] := by
    cases hold with
    | nil => exact absurd rfl nonempty
    | blank _ _ => exact List.cons_ne_nil _ _
    | option _ _ _ _ => exact List.cons_ne_nil _ _
  have comma : ",".toList = [','] := rfl
  rw [options_eq, String.toList_intercalate, comma,
    List.splitOn_intercalate ',' hold.comma_not_mem some, hold.trimmedParts_eq, List.map_map]
  simp

/-! ## Starting a poll -/

theorem getElem?_indicators {index : Nat} (few : index < 26) :
    indicators[index]? = some (marker index) := by
  revert index
  decide +kernel

theorem start_of_length {title? description? : Option String} (some : 0 < opts.length)
    (few : opts.length ≤ greatestCount) :
    start title? description? opts = .say (pollText title? description? opts) := by
  rw [start, if_neg (by simpa using List.ne_nil_of_length_pos some), if_neg (Nat.not_lt.mpr few)]

theorem start_of_greatestCount_lt {title? description? : Option String}
    (many : greatestCount < opts.length) :
    start title? description? opts =
      .fail s!"A poll supports at most {greatestCount} options ({opts.length} given)." := by
  have nonempty := List.ne_nil_of_length_pos (Nat.zero_lt_of_lt many)
  rw [start, if_neg (by simpa using nonempty), if_pos many]

theorem start_fails_iff {title? description? : Option String} :
    (∃ error, (start title? description? opts).ending = .failure error) ↔
      opts.length = 0 ∨ greatestCount < opts.length := by
  by_cases none : opts.length = 0
  · obtain rfl := List.eq_nil_of_length_eq_zero none
    exact iff_of_true ⟨_, rfl⟩ (.inl rfl)
  by_cases many : greatestCount < opts.length
  · rw [start_of_greatestCount_lt many]
    exact iff_of_true ⟨_, rfl⟩ (.inr many)
  · rw [start_of_length (Nat.pos_of_ne_zero none) (Nat.le_of_not_lt many)]
    exact iff_of_false (fun ⟨_, same⟩ => nomatch same) (fun either => either.elim none many)

/-- A poll whose text holds one to eight options says the title, the description, if there is
one, and one entry for each option: a regional indicator letter of its own, a space and the
option. A poll fails exactly if the text holds no option or more than eight, and says how many
these are. -/
theorem invoke_keeps_options {π : Type} (command : String) (arguments : Arguments π)
    {text : String} (given : arguments.text? "options" = some text) :
    (∀ stretches options, Hold stretches options → text = String.intercalate "," stretches →
      1 ≤ options.length → options.length ≤ 8 →
        ∃ entries : List String,
          invoke command arguments = .say (String.intercalate "\n"
            (("**" ++ (arguments.text? "title").getD "Poll" ++ "**") ::
              (arguments.text? "description").toList ++ entries)) ∧
          entries.length = options.length ∧
          ∀ (index : Nat) (option : String), options[index]? = some option → ∃ letter,
            indicators[index]? = some letter ∧
              entries[index]? = some (String.singleton letter ++ " " ++ option)) ∧
    indicators.Nodup ∧
    ((∃ error, (invoke command arguments).ending = .failure error) ↔
      heldCount text = 0 ∨ 8 < heldCount text) ∧
    (8 < heldCount text →
      invoke command arguments =
        .fail s!"A poll supports at most 8 options ({heldCount text} given).") := by
  have invoked : invoke command arguments =
      start (arguments.text? "title") (arguments.text? "description") (options text) := by
    rw [invoke, Arguments.requireText, given]
    rfl
  rw [invoked]
  refine ⟨?_, by decide +kernel, ?_, ?_⟩
  · rintro stretches opts hold rfl some few
    rw [options_intercalate hold (List.ne_nil_of_length_pos some), start_of_length some few]
    refine ⟨_, rfl, by simp, fun index option there => ?_⟩
    obtain ⟨inside, -⟩ := List.getElem?_eq_some_iff.mp there
    refine ⟨marker index, getElem?_indicators (by omega), ?_⟩
    simp [there, optionLine]
  · rw [start_fails_iff, length_options]
    rfl
  · intro many
    rw [start_of_greatestCount_lt (by rwa [length_options]), length_options]
    rfl

/-- Blank stretches stand between and behind the options; nine options are too many. -/
theorem invoke_keeps_options_lunch :
    let text := " pizza,,\ttacos , "
    let arguments : Arguments Unit :=
      .ofList "poll" [("options", .text text), ("title", .text "Lunch?")]
    let letters := "a,b,c,d,e,f,g,h,i"
    let crowded : Arguments Unit := .ofList "poll" [("options", .text letters)]
    arguments.text? "options" = some text ∧
      Hold [" pizza", "", "\ttacos ", " "] ["pizza", "tacos"] ∧
      text = String.intercalate "," [" pizza", "", "\ttacos ", " "] ∧
      invoke "poll" arguments = .say "**Lunch?**\n🇦 pizza\n🇧 tacos" ∧
      crowded.text? "options" = some letters ∧ heldCount letters = 9 ∧
      invoke "poll" crowded = .fail "A poll supports at most 8 options (9 given)." := by
  intro text arguments letters crowded
  have hold : Hold [" pizza", "", "\ttacos ", " "] ["pizza", "tacos"] := by
    have pizza : IsOption "pizza" := ⟨by decide, by decide +kernel, by decide⟩
    have tacos : IsOption "tacos" := ⟨by decide, by decide +kernel, by decide⟩
    have last : Hold [" "] [] := .blank (by decide +kernel) .nil
    have second : Hold ["\t" ++ "tacos" ++ " ", " "] ["tacos"] :=
      .option (by decide +kernel) tacos (by decide +kernel) last
    have first : Hold [" " ++ "pizza" ++ "", "", "\ttacos ", " "] ["pizza", "tacos"] :=
      .option (by decide +kernel) pizza (by decide +kernel) (.blank (by decide +kernel) second)
    exact first
  have given : arguments.text? "options" = some text := by decide
  have tooMany : crowded.text? "options" = some letters := by decide
  obtain ⟨lists, -⟩ := invoke_keeps_options "poll" arguments given
  obtain ⟨entries, said, length, entry⟩ := lists _ _ hold (by decide) (by decide) (by decide)
  obtain ⟨-, -, -, refuses⟩ := invoke_keeps_options "poll" crowded tooMany
  have listed : entries = ["🇦 pizza", "🇧 tacos"] := by
    obtain ⟨_, letter, first⟩ := entry 0 "pizza" rfl
    obtain rfl := Option.some.inj letter
    obtain ⟨_, letter, second⟩ := entry 1 "tacos" rfl
    obtain rfl := Option.some.inj letter
    match entries, length with
    | [one, two], _ =>
        rw [Option.some.inj first, Option.some.inj second]
        decide +kernel
  rw [listed] at said
  have held : heldCount letters = 9 := by decide +kernel
  rw [held] at refuses
  exact ⟨given, hold, by decide, said.trans (by decide), tooMany, held, refuses (by decide)⟩

end ChatCommands.Poll
