/-
# Finding the keywords of a call

How the scan for keywords goes through a text. A mark opens a keyword where it is
followed by a word character and stands at the start or after a blank. The scan passes
over a stretch in which no mark opens, character by character, and takes the blank, the
mark and the word of a keyword in one step. Since a mark holds no blank, whether one
opens in a stretch does not depend on what comes after the next blank.
-/

import ChatCommands.Grammar
import ChatCommands.Proofs.Text.Blank

namespace ChatCommands.Grammar

open Text (AllBlank BlankFirst Piece WordEnds isBlank isWord piecesFrom)

/-! ## Marks -/

/-- A mark that can be told from the blanks around it. -/
structure IsMark (mark : List Char) : Prop where
  nonempty : mark ≠ []
  solid : ∀ c ∈ mark, isBlank c = false

instance (mark : List Char) : Decidable (IsMark mark) :=
  decidable_of_iff (mark ≠ [] ∧ mark.any isBlank = false) <| by
    rw [List.any_eq_false]
    simp only [Bool.not_eq_true]
    exact ⟨fun both => ⟨both.1, both.2⟩, fun isMark => ⟨isMark.nonempty, isMark.solid⟩⟩

/-- A mark that is followed by a word character opens a keyword. -/
def OpensMark (mark cs : List Char) : Prop :=
  ∃ c rest, cs = mark ++ c :: rest ∧ isWord c = true

/-- A mark opens at the start of a text or after one of its blanks. -/
def HoldsMark (mark cs : List Char) : Prop :=
  ∃ before after, cs = before ++ after ∧ (∀ c ∈ before.getLast?, isBlank c = true) ∧
    OpensMark mark after

/-- No mark opens after a blank of a stretch. -/
def Quiet (mark cs : List Char) : Prop :=
  ∀ before c after, cs = before ++ c :: after → isBlank c = true → ¬OpensMark mark after

instance decidableOpensMark (mark cs : List Char) : Decidable (OpensMark mark cs) :=
  decidable_of_iff
    ((Text.after? mark cs).any (fun rest => rest.head?.any isWord) = true) <| by
    constructor
    · intro opens
      obtain ⟨rest, found, first⟩ := (Option.any_eq_true _ _).mp opens
      obtain ⟨c, head, word⟩ := (Option.any_eq_true _ _).mp first
      cases rest with
      | nil => cases head
      | cons d rest =>
          cases head
          exact ⟨c, rest, Text.after?_eq_some_iff.mp found, word⟩
    · rintro ⟨c, rest, found, word⟩
      rw [Text.after?_eq_some_iff.mpr found]
      exact word

theorem IsMark.head_of_opensMark {mark cs : List Char} (isMark : IsMark mark)
    (opens : OpensMark mark cs) : ∃ c rest, cs = c :: rest ∧ isBlank c = false := by
  obtain ⟨nonempty, solid⟩ := isMark
  obtain ⟨c, rest, rfl, -⟩ := opens
  cases mark with
  | nil => exact absurd rfl nonempty
  | cons first mark => exact ⟨first, mark ++ c :: rest, rfl, solid first (by simp)⟩

theorem OpensMark.append {mark cs : List Char} (opens : OpensMark mark cs) (tail : List Char) :
    OpensMark mark (cs ++ tail) := by
  obtain ⟨c, rest, rfl, word⟩ := opens
  exact ⟨c, rest ++ tail, by rw [List.append_assoc, List.cons_append], word⟩

/-- A mark that opens is followed by a word, which ends somewhere. -/
theorem OpensMark.exists_word {mark cs : List Char} (opens : OpensMark mark cs) :
    ∃ word rest, cs = mark ++ (word ++ rest) ∧ word ≠ [] ∧ (∀ c ∈ word, isWord c = true) ∧
      WordEnds rest := by
  obtain ⟨c, rest, rfl, first⟩ := opens
  refine ⟨(c :: rest).takeWhile isWord, (c :: rest).dropWhile isWord, ?_, ?_, ?_,
    Text.wordEnds_dropWhile _⟩
  · rw [List.takeWhile_append_dropWhile]
  · rw [List.takeWhile_cons, first]
    exact List.cons_ne_nil _ _
  · exact fun d member => List.mem_takeWhile_imp member

theorem IsMark.not_opensMark_of_blankFirst {mark cs : List Char} (isMark : IsMark mark)
    (first : BlankFirst cs) : ¬OpensMark mark cs := by
  intro opens
  obtain ⟨c, rest, rfl, solid⟩ := isMark.head_of_opensMark opens
  rw [first c rfl] at solid
  cases solid

theorem IsMark.not_opensMark_nil {mark : List Char} (isMark : IsMark mark) :
    ¬OpensMark mark [] :=
  isMark.not_opensMark_of_blankFirst Text.blankFirst_nil

/-- A mark that opens before a blank opens whatever comes after it. -/
theorem IsMark.opensMark_of_append {mark cs tail : List Char} (isMark : IsMark mark)
    (follows : BlankFirst tail) (opens : OpensMark mark (cs ++ tail)) : OpensMark mark cs := by
  obtain ⟨c, rest, same, word⟩ := opens
  have noBlank : ∀ d ∈ mark ++ [c], isBlank d = false := by
    intro d member
    rcases List.mem_append.mp member with inMark | last
    · exact isMark.solid d inMark
    · rw [List.mem_singleton.mp last]
      exact Text.isBlank_eq_false_of_isWord word
  rw [List.append_cons] at same
  obtain ⟨more, within⟩ := Text.solid_append_eq_append noBlank follows same
  exact ⟨c, more, by rw [within, ← List.append_cons], word⟩

/-! ## Quiet stretches -/

theorem quiet_cons_iff {mark cs : List Char} {c : Char} :
    Quiet mark (c :: cs) ↔ (isBlank c = true → ¬OpensMark mark cs) ∧ Quiet mark cs := by
  constructor
  · intro quiet
    refine ⟨quiet [] c cs rfl, ?_⟩
    rintro before d after rfl
    exact quiet (c :: before) d after rfl
  · rintro ⟨first, later⟩ before d after same
    cases before with
    | nil =>
        rw [List.nil_append, List.cons.injEq] at same
        obtain ⟨rfl, rfl⟩ := same
        exact first
    | cons e before =>
        rw [List.cons_append, List.cons.injEq] at same
        exact later before d after same.2

theorem quiet_nil (mark : List Char) : Quiet mark [] := by
  rintro before c after same
  cases before with
  | nil => cases same
  | cons d before => cases same

theorem Quiet.of_append_left {mark cs tail : List Char} (quiet : Quiet mark (cs ++ tail)) :
    Quiet mark cs := by
  rintro before c after rfl blank opens
  refine quiet before c (after ++ tail) ?_ blank (opens.append tail)
  rw [List.append_assoc, List.cons_append]

theorem Quiet.of_append_right {mark cs front : List Char} (quiet : Quiet mark (front ++ cs)) :
    Quiet mark cs := by
  rintro before c after rfl
  exact quiet (front ++ before) c after (List.append_assoc _ _ _).symm

/-- A text without a mark is quiet and does not begin with one. -/
theorem not_holdsMark_iff {mark cs : List Char} :
    ¬HoldsMark mark cs ↔ ¬OpensMark mark cs ∧ Quiet mark cs := by
  constructor
  · intro unmarked
    refine ⟨fun opens => unmarked ⟨[], cs, rfl, by simp, opens⟩, ?_⟩
    rintro before c after rfl blank opens
    refine unmarked ⟨before ++ [c], after, by rw [List.append_assoc, List.singleton_append],
      ?_, opens⟩
    rw [List.getLast?_concat]
    rintro d member
    cases member
    exact blank
  · rintro ⟨closed, quiet⟩ ⟨before, after, rfl, blank, opens⟩
    rcases List.eq_nil_or_concat before with rfl | ⟨earlier, c, rfl⟩
    · exact closed opens
    · rw [List.concat_eq_append, List.append_assoc, List.singleton_append] at quiet
      exact quiet earlier c after rfl (blank c (by simp)) opens

instance decidableQuiet (mark : List Char) : (cs : List Char) → Decidable (Quiet mark cs)
  | [] => isTrue (quiet_nil mark)
  | _ :: cs =>
    have := decidableQuiet mark cs
    decidable_of_iff _ quiet_cons_iff.symm

instance decidableHoldsMark (mark cs : List Char) : Decidable (HoldsMark mark cs) :=
  decidable_of_iff (¬(¬OpensMark mark cs ∧ Quiet mark cs)) <| by
    rw [← not_holdsMark_iff, Classical.not_not]

/-- Blanks in front of a quiet stretch that does not begin with a mark keep it quiet. -/
theorem IsMark.quiet_append_of_allBlank {mark blanks cs : List Char} (isMark : IsMark mark)
    (blank : AllBlank blanks) (closed : ¬OpensMark mark cs) (quiet : Quiet mark cs) :
    Quiet mark (blanks ++ cs) := by
  induction blanks with
  | nil => exact quiet
  | cons c blanks ih =>
      have later : AllBlank blanks := fun d member => blank d (List.mem_cons_of_mem c member)
      rw [List.cons_append, quiet_cons_iff]
      refine ⟨fun _ opens => ?_, ih later⟩
      cases blanks with
      | nil => exact closed opens
      | cons d blanks =>
          obtain ⟨e, rest, same, solid⟩ := isMark.head_of_opensMark opens
          rw [List.cons_append, List.cons.injEq] at same
          rw [← same.1, later d (by simp)] at solid
          cases solid

/-- A quiet stretch stays quiet if blanks follow. -/
theorem IsMark.quiet_append {mark cs blanks : List Char} (isMark : IsMark mark)
    (quiet : Quiet mark cs) (blank : AllBlank blanks) : Quiet mark (cs ++ blanks) := by
  have follows : BlankFirst blanks := fun c member => blank c (List.mem_of_mem_head? member)
  induction cs with
  | nil =>
      rw [List.nil_append, ← List.append_nil blanks]
      exact isMark.quiet_append_of_allBlank blank isMark.not_opensMark_nil (quiet_nil mark)
  | cons c cs ih =>
      rw [quiet_cons_iff] at quiet
      rw [List.cons_append, quiet_cons_iff]
      exact ⟨fun isBlank opens => quiet.1 isBlank (isMark.opensMark_of_append follows opens),
        ih quiet.2⟩

/-! ## The scan -/

theorem takeWhile_isWord_of_closed {mark cs rest : List Char} (closed : ¬OpensMark mark cs)
    (found : Text.after? mark cs = some rest) : rest.takeWhile isWord = [] := by
  rw [Text.after?_eq_some_iff] at found
  cases rest with
  | nil => rfl
  | cons c rest =>
      have stop : ¬isWord c = true := fun word => closed ⟨c, rest, found, word⟩
      rw [List.takeWhile_cons_of_neg stop]

theorem markedWord?_eq_none {mark cs : List Char} (closed : ¬OpensMark mark cs) :
    markedWord? mark cs = none := by
  rw [markedWord?]
  split
  · rfl
  · next rest found =>
    simp only [takeWhile_isWord_of_closed closed found]
    rfl

theorem markedWord?_append (mark : List Char) {word rest : List Char} (nonempty : word ≠ [])
    (all : ∀ c ∈ word, isWord c = true) (follows : WordEnds rest) :
    markedWord? mark (mark ++ (word ++ rest)) = some ⟨word, mark.length + word.length⟩ := by
  have found : Text.after? mark (mark ++ (word ++ rest)) = some (word ++ rest) :=
    Text.after?_eq_some_iff.mpr rfl
  rw [markedWord?, found]
  simp only [Text.takeWhile_isWord_append all follows]
  rw [if_neg (by rw [List.isEmpty_iff]; exact nonempty)]

/-! ## The name of a command -/

theorem commandWord?_found (grammar : Grammar) {word rest : List Char} (nonempty : word ≠ [])
    (all : ∀ c ∈ word, isWord c = true) (follows : WordEnds rest) :
    grammar.commandWord? (grammar.commandPrefix.toList ++ (word ++ rest)) =
      some (String.ofList word, rest) := by
  have found : Text.after? grammar.commandPrefix.toList
      (grammar.commandPrefix.toList ++ (word ++ rest)) = some (word ++ rest) :=
    Text.after?_eq_some_iff.mpr rfl
  rw [commandWord?, found]
  simp only [Text.takeWhile_isWord_append all follows, Text.dropWhile_isWord_append all follows]
  rw [if_neg (by rw [List.isEmpty_iff]; exact nonempty)]

theorem commandWord?_eq_none {grammar : Grammar} {line : List Char}
    (closed : ¬OpensMark grammar.commandPrefix.toList line) :
    grammar.commandWord? line = none := by
  rw [commandWord?]
  split
  · rfl
  · next rest found =>
    simp only [takeWhile_isWord_of_closed closed found]
    rfl

/-- A line calls a name exactly if it is the command prefix, the name, which is a word, and a rest
that does not go on with it. -/
theorem commandWord?_eq_some_iff {grammar : Grammar} {line rest : List Char} {name : String} :
    grammar.commandWord? line = some (name, rest) ↔
      line = grammar.commandPrefix.toList ++ (name.toList ++ rest) ∧
        Text.isSingleWord name = true ∧ WordEnds rest := by
  constructor
  · intro found
    rw [commandWord?] at found
    split at found
    · cases found
    · next after begins =>
      dsimp only at found
      split at found
      · cases found
      · next nonempty =>
        obtain ⟨rfl, rfl⟩ := Prod.mk.inj (Option.some.inj found)
        rw [Text.isSingleWord_iff, String.toList_ofList, List.takeWhile_append_dropWhile]
        exact ⟨Text.after?_eq_some_iff.mp begins,
          ⟨fun nothing => nonempty (List.isEmpty_iff.mpr nothing),
            fun _ member => List.mem_takeWhile_imp member⟩,
          Text.wordEnds_dropWhile after⟩
  · rintro ⟨rfl, word, ends⟩
    obtain ⟨nonempty, all⟩ := Text.isSingleWord_iff.mp word
    rw [commandWord?_found grammar nonempty all ends, String.ofList_toList]

theorem isSingleWord_of_commandWord? {grammar : Grammar} {line rest : List Char} {name : String}
    (found : grammar.commandWord? line = some (name, rest)) : Text.isSingleWord name = true :=
  (commandWord?_eq_some_iff.mp found).2.1

/-! ## The scan of the keywords -/

/-- The pieces of a text that comes after something else. -/
def innerPieces (mark cs : List Char) : List (Piece (List Char)) :=
  piecesFrom (keywordFinder mark) (some ' ') 0 cs

/-- It does not matter after which character the scan goes on. -/
theorem piecesFrom_keywordFinder (mark : List Char) (c : Char) (skip : Nat) (cs : List Char) :
    piecesFrom (keywordFinder mark) (some c) skip cs =
      piecesFrom (keywordFinder mark) (some ' ') skip cs := by
  cases cs with
  | nil => rw [Text.piecesFrom_nil, Text.piecesFrom_nil]
  | cons d rest =>
      cases skip with
      | zero => rfl
      | succ skip => rfl

theorem piecesFrom_append (mark : List Char) (c : Char) (taken rest : List Char) :
    piecesFrom (keywordFinder mark) (some c) taken.length (taken ++ rest) =
      innerPieces mark rest := by
  induction taken generalizing c with
  | nil => exact piecesFrom_keywordFinder mark c 0 rest
  | cons d taken ih => exact ih d

theorem keywordFinder_some (mark : List Char) (before : Char) (cs : List Char) :
    keywordFinder mark (some before) cs = blankMarkedWord? mark cs := rfl

/-- A text that does not begin with a mark is read as if something came before it. -/
theorem pieces_eq_innerPieces {mark cs : List Char} (closed : ¬OpensMark mark cs) :
    Text.pieces (keywordFinder mark) cs = innerPieces mark cs := by
  have finder : keywordFinder mark none cs = blankMarkedWord? mark cs := by
    unfold keywordFinder
    rw [markedWord?_eq_none closed]
  cases cs with
  | nil => rfl
  | cons c rest => rw [Text.pieces, innerPieces, piecesFrom, piecesFrom, finder, keywordFinder_some]

theorem innerPieces_cons {mark rest : List Char} {c : Char}
    (closed : isBlank c = true → ¬OpensMark mark rest) :
    innerPieces mark (c :: rest) = .char c :: innerPieces mark rest := by
  have nothing : blankMarkedWord? mark (c :: rest) = none := by
    rw [blankMarkedWord?]
    split
    · next blank => rw [markedWord?_eq_none (closed blank), Option.map_none]
    · rfl
  rw [innerPieces, piecesFrom, keywordFinder_some, nothing]
  exact congrArg _ (piecesFrom_keywordFinder mark c 0 rest)

/-- A quiet stretch is passed over. -/
theorem IsMark.innerPieces_append {mark plain tail : List Char} (isMark : IsMark mark)
    (quiet : Quiet mark plain) (follows : BlankFirst tail) :
    innerPieces mark (plain ++ tail) = plain.map .char ++ innerPieces mark tail := by
  induction plain with
  | nil => rfl
  | cons c plain ih =>
      rw [quiet_cons_iff] at quiet
      rw [List.cons_append, innerPieces_cons, ih quiet.2, List.map_cons, List.cons_append]
      exact fun blank opens => quiet.1 blank (isMark.opensMark_of_append follows opens)

/-- A blank, a mark and a word are taken in one step. -/
theorem innerPieces_found (mark : List Char) {blank : Char} {word rest : List Char}
    (isBlank : isBlank blank = true) (nonempty : word ≠ [])
    (all : ∀ c ∈ word, isWord c = true) (follows : WordEnds rest) :
    innerPieces mark (blank :: (mark ++ (word ++ rest))) =
      .found word :: innerPieces mark rest := by
  have found : blankMarkedWord? mark (blank :: (mark ++ (word ++ rest))) =
      some ⟨word, (mark ++ word).length + 1⟩ := by
    rw [blankMarkedWord?, if_pos isBlank, markedWord?_append mark nonempty all follows,
      Option.map_some, List.length_append]
  have passed := piecesFrom_append mark blank (mark ++ word) rest
  rw [List.append_assoc] at passed
  rw [innerPieces, piecesFrom, keywordFinder_some, found]
  exact congrArg _ passed

/-- At the very start a mark and a word are taken without a blank. -/
theorem pieces_found {mark word rest : List Char} (marked : mark ≠ []) (nonempty : word ≠ [])
    (all : ∀ c ∈ word, isWord c = true) (follows : WordEnds rest) :
    Text.pieces (keywordFinder mark) (mark ++ (word ++ rest)) =
      .found word :: innerPieces mark rest := by
  have found : keywordFinder mark none (mark ++ (word ++ rest)) =
      some ⟨word, (mark ++ word).length⟩ := by
    unfold keywordFinder
    rw [markedWord?_append mark nonempty all follows, List.length_append]
  cases mark with
  | nil => exact absurd rfl marked
  | cons first mark =>
      have passed := piecesFrom_append (first :: mark) first (mark ++ word) rest
      rw [List.append_assoc] at passed
      rw [Text.pieces, List.cons_append, piecesFrom, ← List.cons_append, found]
      exact congrArg _ passed

/-! ## Keywords and the stretches after them -/

theorem leadingChars_map (plain : List Char) : leadingChars (plain.map .char) = plain := by
  induction plain with
  | nil => rfl
  | cons c plain ih => rw [List.map_cons, leadingChars, ih]

theorem leadingChars_map_append_found (plain word : List Char)
    (rest : List (Piece (List Char))) :
    leadingChars (plain.map .char ++ .found word :: rest) = plain := by
  induction plain with
  | nil => rfl
  | cons c plain ih => rw [List.map_cons, List.cons_append, leadingChars, ih]

theorem keywordStretches_map_append (plain : List Char) (rest : List (Piece (List Char))) :
    keywordStretches (plain.map .char ++ rest) = keywordStretches rest := by
  induction plain with
  | nil => rfl
  | cons c plain ih => rw [List.map_cons, List.cons_append, keywordStretches, ih]

end ChatCommands.Grammar
