/-
# Cutting a line at its keywords

The plain rule behind the scan: what follows the name of a command is cut before every mark
that opens at the start or after a blank. Each part begins with a keyword; the rest of the
part is its stretch. The scan takes the blank in front of a mark together with the mark, so
a part that is followed by another one is without its last blank. Apart from that blank no
text is lost: no place at which a mark opens is passed over, because a mark and a word hold
no blank and so no second place lies within an occurrence.

Main statement: `parse_eq_cut`. The blank in front of a mark does not separate a keyword
from its value: a keyword directly before another one has none, even if a filter makes
something of the empty value (`not_forall_parse_eq_cut`).
-/

import ChatCommands.Proofs.Grammar.Scan

namespace ChatCommands.Grammar

open Text (AllBlank WordEnds isBlank isWord)

/-! ## Cutting -/

/-- A text that has been cut: what comes before the first cut, and the parts that begin
with one. -/
structure Cutting where
  lead : List Char
  parts : List (List Char)
deriving DecidableEq, Repr

/-- Cut a text that comes at the start or after a blank if it is `fresh`. -/
def cutFrom (mark : List Char) : Bool → List Char → Cutting
  | _, [] => ⟨[], []⟩
  | fresh, c :: rest =>
    let later := cutFrom mark (isBlank c) rest
    if fresh ∧ OpensMark mark (c :: rest) then ⟨[], (c :: later.lead) :: later.parts⟩
    else ⟨c :: later.lead, later.parts⟩

/-- Cut a text before every mark that opens at its start or after one of its blanks. -/
def cut (mark cs : List Char) : Cutting := cutFrom mark true cs

/-- The place of a text between two parts of it is one at which a keyword begins. -/
def Stands (mark before after : List Char) : Prop :=
  (∀ c ∈ before.getLast?, isBlank c = true) ∧ OpensMark mark after

/-- A stretch of text without the blank in front of the part that follows, if one does. -/
def upTo (later : List (List Char)) (stretch : List Char) : List Char :=
  if later = [] then stretch else stretch.dropLast

/-- The parts of a text, each without the blank in front of the next one. -/
def ownParts : List (List Char) → List (List Char)
  | [] => []
  | part :: later => upTo later part :: ownParts later

/-- The longest word after the mark a part begins with. -/
def nameOf (mark part : List Char) : List Char := (part.drop mark.length).takeWhile isWord

/-- What a part holds after its name. -/
def stretchOf (mark part : List Char) : List Char := (part.drop mark.length).dropWhile isWord

/-- The keyword arguments of the parts in which the name is followed by a blank and whose
value does not come out empty. -/
def keptArguments (grammar : Grammar) (parts : List (List Char)) : List (String × String) :=
  let mark := grammar.parameterPrefix.toList
  let kept := parts.filter fun part =>
    startsWithBlank (stretchOf mark part) && !(grammar.valueOf (stretchOf mark part)).isEmpty
  kept.map fun part => (String.ofList (nameOf mark part), grammar.valueOf (stretchOf mark part))

variable {mark cs rest word : List Char}

theorem cutFrom_of_closed (fresh : Bool) (closed : ¬OpensMark mark cs) :
    cutFrom mark fresh cs = cutFrom mark false cs := by
  cases cs with
  | nil => rfl
  | cons c rest => rw [cutFrom, cutFrom, if_neg (fun both => closed both.2), if_neg (by simp)]

theorem cutFrom_false_cons (mark : List Char) (c : Char) (rest : List Char) :
    cutFrom mark false (c :: rest) =
      ⟨c :: (cutFrom mark (isBlank c) rest).lead, (cutFrom mark (isBlank c) rest).parts⟩ := by
  rw [cutFrom, if_neg (by simp)]

theorem cutFrom_true_cons {c : Char} (opens : OpensMark mark (c :: rest)) :
    cutFrom mark true (c :: rest) =
      ⟨[], (c :: (cutFrom mark (isBlank c) rest).lead) ::
        (cutFrom mark (isBlank c) rest).parts⟩ := by
  rw [cutFrom, if_pos ⟨rfl, opens⟩]

theorem lead_cutFrom_ne_nil (parts : (cutFrom mark false cs).parts ≠ []) :
    (cutFrom mark false cs).lead ≠ [] := by
  cases cs with
  | nil => exact absurd rfl parts
  | cons c rest =>
      rw [cutFrom_false_cons]
      exact List.cons_ne_nil _ _

/-- Nothing is lost by cutting. -/
theorem lead_append_flatten_cutFrom (mark : List Char) (fresh : Bool) (cs : List Char) :
    (cutFrom mark fresh cs).lead ++ (cutFrom mark fresh cs).parts.flatten = cs := by
  induction cs generalizing fresh with
  | nil => rfl
  | cons c rest ih =>
      rw [cutFrom]
      split
      · rw [List.flatten_cons, List.nil_append, List.cons_append, ih]
      · rw [List.cons_append, ih]

/-! ## The places of the cuts -/

/-- The cuts are at the places where a keyword begins, and nowhere else. -/
theorem IsMark.cutFrom_at (isMark : IsMark mark) (fresh : Bool) {before after : List Char}
    (divided : cs = before ++ after) :
    (before.getLast?.map isBlank).getD fresh = true ∧ OpensMark mark after ↔
      ∃ earlier part later, (cutFrom mark fresh cs).parts = earlier ++ part :: later ∧
        before = (cutFrom mark fresh cs).lead ++ earlier.flatten := by
  induction cs generalizing fresh before with
  | nil =>
      obtain ⟨rfl, rfl⟩ := List.append_eq_nil_iff.mp divided.symm
      constructor
      · rintro ⟨-, opens⟩
        exact absurd opens isMark.not_opensMark_nil
      · rintro ⟨earlier, part, later, parts, -⟩
        cases earlier <;> cases parts
  | cons c rest ih =>
      cases before with
      | nil =>
          rw [List.nil_append] at divided
          subst divided
          rw [cutFrom]
          by_cases here : fresh = true ∧ OpensMark mark (c :: rest)
          · rw [if_pos here]
            exact ⟨fun _ => ⟨[], _, _, rfl, rfl⟩, fun _ => here⟩
          · rw [if_neg here]
            refine ⟨fun both => absurd both here, ?_⟩
            rintro ⟨earlier, part, later, -, same⟩
            cases same
      | cons d before =>
          rw [List.cons_append, List.cons.injEq] at divided
          obtain ⟨rfl, divided⟩ := divided
          rw [List.getLast?_cons, Option.map_some, Option.getD_some, ← Option.getD_map isBlank,
            ih (isBlank c) divided, cutFrom]
          split
          · constructor
            · rintro ⟨earlier, part, later, parts, same⟩
              exact ⟨_ :: earlier, part, later, by rw [parts]; rfl, by rw [same]; rfl⟩
            · rintro ⟨earlier, part, later, parts, same⟩
              cases earlier with
              | nil => cases same
              | cons first earlier =>
                  rw [List.cons_append, List.cons.injEq] at parts
                  obtain ⟨rfl, parts⟩ := parts
                  exact ⟨earlier, part, later, parts, (List.cons.inj same).2⟩
          · constructor
            · rintro ⟨earlier, part, later, parts, same⟩
              exact ⟨earlier, part, later, parts, by rw [same]; rfl⟩
            · rintro ⟨earlier, part, later, parts, same⟩
              exact ⟨earlier, part, later, parts, (List.cons.inj same).2⟩

theorem IsMark.stands_iff_cut (isMark : IsMark mark) {before after : List Char}
    (divided : cs = before ++ after) :
    Stands mark before after ↔
      ∃ earlier part later, (cut mark cs).parts = earlier ++ part :: later ∧
        before = (cut mark cs).lead ++ earlier.flatten := by
  rw [cut, ← isMark.cutFrom_at true divided, Stands]
  cases before.getLast? <;> simp

/-- Within a part no other keyword begins. -/
theorem IsMark.quiet_cutFrom (isMark : IsMark mark) (fresh : Bool) (cs : List Char) :
    Quiet mark (cutFrom mark fresh cs).lead ∧
      ∀ part ∈ (cutFrom mark fresh cs).parts, Quiet mark part := by
  induction cs generalizing fresh with
  | nil => exact ⟨quiet_nil mark, nofun⟩
  | cons c rest ih =>
      obtain ⟨lead, parts⟩ := ih (isBlank c)
      have longer : Quiet mark (c :: (cutFrom mark (isBlank c) rest).lead) := by
        refine quiet_cons_iff.mpr ⟨fun blank opens => ?_, lead⟩
        -- A mark after the blank would have been cut off.
        have joined := lead_append_flatten_cutFrom mark (isBlank c) rest
        have opensRest := opens.append (cutFrom mark (isBlank c) rest).parts.flatten
        rw [joined] at opensRest
        obtain ⟨d, later, rfl, -⟩ := isMark.head_of_opensMark opensRest
        rw [blank, cutFrom_true_cons opensRest] at opens
        exact isMark.not_opensMark_nil opens
      rw [cutFrom]
      split
      · refine ⟨quiet_nil mark, ?_⟩
        intro part member
        rcases List.mem_cons.mp member with rfl | later
        · exact longer
        · exact parts part later
      · exact ⟨longer, parts⟩

theorem upTo_prefix (later : List (List Char)) (cs : List Char) : upTo later cs <+: cs := by
  rw [upTo]
  split
  · exact List.prefix_rfl
  · exact List.dropLast_prefix cs

theorem quiet_upTo {later : List (List Char)} (quiet : Quiet mark cs) :
    Quiet mark (upTo later cs) := by
  obtain ⟨last, same⟩ := upTo_prefix later cs
  rw [← same] at quiet
  exact quiet.of_append_left

theorem quiet_of_mem_ownParts {parts : List (List Char)}
    (quiet : ∀ part ∈ parts, Quiet mark part) : ∀ part ∈ ownParts parts, Quiet mark part := by
  induction parts with
  | nil => exact nofun
  | cons first later ih =>
      intro part member
      rcases List.mem_cons.mp member with rfl | further
      · exact quiet_upTo (quiet first List.mem_cons_self)
      · exact ih (fun part member => quiet part (List.mem_cons_of_mem first member)) part further

/-- The value after a keyword holds no mark that opens. -/
theorem IsMark.not_holdsMark_trim (isMark : IsMark mark) {part : List Char}
    (quiet : Quiet mark part) (separated : startsWithBlank (stretchOf mark part) = true) :
    ¬HoldsMark mark (Text.trim (stretchOf mark part)) := by
  have stretch : Quiet mark (stretchOf mark part) := by
    obtain ⟨name, named⟩ : stretchOf mark part <:+ part.drop mark.length :=
      List.dropWhile_suffix isWord
    rw [← List.take_append_drop mark.length part, ← named] at quiet
    exact quiet.of_append_right.of_append_right
  obtain ⟨lead, trail, blanks, -, trimmed⟩ := Text.exists_append_trim_append (stretchOf mark part)
  refine not_holdsMark_iff.mpr ⟨fun opens => ?_, ?_⟩
  · rcases List.eq_nil_or_concat lead with rfl | ⟨earlier, last, rfl⟩
    · obtain ⟨c, rest, first, solid⟩ := isMark.head_of_opensMark opens
      rw [trimmed, first] at separated
      exact Bool.false_ne_true (solid.symm.trans separated)
    · rw [List.concat_eq_append, List.append_assoc] at trimmed
      exact stretch earlier last _ trimmed (blanks last (by simp)) (opens.append trail)
  · rw [trimmed] at stretch
    exact stretch.of_append_right.of_append_left

/-! ## The scan finds the parts -/

theorem cutFrom_false_append {solid : List Char} (noBlank : ∀ c ∈ solid, isBlank c = false)
    (rest : List Char) :
    cutFrom mark false (solid ++ rest) =
      ⟨solid ++ (cutFrom mark false rest).lead, (cutFrom mark false rest).parts⟩ := by
  induction solid with
  | nil => rfl
  | cons c solid ih =>
      have here := noBlank c List.mem_cons_self
      have later := ih fun d member => noBlank d (List.mem_cons_of_mem c member)
      rw [List.cons_append, cutFrom_false_cons, here, later, List.cons_append]

/-- A keyword at the place of a cut and what is cut after it. -/
theorem IsMark.cutFrom_true_append (isMark : IsMark mark) (nonempty : word ≠ [])
    (all : ∀ c ∈ word, isWord c = true) (rest : List Char) :
    cutFrom mark true (mark ++ (word ++ rest)) =
      ⟨[], (mark ++ (word ++ (cutFrom mark false rest).lead)) ::
        (cutFrom mark false rest).parts⟩ := by
  have opens : OpensMark mark (mark ++ (word ++ rest)) := by
    cases word with
    | nil => exact absurd rfl nonempty
    | cons c word => exact ⟨c, word ++ rest, rfl, all c List.mem_cons_self⟩
  have solid : ∀ c ∈ mark ++ word, isBlank c = false := by
    intro c member
    rcases List.mem_append.mp member with inMark | inWord
    · exact isMark.solid c inMark
    · exact Text.isBlank_eq_false_of_isWord (all c inWord)
  have joined : ∀ tail, mark ++ (word ++ tail) = mark ++ word ++ tail := fun tail =>
    (List.append_assoc mark word tail).symm
  rw [joined] at opens
  rw [joined, joined]
  cases same : mark ++ word with
  | nil => exact absurd (List.append_eq_nil_iff.mp same).2 nonempty
  | cons first more =>
      rw [same] at opens solid
      rw [List.cons_append] at opens ⊢
      rw [cutFrom_true_cons opens, solid first List.mem_cons_self,
        cutFrom_false_append fun c member => solid c (List.mem_cons_of_mem first member)]
      rfl

theorem upTo_append {later : List (List Char)} {lead : List Char} (front : List Char)
    (nonempty : later ≠ [] → lead ≠ []) :
    upTo later (front ++ lead) = front ++ upTo later lead := by
  rw [upTo, upTo]
  by_cases none : later = []
  · rw [if_pos none, if_pos none]
  · rw [if_neg none, if_neg none, List.dropLast_append_of_ne_nil (nonempty none)]

theorem wordEnds_upTo {later : List (List Char)} (ends : WordEnds cs) :
    WordEnds (upTo later cs) := by
  obtain ⟨last, same⟩ := upTo_prefix later cs
  rw [← same] at ends
  exact ends.of_append

/-- The keywords of the parts, each with its stretch. -/
def stretchesOf (mark : List Char) (parts : List (List Char)) : List (List Char × List Char) :=
  (ownParts parts).map fun part => (nameOf mark part, stretchOf mark part)

theorem IsMark.stretchesOf_cutFrom (isMark : IsMark mark) (nonempty : word ≠ [])
    (all : ∀ c ∈ word, isWord c = true) (ends : WordEnds rest) :
    stretchesOf mark (cutFrom mark true (mark ++ (word ++ rest))).parts =
      (word, upTo (cutFrom mark false rest).parts (cutFrom mark false rest).lead) ::
        stretchesOf mark (cutFrom mark false rest).parts := by
  have stretch :
      WordEnds (upTo (cutFrom mark false rest).parts (cutFrom mark false rest).lead) := by
    apply wordEnds_upTo
    rw [← lead_append_flatten_cutFrom mark false rest] at ends
    exact ends.of_append
  have own : upTo (cutFrom mark false rest).parts
      (mark ++ (word ++ (cutFrom mark false rest).lead)) = mark ++ (word ++
        upTo (cutFrom mark false rest).parts (cutFrom mark false rest).lead) := by
    rw [← List.append_assoc, upTo_append _ lead_cutFrom_ne_nil, List.append_assoc]
  rw [isMark.cutFrom_true_append nonempty all, stretchesOf, ownParts, List.map_cons, own,
    nameOf, stretchOf, List.drop_left, Text.takeWhile_isWord_append all stretch,
    Text.dropWhile_isWord_append all stretch]
  rfl

/-- Of a text that comes after something else the scan finds the parts, and before them what
comes before the first cut. The induction follows the scan, which passes over one character
or takes a whole keyword. -/
theorem IsMark.scan_eq_cutFrom (isMark : IsMark mark) (cs : List Char) :
    leadingChars (innerPieces mark cs) =
        upTo (cutFrom mark false cs).parts (cutFrom mark false cs).lead ∧
      keywordStretches (innerPieces mark cs) = stretchesOf mark (cutFrom mark false cs).parts := by
  induction size : cs.length using Nat.strong_induction_on generalizing cs with
  | _ length ih =>
      subst size
      cases cs with
      | nil => exact ⟨rfl, rfl⟩
      | cons c tail =>
          by_cases here : isBlank c = true ∧ OpensMark mark tail
          · obtain ⟨blank, opens⟩ := here
            obtain ⟨word, rest, rfl, nonempty, all, ends⟩ := opens.exists_word
            obtain ⟨leading, stretches⟩ := ih rest.length (by simp; omega) rest rfl
            have cuts := isMark.stretchesOf_cutFrom nonempty all ends
            have parts := isMark.cutFrom_true_append nonempty all rest
            rw [innerPieces_found mark blank nonempty all ends, cutFrom_false_cons, blank,
              keywordStretches, leading, stretches, cuts, parts]
            exact ⟨rfl, rfl⟩
          · have passed : isBlank c = true → ¬OpensMark mark tail :=
              fun blank opens => here ⟨blank, opens⟩
            obtain ⟨leading, stretches⟩ := ih tail.length (by simp) tail rfl
            have same : cutFrom mark (isBlank c) tail = cutFrom mark false tail := by
              cases blank : isBlank c with
              | false => rfl
              | true => exact cutFrom_of_closed true (passed blank)
            rw [innerPieces_cons passed, cutFrom_false_cons, same, leadingChars, keywordStretches,
              leading, stretches]
            exact ⟨(upTo_append [c] lead_cutFrom_ne_nil).symm, rfl⟩

theorem IsMark.keywordStretches_pieces (isMark : IsMark mark) (cs : List Char) :
    keywordStretches (Text.pieces (keywordFinder mark) cs) =
      stretchesOf mark (cut mark cs).parts := by
  by_cases opens : OpensMark mark cs
  · obtain ⟨word, rest, rfl, nonempty, all, ends⟩ := opens.exists_word
    obtain ⟨leading, stretches⟩ := isMark.scan_eq_cutFrom rest
    rw [pieces_found isMark.nonempty nonempty all ends, keywordStretches, leading, stretches, cut,
      isMark.stretchesOf_cutFrom nonempty all ends]
  · rw [pieces_eq_innerPieces opens, cut, cutFrom_of_closed true opens]
    exact (isMark.scan_eq_cutFrom cs).2

/-! ## Reading a line -/

theorem filterMap_argument? (grammar : Grammar) (parts : List (List Char)) :
    ((stretchesOf grammar.parameterPrefix.toList parts).filterMap
        fun (name, stretch) => grammar.argument? name stretch) =
      grammar.keptArguments (ownParts parts) := by
  rw [stretchesOf, keptArguments, List.filterMap_map]
  induction ownParts parts with
  | nil => rfl
  | cons part later ih =>
      rw [List.filterMap_cons, List.filter_cons, ih]
      simp only [Function.comp_apply, argument?]
      cases startsWithBlank (stretchOf grammar.parameterPrefix.toList part) &&
          !(grammar.valueOf (stretchOf grammar.parameterPrefix.toList part)).isEmpty with
      | false => rfl
      | true => rfl

theorem keywordsOf_eq_cut (grammar : Grammar) (isMark : IsMark grammar.parameterPrefix.toList)
    (rest : List Char) :
    grammar.keywordsOf rest = .ofList
      (grammar.keptArguments (ownParts (cut grammar.parameterPrefix.toList rest).parts)) := by
  rw [keywordsOf, isMark.keywordStretches_pieces, filterMap_argument?]

/-- The name of a command is the whole word after the prefix. -/
theorem commandWord?_of_opensMark {grammar : Grammar} {line : List Char}
    (opens : OpensMark grammar.commandPrefix.toList line) :
    grammar.commandWord? line =
      some (String.ofList ((line.drop grammar.commandPrefix.toList.length).takeWhile isWord),
        (line.drop grammar.commandPrefix.toList.length).dropWhile isWord) := by
  obtain ⟨word, rest, rfl, nonempty, all, ends⟩ := opens.exists_word
  rw [grammar.commandWord?_found nonempty all ends, List.drop_left,
    Text.takeWhile_isWord_append all ends, Text.dropWhile_isWord_append all ends]

theorem exists_parse_eq_error_iff {grammar : Grammar} {text : String} :
    (∃ error, grammar.parse text = .error error) ↔
      ¬OpensMark grammar.commandPrefix.toList (Text.trim text.toList) := by
  constructor
  · rintro ⟨error, refused⟩ opens
    rw [parse, commandWord?_of_opensMark opens] at refused
    split at refused
    · next none => cases none
    · split at refused <;> cases refused
  · intro closed
    exact ⟨_, by rw [parse, commandWord?_eq_none closed]⟩

/-- A text is a call exactly if, trimmed, it is the command prefix and a word character. The
name is the whole word after the prefix. Unless it is that of a shortcut, the keywords are
those that cutting the rest gives, each as the first word of its part: the ones that are
followed by a blank of their own and whose value is not empty after all filters, inserted from
left to right. The cuts are at all places where a keyword can begin and nowhere else, and no
value holds such a place. -/
theorem parse_eq_cut (grammar : Grammar) (isMark : IsMark grammar.parameterPrefix.toList)
    (text : String) :
    let line := Text.trim text.toList
    let afterPrefix := line.drop grammar.commandPrefix.toList.length
    let word := afterPrefix.takeWhile isWord
    let rest := afterPrefix.dropWhile isWord
    let mark := grammar.parameterPrefix.toList
    let cutting := cut mark rest
    ((∃ error, grammar.parse text = .error error) ↔
      ¬OpensMark grammar.commandPrefix.toList line) ∧
    (∀ error, grammar.parse text = .error error →
      error = .missingPrefix grammar.commandPrefix) ∧
    (OpensMark grammar.commandPrefix.toList line →
      grammar.commandWord? line = some (String.ofList word, rest) ∧
        (grammar.shortcut? (String.ofList word) = none →
          grammar.parse text = .ok ⟨String.ofList word,
            .ofList (grammar.keptArguments (ownParts cutting.parts))⟩)) ∧
    cutting.lead ++ cutting.parts.flatten = rest ∧
    (∀ before after, rest = before ++ after →
      (Stands mark before after ↔
        ∃ earlier part later, cutting.parts = earlier ++ part :: later ∧
          before = cutting.lead ++ earlier.flatten)) ∧
    ∀ part ∈ ownParts cutting.parts, startsWithBlank (stretchOf mark part) = true →
      ¬HoldsMark mark (Text.trim (stretchOf mark part)) := by
  intro line afterPrefix word rest mark cutting
  refine ⟨?_, fun error => eq_missingPrefix_of_parse_error, ?_, ?_, ?_, ?_⟩
  · exact exists_parse_eq_error_iff
  · intro opens
    have named : grammar.commandWord? line = some (String.ofList word, rest) :=
      commandWord?_of_opensMark opens
    refine ⟨named, fun notShortcut => ?_⟩
    rw [parse, named]
    simp only [notShortcut]
    rw [keywordsOf_eq_cut grammar isMark]
  · exact lead_append_flatten_cutFrom mark true rest
  · exact fun before after divided => isMark.stands_iff_cut divided
  · intro part member
    have quiet := quiet_of_mem_ownParts (isMark.quiet_cutFrom true rest).2 part member
    exact isMark.not_holdsMark_trim quiet

/-- A keyword without a value, one that no blank follows, marks within a value, a repeated
keyword and two keywords in a row with more than one blank between them. -/
theorem parse_eq_cut_adjacent :
    let grammar : Grammar := {}
    let text := " /cmd lead -flag -a 1 -b.x -a two-three - -c  -d"
    let line := Text.trim text.toList
    let rest := " lead -flag -a 1 -b.x -a two-three - -c  -d".toList
    IsMark grammar.parameterPrefix.toList ∧ OpensMark grammar.commandPrefix.toList line ∧
      (∀ name, grammar.shortcut? name = none) ∧
      (cut grammar.parameterPrefix.toList rest).parts.map String.ofList =
        ["-flag ", "-a 1 ", "-b.x ", "-a two-three - ", "-c  ", "-d"] ∧
      (grammar.parse text).toOption.map
          (fun invocation => (invocation.command, invocation.keywords.entries)) =
        some ("cmd", [("a", "two-three -")]) := by
  intro grammar text line rest
  have isMark : IsMark grammar.parameterPrefix.toList := by decide +kernel
  have opens : OpensMark grammar.commandPrefix.toList line := by decide +kernel
  have notShortcut : ∀ name, grammar.shortcut? name = none := fun _ => rfl
  obtain ⟨-, -, parsed, -⟩ := parse_eq_cut grammar isMark text
  refine ⟨isMark, opens, notShortcut, by decide +kernel, ?_⟩
  rw [(parsed opens).2 (notShortcut _)]
  decide +kernel

/-- The blank between two keywords is not one the first keyword is followed by: if it were,
a filter that makes something of the empty value would give that keyword a value. -/
theorem not_forall_parse_eq_cut :
    ¬∀ (grammar : Grammar) (text : String), IsMark grammar.parameterPrefix.toList →
      let line := Text.trim text.toList
      let afterPrefix := line.drop grammar.commandPrefix.toList.length
      let word := afterPrefix.takeWhile isWord
      let rest := afterPrefix.dropWhile isWord
      OpensMark grammar.commandPrefix.toList line →
        grammar.shortcut? (String.ofList word) = none →
          grammar.parse text = .ok ⟨String.ofList word,
            .ofList (grammar.keptArguments (cut grammar.parameterPrefix.toList rest).parts)⟩ := by
  intro all
  have parsed := all { filters := [Text.replaceAll "" "x"] } "/cmd -flag -a 1"
    (by decide +kernel) (by decide +kernel) rfl
  have entries := congrArg
    (fun parsed => parsed.toOption.map fun invocation => invocation.keywords.entries) parsed
  exact absurd entries (by decide +kernel)

end ChatCommands.Grammar
