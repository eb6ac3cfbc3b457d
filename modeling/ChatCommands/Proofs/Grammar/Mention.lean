/-
# What reducing mentions changes

A mention begins with an angle bracket that opens and ends with the first one that closes after
it. Neither occurs inside, so no two mentions in a value overlap, and a value falls into its
mentions and the characters between them. Each mention gives way to its identifier and every
other character stays.

An identifier has at least one digit. So a value that is there does not vanish when its mentions
are reduced, whatever it consists of.

Main statement: `reduceMentions_reduces`.
-/

import ChatCommands.Grammar.Mention
import ChatCommands.Proofs.Text.Pieces
import Mathlib.Data.List.Infix
import Mathlib.Logic.Function.Basic

namespace ChatCommands.Grammar

open Text (ComesAfter Found Piece Settled comesAfter_cons_iff isDecimalDigit not_comesAfter_nil
  replaceFound)

/-! ## Mentions -/

/-- What a mention refers to. -/
inductive MentionKind where
  | user
  /-- A user under the name that is used in one place. -/
  | member
  | role
  | channel
deriving DecidableEq, Repr

/-- The sign of a kind of mention. -/
def MentionKind.sign : MentionKind → List Char
  | user => ['@']
  | member => ['@', '!']
  | role => ['@', '&']
  | channel => ['#']

/-- A mention of what has an identifier. -/
@[ext] structure Mention where
  /-- What is mentioned. -/
  kind : MentionKind
  /-- The identifier. -/
  digits : List Char
  nonempty : digits ≠ []
  decimal : ∀ c ∈ digits, isDecimalDigit c = true

/-- A mention as it is written. -/
def Mention.written (mention : Mention) : List Char :=
  '<' :: (mention.kind.sign ++ (mention.digits ++ ['>']))

/-- In a text, a mention stands after the part `before`. -/
def MentionAfter (cs before : List Char) (mention : Mention) : Prop :=
  before ++ mention.written <+: cs

/-- A text falls into the pieces: they spell it out, and its mentions are those among them. -/
structure FallsInto (cs : List Char) (pieces : List (Piece Mention)) : Prop where
  spells : pieces.flatMap (Piece.render Mention.written) = cs
  mentions : ∀ before mention, MentionAfter cs before mention ↔
    ComesAfter (Piece.render Mention.written) pieces before mention

/-- No mention of the text reaches over the place between its two parts. -/
def CutsNoMention (front back : List Char) : Prop :=
  ∀ before mention, MentionAfter (front ++ back) before mention →
    before ++ mention.written <+: front ∨ front <+: before

variable {cs rest before : List Char} {c : Char} {mention other : Mention}
  {pieces : List (Piece Mention)}

/-! ## Finding a mention -/

theorem Mention.exists_digits_eq_cons (mention : Mention) :
    ∃ first others, mention.digits = first :: others ∧ isDecimalDigit first = true := by
  obtain ⟨first, others, same⟩ := List.exists_cons_of_ne_nil mention.nonempty
  exact ⟨first, others, same, mention.decimal first (by rw [same]; exact List.mem_cons_self)⟩

theorem exists_sign_of_mentionOpening? {opening : Nat}
    (opened : mentionOpening? cs = some (opening, rest)) :
    ∃ kind : MentionKind, cs = '<' :: (kind.sign ++ rest) ∧ opening = kind.sign.length + 1 := by
  unfold mentionOpening? at opened
  split at opened
  · cases opened
    exact ⟨.member, rfl, rfl⟩
  · cases opened
    exact ⟨.role, rfl, rfl⟩
  · cases opened
    exact ⟨.user, rfl, rfl⟩
  · cases opened
    exact ⟨.channel, rfl, rfl⟩
  · cases opened

theorem mentionOpening?_sign (kind : MentionKind) (digit : isDecimalDigit c = true) :
    mentionOpening? ('<' :: (kind.sign ++ c :: rest)) =
      some (kind.sign.length + 1, c :: rest) := by
  have notMember : c ≠ '!' := by
    rintro rfl
    revert digit
    decide
  have notRole : c ≠ '&' := by
    rintro rfl
    revert digit
    decide
  cases kind with
  | user => simp [MentionKind.sign, mentionOpening?, notMember, notRole]
  | member => rfl
  | role => rfl
  | channel => rfl

/-- A mention at the start of a text is found. -/
theorem mentionFinder_written (mention : Mention) (previous? : Option Char) (rest : List Char) :
    mentionFinder previous? (mention.written ++ rest) =
      some ⟨mention.digits, mention.written.length⟩ := by
  obtain ⟨first, others, same, digit⟩ := mention.exists_digits_eq_cons
  have text : mention.written ++ rest =
      '<' :: (mention.kind.sign ++ first :: (others ++ '>' :: rest)) := by
    rw [Mention.written, same]
    simp
  have spelled : first :: (others ++ '>' :: rest) = mention.digits ++ '>' :: rest := by
    rw [same, List.cons_append]
  have taken : (mention.digits ++ '>' :: rest).takeWhile isDecimalDigit = mention.digits := by
    rw [List.takeWhile_append_of_pos mention.decimal, List.takeWhile_cons_of_neg (by decide),
      List.append_nil]
  have dropped : (mention.digits ++ '>' :: rest).dropWhile isDecimalDigit = '>' :: rest := by
    rw [List.dropWhile_append_of_pos mention.decimal, List.dropWhile_cons_of_neg (by decide)]
  have size : mention.written.length =
      mention.kind.sign.length + 1 + mention.digits.length + 1 := by
    rw [Mention.written]
    simp
    omega
  rw [text, mentionFinder, mentionOpening?_sign mention.kind digit, size]
  simp only [spelled, taken, dropped]
  rw [same]
  rfl

/-- What is found is the mention at the start. -/
theorem exists_written_of_mentionFinder {previous? : Option Char} {found : Found (List Char)}
    (success : mentionFinder previous? cs = some found) :
    ∃ mention : Mention, ∃ rest, cs = mention.written ++ rest ∧
      found = ⟨mention.digits, mention.written.length⟩ := by
  have again := success
  unfold mentionFinder at success
  split at success
  · cases success
  · next opening inner opened =>
    obtain ⟨kind, rfl, rfl⟩ := exists_sign_of_mentionOpening? opened
    simp only at success
    split at success
    · next first others rest digits closing =>
      let mention : Mention :=
        { kind, digits := inner.takeWhile isDecimalDigit
          nonempty := by rw [digits]; exact List.cons_ne_nil first others
          decimal := fun d member => List.mem_takeWhile_imp member }
      have whole : '<' :: (kind.sign ++ inner) = mention.written ++ rest := by
        have split : inner = inner.takeWhile isDecimalDigit ++ '>' :: rest := by
          rw [← closing, List.takeWhile_append_dropWhile]
        simp only [mention, Mention.written]
        rw [List.cons_append, List.append_assoc, List.append_assoc, List.singleton_append, ← split]
      rw [whole, mentionFinder_written] at again
      exact ⟨mention, rest, whole, (Option.some.inj again).symm⟩
    · cases success

/-- The finder finds the mention a text begins with, if it begins with one. -/
theorem mentionFinder_eq_some_iff {previous? : Option Char} {found : Found (List Char)} :
    mentionFinder previous? cs = some found ↔
      ∃ mention : Mention, mention.written <+: cs ∧
        found = ⟨mention.digits, mention.written.length⟩ := by
  constructor
  · intro success
    obtain ⟨mention, rest, rfl, same⟩ := exists_written_of_mentionFinder success
    exact ⟨mention, List.prefix_append _ _, same⟩
  · rintro ⟨mention, ⟨rest, rfl⟩, rfl⟩
    exact mentionFinder_written mention previous? rest

theorem not_prefix_of_mentionFinder {previous? : Option Char}
    (nothing : mentionFinder previous? cs = none) (mention : Mention) :
    ¬mention.written <+: cs := by
  intro begins
  rw [mentionFinder_eq_some_iff.mpr ⟨mention, begins, rfl⟩] at nothing
  cases nothing

theorem Mention.written_ne_nil (mention : Mention) : mention.written ≠ [] :=
  List.cons_ne_nil '<' _

theorem MentionKind.sign_injective : Function.Injective MentionKind.sign := by
  intro kind other
  cases kind <;> cases other <;> decide

theorem Mention.written_injective : Function.Injective Mention.written := by
  intro mention other same
  have found := mentionFinder_written mention none []
  rw [same, mentionFinder_written] at found
  have digits : mention.digits = other.digits :=
    (congrArg Found.value (Option.some.inj found)).symm
  rw [Mention.written, Mention.written, digits] at same
  have sign := List.append_cancel_right (List.cons.inj same).2
  exact Mention.ext (MentionKind.sign_injective sign) digits

/-- At one place of a text there is only one mention. -/
theorem Mention.written_prefix_unique (first : mention.written <+: cs)
    (second : other.written <+: cs) : mention = other := by
  have found : mentionFinder none cs = some ⟨mention.digits, mention.written.length⟩ :=
    mentionFinder_eq_some_iff.mpr ⟨mention, first, rfl⟩
  rw [mentionFinder_eq_some_iff.mpr ⟨other, second, rfl⟩] at found
  have size : other.written.length = mention.written.length :=
    congrArg Found.length (Option.some.inj found)
  have inside := List.prefix_of_prefix_length_le first second size.ge
  exact Mention.written_injective (inside.eq_of_length size.symm)

/-! ## Where mentions stand -/

theorem mentionAfter_cons_cons_iff {d : Char} :
    MentionAfter (c :: cs) (d :: before) mention ↔ d = c ∧ MentionAfter cs before mention :=
  List.cons_prefix_cons

theorem mentionAfter_append_append_iff {taken : List Char} :
    MentionAfter (taken ++ rest) (taken ++ before) mention ↔ MentionAfter rest before mention := by
  rw [MentionAfter, List.append_assoc, List.prefix_append_right_inj]
  rfl

/-- Where no mention begins, one stands further on. -/
theorem mentionAfter_cons_iff (nothing : ¬mention.written <+: c :: cs) :
    MentionAfter (c :: cs) before mention ↔
      ∃ later, before = c :: later ∧ MentionAfter cs later mention :=
  Text.append_prefix_cons_iff nothing

/-- In a stretch without an opening bracket no mention begins. -/
theorem mentionAfter_append_iff {taken : List Char} (absent : '<' ∉ taken) :
    MentionAfter (taken ++ rest) before mention ↔
      ∃ later, before = taken ++ later ∧ MentionAfter rest later mention :=
  Text.append_prefix_append_iff absent

/-- The bracket that opens a mention does not occur again in it. -/
theorem Mention.not_mem_after_opening (mention : Mention) :
    '<' ∉ mention.kind.sign ++ (mention.digits ++ ['>']) := by
  have unsigned : '<' ∉ mention.kind.sign := by
    cases mention.kind <;> decide
  have undigited : '<' ∉ mention.digits := by
    intro member
    have digit := mention.decimal '<' member
    revert digit
    decide
  simp [unsigned, undigited]

/-- A mention holds no other one, and none that begins in it goes on after it. -/
theorem mentionAfter_written_append_iff :
    MentionAfter (mention.written ++ rest) before other ↔
      before = [] ∧ other = mention ∨
        ∃ later, before = mention.written ++ later ∧ MentionAfter rest later other := by
  cases before with
  | nil =>
      constructor
      · intro stands
        exact .inl ⟨rfl, Mention.written_prefix_unique stands (List.prefix_append _ _)⟩
      · rintro (⟨-, rfl⟩ | ⟨later, same, -⟩)
        · exact List.prefix_append _ _
        · cases same
  | cons d before =>
      rw [Mention.written, List.cons_append, mentionAfter_cons_cons_iff,
        mentionAfter_append_iff mention.not_mem_after_opening]
      constructor
      · rintro ⟨rfl, later, rfl, stands⟩
        exact .inr ⟨later, rfl, stands⟩
      · rintro (⟨same, -⟩ | ⟨later, same, stands⟩)
        · cases same
        · cases same
          exact ⟨rfl, later, rfl, stands⟩

/-- Of two mentions in a text, the one that begins first ends before the other begins. -/
theorem MentionAfter.eq_or_before {earlier : List Char} (first : MentionAfter cs earlier other)
    (second : MentionAfter cs before mention) (ahead : earlier <+: before) :
    earlier = before ∧ other = mention ∨ earlier ++ other.written <+: before := by
  obtain ⟨rest, rfl⟩ := first
  obtain ⟨more, rfl⟩ := ahead
  rw [List.append_assoc, mentionAfter_append_append_iff, mentionAfter_written_append_iff] at second
  rcases second with ⟨rfl, rfl⟩ | ⟨later, rfl, -⟩
  · exact .inl ⟨by rw [List.append_nil], rfl⟩
  · rw [← List.append_assoc]
    exact .inr (List.prefix_append _ _)

/-- Two mentions in a text do not overlap, unless they are one. -/
theorem MentionAfter.disjoint {earlier : List Char} (first : MentionAfter cs earlier other)
    (second : MentionAfter cs before mention) :
    earlier = before ∧ other = mention ∨ earlier ++ other.written <+: before ∨
      before ++ mention.written <+: earlier := by
  rcases List.prefix_or_prefix_of_prefix ((List.prefix_append _ _).trans first)
    ((List.prefix_append _ _).trans second) with ahead | behind
  · exact (first.eq_or_before second ahead).imp_right .inl
  · rcases second.eq_or_before first behind with ⟨rfl, rfl⟩ | apart
    · exact .inl ⟨rfl, rfl⟩
    · exact .inr (.inr apart)

/-! ## Parts of a value -/

/-- Where no mention is cut, either part of a value is read on its own. -/
theorem CutsNoMention.settled {front back : List Char} (cut : CutsNoMention front back) :
    Settled mentionFinder front back where
  agrees previous? part suffix nonempty := by
    obtain ⟨before, rfl⟩ := suffix
    apply Option.ext
    intro found
    rw [mentionFinder_eq_some_iff, mentionFinder_eq_some_iff]
    refine exists_congr fun mention => and_congr_left fun _ => ⟨fun begins => ?_, fun begins =>
      begins.trans (List.prefix_append part back)⟩
    have stands : MentionAfter (before ++ part ++ back) before mention := by
      rw [List.append_assoc]
      exact (List.prefix_append_right_inj before).mpr begins
    rcases cut before mention stands with inside | beyond
    · exact (List.prefix_append_right_inj before).mp inside
    · have sizes := beyond.length_le
      rw [List.length_append] at sizes
      exact absurd (List.eq_nil_of_length_eq_zero (by omega)) nonempty
  within previous? part found _ success := by
    obtain ⟨mention, begins, rfl⟩ := mentionFinder_eq_some_iff.mp success
    exact begins.length_le

theorem replaceFound_append_of_cutsNoMention {front back : List Char}
    (cut : CutsNoMention front back) :
    replaceFound mentionFinder id (front ++ back) =
      replaceFound mentionFinder id front ++ replaceFound mentionFinder id back :=
  cut.settled.replaceFound_append rfl

/-- A text without mentions stays as it is. -/
theorem replaceFound_mentionFinder_eq_self
    (nothing : ∀ before mention, ¬MentionAfter cs before mention) :
    replaceFound mentionFinder id cs = cs := by
  apply Text.replaceFound_eq_self
  rintro previous? part ⟨before, rfl⟩
  rw [Option.eq_none_iff_forall_ne_some]
  intro found success
  obtain ⟨mention, begins, -⟩ := mentionFinder_eq_some_iff.mp success
  exact nothing before mention ((List.prefix_append_right_inj before).mpr begins)

/-! ## Values that do not vanish -/

theorem value_ne_nil_of_mentionFinder {previous? : Option Char} {found : Found (List Char)}
    (success : mentionFinder previous? cs = some found) : found.value ≠ [] := by
  obtain ⟨mention, -, rfl⟩ := mentionFinder_eq_some_iff.mp success
  exact mention.nonempty

theorem replaceFound_mentionFinder_ne_nil (nonempty : cs ≠ []) :
    replaceFound mentionFinder id cs ≠ [] := by
  cases cs with
  | nil => exact absurd rfl nonempty
  | cons c rest =>
      rw [replaceFound, Text.pieces, Text.piecesFrom]
      split
      · next found success =>
        intro vanished
        rw [List.flatMap_cons, List.append_eq_nil_iff] at vanished
        exact value_ne_nil_of_mentionFinder success vanished.1
      · intro vanished
        rw [List.flatMap_cons, List.append_eq_nil_iff] at vanished
        exact List.cons_ne_nil c [] vanished.1

/-- A value that is there does not vanish. -/
theorem reduceMentions_ne_empty {value : String} (nonempty : value ≠ "") :
    reduceMentions value ≠ "" := by
  have chars : value.toList ≠ [] := by
    rw [ne_eq, String.toList_eq_nil_iff]
    exact nonempty
  intro vanished
  rw [reduceMentions, String.ofList_eq_empty_iff] at vanished
  exact replaceFound_mentionFinder_ne_nil chars vanished

/-! ## Falling into mentions and other characters -/

theorem fallsInto_nil : FallsInto [] [] where
  spells := rfl
  mentions before mention := by
    refine iff_of_false (fun stands => ?_) not_comesAfter_nil
    exact mention.written_ne_nil (List.append_eq_nil_iff.mp (List.prefix_nil.mp stands)).2

theorem FallsInto.ofChar (nothing : ∀ mention : Mention, ¬mention.written <+: c :: rest)
    (falls : FallsInto rest pieces) : FallsInto (c :: rest) (.char c :: pieces) where
  spells := congrArg (List.cons c) falls.spells
  mentions before mention := by
    rw [comesAfter_cons_iff, mentionAfter_cons_iff (nothing mention)]
    simp only [falls.mentions, Piece.render, List.singleton_append, reduceCtorEq, false_and,
      false_or]

theorem FallsInto.ofMention (mention : Mention) (falls : FallsInto rest pieces) :
    FallsInto (mention.written ++ rest) (.found mention :: pieces) where
  spells := congrArg (mention.written ++ ·) falls.spells
  mentions before other := by
    rw [comesAfter_cons_iff, mentionAfter_written_append_iff]
    simp only [falls.mentions, Piece.render, Piece.found.injEq, and_comm, eq_comm]

/-- A text falls into its mentions and the other characters; every mention gives way to its
identifier, and the other characters stay. -/
theorem exists_fallsInto (cs : List Char) :
    ∃ pieces, FallsInto cs pieces ∧
      replaceFound mentionFinder id cs = pieces.flatMap (Piece.render Mention.digits) := by
  induction size : cs.length using Nat.strong_induction_on generalizing cs with
  | _ length ih =>
      cases here : mentionFinder none cs with
      | none =>
          have nothing := not_prefix_of_mentionFinder here
          cases cs with
          | nil => exact ⟨[], fallsInto_nil, Text.replaceFound_nil _ _⟩
          | cons c rest =>
              obtain ⟨pieces, falls, reduced⟩ := ih rest.length (by simp [← size]) rest rfl
              refine ⟨.char c :: pieces, .ofChar nothing falls, ?_⟩
              rw [Text.replaceFound_cons_of_none here rfl, reduced]
              rfl
      | some found =>
          obtain ⟨mention, ⟨rest, rfl⟩, rfl⟩ := mentionFinder_eq_some_iff.mp here
          have shorter : rest.length < length := by
            have some := List.length_pos_iff.mpr mention.written_ne_nil
            rw [List.length_append] at size
            omega
          obtain ⟨pieces, falls, reduced⟩ := ih rest.length shorter rest rfl
          refine ⟨.found mention :: pieces, .ofMention mention falls, ?_⟩
          rw [Text.replaceFound_append_of_found mention.written_ne_nil here rfl rfl, reduced]
          rfl

/-- Mentions do not overlap. A value falls into its mentions and other characters; reducing it
replaces the mentions by their identifiers, in order, and keeps the other characters. So a value
without mentions stays as it is, one that is there does not vanish, and where no mention is cut
the parts are reduced on their own. -/
theorem reduceMentions_reduces (value : String) :
    (∀ earlier other before mention, MentionAfter value.toList earlier other →
      MentionAfter value.toList before mention →
        earlier = before ∧ other = mention ∨ earlier ++ other.written <+: before ∨
          before ++ mention.written <+: earlier) ∧
    (∃ pieces, FallsInto value.toList pieces ∧
      (reduceMentions value).toList = pieces.flatMap (Piece.render Mention.digits)) ∧
    ((∀ before mention, ¬MentionAfter value.toList before mention) →
      reduceMentions value = value) ∧
    (value ≠ "" → reduceMentions value ≠ "") ∧
    ∀ front back, value = front ++ back → CutsNoMention front.toList back.toList →
      reduceMentions value = reduceMentions front ++ reduceMentions back := by
  refine ⟨fun _ _ _ _ first second => first.disjoint second, ?_, fun nothing => ?_,
    reduceMentions_ne_empty, ?_⟩
  · obtain ⟨pieces, falls, reduced⟩ := exists_fallsInto value.toList
    exact ⟨pieces, falls, by rw [reduceMentions, String.toList_ofList, reduced]⟩
  · rw [reduceMentions, replaceFound_mentionFinder_eq_self nothing, String.ofList_toList]
  · rintro front back rfl cut
    rw [reduceMentions, String.toList_append, replaceFound_append_of_cutsNoMention cut,
      String.ofList_append]
    rfl

/-- What comes of a mention inside unfinished markup looks like a mention; it was none. -/
theorem reduceMentions_reduces_nested :
    CutsNoMention "<@".toList "<@!12>34>".toList ∧
      (∃ mention : Mention, mention.digits = ['1', '2'] ∧
        MentionAfter ("<@" ++ "<@!12>34>").toList "<@".toList mention) ∧
      (∀ before mention, ¬MentionAfter "<@".toList before mention) ∧
      reduceMentions ("<@" ++ "<@!12>34>") = "<@" ++ reduceMentions "<@!12>34>" ∧
      reduceMentions "<@!12>34>" ≠ "" ∧ reduceMentions "<@!12>34>" = "1234>" := by
  have cut : CutsNoMention "<@".toList "<@!12>34>".toList := by
    intro before mention stands
    have front : "<@".toList = ['<', '@'] := by decide
    rw [front] at stands ⊢
    have first : mentionFinder none ('<' :: '@' :: "<@!12>34>".toList) = none := by decide
    have second : mentionFinder none ('@' :: "<@!12>34>".toList) = none := by decide
    obtain ⟨_, rfl, inRest⟩ :=
      (mentionAfter_cons_iff (not_prefix_of_mentionFinder first mention)).mp stands
    obtain ⟨later, rfl, -⟩ :=
      (mentionAfter_cons_iff (not_prefix_of_mentionFinder second mention)).mp inRest
    exact .inr (List.prefix_append ['<', '@'] later)
  have unfinished : ∀ before mention, ¬MentionAfter "<@".toList before mention := by
    intro before mention stands
    have closing : '>' ∈ mention.written := by simp [Mention.written]
    have inText := stands.subset (List.mem_append_right before closing)
    revert inText
    decide
  obtain ⟨-, -, stays, -⟩ := reduceMentions_reduces "<@"
  obtain ⟨-, -, -, remains, -⟩ := reduceMentions_reduces "<@!12>34>"
  obtain ⟨-, -, -, -, parts⟩ := reduceMentions_reduces ("<@" ++ "<@!12>34>")
  refine ⟨cut, ⟨⟨.member, ['1', '2'], by decide, List.all_eq_true.mp (by decide)⟩, rfl, ?_⟩,
    unfinished, ?_, remains (by decide), by decide⟩
  · exact ⟨['3', '4', '>'], by decide⟩
  · rw [parts "<@" "<@!12>34>" rfl cut, stays unfinished]

end ChatCommands.Grammar
