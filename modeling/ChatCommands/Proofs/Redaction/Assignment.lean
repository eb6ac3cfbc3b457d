/-
# Secrets that are assigned

An assignment is a secret word in any case, a separator and a value. The word and the
value hold no blanks, but the separator may, on either side of its mark. So an
assignment that begins in the first part of a text can be told from that part alone in
two cases only: it is complete there, or it cannot be completed, because the part does
not end where the value is awaited and what follows does not supply the mark.
-/

import ChatCommands.Redaction
import ChatCommands.Proofs.Text.Pieces
import Mathlib.Data.List.Infix

namespace ChatCommands.Redaction

open Text (AllBlank BlankFirst Found PassesBlanks Settled isBlank isWord)

variable {cs tail : List Char}

/-! ## Secret words -/

theorem foldCase_of_isBlank {c : Char} (blank : isBlank c = true) : foldCase c = c := by
  refine @Text.of_isBlank (fun c => foldCase c = c) ?_ c blank
  decide +kernel

theorem isBlank_eq_false_of_mem_secretWord {word : List Char} (secret : word ∈ secretWords)
    {w : Char} (member : w ∈ word) : isBlank w = false := by
  have table : ∀ word ∈ secretWords, word.any isBlank = false := by decide +kernel
  exact eq_false_of_ne_true (List.any_eq_false.mp (table word secret) w member)

/-- Secret words differ in their first letters. -/
theorem eq_of_head?_eq {word other : List Char} (secret : word ∈ secretWords)
    (otherSecret : other ∈ secretWords) (same : word.head? = other.head?) : word = other := by
  have table : ∀ word ∈ secretWords, ∀ other ∈ secretWords,
      word.head? = other.head? → word = other := by decide +kernel
  exact table word secret other otherSecret same

/-- The letters of a spelled word are not blanks, in whatever case they are. -/
theorem isBlank_eq_false_of_mem_spelled {spelled : List Char}
    (secret : spelled.map foldCase ∈ secretWords) {c : Char} (member : c ∈ spelled) :
    isBlank c = false := by
  have folded := isBlank_eq_false_of_mem_secretWord secret (List.mem_map_of_mem member)
  cases blank : isBlank c with
  | false => rfl
  | true =>
      rw [foldCase_of_isBlank blank, blank] at folded
      cases folded

theorem afterWord?_eq_some_iff {word rest : List Char} :
    afterWord? word cs = some rest ↔
      ∃ spelled, cs = spelled ++ rest ∧ spelled.map foldCase = word := by
  induction word generalizing cs with
  | nil =>
      simp only [afterWord?, Option.some.injEq, List.map_eq_nil_iff]
      constructor
      · rintro rfl
        exact ⟨[], rfl, rfl⟩
      · rintro ⟨spelled, rfl, rfl⟩
        rfl
  | cons w word ih =>
      cases cs with
      | nil =>
          simp only [afterWord?, reduceCtorEq, false_iff]
          rintro ⟨spelled, same, folded⟩
          rw [(List.append_eq_nil_iff.mp same.symm).1] at folded
          cases folded
      | cons c cs =>
          simp only [afterWord?]
          constructor
          · intro found
            split at found
            · next same =>
              obtain ⟨spelled, rfl, rfl⟩ := ih.mp found
              exact ⟨c :: spelled, rfl, by rw [List.map_cons, same]⟩
            · cases found
          · rintro ⟨spelled, same, folded⟩
            cases spelled with
            | nil => cases folded
            | cons d spelled =>
                simp only [List.cons_append, List.map_cons, List.cons.injEq] at same folded
                obtain ⟨rfl, same⟩ := same
                rw [if_pos folded.1]
                exact ih.mpr ⟨spelled, same, folded.2⟩

theorem of_afterSecretWord? {rest : List Char} (found : afterSecretWord? cs = some rest) :
    ∃ spelled, cs = spelled ++ rest ∧ spelled.map foldCase ∈ secretWords := by
  obtain ⟨word, secret, here⟩ := List.exists_of_findSome?_eq_some found
  obtain ⟨spelled, same, rfl⟩ := afterWord?_eq_some_iff.mp here
  exact ⟨spelled, same, secret⟩

/-- A text cannot begin with two secret words. -/
theorem afterSecretWord?_append_of_mem {spelled : List Char}
    (secret : spelled.map foldCase ∈ secretWords) (rest : List Char) :
    afterSecretWord? (spelled ++ rest) = some rest := by
  have whole : afterWord? (spelled.map foldCase) (spelled ++ rest) = some rest :=
    afterWord?_eq_some_iff.mpr ⟨spelled, rfl, rfl⟩
  have some : (afterSecretWord? (spelled ++ rest)).isSome := by
    rw [afterSecretWord?, List.findSome?_isSome_iff]
    exact ⟨_, secret, by rw [whole]; rfl⟩
  obtain ⟨other, found⟩ := Option.isSome_iff_exists.mp some
  obtain ⟨spelled', same, secret'⟩ := of_afterSecretWord? found
  have nonempty : ∀ word ∈ secretWords, word ≠ [] := by decide
  have folded : spelled.map foldCase = spelled'.map foldCase := by
    refine eq_of_head?_eq secret secret' ?_
    cases spelled with
    | nil => exact absurd rfl (nonempty _ secret)
    | cons c spelled =>
        cases spelled' with
        | nil => exact absurd rfl (nonempty _ secret')
        | cons d spelled' =>
            obtain ⟨rfl, -⟩ := List.cons.inj same
            rfl
  have lengths := congrArg List.length folded
  rw [List.length_map, List.length_map] at lengths
  rw [found, (List.append_inj same lengths).2]

theorem afterSecretWord?_append (follows : BlankFirst tail) (cs : List Char) :
    afterSecretWord? (cs ++ tail) = (afterSecretWord? cs).map (· ++ tail) := by
  cases here : afterSecretWord? (cs ++ tail) with
  | some rest =>
      obtain ⟨spelled, same, secret⟩ := of_afterSecretWord? here
      obtain ⟨more, rfl⟩ := Text.solid_append_eq_append
        (fun _ member => isBlank_eq_false_of_mem_spelled secret member) follows same
      rw [List.append_assoc] at same
      rw [afterSecretWord?_append_of_mem secret, Option.map_some, List.append_cancel_left same]
  | none =>
      cases there : afterSecretWord? cs with
      | none => rfl
      | some rest =>
          obtain ⟨spelled, rfl, secret⟩ := of_afterSecretWord? there
          rw [List.append_assoc, afterSecretWord?_append_of_mem secret] at here
          cases here

/-! ## Separators -/

/-- An equals sign or a colon, with blanks on either side or none. -/
def IsSeparator (cs : List Char) : Prop :=
  ∃ lead mark trail, cs = lead ++ mark :: trail ∧ AllBlank lead ∧
    (mark = '=' ∨ mark = ':') ∧ AllBlank trail

theorem isSeparatorMark_iff {c : Char} : (c == '=' || c == ':') = true ↔ c = '=' ∨ c = ':' := by
  rw [Bool.or_eq_true, beq_iff_eq, beq_iff_eq]

theorem isBlank_eq_false_of_mark {c : Char} (mark : c = '=' ∨ c = ':') : isBlank c = false := by
  rcases mark with rfl | rfl
  · decide +kernel
  · decide +kernel

/-- A separator holds nothing but blanks and its mark. -/
theorem IsSeparator.not_mem {separator : List Char} (separates : IsSeparator separator) {c : Char}
    (solid : isBlank c = false) (notMark : ¬(c = '=' ∨ c = ':')) : c ∉ separator := by
  obtain ⟨lead, mark, trail, rfl, leading, isMark, trailing⟩ := separates
  rw [List.mem_append, List.mem_cons]
  rintro (inLead | rfl | inTrail)
  · exact leading.not_mem solid inLead
  · exact notMark isMark
  · exact trailing.not_mem solid inTrail

theorem afterSeparator?_append_of_isSeparator {separator rest : List Char}
    (separates : IsSeparator separator) (solid : ∀ c ∈ rest.head?, isBlank c = false) :
    afterSeparator? (separator ++ rest) = some rest := by
  obtain ⟨lead, mark, trail, rfl, leading, isMark, trailing⟩ := separates
  have stop : ¬isBlank mark = true := by
    rw [isBlank_eq_false_of_mark isMark]
    exact Bool.false_ne_true
  have value : (trail ++ rest).dropWhile isBlank = rest := by
    rw [← Text.trimStart, Text.trimStart_append trailing, Text.trimStart_eq_self solid]
  rw [List.append_assoc, List.cons_append, afterSeparator?,
    List.dropWhile_append_of_pos leading, List.dropWhile_cons_of_neg stop]
  simp only [isSeparatorMark_iff.mpr isMark, if_true, value]

theorem of_afterSeparator? {rest : List Char} (found : afterSeparator? cs = some rest) :
    ∃ separator, IsSeparator separator ∧ cs = separator ++ rest := by
  rw [afterSeparator?] at found
  split at found
  · next mark after same =>
    split at found
    · next isMark =>
      obtain rfl := Option.some.inj found
      refine ⟨cs.takeWhile isBlank ++ mark :: after.takeWhile isBlank,
        ⟨_, mark, _, rfl, fun c => List.mem_takeWhile_imp, isSeparatorMark_iff.mp isMark,
          fun c => List.mem_takeWhile_imp⟩, ?_⟩
      rw [List.append_assoc, List.cons_append, List.takeWhile_append_dropWhile, ← same,
        List.takeWhile_append_dropWhile]
    · cases found
  · cases found

theorem afterSeparator?_cons_of_isBlank {c : Char} (blank : isBlank c = true)
    (rest : List Char) : afterSeparator? (c :: rest) = afterSeparator? rest := by
  rw [afterSeparator?, List.dropWhile_cons_of_pos blank]
  rfl

/-- A secret word is not a separator. -/
theorem afterSeparator?_eq_none_of_mem {spelled : List Char}
    (secret : spelled.map foldCase ∈ secretWords) (rest : List Char) :
    afterSeparator? (spelled ++ rest) = none := by
  have table : ∀ word ∈ secretWords, word ≠ [] ∧ foldCase '=' ∉ word ∧ foldCase ':' ∉ word := by
    decide
  obtain ⟨nonempty, notEquals, notColon⟩ := table _ secret
  cases spelled with
  | nil => exact absurd rfl nonempty
  | cons c spelled =>
      have solid : ¬isBlank c = true := by
        rw [isBlank_eq_false_of_mem_spelled secret List.mem_cons_self]
        exact Bool.false_ne_true
      have other : ¬(c == '=' || c == ':') = true := by
        rw [isSeparatorMark_iff]
        rintro (rfl | rfl)
        · exact notEquals List.mem_cons_self
        · exact notColon List.mem_cons_self
      rw [List.cons_append, afterSeparator?, List.dropWhile_cons_of_neg solid]
      exact if_neg other

/-- A separator is complete in the first part of a text unless the part is one itself. -/
theorem afterSeparator?_append (markless : afterSeparator? tail = none)
    (settled : ¬IsSeparator cs) :
    afterSeparator? (cs ++ tail) = (afterSeparator? cs).map (· ++ tail) := by
  cases solid : cs.dropWhile isBlank with
  | nil =>
      have blank := List.dropWhile_eq_nil_iff.mp solid
      have nothing : afterSeparator? cs = none := by rw [afterSeparator?, solid]
      rw [nothing, afterSeparator?, List.dropWhile_append_of_pos blank]
      exact markless
  | cons c rest =>
      have front : (cs ++ tail).dropWhile isBlank = c :: (rest ++ tail) := by
        rw [List.dropWhile_append, solid]
        rfl
      rw [afterSeparator?, afterSeparator?, front, solid]
      dsimp only
      split
      · next isMark =>
        have value : rest.dropWhile isBlank ≠ [] := by
          intro nothing
          refine settled ⟨cs.takeWhile isBlank, c, rest, ?_, fun d => List.mem_takeWhile_imp,
            isSeparatorMark_iff.mp isMark, List.dropWhile_eq_nil_iff.mp nothing⟩
          rw [← solid, List.takeWhile_append_dropWhile]
        simp only [Option.map_some, List.dropWhile_append, List.isEmpty_iff, if_neg value]
      · rfl

/-! ## Assignments -/

/-- A text that ends with a secret word and a separator. The value, if there is one,
comes after it. -/
def AwaitsValue (cs : List Char) : Prop :=
  ∃ spelled separator, spelled.map foldCase ∈ secretWords ∧ IsSeparator separator ∧
    spelled ++ separator <:+ cs

instance (cs : List Char) : Decidable (AwaitsValue cs) :=
  decidable_of_iff
    (∃ part ∈ cs.tails, (afterSecretWord? part).bind afterSeparator? = some []) <| by
    constructor
    · rintro ⟨part, member, here⟩
      obtain ⟨rest, afterWord, afterSeparator⟩ := Option.bind_eq_some_iff.mp here
      obtain ⟨spelled, rfl, secret⟩ := of_afterSecretWord? afterWord
      obtain ⟨separator, separates, rfl⟩ := of_afterSeparator? afterSeparator
      rw [List.append_nil] at member
      exact ⟨spelled, separator, secret, separates, (List.mem_tails _ _).mp member⟩
    · rintro ⟨spelled, separator, secret, separates, ends⟩
      refine ⟨_, (List.mem_tails _ _).mpr ends, ?_⟩
      have whole : afterSeparator? (separator ++ []) = some [] :=
        afterSeparator?_append_of_isSeparator separates (by simp)
      rw [List.append_nil] at whole
      rw [afterSecretWord?_append_of_mem secret, Option.bind_some, whole]

theorem AwaitsValue.of_suffix {part : List Char} (awaits : AwaitsValue part)
    (suffix : part <:+ cs) : AwaitsValue cs := by
  obtain ⟨spelled, separator, secret, separates, ends⟩ := awaits
  exact ⟨spelled, separator, secret, separates, ends.trans suffix⟩

/-- A blank more does not bring the value. -/
theorem AwaitsValue.append_blank (awaits : AwaitsValue cs) {c : Char}
    (blank : isBlank c = true) : AwaitsValue (cs ++ [c]) := by
  obtain ⟨spelled, separator, secret, ⟨lead, mark, trail, rfl, leading, isMark, trailing⟩,
    before, rfl⟩ := awaits
  refine ⟨spelled, lead ++ mark :: (trail ++ [c]), secret,
    ⟨lead, mark, trail ++ [c], rfl, leading, isMark, trailing.concat blank⟩, before, ?_⟩
  simp only [List.append_assoc, List.cons_append]

theorem value?_append (follows : BlankFirst tail) (markless : afterSeparator? tail = none)
    (settled : ¬AwaitsValue cs) :
    (afterSecretWord? (cs ++ tail)).bind afterSeparator? =
      ((afterSecretWord? cs).bind afterSeparator?).map (· ++ tail) := by
  rw [afterSecretWord?_append follows]
  cases found : afterSecretWord? cs with
  | none => rfl
  | some rest =>
      obtain ⟨spelled, rfl, secret⟩ := of_afterSecretWord? found
      have complete : ¬IsSeparator rest := fun separates =>
        settled ⟨spelled, rest, secret, separates, List.suffix_refl _⟩
      exact afterSeparator?_append markless complete

theorem suffix_of_value? {value : List Char}
    (found : (afterSecretWord? cs).bind afterSeparator? = some value) : value <:+ cs := by
  obtain ⟨rest, afterWord, afterSeparator⟩ := Option.bind_eq_some_iff.mp found
  obtain ⟨spelled, rfl, -⟩ := of_afterSecretWord? afterWord
  obtain ⟨separator, -, rfl⟩ := of_afterSeparator? afterSeparator
  rw [← List.append_assoc]
  exact List.suffix_append _ _

theorem isWordStart_of_isBlank {c : Char} (blank : isBlank c = true) :
    isWordStart (some c) = true := by
  rw [isWordStart, Text.isWord_eq_false_of_isBlank blank]
  rfl

theorem assignmentFinder_append (before : Option Char) (follows : BlankFirst tail)
    (markless : afterSeparator? tail = none) (settled : ¬AwaitsValue cs) :
    assignmentFinder before (cs ++ tail) = assignmentFinder before cs := by
  unfold assignmentFinder
  split
  · rw [value?_append follows markless settled]
    cases found : (afterSecretWord? cs).bind afterSeparator? with
    | none => rfl
    | some value =>
        have run : (value ++ tail).takeWhile (fun c => !isBlank c) =
            value.takeWhile fun c => !isBlank c :=
          Text.takeWhile_append_of_blankFirst (fun _ blank => by rw [blank]; rfl) follows value
        have kept : (cs ++ tail).length - (value ++ tail).length =
            cs.length - value.length := by
          rw [List.length_append, List.length_append, Nat.add_sub_add_right]
        simp only [Option.map_some, run, kept,
          List.take_append_of_le_length (Nat.sub_le cs.length value.length)]
  · rfl

theorem of_assignmentFinder {before : Option Char} {found : Found (List Char)}
    (here : assignmentFinder before cs = some found) : found.length ≤ cs.length := by
  unfold assignmentFinder at here
  split at here
  · cases assigned : (afterSecretWord? cs).bind afterSeparator? with
    | none => simp only [assigned, reduceCtorEq] at here
    | some value =>
        simp only [assigned] at here
        split at here
        · cases here
        obtain rfl := Option.some.inj here
        have inside := (suffix_of_value? assigned).length_le
        have run := (@List.takeWhile_prefix _ value fun c => !isBlank c).length_le
        dsimp only
        omega
  · cases here

theorem afterSecretWord?_of_blankFirst (follows : BlankFirst tail) :
    afterSecretWord? tail = none :=
  afterSecretWord?_append follows []

theorem passesBlanks_assignmentFinder : PassesBlanks assignmentFinder := by
  intro before cs follows
  unfold assignmentFinder
  rw [afterSecretWord?_of_blankFirst follows]
  split
  · rfl
  · rfl

theorem settled_assignmentFinder (follows : BlankFirst tail)
    (markless : afterSeparator? tail = none) (settled : ¬AwaitsValue cs) :
    Settled assignmentFinder cs tail where
  agrees before _ suffix _ := assignmentFinder_append before follows markless fun awaits =>
    settled (awaits.of_suffix suffix)
  within _ _ _ _ here := of_assignmentFinder here

/-- A secret word, a separator and a value are found as such, up to the next blank. -/
theorem assignmentFinder_append_of_isSeparator {before : Option Char}
    {word separator value : List Char} (starts : isWordStart before = true)
    (secret : word.map foldCase ∈ secretWords) (separates : IsSeparator separator)
    (nonempty : value ≠ []) (solid : ∀ c ∈ value, isBlank c = false)
    (follows : BlankFirst tail) :
    assignmentFinder before ((word ++ separator ++ value) ++ tail) =
      some ⟨word ++ separator, (word ++ separator ++ value).length⟩ := by
  have assigned : (afterSecretWord? ((word ++ separator ++ value) ++ tail)).bind afterSeparator? =
      some (value ++ tail) := by
    simp only [List.append_assoc]
    rw [afterSecretWord?_append_of_mem secret, Option.bind_some]
    refine afterSeparator?_append_of_isSeparator separates ?_
    cases value with
    | nil => exact absurd rfl nonempty
    | cons c value =>
        rintro d member
        cases member
        exact solid c List.mem_cons_self
  have run : (value ++ tail).takeWhile (fun c => !isBlank c) = value := by
    rw [Text.takeWhile_append_of_blankFirst (fun _ blank => by rw [blank]; rfl) follows,
      List.takeWhile_eq_self_iff]
    intro c member
    rw [solid c member]
    rfl
  have kept : ((word ++ separator ++ value) ++ tail).length - (value ++ tail).length =
      (word ++ separator).length := by
    simp only [List.length_append]
    omega
  have some : ¬value.length = 0 := fun zero => nonempty (List.eq_nil_of_length_eq_zero zero)
  unfold assignmentFinder
  rw [if_pos starts, assigned]
  simp only [run, kept, if_neg some]
  rw [List.append_assoc _ value tail, List.take_left]
  simp only [List.length_append]

end ChatCommands.Redaction
