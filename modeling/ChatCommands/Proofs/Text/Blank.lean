/-
# Blanks around and between words

No character is both a blank and part of a word, so a word ends where blanks begin.
Trimming removes exactly the blanks around a text that neither begins nor ends with one.
-/

import ChatCommands.Text.Trim
import Mathlib.Data.List.TakeWhile

namespace ChatCommands.Text

/-! ## Blanks are not word characters -/

/-- The code points of the blanks. -/
def blankCodes : List Nat :=
  [0x9, 0xA, 0xB, 0xC, 0xD, 0x20, 0x85, 0xA0, 0x1680, 0x2000, 0x2001, 0x2002, 0x2003, 0x2004,
    0x2005, 0x2006, 0x2007, 0x2008, 0x2009, 0x200A, 0x2028, 0x2029, 0x202F, 0x205F, 0x3000]

/-- The ranges of the blanks hold these code points and no others. -/
theorem toNat_mem_blankCodes {c : Char} (blank : isBlank c = true) : c.toNat ∈ blankCodes := by
  rw [isBlank, inRanges_eq_true_iff] at blank
  obtain ⟨range, member, above, below⟩ := blank
  simp only [blankRanges, List.mem_cons, List.not_mem_nil, or_false] at member
  simp only [blankCodes, List.mem_cons, List.not_mem_nil, or_false]
  rcases member with rfl | rfl | rfl | rfl | rfl | rfl | rfl | rfl | rfl | rfl <;>
    (simp only at above below; omega)

/-- What holds of the listed code points holds of every blank. -/
theorem of_isBlank {property : Char → Prop}
    (table : ∀ code ∈ blankCodes, property (Char.ofNat code)) {c : Char}
    (blank : isBlank c = true) : property c := by
  have here := table c.toNat (toNat_mem_blankCodes blank)
  rwa [Char.ofNat_toNat] at here

theorem isWord_eq_false_of_isBlank {c : Char} (blank : isBlank c = true) : isWord c = false := by
  refine @of_isBlank (fun c => isWord c = false) ?_ c blank
  decide +kernel

theorem isBlank_eq_false_of_isWord {c : Char} (word : isWord c = true) : isBlank c = false := by
  cases blank : isBlank c with
  | false => rfl
  | true =>
      rw [isWord_eq_false_of_isBlank blank] at word
      cases word

/-! ## Gaps -/

/-- A stretch of text that holds nothing but blanks. -/
def AllBlank (cs : List Char) : Prop := ∀ c ∈ cs, isBlank c = true

instance (cs : List Char) : Decidable (AllBlank cs) :=
  decidable_of_iff (cs.all isBlank = true) List.all_eq_true

theorem allBlank_nil : AllBlank [] := by
  intro c member
  cases member

theorem AllBlank.concat {cs : List Char} (blanks : AllBlank cs) {c : Char}
    (blank : isBlank c = true) : AllBlank (cs ++ [c]) := by
  intro d member
  rcases List.mem_append.mp member with before | last
  · exact blanks d before
  · rw [List.mem_singleton.mp last]
    exact blank

theorem AllBlank.not_mem {cs : List Char} (blanks : AllBlank cs) {c : Char}
    (solid : isBlank c = false) : c ∉ cs := by
  intro member
  rw [blanks c member] at solid
  cases solid

/-- A stretch of blanks that separates: there is at least one. -/
structure IsGap (cs : List Char) : Prop where
  nonempty : cs ≠ []
  blank : AllBlank cs

instance (cs : List Char) : Decidable (IsGap cs) :=
  decidable_of_iff (cs ≠ [] ∧ AllBlank cs)
    ⟨fun both => ⟨both.1, both.2⟩, fun gap => ⟨gap.nonempty, gap.blank⟩⟩

/-- A text that is empty or goes on with a blank. -/
def BlankFirst (cs : List Char) : Prop := ∀ c ∈ cs.head?, isBlank c = true

instance (cs : List Char) : Decidable (BlankFirst cs) :=
  decidable_of_iff (cs.head?.all isBlank = true) (Option.all_eq_true _ _)

theorem blankFirst_nil : BlankFirst [] := by
  intro c member
  cases member

theorem blankFirst_cons {c : Char} {cs : List Char} (blank : isBlank c = true) :
    BlankFirst (c :: cs) := by
  intro first member
  cases member
  exact blank

theorem IsGap.blankFirst_append {gap : List Char} (isGap : IsGap gap) (cs : List Char) :
    BlankFirst (gap ++ cs) := by
  obtain ⟨nonempty, blank⟩ := isGap
  cases gap with
  | nil => exact absurd rfl nonempty
  | cons c rest => exact blankFirst_cons (blank c (by simp))

/-- A gap consists of its last blank and those before it. -/
theorem IsGap.append_eq {gap : List Char} (isGap : IsGap gap) :
    ∃ last, isBlank last = true ∧ ∀ cs, gap ++ cs = gap.dropLast ++ last :: cs := by
  refine ⟨gap.getLast isGap.nonempty, isGap.blank _ (List.getLast_mem isGap.nonempty), ?_⟩
  intro cs
  rw [List.append_cons, List.dropLast_concat_getLast isGap.nonempty]

/-! ## Runs of other characters -/

/-- A solid beginning of a text does not reach beyond the next blank. -/
theorem solid_append_eq_append {solid rest cs tail : List Char}
    (noBlank : ∀ c ∈ solid, isBlank c = false) (follows : BlankFirst tail)
    (same : cs ++ tail = solid ++ rest) : ∃ more, cs = solid ++ more := by
  rcases List.append_eq_append_iff.mp same with ⟨more, beyond, after⟩ | ⟨more, within, -⟩
  · cases more with
    | nil => exact ⟨[], by rw [beyond, List.append_nil, List.append_nil]⟩
    | cons c more =>
        have blank : isBlank c = true := follows c (by rw [after]; rfl)
        rw [noBlank c (by rw [beyond]; simp)] at blank
        cases blank
  · exact ⟨more, within⟩

section Runs

variable {p : Char → Bool} (solid : ∀ c, isBlank c = true → p c = false)
include solid

/-- A run of characters that are not blanks does not reach over the next blank. -/
theorem takeWhile_append_of_blankFirst {tail : List Char} (follows : BlankFirst tail)
    (cs : List Char) : (cs ++ tail).takeWhile p = cs.takeWhile p := by
  induction cs with
  | nil =>
      cases tail with
      | nil => rfl
      | cons c tail => rw [List.nil_append, List.takeWhile_cons, solid c (follows c rfl)]; rfl
  | cons c cs ih => rw [List.cons_append, List.takeWhile_cons, List.takeWhile_cons, ih]

theorem dropWhile_append_of_blankFirst {tail : List Char} (follows : BlankFirst tail)
    (cs : List Char) : (cs ++ tail).dropWhile p = cs.dropWhile p ++ tail := by
  induction cs with
  | nil =>
      cases tail with
      | nil => rfl
      | cons c tail => rw [List.nil_append, List.dropWhile_cons, solid c (follows c rfl)]; rfl
  | cons c cs ih =>
      rw [List.cons_append, List.dropWhile_cons, List.dropWhile_cons, ih]
      split
      · rfl
      · rfl

end Runs

/-! ## Words -/

theorem isSingleWord_iff {text : String} :
    isSingleWord text = true ↔ text.toList ≠ [] ∧ ∀ c ∈ text.toList, isWord c = true := by
  rw [isSingleWord, Bool.and_eq_true, List.all_eq_true, Bool.not_eq_true',
    String.isEmpty_eq_false_iff, ne_eq, ne_eq, String.toList_eq_nil_iff]

/-- A text that is empty or goes on with something other than a word character. -/
def WordEnds (cs : List Char) : Prop := ∀ c ∈ cs.head?, isWord c = false

instance (cs : List Char) : Decidable (WordEnds cs) :=
  decidable_of_iff (cs.head?.any isWord = false) (Option.any_eq_false _ _)

/-- A word ends where blanks begin. -/
theorem BlankFirst.wordEnds {cs : List Char} (follows : BlankFirst cs) : WordEnds cs :=
  fun c member => isWord_eq_false_of_isBlank (follows c member)

theorem WordEnds.of_append {cs tail : List Char} (ends : WordEnds (cs ++ tail)) : WordEnds cs := by
  intro c member
  apply ends c
  rw [List.head?_append, member, Option.some_or]
  rfl

theorem wordEnds_dropWhile (cs : List Char) : WordEnds (cs.dropWhile isWord) := by
  intro c member
  have stopped := List.head?_dropWhile_not isWord cs
  rw [member] at stopped
  exact stopped

theorem takeWhile_isWord_append {word rest : List Char} (all : ∀ c ∈ word, isWord c = true)
    (follows : WordEnds rest) : (word ++ rest).takeWhile isWord = word := by
  rw [List.takeWhile_append_of_pos all]
  cases rest with
  | nil => exact List.append_nil word
  | cons c rest =>
      rw [List.takeWhile_cons, follows c rfl, if_neg Bool.false_ne_true, List.append_nil]

theorem dropWhile_isWord_append {word rest : List Char} (all : ∀ c ∈ word, isWord c = true)
    (follows : WordEnds rest) : (word ++ rest).dropWhile isWord = rest := by
  rw [List.dropWhile_append_of_pos all]
  cases rest with
  | nil => rfl
  | cons c rest => rw [List.dropWhile_cons, follows c rfl, if_neg Bool.false_ne_true]

/-! ## Trimming -/

/-- A text that neither begins nor ends with a blank. -/
structure IsTrimmed (cs : List Char) : Prop where
  first : ∀ c ∈ cs.head?, isBlank c = false
  last : ∀ c ∈ cs.getLast?, isBlank c = false

instance (cs : List Char) : Decidable (IsTrimmed cs) :=
  decidable_of_iff (cs.head?.any isBlank = false ∧ cs.getLast?.any isBlank = false) <| by
    rw [Option.any_eq_false, Option.any_eq_false]
    exact ⟨fun both => ⟨both.1, both.2⟩, fun trimmed => ⟨trimmed.first, trimmed.last⟩⟩

/-- A text that ends with something other than a blank. -/
def EndsSolid (cs : List Char) : Prop := ∃ before c, cs = before ++ [c] ∧ isBlank c = false

theorem EndsSolid.append {cs : List Char} (solid : EndsSolid cs) (before : List Char) :
    EndsSolid (before ++ cs) := by
  obtain ⟨earlier, c, rfl, notBlank⟩ := solid
  exact ⟨before ++ earlier, c, by rw [List.append_assoc], notBlank⟩

theorem endsSolid_of_isWord {word : List Char} (nonempty : word ≠ [])
    (all : ∀ c ∈ word, isWord c = true) : EndsSolid word :=
  ⟨word.dropLast, word.getLast nonempty, (List.dropLast_concat_getLast nonempty).symm,
    isBlank_eq_false_of_isWord (all _ (List.getLast_mem nonempty))⟩

theorem IsTrimmed.endsSolid {cs : List Char} (trimmed : IsTrimmed cs) (nonempty : cs ≠ []) :
    EndsSolid cs :=
  ⟨cs.dropLast, cs.getLast nonempty, (List.dropLast_concat_getLast nonempty).symm,
    trimmed.last _ (List.getLast?_eq_some_getLast nonempty)⟩

theorem EndsSolid.isTrimmed {cs : List Char} (solid : EndsSolid cs)
    (first : ∀ c ∈ cs.head?, isBlank c = false) : IsTrimmed cs where
  first := first
  last := by
    obtain ⟨before, c, rfl, notBlank⟩ := solid
    rintro d member
    rw [List.getLast?_concat] at member
    cases member
    exact notBlank

theorem trimStart_append {blanks : List Char} (blank : AllBlank blanks) (cs : List Char) :
    trimStart (blanks ++ cs) = trimStart cs :=
  List.dropWhile_append_of_pos blank

theorem trimStart_eq_self {cs : List Char} (first : ∀ c ∈ cs.head?, isBlank c = false) :
    trimStart cs = cs := by
  cases cs with
  | nil => rfl
  | cons c rest => exact trimStart_cons_of_not_blank (first c rfl)

/-- A text is trimmed to the part between the blanks at its ends. -/
theorem trim_append_append {lead body trail : List Char} (leading : AllBlank lead)
    (trimmed : IsTrimmed body) (trailing : AllBlank trail) :
    trim (lead ++ (body ++ trail)) = body := by
  rw [trim, trimStart_append leading]
  cases body with
  | nil =>
      have nothing := trimStart_append trailing []
      rw [List.append_nil] at nothing
      rw [List.nil_append, nothing]
      rfl
  | cons c rest =>
      have reversed : AllBlank trail.reverse := fun d member =>
        trailing d (List.mem_reverse.mp member)
      rw [List.cons_append, trimStart_cons_of_not_blank (trimmed.first c rfl), trimEnd,
        ← List.cons_append, List.reverse_append, trimStart_append reversed, trimStart_eq_self,
        List.reverse_reverse]
      rw [List.head?_reverse]
      exact trimmed.last

theorem IsTrimmed.trim_eq_self {cs : List Char} (trimmed : IsTrimmed cs) : trim cs = cs := by
  have body := trim_append_append allBlank_nil trimmed allBlank_nil
  rwa [List.nil_append, List.append_nil] at body

/-- Trimming the end of a text removes nothing but blanks. -/
theorem exists_trimEnd_append (cs : List Char) :
    ∃ trail, AllBlank trail ∧ trimEnd cs ++ trail = cs := by
  refine ⟨(cs.reverse.takeWhile isBlank).reverse, fun c member => ?_, ?_⟩
  · exact List.mem_takeWhile_imp (List.mem_reverse.mp member)
  · rw [trimEnd, trimStart, ← List.reverse_append, List.takeWhile_append_dropWhile,
      List.reverse_reverse]

theorem isBlank_getLast?_trimEnd {cs : List Char} :
    ∀ c ∈ (trimEnd cs).getLast?, isBlank c = false := by
  intro c member
  have stopped := List.head?_dropWhile_not isBlank cs.reverse
  rw [trimEnd, List.getLast?_reverse] at member
  rw [← trimStart, member] at stopped
  exact stopped

/-- Trimming removes nothing but blanks. -/
theorem exists_append_trim_append (cs : List Char) :
    ∃ lead trail, AllBlank lead ∧ AllBlank trail ∧ cs = lead ++ (trim cs ++ trail) := by
  obtain ⟨trail, trailing, split⟩ := exists_trimEnd_append (trimStart cs)
  refine ⟨cs.takeWhile isBlank, trail, fun c member => List.mem_takeWhile_imp member, trailing, ?_⟩
  rw [trim, split]
  exact List.takeWhile_append_dropWhile.symm

/-- Trimming leaves nothing exactly of blanks. -/
theorem trim_eq_nil_iff {cs : List Char} : trim cs = [] ↔ AllBlank cs := by
  constructor
  · intro nothing
    obtain ⟨lead, trail, leading, trailing, split⟩ := exists_append_trim_append cs
    rw [split, nothing, List.nil_append]
    intro c member
    exact (List.mem_append.mp member).elim (leading c) (trailing c)
  · intro blanks
    have trimmed : IsTrimmed [] := ⟨nofun, nofun⟩
    have emptied := trim_append_append blanks trimmed allBlank_nil
    rwa [List.append_nil, List.append_nil] at emptied

theorem isTrimmed_trim (cs : List Char) : IsTrimmed (trim cs) where
  first := by
    obtain ⟨rest, split⟩ : trim cs <+: trimStart cs := by
      rw [trim, trimEnd, ← List.reverse_suffix, List.reverse_reverse]
      exact List.dropWhile_suffix isBlank
    intro c member
    have stopped := List.head?_dropWhile_not isBlank cs
    have first : (cs.dropWhile isBlank).head? = some c := by
      rw [← trimStart, ← split, List.head?_append, member, Option.some_or]
    rw [first] at stopped
    exact stopped
  last := isBlank_getLast?_trimEnd

/-- Of a solid front, a blank and more text, trimming keeps the front and what it keeps of the
text. Between them stand blanks, unless nothing is kept of the text. -/
theorem exists_gap_trim_append {front : List Char} (solid : EndsSolid front)
    (first : ∀ c ∈ front.head?, isBlank c = false) {c : Char} (blank : isBlank c = true)
    (cs : List Char) :
    ∃ gap, AllBlank gap ∧ (gap = [] ↔ trim cs = []) ∧
      trim (front ++ c :: cs) = front ++ (gap ++ trim cs) := by
  obtain ⟨lead, trail, leading, trailing, split⟩ := exists_append_trim_append cs
  have gap : AllBlank (c :: lead) := by
    intro d member
    rcases List.mem_cons.mp member with rfl | later
    · exact blank
    · exact leading d later
  by_cases nothing : trim cs = []
  · have blanks : AllBlank (c :: cs) := by
      rw [split, nothing, List.nil_append, ← List.cons_append]
      intro d member
      exact (List.mem_append.mp member).elim (gap d) (trailing d)
    refine ⟨[], allBlank_nil, by simp [nothing], ?_⟩
    rw [nothing, List.append_nil, List.append_nil]
    exact trim_append_append allBlank_nil (solid.isTrimmed first) blanks
  · have ends : EndsSolid (front ++ (c :: lead ++ trim cs)) := by
      rw [← List.append_assoc]
      exact ((isTrimmed_trim cs).endsSolid nothing).append _
    have starts : ∀ d ∈ (front ++ (c :: lead ++ trim cs)).head?, isBlank d = false := by
      obtain ⟨before, last, rfl, -⟩ := solid
      intro d member
      refine first d ?_
      cases before with
      | nil => exact member
      | cons e before => exact member
    have body : front ++ c :: cs = front ++ (c :: lead ++ trim cs) ++ trail := by
      refine (congrArg (fun rest => front ++ c :: rest) split).trans ?_
      simp only [List.append_assoc, List.cons_append]
    refine ⟨c :: lead, gap, by simp [nothing], ?_⟩
    rw [body]
    exact trim_append_append allBlank_nil (ends.isTrimmed starts) trailing

end ChatCommands.Text
