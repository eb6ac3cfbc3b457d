/-
# What the edit distance counts

The edit distance is the least number of edits that turn one text into another, where an edit
inserts, removes or changes a single character anywhere. Edits may undo one another, so the
texts in between are not bounded. An alignment pairs off the characters of both texts in one
pass instead. A chain of edits never needs more of them than the best alignment, since one more
edit can always be taken into the alignment there is.

The rows of the computation grow at the ends of both texts, while alignments grow at the front.
The distances in a row are therefore those of the texts read backwards, and alignments can be
turned around.

Main statement: `isEditDistance_editDistance`.
-/

import ChatCommands.Text.EditDistance
import Mathlib.Order.Bounds.Basic
import Mathlib.Order.MinMax

namespace ChatCommands.Text

/-! ## Edits -/

/-- One edit turns the first text into the second. -/
inductive Edit : List Char → List Char → Prop where
  | insert (c : Char) (cs : List Char) : Edit cs (c :: cs)
  | remove (c : Char) (cs : List Char) : Edit (c :: cs) cs
  | change (c d : Char) (cs : List Char) : Edit (c :: cs) (d :: cs)
  /-- The edit is further back. -/
  | behind (c : Char) {before after : List Char} (edit : Edit before after) :
    Edit (c :: before) (c :: after)

/-- A number of edits, one after the other, turn the first text into the second. -/
inductive Edits : Nat → List Char → List Char → Prop where
  | none (cs : List Char) : Edits 0 cs cs
  | next {count : Nat} {source between target : List Char} (edits : Edits count source between)
    (edit : Edit between target) : Edits (count + 1) source target

/-- The least number of edits that turn the first text into the second. -/
def IsEditDistance (source target : List Char) (count : Nat) : Prop :=
  IsLeast {count | Edits count source target} count

theorem Edits.behind {count : Nat} {source target : List Char} (c : Char)
    (edits : Edits count source target) : Edits count (c :: source) (c :: target) := by
  induction edits with
  | none cs => exact .none _
  | next _ edit ih => exact ih.next (.behind c edit)

/-! ## Alignments -/

/-- The characters of both texts are paired off in order. The number counts those that are
paired with another character or with none. -/
inductive Aligned : Nat → List Char → List Char → Prop where
  | nil : Aligned 0 [] []
  | keep {count : Nat} {source target : List Char} (c : Char)
    (rest : Aligned count source target) : Aligned count (c :: source) (c :: target)
  | change {count : Nat} {source target : List Char} (c d : Char)
    (rest : Aligned count source target) : Aligned (count + 1) (c :: source) (d :: target)
  | remove {count : Nat} {source target : List Char} (c : Char)
    (rest : Aligned count source target) : Aligned (count + 1) (c :: source) target
  | insert {count : Nat} {source target : List Char} (d : Char)
    (rest : Aligned count source target) : Aligned (count + 1) source (d :: target)

namespace Aligned

variable {count : Nat} {source target : List Char}

theorem refl (cs : List Char) : Aligned 0 cs cs := by
  induction cs with
  | nil => exact .nil
  | cons c cs ih => exact ih.keep c

/-- The pairs that differ can be edited one after the other. -/
theorem edits (aligned : Aligned count source target) : Edits count source target := by
  induction aligned with
  | nil => exact .none []
  | keep c _ ih => exact ih.behind c
  | change c d _ ih => exact (ih.behind c).next (.change c d _)
  | remove c _ ih => exact (ih.behind c).next (.remove c _)
  | insert d _ ih => exact ih.next (.insert d _)

/-- One more edit is taken in by at most one more pair that differs. -/
theorem exists_of_edit {between : List Char} (aligned : Aligned count source between)
    (edit : Edit between target) : ∃ fewer ≤ count + 1, Aligned fewer source target := by
  -- An edit at the front is seen in the first pair, one further back in the rest.
  induction aligned generalizing target with
  | nil =>
      cases edit with
      | insert c => exact ⟨1, le_rfl, Aligned.nil.insert c⟩
  | @keep count _ _ c rest ih =>
      cases edit with
      | insert d => exact ⟨count + 1, le_rfl, (rest.keep c).insert d⟩
      | remove => exact ⟨count + 1, le_rfl, rest.remove c⟩
      | change _ d => exact ⟨count + 1, le_rfl, rest.change c d⟩
      | behind _ edit =>
          obtain ⟨fewer, below, later⟩ := ih edit
          exact ⟨fewer, below, later.keep c⟩
  | @change count _ _ c d rest ih =>
      cases edit with
      | insert e => exact ⟨count + 2, le_rfl, (rest.change c d).insert e⟩
      | remove => exact ⟨count + 1, Nat.le_succ _, rest.remove c⟩
      | change _ e => exact ⟨count + 1, Nat.le_succ _, rest.change c e⟩
      | behind _ edit =>
          obtain ⟨fewer, below, later⟩ := ih edit
          exact ⟨fewer + 1, Nat.succ_le_succ below, later.change c d⟩
  | @remove count _ _ c rest ih =>
      obtain ⟨fewer, below, later⟩ := ih edit
      exact ⟨fewer + 1, Nat.succ_le_succ below, later.remove c⟩
  | @insert count _ _ d rest ih =>
      cases edit with
      | insert e => exact ⟨count + 2, le_rfl, (rest.insert d).insert e⟩
      | remove => exact ⟨count, Nat.le_add_right count 2, rest⟩
      | change _ e => exact ⟨count + 1, Nat.le_succ _, rest.insert e⟩
      | behind _ edit =>
          obtain ⟨fewer, below, later⟩ := ih edit
          exact ⟨fewer + 1, Nat.succ_le_succ below, later.insert d⟩

theorem append {more : Nat} {source' target' : List Char} (first : Aligned count source target)
    (second : Aligned more source' target') :
    Aligned (count + more) (source ++ source') (target ++ target') := by
  induction first with
  | nil => rwa [Nat.zero_add]
  | keep c _ ih => exact ih.keep c
  | change c d _ ih => rw [Nat.succ_add]; exact ih.change c d
  | remove c _ ih => rw [Nat.succ_add]; exact ih.remove c
  | insert d _ ih => rw [Nat.succ_add]; exact ih.insert d

/-- An alignment can be read backwards. -/
theorem reverse (aligned : Aligned count source target) :
    Aligned count source.reverse target.reverse := by
  induction aligned with
  | nil => exact .nil
  | keep c _ ih =>
      rw [List.reverse_cons, List.reverse_cons]
      exact ih.append (Aligned.nil.keep c)
  | change c d _ ih =>
      rw [List.reverse_cons, List.reverse_cons]
      exact ih.append (Aligned.nil.change c d)
  | @remove _ _ target c _ ih =>
      rw [List.reverse_cons, ← List.append_nil target.reverse]
      exact ih.append (Aligned.nil.remove c)
  | @insert _ source _ d _ ih =>
      rw [List.reverse_cons, ← List.append_nil source.reverse]
      exact ih.append (Aligned.nil.insert d)

end Aligned

/-- A chain of edits has an alignment with at most as many pairs that differ. -/
theorem Edits.exists_aligned {count : Nat} {source target : List Char}
    (edits : Edits count source target) : ∃ fewer ≤ count, Aligned fewer source target := by
  induction edits with
  | none cs => exact ⟨0, le_rfl, .refl cs⟩
  | next _ edit ih =>
      obtain ⟨fewer, below, aligned⟩ := ih
      obtain ⟨fewest, further, later⟩ := aligned.exists_of_edit edit
      exact ⟨fewest, further.trans (Nat.succ_le_succ below), later⟩

/-! ## Best alignments -/

/-- The least number of pairs that differ in an alignment of the texts. -/
def IsBest (source target : List Char) (count : Nat) : Prop :=
  IsLeast {count | Aligned count source target} count

namespace IsBest

variable {source target : List Char} {count : Nat}

/-- The best alignment needs no more edits than any chain. -/
theorem isEditDistance (best : IsBest source target count) :
    IsEditDistance source target count := by
  refine ⟨best.1.edits, fun other edits => ?_⟩
  obtain ⟨fewer, below, aligned⟩ := edits.exists_aligned
  exact (best.2 aligned).trans below

theorem reverse (best : IsBest source target count) :
    IsBest source.reverse target.reverse count := by
  refine ⟨best.1.reverse, fun other aligned => best.2 ?_⟩
  have back := aligned.reverse
  rwa [List.reverse_reverse, List.reverse_reverse] at back

/-- Nothing is left of the first text: the second has to be inserted. -/
theorem nil_left (target : List Char) : IsBest [] target target.length := by
  induction target with
  | nil => exact ⟨.nil, fun _ _ => Nat.zero_le _⟩
  | cons d target ih =>
      refine ⟨ih.1.insert d, fun other aligned => ?_⟩
      cases aligned with
      | insert _ rest => exact Nat.succ_le_succ (ih.2 rest)

/-- Nothing is left of the second text: the first has to be removed. -/
theorem cons_nil (best : IsBest source [] count) (c : Char) :
    IsBest (c :: source) [] (count + 1) := by
  refine ⟨best.1.remove c, fun other aligned => ?_⟩
  cases aligned with
  | remove _ rest => exact Nat.succ_le_succ (best.2 rest)

/-- The first characters of both texts are paired with each other, or one of them with none. -/
theorem cons_cons {up left diagonal : Nat} {c d : Char} (above : IsBest source (d :: target) up)
    (before : IsBest (c :: source) target left) (aside : IsBest source target diagonal) :
    IsBest (c :: source) (d :: target)
      (min (min (up + 1) (left + 1)) (if c = d then diagonal else diagonal + 1)) := by
  have paired : Aligned (if c = d then diagonal else diagonal + 1) (c :: source) (d :: target) := by
    split
    · next same => exact same ▸ aside.1.keep c
    · exact aside.1.change c d
  constructor
  · rcases min_choice (min (up + 1) (left + 1)) (if c = d then diagonal else diagonal + 1)
      with unpaired | isPaired
    · rw [unpaired]
      rcases min_choice (up + 1) (left + 1) with removed | inserted
      · rw [removed]
        exact above.1.remove c
      · rw [inserted]
        exact before.1.insert d
    · rw [isPaired]
      exact paired
  · intro other aligned
    cases aligned with
    | keep _ rest =>
        rw [if_pos rfl]
        exact (min_le_right _ _).trans (aside.2 rest)
    | change _ _ rest =>
        have below : (if c = d then diagonal else diagonal + 1) ≤ diagonal + 1 := by
          split
          · exact Nat.le_succ _
          · exact le_rfl
        exact (min_le_right _ _).trans (below.trans (Nat.succ_le_succ (aside.2 rest)))
    | remove _ rest =>
        exact (min_le_left _ _).trans ((min_le_left _ _).trans (Nat.succ_le_succ (above.2 rest)))
    | insert _ rest =>
        exact (min_le_left _ _).trans ((min_le_right _ _).trans (Nat.succ_le_succ (before.2 rest)))

end IsBest

/-! ## Rows -/

/-- A row holds the distances of a text to what has been passed of another, and to what will
have been passed after each of its characters. Both are read backwards. -/
inductive IsRow (source : List Char) : List Char → List Char → List Nat → Prop where
  | done {passed : List Char} {count : Nat} (best : IsBest source passed count) :
    IsRow source passed [] [count]
  | next {passed target : List Char} {d : Char} {count : Nat} {row : List Nat}
    (best : IsBest source passed count) (rest : IsRow source (d :: passed) target row) :
    IsRow source passed (d :: target) (count :: row)

namespace IsRow

variable {source passed target : List Char} {row : List Nat}

theorem head {count : Nat} (isRow : IsRow source passed target (count :: row)) :
    IsBest source passed count := by
  cases isRow with
  | done best => exact best
  | next best _ => exact best

/-- The first row. -/
theorem range' (passed target : List Char) :
    IsRow [] passed target (List.range' passed.length (target.length + 1)) := by
  induction target generalizing passed with
  | nil => exact .done (.nil_left passed)
  | cons d target ih => exact .next (.nil_left passed) (ih (d :: passed))

/-- The rest of a row follows from the row before and the distance found last. -/
theorem rowAfter {c : Char} {left diagonal : Nat} {above : List Nat}
    (isRow : IsRow source passed target (diagonal :: above))
    (found : IsBest (c :: source) passed left) :
    IsRow (c :: source) passed target (left :: rowAfter c target left diagonal above) := by
  induction target generalizing passed left diagonal above with
  | nil => exact .done found
  | cons d target ih =>
      cases isRow with
      | @next _ _ _ _ above aside rest =>
          cases above with
          | nil => cases rest
          | cons up above => exact .next found (ih rest (rest.head.cons_cons found aside))

theorem nextRow (isRow : IsRow source [] target row) (c : Char) :
    IsRow (c :: source) [] target (nextRow target row c) := by
  cases row with
  | nil => cases isRow
  | cons diagonal above => exact isRow.rowAfter (isRow.head.cons_nil c)

theorem foldl (isRow : IsRow source [] target row) (cs : List Char) :
    IsRow (cs.reverse ++ source) [] target (cs.foldl (Text.nextRow target) row) := by
  induction cs generalizing source row with
  | nil => exact isRow
  | cons c cs ih =>
      rw [List.reverse_cons, List.append_assoc]
      exact ih (isRow.nextRow c)

/-- The last distance is that to the whole text. -/
theorem getLast? (isRow : IsRow source passed target row) :
    ∃ count, row.getLast? = some count ∧ IsBest source (target.reverse ++ passed) count := by
  induction isRow with
  | done best => exact ⟨_, rfl, best⟩
  | next _ rest ih =>
      obtain ⟨count, last, best⟩ := ih
      refine ⟨count, ?_, ?_⟩
      · rw [List.getLast?_cons, last, Option.getD_some]
      · rw [List.reverse_cons, List.append_assoc]
        exact best

end IsRow

/-- The edit distance is the least number of edits that turn one text into the other. -/
theorem isEditDistance_editDistance (source target : List Char) :
    IsEditDistance source target (editDistance source target) := by
  have first : IsRow [] [] target (firstRow target) := by
    rw [firstRow, List.range_eq_range']
    exact .range' [] target
  obtain ⟨count, last, best⟩ := (first.foldl source).getLast?
  rw [editDistance, last, Option.getD_some]
  rw [List.append_nil, List.append_nil] at best
  have back := best.reverse
  rw [List.reverse_reverse, List.reverse_reverse] at back
  exact back.isEditDistance

end ChatCommands.Text
