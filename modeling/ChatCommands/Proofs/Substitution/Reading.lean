/-
# How a text is read

A text falls into its references, escaped or not, and the characters between them. There is
only one way to divide it like that: a reference holds only the one dollar sign it begins
with, so no two of them overlap, and the sign that escapes a reference is part of no other
one. Reading the text from left to right finds this division.

Main statement: `reads_iff`.
-/

import ChatCommands.Proofs.Substitution.Reference

namespace ChatCommands.Reference

open Text (Piece piecesFrom)

/-- A piece of a text as it stands there. -/
def written : Piece Reference → List Char
  | .char c => [c]
  | .found ⟨true, name⟩ => '$' :: literal name
  | .found ⟨false, name⟩ => literal name

/-- Among pieces, a reference follows the ones that spell out the part `before`. -/
def ComesAfter (pieces : List (Piece Reference)) (before : List Char) (reference : Reference) :
    Prop :=
  ∃ earlier later, pieces = earlier ++ .found reference :: later ∧
    before = earlier.flatMap written

/-- In a text, an escaped reference to the name stands after the part `before`. -/
structure EscapedAfter (cs before name : List Char) : Prop where
  isName : IsName name
  stands : before ++ '$' :: literal name <+: cs

/-- A text that follows the character `previous?` falls into the pieces: they spell it out, and
its references, escaped or not, are those among the pieces. -/
structure ReadAfter (previous? : Option Char) (cs : List Char)
    (pieces : List (Piece Reference)) : Prop where
  spells : pieces.flatMap written = cs
  unescaped : ∀ before name,
    OccursAfter previous? cs before name ↔ ComesAfter pieces before ⟨false, name⟩
  escaped : ∀ before name, EscapedAfter cs before name ↔ ComesAfter pieces before ⟨true, name⟩

/-- A text falls into the pieces. -/
def Reads (text : String) (pieces : List (Piece Reference)) : Prop :=
  ReadAfter none text.toList pieces

variable {previous? : Option Char} {cs rest after before name other : List Char} {c : Char}
  {piece : Piece Reference} {pieces : List (Piece Reference)} {reference : Reference}

theorem written_ne_nil (piece : Piece Reference) : written piece ≠ [] := by
  match piece with
  | .char c => exact List.cons_ne_nil c []
  | .found ⟨true, name⟩ => exact List.cons_ne_nil _ _
  | .found ⟨false, name⟩ => exact List.cons_ne_nil _ _

theorem not_comesAfter_nil : ¬ComesAfter [] before reference := Text.not_comesAfter_nil

/-- A reference is the first piece or one of the others. -/
theorem comesAfter_cons_iff :
    ComesAfter (piece :: pieces) before reference ↔
      (piece = .found reference ∧ before = []) ∨
        ∃ later, before = written piece ++ later ∧ ComesAfter pieces later reference :=
  Text.comesAfter_cons_iff

/-! ## Escaped references -/

theorem escapedAfter_nil_iff :
    EscapedAfter cs [] name ↔ IsName name ∧ '$' :: literal name <+: cs :=
  ⟨fun ⟨isName, stands⟩ => ⟨isName, stands⟩, fun ⟨isName, stands⟩ => ⟨isName, stands⟩⟩

theorem escapedAfter_cons_cons_iff {d : Char} :
    EscapedAfter (c :: cs) (d :: before) name ↔ d = c ∧ EscapedAfter cs before name := by
  constructor
  · rintro ⟨isName, stands⟩
    obtain ⟨rfl, later⟩ := List.cons_prefix_cons.mp stands
    exact ⟨rfl, isName, later⟩
  · rintro ⟨rfl, isName, stands⟩
    exact ⟨isName, List.cons_prefix_cons.mpr ⟨rfl, stands⟩⟩

/-- Where no escaped reference begins, one goes on. -/
theorem escapedAfter_cons_iff (nothing : IsName name → ¬ '$' :: literal name <+: c :: cs) :
    EscapedAfter (c :: cs) before name ↔
      ∃ later, before = c :: later ∧ EscapedAfter cs later name := by
  constructor
  · rintro ⟨isName, stands⟩
    obtain ⟨later, rfl, inRest⟩ := (Text.append_prefix_cons_iff (nothing isName)).mp stands
    exact ⟨later, rfl, isName, inRest⟩
  · rintro ⟨later, rfl, isName, inRest⟩
    exact ⟨isName, (Text.append_prefix_cons_iff (nothing isName)).mpr ⟨later, rfl, inRest⟩⟩

/-- In a stretch without a dollar sign no escaped reference begins. -/
theorem escapedAfter_append_iff {taken : List Char} (absent : '$' ∉ taken) :
    EscapedAfter (taken ++ rest) before name ↔
      ∃ later, before = taken ++ later ∧ EscapedAfter rest later name := by
  constructor
  · rintro ⟨isName, stands⟩
    obtain ⟨later, rfl, inRest⟩ := (Text.append_prefix_append_iff absent).mp stands
    exact ⟨later, rfl, isName, inRest⟩
  · rintro ⟨later, rfl, isName, inRest⟩
    exact ⟨isName, (Text.append_prefix_append_iff absent).mpr ⟨later, rfl, inRest⟩⟩

/-- A reference holds no escaped one. -/
theorem escapedAfter_literal_iff (isName : IsName other) :
    EscapedAfter (literal other ++ after) before name ↔
      ∃ later, before = literal other ++ later ∧ EscapedAfter after later name := by
  have nothing : IsName name →
      ¬ '$' :: literal name <+: '$' :: ('\x7b' :: other ++ ['\x7d'] ++ after) := by
    intro _ begins
    have second := List.cons_prefix_cons.mp (List.cons_prefix_cons.mp begins).2
    exact absurd second.1 (by decide)
  rw [literal, List.cons_append, List.cons_append, escapedAfter_cons_iff nothing]
  constructor
  · rintro ⟨_, rfl, inRest⟩
    obtain ⟨later, rfl, stands⟩ := (escapedAfter_append_iff isName.not_mem_braced).mp inRest
    exact ⟨later, rfl, stands⟩
  · rintro ⟨later, rfl, stands⟩
    exact ⟨_, rfl, (escapedAfter_append_iff isName.not_mem_braced).mpr ⟨later, rfl, stands⟩⟩

/-- An escaped reference holds no other one. -/
theorem escapedAfter_escaped_iff (isName : IsName other) :
    EscapedAfter ('$' :: (literal other ++ after)) before name ↔
      (before = [] ∧ name = other) ∨
        ∃ later, before = '$' :: (literal other ++ later) ∧ EscapedAfter after later name := by
  cases before with
  | nil =>
      rw [escapedAfter_nil_iff]
      constructor
      · rintro ⟨first, begins⟩
        exact .inl ⟨rfl, eq_of_literal_prefix first isName (List.cons_prefix_cons.mp begins).2⟩
      · rintro (⟨-, rfl⟩ | ⟨later, same, -⟩)
        · exact ⟨isName, List.cons_prefix_cons.mpr ⟨rfl, List.prefix_append _ _⟩⟩
        · cases same
  | cons d before =>
      rw [escapedAfter_cons_cons_iff, escapedAfter_literal_iff isName]
      constructor
      · rintro ⟨rfl, later, rfl, stands⟩
        exact .inr ⟨later, rfl, stands⟩
      · rintro (⟨same, -⟩ | ⟨later, same, stands⟩)
        · cases same
        · cases same
          exact ⟨rfl, later, rfl, stands⟩

/-! ## Reading from left to right -/

theorem readAfter_nil (previous? : Option Char) : ReadAfter previous? [] [] where
  spells := rfl
  unescaped before name := by
    refine iff_of_false ?_ not_comesAfter_nil
    rintro ⟨-, stands, -⟩
    cases (List.append_eq_nil_iff.mp (List.prefix_nil.mp stands)).2
  escaped before name := by
    refine iff_of_false ?_ not_comesAfter_nil
    rintro ⟨-, stands⟩
    cases (List.append_eq_nil_iff.mp (List.prefix_nil.mp stands)).2

theorem ReadAfter.ofChar (nothing : finder previous? (c :: rest) = none)
    (reads : ReadAfter (some c) rest pieces) :
    ReadAfter previous? (c :: rest) (.char c :: pieces) where
  spells := congrArg (List.cons c) reads.spells
  unescaped before name := by
    rw [comesAfter_cons_iff, occursAfter_cons_iff]
    · simp only [reads.unescaped, written, List.singleton_append, reduceCtorEq, false_and, false_or]
    · rintro isName ⟨after, same⟩
      rw [← same, finder_literal isName after] at nothing
      cases nothing
  escaped before name := by
    rw [comesAfter_cons_iff, escapedAfter_cons_iff]
    · simp only [reads.escaped, written, List.singleton_append, reduceCtorEq, false_and, false_or]
    · rintro isName ⟨after, same⟩
      rw [← same, List.cons_append, finder_escaped isName after] at nothing
      cases nothing

theorem ReadAfter.ofEscaped (isName : IsName name) (reads : ReadAfter (some '\x7d') after pieces) :
    ReadAfter previous? ('$' :: (literal name ++ after)) (.found ⟨true, name⟩ :: pieces) where
  spells := by
    rw [List.flatMap_cons, reads.spells]
    rfl
  unescaped before other := by
    rw [comesAfter_cons_iff, occursAfter_escaped_iff isName]
    simp [reads.unescaped, written]
  escaped before other := by
    rw [comesAfter_cons_iff, escapedAfter_escaped_iff isName]
    simp [reads.escaped, written, and_comm, eq_comm]

theorem ReadAfter.ofUnescaped (isName : IsName name) (unescaped : previous? ≠ some '$')
    (reads : ReadAfter (some '\x7d') after pieces) :
    ReadAfter previous? (literal name ++ after) (.found ⟨false, name⟩ :: pieces) where
  spells := by
    rw [List.flatMap_cons, reads.spells]
    rfl
  unescaped before other := by
    rw [comesAfter_cons_iff, occursAfter_literal_iff isName]
    simp [reads.unescaped, written, unescaped, and_comm, eq_comm]
  escaped before other := by
    rw [comesAfter_cons_iff, escapedAfter_literal_iff isName]
    simp [reads.escaped, written]

/-- The text may follow any character, except that a dollar sign must not escape a reference
at its start. -/
theorem readAfter_piecesFrom (previous? : Option Char) (cs : List Char)
    (fresh : ∀ name, IsName name → literal name <+: cs → previous? ≠ some '$') :
    ReadAfter previous? cs (piecesFrom finder previous? 0 cs) := by
  induction size : cs.length using Nat.strong_induction_on generalizing previous? cs with
  | _ length ih =>
      cases here : finder previous? cs with
      | none =>
          cases cs with
          | nil =>
              rw [Text.piecesFrom_nil]
              exact readAfter_nil previous?
          | cons c rest =>
              have unescaped : ∀ name, IsName name → literal name <+: rest →
                  some c ≠ some '$' := by
                rintro name isName ⟨after, rfl⟩ same
                cases same
                rw [finder_escaped isName after] at here
                cases here
              rw [piecesFrom, here]
              exact .ofChar here (ih rest.length (by simp [← size]) (some c) rest unescaped rfl)
      | some found =>
          obtain ⟨name, after, isName, which⟩ := of_finder here
          have shorter : after.length < length := by
            have some := length_literal name
            rcases which with ⟨rfl, -⟩ | ⟨rfl, -⟩ <;>
              simp only [List.length_cons, List.length_append] at size <;> omega
          have reads := ih after.length shorter (some '\x7d') after (fun _ _ _ => by decide) rfl
          rcases which with ⟨rfl, -⟩ | ⟨rfl, -⟩
          · rw [piecesFrom_escaped isName]
            exact .ofEscaped isName reads
          · rw [piecesFrom_literal isName]
            exact .ofUnescaped isName (fresh name isName (List.prefix_append _ _)) reads

/-! ## Reading in one way only -/

theorem occursAfter_append_append_iff {taken : List Char} :
    OccursAfter previous? (taken ++ rest) (taken ++ before) name ↔
      OccursAfter (taken.getLast?.or previous?) rest before name := by
  induction taken generalizing previous? with
  | nil => rfl
  | cons c taken ih =>
      rw [List.cons_append, List.cons_append, occursAfter_cons_cons_iff, ih,
        Text.getLast?_cons_or]
      simp

theorem escapedAfter_append_append_iff {taken : List Char} :
    EscapedAfter (taken ++ rest) (taken ++ before) name ↔ EscapedAfter rest before name := by
  induction taken with
  | nil => rfl
  | cons c taken ih =>
      rw [List.cons_append, List.cons_append, escapedAfter_cons_cons_iff, ih]
      simp

theorem comesAfter_cons_append_iff :
    ComesAfter (piece :: pieces) (written piece ++ before) reference ↔
      ComesAfter pieces before reference := by
  rw [comesAfter_cons_iff]
  constructor
  · rintro (⟨-, nothing⟩ | ⟨later, same, comes⟩)
    · exact absurd (List.append_eq_nil_iff.mp nothing).1 (written_ne_nil piece)
    · rw [List.append_cancel_left same]
      exact comes
  · exact fun comes => .inr ⟨before, rfl, comes⟩

/-- A reference at the start is the first piece. -/
theorem comesAfter_cons_nil_iff :
    ComesAfter (piece :: pieces) [] reference ↔ piece = .found reference := by
  rw [comesAfter_cons_iff]
  constructor
  · rintro (⟨same, -⟩ | ⟨later, nothing, -⟩)
    · exact same
    · exact absurd (List.append_eq_nil_iff.mp nothing.symm).1 (written_ne_nil piece)
  · exact fun same => .inl ⟨same, rfl⟩

/-- What follows the first piece falls into the other ones. -/
theorem ReadAfter.tail (reads : ReadAfter previous? (written piece ++ rest) (piece :: pieces)) :
    ReadAfter ((written piece).getLast?.or previous?) rest pieces where
  spells := List.append_cancel_left (List.flatMap_cons.symm.trans reads.spells)
  unescaped before name := by
    rw [← occursAfter_append_append_iff, reads.unescaped, comesAfter_cons_append_iff]
  escaped before name := by
    rw [← escapedAfter_append_append_iff, reads.escaped, comesAfter_cons_append_iff]

/-- Two divisions of a text begin with the same reference, if with any. -/
theorem ReadAfter.head_eq_found_iff {second : Piece Reference} {others : List (Piece Reference)}
    (reads : ReadAfter previous? cs (piece :: pieces))
    (again : ReadAfter previous? cs (second :: others)) (reference : Reference) :
    piece = .found reference ↔ second = .found reference := by
  have same : ComesAfter (piece :: pieces) [] reference ↔
      ComesAfter (second :: others) [] reference := by
    match reference with
    | ⟨true, name⟩ => rw [← reads.escaped, again.escaped]
    | ⟨false, name⟩ => rw [← reads.unescaped, again.unescaped]
  exact comesAfter_cons_nil_iff.symm.trans (same.trans comesAfter_cons_nil_iff)

theorem ReadAfter.unique {others : List (Piece Reference)}
    (reads : ReadAfter previous? cs pieces) (again : ReadAfter previous? cs others) :
    pieces = others := by
  induction pieces generalizing previous? cs others with
  | nil =>
      cases others with
      | nil => rfl
      | cons second others =>
          have nothing := again.spells.trans reads.spells.symm
          rw [List.flatMap_cons, List.flatMap_nil, List.append_eq_nil_iff] at nothing
          exact absurd nothing.1 (written_ne_nil second)
  | cons piece pieces ih =>
      cases others with
      | nil =>
          have nothing := reads.spells.trans again.spells.symm
          rw [List.flatMap_cons, List.flatMap_nil, List.append_eq_nil_iff] at nothing
          exact absurd nothing.1 (written_ne_nil piece)
      | cons second others =>
          have found := reads.head_eq_found_iff again
          have spelled := reads.spells.trans again.spells.symm
          have first : piece = second := by
            cases piece with
            | found reference => exact ((found reference).mp rfl).symm
            | char c =>
                cases second with
                | found reference => exact (found reference).mpr rfl
                | char d =>
                    rw [List.flatMap_cons, List.flatMap_cons] at spelled
                    rw [(List.cons.inj spelled).1]
          subst first
          obtain rfl : written piece ++ pieces.flatMap written = cs := reads.spells
          exact congrArg _ (ih reads.tail again.tail)

/-- A text falls into the pieces that are found by reading it from left to right, and into no
other ones. -/
theorem reads_iff {text : String} :
    Reads text pieces ↔ pieces = Text.pieces finder text.toList := by
  have reads : Reads text (Text.pieces finder text.toList) :=
    readAfter_piecesFrom none text.toList fun _ _ _ => by decide
  constructor
  · exact fun again => again.unique reads
  · rintro rfl
    exact reads

end ChatCommands.Reference
