/-
# References in a text

A reference to a variable stands where a dollar sign is followed by a name in braces. It is
escaped if one more dollar sign stands before it. Reading a text from left to right finds
every reference that is not escaped, and nothing else, although what is found is passed over
as a whole: a reference holds only the one dollar sign it begins with, so no other one begins
inside it.

Main statement: `exists_lists`.
-/

import ChatCommands.Substitution
import ChatCommands.Proofs.Text.Pieces

namespace ChatCommands.Reference

open Text (Found piecesFrom)

/-! ## Names in braces -/

/-- A name begins with a capital letter or an underscore and goes on with these and
digits. -/
def IsName (name : List Char) : Prop :=
  ∃ first rest, name = first :: rest ∧ isNameStart first = true ∧
    ∀ c ∈ rest, isNameChar c = true

theorem isNameChar_of_isNameStart {c : Char} (start : isNameStart c = true) :
    isNameChar c = true := by
  rw [isNameStart, Bool.or_eq_true] at start
  rw [isNameChar, Bool.or_eq_true, Bool.or_eq_true]
  exact start.imp_left .inl

theorem IsName.isNameChar {name : List Char} (isName : IsName name) :
    ∀ c ∈ name, isNameChar c = true := by
  obtain ⟨first, rest, rfl, start, more⟩ := isName
  exact List.forall_mem_cons.mpr ⟨isNameChar_of_isNameStart start, more⟩

theorem IsName.not_mem_dollar {name : List Char} (isName : IsName name) : '$' ∉ name :=
  fun member => absurd (isName.isNameChar '$' member) (by decide)

theorem bracedName?_eq_some_iff {cs name : List Char} :
    bracedName? cs = some name ↔
      IsName name ∧ ∃ after, cs = '\x7b' :: (name ++ '\x7d' :: after) := by
  constructor
  · intro found
    unfold bracedName? at found
    split at found
    · next first rest =>
      split at found
      · next start =>
        split at found
        · next after closed =>
          cases found
          refine ⟨⟨first, _, rfl, start, fun c member => List.mem_takeWhile_imp member⟩, after, ?_⟩
          rw [List.cons_append, ← closed, List.takeWhile_append_dropWhile]
        · cases found
      · cases found
    · cases found
  · rintro ⟨⟨first, rest, rfl, start, more⟩, after, rfl⟩
    have closed : (rest ++ '\x7d' :: after).dropWhile isNameChar = '\x7d' :: after := by
      rw [List.dropWhile_append_of_pos more]
      rfl
    have named : (rest ++ '\x7d' :: after).takeWhile isNameChar = rest := by
      rw [List.takeWhile_append_of_pos more]
      exact List.append_nil rest
    simp [bracedName?, start, closed, named]

/-! ## The finder -/

theorem finder_escaped {before : Option Char} {name : List Char} (isName : IsName name)
    (after : List Char) :
    finder before ('$' :: (literal name ++ after)) = some ⟨⟨true, name⟩, name.length + 4⟩ := by
  have braced : bracedName? ('\x7b' :: (name ++ '\x7d' :: after)) = some name :=
    bracedName?_eq_some_iff.mpr ⟨isName, after, rfl⟩
  simp [finder, literal, braced]

theorem finder_literal {before : Option Char} {name : List Char} (isName : IsName name)
    (after : List Char) :
    finder before (literal name ++ after) = some ⟨⟨false, name⟩, name.length + 3⟩ := by
  have braced : bracedName? ('\x7b' :: (name ++ '\x7d' :: after)) = some name :=
    bracedName?_eq_some_iff.mpr ⟨isName, after, rfl⟩
  simp [finder, literal, braced]

/-- What is found is an escaped or an unescaped reference. -/
theorem of_finder {before : Option Char} {cs : List Char} {found : Found Reference}
    (here : finder before cs = some found) :
    ∃ name after, IsName name ∧
      (cs = '$' :: (literal name ++ after) ∧ found = ⟨⟨true, name⟩, name.length + 4⟩ ∨
        cs = literal name ++ after ∧ found = ⟨⟨false, name⟩, name.length + 3⟩) := by
  unfold finder at here
  split at here
  · obtain ⟨name, braced, rfl⟩ := Option.map_eq_some_iff.mp here
    obtain ⟨isName, after, rfl⟩ := bracedName?_eq_some_iff.mp braced
    exact ⟨name, after, isName, .inl ⟨by simp [literal], rfl⟩⟩
  · obtain ⟨name, braced, rfl⟩ := Option.map_eq_some_iff.mp here
    obtain ⟨isName, after, rfl⟩ := bracedName?_eq_some_iff.mp braced
    exact ⟨name, after, isName, .inr ⟨by simp [literal], rfl⟩⟩
  · cases here

/-! ## Occurrences -/

/-- In a text that follows the character `previous?`, a reference to the name stands after
the part `before` and is not escaped. -/
structure OccursAfter (previous? : Option Char) (cs before name : List Char) : Prop where
  isName : IsName name
  stands : before ++ literal name <+: cs
  unescaped : before.getLast?.or previous? ≠ some '$'

/-- In a text, an unescaped reference to the name stands after the part `before`. -/
def OccursIn (text : String) (before : List Char) (name : String) : Prop :=
  OccursAfter none text.toList before name.toList

variable {previous? : Option Char} {cs rest after before name other : List Char} {c : Char}

theorem eq_of_literal_prefix (first : IsName name) (second : IsName other)
    (begins : literal name <+: literal other ++ after) : name = other := by
  obtain ⟨tail, same⟩ := begins
  have braced : bracedName? ('\x7b' :: (name ++ '\x7d' :: tail)) = some name :=
    bracedName?_eq_some_iff.mpr ⟨first, tail, rfl⟩
  have tails : '\x7b' :: (name ++ '\x7d' :: tail) = '\x7b' :: (other ++ '\x7d' :: after) := by
    simpa [literal] using same
  rw [tails, bracedName?_eq_some_iff.mpr ⟨second, after, rfl⟩] at braced
  exact (Option.some.inj braced).symm

theorem occursAfter_nil_iff :
    OccursAfter previous? cs [] name ↔
      IsName name ∧ literal name <+: cs ∧ previous? ≠ some '$' :=
  ⟨fun ⟨isName, stands, unescaped⟩ => ⟨isName, stands, unescaped⟩,
    fun ⟨isName, stands, unescaped⟩ => ⟨isName, stands, unescaped⟩⟩

/-- An occurrence behind the first character is one in the rest. -/
theorem occursAfter_cons_cons_iff {d : Char} :
    OccursAfter previous? (c :: cs) (d :: before) name ↔
      d = c ∧ OccursAfter (some c) cs before name := by
  constructor
  · rintro ⟨isName, stands, unescaped⟩
    obtain ⟨rfl, later⟩ := List.cons_prefix_cons.mp stands
    rw [Text.getLast?_cons_or] at unescaped
    exact ⟨rfl, isName, later, unescaped⟩
  · rintro ⟨rfl, isName, stands, unescaped⟩
    rw [← Text.getLast?_cons_or d before previous?] at unescaped
    exact ⟨isName, List.cons_prefix_cons.mpr ⟨rfl, stands⟩, unescaped⟩

/-- Where no reference begins, one goes on. -/
theorem occursAfter_cons_iff
    (nothing : IsName name → literal name <+: c :: cs → previous? = some '$') :
    OccursAfter previous? (c :: cs) before name ↔
      ∃ later, before = c :: later ∧ OccursAfter (some c) cs later name := by
  cases before with
  | nil =>
      rw [occursAfter_nil_iff]
      constructor
      · rintro ⟨isName, begins, unescaped⟩
        exact absurd (nothing isName begins) unescaped
      · rintro ⟨later, same, -⟩
        cases same
  | cons d before =>
      rw [occursAfter_cons_cons_iff]
      constructor
      · rintro ⟨rfl, occurs⟩
        exact ⟨before, rfl, occurs⟩
      · rintro ⟨later, same, occurs⟩
        cases same
        exact ⟨rfl, occurs⟩

/-- In a stretch without a dollar sign no reference begins. -/
theorem occursAfter_append_iff {taken : List Char} (absent : '$' ∉ taken) :
    OccursAfter previous? (taken ++ rest) before name ↔
      ∃ later, before = taken ++ later ∧
        OccursAfter (taken.getLast?.or previous?) rest later name := by
  induction taken generalizing previous? before with
  | nil => simp
  | cons c taken ih =>
      rw [List.mem_cons, not_or] at absent
      have nothing : IsName name → literal name <+: c :: (taken ++ rest) → previous? = some '$' :=
        fun _ begins => absurd (List.cons_prefix_cons.mp begins).1 absent.1
      rw [List.cons_append, occursAfter_cons_iff nothing, Text.getLast?_cons_or]
      constructor
      · rintro ⟨_, rfl, inRest⟩
        obtain ⟨later, rfl, occurs⟩ := (ih absent.2).mp inRest
        exact ⟨later, rfl, occurs⟩
      · rintro ⟨later, rfl, occurs⟩
        exact ⟨taken ++ later, rfl, (ih absent.2).mpr ⟨later, rfl, occurs⟩⟩

theorem IsName.not_mem_braced (isName : IsName other) : '$' ∉ '\x7b' :: other ++ ['\x7d'] := by
  simp [isName.not_mem_dollar]

/-- A reference holds no other one, and is one itself if it is not escaped. -/
theorem occursAfter_literal_iff (isName : IsName other) :
    OccursAfter previous? (literal other ++ after) before name ↔
      (before = [] ∧ name = other ∧ previous? ≠ some '$') ∨
        ∃ later, before = literal other ++ later ∧ OccursAfter (some '\x7d') after later name := by
  have inside (before : List Char) :
      OccursAfter (some '$') ('\x7b' :: other ++ ['\x7d'] ++ after) before name ↔
        ∃ later, before = '\x7b' :: other ++ ['\x7d'] ++ later ∧
          OccursAfter (('\x7b' :: other ++ ['\x7d']).getLast?.or (some '$')) after later name :=
    occursAfter_append_iff isName.not_mem_braced
  have last : ('\x7b' :: other ++ ['\x7d']).getLast?.or (some '$') = some '\x7d' := by
    rw [List.getLast?_concat]
    rfl
  rw [last] at inside
  cases before with
  | nil =>
      rw [occursAfter_nil_iff]
      constructor
      · rintro ⟨first, begins, unescaped⟩
        exact .inl ⟨rfl, eq_of_literal_prefix first isName begins, unescaped⟩
      · rintro (⟨-, rfl, unescaped⟩ | ⟨later, same, -⟩)
        · exact ⟨isName, List.prefix_append _ _, unescaped⟩
        · cases same
  | cons d before =>
      rw [literal, List.cons_append, List.cons_append, occursAfter_cons_cons_iff, inside]
      constructor
      · rintro ⟨rfl, later, rfl, occurs⟩
        exact .inr ⟨later, rfl, occurs⟩
      · rintro (⟨same, -⟩ | ⟨later, same, occurs⟩)
        · cases same
        · cases same
          exact ⟨rfl, later, rfl, occurs⟩

/-- An escaped reference holds none. -/
theorem occursAfter_escaped_iff (isName : IsName other) :
    OccursAfter previous? ('$' :: (literal other ++ after)) before name ↔
      ∃ later, before = '$' :: (literal other ++ later) ∧
        OccursAfter (some '\x7d') after later name := by
  have nothing : IsName name → literal name <+: '$' :: (literal other ++ after) →
      previous? = some '$' := by
    intro _ begins
    have second := List.cons_prefix_cons.mp (List.cons_prefix_cons.mp begins).2
    exact absurd second.1 (by decide)
  rw [occursAfter_cons_iff nothing]
  constructor
  · rintro ⟨_, rfl, inRest⟩
    rcases (occursAfter_literal_iff isName).mp inRest with ⟨-, -, unescaped⟩ | ⟨later, rfl, occurs⟩
    · exact absurd rfl unescaped
    · exact ⟨later, rfl, occurs⟩
  · rintro ⟨later, rfl, occurs⟩
    exact ⟨_, rfl, (occursAfter_literal_iff isName).mpr (.inr ⟨later, rfl, occurs⟩)⟩

/-! ## Reading from left to right -/

/-- The occurrences of a text that follows the character `previous?`, as they are met, are
those whose names are read from its pieces. -/
structure Lists (previous? : Option Char) (cs : List Char)
    (occurrences : List (List Char × List Char)) : Prop where
  names : (piecesFrom finder previous? 0 cs).filterMap referredName? =
    occurrences.map fun occurrence => String.ofList occurrence.2
  ordered : occurrences.Pairwise fun first second => first.1.length < second.1.length
  complete : ∀ before name, (before, name) ∈ occurrences ↔ OccursAfter previous? cs before name

theorem length_literal (name : List Char) : (literal name).length = name.length + 3 := by
  simp [literal]

theorem getLast?_literal (name : List Char) : (literal name).getLast? = some '\x7d' := by
  rw [literal, List.getLast?_concat]

theorem piecesFrom_escaped (isName : IsName name) (after : List Char) :
    piecesFrom finder previous? 0 ('$' :: (literal name ++ after)) =
      .found ⟨true, name⟩ :: piecesFrom finder (some '\x7d') 0 after := by
  have later := Text.piecesFrom_length_append finder (some '$') (literal name) after
  rw [length_literal, getLast?_literal] at later
  rw [piecesFrom, finder_escaped isName after]
  exact congrArg _ later

theorem piecesFrom_literal (isName : IsName name) (after : List Char) :
    piecesFrom finder previous? 0 (literal name ++ after) =
      .found ⟨false, name⟩ :: piecesFrom finder (some '\x7d') 0 after := by
  have here : finder previous? (literal name ++ after) = some _ := finder_literal isName after
  have later := Text.piecesFrom_length_append finder (some '$') ('\x7b' :: name ++ ['\x7d']) after
  rw [List.getLast?_concat] at later
  rw [literal] at here ⊢
  rw [List.cons_append, List.cons_append] at here ⊢
  rw [piecesFrom, here]
  refine congrArg _ (Eq.trans ?_ later)
  simp

theorem lists_nil (previous? : Option Char) : Lists previous? [] [] := by
  refine ⟨by rw [Text.piecesFrom_nil]; rfl, .nil, fun before name => ?_⟩
  constructor
  · intro member
    cases member
  · rintro ⟨-, stands, -⟩
    have nothing := List.append_eq_nil_iff.mp (List.prefix_nil.mp stands)
    cases nothing.2

/-- What is listed of a rest, told for the whole text. -/
def behind (taken : List Char) (occurrences : List (List Char × List Char)) :
    List (List Char × List Char) :=
  occurrences.map fun (before, name) => (taken ++ before, name)

theorem mem_behind_iff {taken : List Char} {occurrences : List (List Char × List Char)} :
    (before, name) ∈ behind taken occurrences ↔
      ∃ later, before = taken ++ later ∧ (later, name) ∈ occurrences := by
  rw [behind, List.mem_map]
  constructor
  · rintro ⟨⟨later, _⟩, member, same⟩
    cases same
    exact ⟨later, rfl, member⟩
  · rintro ⟨later, rfl, member⟩
    exact ⟨(later, name), member, rfl⟩

theorem Lists.ordered_behind {occurrences : List (List Char × List Char)}
    (lists : Lists previous? cs occurrences) (taken : List Char) :
    (behind taken occurrences).Pairwise fun first second => first.1.length < second.1.length := by
  rw [behind, List.pairwise_map]
  refine lists.ordered.imp fun shorter => ?_
  rw [List.length_append, List.length_append]
  omega

theorem map_snd_behind (taken : List Char) (occurrences : List (List Char × List Char)) :
    (behind taken occurrences).map (fun occurrence => String.ofList occurrence.2) =
      occurrences.map fun occurrence => String.ofList occurrence.2 := by
  rw [behind, List.map_map]
  rfl

theorem Lists.cons {occurrences : List (List Char × List Char)}
    (nothing : finder previous? (c :: rest) = none) (lists : Lists (some c) rest occurrences) :
    Lists previous? (c :: rest) (behind [c] occurrences) where
  names := by
    rw [piecesFrom, nothing, map_snd_behind, ← lists.names]
    rfl
  ordered := lists.ordered_behind [c]
  complete before name := by
    rw [mem_behind_iff, occursAfter_cons_iff]
    · simp only [lists.complete, List.singleton_append]
    · rintro isName ⟨after, same⟩
      rw [← same, finder_literal isName after] at nothing
      cases nothing

theorem Lists.escaped {occurrences : List (List Char × List Char)} (isName : IsName name)
    (lists : Lists (some '\x7d') after occurrences) :
    Lists previous? ('$' :: (literal name ++ after))
      (behind ('$' :: literal name) occurrences) where
  names := by
    rw [piecesFrom_escaped isName, map_snd_behind, ← lists.names]
    rfl
  ordered := lists.ordered_behind _
  complete before other := by
    rw [mem_behind_iff, occursAfter_escaped_iff isName]
    simp only [lists.complete, List.cons_append]

theorem Lists.literal {occurrences : List (List Char × List Char)} (isName : IsName name)
    (unescaped : previous? ≠ some '$') (lists : Lists (some '\x7d') after occurrences) :
    Lists previous? (literal name ++ after) (([], name) :: behind (literal name) occurrences) where
  names := by
    rw [piecesFrom_literal isName, List.map_cons, map_snd_behind, ← lists.names]
    rfl
  ordered := by
    refine List.pairwise_cons.mpr ⟨?_, lists.ordered_behind _⟩
    rintro ⟨before, other⟩ member
    obtain ⟨later, rfl, -⟩ := mem_behind_iff.mp member
    simp [Reference.literal]
  complete before other := by
    rw [List.mem_cons, mem_behind_iff, occursAfter_literal_iff isName]
    simp [lists.complete, unescaped]

/-- The unescaped references of a text are read from its pieces, each once and from left to
right. The text may follow any character, except that a dollar sign must not escape a
reference at its start. -/
theorem exists_lists (previous? : Option Char) (cs : List Char)
    (fresh : ∀ name, IsName name → literal name <+: cs → previous? ≠ some '$') :
    ∃ occurrences, Lists previous? cs occurrences := by
  induction size : cs.length using Nat.strong_induction_on generalizing previous? cs with
  | _ length ih =>
      cases here : finder previous? cs with
      | none =>
          cases cs with
          | nil => exact ⟨[], lists_nil previous?⟩
          | cons c rest =>
              have unescaped : ∀ name, IsName name → literal name <+: rest →
                  some c ≠ some '$' := by
                rintro name isName ⟨after, rfl⟩ same
                cases same
                rw [finder_escaped isName after] at here
                cases here
              obtain ⟨later, lists⟩ := ih rest.length (by simp [← size]) (some c) rest unescaped rfl
              exact ⟨_, .cons here lists⟩
      | some found =>
          obtain ⟨name, after, isName, which⟩ := of_finder here
          have shorter : after.length < length := by
            have some := length_literal name
            rcases which with ⟨rfl, -⟩ | ⟨rfl, -⟩ <;>
              simp only [List.length_cons, List.length_append] at size <;> omega
          obtain ⟨later, lists⟩ := ih after.length shorter (some '\x7d') after
            (fun _ _ _ => by decide) rfl
          rcases which with ⟨rfl, -⟩ | ⟨rfl, -⟩
          · exact ⟨_, .escaped isName lists⟩
          · exact ⟨_, .literal isName (fresh name isName (List.prefix_append _ _)) lists⟩

end ChatCommands.Reference
