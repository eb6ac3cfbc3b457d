/-
# Replacing in a text put together from parts

A text that consists of two parts is read part by part if nothing found in the first
reaches over its end and nothing found there depends on what follows. What has been
replaced can then be told part by part as well. Nothing here speaks about a particular
finder; the finders in use pass over blanks, so the parts are taken apart at blanks.
-/

import ChatCommands.Text.Pieces
import ChatCommands.Proofs.Text.Blank

namespace ChatCommands.Text

variable {α : Type} {find : Finder α} {replacement : α → List Char}

/-! ## What comes before -/

/-- A text that is empty or ends with a blank. -/
def BlankLast (cs : List Char) : Prop := ∀ c ∈ cs.getLast?, isBlank c = true

instance (cs : List Char) : Decidable (BlankLast cs) :=
  decidable_of_iff (cs.getLast?.all isBlank = true) (Option.all_eq_true _ _)

/-- A finder that finds nothing at a blank or at the end. -/
def PassesBlanks (find : Finder α) : Prop :=
  ∀ before cs, BlankFirst cs → find before cs = none

theorem getLast?_cons_or (c : Char) (cs : List Char) (before : Option Char) :
    (c :: cs).getLast?.or before = cs.getLast?.or (some c) := by
  rw [List.getLast?_cons]
  cases cs.getLast? <;> rfl

theorem piecesFrom_congr {before before' : Option Char} {cs : List Char}
    (same : find before cs = find before' cs) :
    piecesFrom find before 0 cs = piecesFrom find before' 0 cs := by
  cases cs with
  | nil => rfl
  | cons c rest => rw [piecesFrom, piecesFrom, same]

/-- What an occurrence takes is left out, whatever it is. -/
theorem piecesFrom_length_append (find : Finder α) (before : Option Char)
    (taken rest : List Char) :
    piecesFrom find before taken.length (taken ++ rest) =
      piecesFrom find (taken.getLast?.or before) 0 rest := by
  induction taken generalizing before with
  | nil => rfl
  | cons c taken ih =>
      rw [getLast?_cons_or]
      exact ih (some c)

/-! ## Where a part stands -/

section Standing

variable {part before cs rest : List Char} {c : Char}

/-- Where a part does not begin, it stands further on. -/
theorem append_prefix_cons_iff (nothing : ¬part <+: c :: cs) :
    before ++ part <+: c :: cs ↔ ∃ later, before = c :: later ∧ later ++ part <+: cs := by
  cases before with
  | nil => exact iff_of_false nothing (fun ⟨_, same, _⟩ => nomatch same)
  | cons d before =>
      rw [List.cons_append, List.cons_prefix_cons]
      constructor
      · rintro ⟨rfl, stands⟩
        exact ⟨before, rfl, stands⟩
      · rintro ⟨later, same, stands⟩
        cases same
        exact ⟨rfl, stands⟩

/-- A part does not begin in a stretch without the character it begins with. -/
theorem append_prefix_append_iff {opening : Char} {taken : List Char} (absent : opening ∉ taken) :
    before ++ opening :: part <+: taken ++ rest ↔
      ∃ later, before = taken ++ later ∧ later ++ opening :: part <+: rest := by
  induction taken generalizing before with
  | nil => simp
  | cons c taken ih =>
      rw [List.mem_cons, not_or] at absent
      have nothing : ¬opening :: part <+: c :: (taken ++ rest) :=
        fun begins => absent.1 (List.cons_prefix_cons.mp begins).1
      rw [List.cons_append, append_prefix_cons_iff nothing]
      constructor
      · rintro ⟨_, rfl, inRest⟩
        obtain ⟨later, rfl, stands⟩ := (ih absent.2).mp inRest
        exact ⟨later, rfl, stands⟩
      · rintro ⟨later, rfl, stands⟩
        exact ⟨taken ++ later, rfl, (ih absent.2).mpr ⟨later, rfl, stands⟩⟩

end Standing

/-! ## Occurrences among pieces -/

section Occurrences

variable {written : Piece α → List Char} {piece : Piece α} {pieces : List (Piece α)}
  {before : List Char} {value : α}

/-- Among pieces that are written in some way, an occurrence follows the ones that spell out the
part `before`. -/
def ComesAfter (written : Piece α → List Char) (pieces : List (Piece α)) (before : List Char)
    (value : α) : Prop :=
  ∃ earlier later, pieces = earlier ++ .found value :: later ∧ before = earlier.flatMap written

theorem not_comesAfter_nil : ¬ComesAfter written [] before value := by
  rintro ⟨earlier, later, same, -⟩
  exact List.append_ne_nil_of_right_ne_nil earlier (List.cons_ne_nil _ later) same.symm

/-- An occurrence is the first piece or one of the others. -/
theorem comesAfter_cons_iff :
    ComesAfter written (piece :: pieces) before value ↔
      piece = .found value ∧ before = [] ∨
        ∃ later, before = written piece ++ later ∧ ComesAfter written pieces later value := by
  constructor
  · rintro ⟨earlier, later, same, rfl⟩
    cases earlier with
    | nil =>
        cases same
        exact .inl ⟨rfl, rfl⟩
    | cons first earlier =>
        cases same
        exact .inr ⟨_, List.flatMap_cons, earlier, later, rfl, rfl⟩
  · rintro (⟨rfl, rfl⟩ | ⟨_, rfl, earlier, later, rfl, rfl⟩)
    · exact ⟨[], pieces, rfl, rfl⟩
    · exact ⟨piece :: earlier, later, rfl, List.flatMap_cons.symm⟩

end Occurrences

/-! ## Two parts -/

/-- Wherever one begins to read in the first part of a text, the finder finds what it
finds in that part alone, and stays in it. -/
structure Settled (find : Finder α) (cs tail : List Char) : Prop where
  agrees : ∀ before part, part <:+ cs → part ≠ [] →
    find before (part ++ tail) = find before part
  within : ∀ before part found, part <:+ cs → find before part = some found →
    found.length ≤ part.length

theorem Settled.of_cons {c : Char} {cs tail : List Char} (settled : Settled find (c :: cs) tail) :
    Settled find cs tail where
  agrees before part suffix := settled.agrees before part (suffix.trans (List.suffix_cons c cs))
  within before part found suffix :=
    settled.within before part found (suffix.trans (List.suffix_cons c cs))

theorem Settled.piecesFrom_append {cs tail : List Char} (settled : Settled find cs tail)
    (before : Option Char) (skip : Nat) (inside : skip ≤ cs.length) :
    piecesFrom find before skip (cs ++ tail) =
      piecesFrom find before skip cs ++ piecesFrom find (cs.getLast?.or before) 0 tail := by
  induction cs generalizing before skip with
  | nil =>
      obtain rfl : skip = 0 := Nat.le_zero.mp inside
      rfl
  | cons c cs ih =>
      have agrees := settled.agrees before (c :: cs) (List.suffix_refl _) (List.cons_ne_nil c cs)
      have within := settled.within before (c :: cs)
      rw [getLast?_cons_or, List.cons_append]
      cases skip with
      | succ skip =>
          rw [piecesFrom, piecesFrom]
          exact ih settled.of_cons (some c) skip (Nat.le_of_succ_le_succ inside)
      | zero =>
          rw [List.cons_append] at agrees
          rw [piecesFrom, piecesFrom, agrees]
          cases here : find before (c :: cs) with
          | none =>
              simp only [List.cons_append]
              rw [ih settled.of_cons (some c) 0 (Nat.zero_le _)]
          | some found =>
              have reach := within found (List.suffix_refl _) here
              rw [List.length_cons] at reach
              simp only [List.cons_append]
              rw [ih settled.of_cons (some c) (found.length - 1) (by omega)]

theorem Settled.replaceFound_append {cs tail : List Char} (settled : Settled find cs tail)
    (same : find cs.getLast? tail = find none tail) :
    replaceFound find replacement (cs ++ tail) =
      replaceFound find replacement cs ++ replaceFound find replacement tail := by
  rw [replaceFound, pieces, settled.piecesFrom_append none 0 (Nat.zero_le _), Option.or_none,
    piecesFrom_congr same, List.flatMap_append]
  rfl

/-- An occurrence at the start of a text is replaced, and the rest is read on its own. -/
theorem replaceFound_append_of_found {cs tail : List Char} {found : Found α} (nonempty : cs ≠ [])
    (here : find none (cs ++ tail) = some found) (whole : found.length = cs.length)
    (same : find cs.getLast? tail = find none tail) :
    replaceFound find replacement (cs ++ tail) =
      replacement found.value ++ replaceFound find replacement tail := by
  cases cs with
  | nil => exact absurd rfl nonempty
  | cons c cs =>
      have rest := piecesFrom_length_append find (some c) cs tail
      rw [← getLast?_cons_or c cs none, Option.or_none, piecesFrom_congr same] at rest
      rw [List.length_cons] at whole
      rw [replaceFound, pieces, List.cons_append, piecesFrom, ← List.cons_append, here]
      simp only [whole, Nat.add_sub_cancel]
      rw [rest, List.flatMap_cons]
      rfl

/-- A character at which nothing is found stays, and the rest is read on its own. -/
theorem replaceFound_cons_of_none {c : Char} {rest : List Char}
    (nothing : find none (c :: rest) = none) (same : find (some c) rest = find none rest) :
    replaceFound find replacement (c :: rest) = c :: replaceFound find replacement rest := by
  rw [replaceFound, pieces, piecesFrom, nothing]
  simp only [List.flatMap_cons]
  rw [piecesFrom_congr same]
  rfl

theorem piecesFrom_eq_map_char {cs : List Char}
    (nothing : ∀ before part, part <:+ cs → find before part = none) (before : Option Char) :
    piecesFrom find before 0 cs = cs.map .char := by
  induction cs generalizing before with
  | nil => rfl
  | cons c cs ih =>
      rw [piecesFrom, nothing before (c :: cs) (List.suffix_refl _)]
      simp only [List.map_cons]
      rw [ih fun before part suffix => nothing before part (suffix.trans (List.suffix_cons c cs))]

/-- A text in which nothing is found stays as it is. -/
theorem replaceFound_eq_self {cs : List Char}
    (nothing : ∀ before part, part <:+ cs → find before part = none) :
    replaceFound find replacement cs = cs := by
  rw [replaceFound, pieces, piecesFrom_eq_map_char nothing, List.flatMap_map]
  exact List.flatMap_singleton' cs

/-! ## Blanks at the ends -/

theorem PassesBlanks.replaceFound_cons (passes : PassesBlanks find) {c : Char}
    (blank : isBlank c = true) {rest : List Char} (same : find (some c) rest = find none rest) :
    replaceFound find replacement (c :: rest) = c :: replaceFound find replacement rest :=
  replaceFound_cons_of_none (passes none (c :: rest) (blankFirst_cons blank)) same

/-- A blank at the start of a text is still there afterwards. -/
theorem PassesBlanks.blankFirst_replaceFound (passes : PassesBlanks find) {cs : List Char}
    (first : BlankFirst cs) : BlankFirst (replaceFound find replacement cs) := by
  cases cs with
  | nil => rwa [replaceFound_nil]
  | cons c rest =>
      rw [replaceFound, pieces, piecesFrom, passes none (c :: rest) first]
      exact blankFirst_cons (first c rfl)

/-- At a blank a text can be taken apart: what stands before it and what comes after it
are replaced on their own, and the blank stays. -/
theorem PassesBlanks.replaceFound_append_cons (passes : PassesBlanks find) {cs tail : List Char}
    {c : Char} (blank : isBlank c = true) (settled : Settled find cs (c :: tail))
    (same : find (some c) tail = find none tail) :
    replaceFound find replacement (cs ++ c :: tail) =
      replaceFound find replacement cs ++ c :: replaceFound find replacement tail := by
  have blankSame : find cs.getLast? (c :: tail) = find none (c :: tail) := by
    rw [passes _ _ (blankFirst_cons blank), passes none _ (blankFirst_cons blank)]
  rw [settled.replaceFound_append blankSame, passes.replaceFound_cons blank same]

/-- A text that ends with a blank is read on its own, and still ends with it. -/
theorem PassesBlanks.replaceFound_append (passes : PassesBlanks find) {cs : List Char}
    (tail : List Char) (last : BlankLast cs)
    (settled : ∀ init c, cs = init ++ [c] → isBlank c = true →
      Settled find init [c] ∧ Settled find init (c :: tail))
    (same : ∀ c, isBlank c = true → find (some c) tail = find none tail) :
    BlankLast (replaceFound find replacement cs) ∧
      replaceFound find replacement (cs ++ tail) =
        replaceFound find replacement cs ++ replaceFound find replacement tail := by
  rcases List.eq_nil_or_concat cs with rfl | ⟨init, c, rfl⟩
  · rw [replaceFound_nil]
    exact ⟨last, rfl⟩
  · rw [List.concat_eq_append] at last settled ⊢
    have blank : isBlank c = true := last c (by rw [List.getLast?_concat]; rfl)
    obtain ⟨alone, followed⟩ := settled init c rfl blank
    have ending : replaceFound find replacement (init ++ [c]) =
        replaceFound find replacement init ++ [c] := by
      rw [passes.replaceFound_append_cons blank alone
        (by rw [passes _ [] blankFirst_nil, passes _ [] blankFirst_nil]), replaceFound_nil]
    refine ⟨?_, ?_⟩
    · intro d member
      rw [ending, List.getLast?_concat] at member
      cases member
      exact blank
    · rw [← List.append_cons, passes.replaceFound_append_cons blank followed (same c blank),
        ending, ← List.append_cons]

/-- A stretch in which nothing is found, between a blank and the next one, stays as it is
whatever stands around it. -/
theorem PassesBlanks.replaceFound_around (passes : PassesBlanks find)
    (blind : ∀ start cs, find start cs = find none cs) {before middle after : List Char}
    (last : BlankLast before)
    (settled : ∀ init c tail, before = init ++ [c] → isBlank c = true →
      Settled find init (c :: tail))
    (inner : Settled find middle after)
    (nothing : ∀ start part, part <:+ middle → find start part = none) :
    BlankLast (replaceFound find replacement before) ∧
      replaceFound find replacement (before ++ (middle ++ after)) =
        replaceFound find replacement before ++
          (middle ++ replaceFound find replacement after) := by
  obtain ⟨ends, apart⟩ := passes.replaceFound_append (middle ++ after) last
    (fun init c same blank => ⟨settled init c [] same blank, settled init c _ same blank⟩)
    (fun c _ => blind (some c) _)
  refine ⟨ends, ?_⟩
  rw [apart, inner.replaceFound_append (blind _ after), replaceFound_eq_self nothing]

/-! ## What the outcome ends with -/

theorem suffix_of_suffix_append {stamp : Char} {front ending rest : List Char}
    (last : front.getLast? = some stamp) (absent : stamp ∉ ending)
    (suffix : ending <:+ front ++ rest) : ending <:+ rest := by
  obtain ⟨init, rfl⟩ := List.getLast?_eq_some_iff.mp last
  rw [← List.append_cons] at suffix
  rcases List.suffix_or_suffix_of_suffix suffix (List.suffix_append init (stamp :: rest)) with
    inside | beyond
  · rcases List.suffix_cons_iff.mp inside with rfl | later
    · exact absurd List.mem_cons_self absent
    · exact later
  · exact absurd (beyond.subset List.mem_cons_self) absent

/-- If a character of every replacement is missing in the outcome, nothing was replaced. -/
theorem flatMap_piecesFrom_eq_self {stamp : Char}
    (stamped : ∀ value, stamp ∈ replacement value) (before : Option Char) {cs : List Char}
    (absent : stamp ∉ (piecesFrom find before 0 cs).flatMap (Piece.render replacement)) :
    (piecesFrom find before 0 cs).flatMap (Piece.render replacement) = cs := by
  induction cs generalizing before with
  | nil => rfl
  | cons c cs ih =>
      rw [piecesFrom] at absent ⊢
      cases here : find before (c :: cs) with
      | none =>
          simp only [here, List.flatMap_cons, List.mem_append, not_or] at absent ⊢
          rw [ih (some c) absent.2]
          rfl
      | some found =>
          simp only [here, List.flatMap_cons, List.mem_append, not_or] at absent
          exact absurd (stamped found.value) absent.1

theorem suffix_of_suffix_flatMap_piecesFrom {stamp : Char}
    (stamped : ∀ value, (replacement value).getLast? = some stamp) {ending : List Char}
    (absent : stamp ∉ ending) (before : Option Char) (skip : Nat) {cs : List Char}
    (suffix : ending <:+ (piecesFrom find before skip cs).flatMap (Piece.render replacement)) :
    ending <:+ cs := by
  induction cs generalizing before skip with
  | nil => rwa [piecesFrom_nil] at suffix
  | cons c cs ih =>
      cases skip with
      | succ skip =>
          exact (ih (some c) skip suffix).trans (List.suffix_cons c cs)
      | zero =>
          rw [piecesFrom] at suffix
          cases here : find before (c :: cs) with
          | none =>
              simp only [here, List.flatMap_cons, Piece.render, List.singleton_append,
                List.suffix_cons_iff] at suffix
              rcases suffix with rfl | later
              · have untouched := flatMap_piecesFrom_eq_self
                  (fun value => List.mem_of_getLast? (stamped value)) (some c)
                  (fun member => absent (List.mem_cons_of_mem c member))
                exact ⟨[], congrArg (List.cons c) untouched⟩
              · exact (ih (some c) 0 later).trans (List.suffix_cons c cs)
          | some found =>
              simp only [here, List.flatMap_cons, Piece.render] at suffix
              have later := suffix_of_suffix_append (stamped found.value) absent suffix
              exact (ih (some c) _ later).trans (List.suffix_cons c cs)

/-- What the outcome ends with was there before, if it lacks the character that every
replacement ends with. -/
theorem suffix_of_suffix_replaceFound {stamp : Char}
    (stamped : ∀ value, (replacement value).getLast? = some stamp) {ending cs : List Char}
    (absent : stamp ∉ ending) (suffix : ending <:+ replaceFound find replacement cs) :
    ending <:+ cs :=
  suffix_of_suffix_flatMap_piecesFrom stamped absent none 0 suffix

end ChatCommands.Text
