/-
# Replacing by marks in brackets

Where every occurrence gives way to a mark in brackets, with or without the beginning of the
occurrence before it, nothing without brackets can be put together from leftovers: a stretch
of the outcome that holds no bracket lies inside the mark or was there before. So a pattern
without brackets that does not occur is not brought in, and one that is replaced is gone.

Nothing here speaks about a particular mark. An outcome that only holds what would be replaced
by itself stays as it is when it is replaced again (`replaceFound_eq_self_of_same`).
-/

import ChatCommands.Proofs.Text.Pieces
import Mathlib.Data.List.Infix

namespace ChatCommands.Text

variable {α : Type}

/-! ## Stretches without a character -/

section Stretches

variable {part front rest : List Char} {c : Char}

theorem prefix_of_prefix_append_cons (absent : c ∉ part) (start : part <+: front ++ c :: rest) :
    part <+: front := by
  rcases List.prefix_or_prefix_of_prefix start (List.prefix_append front (c :: rest)) with
    inside | ⟨more, rfl⟩
  · exact inside
  · rw [List.prefix_append_right_inj] at start
    cases more with
    | nil => rw [List.append_nil]
    | cons d more =>
        obtain ⟨rfl, -⟩ := List.cons_prefix_cons.mp start
        exact absurd (List.mem_append_right front List.mem_cons_self) absent

theorem infix_of_infix_append_cons (absent : c ∉ part) (inside : part <:+: front ++ c :: rest) :
    part <:+: front ∨ part <:+: rest := by
  induction front with
  | nil =>
      rcases List.infix_cons_iff.mp inside with start | later
      · exact .inl (prefix_of_prefix_append_cons absent start).isInfix
      · exact .inr later
  | cons d front ih =>
      rcases List.infix_cons_iff.mp inside with start | later
      · exact .inl (prefix_of_prefix_append_cons absent start).isInfix
      · exact (ih later).imp_left fun within => within.trans (List.suffix_cons d front).isInfix

end Stretches

/-! ## Replacing from a place on -/

/-- What comes of a text after the character `before`, where `skip` characters still belong
to the occurrence replaced last. -/
def replacedFrom (find : Finder α) (replacement : α → List Char) (before : Option Char)
    (skip : Nat) (cs : List Char) : List Char :=
  (piecesFrom find before skip cs).flatMap (Piece.render replacement)

section Places

variable {find : Finder α} {replacement : α → List Char} {before : Option Char}

theorem replaceFound_eq_replacedFrom (find : Finder α) (replacement : α → List Char)
    (cs : List Char) :
    replaceFound find replacement cs = replacedFrom find replacement none 0 cs := rfl

@[simp] theorem replacedFrom_nil (skip : Nat) :
    replacedFrom find replacement before skip [] = [] := by
  rw [replacedFrom, piecesFrom_nil, List.flatMap_nil]

theorem replacedFrom_of_none {c : Char} {rest : List Char}
    (nothing : find before (c :: rest) = none) :
    replacedFrom find replacement before 0 (c :: rest) =
      c :: replacedFrom find replacement (some c) 0 rest := by
  rw [replacedFrom, piecesFrom, nothing]
  rfl

theorem replacedFrom_of_some {c : Char} {rest : List Char} {found : Found α}
    (here : find before (c :: rest) = some found) :
    replacedFrom find replacement before 0 (c :: rest) =
      replacement found.value ++
        replacedFrom find replacement (some c) (found.length - 1) rest := by
  rw [replacedFrom, piecesFrom, here]
  rfl

/-- An occurrence at the start gives way, and reading goes on after it. -/
theorem replacedFrom_append {taken rest : List Char} {found : Found α} (nonempty : taken ≠ [])
    (here : find before (taken ++ rest) = some found) (whole : found.length = taken.length) :
    replacedFrom find replacement before 0 (taken ++ rest) =
      replacement found.value ++
        replacedFrom find replacement (taken.getLast?.or before) 0 rest := by
  cases taken with
  | nil => exact absurd rfl nonempty
  | cons c taken =>
      rw [List.cons_append] at here ⊢
      rw [List.length_cons] at whole
      rw [replacedFrom_of_some here, whole, Nat.add_sub_cancel, replacedFrom,
        piecesFrom_length_append, getLast?_cons_or]
      rfl

theorem PassesBlanks.blankFirst_replacedFrom (passes : PassesBlanks find) {cs : List Char}
    (first : BlankFirst cs) : BlankFirst (replacedFrom find replacement before 0 cs) := by
  cases cs with
  | nil => rwa [replacedFrom_nil]
  | cons c rest =>
      rw [replacedFrom_of_none (passes before (c :: rest) first)]
      exact blankFirst_cons (first c rfl)

end Places

/-! ## Marks -/

/-- A text in brackets. -/
def bracketed (inner : List Char) : List Char := '[' :: (inner ++ [']'])

/-- What a finder keeps of every occurrence is the beginning of it. -/
def KeepsStart (find : Finder α) (kept : α → List Char) : Prop :=
  ∀ before cs found, find before cs = some found → kept found.value <+: cs

theorem keepsStart_nil (find : Finder α) : KeepsStart find fun _ => [] :=
  fun _ _ _ _ => List.nil_prefix

section Marks

variable {find : Finder α} {kept : α → List Char} {inner part : List Char}

/-- A beginning of the outcome without a bracket was there before. -/
theorem prefix_of_prefix_replacedFrom (keeps : KeepsStart find kept) (unopened : '[' ∉ part)
    {before : Option Char} {cs : List Char}
    (start : part <+: replacedFrom find (fun value => kept value ++ bracketed inner) before 0 cs) :
    part <+: cs := by
  induction cs generalizing before part with
  | nil => rwa [replacedFrom_nil] at start
  | cons c rest ih =>
      cases here : find before (c :: rest) with
      | none =>
          rw [replacedFrom_of_none here] at start
          cases part with
          | nil => exact List.nil_prefix
          | cons d part =>
              rw [List.cons_prefix_cons] at start ⊢
              exact ⟨start.1, ih (fun member => unopened (List.mem_cons_of_mem d member)) start.2⟩
      | some found =>
          rw [replacedFrom_of_some here, List.append_assoc] at start
          exact (prefix_of_prefix_append_cons unopened start).trans (keeps _ _ _ here)

/-- A stretch of the outcome without brackets lies inside the mark, or it begins at a place
where nothing was found, or it lies in what was kept of an occurrence. -/
theorem infix_of_infix_replacedFrom (keeps : KeepsStart find kept) (nonempty : part ≠ [])
    (unopened : '[' ∉ part) (unclosed : ']' ∉ part) {before : Option Char} {skip : Nat}
    {cs : List Char}
    (inside : part <:+:
      replacedFrom find (fun value => kept value ++ bracketed inner) before skip cs) :
    part <:+: inner ∨ ∃ start place, place <:+ cs ∧
      (find start place = none ∧ part <+: place ∨
        ∃ found, find start place = some found ∧ part <:+: kept found.value) := by
  induction cs generalizing before skip with
  | nil =>
      rw [replacedFrom_nil, List.infix_nil] at inside
      exact absurd inside nonempty
  | cons c rest ih =>
      -- What is said about the rest of the text holds of the whole.
      have later : ∀ {before : Option Char} {skip : Nat}, part <:+:
          replacedFrom find (fun value => kept value ++ bracketed inner) before skip rest →
          part <:+: inner ∨ ∃ start place, place <:+ c :: rest ∧
            (find start place = none ∧ part <+: place ∨
              ∃ found, find start place = some found ∧ part <:+: kept found.value) := by
        intro before skip within
        refine (ih within).imp_right ?_
        rintro ⟨start, place, suffix, which⟩
        exact ⟨start, place, suffix.trans (List.suffix_cons c rest), which⟩
      cases skip with
      | succ skip => exact later inside
      | zero =>
          cases here : find before (c :: rest) with
          | none =>
              have whole := inside
              rw [replacedFrom_of_none here, List.infix_cons_iff] at inside
              rcases inside with start | within
              · rw [← replacedFrom_of_none here] at start
                exact .inr ⟨before, c :: rest, List.suffix_refl _,
                  .inl ⟨here, prefix_of_prefix_replacedFrom keeps unopened start⟩⟩
              · exact later within
          | some found =>
              rw [replacedFrom_of_some here, bracketed, List.append_assoc, List.cons_append,
                List.append_assoc, List.singleton_append] at inside
              rcases infix_of_infix_append_cons unopened inside with inKept | afterKept
              · exact .inr ⟨before, c :: rest, List.suffix_refl _, .inr ⟨found, here, inKept⟩⟩
              · rcases infix_of_infix_append_cons unclosed afterKept with inMark | afterMark
                · exact .inl inMark
                · exact later afterMark

/-- If what is kept of an occurrence is followed by a character of some kind, the outcome
goes on after a beginning without a bracket with such a character only if the text did. -/
theorem exists_prefix_of_prefix_replacedFrom {property : Char → Prop}
    (goesOn : ∀ before cs found, find before cs = some found →
      ∃ c, property c ∧ kept found.value ++ [c] <+: cs)
    (unopened : '[' ∉ part) {d : Char} (next : property d) {before : Option Char}
    {cs : List Char}
    (start : part ++ [d] <+:
      replacedFrom find (fun value => kept value ++ bracketed inner) before 0 cs) :
    ∃ c, property c ∧ part ++ [c] <+: cs := by
  induction cs generalizing before part with
  | nil =>
      rw [replacedFrom_nil, List.prefix_nil] at start
      exact absurd start (List.append_ne_nil_of_right_ne_nil part (List.cons_ne_nil d []))
  | cons c rest ih =>
      cases here : find before (c :: rest) with
      | none =>
          rw [replacedFrom_of_none here] at start
          cases part with
          | nil =>
              obtain ⟨rfl, -⟩ := List.cons_prefix_cons.mp start
              exact ⟨d, next, List.cons_prefix_cons.mpr ⟨rfl, List.nil_prefix⟩⟩
          | cons e part =>
              rw [List.cons_append, List.cons_prefix_cons] at start
              obtain ⟨f, same, within⟩ :=
                ih (fun member => unopened (List.mem_cons_of_mem e member)) start.2
              exact ⟨f, same, List.cons_prefix_cons.mpr ⟨start.1, within⟩⟩
      | some found =>
          rw [replacedFrom_of_some here, List.append_assoc] at start
          obtain ⟨f, same, front⟩ := goesOn _ _ _ here
          obtain ⟨more, split⟩ :=
            prefix_of_prefix_append_cons unopened ((List.prefix_append part [d]).trans start)
          cases more with
          | nil =>
              rw [List.append_nil] at split
              rw [← split] at front
              exact ⟨f, same, front⟩
          | cons e more =>
              rw [← split, List.append_assoc, List.prefix_append_right_inj, List.cons_append,
                List.cons_prefix_cons] at start
              obtain ⟨rfl, -⟩ := start
              refine ⟨d, next, List.IsPrefix.trans ?_ front⟩
              rw [← split, List.append_cons part d more, List.append_assoc]
              exact List.prefix_append _ _

end Marks

/-! ## Outcomes that stay as they are -/

section Again

variable {find : Finder α} {replacement : α → List Char}

theorem replacedFrom_eq_self {before : Option Char} {cs : List Char}
    (same : ∀ start rest found, start ++ rest = cs →
      find (start.getLast?.or before) rest = some found →
      ∃ taken tail, rest = taken ++ tail ∧ taken ≠ [] ∧ found.length = taken.length ∧
        replacement found.value = taken) :
    replacedFrom find replacement before 0 cs = cs := by
  induction size : cs.length using Nat.strong_induction_on generalizing before cs with
  | _ length ih =>
      -- After some characters at the start, what is assumed of the text holds of the rest.
      have goOn : ∀ taken tail, taken ≠ [] → cs = taken ++ tail →
          replacedFrom find replacement (taken.getLast?.or before) 0 tail = tail := by
        rintro taken tail nonempty rfl
        have shorter : tail.length < length := by
          have taking := List.length_pos_iff.mpr nonempty
          rw [List.length_append] at size
          omega
        refine ih tail.length shorter ?_ rfl
        intro start rest found split here
        refine same (taken ++ start) rest found (by rw [List.append_assoc, split]) ?_
        rwa [List.getLast?_append, Option.or_assoc]
      cases cs with
      | nil => rw [replacedFrom_nil]
      | cons c rest =>
          cases here : find before (c :: rest) with
          | none =>
              rw [replacedFrom_of_none here]
              exact congrArg _ (goOn [c] rest (List.cons_ne_nil c []) rfl)
          | some found =>
              obtain ⟨taken, tail, split, nonempty, whole, kept⟩ := same [] _ found rfl here
              rw [split] at here ⊢
              rw [replacedFrom_append nonempty here whole, kept, goOn taken tail nonempty split]

/-- If every occurrence would be replaced by itself, the text stays as it is. -/
theorem replaceFound_eq_self_of_same {cs : List Char}
    (same : ∀ start rest found, start ++ rest = cs → find start.getLast? rest = some found →
      ∃ taken tail, rest = taken ++ tail ∧ taken ≠ [] ∧ found.length = taken.length ∧
        replacement found.value = taken) :
    replaceFound find replacement cs = cs := by
  rw [replaceFound_eq_replacedFrom]
  refine replacedFrom_eq_self fun start rest found split here => ?_
  rw [Option.or_none] at here
  exact same start rest found split here

end Again

/-! ## Patterns -/

/-- A text that holds nothing of a pattern. -/
def FreeOf (pattern : List Char → Prop) (cs : List Char) : Prop :=
  ∀ part, part <:+: cs → ¬pattern part

/-- A finder that finds something exactly where something of a pattern begins. -/
def Seeks (find : Finder α) (pattern : List Char → Prop) : Prop :=
  ∀ before cs, find before cs = none ↔ ∀ part, part <+: cs → ¬pattern part

/-- A pattern of texts that lie neither inside a mark nor across a bracket. -/
structure Unforgeable (inner : List Char) (pattern : List Char → Prop) : Prop where
  unopened : ∀ part, pattern part → '[' ∉ part
  unclosed : ∀ part, pattern part → ']' ∉ part
  outside : ∀ part, pattern part → ¬part <:+: inner

section Patterns

variable {find : Finder α} {kept : α → List Char} {inner : List Char}
  {pattern : List Char → Prop} {cs : List Char}

theorem Unforgeable.nonempty (unforgeable : Unforgeable inner pattern) {part : List Char}
    (here : pattern part) : part ≠ [] := by
  rintro rfl
  exact unforgeable.outside [] here (List.nil_infix)

/-- Marks put nothing together that was not there before. -/
theorem Unforgeable.freeOf_replaceFound (unforgeable : Unforgeable inner pattern)
    (keeps : KeepsStart find kept) (free : FreeOf pattern cs) :
    FreeOf pattern (replaceFound find (fun value => kept value ++ bracketed inner) cs) := by
  intro part inside here
  rw [replaceFound_eq_replacedFrom] at inside
  rcases infix_of_infix_replacedFrom keeps (unforgeable.nonempty here)
      (unforgeable.unopened part here) (unforgeable.unclosed part here) inside with
    inMark | ⟨start, place, suffix, ⟨-, begins⟩ | ⟨found, found_eq, inKept⟩⟩
  · exact unforgeable.outside part here inMark
  · exact free part (begins.isInfix.trans suffix.isInfix) here
  · exact free part (inKept.trans ((keeps _ _ _ found_eq).isInfix.trans suffix.isInfix)) here

/-- What is looked for is not there once it has been replaced by marks. -/
theorem Seeks.freeOf_replaceFound (seeks : Seeks find pattern)
    (unforgeable : Unforgeable inner pattern) (cs : List Char) :
    FreeOf pattern (replaceFound find (fun _ => bracketed inner) cs) := by
  intro part inside here
  rw [replaceFound_eq_replacedFrom] at inside
  have nonempty := unforgeable.nonempty here
  rcases infix_of_infix_replacedFrom (keepsStart_nil find) nonempty
      (unforgeable.unopened part here) (unforgeable.unclosed part here) inside with
    inMark | ⟨start, place, suffix, ⟨nothing, begins⟩ | ⟨found, -, inKept⟩⟩
  · exact unforgeable.outside part here inMark
  · exact (seeks start place).mp nothing part begins here
  · exact nonempty (List.infix_nil.mp inKept)

/-- A text that is free of what is looked for stays as it is. -/
theorem Seeks.replaceFound_eq_self (seeks : Seeks find pattern) (free : FreeOf pattern cs)
    (replacement : α → List Char) : replaceFound find replacement cs = cs :=
  Text.replaceFound_eq_self fun before rest suffix => (seeks before rest).mpr
    fun part begins => free part (begins.isInfix.trans suffix.isInfix)

end Patterns

end ChatCommands.Text
