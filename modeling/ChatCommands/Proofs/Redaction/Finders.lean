/-
# How far the finders look

Each of the three finders passes over blanks, and what it finds lies in the text it was
given. A token of a bot never reaches over a blank. A bearer credential does, over the
blanks after its word, and an assigned secret does twice, on either side of the
separator; so these two find the same in the first part of a text, whatever follows,
only if that part does not end where the credential or the value is still to come.
-/

import ChatCommands.Redaction
import ChatCommands.Text.Replace
import ChatCommands.Proofs.Text.Pieces
import Mathlib.Data.List.Infix

namespace ChatCommands.Redaction

open Text (AllBlank BlankFirst Found PassesBlanks Settled blankCodes isBlank)

variable {cs tail : List Char}

/-! ## Tokens of bots -/

theorem isTokenChar_eq_false_of_isBlank (c : Char) (blank : isBlank c = true) :
    isTokenChar c = false := by
  refine @Text.of_isBlank (fun c => isTokenChar c = false) ?_ c blank
  decide +kernel

theorem tokenRun_le (limit : Nat) (cs : List Char) : tokenRun limit cs ≤ cs.length :=
  (List.takeWhile_prefix isTokenChar).length_le.trans (List.length_take_le' limit cs)

theorem tokenRun_append (limit : Nat) (follows : BlankFirst tail) (cs : List Char) :
    tokenRun limit (cs ++ tail) = tokenRun limit cs := by
  have taken : BlankFirst (tail.take (limit - cs.length)) := by
    intro c member
    rw [List.head?_take] at member
    split at member
    · cases member
    · exact follows c member
  rw [tokenRun, tokenRun, List.take_append,
    Text.takeWhile_append_of_blankFirst isTokenChar_eq_false_of_isBlank taken]

theorem afterPoint?_eq_some_iff {n : Nat} {rest : List Char} :
    afterPoint? n cs = some rest ↔ cs.drop n = '.' :: rest := by
  rw [afterPoint?]
  split
  · next same => rw [same, Option.some.injEq, List.cons.injEq, and_iff_right rfl]
  · next other =>
    constructor
    · intro none
      cases none
    · intro same
      exact absurd same (other rest)

theorem length_of_afterPoint? {n : Nat} {rest : List Char} (found : afterPoint? n cs = some rest) :
    n + 1 + rest.length = cs.length := by
  have lengths := congrArg List.length (afterPoint?_eq_some_iff.mp found)
  rw [List.length_drop, List.length_cons] at lengths
  omega

theorem afterPoint?_append {n : Nat} (inside : n ≤ cs.length) (follows : BlankFirst tail) :
    afterPoint? n (cs ++ tail) = (afterPoint? n cs).map (· ++ tail) := by
  apply Option.ext
  intro rest
  rw [afterPoint?_eq_some_iff, Option.map_eq_some_iff, List.drop_append_of_le_length inside]
  constructor
  · intro same
    rcases List.append_eq_cons_iff.mp same with ⟨-, rfl⟩ | ⟨middle, inFront, rfl⟩
    · exact absurd (follows '.' rfl) (by decide)
    · exact ⟨middle, afterPoint?_eq_some_iff.mpr inFront, rfl⟩
  · rintro ⟨middle, found, rfl⟩
    rw [afterPoint?_eq_some_iff.mp found, List.cons_append]

theorem botTokenFinder_append (before : Option Char) (follows : BlankFirst tail)
    (cs : List Char) : botTokenFinder before (cs ++ tail) = botTokenFinder before cs := by
  unfold botTokenFinder
  simp only [tokenRun_append _ follows, afterPoint?_append (tokenRun_le 28 cs) follows]
  by_cases short : tokenRun 28 cs < 24
  · rw [if_pos short, if_pos short]
  rw [if_neg short, if_neg short]
  cases afterPoint? (tokenRun 28 cs) cs with
  | none => rfl
  | some middle =>
      simp only [Option.map_some, tokenRun_append _ follows]
      by_cases few : tokenRun 6 middle < 6
      · rw [if_pos few, if_pos few]
      have inside : 6 ≤ middle.length := (Nat.le_of_not_lt few).trans (tokenRun_le 6 middle)
      rw [if_neg few, if_neg few, afterPoint?_append inside follows]
      cases afterPoint? 6 middle with
      | none => rfl
      | some last => simp only [Option.map_some, tokenRun_append _ follows]

/-- A token of a bot holds a point, and lies in the text. -/
theorem of_botTokenFinder {before : Option Char} {found : Found Unit}
    (here : botTokenFinder before cs = some found) :
    '.' ∈ cs ∧ found.length ≤ cs.length := by
  unfold botTokenFinder at here
  dsimp only at here
  split at here
  · cases here
  cases first : afterPoint? (tokenRun 28 cs) cs with
  | none => simp only [first, reduceCtorEq] at here
  | some middle =>
      simp only [first] at here
      split at here
      · cases here
      cases second : afterPoint? 6 middle with
      | none => simp only [second, reduceCtorEq] at here
      | some last =>
          simp only [second] at here
          split at here
          · cases here
          obtain rfl := Option.some.inj here
          have point : '.' ∈ cs.drop (tokenRun 28 cs) := by
            rw [afterPoint?_eq_some_iff.mp first]
            exact List.mem_cons_self
          have all := length_of_afterPoint? first
          have most := length_of_afterPoint? second
          have run := tokenRun_le 38 last
          refine ⟨List.mem_of_mem_drop point, ?_⟩
          dsimp only
          omega

theorem passesBlanks_botTokenFinder : PassesBlanks botTokenFinder :=
  fun before _ follows => botTokenFinder_append before follows []

theorem settled_botTokenFinder (follows : BlankFirst tail) (cs : List Char) :
    Settled botTokenFinder cs tail where
  agrees before part _ _ := botTokenFinder_append before follows part
  within _ _ _ _ here := (of_botTokenFinder here).2

/-! ## Keys of services -/

/-- A text that ends with the word of a bearer credential and blanks. The credential, if
there is one, comes after it. -/
def AwaitsCredential (cs : List Char) : Prop :=
  ∃ gap, AllBlank gap ∧ "Bearer".toList ++ gap <:+ cs

instance (cs : List Char) : Decidable (AwaitsCredential cs) :=
  decidable_of_iff
    (∃ part ∈ cs.tails, (Text.after? "Bearer".toList part).any fun gap => gap.all isBlank) <| by
    constructor
    · rintro ⟨part, member, here⟩
      obtain ⟨gap, found, blanks⟩ := (Option.any_eq_true _ _).mp here
      refine ⟨gap, List.all_eq_true.mp blanks, ?_⟩
      rw [← Text.after?_eq_some_iff.mp found]
      exact (List.mem_tails _ _).mp member
    · rintro ⟨gap, blanks, ends⟩
      refine ⟨_, (List.mem_tails _ _).mpr ends, ?_⟩
      rw [Text.after?_eq_some_iff.mpr rfl]
      exact List.all_eq_true.mpr blanks

theorem after?_append {pattern : List Char} (solid : pattern.any isBlank = false)
    (follows : BlankFirst tail) (cs : List Char) :
    Text.after? pattern (cs ++ tail) = (Text.after? pattern cs).map (· ++ tail) := by
  have noBlank : ∀ c ∈ pattern, isBlank c = false := fun c member =>
    eq_false_of_ne_true (List.any_eq_false.mp solid c member)
  apply Option.ext
  intro rest
  rw [Text.after?_eq_some_iff, Option.map_eq_some_iff]
  constructor
  · intro same
    obtain ⟨more, rfl⟩ := Text.solid_append_eq_append noBlank follows same
    rw [List.append_assoc] at same
    exact ⟨more, Text.after?_eq_some_iff.mpr rfl, List.append_cancel_left same⟩
  · rintro ⟨more, found, rfl⟩
    rw [Text.after?_eq_some_iff.mp found, List.append_assoc]

/-- The length of a key, from the text after its mark. -/
theorem serviceKeyLength?_eq (cs : List Char) :
    serviceKeyLength? cs =
      (Text.after? "sk-".toList cs).bind fun rest =>
        if (rest.takeWhile isKeyChar).length < 32 then none
        else some (3 + (rest.takeWhile isKeyChar).length) := by
  unfold serviceKeyLength?
  split
  · rfl
  · next other =>
    cases found : Text.after? "sk-".toList cs with
    | none => rfl
    | some rest => exact absurd (Text.after?_eq_some_iff.mp found) (other rest)

/-- The length of a bearer credential, from the text after its word. -/
theorem bearerLength?_eq (cs : List Char) :
    bearerLength? cs =
      (Text.after? "Bearer".toList cs).bind fun rest =>
        let blanks := (rest.takeWhile isBlank).length
        let afterBlanks := rest.dropWhile isBlank
        let run := (afterBlanks.takeWhile isCredentialChar).length
        let padding := ((afterBlanks.dropWhile isCredentialChar).takeWhile (· == '=')).length
        if blanks = 0 ∨ run = 0 then none else some (6 + blanks + run + padding) := by
  unfold bearerLength?
  split
  · rfl
  · next other =>
    cases found : Text.after? "Bearer".toList cs with
    | none => rfl
    | some rest => exact absurd (Text.after?_eq_some_iff.mp found) (other rest)

theorem isKeyChar_eq_false_of_isBlank (c : Char) (blank : isBlank c = true) :
    isKeyChar c = false := by
  refine @Text.of_isBlank (fun c => isKeyChar c = false) ?_ c blank
  decide +kernel

theorem isCredentialChar_eq_false_of_isBlank (c : Char) (blank : isBlank c = true) :
    isCredentialChar c = false := by
  refine @Text.of_isBlank (fun c => isCredentialChar c = false) ?_ c blank
  decide +kernel

theorem equals_eq_false_of_isBlank (c : Char) (blank : isBlank c = true) : (c == '=') = false := by
  refine @Text.of_isBlank (fun c => (c == '=') = false) ?_ c blank
  decide +kernel

theorem serviceKeyLength?_append (follows : BlankFirst tail) (cs : List Char) :
    serviceKeyLength? (cs ++ tail) = serviceKeyLength? cs := by
  rw [serviceKeyLength?_eq, serviceKeyLength?_eq, after?_append (by decide +kernel) follows]
  cases Text.after? "sk-".toList cs with
  | none => rfl
  | some rest =>
      simp only [Option.map_some, Option.bind_some,
        Text.takeWhile_append_of_blankFirst isKeyChar_eq_false_of_isBlank follows]

theorem bearerLength?_append (follows : BlankFirst tail) (settled : ¬AwaitsCredential cs) :
    bearerLength? (cs ++ tail) = bearerLength? cs := by
  rw [bearerLength?_eq, bearerLength?_eq, after?_append (by decide +kernel) follows]
  cases found : Text.after? "Bearer".toList cs with
  | none => rfl
  | some rest =>
      have solid : rest.dropWhile isBlank ≠ [] := by
        intro nothing
        refine settled ⟨rest, List.dropWhile_eq_nil_iff.mp nothing, ?_⟩
        rw [← Text.after?_eq_some_iff.mp found]
      have short : (rest.takeWhile isBlank).length ≠ rest.length := by
        intro whole
        refine solid (List.eq_nil_of_length_eq_zero ?_)
        have sum := congrArg List.length (@List.takeWhile_append_dropWhile _ isBlank rest)
        rw [List.length_append] at sum
        omega
      simp only [Option.map_some, Option.bind_some, List.takeWhile_append, if_neg short,
        List.dropWhile_append, List.isEmpty_iff, if_neg solid,
        Text.takeWhile_append_of_blankFirst isCredentialChar_eq_false_of_isBlank follows,
        Text.dropWhile_append_of_blankFirst isCredentialChar_eq_false_of_isBlank follows,
        Text.takeWhile_append_of_blankFirst equals_eq_false_of_isBlank follows]

theorem serviceKeyFinder_append (before : Option Char) (follows : BlankFirst tail)
    (settled : ¬AwaitsCredential cs) :
    serviceKeyFinder before (cs ++ tail) = serviceKeyFinder before cs := by
  rw [serviceKeyFinder, serviceKeyFinder, serviceKeyLength?_append follows,
    bearerLength?_append follows settled]

theorem of_serviceKeyLength? {length : Nat} (here : serviceKeyLength? cs = some length) :
    '-' ∈ cs ∧ length ≤ cs.length := by
  rw [serviceKeyLength?_eq, Option.bind_eq_some_iff] at here
  obtain ⟨rest, found, enough⟩ := here
  obtain rfl := Text.after?_eq_some_iff.mp found
  split at enough
  · cases enough
  obtain rfl := Option.some.inj enough
  have run := (@List.takeWhile_prefix _ rest isKeyChar).length_le
  refine ⟨List.mem_append_left rest (by decide), ?_⟩
  rw [List.length_append]
  exact Nat.add_le_add_left run 3

theorem of_bearerLength? {length : Nat} (here : bearerLength? cs = some length) :
    'B' ∈ cs ∧ length ≤ cs.length := by
  rw [bearerLength?_eq, Option.bind_eq_some_iff] at here
  obtain ⟨rest, found, enough⟩ := here
  obtain rfl := Text.after?_eq_some_iff.mp found
  dsimp only at enough
  split at enough
  · cases enough
  obtain rfl := Option.some.inj enough
  refine ⟨List.mem_append_left rest (by decide), ?_⟩
  have gap := congrArg List.length (@List.takeWhile_append_dropWhile _ isBlank rest)
  have credential := congrArg List.length
    (@List.takeWhile_append_dropWhile _ isCredentialChar (rest.dropWhile isBlank))
  have padding := (@List.takeWhile_prefix _
    ((rest.dropWhile isBlank).dropWhile isCredentialChar) (· == '=')).length_le
  rw [List.length_append] at gap credential
  have word : "Bearer".toList.length = 6 := by rfl
  rw [List.length_append, word]
  omega

/-- A service key holds a hyphen and a bearer credential its word, and both lie in the
text. -/
theorem of_serviceKeyFinder {before : Option Char} {found : Found Unit}
    (here : serviceKeyFinder before cs = some found) :
    ('-' ∈ cs ∨ 'B' ∈ cs) ∧ found.length ≤ cs.length := by
  unfold serviceKeyFinder at here
  split at here
  · next length key =>
    obtain rfl := Option.some.inj here
    obtain ⟨hyphen, inside⟩ := of_serviceKeyLength? key
    exact ⟨.inl hyphen, inside⟩
  · rw [Option.map_eq_some_iff] at here
    obtain ⟨length, credential, rfl⟩ := here
    obtain ⟨letter, inside⟩ := of_bearerLength? credential
    exact ⟨.inr letter, inside⟩

theorem not_awaitsCredential_nil : ¬AwaitsCredential [] := by
  rintro ⟨gap, -, suffix⟩
  exact List.cons_ne_nil _ _ (List.suffix_nil.mp suffix)

/-- A blank more does not bring the credential. -/
theorem AwaitsCredential.append_blank (awaits : AwaitsCredential cs) {c : Char}
    (blank : isBlank c = true) : AwaitsCredential (cs ++ [c]) := by
  obtain ⟨gap, blanks, before, rfl⟩ := awaits
  exact ⟨gap ++ [c], blanks.concat blank, before, by simp only [List.append_assoc]⟩

theorem AwaitsCredential.of_suffix {part : List Char} (awaits : AwaitsCredential part)
    (suffix : part <:+ cs) : AwaitsCredential cs := by
  obtain ⟨gap, blanks, ends⟩ := awaits
  exact ⟨gap, blanks, ends.trans suffix⟩

theorem AwaitsCredential.mem (awaits : AwaitsCredential cs) : 'B' ∈ cs := by
  obtain ⟨gap, -, ends⟩ := awaits
  exact ends.subset (List.mem_append_left gap (by decide))

theorem passesBlanks_serviceKeyFinder : PassesBlanks serviceKeyFinder :=
  fun before _ follows => serviceKeyFinder_append before follows not_awaitsCredential_nil

theorem settled_serviceKeyFinder (follows : BlankFirst tail) (settled : ¬AwaitsCredential cs) :
    Settled serviceKeyFinder cs tail where
  agrees before _ suffix _ :=
    serviceKeyFinder_append before follows fun awaits => settled (awaits.of_suffix suffix)
  within _ _ _ _ here := (of_serviceKeyFinder here).2

end ChatCommands.Redaction
