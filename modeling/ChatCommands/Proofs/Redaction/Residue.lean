/-
# What redaction leaves

The outcome of redaction holds nothing that redaction looks for, except for assigned secrets
whose value is the mark itself: what one pass removes, the marks of the next cannot put
together again, because all marks stand in brackets. So to redact once more changes nothing.

Main statement: `isClean_redact`, for all texts.
-/

import ChatCommands.Proofs.Redaction.Assignment
import ChatCommands.Proofs.Redaction.Pattern

namespace ChatCommands.Redaction

open Text (AllBlank BlankFirst Found FreeOf KeepsStart bracketed isBlank isWord replacedFrom)

variable {cs : List Char}

/-! ## Assigned secrets, told without the finder -/

/-- A secret that is assigned where a text goes on after the character `before`: a secret
word at the start of a word, a separator, and a value that reaches up to the next blank. -/
structure IsAssigned (before : Option Char) (word separator value after : List Char) : Prop where
  starts : isWordStart before = true
  secret : word.map foldCase ∈ secretWords
  separates : IsSeparator separator
  nonempty : value ≠ []
  solid : ∀ c ∈ value, isBlank c = false
  follows : BlankFirst after

section Assigned

variable {before : Option Char} {word separator value after : List Char}

theorem IsAssigned.found (assigned : IsAssigned before word separator value after) :
    assignmentFinder before (word ++ (separator ++ (value ++ after))) =
      some ⟨word ++ separator, (word ++ separator ++ value).length⟩ := by
  have found := assignmentFinder_append_of_isSeparator assigned.starts assigned.secret
    assigned.separates assigned.nonempty assigned.solid assigned.follows
  rwa [List.append_assoc, List.append_assoc] at found

/-- A value that has begun reaches up to some blank. -/
theorem isAssigned_takeWhile (starts : isWordStart before = true)
    (secret : word.map foldCase ∈ secretWords) (separates : IsSeparator separator)
    (nonempty : value.takeWhile (fun c => !isBlank c) ≠ []) :
    IsAssigned before word separator (value.takeWhile fun c => !isBlank c)
      (value.dropWhile fun c => !isBlank c) where
  starts := starts
  secret := secret
  separates := separates
  nonempty := nonempty
  solid c member := by
    have notBlank := List.mem_takeWhile_imp member
    rwa [Bool.not_eq_true'] at notBlank
  follows c member := by
    have stopped := List.head?_dropWhile_not (fun c => !isBlank c) value
    rw [member] at stopped
    simpa using stopped

/-- The finder finds nothing but assigned secrets. -/
theorem exists_isAssigned {found : Found (List Char)}
    (here : assignmentFinder before cs = some found) :
    ∃ word separator value after, cs = word ++ (separator ++ (value ++ after)) ∧
      IsAssigned before word separator value after ∧
      found = ⟨word ++ separator, (word ++ separator ++ value).length⟩ := by
  have present := here
  unfold assignmentFinder at here
  split at here
  · next starts =>
    cases assigned : (afterSecretWord? cs).bind afterSeparator? with
    | none => simp only [assigned, reduceCtorEq] at here
    | some rest =>
        simp only [assigned] at here
        split at here
        · cases here
        next some =>
        obtain ⟨afterWord, wordEnds, separatorEnds⟩ := Option.bind_eq_some_iff.mp assigned
        obtain ⟨word, rfl, secret⟩ := of_afterSecretWord? wordEnds
        obtain ⟨separator, separates, rfl⟩ := of_afterSeparator? separatorEnds
        have nonempty : rest.takeWhile (fun c => !isBlank c) ≠ [] :=
          fun nothing => some (congrArg List.length nothing)
        have isAssigned := isAssigned_takeWhile starts secret separates nonempty
        have found_eq := isAssigned.found
        rw [List.takeWhile_append_dropWhile, present] at found_eq
        refine ⟨word, separator, _, _, ?_, isAssigned, Option.some.inj found_eq⟩
        rw [List.takeWhile_append_dropWhile]
  · cases here

end Assigned

/-! ## Where a secret word can begin -/

theorem isWord_of_isWord_foldCase {c : Char} (folded : isWord (foldCase c) = true) :
    isWord c = true := by
  unfold foldCase at folded
  split at folded
  · next same =>
    rw [beq_iff_eq.mp same]
    decide +kernel
  split at folded
  · next same =>
    rw [beq_iff_eq.mp same]
    decide +kernel
  unfold Char.toLower at folded
  split at folded
  · next capital =>
    have letter : c.isAlphanum = true := by
      show (decide (c.val ≥ 'A'.val ∧ c.val ≤ 'Z'.val) || c.isLower || c.isDigit) = true
      rw [decide_eq_true capital]
      rfl
    have basic : Text.isBasic c = true := by
      have below := UInt32.le_iff_toNat_le.mp capital.2
      rw [Text.isBasic, decide_eq_true_iff]
      exact Nat.lt_of_le_of_lt below (by decide)
    rw [isWord, if_pos basic, letter]
    rfl
  · exact folded

/-- The letters of a spelled word are word characters, in whatever case they are. -/
theorem isWord_of_mem_spelled {spelled : List Char} (secret : spelled.map foldCase ∈ secretWords)
    {c : Char} (member : c ∈ spelled) : isWord c = true := by
  have table : ∀ word ∈ secretWords, word.all isWord = true := by decide +kernel
  exact isWord_of_isWord_foldCase
    (List.all_eq_true.mp (table _ secret) _ (List.mem_map_of_mem member))

theorem isWord_eq_false_of_mem_separator {separator : List Char}
    (separates : IsSeparator separator) {c : Char} (member : c ∈ separator) :
    isWord c = false := by
  obtain ⟨lead, mark, trail, rfl, leading, isMark, trailing⟩ := separates
  rcases List.mem_append.mp member with inLead | later
  · exact Text.isWord_eq_false_of_isBlank (leading c inLead)
  · rcases List.mem_cons.mp later with rfl | inTrail
    · rcases isMark with rfl | rfl <;> decide +kernel
    · exact Text.isWord_eq_false_of_isBlank (trailing c inTrail)

/-- A secret word begins with a word character. -/
theorem afterSecretWord?_cons_of_not_word {c : Char} (other : isWord c = false)
    (rest : List Char) : afterSecretWord? (c :: rest) = none := by
  rw [Option.eq_none_iff_forall_ne_some]
  intro after here
  obtain ⟨spelled, same, secret⟩ := of_afterSecretWord? here
  have nonempty : ∀ word ∈ secretWords, word ≠ [] := by decide
  cases spelled with
  | nil => exact nonempty _ secret rfl
  | cons d spelled =>
      obtain ⟨rfl, -⟩ := List.cons.inj same
      rw [isWord_of_mem_spelled secret List.mem_cons_self] at other
      cases other

theorem afterSecretWord?_of_suffix_secretMark {part : List Char}
    (suffix : part <:+ secretMark.toList) : afterSecretWord? part = none := by
  have table : ∀ part ∈ secretMark.toList.tails, afterSecretWord? part = none := by
    decide +kernel
  exact table part ((List.mem_tails _ _).mpr suffix)

theorem isWordStart_getLast?_of_isWord {start : List Char} (nonempty : start ≠ [])
    (word : ∀ c ∈ start, isWord c = true) (before : Option Char) :
    isWordStart (start.getLast?.or before) = false := by
  rw [List.getLast?_eq_some_getLast nonempty, Option.some_or, isWordStart,
    word _ (List.getLast_mem nonempty)]
  rfl

/-- In an assignment whose value is the mark, no other secret word begins. -/
theorem afterSecretWord?_within_marked {before : Option Char} {word separator start part : List Char}
    (secret : word.map foldCase ∈ secretWords) (separates : IsSeparator separator)
    (split : word ++ (separator ++ secretMark.toList) = start ++ part) (nonempty : start ≠ [])
    (starts : isWordStart (start.getLast?.or before) = true) : afterSecretWord? part = none := by
  rcases List.append_eq_append_iff.mp split with
    ⟨more, rfl, beyondWord⟩ | ⟨more, rfl, -⟩
  · rcases List.append_eq_append_iff.mp beyondWord with
      ⟨later, rfl, beyondSeparator⟩ | ⟨later, rfl, rfl⟩
    · exact afterSecretWord?_of_suffix_secretMark ⟨later, beyondSeparator.symm⟩
    · cases later with
      | nil => exact afterSecretWord?_of_suffix_secretMark (List.suffix_refl _)
      | cons c later =>
          exact afterSecretWord?_cons_of_not_word (isWord_eq_false_of_mem_separator separates
            (List.mem_append_right more List.mem_cons_self)) _
  · rw [isWordStart_getLast?_of_isWord nonempty fun c member =>
      isWord_of_mem_spelled secret (List.mem_append_left more member)] at starts
    cases starts

/-! ## Assigned secrets in the outcome -/

theorem toList_secretMark : secretMark.toList = bracketed "REDACTED".toList := by decide

theorem toList_tokenMark : tokenMark.toList = bracketed "REDACTED_TOKEN".toList := by decide

/-- The text after the character `before` without assigned secrets. -/
def redactAssignmentsFrom (before : Option Char) (cs : List Char) : List Char :=
  replacedFrom assignmentFinder (fun kept => kept ++ bracketed "REDACTED".toList) before 0 cs

theorem redactAssignments_eq (cs : List Char) :
    redactAssignments cs = redactAssignmentsFrom none cs := by
  rw [redactAssignments, toList_secretMark]
  rfl

theorem keepsStart_assignmentFinder : KeepsStart assignmentFinder fun kept => kept := by
  intro before cs found here
  obtain ⟨word, separator, value, after, rfl, -, rfl⟩ := exists_isAssigned here
  exact ⟨value ++ after, by rw [List.append_assoc]⟩

section Outcome

variable {before : Option Char} {word separator value after : List Char}

theorem IsAssigned.value_eq (assigned : IsAssigned before word separator value after)
    {word' separator' value' after' : List Char}
    (again : IsAssigned before word' separator' value' after')
    (same : word ++ (separator ++ (value ++ after)) =
      word' ++ (separator' ++ (value' ++ after'))) : value = value' := by
  have found := assigned.found
  rw [same, again.found, Option.some.injEq, Found.mk.injEq] at found
  obtain ⟨kept, length⟩ := found
  rw [← List.append_assoc, ← List.append_assoc word', kept] at same
  rw [kept] at length
  simp only [List.length_append] at length
  exact (List.append_inj (List.append_cancel_left same)
    (Nat.add_left_cancel length).symm).1

theorem IsAssigned.unopened (assigned : IsAssigned before word separator value after) :
    '[' ∉ word ++ separator := by
  rw [List.mem_append]
  rintro (inWord | inSeparator)
  · have other : isWord '[' = false := by decide +kernel
    rw [isWord_of_mem_spelled assigned.secret inWord] at other
    cases other
  · exact assigned.separates.not_mem (by decide +kernel) (by decide) inSeparator

/-- Where nothing is assigned, nothing is assigned in the outcome. -/
theorem not_isAssigned_of_none (nothing : assignmentFinder before cs = none)
    (split : redactAssignmentsFrom before cs = word ++ (separator ++ (value ++ after))) :
    ¬IsAssigned before word separator value after := by
  intro assigned
  have goesOn : ∀ before cs found, assignmentFinder before cs = some found →
      ∃ c, isBlank c = false ∧ found.value ++ [c] <+: cs := by
    intro before cs found here
    obtain ⟨word, separator, value, after, rfl, first, rfl⟩ := exists_isAssigned here
    cases value with
    | nil => exact absurd rfl first.nonempty
    | cons c value =>
        refine ⟨c, first.solid c List.mem_cons_self, value ++ after, ?_⟩
        simp only [List.append_assoc, List.cons_append, List.nil_append]
  cases value with
  | nil => exact assigned.nonempty rfl
  | cons d value =>
      have start : (word ++ separator) ++ [d] <+: redactAssignmentsFrom before cs := by
        rw [split]
        refine ⟨value ++ after, ?_⟩
        simp only [List.append_assoc, List.cons_append, List.nil_append]
      obtain ⟨c, solid, rest, rfl⟩ := Text.exists_prefix_of_prefix_replacedFrom goesOn
        assigned.unopened (assigned.solid d List.mem_cons_self) start
      -- In the text, too, a value begins after the separator.
      have begun : (c :: rest).takeWhile (fun c => !isBlank c) ≠ [] := by
        rw [List.takeWhile_cons_of_pos (by rw [solid]; rfl)]
        exact List.cons_ne_nil c _
      have found := (isAssigned_takeWhile assigned.starts assigned.secret assigned.separates
        begun).found
      rw [List.takeWhile_append_dropWhile] at found
      rw [List.append_assoc, List.append_assoc, List.singleton_append, found] at nothing
      cases nothing

theorem IsAssigned.marked (assigned : IsAssigned before word separator value after)
    (follows : BlankFirst cs) : IsAssigned before word separator secretMark.toList cs where
  starts := assigned.starts
  secret := assigned.secret
  separates := assigned.separates
  nonempty := by decide
  solid _ member :=
    Bool.not_eq_true _ ▸ List.any_eq_false.mp (by decide +kernel) _ member
  follows := follows

/-- An assigned secret gives way to the mark, and the outcome goes on with a blank or ends. -/
theorem IsAssigned.redactAssignmentsFrom_eq
    (assigned : IsAssigned before word separator value after) :
    ∃ last, BlankFirst (redactAssignmentsFrom last after) ∧
      redactAssignmentsFrom before (word ++ (separator ++ (value ++ after))) =
        (word ++ (separator ++ secretMark.toList)) ++ redactAssignmentsFrom last after := by
  have found := assigned.found
  have nonempty : word ++ separator ++ value ≠ [] :=
    List.append_ne_nil_of_right_ne_nil _ assigned.nonempty
  rw [← List.append_assoc, ← List.append_assoc] at found ⊢
  refine ⟨(word ++ separator ++ value).getLast?.or before,
    passesBlanks_assignmentFinder.blankFirst_replacedFrom assigned.follows, ?_⟩
  rw [redactAssignmentsFrom, Text.replacedFrom_append nonempty found rfl, ← toList_secretMark,
    List.append_assoc word]
  rfl

/-- What is assigned in the outcome is the mark. -/
theorem value_eq_secretMark {start : List Char}
    (split : redactAssignmentsFrom before cs =
      start ++ (word ++ (separator ++ (value ++ after))))
    (assigned : IsAssigned (start.getLast?.or before) word separator value after) :
    value = secretMark.toList := by
  induction size : cs.length using Nat.strong_induction_on generalizing before cs start with
  | _ length ih =>
      have begins := afterSecretWord?_append_of_mem assigned.secret
        (separator ++ (value ++ after))
      cases here : assignmentFinder before cs with
      | none =>
          cases start with
          | nil => exact absurd assigned (not_isAssigned_of_none here split)
          | cons d start =>
              cases cs with
              | nil => cases split
              | cons c rest =>
                  rw [redactAssignmentsFrom, Text.replacedFrom_of_none here, List.cons_append,
                    List.cons.injEq] at split
                  obtain ⟨rfl, split⟩ := split
                  rw [Text.getLast?_cons_or] at assigned
                  refine ih rest.length ?_ split assigned rfl
                  rw [← size]
                  exact Nat.lt_succ_self _
      | some found =>
          obtain ⟨word', separator', value', after', rfl, first, -⟩ := exists_isAssigned here
          obtain ⟨last, follows, outcome⟩ := first.redactAssignmentsFrom_eq
          rw [outcome] at split
          rcases List.append_eq_append_iff.mp split with
            ⟨more, rfl, beyond⟩ | ⟨more, within, rest_eq⟩
          · -- The assignment begins after the mark, and not right after it.
            cases more with
            | nil =>
                rw [List.nil_append] at beyond
                rw [← beyond, afterSecretWord?_of_blankFirst follows] at begins
                cases begins
            | cons d more =>
                have shorter : after'.length < length := by
                  have some := List.length_pos_iff.mpr first.nonempty
                  simp only [List.length_append] at size
                  omega
                refine ih after'.length shorter beyond ?_ rfl
                rw [List.getLast?_append, List.getLast?_cons, Option.some_or,
                  Option.some_or] at assigned
                rwa [List.getLast?_cons, Option.some_or]
          · cases start with
            | nil =>
                rw [List.append_assoc, List.append_assoc, List.nil_append] at split
                exact (assigned.value_eq (first.marked follows) split.symm)
            | cons d start =>
                rw [rest_eq, afterSecretWord?_append follows,
                  afterSecretWord?_within_marked first.secret first.separates within
                    (List.cons_ne_nil d start) assigned.starts] at begins
                cases begins

end Outcome

/-! ## The whole -/

/-- A text that holds no token of a bot, no key and no bearer credential, and whose assigned
secrets are all marks. -/
structure IsClean (cs : List Char) : Prop where
  noBotToken : FreeOf IsBotToken cs
  noServiceSecret : FreeOf IsServiceSecret cs
  marked : ∀ start word separator value after,
    cs = start ++ (word ++ (separator ++ (value ++ after))) →
    IsAssigned start.getLast? word separator value after → value = secretMark.toList

theorem redactBotTokens_eq (cs : List Char) :
    redactBotTokens cs =
      Text.replaceFound botTokenFinder (fun _ => bracketed "REDACTED_TOKEN".toList) cs := by
  rw [redactBotTokens, toList_tokenMark]

theorem redactServiceKeys_eq (cs : List Char) :
    redactServiceKeys cs =
      Text.replaceFound serviceKeyFinder (fun _ => bracketed "REDACTED_TOKEN".toList) cs := by
  rw [redactServiceKeys, toList_tokenMark]

theorem freeOf_redactServiceKeys {pattern : List Char → Prop} (free : FreeOf pattern cs)
    (unforgeable : Text.Unforgeable "REDACTED_TOKEN".toList pattern) :
    FreeOf pattern (redactServiceKeys cs) := by
  rw [redactServiceKeys_eq]
  exact unforgeable.freeOf_replaceFound (Text.keepsStart_nil serviceKeyFinder) free

theorem freeOf_redactAssignments {pattern : List Char → Prop} (free : FreeOf pattern cs)
    (unforgeable : Text.Unforgeable "REDACTED".toList pattern) :
    FreeOf pattern (redactAssignments cs) :=
  unforgeable.freeOf_replaceFound keepsStart_assignmentFinder free

/-- The passes, one after the other, leave a clean text. -/
theorem isClean_passes (cs : List Char) :
    IsClean (redactAssignments (redactServiceKeys (redactBotTokens cs))) where
  noBotToken := by
    refine freeOf_redactAssignments (freeOf_redactServiceKeys ?_
      (unforgeable_isBotToken (by decide))) (unforgeable_isBotToken (by decide))
    rw [redactBotTokens_eq]
    exact seeks_botTokenFinder.freeOf_replaceFound (unforgeable_isBotToken (by decide)) cs
  noServiceSecret := by
    refine freeOf_redactAssignments ?_ (unforgeable_isServiceSecret (by decide) (by decide))
    rw [redactServiceKeys_eq]
    exact seeks_serviceKeyFinder.freeOf_replaceFound
      (unforgeable_isServiceSecret (by decide) (by decide)) _
  marked start word separator value after split assigned := by
    rw [redactAssignments_eq] at split
    exact value_eq_secretMark split (by rwa [Option.or_none])

/-- In a clean text there is nothing to redact. -/
theorem IsClean.passes_eq_self (clean : IsClean cs) :
    redactAssignments (redactServiceKeys (redactBotTokens cs)) = cs := by
  rw [redactBotTokens, seeks_botTokenFinder.replaceFound_eq_self clean.noBotToken,
    redactServiceKeys, seeks_serviceKeyFinder.replaceFound_eq_self clean.noServiceSecret,
    redactAssignments]
  refine Text.replaceFound_eq_self_of_same ?_
  intro start rest found split here
  obtain ⟨word, separator, value, after, rfl, assigned, rfl⟩ := exists_isAssigned here
  have marked := clean.marked start word separator value after split.symm assigned
  refine ⟨word ++ separator ++ value, after, by simp only [List.append_assoc],
    List.append_ne_nil_of_right_ne_nil _ assigned.nonempty, rfl, ?_⟩
  rw [marked]

theorem IsClean.redact_eq_self {text : String} (clean : IsClean text.toList) :
    redact text = text := by
  rw [redact, clean.passes_eq_self, String.ofList_toList]

theorem isClean_toList_redact (text : String) : IsClean (redact text).toList := by
  rw [redact, String.toList_ofList]
  exact isClean_passes text.toList

/-- What redaction leaves holds no token of a bot, no key and no bearer credential, every
secret that is assigned in it is the mark, and redacting it again changes nothing. Nothing is
changed exactly in texts that are like this already. -/
theorem isClean_redact (text : String) :
    IsClean (redact text).toList ∧ redact (redact text) = redact text ∧
      (redact text = text ↔ IsClean text.toList) := by
  have clean := isClean_toList_redact text
  refine ⟨clean, clean.redact_eq_self, ?_, IsClean.redact_eq_self⟩
  intro same
  rwa [same] at clean

/-! ## Words -/

theorem IsServiceSecret.exists_not_word (secret : IsServiceSecret cs) :
    ∃ c ∈ cs, isWord c = false := by
  rcases secret with ⟨run, rfl, -⟩ | ⟨gap, run, padding, rfl, gapped, blanks, -⟩
  · exact ⟨'-', List.mem_append_left run (by decide), by decide +kernel⟩
  · obtain ⟨c, member⟩ := List.exists_mem_of_ne_nil gap gapped
    refine ⟨c, ?_, Text.isWord_eq_false_of_isBlank (blanks c member)⟩
    exact List.mem_append_right _ (List.mem_append_left _ member)

/-- Word characters alone do not make anything that is redacted. -/
theorem isClean_of_isWord (word : ∀ c ∈ cs, isWord c = true) : IsClean cs := by
  have absent : ∀ {c}, isWord c = false → c ∉ cs := by
    intro c other member
    rw [word c member] at other
    cases other
  constructor
  · intro part inside token
    exact absent (c := '.') (by decide +kernel) (inside.subset token.point_mem)
  · intro part inside secret
    obtain ⟨c, member, other⟩ := secret.exists_not_word
    exact absent other (inside.subset member)
  · rintro start spelled separator value after rfl assigned
    obtain ⟨lead, mark, trail, rfl, -⟩ := assigned.separates
    have member : mark ∈ lead ++ mark :: trail := List.mem_append_right _ List.mem_cons_self
    refine absurd ?_ (absent (isWord_eq_false_of_mem_separator assigned.separates member))
    exact List.mem_append_right _ (List.mem_append_right _ (List.mem_append_left _ member))

end ChatCommands.Redaction
