/-
# What the passes of redaction look for

The tokens of bots and the keys and credentials of services, told by what they consist of
and not by how they are found. A finder finds something exactly where something of its
pattern begins: what it takes is greedy, but whether there is anything to take does not
depend on that, because the parts of a pattern end where a character of another class
stands.
-/

import ChatCommands.Proofs.Redaction.Finders
import ChatCommands.Proofs.Text.Marked

namespace ChatCommands.Redaction

open Text (AllBlank Found Seeks Unforgeable isBlank)

variable {cs part : List Char}

/-! ## Tokens of bots -/

/-- A run of token characters of a length between two bounds. -/
structure IsTokenRun (least most : Nat) (cs : List Char) : Prop where
  tokenChars : ∀ c ∈ cs, isTokenChar c = true
  least_le : least ≤ cs.length
  le_most : cs.length ≤ most

/-- A token of a bot: three runs of token characters with points between them. -/
def IsBotToken (cs : List Char) : Prop :=
  ∃ first second third, cs = first ++ '.' :: (second ++ '.' :: third) ∧
    IsTokenRun 24 28 first ∧ IsTokenRun 6 6 second ∧ IsTokenRun 27 38 third

theorem take_tokenRun (limit : Nat) (cs : List Char) :
    cs.take (tokenRun limit cs) = (cs.take limit).takeWhile isTokenChar :=
  (List.prefix_iff_eq_take.mp
    ((List.takeWhile_prefix isTokenChar).trans (List.take_prefix limit cs))).symm

/-- What is taken as a run is a run. -/
theorem isTokenRun_take {least limit : Nat} (enough : least ≤ tokenRun limit cs) :
    IsTokenRun least limit (cs.take (tokenRun limit cs)) where
  tokenChars c member := by
    rw [take_tokenRun] at member
    exact List.mem_takeWhile_imp member
  least_le := by
    rw [List.length_take_of_le (tokenRun_le limit cs)]
    exact enough
  le_most := by
    rw [take_tokenRun]
    exact (List.takeWhile_prefix isTokenChar).length_le.trans (List.length_take_le limit cs)

/-- A run that ends at another character is taken as a whole. -/
theorem tokenRun_append_cons {least limit : Nat} {run : List Char}
    (isRun : IsTokenRun least limit run) {c : Char} (stop : isTokenChar c = false)
    (rest : List Char) : tokenRun limit (run ++ c :: rest) = run.length := by
  rw [tokenRun, List.take_append, List.take_of_length_le isRun.le_most,
    List.takeWhile_append_of_pos isRun.tokenChars]
  cases limit - run.length with
  | zero => rw [List.take_zero, List.takeWhile_nil, List.append_nil]
  | succ more =>
      rw [List.take_succ_cons, List.takeWhile_cons_of_neg (by rw [stop]; exact Bool.false_ne_true),
        List.append_nil]

/-- At least the run itself is taken of a text that begins with it. -/
theorem length_le_tokenRun_append {least limit : Nat} {run : List Char}
    (isRun : IsTokenRun least limit run) (rest : List Char) :
    run.length ≤ tokenRun limit (run ++ rest) := by
  rw [tokenRun, List.take_append, List.take_of_length_le isRun.le_most,
    List.takeWhile_append_of_pos isRun.tokenChars, List.length_append]
  exact Nat.le_add_right _ _

theorem isTokenChar_point : isTokenChar '.' = false := by decide +kernel

theorem exists_isBotToken {before : Option Char} {found : Found Unit}
    (here : botTokenFinder before cs = some found) : ∃ part, part <+: cs ∧ IsBotToken part := by
  unfold botTokenFinder at here
  dsimp only at here
  split at here
  · cases here
  next enoughFirst =>
  cases point : afterPoint? (tokenRun 28 cs) cs with
  | none => simp only [point, reduceCtorEq] at here
  | some middle =>
      simp only [point] at here
      split at here
      · cases here
      next enoughSecond =>
      cases secondPoint : afterPoint? 6 middle with
      | none => simp only [secondPoint, reduceCtorEq] at here
      | some last =>
          simp only [secondPoint] at here
          split at here
          · cases here
          next enoughThird =>
          have first := isTokenRun_take (Nat.le_of_not_lt enoughFirst)
          have second := isTokenRun_take (Nat.le_of_not_lt enoughSecond)
          have third := isTokenRun_take (Nat.le_of_not_lt enoughThird)
          have sixth : tokenRun 6 middle = 6 := by
            have most := second.le_most
            rw [List.length_take_of_le (tokenRun_le 6 middle)] at most
            omega
          rw [sixth] at second
          refine ⟨_, ?_, _, _, _, rfl, first, second, third⟩
          refine ⟨last.drop (tokenRun 38 last), ?_⟩
          rw [List.append_assoc, List.cons_append, List.append_assoc, List.cons_append,
            List.take_append_drop, ← afterPoint?_eq_some_iff.mp secondPoint,
            List.take_append_drop, ← afterPoint?_eq_some_iff.mp point, List.take_append_drop]

theorem botTokenFinder_ne_none (token : IsBotToken part) (begins : part <+: cs)
    (before : Option Char) : botTokenFinder before cs ≠ none := by
  obtain ⟨rest, rfl⟩ := begins
  obtain ⟨first, second, third, rfl, isFirst, isSecond, isThird⟩ := token
  have six : second.length = 6 := Nat.le_antisymm isSecond.le_most isSecond.least_le
  have firstRun := tokenRun_append_cons isFirst isTokenChar_point
    (second ++ '.' :: (third ++ rest))
  have secondRun := tokenRun_append_cons isSecond isTokenChar_point (third ++ rest)
  have thirdRun := isThird.least_le.trans (length_le_tokenRun_append isThird rest)
  have point : afterPoint? first.length (first ++ '.' :: (second ++ '.' :: (third ++ rest))) =
      some (second ++ '.' :: (third ++ rest)) :=
    afterPoint?_eq_some_iff.mpr List.drop_left
  have secondPoint : afterPoint? 6 (second ++ '.' :: (third ++ rest)) = some (third ++ rest) := by
    rw [afterPoint?_eq_some_iff, ← six, List.drop_left]
  rw [six] at secondRun
  rw [List.append_assoc, List.cons_append, List.append_assoc, List.cons_append]
  unfold botTokenFinder
  simp only [firstRun, if_neg (Nat.not_lt.mpr isFirst.least_le), point, secondRun,
    Nat.lt_irrefl, if_false, secondPoint, if_neg (Nat.not_lt.mpr thirdRun)]
  exact Option.some_ne_none _

theorem seeks_botTokenFinder : Seeks botTokenFinder IsBotToken := by
  intro before cs
  constructor
  · intro nothing part begins token
    exact botTokenFinder_ne_none token begins before nothing
  · intro none
    rw [Option.eq_none_iff_forall_ne_some]
    intro found here
    obtain ⟨part, begins, token⟩ := exists_isBotToken here
    exact none part begins token

theorem IsTokenRun.not_mem {least most : Nat} (isRun : IsTokenRun least most cs) {c : Char}
    (other : isTokenChar c = false) : c ∉ cs := by
  intro member
  rw [isRun.tokenChars c member] at other
  cases other

theorem IsBotToken.not_mem (token : IsBotToken cs) {c : Char} (other : isTokenChar c = false)
    (noPoint : c ≠ '.') : c ∉ cs := by
  obtain ⟨first, second, third, rfl, isFirst, isSecond, isThird⟩ := token
  simp only [List.mem_append, List.mem_cons, not_or]
  exact ⟨isFirst.not_mem other, noPoint, isSecond.not_mem other, noPoint, isThird.not_mem other⟩

theorem IsBotToken.point_mem (token : IsBotToken cs) : '.' ∈ cs := by
  obtain ⟨first, second, third, rfl, -⟩ := token
  exact List.mem_append_right first List.mem_cons_self

/-- A mark without a point neither holds a token of a bot nor takes part in one. -/
theorem unforgeable_isBotToken {inner : List Char} (pointless : '.' ∉ inner) :
    Unforgeable inner IsBotToken where
  unopened _ token := token.not_mem (by decide +kernel) (by decide)
  unclosed _ token := token.not_mem (by decide +kernel) (by decide)
  outside _ token within := pointless (within.subset token.point_mem)

/-! ## Keys of services -/

/-- A key of a service: its mark, and at least 32 basic letters and digits. -/
def IsServiceKey (cs : List Char) : Prop :=
  ∃ run, cs = "sk-".toList ++ run ∧ (∀ c ∈ run, isKeyChar c = true) ∧ 32 ≤ run.length

/-- A bearer credential: its word, blanks, the credential and any number of equals signs. -/
def IsBearerCredential (cs : List Char) : Prop :=
  ∃ gap run padding, cs = "Bearer".toList ++ (gap ++ (run ++ padding)) ∧
    gap ≠ [] ∧ AllBlank gap ∧ run ≠ [] ∧ (∀ c ∈ run, isCredentialChar c = true) ∧
    ∀ c ∈ padding, c = '='

/-- A key or a bearer credential. -/
def IsServiceSecret (cs : List Char) : Prop := IsServiceKey cs ∨ IsBearerCredential cs

theorem exists_isServiceKey {length : Nat} (here : serviceKeyLength? cs = some length) :
    ∃ part, part <+: cs ∧ IsServiceKey part := by
  rw [serviceKeyLength?_eq, Option.bind_eq_some_iff] at here
  obtain ⟨rest, found, enough⟩ := here
  obtain rfl := Text.after?_eq_some_iff.mp found
  split at enough
  · cases enough
  next atLeast =>
  exact ⟨_, (List.prefix_append_right_inj _).mpr (List.takeWhile_prefix isKeyChar), _, rfl,
    fun _ member => List.mem_takeWhile_imp member, Nat.le_of_not_lt atLeast⟩

theorem serviceKeyLength?_ne_none (key : IsServiceKey part) (begins : part <+: cs) :
    serviceKeyLength? cs ≠ none := by
  obtain ⟨rest, rfl⟩ := begins
  obtain ⟨run, rfl, keyChars, enough⟩ := key
  have least : 32 ≤ ((run ++ rest).takeWhile isKeyChar).length := by
    rw [List.takeWhile_append_of_pos keyChars, List.length_append]
    exact enough.trans (Nat.le_add_right _ _)
  rw [serviceKeyLength?_eq, List.append_assoc, Text.after?_eq_some_iff.mpr rfl, Option.bind_some,
    if_neg (Nat.not_lt.mpr least)]
  exact Option.some_ne_none _

theorem exists_isBearerCredential {length : Nat} (here : bearerLength? cs = some length) :
    ∃ part, part <+: cs ∧ IsBearerCredential part := by
  rw [bearerLength?_eq, Option.bind_eq_some_iff] at here
  obtain ⟨rest, found, enough⟩ := here
  obtain rfl := Text.after?_eq_some_iff.mp found
  dsimp only at enough
  split at enough
  · cases enough
  next enoughOfBoth =>
  rw [not_or] at enoughOfBoth
  refine ⟨"Bearer".toList ++ (rest.takeWhile isBlank ++
      ((rest.dropWhile isBlank).takeWhile isCredentialChar ++ [])),
    (List.prefix_append_right_inj _).mpr ?_, _, _, _, rfl,
    fun nothing => enoughOfBoth.1 (congrArg List.length nothing),
    fun _ member => List.mem_takeWhile_imp member,
    fun nothing => enoughOfBoth.2 (congrArg List.length nothing),
    fun _ member => List.mem_takeWhile_imp member,
    fun _ member => absurd member List.not_mem_nil⟩
  calc rest.takeWhile isBlank ++ ((rest.dropWhile isBlank).takeWhile isCredentialChar ++ [])
      <+: rest.takeWhile isBlank ++ rest.dropWhile isBlank := by
        rw [List.append_nil, List.prefix_append_right_inj]
        exact List.takeWhile_prefix isCredentialChar
    _ = rest := List.takeWhile_append_dropWhile

theorem isBlank_eq_false_of_isCredentialChar {c : Char} (credential : isCredentialChar c = true) :
    isBlank c = false := by
  cases blank : isBlank c with
  | false => rfl
  | true =>
      rw [isCredentialChar_eq_false_of_isBlank c blank] at credential
      cases credential

theorem bearerLength?_ne_none (credential : IsBearerCredential part) (begins : part <+: cs) :
    bearerLength? cs ≠ none := by
  obtain ⟨rest, rfl⟩ := begins
  obtain ⟨gap, run, padding, rfl, gapped, blanks, nonempty, credentialChars, -⟩ := credential
  cases run with
  | nil => exact absurd rfl nonempty
  | cons c run =>
      have first : isCredentialChar c = true := credentialChars c List.mem_cons_self
      have solid : ¬isBlank c = true := by
        rw [isBlank_eq_false_of_isCredentialChar first]
        exact Bool.false_ne_true
      have gap_eq : (gap ++ c :: (run ++ padding ++ rest)).takeWhile isBlank = gap := by
        rw [List.takeWhile_append_of_pos blanks, List.takeWhile_cons_of_neg solid, List.append_nil]
      have after_eq : (gap ++ c :: (run ++ padding ++ rest)).dropWhile isBlank =
          c :: (run ++ padding ++ rest) := by
        rw [List.dropWhile_append_of_pos blanks, List.dropWhile_cons_of_neg solid]
      have someGap : gap.length ≠ 0 := fun none => gapped (List.eq_nil_of_length_eq_zero none)
      rw [bearerLength?_eq, List.append_assoc, List.append_assoc, List.cons_append,
        List.cons_append, Text.after?_eq_some_iff.mpr rfl, Option.bind_some]
      simp only [gap_eq, after_eq, List.takeWhile_cons_of_pos first, List.length_cons, someGap,
        Nat.add_one_ne_zero, or_self, if_false]
      exact Option.some_ne_none _

theorem seeks_serviceKeyFinder : Seeks serviceKeyFinder IsServiceSecret := by
  intro before cs
  have split : serviceKeyFinder before cs = none ↔
      serviceKeyLength? cs = none ∧ bearerLength? cs = none := by
    rw [serviceKeyFinder]
    cases serviceKeyLength? cs with
    | some length => simp
    | none => simp
  rw [split]
  constructor
  · rintro ⟨noKey, noCredential⟩ part begins (key | credential)
    · exact serviceKeyLength?_ne_none key begins noKey
    · exact bearerLength?_ne_none credential begins noCredential
  · intro none
    rw [Option.eq_none_iff_forall_ne_some, Option.eq_none_iff_forall_ne_some]
    constructor
    · intro length here
      obtain ⟨part, begins, key⟩ := exists_isServiceKey here
      exact none part begins (.inl key)
    · intro length here
      obtain ⟨part, begins, credential⟩ := exists_isBearerCredential here
      exact none part begins (.inr credential)

theorem isCredentialChar_of_isKeyChar {c : Char} (key : isKeyChar c = true) :
    isCredentialChar c = true := by
  rw [isKeyChar] at key
  rw [isCredentialChar, key, Bool.true_or]

/-- Keys and bearer credentials consist of few characters. -/
theorem IsServiceSecret.chars (secret : IsServiceSecret cs) {c : Char} (member : c ∈ cs) :
    isCredentialChar c = true ∨ isBlank c = true ∨ c = '=' := by
  have marks : ∀ c ∈ "sk-".toList ++ "Bearer".toList, isCredentialChar c = true :=
    List.all_eq_true.mp (by decide)
  rcases secret with ⟨run, rfl, keyChars, -⟩ | ⟨gap, run, padding, rfl, -, blanks, -,
    credentialChars, equals⟩
  · rcases List.mem_append.mp member with inMark | inRun
    · exact .inl (marks c (List.mem_append_left _ inMark))
    · exact .inl (isCredentialChar_of_isKeyChar (keyChars c inRun))
  · simp only [List.mem_append] at member
    rcases member with inWord | inGap | inRun | inPadding
    · exact .inl (marks c (List.mem_append_right _ inWord))
    · exact .inr (.inl (blanks c inGap))
    · exact .inl (credentialChars c inRun)
    · exact .inr (.inr (equals c inPadding))

theorem IsServiceSecret.not_mem (secret : IsServiceSecret cs) {c : Char}
    (notCredential : isCredentialChar c = false) (solid : isBlank c = false)
    (notEquals : c ≠ '=') : c ∉ cs := by
  intro member
  rcases secret.chars member with credential | blank | equals
  · exact Bool.false_ne_true (notCredential.symm.trans credential)
  · exact Bool.false_ne_true (solid.symm.trans blank)
  · exact notEquals equals

theorem IsServiceSecret.hyphen_or_letter_mem (secret : IsServiceSecret cs) :
    '-' ∈ cs ∨ 'B' ∈ cs := by
  rcases secret with ⟨run, rfl, -⟩ | ⟨gap, run, padding, rfl, -⟩
  · exact .inl (List.mem_append_left run (by decide))
  · exact .inr (List.mem_append_left _ (by decide))

/-- A mark without a hyphen and a capital B neither holds a key or credential nor takes part
in one. -/
theorem unforgeable_isServiceSecret {inner : List Char} (hyphenless : '-' ∉ inner)
    (letterless : 'B' ∉ inner) : Unforgeable inner IsServiceSecret where
  unopened _ secret := secret.not_mem (by decide) (by decide +kernel) (by decide)
  unclosed _ secret := secret.not_mem (by decide) (by decide +kernel) (by decide)
  outside _ secret within := secret.hyphen_or_letter_mem.elim
    (fun hyphen => hyphenless (within.subset hyphen))
    (fun letter => letterless (within.subset letter))

end ChatCommands.Redaction
