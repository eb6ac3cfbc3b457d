/-
# Redaction does not tell secrets apart

A number that is assigned to a secret word is blotted out, and what is left does not
depend on it, whatever the message says before and after. The one exception is a message
that ends, before the word, where another secret is already awaited. There the word itself
can be taken for that secret, and the number stays: the word `Bearer` takes the next word
for its credential, and a secret word with a separator takes it for its value.

Main statement: `redact_assignment_eq`, for all messages but these.
-/

import ChatCommands.Proofs.Redaction.Assignment
import ChatCommands.Proofs.Redaction.Finders

namespace ChatCommands.Redaction

open Text (AllBlank BlankFirst BlankLast Finder Settled isBlank)

/-! ## What earlier passes leave behind -/

/-- A text that ends where a secret is to come: a bearer credential or an assigned value. -/
def AwaitsSecret (cs : List Char) : Prop := AwaitsCredential cs ∨ AwaitsValue cs

instance (cs : List Char) : Decidable (AwaitsSecret cs) := inferInstanceAs (Decidable (_ ∨ _))

section Passes

variable {find : Finder Unit} {cs : List Char}

theorem of_suffix_blotted {ending : List Char} (absent : ']' ∉ ending)
    (suffix : ending <:+ Text.replaceFound find (fun _ => tokenMark.toList) cs) :
    ending <:+ cs :=
  Text.suffix_of_suffix_replaceFound (fun _ => by rfl) absent suffix

/-- A mark in place of a token does not look like a bearer credential to come. -/
theorem AwaitsCredential.of_replaceFound
    (awaits : AwaitsCredential (Text.replaceFound find (fun _ => tokenMark.toList) cs)) :
    AwaitsCredential cs := by
  obtain ⟨gap, blanks, ends⟩ := awaits
  refine ⟨gap, blanks, of_suffix_blotted ?_ ends⟩
  rw [List.mem_append, not_or]
  exact ⟨by decide, blanks.not_mem (by decide +kernel)⟩

/-- Nor does it look like an assigned value to come. -/
theorem AwaitsValue.of_replaceFound
    (awaits : AwaitsValue (Text.replaceFound find (fun _ => tokenMark.toList) cs)) :
    AwaitsValue cs := by
  obtain ⟨spelled, separator, secret, separates, ends⟩ := awaits
  refine ⟨spelled, separator, secret, separates, of_suffix_blotted ?_ ends⟩
  rw [List.mem_append, not_or]
  constructor
  · intro member
    have table : ∀ word ∈ secretWords, foldCase ']' ∉ word := by decide
    exact table _ secret (List.mem_map_of_mem member)
  · exact separates.not_mem (by decide +kernel) (by decide)

end Passes

/-! ## The three passes -/

/-- A number, written with basic digits. -/
structure IsDigits (cs : List Char) : Prop where
  nonempty : cs ≠ []
  digits : ∀ c ∈ cs, c.isDigit = true

instance (cs : List Char) : Decidable (IsDigits cs) :=
  decidable_of_iff (cs ≠ [] ∧ cs.all Char.isDigit = true) <| by
    rw [List.all_eq_true]
    exact ⟨fun both => ⟨both.1, both.2⟩, fun isDigits => ⟨isDigits.nonempty, isDigits.digits⟩⟩

theorem IsDigits.solid {cs : List Char} (isDigits : IsDigits cs) :
    ∀ c ∈ cs, isBlank c = false := by
  intro c member
  cases blank : isBlank c with
  | false => rfl
  | true =>
      have other : c.isDigit = false := by
        refine @Text.of_isBlank (fun c => c.isDigit = false) ?_ c blank
        decide +kernel
      rw [isDigits.digits c member] at other
      cases other

/-- A character that no assignment of a number holds. -/
structure IsForeign (c : Char) : Prop where
  unspelled : ∀ word ∈ secretWords, foldCase c ∉ word
  solid : isBlank c = false
  notMark : ¬(c = '=' ∨ c = ':')
  notDigit : c.isDigit = false

instance (c : Char) : Decidable (IsForeign c) :=
  decidable_of_iff ((∀ word ∈ secretWords, foldCase c ∉ word) ∧ isBlank c = false ∧
      ¬(c = '=' ∨ c = ':') ∧ c.isDigit = false)
    ⟨fun ⟨unspelled, solid, notMark, notDigit⟩ => ⟨unspelled, solid, notMark, notDigit⟩,
      fun ⟨unspelled, solid, notMark, notDigit⟩ => ⟨unspelled, solid, notMark, notDigit⟩⟩

section Around

variable {before word separator value after : List Char}
variable (secret : word.map foldCase ∈ secretWords) (separates : IsSeparator separator)
  (isDigits : IsDigits value)
include secret separates isDigits

theorem not_mem_assignment {c : Char} (foreign : IsForeign c) :
    c ∉ word ++ separator ++ value := by
  rw [List.mem_append, List.mem_append]
  rintro ((inWord | inSeparator) | inValue)
  · exact foreign.unspelled _ secret (List.mem_map_of_mem inWord)
  · exact separates.not_mem foreign.solid foreign.notMark inSeparator
  · exact Bool.false_ne_true (foreign.notDigit.symm.trans (isDigits.digits c inValue))

theorem redactBotTokens_around (last : BlankLast before) (follows : BlankFirst after) :
    BlankLast (redactBotTokens before) ∧
      redactBotTokens (before ++ (word ++ separator ++ value ++ after)) =
        redactBotTokens before ++ (word ++ separator ++ value ++ redactBotTokens after) := by
  have point : '.' ∉ word ++ separator ++ value :=
    not_mem_assignment secret separates isDigits (by decide +kernel)
  refine passesBlanks_botTokenFinder.replaceFound_around (fun _ _ => rfl) last
    (fun init c tail _ blank => settled_botTokenFinder (Text.blankFirst_cons blank) init)
    (settled_botTokenFinder follows _) ?_
  intro start part suffix
  rw [Option.eq_none_iff_forall_ne_some]
  intro found here
  exact point (suffix.subset (of_botTokenFinder here).1)

theorem redactServiceKeys_around (last : BlankLast before) (follows : BlankFirst after)
    (settled : ¬AwaitsCredential before) :
    BlankLast (redactServiceKeys before) ∧
      redactServiceKeys (before ++ (word ++ separator ++ value ++ after)) =
        redactServiceKeys before ++ (word ++ separator ++ value ++ redactServiceKeys after) := by
  have hyphen : '-' ∉ word ++ separator ++ value :=
    not_mem_assignment secret separates isDigits (by decide +kernel)
  have letter : 'B' ∉ word ++ separator ++ value :=
    not_mem_assignment secret separates isDigits (by decide +kernel)
  have settledBefore : ∀ init c tail, before = init ++ [c] → isBlank c = true →
      Settled serviceKeyFinder init (c :: tail) := by
    rintro init c tail rfl blank
    exact settled_serviceKeyFinder (Text.blankFirst_cons blank)
      fun awaits => settled (awaits.append_blank blank)
  refine passesBlanks_serviceKeyFinder.replaceFound_around (fun _ _ => rfl) last settledBefore
    (settled_serviceKeyFinder follows fun awaits => letter awaits.mem) ?_
  intro start part suffix
  rw [Option.eq_none_iff_forall_ne_some]
  intro found here
  rcases (of_serviceKeyFinder here).1 with inPart | inPart
  · exact hyphen (suffix.subset inPart)
  · exact letter (suffix.subset inPart)

theorem redactAssignments_around (last : BlankLast before) (follows : BlankFirst after)
    (settled : ¬AwaitsValue before) :
    redactAssignments (before ++ (word ++ separator ++ value ++ after)) =
      redactAssignments before ++
        (word ++ separator ++ secretMark.toList ++ redactAssignments after) := by
  have found : ∀ start, isWordStart start = true →
      assignmentFinder start (word ++ separator ++ value ++ after) =
        some ⟨word ++ separator, (word ++ separator ++ value).length⟩ := fun start starts =>
    assignmentFinder_append_of_isSeparator starts secret separates isDigits.nonempty
      isDigits.solid follows
  have settledBefore : ∀ init c, before = init ++ [c] → isBlank c = true →
      Settled assignmentFinder init [c] ∧
        Settled assignmentFinder init (c :: (word ++ separator ++ value ++ after)) := by
    rintro init c rfl blank
    have complete : ¬AwaitsValue init := fun awaits => settled (awaits.append_blank blank)
    refine ⟨settled_assignmentFinder (Text.blankFirst_cons blank) ?_ complete,
      settled_assignmentFinder (Text.blankFirst_cons blank) ?_ complete⟩
    · rw [afterSeparator?_cons_of_isBlank blank]
      rfl
    · rw [afterSeparator?_cons_of_isBlank blank]
      simp only [List.append_assoc]
      exact afterSeparator?_eq_none_of_mem secret _
  obtain ⟨-, apart⟩ := passesBlanks_assignmentFinder.replaceFound_append
    (word ++ separator ++ value ++ after) last settledBefore
    (fun c blank => (found (some c) (isWordStart_of_isBlank blank)).trans (found none rfl).symm)
  rw [redactAssignments, apart]
  refine congrArg _ (Text.replaceFound_append_of_found ?_ (found none rfl) rfl ?_)
  · intro nothing
    exact isDigits.nonempty (List.append_eq_nil_iff.mp nothing).2
  · rw [passesBlanks_assignmentFinder _ after follows,
      passesBlanks_assignmentFinder _ after follows]

end Around

/-! ## The whole -/

theorem toList_redact (text : String) :
    (redact text).toList =
      redactAssignments (redactServiceKeys (redactBotTokens text.toList)) :=
  String.toList_ofList

section Whole

variable {before word separator after : String}
  (last : BlankLast before.toList) (secret : word.toList.map foldCase ∈ secretWords)
  (separates : IsSeparator separator.toList) (follows : BlankFirst after.toList)
  (settled : ¬AwaitsSecret before.toList)
include last secret separates follows settled

/-- A number assigned to a secret word gives way to a mark. What stands before and after
the assignment is redacted as if it stood alone. -/
theorem redact_append_assignment {value : String} (isDigits : IsDigits value.toList) :
    redact (before ++ word ++ separator ++ value ++ after) =
      redact before ++ word ++ separator ++ secretMark ++ redact after := by
  obtain ⟨ends, bots⟩ := redactBotTokens_around secret separates isDigits last follows
  have noCredential : ¬AwaitsCredential (redactBotTokens before.toList) :=
    fun awaits => settled (.inl awaits.of_replaceFound)
  have botFollows : BlankFirst (redactBotTokens after.toList) :=
    passesBlanks_botTokenFinder.blankFirst_replaceFound follows
  obtain ⟨ends, keys⟩ :=
    redactServiceKeys_around secret separates isDigits ends botFollows noCredential
  have noValue : ¬AwaitsValue (redactServiceKeys (redactBotTokens before.toList)) :=
    fun awaits => settled (.inr awaits.of_replaceFound.of_replaceFound)
  have keyFollows : BlankFirst (redactServiceKeys (redactBotTokens after.toList)) :=
    passesBlanks_serviceKeyFinder.blankFirst_replaceFound botFollows
  have assignments :=
    redactAssignments_around secret separates isDigits ends keyFollows noValue
  rw [← String.toList_inj]
  simp only [String.toList_append, toList_redact, List.append_assoc] at bots keys assignments ⊢
  rw [bots, keys, assignments]

/-- Redaction does not tell two numbers apart that are assigned to a secret word, unless
another secret is awaited where the word begins. It keeps the word and the separator. -/
theorem redact_assignment_eq {first second : String} (isFirst : IsDigits first.toList)
    (isSecond : IsDigits second.toList) :
    redact (before ++ word ++ separator ++ first ++ after) =
        redact (before ++ word ++ separator ++ second ++ after) ∧
      redact (before ++ word ++ separator ++ first ++ after) =
        redact before ++ word ++ separator ++ secretMark ++ redact after := by
  have one := redact_append_assignment last secret separates follows settled isFirst
  have two := redact_append_assignment last secret separates follows settled isSecond
  exact ⟨one.trans two.symm, one⟩

end Whole

theorem isSeparator_equals : IsSeparator "=".toList :=
  ⟨[], '=', [], rfl, by decide, .inl rfl, by decide⟩

/-- A credential before the assignment does no harm if it is complete. -/
theorem redact_assignment_eq_after_credential :
    ¬AwaitsSecret "use Bearer abc or ".toList ∧
      redact ("use Bearer abc or " ++ "password" ++ "=" ++ "1" ++ " now") =
        redact ("use Bearer abc or " ++ "password" ++ "=" ++ "22" ++ " now") ∧
      redact ("use Bearer abc or " ++ "password" ++ "=" ++ "1" ++ " now") =
        redact "use Bearer abc or " ++ "password" ++ "=" ++ secretMark ++ redact " now" := by
  have settled : ¬AwaitsSecret "use Bearer abc or ".toList := by decide +kernel
  exact ⟨settled, redact_assignment_eq (by decide +kernel) (by decide +kernel) isSeparator_equals
    (by decide +kernel) settled (by decide) (by decide)⟩

/-- Without the condition on what stands before, the number can be told: the word `Bearer`
takes the secret word and its equals sign for a credential, and leaves the number. -/
theorem not_forall_redact_assignment_eq :
    ¬∀ before word separator after first second : String, BlankLast before.toList →
      word.toList ∈ secretWords → IsSeparator separator.toList → BlankFirst after.toList →
      IsDigits first.toList → IsDigits second.toList →
      redact (before ++ word ++ separator ++ first ++ after) =
        redact (before ++ word ++ separator ++ second ++ after) := by
  intro all
  have same := all "Bearer " "password" "=" "" "1" "2" (by decide +kernel) (by decide)
    isSeparator_equals (by decide) (by decide) (by decide)
  have one : redact ("Bearer " ++ "password" ++ "=" ++ "1" ++ "") = "[REDACTED_TOKEN]1" := by
    decide +kernel
  have two : redact ("Bearer " ++ "password" ++ "=" ++ "2" ++ "") = "[REDACTED_TOKEN]2" := by
    decide +kernel
  rw [one, two] at same
  revert same
  decide

end ChatCommands.Redaction
