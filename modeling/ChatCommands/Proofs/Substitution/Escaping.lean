/-
# Escaping a text

One more dollar sign in front of every reference keeps a text from being changed: whatever the
environment, substituting gives the text back, and no variable is referred to. It does not
matter whether a dollar sign stands before the reference already. The sign that is put in is
the one right before the reference, and it is the one that goes.

Main statement: `substitute_escaped`.
-/

import ChatCommands.Proofs.Substitution.Outcome

namespace ChatCommands

open Text (Piece piecesFrom)

namespace Reference

/-- A reference, escaped or not, stands at the start of a text. -/
def Begins (cs : List Char) : Prop := ∃ name, IsName name ∧ literal name <+: cs

theorem begins_cons_iff {c : Char} {rest : List Char} :
    Begins (c :: rest) ↔ c = '$' ∧ (bracedName? rest).isSome = true := by
  rw [Option.isSome_iff_exists, Begins]
  simp only [bracedName?_eq_some_iff, literal, List.cons_append, List.cons_prefix_cons]
  constructor
  · rintro ⟨name, isName, rfl, after, same⟩
    exact ⟨rfl, name, isName, after, by simp [← same]⟩
  · rintro ⟨rfl, name, isName, after, rfl⟩
    exact ⟨name, isName, rfl, after, by simp⟩

theorem not_begins_nil : ¬Begins [] := fun ⟨_, _, begins⟩ => nomatch List.prefix_nil.mp begins

instance : DecidablePred Begins
  | [] => .isFalse not_begins_nil
  | _ :: _ => decidable_of_iff _ begins_cons_iff.symm

/-- A text with one more dollar sign in front of every reference. -/
def escape : List Char → List Char
  | [] => []
  | c :: rest => if Begins (c :: rest) then '$' :: c :: escape rest else c :: escape rest

variable {previous? : Option Char} {cs rest part after name : List Char} {c : Char}

theorem escape_cons_of_not_begins (plain : ¬Begins (c :: rest)) :
    escape (c :: rest) = c :: escape rest := by
  rw [escape, if_neg plain]

theorem escape_append_of_not_mem_dollar (absent : '$' ∉ part) (rest : List Char) :
    escape (part ++ rest) = part ++ escape rest := by
  induction part with
  | nil => rfl
  | cons c part ih =>
      rw [List.mem_cons, not_or] at absent
      have plain : ¬Begins (c :: (part ++ rest)) := fun begins =>
        absent.1 (begins_cons_iff.mp begins).1.symm
      rw [List.cons_append, escape_cons_of_not_begins plain, ih absent.2, List.cons_append]

/-- The sign is put in before a reference and nowhere inside. -/
theorem escape_literal_append (isName : IsName name) (after : List Char) :
    escape (literal name ++ after) = '$' :: (literal name ++ escape after) := by
  have begins : Begins (literal name ++ after) := ⟨name, isName, List.prefix_append _ _⟩
  rw [literal, List.cons_append, List.cons_append] at begins ⊢
  rw [escape, if_pos begins, escape_append_of_not_mem_dollar isName.not_mem_braced]
  rfl

/-! ## References in an escaped text -/

/-- A stretch without a dollar sign at the start was there before. -/
theorem prefix_of_prefix_escape (absent : '$' ∉ part) (begins : part <+: escape cs) :
    part <+: cs := by
  induction part generalizing cs with
  | nil => exact List.nil_prefix
  | cons d part ih =>
      rw [List.mem_cons, not_or] at absent
      cases cs with
      | nil => cases List.prefix_nil.mp begins
      | cons c rest =>
          rw [escape] at begins
          split at begins
          · exact absurd (List.cons_prefix_cons.mp begins).1.symm absent.1
          · obtain ⟨rfl, later⟩ := List.cons_prefix_cons.mp begins
            exact List.cons_prefix_cons.mpr ⟨rfl, ih absent.2 later⟩

/-- An escaped text begins with no reference: there is a dollar sign before the first one. -/
theorem not_begins_escape (cs : List Char) : ¬Begins (escape cs) := by
  cases cs with
  | nil => exact not_begins_nil
  | cons c rest =>
      by_cases begins : Begins (c :: rest)
      · rw [escape, if_pos begins, (begins_cons_iff.mp begins).1, begins_cons_iff]
        simp [bracedName?]
      · rw [escape_cons_of_not_begins begins]
        rintro ⟨name, isName, stands⟩
        obtain ⟨rfl, later⟩ := List.cons_prefix_cons.mp stands
        have before := prefix_of_prefix_escape isName.not_mem_braced later
        exact begins ⟨name, isName, List.cons_prefix_cons.mpr ⟨rfl, before⟩⟩

/-- Nothing is found at a character that is not the start of a reference. -/
theorem finder_escape_of_not_begins (plain : ¬Begins (c :: rest)) :
    finder previous? (c :: escape rest) = none := by
  by_contra some
  obtain ⟨found, here⟩ := Option.ne_none_iff_exists'.mp some
  obtain ⟨name, after, isName, ⟨same, -⟩ | ⟨same, -⟩⟩ := of_finder here
  · refine not_begins_escape rest ⟨name, isName, ?_⟩
    rw [(List.cons.inj same).2]
    exact List.prefix_append _ _
  · refine not_begins_escape (c :: rest) ⟨name, isName, ?_⟩
    rw [escape_cons_of_not_begins plain, same]
    exact List.prefix_append _ _

/-- All references of an escaped text are escaped, and without the escapes it is the text. -/
theorem piecesFrom_escape (environment : Environment) (previous? : Option Char)
    (cs : List Char) :
    (∀ name, .found ⟨false, name⟩ ∉ piecesFrom finder previous? 0 (escape cs)) ∧
      (piecesFrom finder previous? 0 (escape cs)).flatMap environment.replacement = cs := by
  -- Reading goes on after a whole reference, so the length of what is left decreases.
  induction size : cs.length using Nat.strong_induction_on generalizing previous? cs with
  | _ length ih =>
      cases cs with
      | nil =>
          rw [escape, Text.piecesFrom_nil]
          exact ⟨fun _ => List.not_mem_nil, rfl⟩
      | cons c rest =>
          by_cases begins : Begins (c :: rest)
          · obtain ⟨name, isName, after, same⟩ := begins
            rw [← same] at size ⊢
            have shorter : after.length < length := by
              rw [List.length_append, length_literal] at size
              omega
            obtain ⟨escaped, replaced⟩ := ih after.length shorter (some '\x7d') after rfl
            rw [escape_literal_append isName, piecesFrom_escaped isName]
            refine ⟨fun other listed => ?_, ?_⟩
            · rcases List.mem_cons.mp listed with here | later
              · cases here
              · exact escaped other later
            · rw [List.flatMap_cons, replaced]
              rfl
          · obtain ⟨escaped, replaced⟩ := ih rest.length (by simp [← size]) (some c) rest rfl
            rw [escape_cons_of_not_begins begins, piecesFrom, finder_escape_of_not_begins begins]
            refine ⟨fun other listed => ?_, congrArg (List.cons c) replaced⟩
            rcases List.mem_cons.mp listed with here | later
            · cases here
            · exact escaped other later

end Reference

/-! ## Texts -/

/-- A text with its references escaped. -/
def escapeText (text : String) : String := String.ofList (Reference.escape text.toList)

theorem substituteText_escapeText (environment : Environment) (path text : String) :
    environment.substituteText path (escapeText text) = .ok text := by
  obtain ⟨escaped, replaced⟩ := Reference.piecesFrom_escape environment none text.toList
  rw [Environment.substituteText_eq_ok_iff]
  refine ⟨_, Reference.reads_iff.mpr rfl, ?_, ?_⟩ <;> rw [escapeText, String.toList_ofList]
  · exact fun name listed => absurd listed (escaped name)
  · exact replaced.symm

theorem referredInText_escapeText (text : String) : referredInText (escapeText text) = [] := by
  obtain ⟨escaped, -⟩ := Reference.piecesFrom_escape .empty none text.toList
  rw [referredInText, escapeText, String.toList_ofList, List.filterMap_eq_nil_iff]
  intro piece listed
  cases piece with
  | char c => rfl
  | found reference =>
      obtain ⟨isEscaped, name⟩ := reference
      cases isEscaped with
      | true => rfl
      | false => exact absurd listed (escaped name)

/-! ## Trees -/

namespace Json

variable {related : String → String → Prop} {f : String → String}

mutual

/-- A tree with a function applied to its texts. Keys are not texts of the tree. -/
def mapTexts (f : String → String) : Json → Json
  | .string text => .string (f text)
  | .array items => .array (mapTextsOfItems f items)
  | .object members => .object (mapTextsOfMembers f members)
  | .null => .null
  | .bool value => .bool value
  | .number value => .number value

/-- The items of an array with a function applied to their texts. -/
def mapTextsOfItems (f : String → String) : List Json → List Json
  | [] => []
  | item :: rest => item.mapTexts f :: mapTextsOfItems f rest

/-- The members of an object with a function applied to their texts. -/
def mapTextsOfMembers (f : String → String) : List (String × Json) → List (String × Json)
  | [] => []
  | (key, value) :: rest => (key, value.mapTexts f) :: mapTextsOfMembers f rest

end

theorem map_fst_mapTextsOfMembers (f : String → String) (members : List (String × Json)) :
    (mapTextsOfMembers f members).map Prod.fst = members.map Prod.fst := by
  induction members with
  | nil => rfl
  | cons member rest ih => exact congrArg (List.cons member.1) ih

mutual

/-- If what a function makes of a text is related to the text, what it makes of a tree
corresponds to the tree. -/
theorem corresponds_mapTexts (back : ∀ text, related (f text) text) : ∀ tree : Json,
    Corresponds related (tree.mapTexts f) tree
  | .string text => .string (back text)
  | .array items => .array (forall₂_mapTextsOfItems back items)
  | .object members =>
      .object (map_fst_mapTextsOfMembers f members) (forall₂_mapTextsOfMembers back members)
  | .null => .null
  | .bool value => .bool value
  | .number value => .number value

theorem forall₂_mapTextsOfItems (back : ∀ text, related (f text) text) : ∀ items : List Json,
    List.Forall₂ (Corresponds related) (mapTextsOfItems f items) items
  | [] => .nil
  | item :: rest => .cons (corresponds_mapTexts back item) (forall₂_mapTextsOfItems back rest)

theorem forall₂_mapTextsOfMembers (back : ∀ text, related (f text) text) :
    ∀ members : List (String × Json), List.Forall₂ (Corresponds related)
      ((mapTextsOfMembers f members).map Prod.snd) (members.map Prod.snd)
  | [] => .nil
  | (_, value) :: rest =>
      .cons (corresponds_mapTexts back value) (forall₂_mapTextsOfMembers back rest)

end

mutual

theorem referredNames_mapTexts (silent : ∀ text, referredInText (f text) = []) : ∀ tree : Json,
    referredNames (tree.mapTexts f) = []
  | .string text => silent text
  | .array items => referredInItems_mapTexts silent items
  | .object members => referredInMembers_mapTexts silent members
  | .null | .bool _ | .number _ => rfl

theorem referredInItems_mapTexts (silent : ∀ text, referredInText (f text) = []) :
    ∀ items : List Json, referredInItems (mapTextsOfItems f items) = []
  | [] => rfl
  | item :: rest => by
      rw [mapTextsOfItems, referredInItems, referredNames_mapTexts silent item,
        referredInItems_mapTexts silent rest, List.append_nil]

theorem referredInMembers_mapTexts (silent : ∀ text, referredInText (f text) = []) :
    ∀ members : List (String × Json), referredInMembers (mapTextsOfMembers f members) = []
  | [] => rfl
  | (_, value) :: rest => by
      rw [mapTextsOfMembers, referredInMembers, referredNames_mapTexts silent value,
        referredInMembers_mapTexts silent rest, List.append_nil]

end

end Json

/-- A text whose references are escaped is substituted to itself in every environment and at
every place, and refers to no variable. So is a tree all of whose texts are escaped. -/
theorem substitute_escaped (environment : Environment) :
    (∀ path text, environment.substituteText path (escapeText text) = .ok text ∧
      referencedVariables (.string (escapeText text)) = []) ∧
    ∀ tree : Json, environment.substitute (tree.mapTexts escapeText) = .ok tree ∧
      referencedVariables (tree.mapTexts escapeText) = [] := by
  have unlisted : ∀ tree : Json, referencedVariables (tree.mapTexts escapeText) = [] := by
    intro tree
    rw [referencedVariables, Json.referredNames_mapTexts referredInText_escapeText,
      List.mergeSort_nil]
    rfl
  refine ⟨fun path text => ⟨substituteText_escapeText environment path text, ?_⟩,
    fun tree => ⟨?_, unlisted tree⟩⟩
  · exact unlisted (.string text)
  · refine (Environment.substituteAt_eq_ok_iff "").mpr (Json.corresponds_mapTexts ?_ tree)
    intro text
    exact Environment.substituteText_eq_ok_iff.mp (substituteText_escapeText environment "" text)

/-- A reference after a dollar sign, two references in a row and braces that are not closed. -/
example : escapeText "$${A}${B}${C} $\x7bD" = "$$${A}$${B}$${C} $\x7bD" := by decide +kernel

end ChatCommands
