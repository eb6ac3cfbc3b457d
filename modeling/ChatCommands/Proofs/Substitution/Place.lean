/-
# The texts of a tree and their places

A place is the way from the root of a tree to one of its parts: the index of an item at each
array and the key of a member at each object. The texts of a tree are met in the order of
their places, provided that its objects hold their members in increasing order of the keys,
as objects do that are read from a text (`isOrdered_of_parse?`).
-/

import ChatCommands.Json.Syntax
import ChatCommands.Substitution
import Mathlib.Data.String.Basic

namespace ChatCommands.Json

/-- A step from a value to one of its parts. -/
inductive Step where
  | item (index : Nat)
  | member (key : String)
deriving DecidableEq, Repr

/-- The way from the root of a tree to one of its parts. -/
abbrev Place := List Step

/-- Items come in the order of their indices, members in the order of their keys. -/
inductive Step.Precedes : Step → Step → Prop
  | item {first second : Nat} (less : first < second) : Precedes (.item first) (.item second)
  | member {first second : String} (less : first < second) :
    Precedes (.member first) (.member second)

/-- A place comes before another one if it does at the first step in which they differ. -/
abbrev Place.Precedes : Place → Place → Prop := List.Lex Step.Precedes

/-- A place in words, seen from a place that is given in words. -/
def Place.describe (path : String) : Place → String
  | [] => path
  | .item index :: rest => describe (Environment.itemPath path index) rest
  | .member key :: rest => describe (Environment.memberPath path key) rest

/-- A tree holds a text at a place. -/
inductive HoldsText : Json → Place → String → Prop
  | here (text : String) : HoldsText (.string text) [] text
  | item {items : List Json} {index : Nat} {item : Json} {place : Place} {text : String}
    (listed : items[index]? = some item) (within : HoldsText item place text) :
    HoldsText (.array items) (.item index :: place) text
  | member {members : List (String × Json)} {key : String} {value : Json} {place : Place}
    {text : String} (listed : (key, value) ∈ members) (within : HoldsText value place text) :
    HoldsText (.object members) (.member key :: place) text

/-- The objects of a tree hold their members in increasing order of the keys. -/
inductive IsOrdered : Json → Prop
  | null : IsOrdered .null
  | bool (value : Bool) : IsOrdered (.bool value)
  | number (value : JsonNumber) : IsOrdered (.number value)
  | string (text : String) : IsOrdered (.string text)
  | array {items : List Json} (within : ∀ item ∈ items, IsOrdered item) : IsOrdered (.array items)
  | object {members : List (String × Json)}
    (sorted : members.Pairwise fun first second => first.1 < second.1)
    (within : ∀ member ∈ members, IsOrdered member.2) : IsOrdered (.object members)

/-! ## The texts of a tree -/

mutual

/-- The texts of a tree with their places, in the order in which they are met. -/
def texts : Json → List (Place × String)
  | .string text => [([], text)]
  | .array items => textsOfItems 0 items
  | .object members => textsOfMembers members
  | .null | .bool _ | .number _ => []

/-- The texts of the items of an array from an index on. -/
def textsOfItems (index : Nat) : List Json → List (Place × String)
  | [] => []
  | item :: rest =>
    item.texts.map (Prod.map (.item index :: ·) id) ++ textsOfItems (index + 1) rest

/-- The texts of the members of an object. -/
def textsOfMembers : List (String × Json) → List (Place × String)
  | [] => []
  | (key, value) :: rest =>
    value.texts.map (Prod.map (.member key :: ·) id) ++ textsOfMembers rest

end

theorem mem_map_cons_iff {step : Step} {texts : List (Place × String)} {place : Place}
    {text : String} :
    (place, text) ∈ texts.map (Prod.map (step :: ·) id) ↔
      ∃ inner, place = step :: inner ∧ (inner, text) ∈ texts := by
  rw [List.mem_map]
  constructor
  · rintro ⟨⟨inner, _⟩, member, same⟩
    cases same
    exact ⟨inner, rfl, member⟩
  · rintro ⟨inner, rfl, member⟩
    exact ⟨(inner, text), member, rfl⟩

mutual

/-- The texts that are met are those the tree holds. -/
theorem mem_texts_iff : ∀ {tree : Json} {place : Place} {text : String},
    (place, text) ∈ tree.texts ↔ tree.HoldsText place text
  | .string held, place, text => by
      simp only [texts, List.mem_singleton, Prod.mk.injEq]
      constructor
      · rintro ⟨rfl, rfl⟩
        exact .here text
      · rintro ⟨⟩
        exact ⟨rfl, rfl⟩
  | .array items, place, text => by
      rw [texts, mem_textsOfItems_iff]
      constructor
      · rintro ⟨offset, item, inner, listed, rfl, within⟩
        rw [Nat.zero_add]
        exact .item listed within
      · rintro (_ | ⟨listed, within⟩)
        exact ⟨_, _, _, listed, by rw [Nat.zero_add], within⟩
  | .object members, place, text => by
      rw [texts, mem_textsOfMembers_iff]
      constructor
      · rintro ⟨key, value, inner, listed, rfl, within⟩
        exact .member listed within
      · rintro (_ | _ | ⟨listed, within⟩)
        exact ⟨_, _, _, listed, rfl, within⟩
  | .null, place, text | .bool _, place, text | .number _, place, text => by
      rw [texts]
      exact ⟨fun member => absurd member List.not_mem_nil, nofun⟩

theorem mem_textsOfItems_iff : ∀ {index : Nat} {items : List Json} {place : Place}
    {text : String}, (place, text) ∈ textsOfItems index items ↔
      ∃ offset item inner, items[offset]? = some item ∧ place = .item (index + offset) :: inner ∧
        item.HoldsText inner text
  | index, [], place, text => by simp [textsOfItems]
  | index, item :: rest, place, text => by
      rw [textsOfItems, List.mem_append, mem_map_cons_iff, mem_textsOfItems_iff]
      constructor
      · rintro (⟨inner, rfl, within⟩ | ⟨offset, later, inner, listed, rfl, within⟩)
        · exact ⟨0, item, inner, rfl, rfl, mem_texts_iff.mp within⟩
        · exact ⟨offset + 1, later, inner, listed, by rw [Nat.add_right_comm, Nat.add_assoc],
            within⟩
      · rintro ⟨offset, found, inner, listed, rfl, within⟩
        cases offset with
        | zero =>
            cases listed
            exact .inl ⟨inner, rfl, mem_texts_iff.mpr within⟩
        | succ offset =>
            exact .inr ⟨offset, found, inner, listed,
              by rw [Nat.add_right_comm, Nat.add_assoc], within⟩

theorem mem_textsOfMembers_iff : ∀ {members : List (String × Json)} {place : Place}
    {text : String}, (place, text) ∈ textsOfMembers members ↔
      ∃ key value inner, (key, value) ∈ members ∧ place = .member key :: inner ∧
        value.HoldsText inner text
  | [], place, text => by simp [textsOfMembers]
  | (key, value) :: rest, place, text => by
      rw [textsOfMembers, List.mem_append, mem_map_cons_iff, mem_textsOfMembers_iff]
      constructor
      · rintro (⟨inner, rfl, within⟩ | ⟨other, later, inner, listed, rfl, within⟩)
        · exact ⟨key, value, inner, List.mem_cons_self, rfl, mem_texts_iff.mp within⟩
        · exact ⟨other, later, inner, List.mem_cons_of_mem _ listed, rfl, within⟩
      · rintro ⟨other, found, inner, listed, rfl, within⟩
        rcases List.mem_cons.mp listed with same | later
        · cases same
          exact .inl ⟨inner, rfl, mem_texts_iff.mpr within⟩
        · exact .inr ⟨other, found, inner, later, rfl, within⟩

end

/-! ## Their order -/

theorem pairwise_map_cons (step : Step) {texts : List (Place × String)}
    (ordered : texts.Pairwise fun first second => Place.Precedes first.1 second.1) :
    (texts.map (Prod.map (step :: ·) id)).Pairwise
      fun first second => Place.Precedes first.1 second.1 := by
  rw [List.pairwise_map]
  exact ordered.imp .cons

mutual

/-- The texts of an ordered tree are met in the order of their places. -/
theorem pairwise_texts : ∀ {tree : Json}, tree.IsOrdered →
    tree.texts.Pairwise fun first second => Place.Precedes first.1 second.1
  | .string _, _ => List.pairwise_singleton _ _
  | .array _, .array within => pairwise_textsOfItems within
  | .object _, .object sorted within => pairwise_textsOfMembers sorted within
  | .null, _ | .bool _, _ | .number _, _ => .nil

theorem pairwise_textsOfItems : ∀ {index : Nat} {items : List Json},
    (∀ item ∈ items, item.IsOrdered) →
      (textsOfItems index items).Pairwise fun first second => Place.Precedes first.1 second.1
  | _, [], _ => .nil
  | index, item :: rest, within => by
      rw [textsOfItems, List.pairwise_append]
      refine ⟨pairwise_map_cons _ (pairwise_texts (within item List.mem_cons_self)),
        pairwise_textsOfItems fun other member => within other (List.mem_cons_of_mem _ member), ?_⟩
      rintro ⟨first, _⟩ inFirst ⟨second, _⟩ inSecond
      obtain ⟨inner, rfl, -⟩ := mem_map_cons_iff.mp inFirst
      obtain ⟨offset, later, inner, -, rfl, -⟩ := mem_textsOfItems_iff.mp inSecond
      exact .rel (.item (by omega))

theorem pairwise_textsOfMembers : ∀ {members : List (String × Json)},
    members.Pairwise (fun first second => first.1 < second.1) →
      (∀ member ∈ members, member.2.IsOrdered) →
        (textsOfMembers members).Pairwise fun first second => Place.Precedes first.1 second.1
  | [], _, _ => .nil
  | (key, value) :: rest, sorted, within => by
      obtain ⟨least, sorted⟩ := List.pairwise_cons.mp sorted
      rw [textsOfMembers, List.pairwise_append]
      refine ⟨pairwise_map_cons _ (pairwise_texts (within (key, value) List.mem_cons_self)),
        pairwise_textsOfMembers sorted fun other member =>
          within other (List.mem_cons_of_mem _ member), ?_⟩
      rintro ⟨first, _⟩ inFirst ⟨second, _⟩ inSecond
      obtain ⟨inner, rfl, -⟩ := mem_map_cons_iff.mp inFirst
      obtain ⟨other, later, inner, listed, rfl, -⟩ := mem_textsOfMembers_iff.mp inSecond
      exact .rel (.member (least (other, later) listed))

end

theorem Step.Precedes.asymm {first second : Step} (before : first.Precedes second) :
    ¬ second.Precedes first := by
  rintro (less | less)
  · cases before with
    | item other => omega
  · cases before with
    | member other => exact lt_asymm less other

/-- No two places come before each other. -/
theorem Place.Precedes.asymm {first second : Place} (before : Place.Precedes first second) :
    ¬ Place.Precedes second first := by
  intro after
  induction before with
  | nil => cases after
  | cons before ih =>
      cases after with
      | cons after => exact ih after
      | rel after => exact Step.Precedes.asymm after after
  | rel before =>
      cases after with
      | cons after => exact Step.Precedes.asymm before before
      | rel after => exact Step.Precedes.asymm before after

theorem Place.Precedes.irrefl (place : Place) : ¬ Place.Precedes place place :=
  fun before => before.asymm before

/-- An ordered tree holds one text at a place. -/
theorem HoldsText.unique {tree : Json} {place : Place} {first second : String}
    (here : tree.HoldsText place first) (ordered : tree.IsOrdered)
    (there : tree.HoldsText place second) : first = second := by
  obtain ⟨i, hi, atI⟩ := List.getElem_of_mem (mem_texts_iff.mpr here)
  obtain ⟨j, hj, atJ⟩ := List.getElem_of_mem (mem_texts_iff.mpr there)
  have pairs := List.pairwise_iff_getElem.mp (pairwise_texts ordered)
  rcases Nat.lt_trichotomy i j with less | rfl | less
  · have before := pairs i j hi hj less
    rw [atI, atJ] at before
    exact absurd before (Place.Precedes.irrefl place)
  · rw [atI] at atJ
    exact congrArg Prod.snd atJ
  · have before := pairs j i hj hi less
    rw [atI, atJ] at before
    exact absurd before (Place.Precedes.irrefl place)

/-! ## Objects made from members -/

theorem eq_or_mem_of_mem_insertMember (key : String) (value : Json)
    (members : List (String × Json)) :
    ∀ member ∈ insertMember key value members, member = (key, value) ∨ member ∈ members := by
  induction members with
  | nil => simp [insertMember]
  | cons entry rest ih =>
      obtain ⟨other, old⟩ := entry
      intro member inserted
      rw [insertMember] at inserted
      split at inserted
      · exact List.mem_cons.mp inserted
      · split at inserted
        · exact (List.mem_cons.mp inserted).imp_right (List.mem_cons_of_mem _)
        · rcases List.mem_cons.mp inserted with rfl | later
          · exact .inr List.mem_cons_self
          · exact (ih member later).imp_right (List.mem_cons_of_mem _)

theorem pairwise_insertMember (key : String) (value : Json) {members : List (String × Json)}
    (sorted : members.Pairwise fun first second => first.1 < second.1) :
    (insertMember key value members).Pairwise fun first second => first.1 < second.1 := by
  induction members with
  | nil => exact List.pairwise_singleton _ _
  | cons entry rest ih =>
      obtain ⟨other, old⟩ := entry
      obtain ⟨least, later⟩ := List.pairwise_cons.mp sorted
      rw [insertMember]
      split
      · next less =>
        refine List.pairwise_cons.mpr ⟨?_, sorted⟩
        intro member listed
        rcases List.mem_cons.mp listed with rfl | listed
        · exact less
        · exact lt_trans less (least member listed)
      · next notLess =>
        split
        · next same =>
          subst same
          exact List.pairwise_cons.mpr ⟨least, later⟩
        · next different =>
          refine List.pairwise_cons.mpr ⟨?_, ih later⟩
          intro member inserted
          rcases eq_or_mem_of_mem_insertMember key value rest member inserted with rfl | listed
          · exact lt_of_le_of_ne (not_lt.mp notLess) (Ne.symm different)
          · exact least member listed

/-- An object made from ordered values is ordered, whatever the order of its members. -/
theorem isOrdered_ofMembers {members : List (String × Json)}
    (within : ∀ member ∈ members, member.2.IsOrdered) : (ofMembers members).IsOrdered := by
  have made := List.foldlRecOn (motive := fun sorted : List (String × Json) =>
      sorted.Pairwise (fun first second => first.1 < second.1) ∧
        ∀ member ∈ sorted, member.2.IsOrdered)
    members (fun sorted member => insertMember member.1 member.2 sorted) ⟨.nil, nofun⟩ <| by
      rintro sorted ⟨increasing, ordered⟩ new listed
      refine ⟨pairwise_insertMember new.1 new.2 increasing, fun member inserted => ?_⟩
      rcases eq_or_mem_of_mem_insertMember new.1 new.2 sorted member inserted with rfl | old
      · exact within new listed
      · exact ordered member old
  exact .object made.1 made.2

mutual

theorem isOrdered_of_value? : ∀ {tree : SyntaxTree} {value : Json},
    tree.value? = some value → value.IsOrdered
  | .null, value, means => by
      cases means
      exact .null
  | .bool _, value, means => by
      cases means
      exact .bool _
  | .number _, value, means => by
      obtain ⟨number, -, rfl⟩ := Option.map_eq_some_iff.mp means
      exact .number number
  | .string _, value, means => by
      obtain ⟨text, -, rfl⟩ := Option.map_eq_some_iff.mp means
      exact .string text
  | .array _, value, means => by
      obtain ⟨items, listed, rfl⟩ := Option.map_eq_some_iff.mp means
      exact .array (isOrdered_of_itemValues? listed)
  | .object _, value, means => by
      obtain ⟨members, listed, rfl⟩ := Option.map_eq_some_iff.mp means
      exact isOrdered_ofMembers (isOrdered_of_memberValues? listed)

theorem isOrdered_of_itemValues? : ∀ {items : List SyntaxTree} {values : List Json},
    itemValues? items = some values → ∀ value ∈ values, value.IsOrdered
  | [], values, means => by
      cases means
      exact nofun
  | item :: rest, values, means => by
      rw [itemValues?] at means
      split at means
      · next first others here later =>
        cases means
        exact List.forall_mem_cons.mpr ⟨isOrdered_of_value? here, isOrdered_of_itemValues? later⟩
      · cases means

theorem isOrdered_of_memberValues? : ∀ {members : List (Option String × SyntaxTree)}
    {values : List (String × Json)},
    memberValues? members = some values → ∀ member ∈ values, member.2.IsOrdered
  | [], values, means => by
      cases means
      exact nofun
  | (_, item) :: rest, values, means => by
      unfold memberValues? at means
      split at means
      · next key first others here later =>
        cases means
        exact List.forall_mem_cons.mpr ⟨isOrdered_of_value? here, isOrdered_of_memberValues? later⟩
      · cases means

end

/-- A value that is read from a text is ordered. -/
theorem isOrdered_of_parse? {text : String} {value : Json} (read : parse? text = some value) :
    value.IsOrdered := by
  obtain ⟨tree, -, means⟩ := Option.bind_eq_some_iff.mp read
  exact isOrdered_of_value? means

end ChatCommands.Json
