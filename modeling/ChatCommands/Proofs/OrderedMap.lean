/-
# Laws of maps that remember the order of insertion

What a lookup finds after entries have been dropped, changed or put into a map, and
what a map holds that is made from entries with distinct keys. The place of an entry does
not matter to a lookup; where it does matter, the statement is about `entries`.
-/

import ChatCommands.OrderedMap
import Mathlib.Data.List.Induction

namespace ChatCommands.OrderedMap

variable {κ α : Type}

/-! ## Changing the values -/

/-- The map with every value changed. -/
def mapValues {β : Type} (f : α → β) (map : OrderedMap κ α) : OrderedMap κ β where
  entries := map.entries.map fun (key, value) => (key, f value)
  nodup := by
    rw [List.map_map]
    exact map.nodup

theorem keys_mapValues {β : Type} (f : α → β) (map : OrderedMap κ α) :
    (map.mapValues f).keys = map.keys := by
  rw [keys, mapValues, List.map_map]
  rfl

/-! ## Keys and lookups -/

variable [DecidableEq κ]

theorem contains_eq_true_iff (map : OrderedMap κ α) (key : κ) :
    map.contains key = true ↔ key ∈ map.keys := by
  rw [contains, Option.isSome_iff_ne_none, ne_eq, get?_eq_none_iff, Classical.not_not]

theorem contains_eq_false_iff (map : OrderedMap κ α) (key : κ) :
    map.contains key = false ↔ key ∉ map.keys := by
  rw [← contains_eq_true_iff, Bool.not_eq_true]

theorem mem_keys_insert (map : OrderedMap κ α) (key other : κ) (value : α) :
    other ∈ (map.insert key value).keys ↔ other = key ∨ other ∈ map.keys := by
  rw [keys_insert]
  split
  · next present =>
    constructor
    · exact .inr
    · rintro (rfl | listed)
      · exact present
      · exact listed
  · rw [List.mem_append, List.mem_singleton, or_comm]

theorem mem_keys_insertAll (map : OrderedMap κ α) (entries : List (κ × α)) (key : κ) :
    key ∈ (map.insertAll entries).keys ↔ key ∈ entries.map Prod.fst ∨ key ∈ map.keys := by
  induction entries generalizing map with
  | nil => exact ⟨.inr, fun listed => listed.resolve_left List.not_mem_nil⟩
  | cons entry rest ih =>
      rw [insertAll, List.foldl_cons, ← insertAll, ih, mem_keys_insert, List.map_cons,
        List.mem_cons, or_left_comm, or_assoc]

/-- Dropping entries makes a lookup succeed less often and changes nothing else. -/
theorem get?_filter (map : OrderedMap κ α) (keep : κ → α → Bool) (key : κ) :
    (map.filter keep).get? key = (map.get? key).filter (keep key) := by
  ext value
  rw [Option.filter_eq_some_iff, get?_eq_some_iff, get?_eq_some_iff, entries_filter,
    List.mem_filter]

theorem insertEntry_insertEntry (key : κ) (first second : α) (entries : List (κ × α)) :
    insertEntry key second (insertEntry key first entries) = insertEntry key second entries := by
  induction entries with
  | nil => rw [insertEntry, insertEntry, insertEntry, if_pos rfl]
  | cons entry rest ih =>
      obtain ⟨other, value⟩ := entry
      by_cases same : other = key
      · rw [insertEntry, if_pos same, insertEntry, if_pos rfl, insertEntry, if_pos same]
      · rw [insertEntry, if_neg same, insertEntry, if_neg same, insertEntry, if_neg same, ih]

/-- Of two values that are put under one key in turn the first leaves no trace. -/
theorem insert_insert (map : OrderedMap κ α) (key : κ) (first second : α) :
    (map.insert key first).insert key second = map.insert key second :=
  ext (insertEntry_insertEntry key first second map.entries)

/-! ## Maps made from entries -/

theorem insertEntry_of_not_mem {key : κ} (value : α) {entries : List (κ × α)}
    (absent : key ∉ entries.map Prod.fst) :
    insertEntry key value entries = entries ++ [(key, value)] := by
  induction entries with
  | nil => rfl
  | cons entry rest ih =>
      obtain ⟨other, old⟩ := entry
      rw [List.map_cons, List.mem_cons, not_or] at absent
      rw [insertEntry, if_neg (Ne.symm absent.1), ih absent.2, List.cons_append]

/-- Entries with distinct new keys are put at the end as they are. -/
theorem entries_insertAll {map : OrderedMap κ α} {entries : List (κ × α)}
    (distinct : ((map.entries ++ entries).map Prod.fst).Nodup) :
    (map.insertAll entries).entries = map.entries ++ entries := by
  induction entries generalizing map with
  | nil => rw [insertAll, List.foldl_nil, List.append_nil]
  | cons entry rest ih =>
      obtain ⟨key, value⟩ := entry
      have absent : key ∉ map.entries.map Prod.fst := by
        intro present
        rw [List.map_append, List.nodup_append] at distinct
        exact distinct.2.2 key present key (by simp) rfl
      have here : (map.insert key value).entries = map.entries ++ [(key, value)] :=
        insertEntry_of_not_mem value absent
      have later : ((map.insert key value).insertAll rest).entries =
          (map.insert key value).entries ++ rest := by
        apply ih
        rwa [here, List.append_assoc, List.singleton_append]
      rw [here, List.append_assoc, List.singleton_append] at later
      exact later

/-- A map made from entries with distinct keys has these entries in this order. -/
theorem entries_ofList {entries : List (κ × α)}
    (distinct : (entries.map Prod.fst).Nodup) : (ofList entries).entries = entries :=
  @entries_insertAll κ α _ empty entries distinct

/-- The keys of a map made from entries come in the order of their first entries. -/
theorem keys_ofList (entries : List (κ × α)) :
    (ofList entries).keys = (entries.map Prod.fst).eraseDups := by
  induction entries using List.reverseRecOn with
  | nil => rfl
  | append_singleton entries entry ih =>
      obtain ⟨key, value⟩ := entry
      have last : ofList (entries ++ [(key, value)]) = (ofList entries).insert key value := by
        rw [ofList, insertAll, List.foldl_append]
        rfl
      rw [last, keys_insert, ih, List.map_append, List.eraseDups_append, List.map_singleton,
        List.cons_removeAll]
      by_cases present : key ∈ entries.map Prod.fst
      · have listed := List.mem_eraseDups.mpr present
        simp [present, listed]
      · have absent := mt List.mem_eraseDups.mp present
        simp [present, absent, List.eraseDups_cons]

/-! ## Looking up after several insertions -/

theorem find?_append (key : κ) (first second : List (κ × α)) :
    find? key (first ++ second) = (find? key first).or (find? key second) := by
  induction first with
  | nil => rfl
  | cons entry rest ih =>
      obtain ⟨other, value⟩ := entry
      rw [List.cons_append, find?, find?]
      split
      · rfl
      · exact ih

/-- Of several entries that are put into a map under one key the last counts. -/
theorem get?_insertAll (map : OrderedMap κ α) (entries : List (κ × α)) (key : κ) :
    (map.insertAll entries).get? key = (find? key entries.reverse).or (map.get? key) := by
  induction entries generalizing map with
  | nil => rfl
  | cons entry rest ih =>
      obtain ⟨other, value⟩ := entry
      have later := ih (map.insert other value)
      rw [get?_insert] at later
      rw [List.reverse_cons, find?_append, Option.or_assoc, find?, find?]
      refine later.trans ?_
      split <;> rfl

theorem mem_of_find?_eq_some {key : κ} {value : α} {entries : List (κ × α)}
    (found : find? key entries = some value) : (key, value) ∈ entries := by
  induction entries with
  | nil => cases found
  | cons entry rest ih =>
      obtain ⟨other, first⟩ := entry
      rw [find?] at found
      split at found
      · next same =>
        cases found
        rw [same]
        exact List.mem_cons_self
      · exact List.mem_cons_of_mem _ (ih found)

/-- What is found in a map that is made from entries is one of them. -/
theorem mem_of_get?_ofList {key : κ} {value : α} {entries : List (κ × α)}
    (found : (ofList entries).get? key = some value) : (key, value) ∈ entries := by
  rw [ofList, get?_insertAll, get?_empty, Option.or_none] at found
  exact List.mem_reverse.mp (mem_of_find?_eq_some found)

/-- A value is found in a map that is made from entries if its key has no other one there. -/
theorem get?_ofList_of_forall {key : κ} {value : α} {entries : List (κ × α)}
    (present : key ∈ entries.map Prod.fst) (only : ∀ other, (key, other) ∈ entries → other = value) :
    (ofList entries).get? key = some value := by
  cases found : (ofList entries).get? key with
  | some other => rw [only other (mem_of_get?_ofList found)]
  | none =>
      rw [get?_eq_none_iff, keys_ofList, List.mem_eraseDups] at found
      exact absurd present found

/-- The order of the entries does not matter to a lookup. -/
theorem find?_reverse_entries (map : OrderedMap κ α) (key : κ) :
    find? key map.entries.reverse = map.get? key := by
  have distinct : (map.entries.reverse.map Prod.fst).Nodup := by
    rw [List.map_reverse]
    exact List.pairwise_reverse.mpr (map.nodup.imp Ne.symm)
  ext value
  have turned := get?_eq_some_iff ⟨map.entries.reverse, distinct⟩ key value
  rw [List.mem_reverse, ← get?_eq_some_iff] at turned
  exact turned

/-- What is put over a map hides what is there. -/
theorem get?_insertAll_entries (map overrides : OrderedMap κ α) (key : κ) :
    (map.insertAll overrides.entries).get? key = (overrides.get? key).or (map.get? key) := by
  rw [get?_insertAll, find?_reverse_entries]

theorem get?_mapValues {β : Type} (f : α → β) (map : OrderedMap κ α) (key : κ) :
    (map.mapValues f).get? key = (map.get? key).map f := by
  obtain ⟨entries, distinct⟩ := map
  simp only [get?, mapValues]
  clear distinct
  induction entries with
  | nil => rfl
  | cons entry rest ih =>
      obtain ⟨other, value⟩ := entry
      rw [List.map_cons, find?, find?]
      split
      · rfl
      · exact ih

end ChatCommands.OrderedMap
