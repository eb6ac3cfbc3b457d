/-
# Maps that remember the order of insertion

A finite map whose entries stay in the order in which their keys were first
inserted. Inserting under a key that is present replaces the value and keeps the
place. The type carries the fact that no key occurs twice, so two maps with the
same entries in the same order are equal.
-/

namespace ChatCommands

/-- A finite map with its entries in the order of first insertion. -/
structure OrderedMap (κ α : Type) where
  /-- The entries, in the order in which their keys were first inserted. -/
  entries : List (κ × α)
  /-- No key occurs twice. -/
  nodup : (entries.map Prod.fst).Nodup

namespace OrderedMap

variable {κ α : Type}

/-- Maps with the same entries in the same order are equal. -/
@[ext] theorem ext {first second : OrderedMap κ α}
    (same : first.entries = second.entries) : first = second := by
  cases first; cases second; cases same; rfl

/-- The map without entries. -/
def empty : OrderedMap κ α := ⟨[], by simp⟩

instance : Inhabited (OrderedMap κ α) := ⟨empty⟩

/-- The keys, in order. -/
def keys (map : OrderedMap κ α) : List κ := map.entries.map Prod.fst

/-- The values, in the order of their keys. -/
def values (map : OrderedMap κ α) : List α := map.entries.map Prod.snd

/-- The number of entries. -/
def size (map : OrderedMap κ α) : Nat := map.entries.length

/-- Whether there is no entry. -/
def isEmpty (map : OrderedMap κ α) : Bool := map.entries.isEmpty

/-- No key is listed twice. -/
theorem nodup_keys (map : OrderedMap κ α) : map.keys.Nodup := map.nodup

/-- The empty map has no keys. -/
@[simp] theorem keys_empty : (empty : OrderedMap κ α).keys = [] := rfl

/-- A map has as many keys as entries. -/
@[simp] theorem length_keys (map : OrderedMap κ α) : map.keys.length = map.size := by
  simp [keys, size]

/-! ## Keeping some entries -/

/-- The entries that satisfy a test, in unchanged order. -/
def filter (map : OrderedMap κ α) (keep : κ → α → Bool) : OrderedMap κ α where
  entries := map.entries.filter fun (key, value) => keep key value
  nodup := map.nodup.sublist (List.filter_sublist.map Prod.fst)

/-- Filtering filters the entries. -/
@[simp] theorem entries_filter (map : OrderedMap κ α) (keep : κ → α → Bool) :
    (map.filter keep).entries = map.entries.filter fun (key, value) => keep key value := rfl

/-! ## Looking up and inserting -/

variable [DecidableEq κ]

/-- The value under a key among entries. -/
def find? (key : κ) : List (κ × α) → Option α
  | [] => none
  | (other, value) :: rest => if other = key then some value else find? key rest

/-- The value under a key. -/
def get? (map : OrderedMap κ α) (key : κ) : Option α := find? key map.entries

/-- Whether there is an entry under a key. -/
def contains (map : OrderedMap κ α) (key : κ) : Bool := (map.get? key).isSome

/-- Entries with a value put under a key: in the place the key has, or at the end. -/
def insertEntry (key : κ) (value : α) : List (κ × α) → List (κ × α)
  | [] => [(key, value)]
  | (other, old) :: rest =>
    if other = key then (key, value) :: rest else (other, old) :: insertEntry key value rest

/-- Insertion leaves the keys alone if the key is present and adds it at the end
otherwise. -/
theorem keys_insertEntry (key : κ) (value : α) (entries : List (κ × α)) :
    (insertEntry key value entries).map Prod.fst =
      if key ∈ entries.map Prod.fst then entries.map Prod.fst
      else entries.map Prod.fst ++ [key] := by
  induction entries with
  | nil => simp [insertEntry]
  | cons entry rest ih =>
    obtain ⟨other, old⟩ := entry
    by_cases same : other = key
    · simp [insertEntry, same]
    · have different : key ≠ other := Ne.symm same
      by_cases present : key ∈ rest.map Prod.fst <;>
        simp_all [insertEntry]

/-- Put a value under a key. -/
def insert (map : OrderedMap κ α) (key : κ) (value : α) : OrderedMap κ α where
  entries := insertEntry key value map.entries
  nodup := by
    rw [keys_insertEntry]
    split
    · exact map.nodup
    · next absent =>
      rw [List.nodup_append]
      refine ⟨map.nodup, by simp, ?_⟩
      intro first firstMem second secondMem same
      simp only [List.mem_singleton] at secondMem
      exact absent (secondMem ▸ same ▸ firstMem)

/-- Put entries into a map, one after the other. -/
def insertAll (map : OrderedMap κ α) (entries : List (κ × α)) : OrderedMap κ α :=
  entries.foldl (fun map (key, value) => map.insert key value) map

/-- The map that results from inserting entries one after the other. -/
def ofList (entries : List (κ × α)) : OrderedMap κ α := empty.insertAll entries

/-! ## Laws -/

/-- The keys after an insertion. -/
theorem keys_insert (map : OrderedMap κ α) (key : κ) (value : α) :
    (map.insert key value).keys =
      if key ∈ map.keys then map.keys else map.keys ++ [key] :=
  keys_insertEntry key value map.entries

/-- Nothing is found in the empty map. -/
@[simp] theorem get?_empty (key : κ) : (empty : OrderedMap κ α).get? key = none := rfl

/-- Among entries, a key finds what was put under it last. -/
theorem find?_insertEntry (key other : κ) (value : α) (entries : List (κ × α)) :
    find? other (insertEntry key value entries) =
      if key = other then some value else find? other entries := by
  induction entries with
  | nil => simp [insertEntry, find?]
  | cons entry rest ih =>
    obtain ⟨k, v⟩ := entry
    by_cases here : k = key
    · subst here
      by_cases wanted : k = other <;> simp [insertEntry, find?, wanted]
    · by_cases wanted : k = other
      · subst wanted
        simp [insertEntry, find?, here, Ne.symm here]
      · simp [insertEntry, find?, here, wanted, ih]

/-- A key finds what was put under it last, and the other keys are not affected. -/
@[grind =] theorem get?_insert (map : OrderedMap κ α) (key other : κ) (value : α) :
    (map.insert key value).get? other =
      if key = other then some value else map.get? other :=
  find?_insertEntry key other value map.entries

/-- A key finds what was put under it last. -/
@[simp] theorem get?_insert_self (map : OrderedMap κ α) (key : κ) (value : α) :
    (map.insert key value).get? key = some value := by
  simp [get?_insert]

/-- A value is found exactly if its entry is there. -/
theorem get?_eq_some_iff (map : OrderedMap κ α) (key : κ) (value : α) :
    map.get? key = some value ↔ (key, value) ∈ map.entries := by
  obtain ⟨entries, nodup⟩ := map
  simp only [get?]
  induction entries with
  | nil => simp [find?]
  | cons entry rest ih =>
    obtain ⟨other, old⟩ := entry
    simp only [List.map_cons, List.nodup_cons] at nodup
    by_cases same : other = key
    · subst same
      constructor
      · intro found
        simp [find?] at found
        simp [found]
      · intro member
        rcases List.mem_cons.mp member with here | later
        · simp only [Prod.mk.injEq, true_and] at here
          simp [find?, here]
        · exact absurd (List.mem_map_of_mem (f := Prod.fst) later) nodup.1
    · simp [find?, same, ih nodup.2, Ne.symm same]

/-- Nothing is found exactly if the key is not there. -/
theorem get?_eq_none_iff (map : OrderedMap κ α) (key : κ) :
    map.get? key = none ↔ key ∉ map.keys := by
  obtain ⟨entries, nodup⟩ := map
  simp only [get?, keys]
  clear nodup
  induction entries with
  | nil => simp [find?]
  | cons entry rest ih =>
    obtain ⟨other, old⟩ := entry
    by_cases same : other = key
    · simp [find?, same]
    · simp [find?, same, ih, Ne.symm same]

end OrderedMap

end ChatCommands
