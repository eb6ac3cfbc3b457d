/-
# Which package a component is taken from

A package that is added under a name in use replaces the earlier one in its place. So the
packages that are held stand in the order in which their names were first used, and not in
the order in which they themselves were added. A component is looked up from the end of the
former order, and a package that has just been added again can be passed over in favour of
one that was added before it. The index of the commands has no such places: there the package
added last counts.

Main statement: `component_insertAll`. The two orders agree if no name is used twice, and
more generally if the names come in the same order by their first and by their last uses.
-/

import ChatCommands.Proofs.Snapshot.History
import Mathlib.Data.List.Dedup

namespace ChatCommands

/-! ## Maps -/

namespace OrderedMap

variable {κ α : Type} [DecidableEq κ]

theorem values_eq_filterMap_keys (map : OrderedMap κ α) :
    map.values = map.keys.filterMap map.get? := by
  rw [keys, List.filterMap_map, values, ← List.filterMap_eq_map]
  refine List.filterMap_congr fun entry member => ?_
  exact ((get?_eq_some_iff map entry.1 entry.2).mpr member).symm

end OrderedMap

namespace Snapshot

variable {π : Type}

/-! ## The packages that are held -/

/-- The package that was added last under a name. -/
def lastNamed? (packages : List (Package π)) (owner : String) : Option (Package π) :=
  (packages.filter fun package => package.name = owner).getLast?

/-- The packages that are held after packages are added one after the other, in the order in
which their names were first used. -/
def inPlace (packages : List (Package π)) : List (Package π) :=
  (packages.map Package.name).eraseDups.filterMap (lastNamed? packages)

/-- The packages that are held after packages are added one after the other, in the order in
which they were added: those that no later one of their name has replaced. -/
def byAddition (packages : List (Package π)) : List (Package π) :=
  packages.pwFilter fun earlier later => earlier.name ≠ later.name

theorem values_packages_insertAll_eq_inPlace (packages : List (Package π)) :
    ((empty : Snapshot π).insertAll packages).packages.values = inPlace packages := by
  have keys : ((empty : Snapshot π).insertAll packages).packages.keys =
      (packages.map Package.name).eraseDups := by
    rw [packages_insertAll]
    refine (OrderedMap.keys_ofList _).trans ?_
    rw [List.map_map]
    rfl
  rw [OrderedMap.values_eq_filterMap_keys, keys, inPlace]
  exact List.filterMap_congr fun owner _ => package?_insertAll packages owner

/-- The names of the packages that are held, in the order of their last uses. -/
theorem map_name_byAddition (packages : List (Package π)) :
    (byAddition packages).map Package.name = (packages.map Package.name).dedup := by
  rw [byAddition, List.dedup, List.pwFilter_map]

theorem lastNamed?_cons (package : Package π) (rest : List (Package π)) (owner : String) :
    lastNamed? (package :: rest) owner =
      (lastNamed? rest owner).or (if package.name = owner then some package else none) := by
  rw [lastNamed?, ← List.singleton_append, List.filter_append, List.getLast?_append, ← lastNamed?]
  by_cases named : package.name = owner
  · simp [named]
  · simp [named]

theorem isSome_lastNamed?_iff {packages : List (Package π)} {owner : String} :
    (lastNamed? packages owner).isSome = true ↔ owner ∈ packages.map Package.name := by
  rw [lastNamed?, List.getLast?_isSome, ne_eq, List.filter_eq_nil_iff, List.mem_map]
  push Not
  simp only [decide_eq_true_eq]

/-- Under each name the package is held that was added last under it. -/
theorem byAddition_eq_filterMap (packages : List (Package π)) :
    byAddition packages =
      (packages.map Package.name).dedup.filterMap (lastNamed? packages) := by
  induction packages with
  | nil => rfl
  | cons package rest ih =>
      rw [List.map_cons]
      by_cases used : package.name ∈ rest.map Package.name
      · have replaced : ¬∀ later ∈ byAddition rest, package.name ≠ later.name := by
          rw [← List.mem_dedup, ← map_name_byAddition, List.mem_map] at used
          obtain ⟨later, member, same⟩ := used
          exact fun distinct => distinct later member same.symm
        rw [byAddition, List.pwFilter_cons_of_neg replaced, ← byAddition, ih,
          List.dedup_cons_of_mem used]
        refine List.filterMap_congr fun owner member => ?_
        obtain ⟨later, found⟩ := Option.isSome_iff_exists.mp
          (isSome_lastNamed?_iff.mpr (List.mem_dedup.mp member))
        rw [lastNamed?_cons, found, Option.some_or]
      · have distinct : ∀ later ∈ byAddition rest, package.name ≠ later.name := by
          intro later member same
          exact used (List.mem_map.mpr ⟨later, List.pwFilter_subset rest member, same.symm⟩)
        have nothing : lastNamed? rest package.name = none := by
          rw [← Option.not_isSome_iff_eq_none, isSome_lastNamed?_iff]
          exact used
        rw [byAddition, List.pwFilter_cons_of_pos distinct, ← byAddition, ih,
          List.dedup_cons_of_notMem used, List.filterMap_cons, lastNamed?_cons, nothing,
          if_pos rfl, Option.none_or]
        refine congrArg _ (List.filterMap_congr fun owner member => ?_)
        have other : package.name ≠ owner := by
          rintro rfl
          exact used (List.mem_dedup.mp member)
        rw [lastNamed?_cons, if_neg other, Option.or_none]

theorem mem_inPlace_iff_mem_byAddition {packages : List (Package π)} {package : Package π} :
    package ∈ inPlace packages ↔ package ∈ byAddition packages := by
  simp only [inPlace, byAddition_eq_filterMap, List.mem_filterMap, List.mem_eraseDups,
    List.mem_dedup]

theorem inPlace_eq_byAddition {packages : List (Package π)}
    (sameOrder : (packages.map Package.name).eraseDups = (packages.map Package.name).dedup) :
    inPlace packages = byAddition packages := by
  rw [inPlace, sameOrder, byAddition_eq_filterMap]

/-! ## Looking components up -/

/-- Of packages in an order the last one that has a component of the name has this one. -/
def LastHas (order : List (Package π)) (name : String) (component : Component π) : Prop :=
  ∃ earlier package later, order = earlier ++ package :: later ∧
    package.component? name = some component ∧ ∀ other ∈ later, other.component? name = none

theorem findSome?_reverse_eq_some_iff {order : List (Package π)} {name : String}
    {component : Component π} :
    order.reverse.findSome? (fun package => package.component? name) = some component ↔
      LastHas order name component := by
  rw [List.findSome?_eq_some_iff]
  constructor
  · rintro ⟨later, package, earlier, turned, has, without⟩
    refine ⟨earlier.reverse, package, later.reverse, ?_, has, ?_⟩
    · rw [← List.reverse_reverse order, turned, List.reverse_append, List.reverse_cons,
        List.append_assoc, List.singleton_append]
    · exact fun other member => without other (List.mem_reverse.mp member)
  · rintro ⟨earlier, package, later, rfl, has, without⟩
    refine ⟨later.reverse, package, earlier.reverse, ?_, has, ?_⟩
    · rw [List.reverse_append, List.reverse_cons, List.append_assoc, List.singleton_append]
    · exact fun other member => without other (List.mem_reverse.mp member)

theorem component_eq_ok_iff {snapshot : Snapshot π} {name : String} {component : Component π} :
    snapshot.component name = .ok component ↔
      LastHas snapshot.packages.values name component := by
  rw [← findSome?_reverse_eq_some_iff, Snapshot.component]
  split
  · next none => simp [none]
  · next found => simp [found]

theorem component_eq_error_iff {snapshot : Snapshot π} {name : String} {error : DispatchError} :
    snapshot.component name = .error error ↔
      error = .componentLookup name ∧
        ∀ package ∈ snapshot.packages.values, package.component? name = none := by
  have nowhere : snapshot.packages.values.reverse.findSome?
      (fun package => package.component? name) = none ↔
        ∀ package ∈ snapshot.packages.values, package.component? name = none := by
    simp only [List.findSome?_eq_none_iff, List.mem_reverse]
  rw [← nowhere, Snapshot.component]
  split
  · next none => simp [none, eq_comm]
  · next found => simp [found]

/-- After packages are added to a new registry, those that no later one of their name has
replaced are held. A component is looked up in them in the order in which their names were
first used: the last package that has a component of the name counts, and the lookup fails
exactly if none has. If the names are in the same order by their last uses, as they are if no
name is used twice, this is the package added last. -/
theorem component_insertAll (packages : List (Package π)) (name : String) :
    let snapshot := (empty : Snapshot π).insertAll packages
    let names := packages.map Package.name
    (∀ package, package ∈ snapshot.packages.values ↔ package ∈ byAddition packages) ∧
    (∀ component, snapshot.component name = .ok component ↔
      LastHas (inPlace packages) name component) ∧
    (∀ error, snapshot.component name = .error error ↔
      error = .componentLookup name ∧
        ∀ package ∈ byAddition packages, package.component? name = none) ∧
    (names.eraseDups = names.dedup → ∀ component,
      snapshot.component name = .ok component ↔ LastHas (byAddition packages) name component) := by
  intro snapshot names
  have held : snapshot.packages.values = inPlace packages :=
    values_packages_insertAll_eq_inPlace packages
  refine ⟨?_, ?_, ?_, ?_⟩
  · intro package
    rw [held]
    exact mem_inPlace_iff_mem_byAddition
  · intro component
    rw [component_eq_ok_iff, held]
  · intro error
    rw [component_eq_error_iff, held]
    simp only [mem_inPlace_iff_mem_byAddition]
  · intro sameOrder component
    rw [component_eq_ok_iff, held, inPlace_eq_byAddition sameOrder]

/-- A package replaces one of its name that stands at the end: it is the last one to be added
and the one its component is taken from. -/
theorem component_insertAll_replaced :
    let tool (plugin : Builtin) := Component.ofPlugin "Tool" plugin
    let packages : List (Package Builtin) :=
      [(Package.ofName "alpha" none).add (tool .echo), (Package.ofName "beta" none).add (tool .info),
        (Package.ofName "beta" none).add (tool .poll)]
    (packages.map Package.name).eraseDups = (packages.map Package.name).dedup ∧
      (byAddition packages).map Package.name = ["alpha", "beta"] ∧
      ((empty : Snapshot Builtin).insertAll packages).component "Tool" = .ok (tool .poll) := by
  intro tool packages
  have sameOrder :
      (packages.map Package.name).eraseDups = (packages.map Package.name).dedup := by decide
  obtain ⟨-, -, -, agrees⟩ := component_insertAll packages "Tool"
  refine ⟨sameOrder, by decide, (agrees sameOrder (tool .poll)).mpr ?_⟩
  exact ⟨[(Package.ofName "alpha" none).add (tool .echo)],
    (Package.ofName "beta" none).add (tool .poll), [], rfl, rfl, nofun⟩

/-- A package that is added again keeps its place before another one, and its new component is
passed over. -/
theorem not_forall_component_insertAll :
    ¬∀ (packages : List (Package Builtin)) (name : String) (component : Component Builtin),
      ((empty : Snapshot Builtin).insertAll packages).component name = .ok component ↔
        LastHas (byAddition packages) name component := by
  intro lastAdded
  let package (owner : String) (plugin : Builtin) : Package Builtin :=
    (Package.ofName owner none).add (.ofPlugin "Tool" plugin)
  let packages := [package "alpha" .echo, package "beta" .info, package "alpha" .poll]
  have taken : ((empty : Snapshot Builtin).insertAll packages).component "Tool" =
      .ok (.ofPlugin "Tool" .info) := rfl
  have latest : LastHas (byAddition packages) "Tool" (.ofPlugin "Tool" .poll) :=
    ⟨[package "beta" .info], package "alpha" .poll, [], rfl, rfl, nofun⟩
  have same := taken.symm.trans ((lastAdded packages "Tool" _).mpr latest)
  exact absurd (congrArg Component.plugin (Except.ok.inj same)) (by decide)

end Snapshot

end ChatCommands
