/-
# What a manifest takes from a catalog

A manifest may list the components of its package. A name that no package defines is reported,
and a name that only other packages define is an import and passed over. Of the factories the
package itself has under a name the first counts: it makes the component, or it is reported
because it needs parameters. A name that is listed more than once gives one component and one
report for each time.

A manifest without a list takes all that is defined in its package. If no two factories share
both their package and their name, this comes to the same as listing all of them.

Main statements: `ofManifest_accounts_for_listed` and `ofManifest_all_listed`.
-/

import ChatCommands.Catalog
import ChatCommands.Proofs.OrderedMap
import Mathlib.Data.List.Nodup

namespace ChatCommands

variable {π : Type}

/-! ## How a name stands in a catalog -/

/-- How a name that a manifest lists stands in a catalog. -/
inductive Standing (π : Type) where
  /-- No package defines a component of the name. -/
  | unknown
  /-- Other packages define one, but not the package that lists it. -/
  | imported
  /-- The package defines it, but it cannot be made without parameters. -/
  | parameterized (parameters : List String)
  /-- The package defines it and it can be made. -/
  | ready (plugin : π)

namespace Standing

/-- The standing of a name of which the package has a factory. -/
def ofMaker : Maker π → Standing π
  | .ready plugin => ready plugin
  | .parameterized parameters => parameterized parameters

/-- The object a component of the standing is made of. -/
def plugin? : Standing π → Option π
  | ready plugin => some plugin
  | unknown | imported | parameterized _ => none

def isReady (standing : Standing π) : Bool := standing.plugin?.isSome

def isImported : Standing π → Bool
  | imported => true
  | unknown | parameterized _ | ready _ => false

/-- The failure of a listed name that is unknown. -/
def unknownFailure? (package name : String) : Standing π → Option LoadError
  | unknown => some (.unknownComponent package name)
  | imported | parameterized _ | ready _ => none

/-- The failure of a listed name whose component cannot be made. -/
def makingFailure? (name : String) : Standing π → Option LoadError
  | parameterized parameters => some (.needsParameters name parameters)
  | unknown | imported | ready _ => none

end Standing

namespace Catalog

variable {catalog : Catalog π} {package name : String} {factory : Factory π}
  {status : Standing π}

/-- The first factory of a package under a name. -/
structure IsFirst (catalog : Catalog π) (package name : String) (factory : Factory π) : Prop where
  package_eq : factory.package = package
  name_eq : factory.name = name
  first : ∃ earlier later, catalog.factories = earlier ++ factory :: later ∧
    ∀ other ∈ earlier, other.package = package → other.name ≠ name

/-- What it takes for a name that a package lists to have a standing. -/
inductive Stands (catalog : Catalog π) (package name : String) : Standing π → Prop where
  | unknown (absent : ∀ factory ∈ catalog.factories, factory.name ≠ name) :
    Stands catalog package name .unknown
  | imported {factory : Factory π} (member : factory ∈ catalog.factories)
    (named : factory.name = name)
    (elsewhere : ∀ other ∈ catalog.factories, other.name = name → other.package ≠ package) :
    Stands catalog package name .imported
  | parameterized {factory : Factory π} {parameters : List String}
    (first : catalog.IsFirst package name factory)
    (maker : factory.maker = .parameterized parameters) :
    Stands catalog package name (.parameterized parameters)
  | ready {factory : Factory π} {plugin : π} (first : catalog.IsFirst package name factory)
    (maker : factory.maker = .ready plugin) : Stands catalog package name (.ready plugin)

/-- The standing of a name that a package lists. -/
def standing (catalog : Catalog π) (package name : String) : Standing π :=
  match catalog.findIn? package name with
  | some factory => .ofMaker factory.maker
  | none => if (catalog.find? name).isSome then .imported else .unknown

theorem findIn?_eq_some_iff :
    catalog.findIn? package name = some factory ↔ catalog.IsFirst package name factory := by
  rw [findIn?, List.find?_eq_some_iff_append]
  simp only [Bool.and_eq_true, beq_iff_eq, Bool.not_eq_true', Bool.and_eq_false_iff,
    beq_eq_false_iff_ne]
  constructor
  · rintro ⟨⟨package_eq, name_eq⟩, earlier, later, split, before⟩
    exact ⟨package_eq, name_eq, earlier, later, split, fun other member same =>
      (before other member).resolve_left (not_not_intro same)⟩
  · rintro ⟨package_eq, name_eq, earlier, later, split, before⟩
    exact ⟨⟨package_eq, name_eq⟩, earlier, later, split, fun other member =>
      or_iff_not_imp_left.mpr fun same => before other member (not_not.mp same)⟩

theorem findIn?_eq_none_iff :
    catalog.findIn? package name = none ↔
      ∀ factory ∈ catalog.factories, factory.name = name → factory.package ≠ package := by
  rw [findIn?, List.find?_eq_none]
  simp only [Bool.and_eq_true, beq_iff_eq, not_and]
  exact forall₂_congr fun factory _ =>
    ⟨fun apart named same => apart same named, fun apart same named => apart named same⟩

theorem find?_eq_none_iff :
    catalog.find? name = none ↔ ∀ factory ∈ catalog.factories, factory.name ≠ name := by
  rw [find?, List.find?_eq_none]
  simp only [beq_iff_eq]

theorem findIn?_eq_none_of_find? (absent : catalog.find? name = none) :
    catalog.findIn? package name = none := by
  rw [findIn?_eq_none_iff]
  exact fun factory member named => absurd named (find?_eq_none_iff.mp absent factory member)

theorem standing_of_findIn? (found : catalog.findIn? package name = some factory) :
    catalog.standing package name = .ofMaker factory.maker := by
  rw [standing, found]

theorem standing_of_find? (elsewhere : catalog.findIn? package name = none)
    (found : catalog.find? name = some factory) :
    catalog.standing package name = .imported := by
  rw [standing, elsewhere, found]
  rfl

theorem standing_of_absent (absent : catalog.find? name = none) :
    catalog.standing package name = .unknown := by
  rw [standing, findIn?_eq_none_of_find? absent, absent]
  rfl

/-- Every name has a standing and no other one. -/
theorem stands_iff :
    catalog.Stands package name status ↔ catalog.standing package name = status := by
  constructor
  · intro stands
    cases stands with
    | unknown absent => exact standing_of_absent (find?_eq_none_iff.mpr absent)
    | imported member named elsewhere =>
        obtain ⟨factory, found⟩ := Option.ne_none_iff_exists'.mp fun nowhere =>
          find?_eq_none_iff.mp nowhere _ member named
        exact standing_of_find? (findIn?_eq_none_iff.mpr elsewhere) found
    | parameterized first maker | ready first maker =>
        rw [standing_of_findIn? (findIn?_eq_some_iff.mpr first), maker]
        rfl
  · rintro rfl
    cases found : catalog.findIn? package name with
    | some factory =>
        have first := findIn?_eq_some_iff.mp found
        rw [standing_of_findIn? found]
        cases maker : factory.maker with
        | ready plugin => exact .ready first maker
        | parameterized parameters => exact .parameterized first maker
    | none =>
        cases anywhere : catalog.find? name with
        | none =>
            rw [standing_of_absent anywhere]
            exact .unknown (find?_eq_none_iff.mp anywhere)
        | some factory =>
            have named := List.find?_some (p := fun factory : Factory π => factory.name == name)
              anywhere
            rw [standing_of_find? found anywhere]
            exact .imported (List.mem_of_find?_eq_some anywhere) (beq_iff_eq.mp named)
              (findIn?_eq_none_iff.mp found)

end Catalog

namespace Package

variable {catalog : Catalog π} {name : String} {manifest : Manifest} {listed : List String}

/-! ## What is made and what fails -/

/-- Adding components puts them under their names and changes nothing else. -/
theorem addAll_eq (package : Package π) (components : List (Component π)) :
    package.addAll components =
      ⟨package.name, package.doc?, package.components.insertAll
        (components.map fun component => (component.name, component))⟩ := by
  induction components generalizing package with
  | nil => rfl
  | cons component rest ih => exact ih (package.add component)

theorem unknownFailures_of_listed (lists : manifest.components? = some listed) :
    unknownFailures catalog name manifest =
      listed.filterMap fun component =>
        (catalog.standing name component).unknownFailure? name component := by
  rw [unknownFailures, lists, Option.getD_some]
  refine List.filterMap_congr fun component _ => ?_
  cases anywhere : catalog.find? component with
  | none =>
      rw [Catalog.standing_of_absent anywhere]
      rfl
  | some factory =>
      cases found : catalog.findIn? name component with
      | none =>
          rw [Catalog.standing_of_find? found anywhere]
          rfl
      | some own =>
          rw [Catalog.standing_of_findIn? found]
          cases own.maker <;> rfl

/-- What is taken of the components a manifest asks for is settled by how the names it lists
stand, and unknown and imported names contribute nothing. -/
theorem filterMap_wanted {α : Type} {take : Factory π → Option α}
    (share : String → Standing π → Option α) (lists : manifest.components? = some listed)
    (own : ∀ factory, take factory = share factory.name (.ofMaker factory.maker))
    (unknown : ∀ component, share component .unknown = none)
    (imported : ∀ component, share component .imported = none) :
    (wanted catalog name manifest).filterMap take =
      listed.filterMap fun component => share component (catalog.standing name component) := by
  rw [wanted, lists, List.filterMap_filterMap]
  refine List.filterMap_congr fun component _ => ?_
  cases found : catalog.findIn? name component with
  | some factory =>
      rw [Catalog.standing_of_findIn? found, Option.bind_some, own,
        (Catalog.findIn?_eq_some_iff.mp found).name_eq]
  | none =>
      rw [Option.bind_none]
      cases anywhere : catalog.find? component with
      | none => rw [Catalog.standing_of_absent anywhere, unknown]
      | some factory => rw [Catalog.standing_of_find? found anywhere, imported]

theorem makingFailures_of_listed (lists : manifest.components? = some listed) :
    makingFailures (wanted catalog name manifest) =
      listed.filterMap fun component =>
        (catalog.standing name component).makingFailure? component := by
  refine filterMap_wanted Standing.makingFailure? lists (fun factory => ?_) (fun _ => rfl)
    fun _ => rfl
  rw [Factory.make]
  cases factory.maker <;> rfl

theorem madeComponents_of_listed [Plugin π] (lists : manifest.components? = some listed) :
    madeComponents (wanted catalog name manifest) =
      listed.filterMap fun component =>
        (catalog.standing name component).plugin?.map (Component.ofPlugin component) := by
  refine filterMap_wanted (fun component standing =>
    standing.plugin?.map (Component.ofPlugin component)) lists (fun factory => ?_) (fun _ => rfl)
    fun _ => rfl
  rw [Factory.make]
  cases factory.maker <;> rfl

/-- The names of what is made are the names that are ready. -/
theorem map_name_made [Plugin π] (standing : String → Standing π) (listed : List String) :
    (listed.filterMap fun component =>
        (standing component).plugin?.map (Component.ofPlugin component)).map Component.name =
      listed.filter fun component => (standing component).isReady := by
  rw [List.map_filterMap, ← List.filterMap_eq_filter]
  refine List.filterMap_congr fun component _ => ?_
  rw [Option.guard, Standing.isReady]
  cases (standing component).plugin? <;> rfl

theorem ofManifest_fst [Plugin π] (path : String) (manifest : Manifest) (catalog : Catalog π) :
    (ofManifest path manifest catalog).1 =
      ⟨manifest.resolvedName path, manifest.doc?, .ofList
        ((madeComponents (wanted catalog (manifest.resolvedName path) manifest)).map
          fun component => (component.name, component))⟩ :=
  addAll_eq _ _

theorem keys_components_of_listed [Plugin π] (path : String)
    (lists : manifest.components? = some listed) :
    (ofManifest path manifest catalog).1.components.keys =
      (listed.filter fun component =>
        (catalog.standing (manifest.resolvedName path) component).isReady).eraseDups := by
  rw [ofManifest_fst, OrderedMap.keys_ofList, List.map_map, madeComponents_of_listed lists]
  exact congrArg List.eraseDups (map_name_made _ listed)

theorem component?_of_listed [Plugin π] {path component : String} {plugin : π}
    (lists : manifest.components? = some listed) (member : component ∈ listed)
    (ready : catalog.standing (manifest.resolvedName path) component = .ready plugin) :
    (ofManifest path manifest catalog).1.component? component =
      some (.ofPlugin component plugin) := by
  have present : component ∈ (ofManifest path manifest catalog).1.components.keys := by
    rw [keys_components_of_listed path lists, List.mem_eraseDups, List.mem_filter, ready]
    exact ⟨member, rfl⟩
  rw [ofManifest_fst, OrderedMap.keys_ofList, List.mem_eraseDups] at present
  rw [component?, ofManifest_fst]
  refine OrderedMap.get?_ofList_of_forall present fun other entered => ?_
  obtain ⟨_, made, same⟩ := List.mem_map.mp entered
  rw [madeComponents_of_listed lists] at made
  obtain ⟨mentioned, _, made⟩ := List.mem_filterMap.mp made
  obtain ⟨source, source_eq, rfl⟩ := Option.map_eq_some_iff.mp made
  obtain ⟨named, rfl⟩ := Prod.mk.inj same
  obtain rfl : mentioned = component := named
  -- Every mention of the name is made of the one plugin object the catalog has under it.
  rw [ready] at source_eq
  cases source_eq
  rfl

/-- No name that is listed is lost, and none is counted twice. -/
theorem length_eq_of_standing (package : String) (standing : String → Standing π)
    (listed : List String) :
    listed.length =
      (listed.filterMap fun component =>
          (standing component).unknownFailure? package component).length +
        listed.countP (fun component => (standing component).isImported) +
        (listed.filterMap fun component => (standing component).makingFailure? component).length +
        listed.countP fun component => (standing component).isReady := by
  induction listed with
  | nil => rfl
  | cons component rest ih =>
      rw [List.length_cons, ih, List.filterMap_cons, List.filterMap_cons, List.countP_cons,
        List.countP_cons]
      cases standing component <;>
        simp only [Standing.unknownFailure?, Standing.makingFailure?, Standing.isImported,
          Standing.isReady, Standing.plugin?, Option.isSome_some, Option.isSome_none,
          List.length_cons, if_true, Bool.false_eq_true, if_false] <;>
        omega

/-- A name has one of the four standings in a catalog, and a manifest with a list of names is
dealt with by them, name for name: what is ready is made, once and in the order of first
mention, and what is unknown or needs parameters is reported, every time it is mentioned. -/
theorem ofManifest_accounts_for_listed [Plugin π] (path : String) (manifest : Manifest)
    (catalog : Catalog π) {listed : List String} (lists : manifest.components? = some listed) :
    let name := manifest.resolvedName path
    let standing := catalog.standing name
    let package := (ofManifest path manifest catalog).1
    let failures := (ofManifest path manifest catalog).2
    (∀ component status, catalog.Stands name component status ↔ standing component = status) ∧
      package.name = name ∧ package.doc? = manifest.doc? ∧
      package.components.keys =
        (listed.filter fun component => (standing component).isReady).eraseDups ∧
      (∀ component ∈ listed, ∀ plugin, standing component = .ready plugin →
        package.component? component = some (.ofPlugin component plugin)) ∧
      failures =
        (listed.filterMap fun component => (standing component).unknownFailure? name component) ++
          (listed.filterMap fun component => (standing component).makingFailure? component) ∧
      listed.length =
        failures.length + listed.countP (fun component => (standing component).isImported) +
          listed.countP fun component => (standing component).isReady := by
  intro name standing package failures
  have failures_eq : failures =
      (listed.filterMap fun component => (standing component).unknownFailure? name component) ++
        listed.filterMap fun component => (standing component).makingFailure? component :=
    congrArg₂ (· ++ ·) (unknownFailures_of_listed lists) (makingFailures_of_listed lists)
  refine ⟨fun component status => Catalog.stands_iff, ?_, ?_,
    keys_components_of_listed path lists,
    fun component member plugin ready => component?_of_listed lists member ready, failures_eq, ?_⟩
  · exact congrArg Package.name (ofManifest_fst path manifest catalog)
  · exact congrArg Package.doc? (ofManifest_fst path manifest catalog)
  · have counted := length_eq_of_standing name standing listed
    rw [failures_eq, List.length_append]
    omega

/-- The package lists two names twice. `Other` belongs to another package, which has an `Echo`
as well; `Needy` and `Ghost` cannot be had, and the second `Echo` of the package itself never
counts. -/
theorem ofManifest_accounts_for_listed_repeated :
    let listed := ["Ghost", "Needy", "Poll", "Other", "Echo", "Needy", "Poll"]
    let manifest : Manifest := { name? := some "alpha", components? := some listed }
    let catalog : Catalog Builtin :=
      ⟨[⟨"beta", "Echo", .parameterized ["url"]⟩, ⟨"beta", "Other", .ready .info⟩,
        ⟨"alpha", "Echo", .ready .echo⟩, ⟨"alpha", "Echo", .ready .info⟩,
        ⟨"alpha", "Needy", .parameterized ["token", "client"]⟩, ⟨"alpha", "Poll", .ready .poll⟩]⟩
    let package := (ofManifest "packages/a.json" manifest catalog).1
    manifest.components? = some listed ∧ package.name = "alpha" ∧
      package.components.keys = ["Poll", "Echo"] ∧
      package.component? "Echo" = some (.ofPlugin "Echo" .echo) ∧
      (ofManifest "packages/a.json" manifest catalog).2 =
        [.unknownComponent "alpha" "Ghost", .needsParameters "Needy" ["token", "client"],
          .needsParameters "Needy" ["token", "client"]] := by
  intro listed manifest catalog package
  obtain ⟨_, name_eq, _, keys_eq, made, failures_eq, _⟩ :=
    ofManifest_accounts_for_listed "packages/a.json" manifest catalog rfl
  exact ⟨rfl, name_eq, keys_eq.trans (by decide), made "Echo" (by decide) .echo rfl,
    failures_eq.trans (by decide)⟩

end Package

/-! ## A manifest without a list -/

namespace Catalog

/-- No two factories share both their package and their name. -/
def IsDistinct (catalog : Catalog π) : Prop :=
  (catalog.factories.map fun factory => (factory.package, factory.name)).Nodup

instance (catalog : Catalog π) : Decidable catalog.IsDistinct :=
  inferInstanceAs (Decidable (List.Nodup _))

variable {catalog : Catalog π} {package name : String} {factory : Factory π}

theorem mem_definedIn_iff :
    factory ∈ catalog.definedIn package ↔
      factory ∈ catalog.factories ∧ factory.package = package := by
  rw [definedIn, List.mem_filter, beq_iff_eq]

/-- In a catalog without repetitions a factory is the one that is found under its name. -/
theorem IsDistinct.findIn?_name (distinct : catalog.IsDistinct)
    (defined : factory ∈ catalog.definedIn package) :
    catalog.findIn? package factory.name = some factory := by
  obtain ⟨member, rfl⟩ := mem_definedIn_iff.mp defined
  cases found : catalog.findIn? factory.package factory.name with
  | none => exact absurd rfl (findIn?_eq_none_iff.mp found factory member rfl)
  | some other =>
      have first := findIn?_eq_some_iff.mp found
      have listed : other ∈ catalog.factories := List.mem_of_find?_eq_some found
      have same_key : (other.package, other.name) = (factory.package, factory.name) :=
        Prod.ext first.package_eq first.name_eq
      rw [List.inj_on_of_nodup_map distinct listed member same_key]

theorem IsDistinct.nodup_names (distinct : catalog.IsDistinct) :
    ((catalog.definedIn package).map Factory.name).Nodup := by
  have keys : ((catalog.definedIn package).map Factory.name).map (package, ·) =
      (catalog.definedIn package).map fun factory => (factory.package, factory.name) := by
    rw [List.map_map]
    refine List.map_congr_left fun factory defined => ?_
    rw [Function.comp_apply, (mem_definedIn_iff.mp defined).2]
  refine List.Nodup.of_map (package, ·) ?_
  rw [keys]
  exact List.Nodup.sublist (List.filter_sublist.map _) distinct

end Catalog

namespace Package

variable {catalog : Catalog π} {name : String}

/-- Listing all names of a package asks for all that is defined in it. -/
theorem wanted_all (distinct : catalog.IsDistinct) (manifest : Manifest)
    (lists : manifest.components? = some ((catalog.definedIn name).map Factory.name)) :
    wanted catalog name manifest = catalog.definedIn name := by
  rw [wanted, lists]
  calc
    _ = (catalog.definedIn name).filterMap fun factory => catalog.findIn? name factory.name :=
      List.filterMap_map
    _ = (catalog.definedIn name).filterMap some :=
      List.filterMap_congr fun _ defined => distinct.findIn?_name defined
    _ = catalog.definedIn name := List.filterMap_some

/-- No name of a package is unknown. -/
theorem unknownFailures_all (manifest : Manifest)
    (lists : manifest.components? = some ((catalog.definedIn name).map Factory.name)) :
    unknownFailures catalog name manifest = [] := by
  rw [unknownFailures, lists, Option.getD_some, List.filterMap_eq_nil_iff]
  intro component listed
  obtain ⟨factory, defined, rfl⟩ := List.mem_map.mp listed
  cases found : catalog.find? factory.name with
  | some other => rfl
  | none =>
      have member := (Catalog.mem_definedIn_iff.mp defined).1
      exact absurd rfl (Catalog.find?_eq_none_iff.mp found factory member)

theorem map_name_madeComponents_sublist [Plugin π] (factories : List (Factory π)) :
    ((madeComponents factories).map Component.name).Sublist (factories.map Factory.name) := by
  induction factories with
  | nil => exact .slnil
  | cons factory rest ih =>
      obtain ⟨package, name, maker⟩ := factory
      cases maker with
      | ready plugin => exact ih.cons_cons name
      | parameterized parameters => exact ih.cons name

/-- Where no two factories share both their package and their name, a manifest that lists all
names its package defines, in the order of the catalog, asks for the same factories as one
without a list, and the same comes of it. No component takes the place of another. -/
theorem ofManifest_all_listed [Plugin π] (path : String) (manifest : Manifest)
    (catalog : Catalog π) (distinct : catalog.IsDistinct) :
    let name := manifest.resolvedName path
    let all := (catalog.definedIn name).map Factory.name
    let unlisted : Manifest := { manifest with components? := none }
    let listed : Manifest := { manifest with components? := some all }
    wanted catalog name unlisted = catalog.definedIn name ∧
      wanted catalog name listed = catalog.definedIn name ∧
      ofManifest path listed catalog = ofManifest path unlisted catalog ∧
      (ofManifest path unlisted catalog).1.components.entries =
        (madeComponents (catalog.definedIn name)).map fun component =>
          (component.name, component) := by
  intro name all unlisted listed
  have same_wanted : wanted catalog name listed = wanted catalog name unlisted :=
    wanted_all distinct listed rfl
  have same_unknown : unknownFailures catalog name listed = unknownFailures catalog name unlisted :=
    unknownFailures_all listed rfl
  refine ⟨rfl, same_wanted, ?_, ?_⟩
  · calc
      _ = ((ofName name manifest.doc?).addAll (madeComponents (wanted catalog name listed)),
            unknownFailures catalog name listed ++ makingFailures (wanted catalog name listed)) := rfl
      _ = ((ofName name manifest.doc?).addAll (madeComponents (wanted catalog name unlisted)),
            unknownFailures catalog name unlisted ++
              makingFailures (wanted catalog name unlisted)) := by
        rw [same_wanted, same_unknown]
      _ = _ := rfl
  · have names := (map_name_madeComponents_sublist (catalog.definedIn name)).nodup
      distinct.nodup_names
    rw [ofManifest_fst]
    refine OrderedMap.entries_ofList ?_
    rw [List.map_map]
    exact names

/-- Another package defines both names before the package itself does. -/
theorem ofManifest_all_listed_alpha :
    let manifest : Manifest := { doc? := some "letters" }
    let listed : Manifest := { manifest with components? := some ["Poll", "Needy", "Echo"] }
    let catalog : Catalog Builtin :=
      ⟨[⟨"beta", "Echo", .ready .info⟩, ⟨"alpha", "Poll", .ready .poll⟩,
        ⟨"beta", "Needy", .ready .utility⟩, ⟨"alpha", "Needy", .parameterized ["token"]⟩,
        ⟨"alpha", "Echo", .ready .echo⟩]⟩
    catalog.IsDistinct ∧ manifest.resolvedName "packages/alpha.json" = "alpha" ∧
      (ofManifest "packages/alpha.json" listed catalog =
        ofManifest "packages/alpha.json" manifest catalog) := by
  intro manifest listed catalog
  have distinct : catalog.IsDistinct := by decide
  have named : manifest.resolvedName "packages/alpha.json" = "alpha" := by decide
  obtain ⟨_, _, same, _⟩ := ofManifest_all_listed "packages/alpha.json" manifest catalog distinct
  refine ⟨distinct, named, ?_⟩
  rw [named] at same
  exact same

end Package

end ChatCommands
