/-
# What binding gives

A call is bound unless a keyword is unknown, too many values are given by position or a
required parameter gets none. The arguments then hold, in declaration order, the values
given by position and whatever the other parameters are resolved to.

If the parameters have distinct names, no value overwrites another one, and the first
declaration of a name, which decides whether it is a keyword, is the only one.
-/

import ChatCommands.Arguments.Binding
import ChatCommands.Proofs.OrderedMap
import Mathlib.Data.List.Nodup

namespace ChatCommands

/-! ## Keywords -/

namespace CommandSpec

variable {spec : CommandSpec}

theorem parameter?_of_mem (distinct : spec.parameterNames.Nodup) {parameter : Parameter}
    (declared : parameter ∈ spec.parameters) :
    spec.parameter? parameter.name = some parameter := by
  cases found : spec.parameter? parameter.name with
  | none =>
      rw [parameter?, List.find?_eq_none] at found
      exact absurd BEq.rfl (found parameter declared)
  | some other =>
      have named : other.name = parameter.name := by
        have matched := List.find?_some found
        exact beq_iff_eq.mp matched
      have listed : other ∈ spec.parameters := List.mem_of_find?_eq_some found
      rw [List.inj_on_of_nodup_map distinct listed declared named]

/-- A declared name is accepted as a keyword if its parameter is a keyword parameter. -/
theorem acceptsKeyword_of_mem (distinct : spec.parameterNames.Nodup) {parameter : Parameter}
    (declared : parameter ∈ spec.parameters) :
    spec.acceptsKeyword parameter.name = parameter.kind.isKeyword := by
  rw [acceptsKeyword, parameter?_of_mem distinct declared]

theorem acceptsKeyword_of_mem_keywordNames (distinct : spec.parameterNames.Nodup)
    {name : String} (keyword : name ∈ spec.keywordNames) : spec.acceptsKeyword name = true := by
  rw [keywordNames, List.mem_map] at keyword
  obtain ⟨parameter, member, rfl⟩ := keyword
  rw [keywordParameters, List.mem_filter] at member
  rw [acceptsKeyword_of_mem distinct member.1]
  exact member.2

end CommandSpec

namespace Binding

variable {π : Type} {spec : CommandSpec} {positional : List (ArgumentValue π)}
  {keywords : OrderedMap String String} {services : Capabilities π}

theorem unknownKeywords_eq_nil_iff :
    unknownKeywords spec keywords = [] ↔
      ∀ name ∈ keywords.keys, spec.acceptsKeyword name = true := by
  simp [unknownKeywords, List.filter_eq_nil_iff]

/-! ## Resolutions -/

theorem supplied?_of_isKeyword (keywords : OrderedMap String String)
    (services : Capabilities π) {parameter : Parameter}
    (keyword : parameter.kind.isKeyword = true) :
    supplied? keywords services parameter = (keywords.get? parameter.name).map .text := by
  rw [supplied?]
  split
  · next kind => rw [kind] at keyword; cases keyword
  · next kind => rw [kind] at keyword; cases keyword
  all_goals rfl

theorem supplied?_of_capability (keywords : OrderedMap String String)
    (services : Capabilities π) {parameter : Parameter} {kind : Capability}
    (asks : parameter.kind = .capability kind) :
    supplied? keywords services parameter = (services.get? kind).map (.service kind) := by
  rw [supplied?, asks]

theorem resolve_of_supplied {parameter : Parameter} {value : ArgumentValue π}
    (supplied : supplied? keywords services parameter = some value) :
    resolve keywords services parameter = .bound value := by
  rw [resolve, supplied]

/-- Without a supply the declaration decides. -/
theorem value?_resolve_of_not_supplied {parameter : Parameter}
    (unsupplied : supplied? keywords services parameter = none) :
    (resolve keywords services parameter).value? = parameter.default?.map .text := by
  rw [resolve, unsupplied, Parameter.default?]
  cases parameter.requirement <;> rfl

/-- A parameter is missing if it is required and nothing is supplied for it. -/
theorem isMissing_resolve_iff {parameter : Parameter} :
    (resolve keywords services parameter).isMissing = true ↔
      supplied? keywords services parameter = none ∧ parameter.requirement = .required := by
  rw [resolve]
  cases supplied? keywords services parameter <;> cases parameter.requirement <;>
    simp [Resolution.isMissing]

theorem missingNames_eq_nil_iff {parameters : List Parameter} :
    missingNames keywords services parameters = [] ↔
      ∀ parameter ∈ parameters, parameter.requirement = .required →
        supplied? keywords services parameter ≠ none := by
  rw [missingNames, List.map_eq_nil_iff, List.filter_eq_nil_iff]
  constructor
  · intro complete parameter member required unsupplied
    exact complete parameter member (isMissing_resolve_iff.mpr ⟨unsupplied, required⟩)
  · intro complete parameter member missing
    obtain ⟨unsupplied, required⟩ := isMissing_resolve_iff.mp missing
    exact complete parameter member required unsupplied

/-! ## Arguments -/

/-- A call is bound if all keywords are known, no more values are given by position than
there are parameters and every other required parameter is supplied. -/
theorem bind_eq_ok (known : ∀ name ∈ keywords.keys, spec.acceptsKeyword name = true)
    (fits : positional.length ≤ spec.parameters.length)
    (complete : ∀ parameter ∈ remainingParameters spec positional,
      parameter.requirement = .required → supplied? keywords services parameter ≠ none) :
    bind spec positional keywords services =
      .ok (Arguments.ofList spec.name
        (positionalValues spec positional ++
          resolvedValues keywords services (remainingParameters spec positional))) := by
  have notMore : ¬positional.length > spec.parameters.length := Nat.not_lt.mpr fits
  simp [bind, unknownKeywords_eq_nil_iff.mpr known, missingNames_eq_nil_iff.mpr complete, notMore]

/-- No call is bound to other arguments. -/
theorem eq_ofList_of_bind_eq_ok {arguments : Arguments π}
    (bound : bind spec positional keywords services = .ok arguments) :
    arguments = Arguments.ofList spec.name
      (positionalValues spec positional ++
        resolvedValues keywords services (remainingParameters spec positional)) := by
  unfold bind at bound
  dsimp only at bound
  split at bound
  · cases bound
  · split at bound
    · cases bound
    · split at bound
      · cases bound
      · exact (Except.ok.inj bound).symm

theorem map_fst_positionalValues :
    (positionalValues spec positional).map Prod.fst =
      spec.parameterNames.take positional.length := by
  rw [positionalValues]
  induction spec.parameterNames generalizing positional with
  | nil => simp
  | cons name rest ih => cases positional <;> simp [ih]

theorem map_fst_resolvedValues_sublist (parameters : List Parameter) :
    ((resolvedValues keywords services parameters).map Prod.fst).Sublist
      (parameters.map Parameter.name) := by
  induction parameters with
  | nil => exact .slnil
  | cons parameter rest ih =>
      rw [resolvedValues, List.filterMap_cons, List.map_cons]
      cases (resolve keywords services parameter).value? with
      | none => exact ih.cons _
      | some value => exact ih.cons_cons _

/-- With distinct parameter names the values of a call are kept as they are. -/
theorem entries_values_ofList (distinct : spec.parameterNames.Nodup) :
    (Arguments.ofList spec.name
        (positionalValues spec positional ++
          resolvedValues keywords services
            (remainingParameters spec positional))).values.entries =
      positionalValues spec positional ++
        resolvedValues keywords services (remainingParameters spec positional) := by
  apply OrderedMap.entries_ofList
  have within : ((resolvedValues keywords services
      (remainingParameters spec positional)).map Prod.fst).Sublist
        (spec.parameterNames.drop positional.length) := by
    rw [CommandSpec.parameterNames, ← List.map_drop]
    exact map_fst_resolvedValues_sublist _
  have all := (List.Sublist.refl (spec.parameterNames.take positional.length)).append within
  rw [List.take_append_drop] at all
  rw [List.map_append, map_fst_positionalValues]
  exact distinct.sublist all

end Binding

end ChatCommands
