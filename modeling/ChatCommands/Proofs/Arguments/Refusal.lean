/-
# When a call is refused

A call is refused for the keywords it gives that the command does not know; if there are
none, for values by position beyond the last parameter; and if there are none of these, for
the required parameters that nothing is given for. Every other call is bound.

Main statement: `bind_refuses_or_binds`. It says of every call which of the four comes about
and what the refusal or the arguments hold. The arguments are spelled out for commands whose
parameters have distinct names; where two parameters share a name, the later value counts.
-/

import ChatCommands.Proofs.Arguments.Binding

namespace ChatCommands

/-! ## Keywords of a command -/

namespace CommandSpec

variable {spec : CommandSpec} {name : String}

/-- The first parameter that is declared under the name takes a keyword. -/
def HasKeyword (spec : CommandSpec) (name : String) : Prop :=
  ∃ parameter earlier later, spec.parameters = earlier ++ parameter :: later ∧
    parameter.name = name ∧ parameter.kind.isKeyword = true ∧
    ∀ other ∈ earlier, other.name ≠ name

theorem acceptsKeyword_iff_hasKeyword : spec.acceptsKeyword name = true ↔ spec.HasKeyword name := by
  constructor
  · intro accepted
    rw [acceptsKeyword] at accepted
    split at accepted
    · next parameter found =>
      rw [parameter?, List.find?_eq_some_iff_append] at found
      obtain ⟨named, earlier, later, declared, before⟩ := found
      refine ⟨parameter, earlier, later, declared, beq_iff_eq.mp named, accepted, ?_⟩
      intro other member same
      simpa [same] using before other member
    · cases accepted
  · rintro ⟨parameter, earlier, later, declared, named, keyword, before⟩
    have found : spec.parameter? name = some parameter := by
      rw [parameter?, List.find?_eq_some_iff_append]
      refine ⟨beq_iff_eq.mpr named, earlier, later, declared, ?_⟩
      intro other member
      simpa using before other member
    rw [acceptsKeyword, found]
    exact keyword

instance : Decidable (spec.HasKeyword name) := decidable_of_iff _ acceptsKeyword_iff_hasKeyword

end CommandSpec

namespace Binding

variable {π : Type} {spec : CommandSpec} {positional : List (ArgumentValue π)}
  {keywords : OrderedMap String String} {services : Capabilities π} {parameter : Parameter}

/-! ## What is given for a parameter -/

/-- A parameter the call cannot do without is given nothing: neither a keyword, if it takes
one, nor a service, if it asks for one. -/
structure Lacks (keywords : OrderedMap String String) (services : Capabilities π)
    (parameter : Parameter) : Prop where
  required : parameter.requirement = .required
  noKeyword : parameter.kind.isKeyword = true → parameter.name ∉ keywords.keys
  noService : ∀ kind, parameter.kind = .capability kind → kind ∉ services.keys

/-- The value of a parameter that is given none by position: its keyword, else its service,
else the declared value. -/
def givenOrDeclared? (keywords : OrderedMap String String) (services : Capabilities π)
    (parameter : Parameter) : Option (ArgumentValue π) :=
  let keyword? := if parameter.kind.isKeyword then keywords.get? parameter.name else none
  let service? := parameter.kind.capability?.bind fun kind =>
    (services.get? kind).map (ArgumentValue.service kind)
  ((keyword?.map .text).or service?).or (parameter.default?.map .text)

theorem supplied?_eq_none_iff :
    supplied? keywords services parameter = none ↔
      (parameter.kind.isKeyword = true → parameter.name ∉ keywords.keys) ∧
      ∀ kind, parameter.kind = .capability kind → kind ∉ services.keys := by
  rw [supplied?]
  cases parameter.kind with
  | context => simp [ParameterKind.isKeyword]
  | capability kind => simp [ParameterKind.isKeyword, OrderedMap.get?_eq_none_iff]
  | text | integer | float | boolean =>
      simp [ParameterKind.isKeyword, OrderedMap.get?_eq_none_iff]

/-- The parameters that refuse a call are those that lack a value. -/
theorem isMissing_resolve_iff_lacks :
    (resolve keywords services parameter).isMissing = true ↔
      Lacks keywords services parameter := by
  rw [isMissing_resolve_iff, supplied?_eq_none_iff]
  exact ⟨fun ⟨⟨noKeyword, noService⟩, required⟩ => ⟨required, noKeyword, noService⟩,
    fun ⟨required, noKeyword, noService⟩ => ⟨⟨noKeyword, noService⟩, required⟩⟩

instance : Decidable (Lacks keywords services parameter) :=
  decidable_of_iff _ isMissing_resolve_iff_lacks

theorem value?_resolve_eq_givenOrDeclared? (keywords : OrderedMap String String)
    (services : Capabilities π) (parameter : Parameter) :
    (resolve keywords services parameter).value? =
      givenOrDeclared? keywords services parameter := by
  have declared : givenOrDeclared? keywords services parameter =
      (supplied? keywords services parameter).or (parameter.default?.map .text) := by
    rw [givenOrDeclared?, supplied?]
    cases parameter.kind with
    | context | capability | text | integer | float | boolean =>
        simp [ParameterKind.isKeyword, ParameterKind.capability?]
  rw [declared]
  cases supplied : supplied? keywords services parameter with
  | none => exact value?_resolve_of_not_supplied supplied
  | some value =>
      rw [resolve_of_supplied supplied]
      rfl

theorem unknownKeywords_eq_filter :
    unknownKeywords spec keywords = keywords.keys.filter fun name => ¬ spec.HasKeyword name := by
  rw [unknownKeywords]
  apply List.filter_congr
  intro name _
  rw [Bool.eq_iff_iff, Bool.not_eq_true', Bool.eq_false_iff, ne_eq,
    CommandSpec.acceptsKeyword_iff_hasKeyword, decide_eq_true_eq]

theorem missingNames_eq_filter (parameters : List Parameter) :
    missingNames keywords services parameters =
      (parameters.filter fun parameter => Lacks keywords services parameter).map
        Parameter.name := by
  rw [missingNames]
  congr 1
  apply List.filter_congr
  intro parameter _
  rw [Bool.eq_iff_iff, isMissing_resolve_iff_lacks, decide_eq_true_eq]

theorem resolvedValues_eq_filterMap (parameters : List Parameter) :
    resolvedValues keywords services parameters =
      parameters.filterMap fun parameter =>
        (givenOrDeclared? keywords services parameter).map fun value =>
          (parameter.name, value) := by
  apply List.filterMap_congr
  intro parameter _
  rw [value?_resolve_eq_givenOrDeclared?]

/-! ## The four cases -/

theorem unknownKeywords_eq_nil_iff_forall :
    unknownKeywords spec keywords = [] ↔ ∀ name ∈ keywords.keys, spec.HasKeyword name := by
  simp only [unknownKeywords_eq_nil_iff, CommandSpec.acceptsKeyword_iff_hasKeyword]

theorem bind_of_unknown (unknown : ¬ ∀ name ∈ keywords.keys, spec.HasKeyword name) :
    bind spec positional keywords services =
      .error (refusal spec
        (.unknown (keywords.keys.filter fun name => ¬ spec.HasKeyword name))) := by
  have someUnknown : unknownKeywords spec keywords ≠ [] :=
    mt unknownKeywords_eq_nil_iff_forall.mp unknown
  rw [← unknownKeywords_eq_filter]
  simp [bind, someUnknown]

theorem bind_of_tooMany (known : ∀ name ∈ keywords.keys, spec.HasKeyword name)
    (more : spec.parameters.length < positional.length) :
    bind spec positional keywords services =
      .error (refusal spec (.tooMany spec.parameters.length positional.length)) := by
  simp [bind, unknownKeywords_eq_nil_iff_forall.mpr known, more]

theorem bind_of_lacking (known : ∀ name ∈ keywords.keys, spec.HasKeyword name)
    (fits : positional.length ≤ spec.parameters.length)
    (lacking : (remainingParameters spec positional).filter
      (fun parameter => Lacks keywords services parameter) ≠ []) :
    bind spec positional keywords services =
      .error (refusal spec (.missing
        (((remainingParameters spec positional).filter fun parameter =>
          Lacks keywords services parameter).map Parameter.name))) := by
  have someMissing : missingNames keywords services (remainingParameters spec positional) ≠ [] := by
    rw [missingNames_eq_filter]
    exact mt List.map_eq_nil_iff.mp lacking
  rw [← missingNames_eq_filter]
  simp [bind, unknownKeywords_eq_nil_iff_forall.mpr known, Nat.not_lt.mpr fits, someMissing]

theorem bind_of_complete (known : ∀ name ∈ keywords.keys, spec.HasKeyword name)
    (fits : positional.length ≤ spec.parameters.length)
    (complete : (remainingParameters spec positional).filter
      (fun parameter => Lacks keywords services parameter) = []) :
    ∃ arguments, bind spec positional keywords services = .ok arguments ∧
      arguments.command = spec.name ∧
      (spec.parameterNames.Nodup → arguments.values.entries =
        spec.parameterNames.zip positional ++
          (remainingParameters spec positional).filterMap fun parameter =>
            (givenOrDeclared? keywords services parameter).map fun value =>
              (parameter.name, value)) := by
  have accepted := unknownKeywords_eq_nil_iff.mp (unknownKeywords_eq_nil_iff_forall.mpr known)
  have supplied : ∀ parameter ∈ remainingParameters spec positional,
      parameter.requirement = .required → supplied? keywords services parameter ≠ none := by
    apply missingNames_eq_nil_iff.mp
    rw [missingNames_eq_filter, complete, List.map_nil]
  refine ⟨_, bind_eq_ok accepted fits supplied, rfl, fun distinct => ?_⟩
  rw [entries_values_ofList distinct, resolvedValues_eq_filterMap, positionalValues]

/-- Every call is refused for the first of three reasons that applies to it, or bound. The
reasons are keywords that the command does not know, more values by position than it has
parameters, and parameters behind those values that lack one. Every refusal lists all
parameters of the command. The arguments of a bound call are, for distinct parameters and in
their order, the values given by position and what the other parameters are given or
declared to have. -/
theorem bind_refuses_or_binds (spec : CommandSpec) (positional : List (ArgumentValue π))
    (keywords : OrderedMap String String) (services : Capabilities π) :
    let bound := bind spec positional keywords services
    let refusedFor := fun issue =>
      bound = .error (.badArguments spec.name issue spec.parameterNames)
    let known := ∀ name ∈ keywords.keys, spec.HasKeyword name
    let fits := positional.length ≤ spec.parameters.length
    let later := spec.parameters.drop positional.length
    let lacking := later.filter fun parameter => Lacks keywords services parameter
    ((∃ names, refusedFor (.unknown names)) ↔ ¬ known) ∧
    (∀ names, refusedFor (.unknown names) →
      names = keywords.keys.filter fun name => ¬ spec.HasKeyword name) ∧
    ((∃ declared given, refusedFor (.tooMany declared given)) ↔ known ∧ ¬ fits) ∧
    (∀ declared given, refusedFor (.tooMany declared given) →
      declared = spec.parameters.length ∧ given = positional.length) ∧
    ((∃ names, refusedFor (.missing names)) ↔ known ∧ fits ∧ lacking ≠ []) ∧
    (∀ names, refusedFor (.missing names) → names = lacking.map Parameter.name) ∧
    ((∃ arguments, bound = .ok arguments) ↔ known ∧ fits ∧ lacking = []) ∧
    (∀ error, bound = .error error → ∃ issue, refusedFor issue) ∧
    (∀ arguments, bound = .ok arguments → spec.parameterNames.Nodup →
      arguments.command = spec.name ∧
      arguments.values.entries =
        spec.parameterNames.zip positional ++ later.filterMap fun parameter =>
          (givenOrDeclared? keywords services parameter).map fun value =>
            (parameter.name, value)) := by
  intro bound refusedFor known fits later lacking
  by_cases isKnown : known
  case neg =>
    have refused : bound = _ := bind_of_unknown isKnown
    simp [refusedFor, refused, refusal, isKnown]
  by_cases isFit : fits
  case neg =>
    have refused : bound = _ := bind_of_tooMany isKnown (Nat.lt_of_not_le isFit)
    simp [refusedFor, refused, refusal, isKnown, isFit]
  by_cases isComplete : lacking = []
  case neg =>
    have refused : bound = _ := bind_of_lacking isKnown isFit isComplete
    simp [refusedFor, refused, refusal, isKnown, isFit, isComplete, lacking, later,
      remainingParameters]
  obtain ⟨arguments, accepted, command, values⟩ := bind_of_complete isKnown isFit isComplete
  have accepted : bound = .ok arguments := accepted
  rw [remainingParameters] at values
  have described : spec.parameterNames.Nodup → _ ∧ _ :=
    fun distinct => ⟨command, values distinct⟩
  simpa [refusedFor, accepted, isKnown, isFit, isComplete, later] using described

end Binding

end ChatCommands
