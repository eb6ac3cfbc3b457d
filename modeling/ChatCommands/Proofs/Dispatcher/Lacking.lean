/-
# What a call can lack

A dispatcher hands the request over by position where the first parameter of a command takes
it, and it looks services up among its own before those of the host. Both are settled before
the call is bound. So of a call whose keywords are known it can be read off the command, the
names given and the kinds of service the host supplies whether it is refused, and for which
parameters.

Main statement: `bound_by_dispatcher`. Too many values by position are never the reason, the
parameters that lack a value are listed, and the services a command gets of the kinds the
dispatcher supplies itself are the dispatcher's own.
-/

import ChatCommands.Proofs.Arguments.Refusal
import ChatCommands.Proofs.Dispatcher.Stages
import ChatCommands.Script

namespace ChatCommands

/-! ## Services among the arguments -/

namespace Binding

variable {π : Type} {spec : CommandSpec} {positional : List (ArgumentValue π)}
  {keywords : OrderedMap String String} {services : Capabilities π} {parameter : Parameter}
  {name : String} {kind : Capability} {service : Service π}

theorem of_supplied?_eq_service
    (supplied : supplied? keywords services parameter = some (.service kind service)) :
    parameter.kind = .capability kind ∧ services.get? kind = some service := by
  rw [supplied?] at supplied
  split at supplied
  · cases supplied
  · next asked asks =>
    obtain ⟨found, shown, same⟩ := Option.map_eq_some_iff.mp supplied
    cases same
    exact ⟨asks, shown⟩
  all_goals
    obtain ⟨text, -, same⟩ := Option.map_eq_some_iff.mp supplied
    cases same

theorem supplied?_of_value?_resolve_eq_service
    (valued : (resolve keywords services parameter).value? = some (.service kind service)) :
    supplied? keywords services parameter = some (.service kind service) := by
  cases supplied : supplied? keywords services parameter with
  | none =>
      rw [value?_resolve_of_not_supplied supplied] at valued
      obtain ⟨text, -, same⟩ := Option.map_eq_some_iff.mp valued
      cases same
  | some value =>
      rw [resolve_of_supplied supplied] at valued
      exact valued

/-- A service among the arguments of a call is there for a parameter that asks for its kind,
and it is the one of that kind in the surroundings, unless it was given by position. -/
theorem exists_parameter_of_service {arguments : Arguments π}
    (bound : bind spec positional keywords services = .ok arguments)
    (notByPosition : .service kind service ∉ positional)
    (handed : (name, .service kind service) ∈ arguments.values.entries) :
    ∃ parameter ∈ spec.parameters, parameter.name = name ∧
      parameter.kind = .capability kind ∧ services.get? kind = some service := by
  rw [eq_ofList_of_bind_eq_ok bound, ← OrderedMap.get?_eq_some_iff] at handed
  rcases List.mem_append.mp (OrderedMap.mem_of_get?_ofList handed) with byPosition | resolved
  · exact absurd (List.of_mem_zip byPosition).2 notByPosition
  · obtain ⟨parameter, remaining, valued⟩ := List.mem_filterMap.mp resolved
    obtain ⟨value, value_eq, same⟩ := Option.map_eq_some_iff.mp valued
    cases same
    obtain ⟨asks, shown⟩ :=
      of_supplied?_eq_service (supplied?_of_value?_resolve_eq_service value_eq)
    exact ⟨parameter, List.mem_of_mem_drop remaining, rfl, asks, shown⟩

end Binding

namespace Dispatcher

variable {π : Type} {dispatcher : Dispatcher π} {keywords : OrderedMap String String}
  {spec : CommandSpec} {parameter : Parameter} {place : Nat}

/-! ## Parameters without a value -/

/-- A required parameter that a dispatcher has nothing for: one that takes the request behind
the first place, asks for an archive although the host supplies none, or takes a keyword that is
not given. -/
def LacksAt (dispatcher : Dispatcher π) (given : List String) (place : Nat)
    (parameter : Parameter) : Prop :=
  parameter.requirement = .required ∧
    (parameter.kind = .context ∧ place ≠ 0 ∨
      parameter.kind = .capability .archiver ∧ .archiver ∉ dispatcher.hostServices.keys ∨
      parameter.kind.isKeyword = true ∧ parameter.name ∉ given)

instance (dispatcher : Dispatcher π) (given : List String) (place : Nat)
    (parameter : Parameter) : Decidable (dispatcher.LacksAt given place parameter) :=
  inferInstanceAs (Decidable (_ ∧ _))

/-- The names of the parameters of a command that a dispatcher has nothing for, in declaration
order. -/
def lackingNames (dispatcher : Dispatcher π) (spec : CommandSpec) (given : List String) :
    List String :=
  (spec.parameters.zipIdx.filter fun (parameter, place) =>
    dispatcher.LacksAt given place parameter).map fun (parameter, _) => parameter.name

/-- Of the kinds of service only an archive can be missing, namely if the host has none. -/
theorem not_mem_keys_services_iff {message : Message} {kind : Capability} :
    kind ∉ (dispatcher.services message).keys ↔
      kind = .archiver ∧ .archiver ∉ dispatcher.hostServices.keys := by
  rw [← OrderedMap.get?_eq_none_iff, ← OrderedMap.get?_eq_none_iff, get?_services,
    Option.or_eq_none_iff]
  cases kind <;> simp [ownService?]

/-- Behind the first place, and there too if the parameter does not take the request, to lack
a value is to be given none by the keywords and the services of the dispatcher. -/
theorem lacksAt_iff_lacks (message : Message) (behind : parameter.kind = .context → place ≠ 0) :
    dispatcher.LacksAt keywords.keys place parameter ↔
      Binding.Lacks keywords (dispatcher.services message) parameter := by
  rw [← Binding.isMissing_resolve_iff_lacks, Binding.isMissing_resolve_iff,
    Binding.supplied?_eq_none_iff, LacksAt, and_comm]
  apply and_congr_left
  intro _
  cases kind : parameter.kind with
  | context => simp [ParameterKind.isKeyword, behind kind]
  | capability asked => simp [ParameterKind.isKeyword, not_mem_keys_services_iff]
  | text | integer | float | boolean => simp [ParameterKind.isKeyword]

/-- A test that does not depend on the places picks the same names with and without them. -/
theorem names_filter_zipIdx {parameters : List Parameter} {start : Nat}
    {test : Parameter × Nat → Bool} {keep : Parameter → Bool}
    (agree : ∀ placed ∈ parameters.zipIdx start, test placed = keep placed.1) :
    ((parameters.zipIdx start).filter test).map (fun (parameter, _) => parameter.name) =
      (parameters.filter keep).map Parameter.name := by
  have unplaced : parameters.filter keep =
      ((parameters.zipIdx start).filter fun placed => keep placed.1).map Prod.fst := by
    rw [← List.zipIdx_map_fst start parameters, List.filter_map, List.zipIdx_map_fst]
    rfl
  rw [List.filter_congr agree, unplaced, List.map_map]
  rfl

/-- The parameters that lack a value are those the binding finds missing behind the request. -/
theorem lackingNames_eq (request : Request) :
    dispatcher.lackingNames spec keywords.keys =
      ((Binding.remainingParameters spec (positional spec request : List (ArgumentValue π))).filter
        fun parameter => Binding.Lacks keywords (dispatcher.services request.message)
          parameter).map Parameter.name := by
  rw [lackingNames, Binding.remainingParameters, positional, CommandSpec.takesRequestFirst]
  cases spec.parameters with
  | nil => rfl
  | cons first rest =>
      by_cases context : first.kind = .context
      -- The first parameter has the request; the others are counted from the second place on.
      · have handed : dispatcher.LacksAt keywords.keys 0 first ↔ False := by
          simp [LacksAt, context, ParameterKind.isKeyword]
        rw [List.zipIdx_cons, List.filter_cons, if_neg (by simp [handed])]
        simp only [context, beq_self_eq_true, if_true, List.length_singleton, List.drop_one,
          List.tail_cons]
        apply names_filter_zipIdx
        intro placed member
        have behind : placed.2 ≠ 0 := Nat.ne_of_gt (List.le_snd_of_mem_zipIdx member)
        exact decide_eq_decide.mpr (lacksAt_iff_lacks request.message fun _ => behind)
      · have byName : (first.kind == .context) = false := beq_eq_false_iff_ne.mpr context
        simp only [byName, Bool.false_eq_true, if_false, List.length_nil, List.drop_zero]
        apply names_filter_zipIdx
        intro placed member
        refine decide_eq_decide.mpr (lacksAt_iff_lacks request.message fun isContext atFirst => ?_)
        have found := List.mem_zipIdx_iff_getElem?.mp member
        rw [atFirst, List.getElem?_cons_zero] at found
        exact context (Option.some.inj found ▸ isContext)

/-! ## Binding by a dispatcher -/

/-- At most the request is given by position, and only to a command that takes it. -/
theorem length_positional_le (spec : CommandSpec) (request : Request) :
    (positional spec request : List (ArgumentValue π)).length ≤ spec.parameters.length := by
  rw [positional, CommandSpec.takesRequestFirst]
  cases spec.parameters with
  | nil => exact Nat.zero_le _
  | cons first rest =>
      dsimp only
      split
      · exact Nat.succ_le_succ (Nat.zero_le rest.length)
      · exact Nat.zero_le _

theorem service_not_mem_positional (spec : CommandSpec) (request : Request) (kind : Capability)
    (service : Service π) : .service kind service ∉ positional spec request := by
  rw [positional]
  split <;> simp

theorem bindCall_of_bind_eq_error {registration : Registration π} {request : Request}
    {error : DispatchError}
    (refused : Binding.bind registration.command (positional registration.command request)
      keywords (dispatcher.services request.message) = .error error) :
    dispatcher.bindCall registration keywords request =
      .refused registration.command.name error registration.command.keywordNames := by
  simp only [bindCall, refused]

theorem bindCall_of_bind_eq_ok {registration : Registration π} {request : Request}
    {arguments : Arguments π}
    (bound : Binding.bind registration.command (positional registration.command request)
      keywords (dispatcher.services request.message) = .ok arguments) :
    dispatcher.bindCall registration keywords request = .ready ⟨registration, arguments⟩ := by
  simp only [bindCall, bound]

/-- A call whose keywords are known is refused for the parameters that lack a value, or else it
is ready to run. -/
theorem bindCall_of_known (dispatcher : Dispatcher π) {registration : Registration π}
    (request : Request)
    (known : ∀ name ∈ keywords.keys, registration.command.HasKeyword name) :
    let lacking := dispatcher.lackingNames registration.command keywords.keys
    (lacking ≠ [] →
      dispatcher.bindCall registration keywords request =
        .refused registration.command.name
          (.badArguments registration.command.name (.missing lacking)
            registration.command.parameterNames)
          registration.command.keywordNames) ∧
    (lacking = [] → ∃ call, dispatcher.bindCall registration keywords request = .ready call) := by
  intro lacking
  have fits := length_positional_le (π := π) registration.command request
  have lacking_eq : lacking = _ := lackingNames_eq request
  constructor
  · intro someLacking
    rw [lacking_eq, ne_eq, List.map_eq_nil_iff] at someLacking
    rw [bindCall_of_bind_eq_error (Binding.bind_of_lacking known fits someLacking), lacking_eq]
    rfl
  · intro noneLacking
    rw [lacking_eq, List.map_eq_nil_iff] at noneLacking
    obtain ⟨arguments, bound, -⟩ := Binding.bind_of_complete known fits noneLacking
    exact ⟨_, bindCall_of_bind_eq_ok bound⟩

/-- No binding by a dispatcher fails for too many values by position. -/
theorem bindCall_ne_tooMany (dispatcher : Dispatcher π) (registration : Registration π)
    (keywords : OrderedMap String String) (request : Request) {command name : String}
    {declared given : Nat} {valid candidates : List String} :
    dispatcher.bindCall registration keywords request ≠
      .refused command (.badArguments name (.tooMany declared given) valid) candidates := by
  intro refused
  by_cases known : ∀ name ∈ keywords.keys, registration.command.HasKeyword name
  · obtain ⟨someLacking, noneLacking⟩ := dispatcher.bindCall_of_known request known
    by_cases lacking : dispatcher.lackingNames registration.command keywords.keys = []
    · obtain ⟨call, ready⟩ := noneLacking lacking
      rw [ready] at refused
      cases refused
    · rw [someLacking lacking] at refused
      cases refused
  · rw [bindCall_of_bind_eq_error (Binding.bind_of_unknown known)] at refused
    cases refused

/-- What the binding of a message that has passed the limiter comes to. It never fails for too
many values by position. If all keywords are known, the parameters reported as missing are, in
declaration order, the required ones that take the request behind the first place, that ask for
an archive while the host supplies none, or whose keyword is not given; if there are none, the
call runs. A service that a command is called with stands for a parameter that asks for its
kind, and where the dispatcher supplies the kind itself it is the message, the settings, the
limiter or the packages of the dispatcher, whatever the host supplies. -/
theorem bound_by_dispatcher (dispatcher : Dispatcher π) (uptime : Int) (message : Message)
    (invocation : Invocation) (registration : Registration π)
    (parsed : dispatcher.grammar.parse message.content = .ok invocation)
    (found : dispatcher.snapshot.get invocation.command = .ok registration)
    (admitted : (dispatcher.limiter.check message.author message.time).1 = .admitted) :
    let spec := registration.command
    let admission := (dispatcher.consider uptime message).1
    let lacking := dispatcher.lackingNames spec invocation.keywords.keys
    (∀ command name declared given valid candidates, admission ≠
      .refused command (.badArguments name (.tooMany declared given) valid) candidates) ∧
    ((∀ name ∈ invocation.keywords.keys, spec.HasKeyword name) →
      (lacking ≠ [] → admission =
        .refused spec.name (.badArguments spec.name (.missing lacking) spec.parameterNames)
          spec.keywordNames) ∧
      (lacking = [] → ∃ call, admission = .ready call)) ∧
    ∀ call ∈ dispatcher.invocations uptime message, ∀ name kind service,
      (name, .service kind service) ∈ call.arguments.values.entries →
        (∃ parameter ∈ spec.parameters,
          parameter.name = name ∧ parameter.kind = .capability kind) ∧
        (kind = .currentMessage → service = .message message) ∧
        (kind = .settings → service = .settings dispatcher.settings) ∧
        (kind = .rateLimiter →
          service = .limiter (dispatcher.limiter.check message.author message.time).2) ∧
        (kind = .packages → service = .packages dispatcher.snapshot) := by
  intro spec admission lacking
  have considered := consider_of_admitted uptime parsed found admitted
  have admission_eq : admission = (dispatcher.asked message).bindCall registration
      invocation.keywords ⟨message, uptime⟩ := congrArg Prod.fst considered
  rw [admission_eq]
  refine ⟨?tooMany, (dispatcher.asked message).bindCall_of_known ⟨message, uptime⟩, ?services⟩
  case tooMany =>
    intro command name declared given valid candidates
    exact bindCall_ne_tooMany _ registration invocation.keywords ⟨message, uptime⟩
  case services =>
    intro call invoked name kind service handed
    obtain ⟨admitting, ready⟩ := mem_invocations_iff.mp invoked
    obtain ⟨read, readable, looked, -, rfl, bound⟩ := of_consider_eq_ready ready
    cases parsed.symm.trans readable
    cases found.symm.trans looked
    obtain ⟨parameter, declared, named, asks, shown⟩ := Binding.exists_parameter_of_service bound
      (service_not_mem_positional _ _ kind service) handed
    rw [get?_services] at shown
    refine ⟨⟨parameter, declared, named, asks⟩, ?_, ?_, ?_, ?_⟩
    all_goals
      rintro rfl
      exact (Option.some.inj shown).symm

/-- A message that reads as a call of a command that is found. -/
theorem exists_registration {message : Message} {command : String} {given : List String}
    (reads : (dispatcher.grammar.parse message.content).toOption.map
      (fun invocation => (invocation.command, invocation.keywords.keys)) = some (command, given))
    (finds : (dispatcher.snapshot.get command).toOption.map Registration.command = some spec) :
    ∃ invocation registration, dispatcher.grammar.parse message.content = .ok invocation ∧
      dispatcher.snapshot.get invocation.command = .ok registration ∧
      invocation.keywords.keys = given ∧ registration.command = spec := by
  cases parsed : dispatcher.grammar.parse message.content with
  | error error =>
      rw [parsed] at reads
      cases reads
  | ok invocation =>
      rw [parsed] at reads
      cases found : dispatcher.snapshot.get invocation.command with
      | error error =>
          cases reads
          rw [found] at finds
          cases finds
      | ok registration =>
          cases reads
          rw [found] at finds
          exact ⟨invocation, registration, rfl, found, rfl, Option.some.inj finds⟩

/-- A host that supplies settings and no archive. Its settings do not reach a command, and a
command that needs an archive, the request twice and a title is refused for all three. -/
theorem bound_by_dispatcher_host :
    let poll : CommandSpec :=
      { name := "poll"
        doc? := none
        parameters :=
          [.request "request", .service "archive" .archiver, .request "again",
            .requiredText "title", .optionalText "note", .service "settings" .settings] }
    let peek : CommandSpec :=
      { name := "peek", doc? := none, parameters := [.service "settings" .settings] }
    let component : Component Extension :=
      .ofPlugin "Polls"
        (.script { doc? := none, declarations := [(poll, .describe), (peek, .describe)] })
    let package := (Package.ofName "general" none).add component
    let dispatcher : Dispatcher Extension :=
      { Dispatcher.ofGrammar {} (Snapshot.empty.insert package) with
        hostServices := .ofList [(.settings, .text "host")] }
    let wrong : Message := ⟨"m1", "ann", "room", "/poll -note soon", 0⟩
    let right : Message := ⟨"m2", "ann", "room", "/peek", 0⟩
    (dispatcher.consider 0 wrong).1 =
        .refused "poll" (.badArguments "poll" (.missing ["archive", "again", "title"])
          poll.parameterNames) ["title", "note"] ∧
      ∃ call, dispatcher.invocations 0 right = [call] ∧
        call.arguments.description = "peek(settings=S:settings)" ∧
        ∀ service, ("settings", .service .settings service) ∈ call.arguments.values.entries →
          service = .settings dispatcher.settings := by
  intro poll peek component package dispatcher wrong right
  constructor
  · have reads : (dispatcher.grammar.parse wrong.content).toOption.map
        (fun invocation => (invocation.command, invocation.keywords.keys)) =
          some ("poll", ["note"]) := by decide +kernel
    have finds : (dispatcher.snapshot.get "poll").toOption.map Registration.command =
        some poll := by decide +kernel
    obtain ⟨invocation, registration, parsed, found, given, command⟩ :=
      exists_registration reads finds
    obtain ⟨-, missing, -⟩ := bound_by_dispatcher dispatcher 0 wrong invocation registration
      parsed found (by decide +kernel)
    rw [command, given] at missing
    have lacking : dispatcher.lackingNames poll ["note"] = ["archive", "again", "title"] := by
      decide +kernel
    have refused := (missing (by decide +kernel)).1 (by rw [lacking]; decide)
    rw [lacking] at refused
    exact refused
  · have reads : (dispatcher.grammar.parse right.content).toOption.map
        (fun invocation => (invocation.command, invocation.keywords.keys)) =
          some ("peek", []) := by decide +kernel
    have finds : (dispatcher.snapshot.get "peek").toOption.map Registration.command =
        some peek := by decide +kernel
    obtain ⟨invocation, registration, parsed, found, given, command⟩ :=
      exists_registration reads finds
    obtain ⟨-, missing, services⟩ := bound_by_dispatcher dispatcher 0 right invocation registration
      parsed found (by decide +kernel)
    rw [command, given] at missing
    obtain ⟨call, ready⟩ := (missing (by decide +kernel)).2 (by decide +kernel)
    have invoked : dispatcher.invocations 0 right = [call] := by
      rw [invocations, ready]
    have described : (dispatcher.invocations 0 right).map (fun call => call.arguments.description) =
        ["peek(settings=S:settings)"] := by decide +kernel
    rw [invoked] at described services
    refine ⟨call, invoked, List.head_eq_of_cons_eq described, fun service handed => ?_⟩
    exact (services call List.mem_cons_self "settings" .settings service handed).2.2.1 rfl

end Dispatcher

end ChatCommands
