/-
# A spelled-out call is answered

A command can be called by spelling out a value for each keyword that needs one, provided
that everything else it asks for comes from the dispatcher: its first parameter takes the
request, and each of the others is a keyword that can be written or a service the
dispatcher supplies itself. The command then runs once, with a value for every parameter
that has one to get and with no other values.

Nothing is said about commands that ask for the archive of the host, since the host need
not supply one.
-/

import ChatCommands.Proofs.Arguments.Binding
import ChatCommands.Proofs.Dispatcher.Stages
import ChatCommands.Proofs.Grammar.Line
import ChatCommands.Proofs.Snapshot.Built
import ChatCommands.Script

namespace ChatCommands

open Grammar (reduceMentions)
open Text (isSingleWord)

/-! ## Commands that can be called -/

/-- A parameter that is written as a keyword or supplied by the dispatcher. -/
inductive Parameter.IsProvided (parameter : Parameter) : Prop where
  | keyword (keyword : parameter.kind.isKeyword = true)
    (word : isSingleWord parameter.name = true)
  | service {kind : Capability} (asks : parameter.kind = .capability kind)
    (own : kind ≠ .archiver)

instance (parameter : Parameter) : Decidable parameter.IsProvided :=
  decidable_of_iff
    ((parameter.kind.isKeyword = true ∧ isSingleWord parameter.name = true) ∨
      parameter.kind.capability?.any (· != .archiver) = true) <| by
    constructor
    · rintro (⟨keyword, word⟩ | asks)
      · exact .keyword keyword word
      · obtain ⟨kind, found, own⟩ := (Option.any_eq_true _ _).mp asks
        unfold ParameterKind.capability? at found
        split at found
        · next kind asks =>
          cases found
          exact .service asks (bne_iff_ne.mp own)
        · cases found
    · rintro (⟨keyword, word⟩ | ⟨asks, own⟩)
      · exact .inl ⟨keyword, word⟩
      · rw [asks]
        exact .inr (bne_iff_ne.mpr own)

namespace CommandSpec

/-- A command that needs nothing but keywords, the request and the services of the
dispatcher. -/
structure IsCallable (spec : CommandSpec) : Prop where
  distinct : spec.parameterNames.Nodup
  requestFirst : spec.takesRequestFirst = true
  provided : ∀ parameter ∈ spec.parameters.tail, parameter.IsProvided

/-- Values for keywords of a command, among them all that are required. -/
structure IsCovered (spec : CommandSpec) (assignment : OrderedMap String String) : Prop where
  declared : ∀ name ∈ assignment.keys, name ∈ spec.keywordNames
  required : ∀ parameter ∈ spec.keywordParameters, parameter.requirement = .required →
    parameter.name ∈ assignment.keys

variable {spec : CommandSpec} {parameter : Parameter}

theorem parameters_eq_cons (requestFirst : spec.takesRequestFirst = true) :
    ∃ first rest, spec.parameters = first :: rest ∧ first.kind = .context := by
  unfold takesRequestFirst at requestFirst
  split at requestFirst
  · cases requestFirst
  · next first rest declared => exact ⟨first, rest, declared, beq_iff_eq.mp requestFirst⟩

/-- The request is no keyword, so the keywords are among the later parameters. -/
theorem mem_tail_of_isKeyword (requestFirst : spec.takesRequestFirst = true)
    (declared : parameter ∈ spec.parameters) (keyword : parameter.kind.isKeyword = true) :
    parameter ∈ spec.parameters.tail := by
  obtain ⟨first, rest, parameters, context⟩ := parameters_eq_cons requestFirst
  rw [parameters] at declared ⊢
  rcases List.mem_cons.mp declared with rfl | later
  · rw [context] at keyword
    cases keyword
  · exact later

end CommandSpec

/-- Every keyword of a command that can be called can be written. -/
theorem CommandSpec.IsCallable.isSingleWord {spec : CommandSpec} (callable : spec.IsCallable)
    {name : String} (keyword : name ∈ spec.keywordNames) : Text.isSingleWord name = true := by
  rw [keywordNames, List.mem_map] at keyword
  obtain ⟨parameter, member, rfl⟩ := keyword
  rw [keywordParameters, List.mem_filter] at member
  have later := mem_tail_of_isKeyword callable.requestFirst member.1 member.2
  cases callable.provided parameter later with
  | keyword _ word => exact word
  | service asks _ =>
      have keyword := member.2
      rw [asks] at keyword
      cases keyword

namespace Dispatcher

variable {π : Type} {dispatcher : Dispatcher π} {registration : Registration π}
  {assignment : OrderedMap String String}

/-! ## What a command is called with -/

/-- The value a parameter gets: the request, a service of the dispatcher, or the value of
the keyword with its mentions reduced, in place of which the declared one is used if the
keyword is not given. -/
def value? (dispatcher : Dispatcher π) (request : Request)
    (assignment : OrderedMap String String) (parameter : Parameter) : Option (ArgumentValue π) :=
  match parameter.kind with
  | .context => some (.request request)
  | .capability kind => (dispatcher.ownService? request.message kind).map (.service kind)
  | .text | .integer | .float | .boolean =>
    (((assignment.get? parameter.name).map reduceMentions).or parameter.default?).map .text

/-- The values of the parameters of a command that get one, in declaration order. -/
def valuesOf (dispatcher : Dispatcher π) (request : Request)
    (assignment : OrderedMap String String) (command : CommandSpec) :
    List (String × ArgumentValue π) :=
  command.parameters.filterMap fun parameter =>
    (dispatcher.value? request assignment parameter).map fun value => (parameter.name, value)

theorem value?_of_isKeyword {request : Request} {parameter : Parameter}
    (keyword : parameter.kind.isKeyword = true) :
    dispatcher.value? request assignment parameter =
      (((assignment.get? parameter.name).map reduceMentions).or parameter.default?).map .text := by
  rw [value?]
  split
  · next kind => rw [kind] at keyword; cases keyword
  · next kind => rw [kind] at keyword; cases keyword
  all_goals rfl

/-- The services of a dispatch are those the dispatcher supplies itself, as far as it does. -/
theorem get?_services_of_ne (dispatcher : Dispatcher π) (message : Message) {kind : Capability}
    (own : kind ≠ .archiver) : ∃ service, dispatcher.ownService? message kind = some service ∧
      (dispatcher.services message).get? kind = some service := by
  obtain ⟨service, supplied⟩ := Option.isSome_iff_exists.mp (isSome_ownService?_iff.mpr own)
  exact ⟨service, supplied, by rw [get?_services, supplied]; rfl⟩

/-- A provided parameter is resolved to the value it gets. -/
theorem value?_resolve (dispatcher : Dispatcher π) (request : Request) {parameter : Parameter}
    (provided : parameter.IsProvided) :
    (Binding.resolve (assignment.mapValues reduceMentions) (dispatcher.services request.message)
      parameter).value? = dispatcher.value? request assignment parameter := by
  cases provided with
  | keyword keyword _ =>
      rw [value?_of_isKeyword keyword]
      have supplied := Binding.supplied?_of_isKeyword (assignment.mapValues reduceMentions)
        (dispatcher.services request.message) keyword
      rw [OrderedMap.get?_mapValues] at supplied
      cases given : assignment.get? parameter.name with
      | none =>
          rw [given] at supplied
          rw [Binding.value?_resolve_of_not_supplied supplied]
          rfl
      | some value =>
          rw [given] at supplied
          rw [Binding.resolve_of_supplied supplied]
          rfl
  | service asks own =>
      obtain ⟨service, mine, shown⟩ := dispatcher.get?_services_of_ne request.message own
      have supplied := Binding.supplied?_of_capability (assignment.mapValues reduceMentions)
        (dispatcher.services request.message) asks
      rw [shown] at supplied
      rw [Binding.resolve_of_supplied supplied, value?, asks]
      simp only [mine]
      rfl

/-- A provided parameter is supplied, if its keyword is given in case it has one. -/
theorem supplied?_ne_none (dispatcher : Dispatcher π) (message : Message) {parameter : Parameter}
    (provided : parameter.IsProvided)
    (given : parameter.kind.isKeyword = true → parameter.name ∈ assignment.keys) :
    Binding.supplied? (assignment.mapValues reduceMentions) (dispatcher.services message)
      parameter ≠ none := by
  cases provided with
  | keyword keyword _ =>
      rw [Binding.supplied?_of_isKeyword _ _ keyword, ne_eq, Option.map_eq_none_iff,
        OrderedMap.get?_eq_none_iff, OrderedMap.keys_mapValues, Classical.not_not]
      exact given keyword
  | service asks own =>
      obtain ⟨service, -, shown⟩ := dispatcher.get?_services_of_ne message own
      rw [Binding.supplied?_of_capability _ _ asks, shown]
      exact Option.some_ne_none _

theorem resolvedValues_eq_filterMap (dispatcher : Dispatcher π) (request : Request)
    {parameters : List Parameter} (provided : ∀ parameter ∈ parameters, parameter.IsProvided) :
    Binding.resolvedValues (assignment.mapValues reduceMentions)
        (dispatcher.services request.message) parameters =
      parameters.filterMap fun parameter =>
        (dispatcher.value? request assignment parameter).map fun value =>
          (parameter.name, value) := by
  apply List.filterMap_congr
  intro parameter member
  rw [dispatcher.value?_resolve request (provided parameter member)]

/-- The request comes first, and the other values are what their parameters get. -/
theorem valuesOf_eq_append (dispatcher : Dispatcher π) (request : Request) {spec : CommandSpec}
    (callable : spec.IsCallable) :
    dispatcher.valuesOf request assignment spec =
      Binding.positionalValues spec [.request request] ++
        Binding.resolvedValues (assignment.mapValues reduceMentions)
          (dispatcher.services request.message) spec.parameters.tail := by
  obtain ⟨first, rest, parameters, context⟩ :=
    CommandSpec.parameters_eq_cons callable.requestFirst
  have atFirst : dispatcher.value? request assignment first = some (.request request) := by
    rw [value?, context]
  rw [dispatcher.resolvedValues_eq_filterMap request callable.provided, valuesOf,
    Binding.positionalValues, CommandSpec.parameterNames, parameters, List.filterMap_cons, atFirst,
    List.map_cons, List.zip_cons_cons, List.zip_nil_right]
  rfl

/-- A call that spells out its keywords is bound. -/
theorem bindCall_eq_ready (dispatcher : Dispatcher π) (request : Request)
    (callable : registration.command.IsCallable)
    (covered : registration.command.IsCovered assignment) :
    ∃ arguments : Arguments π,
      arguments.command = registration.command.name ∧
      arguments.values.entries =
        dispatcher.valuesOf request assignment registration.command ∧
      dispatcher.bindCall registration (assignment.mapValues reduceMentions) request =
        .ready ⟨registration, arguments⟩ := by
  have byPosition : positional registration.command request =
      ([.request request] : List (ArgumentValue π)) := by
    rw [positional, if_pos callable.requestFirst]
  have known : ∀ name ∈ (assignment.mapValues reduceMentions).keys,
      registration.command.acceptsKeyword name = true := by
    intro name given
    rw [OrderedMap.keys_mapValues] at given
    exact CommandSpec.acceptsKeyword_of_mem_keywordNames callable.distinct
      (covered.declared name given)
  have fits : ([.request request] : List (ArgumentValue π)).length ≤
      registration.command.parameters.length := by
    obtain ⟨first, rest, parameters, -⟩ :=
      CommandSpec.parameters_eq_cons callable.requestFirst
    rw [parameters]
    exact Nat.succ_le_succ (Nat.zero_le rest.length)
  have remaining : Binding.remainingParameters registration.command
      ([.request request] : List (ArgumentValue π)) = registration.command.parameters.tail :=
    List.drop_one
  have complete : ∀ parameter ∈ registration.command.parameters.tail,
      parameter.requirement = .required →
        Binding.supplied? (assignment.mapValues reduceMentions)
          (dispatcher.services request.message) parameter ≠ none := by
    intro parameter later required
    apply dispatcher.supplied?_ne_none request.message (callable.provided parameter later)
    intro keyword
    apply covered.required parameter _ required
    exact List.mem_filter.mpr ⟨List.mem_of_mem_tail later, keyword⟩
  have bound := Binding.bind_eq_ok known fits (by rwa [remaining])
  refine ⟨_, rfl, ?_, by rw [bindCall, byPosition, bound]⟩
  rw [Binding.entries_values_ofList callable.distinct, remaining,
    dispatcher.valuesOf_eq_append request callable]

/-! ## Dispatching the line -/

/-- The line that spells out a call of a command runs the command once, with the values its
parameters get: the component is invoked with them, how its body ends is what becomes of the
message, and the verbosity it has set is kept. -/
theorem dispatch_line [Plugin π] (dispatcher : Dispatcher π) (clock : Clock) (message : Message)
    (command : String) (registration : Registration π) (assignment : OrderedMap String String)
    (standard : dispatcher.grammar.IsStandard)
    (admitted : (dispatcher.limiter.check message.author message.time).1 = .admitted)
    (built : dispatcher.snapshot.IsBuilt)
    (found : dispatcher.snapshot.get command = .ok registration)
    (notShortcut : dispatcher.grammar.shortcut? command = none)
    (callable : registration.command.IsCallable)
    (covered : registration.command.IsCovered assignment)
    (canWrite : dispatcher.grammar.CanWrite assignment)
    (line : message.content = dispatcher.grammar.line command assignment) :
    ∃ arguments : Arguments π,
      arguments.command = command ∧
      arguments.values.entries =
        (dispatcher.asked message).valuesOf ⟨message, clock.uptime⟩ assignment
          registration.command ∧
      dispatcher.invocations clock.uptime message = [⟨registration, arguments⟩] ∧
      dispatcher.dispatch clock message =
        (dispatcher.asked message).answer clock message ⟨registration, arguments⟩ ∧
      let reaction := Plugin.invoke registration.component.plugin command arguments
      let after := (dispatcher.asked message).setVerbose reaction.verbose?
      (dispatcher.dispatch clock message).outcome = after.outcomeOf command reaction.ending ∧
        (dispatcher.dispatch clock message).after = after := by
  -- A command that is found has a word for its name, so the line is read as a call of it.
  obtain ⟨-, named, exposed⟩ := built.get_eq_ok found
  rw [isExposedName, Bool.and_eq_true] at exposed
  have parsed : dispatcher.grammar.parse message.content =
      .ok ⟨command, assignment.mapValues reduceMentions⟩ := by
    rw [line]
    exact Grammar.parse_line standard exposed.1 notShortcut
      (fun name given => callable.isSingleWord (covered.declared name given)) canWrite
  obtain ⟨arguments, ofCommand, values, bound⟩ :=
    (dispatcher.asked message).bindCall_eq_ready ⟨message, clock.uptime⟩ callable covered
  have considered := consider_of_admitted clock.uptime parsed found admitted
  rw [bound] at considered
  have answered : dispatcher.dispatch clock message = _ := dispatch_of_ready considered
  have invoked :=
    (dispatcher.asked message).answer_invokes clock message ⟨registration, arguments⟩
  rw [← answered] at invoked
  simp only [named] at invoked
  exact ⟨arguments, ofCommand.trans named, values, invocations_of_ready considered, answered,
    invoked⟩

/-- A keyword with its mention reduced, a declared value, a keyword that is left out, and a
service of the dispatcher although the host supplies one of the kind. The command says what it
was called with. -/
theorem dispatch_line_poll :
    let spec : CommandSpec :=
      { name := "poll"
        doc? := none
        parameters :=
          [.request "request", .requiredText "title", ⟨"limit", .integer, .default "3"⟩,
            .optionalText "note", .service "settings" .settings] }
    let component : Component Extension :=
      .ofPlugin "Polls" (.script { doc? := none, declarations := [(spec, .describe)] })
    let package := (Package.ofName "general" none).add component
    let dispatcher : Dispatcher Extension :=
      { Dispatcher.ofGrammar {} (Snapshot.empty.insert package) with
        hostServices := .ofList [(.settings, .text "host")] }
    let assignment : OrderedMap String String := .ofList [("title", "who - <@!12>?")]
    let message : Message := ⟨"m1", "ann", "room", "/poll -title who - <@!12>?", 0⟩
    dispatcher.grammar.IsStandard ∧
      (dispatcher.limiter.check message.author message.time).1 = .admitted ∧
      dispatcher.snapshot.IsBuilt ∧
      (dispatcher.snapshot.get "poll").toOption.map Registration.command = some spec ∧
      dispatcher.grammar.shortcut? "poll" = none ∧
      spec.IsCallable ∧ spec.IsCovered assignment ∧ dispatcher.grammar.CanWrite assignment ∧
      message.content = dispatcher.grammar.line "poll" assignment ∧
      (dispatcher.invocations 0 message).map (fun call => call.arguments.description) =
        ["poll(request=C:m1|title=T:who - 12?|limit=T:3|settings=S:settings)"] ∧
      (dispatcher.dispatch {} message).outcome = .replied
        (.text "poll(request=C:m1|title=T:who - 12?|limit=T:3|settings=S:settings)") := by
  intro spec component package dispatcher assignment message
  have standard : dispatcher.grammar.IsStandard := ⟨by decide +kernel, by decide +kernel, rfl⟩
  have admitted : (dispatcher.limiter.check message.author message.time).1 = .admitted := rfl
  have built : dispatcher.snapshot.IsBuilt := .insert .empty (.add (.ofName _ _) _ _)
  have lookup : (dispatcher.snapshot.get "poll").toOption.map Registration.command =
      some spec := by decide +kernel
  have described : (dispatcher.snapshot.get "poll").toOption.map
      (fun found => found.component.plugin) =
        some (.script { doc? := none, declarations := [(spec, .describe)] }) := by
    decide +kernel
  have notShortcut : dispatcher.grammar.shortcut? "poll" = none := rfl
  have callable : spec.IsCallable := ⟨by decide +kernel, by decide +kernel, by decide +kernel⟩
  have covered : spec.IsCovered assignment := ⟨by decide +kernel, by decide +kernel⟩
  have canWrite : dispatcher.grammar.CanWrite assignment :=
    ⟨by decide +kernel, by decide +kernel, by decide +kernel⟩
  have line : message.content = dispatcher.grammar.line "poll" assignment := by decide +kernel
  refine ⟨standard, admitted, built, lookup, notShortcut, callable, covered, canWrite, line, ?_⟩
  cases found : dispatcher.snapshot.get "poll" with
  | error error =>
      rw [found] at lookup
      cases lookup
  | ok registration =>
      rw [found] at lookup described
      have command : registration.command = spec := Option.some.inj lookup
      obtain ⟨arguments, ofCommand, values, invoked, -, outcome, -⟩ :=
        dispatch_line dispatcher {} message "poll" registration assignment standard admitted
          built found notShortcut (by rwa [command]) (by rwa [command]) canWrite line
      rw [command] at values
      have description : arguments.description =
          "poll(request=C:m1|title=T:who - 12?|limit=T:3|settings=S:settings)" := by
        rw [Arguments.description, ofCommand, values]
        decide +kernel
      have plugin : registration.component.plugin =
          .script { doc? := none, declarations := [(spec, .describe)] } :=
        Option.some.inj described
      have said : Plugin.invoke registration.component.plugin "poll" arguments =
          .say arguments.description := by
        rw [plugin]
        rfl
      refine ⟨by rw [invoked, List.map_cons, List.map_nil, description], ?_⟩
      rw [outcome, said, ← description]
      rfl

end Dispatcher

end ChatCommands
