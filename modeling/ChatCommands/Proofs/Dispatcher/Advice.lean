/-
# Advice on unknown keywords

A reply to unknown keywords offers names: for an unknown keyword the one that may be meant, and
a list of all that are valid. The names come from the keywords of the command. A command without
keywords leaves nothing to draw from; then all its parameters are taken instead, the request and
the services among them. So what is offered is right for every command with a keyword, and wrong
without exception for a command that has parameters but no keyword.

Main statement: `advice_on_unknown_keywords`.
-/

import ChatCommands.Builtin
import ChatCommands.Proofs.Dispatcher.Lacking
import ChatCommands.Proofs.Dispatcher.Suggestions

namespace ChatCommands

/-! ## What is offered -/

/-- What a reply to unknown keywords offers. -/
structure KeywordAdvice where
  /-- The unknown keywords that may be mistyped, each with the name that may be meant. -/
  meant : List (String × String)
  /-- The names that are listed as valid. -/
  listed : List String
deriving DecidableEq, Repr

namespace KeywordAdvice

/-- The advice that draws from a pool of names. -/
def ofPool (pool unknown : List String) : KeywordAdvice where
  meant := unknown.filterMap fun name => (closest? name pool).map fun hit => (name, hit)
  listed := pool

/-- All names that are offered. -/
def names (advice : KeywordAdvice) : List String := advice.meant.map Prod.snd ++ advice.listed

/-- The wording of an advice. -/
def text (mark : String) (advice : KeywordAdvice) : String :=
  let hints := advice.meant.map fun (name, hit) => mark ++ hit ++ " for " ++ mark ++ name
  let joined := String.intercalate ", " (advice.listed.map (mark ++ ·))
  let listed := if joined.isEmpty then "none" else joined
  if hints.isEmpty then "Valid parameters: " ++ listed
  else "Did you mean " ++ String.intercalate ", " hints ++ "? Valid parameters: " ++ listed

theorem mem_names_ofPool_iff {pool unknown : List String} {name : String} :
    name ∈ (ofPool pool unknown).names ↔ name ∈ pool := by
  rw [names, List.mem_append]
  constructor
  · rintro (hinted | listed)
    · obtain ⟨⟨_, _⟩, member, rfl⟩ := List.mem_map.mp hinted
      obtain ⟨_, -, found⟩ := List.mem_filterMap.mp member
      obtain ⟨hit, closest, same⟩ := Option.map_eq_some_iff.mp found
      cases same
      exact mem_of_closest?_eq_some closest
    · exact listed
  · exact .inr

end KeywordAdvice

theorem keywordSuggestion_eq_text (options : ReplyOptions) (unknown valid : List String) :
    keywordSuggestion options unknown valid =
      (KeywordAdvice.ofPool (keywordPool options valid) unknown).text options.parameterPrefix := by
  have hints : keywordHints options.parameterPrefix (keywordPool options valid) unknown =
      (KeywordAdvice.ofPool (keywordPool options valid) unknown).meant.map fun (name, hit) =>
        options.parameterPrefix ++ hit ++ " for " ++ options.parameterPrefix ++ name := by
    simp only [keywordHints, KeywordAdvice.ofPool, List.map_filterMap, Option.map_map]
    rfl
  rw [keywordSuggestion, hints]
  rfl

/-- The advice on unknown keywords of a command: it draws from the keywords of the command, or
from all its parameters if it has no keyword. -/
def CommandSpec.adviceOn (spec : CommandSpec) (unknown : List String) : KeywordAdvice :=
  .ofPool (if spec.keywordNames = [] then spec.parameterNames else spec.keywordNames) unknown

/-! ## What is reported as unknown -/

namespace CommandSpec

variable {spec : CommandSpec} {name : String}

theorem hasKeyword_of_mem_keywordNames (distinct : spec.parameterNames.Nodup)
    (keyword : name ∈ spec.keywordNames) : spec.HasKeyword name :=
  acceptsKeyword_iff_hasKeyword.mp (acceptsKeyword_of_mem_keywordNames distinct keyword)

theorem HasKeyword.mem_keywordNames (known : spec.HasKeyword name) :
    name ∈ spec.keywordNames := by
  obtain ⟨parameter, earlier, later, declared, rfl, keyword, -⟩ := known
  refine List.mem_map_of_mem (List.mem_filter.mpr ⟨?_, keyword⟩)
  rw [declared]
  exact List.mem_append_right earlier List.mem_cons_self

end CommandSpec

namespace Binding

variable {π : Type} {spec : CommandSpec} {positional : List (ArgumentValue π)}
  {keywords : OrderedMap String String} {services : Capabilities π} {name : String}

/-- A call is refused for unknown keywords, and the name is one of them. -/
def ReportsUnknown (spec : CommandSpec) (positional : List (ArgumentValue π))
    (keywords : OrderedMap String String) (services : Capabilities π) (name : String) : Prop :=
  ∃ names, bind spec positional keywords services =
    .error (.badArguments spec.name (.unknown names) spec.parameterNames) ∧ name ∈ names

theorem not_forall_hasKeyword_of_bind_eq_unknown {command : String} {names valid : List String}
    (refused : bind spec positional keywords services =
      .error (.badArguments command (.unknown names) valid)) :
    ¬∀ name ∈ keywords.keys, spec.HasKeyword name := by
  intro known
  by_cases fits : positional.length ≤ spec.parameters.length
  · by_cases complete : (remainingParameters spec positional).filter
        (fun parameter => Lacks keywords services parameter) = []
    · obtain ⟨arguments, bound, -⟩ := bind_of_complete known fits complete
      rw [bound] at refused
      cases refused
    · rw [bind_of_lacking known fits complete] at refused
      cases refused
  · rw [bind_of_tooMany known (Nat.lt_of_not_le fits)] at refused
    cases refused

/-- The keywords reported as unknown are those that are given and that the command does not
have. -/
theorem reportsUnknown_iff :
    ReportsUnknown spec positional keywords services name ↔
      name ∈ keywords.keys ∧ ¬spec.HasKeyword name := by
  have among : name ∈ (keywords.keys.filter fun name => ¬spec.HasKeyword name) ↔
      name ∈ keywords.keys ∧ ¬spec.HasKeyword name := by
    rw [List.mem_filter, decide_eq_true_eq]
  constructor
  · rintro ⟨names, refused, reported⟩
    rw [bind_of_unknown (not_forall_hasKeyword_of_bind_eq_unknown refused), refusal] at refused
    cases refused
    exact among.mp reported
  · rintro ⟨given, unknown⟩
    refine ⟨_, bind_of_unknown fun known => unknown (known name given), ?_⟩
    exact among.mpr ⟨given, unknown⟩

end Binding

/-! ## The reply -/

namespace Dispatcher

variable {π : Type} {dispatcher : Dispatcher π} {uptime : Int} {message : Message}
  {invocation : Invocation} {registration : Registration π}

/-- A call with unknown keywords is refused for them once it has passed the limiter. -/
theorem consider_of_unknown (uptime : Int)
    (parsed : dispatcher.grammar.parse message.content = .ok invocation)
    (found : dispatcher.snapshot.get invocation.command = .ok registration)
    (admitted : (dispatcher.limiter.check message.author message.time).1 = .admitted)
    (unknown : ¬∀ name ∈ invocation.keywords.keys, registration.command.HasKeyword name) :
    (dispatcher.consider uptime message).1 =
      .refused registration.command.name
        (.badArguments registration.command.name
          (.unknown (invocation.keywords.keys.filter fun name =>
            ¬registration.command.HasKeyword name))
          registration.command.parameterNames)
        registration.command.keywordNames := by
  rw [consider_of_admitted uptime parsed found admitted,
    bindCall_of_bind_eq_error (Binding.bind_of_unknown unknown)]
  rfl

theorem of_bindCall_eq_refused {keywords : OrderedMap String String} {request : Request}
    {command : String} {error : DispatchError} {candidates : List String}
    (refused : dispatcher.bindCall registration keywords request =
      .refused command error candidates) :
    Binding.bind registration.command (positional registration.command request) keywords
        (dispatcher.services request.message) = .error error ∧
      candidates = registration.command.keywordNames := by
  cases bound : Binding.bind registration.command (positional registration.command request)
      keywords (dispatcher.services request.message) with
  | error reason =>
      rw [bindCall_of_bind_eq_error bound] at refused
      cases refused
      exact ⟨rfl, rfl⟩
  | ok arguments =>
      rw [bindCall_of_bind_eq_ok bound] at refused
      cases refused

/-- A refusal for unknown keywords lists all parameters of the command, and suggestions are
drawn from its keywords. -/
theorem of_consider_eq_unknown
    (parsed : dispatcher.grammar.parse message.content = .ok invocation)
    (found : dispatcher.snapshot.get invocation.command = .ok registration)
    {command called : String} {unknown valid candidates : List String}
    (refused : (dispatcher.consider uptime message).1 =
      .refused command (.badArguments called (.unknown unknown) valid) candidates) :
    valid = registration.command.parameterNames ∧
      candidates = registration.command.keywordNames := by
  cases said : (dispatcher.limiter.check message.author message.time).1 with
  | denied remaining =>
      obtain ⟨command, considered⟩ :=
        consider_of_denied uptime ⟨invocation, registration, parsed, found⟩ said
      rw [considered] at refused
      cases refused
  | admitted =>
      rw [consider_of_admitted uptime parsed found said] at refused
      obtain ⟨bound, candidates_eq⟩ := of_bindCall_eq_refused refused
      rw [Binding.bind_of_unknown (Binding.not_forall_hasKeyword_of_bind_eq_unknown bound)] at bound
      cases bound
      exact ⟨rfl, candidates_eq⟩

theorem outcome_of_refused [Plugin π] {clock : Clock} {command : String} {error : DispatchError}
    {candidates : List String}
    (refused : (dispatcher.consider clock.uptime message).1 =
      .refused command error candidates) :
    (dispatcher.dispatch clock message).outcome =
      .failed (dispatcher.replyTo error candidates) := by
  obtain ⟨limiter, after⟩ := dispatcher.exists_snd_consider_eq clock.uptime message
  have considered : dispatcher.consider clock.uptime message =
      (.refused command error candidates, { dispatcher with limiter := limiter }) :=
    Prod.ext refused after
  rw [dispatch, considered]
  rfl

/-- The reply to unknown keywords words an advice. If the command has a keyword, no call is
refused because it gives a name that is offered. If it has none, all its parameters are listed,
and every call that gives a name that is offered is refused for it again. -/
theorem advice_on_unknown_keywords [Plugin π] (dispatcher : Dispatcher π) (clock : Clock)
    (message : Message) (invocation : Invocation) (registration : Registration π)
    (parsed : dispatcher.grammar.parse message.content = .ok invocation)
    (found : dispatcher.snapshot.get invocation.command = .ok registration)
    (distinct : registration.command.parameterNames.Nodup) (command called : String)
    (unknown valid candidates : List String)
    (refused : (dispatcher.consider clock.uptime message).1 =
      .refused command (.badArguments called (.unknown unknown) valid) candidates) :
    let spec := registration.command
    let advice := spec.adviceOn unknown
    ∃ reply, (dispatcher.dispatch clock message).outcome = .failed reply ∧
      reply.suggestion? = some (advice.text dispatcher.grammar.parameterPrefix) ∧
      (spec.keywordNames ≠ [] → ∀ name ∈ advice.names, ∀ (positional : List (ArgumentValue π))
        keywords services, ¬Binding.ReportsUnknown spec positional keywords services name) ∧
      (spec.keywordNames = [] → advice.listed = spec.parameterNames ∧
        ∀ name ∈ advice.names, ∀ (positional : List (ArgumentValue π)) keywords services,
          name ∈ keywords.keys →
            Binding.ReportsUnknown spec positional keywords services name) := by
  intro spec advice
  obtain ⟨rfl, rfl⟩ := of_consider_eq_unknown parsed found refused
  refine ⟨_, outcome_of_refused refused, ?worded, ?someKeyword, ?noKeyword⟩
  case worded =>
    refine (congrArg some (keywordSuggestion_eq_text _ _ _)).trans ?_
    simp only [keywordPool, List.isEmpty_iff]
    rfl
  case someKeyword =>
    intro someKeyword name offered positional keywords services reported
    have drawn := KeywordAdvice.mem_names_ofPool_iff.mp offered
    rw [if_neg someKeyword] at drawn
    exact (Binding.reportsUnknown_iff.mp reported).2
      (CommandSpec.hasKeyword_of_mem_keywordNames distinct drawn)
  case noKeyword =>
    intro noKeyword
    refine ⟨if_pos noKeyword, fun name _ positional keywords services given => ?_⟩
    refine Binding.reportsUnknown_iff.mpr ⟨given, fun known => ?_⟩
    have listed := known.mem_keywordNames
    rw [noKeyword] at listed
    cases listed

/-- A keyword of `help` is mistyped, and one of its services is given. The first is corrected,
the second is not offered. -/
theorem advice_on_unknown_keywords_help :
    let package := (Package.ofName "general" none).add (.ofPlugin "Info" Builtin.info)
    let dispatcher := ofGrammar {} (Snapshot.empty.insert package)
    let message : Message := ⟨"m1", "ann", "room", "/help -packge general -settings x", 0⟩
    let spec := Info.helpCommand
    spec.parameterNames.Nodup ∧ spec.keywordNames ≠ [] ∧
      (dispatcher.consider 0 message).1 =
        .refused "help" (.badArguments "help" (.unknown ["packge", "settings"])
          spec.parameterNames) spec.keywordNames ∧
      ∃ reply, (dispatcher.dispatch {} message).outcome = .failed reply ∧
        reply.suggestion? = some
          "Did you mean -package for -packge? Valid parameters: -package, -component" ∧
        ∀ name ∈ ["package", "component"], ∀ (positional : List (ArgumentValue Builtin))
          keywords services,
          ¬Binding.ReportsUnknown spec positional keywords services name := by
  intro package dispatcher message spec
  have reads : (dispatcher.grammar.parse message.content).toOption.map
      (fun invocation => (invocation.command, invocation.keywords.keys)) =
        some ("help", ["packge", "settings"]) := by decide +kernel
  have finds : (dispatcher.snapshot.get "help").toOption.map Registration.command = some spec := by
    decide +kernel
  obtain ⟨invocation, registration, parsed, found, given, command⟩ :=
    exists_registration reads finds
  have distinct : spec.parameterNames.Nodup := by decide +kernel
  have someKeyword : spec.keywordNames ≠ [] := by decide +kernel
  have refused := consider_of_unknown (({} : Clock).uptime) parsed found (by decide +kernel)
    (by rw [given, command]; decide +kernel)
  obtain ⟨reply, failed, worded, accepted, -⟩ := advice_on_unknown_keywords dispatcher {} message
    invocation registration parsed found (by rwa [command]) _ _ _ _ _ refused
  rw [given, command] at refused worded
  rw [command] at accepted
  refine ⟨distinct, someKeyword, refused, reply, failed, ?_, fun name offered => ?_⟩
  · rw [worded]
    decide +kernel
  · refine accepted someKeyword name ?_
    rw [CommandSpec.adviceOn, KeywordAdvice.mem_names_ofPool_iff, if_neg someKeyword]
    exact offered

/-- The command `about` takes the request and a service, and no keyword. A reply to an unknown
keyword offers both. -/
theorem not_forall_offered_known :
    ¬∀ (dispatcher : Dispatcher Builtin) (clock : Clock) (message : Message)
      (invocation : Invocation) (registration : Registration Builtin) (command called : String)
      (unknown valid candidates : List String) (reply : ErrorReply),
      dispatcher.grammar.parse message.content = .ok invocation →
      dispatcher.snapshot.get invocation.command = .ok registration →
      registration.command.parameterNames.Nodup →
      (dispatcher.consider clock.uptime message).1 =
        .refused command (.badArguments called (.unknown unknown) valid) candidates →
      (dispatcher.dispatch clock message).outcome = .failed reply →
      reply.suggestion? = some
        ((registration.command.adviceOn unknown).text dispatcher.grammar.parameterPrefix) →
      ∀ name ∈ (registration.command.adviceOn unknown).names,
        ∀ (positional : List (ArgumentValue Builtin)) keywords services,
          ¬Binding.ReportsUnknown registration.command positional keywords services name := by
  intro allKnown
  let package := (Package.ofName "general" none).add (.ofPlugin "Info" Builtin.info)
  let dispatcher := ofGrammar {} (Snapshot.empty.insert package)
  let message : Message := ⟨"m1", "ann", "room", "/about -packages x", 0⟩
  have reads : (dispatcher.grammar.parse message.content).toOption.map
      (fun invocation => (invocation.command, invocation.keywords.keys)) =
        some ("about", ["packages"]) := by decide +kernel
  have finds : (dispatcher.snapshot.get "about").toOption.map Registration.command =
      some Info.aboutCommand := by decide +kernel
  obtain ⟨invocation, registration, parsed, found, given, command⟩ :=
    exists_registration reads finds
  have refused := consider_of_unknown (({} : Clock).uptime) parsed found (by decide +kernel)
    (by rw [given, command]; decide +kernel)
  rw [given, command] at refused
  have known := allKnown dispatcher {} message invocation registration _ _ _ _ _ _ parsed found
    (by rw [command]; decide +kernel) refused (outcome_of_refused refused)
    (by rw [command]; decide +kernel)
    "packages" (by rw [command]; decide +kernel) [] (.ofList [("packages", "x")]) .empty
  rw [command] at known
  exact known (Binding.reportsUnknown_iff.mpr (by decide +kernel))

end Dispatcher

end ChatCommands
