/-
# Suggestions for names that are not found

A reply to a message whose command is not found may suggest a name that is indexed. The index
keeps the entries of packages that have been replaced since, so a suggested name need not be
found either. It is found exactly if its entry is up to date (`Snapshot.IsCurrent`), and every
name has such an entry as long as no two packages of one name have been inserted.

Main statement: `suggestion_found_iff`.
-/

import ChatCommands.Proofs.Dispatcher.Tasks
import ChatCommands.Proofs.Snapshot.History

namespace ChatCommands

variable {π : Type}

/-! ## What is suggested -/

theorem mem_of_nearest?_eq_some {distance : String → Nat} {names : List String} {nearest : String}
    (found : nearest? distance names = some nearest) : nearest ∈ names := by
  induction names generalizing nearest with
  | nil => cases found
  | cons candidate rest ih =>
      rw [nearest?] at found
      split at found
      · cases found
        exact List.mem_cons_self
      · next other later =>
        split at found
        · cases found
          exact List.mem_cons_self
        · cases found
          exact List.mem_cons_of_mem _ (ih later)

theorem mem_of_closest?_eq_some {name hit : String} {candidates : List String}
    (found : closest? name candidates = some hit) : hit ∈ candidates :=
  List.mem_of_mem_filter (mem_of_nearest?_eq_some found)

/-- A suggestion is one of the candidates. -/
theorem mem_of_lookupSuggestion?_eq_some {options : ReplyOptions} {missing name : String}
    (offered : lookupSuggestion? options missing =
      some ("Did you mean " ++ options.commandPrefix ++ name ++ "?")) :
    name ∈ options.candidates := by
  obtain ⟨hit, closest, same⟩ := Option.map_eq_some_iff.mp offered
  have hit_eq : hit = name := by
    have letters := congrArg String.toList same
    simp only [String.toList_append, List.append_cancel_left_eq,
      List.append_cancel_right_eq] at letters
    exact String.toList_inj.mp letters
  rw [← hit_eq]
  exact mem_of_closest?_eq_some closest

/-! ## Entries that are up to date -/

theorem Component.exposes_iff_exists {component : Component π} {name : String} :
    component.exposes name = true ↔ ∃ command, component.command? name = some command :=
  Option.isSome_iff_exists

namespace Snapshot

/-- The entry of a name is up to date after packages are inserted: the package that is held
under the name of the one that exposed the name last has a component of the name of the one
that did, and this component exposes the name. -/
def IsCurrent (packages : List (Package π)) (name : String) : Prop :=
  ∃ recorded recorder held component,
    lastExposing? packages name = some (recorded, recorder) ∧
    (packages.filter fun package => package.name = recorded.name).getLast? = some held ∧
    held.component? recorder.name = some component ∧ component.exposes name = true

/-- A name is found exactly if its entry is up to date. -/
theorem exists_get_insertAll_eq_ok_iff {packages : List (Package π)} {name : String} :
    (∃ found, ((empty : Snapshot π).insertAll packages).get name = .ok found) ↔
      IsCurrent packages name := by
  have held_eq := package?_insertAll packages
  have indexed := get?_index_insertAll packages name
  constructor
  · rintro ⟨found, success⟩
    obtain ⟨entry, entered, packaged, componentIs, declared⟩ := Snapshot.get_eq_ok success
    rw [indexed] at entered
    obtain ⟨⟨recorded, recorder⟩, last, rfl⟩ := Option.map_eq_some_iff.mp entered
    refine ⟨recorded, recorder, found.package, found.component, last, ?_, componentIs,
      Component.exposes_iff_exists.mpr ⟨_, declared⟩⟩
    rw [← held_eq]
    exact packaged
  · rintro ⟨recorded, recorder, held, component, last, heldIs, componentIs, exposed⟩
    obtain ⟨command, declared⟩ := Component.exposes_iff_exists.mp exposed
    rw [← held_eq] at heldIs
    rw [last, Option.map_some] at indexed
    refine ⟨⟨held, component, command⟩, ?_⟩
    rw [package?] at heldIs
    simp only [get, indexed, resolve, heldIs, componentIs, declared]

variable [Plugin π]

theorem isBuilt_of_mem_insertions {history : List (RegistryOperation π)}
    (added : ∀ package, .add package ∈ history → package.IsBuilt) :
    ∀ package ∈ insertions history, package.IsBuilt := by
  induction history using List.reverseRecOn with
  | nil => exact nofun
  | append_singleton history operation ih =>
      rw [insertions, List.foldl_append]
      cases operation with
      | add package =>
          intro other member
          rcases List.mem_append.mp member with earlier | last
          · exact ih (fun _ listed => added _ (List.mem_append_left _ listed)) other earlier
          · rw [List.mem_singleton.mp last]
            exact added package (List.mem_append_right _ List.mem_cons_self)
      | load files directory catalog =>
          exact isBuilt_of_mem_loadedPackages files directory catalog

/-- Where no package has replaced another one, all entries are up to date. -/
theorem isCurrent_of_nodup {packages : List (Package π)}
    (distinct : (packages.map Package.name).Nodup) (built : ∀ package ∈ packages, package.IsBuilt)
    {name : String} (exposed : ∃ package ∈ packages, package.exposes name = true) :
    IsCurrent packages name := by
  obtain ⟨⟨package, component⟩, last⟩ :=
    Option.isSome_iff_exists.mp (isSome_lastExposing?_iff.mpr exposed)
  obtain ⟨command, -, -, success⟩ := get_insertAll distinct built last
  exact exists_get_insertAll_eq_ok_iff.mp ⟨_, success⟩

end Snapshot

/-! ## Messages whose command is not found -/

namespace Dispatcher

/-- A command that runs and fails does so under its own title. -/
theorem title_of_conclude_eq_failed {dispatcher : Dispatcher π} {command : String}
    {elapsedMillis : Nat} {ending : Ending} {reply : ErrorReply}
    (failed : (dispatcher.conclude command elapsedMillis ending).1 = .failed reply) :
    reply.title = "CommandError" := by
  cases ending <;> cases failed <;> rfl

variable [Plugin π]

/-- A message whose command is not found fails with the error of the lookup. -/
theorem outcome_of_not_found {dispatcher : Dispatcher π} {clock : Clock} {message : Message}
    {command : String} {error : DispatchError}
    (read : (dispatcher.grammar.parse message.content).toOption.map Invocation.command =
      some command)
    (notFound : dispatcher.snapshot.get command = .error error) :
    (dispatcher.dispatch clock message).outcome =
      .failed (dispatcher.replyTo error dispatcher.snapshot.commandNames) := by
  have considered : dispatcher.consider clock.uptime message =
      (.refused command error dispatcher.snapshot.commandNames, dispatcher) := by
    cases parsed : dispatcher.grammar.parse message.content with
    | error _ =>
        rw [parsed] at read
        cases read
    | ok invocation =>
        rw [parsed] at read
        cases read
        simp only [consider, parsed, notFound]
  rw [dispatch, considered]

/-- A message whose command is found fails in other ways only, all of which have titles of
their own. -/
theorem title_of_found {dispatcher : Dispatcher π} {clock : Clock} {message : Message}
    {reply : ErrorReply} (resolves : dispatcher.Resolves message)
    (failed : (dispatcher.dispatch clock message).outcome = .failed reply) :
    reply.title ∈ ["RateLimitActive", "CommandSyntaxError", "CommandError"] := by
  cases said : (dispatcher.limiter.check message.author message.time).1 with
  | denied remaining =>
      obtain ⟨command, considered⟩ := consider_of_denied clock.uptime resolves said
      rw [dispatch, considered] at failed
      cases failed
      exact List.mem_cons_self
  | admitted =>
      obtain ⟨invocation, registration, parsed, found⟩ := resolves
      have considered := consider_of_admitted clock.uptime parsed found said
      obtain ⟨call, bound⟩ | ⟨command, issue, valid, candidates, bound⟩ :=
        (dispatcher.asked message).bindCall_eq_ready_or_refused registration invocation.keywords
          ⟨message, clock.uptime⟩
      · rw [bound] at considered
        rw [dispatch_of_ready considered] at failed
        rw [title_of_conclude_eq_failed failed]
        decide
      · rw [bound] at considered
        rw [dispatch, considered] at failed
        cases failed
        exact List.mem_cons_of_mem _ List.mem_cons_self

/-- A reply that tells of a name that is not found comes from the lookup of the command, and
its suggestion is drawn from the indexed names. -/
theorem exists_of_failed_lookup {dispatcher : Dispatcher π} {clock : Clock} {message : Message}
    {reply : ErrorReply}
    (failed : (dispatcher.dispatch clock message).outcome = .failed reply)
    (lookup : reply.title = "CommandLookupError" ∨ reply.title = "ComponentLookupError") :
    ∃ invocation error, dispatcher.grammar.parse message.content = .ok invocation ∧
      dispatcher.snapshot.get invocation.command = .error error ∧
      reply = dispatcher.replyTo error dispatcher.snapshot.commandNames := by
  cases parsed : dispatcher.grammar.parse message.content with
  | error error =>
      rw [outcome_eq_ignored_iff.mpr ⟨error, parsed⟩] at failed
      cases failed
  | ok invocation =>
      cases found : dispatcher.snapshot.get invocation.command with
      | error error =>
          rw [outcome_of_not_found (by rw [parsed]; rfl) found] at failed
          exact ⟨invocation, error, rfl, found, (Outcome.failed.inj failed).symm⟩
      | ok registration =>
          have other := title_of_found ⟨invocation, registration, parsed, found⟩ failed
          rcases lookup with title | title <;>
          · rw [title] at other
            exact absurd other (by decide)

/-- After any history of a registry, a name that is suggested where a command is not found is
exposed by one of the packages that were inserted. It is found itself exactly if its entry is
up to date, hence always if no package has replaced another one since the last load. -/
theorem suggestion_found_iff (history : List (RegistryOperation π))
    (added : ∀ package, .add package ∈ history → package.IsBuilt) (dispatcher : Dispatcher π)
    (held : dispatcher.snapshot = Snapshot.snapshotAfter history) (clock : Clock)
    (message : Message) (reply : ErrorReply)
    (failed : (dispatcher.dispatch clock message).outcome = .failed reply)
    (lookup : reply.title = "CommandLookupError" ∨ reply.title = "ComponentLookupError")
    (name : String)
    (offered : reply.suggestion? =
      some ("Did you mean " ++ dispatcher.grammar.commandPrefix ++ name ++ "?")) :
    (∃ package ∈ Snapshot.insertions history, package.exposes name = true) ∧
    ((∃ found, dispatcher.snapshot.get name = .ok found) ↔
      Snapshot.IsCurrent (Snapshot.insertions history) name) ∧
    (((Snapshot.insertions history).map Package.name).Nodup →
      ∃ found, dispatcher.snapshot.get name = .ok found) := by
  obtain ⟨invocation, error, -, -, rfl⟩ := exists_of_failed_lookup failed lookup
  have indexed : name ∈ dispatcher.snapshot.commandNames := by
    cases error with
    | commandLookup missing | componentLookup missing =>
        exact mem_of_lookupSuggestion?_eq_some offered
    | missingPrefix | badArguments | rateLimited | commandFailed | commandPanicked =>
        simp [replyTo, DispatchError.kind] at lookup
  rw [Snapshot.mem_commandNames] at indexed
  rw [held, Snapshot.snapshotAfter_eq_insertAll] at indexed ⊢
  have exposed := Snapshot.mem_keys_index_insertAll_iff.mp indexed
  refine ⟨exposed, Snapshot.exists_get_insertAll_eq_ok_iff, fun distinct => ?_⟩
  exact Snapshot.exists_get_insertAll_eq_ok_iff.mpr
    (Snapshot.isCurrent_of_nodup distinct (Snapshot.isBuilt_of_mem_insertions added) exposed)

/-- A package is replaced by another one that holds the same component: the entry of the name
is up to date, and the suggestion works. -/
theorem suggestion_found_iff_kept :
    let echo (doc? : Option String) : Package Builtin :=
      (Package.ofName "alpha" doc?).add (.ofPlugin "Echo" .echo)
    let history : List (RegistryOperation Builtin) :=
      [.add (echo none), .add (echo (some "Sayings."))]
    let dispatcher := ofGrammar {} (Snapshot.snapshotAfter history)
    let message : Message := ⟨"m1", "ann", "room", "/ehco", 0⟩
    let reply := dispatcher.replyTo (.commandLookup "ehco") dispatcher.snapshot.commandNames
    (∀ package, .add package ∈ history → package.IsBuilt) ∧
      (dispatcher.dispatch {} message).outcome = .failed reply ∧
      reply.suggestion? = some "Did you mean /echo?" ∧
      Snapshot.IsCurrent (Snapshot.insertions history) "echo" ∧
      ∃ found, dispatcher.snapshot.get "echo" = .ok found := by
  intro echo history dispatcher message reply
  have read : (dispatcher.grammar.parse message.content).toOption.map Invocation.command =
      some "ehco" := by decide +kernel
  have failed : (dispatcher.dispatch {} message).outcome = .failed reply :=
    outcome_of_not_found read rfl
  have names : dispatcher.snapshot.commandNames = ["echo"] := List.mergeSort_singleton _
  have offered : reply.suggestion? = some "Did you mean /echo?" := by
    show lookupSuggestion? _ _ = _
    rw [lookupSuggestion?, names]
    decide +kernel
  have added : ∀ package, .add package ∈ history → package.IsBuilt := by
    intro package member
    rcases List.mem_pair.mp member with same | same <;>
    · cases same
      exact .add (.ofName _ _) _ _
  obtain ⟨-, found_iff, -⟩ := suggestion_found_iff history added dispatcher rfl {} message reply
    failed (.inl rfl) "echo" offered
  have found : ∃ found, dispatcher.snapshot.get "echo" = .ok found := ⟨_, rfl⟩
  exact ⟨added, failed, offered, found_iff.mp found, found⟩

/-- After a package is replaced by an empty one, the name it exposed is still suggested, even
to someone who has just written it. -/
theorem not_forall_suggestion_found :
    ¬ ∀ (history : List (RegistryOperation Builtin)) (dispatcher : Dispatcher Builtin)
      (clock : Clock) (message : Message) (reply : ErrorReply) (name : String),
      (∀ package, .add package ∈ history → package.IsBuilt) →
      dispatcher.snapshot = Snapshot.snapshotAfter history →
      (dispatcher.dispatch clock message).outcome = .failed reply →
      (reply.title = "CommandLookupError" ∨ reply.title = "ComponentLookupError") →
      reply.suggestion? =
        some ("Did you mean " ++ dispatcher.grammar.commandPrefix ++ name ++ "?") →
      ∃ found, dispatcher.snapshot.get name = .ok found := by
  intro suggestionsWork
  let history : List (RegistryOperation Builtin) :=
    [.add ((Package.ofName "alpha" none).add (.ofPlugin "Echo" .echo)), .add (.ofName "alpha" none)]
  let dispatcher := ofGrammar {} (Snapshot.snapshotAfter history)
  let message : Message := ⟨"m1", "ann", "room", "/echo", 0⟩
  have added : ∀ package, .add package ∈ history → package.IsBuilt := by
    intro package member
    rcases List.mem_pair.mp member with same | same
    · cases same
      exact .add (.ofName _ _) _ _
    · cases same
      exact .ofName _ _
  have read : (dispatcher.grammar.parse message.content).toOption.map Invocation.command =
      some "echo" := by decide +kernel
  have notFound : dispatcher.snapshot.get "echo" = .error (.componentLookup "Echo") := rfl
  have names : dispatcher.snapshot.commandNames = ["echo"] := List.mergeSort_singleton _
  have offered : lookupSuggestion? ⟨false, "/", "-", dispatcher.snapshot.commandNames⟩ "Echo" =
      some "Did you mean /echo?" := by
    rw [names]
    decide +kernel
  obtain ⟨found, success⟩ := suggestionsWork history dispatcher {} message _ "echo" added rfl
    (outcome_of_not_found read notFound) (.inr rfl) offered
  rw [notFound] at success
  cases success

end Dispatcher

end ChatCommands
