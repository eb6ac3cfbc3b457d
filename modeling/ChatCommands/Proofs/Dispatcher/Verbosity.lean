/-
# Who changes the verbosity

With the built-in components only two commands change the verbosity of error replies, and
with an owner only the owner's calls of them do. A message that is turned away before a
command runs changes nothing, and neither does any other command, however it ends. Hence the
verbosity after any number of messages is what the last switch of the owner has made it.

The grammar with its shortcuts, the limiter and the services of the host are left open: a
switch is handed the settings of the dispatcher, whatever the host supplies.

Main statement: `verbose_afterAll`.
-/

import ChatCommands.Builtin
import ChatCommands.Proofs.Arguments.Binding
import ChatCommands.Proofs.Dispatcher.Stages
import ChatCommands.Proofs.Snapshot.Built

namespace ChatCommands

variable {π : Type}

/-! ## Bodies that leave the verbosity alone -/

namespace Reaction

@[simp] theorem verbose?_say (text : String) : (say text).verbose? = none := rfl

theorem verbose?_withValue {α : Type} {value : Except ArgumentError α} {next : α → Reaction}
    (quiet : ∀ found, (next found).verbose? = none) : (withValue value next).verbose? = none := by
  cases value with
  | ok found => exact quiet found
  | error error => rfl

end Reaction

open Reaction (verbose?_withValue)

theorem Echo.verbose?_invoke (command : String) (arguments : Arguments π) :
    (Echo.invoke command arguments).verbose? = none :=
  verbose?_withValue Reaction.verbose?_say

theorem Info.verbose?_invoke (command : String) (arguments : Arguments π) :
    (Info.invoke command arguments).verbose? = none := by
  refine verbose?_withValue fun packages => ?_
  split
  · exact verbose?_withValue fun _ => rfl
  · exact verbose?_withValue fun _ => rfl
  · rfl

theorem Poll.verbose?_invoke (command : String) (arguments : Arguments π) :
    (Poll.invoke command arguments).verbose? = none := by
  refine verbose?_withValue fun text => ?_
  rw [Poll.start]
  split
  · rfl
  · split <;> rfl

/-! ## The switches -/

namespace Utility

/-- The name of the command that turns the causes in error replies on or off. -/
def switchName (verbose : Bool) : String := if verbose then "enable_verbose" else "disable_verbose"

/-- What a switch does for an author. -/
def switched (verbose : Bool) (settings : Settings) (author : String) : Reaction :=
  if settings.isOwner author then
    let said := if verbose then "Verbose errors enabled." else "Verbose errors disabled."
    { ending := .response (.text said), verbose? := some verbose }
  else .fail "Only the owner can change error verbosity."

theorem invoke_switchName (verbose : Bool) (arguments : Arguments π) :
    invoke (switchName verbose) arguments = switch verbose arguments := by
  cases verbose <;> rfl

theorem verbose?_invoke {command : String} (other : ∀ verbose, command ≠ switchName verbose)
    (arguments : Arguments π) : (invoke command arguments).verbose? = none := by
  unfold invoke
  split
  · exact absurd rfl (other true)
  · exact absurd rfl (other false)
  · exact verbose?_withValue fun _ => verbose?_withValue fun _ => rfl
  · rfl

/-- A switch that is bound by a dispatcher gets its settings, not those of the host. -/
theorem switch_of_bind {dispatcher : Dispatcher π} {request : Request} {name doc : String}
    {keywords : OrderedMap String String} {arguments : Arguments π}
    (bound : Binding.bind (switchCommand name doc)
      (Dispatcher.positional (switchCommand name doc) request) keywords
      (dispatcher.services request.message) = .ok arguments) (verbose : Bool) :
    switch verbose arguments = switched verbose dispatcher.settings request.message.author := by
  have supplied : (dispatcher.services request.message).get? .settings =
      some (.settings dispatcher.settings) := by
    rw [Dispatcher.get?_services]
    rfl
  have values : Binding.resolvedValues keywords (dispatcher.services request.message)
      [.service "settings" .settings] =
        [("settings", .service .settings (.settings dispatcher.settings))] := by
    simp [Binding.resolvedValues, Binding.resolve, Binding.supplied?, Parameter.service, supplied,
      Binding.Resolution.value?]
  have remaining : Binding.remainingParameters (switchCommand name doc)
      (Dispatcher.positional (switchCommand name doc) request : List (ArgumentValue π)) =
        [.service "settings" .settings] := rfl
  rw [Binding.eq_ofList_of_bind_eq_ok bound, remaining, values]
  rfl

end Utility

open Utility (switchName)

namespace Builtin

/-- Only the utility component has switches. -/
theorem eq_switchCommand_of_mem_commands {builtin : Builtin} {command : CommandSpec}
    (declared : command ∈ builtin.commands) {verbose : Bool}
    (named : command.name = switchName verbose) :
    builtin = utility ∧ ∃ doc, command = Utility.switchCommand (switchName verbose) doc := by
  have others : ∀ listed ∈ [Echo.commands, Info.commands, Poll.commands],
      ∀ command ∈ listed, ∀ verbose, command.name ≠ switchName verbose := by decide
  cases builtin with
  | echo | info | poll =>
      exact absurd named (others _ (by simp [commands]) command declared verbose)
  | utility =>
      refine ⟨rfl, ?_⟩
      rcases List.mem_cons.mp declared with rfl | declared
      · cases verbose with
        | true => exact ⟨_, rfl⟩
        | false => exact absurd named (by decide)
      rcases List.mem_pair.mp declared with rfl | rfl
      · cases verbose with
        | true => exact absurd named (by decide)
        | false => exact ⟨_, rfl⟩
      · cases verbose <;> exact absurd named (by decide)

theorem verbose?_invoke {builtin : Builtin} {command : String}
    (other : ∀ verbose, command ≠ switchName verbose) (arguments : Arguments π) :
    (builtin.invoke command arguments).verbose? = none := by
  cases builtin with
  | echo => exact Echo.verbose?_invoke command arguments
  | info => exact Info.verbose?_invoke command arguments
  | poll => exact Poll.verbose?_invoke command arguments
  | utility => exact Utility.verbose?_invoke other arguments

end Builtin

/-! ## One message -/

/-- A message that is answered in the course of time. -/
structure Turn (π : Type) where
  before : Dispatcher π
  clock : Clock
  message : Message

namespace Turn

/-- What the dispatch of the message amounts to. -/
def dispatch [Plugin π] (turn : Turn π) : Dispatch π := turn.before.dispatch turn.clock turn.message

/-- The calls that are run for the message. -/
def calls (turn : Turn π) : List (Call π) :=
  turn.before.invocations turn.clock.uptime turn.message

/-- The message is one of the owner, runs a switch and is replied to. -/
structure Sets [Plugin π] (turn : Turn π) (owner : String) (verbose : Bool) : Prop where
  byOwner : turn.message.author = owner
  ran : ∃ call ∈ turn.calls, call.registration.command.name = switchName verbose
  replied : ∃ response, turn.dispatch.outcome = .replied response

/-- The message is no call, names no command that is found, is denied by the limiter or is not
bound. -/
inductive IsTurnedAway (turn : Turn π) : Prop where
  | unparsable {error : DispatchError}
    (noCall : turn.before.grammar.parse turn.message.content = .error error)
  | unknown {invocation : Invocation} {error : DispatchError}
    (parsed : turn.before.grammar.parse turn.message.content = .ok invocation)
    (notFound : turn.before.snapshot.get invocation.command = .error error)
  | denied {remaining : Number.Duration}
    (limited : (turn.before.limiter.check turn.message.author turn.message.time).1 =
      .denied remaining)
  | unbound {invocation : Invocation} {registration : Registration π} {error : DispatchError}
    (parsed : turn.before.grammar.parse turn.message.content = .ok invocation)
    (found : turn.before.snapshot.get invocation.command = .ok registration)
    (refused : Binding.bind registration.command
      (Dispatcher.positional registration.command ⟨turn.message, turn.clock.uptime⟩)
      invocation.keywords ((turn.before.asked turn.message).services turn.message) = .error error)

theorem IsTurnedAway.consider_ne_ready {turn : Turn π} (away : turn.IsTurnedAway)
    (call : Call π) (admitting : Dispatcher π) :
    turn.before.consider turn.clock.uptime turn.message ≠ (.ready call, admitting) := by
  intro ready
  obtain ⟨invocation, parsed, found, admitted, rfl, bound⟩ := Dispatcher.of_consider_eq_ready ready
  cases away with
  | unparsable noCall =>
      rw [parsed] at noCall
      cases noCall
  | unknown parsed' notFound =>
      cases parsed.symm.trans parsed'
      cases found.symm.trans notFound
  | denied limited => cases admitted.symm.trans limited
  | unbound parsed' found' refused =>
      cases parsed.symm.trans parsed'
      cases found.symm.trans found'
      cases bound.symm.trans refused

theorem IsTurnedAway.calls_eq_nil {turn : Turn π} (away : turn.IsTurnedAway) :
    turn.calls = [] := by
  refine List.eq_nil_iff_forall_not_mem.mpr fun call ran => ?_
  obtain ⟨admitting, ready⟩ := Dispatcher.mem_invocations_iff.mp ran
  exact away.consider_ne_ready call admitting ready

/-- Without a call the dispatcher keeps its packages and its settings. -/
theorem after_of_calls_eq_nil [Plugin π] {turn : Turn π} (noCalls : turn.calls = []) :
    turn.dispatch.after.snapshot = turn.before.snapshot ∧
      turn.dispatch.after.settings = turn.before.settings := by
  obtain ⟨limiter, after_eq⟩ :=
    turn.before.exists_snd_consider_eq turn.clock.uptime turn.message
  rw [dispatch, Dispatcher.dispatch]
  cases considered : turn.before.consider turn.clock.uptime turn.message with
  | mk admission after =>
      have after_eq : after = { turn.before with limiter := limiter } := by
        rw [← after_eq, considered]
      subst after_eq
      cases admission with
      | ignored | refused => exact ⟨rfl, rfl⟩
      | ready call =>
          have ran : call ∈ turn.calls := Dispatcher.mem_invocations_iff.mpr ⟨_, considered⟩
          rw [noCalls] at ran
          cases ran

/-- The reaction of the command that is called. -/
def reactionTo [Plugin π] (call : Call π) : Reaction :=
  Plugin.invoke call.registration.component.plugin call.registration.command.name call.arguments

/-- With a call everything depends on the reaction of its command. -/
theorem of_mem_calls [Plugin π] {turn : Turn π} {call : Call π} (ran : call ∈ turn.calls) :
    turn.calls = [call] ∧
      turn.dispatch.after =
        (turn.before.asked turn.message).setVerbose (reactionTo call).verbose? ∧
      ((∃ response, turn.dispatch.outcome = .replied response) ↔
        ∃ response, (reactionTo call).ending = .response response) := by
  obtain ⟨admitting, ready⟩ := Dispatcher.mem_invocations_iff.mp ran
  obtain ⟨-, -, -, -, rfl, -⟩ := Dispatcher.of_consider_eq_ready ready
  obtain ⟨outcome, after⟩ :=
    (turn.before.asked turn.message).answer_invokes turn.clock turn.message call
  rw [← Dispatcher.dispatch_of_ready ready] at outcome after
  refine ⟨Dispatcher.invocations_of_ready ready, after, ?_⟩
  rw [dispatch, outcome, ← reactionTo]
  cases (reactionTo call).ending <;> simp [Dispatcher.outcomeOf]

theorem Sets.unique [Plugin π] {turn : Turn π} {owner : String} {first second : Bool}
    (here : turn.Sets owner first) (there : turn.Sets owner second) : first = second := by
  obtain ⟨call, ran, named⟩ := here.ran
  obtain ⟨other, ran', named'⟩ := there.ran
  rw [(of_mem_calls ran).1, List.mem_singleton] at ran'
  rw [ran', named] at named'
  revert named'
  cases first <;> cases second <;> decide

theorem snapshot_after [Plugin π] (turn : Turn π) :
    turn.dispatch.after.snapshot = turn.before.snapshot := by
  cases calls_eq : turn.calls with
  | nil => exact (after_of_calls_eq_nil calls_eq).1
  | cons call rest =>
      have ran : call ∈ turn.calls := by simp [calls_eq]
      rw [(of_mem_calls ran).2.1, Dispatcher.snapshot_setVerbose]
      rfl

end Turn

/-! ## One message with the built-in components -/

/-- The packages of a dispatcher are put together from built-in components, and its settings
have an owner. -/
structure Dispatcher.IsOwnedBy (dispatcher : Dispatcher Builtin) (owner : String) : Prop where
  built : dispatcher.snapshot.IsBuilt
  owned : dispatcher.settings.owner? = some owner

namespace Turn

variable {turn : Turn Builtin} {owner : String} {verbose : Bool} {call : Call Builtin}

/-- A call of a switch does what the switch does for the author. -/
theorem reactionTo_of_switch (owned : turn.before.IsOwnedBy owner) (ran : call ∈ turn.calls)
    (named : call.registration.command.name = switchName verbose) :
    reactionTo call =
      Utility.switched verbose turn.before.settings turn.message.author := by
  obtain ⟨admitting, ready⟩ := Dispatcher.mem_invocations_iff.mp ran
  obtain ⟨invocation, -, found, -, rfl, bound⟩ := Dispatcher.of_consider_eq_ready ready
  obtain ⟨declared, -, -⟩ := owned.built.get_eq_ok found
  obtain ⟨plugin, doc, command⟩ := Builtin.eq_switchCommand_of_mem_commands declared named
  rw [command] at bound
  have reaction : reactionTo call = Utility.invoke (switchName verbose) call.arguments := by
    rw [reactionTo, named, plugin]
    rfl
  rw [reaction, Utility.invoke_switchName, Utility.switch_of_bind bound]
  rfl

theorem isOwner_iff (owned : turn.before.IsOwnedBy owner) :
    turn.before.settings.isOwner turn.message.author = true ↔ turn.message.author = owner := by
  rw [Settings.isOwner, owned.owned]
  exact beq_iff_eq.trans eq_comm

/-- A switch of the owner is always replied to. -/
theorem sets_iff (owned : turn.before.IsOwnedBy owner) :
    turn.Sets owner verbose ↔ turn.message.author = owner ∧
      ∃ call ∈ turn.calls, call.registration.command.name = switchName verbose := by
  refine ⟨fun sets => ⟨sets.byOwner, sets.ran⟩, ?_⟩
  rintro ⟨author, call, ran, named⟩
  have reaction := reactionTo_of_switch owned ran named
  rw [Utility.switched, if_pos ((isOwner_iff owned).mpr author)] at reaction
  exact ⟨author, ⟨call, ran, named⟩, (of_mem_calls ran).2.2.mpr ⟨_, by rw [reaction]⟩⟩

/-- A message changes the settings only if it sets the verbosity, and then nothing else of
them. -/
theorem settings_after (owned : turn.before.IsOwnedBy owner) :
    (∃ verbose, turn.Sets owner verbose ∧
      turn.dispatch.after.settings = { turn.before.settings with verbose := verbose }) ∨
    (∀ verbose, ¬ turn.Sets owner verbose) ∧
      turn.dispatch.after.settings = turn.before.settings := by
  cases calls_eq : turn.calls with
  | nil =>
      refine .inr ⟨fun verbose sets => ?_, (after_of_calls_eq_nil calls_eq).2⟩
      obtain ⟨call, ran, -⟩ := sets.ran
      rw [calls_eq] at ran
      cases ran
  | cons call rest =>
      have ran : call ∈ turn.calls := by simp [calls_eq]
      obtain ⟨only, after_eq, -⟩ := of_mem_calls ran
      by_cases switch : ∃ verbose, call.registration.command.name = switchName verbose
      case neg =>
        have quiet : (reactionTo call).verbose? = none :=
          Builtin.verbose?_invoke (fun verbose named => switch ⟨verbose, named⟩) call.arguments
        rw [quiet] at after_eq
        refine .inr ⟨fun verbose sets => ?_, by rw [after_eq]; rfl⟩
        obtain ⟨other, ran', named⟩ := sets.ran
        rw [only, List.mem_singleton] at ran'
        exact switch ⟨verbose, ran' ▸ named⟩
      obtain ⟨verbose, named⟩ := switch
      have reaction := reactionTo_of_switch owned ran named
      by_cases author : turn.message.author = owner
      · rw [Utility.switched, if_pos ((isOwner_iff owned).mpr author)] at reaction
        rw [reaction] at after_eq
        refine .inl ⟨verbose, (sets_iff owned).mpr ⟨author, call, ran, named⟩, ?_⟩
        rw [after_eq]
        rfl
      · rw [Utility.switched, if_neg (mt (isOwner_iff owned).mp author)] at reaction
        rw [reaction] at after_eq
        exact .inr ⟨fun _ sets => author sets.byOwner, by rw [after_eq]; rfl⟩

theorem Sets.verbose_after (sets : turn.Sets owner verbose)
    (owned : turn.before.IsOwnedBy owner) :
    turn.dispatch.after.settings.verbose = verbose := by
  obtain ⟨other, sets', settings_eq⟩ | ⟨keeps, -⟩ := settings_after owned
  · rw [settings_eq, sets.unique sets']
  · exact absurd sets (keeps verbose)

theorem verbose_after_of_not_sets (owned : turn.before.IsOwnedBy owner)
    (keeps : ∀ verbose, ¬ turn.Sets owner verbose) :
    turn.dispatch.after.settings.verbose = turn.before.settings.verbose := by
  obtain ⟨verbose, sets, -⟩ | ⟨-, settings_eq⟩ := settings_after owned
  · exact absurd sets (keeps verbose)
  · rw [settings_eq]

/-- No message changes the packages or the owner. -/
theorem isOwnedBy_after (owned : turn.before.IsOwnedBy owner) :
    turn.dispatch.after.IsOwnedBy owner where
  built := by
    rw [snapshot_after]
    exact owned.built
  owned := by
    obtain ⟨verbose, -, settings_eq⟩ | ⟨-, settings_eq⟩ := settings_after owned
    · rw [settings_eq]
      exact owned.owned
    · rw [settings_eq]
      exact owned.owned

end Turn

/-! ## Any number of messages -/

namespace Dispatcher

/-- The messages that are answered one after the other. -/
def turns [Plugin π] (dispatcher : Dispatcher π) : List (Clock × Message) → List (Turn π)
  | [] => []
  | (clock, message) :: rest =>
    ⟨dispatcher, clock, message⟩ :: (dispatcher.dispatch clock message).after.turns rest

/-- The dispatcher after messages have been answered one after the other. -/
def afterAll [Plugin π] (dispatcher : Dispatcher π) : List (Clock × Message) → Dispatcher π
  | [] => dispatcher
  | (clock, message) :: rest => (dispatcher.dispatch clock message).after.afterAll rest

variable {dispatcher : Dispatcher Builtin} {owner : String}

theorem isOwnedBy_before (owned : dispatcher.IsOwnedBy owner)
    (messages : List (Clock × Message)) :
    ∀ turn ∈ dispatcher.turns messages, turn.before.IsOwnedBy owner := by
  induction messages generalizing dispatcher with
  | nil => exact nofun
  | cons entry rest ih =>
      let first : Turn Builtin := ⟨dispatcher, entry.1, entry.2⟩
      exact List.forall_mem_cons.mpr ⟨owned, ih (first.isOwnedBy_after owned)⟩

/-- Messages that do not set the verbosity leave it as it was. -/
theorem verbose_afterAll_of_not_sets (owned : dispatcher.IsOwnedBy owner)
    {messages : List (Clock × Message)}
    (keeps : ∀ turn ∈ dispatcher.turns messages, ∀ verbose, ¬ turn.Sets owner verbose) :
    (dispatcher.afterAll messages).settings.verbose = dispatcher.settings.verbose := by
  induction messages generalizing dispatcher with
  | nil => rfl
  | cons entry rest ih =>
      let first : Turn Builtin := ⟨dispatcher, entry.1, entry.2⟩
      obtain ⟨firstKeeps, restKeeps⟩ := List.forall_mem_cons.mp keeps
      calc (first.dispatch.after.afterAll rest).settings.verbose
          = first.dispatch.after.settings.verbose := ih (first.isOwnedBy_after owned) restKeeps
        _ = dispatcher.settings.verbose := first.verbose_after_of_not_sets owned firstKeeps

/-- The last message that sets the verbosity decides. -/
theorem verbose_afterAll_of_sets (owned : dispatcher.IsOwnedBy owner)
    {messages : List (Clock × Message)} {earlier later : List (Turn Builtin)}
    {turn : Turn Builtin} {verbose : Bool}
    (turns_eq : dispatcher.turns messages = earlier ++ turn :: later)
    (sets : turn.Sets owner verbose)
    (last : ∀ other ∈ later, ∀ flag, ¬ other.Sets owner flag) :
    (dispatcher.afterAll messages).settings.verbose = verbose := by
  induction messages generalizing dispatcher earlier with
  | nil => exact absurd turns_eq (by simp [turns])
  | cons entry rest ih =>
      let first : Turn Builtin := ⟨dispatcher, entry.1, entry.2⟩
      have ownedAfter := first.isOwnedBy_after owned
      rw [turns] at turns_eq
      cases earlier with
      | nil =>
          obtain ⟨rfl, rest_eq⟩ := List.cons.inj turns_eq
          rw [← rest_eq] at last
          calc (first.dispatch.after.afterAll rest).settings.verbose
              = first.dispatch.after.settings.verbose :=
                verbose_afterAll_of_not_sets ownedAfter last
            _ = verbose := sets.verbose_after owned
      | cons _ earlier => exact ih ownedAfter (List.cons.inj turns_eq).2

/-- With the built-in components and an owner, the verbosity after any messages is what the
last message of the owner that ran a switch and was replied to has set, and the initial one if
there is none. A message of anybody else leaves it as it was, and so does one that is no call,
is denied or is not bound. -/
theorem verbose_afterAll (dispatcher : Dispatcher Builtin) (owner : String)
    (built : dispatcher.snapshot.IsBuilt) (owned : dispatcher.settings.owner? = some owner)
    (messages : List (Clock × Message)) :
    let turns := dispatcher.turns messages
    let final := (dispatcher.afterAll messages).settings.verbose
    (∀ earlier turn later verbose, turns = earlier ++ turn :: later → turn.Sets owner verbose →
      (∀ other ∈ later, ∀ flag, ¬ other.Sets owner flag) → final = verbose) ∧
    ((∀ turn ∈ turns, ∀ verbose, ¬ turn.Sets owner verbose) →
      final = dispatcher.settings.verbose) ∧
    (∀ turn ∈ turns, turn.message.author ≠ owner →
      turn.dispatch.after.settings.verbose = turn.before.settings.verbose) ∧
    (∀ turn ∈ turns, turn.IsTurnedAway →
      turn.dispatch.after.settings.verbose = turn.before.settings.verbose) := by
  intro turns final
  have ownedFirst : dispatcher.IsOwnedBy owner := ⟨built, owned⟩
  refine ⟨?last, verbose_afterAll_of_not_sets ownedFirst, ?other, ?away⟩
  case last =>
    intro earlier turn later verbose turns_eq sets last
    exact verbose_afterAll_of_sets ownedFirst turns_eq sets last
  case other =>
    intro turn member other
    have ownedThen := isOwnedBy_before ownedFirst messages turn member
    exact turn.verbose_after_of_not_sets ownedThen fun _ sets => other sets.byOwner
  case away =>
    intro turn member away
    rw [(Turn.after_of_calls_eq_nil away.calls_eq_nil).2]

/-- The owner turns the causes on, and somebody else fails to turn them off. -/
theorem verbose_afterAll_intruder :
    let dispatcher : Dispatcher Builtin :=
      { Dispatcher.ofGrammar {} (Snapshot.empty.insert
          ((Package.ofName "general" none).add (.ofPlugin "Utility" .utility)))
        with settings := { owner? := some "ann" } }
    let messages : List (Clock × Message) :=
      [({}, ⟨"m1", "ann", "room", "/enable_verbose", 0⟩),
        ({}, ⟨"m2", "bob", "room", "/disable_verbose", 1⟩)]
    dispatcher.snapshot.IsBuilt ∧ dispatcher.settings.owner? = some "ann" ∧
      dispatcher.settings.verbose = false ∧
      (dispatcher.turns messages).length = 2 ∧
      (dispatcher.afterAll messages).settings.verbose = true := by
  intro dispatcher messages
  have built : dispatcher.snapshot.IsBuilt := .insert .empty (.add (.ofName _ _) _ _)
  obtain ⟨last, -, -, -⟩ := verbose_afterAll dispatcher "ann" built rfl messages
  let first : Turn Builtin := ⟨dispatcher, {}, ⟨"m1", "ann", "room", "/enable_verbose", 0⟩⟩
  have sets : first.Sets "ann" true :=
    (Turn.sets_iff ⟨built, rfl⟩).mpr ⟨rfl, by decide +kernel⟩
  refine ⟨built, rfl, rfl, rfl, last [] first _ true rfl sets ?_⟩
  intro other member flag others
  obtain rfl := List.mem_singleton.mp member
  exact absurd others.byOwner (by decide)

end Dispatcher

end ChatCommands
