/-
# The stages of a dispatch

A message passes the grammar, the lookup, the limiter and the binding, in this order. Once
the limiter has been asked, the dispatcher holds its new state, and the services of the
call show that state. A message that passes all stages runs exactly one command; a message
that does not runs none, so that a dispatch depends on the plugin objects through this one
call only.
-/

import ChatCommands.Dispatcher
import ChatCommands.Proofs.OrderedMap

namespace ChatCommands.Dispatcher

variable {π : Type} {dispatcher : Dispatcher π}

/-! ## Services -/

/-- The service a dispatcher supplies itself, if it does for the kind. -/
def ownService? (dispatcher : Dispatcher π) (message : Message) : Capability → Option (Service π)
  | .currentMessage => some (.message message)
  | .archiver => none
  | .settings => some (.settings dispatcher.settings)
  | .rateLimiter => some (.limiter dispatcher.limiter)
  | .packages => some (.packages dispatcher.snapshot)

theorem isSome_ownService?_iff {message : Message} {kind : Capability} :
    (dispatcher.ownService? message kind).isSome = true ↔ kind ≠ .archiver := by
  cases kind <;> simp [ownService?]

theorem get?_ownServices (dispatcher : Dispatcher π) (message : Message) (kind : Capability) :
    (dispatcher.ownServices message).get? kind = dispatcher.ownService? message kind := by
  cases kind <;> rfl

/-- The services of a dispatcher hide those of the host. -/
theorem get?_services (dispatcher : Dispatcher π) (message : Message) (kind : Capability) :
    (dispatcher.services message).get? kind =
      (dispatcher.ownService? message kind).or (dispatcher.hostServices.get? kind) := by
  rw [services, Capabilities.merged, OrderedMap.get?_insertAll_entries, get?_ownServices]

/-! ## Passing the limiter -/

/-- The dispatcher after the limiter has been asked about a message. -/
def asked (dispatcher : Dispatcher π) (message : Message) : Dispatcher π :=
  { dispatcher with limiter := (dispatcher.limiter.check message.author message.time).2 }

theorem consider_of_admitted (uptime : Int) {message : Message} {invocation : Invocation}
    {registration : Registration π}
    (parsed : dispatcher.grammar.parse message.content = .ok invocation)
    (found : dispatcher.snapshot.get invocation.command = .ok registration)
    (admitted : (dispatcher.limiter.check message.author message.time).1 = .admitted) :
    dispatcher.consider uptime message =
      ((dispatcher.asked message).bindCall registration invocation.keywords ⟨message, uptime⟩,
        dispatcher.asked message) := by
  have checked : dispatcher.limiter.check message.author message.time =
      (.admitted, (dispatcher.asked message).limiter) :=
    Prod.ext admitted rfl
  rw [consider, parsed]
  simp only [found, checked]
  rfl

/-- Considering a message changes nothing but the limiter. -/
theorem exists_snd_consider_eq (dispatcher : Dispatcher π) (uptime : Int) (message : Message) :
    ∃ limiter, (dispatcher.consider uptime message).2 = { dispatcher with limiter := limiter } := by
  unfold consider
  split
  · exact ⟨_, rfl⟩
  · split
    · exact ⟨_, rfl⟩
    · split <;> exact ⟨_, rfl⟩

/-- A call that may run has been read, found, admitted and bound. -/
theorem of_consider_eq_ready {uptime : Int} {message : Message} {call : Call π}
    {admitting : Dispatcher π}
    (ready : dispatcher.consider uptime message = (.ready call, admitting)) :
    ∃ invocation, dispatcher.grammar.parse message.content = .ok invocation ∧
      dispatcher.snapshot.get invocation.command = .ok call.registration ∧
      (dispatcher.limiter.check message.author message.time).1 = .admitted ∧
      admitting = dispatcher.asked message ∧
      Binding.bind call.registration.command
        (positional call.registration.command ⟨message, uptime⟩) invocation.keywords
        (admitting.services message) = .ok call.arguments := by
  unfold consider at ready
  split at ready
  · cases ready
  · next invocation parsed =>
    split at ready
    · cases ready
    · next registration found =>
      split at ready
      · cases ready
      · next limiter checked =>
        obtain ⟨bound, rfl⟩ := Prod.ext_iff.mp ready
        dsimp only [bindCall] at bound
        split at bound
        · cases bound
        · next arguments accepted =>
          cases bound
          refine ⟨invocation, parsed, found, by rw [checked], ?_, accepted⟩
          rw [asked, checked]

/-! ## Running a command -/

@[simp] theorem grammar_setVerbose (verbose? : Option Bool) :
    (dispatcher.setVerbose verbose?).grammar = dispatcher.grammar := by
  cases verbose? <;> rfl

@[simp] theorem snapshot_setVerbose (verbose? : Option Bool) :
    (dispatcher.setVerbose verbose?).snapshot = dispatcher.snapshot := by
  cases verbose? <;> rfl

@[simp] theorem limiter_setVerbose (verbose? : Option Bool) :
    (dispatcher.setVerbose verbose?).limiter = dispatcher.limiter := by
  cases verbose? <;> rfl

/-- The calls that are run for a message. -/
def invocations (dispatcher : Dispatcher π) (uptime : Int) (message : Message) : List (Call π) :=
  match (dispatcher.consider uptime message).1 with
  | .ready call => [call]
  | .ignored | .refused _ _ _ => []

/-- What a dispatch amounts to that runs a call. -/
def answer [Plugin π] (dispatcher : Dispatcher π) (clock : Clock) (message : Message)
    (call : Call π) : Dispatch π :=
  let (reaction, after) := dispatcher.run call
  let (outcome, event) :=
    after.conclude call.registration.command.name clock.elapsedMillis reaction.ending
  ⟨outcome, [receivedEvent message, event].map DispatchEvent.redacted, after⟩

/-- What becomes of a message whose command has ended. -/
def outcomeOf (dispatcher : Dispatcher π) (command : String) : Ending → Outcome
  | .response said => .replied said
  | .failure error => .failed (dispatcher.replyTo (.commandFailed command error) [])
  | .panic message? =>
    .failed
      (dispatcher.replyTo (.commandPanicked command (message?.getD "command panicked")) [])

theorem fst_conclude (dispatcher : Dispatcher π) (command : String) (elapsedMillis : Nat)
    (ending : Ending) : (dispatcher.conclude command elapsedMillis ending).1 =
      dispatcher.outcomeOf command ending := by
  cases ending <;> rfl

/-- Answering a message with a call invokes the component with the arguments. How the body ends
decides the outcome, and the verbosity it has set is kept. -/
theorem answer_invokes [Plugin π] (dispatcher : Dispatcher π) (clock : Clock) (message : Message)
    (call : Call π) :
    let reaction := Plugin.invoke call.registration.component.plugin
      call.registration.command.name call.arguments
    let after := dispatcher.setVerbose reaction.verbose?
    (dispatcher.answer clock message call).outcome =
        after.outcomeOf call.registration.command.name reaction.ending ∧
      (dispatcher.answer clock message call).after = after :=
  ⟨fst_conclude _ _ _ _, rfl⟩

theorem invocations_of_ready {uptime : Int} {message : Message} {call : Call π}
    {admitting : Dispatcher π}
    (ready : dispatcher.consider uptime message = (.ready call, admitting)) :
    dispatcher.invocations uptime message = [call] := by
  rw [invocations, ready]

/-- A call is run for a message if the message is ready to run it. -/
theorem mem_invocations_iff {uptime : Int} {message : Message} {call : Call π} :
    call ∈ dispatcher.invocations uptime message ↔
      ∃ admitting, dispatcher.consider uptime message = (.ready call, admitting) := by
  rw [invocations]
  cases dispatcher.consider uptime message with
  | mk admission after =>
      cases admission with
      | ignored | refused => simp
      | ready other => simp [eq_comm]

theorem dispatch_of_ready [Plugin π] {clock : Clock} {message : Message} {call : Call π}
    {admitting : Dispatcher π}
    (ready : dispatcher.consider clock.uptime message = (.ready call, admitting)) :
    dispatcher.dispatch clock message = admitting.answer clock message call := by
  rw [dispatch, ready]
  rfl

/-- No other command has a say: plugin objects that react alike to the calls of a message
make for the same dispatch. -/
theorem dispatch_congr (first second : Plugin π) (clock : Clock) (message : Message)
    (agree : ∀ call ∈ dispatcher.invocations clock.uptime message,
      first.invoke call.registration.component.plugin call.registration.command.name
          call.arguments =
        second.invoke call.registration.component.plugin call.registration.command.name
          call.arguments) :
    @dispatch π first dispatcher clock message = @dispatch π second dispatcher clock message := by
  cases considered : dispatcher.consider clock.uptime message with
  | mk admission after =>
      cases admission with
      | ignored => simp only [dispatch, considered]
      | refused command error candidates => simp only [dispatch, considered]
      | ready call =>
          have same := agree call (by rw [invocations_of_ready considered]; simp)
          simp only [dispatch, considered, run]
          rw [same]

end ChatCommands.Dispatcher
