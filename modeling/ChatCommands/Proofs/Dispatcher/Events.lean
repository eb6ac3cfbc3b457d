/-
# What is logged and sent for a message

A dispatch leaves two traces besides its outcome: the events that are logged and the reply
that is sent. Both are determined by the outcome. A message that is no call leaves none;
every other one leaves two events, the second of which tells the outcome, and one reply,
unless the command keeps silent.

Every way a dispatch can end is covered, and nothing is assumed about the commands, the
limiter or the delivery. Main statement: `handle_logs_and_sends`.
-/

import ChatCommands.Proofs.Dispatcher.Stages

namespace ChatCommands

/-! ## The last event -/

/-- How the last event of a dispatch tells its outcome. -/
inductive Outcome.LoggedAs : Outcome → DispatchEvent → Prop
  | completed (response : Response) (command : String) (elapsedMillis : Nat) :
      LoggedAs (.replied response) (.completed command elapsedMillis (response != .silent))
  | rateLimited {reply : ErrorReply} (title : reply.title = "RateLimitActive")
      (command : String) (remaining : Number.Duration) :
      LoggedAs (.failed reply) (.rateLimited command remaining)
  | failed {reply : ErrorReply} (title : reply.title ≠ "RateLimitActive")
      (command? : Option String) :
      LoggedAs (.failed reply)
        (.failed command? reply.title (Redaction.redact reply.details))

namespace Outcome.LoggedAs

variable {outcome : Outcome} {last : DispatchEvent}

theorem ne_ignored (logged : outcome.LoggedAs last) : outcome ≠ .ignored := by
  cases logged <;> simp

theorem completed_iff (logged : outcome.LoggedAs last) :
    (∃ command elapsed replied, last = .completed command elapsed replied) ↔
      ∃ response, outcome = .replied response := by
  cases logged <;> simp

theorem rateLimited_iff (logged : outcome.LoggedAs last) :
    (∃ command remaining, last = .rateLimited command remaining) ↔
      ∃ reply, outcome = .failed reply ∧ reply.title = "RateLimitActive" := by
  cases logged with
  | completed => simp
  | rateLimited title => simp [title]
  | failed title => simp [title]

theorem failed_iff (logged : outcome.LoggedAs last) :
    (∃ command? kind text, last = .failed command? kind text) ↔
      ∃ reply, outcome = .failed reply ∧ reply.title ≠ "RateLimitActive" := by
  cases logged with
  | completed => simp
  | rateLimited title => simp [title]
  | failed title => simp [title]

theorem replied_eq_false_iff (logged : outcome.LoggedAs last) {response : Response}
    {command : String} {elapsed : Nat} {replied : Bool} (said : outcome = .replied response)
    (ended : last = .completed command elapsed replied) :
    replied = false ↔ response = .silent := by
  cases logged with
  | completed =>
      cases said
      cases ended
      rw [bne_eq_false_iff_eq]
  | rateLimited => cases said
  | failed => cases said

theorem failed_eq (logged : outcome.LoggedAs last) {reply : ErrorReply}
    {command? : Option String} {kind text : String} (failure : outcome = .failed reply)
    (ended : last = .failed command? kind text) :
    kind = reply.title ∧ text = Redaction.redact reply.details := by
  cases logged with
  | completed => cases failure
  | rateLimited => cases ended
  | failed =>
      cases failure
      cases ended
      exact ⟨rfl, rfl⟩

end Outcome.LoggedAs

namespace Dispatcher

variable {π : Type}

/-- An error is told by its event and by its reply in the same words. -/
theorem loggedAs_failureEvent (dispatcher : Dispatcher π) (command : String)
    (error : DispatchError) (candidates : List String) :
    Outcome.LoggedAs (.failed (dispatcher.replyTo error candidates))
      (failureEvent command error).redacted := by
  have title_eq : (dispatcher.replyTo error candidates).title = error.kind := rfl
  cases error with
  | rateLimited remaining => exact .rateLimited title_eq command remaining
  | missingPrefix | commandLookup | componentLookup | badArguments | commandFailed
  | commandPanicked =>
      exact .failed (by simp [title_eq, DispatchError.kind]) (some command)

/-- However a command ends, its last event tells how. -/
theorem loggedAs_conclude (dispatcher : Dispatcher π) (command : String) (elapsedMillis : Nat)
    (ending : Ending) :
    Outcome.LoggedAs (dispatcher.conclude command elapsedMillis ending).1
      (dispatcher.conclude command elapsedMillis ending).2.redacted := by
  rw [conclude]
  cases ending.result command with
  | ok response => exact .completed response command elapsedMillis
  | error error => exact dispatcher.loggedAs_failureEvent command error []

/-! ## The events of a dispatch -/

theorem bindCall_ne_ignored (dispatcher : Dispatcher π) (registration : Registration π)
    (keywords : OrderedMap String String) (request : Request) :
    dispatcher.bindCall registration keywords request ≠ .ignored := by
  rw [bindCall]
  intro same
  split at same <;> cases same

/-- A message is ignored exactly if it is no call. -/
theorem consider_eq_ignored_iff {dispatcher : Dispatcher π} (uptime : Int) {message : Message} :
    (dispatcher.consider uptime message).1 = .ignored ↔
      ∃ error, dispatcher.grammar.parse message.content = .error error := by
  unfold consider
  cases dispatcher.grammar.parse message.content with
  | error error => simp
  | ok invocation =>
      simp only [reduceCtorEq, exists_false, iff_false]
      split
      · simp
      · split
        · simp
        · exact bindCall_ne_ignored _ _ _ _

theorem dispatch_of_ignored [Plugin π] {dispatcher : Dispatcher π} {clock : Clock}
    {message : Message} (ignored : (dispatcher.consider clock.uptime message).1 = .ignored) :
    (dispatcher.dispatch clock message).outcome = .ignored ∧
      (dispatcher.dispatch clock message).events = [] := by
  cases considered : dispatcher.consider clock.uptime message with
  | mk admission after =>
      rw [considered] at ignored
      cases ignored
      simp only [dispatch, considered, and_self]

/-- A message that is a call is logged as received and then by how its dispatch ended. -/
theorem dispatch_of_not_ignored [Plugin π] {dispatcher : Dispatcher π} {clock : Clock}
    {message : Message} (call : (dispatcher.consider clock.uptime message).1 ≠ .ignored) :
    ∃ last, (dispatcher.dispatch clock message).events = [(receivedEvent message).redacted, last] ∧
      (dispatcher.dispatch clock message).outcome.LoggedAs last := by
  cases considered : dispatcher.consider clock.uptime message with
  | mk admission after =>
      rw [considered] at call
      cases admission with
      | ignored => exact absurd rfl call
      | refused command error candidates =>
          simp only [dispatch, considered, List.map_cons, List.map_nil]
          exact ⟨_, rfl, after.loggedAs_failureEvent command error candidates⟩
      | ready ready =>
          rw [dispatch_of_ready considered]
          exact ⟨_, rfl, loggedAs_conclude _ _ _ _⟩

theorem outcome_eq_ignored_iff [Plugin π] {dispatcher : Dispatcher π} {clock : Clock}
    {message : Message} :
    (dispatcher.dispatch clock message).outcome = .ignored ↔
      ∃ error, dispatcher.grammar.parse message.content = .error error := by
  rw [← consider_eq_ignored_iff clock.uptime]
  refine ⟨fun ignored => Classical.byContradiction fun call => ?_,
    fun noCall => (dispatch_of_ignored noCall).1⟩
  obtain ⟨last, -, logged⟩ := dispatch_of_not_ignored call
  exact logged.ne_ignored ignored

/-! ## Replies -/

theorem reply?_eq_none_iff {outcome : Outcome} :
    outcome.reply? = none ↔ outcome = .ignored ∨ outcome = .replied .silent := by
  cases outcome with
  | ignored => simp [Outcome.reply?]
  | replied response => cases response <;> simp [Outcome.reply?]
  | failed reply => simp [Outcome.reply?]

theorem reply?_eq_text_iff {outcome : Outcome} {content : String} :
    outcome.reply? = some (.text content) ↔ outcome = .replied (.text content) := by
  cases outcome with
  | ignored => simp [Outcome.reply?]
  | replied response => cases response <;> simp [Outcome.reply?]
  | failed reply => simp [Outcome.reply?]

theorem reply?_eq_error_iff {outcome : Outcome} {reply : ErrorReply} :
    outcome.reply? = some (.error reply) ↔ outcome = .failed reply := by
  cases outcome with
  | ignored => simp [Outcome.reply?]
  | replied response => cases response <;> simp [Outcome.reply?]
  | failed other => simp [Outcome.reply?]

/-- A message is ignored exactly if it is no call, and then nothing is logged and nothing is
sent. Every other message is logged as received and then by exactly one event that tells
the outcome, and it gets exactly one reply unless the command keeps silent. Whether the
reply arrives makes no difference. -/
theorem handle_logs_and_sends [Plugin π] (dispatcher : Dispatcher π) (clock : Clock)
    (message : Message) (send : Message → Reply → Bool) :
    let delivery := dispatcher.handle clock message send
    let outcome := delivery.dispatch.outcome
    let events := delivery.dispatch.events
    (outcome = .ignored ↔ ∃ error, dispatcher.grammar.parse message.content = .error error) ∧
    (outcome = .ignored → events = [] ∧ delivery.sent? = none) ∧
    (outcome ≠ .ignored → ∃ last, events = [(receivedEvent message).redacted, last] ∧
      ((∃ command elapsed replied, last = .completed command elapsed replied) ↔
        ∃ response, outcome = .replied response) ∧
      ((∃ command remaining, last = .rateLimited command remaining) ↔
        ∃ reply, outcome = .failed reply ∧ reply.title = "RateLimitActive") ∧
      ((∃ command? kind text, last = .failed command? kind text) ↔
        ∃ reply, outcome = .failed reply ∧ reply.title ≠ "RateLimitActive") ∧
      (∀ response command elapsed replied, outcome = .replied response →
        last = .completed command elapsed replied → (replied = false ↔ response = .silent)) ∧
      (∀ reply command? kind text, outcome = .failed reply →
        last = .failed command? kind text →
        kind = reply.title ∧ text = Redaction.redact reply.details)) ∧
    (delivery.sent? = none ↔ outcome = .ignored ∨ outcome = .replied .silent) ∧
    (∀ content, delivery.sent? = some (.text content) ↔ outcome = .replied (.text content)) ∧
    (∀ reply, delivery.sent? = some (.error reply) ↔ outcome = .failed reply) ∧
    (∀ other : Message → Reply → Bool,
      (dispatcher.handle clock message other).dispatch = delivery.dispatch ∧
        (dispatcher.handle clock message other).sent? = delivery.sent?) := by
  intro delivery outcome events
  refine ⟨outcome_eq_ignored_iff, fun ignored => ?_, fun call => ?_, reply?_eq_none_iff,
    fun _ => reply?_eq_text_iff, fun _ => reply?_eq_error_iff, fun _ => ⟨rfl, rfl⟩⟩
  · have noCall := (consider_eq_ignored_iff clock.uptime).mpr (outcome_eq_ignored_iff.mp ignored)
    exact ⟨(dispatch_of_ignored noCall).2, reply?_eq_none_iff.mpr (.inl ignored)⟩
  · have isCall : (dispatcher.consider clock.uptime message).1 ≠ .ignored :=
      fun noCall => call (dispatch_of_ignored noCall).1
    obtain ⟨last, events_eq, logged⟩ := dispatch_of_not_ignored isCall
    exact ⟨last, events_eq, logged.completed_iff, logged.rateLimited_iff, logged.failed_iff,
      fun _ _ _ _ said ended => logged.replied_eq_false_iff said ended,
      fun _ _ _ _ failure ended => logged.failed_eq failure ended⟩

end Dispatcher

end ChatCommands
