/-
# What the events of a dispatch give away

What the author wrote and what an error quotes of it is redacted before it is logged. The
name of the command is not; it needs no redaction, because it is a single word, and what
redaction looks for is never made of word characters alone. The names of commands are words
as the grammar reads them and as packages register them; only the command of a shortcut has
to be one by the settings of the host.

Main statement: `isClean_of_mem_events`. Authors, channels and the kinds of errors are not
spoken of.
-/

import ChatCommands.Proofs.Dispatcher.Stages
import ChatCommands.Proofs.Grammar.Scan
import ChatCommands.Proofs.Redaction.Residue
import ChatCommands.Proofs.Snapshot.History
import ChatCommands.Script

namespace ChatCommands

open Redaction (IsClean redact)

variable {π : Type}

/-! ## The texts of an event -/

namespace DispatchEvent

/-- The name of the command in an event. -/
def command? : DispatchEvent → Option String
  | .received .. => none
  | .completed command _ _ => some command
  | .failed command? _ _ => command?
  | .rateLimited command _ => some command

/-- What an event quotes: what the author wrote, or the wording of an error. -/
def quote? : DispatchEvent → Option String
  | .received _ _ content => some content
  | .completed .. => none
  | .failed _ _ message => some message
  | .rateLimited .. => none

/-- The fields of an event that come from texts. -/
def texts (event : DispatchEvent) : List String := event.quote?.toList ++ event.command?.toList

theorem command?_redacted (event : DispatchEvent) : event.redacted.command? = event.command? := by
  cases event <;> simp only [redacted, command?]

theorem quote?_redacted (event : DispatchEvent) :
    event.redacted.quote? = event.quote?.map redact := by
  cases event <;> rfl

/-- If the name of the command is a word, the texts of the logged event are clean. -/
theorem isClean_of_mem_texts_redacted {event : DispatchEvent}
    (named : ∀ command ∈ event.command?, Text.isSingleWord command = true) {text : String}
    (member : text ∈ event.redacted.texts) : IsClean text.toList := by
  rw [texts, List.mem_append, Option.mem_toList, Option.mem_toList, quote?_redacted,
    command?_redacted] at member
  rcases member with quoted | command
  · obtain ⟨original, -, rfl⟩ := Option.map_eq_some_iff.mp quoted
    exact Redaction.isClean_toList_redact original
  · exact Redaction.isClean_of_isWord (Text.isSingleWord_iff.mp (named text command)).2

end DispatchEvent

/-! ## The names of commands -/

namespace Grammar

/-- A message calls its command by a word, if shortcuts stand for words only. -/
theorem isSingleWord_command {grammar : Grammar}
    (targets : ∀ shortcut ∈ grammar.shortcuts, Text.isSingleWord shortcut.command = true)
    {text : String} {invocation : Invocation} (parsed : grammar.parse text = .ok invocation) :
    Text.isSingleWord invocation.command = true := by
  rw [parse] at parsed
  split at parsed
  · cases parsed
  · next found =>
    split at parsed
    · next shortcut known =>
      obtain rfl := Except.ok.inj parsed
      exact targets shortcut (List.mem_of_find?_eq_some known)
    · obtain rfl := Except.ok.inj parsed
      exact isSingleWord_of_commandWord? found

end Grammar

/-- The name under which a message is dealt with. -/
def Admission.command? : Admission π → Option String
  | .ignored => none
  | .refused command _ _ => some command
  | .ready call => some call.registration.command.name

namespace Dispatcher

variable {dispatcher : Dispatcher π}

theorem command?_failureEvent (command : String) (error : DispatchError) :
    (failureEvent command error).command? = some command := by
  cases error <;> rfl

theorem command?_conclude (command : String) (elapsedMillis : Nat) (ending : Ending) :
    (dispatcher.conclude command elapsedMillis ending).2.command? = some command := by
  rw [conclude]
  split
  · rfl
  · exact command?_failureEvent command _

theorem command?_bindCall (registration : Registration π) (keywords : OrderedMap String String)
    (request : Request) :
    (dispatcher.bindCall registration keywords request).command? =
      some registration.command.name := by
  rw [bindCall]
  split <;> rfl

variable [Plugin π]

/-- A message is dealt with under the name by which it calls its command. -/
theorem command?_consider (built : dispatcher.snapshot.IsBuilt) (uptime : Int)
    {message : Message} {invocation : Invocation}
    (parsed : dispatcher.grammar.parse message.content = .ok invocation) :
    (dispatcher.consider uptime message).1.command? = some invocation.command := by
  rw [consider, parsed]
  dsimp only
  split
  · rfl
  · next registration found =>
    obtain ⟨-, named, -⟩ := built.get_eq_ok found
    split
    · exact congrArg some named
    · rw [command?_bindCall, named]

/-- The events of a message, before they are redacted, name at most its command. -/
theorem exists_events_eq_map_redacted (dispatcher : Dispatcher π) (clock : Clock)
    (message : Message) :
    ∃ events : List DispatchEvent,
      (dispatcher.dispatch clock message).events = events.map DispatchEvent.redacted ∧
        ∀ event ∈ events, ∀ command ∈ event.command?,
          (dispatcher.consider clock.uptime message).1.command? = some command := by
  cases considered : dispatcher.consider clock.uptime message with
  | mk admission after =>
      cases admission with
      | ignored =>
          simp only [dispatch, considered]
          exact ⟨[], rfl, fun _ member => absurd member List.not_mem_nil⟩
      | refused command error candidates =>
          simp only [dispatch, considered]
          refine ⟨_, rfl, ?_⟩
          intro event member name named
          rcases List.mem_pair.mp member with rfl | rfl
          · cases named
          · rw [command?_failureEvent] at named
            exact named
      | ready call =>
          rw [dispatch_of_ready considered]
          refine ⟨_, rfl, ?_⟩
          intro event member name named
          rcases List.mem_pair.mp member with rfl | rfl
          · cases named
          · exact (command?_conclude _ _ _).symm.trans named

/-- No event of a message holds, in what it quotes or in the name of the command, anything
that redaction looks for, and redaction would leave these texts as they are. It takes that
the shortcuts of the grammar stand for words and that the packages were added and loaded. -/
theorem isClean_of_mem_events (dispatcher : Dispatcher π)
    (targets : ∀ shortcut ∈ dispatcher.grammar.shortcuts,
      Text.isSingleWord shortcut.command = true)
    (history : List (RegistryOperation π))
    (added : ∀ package, .add package ∈ history → package.IsBuilt)
    (registered : dispatcher.snapshot = Snapshot.snapshotAfter history) (clock : Clock)
    (message : Message) :
    ∀ event ∈ (dispatcher.dispatch clock message).events, ∀ text ∈ event.texts,
      IsClean text.toList ∧ redact text = text := by
  have built : dispatcher.snapshot.IsBuilt := by
    rw [registered]
    exact Snapshot.isBuilt_snapshotAfter added
  obtain ⟨events, logged, names⟩ := dispatcher.exists_events_eq_map_redacted clock message
  intro event member text inEvent
  rw [logged] at member
  obtain ⟨original, listed, rfl⟩ := List.mem_map.mp member
  have clean : IsClean text.toList := by
    refine DispatchEvent.isClean_of_mem_texts_redacted ?_ inEvent
    intro command named
    have considered := names original listed command named
    cases parsed : dispatcher.grammar.parse message.content with
    | error error =>
        rw [consider, parsed] at considered
        cases considered
    | ok invocation =>
        rw [command?_consider built clock.uptime parsed] at considered
        rw [← Option.some.inj considered]
        exact Grammar.isSingleWord_command targets parsed
  exact ⟨clean, clean.redact_eq_self⟩

/-- A shortcut for a command of an added package, and an error that repeats the secret. -/
theorem isClean_of_mem_events_login :
    let component : Component Extension :=
      .ofPlugin "Login" (.script
        { doc? := none
          declarations :=
            [({ name := "login", doc? := none, parameters := [.requiredText "as"] },
              .fail (.ofMessage "no such token=hunter2"))] })
    let history : List (RegistryOperation Extension) :=
      [.add ((Package.ofName "accounts" none).add component)]
    let dispatcher : Dispatcher Extension :=
      .ofGrammar { shortcuts := [⟨"in", "login", "as"⟩] } (Snapshot.snapshotAfter history)
    let message : Message := ⟨"m1", "ann", "room", "/in token=hunter2", 0⟩
    (∀ shortcut ∈ dispatcher.grammar.shortcuts, Text.isSingleWord shortcut.command = true) ∧
      (∀ package, .add package ∈ history → package.IsBuilt) ∧
      (dispatcher.dispatch {} message).events =
        [.received "ann" "room" "/in token=[REDACTED]",
          .failed (some "login") "CommandError"
            "Command login failed: no such token=[REDACTED]"] ∧
      IsClean "/in token=[REDACTED]".toList ∧
      IsClean "Command login failed: no such token=[REDACTED]".toList ∧
      IsClean "login".toList := by
  intro component history dispatcher message
  have targets : ∀ shortcut ∈ dispatcher.grammar.shortcuts,
      Text.isSingleWord shortcut.command = true := by decide +kernel
  have added : ∀ package, .add package ∈ history → package.IsBuilt := by
    intro package member
    cases List.mem_singleton.mp member
    exact .add (.ofName _ _) _ _
  have events : (dispatcher.dispatch {} message).events =
      [.received "ann" "room" "/in token=[REDACTED]",
        .failed (some "login") "CommandError"
          "Command login failed: no such token=[REDACTED]"] := by decide +kernel
  have clean := isClean_of_mem_events dispatcher targets history added rfl {} message
  rw [events] at clean
  exact ⟨targets, added, events, (clean _ (.head _) _ (.head _)).1,
    (clean _ (.tail _ (.head _)) _ (.head _)).1,
    (clean _ (.tail _ (.head _)) _ (.tail _ (.head _))).1⟩

end Dispatcher

end ChatCommands
