/-
# What a message costs its author

The limiter is asked once about a message whose command is found and never about another
one. What comes after the limiter has no say in this: a call that is not bound, a command
that fails and a command that breaks off cost the same as one that succeeds, and a call that
is refused costs nothing and gets no further.

The binding and the bodies of commands are left open here. They may act on a world of any
kind, and a body may do to the dispatcher what it likes, except that it leaves the limiter
alone. What the program does is a special case (`dispatch_ofPlugin`).

Main statement: `limiter_dispatch` for one message, `limiter_dispatchAll` for any number of
them.
-/

import ChatCommands.Proofs.Dispatcher.Tasks
import ChatCommands.Script

namespace ChatCommands

variable {π ω : Type}

/-- What happens to a call behind the limiter. The binding and the bodies of commands may
act on a world outside the dispatcher, and so leave their traces in it. -/
structure Handlers (π ω : Type) where
  /-- Bind the arguments of a call. -/
  bind : Dispatcher π → Registration π → OrderedMap String String → Request → ω → Admission π × ω
  /-- Run the body of a command. -/
  body : Call π → Dispatcher π → ω → Ending × Dispatcher π × ω

namespace Handlers

open Dispatcher (receivedEvent)

/-- Take a message as far as it gets without running a body. -/
def consider (handlers : Handlers π ω) (dispatcher : Dispatcher π) (uptime : Int)
    (message : Message) (world : ω) : Admission π × Dispatcher π × ω :=
  match dispatcher.grammar.parse message.content with
  | .error _ => (.ignored, dispatcher, world)
  | .ok invocation =>
    match dispatcher.snapshot.get invocation.command with
    | .error error =>
      (.refused invocation.command error dispatcher.snapshot.commandNames, dispatcher, world)
    | .ok registration =>
      match dispatcher.limiter.check message.author message.time with
      | (.denied remaining, limiter) =>
        (.refused registration.command.name (.rateLimited remaining) [],
          { dispatcher with limiter := limiter }, world)
      | (.admitted, limiter) =>
        let admitting := { dispatcher with limiter := limiter }
        let (admission, later) :=
          handlers.bind admitting registration invocation.keywords ⟨message, uptime⟩ world
        (admission, admitting, later)

/-- Answer a message: what the dispatch amounts to, and the world after it. -/
def dispatch (handlers : Handlers π ω) (dispatcher : Dispatcher π) (clock : Clock)
    (message : Message) (world : ω) : Dispatch π × ω :=
  match handlers.consider dispatcher clock.uptime message world with
  | (.ignored, after, later) => (⟨.ignored, [], after⟩, later)
  | (.refused command error candidates, after, later) =>
    (⟨.failed (after.replyTo error candidates),
      [receivedEvent message, failureEvent command error].map DispatchEvent.redacted, after⟩,
      later)
  | (.ready call, admitting, bound) =>
    let (ending, after, later) := handlers.body call admitting bound
    let (outcome, event) :=
      after.conclude call.registration.command.name clock.elapsedMillis ending
    (⟨outcome, [receivedEvent message, event].map DispatchEvent.redacted, after⟩, later)

/-- What the program does with a call: it acts on no world outside the dispatcher. -/
def ofPlugin [Plugin π] : Handlers π ω where
  bind dispatcher registration keywords request world :=
    (dispatcher.bindCall registration keywords request, world)
  body call dispatcher world :=
    let (reaction, after) := dispatcher.run call
    (reaction.ending, after, world)

/-- No body touches the limiter. -/
def SpareLimiter (handlers : Handlers π ω) : Prop :=
  ∀ call dispatcher world, (handlers.body call dispatcher world).2.1.limiter = dispatcher.limiter

variable {handlers : Handlers π ω} {dispatcher : Dispatcher π} {message : Message} {world : ω}

/-! ## The program -/

theorem consider_ofPlugin [Plugin π] (dispatcher : Dispatcher π) (uptime : Int)
    (message : Message) (world : ω) :
    ofPlugin.consider dispatcher uptime message world =
      ((dispatcher.consider uptime message).1, (dispatcher.consider uptime message).2, world) := by
  rw [consider, Dispatcher.consider]
  cases dispatcher.grammar.parse message.content with
  | error error => rfl
  | ok invocation =>
      dsimp only
      cases dispatcher.snapshot.get invocation.command with
      | error error => rfl
      | ok registration =>
          dsimp only
          cases dispatcher.limiter.check message.author message.time with
          | mk verdict limiter => cases verdict <;> rfl

/-- The dispatch of the program is one with such handlers. -/
theorem dispatch_ofPlugin [Plugin π] (dispatcher : Dispatcher π) (clock : Clock)
    (message : Message) (world : ω) :
    ofPlugin.dispatch dispatcher clock message world =
      (dispatcher.dispatch clock message, world) := by
  rw [dispatch, consider_ofPlugin, Dispatcher.dispatch]
  cases dispatcher.consider clock.uptime message with
  | mk admission after => cases admission <;> rfl

theorem spareLimiter_ofPlugin [Plugin π] : (ofPlugin : Handlers π ω).SpareLimiter := by
  intro call dispatcher world
  exact Dispatcher.limiter_setVerbose _

/-! ## Up to the limiter -/

/-- A message whose command is not found gets nowhere. -/
theorem consider_of_not_resolves (handlers : Handlers π ω) (uptime : Int) (world : ω)
    (unresolved : ¬ dispatcher.Resolves message) :
    ∃ admission, handlers.consider dispatcher uptime message world =
      (admission, dispatcher, world) ∧ ∀ call, admission ≠ .ready call := by
  rw [consider]
  split
  · exact ⟨_, rfl, nofun⟩
  · next invocation parsed =>
    split
    · exact ⟨_, rfl, nofun⟩
    · next found registered => exact absurd ⟨invocation, found, parsed, registered⟩ unresolved

/-- A call that is refused by the limiter gets no further, and nothing has changed. -/
theorem consider_of_denied (handlers : Handlers π ω) (uptime : Int) (world : ω)
    {remaining : Number.Duration} (resolves : dispatcher.Resolves message)
    (denied : (dispatcher.limiter.check message.author message.time).1 = .denied remaining) :
    ∃ command, handlers.consider dispatcher uptime message world =
      (.refused command (.rateLimited remaining) [], dispatcher, world) := by
  obtain ⟨invocation, found, parsed, registered⟩ := resolves
  have checked : dispatcher.limiter.check message.author message.time =
      (.denied remaining, dispatcher.limiter) :=
    Prod.ext denied (RateLimiter.snd_check_of_denied denied)
  refine ⟨found.command.name, ?_⟩
  rw [consider, parsed]
  simp only [registered, checked]

/-- A call that has passed the limiter is recorded before it is bound. -/
theorem consider_of_admitted (handlers : Handlers π ω) (uptime : Int) (world : ω)
    (resolves : dispatcher.Resolves message)
    (admitted : (dispatcher.limiter.check message.author message.time).1 = .admitted) :
    ∃ admission later, handlers.consider dispatcher uptime message world =
      (admission, dispatcher.asked message, later) := by
  obtain ⟨invocation, found, parsed, registered⟩ := resolves
  have checked : dispatcher.limiter.check message.author message.time =
      (.admitted, (dispatcher.asked message).limiter) :=
    Prod.ext admitted rfl
  rw [consider, parsed]
  simp only [registered, checked]
  exact ⟨_, _, rfl⟩

/-! ## Behind the limiter -/

/-- Where no body runs, the dispatch leaves what the message was considered to leave. -/
theorem after_dispatch_of_ne_ready {clock : Clock} {admission : Admission π}
    {after : Dispatcher π} {later : ω}
    (considered : handlers.consider dispatcher clock.uptime message world =
      (admission, after, later))
    (notReady : ∀ call, admission ≠ .ready call) :
    (handlers.dispatch dispatcher clock message world).1.after = after ∧
      (handlers.dispatch dispatcher clock message world).2 = later := by
  cases admission with
  | ignored =>
      rw [dispatch, considered]
      exact ⟨rfl, rfl⟩
  | refused command error candidates =>
      rw [dispatch, considered]
      exact ⟨rfl, rfl⟩
  | ready call => exact absurd rfl (notReady call)

theorem limiter_dispatch_of_consider (sparing : handlers.SpareLimiter) {clock : Clock}
    {admission : Admission π} {after : Dispatcher π} {later : ω}
    (considered : handlers.consider dispatcher clock.uptime message world =
      (admission, after, later)) :
    (handlers.dispatch dispatcher clock message world).1.after.limiter = after.limiter := by
  cases admission with
  | ignored | refused => rw [(after_dispatch_of_ne_ready considered nofun).1]
  | ready call =>
      rw [dispatch, considered]
      exact sparing call after later

/-- The limiter is asked once if the command of the message is found, and not at all
otherwise. -/
theorem limiter_dispatch_eq (sparing : handlers.SpareLimiter) (dispatcher : Dispatcher π)
    (clock : Clock) (message : Message) (world : ω) :
    (handlers.dispatch dispatcher clock message world).1.after.limiter =
      if dispatcher.Resolves message then
        (dispatcher.limiter.check message.author message.time).2
      else dispatcher.limiter := by
  split
  · next resolves =>
    cases said : (dispatcher.limiter.check message.author message.time).1 with
    | admitted =>
        obtain ⟨admission, later, considered⟩ :=
          handlers.consider_of_admitted clock.uptime world resolves said
        exact limiter_dispatch_of_consider sparing considered
    | denied remaining =>
        obtain ⟨command, considered⟩ :=
          handlers.consider_of_denied clock.uptime world resolves said
        rw [limiter_dispatch_of_consider sparing considered,
          RateLimiter.snd_check_of_denied said]
  · next unresolved =>
    obtain ⟨admission, considered, -⟩ :=
      handlers.consider_of_not_resolves clock.uptime world unresolved
    exact limiter_dispatch_of_consider sparing considered

/-- A message costs one check of its author at its time if its command is found, and nothing
otherwise. A call that is admitted stays recorded, whatever becomes of it. One that is denied
is refused before it is bound: nothing has changed, neither in the dispatcher nor in the
world. The program is an instance of this. -/
theorem limiter_dispatch (handlers : Handlers π ω) (sparing : handlers.SpareLimiter)
    (dispatcher : Dispatcher π) (clock : Clock) (message : Message) (world : ω) :
    let answered := (handlers.dispatch dispatcher clock message world).1
    let later := (handlers.dispatch dispatcher clock message world).2
    let checked := dispatcher.limiter.check message.author message.time
    (dispatcher.Resolves message → answered.after.limiter.windows = checked.2.windows) ∧
    (¬ dispatcher.Resolves message → answered.after = dispatcher ∧ later = world) ∧
    (∀ policy, dispatcher.limiter.policy? = some policy → policy.capacity ≠ 0 →
      dispatcher.Resolves message → checked.1 = .admitted →
        answered.after.limiter.window message.author =
          policy.record (dispatcher.limiter.window message.author) message.time) ∧
    (∀ remaining, dispatcher.Resolves message → checked.1 = .denied remaining →
      answered.outcome = .failed (dispatcher.replyTo (.rateLimited remaining) []) ∧
        answered.after = dispatcher ∧ later = world) ∧
    (∀ _ : Plugin π, (ofPlugin : Handlers π ω).SpareLimiter ∧
      ofPlugin.dispatch dispatcher clock message world =
        (dispatcher.dispatch clock message, world)) := by
  intro answered later checked
  have limiter_eq := limiter_dispatch_eq sparing dispatcher clock message world
  refine ⟨?charged, ?free, ?recorded, ?denied, ?program⟩
  case charged =>
    intro resolves
    rw [if_pos resolves] at limiter_eq
    exact congrArg RateLimiter.windows limiter_eq
  case free =>
    intro unresolved
    obtain ⟨admission, considered, notReady⟩ :=
      handlers.consider_of_not_resolves clock.uptime world unresolved
    exact after_dispatch_of_ne_ready considered notReady
  case recorded =>
    intro policy configured limits resolves admitted
    rw [if_pos resolves] at limiter_eq
    have free : policy.wait (dispatcher.limiter.window message.author) message.time = 0 := by
      rw [← Verdict.ofWait_eq_admitted_iff, ← RateLimiter.fst_check configured limits]
      exact admitted
    show (handlers.dispatch dispatcher clock message world).1.after.limiter.window _ = _
    rw [limiter_eq, RateLimiter.window_check_self configured limits, if_pos free]
  case denied =>
    intro remaining resolves denied
    obtain ⟨command, considered⟩ :=
      handlers.consider_of_denied clock.uptime world resolves denied
    refine ⟨?_, after_dispatch_of_ne_ready considered nofun⟩
    show (handlers.dispatch dispatcher clock message world).1.outcome = _
    rw [dispatch, considered]
  case program =>
    intro plugin
    exact ⟨spareLimiter_ofPlugin, dispatch_ofPlugin dispatcher clock message world⟩

/-- Bodies that break off after turning on verbose replies, in a world that counts the
bindings by ones and the bodies by hundreds: the first message is bound, run and recorded, the
second is refused and leaves no trace. -/
theorem limiter_dispatch_panic :
    let handlers : Handlers Extension Nat :=
      { bind := fun dispatcher registration keywords request count =>
          (dispatcher.bindCall registration keywords request, count + 1)
        body := fun _ dispatcher count =>
          (.panic none, dispatcher.setVerbose (some true), count + 100) }
    let component : Component Extension :=
      .ofPlugin "Clock" (.script
        { doc? := none
          declarations := [({ name := "tick", doc? := none, parameters := [] }, .silent)] })
    let first : Dispatcher Extension :=
      { Dispatcher.ofGrammar {} (Snapshot.empty.insert ((Package.ofName "time" none).add component))
        with limiter := .ofPolicy (some ⟨60, 1⟩) }
    let message : Message := ⟨"m1", "ann", "room", "/tick", 5⟩
    let second := (handlers.dispatch first {} message 0).1.after
    handlers.SpareLimiter ∧ first.Resolves message ∧ second.Resolves message ∧
      (handlers.dispatch first {} message 0).2 = 101 ∧
      second.settings.verbose = true ∧ second.limiter.window "ann" = [5] ∧
      (handlers.dispatch second {} message 101).2 = 101 ∧
      (handlers.dispatch second {} message 101).1.after = second := by
  intro handlers component first message second
  have sparing : handlers.SpareLimiter := fun _ _ _ => Dispatcher.limiter_setVerbose _
  have resolves : first.Resolves message ∧ second.Resolves message := by decide +kernel
  obtain ⟨-, -, recorded, -, -⟩ := limiter_dispatch handlers sparing first {} message 0
  obtain ⟨-, -, -, denied, -⟩ := limiter_dispatch handlers sparing second {} message 101
  have window := recorded ⟨60, 1⟩ rfl (by decide) resolves.1 (by decide +kernel)
  obtain ⟨-, unchanged, noTrace⟩ := denied 60 resolves.2 (by decide +kernel)
  exact ⟨sparing, resolves.1, resolves.2, by decide +kernel, by decide +kernel, window, noTrace,
    unchanged⟩

/-! ## One message after the other -/

/-- The dispatcher and the world after messages have been answered one after the other. -/
def dispatchAll (handlers : Handlers π ω) :
    List (Clock × Message) → Dispatcher π → ω → Dispatcher π × ω
  | [], dispatcher, world => (dispatcher, world)
  | (clock, message) :: rest, dispatcher, world =>
    let (answered, later) := handlers.dispatch dispatcher clock message world
    handlers.dispatchAll rest answered.after later

/-- The calls that messages cost when they are answered one after the other. -/
def charges (handlers : Handlers π ω) :
    List (Clock × Message) → Dispatcher π → ω → List RateCall
  | [], _, _ => []
  | (clock, message) :: rest, dispatcher, world =>
    let (answered, later) := handlers.dispatch dispatcher clock message world
    let others := handlers.charges rest answered.after later
    if dispatcher.Resolves message then ⟨message.author, message.time⟩ :: others else others

/-- After any number of messages the limiter has been asked about those whose command was
found when their turn came, once about each and in this order, and about nothing else. -/
theorem limiter_dispatchAll (sparing : handlers.SpareLimiter)
    (messages : List (Clock × Message)) (dispatcher : Dispatcher π) (world : ω) :
    (handlers.dispatchAll messages dispatcher world).1.limiter =
      (handlers.charges messages dispatcher world).foldl
        (fun limiter call => (limiter.check call.author call.time).2) dispatcher.limiter := by
  induction messages generalizing dispatcher world with
  | nil => rfl
  | cons first rest ih =>
      obtain ⟨clock, message⟩ := first
      have limiter_eq := limiter_dispatch_eq sparing dispatcher clock message world
      rw [dispatchAll, charges]
      dsimp only
      rw [ih, limiter_eq]
      split
      · rw [List.foldl_cons]
      · rfl

end Handlers

end ChatCommands
