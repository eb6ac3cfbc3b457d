/-
# Messages that are answered at the same time

Every message is answered by a task of its own. A task takes its message in one step as far
as it gets without running a command, the limiter included; after that it gives way to other
tasks whenever its command suspends and before its reply is delivered. All tasks share one
dispatcher. Nothing is assumed about the order of the steps, and nothing about what a command
does, except that it leaves the limiter alone.

A message that is answered alone takes its task through the same dispatch (`run_dispatch`).
Whatever other tasks do in between, what the limiter says to a message decides whether its
task fails for want of room (`IsRuled`).
-/

import ChatCommands.Proofs.Dispatcher.Events
import ChatCommands.Proofs.RateLimit.Span
import Mathlib.Logic.Relation

namespace ChatCommands

variable {π : Type}

/-! ## Tasks -/

/-- How far a task has got. -/
inductive Stage (π : Type) where
  | waiting
  /-- The command has been called and has not ended. -/
  | running (call : Call π)
  /-- The outcome is known and has not been delivered. -/
  | concluded (outcome : Outcome)
  | delivered (outcome : Outcome)

/-- The answering of a message in the course of time. -/
structure DispatchTask (π : Type) where
  message : Message
  /-- What the limiter has said to the message, once it has been asked. -/
  verdict? : Option Verdict
  stage : Stage π

/-- A dispatcher with the tasks that share it. -/
structure TaskPool (π : Type) where
  dispatcher : Dispatcher π
  tasks : List (DispatchTask π)

namespace Dispatcher

/-- Whether a message names a command that is found. -/
def Resolves (dispatcher : Dispatcher π) (message : Message) : Prop :=
  ∃ invocation found, dispatcher.grammar.parse message.content = .ok invocation ∧
    dispatcher.snapshot.get invocation.command = .ok found

/-- What the limiter says to a message, if it is asked about it. -/
def verdict? (dispatcher : Dispatcher π) (message : Message) : Option Verdict :=
  match dispatcher.grammar.parse message.content with
  | .error _ => none
  | .ok invocation =>
    match dispatcher.snapshot.get invocation.command with
    | .error _ => none
    | .ok _ => some (dispatcher.limiter.check message.author message.time).1

/-- The stage a task has reached when its message has been considered. -/
def stageAfter (after : Dispatcher π) : Admission π → Stage π
  | .ignored => .concluded .ignored
  | .refused _ error candidates => .concluded (.failed (after.replyTo error candidates))
  | .ready call => .running call

/-- The task of a message that has been considered. -/
def considered (dispatcher : Dispatcher π) (uptime : Int) (message : Message) : DispatchTask π where
  message := message
  verdict? := dispatcher.verdict? message
  stage := (dispatcher.consider uptime message).2.stageAfter (dispatcher.consider uptime message).1

end Dispatcher

namespace DispatchTask

/-- The task of a message nothing has been done about yet. -/
def spawned (message : Message) : DispatchTask π := ⟨message, none, .waiting⟩

/-- The outcome of the dispatch, once it is known. -/
def outcome? (task : DispatchTask π) : Option Outcome :=
  match task.stage with
  | .waiting | .running _ => none
  | .concluded outcome | .delivered outcome => some outcome

/-- Whether the dispatch has failed because the author has to wait. -/
def isLimited (task : DispatchTask π) : Bool :=
  match task.outcome? with
  | some (.failed reply) => reply.title == "RateLimitActive"
  | _ => false

/-- Whether the task answers an author and has passed the limiter. -/
def passedFor (author : String) (task : DispatchTask π) : Bool :=
  task.message.author = author ∧ task.verdict? = some .admitted

/-- Whether the task answers an author and has been limited. -/
def limitedFor (author : String) (task : DispatchTask π) : Bool :=
  task.message.author = author ∧ task.isLimited

/-- Whether the task answers an author and has asked the limiter. -/
def askedFor (author : String) (task : DispatchTask π) : Bool :=
  task.message.author = author ∧ task.verdict?.isSome

/-- One step of a task and what it makes of the dispatcher. A command may suspend as often as
it likes, may set the verbosity each time and may end in any way. -/
inductive Step : Dispatcher π → DispatchTask π → Dispatcher π → DispatchTask π → Prop where
  | consider (dispatcher : Dispatcher π) (uptime : Int) (message : Message) :
    Step dispatcher (spawned message) (dispatcher.consider uptime message).2
      (dispatcher.considered uptime message)
  | suspend (dispatcher : Dispatcher π) (message : Message) (verdict? : Option Verdict)
    (call : Call π) (verbose? : Option Bool) :
    Step dispatcher ⟨message, verdict?, .running call⟩ (dispatcher.setVerbose verbose?)
      ⟨message, verdict?, .running call⟩
  | conclude (dispatcher : Dispatcher π) (message : Message) (verdict? : Option Verdict)
    (call : Call π) (elapsedMillis : Nat) (reaction : Reaction) :
    Step dispatcher ⟨message, verdict?, .running call⟩ (dispatcher.setVerbose reaction.verbose?)
      ⟨message, verdict?,
        .concluded ((dispatcher.setVerbose reaction.verbose?).conclude
          call.registration.command.name elapsedMillis reaction.ending).1⟩
  | deliver (dispatcher : Dispatcher π) (message : Message) (verdict? : Option Verdict)
    (outcome : Outcome) :
    Step dispatcher ⟨message, verdict?, .concluded outcome⟩ dispatcher
      ⟨message, verdict?, .delivered outcome⟩

end DispatchTask

namespace TaskPool

/-- One step of any of the tasks. -/
inductive Step : TaskPool π → TaskPool π → Prop where
  | task {dispatcher after : Dispatcher π} {task next : DispatchTask π}
    (before later : List (DispatchTask π)) (step : DispatchTask.Step dispatcher task after next) :
    Step ⟨dispatcher, before ++ task :: later⟩ ⟨after, before ++ next :: later⟩

/-- Any number of steps of the tasks, in any order. -/
def Run : TaskPool π → TaskPool π → Prop := Relation.ReflTransGen Step

/-- A dispatcher with messages nothing has been done about yet. -/
def spawn (dispatcher : Dispatcher π) (messages : List Message) : TaskPool π :=
  ⟨dispatcher, messages.map .spawned⟩

/-- A message that is answered alone takes its task through the same dispatch. -/
theorem run_dispatch [Plugin π] (dispatcher : Dispatcher π) (clock : Clock) (message : Message) :
    ∃ task : DispatchTask π,
      Run (spawn dispatcher [message]) ⟨(dispatcher.dispatch clock message).after, [task]⟩ ∧
        task.outcome? = some (dispatcher.dispatch clock message).outcome := by
  have first : Step (spawn dispatcher [message]) _ :=
    .task [] [] (.consider dispatcher clock.uptime message)
  cases considered : dispatcher.consider clock.uptime message with
  | mk admission after =>
      rw [Dispatcher.considered, considered] at first
      cases admission with
      | ignored =>
          simp only [Dispatcher.dispatch, considered]
          exact ⟨_, .single first, rfl⟩
      | refused command error candidates =>
          simp only [Dispatcher.dispatch, considered]
          exact ⟨_, .single first, rfl⟩
      | ready call =>
          rw [Dispatcher.dispatch_of_ready considered]
          have second := TaskPool.Step.task [] [] (.conclude after message
            (dispatcher.verdict? message) call clock.elapsedMillis
            (Plugin.invoke call.registration.component.plugin call.registration.command.name
              call.arguments))
          exact ⟨_, (Relation.ReflTransGen.single first).tail second, rfl⟩

end TaskPool

/-! ## What the limiter says and how the task goes on -/

namespace Dispatcher

variable {dispatcher : Dispatcher π} {message : Message}

theorem verdict?_of_resolves (resolves : dispatcher.Resolves message) :
    dispatcher.verdict? message =
      some (dispatcher.limiter.check message.author message.time).1 := by
  obtain ⟨invocation, found, parsed, registered⟩ := resolves
  rw [verdict?, parsed]
  simp only [registered]

/-- The limiter is asked about a message exactly if its command is found. -/
theorem isSome_verdict?_iff : (dispatcher.verdict? message).isSome = true ↔
    dispatcher.Resolves message := by
  constructor
  · intro asked
    rw [verdict?] at asked
    split at asked
    · cases asked
    · next invocation parsed =>
      split at asked
      · cases asked
      · next found registered => exact ⟨invocation, found, parsed, registered⟩
  · intro resolves
    rw [verdict?_of_resolves resolves]
    rfl

instance : Decidable (dispatcher.Resolves message) :=
  decidable_of_iff _ isSome_verdict?_iff

theorem consider_of_denied (uptime : Int) {remaining : Number.Duration}
    (resolves : dispatcher.Resolves message)
    (denied : (dispatcher.limiter.check message.author message.time).1 = .denied remaining) :
    ∃ command, dispatcher.consider uptime message =
      (.refused command (.rateLimited remaining) [], dispatcher.asked message) := by
  obtain ⟨invocation, found, parsed, registered⟩ := resolves
  have checked : dispatcher.limiter.check message.author message.time =
      (.denied remaining, (dispatcher.asked message).limiter) :=
    Prod.ext denied rfl
  refine ⟨found.command.name, ?_⟩
  rw [consider, parsed]
  simp only [registered, checked]
  rfl

theorem stage_considered_ne_waiting (dispatcher : Dispatcher π) (uptime : Int)
    (message : Message) : (dispatcher.considered uptime message).stage ≠ .waiting := by
  rw [considered]
  cases (dispatcher.consider uptime message).1 <;> exact nofun

/-- A call that is not bound is refused for its arguments. -/
theorem bindCall_eq_ready_or_refused (dispatcher : Dispatcher π) (registration : Registration π)
    (keywords : OrderedMap String String) (request : Request) :
    (∃ call, dispatcher.bindCall registration keywords request = .ready call) ∨
      ∃ command issue valid candidates,
        dispatcher.bindCall registration keywords request =
          .refused command (.badArguments command issue valid) candidates := by
  rw [bindCall, Binding.bind]
  simp only [Binding.refusal]
  split
  · next failed =>
    right
    split at failed
    · cases failed
      exact ⟨_, _, _, _, rfl⟩
    · split at failed
      · cases failed
        exact ⟨_, _, _, _, rfl⟩
      · split at failed
        · cases failed
          exact ⟨_, _, _, _, rfl⟩
        · cases failed
  · exact .inl ⟨_, rfl⟩

/-- However a command ends, it does not make the author wait. -/
theorem isLimited_conclude (dispatcher : Dispatcher π) (verdict? : Option Verdict)
    (command : String) (elapsedMillis : Nat) (ending : Ending) :
    (⟨message, verdict?,
      .concluded (dispatcher.conclude command elapsedMillis ending).1⟩ :
        DispatchTask π).isLimited = false := by
  cases ending <;> rfl

end Dispatcher

namespace DispatchTask

/-- The ways of a task whose command is found: it waits, it has passed the limiter and does not
fail because of it, or it has been refused by the limiter and has failed because of that. -/
inductive IsRuled : DispatchTask π → Prop where
  | waiting (message : Message) : IsRuled (spawned message)
  | passed {task : DispatchTask π} (verdict : task.verdict? = some .admitted)
    (unlimited : task.isLimited = false) : IsRuled task
  | refused {task : DispatchTask π} {remaining : Number.Duration}
    (verdict : task.verdict? = some (.denied remaining)) (limited : task.isLimited = true) :
    IsRuled task

theorem isRuled_considered {dispatcher : Dispatcher π} {message : Message} (uptime : Int)
    (resolves : dispatcher.Resolves message) :
    (dispatcher.considered uptime message).IsRuled := by
  have verdict := Dispatcher.verdict?_of_resolves resolves
  cases said : (dispatcher.limiter.check message.author message.time).1 with
  | denied remaining =>
      obtain ⟨command, considered⟩ := Dispatcher.consider_of_denied uptime resolves said
      rw [said] at verdict
      refine .refused verdict ?_
      rw [isLimited, outcome?, Dispatcher.considered, considered]
      rfl
  | admitted =>
      obtain ⟨invocation, found, parsed, registered⟩ := resolves
      have considered := Dispatcher.consider_of_admitted uptime parsed registered said
      rw [said] at verdict
      refine .passed verdict ?_
      rw [isLimited, outcome?, Dispatcher.considered, considered]
      obtain ⟨call, bound⟩ | ⟨command, issue, valid, candidates, bound⟩ :=
        (dispatcher.asked message).bindCall_eq_ready_or_refused found invocation.keywords
          ⟨message, uptime⟩
      · simp only [bound]
        rfl
      · simp only [bound]
        rfl

theorem Step.message_eq {dispatcher after : Dispatcher π} {task next : DispatchTask π}
    (step : Step dispatcher task after next) : next.message = task.message := by
  cases step <;> rfl

/-- A step considers a message, or it leaves the limiter alone and the ruling as it is. -/
theorem Step.asks_or_keeps {dispatcher after : Dispatcher π} {task next : DispatchTask π}
    (step : Step dispatcher task after next) :
    (∃ uptime, task = spawned task.message ∧
      after = (dispatcher.consider uptime task.message).2 ∧
      next = dispatcher.considered uptime task.message) ∨
    (after.grammar = dispatcher.grammar ∧ after.snapshot = dispatcher.snapshot ∧
      after.limiter = dispatcher.limiter ∧ next.message = task.message ∧
      next.verdict? = task.verdict? ∧ (task.IsRuled → next.IsRuled)) := by
  cases step with
  | consider uptime message => exact .inl ⟨uptime, rfl, rfl, rfl⟩
  | suspend message verdict? call verbose? =>
      exact .inr ⟨Dispatcher.grammar_setVerbose verbose?, Dispatcher.snapshot_setVerbose verbose?,
        Dispatcher.limiter_setVerbose verbose?, rfl, rfl, id⟩
  | conclude message verdict? call elapsedMillis reaction =>
      refine .inr ⟨Dispatcher.grammar_setVerbose _, Dispatcher.snapshot_setVerbose _,
        Dispatcher.limiter_setVerbose _, rfl, rfl, fun ruled => ?_⟩
      cases ruled with
      | passed verdict _ => exact .passed verdict (Dispatcher.isLimited_conclude _ _ _ _ _)
      | refused _ limited => cases limited
  | deliver message verdict? outcome =>
      refine .inr ⟨rfl, rfl, rfl, rfl, rfl, fun ruled => ?_⟩
      cases ruled with
      | passed verdict unlimited => exact .passed verdict unlimited
      | refused verdict limited => exact .refused verdict limited

theorem Step.stage_ne_waiting {dispatcher after : Dispatcher π} {task next : DispatchTask π}
    (step : Step dispatcher task after next) : next.stage ≠ .waiting := by
  cases step with
  | consider uptime message => exact dispatcher.stage_considered_ne_waiting uptime message
  | suspend | conclude | deliver => exact nofun

end DispatchTask

/-! ## Getting on -/

namespace TaskPool

theorem forall_exchange {property : DispatchTask π → Prop} {task next : DispatchTask π}
    {before later : List (DispatchTask π)}
    (old : ∀ other ∈ before ++ task :: later, property other) (new : property next) :
    ∀ other ∈ before ++ next :: later, property other := by
  intro other member
  rcases List.mem_append.mp member with earlier | following
  · exact old other (List.mem_append_left _ earlier)
  · rcases List.mem_cons.mp following with rfl | rest
    · exact new
    · exact old other (List.mem_append_right _ (List.mem_cons_of_mem task rest))

/-- A task that waits is as it was spawned. -/
theorem Run.eq_spawned_of_waiting {dispatcher : Dispatcher π} {messages : List Message}
    {pool : TaskPool π} (run : Run (spawn dispatcher messages) pool) :
    ∀ task ∈ pool.tasks, task.stage = .waiting → task = .spawned task.message := by
  induction run with
  | refl =>
      intro task member _
      obtain ⟨message, -, rfl⟩ := List.mem_map.mp member
      rfl
  | tail _ last ih =>
      cases last with
      | task before later step =>
          apply forall_exchange ih
          intro waiting
          exact absurd waiting step.stage_ne_waiting

theorem exists_run_of_waiting (dispatcher : Dispatcher π) (before later : List (DispatchTask π))
    (spawned : ∀ task ∈ later, task.stage = .waiting → task = .spawned task.message) :
    ∃ after rest, Run ⟨dispatcher, before ++ later⟩ ⟨after, before ++ rest⟩ ∧
      ∀ task ∈ rest, task.stage ≠ .waiting := by
  induction later generalizing dispatcher before with
  | nil => exact ⟨dispatcher, [], .refl, fun _ member => absurd member List.not_mem_nil⟩
  | cons task later ih =>
      have others : ∀ other ∈ later, other.stage = .waiting → other = .spawned other.message :=
        fun other member => spawned other (List.mem_cons_of_mem task member)
      -- Whether or not the first task has to be considered, the others come after it.
      have goOn : ∀ (now : Dispatcher π) (first : DispatchTask π), first.stage ≠ .waiting →
          ∃ after rest, Run ⟨now, before ++ first :: later⟩ ⟨after, before ++ rest⟩ ∧
            ∀ task ∈ rest, task.stage ≠ .waiting := by
        intro now first settled
        obtain ⟨after, rest, run, all⟩ := ih now (before ++ [first]) others
        rw [List.append_assoc, List.append_assoc] at run
        refine ⟨after, first :: rest, run, ?_⟩
        intro task member
        rcases List.mem_cons.mp member with rfl | later
        · exact settled
        · exact all task later
      by_cases waiting : task.stage = .waiting
      · have same := spawned task List.mem_cons_self waiting
        obtain ⟨after, rest, run, all⟩ := goOn (dispatcher.consider 0 task.message).2
          (dispatcher.considered 0 task.message)
          (dispatcher.stage_considered_ne_waiting 0 task.message)
        have step : Step ⟨dispatcher, before ++ .spawned task.message :: later⟩
            ⟨(dispatcher.consider 0 task.message).2,
              before ++ dispatcher.considered 0 task.message :: later⟩ :=
          .task before later (.consider dispatcher 0 task.message)
        rw [← same] at step
        exact ⟨after, rest, .head step run, all⟩
      · exact goOn dispatcher task waiting

/-- Whatever the tasks have done so far, they can get on until every message has been
considered. -/
theorem Run.exists_settled {dispatcher : Dispatcher π} {messages : List Message}
    {pool : TaskPool π} (run : Run (spawn dispatcher messages) pool) :
    ∃ next, Run pool next ∧ ∀ task ∈ next.tasks, task.stage ≠ .waiting := by
  obtain ⟨after, rest, further, settled⟩ :=
    exists_run_of_waiting pool.dispatcher [] pool.tasks run.eq_spawned_of_waiting
  exact ⟨⟨after, rest⟩, further, settled⟩

end TaskPool

end ChatCommands
