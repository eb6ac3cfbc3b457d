/-
# Bursts of messages

Messages whose times lie within one interval are answered by tasks that take their steps in
any order. Older messages may be considered after newer ones, and newcomers may cause
sweeps; neither makes a difference, because all times of the stretch count for each other.

What every step preserves: for each author the window holds as many times as tasks have
passed the limiter, and that is the number of tasks that have asked it, up to the capacity.
A task that has asked has either passed or failed for want of room, so in the end the two
numbers make up all messages of the author.

Main statement: `burst_admits_capacity`.
-/

import ChatCommands.Proofs.Dispatcher.Tasks

namespace ChatCommands

variable {π : Type} {policy : RatePolicy} {start : Int}

/-! ## Considering a message of the burst -/

namespace Dispatcher

variable {dispatcher origin : Dispatcher π} {message : Message}

theorem snd_consider_of_resolves (uptime : Int) (resolves : dispatcher.Resolves message) :
    (dispatcher.consider uptime message).2 = dispatcher.asked message := by
  cases said : (dispatcher.limiter.check message.author message.time).1 with
  | denied remaining =>
      obtain ⟨command, considered⟩ := consider_of_denied uptime resolves said
      rw [considered]
  | admitted =>
      obtain ⟨invocation, found, parsed, registered⟩ := resolves
      rw [consider_of_admitted uptime parsed registered said]

theorem resolves_congr (grammar : dispatcher.grammar = origin.grammar)
    (snapshot : dispatcher.snapshot = origin.snapshot) (resolves : origin.Resolves message) :
    dispatcher.Resolves message := by
  obtain ⟨invocation, found, parsed, registered⟩ := resolves
  exact ⟨invocation, found, by rw [grammar, parsed], by rw [snapshot, registered]⟩

end Dispatcher

namespace DispatchTask

variable {dispatcher : Dispatcher π} {message : Message} {task next : DispatchTask π}

theorem passedFor_spawned (author : String) (message : Message) :
    passedFor author (spawned message : DispatchTask π) = false := by
  simp [passedFor, spawned]

theorem askedFor_spawned (author : String) (message : Message) :
    askedFor author (spawned message : DispatchTask π) = false := by
  simp [askedFor, spawned]

theorem askedFor_considered (uptime : Int) (resolves : dispatcher.Resolves message)
    (author : String) :
    askedFor author (dispatcher.considered uptime message) = true ↔ message.author = author := by
  rw [askedFor, Dispatcher.considered, Dispatcher.verdict?_of_resolves resolves]
  simp

/-- A task passes the limiter exactly if the window of its author has room. -/
theorem passedFor_considered (uptime : Int) (resolves : dispatcher.Resolves message)
    (holds : RateLimiter.HoldsSpan policy start dispatcher.limiter)
    (now : policy.Spans start message.time) (admits : 0 < policy.capacity) (author : String) :
    passedFor author (dispatcher.considered uptime message) = true ↔
      message.author = author ∧ (dispatcher.limiter.window author).length < policy.capacity := by
  rw [passedFor, Dispatcher.considered, Dispatcher.verdict?_of_resolves resolves,
    decide_eq_true_eq, Option.some_inj]
  apply and_congr_right
  rintro rfl
  exact holds.fst_check_eq_admitted_iff now admits

theorem passedFor_congr (message : next.message = task.message)
    (verdict : next.verdict? = task.verdict?) (author : String) :
    passedFor author next = passedFor author task := by
  rw [passedFor, passedFor, message, verdict]

theorem askedFor_congr (message : next.message = task.message)
    (verdict : next.verdict? = task.verdict?) (author : String) :
    askedFor author next = askedFor author task := by
  rw [askedFor, askedFor, message, verdict]

theorem IsRuled.askedFor_iff (ruled : task.IsRuled) (settled : task.stage ≠ .waiting)
    (author : String) : askedFor author task = true ↔ task.message.author = author := by
  rw [askedFor, decide_eq_true_eq]
  cases ruled with
  | waiting message => exact absurd rfl settled
  | passed verdict _ => simp [verdict]
  | refused verdict _ => simp [verdict]

/-- A task that has asked has passed or is limited, and not both. -/
theorem IsRuled.count_askedFor (ruled : task.IsRuled) (author : String) :
    (if askedFor author task then 1 else 0) =
      (if passedFor author task then 1 else 0) + (if limitedFor author task then 1 else 0) := by
  rw [askedFor, passedFor, limitedFor]
  cases ruled with
  | waiting message => simp [spawned, isLimited, outcome?]
  | passed verdict unlimited => simp [verdict, unlimited]
  | refused verdict limited => simp [verdict, limited]

theorem countP_askedFor {tasks : List (DispatchTask π)} (ruled : ∀ task ∈ tasks, task.IsRuled)
    (author : String) :
    tasks.countP (askedFor author) =
      tasks.countP (passedFor author) + tasks.countP (limitedFor author) := by
  induction tasks with
  | nil => rfl
  | cons task rest ih =>
      have own := (ruled task List.mem_cons_self).count_askedFor author
      have others := ih fun other member => ruled other (List.mem_cons_of_mem task member)
      rw [List.countP_cons, List.countP_cons, List.countP_cons]
      omega

end DispatchTask

/-! ## What every step preserves -/

namespace TaskPool

variable {origin dispatcher : Dispatcher π} {before later : List (DispatchTask π)}

theorem countP_exchange {test : DispatchTask π → Bool} {task : DispatchTask π}
    (unmet : test task = false) (next : DispatchTask π) (before later : List (DispatchTask π)) :
    (before ++ next :: later).countP test =
      (before ++ task :: later).countP test + if test next then 1 else 0 := by
  rw [List.countP_append, List.countP_append, List.countP_cons, List.countP_cons, unmet,
    if_neg Bool.false_ne_true]
  omega

theorem countP_exchange_of_eq {test : DispatchTask π → Bool} {task next : DispatchTask π}
    (same : test next = test task) (before later : List (DispatchTask π)) :
    (before ++ next :: later).countP test = (before ++ task :: later).countP test := by
  rw [List.countP_append, List.countP_append, List.countP_cons, List.countP_cons, same]

theorem countP_spawned {test : DispatchTask π → Bool} (messages : List Message)
    (unmet : ∀ message, test (.spawned message) = false) :
    (messages.map DispatchTask.spawned).countP test = 0 := by
  rw [List.countP_eq_zero, List.forall_mem_map]
  intro message _
  rw [unmet]
  exact Bool.false_ne_true

/-- What holds of a task throughout a burst. -/
structure TakesPart (policy : RatePolicy) (start : Int) (origin : Dispatcher π)
    (task : DispatchTask π) : Prop where
  spans : policy.Spans start task.message.time
  resolves : origin.Resolves task.message
  ruled : task.IsRuled

/-- What holds of a dispatcher and its tasks throughout a burst. -/
structure InBurst (policy : RatePolicy) (start : Int) (origin dispatcher : Dispatcher π)
    (tasks : List (DispatchTask π)) : Prop where
  grammar : dispatcher.grammar = origin.grammar
  snapshot : dispatcher.snapshot = origin.snapshot
  holds : RateLimiter.HoldsSpan policy start dispatcher.limiter
  takesPart : ∀ task ∈ tasks, TakesPart policy start origin task
  window : ∀ author, (dispatcher.limiter.window author).length =
    tasks.countP (DispatchTask.passedFor author)
  passed : ∀ author, tasks.countP (DispatchTask.passedFor author) =
    min (tasks.countP (DispatchTask.askedFor author)) policy.capacity

theorem inBurst_spawn {messages : List Message}
    (limiter : origin.limiter = .ofPolicy (some policy))
    (spans : ∀ message ∈ messages, policy.Spans start message.time)
    (resolves : ∀ message ∈ messages, origin.Resolves message) :
    InBurst policy start origin origin (messages.map DispatchTask.spawned) := by
  have unpassed := fun author =>
    countP_spawned messages (@DispatchTask.passedFor_spawned π author)
  have unasked := fun author =>
    countP_spawned messages (@DispatchTask.askedFor_spawned π author)
  constructor
  case grammar => rfl
  case snapshot => rfl
  case holds =>
    rw [limiter]
    exact .ofPolicy policy start
  case takesPart =>
    rw [List.forall_mem_map]
    intro message listed
    exact ⟨spans message listed, resolves message listed, .waiting message⟩
  case window =>
    intro author
    rw [unpassed, limiter]
    rfl
  case passed =>
    intro author
    rw [unpassed, unasked, Nat.zero_min]

/-- When a message is considered, its author has one task more that has asked, and one more
time in the window if there was room. -/
theorem InBurst.consider {message : Message}
    (inBurst : InBurst policy start origin dispatcher (before ++ .spawned message :: later))
    (admits : 0 < policy.capacity) (uptime : Int) :
    InBurst policy start origin (dispatcher.consider uptime message).2
      (before ++ dispatcher.considered uptime message :: later) := by
  have own := inBurst.takesPart (.spawned message) (by simp)
  have now : policy.Spans start message.time := own.spans
  have found : dispatcher.Resolves message :=
    Dispatcher.resolves_congr inBurst.grammar inBurst.snapshot own.resolves
  have passing := DispatchTask.passedFor_considered uptime found inBurst.holds now admits
  have asking := DispatchTask.askedFor_considered uptime found
  have passedNow := fun author => countP_exchange
    (DispatchTask.passedFor_spawned author message) (dispatcher.considered uptime message)
    before later
  have askedNow := fun author => countP_exchange
    (DispatchTask.askedFor_spawned author message) (dispatcher.considered uptime message)
    before later
  simp only [passing] at passedNow
  simp only [asking] at askedNow
  have lengths := inBurst.holds.length_window_check now admits message.author
  rw [Dispatcher.snd_consider_of_resolves uptime found]
  constructor
  case grammar => exact inBurst.grammar
  case snapshot => exact inBurst.snapshot
  case holds => exact inBurst.holds.check now admits message.author
  case takesPart =>
    exact forall_exchange inBurst.takesPart
      ⟨own.spans, own.resolves, DispatchTask.isRuled_considered uptime found⟩
  case window =>
    intro author
    have bounded := inBurst.holds.bounded author
    rw [Dispatcher.asked, lengths, passedNow, ← inBurst.window]
    by_cases same : message.author = author
    · simp only [same, true_and, if_true]
      split <;> omega
    · simp only [same, false_and, if_false, Nat.add_zero]
  case passed =>
    intro author
    have before_eq := inBurst.passed author
    rw [passedNow, askedNow, inBurst.window]
    by_cases same : message.author = author
    · simp only [same, true_and, if_true]
      split <;> omega
    · simp only [same, false_and, if_false, Nat.add_zero]
      exact before_eq

/-- A step that leaves the limiter alone and the ruling of its task as it is. -/
theorem InBurst.keep {after : Dispatcher π} {task next : DispatchTask π}
    (inBurst : InBurst policy start origin dispatcher (before ++ task :: later))
    (grammar : after.grammar = dispatcher.grammar)
    (snapshot : after.snapshot = dispatcher.snapshot)
    (limiter : after.limiter = dispatcher.limiter) (message : next.message = task.message)
    (verdict : next.verdict? = task.verdict?) (ruled : task.IsRuled → next.IsRuled) :
    InBurst policy start origin after (before ++ next :: later) := by
  have own := inBurst.takesPart task (by simp)
  have passed_eq := fun author =>
    countP_exchange_of_eq (DispatchTask.passedFor_congr message verdict author) before later
  have asked_eq := fun author =>
    countP_exchange_of_eq (DispatchTask.askedFor_congr message verdict author) before later
  constructor
  case grammar => exact grammar.trans inBurst.grammar
  case snapshot => exact snapshot.trans inBurst.snapshot
  case holds =>
    rw [limiter]
    exact inBurst.holds
  case takesPart =>
    apply forall_exchange inBurst.takesPart
    exact ⟨message ▸ own.spans, message ▸ own.resolves, ruled own.ruled⟩
  case window =>
    intro author
    rw [passed_eq, limiter]
    exact inBurst.window author
  case passed =>
    intro author
    rw [passed_eq, asked_eq]
    exact inBurst.passed author

theorem InBurst.step {pool next : TaskPool π}
    (inBurst : InBurst policy start origin pool.dispatcher pool.tasks)
    (admits : 0 < policy.capacity) (step : Step pool next) :
    InBurst policy start origin next.dispatcher next.tasks := by
  cases step with
  | task before later step =>
      rcases step.asks_or_keeps with ⟨uptime, fresh, rfl, rfl⟩ |
        ⟨grammar, snapshot, limiter, message, verdict, ruled⟩
      · rw [fresh] at inBurst
        exact inBurst.consider admits uptime
      · exact inBurst.keep grammar snapshot limiter message verdict ruled

theorem InBurst.run {pool next : TaskPool π}
    (inBurst : InBurst policy start origin pool.dispatcher pool.tasks)
    (admits : 0 < policy.capacity) (run : Run pool next) :
    InBurst policy start origin next.dispatcher next.tasks := by
  induction run with
  | refl => exact inBurst
  | tail _ last ih => exact ih.step admits last

/-! ## The outcome of a burst -/

theorem Step.map_message {pool next : TaskPool π} (step : Step pool next) :
    next.tasks.map DispatchTask.message = pool.tasks.map DispatchTask.message := by
  cases step with
  | task before later step =>
      rw [List.map_append, List.map_append, List.map_cons, List.map_cons, step.message_eq]

theorem Run.map_message {pool next : TaskPool π} (run : Run pool next) :
    next.tasks.map DispatchTask.message = pool.tasks.map DispatchTask.message := by
  induction run with
  | refl => rfl
  | tail _ last ih => exact last.map_message.trans ih

/-- Once all messages have been considered, as many of each author have passed the limiter as
the policy admits, all others of the author have failed because they have to wait, and the
limiter reports that number at every instant of the stretch. The order of the steps and of
the messages makes no difference. -/
theorem burst_admits_capacity {origin after : Dispatcher π} {messages : List Message}
    {tasks : List (DispatchTask π)} (admits : 1 ≤ policy.capacity)
    (limiter : origin.limiter = .ofPolicy (some policy))
    (spans : ∀ message ∈ messages, policy.Spans start message.time)
    (resolves : ∀ message ∈ messages, origin.Resolves message)
    (run : Run (spawn origin messages) ⟨after, tasks⟩)
    (settled : ∀ task ∈ tasks, task.stage ≠ .waiting) (author : String) :
    let sent := messages.countP fun message => message.author = author
    tasks.countP (DispatchTask.passedFor author) = min sent policy.capacity ∧
    tasks.countP (DispatchTask.limitedFor author) = sent - min sent policy.capacity ∧
    ∀ time, policy.Spans start time → after.limiter.usage? author time =
      some ⟨min sent policy.capacity, policy.capacity, policy.interval⟩ := by
  intro sent
  have inBurst : InBurst policy start origin after tasks :=
    (inBurst_spawn limiter spans resolves).run admits run
  have asked : tasks.countP (DispatchTask.askedFor author) = sent := by
    have same : tasks.map DispatchTask.message = messages := by
      rw [run.map_message, spawn, List.map_map]
      exact List.map_id messages
    show _ = messages.countP _
    rw [← same, List.countP_map]
    apply List.countP_congr
    intro task member
    rw [(inBurst.takesPart task member).ruled.askedFor_iff (settled task member)]
    exact decide_eq_true_iff.symm
  have passed := inBurst.passed author
  have total := DispatchTask.countP_askedFor (fun task member => (inBurst.takesPart task member).ruled)
    author
  rw [asked] at passed total
  refine ⟨passed, by omega, fun time now => ?_⟩
  rw [inBurst.holds.usage?_eq now, inBurst.window, passed]

/-- The older message of an author is considered after the newer one, with that of another
author in between. -/
theorem burst_admits_capacity_swapped :
    let spec : CommandSpec := { name := "echo", doc? := none, parameters := [.request "request"] }
    let package : Package Unit := (Package.ofName "general" none).add
      (.ofDeclared "Echo" none () [spec])
    let policy : RatePolicy := ⟨60, 1⟩
    let dispatcher : Dispatcher Unit :=
      { Dispatcher.ofGrammar {} (Snapshot.empty.insert package) with
        limiter := .ofPolicy (some policy) }
    let older : Message := ⟨"m1", "ada", "room", "/echo", 0⟩
    let newer : Message := ⟨"m2", "ada", "room", "/echo", 59⟩
    let other : Message := ⟨"m3", "grace", "room", "/echo", 40⟩
    let messages := [older, newer, other]
    1 ≤ policy.capacity ∧ dispatcher.limiter = .ofPolicy (some policy) ∧
      (∀ message ∈ messages, policy.Spans 0 message.time) ∧
      (∀ message ∈ messages, dispatcher.Resolves message) ∧
      ∃ after tasks, Run (spawn dispatcher messages) ⟨after, tasks⟩ ∧
        (∀ task ∈ tasks, task.stage ≠ .waiting) ∧
        tasks.map (DispatchTask.passedFor "ada") = [false, true, false] ∧
        tasks.countP (DispatchTask.passedFor "ada") = 1 ∧
        tasks.countP (DispatchTask.limitedFor "ada") = 1 ∧
        after.limiter.usage? "ada" 20 = some ⟨1, 1, 60⟩ := by
  intro spec package policy dispatcher older newer other messages
  have spans : ∀ message ∈ messages, policy.Spans 0 message.time := by decide
  have resolves : ∀ message ∈ messages, dispatcher.Resolves message := by decide +kernel
  let second := (dispatcher.consider 0 newer).2
  let third := (second.consider 0 other).2
  have run : Run (spawn dispatcher messages) ⟨(third.consider 0 older).2,
      [third.considered 0 older, dispatcher.considered 0 newer, second.considered 0 other]⟩ :=
    ((Relation.ReflTransGen.single
      (.task [.spawned older] [.spawned other] (.consider dispatcher 0 newer))).tail
      (.task [.spawned older, dispatcher.considered 0 newer] [] (.consider second 0 other))).tail
      (.task [] [dispatcher.considered 0 newer, second.considered 0 other]
        (.consider third 0 older))
  have settled : ∀ task ∈ [third.considered 0 older, dispatcher.considered 0 newer,
      second.considered 0 other], task.stage ≠ .waiting := by
    simp [Dispatcher.stage_considered_ne_waiting]
  obtain ⟨passed, limited, usage⟩ :=
    burst_admits_capacity (by decide) rfl spans resolves run settled "ada"
  exact ⟨by decide, rfl, spans, resolves, _, _, run, settled, by decide +kernel, passed, limited,
    usage 20 (by decide)⟩

end TaskPool

end ChatCommands
