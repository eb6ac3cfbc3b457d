/-
# What a sweep takes

Only a call of an author without a window can be preceded by a sweep, and only if many
windows are held. Such a call takes the windows whose newest time has left the interval, and
gives its author a window of its own. A time that lies ahead of the call counts, however far
ahead it is. Any other call touches the window of its author and no other one.

Main statement: `check_sweeps_exactly`, for every limiter that requests can lead to. That no
window is kept empty matters here: an empty window has no newest time, and a sweep would
leave it alone. The bound on the windows follows: they are more than 1024 after a new author
has called only if all of them still count.
-/

import ChatCommands.Proofs.RateLimit.Held
import ChatCommands.Proofs.RateLimit.Isolation

namespace ChatCommands

namespace RatePolicy

variable {policy : RatePolicy} {window : CallWindow} {time : Int}

/-- The newest time of a window lies within the interval before `time`, or after `time`. -/
def IsRecent (policy : RatePolicy) (time : Int) (window : CallWindow) : Prop :=
  ∃ newest, window.getLast? = some newest ∧ time - policy.interval < newest

theorem isLive_eq_true_iff_isRecent (nonempty : window ≠ []) :
    policy.isLive time window = true ↔ policy.IsRecent time window := by
  have last := List.getLast?_eq_some_getLast nonempty
  rw [isLive, IsRecent, last]
  simp only [counts_eq_true_iff, Option.some.injEq, exists_eq_left']
  omega

theorem isRecent_singleton (positive : 0 < policy.interval) (time : Int) :
    policy.IsRecent time [time] :=
  ⟨time, rfl, Int.sub_lt_self time (Int.natCast_pos.mpr positive)⟩

theorem record_nil (policy : RatePolicy) (time : Int) : policy.record [] time = [time] := by
  rw [record, List.drop_nil, List.nil_append]

end RatePolicy

namespace RateLimiter

variable {limiter : RateLimiter} {policy : RatePolicy} {author : String}

/-! ## Calls of new authors -/

/-- A call of a new author that is preceded by a sweep leaves the windows that still count,
and a window with the call alone. -/
theorem get?_windows_check_of_due (configured : limiter.policy? = some policy)
    (limits : policy.capacity ≠ 0) (due : limiter.needsSweep author = true) (time : Int)
    (other : String) :
    (limiter.check author time).2.windows.get? other =
      if author = other then some [time]
      else (limiter.windows.get? other).filter (policy.isLive time) := by
  have absent := ((needsSweep_eq_true_iff author).mp due).2
  rw [check_of_absent configured limits absent, recorded, OrderedMap.get?_insert,
    window_prepared_self, window_eq_nil_of_not_mem absent, RatePolicy.record_nil, prepared,
    if_pos due, sweep, OrderedMap.get?_filter]

/-! ## Calls without a sweep -/

theorem snd_check_of_unswept (configured : limiter.policy? = some policy)
    (limits : policy.capacity ≠ 0) (unswept : limiter.needsSweep author = false) (time : Int) :
    (limiter.check author time).2 = limiter ∨
      (limiter.check author time).2 = recorded policy limiter author time := by
  rw [check_eq_judge configured limits, prepared_of_unswept unswept, judge_eq]
  split
  · exact .inr rfl
  · exact .inl rfl

theorem get?_windows_check_of_unswept (configured : limiter.policy? = some policy)
    (limits : policy.capacity ≠ 0) (unswept : limiter.needsSweep author = false) (time : Int)
    {other : String} (distinct : other ≠ author) :
    (limiter.check author time).2.windows.get? other = limiter.windows.get? other := by
  rcases snd_check_of_unswept configured limits unswept time with same | same
  · rw [same]
  · rw [same, recorded, OrderedMap.get?_insert, if_neg (Ne.symm distinct)]

theorem mem_keys_check_of_unswept (configured : limiter.policy? = some policy)
    (limits : policy.capacity ≠ 0) (unswept : limiter.needsSweep author = false) (time : Int)
    {other : String} (held : other ∈ limiter.windows.keys) :
    other ∈ (limiter.check author time).2.windows.keys := by
  rcases snd_check_of_unswept configured limits unswept time with same | same
  · rw [same]
    exact held
  · rw [same, mem_keys_recorded]
    exact .inr held

theorem trackedAuthors_recorded_le (policy : RatePolicy) (limiter : RateLimiter)
    (author : String) (time : Int) :
    (recorded policy limiter author time).trackedAuthors ≤ limiter.trackedAuthors + 1 := by
  rw [trackedAuthors, trackedAuthors, ← OrderedMap.length_keys, ← OrderedMap.length_keys, recorded,
    OrderedMap.keys_insert]
  split
  · exact Nat.le_succ _
  · rw [List.length_append, List.length_singleton]

/-- Without a sweep a call adds at most one window. -/
theorem trackedAuthors_check_le (configured : limiter.policy? = some policy)
    (limits : policy.capacity ≠ 0) (unswept : limiter.needsSweep author = false) (time : Int) :
    (limiter.check author time).2.trackedAuthors ≤ limiter.trackedAuthors + 1 := by
  rcases snd_check_of_unswept configured limits unswept time with same | same
  · rw [same]
    exact Nat.le_succ _
  · rw [same]
    exact trackedAuthors_recorded_le policy limiter author time

/-! ## Limiters that hold no empty window -/

/-- What a new author's call leaves after a sweep. -/
theorem get?_windows_check_eq_some_iff (configured : limiter.policy? = some policy)
    (limits : policy.capacity ≠ 0)
    (nonempty : ∀ other window, limiter.windows.get? other = some window → window ≠ [])
    (due : limiter.needsSweep author = true) (time : Int) (other : String)
    (window : CallWindow) :
    (limiter.check author time).2.windows.get? other = some window ↔
      other = author ∧ window = [time] ∨
        limiter.windows.get? other = some window ∧ policy.IsRecent time window := by
  rw [get?_windows_check_of_due configured limits due]
  by_cases own : author = other
  · subst own
    have absent := ((needsSweep_eq_true_iff author).mp due).2
    have nothing := (OrderedMap.get?_eq_none_iff _ _).mpr absent
    simp [nothing, eq_comm]
  · have strange : other ≠ author := Ne.symm own
    rw [if_neg own, Option.filter_eq_some_iff]
    constructor
    · rintro ⟨held, live⟩
      exact .inr ⟨held, (RatePolicy.isLive_eq_true_iff_isRecent (nonempty other window held)).mp live⟩
    · rintro (⟨same, -⟩ | ⟨held, recent⟩)
      · exact absurd same strange
      · exact ⟨held, (RatePolicy.isLive_eq_true_iff_isRecent (nonempty other window held)).mpr recent⟩

/-- In every limiter that requests can lead to, a call of an author without a window, made
while 1024 windows or more are held, leaves the window of that call and, unchanged, those of
the earlier windows whose newest time is later than the time of the call less the interval.
Every other call removes no window and leaves the windows of the other authors as they are.
Hence after a call that has added a window there are more than 1024 only if all of them
count. -/
theorem check_sweeps_exactly (policy : RatePolicy) (admits : 1 ≤ policy.capacity)
    (requests : List LimiterRequest) (author : String) (time : Int) :
    let before := (ofPolicy (some policy)).afterRequests requests
    let after := (before.check author time).2
    let isNewcomer := author ∉ before.windows.keys
    let isCrowded := 1024 ≤ before.trackedAuthors
    (isNewcomer ∧ isCrowded → ∀ other window,
      after.windows.get? other = some window ↔
        other = author ∧ window = [time] ∨
          before.windows.get? other = some window ∧ policy.IsRecent time window) ∧
    (¬(isNewcomer ∧ isCrowded) →
      (∀ other ∈ before.windows.keys, other ∈ after.windows.keys) ∧
      ∀ other, other ≠ author → after.windows.get? other = before.windows.get? other) ∧
    (0 < policy.interval → isNewcomer → 1024 < after.trackedAuthors → ∀ other window,
      after.windows.get? other = some window → policy.IsRecent time window) := by
  intro before after isNewcomer isCrowded
  have configured : before.policy? = some policy := policy?_afterRequests requests
  have limits : policy.capacity ≠ 0 := Nat.ne_of_gt admits
  have nonempty : ∀ other window, before.windows.get? other = some window → window ≠ [] :=
    fun other => (holds_afterRequests admits requests other).nonempty
  have due_iff : before.needsSweep author = true ↔ isNewcomer ∧ isCrowded :=
    (needsSweep_eq_true_iff author).trans and_comm
  have swept : isNewcomer ∧ isCrowded → ∀ other window,
      after.windows.get? other = some window ↔
        other = author ∧ window = [time] ∨
          before.windows.get? other = some window ∧ policy.IsRecent time window :=
    fun both => get?_windows_check_eq_some_iff configured limits nonempty (due_iff.mpr both) time
  refine ⟨swept, fun notBoth => ?frame, fun positive newcomer many other window held => ?bound⟩
  case frame =>
    have unswept := Bool.eq_false_of_not_eq_true (mt due_iff.mp notBoth)
    exact ⟨fun other => mem_keys_check_of_unswept configured limits unswept time,
      fun other => get?_windows_check_of_unswept configured limits unswept time⟩
  case bound =>
    by_cases crowded : isCrowded
    · rcases (swept ⟨newcomer, crowded⟩ other window).mp held with ⟨-, rfl⟩ | ⟨-, recent⟩
      · exact RatePolicy.isRecent_singleton positive time
      · exact recent
    · have unswept := Bool.eq_false_of_not_eq_true (mt due_iff.mp fun both => crowded both.2)
      have few : after.trackedAuthors ≤ before.trackedAuthors + 1 :=
        trackedAuthors_check_le configured limits unswept time
      exact absurd crowded (by omega)

theorem get?_windows_eq_some {window : CallWindow} (kept : limiter.window author = window)
    (nonempty : window ≠ []) : limiter.windows.get? author = some window := by
  subst kept
  rw [RateLimiter.window] at nonempty ⊢
  cases found : limiter.windows.get? author with
  | none =>
      rw [found] at nonempty
      exact absurd rfl nonempty
  | some held => rfl

theorem afterRequests_map_check (calls : List RateCall) :
    limiter.afterRequests (calls.map fun call => .check call.author call.time) =
      limiter.afterCalls calls := by
  induction calls generalizing limiter with
  | nil => rfl
  | cons call rest ih => exact ih

/-- An author whose clock is ahead, and then another one. -/
def earlyCalls : List RateCall := [⟨"ada", 100⟩, ⟨"bob", 0⟩]

/-- After the two a crowd of others calls for the first time. The crowd is left open: written
down, it would be unfolded call by call. -/
theorem windows_after_crowd {crowd : List RateCall} (size : crowd.length = 1022)
    (distinct : (crowd.map RateCall.author).Nodup)
    (strange : ∀ name ∈ ["ada", "bob", "newcomer"], name ∉ crowd.map RateCall.author) :
    let before := (ofPolicy (some ⟨60, 1⟩)).afterRequests
      ((earlyCalls ++ crowd).map fun call => .check call.author call.time)
    "newcomer" ∉ before.windows.keys ∧ 1024 ≤ before.trackedAuthors ∧
      before.windows.get? "ada" = some [100] ∧ before.windows.get? "bob" = some [0] := by
  intro before
  let called : RateLimiter := ⟨some ⟨60, 1⟩, .ofList [("ada", [100]), ("bob", [0])]⟩
  have before_eq : before = called.afterCalls crowd := afterRequests_map_check (earlyCalls ++ crowd)
  have known : called.windows.keys = ["ada", "bob"] := rfl
  have two : called.trackedAuthors = 2 := rfl
  have fresh : (called.windows.keys ++ crowd.map RateCall.author).Nodup := by
    rw [List.nodup_append]
    refine ⟨called.windows.nodup_keys, distinct, ?_⟩
    rintro name early other member rfl
    rw [known] at early
    exact strange name (List.mem_append_left ["newcomer"] early) member
  have room : called.trackedAuthors + crowd.length ≤ sweepThreshold := by
    rw [two, size]
    decide
  obtain ⟨keys, windows⟩ := afterCalls_of_nodup rfl (by decide) fresh room
  rw [← before_eq] at keys windows
  refine ⟨?_, ?_, ?_, ?_⟩
  · rw [keys, List.mem_append]
    rintro (early | member)
    · exact absurd early (by decide)
    · exact strange "newcomer" (by decide) member
  · rw [trackedAuthors, ← OrderedMap.length_keys, keys, List.length_append, List.length_map, size,
      OrderedMap.length_keys, ← trackedAuthors, two]
  · exact get?_windows_eq_some (windows "ada" (by decide)) (by decide)
  · exact get?_windows_eq_some (windows "bob" (by decide)) (by decide)

/-- A newcomer in a crowd takes the window of an author that called a minute ago. It keeps the
one of an author whose clock is ahead. -/
theorem check_sweeps_exactly_ahead :
    let policy : RatePolicy := ⟨60, 1⟩
    let requests : List LimiterRequest :=
      (earlyCalls ++ strangers.tail).map fun call => .check call.author call.time
    let before := (ofPolicy (some policy)).afterRequests requests
    let after := (before.check "newcomer" 60).2
    1 ≤ policy.capacity ∧ "newcomer" ∉ before.windows.keys ∧ 1024 ≤ before.trackedAuthors ∧
      after.windows.get? "ada" = some [100] ∧ after.windows.get? "newcomer" = some [60] ∧
      after.windows.get? "bob" = none := by
  have size : strangers.tail.length = 1022 := by
    rw [List.length_tail, strangers, List.length_map, List.length_range]
  have distinct : (strangers.tail.map RateCall.author).Nodup :=
    nodup_strangers.sublist ((List.tail_sublist _).map _)
  have strange : ∀ name ∈ ["ada", "bob", "newcomer"],
      name ∉ strangers.tail.map RateCall.author := by
    intro name named member
    obtain ⟨call, listed, same⟩ := List.mem_map.mp member
    have others : ∀ name ∈ ["ada", "bob", "newcomer"], name.toList.head? ≠ some 'c' := by decide
    exact author_ne_of_mem_strangers (List.mem_of_mem_tail listed) (others name named) same
  have crowd := windows_after_crowd size distinct strange
  have swept := (check_sweeps_exactly ⟨60, 1⟩ (by decide)
    ((earlyCalls ++ strangers.tail).map fun call => .check call.author call.time) "newcomer" 60).1
  dsimp only at crowd swept ⊢
  -- From here on it does not matter how the crowd came about.
  generalize (ofPolicy (some ⟨60, 1⟩)).afterRequests _ = before at crowd swept ⊢
  obtain ⟨newcomer, crowded, ada, bob⟩ := crowd
  have left := swept ⟨newcomer, crowded⟩
  refine ⟨by decide, newcomer, crowded, ?_, ?_, ?_⟩
  · exact (left "ada" [100]).mpr (.inr ⟨ada, 100, rfl, by decide⟩)
  · exact (left "newcomer" [60]).mpr (.inl ⟨rfl, rfl⟩)
  · rw [Option.eq_none_iff_forall_ne_some]
    intro window kept
    rcases (left "bob" window).mp kept with ⟨same, -⟩ | ⟨held, newest, last, recent⟩
    · exact absurd same (by decide)
    · cases bob.symm.trans held
      cases last
      exact absurd recent (by decide)

end RateLimiter

end ChatCommands
