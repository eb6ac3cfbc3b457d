/-
# What a check does

The laws of a window say when a call may go on and what the window is afterwards. The
laws of the limiter say how one check moves the windows of all authors: a check is a
sweep, if one is due, followed by a judgement, and a judgement touches the window of
its author only. Everything that is shown about runs of a limiter rests on these laws
and not on the definition of `check`.
-/

import ChatCommands.Proofs.OrderedMap
import ChatCommands.RateLimit
import Mathlib.Data.List.DropRight

namespace ChatCommands

open Number (Duration)

namespace RatePolicy

variable (policy : RatePolicy)

/-! ## Windows -/

theorem wait_of_length_lt {window : CallWindow} (time : Int)
    (room : window.length < policy.capacity) : policy.wait window time = 0 := by
  cases window with
  | nil => rfl
  | cons oldest rest => rw [wait, if_pos room]

theorem wait_cons_of_le {oldest : Int} {rest : CallWindow} (time : Int)
    (full : policy.capacity ≤ (oldest :: rest).length) :
    policy.wait (oldest :: rest) time = policy.interval - (time - oldest).toNat := by
  rw [wait, if_neg (Nat.not_lt.mpr full)]

theorem counts_eq_true_iff (time earlier : Int) :
    policy.counts time earlier = true ↔ time < earlier + policy.interval := by
  rw [counts, decide_eq_true_iff]
  omega

theorem counts_eq_false_iff (time earlier : Int) :
    policy.counts time earlier = false ↔ earlier + policy.interval ≤ time := by
  rw [← Bool.not_eq_true, counts_eq_true_iff, Int.not_lt]

theorem wait_cons_of_counts_eq_false {oldest time : Int} (rest : CallWindow)
    (expired : policy.counts time oldest = false) :
    policy.wait (oldest :: rest) time = 0 := by
  rw [counts_eq_false_iff] at expired
  rw [wait]
  split
  · rfl
  · exact Nat.sub_eq_zero_of_le (by omega)

/-- A window no longer counts exactly if it has a latest time and that one does not. -/
theorem isLive_eq_false_iff {window : CallWindow} {time : Int} :
    policy.isLive time window = false ↔
      ∃ earlier newest, window = earlier ++ [newest] ∧ policy.counts time newest = false := by
  constructor
  · intro dead
    rw [isLive] at dead
    split at dead
    · cases dead
    · next newest last =>
      obtain ⟨earlier, partition⟩ := List.getLast?_eq_some_iff.mp last
      exact ⟨earlier, newest, partition, dead⟩
  · rintro ⟨earlier, newest, rfl, expired⟩
    rw [isLive, List.getLast?_concat]
    exact expired

/-- A window that no longer counts does not count later. -/
theorem isLive_eq_false_of_le {window : CallWindow} {time later : Int}
    (dead : policy.isLive time window = false) (notEarlier : time ≤ later) :
    policy.isLive later window = false := by
  rw [isLive_eq_false_iff] at dead ⊢
  obtain ⟨earlier, newest, partition, expired⟩ := dead
  refine ⟨earlier, newest, partition, ?_⟩
  rw [counts_eq_false_iff] at expired ⊢
  exact Int.le_trans expired notEarlier

/-- If a full window makes nobody wait, its oldest time has left the interval. -/
theorem add_interval_le_of_wait_eq_zero {oldest time : Int} {rest : CallWindow}
    (positive : 0 < policy.interval) (full : policy.capacity ≤ (oldest :: rest).length)
    (free : policy.wait (oldest :: rest) time = 0) : oldest + policy.interval ≤ time := by
  rw [wait_cons_of_le policy time full] at free
  have passed := Nat.le_of_sub_eq_zero free
  have later := Int.lt_toNat.mp (Nat.lt_of_lt_of_le positive passed)
  omega

theorem record_of_length_lt {window : CallWindow} (time : Int)
    (room : window.length < policy.capacity) :
    policy.record window time = window ++ [time] := by
  rw [record, Nat.sub_eq_zero_of_le room, List.drop_zero]

/-- If a window holds the latest of some times, then so it does after one more. -/
theorem record_rtake (past : List Int) (time : Int) (admits : 0 < policy.capacity) :
    policy.record (past.rtake policy.capacity) time =
      (past ++ [time]).rtake policy.capacity := by
  have kept : past.length + 1 - policy.capacity ≤ past.length := by omega
  simp only [record, List.rtake, List.length_drop, List.drop_drop, List.length_append,
    List.length_singleton]
  rw [List.drop_append_of_le_length kept]
  congr 2
  omega

end RatePolicy

/-- What a limiter says to a call that has to wait so long. -/
def Verdict.ofWait : Duration → Verdict
  | 0 => .admitted
  | remaining + 1 => .denied (remaining + 1)

@[simp] theorem Verdict.ofWait_eq_admitted_iff (remaining : Duration) :
    Verdict.ofWait remaining = .admitted ↔ remaining = 0 := by
  cases remaining with
  | zero => exact ⟨fun _ => rfl, fun _ => rfl⟩
  | succ remaining =>
      constructor
      · intro same
        cases same
      · intro same
        cases same

@[simp] theorem Verdict.ofWait_eq_denied_iff (wait remaining : Duration) :
    Verdict.ofWait wait = .denied remaining ↔ wait = remaining ∧ 0 < remaining := by
  cases wait with
  | zero =>
      constructor
      · intro same
        cases same
      · rintro ⟨rfl, positive⟩
        exact absurd positive (Nat.lt_irrefl 0)
  | succ wait =>
      constructor
      · intro same
        cases same
        exact ⟨rfl, Nat.succ_pos wait⟩
      · rintro ⟨rfl, -⟩
        rfl

namespace RateLimiter

variable {limiter : RateLimiter} {policy : RatePolicy}

/-! ## Windows of a limiter -/

/-- The limiter after a call is recorded. -/
def recorded (policy : RatePolicy) (limiter : RateLimiter) (author : String) (time : Int) :
    RateLimiter :=
  { limiter with
    windows := limiter.windows.insert author (policy.record (limiter.window author) time) }

/-- A call is recorded in the window of its author and in no other. -/
theorem window_recorded (author other : String) (time : Int) :
    (recorded policy limiter author time).window other =
      if author = other then policy.record (limiter.window author) time
      else limiter.window other := by
  rw [window, recorded, OrderedMap.get?_insert]
  split
  · rfl
  · rfl

theorem mem_keys_recorded (author other : String) (time : Int) :
    other ∈ (recorded policy limiter author time).windows.keys ↔
      other = author ∨ other ∈ limiter.windows.keys :=
  OrderedMap.mem_keys_insert limiter.windows author other _

/-- A sweep empties the windows that no longer count and leaves the others alone. -/
theorem window_sweep (time : Int) (author : String) :
    (limiter.sweep policy time).window author =
      if policy.isLive time (limiter.window author) then limiter.window author else [] := by
  rw [window, sweep, OrderedMap.get?_filter, window]
  cases limiter.windows.get? author with
  | none => rfl
  | some held =>
      rw [Option.filter_some, Option.getD_some]
      split
      · rfl
      · rfl

/-! ## Checks -/

/-- A judgement is a verdict on the wait, and the call is recorded if there is none. -/
theorem judge_eq (author : String) (time : Int) :
    judge policy limiter author time =
      (.ofWait (policy.wait (limiter.window author) time),
        if policy.wait (limiter.window author) time = 0 then recorded policy limiter author time
        else limiter) := by
  rw [judge]
  split
  · next free => rw [free]; rfl
  · next remaining waiting => rw [waiting]; rfl

/-- A sweep is due exactly if many windows are held and the author has none. -/
theorem needsSweep_eq_true_iff (author : String) :
    limiter.needsSweep author = true ↔
      sweepThreshold ≤ limiter.trackedAuthors ∧ author ∉ limiter.windows.keys := by
  rw [needsSweep, Bool.and_eq_true, decide_eq_true_iff, Bool.not_eq_true',
    OrderedMap.contains_eq_false_iff]

/-- The limiter as it judges a call: after a sweep, if one is due. -/
def prepared (policy : RatePolicy) (limiter : RateLimiter) (author : String) (time : Int) :
    RateLimiter :=
  if limiter.needsSweep author then limiter.sweep policy time else limiter

theorem prepared_of_unswept {author : String} (unswept : limiter.needsSweep author = false)
    (policy : RatePolicy) (time : Int) : limiter.prepared policy author time = limiter := by
  rw [prepared, unswept, if_neg Bool.false_ne_true]

/-- Under a policy that limits, a check is a judgement of the prepared limiter. -/
theorem check_eq_judge (configured : limiter.policy? = some policy)
    (limits : policy.capacity ≠ 0) (author : String) (time : Int) :
    limiter.check author time = judge policy (limiter.prepared policy author time) author time := by
  rw [check, configured, prepared]
  simp only [if_neg limits]
  split
  · rfl
  · rfl

theorem check_of_capacity_eq_zero (configured : limiter.policy? = some policy)
    (unlimiting : policy.capacity = 0) (author : String) (time : Int) :
    limiter.check author time = (.admitted, limiter) := by
  rw [check, configured]
  simp only [if_pos unlimiting]

/-! ## One check, window by window -/

theorem window_eq_nil_of_not_mem {author : String} (absent : author ∉ limiter.windows.keys) :
    limiter.window author = [] := by
  rw [window, (OrderedMap.get?_eq_none_iff _ _).mpr absent, Option.getD_none]

/-- A sweep that comes before a check leaves the author of the call what it has, which is
nothing. -/
theorem window_prepared_self (policy : RatePolicy) (author : String) (time : Int) :
    (limiter.prepared policy author time).window author = limiter.window author := by
  rw [prepared]
  split
  · next due =>
    have nothing := window_eq_nil_of_not_mem ((needsSweep_eq_true_iff author).mp due).2
    rw [window_sweep, nothing]
    rfl
  · rfl

/-- An author without a window is admitted. -/
theorem check_of_absent (configured : limiter.policy? = some policy)
    (limits : policy.capacity ≠ 0) {author : String} (absent : author ∉ limiter.windows.keys)
    (time : Int) :
    limiter.check author time =
      (.admitted, recorded policy (limiter.prepared policy author time) author time) := by
  rw [check_eq_judge configured limits, judge_eq, window_prepared_self,
    window_eq_nil_of_not_mem absent]
  rfl

theorem fst_check (configured : limiter.policy? = some policy) (limits : policy.capacity ≠ 0)
    (author : String) (time : Int) :
    (limiter.check author time).1 = .ofWait (policy.wait (limiter.window author) time) := by
  rw [check_eq_judge configured limits, judge_eq, window_prepared_self]

theorem window_check_self (configured : limiter.policy? = some policy)
    (limits : policy.capacity ≠ 0) (author : String) (time : Int) :
    (limiter.check author time).2.window author =
      if policy.wait (limiter.window author) time = 0 then
        policy.record (limiter.window author) time
      else limiter.window author := by
  rw [check_eq_judge configured limits, judge_eq, window_prepared_self]
  split
  · rw [window_recorded, if_pos rfl, window_prepared_self]
  · exact window_prepared_self policy author time

/-- A check reaches the window of somebody else through the sweep before it, if at all. -/
theorem window_check_of_ne (configured : limiter.policy? = some policy)
    (limits : policy.capacity ≠ 0) {author other : String} (distinct : author ≠ other)
    (time : Int) :
    (limiter.check author time).2.window other =
      (limiter.prepared policy author time).window other := by
  rw [check_eq_judge configured limits, judge_eq]
  split
  · rw [window_recorded, if_neg distinct]
  · rfl

/-! ## Refusals -/

/-- A call is refused under a policy that limits, and the refusal tells how long it has to
wait. -/
theorem exists_wait_of_denied {author : String} {time : Int} {remaining : Duration}
    (denied : (limiter.check author time).1 = .denied remaining) :
    ∃ policy, limiter.policy? = some policy ∧ policy.capacity ≠ 0 ∧
      policy.wait (limiter.window author) time = remaining ∧ 0 < remaining := by
  cases configured : limiter.policy? with
  | none =>
      rw [check_of_unlimited configured] at denied
      cases denied
  | some policy =>
      by_cases unlimiting : policy.capacity = 0
      · rw [check_of_capacity_eq_zero configured unlimiting] at denied
        cases denied
      · rw [fst_check configured unlimiting, Verdict.ofWait_eq_denied_iff] at denied
        exact ⟨policy, rfl, unlimiting, denied⟩

/-- An author that is refused has a window. -/
theorem window_ne_nil_of_denied {author : String} {time : Int} {remaining : Duration}
    (denied : (limiter.check author time).1 = .denied remaining) :
    limiter.window author ≠ [] := by
  obtain ⟨policy, -, -, waits, positive⟩ := exists_wait_of_denied denied
  intro empty
  rw [empty] at waits
  exact Nat.ne_of_lt positive waits

theorem needsSweep_eq_false_of_window_ne_nil {author : String}
    (kept : limiter.window author ≠ []) : limiter.needsSweep author = false := by
  rw [← Bool.not_eq_true, needsSweep_eq_true_iff]
  rintro ⟨-, absent⟩
  exact kept (window_eq_nil_of_not_mem absent)

/-- A refused call leaves the limiter as it was. No sweep comes before it, since the author
has a window that makes it wait. -/
theorem snd_check_of_denied {author : String} {time : Int} {remaining : Duration}
    (denied : (limiter.check author time).1 = .denied remaining) :
    (limiter.check author time).2 = limiter := by
  obtain ⟨policy, configured, limits, waits, positive⟩ := exists_wait_of_denied denied
  have unswept := needsSweep_eq_false_of_window_ne_nil (window_ne_nil_of_denied denied)
  rw [check_eq_judge configured limits, prepared_of_unswept unswept, judge_eq, waits,
    if_neg (Nat.ne_of_gt positive)]

end RateLimiter

end ChatCommands
