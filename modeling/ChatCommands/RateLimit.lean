/-
# Rate limiting

An author may call commands a given number of times within any stretch of a given
length. For each author the limiter keeps the times of the latest admitted calls,
in the order in which they were admitted and never more than the policy allows.
Times come from the messages and need not increase; they are nanoseconds on one
line, without places for the instants within a leap second.

A call is refused while the oldest kept time is still within the interval. Once
many authors are tracked, a call by a new one first drops the authors whose latest
admitted call has left the interval.
-/

import ChatCommands.OrderedMap
import ChatCommands.Number.Duration

namespace ChatCommands

open Number (Duration)

/-- At most `capacity` calls per `interval`, for each author. -/
structure RatePolicy where
  /-- The length of the window. -/
  interval : Duration
  /-- How many calls a window admits. Zero stands for no limit. -/
  capacity : Nat
deriving DecidableEq, Repr, Inhabited

/-- The times of an author's latest admitted calls, least recently admitted first. -/
abbrev CallWindow := List Int

namespace RatePolicy

/-- For how long a call at `time` has to wait; zero if it need not. A window that is
not full makes nobody wait, and a time before the oldest one counts as that time. -/
def wait (policy : RatePolicy) (window : CallWindow) (time : Int) : Duration :=
  match window with
  | [] => 0
  | oldest :: _ =>
    if window.length < policy.capacity then 0
    else policy.interval - (time - oldest).toNat

/-- The window after a call at `time` is admitted: the oldest times make room. -/
def record (policy : RatePolicy) (window : CallWindow) (time : Int) : CallWindow :=
  window.drop (window.length + 1 - policy.capacity) ++ [time]

/-- Whether an earlier call still counts at `time`. -/
def counts (policy : RatePolicy) (time earlier : Int) : Bool := time - earlier < policy.interval

/-- Whether the latest admitted call of a window still counts at `time`. -/
def isLive (policy : RatePolicy) (time : Int) (window : CallWindow) : Bool :=
  match window.getLast? with
  | none => true
  | some newest => policy.counts time newest

/-- A window that is recorded is never empty. -/
theorem record_ne_nil (policy : RatePolicy) (window : CallWindow) (time : Int) :
    policy.record window time ≠ [] := by
  simp [record]

/-- A recorded window holds no more times than the policy admits. -/
theorem length_record_le (policy : RatePolicy) (window : CallWindow) (time : Int)
    (admits : 0 < policy.capacity) :
    (policy.record window time).length ≤ policy.capacity := by
  simp only [record, List.length_append, List.length_drop, List.length_singleton]
  omega

end RatePolicy

/-- How much of an author's window is in use. -/
structure WindowUsage where
  /-- How many admitted calls still count. -/
  used : Nat
  /-- How many calls a window admits. -/
  capacity : Nat
  /-- The length of the window. -/
  interval : Duration
deriving DecidableEq, Repr

/-- What a limiter says to a call. -/
inductive Verdict where
  /-- The call may go on and has been recorded. -/
  | admitted
  /-- The call is refused, and would be until the time given has passed. -/
  | denied (remaining : Duration)
deriving DecidableEq, Repr

/-- A rate limiter: the policy, and the windows of the authors that have one. -/
structure RateLimiter where
  /-- The policy; without one every call is admitted. -/
  policy? : Option RatePolicy
  /-- The windows of the authors. -/
  windows : OrderedMap String CallWindow

namespace RateLimiter

/-- The limiter with a policy and without windows. -/
def ofPolicy (policy? : Option RatePolicy) : RateLimiter := ⟨policy?, .empty⟩

/-- The limiter that admits every call. -/
def unlimited : RateLimiter := ofPolicy none

instance : Inhabited RateLimiter := ⟨unlimited⟩

/-- The window of an author, empty if none is kept. -/
def window (limiter : RateLimiter) (author : String) : CallWindow :=
  (limiter.windows.get? author).getD []

/-- The number of authors with a window. -/
def trackedAuthors (limiter : RateLimiter) : Nat := limiter.windows.size

/-- The number of windows from which on a new author causes a sweep. -/
def sweepThreshold : Nat := 1024

/-- The limiter without the windows that no longer count at `time`. -/
def sweep (policy : RatePolicy) (time : Int) (limiter : RateLimiter) : RateLimiter :=
  { limiter with windows := limiter.windows.filter fun _ window => policy.isLive time window }

/-- Whether a call by an author is preceded by a sweep: many windows are held, and
none of them is the author's. -/
def needsSweep (limiter : RateLimiter) (author : String) : Bool :=
  limiter.trackedAuthors ≥ sweepThreshold && !limiter.windows.contains author

/-- Decide on a call under a policy and record it if it is admitted. -/
def judge (policy : RatePolicy) (limiter : RateLimiter) (author : String) (time : Int) :
    Verdict × RateLimiter :=
  let window := limiter.window author
  match policy.wait window time with
  | 0 =>
    (.admitted,
      { limiter with windows := limiter.windows.insert author (policy.record window time) })
  | remaining + 1 => (.denied (remaining + 1), limiter)

/-- Admit or refuse one call by `author` at `time`. Refused calls are not recorded. -/
def check (limiter : RateLimiter) (author : String) (time : Int) : Verdict × RateLimiter :=
  match limiter.policy? with
  | none => (.admitted, limiter)
  | some policy =>
    if policy.capacity = 0 then (.admitted, limiter)
    else if limiter.needsSweep author then
      judge policy (limiter.sweep policy time) author time
    else judge policy limiter author time

/-- How much of an author's window is in use at `time`; nothing without a policy. -/
def usage? (limiter : RateLimiter) (author : String) (time : Int) : Option WindowUsage :=
  limiter.policy?.map fun policy =>
    { used := (limiter.window author).countP (policy.counts time)
      capacity := policy.capacity
      interval := policy.interval }

/-- Drop the windows that no longer count at `time`. -/
def cleanup (limiter : RateLimiter) (time : Int) : RateLimiter :=
  match limiter.policy? with
  | none => limiter
  | some policy => limiter.sweep policy time

/-! ## Laws -/

/-- No author has a window in a new limiter. -/
@[simp] theorem window_ofPolicy (policy? : Option RatePolicy) (author : String) :
    (ofPolicy policy?).window author = [] := rfl

/-- No decision changes the policy. -/
@[simp] theorem policy?_judge (policy : RatePolicy) (limiter : RateLimiter) (author : String)
    (time : Int) : (judge policy limiter author time).2.policy? = limiter.policy? := by
  simp only [judge]
  split <;> rfl

/-- No check changes the policy. -/
@[simp] theorem policy?_check (limiter : RateLimiter) (author : String) (time : Int) :
    (limiter.check author time).2.policy? = limiter.policy? := by
  unfold check
  split
  · rfl
  · split
    · rfl
    · split <;> simp [sweep]

/-- Without a policy every call is admitted and nothing is recorded. -/
theorem check_of_unlimited {limiter : RateLimiter} (none : limiter.policy? = none)
    (author : String) (time : Int) : limiter.check author time = (.admitted, limiter) := by
  simp [check, none]

end RateLimiter

end ChatCommands
