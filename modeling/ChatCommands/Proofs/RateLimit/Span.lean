/-
# Calls within one interval

Calls whose times lie in a stretch no longer than the interval all count for each other, in
whatever order they are checked. As long as a limiter holds no other times, a full window
refuses every call of the stretch, and a sweep, which a newcomer may cause among many
authors, finds nothing to drop. So the answers to an author depend on nothing but the
number of its calls: those for which its window has room are admitted, and no others.
-/

import ChatCommands.Proofs.RateLimit.Isolation

namespace ChatCommands

namespace RatePolicy

variable {policy : RatePolicy} {start time earlier : Int} {window : CallWindow}

/-- A time lies in the stretch of an interval that begins at `start`. -/
def Spans (policy : RatePolicy) (start time : Int) : Prop :=
  start ≤ time ∧ time < start + policy.interval

instance (policy : RatePolicy) (start time : Int) : Decidable (policy.Spans start time) :=
  inferInstanceAs (Decidable (_ ∧ _))

theorem Spans.counts_eq_true (now : policy.Spans start time) (before : policy.Spans start earlier) :
    policy.counts time earlier = true := by
  rw [counts_eq_true_iff]
  have notLate := now.2
  have notEarly := before.1
  omega

theorem Spans.isLive_eq_true (now : policy.Spans start time)
    (spans : ∀ old ∈ window, policy.Spans start old) : policy.isLive time window = true := by
  cases newest_eq : window.getLast? with
  | none => rw [isLive, newest_eq]
  | some newest =>
      rw [isLive, newest_eq]
      exact now.counts_eq_true (spans newest (List.mem_of_getLast? newest_eq))

/-- Within a stretch, a call has to wait exactly if the window is full. -/
theorem Spans.wait_eq_zero_iff (now : policy.Spans start time)
    (spans : ∀ old ∈ window, policy.Spans start old) (admits : 0 < policy.capacity) :
    policy.wait window time = 0 ↔ window.length < policy.capacity := by
  constructor
  · intro free
    by_contra full
    rw [Nat.not_lt] at full
    cases window with
    | nil => exact absurd full (Nat.not_le.mpr admits)
    | cons oldest rest =>
        rw [policy.wait_cons_of_le time full] at free
        have passed := Nat.le_of_sub_eq_zero free
        have notLate := now.2
        have oldestIn := (spans oldest List.mem_cons_self).1
        have nonempty := now.1
        omega
  · exact policy.wait_of_length_lt time

end RatePolicy

namespace RateLimiter

variable {limiter : RateLimiter} {policy : RatePolicy} {start time : Int} {author : String}

/-! ## Limiters that hold the times of one stretch -/

/-- Every time a limiter holds lies in one stretch, and no window is larger than the policy
admits. -/
structure HoldsSpan (policy : RatePolicy) (start : Int) (limiter : RateLimiter) : Prop where
  configured : limiter.policy? = some policy
  spans : ∀ author, ∀ time ∈ limiter.window author, policy.Spans start time
  bounded : ∀ author, (limiter.window author).length ≤ policy.capacity

namespace HoldsSpan

theorem ofPolicy (policy : RatePolicy) (start : Int) :
    HoldsSpan policy start (.ofPolicy (some policy)) where
  configured := rfl
  spans := by
    intro author time member
    cases member
  bounded := fun _ => Nat.zero_le _

/-- A sweep within the stretch drops nothing. -/
theorem window_prepared (holds : HoldsSpan policy start limiter) (now : policy.Spans start time)
    (author other : String) :
    (limiter.prepared policy author time).window other = limiter.window other := by
  rw [prepared]
  split
  · rw [window_sweep, if_pos (now.isLive_eq_true (holds.spans other))]
  · rfl

/-- A call is admitted exactly if the window of its author has room. -/
theorem fst_check_eq_admitted_iff (holds : HoldsSpan policy start limiter)
    (now : policy.Spans start time) (admits : 0 < policy.capacity) :
    (limiter.check author time).1 = .admitted ↔
      (limiter.window author).length < policy.capacity := by
  rw [fst_check holds.configured (Nat.ne_of_gt admits), Verdict.ofWait_eq_admitted_iff]
  exact now.wait_eq_zero_iff (holds.spans author) admits

/-- A check adds the time of the call to the window of its author, if there is room, and
leaves all other windows as they are. -/
theorem window_check (holds : HoldsSpan policy start limiter) (now : policy.Spans start time)
    (admits : 0 < policy.capacity) (author other : String) :
    (limiter.check author time).2.window other =
      if author = other ∧ (limiter.window author).length < policy.capacity then
        limiter.window other ++ [time]
      else limiter.window other := by
  have limits := Nat.ne_of_gt admits
  by_cases own : author = other
  · subst own
    have waits := now.wait_eq_zero_iff (holds.spans author) admits
    rw [window_check_self holds.configured limits]
    by_cases room : (limiter.window author).length < policy.capacity
    · rw [if_pos (waits.mpr room), if_pos ⟨rfl, room⟩, policy.record_of_length_lt time room]
    · rw [if_neg (mt waits.mp room), if_neg (fun both => room both.2)]
  · rw [window_check_of_ne holds.configured limits own, holds.window_prepared now,
      if_neg (fun both => own both.1)]

theorem length_window_check (holds : HoldsSpan policy start limiter)
    (now : policy.Spans start time) (admits : 0 < policy.capacity) (author other : String) :
    ((limiter.check author time).2.window other).length =
      if author = other then min ((limiter.window other).length + 1) policy.capacity
      else (limiter.window other).length := by
  have bounded := holds.bounded other
  rw [holds.window_check now admits]
  by_cases own : author = other
  · subst own
    by_cases room : (limiter.window author).length < policy.capacity
    · rw [if_pos ⟨rfl, room⟩, if_pos rfl, List.length_append, List.length_singleton]
      omega
    · rw [if_neg (fun both => room both.2), if_pos rfl]
      omega
  · rw [if_neg (fun both => own both.1), if_neg own]

theorem check (holds : HoldsSpan policy start limiter) (now : policy.Spans start time)
    (admits : 0 < policy.capacity) (author : String) :
    HoldsSpan policy start (limiter.check author time).2 where
  configured := by rw [policy?_check, holds.configured]
  spans := by
    intro other old member
    rw [holds.window_check now admits] at member
    split at member
    · rcases List.mem_append.mp member with before | last
      · exact holds.spans other old before
      · rw [List.mem_singleton.mp last]
        exact now
    · exact holds.spans other old member
  bounded := by
    intro other
    have bounded := holds.bounded other
    rw [holds.length_window_check now admits]
    split <;> omega

/-- At any instant of the stretch all held times are in use. -/
theorem usage?_eq (holds : HoldsSpan policy start limiter) (now : policy.Spans start time)
    (author : String) :
    limiter.usage? author time =
      some ⟨(limiter.window author).length, policy.capacity, policy.interval⟩ := by
  have all : (limiter.window author).countP (policy.counts time) =
      (limiter.window author).length :=
    List.countP_eq_length.mpr fun old member => now.counts_eq_true (holds.spans author old member)
  rw [usage?, holds.configured, Option.map_some, all]

/-! ## Runs of checks -/

/-- The calls of an author are admitted until its window is full, and none after that,
whoever else calls in between. -/
theorem getElem?_verdictsFor {calls : List RateCall} (holds : HoldsSpan policy start limiter)
    (admits : 0 < policy.capacity) (now : ∀ call ∈ calls, policy.Spans start call.time)
    {place : Nat} {call : RateCall} {verdict : Verdict}
    (answered : (limiter.verdictsFor author calls)[place]? = some (call, verdict)) :
    verdict = .admitted ↔ (limiter.window author).length + place < policy.capacity := by
  induction calls generalizing limiter place with
  | nil => cases answered
  | cons first rest ih =>
      have firstIn := now first List.mem_cons_self
      have later : ∀ call ∈ rest, policy.Spans start call.time :=
        fun call member => now call (List.mem_cons_of_mem first member)
      have next := holds.check firstIn admits first.author
      have length_eq := holds.length_window_check firstIn admits first.author author
      by_cases own : first.author = author
      · subst own
        rw [verdictsFor_cons_self rest rfl] at answered
        cases place with
        | zero =>
            cases answered
            exact holds.fst_check_eq_admitted_iff firstIn admits
        | succ place =>
            rw [List.getElem?_cons_succ] at answered
            rw [ih next later answered, length_eq, if_pos rfl]
            omega
      · rw [verdictsFor_cons_of_ne rest own] at answered
        rw [ih next later answered, length_eq, if_neg own]

end HoldsSpan

end RateLimiter

end ChatCommands
