/-
# The waiting time of a refused call

A refused call is told how long to wait. The time is computed from the front of the author's
window, which is the call admitted longest ago; the other times of the window have no part in
it, and since they need not be in order, the front may well be the latest of them.

Main statement: what is reported is what is left of the interval since the front, and, unless
the call is dated before the front, it is exact. A call dated so much later is admitted, and
none dated earlier than that is.
-/

import ChatCommands.Proofs.RateLimit.Held

namespace ChatCommands

open Number (Duration)

namespace RatePolicy

variable (policy : RatePolicy)

/-- Whoever comes later has to wait for so much less. -/
theorem wait_cons_add {oldest time : Int} (rest : CallWindow) (notEarlier : oldest ≤ time)
    (delay : Duration) :
    policy.wait (oldest :: rest) (time + delay) = policy.wait (oldest :: rest) time - delay := by
  rw [wait, wait]
  split
  · rw [Nat.zero_sub]
  · have apart : (time + delay - oldest).toNat = (time - oldest).toNat + delay := by omega
    rw [apart, Nat.sub_add_eq]

/-- Who has to wait has to wait for what is left of the interval since the oldest time. -/
theorem wait_cons_eq_of_pos {oldest time : Int} {rest : CallWindow}
    (waits : 0 < policy.wait (oldest :: rest) time) :
    policy.wait (oldest :: rest) time = policy.interval - (time - oldest).toNat := by
  rw [wait] at waits ⊢
  split
  · next room =>
    rw [if_pos room] at waits
    exact absurd waits (Nat.lt_irrefl 0)
  · rfl

end RatePolicy

namespace RateLimiter

variable {limiter : RateLimiter} {policy : RatePolicy} {author : String} {oldest time : Int}
  {rest : CallWindow}

/-- A refusal comes from the front of a window, and reports what is left of the interval since
then. -/
theorem exists_front_of_denied {remaining : Duration}
    (denied : (limiter.check author time).1 = .denied remaining) :
    ∃ policy oldest later, limiter.policy? = some policy ∧ policy.capacity ≠ 0 ∧
      limiter.window author = oldest :: later ∧
      policy.wait (limiter.window author) time = remaining ∧
      remaining = policy.interval - (time - oldest).toNat ∧ 0 < remaining := by
  obtain ⟨policy, configured, limits, waits, positive⟩ := exists_wait_of_denied denied
  obtain ⟨oldest, later, window_eq⟩ :=
    List.exists_cons_of_ne_nil (window_ne_nil_of_denied denied)
  refine ⟨policy, oldest, later, configured, limits, window_eq, waits, ?_, positive⟩
  rw [← waits] at positive ⊢
  rw [window_eq] at positive ⊢
  exact policy.wait_cons_eq_of_pos positive

/-- The verdict on a call that comes later, with what is left of the wait. -/
theorem fst_check_add (configured : limiter.policy? = some policy)
    (limits : policy.capacity ≠ 0) (window_eq : limiter.window author = oldest :: rest)
    (notEarlier : oldest ≤ time) (delay : Duration) :
    (limiter.check author (time + delay)).1 =
      .ofWait (policy.wait (limiter.window author) time - delay) := by
  rw [fst_check configured limits, window_eq, policy.wait_cons_add rest notEarlier]

/-- A refusal reports what is left of the interval since the call of the author that was
admitted longest ago among those its window still holds, which is more than nothing and no
more than the interval. If that call is not dated after the refused one, the report is exact:
instead of the refused call the author could make a call dated so much later, but none dated
earlier than that. -/
theorem denied_check_waits_exactly (policy? : Option RatePolicy)
    (requests : List LimiterRequest) (author : String) (time : Int) (remaining : Duration)
    (denied : (((ofPolicy policy?).afterRequests requests).check author time).1 =
      .denied remaining) :
    let limiter := (ofPolicy policy?).afterRequests requests
    ∃ policy oldest later, policy? = some policy ∧ limiter.window author = oldest :: later ∧
      oldest :: later <:+ (ofPolicy policy?).admissions author requests ∧
      (remaining : Int) = policy.interval - max 0 (time - oldest) ∧
      0 < remaining ∧ remaining ≤ policy.interval ∧
      (oldest ≤ time → ∀ delay : Duration,
        (delay < remaining →
          (limiter.check author (time + delay)).1 = .denied (remaining - delay)) ∧
        (remaining ≤ delay → (limiter.check author (time + delay)).1 = .admitted)) := by
  intro limiter
  obtain ⟨policy, oldest, later, configured, limits, window_eq, waits, left, positive⟩ :=
    exists_front_of_denied denied
  have given : policy? = some policy := by
    rw [policy?_afterRequests] at configured
    exact configured
  subst given
  have recent := (holds_afterRequests (Nat.pos_of_ne_zero limits) requests author).recent
  rw [window_eq] at recent
  have passed : (time - oldest).toNat ≤ policy.interval := by
    apply Nat.le_of_lt
    apply Nat.lt_of_sub_pos
    rw [← left]
    exact positive
  refine ⟨policy, oldest, later, rfl, window_eq, recent, ?_, positive, ?_,
    fun notEarlier delay => ?_⟩
  · rw [left, Int.ofNat_sub passed, Int.ofNat_toNat, Int.max_comm]
  · rw [left]
    exact Nat.sub_le _ _
  · have verdict : (limiter.check author (time + delay)).1 = .ofWait (remaining - delay) := by
      rw [← waits]
      exact fst_check_add configured limits window_eq notEarlier delay
    rw [verdict]
    constructor
    · intro early
      exact (Verdict.ofWait_eq_denied_iff _ _).mpr ⟨rfl, Nat.sub_pos_of_lt early⟩
    · intro late
      exact (Verdict.ofWait_eq_admitted_iff _).mpr (Nat.sub_eq_zero_of_le late)

/-- An author whose clock has run back waits for its first call, the later one of the two that
its window holds. -/
theorem denied_check_waits_exactly_backwards :
    let requests : List LimiterRequest := [.check "ada" 50, .check "grace" 0, .check "ada" 30]
    let limiter := (ofPolicy (some ⟨60, 2⟩)).afterRequests requests
    limiter.window "ada" = [50, 30] ∧ (limiter.check "ada" 70).1 = .denied 40 ∧
      (limiter.check "ada" (70 + (39 : Duration))).1 = .denied 1 ∧
      (limiter.check "ada" (70 + (40 : Duration))).1 = .admitted := by
  intro requests limiter
  have held : limiter.window "ada" = [50, 30] := by decide
  have denied : (limiter.check "ada" 70).1 = .denied 40 := by decide
  obtain ⟨policy, oldest, later, -, window_eq, -, -, -, -, exact_wait⟩ :=
    denied_check_waits_exactly (some ⟨60, 2⟩) requests "ada" 70 40 denied
  have front : oldest = 50 := by
    have same := window_eq.symm.trans held
    exact (List.cons.inj same).1
  have waits := exact_wait (by rw [front]; decide)
  exact ⟨held, denied, (waits 39).1 (by decide), (waits 40).2 (by decide)⟩

end RateLimiter

end ChatCommands
