/-
# A refused call leaves no trace

A check may sweep, it gives the author a window to record the call in, it finds out whether
the author has to wait, and it removes old times until there is room for the new one. A
refusal comes after the first two of these steps and before the last. That nothing has
happened by then is due to the author's window: it makes the author wait, so it is there
already, and then no sweep is due and no window is opened.

The steps are told apart in `checkInPlace`, which is shown to be the check. The main
statement is about every limiter that requests can lead to, whatever times they carry.
-/

import ChatCommands.Proofs.RateLimit.Held

namespace ChatCommands

/-! ## Making room -/

namespace RatePolicy

/-- A window with room for one more time: as long as there are as many times as the policy
admits, the oldest one goes. -/
def makeRoom (policy : RatePolicy) : CallWindow → CallWindow
  | [] => []
  | oldest :: rest =>
    if policy.capacity ≤ rest.length + 1 then policy.makeRoom rest else oldest :: rest

theorem makeRoom_eq_drop (policy : RatePolicy) (window : CallWindow) :
    policy.makeRoom window = window.drop (window.length + 1 - policy.capacity) := by
  induction window with
  | nil => rw [makeRoom, List.drop_nil]
  | cons oldest rest ih =>
      rw [makeRoom, List.length_cons]
      split
      · next full =>
        rw [ih, Nat.sub_add_comm full, List.drop_succ_cons]
      · next room =>
        have none : rest.length + 1 + 1 - policy.capacity = 0 := by omega
        rw [none, List.drop_zero]

theorem makeRoom_append (policy : RatePolicy) (window : CallWindow) (time : Int) :
    policy.makeRoom window ++ [time] = policy.record window time := by
  rw [makeRoom_eq_drop, record]

end RatePolicy

namespace RateLimiter

variable {limiter : RateLimiter} {policy : RatePolicy} {author : String} {time : Int}

/-! ## A check step by step -/

/-- The limiter with a window for the author: the one it has, or else an empty one. -/
def opened (limiter : RateLimiter) (author : String) : RateLimiter :=
  if limiter.windows.contains author then limiter
  else { limiter with windows := limiter.windows.insert author [] }

/-- A check that changes the limiter as it goes along. What has been done when a call turns
out to be refused is not undone. -/
def checkInPlace (limiter : RateLimiter) (author : String) (time : Int) :
    Verdict × RateLimiter :=
  match limiter.policy? with
  | none => (.admitted, limiter)
  | some policy =>
    if policy.capacity = 0 then (.admitted, limiter)
    else
      let ready := (limiter.prepared policy author time).opened author
      let window := ready.window author
      match Verdict.ofWait (policy.wait window time) with
      | .denied remaining => (.denied remaining, ready)
      | .admitted =>
        (.admitted,
          { ready with windows := ready.windows.insert author (policy.makeRoom window ++ [time]) })

theorem opened_of_window_ne_nil (kept : limiter.window author ≠ []) :
    limiter.opened author = limiter := by
  have tracked : author ∈ limiter.windows.keys := by
    by_contra absent
    exact kept (window_eq_nil_of_not_mem absent)
  rw [opened, if_pos ((OrderedMap.contains_eq_true_iff _ _).mpr tracked)]

theorem window_opened (limiter : RateLimiter) (author : String) :
    (limiter.opened author).window author = limiter.window author := by
  rw [opened]
  split
  · rfl
  · next untracked =>
    have absent := (OrderedMap.contains_eq_false_iff _ _).mp (eq_false_of_ne_true untracked)
    rw [window_eq_nil_of_not_mem absent, window, OrderedMap.get?_insert_self]
    rfl

/-- An empty window that was opened is gone once a call is recorded in its place. -/
theorem recorded_opened (policy : RatePolicy) (limiter : RateLimiter) (author : String)
    (time : Int) :
    recorded policy (limiter.opened author) author time = recorded policy limiter author time := by
  rw [recorded, window_opened, opened]
  split
  · rfl
  · rw [OrderedMap.insert_insert]
    rfl

theorem window_ne_nil_of_wait_ne_zero (waits : policy.wait (limiter.window author) time ≠ 0) :
    limiter.window author ≠ [] := by
  intro empty
  rw [empty] at waits
  exact waits rfl

/-- A check and the same check step by step do the same. -/
theorem check_eq_checkInPlace (limiter : RateLimiter) (author : String) (time : Int) :
    limiter.check author time = limiter.checkInPlace author time := by
  cases configured : limiter.policy? with
  | none => rw [check_of_unlimited configured, checkInPlace, configured]
  | some policy =>
      by_cases unlimiting : policy.capacity = 0
      · rw [check_of_capacity_eq_zero configured unlimiting, checkInPlace, configured]
        simp only [if_pos unlimiting]
      · rw [check_eq_judge configured unlimiting, judge_eq, checkInPlace, configured]
        simp only [if_neg unlimiting, window_opened]
        by_cases free :
            policy.wait ((limiter.prepared policy author time).window author) time = 0
        · rw [if_pos free, free, ← recorded_opened, recorded, policy.makeRoom_append,
            window_opened]
          rfl
        · obtain ⟨remaining, waits⟩ := Nat.exists_eq_succ_of_ne_zero free
          rw [if_neg free, waits,
            opened_of_window_ne_nil (window_ne_nil_of_wait_ne_zero free)]
          rfl

/-! ## Refusals -/

/-- In every limiter that requests can lead to, a window holds at least one time and no more
than the policy admits. A refused call leaves such a limiter as it was, authors and windows
alike, also if its steps are taken one by one: no sweep comes before it, no window is opened
for it, and no time is removed to make room. -/
theorem refused_check_changes_nothing (policy? : Option RatePolicy)
    (requests : List LimiterRequest) :
    let limiter := (ofPolicy policy?).afterRequests requests
    (∀ author window, limiter.windows.get? author = some window →
      window ≠ [] ∧ ∃ policy, policy? = some policy ∧ window.length ≤ policy.capacity) ∧
    ∀ author time remaining, (limiter.check author time).1 = .denied remaining →
      (limiter.check author time).2 = limiter ∧
      limiter.checkInPlace author time = (.denied remaining, limiter) ∧
      limiter.needsSweep author = false ∧ limiter.opened author = limiter := by
  intro limiter
  refine ⟨fun author window kept => ?bounded, fun author time remaining denied => ?unchanged⟩
  case bounded =>
    by_cases limits : ∃ policy, policy? = some policy ∧ 0 < policy.capacity
    · obtain ⟨policy, rfl, admits⟩ := limits
      have holds := holds_afterRequests admits requests author
      have window_eq : limiter.window author = window := by
        rw [RateLimiter.window, kept, Option.getD_some]
      exact ⟨holds.nonempty window kept, policy, rfl, window_eq ▸ holds.bounded⟩
    · have unlimiting : ∀ policy, policy? = some policy → policy.capacity = 0 :=
        fun policy configured =>
          Nat.eq_zero_of_not_pos fun admits => limits ⟨policy, configured, admits⟩
      have nothing : limiter = ofPolicy policy? := afterRequests_of_unlimiting unlimiting requests
      rw [nothing] at kept
      cases kept
  case unchanged =>
    have full := window_ne_nil_of_denied denied
    have unchanged := snd_check_of_denied denied
    have inPlace : limiter.checkInPlace author time = (.denied remaining, limiter) := by
      rw [← check_eq_checkInPlace]
      exact Prod.ext denied unchanged
    exact ⟨unchanged, inPlace, needsSweep_eq_false_of_window_ne_nil full,
      opened_of_window_ne_nil full⟩

/-- A window that was dropped and filled anew refuses a call dated before it and stays as it
is. -/
theorem refused_check_changes_nothing_refilled :
    let requests : List LimiterRequest :=
      [.check "ada" 0, .check "grace" 5, .cleanup 70, .check "ada" 50]
    let limiter := (ofPolicy (some ⟨60, 1⟩)).afterRequests requests
    limiter.windows.entries = [("ada", [50])] ∧
      (limiter.check "ada" 20).1 = .denied 60 ∧ (limiter.check "ada" 20).2 = limiter ∧
      limiter.checkInPlace "ada" 20 = (.denied 60, limiter) := by
  intro requests limiter
  obtain ⟨-, unchanged⟩ := refused_check_changes_nothing (some ⟨60, 1⟩) requests
  have denied : (limiter.check "ada" 20).1 = .denied 60 := by decide
  obtain ⟨same, inPlace, -⟩ := unchanged "ada" 20 60 denied
  exact ⟨by decide, denied, same, inPlace⟩

end RateLimiter

end ChatCommands
