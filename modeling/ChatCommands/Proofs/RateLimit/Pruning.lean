/-
# Sweeping cannot be observed

A limiter that sweeps is compared with one that never does. As long as the times of the
requests do not decrease, both say the same to every call and report the same usage,
although they hold different windows from the first sweep on.

The windows of the two limiters are related author by author: the window of the sweeping
limiter is an end of the other one, and what is missing in front of it has expired. An
expired time makes nobody wait and is not counted as used, and since time does not go
back it stays expired.
-/

import ChatCommands.Proofs.RateLimit.Check

namespace ChatCommands

/-! ## Requests -/

/-- What a limiter can be asked: whether an author may make a call, how much of the window
of an author is in use, and to drop the windows that no longer count. -/
inductive LimiterRequest where
  | check (author : String) (time : Int)
  | usage (author : String) (time : Int)
  | cleanup (time : Int)
deriving DecidableEq, Repr

def LimiterRequest.time : LimiterRequest → Int
  | check _ time => time
  | usage _ time => time
  | cleanup time => time

/-- What a limiter answers. -/
inductive LimiterAnswer where
  | verdict (verdict : Verdict)
  | usage (usage? : Option WindowUsage)
  | done
deriving DecidableEq, Repr

namespace RateLimiter

/-- Answer a request. -/
def serve (limiter : RateLimiter) : LimiterRequest → LimiterAnswer × RateLimiter
  | .check author time =>
    let (verdict, next) := limiter.check author time
    (.verdict verdict, next)
  | .usage author time => (.usage (limiter.usage? author time), limiter)
  | .cleanup time => (.done, limiter.cleanup time)

/-- A check that no sweep comes before. -/
def checkUnswept (limiter : RateLimiter) (author : String) (time : Int) :
    Verdict × RateLimiter :=
  match limiter.policy? with
  | none => (.admitted, limiter)
  | some policy =>
    if policy.capacity = 0 then (.admitted, limiter) else judge policy limiter author time

/-- Answer a request without ever sweeping: neither before a check nor when asked to. -/
def serveUnswept (limiter : RateLimiter) : LimiterRequest → LimiterAnswer × RateLimiter
  | .check author time =>
    let (verdict, next) := limiter.checkUnswept author time
    (.verdict verdict, next)
  | .usage author time => (.usage (limiter.usage? author time), limiter)
  | .cleanup _ => (.done, limiter)

/-- The answers to requests that are served one after the other. -/
def answers (serve : RateLimiter → LimiterRequest → LimiterAnswer × RateLimiter) :
    RateLimiter → List LimiterRequest → List LimiterAnswer
  | _, [] => []
  | limiter, request :: rest =>
    let (answer, next) := serve limiter request
    answer :: answers serve next rest

theorem answers_cons (serve : RateLimiter → LimiterRequest → LimiterAnswer × RateLimiter)
    (limiter : RateLimiter) (request : LimiterRequest) (rest : List LimiterRequest) :
    limiter.answers serve (request :: rest) =
      (serve limiter request).1 :: (serve limiter request).2.answers serve rest := rfl

end RateLimiter

/-! ## Windows -/

/-- The window `kept` is what is left of the window `full` after some of the times that
have expired were dropped in front. The times of a window are in order, not in the future
and no more than the policy admits. -/
structure Trails (policy : RatePolicy) (now : Int) (kept full : CallWindow) : Prop where
  expired : ∃ dropped, full = dropped ++ kept ∧
    ∀ time ∈ dropped, policy.counts now time = false
  ordered : full.Pairwise (· ≤ ·)
  bounded : full.length ≤ policy.capacity
  past : ∀ time ∈ full, time ≤ now

namespace Trails

variable {policy : RatePolicy} {now : Int} {kept full : CallWindow}

theorem nil (policy : RatePolicy) (now : Int) : Trails policy now [] [] where
  expired := ⟨[], rfl, by simp⟩
  ordered := .nil
  bounded := Nat.zero_le _
  past := by simp

theorem later (trails : Trails policy now kept full) {time : Int} (notEarlier : now ≤ time) :
    Trails policy time kept full where
  expired := by
    obtain ⟨dropped, partition, expired⟩ := trails.expired
    refine ⟨dropped, partition, fun old member => ?_⟩
    have before := expired old member
    rw [RatePolicy.counts_eq_false_iff] at before ⊢
    omega
  ordered := trails.ordered
  bounded := trails.bounded
  past := fun old member => Int.le_trans (trails.past old member) notEarlier

/-- If the latest time of a window has expired, all of them have. -/
theorem counts_eq_false_of_mem (trails : Trails policy now kept full)
    (dead : policy.isLive now kept = false) :
    ∀ time ∈ kept, policy.counts now time = false := by
  intro time member
  obtain ⟨dropped, partition, -⟩ := trails.expired
  have ordered : kept.Pairwise (· ≤ ·) := by
    have whole := trails.ordered
    rw [partition, List.pairwise_append] at whole
    exact whole.2.1
  obtain ⟨earlier, newest, rfl, gone⟩ := policy.isLive_eq_false_iff.mp dead
  have below : time ≤ newest := by
    rcases List.mem_append.mp member with before | last
    · exact (List.pairwise_append.mp ordered).2.2 time before newest (by simp)
    · exact Int.le_of_eq (List.mem_singleton.mp last)
  rw [RatePolicy.counts_eq_false_iff] at gone ⊢
  omega

/-- A window that no longer counts can be dropped. -/
theorem drop_dead (trails : Trails policy now kept full)
    (dead : policy.isLive now kept = false) : Trails policy now [] full where
  expired := by
    obtain ⟨dropped, partition, expired⟩ := trails.expired
    refine ⟨full, by rw [List.append_nil], fun time member => ?_⟩
    rw [partition] at member
    rcases List.mem_append.mp member with before | within
    · exact expired time before
    · exact trails.counts_eq_false_of_mem dead time within
  ordered := trails.ordered
  bounded := trails.bounded
  past := trails.past

/-- Both windows make a call wait equally long. -/
theorem wait_eq (trails : Trails policy now kept full) :
    policy.wait kept now = policy.wait full now := by
  obtain ⟨dropped, partition, expired⟩ := trails.expired
  cases dropped with
  | nil => rw [partition, List.nil_append]
  | cons oldest rest =>
      -- The kept window has room, and the oldest time of the full one has expired.
      have room : kept.length < policy.capacity := by
        have bounded := trails.bounded
        rw [partition, List.length_append, List.length_cons] at bounded
        omega
      rw [partition, List.cons_append, policy.wait_of_length_lt now room,
        policy.wait_cons_of_counts_eq_false _ (expired oldest (by simp))]

/-- The windows stay related when a call is admitted to both, also if the full one has to
make room for it. -/
theorem record (trails : Trails policy now kept full) (admits : 0 < policy.capacity) :
    Trails policy now (policy.record kept now) (policy.record full now) where
  expired := by
    obtain ⟨dropped, partition, expired⟩ := trails.expired
    have bounded := trails.bounded
    rw [partition, List.length_append] at bounded
    -- Where the full window evicts a time and the kept one does not, the evicted time is
    -- among those the kept one has lost already.
    rcases Nat.lt_or_ge kept.length policy.capacity with room | noRoom
    · refine ⟨dropped.drop (full.length + 1 - policy.capacity), ?_,
        fun time member => expired time (List.mem_of_mem_drop member)⟩
      have fits : (dropped ++ kept).length + 1 - policy.capacity ≤ dropped.length := by
        rw [List.length_append]
        omega
      rw [policy.record_of_length_lt now room, RatePolicy.record, partition,
        List.drop_append_of_le_length fits, List.append_assoc]
    · have nothing : dropped = [] := List.length_eq_zero_iff.mp (by omega)
      refine ⟨[], ?_, by simp⟩
      rw [partition, nothing, List.nil_append, List.nil_append]
  ordered := by
    rw [RatePolicy.record, List.pairwise_append]
    refine ⟨trails.ordered.drop, List.pairwise_singleton _ _, fun time member latest last => ?_⟩
    rw [List.mem_singleton.mp last]
    exact trails.past time (List.mem_of_mem_drop member)
  bounded := policy.length_record_le full now admits
  past := by
    intro time member
    rw [RatePolicy.record, List.mem_append, List.mem_singleton] at member
    rcases member with before | last
    · exact trails.past time (List.mem_of_mem_drop before)
    · exact Int.le_of_eq last

theorem countP_eq (trails : Trails policy now kept full) :
    kept.countP (policy.counts now) = full.countP (policy.counts now) := by
  obtain ⟨dropped, partition, expired⟩ := trails.expired
  have none : dropped.countP (policy.counts now) = 0 := by
    rw [List.countP_eq_zero]
    intro time member counted
    rw [expired time member] at counted
    cases counted
  rw [partition, List.countP_append, none, Nat.zero_add]

end Trails

/-! ## Limiters -/

namespace RateLimiter

/-- The limiter `swept` holds what is left of the windows of the limiter `unswept` after
sweeps up to the time `now`. -/
structure Shadows (policy : RatePolicy) (now : Int) (swept unswept : RateLimiter) : Prop where
  swept_configured : swept.policy? = some policy
  unswept_configured : unswept.policy? = some policy
  trails : ∀ author, Trails policy now (swept.window author) (unswept.window author)

namespace Shadows

variable {policy : RatePolicy} {now time : Int} {swept unswept : RateLimiter}

theorem ofPolicy (policy : RatePolicy) (now : Int) :
    Shadows policy now (.ofPolicy (some policy)) (.ofPolicy (some policy)) where
  swept_configured := rfl
  unswept_configured := rfl
  trails := fun _ => .nil policy now

theorem later (shadows : Shadows policy now swept unswept) (notEarlier : now ≤ time) :
    Shadows policy time swept unswept :=
  { shadows with trails := fun author => (shadows.trails author).later notEarlier }

theorem sweep (shadows : Shadows policy now swept unswept) :
    Shadows policy now (swept.sweep policy now) unswept where
  swept_configured := shadows.swept_configured
  unswept_configured := shadows.unswept_configured
  trails := by
    intro author
    rw [window_sweep]
    split
    · exact shadows.trails author
    · next dead =>
      exact (shadows.trails author).drop_dead (eq_false_of_ne_true dead)

theorem prepared (shadows : Shadows policy now swept unswept) (author : String) :
    Shadows policy now (swept.prepared policy author now) unswept := by
  rw [RateLimiter.prepared]
  split
  · exact shadows.sweep
  · exact shadows

theorem recorded (shadows : Shadows policy now swept unswept) (admits : 0 < policy.capacity)
    (author : String) :
    Shadows policy now (RateLimiter.recorded policy swept author now)
      (RateLimiter.recorded policy unswept author now) where
  swept_configured := shadows.swept_configured
  unswept_configured := shadows.unswept_configured
  trails := by
    intro other
    rw [window_recorded, window_recorded]
    split
    · exact (shadows.trails author).record admits
    · exact shadows.trails other

theorem judge (shadows : Shadows policy now swept unswept) (admits : 0 < policy.capacity)
    (author : String) :
    (RateLimiter.judge policy swept author now).1 =
        (RateLimiter.judge policy unswept author now).1 ∧
      Shadows policy now (RateLimiter.judge policy swept author now).2
        (RateLimiter.judge policy unswept author now).2 := by
  rw [judge_eq, judge_eq, (shadows.trails author).wait_eq]
  refine ⟨rfl, ?_⟩
  split
  · exact shadows.recorded admits author
  · exact shadows

theorem check (shadows : Shadows policy now swept unswept) (author : String) :
    (swept.check author now).1 = (unswept.checkUnswept author now).1 ∧
      Shadows policy now (swept.check author now).2 (unswept.checkUnswept author now).2 := by
  rw [checkUnswept, shadows.unswept_configured]
  by_cases unlimiting : policy.capacity = 0
  · rw [check_of_capacity_eq_zero shadows.swept_configured unlimiting]
    simp only [if_pos unlimiting]
    exact ⟨trivial, shadows⟩
  · rw [check_eq_judge shadows.swept_configured unlimiting]
    simp only [if_neg unlimiting]
    exact (shadows.prepared author).judge (Nat.pos_of_ne_zero unlimiting) author

theorem usage?_eq (shadows : Shadows policy now swept unswept) (author : String) :
    swept.usage? author now = unswept.usage? author now := by
  rw [usage?, usage?, shadows.swept_configured, shadows.unswept_configured, Option.map_some,
    Option.map_some, (shadows.trails author).countP_eq]

/-- Related limiters give the same answer to a request that is not made for an earlier
time, and stay related. -/
theorem serve (shadows : Shadows policy now swept unswept) (request : LimiterRequest)
    (notEarlier : now ≤ request.time) :
    (swept.serve request).1 = (unswept.serveUnswept request).1 ∧
      Shadows policy request.time (swept.serve request).2
        (unswept.serveUnswept request).2 := by
  have current := shadows.later notEarlier
  cases request with
  | check author time =>
      obtain ⟨verdict, related⟩ := current.check author
      exact ⟨congrArg LimiterAnswer.verdict verdict, related⟩
  | usage author time =>
      exact ⟨congrArg LimiterAnswer.usage (current.usage?_eq author), current⟩
  | cleanup time =>
      refine ⟨rfl, ?_⟩
      rw [RateLimiter.serve, cleanup, current.swept_configured]
      exact current.sweep

/-- Related limiters give the same answers to requests whose times do not decrease. -/
theorem answers_eq {requests : List LimiterRequest} (shadows : Shadows policy now swept unswept)
    (ordered : requests.Pairwise fun first second => first.time ≤ second.time)
    (notEarlier : ∀ request ∈ requests, now ≤ request.time) :
    swept.answers RateLimiter.serve requests = unswept.answers serveUnswept requests := by
  induction requests generalizing now swept unswept with
  | nil => rfl
  | cons request rest ih =>
      rw [List.pairwise_cons] at ordered
      obtain ⟨same, related⟩ := shadows.serve request (notEarlier request (by simp))
      rw [answers_cons, answers_cons, same, ih related ordered.2 ordered.1]

end Shadows

theorem answers_eq_of_unlimited {limiter : RateLimiter} (unlimited : limiter.policy? = none)
    (requests : List LimiterRequest) :
    limiter.answers serve requests = limiter.answers serveUnswept requests := by
  induction requests with
  | nil => rfl
  | cons request rest ih =>
      have same : limiter.serve request = limiter.serveUnswept request := by
        cases request with
        | check author time =>
            rw [serve, serveUnswept, check, checkUnswept, unlimited]
        | usage author time => rfl
        | cleanup time => rw [serve, serveUnswept, cleanup, unlimited]
      have unchanged : (limiter.serveUnswept request).2 = limiter := by
        cases request with
        | check author time => rw [serveUnswept, checkUnswept, unlimited]
        | usage author time => rfl
        | cleanup time => rfl
      rw [answers_cons, answers_cons, same, unchanged, ih]

/-- A limiter that sweeps gives the same answers as one that never does, to any requests
by any number of authors whose times do not decrease. -/
theorem answers_serve_eq_answers_serveUnswept (policy? : Option RatePolicy)
    (requests : List LimiterRequest)
    (ordered : requests.Pairwise fun first second => first.time ≤ second.time) :
    (ofPolicy policy?).answers serve requests =
      (ofPolicy policy?).answers serveUnswept requests := by
  cases policy? with
  | none => exact answers_eq_of_unlimited rfl requests
  | some policy =>
      cases requests with
      | nil => rfl
      | cons request rest =>
          refine (Shadows.ofPolicy policy request.time).answers_eq ordered ?_
          rw [List.pairwise_cons] at ordered
          intro other member
          rcases List.mem_cons.mp member with rfl | later
          · exact Int.le_refl _
          · exact ordered.1 other later

/-- The first calls of so many authors, all at once. -/
def crowd (size : Nat) : List LimiterRequest :=
  (List.range size).map fun number => .check (toString number) 0

theorem pairwise_crowd_append (size : Nat) (rest : List LimiterRequest)
    (ordered : rest.Pairwise fun first second => first.time ≤ second.time)
    (notEarlier : ∀ request ∈ rest, 0 ≤ request.time) :
    (crowd size ++ rest).Pairwise fun first second => first.time ≤ second.time := by
  rw [List.pairwise_append]
  refine ⟨?_, ordered, ?_⟩
  · rw [crowd, List.pairwise_map]
    exact List.pairwise_of_forall fun _ _ => Int.le_refl 0
  · intro early member late after
    obtain ⟨number, -, rfl⟩ := List.mem_map.mp member
    exact notEarlier late after

def afterCrowd : List LimiterRequest :=
  [.check "newcomer" 60, .usage "0" 60, .check "0" 70, .cleanup 80, .check "0" 90]

/-- After 1024 authors have called, a newcomer sweeps their windows away. The first of
them cannot tell: it is admitted and refused as if its window had been kept. -/
theorem answers_serve_eq_answers_serveUnswept_crowd :
    ((crowd 1024 ++ afterCrowd).Pairwise fun first second => first.time ≤ second.time) ∧
      (ofPolicy (some ⟨60, 1⟩)).answers serve (crowd 1024 ++ afterCrowd) =
        (ofPolicy (some ⟨60, 1⟩)).answers serveUnswept (crowd 1024 ++ afterCrowd) := by
  have ordered := pairwise_crowd_append 1024 afterCrowd (by decide) (by decide)
  exact ⟨ordered, answers_serve_eq_answers_serveUnswept _ _ ordered⟩

end RateLimiter

end ChatCommands
