/-
# What the usage of a window foretells

The usage reported for an instant counts the times of the author's window that still count at
that instant. A check goes by something else: whether the window is full and how old its front
is. The two agree as long as the times that no longer count stand in front of all others, which
is so if the author's calls were admitted in the order of their times. Times later than the
instant may be among those that count.

Main statement: of the capacity, what is not in use at an instant is the number of checks the
author can still make at that instant. Requests in between change nothing, whoever makes them,
if they are not dated later.
-/

import ChatCommands.Proofs.RateLimit.Held

namespace ChatCommands

/-! ## Windows -/

namespace RatePolicy

variable {policy : RatePolicy} {time : Int} {window : CallWindow}

/-- Behind a time that counts all times count. -/
def ExpiresInOrder (policy : RatePolicy) (time : Int) (window : CallWindow) : Prop :=
  window.Pairwise fun earlier later =>
    policy.counts time earlier = true → policy.counts time later = true

theorem expiresInOrder_of_ordered (ordered : window.Pairwise (· ≤ ·)) (time : Int) :
    policy.ExpiresInOrder time window := by
  refine ordered.imp fun {earlier later} before counted => ?_
  rw [counts_eq_true_iff] at counted ⊢
  omega

theorem counts_self (positive : 0 < policy.interval) (time : Int) :
    policy.counts time time = true := by
  rw [counts_eq_true_iff]
  exact Int.lt_add_of_pos_right time (Int.natCast_pos.mpr positive)

namespace ExpiresInOrder

/-- If the front of a window counts, the whole window is in use. -/
theorem countP_eq_length {oldest : Int} {rest : CallWindow}
    (inOrder : policy.ExpiresInOrder time (oldest :: rest))
    (counted : policy.counts time oldest = true) :
    (oldest :: rest).countP (policy.counts time) = (oldest :: rest).length := by
  rw [List.countP_eq_length]
  intro old member
  rcases List.mem_cons.mp member with rfl | behind
  · exact counted
  · exact (List.pairwise_cons.mp inOrder).1 old behind counted

/-- Of a window that no longer counts nothing is in use. -/
theorem countP_eq_zero (inOrder : policy.ExpiresInOrder time window)
    (dead : policy.isLive time window = false) : window.countP (policy.counts time) = 0 := by
  obtain ⟨before, newest, rfl, expired⟩ := policy.isLive_eq_false_iff.mp dead
  have uncounted : policy.counts time newest ≠ true := by
    rw [expired]
    exact Bool.false_ne_true
  rw [List.countP_eq_zero]
  intro old member counted
  rcases List.mem_append.mp member with earlier | isLast
  · exact uncounted
      ((List.pairwise_append.mp inOrder).2.2 old earlier newest (List.mem_singleton_self _) counted)
  · rw [List.mem_singleton.mp isLast] at counted
    exact uncounted counted

/-- A call has to wait exactly if the policy's capacity is in use. -/
theorem wait_eq_zero_iff (inOrder : policy.ExpiresInOrder time window)
    (admits : 0 < policy.capacity) (positive : 0 < policy.interval)
    (bounded : window.length ≤ policy.capacity) :
    policy.wait window time = 0 ↔ window.countP (policy.counts time) < policy.capacity := by
  cases window with
  | nil => exact ⟨fun _ => admits, fun _ => rfl⟩
  | cons oldest rest =>
      cases counted : policy.counts time oldest with
      | false =>
          -- The front does not count, so fewer times count than the window holds.
          have fewer : (oldest :: rest).countP (policy.counts time) < policy.capacity := by
            rw [List.countP_cons_of_neg (by rw [counted]; exact Bool.false_ne_true)]
            exact Nat.lt_of_lt_of_le (Nat.lt_succ_of_le List.countP_le_length) bounded
          exact ⟨fun _ => fewer, fun _ => policy.wait_cons_of_counts_eq_false rest counted⟩
      | true =>
          rw [inOrder.countP_eq_length counted]
          constructor
          · intro free
            by_contra full
            have passed :=
              policy.add_interval_le_of_wait_eq_zero positive (Nat.not_lt.mp full) free
            rw [← counts_eq_false_iff, counted] at passed
            cases passed
          · exact policy.wait_of_length_lt time

theorem record (inOrder : policy.ExpiresInOrder time window) (positive : 0 < policy.interval) :
    policy.ExpiresInOrder time (policy.record window time) := by
  rw [ExpiresInOrder, RatePolicy.record, List.pairwise_append]
  refine ⟨inOrder.sublist (List.drop_sublist _ _), List.pairwise_singleton _ _, ?_⟩
  intro earlier _ latest isLast _
  rw [List.mem_singleton.mp isLast]
  exact counts_self positive time

/-- A call that need not wait takes up one more place: a time that has to go for it did not
count. -/
theorem countP_record (positive : 0 < policy.interval)
    (bounded : window.length ≤ policy.capacity) (free : policy.wait window time = 0) :
    (policy.record window time).countP (policy.counts time) =
      window.countP (policy.counts time) + 1 := by
  have kept : (window.drop (window.length + 1 - policy.capacity)).countP (policy.counts time) =
      window.countP (policy.counts time) := by
    rcases Nat.lt_or_ge window.length policy.capacity with room | full
    · rw [Nat.sub_eq_zero_of_le room, List.drop_zero]
    · cases window with
      | nil => rw [List.drop_nil]
      | cons oldest rest =>
          have one : (oldest :: rest).length + 1 - policy.capacity = 1 := by omega
          have expired : policy.counts time oldest = false :=
            (policy.counts_eq_false_iff time oldest).mpr
              (policy.add_interval_le_of_wait_eq_zero positive full free)
          rw [one, List.drop_one, List.tail_cons,
            List.countP_cons_of_neg (by rw [expired]; exact Bool.false_ne_true)]
  rw [RatePolicy.record, List.countP_append, kept, List.countP_singleton,
    if_pos (counts_self positive time)]

end ExpiresInOrder

end RatePolicy

/-! ## Limiters -/

namespace RateLimiter

variable {limiter : RateLimiter} {policy : RatePolicy} {author : String} {time : Int} {used : Nat}

/-- Of an author's window `used` places are in use at an instant, and the times that do not
count stand in front of those that do. -/
structure Uses (policy : RatePolicy) (time : Int) (limiter : RateLimiter) (author : String)
    (used : Nat) : Prop where
  configured : limiter.policy? = some policy
  bounded : (limiter.window author).length ≤ policy.capacity
  inOrder : policy.ExpiresInOrder time (limiter.window author)
  counted : (limiter.window author).countP (policy.counts time) = used

namespace Uses

theorem le_capacity (uses : Uses policy time limiter author used) : used ≤ policy.capacity := by
  rw [← uses.counted]
  exact Nat.le_trans List.countP_le_length uses.bounded

theorem usage?_eq (uses : Uses policy time limiter author used) :
    limiter.usage? author time = some ⟨used, policy.capacity, policy.interval⟩ := by
  rw [usage?, uses.configured, Option.map_some, uses.counted]

theorem of_window_eq (uses : Uses policy time limiter author used) {other : RateLimiter}
    (configured : other.policy? = some policy)
    (same : other.window author = limiter.window author) :
    Uses policy time other author used where
  configured := configured
  bounded := same ▸ uses.bounded
  inOrder := same ▸ uses.inOrder
  counted := same ▸ uses.counted

/-- A sweep for an earlier time, or for the instant itself, changes nothing: a window that it
drops was not in use. -/
theorem sweep (uses : Uses policy time limiter author used) {moment : Int}
    (notLater : moment ≤ time) : Uses policy time (limiter.sweep policy moment) author used := by
  cases live : policy.isLive moment (limiter.window author) with
  | true =>
      have configured : (limiter.sweep policy moment).policy? = some policy := uses.configured
      have same : (limiter.sweep policy moment).window author = limiter.window author := by
        rw [window_sweep, if_pos live]
      exact uses.of_window_eq configured same
  | false =>
      have gone : (limiter.sweep policy moment).window author = [] := by
        rw [window_sweep, live, if_neg Bool.false_ne_true]
      have unused : used = 0 := by
        rw [← uses.counted]
        exact uses.inOrder.countP_eq_zero (policy.isLive_eq_false_of_le live notLater)
      exact
        { configured := uses.configured
          bounded := gone ▸ Nat.zero_le _
          inOrder := gone ▸ List.Pairwise.nil
          counted := by rw [gone, unused, List.countP_nil] }

theorem prepared (uses : Uses policy time limiter author used) (caller : String) {moment : Int}
    (notLater : moment ≤ time) :
    Uses policy time (limiter.prepared policy caller moment) author used := by
  rw [RateLimiter.prepared]
  split
  · exact uses.sweep notLater
  · exact uses

theorem check_of_ne (uses : Uses policy time limiter author used) (limits : policy.capacity ≠ 0)
    {caller : String} (distinct : caller ≠ author) {moment : Int} (notLater : moment ≤ time) :
    Uses policy time (limiter.check caller moment).2 author used := by
  apply (uses.prepared caller notLater).of_window_eq
  · rw [policy?_check, uses.configured]
  · exact window_check_of_ne uses.configured limits distinct moment

theorem wait_eq_zero_iff (uses : Uses policy time limiter author used)
    (admits : 0 < policy.capacity) (positive : 0 < policy.interval) :
    policy.wait (limiter.window author) time = 0 ↔ used < policy.capacity := by
  rw [uses.inOrder.wait_eq_zero_iff admits positive uses.bounded, uses.counted]

/-- A check of the author at the instant is admitted if there is a place left, and takes it. -/
theorem check_of_lt (uses : Uses policy time limiter author used)
    (positive : 0 < policy.interval) (room : used < policy.capacity) :
    (limiter.check author time).1 = .admitted ∧
      Uses policy time (limiter.check author time).2 author (used + 1) := by
  have admits := Nat.zero_lt_of_lt room
  have limits := Nat.ne_of_gt admits
  have free := (uses.wait_eq_zero_iff admits positive).mpr room
  have window_eq := window_check_self uses.configured limits author time
  rw [if_pos free] at window_eq
  refine ⟨?_, ?_, ?_, ?_, ?_⟩
  · rw [fst_check uses.configured limits, Verdict.ofWait_eq_admitted_iff, free]
  · rw [policy?_check, uses.configured]
  · rw [window_eq]
    exact policy.length_record_le _ time admits
  · rw [window_eq]
    exact uses.inOrder.record positive
  · rw [window_eq, RatePolicy.ExpiresInOrder.countP_record positive uses.bounded free,
      uses.counted]

/-- If there is no place left, a check of the author at the instant is denied. -/
theorem exists_check_eq_of_le (uses : Uses policy time limiter author used)
    (admits : 0 < policy.capacity) (positive : 0 < policy.interval)
    (full : policy.capacity ≤ used) :
    ∃ remaining, limiter.check author time = (.denied remaining, limiter) := by
  have waits := mt (uses.wait_eq_zero_iff admits positive).mp (Nat.not_lt.mpr full)
  obtain ⟨remaining, wait_eq⟩ := Nat.exists_eq_succ_of_ne_zero waits
  have denied : (limiter.check author time).1 = .denied (remaining + 1) := by
    rw [fst_check uses.configured (Nat.ne_of_gt admits), wait_eq]
    rfl
  exact ⟨remaining + 1, Prod.ext denied (snd_check_of_denied denied)⟩

/-! ## Runs of requests -/

/-- Requests that are not the author's checks and not dated later leave the usage as it is. -/
theorem serve_of_ne (uses : Uses policy time limiter author used) (limits : policy.capacity ≠ 0)
    {request : LimiterRequest} (strange : ∀ moment, request ≠ .check author moment)
    (notLater : request.time ≤ time) :
    Uses policy time (limiter.serve request).2 author used := by
  cases request with
  | check caller moment =>
      refine uses.check_of_ne limits ?_ notLater
      rintro rfl
      exact strange moment rfl
  | usage caller moment => exact uses
  | cleanup moment =>
      rw [RateLimiter.serve, cleanup, uses.configured]
      exact uses.sweep notLater

/-- Of the checks of the author at the instant as many are admitted as there are places left,
and none after that. -/
theorem getElem?_checksOf {later : List LimiterRequest}
    (uses : Uses policy time limiter author used) (admits : 0 < policy.capacity)
    (positive : 0 < policy.interval) (notLater : ∀ request ∈ later, request.time ≤ time)
    (atOnce : ∀ moment, .check author moment ∈ later → moment = time)
    {place : Nat} {checked : Int × Verdict}
    (answered : (limiter.checksOf author later)[place]? = some checked) :
    (place < policy.capacity - used → checked.2 = .admitted) ∧
      (policy.capacity - used ≤ place → ∃ remaining, checked.2 = .denied remaining) := by
  induction later generalizing limiter used place with
  | nil => cases answered
  | cons request rest ih =>
      have restNotLater : ∀ request ∈ rest, request.time ≤ time :=
        fun other member => notLater other (List.mem_cons_of_mem request member)
      have restAtOnce : ∀ moment, .check author moment ∈ rest → moment = time :=
        fun moment member => atOnce moment (List.mem_cons_of_mem request member)
      by_cases own : request = .check author time
      · subst own
        rw [checksOf_check_self] at answered
        rcases Nat.lt_or_ge used policy.capacity with room | full
        · obtain ⟨admitted, taken⟩ := uses.check_of_lt positive room
          cases place with
          | zero =>
              cases answered
              exact ⟨fun _ => admitted, fun full => by omega⟩
          | succ place =>
              have verdicts := ih taken restNotLater restAtOnce answered
              refine ⟨fun early => verdicts.1 (by omega), fun late => verdicts.2 (by omega)⟩
        · obtain ⟨remaining, denied⟩ := uses.exists_check_eq_of_le admits positive full
          rw [denied] at answered
          refine ⟨fun early => by omega, fun _ => ?_⟩
          cases place with
          | zero =>
              cases answered
              exact ⟨remaining, rfl⟩
          | succ place => exact (ih uses restNotLater restAtOnce answered).2 (by omega)
      · have strange : ∀ moment, request ≠ .check author moment := by
          rintro moment rfl
          exact own (by rw [atOnce moment List.mem_cons_self])
        rw [checksOf_of_ne strange] at answered
        have kept := uses.serve_of_ne (Nat.ne_of_gt admits) strange
          (notLater request List.mem_cons_self)
        exact ih kept restNotLater restAtOnce answered

/-- Checks of the author alone take the places that are left, and the next one is denied. -/
theorem checksOf_replicate (uses : Uses policy time limiter author used)
    (admits : 0 < policy.capacity) (positive : 0 < policy.interval) {places : Nat}
    (left : policy.capacity = used + places) :
    ∃ remaining,
      limiter.checksOf author (List.replicate (places + 1) (.check author time)) =
        List.replicate places (time, .admitted) ++ [(time, .denied remaining)] := by
  induction places generalizing limiter used with
  | zero =>
      obtain ⟨remaining, denied⟩ := uses.exists_check_eq_of_le admits positive (by omega)
      refine ⟨remaining, ?_⟩
      rw [Nat.zero_add, List.replicate_one, checksOf_check_self, denied]
      rfl
  | succ places ih =>
      obtain ⟨admitted, taken⟩ := uses.check_of_lt positive (by omega)
      obtain ⟨remaining, checks⟩ := ih taken (by omega)
      refine ⟨remaining, ?_⟩
      rw [List.replicate_succ, checksOf_check_self, admitted, checks, List.replicate_succ,
        List.cons_append]

end Uses

/-- The calls of an author that were admitted in the order of their times leave its window so
that the usage at any instant can be read off. -/
theorem Holds.uses {past : List Int} (holds : Holds policy limiter author past)
    (ordered : past.Pairwise (· ≤ ·)) (time : Int) :
    Uses policy time limiter author ((limiter.window author).countP (policy.counts time)) where
  configured := holds.configured
  bounded := holds.bounded
  inOrder := RatePolicy.expiresInOrder_of_ordered (ordered.sublist holds.recent.sublist) time
  counted := rfl

/-- The usage of a window foretells the checks. If the calls of an author were admitted in the
order of their times, then at any instant, earlier ones included, no more than the capacity is
in use, the next checks the author makes at the instant are admitted as long as there is
capacity left, and the one after them is denied. The same goes for its checks among requests
of others, and requests of its own that are not checks, if these are not dated later. -/
theorem usage_foretells_checks (policy : RatePolicy) (admits : 1 ≤ policy.capacity)
    (positive : 0 < policy.interval) (requests : List LimiterRequest) (author : String)
    (ordered : ((ofPolicy (some policy)).admissions author requests).Pairwise (· ≤ ·))
    (time : Int) :
    let limiter := (ofPolicy (some policy)).afterRequests requests
    ∃ used, limiter.usage? author time = some ⟨used, policy.capacity, policy.interval⟩ ∧
      used ≤ policy.capacity ∧
      (∃ remaining,
        limiter.checksOf author
            (List.replicate (policy.capacity - used + 1) (.check author time)) =
          List.replicate (policy.capacity - used) (time, .admitted) ++
            [(time, .denied remaining)]) ∧
      ∀ later : List LimiterRequest, (∀ request ∈ later, request.time ≤ time) →
        (∀ moment, .check author moment ∈ later → moment = time) →
        ∀ place checked, (limiter.checksOf author later)[place]? = some checked →
          (place < policy.capacity - used → checked.2 = .admitted) ∧
            (policy.capacity - used ≤ place → ∃ remaining, checked.2 = .denied remaining) := by
  intro limiter
  have uses := (holds_afterRequests admits requests author).uses ordered time
  refine ⟨_, uses.usage?_eq, uses.le_capacity, ?_, ?_⟩
  · exact uses.checksOf_replicate admits positive (Nat.add_sub_of_le uses.le_capacity).symm
  · intro later notLater atOnce place checked answered
    exact uses.getElem?_checksOf admits positive notLater atOnce answered

/-- With an expired time and one of the future in the window, there is one call left at an
instant between them. -/
theorem usage_foretells_checks_between :
    let requests : List LimiterRequest :=
      [.check "ada" 0, .check "ada" 0, .check "grace" 500, .check "ada" 90, .check "ada" 100]
    let limiter := (ofPolicy (some ⟨60, 3⟩)).afterRequests requests
    ((ofPolicy (some ⟨60, 3⟩)).admissions "ada" requests).Pairwise (· ≤ ·) ∧
      limiter.window "ada" = [0, 90, 100] ∧
      limiter.usage? "ada" 70 = some ⟨2, 3, 60⟩ ∧
      ∃ remaining, limiter.checksOf "ada" [.check "ada" 70, .check "ada" 70] =
        [(70, .admitted), (70, .denied remaining)] := by
  intro requests limiter
  have ordered : ((ofPolicy (some ⟨60, 3⟩)).admissions "ada" requests).Pairwise (· ≤ ·) := by
    decide
  obtain ⟨used, usage, -, checks, -⟩ :=
    usage_foretells_checks ⟨60, 3⟩ (by decide) (by decide) requests "ada" ordered 70
  have known : limiter.usage? "ada" 70 = some ⟨2, 3, 60⟩ := by decide
  have two : used = 2 := by
    have same := Option.some.inj (usage.symm.trans known)
    exact congrArg WindowUsage.used same
  subst two
  exact ⟨ordered, by decide, known, checks⟩

end RateLimiter

end ChatCommands
