/-
# What a limiter holds

Whatever requests a limiter has served and whatever times they carried, the window of an
author is an end of the list of its admitted calls, in the order of their admission. It is
never longer than the policy allows, and an author that has a window has called: no empty
window is kept. Evictions and sweeps only ever cut the list in front.

Nothing is said about the times themselves. They need not be in order, so the front of a
window is the call admitted longest ago and not the one with the earliest time.
-/

import ChatCommands.Proofs.RateLimit.Pruning

namespace ChatCommands

/-! ## Runs of requests -/

/-- The time of an author's check and the verdict on it, if that is what a request and its
answer are. -/
def LimiterRequest.checkBy? (author : String) :
    LimiterRequest → LimiterAnswer → Option (Int × Verdict)
  | .check caller time, .verdict verdict => if caller = author then some (time, verdict) else none
  | _, _ => none

/-- The time of a check if it was admitted. -/
def admittedTime? : Int × Verdict → Option Int
  | (time, .admitted) => some time
  | (_, .denied _) => none

namespace RateLimiter

/-- The limiter after requests have been served one after the other. -/
def afterRequests : RateLimiter → List LimiterRequest → RateLimiter
  | limiter, [] => limiter
  | limiter, request :: rest => afterRequests (limiter.serve request).2 rest

/-- The checks of an author among requests that are served one after the other: when they
were made and what was said to them. -/
def checksOf (limiter : RateLimiter) (author : String) (requests : List LimiterRequest) :
    List (Int × Verdict) :=
  (requests.zip (limiter.answers serve requests)).filterMap fun (request, answer) =>
    request.checkBy? author answer

/-- The times of the admitted calls of an author, in the order of their admission. -/
def admissions (limiter : RateLimiter) (author : String) (requests : List LimiterRequest) :
    List Int :=
  (limiter.checksOf author requests).filterMap admittedTime?

variable {limiter : RateLimiter} {policy : RatePolicy} {author : String} {past : List Int}

theorem checksOf_cons (request : LimiterRequest) (rest : List LimiterRequest) :
    limiter.checksOf author (request :: rest) =
      (request.checkBy? author (limiter.serve request).1).toList ++
        (limiter.serve request).2.checksOf author rest := by
  rw [checksOf, answers_cons, List.zip_cons_cons, List.filterMap_cons]
  dsimp only
  cases request.checkBy? author (limiter.serve request).1 <;> rfl

theorem checksOf_check_self (time : Int) (rest : List LimiterRequest) :
    limiter.checksOf author (.check author time :: rest) =
      (time, (limiter.check author time).1) ::
        (limiter.check author time).2.checksOf author rest := by
  rw [checksOf_cons, serve, LimiterRequest.checkBy?, if_pos rfl, Option.toList_some,
    List.singleton_append]

theorem checksOf_of_ne {request : LimiterRequest}
    (strange : ∀ time, request ≠ .check author time) (rest : List LimiterRequest) :
    limiter.checksOf author (request :: rest) =
      (limiter.serve request).2.checksOf author rest := by
  rw [checksOf_cons]
  cases request with
  | check caller time =>
      have distinct : caller ≠ author := by
        rintro rfl
        exact strange time rfl
      rw [serve, LimiterRequest.checkBy?, if_neg distinct, Option.toList_none, List.nil_append]
  | usage caller time => rfl
  | cleanup time => rfl

theorem admissions_cons (request : LimiterRequest) (rest : List LimiterRequest) :
    limiter.admissions author (request :: rest) =
      ((request.checkBy? author (limiter.serve request).1).bind admittedTime?).toList ++
        (limiter.serve request).2.admissions author rest := by
  rw [admissions, checksOf_cons, List.filterMap_append]
  congr 1
  cases request.checkBy? author (limiter.serve request).1 with
  | none => rfl
  | some checked =>
      rw [Option.toList_some, List.filterMap_cons, Option.bind_some]
      cases admittedTime? checked <;> rfl

/-! ## The window of an author -/

/-- The window of an author is an end of the list of the calls that were admitted so far. It
is bounded by the policy and, if it is kept at all, not empty. -/
structure Holds (policy : RatePolicy) (limiter : RateLimiter) (author : String)
    (past : List Int) : Prop where
  configured : limiter.policy? = some policy
  nonempty : ∀ window, limiter.windows.get? author = some window → window ≠ []
  bounded : (limiter.window author).length ≤ policy.capacity
  recent : limiter.window author <:+ past

theorem holds_ofPolicy (policy : RatePolicy) (author : String) :
    Holds policy (ofPolicy (some policy)) author [] where
  configured := rfl
  nonempty := by
    intro window kept
    cases kept
  bounded := Nat.zero_le _
  recent := List.nil_suffix

namespace Holds

theorem sweep (holds : Holds policy limiter author past) (time : Int) :
    Holds policy (limiter.sweep policy time) author past where
  configured := holds.configured
  nonempty := by
    intro window kept
    rw [RateLimiter.sweep, OrderedMap.get?_filter, Option.filter_eq_some_iff] at kept
    exact holds.nonempty window kept.1
  bounded := by
    rw [window_sweep]
    split
    · exact holds.bounded
    · exact Nat.zero_le _
  recent := by
    rw [window_sweep]
    split
    · exact holds.recent
    · exact List.nil_suffix

theorem prepared (holds : Holds policy limiter author past) (caller : String) (time : Int) :
    Holds policy (limiter.prepared policy caller time) author past := by
  rw [RateLimiter.prepared]
  split
  · exact holds.sweep time
  · exact holds

theorem recorded_self (holds : Holds policy limiter author past)
    (admits : 0 < policy.capacity) (time : Int) :
    Holds policy (recorded policy limiter author time) author (past ++ [time]) where
  configured := holds.configured
  nonempty := by
    intro window kept
    rw [recorded, OrderedMap.get?_insert_self] at kept
    cases kept
    exact policy.record_ne_nil _ time
  bounded := by
    rw [window_recorded, if_pos rfl]
    exact policy.length_record_le _ time admits
  recent := by
    rw [window_recorded, if_pos rfl, RatePolicy.record]
    obtain ⟨dropped, partition⟩ := (List.drop_suffix
      ((limiter.window author).length + 1 - policy.capacity) _).trans holds.recent
    exact ⟨dropped, by rw [← List.append_assoc, partition]⟩

theorem recorded_other (holds : Holds policy limiter author past) {caller : String}
    (distinct : caller ≠ author) (time : Int) :
    Holds policy (recorded policy limiter caller time) author past where
  configured := holds.configured
  nonempty := by
    intro window kept
    rw [recorded, OrderedMap.get?_insert, if_neg distinct] at kept
    exact holds.nonempty window kept
  bounded := by
    rw [window_recorded, if_neg distinct]
    exact holds.bounded
  recent := by
    rw [window_recorded, if_neg distinct]
    exact holds.recent

/-- A judgement adds the call to the list if it is the author's and admitted. -/
theorem judge (holds : Holds policy limiter author past) (admits : 0 < policy.capacity)
    (caller : String) (time : Int) :
    Holds policy (RateLimiter.judge policy limiter caller time).2 author
      (past ++ (((LimiterRequest.check caller time).checkBy? author
        (.verdict (RateLimiter.judge policy limiter caller time).1)).bind
          admittedTime?).toList) := by
  rw [judge_eq]
  by_cases free : policy.wait (limiter.window caller) time = 0
  · rw [if_pos free, free, LimiterRequest.checkBy?]
    by_cases own : caller = author
    · subst own
      rw [if_pos rfl]
      exact holds.recorded_self admits time
    · rw [if_neg own]
      simpa using holds.recorded_other own time
  · obtain ⟨remaining, waits⟩ := Nat.exists_eq_succ_of_ne_zero free
    rw [if_neg free, waits, LimiterRequest.checkBy?]
    split
    all_goals simpa [Verdict.ofWait, admittedTime?] using holds

theorem serve (holds : Holds policy limiter author past) (admits : 0 < policy.capacity)
    (request : LimiterRequest) :
    Holds policy (limiter.serve request).2 author
      (past ++ ((request.checkBy? author (limiter.serve request).1).bind
        admittedTime?).toList) := by
  cases request with
  | check caller time =>
      have judged := (holds.prepared caller time).judge admits caller time
      rw [← check_eq_judge holds.configured (Nat.ne_of_gt admits)] at judged
      exact judged
  | usage caller time => simpa [LimiterRequest.checkBy?, RateLimiter.serve] using holds
  | cleanup time =>
      have swept := holds.sweep time
      simpa [LimiterRequest.checkBy?, RateLimiter.serve, cleanup, holds.configured] using swept

theorem afterRequests (holds : Holds policy limiter author past)
    (admits : 0 < policy.capacity) (requests : List LimiterRequest) :
    Holds policy (limiter.afterRequests requests) author
      (past ++ limiter.admissions author requests) := by
  induction requests generalizing limiter past with
  | nil => simpa [RateLimiter.afterRequests, admissions, checksOf] using holds
  | cons request rest ih =>
      rw [RateLimiter.afterRequests, admissions_cons, ← List.append_assoc]
      exact ih (holds.serve admits request)

end Holds

/-- What a limiter holds of an author after any requests. -/
theorem holds_afterRequests (admits : 0 < policy.capacity) (requests : List LimiterRequest)
    (author : String) :
    Holds policy ((ofPolicy (some policy)).afterRequests requests) author
      ((ofPolicy (some policy)).admissions author requests) :=
  (holds_ofPolicy policy author).afterRequests admits requests

/-! ## Limiters that do not limit -/

theorem policy?_serve (request : LimiterRequest) :
    (limiter.serve request).2.policy? = limiter.policy? := by
  cases request with
  | check author time => exact policy?_check limiter author time
  | usage author time => rfl
  | cleanup time =>
      rw [serve, cleanup]
      split
      · rfl
      · rfl

theorem policy?_afterRequests (requests : List LimiterRequest) :
    (limiter.afterRequests requests).policy? = limiter.policy? := by
  induction requests generalizing limiter with
  | nil => rfl
  | cons request rest ih => rw [afterRequests, ih, policy?_serve]

/-- A limiter that admits every call never keeps a window. -/
theorem afterRequests_of_unlimiting {policy? : Option RatePolicy}
    (unlimiting : ∀ policy, policy? = some policy → policy.capacity = 0)
    (requests : List LimiterRequest) :
    (ofPolicy policy?).afterRequests requests = ofPolicy policy? := by
  induction requests with
  | nil => rfl
  | cons request rest ih =>
      have unchanged : ((ofPolicy policy?).serve request).2 = ofPolicy policy? := by
        cases policy? with
        | none => cases request <;> rfl
        | some policy =>
            cases request with
            | check author time =>
                rw [serve, check_of_capacity_eq_zero rfl (unlimiting policy rfl)]
            | usage author time => rfl
            | cleanup time => rfl
      rw [afterRequests, unchanged, ih]

end RateLimiter

end ChatCommands
