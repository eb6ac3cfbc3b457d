/-
# The burst bound

Whatever the order in which the calls of up to 1024 authors come in, and whatever
times they carry, no stretch of time as long as the interval holds more admitted
calls of one author than the policy allows.

The times of an author's admitted calls need not be sorted, so the bound does not
follow from the oldest time of a window being the least. What holds instead is a
spacing: each admitted time is at least an interval later than the one admitted
`capacity` calls before it. Two admitted calls whose numbers differ by a multiple of
the capacity are therefore never in one stretch, and there are only `capacity` residues.
-/

import ChatCommands.Proofs.RateLimit.Check
import Mathlib.Data.Finset.Card
import Mathlib.Data.Finset.Range
import Mathlib.Data.Nat.ModEq
import Mathlib.Tactic.Ring

namespace ChatCommands

/-! ## Spaced times -/

namespace RatePolicy

variable {policy : RatePolicy} {times : List Int}

/-- Each time is at least an interval later than the one `capacity` places before. -/
def Spaced (policy : RatePolicy) (times : List Int) : Prop :=
  ∀ (place : Nat) (early late : Int), times[place]? = some early →
    times[place + policy.capacity]? = some late → early + policy.interval ≤ late

theorem spaced_nil : policy.Spaced [] := by
  intro place early late earlier
  simp at earlier

/-- In spaced times, a positive multiple of the capacity of places later is at least an
interval later. -/
theorem Spaced.add_interval_le (spaced : policy.Spaced times) {place rounds : Nat}
    {early late : Int} (earlier : times[place]? = some early)
    (later : times[place + (rounds + 1) * policy.capacity]? = some late) :
    early + policy.interval ≤ late := by
  induction rounds generalizing late with
  | zero =>
      rw [Nat.zero_add, Nat.one_mul] at later
      exact spaced place early late earlier later
  | succ rounds ih =>
      have split_place : place + (rounds + 1 + 1) * policy.capacity =
          place + (rounds + 1) * policy.capacity + policy.capacity := by ring
      rw [split_place] at later
      have inside : place + (rounds + 1) * policy.capacity < times.length :=
        Nat.lt_of_le_of_lt (Nat.le_add_right _ _) (List.getElem?_eq_some_iff.mp later).1
      have middle := List.getElem?_eq_getElem inside
      have first := ih middle
      have second := spaced _ _ _ middle later
      omega

/-- Two places of spaced times with one residue do not lie in one stretch. -/
theorem Spaced.eq_of_mod_eq (spaced : policy.Spaced times) {start early late : Int}
    {first second : Nat} (ordered : first ≤ second)
    (residue : first % policy.capacity = second % policy.capacity)
    (earlier : times[first]? = some early) (later : times[second]? = some late)
    (after : start ≤ early) (before : late < start + policy.interval) : first = second := by
  by_contra distinct
  obtain ⟨rounds, apart⟩ : policy.capacity ∣ second - first :=
    (Nat.modEq_iff_dvd' ordered).mp residue
  cases rounds with
  | zero => omega
  | succ rounds =>
      have place : second = first + (rounds + 1) * policy.capacity := by
        rw [Nat.mul_comm, ← apart]
        omega
      rw [place] at later
      have far := spaced.add_interval_le earlier later
      omega

/-- The number of elements that satisfy a test is the number of their places. -/
theorem countP_eq_card_places (times : List Int) (test : Int → Bool) :
    times.countP test =
      ((Finset.range times.length).filter fun place => times[place]?.any test).card := by
  induction times using List.reverseRecOn with
  | nil => rfl
  | append_singleton times time ih =>
      have earlier : ∀ place ∈ Finset.range times.length,
          ((times ++ [time])[place]?.any test = true ↔ times[place]?.any test = true) := by
        intro place inside
        rw [List.getElem?_append_left (Finset.mem_range.mp inside)]
      have latest : (times ++ [time])[times.length]?.any test = test time := by
        rw [List.getElem?_concat_length, Option.any_some]
      rw [List.countP_append, ih, List.length_append, List.length_singleton,
        Finset.range_add_one, Finset.filter_insert, Finset.filter_congr earlier, latest]
      by_cases counted : test time = true
      · rw [if_pos counted, Finset.card_insert_of_notMem (by simp),
          List.countP_singleton, if_pos counted]
      · rw [if_neg counted, List.countP_singleton, if_neg counted, Nat.add_zero]

/-- No stretch of an interval holds more than `capacity` of the times if they are
spaced. -/
theorem Spaced.countP_le (spaced : policy.Spaced times) (admits : 0 < policy.capacity)
    (start : Int) :
    times.countP (fun time => start ≤ time ∧ time < start + policy.interval) ≤
      policy.capacity := by
  rw [countP_eq_card_places]
  by_contra many
  -- More places than residues: two of the counted places have the same residue.
  rw [Nat.not_le, ← Finset.card_range policy.capacity] at many
  obtain ⟨first, firstIn, second, secondIn, distinct, residue⟩ :=
    Finset.exists_ne_map_eq_of_card_lt_of_maps_to many (f := (· % policy.capacity))
      fun place _ => Finset.mem_coe.mpr (Finset.mem_range.mpr (Nat.mod_lt place admits))
  obtain ⟨-, firstIn⟩ := Finset.mem_filter.mp firstIn
  obtain ⟨-, secondIn⟩ := Finset.mem_filter.mp secondIn
  obtain ⟨early, earlier, earlyIn⟩ := (Option.any_eq_true _ _).mp firstIn
  obtain ⟨late, later, lateIn⟩ := (Option.any_eq_true _ _).mp secondIn
  rw [decide_eq_true_iff] at earlyIn lateIn
  rcases Nat.le_total first second with ordered | ordered
  · exact distinct
      (spaced.eq_of_mod_eq ordered residue earlier later earlyIn.1 lateIn.2)
  · exact distinct
      (spaced.eq_of_mod_eq ordered residue.symm later earlier lateIn.1 earlyIn.2).symm

/-- Spaced times stay spaced if a call is admitted to the window of the latest ones. -/
theorem Spaced.append (spaced : policy.Spaced times) (admits : 0 < policy.capacity)
    (positive : 0 < policy.interval) {time : Int}
    (free : policy.wait (times.rtake policy.capacity) time = 0) :
    policy.Spaced (times ++ [time]) := by
  intro place early late earlier later
  have inside : place + policy.capacity < (times ++ [time]).length :=
    (List.getElem?_eq_some_iff.mp later).1
  rw [List.length_append, List.length_singleton] at inside
  rcases Nat.lt_or_ge (place + policy.capacity) times.length with old | new
  · rw [List.getElem?_append_left (by omega)] at earlier
    rw [List.getElem?_append_left old] at later
    exact spaced place early late earlier later
  -- The new time is compared with the front of the window, which is the time admitted
  -- `capacity` calls before.
  · have last : place + policy.capacity = times.length := by omega
    rw [last, List.getElem?_append_right (Nat.le_refl _), Nat.sub_self] at later
    cases later
    have present : times[place]? = some early := by
      rwa [List.getElem?_append_left (by omega)] at earlier
    obtain ⟨within, rfl⟩ := List.getElem?_eq_some_iff.mp present
    have front : times.rtake policy.capacity = times[place] :: times.drop (place + 1) := by
      rw [List.rtake, ← last, Nat.add_sub_cancel, List.drop_eq_getElem_cons within]
    have full : policy.capacity ≤ (times[place] :: times.drop (place + 1)).length := by
      rw [List.length_cons, List.length_drop]
      omega
    rw [front] at free
    exact add_interval_le_of_wait_eq_zero policy positive full free

end RatePolicy

/-! ## Runs of checks -/

/-- A call as a limiter sees it. -/
structure RateCall where
  author : String
  time : Int
deriving DecidableEq, Repr

namespace RateLimiter

/-- The calls with the verdicts on them, when they are checked one after the other. -/
def verdicts : RateLimiter → List RateCall → List (RateCall × Verdict)
  | _, [] => []
  | limiter, call :: rest =>
    let (verdict, next) := limiter.check call.author call.time
    (call, verdict) :: verdicts next rest

/-- The times of the admitted calls of an author, in the order of the calls. -/
def admittedTimes (limiter : RateLimiter) (author : String) (calls : List RateCall) : List Int :=
  (limiter.verdicts calls).filterMap fun (call, verdict) =>
    if call.author = author ∧ verdict = .admitted then some call.time else none

variable {limiter : RateLimiter} {policy : RatePolicy} {author : String}

theorem admittedTimes_cons (call : RateCall) (rest : List RateCall) :
    limiter.admittedTimes author (call :: rest) =
      (if call.author = author ∧ (limiter.check call.author call.time).1 = .admitted
        then [call.time] else []) ++
        (limiter.check call.author call.time).2.admittedTimes author rest := by
  rw [admittedTimes, verdicts, List.filterMap_cons]
  by_cases counted :
      call.author = author ∧ (limiter.check call.author call.time).1 = .admitted
  · simp only [if_pos counted]
    rfl
  · simp only [if_neg counted]
    rfl

/-- The authors that have a window or are still going to call. -/
def involved (limiter : RateLimiter) (calls : List RateCall) : Finset String :=
  (limiter.windows.keys ++ calls.map RateCall.author).toFinset

/-- As long as no more than 1024 authors are involved, no sweep is due. -/
theorem needsSweep_eq_false_of_involved {call : RateCall} {rest : List RateCall}
    (few : (limiter.involved (call :: rest)).card ≤ 1024) :
    limiter.needsSweep call.author = false := by
  rw [← Bool.not_eq_true, needsSweep_eq_true_iff]
  rintro ⟨many, absent⟩
  have held : limiter.windows.keys.toFinset.card = limiter.trackedAuthors := by
    rw [List.toFinset_card_of_nodup limiter.windows.nodup_keys, OrderedMap.length_keys,
      trackedAuthors]
  have fresh : call.author ∉ limiter.windows.keys.toFinset := by
    rwa [List.mem_toFinset]
  have within : insert call.author limiter.windows.keys.toFinset ⊆
      limiter.involved (call :: rest) := by
    intro other member
    simp only [Finset.mem_insert, List.mem_toFinset] at member
    simp only [involved, List.mem_toFinset, List.mem_append, List.map_cons, List.mem_cons]
    tauto
  have more := Finset.card_le_card within
  rw [Finset.card_insert_of_notMem fresh, held] at more
  rw [sweepThreshold] at many
  omega

theorem involved_subset (call : RateCall) (rest : List RateCall) :
    limiter.involved rest ⊆ limiter.involved (call :: rest) := by
  intro other member
  simp only [involved, List.mem_toFinset, List.mem_append, List.map_cons,
    List.mem_cons] at member ⊢
  tauto

theorem involved_recorded_subset (policy : RatePolicy) (call : RateCall)
    (rest : List RateCall) :
    (recorded policy limiter call.author call.time).involved rest ⊆
      limiter.involved (call :: rest) := by
  intro other member
  simp only [involved, List.mem_toFinset, List.mem_append, mem_keys_recorded, List.map_cons,
    List.mem_cons] at member ⊢
  tauto

/-- The window of an author holds the latest of the times admitted so far, which are
spaced. -/
structure Follows (policy : RatePolicy) (limiter : RateLimiter) (author : String)
    (past : List Int) : Prop where
  configured : limiter.policy? = some policy
  window : limiter.window author = past.rtake policy.capacity
  spaced : policy.Spaced past

theorem follows_ofPolicy (policy : RatePolicy) (author : String) :
    Follows policy (ofPolicy (some policy)) author [] where
  configured := rfl
  window := by rw [window_ofPolicy, List.rtake_nil]
  spaced := RatePolicy.spaced_nil

theorem Follows.recorded_self {past : List Int} {time : Int}
    (follows : Follows policy limiter author past) (admits : 0 < policy.capacity)
    (positive : 0 < policy.interval) (free : policy.wait (limiter.window author) time = 0) :
    Follows policy (recorded policy limiter author time) author (past ++ [time]) where
  configured := follows.configured
  window := by
    rw [window_recorded, if_pos rfl, follows.window, policy.record_rtake past time admits]
  spaced := by
    rw [follows.window] at free
    exact follows.spaced.append admits positive free

theorem Follows.recorded_other {past : List Int} {other : String} (time : Int)
    (follows : Follows policy limiter author past) (distinct : other ≠ author) :
    Follows policy (recorded policy limiter other time) author past where
  configured := follows.configured
  window := by rw [window_recorded, if_neg distinct, follows.window]
  spaced := follows.spaced

/-- The times of the admitted calls of an author are spaced, together with those that
were admitted before. -/
theorem Follows.spaced_append_admittedTimes {past : List Int} {calls : List RateCall}
    (follows : Follows policy limiter author past) (admits : 0 < policy.capacity)
    (positive : 0 < policy.interval) (few : (limiter.involved calls).card ≤ 1024) :
    policy.Spaced (past ++ limiter.admittedTimes author calls) := by
  -- The invariant is `Follows`; the authors involved only become fewer.
  induction calls generalizing limiter past with
  | nil =>
      rw [admittedTimes, verdicts, List.filterMap_nil, List.append_nil]
      exact follows.spaced
  | cons call rest ih =>
      have prepared_eq : limiter.prepared policy call.author call.time = limiter :=
        prepared_of_unswept (needsSweep_eq_false_of_involved few) policy call.time
      have few_rest := Nat.le_trans (Finset.card_le_card (involved_subset call rest)) few
      have few_recorded := Nat.le_trans
        (Finset.card_le_card (involved_recorded_subset policy call rest)) few
      rw [admittedTimes_cons,
        check_eq_judge follows.configured (Nat.ne_of_gt admits) call.author call.time,
        prepared_eq, judge_eq]
      simp only [Verdict.ofWait_eq_admitted_iff]
      by_cases free : policy.wait (limiter.window call.author) call.time = 0
      · by_cases own : call.author = author
        · subst own
          rw [if_pos ⟨rfl, free⟩, if_pos free, ← List.append_assoc]
          exact ih (follows.recorded_self admits positive free) few_recorded
        · rw [if_neg (fun both => own both.1), if_pos free, List.nil_append]
          exact ih (follows.recorded_other call.time own) few_recorded
      · rw [if_neg (fun both => free both.2), if_neg free, List.nil_append]
        exact ih follows few_rest

/-- In any stretch of time as long as the interval, at most `capacity` calls of an
author are admitted, in whatever order up to 1024 authors call and whatever times their
calls carry. -/
theorem countP_admittedTimes_le_capacity (policy : RatePolicy) (admits : 1 ≤ policy.capacity)
    (positive : 0 < policy.interval) (calls : List RateCall)
    (few : (calls.map RateCall.author).toFinset.card ≤ 1024) (author : String) (start : Int) :
    ((ofPolicy (some policy)).admittedTimes author calls).countP
        (fun time => start ≤ time ∧ time < start + policy.interval) ≤ policy.capacity := by
  have spaced := (follows_ofPolicy policy author).spaced_append_admittedTimes admits positive few
  exact spaced.countP_le admits start

/-- With two calls in 60 units of time, an author whose times run backwards is refused
the third call although it is dated before the other two; somebody else is not. -/
theorem countP_admittedTimes_backwards :
    let policy : RatePolicy := ⟨60, 2⟩
    let calls : List RateCall :=
      [⟨"ada", 50⟩, ⟨"ada", 30⟩, ⟨"grace", 20⟩, ⟨"ada", 10⟩, ⟨"ada", 110⟩, ⟨"ada", 89⟩]
    1 ≤ policy.capacity ∧ 0 < policy.interval ∧
      (calls.map RateCall.author).toFinset.card ≤ 1024 ∧
      (ofPolicy (some policy)).admittedTimes "ada" calls = [50, 30, 110] ∧
      ((ofPolicy (some policy)).admittedTimes "ada" calls).countP
        (fun time => (30 : Int) ≤ time ∧ time < 30 + policy.interval) ≤ policy.capacity := by
  refine ⟨by decide, by decide, by decide, by decide, ?_⟩
  exact countP_admittedTimes_le_capacity _ (by decide) (by decide) _ (by decide) "ada" 30

end RateLimiter

end ChatCommands
