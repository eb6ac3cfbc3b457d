/-
# From a configured limit to a limiter

A configuration gives the length of the window as a binary number of seconds, and the
limiter counts nanoseconds. A configuration without problems has a positive and finite
length, but that does not make the interval positive: at most half a nanosecond is rounded
to none, and what is beyond the reach of durations counts as none. An empty interval limits
nobody.

Main statement: the limiter of a host enforces the configured limit exactly if the length of
the window is measurable, that is, neither too short nor too long for a duration.
-/

import ChatCommands.Config.Validation
import ChatCommands.Console.Host
import ChatCommands.Proofs.RateLimit.Span

namespace ChatCommands

open Number (Binary64 Duration roundDiv)

/-! ## Durations of seconds -/

namespace Number

theorem roundDiv_eq_zero_iff (num : Nat) {den : Nat} (positive : 0 < den) :
    roundDiv num den = 0 ↔ 2 * num ≤ den := by
  have division := Nat.div_add_mod num den
  have small := Nat.mod_lt num positive
  rw [roundDiv]
  by_cases less : num < den
  · rw [Nat.div_eq_of_lt less, Nat.mod_eq_of_lt less]
    split
    · omega
    · split <;> omega
  · have quotient : 1 ≤ num / den := (Nat.one_le_div_iff positive).mpr (Nat.not_lt.mp less)
    constructor
    · intro rounded
      split at rounded
      · omega
      · split at rounded <;> omega
    · omega

theorem Binary64.denominator_pos (x : Binary64) : 0 < x.denominator :=
  Nat.pow_pos (by decide)

/-- A number of seconds that makes a window: longer than half a nanosecond and within the
reach of durations. -/
def Binary64.IsMeasurable (seconds : Binary64) : Prop :=
  seconds.denominator < 2 * Duration.perSecond * seconds.numerator ∧
    seconds.numerator < Duration.secondsBound * seconds.denominator

instance (seconds : Binary64) : Decidable seconds.IsMeasurable :=
  inferInstanceAs (Decidable (_ ∧ _))

theorem Duration.ofSeconds?_of_reach {seconds : Binary64} (positive : isPositiveRate seconds = true)
    (reach : seconds.numerator < secondsBound * seconds.denominator) :
    ofSeconds? seconds =
      some (roundDiv (seconds.numerator * perSecond) seconds.denominator) := by
  simp only [isPositiveRate, Bool.and_eq_true, Bool.not_eq_true'] at positive
  obtain ⟨⟨finite, sign⟩, -⟩ := positive
  rw [ofSeconds?, finite, sign]
  simp only [Bool.not_true, Bool.false_and, Bool.false_eq_true, if_false]
  rw [if_neg (Nat.not_le.mpr reach)]

theorem Duration.ofSeconds?_of_beyond {seconds : Binary64}
    (beyond : secondsBound * seconds.denominator ≤ seconds.numerator) :
    ofSeconds? seconds = none := by
  rw [ofSeconds?]
  split
  · rfl
  · split
    · rfl
    · rfl

end Number

/-- A positive length of the window makes a positive interval exactly if it is measurable. -/
theorem LimitingSection.interval_pos_iff {limiting : LimitingSection}
    (positive : isPositiveRate limiting.rate = true) :
    0 < limiting.interval ↔ limiting.rate.IsMeasurable := by
  rw [interval, Binary64.IsMeasurable]
  by_cases reach :
      limiting.rate.numerator < Duration.secondsBound * limiting.rate.denominator
  · have rounded := Number.roundDiv_eq_zero_iff (limiting.rate.numerator * Duration.perSecond)
      limiting.rate.denominator_pos
    rw [Duration.ofSeconds?_of_reach positive reach, Option.getD_some, Nat.pos_iff_ne_zero,
      ne_eq, rounded]
    have same : 2 * Duration.perSecond * limiting.rate.numerator =
        2 * (limiting.rate.numerator * Duration.perSecond) := by
      rw [Nat.mul_assoc, Nat.mul_comm Duration.perSecond]
    rw [same]
    omega
  · rw [Duration.ofSeconds?_of_beyond (Nat.not_lt.mp reach), Option.getD_none]
    constructor
    · intro impossible
      cases impossible
    · intro measurable
      exact absurd measurable.2 reach

/-! ## Configurations without problems -/

theorem Config.limitingProblems_eq_nil {config : Config} {limiting : LimitingSection}
    (configured : config.limiting? = some limiting) (valid : config.isValid = true) :
    limitingProblems limiting = [] := by
  rw [isValid, List.isEmpty_iff, problems, configured] at valid
  simp only [List.append_eq_nil_iff, Option.map_some, Option.getD_some] at valid
  exact valid.1.2

theorem isPositiveRate_of_limitingProblems {limiting : LimitingSection}
    (sound : limitingProblems limiting = []) : isPositiveRate limiting.rate = true := by
  by_contra wrong
  rw [limitingProblems, if_neg wrong] at sound
  cases sound

theorem count_pos_of_limitingProblems {limiting : LimitingSection}
    (sound : limitingProblems limiting = []) : 0 < limiting.count := by
  by_contra zero
  rw [limitingProblems, if_pos (Nat.eq_zero_of_not_pos zero), List.append_eq_nil_iff] at sound
  cases sound.2

/-! ## Enforcing a limit -/

theorem Verdict.ne_admitted_iff {verdict : Verdict} :
    verdict ≠ .admitted ↔ ∃ remaining, verdict = .denied remaining := by
  cases verdict with
  | admitted => simp
  | denied remaining => simp

namespace RateLimiter

variable {limiter : RateLimiter} {policy : RatePolicy} {author : String} {time : Int}

/-- Of the checks an author makes at an instant the first `count` are admitted and the others
denied, whoever else makes checks at the same instant. -/
def Enforces (limiter : RateLimiter) (count : Nat) (author : String) (time : Int) : Prop :=
  ∀ calls : List RateCall, (∀ call ∈ calls, call.time = time) →
    ∀ place call verdict, (limiter.verdictsFor author calls)[place]? = some (call, verdict) →
      (place < count → verdict = .admitted) ∧
        (count ≤ place → ∃ remaining, verdict = .denied remaining)

theorem enforces_ofPolicy (admits : 0 < policy.capacity) (positive : 0 < policy.interval)
    (author : String) (time : Int) :
    (ofPolicy (some policy)).Enforces policy.capacity author time := by
  intro calls atOnce place call verdict answered
  have now : ∀ call ∈ calls, policy.Spans time call.time := by
    intro call member
    rw [atOnce call member]
    exact ⟨Int.le_refl time, Int.lt_add_of_pos_right time (Int.natCast_pos.mpr positive)⟩
  have admitted_iff :=
    (HoldsSpan.ofPolicy policy time).getElem?_verdictsFor admits now answered
  rw [window_ofPolicy, List.length_nil, Nat.zero_add] at admitted_iff
  refine ⟨admitted_iff.mpr, fun full => ?_⟩
  rw [← Verdict.ne_admitted_iff]
  exact mt admitted_iff.mp (Nat.not_lt.mpr full)

/-- An empty interval makes nobody wait. -/
theorem fst_check_of_interval_eq_zero (configured : limiter.policy? = some policy)
    (empty : policy.interval = 0) (author : String) (time : Int) :
    (limiter.check author time).1 = .admitted := by
  by_cases unlimiting : policy.capacity = 0
  · rw [check_of_capacity_eq_zero configured unlimiting]
  · rw [fst_check configured unlimiting, Verdict.ofWait_eq_admitted_iff]
    unfold RatePolicy.wait
    split
    · rfl
    · split
      · rfl
      · rw [empty, Nat.zero_sub]

theorem snd_eq_admitted_of_interval_eq_zero {calls : List RateCall}
    (configured : limiter.policy? = some policy) (empty : policy.interval = 0) :
    ∀ answered ∈ limiter.verdicts calls, answered.2 = .admitted := by
  induction calls generalizing limiter with
  | nil =>
      intro answered member
      cases member
  | cons call rest ih =>
      intro answered member
      rw [verdicts_cons] at member
      rcases List.mem_cons.mp member with rfl | later
      · exact fst_check_of_interval_eq_zero configured empty call.author call.time
      · exact ih (by rw [policy?_check, configured]) answered later

theorem length_verdictsFor_replicate (limiter : RateLimiter) (count : Nat) (author : String)
    (time : Int) :
    (limiter.verdictsFor author (List.replicate count ⟨author, time⟩)).length = count := by
  induction count generalizing limiter with
  | zero => rfl
  | succ count ih =>
      have own : (⟨author, time⟩ : RateCall).author = author := rfl
      rw [List.replicate_succ, verdictsFor_cons_self _ own, List.length_cons, ih]

/-- With an empty interval a limiter enforces no limit: one call too many is admitted. -/
theorem not_enforces_of_interval_eq_zero (configured : limiter.policy? = some policy)
    (empty : policy.interval = 0) (count : Nat) (author : String) (time : Int) :
    ¬limiter.Enforces count author time := by
  intro enforces
  have inside : count <
      (limiter.verdictsFor author (List.replicate (count + 1) ⟨author, time⟩)).length := by
    rw [length_verdictsFor_replicate]
    exact Nat.lt_succ_self count
  have atOnce : ∀ call ∈ List.replicate (count + 1) (⟨author, time⟩ : RateCall),
      call.time = time := by
    intro call member
    rw [List.eq_of_mem_replicate member]
  obtain ⟨⟨call, verdict⟩, answered⟩ : ∃ answered,
      (limiter.verdictsFor author (List.replicate (count + 1) ⟨author, time⟩))[count]? =
        some answered := ⟨_, List.getElem?_eq_getElem inside⟩
  have given := (List.mem_filter.mp (List.mem_of_getElem? answered)).1
  have admitted : verdict = .admitted :=
    snd_eq_admitted_of_interval_eq_zero configured empty _ given
  obtain ⟨remaining, denied⟩ := (enforces _ atOnce _ _ _ answered).2 (Nat.le_refl count)
  rw [admitted] at denied
  cases denied

end RateLimiter

/-! ## Hosts -/

namespace Console

variable {π : Type} [Plugin π]

theorem limiter_buildDispatcher (files : FileTree) (config : Config) (catalog : Catalog π) :
    (buildDispatcher files config catalog).2.limiter = .ofPolicy config.policy? := rfl

/-- A host enforces the limit of a configuration without problems, at every instant and for
every author, exactly if the length of the window is measurable. -/
theorem enforces_limiter_buildDispatcher_iff (files : FileTree) (config : Config)
    (catalog : Catalog π) {limiting : LimitingSection}
    (configured : config.limiting? = some limiting) (valid : config.isValid = true)
    (author : String) (time : Int) :
    (buildDispatcher files config catalog).2.limiter.Enforces limiting.count author time ↔
      limiting.rate.IsMeasurable := by
  have sound := Config.limitingProblems_eq_nil configured valid
  have interval := limiting.interval_pos_iff (isPositiveRate_of_limitingProblems sound)
  have policy : config.policy? = some limiting.policy := by
    rw [Config.policy?, configured, Option.map_some]
  rw [limiter_buildDispatcher, policy, ← interval]
  constructor
  · intro enforces
    by_contra none
    have empty : limiting.policy.interval = 0 := Nat.eq_zero_of_not_pos none
    exact RateLimiter.not_enforces_of_interval_eq_zero rfl empty _ author time enforces
  · intro positive
    have admits : 0 < limiting.policy.capacity := count_pos_of_limitingProblems sound
    exact RateLimiter.enforces_ofPolicy admits positive author time

/-- The longest window a duration can measure limits an author to two calls at once. -/
theorem enforces_limiter_buildDispatcher_longest :
    let config : Config := { limiting? := some ⟨⟨0x43EFFFFFFFFFFFFF⟩, 2⟩ }
    config.limiting? = some ⟨⟨0x43EFFFFFFFFFFFFF⟩, 2⟩ ∧ config.isValid = true ∧
      (⟨0x43EFFFFFFFFFFFFF⟩ : Binary64).IsMeasurable ∧
      (buildDispatcher (.emptyAt ["home"]) config (Catalog.builtin id)).2.limiter.Enforces
        2 "ada" (-5) := by
  intro config
  have valid : config.isValid = true := by decide +kernel
  have measurable : (⟨0x43EFFFFFFFFFFFFF⟩ : Binary64).IsMeasurable := by decide +kernel
  refine ⟨rfl, valid, measurable, ?_⟩
  exact (enforces_limiter_buildDispatcher_iff _ config _ rfl valid "ada" (-5)).mpr measurable

/-- A window of `2 ^ 64` seconds is accepted and limits nobody, so not every accepted limit is
enforced. -/
theorem not_forall_enforces_limiter_buildDispatcher :
    ¬∀ (files : FileTree) (config : Config) (catalog : Catalog Builtin)
      (limiting : LimitingSection) (author : String) (time : Int),
      config.limiting? = some limiting → config.isValid = true →
        (buildDispatcher files config catalog).2.limiter.Enforces limiting.count author time := by
  intro enforced
  have valid : ({ limiting? := some ⟨⟨0x43F0000000000000⟩, 1⟩ } : Config).isValid = true := by
    decide +kernel
  have empty : (LimitingSection.policy ⟨⟨0x43F0000000000000⟩, 1⟩).interval = 0 := by
    decide +kernel
  have enforces := enforced (.emptyAt ["home"]) _ (Catalog.builtin id) _ "ada" 0 rfl valid
  exact RateLimiter.not_enforces_of_interval_eq_zero rfl empty 1 "ada" 0 enforces

end Console

end ChatCommands
