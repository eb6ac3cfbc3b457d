/-
# What authors notice of each other

A check looks at the window of its author and at no other one, so the answers given to an
author can depend on the calls of others only through the sweeps these cause. A sweep is
dated by the call that causes it, which need not agree with the clock of the author: if it
is dated later than a call the author makes afterwards, it can drop a window that still
counts for that call.

Main statement: an author gets the answers it would get if nobody else called, provided
that at most 1024 authors call or that no call before one of its own is dated after it.
Without that proviso the statement is false, and a run is given in which an author is
admitted once more than it would be alone.
-/

import ChatCommands.Proofs.RateLimit.Burst
import ChatCommands.Proofs.RateLimit.Pruning

namespace ChatCommands.RateLimiter

variable {limiter crowded alone : RateLimiter} {policy : RatePolicy} {author : String}
  {now : Int}

/-! ## Two runs -/

/-- The calls of one author. -/
def callsOf (author : String) (calls : List RateCall) : List RateCall :=
  calls.filter fun call => call.author = author

/-- The answers one author is given in a run. -/
def verdictsFor (limiter : RateLimiter) (author : String) (calls : List RateCall) :
    List (RateCall × Verdict) :=
  (limiter.verdicts calls).filter fun answered => answered.1.author = author

/-- Nobody's own clock runs backwards. The clocks of different authors are not compared. -/
def OwnTimesOrdered (calls : List RateCall) : Prop :=
  calls.Pairwise fun earlier later => earlier.author = later.author → earlier.time ≤ later.time

instance (calls : List RateCall) : Decidable (OwnTimesOrdered calls) :=
  inferInstanceAs (Decidable (List.Pairwise _ _))

/-- No sweep of a run is dated after a later call of the author. -/
def Undisturbed (author : String) : RateLimiter → List RateCall → Prop
  | _, [] => True
  | limiter, call :: rest =>
    (limiter.needsSweep call.author = true →
        ∀ later ∈ rest, later.author = author → call.time ≤ later.time) ∧
      Undisturbed author (limiter.check call.author call.time).2 rest

theorem verdicts_cons (call : RateCall) (rest : List RateCall) :
    limiter.verdicts (call :: rest) =
      (call, (limiter.check call.author call.time).1) ::
        (limiter.check call.author call.time).2.verdicts rest := rfl

theorem verdictsFor_cons_self {call : RateCall} (rest : List RateCall)
    (own : call.author = author) :
    limiter.verdictsFor author (call :: rest) =
      (call, (limiter.check call.author call.time).1) ::
        (limiter.check call.author call.time).2.verdictsFor author rest := by
  rw [verdictsFor, verdicts_cons, List.filter_cons_of_pos (by simpa using own)]
  rfl

theorem verdictsFor_cons_of_ne {call : RateCall} (rest : List RateCall)
    (distinct : call.author ≠ author) :
    limiter.verdictsFor author (call :: rest) =
      (limiter.check call.author call.time).2.verdictsFor author rest := by
  rw [verdictsFor, verdicts_cons, List.filter_cons_of_neg (by simpa using distinct)]
  rfl

/-! ## One author in a crowd and alone -/

/-- The window an author has in the crowd is what sweeps have left of the window it has
alone. -/
structure Mirrors (policy : RatePolicy) (now : Int) (author : String)
    (crowded alone : RateLimiter) : Prop where
  crowded_configured : crowded.policy? = some policy
  alone_configured : alone.policy? = some policy
  trails : Trails policy now (crowded.window author) (alone.window author)

namespace Mirrors

theorem ofPolicy (policy : RatePolicy) (now : Int) (author : String) :
    Mirrors policy now author (.ofPolicy (some policy)) (.ofPolicy (some policy)) where
  crowded_configured := rfl
  alone_configured := rfl
  trails := .nil policy now

theorem later (mirrors : Mirrors policy now author crowded alone) {time : Int}
    (notEarlier : now ≤ time) : Mirrors policy time author crowded alone :=
  { mirrors with trails := mirrors.trails.later notEarlier }

/-- The author gets the same answer in both places. -/
theorem check_self (mirrors : Mirrors policy now author crowded alone)
    (limits : policy.capacity ≠ 0) :
    (crowded.check author now).1 = (alone.check author now).1 ∧
      Mirrors policy now author (crowded.check author now).2 (alone.check author now).2 := by
  have wait_eq := mirrors.trails.wait_eq
  refine ⟨?_, ?_, ?_, ?_⟩
  · rw [fst_check mirrors.crowded_configured limits, fst_check mirrors.alone_configured limits,
      wait_eq]
  · rw [policy?_check, mirrors.crowded_configured]
  · rw [policy?_check, mirrors.alone_configured]
  · rw [window_check_self mirrors.crowded_configured limits,
      window_check_self mirrors.alone_configured limits, wait_eq]
    split
    · exact mirrors.trails.record (Nat.pos_of_ne_zero limits)
    · exact mirrors.trails

/-- The call of somebody else goes unnoticed, unless it causes a sweep that is dated ahead. -/
theorem check_of_ne (mirrors : Mirrors policy now author crowded alone)
    (limits : policy.capacity ≠ 0) {other : String} {time : Int} (distinct : other ≠ author)
    (notAhead : crowded.needsSweep other = true → time ≤ now) :
    Mirrors policy now author (crowded.check other time).2 alone where
  crowded_configured := by rw [policy?_check, mirrors.crowded_configured]
  alone_configured := mirrors.alone_configured
  trails := by
    rw [window_check_of_ne mirrors.crowded_configured limits distinct, prepared]
    split
    · next due =>
      rw [window_sweep]
      split
      · exact mirrors.trails
      · next dead =>
        have gone := policy.isLive_eq_false_of_le (eq_false_of_ne_true dead) (notAhead due)
        exact mirrors.trails.drop_dead gone
    · exact mirrors.trails

/-- The author gets the same answers in both places, whoever else calls in the crowd. -/
theorem verdictsFor_eq {calls : List RateCall}
    (mirrors : Mirrors policy now author crowded alone) (limits : policy.capacity ≠ 0)
    (ordered : OwnTimesOrdered calls) (undisturbed : Undisturbed author crowded calls)
    (notEarlier : ∀ call ∈ calls, call.author = author → now ≤ call.time) :
    crowded.verdictsFor author calls = alone.verdicts (callsOf author calls) := by
  -- `now` is kept below all calls the author is still going to make; it is raised by the
  -- author's own calls and by sweeps.
  induction calls generalizing now crowded alone with
  | nil => rfl
  | cons call rest ih =>
      obtain ⟨first, ordered⟩ := List.pairwise_cons.mp ordered
      obtain ⟨sweep, undisturbed⟩ := undisturbed
      have still : ∀ later ∈ rest, later.author = author → now ≤ later.time :=
        fun later member => notEarlier later (List.mem_cons_of_mem call member)
      by_cases own : call.author = author
      · have current := mirrors.later (notEarlier call List.mem_cons_self own)
        subst own
        obtain ⟨same, next⟩ := current.check_self limits
        have after : ∀ later ∈ rest, later.author = call.author → call.time ≤ later.time :=
          fun later member isOwn => first later member isOwn.symm
        rw [verdictsFor_cons_self rest rfl, callsOf, List.filter_cons_of_pos (by simp),
          verdicts_cons, same, ih next ordered undisturbed after]
        rfl
      · rw [verdictsFor_cons_of_ne rest own, callsOf, List.filter_cons_of_neg (by simpa using own)]
        by_cases due : crowded.needsSweep call.author = true
        · have raised := mirrors.later (Int.le_max_left now call.time)
          have next := raised.check_of_ne limits own fun _ => Int.le_max_right now call.time
          refine ih next ordered undisturbed fun later member isOwn => ?_
          exact Int.max_le.mpr ⟨still later member isOwn, sweep due later member isOwn⟩
        · have notAhead : crowded.needsSweep call.author = true → call.time ≤ now :=
            fun isDue => absurd isDue due
          exact ih (mirrors.check_of_ne limits own notAhead) ordered undisturbed still

end Mirrors

/-! ## When an author is not disturbed -/

theorem undisturbed_of_forall_le {calls : List RateCall}
    (notAhead : calls.Pairwise fun earlier later =>
      later.author = author → earlier.time ≤ later.time) :
    Undisturbed author limiter calls := by
  induction calls generalizing limiter with
  | nil => exact trivial
  | cons call rest ih =>
      obtain ⟨first, notAhead⟩ := List.pairwise_cons.mp notAhead
      exact ⟨fun _ => first, ih notAhead⟩

theorem involved_check_subset (configured : limiter.policy? = some policy)
    (limits : policy.capacity ≠ 0) {call : RateCall} (rest : List RateCall)
    (unswept : limiter.needsSweep call.author = false) :
    (limiter.check call.author call.time).2.involved rest ⊆ limiter.involved (call :: rest) := by
  rw [check_eq_judge configured limits, judge_eq, prepared_of_unswept unswept]
  split
  · exact involved_recorded_subset policy call rest
  · exact involved_subset call rest

theorem undisturbed_of_card_le {calls : List RateCall}
    (configured : limiter.policy? = some policy) (limits : policy.capacity ≠ 0)
    (few : (limiter.involved calls).card ≤ 1024) : Undisturbed author limiter calls := by
  induction calls generalizing limiter with
  | nil => exact trivial
  | cons call rest ih =>
      have unswept := needsSweep_eq_false_of_involved few
      have fewer := Finset.card_le_card (involved_check_subset configured limits rest unswept)
      refine ⟨fun due => ?_, ih (by rw [policy?_check, configured]) (Nat.le_trans fewer few)⟩
      rw [unswept] at due
      cases due

/-! ## Isolation -/

theorem verdicts_of_admitting {calls : List RateCall}
    (admits : ∀ author time, limiter.check author time = (.admitted, limiter)) :
    limiter.verdicts calls = calls.map fun call => (call, .admitted) := by
  induction calls with
  | nil => rfl
  | cons call rest ih => rw [verdicts_cons, admits, ih, List.map_cons]

theorem verdictsFor_eq_of_admitting {calls : List RateCall}
    (admits : ∀ author time, limiter.check author time = (.admitted, limiter)) :
    limiter.verdictsFor author calls = limiter.verdicts (callsOf author calls) := by
  rw [verdictsFor, verdicts_of_admitting admits, verdicts_of_admitting admits, callsOf,
    List.filter_map]
  rfl

theorem exists_forall_le_time (calls : List RateCall) :
    ∃ now : Int, ∀ call ∈ calls, now ≤ call.time := by
  induction calls with
  | nil => exact ⟨0, by simp⟩
  | cons call rest ih =>
      obtain ⟨now, below⟩ := ih
      refine ⟨min call.time now, fun other member => ?_⟩
      rcases List.mem_cons.mp member with rfl | later
      · exact Int.min_le_left _ _
      · exact Int.le_trans (Int.min_le_right _ _) (below other later)

/-- An author gets the answers, remaining times included, that it would get if nobody else
called, as long as everybody's own times are in order and either at most 1024 authors call
or no call that comes before one of the author's is dated after it. -/
theorem verdictsFor_eq_verdicts_callsOf (policy? : Option RatePolicy) (author : String)
    (calls : List RateCall) (ordered : OwnTimesOrdered calls)
    (undisturbed : (calls.map RateCall.author).toFinset.card ≤ 1024 ∨
      calls.Pairwise fun earlier later =>
        later.author = author → earlier.time ≤ later.time) :
    (ofPolicy policy?).verdictsFor author calls =
      (ofPolicy policy?).verdicts (callsOf author calls) := by
  cases policy? with
  | none => exact verdictsFor_eq_of_admitting (check_of_unlimited rfl)
  | some policy =>
      by_cases unlimiting : policy.capacity = 0
      · exact verdictsFor_eq_of_admitting (check_of_capacity_eq_zero rfl unlimiting)
      · obtain ⟨now, below⟩ := exists_forall_le_time calls
        have unnoticed : Undisturbed author (ofPolicy (some policy)) calls := by
          rcases undisturbed with few | notAhead
          · exact undisturbed_of_card_le rfl unlimiting few
          · exact undisturbed_of_forall_le notAhead
        exact (Mirrors.ofPolicy policy now author).verdictsFor_eq unlimiting ordered unnoticed
          fun call member _ => below call member

/-- Somebody whose clock is far ahead changes nothing as long as few authors call. -/
theorem verdictsFor_eq_verdicts_callsOf_skewed :
    let calls : List RateCall :=
      [⟨"ada", 0⟩, ⟨"grace", 500⟩, ⟨"ada", 10⟩, ⟨"grace", 530⟩, ⟨"ada", 60⟩]
    OwnTimesOrdered calls ∧
      ((calls.map RateCall.author).toFinset.card ≤ 1024 ∨
        calls.Pairwise fun earlier later => later.author = "ada" → earlier.time ≤ later.time) ∧
      (ofPolicy (some ⟨60, 1⟩)).verdictsFor "ada" calls =
        [(⟨"ada", 0⟩, .admitted), (⟨"ada", 10⟩, .denied 50), (⟨"ada", 60⟩, .admitted)] ∧
      (ofPolicy (some ⟨60, 1⟩)).verdictsFor "ada" calls =
        (ofPolicy (some ⟨60, 1⟩)).verdicts (callsOf "ada" calls) := by
  refine ⟨by decide, .inl (by decide), by decide, ?_⟩
  exact verdictsFor_eq_verdicts_callsOf _ _ _ (by decide) (.inl (by decide))

/-! ## An author that is disturbed -/

/-- The limiter after a run. -/
def afterCalls : RateLimiter → List RateCall → RateLimiter
  | limiter, [] => limiter
  | limiter, call :: rest => afterCalls (limiter.check call.author call.time).2 rest

theorem verdicts_append (first second : List RateCall) :
    limiter.verdicts (first ++ second) =
      limiter.verdicts first ++ (limiter.afterCalls first).verdicts second := by
  induction first generalizing limiter with
  | nil => rfl
  | cons call rest ih => rw [List.cons_append, verdicts_cons, verdicts_cons, ih]; rfl

theorem verdictsFor_append (first second : List RateCall) :
    limiter.verdictsFor author (first ++ second) =
      limiter.verdictsFor author first ++ (limiter.afterCalls first).verdictsFor author second := by
  rw [verdictsFor, verdicts_append, List.filter_append]
  rfl

theorem policy?_afterCalls (calls : List RateCall) :
    (limiter.afterCalls calls).policy? = limiter.policy? := by
  induction calls generalizing limiter with
  | nil => rfl
  | cons call rest ih => rw [afterCalls, ih, policy?_check]

theorem verdictsFor_eq_nil {calls : List RateCall}
    (strange : ∀ call ∈ calls, call.author ≠ author) : limiter.verdictsFor author calls = [] := by
  induction calls generalizing limiter with
  | nil => rfl
  | cons call rest ih =>
      rw [verdictsFor_cons_of_ne rest (strange call List.mem_cons_self)]
      exact ih fun other member => strange other (List.mem_cons_of_mem call member)

/-- An author that has no window is admitted; there is no sweep as long as there is room for
one more window. -/
theorem check_of_not_mem (configured : limiter.policy? = some policy)
    (limits : policy.capacity ≠ 0) (time : Int) (absent : author ∉ limiter.windows.keys)
    (room : limiter.trackedAuthors < sweepThreshold) :
    limiter.check author time = (.admitted, recorded policy limiter author time) := by
  have unswept : limiter.needsSweep author = false := by
    rw [← Bool.not_eq_true, needsSweep_eq_true_iff]
    omega
  rw [check_of_absent configured limits absent, prepared_of_unswept unswept]

/-- A sweep takes its window from an author whose calls it dates out. -/
theorem window_check_of_swept (configured : limiter.policy? = some policy)
    (limits : policy.capacity ≠ 0) {other : String} {time : Int} (distinct : other ≠ author)
    (due : limiter.needsSweep other = true)
    (dead : policy.isLive time (limiter.window author) = false) :
    (limiter.check other time).2.window author = [] := by
  rw [window_check_of_ne configured limits distinct, prepared, if_pos due, window_sweep, dead,
    if_neg Bool.false_ne_true]

/-- Authors that call for the first time get a window each, and nobody else's changes. -/
theorem afterCalls_of_nodup {calls : List RateCall} (configured : limiter.policy? = some policy)
    (limits : policy.capacity ≠ 0)
    (fresh : (limiter.windows.keys ++ calls.map RateCall.author).Nodup)
    (room : limiter.trackedAuthors + calls.length ≤ sweepThreshold) :
    (limiter.afterCalls calls).windows.keys =
        limiter.windows.keys ++ calls.map RateCall.author ∧
      ∀ other ∈ limiter.windows.keys,
        (limiter.afterCalls calls).window other = limiter.window other := by
  induction calls generalizing limiter with
  | nil => exact ⟨(List.append_nil _).symm, fun _ _ => rfl⟩
  | cons call rest ih =>
      have absent : call.author ∉ limiter.windows.keys := by
        intro present
        exact (List.nodup_append.mp fresh).2.2 _ present call.author (by simp) rfl
      rw [List.length_cons, trackedAuthors, ← OrderedMap.length_keys] at room
      have step := check_of_not_mem configured limits call.time absent <| by
        rw [trackedAuthors, ← OrderedMap.length_keys]
        omega
      have keys_eq : (limiter.check call.author call.time).2.windows.keys =
          limiter.windows.keys ++ [call.author] := by
        rw [step, recorded, OrderedMap.keys_insert, if_neg absent]
      obtain ⟨keys, windows⟩ := ih (limiter.policy?_check call.author call.time ▸ configured)
        (by rw [keys_eq, List.append_assoc]; exact fresh)
        (by
          rw [trackedAuthors, ← OrderedMap.length_keys, keys_eq, List.length_append,
            List.length_singleton]
          omega)
      rw [afterCalls]
      refine ⟨by rw [keys, keys_eq, List.append_assoc]; rfl, fun other member => ?_⟩
      rw [windows other (by rw [keys_eq]; exact List.mem_append_left _ member), step,
        window_recorded, if_neg]
      rintro rfl
      exact absent member

/-- The first calls of 1023 authors, all at once. -/
def strangers : List RateCall := (List.range 1023).map fun number => ⟨"crowd" ++ number.repr, 0⟩

/-- One author calls among many. A newcomer whose clock is a minute ahead sweeps all windows
away, and then the author calls again. -/
def disturbance : List RateCall :=
  (⟨"ada", 0⟩ :: strangers) ++ [⟨"newcomer", 60000000000⟩, ⟨"ada", 0⟩]

theorem author_ne_of_mem_strangers {call : RateCall} (member : call ∈ strangers) {name : String}
    (first : name.toList.head? ≠ some 'c') : call.author ≠ name := by
  obtain ⟨number, -, rfl⟩ := List.mem_map.mp member
  rintro rfl
  simp at first

theorem nodup_strangers : (strangers.map RateCall.author).Nodup := by
  rw [strangers, List.map_map]
  refine List.Nodup.map ?_ List.nodup_range
  intro first second same
  have digits : first.repr = second.repr := by simpa using same
  have values := congrArg (fun text => Nat.ofDigitChars 10 text.toList 0) digits
  simpa using values

/-- Only the newcomer is dated later than anybody, and it calls once. -/
theorem ownTimesOrdered_disturbance : OwnTimesOrdered disturbance := by
  have early : ∀ call ∈ (⟨"ada", 0⟩ :: strangers : List RateCall), call.time = 0 := by
    intro call member
    rcases List.mem_cons.mp member with rfl | crowd
    · rfl
    · obtain ⟨number, -, rfl⟩ := List.mem_map.mp crowd
      rfl
  have late : ∀ call ∈ ([⟨"newcomer", 60000000000⟩, ⟨"ada", 0⟩] : List RateCall),
      0 ≤ call.time := by decide
  rw [OwnTimesOrdered, disturbance, List.pairwise_append]
  refine ⟨?_, by decide, ?_⟩
  · refine List.pairwise_of_forall_mem_list fun first firstIn second secondIn _ => ?_
    rw [early first firstIn, early second secondIn]
  · intro first firstIn second secondIn _
    rw [early first firstIn]
    exact late second secondIn

/-- When the crowd has called, the next newcomer causes a sweep. -/
theorem afterCalls_strangers (configured : limiter.policy? = some policy) (limits : policy.capacity ≠ 0)
    (keys : limiter.windows.keys = ["ada"]) :
    (limiter.afterCalls strangers).needsSweep "newcomer" = true ∧
      (limiter.afterCalls strangers).window "ada" = limiter.window "ada" := by
  have known : ∀ name ∈ strangers.map RateCall.author, name ≠ "ada" ∧ name ≠ "newcomer" := by
    intro name member
    obtain ⟨call, listed, rfl⟩ := List.mem_map.mp member
    exact ⟨author_ne_of_mem_strangers listed (by decide),
      author_ne_of_mem_strangers listed (by decide)⟩
  have size : strangers.length = 1023 := by rw [strangers, List.length_map, List.length_range]
  have fresh : (limiter.windows.keys ++ strangers.map RateCall.author).Nodup := by
    rw [keys, List.singleton_append, List.nodup_cons]
    exact ⟨fun member => (known "ada" member).1 rfl, nodup_strangers⟩
  have room : limiter.trackedAuthors + strangers.length ≤ sweepThreshold := by
    rw [trackedAuthors, ← OrderedMap.length_keys, keys, size]
    decide
  obtain ⟨keys_eq, windows⟩ := afterCalls_of_nodup configured limits fresh room
  rw [keys] at keys_eq windows
  refine ⟨?_, windows "ada" (by simp)⟩
  rw [needsSweep_eq_true_iff, trackedAuthors, ← OrderedMap.length_keys, keys_eq]
  refine ⟨?_, ?_⟩
  · rw [List.length_append, List.length_map, size]
    decide
  · rw [List.mem_append]
    rintro (own | crowd)
    · exact absurd own (by decide)
    · exact (known "newcomer" crowd).2 rfl

/-- Among the others the author is admitted twice. -/
theorem verdictsFor_disturbance :
    (ofPolicy (some ⟨60000000000, 1⟩)).verdictsFor "ada" disturbance =
      [(⟨"ada", 0⟩, .admitted), (⟨"ada", 0⟩, .admitted)] := by
  have limits : (⟨60000000000, 1⟩ : RatePolicy).capacity ≠ 0 := by decide
  have first : (ofPolicy (some ⟨60000000000, 1⟩)).check "ada" 0 =
      (.admitted, ⟨some ⟨60000000000, 1⟩, .ofList [("ada", [0])]⟩) := rfl
  generalize called_eq : (⟨some ⟨60000000000, 1⟩, .ofList [("ada", [0])]⟩ : RateLimiter) = called
    at first
  have configured : called.policy? = some ⟨60000000000, 1⟩ := by rw [← called_eq]
  have window : called.window "ada" = [0] := by rw [← called_eq]; rfl
  have keys : called.windows.keys = ["ada"] := by rw [← called_eq]; rfl
  obtain ⟨due, kept⟩ := afterCalls_strangers configured limits keys
  have crowded : (called.afterCalls strangers).policy? = some ⟨60000000000, 1⟩ := by
    rw [policy?_afterCalls, configured]
  have swept : ((called.afterCalls strangers).check "newcomer" 60000000000).2.window "ada" =
      [] := by
    apply window_check_of_swept crowded limits (by decide) due
    rw [kept, window]
    decide
  have strange : ∀ call ∈ strangers, call.author ≠ "ada" :=
    fun call member => author_ne_of_mem_strangers member (by decide)
  rw [disturbance, List.cons_append, verdictsFor_cons_self _ (by rfl), first, verdictsFor_append,
    verdictsFor_eq_nil strange, List.nil_append, verdictsFor_cons_of_ne _ (by decide),
    verdictsFor_cons_self _ (by rfl), fst_check (by rw [policy?_check, crowded]) limits, swept]
  rfl

/-- Alone it has to wait for a minute. -/
theorem verdicts_callsOf_disturbance :
    (ofPolicy (some ⟨60000000000, 1⟩)).verdicts (callsOf "ada" disturbance) =
      [(⟨"ada", 0⟩, .admitted), (⟨"ada", 0⟩, .denied 60000000000)] := by
  have silent : callsOf "ada" strangers = [] := by
    rw [callsOf, List.filter_eq_nil_iff]
    intro call member
    simpa using author_ne_of_mem_strangers member (by decide)
  have calls_eq : callsOf "ada" disturbance = [⟨"ada", 0⟩, ⟨"ada", 0⟩] := by
    rw [callsOf, disturbance, List.filter_append, List.filter_cons_of_pos (by decide)]
    rw [callsOf] at silent
    rw [silent]
    rfl
  rw [calls_eq]
  decide

/-- Calls of others can do more than they should: not every author gets the answers it would
get alone, although nobody's own times run backwards. -/
theorem not_forall_verdictsFor_eq :
    ¬∀ (policy? : Option RatePolicy) (author : String) (calls : List RateCall),
      OwnTimesOrdered calls →
        (ofPolicy policy?).verdictsFor author calls =
          (ofPolicy policy?).verdicts (callsOf author calls) := by
  intro isolated
  have same := isolated (some ⟨60000000000, 1⟩) "ada" disturbance ownTimesOrdered_disturbance
  rw [verdictsFor_disturbance, verdicts_callsOf_disturbance] at same
  exact absurd same (by decide)

end ChatCommands.RateLimiter
