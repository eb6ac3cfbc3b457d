/-
# What becomes of manifest files

A file is loaded, passed over because it is disabled, or fails; which of these depends on
the names that files before it have taken. A file that is not loaded takes no name, so
without it the others meet the fates they met with it.

A file that fails is reported once, and the report names it. What is reported about the
components of a loaded file names no file.
-/

import ChatCommands.Proofs.Snapshot.Loaded

namespace ChatCommands

variable {π : Type}

/-- The file an error is about, if it is about a file as a whole. -/
def LoadError.file? : LoadError → Option String
  | .manifest path _ | .unreadable path _ => some path
  | .needsParameters .. | .unknownComponent .. => none

/-- What becomes of a manifest file. -/
inductive ManifestFate where
  | loaded (manifest : Manifest)
  | disabled
  | failed (failure : LoadError)

namespace ManifestFate

/-- What becomes of a file, given what reading it gave and by which files names are taken. -/
def ofOutcome (taken : OrderedMap String String) (path : String) :
    Except LoadError Manifest → ManifestFate
  | .error failure => .failed failure
  | .ok manifest =>
    if !manifest.enabled then .disabled
    else
      match taken.get? (manifest.resolvedName path) with
      | some first => .failed (.manifest path (.repeatedName (manifest.resolvedName path) first))
      | none => .loaded manifest

/-- The manifest of a file that is loaded. -/
def manifest? : ManifestFate → Option Manifest
  | loaded manifest => some manifest
  | disabled | failed _ => none

/-- The failure of a file that fails. -/
def failure? : ManifestFate → Option LoadError
  | failed failure => some failure
  | loaded _ | disabled => none

/-- The names that are taken after a file, and by which files. -/
def takenAfter (taken : OrderedMap String String) (path : String) :
    ManifestFate → OrderedMap String String
  | loaded manifest => taken.insert (manifest.resolvedName path) path
  | disabled | failed _ => taken

/-- What is reported about a file and its components. -/
def failures [Plugin π] (catalog : Catalog π) (path : String) : ManifestFate → List LoadError
  | loaded manifest => (Package.ofManifest path manifest catalog).2
  | disabled => []
  | failed failure => [failure]

/-- What becomes of files that are dealt with one after the other. -/
def all (taken : OrderedMap String String) :
    List (String × Except LoadError Manifest) → List (String × ManifestFate)
  | [] => []
  | (path, outcome) :: rest =>
    let fate := ofOutcome taken path outcome
    (path, fate) :: all (fate.takenAfter taken path) rest

variable {taken : OrderedMap String String} {path : String}
  {manifests : List (String × Except LoadError Manifest)}

theorem takenAfter_of_manifest?_eq_none {fate : ManifestFate} (unloaded : fate.manifest? = none) :
    fate.takenAfter taken path = taken := by
  cases fate with
  | loaded manifest => cases unloaded
  | disabled | failed => rfl

theorem map_fst_all (taken : OrderedMap String String)
    (manifests : List (String × Except LoadError Manifest)) :
    (all taken manifests).map Prod.fst = manifests.map Prod.fst := by
  induction manifests generalizing taken with
  | nil => rfl
  | cons manifest rest ih => exact congrArg (manifest.1 :: ·) (ih _)

theorem exists_outcome_of_mem_all {fate : ManifestFate}
    (member : (path, fate) ∈ all taken manifests) :
    ∃ before outcome, (path, outcome) ∈ manifests ∧ ofOutcome before path outcome = fate := by
  induction manifests generalizing taken with
  | nil => cases member
  | cons manifest rest ih =>
      rcases List.mem_cons.mp member with here | later
      · cases here
        exact ⟨taken, manifest.2, List.mem_cons_self, rfl⟩
      · obtain ⟨before, outcome, read, fate_eq⟩ := ih later
        exact ⟨before, outcome, List.mem_cons_of_mem manifest read, fate_eq⟩

theorem exists_manifest_of_disabled {outcome : Except LoadError Manifest}
    (fate : ofOutcome taken path outcome = .disabled) :
    ∃ manifest, outcome = .ok manifest ∧ manifest.enabled = false := by
  cases outcome with
  | error failure => cases fate
  | ok manifest =>
      rw [ofOutcome] at fate
      split at fate
      · next disabled => exact ⟨manifest, rfl, by simpa using disabled⟩
      · split at fate <;> cases fate

/-- Without files that are not loaded the others meet the same fates. -/
theorem all_filter (keep : String → Bool)
    (dropped : ∀ met ∈ all taken manifests, keep met.1 = false → met.2.manifest? = none) :
    all taken (manifests.filter fun manifest => keep manifest.1) =
      (all taken manifests).filter fun met => keep met.1 := by
  induction manifests generalizing taken with
  | nil => rfl
  | cons manifest rest ih =>
      obtain ⟨path, outcome⟩ := manifest
      have later := ih fun met member => dropped met (List.mem_cons_of_mem _ member)
      cases kept : keep path with
      | true =>
          simp only [List.filter_cons, kept, if_true, all]
          rw [later]
      | false =>
          have unloaded := dropped _ List.mem_cons_self kept
          simp only [List.filter_cons, kept, Bool.false_eq_true, if_false, all]
          rw [takenAfter_of_manifest?_eq_none unloaded] at later ⊢
          exact later

/-! ## Failures -/

/-- What is wrong with a component is not told of its file. -/
theorem file?_of_mem_failures_ofManifest [Plugin π] (catalog : Catalog π) (path : String)
    (manifest : Manifest) :
    ∀ failure ∈ (Package.ofManifest path manifest catalog).2, failure.file? = none := by
  intro failure member
  rw [Package.ofManifest] at member
  rcases List.mem_append.mp member with unknown | unmade
  · obtain ⟨component, -, failed⟩ := List.mem_filterMap.mp unknown
    split at failed
    · cases failed
    · obtain rfl := Option.some.inj failed
      rfl
  · obtain ⟨factory, -, failed⟩ := List.mem_filterMap.mp unmade
    split at failed
    · cases failed
    · next made =>
      obtain rfl := Option.some.inj failed
      rw [Factory.make] at made
      split at made
      · cases made
      · cases made
        rfl

/-- A file that fails is named by its failure, if an error of reading names the file. -/
theorem file?_of_failed {outcome : Except LoadError Manifest} {failure : LoadError}
    (named : ∀ error : LoadError, outcome = .error error → error.file? = some path)
    (failed : (ofOutcome taken path outcome).failure? = some failure) :
    failure.file? = some path := by
  cases outcome with
  | error error =>
      cases failed
      exact named failure rfl
  | ok manifest =>
      rw [ofOutcome] at failed
      split at failed
      · cases failed
      · split at failed
        · cases failed
          rfl
        · cases failed

theorem file?_of_mem_all (named : ∀ manifest ∈ manifests, ∀ error,
      manifest.2 = .error error → error.file? = some manifest.1) :
    ∀ met ∈ all taken manifests, ∀ failure, met.2.failure? = some failure →
      failure.file? = some met.1 := by
  rintro ⟨path, fate⟩ member failure failed
  obtain ⟨before, outcome, read, rfl⟩ := exists_outcome_of_mem_all member
  exact file?_of_failed (named (path, outcome) read) failed

/-- The file that is named by what is reported about a file and its components. -/
def subject? (path : String) : ManifestFate → Option String
  | loaded _ => none
  | disabled | failed _ => some path

section

variable [Plugin π] (catalog : Catalog π) {fate : ManifestFate}

theorem file?_of_mem_failures
    (named : ∀ failure, fate.failure? = some failure → failure.file? = some path) :
    ∀ failure ∈ fate.failures catalog path, failure.file? = fate.subject? path := by
  intro failure member
  cases fate with
  | loaded manifest => exact file?_of_mem_failures_ofManifest catalog path manifest failure member
  | disabled => cases member
  | failed error =>
      rw [List.mem_singleton.mp member]
      exact named error rfl

/-- All that is reported about a file and its components names the same file or none. -/
theorem filter_failures
    (named : ∀ failure, fate.failure? = some failure → failure.file? = some path)
    (keep : Option String → Bool) :
    (fate.failures catalog path).filter (fun failure => keep failure.file?) =
      if keep (fate.subject? path) then fate.failures catalog path else [] := by
  have subject := file?_of_mem_failures catalog named
  split
  · next kept =>
    refine List.filter_eq_self.mpr fun failure member => ?_
    rw [subject failure member, kept]
  · next lost =>
    refine List.filter_eq_nil_iff.mpr fun failure member => ?_
    rwa [subject failure member]

/-- What is reported about files and their components. -/
def report (met : List (String × ManifestFate)) : List LoadError :=
  met.flatMap fun file => file.2.failures catalog file.1

theorem report_cons (file : String × ManifestFate) (rest : List (String × ManifestFate)) :
    report catalog (file :: rest) = file.2.failures catalog file.1 ++ report catalog rest :=
  List.flatMap_cons

theorem report_append (first second : List (String × ManifestFate)) :
    report catalog (first ++ second) = report catalog first ++ report catalog second :=
  List.flatMap_append

variable {met : List (String × ManifestFate)}

/-- Without files that are not loaded the report lacks the failures that name them. -/
theorem report_filter
    (named : ∀ file ∈ met, ∀ failure, file.2.failure? = some failure →
      failure.file? = some file.1)
    (keep : String → Bool)
    (dropped : ∀ file ∈ met, keep file.1 = false → file.2.manifest? = none) :
    report catalog (met.filter fun file => keep file.1) =
      (report catalog met).filter fun failure => failure.file?.all keep := by
  induction met with
  | nil => rfl
  | cons file rest ih =>
      have later := ih (fun other listed => named other (List.mem_cons_of_mem file listed))
        fun other listed => dropped other (List.mem_cons_of_mem file listed)
      have here := filter_failures catalog (named file List.mem_cons_self) (Option.all keep)
      have subject : (file.2.subject? file.1).all keep = keep file.1 := by
        have unloaded := dropped file List.mem_cons_self
        cases fate : file.2 with
        | loaded manifest =>
            cases kept : keep file.1 with
            | true => rfl
            | false =>
                rw [fate] at unloaded
                cases unloaded kept
        | disabled | failed => rfl
      rw [subject] at here
      rw [report_cons, List.filter_append, here, ← later, List.filter_cons]
      split
      · exact report_cons catalog file _
      · rfl

theorem filter_report_of_not_mem
    (named : ∀ file ∈ met, ∀ failure, file.2.failure? = some failure →
      failure.file? = some file.1)
    (absent : path ∉ met.map Prod.fst) :
    (report catalog met).filter (fun failure => failure.file? = some path) = [] := by
  rw [List.filter_eq_nil_iff]
  intro failure member about
  obtain ⟨file, listed, reported⟩ := List.mem_flatMap.mp member
  rw [decide_eq_true_iff, file?_of_mem_failures catalog (named file listed) failure reported]
    at about
  refine absent (List.mem_map.mpr ⟨file, listed, ?_⟩)
  cases fate : file.2 with
  | loaded manifest =>
      rw [fate] at about
      cases about
  | disabled | failed =>
      rw [fate] at about
      exact Option.some.inj about

/-- What the report says of a file as a whole is the failure of the file, if it has failed. -/
theorem filter_report
    (named : ∀ file ∈ met, ∀ failure, file.2.failure? = some failure →
      failure.file? = some file.1)
    (distinct : (met.map Prod.fst).Nodup) (member : (path, fate) ∈ met) :
    (report catalog met).filter (fun failure => failure.file? = some path) =
      fate.failure?.toList := by
  obtain ⟨before, after, rfl⟩ := List.append_of_mem member
  rw [List.map_append, List.map_cons, List.nodup_append] at distinct
  have earlier := filter_report_of_not_mem catalog
    (fun file listed => named file (List.mem_append_left _ listed))
    fun listed => distinct.2.2 path listed path List.mem_cons_self rfl
  have later := filter_report_of_not_mem catalog
    (fun file listed =>
      named file (List.mem_append_right before (List.mem_cons_of_mem (path, fate) listed)))
    (List.nodup_cons.mp distinct.2.1).1
  have here := filter_failures catalog (named (path, fate) member)
    (fun file? => decide (file? = some path))
  rw [report_append, report_cons, List.filter_append, List.filter_append, earlier, later, here,
    List.nil_append, List.append_nil]
  cases fate with
  | loaded manifest => rfl
  | disabled => exact ite_self _
  | failed failure => rw [subject?, if_pos (decide_eq_true rfl)]; rfl

end

end ManifestFate

/-! ## Runs -/

namespace LoadProgress

open ManifestFate (ofOutcome)

/-- Dealing with a file reports what becomes of it and takes its name if it is loaded. -/
theorem step_eq_fate [Plugin π] (catalog : Catalog π) (progress : LoadProgress π) (path : String)
    (outcome : Except LoadError Manifest) :
    (progress.step catalog path outcome).failures =
        progress.failures ++ (ofOutcome progress.sources path outcome).failures catalog path ∧
      (progress.step catalog path outcome).sources =
        (ofOutcome progress.sources path outcome).takenAfter progress.sources path := by
  cases outcome with
  | error failure => exact ⟨rfl, rfl⟩
  | ok manifest =>
      cases enabled : manifest.enabled with
      | false =>
          simp only [step, ofOutcome, enabled, Bool.not_false, if_true]
          exact ⟨(List.append_nil _).symm, rfl⟩
      | true =>
          simp only [step, ofOutcome, enabled, Bool.not_true, Bool.false_eq_true, if_false]
          cases taken : progress.sources.get? (manifest.resolvedName path) with
          | some first => exact ⟨rfl, rfl⟩
          | none =>
              refine ⟨rfl, ?_⟩
              exact congrArg (progress.sources.insert · path)
                (Package.name_announced catalog (path, manifest))

/-- A run reports what becomes of the files, in their order. -/
theorem failures_run [Plugin π] (catalog : Catalog π) (progress : LoadProgress π)
    (manifests : List (String × Except LoadError Manifest)) :
    (progress.run catalog manifests).failures =
      progress.failures ++ ManifestFate.report catalog (ManifestFate.all progress.sources manifests) := by
  induction manifests generalizing progress with
  | nil => exact (List.append_nil _).symm
  | cons manifest rest ih =>
      obtain ⟨path, outcome⟩ := manifest
      obtain ⟨failures_eq, sources_eq⟩ := step_eq_fate catalog progress path outcome
      have later := ih (progress.step catalog path outcome)
      rw [failures_eq, sources_eq, List.append_assoc] at later
      rw [ManifestFate.all, ManifestFate.report_cons]
      exact later

/-- The manifests that are accepted are those of the files that are loaded. -/
theorem accepted_eq_filterMap (taken : OrderedMap String String)
    (manifests : List (String × Except LoadError Manifest)) :
    accepted taken.keys manifests = (ManifestFate.all taken manifests).filterMap fun file =>
      file.2.manifest?.map fun manifest => (file.1, manifest) := by
  induction manifests generalizing taken with
  | nil => rfl
  | cons manifest rest ih =>
      obtain ⟨path, outcome⟩ := manifest
      cases outcome with
      | error failure => exact ih taken
      | ok manifest =>
          rw [accepted, ManifestFate.all, ofOutcome]
          cases enabled : manifest.enabled with
          | false =>
              rw [if_neg (fun chosen => Bool.false_ne_true chosen.1)]
              exact ih taken
          | true =>
              cases found : taken.get? (manifest.resolvedName path) with
              | some first =>
                  have present : manifest.resolvedName path ∈ taken.keys := by
                    by_contra absent
                    rw [(OrderedMap.get?_eq_none_iff _ _).mpr absent] at found
                    cases found
                  rw [if_neg (fun chosen => chosen.2 present)]
                  exact ih taken
              | none =>
                  have absent := (OrderedMap.get?_eq_none_iff _ _).mp found
                  have later := ih (taken.insert (manifest.resolvedName path) path)
                  rw [OrderedMap.keys_insert, if_neg absent] at later
                  rw [if_pos ⟨rfl, absent⟩, later]
                  rfl

end LoadProgress

end ChatCommands
