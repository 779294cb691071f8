import SandboxedContainers.ImageJobs

/-!
# What is reported about the image jobs

`enablePeerPods` and `deletePodVMImage` turn the outcome of an image job into the reason
of the `InProgress` condition.  The reason `PodVMImageJobFailed` stands for a job that
has failed, and also for every error of a round: a job whose status cannot be read or
says nothing yet, and one that cannot be deleted.
-/

namespace SandboxedContainers

open Lib Routine ImageGenerator

namespace ImageReports

open ImageJobs

inductive Direction where
  | create
  | delete
  deriving DecidableEq, Repr

def imageStep (settings : Settings) : Direction → Op Exit PUnit
  | .create => orReturn (ImageGenerator.imageCreate settings) >>= handleImageCreate
  | .delete => deletePodVMImage settings

theorem enablePeerPods_eq (settings : Settings) : enablePeerPods settings = (do
    orReturn createAuthJsonSecret ⟨true, 15⟩
    orReturn createPodVMImageCreationNetworkPolicies ⟨true, 15⟩
    orReturn createPodVMImageDeletionNetworkPolicies ⟨true, 15⟩
    imageStep settings .create
    orReturn (enablePeerPodsMiscConfigs settings) ⟨true, 15⟩
    resetInProgressCondition) := by
  unfold enablePeerPods imageStep
  simp only [Routine.bind_assoc]

/-- The errors that say that something before the job has failed. -/
def setupErrors : List Err :=
  [errInitializingImageGenerator, errValidatingPeerPodsConfigs, errCreatingImageConfigMap, errUpdatingImageConfigMap,
    errCreatingImageJob]

def SetupSucceeds (result : Except Exit PUnit) : Prop :=
  ∀ exit error, result = .error exit → exit.err = some error →
    error ∉ setupErrors ∧ ∀ text, error ≠ .panic text

def inProgressReason (memory : Reconciler) : Option String :=
  memory.status.findInProgressCondition.map KataConfigCondition.reason

/-- The status says how the job stands. -/
def Decided (status : JobStatus) : Prop :=
  ImageGenerator.hasJobFailed status = true ∨ ImageGenerator.hasJobCompleted status = true ∨
    ImageGenerator.isJobActive status = true

def Fresh (status : JobStatus) : Prop :=
  status.conditionCount = 0 ∧ status.complete = false ∧ status.failedCondition = false ∧ status.active = 0

def FailedJobRead (log : List Exchange) : Prop :=
  ∃ key job, ⟨.get .job key, .ok job⟩ ∈ log ∧ ImageGenerator.hasJobFailed (ImageGenerator.jobBodyOf job).status = true

/-- The round could not read its job, or has found a fresh one. -/
def UndecidedJobRead (log : List Exchange) : Prop :=
  (∃ key error, ⟨.get .job key, .error error⟩ ∈ log) ∨
    ∃ key job, ⟨.get .job key, .ok job⟩ ∈ log ∧ Fresh (ImageGenerator.jobBodyOf job).status

section Log

def jobReadOf : Exchange → Option (Except ApiError Job)
  | ⟨.get .job _, read⟩ => some read
  | _ => none

def jobDeletionOf : Exchange → Option (Except ApiError Unit)
  | ⟨.delete .job _, deletion⟩ => some deletion
  | _ => none

def jobReads (log : List Exchange) : List (Except ApiError Job) := log.filterMap jobReadOf

def jobDeletions (log : List Exchange) : List (Except ApiError Unit) := log.filterMap jobDeletionOf

theorem mem_jobReads {log : List Exchange} {read : Except ApiError Job} :
    read ∈ jobReads log ↔ ∃ key, ⟨.get .job key, read⟩ ∈ log := by
  unfold jobReads
  rw [List.mem_filterMap]
  constructor
  · rintro ⟨entry, logged, same⟩
    unfold jobReadOf at same
    split at same
    · cases same
      exact ⟨_, logged⟩
    · cases same
  · rintro ⟨key, logged⟩
    exact ⟨_, logged, rfl⟩

theorem mem_jobDeletions {log : List Exchange} {deletion : Except ApiError Unit} :
    deletion ∈ jobDeletions log ↔ ∃ key, ⟨.delete .job key, deletion⟩ ∈ log := by
  unfold jobDeletions
  rw [List.mem_filterMap]
  constructor
  · rintro ⟨entry, logged, same⟩
    unfold jobDeletionOf at same
    split at same
    · cases same
      exact ⟨_, logged⟩
    · cases same
  · rintro ⟨key, logged⟩
    exact ⟨_, logged, rfl⟩

theorem jobReads_eq_nil {log : List Exchange} (none : ∀ entry ∈ log, NoJob entry.1) : jobReads log = [] := by
  refine List.eq_nil_iff_forall_not_mem.mpr fun read found => ?_
  obtain ⟨key, logged⟩ := mem_jobReads.mp found
  exact (none _ logged).2 key rfl

theorem jobDeletions_eq_nil {log : List Exchange} (none : ∀ entry ∈ log, NoJob entry.1) : jobDeletions log = [] := by
  refine List.eq_nil_iff_forall_not_mem.mpr fun deletion found => ?_
  obtain ⟨key, logged⟩ := mem_jobDeletions.mp found
  exact (none _ logged).1 rfl

theorem jobReads_append {first rest : List Exchange} (none : ∀ entry ∈ first, NoJob entry.1) :
    jobReads (first ++ rest) = jobReads rest := by
  unfold jobReads
  rw [List.filterMap_append]
  exact congrArg (· ++ _) (jobReads_eq_nil none)

theorem jobDeletions_append {first rest : List Exchange} (none : ∀ entry ∈ first, NoJob entry.1) :
    jobDeletions (first ++ rest) = jobDeletions rest := by
  unfold jobDeletions
  rw [List.filterMap_append]
  exact congrArg (· ++ _) (jobDeletions_eq_nil none)

theorem jobState_eq_failed {read : Except ApiError Job} : jobState read = some .imageJobFailed ↔
      ∃ job, read = .ok job ∧ hasJobFailed (jobBodyOf job).status = true := by
  cases read with
  | error error => simp [jobState]
  | ok job =>
    simp only [jobState]
    split
    · simp_all
    · split <;> [skip; split] <;> simp_all

theorem jobState_ne_none {read : Except ApiError Job} :
    jobState read ≠ none ↔ ∃ job, read = .ok job ∧ Decided (jobBodyOf job).status := by
  cases read with
  | error error => simp [jobState]
  | ok job =>
    simp only [jobState, Decided, Except.ok.injEq, exists_eq_left']
    split
    · simp_all
    · split <;> [skip; split] <;> simp_all

theorem jobState_fresh {job : Job} (fresh : Fresh (jobBodyOf job).status) : jobState (.ok job) = none := by
  obtain ⟨_, incomplete, notFailed, idle⟩ := fresh
  simp [jobState, hasJobFailed, hasJobCompleted, isJobActive, incomplete, notFailed, idle]

theorem failedJobRead_iff {log : List Exchange} :
    FailedJobRead log ↔ ∃ read ∈ jobReads log, jobState read = some .imageJobFailed := by
  constructor
  · rintro ⟨key, job, logged, failed⟩
    exact ⟨_, mem_jobReads.mpr ⟨key, logged⟩, jobState_eq_failed.mpr ⟨job, rfl, failed⟩⟩
  · rintro ⟨read, found, state⟩
    obtain ⟨key, logged⟩ := mem_jobReads.mp found
    obtain ⟨job, rfl, failed⟩ := jobState_eq_failed.mp state
    exact ⟨key, job, logged, failed⟩

theorem undecidedJobRead_state {log : List Exchange} (undecided : UndecidedJobRead log) :
    ∃ read ∈ jobReads log, jobState read = none := by
  rcases undecided with ⟨key, error, logged⟩ | ⟨key, job, logged, fresh⟩
  · exact ⟨_, mem_jobReads.mpr ⟨key, logged⟩, rfl⟩
  · exact ⟨_, mem_jobReads.mpr ⟨key, logged⟩, jobState_fresh fresh⟩

end Log

section Outcomes

/-- The job was found in a state, and if it could not be deleted it had failed. -/
def Decisive (log : List Exchange) : Prop :=
  (∀ read ∈ jobReads log, jobState read ≠ none) ∧
    ((∃ deletion ∈ jobDeletions log, ∃ error, deletionResult deletion = .error error) →
      ∃ read ∈ jobReads log, jobState read = some .imageJobFailed)

theorem decisive_iff {log : List Exchange} : Decisive log ↔ (∀ key read, ⟨.get .job key, read⟩ ∈ log →
        ∃ job, read = .ok job ∧ Decided (jobBodyOf job).status) ∧
      ∀ key error, ⟨.delete .job key, .error error⟩ ∈ log → error.reason ≠ .notFound → FailedJobRead log := by
  unfold Decisive
  rw [← failedJobRead_iff]
  refine and_congr ?_ ?_
  · constructor
    · intro decided key read logged
      exact jobState_ne_none.mp (decided read (mem_jobReads.mpr ⟨key, logged⟩))
    · intro decided read found
      obtain ⟨key, logged⟩ := mem_jobReads.mp found
      exact jobState_ne_none.mpr (decided key read logged)
  · constructor
    · intro explained key error logged present
      exact explained ⟨_, mem_jobDeletions.mpr ⟨key, logged⟩, _, if_neg present⟩
    · rintro explained ⟨deletion, found, error, failed⟩
      obtain ⟨key, logged⟩ := mem_jobDeletions.mp found
      cases deletion with
      | ok _ => cases failed
      | error reported =>
        refine explained key reported logged fun missing => ?_
        rw [deletionResult, if_pos missing] at failed
        cases failed

theorem Decisive.undecided {log : List Exchange} {p : Prop} (decisive : Decisive log) : UndecidedJobRead log → p := by
  intro undecided
  obtain ⟨read, found, state⟩ := undecidedJobRead_state undecided
  exact absurd state (decisive.1 read found)

theorem jobOutcome_afterDeletion {status : ImageStatus} (proper : status ≠ .imageFailed)
    (deletion : Except ApiError Unit) :
    (jobOutcome (afterDeletion status deletion)).1 = .imageFailed ↔
      ∃ error, deletionResult deletion = .error error := by
  unfold afterDeletion
  cases deletionResult deletion with
  | error error => simp [jobOutcome]
  | ok _ => simp [jobOutcome, proper]

theorem failed_iff_decisive {ig : ImageGenerator} {wanted : Bool} {success : ImageStatus} {job : Job}
    {log : List Exchange} {outcome : ImageStatus × Option Err} (round : JobRound ig wanted success job log outcome)
    (proper : success ≠ .imageFailed) :
    ((jobOutcome outcome).1 = .imageFailed →
      ∃ read ∈ jobReads log, jobState read = some .imageJobFailed) ↔ Decisive log := by
  unfold Decisive
  cases round with
  | @already read deletion _ =>
    have reads : jobReads [cmRead read, jobDeletion job deletion] = [] := rfl
    have deletions : jobDeletions [cmRead read, jobDeletion job deletion] = [deletion] := rfl
    rw [jobOutcome_afterDeletion proper, reads, deletions]
    simp
  | @undecided read creation status _ state =>
    have reads : jobReads [cmRead read, jobCreation job creation, jobRead job status] = [status] := rfl
    rw [reads]
    simp [jobOutcome, state]
  | @running read creation status _ state =>
    have reads : jobReads [cmRead read, jobCreation job creation, jobRead job status] = [status] := rfl
    have deletions : jobDeletions [cmRead read, jobCreation job creation, jobRead job status] = [] := rfl
    rw [reads, deletions]
    simp [jobOutcome, state]
  | @failed read creation status deletion _ state =>
    have reads : jobReads [cmRead read, jobCreation job creation, jobRead job status, jobDeletion job deletion] =
      [status] := rfl
    rw [reads]
    simp [state]
  | @early read again creation status _ state _ =>
    have reads : jobReads [cmRead read, jobCreation job creation, jobRead job status, cmRead again] = [status] := rfl
    have deletions : jobDeletions [cmRead read, jobCreation job creation, jobRead job status, cmRead again] = [] := rfl
    rw [reads, deletions]
    simp [jobOutcome, state]
  | @completed read again creation status deletion _ state _ =>
    have reads : jobReads
      [cmRead read, jobCreation job creation, jobRead job status, cmRead again, jobDeletion job deletion] =
        [status] := rfl
    have deletions : jobDeletions
      [cmRead read, jobCreation job creation, jobRead job status, cmRead again, jobDeletion job deletion] =
        [deletion] := rfl
    rw [jobOutcome_afterDeletion proper, reads, deletions]
    simp [state]

end Outcomes

section Setup

@[grind ←]
theorem noJob_get {k : Kind} {key : Key} (differs : k ≠ .job) : NoJob (.get k key) := by
  refine ⟨nofun, fun other same => ?_⟩
  cases same
  exact differs rfl

theorem noJob_write {r : Req} {k : Kind} (writes : r.writes = some k) (differs : k ≠ .job) : NoJob r := by
  refine ⟨?_, fun key same => ?_⟩
  · rw [writes]
    exact fun same => differs (Option.some.inj same)
  · subst same
    cases writes

@[grind ←]
theorem noJob_update {k : Kind} {object : Object k} (differs : k ≠ .job) : NoJob (.update k object) :=
  noJob_write rfl differs

theorem looks_validatePeerPodsConfigs (ig : ImageGenerator) : Looks NoJob ig.validatePeerPodsConfigs := by
  unfold validatePeerPodsConfigs getPeerPodsCM
  grind

theorem looks_updateImageConfigMap (settings : Settings) (ig : ImageGenerator) :
    Looks NoJob (updateImageConfigMap settings ig) := by
  have wanted (cm : ConfigMap) : Looks NoJob (wantedImageConfigMap settings ig cm) := by
    unfold wantedImageConfigMap
    grind
  unfold updateImageConfigMap
  grind

theorem issues_runSteps {p : Req → Prop} {steps : List (Op Err PUnit × Err)}
    (each : ∀ step ∈ steps, Issues p step.1) : Issues p (runSteps steps) := by
  induction steps with
  | nil => exact issues_pure _
  | cons step rest ih =>
    have rest := ih fun step member => each step (List.mem_cons_of_mem _ member)
    have first := issues_caught (each step (by simp))
    unfold runSteps
    grind

end Setup

section Runs

variable {S : Type} {answer : S → (r : Req) → Response r → S → Prop} {s s' : S}
  {memory memory' : Reconciler} {log : List Exchange} {settings : Settings}

theorem runSteps_runs {steps : List (Op Err PUnit × Err)} {failure : Err}
    (runs : Prog.Runs answer (runSteps steps memory) s log (.ok (some failure), memory') s') :
    ∃ step ∈ steps, step.2 = failure := by
  induction steps generalizing memory s log with
  | nil => cases runs
  | cons step rest ih =>
    obtain ⟨result, _, _, _, _, _, ends, rfl⟩ := of_runs_bind runs
    cases result with
    | error error =>
      cases ends
      exact ⟨step, by simp, rfl⟩
    | ok _ =>
      obtain ⟨failed, member, same⟩ := ih ends
      exact ⟨failed, List.mem_cons_of_mem _ member, same⟩

/-- The image is created or deleted: something before the job fails, the provider is not
supported, or a round of the job decides. -/
inductive Handled (answer : S → (r : Req) → Response r → S → Prop)
    (steps : ImageGenerator → List (Op Err PUnit × Err)) (job : ImageGenerator → Op Err (ImageStatus × Option Err))
    (s' : S) : List Exchange → ImageStatus × Option Err → Prop where
  | setupFailed {log : List Exchange} {error : Err} :
      error = errInitializingImageGenerator ∨ (∃ ig, ∃ step ∈ steps ig, step.2 = error) →
      Handled answer steps job s' log (.imageFailed, some error)
  | unsupported {log : List Exchange} : (∀ entry ∈ log, NoJob entry.1) →
      Handled answer steps job s' log (.unsupportedPodVMImageProvider, some errUnsupportedCloudProvider)
  | round {earlier during : List Exchange} {ig : ImageGenerator} {memory memory' : Reconciler} {s : S}
      {outcome : ImageStatus × Option Err} : (∀ entry ∈ earlier, NoJob entry.1) →
      Prog.Runs answer (job ig memory) s during (.ok outcome, memory') s' →
      Handled answer steps job s' (earlier ++ during) (ImageGenerator.jobOutcome outcome)

theorem withGenerator_runs {steps : ImageGenerator → List (Op Err PUnit × Err)}
    {job : ImageGenerator → Op Err (ImageStatus × Option Err)} {outcome : ImageStatus × Option Err}
    (quiet : ∀ ig, ∀ step ∈ steps ig, Issues NoJob step.1)
    (runs : Prog.Runs answer (withGenerator settings steps job memory) s log (.ok outcome, memory') s') :
    Handled answer steps job s' log outcome := by
  obtain ⟨built, _, _, first, rest, initialises, ends, rfl⟩ := of_runs_bind runs
  have noJob : ∀ entry ∈ first, NoJob entry.1 :=
    (issues_caught (issues_initializeImageGenerator settings noJob_get)).mem_runs initialises
  cases built with
  | error error =>
    cases ends
    exact .setupFailed (.inl rfl)
  | ok ig =>
    dsimp only at ends
    split at ends
    · cases ends
      rw [List.append_nil]
      exact .unsupported noJob
    · obtain ⟨failure, _, _, second, last, prepares, ends, rfl⟩ := of_runs_bind ends
      have stillNoJob : ∀ entry ∈ first ++ second, NoJob entry.1 := by
        intro entry member
        rcases List.mem_append.mp member with early | late
        · exact noJob entry early
        · exact (issues_runSteps (quiet ig)).mem_runs prepares entry late
      cases failure with
      | some failure =>
        obtain ⟨step, member, same⟩ := runSteps_runs prepares
        cases ends
        exact .setupFailed (.inr ⟨ig, step, member, same⟩)
      | none =>
        obtain ⟨ended, _, _, _, _, decides, finishes, rfl⟩ := of_runs_bind ends
        cases finishes
        rw [List.append_nil, ← List.append_assoc]
        exact .round stillNoJob decides

def stepsOf (settings : Settings) : Direction → ImageGenerator → List (Op Err PUnit × Err)
  | .create, ig => [(ig.validatePeerPodsConfigs, errValidatingPeerPodsConfigs),
      (ImageGenerator.createImageConfigMapFromFile settings ig, errCreatingImageConfigMap),
      (ImageGenerator.updateImageConfigMap settings ig, errUpdatingImageConfigMap)]
  | .delete, ig => [(ig.validatePeerPodsConfigs, errValidatingPeerPodsConfigs)]

def runnerOf (settings : Settings) : Direction → ImageGenerator → Op Err (ImageStatus × Option Err)
  | .create => ImageGenerator.imageCreateJobRunner settings
  | .delete => ImageGenerator.imageDeleteJobRunner settings

theorem stepsOf_quiet (direction : Direction) (ig : ImageGenerator) :
    ∀ step ∈ stepsOf settings direction ig, Issues NoJob step.1 := by
  cases direction with
  | create =>
    intro step member
    simp only [stepsOf, List.mem_cons, List.not_mem_nil, or_false] at member
    rcases member with rfl | rfl | rfl
    · exact (looks_validatePeerPodsConfigs ig).1
    · exact (looks_createImageConfigMapFromFile settings noJob_get (fun _ => noJob_write rfl nofun) ig).1
    · exact (looks_updateImageConfigMap settings ig).1
  | delete =>
    intro step member
    simp only [stepsOf, List.mem_singleton] at member
    subst member
    exact (looks_validatePeerPodsConfigs ig).1

theorem stepsOf_error (direction : Direction) (ig : ImageGenerator) :
    ∀ step ∈ stepsOf settings direction ig, step.2 ∈ setupErrors := by
  cases direction <;> simp [stepsOf, setupErrors]

def successOf : Direction → ImageStatus
  | .create => .imageCreatedSuccessfully
  | .delete => .imageDeletedSuccessfully

def imageOp (settings : Settings) : Direction → Op Err (ImageStatus × Option Err)
  | .create => ImageGenerator.imageCreate settings
  | .delete => ImageGenerator.imageDelete settings

theorem imageOp_eq (direction : Direction) : imageOp settings direction =
      withGenerator settings (stepsOf settings direction) (runnerOf settings direction) := by
  cases direction <;> rfl

def report (direction : Direction) (outcome : ImageStatus × Option Err) : Op Exit PUnit :=
  match direction with
  | .create => handleImageCreate outcome
  | .delete => match outcome with
    | (.imageDeletedSuccessfully, _) => setInProgressConditionToPodVMImageDeleted
    | (.unsupportedPodVMImageProvider, _) => setInProgressConditionToPodVMImageUnsupportedProvider
    | (.requeueNeeded, err) => do
      setInProgressConditionToPodVMImageDeleting
      requeueWith err
    | (.imageFailed, err) => do
      setInProgressConditionToPodVMImageDeletionFailed
      if err.isSome then
        requeueWith err
    | (.imageStatusUnknown, err) => do
      setInProgressConditionToPodVMImageDeletionUnknown
      requeueWith err
    | (_, _) => Pure.pure ⟨⟩

theorem imageStep_eq (direction : Direction) :
    imageStep settings direction = orReturn (imageOp settings direction) >>= report direction := by
  cases direction <;> rfl

theorem inProgressReason_setInProgress (value : ConditionStatus) (reason message : String) :
    inProgressReason (memory.setStatus (memory.status.setInProgress value reason message)) = some reason := by
  simp [inProgressReason]

/-- Every status that a job can come to is reported with a reason of its own, and a
failure is handed on with its error. -/
theorem report_runs {direction : Direction} {outcome : ImageStatus × Option Err} {result : Except Exit PUnit}
    (known : outcome.1 ∈ [.imageFailed, .unsupportedPodVMImageProvider, .requeueNeeded, successOf direction])
    (runs : Prog.Runs answer (report direction outcome memory) s log (result, memory') s') :
    s = s' ∧ log = [] ∧
      (∀ error, outcome = (.imageFailed, some error) → ∃ exit, result = .error exit ∧ exit.err = some error) ∧
      (inProgressReason memory' = some "PodVMImageJobFailed" ↔ outcome.1 = .imageFailed) := by
  obtain ⟨status, err⟩ := outcome
  simp only [List.mem_cons, List.not_mem_nil, or_false] at known
  rcases known with rfl | rfl | rfl | rfl
  · cases direction <;> cases err <;> cases runs <;> simp [inProgressReason_setInProgress]
  · cases direction <;> cases runs <;> simp [inProgressReason_setInProgress]
  · cases direction <;> cases runs <;> simp [inProgressReason_setInProgress]
  · cases direction <;> cases runs <;> simp [inProgressReason_setInProgress, successOf]

theorem stops_imageJobRunner (ig : ImageGenerator) (filename : String) (wanted : Bool) (success : ImageStatus) :
    Stops Err.Panics (imageJobRunner settings ig filename wanted success) := by
  have isSet : Stops Err.Panics (ig.isImageIDSet : Op Err Bool) := by
    unfold isImageIDSet
    grind
  have finish (job : Job) (status : ImageStatus) : Stops Err.Panics (finishJob job status) := by
    unfold finishJob
    grind
  have creates (job : Job) : Stops Err.Panics (createJob job) := stops_ignore _
  refine (stops_caught _).bind fun result => ?_
  cases result with
  | error error => exact stops_pure _
  | ok job =>
    refine isSet.bind fun found => ?_
    split
    · exact finish job success
    · refine (creates job).bind fun _ => (stops_caught _).bind fun status => ?_
      split <;> grind

theorem stops_imageOp (direction : Direction) : Stops Err.Panics (imageOp settings direction) := by
  have steps (list : List (Op Err PUnit × Err)) : Stops Err.Panics (runSteps list) := by
    induction list with
    | nil => exact stops_pure _
    | cons step rest ih =>
      unfold runSteps
      grind
  have runner (ig : ImageGenerator) : Stops Err.Panics (runnerOf settings direction ig) := by
    cases direction <;> exact stops_imageJobRunner ig _ _ _
  rw [imageOp_eq]
  unfold withGenerator
  grind

theorem runnerOf_runs {direction : Direction} {ig : ImageGenerator} {outcome : ImageStatus × Option Err}
    (runs : Prog.Runs answer (runnerOf settings direction ig memory) s log (.ok outcome, memory') s') :
    outcome = (.imageFailed, some errCreatingImageJob) ∨
      ∃ wanted job load round, (∀ entry ∈ load, NoJob entry.1) ∧
        JobRound ig wanted (successOf direction) job round outcome ∧ log = load ++ round := by
  have loads (filename : String) : Issues NoJob (createJobFromFile settings ig filename) :=
    (looks_createJobFromFile settings ig filename (fun _ aside => aside.1) fun _ => noJob_get (by decide)).1
  cases direction with
  | create =>
    rcases imageJobRunner_runs runs with ⟨_, _, _, failed⟩ | ⟨job, _, _, load, round, _, loaded, went, split, same⟩
    · exact .inl (failed outcome rfl)
    · cases same
      exact .inr ⟨true, job, load, round, (loads _).mem_runs loaded, went, split⟩
  | delete =>
    rcases imageJobRunner_runs runs with ⟨_, _, _, failed⟩ | ⟨job, _, _, load, round, _, loaded, went, split, same⟩
    · exact .inl (failed outcome rfl)
    · cases same
      exact .inr ⟨false, job, load, round, (loads _).mem_runs loaded, went, split⟩

theorem jobOutcome_status {ig : ImageGenerator} {wanted : Bool} {success : ImageStatus} {job : Job}
    {outcome : ImageStatus × Option Err} (round : JobRound ig wanted success job log outcome) :
    (jobOutcome outcome).1 ∈ [.imageFailed, .unsupportedPodVMImageProvider, .requeueNeeded, success] := by
  have deleted (status : ImageStatus) (deletion : Except ApiError Unit) :
      (jobOutcome (afterDeletion status deletion)).1 ∈ [.imageFailed, status] := by
    rcases afterDeletion_cases status deletion with same | ⟨error, same⟩
    · simp [same, jobOutcome]
    · simp [same, jobOutcome]
  cases round with
  | undecided => simp [jobOutcome]
  | running => simp [jobOutcome]
  | early => simp [jobOutcome]
  | @already _ deletion _ =>
    have known := deleted success deletion
    grind
  | @failed _ _ _ deletion _ _ =>
    have known := deleted .imageFailed deletion
    grind
  | @completed _ _ _ _ deletion _ _ _ =>
    have known := deleted success deletion
    grind

theorem imageStep_runs {direction : Direction} {result : Except Exit PUnit}
    (runs : Prog.Runs answer (imageStep settings direction memory) s log (result, memory') s')
    (setup : SetupSucceeds result) :
    (inProgressReason memory' ≠ some "PodVMImageJobFailed" ∧ ∀ entry ∈ log, NoJob entry.1) ∨
      ∃ ig wanted job earlier round outcome, (∀ entry ∈ earlier, NoJob entry.1) ∧ log = earlier ++ round ∧
        JobRound ig wanted (successOf direction) job round outcome ∧
        (inProgressReason memory' = some "PodVMImageJobFailed" ↔ (jobOutcome outcome).1 = .imageFailed) := by
  rw [imageStep_eq] at runs
  rcases runs_bind runs with ⟨outcome, memory₁, s₁, first, rest, ran, ends, rfl⟩ | ⟨exit, memory₁, ran, ended⟩
  · rcases orReturn_runs ran with ⟨_, handles, same⟩ | ⟨_, _, _, same, _⟩
    · cases same
      rw [imageOp_eq] at handles
      cases withGenerator_runs (stepsOf_quiet direction) handles with
      | @setupFailed _ error cause =>
        obtain ⟨_, _, handedOn, _⟩ := report_runs (by simp) ends
        obtain ⟨exit, stopped, reported⟩ := handedOn error rfl
        refine absurd ?_ (setup exit error stopped reported).1
        rcases cause with rfl | ⟨ig, step, member, rfl⟩
        · exact List.mem_cons_self
        · exact stepsOf_error direction ig step member
      | unsupported noJob =>
        obtain ⟨_, rfl, _, reason⟩ := report_runs (by simp) ends
        rw [List.append_nil]
        exact .inl ⟨fun failed => absurd (reason.mp failed) (by decide), noJob⟩
      | @round earlier during ig _ _ _ outcome noJob decides =>
        rcases runnerOf_runs decides with rfl | ⟨wanted, job, load, round, quiet, went, rfl⟩
        · obtain ⟨_, _, handedOn, _⟩ := report_runs (by simp [jobOutcome]) ends
          obtain ⟨exit, stopped, reported⟩ := handedOn errCreatingImageJob rfl
          exact absurd (by simp [setupErrors]) (setup exit _ stopped reported).1
        · obtain ⟨_, rfl, _, reason⟩ := report_runs (jobOutcome_status went) ends
          refine .inr ⟨ig, wanted, job, earlier ++ load, round, outcome, ?_, ?_, went, reason⟩
          · intro entry member
            rcases List.mem_append.mp member with early | late
            · exact noJob entry early
            · exact quiet entry late
          · simp
    · cases same
  · rcases orReturn_runs ran with ⟨_, _, same⟩ | ⟨error, _, handles, same, reported⟩
    · cases same
    · cases same
      obtain ⟨text, rfl⟩ := Prog.Returns.runs (stops_imageOp direction _) handles error rfl
      exact absurd rfl ((setup exit _ (Prod.mk.inj ended).1 reported).2 text)

end Runs

section Examples

def ibmGenerator : ImageGenerator := ⟨"ibmcloud", "cluster", "IBMCLOUD_PODVM_IMAGE_ID", false⟩

def reportCluster (status : JobStatus) : Cluster := clusterOf
  [.create .file ⟨{ name := "/config/peerpods/podvm/osc-podvm-create-job.yaml" }, ("" : String)⟩,
   .create .configMap ⟨{ name := peerpodsCMName, ns := operatorNamespace },
     show ConfigMapBody from ⟨some (StrMap.ofList [("CLOUD_PROVIDER", "ibmcloud")])⟩⟩,
   .create .configMap ⟨{ name := ibmGenerator.getImageConfigMapName, ns := operatorNamespace },
     show ConfigMapBody from ⟨some ∅⟩⟩,
   .create .secret ⟨{ name := "peer-pods-secret", ns := operatorNamespace },
     show SecretBody from ⟨StrMap.ofList [("IBMCLOUD_API_KEY", "key")]⟩⟩,
   .create .job exampleJob,
   .updateStatus .job ⟨exampleJob.metadata, show JobBody from { template := {}, status := status }⟩]

def playedReport (status : JobStatus) : Option (List Exchange × (Except Exit PUnit × Reconciler) × Cluster) :=
  (imageStep jobSettings .create { ig := some ibmGenerator }).play (fun fault s r => Fault.answer s r fault)
    (List.replicate 14 .served) (reportCluster status)

theorem playedReport_run (status : JobStatus) (check : List Exchange → Except Exit PUnit → Reconciler → Bool)
    (passes : ((playedReport status).any fun run => check run.1 run.2.1.1 run.2.1.2) = true) :
    ∃ log result memory s, Prog.Runs Answered (imageStep jobSettings .create { ig := some ibmGenerator })
      (reportCluster status) log (result, memory) s ∧ check log result memory = true := by
  obtain ⟨⟨log, ⟨result, memory⟩, s⟩, played, checked⟩ := (Option.any_eq_true _ _).mp passes
  exact ⟨log, result, memory, s, Prog.runs_play (fun picked => Fault.answer_sound picked) played, checked⟩

def errorOf : Except Exit PUnit → Option Err
  | .ok _ => none
  | .error exit => exit.err

def statusRead : Except ApiError Job → Option JobStatus
  | .ok job => some (ImageGenerator.jobBodyOf job).status
  | .error _ => none

theorem setupSucceeds_of_errorOf {result : Except Exit PUnit}
    (allowed : ∀ error, errorOf result = some error → error ∉ setupErrors ∧ ∀ text, error ≠ .panic text) :
    SetupSucceeds result := by
  intro exit error stopped reported
  subst stopped
  exact allowed error reported

theorem jobRead_of_status {log : List Exchange} {status : JobStatus}
    (reads : (jobReads log).map statusRead = [some status]) :
    ∃ job, jobReads log = [.ok job] ∧ (jobBodyOf job).status = status := by
  obtain ⟨read, only, same⟩ := List.map_eq_singleton_iff.mp reads
  cases read with
  | error error => cases same
  | ok job => exact ⟨job, only, Option.some.inj same⟩

end Examples

end ImageReports

open ImageReports in
/-- With everything up to the job file in order, the reason `PodVMImageJobFailed` stands
for a failed job, and an undecided job for nothing worse than an unknown one, exactly if
the job was found in a state and a job that could not be deleted had failed. -/
theorem jobFailure_reported_iff {settings : Settings} {direction : Direction} {memory memory' : Reconciler}
    {s s' : Cluster} {log : List Exchange} {result : Except Exit PUnit}
    (runs : Prog.Runs Answered (imageStep settings direction memory) s log (result, memory') s')
    (setup : SetupSucceeds result) :
    ((inProgressReason memory' = some "PodVMImageJobFailed" → FailedJobRead log) ∧
      (UndecidedJobRead log → inProgressReason memory' = some "PodVMImageJobRunning" ∨
        inProgressReason memory' = some "PodVMImageJobStatusUnknown")) ↔
    (∀ key read, ⟨.get .job key, read⟩ ∈ log →
        ∃ job, read = .ok job ∧ Decided (ImageGenerator.jobBodyOf job).status) ∧
      ∀ key error, ⟨.delete .job key, .error error⟩ ∈ log → error.reason ≠ .notFound → FailedJobRead log := by
  rw [← decisive_iff]
  rcases imageStep_runs runs setup with
    ⟨notFailed, noJob⟩ | ⟨ig, wanted, job, earlier, round, outcome, noJob, rfl, went, reason⟩
  · have decisive : Decisive log := by
      unfold Decisive
      rw [jobReads_eq_nil noJob, jobDeletions_eq_nil noJob]
      simp
    exact ⟨fun _ => decisive, fun _ => ⟨fun failed => absurd failed notFailed, decisive.undecided⟩⟩
  · have sharp : (inProgressReason memory' = some "PodVMImageJobFailed" → FailedJobRead (earlier ++ round)) ↔
        Decisive (earlier ++ round) := by
      rw [reason, failedJobRead_iff, Decisive, jobReads_append noJob, jobDeletions_append noJob]
      exact failed_iff_decisive went (by cases direction <;> decide)
    exact ⟨fun reported => sharp.mp reported.1, fun decisive => ⟨sharp.mpr decisive, decisive.undecided⟩⟩

open ImageReports in
/-- A job that was just created is reported as a failed one. -/
theorem freshJob_reported_failed : ∃ log result memory s,
    Prog.Runs Answered (imageStep ImageJobs.jobSettings .create { ig := some ibmGenerator }) (reportCluster {}) log
      (result, memory) s ∧ SetupSucceeds result ∧ UndecidedJobRead log ∧ ¬FailedJobRead log ∧
        inProgressReason memory = some "PodVMImageJobFailed" := by
  obtain ⟨log, result, memory, s, runs, checked⟩ := playedReport_run {}
    (fun log result memory => errorOf result = some errCheckingJobStatus &&
      (jobReads log).map statusRead = [some {}] && inProgressReason memory = some "PodVMImageJobFailed")
    (by decide +kernel)
  simp only [Bool.and_eq_true, decide_eq_true_eq] at checked
  obtain ⟨⟨stopped, reads⟩, reason⟩ := checked
  obtain ⟨job, only, fresh⟩ := jobRead_of_status reads
  obtain ⟨key, logged⟩ := mem_jobReads.mp (only ▸ List.mem_singleton_self _ : .ok job ∈ jobReads log)
  refine ⟨log, result, memory, s, runs, ?_, .inr ⟨key, job, logged, ?_⟩, ?_, reason⟩
  · apply setupSucceeds_of_errorOf
    intro error reported
    cases stopped.symm.trans reported
    exact ⟨by decide, nofun⟩
  · rw [fresh]
    exact ⟨rfl, rfl, rfl, rfl⟩
  · rw [failedJobRead_iff, only]
    rintro ⟨read, found, failed⟩
    cases List.mem_singleton.mp found
    rw [jobState_fresh (by rw [fresh]; exact ⟨rfl, rfl, rfl, rfl⟩)] at failed
    cases failed

open ImageReports in
/-- A job with an active pod is reported as a running one. -/
theorem activeJob_not_failed : ∃ log result memory s,
    Prog.Runs Answered (imageStep ImageJobs.jobSettings .create { ig := some ibmGenerator })
      (reportCluster { active := 1 }) log (result, memory) s ∧ SetupSucceeds result ∧
        (inProgressReason memory = some "PodVMImageJobFailed" → FailedJobRead log) := by
  obtain ⟨log, result, memory, s, runs, checked⟩ := playedReport_run { active := 1 }
    (fun log result _ => errorOf result = none && (jobReads log).map statusRead = [some { active := 1 }] &&
      (jobDeletions log).isEmpty)
    (by decide +kernel)
  simp only [Bool.and_eq_true, decide_eq_true_eq] at checked
  obtain ⟨⟨stopped, reads⟩, kept⟩ := checked
  have setup : SetupSucceeds result := by
    apply setupSucceeds_of_errorOf
    intro error reported
    cases stopped.symm.trans reported
  obtain ⟨job, only, active⟩ := jobRead_of_status reads
  refine ⟨log, result, memory, s, runs, setup, ((jobFailure_reported_iff runs setup).mpr ⟨?_, ?_⟩).1⟩
  · intro key read logged
    have found := mem_jobReads.mpr ⟨key, logged⟩
    rw [only] at found
    refine ⟨job, List.mem_singleton.mp found, .inr (.inr ?_)⟩
    rw [active]
    rfl
  · intro key error logged
    have found := mem_jobDeletions.mpr ⟨key, logged⟩
    rw [List.isEmpty_iff.mp kept] at found
    cases found

end SandboxedContainers
