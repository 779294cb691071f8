import SandboxedContainers.ServerReads
import SandboxedContainers.System

/-!
# Rounds of the image jobs

One round of an image job reads the image id in `peer-pods-cm`, creates the job, reads
its status and deletes it again.  `JobRound` lists the ways such a round can go, with
what was exchanged; what a round may conclude from which reads follows from it.

A read of `peer-pods-cm` that fails counts as an image id that is not set, and every
error of a round counts as a failed job.
-/

namespace SandboxedContainers

open Lib Routine ImageGenerator

namespace ImageJobs

def peerPodsCMKey : Key := ⟨operatorNamespace, peerpodsCMName⟩

def imageIDSet (ig : ImageGenerator) : Except ApiError ConfigMap → Bool
  | .error _ => false
  | .ok peerPodsCM => dataAt peerPodsCM ig.cmImageIDKey ≠ ""

def jobState : Except ApiError Job → Option ImageStatus
  | .error _ => none
  | .ok job =>
    let status := (ImageGenerator.jobBodyOf job).status
    if ImageGenerator.hasJobFailed status then some .imageJobFailed
    else if ImageGenerator.hasJobCompleted status then some .imageJobCompleted
    else if ImageGenerator.isJobActive status then some .imageJobRunning
    else none

theorem jobState_cases {read : Except ApiError Job} {state : ImageStatus} (found : jobState read = some state) :
    state = .imageJobFailed ∨ state = .imageJobCompleted ∨ state = .imageJobRunning := by
  unfold jobState at found
  grind

def deletionResult : Except ApiError Unit → Except Err Unit
  | .error error => if error.reason = .notFound then .ok ⟨⟩ else .error (.api error)
  | .ok _ => .ok ⟨⟩

def afterDeletion (status : ImageStatus) (deletion : Except ApiError Unit) : ImageStatus × Option Err :=
  match deletionResult deletion with
  | .error error => (.requeueNeeded, some error)
  | .ok _ => (status, none)

theorem afterDeletion_cases (status : ImageStatus) (deletion : Except ApiError Unit) :
    afterDeletion status deletion = (status, none) ∨ ∃ error, afterDeletion status deletion = (.requeueNeeded, some error) := by
  unfold afterDeletion
  split
  · exact .inr ⟨_, rfl⟩
  · exact .inl rfl

def cmRead (read : Except ApiError ConfigMap) : Exchange := ⟨.get .configMap peerPodsCMKey, read⟩
def jobRead (job : Job) (read : Except ApiError Job) : Exchange := ⟨.get .job job.key, read⟩
def jobCreation (job : Job) (creation : Except ApiError Job) : Exchange := ⟨.create .job job, creation⟩
def jobDeletion (job : Job) (deletion : Except ApiError Unit) : Exchange := ⟨.delete .job job.key, deletion⟩

/-- How a round for `job` can go that is to make `imageIDSet` equal to `wanted`. -/
inductive JobRound (ig : ImageGenerator) (wanted : Bool) (success : ImageStatus) (job : Job) :
    List Exchange → ImageStatus × Option Err → Prop where
  | already {read : Except ApiError ConfigMap} {deletion : Except ApiError Unit} :
      imageIDSet ig read = wanted →
      JobRound ig wanted success job [cmRead read, jobDeletion job deletion] (afterDeletion success deletion)
  | undecided {read : Except ApiError ConfigMap} {creation status : Except ApiError Job} :
      imageIDSet ig read ≠ wanted → jobState status = none →
      JobRound ig wanted success job [cmRead read, jobCreation job creation, jobRead job status]
        (.imageStatusUnknown, some errCheckingJobStatus)
  | running {read : Except ApiError ConfigMap} {creation status : Except ApiError Job} :
      imageIDSet ig read ≠ wanted → jobState status = some .imageJobRunning →
      JobRound ig wanted success job [cmRead read, jobCreation job creation, jobRead job status]
        (.requeueNeeded, none)
  | failed {read : Except ApiError ConfigMap} {creation status : Except ApiError Job}
      {deletion : Except ApiError Unit} :
      imageIDSet ig read ≠ wanted → jobState status = some .imageJobFailed →
      JobRound ig wanted success job
        [cmRead read, jobCreation job creation, jobRead job status, jobDeletion job deletion]
        (afterDeletion .imageFailed deletion)
  | early {read again : Except ApiError ConfigMap} {creation status : Except ApiError Job} :
      imageIDSet ig read ≠ wanted → jobState status = some .imageJobCompleted → imageIDSet ig again ≠ wanted →
      JobRound ig wanted success job
        [cmRead read, jobCreation job creation, jobRead job status, cmRead again] (.requeueNeeded, none)
  | completed {read again : Except ApiError ConfigMap} {creation status : Except ApiError Job}
      {deletion : Except ApiError Unit} :
      imageIDSet ig read ≠ wanted → jobState status = some .imageJobCompleted → imageIDSet ig again = wanted →
      JobRound ig wanted success job
        [cmRead read, jobCreation job creation, jobRead job status, cmRead again, jobDeletion job deletion]
        (afterDeletion success deletion)

section Runs

variable {S : Type} {answer : S → (r : Req) → Response r → S → Prop} {s s' : S}
  {memory memory' : Reconciler} {log : List Exchange}

theorem isImageIDSet_runs {ε : Type} {ig : ImageGenerator} {outcome : Except ε Bool × Reconciler}
    (runs : Prog.Runs answer ((ig.isImageIDSet : Op ε Bool) memory) s log outcome s') :
    ∃ read, log = [cmRead read] ∧ outcome = (.ok (imageIDSet ig read), memory) := by
  obtain ⟨result, memory', between, first, rest, ran, ends, rfl⟩ := runs_attempt_bind runs
  obtain ⟨read, _, rfl, ended⟩ := call_runs (.get .configMap peerPodsCMKey) id ran
  obtain ⟨rfl, rfl⟩ := Prod.mk.inj ended
  refine ⟨read, ?_⟩
  cases read with
  | error error =>
    cases ends
    exact ⟨rfl, rfl⟩
  | ok peerPodsCM =>
    cases ends
    exact ⟨rfl, rfl⟩

theorem createJob_runs {job : Job} {outcome : Except Err PUnit × Reconciler}
    (runs : Prog.Runs answer (createJob job memory) s log outcome s') :
    ∃ creation, log = [jobCreation job creation] ∧ outcome = (.ok ⟨⟩, memory) := by
  obtain ⟨result, memory', ran, rfl⟩ := ignore_runs runs
  obtain ⟨creation, _, rfl, ended⟩ := call_runs (.create .job job) id ran
  obtain ⟨_, rfl⟩ := Prod.mk.inj ended
  exact ⟨creation, rfl, rfl⟩

theorem checkJobStatus_runs {job : Job} {outcome : Except Err ImageStatus × Reconciler}
    (runs : Prog.Runs answer (checkJobStatus job.key memory) s log outcome s') :
    ∃ read, log = [jobRead job read] ∧ outcome.2 = memory ∧
      match jobState read with
      | some state => outcome.1 = .ok state
      | none => ∃ error, outcome.1 = .error error ∧ ∀ text, error ≠ .panic text := by
  rcases runs_bind runs with ⟨found, memory', between, first, rest, ran, ends, rfl⟩ | ⟨error, memory', ran, rfl⟩
  · obtain ⟨read, _, rfl, ended⟩ := call_runs (.get .job job.key) id ran
    obtain ⟨same, rfl⟩ := Prod.mk.inj ended
    obtain rfl : read = .ok found := by
      cases read with
      | error error => cases same
      | ok stored =>
        cases same
        rfl
    refine ⟨.ok found, ?_⟩
    simp only [jobState]
    dsimp only at ends
    split at ends
    · rename_i failed
      cases ends
      simp [failed, jobRead]
    · rename_i notFailed
      split at ends
      · rename_i completed
        cases ends
        simp [notFailed, completed, jobRead]
      · rename_i notCompleted
        split at ends
        · rename_i active
          cases ends
          simp [notFailed, notCompleted, active, jobRead]
        · rename_i notActive
          cases ends
          simp [notFailed, notCompleted, notActive, jobRead]
  · obtain ⟨read, _, rfl, ended⟩ := call_runs (.get .job job.key) id ran
    obtain ⟨same, rfl⟩ := Prod.mk.inj ended
    cases read with
    | ok stored => cases same
    | error reported =>
      cases same
      exact ⟨.error reported, rfl, rfl, .api reported, rfl, fun _ => nofun⟩

theorem deletionResult_calm (deletion : Except ApiError Unit) (text : String) :
    deletionResult deletion ≠ .error (.panic text) := by
  unfold deletionResult
  split
  · split <;> nofun
  · nofun

theorem deleteJob_runs {job : Job} {outcome : Except Err PUnit × Reconciler}
    (runs : Prog.Runs answer (deleteJob job memory) s log outcome s') :
    ∃ deletion, log = [jobDeletion job deletion] ∧ outcome = (deletionResult deletion, memory) := by
  obtain ⟨result, memory', between, first, rest, ran, ends, rfl⟩ := runs_attempt_bind runs
  obtain ⟨deletion, _, rfl, ended⟩ := call_runs (.delete .job job.key) id ran
  obtain ⟨rfl, rfl⟩ := Prod.mk.inj ended
  refine ⟨deletion, ?_⟩
  cases deletion with
  | ok _ =>
    cases ends
    exact ⟨rfl, rfl⟩
  | error error =>
    dsimp only [Except.mapError, id] at ends
    split at ends
    · rename_i missing
      cases ends
      have absent : error.reason = .notFound := by simpa [Err.isNotFound, Err.reason?] using missing
      simp [deletionResult, absent, jobDeletion]
    · rename_i present
      cases ends
      have other : ¬error.reason = .notFound := by simpa [Err.isNotFound, Err.reason?] using present
      simp [deletionResult, other, jobDeletion]

theorem finishJob_runs {job : Job} {status : ImageStatus} {outcome : Except Err (ImageStatus × Option Err) × Reconciler}
    (runs : Prog.Runs answer (finishJob job status memory) s log outcome s') :
    ∃ deletion, log = [jobDeletion job deletion] ∧ outcome.1 = .ok (afterDeletion status deletion) := by
  rcases runs_bind runs with ⟨value, memory', between, first, rest, ran, ends, rfl⟩ | ⟨error, memory', ran, rfl⟩
  · obtain ⟨result, _, deleted, ⟨ended, _⟩ | ⟨_, _, ended⟩⟩ := caught_runs ran
    · obtain ⟨deletion, rfl, same⟩ := deleteJob_runs deleted
      obtain ⟨rfl, rfl⟩ := Prod.mk.inj same
      obtain ⟨value, rfl⟩ := Prod.mk.inj ended
      cases value
      refine ⟨deletion, ?_⟩
      unfold afterDeletion
      generalize deletionResult deletion = result at ends ⊢
      cases result with
      | ok _ =>
        cases ends
        exact ⟨rfl, rfl⟩
      | error error =>
        cases ends
        exact ⟨rfl, rfl⟩
    · cases ended
  · obtain ⟨result, _, deleted, ⟨ended, _⟩ | ⟨text, panics, _⟩⟩ := caught_runs ran
    · cases ended
    · obtain ⟨deletion, _, same⟩ := deleteJob_runs deleted
      exact absurd ((Prod.mk.inj same).1.symm.trans panics) (deletionResult_calm deletion text)

theorem jobRound_created {ig : ImageGenerator} {wanted : Bool} {success : ImageStatus} {job : Job}
    {read : Except ApiError ConfigMap} {creation : Except ApiError Job}
    {result : Except Err (ImageStatus × Option Err)} (unset : imageIDSet ig read ≠ wanted)
    (runs : Prog.Runs answer ((caught (checkJobStatus job.key) >>= fun
      | .error _ => Pure.pure (.imageStatusUnknown, some errCheckingJobStatus)
      | .ok .imageJobCompleted => do
        if (← ig.isImageIDSet) = wanted then finishJob job success
        else return (.requeueNeeded, none)
      | .ok .imageJobFailed => finishJob job .imageFailed
      | .ok _ => Pure.pure (.requeueNeeded, none) : Op Err (ImageStatus × Option Err)) memory) s log
      (result, memory') s') :
    ∃ outcome, result = .ok outcome ∧
      JobRound ig wanted success job (cmRead read :: jobCreation job creation :: log) outcome := by
  rcases runs_bind runs with ⟨value, _, _, first, rest, ran, ends, rfl⟩ | ⟨error, _, ran, ended⟩
  · obtain ⟨result, _, checked, ⟨ended, _⟩ | ⟨_, _, ended⟩⟩ := caught_runs ran
    · obtain ⟨status, rfl, rfl, known⟩ := checkJobStatus_runs checked
      cases ended
      cases state : jobState status with
      | none =>
        rw [state] at known
        obtain ⟨error, rfl, _⟩ := known
        cases ends
        exact ⟨_, rfl, .undecided unset state⟩
      | some found =>
        rw [state] at known
        cases known
        rcases jobState_cases state with rfl | rfl | rfl
        · obtain ⟨deletion, rfl, ended⟩ := finishJob_runs ends
          exact ⟨_, ended, .failed unset state⟩
        · rcases runs_bind ends with ⟨_, _, _, second, rest, ran, ends, rfl⟩ | ⟨_, _, ran, _⟩
          · obtain ⟨again, rfl, ended⟩ := isImageIDSet_runs ran
            cases ended
            split at ends
            · rename_i settled
              obtain ⟨deletion, rfl, ended⟩ := finishJob_runs ends
              exact ⟨_, ended, .completed unset state settled⟩
            · rename_i unsettled
              cases ends
              exact ⟨_, rfl, .early unset state unsettled⟩
          · obtain ⟨_, _, ended⟩ := isImageIDSet_runs ran
            cases ended
        · cases ends
          exact ⟨_, rfl, .running unset state⟩
    · cases ended
  · obtain ⟨result, _, checked, ⟨ended, _⟩ | ⟨text, rfl, _⟩⟩ := caught_runs ran
    · cases ended
    · obtain ⟨status, _, _, known⟩ := checkJobStatus_runs checked
      cases state : jobState status with
      | none =>
        rw [state] at known
        obtain ⟨error, same, calm⟩ := known
        cases same
        exact absurd rfl (calm text)
      | some found =>
        rw [state] at known
        cases known

/-- A round loads the job, and then goes one of the ways listed. -/
theorem imageJobRunner_runs {settings : Settings} {ig : ImageGenerator} {filename : String} {wanted : Bool}
    {success : ImageStatus} {result : Except Err (ImageStatus × Option Err)}
    (runs : Prog.Runs answer (imageJobRunner settings ig filename wanted success memory) s log
      (result, memory') s') :
    (∃ error between, Prog.Runs answer (createJobFromFile settings ig filename memory) s log
      (.error error, between) s' ∧
        ∀ outcome, result = .ok outcome → outcome = (.imageFailed, some errCreatingImageJob)) ∨
    ∃ job between s₁ load round outcome,
      Prog.Runs answer (createJobFromFile settings ig filename memory) s load (.ok job, between) s₁ ∧
      JobRound ig wanted success job round outcome ∧ log = load ++ round ∧ result = .ok outcome := by
  rcases runs_bind runs with ⟨value, memory₁, s₁, load, rest, ran, ends, rfl⟩ | ⟨error, memory₁, ran, ended⟩
  · obtain ⟨result, _, loaded, ⟨ended, _⟩ | ⟨_, _, ended⟩⟩ := caught_runs ran
    · cases ended
      cases value with
      | error error =>
        cases ends
        rw [List.append_nil]
        exact .inl ⟨error, _, loaded, fun outcome same => (Except.ok.inj same).symm⟩
      | ok job =>
        rcases runs_bind ends with ⟨_, _, _, first, rest, ran, ends, rfl⟩ | ⟨_, _, ran, _⟩
        · obtain ⟨read, rfl, ended⟩ := isImageIDSet_runs ran
          cases ended
          split at ends
          · rename_i settled
            obtain ⟨deletion, rfl, ended⟩ := finishJob_runs ends
            exact .inr ⟨job, _, s₁, load, _, _, loaded, .already settled, rfl, ended⟩
          · rename_i unsettled
            rcases runs_bind ends with ⟨_, _, _, second, rest, created, ends, rfl⟩ | ⟨_, _, created, _⟩
            · obtain ⟨creation, rfl, ended⟩ := createJob_runs created
              cases ended
              obtain ⟨outcome, ended, round⟩ := jobRound_created unsettled ends
              exact .inr ⟨job, _, s₁, load, _, outcome, loaded, round, rfl, ended⟩
            · obtain ⟨_, _, ended⟩ := createJob_runs created
              cases ended
        · obtain ⟨_, _, ended⟩ := isImageIDSet_runs ran
          cases ended
    · cases ended
  · obtain ⟨result, _, loaded, ⟨same, _⟩ | ⟨text, rfl, _⟩⟩ := caught_runs ran
    · cases same
    · refine .inl ⟨_, _, loaded, ?_⟩
      intro outcome finished
      cases ended
      cases finished

end Runs

section Loading

def NoJob (r : Req) : Prop := r.writes ≠ some .job ∧ ∀ key, r ≠ .get .job key

/-- A read, or the creation of a config map. -/
def Adds (r : Req) : Prop := IsRead r ∨ ∃ configMap : ConfigMap, r = .create .configMap configMap

/-- The request is none of those a round is made of. -/
structure Aside (r : Req) : Prop where
  noJob : NoJob r
  adds : Adds r
  other : r ≠ .get .configMap peerPodsCMKey

@[grind ←]
theorem aside_get {k : Kind} {key : Key} (notJob : k ≠ .job) (notConfigMap : k ≠ .configMap) :
    Aside (.get k key) := by
  refine ⟨⟨nofun, fun other same => ?_⟩, .inl rfl, fun same => ?_⟩
  · cases same
    exact notJob rfl
  · cases same
    exact notConfigMap rfl

@[grind ←]
theorem aside_configMap {key : Key} (differs : key ≠ peerPodsCMKey) : Aside (.get .configMap key) := by
  refine ⟨⟨nofun, fun _ => nofun⟩, .inl rfl, fun same => ?_⟩
  cases same
  exact differs rfl

theorem aside_file (key : Key) : Aside (.get .file key) := aside_get nofun nofun

@[grind ←]
theorem looks_getEffectiveProxyEnvVars (settings : Settings) : Looks Aside (getEffectiveProxyEnvVars settings) := by
  unfold getEffectiveProxyEnvVars getProxyCREnvVars
  grind

theorem looks_generateTrustedCAVolumeConfig {ε : Type} :
    Looks Aside (generateTrustedCAVolumeConfig : Op ε (Option (Volume × VolumeMount))) := by
  have creates (configMap : ConfigMap) : Looks Aside (clientCreate configMap) :=
    looks_clientCreate ⟨⟨nofun, fun _ => nofun⟩, .inr ⟨_, rfl⟩, nofun⟩
  refine (looks_clientGet (aside_configMap (by decide))).attempt.bind fun found => ?_
  cases found <;> grind

theorem looks_createJobFromFile {p : Req → Prop} (settings : Settings) (ig : ImageGenerator) (filename : String)
    (aside : ∀ r, Aside r → p r)
    (reads : filename = "osc-podvm-delete-job.yaml" → p (.get .configMap peerPodsCMKey)) :
    Looks p (createJobFromFile settings ig filename) := by
  have rest {complete : List EnvVar → Option (Volume × VolumeMount) → Job} :
      Looks p (getEffectiveProxyEnvVars settings >>= fun proxyEnvVars =>
        generateTrustedCAVolumeConfig >>= fun volume => Pure.pure (complete proxyEnvVars volume)) :=
    ((looks_getEffectiveProxyEnvVars settings).mono aside).bind fun _ =>
      (looks_generateTrustedCAVolumeConfig.mono aside).bind fun _ => looks_pure _
  refine ((looks_readFile aside_file _).mono aside).bind fun yamlData => ?_
  split
  · exact looks_throw _
  · dsimp only
    split
    · rename_i deletes
      have asks : Looks p ig.getImageID := (looks_clientGet (reads deletes)).bind fun _ => looks_pure _
      exact asks.bind fun _ => (looks_pure _).bind fun _ => rest
    · exact (looks_pure _).bind fun _ => rest

end Loading

section Reads

def cmReadOf : Exchange → Option (Except ApiError ConfigMap)
  | ⟨.get .configMap key, read⟩ => if key = peerPodsCMKey then some read else none
  | _ => none

def cmReads (log : List Exchange) : List (Except ApiError ConfigMap) := log.filterMap cmReadOf

def readFails : Except ApiError ConfigMap → Bool
  | .error _ => true
  | .ok _ => false

/-- The `n`-th read of `peer-pods-cm` fails if `fails n` says so. -/
def ReadsFail (fails : Nat → Bool) (log : List Exchange) : Prop :=
  ∀ n read, (cmReads log)[n]? = some read → readFails read = fails n

/-- `peer-pods-cm` was read, and no image id was found in it. -/
def ReadUnset (ig : ImageGenerator) (log : List Exchange) : Prop :=
  ∃ peerPodsCM, ⟨.get .configMap peerPodsCMKey, .ok peerPodsCM⟩ ∈ log ∧ dataAt peerPodsCM ig.cmImageIDKey = ""

theorem cmReads_append (first rest : List Exchange) : cmReads (first ++ rest) = cmReads first ++ cmReads rest :=
  List.filterMap_append

theorem cmReads_eq_nil {log : List Exchange} (none : ∀ entry ∈ log, Aside entry.1) : cmReads log = [] := by
  refine List.filterMap_eq_nil_iff.mpr fun entry member => ?_
  have aside := (none entry member).other
  unfold cmReadOf
  split
  · rename_i key read
    refine if_neg fun same => aside ?_
    rw [same]
  · rfl

theorem mem_cmReads {log : List Exchange} {read : Except ApiError ConfigMap} :
    read ∈ cmReads log ↔ cmRead read ∈ log := by
  unfold cmReads
  rw [List.mem_filterMap]
  constructor
  · rintro ⟨entry, logged, same⟩
    unfold cmReadOf at same
    split at same
    · obtain ⟨rfl, same⟩ := Option.ite_none_right_eq_some.mp same
      cases same
      exact logged
    · cases same
  · intro logged
    exact ⟨_, logged, by simp [cmReadOf, cmRead]⟩

theorem readUnset_iff {ig : ImageGenerator} {log : List Exchange} :
    ReadUnset ig log ↔ ∃ read ∈ cmReads log, readFails read = false ∧ imageIDSet ig read = false := by
  constructor
  · rintro ⟨peerPodsCM, logged, unset⟩
    exact ⟨.ok peerPodsCM, mem_cmReads.mpr logged, rfl, by simpa [imageIDSet] using unset⟩
  · rintro ⟨read, found, works, unset⟩
    cases read with
    | error error => cases works
    | ok peerPodsCM => exact ⟨peerPodsCM, mem_cmReads.mp found, by simpa [imageIDSet] using unset⟩

variable {S : Type} {answer : S → (r : Req) → Response r → S → Prop} {s s' : S}
  {memory memory' : Reconciler} {log : List Exchange} {settings : Settings} {ig : ImageGenerator}

theorem createLoad_reads {result : Except Err Job}
    (runs : Prog.Runs answer (createJobFromFile settings ig "osc-podvm-create-job.yaml" memory) s log
      (result, memory') s') : cmReads log = [] :=
  cmReads_eq_nil ((looks_createJobFromFile settings ig _ (fun _ => id) fun same => absurd same (by decide)).1.mem_runs runs)

theorem deleteLoad_reads {job : Job}
    (runs : Prog.Runs answer (createJobFromFile settings ig "osc-podvm-delete-job.yaml" memory) s log
      (.ok job, memory') s') : ∃ peerPodsCM, cmReads log = [.ok peerPodsCM] := by
  obtain ⟨yamlData, _, _, first, rest, ran, ends, rfl⟩ := of_runs_bind runs
  rw [cmReads_append, cmReads_eq_nil ((looks_readFile aside_file _).1.mem_runs ran), List.nil_append]
  generalize settings.parseJobYAML yamlData = parsed at ends
  cases parsed with
  | none => cases ends
  | some parsed =>
    dsimp only at ends
    rw [if_pos rfl] at ends
    obtain ⟨imageId, _, _, asked, later, asks, completes, rfl⟩ := of_runs_bind ends
    have quiet : cmReads later = [] := by
      refine cmReads_eq_nil (Issues.mem_runs ?_ completes)
      refine (issues_pure _).bind fun _ => ?_
      refine (looks_getEffectiveProxyEnvVars settings).1.bind fun _ => ?_
      exact looks_generateTrustedCAVolumeConfig.1.bind fun _ => issues_pure _
    rw [cmReads_append, quiet, List.append_nil]
    obtain ⟨found, _, _, _, _, reads, finds, rfl⟩ := of_runs_bind asks
    obtain ⟨read, _, rfl, ended⟩ := call_runs (.get .configMap peerPodsCMKey) id reads
    cases finds
    refine ⟨found, ?_⟩
    cases read with
    | error error => cases ended
    | ok stored =>
      cases ended
      rfl

theorem JobRound.success_read {wanted : Bool} {success : ImageStatus} {job : Job} {outcome : ImageStatus × Option Err}
    (round : JobRound ig wanted success job log outcome) (reported : outcome.1 = success)
    (proper : success = .imageCreatedSuccessfully ∨ success = .imageDeletedSuccessfully) :
    ∃ read, imageIDSet ig read = wanted ∧ cmRead read ∈ log ∧
      (cmReads log = [read] ∨ ∃ earlier, cmReads log = [earlier, read]) := by
  cases round with
  | @already read deletion set => exact ⟨read, set, by simp, .inl rfl⟩
  | @completed read again creation status deletion _ _ set => exact ⟨again, set, by simp, .inr ⟨read, rfl⟩⟩
  | undecided => rcases proper with rfl | rfl <;> cases reported
  | running => rcases proper with rfl | rfl <;> cases reported
  | early => rcases proper with rfl | rfl <;> cases reported
  | @failed read creation status deletion =>
    rcases afterDeletion_cases .imageFailed deletion with same | ⟨error, same⟩
    · rw [same] at reported
      rcases proper with rfl | rfl <;> cases reported
    · rw [same] at reported
      rcases proper with rfl | rfl <;> cases reported

theorem JobRound.creation_read {wanted : Bool} {success : ImageStatus} {job created : Job}
    {outcome : ImageStatus × Option Err} {creation : Except ApiError Job}
    (round : JobRound ig wanted success job log outcome) (creates : ⟨.create .job created, creation⟩ ∈ log) :
    ∃ read later, imageIDSet ig read ≠ wanted ∧ cmRead read ∈ log ∧ cmReads log = read :: later := by
  cases round with
  | already =>
    rcases List.mem_pair.mp creates with same | same
    · cases same
    · cases same
  | @undecided read _ _ unset => exact ⟨read, [], unset, by simp, rfl⟩
  | @running read _ _ unset => exact ⟨read, [], unset, by simp, rfl⟩
  | @failed read _ _ _ unset => exact ⟨read, [], unset, by simp, rfl⟩
  | @early read again _ _ unset => exact ⟨read, [again], unset, by simp, rfl⟩
  | @completed read again _ _ _ unset => exact ⟨read, [again], unset, by simp, rfl⟩

theorem deleteRound_unset {result : Except Err (ImageStatus × Option Err)} {outcome : ImageStatus × Option Err}
    {fails : Nat → Bool}
    (runs : Prog.Runs answer (imageDeleteJobRunner settings ig memory) s log (result, memory') s')
    (ended : result = .ok outcome) (pattern : ReadsFail fails log) (second : fails 1 = false) (third : fails 2 = false)
    (reported : outcome.1 = .imageDeletedSuccessfully) : ReadUnset ig log := by
  rcases imageJobRunner_runs runs with
    ⟨_, _, _, failed⟩ | ⟨job, _, _, load, round, outcome', loaded, went, rfl, same⟩
  · rw [failed outcome ended] at reported
    cases reported
  · obtain rfl : outcome' = outcome := Except.ok.inj (same.symm.trans ended)
    obtain ⟨peerPodsCM, first⟩ := deleteLoad_reads loaded
    obtain ⟨read, unset, logged, last⟩ := went.success_read reported (.inr rfl)
    refine readUnset_iff.mpr ⟨read, mem_cmReads.mpr (List.mem_append_right load logged), ?_, unset⟩
    rcases last with only | ⟨earlier, both⟩
    · refine (pattern 1 read ?_).trans second
      rw [cmReads_append, first, only]
      rfl
    · refine (pattern 2 read ?_).trans third
      rw [cmReads_append, first, both]
      rfl

theorem deleteRound_unreported {result : Except Err (ImageStatus × Option Err)} {outcome : ImageStatus × Option Err}
    {fails : Nat → Bool}
    (runs : Prog.Runs answer (imageDeleteJobRunner settings ig memory) s log (result, memory') s')
    (ended : result = .ok outcome) (pattern : ReadsFail fails log) (first : fails 0 = true) :
    outcome.1 ≠ .imageDeletedSuccessfully := by
  rcases imageJobRunner_runs runs with ⟨_, _, _, failed⟩ | ⟨job, _, _, load, round, _, loaded, _, rfl, _⟩
  · rw [failed outcome ended]
    exact nofun
  · obtain ⟨peerPodsCM, reads⟩ := deleteLoad_reads loaded
    have works := pattern 0 (.ok peerPodsCM) (by rw [cmReads_append, reads]; rfl)
    rw [first] at works
    cases works

theorem createRound_unset {result : Except Err (ImageStatus × Option Err)} {fails : Nat → Bool} {created : Job}
    {creation : Except ApiError Job}
    (runs : Prog.Runs answer (imageCreateJobRunner settings ig memory) s log (result, memory') s')
    (pattern : ReadsFail fails log) (works : fails 0 = false) (creates : ⟨.create .job created, creation⟩ ∈ log) :
    ReadUnset ig log := by
  have noCreation {load : List Exchange} {loaded : Except Err Job} {memory₁ : Reconciler} {s₁ : S}
      (runs : Prog.Runs answer (createJobFromFile settings ig "osc-podvm-create-job.yaml" memory) s
        load (loaded, memory₁) s₁) : ⟨.create .job created, creation⟩ ∉ load := by
    intro logged
    exact (looks_createJobFromFile settings ig _ (fun _ aside => aside.noJob)
      (fun same => absurd same (by decide))).1.mem_runs runs _ logged |>.1 rfl
  rcases imageJobRunner_runs runs with
    ⟨_, _, loading, _⟩ | ⟨job, _, _, load, round, outcome, loading, went, rfl, _⟩
  · exact absurd creates (noCreation loading)
  · rcases List.mem_append.mp creates with logged | logged
    · exact absurd logged (noCreation loading)
    · obtain ⟨read, later, unset, asked, reads⟩ := went.creation_read logged
      refine readUnset_iff.mpr ⟨read, mem_cmReads.mpr (List.mem_append_right load asked), ?_, by simpa using unset⟩
      refine (pattern 0 read ?_).trans works
      rw [cmReads_append, createLoad_reads loading, reads]
      rfl

end Reads

section Preserving

variable {s s' : Cluster}

structure Preserves (s s' : Cluster) : Prop where
  served : s'.served = s.served
  found : ∀ key (configMap : ConfigMap), s.find? .configMap key = some configMap →
    s'.find? .configMap key = some configMap
  jobs : s'.objs .job = s.objs .job

theorem Preserves.refl (s : Cluster) : Preserves s s := ⟨rfl, fun _ _ => id, rfl⟩

theorem Preserves.trans {s'' : Cluster} (first : Preserves s s') (second : Preserves s' s'') : Preserves s s'' where
  served := second.served.trans first.served
  found key configMap found := second.found key configMap (first.found key configMap found)
  jobs := second.jobs.trans first.jobs

theorem Adds.preserves {r : Req} {response : Response r} (adds : Adds r) (answered : Answered s r response s') :
    Preserves s s' := by
  rcases adds with read | ⟨created, rfl⟩
  · rw [read.unchanged answered]
    exact .refl s
  · rcases answered.store with rfl | rfl
    · exact .refl _
    · refine ⟨Store.exec_served, fun key configMap found => ?_, Store.exec_objs_ne nofun⟩
      rcases Store.exec_create_cases (P := Mark) (s := s) created with ⟨error, refused⟩ | ⟨absent, _⟩
      · rw [refused]
        exact found
      · rw [Store.exec_find?_other]
        · exact found
        · intro same
          cases same
          cases absent.symm.trans found

theorem read_stored {α : Type} {program : Prog Req Response α} {value : α} {log : List Exchange} {key : Key}
    {stored read : ConfigMap} (adds : program.Only Adds) (runs : Prog.Runs Answered program s log value s')
    (found : s.find? .configMap key = some stored) (logged : ⟨.get .configMap key, .ok read⟩ ∈ log) : read = stored := by
  induction runs with
  | pure => cases logged
  | call response answered _ ih =>
    rcases List.mem_cons.mp logged with same | later
    · cases same
      exact Option.some.inj (answered.get_ok.2.symm.trans found)
    · exact ih (adds.2 _) ((adds.1.preserves answered).found key stored found) later

end Preserving

section Misreading

variable {s s' : Cluster} {memory : Reconciler} {log : List Exchange} {settings : Settings} {ig : ImageGenerator}
  {fails : Nat → Bool} {job : Job}

def timeout : ApiError := ⟨.other, "timeout"⟩

theorem caught_run {α : Type} {routine : Op Err α} {value : α} {memory' : Reconciler}
    (runs : Prog.Runs Answered (routine memory) s log (.ok value, memory') s') :
    Prog.Runs Answered (caught routine memory) s log (.ok (.ok value), memory') s' := by
  rw [← List.append_nil log]
  exact runs_bind_ok (runs_attempt runs) .pure

theorem checkJobStatus_run {stored : Job} (answered : Answered s (.get .job job.key) (.ok stored) s)
    (notFailed : hasJobFailed (jobBodyOf stored).status = false)
    (completed : hasJobCompleted (jobBodyOf stored).status = true) :
    Prog.Runs Answered (checkJobStatus job.key memory) s [jobRead job (.ok stored)] (.ok .imageJobCompleted, memory) s := by
  refine .call _ answered ?_
  change Prog.Runs Answered ((if _ then _ else if _ then _ else _ : Op Err ImageStatus) memory) s [] _ s
  rw [if_neg (by simp [notFailed]), if_pos completed]
  exact .pure

theorem isImageIDSet_run {read : Except ApiError ConfigMap} (answered : Answered s (.get .configMap peerPodsCMKey) read s) :
    Prog.Runs Answered ((ig.isImageIDSet : Op Err Bool) memory) s [cmRead read] (.ok (imageIDSet ig read), memory) s := by
  cases read with
  | error error => exact .call _ answered .pure
  | ok peerPodsCM => exact .call _ answered .pure

theorem timedOut (s : Cluster) (r : Req) {response : Response r} (sent : Response.failure timeout r = some response) :
    Answered s r response s :=
  .inr ⟨timeout, by decide, sent, .inl rfl⟩

theorem finishJob_run (memory : Reconciler) (job : Job) (served : s.served .job = true) (status : ImageStatus) : ∃ deletion s',
    Prog.Runs Answered (finishJob job status memory) s [jobDeletion job deletion] (.ok (status, none), memory) s' := by
  rcases executed : s.exec (.delete .job job.key : Req) with ⟨deletion, s'⟩
  have answered : Answered s (.delete .job job.key) deletion s' := .inl executed.symm
  refine ⟨deletion, s', ?_⟩
  cases found : s.find? .job job.key with
  | none =>
    simp only [Store.exec, Store.change, served, found, if_true] at executed
    cases executed
    exact .call _ answered .pure
  | some stored =>
    simp only [Store.exec, Store.change, served, found, if_true] at executed
    cases executed
    exact .call _ answered .pure

/-- The job of a round can be loaded. -/
def Loads (settings : Settings) (ig : ImageGenerator) (filename : String) (memory : Reconciler) (s : Cluster) (job : Job) :
    Prop :=
  (createJobFromFile settings ig filename).result Store.exec memory s = .ok job

theorem Loads.run {filename : String} (loads : Loads settings ig filename memory s job) : ∃ load s₁,
    Prog.Runs Answered (createJobFromFile settings ig filename memory) s load (.ok job, memory) s₁ ∧ Preserves s s₁ ∧
      ∀ key (stored read : ConfigMap), s.find? .configMap key = some stored →
        ⟨.get .configMap key, .ok read⟩ ∈ load → read = stored := by
  have looks : Looks Adds (createJobFromFile settings ig filename) :=
    looks_createJobFromFile settings ig filename (fun _ aside => aside.adds) fun _ => .inl rfl
  obtain ⟨load, runs⟩ := Prog.runs_eval Answered Store.exec (fun _ _ => .inl rfl)
    (createJobFromFile settings ig filename memory) s
  rcases evaluated : (createJobFromFile settings ig filename memory).eval Store.exec s with ⟨⟨result, memory'⟩, s₁⟩
  rw [evaluated] at runs
  obtain rfl : result = .ok job := by rwa [Loads, Routine.result, Routine.eval, evaluated] at loads
  obtain ⟨rfl, _⟩ := looks.runs runs
  refine ⟨load, s₁, runs, ?_, fun key stored read found logged => read_stored (looks.1 _) runs found logged⟩
  exact (looks.1 _).runs_rel Preserves.refl Preserves.trans Adds.preserves runs

theorem misreads (reads : List (Except ApiError ConfigMap)) (same : cmReads log = reads)
    (agrees : (List.range reads.length).map fails = reads.map readFails)
    (none : ∀ read ∈ reads, readFails read = true ∨ imageIDSet ig read = true) :
    ReadsFail fails log ∧ ¬ReadUnset ig log := by
  constructor
  · intro n read found
    rw [same] at found
    have bound : n < reads.length := (List.getElem?_eq_some_iff.mp found).1
    have listed := congrArg (·[n]?) agrees
    simp only [List.getElem?_map, List.getElem?_range bound, found] at listed
    exact (Option.some.inj listed).symm
  · intro unset
    obtain ⟨read, found, works, notSet⟩ := readUnset_iff.mp unset
    rcases none read (same ▸ found) with failed | set
    · rw [works] at failed
      cases failed
    · rw [notSet] at set
      cases set

/-- A deletion is reported only on a read that found no image id, whenever the reads of
`peer-pods-cm` fail as said. -/
def DeletionDecides (settings : Settings) (ig : ImageGenerator) (memory : Reconciler) (s : Cluster) (fails : Nat → Bool) :
    Prop :=
  ∀ log outcome memory' s',
    Prog.Runs Answered (imageDeleteJobRunner settings ig memory) s log (.ok outcome, memory') s' →
    ReadsFail fails log → outcome.1 = .imageDeletedSuccessfully → ReadUnset ig log

/-- A job is created only on such a read. -/
def CreationDecides (settings : Settings) (ig : ImageGenerator) (memory : Reconciler) (s : Cluster) (fails : Nat → Bool) :
    Prop :=
  ∀ log result memory' s' job creation,
    Prog.Runs Answered (imageCreateJobRunner settings ig memory) s log (result, memory') s' →
    ReadsFail fails log → ⟨.create .job job, creation⟩ ∈ log → ReadUnset ig log

/-- The job is there and has completed, and the image id has been stored. -/
def DeletionInPlace (settings : Settings) (ig : ImageGenerator) (memory : Reconciler) (s : Cluster) : Prop :=
  ∃ (job stored : Job) (peerPodsCM : ConfigMap), Loads settings ig "osc-podvm-delete-job.yaml" memory s job ∧
    Readable s job.key stored ∧ hasJobFailed (jobBodyOf stored).status = false ∧
    hasJobCompleted (jobBodyOf stored).status = true ∧
    Readable s peerPodsCMKey peerPodsCM ∧ dataAt peerPodsCM ig.cmImageIDKey ≠ ""

theorem deletion_misread (fails : Nat → Bool) (inPlace : DeletionInPlace settings ig memory s) (first : fails 0 = false)
    (later : fails 1 = true ∨ fails 2 = true) : ∃ log outcome memory' s',
      Prog.Runs Answered (imageDeleteJobRunner settings ig memory) s log (.ok outcome, memory') s' ∧
        outcome.1 = .imageDeletedSuccessfully ∧ ReadsFail fails log ∧ ¬ReadUnset ig log := by
  obtain ⟨job, stored, peerPodsCM, loads, jobReadable, notFailed, completed, cmReadable, notEmpty⟩ := inPlace
  obtain ⟨load, s₁, loaded, preserves, honest⟩ := loads.run
  obtain ⟨read, reads⟩ := deleteLoad_reads loaded
  obtain rfl : read = peerPodsCM :=
    honest peerPodsCMKey peerPodsCM read cmReadable.2 (mem_cmReads.mp (reads ▸ List.mem_singleton_self _))
  have set : imageIDSet ig (.ok read) = true := by simpa [imageIDSet] using notEmpty
  have failed : Answered s₁ (.get .configMap peerPodsCMKey) (.error timeout) s₁ := timedOut s₁ _ rfl
  obtain ⟨deletion, s₂, finished⟩ := finishJob_run memory job
    (preserves.served ▸ jobReadable.1) .imageDeletedSuccessfully
  cases second : fails 1 with
  | true =>
    refine ⟨load ++ ([cmRead (.error timeout)] ++ [jobDeletion job deletion]), _, memory, s₂,
      runs_bind_ok (caught_run loaded) (runs_bind_ok (isImageIDSet_run failed) finished), rfl, ?_⟩
    refine misreads [.ok read, .error timeout] ?_ ?_ (by simp [set, readFails])
    · rw [cmReads_append, reads]
      rfl
    · simp [List.range_succ, first, second, readFails]
  | false =>
    have again : Answered s₁ (.get .configMap peerPodsCMKey) (.ok read) s₁ :=
      Readable.answered ⟨preserves.served ▸ cmReadable.1, preserves.found _ _ cmReadable.2⟩
    have jobAnswered : Answered s₁ (.get .job job.key) (.ok stored) s₁ := by
      refine Readable.answered ⟨preserves.served ▸ jobReadable.1, ?_⟩
      rw [Store.find?, preserves.jobs]
      exact jobReadable.2
    have created : Prog.Runs Answered (createJob job memory) s₁ [jobCreation job (.error timeout)] (.ok ⟨⟩, memory) s₁ :=
      .call _ (timedOut s₁ _ rfl) .pure
    refine ⟨load ++ ([cmRead (.ok read)] ++ ([jobCreation job (.error timeout)] ++ ([jobRead job (.ok stored)] ++
      ([cmRead (.error timeout)] ++ [jobDeletion job deletion])))), (.imageDeletedSuccessfully, none), memory, s₂,
      runs_bind_ok (caught_run loaded) (runs_bind_ok (isImageIDSet_run again) ?_), rfl, ?_⟩
    · rw [set, if_neg (by decide)]
      exact runs_bind_ok created (runs_bind_ok (caught_run (checkJobStatus_run jobAnswered notFailed completed))
        (runs_bind_ok (isImageIDSet_run failed) finished))
    · refine misreads [.ok read, .ok read, .error timeout] ?_ ?_ (by simp [set, readFails])
      · rw [cmReads_append, reads]
        rfl
      · simp [List.range_succ, first, second, later.resolve_left (by simp [second]), readFails]

theorem creation_misread (loads : Loads settings ig "osc-podvm-create-job.yaml" memory s job)
    (first : fails 0 = true) : ∃ log result memory' s' creation,
      Prog.Runs Answered (imageCreateJobRunner settings ig memory) s log (result, memory') s' ∧
        ⟨.create .job job, creation⟩ ∈ log ∧ ReadsFail fails log ∧ ¬ReadUnset ig log := by
  obtain ⟨load, s₁, loaded, _, _⟩ := loads.run
  refine ⟨load ++ [cmRead (.error timeout), jobCreation job (.error timeout), jobRead job (.error timeout)],
    .ok (.imageStatusUnknown, some errCheckingJobStatus), memory, s₁, .error timeout, ?_, ?_, ?_⟩
  · refine runs_bind_ok (caught_run loaded) ?_
    exact .call _ (timedOut s₁ _ rfl) (.call _ (timedOut s₁ _ rfl) (.call _ (timedOut s₁ _ rfl) .pure))
  · exact List.mem_append_right load (by simp [jobCreation])
  · refine misreads [.error timeout] ?_ (by simp [List.range_succ, first, readFails]) (by simp [readFails])
    rw [cmReads_append, createLoad_reads loaded]
    rfl

end Misreading

section Examples

def exampleJob : Job :=
  ⟨{ name := "osc-podvm-image", ns := operatorNamespace }, show JobBody from { template := {} }⟩

def completedJob : Job := ⟨exampleJob.metadata, show JobBody from
  { template := {}, status := { complete := true, conditionCount := 1, succeeded := 1 } }⟩

def jobSettings : Settings := { plainSettings with parseJobYAML := fun _ => some exampleJob }

def exampleGenerator : ImageGenerator := ⟨"libvirt", "cluster", "LIBVIRT_IMAGE_ID", false⟩

def jobCluster : Cluster := clusterOf
  [.create .file ⟨{ name := "/config/peerpods/podvm/osc-podvm-create-job.yaml" }, ("" : String)⟩,
   .create .file ⟨{ name := "/config/peerpods/podvm/osc-podvm-delete-job.yaml" }, ("" : String)⟩,
   .create .configMap ⟨{ name := peerpodsCMName, ns := operatorNamespace },
     show ConfigMapBody from ⟨some (StrMap.ofList [("LIBVIRT_IMAGE_ID", "image")])⟩⟩,
   .create .job exampleJob, .updateStatus .job completedJob]

theorem jobCluster_inPlace : DeletionInPlace jobSettings exampleGenerator {} jobCluster :=
  ⟨_, _, _, rfl, ⟨rfl, rfl⟩, rfl, rfl, ⟨rfl, rfl⟩, by decide +kernel⟩

end Examples

end ImageJobs

open ImageJobs

/-- What the image jobs decide on.  A deletion is reported on a read that found no image id
if the read of `getImageID` fails, as nothing is reported then, or neither read of
`isImageIDSet` fails; a job is created on such a read if the first read of `isImageIDSet`
succeeds.  Where all else is in place, these conditions are exact. -/
theorem imageJobs_decide_on_reads_iff (settings : Settings) (ig : ImageGenerator) (memory : Reconciler) (s : Cluster)
    (fails : Nat → Bool) :
    (fails 0 = true ∨ fails 1 = false ∧ fails 2 = false → DeletionDecides settings ig memory s fails) ∧
    (DeletionInPlace settings ig memory s →
      (DeletionDecides settings ig memory s fails ↔ fails 0 = true ∨ fails 1 = false ∧ fails 2 = false)) ∧
    (fails 0 = false → CreationDecides settings ig memory s fails) ∧
    ∀ job, Loads settings ig "osc-podvm-create-job.yaml" memory s job →
      (CreationDecides settings ig memory s fails ↔ fails 0 = false) := by
  have deletion : fails 0 = true ∨ fails 1 = false ∧ fails 2 = false → DeletionDecides settings ig memory s fails := by
    intro reads log outcome memory' s' runs pattern reported
    rcases reads with first | ⟨second, third⟩
    · exact absurd reported (deleteRound_unreported runs rfl pattern first)
    · exact deleteRound_unset runs rfl pattern second third reported
  have creation : fails 0 = false → CreationDecides settings ig memory s fails :=
    fun first _ _ _ _ _ _ runs pattern logged => createRound_unset runs pattern first logged
  refine ⟨deletion, fun inPlace => ⟨fun decides => ?_, deletion⟩, creation, fun job loads => ⟨fun decides => ?_, creation⟩⟩
  · by_contra otherwise
    rw [not_or, not_and_or, Bool.not_eq_true, Bool.not_eq_false, Bool.not_eq_false] at otherwise
    obtain ⟨log, outcome, memory', s', runs, reported, pattern, misread⟩ :=
      deletion_misread fails inPlace otherwise.1 otherwise.2
    exact misread (decides _ _ _ _ runs pattern reported)
  · by_contra failed
    obtain ⟨log, result, memory', s', created, runs, logged, pattern, misread⟩ :=
      creation_misread loads (Bool.eq_true_of_not_eq_false failed)
    exact misread (decides _ _ _ _ _ _ runs pattern logged)

/-- All is in place, and the second read decides. -/
theorem imageJobs_decide_on_second_read : ¬DeletionDecides jobSettings exampleGenerator {} jobCluster (· == 1) ∧
    DeletionDecides jobSettings exampleGenerator {} jobCluster fun _ => false := by
  have decided := fun fails => (imageJobs_decide_on_reads_iff jobSettings exampleGenerator {} jobCluster fails).2.1
    jobCluster_inPlace
  exact ⟨fun decides => absurd ((decided _).mp decides) (by decide), (decided _).mpr (by decide)⟩

/-- The image is there, the read that is to find it times out, and the deletion counts as
done. -/
theorem imageDeletion_misread : ∃ log outcome memory s,
    Prog.Runs Answered (ImageGenerator.imageDeleteJobRunner jobSettings exampleGenerator {}) jobCluster log
      (.ok outcome, memory) s ∧ outcome.1 = .imageDeletedSuccessfully ∧ ¬ReadUnset exampleGenerator log := by
  obtain ⟨log, outcome, memory, s, runs, reported, _, misread⟩ :=
    deletion_misread (· == 1) jobCluster_inPlace rfl (.inl rfl)
  exact ⟨log, outcome, memory, s, runs, reported, misread⟩

end SandboxedContainers
