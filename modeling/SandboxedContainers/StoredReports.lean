import SandboxedContainers.Custody
import SandboxedContainers.ImageReports

/-!
# What is stored about a failed image creation

`enablePeerPods` notes in the status it holds in memory that the creation of the image has
failed.  `Reconcile` stores that status on the install path only when no error is returned,
and when none is, the condition has been reset before.
-/

namespace SandboxedContainers

open Lib Routine

/-- The stored status of the `KataConfig` says that the job for the image has failed. -/
def jobFailureStored (s : Cluster) (name : String) : Bool :=
  match s.find? .kataConfig ⟨"", name⟩ with
  | none => false
  | some kataConfig => (statusOf kataConfig).hasReason "PodVMImageJobFailed"

/-- The request is no update of the status of a `KataConfig`, or it was accepted. -/
def statusAccepted : Exchange → Bool
  | ⟨.updateStatus .kataConfig _, .error _⟩ => false
  | _ => true

section Stages

variable (settings : Settings)

/-- `postKataInstallation` as far as the creation of the image, and whether it gets there. -/
def reachImageCreation : Op Exit Bool := do
  mark .postKataInstallation
  resetInProgressCondition
  let r ← reconciler
  orReturn (createRuntimeClass settings (kataRequest r.spec.checkNodeEligibility)) ⟨true, 15⟩
  if settings.goarch ≠ "s390x" then
    orReturn (createRuntimeClass settings kataNvidiaGPURequest) ⟨true, 15⟩
  orReturn createScc ⟨true, 15⟩
  orReturn (createDaemonsetForMonitor settings) ⟨true, 15⟩
  if r.spec.enablePeerPods then
    orReturn createAuthJsonSecret ⟨true, 15⟩
    orReturn createPodVMImageCreationNetworkPolicies ⟨true, 15⟩
    orReturn createPodVMImageDeletionNetworkPolicies ⟨true, 15⟩
    return true
  else return false

def afterImageCreation (outcome : ImageStatus × Option Err) : Op Exit PUnit := do
  handleImageCreate outcome
  orReturn (enablePeerPodsMiscConfigs settings) ⟨true, 15⟩
  resetInProgressCondition

def imageCreationIf (reached : Bool) : Op Exit PUnit :=
  if reached then orReturn (ImageGenerator.imageCreate settings) >>= afterImageCreation settings
  else Pure.pure ⟨⟩

theorem postKataInstallation_eq : postKataInstallation settings =
    reachImageCreation settings >>= imageCreationIf settings := by
  have peerPods (enabled : Bool) : (if enabled then enablePeerPods settings else Pure.pure ⟨⟩ : Op Exit PUnit) =
      (if enabled then do
        orReturn createAuthJsonSecret ⟨true, 15⟩
        orReturn createPodVMImageCreationNetworkPolicies ⟨true, 15⟩
        orReturn createPodVMImageDeletionNetworkPolicies ⟨true, 15⟩
        return true
      else Pure.pure false : Op Exit Bool) >>= imageCreationIf settings := by
    cases enabled with
    | false => rfl
    | true =>
      simp only [if_true, Routine.bind_assoc]
      rfl
  unfold postKataInstallation reachImageCreation
  simp only [Routine.bind_assoc]
  refine bind_congr fun _ => bind_congr fun _ => bind_congr fun r => bind_congr fun _ => ?_
  split
  · simp only [Routine.bind_assoc]
    exact bind_congr fun _ => bind_congr fun _ => bind_congr fun _ => peerPods _
  · simp only [Routine.bind_assoc]
    exact bind_congr fun _ => bind_congr fun _ => peerPods _

/-- `processInstallRequest` as far as `postKataInstallation`. -/
def reachPost : Op Exit Bool := do
  match (← reconciler).deploymentMode with
  | .machineConfigMode => reachPostInstallation settings
  | .daemonSetMode => do
    mark .installRequestDaemonSet
    ensureInstallDaemonSet (← prepareInstallationDaemonSet settings)
    concludeAgents

theorem processInstallRequest_eq : processInstallRequest settings =
    reachPost settings >>= postInstallationIf settings := by
  unfold processInstallRequest reachPost
  simp only [Routine.bind_assoc]
  refine bind_congr fun r => ?_
  cases r.deploymentMode with
  | machineConfigMode => exact processKataConfigInstallRequest_eq settings
  | daemonSetMode =>
    unfold processKataConfigInstallRequestDaemonSet
    simp only [Routine.bind_assoc, concludeInstallationDaemonSet_eq]

/-- `installBranch` as far as the creation of the image; the status is handed on. -/
def reachInstallation (oldObjStatus : KataConfigStatus) : Op Exit (Option KataConfigStatus) := do
  if ← reachPost settings then
    if ← reachImageCreation settings then return some oldObjStatus else return none
  else return none

def reachThroughBranches (oldObjStatus : KataConfigStatus) : Op Exit (Option KataConfigStatus) := do
  match ← Routine.attempt getKataConfigNodeSelectorAsSelector with
  | .error _ => return none
  | .ok _ => if (← reconciler).leaves then return none else reachInstallation settings oldObjStatus

/-- `Reconcile` as far as the creation of the image: the status the `KataConfig` was read
with, if it gets there. -/
def reachImage (key : Key) : Op Exit (Option KataConfigStatus) := do
  if ← fetchKataConfig key then
    let oldObjStatus := (← reconciler).status
    prepareReconcile settings
    reachThroughBranches settings oldObjStatus
  else return none

def concludeInstallBranch (oldObjStatus : KataConfigStatus) : Except Exit PUnit → Op Exit Result
  | .ok _ => afterInstall oldObjStatus {}
  | .error exit => if exit.err.isSome then Routine.throw exit else afterInstall oldObjStatus exit.result

theorem installBranch_eq (oldObjStatus : KataConfigStatus) : installBranch settings oldObjStatus =
    Routine.attempt (reachPost settings >>= postInstallationIf settings) >>= concludeInstallBranch oldObjStatus := by
  rw [← processInstallRequest_eq]
  refine bind_congr fun result => ?_
  cases result with
  | ok _ => rfl
  | error exit => rfl

/-- `Reconcile` from the creation of the image on. -/
def createImageAndConclude (oldObjStatus : KataConfigStatus) : Op Exit Result :=
  Routine.attempt (orReturn (ImageGenerator.imageCreate settings) >>= afterImageCreation settings) >>=
    concludeInstallBranch oldObjStatus

end Stages

section Staging

variable (settings : Settings) (oldObjStatus : KataConfigStatus)

theorem installBranch_staged : Staged Answered (reachInstallation settings oldObjStatus)
    (createImageAndConclude settings) (installBranch settings oldObjStatus) := by
  rw [installBranch_eq]
  refine staged_attempt fun reached => ?_
  cases reached with
  | false => exact staged_none _
  | true =>
    change Staged Answered _ _ (Routine.attempt (postKataInstallation settings) >>= concludeInstallBranch oldObjStatus)
    rw [postKataInstallation_eq]
    refine staged_attempt fun reached => ?_
    cases reached with
    | false => exact staged_none _
    | true => exact staged_some oldObjStatus

theorem reconcileBranches_staged : Staged Answered (reachThroughBranches settings oldObjStatus)
    (createImageAndConclude settings) (reconcileBranches settings oldObjStatus) := by
  refine staged_bind fun selected => ?_
  cases selected with
  | error error => exact staged_none _
  | ok selector =>
    refine staged_bind fun r => ?_
    change Staged Answered _ _ (if r.leaves then deleteBranch settings >>= fun _ => Pure.pure {}
      else installBranch settings oldObjStatus)
    split
    · exact staged_none _
    · exact installBranch_staged settings oldObjStatus

theorem reconcileRoutine_staged (key : Key) : Staged Answered (reachImage settings key)
    (createImageAndConclude settings) (reconcileRoutine settings key) := by
  refine staged_bind fun found => ?_
  cases found with
  | false => exact staged_none _
  | true => exact staged_bind fun r => staged_bind fun _ => reconcileBranches_staged settings r.status

end Staging

def failureNoted (memory : Reconciler) : Reconciler :=
  memory.setStatus (memory.status.setInProgress .conditionTrue "PodVMImageJobFailed" "Failed to create Pod VM Image")

def afterConfiguration (oldObjStatus : KataConfigStatus) : Except Err PUnit → Op Exit Result
  | .error error => orReturn (Routine.throw error) ⟨true, 15⟩
  | .ok _ => do
    resetInProgressCondition
    afterInstall oldObjStatus {}

/-- A run of `Reconcile` in which the creation of the image fails, with or without an error;
without one, `enablePeerPodsMiscConfigs` is still called. -/
inductive FailedImageRun (settings : Settings) (key : Key) (memory : Reconciler) (s : Cluster) :
    List Exchange → Except Exit Result × Reconciler → Cluster → Option Err → Option (Except Err PUnit) → Prop where
  | withError {status : KataConfigStatus} {reached after : Reconciler} {between s' : Cluster}
      {first creation : List Exchange} {error : Err}
      (reaches : Prog.Runs Answered (reachImage settings key memory) s first (.ok (some status), reached) between)
      (fails : Prog.Runs Answered (ImageGenerator.imageCreate settings reached) between creation
        (.ok (.imageFailed, some error), after) s') :
      FailedImageRun settings key memory s (first ++ creation)
        (.error { result := ⟨true, 15⟩, err := some error }, failureNoted after) s' (some error) none
  | withoutError {status : KataConfigStatus} {reached after configured : Reconciler} {between failed later s' : Cluster}
      {first creation configuration rest : List Exchange} {result : Except Err PUnit}
      {outcome : Except Exit Result × Reconciler}
      (reaches : Prog.Runs Answered (reachImage settings key memory) s first (.ok (some status), reached) between)
      (fails : Prog.Runs Answered (ImageGenerator.imageCreate settings reached) between creation
        (.ok (.imageFailed, none), after) failed)
      (configures : Prog.Runs Answered (enablePeerPodsMiscConfigs settings (failureNoted after)) failed configuration
        (result, configured) later)
      (concludes : Prog.Runs Answered (afterConfiguration status result configured) later rest outcome s') :
      FailedImageRun settings key memory s (first ++ (creation ++ (configuration ++ rest))) outcome s' none (some result)

namespace StoredReports

/-- The server as the operator meets it when its status updates are accepted and nobody
else makes changes. -/
def server : Machine Req Response Cluster where
  answer s r response s' := Answered s r response s' ∧ statusAccepted ⟨r, response⟩ = true
  env _ _ := False

instance (A : Reconciler → Cluster → Prop) : Invariant server .free A where
  stable _ _ _ step := step.elim
  mid _ _ _ := trivial

instance : Reading server where
  seen _ _ := True
  stable _ _ _ step := step.elim
  kept _ _ := trivial
  listed _ _ _ := trivial

def StatusStored (s : Cluster) (name : String) (status : KataConfigStatus) : Prop :=
  ∃ kataConfig, s.find? .kataConfig ⟨"", name⟩ = some kataConfig ∧ statusOf kataConfig = status

theorem StatusStored.failure {s : Cluster} {name : String} {status : KataConfigStatus}
    (stored : StatusStored s name status) : jobFailureStored s name = status.hasReason "PodVMImageJobFailed" := by
  obtain ⟨kataConfig, found, rfl⟩ := stored
  rw [jobFailureStored, found]

structure Kept (start : Cluster) (name : String) (status : KataConfigStatus) (memory : Reconciler) (s : Cluster) :
    Prop where
  first : StatusStored start name status
  now : StatusStored s name status
  named : memory.current.key = ⟨"", name⟩

section Keeping

variable {start : Cluster} {name : String} {status : KataConfigStatus} {settings : Settings}

theorem kept_admits {r : Req} (other : r.writes ≠ some .kataConfig) :
    Admits server .free (Kept start name status) r := by
  refine fun memory s holds => ⟨trivial, fun response s' reply => ⟨holds.first, ?_, holds.named⟩⟩
  obtain ⟨kataConfig, found, same⟩ := holds.now
  refine ⟨kataConfig, ?_, same⟩
  rw [Store.find?, reply.1.objs_eq other]
  exact found

theorem kept_writable {k : Kind} (other : k ≠ .kataConfig) : Writable server .free (Kept start name status) k :=
  fun _ writes => kept_admits fun same => other (Option.some.inj (writes.symm.trans same))

theorem kept_modify {ε : Type} {change : Reconciler → Reconciler}
    (same : ∀ memory, (change memory).current.key = memory.current.key) :
    Maintains server .free (Kept start name status) (Routine.modify change : Op ε PUnit) :=
  maintains_modify fun memory _ holds => ⟨holds.first, holds.now, (same memory).trans holds.named⟩

instance : Pliant server .free (Kept start name status) where
  reads _ reads _ := kept_admits (by simp [reads])
  side k side := kept_writable (by rintro rfl; cases side)
  kataNodes _ _ _ holds := { holds with }
  imageGenerator _ _ _ holds := { holds with }
  conditions _ _ _ _ _ _ := kept_modify fun _ => rfl
  waiting _ _ _ holds := { holds with }

instance : ImageFree (Kept start name status) := ⟨fun _ _ _ holds => { holds with }⟩

instance : KeepsWebhook settings server .free (Kept start name status) :=
  keepsWebhook_of_writable settings fun _ webhook => kept_writable (by rintro rfl; cases webhook)

theorem kept_passes (point : Point) : Passes server .free (Kept start name status) point :=
  fun _ => mark_triple (fun _ _ _ => trivial) fun memory s s' holds reply =>
    (kept_admits (by simp [Request.writes]) memory s holds).2 _ s' reply

theorem kept_commences : Commences server .free (Kept start name status) :=
  ⟨kept_modify fun _ => rfl, kept_modify fun _ => rfl⟩

theorem kept_classes : KeepsClasses settings server .free (Kept start name status) :=
  (kept_writable (by decide)).keepsClasses settings fun _ _ _ holds => { holds with }

theorem ensureFinalizer_kept : Triple server .free (Kept start name status) ensureFinalizer
    (Onward (Kept start name status) fun _ : Except Exit PUnit => fun _ _ => True) := by
  refine ensureFinalizer_stored (fun memory s => Kept start name status memory s ∧
    bearsFinalizer memory.current = true) (fun _ _ holds _ => holds) ?_ ?_
  · exact fun memory s kataConfig holds bears _ sameKey =>
      ⟨⟨holds.first, holds.now, sameKey.trans holds.named⟩, bears⟩
  refine updateKataConfig_triple (fun _ _ _ => trivial) ?_ fun _ _ _ _ _ _ => trivial
  rintro memory s answer s' ⟨holds, bears⟩ reply
  obtain ⟨stored, found, _, rfl, rfl⟩ := reply.1.update_ok
  have pending : Store.finished (Store.updated stored (inScope memory.current)) = false := by
    have some : memory.current.metadata.finalizers ≠ [] := by
      intro none
      simp [bearsFinalizer, none] at bears
    simp [Store.finished, Store.updated, inScope, Kind.namespaced, some]
  have sameKey : (inScope memory.current).key = ⟨"", name⟩ := by
    rw [key_inScope, holds.named]
    rfl
  rw [sameKey] at found
  have written := Store.find?_settle (Store.updated stored (inScope memory.current)) found sameKey rfl
  rw [pending] at written
  obtain ⟨kataConfig, foundNow, same⟩ := holds.now
  cases foundNow.symm.trans found
  exact ⟨holds.first, ⟨_, written, same⟩, sameKey⟩

variable (start name status settings)

theorem reachPost_kept : Triple server .free (Kept start name status) (reachPost settings)
    (Onward (Kept start name status) fun _ : Except Exit PUnit => fun _ _ => True) := by
  have ended (result : Except Exit Bool) (memory : Reconciler) (s : Cluster) (holds : Kept start name status memory s) :
      Onward (Kept start name status) (fun _ : Except Exit PUnit => fun _ _ => True) result memory s := by
    cases result with
    | ok _ => exact holds
    | error _ => trivial
  refine triple_get_bind fun r => Triple.pre (P := Kept start name status) ?_ ?_
  · cases r.deploymentMode with
    | machineConfigMode =>
      exact reachPostInstallation_triple settings (kept_passes _ _) ensureFinalizer_kept kept_commences
        (fun _ => kept_passes _) (fun _ => (kept_writable (by decide)).updatable _)
        (createMc_maintains settings (kept_writable (by decide)))
        (ensureKataOcPool_maintains (kept_writable (by decide))) (fun _ _ _ _ => trivial) ended
    | daemonSetMode =>
      refine Maintains.bind_triple (kept_passes _ _) (fun _ => ?_) fun _ => ended _
      refine Triple.bind (Q := Onward (Kept start name status) fun _ : Except Exit PUnit => fun _ _ => True)
        (prepareInstallationDaemonSet_triple settings (fun _ => (kept_writable (by decide)).updatable _)
          ensureFinalizer_kept (fun _ _ _ _ => trivial) ?_) (fun ds => ?_) fun _ _ _ _ => trivial
      · rintro (_ | _) memory s holds
        · trivial
        · exact holds
      have starts : Maintains server .free (Kept start name status) (ensureInstallDaemonSet ds) :=
        ensureInstallDaemonSet_maintains kept_commences ((kept_writable (by decide)).updatable _)
          (kept_writable (by decide)) ds
      refine Maintains.bind_triple starts (fun _ => ?_) fun _ => ended _
      exact (concludeAgents_maintains kept_commences (kept_passes _)).post ended
  · rintro memory s ⟨rfl, holds⟩
    exact holds

theorem reachImageCreation_kept : Maintains server .free (Kept start name status) (reachImageCreation settings) := by
  have passes : Maintains server .free (Kept start name status) (mark .postKataInstallation : Op Exit PUnit) :=
    kept_passes _ _
  have create (request : RuntimeClassRequest) :
      Maintains server .free (Kept start name status) (createRuntimeClass settings request) := kept_classes.create request
  have monitor : Maintains server .free (Kept start name status) (createDaemonsetForMonitor settings) :=
    createDaemonsetForMonitor_maintains settings (kept_writable (by decide))
  have creation : Maintains server .free (Kept start name status) createPodVMImageCreationNetworkPolicies :=
    ensureNetworkPolicies_maintains _
  have deletion : Maintains server .free (Kept start name status) createPodVMImageDeletionNetworkPolicies :=
    ensureNetworkPolicies_maintains _
  refine maintains_bind passes fun _ => maintains_bind resetInProgressCondition_maintains fun _ => ?_
  refine maintains_bind reconciler_maintains fun r => maintains_bind (orReturn_maintains (create _)) fun _ => ?_
  refine maintains_when (orReturn_maintains (create _)) ?_
  refine maintains_bind (orReturn_maintains createScc_maintains) fun _ => ?_
  refine maintains_bind (orReturn_maintains monitor) fun _ => ?_
  split
  · grind
  · grind

/-- Where `Reconcile` gets to the creation of the image, it has not changed the status it
has read. -/
def Reached : Except Exit (Option KataConfigStatus) → Reconciler → Cluster → Prop
  | .ok (some oldObjStatus) => Kept start name oldObjStatus
  | _ => fun _ _ => True

theorem reachImage_kept (key : Key) : Triple server .free (fun _ s => s = start) (reachImage settings key)
    (Reached start key.name) := by
  have fetches : Triple server .free (fun _ s => s = start) (fetchKataConfig key)
      (AfterFetch (Kept start key.name) fun _ _ => True) := by
    refine fetchKataConfig_triple (fun _ _ => id) (fun _ _ _ => trivial) ?_ fun _ _ _ _ _ _ => ⟨trivial, trivial⟩
    rintro memory s kataConfig s' rfl reply
    obtain ⟨rfl, found⟩ := reply.1.get_ok
    have stored : StatusStored s' key.name (statusOf kataConfig) := ⟨kataConfig, found, rfl⟩
    exact ⟨stored, stored, (Collection.find?_mem found).2⟩
  have prepares (old : KataConfigStatus) : Maintains server .free (Kept start key.name old) (prepareReconcile settings) :=
    prepareReconcile_maintains settings kept_classes fun _ _ _ holds => { holds with }
  have installs (old : KataConfigStatus) : Triple server .free (Kept start key.name old) (reachInstallation settings old)
      (Reached start key.name) := by
    refine Triple.bind (reachPost_kept start key.name old settings) (fun reached => ?_) fun _ _ _ _ => trivial
    cases reached with
    | false => exact triple_pure fun _ _ _ => trivial
    | true =>
      refine Maintains.bind_triple (reachImageCreation_kept start key.name old settings) (fun reached => ?_)
        fun _ _ _ _ => trivial
      cases reached with
      | false => exact triple_pure fun _ _ _ => trivial
      | true => exact triple_pure fun _ _ => id
  have branches (old : KataConfigStatus) : Triple server .free (Kept start key.name old)
      (reachThroughBranches settings old) (Reached start key.name) := by
    refine Maintains.bind_triple (maintains_attempt getKataConfigNodeSelectorAsSelector_maintains) (fun selector => ?_)
      fun _ _ _ _ => trivial
    cases selector with
    | error _ => exact triple_pure fun _ _ _ => trivial
    | ok _ =>
      refine triple_get_bind fun r => Triple.pre (P := Kept start key.name old) ?_ ?_
      · split
        · exact triple_pure fun _ _ _ => trivial
        · exact installs old
      · rintro memory s ⟨rfl, holds⟩
        exact holds
  refine Triple.bind fetches (fun found => ?_) fun _ _ _ _ => trivial
  cases found with
  | false => exact triple_pure fun _ _ _ => trivial
  | true =>
    refine triple_get_bind fun r => Triple.pre (P := Kept start key.name r.status) ?_ ?_
    · exact Maintains.bind_triple (prepares _) (fun _ => branches _) fun _ _ _ _ => trivial
    · rintro memory s ⟨rfl, holds⟩
      exact holds

def Unreported (_ : Reconciler) (s : Cluster) : Prop := jobFailureStored s name = false

variable {start name status settings}

theorem unreported_admits {r : Req} (other : r.writes ≠ some .kataConfig) :
    Admits server .free (Unreported name) r := by
  refine fun memory s holds => ⟨trivial, fun response s' reply => ?_⟩
  rw [Unreported, jobFailureStored, Store.find?, reply.1.objs_eq other]
  exact holds

instance : Tolerant server .free (Unreported name) where
  reads _ reads _ := unreported_admits (by simp [reads])
  side k side _ writes := unreported_admits fun same => by
    cases writes.symm.trans same
    cases side
  kataNodes _ _ _ holds := holds
  imageGenerator _ _ _ holds := holds

theorem afterInstall_unreported : Triple server .free
    (fun memory s => Kept start name status memory s ∧ memory.status.hasReason "PodVMImageJobFailed" = false)
    (afterInstall status {}) fun _ => Unreported name := by
  refine afterInstall_triple status {} (updateKataConfigStatus_triple (fun _ _ _ => trivial) ?_ ?_) ?_
  · rintro memory s answer s' ⟨⟨holds, reset⟩, _⟩ reply
    obtain ⟨stored, found, _, rfl, rfl⟩ := reply.1.updateStatus_ok
    have sameKey : (inScope memory.current).key = ⟨"", name⟩ := by
      rw [key_inScope, holds.named]
      rfl
    rw [sameKey] at found
    have written := Store.find?_settle (Store.statusUpdated stored (inScope memory.current)) found
      (Collection.find?_mem found).2 rfl
    rw [Unreported, jobFailureStored]
    split
    · rfl
    · rename_i kataConfig foundNow
      rw [written] at foundNow
      obtain ⟨_, same⟩ := Option.ite_none_left_eq_some.mp foundNow
      cases same
      exact reset
  · rintro memory s error s' _ ⟨_, accepted⟩
    cases accepted
  · rintro memory s ⟨holds, reset⟩ rfl
    exact holds.now.failure.trans reset

end Keeping

variable {settings : Settings} {key : Key} {memory : Reconciler} {s s' : Cluster} {log : List Exchange}
  {outcome : Except Exit Result × Reconciler} {err : Option Err} {configured : Option (Except Err PUnit)}

theorem isRun (run : FailedImageRun settings key memory s log outcome s' err configured) :
    Prog.Runs Answered (reconcileRoutine settings key memory) s log outcome s' := by
  cases run with
  | @withError _ _ after _ _ _ creation error reaches fails =>
    refine (reconcileRoutine_staged settings key).compose reaches ?_
    rw [← List.append_nil creation]
    refine runs_attempt_bind_ok (runs_orElse fails) ?_
    exact .pure
  | @withoutError _ _ after configured _ _ _ _ _ _ configuration rest result _ reaches fails configures concludes =>
    refine (reconcileRoutine_staged settings key).compose reaches ?_
    refine runs_attempt_bind_ok (runs_orElse fails) ?_
    change Prog.Runs Answered ((Routine.attempt (orReturn (enablePeerPodsMiscConfigs settings) ⟨true, 15⟩ >>=
      fun _ => resetInProgressCondition) >>= concludeInstallBranch _) (failureNoted after)) _ _ _ _
    cases result with
    | error error =>
      cases concludes
      refine runs_bind_ok (runs_attempt (runs_bind_error (runs_orElse configures))) ?_
      cases error <;> exact .pure
    | ok _ => exact runs_attempt_bind_ok (runs_orElse configures) concludes

theorem of_created {status : KataConfigStatus} {reached after : Reconciler} {between later : Cluster}
    {first creation remaining : List Exchange} {failure : Option Err}
    (reaches : Prog.Runs Answered (reachImage settings key memory) s first (.ok (some status), reached) between)
    (fails : Prog.Runs Answered (ImageGenerator.imageCreate settings reached) between creation
      (.ok (.imageFailed, failure), after) later)
    (ends : Prog.Runs Answered ((Routine.attempt (afterImageCreation settings (.imageFailed, failure)) >>=
      concludeInstallBranch status) after) later remaining outcome s') :
    ∃ configured, FailedImageRun settings key memory s (first ++ (creation ++ remaining)) outcome s' failure configured := by
  cases failure with
  | some error =>
    cases ends
    rw [List.append_nil]
    exact ⟨none, .withError reaches fails⟩
  | none =>
    change Prog.Runs Answered ((Routine.attempt (orReturn (enablePeerPodsMiscConfigs settings) ⟨true, 15⟩ >>=
      fun _ => resetInProgressCondition) >>= concludeInstallBranch _) (failureNoted after)) _ _ _ _ at ends
    obtain ⟨_, _, _, configuration, _, ran, rfl, resets, stops⟩ := of_runs_attempt_bind ends
    obtain ⟨result, configures, rfl⟩ := of_runs_orElse ran
    refine ⟨some result, .withoutError reaches fails configures ?_⟩
    cases result with
    | ok _ => exact resets _ rfl
    | error error =>
      replace stops := stops _ rfl
      cases error <;> exact stops

section Outcome

variable {start : Cluster} {memory' : Reconciler} {ε α : Type} {routine : Op ε α} {result : Except ε α}

theorem post_of_runs {P : Reconciler → Cluster → Prop} {Q : Except ε α → Reconciler → Cluster → Prop}
    (triple : Triple server .free P routine Q) (runs : Prog.Runs Answered (routine memory) s log (result, memory') s')
    (accepted : ∀ entry ∈ log, statusAccepted entry = true) (holds : P memory s) : Q result memory' s' :=
  runs.safe (M := server) (fun s => s) (fun answered allowed => ⟨answered, allowed⟩) accepted (triple memory s holds)

theorem failed_kept {status : KataConfigStatus} {reached after : Reconciler} {between : Cluster}
    {first creation : List Exchange} {failure : Option Err}
    (reaches : Prog.Runs Answered (reachImage settings key memory) s first (.ok (some status), reached) between)
    (fails : Prog.Runs Answered (ImageGenerator.imageCreate settings reached) between creation
      (.ok (.imageFailed, failure), after) s')
    (accepted : ∀ entry ∈ first ++ creation, statusAccepted entry = true) :
    Kept s key.name status (failureNoted after) s' := by
  have began : Kept s key.name status reached between := post_of_runs (reachImage_kept s settings key) reaches
    (fun entry member => accepted entry (List.mem_append_left _ member)) rfl
  have ended : Kept s key.name status after s' := post_of_runs (imageCreate_maintains settings) fails
    (fun entry member => accepted entry (List.mem_append_right _ member)) began
  exact { ended with }

theorem Kept.failure {status : KataConfigStatus} {name : String} (kept : Kept start name status memory s) :
    jobFailureStored s name = jobFailureStored start name :=
  kept.now.failure.trans kept.first.failure.symm

end Outcome

section Examples

def served {α : Type} (program : Prog Req Response α) (s : Cluster) : Option (List Exchange × α × Cluster) :=
  program.play (fun fault s r => Fault.answer s r fault) (List.replicate 100 .served) s

theorem served_runs {α : Type} {program : Prog Req Response α} {value : α}
    (played : served program s = some (log, value, s')) : Prog.Runs Answered program s log value s' :=
  Prog.runs_play (fun picked => Fault.answer_sound picked) played

/-- What there is to say about a run in which the creation of the image fails. -/
structure Played where
  log : List Exchange
  outcome : Except Exit Result × Reconciler
  after : Cluster
  err : Option Err
  configured : Option (Except Err PUnit)

def playConfiguration (settings : Settings) (status : KataConfigStatus) (memory : Reconciler) (s : Cluster)
    (log : List Exchange) : Option Played :=
  match served (enablePeerPodsMiscConfigs settings (failureNoted memory)) s with
  | some (configuration, (result, configured), later) =>
    match served (afterConfiguration status result configured) later with
    | some (rest, outcome, s') => some ⟨log ++ (configuration ++ rest), outcome, s', none, some result⟩
    | none => none
  | none => none

def playFailedImage (settings : Settings) (key : Key) (memory : Reconciler) (s : Cluster) : Option Played :=
  match served (reachImage settings key memory) s with
  | some (first, (.ok (some status), reached), between) =>
    match served (ImageGenerator.imageCreate settings reached) between with
    | some (creation, (.ok (.imageFailed, some error), after), s') =>
      some ⟨first ++ creation, (.error { result := ⟨true, 15⟩, err := some error }, failureNoted after), s',
        some error, none⟩
    | some (creation, (.ok (.imageFailed, none), after), failed) =>
      playConfiguration settings status after failed (first ++ creation)
    | _ => none
  | _ => none

theorem playFailedImage_run {played : Played} (plays : playFailedImage settings key memory s = some played) :
    FailedImageRun settings key memory s played.log played.outcome played.after played.err played.configured := by
  unfold playFailedImage at plays
  split at plays
  · rename_i reaches
    split at plays
    · rename_i fails
      cases plays
      exact .withError (served_runs reaches) (served_runs fails)
    · rename_i fails
      unfold playConfiguration at plays
      split at plays
      · rename_i configures
        split at plays
        · rename_i concludes
          cases plays
          rw [List.append_assoc]
          exact .withoutError (served_runs reaches) (served_runs fails) (served_runs configures) (served_runs concludes)
        · cases plays
      · cases plays
    · cases plays
  · cases plays

def peerPodsKataConfig (status : KataConfigStatus) : KataConfig :=
  ⟨{ name := exampleKey.name, finalizers := [kataConfigFinalizer] },
    show KataConfigBody from { spec := { enablePeerPods := true }, status := some status }⟩

def installedCluster (status : KataConfigStatus) (job : JobStatus) : Cluster :=
  ([.create .clusterVersion ⟨{ name := "version" }, show ClusterVersionBody from ⟨"", "release"⟩⟩,
    .create .releaseInfo ⟨{ name := "release" }, show List ReleaseTag from
      [⟨"rhel-coreos-extensions", some "extensions"⟩, ⟨"cli", some "cli"⟩]⟩,
    .create .secret ⟨{ name := "pull-secret", ns := "openshift-config" }, show SecretBody from ⟨∅⟩⟩,
    .create .infrastructure ⟨{ name := "cluster" }, (some "IBMCloud" : Option String)⟩,
    .create .configMap ⟨{ name := "osc-feature-gates", ns := operatorNamespace },
      show ConfigMapBody from ⟨some (StrMap.ofList [("deploymentMode", "DaemonSet")])⟩⟩,
    .create .node exampleNode, nodeReports .installed,
    .create .daemonSet ⟨{ name := (daemonSetKey .installKata).name, ns := operatorNamespace }, show PodTemplate from {}⟩,
    .create .kataConfig (peerPodsKataConfig {}), .updateStatus .kataConfig (peerPodsKataConfig status)] : List Req).foldl
      (fun s r => (s.exec r).2) (ImageReports.reportCluster job)

def imageMemory : Reconciler := { ig := some ImageReports.ibmGenerator }

/-- The run on that cluster, if all its status updates are accepted and it passes the check. -/
def played (status : KataConfigStatus) (job : JobStatus) (check : Played → Bool) : Option Played :=
  (playFailedImage ImageJobs.jobSettings exampleKey imageMemory (installedCluster status job)).filter fun run =>
    run.log.all statusAccepted && check run

theorem played_run (status : KataConfigStatus) (job : JobStatus) (check : Played → Bool)
    (passes : (played status job check).isSome = true) :
    ∃ run : Played, FailedImageRun ImageJobs.jobSettings exampleKey imageMemory (installedCluster status job) run.log
      run.outcome run.after run.err run.configured ∧ (∀ entry ∈ run.log, statusAccepted entry = true) ∧
        check run = true := by
  obtain ⟨run, found⟩ := Option.isSome_iff_exists.mp passes
  obtain ⟨plays, checked⟩ := Option.filter_eq_some_iff.mp found
  obtain ⟨accepted, checks⟩ := Bool.and_eq_true_iff.mp checked
  exact ⟨run, playFailedImage_run plays, List.all_eq_true.mp accepted, checks⟩

end Examples

end StoredReports

section Outcome

open StoredReports

variable {settings : Settings} {key : Key} {memory : Reconciler} {s s' : Cluster} {log : List Exchange}
  {outcome : Except Exit Result × Reconciler} {err : Option Err} {configured : Option (Except Err PUnit)}

/-- The failure of the image creation is in the stored status at the end exactly if it was
there at the beginning, and `Reconcile` returns an error before it stores the status: the one
of the image creation, or one of `enablePeerPodsMiscConfigs`.  Every run of `Reconcile` that
comes to a failed image creation is covered. -/
theorem failedImage_stored_iff :
    (FailedImageRun settings key memory s log outcome s' err configured →
      (∀ entry ∈ log, statusAccepted entry = true) →
      Prog.Runs Answered (reconcileRoutine settings key memory) s log outcome s' ∧
        (jobFailureStored s' key.name = true ↔ jobFailureStored s key.name = true ∧
          (err.isSome = true ∨ ∃ error, configured = some (.error error)))) ∧
    (Prog.Runs Answered (reconcileRoutine settings key memory) s log outcome s' → ∃ result reached between first rest,
      Prog.Runs Answered (reachImage settings key memory) s first (result, reached) between ∧ log = first ++ rest ∧
      ∀ status, result = .ok (some status) → ∃ created after later creation remaining,
        Prog.Runs Answered (ImageGenerator.imageCreate settings reached) between creation (created, after) later ∧
        rest = creation ++ remaining ∧ ∀ failure, created = .ok (.imageFailed, failure) →
          ∃ configured, FailedImageRun settings key memory s log outcome s' failure configured) := by
  constructor
  · intro run accepted
    refine ⟨isRun run, ?_⟩
    cases run with
    | withError reaches fails =>
      have kept := failed_kept reaches fails accepted
      simp [kept.failure]
    | @withoutError status _ after later _ _ _ _ first creation configuration rest result _ reaches fails configures concludes =>
      rw [← List.append_assoc] at accepted
      have kept := failed_kept reaches fails fun entry member => accepted entry (List.mem_append_left _ member)
      have configuring : Kept s key.name status later _ := post_of_runs
        (enablePeerPodsMiscConfigs_maintains settings (kept_writable (by decide)) kept_classes.creates) configures
        (fun entry member => accepted entry (List.mem_append_right _ (List.mem_append_left _ member))) kept
      cases result with
      | error error =>
        cases concludes
        simp [configuring.failure]
      | ok _ =>
        have unreported : Unreported key.name _ _ := post_of_runs afterInstall_unreported concludes
          (fun entry member => accepted entry (List.mem_append_right _ (List.mem_append_right _ member)))
          ⟨{ configuring with }, by simp⟩
        simpa [Unreported] using unreported
  · intro runs
    obtain ⟨result, reached, between, first, rest, reaches, rfl, goes⟩ := (reconcileRoutine_staged settings key).split runs
    refine ⟨result, reached, between, first, rest, reaches, rfl, ?_⟩
    rintro status rfl
    obtain ⟨_, after, later, creation, remaining, ran, rfl, ends, _⟩ := of_runs_attempt_bind (goes status rfl)
    obtain ⟨created, creates, rfl⟩ := of_runs_orElse ran
    refine ⟨created, after, later, creation, remaining, creates, rfl, ?_⟩
    rintro failure rfl
    exact of_created reaches creates (ends _ rfl)

/-- A failure that is stored already stays so while the state of the job cannot be told. -/
theorem failedImage_stored_again : ∃ log outcome s' err configured,
    FailedImageRun ImageJobs.jobSettings exampleKey imageMemory (installedCluster (failureNoted {}).status {}) log outcome
      s' err configured ∧ (∀ entry ∈ log, statusAccepted entry = true) ∧
        jobFailureStored s' exampleKey.name = true := by
  obtain ⟨run, runs, accepted, failed⟩ :=
    played_run (failureNoted {}).status {} (fun run => run.err.isSome) (by decide +kernel)
  exact ⟨_, _, _, _, _, runs, accepted, (failedImage_stored_iff.1 runs accepted).2.mpr ⟨by decide +kernel, .inl failed⟩⟩

/-- With an error the failure is not stored, and without one it has been overwritten. -/
theorem failedImage_unreported : (∃ log outcome s' error,
      FailedImageRun ImageJobs.jobSettings exampleKey imageMemory (installedCluster {} {}) log outcome s' (some error) none ∧
        (∀ entry ∈ log, statusAccepted entry = true) ∧ jobFailureStored s' exampleKey.name = false) ∧
    ∃ log outcome s' configured, FailedImageRun ImageJobs.jobSettings exampleKey imageMemory
        (installedCluster {} { failedCondition := true, failed := 1 }) log outcome s' none configured ∧
        (∀ entry ∈ log, statusAccepted entry = true) ∧ jobFailureStored s' exampleKey.name = false := by
  constructor
  · obtain ⟨⟨log, outcome, s', err, configured⟩, runs, accepted, checked⟩ := played_run {} {}
      (fun run => run.err.isSome && run.configured.isNone && !jobFailureStored run.after exampleKey.name)
      (by decide +kernel)
    simp only [Bool.and_eq_true, Bool.not_eq_true', Option.isSome_iff_exists, Option.isNone_iff_eq_none] at checked
    obtain ⟨⟨⟨error, rfl⟩, rfl⟩, unreported⟩ := checked
    exact ⟨log, outcome, s', error, runs, accepted, unreported⟩
  · obtain ⟨⟨log, outcome, s', err, configured⟩, runs, accepted, checked⟩ := played_run {}
      { failedCondition := true, failed := 1 }
      (fun run => run.err.isNone && !jobFailureStored run.after exampleKey.name) (by decide +kernel)
    simp only [Bool.and_eq_true, Bool.not_eq_true', Option.isNone_iff_eq_none] at checked
    obtain ⟨rfl, unreported⟩ := checked
    exact ⟨log, outcome, s', configured, runs, accepted, unreported⟩

end Outcome

end SandboxedContainers
