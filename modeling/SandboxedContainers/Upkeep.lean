import SandboxedContainers.Reconcile
import SandboxedContainers.Lib.Eval

/-!
# Assertions the operator's routines keep

Most of what the operator does has nothing to do with a given property: it
reads, it writes objects of kinds the property does not mention, and it fills in
parts of its memory the property does not look at.  `Tolerant` says this of an
assertion; the lemmas below then say for every routine what else the assertion
has to put up with for the routine to keep it.
-/

namespace SandboxedContainers

open Lib Routine ImageGenerator

variable {W : Type} {M : Machine Req Response W} {C : Contract Req W} {A B D P R S : Reconciler → W → Prop}
  {Q : Except Exit PUnit → Reconciler → W → Prop}

/-- Issuing the request honours the contract and keeps the assertion. -/
def Admits (M : Machine Req Response W) (C : Contract Req W) (A : Reconciler → W → Prop)
    (r : Req) : Prop :=
  ∀ memory w, A memory w → C.good w r ∧ ∀ response w', M.answer w r response w' → A memory w'

/-- The operator may write any object of the kind. -/
def Writable (M : Machine Req Response W) (C : Contract Req W) (A : Reconciler → W → Prop)
    (k : Kind) : Prop :=
  ∀ r : Req, r.writes = some k → Admits M C A r

/-- The operator may delete any object of the kind. -/
def Deletable (M : Machine Req Response W) (C : Contract Req W) (A : Reconciler → W → Prop)
    (k : Kind) : Prop :=
  ∀ key, Admits M C A (.delete k key)

theorem Writable.deletable {k : Kind} (writable : Writable M C A k) : Deletable M C A k :=
  fun _ => writable _ rfl

/-- Kinds whose objects neither the rollout, the node agents nor the webhook depend on. -/
@[grind =]
def Kind.isSide : Kind → Bool
  | .kataConfig | .node | .daemonSet | .machineConfig | .machineConfigPool | .runtimeClass
  | .deployment | .service | .mutatingWebhookConfiguration => false
  | .pod | .configMap | .secret | .securityContextConstraints | .containerRuntimeConfig
  | .networkPolicy | .nodeFeatureRule | .nodeFeatureDiscovery | .peerPodConfig | .job
  | .clusterVersion | .infrastructure | .proxy | .cloudCredential | .authentication | .file
  | .releaseInfo | .console | .credentialsRequest | .clusterServiceVersion | .consolePlugin => true

/-- The kinds the admission webhook of peer pods is made of. -/
def Kind.isWebhook : Kind → Bool
  | .deployment | .service | .mutatingWebhookConfiguration => true
  | _ => false

/-- An assertion that puts up with reads, with writes to side kinds, and with
changes of the memory that record what was found. -/
class Tolerant (M : Machine Req Response W) (C : Contract Req W) (A : Reconciler → W → Prop) : Prop
    extends Invariant M C A where
  reads : ∀ r : Req, r.writes = none → (∀ m, r ≠ .mark m) → Admits M C A r
  side : ∀ k, k.isSide = true → Writable M C A k
  kataNodes : ∀ (change : KataNodesStatus → KataNodesStatus) (memory : Reconciler) w, A memory w →
    A (memory.setStatus { memory.status with kataNodes := change memory.status.kataNodes }) w
  imageGenerator : ∀ ig (memory : Reconciler) w, A memory w → A { memory with ig := ig } w

/-- An assertion that does not look at what the memory records of nodes and images. -/
def Inessential (A : Reconciler → W → Prop) : Prop :=
  (∀ (change : KataNodesStatus → KataNodesStatus) (memory : Reconciler) w, A memory w →
    A (memory.setStatus { memory.status with kataNodes := change memory.status.kataNodes }) w) ∧
  ∀ ig (memory : Reconciler) w, A memory w → A { memory with ig := ig } w

/-- An assertion that does not look at the layered-image MachineConfig in memory. -/
class ImageFree (A : Reconciler → W → Prop) : Prop where
  free : ∀ imgMc (memory : Reconciler) w, A memory w → A { memory with imgMc := imgMc } w

/-- The assertion lets the operator pass a control point. -/
def Passes (M : Machine Req Response W) (C : Contract Req W) (A : Reconciler → W → Prop)
    (point : Point) : Prop :=
  ∀ ε : Type, Maintains M C A (mark point : Op ε PUnit)

/-- The control points of an installation with MachineConfigs or with DaemonSets. -/
def Point.installs (daemonSets : Bool) : Point → Bool
  | .postKataInstallation => true
  | .installRequest | .samplePool _ => !daemonSets
  | .installRequestDaemonSet | .checkAgents => daemonSets
  | _ => false

/-- The control points of an uninstallation, past the one at the head of the delete branch. -/
def Point.uninstalls (daemonSets : Bool) : Point → Bool
  | .deletionEligible | .removeFinalizer => true
  | .deleteRequest | .unlabelNodes | .chooseTargetPool | .samplePool _ => !daemonSets
  | .deleteRequestDaemonSet | .unlabelNodesDaemonSet | .checkAgents => daemonSets
  | _ => false

/-- The assertion does not depend on which of the other conditions is set. -/
def ConditionFree (M : Machine Req Response W) (C : Contract Req W) (A : Reconciler → W → Prop) :
    Prop :=
  ∀ (ε : Type) value reason message, reason ≠ "Installing" → reason ≠ "Updating" →
    Maintains M C A (setInProgressCondition value reason message : Op ε PUnit)

section Calls

variable [tolerant : Tolerant M C A] {ε α : Type}

theorem ask_maintains {r : Req} (admits : Admits M C A r) : Maintains M C A (ask r : Op ε (Response r)) :=
  maintains_request admits

@[grind ←]
theorem fromApi_maintains (result : Except ApiError α) : Maintains M C A (fromApi result) := by
  cases result with
  | ok value => exact maintains_pure value
  | error error => exact maintains_throw _

theorem call_maintains {r : Req} {k : Response r → Op Err α} (admits : Admits M C A r)
    (rest : ∀ response, Maintains M C A (k response)) : Maintains M C A (ask r >>= k) :=
  maintains_bind (ask_maintains admits) rest

@[grind ←]
theorem clientGet_maintains (k : Kind) (key : Key) : Maintains M C A (clientGet k key) :=
  call_maintains (tolerant.reads _ rfl (by simp)) fun _ => fromApi_maintains _

theorem lookup_maintains {k : Kind} {key : Key} {next : Except Err (Object k) → Op ε α}
    (rest : ∀ found, Maintains M C A (next found)) :
    Maintains M C A (Routine.attempt (clientGet k key) >>= next) :=
  Triple.attempt_bind (clientGet_maintains k key) rest

@[grind ←]
theorem clientList_maintains (k : Kind) (selector : Selector) : Maintains M C A (clientList k selector) :=
  call_maintains (tolerant.reads _ rfl (by simp)) fun _ => fromApi_maintains _

@[grind ←]
theorem clientCreate_maintains {k : Kind} (writable : Writable M C A k) (object : Object k) :
    Maintains M C A (clientCreate object) :=
  call_maintains (writable _ rfl) fun _ => fromApi_maintains _

@[grind ←]
theorem clientUpdate_maintains {k : Kind} (writable : Writable M C A k) (object : Object k) :
    Maintains M C A (clientUpdate object) :=
  call_maintains (writable _ rfl) fun _ => fromApi_maintains _

@[grind ←]
theorem clientPatch_maintains {k : Kind} (writable : Writable M C A k) (key : Key)
    (change : Kind.Body k → Kind.Body k) : Maintains M C A (clientPatch k key change) :=
  call_maintains (writable _ rfl) fun _ => fromApi_maintains _

@[grind ←]
theorem clientDelete_maintains {k : Kind} (deletable : Deletable M C A k) (key : Key) :
    Maintains M C A (clientDelete k key) :=
  call_maintains (deletable _) fun _ => fromApi_maintains _

@[grind ←]
theorem side_writable {k : Kind} (side : k.isSide = true) : Writable M C A k := tolerant.side k side

@[grind ←]
theorem side_deletable {k : Kind} (side : k.isSide = true) : Deletable M C A k :=
  (tolerant.side k side).deletable

@[grind ←]
theorem reconciler_maintains : Maintains M C A (reconciler : Op ε Reconciler) := maintains_get

@[grind ←]
theorem caught_maintains {routine : Op Err α} (kept : Maintains M C A routine) :
    Maintains M C A (caught routine) := by
  refine maintains_bind (maintains_attempt kept) fun result => ?_
  split
  · exact maintains_throw _
  · exact maintains_pure _

@[grind ←]
theorem orReturn_maintains {routine : Op Err α} {result : Result} (kept : Maintains M C A routine) :
    Maintains M C A (orReturn routine result) := maintains_orElse kept

@[grind ←]
theorem orRetry_maintains {routine : Op Err α} {result : Result} (kept : Maintains M C A routine) :
    Maintains M C A (orRetry routine result) := maintains_orElse kept

@[grind ←]
theorem createOrUpdate_maintains {k : Kind} (writable : Writable M C A k) (key : Key)
    (blank : Kind.Body k) {mutate : Object k → Op Err (Object k)}
    (kept : ∀ object, Maintains M C A (mutate object)) :
    Maintains M C A (createOrUpdate k key blank mutate) := by
  unfold createOrUpdate
  grind

end Calls

section Helpers

variable [tolerant : Tolerant M C A] {ε : Type}

@[grind ←]
theorem setKataNodes_maintains (change : KataNodesStatus → KataNodesStatus) :
    Maintains M C A (setKataNodes change : Op ε PUnit) :=
  maintains_modify (tolerant.kataNodes change)

@[grind ←]
theorem setImgMc_maintains [image : ImageFree A] (imgMc : Option MachineConfig) :
    Maintains M C A (setImgMc imgMc : Op ε PUnit) :=
  maintains_modify (image.free imgMc)

@[grind ←]
theorem refreshImgMc_maintains [image : ImageFree A] (answer : MachineConfig) :
    Maintains M C A (refreshImgMc answer : Op ε PUnit) :=
  maintains_modify fun memory => image.free _ memory

@[grind ←]
theorem isKindAvailable_maintains (k : Kind) (dummy : String) :
    Maintains M C A (isKindAvailable k dummy) := by
  unfold isKindAvailable
  grind

@[grind ←]
theorem checkConvergedCluster_maintains : Maintains M C A checkConvergedCluster := by
  unfold checkConvergedCluster isMachineConfigPoolAvailable
  grind

@[grind ←]
theorem getMcpName_maintains : Maintains M C A getMcpName := by
  unfold getMcpName
  grind

@[grind ←]
theorem isConvergedAndKnown_maintains : Maintains M C A (isConvergedAndKnown : Op ε Bool) := by
  unfold isConvergedAndKnown
  grind

@[grind ←]
theorem getNodeSelectorAsMap_maintains :
    Maintains M C A (getNodeSelectorAsMap : Op ε (List (String × String))) := by
  unfold getNodeSelectorAsMap
  grind

@[grind ←]
theorem getKataConfigNodeSelectorAsSelector_maintains :
    Maintains M C A getKataConfigNodeSelectorAsSelector := by
  unfold getKataConfigNodeSelectorAsSelector getKataConfigNodeSelectorAsLabelSelector
  grind

@[grind ←]
theorem getNodesWithLabels_maintains (nodeLabels : List (String × String)) :
    Maintains M C A (getNodesWithLabels nodeLabels) := clientList_maintains _ _

@[grind ←]
theorem setControllerReference_maintains {k : Kind} (object : Object k) :
    Maintains M C A (setControllerReference object) := by
  unfold setControllerReference
  grind

@[grind ←]
theorem deleteIfPresent_maintains {k : Kind} (deletable : Deletable M C A k) (key : Key) :
    Maintains M C A (deleteIfPresent k key) := by
  unfold deleteIfPresent
  grind

@[grind ←]
theorem putData_maintains (configMap : ConfigMap) (key value : String) :
    Maintains M C A (putData configMap key value) := by
  unfold putData
  grind

@[grind ←]
theorem assignData_maintains (configMap : ConfigMap) (update : Bool)
    (newData : List (String × String)) : Maintains M C A (assignData configMap update newData) := by
  fun_induction assignData configMap update newData <;> grind

@[grind ←]
theorem updateConfigMap_maintains (settings : Settings) (cmName : String)
    (newData keysToRemove : List (String × String)) :
    Maintains M C A (updateConfigMap settings cmName newData keysToRemove) := by
  unfold updateConfigMap
  grind

@[grind ←]
theorem migratePeerPodsLimit_maintains : Maintains M C A migratePeerPodsLimit := by
  unfold migratePeerPodsLimit deletePeerPodConfig
  refine lookup_maintains fun found => ?_
  split
  · grind
  · split
    · grind
    · refine lookup_maintains fun configMap => ?_
      split <;> grind

@[grind ←]
theorem getClusterVersion_maintains : Maintains M C A getClusterVersion := by
  unfold getClusterVersion
  grind

@[grind ←]
theorem getCloudProviderFromInfra_maintains : Maintains M C A getCloudProviderFromInfra := by
  unfold getCloudProviderFromInfra
  grind

@[grind ←]
theorem readFile_maintains (path : String) : Maintains M C A (readFile path) := by
  unfold readFile
  grind

@[grind ←]
theorem generateTrustedCAVolumeConfig_maintains :
    Maintains M C A (generateTrustedCAVolumeConfig : Op ε (Option (Volume × VolumeMount))) := by
  have create (bundle : ConfigMap) :
      Maintains M C A (setControllerReference bundle >>= clientCreate) := by grind
  unfold generateTrustedCAVolumeConfig
  refine lookup_maintains fun found => ?_
  split <;> grind

@[grind ←]
theorem createAuthJsonSecret_maintains : Maintains M C A createAuthJsonSecret := by
  unfold createAuthJsonSecret
  grind

@[grind ←]
theorem versionOf_maintains (k : Kind) (key : Key) : Maintains M C A (versionOf k key) := by
  unfold versionOf
  grind

@[grind ←]
theorem getEffectiveProxyEnvVars_maintains (settings : Settings) :
    Maintains M C A (getEffectiveProxyEnvVars settings) := by
  unfold getEffectiveProxyEnvVars getProxyCREnvVars
  grind

end Helpers

section Images

variable [tolerant : Tolerant M C A] (settings : Settings)

@[grind ←]
theorem newImageGenerator_maintains : Maintains M C A (newImageGenerator settings) := by
  have provider : Maintains M C A (cloudProvider settings) := by
    unfold cloudProvider
    grind
  have clusterID : Maintains M C A getClusterID := by
    unfold getClusterID
    grind
  unfold newImageGenerator
  split
  · grind
  · refine maintains_bind (maintains_orElse (readFile_maintains _)) fun content => ?_
    split <;> grind

@[grind ←]
theorem initializeImageGenerator_maintains : Maintains M C A (initializeImageGenerator settings) := by
  refine maintains_bind reconciler_maintains fun r => ?_
  split
  · grind
  · refine maintains_bind (newImageGenerator_maintains settings) fun ig => ?_
    exact maintains_bind (maintains_modify (tolerant.imageGenerator (some ig))) fun _ =>
      maintains_pure _

@[grind ←]
theorem isImageIDSet_maintains {ε : Type} (ig : ImageGenerator) :
    Maintains M C A (ig.isImageIDSet : Op ε Bool) := by
  unfold isImageIDSet getPeerPodsCM
  grind

@[grind ←]
theorem validatePeerPodsConfigs_maintains (ig : ImageGenerator) :
    Maintains M C A ig.validatePeerPodsConfigs := by
  unfold validatePeerPodsConfigs getPeerPodsCM
  grind

@[grind ←]
theorem putImageVersion_maintains (ig : ImageGenerator) (cm : ConfigMap) :
    Maintains M C A (ig.putImageVersion cm) := by
  unfold putImageVersion
  split <;> grind

@[grind ←]
theorem createImageConfigMapFromFile_maintains (ig : ImageGenerator) :
    Maintains M C A (createImageConfigMapFromFile settings ig) := by
  unfold createImageConfigMapFromFile
  refine lookup_maintains fun found => ?_
  split <;> grind

@[grind ←]
theorem updateImageConfigMap_maintains (ig : ImageGenerator) :
    Maintains M C A (updateImageConfigMap settings ig) := by
  unfold updateImageConfigMap wantedImageConfigMap
  grind

@[grind ←]
theorem createJobFromFile_maintains (ig : ImageGenerator) (jobFileName : String) :
    Maintains M C A (createJobFromFile settings ig jobFileName) := by
  unfold createJobFromFile getImageID getPeerPodsCM
  grind

@[grind ←]
theorem checkJobStatus_maintains (key : Key) : Maintains M C A (checkJobStatus key) := by
  unfold checkJobStatus
  grind

@[grind ←]
theorem finishJob_maintains (job : Job) (status : ImageStatus) : Maintains M C A (finishJob job status) := by
  unfold finishJob deleteJob
  grind

@[grind ←]
theorem createJob_maintains (job : Job) : Maintains M C A (createJob job) := by
  unfold createJob
  grind

@[grind ←]
theorem imageJobRunner_maintains (ig : ImageGenerator) (filename : String) (wanted : Bool)
    (success : ImageStatus) :
    Maintains M C A (imageJobRunner settings ig filename wanted success) := by
  unfold imageJobRunner
  refine maintains_bind (caught_maintains (createJobFromFile_maintains _ _ _)) fun result => ?_
  split <;> grind

theorem runSteps_maintains {steps : List (Op Err PUnit × Err)}
    (kept : ∀ step ∈ steps, Maintains M C A step.1) :
    Maintains M C A (runSteps steps) := by
  induction steps with
  | nil => exact maintains_pure _
  | cons step rest ih =>
    unfold runSteps
    grind

theorem withGenerator_maintains {steps : ImageGenerator → List (Op Err PUnit × Err)}
    {job : ImageGenerator → Op Err (ImageStatus × Option Err)}
    (stepsKept : ∀ ig, ∀ step ∈ steps ig, Maintains M C A step.1)
    (jobKept : ∀ ig, Maintains M C A (job ig)) :
    Maintains M C A (withGenerator settings steps job) := by
  have runs (ig : ImageGenerator) : Maintains M C A (runSteps (steps ig)) :=
    runSteps_maintains (stepsKept ig)
  unfold withGenerator
  grind

@[grind ←]
theorem imageCreate_maintains : Maintains M C A (imageCreate settings) := by
  apply withGenerator_maintains
  · grind
  · exact fun ig => imageJobRunner_maintains settings ig _ _ _

@[grind ←]
theorem imageDelete_maintains : Maintains M C A (imageDelete settings) := by
  apply withGenerator_maintains
  · grind
  · exact fun ig => imageJobRunner_maintains settings ig _ _ _

end Images

section Preparation

variable [tolerant : Tolerant M C A] (settings : Settings)

/-- The list of runtime classes may grow and shrink. -/
def ClassesFree (A : Reconciler → W → Prop) : Prop :=
  ∀ (memory : Reconciler) w classes, A memory w →
    A (memory.setStatus { memory.status with runtimeClasses := classes }) w

/-- The deployment mode may be decided anew. -/
def ModeFree (A : Reconciler → W → Prop) : Prop :=
  ∀ (memory : Reconciler) w mode, A memory w → A { memory with deploymentMode := mode } w

@[grind ←]
theorem applyRuntimeClass_maintains (writable : Writable M C A .runtimeClass) (rc : RuntimeClass) :
    Maintains M C A (applyRuntimeClass rc) := by
  unfold applyRuntimeClass
  refine lookup_maintains fun found => ?_
  split <;> grind

@[grind ←]
theorem wantedRuntimeClass_maintains (request : RuntimeClassRequest) :
    Maintains M C A (wantedRuntimeClass settings request) := by
  unfold wantedRuntimeClass
  grind

@[grind ←]
theorem hasEligibleNodes_maintains (request : RuntimeClassRequest) :
    Maintains M C A (hasEligibleNodes request) := by
  unfold hasEligibleNodes
  grind

theorem recordRuntimeClass_eq (name : String) (status : KataConfigStatus) :
    recordRuntimeClass name status = { status with runtimeClasses :=
      (if status.runtimeClasses.contains name then status.runtimeClasses
      else status.runtimeClasses ++ [name]) } := by
  unfold recordRuntimeClass
  split <;> rfl

@[grind ←]
theorem createRuntimeClass_maintains (writable : Writable M C A .runtimeClass)
    (classesFree : ClassesFree A) (request : RuntimeClassRequest) :
    Maintains M C A (createRuntimeClass settings request) := by
  have record : Maintains M C A (setStatus (recordRuntimeClass request.name) : Op Err PUnit) := by
    refine maintains_modify fun memory w holds => ?_
    rw [recordRuntimeClass_eq]
    exact classesFree memory w _ holds
  unfold createRuntimeClass
  grind

@[grind ←]
theorem deleteRuntimeClass_maintains (deletable : Deletable M C A .runtimeClass)
    (classesFree : ClassesFree A) (name : String) : Maintains M C A (deleteRuntimeClass name) := by
  have forget : Maintains M C A (setStatus (forgetRuntimeClass name) : Op Err PUnit) :=
    maintains_modify fun memory w holds => classesFree memory w _ holds
  unfold deleteRuntimeClass
  refine lookup_maintains fun found => ?_
  split <;> grind

@[grind ←]
theorem ensureFinalizers_maintains (writable : Writable M C A .runtimeClass) (names : List String) :
    Maintains M C A (ensureFinalizers names) := by
  induction names with
  | nil => exact maintains_pure _
  | cons name rest ih =>
    refine lookup_maintains fun found => ?_
    split <;> grind

/-- What the operator does to runtime classes, and to their names in the status,
keeps the assertion. -/
structure KeepsClasses (settings : Settings) (M : Machine Req Response W) (C : Contract Req W)
    (A : Reconciler → W → Prop) : Prop where
  create : ∀ request, Maintains M C A (createRuntimeClass settings request)
  delete : ∀ name, Maintains M C A (deleteRuntimeClass name)
  finalizers : ∀ names, Maintains M C A (ensureFinalizers names)

/-- The runtime classes an installation brings along. -/
def installedClasses : List String :=
  [kataRuntimeClassName, kataNvidiaGPURuntimeClassName, peerpodsRuntimeClassName]

/-- Creating the runtime classes of an installation keeps the assertion. -/
def CreatesClasses (settings : Settings) (M : Machine Req Response W) (C : Contract Req W)
    (A : Reconciler → W → Prop) : Prop :=
  ∀ request : RuntimeClassRequest, request.name ∈ installedClasses →
    Maintains M C A (createRuntimeClass settings request)

omit tolerant in
theorem KeepsClasses.creates {settings : Settings} (classes : KeepsClasses settings M C A) : CreatesClasses settings M C A :=
  fun request _ => classes.create request

theorem Writable.keepsClasses (writable : Writable M C A .runtimeClass) (classesFree : ClassesFree A) :
    KeepsClasses settings M C A where
  create := createRuntimeClass_maintains settings writable classesFree
  delete := deleteRuntimeClass_maintains writable.deletable classesFree
  finalizers := ensureFinalizers_maintains writable

@[grind ←]
theorem computeTEE_maintains : Maintains M C A computeTEE := by
  unfold computeTEE
  grind

@[grind ←]
theorem handleConfidentialBaremetal_maintains (classes : KeepsClasses settings M C A)
    (state : FeatureGateState) : Maintains M C A (handleConfidentialBaremetal settings state) := by
  have create := classes.create
  have delete := classes.delete
  unfold handleConfidentialBaremetal
  split
  · refine maintains_bind (maintains_attempt computeTEE_maintains) fun tee => ?_
    split <;> grind
  · grind

@[grind ←]
theorem updateConfigMapIfPresent_maintains (cmName : String) (newData keysToRemove : List (String × String)) :
    Maintains M C A (updateConfigMapIfPresent settings cmName newData keysToRemove) := by
  unfold updateConfigMapIfPresent
  grind

@[grind ←]
theorem handleConfidentialPeerPods_maintains (state : FeatureGateState) :
    Maintains M C A (handleConfidentialPeerPods settings state) := by
  have image (ig : ImageGenerator) : Maintains M C A (configureConfidentialImage settings ig state) := by
    unfold configureConfidentialImage
    grind
  refine maintains_bind (initializeImageGenerator_maintains settings) fun ig => ?_
  split <;> grind

@[grind ←]
theorem handleDeploymentModeFeature_maintains (modeFree : ModeFree A)
    (mode : DeploymentModeOption) : Maintains M C A (handleDeploymentModeFeature mode) := by
  have store (mode : DeploymentMode) : Maintains M C A (setDeploymentMode mode : Op Err PUnit) :=
    maintains_modify fun memory w => modeFree memory w mode
  unfold handleDeploymentModeFeature isMachineConfigAvailable
  grind

@[grind ←]
theorem handleLayeredImageDeploymentFeature_maintains [ImageFree A] (state : FeatureGateState) :
    Maintains M C A (handleLayeredImageDeploymentFeature state) := by
  have existing : Maintains M C A getExistingMachineConfig := by
    unfold getExistingMachineConfig
    grind
  have wanted (cm : ConfigMap) : Maintains M C A (createMachineConfigFromConfigMap cm) := by
    unfold createMachineConfigFromConfigMap
    grind
  unfold handleLayeredImageDeploymentFeature
  refine maintains_bind existing fun found => ?_
  split <;> grind

/-- What a reconciliation does before it branches: `B` holds once the layered image is
decided, which is skipped in DaemonSet mode. -/
theorem prepareReconcile_triple [Invariant M C B] [Invariant M C R]
    (finalizers : ∀ names, Maintains M C A (ensureFinalizers names))
    (baremetal : ∀ state, Maintains M C A (handleConfidentialBaremetal settings state)) (modeFree : ModeFree A)
    (layered : ∀ state, Triple M C A (handleLayeredImageDeploymentFeature state)
      (Onward B fun _ : Except Err PUnit => R))
    (skipped : ∀ memory w, A memory w → memory.deploymentMode = .daemonSetMode → B memory w)
    (stopped : ∀ memory w, A memory w → R memory w) :
    Triple M C A (prepareReconcile settings) (Onward B fun _ : Except Exit PUnit => R) := by
  have gates : Maintains M C A newFeatureGateStatus := by
    unfold newFeatureGateStatus
    grind
  have confidential (state : FeatureGateState) :
      Maintains M C A (handleFeatureConfidential settings state) := by
    unfold handleFeatureConfidential
    grind
  have ensure : Maintains M C A ensureRuntimeClassFinalizers := by
    unfold ensureRuntimeClassFinalizers
    grind
  have features : Triple M C A (processFeatureGates settings) (Onward B fun _ : Except Err PUnit => R) := by
    refine Maintains.bind_triple gates (fun status => ?_) fun _ => stopped
    refine Maintains.bind_triple (confidential _) (fun _ => ?_) fun _ => stopped
    refine Maintains.bind_triple (handleDeploymentModeFeature_maintains modeFree _) (fun _ => ?_) fun _ => stopped
    refine triple_get_ite ((layered _).given) ?_
    refine Triple.pre (P := B) (triple_pure fun _ _ => id) fun memory w holds => ?_
    exact skipped memory w holds.1 (by simpa using holds.2)
  refine Maintains.bind_triple (orReturn_maintains migratePeerPodsLimit_maintains) (fun _ => ?_) fun _ => stopped
  refine Maintains.bind_triple (orReturn_maintains ensure) (fun _ => ?_) fun _ => stopped
  refine Triple.orElse (features.post ?_)
  rintro (_ | _) memory w holds
  · exact holds
  · exact holds

theorem prepareReconcile_maintains [ImageFree A] (classes : KeepsClasses settings M C A) (modeFree : ModeFree A) :
    Maintains M C A (prepareReconcile settings) := by
  refine Triple.post (prepareReconcile_triple (B := A) (R := A) settings classes.finalizers
    (handleConfidentialBaremetal_maintains settings classes) modeFree
    (fun state => (handleLayeredImageDeploymentFeature_maintains state).steadily) (fun _ _ holds _ => holds)
    fun _ _ => id) ?_
  rintro (_ | _) memory w holds
  · exact holds
  · exact holds

end Preparation

section Operands

variable [tolerant : Tolerant M C A] (settings : Settings) {ε : Type}

@[grind ←]
theorem ensureNetworkPolicies_maintains (policies : List (String × NetworkPolicySpec)) :
    Maintains M C A (ensureNetworkPolicies policies) := by
  induction policies with
  | nil => exact maintains_pure _
  | cons policy rest ih =>
    unfold ensureNetworkPolicies ensureNetworkPolicy
    grind

@[grind ←]
theorem deleteNetworkPolicies_maintains (names : List String) :
    Maintains M C A (deleteNetworkPolicies names) := by
  induction names with
  | nil => exact maintains_pure _
  | cons name rest ih =>
    unfold deleteNetworkPolicies deleteNetworkPolicy
    grind

@[grind ←]
theorem createScc_maintains : Maintains M C A createScc := by
  unfold createScc
  grind

@[grind ←]
theorem deleteScc_maintains : Maintains M C A deleteScc := by
  unfold deleteScc
  grind

@[grind ←]
theorem processDaemonsetForMonitor_maintains (certVersion : String) :
    Maintains M C A (processDaemonsetForMonitor settings certVersion : Op ε DaemonSet) := by
  unfold processDaemonsetForMonitor
  grind

@[grind ←]
theorem createDaemonsetForMonitor_maintains (writable : Writable M C A .daemonSet) :
    Maintains M C A (createDaemonsetForMonitor settings) := by
  have policies : Maintains M C A createKataMonitorNetworkPolicies :=
    ensureNetworkPolicies_maintains _
  have version : Maintains M C A (getSecretVersion "kata-monitor-certs") := versionOf_maintains _ _
  unfold createDaemonsetForMonitor
  refine maintains_bind version fun certVersion => ?_
  refine maintains_bind (processDaemonsetForMonitor_maintains _ _) fun ds => ?_
  grind

@[grind ←]
theorem deleteDaemonsetForMonitor_maintains (deletable : Deletable M C A .daemonSet) :
    Maintains M C A (deleteDaemonsetForMonitor settings) := by
  unfold deleteDaemonsetForMonitor deleteKataMonitorNetworkPolicies
  grind

@[grind ←]
theorem deleteNodeFeatureRule_maintains : Maintains M C A deleteNodeFeatureRule := by
  unfold deleteNodeFeatureRule
  grind

@[grind ←]
theorem reconcileNodeFeatureRule_maintains : Maintains M C A reconcileNodeFeatureRule := by
  have installed : Maintains M C A checkNFDInstalled := by
    refine maintains_bind (maintains_attempt (clientList_maintains _ _)) fun found => ?_
    split <;> split
    · exact maintains_throw _
    · exact maintains_throw _
    · exact maintains_throw _
    · exact maintains_pure _
  have ensure : Maintains M C A ensureNodeFeatureRule := by
    unfold ensureNodeFeatureRule
    grind
  have present : Maintains M C A nodeFeatureRuleExists := by
    unfold nodeFeatureRuleExists
    grind
  unfold reconcileNodeFeatureRule
  grind

@[grind ←]
theorem checkInstallPreconditions_maintains : Maintains M C A checkInstallPreconditions := by
  have eligible : Maintains M C A checkNodeEligibility := by
    unfold checkNodeEligibility
    grind
  unfold checkInstallPreconditions
  grind

@[grind ←]
theorem processLogLevel_maintains (logLevel : String) : Maintains M C A (processLogLevel logLevel) := by
  unfold processLogLevel
  grind

@[grind ←]
theorem removeLogLevel_maintains : Maintains M C A removeLogLevel := by
  unfold removeLogLevel
  grind

@[grind ←]
theorem processDashboardConfigMap_maintains :
    Maintains M C A (processDashboardConfigMap : Op ε (Option ConfigMap)) := by
  unfold processDashboardConfigMap
  grind

@[grind ←]
theorem installDashboard_maintains (cMap : ConfigMap) (res : Result) :
    Maintains M C A (installDashboard cMap res) := by
  unfold installDashboard
  grind

end Operands

section PeerPods

variable [tolerant : Tolerant M C A] (settings : Settings)

@[grind ←]
theorem configureCAA_maintains (ds : DaemonSet) (cmVersion : String) :
    Maintains M C A (configureCAA settings ds cmVersion) := by
  unfold configureCAA
  grind

@[grind ←]
theorem configureCAAProvider_maintains (ds : DaemonSet) : Maintains M C A (configureCAAProvider ds) := by
  have tokenBased {ε : Type} : Maintains M C A (isClusterInTokenBasedAuthMode : Op ε Bool) := by
    unfold isClusterInTokenBasedAuthMode
    grind
  unfold configureCAAProvider
  refine maintains_bind (maintains_orElse getCloudProviderFromInfra_maintains) fun provider => ?_
  split <;> grind

/-- Putting up and taking down the admission webhook keeps the assertion. -/
class KeepsWebhook (settings : Settings) (M : Machine Req Response W) (C : Contract Req W)
    (A : Reconciler → W → Prop) : Prop where
  createDeployment : Maintains M C A (createMutatingWebhookDeployment settings)
  createService : Maintains M C A (createMutatingWebhookService settings)
  createConfig : Maintains M C A (createMutatingWebhookConfig settings)
  deleteDeployment : Maintains M C A (deleteMutatingWebhookDeployment settings)
  deleteService : Maintains M C A (deleteMutatingWebhookService settings)
  deleteConfig : Maintains M C A deleteMutatingWebhookConfig

theorem keepsWebhook_of_writable (writable : ∀ k, k.isWebhook = true → Writable M C A k) :
    KeepsWebhook settings M C A where
  createDeployment := createOrUpdate_maintains (writable _ rfl) _ _ fun _ => maintains_pure _
  createService := createOrUpdate_maintains (writable _ rfl) _ _ fun _ => maintains_pure _
  createConfig := createOrUpdate_maintains (writable _ rfl) _ _ fun _ => maintains_pure _
  deleteDeployment := deleteIfPresent_maintains (writable _ rfl).deletable _
  deleteService := deleteIfPresent_maintains (writable _ rfl).deletable _
  deleteConfig := deleteIfPresent_maintains (writable _ rfl).deletable _

@[grind ←]
theorem enablePeerPodsMiscConfigs_maintains [webhook : KeepsWebhook settings M C A]
    (writable : Writable M C A .daemonSet) (creates : CreatesClasses settings M C A) :
    Maintains M C A (enablePeerPodsMiscConfigs settings) := by
  have policies : Maintains M C A createPeerPodsWebhookNetworkPolicies :=
    ensureNetworkPolicies_maintains _
  have version : Maintains M C A (getConfigMapVersion peerpodsCMName) := versionOf_maintains _ _
  unfold enablePeerPodsMiscConfigs
  refine maintains_bind version fun cmVersion => ?_
  split
  · exact maintains_throw _
  · refine maintains_bind (createOrUpdate_maintains writable _ _ fun ds => ?_) fun _ => ?_
    · grind
    · refine maintains_bind policies fun _ => maintains_bind webhook.createDeployment fun _ => ?_
      refine maintains_bind webhook.createService fun _ => ?_
      exact maintains_bind webhook.createConfig fun _ => creates _ (by decide)

omit tolerant in
/-- Taking the webhook down: `A` holds until its configuration is deleted, and `B`
afterwards. -/
theorem disablePeerPodsMiscConfigs_triple [Tolerant M C B] {Q : Except Err PUnit → Reconciler → W → Prop}
    (daemonSet : Triple M C A (deleteIfPresent .daemonSet (caaKey settings)) (Onward A Q))
    (deployment : Triple M C A (deleteMutatingWebhookDeployment settings) (Onward A Q))
    (service : Triple M C A (deleteMutatingWebhookService settings) (Onward A Q))
    (config : Triple M C A deleteMutatingWebhookConfig (Onward B Q))
    (ended : ∀ result memory w, B memory w → Q result memory w) :
    Triple M C A (disablePeerPodsMiscConfigs settings) Q := by
  have policies : Maintains M C B deletePeerPodsWebhookNetworkPolicies :=
    deleteNetworkPolicies_maintains _
  have creation : Maintains M C B deletePodVMImageCreationNetworkPolicies :=
    deleteNetworkPolicies_maintains _
  have deletion : Maintains M C B deletePodVMImageDeletionNetworkPolicies :=
    deleteNetworkPolicies_maintains _
  refine Triple.andThen daemonSet fun _ => ?_
  refine Triple.andThen deployment fun _ => ?_
  refine Triple.andThen service fun _ => ?_
  refine Triple.andThen config fun _ => ?_
  refine Maintains.bind_triple policies (fun _ => ?_) fun _ => ended _
  exact Maintains.bind_triple creation (fun _ => deletion.post ended) fun _ => ended _

@[grind ←]
theorem disablePeerPodsMiscConfigs_maintains [webhook : KeepsWebhook settings M C A]
    (deletable : Deletable M C A .daemonSet) :
    Maintains M C A (disablePeerPodsMiscConfigs settings) := by
  exact disablePeerPodsMiscConfigs_triple settings
    ((deleteIfPresent_maintains deletable _).steadily)
    (webhook.deleteDeployment.steadily)
    (webhook.deleteService.steadily)
    (webhook.deleteConfig.steadily) fun _ _ _ => id

omit tolerant in
theorem ConditionFree.setter (free : ConditionFree M C A) {ε : Type} (value : ConditionStatus)
    (reason message : String) (notInstalling : reason ≠ "Installing" := by decide)
    (notUpdating : reason ≠ "Updating" := by decide) :
    Maintains M C A (setInProgressCondition value reason message : Op ε PUnit) :=
  free ε value reason message notInstalling notUpdating

@[grind ←]
theorem requeueWith_maintains {α : Type} (err : Option Err) :
    Maintains M C A (requeueWith err : Op Exit α) := maintains_throw _

@[grind ←]
theorem deletePodVMImage_maintains (free : ConditionFree M C A) :
    Maintains M C A (deletePodVMImage settings) := by
  unfold deletePodVMImage
  refine maintains_bind (orReturn_maintains (imageDelete_maintains settings)) fun outcome => ?_
  split
  · exact free.setter _ _ _
  · exact free.setter _ _ _
  · exact maintains_bind (free.setter _ _ _) fun _ => requeueWith_maintains _
  · refine maintains_bind (free.setter _ _ _) fun _ => ?_
    grind
  · exact maintains_bind (free.setter _ _ _) fun _ => requeueWith_maintains _
  · exact maintains_pure _

theorem handleImageCreate_maintains (free : ConditionFree M C A)
    (outcome : ImageStatus × Option Err) : Maintains M C A (handleImageCreate outcome) := by
  unfold handleImageCreate
  split
  · exact free.setter _ _ _
  · exact free.setter _ _ _
  · exact maintains_bind (free.setter _ _ _) fun _ => requeueWith_maintains _
  · refine maintains_bind (free.setter _ _ _) fun _ => ?_
    grind
  · exact maintains_bind (free.setter _ _ _) fun _ => requeueWith_maintains _
  · exact maintains_pure _

@[grind ←]
theorem enablePeerPods_maintains [KeepsWebhook settings M C A] (free : ConditionFree M C A) (writable : Writable M C A .daemonSet)
    (creates : CreatesClasses settings M C A) :
    Maintains M C A (enablePeerPods settings) := by
  have reset : Maintains M C A (resetInProgressCondition : Op Exit PUnit) := free.setter _ _ _
  have creation : Maintains M C A createPodVMImageCreationNetworkPolicies :=
    ensureNetworkPolicies_maintains _
  have deletion : Maintains M C A createPodVMImageDeletionNetworkPolicies :=
    ensureNetworkPolicies_maintains _
  have image (outcome : ImageStatus × Option Err) : Maintains M C A (handleImageCreate outcome) :=
    handleImageCreate_maintains free outcome
  unfold enablePeerPods
  refine maintains_bind (orReturn_maintains createAuthJsonSecret_maintains) fun _ => ?_
  refine maintains_bind (orReturn_maintains creation) fun _ => ?_
  grind

omit tolerant in
theorem disablePeerPods_triple [Tolerant M C B] (free : ConditionFree M C B)
    (misc : Triple M C A (disablePeerPodsMiscConfigs settings) fun _ => B)
    (ended : ∀ result memory w, B memory w → Q result memory w) :
    Triple M C A (disablePeerPods settings) Q := by
  have ignored : Triple M C A (ignore (disablePeerPodsMiscConfigs settings) : Op Exit PUnit) fun _ => B :=
    Triple.attempt_bind misc fun _ => maintains_pure _
  exact Triple.bind ignored (fun _ => (deletePodVMImage_maintains settings free).post ended) fun _ => ended _

@[grind ←]
theorem disablePeerPods_maintains [KeepsWebhook settings M C A] (free : ConditionFree M C A)
    (deletable : Deletable M C A .daemonSet) : Maintains M C A (disablePeerPods settings) :=
  disablePeerPods_triple settings free (disablePeerPodsMiscConfigs_maintains settings deletable)
    fun _ _ _ => id

end PeerPods

/-- What a loop over nodes leaves: `A` at its end, `B` after a failed update. -/
def Looped (A : Bool → List Node → Reconciler → W → Prop) (B : Reconciler → W → Prop) :
    Except Err (Bool × Option Err) → Reconciler → W → Prop
  | .ok (changed, none) => A changed []
  | _ => B

section Loops

variable {A : Bool → List Node → Reconciler → W → Prop} [unfinished : ∀ changed nodes, Invariant M C (A changed nodes)]
  [failure : Invariant M C B]

instance : (result : Except Err (Bool × Option Err)) → Invariant M C (Looped A B result)
  | .ok (changed, none) => unfinished changed []
  | .ok (_, some _) | .error _ => failure

theorem updateEach_triple {change : Node → Option Node}
    (skipped : ∀ changed node rest memory w, change node = none → A changed (node :: rest) memory w →
      A changed rest memory w)
    (good : ∀ changed node rest next memory w, change node = some next →
      A changed (node :: rest) memory w → C.good w (.update .node (inScope next)))
    (updated : ∀ changed node rest next memory w answer w', change node = some next →
      A changed (node :: rest) memory w →
      M.answer w (.update .node (inScope next)) (.ok answer) w' → A true rest memory w')
    (failed : ∀ changed node rest next memory w error w', change node = some next →
      A changed (node :: rest) memory w →
      M.answer w (.update .node (inScope next)) (.error error) w' → B memory w')
    (changed : Bool) (nodes : List Node) :
    Triple M C (A changed nodes) (updateEach change changed nodes) (Looped A B) := by
  fun_induction updateEach change changed nodes with
  | case1 changed => exact triple_pure fun _ _ => id
  | case2 changed node rest unchanged ih =>
    exact ih.pre fun memory w => skipped changed node rest memory w unchanged
  | case3 changed node rest next isChanged ih =>
    intro memory w holds
    refine safe_ask holds (fun issued => good changed node rest next memory issued isChanged) ?_
    intro issued response w' holds reply
    cases response with
    | ok answer =>
      exact ih memory w' (updated changed node rest next memory issued answer w' isChanged holds reply)
    | error error =>
      have stopped : Looped A B (.ok (changed, some (.api error))) memory w' :=
        failed changed node rest next memory issued error w' isChanged holds reply
      exact safe_result (Q := Looped A B) stopped

end Loops

/-- What the operator knows about the nodes it has listed, whatever happened since. -/
class Reading (M : Machine Req Response W) where
  seen : W → Node → Prop
  stable : ∀ node, M.Stable fun w => seen w node
  kept : ∀ {w r response w' node}, M.answer w r response w' → seen w node → seen w' node
  listed : ∀ {w selector nodes w'}, M.answer w (.list .node selector) (.ok nodes) w' →
    ∀ node ∈ nodes, seen w' node

/-- The assertion, while the listed nodes are at hand. -/
def Holding (M : Machine Req Response W) [Reading M] (A : Reconciler → W → Prop) (nodes : List Node)
    (memory : Reconciler) (w : W) : Prop :=
  A memory w ∧ ∀ node ∈ nodes, Reading.seen M w node

/-- The operator may send what `change` makes of the nodes it has listed. -/
def Updatable (M : Machine Req Response W) [Reading M] (C : Contract Req W)
    (A : Reconciler → W → Prop) (change : Node → Option Node) : Prop :=
  ∀ node changed memory w, change node = some changed → A memory w → Reading.seen M w node →
    C.good w (.update .node (inScope changed)) ∧
      ∀ response w', M.answer w (.update .node (inScope changed)) response w' → A memory w'

/-- The operator may label nodes with a state of the node agents. -/
abbrev Announces (M : Machine Req Response W) [Reading M] (C : Contract Req W) (A : Reconciler → W → Prop)
    (state : KataInstallationDaemonSetState) : Prop :=
  Updatable M C A (labeled kataInstallationDaemonSetLabel state.text)

section Holding

variable [reading : Reading M] {nodes : List Node} {change : Node → Option Node}

theorem Writable.updatable (writable : Writable M C A .node) (change : Node → Option Node) :
    Updatable M C A change :=
  fun _ _ memory w _ holds _ => writable _ rfl memory w holds

instance [invariant : Invariant M C A] : Invariant M C (Holding M A nodes) where
  stable memory _ _ step holds := ⟨invariant.stable memory step holds.1,
    fun node member => reading.stable node step (holds.2 node member)⟩
  mid memory w holds := invariant.mid memory w holds.1

theorem Admits.holding {r : Req} (admits : Admits M C A r) : Admits M C (Holding M A nodes) r := by
  intro memory w holds
  obtain ⟨good, kept⟩ := admits memory w holds.1
  exact ⟨good, fun response w' reply => ⟨kept response w' reply,
    fun node member => reading.kept reply (holds.2 node member)⟩⟩

instance [tolerant : Tolerant M C A] : Tolerant M C (Holding M A nodes) where
  reads r reads notMark := (tolerant.reads r reads notMark).holding
  side k side r writes := (tolerant.side k side r writes).holding
  kataNodes change memory w holds := ⟨tolerant.kataNodes change memory w holds.1, holds.2⟩
  imageGenerator ig memory w holds := ⟨tolerant.imageGenerator ig memory w holds.1, holds.2⟩

theorem updateEach_holding [Invariant M C A] (updatable : Updatable M C A change)
    (labelingChanged : Bool) (nodes : List Node) :
    Triple M C (Holding M A nodes) (updateEach change labelingChanged nodes) fun _ => A := by
  refine Triple.post (updateEach_triple (A := fun _ nodes => Holding M A nodes) (B := A)
    ?_ ?_ ?_ ?_ labelingChanged nodes) ?_
  · exact fun _ _ _ _ _ _ holds => ⟨holds.1, fun node member => holds.2 node (.tail _ member)⟩
  · intro _ node rest next memory w changed holds
    exact (updatable node next memory w changed holds.1 (holds.2 node List.mem_cons_self)).1
  · intro _ node rest next memory w answer w' changed holds reply
    obtain ⟨_, kept⟩ := updatable node next memory w changed holds.1 (holds.2 node List.mem_cons_self)
    exact ⟨kept _ w' reply, fun other member => reading.kept reply (holds.2 other (.tail _ member))⟩
  · intro _ node rest next memory w error w' changed holds reply
    exact (updatable node next memory w changed holds.1 (holds.2 node List.mem_cons_self)).2 _ w' reply
  · rintro (_ | ⟨_, _ | _⟩) memory w holds
    · exact holds
    · exact holds.1
    · exact holds

theorem listNodes_maintains {α : Type} [tolerant : Tolerant M C A] {rest : List Node → Op Err α}
    (kept : ∀ nodes, Triple M C (Holding M A nodes) (rest nodes) fun _ => A) (selector : Selector) :
    Maintains M C A (clientList .node selector >>= rest) := by
  intro memory w holds
  refine safe_call (tolerant.stable memory) holds fun issued holds => ?_
  obtain ⟨good, answered⟩ := tolerant.reads (.list .node selector) rfl (by simp) memory issued holds
  refine ⟨tolerant.mid memory issued holds, good, fun response w' reply => ?_⟩
  cases response with
  | ok nodes => exact kept nodes memory w' ⟨answered _ w' reply, reading.listed reply⟩
  | error error =>
    have stopped : (fun _ : Except Err α => A) (.error (.api error)) memory w' := answered _ w' reply
    exact safe_result (Q := fun _ : Except Err α => A) stopped

end Holding

section Rollout

variable [tolerant : Tolerant M C A] (settings : Settings) {ε : Type}

@[grind ←]
theorem labelingOutcome_maintains (outcome : Bool × Option Err) :
    Maintains M C A (labelingOutcome outcome) := by
  unfold labelingOutcome
  grind

theorem relabel_maintains [Reading M] {α : Type} {change : Node → Option Node}
    (updatable : Updatable M C A change) {rest : Bool → Op Err α}
    (kept : ∀ changed, Maintains M C A (rest changed)) (nodes : List Node) :
    Triple M C (Holding M A nodes)
      (updateEach change false nodes >>= fun outcome => labelingOutcome outcome >>= rest) fun _ => A :=
  Triple.bind (updateEach_holding updatable false nodes)
    (fun outcome => maintains_bind (labelingOutcome_maintains outcome) kept) fun _ _ _ => id

theorem updateNodeLabels_maintains [Reading M]
    (updatable : ∀ selector, Updatable M C A (relabeled selector)) :
    Maintains M C A updateNodeLabels := by
  refine listNodes_maintains (fun nodes => ?_) _
  refine Triple.bind (getKataConfigNodeSelectorAsSelector_maintains (A := Holding M A nodes))
    (fun selector => ?_) fun _ _ _ holds => holds.1
  exact Triple.bind (updateEach_holding (updatable selector) false nodes)
    (fun outcome => labelingOutcome_maintains outcome) fun _ _ _ => id

theorem unlabelNodes_maintains [Reading M] (passes : Passes M C A .unlabelNodes)
    (updatable : Updatable M C A unlabeled) (nodeSelector : Selector) :
    Maintains M C A (unlabelNodes nodeSelector) := by
  refine maintains_bind (passes _) fun _ => listNodes_maintains (fun nodes => ?_) _
  exact Triple.bind (updateEach_holding updatable false nodes)
    (fun outcome => labelingOutcome_maintains outcome) fun _ _ _ => id

theorem unlabelNodesDaemonSet_maintains [Reading M] (passes : Passes M C A .unlabelNodesDaemonSet)
    (updatable : Updatable M C A unlabeledDaemonSet) (nodeSelector : Selector) :
    Maintains M C A (unlabelNodesDaemonSet nodeSelector) :=
  maintains_bind (passes _) fun _ =>
    listNodes_maintains (relabel_maintains updatable fun _ => maintains_pure _) _

theorem labelNodes_maintains [Reading M] {key value : String}
    (updatable : Updatable M C A (labeled key value)) (nodeSelector : Selector) :
    Maintains M C A (labelNodes nodeSelector key value) :=
  listNodes_maintains (relabel_maintains updatable fun _ => maintains_pure _) _

theorem labelKataNodes_maintains [Reading M] {state : KataInstallationDaemonSetState}
    (updatable : Updatable M C A (labeled kataInstallationDaemonSetLabel state.text)) :
    Maintains M C A (labelKataNodes state : Op ε PUnit) := by
  have label := labelNodes_maintains updatable
  unfold labelKataNodes
  grind

@[grind ←]
theorem getExtensionName_maintains : Maintains M C A (getExtensionName settings) := by
  unfold getExtensionName
  extract_lets extension
  split
  · exact maintains_pure _
  · refine maintains_bind getClusterVersion_maintains fun clusterVersion => ?_
    extract_lets image
    split
    · exact maintains_pure _
    · split
      · exact maintains_pure _
      · refine maintains_bind (maintains_attempt (readFile_maintains _)) fun cmdline => ?_
        split
        · split <;> exact maintains_pure _
        · exact maintains_pure _

@[grind ←]
theorem putNodeOnStatusList_maintains (free : ConditionFree M C A) (node : Node) :
    Maintains M C A (putNodeOnStatusList settings node) := by
  have failed : Maintains M C A (setInProgressConditionToFailed node : Op Err PUnit) :=
    free.setter _ _ _
  have annotated (key : String) : Maintains M C A (annotation? node key) := by
    unfold annotation?
    grind
  have enabled (isConverged : Bool) (target config : String) :
      Maintains M C A (isKataEnabledOnNode settings isConverged target config) := by
    unfold isKataEnabledOnNode
    grind
  have pool (name : String) : Maintains M C A (getMcpByName name) := clientGet_maintains _ _
  unfold putNodeOnStatusList
  refine maintains_bind checkConvergedCluster_maintains fun isConverged => ?_
  refine maintains_bind (pool _) fun targetMcp => maintains_bind (annotated _) fun state => ?_
  refine maintains_bind (annotated _) fun config => maintains_bind (enabled _ _ _) fun kata => ?_
  split <;> grind

@[grind ←]
theorem putNodesOnStatusLists_maintains (free : ConditionFree M C A) (err : Option Err)
    (nodes : List Node) : Maintains M C A (putNodesOnStatusLists settings err nodes) := by
  fun_induction putNodesOnStatusLists settings err nodes <;> grind

@[grind ←]
theorem updateStatus_maintains (free : ConditionFree M C A) : Maintains M C A (updateStatus settings) := by
  have nodes : Maintains M C A getNodes := getNodesWithLabels_maintains _
  have clear : Maintains M C A (clearNodeStatusLists : Op Err PUnit) := setKataNodes_maintains _
  have count : Maintains M C A (countKataNodes : Op Err Nat) := by
    unfold countKataNodes
    grind
  have ready : Maintains M C A (setReadyNodeCount : Op Err PUnit) := setKataNodes_maintains _
  unfold updateStatus
  refine maintains_bind nodes fun nodeList => maintains_bind clear fun _ => ?_
  refine maintains_bind count fun nodeCount => ?_
  grind

@[grind ←]
theorem updateStatusDaemonSet_maintains (action : KataDaemonSetAction) :
    Maintains M C A (updateStatusDaemonSet action) := by
  unfold updateStatusDaemonSet
  grind

@[grind ←]
theorem isKataNodePoolInState_maintains (passes : Passes M C A .checkAgents)
    (state : KataInstallationDaemonSetState) : Maintains M C A (isKataNodePoolInState state) := by
  have passed := passes Err
  unfold isKataNodePoolInState
  grind

@[grind ←]
theorem newMCForCR_maintains (machinePool : String) (customKernelCfg : Option CustomKernelConfig) :
    Maintains M C A (newMCForCR settings machinePool customKernelCfg) := by
  unfold newMCForCR
  grind

@[grind ←]
theorem getCustomKernelConfig_maintains : Maintains M C A getCustomKernelConfig := by
  unfold getCustomKernelConfig
  grind

@[grind ←]
theorem createMc_maintains [ImageFree A] (writable : Writable M C A .machineConfig) (machinePool : String)
    (customKernelCfg : Option CustomKernelConfig) :
    Maintains M C A (createMc settings machinePool customKernelCfg) := by
  unfold createMc
  refine maintains_bind (newMCForCR_maintains settings _ _) fun mc => ?_
  refine lookup_maintains fun found => ?_
  split <;> grind

@[grind ←]
theorem removeMc_maintains [ImageFree A] (deletable : Deletable M C A .machineConfig) (machinePool : String) :
    Maintains M C A (removeMc settings machinePool) := by
  unfold removeMc
  refine maintains_bind (orReturn_maintains (newMCForCR_maintains settings _ _)) fun mc => ?_
  refine lookup_maintains fun found => ?_
  split <;> grind

@[grind ←]
theorem ensureKataOcPool_maintains (writable : Writable M C A .machineConfigPool)
    (machinePool : String) : Maintains M C A (ensureKataOcPool machinePool) := by
  have pool : Maintains M C A (newMCPforCR : Op Exit MachineConfigPool) := by
    unfold newMCPforCR
    grind
  unfold ensureKataOcPool
  refine lookup_maintains fun found => ?_
  split <;> grind

@[grind ←]
theorem deleteKataOcPool_maintains (deletable : Deletable M C A .machineConfigPool) :
    Maintains M C A deleteKataOcPool := by
  unfold deleteKataOcPool
  grind

@[grind ←]
theorem daemonSetForKataInstall_maintains (action : KataDaemonSetAction) :
    Maintains M C A (daemonSetForKataInstall settings action) := by
  have image (name : String) : Maintains M C A (getImageForComponent name) := by
    unfold getImageForComponent
    grind
  have addon : Maintains M C A (getAddonEnvVars : Op Err (List EnvVar)) := by
    unfold getAddonEnvVars
    grind
  unfold daemonSetForKataInstall
  refine maintains_bind (image _) fun extensionImage => maintains_bind (image _) fun cliImage => ?_
  grind

end Rollout

section Storing

variable [before : Invariant M C P]

theorem ask_bind_triple {ε α : Type} {r : Req} {next : Response r → Op ε α} {Q : Except ε α → Reconciler → W → Prop}
    (good : ∀ memory w, P memory w → C.good w r)
    (rest : ∀ memory w response w', P memory w → M.answer w r response w' →
      Safe M C (fun outcome => Q outcome.1 outcome.2) (next response memory) w') :
    Triple M C P (ask r >>= next) Q := by
  intro memory w holds
  exact safe_ask holds (good memory) (rest memory)

section Status

variable {Q : Except Err PUnit → Reconciler → W → Prop} [after : ∀ result, Invariant M C (Q result)]

theorem updateKataConfigStatus_triple
    (good : ∀ memory w, P memory w → C.good w (.updateStatus .kataConfig (inScope memory.current)))
    (stored : ∀ memory w answer w', P memory w →
      M.answer w (.updateStatus .kataConfig (inScope memory.current)) (.ok answer) w' →
        Q (.ok ⟨⟩) (memory.setKataConfig (decodeKataConfig answer memory.current)) w')
    (failed : ∀ memory w error w', P memory w →
      M.answer w (.updateStatus .kataConfig (inScope memory.current)) (.error error) w' →
        Q (.error (.api error)) memory w') :
    Triple M C P updateKataConfigStatus Q := by
  intro memory w holds
  refine safe_ask holds (good memory) fun issued response w' holds' reply => ?_
  cases response with
  | ok answer => exact safe_result (stored memory issued answer w' holds' reply)
  | error error => exact safe_result (failed memory issued error w' holds' reply)

theorem updateKataConfig_triple
    (good : ∀ memory w, P memory w → C.good w (.update .kataConfig (inScope memory.current)))
    (stored : ∀ memory w answer w', P memory w →
      M.answer w (.update .kataConfig (inScope memory.current)) (.ok answer) w' →
        Q (.ok ⟨⟩) (memory.setKataConfig (decodeKataConfig answer memory.current)) w')
    (failed : ∀ memory w error w', P memory w →
      M.answer w (.update .kataConfig (inScope memory.current)) (.error error) w' →
        Q (.error (.api error)) memory w') :
    Triple M C P updateKataConfig Q := by
  intro memory w holds
  refine safe_ask holds (good memory) fun issued response w' holds' reply => ?_
  cases response with
  | ok answer => exact safe_result (stored memory issued answer w' holds' reply)
  | error error => exact safe_result (failed memory issued error w' holds' reply)

end Status

section Calls

variable {k : Kind} {key : Key} {object : Object k} {Q : Except Err (Object k) → Reconciler → W → Prop}
  [∀ result, Invariant M C (Q result)]

theorem clientGet_triple (good : ∀ memory w, P memory w → C.good w (.get k (scopedKey k key)))
    (found : ∀ memory w object w', P memory w →
      M.answer w (.get k (scopedKey k key)) (.ok object) w' → Q (.ok object) memory w')
    (failed : ∀ memory w error w', P memory w →
      M.answer w (.get k (scopedKey k key)) (.error error) w' → Q (.error (.api error)) memory w') :
    Triple M C P (clientGet k key) Q := by
  refine ask_bind_triple good fun memory w response w' holds answered => ?_
  cases response with
  | ok object => exact safe_result (found memory w object w' holds answered)
  | error error => exact safe_result (failed memory w error w' holds answered)

theorem clientCreate_triple (good : ∀ memory w, P memory w → C.good w (.create k (inScope object)))
    (created : ∀ memory w answer w', P memory w →
      M.answer w (.create k (inScope object)) (.ok answer) w' → Q (.ok answer) memory w')
    (failed : ∀ memory w error w', P memory w →
      M.answer w (.create k (inScope object)) (.error error) w' → Q (.error (.api error)) memory w') :
    Triple M C P (clientCreate object) Q := by
  refine ask_bind_triple good fun memory w response w' holds answered => ?_
  cases response with
  | ok answer => exact safe_result (created memory w answer w' holds answered)
  | error error => exact safe_result (failed memory w error w' holds answered)

theorem clientUpdate_triple (good : ∀ memory w, P memory w → C.good w (.update k (inScope object)))
    (updated : ∀ memory w answer w', P memory w →
      M.answer w (.update k (inScope object)) (.ok answer) w' → Q (.ok answer) memory w')
    (failed : ∀ memory w error w', P memory w →
      M.answer w (.update k (inScope object)) (.error error) w' → Q (.error (.api error)) memory w') :
    Triple M C P (clientUpdate object) Q := by
  refine ask_bind_triple good fun memory w response w' holds answered => ?_
  cases response with
  | ok answer => exact safe_result (updated memory w answer w' holds answered)
  | error error => exact safe_result (failed memory w error w' holds answered)

theorem clientList_triple {selector : Selector} {Q : Except Err (List (Object k)) → Reconciler → W → Prop}
    [∀ result, Invariant M C (Q result)] (good : ∀ memory w, P memory w → C.good w (.list k selector))
    (found : ∀ memory w objects w', P memory w →
      M.answer w (.list k selector) (.ok objects) w' → Q (.ok objects) memory w')
    (failed : ∀ memory w error w', P memory w →
      M.answer w (.list k selector) (.error error) w' → Q (.error (.api error)) memory w') :
    Triple M C P (clientList k selector) Q := by
  refine ask_bind_triple good fun memory w response w' holds answered => ?_
  cases response with
  | ok objects => exact safe_result (found memory w objects w' holds answered)
  | error error => exact safe_result (failed memory w error w' holds answered)

end Calls

/-- Fetching the `KataConfig`: the reconciler holds it, or an empty one. -/
theorem fetchKataConfig_triple {key : Key} {Q : Except Exit Bool → Reconciler → W → Prop}
    [∀ result, Invariant M C (Q result)]
    (moved : ∀ memory w, P memory w → P (memory.setKataConfig emptyKataConfig) w)
    (good : ∀ memory w, P memory w → C.good w (.get .kataConfig ⟨"", key.name⟩))
    (found : ∀ memory w kataConfig w', P memory w →
      M.answer w (.get .kataConfig ⟨"", key.name⟩) (.ok kataConfig) w' →
        Q (.ok true) (memory.setKataConfig kataConfig) w')
    (failed : ∀ memory w error w', P memory w →
      M.answer w (.get .kataConfig ⟨"", key.name⟩) (.error error) w' →
        Q (.ok false) memory w' ∧ Q (.error { err := some (.api error) }) memory w') :
    Triple M C P (fetchKataConfig key) Q := by
  intro memory w holds
  refine safe_ask (moved memory w holds) (good _) fun issued response w' holds' reply => ?_
  cases response with
  | ok kataConfig => exact safe_result (found _ issued kataConfig w' holds' reply)
  | error error =>
    obtain ⟨missing, unreadable⟩ := failed _ issued error w' holds' reply
    change Safe M C (fun outcome => Q outcome.1 outcome.2)
      ((if (Err.api error).isNotFound = true then Routine.pure false
        else Routine.throw { err := some (.api error) } : Op Exit Bool) _) w'
    split
    · exact safe_result missing
    · exact safe_result unreadable

section Effects

variable {k : Kind} {key : Key} {Q : Except Err PUnit → Reconciler → W → Prop} [∀ result, Invariant M C (Q result)]

theorem deleteIfPresent_triple (good : ∀ memory w, P memory w → C.good w (.delete k (scopedKey k key)))
    (deleted : ∀ memory w w', P memory w → M.answer w (.delete k (scopedKey k key)) (.ok ⟨⟩) w' → Q (.ok ⟨⟩) memory w')
    (absent : ∀ memory w error w', P memory w → M.answer w (.delete k (scopedKey k key)) (.error error) w' →
      error.reason = .notFound → Q (.ok ⟨⟩) memory w')
    (failed : ∀ memory w error w', P memory w → M.answer w (.delete k (scopedKey k key)) (.error error) w' →
      error.reason ≠ .notFound → Q (.error (.api error)) memory w') :
    Triple M C P (deleteIfPresent k key) Q := by
  refine ask_bind_triple good fun memory w response w' holds reply => ?_
  cases response with
  | ok done => exact safe_result (deleted memory w w' holds reply)
  | error error =>
    have counts : Err.isNotFound (.api error) = true ↔ error.reason = .notFound := by
      simp [Err.isNotFound, Err.reason?]
    change Safe M C _ ((if Err.isNotFound (.api error) then Pure.pure ⟨⟩
      else Routine.throw (.api error) : Op Err PUnit) memory) w'
    split
    · next missing => exact safe_result (absent memory w error w' holds reply (counts.mp missing))
    · next other => exact safe_result (failed memory w error w' holds reply fun same => other (counts.mpr same))

theorem safe_last {r : Req} {unwrap : Response r → Except ApiError (Object k)} {memory : Reconciler} {w : W}
    (good : ∀ memory w, P memory w → C.good w r)
    (done : ∀ memory w response w', P memory w → M.answer w r response w' →
      Q (((unwrap response).mapError .api).map fun _ => ⟨⟩) memory w') (holds : P memory w) :
    Safe M C (fun outcome => Q outcome.1 outcome.2) ((ask r >>= (fun response => fromApi (unwrap response)) >>=
      fun _ => Routine.pure ⟨⟩ : Op Err PUnit) memory) w := by
  have asked : Triple M C P (ask r >>= fun response => fromApi (unwrap response) >>= fun _ => Routine.pure ⟨⟩ :
      Op Err PUnit) Q := by
    refine ask_bind_triple good fun memory w response w' holds reply => ?_
    have answered := done memory w response w' holds reply
    generalize unwrap response = ended at answered ⊢
    cases ended with
    | ok answer => exact safe_result answered
    | error error => exact safe_result answered
  exact asked memory w holds

/-- Creating an object, or bringing the one that is found to the wanted state: `F`
holds while the object found is at hand. -/
theorem createOrUpdate_triple {blank : Kind.Body k} {change : Object k → Object k}
    {F : Object k → Reconciler → W → Prop} [holding : ∀ object, Invariant M C (F object)]
    (goodGet : ∀ memory w, P memory w → C.good w (.get k (scopedKey k key)))
    (goodCreate : ∀ memory w, P memory w →
      C.good w (.create k (inScope (change ⟨{ name := key.name, ns := key.ns }, blank⟩))))
    (goodUpdate : ∀ object memory w, F object memory w → C.good w (.update k (inScope (change object))))
    (found : ∀ memory w object w', P memory w →
      M.answer w (.get k (scopedKey k key)) (.ok object) w' → F object memory w')
    (missing : ∀ memory w error w', P memory w →
      M.answer w (.get k (scopedKey k key)) (.error error) w' → P memory w')
    (failed : ∀ error memory w, P memory w → Q (.error error) memory w)
    (created : ∀ memory w response w', P memory w →
      M.answer w (.create k (inScope (change ⟨{ name := key.name, ns := key.ns }, blank⟩))) response w' →
        Q ((response.mapError .api).map fun _ => ⟨⟩) memory w')
    (unchanged : ∀ object memory w, F object memory w → Q (.ok ⟨⟩) memory w)
    (updated : ∀ object memory w response w', F object memory w →
      M.answer w (.update k (inScope (change object))) response w' →
        Q ((response.mapError .api).map fun _ => ⟨⟩) memory w') :
    Triple M C P (createOrUpdate k key blank fun object => Pure.pure (change object)) Q := by
  refine ask_bind_triple goodGet fun memory w response w' holds reply => ?_
  cases response with
  | ok object =>
    have holds' := found memory w object w' holds reply
    change Safe M C (fun outcome => Q outcome.1 outcome.2)
      ((if (change object).metadata = object.metadata ∧ (change object).body = object.body then
        Routine.pure ⟨⟩ else clientUpdate (change object) >>= fun _ => Routine.pure ⟨⟩ :
          Op Err PUnit) memory) w'
    split
    · exact safe_result (unchanged object memory w' holds')
    · exact safe_last (goodUpdate object) (updated object) holds'
  | error error =>
    have holds' := missing memory w error w' holds reply
    change Safe M C (fun outcome => Q outcome.1 outcome.2) ((if (Err.api error).isNotFound = true then
        clientCreate (change ⟨{ name := key.name, ns := key.ns }, blank⟩) >>= fun _ => Routine.pure ⟨⟩
        else Routine.throw (.api error) : Op Err PUnit) memory) w'
    split
    · exact safe_last goodCreate created holds'
    · exact safe_result (failed (.api error) memory w' holds')

end Effects

theorem mark_triple {ε : Type} {point : Point} {Q : Reconciler → W → Prop} [Invariant M C Q]
    (good : ∀ memory w, P memory w → C.good w (.mark ⟨point, memory.current⟩))
    (passed : ∀ memory w w', P memory w → M.answer w (.mark ⟨point, memory.current⟩) ⟨⟩ w' → Q memory w') :
    Triple M C P (mark point : Op ε PUnit) fun _ => Q := by
  intro memory w holds
  refine safe_ask holds (good memory) fun issued response w' holds' reply => ?_
  exact safe_result (Q := fun _ => Q) (passed memory issued w' holds' reply)

end Storing

/-- The first request of the convergence check. -/
abbrev poolProbe : Req := .get .machineConfigPool (poolKey "dummy-machine-config-pool")

/-- What the convergence check makes of the answer to its first request: whether
there are pools at all. -/
def probed : Except ApiError MachineConfigPool → Except Err Bool
  | .ok _ => .ok true
  | .error error =>
    if (Err.api error).isNotFound then .ok true
    else if (Err.api error).isNoMatchError then .ok false
    else .error (.api error)

def listedPools : Except ApiError (List MachineConfigPool) → Except Err Bool
  | .ok pools => .ok (isConvergedPoolList pools)
  | .error error => if (Err.api error).isNoMatchError then .ok false else .error (.api error)

section Pools

variable [before : Invariant M C P]

theorem isMachineConfigPoolAvailable_triple {Q : Except Err Bool → Reconciler → W → Prop}
    [∀ result, Invariant M C (Q result)] (good : ∀ memory w, P memory w → C.good w poolProbe)
    (asked : ∀ memory w response w', P memory w → M.answer w poolProbe response w' →
      Q (probed response) memory w') :
    Triple M C P isMachineConfigPoolAvailable Q := by
  intro memory w holds
  refine safe_ask holds (good memory) fun issued response w' holds reply => ?_
  have answered := asked memory issued response w' holds reply
  cases response with
  | ok mcp => exact safe_result answered
  | error error =>
    change Safe M C (fun outcome => Q outcome.1 outcome.2)
      ((if (Err.api error).isNotFound = true then Routine.pure true
        else if (Err.api error).isNoMatchError = true then Routine.pure false
        else Routine.throw (.api error) : Op Err Bool) memory) w'
    simp only [probed] at answered
    split_ifs at answered ⊢ <;> exact safe_result answered

theorem checkConvergedCluster_triple {Q : Except Err Bool → Reconciler → W → Prop}
    [∀ result, Invariant M C (Q result)] (goodProbe : ∀ memory w, P memory w → C.good w poolProbe)
    (goodList : ∀ memory w, P memory w → C.good w (.list .machineConfigPool []))
    (asked : ∀ memory w response w', P memory w → M.answer w poolProbe response w' →
      (if probed response = .ok true then P else Q (probed response)) memory w')
    (listed : ∀ memory w response w', P memory w →
      M.answer w (.list .machineConfigPool []) response w' → Q (listedPools response) memory w') :
    Triple M C P checkConvergedCluster Q := by
  have after (result : Except Err Bool) : Invariant M C (if result = .ok true then P else Q result) := by
    split <;> infer_instance
  refine Triple.bind (isMachineConfigPoolAvailable_triple
    (Q := fun result => if result = .ok true then P else Q result) goodProbe asked)
    (fun available => ?_) fun error memory w holds => holds
  · cases available with
    | false => exact triple_pure (P := Q (.ok false)) fun _ _ => id
    | true =>
      intro memory w holds
      refine safe_ask holds (goodList memory) fun issued response w' holds reply => ?_
      have answered := listed memory issued response w' holds reply
      cases response with
      | ok pools => exact safe_result answered
      | error error =>
        change Safe M C (fun outcome => Q outcome.1 outcome.2)
          ((if (Err.api error).isNoMatchError = true then Routine.pure false
            else Routine.throw (.api error) : Op Err Bool) memory) w'
        simp only [listedPools] at answered
        split_ifs at answered ⊢ <;> exact safe_result answered

omit before in
theorem isConvergedAndKnown_triple {ε : Type} {Q : Bool → Reconciler → W → Prop}
    [∀ isConverged, Invariant M C (Q isConverged)]
    (check : Triple M C P checkConvergedCluster fun result => Q (result.toOption.getD false)) :
    Triple M C P (isConvergedAndKnown : Op ε Bool) fun result => Q (result.toOption.getD false) := by
  refine Triple.bind (Q := fun result => Q ((result.toOption.bind Except.toOption).getD false))
    (Triple.attempt check) (fun result => ?_) fun _ _ _ => id
  cases result with
  | ok isConverged => exact triple_pure (P := Q isConverged) fun _ _ => id
  | error error => exact triple_pure (P := Q false) fun _ _ => id

theorem isMcpUpdating_triple {ε : Type} {mcpName : String}
    {Q : Bool → Reconciler → W → Prop} [sampling : Invariant M C R]
    [∀ isUpdating, Invariant M C (Q isUpdating)]
    (goodMark : ∀ memory w, P memory w → C.good w (.mark ⟨.samplePool mcpName, memory.current⟩))
    (goodGet : ∀ memory w, R memory w → C.good w (.get .machineConfigPool (poolKey mcpName)))
    (marked : ∀ memory w w', P memory w →
      M.answer w (.mark ⟨.samplePool mcpName, memory.current⟩) ⟨⟩ w' → R memory w')
    (found : ∀ memory w mcp w', R memory w →
      M.answer w (.get .machineConfigPool (poolKey mcpName)) (.ok mcp) w' →
        Q (poolStatus mcp).isUpdating memory w')
    (failed : ∀ memory w error w', R memory w →
      M.answer w (.get .machineConfigPool (poolKey mcpName)) (.error error) w' → Q false memory w') :
    Triple M C P (isMcpUpdating mcpName : Op ε Bool) fun result => Q (result.toOption.getD false) := by
  intro memory w holds
  have returned (isUpdating : Bool) {w' : W} (sampled : Q isUpdating memory w') :
      Safe M C (fun outcome : Except ε Bool × Reconciler => Q (outcome.1.toOption.getD false) outcome.2)
        (.pure (.ok isUpdating, memory)) w' :=
    safe_result (Q := fun result : Except ε Bool => Q (result.toOption.getD false)) sampled
  refine safe_ask holds (goodMark memory) fun issued _ w' holds reply => ?_
  refine safe_ask (marked memory issued w' holds reply) (goodGet memory) fun asking response w' holds reply => ?_
  cases response with
  | ok mcp =>
    exact returned (poolStatus mcp).isUpdating (found memory asking mcp w' holds reply)
  | error error => exact returned false (failed memory asking error w' holds reply)

theorem getKataConfigNodeSelectorAsSelector_keeps (probe : Admits M C P poolProbe)
    (list : Admits M C P (.list .machineConfigPool [])) :
    Maintains M C P getKataConfigNodeSelectorAsSelector := by
  have check : Maintains M C P checkConvergedCluster := by
    refine checkConvergedCluster_triple (fun memory w holds => (probe memory w holds).1)
      (fun memory w holds => (list memory w holds).1) ?_ ?_
    · intro memory w response w' holds reply
      rw [ite_self]
      exact (probe memory w holds).2 response w' reply
    · exact fun memory w response w' holds reply => (list memory w holds).2 response w' reply
  have known {ε : Type} : Maintains M C P (isConvergedAndKnown : Op ε Bool) :=
    isConvergedAndKnown_triple (Q := fun _ => P) check
  refine maintains_bind (maintains_bind known fun isConverged => ?_) fun selector => ?_
  · split
    · exact maintains_pure _
    · exact maintains_bind maintains_get fun _ => maintains_pure _
  · split
    · exact maintains_pure _
    · exact maintains_throw _

end Pools

/-- An assertion that puts up with what the operator notes about its progress: the
flag that it waits, and conditions other than that an operation is under way. -/
class Pliant (M : Machine Req Response W) (C : Contract Req W) (A : Reconciler → W → Prop) : Prop
    extends Tolerant M C A where
  conditions : ConditionFree M C A
  waiting : ∀ (memory : Reconciler) w waiting, A memory w →
    A (memory.setStatus { memory.status with waitingForMcoToStart := waiting }) w

/-- An assertion that also puts up with the status being stored. -/
class Reporting (M : Machine Req Response W) (C : Contract Req W) (A : Reconciler → W → Prop) : Prop
    extends Pliant M C A where
  stores : Maintains M C A updateKataConfigStatus

/-- The change is about no finalizer but the operator's. -/
def OwnFinalizer (change : List String → List String) : Prop :=
  ∀ names, (change names).filter (· ≠ kataConfigFinalizer) = names.filter (· ≠ kataConfigFinalizer)

/-- An assertion that puts up with everything the operator does to its memory and
to the stored `KataConfig`, except that it may object to control points, and to a
condition that an operation is under way. -/
class Lenient (M : Machine Req Response W) (C : Contract Req W) (A : Reconciler → W → Prop) : Prop
    extends Reporting M C A where
  modes : ModeFree A
  finalizers : ∀ (ε : Type) change, OwnFinalizer change → Maintains M C A (setFinalizers change : Op ε PUnit)
  updates : Maintains M C A updateKataConfig

section Progress

variable [pliant : Pliant M C A] (settings : Settings) {ε : Type}

@[grind ←]
theorem pliant_conditions : ConditionFree M C A := pliant.conditions

@[grind ←]
theorem resetInProgressCondition_maintains :
    Maintains M C A (resetInProgressCondition : Op ε PUnit) := pliant.conditions.setter _ _ _

@[grind ←]
theorem setWaitingForMcoToStart_maintains (waiting : Bool) :
    Maintains M C A (setWaitingForMcoToStart waiting : Op ε PUnit) :=
  maintains_modify fun memory w => pliant.waiting memory w waiting

@[grind ←]
theorem isMcpUpdating_maintains {mcpName : String} (passes : Passes M C A (.samplePool mcpName)) :
    Maintains M C A (isMcpUpdating mcpName : Op ε Bool) := by
  have sample := passes ε
  unfold isMcpUpdating
  grind

theorem checkDeletionEligibility_triple [Invariant M C B]
    (eligible : Triple M C A (mark .deletionEligible : Op Exit PUnit) (Onward A Q))
    (stores : Triple M C A updateKataConfigStatus fun _ => B)
    (stopped : ∀ error memory w, A memory w ∨ B memory w → Q (.error error) memory w) :
    Triple M C A checkDeletionEligibility (Onward A Q) := by
  have pods : Maintains M C A listKataPods := by
    unfold listKataPods
    grind
  have blocked (message : String) :
      Maintains M C A (setInProgressConditionToBlockedByExistingKataPods message : Op Exit PUnit) :=
    pliant.conditions.setter _ _ _
  have stored : Triple M C A (orReturn updateKataConfigStatus) fun _ => B :=
    Triple.orElse (Q := fun _ => B) stores
  refine Maintains.bind_triple reconciler_maintains (fun r => ?_) fun error memory w holds =>
    stopped error memory w (.inl holds)
  split
  · refine Maintains.bind_triple (maintains_attempt pods) (fun outcome => ?_) fun error memory w holds =>
      stopped error memory w (.inl holds)
    split
    · exact eligible
    · refine Maintains.bind_triple (blocked _) (fun _ => ?_) fun error memory w holds =>
        stopped error memory w (.inl holds)
      exact Triple.bind stored (fun _ => triple_throw fun memory w holds => stopped _ memory w (.inr holds))
        fun error memory w holds => stopped error memory w (.inr holds)
  · exact triple_pure (P := A) fun _ _ => id

@[grind ←]
theorem postKataInstallation_maintains [KeepsWebhook settings M C A] (passes : Passes M C A .postKataInstallation)
    (daemonSets : Writable M C A .daemonSet) (creates : CreatesClasses settings M C A) :
    Maintains M C A (postKataInstallation settings) := by
  have kata (eligibility : Bool) : Maintains M C A (createRuntimeClass settings (kataRequest eligibility)) :=
    creates _ (List.mem_cons_self ..)
  have gpu : Maintains M C A (createRuntimeClass settings kataNvidiaGPURequest) := creates _ (by decide)
  have peerPods : Maintains M C A (enablePeerPods settings) :=
    enablePeerPods_maintains settings pliant.conditions daemonSets creates
  unfold postKataInstallation
  refine maintains_bind (passes _) fun _ => ?_
  refine maintains_bind resetInProgressCondition_maintains fun _ => ?_
  refine maintains_bind reconciler_maintains fun r => ?_
  refine maintains_bind (orReturn_maintains (kata _)) fun _ => ?_
  split
  · grind
  · grind

/-- Taking down what the installation brought up: `A` holds until the pool is
deleted, `B` until peer pods are taken down, and `D` afterwards. -/
theorem finishDeletion_triple [Tolerant M C B] [Tolerant M C D] {isConverged : Bool}
    (pool : isConverged = false → Triple M C A deleteKataOcPool (Onward B Q))
    (noPool : isConverged = true → ∀ memory w, A memory w → B memory w)
    (daemonSets : Deletable M C B .daemonSet)
    (peerPods : Triple M C (fun memory w => B memory w ∧ memory.spec.enablePeerPods = true)
      (disablePeerPods settings) (Onward D Q))
    (noPeerPods : ∀ memory w, B memory w ∧ memory.spec.enablePeerPods = false → D memory w)
    (release : Triple M C D (orRetry removeFinalizer ⟨true, 0⟩) Q)
    (stopped : ∀ error memory w, A memory w ∨ B memory w ∨ D memory w → Q (.error error) memory w) :
    Triple M C A (finishDeletion settings isConverged) Q := by
  have stoppedFirst error memory w (holds : A memory w) := stopped error memory w (.inl holds)
  have stoppedSecond error memory w (holds : B memory w) := stopped error memory w (.inr (.inl holds))
  have stoppedLast error memory w (holds : D memory w) := stopped error memory w (.inr (.inr holds))
  have rest : Triple M C D (do
      orReturn deleteNodeFeatureRule ⟨true, 0⟩
      orReturn deleteScc ⟨true, 15⟩
      orRetry removeLogLevel ⟨true, 0⟩
      orRetry removeFinalizer ⟨true, 0⟩ : Op Exit PUnit) Q := by
    refine Maintains.bind_triple (orReturn_maintains deleteNodeFeatureRule_maintains) (fun _ => ?_) stoppedLast
    refine Maintains.bind_triple (orReturn_maintains deleteScc_maintains) (fun _ => ?_) stoppedLast
    exact Maintains.bind_triple (orRetry_maintains removeLogLevel_maintains) (fun _ => release) stoppedLast
  have afterPool : Triple M C B (do
      orReturn (deleteDaemonsetForMonitor settings) ⟨true, 15⟩
      if (← reconciler).spec.enablePeerPods then
        disablePeerPods settings
      orReturn deleteNodeFeatureRule ⟨true, 0⟩
      orReturn deleteScc ⟨true, 15⟩
      orRetry removeLogLevel ⟨true, 0⟩
      orRetry removeFinalizer ⟨true, 0⟩ : Op Exit PUnit) Q := by
    refine Maintains.bind_triple (orReturn_maintains (deleteDaemonsetForMonitor_maintains settings daemonSets))
      (fun _ => ?_) stoppedSecond
    refine triple_get_ite (Triple.andThen peerPods fun _ => rest) (rest.pre fun memory w holds => ?_)
    exact noPeerPods memory w (by simpa using holds)
  refine Maintains.bind_triple resetInProgressCondition_maintains (fun _ => ?_) stoppedFirst
  cases isConverged with
  | true => exact afterPool.pre (noPool rfl)
  | false => exact Triple.andThen (pool rfl) fun _ => afterPool

theorem concludeDeletion_triple {isConverged : Bool}
    (finish : Triple M C A (finishDeletion settings isConverged) Q)
    (ended : ∀ result memory w, A memory w → Q result memory w) (isUpdating : Bool) :
    Triple M C A (concludeDeletion settings isConverged isUpdating) Q := by
  refine Maintains.bind_triple reconciler_maintains (fun r => ?_) fun _ => ended _
  split
  · exact triple_pure (ended _)
  · refine Maintains.bind_triple (setWaitingForMcoToStart_maintains false) (fun _ => ?_) fun _ => ended _
    refine Maintains.bind_triple (maintains_ignore (updateStatus_maintains settings pliant.conditions))
      (fun _ => ?_) fun _ => ended _
    split
    · exact finish
    · exact triple_pure (ended _)

omit pliant in
/-- Choosing the pool and waiting for it: `B` knows whether the cluster counts as
converged. -/
theorem awaitDeletion_triple [Invariant M C A] {B : Bool → Reconciler → W → Prop}
    [waiting : ∀ isConverged, Pliant M C (B isConverged)]
    (chooses : Passes M C A .chooseTargetPool)
    (converged : Triple M C A (isConvergedAndKnown : Op Exit Bool) fun result => B (result.toOption.getD false))
    (samples : ∀ isConverged name, Passes M C (B isConverged) (.samplePool name))
    (finish : ∀ isConverged, Triple M C (B isConverged) (finishDeletion settings isConverged) Q)
    (ended : ∀ result memory w, A memory w → Q result memory w)
    (endedLater : ∀ isConverged result memory w, B isConverged memory w → Q result memory w)
    (labelingChanged isMcDeleted : Bool) :
    Triple M C A (awaitDeletion settings labelingChanged isMcDeleted) Q := by
  refine Maintains.bind_triple (chooses _) (fun _ => ?_) fun _ => ended _
  refine Triple.bind converged (fun isConverged => ?_) fun _ => endedLater _ _
  have sample (name : String) : Maintains M C (B isConverged) (isMcpUpdating name : Op Exit Bool) :=
    isMcpUpdating_maintains (samples isConverged name)
  refine triple_when (A := B isConverged) (setWaitingForMcoToStart_maintains true) ?_
    fun _ => endedLater isConverged _
  exact Maintains.bind_triple (sample _)
    (fun _ => concludeDeletion_triple settings (finish isConverged) (endedLater isConverged) _)
    fun _ => endedLater isConverged _

/-- The delete request up to the point where it waits for the pool: `A` holds
until the nodes are unlabelled, `B` until the MachineConfig is removed, and `D`
afterwards. -/
theorem processKataConfigDeleteRequest_triple [after : Pliant M C B] [Invariant M C D]
    (enters : Triple M C P (mark .deleteRequest : Op Exit PUnit) fun _ => A)
    (eligible : Triple M C A checkDeletionEligibility (Onward A Q))
    (unlabel : ∀ selector, Triple M C A ((unlabelNodes selector).orElse labelFailure) (Onward B Q))
    (remove : ∀ machinePool, Triple M C B (removeMc settings machinePool) (Onward D Q))
    (wait : ∀ labelingChanged isMcDeleted,
      Triple M C D (awaitDeletion settings labelingChanged isMcDeleted) Q)
    (stopped : ∀ error memory w, A memory w ∨ B memory w → Q (.error error) memory w) :
    Triple M C P (processKataConfigDeleteRequest settings) Q := by
  have stoppedBefore error memory w (holds : A memory w) := stopped error memory w (.inl holds)
  have stoppedAfter error memory w (holds : B memory w) := stopped error memory w (.inr holds)
  have uninstalling : Maintains M C B (setInProgressConditionToUninstalling : Op Exit PUnit) :=
    after.conditions.setter _ _ _
  refine Triple.bind enters (fun _ => ?_) stoppedBefore
  refine Maintains.bind_triple (orReturn_maintains getMcpName_maintains) (fun pool => ?_) stoppedBefore
  refine Triple.andThen eligible fun _ => ?_
  refine Maintains.bind_triple (orRetry_maintains getKataConfigNodeSelectorAsSelector_maintains)
    (fun selector => ?_) stoppedBefore
  refine Triple.andThen (unlabel selector) fun changed => ?_
  refine Maintains.bind_triple uninstalling (fun _ => ?_) stoppedAfter
  exact Triple.andThen (remove pool) fun deleted => wait changed deleted

theorem daemonSetForKataInstall_key (action : KataDaemonSetAction) :
    Yields (fun ds => ds.key = daemonSetKey action) (daemonSetForKataInstall settings action) := by
  unfold daemonSetForKataInstall
  iterate 6 refine yields_bind fun _ => ?_
  exact yields_pure rfl

/-- Replacing the install DaemonSet, up to the creation of the other one: `A` holds
until it is deleted, and `B` afterwards. -/
theorem startUninstallation_triple [after : Tolerant M C B] {Q : Except Exit Bool → Reconciler → W → Prop}
    (delete : Triple M C A (orReturn (deleteIfPresent .daemonSet (daemonSetKey .installKata))) (Onward B Q))
    (ensure : ∀ ds, ds.key = daemonSetKey .uninstallKata → Triple M C B (ensureUninstallDaemonSet ds) Q)
    (stopped : ∀ error memory w, A memory w ∨ B memory w → Q (.error error) memory w) :
    Triple M C A (startUninstallation settings) Q := by
  have stoppedBefore error memory w (holds : A memory w) := stopped error memory w (.inl holds)
  have stoppedAfter error memory w (holds : B memory w) := stopped error memory w (.inr holds)
  have create : Maintains M C B createKataUninstallNetworkPolicies :=
    ensureNetworkPolicies_maintains _
  have remove : Maintains M C B deleteKataInstallNetworkPolicies :=
    deleteNetworkPolicies_maintains _
  refine Maintains.bind_yields (orReturn_maintains (daemonSetForKataInstall_maintains settings _))
    (daemonSetForKataInstall_key settings _).orElse (fun installDs isInstall => ?_) stoppedBefore
  rw [isInstall]
  refine Triple.andThen delete fun _ => ?_
  refine Maintains.bind_triple (orReturn_maintains remove) (fun _ => ?_) stoppedAfter
  refine Maintains.bind_yields (orReturn_maintains (daemonSetForKataInstall_maintains settings _))
    (daemonSetForKataInstall_key settings _).orElse (fun uninstallDs isUninstall => ?_) stoppedAfter
  refine Maintains.bind_yields (orReturn_maintains (setControllerReference_maintains _))
    (setControllerReference_yields (p := fun owned => owned.key = uninstallDs.key) fun _ => rfl).orElse
    (fun owned sameKey => ?_) stoppedAfter
  exact Maintains.bind_triple (orReturn_maintains create)
    (fun _ => ensure owned (sameKey.trans isUninstall)) stoppedAfter

theorem ensureUninstallDaemonSet_maintains [Reading M]
    (nodes : Announces M C A .waitingToUninstall)
    {ds : DaemonSet} (creates : Admits M C A (.create .daemonSet (inScope ds))) :
    Maintains M C A (ensureUninstallDaemonSet ds) := by
  have label : Maintains M C A (labelKataNodes .waitingToUninstall : Op Exit PUnit) :=
    labelKataNodes_maintains nodes
  have create : Maintains M C A (clientCreate ds) := call_maintains creates fun _ => fromApi_maintains _
  unfold ensureUninstallDaemonSet
  refine lookup_maintains fun found => ?_
  split <;> grind

theorem startUninstallation_maintains [Reading M]
    (nodes : Announces M C A .waitingToUninstall)
    (daemonSets : Writable M C A .daemonSet) : Maintains M C A (startUninstallation settings) := by
  refine startUninstallation_triple settings (Maintains.onward (orReturn_maintains
    (deleteIfPresent_maintains daemonSets.deletable _)) fun _ _ _ => id)
    (fun ds _ => ensureUninstallDaemonSet_maintains nodes (daemonSets _ rfl)) ?_
  exact fun _ _ _ holds => holds.elim id id

/-- Taking down what the installation brought up: `A` holds until peer pods are
taken down, `B` until the nodes are unlabelled, and `D` afterwards. -/
theorem finishDeletionDaemonSet_triple [Pliant M C B] [Invariant M C D]
    (daemonSets : Deletable M C A .daemonSet)
    (peerPods : Triple M C (fun memory w => A memory w ∧ memory.spec.enablePeerPods = true)
      (orReturn (disablePeerPodsMiscConfigs settings)) (Onward B Q))
    (noPeerPods : ∀ memory w, A memory w ∧ memory.spec.enablePeerPods = false → B memory w)
    (unlabel : ∀ selector, Triple M C B ((unlabelNodesDaemonSet selector).orElse labelFailure) (Onward D Q))
    (release : Triple M C D (orRetry removeFinalizer ⟨true, 0⟩) Q)
    (stopped : ∀ error memory w, A memory w ∨ B memory w → Q (.error error) memory w) :
    Triple M C A (finishDeletionDaemonSet settings) Q := by
  have stoppedFirst error memory w (holds : A memory w) := stopped error memory w (.inl holds)
  have stoppedSecond error memory w (holds : B memory w) := stopped error memory w (.inr holds)
  have monitor : Maintains M C A (deleteDaemonsetForMonitor settings) := by grind
  have policies : Maintains M C A deleteKataUninstallNetworkPolicies :=
    deleteNetworkPolicies_maintains _
  have scc : Maintains M C B deleteKataInstallScc := by
    unfold deleteKataInstallScc
    grind
  have rest : Triple M C B (do
      orReturn deleteScc
      orReturn deleteKataInstallScc
      let kataNodeSelector ← orRetry getKataConfigNodeSelectorAsSelector ⟨true, 0⟩
      (unlabelNodesDaemonSet kataNodeSelector).orElse labelFailure
      orRetry removeFinalizer ⟨true, 0⟩ : Op Exit PUnit) Q := by
    refine Maintains.bind_triple (orReturn_maintains deleteScc_maintains) (fun _ => ?_) stoppedSecond
    refine Maintains.bind_triple (orReturn_maintains scc) (fun _ => ?_) stoppedSecond
    refine Maintains.bind_triple (orRetry_maintains getKataConfigNodeSelectorAsSelector_maintains)
      (fun selector => ?_) stoppedSecond
    exact Triple.andThen (unlabel selector) fun _ => release
  refine Maintains.bind_triple resetInProgressCondition_maintains (fun _ => ?_) stoppedFirst
  refine Maintains.bind_triple (orReturn_maintains monitor) (fun _ => ?_) stoppedFirst
  refine Maintains.bind_triple (orReturn_maintains policies) (fun _ => ?_) stoppedFirst
  refine triple_get_ite (Triple.andThen peerPods fun _ => ?_) (rest.pre fun memory w holds => ?_)
  · exact Maintains.bind_triple (deletePodVMImage_maintains settings pliant_conditions) (fun _ => rest)
      stoppedSecond
  · exact noPeerPods memory w (by simpa using holds)

theorem concludeDeletionDaemonSet_triple [Invariant M C B]
    (progress : Triple M C A (orReturn isKataUninstallDaemonSetUninstalling) fun result =>
      match result with
      | .ok false => B
      | _ => A)
    (finish : Triple M C B (finishDeletionDaemonSet settings) Q)
    (ended : ∀ result memory w, A memory w ∨ B memory w → Q result memory w) (justCreated : Bool) :
    Triple M C A (concludeDeletionDaemonSet settings justCreated) Q := by
  refine Maintains.bind_triple (maintains_ignore (updateStatusDaemonSet_maintains _)) (fun _ => ?_)
    fun _ memory w holds => ended _ memory w (.inl holds)
  refine Triple.bind progress (fun inProgress => ?_) fun _ memory w holds => ended _ memory w (.inl holds)
  cases inProgress with
  | true =>
    rw [Bool.or_true, if_pos rfl]
    exact triple_pure (P := A) fun memory w holds => ended _ memory w (.inl holds)
  | false =>
    cases justCreated with
    | true => exact triple_pure (P := B) fun memory w holds => ended _ memory w (.inr holds)
    | false => exact finish

theorem isKataUninstallDaemonSetUninstalling_maintains (checks : Passes M C A .checkAgents) :
    Maintains M C A isKataUninstallDaemonSetUninstalling :=
  maintains_bind (isKataNodePoolInState_maintains checks _) fun _ => maintains_pure _

theorem concludeDeletionDaemonSet_keeps
    (checks : Passes M C A .checkAgents) (finish : Triple M C A (finishDeletionDaemonSet settings) Q)
    (ended : ∀ result memory w, A memory w → Q result memory w) (justCreated : Bool) :
    Triple M C A (concludeDeletionDaemonSet settings justCreated) Q := by
  refine concludeDeletionDaemonSet_triple settings ?_ finish
    (fun result memory w holds => ended result memory w (holds.elim id id)) justCreated
  refine Triple.post (orReturn_maintains (isKataUninstallDaemonSetUninstalling_maintains checks)) ?_
  intro result memory w holds
  split <;> exact holds

theorem processKataConfigDeleteRequestDaemonSet_triple
    (enters : Triple M C P (mark .deleteRequestDaemonSet : Op Exit PUnit) fun _ => A)
    (eligible : Triple M C A checkDeletionEligibility (Onward A Q))
    (rest : Triple M C A (startUninstallation settings >>= concludeDeletionDaemonSet settings) Q)
    (stopped : ∀ error memory w, A memory w → Q (.error error) memory w) :
    Triple M C P (processKataConfigDeleteRequestDaemonSet settings) Q := by
  have uninstalling : Maintains M C A (setInProgressConditionToUninstalling : Op Exit PUnit) :=
    pliant.conditions.setter _ _ _
  refine Triple.bind enters (fun _ => ?_) stopped
  refine Triple.andThen eligible fun _ => ?_
  exact Maintains.bind_triple uninstalling (fun _ => rest) stopped

omit pliant in
theorem processDeleteRequest_triple
    (machineConfig : Triple M C (fun memory w => P memory w ∧ memory.deploymentMode = .machineConfigMode)
      (processKataConfigDeleteRequest settings) Q)
    (daemonSet : Triple M C (fun memory w => P memory w ∧ memory.deploymentMode = .daemonSetMode)
      (processKataConfigDeleteRequestDaemonSet settings) Q) :
    Triple M C P (processDeleteRequest settings) Q := by
  refine triple_get_bind fun r => ?_
  split
  · next mode => exact machineConfig.pre fun _ _ holds => ⟨holds.1 ▸ holds.2, holds.1 ▸ mode⟩
  · next mode => exact daemonSet.pre fun _ _ holds => ⟨holds.1 ▸ holds.2, holds.1 ▸ mode⟩

omit pliant in
theorem processInstallRequest_triple
    (machineConfig : Triple M C (fun memory w => P memory w ∧ memory.deploymentMode = .machineConfigMode)
      (processKataConfigInstallRequest settings) Q)
    (daemonSet : Triple M C (fun memory w => P memory w ∧ memory.deploymentMode = .daemonSetMode)
      (processKataConfigInstallRequestDaemonSet settings) Q) :
    Triple M C P (processInstallRequest settings) Q := by
  refine triple_get_bind fun r => ?_
  split
  · next mode => exact machineConfig.pre fun _ _ holds => ⟨holds.1 ▸ holds.2, holds.1 ▸ mode⟩
  · next mode => exact daemonSet.pre fun _ _ holds => ⟨holds.1 ▸ holds.2, holds.1 ▸ mode⟩

/-- The assertion allows an operation to be declared under way. -/
def Commences (M : Machine Req Response W) (C : Contract Req W) (A : Reconciler → W → Prop) : Prop :=
  Maintains M C A (setInProgressConditionToInstalling : Op Exit PUnit) ∧
    Maintains M C A (setInProgressConditionToUpdating : Op Exit PUnit)

/-- `concludeInstallation` as far as `postKataInstallation`, and whether it gets there. -/
def concludeUpdate (isMcoUpdating : Bool) : Op Exit Bool := do
  if isMcoUpdating && (← reconciler).status.getInProgressConditionValue = .conditionFalse then
    setInProgressConditionToUpdating
  if !isMcoUpdating && (← reconciler).status.waitingForMcoToStart then
    return false
  setWaitingForMcoToStart false
  Routine.ignore (updateStatus settings)
  return !isMcoUpdating

/-- `processKataConfigInstallRequest` as far as `postKataInstallation`. -/
def reachPostInstallation : Op Exit Bool := do
  mark .installRequest
  checkInstallPreconditions
  let machinePool ← orReturn getMcpName
  ensureFinalizer
  applyInstallation settings machinePool
  concludeUpdate settings (← isMcpUpdating machinePool)

def postInstallationIf (reached : Bool) : Op Exit PUnit :=
  if reached then postKataInstallation settings else Pure.pure ⟨⟩

omit pliant in
theorem concludeInstallation_eq (isMcoUpdating : Bool) : concludeInstallation settings isMcoUpdating =
    concludeUpdate settings isMcoUpdating >>= postInstallationIf settings := by
  have rest (r : Reconciler) : (if !isMcoUpdating && r.status.waitingForMcoToStart then Pure.pure ⟨⟩
      else do
        setWaitingForMcoToStart false
        Routine.ignore (updateStatus settings)
        if !isMcoUpdating then postKataInstallation settings else Pure.pure ⟨⟩ : Op Exit PUnit) =
      (if !isMcoUpdating && r.status.waitingForMcoToStart then Pure.pure false
      else do
        setWaitingForMcoToStart false
        Routine.ignore (updateStatus settings)
        Pure.pure !isMcoUpdating : Op Exit Bool) >>= postInstallationIf settings := by
    split
    · rfl
    · simp only [Routine.bind_assoc]
      rfl
  unfold concludeInstallation concludeUpdate
  simp only [Routine.bind_assoc]
  refine bind_congr fun r => ?_
  split
  · simp only [Routine.bind_assoc]
    exact bind_congr fun _ => bind_congr rest
  · simp only [Routine.bind_assoc]
    exact bind_congr rest

omit pliant in
theorem processKataConfigInstallRequest_eq : processKataConfigInstallRequest settings =
    reachPostInstallation settings >>= postInstallationIf settings := by
  unfold processKataConfigInstallRequest reachPostInstallation awaitInstallation
  simp only [Routine.bind_assoc, concludeInstallation_eq]

/-- The install request up to the point where the installation counts as done:
`P` holds until the finalizer is in place, and `A` afterwards. -/
theorem reachPostInstallation_triple [Reading M] [Tolerant M C P]
    {Q : Except Exit Bool → Reconciler → W → Prop}
    (enters : Triple M C S (mark .installRequest : Op Exit PUnit) fun _ => P)
    (ensures : Triple M C P ensureFinalizer (Onward A Q))
    (commences : Commences M C A) (samples : ∀ name, Passes M C A (.samplePool name))
    (nodes : ∀ selector, Updatable M C A (relabeled selector))
    (create : ∀ machinePool config, Maintains M C A (createMc settings machinePool config))
    (pools : ∀ machinePool, Maintains M C A (ensureKataOcPool machinePool))
    (stopped : ∀ error memory w, P memory w → Q (.error error) memory w)
    (ended : ∀ result memory w, A memory w → Q result memory w) :
    Triple M C S (reachPostInstallation settings) Q := by
  obtain ⟨installing, updating⟩ := commences
  have sample (name : String) : Maintains M C A (isMcpUpdating name : Op Exit Bool) :=
    isMcpUpdating_maintains (samples name)
  have label : Maintains M C A updateNodeLabels := updateNodeLabels_maintains nodes
  have join (pool : String) : Maintains M C A (joinKataOc pool) := by
    have ensure := pools pool
    unfold joinKataOc
    refine maintains_bind (maintains_orElse label) fun changed => ?_
    grind
  have apply (pool : String) : Maintains M C A (applyInstallation settings pool) := by
    unfold applyInstallation
    refine maintains_bind (orReturn_maintains getCustomKernelConfig_maintains) fun config => ?_
    refine maintains_bind (orRetry_maintains (create pool config)) fun created => ?_
    refine maintains_when installing ?_
    grind
  have status : Maintains M C A (updateStatus settings) := by grind
  have conclude (isUpdating : Bool) : Maintains M C A (concludeUpdate settings isUpdating) := by
    refine maintains_bind reconciler_maintains fun r => ?_
    refine maintains_when updating ?_
    refine maintains_bind reconciler_maintains fun r => ?_
    split
    · exact maintains_pure _
    · refine maintains_bind (setWaitingForMcoToStart_maintains false) fun _ => ?_
      exact maintains_bind (maintains_ignore status) fun _ => maintains_pure _
  refine Triple.bind enters (fun _ => ?_) stopped
  refine Maintains.bind_triple checkInstallPreconditions_maintains (fun _ => ?_) stopped
  refine Maintains.bind_triple (orReturn_maintains getMcpName_maintains) (fun pool => ?_) stopped
  refine Triple.andThen ensures fun _ => ?_
  refine Maintains.bind_triple (apply pool) (fun _ => ?_) fun _ => ended _
  exact Maintains.bind_triple (sample pool) (fun isUpdating => (conclude isUpdating).post ended) fun _ => ended _

theorem postInstallationIf_triple (post : Triple M C A (postKataInstallation settings) Q)
    (ended : ∀ result memory w, A memory w → Q result memory w) (reached : Bool) :
    Triple M C A (postInstallationIf settings reached) Q := by
  unfold postInstallationIf
  split
  · exact post
  · exact triple_pure (ended _)

theorem processKataConfigInstallRequest_triple [Reading M] [Tolerant M C P]
    (enters : Triple M C S (mark .installRequest : Op Exit PUnit) fun _ => P)
    (ensures : Triple M C P ensureFinalizer (Onward A Q))
    (commences : Commences M C A) (samples : ∀ name, Passes M C A (.samplePool name))
    (nodes : ∀ selector, Updatable M C A (relabeled selector))
    (create : ∀ machinePool config, Maintains M C A (createMc settings machinePool config))
    (pools : ∀ machinePool, Maintains M C A (ensureKataOcPool machinePool))
    (post : Triple M C A (postKataInstallation settings) Q)
    (stopped : ∀ error memory w, P memory w → Q (.error error) memory w)
    (ended : ∀ result memory w, A memory w → Q result memory w) :
    Triple M C S (processKataConfigInstallRequest settings) Q := by
  rw [processKataConfigInstallRequest_eq]
  have reach : Triple M C S (reachPostInstallation settings) (Onward A Q) := by
    refine reachPostInstallation_triple settings enters ensures commences samples nodes create pools stopped ?_
    rintro (_ | _) memory w holds
    · exact ended _ memory w holds
    · exact holds
  exact Triple.andThen reach (postInstallationIf_triple settings post ended)

omit pliant in
/-- Preparing the installation: `P` holds until the finalizer is in place, and `A`
afterwards. -/
theorem prepareInstallationDaemonSet_triple [Tolerant M C A] [Reading M]
    [Tolerant M C P] {Q : Except Exit DaemonSet → Reconciler → W → Prop}
    (nodes : ∀ selector, Updatable M C P (relabeled selector))
    (ensures : Triple M C P ensureFinalizer (Onward A Q))
    (stopped : ∀ error memory w, P memory w → Q (.error error) memory w)
    (ended : ∀ result memory w, A memory w → Q result memory w) :
    Triple M C P (prepareInstallationDaemonSet settings) Q := by
  have label : Maintains M C P updateNodeLabels := updateNodeLabels_maintains nodes
  have eligible : Maintains M C P checkNodeEligibility := by
    unfold checkNodeEligibility
    grind
  have scc : Maintains M C A ensureKataInstallSCC := by
    unfold ensureKataInstallSCC
    grind
  have policies : Maintains M C A createKataInstallNetworkPolicies :=
    ensureNetworkPolicies_maintains _
  refine Maintains.bind_triple reconciler_maintains (fun r => ?_) stopped
  refine triple_when (maintains_throw _) ?_ stopped
  refine triple_when (orReturn_maintains eligible) ?_ stopped
  refine Maintains.bind_triple (maintains_orElse label) (fun _ => ?_) stopped
  refine Maintains.bind_triple (orReturn_maintains createAuthJsonSecret_maintains) (fun _ => ?_) stopped
  refine Triple.andThen ensures fun _ => ?_
  refine Triple.post (Q := fun _ => A) ?_ ended
  change Maintains M C A _
  refine maintains_bind (orReturn_maintains scc) fun _ => ?_
  grind

theorem ensureInstallDaemonSet_maintains [Reading M] (commences : Commences M C A)
    (labels : Announces M C A .waitingToInstall)
    (daemonSets : Writable M C A .daemonSet) (ds : DaemonSet) :
    Maintains M C A (ensureInstallDaemonSet ds) := by
  have start : Maintains M C A (labelKataNodes .waitingToInstall : Op Exit PUnit) :=
    labelKataNodes_maintains labels
  have installing := commences.1
  unfold ensureInstallDaemonSet
  refine lookup_maintains fun found => ?_
  split <;> grind

/-- `concludeInstallationDaemonSet` as far as `postKataInstallation`. -/
def concludeAgents : Op Exit Bool := do
  let installInProgress ← orReturn isKataInstallDaemonSetInstalling
  if installInProgress && (← reconciler).status.getInProgressConditionValue = .conditionFalse then
    setInProgressConditionToUpdating
  Routine.ignore (updateStatusDaemonSet .installKata)
  return !installInProgress

omit pliant in
theorem concludeInstallationDaemonSet_eq : concludeInstallationDaemonSet settings =
    concludeAgents >>= postInstallationIf settings := by
  unfold concludeInstallationDaemonSet concludeAgents
  simp only [Routine.bind_assoc]
  refine bind_congr fun inProgress => bind_congr fun r => ?_
  split
  · simp only [Routine.bind_assoc]
    rfl
  · simp only [Routine.bind_assoc]
    rfl

theorem concludeAgents_maintains (commences : Commences M C A) (checks : Passes M C A .checkAgents) :
    Maintains M C A concludeAgents := by
  have progress : Maintains M C A isKataInstallDaemonSetInstalling :=
    maintains_bind (isKataNodePoolInState_maintains checks _) fun _ => maintains_pure _
  refine maintains_bind (orReturn_maintains progress) fun inProgress => ?_
  refine maintains_bind reconciler_maintains fun r => ?_
  refine maintains_when commences.2 ?_
  exact maintains_bind (maintains_ignore (updateStatusDaemonSet_maintains _)) fun _ => maintains_pure _

theorem concludeInstallationDaemonSet_triple
    (commences : Commences M C A) (checks : Passes M C A .checkAgents)
    (post : Triple M C A (postKataInstallation settings) Q)
    (ended : ∀ result memory w, A memory w → Q result memory w) :
    Triple M C A (concludeInstallationDaemonSet settings) Q := by
  rw [concludeInstallationDaemonSet_eq]
  exact Maintains.bind_triple (concludeAgents_maintains commences checks)
    (postInstallationIf_triple settings post ended) fun _ => ended _

end Progress

section Reporting

variable [reporting : Reporting M C A] (settings : Settings) {ε : Type}

@[grind ←]
theorem checkDeletionEligibility_maintains (passes : Passes M C A .deletionEligible) :
    Maintains M C A checkDeletionEligibility := by
  refine Triple.post (checkDeletionEligibility_triple (B := A) (Q := fun _ => A)
    ((passes Exit).steadily) reporting.stores fun _ _ _ holds => holds.elim id id) ?_
  rintro (_ | _) memory w holds
  · exact holds
  · exact holds

@[grind ←]
theorem storeStatusAfterDelete_maintains (outcome : Except Exit PUnit) :
    Maintains M C A (storeStatusAfterDelete outcome) := by
  have stores := reporting.stores
  have handOn : Maintains M C A (resume outcome) := by
    unfold resume
    split
    · exact maintains_pure _
    · exact maintains_throw _
  unfold storeStatusAfterDelete
  grind

theorem deleteAndStoreStatus_triple (process : Triple M C P (processDeleteRequest settings) fun _ => A) :
    Triple M C P (deleteAndStoreStatus settings) fun _ => A := by
  refine Triple.attempt_bind process fun outcome => ?_
  split
  · exact storeStatusAfterDelete_maintains _
  · split
    · exact maintains_throw _
    · exact storeStatusAfterDelete_maintains _

/-- What `afterInstall` does once the status is stored. -/
def completeInstallation (res : Result) : Op Exit Result := do
  match ← processDashboardConfigMap with
  | none => return ⟨true, 15⟩
  | some cMap =>
    let (res, err) ← installDashboard cMap res
    if (← reconciler).deploymentMode = .machineConfigMode then
      orReturn (processLogLevel (← reconciler).spec.logLevel) ⟨true, 15⟩
      return res
    match err with
    | none => return res
    | some error => Routine.throw { result := res, err := some error }

omit reporting in
theorem afterInstall_triple [Tolerant M C A] (oldObjStatus : KataConfigStatus) (res : Result)
    (stores : Triple M C (fun memory w => P memory w ∧ oldObjStatus ≠ memory.status) updateKataConfigStatus
      fun _ => A)
    (stands : ∀ memory w, P memory w → oldObjStatus = memory.status → A memory w) :
    Triple M C P (afterInstall oldObjStatus res) fun _ => A := by
  have rest : Maintains M C A (completeInstallation res) := by
    unfold completeInstallation
    refine maintains_bind processDashboardConfigMap_maintains fun dashboard => ?_
    split <;> grind
  refine triple_get_ite ?_ (Triple.pre (P := A) rest fun memory w holds => ?_)
  · exact Triple.bind (Triple.orElse (Q := fun _ => A) stores) (fun _ => rest) fun _ _ _ => id
  · exact stands memory w holds.1 (not_not.mp holds.2)

theorem afterInstall_maintains (oldObjStatus : KataConfigStatus) (res : Result) :
    Maintains M C A (afterInstall oldObjStatus res) :=
  afterInstall_triple oldObjStatus res reporting.stores.given fun _ _ holds _ => holds

theorem installBranch_triple (process : Triple M C P (processInstallRequest settings) fun _ => A)
    (oldObjStatus : KataConfigStatus) :
    Triple M C P (installBranch settings oldObjStatus) fun _ => A := by
  refine Triple.attempt_bind process fun outcome => ?_
  split
  · exact afterInstall_maintains _ _
  · split
    · exact maintains_throw _
    · exact afterInstall_maintains _ _

end Reporting

section Whole

variable [lenient : Lenient M C A] (settings : Settings) {ε : Type}

@[grind ←]
theorem removeFinalizer_maintains (passes : Passes M C A .removeFinalizer) :
    Maintains M C A removeFinalizer :=
  maintains_bind (lenient.finalizers _ _ fun _ => by simp) fun _ => maintains_bind (passes _) fun _ => lenient.updates

@[grind ←]
theorem ensureFinalizer_maintains : Maintains M C A ensureFinalizer := by
  have add : Maintains M C A addFinalizer :=
    maintains_bind (lenient.finalizers _ _ fun _ => by split <;> simp) fun _ => lenient.updates
  unfold ensureFinalizer
  grind

@[grind ←]
theorem finishDeletion_maintains [KeepsWebhook settings M C A] (passes : Passes M C A .removeFinalizer)
    (daemonSets : Deletable M C A .daemonSet) (pools : Deletable M C A .machineConfigPool)
    (isConverged : Bool) :
    Maintains M C A (finishDeletion settings isConverged) := by
  have peerPods : Maintains M C A (disablePeerPods settings) := by grind
  refine finishDeletion_triple (B := A) (D := A) settings ?_ (fun _ _ _ => id) daemonSets ?_
    (fun _ _ holds => holds.1) (orRetry_maintains (removeFinalizer_maintains passes)) ?_
  · exact fun _ => (deleteKataOcPool_maintains pools).steadily
  · exact (peerPods.steadily).given
  · exact fun _ _ _ holds => holds.elim id fun holds => holds.elim id id

theorem awaitDeletion_maintains [KeepsWebhook settings M C A]
    (passes : ∀ point, point.uninstalls false = true → Passes M C A point)
    (daemonSets : Deletable M C A .daemonSet) (pools : Deletable M C A .machineConfigPool)
    (labelingChanged isMcDeleted : Bool) :
    Maintains M C A (awaitDeletion settings labelingChanged isMcDeleted) :=
  awaitDeletion_triple (B := fun _ => A) settings (passes _ rfl) isConvergedAndKnown_maintains
    (fun _ _ => passes _ rfl) (finishDeletion_maintains settings (passes _ rfl) daemonSets pools)
    (fun _ _ _ => id) (fun _ _ _ _ => id) labelingChanged isMcDeleted

theorem processKataConfigDeleteRequest_maintains [Reading M] [KeepsWebhook settings M C A]
    (passes : ∀ point, point.uninstalls false = true → Passes M C A point)
    (nodes : Updatable M C A unlabeled)
    (remove : ∀ machinePool, Maintains M C A (removeMc settings machinePool))
    (daemonSets : Deletable M C A .daemonSet) (pools : Deletable M C A .machineConfigPool) :
    Maintains M C A (processKataConfigDeleteRequest settings) :=
  processKataConfigDeleteRequest_triple settings
    (passes _ rfl _) ((checkDeletionEligibility_maintains (passes _ rfl)).steadily)
    (fun selector => Maintains.onward
      (maintains_orElse (unlabelNodes_maintains (passes _ rfl) nodes selector)) fun _ _ _ => id)
    (fun pool => (remove pool).steadily)
    (awaitDeletion_maintains settings passes daemonSets pools)
    fun _ _ _ holds => holds.elim id id

theorem finishDeletionDaemonSet_maintains [Reading M] [KeepsWebhook settings M C A] (passes : Passes M C A .removeFinalizer)
    (unlabels : Passes M C A .unlabelNodesDaemonSet) (nodes : Updatable M C A unlabeledDaemonSet)
    (daemonSets : Deletable M C A .daemonSet) : Maintains M C A (finishDeletionDaemonSet settings) := by
  have peerPods : Maintains M C A (orReturn (disablePeerPodsMiscConfigs settings)) := by grind
  refine finishDeletionDaemonSet_triple (B := A) (D := A) settings daemonSets ?_ (fun _ _ holds => holds.1) ?_
    (orRetry_maintains (removeFinalizer_maintains passes)) fun _ _ _ holds => holds.elim id id
  · exact (peerPods.steadily).given
  · exact fun selector => Maintains.onward (maintains_orElse
      (unlabelNodesDaemonSet_maintains unlabels nodes selector)) fun _ _ _ => id

theorem processKataConfigDeleteRequestDaemonSet_maintains [Reading M] [KeepsWebhook settings M C A]
    (passes : ∀ point, point.uninstalls true = true → Passes M C A point)
    (nodes : Updatable M C A unlabeledDaemonSet)
    (labels : Announces M C A .waitingToUninstall)
    (daemonSets : Writable M C A .daemonSet) :
    Maintains M C A (processKataConfigDeleteRequestDaemonSet settings) := by
  have finish : Maintains M C A (finishDeletionDaemonSet settings) :=
    finishDeletionDaemonSet_maintains settings (passes _ rfl) (passes _ rfl) nodes daemonSets.deletable
  have start : Maintains M C A (startUninstallation settings) :=
    startUninstallation_maintains settings labels daemonSets
  exact processKataConfigDeleteRequestDaemonSet_triple settings (passes _ rfl _)
    ((checkDeletionEligibility_maintains (passes _ rfl)).steadily)
    (maintains_bind start (concludeDeletionDaemonSet_keeps settings (passes _ rfl) finish fun _ _ _ => id))
    fun _ _ _ => id

theorem processDeleteRequest_maintains [Reading M] [KeepsWebhook settings M C A]
    (passes : ∀ daemonSets point, point.uninstalls daemonSets = true → Passes M C A point) (nodes : Writable M C A .node)
    (remove : ∀ machinePool, Maintains M C A (removeMc settings machinePool))
    (daemonSets : Writable M C A .daemonSet) (pools : Deletable M C A .machineConfigPool) :
    Maintains M C A (processDeleteRequest settings) :=
  processDeleteRequest_triple settings
    ((processKataConfigDeleteRequest_maintains settings (passes false) (nodes.updatable _) remove
      daemonSets.deletable pools).given)
    ((processKataConfigDeleteRequestDaemonSet_maintains settings (passes true) (nodes.updatable _)
      (nodes.updatable _) daemonSets).given)

theorem prepareInstallationDaemonSet_maintains [Reading M]
    (nodes : ∀ selector, Updatable M C A (relabeled selector)) :
    Maintains M C A (prepareInstallationDaemonSet settings) :=
  prepareInstallationDaemonSet_triple settings nodes
    (ensureFinalizer_maintains.steadily) (fun _ _ _ => id)
    fun _ _ _ => id

theorem processKataConfigInstallRequest_maintains [Reading M] [KeepsWebhook settings M C A] (commences : Commences M C A)
    (passes : ∀ point, point.installs false = true → Passes M C A point)
    (nodes : ∀ selector, Updatable M C A (relabeled selector))
    (create : ∀ machinePool config, Maintains M C A (createMc settings machinePool config))
    (pools : Writable M C A .machineConfigPool)
    (daemonSets : Writable M C A .daemonSet) (creates : CreatesClasses settings M C A) :
    Maintains M C A (processKataConfigInstallRequest settings) :=
  processKataConfigInstallRequest_triple settings (passes _ rfl _)
    (ensureFinalizer_maintains.steadily) commences (fun _ => passes _ rfl) nodes create
    (ensureKataOcPool_maintains pools) (postKataInstallation_maintains settings (passes _ rfl) daemonSets creates)
    (fun _ _ _ => id) fun _ _ _ => id

theorem processKataConfigInstallRequestDaemonSet_maintains [Reading M] [KeepsWebhook settings M C A]
    (commences : Commences M C A) (passes : ∀ point, point.installs true = true → Passes M C A point)
    (nodes : ∀ selector, Updatable M C A (relabeled selector))
    (labels : Announces M C A .waitingToInstall)
    (daemonSets : Writable M C A .daemonSet) (creates : CreatesClasses settings M C A) :
    Maintains M C A (processKataConfigInstallRequestDaemonSet settings) := by
  refine maintains_bind (passes _ rfl _) fun _ => ?_
  refine maintains_bind (prepareInstallationDaemonSet_maintains settings nodes) fun ds => ?_
  refine maintains_bind (ensureInstallDaemonSet_maintains commences labels daemonSets ds) fun _ => ?_
  exact concludeInstallationDaemonSet_triple settings commences (passes _ rfl)
    (postKataInstallation_maintains settings (passes _ rfl) daemonSets creates)
    fun _ _ _ => id

theorem installBranch_maintains [Reading M] [KeepsWebhook settings M C A] (commences : Commences M C A)
    (passes : ∀ daemonSets point, point.installs daemonSets = true → Passes M C A point)
    (nodes : ∀ selector, Updatable M C A (relabeled selector))
    (labels : Announces M C A .waitingToInstall)
    (create : ∀ machinePool config, Maintains M C A (createMc settings machinePool config))
    (pools : Writable M C A .machineConfigPool)
    (daemonSets : Writable M C A .daemonSet) (creates : CreatesClasses settings M C A)
    (oldObjStatus : KataConfigStatus) :
    Maintains M C A (installBranch settings oldObjStatus) :=
  installBranch_triple settings (processInstallRequest_triple settings
    ((processKataConfigInstallRequest_maintains settings commences (passes false) nodes create
      pools daemonSets creates).given)
    ((processKataConfigInstallRequestDaemonSet_maintains settings commences (passes true)
      nodes labels daemonSets creates).given))
    oldObjStatus

end Whole

section Both

theorem Admits.both {r : Req} (first : Admits M C A r) (second : Admits M .free B r) :
    Admits M C (Both A B) r := by
  intro memory w holds
  obtain ⟨good, kept⟩ := first memory w holds.1
  obtain ⟨_, keptAlso⟩ := second memory w holds.2
  exact ⟨good, fun response w' reply => ⟨kept response w' reply, keptAlso response w' reply⟩⟩

theorem Writable.both {k : Kind} (first : Writable M C A k) (second : Writable M .free B k) :
    Writable M C (Both A B) k := fun r writes => (first r writes).both (second r writes)

theorem Passes.both {point : Point} (first : Passes M C A point) (second : Passes M .free B point) :
    Passes M C (Both A B) point := fun ε => (first ε).both (second ε)

theorem Commences.both (first : Commences M C A) (second : Commences M .free B) :
    Commences M C (Both A B) := ⟨first.1.both second.1, first.2.both second.2⟩

theorem KeepsClasses.both {settings : Settings} (first : KeepsClasses settings M C A)
    (second : KeepsClasses settings M .free B) : KeepsClasses settings M C (Both A B) where
  create request := (first.create request).both (second.create request)
  delete name := (first.delete name).both (second.delete name)
  finalizers names := (first.finalizers names).both (second.finalizers names)

instance {settings : Settings} [first : KeepsWebhook settings M C A]
    [second : KeepsWebhook settings M .free B] : KeepsWebhook settings M C (Both A B) where
  createDeployment := first.createDeployment.both second.createDeployment
  createService := first.createService.both second.createService
  createConfig := first.createConfig.both second.createConfig
  deleteDeployment := first.deleteDeployment.both second.deleteDeployment
  deleteService := first.deleteService.both second.deleteService
  deleteConfig := first.deleteConfig.both second.deleteConfig

instance [first : Tolerant M C A] [second : Tolerant M .free B] : Tolerant M C (Both A B) where
  reads r reads notMark := (first.reads r reads notMark).both (second.reads r reads notMark)
  side k side := (first.side k side).both (second.side k side)
  kataNodes change memory w holds :=
    ⟨first.kataNodes change memory w holds.1, second.kataNodes change memory w holds.2⟩
  imageGenerator ig memory w holds :=
    ⟨first.imageGenerator ig memory w holds.1, second.imageGenerator ig memory w holds.2⟩

instance [first : Pliant M C A] [second : Pliant M .free B] : Pliant M C (Both A B) where
  conditions ε value reason message notInstalling notUpdating :=
    (first.conditions ε value reason message notInstalling notUpdating).both
      (second.conditions ε value reason message notInstalling notUpdating)
  waiting memory w waiting holds :=
    ⟨first.waiting memory w waiting holds.1, second.waiting memory w waiting holds.2⟩

instance [first : Reporting M C A] [second : Reporting M .free B] : Reporting M C (Both A B) where
  stores := first.stores.both second.stores

instance [first : Lenient M C A] [second : Lenient M .free B] : Lenient M C (Both A B) where
  modes memory w mode holds := ⟨first.modes memory w mode holds.1, second.modes memory w mode holds.2⟩
  finalizers ε change own := (first.finalizers ε change own).both (second.finalizers ε change own)
  updates := first.updates.both second.updates

end Both

end SandboxedContainers
