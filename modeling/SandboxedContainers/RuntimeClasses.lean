import SandboxedContainers.Lib.Upsert
import SandboxedContainers.Nodes

/-!
# Runtime classes

Creation and deletion of the operator's runtime classes, the list of their names
in the status, and the check for running kata pods that goes by that list.
-/

namespace SandboxedContainers

open Lib

def runtimeClassFinalizerName : String := "kataconfig.openshift.io/runtime-class-cleanup"
def kataConfigFinalizer : String := "kataconfiguration.openshift.io/finalizer"

def kataRuntimeClassName : String := "kata"
def kataNvidiaGPURuntimeClassName : String := "kata-nvidia-gpu"
def kataCCRuntimeClassName : String := "kata-cc"
def kataNvidiaGPUCCRuntimeClassName : String := "kata-cc-nvidia-gpu"
def peerpodsRuntimeClassName : String := "kata-remote"

def nodeTypeLabelKey : String := "kataconfiguration.openshift.io/node-type"
def kataCapableLabelKey : String := "kataconfiguration.openshift.io/kata-capable"
def nestedVirtLabelKey : String := "kataconfiguration.openshift.io/nested-virt-capable"

/-- Two references are to the same object if kind and name agree; the uid does not count. -/
def referent (reference : OwnerReference) : String × String := (reference.kind, reference.name)

/-- `controllerutil.SetControllerReference` with the `KataConfig` as the owner. -/
def setControllerReference {k : Kind} (object : Object k) : Op Err (Object k) := do
  let r ← reconciler
  let owner := r.current.metadata
  let reference : OwnerReference := ⟨"KataConfig", owner.name, owner.uid, true⟩
  if (object.metadata.ownerReferences.find? OwnerReference.controller).any fun existing =>
      referent existing ≠ referent reference then
    Routine.throw (.new "object is already owned by another controller")
  return { object with metadata := { object.metadata with
    ownerReferences := upsert referent reference object.metadata.ownerReferences } }

theorem setControllerReference_yields {k : Kind} {object : Object k} {p : Object k → Prop}
    (holds : ∀ references, p { object with metadata := { object.metadata with ownerReferences := references } }) :
    Routine.Yields p (setControllerReference object) := by
  refine Routine.yields_bind fun r => ?_
  dsimp only
  split
  · exact Routine.yields_bind fun _ => Routine.yields_pure (holds _)
  · exact Routine.yields_pure (holds _)

/-- The label a runtime class adds to its node selector on a mixed cluster. -/
def mixedClusterLabels (runtimeClassName : String) : List (String × String) :=
  if runtimeClassName = kataRuntimeClassName then [(kataCapableLabelKey, "true")]
  else if runtimeClassName = peerpodsRuntimeClassName then [(nodeTypeLabelKey, "virtual")]
  else if runtimeClassName = kataNvidiaGPURuntimeClassName ∨
      runtimeClassName = kataCCRuntimeClassName ∨
      runtimeClassName = kataNvidiaGPUCCRuntimeClassName then [(nodeTypeLabelKey, "bare-metal")]
  else []

/-- The parameters of `createRuntimeClass`; the labels are nil for peer pods. -/
structure RuntimeClassRequest where
  name : String
  cpuOverhead : String
  memoryOverhead : String
  extResOverhead : String := ""
  handler : String
  additionalNodeLabels : Option (List (String × String))

def schedulingOf (body : RuntimeClassBody) : Option Scheduling := body.scheduling

/-- Apply the merge patch that turns the scheduling `found` into `wanted`. -/
def patchScheduling (found : Option Scheduling) (wanted : Scheduling)
    (body : RuntimeClassBody) : RuntimeClassBody :=
  let old := (found.map Scheduling.nodeSelector).getD ∅
  let current := (body.scheduling.map Scheduling.nodeSelector).getD ∅
  { body with scheduling := some ⟨StrMap.mergePatch old wanted.nodeSelector current, wanted.tolerations⟩ }

section Create

variable (settings : Settings) (request : RuntimeClassRequest)

/-- The number of selected nodes that carry the additional labels matters only
when node eligibility is checked. -/
def hasEligibleNodes : Op Err Bool := do
  let r ← reconciler
  if !r.spec.checkNodeEligibility then
    return true
  let selector ← getKataConfigNodeSelectorAsSelector.orElse (.wrap "failed to build node selector: ")
  let nodes ← (clientList .node
    (selector ++ Selector.ofSet (request.additionalNodeLabels.getD []))).orElse
      (.wrap "failed to list nodes: ")
  return !nodes.isEmpty

def wantedRuntimeClass : Op Err RuntimeClass := do
  let handler :=
    if settings.getenv "RUST_RUNTIME" ≠ "" then "rs-" ++ request.handler else request.handler
  let nodeSelector ← getNodeSelectorAsMap
  let r ← reconciler
  let eligible := if r.spec.checkNodeEligibility then request.additionalNodeLabels.getD [] else []
  let mixed := if r.spec.enableMixedCluster then mixedClusterLabels request.name else []
  let extended := if request.extResOverhead ≠ "" then [(request.extResOverhead, "1")] else []
  setControllerReference ⟨{ name := request.name, finalizers := [runtimeClassFinalizerName] },
    show RuntimeClassBody from
      { handler := handler
        podFixed := [("cpu", request.cpuOverhead), ("memory", request.memoryOverhead)] ++ extended
        scheduling := some ⟨StrMap.ofList (nodeSelector ++ eligible ++ mixed), []⟩ }⟩

/-- The selector a class is created with: the nodes with the label, those with the
additional labels if eligibility is checked, those of the right type on a mixed cluster. -/
def freshSelector (label : String) (spec : KataConfigSpec) (request : RuntimeClassRequest) : StrMap :=
  StrMap.ofList ([(label, "")] ++
    (if spec.checkNodeEligibility then request.additionalNodeLabels.getD [] else []) ++
    (if spec.enableMixedCluster then mixedClusterLabels request.name else []))

def recordRuntimeClass (name : String) (status : KataConfigStatus) : KataConfigStatus :=
  if status.runtimeClasses.contains name then status
  else { status with runtimeClasses := status.runtimeClasses ++ [name] }

def applyRuntimeClass (rc : RuntimeClass) : Op Err PUnit := do
  match ← Routine.attempt (clientGet .runtimeClass ⟨"", rc.metadata.name⟩) with
  | .error error =>
    if !error.isNotFound then
      Routine.throw error
    let _ ← (clientCreate rc).orElse
      (.wrap ("error creating " ++ rc.metadata.name ++ " runtime class: "))
    return ⟨⟩
  | .ok foundRc =>
    let found := schedulingOf foundRc.body
    let wanted := (schedulingOf rc.body).getD ⟨∅, []⟩
    if found = some wanted then
      return ⟨⟩
    let _ ← (clientPatch .runtimeClass ⟨"", rc.metadata.name⟩ (patchScheduling found wanted)).orElse
      (.wrap ("error updating " ++ rc.metadata.name ++ " runtime class scheduling: "))
    return ⟨⟩

def createRuntimeClass : Op Err PUnit := do
  if !(← hasEligibleNodes request) then
    return ⟨⟩
  applyRuntimeClass (← wantedRuntimeClass settings request)
  setStatus (recordRuntimeClass request.name)

end Create

def forgetRuntimeClass (name : String) (status : KataConfigStatus) : KataConfigStatus :=
  { status with runtimeClasses := status.runtimeClasses.erase name }

def deleteRuntimeClass (runtimeClassName : String) : Op Err PUnit := do
  match ← Routine.attempt (clientGet .runtimeClass ⟨"", runtimeClassName⟩) with
  | .error error => if error.isNotFound then return ⟨⟩ else Routine.throw error
  | .ok _ =>
    match ← Routine.attempt (clientDelete .runtimeClass ⟨"", runtimeClassName⟩) with
    | .error error => if error.isNotFound then return ⟨⟩ else Routine.throw error
    | .ok _ => setStatus (forgetRuntimeClass runtimeClassName)

/-- Add the cleanup finalizer to the listed runtime classes that lack it. -/
def ensureFinalizers : List String → Op Err PUnit
  | [] => pure ⟨⟩
  | name :: rest => do
    match ← Routine.attempt (clientGet .runtimeClass ⟨"", name⟩) with
    | .error error => if error.isNotFound then ensureFinalizers rest else Routine.throw error
    | .ok rc =>
      if rc.metadata.finalizers.contains runtimeClassFinalizerName then ensureFinalizers rest
      else
        let _ ← clientUpdate { rc with metadata := { rc.metadata with
          finalizers := rc.metadata.finalizers ++ [runtimeClassFinalizerName] } }
        ensureFinalizers rest

def ensureRuntimeClassFinalizers : Op Err PUnit :=
  ensureFinalizers [kataCCRuntimeClassName, peerpodsRuntimeClassName, kataRuntimeClassName]

def podRuntimeClassName (pod : Pod) : Option String :=
  (show PodBody from pod.body).runtimeClassName

def blockingRuntimeClass (runtimeClasses : List String) : List Pod → Option String
  | [] => none
  | pod :: rest =>
    match podRuntimeClassName pod with
    | some name => if runtimeClasses.contains name then some name
        else blockingRuntimeClass runtimeClasses rest
    | none => blockingRuntimeClass runtimeClasses rest

def listKataPods : Op Err PUnit := do
  let podList ← (clientList .pod).orElse fun error =>
    .new ("failed to list kata pods: " ++ error.message)
  let r ← reconciler
  match blockingRuntimeClass r.status.runtimeClasses podList with
  | none => return ⟨⟩
  | some name => Routine.throw (.new ("existing pods using \"" ++ name ++
      "\" RuntimeClass found. Please delete the pods manually for KataConfig deletion to proceed"))

/-- `Status().Update` of the `KataConfig` the reconciler holds. -/
def updateKataConfigStatus : Op Err PUnit := do
  let r ← reconciler
  let answer ← clientStatusUpdate r.current
  Routine.modify fun r => r.setKataConfig (decodeKataConfig answer r.current)

def checkDeletionEligibility : Op Exit PUnit := do
  let r ← reconciler
  if r.current.metadata.finalizers.contains kataConfigFinalizer then
    match ← Routine.attempt listKataPods with
    | .ok _ => mark .deletionEligible
    | .error error =>
      setInProgressConditionToBlockedByExistingKataPods error.message
      orReturn updateKataConfigStatus
      Routine.throw { result := ⟨true, 15⟩, err := some error }

end SandboxedContainers
