import SandboxedContainers.NodeStatus

/-!
# Installing and uninstalling through MachineConfigs

`processKataConfigInstallRequest` and `processKataConfigDeleteRequest`, cut into
the phases their comments describe.
-/

namespace SandboxedContainers

open Lib

def setWaitingForMcoToStart {ε : Type} (waiting : Bool) : Op ε PUnit :=
  setStatus fun status => { status with waitingForMcoToStart := waiting }

def setFinalizers {ε : Type} (change : List String → List String) : Op ε PUnit :=
  Routine.modify fun r => r.setKataConfig
    { r.current with metadata := { r.current.metadata with
      finalizers := change r.current.metadata.finalizers } }

def updateKataConfig : Op Err PUnit := do
  let r ← reconciler
  let answer ← clientUpdate r.current
  Routine.modify fun r => r.setKataConfig (decodeKataConfig answer r.current)

def addFinalizer : Op Err PUnit := do
  setFinalizers fun finalizers =>
    if finalizers.contains kataConfigFinalizer then finalizers else finalizers ++ [kataConfigFinalizer]
  updateKataConfig

def removeFinalizer : Op Err PUnit := do
  setFinalizers fun finalizers => finalizers.filter (· ≠ kataConfigFinalizer)
  mark .removeFinalizer
  updateKataConfig

def ensureFinalizer : Op Exit PUnit := do
  if !(← reconciler).current.metadata.finalizers.contains kataConfigFinalizer then
    orReturn addFinalizer

section PostInstallation

variable (settings : Settings)

def kataRequest (checkNodeEligibility : Bool) : RuntimeClassRequest where
  name := kataRuntimeClassName
  cpuOverhead := "0.25"
  memoryOverhead := "350Mi"
  handler := kataRuntimeClassName
  additionalNodeLabels := some (if checkNodeEligibility then [(runtimeKataLabel, "true")] else [])

def kataNvidiaGPURequest : RuntimeClassRequest where
  name := kataNvidiaGPURuntimeClassName
  cpuOverhead := "1"
  memoryOverhead := "4096Mi"
  handler := kataNvidiaGPURuntimeClassName
  additionalNodeLabels := some nvidiaGPUNodeLabels

def postKataInstallation : Op Exit PUnit := do
  mark .postKataInstallation
  resetInProgressCondition
  let r ← reconciler
  orReturn (createRuntimeClass settings (kataRequest r.spec.checkNodeEligibility)) ⟨true, 15⟩
  if settings.goarch ≠ "s390x" then
    orReturn (createRuntimeClass settings kataNvidiaGPURequest) ⟨true, 15⟩
  orReturn createScc ⟨true, 15⟩
  orReturn (createDaemonsetForMonitor settings) ⟨true, 15⟩
  if r.spec.enablePeerPods then
    enablePeerPods settings

end PostInstallation

section Install

variable (settings : Settings)

/-- Deploy the node feature rule of a mixed cluster, or remove a left-over one. -/
def reconcileNodeFeatureRule : Op Exit PUnit := do
  if (← reconciler).spec.enableMixedCluster then
    orReturn checkNFDInstalled ⟨true, 30⟩
    orReturn ensureNodeFeatureRule ⟨true, 0⟩
  else if ← orReturn nodeFeatureRuleExists ⟨true, 0⟩ then
    orReturn deleteNodeFeatureRule ⟨true, 0⟩

def checkInstallPreconditions : Op Exit PUnit := do
  if (← reconciler).spec.checkNodeEligibility then
    orReturn checkNodeEligibility ⟨true, 20⟩
  reconcileNodeFeatureRule

def ensureKataOcPool (machinePool : String) : Op Exit PUnit := do
  match ← Routine.attempt (clientGet .machineConfigPool (poolKey machinePool)) with
  | .ok _ => return ⟨⟩
  | .error error =>
    if !error.isNotFound then
      Routine.throw { err := some error }
    let mcp ← newMCPforCR
    let _ ← orReturn (clientCreate mcp)
    return ⟨⟩

def joinKataOc (machinePool : String) : Op Exit PUnit := do
  let labelingChanged ← updateNodeLabels.orElse labelFailure
  if labelingChanged then
    if !(← isMcpUpdating machinePool) then
      setWaitingForMcoToStart true
  ensureKataOcPool machinePool

def concludeInstallation (isMcoUpdating : Bool) : Op Exit PUnit := do
  if isMcoUpdating && (← reconciler).status.getInProgressConditionValue = .conditionFalse then
    setInProgressConditionToUpdating
  if !isMcoUpdating && (← reconciler).status.waitingForMcoToStart then
    return ⟨⟩
  setWaitingForMcoToStart false
  Routine.ignore (updateStatus settings)
  if !isMcoUpdating then
    postKataInstallation settings

def awaitInstallation (machinePool : String) : Op Exit PUnit := do
  concludeInstallation settings (← isMcpUpdating machinePool)

def applyInstallation (machinePool : String) : Op Exit PUnit := do
  let customKernelCfg ← orReturn getCustomKernelConfig
  let wasMcJustCreated ← orRetry (createMc settings machinePool customKernelCfg) ⟨true, 0⟩
  if wasMcJustCreated then
    setInProgressConditionToInstalling
  if machinePool ≠ "master" then
    joinKataOc machinePool
  else if wasMcJustCreated then
    setWaitingForMcoToStart true

def processKataConfigInstallRequest : Op Exit PUnit := do
  mark .installRequest
  checkInstallPreconditions
  let machinePool ← orReturn getMcpName
  ensureFinalizer
  applyInstallation settings machinePool
  awaitInstallation settings machinePool

end Install

section Delete

variable (settings : Settings)

/-- Delete the operator's MachineConfig; the result says whether it was already
gone.  An error of the deletion itself does not stop the uninstallation. -/
def removeMc (machinePool : String) : Op Exit Bool := do
  let mc ← orReturn (newMCForCR settings machinePool none)
  match ← Routine.attempt (clientGet .machineConfig ⟨"", mc.metadata.name⟩) with
  | .error error =>
    if !error.isNotFound then
      Routine.throw { err := some error }
    setImgMc none
    return true
  | .ok found =>
    refreshImgMc found
    Routine.ignore (clientDelete .machineConfig ⟨"", mc.metadata.name⟩)
    return false

def deleteKataOcPool : Op Exit PUnit := do
  match ← Routine.attempt (clientGet .machineConfigPool (poolKey "kata-oc")) with
  | .ok _ => orReturn (clientDelete .machineConfigPool (poolKey "kata-oc"))
  | .error error =>
    if !error.isNotFound then
      Routine.throw { err := some error }

def finishDeletion (isConvergedCluster : Bool) : Op Exit PUnit := do
  resetInProgressCondition
  if !isConvergedCluster then
    deleteKataOcPool
  orReturn (deleteDaemonsetForMonitor settings) ⟨true, 15⟩
  if (← reconciler).spec.enablePeerPods then
    disablePeerPods settings
  orReturn deleteNodeFeatureRule ⟨true, 0⟩
  orReturn deleteScc ⟨true, 15⟩
  orRetry removeLogLevel ⟨true, 0⟩
  orRetry removeFinalizer ⟨true, 0⟩

def concludeDeletion (isConvergedCluster isMcoUpdating : Bool) : Op Exit PUnit := do
  if !isMcoUpdating && (← reconciler).status.waitingForMcoToStart then
    return ⟨⟩
  setWaitingForMcoToStart false
  Routine.ignore (updateStatus settings)
  if !isMcoUpdating then
    finishDeletion settings isConvergedCluster

def awaitDeletion (labelingChanged isMcDeleted : Bool) : Op Exit PUnit := do
  mark .chooseTargetPool
  let isConvergedCluster ← isConvergedAndKnown
  if (isConvergedCluster && !isMcDeleted) || (!isConvergedCluster && labelingChanged) then
    setWaitingForMcoToStart true
  concludeDeletion settings isConvergedCluster
    (← isMcpUpdating (if isConvergedCluster then "master" else "worker"))

def processKataConfigDeleteRequest : Op Exit PUnit := do
  mark .deleteRequest
  let machinePool ← orReturn getMcpName ⟨true, 15⟩
  checkDeletionEligibility
  let kataNodeSelector ← orRetry getKataConfigNodeSelectorAsSelector ⟨true, 0⟩
  let labelingChanged ← (unlabelNodes kataNodeSelector).orElse labelFailure
  setInProgressConditionToUninstalling
  let isMcDeleted ← removeMc settings machinePool
  awaitDeletion settings labelingChanged isMcDeleted

end Delete

end SandboxedContainers
