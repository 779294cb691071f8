import SandboxedContainers.DaemonSetMode

/-!
# The reconciliation of a KataConfig

`reconcile` is one call of `Reconcile`: fetch the `KataConfig`, run migrations and
feature gates, take the delete or the install branch, and store the status.
-/

namespace SandboxedContainers

open Lib

def resume {α : Type} : Except Exit α → Op Exit α
  | .ok value => pure value
  | .error exit => Routine.throw exit

def isPanic : Exit → Bool
  | { err := some (.panic _), .. } => true
  | _ => false

def fetchKataConfig (key : Key) : Op Exit Bool := do
  Routine.modify fun r => r.setKataConfig emptyKataConfig
  match ← Routine.attempt (clientGet .kataConfig key) with
  | .ok kataConfig =>
    Routine.modify fun r => r.setKataConfig kataConfig
    return true
  | .error error =>
    if error.isNotFound then return false else Routine.throw { err := some error }

section

variable (settings : Settings)

def processDeleteRequest : Op Exit PUnit := do
  match (← reconciler).deploymentMode with
  | .machineConfigMode => processKataConfigDeleteRequest settings
  | .daemonSetMode => processKataConfigDeleteRequestDaemonSet settings

def processInstallRequest : Op Exit PUnit := do
  match (← reconciler).deploymentMode with
  | .machineConfigMode => processKataConfigInstallRequest settings
  | .daemonSetMode => processKataConfigInstallRequestDaemonSet settings

/-- Store the status after a delete request, whatever its outcome.  A failure is
not reported once the finalizer has been removed. -/
def storeStatusAfterDelete (outcome : Except Exit PUnit) : Op Exit PUnit := do
  match ← Routine.attempt updateKataConfigStatus with
  | .ok _ => resume outcome
  | .error updateErr =>
    if (← reconciler).current.metadata.finalizers.contains kataConfigFinalizer then
      Routine.throw { err := some updateErr }
    else resume outcome

def deleteAndStoreStatus : Op Exit PUnit := do
  match ← Routine.attempt (processDeleteRequest settings) with
  | .ok _ => storeStatusAfterDelete (.ok ⟨⟩)
  | .error exit =>
    if isPanic exit then Routine.throw exit else storeStatusAfterDelete (.error exit)

def deleteBranch : Op Exit PUnit := do
  mark .deleteBranch
  deleteAndStoreStatus settings

def installDashboard (cMap : ConfigMap) (res : Result) : Op Exit (Result × Option Err) := do
  match ← Routine.attempt (clientGet .configMap cMap.key) with
  | .ok _ => return (res, none)
  | .error error =>
    if !error.isNotFound then
      return (⟨true, 15⟩, some error)
    match ← Routine.attempt (clientCreate cMap) with
    | .ok _ => return (res, none)
    | .error failed => return (⟨true, 15⟩, some failed)

def afterInstall (oldObjStatus : KataConfigStatus) (res : Result) : Op Exit Result := do
  if oldObjStatus ≠ (← reconciler).status then
    orReturn updateKataConfigStatus
  match ← processDashboardConfigMap with
  | none => return ⟨true, 15⟩
  | some cMap =>
    let (res, err) ← installDashboard cMap res
    if (← reconciler).deploymentMode = .machineConfigMode then
      orReturn (processLogLevel (← reconciler).spec.logLevel) ⟨true, 15⟩
      return res
    match err with
    | none => return res
    | some error => Routine.throw { result := res, err := some error }

def installBranch (oldObjStatus : KataConfigStatus) : Op Exit Result := do
  match ← Routine.attempt (processInstallRequest settings) with
  | .ok _ => afterInstall oldObjStatus {}
  | .error exit =>
    if exit.err.isSome then Routine.throw exit else afterInstall oldObjStatus exit.result

def reconcileBranches (oldObjStatus : KataConfigStatus) : Op Exit Result := do
  match ← Routine.attempt getKataConfigNodeSelectorAsSelector with
  | .error _ => return {}
  | .ok _ =>
    let r ← reconciler
    if r.current.metadata.deletionTimestamp && !r.status.isInstalling && !r.status.isUpdating then
      deleteBranch settings
      return {}
    else installBranch settings oldObjStatus

def prepareReconcile : Op Exit PUnit := do
  orReturn migratePeerPodsLimit
  orReturn ensureRuntimeClassFinalizers
  orReturn (processFeatureGates settings)

def reconcileRoutine (key : Key) : Op Exit Result := do
  if ← fetchKataConfig key then
    let oldObjStatus := (← reconciler).status
    prepareReconcile settings
    reconcileBranches settings oldObjStatus
  else return {}

def exitOf : Except Exit Result → Exit
  | .ok result => { result := result }
  | .error exit => exit

/-- One call of `Reconcile`, with the reconciler's memory before and after. -/
def reconcile (key : Key) (memory : Reconciler) : Prog Req Response (Exit × Reconciler) :=
  reconcileRoutine settings key memory >>= fun (outcome, memory') => pure (exitOf outcome, memory')

end

end SandboxedContainers
