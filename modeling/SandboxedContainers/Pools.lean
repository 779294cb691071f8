import SandboxedContainers.Conditions

/-!
# Machine config pools

What the operator asks of the machine config pools: whether the cluster is
converged, which pool a node belongs to, whether a pool is updating, and which
changes of a pool wake the operator up.
-/

namespace SandboxedContainers

open Lib

/-- `apihelpers.GetMachineConfigPoolCondition`: the first condition of the type. -/
def getMachineConfigPoolCondition (status : MachineConfigPoolStatus)
    (type : MachineConfigPoolConditionType) : Option MachineConfigPoolCondition :=
  status.conditions.find? fun condition => condition.type = type

def isMachineConfigPoolConditionTrue (status : MachineConfigPoolStatus)
    (type : MachineConfigPoolConditionType) : Bool :=
  match getMachineConfigPoolCondition status type with
  | none => false
  | some condition => condition.status = .conditionTrue

namespace MachineConfigPoolStatus

def isUpdating (status : MachineConfigPoolStatus) : Bool :=
  isMachineConfigPoolConditionTrue status .updating

end MachineConfigPoolStatus

def poolStatus (mcp : MachineConfigPool) : MachineConfigPoolStatus :=
  (show MachineConfigPoolBody from mcp.body).status

def isConvergedPoolList (pools : List MachineConfigPool) : Bool :=
  pools.length = 2 && pools.any fun mcp =>
    mcp.metadata.name = "worker" && (poolStatus mcp).machineCount = 0

def poolKey (name : String) : Key := ⟨"", name⟩

/-- Whether the server knows a kind, found out by asking for an object of it
that does not exist. -/
def isKindAvailable (k : Kind) (dummy : String) : Op Err Bool := do
  match ← Routine.attempt (clientGet k ⟨"", dummy⟩) with
  | .ok _ => pure true
  | .error error =>
    if error.isNotFound then pure true
    else if error.isNoMatchError then pure false
    else Routine.throw error

def isMachineConfigAvailable : Op Err Bool :=
  isKindAvailable .machineConfig "dummy-machine-config"

def isMachineConfigPoolAvailable : Op Err Bool :=
  isKindAvailable .machineConfigPool "dummy-machine-config-pool"

def checkConvergedCluster : Op Err Bool := do
  if !(← isMachineConfigPoolAvailable) then
    return false
  match ← Routine.attempt (clientList .machineConfigPool) with
  | .error error => if error.isNoMatchError then return false else Routine.throw error
  | .ok pools => return isConvergedPoolList pools

def getMcpName : Op Err String := do
  if ← checkConvergedCluster then return "master" else return "kata-oc"

def isMcpUpdating {ε : Type} (mcpName : String) : Op ε Bool := do
  mark (.samplePool mcpName)
  match ← Routine.attempt (clientGet .machineConfigPool (poolKey mcpName)) with
  | .error _ => return false
  | .ok mcp => return (poolStatus mcp).isUpdating

def getMcpByName (mcpName : String) : Op Err MachineConfigPool :=
  clientGet .machineConfigPool (poolKey mcpName)

/-- Whether a failed or negative convergence check counts as "not converged". -/
def isConvergedAndKnown {ε : Type} : Op ε Bool := do
  match ← Routine.attempt checkConvergedCluster with
  | .ok converged => return converged
  | .error _ => return false

def isMcpRelevant (mcpName : String) : Bool :=
  mcpName = "kata-oc" || mcpName = "worker" || mcpName = "master"

def missingMcpStatusConditionStr : String := "<missing>"

/-- The textual status of a condition, or the placeholder for a missing one. -/
def conditionStatusOf (status : MachineConfigPoolStatus) (type : MachineConfigPoolConditionType) :
    String :=
  match getMachineConfigPoolCondition status type with
  | none => missingMcpStatusConditionStr
  | some condition => condition.status.text

def countsChanged (statusOld statusNew : MachineConfigPoolStatus) : Bool :=
  statusOld.machineCount ≠ statusNew.machineCount ||
  statusOld.readyMachineCount ≠ statusNew.readyMachineCount ||
  statusOld.updatedMachineCount ≠ statusNew.updatedMachineCount ||
  statusOld.degradedMachineCount ≠ statusNew.degradedMachineCount

/-- Whether `McpEventHandler.Update` finds a change it acts on. -/
def foundRelevantChange (statusOld statusNew : MachineConfigPoolStatus) : Bool :=
  countsChanged statusOld statusNew ||
  statusOld.conditions ≠ statusNew.conditions &&
    [MachineConfigPoolConditionType.updating, .updated].any fun type =>
      conditionStatusOf statusOld type ≠ conditionStatusOf statusNew type

/-- `McpEventHandler.Update`: the request it adds to the queue, if any.  The
name is the one of the `KataConfig` behind the reconciler's pointer. -/
def mcpEventHandlerUpdate (kataConfigName : Option String) (mcpName : String)
    (statusOld statusNew : MachineConfigPoolStatus) : Option String :=
  if !isMcpRelevant mcpName then none
  else if statusOld = statusNew then none
  else if foundRelevantChange statusOld statusNew then kataConfigName
  else none

end SandboxedContainers
