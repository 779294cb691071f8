import Mathlib.Data.List.Sort
import SandboxedContainers.PeerPods

/-!
# The node lists of the status

`updateStatus` for the MachineConfig mode and `updateStatusDaemonSet` for the
DaemonSet mode sort the nodes onto the lists of `Status.KataNodes`.
-/

namespace SandboxedContainers

open Lib

def setKataNodes {ε : Type} (change : KataNodesStatus → KataNodesStatus) : Op ε PUnit :=
  setStatus fun status => { status with kataNodes := change status.kataNodes }

def clearedNodeStatusLists (nodes : KataNodesStatus) : KataNodesStatus :=
  { nodeCount := nodes.nodeCount, readyNodeCount := nodes.readyNodeCount }

def clearNodeStatusLists {ε : Type} : Op ε PUnit := setKataNodes clearedNodeStatusLists

def nodeWorking : String := "Working"
def nodeDone : String := "Done"
def nodeDegraded : String := "Degraded"

section Predicates

variable (nodeMcoState nodeCurrMc nodeTargetMc : String) (isKataEnabledOnNode : Bool)

def isNodeInstalled : Bool :=
  nodeMcoState = nodeDone && nodeCurrMc = nodeTargetMc && isKataEnabledOnNode

def isNodeNotInstalled : Bool :=
  nodeMcoState = nodeDone && nodeCurrMc = nodeTargetMc && !isKataEnabledOnNode

def isNodeInstalling : Bool := nodeMcoState = nodeWorking && isKataEnabledOnNode

def isNodeUninstalling : Bool := nodeMcoState = nodeWorking && !isKataEnabledOnNode

def isNodeWaitingToInstall : Bool :=
  nodeMcoState = nodeDone && nodeCurrMc ≠ nodeTargetMc && isKataEnabledOnNode

def isNodeWaitingToUninstall : Bool :=
  nodeMcoState = nodeDone && nodeCurrMc ≠ nodeTargetMc && !isKataEnabledOnNode

def isNodeFailedToInstall : Bool := nodeMcoState = nodeDegraded && isKataEnabledOnNode

def isNodeFailedToUninstall : Bool := nodeMcoState = nodeDegraded && !isKataEnabledOnNode

end Predicates

/-- What the MCO's annotations and the pool say about kata on a node. -/
inductive NodeKataState where
  | installed
  | notInstalled
  | installing
  | uninstalling
  | waitingToInstall
  | waitingToUninstall
  | failedToInstall
  | failedToUninstall
  deriving DecidableEq, Repr

/-- The first predicate that holds, in the order the source asks them. -/
def nodeKataState (state curr target : String) (enabled : Bool) : Option NodeKataState :=
  if isNodeInstalled state curr target enabled then some .installed
  else if isNodeNotInstalled state curr target enabled then some .notInstalled
  else if isNodeInstalling state enabled then some .installing
  else if isNodeUninstalling state enabled then some .uninstalling
  else if isNodeWaitingToInstall state curr target enabled then some .waitingToInstall
  else if isNodeWaitingToUninstall state curr target enabled then some .waitingToUninstall
  else if isNodeFailedToInstall state enabled then some .failedToInstall
  else if isNodeFailedToUninstall state enabled then some .failedToUninstall
  else none

def putOnList (name : String) (nodes : KataNodesStatus) : NodeKataState → KataNodesStatus
  | .installed => { nodes with installed := nodes.installed ++ [name] }
  | .notInstalled => nodes
  | .installing => { nodes with installing := nodes.installing ++ [name] }
  | .uninstalling => { nodes with uninstalling := nodes.uninstalling ++ [name] }
  | .waitingToInstall => { nodes with waitingToInstall := nodes.waitingToInstall ++ [name] }
  | .waitingToUninstall => { nodes with waitingToUninstall := nodes.waitingToUninstall ++ [name] }
  | .failedToInstall => { nodes with failedToInstall := nodes.failedToInstall ++ [name] }
  | .failedToUninstall => { nodes with failedToUninstall := nodes.failedToUninstall ++ [name] }

def annotation? (node : Node) (key : String) : Op Err String :=
  match node.metadata.annotations.lookup key with
  | some value => pure value
  | none => Routine.throw (.new ("missing " ++ key ++ " on node " ++ node.metadata.name))

def configurationNameOf (mcp : MachineConfigPool) : String :=
  (show MachineConfigPoolBody from mcp.body).configurationName

section

variable (settings : Settings)

/-- On a converged cluster the `master` pool's MachineConfig decides. -/
def isKataEnabledOnNode (isConvergedCluster : Bool) (targetMcpName nodeTargetMc : String) :
    Op Err Bool :=
  if isConvergedCluster then do
    let targetMc ← clientGet .machineConfig ⟨"", nodeTargetMc⟩
    let extensionName ← getExtensionName settings
    return (specOfMc targetMc).extensions.contains extensionName
  else pure (targetMcpName = "kata-oc")

def putNodeOnStatusList (node : Node) : Op Err PUnit := do
  let isConvergedCluster ← checkConvergedCluster
  let targetMcpName :=
    if isConvergedCluster then "master" else if isLabeledForKata node then "kata-oc" else "worker"
  let targetMcp ← getMcpByName targetMcpName
  let nodeMcoState ← annotation? node "machineconfiguration.openshift.io/state"
  let nodeCurrMc ← annotation? node "machineconfiguration.openshift.io/currentConfig"
  let nodeTargetMc := configurationNameOf targetMcp
  let isKataEnabled ← isKataEnabledOnNode settings isConvergedCluster targetMcpName nodeTargetMc
  match nodeKataState nodeMcoState nodeCurrMc nodeTargetMc isKataEnabled with
  | none => return ⟨⟩
  | some state =>
    setKataNodes fun nodes => putOnList node.metadata.name nodes state
    if state = .failedToInstall ∨ state = .failedToUninstall then
      setInProgressConditionToFailed node

/-- Put every node on its list; the last error is the one reported. -/
def putNodesOnStatusLists : Option Err → List Node → Op Err PUnit
  | none, [] => pure ⟨⟩
  | some error, [] => Routine.throw error
  | err, node :: rest => do
    match ← Routine.attempt (putNodeOnStatusList settings node) with
    | .ok _ => putNodesOnStatusLists err rest
    | .error error => putNodesOnStatusLists (some error) rest

def countKataNodes {ε : Type} : Op ε Nat := do
  let nodeSelector ← getNodeSelectorAsMap
  match ← Routine.attempt (getNodesWithLabels nodeSelector) with
  | .ok nodes => return nodes.length
  | .error _ => return 0

def setReadyNodeCount {ε : Type} : Op ε PUnit :=
  setKataNodes fun nodes => { nodes with readyNodeCount := nodes.installed.length }

def updateStatus : Op Err PUnit := do
  let nodeList ← getNodes
  clearNodeStatusLists
  let nodeCount ← countKataNodes
  setKataNodes fun nodes => { nodes with nodeCount := nodeCount }
  match ← Routine.attempt (putNodesOnStatusLists settings none nodeList) with
  | .ok _ => setReadyNodeCount
  | .error error =>
    setReadyNodeCount
    Routine.throw error

end

/-- The states a node agent of the DaemonSet mode reports, and those the
operator starts it in. -/
inductive KataInstallationDaemonSetState where
  | waitingToInstall
  | installed
  | installing
  | waitingToUninstall
  | uninstalling
  | uninstalled
  deriving DecidableEq, Repr

def KataInstallationDaemonSetState.text : KataInstallationDaemonSetState → String
  | .waitingToInstall => "waiting_to_install"
  | .installed => "installed"
  | .installing => "installing"
  | .waitingToUninstall => "waiting_to_uninstall"
  | .uninstalling => "uninstalling"
  | .uninstalled => "uninstalled"

inductive KataDaemonSetAction where
  | installKata
  | uninstallKata
  deriving DecidableEq, Repr

def KataDaemonSetAction.text : KataDaemonSetAction → String
  | .installKata => "install"
  | .uninstallKata => "uninstall"

def reportedState (node : Node) : String :=
  StrMap.getD node.metadata.labels kataInstallationDaemonSetLabel

/-- The list an install status puts a node on: an unknown state waits. -/
def installListOf (reported : String) : NodeKataState :=
  if reported = KataInstallationDaemonSetState.installing.text then .installing
  else if reported = KataInstallationDaemonSetState.installed.text then .installed
  else .waitingToInstall

def uninstallListOf (reported : String) : NodeKataState :=
  if reported = KataInstallationDaemonSetState.uninstalling.text then .uninstalling
  else if reported = KataInstallationDaemonSetState.uninstalled.text then .notInstalled
  else .waitingToUninstall

def listOf : KataDaemonSetAction → String → NodeKataState
  | .installKata => installListOf
  | .uninstallKata => uninstallListOf

def sortNames (names : List String) : List String := names.insertionSort (· ≤ ·)

def sortedLists (nodes : KataNodesStatus) : KataNodesStatus :=
  { nodes with
    waitingToInstall := sortNames nodes.waitingToInstall
    installing := sortNames nodes.installing
    installed := sortNames nodes.installed
    waitingToUninstall := sortNames nodes.waitingToUninstall
    uninstalling := sortNames nodes.uninstalling
    failedToInstall := sortNames nodes.failedToInstall }

def daemonSetLists (action : KataDaemonSetAction) (nodes : List Node) (old : KataNodesStatus) :
    KataNodesStatus :=
  let filled := nodes.foldl (fun lists node =>
    putOnList node.metadata.name lists (listOf action (reportedState node)))
      { clearedNodeStatusLists old with nodeCount := nodes.length }
  let sorted := sortedLists filled
  { sorted with readyNodeCount := sorted.installed.length }

def updateStatusDaemonSet (action : KataDaemonSetAction) : Op Err PUnit := do
  let nodes ← getNodesWithLabels (← getNodeSelectorAsMap)
  setKataNodes (daemonSetLists action nodes)

def isKataNodePoolInState (matchingState : KataInstallationDaemonSetState) : Op Err Bool := do
  let nodeSelector ← getNodeSelectorAsMap
  mark .checkAgents
  let nodes ← getNodesWithLabels nodeSelector
  return (nodes.filter fun node => reportedState node = matchingState.text).length = nodes.length

def isKataUninstallDaemonSetUninstalling : Op Err Bool := do
  return !(← isKataNodePoolInState .uninstalled)

def isKataInstallDaemonSetInstalling : Op Err Bool := do
  return !(← isKataNodePoolInState .installed)

end SandboxedContainers
