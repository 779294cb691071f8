import SandboxedContainers.Pools

/-!
# Node selectors and node labels

The selector a user writes, the selector the operator hands to the objects it
creates, and the operations that change node labels.
-/

namespace SandboxedContainers

open Lib

def kataOcLabel : String := "node-role.kubernetes.io/kata-oc"
def masterLabel : String := "node-role.kubernetes.io/master"
def workerLabel : String := "node-role.kubernetes.io/worker"
def runtimeKataLabel : String := "feature.node.kubernetes.io/runtime.kata"
def kataInstallationDaemonSetLabel : String := "kataconfiguration.openshift.io/kata-ds-rpm-install"

def operatorNamespace : String := "openshift-sandboxed-containers-operator"

def isLabeledForKata (node : Node) : Bool := StrMap.hasKey node.metadata.labels kataOcLabel

def poolSelectorOf (spec : KataConfigSpec) : LabelSelector :=
  let nodeSelector := spec.kataConfigPoolSelector.getD {}
  if spec.checkNodeEligibility then nodeSelector.addLabel runtimeKataLabel "true" else nodeSelector

def getKataConfigNodeSelectorAsLabelSelector {ε : Type} : Op ε LabelSelector := do
  if ← isConvergedAndKnown then return { matchLabels := [(masterLabel, "")] }
  let r ← reconciler
  return poolSelectorOf r.spec

def invalidSelector : Err := .new "invalid label selector"

def getKataConfigNodeSelectorAsSelector : Op Err Selector := do
  match (← getKataConfigNodeSelectorAsLabelSelector).asSelector with
  | some selector => return selector
  | none => Routine.throw invalidSelector

def getNodeSelectorAsMap {ε : Type} : Op ε (List (String × String)) := do
  if ← isConvergedAndKnown then return [(masterLabel, "")] else return [(kataOcLabel, "")]

def getNodesWithLabels (nodeLabels : List (String × String)) : Op Err (List Node) :=
  clientList .node (Selector.ofSet nodeLabels)

def getNodes : Op Err (List Node) := getNodesWithLabels [(workerLabel, "")]

def checkNodeEligibility : Op Err PUnit := do
  let r ← reconciler
  if r.spec.enablePeerPods then
    return ⟨⟩
  let nodes ← getNodesWithLabels [(runtimeKataLabel, "true")]
  if nodes.isEmpty then
    Routine.throw (.new "no Nodes with required labels found. Is NFD running?")

def setLabel (node : Node) (key value : String) : Node :=
  { node with metadata := { node.metadata with labels := node.metadata.labels.insert key value } }

def dropLabel (node : Node) (key : String) : Node :=
  { node with metadata := { node.metadata with labels := node.metadata.labels.erase key } }

/-- The worker as `updateNodeLabels` wants it, if it is not up to date. -/
def relabeled (kataNodeSelector : Selector) (worker : Node) : Option Node :=
  let workerMatchesKata := kataNodeSelector.accepts worker.metadata.labels
  if workerMatchesKata && !isLabeledForKata worker then some (setLabel worker kataOcLabel "")
  else if !workerMatchesKata && isLabeledForKata worker then some (dropLabel worker kataOcLabel)
  else none

/-- Update the nodes for which `change` has a new version; a failed update ends
the loop.  The result says whether any update was made before the loop ended. -/
def updateEach (change : Node → Option Node) (labelingChanged : Bool) :
    List Node → Op Err (Bool × Option Err)
  | [] => pure (labelingChanged, none)
  | node :: rest =>
    match change node with
    | none => updateEach change labelingChanged rest
    | some changed => do
      match ← Routine.attempt (clientUpdate changed) with
      | .error error => pure (labelingChanged, some error)
      | .ok _ => updateEach change true rest

/-- The loop's result where an error is returned along with the flag. -/
def labelingOutcome : Bool × Option Err → Op Err Bool
  | (labelingChanged, none) => pure labelingChanged
  | (_, some error) => Routine.throw error

def updateNodeLabels : Op Err Bool := do
  let workerNodeList ← clientList .node (Selector.ofSet [(workerLabel, "")])
  let kataNodeSelector ← getKataConfigNodeSelectorAsSelector
  labelingOutcome (← updateEach (relabeled kataNodeSelector) false workerNodeList)

def unlabeled (node : Node) : Option Node :=
  if isLabeledForKata node then some (dropLabel node kataOcLabel) else none

def unlabelNodes (nodeSelector : Selector) : Op Err Bool := do
  mark .unlabelNodes
  let nodeList ← clientList .node nodeSelector
  labelingOutcome (← updateEach unlabeled false nodeList)

/-- The node without the labels of the DaemonSet mode, if it has the kata label. -/
def unlabeledDaemonSet (node : Node) : Option Node :=
  if isLabeledForKata node then
    some (dropLabel (dropLabel node kataOcLabel) kataInstallationDaemonSetLabel)
  else none

def unlabelNodesDaemonSet (nodeSelector : Selector) : Op Err PUnit := do
  mark .unlabelNodesDaemonSet
  let nodeList ← clientList .node nodeSelector
  let _ ← labelingOutcome (← updateEach unlabeledDaemonSet false nodeList)
  return ⟨⟩

def labeled (key value : String) (node : Node) : Option Node := some (setLabel node key value)

def labelNodes (nodeSelector : Selector) (key value : String) : Op Err PUnit := do
  let nodeList ← clientList .node nodeSelector
  let _ ← labelingOutcome (← updateEach (labeled key value) false nodeList)
  return ⟨⟩

/-- What a failed label update makes a reconciliation return. -/
def labelFailure (error : Err) : Exit :=
  if error.isConflict then { result := ⟨true, 10⟩ } else { result := ⟨true, 0⟩ }

end SandboxedContainers
