import SandboxedContainers.Exchanges
import SandboxedContainers.System

/-!
# The node lists are filters of the nodes

What `updateStatus` makes of a node depends on the node and on what the API
answers, never on the nodes before it: `classifyNode` is steady.  Each list of
`Status.KataNodes` is then a filter of the nodes, in the order the API returned
them, and the failure reported is that of the last degraded node.
-/

namespace SandboxedContainers

open Lib Routine

section Reading

def workerSelector : Selector := Selector.ofSet [(workerLabel, "")]

/-- A request that only reads, and does not ask for the list of workers. -/
def Query (r : Req) : Prop := r.writes = none ∧ r ≠ .list .node workerSelector

@[grind ←]
theorem query_get (k : Kind) (key : Key) : Query (.get k key) := ⟨rfl, nofun⟩

@[grind ←]
theorem query_list {k : Kind} {selector : Selector} (other : k ≠ .node ∨ selector ≠ workerSelector) :
    Query (.list k selector) := by
  refine ⟨rfl, fun same => ?_⟩
  injection same with sameKind sameSelector
  exact other.elim (fun differs => differs sameKind) fun differs => differs sameSelector

theorem query_checkConvergedCluster : Inquiry Query checkConvergedCluster :=
  inquiry_checkConvergedCluster (query_get _) (query_list (.inl nofun))

theorem inquiry_countKataNodes {ε : Type} : Inquiry Query (countKataNodes : Op ε Nat) := by
  unfold countKataNodes getNodeSelectorAsMap
  rw [Routine.bind_assoc]
  refine (inquiry_isConvergedAndKnown (query_get _) (query_list (.inl nofun))).bind fun converged => ?_
  have lists (label : String) (other : Selector.ofSet [(label, "")] ≠ workerSelector) :
      Inquiry Query (getNodesWithLabels [(label, "")]) := inquiry_clientList (query_list (.inr other))
  cases converged with
  | false => exact (lists kataOcLabel (by decide)).attempt.bind (by grind)
  | true => exact (lists masterLabel (by decide)).attempt.bind (by grind)

@[grind ←]
theorem inquiry_getExtensionName (settings : Settings) : Inquiry Query (getExtensionName settings) := by
  unfold getExtensionName
  dsimp only
  split
  · exact inquiry_pure _
  · refine ((inquiry_clientGet (query_get _ _)).bind fun _ => inquiry_pure _).bind fun clusterVersion => ?_
    split
    · exact inquiry_pure _
    · split
      · exact inquiry_pure _
      · refine ((inquiry_clientGet (query_get _ _)).bind fun _ => inquiry_pure _).attempt.bind fun answer => ?_
        cases answer with
        | error _ => exact inquiry_pure _
        | ok cmdline =>
          dsimp only
          split <;> exact inquiry_pure _

@[grind ←]
theorem inquiry_isKataEnabledOnNode (settings : Settings) (converged : Bool) (pool target : String) :
    Inquiry Query (isKataEnabledOnNode settings converged pool target) := by
  unfold isKataEnabledOnNode
  grind

end Reading

section States

variable (state curr target : String) (enabled : Bool)

@[simp] theorem nodeKataState_done : nodeKataState nodeDone curr target enabled = some (
    if curr = target then if enabled then .installed else .notInstalled
    else if enabled then .waitingToInstall else .waitingToUninstall) := by
  by_cases same : curr = target <;> cases enabled <;>
    simp [nodeKataState, isNodeInstalled, isNodeNotInstalled, isNodeInstalling, isNodeUninstalling,
      isNodeWaitingToInstall, isNodeWaitingToUninstall, nodeDone, nodeWorking, same]

@[simp] theorem nodeKataState_working :
    nodeKataState nodeWorking curr target enabled =
      some (if enabled then .installing else .uninstalling) := by
  cases enabled <;>
    simp [nodeKataState, isNodeInstalled, isNodeNotInstalled, isNodeInstalling, isNodeUninstalling,
      nodeDone, nodeWorking]

@[simp] theorem nodeKataState_degraded :
    nodeKataState nodeDegraded curr target enabled =
      some (if enabled then .failedToInstall else .failedToUninstall) := by
  cases enabled <;>
    simp [nodeKataState, isNodeInstalled, isNodeNotInstalled, isNodeInstalling, isNodeUninstalling,
      isNodeWaitingToInstall, isNodeWaitingToUninstall, isNodeFailedToInstall,
      isNodeFailedToUninstall, nodeDone, nodeWorking, nodeDegraded]

variable {state}

theorem nodeKataState_other (unknown : state ∉ [nodeDone, nodeWorking, nodeDegraded]) :
    nodeKataState state curr target enabled = none := by
  simp only [List.mem_cons, List.not_mem_nil, or_false, not_or] at unknown
  obtain ⟨notDone, notWorking, notDegraded⟩ := unknown
  simp [nodeKataState, isNodeInstalled, isNodeNotInstalled, isNodeInstalling, isNodeUninstalling,
    isNodeWaitingToInstall, isNodeWaitingToUninstall, isNodeFailedToInstall,
    isNodeFailedToUninstall, notDone, notWorking, notDegraded]

theorem nodeKataState_cases (state : String) :
    state = nodeDone ∨ state = nodeWorking ∨ state = nodeDegraded ∨
      state ∉ [nodeDone, nodeWorking, nodeDegraded] := by
  by_cases known : state ∈ [nodeDone, nodeWorking, nodeDegraded]
  · simp only [List.mem_cons, List.not_mem_nil, or_false] at known
    tauto
  · exact .inr (.inr (.inr known))

/-- Whether a node in a state is one kata is meant for. -/
def NodeKataState.isMeantForKata : NodeKataState → Bool
  | .installed | .installing | .waitingToInstall | .failedToInstall => true
  | _ => false

theorem isMeantForKata_nodeKataState {found : NodeKataState}
    (classified : nodeKataState state curr target enabled = some found) :
    found.isMeantForKata = enabled := by
  rcases nodeKataState_cases state with rfl | rfl | rfl | unknown
  · rw [nodeKataState_done] at classified
    cases classified
    split <;> cases enabled <;> rfl
  · rw [nodeKataState_working] at classified
    cases classified
    cases enabled <;> rfl
  · rw [nodeKataState_degraded] at classified
    cases classified
    cases enabled <;> rfl
  · rw [nodeKataState_other curr target enabled unknown] at classified
    cases classified

theorem nodeKataState_unlisted_iff :
    (∀ found, nodeKataState state curr target enabled = some found → found = .notInstalled) ↔
      state ∉ [nodeDone, nodeWorking, nodeDegraded] ∨
        (state = nodeDone ∧ enabled = false ∧ curr = target) := by
  rcases nodeKataState_cases state with rfl | rfl | rfl | unknown
  · by_cases same : curr = target <;> cases enabled <;> simp [same]
  · have notDone : nodeWorking ≠ nodeDone := by decide
    cases enabled <;> simp [notDone]
  · have notDone : nodeDegraded ≠ nodeDone := by decide
    cases enabled <;> simp [notDone]
  · simp [nodeKataState_other curr target enabled unknown, unknown]

end States

section Classification

variable (settings : Settings)

def classifyNode (node : Node) : Op Err (Option NodeKataState) := do
  let isConvergedCluster ← checkConvergedCluster
  let targetMcpName :=
    if isConvergedCluster then "master" else if isLabeledForKata node then "kata-oc" else "worker"
  let targetMcp ← getMcpByName targetMcpName
  let nodeMcoState ← annotation? node "machineconfiguration.openshift.io/state"
  let nodeCurrMc ← annotation? node "machineconfiguration.openshift.io/currentConfig"
  let nodeTargetMc := configurationNameOf targetMcp
  let isKataEnabled ← isKataEnabledOnNode settings isConvergedCluster targetMcpName nodeTargetMc
  return nodeKataState nodeMcoState nodeCurrMc nodeTargetMc isKataEnabled

def recordNode (node : Node) : Option NodeKataState → Op Err PUnit
  | none => return ⟨⟩
  | some state => do
    setKataNodes fun nodes => putOnList node.metadata.name nodes state
    if state = .failedToInstall ∨ state = .failedToUninstall then
      setInProgressConditionToFailed node

theorem putNodeOnStatusList_eq (node : Node) :
    putNodeOnStatusList settings node = classifyNode settings node >>= recordNode node := by
  unfold putNodeOnStatusList classifyNode
  simp only [Routine.bind_assoc]
  rfl

theorem inquiry_classifyNode (node : Node) : Inquiry Query (classifyNode settings node) := by
  have annotation (key : String) : Inquiry Query (annotation? node key) := by
    unfold annotation?
    grind
  have converged := query_checkConvergedCluster
  unfold classifyNode getMcpByName
  grind

end Classification

/-- The list a node in a state is put on; a node without kata is on none. -/
def KataNodesStatus.list (nodes : KataNodesStatus) : NodeKataState → List String
  | .installed => nodes.installed
  | .notInstalled => []
  | .installing => nodes.installing
  | .uninstalling => nodes.uninstalling
  | .waitingToInstall => nodes.waitingToInstall
  | .waitingToUninstall => nodes.waitingToUninstall
  | .failedToInstall => nodes.failedToInstall
  | .failedToUninstall => nodes.failedToUninstall

theorem KataNodesStatus.ext_list {first second : KataNodesStatus}
    (count : first.nodeCount = second.nodeCount) (ready : first.readyNodeCount = second.readyNodeCount)
    (lists : ∀ state, first.list state = second.list state) : first = second := by
  obtain ⟨_, _, _, _, _, _, _, _, _⟩ := first
  obtain ⟨_, _, _, _, _, _, _, _, _⟩ := second
  have installed := lists .installed
  have installing := lists .installing
  have waitingToInstall := lists .waitingToInstall
  have failedToInstall := lists .failedToInstall
  have uninstalling := lists .uninstalling
  have waitingToUninstall := lists .waitingToUninstall
  have failedToUninstall := lists .failedToUninstall
  simp only [KataNodesStatus.list] at *
  subst_vars
  rfl

theorem list_putOnList (name : String) (nodes : KataNodesStatus) (state other : NodeKataState)
    (listed : other ≠ .notInstalled) :
    (putOnList name nodes state).list other =
      nodes.list other ++ if state = other then [name] else [] := by
  cases state <;> cases other <;> simp_all [putOnList, KataNodesStatus.list]

def putByState (lists : KataNodesStatus) (node : Node) : Option NodeKataState → KataNodesStatus
  | some state => putOnList node.metadata.name lists state
  | none => lists

@[simp] theorem nodeCount_putByState (lists : KataNodesStatus) (node : Node)
    (state : Option NodeKataState) : (putByState lists node state).nodeCount = lists.nodeCount := by
  cases state with
  | none => rfl
  | some state => cases state <;> rfl

def gather (stateOf : Node → Option NodeKataState) (nodes : List Node) (lists : KataNodesStatus) :
    KataNodesStatus :=
  nodes.foldl (fun lists node => putByState lists node (stateOf node)) lists

@[simp] theorem gather_cons (stateOf : Node → Option NodeKataState) (node : Node) (rest : List Node)
    (lists : KataNodesStatus) :
    gather stateOf (node :: rest) lists =
      gather stateOf rest (putByState lists node (stateOf node)) := rfl

def namesIn (stateOf : Node → Option NodeKataState) (state : NodeKataState) (nodes : List Node) :
    List String :=
  (nodes.filter fun node => stateOf node = some state).map fun node => node.metadata.name

theorem list_gather (stateOf : Node → Option NodeKataState) (nodes : List Node)
    (lists : KataNodesStatus) {state : NodeKataState} (listed : state ≠ .notInstalled) :
    (gather stateOf nodes lists).list state = lists.list state ++ namesIn stateOf state nodes := by
  induction nodes generalizing lists with
  | nil => simp [gather, namesIn]
  | cons node rest ih =>
    rw [gather_cons, ih]
    cases found : stateOf node with
    | none => simp [namesIn, found, putByState]
    | some other =>
      simp only [putByState, list_putOnList _ _ _ _ listed, namesIn, List.filter_cons, found,
        Option.some.injEq, decide_eq_true_eq]
      split <;> simp

theorem counts_gather (stateOf : Node → Option NodeKataState) (nodes : List Node)
    (lists : KataNodesStatus) : (gather stateOf nodes lists).nodeCount = lists.nodeCount := by
  induction nodes generalizing lists with
  | nil => rfl
  | cons node rest ih => simp [ih]

section Loop

variable (verdict : Node → Except Err (Option NodeKataState))

def stateIn (node : Node) : Option NodeKataState :=
  match verdict node with
  | .ok state => state
  | .error _ => none

def errorIn (node : Node) : Option Err :=
  match verdict node with
  | .ok _ => none
  | .error error => some error

def NodeKataState.isFailed (state : NodeKataState) : Bool :=
  state = .failedToInstall || state = .failedToUninstall

def failsIn (node : Node) : Bool := (stateIn verdict node).any NodeKataState.isFailed

def failureMessage (node : Node) : String :=
  "Node " ++ node.metadata.name ++ " Degraded: " ++
    StrMap.getD node.metadata.annotations "machineconfiguration.openshift.io/reason"

def failure (node : Node) : KataConfigCondition :=
  ⟨.inProgress, .conditionTrue, "Failed", failureMessage node⟩

/-- The conditions after the nodes: those of the last failed one, if there is one. -/
def conditionsAfter (nodes : List Node) (conditions : List KataConfigCondition) :
    List KataConfigCondition :=
  match (nodes.filter (failsIn verdict)).getLast? with
  | none => conditions
  | some node => KataConfigStatus.putInProgress (failure node) conditions

def lastError (nodes : List Node) : Option Err := (nodes.filterMap (errorIn verdict)).getLast?

def recorded (nodes : List Node) (status : KataConfigStatus) : KataConfigStatus :=
  { status with
    kataNodes := gather (stateIn verdict) nodes status.kataNodes
    conditions := conditionsAfter verdict nodes status.conditions }

def endOf : Option Err → Except Err PUnit
  | none => .ok ⟨⟩
  | some error => .error error

theorem putInProgress_twice {next : KataConfigCondition} (isInProgress : next.type = .inProgress)
    (later : KataConfigCondition) (conditions : List KataConfigCondition) :
    KataConfigStatus.putInProgress later (KataConfigStatus.putInProgress next conditions) =
      KataConfigStatus.putInProgress later conditions := by
  induction conditions with
  | nil => simp [KataConfigStatus.putInProgress, isInProgress]
  | cons condition rest ih =>
    by_cases same : condition.type = .inProgress
    · simp [KataConfigStatus.putInProgress, same, isInProgress]
    · simp [KataConfigStatus.putInProgress, same, ih]

theorem conditionsAfter_cons (node : Node) (rest : List Node)
    (conditions : List KataConfigCondition) :
    conditionsAfter verdict (node :: rest) conditions =
      conditionsAfter verdict rest (conditionsAfter verdict [node] conditions) := by
  unfold conditionsAfter
  cases fails : failsIn verdict node with
  | false => simp [fails]
  | true =>
    simp only [List.filter_cons, fails, if_true, List.filter_nil, List.getLast?_cons,
      List.getLast?_nil, Option.getD_none]
    cases last : (rest.filter (failsIn verdict)).getLast? with
    | none => simp
    | some other => exact (putInProgress_twice rfl _ _).symm

theorem recorded_cons (node : Node) (rest : List Node) (status : KataConfigStatus) :
    recorded verdict (node :: rest) status =
      recorded verdict rest (recorded verdict [node] status) := by
  simp only [recorded, gather_cons]
  rw [conditionsAfter_cons]
  rfl

variable {verdict} {settings : Settings} {S : Type} {serve : S → (r : Req) → Response r × S} {s : S}
  (memory : Reconciler)

theorem putNodeOnStatusList_eval (status : KataConfigStatus) {node : Node}
    (steady : Steady serve s (classifyNode settings node) (verdict node)) :
    (putNodeOnStatusList settings node).eval serve (memory.setStatus status) s =
      (((verdict node).map fun _ => ⟨⟩, memory.setStatus (recorded verdict [node] status)), s) := by
  rw [putNodeOnStatusList_eq]
  cases found : verdict node with
  | error error =>
    rw [found] at steady
    rw [eval_bind_error (steady _) _]
    simp [recorded, conditionsAfter, failsIn, stateIn, found, gather, putByState, Except.map]
  | ok state =>
    rw [found] at steady
    rw [eval_bind_ok (steady _) _]
    cases state with
    | none => simp [recordNode, recorded, conditionsAfter, failsIn, stateIn, found, gather,
        putByState, Except.map]
    | some state =>
      cases state <;> simp [recorded, conditionsAfter, failsIn, stateIn, found, gather,
        putByState, Except.map, NodeKataState.isFailed] <;> rfl

theorem putNodesOnStatusLists_cons (settings : Settings) (err : Option Err) (node : Node)
    (rest : List Node) :
    putNodesOnStatusLists settings err (node :: rest) =
      Routine.attempt (putNodeOnStatusList settings node) >>= fun
        | .ok _ => putNodesOnStatusLists settings err rest
        | .error error => putNodesOnStatusLists settings (some error) rest := by
  cases err <;> rfl

theorem putNodesOnStatusLists_eval (steady : ∀ node, Steady serve s (classifyNode settings node) (verdict node))
    (err : Option Err) (nodes : List Node) (status : KataConfigStatus) :
    (putNodesOnStatusLists settings err nodes).eval serve (memory.setStatus status) s =
      ((endOf ((lastError verdict nodes).or err), memory.setStatus (recorded verdict nodes status)), s) := by
  induction nodes generalizing err status with
  | nil => cases err <;> rfl
  | cons node rest ih =>
    have turn := putNodeOnStatusList_eval memory status (steady node)
    rw [recorded_cons, putNodesOnStatusLists_cons]
    cases found : verdict node with
    | ok state =>
      rw [found] at turn
      have error : lastError verdict (node :: rest) = lastError verdict rest := by
        simp [lastError, errorIn, found]
      rw [error, ← ih]
      exact eval_bind_ok (eval_attempt turn) _
    | error failed =>
      rw [found] at turn
      have error : (lastError verdict (node :: rest)).or err =
          (lastError verdict rest).or (some failed) := by
        cases last : (rest.filterMap (errorIn verdict)).getLast? <;>
          simp [lastError, errorIn, found, List.getLast?_cons]
      rw [error, ← ih]
      exact eval_bind_ok (eval_attempt turn) _

def statusAfter (verdict : Node → Except Err (Option NodeKataState)) (nodeCount : Nat)
    (nodes : List Node) (status : KataConfigStatus) : KataConfigStatus :=
  let filled := recorded verdict nodes
    { status with kataNodes := { clearedNodeStatusLists status.kataNodes with nodeCount := nodeCount } }
  { filled with
    kataNodes := { filled.kataNodes with readyNodeCount := filled.kataNodes.installed.length } }

theorem updateStatus_eval {nodes : List Node} {nodeCount : Nat}
    (listed : Steady serve s getNodes (.ok nodes))
    (counted : Steady serve s (countKataNodes : Op Err Nat) (.ok nodeCount))
    (steady : ∀ node, Steady serve s (classifyNode settings node) (verdict node)) :
    (updateStatus settings).eval serve memory s =
      ((endOf (lastError verdict nodes), memory.setStatus (statusAfter verdict nodeCount nodes memory.status)), s) := by
  have cleared : Routine.eval serve (clearNodeStatusLists : Op Err PUnit) memory s =
      ((.ok ⟨⟩, memory.setStatus { memory.status with
        kataNodes := clearedNodeStatusLists memory.status.kataNodes }), s) := rfl
  have loop := putNodesOnStatusLists_eval memory steady none nodes
    { memory.status with
      kataNodes := { clearedNodeStatusLists memory.status.kataNodes with nodeCount := nodeCount } }
  rw [Option.or_none] at loop
  unfold updateStatus
  rw [eval_bind_ok (listed memory), eval_bind_ok cleared, eval_bind_ok (counted _)]
  refine (eval_bind_ok rfl _).trans ((eval_bind_ok (eval_attempt loop) _).trans ?_)
  cases lastError verdict nodes <;> rfl

theorem kataNodes_statusAfter (nodeCount : Nat) (nodes : List Node) (status : KataConfigStatus) :
    (statusAfter verdict nodeCount nodes status).kataNodes =
      let lists := gather (stateIn verdict) nodes
        { clearedNodeStatusLists status.kataNodes with nodeCount := nodeCount }
      { lists with readyNodeCount := lists.installed.length } := rfl

theorem list_statusAfter (nodeCount : Nat) (nodes : List Node) (status : KataConfigStatus)
    {state : NodeKataState} (isListed : state ≠ .notInstalled) :
    (statusAfter verdict nodeCount nodes status).kataNodes.list state =
      namesIn (stateIn verdict) state nodes := by
  have gathered := list_gather (stateIn verdict) nodes
    { clearedNodeStatusLists status.kataNodes with nodeCount := nodeCount } isListed
  rw [kataNodes_statusAfter]
  cases state <;> simpa [KataNodesStatus.list, clearedNodeStatusLists] using gathered

theorem nodeCount_statusAfter (nodeCount : Nat) (nodes : List Node) (status : KataConfigStatus) :
    (statusAfter verdict nodeCount nodes status).kataNodes.nodeCount = nodeCount := by
  rw [kataNodes_statusAfter]
  exact counts_gather _ _ _

theorem readyNodeCount_statusAfter (nodeCount : Nat) (nodes : List Node) (status : KataConfigStatus) :
    (statusAfter verdict nodeCount nodes status).kataNodes.readyNodeCount =
      (statusAfter verdict nodeCount nodes status).kataNodes.installed.length := rfl

theorem conditions_statusAfter (nodeCount : Nat) (nodes : List Node) (status : KataConfigStatus) :
    (statusAfter verdict nodeCount nodes status).conditions =
      conditionsAfter verdict nodes status.conditions := rfl

end Loop

section Cluster

variable {s : Cluster}

theorem exec_read (s : Cluster) (r : Req) (isRead : r.writes = none) : (s.exec r).2 = s := by
  cases r with
  | get k key => exact Store.exec_get_store k key
  | list k selector => exact Store.exec_list_store k selector
  | mark point => rfl
  | create | update | updateStatus | patch | delete => cases isRead

theorem steady_clientGet_exec {k : Kind} (key : Key) {object : Object k} (serves : s.served k = true)
    (found : s.find? k (scopedKey k key) = some object) :
    Steady Store.exec s (clientGet k key) (.ok object) := by
  refine (steady_request (exec_read s _ rfl)).bind ?_
  simp only [Store.exec, serves, if_true, found]
  exact steady_pure object

theorem steady_clientGet_absent {k : Kind} (key : Key) (serves : s.served k = true)
    (absent : s.find? k (scopedKey k key) = none) :
    Steady Store.exec s (clientGet k key) (.error (.api Store.notFound)) := by
  refine (steady_request (exec_read s _ rfl)).bind ?_
  simp only [Store.exec, serves, if_true, absent]
  exact steady_throw _

theorem steady_clientList_exec {k : Kind} (selector : Selector) (serves : s.served k = true) :
    Steady Store.exec s (clientList k selector)
      (.ok ((s.objs k).items.filter fun object => selector.accepts object.metadata.labels)) := by
  refine (steady_request (exec_read s _ rfl)).bind ?_
  simp only [Store.exec, serves, if_true]
  exact steady_pure _

theorem steady_clientGet_unserved {k : Kind} (key : Key) (unserved : s.served k = false) :
    Steady Store.exec s (clientGet k key) (.error (.api Store.noMatch)) := by
  refine (steady_request (exec_read s _ rfl)).bind ?_
  simp only [Store.exec, unserved, Bool.false_eq_true, if_false]
  exact steady_throw _

theorem steady_isMachineConfigPoolAvailable (s : Cluster) :
    Steady Store.exec s isMachineConfigPoolAvailable (.ok (s.served .machineConfigPool)) := by
  unfold isMachineConfigPoolAvailable isKindAvailable
  cases serves : s.served .machineConfigPool with
  | false =>
    exact (steady_clientGet_unserved ⟨"", "dummy-machine-config-pool"⟩ serves).attempt.bind
      (steady_pure false)
  | true =>
    cases found : s.find? .machineConfigPool ⟨"", "dummy-machine-config-pool"⟩ with
    | some pool =>
      exact (steady_clientGet_exec ⟨"", "dummy-machine-config-pool"⟩ serves found).attempt.bind
        (steady_pure true)
    | none =>
      exact (steady_clientGet_absent ⟨"", "dummy-machine-config-pool"⟩ serves found).attempt.bind
        (steady_pure true)

def convergedIn (s : Cluster) : Bool :=
  s.served .machineConfigPool && isConvergedPoolList (s.objs .machineConfigPool).items

theorem steady_checkConvergedCluster (s : Cluster) :
    Steady Store.exec s checkConvergedCluster (.ok (convergedIn s)) := by
  refine (steady_isMachineConfigPoolAvailable s).bind ?_
  unfold convergedIn
  cases serves : s.served .machineConfigPool with
  | false => exact steady_pure false
  | true =>
    have all := steady_clientList_exec (k := .machineConfigPool) [] serves
    simp only [Selector.accepts, List.all_nil, List.filter_true] at all
    exact all.attempt.bind (steady_pure _)

def kataNodeLabel (s : Cluster) : String := if convergedIn s then masterLabel else kataOcLabel

theorem steady_getNodeSelectorAsMap {ε : Type} (s : Cluster) :
    Steady Store.exec s (getNodeSelectorAsMap : Op ε (List (String × String)))
      (.ok [(kataNodeLabel s, "")]) := by
  refine ((steady_checkConvergedCluster s).attempt.bind (steady_pure (convergedIn s))).bind ?_
  unfold kataNodeLabel
  cases convergedIn s <;> exact steady_pure _

/-- A cluster with both pools that is not converged, as the operator finds it
when all its requests succeed. -/
structure PooledCluster (s : Cluster) (kataMcp workerMcp : MachineConfigPool) : Prop where
  servesNodes : s.served .node = true
  servesPools : s.served .machineConfigPool = true
  kataPool : s.find? .machineConfigPool (poolKey "kata-oc") = some kataMcp
  workerPool : s.find? .machineConfigPool (poolKey "worker") = some workerMcp
  notConverged : isConvergedPoolList (s.objs .machineConfigPool).items = false

def mcoState (node : Node) : Option String :=
  node.metadata.annotations.lookup "machineconfiguration.openshift.io/state"

def currentConfig (node : Node) : Option String :=
  node.metadata.annotations.lookup "machineconfiguration.openshift.io/currentConfig"

def targetConfig (kataMcp workerMcp : MachineConfigPool) (node : Node) : String :=
  configurationNameOf (if isLabeledForKata node then kataMcp else workerMcp)

def stateAt (target : String) (node : Node) : Option NodeKataState := do
  nodeKataState (← mcoState node) (← currentConfig node) target (isLabeledForKata node)

def kataStateOf (kataMcp workerMcp : MachineConfigPool) (node : Node) : Option NodeKataState :=
  stateAt (targetConfig kataMcp workerMcp node) node

def missingError (node : Node) (key : String) : Err :=
  .new ("missing " ++ key ++ " on node " ++ node.metadata.name)

def verdictAt (target : String) (node : Node) : Except Err (Option NodeKataState) :=
  match mcoState node, currentConfig node with
  | none, _ => .error (missingError node "machineconfiguration.openshift.io/state")
  | some _, none => .error (missingError node "machineconfiguration.openshift.io/currentConfig")
  | some _, some _ => .ok (stateAt target node)

def verdictIn (kataMcp workerMcp : MachineConfigPool) (node : Node) :
    Except Err (Option NodeKataState) :=
  verdictAt (targetConfig kataMcp workerMcp node) node

variable {kataMcp workerMcp : MachineConfigPool}

theorem annotation?_some {node : Node} {key value : String}
    (found : node.metadata.annotations.lookup key = some value) :
    annotation? node key = Pure.pure value := by
  simp only [annotation?, found]

theorem annotation?_none {node : Node} {key : String}
    (missing : node.metadata.annotations.lookup key = none) :
    annotation? node key = Routine.throw (missingError node key) := by
  simp only [annotation?, missing, missingError]

theorem steady_classifyNode (notConverged : convergedIn s = false) (settings : Settings) {node : Node}
    {mcp : MachineConfigPool}
    (pool : Steady Store.exec s (getMcpByName (if isLabeledForKata node then "kata-oc" else "worker"))
      (.ok mcp)) :
    Steady Store.exec s (classifyNode settings node) (verdictAt (configurationNameOf mcp) node) := by
  have converged := steady_checkConvergedCluster s
  rw [notConverged] at converged
  refine converged.bind (pool.bind ?_)
  have enabled (target : String) : isKataEnabledOnNode settings false
      (if isLabeledForKata node then "kata-oc" else "worker") target =
        pure (isLabeledForKata node) := by
    cases isLabeledForKata node <;> rfl
  cases hasState : mcoState node with
  | none =>
    rw [annotation?_none hasState]
    simp only [verdictAt, hasState]
    exact (steady_throw _).bind_error _
  | some mco =>
    rw [annotation?_some hasState]
    refine (steady_pure mco).bind ?_
    cases hasConfig : currentConfig node with
    | none =>
      rw [annotation?_none hasConfig]
      simp only [verdictAt, hasState, hasConfig]
      exact (steady_throw _).bind_error _
    | some curr =>
      rw [annotation?_some hasConfig]
      refine (steady_pure curr).bind ?_
      simp only [verdictAt, stateAt, hasState, hasConfig, Bool.false_eq_true, if_false, enabled]
      exact (steady_pure _).bind (steady_pure _)

def nodesLabeled (s : Cluster) (label : String) : List Node :=
  (s.objs .node).items.filter fun node => (Selector.ofSet [(label, "")]).accepts node.metadata.labels

section Pooled

variable (pooled : PooledCluster s kataMcp workerMcp)
include pooled

theorem PooledCluster.convergedIn_eq : convergedIn s = false := by
  simp [convergedIn, pooled.notConverged]

theorem PooledCluster.targetMcp (node : Node) :
    Steady Store.exec s (getMcpByName (if isLabeledForKata node then "kata-oc" else "worker"))
      (.ok (if isLabeledForKata node then kataMcp else workerMcp)) := by
  cases isLabeledForKata node with
  | true => exact steady_clientGet_exec _ pooled.servesPools pooled.kataPool
  | false => exact steady_clientGet_exec _ pooled.servesPools pooled.workerPool

theorem PooledCluster.classifyNode (settings : Settings) (node : Node) :
    Steady Store.exec s (SandboxedContainers.classifyNode settings node)
      (verdictIn kataMcp workerMcp node) :=
  steady_classifyNode pooled.convergedIn_eq settings (pooled.targetMcp node)

theorem PooledCluster.getNodes :
    Steady Store.exec s SandboxedContainers.getNodes (.ok (nodesLabeled s workerLabel)) :=
  steady_clientList_exec _ pooled.servesNodes

theorem PooledCluster.countKataNodes :
    Steady Store.exec s (SandboxedContainers.countKataNodes : Op Err Nat)
      (.ok (nodesLabeled s kataOcLabel).length) := by
  have selector : Steady Store.exec s (getNodeSelectorAsMap : Op Err (List (String × String)))
      (.ok [(kataNodeLabel s, "")]) := steady_getNodeSelectorAsMap s
  rw [kataNodeLabel, pooled.convergedIn_eq] at selector
  refine selector.bind ?_
  exact (steady_clientList_exec (Selector.ofSet [(kataOcLabel, "")]) pooled.servesNodes).attempt.bind
    (steady_pure _)

theorem PooledCluster.updateStatus (settings : Settings) (memory : Reconciler) :
    (SandboxedContainers.updateStatus settings).eval Store.exec memory s =
      ((endOf (lastError (verdictIn kataMcp workerMcp) (nodesLabeled s workerLabel)),
        memory.setStatus (statusAfter (verdictIn kataMcp workerMcp) (nodesLabeled s kataOcLabel).length
          (nodesLabeled s workerLabel) memory.status)), s) :=
  updateStatus_eval memory pooled.getNodes pooled.countKataNodes (pooled.classifyNode settings)

end Pooled

theorem stateIn_verdictAt (target : String) (node : Node) :
    stateIn (verdictAt target) node = stateAt target node := by
  unfold stateIn verdictAt
  cases hasState : mcoState node with
  | none => simp [stateAt, hasState]
  | some mco => cases hasConfig : currentConfig node <;> simp [stateAt, hasState, hasConfig]

theorem stateIn_verdictIn (node : Node) :
    stateIn (verdictIn kataMcp workerMcp) node = kataStateOf kataMcp workerMcp node :=
  stateIn_verdictAt _ node

theorem mem_namesIn {stateOf : Node → Option NodeKataState} {state : NodeKataState}
    {nodes : List Node} {name : String} :
    name ∈ namesIn stateOf state nodes ↔
      ∃ node ∈ nodes, stateOf node = some state ∧ node.metadata.name = name := by
  simp [namesIn, and_assoc]

theorem name_mem_namesIn {stateOf : Node → Option NodeKataState} {state : NodeKataState}
    {nodes : List Node} (distinct : (nodes.map fun node => node.metadata.name).Nodup) {node : Node}
    (member : node ∈ nodes) :
    node.metadata.name ∈ namesIn stateOf state nodes ↔ stateOf node = some state := by
  rw [mem_namesIn]
  constructor
  · rintro ⟨other, otherMember, found, sameName⟩
    rw [← List.inj_on_of_nodup_map distinct otherMember member sameName]
    exact found
  · intro found
    exact ⟨node, member, found, rfl⟩

theorem nodup_namesIn {stateOf : Node → Option NodeKataState} (state : NodeKataState)
    {nodes : List Node} (distinct : (nodes.map fun node => node.metadata.name).Nodup) :
    (namesIn stateOf state nodes).Nodup :=
  distinct.sublist (List.filter_sublist.map _)

theorem disjoint_namesIn {stateOf : Node → Option NodeKataState} {first second : NodeKataState}
    {nodes : List Node} (distinct : (nodes.map fun node => node.metadata.name).Nodup)
    (differ : first ≠ second) :
    List.Disjoint (namesIn stateOf first nodes) (namesIn stateOf second nodes) := by
  intro name inFirst inSecond
  obtain ⟨node, member, found, rfl⟩ := mem_namesIn.mp inFirst
  rw [name_mem_namesIn distinct member, found] at inSecond
  exact differ (Option.some.inj inSecond)

def Unlisted (workerMcp : MachineConfigPool) (node : Node) : Prop :=
  mcoState node = none ∨ currentConfig node = none ∨
    (∃ state, mcoState node = some state ∧ state ∉ [nodeDone, nodeWorking, nodeDegraded]) ∨
    (mcoState node = some nodeDone ∧ isLabeledForKata node = false ∧
      currentConfig node = some (configurationNameOf workerMcp))

theorem unlisted_iff (kataMcp workerMcp : MachineConfigPool) (node : Node) :
    (∀ state, kataStateOf kataMcp workerMcp node = some state → state = .notInstalled) ↔
      Unlisted workerMcp node := by
  cases hasState : mcoState node with
  | none => simp [kataStateOf, stateAt, Unlisted, hasState]
  | some mco =>
    cases hasConfig : currentConfig node with
    | none => simp [kataStateOf, stateAt, Unlisted, hasState, hasConfig]
    | some curr =>
      have explicit : kataStateOf kataMcp workerMcp node = nodeKataState mco curr
          (targetConfig kataMcp workerMcp node) (isLabeledForKata node) := by
        simp [kataStateOf, stateAt, hasState, hasConfig]
      rw [explicit, nodeKataState_unlisted_iff]
      have target : isLabeledForKata node = false →
          targetConfig kataMcp workerMcp node = configurationNameOf workerMcp := by
        intro unlabeled
        simp [targetConfig, unlabeled]
      simp only [Unlisted, hasState, hasConfig, reduceCtorEq, Option.some.injEq, false_or,
        exists_eq_left']
      constructor
      · rintro (unknown | ⟨done, unlabeled, atTarget⟩)
        · exact .inl unknown
        · exact .inr ⟨done, unlabeled, atTarget.trans (target unlabeled)⟩
      · rintro (unknown | ⟨done, unlabeled, atTarget⟩)
        · exact .inl unknown
        · exact .inr ⟨done, unlabeled, atTarget.trans (target unlabeled).symm⟩

theorem isMeantForKata_stateAt {target : String} {node : Node} {state : NodeKataState}
    (found : stateAt target node = some state) : state.isMeantForKata = isLabeledForKata node := by
  cases hasState : mcoState node with
  | none => simp [stateAt, hasState] at found
  | some mco =>
    cases hasConfig : currentConfig node with
    | none => simp [stateAt, hasState, hasConfig] at found
    | some curr =>
      simp only [stateAt, hasState, hasConfig] at found
      exact isMeantForKata_nodeKataState _ _ _ found

theorem lastError_isSome {verdict : Node → Except Err (Option NodeKataState)} {nodes : List Node}
    {node : Node} {error : Err} (member : node ∈ nodes) (failed : verdict node = .error error) :
    ∃ last, lastError verdict nodes = some last := by
  have occurs : error ∈ nodes.filterMap (errorIn verdict) :=
    List.mem_filterMap.mpr ⟨node, member, by simp [errorIn, failed]⟩
  exact ⟨_, List.getLast?_eq_some_getLast (List.ne_nil_of_mem occurs)⟩

theorem verdictIn_error (kataMcp workerMcp : MachineConfigPool) {node : Node}
    (missing : mcoState node = none ∨ currentConfig node = none) :
    ∃ error, verdictIn kataMcp workerMcp node = .error error := by
  unfold verdictIn verdictAt
  cases hasState : mcoState node with
  | none => exact ⟨_, rfl⟩
  | some mco =>
    cases hasConfig : currentConfig node with
    | none => exact ⟨_, rfl⟩
    | some curr => simp [hasState, hasConfig] at missing

theorem mem_nodesLabeled {label : String} {node : Node} (member : node ∈ (s.objs .node).items)
    (emptyValue : ∀ value, node.metadata.labels.lookup label = some value → value = "")
    (labeled : StrMap.hasKey node.metadata.labels label = true) : node ∈ nodesLabeled s label := by
  obtain ⟨value, found⟩ := Option.isSome_iff_exists.mp labeled
  rw [emptyValue value found] at found
  simp [nodesLabeled, member, Selector.accepts, Selector.ofSet, Requirement.accepts, found]

/-- After `updateStatus` the lists split the workers up by their state. -/
theorem updateStatus_partition (settings : Settings) (memory : Reconciler)
    (pooled : PooledCluster s kataMcp workerMcp)
    (distinct : ((s.objs .node).items.map fun node => node.metadata.name).Nodup)
    (emptyValue : ∀ node ∈ (s.objs .node).items, ∀ value,
      node.metadata.labels.lookup kataOcLabel = some value → value = "") :
    let outcome := ((SandboxedContainers.updateStatus settings).eval Store.exec memory s).1
    let lists := outcome.2.status.kataNodes
    let workers := nodesLabeled s workerLabel
    (∀ state, (lists.list state).Nodup) ∧
    (∀ first second, first ≠ second → List.Disjoint (lists.list first) (lists.list second)) ∧
    (∀ state, ∀ name ∈ lists.list state, ∃ worker ∈ workers, worker.metadata.name = name ∧
      isLabeledForKata worker = state.isMeantForKata) ∧
    (∀ worker ∈ workers, (∀ state, worker.metadata.name ∉ lists.list state) ↔
      Unlisted workerMcp worker) ∧
    (∀ worker ∈ workers, mcoState worker = none ∨ currentConfig worker = none →
      ∃ error, outcome.1 = .error error) ∧
    (∀ worker ∈ workers, ∀ state, state ≠ .notInstalled →
      (worker.metadata.name ∈ lists.list state ↔
        kataStateOf kataMcp workerMcp worker = some state)) ∧
    lists.readyNodeCount = lists.installed.length ∧ lists.readyNodeCount ≤ lists.nodeCount := by
  rw [pooled.updateStatus settings memory]
  intro outcome lists workers
  have distinctWorkers : (workers.map fun node => node.metadata.name).Nodup :=
    distinct.sublist (List.filter_sublist.map _)
  have sameState : stateIn (verdictIn kataMcp workerMcp) = kataStateOf kataMcp workerMcp :=
    funext stateIn_verdictIn
  have listed {state : NodeKataState} (isListed : state ≠ .notInstalled) :
      lists.list state = namesIn (kataStateOf kataMcp workerMcp) state workers := by
    rw [← sameState]
    exact list_statusAfter _ _ _ isListed
  have member {worker : Node} (inWorkers : worker ∈ workers) {state : NodeKataState}
      (isListed : state ≠ .notInstalled) : worker.metadata.name ∈ lists.list state ↔
        kataStateOf kataMcp workerMcp worker = some state := by
    rw [listed isListed]
    exact name_mem_namesIn distinctWorkers inWorkers
  refine ⟨?_, ?_, ?_, ?_, ?_, fun worker inWorkers state isListed => member inWorkers isListed, rfl, ?_⟩
  · intro state
    by_cases unlisted : state = .notInstalled
    · subst unlisted
      exact List.nodup_nil
    · rw [listed unlisted]
      exact nodup_namesIn state distinctWorkers
  · intro first second differ
    by_cases firstUnlisted : first = .notInstalled
    · subst firstUnlisted
      exact List.disjoint_nil_left _
    · by_cases secondUnlisted : second = .notInstalled
      · subst secondUnlisted
        exact List.disjoint_nil_right _
      · rw [listed firstUnlisted, listed secondUnlisted]
        exact disjoint_namesIn distinctWorkers differ
  · intro state name inList
    by_cases unlisted : state = .notInstalled
    · subst unlisted
      cases inList
    · rw [listed unlisted] at inList
      obtain ⟨worker, inWorkers, found, sameName⟩ := mem_namesIn.mp inList
      exact ⟨worker, inWorkers, sameName, (isMeantForKata_stateAt found).symm⟩
  · intro worker inWorkers
    rw [← unlisted_iff kataMcp]
    constructor
    · intro absent state found
      by_contra isListed
      exact absent state ((member inWorkers isListed).mpr found)
    · intro unlisted state inList
      by_cases isListed : state = .notInstalled
      · subst isListed
        cases inList
      · exact isListed (unlisted state ((member inWorkers isListed).mp inList))
  · intro worker inWorkers missing
    obtain ⟨error, failed⟩ := verdictIn_error kataMcp workerMcp missing
    obtain ⟨last, isLast⟩ := lastError_isSome inWorkers failed
    refine ⟨last, ?_⟩
    show endOf (lastError _ _) = _
    rw [isLast]
    rfl
  · -- every installed node carries the kata label, which the second list call counts
    have counted : lists.nodeCount = (nodesLabeled s kataOcLabel).length :=
      nodeCount_statusAfter _ _ _
    have installed : lists.installed = namesIn (kataStateOf kataMcp workerMcp) .installed workers :=
      listed (show NodeKataState.installed ≠ .notInstalled by decide)
    have ready : lists.readyNodeCount = lists.installed.length := rfl
    rw [counted, ready, installed]
    have subset : namesIn (kataStateOf kataMcp workerMcp) .installed workers ⊆
        (nodesLabeled s kataOcLabel).map fun node => node.metadata.name := by
      intro name inList
      obtain ⟨worker, inWorkers, found, rfl⟩ := mem_namesIn.mp inList
      have stored : worker ∈ (s.objs .node).items := (List.mem_filter.mp inWorkers).1
      have labeled := isMeantForKata_stateAt found
      exact List.mem_map.mpr ⟨worker, mem_nodesLabeled stored (emptyValue worker stored) labeled.symm, rfl⟩
    simpa using ((nodup_namesIn .installed distinctWorkers).subperm subset).length_le

def workerAt (name state config : String) (labels : List (String × String)) : Node :=
  ⟨{ name := name, labels := StrMap.ofList ((workerLabel, "") :: labels)
     annotations := StrMap.ofList [("machineconfiguration.openshift.io/state", state),
       ("machineconfiguration.openshift.io/currentConfig", config)] }, ()⟩

def poolAt (name config : String) : MachineConfigPool :=
  ⟨{ name := name }, show MachineConfigPoolBody from { configurationName := config }⟩

def twoWorkers : Cluster :=
  clusterOf [.create .machineConfigPool (poolAt "kata-oc" "kata"),
    .create .machineConfigPool (poolAt "worker" "plain"),
    .create .machineConfigPool (poolAt "master" "plain"),
    .create .node (workerAt "first" "Done" "kata" [(kataOcLabel, "")]),
    .create .node (workerAt "second" "Done" "kata" [])]

def storedPool (name config : String) (version : Nat) : MachineConfigPool :=
  ⟨{ name := name, uid := version, resourceVersion := version },
    show MachineConfigPoolBody from { configurationName := config }⟩

theorem twoWorkers_pooled :
    PooledCluster twoWorkers (storedPool "kata-oc" "kata" 1) (storedPool "worker" "plain" 2) where
  servesNodes := rfl
  servesPools := rfl
  kataPool := rfl
  workerPool := rfl
  notConverged := rfl

theorem updateStatus_partition_twoWorkers :
    ((updateStatus plainSettings).eval Store.exec {} twoWorkers).1.2.status.kataNodes.readyNodeCount ≤
      ((updateStatus plainSettings).eval Store.exec {} twoWorkers).1.2.status.kataNodes.nodeCount := by
  have split := updateStatus_partition plainSettings {} twoWorkers_pooled (by decide) (by decide)
  exact split.2.2.2.2.2.2.2

end Cluster

end SandboxedContainers
