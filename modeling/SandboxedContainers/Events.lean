import SandboxedContainers.NodeLabelling
import SandboxedContainers.StatusOrder

/-!
# The events that wake the operator up

Between two reconciliations the operator waits for an event.  The handler of pool
events queues a request exactly when a count or the status of a condition that
matters changes.  The handler of node events watches the state a node reports and
whether the user's selector matches it; it does not watch the labels and
annotations that the operator and the MCO set besides.
-/

namespace SandboxedContainers

open Lib Routine

section Pools

variable {statusOld statusNew : MachineConfigPoolStatus}

theorem text_injective {first second : ConditionStatus} (same : first.text = second.text) :
    first = second := by
  revert same
  cases first <;> cases second <;> decide

theorem text_ne_missing (status : ConditionStatus) : status.text ≠ missingMcpStatusConditionStr := by
  cases status <;> decide

/-- The status of the first condition of a type, if there is one. -/
def firstStatus (status : MachineConfigPoolStatus) (type : MachineConfigPoolConditionType) :
    Option ConditionStatus :=
  (status.conditions.find? fun condition => condition.type = type).map
    MachineConfigPoolCondition.status

theorem conditionStatusOf_eq_iff (type : MachineConfigPoolConditionType) :
    conditionStatusOf statusOld type = conditionStatusOf statusNew type ↔
      firstStatus statusOld type = firstStatus statusNew type := by
  unfold conditionStatusOf firstStatus getMachineConfigPoolCondition
  cases old : statusOld.conditions.find? fun condition => condition.type = type with
  | none =>
    cases new : statusNew.conditions.find? fun condition => condition.type = type with
    | none => simp
    | some condition => simpa using (text_ne_missing condition.status).symm
  | some oldCondition =>
    cases new : statusNew.conditions.find? fun condition => condition.type = type with
    | none => simpa using text_ne_missing oldCondition.status
    | some newCondition => exact ⟨fun same => congrArg some (text_injective same),
        fun same => congrArg ConditionStatus.text (Option.some.inj same)⟩

/-- What a waiting reconciliation has to hear of. -/
def PoolChanged (statusOld statusNew : MachineConfigPoolStatus) : Prop :=
  statusOld.machineCount ≠ statusNew.machineCount ∨
  statusOld.readyMachineCount ≠ statusNew.readyMachineCount ∨
  statusOld.updatedMachineCount ≠ statusNew.updatedMachineCount ∨
  statusOld.degradedMachineCount ≠ statusNew.degradedMachineCount ∨
  firstStatus statusOld .updating ≠ firstStatus statusNew .updating ∨
  firstStatus statusOld .updated ≠ firstStatus statusNew .updated

/-- The comparison of the lists as a whole is a shortcut only. -/
theorem foundRelevantChange_iff :
    foundRelevantChange statusOld statusNew = true ↔ PoolChanged statusOld statusNew := by
  have shortcut (type : MachineConfigPoolConditionType)
      (differs : firstStatus statusOld type ≠ firstStatus statusNew type) :
      statusOld.conditions ≠ statusNew.conditions := by
    intro same
    apply differs
    rw [firstStatus, firstStatus, same]
  simp only [foundRelevantChange, countsChanged, PoolChanged, Bool.or_eq_true, Bool.and_eq_true,
    decide_eq_true_eq, List.any_cons, List.any_nil, Bool.or_false, ne_eq, conditionStatusOf_eq_iff]
  constructor
  · rintro ((((machines | ready) | updated) | degraded) | ⟨_, updating | updated⟩)
    · exact .inl machines
    · exact .inr (.inl ready)
    · exact .inr (.inr (.inl updated))
    · exact .inr (.inr (.inr (.inl degraded)))
    · exact .inr (.inr (.inr (.inr (.inl updating))))
    · exact .inr (.inr (.inr (.inr (.inr updated))))
  · rintro (machines | ready | updated | degraded | updating | updated)
    · exact .inl (.inl (.inl (.inl machines)))
    · exact .inl (.inl (.inl (.inr ready)))
    · exact .inl (.inl (.inr updated))
    · exact .inl (.inr degraded)
    · exact .inr ⟨shortcut _ updating, .inl updating⟩
    · exact .inr ⟨shortcut _ updated, .inr updated⟩

theorem isUpdating_eq (status : MachineConfigPoolStatus) :
    status.isUpdating = decide (firstStatus status .updating = some .conditionTrue) := by
  unfold MachineConfigPoolStatus.isUpdating isMachineConfigPoolConditionTrue firstStatus
    getMachineConfigPoolCondition
  cases status.conditions.find? fun condition => condition.type = .updating <;> simp

theorem steady_isMcpUpdating {s : Cluster} {mcpName : String} {mcp : MachineConfigPool}
    (serves : s.served .machineConfigPool = true)
    (found : s.find? .machineConfigPool (poolKey mcpName) = some mcp) :
    Steady Store.exec s (isMcpUpdating mcpName : Op Err Bool) (.ok (poolStatus mcp).isUpdating) := by
  have marked : Steady Store.exec s (mark (.samplePool mcpName) : Op Err PUnit) (.ok ⟨⟩) := fun _ => rfl
  exact marked.bind ((steady_clientGet_exec (poolKey mcpName) serves found).attempt.bind (steady_pure _))

/-- A pool event queues a request exactly when a waiting reconciliation has to
hear of it, in particular when the pool starts or stops to update. -/
theorem mcpEventHandlerUpdate_queues_iff (kataConfigName : String) {mcpName : String}
    (relevant : mcpName ∈ ["kata-oc", "worker", "master"])
    (statusOld statusNew : MachineConfigPoolStatus) :
    (mcpEventHandlerUpdate (some kataConfigName) mcpName statusOld statusNew = some kataConfigName ↔
      PoolChanged statusOld statusNew) ∧
    ∀ (before after : Cluster) (mcpOld mcpNew : MachineConfigPool) (memory : Reconciler),
      before.served .machineConfigPool = true → after.served .machineConfigPool = true →
      before.find? .machineConfigPool (poolKey mcpName) = some mcpOld →
      after.find? .machineConfigPool (poolKey mcpName) = some mcpNew →
      poolStatus mcpOld = statusOld → poolStatus mcpNew = statusNew →
      (isMcpUpdating mcpName : Op Err Bool).result Store.exec memory before ≠
        (isMcpUpdating mcpName).result Store.exec memory after →
      mcpEventHandlerUpdate (some kataConfigName) mcpName statusOld statusNew = some kataConfigName := by
  have queues : mcpEventHandlerUpdate (some kataConfigName) mcpName statusOld statusNew =
      some kataConfigName ↔ PoolChanged statusOld statusNew := by
    have isRelevant : isMcpRelevant mcpName = true := by
      simp only [List.mem_cons, List.not_mem_nil, or_false] at relevant
      rcases relevant with rfl | rfl | rfl <;> decide
    unfold mcpEventHandlerUpdate
    rw [isRelevant]
    by_cases same : statusOld = statusNew
    · subst same
      simp [PoolChanged]
    · rw [← foundRelevantChange_iff]
      simp [same]
  refine ⟨queues, ?_⟩
  intro before after mcpOld mcpNew memory servesBefore servesAfter foundBefore foundAfter rfl rfl differs
  rw [(steady_isMcpUpdating servesBefore foundBefore).result_eq,
    (steady_isMcpUpdating servesAfter foundAfter).result_eq, isUpdating_eq, isUpdating_eq] at differs
  refine queues.mpr (.inr (.inr (.inr (.inr (.inl ?_)))))
  intro same
  rw [same] at differs
  exact differs rfl

/-- A machine joins the pool. -/
theorem mcpEventHandlerUpdate_queues_machine :
    mcpEventHandlerUpdate (some "example") "kata-oc" {} { machineCount := 1 } = some "example" :=
  (mcpEventHandlerUpdate_queues_iff "example" (by decide) {} { machineCount := 1 }).1.mpr (.inl (by decide))

end Pools

section NodeHandler

def isWorkerNode (node : Node) : Bool := StrMap.hasKey node.metadata.labels workerLabel

/-- A selector that cannot be compiled matches no node. -/
def nodeMatchesKataSelector {ε : Type} (nodeLabels : StrMap) : Op ε Bool := do
  match ← Routine.attempt getKataConfigNodeSelectorAsSelector with
  | .ok nodeSelector => return nodeSelector.accepts nodeLabels
  | .error _ => return false

def annotatedState (node : Node) : String :=
  StrMap.getD node.metadata.annotations "machineconfiguration.openshift.io/state"

/-- Whether the report of a node changes, in the deployment mode in force. -/
def reportChanged (deploymentMode : DeploymentMode) (nodeOld nodeNew : Node) : Bool :=
  match deploymentMode with
  | .daemonSetMode => reportedState nodeOld ≠ reportedState nodeNew
  | .machineConfigMode => annotatedState nodeOld ≠ annotatedState nodeNew

def matchChanged {ε : Type} (labelsOld labelsNew : StrMap) : Op ε Bool := do
  if labelsOld = labelsNew then
    return false
  let matchOld ← nodeMatchesKataSelector labelsOld
  let matchNew ← nodeMatchesKataSelector labelsNew
  return matchOld ≠ matchNew

/-- `NodeEventHandler.Update`: the request it adds to the queue, if any. -/
def nodeEventHandlerUpdate {ε : Type} (nodeOld nodeNew : Node) : Op ε (Option String) := do
  if !isWorkerNode nodeNew then
    return none
  let r ← reconciler
  match r.kataConfig with
  | none => return none
  | some kataConfig =>
    let reported := reportChanged r.deploymentMode nodeOld nodeNew
    let matched ← matchChanged nodeOld.metadata.labels nodeNew.metadata.labels
    if reported || matched then return some kataConfig.metadata.name else return none

def specMatches (spec : KataConfigSpec) (labels : StrMap) : Bool :=
  match (poolSelectorOf spec).asSelector with
  | some selector => selector.accepts labels
  | none => false

variable {s : Cluster}

theorem nodeMatchesKataSelector_eval {ε : Type} (notConverged : convergedIn s = false)
    (memory : Reconciler) (labels : StrMap) :
    (nodeMatchesKataSelector labels : Op ε Bool).eval Store.exec memory s =
      ((.ok (specMatches memory.spec labels), memory), s) := by
  have converged := steady_checkConvergedCluster s
  rw [notConverged] at converged
  have known : Steady Store.exec s (isConvergedAndKnown : Op Err Bool) (.ok false) :=
    converged.attempt.bind (steady_pure _)
  have labelSelector : (getKataConfigNodeSelectorAsLabelSelector : Op Err LabelSelector).eval
      Store.exec memory s = ((.ok (poolSelectorOf memory.spec), memory), s) :=
    (eval_bind_ok (known memory) _).trans rfl
  unfold specMatches
  cases compiled : (poolSelectorOf memory.spec).asSelector with
  | none =>
    have failed : getKataConfigNodeSelectorAsSelector.eval Store.exec memory s =
        ((.error invalidSelector, memory), s) := by
      refine (eval_bind_ok labelSelector _).trans ?_
      rw [compiled]
      rfl
    exact (eval_bind_ok (eval_attempt failed) _).trans rfl
  | some selector =>
    have found : getKataConfigNodeSelectorAsSelector.eval Store.exec memory s =
        ((.ok selector, memory), s) := by
      refine (eval_bind_ok labelSelector _).trans ?_
      rw [compiled]
      rfl
    exact (eval_bind_ok (eval_attempt found) _).trans rfl

theorem matchChanged_eval {ε : Type} (notConverged : convergedIn s = false) (memory : Reconciler)
    (labelsOld labelsNew : StrMap) :
    (matchChanged labelsOld labelsNew : Op ε Bool).eval Store.exec memory s =
      ((.ok (specMatches memory.spec labelsOld ≠ specMatches memory.spec labelsNew), memory), s) := by
  unfold matchChanged
  by_cases same : labelsOld = labelsNew
  · subst same
    simp
  · rw [if_neg same, eval_bind_ok (nodeMatchesKataSelector_eval notConverged memory labelsOld),
      eval_bind_ok (nodeMatchesKataSelector_eval notConverged memory labelsNew)]
    rfl

theorem nodeEventHandlerUpdate_result {ε : Type} (notConverged : convergedIn s = false)
    {memory : Reconciler} {kataConfig : KataConfig} (known : memory.kataConfig = some kataConfig)
    {nodeOld nodeNew : Node} (worker : isWorkerNode nodeNew = true) :
    (nodeEventHandlerUpdate nodeOld nodeNew : Op ε (Option String)).result Store.exec memory s =
      .ok (if reportChanged memory.deploymentMode nodeOld nodeNew ||
          decide (specMatches (specOf kataConfig) nodeOld.metadata.labels ≠
            specMatches (specOf kataConfig) nodeNew.metadata.labels)
        then some kataConfig.metadata.name else none) := by
  have spec : memory.spec = specOf kataConfig := by
    rw [Reconciler.spec, Reconciler.current, known]
    rfl
  have matched : (matchChanged nodeOld.metadata.labels nodeNew.metadata.labels : Op ε Bool).eval
      Store.exec memory s = _ := matchChanged_eval notConverged memory _ _
  rw [spec] at matched
  unfold nodeEventHandlerUpdate result
  rw [worker]
  simp only [Bool.not_true, Bool.false_eq_true, if_false]
  have read : (reconciler : Op ε Reconciler).eval Store.exec memory s = ((.ok memory, memory), s) := rfl
  rw [eval_bind_ok read]
  simp only [known]
  rw [eval_bind_ok matched]
  split <;> rfl

end NodeHandler

section Drift

def relabels (spec : KataConfigSpec) (node : Node) : Bool :=
  match (poolSelectorOf spec).asSelector with
  | some selector => workerSelector.accepts node.metadata.labels && (relabeled selector node).isSome
  | none => false

def classified (settings : Settings) (s : Cluster) (node : Node) : Option NodeKataState :=
  stateIn (fun node => (classifyNode settings node).result Store.exec {} s) node

variable {s : Cluster} {memory : Reconciler} {selector : Selector} {node : Node}

theorem isSome_relabeled (selector : Selector) (node : Node) : (relabeled selector node).isSome =
      (selector.accepts node.metadata.labels != isLabeledForKata node) := by
  cases accepts : selector.accepts node.metadata.labels <;>
    cases labeled : isLabeledForKata node <;> simp [relabeled, accepts, labeled]

/-- The nodes written to are those whose stored version changes. -/
theorem relabels_iff_written (setting : LabellingSetting s memory selector)
    (notConverged : convergedIn s = false) (member : node ∈ (s.objs .node).items) :
    relabels memory.spec node = true ↔
      (updateNodeLabelsResults.eval (failing fun _ => none) memory (s, 0)).2.1.find? .node node.key ≠
        s.find? .node node.key := by
  have compiled : (poolSelectorOf memory.spec).asSelector = some selector := by
    have either := setting.compiled
    rwa [notConverged] at either
  obtain ⟨done, error, s', m, evaluated, inside, swept⟩ :=
    updateNodeLabelsResults_eval setting fun _ => none
  have all : done = nodesLabeled s workerLabel := by
    apply swept.all_done
    rcases swept.ended with ⟨none, _⟩ | ⟨_, _, _, _, _, _, fault⟩
    · exact none
    · cases fault
  rw [evaluated]
  simp only [relabels, compiled, Bool.and_eq_true]
  constructor
  · rintro ⟨worker, toChange⟩
    exact (written_iff setting inside swept (all ▸ List.mem_filter.mpr ⟨member, worker⟩)).mp toChange
  · intro differs
    have passed : node ∈ done := by
      by_contra notPassed
      refine differs (swept.frame node.key fun other otherPassed sameKey => notPassed ?_)
      have otherMember := (List.mem_filter.mp (inside other otherPassed)).1
      rwa [Collection.eq_of_key otherMember member sameKey] at otherPassed
    exact ⟨(List.mem_filter.mp (inside node passed)).2, (written_iff setting inside swept passed).mpr differs⟩

/-- A change of a node the operator would have to react to. -/
def Drifts (settings : Settings) (s : Cluster) (memory : Reconciler) (nodeOld nodeNew : Node) : Prop :=
  (relabels memory.spec nodeNew = true ∧ relabels memory.spec nodeOld = false) ∨
  (memory.deploymentMode = .machineConfigMode ∧
    classified settings s nodeNew ≠ classified settings s nodeOld) ∨
  (memory.deploymentMode = .daemonSetMode ∧
    ∃ action, listOf action (reportedState nodeNew) ≠ listOf action (reportedState nodeOld))

def Noticed (settings : Settings) (s : Cluster) (memory : Reconciler) (nodeOld nodeNew : Node) : Prop :=
  Drifts settings s memory nodeOld nodeNew →
    ∃ name, (nodeEventHandlerUpdate nodeOld nodeNew : Op Err (Option String)).result Store.exec memory s =
      .ok (some name)

/-- The MCO's annotations and the label lead to the same state, whatever the pools. -/
def SameVerdict (nodeOld nodeNew : Node) : Prop :=
  annotatedState nodeNew ∈ [nodeDone, nodeWorking, nodeDegraded] →
    (currentConfig nodeOld).isSome = (currentConfig nodeNew).isSome ∧
    ((currentConfig nodeNew).isSome = true →
      isLabeledForKata nodeOld = isLabeledForKata nodeNew ∧
      (annotatedState nodeNew = nodeDone → currentConfig nodeOld = currentConfig nodeNew))

/-- The handler sees the change, or there is nothing to see: no node becomes a
worker, the label `updateNodeLabels` maintains is not touched, and in the
MachineConfig mode neither is the config of a node that reports to be done. -/
def Covered (deploymentMode : DeploymentMode) (nodeOld nodeNew : Node) : Prop :=
  reportChanged deploymentMode nodeOld nodeNew = true ∨
  ((workerSelector.accepts nodeNew.metadata.labels = true →
      workerSelector.accepts nodeOld.metadata.labels = true ∧
      isLabeledForKata nodeOld = isLabeledForKata nodeNew) ∧
    (deploymentMode = .machineConfigMode → SameVerdict nodeOld nodeNew))

theorem classified_eq (settings : Settings) (notConverged : convergedIn s = false) (node : Node) :
    classified settings s node =
      if s.served .machineConfigPool then
        (s.find? .machineConfigPool
          (poolKey (if isLabeledForKata node then "kata-oc" else "worker"))).bind fun mcp =>
            stateAt (configurationNameOf mcp) node
      else none := by
  have converged := steady_checkConvergedCluster s
  rw [notConverged] at converged
  unfold classified
  have unknown {error : Err} (pool : Steady Store.exec s
      (getMcpByName (if isLabeledForKata node then "kata-oc" else "worker")) (.error error)) :
      stateIn (fun node => (classifyNode settings node).result Store.exec {} s) node = none := by
    have steady : Steady Store.exec s (classifyNode settings node) (.error error) :=
      converged.bind (pool.bind_error _)
    simp [stateIn, steady.result_eq]
  cases serves : s.served .machineConfigPool with
  | false => exact unknown (steady_clientGet_unserved _ serves)
  | true =>
    cases found : s.find? .machineConfigPool
        (poolKey (if isLabeledForKata node then "kata-oc" else "worker")) with
    | none => simpa using unknown (steady_clientGet_absent (poolKey _) serves found)
    | some mcp =>
      have steady := steady_classifyNode notConverged settings
        (steady_clientGet_exec (poolKey _) serves found)
      simp only [stateIn, steady.result_eq, if_true, Option.bind_some]
      exact stateIn_verdictAt _ node

theorem mcoState_of_known (known : annotatedState node ∈ [nodeDone, nodeWorking, nodeDegraded]) :
    mcoState node = some (annotatedState node) := by
  unfold annotatedState StrMap.getD at known ⊢
  unfold mcoState
  cases found : node.metadata.annotations.lookup "machineconfiguration.openshift.io/state" with
  | some value => rfl
  | none =>
    rw [found] at known
    exact absurd known (by decide)

theorem stateAt_known (known : annotatedState node ∈ [nodeDone, nodeWorking, nodeDegraded])
    (target : String) :
    stateAt target node = (currentConfig node).bind fun config =>
      nodeKataState (annotatedState node) config target (isLabeledForKata node) := by
  unfold stateAt
  rw [mcoState_of_known known]
  rfl

theorem stateAt_unknown (unknown : annotatedState node ∉ [nodeDone, nodeWorking, nodeDegraded])
    (target : String) : stateAt target node = none := by
  unfold stateAt
  cases found : mcoState node with
  | none => rfl
  | some state =>
    have same : annotatedState node = state := by
      unfold annotatedState StrMap.getD
      rw [show node.metadata.annotations.lookup "machineconfiguration.openshift.io/state" = some state
        from found]
      rfl
    rw [same] at unknown
    cases currentConfig node with
    | none => rfl
    | some config => exact nodeKataState_other config target _ unknown

theorem known_nodeKataState {state : String} (known : state ∈ [nodeDone, nodeWorking, nodeDegraded])
    (curr target : String) (enabled : Bool) :
    ∃ found, nodeKataState state curr target enabled = some found := by
  simp only [List.mem_cons, List.not_mem_nil, or_false] at known
  rcases known with rfl | rfl | rfl
  · exact ⟨_, nodeKataState_done curr target enabled⟩
  · exact ⟨_, nodeKataState_working curr target enabled⟩
  · exact ⟨_, nodeKataState_degraded curr target enabled⟩

variable {nodeOld nodeNew : Node}

theorem nodeKataState_config {state : String} (notDone : state ≠ nodeDone) (curr curr' target : String)
    (enabled : Bool) :
    nodeKataState state curr target enabled = nodeKataState state curr' target enabled := by
  rcases nodeKataState_cases state with rfl | rfl | rfl | unknown
  · exact absurd rfl notDone
  · rw [nodeKataState_working, nodeKataState_working]
  · rw [nodeKataState_degraded, nodeKataState_degraded]
  · rw [nodeKataState_other curr target enabled unknown, nodeKataState_other curr' target enabled unknown]

theorem classified_same (settings : Settings) (notConverged : convergedIn s = false)
    (sameState : annotatedState nodeOld = annotatedState nodeNew) (same : SameVerdict nodeOld nodeNew) :
    classified settings s nodeNew = classified settings s nodeOld := by
  rw [classified_eq settings notConverged, classified_eq settings notConverged]
  by_cases known : annotatedState nodeNew ∈ [nodeDone, nodeWorking, nodeDegraded]
  · have knownOld := known
    rw [← sameState] at knownOld
    obtain ⟨presence, rest⟩ := same known
    simp only [stateAt_known known, stateAt_known knownOld, sameState]
    cases configNew : currentConfig nodeNew with
    | none =>
      rw [configNew] at presence
      have configOld : currentConfig nodeOld = none := by simpa using presence
      simp [configOld]
    | some config =>
      rw [configNew] at presence rest
      obtain ⟨configOld, isConfigOld⟩ := Option.isSome_iff_exists.mp presence
      obtain ⟨labeled, done⟩ := rest rfl
      rw [isConfigOld, labeled]
      by_cases isDone : annotatedState nodeNew = nodeDone
      · rw [isConfigOld] at done
        rw [Option.some.inj (done isDone)]
      · simp only [Option.bind_some, nodeKataState_config isDone configOld config]
  · have unknownOld := known
    rw [← sameState] at unknownOld
    simp [stateAt_unknown known, stateAt_unknown unknownOld]

/-- A selector that matches every node, or none. -/
def constantSpec (matching : Bool) : KataConfigSpec :=
  if matching then {}
  else { kataConfigPoolSelector := some { matchExpressions :=
    [⟨"zone", "Exists", []⟩, ⟨"zone", "DoesNotExist", []⟩] } }

def constantSelector (matching : Bool) : Selector :=
  if matching then [] else [⟨"zone", .exists, []⟩, ⟨"zone", .doesNotExist, []⟩]

theorem asSelector_constantSpec (matching : Bool) :
    (poolSelectorOf (constantSpec matching)).asSelector = some (constantSelector matching) := by
  cases matching <;> decide +kernel

theorem accepts_constantSelector (matching : Bool) (labels : StrMap) :
    (constantSelector matching).accepts labels = matching := by
  cases matching with
  | true => rfl
  | false =>
    cases found : labels.lookup "zone" <;>
      simp [constantSelector, Selector.accepts, Requirement.accepts, found]

theorem specMatches_constantSpec (matching : Bool) (labels : StrMap) :
    specMatches (constantSpec matching) labels = matching := by
  rw [specMatches, asSelector_constantSpec]
  exact accepts_constantSelector matching labels

theorem relabels_constantSpec (matching : Bool) (node : Node) : relabels (constantSpec matching) node =
      (workerSelector.accepts node.metadata.labels && (matching != isLabeledForKata node)) := by
  rw [relabels, asSelector_constantSpec]
  simp only [isSome_relabeled, accepts_constantSelector]

def constantMemory (deploymentMode : DeploymentMode) (matching : Bool) : Reconciler where
  kataConfig := some ⟨{ name := "example" }, show KataConfigBody from { spec := constantSpec matching }⟩
  deploymentMode := deploymentMode

def poolsAt (target : String) : Cluster :=
  clusterOf [.create .machineConfigPool (poolAt "kata-oc" target),
    .create .machineConfigPool (poolAt "worker" target),
    .create .machineConfigPool (poolAt "master" target)]

theorem classified_poolsAt (settings : Settings) (target : String) (node : Node) :
    classified settings (poolsAt target) node = stateAt target node := by
  rw [classified_eq settings rfl]
  cases isLabeledForKata node <;> rfl

theorem not_queued {deploymentMode : DeploymentMode} (worker : isWorkerNode nodeNew = true)
    (unreported : reportChanged deploymentMode nodeOld nodeNew = false) (target : String)
    (matching : Bool) (name : String) :
    (nodeEventHandlerUpdate nodeOld nodeNew : Op Err (Option String)).result Store.exec
      (constantMemory deploymentMode matching) (poolsAt target) ≠ .ok (some name) := by
  have answer : (nodeEventHandlerUpdate nodeOld nodeNew : Op Err (Option String)).result Store.exec
      (constantMemory deploymentMode matching) (poolsAt target) = _ :=
    nodeEventHandlerUpdate_result rfl rfl worker
  have spec : specOf ⟨{ name := "example" }, show KataConfigBody from { spec := constantSpec matching }⟩ =
      constantSpec matching := rfl
  rw [answer, spec, specMatches_constantSpec, specMatches_constantSpec]
  simp [constantMemory, unreported]

section Exact

variable (settings : Settings) {deploymentMode : DeploymentMode} (worker : isWorkerNode nodeNew = true)

include worker

theorem noticed_of_covered (covered : Covered deploymentMode nodeOld nodeNew)
    (notConverged : convergedIn s = false) {kataConfig : KataConfig}
    (known : memory.kataConfig = some kataConfig) (mode : memory.deploymentMode = deploymentMode) :
    Noticed settings s memory nodeOld nodeNew := by
  intro drifts
  have answer : (nodeEventHandlerUpdate nodeOld nodeNew : Op Err (Option String)).result Store.exec
      memory s = _ := nodeEventHandlerUpdate_result notConverged known worker
  have spec : memory.spec = specOf kataConfig := by
    rw [Reconciler.spec, Reconciler.current, known]
    rfl
  cases reported : reportChanged deploymentMode nodeOld nodeNew with
  | true => exact ⟨kataConfig.metadata.name, by simp [answer, mode, reported]⟩
  | false =>
    by_cases matched : specMatches memory.spec nodeOld.metadata.labels =
        specMatches memory.spec nodeNew.metadata.labels
    · -- with both unchanged nothing has drifted
      exfalso
      rcases covered with changed | ⟨labels, verdict⟩
      · rw [reported] at changed
        cases changed
      rcases drifts with ⟨toWrite, notWritten⟩ | ⟨isMc, differs⟩ | ⟨isDs, action, differs⟩
      · unfold relabels specMatches at *
        cases compiled : (poolSelectorOf memory.spec).asSelector with
        | none => simp [compiled] at toWrite
        | some selector =>
          simp only [compiled, isSome_relabeled, Bool.and_eq_true] at toWrite notWritten matched
          obtain ⟨listedOld, labeled⟩ := labels toWrite.1
          simp only [listedOld, matched, labeled, Bool.true_and] at notWritten
          rw [toWrite.2] at notWritten
          cases notWritten
      · rw [mode] at isMc
        subst isMc
        have sameState : annotatedState nodeOld = annotatedState nodeNew := by
          simpa [reportChanged] using reported
        exact differs (classified_same settings notConverged sameState (verdict rfl))
      · rw [mode] at isDs
        subst isDs
        have sameReport : reportedState nodeOld = reportedState nodeNew := by
          simpa [reportChanged] using reported
        rw [sameReport] at differs
        exact differs rfl
    · rw [spec] at matched
      exact ⟨kataConfig.metadata.name, by simp [answer, matched]⟩

variable (noticed : ∀ s memory kataConfig, convergedIn s = false → memory.kataConfig = some kataConfig →
    memory.deploymentMode = deploymentMode → Noticed settings s memory nodeOld nodeNew)
  (unreported : reportChanged deploymentMode nodeOld nodeNew = false)

include noticed unreported

theorem settled_of_noticed (target : String) (matching : Bool) :
    ¬ Drifts settings (poolsAt target) (constantMemory deploymentMode matching) nodeOld nodeNew := by
  intro drifts
  obtain ⟨name, queued⟩ := noticed (poolsAt target) (constantMemory deploymentMode matching) _ rfl rfl rfl drifts
  exact not_queued worker unreported target matching name queued

theorem labels_of_noticed (listed : workerSelector.accepts nodeNew.metadata.labels = true) :
    workerSelector.accepts nodeOld.metadata.labels = true ∧
      isLabeledForKata nodeOld = isLabeledForKata nodeNew := by
  have settled := settled_of_noticed settings worker noticed unreported ""
  have spec (matching : Bool) : (constantMemory deploymentMode matching).spec = constantSpec matching := rfl
  have kept (matching : Bool) (toWrite : (matching != isLabeledForKata nodeNew) = true) :
      workerSelector.accepts nodeOld.metadata.labels = true ∧
        (matching != isLabeledForKata nodeOld) = true := by
    by_contra notWritten
    refine settled matching (.inl ?_)
    rw [spec, relabels_constantSpec, relabels_constantSpec]
    exact ⟨by simp [listed, toWrite], by simpa using notWritten⟩
  have other := kept (!isLabeledForKata nodeNew) (by cases isLabeledForKata nodeNew <;> rfl)
  refine ⟨other.1, ?_⟩
  by_contra differs
  have own := kept (isLabeledForKata nodeOld) (by simpa using differs)
  simp at own

theorem verdict_of_noticed (mode : deploymentMode = .machineConfigMode) : SameVerdict nodeOld nodeNew := by
  subst mode
  have sameState : annotatedState nodeOld = annotatedState nodeNew := by
    simpa [reportChanged] using unreported
  have same (target : String) : stateAt target nodeNew = stateAt target nodeOld := by
    by_contra differs
    refine settled_of_noticed settings worker noticed unreported target true (.inr (.inl ⟨rfl, ?_⟩))
    rwa [classified_poolsAt, classified_poolsAt]
  intro known
  have knownOld := known
  rw [← sameState] at knownOld
  simp only [stateAt_known known, stateAt_known knownOld, sameState] at same
  cases configNew : currentConfig nodeNew with
  | none =>
    refine ⟨?_, nofun⟩
    cases configOld : currentConfig nodeOld with
    | none => rfl
    | some config =>
      obtain ⟨found, isFound⟩ := known_nodeKataState known config "" (isLabeledForKata nodeOld)
      have nothing := same ""
      simp [configNew, configOld, isFound] at nothing
  | some config =>
    cases configOld : currentConfig nodeOld with
    | none =>
      obtain ⟨found, isFound⟩ := known_nodeKataState known config "" (isLabeledForKata nodeNew)
      have nothing := same ""
      simp [configNew, configOld, isFound] at nothing
    | some oldConfig =>
      simp only [configNew, configOld, Option.bind_some] at same
      have labeled : isLabeledForKata nodeOld = isLabeledForKata nodeNew := by
        obtain ⟨found, isFound⟩ := known_nodeKataState known config "" (isLabeledForKata nodeNew)
        have isFoundOld := (same "").symm.trans isFound
        exact (isMeantForKata_nodeKataState _ _ _ isFoundOld).symm.trans
          (isMeantForKata_nodeKataState _ _ _ isFound)
      refine ⟨rfl, fun _ => ⟨labeled, fun done => ?_⟩⟩
      -- the pools may be at the config the node was at
      have atOld := same oldConfig
      rw [done, labeled, nodeKataState_done, nodeKataState_done, if_pos rfl] at atOld
      by_contra differs
      have other : config ≠ oldConfig := fun sameConfig => differs (congrArg some sameConfig.symm)
      rw [if_neg other] at atOld
      split at atOld <;> cases atOld

end Exact

/-- Whatever the cluster and the `KataConfig`, a change of a worker is noticed
exactly when the handler covers it. -/
theorem nodeEventHandlerUpdate_notices_iff (settings : Settings) (deploymentMode : DeploymentMode)
    {nodeOld nodeNew : Node} (worker : isWorkerNode nodeNew = true) :
    (∀ s memory kataConfig, convergedIn s = false → memory.kataConfig = some kataConfig →
      memory.deploymentMode = deploymentMode → Noticed settings s memory nodeOld nodeNew) ↔
      Covered deploymentMode nodeOld nodeNew := by
  constructor
  · intro noticed
    cases reported : reportChanged deploymentMode nodeOld nodeNew with
    | true => exact .inl reported
    | false => exact .inr ⟨labels_of_noticed settings worker noticed reported,
        verdict_of_noticed settings worker noticed reported⟩
  · intro covered s memory kataConfig notConverged known mode
    exact noticed_of_covered settings worker covered notConverged known mode

/-- Somebody takes the kata label off a node the selector matches. -/
theorem unlabeling_unnoticed :
    ¬ Noticed plainSettings (poolsAt "kata") (constantMemory .machineConfigMode true)
      (workerAt "node" "Done" "kata" [(kataOcLabel, "")]) (workerAt "node" "Done" "kata" []) := by
  intro noticed
  obtain ⟨name, queued⟩ := noticed (.inl (by decide +kernel))
  exact not_queued (by decide) (by decide) "kata" true name queued

/-- A node that reports another state is noticed. -/
theorem nodeEventHandlerUpdate_notices_working :
    Noticed plainSettings (poolsAt "kata") (constantMemory .machineConfigMode true)
      (workerAt "node" "Done" "plain" []) (workerAt "node" "Working" "plain" []) :=
  (nodeEventHandlerUpdate_notices_iff plainSettings .machineConfigMode (by decide)).mpr
    (.inl (by decide)) _ _ _ rfl rfl rfl

end Drift

end SandboxedContainers
