import Mathlib.Data.String.Basic
import SandboxedContainers.Lib.Orders
import SandboxedContainers.StatusLists

/-!
# The node lists and the order of the nodes

The API returns nodes in no particular order.  In the DaemonSet mode the lists are
sorted, so the status is the same for every order.  In the MachineConfig mode they
are not, and the last failure and the last error win: the status is the same for
every order exactly when no two nodes compete for one of these places.
-/

namespace SandboxedContainers

open Lib Routine

section MachineConfigMode

def constantly (answers : (r : Req) → Response r) : Unit → (r : Req) → Response r × Unit :=
  fun _ r => (answers r, ())

def withWorkers (answers : (r : Req) → Response r) (workers : List Node) : (r : Req) → Response r
  | .list .node selector =>
    if selector = workerSelector then .ok workers else answers (.list .node selector)
  | r => answers r

theorem withWorkers_query (answers : (r : Req) → Response r) (workers : List Node) {r : Req}
    (query : Query r) : withWorkers answers workers r = answers r := by
  unfold withWorkers
  split
  · rename_i selector
    have other : selector ≠ workerSelector := by
      rintro rfl
      exact query.2 rfl
    exact if_neg other
  · rfl

variable (settings : Settings) (answers : (r : Req) → Response r)

/-- How `updateStatus` ends when the API returns the workers in this order. -/
def updateStatusOn (workers : List Node) (memory : Reconciler) : Except Err PUnit × Reconciler :=
  ((updateStatus settings).eval (constantly (withWorkers answers workers)) memory ()).1

def verdictOf (node : Node) : Except Err (Option NodeKataState) :=
  (classifyNode settings node).result (constantly answers) {} ()

theorem steady_withWorkers {ε α : Type} {routine : Op ε α} (inquiry : Inquiry Query routine)
    (workers : List Node) :
    Steady (constantly (withWorkers answers workers)) () routine
      (routine.result (constantly answers) {} ()) := by
  have same := inquiry.result_eq (constantly (withWorkers answers workers)) () (constantly answers) ()
    (fun _ _ => rfl) (fun _ _ => rfl) (fun r query => withWorkers_query answers workers query) {}
  rw [← same]
  exact inquiry.steady (fun _ _ => rfl) {}

theorem steady_countKataNodes {S : Type} {serve : S → (r : Req) → Response r × S} {s : S}
    (kept : ∀ r, Query r → (serve s r).2 = s) :
    ∃ count, Steady serve s (countKataNodes : Op Err Nat) (.ok count) := by
  have known : ∃ converged, Steady serve s (isConvergedAndKnown : Op Err Bool) (.ok converged) := by
    have checked := query_checkConvergedCluster.steady kept {}
    cases found : checkConvergedCluster.result serve {} s with
    | ok converged =>
      rw [found] at checked
      exact ⟨converged, checked.attempt.bind (steady_pure converged)⟩
    | error error =>
      rw [found] at checked
      exact ⟨false, checked.attempt.bind (steady_pure false)⟩
  have selected : ∃ label, Selector.ofSet [(label, "")] ≠ workerSelector ∧
      Steady serve s (getNodeSelectorAsMap : Op Err (List (String × String))) (.ok [(label, "")]) := by
    obtain ⟨converged, known⟩ := known
    cases converged with
    | true => exact ⟨masterLabel, by decide, known.bind (steady_pure _)⟩
    | false => exact ⟨kataOcLabel, by decide, known.bind (steady_pure _)⟩
  obtain ⟨label, other, selected⟩ := selected
  have listed := (inquiry_clientList (k := .node) (query_list (.inr other))).steady kept {}
  cases found : (clientList .node (Selector.ofSet [(label, "")])).result serve {} s with
  | ok nodes =>
    rw [found] at listed
    exact ⟨nodes.length, selected.bind (listed.attempt.bind (steady_pure _))⟩
  | error error =>
    rw [found] at listed
    exact ⟨0, selected.bind (listed.attempt.bind (steady_pure _))⟩

theorem exists_updateStatusOn : ∃ nodeCount, ∀ workers memory,
    updateStatusOn settings answers workers memory = (endOf (lastError (verdictOf settings answers) workers),
        memory.setStatus (statusAfter (verdictOf settings answers) nodeCount workers memory.status)) := by
  obtain ⟨nodeCount, alone⟩ : ∃ nodeCount, Steady (constantly answers) ()
      (countKataNodes : Op Err Nat) (.ok nodeCount) := steady_countKataNodes fun _ _ => rfl
  refine ⟨nodeCount, fun workers memory => ?_⟩
  have counted := steady_withWorkers answers
    (inquiry_countKataNodes : Inquiry Query (countKataNodes : Op Err Nat)) workers
  rw [alone.result_eq] at counted
  have listed : Steady (constantly (withWorkers answers workers)) () getNodes (.ok workers) :=
    fun _ => rfl
  rw [updateStatusOn, updateStatus_eval memory listed counted fun node =>
    steady_withWorkers answers (inquiry_classifyNode settings node) workers]
  rfl

end MachineConfigMode

section Contest

variable (verdict : Node → Except Err (Option NodeKataState)) (workers : List Node)

/-- No two workers compete: for a place on a list, for the reported failure or
for the returned error. -/
structure Uncontested : Prop where
  lists : ∀ first ∈ workers, ∀ second ∈ workers, ∀ state, state ≠ .notInstalled →
    stateIn verdict first = some state → stateIn verdict second = some state →
      first.metadata.name = second.metadata.name
  failures : ∀ first ∈ workers, ∀ second ∈ workers, failsIn verdict first = true →
    failsIn verdict second = true → failureMessage first = failureMessage second
  errors : ∀ first ∈ workers, ∀ second ∈ workers, ∀ error error',
    errorIn verdict first = some error → errorIn verdict second = some error' → error = error'

variable {verdict} {workers} {other : List Node}

theorem conditionsAfter_eq (nodes : List Node) (conditions : List KataConfigCondition) :
    conditionsAfter verdict nodes conditions =
      match ((nodes.filter (failsIn verdict)).map failure).getLast? with
      | none => conditions
      | some condition => KataConfigStatus.putInProgress condition conditions := by
  rw [conditionsAfter, List.getLast?_map]
  cases (nodes.filter (failsIn verdict)).getLast? <;> rfl

theorem statusAfter_ext {first second : KataConfigStatus}
    (runtimeClasses : first.runtimeClasses = second.runtimeClasses)
    (kataNodes : first.kataNodes = second.kataNodes) (conditions : first.conditions = second.conditions)
    (waiting : first.waitingForMcoToStart = second.waitingForMcoToStart) : first = second := by
  obtain ⟨_, _, _, _⟩ := first
  obtain ⟨_, _, _, _⟩ := second
  simp_all

namespace Uncontested

variable (uncontested : Uncontested verdict workers)

include uncontested

theorem namesIn_eq {state : NodeKataState} (isListed : state ≠ .notInstalled) (perm : other.Perm workers) :
    namesIn (stateIn verdict) state other = namesIn (stateIn verdict) state workers := by
  apply eq_of_perm_of_constant ((perm.filter _).map _)
  intro first inFirst second inSecond
  obtain ⟨firstNode, firstMember, firstState, rfl⟩ := mem_namesIn.mp inFirst
  obtain ⟨secondNode, secondMember, secondState, rfl⟩ := mem_namesIn.mp inSecond
  exact uncontested.lists _ firstMember _ secondMember state isListed firstState secondState

theorem failures_eq (perm : other.Perm workers) :
    (other.filter (failsIn verdict)).map failure = (workers.filter (failsIn verdict)).map failure := by
  apply eq_of_perm_of_constant ((perm.filter _).map _)
  intro first inFirst second inSecond
  obtain ⟨firstNode, firstMember, rfl⟩ := List.mem_map.mp inFirst
  obtain ⟨secondNode, secondMember, rfl⟩ := List.mem_map.mp inSecond
  obtain ⟨firstMember, firstFails⟩ := List.mem_filter.mp firstMember
  obtain ⟨secondMember, secondFails⟩ := List.mem_filter.mp secondMember
  simp only [failure, uncontested.failures _ firstMember _ secondMember firstFails secondFails]

theorem lastError_eq (perm : other.Perm workers) : lastError verdict other = lastError verdict workers := by
  have same : other.filterMap (errorIn verdict) = workers.filterMap (errorIn verdict) := by
    apply eq_of_perm_of_constant (perm.filterMap _)
    intro first inFirst second inSecond
    obtain ⟨firstNode, firstMember, firstError⟩ := List.mem_filterMap.mp inFirst
    obtain ⟨secondNode, secondMember, secondError⟩ := List.mem_filterMap.mp inSecond
    exact uncontested.errors _ firstMember _ secondMember _ _ firstError secondError
  rw [lastError, lastError, same]

theorem kataNodes_eq (nodeCount : Nat) (status status' : KataConfigStatus) (perm : other.Perm workers) :
    (statusAfter verdict nodeCount other status').kataNodes =
      (statusAfter verdict nodeCount workers status).kataNodes := by
  have lists (state : NodeKataState) : (statusAfter verdict nodeCount other status').kataNodes.list state =
        (statusAfter verdict nodeCount workers status).kataNodes.list state := by
    by_cases isListed : state = .notInstalled
    · subst isListed
      rfl
    · rw [list_statusAfter _ _ _ isListed, list_statusAfter _ _ _ isListed,
        uncontested.namesIn_eq isListed perm]
  apply KataNodesStatus.ext_list
  · rw [nodeCount_statusAfter, nodeCount_statusAfter]
  · rw [readyNodeCount_statusAfter, readyNodeCount_statusAfter]
    exact congrArg List.length (lists .installed)
  · exact lists

theorem statusAfter_eq (nodeCount : Nat) (status : KataConfigStatus) (perm : other.Perm workers) :
    statusAfter verdict nodeCount other status = statusAfter verdict nodeCount workers status := by
  have conditions : conditionsAfter verdict other status.conditions =
      conditionsAfter verdict workers status.conditions := by
    rw [conditionsAfter_eq, conditionsAfter_eq, uncontested.failures_eq perm]
  have kataNodes := uncontested.kataNodes_eq nodeCount status status perm
  exact statusAfter_ext rfl kataNodes conditions rfl

theorem statusAfter_twice (nodeCount : Nat) (status : KataConfigStatus) :
    statusAfter verdict nodeCount workers (statusAfter verdict nodeCount workers status) =
      statusAfter verdict nodeCount workers status := by
  have conditions : conditionsAfter verdict workers (conditionsAfter verdict workers status.conditions) =
      conditionsAfter verdict workers status.conditions := by
    simp only [conditionsAfter_eq]
    cases last : ((workers.filter (failsIn verdict)).map failure).getLast? with
    | none => rfl
    | some condition =>
      apply putInProgress_twice
      obtain ⟨node, _, rfl⟩ := List.mem_map.mp (List.mem_of_getLast? last)
      rfl
  have kataNodes := uncontested.kataNodes_eq nodeCount status
    (statusAfter verdict nodeCount workers status) (List.Perm.refl workers)
  exact statusAfter_ext rfl kataNodes conditions rfl

end Uncontested

end Contest

section Order

variable (settings : Settings) (answers : (r : Req) → Response r)

/-- Transition times are not part of the conditions here. -/
def isKataConfigStatusChanged (oldStatus newStatus : KataConfigStatus) : Bool :=
  oldStatus ≠ newStatus

/-- Whatever the order in which the API returns the workers, `updateStatus` comes
to the same lists, counts, condition and error, and a later run finds no change. -/
def OrderIndependent (workers : List Node) (memory : Reconciler) : Prop :=
  ∀ other, other.Perm workers →
    let first := updateStatusOn settings answers workers memory
    let second := updateStatusOn settings answers other memory
    let again := updateStatusOn settings answers other first.2
    second.2.status.kataNodes = first.2.status.kataNodes ∧
    second.2.status.findInProgressCondition = first.2.status.findInProgressCondition ∧
    second.1 = first.1 ∧
    isKataConfigStatusChanged first.2.status second.2.status = false ∧
    isKataConfigStatusChanged first.2.status again.2.status = false

variable {settings} {answers} {workers : List Node} {memory : Reconciler}

theorem orderIndependent_of_uncontested (uncontested : Uncontested (verdictOf settings answers) workers) :
    OrderIndependent settings answers workers memory := by
  obtain ⟨nodeCount, evaluated⟩ := exists_updateStatusOn settings answers
  intro other perm
  simp only [evaluated, Reconciler.status_setStatus, isKataConfigStatusChanged,
    uncontested.statusAfter_eq nodeCount _ perm, uncontested.statusAfter_twice nodeCount,
    uncontested.lastError_eq perm, ne_eq, not_true_eq_false, decide_false, and_self]

theorem namesIn_cons {stateOf : Node → Option NodeKataState} {state : NodeKataState} {node : Node}
    (found : stateOf node = some state) (rest : List Node) :
    namesIn stateOf state (node :: rest) = node.metadata.name :: namesIn stateOf state rest := by
  simp [namesIn, found]

theorem uncontested_of_orderIndependent (independent : OrderIndependent settings answers workers memory) :
    Uncontested (verdictOf settings answers) workers := by
  obtain ⟨nodeCount, evaluated⟩ := exists_updateStatusOn settings answers
  simp only [OrderIndependent, evaluated, Reconciler.status_setStatus] at independent
  constructor
  · -- the node that comes first heads its list
    intro first firstMember second secondMember state isListed firstState secondState
    obtain ⟨firstRest, firstPerm⟩ := exists_perm_first firstMember
    obtain ⟨secondRest, secondPerm⟩ := exists_perm_first secondMember
    have firstLists := congrArg (KataNodesStatus.list · state) (independent _ firstPerm).1
    have secondLists := congrArg (KataNodesStatus.list · state) (independent _ secondPerm).1
    simp only [list_statusAfter _ _ _ isListed, namesIn_cons firstState] at firstLists
    simp only [list_statusAfter _ _ _ isListed, namesIn_cons secondState] at secondLists
    exact (List.cons.inj (firstLists.trans secondLists.symm)).1
  · -- the failure that comes last is reported
    intro first firstMember second secondMember firstFails secondFails
    obtain ⟨firstRest, firstPerm⟩ := exists_perm_last firstMember
    obtain ⟨secondRest, secondPerm⟩ := exists_perm_last secondMember
    have reported {node : Node} (fails : failsIn (verdictOf settings answers) node = true)
        (rest : List Node) : (statusAfter (verdictOf settings answers) nodeCount (rest ++ [node])
          memory.status).findInProgressCondition = some (failure node) := by
      rw [KataConfigStatus.findInProgressCondition, conditions_statusAfter, conditionsAfter]
      simp only [List.filter_append, List.filter_singleton, fails, cond_true, List.getLast?_concat]
      exact KataConfigStatus.find_putInProgress _ rfl _
    have same := (independent _ firstPerm).2.1.trans (independent _ secondPerm).2.1.symm
    rw [reported firstFails, reported secondFails] at same
    exact congrArg KataConfigCondition.message (Option.some.inj same)
  · -- and so is the error
    intro first firstMember second secondMember error error' firstError secondError
    obtain ⟨firstRest, firstPerm⟩ := exists_perm_last firstMember
    obtain ⟨secondRest, secondPerm⟩ := exists_perm_last secondMember
    have returned {node : Node} {error : Err} (fails : errorIn (verdictOf settings answers) node = some error)
        (rest : List Node) : lastError (verdictOf settings answers) (rest ++ [node]) = some error := by
      simp [lastError, List.filterMap_append, fails]
    have same := (independent _ firstPerm).2.2.1.trans (independent _ secondPerm).2.2.1.symm
    rw [returned firstError, returned secondError] at same
    exact Except.error.inj same

/-- The status is the same for every order of the workers exactly when no two of
them compete. -/
theorem updateStatus_orderIndependent_iff (settings : Settings) (answers : (r : Req) → Response r)
    (workers : List Node) (memory : Reconciler) :
    OrderIndependent settings answers workers memory ↔ Uncontested (verdictOf settings answers) workers :=
  ⟨uncontested_of_orderIndependent, orderIndependent_of_uncontested⟩

def kataWorker (name : String) : Node := workerAt name "Done" "kata" [(kataOcLabel, "")]

/-- The lists come out in the order of the workers. -/
theorem updateStatus_order_visible : ¬ OrderIndependent plainSettings (fun r => (twoWorkers.exec r).1)
      [kataWorker "first", kataWorker "second"] {} := by
  intro independent
  have same := (independent [kataWorker "second", kataWorker "first"] (List.Perm.swap _ _ [])).1
  revert same
  decide +kernel

end Order

section DaemonSetMode

def reportIn (action : KataDaemonSetAction) (node : Node) : Option NodeKataState :=
  some (listOf action (reportedState node))

theorem installListOf_cases (reported : String) :
    installListOf reported ∈ [NodeKataState.waitingToInstall, .installing, .installed] := by
  unfold installListOf
  split
  · simp
  · split <;> simp

theorem installListOf_installed_iff (reported : String) :
    installListOf reported = .installed ↔ reported = KataInstallationDaemonSetState.installed.text := by
  unfold installListOf
  split
  · rename_i isInstalling
    rw [isInstalling]
    decide
  · split <;> simp_all

theorem uninstallListOf_cases (reported : String) :
    uninstallListOf reported ∈ [NodeKataState.waitingToUninstall, .uninstalling, .notInstalled] := by
  unfold uninstallListOf
  split
  · simp
  · split <;> simp

theorem uninstallListOf_notInstalled_iff (reported : String) : uninstallListOf reported = .notInstalled ↔
      reported = KataInstallationDaemonSetState.uninstalled.text := by
  unfold uninstallListOf
  split
  · rename_i isUninstalling
    rw [isUninstalling]
    decide
  · split <;> simp_all

theorem listOf_ne_failedToUninstall (action : KataDaemonSetAction) (reported : String) :
    listOf action reported ≠ .failedToUninstall := by
  intro same
  cases action with
  | installKata =>
    have known := installListOf_cases reported
    rw [show installListOf reported = _ from same] at known
    simp at known
  | uninstallKata =>
    have known := uninstallListOf_cases reported
    rw [show uninstallListOf reported = _ from same] at known
    simp at known

theorem list_daemonSetLists (action : KataDaemonSetAction) (nodes : List Node) (old : KataNodesStatus)
    {state : NodeKataState} (isListed : state ≠ .notInstalled) :
    (daemonSetLists action nodes old).list state = sortNames (namesIn (reportIn action) state nodes) := by
  have gathered := list_gather (reportIn action) nodes
    { clearedNodeStatusLists old with nodeCount := nodes.length } isListed
  cases state with
  | notInstalled => exact absurd rfl isListed
  | failedToUninstall =>
    -- the one list that is not sorted is always empty
    have none : namesIn (reportIn action) .failedToUninstall nodes = [] := by
      simp [namesIn, reportIn, listOf_ne_failedToUninstall]
    rw [none] at gathered ⊢
    exact gathered
  | _ => exact congrArg sortNames (gathered.trans (List.nil_append _))

theorem nodeCount_daemonSetLists (action : KataDaemonSetAction) (nodes : List Node)
    (old : KataNodesStatus) : (daemonSetLists action nodes old).nodeCount = nodes.length :=
  counts_gather (reportIn action) nodes { clearedNodeStatusLists old with nodeCount := nodes.length }

theorem readyNodeCount_daemonSetLists (action : KataDaemonSetAction) (nodes : List Node)
    (old : KataNodesStatus) : (daemonSetLists action nodes old).readyNodeCount =
      (daemonSetLists action nodes old).installed.length := rfl

theorem perm_sortNames (names : List String) : (sortNames names).Perm names :=
  List.perm_insertionSort _ _

theorem sorted_sortNames (names : List String) : (sortNames names).Pairwise (· ≤ ·) :=
  List.pairwise_insertionSort _ _

theorem sortNames_eq {first second : List String} (perm : first.Perm second) :
    sortNames first = sortNames second :=
  ((perm_sortNames first).trans (perm.trans (perm_sortNames second).symm)).eq_of_pairwise'
    (sorted_sortNames first) (sorted_sortNames second)

theorem daemonSetLists_eq (action : KataDaemonSetAction) {nodes other : List Node}
    (perm : other.Perm nodes) (old old' : KataNodesStatus) :
    daemonSetLists action other old' = daemonSetLists action nodes old := by
  have lists (state : NodeKataState) :
      (daemonSetLists action other old').list state = (daemonSetLists action nodes old).list state := by
    by_cases isListed : state = .notInstalled
    · subst isListed
      rfl
    · rw [list_daemonSetLists _ _ _ isListed, list_daemonSetLists _ _ _ isListed]
      exact sortNames_eq ((perm.filter _).map _)
  apply KataNodesStatus.ext_list
  · rw [nodeCount_daemonSetLists, nodeCount_daemonSetLists, perm.length_eq]
  · exact congrArg List.length (lists .installed)
  · exact lists

theorem length_daemonSetLists (action : KataDaemonSetAction) (nodes : List Node)
    (old : KataNodesStatus) {state : NodeKataState} (isListed : state ≠ .notInstalled) :
    ((daemonSetLists action nodes old).list state).length =
      (nodes.filter fun node => listOf action (reportedState node) = state).length := by
  rw [list_daemonSetLists _ _ _ isListed, (perm_sortNames _).length_eq]
  simp [namesIn, reportIn]

theorem length_installLists (nodes : List Node) (old : KataNodesStatus) :
    (daemonSetLists .installKata nodes old).waitingToInstall.length +
      (daemonSetLists .installKata nodes old).installing.length +
      (daemonSetLists .installKata nodes old).installed.length = nodes.length := by
  have waiting := length_daemonSetLists .installKata nodes old
    (show NodeKataState.waitingToInstall ≠ .notInstalled by decide)
  have installing := length_daemonSetLists .installKata nodes old
    (show NodeKataState.installing ≠ .notInstalled by decide)
  have installed := length_daemonSetLists .installKata nodes old
    (show NodeKataState.installed ≠ .notInstalled by decide)
  simp only [KataNodesStatus.list, listOf] at waiting installing installed
  rw [waiting, installing, installed]
  clear waiting installing installed
  induction nodes with
  | nil => rfl
  | cons node rest ih =>
    have known := installListOf_cases (reportedState node)
    simp only [List.mem_cons, List.not_mem_nil, or_false] at known
    simp only [List.filter_cons, List.length_cons]
    rcases known with known | known | known <;> simp [known] <;> omega

variable {s : Cluster}

def kataNodesIn (s : Cluster) : List Node := nodesLabeled s (kataNodeLabel s)

theorem updateStatusDaemonSet_eval (serves : s.served .node = true) (action : KataDaemonSetAction)
    (memory : Reconciler) :
    (updateStatusDaemonSet action).eval Store.exec memory s = ((.ok ⟨⟩, memory.setStatus { memory.status with
        kataNodes := daemonSetLists action (kataNodesIn s) memory.status.kataNodes }), s) := by
  have listed : Steady Store.exec s (getNodesWithLabels [(kataNodeLabel s, "")]) (.ok (kataNodesIn s)) :=
    steady_clientList_exec _ serves
  unfold updateStatusDaemonSet
  rw [eval_bind_ok (steady_getNodeSelectorAsMap s memory), eval_bind_ok (listed memory)]
  rfl

theorem steady_isKataNodePoolInState (serves : s.served .node = true)
    (state : KataInstallationDaemonSetState) :
    Steady Store.exec s (isKataNodePoolInState state)
      (.ok ((kataNodesIn s).all fun node => reportedState node = state.text)) := by
  have listed : Steady Store.exec s (getNodesWithLabels [(kataNodeLabel s, "")]) (.ok (kataNodesIn s)) :=
    steady_clientList_exec _ serves
  have marked : Steady Store.exec s (mark .checkAgents : Op Err PUnit) (.ok ⟨⟩) := fun _ => rfl
  have counted : ((kataNodesIn s).all fun node => reportedState node = state.text) =
      decide (((kataNodesIn s).filter fun node => reportedState node = state.text).length =
        (kataNodesIn s).length) := by
    rw [Bool.eq_iff_iff, List.all_eq_true, decide_eq_true_iff, List.length_filter_eq_length_iff]
  rw [counted]
  exact (steady_getNodeSelectorAsMap s).bind (marked.bind (listed.bind (steady_pure _)))

theorem ready_iff (serves : s.served .node = true) (memory : Reconciler) (old : KataNodesStatus) :
    (daemonSetLists .installKata (kataNodesIn s) old).readyNodeCount =
        (daemonSetLists .installKata (kataNodesIn s) old).nodeCount ↔
      isKataInstallDaemonSetInstalling.result Store.exec memory s = .ok false := by
  have installing : Steady Store.exec s isKataInstallDaemonSetInstalling (.ok !(kataNodesIn s).all fun node =>
        reportedState node = KataInstallationDaemonSetState.installed.text) :=
    (steady_isKataNodePoolInState serves .installed).bind (steady_pure _)
  have ready := length_daemonSetLists .installKata (kataNodesIn s) old
    (show NodeKataState.installed ≠ .notInstalled by decide)
  simp only [KataNodesStatus.list] at ready
  rw [installing.result_eq memory, nodeCount_daemonSetLists, readyNodeCount_daemonSetLists, ready,
    List.length_filter_eq_length_iff]
  simp [listOf, installListOf_installed_iff]

theorem idle_iff (serves : s.served .node = true) (memory : Reconciler) (old : KataNodesStatus) :
    (daemonSetLists .uninstallKata (kataNodesIn s) old).waitingToUninstall = [] ∧
        (daemonSetLists .uninstallKata (kataNodesIn s) old).uninstalling = [] ↔
      isKataUninstallDaemonSetUninstalling.result Store.exec memory s = .ok false := by
  have uninstalling : Steady Store.exec s isKataUninstallDaemonSetUninstalling
      (.ok !(kataNodesIn s).all fun node =>
        reportedState node = KataInstallationDaemonSetState.uninstalled.text) :=
    (steady_isKataNodePoolInState serves .uninstalled).bind (steady_pure _)
  have waitingLength := length_daemonSetLists .uninstallKata (kataNodesIn s) old
    (show NodeKataState.waitingToUninstall ≠ .notInstalled by decide)
  have uninstallingLength := length_daemonSetLists .uninstallKata (kataNodesIn s) old
    (show NodeKataState.uninstalling ≠ .notInstalled by decide)
  simp only [KataNodesStatus.list, listOf] at waitingLength uninstallingLength
  rw [uninstalling.result_eq memory, ← List.length_eq_zero_iff, ← List.length_eq_zero_iff,
    waitingLength, uninstallingLength, List.length_eq_zero_iff, List.length_eq_zero_iff,
    List.filter_eq_nil_iff, List.filter_eq_nil_iff]
  simp only [decide_eq_true_eq, Except.ok.injEq, Bool.not_eq_false', List.all_eq_true]
  constructor
  · rintro ⟨notWaiting, notUninstalling⟩ node member
    have known := uninstallListOf_cases (reportedState node)
    simp only [List.mem_cons, List.not_mem_nil, or_false] at known
    rcases known with known | known | known
    · exact absurd (decide_eq_true known) (notWaiting node member)
    · exact absurd (decide_eq_true known) (notUninstalling node member)
    · exact (uninstallListOf_notInstalled_iff _).mp known
  · intro done
    have clean (node : Node) (member : node ∈ kataNodesIn s) :
        uninstallListOf (reportedState node) = .notInstalled :=
      (uninstallListOf_notInstalled_iff _).mpr (done node member)
    constructor
    · intro node member
      simp [clean node member]
    · intro node member
      simp [clean node member]

/-- The same cluster, with its nodes in another order. -/
structure Reordered (s s' : Cluster) : Prop where
  served : s'.served = s.served
  pools : s'.objs .machineConfigPool = s.objs .machineConfigPool
  nodes : (s'.objs .node).items.Perm (s.objs .node).items

theorem Reordered.kataNodesIn {s' : Cluster} (reordered : Reordered s s') :
    (kataNodesIn s').Perm (SandboxedContainers.kataNodesIn s) := by
  have label : kataNodeLabel s' = kataNodeLabel s := by
    rw [kataNodeLabel, kataNodeLabel, convergedIn, convergedIn, reordered.served, reordered.pools]
  unfold SandboxedContainers.kataNodesIn
  rw [label]
  exact reordered.nodes.filter _

/-- In the DaemonSet mode the lists, the counts and the tests for progress agree,
and none of them depends on the order of the nodes. -/
theorem daemonSetStatus_agrees {s s' : Cluster} (serves : s.served .node = true)
    (distinct : ((s.objs .node).items.map fun node => node.metadata.name).Nodup)
    (reordered : Reordered s s') (memory memory' : Reconciler) :
    let listsOf (action : KataDaemonSetAction) (s : Cluster) (memory : Reconciler) :=
      ((updateStatusDaemonSet action).eval Store.exec memory s).1.2.status.kataNodes
    let install := listsOf .installKata s memory
    let uninstall := listsOf .uninstallKata s memory
    (∀ node ∈ kataNodesIn s, ∃ state ∈ [NodeKataState.waitingToInstall, .installing, .installed],
      ∀ other, node.metadata.name ∈ install.list other ↔ other = state) ∧
    install.waitingToInstall.length + install.installing.length + install.installed.length =
      install.nodeCount ∧
    (install.readyNodeCount = install.nodeCount ↔
      isKataInstallDaemonSetInstalling.result Store.exec memory s = .ok false) ∧
    (uninstall.waitingToUninstall = [] ∧ uninstall.uninstalling = [] ↔
      isKataUninstallDaemonSetUninstalling.result Store.exec memory s = .ok false) ∧
    (∀ action state, ((listsOf action s memory).list state).Pairwise (· ≤ ·)) ∧
    (∀ action, listsOf action s' memory' = listsOf action s memory) := by
  have servesOther : s'.served .node = true := by rw [reordered.served, serves]
  have distinctKata : ((kataNodesIn s).map fun node => node.metadata.name).Nodup :=
    distinct.sublist (List.filter_sublist.map _)
  simp only [updateStatusDaemonSet_eval serves, updateStatusDaemonSet_eval servesOther,
    Reconciler.status_setStatus]
  refine ⟨?_, ?_, ?_, ?_, ?_, fun action => daemonSetLists_eq action reordered.kataNodesIn _ _⟩
  · intro node member
    refine ⟨installListOf (reportedState node), installListOf_cases _, fun other => ?_⟩
    by_cases isListed : other = .notInstalled
    · subst isListed
      have known := installListOf_cases (reportedState node)
      constructor
      · intro inList
        cases inList
      · intro same
        rw [← same] at known
        simp at known
    · rw [list_daemonSetLists _ _ _ isListed, (perm_sortNames _).mem_iff,
        name_mem_namesIn distinctKata member]
      exact ⟨fun same => (Option.some.inj same).symm, fun same => congrArg some same.symm⟩
  · rw [nodeCount_daemonSetLists]
    exact length_installLists _ _
  · exact ready_iff serves memory _
  · exact idle_iff serves memory _
  · intro action state
    by_cases isListed : state = .notInstalled
    · subst isListed
      exact List.Pairwise.nil
    · rw [list_daemonSetLists _ _ _ isListed]
      exact sorted_sortNames _

def reversed (s : Cluster) : Cluster where
  objs := Function.update s.objs .node
    ⟨(s.objs .node).items.reverse,
      by simpa [List.map_reverse] using (s.objs .node).nodup,
      by simpa [List.map_reverse] using (s.objs .node).uids⟩
  version := s.version
  served := s.served
  assigned := by
    intro k object member
    by_cases isNode : k = .node
    · subst isNode
      rw [Function.update_self] at member
      exact s.assigned _ object (List.mem_reverse.mp member)
    · rw [Function.update_of_ne isNode] at member
      exact s.assigned k object member
  unfinished := by
    intro k object member
    by_cases isNode : k = .node
    · subst isNode
      rw [Function.update_self] at member
      exact s.unfinished _ object (List.mem_reverse.mp member)
    · rw [Function.update_of_ne isNode] at member
      exact s.unfinished k object member

theorem reordered_reversed (s : Cluster) : Reordered s (reversed s) where
  served := rfl
  pools := by
    have other : Kind.machineConfigPool ≠ .node := by decide
    simp only [reversed, Function.update_of_ne other]
  nodes := by
    simp only [reversed, Function.update_self]
    exact List.reverse_perm _

def agentAt (name report : String) : Node :=
  ⟨{ name := name, labels := StrMap.ofList [(kataOcLabel, ""), (kataInstallationDaemonSetLabel, report)] }, ()⟩

def twoAgents : Cluster :=
  clusterOf [.create .node (agentAt "first" "installed"), .create .node (agentAt "second" "installing")]

theorem daemonSetStatus_agrees_twoAgents :
    ((updateStatusDaemonSet .installKata).eval Store.exec {} (reversed twoAgents)).1.2.status.kataNodes =
      ((updateStatusDaemonSet .installKata).eval Store.exec {} twoAgents).1.2.status.kataNodes :=
  (daemonSetStatus_agrees rfl (by decide) (reordered_reversed twoAgents) {} {}).2.2.2.2.2 .installKata

end DaemonSetMode

end SandboxedContainers
