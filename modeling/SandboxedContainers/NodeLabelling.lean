import SandboxedContainers.StatusLists

/-!
# Labelling the nodes, with failures

`updateNodeLabels` goes through the workers and stops at the first update that
fails.  The workers before it are then labelled as the selector asks, the others
are as they were, and since the selector does not look at the label that is set, a
later call continues where the failed one stopped.
-/

namespace SandboxedContainers

open Lib Routine

/-- A server on which the `n`-th node update since the start of a call fails with
`fails n`, if that is an error. -/
def failing (fails : Nat → Option ApiError) : Cluster × Nat → (r : Req) → Response r × (Cluster × Nat)
  | w, .update .node node =>
    match fails w.2 with
    | some error => (.error error, (w.1, w.2 + 1))
    | none =>
      let answered := w.1.exec (P := Mark) (.update .node node)
      (answered.1, (answered.2, w.2 + 1))
  | w, r => ((w.1.exec r).1, ((w.1.exec r).2, w.2))

def labellingTask : Op Err (List Node × Selector) := do
  let workerNodeList ← clientList .node (Selector.ofSet [(workerLabel, "")])
  let kataNodeSelector ← getKataConfigNodeSelectorAsSelector
  return (workerNodeList, kataNodeSelector)

/-- `updateNodeLabels` with both of its results: whether a label was changed, and
the error that ended it. -/
def updateNodeLabelsResults : Op Err (Bool × Option Err) := do
  match ← Routine.attempt labellingTask with
  | .error error => return (false, some error)
  | .ok task => updateEach (relabeled task.2) false task.1

/-- The error is returned with the flag, or it ends the caller. -/
theorem updateNodeLabels_eq : updateNodeLabels = updateNodeLabelsResults >>= labelingOutcome := by
  have task : updateNodeLabels = labellingTask >>= fun task =>
      updateEach (relabeled task.2) false task.1 >>= labelingOutcome := by
    unfold updateNodeLabels labellingTask
    simp only [Routine.bind_assoc]
    rfl
  rw [task]
  unfold updateNodeLabelsResults
  rw [Routine.bind_assoc]
  funext memory
  refine Eq.trans ?_ (Prog.bind_assoc (labellingTask memory) _ _).symm
  refine congrArg (labellingTask memory >>= ·) (funext fun outcome => ?_)
  rcases outcome with ⟨error | value, memory'⟩ <;> rfl

section Sweep

/-- A change of nodes that touches nothing but labels. -/
def RelabelsOnly (change : Node → Option Node) : Prop :=
  ∀ node changed, change node = some changed →
    changed = { node with metadata := { node.metadata with labels := changed.metadata.labels } }

def atVersion (node : Node) (version : Nat) : Node :=
  { node with metadata := { node.metadata with resourceVersion := version } }

variable {change : Node → Option Node} {fails : Nat → Option ApiError} {s : Cluster} {n : Nat}
  {node changed : Node}

theorem exec_relabel (serves : s.served .node = true) (found : s.find? .node node.key = some node)
    (onlyLabels : RelabelsOnly change) (changes : change node = some changed) :
    s.exec (P := Mark) (.update .node changed) = (.ok (s.stamp changed), s.settle changed) := by
  have shape := onlyLabels node changed changes
  have foundChanged : s.find? .node changed.key = some node := by
    rw [shape]
    exact found
  have current : Store.stale node changed = false := by
    rw [shape]
    simp [Store.stale]
  have admitted : Store.addsFinalizer node changed = false := by
    rw [shape]
    simp [Store.addsFinalizer]
  have merged : Store.updated node changed = changed := by
    rw [shape]
    rfl
  simp only [Store.exec, Store.change, serves, foundChanged, current, admitted, merged, if_true,
    Bool.false_eq_true, if_false]
  rfl

theorem find?_relabel (found : s.find? .node node.key = some node) (onlyLabels : RelabelsOnly change)
    (changes : change node = some changed) :
    (s.settle changed).find? .node node.key = some (s.stamp changed) := by
  have shape := onlyLabels node changed changes
  exact Store.find?_settle_kept found (by rw [shape]; rfl) (by rw [shape]) (by rw [shape]) (by rw [shape])

theorem find?_relabel_other (serves : s.served .node = true)
    (found : s.find? .node node.key = some node) (onlyLabels : RelabelsOnly change)
    (changes : change node = some changed) {key : Key} (other : node.key ≠ key) :
    (s.settle changed).find? .node key = s.find? .node key := by
  have sameKey : changed.key = node.key := by
    rw [onlyLabels node changed changes]
    rfl
  have target : (Request.update (P := Mark) Kind.node changed).target ≠ some (.node, key) := by
    intro same
    exact other (sameKey.symm.trans (congrArg Prod.snd (Option.some.inj same)))
  have kept := Store.exec_find?_other (s := s) target
  rw [exec_relabel serves found onlyLabels changes] at kept
  exact kept

def changesIn (change : Node → Option Node) (nodes : List Node) : Nat :=
  (nodes.filter fun node => (change node).isSome).length

/-- How far a pass over `nodes` came: the nodes in `done` are as they should be,
and the pass ended after them, or at the next node that had to be changed. -/
structure Swept (change : Node → Option Node) (fails : Nat → Option ApiError) (s : Cluster) (n : Nat)
    (nodes done : List Node) (error : Option Err) (s' : Cluster) : Prop where
  otherKinds : ∀ k, k ≠ .node → s'.objs k = s.objs k
  served : s'.served = s.served
  frame : ∀ key, (∀ node ∈ done, node.key ≠ key) → s'.find? .node key = s.find? .node key
  kept : ∀ node ∈ done, change node = none → s'.find? .node node.key = some node
  written : ∀ node ∈ done, ∀ changed, change node = some changed →
    ∃ version, s.version < version ∧ s'.find? .node node.key = some (atVersion changed version)
  attempts : ∀ j < changesIn change done, fails (n + j) = none
  ended : (error = none ∧ done = nodes) ∨ ∃ failed rest reason, nodes = done ++ failed :: rest ∧
    (change failed).isSome = true ∧ error = some (.api reason) ∧
      fails (n + changesIn change done) = some reason

/-- The nodes are stored as they were read, under different keys. -/
structure Fresh (s : Cluster) (nodes : List Node) : Prop where
  stored : ∀ node ∈ nodes, s.find? .node node.key = some node
  distinct : (nodes.map Object.key).Nodup
  /-- A node has no namespace. -/
  clusterWide : ∀ node ∈ nodes, node.metadata.ns = ""

theorem Swept.nil (s : Cluster) (n : Nat) : Swept change fails s n [] [] none s where
  otherKinds _ _ := rfl
  served := rfl
  frame _ _ := rfl
  kept := nofun
  written := nofun
  attempts := nofun
  ended := .inl ⟨rfl, rfl⟩

theorem Swept.stop {reason : ApiError} (rest : List Node) (changes : change node = some changed)
    (fault : fails n = some reason) :
    Swept change fails s n (node :: rest) [] (some (.api reason)) s where
  otherKinds _ _ := rfl
  served := rfl
  frame _ _ := rfl
  kept := nofun
  written := nofun
  attempts := nofun
  ended := .inr ⟨node, rest, reason, rfl, by rw [changes]; rfl, rfl, fault⟩

theorem Swept.skip {nodes done : List Node} {error : Option Err} {s' : Cluster}
    (fresh : Fresh s (node :: nodes)) (upToDate : change node = none)
    (rest : Swept change fails s n nodes done error s') (inside : ∀ other ∈ done, other ∈ nodes) :
    Swept change fails s n (node :: nodes) (node :: done) error s' where
  otherKinds := rest.otherKinds
  served := rest.served
  frame key outside := rest.frame key fun other member => outside other (List.mem_cons_of_mem _ member)
  kept other member unchanged := by
    rcases List.mem_cons.mp member with rfl | later
    · rw [rest.frame other.key, fresh.stored other List.mem_cons_self]
      intro later inDone same
      have apart := (List.nodup_cons.mp fresh.distinct).1
      exact apart (List.mem_map.mpr ⟨later, inside later inDone, same⟩)
    · exact rest.kept other later unchanged
  written other member changed changes := by
    rcases List.mem_cons.mp member with rfl | later
    · rw [upToDate] at changes
      cases changes
    · exact rest.written other later changed changes
  attempts := by simpa [changesIn, upToDate] using rest.attempts
  ended := by
    rcases rest.ended with ⟨none, rfl⟩ | ⟨failed, later, reason, rfl, toChange, error, fault⟩
    · exact .inl ⟨none, rfl⟩
    · refine .inr ⟨failed, later, reason, rfl, toChange, error, ?_⟩
      simpa [changesIn, upToDate] using fault

theorem Swept.write {nodes done : List Node} {error : Option Err} {s' : Cluster}
    (serves : s.served .node = true) (onlyLabels : RelabelsOnly change)
    (fresh : Fresh s (node :: nodes)) (changes : change node = some changed) (fault : fails n = none)
    (rest : Swept change fails (s.settle changed) (n + 1) nodes done error s')
    (inside : ∀ other ∈ done, other ∈ nodes) :
    Swept change fails s n (node :: nodes) (node :: done) error s' := by
  have found := fresh.stored node List.mem_cons_self
  have apart : ∀ other ∈ done, other.key ≠ node.key := by
    intro other member same
    exact (List.nodup_cons.mp fresh.distinct).1 (List.mem_map.mpr ⟨other, inside other member, same⟩)
  have count : changesIn change (node :: done) = changesIn change done + 1 := by
    simp [changesIn, changes]
  constructor
  · intro k other
    rw [rest.otherKinds k other, Store.settle_objs_ne other]
  · rw [rest.served, Store.settle_served]
  · intro key outside
    rw [rest.frame key fun other member => outside other (List.mem_cons_of_mem _ member)]
    exact find?_relabel_other serves found onlyLabels changes (outside node List.mem_cons_self)
  · intro other member unchanged
    rcases List.mem_cons.mp member with rfl | later
    · rw [changes] at unchanged
      cases unchanged
    · exact rest.kept other later unchanged
  · intro other member replacement replaces
    rcases List.mem_cons.mp member with rfl | later
    · rw [changes] at replaces
      cases replaces
      refine ⟨s.version + 1, Nat.lt_succ_self _, ?_⟩
      rw [rest.frame other.key apart, find?_relabel found onlyLabels changes]
      rfl
    · obtain ⟨version, recent, stored⟩ := rest.written other later replacement replaces
      refine ⟨version, ?_, stored⟩
      rw [Store.settle_version] at recent
      omega
  · intro j lt
    rw [count] at lt
    cases j with
    | zero => exact fault
    | succ j =>
      have earlier := rest.attempts j (by omega)
      rwa [show n + (j + 1) = n + 1 + j by omega]
  · rcases rest.ended with ⟨none, rfl⟩ | ⟨failed, later, reason, rfl, toChange, error, fault⟩
    · exact .inl ⟨none, rfl⟩
    · refine .inr ⟨failed, later, reason, rfl, toChange, error, ?_⟩
      rw [count]
      rwa [show n + (changesIn change done + 1) = n + 1 + changesIn change done by omega]

theorem Fresh.settle {nodes : List Node} (serves : s.served .node = true)
    (onlyLabels : RelabelsOnly change) (fresh : Fresh s (node :: nodes))
    (changes : change node = some changed) : Fresh (s.settle changed) nodes where
  stored other member := by
    have apart : node.key ≠ other.key := fun same =>
      (List.nodup_cons.mp fresh.distinct).1 (List.mem_map.mpr ⟨other, member, same.symm⟩)
    rw [find?_relabel_other serves (fresh.stored node List.mem_cons_self) onlyLabels changes apart]
    exact fresh.stored other (List.mem_cons_of_mem _ member)
  distinct := (List.nodup_cons.mp fresh.distinct).2
  clusterWide other member := fresh.clusterWide other (List.mem_cons_of_mem _ member)

theorem Fresh.tail {nodes : List Node} (fresh : Fresh s (node :: nodes)) : Fresh s nodes where
  stored other member := fresh.stored other (List.mem_cons_of_mem _ member)
  distinct := (List.nodup_cons.mp fresh.distinct).2
  clusterWide other member := fresh.clusterWide other (List.mem_cons_of_mem _ member)

theorem inScope_node (clusterWide : node.metadata.ns = "") : inScope node = node := by
  obtain ⟨metadata, body⟩ := node
  obtain ⟨name, ns, labels, annotations, finalizers, deletionTimestamp, owners, uid, version⟩ := metadata
  cases clusterWide
  rfl

theorem eval_clientUpdate_fails {reason : ApiError} (memory : Reconciler)
    (clusterWide : changed.metadata.ns = "") (fault : fails n = some reason) :
    (clientUpdate changed).eval (failing fails) memory (s, n) =
      ((.error (.api reason), memory), (s, n + 1)) := by
  unfold clientUpdate
  rw [inScope_node clusterWide]
  refine (eval_bind_ok (eval_request _) _).trans ?_
  simp only [failing, fault]
  rfl

theorem eval_clientUpdate_writes (memory : Reconciler) (clusterWide : changed.metadata.ns = "")
    (fault : fails n = none) (serves : s.served .node = true)
    (found : s.find? .node node.key = some node) (onlyLabels : RelabelsOnly change)
    (changes : change node = some changed) :
    (clientUpdate changed).eval (failing fails) memory (s, n) =
      ((.ok (s.stamp changed), memory), (s.settle changed, n + 1)) := by
  unfold clientUpdate
  rw [inScope_node clusterWide]
  refine (eval_bind_ok (eval_request _) _).trans ?_
  simp only [failing, fault, exec_relabel serves found onlyLabels changes]
  rfl

theorem updateEach_eval (fails : Nat → Option ApiError) (n : Nat) (memory : Reconciler)
    (onlyLabels : RelabelsOnly change) (nodes : List Node)
    (flag : Bool) (serves : s.served .node = true) (fresh : Fresh s nodes) :
    ∃ done error s' m,
      (updateEach change flag nodes).eval (failing fails) memory (s, n) =
        ((.ok (flag || done.any fun node => (change node).isSome, error), memory), (s', m)) ∧
      (∀ other ∈ done, other ∈ nodes) ∧ Swept change fails s n nodes done error s' := by
  induction nodes generalizing s n flag with
  | nil => exact ⟨[], none, s, n, by simp [updateEach], nofun, .nil s n⟩
  | cons node rest ih =>
    cases changes : change node with
    | none =>
      obtain ⟨done, error, s', m, evaluated, inside, swept⟩ :=
        ih n flag serves fresh.tail
      refine ⟨node :: done, error, s', m, ?_, ?_, swept.skip fresh changes inside⟩
      · simp only [updateEach, changes]
        rw [evaluated]
        simp [changes]
      · intro other member
        rcases List.mem_cons.mp member with rfl | later
        · exact List.mem_cons_self
        · exact List.mem_cons_of_mem _ (inside other later)
    | some changed =>
      have clusterWide : changed.metadata.ns = "" := by
        rw [onlyLabels node changed changes]
        exact fresh.clusterWide node List.mem_cons_self
      cases fault : fails n with
      | some reason =>
        refine ⟨[], some (.api reason), s, n + 1, ?_, nofun, .stop rest changes fault⟩
        simp only [updateEach, changes]
        rw [eval_bind_ok (eval_attempt (eval_clientUpdate_fails memory clusterWide fault))]
        simp
      | none =>
        have found := fresh.stored node List.mem_cons_self
        obtain ⟨done, error, s', m, evaluated, inside, swept⟩ :=
          ih (s := s.settle changed) (n + 1) true (by rwa [Store.settle_served])
            (fresh.settle serves onlyLabels changes)
        refine ⟨node :: done, error, s', m, ?_, ?_,
          swept.write serves onlyLabels fresh changes fault inside⟩
        · simp only [updateEach, changes]
          rw [eval_bind_ok (eval_attempt
            (eval_clientUpdate_writes memory clusterWide fault serves found onlyLabels changes))]
          refine evaluated.trans ?_
          simp [changes]
        · intro other member
          rcases List.mem_cons.mp member with rfl | later
          · exact List.mem_cons_self
          · exact List.mem_cons_of_mem _ (inside other later)

end Sweep

section Relabel

def relabel (selector : Selector) (labels : StrMap) : StrMap :=
  if selector.accepts labels && !StrMap.hasKey labels kataOcLabel then labels.insert kataOcLabel ""
  else if !selector.accepts labels && StrMap.hasKey labels kataOcLabel then labels.erase kataOcLabel
  else labels

variable {selector : Selector} {node changed : Node}

theorem relabeled_none (upToDate : relabeled selector node = none) :
    relabel selector node.metadata.labels = node.metadata.labels := by
  cases accepts : selector.accepts node.metadata.labels <;>
    cases has : StrMap.hasKey node.metadata.labels kataOcLabel <;>
      simp_all [relabeled, relabel, isLabeledForKata]

theorem relabeled_some (changes : relabeled selector node = some changed) :
    changed = { node with
      metadata := { node.metadata with labels := relabel selector node.metadata.labels } } := by
  cases accepts : selector.accepts node.metadata.labels <;>
    cases has : StrMap.hasKey node.metadata.labels kataOcLabel <;>
      simp_all [relabeled, relabel, isLabeledForKata, setLabel, dropLabel]

theorem relabelsOnly_relabeled (selector : Selector) : RelabelsOnly (relabeled selector) := by
  intro node changed changes
  rw [relabeled_some changes]

theorem hasKey_relabel (selector : Selector) (labels : StrMap) :
    StrMap.hasKey (relabel selector labels) kataOcLabel = selector.accepts labels := by
  unfold relabel
  cases accepts : selector.accepts labels <;> cases has : StrMap.hasKey labels kataOcLabel <;>
    simp [StrMap.hasKey_insert, StrMap.hasKey_erase, has]

theorem lookup_relabel (selector : Selector) (labels : StrMap) {key : String} (other : key ≠ kataOcLabel) :
    (relabel selector labels).lookup key = labels.lookup key := by
  unfold relabel
  split
  · exact Finmap.lookup_insert_of_ne _ other
  · split
    · exact Finmap.lookup_erase_ne other
    · rfl

theorem accepts_congr {first second : StrMap}
    (same : ∀ requirement ∈ selector, first.lookup requirement.key = second.lookup requirement.key) :
    selector.accepts first = selector.accepts second := by
  unfold Selector.accepts
  induction selector with
  | nil => rfl
  | cons requirement rest ih =>
    have head : requirement.accepts first = requirement.accepts second := by
      simp only [Requirement.accepts, same requirement List.mem_cons_self]
    rw [List.all_cons, List.all_cons, head,
      ih fun other member => same other (List.mem_cons_of_mem _ member)]

theorem accepts_relabel {other : Selector} (unmentioned : ∀ requirement ∈ other, requirement.key ≠ kataOcLabel)
    (selector : Selector) (labels : StrMap) :
    other.accepts (relabel selector labels) = other.accepts labels :=
  accepts_congr fun requirement member => lookup_relabel selector labels (unmentioned requirement member)

theorem relabel_relabel (unmentioned : ∀ requirement ∈ selector, requirement.key ≠ kataOcLabel)
    (labels : StrMap) : relabel selector (relabel selector labels) = relabel selector labels := by
  rw [relabel, accepts_relabel unmentioned, hasKey_relabel]
  cases selector.accepts labels <;> rfl

theorem workerSelector_unmentioned : ∀ requirement ∈ workerSelector, requirement.key ≠ kataOcLabel := by
  decide

def wantedLabels (selector : Selector) (labels : StrMap) : StrMap :=
  if workerSelector.accepts labels then relabel selector labels else labels

theorem wantedLabels_relabel (unmentioned : ∀ requirement ∈ selector, requirement.key ≠ kataOcLabel)
    (labels : StrMap) :
    wantedLabels selector (wantedLabels selector labels) = wantedLabels selector labels := by
  unfold wantedLabels
  cases worker : workerSelector.accepts labels with
  | false => simp [worker]
  | true => simp [accepts_relabel workerSelector_unmentioned, worker, relabel_relabel unmentioned]

end Relabel

section Call

/-- What one call of `updateNodeLabels` finds: the selector is valid and does not
mention the label that is set. -/
structure LabellingSetting (s : Cluster) (memory : Reconciler) (selector : Selector) : Prop where
  serves : s.served .node = true
  clusterWide : ∀ node ∈ (s.objs .node).items, node.metadata.ns = ""
  compiled : (if convergedIn s then { matchLabels := [(masterLabel, "")] }
    else poolSelectorOf memory.spec : LabelSelector).asSelector = some selector
  unmentioned : ∀ requirement ∈ selector, requirement.key ≠ kataOcLabel

variable {s : Cluster} {memory : Reconciler} {selector : Selector} {fails : Nat → Option ApiError}
  {n : Nat}

theorem failing_read (fails : Nat → Option ApiError) (s : Cluster) (n : Nat) {r : Req}
    (isRead : r.writes = none) : failing fails (s, n) r = ((s.exec r).1, (s, n)) := by
  cases r with
  | get | list | mark => exact Prod.ext rfl (Prod.ext (exec_read s _ rfl) rfl)
  | create | update | updateStatus | patch | delete => cases isRead

theorem steady_converged (fails : Nat → Option ApiError) (s : Cluster) (n : Nat) :
    Steady (failing fails) (s, n) checkConvergedCluster (.ok (convergedIn s)) := by
  have kept (r : Req) (query : Query r) : (failing fails (s, n) r).2 = (s, n) := by
    rw [failing_read fails s n query.1]
  have same := query_checkConvergedCluster.result_eq (failing fails) (s, n) Store.exec s kept
    (fun r query => exec_read s r query.1) (fun r query => by rw [failing_read fails s n query.1]) {}
  rw [(steady_checkConvergedCluster s).result_eq] at same
  rw [← same]
  exact query_checkConvergedCluster.steady kept {}

theorem eval_labellingTask (setting : LabellingSetting s memory selector) :
    labellingTask.eval (failing fails) memory (s, n) =
      ((.ok (nodesLabeled s workerLabel, selector), memory), (s, n)) := by
  have listed : (clientList .node (Selector.ofSet [(workerLabel, "")])).eval (failing fails) memory (s, n) =
      ((.ok (nodesLabeled s workerLabel), memory), (s, n)) := by
    refine (eval_bind_ok (eval_request _) _).trans ?_
    rw [failing_read fails s n rfl]
    simp only [Store.exec, setting.serves, if_true]
    rfl
  have known : Steady (failing fails) (s, n) (isConvergedAndKnown : Op Err Bool) (.ok (convergedIn s)) :=
    (steady_converged fails s n).attempt.bind (steady_pure _)
  have selected : getKataConfigNodeSelectorAsSelector.eval (failing fails) memory (s, n) =
      ((.ok selector, memory), (s, n)) := by
    have labelSelector : (getKataConfigNodeSelectorAsLabelSelector : Op Err LabelSelector).eval
        (failing fails) memory (s, n) = ((.ok (if convergedIn s then { matchLabels := [(masterLabel, "")] }
          else poolSelectorOf memory.spec), memory), (s, n)) := by
      refine (eval_bind_ok (known memory) _).trans ?_
      cases convergedIn s <;> rfl
    refine (eval_bind_ok labelSelector _).trans ?_
    rw [setting.compiled]
    rfl
  exact (eval_bind_ok listed _).trans (eval_bind_ok selected _)

theorem fresh_workers (setting : LabellingSetting s memory selector) :
    Fresh s (nodesLabeled s workerLabel) where
  stored _ member := Collection.find?_eq_some.mpr ⟨(List.mem_filter.mp member).1, rfl⟩
  distinct := (s.objs .node).nodup.sublist (List.filter_sublist.map _)
  clusterWide node member := setting.clusterWide node (List.mem_filter.mp member).1

theorem updateNodeLabelsResults_eval (setting : LabellingSetting s memory selector)
    (fails : Nat → Option ApiError) :
    ∃ done error s' m,
      updateNodeLabelsResults.eval (failing fails) memory (s, 0) =
        ((.ok (done.any fun node => (relabeled selector node).isSome, error), memory), (s', m)) ∧
      (∀ other ∈ done, other ∈ nodesLabeled s workerLabel) ∧
      Swept (relabeled selector) fails s 0 (nodesLabeled s workerLabel) done error s' := by
  obtain ⟨done, error, s', m, evaluated, inside, swept⟩ :=
    updateEach_eval fails 0 memory (relabelsOnly_relabeled selector) (nodesLabeled s workerLabel) false
      setting.serves (fresh_workers setting)
  refine ⟨done, error, s', m, ?_, inside, swept⟩
  refine (eval_bind_ok (eval_attempt (eval_labellingTask setting)) _).trans ?_
  rw [Bool.false_or] at evaluated
  exact evaluated

def labelsAt (s : Cluster) (key : Key) : Option StrMap :=
  (s.find? .node key).map fun node => node.metadata.labels

section Swept

variable {done : List Node} {error : Option Err} {s' : Cluster}

theorem Swept.passed (swept : Swept (relabeled selector) fails s n (nodesLabeled s workerLabel) done error s')
    {node : Node} (passed : node ∈ done) :
    ∃ version, s'.find? .node node.key = some (atVersion { node with
        metadata := { node.metadata with labels := relabel selector node.metadata.labels } } version) ∧
      (relabeled selector node = none → version = node.metadata.resourceVersion) ∧
      ((relabeled selector node).isSome = true → s.version < version) := by
  cases changes : relabeled selector node with
  | none =>
    refine ⟨node.metadata.resourceVersion, ?_, fun _ => rfl, nofun⟩
    rw [swept.kept node passed changes, relabeled_none changes]
    rfl
  | some changed =>
    obtain ⟨version, recent, stored⟩ := swept.written node passed changed changes
    refine ⟨version, ?_, nofun, fun _ => recent⟩
    rw [stored, relabeled_some changes]

theorem Swept.labeled (swept : Swept (relabeled selector) fails s n (nodesLabeled s workerLabel) done error s')
    {node : Node} (passed : node ∈ done) :
    ∃ stored, s'.find? .node node.key = some stored ∧
      isLabeledForKata stored = selector.accepts node.metadata.labels ∧
      ∀ label, label ≠ kataOcLabel →
        stored.metadata.labels.lookup label = node.metadata.labels.lookup label := by
  obtain ⟨version, stored, _⟩ := swept.passed passed
  exact ⟨_, stored, hasKey_relabel _ _, fun label other => lookup_relabel _ _ other⟩

theorem Swept.all_done {nodes : List Node} (swept : Swept (relabeled selector) fails s n nodes done error s')
    (succeeds : error = none) : done = nodes := by
  rcases swept.ended with ⟨_, all⟩ | ⟨_, _, _, _, _, failed, _⟩
  · exact all
  · rw [succeeds] at failed
    cases failed

theorem Swept.stopped_at {nodes : List Node} {k : Nat} {reason : ApiError}
    (swept : Swept (relabeled selector) fails s 0 nodes done error s')
    (earlier : ∀ j < k, fails j = none) (fault : fails k = some reason)
    (bound : k < changesIn (relabeled selector) nodes) :
    error = some (.api reason) ∧ ∃ failed after, nodes = done ++ failed :: after ∧
      changesIn (relabeled selector) done = k ∧ (relabeled selector failed).isSome = true := by
  have attempts := swept.attempts
  rcases swept.ended with ⟨_, rfl⟩ | ⟨failed, after, other, split, toChange, isError, otherFault⟩
  · have none := attempts k bound
    rw [Nat.zero_add, fault] at none
    cases none
  · rw [Nat.zero_add] at otherFault
    rcases Nat.lt_trichotomy (changesIn (relabeled selector) done) k with less | same | more
    · rw [earlier _ less] at otherFault
      cases otherFault
    · rw [same, fault] at otherFault
      cases otherFault
      exact ⟨isError, failed, after, split, same, toChange⟩
    · have none := attempts k more
      rw [Nat.zero_add, fault] at none
      cases none

variable (setting : LabellingSetting s memory selector)
  (inside : ∀ other ∈ done, other ∈ nodesLabeled s workerLabel)
  (swept : Swept (relabeled selector) fails s n (nodesLabeled s workerLabel) done error s')

include setting inside swept

theorem labelsAt_passed {node : Node} (passed : node ∈ done) :
    labelsAt s' node.key = (labelsAt s node.key).map (wantedLabels selector) := by
  have isWorker := inside node passed
  have before := (fresh_workers setting).stored node isWorker
  obtain ⟨version, stored, _⟩ := swept.passed passed
  rw [labelsAt, labelsAt, stored, before]
  have accepted : workerSelector.accepts node.metadata.labels = true := (List.mem_filter.mp isWorker).2
  simp [wantedLabels, accepted, atVersion]

theorem labelsAt_swept (key : Key) :
    labelsAt s' key = labelsAt s key ∨
      labelsAt s' key = (labelsAt s key).map (wantedLabels selector) := by
  by_cases passed : ∃ node ∈ done, node.key = key
  · obtain ⟨node, member, rfl⟩ := passed
    exact .inr (labelsAt_passed setting inside swept member)
  · refine .inl ?_
    rw [labelsAt, labelsAt, swept.frame key fun node member same => passed ⟨node, member, same⟩]

theorem labelsAt_success (succeeds : error = none) (key : Key) :
    labelsAt s' key = (labelsAt s key).map (wantedLabels selector) := by
  have all := swept.all_done succeeds
  by_cases passed : ∃ node ∈ done, node.key = key
  · obtain ⟨node, member, rfl⟩ := passed
    exact labelsAt_passed setting inside swept member
  · -- nobody but the workers is to be changed
    rw [labelsAt, labelsAt, swept.frame key fun node member same => passed ⟨node, member, same⟩]
    cases found : s.find? .node key with
    | none => rfl
    | some node =>
      obtain ⟨member, sameKey⟩ := Collection.find?_mem found
      have notWorker : workerSelector.accepts node.metadata.labels = false := by
        by_contra accepted
        rw [Bool.not_eq_false] at accepted
        exact passed ⟨node, all ▸ List.mem_filter.mpr ⟨member, accepted⟩, sameKey⟩
      simp [wantedLabels, notWorker]

theorem setting_kept : LabellingSetting s' memory selector where
  serves := by rw [swept.served, setting.serves]
  clusterWide := by
    intro node member
    have stored : s'.find? .node node.key = some node := Collection.find?_eq_some.mpr ⟨member, rfl⟩
    by_cases passed : ∃ other ∈ done, other.key = node.key
    · obtain ⟨other, inDone, sameKey⟩ := passed
      obtain ⟨version, written, _⟩ := swept.passed inDone
      rw [sameKey, stored] at written
      cases written
      exact (fresh_workers setting).clusterWide other (inside other inDone)
    · rw [swept.frame node.key fun other inDone same => passed ⟨other, inDone, same⟩] at stored
      exact setting.clusterWide node (Collection.find?_mem stored).1
  compiled := by
    have same : convergedIn s' = convergedIn s := by
      rw [convergedIn, convergedIn, swept.served, swept.otherKinds .machineConfigPool (by decide)]
    rw [same]
    exact setting.compiled
  unmentioned := setting.unmentioned

theorem written_iff {node : Node} (passed : node ∈ done) :
    (relabeled selector node).isSome = true ↔ s'.find? .node node.key ≠ s.find? .node node.key := by
  have before := (fresh_workers setting).stored node (inside node passed)
  constructor
  · intro changes same
    obtain ⟨version, stored, _, recent⟩ := swept.passed passed
    have bound := (s.assigned .node node (Collection.find?_mem before).1).resourceVersion_le
    rw [stored, before] at same
    have sameVersion := congrArg (fun stored : Node => stored.metadata.resourceVersion) (Option.some.inj same)
    have later := recent changes
    simp only [atVersion] at sameVersion
    omega
  · intro differs
    cases changes : relabeled selector node with
    | some changed => rfl
    | none => exact absurd ((swept.kept node passed changes).trans before.symm) differs

theorem labelingChanged_iff :
    (done.any fun node => (relabeled selector node).isSome) = true ↔
      ∃ node ∈ done, s'.find? .node node.key ≠ s.find? .node node.key := by
  rw [List.any_eq_true]
  constructor
  · rintro ⟨node, passed, changes⟩
    exact ⟨node, passed, (written_iff setting inside swept passed).mp changes⟩
  · rintro ⟨node, passed, differs⟩
    exact ⟨node, passed, (written_iff setting inside swept passed).mpr differs⟩

end Swept

/-- Calls are repeated until one succeeds; each has its own failures. -/
inductive Retried (memory : Reconciler) : Cluster → Cluster → Prop where
  | succeeded {s s' : Cluster} {fails : Nat → Option ApiError} {labelingChanged : Bool} {m : Nat}
      (call : updateNodeLabelsResults.eval (failing fails) memory (s, 0) =
        ((.ok (labelingChanged, none), memory), (s', m))) : Retried memory s s'
  | failed {s s' final : Cluster} {fails : Nat → Option ApiError} {labelingChanged : Bool} {err : Err}
      {m : Nat} (call : updateNodeLabelsResults.eval (failing fails) memory (s, 0) =
        ((.ok (labelingChanged, some err), memory), (s', m))) (later : Retried memory s' final) :
      Retried memory s final

theorem labelsAt_retried {final : Cluster} (setting : LabellingSetting s memory selector)
    (retried : Retried memory s final) (key : Key) :
    labelsAt final key = (labelsAt s key).map (wantedLabels selector) := by
  induction retried with
  | succeeded call =>
    obtain ⟨done, error, s', m, evaluated, inside, swept⟩ := updateNodeLabelsResults_eval setting _
    rw [call] at evaluated
    cases evaluated
    exact labelsAt_success setting inside swept rfl key
  | failed call later ih =>
    obtain ⟨done, error, s', m, evaluated, inside, swept⟩ := updateNodeLabelsResults_eval setting _
    rw [call] at evaluated
    cases evaluated
    rw [ih (setting_kept setting inside swept)]
    rcases labelsAt_swept setting inside swept key with same | wanted
    · rw [same]
    · rw [wanted, Option.map_map]
      congr 1
      exact funext fun labels => wantedLabels_relabel setting.unmentioned labels

/-- `updateNodeLabels` labels exactly the workers the selector wants.  When an
update fails, the workers before it are done and all others are as they were, and
calls that are repeated until one succeeds come to the same labels. -/
theorem updateNodeLabels_exact (setting : LabellingSetting s memory selector)
    (fails : Nat → Option ApiError) :
    ∃ labelingChanged err s' m,
      updateNodeLabelsResults.eval (failing fails) memory (s, 0) =
        ((.ok (labelingChanged, err), memory), (s', m)) ∧
      (err = none →
        (∀ node ∈ (s.objs .node).items, ∃ stored, s'.find? .node node.key = some stored ∧
          (workerSelector.accepts node.metadata.labels = true →
            isLabeledForKata stored = selector.accepts node.metadata.labels) ∧
          (∀ label, label ≠ kataOcLabel →
            stored.metadata.labels.lookup label = node.metadata.labels.lookup label) ∧
          (workerSelector.accepts node.metadata.labels = false → stored = node)) ∧
        (labelingChanged = true ↔ ∃ key, s'.find? .node key ≠ s.find? .node key)) ∧
      (∀ k reason, (∀ j < k, fails j = none) → fails k = some reason →
        k < changesIn (relabeled selector) (nodesLabeled s workerLabel) →
        err = some (.api reason) ∧
        ∃ before failed after, nodesLabeled s workerLabel = before ++ failed :: after ∧
          changesIn (relabeled selector) before = k ∧ (relabeled selector failed).isSome = true ∧
          (∀ node ∈ before, ∃ stored, s'.find? .node node.key = some stored ∧
            isLabeledForKata stored = selector.accepts node.metadata.labels ∧
            ∀ label, label ≠ kataOcLabel →
              stored.metadata.labels.lookup label = node.metadata.labels.lookup label) ∧
          (∀ node ∈ failed :: after, s'.find? .node node.key = some node) ∧
          (∀ key, (∀ node ∈ before, node.key ≠ key) → s'.find? .node key = s.find? .node key) ∧
          (labelingChanged = true ↔
            ∃ node ∈ before, s'.find? .node node.key ≠ s.find? .node node.key)) ∧
      (∀ final, Retried memory s final → ∀ key, labelsAt final key =
        labelsAt (updateNodeLabelsResults.eval (failing fun _ => none) memory (s, 0)).2.1 key) := by
  obtain ⟨done, err, s', m, evaluated, inside, swept⟩ := updateNodeLabelsResults_eval setting fails
  refine ⟨_, err, s', m, evaluated, ?_, ?_, ?_⟩
  · intro succeeds
    have all := swept.all_done succeeds
    constructor
    · intro node member
      have found : s.find? .node node.key = some node := Collection.find?_eq_some.mpr ⟨member, rfl⟩
      cases worker : workerSelector.accepts node.metadata.labels with
      | true =>
        have passed : node ∈ done := all ▸ List.mem_filter.mpr ⟨member, worker⟩
        obtain ⟨stored, isStored, labeled, others⟩ := swept.labeled passed
        exact ⟨stored, isStored, fun _ => labeled, others, nofun⟩
      | false =>
        refine ⟨node, ?_, nofun, fun _ _ => rfl, fun _ => rfl⟩
        rw [swept.frame node.key, found]
        intro other passed same
        obtain ⟨otherMember, accepted⟩ := List.mem_filter.mp (inside other passed)
        rw [Collection.eq_of_key otherMember member same] at accepted
        exact Bool.false_ne_true (worker.symm.trans accepted)
    · rw [labelingChanged_iff setting inside swept]
      constructor
      · rintro ⟨node, _, differs⟩
        exact ⟨node.key, differs⟩
      · rintro ⟨key, differs⟩
        by_contra none
        refine differs (swept.frame key ?_)
        rintro node passed rfl
        exact none ⟨node, passed, differs⟩
  · intro k reason earlier fault bound
    obtain ⟨isError, failed, after, split, count, toChange⟩ := swept.stopped_at earlier fault bound
    refine ⟨isError, done, failed, after, split, count, toChange, fun node passed => swept.labeled passed,
      ?_, swept.frame, labelingChanged_iff setting inside swept⟩
    have fresh := fresh_workers setting
    intro node member
    have isWorker : node ∈ nodesLabeled s workerLabel := by
      rw [split]
      exact List.mem_append_right _ member
    rw [swept.frame node.key, fresh.stored node isWorker]
    -- the keys before the failed update differ from those after it
    intro other passed same
    have distinct := fresh.distinct
    rw [split, List.map_append, List.nodup_append] at distinct
    exact distinct.2.2 _ (List.mem_map.mpr ⟨other, passed, rfl⟩) _ (List.mem_map.mpr ⟨node, member, rfl⟩) same
  · intro final retried key
    rw [labelsAt_retried setting retried key]
    obtain ⟨done, error, clean, m, evaluated, inside, swept⟩ :=
      updateNodeLabelsResults_eval setting fun _ => none
    have succeeds : error = none := by
      rcases swept.ended with ⟨none, _⟩ | ⟨_, _, _, _, _, _, fault⟩
      · exact none
      · cases fault
    rw [evaluated]
    exact (labelsAt_success setting inside swept succeeds key).symm

def zoneMemory : Reconciler where
  kataConfig := some ⟨{ name := "example" }, show KataConfigBody from
    { spec := { kataConfigPoolSelector := some { matchLabels := [("zone", "a")] } } }⟩

def zoneSelector : Selector := [⟨"zone", .equals, ["a"]⟩]

def twoZones : Cluster :=
  clusterOf [.create .node ⟨{ name := "first", labels := StrMap.ofList [(workerLabel, ""), ("zone", "a")] }, ()⟩,
    .create .node ⟨{ name := "second", labels := StrMap.ofList [(workerLabel, ""), (kataOcLabel, "")] }, ()⟩]

theorem twoZones_setting : LabellingSetting twoZones zoneMemory zoneSelector where
  serves := rfl
  clusterWide := by decide
  compiled := by decide +kernel
  unmentioned := by decide

/-- The second of the two updates fails. -/
theorem updateNodeLabels_exact_twoZones :
    ∃ labelingChanged err s' m,
      updateNodeLabelsResults.eval (failing fun k => if k = 1 then some Store.conflict else none)
        zoneMemory (twoZones, 0) = ((.ok (labelingChanged, err), zoneMemory), (s', m)) ∧
      err = some (.api Store.conflict) := by
  obtain ⟨labelingChanged, err, s', m, evaluated, _, stops, _⟩ :=
    updateNodeLabels_exact twoZones_setting fun k => if k = 1 then some Store.conflict else none
  refine ⟨labelingChanged, err, s', m, evaluated, (stops 1 Store.conflict ?_ rfl ?_).1⟩
  · intro j lt
    rw [if_neg (by omega)]
  · decide +kernel

end Call

end SandboxedContainers
