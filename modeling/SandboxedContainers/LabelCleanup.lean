import SandboxedContainers.Runs

/-!
# Labels an uninstallation leaves behind

The operator puts two labels on nodes: the role `kata-oc`, and in DaemonSet mode
the state of the node's agent.  A delete request takes them off the nodes that
match the selector and have the role at that time, which need not be the nodes
they were put on.
-/

namespace SandboxedContainers

open Lib Routine

inductive KataLabel where
  /-- Added by `updateNodeLabels`. -/
  | role
  /-- Added by `labelNodes`. -/
  | report
  deriving DecidableEq

def KataLabel.key : KataLabel → String
  | .role => kataOcLabel
  | .report => kataInstallationDaemonSetLabel

def labelValue (s : Cluster) (label : KataLabel) (uid : Nat) : Option String :=
  ((nodes s).find? fun node => node.metadata.uid = uid).bind fun node =>
    node.metadata.labels.lookup label.key

structure LabelCleanup where
  /-- The labels that nodes carry because the operator put them there, by uid. -/
  ours : KataLabel → Nat → Bool := fun _ _ => false
  /-- The labels that are taken off the nodes that are listed next. -/
  removing : Option (List KataLabel) := none

/-- A request of the operator takes the cluster from `s` to `s'`. -/
def LabelCleanup.written (cleanup : LabelCleanup) (s s' : Cluster) (label : KataLabel) (uid : Nat) : Bool :=
  (labelValue s' label uid).isSome &&
    (cleanup.ours label uid || labelValue s' label uid ≠ labelValue s label uid)

def labelCleanup : Monitor LabelCleanup where
  call s r _ s' cleanup := {
    ours := cleanup.written s s'
    removing := match r with
      | .mark ⟨.unlabelNodes, _⟩ => some [.role]
      | .mark ⟨.unlabelNodesDaemonSet, _⟩ => some [.role, .report]
      | .list .node _ => none
      | _ => cleanup.removing }
  env _ _ s' cleanup := { cleanup with
    ours := fun label uid => (labelValue s' label uid).isSome && cleanup.ours label uid }

/-- A node carries the label because the operator has put it there. -/
def LabelCleanup.Leaves (w : Cluster × LabelCleanup) (label : KataLabel) : Prop :=
  ∃ node ∈ nodes w.1,
    StrMap.hasKey node.metadata.labels label.key = true ∧ w.2.ours label node.metadata.uid = true

instance (w : Cluster × LabelCleanup) (label : KataLabel) : Decidable (LabelCleanup.Leaves w label) :=
  inferInstanceAs (Decidable (∃ node ∈ _, _))

/-- Where labels are about to be removed, the nodes that carry the operator's labels
have the role, match the selector, and carry none that is not removed. -/
def reachesOwn : Rules LabelCleanup where
  answer w r _ _ := match r, w.2.removing with
    | .list .node selector, some removed => (nodes w.1).all fun node =>
      [KataLabel.role, .report].all fun label => !w.2.ours label node.metadata.uid ||
        selector.accepts node.metadata.labels && isLabeledForKata node && removed.contains label
    | _, _ => true

namespace LabelCleanup

def contract : Contract Req (Cluster × LabelCleanup) where
  good w r := ∀ m, r = .mark m → m.point = .removeFinalizer → ∀ label, ¬Leaves w label
  mid _ := True

section

variable (settings : Settings)

abbrev system := operator settings labelCleanup reachesOwn

abbrev machine := (system settings).toMachine

end

def Clean (cleanup : LabelCleanup) : Prop := ∀ label uid, cleanup.ours label uid = false

/-- The labels are removed next; the record names labels that exist. -/
def Removing (removed : List KataLabel) (w : Cluster × LabelCleanup) : Prop :=
  w.2.removing = some removed ∧
    ∀ label uid, w.2.ours label uid = true → (labelValue w.1 label uid).isSome = true

/-- The labels that are left sit on nodes the loop has yet to come to. -/
structure Pending (removed : List KataLabel) (rest : List Node) (w : Cluster × LabelCleanup) : Prop where
  seen : ∀ node ∈ rest, w.1.Seen node
  reached : ∀ label uid, w.2.ours label uid = true → label ∈ removed ∧
    ∃ node ∈ rest, node.metadata.uid = uid ∧ isLabeledForKata node = true

theorem Clean.leaves_nothing {w : Cluster × LabelCleanup} (clean : Clean w.2) (label : KataLabel) :
    ¬Leaves w label := by
  rintro ⟨node, _, _, left⟩
  rw [clean label] at left
  cases left

theorem mem_nodes_of_labelValue {s : Cluster} {label : KataLabel} {uid : Nat} {value : String}
    (found : labelValue s label uid = some value) :
    ∃ node ∈ nodes s, node.metadata.uid = uid ∧ node.metadata.labels.lookup label.key = some value := by
  obtain ⟨node, search, lookup⟩ := Option.bind_eq_some_iff.mp found
  exact ⟨node, List.mem_of_find?_eq_some search, by simpa using List.find?_some search, lookup⟩

theorem labelValue_of_mem {s : Cluster} {node : Node} (member : node ∈ nodes s) (label : KataLabel) :
    labelValue s label node.metadata.uid = node.metadata.labels.lookup label.key := by
  have found : ((nodes s).find? fun other => other.metadata.uid = node.metadata.uid) = some node := by
    obtain ⟨other, search⟩ : ∃ other, (nodes s).find? (fun other =>
        other.metadata.uid = node.metadata.uid) = some other := by
      rw [← Option.isSome_iff_exists, List.find?_isSome]
      exact ⟨node, member, by simp⟩
    have same : other.metadata.uid = node.metadata.uid := by simpa using List.find?_some search
    rw [search, Collection.eq_of_uid (List.mem_of_find?_eq_some search) member same]
  simp only [labelValue]
  rw [found, Option.bind_some]

/-- How a label update treats a node from which labels are removed. -/
structure Removes (removed : List KataLabel) (change : Node → Option Node) : Prop where
  onlyLabels : OnlyLabels change
  skipped : ∀ {node}, change node = none → isLabeledForKata node = false
  gone : ∀ {node next label}, change node = some next → label ∈ removed →
    next.metadata.labels.lookup label.key = none
  kept : ∀ {node next label value}, change node = some next →
    next.metadata.labels.lookup label = some value → node.metadata.labels.lookup label = some value

theorem lookup_of_dropLabel {node : Node} {dropped label value : String}
    (found : (dropLabel node dropped).metadata.labels.lookup label = some value) :
    label ≠ dropped ∧ node.metadata.labels.lookup label = some value := by
  by_cases same : label = dropped
  · subst same
    simp [dropLabel, Finmap.lookup_erase] at found
  · exact ⟨same, by simpa [dropLabel, Finmap.lookup_erase_ne same] using found⟩

theorem unlabeled_removes : Removes [.role] unlabeled where
  onlyLabels := unlabeled_onlyLabels
  skipped unchanged := by simpa [unlabeled] using unchanged
  gone changed isRemoved := by
    obtain ⟨_, rfl⟩ : _ ∧ _ = _ := by simpa [unlabeled] using changed
    obtain rfl := List.mem_singleton.mp isRemoved
    exact Finmap.lookup_erase _ _
  kept changed found := by
    obtain ⟨_, rfl⟩ : _ ∧ _ = _ := by simpa [unlabeled] using changed
    exact (lookup_of_dropLabel found).2

theorem unlabeledDaemonSet_removes : Removes [.role, .report] unlabeledDaemonSet where
  onlyLabels := unlabeledDaemonSet_onlyLabels
  skipped unchanged := by simpa [unlabeledDaemonSet] using unchanged
  gone {node next label} changed _ := by
    obtain ⟨_, rfl⟩ : _ ∧ _ = _ := by simpa [unlabeledDaemonSet] using changed
    rw [Option.eq_none_iff_forall_ne_some]
    intro value found
    obtain ⟨notReport, found⟩ := lookup_of_dropLabel found
    obtain ⟨notRole, _⟩ := lookup_of_dropLabel found
    cases label with
    | role => exact notRole rfl
    | report => exact notReport rfl
  kept changed found := by
    obtain ⟨_, rfl⟩ : _ ∧ _ = _ := by simpa [unlabeledDaemonSet] using changed
    exact (lookup_of_dropLabel (lookup_of_dropLabel found).2).2

section Steps

variable {settings : Settings} {removed : List KataLabel}

theorem written_of_nodes {s s' : Cluster} {cleanup : LabelCleanup} (same : nodes s' = nodes s)
    {label : KataLabel} {uid : Nat} (left : cleanup.written s s' label uid = true) :
    cleanup.ours label uid = true := by
  have unchanged : labelValue s' label uid = labelValue s label uid := by
    simp only [labelValue, same]
  simpa [written, unchanged] using (Bool.and_eq_true_iff.mp left).2

instance : Invariant (machine settings) contract (Noted Anything) :=
  noted_invariant (fun _ _ _ _ => id) fun _ _ => trivial

instance : Invariant (machine settings) contract (Noted Clean) :=
  noted_invariant (fun _ _ _ _ clean label uid => by simp [labelCleanup, clean label uid]) fun _ _ => trivial

instance : Invariant (machine settings) contract (World (Removing removed)) := by
  refine world_invariant ?_ fun _ _ => trivial
  rintro ⟨s, cleanup⟩ _ ⟨change, rfl, _⟩ ⟨removing, _⟩
  exact ⟨removing, fun label uid left => (Bool.and_eq_true_iff.mp left).1⟩

instance (rest : List Node) : Invariant (machine settings) contract (World (Pending removed rest)) := by
  refine world_invariant ?_ fun _ _ => trivial
  rintro ⟨s, cleanup⟩ _ ⟨change, rfl, _⟩ pending
  refine ⟨fun node member => change.apply_seen (pending.seen node member), fun label uid left => ?_⟩
  exact pending.reached label uid (Bool.and_eq_true_iff.mp left).2

theorem good_of_point {w : Cluster × LabelCleanup} {point : Point} {kataConfig : KataConfig}
    (other : point ≠ .removeFinalizer) : contract.good w (.mark ⟨point, kataConfig⟩) := by
  rintro m ⟨rfl⟩ isRemoval
  exact absurd isRemoval other

theorem anything_admits {r : Req} (notMark : ∀ m, r ≠ .mark m) :
    Admits (machine settings) contract (Noted Anything) r :=
  noted_admits (fun _ _ => good_of_not_mark notMark) fun _ _ _ _ _ => trivial

theorem anything_writable (k : Kind) : Writable (machine settings) contract (Noted Anything) k :=
  fun _ writes => anything_admits (writes_not_mark writes)

theorem anything_passes {point : Point} (other : point ≠ .removeFinalizer) :
    Passes (machine settings) contract (Noted Anything) point :=
  fun _ => noted_mark (fun _ _ _ => good_of_point other) fun _ _ _ _ => trivial

theorem clean_admits {r : Req} (other : r.writes ≠ some .node) :
    Admits (machine settings) contract (Noted Clean) r := by
  rintro memory ⟨s, cleanup⟩ clean
  refine ⟨fun m _ _ => Clean.leaves_nothing clean, fun response w' reply => ?_⟩
  obtain ⟨s', answered, rfl, _⟩ := operator_answered reply
  intro label uid
  refine Bool.eq_false_iff.mpr fun left => ?_
  have before := written_of_nodes (congrArg Collection.items (answered.objs_eq other)) left
  rw [clean label uid] at before
  cases before

theorem clean_deletable {k : Kind} (other : k ≠ .node) :
    Deletable (machine settings) contract (Noted Clean) k :=
  fun _ => clean_admits fun writes => other (Option.some.inj writes)

theorem clean_passes (point : Point) : Passes (machine settings) contract (Noted Clean) point := by
  refine fun ε => noted_mark (fun _ _ clean _ _ _ => Clean.leaves_nothing clean) ?_
  intro s cleanup kataConfig clean label uid
  simp [labelCleanup, written, clean label uid]

instance : Lenient (machine settings) contract (Noted Anything) :=
  world_lenient fun _ aside => anything_admits (isAside_not_mark aside)

instance : Lenient (machine settings) contract (Noted Clean) :=
  world_lenient fun _ aside => clean_admits (isAside_writes aside rfl)

instance : KeepsWebhook settings (machine settings) contract (Noted Anything) :=
  keepsWebhook_of_writable settings fun k _ => anything_writable k

instance : KeepsWebhook settings (machine settings) contract (Noted Clean) := by
  refine keepsWebhook_of_writable settings fun k webhook r writes => clean_admits ?_
  rw [writes]
  rintro ⟨rfl⟩
  cases webhook

end Steps

section Unlabel

variable {settings : Settings} {removed : List KataLabel}

theorem Pending.skip {node : Node} {rest : List Node} {w : Cluster × LabelCleanup}
    (pending : Pending removed (node :: rest) w) (unlabelled : isLabeledForKata node = false) :
    Pending removed rest w := by
  refine ⟨fun other member => pending.seen other (.tail _ member), fun label uid left => ?_⟩
  obtain ⟨isRemoved, other, member, sameUid, labelled⟩ := pending.reached label uid left
  rcases List.mem_cons.mp member with rfl | later
  · rw [unlabelled] at labelled
    cases labelled
  · exact ⟨isRemoved, other, later, sameUid, labelled⟩

theorem Pending.update {change : Node → Option Node} (removes : Removes removed change)
    {node next : Node} {rest : List Node} {s s' : Cluster} {cleanup : LabelCleanup} {answer : Node}
    (pending : Pending removed (node :: rest) (s, cleanup)) (changed : change node = some next)
    (answered : Answered s (.update .node (inScope next)) (.ok answer) s') :
    Pending removed rest (s', labelCleanup.call s (.update .node (inScope next)) (.ok answer) s' cleanup) := by
  refine ⟨fun other member => answered.seen (pending.seen other (.tail _ member)), ?_⟩
  intro label uid left
  obtain ⟨stored, found, current, _, rfl⟩ := answered.update_ok
  obtain ⟨member, key⟩ := Collection.find?_mem found
  have sameKey : (Store.updated stored (inScope next)).key = stored.key := key.symm
  obtain rfl : stored = node :=
    removes.onlyLabels.stored_eq changed (pending.seen node List.mem_cons_self) member current
  obtain ⟨carries, ours | differs⟩ : _ ∧ (_ ∨ _) := by
    simpa only [labelCleanup, written, Bool.and_eq_true, Bool.or_eq_true] using left
  all_goals
    obtain ⟨value, carried⟩ := Option.isSome_iff_exists.mp carries
    obtain ⟨after, stays, rfl, lookup⟩ := mem_nodes_of_labelValue carried
    rcases (Store.mem_settle _ member sameKey (by rfl)).mp stays with ⟨old, otherKey⟩ | ⟨rfl, _⟩
  · obtain ⟨isRemoved, other, listed, sameUid, labelled⟩ := pending.reached label _ ours
    rcases List.mem_cons.mp listed with rfl | later
    · exact absurd (congrArg Object.key (Collection.eq_of_uid old member sameUid.symm)) otherKey
    · exact ⟨isRemoved, other, later, sameUid, labelled⟩
  · obtain ⟨isRemoved, _⟩ := pending.reached label _ ours
    have gone := removes.gone changed isRemoved
    exact absurd (lookup.symm.trans gone) (by simp)
  · simp [carried, labelValue_of_mem old, lookup] at differs
  · have before := removes.kept changed lookup
    have same : labelValue s label stored.metadata.uid = some value :=
      (labelValue_of_mem member label).trans before
    exact absurd (carried.trans same.symm) (of_decide_eq_true differs)

theorem listNodes_triple (selector : Selector) :
    Triple (machine settings) contract (World (Removing removed)) (clientList .node selector)
      (Routine.Leaves (fun listed => World (Pending removed listed)) (Noted Anything)) := by
  refine clientList_triple (fun _ _ _ => good_of_not_mark (by simp)) ?_ fun _ _ _ _ _ _ => trivial
  rintro memory ⟨s, cleanup⟩ listed w' ⟨removing, exact⟩ reply
  obtain ⟨s', answered, rfl, rule⟩ := operator_answered reply
  obtain ⟨rfl, _, rfl⟩ := answered.list_ok
  change cleanup.removing = some removed at removing
  simp only [reachesOwn, removing, List.all_eq_true] at rule
  refine ⟨fun node member => Store.seen_of_mem (List.mem_of_mem_filter member), fun label uid left => ?_⟩
  have ours : cleanup.ours label uid = true := written_of_nodes rfl left
  obtain ⟨value, carried⟩ := Option.isSome_iff_exists.mp (exact label uid ours)
  obtain ⟨node, member, rfl, _⟩ := mem_nodes_of_labelValue carried
  have reached := rule node member label (by cases label <;> simp)
  simp only [ours, Bool.not_true, Bool.false_or, Bool.and_eq_true, List.contains_iff_mem] at reached
  obtain ⟨⟨accepted, labelled⟩, isRemoved⟩ := reached
  exact ⟨isRemoved, node, List.mem_filter.mpr ⟨member, accepted⟩, rfl, labelled⟩

abbrev Removed {α : Type} : Except Err α → Reconciler → Cluster × LabelCleanup → Prop :=
  Onward (Noted Clean) fun (_ : Except Err PUnit) => Noted Anything

theorem removal_triple {α : Type} {change : Node → Option Node} (removes : Removes removed change)
    {next : Bool × Option Err → Op Err α}
    (done : ∀ changed, Maintains (machine settings) contract (Noted Clean) (next (changed, none)))
    (failed : ∀ changed error, next (changed, some error) = Routine.throw error) (selector : Selector) :
    Triple (machine settings) contract (World (Removing removed))
      (clientList .node selector >>= fun nodeList => updateEach change false nodeList >>= next)
      Removed := by
  refine Triple.bind (listNodes_triple selector) (fun listed => ?_) fun _ _ _ _ => trivial
  refine Triple.bind (updateEach_triple (A := fun _ rest => World (Pending removed rest))
    (B := Noted Anything) ?_ ?_ ?_ ?_ false listed) (fun outcome => ?_) fun _ _ _ _ => trivial
  · exact fun _ node rest memory w unchanged pending => Pending.skip pending (removes.skipped unchanged)
  · exact fun _ _ _ _ _ _ _ _ => good_of_not_mark (by simp)
  · rintro _ node rest after memory ⟨s, cleanup⟩ answer w' changed pending reply
    obtain ⟨s', answered, rfl, _⟩ := operator_answered reply
    exact Pending.update removes pending changed answered
  · exact fun _ _ _ _ _ _ _ _ _ _ _ => trivial
  · obtain ⟨changed, _ | error⟩ := outcome
    · refine ((done changed).pre fun memory w (pending : Pending removed [] w) => ?_).post ?_
      · intro label uid
        refine Bool.eq_false_iff.mpr fun left => ?_
        obtain ⟨_, _, member, _⟩ := pending.reached label uid left
        cases member
      · rintro (_ | _) memory w clean
        · trivial
        · exact clean
    · rw [failed]
      exact triple_throw (P := Noted Anything) fun _ _ _ => trivial

theorem enterRemoval_triple {point : Point} (other : point ≠ .removeFinalizer)
    (enters : ∀ s cleanup kataConfig,
      (labelCleanup.call s (.mark ⟨point, kataConfig⟩) ⟨⟩ s cleanup).removing = some removed) :
    Triple (machine settings) contract (Noted Anything) (mark point : Op Err PUnit)
      fun _ => World (Removing removed) := by
  refine mark_triple (fun _ _ _ => good_of_point other) ?_
  rintro memory ⟨s, cleanup⟩ w' _ reply
  rw [operator_mark reply]
  exact ⟨enters s cleanup _, fun label uid left => (Bool.and_eq_true_iff.mp left).1⟩

theorem unlabelNodes_triple (selector : Selector) :
    Triple (machine settings) contract (Noted Anything) (unlabelNodes selector) Removed := by
  refine Triple.bind (enterRemoval_triple (by simp) fun _ _ _ => rfl) (fun _ => ?_) fun _ _ _ _ => trivial
  refine removal_triple unlabeled_removes ?_ ?_ selector
  · exact fun _ => labelingOutcome_maintains _
  · exact fun _ _ => rfl

theorem unlabelNodesDaemonSet_triple (selector : Selector) :
    Triple (machine settings) contract (Noted Anything) (unlabelNodesDaemonSet selector) Removed := by
  refine Triple.bind (enterRemoval_triple (by simp) fun _ _ _ => rfl) (fun _ => ?_) fun _ _ _ _ => trivial
  refine removal_triple unlabeledDaemonSet_removes ?_ ?_ selector
  · exact fun _ => maintains_bind (labelingOutcome_maintains _) fun _ => maintains_pure _
  · exact fun _ _ => rfl

end Unlabel

section Requests

variable {settings : Settings}

theorem removed_orElse {α : Type} {routine : Op Err α} {translate : Err → Exit}
    (triple : Triple (machine settings) contract (Noted Anything) routine Removed) :
    Triple (machine settings) contract (Noted Anything) (routine.orElse translate)
      (Onward (Noted Clean) fun (_ : Except Exit PUnit) => Noted Anything) := by
  have after : (result : Except Exit α) → Invariant (machine settings) contract
      (Onward (Noted Clean) (fun (_ : Except Exit PUnit) => Noted Anything) result)
    | .ok _ => inferInstanceAs (Invariant (machine settings) contract (Noted Clean))
    | .error _ => inferInstanceAs (Invariant (machine settings) contract (Noted Anything))
  refine Triple.orElse (triple.post ?_)
  rintro (_ | _) memory w holds
  · trivial
  · exact holds

theorem deletes_triple : Maintains (machine settings) contract (Noted Anything) (deleteBranch settings) := by
  refine maintains_bind (anything_passes (by simp) _) fun _ => ?_
  refine deleteAndStoreStatus_triple settings (processDeleteRequest_triple settings ?_ ?_)
  · refine Triple.pre (P := Noted Anything) ?_ fun _ _ holds => holds.1
    exact processKataConfigDeleteRequest_triple (B := Noted Clean) settings (anything_passes (by simp) _)
      ((checkDeletionEligibility_maintains (anything_passes (by simp))).onward fun _ _ _ _ => trivial)
      (fun selector => removed_orElse (unlabelNodes_triple selector))
      (fun pool => (removeMc_maintains settings (clean_deletable (by simp)) pool).onward fun _ _ _ _ => trivial)
      (fun changed deleted => (awaitDeletion_maintains settings (fun point _ => clean_passes point)
        (clean_deletable (by simp)) (clean_deletable (by simp)) changed deleted).post fun _ _ _ _ => trivial)
      fun _ _ _ _ => trivial
  · refine Triple.pre (P := Noted Anything) ?_ fun _ _ holds => holds.1
    have peerPods : Maintains (machine settings) contract (Noted Anything)
        (orReturn (disablePeerPodsMiscConfigs settings)) :=
      orReturn_maintains (disablePeerPodsMiscConfigs_maintains settings (anything_writable _).deletable)
    have release : Maintains (machine settings) contract (Noted Clean) (orRetry removeFinalizer ⟨true, 0⟩) :=
      orRetry_maintains (removeFinalizer_maintains (clean_passes _))
    have finish : Maintains (machine settings) contract (Noted Anything) (finishDeletionDaemonSet settings) :=
      finishDeletionDaemonSet_triple (B := Noted Anything) (D := Noted Clean) settings
        (anything_writable _).deletable
        ((peerPods.onward fun _ _ _ _ => trivial).pre fun _ _ _ => trivial) (fun _ _ _ => trivial)
        (fun selector => removed_orElse (unlabelNodesDaemonSet_triple selector))
        (release.post fun _ _ _ _ => trivial) fun _ _ _ _ => trivial
    refine processKataConfigDeleteRequestDaemonSet_triple settings (anything_passes (by simp) _)
      ((checkDeletionEligibility_maintains (anything_passes (by simp))).steadily) ?_
      fun _ _ _ => id
    refine maintains_bind (startUninstallation_maintains settings ((anything_writable _).updatable _)
      (anything_writable _)) fun justCreated => ?_
    exact concludeDeletionDaemonSet_keeps settings (anything_passes (by simp)) finish
      (fun _ _ _ => id) justCreated

theorem installs_triple (oldObjStatus : KataConfigStatus) :
    Maintains (machine settings) contract (Noted Anything) (installBranch settings oldObjStatus) := by
  have commences : Commences (machine settings) contract (Noted Anything) := world_commences
  exact installBranch_maintains settings commences
    (fun _ _ installs => anything_passes (by rintro rfl; cases installs))
    (fun _ => (anything_writable _).updatable _) ((anything_writable _).updatable _)
    (createMc_maintains settings (anything_writable _)) (anything_writable _) (anything_writable _)
    (world_creates (anything_writable _)) oldObjStatus

end Requests

theorem sound (settings : Settings) : (system settings).Sound (initially {}) contract (Noted Anything)
    fun outcome => Noted Anything outcome.2 :=
  operator_sound (fun _ => Noted Anything) (fun _ => Noted Anything)
    (fun _ _ => trivial) (fun _ _ _ _ _ => trivial)
    (fun key => world_reconcile settings key (fun _ _ => trivial) (world_classes (anything_writable _))
      deletes_triple installs_triple)
    (fun _ _ _ _ _ => trivial) fun _ _ _ => trivial

end LabelCleanup

def selectingKataConfig : KataConfig :=
  ⟨{ name := exampleKey.name }, show KataConfigBody from
    { spec := { kataConfigPoolSelector := some { matchLabels := [("custom", "yes")] } } }⟩

def selectedNode : Node :=
  { exampleNode with metadata := { exampleNode.metadata with
    labels := StrMap.ofList [(workerLabel, ""), ("custom", "yes")] } }

/-- Everything is installed, others change the label of the node, the `KataConfig`
is deleted, and the operator comes to its next requests. -/
def deletionAfterRelabeling (value : Option String) (requests : Nat) : Script :=
  machineConfigCluster selectedNode ++ installation selectingKataConfig ++
    others [.patch .node selectedNode.key [("custom", value)] id, .delete .kataConfig exampleKey] ++
    [.start exampleKey] ++ answered requests

def masterNode : Node := ⟨{ name := "master", labels := StrMap.ofList [(masterLabel, "")] }, ()⟩

/-- An installation and its removal in DaemonSet mode, in a cluster with a master. -/
def removalWithMaster : Script :=
  daemonSetCluster ++ others [.create .machineConfigPool workerPool,
    .updateStatus .machineConfigPool workerPool, .create .node masterNode,
    .create .kataConfig exampleKataConfig] ++ [.start exampleKey] ++ answered 49 ++ [.finish] ++
    others [nodeReports .installed] ++ [.start exampleKey] ++ answered 62 ++ [.finish] ++
    others [.delete .kataConfig exampleKey] ++ [.start exampleKey] ++ answered 53 ++ [.finish] ++
    others [nodeReports .uninstalled] ++ [.start exampleKey] ++ answered 59

theorem leaves_of_endsAtMark {label : KataLabel} (script : Script)
    (ends : endsAtMark plainSettings labelCleanup {} {} script
      (fun w m => m.point = .removeFinalizer ∧ LabelCleanup.Leaves w label) = true) :
    ∃ w m, (operator plainSettings labelCleanup {}).Issues (initially {}) w (.mark m) ∧
      m.point = .removeFinalizer ∧ LabelCleanup.Leaves w label := by
  obtain ⟨w, m, issued, checked⟩ := issues_of_endsAtMark ends
  exact ⟨w, m, issued, of_decide_eq_true checked⟩

/-- The role stays on a node that no longer matches the selector.  The report stays
on a master, which gets it because it matches, and has no role. -/
theorem leaves_labels_behind :
    (∃ w m, (operator plainSettings labelCleanup {}).Issues (initially {}) w (.mark m) ∧
      m.point = .removeFinalizer ∧ LabelCleanup.Leaves w .role) ∧
    ∃ w m, (operator plainSettings labelCleanup {}).Issues (initially {}) w (.mark m) ∧
      m.point = .removeFinalizer ∧ LabelCleanup.Leaves w .report := by
  constructor
  · exact leaves_of_endsAtMark (deletionAfterRelabeling none 49) (by decide +kernel)
  · exact leaves_of_endsAtMark removalWithMaster (by decide +kernel)

/-- If the nodes with the operator's labels match the selector and have the role
where labels are removed, and carry no label of the other mode, then none of the
labels is left when the finalizer is removed. -/
theorem leaves_no_label_behind (settings : Settings) {w : Cluster × LabelCleanup} {m : Mark}
    (issued : (operator settings labelCleanup reachesOwn).Issues (initially {}) w (.mark m))
    (removal : m.point = .removeFinalizer) (label : KataLabel) : ¬LabelCleanup.Leaves w label :=
  (LabelCleanup.sound settings).good issued m rfl removal label

/-- The node keeps matching: it loses the role, the pool `worker` takes it back, and
the next reconciliation removes the finalizer. -/
theorem leaves_no_label_behind_matching : ∃ w m,
    (operator plainSettings labelCleanup reachesOwn).Issues (initially {}) w (.mark m) ∧
      m.point = .removeFinalizer ∧ nodes w.1 ≠ [] ∧ ¬LabelCleanup.Leaves w .role := by
  have ends : endsAtMark plainSettings labelCleanup reachesOwn {}
      (deletionAfterRelabeling (some "yes") 31 ++ others [poolReports "worker" true] ++ answered 9 ++
        [.finish] ++ others [poolReports "worker" false] ++ [.start exampleKey] ++ answered 48)
      (fun w m => m.point = .removeFinalizer && !(nodes w.1).isEmpty) = true := by
    decide +kernel
  obtain ⟨w, m, issued, checked⟩ := issues_of_endsAtMark ends
  obtain ⟨removal, exist⟩ := Bool.and_eq_true_iff.mp checked
  have removal := of_decide_eq_true removal
  exact ⟨w, m, issued, removal, by simpa using exist,
    leaves_no_label_behind plainSettings issued removal .role⟩

end SandboxedContainers
