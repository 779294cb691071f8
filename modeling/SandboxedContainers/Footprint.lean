import SandboxedContainers.Runs

/-!
# What the operator leaves alone

`KataConfig`s and nodes belong to others.  Whatever fails, crashes or is edited in
the meantime, no request of the operator creates one, takes one away or undoes an
edit: of a `KataConfig` only the operator's finalizer and its own condition change,
of a node only the labels the operator puts there.
-/

namespace SandboxedContainers

open Lib Routine

namespace Footprint

/-- Conditions of other types are kept, and there is no second `InProgress` condition
if there was none before. -/
structure Tended (before after : KataConfigStatus) : Prop where
  others : after.conditions.filter (·.type ≠ .inProgress) = before.conditions.filter (·.type ≠ .inProgress)
  once : before.conditions.countP (·.type = .inProgress) ≤ 1 → after.conditions.countP (·.type = .inProgress) ≤ 1

/-- The finalizers that are not the operator's. -/
def foreign (kataConfig : KataConfig) : List String :=
  kataConfig.metadata.finalizers.filter (· ≠ kataConfigFinalizer)

/-- What the operator may do to a `KataConfig`. -/
structure Kept (before after : KataConfig) : Prop where
  spec : specOf after = specOf before
  metadata : after.metadata = { before.metadata with
    finalizers := after.metadata.finalizers, resourceVersion := after.metadata.resourceVersion }
  finalizers : foreign after = foreign before
  status : Tended (statusOf before) (statusOf after)

/-- The `KataConfig` is being deleted, and nobody else holds it back. -/
def Released (kataConfig : KataConfig) : Prop :=
  kataConfig.metadata.deletionTimestamp = true ∧ foreign kataConfig = []

theorem Tended.refl (status : KataConfigStatus) : Tended status status := ⟨rfl, id⟩

theorem Kept.refl (kataConfig : KataConfig) : Kept kataConfig kataConfig := ⟨rfl, rfl, rfl, .refl _⟩

theorem relabeled_refl (node : Node) : Relabeled node node := ⟨rfl, fun _ _ _ => rfl⟩

theorem tended_setInProgress (value : ConditionStatus) (reason message : String) (status : KataConfigStatus) :
    Tended status (status.setInProgress value reason message) := by
  have puts (next : KataConfigCondition) (isInProgress : next.type = .inProgress)
      (conditions : List KataConfigCondition) :
      (KataConfigStatus.putInProgress next conditions).filter (·.type ≠ .inProgress) =
        conditions.filter (·.type ≠ .inProgress) ∧
      (KataConfigStatus.putInProgress next conditions).countP (·.type = .inProgress) =
        max 1 (conditions.countP (·.type = .inProgress)) := by
    induction conditions with
    | nil => simp [KataConfigStatus.putInProgress, isInProgress]
    | cons condition rest ih =>
      by_cases same : condition.type = .inProgress
      · simp [KataConfigStatus.putInProgress, same, isInProgress]
      · simpa [KataConfigStatus.putInProgress, same] using ih
  obtain ⟨kept, count⟩ := puts ⟨.inProgress, value, reason, message⟩ rfl status.conditions
  exact ⟨kept, fun once => by simpa [KataConfigStatus.setInProgress, count] using once⟩

theorem tended_decode {answer held : KataConfig} (tended : Tended (statusOf answer) (statusOf held)) :
    Tended (statusOf answer) (statusOf (decodeKataConfig answer held)) := by
  rw [statusOf_decodeKataConfig]
  rw [statusOf_eq answer] at tended ⊢
  cases stored : storedStatus answer with
  | none => simpa [stored] using tended
  | some status =>
    rw [stored] at tended
    change Tended status (status.decode (statusOf held))
    by_cases absent : status.conditions.isEmpty = true
    · exact ⟨by simpa [KataConfigStatus.decode, decodeList, absent] using tended.others,
        by simpa [KataConfigStatus.decode, decodeList, absent] using tended.once⟩
    · constructor <;> simp [KataConfigStatus.decode, decodeList, absent]

def unobserved : Monitor Unit where
  call _ _ _ _ g := g

abbrev machine (settings : Settings) := (operator settings unobserved {}).toMachine

def contract : Contract Req (Cluster × Unit) where
  good w r := ∀ response s', Answered w.1 r response s' →
    Store.Confined .kataConfig Kept Released w.1 s' ∧ Store.Confined .node Relabeled (fun _ => False) w.1 s'
  mid _ := True

/-- The `KataConfig` in memory is one that was read, up to what the operator may do to it. -/
def Held (memory : Reconciler) (w : Cluster × Unit) : Prop :=
  ∃ read : KataConfig, w.1.Seen read ∧ read.metadata.ns = "" ∧ Kept read memory.current ∧
    memory.current.metadata.resourceVersion = read.metadata.resourceVersion

section Requests

variable {memory memory' : Reconciler} {w w' : Cluster × Unit} {r : Req} {response : Response r} {settings : Settings}

theorem good_of_writes (kataConfigs : r.writes ≠ some .kataConfig) (nodes : r.writes ≠ some .node) :
    contract.good w r := fun _ _ answered =>
  ⟨.of_eq Kept.refl (answered.objs_eq kataConfigs), .of_eq relabeled_refl (answered.objs_eq nodes)⟩

theorem Held.answer (held : Held memory w) (reply : (machine settings).answer w r response w') : Held memory w' := by
  obtain ⟨read, seen, rest⟩ := held
  exact ⟨read, reply.1.seen seen, rest⟩

theorem Held.status (held : Held memory w) (metadata : memory'.current.metadata = memory.current.metadata)
    (spec : memory'.spec = memory.spec) (tended : Tended memory.status memory'.status) : Held memory' w := by
  obtain ⟨read, seen, scope, kept, version⟩ := held
  refine ⟨read, seen, scope, ⟨spec.trans kept.spec, ?_, ?_, ?_⟩, by rw [metadata, version]⟩
  · rw [metadata]
    exact kept.metadata
  · rw [foreign, metadata]
    exact kept.finalizers
  · exact ⟨tended.others.trans kept.status.others, fun once => tended.once (kept.status.once once)⟩

theorem Held.stored (held : Held memory w) {stored : KataConfig} (member : stored ∈ kataConfigs w.1)
    (current : Store.stale stored (inScope memory.current) = false) :
    stored.metadata.ns = "" ∧ Kept stored memory.current := by
  obtain ⟨read, seen, scope, kept, version⟩ := held
  have uid : (inScope memory.current).metadata.uid = read.metadata.uid := by
    rw [metadata_inScope, kept.metadata]
  have same : (inScope memory.current).metadata.resourceVersion = read.metadata.resourceVersion := by
    rw [metadata_inScope, version]
  rw [seen.eq_of_not_stale member current uid same]
  exact ⟨scope, kept⟩

theorem held_of_answer {answer : KataConfig} (seen : w'.1.Seen answer) (scope : answer.metadata.ns = "")
    (tended : Tended (statusOf answer) memory.status) :
    Held (memory.setKataConfig (decodeKataConfig answer memory.current)) w' :=
  ⟨answer, seen, scope, ⟨rfl, rfl, rfl, tended_decode tended⟩, rfl⟩

theorem updated_metadata {stored held : KataConfig} (scope : stored.metadata.ns = "") (kept : Kept stored held) :
    (Store.updated stored (inScope held)).metadata = held.metadata := by
  have same := kept.metadata
  simp only [Store.updated, inScope, Kind.namespaced, Bool.false_eq_true, if_false]
  rw [same]
  simp [scope]

theorem update_good (held : Held memory w) : contract.good w (.update .kataConfig (inScope memory.current)) := by
  intro response s' answered
  refine ⟨answered.confined Kept.refl (by simp) ?_, .of_eq relabeled_refl (answered.objs_eq (by simp [Request.writes]))⟩
  rintro stored _ ⟨found, current, _⟩
  obtain ⟨scope, kept⟩ := held.stored (Collection.find?_mem found).1 current
  have same := updated_metadata scope kept
  refine ⟨⟨kept.spec, ?_, ?_, .refl _⟩, fun finished => ?_⟩
  · simp only [Store.stamp, same]
    rw [kept.metadata]
  · simpa only [foreign, Store.stamp, same] using kept.finalizers
  · simp only [Store.finished, same, Bool.and_eq_true, List.isEmpty_iff] at finished
    refine ⟨?_, ?_⟩
    · rw [← finished.1, kept.metadata]
    · rw [← kept.finalizers, foreign, finished.2]
      rfl

theorem updateStatus_good (held : Held memory w) :
    contract.good w (.updateStatus .kataConfig (inScope memory.current)) := by
  intro response s' answered
  refine ⟨answered.confined Kept.refl (by simp) ?_, .of_eq relabeled_refl (answered.objs_eq (by simp [Request.writes]))⟩
  rintro stored merged (_ | ⟨found, current⟩)
  have member := (Collection.find?_mem found).1
  refine ⟨⟨rfl, rfl, rfl, (held.stored member current).2.status⟩, fun finished => ?_⟩
  cases (w.1.unfinished _ stored member).symm.trans finished

theorem node_good {change : Node → Option Node} (onlyLabels : OnlyLabels change) {node next : Node}
    (changed : change node = some next) (seen : w.1.Seen node) : contract.good w (.update .node (inScope next)) := by
  intro response s' answered
  obtain ⟨same, _⟩ := onlyLabels changed
  refine ⟨.of_eq Kept.refl (answered.objs_eq (by simp [Request.writes])),
    onlyLabels.confined changed seen answered relabeled_refl ⟨?_, same.others⟩⟩
  simp only [Store.stamp]
  rw [same.shape]

end Requests

section Routines

variable {settings : Settings}

theorem held_admits {r : Req} (kataConfigs : r.writes ≠ some .kataConfig) (nodes : r.writes ≠ some .node) :
    Admits (machine settings) contract Held r :=
  fun _ _ held => ⟨good_of_writes kataConfigs nodes, fun _ _ => held.answer⟩

theorem held_writable {k : Kind} (other : k ≠ .kataConfig ∧ k ≠ .node) : Writable (machine settings) contract Held k :=
  fun _ writes => held_admits (by simpa [writes] using other.1) (by simpa [writes] using other.2)

instance : Tolerant (machine settings) contract Held where
  stable := by
    rintro memory w _ ⟨change, rfl, _⟩ ⟨read, seen, rest⟩
    exact ⟨read, change.apply_seen seen, rest⟩
  mid _ _ _ := trivial
  reads r reads _ := held_admits (by simp [reads]) (by simp [reads])
  side k side := held_writable (by constructor <;> rintro rfl <;> cases side)
  kataNodes _ _ _ held := held.status rfl rfl ⟨rfl, id⟩
  imageGenerator _ _ _ held := held.status rfl rfl (.refl _)

theorem held_condition {ε : Type} (value : ConditionStatus) (reason message : String) :
    Maintains (machine settings) contract Held (setInProgressCondition value reason message : Op ε PUnit) :=
  maintains_modify fun _ _ held => held.status rfl rfl (tended_setInProgress _ _ _ _)

instance : Lenient (machine settings) contract Held where
  conditions _ value reason message _ _ := held_condition value reason message
  waiting _ _ _ held := held.status rfl rfl ⟨rfl, id⟩
  modes _ _ _ held := held.status rfl rfl (.refl _)
  stores := by
    refine updateKataConfigStatus_triple (fun _ _ => updateStatus_good) ?_ fun _ _ _ _ held => held.answer
    rintro memory w answer ⟨s', g'⟩ held ⟨answered, _⟩
    obtain ⟨stored, found, current, rfl, rfl⟩ := answered.updateStatus_ok
    have member := (Collection.find?_mem found).1
    exact held_of_answer (Store.seen_settle member rfl rfl) (held.stored member current).1 (.refl memory.status)
  updates := by
    refine updateKataConfig_triple (fun _ _ => update_good) ?_ fun _ _ _ _ held => held.answer
    rintro memory w answer ⟨s', g'⟩ held ⟨answered, _⟩
    obtain ⟨stored, found, current, rfl, rfl⟩ := answered.update_ok
    obtain ⟨member, sameKey⟩ := Collection.find?_mem found
    obtain ⟨scope, kept⟩ := held.stored member current
    refine held_of_answer (Store.seen_settle member sameKey.symm rfl) ?_ kept.status
    simp only [Store.stamp, updated_metadata scope kept]
    rw [kept.metadata, scope]
  finalizers ε change own := maintains_modify fun memory w ⟨read, seen, scope, kept, version⟩ => by
    have same := kept.metadata
    refine ⟨read, seen, scope, ⟨kept.spec, ?_, (own _).trans kept.finalizers, kept.status⟩, version⟩
    simp only [Reconciler.setKataConfig, Reconciler.current, Option.getD_some] at same ⊢
    rw [same]

instance : ImageFree Held := ⟨fun _ _ _ held => held.status rfl rfl (.refl _)⟩

instance : KeepsWebhook settings (machine settings) contract Held :=
  keepsWebhook_of_writable settings fun _ webhook => held_writable (by constructor <;> rintro rfl <;> cases webhook)

theorem held_classes : KeepsClasses settings (machine settings) contract Held :=
  (held_writable (by decide)).keepsClasses settings fun _ _ _ held => held.status rfl rfl ⟨rfl, id⟩

theorem held_passes (point : Point) : Passes (machine settings) contract Held point :=
  fun _ => mark_triple (fun _ _ _ => good_of_writes (by simp [Request.writes]) (by simp [Request.writes]))
    fun _ _ _ held => held.answer

theorem held_updatable {change : Node → Option Node} (onlyLabels : OnlyLabels change) :
    Updatable (machine settings) contract Held change :=
  fun _ _ _ _ changed held seen => ⟨node_good onlyLabels changed seen, fun _ _ => held.answer⟩

theorem deleteBranch_held : Maintains (machine settings) contract Held (deleteBranch settings) := by
  have remove := removeMc_maintains (M := machine settings) (C := contract) (A := Held) settings
    (held_writable (by decide)).deletable
  refine maintains_bind (held_passes _ _) fun _ => deleteAndStoreStatus_triple settings
    (processDeleteRequest_triple settings (Triple.given ?_) (Triple.given ?_))
  · exact processKataConfigDeleteRequest_maintains settings (fun point _ => held_passes point)
      (held_updatable unlabeled_onlyLabels) remove (held_writable (by decide)).deletable
      (held_writable (by decide)).deletable
  · exact processKataConfigDeleteRequestDaemonSet_maintains settings (fun point _ => held_passes point)
      (held_updatable unlabeledDaemonSet_onlyLabels) (held_updatable (labeled_onlyLabels _)) (held_writable (by decide))

theorem installBranch_held (status : KataConfigStatus) :
    Maintains (machine settings) contract Held (installBranch settings status) :=
  installBranch_maintains settings ⟨held_condition _ _ _, held_condition _ _ _⟩ (fun _ point _ => held_passes point)
    (fun _ => held_updatable (relabeled_onlyLabels _)) (held_updatable (labeled_onlyLabels _))
    (createMc_maintains settings (held_writable (by decide))) (held_writable (by decide))
    (held_writable (by decide)) held_classes.creates status

instance : Invariant (machine settings) contract (World Anything) :=
  world_invariant (fun _ _ _ _ => trivial) fun _ _ => trivial

theorem reconcile_held (key : Key) :
    Triple (machine settings) contract (World Anything) (reconcileRoutine settings key) fun _ => World Anything := by
  refine reconcileRoutine_triple (fun _ => Held) (fun _ => Held) settings ?_ (fun _ => ?_)
    (fun _ => ?_) (fun status => ?_) fun _ _ _ _ => trivial
  · refine fetchKataConfig_triple (fun _ _ => id) ?_ ?_ fun _ _ _ _ _ _ => ⟨trivial, trivial⟩
    · exact fun _ _ _ => good_of_writes (by simp [Request.writes]) (by simp [Request.writes])
    · rintro memory w kataConfig ⟨s', g'⟩ _ ⟨answered, _⟩
      obtain ⟨rfl, found⟩ := answered.get_ok
      obtain ⟨member, sameKey⟩ := Collection.find?_mem found
      exact ⟨kataConfig, Store.seen_of_mem member, congrArg Key.ns sameKey, .refl _, rfl⟩
  · exact (prepareReconcile_maintains settings held_classes
      fun _ _ _ held => held.status rfl rfl (.refl _)).onward fun _ _ _ _ => trivial
  · exact deleteBranch_held.given.post fun _ _ _ _ => trivial
  · exact ((installBranch_held status).given).post fun _ _ _ _ => trivial

theorem sound : (operator settings unobserved {}).Sound (initially ()) contract (World Anything)
    fun outcome => World Anything outcome.2 :=
  operator_sound (fun _ => World Anything) (fun _ => World Anything) (fun _ _ => trivial) (fun _ _ _ _ _ => trivial)
    reconcile_held (fun _ _ _ _ _ => trivial) fun _ _ _ => trivial

end Routines

/-- A first installation, up to one of its requests. -/
def firstInstallation (requests : Nat) : Script :=
  daemonSetCluster ++ others [.create .kataConfig exampleKataConfig] ++ [.start exampleKey] ++ answered requests

def writesNext (k : Kind) (w : Cluster × Unit) (r : Req) : Bool :=
  decide (r.writes = some k) && decide ((w.1.exec r).2.version ≠ w.1.version)

end Footprint

open Footprint

section Results

variable {settings : Settings} {w : Cluster × Unit} {r : Req} {response : Response r} {s' : Cluster}

/-- No request of the operator, whatever came before it and whether or not its
answer arrives, undoes an edit of a `KataConfig`, creates one, or makes one
disappear that somebody else holds back. -/
theorem kataConfig_edits_kept (issued : (operator settings unobserved {}).Issues (initially ()) w r)
    (answered : Answered w.1 r response s') : Store.Confined .kataConfig Kept Released w.1 s' :=
  (sound.good issued response s' answered).1

/-- The finalizer is added. -/
theorem kataConfig_edits_kept_finalizer : ∃ w r, (operator plainSettings unobserved {}).Issues (initially ()) w r ∧
    writesNext .kataConfig w r = true ∧ Store.Confined .kataConfig Kept Released w.1 (w.1.exec r).2 := by
  have ends : endsAt plainSettings unobserved {} () (firstInstallation 18) (writesNext .kataConfig) = true := by
    decide +kernel
  obtain ⟨w, r, issued, writes⟩ := issues_of_endsAt ends
  exact ⟨w, r, issued, writes, kataConfig_edits_kept issued (.inl rfl)⟩

/-- Nor does it touch anything of a node but the two labels of the operator. -/
theorem node_edits_kept (issued : (operator settings unobserved {}).Issues (initially ()) w r)
    (answered : Answered w.1 r response s') : Store.Confined .node Relabeled (fun _ => False) w.1 s' :=
  (sound.good issued response s' answered).2

/-- The node gets its role. -/
theorem node_edits_kept_role : ∃ w r, (operator plainSettings unobserved {}).Issues (initially ()) w r ∧
    writesNext .node w r = true ∧ Store.Confined .node Relabeled (fun _ => False) w.1 (w.1.exec r).2 := by
  have ends : endsAt plainSettings unobserved {} () (firstInstallation 15) (writesNext .node) = true := by
    decide +kernel
  obtain ⟨w, r, issued, writes⟩ := issues_of_endsAt ends
  exact ⟨w, r, issued, writes, node_edits_kept issued (.inl rfl)⟩

end Results

end SandboxedContainers
