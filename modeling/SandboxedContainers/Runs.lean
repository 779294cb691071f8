import SandboxedContainers.Lineage
import SandboxedContainers.Upkeep

/-!
# From routines to executions

`reconcileRoutine_triple` puts a reconciliation together from its parts, and
`operator_sound` an execution from its reconciliations.  `Noted` assertions speak
about what a monitor has recorded and about nothing else.
-/

namespace SandboxedContainers

open Lib Routine

def Reconciler.leaves (r : Reconciler) : Bool :=
  r.current.metadata.deletionTimestamp && !r.status.isInstalling && !r.status.isUpdating

section Reconciliation

variable {W : Type} {M : Machine Req Response W} {C : Contract Req W}
  {Start Rest : Reconciler → W → Prop} {Held Ready : KataConfigStatus → Reconciler → W → Prop}

/-- What fetching the `KataConfig` leaves: `Held` speaks about the status as it
was fetched. -/
def AfterFetch (Held : KataConfigStatus → Reconciler → W → Prop) (Rest : Reconciler → W → Prop) :
    Except Exit Bool → Reconciler → W → Prop
  | .ok true => fun memory => Held memory.status memory
  | _ => Rest

instance [rest : Invariant M C Rest] [held : ∀ status, Invariant M C (Held status)] :
    (result : Except Exit Bool) → Invariant M C (AfterFetch Held Rest result)
  | .ok true =>
    ⟨fun memory => (held memory.status).stable memory, fun memory => (held memory.status).mid memory⟩
  | .ok false | .error _ => rest

/-- A reconciliation: `Held` holds until the feature gates are processed, and `Ready`
until it branches. -/
theorem reconcileRoutine_triple (Held Ready : KataConfigStatus → Reconciler → W → Prop) [Invariant M C Rest]
    [∀ status, Tolerant M C (Ready status)]
    (settings : Settings) {key : Key}
    (fetch : Triple M C Start (fetchKataConfig key) (AfterFetch Held Rest))
    (prepare : ∀ status, Triple M C (Held status) (prepareReconcile settings)
      (Onward (Ready status) fun _ : Except Exit PUnit => Rest))
    (deletes : ∀ status, Triple M C (fun memory w => Ready status memory w ∧ memory.leaves = true)
      (deleteBranch settings) fun _ => Rest)
    (installs : ∀ status, Triple M C (fun memory w => Ready status memory w ∧ memory.leaves = false)
      (installBranch settings status) fun _ => Rest)
    (released : ∀ status memory w, Ready status memory w → Rest memory w) :
    Triple M C Start (reconcileRoutine settings key) fun _ => Rest := by
  have branches (status : KataConfigStatus) :
      Triple M C (Ready status) (reconcileBranches settings status) fun _ => Rest := by
    refine Maintains.bind_triple (maintains_attempt getKataConfigNodeSelectorAsSelector_maintains)
      (fun selector => ?_) fun _ => released status
    split
    · exact triple_pure (released status)
    · refine triple_get_ite ?_ ((installs status).pre fun memory w held => ?_)
      · exact Triple.bind (deletes status) (fun _ => triple_pure fun _ _ => id) fun _ _ _ => id
      · exact ⟨held.1, by simpa [Reconciler.leaves] using held.2⟩
  refine Triple.bind fetch (fun found => ?_) fun _ _ _ => id
  cases found with
  | false => exact triple_pure (P := Rest) fun _ _ => id
  | true =>
    refine triple_get_bind fun r => ?_
    refine Triple.pre (P := Held r.status) ?_ ?_
    · exact Triple.andThen (prepare _) fun _ => branches _
    · rintro memory w ⟨rfl, held⟩
      exact held

end Reconciliation

/-- The nodes the operator has listed. -/
instance {G : Type} {settings : Settings} {monitor : Monitor G} {rules : Rules G} :
    Reading (operator settings monitor rules).toMachine where
  seen w node := w.1.Seen node
  stable node := by
    rintro w _ ⟨change, rfl, _⟩ seen
    exact change.apply_seen seen
  kept reply seen := Answered.seen reply.1 seen
  listed := by
    rintro w selector nodes ⟨s', g'⟩ ⟨answered, _⟩ node member
    obtain ⟨rfl, _, rfl⟩ := Answered.list_ok answered
    exact Store.seen_of_mem (List.mem_of_mem_filter member)

section Relabeling

/-- The same node with other values for the labels of the operator. -/
structure Relabeled (before after : Node) : Prop where
  shape : after = { before with metadata := { before.metadata with
    labels := after.metadata.labels, resourceVersion := after.metadata.resourceVersion } }
  others : ∀ key, key ≠ kataOcLabel → key ≠ kataInstallationDaemonSetLabel →
    after.metadata.labels.lookup key = before.metadata.labels.lookup key

/-- An update that changes nothing but the operator's labels of a node. -/
def OnlyLabels (change : Node → Option Node) : Prop :=
  ∀ ⦃node next⦄, change node = some next →
    Relabeled node next ∧ next.metadata.resourceVersion = node.metadata.resourceVersion

theorem relabeled_onlyLabels (selector : Selector) : OnlyLabels (relabeled selector) := by
  intro node next changed
  simp only [relabeled] at changed
  split at changed
  · cases changed
    exact ⟨⟨rfl, fun _ other _ => Finmap.lookup_insert_of_ne _ other⟩, rfl⟩
  · split at changed
    · cases changed
      exact ⟨⟨rfl, fun _ other _ => Finmap.lookup_erase_ne other⟩, rfl⟩
    · cases changed

theorem unlabeled_onlyLabels : OnlyLabels unlabeled := by
  intro node next changed
  obtain ⟨_, rfl⟩ : _ ∧ _ = _ := by simpa [unlabeled] using changed
  exact ⟨⟨rfl, fun _ other _ => Finmap.lookup_erase_ne other⟩, rfl⟩

theorem unlabeledDaemonSet_onlyLabels : OnlyLabels unlabeledDaemonSet := by
  intro node next changed
  obtain ⟨_, rfl⟩ : _ ∧ _ = _ := by simpa [unlabeledDaemonSet] using changed
  exact ⟨⟨rfl, fun _ other reports => (Finmap.lookup_erase_ne reports).trans (Finmap.lookup_erase_ne other)⟩, rfl⟩

theorem labeled_onlyLabels (value : String) : OnlyLabels (labeled kataInstallationDaemonSetLabel value) := by
  rintro node _ ⟨rfl⟩
  exact ⟨⟨rfl, fun _ _ other => Finmap.lookup_insert_of_ne _ other⟩, rfl⟩

theorem OnlyLabels.stored_eq {change : Node → Option Node} (onlyLabels : OnlyLabels change)
    {s : Cluster} {node next stored : Node} (changed : change node = some next) (seen : s.Seen node)
    (found : stored ∈ nodes s) (current : Store.stale stored (inScope next) = false) :
    stored = node := by
  obtain ⟨same, version⟩ := onlyLabels changed
  have uid : next.metadata.uid = node.metadata.uid := by rw [same.shape]
  exact seen.eq_of_not_stale found current uid version

theorem OnlyLabels.confined {change : Node → Option Node} (onlyLabels : OnlyLabels change)
    {s s' : Cluster} {node next : Node} (changed : change node = some next) (seen : s.Seen node) {response}
    (answered : Answered s (.update .node (inScope next)) response s') {R : Node → Node → Prop}
    (refl : ∀ node, R node node) (related : R node (s.stamp next)) :
    Store.Confined .node R (fun _ => False) s s' := by
  refine answered.confined refl (by simp) ?_
  rintro stored _ ⟨found, current, _⟩
  obtain ⟨member, sameKey⟩ := Collection.find?_mem found
  obtain rfl := onlyLabels.stored_eq changed seen member current
  have same := (onlyLabels changed).1.shape
  have scope : stored.metadata.ns = "" := congrArg Key.ns sameKey
  have written : Store.updated stored (inScope next) = next := by
    rw [same]
    simp [Store.updated, inScope, Kind.namespaced, scope, Schema.updated]
  rw [written]
  refine ⟨related, fun finished => ?_⟩
  rw [same] at finished
  cases (s.unfinished _ stored member).symm.trans finished

end Relabeling

section Execution

variable {G : Type} {settings : Settings} {monitor : Monitor G} {rules : Rules G}
  {C : Contract Req (Cluster × G)} {Rest : Reconciler → Cluster × G → Prop} {g : G}

theorem operator_sound (Start : Key → Reconciler → Cluster × G → Prop) (Ended : Exit → Reconciler → Cluster × G → Prop)
    [rest : Invariant (operator settings monitor rules).toMachine C Rest]
    (init : ∀ w, initially g w → Rest {} w)
    (start : ∀ key memory w, Rest memory w → rules.start key w = true →
      Start key memory (w.1, monitor.start key w.1 w.2))
    (body : ∀ key, Triple (operator settings monitor rules).toMachine C (Start key)
      (reconcileRoutine settings key) fun result => Ended (exitOf result))
    (finish : ∀ exit memory w, Ended exit memory w → rules.finish exit w = true →
      Rest memory (w.1, monitor.finish exit w.1 w.2))
    (crash : ∀ w, C.mid w → rules.crash w = true → Rest {} (w.1, monitor.crash w.1 w.2)) :
    (operator settings monitor rules).Sound (initially g) C Rest
      fun outcome => Ended outcome.1 outcome.2 where
  init := init
  env := rest.stable
  body := by
    rintro key memory w w' holds ⟨allowed, rfl⟩
    refine safe_bind ((body key memory _ (start key memory w holds allowed)).settled.mono ?_)
    exact fun outcome w'' _ ended => ended
  finish := by
    rintro exit memory w w' ended ⟨allowed, rfl⟩
    exact finish exit memory w ended allowed
  crash := by
    rintro memory w w' holds ⟨allowed, rfl⟩
    exact crash w (rest.mid memory w holds) allowed
  killed := by
    rintro w w' mid ⟨allowed, rfl⟩
    exact crash w mid allowed

end Execution

section Known

variable {G G' : Type} {settings : Settings} {monitor : Monitor G} {rules : Rules G} {g : G}

/-- The second monitor records a part of what the first one does. -/
structure Monitor.Extends (monitor : Monitor G) (monitor' : Monitor G') (view : G → G') : Prop where
  start : ∀ key s g, view (monitor.start key s g) = monitor'.start key s (view g)
  call : ∀ s r response s' g, view (monitor.call s r response s' g) = monitor'.call s r response s' (view g)
  env : ∀ s change s' g, view (monitor.env s change s' g) = monitor'.env s change s' (view g)
  finish : ∀ exit s g, view (monitor.finish exit s g) = monitor'.finish exit s (view g)
  crash : ∀ s g, view (monitor.crash s g) = monitor'.crash s (view g)

/-- The first rules are at least as strict as the second. -/
structure Rules.Within (rules : Rules G) (rules' : Rules G') (view : G → G') : Prop where
  start : ∀ {key w}, rules.start key w = true → rules'.start key (w.1, view w.2) = true
  answer : ∀ {w r response w'}, rules.answer w r response w' = true →
    rules'.answer (w.1, view w.2) r response (w'.1, view w'.2) = true
  env : ∀ {w change w'}, rules.env w change w' = true →
    rules'.env (w.1, view w.2) change (w'.1, view w'.2) = true
  finish : ∀ {exit w}, rules.finish exit w = true → rules'.finish exit (w.1, view w.2) = true
  crash : ∀ {w}, rules.crash w = true → rules'.crash (w.1, view w.2) = true

theorem Rules.within_free {view : G → G'} : rules.Within ({} : Rules G') view :=
  ⟨fun _ => rfl, fun _ => rfl, fun _ => rfl, fun _ => rfl, fun _ => rfl⟩

theorem Monitor.extends_self : monitor.Extends monitor id :=
  ⟨fun _ _ _ => rfl, fun _ _ _ _ _ => rfl, fun _ _ _ _ => rfl, fun _ _ _ => rfl, fun _ _ => rfl⟩

theorem operator_covers {monitor' : Monitor G'} {rules' : Rules G'} {view : G → G'}
    (extended : monitor.Extends monitor' view) (within : rules.Within rules' view) :
    Controller.Covers (operator settings monitor rules) (initially g)
      (operator settings monitor' rules') (initially (view g)) fun w => (w.1, view w.2) where
  body := rfl
  boot := rfl
  initial w initial := ⟨initial.1, congrArg view initial.2⟩
  answer := by
    rintro w r response w' _ ⟨answered, recorded, allowed⟩
    exact ⟨answered, by rw [recorded, extended.call], within.answer allowed⟩
  env := by
    rintro w _ ⟨change, rfl, allowed⟩
    exact ⟨change, by rw [extended.env], within.env allowed⟩
  start := by
    rintro key w _ ⟨allowed, rfl⟩
    exact ⟨within.start allowed, by rw [extended.start]⟩
  finish := by
    rintro exit w _ ⟨allowed, rfl⟩
    exact ⟨within.finish allowed, by rw [extended.finish]⟩
  crash := by
    rintro phase w _ _ ⟨allowed, rfl⟩
    exact ⟨within.crash allowed, by rw [extended.crash]⟩

open Classical in
/-- The rules, with a fact about every request that is issued. -/
noncomputable def Rules.assuming (rules : Rules G) (fact : Cluster × G → Req → Prop) : Rules G :=
  { rules with answer := fun w r response w' => rules.answer w r response w' && decide (fact w r) }

open Classical in
theorem operator_assuming {fact : Cluster × G → Req → Prop}
    (known : ∀ w r, (operator settings monitor rules).Issues (initially g) w r → fact w r) :
    Controller.Covers (operator settings monitor rules) (initially g)
      (operator settings monitor (rules.assuming fact)) (initially g) id where
  body := rfl
  boot := rfl
  initial _ := id
  answer := by
    rintro w r response w' issued ⟨answered, recorded, allowed⟩
    exact ⟨answered, recorded, Bool.and_eq_true_iff.mpr ⟨allowed, decide_eq_true (known w r issued)⟩⟩
  env := id
  start := id
  finish := id
  crash _ := id

open Classical in
/-- The rules, with a fact about every state in which the operator is killed. -/
noncomputable def Rules.knowing (rules : Rules G) (fact : Cluster × G → Prop) : Rules G :=
  { rules with crash := fun w => rules.crash w && decide (fact w) }

open Classical in
theorem operator_knowing {fact : Cluster × G → Prop}
    (known : ∀ phase w, (operator settings monitor rules).Reachable (initially g) (phase, w) → fact w) :
    Controller.Covers (operator settings monitor rules) (initially g)
      (operator settings monitor (rules.knowing fact)) (initially g) id where
  body := rfl
  boot := rfl
  initial _ := id
  answer _ := id
  env := id
  start := id
  finish := id
  crash := by
    rintro phase w w' reached ⟨allowed, same⟩
    exact ⟨Bool.and_eq_true_iff.mpr ⟨allowed, decide_eq_true (known phase w reached)⟩, same⟩

open Classical in
theorem Rules.knowing_crash {fact : Cluster × G → Prop} {w : Cluster × G}
    (allowed : (rules.knowing fact).crash w = true) : rules.crash w = true ∧ fact w := by
  obtain ⟨allowed, known⟩ := Bool.and_eq_true_iff.mp allowed
  exact ⟨allowed, of_decide_eq_true known⟩

theorem Rules.knowing_answer {fact : Cluster × G → Prop} {w w' : Cluster × G} {r : Req} {response : Response r}
    (allowed : (rules.knowing fact).answer w r response w' = true) : rules.answer w r response w' = true := allowed

open Classical in
theorem Rules.assuming_answer {fact : Cluster × G → Req → Prop} {w w' : Cluster × G} {r : Req}
    {response : Response r} (allowed : (rules.assuming fact).answer w r response w' = true) :
    rules.answer w r response w' = true ∧ fact w r := by
  obtain ⟨allowed, known⟩ := Bool.and_eq_true_iff.mp allowed
  exact ⟨allowed, of_decide_eq_true known⟩

end Known

/-- Whether a request reads, or writes a `KataConfig` or an object of a side kind. -/
def isAside : Req → Bool
  | .mark _ => false
  | r => match r.writes with
    | none => true
    | some k => k.isSide || k = .kataConfig

theorem isAside_writes {r : Req} {k : Kind} (aside : isAside r = true)
    (core : (k.isSide || k = .kataConfig) = false) : r.writes ≠ some k := by
  intro writes
  unfold isAside at aside
  split at aside
  · cases aside
  · rw [writes] at aside
    simp only [core] at aside
    cases aside

theorem isAside_not_mark {r : Req} (aside : isAside r = true) (m : Mark) : r ≠ .mark m := by
  rintro rfl
  cases aside

theorem writes_not_mark {r : Req} {k : Kind} (writes : r.writes = some k) (m : Mark) : r ≠ .mark m := by
  rintro rfl
  cases writes

theorem good_of_not_mark {p : Mark → Prop} {r : Req} (notMark : ∀ m, r ≠ .mark m) (m : Mark)
    (isMark : r = .mark m) : p m :=
  absurd isMark (notMark m)

def uidOf (memory : Reconciler) : Nat := memory.current.metadata.uid

def Anything {α : Type} (_ : α) : Prop := True

section World

variable {W : Type} {M : Machine Req Response W} {C : Contract Req W} {p q : W → Prop}

def World (p : W → Prop) (_ : Reconciler) (w : W) : Prop := p w

theorem world_invariant (stable : M.Stable p) (mid : ∀ w, p w → C.mid w) : Invariant M C (World p) where
  stable _ := stable
  mid _ := mid

theorem world_lenient [invariant : Invariant M C (World p)]
    (aside : ∀ r, isAside r = true → Admits M C (World p) r) : Lenient M C (World p) := by
  have stores : Maintains M C (World p) updateKataConfigStatus := by
    refine updateKataConfigStatus_triple ?_ ?_ ?_
    · exact fun memory w holds => (aside _ rfl memory w holds).1
    · exact fun memory w answer w' holds => (aside _ rfl memory w holds).2 _ w'
    · exact fun memory w error w' holds => (aside _ rfl memory w holds).2 _ w'
  have updates : Maintains M C (World p) updateKataConfig := by
    refine updateKataConfig_triple ?_ ?_ ?_
    · exact fun memory w holds => (aside _ rfl memory w holds).1
    · exact fun memory w answer w' holds => (aside _ rfl memory w holds).2 _ w'
    · exact fun memory w error w' holds => (aside _ rfl memory w holds).2 _ w'
  refine { invariant with
    reads := ?_
    side := ?_
    kataNodes := fun _ _ _ => id
    imageGenerator := fun _ _ _ => id
    conditions := fun _ _ _ _ _ _ => maintains_modify fun _ _ => id
    modes := fun _ _ _ => id
    waiting := fun _ _ _ => id
    finalizers := fun _ _ _ => maintains_modify fun _ _ => id
    stores := stores
    updates := updates }
  · intro r reads notMark
    apply aside
    cases r with
    | mark m => exact absurd rfl (notMark m)
    | get | list => rfl
    | _ => cases reads
  · intro k side r writes
    apply aside
    cases r with
    | mark => cases writes
    | get | list => rfl
    | _ =>
      cases writes
      simp [isAside, Request.writes, side]

theorem world_classes [Tolerant M C (World p)] {settings : Settings}
    (writable : Writable M C (World p) .runtimeClass) : KeepsClasses settings M C (World p) :=
  writable.keepsClasses settings fun _ _ _ => id

theorem world_creates [Tolerant M C (World p)] {settings : Settings}
    (writable : Writable M C (World p) .runtimeClass) : CreatesClasses settings M C (World p) :=
  (world_classes writable).creates

instance : ImageFree (World p) := ⟨fun _ _ _ => id⟩

theorem world_commences [Invariant M C (World p)] : Commences M C (World p) :=
  ⟨maintains_modify fun _ _ => id, maintains_modify fun _ _ => id⟩

theorem world_fetch [tolerant : Tolerant M C (World p)] [Invariant M C (World q)] (key : Key)
    (weaker : ∀ w, p w → q w) :
    Triple M C (World p) (fetchKataConfig key) (AfterFetch (fun _ => World p) (World q)) := by
  have read : Admits M C (World p) (.get .kataConfig ⟨"", key.name⟩) := tolerant.reads _ rfl (by simp)
  refine fetchKataConfig_triple (fun _ _ => id) (fun memory w holds => (read memory w holds).1) ?_ ?_
  · exact fun memory w _ w' holds reply => (read memory w holds).2 _ w' reply
  · intro memory w _ w' holds reply
    have kept := weaker w' ((read memory w holds).2 _ w' reply)
    exact ⟨kept, kept⟩

theorem world_prepare [Tolerant M C (World p)] {settings : Settings} (classes : KeepsClasses settings M C (World p)) :
    Maintains M C (World p) (prepareReconcile settings) :=
  prepareReconcile_maintains settings classes fun _ _ _ => id

theorem world_reconcile [Lenient M C (World p)] [Invariant M C (World q)]
    (settings : Settings) (key : Key) (weaker : ∀ w, p w → q w)
    (classes : KeepsClasses settings M C (World p))
    (deletes : Triple M C (World p) (deleteBranch settings) fun _ => World q)
    (installs : ∀ status, Triple M C (World p) (installBranch settings status) fun _ => World q) :
    Triple M C (World p) (reconcileRoutine settings key) fun _ => World q := by
  refine reconcileRoutine_triple (fun _ => World p) (fun _ => World p) settings
    (world_fetch key weaker) ?_ ?_ ?_ fun _ _ w => weaker w
  · exact fun _ => (world_prepare classes).onward fun _ _ => weaker
  · exact fun _ => deletes.given
  · exact fun status => (installs status).given

end World

section Noted

variable {G : Type} {settings : Settings} {monitor : Monitor G} {rules : Rules G}
  {C : Contract Req (Cluster × G)} {p q : G → Prop}

abbrev Noted (p : G → Prop) : Reconciler → Cluster × G → Prop := World fun w => p w.2

theorem noted_invariant (env : ∀ s change s' g, p g → p (monitor.env s change s' g))
    (mid : ∀ w, p w.2 → C.mid w) :
    Invariant (operator settings monitor rules).toMachine C (Noted p) := by
  refine world_invariant ?_ mid
  rintro ⟨s, g⟩ _ ⟨change, rfl, _⟩ holds
  exact env s change _ g holds

theorem noted_admits {r : Req} (good : ∀ w, p w.2 → C.good w r)
    (call : ∀ s response s' g, p g → p (monitor.call s r response s' g)) :
    Admits (operator settings monitor rules).toMachine C (Noted p) r := by
  rintro memory ⟨s, g⟩ holds
  refine ⟨good _ holds, ?_⟩
  rintro response w' ⟨_, recorded, _⟩
  change p w'.2
  rw [recorded]
  exact call s response w'.1 g holds

theorem noted_mark [Invariant (operator settings monitor rules).toMachine C (Noted p)]
    [Invariant (operator settings monitor rules).toMachine C (Noted q)] {ε : Type} {point : Point}
    (good : ∀ w kataConfig, p w.2 → C.good w (.mark ⟨point, kataConfig⟩))
    (passed : ∀ s g kataConfig, p g → q (monitor.call s (.mark ⟨point, kataConfig⟩) ⟨⟩ s g)) :
    Triple (operator settings monitor rules).toMachine C (Noted p) (mark point : Op ε PUnit)
      fun _ => Noted q := by
  refine mark_triple (fun memory w => good w _) ?_
  rintro memory ⟨s, g⟩ w' holds answered
  rw [operator_mark answered]
  exact passed s g _ holds

end Noted

end SandboxedContainers
