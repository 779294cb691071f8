import SandboxedContainers.Concurrency
import SandboxedContainers.Runs

/-!
# Release of a runtime class

A runtime class that is being deleted is held by a finalizer.  The controller looks
for pods that use the class, and takes the finalizer away when it finds none.  The
server compares the version of the runtime class when it stores the update; it does
not look at the pods.
-/

namespace SandboxedContainers

open Lib Routine

/-- In seconds. -/
def requeueInterval : Nat := 10

def PodPhase.isActive : PodPhase → Bool
  | .running | .pending | .unknown => true
  | .succeeded | .failed => false

def usesRuntimeClass (runtimeClassName : String) (pod : Pod) : Bool :=
  let body : PodBody := pod.body
  body.runtimeClassName = some runtimeClassName && body.phase.isActive

def hasPodsUsingRuntimeClass (runtimeClassName : String) : Op Err Bool := do
  let podList ← clientList .pod
  return podList.any (usesRuntimeClass runtimeClassName)

/-- `controllerutil.RemoveFinalizer` -/
def withoutCleanup (runtimeClass : RuntimeClass) : RuntimeClass :=
  { runtimeClass with metadata := { runtimeClass.metadata with
      finalizers := runtimeClass.metadata.finalizers.filter (· ≠ runtimeClassFinalizerName) } }

def handleRuntimeClassDeletion (runtimeClass : RuntimeClass) : Op Err Result := do
  match ← attempt (hasPodsUsingRuntimeClass runtimeClass.metadata.name) with
  | .error _ => return ⟨false, requeueInterval⟩
  | .ok hasActivePods =>
    if hasActivePods then
      return ⟨false, requeueInterval⟩
    let _ ← clientUpdate (withoutCleanup runtimeClass)
    return {}

/-- `Reconcile` of the runtime class controller -/
def reconcileRuntimeClass (key : Key) : Op Err Result := do
  match ← attempt (clientGet .runtimeClass key) with
  | .error error => if error.isNotFound then return {} else Routine.throw error
  | .ok runtimeClass =>
    if !runtimeClass.metadata.finalizers.contains runtimeClassFinalizerName then
      return {}
    if runtimeClass.metadata.deletionTimestamp then
      handleRuntimeClassDeletion runtimeClass
    else return {}

def activePods (s : Cluster) (runtimeClassName : String) : List Pod :=
  (s.objs .pod).items.filter (usesRuntimeClass runtimeClassName)

structure ReleaseNote where
  /-- The runtime class it was asked to look at. -/
  runtimeClassName : String := ""
  /-- It has found no pod that uses the class, and not sent its update yet. -/
  checked : Bool := false

def releaseObserver : Observer Unit Key ReleaseNote where
  start _ key _ _ := { runtimeClassName := key.name }
  call _ _ r response _ note := match r, response with
    | .list .pod _, .ok pods => { note with checked := !pods.any (usesRuntimeClass note.runtimeClassName) }
    | .update .runtimeClass _, _ => { note with checked := false }
    | _, _ => note
  leave _ _ _ := {}

/-- After the change a pod uses the class that did not use it before. -/
def Change.startsPod (runtimeClassName : String) (s : Cluster) (change : Change) : Bool :=
  (activePods (change.apply s) runtimeClassName).any fun pod =>
    !(activePods s runtimeClassName).any fun before => before.metadata.uid = pod.metadata.uid

/-- No pod starts to use the class between the check and the update. -/
def noLatePods : Limits Unit Key ReleaseNote where
  env w change := !(w.2.checked && change.startsPod w.2.runtimeClassName w.1)

abbrev releaseSystem (limits : Limits Unit Key ReleaseNote) :
    Clients Req Response (Cluster × ReleaseNote) Unit Key (Except Err Result × Reconciler) :=
  clients (fun _ key => reconcileRuntimeClass key {}) releaseObserver limits

/-- The server would store the update. -/
def storesUpdate (s : Cluster) (runtimeClass : RuntimeClass) : Bool :=
  match (s.exec (.update .runtimeClass runtimeClass : Req)).1 with
  | .ok _ => true
  | .error _ => false

namespace RuntimeClassRelease

/-- What the others leave to the controller. -/
structure Relied (_ : Unit) (w w' : Cluster × ReleaseNote) : Prop where
  note : w'.2 = w.2
  unused : w.2.checked = true → activePods w.1 w.2.runtimeClassName = [] →
    activePods w'.1 w.2.runtimeClassName = []

/-- A class that is released has no user. -/
def contract (_ : Unit) : Contract Req (Cluster × ReleaseNote) where
  good w r := match r with
    | .update .runtimeClass runtimeClass => activePods w.1 runtimeClass.metadata.name = []
    | _ => True
  mid _ := True

abbrev machine : Machine Req Response (Cluster × ReleaseNote) := (releaseSystem noLatePods).machine Relied ()

abbrev LooksAt (runtimeClassName : String) : Reconciler → Cluster × ReleaseNote → Prop :=
  World fun w => w.2.runtimeClassName = runtimeClassName

structure Unused (runtimeClassName : String) (w : Cluster × ReleaseNote) : Prop where
  looksAt : w.2.runtimeClassName = runtimeClassName
  checked : w.2.checked = true
  none : activePods w.1 runtimeClassName = []

variable {runtimeClassName : String}

instance : Invariant machine (contract ()) (LooksAt runtimeClassName) :=
  world_invariant (fun _ _ relied looksAt => (congrArg ReleaseNote.runtimeClassName relied.note).trans looksAt)
    fun _ _ => trivial

/-- What the answer to the check says about the class. -/
abbrev Checked (runtimeClassName : String) (used : Bool) : Reconciler → Cluster × ReleaseNote → Prop :=
  World fun w => used = false → Unused runtimeClassName w

theorem Relied.unused_kept {w w' : Cluster × ReleaseNote} (relied : Relied () w w')
    (unused : Unused runtimeClassName w) : Unused runtimeClassName w' := by
  obtain ⟨rfl, checked, none⟩ := unused
  constructor
  · rw [relied.note]
  · rw [relied.note]
    exact checked
  · exact relied.unused checked none

instance (used : Bool) : Invariant machine (contract ()) (Checked runtimeClassName used) :=
  world_invariant (fun _ _ relied check unseen => relied.unused_kept (check unseen)) fun _ _ => trivial

instance : Invariant machine (contract ()) (World fun _ => True) :=
  world_invariant (fun _ _ _ _ => trivial) fun _ _ => trivial

theorem activePods_eq_nil {s : Cluster} {pods : List Pod}
    (listed : pods = (s.objs .pod).items.filter fun pod => Selector.accepts [] pod.metadata.labels)
    (none : pods.any (usesRuntimeClass runtimeClassName) = false) : activePods s runtimeClassName = [] := by
  have all : pods = (s.objs .pod).items := by
    rw [listed]
    simp [Selector.accepts]
  rw [activePods, List.filter_eq_nil_iff, ← all]
  intro pod member
  rw [List.any_eq_false] at none
  exact none pod member

theorem list_triple : Triple machine (contract ()) (LooksAt runtimeClassName) (clientList .pod)
    (Leaves (fun pods => Checked runtimeClassName (pods.any (usesRuntimeClass runtimeClassName)))
      (World fun _ => True)) := by
  refine clientList_triple (fun _ _ _ => trivial) ?_ fun _ _ _ _ _ _ => trivial
  intro memory w pods w' looksAt reply none
  obtain ⟨answered, noted, _⟩ := reply
  obtain ⟨same, -, listed⟩ := answered.list_ok
  obtain rfl : w.2.runtimeClassName = runtimeClassName := looksAt
  have note : w'.2 = { w.2 with checked := !pods.any (usesRuntimeClass w.2.runtimeClassName) } := noted
  constructor
  · rw [note]
  · rw [note]
    simp only [none, Bool.not_false]
  · rw [same]
    exact activePods_eq_nil listed none

theorem hasPodsUsingRuntimeClass_triple :
    Triple machine (contract ()) (LooksAt runtimeClassName) (hasPodsUsingRuntimeClass runtimeClassName)
      (Leaves (Checked runtimeClassName) (World fun _ => True)) :=
  list_triple.leaves_bind fun _ => triple_pure fun _ _ => id

theorem handleRuntimeClassDeletion_triple (runtimeClass : RuntimeClass) :
    Triple machine (contract ()) (LooksAt runtimeClass.metadata.name) (handleRuntimeClassDeletion runtimeClass)
      fun _ => World fun _ => True := by
  refine Triple.attempt_bind hasPodsUsingRuntimeClass_triple fun outcome => ?_
  cases outcome with
  | error error => exact triple_pure (P := World fun _ => True) fun _ _ _ => trivial
  | ok used =>
    cases used with
    | true => exact triple_pure (P := Checked runtimeClass.metadata.name true) fun _ _ _ => trivial
    | false =>
      refine Triple.bind (P := Checked runtimeClass.metadata.name false) (clientUpdate_triple
        (Q := fun _ => World fun _ => True) (fun memory w unused => ?_) (fun _ _ _ _ _ _ => trivial)
        fun _ _ _ _ _ _ => trivial) (fun _ => triple_pure fun _ _ _ => trivial) fun _ _ _ _ => trivial
      exact (unused rfl).none

theorem get_triple (key : Key) : Triple machine (contract ()) (LooksAt key.name) (clientGet .runtimeClass key)
    (Leaves (fun runtimeClass : RuntimeClass => LooksAt runtimeClass.metadata.name) (World fun _ => True)) := by
  refine clientGet_triple (fun _ _ _ => trivial) ?_ fun _ _ _ _ _ _ => trivial
  intro memory w runtimeClass w' looksAt reply
  obtain ⟨answered, noted, _⟩ := reply
  have note : w'.2 = w.2 := noted
  have key : runtimeClass.key = scopedKey .runtimeClass key := (Collection.find?_mem answered.get_ok.2).2
  have name : runtimeClass.metadata.name = _ := congrArg Key.name key
  exact (congrArg ReleaseNote.runtimeClassName note).trans (looksAt.trans name.symm)

theorem reconcileRuntimeClass_triple (key : Key) :
    Triple machine (contract ()) (LooksAt key.name) (reconcileRuntimeClass key) fun _ => World fun _ => True := by
  refine Triple.attempt_bind (get_triple key) fun outcome => ?_
  cases outcome with
  | error error =>
    change Triple machine (contract ()) (World fun _ => True) (if _ then _ else _) _
    split
    · exact triple_pure fun _ _ _ => trivial
    · exact triple_throw fun _ _ _ => trivial
  | ok runtimeClass =>
    change Triple machine (contract ()) (LooksAt runtimeClass.metadata.name) (if _ then _ else if _ then _ else _) _
    split
    · exact triple_pure fun _ _ _ => trivial
    split
    · exact handleRuntimeClassDeletion_triple runtimeClass
    · exact triple_pure fun _ _ _ => trivial

theorem activePods_kept {s : Cluster} {change : Change} (none : activePods s runtimeClassName = [])
    (quiet : change.startsPod runtimeClassName s = false) :
    activePods (change.apply s) runtimeClassName = [] := by
  rw [Change.startsPod, none, List.any_eq_false] at quiet
  apply List.eq_nil_iff_forall_not_mem.mpr
  intro pod member
  exact quiet pod member rfl

theorem sound : (releaseSystem noLatePods).Sound (fun w => w.2 = {}) (fun _ => True) Relied contract
    fun _ _ _ _ => True where
  init _ _ := trivial
  start := by
    rintro _ key w _ _ ⟨_, rfl⟩
    exact ⟨trivial, reconcileRuntimeClass_triple key {} _ rfl, fun _ differs => absurd rfl differs⟩
  call _ _ _ _ _ _ _ _ := ⟨trivial, fun _ differs => absurd rfl differs⟩
  leave _ _ _ _ _ := ⟨trivial, fun _ differs => absurd rfl differs⟩
  env := by
    rintro w _ _ ⟨change, rfl, allowed⟩
    refine ⟨trivial, fun _ => ⟨rfl, fun checked none => activePods_kept none ?_⟩⟩
    simpa [noLatePods, checked] using allowed

end RuntimeClassRelease

/-- As long as no pod starts to use the class between the check and the update, the
server stores no update that releases a class in use. -/
theorem releasedClass_unused
    {threads : Threads Req Response Unit Key (Except Err Result × Reconciler)} {w : Cluster × ReleaseNote}
    (reached : (releaseSystem noLatePods).Reachable (fun w => w.2 = {}) (threads, w))
    {key : Key} {runtimeClass : RuntimeClass} {next}
    (turn : threads () = some (key, .call (.update .runtimeClass runtimeClass) next)) :
    storesUpdate w.1 runtimeClass = true → activePods w.1 runtimeClass.metadata.name = [] := by
  intro _
  exact ((RuntimeClassRelease.sound.holds reached).safe turn w .refl).2.1

def releases (state : Threads Req Response Unit Key (Except Err Result × Reconciler) × Cluster × ReleaseNote)
    (also : Cluster → RuntimeClass → Bool) : Bool :=
  match state.1 () with
  | some (_, .call (.update .runtimeClass runtimeClass) _) =>
    storesUpdate state.2.1 runtimeClass && also state.2.1 runtimeClass
  | _ => false

theorem exists_of_releases
    {state : Threads Req Response Unit Key (Except Err Result × Reconciler) × Cluster × ReleaseNote}
    {also : Cluster → RuntimeClass → Bool} (releasing : releases state also = true) :
    ∃ key runtimeClass next, state.1 () = some (key, .call (.update .runtimeClass runtimeClass) next) ∧
      storesUpdate state.2.1 runtimeClass = true ∧ also state.2.1 runtimeClass = true := by
  unfold releases at releasing
  split at releasing
  · rename_i key runtimeClass next turn
    obtain ⟨accepted, passes⟩ := Bool.and_eq_true_iff.mp releasing
    exact ⟨key, runtimeClass, next, turn, accepted, passes⟩
  · cases releasing

/-- A runtime class with the finalizer is deleted, and the controller has looked for its
pods. -/
def releaseScript (early late : List Req) : List (Clients.Act Unit Key Fault Change) :=
  requested ([.create .runtimeClass ⟨{ name := "kata", finalizers := [runtimeClassFinalizerName] },
      show RuntimeClassBody from { handler := "kata", podFixed := [], scheduling := none }⟩,
    .delete .runtimeClass ⟨"", "kata"⟩] ++ early) ++
  [.start () ⟨"", "kata"⟩] ++ served () 2 ++ requested late

def kataPod (phase : PodPhase) : Pod :=
  ⟨{ name := "web", ns := "default" }, show PodBody from ⟨some "kata", phase⟩⟩

/-- A pod that has ended does not hold the class, and may go at any time. -/
theorem releasedClass_unused_ended : ∃ (w : Cluster × ReleaseNote) (runtimeClass : RuntimeClass),
    storesUpdate w.1 runtimeClass = true ∧ activePods w.1 runtimeClass.metadata.name = [] := by
  have leads : leadsTo (fun _ key => reconcileRuntimeClass key {}) releaseObserver noLatePods {}
      (releaseScript [.create .pod (kataPod .succeeded)] [.delete .pod ⟨"default", "web"⟩])
      (fun state => releases state fun _ _ => true) = true := by
    decide +kernel
  obtain ⟨threads, w, reached, releasing⟩ := reachable_of_leadsTo (fun w => w.2 = {}) rfl leads
  obtain ⟨key, runtimeClass, next, turn, accepted, -⟩ := exists_of_releases releasing
  exact ⟨w, runtimeClass, accepted, releasedClass_unused reached turn accepted⟩

/-- A pod that is created after the check uses the class when its finalizer goes. -/
theorem releasedClass_in_use :
    ∃ (threads : Threads Req Response Unit Key (Except Err Result × Reconciler)) (w : Cluster × ReleaseNote)
      (key : Key) (runtimeClass : RuntimeClass) (next : _),
      (releaseSystem {}).Reachable (fun w => w.2 = {}) (threads, w) ∧
      threads () = some (key, .call (.update .runtimeClass runtimeClass) next) ∧
      storesUpdate w.1 runtimeClass = true ∧ activePods w.1 runtimeClass.metadata.name ≠ [] := by
  have leads : leadsTo (fun _ key => reconcileRuntimeClass key {}) releaseObserver {} {}
      (releaseScript [] [.create .pod (kataPod .pending)])
      (fun state => releases state fun s runtimeClass =>
        !(activePods s runtimeClass.metadata.name).isEmpty) = true := by
    decide +kernel
  obtain ⟨threads, w, reached, releasing⟩ := reachable_of_leadsTo (fun w => w.2 = {}) rfl leads
  obtain ⟨key, runtimeClass, next, turn, accepted, used⟩ := exists_of_releases releasing
  exact ⟨threads, w, key, runtimeClass, next, reached, turn, accepted, by simpa using used⟩

end SandboxedContainers
