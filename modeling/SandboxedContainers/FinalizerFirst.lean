import SandboxedContainers.Custody

/-!
# The finalizer comes before the nodes

A `KataConfig` on behalf of which nodes were labelled or a MachineConfig was
created should carry the operator's finalizer until the operator removes it;
without it the user can make the `KataConfig` disappear, and nothing undoes the
installation.  Through MachineConfigs the finalizer is ensured first; through
DaemonSets the nodes are labelled before that.
-/

namespace SandboxedContainers

open Lib Routine

/-- Those on behalf of which a node was labelled for `kata-oc`, or a MachineConfig created. -/
def Custody.bound (custody : Custody) : List Nat :=
  custody.labelled ++
    (custody.made.filter fun creation => creation.kind = .machineConfig).map Creation.owner

/-- Nobody else takes the operator's finalizer off a `KataConfig`, and a request to
install through DaemonSets finds it in place. -/
def finalizerInPlace : Rules Custody where
  env w _ w' := decide (∀ uid ∈ bearers w.1, uid ∈ bearers w'.1)
  answer _ r _ _ := match r with
    | .mark ⟨.installRequestDaemonSet, kataConfig⟩ => bearsFinalizer kataConfig
    | _ => true

namespace FinalizerFirst

open Custody

/-- The `KataConfig` carries the finalizer, unless the operator has removed it. -/
def Anchored (w : Cluster × Custody) (uid : Nat) : Prop := uid ∈ w.2.released ∨ uid ∈ bearers w.1

def Bound (w : Cluster × Custody) : Prop := ∀ uid ∈ w.2.bound, Anchored w uid

def contract : Contract Req (Cluster × Custody) where
  good _ _ := True
  mid := Bound

section

variable (settings : Settings)

abbrev system := operator settings custody finalizerInPlace

abbrev machine := (system settings).toMachine

end

section Steps

variable {s s' : Cluster} {g : Custody} {r : Req} {response : Response r} {uid : Nat}

theorem bearers_kept (answered : Answered s r response s') (notUpdate : ∀ object, r ≠ .update .kataConfig object)
    (bore : uid ∈ bearers s) : uid ∈ bearers s' := by
  obtain ⟨kataConfig, member, bears, rfl⟩ := mem_bearers.mp bore
  rcases answered.store with rfl | rfl
  · exact bore
  · obtain ⟨after, stored, sameUid, kept⟩ := Store.exec_keeps_finalizer member
      (by simpa [bearsFinalizer] using bears) notUpdate
    exact mem_bearers.mpr ⟨after, stored, by simpa [bearsFinalizer] using kept, sameUid⟩

theorem Anchored.call (answered : Answered s r response s') (anchored : Anchored (s, g) uid) :
    Anchored (s', custody.call s r response s' g) uid := by
  by_cases isUpdate : ∃ object, r = .update .kataConfig object
  · obtain ⟨object, rfl⟩ := isUpdate
    by_cases kept : uid ∈ bearers s'
    · exact .inr kept
    · refine .inl (List.mem_append.mpr ?_)
      rcases anchored with released | bore
      · exact .inr released
      · exact .inl (List.mem_filter.mpr ⟨bore, by simpa using kept⟩)
  · rcases anchored with released | bore
    · exact .inl (by rwa [custody_released fun object same => isUpdate ⟨object, same⟩])
    · exact .inr (bearers_kept answered (fun object same => isUpdate ⟨object, same⟩) bore)

/-- A request that binds the `KataConfig` the request under way is about. -/
def Binds (s : Cluster) (r : Req) (s' : Cluster) : Prop :=
  (∃ object, r = .create .machineConfig object) ∨
    (∃ object, r = .update .node object) ∧ labelAppears s s' = true

theorem mem_bound (bound : uid ∈ (custody.call s r response s' g).bound) :
    uid ∈ g.bound ∨ uid ∈ g.owner ∧ Binds s r s' := by
  rcases List.mem_append.mp bound with labelled | made
  · unfold custody at labelled
    simp only at labelled
    split at labelled
    · split at labelled <;> exact .inl (List.mem_append.mpr (.inl labelled))
    · exact .inl (List.mem_append.mpr (.inl labelled))
    · split at labelled
      · rename_i object _ appears
        rcases List.mem_append.mp labelled with new | old
        · exact .inr ⟨by simpa using new, .inr ⟨⟨object, rfl⟩, appears⟩⟩
        · exact .inl (List.mem_append.mpr (.inl old))
      · exact .inl (List.mem_append.mpr (.inl labelled))
    · exact .inl (List.mem_append.mpr (.inl labelled))
    · exact .inl (List.mem_append.mpr (.inl labelled))
  · obtain ⟨creation, recorded, rfl⟩ := List.mem_map.mp made
    obtain ⟨recorded, isMachineConfig⟩ := List.mem_filter.mp recorded
    rcases mem_made recorded with old | ⟨k, key, object, ⟨submitted, isCreate, _⟩, _, _, rfl, _, owned⟩
    · exact .inl (List.mem_append.mpr (.inr (List.mem_map.mpr
        ⟨creation, List.mem_filter.mpr ⟨old, isMachineConfig⟩, rfl⟩)))
    · obtain ⟨kind, made, owner⟩ := creation
      obtain rfl : kind = .machineConfig := of_decide_eq_true isMachineConfig
      exact .inr ⟨owned, .inl ⟨submitted, isCreate⟩⟩

theorem Bound.call (answered : Answered s r response s') (bound : Bound (s, g))
    (covered : Binds s r s' → ∀ uid ∈ g.owner, Anchored (s, g) uid) :
    Bound (s', custody.call s r response s' g) := by
  intro uid member
  rcases mem_bound member with old | ⟨owned, binds⟩
  · exact (bound uid old).call answered
  · exact (covered binds uid owned).call answered

end Steps

structure Secured (w : Cluster × Custody) : Prop where
  bound : Bound w
  secured : ∀ uid ∈ w.2.owner, Anchored w uid

structure Fetched (memory : Reconciler) (w : Cluster × Custody) : Prop where
  bound : Bound w
  assigned : 0 < uidOf memory
  held : bearsFinalizer memory.current = true → Anchored w (uidOf memory)

/-- What an assertion survives: a step that keeps the anchors and the request. -/
def Borne (A : Reconciler → Cluster × Custody → Prop) : Prop :=
  ∀ memory s s' (g g' : Custody), (∀ uid, Anchored (s, g) uid → Anchored (s', g') uid) → Bound (s', g') →
    g'.request = g.request → A memory (s, g) → A memory (s', g')

theorem fetched_borne : Borne Fetched :=
  fun _ _ _ _ _ kept bound _ fetched => ⟨bound, fetched.assigned, fun bears => kept _ (fetched.held bears)⟩

theorem entered_borne : Borne (Entered Fetched) := by
  intro memory s s' g g' kept bound request entered
  refine ⟨fetched_borne memory s s' g g' kept bound request entered.fetched, ?_⟩
  rw [Custody.owner, request]
  exact entered.owner

theorem secured_borne : Borne (World Secured) := by
  intro memory s s' g g' kept bound request secured
  refine ⟨bound, fun uid owned => kept uid (Secured.secured secured uid ?_)⟩
  rw [Custody.owner, request] at owned
  exact owned

theorem bound_borne : Borne (World Bound) := fun _ _ _ _ _ _ bound _ _ => bound

def mayBind : Req → Bool
  | .create .machineConfig _ | .update .node _ => true
  | _ => false

theorem not_binds {s s' : Cluster} {r : Req} (free : mayBind r = false) : ¬Binds s r s' := by
  rintro (⟨object, rfl⟩ | ⟨⟨object, rfl⟩, _⟩) <;> cases free

/-- An update of a node that does not give it the role. -/
def Unassuming (change : Node → Option Node) : Prop :=
  ∀ ⦃node next⦄, change node = some next → isLabeledForKata next = true → isLabeledForKata node = true

theorem unlabeled_unassuming : Unassuming unlabeled := by
  intro node next changed _
  simp only [unlabeled, Option.ite_none_right_eq_some] at changed
  exact changed.1

theorem unlabeledDaemonSet_unassuming : Unassuming unlabeledDaemonSet := by
  intro node next changed _
  simp only [unlabeledDaemonSet, Option.ite_none_right_eq_some] at changed
  exact changed.1

theorem labeled_unassuming {key value : String} (other : key ≠ kataOcLabel) : Unassuming (labeled key value) := by
  rintro node _ ⟨rfl⟩ isLabeled
  simpa [isLabeledForKata, setLabel, StrMap.hasKey_insert, other.symm] using isLabeled

theorem labelAppears_update {s s' : Cluster} {change : Node → Option Node} (onlyLabels : OnlyLabels change)
    (unassuming : Unassuming change) {node next : Node} (changed : change node = some next)
    (seen : s.Seen node) {response} (answered : Answered s (.update .node (inScope next)) response s') :
    labelAppears s s' = false := by
  have sameUid : next.metadata.uid = node.metadata.uid := by rw [(onlyLabels changed).1.shape]
  have confined := onlyLabels.confined changed seen answered
    (R := fun before after => after.metadata.uid = before.metadata.uid ∧
      (isLabeledForKata after = true → isLabeledForKata before = true))
    (fun _ => ⟨rfl, id⟩) ⟨sameUid, fun isLabeled => unassuming changed isLabeled⟩
  refine List.any_eq_false.mpr fun after member => ?_
  simp only [Bool.and_eq_true, List.any_eq_true, decide_eq_true_eq, Bool.not_eq_true', not_and, not_exists]
  rintro isLabeled before stored sameUid
  obtain ⟨origin, known, sameOrigin, kept⟩ := confined.origin after member
  rw [Collection.eq_of_uid stored known (sameUid.trans sameOrigin), kept isLabeled]
  simp

section Assertions

variable {settings : Settings} {A : Reconciler → Cluster × Custody → Prop}

section Borne

variable (borne : Borne A) (bound : ∀ memory w, A memory w → Bound w)
include borne bound

theorem Borne.invariant : Invariant (machine settings) contract A where
  stable := by
    rintro memory ⟨s, g⟩ _ ⟨change, rfl, rule⟩ holds
    have kept (uid : Nat) (anchored : Anchored (s, g) uid) : Anchored (change.apply s, g) uid :=
      anchored.imp id fun bore => of_decide_eq_true rule uid bore
    exact borne memory s _ g g kept (fun uid member => kept uid (bound memory _ holds uid member)) rfl holds
  mid := bound

theorem Borne.kept {memory : Reconciler}
    {w w' : Cluster × Custody} {r : Req} {response : Response r} (notMark : ∀ m, r ≠ .mark m)
    (holds : A memory w) (reply : (machine settings).answer w r response w')
    (covered : Binds w.1 r w'.1 → ∀ uid ∈ w.2.owner, Anchored w uid) : A memory w' := by
  obtain ⟨s, g⟩ := w
  obtain ⟨s', answered, rfl, _⟩ := operator_answered reply
  exact borne memory s s' g _ (fun _ => Anchored.call answered) ((bound memory _ holds).call answered covered)
    (custody_request notMark) holds

theorem Borne.admits {r : Req}
    (notMark : ∀ m, r ≠ .mark m) (free : mayBind r = false) : Admits (machine settings) contract A r :=
  fun _ _ holds => ⟨trivial, fun _ _ reply =>
    borne.kept bound notMark holds reply fun binds => absurd binds (not_binds free)⟩

theorem Borne.tolerant (free : Inessential A) :
    Tolerant (machine settings) contract A where
  toInvariant := borne.invariant bound
  reads r reads notMark := by
    refine borne.admits bound notMark ?_
    cases r with
    | get | list | mark => rfl
    | _ => cases reads
  side k side r writes := by
    refine borne.admits bound (writes_not_mark writes) ?_
    cases r with
    | get | list | mark => rfl
    | _ =>
      cases writes
      cases k <;> first | rfl | cases side
  kataNodes := free.1
  imageGenerator := free.2

theorem Borne.passes {point : Point}
    (other : point.isRequest = false) : Passes (machine settings) contract A point := by
  have invariant : Invariant (machine settings) contract A := borne.invariant bound
  refine fun ε => mark_triple (fun _ _ _ => trivial) ?_
  rintro memory ⟨s, g⟩ w' holds answered
  rw [operator_mark answered]
  simp only [custody, other]
  exact holds

end Borne

instance : Invariant (machine settings) contract (World Bound) := bound_borne.invariant fun _ _ => id

instance : Invariant (machine settings) contract (World Secured) :=
  secured_borne.invariant fun _ _ secured => Secured.bound secured

instance : Tolerant (machine settings) contract Fetched :=
  fetched_borne.tolerant (fun _ _ fetched => fetched.bound) ⟨fun _ _ _ fetched => { fetched with },
    fun _ _ _ fetched => { fetched with }⟩

instance : Tolerant (machine settings) contract (Entered Fetched) :=
  entered_borne.tolerant (fun _ _ entered => entered.fetched.bound)
    ⟨fun _ _ _ ⟨fetched, owner⟩ => ⟨{ fetched with }, owner⟩,
    fun _ _ _ ⟨fetched, owner⟩ => ⟨{ fetched with }, owner⟩⟩

theorem secured_admits {r : Req} (notMark : ∀ m, r ≠ .mark m) :
    Admits (machine settings) contract (World Secured) r :=
  fun _ _ secured => ⟨trivial, fun _ _ reply => secured_borne.kept (fun _ _ secured => Secured.bound secured)
    notMark secured reply fun _ => Secured.secured secured⟩

theorem secured_writable (k : Kind) : Writable (machine settings) contract (World Secured) k :=
  fun _ writes => secured_admits (writes_not_mark writes)

instance : Lenient (machine settings) contract (World Secured) :=
  world_lenient fun _ aside => secured_admits (isAside_not_mark aside)

theorem bound_admits {r : Req} (notMark : ∀ m, r ≠ .mark m) (free : mayBind r = false) :
    Admits (machine settings) contract (World Bound) r :=
  bound_borne.admits (fun _ _ => id) notMark free

instance : Lenient (machine settings) contract (World Bound) := by
  refine world_lenient fun r aside => bound_admits (isAside_not_mark aside) ?_
  unfold mayBind
  split
  · cases aside
  · cases aside
  · rfl

theorem bound_writable {k : Kind} (other : k ≠ .machineConfig ∧ k ≠ .node) :
    Writable (machine settings) contract (World Bound) k := by
  intro r writes
  refine bound_admits (writes_not_mark writes) ?_
  unfold mayBind
  split
  · exact absurd (Option.some.inj writes).symm other.1
  · exact absurd (Option.some.inj writes).symm other.2
  · rfl

theorem bound_passes (point : Point) : Passes (machine settings) contract (World Bound) point := by
  refine fun ε => mark_triple (fun _ _ _ => trivial) ?_
  rintro memory ⟨s, g⟩ w' bound reply
  obtain ⟨s', answered, rfl, _⟩ := operator_answered reply
  exact Bound.call answered bound fun binds => absurd binds (not_binds rfl)

theorem bound_updatable {change : Node → Option Node} (onlyLabels : OnlyLabels change)
    (unassuming : Unassuming change) : Updatable (machine settings) contract (World Bound) change := by
  rintro node next memory ⟨s, g⟩ changed bound seen
  refine ⟨trivial, fun response w' reply => ?_⟩
  obtain ⟨s', answered, rfl, _⟩ := operator_answered reply
  refine Bound.call answered bound ?_
  rintro (⟨_, isCreate⟩ | ⟨_, appears⟩)
  · cases isCreate
  · rw [labelAppears_update onlyLabels unassuming changed seen answered] at appears
    cases appears

end Assertions

section Requests

variable {settings : Settings}

instance : KeepsWebhook settings (machine settings) contract (World Bound) :=
  keepsWebhook_of_writable settings fun k webhook => bound_writable (by cases k <;> simp_all [Kind.isWebhook])

instance : KeepsWebhook settings (machine settings) contract (World Secured) :=
  keepsWebhook_of_writable settings fun k _ => secured_writable k

theorem delete_maintains : Maintains (machine settings) contract (World Bound) (deleteBranch settings) := by
  have remove (pool : String) : Maintains (machine settings) contract (World Bound) (removeMc settings pool) :=
    removeMc_maintains settings (fun _ => bound_admits (by simp) rfl) pool
  refine maintains_bind (bound_passes _ _) fun _ => ?_
  refine deleteAndStoreStatus_triple settings (processDeleteRequest_triple settings ?_ ?_)
  · exact (processKataConfigDeleteRequest_maintains settings (fun point _ => bound_passes point)
      (bound_updatable unlabeled_onlyLabels unlabeled_unassuming) remove
      (bound_writable (by decide)).deletable (bound_writable (by decide)).deletable).pre
      fun _ _ holds => holds.1
  · exact (processKataConfigDeleteRequestDaemonSet_maintains settings (fun point _ => bound_passes point)
      (bound_updatable unlabeledDaemonSet_onlyLabels unlabeledDaemonSet_unassuming)
      (bound_updatable (labeled_onlyLabels _) (labeled_unassuming (by decide)))
      (bound_writable (by decide))).given

theorem pledged_borne : Borne (Pledged Bound) := by
  intro memory s s' g g' _ bound request pledged
  refine ⟨bound, pledged.assigned, pledged.bears, ?_⟩
  rw [Custody.owner, request]
  exact pledged.owner

instance : Invariant (machine settings) contract (Pledged Bound) :=
  pledged_borne.invariant fun _ _ pledged => pledged.rest

theorem ensureFinalizer_triple : Triple (machine settings) contract (Entered Fetched) ensureFinalizer
    (Onward (World Secured) fun _ : Except Exit PUnit => World Bound) := by
  have update (memory : Reconciler) : Admits (machine settings) contract (Pledged Bound)
      (.update .kataConfig (inScope memory.current)) :=
    pledged_borne.admits (fun _ _ pledged => pledged.rest) (by simp) rfl
  refine ensureFinalizer_entered (fun _ _ fetched => ⟨fetched.bound, fetched.assigned⟩) ?_
    (updateKataConfig_triple (fun _ _ _ => trivial) ?_ ?_)
  · rintro memory w ⟨fetched, owner⟩ bears
    refine ⟨fetched.bound, fun uid owned => ?_⟩
    rw [owner uid owned]
    exact fetched.held bears
  · rintro memory w answer w' pledged reply
    have after := (update memory memory w pledged).2 _ w' reply
    refine ⟨after.rest, fun uid owned => .inr ?_⟩
    rw [after.owner uid owned]
    exact bearer_of_update reply.1 pledged.assigned pledged.bears
  · exact fun memory w error w' pledged reply => ((update memory memory w pledged).2 _ w' reply).rest

theorem secured_mark : Triple (machine settings) contract Fetched (mark .installRequestDaemonSet : Op Exit PUnit)
    fun _ => World Secured := by
  refine mark_triple (fun _ _ _ => trivial) ?_
  rintro memory ⟨s, g⟩ w' fetched reply
  have bears : bearsFinalizer memory.current = true := reply.2.2
  rw [operator_mark reply]
  refine ⟨fetched.bound, ?_⟩
  rintro uid ⟨rfl⟩
  exact fetched.held bears

theorem installs_triple (status : KataConfigStatus) : Triple (machine settings) contract Fetched
    (installBranch settings status) fun _ => World Bound := by
  have passes {point : Point} (other : point.isRequest = false) :
      Passes (machine settings) contract (World Secured) point :=
    secured_borne.passes (fun _ _ secured => Secured.bound secured) other
  have post : Maintains (machine settings) contract (World Secured) (postKataInstallation settings) :=
    postKataInstallation_maintains settings (passes rfl) (secured_writable _)
      (world_creates (secured_writable _))
  have conclude : Maintains (machine settings) contract (World Secured)
      (concludeInstallationDaemonSet settings) :=
    concludeInstallationDaemonSet_triple settings world_commences (passes rfl) post fun _ _ _ => id
  refine installBranch_triple settings (processInstallRequest_triple settings ?_ ?_) status
  · refine Triple.pre (P := Fetched) ?_ fun _ _ holds => holds.1
    exact processKataConfigInstallRequest_triple settings
      (entered_mark rfl (fun _ _ _ => trivial) fun _ _ _ _ fetched => { fetched with }) ensureFinalizer_triple world_commences
      (fun _ => passes rfl) (fun _ => (secured_writable _).updatable _)
      (createMc_maintains settings (secured_writable _)) (ensureKataOcPool_maintains (secured_writable _))
      (post.post fun _ _ _ secured => Secured.bound secured) (fun _ _ _ entered => entered.fetched.bound)
      fun _ _ _ secured => Secured.bound secured
  · refine Triple.pre (P := Fetched) ?_ fun _ _ holds => holds.1
    refine Triple.bind secured_mark (fun _ => ?_) fun _ _ _ secured => Secured.bound secured
    refine Triple.post (Q := fun _ => World Secured) ?_ fun _ _ _ secured => Secured.bound secured
    refine maintains_bind (prepareInstallationDaemonSet_maintains settings
      fun _ => (secured_writable _).updatable _) fun ds => ?_
    exact maintains_bind (ensureInstallDaemonSet_maintains world_commences ((secured_writable _).updatable _)
      (secured_writable _) ds) fun _ => conclude

theorem fetch_triple (key : Key) : Triple (machine settings) contract (World Bound) (fetchKataConfig key)
    (AfterFetch (fun _ => Fetched) (World Bound)) := by
  refine fetchKataConfig_triple (fun _ _ => id) (fun _ _ _ => trivial) ?_ ?_
  · rintro memory ⟨s, g⟩ kataConfig ⟨s', _⟩ bound ⟨answered, rfl, _⟩
    obtain ⟨rfl, found⟩ := answered.get_ok
    obtain ⟨member, _⟩ := Collection.find?_mem found
    exact ⟨bound, uid_pos member, fun bears => .inr (mem_bearers.mpr ⟨kataConfig, member, bears, rfl⟩)⟩
  · rintro memory ⟨s, g⟩ error w' bound reply
    obtain ⟨s', answered, rfl, _⟩ := operator_answered reply
    have kept : World Bound memory (s', g) := Bound.call answered bound fun binds => absurd binds (not_binds rfl)
    exact ⟨kept, kept⟩

theorem reconcile_triple (key : Key) :
    Triple (machine settings) contract (World Bound) (reconcileRoutine settings key) fun _ => World Bound := by
  refine reconcileRoutine_triple (fun _ => Fetched) (fun _ => Fetched) settings (fetch_triple key) ?_ ?_ ?_
    fun _ _ _ fetched => fetched.bound
  · have writable : Writable (machine settings) contract Fetched .runtimeClass := by
      intro r writes
      refine fetched_borne.admits (fun _ _ fetched => fetched.bound) (writes_not_mark writes) ?_
      unfold mayBind
      split
      · cases writes
      · cases writes
      · rfl
    have classes : KeepsClasses settings (machine settings) contract Fetched :=
      writable.keepsClasses settings fun _ _ _ fetched => { fetched with }
    have image : ImageFree Fetched := ⟨fun _ _ _ fetched => { fetched with }⟩
    have prepare : Maintains (machine settings) contract Fetched (prepareReconcile settings) :=
      prepareReconcile_maintains settings classes fun _ _ _ fetched => { fetched with }
    exact fun _ => prepare.onward fun _ _ _ fetched => fetched.bound
  · exact fun _ => delete_maintains.pre fun _ _ holds => holds.1.bound
  · exact fun status => (installs_triple status).given

end Requests

theorem sound (settings : Settings) :
    (system settings).Sound (initially {}) contract (World Bound) fun outcome => World Bound outcome.2 := by
  refine operator_sound (fun _ => World Bound) (fun _ => World Bound) ?_
    (fun _ _ _ bound _ => bound) reconcile_triple (fun _ _ _ bound _ => bound) fun _ bound _ => bound
  rintro ⟨s, g⟩ ⟨_, rfl⟩
  exact fun _ member => absurd member List.not_mem_nil

end FinalizerFirst

/-- If requests to install through DaemonSets find the finalizer in place, and nobody else
takes it away, then a `KataConfig` on behalf of which a node was labelled or a
MachineConfig created carries the finalizer until the operator removes it. -/
theorem finalizer_precedes (settings : Settings) {phase : Phase Req Response Reconciler Exit}
    {w : Cluster × Custody}
    (reached : (operator settings custody finalizerInPlace).Reachable (initially {}) (phase, w))
    {uid : Nat} (bound : uid ∈ w.2.bound) (unreleased : uid ∉ w.2.released) :
    ∃ kataConfig ∈ kataConfigs w.1, bearsFinalizer kataConfig = true ∧ kataConfig.metadata.uid = uid := by
  have holds : FinalizerFirst.Bound w := by
    have holds := (FinalizerFirst.sound settings).holds reached
    cases phase with
    | idle memory => exact holds
    | running program => exact Safe.mid holds
  exact mem_bearers.mp ((holds uid bound).resolve_left unreleased)

/-- Through MachineConfigs: the node has been labelled, the user deletes the `KataConfig`,
and it stays. -/
theorem finalizer_precedes_labelled : ∃ (w : Cluster × Custody) (uid : Nat), uid ∈ w.2.bound ∧
    ∃ kataConfig ∈ kataConfigs w.1, bearsFinalizer kataConfig = true ∧ kataConfig.metadata.uid = uid := by
  have ends : endsIn plainSettings custody finalizerInPlace {}
      (machineConfigCluster exampleNode ++ others [.create .kataConfig exampleKataConfig] ++
        [.start exampleKey] ++ answered 26 ++ others [.delete .kataConfig exampleKey])
      (fun w => decide (∃ uid ∈ w.2.bound, uid ∉ w.2.released)) = true := by
    decide +kernel
  obtain ⟨phase, w, reached, checked⟩ := reachable_of_endsIn ends
  obtain ⟨uid, bound, unreleased⟩ := of_decide_eq_true checked
  exact ⟨w, uid, bound, finalizer_precedes plainSettings reached bound unreleased⟩

/-- Through DaemonSets: the node has been labelled, the user deletes the `KataConfig`, and
it is gone although the operator has released nothing. -/
theorem label_precedes_finalizer : ∃ phase w,
    (operator plainSettings custody {}).Reachable (initially {}) (phase, w) ∧
      w.2.labelled ≠ [] ∧ w.2.released = [] ∧ kataConfigs w.1 = [] := by
  have ends : endsIn plainSettings custody {} {}
      (daemonSetCluster ++ others [.create .kataConfig exampleKataConfig] ++ [.start exampleKey] ++
        answered 16 ++ others [.delete .kataConfig exampleKey])
      (fun w => !w.2.labelled.isEmpty && (w.2.released.isEmpty && (kataConfigs w.1).isEmpty)) = true := by
    decide +kernel
  obtain ⟨phase, w, reached, checked⟩ := reachable_of_endsIn ends
  exact ⟨phase, w, reached, by simpa using checked⟩

end SandboxedContainers
