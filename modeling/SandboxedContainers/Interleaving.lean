import SandboxedContainers.Runs

/-!
# Installation never follows uninstallation

Once a reconciliation has taken the delete branch for a `KataConfig`, no later
one runs an install request for it.  The invariant says of every stored
`KataConfig` for which the delete branch was taken that its deletion timestamp
is set and that its status declares no installation and no update under way: the
conditions the branch tests.
-/

namespace SandboxedContainers

open Lib Routine

/-- Whether the status says that an installation or an update is under way. -/
def KataConfigStatus.isUnderway (status : KataConfigStatus) : Bool :=
  status.isInstalling || status.isUpdating

def deleteBranches : Monitor (List Nat) where
  call _ r _ _ begun := match r with
    | .mark ⟨.deleteBranch, kataConfig⟩ => kataConfig.metadata.uid :: begun
    | _ => begun

def isInstallRequest : Point → Bool
  | .installRequest | .installRequestDaemonSet => true
  | _ => false

namespace Interleaving

/-- The branch condition of `reconcile` leads to the delete branch. -/
def Leaving (kataConfig : KataConfig) : Prop :=
  kataConfig.metadata.deletionTimestamp = true ∧ (statusOf kataConfig).isUnderway = false

structure Settled (w : Cluster × List Nat) : Prop where
  known : ∀ uid ∈ w.2, uid ≤ w.1.version
  leaving : ∀ kataConfig ∈ kataConfigs w.1, kataConfig.metadata.uid ∈ w.2 → Leaving kataConfig

def contract : Contract Req (Cluster × List Nat) where
  good w r := ∀ m, r = .mark m → isInstallRequest m.point = true → m.kataConfig.metadata.uid ∉ w.2
  mid := Settled

section

variable (settings : Settings)

abbrev system := operator settings deleteBranches ownStatus

abbrev machine := (system settings).toMachine

end

theorem Settled.kept {s s' : Cluster} {begun : List Nat} (settled : Settled (s, begun))
    (kept : StatusKept s s') : Settled (s', begun) := by
  refine ⟨fun uid member => (settled.known uid member).trans kept.1, fun after member begunBefore => ?_⟩
  rcases kept.2 after member with ⟨fresh, _⟩ | ⟨before, old, continues, same⟩
  · exact absurd (settled.known _ begunBefore) (Nat.not_le.mpr fresh)
  · have leaving := settled.leaving before old (continues.uid ▸ begunBefore)
    exact ⟨continues.deletion leaving.1, by rw [statusOf_eq, same]; exact leaving.2⟩

/-- Between fetching the `KataConfig` and branching: what is stored under its uid
agrees with what the reconciler holds. -/
structure Fetched (memory : Reconciler) (w : Cluster × List Nat) : Prop where
  settled : Settled w
  assigned : 0 < uidOf memory ∧ uidOf memory ≤ w.1.version
  agrees : ∀ kataConfig ∈ kataConfigs w.1, kataConfig.metadata.uid = uidOf memory →
    (memory.current.metadata.deletionTimestamp = true →
      kataConfig.metadata.deletionTimestamp = true) ∧
    (statusOf kataConfig).isUnderway = memory.status.isUnderway
  branches : uidOf memory ∈ w.2 →
    memory.current.metadata.deletionTimestamp = true ∧ memory.status.isUnderway = false

structure Deleting (memory : Reconciler) (w : Cluster × List Nat) : Prop where
  settled : Settled w
  assigned : 0 < uidOf memory
  begun : uidOf memory ∈ w.2
  idle : memory.status.isUnderway = false

structure Installing (memory : Reconciler) (w : Cluster × List Nat) : Prop where
  settled : Settled w
  assigned : 0 < uidOf memory
  notBegun : uidOf memory ∉ w.2

theorem Fetched.kept {memory : Reconciler} {s s' : Cluster} {begun : List Nat}
    (fetched : Fetched memory (s, begun)) (kept : StatusKept s s') : Fetched memory (s', begun) where
  settled := fetched.settled.kept kept
  assigned := ⟨fetched.assigned.1, fetched.assigned.2.trans kept.1⟩
  agrees := by
    intro after member sameUid
    rcases kept.2 after member with ⟨fresh, _⟩ | ⟨before, old, continues, same⟩
    · exact absurd fetched.assigned.2 (Nat.not_le.mpr (sameUid ▸ fresh))
    · obtain ⟨deleted, underway⟩ := fetched.agrees before old (continues.uid ▸ sameUid)
      exact ⟨fun wanted => continues.deletion (deleted wanted), by rw [statusOf_eq, same]; exact underway⟩
  branches := fetched.branches

theorem Deleting.kept {memory : Reconciler} {s s' : Cluster} {begun : List Nat}
    (deleting : Deleting memory (s, begun)) (kept : StatusKept s s') : Deleting memory (s', begun) :=
  ⟨deleting.settled.kept kept, deleting.assigned, deleting.begun, deleting.idle⟩

theorem Installing.kept {memory : Reconciler} {s s' : Cluster} {begun : List Nat}
    (installing : Installing memory (s, begun)) (kept : StatusKept s s') :
    Installing memory (s', begun) :=
  ⟨installing.settled.kept kept, installing.assigned, installing.notBegun⟩

section Assertions

variable {settings : Settings} {A : Reconciler → Cluster × List Nat → Prop}

/-- The assertion survives whatever leaves the stored statuses alone. -/
structure Carried (A : Reconciler → Cluster × List Nat → Prop) : Prop where
  settled : ∀ memory w, A memory w → Settled w
  kept : ∀ memory s s' begun, StatusKept s s' → A memory (s, begun) → A memory (s', begun)

theorem Carried.invariant (carried : Carried A) : Invariant (machine settings) contract A where
  stable := by
    rintro memory ⟨s, begun⟩ _ ⟨change, rfl, foreign⟩ holds
    exact carried.kept memory s _ begun (Change.apply_statusKept s foreign) holds
  mid := carried.settled

theorem Carried.admits (carried : Carried A) {r : Req} (quiet : writesStatus r = false)
    (notMark : ∀ m, r ≠ .mark m) : Admits (machine settings) contract A r := by
  rintro memory ⟨s, begun⟩ holds
  refine ⟨good_of_not_mark notMark, ?_⟩
  rintro response ⟨s', begun'⟩ ⟨answered, recorded, _⟩
  obtain rfl : begun' = begun := by
    cases r with
    | mark m => exact absurd rfl (notMark m)
    | _ => exact recorded
  exact carried.kept memory s s' _ (answered.statusKept quiet) holds

theorem writesStatus_of_ne {r : Req} {k : Kind} (other : k ≠ .kataConfig)
    (writes : r.writes = some k) : writesStatus r = false ∧ ∀ m, r ≠ .mark m := by
  cases r <;> simp_all [Request.writes, writesStatus]

theorem writesStatus_of_none {r : Req} (reads : r.writes = none) : writesStatus r = false := by
  cases r <;> simp_all [Request.writes, writesStatus]

theorem Carried.writable (carried : Carried A) {k : Kind} (other : k ≠ .kataConfig) :
    Writable (machine settings) contract A k :=
  fun _ writes =>
    carried.admits (writesStatus_of_ne other writes).1 (writesStatus_of_ne other writes).2

theorem Carried.tolerant (carried : Carried A) (free : Inessential A) :
    Tolerant (machine settings) contract A where
  toInvariant := carried.invariant
  reads _ reads notMark := carried.admits (writesStatus_of_none reads) notMark
  side k side := carried.writable (by rintro rfl; simp [Kind.isSide] at side)
  kataNodes := free.1
  imageGenerator := free.2

theorem Carried.keepsWebhook [Tolerant (machine settings) contract A] (carried : Carried A) :
    KeepsWebhook settings (machine settings) contract A :=
  keepsWebhook_of_writable settings fun _ webhook =>
    carried.writable (by rintro rfl; simp [Kind.isWebhook] at webhook)

theorem fetched_carried : Carried Fetched :=
  ⟨fun _ _ fetched => fetched.settled, fun _ _ _ _ kept fetched => fetched.kept kept⟩

theorem deleting_carried : Carried Deleting :=
  ⟨fun _ _ deleting => deleting.settled, fun _ _ _ _ kept deleting => deleting.kept kept⟩

theorem installing_carried : Carried Installing :=
  ⟨fun _ _ installing => installing.settled, fun _ _ _ _ kept installing => installing.kept kept⟩

end Assertions

section Writes

variable {settings : Settings} {s s' : Cluster} {begun begun' : List Nat} {object : KataConfig}

/-- A status update that declares nothing under way is harmless, and so is one
of a `KataConfig` that is not being deleted. -/
theorem Settled.updateStatus (settled : Settled (s, begun)) {response}
    (answered : Answered s (.updateStatus .kataConfig object) response s')
    (assigned : 0 < object.metadata.uid)
    (harmless : object.metadata.uid ∈ begun → (statusOf object).isUnderway = false) :
    Settled (s', begun) := by
  refine ⟨fun uid member => (settled.known uid member).trans answered.version_le, ?_⟩
  intro after member begunBefore
  obtain ⟨before, old, continues, same | ⟨sameUid, same⟩⟩ := answered.statusWritten assigned member
  · have leaving := settled.leaving before old (continues.uid ▸ begunBefore)
    exact ⟨continues.deletion leaving.1, by rw [statusOf_eq, same]; exact leaving.2⟩
  · have leaving := settled.leaving before old (continues.uid ▸ begunBefore)
    refine ⟨continues.deletion leaving.1, ?_⟩
    rw [statusOf_eq, same]
    exact harmless (sameUid ▸ begunBefore)

theorem isUnderway_of_conditions {first second : KataConfigStatus}
    (same : first.conditions = second.conditions) : first.isUnderway = second.isUnderway := by
  simp only [KataConfigStatus.isUnderway, KataConfigStatus.isInstalling,
    KataConfigStatus.isUpdating, KataConfigStatus.hasReason,
    KataConfigStatus.findInProgressCondition, same]

theorem isUnderway_decode {answer held : KataConfigStatus} (answered : answer.isUnderway = false)
    (holds : held.isUnderway = false) : (answer.decode held).isUnderway = false := by
  by_cases absent : answer.conditions.isEmpty = true
  · have same : (answer.decode held).conditions = held.conditions := by
      simp [KataConfigStatus.decode, decodeList, absent]
    rw [isUnderway_of_conditions same]
    exact holds
  · have same : (answer.decode held).conditions = answer.conditions := by
      simp [KataConfigStatus.decode, decodeList, absent]
    rw [isUnderway_of_conditions same]
    exact answered

theorem isUnderway_setInProgress {reason : String} (notInstalling : reason ≠ "Installing")
    (notUpdating : reason ≠ "Updating") (value : ConditionStatus) (message : String)
    (status : KataConfigStatus) : (status.setInProgress value reason message).isUnderway = false := by
  simp [KataConfigStatus.isUnderway, KataConfigStatus.isInstalling, KataConfigStatus.isUpdating,
    notInstalling, notUpdating]

theorem stored_status {memory : Reconciler} {answer : KataConfig} (assigned : 0 < uidOf memory)
    (answered : Answered s (.updateStatus .kataConfig (inScope memory.current)) (.ok answer) s') :
    uidOf (memory.setKataConfig (decodeKataConfig answer memory.current)) = uidOf memory ∧
      (memory.setKataConfig (decodeKataConfig answer memory.current)).status = memory.status := by
  obtain ⟨stored, _, current, rfl, _⟩ := answered.updateStatus_ok
  have sameUid : stored.metadata.uid = uidOf memory := Store.uid_eq_of_not_stale current assigned
  exact ⟨sameUid, statusOf_decodeKataConfig_of_eq rfl⟩

theorem updated_kataConfig {memory : Reconciler} {answer : KataConfig} (assigned : 0 < uidOf memory)
    (answered : Answered s (.update .kataConfig (inScope memory.current)) (.ok answer) s') :
    uidOf (memory.setKataConfig (decodeKataConfig answer memory.current)) = uidOf memory ∧
      ∃ stored ∈ kataConfigs s, stored.metadata.uid = uidOf memory ∧
        storedStatus answer = storedStatus stored := by
  obtain ⟨stored, found, current, rfl, _⟩ := answered.update_ok
  have sameUid := Store.uid_eq_of_not_stale current assigned
  exact ⟨sameUid, stored, (Collection.find?_mem found).1, sameUid, rfl⟩

end Writes

section Branches

variable {settings : Settings}

instance : Tolerant (machine settings) contract Fetched :=
  fetched_carried.tolerant ⟨fun _ _ _ fetched => { fetched with }, fun _ _ _ fetched => { fetched with }⟩

instance : ImageFree Fetched :=
  ⟨fun _ _ _ fetched => { fetched with }⟩

instance : Tolerant (machine settings) contract Deleting :=
  deleting_carried.tolerant ⟨fun _ _ _ deleting => { deleting with },
    fun _ _ _ deleting => { deleting with }⟩

instance : ImageFree Deleting :=
  ⟨fun _ _ _ deleting => { deleting with }⟩

instance : Tolerant (machine settings) contract Installing :=
  installing_carried.tolerant ⟨fun _ _ _ installing => { installing with },
    fun _ _ _ installing => { installing with }⟩

instance : ImageFree Installing :=
  ⟨fun _ _ _ installing => { installing with }⟩

theorem deleting_stores : Maintains (machine settings) contract Deleting updateKataConfigStatus := by
  refine updateKataConfigStatus_triple (fun _ _ _ _ isMark => nomatch isMark) ?_ ?_
  · rintro memory ⟨s, begun⟩ answer ⟨s', _⟩ deleting ⟨answered, rfl, _⟩
    obtain ⟨sameUid, sameStatus⟩ := stored_status deleting.assigned answered
    refine ⟨deleting.settled.updateStatus answered deleting.assigned fun _ => deleting.idle, ?_, ?_, ?_⟩
    · rw [sameUid]
      exact deleting.assigned
    · rw [sameUid]
      exact deleting.begun
    · rw [sameStatus]
      exact deleting.idle
  · rintro memory ⟨s, begun⟩ error ⟨s', _⟩ deleting ⟨answered, rfl, _⟩
    exact ⟨deleting.settled.updateStatus answered deleting.assigned fun _ => deleting.idle,
      deleting.assigned, deleting.begun, deleting.idle⟩

theorem deleting_updates : Maintains (machine settings) contract Deleting updateKataConfig := by
  refine updateKataConfig_triple (fun _ _ _ _ isMark => nomatch isMark) ?_ ?_
  · rintro memory ⟨s, begun⟩ answer ⟨s', _⟩ deleting ⟨answered, rfl, _⟩
    obtain ⟨sameUid, stored, member, storedUid, sameStatus⟩ :=
      updated_kataConfig deleting.assigned answered
    have leaving := deleting.settled.leaving stored member (storedUid ▸ deleting.begun)
    refine ⟨deleting.settled.kept (answered.statusKept rfl), ?_, ?_, ?_⟩
    · rw [sameUid]
      exact deleting.assigned
    · rw [sameUid]
      exact deleting.begun
    · change (statusOf (decodeKataConfig answer memory.current)).isUnderway = false
      rw [statusOf_decodeKataConfig, sameStatus]
      have storedIdle := leaving.2
      rw [statusOf_eq] at storedIdle
      cases written : storedStatus stored with
      | none => exact deleting.idle
      | some status =>
        rw [written] at storedIdle
        exact isUnderway_decode storedIdle deleting.idle
  · rintro memory ⟨s, begun⟩ error ⟨s', _⟩ deleting ⟨answered, rfl, _⟩
    exact deleting.kept (answered.statusKept rfl)

instance : Lenient (machine settings) contract Deleting where
  conditions _ value _ message notInstalling notUpdating :=
    maintains_modify fun _ _ deleting => ⟨deleting.settled, deleting.assigned, deleting.begun,
      isUnderway_setInProgress notInstalling notUpdating value message _⟩
  modes _ _ _ deleting := { deleting with }
  waiting _ _ _ deleting := { deleting with }
  finalizers _ _ _ := maintains_modify fun _ _ deleting =>
    { deleting with }
  stores := deleting_stores
  updates := deleting_updates

theorem installing_stores : Maintains (machine settings) contract Installing updateKataConfigStatus := by
  refine updateKataConfigStatus_triple (fun _ _ _ _ isMark => nomatch isMark) ?_ ?_
  · rintro memory ⟨s, begun⟩ answer ⟨s', _⟩ installing ⟨answered, rfl, _⟩
    obtain ⟨sameUid, _⟩ := stored_status installing.assigned answered
    refine ⟨installing.settled.updateStatus answered installing.assigned fun begun =>
      absurd begun installing.notBegun, ?_, ?_⟩
    · rw [sameUid]
      exact installing.assigned
    · rw [sameUid]
      exact installing.notBegun
  · rintro memory ⟨s, begun⟩ error ⟨s', _⟩ installing ⟨answered, rfl, _⟩
    exact ⟨installing.settled.updateStatus answered installing.assigned fun begun =>
      absurd begun installing.notBegun, installing.assigned, installing.notBegun⟩

theorem installing_updates : Maintains (machine settings) contract Installing updateKataConfig := by
  refine updateKataConfig_triple (fun _ _ _ _ isMark => nomatch isMark) ?_ ?_
  · rintro memory ⟨s, begun⟩ answer ⟨s', _⟩ installing ⟨answered, rfl, _⟩
    obtain ⟨sameUid, _⟩ := updated_kataConfig installing.assigned answered
    refine ⟨installing.settled.kept (answered.statusKept rfl), ?_, ?_⟩
    · rw [sameUid]
      exact installing.assigned
    · rw [sameUid]
      exact installing.notBegun
  · rintro memory ⟨s, begun⟩ error ⟨s', _⟩ installing ⟨answered, rfl, _⟩
    exact installing.kept (answered.statusKept rfl)

theorem installing_status (change : KataConfigStatus → KataConfigStatus) {ε : Type} :
    Maintains (machine settings) contract Installing (setStatus change : Op ε PUnit) :=
  maintains_modify fun _ _ installing =>
    { installing with }

instance : Lenient (machine settings) contract Installing where
  conditions _ _ _ _ _ _ := installing_status _
  modes _ _ _ installing := { installing with }
  waiting _ _ _ installing := { installing with }
  finalizers _ _ _ := maintains_modify fun _ _ installing =>
    { installing with }
  stores := installing_stores
  updates := installing_updates

theorem passes {A : Reconciler → Cluster × List Nat → Prop}
    [Invariant (machine settings) contract A] {point : Point} (other : point ≠ .deleteBranch)
    (good : ∀ memory w, A memory w → isInstallRequest point = true → uidOf memory ∉ w.2) :
    Passes (machine settings) contract A point := by
  refine fun ε => mark_triple ?_ ?_
  · rintro memory w holds _ ⟨rfl⟩ install
    exact good memory w holds install
  · rintro memory ⟨s, begun⟩ w' holds answered
    rw [operator_mark answered]
    cases point <;> first | exact holds | exact absurd rfl other

theorem deleteBranch_triple {ε : Type} :
    Triple (machine settings) contract (fun memory w => Fetched memory w ∧
      memory.current.metadata.deletionTimestamp = true ∧ memory.status.isUnderway = false)
      (mark .deleteBranch : Op ε PUnit) fun _ => Deleting := by
  have invariant := Invariant.and (A := Fetched) (M := machine settings) (C := contract)
    fun memory => memory.current.metadata.deletionTimestamp = true ∧ memory.status.isUnderway = false
  refine mark_triple ?_ ?_
  · rintro memory w _ _ ⟨rfl⟩ install
    cases install
  · rintro memory ⟨s, begun⟩ w' ⟨fetched, deleted, idle⟩ answered
    rw [operator_mark answered]
    refine ⟨⟨?_, ?_⟩, fetched.assigned.1, List.mem_cons_self, idle⟩
    · intro uid member
      rcases List.mem_cons.mp member with rfl | old
      · exact fetched.assigned.2
      · exact fetched.settled.known uid old
    · intro kataConfig stored member
      rcases List.mem_cons.mp member with same | old
      · obtain ⟨deletion, underway⟩ := fetched.agrees kataConfig stored same
        exact ⟨deletion deleted, underway.trans idle⟩
      · exact fetched.settled.leaving kataConfig stored old

def Resting (_ : Reconciler) (w : Cluster × List Nat) : Prop := Settled w

theorem resting_carried : Carried Resting :=
  ⟨fun _ _ => id, fun _ _ _ _ kept settled => Settled.kept settled kept⟩

instance : Invariant (machine settings) contract Resting := resting_carried.invariant

theorem fetched_of_stored {memory : Reconciler} {s : Cluster} {begun : List Nat}
    {kataConfig : KataConfig} (settled : Settled (s, begun)) (member : kataConfig ∈ kataConfigs s) :
    Fetched (memory.setKataConfig kataConfig) (s, begun) where
  settled := settled
  assigned := ⟨uid_pos member, uid_le_version member⟩
  agrees other stored sameUid := by
    obtain rfl := Collection.eq_of_uid stored member sameUid
    exact ⟨id, rfl⟩
  branches begunBefore := settled.leaving kataConfig member begunBefore

theorem deleting_maintains : Maintains (machine settings) contract Deleting
    (deleteAndStoreStatus settings) := by
  have pass (daemonSets : Bool) (point : Point) (uninstalls : point.uninstalls daemonSets = true) :
      Passes (machine settings) contract Deleting point :=
    passes (by rintro rfl; cases uninstalls) fun _ _ _ isInstall => by cases point <;> simp_all [isInstallRequest, Point.uninstalls]
  have writable (k : Kind) (other : k ≠ .kataConfig) :
      Writable (machine settings) contract Deleting k := deleting_carried.writable other
  have webhook : KeepsWebhook settings (machine settings) contract Deleting :=
    deleting_carried.keepsWebhook
  exact deleteAndStoreStatus_triple settings (processDeleteRequest_maintains settings pass
    (writable _ (by decide)) (removeMc_maintains settings (writable _ (by decide)).deletable)
    (writable _ (by decide)) (writable _ (by decide)).deletable)

theorem installing_maintains (oldObjStatus : KataConfigStatus) :
    Maintains (machine settings) contract Installing (installBranch settings oldObjStatus) := by
  have pass (daemonSets : Bool) (point : Point) (installs : point.installs daemonSets = true) :
      Passes (machine settings) contract Installing point :=
    passes (by rintro rfl; cases installs) fun _ _ installing _ => installing.notBegun
  have commences : Commences (machine settings) contract Installing :=
    ⟨installing_status _, installing_status _⟩
  have writable (k : Kind) (other : k ≠ .kataConfig) :
      Writable (machine settings) contract Installing k := installing_carried.writable other
  have webhook : KeepsWebhook settings (machine settings) contract Installing :=
    installing_carried.keepsWebhook
  have classes : KeepsClasses settings (machine settings) contract Installing :=
    (writable _ (by decide)).keepsClasses settings fun _ _ _ installing =>
      { installing with }
  exact installBranch_maintains settings commences pass (fun _ => (writable _ (by decide)).updatable _)
    ((writable _ (by decide)).updatable _) (createMc_maintains settings (writable _ (by decide)))
    (writable _ (by decide)) (writable _ (by decide)) classes.creates oldObjStatus

theorem deleteBranch_deleting : Triple (machine settings) contract (fun memory w => Fetched memory w ∧
      memory.current.metadata.deletionTimestamp = true ∧ memory.status.isUnderway = false)
      (deleteBranch settings) fun _ => Deleting :=
  Triple.bind deleteBranch_triple (fun _ => deleting_maintains) fun _ _ _ => id

theorem fetch_triple (key : Key) : Triple (machine settings) contract Resting (fetchKataConfig key)
    (AfterFetch (fun _ => Fetched) Resting) := by
  refine fetchKataConfig_triple (fun _ _ => id) ?_ ?_ ?_
  · exact fun _ _ _ _ isMark => nomatch isMark
  · rintro memory ⟨s, begun⟩ kataConfig ⟨s', _⟩ settled ⟨answered, rfl, _⟩
    obtain ⟨rfl, found⟩ := answered.get_ok
    exact fetched_of_stored settled (Collection.find?_mem found).1
  · rintro memory ⟨s, begun⟩ error ⟨s', _⟩ settled ⟨answered, rfl, _⟩
    have kept := Settled.kept settled (answered.statusKept rfl)
    exact ⟨kept, kept⟩

theorem reconcile_resting (key : Key) :
    Triple (machine settings) contract Resting (reconcileRoutine settings key) fun _ => Resting := by
  refine reconcileRoutine_triple (fun _ => Fetched) (fun _ => Fetched) settings (fetch_triple key) ?_ ?_ ?_
    fun _ _ _ fetched => fetched.settled
  · have classes : KeepsClasses settings (machine settings) contract Fetched :=
      (fetched_carried.writable (by decide)).keepsClasses settings fun _ _ _ fetched =>
        { fetched with }
    have prepare : Maintains (machine settings) contract Fetched (prepareReconcile settings) :=
      prepareReconcile_maintains settings classes fun _ _ _ fetched => { fetched with }
    exact fun _ => prepare.onward fun _ _ _ fetched => fetched.settled
  · intro status
    refine (deleteBranch_deleting.pre ?_).post fun _ _ _ deleting => deleting.settled
    rintro memory w ⟨fetched, leaves⟩
    simp only [Reconciler.leaves, Bool.and_eq_true, Bool.not_eq_true'] at leaves
    exact ⟨fetched, leaves.1.1, by simp [KataConfigStatus.isUnderway, leaves.1.2, leaves.2]⟩
  · intro status
    refine ((installing_maintains status).pre ?_).post fun _ _ _ installing => installing.settled
    rintro memory w ⟨fetched, stays⟩
    refine ⟨fetched.settled, fetched.assigned.1, fun begun => ?_⟩
    obtain ⟨deleted, idle⟩ := fetched.branches begun
    simp only [KataConfigStatus.isUnderway, Bool.or_eq_false_iff] at idle
    simp [Reconciler.leaves, deleted, idle.1, idle.2] at stays

end Branches

theorem sound (settings : Settings) :
    (system settings).Sound (initially []) contract Resting fun outcome => Resting outcome.2 := by
  refine operator_sound (fun _ => Resting) (fun _ => Resting) ?_
    (fun _ _ _ settled _ => settled) reconcile_resting (fun _ _ _ settled _ => settled)
    fun _ settled _ => settled
  rintro ⟨s, begun⟩ ⟨noObjects, rfl⟩
  exact ⟨fun _ member => absurd member List.not_mem_nil, fun _ _ member => absurd member List.not_mem_nil⟩

end Interleaving

/-- Whatever fails, crashes, is edited or switched, as long as only the operator
writes statuses: an install request is only run for a `KataConfig` for which no
reconciliation has taken the delete branch. -/
theorem no_install_after_deleteBranch (settings : Settings) {w : Cluster × List Nat} {m : Mark}
    (issued : (operator settings deleteBranches ownStatus).Issues (initially []) w (.mark m))
    (install : isInstallRequest m.point = true) : m.kataConfig.metadata.uid ∉ w.2 :=
  (Interleaving.sound settings).good issued m rfl install

/-- The `KataConfig` is deleted, its finalizer goes and with it the object, and
one of the same name is created: it is installed, under a uid of its own. -/
theorem no_install_after_deleteBranch_recreated : ∃ w m,
    (operator plainSettings deleteBranches ownStatus).Issues (initially []) w (.mark m) ∧
      w.2 ≠ [] ∧ m.kataConfig.metadata.uid ∉ w.2 := by
  have ends : endsAtMark plainSettings deleteBranches ownStatus []
      (others [.create .kataConfig { exampleKataConfig with
          metadata := { exampleKataConfig.metadata with finalizers := [kataConfigFinalizer] } },
        .delete .kataConfig exampleKey] ++ [.start exampleKey] ++ answered 13 ++ [.crash] ++
        others [.update .kataConfig exampleKataConfig, .create .kataConfig exampleKataConfig] ++
        [.start exampleKey] ++ answered 12)
      (fun w m => !w.2.isEmpty && isInstallRequest m.point) = true := by decide +kernel
  obtain ⟨w, m, issued, checked⟩ := issues_of_endsAtMark ends
  obtain ⟨begun, install⟩ := Bool.and_eq_true_iff.mp checked
  exact ⟨w, m, issued, by simpa using begun, no_install_after_deleteBranch plainSettings issued install⟩

end SandboxedContainers
