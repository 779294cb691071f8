import SandboxedContainers.Runs

/-!
# Agents racing with the operator's labels

The operator creates an install or uninstall DaemonSet and then gives the nodes
the state its agents start from.  The agents may be faster.  An update is refused
if the node changed after it was listed, so a report is lost only if it comes
between the creation of the DaemonSet and the list.
-/

namespace SandboxedContainers

open Lib Routine

def KataDaemonSetAction.initialState : KataDaemonSetAction → KataInstallationDaemonSetState
  | .installKata => .waitingToInstall
  | .uninstallKata => .waitingToUninstall

def actionOf (key : Key) : Option KataDaemonSetAction :=
  [KataDaemonSetAction.installKata, .uninstallKata].find? fun action => daemonSetKey action = key

structure LabelRace where
  /-- The DaemonSet this reconciliation has created. -/
  created : Option KataDaemonSetAction := none
  /-- The version at which the nodes were listed for the first time since. -/
  listedAt : Option Nat := none
  /-- The nodes whose agent has reported the end of its work since. -/
  reported : List Nat := []

def reports (state : KataInstallationDaemonSetState) : Req → Bool
  | .patch .node _ labels _ => labels.contains (kataInstallationDaemonSetLabel, some state.text)
  | _ => false

/-- Whether the request is the final report of an agent of the created DaemonSet. -/
def LabelRace.isFinalReport (race : LabelRace) (r : Req) : Bool :=
  race.created.any fun action => reports action.finalState r

def labelRace : Monitor LabelRace where
  start _ _ _ := {}
  call s r response _ race := match r, response with
    | .create .daemonSet ds, .ok _ => match actionOf ds.key with
        | some action => { created := some action }
        | none => race
    | .list .node _, _ => { race with listedAt := race.listedAt.or (some s.version) }
    | _, _ => race
  env s change _ race := match change with
    | .request (.patch .node key labels edit) =>
      match (s.exec (P := Mark) (.patch .node key labels edit)).1 with
      | .ok node =>
        if race.isFinalReport (.patch .node key labels edit) then
          { race with reported := node.metadata.uid :: race.reported }
        else race
      | .error _ => race
    | _ => race

def overwritesReport (s : Cluster) (race : LabelRace) : Req → Bool
  | .update .node object => race.created.any fun action =>
    (s.find? .node object.key).any fun stored =>
      !Store.stale stored object && race.reported.contains stored.metadata.uid &&
        reportedState stored = action.finalState.text &&
        reportedState object = action.initialState.text
  | _ => false

/-- No agent of the created DaemonSet finishes before the nodes are listed. -/
def noEarlyReport : Rules LabelRace where
  env w change _ := match change with
    | .request r => !(w.2.listedAt.isNone && w.2.isFinalReport r)
    | _ => true

namespace LabelRace

def contract : Contract Req (Cluster × LabelRace) where
  good w r := overwritesReport w.1 w.2 r = false
  mid _ := True

section

variable (settings : Settings)

abbrev system := operator settings labelRace noEarlyReport

abbrev machine := (system settings).toMachine

end

/-- The reconciliation has created no DaemonSet that runs agents. -/
def Quiet (race : LabelRace) : Prop := race.created = none

/-- No agent has reported and no node was listed since the DaemonSet was created. -/
def Fresh (race : LabelRace) : Prop :=
  Quiet race ∨ (race.listedAt = none ∧ race.reported = [])

/-- The listed nodes are older than the reports. -/
def Labeling (nodes : List Node) (w : Cluster × LabelRace) : Prop :=
  Quiet w.2 ∨ ∃ listedAt, w.2.listedAt = some listedAt ∧ listedAt ≤ w.1.version ∧
    (∀ stored ∈ (w.1.objs .node).items, stored.metadata.uid ∈ w.2.reported →
      listedAt < stored.metadata.resourceVersion) ∧
    ∀ node ∈ nodes, 0 < node.metadata.resourceVersion ∧ node.metadata.resourceVersion ≤ listedAt

theorem not_overwrites_of_quiet {s : Cluster} {race : LabelRace} (quiet : Quiet race) (r : Req) :
    overwritesReport s race r = false := by
  have none : race.created = none := quiet
  unfold overwritesReport
  split
  · simp [none]
  · rfl

theorem not_overwrites_of_ne {s : Cluster} {race : LabelRace} {r : Req}
    (other : ∀ object, r ≠ .update .node object) : overwritesReport s race r = false := by
  unfold overwritesReport
  split
  · exact absurd rfl (other _)
  · rfl

theorem not_overwrites_of_unlabeled {s : Cluster} {race : LabelRace} {node next : Node}
    (changed : unlabeledDaemonSet node = some next) :
    overwritesReport s race (.update .node (inScope next)) = false := by
  have unreported : reportedState (inScope next) = "" := by
    unfold unlabeledDaemonSet at changed
    split at changed
    · cases changed
      simp [reportedState, inScope, Kind.namespaced, dropLabel, StrMap.getD_erase]
    · cases changed
  unfold overwritesReport
  simp only [unreported]
  rw [Option.any_eq_false]
  intro action _
  rw [Option.any_eq_false]
  intro stored _
  cases action <;> simp [KataDaemonSetAction.initialState, KataInstallationDaemonSetState.text]

/-- A listed node whose agent has reported since then cannot be updated. -/
theorem not_overwrites_of_labeling {w : Cluster × LabelRace} {node next : Node} {rest : List Node}
    (labeling : Labeling (node :: rest) w) (sameVersion :
      next.metadata.resourceVersion = node.metadata.resourceVersion) :
    overwritesReport w.1 w.2 (.update .node next) = false := by
  rcases labeling with quiet | ⟨listedAt, _, _, newer, older⟩
  · exact not_overwrites_of_quiet quiet _
  obtain ⟨positive, seen⟩ := older node List.mem_cons_self
  simp only [overwritesReport]
  rw [Option.any_eq_false]
  intro action _
  rw [Option.any_eq_false]
  intro stored found
  by_cases reported : stored.metadata.uid ∈ w.2.reported
  · have later := newer stored (Collection.find?_mem found).1 reported
    have refused : Store.stale stored next = true := by
      simp only [Store.stale, Bool.or_eq_true, Bool.and_eq_true, bne_iff_ne]
      exact .inl ⟨by omega, by omega⟩
    simp [refused]
  · simp [reported]

section Steps

variable {settings : Settings}

theorem env_cases (s s' : Cluster) (change : Change) (race : LabelRace) :
    labelRace.env s change s' race = race ∨ ∃ key labels edit node,
      change = .request (.patch .node key labels edit) ∧
      (s.exec (P := Mark) (.patch .node key labels edit)).1 = .ok node ∧
      race.isFinalReport (.patch .node key labels edit) = true ∧
      labelRace.env s change s' race = { race with reported := node.metadata.uid :: race.reported } := by
  simp only [labelRace]
  split
  · split
    · split
      · rename_i key labels edit _ node applied final
        exact .inr ⟨key, labels, edit, node, rfl, applied, final, rfl⟩
      · exact .inl rfl
    · exact .inl rfl
  · exact .inl rfl

theorem created_env (s s' : Cluster) (change : Change) (race : LabelRace) :
    (labelRace.env s change s' race).created = race.created := by
  rcases env_cases s s' change race with same | ⟨_, _, _, _, _, _, _, same⟩ <;> rw [same]

theorem listedAt_env (s s' : Cluster) (change : Change) (race : LabelRace) :
    (labelRace.env s change s' race).listedAt = race.listedAt := by
  rcases env_cases s s' change race with same | ⟨_, _, _, _, _, _, _, same⟩ <;> rw [same]

instance : Invariant (machine settings) contract (Noted Quiet) :=
  noted_invariant (fun s change s' race quiet => (created_env s s' change race).trans quiet)
    fun _ _ => trivial

instance : Invariant (machine settings) contract (Noted Anything) :=
  noted_invariant (fun _ _ _ _ => id) fun _ _ => trivial

instance : Invariant (machine settings) contract (Noted Fresh) := by
  refine world_invariant ?_ fun _ _ => trivial
  rintro ⟨s, race⟩ _ ⟨change, rfl, rule⟩ fresh
  rcases fresh with quiet | ⟨unlisted, unreported⟩
  · exact .inl ((created_env s (change.apply s) change race).trans quiet)
  · refine .inr ⟨(listedAt_env s (change.apply s) change race).trans unlisted, ?_⟩
    rcases env_cases s (change.apply s) change race with same | ⟨_, _, _, _, rfl, _, final, _⟩
    · rw [same]
      exact unreported
    · change race.listedAt = none at unlisted
      simp [noEarlyReport, unlisted, final] at rule

theorem Labeling.exec {nodes : List Node} {s : Cluster} {race : LabelRace}
    (labeling : Labeling nodes (s, race)) (r : Req) : Labeling nodes ((s.exec r).2, race) := by
  rcases labeling with quiet | ⟨listedAt, listed, bound, newer, older⟩
  · exact .inl quiet
  · refine .inr ⟨listedAt, listed, bound.trans Store.exec_version_le, ?_, older⟩
    intro stored member reported
    rcases Store.exec_mem_recent member with old | recent
    · exact newer stored old reported
    · change listedAt ≤ s.version at bound
      omega

instance (nodes : List Node) : Invariant (machine settings) contract (World (Labeling nodes)) := by
  refine world_invariant ?_ fun _ _ => trivial
  rintro ⟨s, race⟩ _ ⟨change, rfl, _⟩ labeling
  rcases env_cases s (change.apply s) change race with same | ⟨key, labels, edit, node, rfl, applied, _, same⟩
  · rw [same]
    cases change with
    | request r => exact labeling.exec r
    | _ => exact labeling
  · rw [same]
    rcases labeling with quiet | ⟨listedAt, listed, bound, newer, older⟩
    · exact .inl quiet
    · refine .inr ⟨listedAt, listed, bound.trans Store.exec_version_le, ?_, older⟩
      intro stored member reported
      change listedAt ≤ s.version at bound
      rcases List.mem_cons.mp reported with sameUid | before
      · have recent := Store.exec_patch_recent applied member sameUid
        change stored.metadata.resourceVersion = s.version + 1 at recent
        omega
      · rcases Store.exec_mem_recent member with old | recent
        · exact newer stored old before
        · change stored.metadata.resourceVersion = s.version + 1 at recent
          omega

theorem quiet_admits {r : Req} (other : ∀ ds, r ≠ .create .daemonSet ds) :
    Admits (machine settings) contract (Noted Quiet) r := by
  refine noted_admits (fun _ quiet => not_overwrites_of_quiet quiet r) fun s response s' race quiet => ?_
  simp only [labelRace]
  split
  · exact absurd rfl (other _)
  · exact quiet
  · exact quiet

theorem anything_admits {r : Req} (other : ∀ object, r ≠ .update .node object) :
    Admits (machine settings) contract (Noted Anything) r :=
  noted_admits (fun _ _ => not_overwrites_of_ne other) fun _ _ _ _ _ => trivial

theorem aside_ne {r : Req} (aside : isAside r = true) :
    (∀ ds, r ≠ .create .daemonSet ds) ∧ ∀ object, r ≠ .update .node object := by
  constructor <;> rintro _ rfl <;> cases aside

instance : Lenient (machine settings) contract (Noted Quiet) :=
  world_lenient fun _ aside => quiet_admits (aside_ne aside).1

instance : Lenient (machine settings) contract (Noted Anything) :=
  world_lenient fun _ aside => anything_admits (aside_ne aside).2

theorem quiet_writable {k : Kind} (other : k ≠ .daemonSet) :
    Writable (machine settings) contract (Noted Quiet) k := by
  intro r writes
  refine quiet_admits ?_
  rintro ds rfl
  exact other (Option.some.inj writes).symm

theorem anything_writable {k : Kind} (other : k ≠ .node) :
    Writable (machine settings) contract (Noted Anything) k := by
  intro r writes
  refine anything_admits ?_
  rintro object rfl
  exact other (Option.some.inj writes).symm

instance : KeepsWebhook settings (machine settings) contract (Noted Quiet) := by
  refine keepsWebhook_of_writable settings fun k webhook => quiet_writable ?_
  rintro rfl
  cases webhook

instance : KeepsWebhook settings (machine settings) contract (Noted Anything) := by
  refine keepsWebhook_of_writable settings fun k webhook => anything_writable ?_
  rintro rfl
  cases webhook

theorem quiet_deletable (k : Kind) : Deletable (machine settings) contract (Noted Quiet) k :=
  fun _ => quiet_admits (by simp)

theorem passes {p : LabelRace → Prop} [Invariant (machine settings) contract (Noted p)]
    (point : Point) : Passes (machine settings) contract (Noted p) point :=
  fun _ => noted_mark (fun _ _ _ => rfl) fun _ _ _ => id

theorem fresh_admits {r : Req} (other : ∀ ds, r ≠ .create .daemonSet ds)
    (notList : ∀ selector, r ≠ .list .node selector) (notUpdate : ∀ object, r ≠ .update .node object) :
    Admits (machine settings) contract (Noted Fresh) r := by
  refine noted_admits (fun _ _ => not_overwrites_of_ne notUpdate) fun s response s' race fresh => ?_
  simp only [labelRace]
  split
  · exact absurd rfl (other _)
  · exact absurd rfl (notList _)
  · exact fresh

end Steps

section Labels

variable {settings : Settings} {ε : Type}

theorem listNodes_triple (selector : Selector) :
    Triple (machine settings) contract (Noted Fresh) (clientList .node selector)
      (Leaves (fun nodes => World (Labeling nodes)) (Noted Anything)) := by
  refine clientList_triple (fun _ _ _ => not_overwrites_of_ne (by simp)) ?_ fun _ _ _ _ _ _ => trivial
  rintro memory ⟨s, race⟩ nodes w' fresh reply
  obtain ⟨s', answered, rfl, _⟩ := operator_answered reply
  obtain ⟨rfl, _, rfl⟩ := answered.list_ok
  rcases fresh with quiet | ⟨unlisted, unreported⟩
  · exact .inl quiet
  · change race.listedAt = none at unlisted
    change race.reported = [] at unreported
    refine .inr ⟨s'.version, by simp [labelRace, unlisted], le_refl _, ?_, ?_⟩
    · intro stored _ reported
      simp [labelRace, unreported] at reported
    · intro node member
      have assigned := s'.assigned .node node (List.mem_of_mem_filter member)
      exact ⟨assigned.resourceVersion_pos, assigned.resourceVersion_le⟩

theorem Labeling.rest {node : Node} {rest : List Node} {w : Cluster × LabelRace}
    (labeling : Labeling (node :: rest) w) : Labeling rest w := by
  rcases labeling with quiet | ⟨listedAt, listed, bound, newer, older⟩
  · exact .inl quiet
  · exact .inr ⟨listedAt, listed, bound, newer, fun node member => older node (.tail _ member)⟩

theorem labelNodes_triple (selector : Selector) (value : String) :
    Triple (machine settings) contract (Noted Fresh)
      (labelNodes selector kataInstallationDaemonSetLabel value) fun _ => Noted Anything := by
  refine Triple.bind (listNodes_triple selector) (fun nodes => ?_) fun _ _ _ _ => trivial
  refine Triple.bind (updateEach_triple (A := fun _ nodes => World (Labeling nodes))
    (B := Noted Anything) ?_ ?_ ?_ ?_ false nodes) (fun outcome => ?_) fun _ _ _ _ => trivial
  · exact fun _ _ _ _ _ _ labeling => Labeling.rest labeling
  · rintro _ node rest next memory w ⟨rfl⟩ labeling
    exact not_overwrites_of_labeling labeling rfl
  · rintro _ node rest next memory ⟨s, race⟩ answer w' _ labeling reply
    obtain ⟨s', answered, rfl, _⟩ := operator_answered reply
    rcases answered.store with rfl | rfl
    · exact Labeling.rest labeling
    · exact (Labeling.rest labeling).exec _
  · exact fun _ _ _ _ _ _ _ _ _ _ _ => trivial
  · refine Triple.pre (P := Noted Anything) ?_ fun _ _ _ => trivial
    exact maintains_bind (labelingOutcome_maintains outcome) fun _ => maintains_pure _

theorem labelKataNodes_triple (state : KataInstallationDaemonSetState) :
    Triple (machine settings) contract (Noted Fresh) (labelKataNodes state : Op ε PUnit)
      fun _ => Noted Anything := by
  have select : Maintains (machine settings) contract (Noted Fresh) getKataConfigNodeSelectorAsSelector :=
    getKataConfigNodeSelectorAsSelector_keeps (fresh_admits (by simp) (by simp) (by simp))
      (fresh_admits (by simp) (by simp) (by simp))
  refine Maintains.bind_triple (maintains_attempt select) (fun selector => ?_) fun _ _ _ _ => trivial
  split
  · exact triple_pure fun _ _ _ => trivial
  · exact Triple.attempt_bind (labelNodes_triple _ state.text) fun _ => maintains_pure _

def Creating {α β : Type} : Except α β → LabelRace → Prop
  | .ok _ => Fresh
  | .error _ => Anything

instance {α β : Type} : (result : Except α β) → Invariant (machine settings) contract (Noted (Creating result))
  | .ok _ => inferInstanceAs (Invariant (machine settings) contract (Noted Fresh))
  | .error _ => inferInstanceAs (Invariant (machine settings) contract (Noted Anything))

theorem createDaemonSet_triple (ds : DaemonSet) :
    Triple (machine settings) contract (Noted Quiet) (orReturn (clientCreate ds))
      fun result => Noted (Creating result) := by
  refine Triple.orElse (clientCreate_triple (Q := fun result => Noted (Creating (result.mapError _)))
    (fun _ _ quiet => not_overwrites_of_quiet quiet _) ?_ fun _ _ _ _ _ _ => trivial)
  rintro memory ⟨s, race⟩ answer w' quiet reply
  obtain ⟨s', _, rfl, _⟩ := operator_answered reply
  change Fresh (labelRace.call s (.create .daemonSet (inScope ds)) (.ok answer) s' race)
  simp only [labelRace]
  split
  · exact .inr ⟨rfl, rfl⟩
  · exact .inl quiet

end Labels

section Requests

variable {settings : Settings}

theorem ensureInstallDaemonSet_triple (ds : DaemonSet) :
    Triple (machine settings) contract (Noted Quiet) (ensureInstallDaemonSet ds) fun _ => Noted Anything := by
  refine Maintains.bind_triple (maintains_attempt (clientGet_maintains _ _)) (fun found => ?_)
    fun _ _ _ _ => trivial
  split
  · have update : Maintains (machine settings) contract (Noted Quiet) (orReturn (clientUpdate ds)) :=
      orReturn_maintains (call_maintains (quiet_admits (by simp)) fun _ => fromApi_maintains _)
    exact Triple.post (maintains_bind update fun _ => maintains_pure _) fun _ _ _ _ => trivial
  · refine triple_when (maintains_throw _) ?_ fun _ _ _ _ => trivial
    refine Triple.bind (createDaemonSet_triple ds) (fun _ => ?_) fun _ _ _ _ => trivial
    refine Maintains.bind_triple (A := Noted Fresh) (maintains_modify fun _ _ => id)
      (fun _ => labelKataNodes_triple _) fun _ _ _ _ => trivial

theorem ensureUninstallDaemonSet_triple (ds : DaemonSet) :
    Triple (machine settings) contract (Noted Quiet) (ensureUninstallDaemonSet ds)
      fun _ => Noted Anything := by
  refine Maintains.bind_triple (maintains_attempt (clientGet_maintains _ _)) (fun found => ?_)
    fun _ _ _ _ => trivial
  split
  · exact triple_pure fun _ _ _ => trivial
  · refine triple_when (maintains_throw _) ?_ fun _ _ _ _ => trivial
    refine Triple.bind (createDaemonSet_triple ds) (fun _ => ?_) fun _ _ _ _ => trivial
    exact Triple.bind (labelKataNodes_triple _) (fun _ => maintains_pure _) fun _ _ _ => id

theorem quiet_updatable (change : Node → Option Node) :
    Updatable (machine settings) contract (Noted Quiet) change :=
  (quiet_writable (by decide)).updatable change

theorem anything_unlabels : Updatable (machine settings) contract (Noted Anything) unlabeledDaemonSet :=
  fun _ _ _ _ changed _ _ => ⟨not_overwrites_of_unlabeled changed, fun _ _ _ => trivial⟩

theorem post_maintains : Maintains (machine settings) contract (Noted Anything)
    (postKataInstallation settings) :=
  postKataInstallation_maintains settings (passes _) (anything_writable (by decide))
    (world_creates (anything_writable (by decide)))

theorem installs_triple (oldObjStatus : KataConfigStatus) :
    Triple (machine settings) contract (Noted Quiet) (installBranch settings oldObjStatus)
      fun _ => Noted Anything := by
  refine installBranch_triple settings (processInstallRequest_triple settings ?_ ?_) oldObjStatus
  · refine Triple.pre (P := Noted Quiet) ?_ fun _ _ holds => holds.1
    exact processKataConfigInstallRequest_triple settings (passes _ _)
      (ensureFinalizer_maintains.onward fun _ _ _ _ => trivial) world_commences (fun _ => passes _)
      (fun _ => quiet_updatable _) (createMc_maintains settings (quiet_writable (by decide)))
      (ensureKataOcPool_maintains (quiet_writable (by decide)))
      (post_maintains.pre fun _ _ _ => trivial) (fun _ _ _ _ => trivial) fun _ _ _ _ => trivial
  · refine Triple.pre (P := Noted Quiet) ?_ fun _ _ holds => holds.1
    refine Maintains.bind_triple (passes _ _) (fun _ => ?_) fun _ _ _ _ => trivial
    refine Maintains.bind_triple (prepareInstallationDaemonSet_maintains settings
      fun _ => quiet_updatable _) (fun ds => ?_) fun _ _ _ _ => trivial
    refine Triple.bind (ensureInstallDaemonSet_triple ds) (fun _ => ?_) fun _ _ _ => id
    exact concludeInstallationDaemonSet_triple settings world_commences (passes _)
      post_maintains fun _ _ _ => id

theorem deletes_triple : Triple (machine settings) contract (Noted Quiet) (deleteBranch settings)
    fun _ => Noted Anything := by
  refine Maintains.bind_triple (passes _ _) (fun _ => ?_) fun _ _ _ _ => trivial
  refine deleteAndStoreStatus_triple settings (processDeleteRequest_triple settings ?_ ?_)
  · have maintains : Maintains (machine settings) contract (Noted Quiet)
        (processKataConfigDeleteRequest settings) :=
      processKataConfigDeleteRequest_maintains settings (fun point _ => passes point) (quiet_updatable _)
        (removeMc_maintains settings (quiet_deletable _)) (quiet_deletable _) (quiet_deletable _)
    exact maintains.given.post fun _ _ _ _ => trivial
  · refine Triple.pre (P := Noted Quiet) ?_ fun _ _ holds => holds.1
    refine processKataConfigDeleteRequestDaemonSet_triple settings (passes _ _)
      ((checkDeletionEligibility_maintains (passes _)).onward fun _ _ _ _ => trivial) ?_
      fun _ _ _ _ => trivial
    have delete : Maintains (machine settings) contract (Noted Quiet)
        (orReturn (deleteIfPresent .daemonSet (daemonSetKey .installKata))) :=
      orReturn_maintains (deleteIfPresent_maintains (quiet_deletable _) _)
    refine Triple.bind (startUninstallation_triple (B := Noted Quiet) settings
      (Maintains.onward delete fun _ _ _ _ => trivial) (fun ds _ => ensureUninstallDaemonSet_triple ds)
      fun _ _ _ _ => trivial) (fun justCreated => ?_) fun _ _ _ => id
    have finish : Maintains (machine settings) contract (Noted Anything) (finishDeletionDaemonSet settings) :=
      finishDeletionDaemonSet_maintains settings (passes _) (passes _) anything_unlabels
        (anything_writable (by decide)).deletable
    exact concludeDeletionDaemonSet_keeps settings (passes _) finish (fun _ _ _ => id) justCreated

theorem reconcile_triple (key : Key) : Triple (machine settings) contract (Noted Quiet)
    (reconcileRoutine settings key) fun _ => Noted Anything :=
  world_reconcile settings key (fun _ _ => trivial) (world_classes (quiet_writable (by decide)))
    deletes_triple installs_triple

end Requests

theorem sound (settings : Settings) : (system settings).Sound (initially {}) contract (Noted Anything)
    fun outcome => Noted Anything outcome.2 :=
  operator_sound (fun _ => Noted Quiet) (fun _ => Noted Anything)
    (fun _ _ => trivial) (fun _ _ _ _ _ => rfl) reconcile_triple (fun _ _ _ _ _ => trivial)
    fun _ _ _ => trivial

end LabelRace

end SandboxedContainers
