import SandboxedContainers.Runs
import SandboxedContainers.StatusLists

/-!
# Failed nodes in the condition

`updateStatus` sets the condition to `Failed` when it meets a degraded node, and the
reconciliation stores the condition at its end.  What it does in between depends on
the pool, which it has sampled just before: only while the pool is updating does it
leave the condition alone.
-/

namespace SandboxedContainers

open Lib Routine

inductive StatusStage where
  | idle
  /-- About to read the pool. -/
  | asked
  /-- The pool was read last, and counts as updating or not. -/
  | sampled (updating : Bool)
  /-- `updateStatus` has got its nodes, with the pool as it was read before. -/
  | computed (updating : Bool)
  deriving DecidableEq

/-- A pool that cannot be read counts as not updating. -/
def countsAsUpdating (answer : Except ApiError MachineConfigPool) : Bool :=
  match answer with
  | .ok mcp => (poolStatus mcp).isUpdating
  | .error _ => false

/-- The lists are computed from the workers that are listed right after the pool was
sampled, and reported with the next status that is stored. -/
def statusStages : Monitor StatusStage where
  start _ _ _ := .idle
  call _ r response _ stage := match r, response, stage with
    | .mark ⟨.samplePool _, _⟩, _, _ => .asked
    | .get .machineConfigPool _, answer, .asked => .sampled (countsAsUpdating answer)
    | .list .node selector, .ok _, .sampled updating =>
      if selector = workerSelector then .computed updating else .idle
    | .updateStatus .kataConfig _, _, _ => .idle
    | _, _, .computed updating => .computed updating
    | _, _, _ => .idle

def KataConfigStatus.failedNodes (status : KataConfigStatus) : List String :=
  status.kataNodes.failedToInstall ++ status.kataNodes.failedToUninstall

/-- A status that lists failed nodes has the condition to go with it. -/
def KataConfigStatus.ShowsFailure (status : KataConfigStatus) : Prop :=
  status.failedNodes ≠ [] → status.hasReason "Failed" = true

instance (status : KataConfigStatus) : Decidable status.ShowsFailure :=
  inferInstanceAs (Decidable (_ → _))

namespace StatusStage

def contract : Contract Req (Cluster × StatusStage) where
  good w r := ∀ kataConfig, r = .updateStatus .kataConfig kataConfig → w.2 = .computed true →
    (statusOf kataConfig).ShowsFailure
  mid _ := True

section

variable (settings : Settings)

abbrev system := operator settings statusStages {}

abbrev machine := (system settings).toMachine

end

/-- No pool is being read, and none that was updating was read last. -/
def Quiet (stage : StatusStage) : Prop :=
  stage = .idle ∨ stage = .sampled false ∨ stage = .computed false

/-- No pool is being read, and the lists are not computed while one is updating. -/
def Between (stage : StatusStage) : Prop := stage ≠ .asked ∧ stage ≠ .computed true

/-- Lists that were computed while the pool was updating go with the condition. -/
def Shown (memory : Reconciler) (w : Cluster × StatusStage) : Prop :=
  w.2 = .computed true → memory.status.ShowsFailure

theorem Quiet.between {stage : StatusStage} (quiet : Quiet stage) : Between stage := by
  rcases quiet with rfl | rfl | rfl <;> simp [Between]

theorem Between.shown {w : Cluster × StatusStage} (between : Between w.2) (memory : Reconciler) :
    Shown memory w := fun computed => absurd computed between.2

section Assertions

variable {settings : Settings} {p : StatusStage → Prop}

instance : Invariant (machine settings) contract (Noted p) :=
  noted_invariant (fun _ _ _ _ => id) fun _ _ => trivial

instance : Invariant (machine settings) contract Shown where
  stable memory := by
    rintro w _ ⟨change, rfl, _⟩ shown
    exact shown
  mid _ _ _ := trivial

theorem good_of_not_store {w : Cluster × StatusStage} {r : Req}
    (notStore : ∀ kataConfig, r ≠ .updateStatus .kataConfig kataConfig) : contract.good w r :=
  fun kataConfig isStore => absurd isStore (notStore kataConfig)

theorem good_of_between {w : Cluster × StatusStage} (between : Between w.2) (r : Req) :
    contract.good w r := fun _ _ computed => absurd computed between.2

theorem call_cases (s s' : Cluster) {r : Req} (response : Response r) (notMark : ∀ m, r ≠ .mark m)
    {stage : StatusStage} (between : Between stage) :
    statusStages.call s r response s' stage = .idle ∨
      (stage = .computed false ∧ statusStages.call s r response s' stage = .computed false) ∨
      ∃ updating, stage = .sampled updating ∧ r = .list .node workerSelector ∧
        statusStages.call s r response s' stage = .computed updating := by
  simp only [statusStages]
  split
  · exact absurd rfl (notMark _)
  · exact absurd rfl between.1
  · split
    · rename_i isWorkers
      subst isWorkers
      exact .inr (.inr ⟨_, rfl, rfl, rfl⟩)
    · exact .inl rfl
  · exact .inl rfl
  · rename_i updating _ _
    cases updating with
    | true => exact absurd rfl between.2
    | false => exact .inr (.inl ⟨rfl, rfl⟩)
  · exact .inl rfl

theorem Quiet.call {stage : StatusStage} (quiet : Quiet stage) (s s' : Cluster) {r : Req}
    (response : Response r) (notMark : ∀ m, r ≠ .mark m) :
    Quiet (statusStages.call s r response s' stage) := by
  rcases call_cases s s' response notMark quiet.between with
    idle | ⟨_, computed⟩ | ⟨updating, sampled, _, computed⟩
  · exact .inl idle
  · exact .inr (.inr computed)
  · rcases quiet with rfl | rfl | rfl
    · cases sampled
    · cases sampled
      exact .inr (.inr computed)
    · cases sampled

theorem quiet_admits {r : Req} (notMark : ∀ m, r ≠ .mark m) :
    Admits (machine settings) contract (Noted Quiet) r :=
  noted_admits (fun _ quiet => good_of_between quiet.between r) fun s response s' _ quiet => quiet.call s s' response notMark

theorem quiet_writable (k : Kind) : Writable (machine settings) contract (Noted Quiet) k :=
  fun _ writes => quiet_admits (writes_not_mark writes)

instance : Lenient (machine settings) contract (Noted Quiet) :=
  world_lenient fun _ aside => quiet_admits (isAside_not_mark aside)

instance : KeepsWebhook settings (machine settings) contract (Noted Quiet) :=
  keepsWebhook_of_writable settings fun k _ => quiet_writable k

theorem quiet_passes {point : Point} (other : ∀ pool, point ≠ .samplePool pool) :
    Passes (machine settings) contract (Noted Quiet) point := by
  refine fun ε => noted_mark (fun _ _ quiet => good_of_between quiet.between _) ?_
  intro s stage kataConfig quiet
  cases point with
  | samplePool pool => exact absurd rfl (other pool)
  | _ =>
    rcases quiet with rfl | rfl | rfl
    · exact .inl rfl
    · exact .inl rfl
    · exact .inr (.inr rfl)

end Assertions

section Sampling

variable {settings : Settings}

theorem sample_triple {ε : Type} (pool : String) :
    Triple (machine settings) contract (Noted Quiet) (isMcpUpdating pool : Op ε Bool)
      fun result => Noted (· = .sampled (result.toOption.getD false)) := by
  refine isMcpUpdating_triple (R := Noted (· = .asked)) (Q := fun updating => Noted (· = .sampled updating))
    (fun _ _ quiet => good_of_between quiet.between _) (fun _ _ _ => good_of_not_store nofun) ?_ ?_ ?_
  · intro memory w w' _ reply
    rw [operator_mark reply]
    rfl
  · rintro memory ⟨s, stage⟩ mcp w' asked reply
    obtain ⟨s', _, rfl, _⟩ := operator_answered reply
    cases asked
    rfl
  · rintro memory ⟨s, stage⟩ error w' asked reply
    obtain ⟨s', _, rfl, _⟩ := operator_answered reply
    cases asked
    rfl

theorem ensureKataOcPool_quiet (machinePool : String) :
    Triple (machine settings) contract (Noted Between) (ensureKataOcPool machinePool) fun _ => Noted Quiet := by
  have read : Triple (machine settings) contract (Noted Between)
      (clientGet .machineConfigPool (poolKey machinePool)) fun _ => Noted Quiet := by
    have quiet (s s' : Cluster) (key : Key) (response) {stage : StatusStage} (between : Between stage) :
        Quiet (statusStages.call s (.get .machineConfigPool key) response s' stage) := by
      rcases call_cases s s' response (by simp) between with
        idle | ⟨_, computed⟩ | ⟨_, _, isList, _⟩
      · exact .inl idle
      · exact .inr (.inr computed)
      · cases isList
    refine clientGet_triple (fun _ _ _ => good_of_not_store nofun) ?_ ?_
    · intro memory w object w' between reply
      obtain ⟨s', _, rfl, _⟩ := operator_answered reply
      exact quiet w.1 s' _ _ between
    · intro memory w error w' between reply
      obtain ⟨s', _, rfl, _⟩ := operator_answered reply
      exact quiet w.1 s' _ _ between
  have create : Maintains (machine settings) contract (Noted Quiet) (newMCPforCR : Op Exit MachineConfigPool) := by
    unfold newMCPforCR
    grind
  refine Triple.attempt_bind read fun found => ?_
  cases found with
  | ok mcp => exact maintains_pure _
  | error error =>
    refine maintains_when (maintains_throw _) ?_
    refine maintains_bind create fun mcp => ?_
    exact maintains_bind (orReturn_maintains (clientCreate_maintains (quiet_writable _) mcp)) fun _ =>
      maintains_pure _

theorem joinKataOc_quiet (machinePool : String) :
    Maintains (machine settings) contract (Noted Quiet) (joinKataOc machinePool) := by
  have label : Maintains (machine settings) contract (Noted Quiet) updateNodeLabels :=
    updateNodeLabels_maintains fun _ => (quiet_writable _).updatable _
  refine maintains_bind (maintains_orElse label) fun changed => ?_
  split
  · refine Triple.bind (sample_triple machinePool) (fun updating => ?_) fun _ _ _ sampled =>
      .inr (.inl sampled)
    refine Triple.pre (P := Noted Between) ?_ ?_
    · split
      · exact triple_modify_bind (fun _ _ => id) (ensureKataOcPool_quiet machinePool)
      · exact ensureKataOcPool_quiet machinePool
    · rintro memory ⟨s, stage⟩ rfl
      simp [World, Between]
  · exact (ensureKataOcPool_quiet machinePool).pre fun _ _ quiet => quiet.between

end Sampling

section Lists

variable {settings : Settings}

theorem showsFailure_kataNodes {status : KataConfigStatus} {nodes : KataNodesStatus}
    (shows : status.ShowsFailure) (install : nodes.failedToInstall = status.kataNodes.failedToInstall)
    (uninstall : nodes.failedToUninstall = status.kataNodes.failedToUninstall) :
    KataConfigStatus.ShowsFailure { status with kataNodes := nodes } := by
  intro failed
  apply shows
  rwa [KataConfigStatus.failedNodes, install, uninstall] at failed

theorem setKataNodes_shows {ε : Type} {change : KataNodesStatus → KataNodesStatus}
    (install : ∀ nodes, (change nodes).failedToInstall = nodes.failedToInstall)
    (uninstall : ∀ nodes, (change nodes).failedToUninstall = nodes.failedToUninstall) :
    Maintains (machine settings) contract Shown (setKataNodes change : Op ε PUnit) :=
  maintains_modify fun _ _ shown computed =>
    showsFailure_kataNodes (shown computed) (install _) (uninstall _)

theorem recordNode_shows (node : Node) (state : Option NodeKataState) :
    Maintains (machine settings) contract Shown (recordNode node state) := by
  cases state with
  | none => exact maintains_pure _
  | some state =>
    unfold recordNode
    by_cases failed : state = .failedToInstall ∨ state = .failedToUninstall
    · -- the condition is set together with the list
      simp only [if_pos failed]
      apply triple_modify_bind (R := fun _ _ => True)
      · exact fun _ _ _ => trivial
      · intro memory w _
        exact safe_result (Q := fun _ => Shown) fun _ _ =>
          KataConfigStatus.hasReason_setInProgress .conditionTrue "Failed" _ "Failed" memory.status
    · simp only [if_neg failed]
      push Not at failed
      refine maintains_bind (setKataNodes_shows ?_ ?_) fun _ => maintains_pure _
      · intro nodes
        have kept := list_putOnList node.metadata.name nodes state .failedToInstall nofun
        rwa [if_neg failed.1, List.append_nil] at kept
      · intro nodes
        have kept := list_putOnList node.metadata.name nodes state .failedToUninstall nofun
        rwa [if_neg failed.2, List.append_nil] at kept

theorem computed_of_call (s s' : Cluster) {r : Req} (response : Response r) (query : Query r)
    {stage : StatusStage} (computed : statusStages.call s r response s' stage = .computed true) :
    stage = .computed true := by
  simp only [statusStages] at computed
  split at computed
  · cases computed
  · cases computed
  · split at computed
    · rename_i isWorkers
      subst isWorkers
      exact absurd rfl query.2
    · cases computed
  · cases computed
  · exact computed
  · cases computed

theorem Inquiry.shown {ε α : Type} {routine : Op ε α} (inquiry : Inquiry Query routine) :
    Maintains (machine settings) contract Shown routine := by
  apply inquiry.maintains
  intro r query memory w shown
  refine ⟨good_of_not_store ?_, ?_⟩
  · rintro kataConfig rfl
    cases query.1
  · intro response w' reply computed
    obtain ⟨s', _, rfl, _⟩ := operator_answered reply
    exact shown (computed_of_call w.1 s' response query computed)

theorem putNodesOnStatusLists_shows (err : Option Err) (nodes : List Node) :
    Maintains (machine settings) contract Shown (putNodesOnStatusLists settings err nodes) := by
  induction nodes generalizing err with
  | nil =>
    cases err with
    | none => exact maintains_pure _
    | some error => exact maintains_throw error
  | cons node rest ih =>
    have put : Maintains (machine settings) contract Shown (putNodeOnStatusList settings node) := by
      rw [putNodeOnStatusList_eq]
      exact maintains_bind (Inquiry.shown (inquiry_classifyNode settings node)) (recordNode_shows node)
    rw [putNodesOnStatusLists_cons]
    refine maintains_bind (maintains_attempt put) fun outcome => ?_
    cases outcome with
    | ok _ => exact ih err
    | error error => exact ih (some error)

theorem updateStatus_shows : Triple (machine settings) contract (Noted (· = .sampled true))
    (updateStatus settings) fun _ => Shown := by
  have list : Triple (machine settings) contract (Noted (· = .sampled true)) getNodes
      (Onward (Noted (· = .computed true)) fun _ : Except Err PUnit => Shown) := by
    refine clientList_triple (fun _ _ _ => good_of_not_store nofun) ?_ ?_
    · rintro memory ⟨s, stage⟩ nodes w' sampled reply
      obtain ⟨s', _, rfl, _⟩ := operator_answered reply
      cases sampled
      rfl
    · rintro memory ⟨s, stage⟩ error w' sampled reply
      obtain ⟨s', _, rfl, _⟩ := operator_answered reply
      cases sampled
      exact fun computed => nomatch computed
  refine Triple.andThen list fun nodes => ?_
  -- the lists start empty, whatever the condition
  refine triple_modify_bind (R := Shown) (fun memory w _ _ failed => absurd rfl failed) ?_
  refine maintains_bind (Inquiry.shown inquiry_countKataNodes) fun count => ?_
  refine maintains_bind (setKataNodes_shows (fun _ => rfl) fun _ => rfl) fun _ => ?_
  refine maintains_bind (maintains_attempt (putNodesOnStatusLists_shows none nodes)) fun outcome => ?_
  have ready {ε : Type} : Maintains (machine settings) contract Shown (setReadyNodeCount : Op ε PUnit) :=
    setKataNodes_shows (fun _ => rfl) fun _ => rfl
  cases outcome with
  | ok _ => exact ready
  | error error => exact maintains_bind ready fun _ => maintains_throw error

end Lists

section Branches

variable {settings : Settings}

theorem quiet_shown (memory : Reconciler) (w : Cluster × StatusStage) (quiet : Noted Quiet memory w) :
    Shown memory w := quiet.between.shown memory

theorem noted_modify {p : StatusStage → Prop} {ε : Type} {change : Reconciler → Reconciler} :
    Maintains (machine settings) contract (Noted p) (Routine.modify change : Op ε PUnit) :=
  maintains_modify fun _ _ => id

theorem lists_shown : Triple (machine settings) contract (Noted (· = .sampled true))
    (Routine.ignore (updateStatus settings) : Op Exit PUnit) fun _ => Shown :=
  Triple.attempt_bind updateStatus_shows fun _ => triple_pure fun _ _ => id

theorem sampled_shown {memory : Reconciler} {w : Cluster × StatusStage}
    (sampled : Noted (· = .sampled true) memory w) : Shown memory w :=
  fun computed => nomatch (show StatusStage.sampled true = .computed true from sampled ▸ computed)

theorem concludeInstallation_shows (updating : Bool) :
    Triple (machine settings) contract (Noted (· = .sampled updating))
      (concludeInstallation settings updating) fun _ => Shown := by
  cases updating with
  | true =>
    refine Maintains.bind_triple maintains_get (fun r => ?_) fun _ _ _ => sampled_shown
    refine triple_when noted_modify ?_ fun _ _ _ => sampled_shown
    refine Maintains.bind_triple maintains_get (fun r => ?_) fun _ _ _ => sampled_shown
    refine Maintains.bind_triple noted_modify (fun _ => ?_) fun _ _ _ => sampled_shown
    exact Triple.bind lists_shown (fun _ => triple_pure fun _ _ => id) fun _ _ _ => id
  | false =>
    have post : Maintains (machine settings) contract (Noted Quiet) (postKataInstallation settings) :=
      postKataInstallation_maintains settings (quiet_passes nofun) (quiet_writable _)
        (world_creates (quiet_writable _))
    have kept : Maintains (machine settings) contract (Noted Quiet) (concludeInstallation settings false) := by
      refine maintains_bind maintains_get fun r => ?_
      refine maintains_when noted_modify ?_
      refine maintains_bind maintains_get fun r => ?_
      split
      · exact maintains_pure _
      · refine maintains_bind noted_modify fun _ => ?_
        exact maintains_bind (maintains_ignore (updateStatus_maintains settings pliant_conditions))
          fun _ => post
    exact (kept.pre fun _ _ sampled => .inr (.inl sampled)).post fun _ => quiet_shown

theorem concludeDeletion_shows (isConverged updating : Bool) :
    Triple (machine settings) contract (Noted (· = .sampled updating))
      (concludeDeletion settings isConverged updating) fun _ => Shown := by
  cases updating with
  | true =>
    refine Maintains.bind_triple maintains_get (fun r => ?_) fun _ _ _ => sampled_shown
    refine Maintains.bind_triple noted_modify (fun _ => ?_) fun _ _ _ => sampled_shown
    exact Triple.bind lists_shown (fun _ => triple_pure fun _ _ => id) fun _ _ _ => id
  | false =>
    have finish : Maintains (machine settings) contract (Noted Quiet) (finishDeletion settings isConverged) :=
      finishDeletion_maintains settings (quiet_passes nofun) (quiet_writable _).deletable
        (quiet_writable _).deletable isConverged
    have kept : Maintains (machine settings) contract (Noted Quiet)
        (concludeDeletion settings isConverged false) :=
      concludeDeletion_triple settings finish (fun _ _ _ => id) false
    exact (kept.pre fun _ _ sampled => .inr (.inl sampled)).post fun _ => quiet_shown

theorem installRequest_shows : Triple (machine settings) contract (Noted Quiet)
    (processKataConfigInstallRequest settings) fun _ => Shown := by
  have stopped (error : Exit) := quiet_shown
  have apply (pool : String) : Maintains (machine settings) contract (Noted Quiet)
      (applyInstallation settings pool) := by
    refine maintains_bind (orReturn_maintains getCustomKernelConfig_maintains) fun config => ?_
    refine maintains_bind (orRetry_maintains (createMc_maintains settings (quiet_writable _) pool config))
      fun created => ?_
    refine maintains_when noted_modify ?_
    split
    · exact joinKataOc_quiet pool
    · split
      · exact noted_modify
      · exact maintains_pure _
  refine Maintains.bind_triple (quiet_passes (by simp) Exit) (fun _ => ?_) stopped
  refine Maintains.bind_triple checkInstallPreconditions_maintains (fun _ => ?_) stopped
  refine Maintains.bind_triple (orReturn_maintains getMcpName_maintains) (fun pool => ?_) stopped
  refine Maintains.bind_triple ensureFinalizer_maintains (fun _ => ?_) stopped
  refine Maintains.bind_triple (apply pool) (fun _ => ?_) stopped
  refine Triple.bind (sample_triple pool) concludeInstallation_shows ?_
  exact fun _ memory w sampled => quiet_shown memory w (.inr (.inl sampled))

theorem deleteRequest_shows : Triple (machine settings) contract (Noted Quiet)
    (processKataConfigDeleteRequest settings) fun _ => Shown := by
  have stopped (error : Exit) := quiet_shown
  have unlabel (selector : Selector) : Maintains (machine settings) contract (Noted Quiet)
      (unlabelNodes selector) :=
    unlabelNodes_maintains (quiet_passes nofun) ((quiet_writable _).updatable _) selector
  refine processKataConfigDeleteRequest_triple (A := Noted Quiet) (B := Noted Quiet) (D := Noted Quiet)
    settings (quiet_passes (by simp) Exit) ?_ ?_ ?_ ?_ ?_
  · exact (checkDeletionEligibility_maintains (quiet_passes nofun)).onward stopped
  · exact fun selector => Maintains.onward (maintains_orElse (unlabel selector)) stopped
  · exact fun pool => (removeMc_maintains settings (quiet_writable _).deletable pool).onward stopped
  · intro labelingChanged isMcDeleted
    refine Maintains.bind_triple (quiet_passes (by simp) Exit) (fun _ => ?_) stopped
    refine Maintains.bind_triple isConvergedAndKnown_maintains (fun isConverged => ?_) stopped
    refine triple_when noted_modify ?_ stopped
    refine Triple.bind (sample_triple _) (concludeDeletion_shows isConverged) ?_
    exact fun _ memory w sampled => quiet_shown memory w (.inr (.inl sampled))
  · exact fun _ memory w quiet => quiet_shown memory w (quiet.elim id id)

end Branches

section Reconciliation

variable {settings : Settings}

theorem stores_shown : Triple (machine settings) contract Shown updateKataConfigStatus
    fun _ => Noted Quiet := by
  have quiet {memory : Reconciler} {w w' : Cluster × StatusStage} {response}
      (reply : (machine settings).answer w (.updateStatus .kataConfig (inScope memory.current)) response w') :
      Quiet w'.2 := by
    obtain ⟨s', _, rfl, _⟩ := operator_answered reply
    exact .inl rfl
  refine updateKataConfigStatus_triple ?_ (fun _ _ _ _ _ => quiet) fun _ _ _ _ _ => quiet
  rintro memory w shown _ ⟨rfl⟩ computed
  exact shown computed

/-- What does not store a status owes nothing. -/
instance : Tolerant (machine settings) contract (Noted Anything) where
  reads r reads _ := by
    refine noted_admits (fun _ _ => good_of_not_store ?_) fun _ _ _ _ _ => trivial
    rintro kataConfig rfl
    cases reads
  side k side r writes := by
    refine noted_admits (fun _ _ => good_of_not_store ?_) fun _ _ _ _ _ => trivial
    rintro kataConfig rfl
    cases writes
    cases side
  kataNodes _ _ _ := id
  imageGenerator _ _ _ := id

theorem afterInstall_shown (oldObjStatus : KataConfigStatus) (res : Result) :
    Triple (machine settings) contract Shown (afterInstall oldObjStatus res) fun _ => Noted Anything := by
  refine afterInstall_triple oldObjStatus res ?_ fun _ _ _ _ => trivial
  exact stores_shown.given.post fun _ _ _ _ => trivial

theorem installs_triple (oldObjStatus : KataConfigStatus) :
    Triple (machine settings) contract (Noted Quiet) (installBranch settings oldObjStatus)
      fun _ => Noted Anything := by
  have commences : Commences (machine settings) contract (Noted Quiet) := world_commences
  have daemonSet := processKataConfigInstallRequestDaemonSet_maintains (M := machine settings) (C := contract)
    (A := Noted Quiet) settings commences (fun _ installs => quiet_passes (by rintro _ rfl; cases installs))
    (fun _ => (quiet_writable _).updatable _) ((quiet_writable _).updatable _)
    (quiet_writable _) (world_creates (quiet_writable _))
  have process : Triple (machine settings) contract (Noted Quiet) (processInstallRequest settings)
      fun _ => Shown := by
    refine processInstallRequest_triple settings ?_ ?_
    · exact installRequest_shows.given
    · exact daemonSet.given.post fun _ => quiet_shown
  refine Triple.attempt_bind process fun outcome => ?_
  split
  · exact afterInstall_shown _ _
  · split
    · exact triple_throw fun _ _ _ => trivial
    · exact afterInstall_shown _ _

theorem deletes_triple : Triple (machine settings) contract (Noted Quiet) (deleteBranch settings)
    fun _ => Noted Anything := by
  have daemonSet := processKataConfigDeleteRequestDaemonSet_maintains (M := machine settings) (C := contract)
    (A := Noted Quiet) settings (fun _ uninstalls => quiet_passes (by rintro _ rfl; cases uninstalls))
    ((quiet_writable _).updatable _)
    ((quiet_writable _).updatable _) (quiet_writable _)
  have process : Triple (machine settings) contract (Noted Quiet) (processDeleteRequest settings)
      fun _ => Shown := by
    refine processDeleteRequest_triple settings ?_ ?_
    · exact deleteRequest_shows.given
    · exact daemonSet.given.post fun _ => quiet_shown
  have store (outcome : Except Exit PUnit) : Triple (machine settings) contract Shown
      (storeStatusAfterDelete outcome) fun _ => Noted Anything := by
    have handOn : Maintains (machine settings) contract (Noted Anything) (resume outcome) := by
      cases outcome with
      | ok _ => exact maintains_pure _
      | error exit => exact maintains_throw exit
    have stored : Triple (machine settings) contract Shown updateKataConfigStatus fun _ => Noted Anything :=
      stores_shown.post fun _ _ _ _ => trivial
    refine Triple.attempt_bind stored fun updated => ?_
    split
    · exact handOn
    · refine Maintains.bind_triple maintains_get (fun r => ?_) fun _ _ _ => id
      split
      · exact maintains_throw _
      · exact handOn
  refine Maintains.bind_triple (quiet_passes (by simp) Exit) (fun _ => ?_) fun _ _ _ _ => trivial
  refine Triple.attempt_bind process fun outcome => ?_
  split
  · exact store _
  · split
    · exact triple_throw fun _ _ _ => trivial
    · exact store _

theorem reconcile_triple (key : Key) : Triple (machine settings) contract (Noted Quiet)
    (reconcileRoutine settings key) fun _ => Noted Anything :=
  world_reconcile settings key (fun _ _ => trivial) (world_classes (quiet_writable _)) deletes_triple
    installs_triple

end Reconciliation

theorem sound (settings : Settings) : (system settings).Sound (initially .idle) contract (Noted Anything)
    fun outcome => Noted Anything outcome.2 :=
  operator_sound (fun _ => Noted Quiet) (fun _ => Noted Anything) (fun _ _ => trivial)
    (fun _ _ _ _ _ => .inl rfl) reconcile_triple (fun _ _ _ _ _ => trivial) fun _ _ _ => trivial

end StatusStage

/-- A node fails while the pool `kata-oc` is updating, and the reconciliation that
follows up on it begins. -/
def failureWhileUpdating : Script :=
  machineConfigCluster (workerAt "node" "Degraded" "plain" []) ++
    others [.create .kataConfig exampleKataConfig] ++ [.start exampleKey] ++ answered 36 ++ [.finish] ++
    others [poolReports "kata-oc" true] ++ [.start exampleKey]

def storesFailure (shown : Bool) (stage : StatusStage) : Req → Bool
  | .updateStatus .kataConfig kataConfig => stage = .computed shown &&
      (statusOf kataConfig).failedNodes ≠ [] && (statusOf kataConfig).hasReason "Failed" = shown
  | _ => false

theorem storesFailure_eq {shown : Bool} {stage : StatusStage} {r : Req}
    (stores : storesFailure shown stage r = true) : ∃ kataConfig, r = .updateStatus .kataConfig kataConfig ∧
      stage = .computed shown ∧ (statusOf kataConfig).failedNodes ≠ [] ∧
        (statusOf kataConfig).hasReason "Failed" = shown := by
  unfold storesFailure at stores
  split at stores
  · rename_i kataConfig
    exact ⟨kataConfig, rfl, by simpa [and_assoc] using stores⟩
  · cases stores

/-- The pool is done and the node is still degraded: the condition goes. -/
theorem failedNodes_hidden : ∃ w kataConfig updating,
    (operator plainSettings statusStages {}).Issues (initially .idle) w
      (.updateStatus .kataConfig kataConfig) ∧ w.2 = .computed updating ∧
      (statusOf kataConfig).failedNodes ≠ [] ∧ (statusOf kataConfig).hasReason "Failed" = false := by
  have ends : endsAt plainSettings statusStages {} .idle (failureWhileUpdating ++ answered 35 ++ [.finish] ++
      others [poolReports "kata-oc" false] ++ [.start exampleKey] ++ answered 55)
      (fun w r => storesFailure false w.2 r) = true := by decide +kernel
  obtain ⟨w, r, issued, stores⟩ := issues_of_endsAt ends
  obtain ⟨kataConfig, rfl, computed, failed, hidden⟩ := storesFailure_eq stores
  exact ⟨w, kataConfig, false, issued, computed, failed, hidden⟩

/-- In every execution of the operator: a reconciliation that has found the pool it
waits for updating stores failed nodes with the condition to go with them. -/
theorem failedNodes_shown_while_updating (settings : Settings) {w : Cluster × StatusStage}
    {kataConfig : KataConfig}
    (stored : (operator settings statusStages {}).Issues (initially .idle) w
      (.updateStatus .kataConfig kataConfig))
    (updating : w.2 = .computed true) (failed : (statusOf kataConfig).failedNodes ≠ []) :
    (statusOf kataConfig).hasReason "Failed" = true :=
  (StatusStage.sound settings).good stored kataConfig rfl updating failed

/-- The node is reported while the pool is updating. -/
theorem failedNodes_shown_degraded : ∃ w kataConfig,
    (operator plainSettings statusStages {}).Issues (initially .idle) w
      (.updateStatus .kataConfig kataConfig) ∧ w.2 = .computed true ∧
      (statusOf kataConfig).failedNodes ≠ [] ∧ (statusOf kataConfig).hasReason "Failed" = true := by
  have ends : endsAt plainSettings statusStages {} .idle (failureWhileUpdating ++ answered 33)
      (fun w r => storesFailure true w.2 r) = true := by decide +kernel
  obtain ⟨w, r, issued, stores⟩ := issues_of_endsAt ends
  obtain ⟨kataConfig, rfl, computed, failed, _⟩ := storesFailure_eq stores
  exact ⟨w, kataConfig, issued, computed, failed,
    failedNodes_shown_while_updating plainSettings issued computed failed⟩

end SandboxedContainers
