import SandboxedContainers.Runs

/-!
# The pool an uninstallation waits for

Before `processKataConfigDeleteRequest` removes the finalizer it asks whether the
cluster is converged, and samples the pool its nodes rejoin.  A failed answer to
either question counts as "no".  The monitor records what was asked and answered
in the current reconciliation.
-/

namespace SandboxedContainers

open Lib Routine

/-- How far the reconciliation is with looking at the pool. -/
inductive SamplingStage where
  | before
  /-- Finding out which pool it is. -/
  | choosing
  /-- About to read the pool. -/
  | sampling (pool : String)
  /-- The pool was read; without an answer, or with its condition `Updating`. -/
  | sampled (pool : String) (updating : Option Bool)
  deriving DecidableEq

structure PoolSampling where
  /-- Whether the reconciliation runs `processKataConfigDeleteRequest`. -/
  deleting : Bool := false
  stage : SamplingStage := .before
  /-- Whether a request of the convergence check failed. -/
  checkFailed : Bool := false
  /-- The pool the nodes rejoin, by the pools the server had at the check. -/
  rejoined : String := ""

def targetPool (isConvergedCluster : Bool) : String :=
  if isConvergedCluster then "master" else "worker"

def rejoinedPool (s : Cluster) : String :=
  targetPool (s.served .machineConfigPool && isConvergedPoolList (s.objs .machineConfigPool).items)

/-- Whether an answer says nothing about the cluster. -/
def failedTransiently {α : Type} : Except ApiError α → Bool
  | .ok _ => false
  | .error error => error.Transient

def PoolSampling.check {α : Type} (sampling : PoolSampling) (s : Cluster) (answer : Except ApiError α) :
    PoolSampling :=
  { sampling with
    checkFailed := sampling.checkFailed || failedTransiently answer
    rejoined := rejoinedPool s }

def poolSampling : Monitor PoolSampling where
  start _ _ _ := {}
  call s r response _ sampling := match r, response with
    | .mark ⟨.deleteRequest, _⟩, _ => { deleting := true }
    | .mark ⟨.chooseTargetPool, _⟩, _ => { sampling with stage := .choosing, checkFailed := false }
    | .mark ⟨.samplePool pool, _⟩, _ => match sampling.stage with
        | .choosing => { sampling with stage := .sampling pool }
        | _ => sampling
    | .get .machineConfigPool _, answer => match sampling.stage with
        | .choosing => sampling.check s answer
        | .sampling pool => { sampling with
            stage := .sampled pool (answer.toOption.map fun mcp => (poolStatus mcp).isUpdating) }
        | _ => sampling
    | .list .machineConfigPool _, answer => match sampling.stage with
        | .choosing => sampling.check s answer
        | _ => sampling
    | _, _ => sampling

def PoolSampling.FoundIdle (sampling : PoolSampling) : Prop :=
  sampling.stage = .sampled sampling.rejoined (some false)

/-- The pool that was sampled could be read, and the convergence check did not
fail, or failed on a cluster that is not converged. -/
def PoolSampling.Answered (sampling : PoolSampling) : Prop :=
  (∃ pool updating, sampling.stage = .sampled pool (some updating)) ∧
    (sampling.checkFailed = false ∨ sampling.rejoined = targetPool false)

namespace PoolSampling

def contract : Contract Req (Cluster × PoolSampling) where
  good w r := ∀ m, r = .mark m → m.point = .removeFinalizer → w.2.deleting = true →
    (w.2.FoundIdle ↔ w.2.Answered)
  mid _ := True

section

variable (settings : Settings)

abbrev system := operator settings poolSampling {}

abbrev machine := (system settings).toMachine

end

/-- Outside of `processKataConfigDeleteRequest`. -/
def Outside (sampling : PoolSampling) : Prop := sampling.deleting = false

def Early (sampling : PoolSampling) : Prop := sampling.stage = .before

/-- The convergence check runs and no request of it has failed. -/
def Choosing (sampling : PoolSampling) : Prop :=
  sampling.stage = .choosing ∧ sampling.checkFailed = false

/-- What the result of the convergence check says about the cluster. -/
def Known (isConverged : Bool) (sampling : PoolSampling) : Prop :=
  (sampling.checkFailed = false ∧ sampling.rejoined = targetPool isConverged) ∨
    (sampling.checkFailed = true ∧ isConverged = false)

def Chosen (isConverged : Bool) (sampling : PoolSampling) : Prop :=
  sampling.stage = .choosing ∧ Known isConverged sampling

/-- The pool was sampled; without an answer it counts as not updating. -/
def Sampled (isConverged isUpdating : Bool) (sampling : PoolSampling) : Prop :=
  Known isConverged sampling ∧ ∃ answer : Option Bool, answer.getD false = isUpdating ∧
    sampling.stage = .sampled (targetPool isConverged) answer

/-- Once a pool counts as not updating, it was found so exactly if the answers
that led there were real. -/
theorem Sampled.foundIdle_iff {isConverged : Bool} {sampling : PoolSampling}
    (sampled : Sampled isConverged false sampling) : sampling.FoundIdle ↔ sampling.Answered := by
  obtain ⟨known, answer, idle, stage⟩ := sampled
  constructor
  · intro found
    obtain ⟨rejoined, rfl⟩ : targetPool isConverged = sampling.rejoined ∧ answer = some false := by
      simpa [FoundIdle, stage] using found
    refine ⟨⟨_, _, stage⟩, ?_⟩
    rcases known with ⟨passed, _⟩ | ⟨_, rfl⟩
    · exact .inl passed
    · exact .inr rejoined.symm
  · rintro ⟨⟨pool, updating, read⟩, reliable⟩
    obtain ⟨rfl, rfl⟩ : targetPool isConverged = pool ∧ answer = some updating := by
      simpa [stage] using read
    obtain rfl : updating = false := idle
    have rejoined : sampling.rejoined = targetPool isConverged := by
      rcases known with ⟨_, same⟩ | ⟨failed, rfl⟩
      · exact same
      · rcases reliable with passed | same
        · rw [failed] at passed
          cases passed
        · exact same
    rw [FoundIdle, rejoined]
    exact stage

section Assertions

variable {settings : Settings} {p : PoolSampling → Prop}

instance : Invariant (machine settings) contract (Noted p) :=
  noted_invariant (fun _ _ _ _ => id) fun _ _ => trivial

theorem call_of_not_looking {s s' : Cluster} {r : Req} {response : Response r}
    {sampling : PoolSampling} (notMark : ∀ m, r ≠ .mark m) (notChoosing : sampling.stage ≠ .choosing)
    (notSampling : ∀ pool, sampling.stage ≠ .sampling pool) :
    poolSampling.call s r response s' sampling = sampling := by
  simp only [poolSampling]
  split
  · exact absurd rfl (notMark _)
  · exact absurd rfl (notMark _)
  · exact absurd rfl (notMark _)
  · rfl
  · rfl
  · rfl

theorem deleting_call {s s' : Cluster} {r : Req} {response : Response r} {sampling : PoolSampling}
    (notMark : ∀ m, r ≠ .mark m) :
    (poolSampling.call s r response s' sampling).deleting = sampling.deleting := by
  simp only [poolSampling]
  split
  · exact absurd rfl (notMark _)
  · exact absurd rfl (notMark _)
  · exact absurd rfl (notMark _)
  · split <;> rfl
  · split <;> rfl
  · rfl

theorem outside_admits {r : Req} (notMark : ∀ m, r ≠ .mark m) :
    Admits (machine settings) contract (Noted Outside) r :=
  noted_admits (fun _ _ => good_of_not_mark notMark)
    fun _ _ _ _ outside => (deleting_call notMark).trans outside

theorem outside_writable (k : Kind) : Writable (machine settings) contract (Noted Outside) k :=
  fun _ writes => outside_admits (writes_not_mark writes)

instance : Lenient (machine settings) contract (Noted Outside) :=
  world_lenient fun _ aside => outside_admits (isAside_not_mark aside)

instance : KeepsWebhook settings (machine settings) contract (Noted Outside) :=
  keepsWebhook_of_writable settings fun k _ => outside_writable k

instance : Lenient (machine settings) contract (Noted Anything) :=
  world_lenient fun _ aside => noted_admits (fun _ _ => good_of_not_mark (isAside_not_mark aside))
    fun _ _ _ _ _ => trivial

def Idle (p : PoolSampling → Prop) : Prop :=
  ∀ sampling, p sampling →
    sampling.stage ≠ .choosing ∧ ∀ pool, sampling.stage ≠ .sampling pool

theorem Idle.admits (idle : Idle p) {r : Req} (notMark : ∀ m, r ≠ .mark m) :
    Admits (machine settings) contract (Noted p) r := by
  refine noted_admits (fun _ _ => good_of_not_mark notMark) fun s response s' sampling holds => ?_
  rw [call_of_not_looking notMark (idle sampling holds).1 (idle sampling holds).2]
  exact holds

theorem Idle.lenient (idle : Idle p) : Lenient (machine settings) contract (Noted p) :=
  world_lenient fun _ aside => idle.admits (isAside_not_mark aside)

theorem Idle.writable (idle : Idle p) (k : Kind) : Writable (machine settings) contract (Noted p) k :=
  fun _ writes => idle.admits (writes_not_mark writes)

theorem early_idle : Idle Early := by
  intro sampling early
  simp [show sampling.stage = .before from early]

theorem sampled_idle (isConverged isUpdating : Bool) : Idle (Sampled isConverged isUpdating) := by
  rintro sampling ⟨_, answer, _, stage⟩
  simp [stage]

instance : Lenient (machine settings) contract (Noted Early) := early_idle.lenient

instance (isConverged isUpdating : Bool) :
    Lenient (machine settings) contract (Noted (Sampled isConverged isUpdating)) :=
  (sampled_idle isConverged isUpdating).lenient

instance (isConverged isUpdating : Bool) :
    KeepsWebhook settings (machine settings) contract (Noted (Sampled isConverged isUpdating)) :=
  keepsWebhook_of_writable settings fun k _ => (sampled_idle isConverged isUpdating).writable k

end Assertions

section Deleting

variable {settings : Settings}

theorem good_of_point {w : Cluster × PoolSampling} {point : Point} {kataConfig : KataConfig}
    (other : point ≠ .removeFinalizer) : contract.good w (.mark ⟨point, kataConfig⟩) := by
  rintro m ⟨rfl⟩ isRemoval
  exact absurd isRemoval other

theorem Choosing.check {α : Type} {sampling : PoolSampling} {s : Cluster} (answer : Except ApiError α)
    (choosing : Choosing sampling) (real : failedTransiently answer = false) :
    Choosing (sampling.check s answer) ∧ (sampling.check s answer).rejoined = rejoinedPool s :=
  ⟨⟨choosing.1, by simp [PoolSampling.check, choosing.2, real]⟩, rfl⟩

theorem Choosing.check_failed {α : Type} {sampling : PoolSampling} {s : Cluster} {error : ApiError}
    (choosing : Choosing sampling) (transient : error.Transient) :
    Chosen false (sampling.check s (.error error : Except ApiError α)) :=
  ⟨choosing.1, .inr ⟨by simp [PoolSampling.check, failedTransiently, transient], rfl⟩⟩

theorem Choosing.check_unserved {α : Type} {sampling : PoolSampling} {s : Cluster}
    (choosing : Choosing sampling) (unserved : s.served .machineConfigPool = false) :
    Chosen false (sampling.check s (.error Store.noMatch : Except ApiError α)) := by
  obtain ⟨checked, rejoined⟩ := choosing.check (.error Store.noMatch : Except ApiError α)
    (s := s) (by simp [failedTransiently, Store.noMatch, ApiError.Transient])
  exact ⟨checked.1, .inl ⟨checked.2, by simp [rejoined, rejoinedPool, unserved]⟩⟩

theorem call_get {s s' : Cluster} {key : Key} {response} {sampling : PoolSampling}
    (choosing : Choosing sampling) :
    poolSampling.call s (.get .machineConfigPool key) response s' sampling = sampling.check s response := by
  simp [poolSampling, choosing.1]

theorem call_list {s s' : Cluster} {selector : Selector} {response} {sampling : PoolSampling}
    (choosing : Choosing sampling) :
    poolSampling.call s (.list .machineConfigPool selector) response s' sampling =
      sampling.check s response := by
  simp [poolSampling, choosing.1]

theorem chooses_triple {ε : Type} : Triple (machine settings) contract (Noted Choosing)
    (isConvergedAndKnown : Op ε Bool) fun result => Noted (Chosen (result.toOption.getD false)) := by
  refine isConvergedAndKnown_triple (Q := fun isConverged => Noted (Chosen isConverged))
    (checkConvergedCluster_triple (fun _ _ _ => good_of_not_mark (by simp))
      (fun _ _ _ => good_of_not_mark (by simp)) ?_ ?_)
  · rintro memory ⟨s, sampling⟩ response w' choosing reply
    obtain ⟨s', answered, rfl, _⟩ := operator_answered reply
    rw [call_get choosing]
    cases response with
    | ok mcp => exact (choosing.check _ rfl).1
    | error error =>
      obtain ⟨_, transient | ⟨rfl, _⟩ | ⟨rfl, unserved⟩⟩ := answered.get_error
      · have known : probed (.error error) = .error (.api error) := by
          rcases transient with other | conflict
          · simp [probed, Err.isNotFound, Err.isNoMatchError, Err.reason?, other]
          · simp [probed, Err.isNotFound, Err.isNoMatchError, Err.reason?, conflict]
        rw [known]
        exact choosing.check_failed transient
      · exact (choosing.check _ rfl).1
      · exact choosing.check_unserved unserved
  · rintro memory ⟨s, sampling⟩ response w' choosing reply
    obtain ⟨s', answered, rfl, _⟩ := operator_answered reply
    rw [call_list choosing]
    cases response with
    | ok pools =>
      obtain ⟨_, served, rfl⟩ := answered.list_ok
      obtain ⟨checked, rejoined⟩ := choosing.check (s := s) (.ok _) rfl
      refine ⟨checked.1, .inl ⟨checked.2, rejoined.trans ?_⟩⟩
      change s.served .machineConfigPool = true at served
      simp [rejoinedPool, served, listedPools, Selector.accepts, Except.toOption]
    | error error =>
      obtain ⟨_, transient | ⟨rfl, unserved⟩⟩ := answered.list_error
      · have known : listedPools (.error error) = .error (.api error) := by
          rcases transient with other | conflict
          · simp [listedPools, Err.isNoMatchError, Err.reason?, other]
          · simp [listedPools, Err.isNoMatchError, Err.reason?, conflict]
        rw [known]
        exact choosing.check_failed transient
      · exact choosing.check_unserved unserved

def Asking (isConverged : Bool) (sampling : PoolSampling) : Prop :=
  sampling.stage = .sampling (targetPool isConverged) ∧ Known isConverged sampling

theorem samples_triple {ε : Type} (isConverged : Bool) :
    Triple (machine settings) contract (Noted (Chosen isConverged))
      (isMcpUpdating (targetPool isConverged) : Op ε Bool)
      fun result => Noted (Sampled isConverged (result.toOption.getD false)) := by
  refine isMcpUpdating_triple (R := Noted (Asking isConverged))
    (Q := fun isUpdating => Noted (Sampled isConverged isUpdating))
    (fun _ _ _ => good_of_point (by simp)) (fun _ _ _ => good_of_not_mark (by simp)) ?_ ?_ ?_
  · rintro memory ⟨s, deleting, stage, checkFailed, rejoined⟩ w' ⟨rfl, known⟩ reply
    rw [operator_mark reply]
    exact ⟨rfl, known⟩
  · rintro memory ⟨s, deleting, stage, checkFailed, rejoined⟩ mcp w' ⟨rfl, known⟩ reply
    obtain ⟨s', _, rfl, _⟩ := operator_answered reply
    exact ⟨known, _, rfl, rfl⟩
  · rintro memory ⟨s, deleting, stage, checkFailed, rejoined⟩ error w' ⟨rfl, known⟩ reply
    obtain ⟨s', _, rfl, _⟩ := operator_answered reply
    exact ⟨known, _, rfl, rfl⟩

theorem finishDeletion_sampled (isConverged : Bool) :
    Maintains (machine settings) contract (Noted (Sampled isConverged false))
      (finishDeletion settings isConverged) := by
  refine finishDeletion_maintains settings (fun ε => noted_mark ?_ ?_)
    ((sampled_idle _ _).writable _).deletable ((sampled_idle _ _).writable _).deletable isConverged
  · intro w kataConfig sampled m _ _ _
    exact sampled.foundIdle_iff
  · exact fun _ _ _ => id

theorem concludeDeletion_sampled (isConverged isUpdating : Bool) :
    Maintains (machine settings) contract (Noted (Sampled isConverged isUpdating))
      (concludeDeletion settings isConverged isUpdating) := by
  refine maintains_bind reconciler_maintains fun r => ?_
  split
  · exact maintains_pure _
  · refine maintains_bind (setWaitingForMcoToStart_maintains false) fun _ => ?_
    refine maintains_bind (maintains_ignore (updateStatus_maintains settings pliant_conditions)) fun _ => ?_
    cases isUpdating with
    | true => exact maintains_pure _
    | false => exact finishDeletion_sampled isConverged

theorem awaitDeletion_triple (labelingChanged isMcDeleted : Bool) :
    Triple (machine settings) contract (Noted Early) (awaitDeletion settings labelingChanged isMcDeleted)
      fun _ => Noted Anything := by
  refine Triple.bind (noted_mark (q := Choosing) (fun _ _ _ => good_of_point (by simp)) ?_)
    (fun _ => ?_) fun _ _ _ _ => trivial
  · exact fun _ _ _ _ => ⟨rfl, rfl⟩
  refine Triple.bind chooses_triple (fun isConverged => ?_) fun _ _ _ _ => trivial
  refine triple_when (maintains_modify fun _ _ => id) ?_ fun _ _ _ _ => trivial
  refine Triple.bind (samples_triple isConverged) (fun isUpdating => ?_) fun _ _ _ _ => trivial
  exact (concludeDeletion_sampled isConverged isUpdating).post fun _ _ _ _ => trivial

theorem passes {p : PoolSampling → Prop} {point : Point} (other : point ≠ .removeFinalizer)
    (kept : ∀ s kataConfig sampling, p sampling →
      p (poolSampling.call s (.mark ⟨point, kataConfig⟩) ⟨⟩ s sampling)) :
    Passes (machine settings) contract (Noted p) point :=
  fun _ => noted_mark (fun _ _ _ => good_of_point other) fun s sampling kataConfig => kept s kataConfig sampling

theorem deleteRequest_triple : Triple (machine settings) contract (Noted Outside)
    (processKataConfigDeleteRequest settings) fun _ => Noted Anything := by
  have unlabel (selector : Selector) :=
    unlabelNodes_maintains (M := machine settings) (C := contract) (A := Noted Early)
      (passes (by simp) fun _ _ _ => id) ((early_idle.writable _).updatable _) selector
  refine processKataConfigDeleteRequest_triple (A := Noted Early) (B := Noted Early) settings ?_ ?_
    (fun selector => Maintains.onward (maintains_orElse (unlabel selector)) fun _ _ _ _ => trivial)
    (fun pool => (removeMc_maintains settings (early_idle.writable _).deletable pool).onward fun _ _ _ _ => trivial)
    awaitDeletion_triple fun _ _ _ _ => trivial
  · exact noted_mark (fun _ _ _ => good_of_point (by simp)) fun _ _ _ _ => rfl
  · exact (checkDeletionEligibility_maintains (passes (by simp) fun _ _ _ => id)).onward
      fun _ _ _ _ => trivial

theorem outside_passes {point : Point} (other : point ≠ .deleteRequest) :
    Passes (machine settings) contract (Noted Outside) point := by
  refine fun ε => noted_mark ?_ ?_
  · intro w kataConfig outside m _ _ deleting
    rw [outside] at deleting
    cases deleting
  · intro s sampling kataConfig outside
    cases point with
    | deleteRequest => exact absurd rfl other
    | samplePool pool =>
      simp only [poolSampling]
      split <;> exact outside
    | _ => exact outside

theorem deletes_triple : Triple (machine settings) contract (Noted Outside) (deleteBranch settings)
    fun _ => Noted Anything := by
  refine Maintains.bind_triple (outside_passes (by simp) Exit) (fun _ => ?_) fun _ _ _ _ => trivial
  refine deleteAndStoreStatus_triple settings (processDeleteRequest_triple settings ?_ ?_)
  · exact deleteRequest_triple.given
  · have daemonSet := processKataConfigDeleteRequestDaemonSet_maintains (A := Noted Outside)
      (M := machine settings) (C := contract) settings
      (fun _ uninstalls => outside_passes (by rintro rfl; cases uninstalls)) ((outside_writable _).updatable _)
      ((outside_writable _).updatable _) (outside_writable _)
    exact daemonSet.given.post fun _ _ _ _ => trivial

theorem installs_triple (oldObjStatus : KataConfigStatus) :
    Triple (machine settings) contract (Noted Outside) (installBranch settings oldObjStatus)
      fun _ => Noted Outside := by
  have commences : Commences (machine settings) contract (Noted Outside) := world_commences
  exact installBranch_maintains settings commences
    (fun _ _ installs => outside_passes (by rintro rfl; cases installs))
    (fun _ => (outside_writable _).updatable _) ((outside_writable _).updatable _)
    (createMc_maintains settings (outside_writable _)) (outside_writable _) (outside_writable _)
    (world_creates (outside_writable _)) oldObjStatus

theorem reconcile_triple (key : Key) : Triple (machine settings) contract (Noted Outside)
    (reconcileRoutine settings key) fun _ => Noted Anything :=
  world_reconcile settings key (fun _ _ => trivial) (world_classes (outside_writable _)) deletes_triple
    fun status => (installs_triple status).post fun _ _ _ _ => trivial

end Deleting

theorem sound (settings : Settings) : (system settings).Sound (initially {}) contract (Noted Anything)
    fun outcome => Noted Anything outcome.2 :=
  operator_sound (fun _ => Noted Outside) (fun _ => Noted Anything)
    (fun _ _ => trivial) (fun _ _ _ _ _ => rfl) reconcile_triple (fun _ _ _ _ _ => trivial)
    fun _ _ _ => trivial

end PoolSampling

instance (sampling : PoolSampling) : Decidable sampling.FoundIdle :=
  inferInstanceAs (Decidable (_ = _))

/-- A `KataConfig` that is being deleted, and the first requests of a
reconciliation of it, up to the one that samples the pool. -/
def deletionUpToSample (updating : Bool) : Script :=
  others [.create .clusterVersion exampleVersion, .create .kataConfig finalizedKataConfig,
    .delete .kataConfig exampleKey] ++ poolAppears "worker" updating ++ [.start exampleKey] ++ answered 29

/-- The pool `worker` is updating, its sample fails, and the finalizer goes. -/
theorem removes_finalizer_while_updating : ∃ w m,
    (operator plainSettings poolSampling {}).Issues (initially {}) w (.mark m) ∧
      m.point = .removeFinalizer ∧ w.2.deleting = true ∧ ¬w.2.FoundIdle ∧
      ∃ mcp ∈ (w.1.objs .machineConfigPool).items,
        mcp.metadata.name = "worker" ∧ (poolStatus mcp).isUpdating = true := by
  have ends : endsAtMark plainSettings poolSampling {} {}
      (deletionUpToSample true ++ [.answer (.dropped ⟨.other, "timeout"⟩)] ++ answered 14)
      (fun w m => m.point = .removeFinalizer ∧ w.2.deleting = true ∧ ¬w.2.FoundIdle ∧
        ∃ mcp ∈ (w.1.objs .machineConfigPool).items,
          mcp.metadata.name = "worker" ∧ (poolStatus mcp).isUpdating = true) = true := by
    decide +kernel
  obtain ⟨w, m, issued, checked⟩ := issues_of_endsAtMark ends
  exact ⟨w, m, issued, of_decide_eq_true checked⟩

/-- Whatever fails and whatever others do: where `processKataConfigDeleteRequest`
removes the finalizer, the reconciliation has read the pool the nodes rejoin and
found it not updating exactly if it got real answers. -/
theorem removes_finalizer_idle_iff (settings : Settings) {w : Cluster × PoolSampling} {m : Mark}
    (issued : (operator settings poolSampling {}).Issues (initially {}) w (.mark m))
    (removal : m.point = .removeFinalizer) (deleting : w.2.deleting = true) :
    w.2.FoundIdle ↔ w.2.Answered :=
  (PoolSampling.sound settings).good issued m rfl removal deleting

/-- The pool is read and not updating. -/
theorem removes_finalizer_idle_iff_read : ∃ w m,
    (operator plainSettings poolSampling {}).Issues (initially {}) w (.mark m) ∧
      m.point = .removeFinalizer ∧ w.2.deleting = true ∧ w.2.FoundIdle ∧ w.2.Answered := by
  have ends : endsAtMark plainSettings poolSampling {} {} (deletionUpToSample false ++ answered 15)
      (fun w m => m.point = .removeFinalizer ∧ w.2.deleting = true ∧ w.2.FoundIdle) = true := by
    decide +kernel
  obtain ⟨w, m, issued, checked⟩ := issues_of_endsAtMark ends
  obtain ⟨removal, deleting, found⟩ := of_decide_eq_true checked
  exact ⟨w, m, issued, removal, deleting, found,
    (removes_finalizer_idle_iff plainSettings issued removal deleting).mp found⟩

end SandboxedContainers
