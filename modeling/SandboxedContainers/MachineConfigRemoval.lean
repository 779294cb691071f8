import SandboxedContainers.MachineConfigChoice
import SandboxedContainers.Removal

/-!
# MachineConfigs and the end of their KataConfig

A delete request removes the MachineConfig and the pool `kata-oc` only if it goes
through MachineConfigs itself.  It goes on if the MachineConfig cannot be deleted.
-/

namespace SandboxedContainers

open Lib Routine

/-- A delete request through DaemonSets finds nothing of what goes through
MachineConfigs; the MachineConfig can be deleted; and pools are listed on a cluster
that has a pool `master`. -/
def mcsRemovable (w : Cluster × Custody) : Req → Bool
  | .mark ⟨.deleteRequestDaemonSet, kataConfig⟩ =>
    !decide (Custody.Holds true .machineConfig kataConfig.metadata.uid w) &&
      !decide (Custody.Holds false .machineConfigPool kataConfig.metadata.uid w)
  | .list .machineConfigPool _ => (w.1.find? .machineConfigPool (poolKey "master")).isSome
  | _ => true

def deletesMc : Req → Bool
  | .delete .machineConfig _ => true
  | _ => false

/-- Besides, nobody else writes the two MachineConfigs, and every `KataConfig` that is
reconciled has one name. -/
def mcsTakenDown (name : String) : Rules Custody where
  start key _ := key.name = name
  answer w r response _ := mcsRemovable w r && !(deletesMc r && deletionFailed r response)
  env _ change _ := change.sparesMcs

namespace MachineConfigRemoval

open Custody Removal MachineConfigChoice

instance {name : String} : SparesMcs (mcsTakenDown name) := ⟨fun allowed => allowed⟩

def kept : List (Bool × Kind) := [(true, .machineConfig), (false, .machineConfigPool)]

def halfway : List (Bool × Kind) := [(true, .machineConfig)]

theorem kept_unowned : ∀ entry ∈ kept, entry.2.isUnowned = true := by simp [kept, Kind.isUnowned]

theorem halfway_unowned : ∀ entry ∈ halfway, entry.2.isUnowned = true := by simp [halfway, Kind.isUnowned]

noncomputable abbrev rules (name : String) : Rules Custody := (mcsTakenDown name).knowing fun w => Placed name w.1

noncomputable abbrev machine (settings : Settings) (name : String) := Removal.machine settings (rules name)

abbrev contract : Contract Req (Cluster × Custody) := Removal.contract kept

section Steps

variable {settings : Settings} {name : String}

instance : Pliant (machine settings name) contract (World (ClearOf kept [])) :=
  clearOf_pliant kept_unowned (by simp)

instance : Pliant (machine settings name) contract (World (ClearOf kept halfway)) :=
  clearOf_pliant kept_unowned halfway_unowned

instance : Pliant (machine settings name) contract (World (ClearOf kept kept)) :=
  clearOf_pliant kept_unowned kept_unowned

theorem allowed_of_reply {w w' : Cluster × Custody} {r : Req} {response : Response r}
    (reply : (machine settings name).answer w r response w') :
    mcsRemovable w r = true ∧ (deletesMc r = true → deletionFailed r response = false) := by
  obtain ⟨_, _, _, allowed⟩ := operator_answered reply
  have allowed := Rules.knowing_answer (Rules.assuming_answer allowed).1
  obtain ⟨removable, deleted⟩ := Bool.and_eq_true_iff.mp allowed
  exact ⟨removable, fun deletes => by simpa [deletes] using deleted⟩

theorem halfway_of_absent {w : Cluster × Custody} (clear : ClearOf kept [] w) (absent : ¬Present w.1) :
    ClearOf kept halfway w := by
  refine ⟨clear.orderly, fun entry member uid _ => ?_⟩
  obtain rfl := List.mem_singleton.mp member
  refine not_holds fun key placed object found => absurd ?_ absent
  have either : key = ⟨"", extensionMcName⟩ ∨ key = ⟨"", imageMcName⟩ := by simpa [Kind.places] using placed
  rcases either with rfl | rfl
  · exact ⟨_, mem_extension, Option.isSome_iff_exists.mpr ⟨object, found⟩⟩
  · exact ⟨_, mem_image, Option.isSome_iff_exists.mpr ⟨object, found⟩⟩

theorem clear_of_vacant {w : Cluster × Custody} (clear : ClearOf kept halfway w)
    (vacant : ∀ pool, w.1.find? .machineConfigPool (poolKey "kata-oc") = some pool →
      pool.metadata.deletionTimestamp = true) : ClearOf kept kept w := by
  refine ⟨clear.orderly, fun entry member uid leaving => ?_⟩
  rcases List.mem_cons.mp member with rfl | member
  · exact clear.clear (true, .machineConfig) (List.mem_singleton.mpr rfl) uid leaving
  · obtain rfl := List.mem_singleton.mp member
    refine not_holds fun key placed pool found => ⟨rfl, vacant pool ?_⟩
    obtain rfl := List.mem_singleton.mp placed
    exact found

theorem delete_sole (mcName : String) (found : MachineConfig) :
    Triple (machine settings name) contract (Both (World (ClearOf kept [])) (On (Sole mcName found)))
      (clientDelete .machineConfig ⟨"", mcName⟩) fun _ => World (ClearOf kept halfway) := by
  have sole : Framed (G := Custody) .free (Sole mcName found) := sole_framed
  have invariant : Invariant (machine settings name) .free (On (Sole mcName found)) := sole.invariant
  have deletable : Deletable (machine settings name) contract (World (ClearOf kept [])) .machineConfig :=
    clearOf_deletable kept_unowned (by decide)
  have vacant {memory : Reconciler} {w w' : Cluster × Custody} {response}
      (holds : Both (World (ClearOf kept [])) (On (Sole mcName found)) memory w)
      (reply : (machine settings name).answer w (.delete .machineConfig (mcKey mcName)) response w')
      (gone : w'.1.find? .machineConfig (mcKey mcName) = none) : ClearOf kept halfway w' := by
    refine halfway_of_absent ((deletable _ memory w holds.1).2 _ w' reply) ?_
    rintro ⟨other, member, present⟩
    by_cases same : other = mcName
    · simp [same, gone] at present
    · have kept : w'.1.find? .machineConfig (mcKey other) = w.1.find? .machineConfig (mcKey other) :=
        Answered.find?_other reply.1 fun target =>
          same (congrArg Key.name (congrArg Prod.snd (Option.some.inj target))).symm
      rw [kept, holds.2.others other member same] at present
      cases present
  refine ask_bind_triple (fun _ _ _ => trivial) ?_
  rintro memory w response w' holds reply
  cases response with
  | ok answer =>
    refine safe_result (Q := fun _ => World (ClearOf kept halfway)) (vacant holds reply (Answered.delete_gone reply.1 ?_))
    simp [holds.2.stored, holds.2.plain]
  | error error =>
    have missing : error.reason = .notFound := by
      simpa [deletionFailed] using (allowed_of_reply reply).2 rfl
    obtain ⟨same, absent⟩ := Answered.delete_notFound reply.1 missing
    exact safe_result (Q := fun _ => World (ClearOf kept halfway)) (vacant holds reply (by rw [same]; exact absent))

theorem vacant_of_converged {s : Cluster} (master : (s.find? .machineConfigPool (poolKey "master")).isSome = true)
    (converged : isConvergedPoolList (s.objs .machineConfigPool).items = true) :
    s.find? .machineConfigPool (poolKey "kata-oc") = none := by
  refine Option.eq_none_iff_forall_ne_some.mpr fun pool found => ?_
  obtain ⟨count, isWorker⟩ := Bool.and_eq_true_iff.mp converged
  obtain ⟨worker, member, named⟩ := List.any_eq_true.mp isWorker
  obtain ⟨other, stored⟩ := Option.isSome_iff_exists.mp master
  have workerName : worker.key.name = "worker" := of_decide_eq_true (Bool.and_eq_true_iff.mp named).1
  have poolName : pool.key.name = "kata-oc" := congrArg Key.name (Collection.find?_mem found).2
  have otherName : other.key.name = "master" := congrArg Key.name (Collection.find?_mem stored).2
  have distinct : [pool, worker, other].Nodup := by
    refine List.Nodup.of_map (fun object : MachineConfigPool => object.key.name) ?_
    simp [workerName, poolName, otherName]
  have subset : [pool, worker, other] ⊆ (s.objs .machineConfigPool).items := by
    simp [(Collection.find?_mem found).1, (Collection.find?_mem stored).1, member]
  have fits := (distinct.subperm subset).length_le
  have two : (s.objs .machineConfigPool).items.length = 2 := of_decide_eq_true count
  simp [two] at fits

def afterListing : Bool → List (Bool × Kind)
  | true => kept
  | false => halfway

instance : (isConverged : Bool) →
    Pliant (machine settings name) contract (World (ClearOf kept (afterListing isConverged)))
  | true => inferInstanceAs (Pliant _ _ (World (ClearOf kept kept)))
  | false => inferInstanceAs (Pliant _ _ (World (ClearOf kept halfway)))

theorem converged_triple : Triple (machine settings name) contract (World (ClearOf kept halfway))
    (isConvergedAndKnown : Op Exit Bool)
      fun result => World (ClearOf kept (afterListing (result.toOption.getD false))) := by
  have reads {r : Req} (reads : r.writes = none) (notMark : ∀ m, r ≠ .mark m) :
      Admits (machine settings name) contract (World (ClearOf kept halfway)) r :=
    Pliant.toTolerant.reads r reads notMark
  refine isConvergedAndKnown_triple (Q := fun isConverged => World (ClearOf kept (afterListing isConverged)))
    (checkConvergedCluster_triple (fun _ _ _ => trivial) (fun _ _ _ => trivial) ?_ ?_)
  · intro memory w response w' clear reply
    have kept := (reads rfl (by simp [poolProbe]) memory w clear).2 response w' reply
    split
    · exact kept
    · rename_i unavailable
      cases result : probed response with
      | error _ => exact kept
      | ok available =>
        cases available with
        | true => exact absurd result unavailable
        | false => exact kept
  · intro memory w response w' clear reply
    have kept := (reads rfl (by simp) memory w clear).2 response w' reply
    cases response with
    | error error =>
      simp only [listedPools]
      split <;> exact kept
    | ok pools =>
      obtain ⟨same, _, rfl⟩ := Answered.list_ok reply.1
      have all : ((w.1.objs .machineConfigPool).items.filter fun pool =>
          Selector.accepts [] pool.metadata.labels) = (w.1.objs .machineConfigPool).items := by
        simp [Selector.accepts]
      simp only [listedPools, all]
      cases converged : isConvergedPoolList (w.1.objs .machineConfigPool).items with
      | false => exact kept
      | true =>
        refine clear_of_vacant kept fun pool found => ?_
        rw [same, vacant_of_converged (allowed_of_reply reply).1 converged] at found
        cases found

def afterLooking : Except Err MachineConfigPool → List (Bool × Kind)
  | .ok _ => halfway
  | .error error => if error.isNotFound then kept else halfway

instance : (result : Except Err MachineConfigPool) →
    Invariant (machine settings name) contract (World (ClearOf kept (afterLooking result))) :=
  fun _ => clearOf_invariant

theorem deletePool_triple : Triple (machine settings name) contract (World (ClearOf kept halfway))
    deleteKataOcPool (Onward (World (ClearOf kept kept)) fun _ : Except Exit PUnit => World (Orderly kept)) := by
  have read : Admits (machine settings name) contract (World (ClearOf kept halfway))
      (.get .machineConfigPool (poolKey "kata-oc")) := Pliant.toTolerant.reads _ rfl (by simp)
  have deletable : Deletable (machine settings name) contract (World (ClearOf kept halfway)) .machineConfigPool :=
    clearOf_deletable kept_unowned (by decide)
  have looks : Triple (machine settings name) contract (World (ClearOf kept halfway))
      (clientGet .machineConfigPool (poolKey "kata-oc")) fun result => World (ClearOf kept (afterLooking result)) := by
    refine clientGet_triple (fun _ _ _ => trivial) ?_ ?_
    · exact fun memory w _ w' clear reply => (read memory w clear).2 _ w' reply
    · intro memory w error w' clear reply
      have left := (read memory w clear).2 _ w' reply
      change ClearOf kept (if (Err.api error).isNotFound then kept else halfway) w'
      split
      · rename_i missing
        obtain ⟨same, absent⟩ := Answered.get_notFound reply.1 (by simpa [Err.isNotFound, Err.reason?] using missing)
        refine clear_of_vacant left fun pool found => ?_
        rw [same] at found
        cases found.symm.trans absent
      · exact left
  refine Triple.bind (Q := Leaves (fun result => World (ClearOf kept (afterLooking result))) fun _ _ => False)
    (Triple.attempt looks) (fun result => ?_) fun _ _ _ never => never.elim
  cases result with
  | ok pool =>
    have deletes : Triple (machine settings name) contract (World (ClearOf kept halfway))
        (clientDelete .machineConfigPool (poolKey "kata-oc"))
        (Onward (World (ClearOf kept kept)) fun _ : Except Err PUnit => World (Orderly kept)) := by
      refine ask_bind_triple (fun _ _ _ => trivial) fun memory w response w' clear reply => ?_
      have left := (deletable _ memory w clear).2 _ w' reply
      cases response with
      | ok answer =>
        have gone : ClearOf kept kept w' :=
          clear_of_vacant left fun pool found => Answered.delete_terminates reply.1 found
        exact safe_result (σ := Reconciler) (ε := Err)
          (Q := Onward (World (ClearOf kept kept)) fun _ => World (Orderly kept)) gone
      | error error =>
        exact safe_result (σ := Reconciler)
          (Q := Onward (World (ClearOf kept kept)) fun _ => World (Orderly kept)) (ClearOf.orderly left)
    refine Triple.pre (P := World (ClearOf kept halfway)) (Triple.orElse (deletes.post ?_)) fun _ _ => id
    rintro (_ | _) memory w holds
    · exact holds
    · exact holds
  | error error =>
    refine Triple.pre (P := World (ClearOf kept (afterLooking (.error error)))) ?_ fun _ _ => id
    by_cases missing : error.isNotFound = true
    · simp only [afterLooking, missing, Bool.not_true, Bool.false_eq_true, if_false]
      exact triple_pure fun _ _ => id
    · simp only [afterLooking, missing, Bool.not_false, if_true]
      exact triple_throw fun _ _ holds => ClearOf.orderly holds

end Steps

section Requests

variable {settings : Settings} {name : String}

theorem enters_triple : Triple (machine settings name) contract (World (Calm kept))
    (mark .deleteRequest : Op Exit PUnit) fun _ => World (ClearOf kept []) := by
  refine mark_triple (fun _ _ _ => trivial) ?_
  rintro memory ⟨s, g⟩ w' calm answered
  rw [operator_mark answered]
  exact ⟨(Calm.orderly calm).mark, by simp⟩

theorem entersDaemonSet_triple : Triple (machine settings name) contract (World (Calm kept))
    (mark .deleteRequestDaemonSet : Op Exit PUnit) fun _ => World (ClearOf kept kept) := by
  refine mark_triple (fun _ _ _ => trivial) ?_
  rintro memory ⟨s, g⟩ w' calm reply
  obtain ⟨noMc, noPool⟩ := Bool.and_eq_true_iff.mp (allowed_of_reply reply).1
  rw [operator_mark reply]
  refine ⟨(Calm.orderly calm).mark, fun entry member uid leaving => ?_⟩
  cases leaving
  rcases List.mem_cons.mp member with rfl | member
  · have vacant : ¬Holds true .machineConfig memory.current.metadata.uid (s, g) := by simpa using noMc
    exact vacant
  · obtain rfl := List.mem_singleton.mp member
    have vacant : ¬Holds false .machineConfigPool memory.current.metadata.uid (s, g) := by simpa using noPool
    exact vacant

theorem remove_triple (pool : String) : Triple (machine settings name) contract
    (Both (World (ClearOf kept [])) (On (Working name))) (removeMc settings pool)
      (Onward (World (ClearOf kept halfway)) fun _ : Except Exit Bool => World (Orderly kept)) := by
  refine removeMc_triple (F := fun mc found => Both (World (ClearOf kept [])) (On (Sole mc.metadata.name found)))
    (fun _ _ holds => Working.rest holds.2) ?_ ?_ (fun mc found => delete_sole mc.metadata.name found)
    (fun _ _ _ holds => ClearOf.orderly holds.1) pool
  · exact fun mc memory w holds stored => halfway_of_absent holds.1 (Working.absent holds.2 stored)
  · exact fun mc found memory w holds stored => ⟨holds.1, Working.sole holds.2 stored⟩

theorem webhook_kept : KeepsWebhook settings (machine settings name) contract (World (ClearOf kept kept)) := by
  refine keepsWebhook_of_writable settings fun k isWebhook => clearOf_writable kept_unowned ?_ ?_
  · rintro entry member rfl
    simp only [kept, List.mem_cons, List.not_mem_nil, or_false] at member
    rcases member with rfl | rfl <;> cases isWebhook
  · rintro rfl
    cases isWebhook

theorem finish_triple (isConverged : Bool) :
    Triple (machine settings name) contract (World (ClearOf kept (afterListing isConverged)))
      (finishDeletion settings isConverged) fun _ => World (Orderly kept) := by
  have webhook : KeepsWebhook settings (machine settings name) contract (World (ClearOf kept kept)) := webhook_kept
  have daemonSets : Deletable (machine settings name) contract (World (ClearOf kept kept)) .daemonSet :=
    clearOf_deletable kept_unowned (by decide)
  refine finishDeletion_triple (B := World (ClearOf kept kept)) (D := World (ClearOf kept kept)) settings
    ?_ ?_ daemonSets ?_ (fun _ _ holds => holds.1) (release_triple kept_unowned) ?_
  · rintro rfl
    exact deletePool_triple
  · rintro rfl memory w clear
    exact clear
  · refine Triple.pre (P := World (ClearOf kept kept)) ?_ fun _ _ holds => holds.1
    exact (disablePeerPods_maintains settings pliant_conditions daemonSets).onward fun _ _ _ clear => ClearOf.orderly clear
  · exact fun _ _ _ holds => holds.elim (fun clear => ClearOf.orderly clear)
      fun holds => holds.elim (fun clear => ClearOf.orderly clear) fun clear => ClearOf.orderly clear

theorem delete_triple : Triple (machine settings name) contract (Both (World (Calm kept)) (On (Working name)))
    (processKataConfigDeleteRequest settings) fun _ => World (Orderly kept) := by
  have passes {point : Point} (other : point.isRequest = false) : Passes (machine settings name) contract
      (Both (World (ClearOf kept [])) (On (Working name))) point :=
    (clearOf_passes other).both (working_framed.passes _)
  have nodes : Writable (machine settings name) contract (Both (World (ClearOf kept [])) (On (Working name))) .node :=
    (clearOf_writable kept_unowned (by simp) (by decide)).both (working_framed.writable (by decide))
  have unlabel (selector : Selector) : Maintains (machine settings name) contract
      (Both (World (ClearOf kept [])) (On (Working name))) ((unlabelNodes selector).orElse labelFailure) :=
    maintains_orElse (unlabelNodes_maintains (passes rfl) (nodes.updatable _) selector)
  refine processKataConfigDeleteRequest_triple (A := Both (World (ClearOf kept [])) (On (Working name)))
    (B := Both (World (ClearOf kept [])) (On (Working name)))
    (D := World (ClearOf kept halfway)) settings (enters_triple.both (working_framed.passes _ _))
    (eligible_triple kept_unowned (fun _ _ holds => ClearOf.orderly holds.1) (passes rfl))
    (fun selector => (unlabel selector).onward fun _ _ _ holds => ClearOf.orderly holds.1) remove_triple ?_
    fun _ _ _ holds => holds.elim (fun both => ClearOf.orderly both.1) fun both => ClearOf.orderly both.1
  exact awaitDeletion_triple (B := fun isConverged => World (ClearOf kept (afterListing isConverged))) settings
    (clearOf_passes rfl) converged_triple (fun _ _ => clearOf_passes rfl) finish_triple
    (fun _ _ _ clear => ClearOf.orderly clear) fun _ _ _ _ clear => ClearOf.orderly clear

theorem deleteDaemonSet_triple : Triple (machine settings name) contract (World (Calm kept))
    (processKataConfigDeleteRequestDaemonSet settings) fun _ => World (Orderly kept) := by
  have webhook : KeepsWebhook settings (machine settings name) contract (World (ClearOf kept kept)) := webhook_kept
  have writable {k : Kind} (unrelated : ∀ entry ∈ kept, entry.2 ≠ k) (other : k ≠ .kataConfig) :
      Writable (machine settings name) contract (World (ClearOf kept kept)) k :=
    clearOf_writable kept_unowned unrelated other
  have nodes : Writable (machine settings name) contract (World (ClearOf kept kept)) .node :=
    writable (by simp [kept]) (by decide)
  have daemonSets : Writable (machine settings name) contract (World (ClearOf kept kept)) .daemonSet :=
    writable (by simp [kept]) (by decide)
  have orderly {α : Type} (_ : α) (memory : Reconciler) (w : Cluster × Custody)
      (clear : World (ClearOf kept kept) memory w) : World (Orderly kept) memory w := ClearOf.orderly clear
  refine processKataConfigDeleteRequestDaemonSet_triple (A := World (ClearOf kept kept)) settings
    entersDaemonSet_triple (eligible_triple kept_unowned (fun _ _ clear => ClearOf.orderly clear) (clearOf_passes rfl))
    ?_ orderly
  refine Maintains.bind_triple (startUninstallation_maintains settings (nodes.updatable _) daemonSets)
    (fun justCreated => ?_) orderly
  refine concludeDeletionDaemonSet_keeps settings (clearOf_passes rfl) ?_ orderly justCreated
  have unlabel (selector : Selector) : Maintains (machine settings name) contract (World (ClearOf kept kept))
      ((unlabelNodesDaemonSet selector).orElse labelFailure) :=
    maintains_orElse (unlabelNodesDaemonSet_maintains (clearOf_passes rfl) (nodes.updatable _) selector)
  have peerPods : Maintains (machine settings name) contract (World (ClearOf kept kept))
      (orReturn (disablePeerPodsMiscConfigs settings)) :=
    orReturn_maintains (disablePeerPodsMiscConfigs_maintains settings daemonSets.deletable)
  refine finishDeletionDaemonSet_triple (B := World (ClearOf kept kept)) (D := World (ClearOf kept kept))
    settings daemonSets.deletable ((peerPods.onward orderly).given)
    (fun _ _ holds => holds.1) (fun selector => (unlabel selector).onward orderly) (release_triple kept_unowned) ?_
  exact fun error memory w holds => holds.elim (orderly error memory w) (orderly error memory w)

end Requests

section Reconciliation

variable {settings : Settings} {name : String}

abbrev Resting (name : String) : Reconciler → Cluster × Custody → Prop :=
  Both (World (Orderly kept)) (On (Rest name))

abbrev Prepared (name : String) : Reconciler → Cluster × Custody → Prop :=
  Both (World (Calm kept)) (On (Ready name))

instance : Lenient (machine settings name) contract (World (Calm kept)) := calm_lenient kept_unowned

instance : Reporting (machine settings name) contract (World (Orderly kept)) := orderly_reporting kept_unowned

theorem processDelete_triple : Triple (machine settings name) contract (Prepared name)
    (processDeleteRequest settings) fun _ => Resting name := by
  refine processDeleteRequest_triple settings ?_ ?_
  · have kept : Maintains (machine settings name) .free (On (Working name)) (processKataConfigDeleteRequest settings) :=
      delete_working
    refine ((delete_triple.both kept).pre fun memory w holds => ?_).post fun _ _ _ holds => ?_
    · have working := Ready.working holds.1.2 holds.2
      exact ⟨⟨holds.1.1, working⟩, working⟩
    · exact ⟨holds.1, Working.rest holds.2⟩
  · exact (deleteDaemonSet_triple.both deleteDaemonSet_rest).pre fun _ _ holds =>
      ⟨holds.1.1, holds.1.2.held.rest⟩

theorem deletes_triple : Triple (machine settings name) contract (Prepared name) (deleteBranch settings)
    fun _ => Resting name := by
  have passes : Passes (machine settings name) contract (Prepared name) .deleteBranch :=
    (calm_passes (by simp)).both (ready_framed.passes _)
  exact Maintains.bind_triple (passes _) (fun _ => deleteAndStoreStatus_triple settings processDelete_triple)
    fun _ _ _ holds => ⟨Calm.orderly holds.1, holds.2.held.rest⟩

theorem fetch_triple {key : Key} (named : key.name = name) :
    Triple (machine settings name) contract (Both (World (Calm kept)) (On (Rest name))) (fetchKataConfig key)
      (AfterFetch (fun _ => Both (World (Calm kept)) (On (Held name))) (Resting name)) := by
  refine ((world_fetch key fun _ calm => calm.orderly).both (fetch_held named)).post ?_
  rintro (_ | _ | _) memory w holds
  · exact holds
  · exact holds
  · exact holds

theorem prepare_triple : Triple (machine settings name) contract (Both (World (Calm kept)) (On (Held name)))
    (prepareReconcile settings) (Onward (Prepared name) fun _ : Except Exit PUnit => Resting name) := by
  have prepare : Maintains (machine settings name) contract (World (Calm kept)) (prepareReconcile settings) :=
    world_prepare (world_classes (calm_writable kept_unowned _))
  refine (Triple.both prepare prepare_ready).post ?_
  rintro (_ | _) memory w holds
  · exact ⟨Calm.orderly holds.1, holds.2⟩
  · exact holds

theorem reconcile_triple {key : Key} (named : key.name = name) :
    Triple (machine settings name) contract (Both (World (Calm kept)) (On (Rest name)))
      (reconcileRoutine settings key) fun _ => Resting name := by
  refine reconcileRoutine_triple (fun _ => Both (World (Calm kept)) (On (Held name)))
    (fun _ => Prepared name) settings (fetch_triple named) (fun _ => prepare_triple)
    (fun _ => deletes_triple.given) (fun status => ?_)
    fun _ _ _ holds => ⟨Calm.orderly holds.1, holds.2.held.rest⟩
  refine ((Triple.both (installs_maintains kept_unowned status) (installs_rest status)).pre
    fun _ _ holds => holds.1).post ?_
  exact fun _ _ _ holds => ⟨Calm.orderly holds.1, holds.2⟩

end Reconciliation

theorem sound (settings : Settings) (name : String) :
    (Removal.system settings (rules name)).Sound (initially {}) contract (Resting name)
      fun outcome => Resting name outcome.2 := by
  refine operator_sound (fun key memory w => key.name = name ∧ Both (World (Calm kept)) (On (Rest name)) memory w)
    (fun _ => Resting name) ?_ ?_ ?_ (fun _ _ _ rest _ => rest) ?_
  · rintro ⟨s, g⟩ start
    refine ⟨?_, rest_initially start⟩
    obtain ⟨_, rfl⟩ := start
    exact ⟨fun _ made => absurd made List.not_mem_nil, fun _ _ _ released => absurd released List.not_mem_nil⟩
  · rintro key memory ⟨s, g⟩ ⟨orderly, rest⟩ allowed
    exact ⟨of_decide_eq_true allowed, ⟨⟨orderly.known, orderly.tidy⟩, rfl⟩, rest⟩
  · exact fun key memory w ⟨named, holds⟩ => reconcile_triple named memory w holds
  · intro w orderly allowed
    have known : (rules name).crash w = true := allowed
    exact ⟨orderly, (Rules.knowing_crash known).2, .none⟩

theorem orderly_of_reachable {settings : Settings} {name : String} {phase : Phase Req Response Reconciler Exit}
    {w : Cluster × Custody}
    (reached : (operator settings custody (mcsTakenDown name)).Reachable (initially {}) (phase, w)) :
    Orderly kept w := by
  have knowing : Controller.Covers (operator settings custody (mcsTakenDown name)) (initially {})
      (operator settings custody (rules name)) (initially {}) id :=
    operator_knowing fun _ _ => placed_of_reachable fun _ _ allowed => of_decide_eq_true allowed
  have holds := (sound settings name).holds ((assured_covers settings (rules name)).reachable (knowing.reachable reached))
  cases phase with
  | idle memory => exact holds.1
  | running program => exact Safe.mid holds

end MachineConfigRemoval

/-- If a delete request goes through MachineConfigs whenever something of them is left,
the MachineConfig can be deleted, and pools are listed on a cluster that has a pool
`master`, then neither a MachineConfig nor the pool `kata-oc` outlives its `KataConfig`. -/
theorem machineConfigs_removed (settings : Settings) {name : String} {phase : Phase Req Response Reconciler Exit}
    {w : Cluster × Custody}
    (reached : (operator settings custody (mcsTakenDown name)).Reachable (initially {}) (phase, w))
    {uid : Nat} (released : uid ∈ w.2.released) :
    ¬Custody.Holds true .machineConfig uid w ∧ ¬Custody.Holds false .machineConfigPool uid w := by
  have orderly := MachineConfigRemoval.orderly_of_reachable reached
  exact ⟨orderly.tidy (true, .machineConfig) (by simp [MachineConfigRemoval.kept]) uid released,
    orderly.tidy (false, .machineConfigPool) (by simp [MachineConfigRemoval.kept]) uid released⟩

/-- A cluster without nodes that has what either mode takes. -/
def mixedCluster : Script :=
  daemonSetCluster ++ others [.delete .node exampleNode.key,
    .delete .configMap ⟨operatorNamespace, "osc-feature-gates"⟩, .create .machineConfigPool workerPool,
    .updateStatus .machineConfigPool workerPool, .create .machineConfigPool (examplePool "master" false)]

def daemonSetGate : ConfigMap :=
  ⟨{ name := "osc-feature-gates", ns := operatorNamespace },
    show ConfigMapBody from ⟨some (StrMap.ofList [("deploymentMode", "DaemonSet")])⟩⟩

/-- The MachineConfig and the pool are created and the operator is restarted; then the
`KataConfig` is deleted, possibly after a change. -/
def mcRemoval (changes : List Req) : Script :=
  mixedCluster ++ others [.create .kataConfig exampleKataConfig] ++ [.start exampleKey] ++ answered 29 ++ [.crash] ++
    others (changes ++ [.delete .kataConfig exampleKey]) ++ [.start exampleKey]

/-- The `KataConfig` is deleted in the mode it was installed in. -/
theorem machineConfigs_removed_installed : ∃ (w : Cluster × Custody) (uid : Nat), uid ∈ w.2.released ∧
    (∃ creation ∈ w.2.made, creation.kind = .machineConfig ∧ creation.owner = uid) ∧
    (∃ creation ∈ w.2.made, creation.kind = .machineConfigPool ∧ creation.owner = uid) ∧
    ¬Custody.Holds true .machineConfig uid w ∧ ¬Custody.Holds false .machineConfigPool uid w := by
  have ends : endsIn plainSettings custody (mcsTakenDown "example") {} (mcRemoval [] ++ answered 48)
      (fun w => decide (∃ uid ∈ w.2.released,
        (∃ creation ∈ w.2.made, creation.kind = .machineConfig ∧ creation.owner = uid) ∧
        ∃ creation ∈ w.2.made, creation.kind = .machineConfigPool ∧ creation.owner = uid)) = true := by
    decide +kernel
  obtain ⟨phase, w, reached, checked⟩ := reachable_of_endsIn ends
  obtain ⟨uid, released, mcMade, poolMade⟩ := of_decide_eq_true checked
  exact ⟨w, uid, released, mcMade, poolMade, machineConfigs_removed plainSettings reached released⟩

/-- The mode changes before the `KataConfig` is deleted, so nothing of it is removed. -/
theorem machineConfigs_outlive_kataConfig : ∃ phase w,
    (operator plainSettings custody {}).Reachable (initially {}) (phase, w) ∧ ∃ uid ∈ w.2.released,
      (∃ mc ∈ machineConfigs w.1, mc.metadata.name = extensionMcName ∧
        mc.metadata.labels.lookup "app" = some exampleKey.name ∧
        (⟨.machineConfig, mc.metadata.uid, uid⟩ : Creation) ∈ w.2.made) ∧
      Custody.Holds false .machineConfigPool uid w := by
  have ends : endsIn plainSettings custody {} {}
      (mcRemoval [.create .configMap daemonSetGate] ++ answered 51 ++ [.finish, .start exampleKey] ++ answered 60)
      (fun w => decide (∃ uid ∈ w.2.released, (∃ mc ∈ machineConfigs w.1, mc.metadata.name = extensionMcName ∧
          mc.metadata.labels.lookup "app" = some exampleKey.name ∧
          (⟨.machineConfig, mc.metadata.uid, uid⟩ : Creation) ∈ w.2.made) ∧
        Custody.Holds false .machineConfigPool uid w)) = true := by
    decide +kernel
  obtain ⟨phase, w, reached, checked⟩ := reachable_of_endsIn ends
  exact ⟨phase, w, reached, of_decide_eq_true checked⟩

end SandboxedContainers
