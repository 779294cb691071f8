import SandboxedContainers.Removal
import SandboxedContainers.WebhookBackend

/-!
# The admission webhook and the end of its KataConfig

A delete request takes the webhook down only if peer pods are enabled at that
time.  Through MachineConfigs it does not care whether that succeeds.
-/

namespace SandboxedContainers

open Lib Routine

def Custody.point (custody : Custody) : Option Point := custody.request.map Prod.fst

/-- The deletions of `disablePeerPodsMiscConfigs` up to the one of the configuration. -/
def takesDownWebhook (settings : Settings) : Req → Bool
  | .delete k key => decide ((k, key) ∈ (.daemonSet, caaKey settings) :: webhookParts settings)
  | _ => false

/-- A delete request finds peer pods enabled unless the configuration is gone, and the
configuration has no finalizers when it is deleted. -/
def webhookRemovable (w : Cluster × Custody) : Req → Bool
  | .mark ⟨.deleteRequest, kataConfig⟩ | .mark ⟨.deleteRequestDaemonSet, kataConfig⟩ =>
    (specOf kataConfig).enablePeerPods ||
      !decide (Custody.Holds true .mutatingWebhookConfiguration kataConfig.metadata.uid w)
  | .delete .mutatingWebhookConfiguration key =>
    (w.1.find? .mutatingWebhookConfiguration key).all fun config => config.metadata.finalizers.isEmpty
  | _ => true

/-- Besides, nothing that takes the webhook down fails in MachineConfig mode. -/
def webhookTakenDown (settings : Settings) : Rules Custody where
  answer w r response _ := webhookRemovable w r &&
    !(decide (w.2.point = some .deleteRequest) && takesDownWebhook settings r && deletionFailed r response)

namespace WebhookRemoval

open Custody Removal

def kept : List (Bool × Kind) := [(true, .mutatingWebhookConfiguration)]

theorem kept_unowned : ∀ entry ∈ kept, entry.2.isUnowned = true := by simp [kept, Kind.isUnowned]

noncomputable abbrev machine (settings : Settings) := Removal.machine settings (webhookTakenDown settings)

abbrev contract : Contract Req (Cluster × Custody) := Removal.contract kept

structure Disabling (point : Point) (memory : Reconciler) (w : Cluster × Custody) : Prop where
  clear : ClearOf kept [] w
  entered : w.2.point = some point
  enabled : memory.spec.enablePeerPods = true ∨ ClearOf kept kept w

/-- Taking it down may fail in DaemonSet mode only. -/
def Spared (point : Point) (memory : Reconciler) (w : Cluster × Custody) : Prop :=
  Disabling point memory w ∧ point ≠ .deleteRequest

section Steps

variable {settings : Settings} {point : Point}

instance : Invariant (machine settings) contract (Disabling point) where
  stable memory := by
    rintro ⟨s, g⟩ _ ⟨change, rfl, _⟩ ⟨clear, entered, enabled⟩
    have evolves := change.apply_evolves s
    exact ⟨clear.evolves evolves, entered, enabled.imp id fun gone => gone.evolves evolves⟩
  mid _ _ disabling := disabling.clear.orderly

instance : Invariant (machine settings) contract (Spared point) :=
  Invariant.and fun _ => point ≠ .deleteRequest

theorem custody_point {s s' : Cluster} {g : Custody} {r : Req} {response : Response r}
    (notMark : ∀ m, r ≠ .mark m) : (custody.call s r response s' g).point = g.point := by
  rw [Custody.point, custody_request notMark]
  rfl

theorem disabling_admits {r : Req} (notMark : ∀ m, r ≠ .mark m)
    (notCreated : ∀ object, r ≠ .create .mutatingWebhookConfiguration object)
    (other : r.writes ≠ some .kataConfig) :
    Admits (machine settings) contract (Disabling point) r := by
  rintro memory ⟨s, g⟩ ⟨clear, entered, enabled⟩
  refine ⟨trivial, fun response w' reply => ⟨?_, ?_, enabled.imp id fun gone => ?_⟩⟩
  · exact (clearOf_admits kept_unowned notMark (by simp) (.inl other) memory _ clear).2 response w' reply
  · obtain ⟨s', _, rfl, _⟩ := operator_answered reply
    exact (custody_point notMark).trans entered
  · refine (clearOf_admits kept_unowned notMark ?_ (.inl other) memory _ gone).2 response w' reply
    simpa [kept] using notCreated

theorem disabling_deletable {k : Kind} (other : k ≠ .kataConfig) :
    Deletable (machine settings) contract (Disabling point) k :=
  fun _ => disabling_admits (by simp) (by simp) fun same => other (Option.some.inj same)

theorem disabling_writable {k : Kind} (other : k ≠ .kataConfig)
    (unrelated : k ≠ .mutatingWebhookConfiguration) :
    Writable (machine settings) contract (Disabling point) k := by
  intro r writes
  refine disabling_admits (writes_not_mark writes) ?_ ?_
  · rintro object rfl
    exact unrelated (Option.some.inj writes).symm
  · rw [writes]
    exact fun same => other (Option.some.inj same)

instance : Pliant (machine settings) contract (Disabling point) where
  reads r reads notMark := by
    refine disabling_admits notMark ?_ (by simp [reads])
    rintro object rfl
    cases reads
  side k side := disabling_writable (by rintro rfl; cases side) (by rintro rfl; cases side)
  kataNodes _ _ _ disabling := { disabling with }
  imageGenerator _ _ _ disabling := { disabling with }
  conditions _ _ _ _ _ _ := maintains_modify fun _ _ disabling =>
    { disabling with }
  waiting _ _ _ disabling := { disabling with }

instance : ImageFree (Disabling point) :=
  ⟨fun _ _ _ disabling => { disabling with }⟩

instance : Pliant (machine settings) contract (World (ClearOf kept kept)) :=
  clearOf_pliant kept_unowned kept_unowned

theorem disabling_passes (other : point'.isRequest = false) :
    Passes (machine settings) contract (Disabling point) point' := by
  refine fun ε => mark_triple (fun _ _ _ => trivial) ?_
  rintro memory ⟨s, g⟩ w' disabling answered
  rw [operator_mark answered]
  simp only [custody, other]
  exact disabling

theorem disabling_mark (isDelete : point = .deleteRequest ∨ point = .deleteRequestDaemonSet) :
    Triple (machine settings) contract (World (Calm kept)) (mark point : Op Exit PUnit)
      fun _ => Disabling point := by
  refine mark_triple (fun _ _ _ => trivial) ?_
  rintro memory ⟨s, g⟩ w' calm answered
  have allowed := (Rules.assuming_answer (operator_answered answered).choose_spec.2.2).1
  rw [operator_mark answered]
  have orderly := (Calm.orderly calm).mark (m := ⟨point, memory.current⟩)
  have enabled : memory.spec.enablePeerPods = true ∨
      ¬Holds true .mutatingWebhookConfiguration memory.current.metadata.uid (s, g) := by
    rcases isDelete with rfl | rfl
    · simpa [webhookTakenDown, webhookRemovable, takesDownWebhook, or_iff_not_imp_left,
        Reconciler.spec] using allowed
    · simpa [webhookTakenDown, webhookRemovable, takesDownWebhook, or_iff_not_imp_left,
        Reconciler.spec] using allowed
  have made (uid : Nat) (leaving : (custody.call s (.mark ⟨point, memory.current⟩) ⟨⟩ s g).leaving = some uid)
      (vacant : ¬Holds true .mutatingWebhookConfiguration memory.current.metadata.uid (s, g)) :
      ¬Holds true .mutatingWebhookConfiguration uid
        (s, custody.call s (.mark ⟨point, memory.current⟩) ⟨⟩ s g) := by
    rcases isDelete with rfl | rfl
    · cases leaving
      exact vacant
    · cases leaving
      exact vacant
  refine ⟨⟨orderly, by simp⟩, ?_, enabled.imp id fun vacant => ⟨orderly, ?_⟩⟩
  · rcases isDelete with rfl | rfl <;> rfl
  · intro entry member uid leaving
    obtain rfl := List.mem_singleton.mp member
    exact made uid leaving vacant

theorem spared_of_failed {k : Kind} (key : Key) {memory : Reconciler} {w w' : Cluster × Custody}
    {error : ApiError} (isPart : (k, key) ∈ (.daemonSet, caaKey settings) :: webhookParts settings)
    (other : k ≠ .kataConfig) (disabling : Disabling point memory w)
    (reply : (machine settings).answer w (.delete k key) (.error error) w') (failed : error.reason ≠ .notFound) :
    Spared point memory w' := by
  refine ⟨(disabling_deletable other key memory w disabling).2 _ w' reply, ?_⟩
  rintro rfl
  obtain ⟨_, _, _, allowed⟩ := operator_answered reply
  have spares := (Bool.and_eq_true_iff.mp (Rules.assuming_answer allowed).1).2
  simp [disabling.entered, takesDownWebhook, deletionFailed, isPart, failed] at spares

theorem deletePart_triple {k : Kind} {key : Key} (other : k ≠ .kataConfig) (inPlace : scopedKey k key = key)
    (isPart : (k, key) ∈ (.daemonSet, caaKey settings) :: webhookParts settings) :
    Triple (machine settings) contract (Disabling point) (deleteIfPresent k key)
      (Onward (Disabling point) fun _ : Except Err PUnit => Spared point) := by
  have admits : Admits (machine settings) contract (Disabling point) (.delete k (scopedKey k key)) :=
    disabling_deletable other _
  refine deleteIfPresent_triple (fun _ _ _ => trivial) ?_ ?_ ?_
  · exact fun memory w w' disabling reply => (admits memory w disabling).2 _ w' reply
  · exact fun memory w error w' disabling reply _ => (admits memory w disabling).2 _ w' reply
  · rw [inPlace]
    exact fun memory w error w' disabling reply failed => spared_of_failed key isPart other disabling reply failed

theorem deleteConfig_triple : Triple (machine settings) contract (Disabling point) deleteMutatingWebhookConfig
    (Onward (World (ClearOf kept kept)) fun _ : Except Err PUnit => Spared point) := by
  have admits : Admits (machine settings) contract (Disabling point)
      (.delete .mutatingWebhookConfiguration webhookConfigKey) := disabling_deletable (by decide) _
  have vacant {s : Cluster} {g : Custody} (clear : ClearOf kept [] (s, g))
      (missing : s.find? .mutatingWebhookConfiguration webhookConfigKey = none) :
      ClearOf kept kept (s, g) := by
    refine ⟨clear.orderly, fun entry member uid _ => ?_⟩
    obtain rfl := List.mem_singleton.mp member
    refine not_holds fun key placed object found => ?_
    obtain rfl := List.mem_singleton.mp placed
    rw [missing] at found
    cases found
  refine deleteIfPresent_triple (fun _ _ _ => trivial) ?_ ?_ ?_
  · rintro memory ⟨s, g⟩ w' disabling reply
    have clear := ((admits memory _ disabling).2 _ w' reply).clear
    obtain ⟨s', answered, rfl, allowed⟩ := operator_answered reply
    have free := (Bool.and_eq_true_iff.mp (Rules.assuming_answer allowed).1).1
    exact vacant clear (answered.delete_gone free)
  · rintro memory ⟨s, g⟩ error w' disabling reply missing
    have clear := ((admits memory _ disabling).2 _ w' reply).clear
    obtain ⟨s', answered, rfl, _⟩ := operator_answered reply
    obtain ⟨rfl, absent⟩ := answered.delete_notFound missing
    exact vacant clear absent
  · exact fun memory w error w' disabling reply failed =>
      spared_of_failed webhookConfigKey (by simp [webhookParts]) (by decide) disabling reply failed

def Disabled (point : Point) : Except Err PUnit → Reconciler → Cluster × Custody → Prop
  | .ok _ => World (ClearOf kept kept)
  | .error _ => fun memory w => ClearOf kept kept w ∨ Spared point memory w

theorem disable_triple : Triple (machine settings) contract (Disabling point)
    (disablePeerPodsMiscConfigs settings) (Disabled point) := by
  have part {k : Kind} {key : Key} (other : k ≠ .kataConfig) (inPlace : scopedKey k key = key)
      (isPart : (k, key) ∈ (.daemonSet, caaKey settings) :: webhookParts settings) :
      Triple (machine settings) contract (Disabling point) (deleteIfPresent k key)
        (Onward (Disabling point) (Disabled point)) := by
    refine (deletePart_triple other inPlace isPart).post ?_
    rintro (_ | _) memory w holds
    · exact .inr holds
    · exact holds
  refine disablePeerPodsMiscConfigs_triple (B := World (ClearOf kept kept)) settings
    (part (by decide) rfl (by simp)) (part (by decide) rfl (by simp [webhookParts]))
    (part (by decide) rfl (by simp [webhookParts])) (deleteConfig_triple.post ?_) ?_
  · rintro (_ | _) memory w holds
    · exact .inr holds
    · exact holds
  · rintro (_ | _) memory w clear
    · exact .inl clear
    · exact clear

end Steps

section Requests

variable {settings : Settings} {point : Point}

theorem release_disabling : Triple (machine settings) contract (World (ClearOf kept kept))
    (orRetry removeFinalizer ⟨true, 0⟩) fun _ => World (Orderly kept) := release_triple kept_unowned

theorem clear_of_disabled {memory : Reconciler} {w : Cluster × Custody}
    (holds : Disabling point memory w ∧ memory.spec.enablePeerPods = false) : ClearOf kept kept w := by
  obtain ⟨disabling, disabled⟩ := holds
  exact disabling.enabled.resolve_left (by simp [disabled])

theorem eligible_disabling : Triple (machine settings) contract (Disabling point) checkDeletionEligibility
      (Onward (Disabling point) fun _ : Except Exit PUnit => World (Orderly kept)) :=
  eligible_triple kept_unowned (fun _ _ disabling => disabling.clear.orderly) (disabling_passes rfl)

theorem finish_triple (isConverged : Bool) :
    Triple (machine settings) contract (Disabling .deleteRequest) (finishDeletion settings isConverged)
      fun _ => World (Orderly kept) := by
  have deletable {k : Kind} (other : k ≠ .kataConfig) :
      Deletable (machine settings) contract (Disabling .deleteRequest) k := disabling_deletable other
  have misc : Triple (machine settings) contract (Disabling .deleteRequest)
      (disablePeerPodsMiscConfigs settings) fun _ => World (ClearOf kept kept) := by
    refine disable_triple.post ?_
    rintro (_ | _) memory w holds
    · exact holds.elim id fun spared => absurd rfl spared.2
    · exact holds
  have peerPods : Maintains (machine settings) contract (World (ClearOf kept kept))
      (deletePodVMImage settings) := deletePodVMImage_maintains settings pliant_conditions
  refine finishDeletion_triple (B := Disabling .deleteRequest) (D := World (ClearOf kept kept)) settings
    ?_ (fun _ _ _ => id) (deletable (by decide)) ?_ (fun _ _ => clear_of_disabled)
    release_disabling ?_
  · exact fun _ => (deleteKataOcPool_maintains (deletable (by decide))).onward
      fun _ _ _ disabling => disabling.clear.orderly
  · refine Triple.pre (P := Disabling .deleteRequest) ?_ fun _ _ holds => holds.1
    refine disablePeerPods_triple settings pliant_conditions misc ?_
    rintro (_ | _) memory w clear
    · exact ClearOf.orderly clear
    · exact clear
  · exact fun _ _ _ holds => holds.elim (fun disabling => disabling.clear.orderly)
      fun holds => holds.elim (fun disabling => disabling.clear.orderly) fun clear => ClearOf.orderly clear

theorem delete_triple : Triple (machine settings) contract (World (Calm kept))
    (processKataConfigDeleteRequest settings) fun _ => World (Orderly kept) := by
  have unlabel (selector : Selector) : Maintains (machine settings) contract (Disabling .deleteRequest)
      ((unlabelNodes selector).orElse labelFailure) :=
    maintains_orElse (unlabelNodes_maintains (disabling_passes rfl)
      ((disabling_writable (by decide) (by decide)).updatable _) selector)
  have remove (pool : String) : Maintains (machine settings) contract (Disabling .deleteRequest)
      (removeMc settings pool) := removeMc_maintains settings (disabling_deletable (by decide)) pool
  refine processKataConfigDeleteRequest_triple (B := Disabling .deleteRequest)
    (D := Disabling .deleteRequest) settings (disabling_mark (.inl rfl)) eligible_disabling
    (fun selector => (unlabel selector).onward fun _ _ _ disabling => disabling.clear.orderly)
    (fun pool => (remove pool).onward fun _ _ _ disabling => disabling.clear.orderly) ?_
    fun _ _ _ holds => holds.elim (fun disabling => disabling.clear.orderly)
      fun disabling => disabling.clear.orderly
  exact awaitDeletion_triple (B := fun _ => Disabling .deleteRequest) settings (disabling_passes rfl)
    isConvergedAndKnown_maintains (fun _ _ => disabling_passes rfl) finish_triple
    (fun _ _ _ disabling => disabling.clear.orderly) fun _ _ _ _ disabling => disabling.clear.orderly

theorem finishDaemonSet_triple :
    Triple (machine settings) contract (Disabling .deleteRequestDaemonSet) (finishDeletionDaemonSet settings)
      fun _ => World (Orderly kept) := by
  have peerPods : Triple (machine settings) contract (Disabling .deleteRequestDaemonSet)
      (orReturn (disablePeerPodsMiscConfigs settings))
      (Onward (World (ClearOf kept kept)) fun _ : Except Exit PUnit => World (Orderly kept)) := by
    refine Triple.orElse (disable_triple.post ?_)
    rintro (_ | _) memory w holds
    · exact holds.elim (fun clear => clear.orderly) fun spared => spared.1.clear.orderly
    · exact holds
  have unlabel (selector : Selector) : Maintains (machine settings) contract (World (ClearOf kept kept))
      ((unlabelNodesDaemonSet selector).orElse labelFailure) :=
    maintains_orElse (unlabelNodesDaemonSet_maintains (clearOf_passes rfl)
      ((clearOf_writable kept_unowned (by simp [kept]) (by decide)).updatable _) selector)
  refine finishDeletionDaemonSet_triple (B := World (ClearOf kept kept)) (D := World (ClearOf kept kept))
    settings (disabling_deletable (by decide)) peerPods.given
    (fun _ _ => clear_of_disabled)
    (fun selector => (unlabel selector).onward fun _ _ _ clear => ClearOf.orderly clear) release_disabling ?_
  exact fun _ _ _ holds => holds.elim (fun disabling => disabling.clear.orderly)
    fun clear => ClearOf.orderly clear

theorem deleteDaemonSet_triple : Triple (machine settings) contract (World (Calm kept))
    (processKataConfigDeleteRequestDaemonSet settings) fun _ => World (Orderly kept) := by
  have writable {k : Kind} (other : k ≠ .kataConfig) (unrelated : k ≠ .mutatingWebhookConfiguration) :
      Writable (machine settings) contract (Disabling .deleteRequestDaemonSet) k :=
    disabling_writable other unrelated
  refine processKataConfigDeleteRequestDaemonSet_triple settings (disabling_mark (.inr rfl))
    eligible_disabling ?_ fun _ _ _ disabling => disabling.clear.orderly
  refine Maintains.bind_triple (startUninstallation_maintains settings
    ((writable (by decide) (by decide)).updatable _) (writable (by decide) (by decide)))
    (fun justCreated => ?_) fun _ _ _ disabling => disabling.clear.orderly
  exact concludeDeletionDaemonSet_keeps settings (disabling_passes rfl) finishDaemonSet_triple
    (fun _ _ _ disabling => disabling.clear.orderly) justCreated

end Requests

end WebhookRemoval

/-- If peer pods are still enabled at the deletion of a `KataConfig` that has a webhook
configuration, the configuration has no finalizers, and nothing fails while the webhook
is taken down in MachineConfig mode, then no configuration outlives its `KataConfig`. -/
theorem webhook_removed (settings : Settings) {phase : Phase Req Response Reconciler Exit}
    {w : Cluster × Custody}
    (reached : (operator settings custody (webhookTakenDown settings)).Reachable (initially {}) (phase, w))
    {uid : Nat} (released : uid ∈ w.2.released) :
    ¬Custody.Holds true .mutatingWebhookConfiguration uid w := by
  have sound : (Removal.system settings (webhookTakenDown settings)).Sound _ _ _ _ :=
    Removal.sound WebhookRemoval.kept_unowned WebhookRemoval.delete_triple WebhookRemoval.deleteDaemonSet_triple
  exact (Removal.orderly_of_sound sound reached).tidy (true, .mutatingWebhookConfiguration)
    (by simp [WebhookRemoval.kept]) uid released

def peerPodsKataConfig (enablePeerPods : Bool) : KataConfig :=
  ⟨{ name := exampleKey.name }, show KataConfigBody from { spec := { enablePeerPods := enablePeerPods } }⟩

def peerPodsCluster : Script :=
  daemonSetCluster ++ others [.delete .node exampleNode.key,
    .patch .clusterVersion ⟨"", "version"⟩ [] fun (version : ClusterVersionBody) =>
      { version with clusterID := "01234567-89ab" },
    .create .configMap ⟨{ name := peerpodsCMName, ns := operatorNamespace }, show ConfigMapBody from ⟨some ∅⟩⟩,
    .create .file ⟨{ name := "/proc/sys/crypto/fips_enabled" }, show String from "0"⟩,
    .create .infrastructure ⟨{ name := "cluster" }, show Option String from some "BareMetal"⟩]

/-- Peer pods are set up in DaemonSet mode; then the `KataConfig` is deleted, possibly
after a change. -/
def peerPodsRemoval (changes : List Req) (first last : Nat) : Script :=
  peerPodsCluster ++ others [.create .kataConfig (peerPodsKataConfig true)] ++
    [.start exampleKey] ++ answered 113 ++ [.finish] ++ others (changes ++ [.delete .kataConfig exampleKey]) ++
    [.start exampleKey] ++ answered first ++ [.finish, .start exampleKey] ++ answered last

/-- Peer pods stay enabled, and the configuration that was created is gone in the end; the
peer pods' config map, which is of no interest here, goes before. -/
theorem webhook_removed_enabled : ∃ (w : Cluster × Custody) (uid : Nat), uid ∈ w.2.released ∧
    (∃ creation ∈ w.2.made, creation.kind = .mutatingWebhookConfiguration ∧ creation.owner = uid) ∧
    ¬Custody.Holds true .mutatingWebhookConfiguration uid w := by
  have ends : endsIn plainSettings custody (webhookTakenDown plainSettings) {}
      (peerPodsRemoval [.delete .configMap ⟨operatorNamespace, peerpodsCMName⟩] 52 74)
      (fun w => decide (∃ uid ∈ w.2.released, ∃ creation ∈ w.2.made,
        creation.kind = .mutatingWebhookConfiguration ∧ creation.owner = uid)) = true := by
    decide +kernel
  obtain ⟨phase, w, reached, checked⟩ := reachable_of_endsIn ends
  obtain ⟨uid, released, made⟩ := of_decide_eq_true checked
  exact ⟨w, uid, released, made, webhook_removed plainSettings reached released⟩

/-- Peer pods are disabled before the `KataConfig` is deleted, so the webhook is not taken
down. -/
theorem webhook_outlives_kataConfig : ∃ phase w,
    (operator plainSettings custody {}).Reachable (initially {}) (phase, w) ∧
      ∃ uid ∈ w.2.released, Custody.Holds true .mutatingWebhookConfiguration uid w := by
  have ends : endsIn plainSettings custody {} {}
      (peerPodsRemoval [.patch .kataConfig exampleKey [] fun (body : KataConfigBody) =>
        { body with spec := { body.spec with enablePeerPods := false } }] 51 60)
      (fun w => decide (∃ uid ∈ w.2.released,
        Custody.Holds true .mutatingWebhookConfiguration uid w)) = true := by
    decide +kernel
  obtain ⟨phase, w, reached, checked⟩ := reachable_of_endsIn ends
  exact ⟨phase, w, reached, of_decide_eq_true checked⟩

end SandboxedContainers
