import SandboxedContainers.Runs

/-!
# The runtime classes for confidential containers

Handler and node selector of `kata-cc` and `kata-cc-nvidia-gpu` are chosen together, by
the TEE whose label the selected nodes carry.  The handler of a runtime class cannot be
changed afterwards, its selector can: a class that exists when another TEE is found keeps
the handler of the first one and gets the label of the second.  For IBM SE, which has no
handler for GPUs, the GPU class takes over the handler of the other class, and no label.
-/

namespace SandboxedContainers

open Lib Routine

def runtimeClasses (s : Cluster) : List RuntimeClass := (s.objs .runtimeClass).items

def isConfidentialClass (name : String) : Bool :=
  name = kataCCRuntimeClassName || name = kataNvidiaGPUCCRuntimeClassName

def TEE.handlers (tee : TEE) (runtimeClassName : String) : List String :=
  if runtimeClassName = kataCCRuntimeClassName then match tee with
    | .intelTDX => ["kata-tdx"]
    | .amdSNP => ["kata-snp"]
    | .ibmSE => ["kata-se"]
  else match tee with
    | .intelTDX => ["kata-tdx-nvidia-gpu"]
    | .amdSNP => ["kata-snp-nvidia-gpu"]
    | .ibmSE => []

def handlerOf (body : RuntimeClassBody) : String := body.handler

def nodeSelectorOf (body : RuntimeClassBody) : StrMap := ((schedulingOf body).map Scheduling.nodeSelector).getD ∅

def TEE.hasHandler (tee : TEE) (runtimeClassName handler : String) : Bool :=
  (tee.handlers runtimeClassName).any fun plain => handler = plain || handler = "rs-" ++ plain

/-- The selector asks for the label of the TEE and no other. -/
def TEE.isSelected (tee : TEE) (selector : StrMap) : Bool :=
  [TEE.intelTDX, .amdSNP, .ibmSE].all fun other =>
    selector.lookup other.label = if other = tee then some "true" else none

def TEE.fits (tee : TEE) (name : String) (body : RuntimeClassBody) : Bool :=
  tee.hasHandler name (handlerOf body) && tee.isSelected (nodeSelectorOf body)

/-- A confidential runtime class has handler and label of one TEE. -/
def isCoherent (rc : RuntimeClass) : Bool :=
  !isConfidentialClass rc.metadata.name ||
    [TEE.intelTDX, .amdSNP, .ibmSE].any fun tee => tee.fits rc.metadata.name rc.body

def createdClasses : Monitor (List Nat) where
  call s r _ s' created := match r with
    | .create .runtimeClass rc =>
      match s.find? .runtimeClass rc.key, s'.find? .runtimeClass rc.key with
      | none, some stored => stored.metadata.uid :: created
      | _, _ => created
    | _ => created

/-- The class is one the operator created, as it was before. -/
def isUntouched (before : List RuntimeClass) (rc : RuntimeClass) : Bool :=
  before.any fun old => old.metadata.uid = rc.metadata.uid && old.metadata.name = rc.metadata.name &&
    decide (old.body = rc.body)

/-- Others may delete the operator's runtime classes but not rewrite them. -/
def classesUntouched (w w' : Cluster × List Nat) : Bool :=
  (runtimeClasses w'.1).all fun rc => !w.2.contains rc.metadata.uid || isUntouched (runtimeClasses w.1) rc

/-- Every `KataConfig` has the operator check which nodes are eligible. -/
def checksEligibility (r : Req) (response : Response r) : Bool :=
  match r, response with
  | .get .kataConfig _, .ok kataConfig => (specOf kataConfig).checkNodeEligibility
  | _, _ => true

def eligibilityChecked : Rules (List Nat) where
  env w _ w' := classesUntouched w w'
  answer _ r response _ := checksEligibility r response

def showsOnly (tee : TEE) (r : Req) (response : Response r) : Bool :=
  match r, response with
  | .list .node _, .ok nodes => (teesOf nodes).all (· = tee)
  | _, _ => true

/-- Besides, the nodes only ever show one TEE. -/
def singleTEE (tee : TEE) : Rules (List Nat) where
  env w _ w' := classesUntouched w w'
  answer _ r response _ := checksEligibility r response && showsOnly tee r response

namespace ConfidentialClasses

variable {tee : TEE}

def Suits (tee : TEE) (name : String) (body : RuntimeClassBody) : Prop :=
  isConfidentialClass name = true → tee.fits name body = true

/-- Every runtime class the operator created suits the TEE. -/
def Suited (tee : TEE) (w : Cluster × List Nat) : Prop :=
  ∀ rc ∈ runtimeClasses w.1, rc.metadata.uid ∈ w.2 → Suits tee rc.metadata.name rc.body

theorem Suits.isCoherent {rc : RuntimeClass} (suits : Suits tee rc.metadata.name rc.body) :
    isCoherent rc = true := by
  unfold SandboxedContainers.isCoherent
  cases confidential : isConfidentialClass rc.metadata.name with
  | false => rfl
  | true =>
    have fits := suits confidential
    cases tee with
    | intelTDX | amdSNP | ibmSE => simp [fits]

/-- What a request has to observe about runtime classes. -/
def Careful (tee : TEE) (s : Cluster) : Req → Prop
  | .create .runtimeClass rc => Suits tee rc.metadata.name rc.body
  | .update .runtimeClass rc => ∃ seen : RuntimeClass, s.Seen seen ∧ rc.body = seen.body ∧
      rc.metadata.uid = seen.metadata.uid ∧ rc.metadata.resourceVersion = seen.metadata.resourceVersion
  | .patch .runtimeClass key _ edit => ∀ body, Suits tee key.name body → Suits tee key.name (edit body)
  | _ => True

section Steps

variable {s s' : Cluster} {created : List Nat} {r : Req} {response : Response r}

theorem suits_rewritten {stored merged : RuntimeClass} (rewrites : s.Rewrites .runtimeClass r stored merged)
    (careful : Careful tee s r) (suits : Suits tee stored.metadata.name stored.body) :
    Suits tee merged.metadata.name merged.body := by
  cases rewrites with
  | update found current admitted =>
    rename_i object
    obtain ⟨member, sameKey⟩ := Collection.find?_mem found
    obtain ⟨seen, wasSeen, sameBody, sameUid, sameVersion⟩ := careful
    obtain rfl := wasSeen.eq_of_not_stale member current sameUid sameVersion
    have name : object.metadata.name = stored.metadata.name := (congrArg Key.name sameKey).symm
    change Suits tee object.metadata.name object.body
    rw [name, sameBody]
    exact suits
  | updateStatus found current => exact suits
  | patch labels edit found =>
    obtain ⟨member, sameKey⟩ := Collection.find?_mem found
    have name : stored.metadata.name = _ := congrArg Key.name sameKey
    change Suits tee stored.metadata.name (edit stored.body)
    rw [name] at suits ⊢
    exact careful stored.body suits
  | delete found => exact suits

theorem mem_created {uid : Nat} (recorded : uid ∈ createdClasses.call s r response s' created) :
    uid ∈ created ∨ ∃ rc stored, r = .create .runtimeClass rc ∧ s.find? .runtimeClass rc.key = none ∧
      s'.find? .runtimeClass rc.key = some stored ∧ uid = stored.metadata.uid := by
  unfold createdClasses at recorded
  dsimp only at recorded
  split at recorded
  · rename_i rc _
    split at recorded
    · rename_i stored absent present
      rcases List.mem_cons.mp recorded with rfl | old
      · exact .inr ⟨rc, stored, rfl, absent, present, rfl⟩
      · exact .inl old
    · exact .inl recorded
  · exact .inl recorded

theorem Suited.call (suited : Suited tee (s, created)) (answered : Answered s r response s')
    (careful : Careful tee s r) : Suited tee (s', createdClasses.call s r response s' created) := by
  intro rc member recorded
  -- A class that was there before is not the one that has just been created.
  have kept (old : rc ∈ runtimeClasses s) : Suits tee rc.metadata.name rc.body := by
    rcases mem_created recorded with before | ⟨submitted, stored, -, absent, present, sameUid⟩
    · exact suited rc old before
    · obtain ⟨storedMember, sameKey⟩ := Collection.find?_mem present
      obtain rfl := Collection.eq_of_uid member storedMember sameUid
      exact absurd sameKey (Collection.find?_eq_none.mp absent rc old)
  rcases answered.store with rfl | rfl
  · exact kept member
  rcases Store.exec_mem_cases member with old | ⟨submitted, rfl, -, rfl⟩ | ⟨stored, merged, rewrites, -, rfl⟩
  · exact kept old
  · exact careful
  · rcases mem_created recorded with before | ⟨submitted, _, rfl, _⟩
    · have storedSuits : Suits tee stored.metadata.name stored.body := by
        apply suited stored rewrites.mem
        rw [← rewrites.sameUid]
        exact before
      have mergedSuits : Suits tee merged.metadata.name merged.body := suits_rewritten rewrites careful storedSuits
      exact mergedSuits
    · cases rewrites

theorem Suited.env {change : Change} {w' : Cluster × List Nat} (suited : Suited tee (s, created))
    (same : w' = (change.apply s, created)) (untouched : classesUntouched (s, created) w' = true) :
    Suited tee w' := by
  subst same
  intro rc member recorded
  have kept : isUntouched (runtimeClasses s) rc = true := by
    have listed := List.all_eq_true.mp untouched rc member
    simpa [recorded] using listed
  obtain ⟨old, before, same⟩ := List.any_eq_true.mp kept
  simp only [Bool.and_eq_true, decide_eq_true_eq] at same
  obtain ⟨⟨sameUid, sameName⟩, sameBody⟩ := same
  rw [← sameName, ← sameBody]
  apply suited old before
  rw [sameUid]
  exact recorded

end Steps

section Wanted

def freshHandler (rust : Bool) (request : RuntimeClassRequest) : String :=
  if rust then "rs-" ++ request.handler else request.handler

theorem fresh_fits : ∀ tee ∈ [TEE.intelTDX, .amdSNP], ∀ label ∈ [masterLabel, kataOcLabel], ∀ mixed rust : Bool,
    ∀ request ∈ [kataCCRequest tee, kataNvidiaGPUCCRequest tee],
      tee.hasHandler request.name (freshHandler rust request) = true ∧
        tee.isSelected (freshSelector label { checkNodeEligibility := true, enableMixedCluster := mixed } request) = true := by
  simp only [List.forall_mem_cons, List.not_mem_nil, false_implies, implies_true, and_true]
  decide +kernel

def wantedBody (settings : Settings) (spec : KataConfigSpec) (label : String) (request : RuntimeClassRequest) :
    RuntimeClassBody where
  handler := if settings.getenv "RUST_RUNTIME" ≠ "" then "rs-" ++ request.handler else request.handler
  podFixed := [("cpu", request.cpuOverhead), ("memory", request.memoryOverhead)] ++
    if request.extResOverhead ≠ "" then [(request.extResOverhead, "1")] else []
  scheduling := some ⟨freshSelector label spec request, []⟩

theorem wantedBody_fits {settings : Settings} {spec : KataConfigSpec} {label : String} {request : RuntimeClassRequest}
    (isTEE : tee ∈ [TEE.intelTDX, .amdSNP]) (isRole : label ∈ [masterLabel, kataOcLabel])
    (checks : spec.checkNodeEligibility = true)
    (confidential : request ∈ [kataCCRequest tee, kataNvidiaGPUCCRequest tee]) :
    tee.fits request.name (wantedBody settings spec label request) = true := by
  obtain ⟨handler, selected⟩ := fresh_fits tee isTEE label isRole spec.enableMixedCluster
    (decide (settings.getenv "RUST_RUNTIME" ≠ "")) request confidential
  have sameHandler : handlerOf (wantedBody settings spec label request) =
      freshHandler (decide (settings.getenv "RUST_RUNTIME" ≠ "")) request := by
    simp [handlerOf, wantedBody, freshHandler]
  have sameSelector : nodeSelectorOf (wantedBody settings spec label request) =
      freshSelector label { checkNodeEligibility := true, enableMixedCluster := spec.enableMixedCluster } request := by
    simp [nodeSelectorOf, schedulingOf, wantedBody, freshSelector, checks]
  rw [TEE.fits, sameHandler, sameSelector, handler, selected]
  rfl

theorem isSelected_patched {old new current : StrMap} (wanted : tee.isSelected new = true)
    (selected : tee.isSelected current = true) : tee.isSelected (StrMap.mergePatch old new current) = true := by
  unfold TEE.isSelected at wanted selected ⊢
  rw [List.all_eq_true] at wanted selected ⊢
  intro other member
  have new := of_decide_eq_true (wanted other member)
  have current := of_decide_eq_true (selected other member)
  apply decide_eq_true
  rw [StrMap.lookup_mergePatch]
  split
  · exact current
  · exact new

theorem nodeSelectorOf_eq (body : RuntimeClassBody) :
    nodeSelectorOf body = ((schedulingOf body).getD ⟨∅, []⟩).nodeSelector := by
  unfold nodeSelectorOf
  cases schedulingOf body with
  | none => rfl
  | some scheduling => rfl

theorem suits_patched {name : String} {wanted body : RuntimeClassBody} (found : Option Scheduling)
    (suits : Suits tee name wanted) (before : Suits tee name body) :
    Suits tee name (patchScheduling found ((schedulingOf wanted).getD ⟨∅, []⟩) body) := by
  intro confidential
  obtain ⟨-, selects⟩ := Bool.and_eq_true_iff.mp (suits confidential)
  obtain ⟨handler, selected⟩ := Bool.and_eq_true_iff.mp (before confidential)
  rw [nodeSelectorOf_eq] at selects
  exact Bool.and_eq_true_iff.mpr ⟨handler, isSelected_patched selects selected⟩

end Wanted

section Operator

variable {settings : Settings}

def contract (tee : TEE) : Contract Req (Cluster × List Nat) where
  good _ _ := True
  mid := Suited tee

abbrev machine (settings : Settings) (tee : TEE) :=
  (operator settings createdClasses (singleTEE tee)).toMachine

def Checks (memory : Reconciler) (_ : Cluster × List Nat) : Prop := memory.spec.checkNodeEligibility = true

instance suited_invariant : Invariant (machine settings tee) (contract tee) (World (Suited tee)) := by
  refine world_invariant ?_ fun _ => id
  rintro ⟨s, created⟩ _ ⟨change, same, allowed⟩ suited
  exact Suited.env suited same allowed

theorem suited_answered {w w' : Cluster × List Nat} {r : Req} {response : Response r} (suited : Suited tee w)
    (reply : (machine settings tee).answer w r response w') (careful : Careful tee w.1 r) : Suited tee w' := by
  obtain ⟨s', answered, rfl, _⟩ := operator_answered reply
  exact Suited.call suited answered careful

/-- The assertion puts up with every request that is careful. -/
def Heeds (settings : Settings) (tee : TEE) (A : Reconciler → Cluster × List Nat → Prop) : Prop :=
  ∀ r, (∀ s, Careful tee s r) → Admits (machine settings tee) (contract tee) A r

theorem suited_heeds : Heeds settings tee (World (Suited tee)) :=
  fun _ careful _ w suited => ⟨trivial, fun _ _ reply => suited_answered suited reply (careful w.1)⟩

theorem careful_of_writes {r : Req} (other : r.writes ≠ some .runtimeClass) (s : Cluster) : Careful tee s r := by
  unfold Careful
  split
  · exact absurd rfl other
  · exact absurd rfl other
  · exact absurd rfl other
  · trivial

instance suited_lenient : Lenient (machine settings tee) (contract tee) (World (Suited tee)) :=
  world_lenient fun _ aside => suited_heeds _ (careful_of_writes (isAside_writes aside rfl))

theorem suited_writable {k : Kind} (other : k ≠ .runtimeClass) :
    Writable (machine settings tee) (contract tee) (World (Suited tee)) k := by
  intro r writes
  refine suited_heeds r (careful_of_writes ?_)
  rw [writes]
  simpa using other

theorem suited_passes (point : Point) : Passes (machine settings tee) (contract tee) (World (Suited tee)) point :=
  fun _ => mark_triple (fun _ _ _ => trivial) fun _ _ _ suited reply => suited_answered suited reply trivial

instance : KeepsWebhook settings (machine settings tee) (contract tee) (World (Suited tee)) :=
  keepsWebhook_of_writable settings fun k webhook => suited_writable (by rintro rfl; cases webhook)

instance checks_tolerant : Tolerant (machine settings tee) .free Checks where
  stable _ _ _ _ := id
  mid _ _ _ := trivial
  reads _ _ _ _ _ checks := ⟨trivial, fun _ _ _ => checks⟩
  side _ _ _ _ _ _ checks := ⟨trivial, fun _ _ _ => checks⟩
  kataNodes _ _ _ := id
  imageGenerator _ _ _ := id

abbrev Fetched (tee : TEE) : Reconciler → Cluster × List Nat → Prop := Both (World (Suited tee)) Checks

theorem fetched_heeds : Heeds settings tee (Fetched tee) := by
  have heeds : Heeds settings tee (World (Suited tee)) := suited_heeds
  intro r careful memory w holds
  obtain ⟨good, kept⟩ := heeds r careful memory w holds.1
  exact ⟨good, fun response w' reply => ⟨kept response w' reply, holds.2⟩⟩

theorem fetched_classesFree : ClassesFree (Fetched tee) := fun _ _ _ => id

section Classes

variable {A : Reconciler → Cluster × List Nat → Prop} [Tolerant (machine settings tee) (contract tee) A]

theorem applyRuntimeClass_suited (heeds : Heeds settings tee A) {rc : RuntimeClass}
    (suits : Suits tee rc.metadata.name rc.body) :
    Maintains (machine settings tee) (contract tee) A (applyRuntimeClass rc) := by
  have create : Maintains (machine settings tee) (contract tee) A (clientCreate rc) :=
    call_maintains (heeds _ fun _ => suits) fun _ => fromApi_maintains _
  have patch (found : Option Scheduling) : Maintains (machine settings tee) (contract tee) A
      (clientPatch .runtimeClass ⟨"", rc.metadata.name⟩
        (patchScheduling found ((schedulingOf rc.body).getD ⟨∅, []⟩))) :=
    call_maintains (heeds _ fun _ _ => suits_patched found suits) fun _ => fromApi_maintains _
  unfold applyRuntimeClass
  refine lookup_maintains fun found => ?_
  split
  · split
    · exact maintains_bind (maintains_throw _) fun _ => maintains_bind (maintains_orElse create) fun _ => maintains_pure _
    · exact maintains_bind (maintains_orElse create) fun _ => maintains_pure _
  · dsimp only
    split
    · exact maintains_pure _
    · exact maintains_bind (maintains_orElse (patch _)) fun _ => maintains_pure _

theorem createRuntimeClass_suited (heeds : Heeds settings tee A) (classesFree : ClassesFree A)
    {request : RuntimeClassRequest}
    (wanted : Triple (machine settings tee) (contract tee) A (wantedRuntimeClass settings request)
      (Leaves (fun rc memory w => A memory w ∧ Suits tee rc.metadata.name rc.body) A)) :
    Maintains (machine settings tee) (contract tee) A (createRuntimeClass settings request) := by
  have record : Maintains (machine settings tee) (contract tee) A
      (setStatus (recordRuntimeClass request.name) : Op Err PUnit) := by
    refine maintains_modify fun memory w holds => ?_
    rw [recordRuntimeClass_eq]
    exact classesFree memory w _ holds
  unfold createRuntimeClass
  refine maintains_bind (hasEligibleNodes_maintains request) fun eligible => ?_
  have apply : Maintains (machine settings tee) (contract tee) A (do
      applyRuntimeClass (← wantedRuntimeClass settings request)
      setStatus (recordRuntimeClass request.name)) := by
    refine Triple.bind wanted (fun rc memory w holds => ?_) fun _ _ _ => id
    exact maintains_bind (applyRuntimeClass_suited heeds holds.2) (fun _ => record) memory w holds.1
  split
  · exact maintains_pure _
  · exact apply

end Classes

theorem getNodeSelectorAsMap_yields {ε : Type} :
    Yields (fun selector => ∃ label ∈ [masterLabel, kataOcLabel], selector = [(label, "")])
      (getNodeSelectorAsMap : Op ε (List (String × String))) := by
  refine yields_bind fun isConverged => ?_
  split
  · exact yields_pure ⟨masterLabel, by simp, rfl⟩
  · exact yields_pure ⟨kataOcLabel, by simp, rfl⟩

theorem wantedRuntimeClass_triple {A : Reconciler → Cluster × List Nat → Prop}
    [Tolerant (machine settings tee) (contract tee) A] {request : RuntimeClassRequest}
    (suits : ∀ memory w, A memory w → ∀ label ∈ [masterLabel, kataOcLabel],
      Suits tee request.name (wantedBody settings memory.spec label request)) :
    Triple (machine settings tee) (contract tee) A (wantedRuntimeClass settings request)
      (Leaves (fun rc memory w => A memory w ∧ Suits tee rc.metadata.name rc.body) A) := by
  refine Maintains.bind_yields getNodeSelectorAsMap_maintains getNodeSelectorAsMap_yields ?_ fun _ _ _ => id
  rintro _ ⟨label, isRole, rfl⟩
  refine triple_get_bind fun r => ?_
  rintro memory w ⟨rfl, holds⟩
  have suited : Yields (fun rc : RuntimeClass => Suits tee rc.metadata.name rc.body)
      (setControllerReference ⟨{ name := request.name, finalizers := [runtimeClassFinalizerName] },
        wantedBody settings memory.spec label request⟩) :=
    setControllerReference_yields fun _ => suits memory w holds label isRole
  have owned := (setControllerReference_maintains (M := machine settings tee) (C := contract tee) (A := A) _).known
    suited
  refine (owned memory w holds).mono ?_
  rintro ⟨error | rc, memory'⟩ w' _ reached
  · exact reached
  · exact reached

theorem suited_creates : CreatesClasses settings (machine settings tee) (contract tee) (World (Suited tee)) := by
  intro request installed
  have ordinary : isConfidentialClass request.name = false := by
    simp only [installedClasses, List.mem_cons, List.not_mem_nil, or_false] at installed
    rcases installed with same | same | same
    all_goals
      rw [same]
      decide
  refine createRuntimeClass_suited suited_heeds (fun _ _ _ => id) (wantedRuntimeClass_triple ?_)
  intro memory w _ label _ confidential
  rw [ordinary] at confidential
  cases confidential

theorem createConfidential_suited (isTEE : tee ∈ [TEE.intelTDX, .amdSNP]) {request : RuntimeClassRequest}
    (confidential : request ∈ [kataCCRequest tee, kataNvidiaGPUCCRequest tee]) :
    Maintains (machine settings tee) (contract tee) (Fetched tee) (createRuntimeClass settings request) := by
  refine createRuntimeClass_suited fetched_heeds fetched_classesFree (wantedRuntimeClass_triple ?_)
  intro memory w holds label isRole _
  exact wantedBody_fits isTEE isRole holds.2 confidential

instance fetched_and (p : Prop) : Invariant (machine settings tee) (contract tee)
    (fun memory w => Fetched tee memory w ∧ p) := by
  have fetched : Invariant (machine settings tee) (contract tee) (Fetched tee) := inferInstance
  constructor
  · intro memory w w' step holds
    exact ⟨fetched.stable memory step holds.1, holds.2⟩
  · intro memory w holds
    exact fetched.mid memory w holds.1

theorem list_triple (selector : Selector) : Triple (machine settings tee) (contract tee) (Fetched tee)
    (clientList .node selector)
    (Leaves (fun nodes memory w => Fetched tee memory w ∧ (teesOf nodes).all (· = tee) = true) (Fetched tee)) := by
  have read : Admits (machine settings tee) (contract tee) (Fetched tee) (.list .node selector) :=
    fetched_heeds _ fun _ => trivial
  refine clientList_triple (fun _ _ _ => trivial) ?_ ?_
  · intro memory w nodes w' holds reply
    refine ⟨(read memory w holds).2 _ w' reply, ?_⟩
    have allowed := reply.2.2
    simp only [singleTEE, Bool.and_eq_true] at allowed
    exact allowed.2
  · intro memory w error w' holds reply
    exact (read memory w holds).2 _ w' reply

theorem computeTEE_triple : Triple (machine settings tee) (contract tee) (Fetched tee) computeTEE
    (Leaves (fun found memory w => Fetched tee memory w ∧ found = tee) (Fetched tee)) := by
  refine Maintains.bind_triple (maintains_orElse getKataConfigNodeSelectorAsSelector_maintains)
    (fun selector => ?_) fun _ _ _ => id
  refine Triple.leaves_bind (list_triple selector).orElse_leaves fun nodes => ?_
  split
  · rename_i found shown
    refine triple_pure ?_
    rintro memory w ⟨holds, only⟩
    rw [shown] at only
    exact ⟨holds, by simpa using only⟩
  · exact triple_throw fun _ _ holds => holds.1
  · exact triple_throw fun _ _ holds => holds.1

theorem handleConfidentialBaremetal_suited (isTEE : tee ∈ [TEE.intelTDX, .amdSNP]) (state : FeatureGateState) :
    Maintains (machine settings tee) (contract tee) (Fetched tee) (handleConfidentialBaremetal settings state) := by
  have deletable : Deletable (machine settings tee) (contract tee) (Fetched tee) .runtimeClass :=
    fun _ => fetched_heeds _ fun _ => trivial
  cases state with
  | disabled =>
    have delete (name : String) := deleteRuntimeClass_maintains deletable fetched_classesFree name
    exact maintains_bind (maintains_orElse (delete _)) fun _ => maintains_orElse (delete _)
  | enabled =>
    refine Triple.attempt_bind computeTEE_triple fun outcome => ?_
    cases outcome with
    | error error =>
      refine maintains_bind (A := Fetched tee) reconciler_maintains fun r => ?_
      split
      · exact maintains_pure _
      · exact maintains_throw _
    | ok found =>
      rintro memory w ⟨holds, rfl⟩
      have cpu : Maintains (machine settings found) (contract found) (Fetched found)
          (createRuntimeClass settings (kataCCRequest found)) := createConfidential_suited isTEE (by simp)
      have gpu : Maintains (machine settings found) (contract found) (Fetched found)
          (createRuntimeClass settings (kataNvidiaGPUCCRequest found)) :=
        createConfidential_suited isTEE (by simp)
      exact maintains_bind cpu (fun _ => gpu) memory w holds

instance (rc : RuntimeClass) : Invariant (machine settings tee) (contract tee)
    (World fun w => Suited tee w ∧ w.1.Seen rc) := by
  refine world_invariant ?_ fun _ holds => holds.1
  rintro ⟨s, created⟩ _ ⟨change, same, allowed⟩ ⟨suited, seen⟩
  refine ⟨Suited.env suited same allowed, ?_⟩
  rw [same]
  exact change.apply_seen seen

theorem get_triple (key : Key) : Triple (machine settings tee) (contract tee) (World (Suited tee))
    (clientGet .runtimeClass key)
    (Leaves (fun rc : RuntimeClass => World fun w => Suited tee w ∧ w.1.Seen rc) (World (Suited tee))) := by
  refine clientGet_triple (fun _ _ _ => trivial) ?_ ?_
  · intro memory w rc w' suited reply
    refine ⟨suited_answered suited reply trivial, ?_⟩
    obtain ⟨same, found⟩ := reply.1.get_ok
    rw [same]
    exact Store.seen_of_mem (Collection.find?_mem found).1
  · intro memory w error w' suited reply
    exact suited_answered suited reply trivial

theorem addCleanup_suited (rc : RuntimeClass) :
    Triple (machine settings tee) (contract tee) (World fun w => Suited tee w ∧ w.1.Seen rc)
      (clientUpdate { rc with metadata := { rc.metadata with
        finalizers := rc.metadata.finalizers ++ [runtimeClassFinalizerName] } })
      fun _ => World (Suited tee) := by
  refine clientUpdate_triple (fun _ _ _ => trivial) ?_ ?_
  · intro memory w answer w' holds reply
    exact suited_answered holds.1 reply ⟨rc, holds.2, rfl, rfl, rfl⟩
  · intro memory w error w' holds reply
    exact suited_answered holds.1 reply ⟨rc, holds.2, rfl, rfl, rfl⟩

theorem ensureFinalizers_suited (names : List String) :
    Maintains (machine settings tee) (contract tee) (World (Suited tee)) (ensureFinalizers names) := by
  induction names with
  | nil => exact maintains_pure _
  | cons name rest ih =>
    refine Triple.attempt_bind (get_triple ⟨"", name⟩) fun outcome => ?_
    cases outcome with
    | error error =>
      change Maintains _ _ (World (Suited tee)) (if _ then _ else _)
      split
      · exact ih
      · exact maintains_throw _
    | ok rc =>
      change Triple _ _ (World fun w => Suited tee w ∧ w.1.Seen rc) (if _ then _ else _) _
      split
      · exact ih.given
      · exact Triple.bind (addCleanup_suited rc) (fun _ => ih) fun _ _ _ => id

theorem fetch_triple (key : Key) : Triple (machine settings tee) (contract tee) (World (Suited tee))
    (fetchKataConfig key) (AfterFetch (fun _ => Fetched tee) (World (Suited tee))) := by
  refine fetchKataConfig_triple (fun _ _ => id) (fun _ _ _ => trivial) ?_ ?_
  · intro memory w kataConfig w' suited reply
    have allowed := reply.2.2
    simp only [singleTEE, Bool.and_eq_true] at allowed
    exact ⟨suited_answered suited reply trivial, allowed.1⟩
  · intro memory w error w' suited reply
    have kept : Suited tee w' := suited_answered suited reply trivial
    exact ⟨kept, kept⟩

theorem prepare_triple (isTEE : tee ∈ [TEE.intelTDX, .amdSNP]) :
    Triple (machine settings tee) (contract tee) (Fetched tee) (prepareReconcile settings)
      (Onward (World (Suited tee)) fun _ : Except Exit PUnit => World (Suited tee)) := by
  have writable : Writable (machine settings tee) .free Checks .runtimeClass :=
    fun _ _ _ _ checks => ⟨trivial, fun _ _ _ => checks⟩
  have image : ImageFree (Fetched tee) := ⟨fun _ _ _ => id⟩
  refine prepareReconcile_triple settings
    (fun names => (ensureFinalizers_suited names).both (ensureFinalizers_maintains writable names))
    (handleConfidentialBaremetal_suited isTEE) (fun _ _ _ => id) (fun state => ?_) (fun _ _ holds _ => holds.1)
    fun _ _ holds => holds.1
  have layered : Maintains (machine settings tee) (contract tee) (Fetched tee)
    (handleLayeredImageDeploymentFeature state) := handleLayeredImageDeploymentFeature_maintains state
  refine layered.post ?_
  rintro (_ | _) memory w holds
  · exact holds.1
  · exact holds.1

theorem deletes_triple : Triple (machine settings tee) (contract tee) (World (Suited tee)) (deleteBranch settings)
    fun _ => World (Suited tee) := by
  have remove (pool : String) : Maintains (machine settings tee) (contract tee) (World (Suited tee))
      (removeMc settings pool) := removeMc_maintains settings (suited_writable (by decide)).deletable pool
  refine maintains_bind (suited_passes _ Exit) fun _ => ?_
  refine deleteAndStoreStatus_triple settings ?_
  exact processDeleteRequest_maintains settings (fun _ point _ => suited_passes point)
    (suited_writable (by decide)) remove (suited_writable (by decide)) (suited_writable (by decide)).deletable

theorem installs_triple (oldObjStatus : KataConfigStatus) :
    Triple (machine settings tee) (contract tee) (World (Suited tee)) (installBranch settings oldObjStatus)
      fun _ => World (Suited tee) := by
  have commences : Commences (machine settings tee) (contract tee) (World (Suited tee)) := world_commences
  exact installBranch_maintains settings commences (fun _ point _ => suited_passes point)
    (fun _ => (suited_writable (by decide)).updatable _) ((suited_writable (by decide)).updatable _)
    (createMc_maintains settings (suited_writable (by decide))) (suited_writable (by decide))
    (suited_writable (by decide)) suited_creates oldObjStatus

theorem reconcile_triple (isTEE : tee ∈ [TEE.intelTDX, .amdSNP]) (key : Key) :
    Triple (machine settings tee) (contract tee) (World (Suited tee)) (reconcileRoutine settings key)
      fun _ => World (Suited tee) :=
  reconcileRoutine_triple (fun _ => Fetched tee) (fun _ => World (Suited tee)) settings (fetch_triple key)
    (fun _ => prepare_triple isTEE) (fun _ => deletes_triple.given)
    (fun status => (installs_triple status).given) fun _ _ _ => id

theorem sound (settings : Settings) (isTEE : tee ∈ [TEE.intelTDX, .amdSNP]) :
    (operator settings createdClasses (singleTEE tee)).Sound (initially []) (contract tee) (World (Suited tee))
      fun outcome => World (Suited tee) outcome.2 := by
  refine operator_sound (fun _ => World (Suited tee)) (fun _ => World (Suited tee)) ?_ (fun _ _ _ holds _ => holds)
    (reconcile_triple isTEE) (fun _ _ _ holds _ => holds) fun _ holds _ => holds
  rintro ⟨s, created⟩ ⟨empty, rfl⟩ rc member _
  have none : runtimeClasses s = [] := congrArg Collection.items (empty .runtimeClass)
  rw [none] at member
  cases member

end Operator

end ConfidentialClasses

/-- As long as the nodes show one TEE only, and that is not IBM SE, every confidential
runtime class the operator has created has the handler and the label of that TEE. -/
theorem confidentialClasses_coherent (settings : Settings) {tee : TEE} (hasGPUs : tee ≠ .ibmSE)
    {phase : Phase Req Response Reconciler Exit} {w : Cluster × List Nat}
    (reached : (operator settings createdClasses (singleTEE tee)).Reachable (initially []) (phase, w)) :
    ∀ rc ∈ runtimeClasses w.1, rc.metadata.uid ∈ w.2 → isCoherent rc = true := by
  have isTEE : tee ∈ [TEE.intelTDX, .amdSNP] := by
    cases tee with
    | intelTDX | amdSNP => simp
    | ibmSE => exact absurd rfl hasGPUs
  have suited : ConfidentialClasses.Suited tee w := by
    have holds := (ConfidentialClasses.sound settings isTEE).holds reached
    cases phase with
    | idle memory => exact holds
    | running program => exact Safe.mid holds
  intro rc member created
  exact (suited rc member created).isCoherent

def hasClass (name : String) (coherent : Bool) (w : Cluster × List Nat) : Bool :=
  (runtimeClasses w.1).any fun rc => rc.metadata.uid ∈ w.2 && rc.metadata.name = name && isCoherent rc = coherent

theorem exists_of_hasClass {name : String} {coherent : Bool} {w : Cluster × List Nat}
    (has : hasClass name coherent w = true) :
    ∃ rc ∈ runtimeClasses w.1, rc.metadata.uid ∈ w.2 ∧ rc.metadata.name = name ∧ isCoherent rc = coherent := by
  obtain ⟨rc, member, found⟩ := List.any_eq_true.mp has
  simp only [Bool.and_eq_true, decide_eq_true_eq] at found
  exact ⟨rc, member, found.1.1, found.1.2, found.2⟩

/-- A node with a TEE, and a `KataConfig` on a cluster with confidential containers. -/
def confidentialCluster (tee : TEE) : Script :=
  others [.create .node
      ⟨{ name := "node", labels := StrMap.ofList [(runtimeKataLabel, "true"), (tee.label, "true")] }, ()⟩,
    .create .configMap ⟨{ name := "osc-feature-gates", ns := operatorNamespace },
      show ConfigMapBody from ⟨some (StrMap.ofList [("confidential", "true")])⟩⟩,
    .create .kataConfig ⟨{ name := exampleKey.name },
      show KataConfigBody from { spec := { checkNodeEligibility := true } }⟩] ++ [.start exampleKey]

/-- On a node with TDX, `kata-cc` is created and coherent. -/
theorem confidentialClasses_coherent_tdx : ∃ (w : Cluster × List Nat) (rc : RuntimeClass),
    rc ∈ runtimeClasses w.1 ∧ rc.metadata.name = kataCCRuntimeClassName ∧ isCoherent rc = true := by
  have ends : endsIn plainSettings createdClasses (singleTEE .intelTDX) []
      (confidentialCluster .intelTDX ++ answered 16) (hasClass kataCCRuntimeClassName true) = true := by
    decide +kernel
  obtain ⟨phase, w, reached, has⟩ := reachable_of_endsIn ends
  obtain ⟨rc, member, created, named, -⟩ := exists_of_hasClass has
  exact ⟨w, rc, member, named,
    confidentialClasses_coherent plainSettings (by decide) reached rc member created⟩

/-- The node loses the label of TDX and gets the one of SNP: `kata-cc` keeps the handler of
TDX.  On a node with SE, `kata-cc-nvidia-gpu` gets the handler of SE. -/
theorem confidentialClasses_mixed_up :
    (∃ phase w, (operator plainSettings createdClasses eligibilityChecked).Reachable (initially []) (phase, w) ∧
      ∃ rc ∈ runtimeClasses w.1, rc.metadata.uid ∈ w.2 ∧ rc.metadata.name = kataCCRuntimeClassName ∧
        isCoherent rc = false) ∧
    ∃ phase w, (operator plainSettings createdClasses eligibilityChecked).Reachable (initially []) (phase, w) ∧
      ∃ rc ∈ runtimeClasses w.1, rc.metadata.uid ∈ w.2 ∧ rc.metadata.name = kataNvidiaGPUCCRuntimeClassName ∧
        isCoherent rc = false := by
  have relabelled : endsIn plainSettings createdClasses eligibilityChecked []
      (confidentialCluster .intelTDX ++ answered 33 ++ [.finish] ++
        others [.patch .node ⟨"", "node"⟩ [(intelTDXNodeLabel, none), (amdSNPNodeLabel, some "true")] id] ++
        [.start exampleKey] ++ answered 16) (hasClass kataCCRuntimeClassName false) = true := by
    decide +kernel
  have secureExecution : endsIn plainSettings createdClasses eligibilityChecked []
      (confidentialCluster .ibmSE ++ answered 23) (hasClass kataNvidiaGPUCCRuntimeClassName false) = true := by
    decide +kernel
  obtain ⟨phase, w, reached, has⟩ := reachable_of_endsIn relabelled
  obtain ⟨phase', w', reached', has'⟩ := reachable_of_endsIn secureExecution
  exact ⟨⟨phase, w, reached, exists_of_hasClass has⟩, phase', w', reached', exists_of_hasClass has'⟩

end SandboxedContainers
