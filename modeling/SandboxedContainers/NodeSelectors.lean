import SandboxedContainers.Lib.Heap
import SandboxedContainers.RuntimeClassNames
import SandboxedContainers.StatusLists

/-!
# The node selectors of the runtime classes

An existing runtime class keeps everything but its scheduling, which is patched to what a
new class would get.  The patch leaves no key behind.  The selector itself is put together
in Go maps, which are shared by reference with the label maps of the package; those are
copied from and never written to.
-/

namespace SandboxedContainers

open Lib Routine

namespace NodeSelectors

open RuntimeClassNames

def selectorOf (rc : RuntimeClass) : Option StrMap := (schedulingOf rc.body).map Scheduling.nodeSelector

/-! ### The stored selector -/

section Stored

variable {settings : Settings} {request : RuntimeClassRequest} {memory : Reconciler} {s : Cluster}

theorem elsewhere_kept (r : Req) (elsewhere : Elsewhere r) : (s.exec r).2 = s := exec_read s r elsewhere.1

variable (settings request memory s) in
theorem wantedRuntimeClass_eval : ∃ rc : RuntimeClass,
    (wantedRuntimeClass settings request).eval Store.exec memory s = ((.ok rc, memory), s) ∧
      rc.metadata.name = request.name ∧
      schedulingOf rc.body = some ⟨freshSelector (kataNodeLabel s) memory.spec request, []⟩ := by
  unfold wantedRuntimeClass
  rw [eval_bind_ok (steady_getNodeSelectorAsMap s memory)]
  exact ⟨_, rfl, rfl, rfl⟩

theorem call_eval_ok {α : Type} (r : Req) (unwrap : Response r → Except ApiError α) {translate : Err → Err}
    {memory' : Reconciler} {s' : Cluster}
    (ended : (((ask r >>= fun response => fromApi (unwrap response) : Op Err α).orElse translate >>=
      fun _ => Pure.pure ⟨⟩ : Op Err PUnit)).eval Store.exec memory s = ((.ok ⟨⟩, memory'), s')) :
    (∃ value, unwrap (s.exec r).1 = .ok value) ∧ s' = (s.exec r).2 := by
  replace ended : ((((fromApi (unwrap (s.exec r).1) : Op Err α).orElse translate >>=
      fun _ => Pure.pure ⟨⟩ : Op Err PUnit)).eval Store.exec memory (s.exec r).2) = ((.ok ⟨⟩, memory'), s') := ended
  cases answered : unwrap (s.exec r).1 with
  | error error =>
    rw [answered] at ended
    cases ended
  | ok value =>
    rw [answered] at ended
    cases ended
    exact ⟨⟨value, rfl⟩, rfl⟩

/-- A class with the wanted scheduling is stored when `applyRuntimeClass` returns nil. -/
theorem applyRuntimeClass_eval {rc : RuntimeClass} {wanted : Scheduling} {memory' : Reconciler} {s' : Cluster}
    (scheduled : schedulingOf rc.body = some wanted)
    (applied : (applyRuntimeClass rc).eval Store.exec memory s = ((.ok ⟨⟩, memory'), s')) :
    ∃ stored, s'.find? .runtimeClass (classKey rc.metadata.name) = some stored ∧
      selectorOf stored = some wanted.nodeSelector := by
  unfold applyRuntimeClass at applied
  cases serves : s.served .runtimeClass with
  | false =>
    rw [eval_bind_ok ((steady_clientGet_unserved _ serves).attempt memory)] at applied
    cases applied
  | true =>
    cases found : s.find? .runtimeClass (classKey rc.metadata.name) with
    | none =>
      rw [eval_bind_ok ((steady_clientGet_absent ⟨"", rc.metadata.name⟩ serves found).attempt memory)] at applied
      obtain ⟨⟨answer, created⟩, rfl⟩ :=
        call_eval_ok (.create .runtimeClass (inScope rc)) (fun answer => answer) applied
      rcases s.exec_create_cases (P := Mark) (inScope rc) with ⟨error, refused⟩ | ⟨absent, added⟩
      · rw [refused] at created
        cases created
      · rw [added]
        exact ⟨_, Store.find?_insertNew absent, congrArg (Option.map Scheduling.nodeSelector) scheduled⟩
    | some foundRc =>
      rw [eval_bind_ok ((steady_clientGet_exec ⟨"", rc.metadata.name⟩ serves found).attempt memory)] at applied
      dsimp only at applied
      rw [scheduled, Option.getD_some] at applied
      split at applied
      · next same =>
        cases applied
        exact ⟨foundRc, found, by rw [selectorOf, same]; rfl⟩
      · obtain ⟨⟨answer, patched⟩, rfl⟩ := call_eval_ok (.patch .runtimeClass (classKey rc.metadata.name) []
          (patchScheduling (schedulingOf foundRc.body) wanted)) (fun answer => answer) applied
        refine ⟨_, Store.find?_exec_patch found patched, congrArg some ?_⟩
        exact StrMap.mergePatch_self _ _

theorem createRuntimeClass_eval
    (created : (createRuntimeClass settings request).result Store.exec memory s = .ok ⟨⟩)
    (eligible : (hasEligibleNodes request).result Store.exec memory s = .ok true) :
    ∃ stored, ((createRuntimeClass settings request).eval Store.exec memory s).2.find? .runtimeClass
        (classKey request.name) = some stored ∧
      selectorOf stored = some (freshSelector (kataNodeLabel s) memory.spec request) := by
  have checked : (hasEligibleNodes request).eval Store.exec memory s =
      (((hasEligibleNodes request).result Store.exec memory s, memory), s) :=
    (looks_hasEligibleNodes request).eval elsewhere_kept memory
  rw [eligible] at checked
  obtain ⟨rc, wants, name, scheduled⟩ := wantedRuntimeClass_eval settings request memory s
  have unfolded : (createRuntimeClass settings request).eval Store.exec memory s =
      (applyRuntimeClass rc >>= fun _ => setStatus (recordRuntimeClass request.name)).eval Store.exec memory s := by
    unfold createRuntimeClass
    rw [eval_bind_ok checked]
    exact eval_bind_ok wants _
  rw [Routine.result, unfolded] at created
  rw [unfolded]
  rcases applied : (applyRuntimeClass rc).eval Store.exec memory s with ⟨⟨error | _, memory'⟩, s'⟩
  · rw [eval_bind_error applied] at created
    cases created
  · rw [eval_bind_ok applied]
    obtain ⟨stored, found, selected⟩ := applyRuntimeClass_eval scheduled applied
    exact ⟨stored, name ▸ found, selected⟩

end Stored

/-! ### The maps of the package -/

inductive Site where
  | kata
  | nvidiaGPU
  | confidential (tee : TEE)
  | confidentialGPU (tee : TEE)
  | peerPods

def peerPodsRequest : RuntimeClassRequest where
  name := peerpodsRuntimeClassName
  cpuOverhead := "0.25"
  memoryOverhead := "120Mi"
  handler := peerpodsRuntimeClassName
  additionalNodeLabels := none

def Site.request (spec : KataConfigSpec) : Site → RuntimeClassRequest
  | kata => kataRequest spec.checkNodeEligibility
  | nvidiaGPU => kataNvidiaGPURequest
  | confidential tee => kataCCRequest tee
  | confidentialGPU tee => kataNvidiaGPUCCRequest tee
  | peerPods => peerPodsRequest

abbrev Labels := StateM (Heap StrMap)

def packageMaps : List StrMap :=
  [StrMap.ofList nvidiaGPUNodeLabels,
    StrMap.ofList [("nvidia.com/cc.mode.state", "on"), ("nvidia.com/cc.ready.state", "true")],
    StrMap.ofList [(intelTDXNodeLabel, "true")],
    StrMap.ofList [(amdSNPNodeLabel, "true")],
    StrMap.ofList [(ibmSENodeLabel, "true")],
    StrMap.ofList [(kataCapableLabelKey, "true")],
    StrMap.ofList [(nodeTypeLabelKey, "bare-metal")],
    StrMap.ofList [(nodeTypeLabelKey, "bare-metal")],
    StrMap.ofList [(nodeTypeLabelKey, "bare-metal")],
    StrMap.ofList [(nodeTypeLabelKey, "virtual")]]

def nvidiaGPUNodeLabelsRef : Ref := 0
def nvidiaGPUCCNodeLabelsRef : Ref := 1

def teeNodeLabelsRef : TEE → Ref
  | .intelTDX => 2
  | .amdSNP => 3
  | .ibmSE => 4

/-- `mixedClusterLabels`, a map to maps. -/
def mixedClusterLabelsRef (runtimeClassName : String) : Option Ref :=
  if runtimeClassName = kataRuntimeClassName then some 5
  else if runtimeClassName = kataNvidiaGPURuntimeClassName then some 6
  else if runtimeClassName = kataCCRuntimeClassName then some 7
  else if runtimeClassName = kataNvidiaGPUCCRuntimeClassName then some 8
  else if runtimeClassName = peerpodsRuntimeClassName then some 9
  else none

/-- `maps.Copy`. -/
def copyMap (target source : Ref) : Labels PUnit :=
  Heap.modify target fun heap entries => heap.read source ∪ entries

/-- Copy a map under a condition, unless it is nil or missing. -/
def copyMapIf (enabled : Bool) (target : Ref) (source : Option Ref) : Labels PUnit :=
  match enabled, source with
  | true, some labels => copyMap target labels
  | _, _ => pure ⟨⟩

/-- `maps.Clone`. -/
def cloneMap (source : Ref) : Labels Ref := fun heap => Heap.alloc (heap.read source) heap

def additionalLabels (checkNodeEligibility : Bool) : Site → Labels (Option Ref)
  | .kata => do
    let kataNodeLabels ← Heap.alloc ∅
    if checkNodeEligibility then
      Heap.modify kataNodeLabels fun _ entries => entries.insert runtimeKataLabel "true"
    return some kataNodeLabels
  | .nvidiaGPU => do return some (← cloneMap nvidiaGPUNodeLabelsRef)
  | .confidential tee => do
    let additionalLabels ← Heap.alloc ∅
    copyMap additionalLabels (teeNodeLabelsRef tee)
    return some additionalLabels
  | .confidentialGPU .ibmSE => do return some (← Heap.alloc ∅)
  | .confidentialGPU tee => do
    let additionalLabels ← Heap.alloc ∅
    copyMap additionalLabels nvidiaGPUNodeLabelsRef
    copyMap additionalLabels nvidiaGPUCCNodeLabelsRef
    copyMap additionalLabels (teeNodeLabelsRef tee)
    return some additionalLabels
  | .peerPods => return none

/-- A call of `createRuntimeClass`: from where, on nodes with which label, for which spec,
and whether it comes to the selector or ends before. -/
structure SelectorCall where
  site : Site
  label : String
  spec : KataConfigSpec
  skipped : Bool := false

namespace SelectorCall

variable (call : SelectorCall)

def request : RuntimeClassRequest := call.site.request call.spec

def buildSelector (additionalNodeLabels : Option Ref) : Labels Ref := do
  let nodeSelector ← Heap.alloc (StrMap.ofList [(call.label, "")])
  copyMapIf call.spec.checkNodeEligibility nodeSelector additionalNodeLabels
  copyMapIf call.spec.enableMixedCluster nodeSelector (mixedClusterLabelsRef call.request.name)
  return nodeSelector

def run : Labels (Option Ref) := do
  let additionalNodeLabels ← additionalLabels call.spec.checkNodeEligibility call.site
  if call.skipped then return none
  return some (← call.buildSelector additionalNodeLabels)

end SelectorCall

section Maps

variable {cells : List StrMap}

def Pristine (cells : List StrMap) : Prop := packageMaps <+: cells

theorem Pristine.append (pristine : Pristine cells) (added : List StrMap) : Pristine (cells ++ added) :=
  pristine.trans (List.prefix_append _ _)

theorem Pristine.read (pristine : Pristine cells) {ref : Ref} {entries : StrMap}
    (known : packageMaps[ref]? = some entries) : Heap.read ⟨cells⟩ ref = entries := by
  obtain ⟨rest, rfl⟩ := pristine
  have old : ref < packageMaps.length := (List.getElem?_eq_some_iff.mp known).1
  rw [Heap.read_append rest old, Heap.read, known, Option.getD_some]

theorem copyMap_last {entries : StrMap} (source : Ref) : copyMap cells.length source ⟨cells ++ [entries]⟩ =
      (⟨⟩, ⟨cells ++ [Heap.read ⟨cells ++ [entries]⟩ source ∪ entries]⟩) :=
  Heap.modify_last _

theorem copyMap_package (pristine : Pristine cells) {entries source : StrMap} {ref : Ref}
    (known : packageMaps[ref]? = some source) :
    copyMap cells.length ref ⟨cells ++ [entries]⟩ = (⟨⟩, ⟨cells ++ [source ∪ entries]⟩) := by
  rw [copyMap_last, (pristine.append [entries]).read known]

theorem packageMaps_tee (tee : TEE) :
    packageMaps[teeNodeLabelsRef tee]? = some (StrMap.ofList [(tee.label, "true")]) := by
  cases tee <;> rfl

theorem additionalLabels_eq (pristine : Pristine cells) (spec : KataConfigSpec) (site : Site) :
    additionalLabels spec.checkNodeEligibility site ⟨cells⟩ = match (site.request spec).additionalNodeLabels with
      | none => (none, ⟨cells⟩)
      | some labels => (some cells.length, ⟨cells ++ [StrMap.ofList labels]⟩) := by
  have allocated (entries : StrMap) : Heap.alloc entries ⟨cells⟩ = (cells.length, ⟨cells ++ [entries]⟩) := rfl
  cases site with
  | kata =>
    refine (Heap.run_bind (allocated ∅)).trans ?_
    change _ = ((some cells.length : Option Ref),
      Heap.mk (cells ++ [StrMap.ofList (if spec.checkNodeEligibility then [(runtimeKataLabel, "true")] else [])]))
    cases spec.checkNodeEligibility with
    | false => rfl
    | true => exact Heap.run_bind (Heap.modify_last _)
  | nvidiaGPU =>
    have cloned : cloneMap nvidiaGPUNodeLabelsRef ⟨cells⟩ =
        (cells.length, ⟨cells ++ [StrMap.ofList nvidiaGPUNodeLabels]⟩) := by
      have held : packageMaps[nvidiaGPUNodeLabelsRef]? = some (StrMap.ofList nvidiaGPUNodeLabels) := rfl
      rw [cloneMap, pristine.read held, allocated]
    exact Heap.run_bind cloned
  | confidential tee =>
    refine (Heap.run_bind (allocated ∅)).trans ?_
    refine (Heap.run_bind (copyMap_package pristine (packageMaps_tee tee))).trans ?_
    rw [Finmap.union_empty]
    rfl
  | confidentialGPU tee =>
    have gpu : packageMaps[nvidiaGPUNodeLabelsRef]? = some (StrMap.ofList nvidiaGPUNodeLabels) := rfl
    have gpuCC : packageMaps[nvidiaGPUCCNodeLabelsRef]? =
        some (StrMap.ofList [("nvidia.com/cc.mode.state", "on"), ("nvidia.com/cc.ready.state", "true")]) := rfl
    have overridden : StrMap.ofList [("nvidia.com/cc.mode.state", "on"), ("nvidia.com/cc.ready.state", "true")] ∪
        StrMap.ofList nvidiaGPUNodeLabels = StrMap.ofList nvidiaGPUCCNodeLabels := by decide +kernel
    have copied (tee : TEE) : (do
        copyMap cells.length nvidiaGPUNodeLabelsRef
        copyMap cells.length nvidiaGPUCCNodeLabelsRef
        copyMap cells.length (teeNodeLabelsRef tee)
        Pure.pure (some cells.length) : Labels (Option Ref)) ⟨cells ++ [∅]⟩ =
          (some cells.length, ⟨cells ++ [StrMap.ofList (nvidiaGPUCCNodeLabels ++ [(tee.label, "true")])]⟩) := by
      refine (Heap.run_bind (copyMap_package pristine gpu)).trans ?_
      refine (Heap.run_bind (copyMap_package pristine gpuCC)).trans ?_
      refine (Heap.run_bind (copyMap_package pristine (packageMaps_tee tee))).trans ?_
      rw [Finmap.union_empty, overridden, StrMap.ofList_append]
      rfl
    cases tee with
    | ibmSE => rfl
    | intelTDX => exact (Heap.run_bind (allocated ∅)).trans (copied .intelTDX)
    | amdSNP => exact (Heap.run_bind (allocated ∅)).trans (copied .amdSNP)
  | peerPods => rfl

def Represents (cells : List StrMap) (labels : Option (List (String × String))) : Option Ref → Prop
  | none => labels = none
  | some ref => ref < cells.length ∧ ∃ entries, labels = some entries ∧ Heap.read ⟨cells⟩ ref = StrMap.ofList entries

theorem mixedClusterLabels_represented (pristine : Pristine cells) (spec : KataConfigSpec) (site : Site) :
    Represents cells (some (mixedClusterLabels (site.request spec).name))
      (mixedClusterLabelsRef (site.request spec).name) := by
  have package (ref : Ref) {entries : List (String × String)} (known : packageMaps[ref]? = some (StrMap.ofList entries)) :
      Represents cells (some entries) (some ref) :=
    ⟨(List.getElem?_eq_some_iff.mp known).1.trans_le pristine.length_le, entries, rfl, pristine.read known⟩
  cases site with
  | kata => exact package 5 rfl
  | nvidiaGPU => exact package 6 rfl
  | confidential tee => exact package 7 rfl
  | confidentialGPU tee => exact package 8 rfl
  | peerPods => exact package 9 rfl

theorem copyMapIf_eq {labels : Option (List (String × String))} {source : Option Ref}
    (represents : Represents cells labels source) (enabled : Bool) (entries : List (String × String)) :
    copyMapIf enabled cells.length source ⟨cells ++ [StrMap.ofList entries]⟩ =
      (⟨⟩, ⟨cells ++ [StrMap.ofList (entries ++ if enabled then labels.getD [] else [])]⟩) := by
  cases enabled with
  | false =>
    rw [if_neg Bool.false_ne_true, List.append_nil]
    rfl
  | true =>
    rw [if_pos rfl]
    cases source with
    | none =>
      cases (represents : labels = none)
      rw [Option.getD_none, List.append_nil]
      rfl
    | some ref =>
      obtain ⟨old, more, rfl, read⟩ := represents
      refine (copyMap_last ref).trans ?_
      rw [Heap.read_append _ old, read, ← StrMap.ofList_append]
      rfl

theorem buildSelector_eq (pristine : Pristine cells) (call : SelectorCall) {additional : Option Ref}
    (represents : Represents cells call.request.additionalNodeLabels additional) :
    call.buildSelector additional ⟨cells⟩ =
      (cells.length, ⟨cells ++ [freshSelector call.label call.spec call.request]⟩) := by
  have allocated : Heap.alloc (StrMap.ofList [(call.label, "")]) ⟨cells⟩ =
      (cells.length, ⟨cells ++ [StrMap.ofList [(call.label, "")]]⟩) := rfl
  refine (Heap.run_bind allocated).trans ?_
  refine (Heap.run_bind (copyMapIf_eq represents _ _)).trans ?_
  exact Heap.run_bind (copyMapIf_eq (mixedClusterLabels_represented pristine call.spec call.site) _ _)

theorem run_eq (pristine : Pristine cells) (call : SelectorCall) : ∃ added,
    (call.run ⟨cells⟩).2 = ⟨cells ++ added⟩ ∧ (call.skipped = false → ∃ ref, (call.run ⟨cells⟩).1 = some ref ∧
      Heap.read ⟨cells ++ added⟩ ref = freshSelector call.label call.spec call.request) := by
  have labels := additionalLabels_eq pristine call.spec call.site
  obtain ⟨additional, built, adds, represents⟩ : ∃ additional built,
      additionalLabels call.spec.checkNodeEligibility call.site ⟨cells⟩ = (additional, ⟨cells ++ built⟩) ∧
        Represents (cells ++ built) call.request.additionalNodeLabels additional := by
    change _ = match call.request.additionalNodeLabels with
      | none => _
      | some labels => _ at labels
    cases wanted : call.request.additionalNodeLabels with
    | none =>
      rw [wanted] at labels
      exact ⟨none, [], by rw [labels, List.append_nil], rfl⟩
    | some entries =>
      rw [wanted] at labels
      exact ⟨some cells.length, [StrMap.ofList entries], labels, by simp, entries, rfl, Heap.read_last⟩
  have selector := buildSelector_eq (pristine.append built) call represents
  have unfolded : call.run ⟨cells⟩ = (if call.skipped then Pure.pure none
      else call.buildSelector additional >>= fun ref => Pure.pure (some ref) : Labels (Option Ref)) ⟨cells ++ built⟩ :=
    Heap.run_bind adds
  rw [unfolded]
  cases call.skipped with
  | true => exact ⟨built, rfl, nofun⟩
  | false =>
    rw [if_neg Bool.false_ne_true, Heap.run_bind selector, List.append_assoc]
    refine ⟨_, rfl, fun _ => ⟨_, rfl, ?_⟩⟩
    rw [← List.append_assoc]
    exact Heap.read_last

def heapAfter (calls : List SelectorCall) : Heap StrMap :=
  calls.foldl (fun heap call => (call.run heap).2) ⟨packageMaps⟩

theorem heapAfter_pristine (calls : List SelectorCall) : Pristine (heapAfter calls).cells := by
  induction calls using List.reverseRecOn with
  | nil => exact List.prefix_refl packageMaps
  | append_singleton calls call ih =>
    obtain ⟨added, runs, _⟩ := run_eq ih call
    have last : heapAfter (calls ++ [call]) = (call.run (heapAfter calls)).2 := by
      rw [heapAfter, List.foldl_append]
      rfl
    rw [last, runs]
    exact ih.append added

end Maps

end NodeSelectors

open NodeSelectors

/-- Whatever the cluster looks like, a creation that returns nil and was not skipped leaves
the class with the selector that a new one gets on that cluster, and nothing else in it.
And however many calls came before, the label maps of the package are as they were
initialised, and the map a call puts together from them is that selector. -/
theorem scheduling_has_no_memory :
    (∀ (settings : Settings) (request : RuntimeClassRequest) (memory : Reconciler) (s : Cluster),
      (createRuntimeClass settings request).result Store.exec memory s = .ok ⟨⟩ →
      (hasEligibleNodes request).result Store.exec memory s = .ok true →
      ∃ stored, ((createRuntimeClass settings request).eval Store.exec memory s).2.find? .runtimeClass
          ⟨"", request.name⟩ = some stored ∧
        selectorOf stored = some (freshSelector (kataNodeLabel s) memory.spec request)) ∧
    ∀ (earlier : List SelectorCall) (call : SelectorCall), packageMaps <+: (heapAfter earlier).cells ∧
        (call.skipped = false → ∃ ref, (call.run (heapAfter earlier)).1 = some ref ∧
          (call.run (heapAfter earlier)).2.read ref = freshSelector call.label call.spec call.request) := by
  refine ⟨fun settings request memory s created eligible => createRuntimeClass_eval created eligible, ?_⟩
  intro earlier call
  have pristine := heapAfter_pristine earlier
  obtain ⟨added, runs, selected⟩ := run_eq pristine call
  refine ⟨pristine, fun reached => ?_⟩
  obtain ⟨ref, returned, read⟩ := selected reached
  refine ⟨ref, returned, ?_⟩
  rw [runs]
  exact read

namespace NodeSelectors

def checkingMemory : Reconciler :=
  { kataConfig := some ⟨exampleKataConfig.metadata, show KataConfigBody from { spec := { checkNodeEligibility := true } }⟩ }

/-- There is an eligible node, and a class with a selector that the operator would not give it. -/
def staleCluster : Cluster := clusterOf
  [.create .node (setLabel exampleNode runtimeKataLabel "true"),
    .create .runtimeClass ⟨{ name := kataRuntimeClassName }, show RuntimeClassBody from
      ⟨kataRuntimeClassName, [], some ⟨StrMap.ofList [("stale", "")], []⟩⟩⟩]

end NodeSelectors

theorem scheduling_has_no_memory_stale : ∃ stored,
    ((createRuntimeClass plainSettings (kataRequest true)).eval Store.exec checkingMemory staleCluster).2.find?
        .runtimeClass ⟨"", kataRuntimeClassName⟩ = some stored ∧
      selectorOf stored = some (StrMap.ofList [(kataOcLabel, ""), (runtimeKataLabel, "true")]) := by
  obtain ⟨stored, found, selector⟩ := scheduling_has_no_memory.1 plainSettings (kataRequest true) checkingMemory
    staleCluster (by rfl) (by rfl)
  have fresh : freshSelector (kataNodeLabel staleCluster) checkingMemory.spec (kataRequest true) =
      StrMap.ofList [(kataOcLabel, ""), (runtimeKataLabel, "true")] := by
    decide +kernel
  exact ⟨stored, found, selector.trans (congrArg some fresh)⟩

end SandboxedContainers
