import SandboxedContainers.Lib.MapEdits
import SandboxedContainers.ServerReads

/-!
# Editing config maps

Three functions read a config map, assign to entries of its data and store it again: the
general `updateConfigMap`, the migration of the peer-pods limit, and the one that fills in the
image config map.  A config map without data is read with a nil map, to which an assignment
panics.

Each of them is a read and an `Edit` of what was read; what a run does is said once, for
edits.
-/

namespace SandboxedContainers

open Lib Routine

inductive Edit where
  /-- It assigns to an entry of a nil map. -/
  | panics
  | keep
  | store (configMap : ConfigMap)

def nilMapText : String := "assignment to entry in nil map"

def Edit.carryOut : Edit → Op Err PUnit
  | .panics => Routine.throw (.panic nilMapText)
  | .keep => Pure.pure ⟨⟩
  | .store configMap => clientUpdate configMap >>= fun _ => Pure.pure ⟨⟩

def editConfigMap (key : Key) (edit : ConfigMap → Edit) : Op Err PUnit :=
  clientGet .configMap key >>= fun configMap => (edit configMap).carryOut

section Data

theorem withData_self {configMap : ConfigMap} {data : StrMap} (present : dataOf configMap = some data) :
    withData configMap data = configMap := by
  obtain ⟨metadata, body⟩ := configMap
  cases body
  cases present
  rfl

@[simp] theorem dataOf_withData (configMap : ConfigMap) (data : StrMap) :
    dataOf (withData configMap data) = some data := rfl

@[simp] theorem dataAt_withData (configMap : ConfigMap) (data : StrMap) (key : String) :
    dataAt (withData configMap data) key = StrMap.getD data key := rfl

theorem dataAt_of_some {configMap : ConfigMap} {data : StrMap} (present : dataOf configMap = some data)
    (key : String) : dataAt configMap key = StrMap.getD data key := by
  rw [dataAt, present]
  rfl

theorem dataAt_of_none {configMap : ConfigMap} (missing : dataOf configMap = none) (key : String) :
    dataAt configMap key = "" := by
  rw [dataAt, missing]
  rfl

theorem putData_of_some {configMap : ConfigMap} {data : StrMap} (present : dataOf configMap = some data)
    (key value : String) : putData configMap key value = Pure.pure (withData configMap (data.insert key value)) := by
  rw [putData, present]

theorem putData_of_none {configMap : ConfigMap} (missing : dataOf configMap = none) (key value : String) :
    putData configMap key value = Routine.throw (.panic nilMapText) := by
  rw [putData, missing]
  rfl

end Data

section Update

variable {configMap : ConfigMap} {data : StrMap} {update : Bool} {newData keysToRemove : List (String × String)}

theorem assignData_of_some (present : dataOf configMap = some data) : assignData configMap update newData =
      Pure.pure (withData configMap (data.assign newData), update || data.assigns newData) := by
  induction newData generalizing configMap data update with
  | nil =>
    simp only [assignData, StrMap.assigns, Bool.or_false, StrMap.assign, List.foldl_nil]
    rw [withData_self present]
  | cons entry rest ih =>
    by_cases reads : StrMap.getD data entry.1 = entry.2
    · have unset : data.set entry = data := if_pos reads
      rw [assignData, if_neg (by rw [dataAt_of_some present]; exact not_not.mpr reads), ih present]
      simp [StrMap.assigns, StrMap.assign, reads, unset]
    · have set : data.set entry = data.insert entry.1 entry.2 := if_neg reads
      rw [assignData, if_pos (by rwa [dataAt_of_some present]), putData_of_some present]
      refine (ih (dataOf_withData _ _)).trans ?_
      simp [StrMap.assigns, StrMap.assign, reads, set, withData]

theorem assignData_of_none (missing : dataOf configMap = none) : assignData configMap update newData =
      if newData.any fun entry => entry.2 ≠ "" then Routine.throw (.panic nilMapText)
      else Pure.pure (configMap, update) := by
  induction newData with
  | nil => rfl
  | cons entry rest ih =>
    by_cases blank : entry.2 = ""
    · have skipped : decide (entry.2 ≠ "") = false := decide_eq_false (not_not.mpr blank)
      rw [assignData, if_neg (by rw [dataAt_of_none missing, blank]; simp), ih, List.any_cons,
        skipped, Bool.false_or]
    · rw [assignData, if_pos (by rw [dataAt_of_none missing]; exact Ne.symm blank), putData_of_none missing]
      simp [blank]
      rfl

theorem removeData_of_some (present : dataOf configMap = some data) :
    removeData configMap update keysToRemove =
      (withData configMap (data.discard keysToRemove), update || data.discards keysToRemove) := by
  induction keysToRemove generalizing configMap data update with
  | nil =>
    simp only [removeData, StrMap.discards, Bool.or_false, StrMap.discard, List.foldl_nil]
    rw [withData_self present]
  | cons entry rest ih =>
    rw [removeData, present]
    by_cases holds : data.lookup entry.1 = some entry.2
    · have dropped : data.drop entry = data.erase entry.1 := if_pos holds
      refine (if_pos holds).trans ((ih (dataOf_withData _ _)).trans ?_)
      simp [StrMap.discards, StrMap.discard, holds, dropped, withData]
    · have kept : data.drop entry = data := if_neg holds
      refine (if_neg holds).trans ((ih present).trans ?_)
      simp [StrMap.discards, StrMap.discard, holds, kept]

theorem removeData_of_none (missing : dataOf configMap = none) :
    removeData configMap update keysToRemove = (configMap, update) := by
  induction keysToRemove with
  | nil => rfl
  | cons entry rest ih =>
    rw [removeData, missing]
    exact ih

end Update

/-- The data with the new values and without the entries to remove, if that is a change. -/
def dataEdit (newData keysToRemove : List (String × String)) (configMap : ConfigMap) : Edit :=
  match dataOf configMap with
  | none => if newData.any fun entry => entry.2 ≠ "" then .panics else .keep
  | some data =>
    if data.assigns newData || (data.assign newData).discards keysToRemove then
      .store (withData configMap ((data.assign newData).discard keysToRemove))
    else .keep

def storeChanged (cleaned : ConfigMap × Bool) : Op Err PUnit :=
  if cleaned.2 then clientUpdate cleaned.1 >>= fun _ => Pure.pure ⟨⟩ else Pure.pure ⟨⟩

theorem updateConfigMap_eq (settings : Settings) (cmName : String) (newData keysToRemove : List (String × String)) :
    updateConfigMap settings cmName newData keysToRemove = editConfigMap ⟨operatorNamespace, cmName⟩
      (dataEdit (settings.rangeOrder.visit newData) (settings.rangeOrder.visit keysToRemove)) := by
  unfold updateConfigMap
  generalize settings.rangeOrder.visit newData = newData
  generalize settings.rangeOrder.visit keysToRemove = keysToRemove
  refine bind_congr fun configMap => ?_
  unfold dataEdit
  cases present : dataOf configMap with
  | none =>
    rw [assignData_of_none present]
    by_cases assigned : (newData.any fun entry => entry.2 ≠ "") = true
    · rw [if_pos assigned]
      simp only [assigned, if_true]
      rfl
    · rw [if_neg assigned]
      simp only [assigned]
      change storeChanged (removeData configMap false keysToRemove) = _
      rw [removeData_of_none present]
      rfl
  | some data =>
    rw [assignData_of_some present]
    change storeChanged (removeData (withData configMap (data.assign newData))
      (false || data.assigns newData) keysToRemove) = _
    rw [removeData_of_some (dataOf_withData _ _), Bool.false_or]
    unfold storeChanged
    dsimp only
    split
    · rfl
    · rfl

section Image

variable (settings : Settings)

def hasDefaultImage : Bool := settings.getenv "RELATED_IMAGE_PODVM_OCI" ≠ "" && settings.goarch ≠ "s390x"

def withFips (ig : ImageGenerator) (data : StrMap) : StrMap :=
  if ig.fips then data.insert "BOOT_FIPS" "true" else data

def withDefaultImage (data : StrMap) : StrMap :=
  if StrMap.getD data "PODVM_IMAGE_URI" = "" ∧ hasDefaultImage settings = true then
    data.insert "PODVM_IMAGE_URI" ("oci::" ++ settings.getenv "RELATED_IMAGE_PODVM_OCI")
  else data

def imageEdit (ig : ImageGenerator) (configMap : ConfigMap) : Edit :=
  match dataOf configMap with
  | none => if ig.fips || hasDefaultImage settings then .panics else .store configMap
  | some data =>
    if ig.fips && StrMap.getD data "BOOT_FIPS" = "true" then .keep
    else .store (withData configMap (withDefaultImage settings (withFips ig data)))

def fillImage (configMap : ConfigMap) : Op Err (Option ConfigMap) :=
  if dataAt configMap "PODVM_IMAGE_URI" = "" ∧ hasDefaultImage settings = true then
    putData configMap "PODVM_IMAGE_URI" ("oci::" ++ settings.getenv "RELATED_IMAGE_PODVM_OCI") >>= fun filled =>
      Pure.pure (some filled)
  else Pure.pure (some configMap)

theorem wantedImageConfigMap_eq (ig : ImageGenerator) (configMap : ConfigMap) :
    ImageGenerator.wantedImageConfigMap settings ig configMap =
      if ig.fips && dataAt configMap "BOOT_FIPS" = "true" then Pure.pure none
      else if ig.fips then putData configMap "BOOT_FIPS" "true" >>= fillImage settings
      else fillImage settings configMap := by
  have filled : (fun cm => if (dataAt cm "PODVM_IMAGE_URI" = "" &&
        settings.getenv "RELATED_IMAGE_PODVM_OCI" ≠ "" && settings.goarch ≠ "s390x") = true then
      putData cm "PODVM_IMAGE_URI" ("oci::" ++ settings.getenv "RELATED_IMAGE_PODVM_OCI") >>= fun filled =>
        Pure.pure (some filled)
      else Pure.pure (some cm) : ConfigMap → Op Err (Option ConfigMap)) = fillImage settings := by
    funext cm
    unfold fillImage hasDefaultImage
    simp only [Bool.and_assoc, Bool.and_eq_true, decide_eq_true_eq]
  rw [← filled]
  rfl

theorem fillImage_of_some {configMap : ConfigMap} {data : StrMap} (present : dataOf configMap = some data) :
    fillImage settings configMap = Pure.pure (some (withData configMap (withDefaultImage settings data))) := by
  unfold fillImage withDefaultImage
  rw [dataAt_of_some present, putData_of_some present]
  split
  · rfl
  · rw [withData_self present]

theorem fillImage_of_none {configMap : ConfigMap} (missing : dataOf configMap = none) :
    fillImage settings configMap =
      if hasDefaultImage settings then Routine.throw (.panic nilMapText) else Pure.pure (some configMap) := by
  unfold fillImage
  rw [dataAt_of_none missing, putData_of_none missing]
  simp only [true_and]
  rfl

theorem updateImageConfigMap_eq (ig : ImageGenerator) : ImageGenerator.updateImageConfigMap settings ig =
      editConfigMap ⟨operatorNamespace, ig.getImageConfigMapName⟩ (imageEdit settings ig) := by
  refine bind_congr fun configMap => ?_
  rw [wantedImageConfigMap_eq]
  unfold imageEdit
  cases present : dataOf configMap with
  | none =>
    simp only [dataAt_of_none present, putData_of_none present, fillImage_of_none settings present]
    cases ig.fips with
    | true => rfl
    | false => cases hasDefaultImage settings <;> rfl
  | some data =>
    simp only [dataAt_of_some present, putData_of_some present, fillImage_of_some settings present]
    by_cases done : (ig.fips && StrMap.getD data "BOOT_FIPS" = "true") = true
    · simp only [done, if_true]
      rfl
    · simp only [done]
      unfold withFips
      cases ig.fips with
      | true =>
        change ((fillImage settings (withData configMap (data.insert "BOOT_FIPS" "true")) >>= _ : Op Err PUnit)) = _
        rw [fillImage_of_some settings (dataOf_withData _ _)]
        rfl
      | false => rfl

end Image

section Panics

variable {memory : Reconciler} {s : Cluster} {configMap : ConfigMap}

/-- Some run of the routine from this cluster panics. -/
def CanPanic (routine : Op Err PUnit) (memory : Reconciler) (s : Cluster) : Prop :=
  ∃ log text memory' s', Prog.Runs Answered (routine memory) s log (.error (.panic text), memory') s'

theorem carryOut_panics {edit : Edit} {log : List Exchange} {text : String} {memory' : Reconciler} {s' : Cluster}
    (runs : Prog.Runs Answered (edit.carryOut memory) s log (.error (.panic text), memory') s') : edit = .panics := by
  cases edit with
  | panics => rfl
  | keep => cases runs
  | store configMap =>
    rcases runs_bind runs with ⟨_, _, _, _, _, _, ends, _⟩ | ⟨error, memory₁, ran, same⟩
    · cases ends
    · cases same
      obtain ⟨response, _, _, ended⟩ := call_runs (.update .configMap (inScope configMap)) id ran
      cases response <;> cases ended

theorem editConfigMap_canPanic_iff (key : Key) (edit : ConfigMap → Edit) :
    CanPanic (editConfigMap key edit) memory s ↔
      ∃ configMap : ConfigMap, Readable s key configMap ∧ edit configMap = .panics := by
  constructor
  · rintro ⟨log, text, memory', s', runs⟩
    rcases runs_bind runs with ⟨configMap, _, _, _, _, ran, ends, _⟩ | ⟨error, _, ran, same⟩
    · obtain ⟨rfl, rfl, ⟨_, read, readable⟩ | ⟨_, failed⟩⟩ := clientGet_runs ran
      · cases read
        exact ⟨configMap, readable, carryOut_panics ends⟩
      · cases failed
    · obtain ⟨_, _, ⟨_, read, _⟩ | ⟨_, failed⟩⟩ := clientGet_runs ran
      · cases read
      · cases failed
        cases same
  · rintro ⟨configMap, readable, panics⟩
    have stops : Prog.Runs Answered ((edit configMap).carryOut memory) s []
        (.error (.panic nilMapText), memory) s := by
      rw [panics]
      exact .pure
    exact ⟨_, nilMapText, memory, s, runs_bind_ok (clientGet_reads readable) stops⟩

end Panics

def peerPodConfigKey : Key := ⟨operatorNamespace, "peerpodconfig-openshift"⟩

theorem migratePeerPodsLimit_canPanic_iff {memory : Reconciler} {s : Cluster} :
    CanPanic migratePeerPodsLimit memory s ↔
      (∃ configMap : ConfigMap, Readable s ⟨operatorNamespace, peerpodsCMName⟩ configMap ∧ dataOf configMap = none) ∧
        ∃ peerPodConfig : Object Kind.peerPodConfig, Readable s peerPodConfigKey peerPodConfig ∧
          (limitOf peerPodConfig).isSome = true := by
  have deletion (memory : Reconciler) (s : Cluster) : ¬ CanPanic deletePeerPodConfig memory s := by
    rintro ⟨log, text, memory', s', runs⟩
    obtain ⟨response, _, _, ended⟩ := call_runs (.delete .peerPodConfig peerPodConfigKey) id runs
    cases response <;> cases ended
  constructor
  · rintro ⟨log, text, memory', s', runs⟩
    obtain ⟨result, _, _, _, _, ran, rest, _⟩ := runs_attempt_bind runs
    obtain ⟨rfl, rfl, ⟨peerPodConfig, rfl, readable⟩ | ⟨error, rfl⟩⟩ := clientGet_runs ran
    · dsimp only at rest
      cases limit : limitOf peerPodConfig with
      | none =>
        simp only [limit] at rest
        exact absurd ⟨_, _, _, _, rest⟩ (deletion _ _)
      | some limitValue =>
        simp only [limit] at rest
        obtain ⟨result, _, _, _, _, ran, rest, _⟩ := runs_attempt_bind rest
        obtain ⟨rfl, rfl, ⟨configMap, rfl, found⟩ | ⟨error, rfl⟩⟩ := clientGet_runs ran
        · cases present : dataOf configMap with
          | none => exact ⟨⟨configMap, found, present⟩, peerPodConfig, readable, by rw [limit]; rfl⟩
          | some data =>
            simp only [putData_of_some present] at rest
            rcases runs_bind rest with ⟨_, _, _, _, _, put, later, _⟩ | ⟨error, _, put, _⟩
            · cases put
              rcases runs_bind later with ⟨_, _, _, _, _, _, ends, _⟩ | ⟨error, _, ran, same⟩
              · exact absurd ⟨_, _, _, _, ends⟩ (deletion _ _)
              · cases same
                obtain ⟨response, _, _, ended⟩ := call_runs (.update .configMap (withData configMap _)) id ran
                cases response <;> cases ended
            · cases put
        · dsimp only at rest
          split at rest
          · exact absurd ⟨_, _, _, _, rest⟩ (deletion _ _)
          · cases rest
    · dsimp only at rest
      split at rest
      · cases rest
      · cases rest
  · rintro ⟨⟨configMap, found, missing⟩, peerPodConfig, readable, hasLimit⟩
    obtain ⟨limitValue, limit⟩ := Option.isSome_iff_exists.mp hasLimit
    have stops : Prog.Runs Answered ((putData configMap "PEERPODS_LIMIT_PER_NODE" limitValue >>= fun migrated =>
        clientUpdate migrated >>= fun _ => deletePeerPodConfig) memory) s []
        (.error (.panic nilMapText), memory) s := by
      rw [putData_of_none missing]
      exact .pure
    refine ⟨[⟨.get .peerPodConfig peerPodConfigKey, .ok peerPodConfig⟩,
      ⟨.get .configMap ⟨operatorNamespace, peerpodsCMName⟩, .ok configMap⟩], nilMapText, memory, s, ?_⟩
    refine runs_bind_ok (runs_attempt (clientGet_reads readable)) ?_
    dsimp only
    rw [limit]
    exact runs_bind_ok (runs_attempt (clientGet_reads found)) stops

inductive Editor where
  | updateConfigMap (cmName : String) (newData keysToRemove : List (String × String))
  | migratePeerPodsLimit
  | updateImageConfigMap (ig : ImageGenerator)

namespace Editor

variable (settings : Settings)

def routine : Editor → Op Err PUnit
  | .updateConfigMap cmName newData keysToRemove =>
    SandboxedContainers.updateConfigMap settings cmName newData keysToRemove
  | .migratePeerPodsLimit => SandboxedContainers.migratePeerPodsLimit
  | .updateImageConfigMap ig => ImageGenerator.updateImageConfigMap settings ig

def target : Editor → Key
  | .updateConfigMap cmName _ _ => ⟨operatorNamespace, cmName⟩
  | .migratePeerPodsLimit => ⟨operatorNamespace, peerpodsCMName⟩
  | .updateImageConfigMap ig => ⟨operatorNamespace, ig.getImageConfigMapName⟩

/-- There is an entry to assign in a config map that has none. -/
def Assigns (s : Cluster) : Editor → Prop
  | .updateConfigMap _ newData _ => ∃ entry ∈ newData, entry.2 ≠ ""
  | .migratePeerPodsLimit => ∃ peerPodConfig : Object Kind.peerPodConfig,
      Readable s peerPodConfigKey peerPodConfig ∧ (limitOf peerPodConfig).isSome = true
  | .updateImageConfigMap ig => ig.fips = true ∨
      (settings.getenv "RELATED_IMAGE_PODVM_OCI" ≠ "" ∧ settings.goarch ≠ "s390x")

variable {settings} {configMap : ConfigMap}

theorem dataEdit_panics_iff {newData keysToRemove : List (String × String)} :
    dataEdit newData keysToRemove configMap = .panics ↔
      dataOf configMap = none ∧ ∃ entry ∈ newData, entry.2 ≠ "" := by
  unfold dataEdit
  cases dataOf configMap with
  | none =>
    simp
  | some data =>
    dsimp only
    split
    · simp
    · simp

theorem imageEdit_panics_iff {ig : ImageGenerator} :
    imageEdit settings ig configMap = .panics ↔ dataOf configMap = none ∧
      (ig.fips = true ∨ (settings.getenv "RELATED_IMAGE_PODVM_OCI" ≠ "" ∧ settings.goarch ≠ "s390x")) := by
  unfold imageEdit hasDefaultImage
  cases dataOf configMap with
  | none => cases ig.fips <;> simp
  | some data =>
    dsimp only
    split
    · simp
    · simp

theorem canPanic_iff (editor : Editor) (memory : Reconciler) (s : Cluster) :
    CanPanic (editor.routine settings) memory s ↔
      (∃ configMap : ConfigMap, Readable s editor.target configMap ∧ dataOf configMap = none) ∧
        editor.Assigns settings s := by
  cases editor with
  | updateConfigMap cmName newData keysToRemove =>
    rw [routine, updateConfigMap_eq, editConfigMap_canPanic_iff]
    simp only [dataEdit_panics_iff, (settings.rangeOrder.perm newData).mem_iff, ← and_assoc, exists_and_right]
    rfl
  | migratePeerPodsLimit => exact migratePeerPodsLimit_canPanic_iff
  | updateImageConfigMap ig =>
    rw [routine, updateImageConfigMap_eq, editConfigMap_canPanic_iff]
    simp only [imageEdit_panics_iff, ← and_assoc, exists_and_right]
    rfl

end Editor

/-- An edit is safe in a cluster exactly when the config map it reads has data, or there is
nothing to assign. -/
theorem editor_safe_iff (settings : Settings) (editor : Editor) (memory : Reconciler) (s : Cluster) :
    ¬ CanPanic (editor.routine settings) memory s ↔
      ∀ configMap : ConfigMap, Readable s editor.target configMap → dataOf configMap = none →
        ¬ editor.Assigns settings s := by
  rw [Editor.canPanic_iff]
  constructor
  · intro safe configMap readable missing assigns
    exact safe ⟨⟨configMap, readable, missing⟩, assigns⟩
  · rintro safe ⟨⟨configMap, readable, missing⟩, assigns⟩
    exact safe configMap readable missing assigns

def blankConfigMap (name : String) : ConfigMap :=
  ⟨{ name := name, ns := operatorNamespace }, show ConfigMapBody from ⟨none⟩⟩

def azureGenerator (fips : Bool) : ImageGenerator := ⟨"azure", "00000000", "AZURE_IMAGE_ID", fips⟩

/-- The first edit of the confidential feature, the migration and the FIPS setting, each on a
config map without data. -/
theorem editors_panic :
    CanPanic ((Editor.updateConfigMap peerpodsCMName [("DISABLECVM", "false")] []).routine plainSettings) {}
        (clusterOf [.create .configMap (blankConfigMap peerpodsCMName)]) ∧
      CanPanic (Editor.migratePeerPodsLimit.routine plainSettings) {}
        (clusterOf [.create .configMap (blankConfigMap peerpodsCMName), .create .peerPodConfig
          ⟨{ name := "peerpodconfig-openshift", ns := operatorNamespace }, show Option String from some "10"⟩]) ∧
      CanPanic ((Editor.updateImageConfigMap (azureGenerator true)).routine plainSettings) {}
        (clusterOf [.create .configMap (blankConfigMap "azure-podvm-image-cm")]) := by
  simp only [Editor.canPanic_iff]
  refine ⟨⟨⟨_, ⟨rfl, rfl⟩, rfl⟩, _, List.mem_singleton_self _, by decide⟩,
    ⟨⟨_, ⟨rfl, rfl⟩, rfl⟩, _, ⟨rfl, rfl⟩, rfl⟩, ⟨_, ⟨rfl, rfl⟩, rfl⟩, .inl rfl⟩

section Stored

variable {memory memory' : Reconciler} {s s' : Cluster} {log : List Exchange} {configMap : ConfigMap}
  {data : StrMap} {key : Key}

theorem clientUpdate_data_ok {answer : ConfigMap}
    (runs : Prog.Runs Answered (clientUpdate (withData configMap data) memory) s log (.ok answer, memory') s')
    (found : s.find? .configMap key = some configMap) :
    s'.find? .configMap key = some (s.stamp (withData configMap data)) := by
  obtain ⟨response, answered, _, ended⟩ := call_runs (.update .configMap (withData configMap data)) id runs
  cases response with
  | error error => cases ended
  | ok answer =>
    exact find?_of_updated answered (Collection.find?_mem found).2 found rfl

theorem editConfigMap_ok {edit : ConfigMap → Edit}
    (runs : Prog.Runs Answered (editConfigMap key edit memory) s log (.ok ⟨⟩, memory') s')
    (found : s.find? .configMap key = some configMap) :
    (edit configMap = .keep ∧ s' = s) ∨
      ∃ wanted, edit configMap = .store wanted ∧
        ∃ log answer memory₀, Prog.Runs Answered (clientUpdate wanted memory₀) s log (.ok answer, memory') s' := by
  obtain ⟨read, memory₁, _, _, rest, ran, ends, _⟩ := of_runs_bind runs
  obtain ⟨rfl, rfl, ⟨_, same, readable⟩ | ⟨_, failed⟩⟩ := clientGet_runs ran
  · cases same
    cases found.symm.trans readable.2
    cases made : edit configMap with
    | panics =>
      rw [made] at ends
      cases ends
    | keep =>
      rw [made] at ends
      cases ends
      exact .inl ⟨rfl, rfl⟩
    | store wanted =>
      rw [made] at ends
      obtain ⟨answer, _, _, _, _, stored, done, _⟩ := of_runs_bind ends
      cases done
      exact .inr ⟨wanted, rfl, _, answer, _, stored⟩
  · cases failed

end Stored

/-- What an image config map is to hold that held `data`. -/
structure ImageData (settings : Settings) (ig : ImageGenerator) (data filled : StrMap) : Prop where
  fips : ig.fips = true → StrMap.getD filled "BOOT_FIPS" = "true"
  image : settings.getenv "RELATED_IMAGE_PODVM_OCI" ≠ "" → settings.goarch ≠ "s390x" →
    StrMap.getD filled "PODVM_IMAGE_URI" ≠ ""
  others : ∀ key, key ≠ "BOOT_FIPS" → key ≠ "PODVM_IMAGE_URI" → filled.lookup key = data.lookup key
  ownImage : StrMap.getD data "PODVM_IMAGE_URI" ≠ "" →
    filled.lookup "PODVM_IMAGE_URI" = data.lookup "PODVM_IMAGE_URI"

theorem imageData_filled (settings : Settings) (ig : ImageGenerator) (data : StrMap) :
    ImageData settings ig data (withDefaultImage settings (withFips ig data)) := by
  have fips : ig.fips = true → StrMap.getD (withFips ig data) "BOOT_FIPS" = "true" := by
    intro on
    simp [withFips, on, StrMap.getD_insert]
  have others (key : String) (differs : key ≠ "BOOT_FIPS") : (withFips ig data).lookup key = data.lookup key := by
    unfold withFips
    split
    · exact Finmap.lookup_insert_of_ne _ differs
    · rfl
  have uri : StrMap.getD (withFips ig data) "PODVM_IMAGE_URI" = StrMap.getD data "PODVM_IMAGE_URI" :=
    congrArg (fun found => found.getD "") (others "PODVM_IMAGE_URI" (by decide))
  unfold withDefaultImage
  rw [uri]
  by_cases fills : StrMap.getD data "PODVM_IMAGE_URI" = "" ∧ hasDefaultImage settings = true
  · rw [if_pos fills]
    refine ⟨fun on => ?_, fun _ _ => ?_, fun key notFips notImage => ?_, fun named => absurd fills.1 named⟩
    · rw [StrMap.getD_insert, if_neg (by decide)]
      exact fips on
    · rw [StrMap.getD_insert, if_pos rfl]
      simp [String.ext_iff]
    · rw [Finmap.lookup_insert_of_ne _ notImage]
      exact others key notFips
  · rw [if_neg fills]
    refine ⟨fips, fun image arch blank => ?_, fun key notFips _ => others key notFips,
      fun _ => others "PODVM_IMAGE_URI" (by decide)⟩
    refine fills ⟨uri.symm.trans blank, ?_⟩
    simp [hasDefaultImage, image, arch]

theorem imageData_unchanged_iff {settings : Settings} {ig : ImageGenerator} {data : StrMap}
    (done : ig.fips = true ∧ StrMap.getD data "BOOT_FIPS" = "true") :
    ImageData settings ig data data ↔ ¬ (StrMap.getD data "PODVM_IMAGE_URI" = "" ∧
      settings.getenv "RELATED_IMAGE_PODVM_OCI" ≠ "" ∧ settings.goarch ≠ "s390x") := by
  constructor
  · rintro reached ⟨blank, image, arch⟩
    exact reached.image image arch blank
  · intro named
    exact ⟨fun _ => done.2, fun image arch blank => named ⟨blank, image, arch⟩, fun _ _ _ => rfl, fun _ => rfl⟩

/-- After a nil return the image config map holds what it is to hold, except where FIPS had
been set before and an image had not. -/
theorem updateImageConfigMap_reaches_iff {settings : Settings} {ig : ImageGenerator} {memory memory' : Reconciler}
    {s s' : Cluster} {log : List Exchange} {configMap : ConfigMap} {data : StrMap}
    (found : s.find? .configMap ⟨operatorNamespace, ig.getImageConfigMapName⟩ = some configMap)
    (present : dataOf configMap = some data)
    (runs : Prog.Runs Answered (ImageGenerator.updateImageConfigMap settings ig memory) s log (.ok ⟨⟩, memory') s') :
    (∃ stored filled, s'.find? .configMap ⟨operatorNamespace, ig.getImageConfigMapName⟩ = some stored ∧
        dataOf stored = some filled ∧ ImageData settings ig data filled) ↔
      ¬ (ig.fips = true ∧ StrMap.getD data "BOOT_FIPS" = "true" ∧ StrMap.getD data "PODVM_IMAGE_URI" = "" ∧
        settings.getenv "RELATED_IMAGE_PODVM_OCI" ≠ "" ∧ settings.goarch ≠ "s390x") := by
  rw [updateImageConfigMap_eq] at runs
  by_cases done : ig.fips = true ∧ StrMap.getD data "BOOT_FIPS" = "true"
  · have keeps : imageEdit settings ig configMap = .keep := by simp [imageEdit, present, done]
    rcases editConfigMap_ok runs found with ⟨_, rfl⟩ | ⟨wanted, stores, _⟩
    · rw [found]
      simp only [Option.some.injEq, exists_and_left, exists_eq_left', present, done, true_and]
      exact imageData_unchanged_iff done
    · rw [keeps] at stores
      cases stores
  · have stores : imageEdit settings ig configMap =
        .store (withData configMap (withDefaultImage settings (withFips ig data))) := by
      simp [imageEdit, present, done]
    rcases editConfigMap_ok runs found with ⟨keeps, _⟩ | ⟨wanted, made, _, answer, _, stored⟩
    · rw [stores] at keeps
      cases keeps
    · cases stores.symm.trans made
      constructor
      · rintro _ ⟨on, set, _⟩
        exact done ⟨on, set⟩
      · intro _
        exact ⟨_, _, clientUpdate_data_ok stored found, rfl, imageData_filled settings ig data⟩

def imageSettings : Settings :=
  { plainSettings with lookupEnv := fun name => if name = "RELATED_IMAGE_PODVM_OCI" then some "image" else none }

def imageCluster (entries : List (String × String)) : Cluster :=
  clusterOf [.create .configMap ⟨{ name := "azure-podvm-image-cm", ns := operatorNamespace },
    show ConfigMapBody from ⟨some (StrMap.ofList entries)⟩⟩]

theorem updateImageConfigMap_fills :
    ∃ log memory' s' stored filled, Prog.Runs Answered (ImageGenerator.updateImageConfigMap imageSettings
        (azureGenerator true) {}) (imageCluster [("BOOT_FIPS", "false")]) log (.ok ⟨⟩, memory') s' ∧
      s'.find? .configMap ⟨operatorNamespace, "azure-podvm-image-cm"⟩ = some stored ∧ dataOf stored = some filled ∧
      ImageData imageSettings (azureGenerator true) (StrMap.ofList [("BOOT_FIPS", "false")]) filled := by
  obtain ⟨log, runs⟩ := Prog.runs_eval Answered Store.exec (fun _ _ => .inl rfl)
    (ImageGenerator.updateImageConfigMap imageSettings (azureGenerator true) {}) (imageCluster [("BOOT_FIPS", "false")])
  obtain ⟨stored, filled, found, present, reached⟩ :=
    (updateImageConfigMap_reaches_iff rfl rfl runs).mpr fun blocked => absurd blocked.2.1 (by decide)
  exact ⟨log, _, _, stored, filled, runs, found, present, reached⟩

/-- FIPS is set already, so the image is not filled in. -/
theorem updateImageConfigMap_stops_early :
    ∃ log memory' s' stored, Prog.Runs Answered (ImageGenerator.updateImageConfigMap imageSettings
        (azureGenerator true) {}) (imageCluster [("BOOT_FIPS", "true")]) log (.ok ⟨⟩, memory') s' ∧
      s'.find? .configMap ⟨operatorNamespace, "azure-podvm-image-cm"⟩ = some stored ∧
      ∀ filled, dataOf stored = some filled →
        ¬ ImageData imageSettings (azureGenerator true) (StrMap.ofList [("BOOT_FIPS", "true")]) filled := by
  obtain ⟨log, runs⟩ := Prog.runs_eval Answered Store.exec (fun _ _ => .inl rfl)
    (ImageGenerator.updateImageConfigMap imageSettings (azureGenerator true) {}) (imageCluster [("BOOT_FIPS", "true")])
  refine ⟨log, _, _, _, runs, rfl, ?_⟩
  rintro filled same reached
  cases same
  exact reached.image (by decide) (by decide) (by decide)

end SandboxedContainers
