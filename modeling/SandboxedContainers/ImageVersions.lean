import Mathlib
import SandboxedContainers.ConfigMapEdits

/-!
# Image versions

`createImageConfigMapFromFile` derives the version of the pod VM image from the first eight
digits of the cluster id, so that clusters that share an image gallery do not share versions.
The number those digits stand for has 32 bits; the version has room for 31, and the topmost
bit is dropped.
-/

namespace SandboxedContainers

open Lib Routine ImageGenerator

namespace ImageVersions

/-- The entry that holds the version, for the providers that have one. -/
def versionKey : String → Option String
  | "azure" => some "IMAGE_VERSION"
  | "aws" => some "AMI_VERSION"
  | "gcp" => some "IMAGE_VERSION"
  | _ => none

def versionText (provider : String) (major : Nat) : String :=
  toString major ++ if provider = "gcp" then "-0-1" else ".0.1"

structure HexPrefix (clusterId : String) : Prop where
  length : clusterId.toList.length = 8
  digits : ∀ c ∈ clusterId.toList, (ImageGenerator.hexDigit c).isSome = true

def hexNumber (digits : List Char) : Nat :=
  digits.foldl (fun value c => value * 16 + (ImageGenerator.hexDigit c).getD 0) 0

section Numbers

theorem hexDigit_lt {c : Char} {digit : Nat} (isDigit : hexDigit c = some digit) : digit < 16 := by
  unfold hexDigit at isDigit
  split at isDigit
  · next decimal =>
      cases isDigit
      simp only [Char.isDigit, Bool.and_eq_true, decide_eq_true_eq] at decimal
      have upper : c.toNat ≤ 57 := decimal.2
      change c.toNat - 48 < 16
      omega
  · split at isDigit
    · next lower =>
        cases isDigit
        have upper : c.toNat ≤ 102 := lower.2
        change c.toNat - 97 + 10 < 16
        omega
    · split at isDigit
      · next capital =>
          cases isDigit
          have upper : c.toNat ≤ 70 := capital.2
          change c.toNat - 65 + 10 < 16
          omega
      · cases isDigit

theorem foldlM_hexDigit {digits : List Char} (hex : ∀ c ∈ digits, (hexDigit c).isSome = true) (start : Nat) :
    digits.foldlM (fun value c => (hexDigit c).map fun digit => value * 16 + digit) start =
      some (digits.foldl (fun value c => value * 16 + (hexDigit c).getD 0) start) := by
  induction digits generalizing start with
  | nil => rfl
  | cons c rest ih =>
    rw [List.forall_mem_cons] at hex
    obtain ⟨digit, isDigit⟩ := Option.isSome_iff_exists.mp hex.1
    simp only [List.foldlM_cons, List.foldl_cons, isDigit, Option.map_some, Option.getD_some]
    exact ih hex.2 _

theorem foldl_hexDigit_lt {digits : List Char} (hex : ∀ c ∈ digits, (hexDigit c).isSome = true)
    (start : Nat) :
    digits.foldl (fun value c => value * 16 + (hexDigit c).getD 0) start <
      (start + 1) * 16 ^ digits.length := by
  induction digits generalizing start with
  | nil => simp
  | cons c rest ih =>
    rw [List.forall_mem_cons] at hex
    obtain ⟨digit, isDigit⟩ := Option.isSome_iff_exists.mp hex.1
    have small := hexDigit_lt isDigit
    rw [List.foldl_cons, isDigit, Option.getD_some, List.length_cons]
    calc _ < (start * 16 + digit + 1) * 16 ^ rest.length := ih hex.2 _
      _ ≤ ((start + 1) * 16) * 16 ^ rest.length := Nat.mul_le_mul_right _ (by omega)
      _ = (start + 1) * 16 ^ (rest.length + 1) := by ring

theorem hexNumber_lt {clusterId : String} (hex : HexPrefix clusterId) : hexNumber clusterId.toList < 2 ^ 32 := by
  have bound := foldl_hexDigit_lt hex.digits 0
  rw [hex.length] at bound
  exact lt_of_lt_of_eq bound (by norm_num)

theorem parseHex32_eq {clusterId : String} (hex : HexPrefix clusterId) :
    parseHex32 clusterId = some (hexNumber clusterId.toList) := by
  have nonempty : clusterId.isEmpty = false := by
    rw [Bool.eq_false_iff]
    intro blank
    have none : clusterId = "" := String.isEmpty_iff.mp blank
    have length := hex.length
    rw [none] at length
    cases length
  have small := hexNumber_lt hex
  simp only [parseHex32, nonempty, foldlM_hexDigit hex.digits]
  exact if_pos small

theorem imageVersionOf_eq {clusterId : String} (hex : HexPrefix clusterId) :
    imageVersionOf clusterId = toString (hexNumber clusterId.toList % 2 ^ 31) ++ ".0.1" := by
  rw [imageVersionOf, parseHex32_eq hex]
  rfl

theorem mod_eq_iff {first second : Nat} (small : first < 2 ^ 32) (small' : second < 2 ^ 32) (differ : first ≠ second) :
    first % 2 ^ 31 = second % 2 ^ 31 ↔ first = second + 2 ^ 31 ∨ second = first + 2 ^ 31 := by
  omega

end Numbers

section Texts

theorem toString_plain {major : Nat} {c : Char} (member : c ∈ (toString major).toList) : c ≠ '.' := by
  rintro rfl
  rw [Nat.toString_eq_repr, Nat.toList_repr] at member
  have digit := Nat.isDigit_of_mem_toDigits (by decide) (by decide) member
  exact absurd digit (by decide)

theorem dashes (major : Nat) :
    (toString major ++ ".0.1").map (fun c => if c = '.' then '-' else c) = toString major ++ "-0-1" := by
  apply String.toList_injective
  rw [String.toList_map, String.toList_append, String.toList_append, List.map_append]
  congr 1
  · conv_rhs => rw [← List.map_id (toString major).toList]
    apply List.map_congr_left
    intro c member
    exact if_neg (toString_plain member)

theorem versionText_inj {provider : String} {major major' : Nat} :
    versionText provider major = versionText provider major' ↔ major = major' := by
  rw [versionText, versionText, String.append_left_inj]
  exact Nat.repr_inj

end Texts

section Written

variable {settings : Settings} {ig : ImageGenerator} {key : String}

theorem putImageVersion_yields (versioned : versionKey ig.provider = some key) (hex : HexPrefix ig.clusterId)
    (parsed : ConfigMap) :
    Yields (fun cm => dataAt cm key = versionText ig.provider (hexNumber ig.clusterId.toList % 2 ^ 31))
      (ig.putImageVersion parsed) := by
  have put (cm : ConfigMap) (name value : String) : Yields (fun cm => dataAt cm name = value) (putData cm name value) := by
    unfold putData
    split
    · exact yields_throw _
    · exact yields_pure ((dataAt_withData _ _ _).trans ((StrMap.getD_insert ..).trans (if_pos rfl)))
  unfold versionKey at versioned
  unfold putImageVersion versionText
  rw [imageVersionOf_eq hex]
  split at versioned
  · next azure =>
      cases versioned
      simp only [azure]
      by_cases unnamed : dataAt parsed "IMAGE_GALLERY_NAME" = ""
      · rw [if_pos unnamed]
        exact yields_bind fun cm => put cm _ _
      · rw [if_neg unnamed]
        exact put parsed _ _
  · next aws =>
      cases versioned
      simp only [aws]
      exact put parsed _ _
  · next gcp =>
      cases versioned
      simp only [gcp, dashes]
      exact put parsed _ _
  · cases versioned

/-- Some run asks for this config map to be created. -/
def Writes (settings : Settings) (ig : ImageGenerator) (cm : ConfigMap) : Prop :=
  ∃ memory s log outcome s' response,
    Prog.Runs Answered (ImageGenerator.createImageConfigMapFromFile settings ig memory) s log outcome s' ∧
      (⟨.create .configMap cm, response⟩ : Exchange) ∈ log

theorem issues_createImageConfigMapFromFile (settings : Settings) (versioned : versionKey ig.provider = some key)
    (hex : HexPrefix ig.clusterId) :
    Issues (fun r => ∀ cm : ConfigMap, r = .create .configMap cm →
        dataAt cm key = versionText ig.provider (hexNumber ig.clusterId.toList % 2 ^ 31))
      (createImageConfigMapFromFile settings ig) := by
  refine (looks_clientGet nofun).1.attempt.bind fun found => ?_
  cases found with
  | ok found => exact issues_pure _
  | error error =>
    refine ((looks_clientGet nofun).1.bind fun _ => issues_pure _).bind fun yamlData => ?_
    split
    · exact issues_throw _
    · next parsed _ =>
        refine (looks_putImageVersion ig parsed).1.bind_yields
          (putImageVersion_yields versioned hex parsed) fun filled version => ?_
        refine (looks_setControllerReference filled).1.bind_yields
          (setControllerReference_yields (p := fun owned => dataAt owned key = dataAt filled key) fun _ => rfl)
          fun owned same => ?_
        refine (looks_clientCreate ?_).1.bind fun _ => issues_pure _
        rintro _ ⟨rfl⟩
        exact same.trans version

theorem Writes.version {cm : ConfigMap} (writes : Writes settings ig cm) (versioned : versionKey ig.provider = some key)
    (hex : HexPrefix ig.clusterId) :
    dataAt cm key = versionText ig.provider (hexNumber ig.clusterId.toList % 2 ^ 31) := by
  obtain ⟨memory, s, log, outcome, s', response, runs, created⟩ := writes
  exact (issues_createImageConfigMapFromFile settings versioned hex).mem_runs runs _ created cm rfl

end Written

end ImageVersions

open ImageVersions

/-- The major number is in range, and another cluster has a different version unless its id
differs in the topmost bit alone. -/
theorem image_versions_differ_iff {settings : Settings} {ig : ImageGenerator} {key : String} {cm : ConfigMap}
    (writes : Writes settings ig cm) (versioned : versionKey ig.provider = some key) (hex : HexPrefix ig.clusterId) :
    (∃ major ≤ 2147483647, dataAt cm key = versionText ig.provider major) ∧
      ∀ settings' ig' cm', Writes settings' ig' cm' → ig'.provider = ig.provider → HexPrefix ig'.clusterId →
        hexNumber ig.clusterId.toList ≠ hexNumber ig'.clusterId.toList →
        (dataAt cm key ≠ dataAt cm' key ↔
          ¬ (hexNumber ig.clusterId.toList = hexNumber ig'.clusterId.toList + 2 ^ 31 ∨
            hexNumber ig'.clusterId.toList = hexNumber ig.clusterId.toList + 2 ^ 31)) := by
  have version := writes.version versioned hex
  refine ⟨⟨_, ?_, version⟩, fun settings' ig' cm' writes' sameProvider hex' differ => ?_⟩
  · have bound := Nat.mod_lt (hexNumber ig.clusterId.toList) (show 0 < 2 ^ 31 by norm_num)
    omega
  · have version' := writes'.version (sameProvider ▸ versioned) hex'
    rw [version, version', sameProvider, ne_eq, versionText_inj,
      mod_eq_iff (hexNumber_lt hex) (hexNumber_lt hex') differ]

namespace ImageVersions

def generatorOf (clusterId : String) : ImageGenerator := ⟨"azure", clusterId, "AZURE_IMAGE_ID", false⟩

def shippedConfigMap (entries : List (String × String)) : ConfigMap :=
  ⟨{ name := "azure-podvm-image-cm", ns := operatorNamespace },
    show ConfigMapBody from ⟨some (StrMap.ofList entries)⟩⟩

def fileSettings : Settings := { plainSettings with parseConfigMapYAML := fun _ => some (shippedConfigMap []) }

def imageFile : Object Kind.file :=
  ⟨{ name := "/config/peerpods/podvm/azure-podvm-image-cm.yaml" }, show String from ""⟩

def fileCluster : Cluster := clusterOf [.create .file imageFile]

/-- What the operator makes of it before there is a `KataConfig`. -/
def writtenConfigMap (clusterId : String) : ConfigMap :=
  let filled := shippedConfigMap [("IMAGE_GALLERY_NAME", "PodVMGallery_" ++ clusterId),
    ("IMAGE_VERSION", ImageGenerator.imageVersionOf clusterId)]
  { filled with metadata := { filled.metadata with ownerReferences := [⟨"KataConfig", "", 0, true⟩] } }

theorem generatorOf_writes (clusterId : String) :
    Writes fileSettings (generatorOf clusterId) (writtenConfigMap clusterId) := by
  have creates : Prog.Runs Answered
      (createImageConfigMapFromFile fileSettings (generatorOf clusterId) {}) fileCluster
      [⟨.get .configMap ⟨operatorNamespace, "azure-podvm-image-cm"⟩, .error Store.notFound⟩,
        ⟨.get .file imageFile.key, .ok ((Store.empty fun _ => true).newborn imageFile)⟩,
        ⟨.create .configMap (writtenConfigMap clusterId), .ok (fileCluster.newborn (writtenConfigMap clusterId))⟩]
      (.ok ⟨⟩, {}) (fileCluster.insertNew (writtenConfigMap clusterId)) :=
    .call _ (.inl rfl) (.call _ (.inl rfl) (.call _ (.inl rfl) .pure))
  exact ⟨_, _, _, _, _, _, creates, List.mem_cons_of_mem _ (List.mem_cons_of_mem _ (List.mem_singleton_self _))⟩

theorem hexPrefix_of_decimal {clusterId : String} (length : clusterId.toList.length = 8)
    (decimal : clusterId.toList.all Char.isDigit = true) : HexPrefix clusterId := by
  refine ⟨length, fun c member => ?_⟩
  rw [hexDigit, if_pos (List.all_eq_true.mp decimal c member)]
  rfl

end ImageVersions

theorem image_versions_of_neighbours :
    ∃ cm cm', Writes fileSettings (generatorOf "00000000") cm ∧ Writes fileSettings (generatorOf "00000001") cm' ∧
      dataAt cm "IMAGE_VERSION" ≠ dataAt cm' "IMAGE_VERSION" := by
  refine ⟨_, _, generatorOf_writes "00000000", generatorOf_writes "00000001", ?_⟩
  exact ((image_versions_differ_iff (generatorOf_writes "00000000") rfl
    (hexPrefix_of_decimal (by decide) (by decide))).2 _ _ _ (generatorOf_writes "00000001") rfl
    (hexPrefix_of_decimal (by decide) (by decide)) (by decide +kernel)).mpr (by decide +kernel)

/-- Two ids that differ in the topmost bit have one version. -/
theorem image_versions_collide :
    ∃ cm cm', Writes fileSettings (generatorOf "00000000") cm ∧ Writes fileSettings (generatorOf "80000000") cm' ∧
      HexPrefix "00000000" ∧ HexPrefix "80000000" ∧
      hexNumber "00000000".toList ≠ hexNumber "80000000".toList ∧
      dataAt cm "IMAGE_VERSION" = "0.0.1" ∧ dataAt cm' "IMAGE_VERSION" = "0.0.1" :=
  ⟨_, _, generatorOf_writes "00000000", generatorOf_writes "80000000", hexPrefix_of_decimal (by decide) (by decide),
    hexPrefix_of_decimal (by decide) (by decide), by decide +kernel, by decide +kernel, by decide +kernel⟩

end SandboxedContainers
