import SandboxedContainers.MachineConfigs

/-!
# Feature gates

The feature-gate ConfigMap and the handlers every reconciliation runs before it
looks at the `KataConfig`: confidential containers, the deployment mode and the
layered image.
-/

namespace SandboxedContainers

open Lib

inductive DeploymentModeOption where
  | machineConfigOption
  | daemonSetOption
  | daemonSetFallbackOption
  deriving DecidableEq, Repr

def parseDeploymentModeOption : String → Option DeploymentModeOption
  | "MachineConfig" => some .machineConfigOption
  | "DaemonSet" => some .daemonSetOption
  | "DaemonSetFallback" => some .daemonSetFallbackOption
  | _ => none

/-- `strconv.ParseBool`. -/
def parseBool (text : String) : Option Bool :=
  if ["1", "t", "T", "true", "TRUE", "True"].contains text then some true
  else if ["0", "f", "F", "false", "FALSE", "False"].contains text then some false
  else none

structure FeatureGateStatus where
  confidential : Bool := false
  layeredImageDeployment : Bool := false
  deploymentModeOption : DeploymentModeOption := .daemonSetFallbackOption
  deriving DecidableEq, Repr

inductive FeatureGateState where
  | enabled
  | disabled
  deriving DecidableEq, Repr

def FeatureGateState.ofBool (enabled : Bool) : FeatureGateState :=
  if enabled then .enabled else .disabled

/-- A gate's value: missing and unreadable entries leave the default. -/
def gateValue {α : Type} (data : StrMap) (key : String) (parse : String → Option α) (default : α) : α :=
  ((data.lookup key).bind parse).getD default

def featureGatesOf (data : StrMap) : FeatureGateStatus where
  confidential := gateValue data "confidential" parseBool false
  layeredImageDeployment := gateValue data "layeredImageDeployment" parseBool false
  deploymentModeOption :=
    gateValue data "deploymentMode" parseDeploymentModeOption .daemonSetFallbackOption

def newFeatureGateStatus : Op Err FeatureGateStatus := do
  match ← Routine.attempt (clientGet .configMap ⟨operatorNamespace, "osc-feature-gates"⟩) with
  | .ok cfgMap => return featureGatesOf ((dataOf cfgMap).getD ∅)
  | .error error => if error.isNotFound then return {} else Routine.throw error

def intelTDXNodeLabel : String := "intel.feature.node.kubernetes.io/tdx"
def amdSNPNodeLabel : String := "amd.feature.node.kubernetes.io/snp"
def ibmSENodeLabel : String := "ibm.feature.node.kubernetes.io/se"

def nvidiaGPUNodeLabels : List (String × String) :=
  [("nvidia.com/gpu.present", "true"), ("nvidia.com/gpu.deploy.vfio-manager", "true"),
   ("nvidia.com/gpu.deploy.kata-sandbox-device-plugin", "true"),
   ("nvidia.com/cc.mode.state", "off"), ("nvidia.com/cc.ready.state", "false")]

/-- The GPU labels with the confidential values copied over them. -/
def nvidiaGPUCCNodeLabels : List (String × String) :=
  [("nvidia.com/gpu.present", "true"), ("nvidia.com/gpu.deploy.vfio-manager", "true"),
   ("nvidia.com/gpu.deploy.kata-sandbox-device-plugin", "true"),
   ("nvidia.com/cc.mode.state", "on"), ("nvidia.com/cc.ready.state", "true")]

inductive TEE where
  | intelTDX
  | amdSNP
  | ibmSE
  deriving DecidableEq, Repr

def TEE.label : TEE → String
  | .intelTDX => intelTDXNodeLabel
  | .amdSNP => amdSNPNodeLabel
  | .ibmSE => ibmSENodeLabel

def teesOf (nodes : List Node) : List TEE :=
  [TEE.intelTDX, .amdSNP, .ibmSE].filter fun tee =>
    nodes.any fun node => node.metadata.labels.lookup tee.label = some "true"

def computeTEE : Op Err TEE := do
  let selector ← getKataConfigNodeSelectorAsSelector.orElse (.wrap "failed to build node selector: ")
  let nodes ← (clientList .node selector).orElse (.wrap "failed to list nodes: ")
  match teesOf nodes with
  | [tee] => return tee
  | [] => Routine.throw (.new ("no TEE platform labels found (expected " ++ intelTDXNodeLabel ++ ", " ++
      amdSNPNodeLabel ++ " or " ++ ibmSENodeLabel ++ ")"))
  | _ => Routine.throw (.new "multiple TEE platforms detected; only one per cluster supported")

def kataCCRequest (tee : TEE) : RuntimeClassRequest where
  name := kataCCRuntimeClassName
  cpuOverhead := "0.25"
  memoryOverhead := "350Mi"
  extResOverhead := match tee with
    | .intelTDX => "tdx.intel.com/keys"
    | .amdSNP => "sev-snp.amd.com/esids"
    | .ibmSE => ""
  handler := match tee with
    | .intelTDX => "kata-tdx"
    | .amdSNP => "kata-snp"
    | .ibmSE => "kata-se"
  additionalNodeLabels := some [(tee.label, "true")]

/-- For IBM SE the handler and the extended resource of the CPU class are reused. -/
def kataNvidiaGPUCCRequest (tee : TEE) : RuntimeClassRequest where
  name := kataNvidiaGPUCCRuntimeClassName
  cpuOverhead := "0.25"
  memoryOverhead := "350Mi"
  extResOverhead := (kataCCRequest tee).extResOverhead
  handler := match tee with
    | .intelTDX => "kata-tdx-nvidia-gpu"
    | .amdSNP => "kata-snp-nvidia-gpu"
    | .ibmSE => "kata-se"
  additionalNodeLabels := some (match tee with
    | .ibmSE => []
    | other => nvidiaGPUCCNodeLabels ++ [(other.label, "true")])

/-- The value that overrides the restrictive default policy of non-confidential
peer pods. -/
def defaultNonCCInitdata : String :=
  "H4sIAAAAAAAAA42UwW7bMAyG734KwT3ktKDDehgG9NAl2VZgWQw7bQ7DMDAWYxOVRU+i03pPP7lGhx0muwddyE8U+ZPUhdrX5BVZEg0C6kQG1SN4VToEQa2OvZIaFfvyDbfoQNglYCp2JHWjrlXqa3j3/ipNzug8sR1Ml8u3y8s0Sb4PIX8kKcBSuDFp8C0Wi2Q4SdqyobJfOqz4xdFC+QAVqnCs/ByBJNF4gs6IutH6Js++IVX1kZ3P8VeHXtSHayWuw3+x4hHamHtl2GMhmmyU4Lb/FGSI+p+VWbEVIItuGivA6iM/xaB1MDruZ6jNE5aZ4xJ9tOrPKFsUR+UUsdttN+cgbRQZrGsMdZlomK/k5dYKuhOEfKaonDuJE1tsvrC0pqs+9qG2Y1TunTVB5lV2F27EmAw6P9+RrDPmtgnDFQNyBF1I6Fv0oRwbPs+/NGKFgMF7ckJ88kUNDrfcWYlKkqNH1HmYBW7WeJ7AumY+hwJl7GeYwj010aIDlz1vWhSgyoKZmb9Qq5P5nAZq76AkW00w4l8RiduZQHvpD8OWe/odLf6u1a/Z5RHbtDU24Qs0020c4b87Mo1NL8kBSGaEP4SPGP8/tMOX+geD8J3Z4AUAAA=="

section

variable (settings : Settings)

def handleConfidentialBaremetal : FeatureGateState → Op Err PUnit
  | .enabled => do
    match ← Routine.attempt computeTEE with
    | .error error =>
      if (← reconciler).spec.enablePeerPods then return ⟨⟩ else Routine.throw error
    | .ok tee =>
      createRuntimeClass settings (kataCCRequest tee)
      createRuntimeClass settings (kataNvidiaGPUCCRequest tee)
  | .disabled => do
    (deleteRuntimeClass kataCCRuntimeClassName).orElse
      (.wrap ("Error deleting " ++ kataCCRuntimeClassName ++ " runtime class: "))
    (deleteRuntimeClass kataNvidiaGPUCCRuntimeClassName).orElse
      (.wrap ("Error deleting " ++ kataNvidiaGPUCCRuntimeClassName ++ " runtime class: "))

/-- Edit a config map; one that does not exist is left for later. -/
def updateConfigMapIfPresent (cmName : String) (newData keysToRemove : List (String × String)) :
    Op Err PUnit := do
  match ← Routine.attempt (updateConfigMap settings cmName newData keysToRemove) with
  | .ok _ => return ⟨⟩
  | .error error => if error.isNotFound then return ⟨⟩ else Routine.throw error

def configureConfidentialImage (ig : ImageGenerator) : FeatureGateState → Op Err PUnit
  | .enabled => do
    ImageGenerator.createImageConfigMapFromFile settings ig
    updateConfigMap settings ig.getImageConfigMapName [("CONFIDENTIAL_COMPUTE_ENABLED", "yes")] []
  | .disabled =>
    updateConfigMapIfPresent settings ig.getImageConfigMapName [("CONFIDENTIAL_COMPUTE_ENABLED", "no")] []

def handleConfidentialPeerPods (state : FeatureGateState) : Op Err PUnit := do
  let ig ← initializeImageGenerator settings
  if ig.provider ≠ unsupportedCloudProvider then
    if !(← ig.isImageIDSet) then
      configureConfidentialImage settings ig state
  match state with
  | .enabled =>
    updateConfigMapIfPresent settings peerpodsCMName [("DISABLECVM", "false")]
      [("INITDATA", defaultNonCCInitdata)]
  | .disabled =>
    updateConfigMapIfPresent settings peerpodsCMName
      [("DISABLECVM", "true"), ("INITDATA", defaultNonCCInitdata)] []

def handleFeatureConfidential (state : FeatureGateState) : Op Err PUnit := do
  if (← reconciler).spec.enablePeerPods then
    handleConfidentialPeerPods settings state
  handleConfidentialBaremetal settings state

end

def setDeploymentMode {ε : Type} (mode : DeploymentMode) : Op ε PUnit :=
  Routine.modify fun r => { r with deploymentMode := mode }

def handleDeploymentModeFeature (mode : DeploymentModeOption) : Op Err PUnit := do
  let machineConfigAvailable ← isMachineConfigAvailable
  match mode with
  | .machineConfigOption =>
    if !machineConfigAvailable then
      Routine.throw (.new "deployment mode is set to MachineConfig, but it's not available")
    setDeploymentMode .machineConfigMode
  | .daemonSetOption => setDeploymentMode .daemonSetMode
  | .daemonSetFallbackOption =>
    setDeploymentMode (if machineConfigAvailable then .machineConfigMode else .daemonSetMode)

def setImgMc {ε : Type} (imgMc : Option MachineConfig) : Op ε PUnit :=
  Routine.modify fun r => { r with imgMc := imgMc }

def handleLayeredImageDeploymentFeature (state : FeatureGateState) : Op Err PUnit := do
  match ← getExistingMachineConfig with
  | some mc => if mc.metadata.name = imageMcName then setImgMc (some mc)
  | none =>
    match state with
    | .enabled =>
      let cm ← clientGet .configMap ⟨operatorNamespace, "layered-image-deploy-cm"⟩
      match ← Routine.attempt (createMachineConfigFromConfigMap cm) with
      | .ok mc => setImgMc (some mc)
      | .error error =>
        setImgMc none
        Routine.throw error
    | .disabled => setImgMc none

def processFeatureGates (settings : Settings) : Op Err PUnit := do
  let fgStatus ← newFeatureGateStatus
  handleFeatureConfidential settings (.ofBool fgStatus.confidential)
  handleDeploymentModeFeature fgStatus.deploymentModeOption
  if (← reconciler).deploymentMode ≠ .daemonSetMode then
    handleLayeredImageDeploymentFeature (.ofBool fgStatus.layeredImageDeployment)

end SandboxedContainers
