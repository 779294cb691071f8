import SandboxedContainers.ImageGenerator

/-!
# The operator's MachineConfig and MachineConfigPool

The MachineConfig that installs kata, either as an extension or as a layered
image, and the `kata-oc` pool.
-/

namespace SandboxedContainers

open Lib

def extensionMcName : String := "50-enable-sandboxed-containers-extension"
def imageMcName : String := "50-enable-sandboxed-containers-image"
def mcRoleLabel : String := "machineconfiguration.openshift.io/role"

def newMCPforCR {ε : Type} : Op ε MachineConfigPool := do
  let nodeSelector ← getNodeSelectorAsMap
  return ⟨{ name := "kata-oc"
            labels := StrMap.ofList [("pools.operator.machineconfiguration.openshift.io/kata-oc", "")] },
    show MachineConfigPoolBody from
      { machineConfigSelector := { matchExpressions := [⟨mcRoleLabel, "In", ["kata-oc", "worker"]⟩] }
        nodeSelector := StrMap.ofList nodeSelector }⟩

/-- A substring test by structural recursion. -/
def containsText (sought : List Char) : List Char → Bool
  | [] => sought.isEmpty
  | c :: rest => sought.isPrefixOf (c :: rest) || containsText sought rest

def getExtensionName (settings : Settings) : Op Err String := do
  let extension := settings.getenv "SANDBOXED_CONTAINERS_EXTENSION"
  if extension ≠ "" then
    return extension
  let clusterVersion ← getClusterVersion
  let image := clusterVersion.desiredImage.toList
  if "quay.io/openshift-release-dev/ocp-release".toList.isPrefixOf image then
    return "sandboxed-containers"
  if "quay.io/okd/scos-release".toList.isPrefixOf image then
    return "kata-containers"
  match ← Routine.attempt (readFile "/proc/cmdline") with
  | .ok cmdline =>
    if containsText "ostree/rhcos".toList cmdline.toList then return "sandboxed-containers"
    else return "kata-containers"
  | .error _ => return "kata-containers"

structure CustomKernelConfig where
  image : String
  kernelPath : String
  deriving DecidableEq, Repr

def kataAddonConfigMapName : String := "kata-addon-artifacts"

def getCustomKernelConfig : Op Err (Option CustomKernelConfig) := do
  match ← Routine.attempt (clientGet .configMap ⟨operatorNamespace, kataAddonConfigMapName⟩) with
  | .error error => if error.isNotFound then return none else Routine.throw error
  | .ok cm =>
    let image := dataAt cm "addonImage"
    let kernel := dataAt cm "kernelPath"
    if image = "" ∨ kernel = "" then return none
    return some ⟨image, kernel⟩

def addonKernelFile (customKernelCfg : CustomKernelConfig) : IgnitionFile where
  path := "/etc/kata-containers/kata-addon-kernel.conf"
  source := "IMAGE=" ++ customKernelCfg.image ++ "\nKERNEL=" ++ customKernelCfg.kernelPath ++ "\n"
  mode := 0o644

def mcLabels (machinePool appName : String) : StrMap :=
  StrMap.ofList [(mcRoleLabel, machinePool), ("app", appName)]

section

variable (settings : Settings)

def newMCForCR (machinePool : String) (customKernelCfg : Option CustomKernelConfig) :
    Op Err MachineConfig := do
  match (← reconciler).imgMc with
  | some imgMc => return imgMc
  | none =>
    let extension ← getExtensionName settings
    let r ← reconciler
    return ⟨{ name := extensionMcName, ns := operatorNamespace
              labels := mcLabels machinePool r.current.metadata.name },
      show MachineConfigSpec from
        { extensions := [extension]
          config := ⟨"3.2.0", (customKernelCfg.map addonKernelFile).toList⟩ }⟩

/-- What a client call leaves in the layered-image MachineConfig the reconciler
points to, if that was the object passed. -/
def refreshImgMc {ε : Type} (answer : MachineConfig) : Op ε PUnit :=
  Routine.modify fun r => { r with imgMc := r.imgMc.map fun _ => answer }

def specOfMc (mc : MachineConfig) : MachineConfigSpec := mc.body

def createMc (machinePool : String) (customKernelCfg : Option CustomKernelConfig) : Op Err Bool := do
  let mc ← newMCForCR settings machinePool customKernelCfg
  match ← Routine.attempt (clientGet .machineConfig ⟨"", mc.metadata.name⟩) with
  | .error error =>
    if error.isNotFound || error.isGone then
      refreshImgMc (← clientCreate mc)
      return true
    else Routine.throw error
  | .ok existingMc =>
    if specOfMc existingMc ≠ specOfMc mc then
      let _ ← clientUpdate { existingMc with body := mc.body }
    return false

end

def getExistingMachineConfig : Op Err (Option MachineConfig) := do
  let mcList ← clientList .machineConfig
  let r ← reconciler
  return mcList.find? fun mc =>
    StrMap.getD mc.metadata.labels "app" = r.current.metadata.name &&
      (mc.metadata.name = extensionMcName || mc.metadata.name = imageMcName)

/-- `unicode.IsSpace`. -/
def isSpace (c : Char) : Bool :=
  (0x09 ≤ c.toNat && c.toNat ≤ 0x0d) || (0x2000 ≤ c.toNat && c.toNat ≤ 0x200a) ||
    [0x20, 0x85, 0xa0, 0x1680, 0x2028, 0x2029, 0x202f, 0x205f, 0x3000].contains c.toNat

/-- `strings.Fields`. -/
def fieldsOf (text : String) : List String :=
  ((text.toList.splitOnP isSpace).filter fun word => !word.isEmpty).map String.ofList

def createMachineConfigFromConfigMap (cm : ConfigMap) : Op Err MachineConfig := do
  match ((dataOf cm).getD ∅).lookup "osImageURL" with
  | none => Routine.throw (.new "osImageURL not found in ConfigMap")
  | some osImageURL =>
    let mcp ← getMcpName
    let r ← reconciler
    return ⟨{ name := imageMcName, ns := operatorNamespace
              labels := mcLabels mcp r.current.metadata.name },
      show MachineConfigSpec from
        { osImageURL := osImageURL
          kernelArguments :=
            ((((dataOf cm).getD ∅).lookup "kernelArguments").map fieldsOf).getD [] }⟩

end SandboxedContainers
