import SandboxedContainers.Rollout

/-!
# Installing and uninstalling through DaemonSets

`processKataConfigInstallRequestDaemonSet` and
`processKataConfigDeleteRequestDaemonSet`.  The node agents the two DaemonSets
start report through a node label.
-/

namespace SandboxedContainers

open Lib

def daemonSetName (action : KataDaemonSetAction) : String := "osc-rpm-" ++ action.text

def daemonSetKey (action : KataDaemonSetAction) : Key := ⟨operatorNamespace, daemonSetName action⟩

def volumesForRegistries : List Volume :=
  [⟨"host-root", .hostPath "/"⟩, ⟨"auth-json-volume", .secret "auth-json-secret"⟩,
   ⟨"registries-conf", .hostPath "/etc/containers/registries.conf"⟩,
   ⟨"registries-conf-d", .hostPath "/etc/containers/registries.conf.d"⟩,
   ⟨"containers-auth", .hostPath "/var/lib/kubelet/config.json"⟩,
   ⟨"containers-policy", .hostPath "/etc/containers/policy.json"⟩]

def volumeMountsForRegistries : List VolumeMount :=
  [⟨"host-root", "/host"⟩, ⟨"auth-json-volume", "/tmp/regauth"⟩,
   ⟨"registries-conf", "/etc/containers/registries.conf"⟩,
   ⟨"registries-conf-d", "/etc/containers/registries.conf.d"⟩,
   ⟨"containers-auth", "/root/.config/containers/auth.json"⟩,
   ⟨"containers-policy", "/etc/containers/policy.json"⟩]

def addonEnvVarsOf (cm : ConfigMap) : List EnvVar :=
  [("addonImage", "ADDON_IMAGE"), ("kernelPath", "ADDON_KERNEL_PATH")].filterMap fun (key, env) =>
    if dataAt cm key = "" then none else some ⟨env, dataAt cm key⟩

def getAddonEnvVars {ε : Type} : Op ε (List EnvVar) := do
  match ← Routine.attempt (clientGet .configMap ⟨operatorNamespace, kataAddonConfigMapName⟩) with
  | .error _ => return []
  | .ok cm => return addonEnvVarsOf cm

section

variable (settings : Settings)

def kataInstallContainers (action : KataDaemonSetAction) (dsImage logLevel : String)
    (env : List EnvVar) : List Container :=
  [{ name := "kata-install", image := dsImage
     command := ["/bin/bash", "/scripts/osc-kata-install.sh"], args := [action.text]
     env := env, volumeMounts := volumeMountsForRegistries },
   { name := "set-log-level", image := dsImage
     command := ["/bin/bash", "/scripts/osc-log-level.sh"], args := [action.text, logLevel]
     volumeMounts := [⟨"host-root", "/host"⟩] }]

def daemonSetForKataInstall (action : KataDaemonSetAction) : Op Err DaemonSet := do
  let extensionImage ← getImageForComponent "rhel-coreos-extensions"
  let cliImage ← getImageForComponent "cli"
  let nodeSelector ← getNodeSelectorAsMap
  let logLevel := effectiveLogLevel (← reconciler).spec.logLevel
  let cloudProvider := match ← Routine.attempt getCloudProviderFromInfra with
    | .ok provider => provider
    | .error _ => ""
  let addonEnvVars ← getAddonEnvVars
  return ⟨{ name := daemonSetName action, ns := operatorNamespace },
    show PodTemplate from
      { labels := [("name", daemonSetName action)]
        serviceAccountName := "kata-install"
        nodeSelector := StrMap.ofList nodeSelector
        containers := kataInstallContainers action (settings.getenv "RELATED_IMAGE_KATA_DAEMONSET")
          logLevel ([⟨"NODE_NAME", "spec.nodeName"⟩, ⟨"EXTENSION_IMAGE", extensionImage⟩,
            ⟨"CLI_IMAGE", cliImage⟩, ⟨"NODE_LABEL", kataInstallationDaemonSetLabel⟩,
            ⟨"CLOUD_PROVIDER", cloudProvider⟩] ++ addonEnvVars)
        volumes := volumesForRegistries }⟩

/-- Give the selected nodes the state the agents start from; a failure is only
logged. -/
def labelKataNodes {ε : Type} (state : KataInstallationDaemonSetState) : Op ε PUnit := do
  match ← Routine.attempt getKataConfigNodeSelectorAsSelector with
  | .error _ => return ⟨⟩
  | .ok kataSelector =>
    Routine.ignore (labelNodes kataSelector kataInstallationDaemonSetLabel state.text)

def ensureUninstallDaemonSet (ds : DaemonSet) : Op Exit Bool := do
  match ← Routine.attempt (clientGet .daemonSet ds.key) with
  | .ok _ => return false
  | .error error =>
    if !error.isNotFound then
      Routine.throw { err := some error }
    let _ ← orReturn (clientCreate ds)
    labelKataNodes .waitingToUninstall
    return true

def startUninstallation : Op Exit Bool := do
  let installDs ← orReturn (daemonSetForKataInstall settings .installKata)
  orReturn (deleteIfPresent .daemonSet installDs.key)
  orReturn deleteKataInstallNetworkPolicies
  let uninstallDs ← orReturn (daemonSetForKataInstall settings .uninstallKata)
  let owned ← orReturn (setControllerReference uninstallDs)
  orReturn createKataUninstallNetworkPolicies
  ensureUninstallDaemonSet owned

def finishDeletionDaemonSet : Op Exit PUnit := do
  resetInProgressCondition
  orReturn (deleteDaemonsetForMonitor settings)
  orReturn deleteKataUninstallNetworkPolicies
  if (← reconciler).spec.enablePeerPods then
    orReturn (disablePeerPodsMiscConfigs settings)
    deletePodVMImage settings
  orReturn deleteScc
  orReturn deleteKataInstallScc
  let kataNodeSelector ← orRetry getKataConfigNodeSelectorAsSelector ⟨true, 0⟩
  (unlabelNodesDaemonSet kataNodeSelector).orElse labelFailure
  orRetry removeFinalizer ⟨true, 0⟩

def concludeDeletionDaemonSet (isUninstallDaemonSetJustCreated : Bool) : Op Exit PUnit := do
  Routine.ignore (updateStatusDaemonSet .uninstallKata)
  let uninstallInProgress ← orReturn isKataUninstallDaemonSetUninstalling
  if isUninstallDaemonSetJustCreated || uninstallInProgress then
    return ⟨⟩
  finishDeletionDaemonSet settings

def processKataConfigDeleteRequestDaemonSet : Op Exit PUnit := do
  mark .deleteRequestDaemonSet
  checkDeletionEligibility
  setInProgressConditionToUninstalling
  concludeDeletionDaemonSet settings (← startUninstallation settings)

def ensureInstallDaemonSet (ds : DaemonSet) : Op Exit PUnit := do
  match ← Routine.attempt (clientGet .daemonSet ds.key) with
  | .ok _ =>
    let _ ← orReturn (clientUpdate ds)
    return ⟨⟩
  | .error error =>
    if !error.isNotFound then
      Routine.throw { err := some error }
    let _ ← orReturn (clientCreate ds)
    setInProgressConditionToInstalling
    labelKataNodes .waitingToInstall

def mixedClusterUnsupported : Err :=
  .new ("enableMixedCluster is not supported in DaemonSet deployment mode: mixed cluster support " ++
    "requires MachineConfig deployment mode for NFD NodeFeatureRule lifecycle management")

def prepareInstallationDaemonSet : Op Exit DaemonSet := do
  let r ← reconciler
  if r.spec.enableMixedCluster then
    Routine.throw { err := some mixedClusterUnsupported }
  if r.spec.checkNodeEligibility then
    orReturn checkNodeEligibility
  let _ ← updateNodeLabels.orElse labelFailure
  orReturn createAuthJsonSecret
  ensureFinalizer
  orReturn ensureKataInstallSCC
  let installDs ← orReturn (daemonSetForKataInstall settings .installKata)
  let owned ← orReturn (setControllerReference installDs)
  orReturn createKataInstallNetworkPolicies
  return owned

def concludeInstallationDaemonSet : Op Exit PUnit := do
  let installInProgress ← orReturn isKataInstallDaemonSetInstalling
  if installInProgress && (← reconciler).status.getInProgressConditionValue = .conditionFalse then
    setInProgressConditionToUpdating
  Routine.ignore (updateStatusDaemonSet .installKata)
  if !installInProgress then
    postKataInstallation settings

def processKataConfigInstallRequestDaemonSet : Op Exit PUnit := do
  mark .installRequestDaemonSet
  ensureInstallDaemonSet (← prepareInstallationDaemonSet settings)
  concludeInstallationDaemonSet settings

end

end SandboxedContainers
