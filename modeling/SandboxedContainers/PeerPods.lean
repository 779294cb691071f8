import SandboxedContainers.Operands

/-!
# Peer pods

The cloud-api-adaptor DaemonSet, the admission webhook and the pod VM image, and
the two functions that bring all of it up and down.
-/

namespace SandboxedContainers

open Lib

def caaDsName : String := "osc-caa-ds"
def webhookDeploymentName : String := "peer-pods-webhook"
def webhookSvcName : String := "peer-pods-webhook-svc"
def webhookSvcSecretName : String := "peer-pods-webhook-svc-secret"
def webhookConfigName : String := "mutating-webhook-configuration"

section

variable (settings : Settings)

def peerPodsNamespace : String := settings.getenv "PEERPODS_NAMESPACE"

def caaKey : Key := ⟨peerPodsNamespace settings, caaDsName⟩
def webhookDeploymentKey : Key := ⟨peerPodsNamespace settings, webhookDeploymentName⟩
def webhookSvcKey : Key := ⟨peerPodsNamespace settings, webhookSvcName⟩
def webhookConfigKey : Key := ⟨"", webhookConfigName⟩

def tlsEnvVars : List EnvVar :=
  match settings.tlsProfile with
  | none => []
  | some (version, ciphers) => [⟨"TLS_MIN_VERSION", version⟩, ⟨"TLS_CIPHER_SUITES", ciphers⟩]

def caaVolumes : List Volume :=
  [⟨"auth-json-volume", .secret "auth-json-secret"⟩, ⟨"ssh", .secret "ssh-key-secret"⟩,
   ⟨"pods-dir", .hostPath "/run/peerpod"⟩, ⟨"netns", .hostPath "/run/netns"⟩]

def caaVolumeMounts : List VolumeMount :=
  [⟨"auth-json-volume", "/root/containers/"⟩, ⟨"ssh", "/root/.ssh"⟩,
   ⟨"pods-dir", "/run/peerpod"⟩, ⟨"netns", "/run/netns"⟩]

def templateOf (ds : DaemonSet) : PodTemplate := ds.body

def mountVolume (volume : Volume) (volumeMount : VolumeMount) (ds : DaemonSet) : DaemonSet :=
  ⟨ds.metadata, show PodTemplate from
    { templateOf ds with
      volumes := (templateOf ds).volumes ++ [volume]
      containers := ImageGenerator.mapFirst (fun container =>
        { container with volumeMounts := container.volumeMounts ++ [volumeMount] })
          (templateOf ds).containers }⟩

def configureCAA (ds : DaemonSet) (cmVersion : String) : Op Err DaemonSet := do
  let nodeSelector ← getNodeSelectorAsMap
  let effectiveProxyEnvVars ← getEffectiveProxyEnvVars settings
  let configured : DaemonSet := ⟨ds.metadata, show PodTemplate from
    { labels := [("name", caaDsName)]
      annotations := [(peerpodsCMName ++ "/version", cmVersion)]
      serviceAccountName := "default"
      nodeSelector := StrMap.ofList nodeSelector
      containers := [
        { name := "caa-pod"
          image := settings.getenv "RELATED_IMAGE_CAA"
          command := ["/usr/local/bin/entrypoint.sh"]
          env := effectiveProxyEnvVars ++ [⟨"NODE_NAME", "spec.nodeName"⟩] ++ tlsEnvVars settings
          volumeMounts := caaVolumeMounts }]
      volumes := caaVolumes }⟩
  match ← generateTrustedCAVolumeConfig with
  | none => return configured
  | some (volume, volumeMount) => return mountVolume volume volumeMount configured

def credentialsModeOf (object : Object Kind.cloudCredential) : String := show String from object.body
def serviceAccountIssuerOf (object : Object Kind.authentication) : String :=
  show String from object.body

/-- An unreadable resource counts as token-based, a missing one does not. -/
def isClusterInTokenBasedAuthMode {ε : Type} : Op ε Bool := do
  match ← Routine.attempt (clientGet .cloudCredential ⟨"", "cluster"⟩) with
  | .error error => return !error.isNotFound
  | .ok cloudCred =>
    if credentialsModeOf cloudCred ≠ "Manual" then
      return false
    match ← Routine.attempt (clientGet .authentication ⟨"", "cluster"⟩) with
    | .error error => return !error.isNotFound
    | .ok auth => return serviceAccountIssuerOf auth ≠ ""

def addBoundSATokenVolume : DaemonSet → DaemonSet :=
  mountVolume ⟨"bound-sa-token", .serviceAccountToken "token" "openshift"⟩
    ⟨"bound-sa-token", "/var/run/secrets/openshift/serviceaccount"⟩

def configureCAAProvider (ds : DaemonSet) : Op Err DaemonSet := do
  let provider ← getCloudProviderFromInfra.orElse (.wrap "failed to get cloud provider from infra: ")
  match provider with
  | "ibmcloud" =>
    return mountVolume ⟨"vault-token", .serviceAccountToken "vault-token" "iam"⟩
      ⟨"vault-token", "/var/run/secrets/tokens"⟩ ds
  | "aws" | "azure" | "gcp" =>
    if ← isClusterInTokenBasedAuthMode then return addBoundSATokenVolume ds else return ds
  | _ => return ds

def webhookDeploymentTemplate : PodTemplate :=
  { labels := [("app", "peer-pods-webhook")]
    volumes := [⟨"webhook-cert", .secret webhookSvcSecretName⟩,
      ⟨"metrics-cert", .secret webhookSvcSecretName⟩]
    containers := [
      { name := webhookDeploymentName
        image := if settings.getenv "RELATED_IMAGE_PEERPODS_WEBHOOK" = "" then
            "quay.io/confidential-containers/peer-pods-webhook:latest"
          else settings.getenv "RELATED_IMAGE_PEERPODS_WEBHOOK"
        command := ["/manager"]
        args := [" --leader-elect"]
        env := [⟨"PEERPODS_NAMESPACE", peerPodsNamespace settings⟩,
          ⟨"TARGET_RUNTIMECLASS", peerpodsRuntimeClassName⟩,
          ⟨"POD_VM_EXTENDED_RESOURCE", "kata.peerpods.io/vm"⟩] ++ tlsEnvVars settings
        volumeMounts := [⟨"webhook-cert", "/tmp/k8s-webhook-server/serving-certs"⟩,
          ⟨"metrics-cert", "/tmp/k8s-metrics-server/serving-certs"⟩] }] }

def createMutatingWebhookDeployment : Op Err PUnit :=
  createOrUpdate .deployment (webhookDeploymentKey settings) (show PodTemplate from {}) fun deploy =>
    pure ⟨{ deploy.metadata with labels := StrMap.ofList [("app", "peer-pods-webhook")] },
      show PodTemplate from
        { (show PodTemplate from deploy.body) with
          labels := (webhookDeploymentTemplate settings).labels
          volumes := (webhookDeploymentTemplate settings).volumes
          containers := (webhookDeploymentTemplate settings).containers }⟩

def webhookService : ServiceBody :=
  { ports := [⟨webhookSvcName, 443, 9443⟩, ⟨"metrics", 8443, 8443⟩]
    selector := [("app", "peer-pods-webhook")] }

def createMutatingWebhookService : Op Err PUnit :=
  createOrUpdate .service (webhookSvcKey settings) (show ServiceBody from {}) fun svc =>
    pure ⟨{ svc.metadata with
        labels := StrMap.ofList [("app", "peer-pods-webhook")]
        annotations := StrMap.ofList
          [("service.beta.openshift.io/serving-cert-secret-name", webhookSvcSecretName)] },
      show ServiceBody from webhookService⟩

/-- The webhook, with the CA bundle of an existing one of the same name. -/
def webhookFor (existing : List MutatingWebhook) : MutatingWebhook where
  name := "mwebhook.peerpods.io"
  caBundle := ((existing.find? fun webhook => webhook.name = "mwebhook.peerpods.io").map
    MutatingWebhook.caBundle).getD ""
  serviceNamespace := peerPodsNamespace settings
  serviceName := webhookSvcName
  failClosed := true

def webhooksOf (config : Object Kind.mutatingWebhookConfiguration) : List MutatingWebhook :=
  show List MutatingWebhook from config.body

def createMutatingWebhookConfig : Op Err PUnit :=
  createOrUpdate .mutatingWebhookConfiguration webhookConfigKey (show List MutatingWebhook from [])
    fun cfg => pure ⟨{ cfg.metadata with
        labels := ∅
        annotations := StrMap.ofList [("service.beta.openshift.io/inject-cabundle", "true")] },
      show List MutatingWebhook from [webhookFor settings (webhooksOf cfg)]⟩

def deleteMutatingWebhookDeployment : Op Err PUnit :=
  deleteIfPresent .deployment (webhookDeploymentKey settings)

def deleteMutatingWebhookService : Op Err PUnit := deleteIfPresent .service (webhookSvcKey settings)

def deleteMutatingWebhookConfig : Op Err PUnit :=
  deleteIfPresent .mutatingWebhookConfiguration webhookConfigKey

def enablePeerPodsMiscConfigs : Op Err PUnit := do
  match ← getConfigMapVersion peerpodsCMName with
  | none => Routine.throw (.new ("peer pod configmap " ++ peerpodsCMName ++ " missing"))
  | some cmVersion =>
    createOrUpdate .daemonSet (caaKey settings) (show PodTemplate from {}) fun ds => do
      setControllerReference
        (← configureCAAProvider (← configureCAA settings ds (toString cmVersion)))
    createPeerPodsWebhookNetworkPolicies
    createMutatingWebhookDeployment settings
    createMutatingWebhookService settings
    createMutatingWebhookConfig settings
    createRuntimeClass settings
      { name := peerpodsRuntimeClassName, cpuOverhead := "0.25", memoryOverhead := "120Mi"
        handler := peerpodsRuntimeClassName, additionalNodeLabels := none }

def disablePeerPodsMiscConfigs : Op Err PUnit := do
  deleteIfPresent .daemonSet (caaKey settings)
  deleteMutatingWebhookDeployment settings
  deleteMutatingWebhookService settings
  deleteMutatingWebhookConfig
  deletePeerPodsWebhookNetworkPolicies
  deletePodVMImageCreationNetworkPolicies
  deletePodVMImageDeletionNetworkPolicies

/-- Return early with a requeue and whatever error there is. -/
def requeueWith {α : Type} (err : Option Err) : Op Exit α :=
  Routine.throw { result := ⟨true, 15⟩, err := err }

def deletePodVMImage : Op Exit PUnit := do
  match ← orReturn (ImageGenerator.imageDelete settings) with
  | (.imageDeletedSuccessfully, _) => setInProgressConditionToPodVMImageDeleted
  | (.unsupportedPodVMImageProvider, _) => setInProgressConditionToPodVMImageUnsupportedProvider
  | (.requeueNeeded, err) =>
    setInProgressConditionToPodVMImageDeleting
    requeueWith err
  | (.imageFailed, err) =>
    setInProgressConditionToPodVMImageDeletionFailed
    if err.isSome then
      requeueWith err
  | (.imageStatusUnknown, err) =>
    setInProgressConditionToPodVMImageDeletionUnknown
    requeueWith err
  | (_, _) => return ⟨⟩

def handleImageCreate : ImageStatus × Option Err → Op Exit PUnit
  | (.imageCreatedSuccessfully, _) => setInProgressConditionToPodVMImageCreated
  | (.unsupportedPodVMImageProvider, _) => setInProgressConditionToPodVMImageUnsupportedProvider
  | (.requeueNeeded, err) => do
    setInProgressConditionToPodVMImageCreating
    requeueWith err
  | (.imageFailed, err) => do
    setInProgressConditionToPodVMImageCreationFailed
    if err.isSome then
      requeueWith err
  | (.imageStatusUnknown, err) => do
    setInProgressConditionToPodVMImageCreationUnknown
    requeueWith err
  | (_, _) => pure ⟨⟩

def enablePeerPods : Op Exit PUnit := do
  orReturn createAuthJsonSecret ⟨true, 15⟩
  orReturn createPodVMImageCreationNetworkPolicies ⟨true, 15⟩
  orReturn createPodVMImageDeletionNetworkPolicies ⟨true, 15⟩
  handleImageCreate (← orReturn (ImageGenerator.imageCreate settings))
  orReturn (enablePeerPodsMiscConfigs settings) ⟨true, 15⟩
  resetInProgressCondition

def disablePeerPods : Op Exit PUnit := do
  Routine.ignore (disablePeerPodsMiscConfigs settings)
  deletePodVMImage settings

end

end SandboxedContainers
