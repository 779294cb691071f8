import SandboxedContainers.Lib.Server

/-!
# The objects the operator works on

The Kubernetes kinds the operator reads and writes, with the fields its code
looks at, and the `KataConfig` resource itself.  Files and release payloads the
operator reads are kinds of their own: reading one can fail and its content can
change between two reads, just as with an API object.
-/

namespace SandboxedContainers

open Lib

inductive Kind where
  | kataConfig
  | node
  | pod
  | configMap
  | secret
  | daemonSet
  | deployment
  | service
  | mutatingWebhookConfiguration
  | machineConfig
  | machineConfigPool
  | runtimeClass
  | securityContextConstraints
  | containerRuntimeConfig
  | networkPolicy
  | nodeFeatureRule
  | nodeFeatureDiscovery
  | peerPodConfig
  | job
  | clusterVersion
  | infrastructure
  | proxy
  | cloudCredential
  | authentication
  | file
  | releaseInfo
  | console
  | credentialsRequest
  | clusterServiceVersion
  | consolePlugin
  deriving DecidableEq, Repr

inductive ConditionStatus where
  | conditionTrue
  | conditionFalse
  | conditionUnknown
  deriving DecidableEq, Repr

def ConditionStatus.text : ConditionStatus → String
  | .conditionTrue => "True"
  | .conditionFalse => "False"
  | .conditionUnknown => "Unknown"

/-- The only condition type of a `KataConfig` is `InProgress`; other writers of
the status may have put others there. -/
inductive KataConfigConditionType where
  | inProgress
  | other (name : String)
  deriving DecidableEq, Repr

structure KataConfigCondition where
  type : KataConfigConditionType
  status : ConditionStatus
  reason : String
  message : String
  deriving DecidableEq, Repr

structure KataNodesStatus where
  nodeCount : Nat := 0
  readyNodeCount : Nat := 0
  installed : List String := []
  installing : List String := []
  waitingToInstall : List String := []
  failedToInstall : List String := []
  uninstalling : List String := []
  waitingToUninstall : List String := []
  failedToUninstall : List String := []
  deriving DecidableEq, Repr

structure KataConfigStatus where
  runtimeClasses : List String := []
  kataNodes : KataNodesStatus := {}
  conditions : List KataConfigCondition := []
  waitingForMcoToStart : Bool := false
  deriving DecidableEq, Repr

structure KataConfigSpec where
  kataConfigPoolSelector : Option LabelSelector := none
  checkNodeEligibility : Bool := false
  logLevel : String := "info"
  enablePeerPods : Bool := false
  enableMixedCluster : Bool := false
  deriving DecidableEq

/-- The status is absent until it is first written through its subresource. -/
structure KataConfigBody where
  spec : KataConfigSpec := {}
  status : Option KataConfigStatus := none
  deriving DecidableEq

inductive PodPhase where
  | pending
  | running
  | succeeded
  | failed
  | unknown
  deriving DecidableEq, Repr

structure PodBody where
  runtimeClassName : Option String
  phase : PodPhase
  deriving DecidableEq

/-- The data map can be absent altogether. -/
structure ConfigMapBody where
  data : Option StrMap
  deriving DecidableEq

structure SecretBody where
  data : StrMap
  deriving DecidableEq

structure EnvVar where
  name : String
  value : String
  deriving DecidableEq, Repr

structure VolumeMount where
  name : String
  mountPath : String
  deriving DecidableEq, Repr

inductive VolumeSource where
  | secret (name : String)
  | configMap (name : String)
  | hostPath (path : String)
  | serviceAccountToken (path audience : String)
  deriving DecidableEq, Repr

structure Volume where
  name : String
  source : VolumeSource
  deriving DecidableEq, Repr

def withDefault (value fallback : String) : String := if value = "" then fallback else value

structure Container where
  name : String
  image : String
  command : List String := []
  args : List String := []
  env : List EnvVar := []
  volumeMounts : List VolumeMount := []
  /-- The operator leaves this field out, and the last three of a template. -/
  terminationMessagePath : String := ""
  deriving DecidableEq, Repr

def Container.defaulted (container : Container) : Container :=
  { container with terminationMessagePath := withDefault container.terminationMessagePath "/dev/termination-log" }

structure PodTemplate where
  labels : List (String × String) := []
  annotations : List (String × String) := []
  serviceAccountName : String := ""
  nodeSelector : StrMap := ∅
  initContainers : List Container := []
  containers : List Container := []
  volumes : List Volume := []
  restartPolicy : String := ""
  dnsPolicy : String := ""
  schedulerName : String := ""
  deriving DecidableEq

/-- A template as the server keeps it, with defaults for what was left out. -/
def PodTemplate.defaulted (template : PodTemplate) : PodTemplate :=
  { template with
    initContainers := template.initContainers.map Container.defaulted
    containers := template.containers.map Container.defaulted
    restartPolicy := withDefault template.restartPolicy "Always"
    dnsPolicy := withDefault template.dnsPolicy "ClusterFirst"
    schedulerName := withDefault template.schedulerName "default-scheduler" }

structure ServicePort where
  name : String
  port : Nat
  targetPort : Nat
  deriving DecidableEq, Repr

structure ServiceBody where
  ports : List ServicePort := []
  selector : List (String × String) := []
  deriving DecidableEq

/-- A webhook fails closed when the server refuses requests it cannot review. -/
structure MutatingWebhook where
  name : String
  caBundle : String
  serviceNamespace : String
  serviceName : String
  failClosed : Bool
  deriving DecidableEq

/-- A file an ignition config writes; the source is kept before its encoding. -/
structure IgnitionFile where
  path : String
  source : String
  mode : Nat
  deriving DecidableEq, Repr

structure IgnitionConfig where
  version : String
  files : List IgnitionFile := []
  deriving DecidableEq, Repr

structure MachineConfigSpec where
  extensions : List String := []
  config : IgnitionConfig := ⟨"3.2.0", []⟩
  osImageURL : String := ""
  kernelArguments : List String := []
  deriving DecidableEq

inductive MachineConfigPoolConditionType where
  | updated
  | updating
  | degraded
  | other (name : String)
  deriving DecidableEq, Repr

structure MachineConfigPoolCondition where
  type : MachineConfigPoolConditionType
  status : ConditionStatus
  /-- Reason, message and transition time, which are only compared as a whole. -/
  detail : String := ""
  deriving DecidableEq, Repr

structure MachineConfigPoolStatus where
  machineCount : Nat := 0
  readyMachineCount : Nat := 0
  updatedMachineCount : Nat := 0
  degradedMachineCount : Nat := 0
  conditions : List MachineConfigPoolCondition := []
  /-- The other fields, which are only compared as a whole. -/
  detail : String := ""
  deriving DecidableEq, Repr

structure MachineConfigPoolBody where
  configurationName : String := ""
  machineConfigSelector : LabelSelector := {}
  nodeSelector : StrMap := ∅
  status : MachineConfigPoolStatus := {}
  deriving DecidableEq

structure Scheduling where
  nodeSelector : StrMap
  tolerations : List String := []
  deriving DecidableEq

structure RuntimeClassBody where
  handler : String
  podFixed : List (String × String)
  scheduling : Option Scheduling
  deriving DecidableEq

structure SecurityContextConstraintsBody where
  allowPrivilegedContainer : Bool := false
  allowHostDirVolumePlugin : Bool := false
  allowHostPID : Bool := false
  runAsUser : String := ""
  seLinuxContext : String := ""
  users : List String := []
  volumes : List String := []
  deriving DecidableEq

structure ContainerRuntimeConfigBody where
  machineConfigPoolSelector : LabelSelector
  logLevel : String
  deriving DecidableEq

inductive PolicyType where
  | ingress
  | egress
  deriving DecidableEq, Repr

/-- An empty list of peers or ports leaves that part of a rule unrestricted. -/
structure NetworkPolicyRule where
  namespaces : List (String × String) := []
  ports : List (String × Nat) := []
  deriving DecidableEq, Repr

structure NetworkPolicySpec where
  podSelector : List (String × String) := []
  policyTypes : List PolicyType := []
  ingress : List NetworkPolicyRule := []
  egress : List NetworkPolicyRule := []
  deriving DecidableEq

/-- One rule of the node feature discovery: labels for nodes whose CPU features
are present or absent as listed. -/
structure FeatureRule where
  name : String
  labels : List (String × String)
  cpuid : List (String × Bool)
  deriving DecidableEq, Repr

structure JobStatus where
  complete : Bool := false
  failedCondition : Bool := false
  conditionCount : Nat := 0
  active : Nat := 0
  succeeded : Nat := 0
  failed : Nat := 0
  deriving DecidableEq, Repr

structure JobBody where
  template : PodTemplate
  status : JobStatus := {}
  deriving DecidableEq

structure ClusterVersionBody where
  clusterID : String
  desiredImage : String
  deriving DecidableEq

structure ProxyBody where
  httpProxy : String := ""
  httpsProxy : String := ""
  noProxy : String := ""
  statusNoProxy : String := ""
  trustedCA : String := ""
  deriving DecidableEq

/-- A tag of a release payload and the image it stands for, if it is one. -/
structure ReleaseTag where
  name : String
  dockerImage : Option String
  deriving DecidableEq, Repr

/-- The plugins the console is to load, and the rest of its specification. -/
structure ConsoleBody where
  plugins : List String := []
  rest : String := ""
  deriving DecidableEq, Repr

abbrev Kind.Body : Kind → Type
  | .kataConfig => KataConfigBody
  | .node => Unit
  | .pod => PodBody
  | .configMap => ConfigMapBody
  | .secret => SecretBody
  | .daemonSet => PodTemplate
  | .deployment => PodTemplate
  | .service => ServiceBody
  | .mutatingWebhookConfiguration => List MutatingWebhook
  | .machineConfig => MachineConfigSpec
  | .machineConfigPool => MachineConfigPoolBody
  | .runtimeClass => RuntimeClassBody
  | .securityContextConstraints => SecurityContextConstraintsBody
  | .containerRuntimeConfig => ContainerRuntimeConfigBody
  | .networkPolicy => NetworkPolicySpec
  | .nodeFeatureRule => List FeatureRule
  | .nodeFeatureDiscovery => Unit
  | .peerPodConfig => Option String
  | .job => JobBody
  | .clusterVersion => ClusterVersionBody
  | .infrastructure => Option String
  | .proxy => ProxyBody
  | .cloudCredential => String
  | .authentication => String
  | .file => String
  | .releaseInfo => List ReleaseTag
  | .console => ConsoleBody
  | .credentialsRequest => String
  | .clusterServiceVersion => Unit
  | .consolePlugin => Unit

instance : (k : Kind) → DecidableEq k.Body
  | .kataConfig => inferInstanceAs (DecidableEq KataConfigBody)
  | .node => inferInstanceAs (DecidableEq Unit)
  | .pod => inferInstanceAs (DecidableEq PodBody)
  | .configMap => inferInstanceAs (DecidableEq ConfigMapBody)
  | .secret => inferInstanceAs (DecidableEq SecretBody)
  | .daemonSet => inferInstanceAs (DecidableEq PodTemplate)
  | .deployment => inferInstanceAs (DecidableEq PodTemplate)
  | .service => inferInstanceAs (DecidableEq ServiceBody)
  | .mutatingWebhookConfiguration => inferInstanceAs (DecidableEq (List MutatingWebhook))
  | .machineConfig => inferInstanceAs (DecidableEq MachineConfigSpec)
  | .machineConfigPool => inferInstanceAs (DecidableEq MachineConfigPoolBody)
  | .runtimeClass => inferInstanceAs (DecidableEq RuntimeClassBody)
  | .securityContextConstraints => inferInstanceAs (DecidableEq SecurityContextConstraintsBody)
  | .containerRuntimeConfig => inferInstanceAs (DecidableEq ContainerRuntimeConfigBody)
  | .networkPolicy => inferInstanceAs (DecidableEq NetworkPolicySpec)
  | .nodeFeatureRule => inferInstanceAs (DecidableEq (List FeatureRule))
  | .nodeFeatureDiscovery => inferInstanceAs (DecidableEq Unit)
  | .peerPodConfig => inferInstanceAs (DecidableEq (Option String))
  | .job => inferInstanceAs (DecidableEq JobBody)
  | .clusterVersion => inferInstanceAs (DecidableEq ClusterVersionBody)
  | .infrastructure => inferInstanceAs (DecidableEq (Option String))
  | .proxy => inferInstanceAs (DecidableEq ProxyBody)
  | .cloudCredential => inferInstanceAs (DecidableEq String)
  | .authentication => inferInstanceAs (DecidableEq String)
  | .file => inferInstanceAs (DecidableEq String)
  | .releaseInfo => inferInstanceAs (DecidableEq (List ReleaseTag))
  | .console => inferInstanceAs (DecidableEq ConsoleBody)
  | .credentialsRequest => inferInstanceAs (DecidableEq String)
  | .clusterServiceVersion => inferInstanceAs (DecidableEq Unit)
  | .consolePlugin => inferInstanceAs (DecidableEq Unit)

instance : Schema Kind where
  Body := Kind.Body
  created
    | .kataConfig, body => { body with status := none }
    | .machineConfigPool, body => { body with status := {} }
    | .job, body => { template := body.template.defaulted, status := {} }
    | .daemonSet, template | .deployment, template => template.defaulted
    | _, body => body
  updated
    | .kataConfig, stored, submitted => { submitted with status := stored.status }
    | .machineConfigPool, stored, submitted => { submitted with status := stored.status }
    | .job, stored, submitted => { template := submitted.template.defaulted, status := stored.status }
    | .daemonSet, _, submitted | .deployment, _, submitted => submitted.defaulted
    | _, _, submitted => submitted
  statusUpdated
    | .kataConfig, stored, submitted => { stored with status := submitted.status }
    | .machineConfigPool, stored, submitted => { stored with status := submitted.status }
    | .job, stored, submitted => { stored with status := submitted.status }
    | _, stored, _ => stored

instance (k : Kind) : DecidableEq (Schema.Body k) := inferInstanceAs (DecidableEq k.Body)

/-- Objects of the other kinds have no namespace, whatever a client puts there. -/
def Kind.namespaced : Kind → Bool
  | .pod | .configMap | .secret | .daemonSet | .deployment | .service | .networkPolicy
  | .nodeFeatureRule | .nodeFeatureDiscovery | .peerPodConfig | .job | .credentialsRequest
  | .clusterServiceVersion => true
  | _ => false

abbrev KataConfig := Object Kind.kataConfig
abbrev Node := Object Kind.node
abbrev Pod := Object Kind.pod
abbrev ConfigMap := Object Kind.configMap
abbrev Secret := Object Kind.secret
abbrev DaemonSet := Object Kind.daemonSet
abbrev MachineConfig := Object Kind.machineConfig
abbrev MachineConfigPool := Object Kind.machineConfigPool
abbrev RuntimeClass := Object Kind.runtimeClass
abbrev Job := Object Kind.job
abbrev Console := Object Kind.console
abbrev CredentialsRequest := Object Kind.credentialsRequest
abbrev ClusterServiceVersion := Object Kind.clusterServiceVersion

abbrev Cluster := Store Kind

/-- What the operator sees in a `KataConfig` whose status was never written. -/
def statusOf (kataConfig : KataConfig) : KataConfigStatus :=
  (show KataConfigBody from kataConfig.body).status.getD {}

def specOf (kataConfig : KataConfig) : KataConfigSpec :=
  (show KataConfigBody from kataConfig.body).spec

/-- A server's answer decoded into an object the client already holds: what the
answer leaves out stays as the client had it. -/
def decodeList {α : Type} (answer held : List α) : List α :=
  if answer.isEmpty then held else answer

def KataNodesStatus.decode (answer held : KataNodesStatus) : KataNodesStatus where
  nodeCount := answer.nodeCount
  readyNodeCount := answer.readyNodeCount
  installed := decodeList answer.installed held.installed
  installing := decodeList answer.installing held.installing
  waitingToInstall := decodeList answer.waitingToInstall held.waitingToInstall
  failedToInstall := decodeList answer.failedToInstall held.failedToInstall
  uninstalling := decodeList answer.uninstalling held.uninstalling
  waitingToUninstall := decodeList answer.waitingToUninstall held.waitingToUninstall
  failedToUninstall := decodeList answer.failedToUninstall held.failedToUninstall

def KataConfigStatus.decode (answer held : KataConfigStatus) : KataConfigStatus where
  runtimeClasses := decodeList answer.runtimeClasses held.runtimeClasses
  kataNodes := answer.kataNodes.decode held.kataNodes
  conditions := decodeList answer.conditions held.conditions
  waitingForMcoToStart := answer.waitingForMcoToStart

/-- The `KataConfig` a client holds after the server answered its write. -/
def decodeKataConfig (answer held : KataConfig) : KataConfig where
  metadata := answer.metadata
  body := show KataConfigBody from
    { spec := specOf answer
      status := some (match (show KataConfigBody from answer.body).status with
        | none => statusOf held
        | some stored => stored.decode (statusOf held)) }

end SandboxedContainers
