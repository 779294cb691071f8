import SandboxedContainers.FeatureGates

/-!
# Operands without a part in the rollout

Network policies, the monitor DaemonSet, security context constraints, the node
feature rule, the log level and the dashboard.
-/

namespace SandboxedContainers

open Lib

section NetworkPolicies

def ensureNetworkPolicy (name : String) (spec : NetworkPolicySpec) : Op Err PUnit :=
  createOrUpdate .networkPolicy ⟨operatorNamespace, name⟩ (show NetworkPolicySpec from {}) fun np =>
    setControllerReference
      { np with
        metadata := { np.metadata with annotations := ∅ }
        body := show NetworkPolicySpec from spec }

def ensureNetworkPolicies : List (String × NetworkPolicySpec) → Op Err PUnit
  | [] => pure ⟨⟩
  | (name, spec) :: rest => do
    ensureNetworkPolicy name spec
    ensureNetworkPolicies rest

def deleteNetworkPolicy (name : String) : Op Err PUnit :=
  deleteIfPresent .networkPolicy ⟨operatorNamespace, name⟩

def deleteNetworkPolicies : List String → Op Err PUnit
  | [] => pure ⟨⟩
  | name :: rest => do
    deleteNetworkPolicy name
    deleteNetworkPolicies rest

def defaultDenySpec (podSelector : List (String × String)) : NetworkPolicySpec :=
  { podSelector := podSelector, policyTypes := [.ingress, .egress] }

def allowAllEgressSpec (podSelector : List (String × String)) : NetworkPolicySpec :=
  { podSelector := podSelector, policyTypes := [.egress], egress := [{}] }

def allowDNSEgressSpec (podSelector : List (String × String)) : NetworkPolicySpec :=
  { podSelector := podSelector
    policyTypes := [.egress]
    egress := [{ namespaces := [("kubernetes.io/metadata.name", "openshift-dns")]
                 ports := [("TCP", 5353), ("UDP", 5353)] }] }

def allowIngressSpec (podSelector : List (String × String)) (port : Nat) : NetworkPolicySpec :=
  { podSelector := podSelector, policyTypes := [.ingress], ingress := [{ ports := [("TCP", port)] }] }

def allowHostNetworkIngressSpec (podSelector : List (String × String)) (port : Nat) :
    NetworkPolicySpec :=
  { podSelector := podSelector
    policyTypes := [.ingress]
    ingress := [{ namespaces := [("policy-group.network.openshift.io/host-network", "")]
                  ports := [("TCP", port)] }] }

def egressOnlyPolicies (operand : String) (labels : List (String × String)) :
    List (String × NetworkPolicySpec) :=
  [(operand ++ "-deny-all", defaultDenySpec labels),
   (operand ++ "-allow-egress", allowAllEgressSpec labels)]

def kataMonitorNetworkPolicies : List (String × NetworkPolicySpec) :=
  let labels := [("name", "openshift-sandboxed-containers-monitor")]
  [("kata-monitor-deny-all", defaultDenySpec labels),
   ("kata-monitor-allow-metrics-ingress", allowIngressSpec labels 8443),
   ("kata-monitor-allow-dns-egress", allowDNSEgressSpec labels)]

def peerPodsWebhookNetworkPolicies : List (String × NetworkPolicySpec) :=
  let labels := [("app", "peer-pods-webhook")]
  [("peer-pods-webhook-deny-all", defaultDenySpec labels),
   ("peer-pods-webhook-allow-webhook-ingress", allowHostNetworkIngressSpec labels 9443),
   ("peer-pods-webhook-allow-metrics-ingress", allowIngressSpec labels 8443),
   ("peer-pods-webhook-allow-dns-egress", allowDNSEgressSpec labels),
   ("peer-pods-webhook-allow-apiserver-egress", allowAllEgressSpec labels)]

def kataInstallNetworkPolicies : List (String × NetworkPolicySpec) :=
  egressOnlyPolicies "kata-install" [("name", "osc-rpm-install")]

def kataUninstallNetworkPolicies : List (String × NetworkPolicySpec) :=
  egressOnlyPolicies "kata-uninstall" [("name", "osc-rpm-uninstall")]

def podVMImageCreationNetworkPolicies : List (String × NetworkPolicySpec) :=
  egressOnlyPolicies "podvm-image-creation" [("job-name", "osc-podvm-image-creation")]

def podVMImageDeletionNetworkPolicies : List (String × NetworkPolicySpec) :=
  egressOnlyPolicies "podvm-image-deletion" [("job-name", "osc-podvm-image-deletion")]

def createKataMonitorNetworkPolicies : Op Err PUnit := ensureNetworkPolicies kataMonitorNetworkPolicies
def deleteKataMonitorNetworkPolicies : Op Err PUnit :=
  deleteNetworkPolicies (kataMonitorNetworkPolicies.map Prod.fst)

def createPeerPodsWebhookNetworkPolicies : Op Err PUnit :=
  ensureNetworkPolicies peerPodsWebhookNetworkPolicies
def deletePeerPodsWebhookNetworkPolicies : Op Err PUnit :=
  deleteNetworkPolicies (peerPodsWebhookNetworkPolicies.map Prod.fst)

def createKataInstallNetworkPolicies : Op Err PUnit := ensureNetworkPolicies kataInstallNetworkPolicies
def deleteKataInstallNetworkPolicies : Op Err PUnit :=
  deleteNetworkPolicies (kataInstallNetworkPolicies.map Prod.fst)

def createKataUninstallNetworkPolicies : Op Err PUnit :=
  ensureNetworkPolicies kataUninstallNetworkPolicies
def deleteKataUninstallNetworkPolicies : Op Err PUnit :=
  deleteNetworkPolicies (kataUninstallNetworkPolicies.map Prod.fst)

def createPodVMImageCreationNetworkPolicies : Op Err PUnit :=
  ensureNetworkPolicies podVMImageCreationNetworkPolicies
def deletePodVMImageCreationNetworkPolicies : Op Err PUnit :=
  deleteNetworkPolicies (podVMImageCreationNetworkPolicies.map Prod.fst)

def createPodVMImageDeletionNetworkPolicies : Op Err PUnit :=
  ensureNetworkPolicies podVMImageDeletionNetworkPolicies
def deletePodVMImageDeletionNetworkPolicies : Op Err PUnit :=
  deleteNetworkPolicies (podVMImageDeletionNetworkPolicies.map Prod.fst)

end NetworkPolicies

section SecurityContextConstraints

def getScc : Object Kind.securityContextConstraints :=
  ⟨{ name := "sandboxed-containers-operator-scc" },
    show SecurityContextConstraintsBody from
      { allowHostDirVolumePlugin := true
        runAsUser := "MustRunAsNonRoot"
        seLinuxContext := "RunAsAny"
        users := ["system:serviceaccount:" ++ operatorNamespace ++ ":monitor"]
        volumes := ["*"] }⟩

def createScc : Op Err PUnit := do
  let scc ← setControllerReference getScc
  match ← Routine.attempt (clientGet .securityContextConstraints scc.key) with
  | .ok _ => return ⟨⟩
  | .error error =>
    if !error.isNotFound then
      Routine.throw error
    let _ ← clientCreate scc
    return ⟨⟩

def deleteScc : Op Err PUnit := deleteIfPresent .securityContextConstraints getScc.key

def kataInstallSccBody : SecurityContextConstraintsBody :=
  { allowPrivilegedContainer := true
    allowHostDirVolumePlugin := true
    allowHostPID := true
    runAsUser := "RunAsAny"
    seLinuxContext := "RunAsAny"
    users := ["system:serviceaccount:" ++ operatorNamespace ++ ":kata-install"]
    volumes := ["hostPath", "secret", "configMap"] }

def ensureKataInstallSCC : Op Err PUnit :=
  (createOrUpdate .securityContextConstraints ⟨"", "kata-install-scc"⟩
    (show SecurityContextConstraintsBody from {}) fun scc =>
      pure { scc with body := show SecurityContextConstraintsBody from kataInstallSccBody }).orElse
    (.wrap "failed to create or update SecurityContextConstraints: ")

def deleteKataInstallScc : Op Err PUnit :=
  deleteIfPresent .securityContextConstraints ⟨"", "kata-install-scc"⟩

end SecurityContextConstraints

section Monitor

variable (settings : Settings)

def monitorName : String := "openshift-sandboxed-containers-monitor"

def tlsArguments : List String :=
  match settings.tlsProfile with
  | none => []
  | some (version, ciphers) => ["--tls-min-version=" ++ version, "--tls-cipher-suites=" ++ ciphers]

def processDaemonsetForMonitor {ε : Type} (certVersion : String) : Op ε DaemonSet := do
  let nodeSelector ← getNodeSelectorAsMap
  return ⟨{ name := monitorName, ns := operatorNamespace },
    show PodTemplate from
      { labels := [("name", monitorName)]
        annotations := [("kata-monitor-certs/version", certVersion)]
        serviceAccountName := "monitor"
        nodeSelector := StrMap.ofList nodeSelector
        containers := [
          { name := "kata-monitor"
            image := settings.getenv "RELATED_IMAGE_KATA_MONITOR"
            command := ["/usr/bin/kata-monitor", "--listen-address=:8443", "--log-level=debug",
              "--runtime-endpoint=/run/crio/crio.sock",
              "--tls-cert-file=/etc/kata-monitor/certs/tls.crt",
              "--tls-key-file=/etc/kata-monitor/certs/tls.key"] ++ tlsArguments settings
            volumeMounts := [⟨"crio-sock", "/run/crio/"⟩, ⟨"sbs", "/run/vc/sbs/"⟩,
              ⟨"kata-monitor-certs", "/etc/kata-monitor/certs/"⟩] }]
        volumes := [⟨"crio-sock", .hostPath "/run/crio/"⟩, ⟨"sbs", .hostPath "/run/vc/sbs/"⟩,
          ⟨"kata-monitor-certs", .secret "kata-monitor-certs"⟩] }⟩

def createDaemonsetForMonitor : Op Err PUnit := do
  let certVersion ← getSecretVersion "kata-monitor-certs"
  let ds ← setControllerReference
    (← processDaemonsetForMonitor settings ((certVersion.map toString).getD ""))
  createKataMonitorNetworkPolicies
  match ← Routine.attempt (clientGet .daemonSet ds.key) with
  | .error error =>
    if !error.isNotFound then
      Routine.throw error
    let _ ← clientCreate ds
    return ⟨⟩
  | .ok _ =>
    let _ ← clientUpdate ds
    return ⟨⟩

def deleteDaemonsetForMonitor : Op Err PUnit := do
  let ds ← processDaemonsetForMonitor settings ""
  deleteIfPresent .daemonSet ds.key
  deleteKataMonitorNetworkPolicies

end Monitor

section NodeFeatureRule

def oscNodeTypeRuleKey : Key := ⟨"openshift-nfd", "osc-node-type"⟩

/-- Labels by the CPUID bits that are present or absent. -/
def oscNodeTypeRule : List FeatureRule :=
  [⟨"osc-bare-metal-node", [(nodeTypeLabelKey, "bare-metal"), (kataCapableLabelKey, "true")],
     [("HYPERVISOR", false)]⟩,
   ⟨"osc-virtual-node", [(nodeTypeLabelKey, "virtual")], [("HYPERVISOR", true)]⟩,
   ⟨"osc-nested-virt-intel", [(kataCapableLabelKey, "true"), (nestedVirtLabelKey, "true")],
     [("HYPERVISOR", true), ("VMX", true)]⟩,
   ⟨"osc-nested-virt-amd", [(kataCapableLabelKey, "true"), (nestedVirtLabelKey, "true")],
     [("HYPERVISOR", true), ("SVM", true)]⟩]

def ensureNodeFeatureRule : Op Err PUnit :=
  createOrUpdate .nodeFeatureRule oscNodeTypeRuleKey (show List FeatureRule from []) fun rule =>
    setControllerReference { rule with body := show List FeatureRule from oscNodeTypeRule }

def nodeFeatureRuleExists : Op Err Bool := do
  match ← Routine.attempt (clientGet .nodeFeatureRule oscNodeTypeRuleKey) with
  | .ok _ => return true
  | .error error =>
    if error.isNotFound || error.isNoMatchError then return false else Routine.throw error

def deleteNodeFeatureRule : Op Err PUnit := do
  match ← Routine.attempt (clientDelete .nodeFeatureRule oscNodeTypeRuleKey) with
  | .ok _ => return ⟨⟩
  | .error error =>
    if error.isNotFound || error.isNoMatchError then return ⟨⟩ else Routine.throw error

def checkNFDInstalled : Op Err PUnit := do
  match ← Routine.attempt (clientList .nodeFeatureDiscovery) with
  | .error error =>
    if error.isNotFound || error.isNoMatchError then
      Routine.throw (.new ("NFD Operator is not installed: enableMixedCluster requires the Node " ++
        "Feature Discovery Operator and a NodeFeatureDiscovery CR"))
    else Routine.throw error
  | .ok found =>
    if found.isEmpty then
      Routine.throw (.new ("NFD Operator is installed but no NodeFeatureDiscovery CR found: " ++
        "create a NodeFeatureDiscovery CR in openshift-nfd"))

end NodeFeatureRule

section LogLevel

def containerRuntimeConfigKey : Key := ⟨"", "kata-crio-config"⟩

def logLevelOf (config : Object Kind.containerRuntimeConfig) : String :=
  (show ContainerRuntimeConfigBody from config.body).logLevel

def withLogLevel (config : Object Kind.containerRuntimeConfig) (logLevel : String) :
    Object Kind.containerRuntimeConfig :=
  ⟨config.metadata, show ContainerRuntimeConfigBody from
    { (show ContainerRuntimeConfigBody from config.body) with logLevel := logLevel }⟩

def makeContainerRuntimeConfig (desiredLogLevel pool : String) :
    Object Kind.containerRuntimeConfig :=
  ⟨{ name := containerRuntimeConfigKey.name },
    show ContainerRuntimeConfigBody from
      { machineConfigPoolSelector :=
          { matchLabels := [("pools.operator.machineconfiguration.openshift.io/" ++ pool, "")] }
        logLevel := desiredLogLevel }⟩

def effectiveLogLevel (logLevel : String) : String := if logLevel = "" then "info" else logLevel

def processLogLevel (logLevel : String) : Op Err PUnit := do
  let desiredLogLevel := effectiveLogLevel logLevel
  match ← Routine.attempt (clientGet .containerRuntimeConfig containerRuntimeConfigKey) with
  | .error error =>
    if !error.isNotFound then
      Routine.throw error
    if desiredLogLevel = "info" then
      return ⟨⟩
    let pool := if ← isConvergedAndKnown then "master" else "kata-oc"
    let _ ← clientCreate (makeContainerRuntimeConfig desiredLogLevel pool)
    return ⟨⟩
  | .ok found =>
    if logLevelOf found = desiredLogLevel then
      return ⟨⟩
    let _ ← clientUpdate (withLogLevel found desiredLogLevel)
    return ⟨⟩

def removeLogLevel : Op Err PUnit := do
  match ← Routine.attempt (clientGet .containerRuntimeConfig containerRuntimeConfigKey) with
  | .error error => if error.isNotFound then return ⟨⟩ else Routine.throw error
  | .ok _ => clientDelete .containerRuntimeConfig containerRuntimeConfigKey

end LogLevel

def dashboardConfigMapName : String := "grafana-dashboard-sandboxed-containers"

def processDashboardConfigMap {ε : Type} : Op ε (Option ConfigMap) := do
  match ← Routine.attempt (clientGet .configMap ⟨operatorNamespace, dashboardConfigMapName⟩) with
  | .error _ => return none
  | .ok found => return some ⟨{ name := dashboardConfigMapName, ns := "openshift-config-managed"
                                labels := StrMap.ofList [("console.openshift.io/dashboard", "true")] },
      show ConfigMapBody from ⟨dataOf found⟩⟩

end SandboxedContainers
