import SandboxedContainers.RuntimeClasses

/-!
# Config maps, secrets and the operator's surroundings

Helpers shared by the feature-gate handlers, the pod VM image generator and the
DaemonSet builders: reading the cloud provider, the cluster version and the
proxy settings, and editing config maps.
-/

namespace SandboxedContainers

open Lib

def dataOf (configMap : ConfigMap) : Option StrMap := (show ConfigMapBody from configMap.body).data

/-- Reading a missing map yields the empty string. -/
def dataAt (configMap : ConfigMap) (key : String) : String :=
  StrMap.getD ((dataOf configMap).getD ∅) key

def withData (configMap : ConfigMap) (data : StrMap) : ConfigMap :=
  { configMap with body := show ConfigMapBody from ⟨some data⟩ }

/-- Assign to an entry of the data map, which panics when the map is nil. -/
def putData (configMap : ConfigMap) (key value : String) : Op Err ConfigMap :=
  match dataOf configMap with
  | none => Routine.throw (.panic "assignment to entry in nil map")
  | some data => pure (withData configMap (data.insert key value))

/-- Assign the new values that differ; the flag says whether any did. -/
def assignData : ConfigMap → Bool → List (String × String) → Op Err (ConfigMap × Bool)
  | configMap, update, [] => pure (configMap, update)
  | configMap, update, (key, value) :: rest =>
    if dataAt configMap key ≠ value then do
      assignData (← putData configMap key value) true rest
    else assignData configMap update rest

def removeData : ConfigMap → Bool → List (String × String) → ConfigMap × Bool
  | configMap, update, [] => (configMap, update)
  | configMap, update, (key, value) :: rest =>
    match dataOf configMap with
    | none => removeData configMap update rest
    | some data =>
      if data.lookup key = some value then removeData (withData configMap (data.erase key)) true rest
      else removeData configMap update rest

def updateConfigMap (settings : Settings) (cmName : String) (newData keysToRemove : List (String × String)) :
    Op Err PUnit := do
  let configMap ← clientGet .configMap ⟨operatorNamespace, cmName⟩
  let (assigned, update) ← assignData configMap false (settings.rangeOrder.visit newData)
  let (cleaned, changed) := removeData assigned update (settings.rangeOrder.visit keysToRemove)
  if changed then
    let _ ← clientUpdate cleaned
  return ⟨⟩

def peerpodsCMName : String := "peer-pods-cm"

/-- `unstructured.NestedString` on `spec.limit`. -/
def limitOf (peerPodConfig : Object Kind.peerPodConfig) : Option String :=
  show Option String from peerPodConfig.body

def deletePeerPodConfig : Op Err PUnit :=
  clientDelete .peerPodConfig ⟨operatorNamespace, "peerpodconfig-openshift"⟩

def migratePeerPodsLimit : Op Err PUnit := do
  match ← Routine.attempt (clientGet .peerPodConfig ⟨operatorNamespace, "peerpodconfig-openshift"⟩) with
  | .error error =>
    if error.isNoMatchError || error.isNotFound then return ⟨⟩ else Routine.throw error
  | .ok peerPodConfig =>
    match limitOf peerPodConfig with
    | none => deletePeerPodConfig
    | some limitValue =>
      match ← Routine.attempt (clientGet .configMap ⟨operatorNamespace, peerpodsCMName⟩) with
      | .error error => if error.isNotFound then deletePeerPodConfig else Routine.throw error
      | .ok configMap =>
        let _ ← clientUpdate (← putData configMap "PEERPODS_LIMIT_PER_NODE" limitValue)
        deletePeerPodConfig

def clusterVersionOf (object : Object Kind.clusterVersion) : ClusterVersionBody := object.body

def getClusterVersion : Op Err ClusterVersionBody := do
  return clusterVersionOf (← clientGet .clusterVersion ⟨"", "version"⟩)

def platformTypeOf (object : Object Kind.infrastructure) : Option String :=
  show Option String from object.body

def getCloudProviderFromInfra : Op Err String := do
  match platformTypeOf (← clientGet .infrastructure ⟨"", "cluster"⟩) with
  | none =>
    Routine.throw (.new "Infrastructure.status.platformStatus is empty and is not libvirt")
  | some platform => return if platform = "None" then "libvirt" else platform.toLower

/-- The first eight characters of the cluster id; slicing a shorter one panics. -/
def getClusterID : Op Err String := do
  let clusterVersion ← getClusterVersion
  if clusterVersion.clusterID.length < 8 then
    Routine.throw (.panic "slice bounds out of range")
  return (clusterVersion.clusterID.take 8).toString

def contentOf (object : Object Kind.file) : String := show String from object.body

def readFile (path : String) : Op Err String := do
  return contentOf (← clientGet .file ⟨"", path⟩)

def releaseTagsOf (object : Object Kind.releaseInfo) : List ReleaseTag :=
  show List ReleaseTag from object.body

def findImage (componentName : String) (tags : List ReleaseTag) : Option String :=
  tags.findSome? fun tag => if tag.name = componentName then tag.dockerImage else none

def getImageForComponent (componentName : String) : Op Err String := do
  let clusterVersion ← getClusterVersion.orElse (.wrap "failed to get cluster version: ")
  if clusterVersion.desiredImage = "" then
    Routine.throw (.new "no release image found in cluster version")
  let releaseInfo ← clientGet .releaseInfo ⟨"", clusterVersion.desiredImage⟩
  match findImage componentName (releaseTagsOf releaseInfo) with
  | some image => return image
  | none => Routine.throw (.new "empty result for image name")

def proxyOf (object : Object Kind.proxy) : ProxyBody := object.body

def proxyEntries (canonical lower value : String) : List (String × String) :=
  if value = "" then [] else [(canonical, value), (lower, value)]

def getProxyCREnvVars : Op Err (List (String × String)) := do
  match ← Routine.attempt (clientGet .proxy ⟨"", "cluster"⟩) with
  | .error error => if error.isNotFound then return [] else Routine.throw error
  | .ok found =>
    let proxy := proxyOf found
    let noProxy := if proxy.statusNoProxy = "" then proxy.noProxy else proxy.statusNoProxy
    return proxyEntries "HTTP_PROXY" "http_proxy" proxy.httpProxy ++
      proxyEntries "HTTPS_PROXY" "https_proxy" proxy.httpsProxy ++
      proxyEntries "NO_PROXY" "no_proxy" noProxy

section Proxy

variable (settings : Settings)

/-- A variable that is set counts even when it is empty. -/
def getProxyEnvVars : List (String × String) :=
  [("HTTP_PROXY", "http_proxy"), ("HTTPS_PROXY", "https_proxy"), ("NO_PROXY", "no_proxy")].flatMap
    fun names => match settings.lookupEnv names.1 with
      | none => []
      | some value => [(names.1, value), (names.2, value)]

/-- The entries of a map to which `later` has been copied. -/
def overlay (earlier later : List (String × String)) : List (String × String) :=
  earlier.filter (fun entry => !later.any fun newer => newer.1 = entry.1) ++ later

def getEffectiveProxyEnvVars : Op Err (List EnvVar) := do
  let fromCluster ← getProxyCREnvVars
  let effective := overlay fromCluster (getProxyEnvVars settings)
  return (settings.rangeOrder.visit effective).map fun entry => ⟨entry.1, entry.2⟩

end Proxy

def trustedCAVolume : Volume × VolumeMount :=
  (⟨"trusted-ca", .configMap "trusted-ca"⟩, ⟨"trusted-ca", "/etc/pki/ca-trust/extracted/pem"⟩)

def generateTrustedCAVolumeConfig {ε : Type} : Op ε (Option (Volume × VolumeMount)) := do
  match ← Routine.attempt (clientGet .configMap ⟨operatorNamespace, "trusted-ca"⟩) with
  | .ok _ => return some trustedCAVolume
  | .error error =>
    if !error.isNotFound then
      return none
    match ← Routine.attempt (clientGet .proxy ⟨"", "cluster"⟩) with
    | .error _ => return none
    | .ok found =>
      if (proxyOf found).trustedCA = "" then
        return none
      let bundle : ConfigMap :=
        ⟨{ name := "trusted-ca", ns := operatorNamespace,
           labels := StrMap.ofList [("config.openshift.io/inject-trusted-cabundle", "true")] },
          show ConfigMapBody from ⟨some (StrMap.ofList [("ca-bundle.crt", "")])⟩⟩
      match ← Routine.attempt (setControllerReference bundle >>= clientCreate) with
      | .error _ => return none
      | .ok _ => return some trustedCAVolume

def secretDataOf (secret : Secret) : StrMap := (show SecretBody from secret.body).data

def createAuthJsonSecret : Op Err PUnit := do
  let pullSecret ← clientGet .secret ⟨"openshift-config", "pull-secret"⟩
  let authJsonSecret : Secret := ⟨{ name := "auth-json-secret", ns := operatorNamespace },
    show SecretBody from
      ⟨StrMap.ofList [("auth.json", StrMap.getD (secretDataOf pullSecret) ".dockerconfigjson")]⟩⟩
  match ← Routine.attempt (clientCreate authJsonSecret) with
  | .ok _ => return ⟨⟩
  | .error error =>
    if !error.isAlreadyExists then
      Routine.throw error
    let _ ← clientUpdate authJsonSecret
    return ⟨⟩

def versionOf (k : Kind) (key : Key) : Op Err (Option Nat) := do
  match ← Routine.attempt (clientGet k key) with
  | .ok object => return some object.metadata.resourceVersion
  | .error error => if error.isNotFound then return none else Routine.throw error

def getConfigMapVersion (name : String) : Op Err (Option Nat) :=
  versionOf .configMap ⟨operatorNamespace, name⟩

def getSecretVersion (name : String) : Op Err (Option Nat) :=
  versionOf .secret ⟨operatorNamespace, name⟩

def deleteIfPresent (k : Kind) (key : Key) : Op Err PUnit := do
  match ← Routine.attempt (clientDelete k key) with
  | .ok _ => return ⟨⟩
  | .error error => if error.isNotFound then return ⟨⟩ else Routine.throw error

end SandboxedContainers
