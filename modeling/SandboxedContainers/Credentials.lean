import SandboxedContainers.Lib.Trim
import SandboxedContainers.PeerPods

/-!
# Credentials for peer pods

The controller that sees to `peer-pods-secret`.  A user may provide it; otherwise,
when peer pods are enabled, it comes from the environment of the operator on a
cluster with token-based authentication, or from a `cco-secret` that the cloud
credential operator is asked for.

A value in a secret is a sequence of bytes; its text here has one character for each.
-/

namespace SandboxedContainers

open Lib

/-- What third-party code does for the controller: it decodes a shipped file, reads the
`type` of a JSON document, which an empty text is not, and writes a string as JSON. -/
structure CredentialsSettings extends Settings where
  parseCredentialsRequestYAML : String → Option CredentialsRequest
  credentialType : String → Option String
  credentialType_empty : credentialType "" = none
  jsonString : String → String

def peerPodsSecretName : String := "peer-pods-secret"
def credentialsRequestSecretRefName : String := "cco-secret"

def peerPodsSecretKey : Key := ⟨operatorNamespace, peerPodsSecretName⟩
def ccoSecretKey : Key := ⟨operatorNamespace, credentialsRequestSecretRefName⟩

def labelExplicitDeletion : String := "kataconfiguration.openshift.io/explicit-deletion"
def labelCredentialsRequest : String := "kataconfiguration.openshift.io/credentials-request-based"

def getPeerPodsSecret : Op Err Secret := clientGet .secret peerPodsSecretKey

def needsExplicitDeletion (secret : Secret) : Bool :=
  StrMap.getD secret.metadata.labels labelExplicitDeletion ≠ ""

def isOwnedByCCOSecret (secret : Secret) : Bool :=
  secret.metadata.ownerReferences.any fun owner =>
    owner.kind = "Secret" && owner.name = credentialsRequestSecretRefName

section Mapping

/-- The characters that `unicode.IsSpace` accepts, in UTF-8. -/
def spaces : List (List Char) :=
  [[0x09], [0x0a], [0x0b], [0x0c], [0x0d], [0x20], [0xc2, 0x85], [0xc2, 0xa0], [0xe1, 0x9a, 0x80],
   [0xe2, 0x80, 0x80], [0xe2, 0x80, 0x81], [0xe2, 0x80, 0x82], [0xe2, 0x80, 0x83], [0xe2, 0x80, 0x84],
   [0xe2, 0x80, 0x85], [0xe2, 0x80, 0x86], [0xe2, 0x80, 0x87], [0xe2, 0x80, 0x88], [0xe2, 0x80, 0x89],
   [0xe2, 0x80, 0x8a], [0xe2, 0x80, 0xa8], [0xe2, 0x80, 0xa9], [0xe2, 0x80, 0xaf], [0xe2, 0x81, 0x9f],
   [0xe3, 0x80, 0x80]].map (List.map Char.ofNat)

def trimSpace (text : List Char) : List Char := Trim.trim spaces text

/-- `strings.SplitN` at the first equals sign, if there is one. -/
def cutEquals (text : List Char) : Option (List Char × List Char) :=
  match text.span (· ≠ '=') with
  | (_, []) => none
  | (key, _ :: value) => some (key, value)

def ccoToPp : List (String × String) :=
  [("aws_access_key_id", "AWS_ACCESS_KEY_ID"), ("aws_secret_access_key", "AWS_SECRET_ACCESS_KEY"),
   ("azure_subscription_id", "AZURE_SUBSCRIPTION_ID"), ("azure_client_id", "AZURE_CLIENT_ID"),
   ("azure_client_secret", "AZURE_CLIENT_SECRET"), ("azure_tenant_id", "AZURE_TENANT_ID"),
   ("azure_federated_token_file", "AZURE_FEDERATED_TOKEN_FILE")]

def stsFieldMap : List (String × String) :=
  [("role_arn", "AWS_ROLE_ARN"), ("web_identity_token_file", "AWS_WEB_IDENTITY_TOKEN_FILE")]

/-- The entries that keep their value under another name.  No two keys of the table
become the same, so it does not matter which of the two maps is walked through. -/
def mapEntries (ccoSecretData : StrMap) : StrMap :=
  ccoToPp.foldl (fun data entry => match ccoSecretData.lookup entry.1 with
    | some value => data.insert entry.2 value
    | none => data) ∅

def mapSTSLine (data : StrMap) (line : List Char) : StrMap :=
  match cutEquals (trimSpace line) with
  | none => data
  | some (key, value) =>
    match stsFieldMap.lookup (String.ofList (trimSpace key)) with
    | none => data
    | some ppKey => data.insert ppKey (String.ofList (trimSpace value))

def mapSTSCredentials (data : StrMap) (credFile : String) : StrMap :=
  (credFile.toList.splitOn '\n').foldl mapSTSLine data

/-- A document that does not parse is skipped. -/
def mapServiceAccount (settings : CredentialsSettings) (data : StrMap) (saJSON : String) : StrMap :=
  match settings.credentialType saJSON with
  | none => data
  | some type =>
    if type = "external_account" then data.insert "GCP_WIF_CREDENTIALS" saJSON
    else data.insert "GCP_CREDENTIALS" saJSON

def ccoDataMapping (settings : CredentialsSettings) (ccoSecretData : StrMap) : StrMap :=
  if ccoSecretData = ∅ then ∅
  else
    let mapped := mapEntries ccoSecretData
    let withSTS := match ccoSecretData.lookup "credentials" with
      | some credFile => mapSTSCredentials mapped credFile
      | none => mapped
    match ccoSecretData.lookup "service_account.json" with
    | some saJSON => mapServiceAccount settings withSTS saJSON
    | none => withSTS

end Mapping

section Secrets

/-- `controllerutil.SetOwnerReference`. -/
def setOwnerReference (owner secret : Secret) : Op Err Secret :=
  if owner.metadata.ns ≠ secret.metadata.ns then
    Routine.throw (.new "cross-namespace owner references are disallowed")
  else
    pure { secret with metadata := { secret.metadata with
      ownerReferences := upsert referent ⟨"Secret", owner.metadata.name, owner.metadata.uid, false⟩
        secret.metadata.ownerReferences } }

def filledSecret (data : StrMap) (labels : List (String × String)) (secret : Secret) : Secret :=
  ⟨{ secret.metadata with labels := StrMap.copy secret.metadata.labels labels },
    show SecretBody from ⟨data⟩⟩

def mutateSecret (data : StrMap) (owner : Option Secret) (labels : List (String × String)) (secret : Secret) :
    Op Err Secret :=
  match owner with
  | none => pure (filledSecret data labels secret)
  | some owner => setOwnerReference owner (filledSecret data labels secret)

def createOrUpdateSecret (key : Key) (data : StrMap) (owner : Option Secret) (labels : List (String × String)) :
    Op Err PUnit :=
  createOrUpdate .secret key (show SecretBody from ⟨∅⟩) (mutateSecret data owner labels)

end Secrets

section Handlers

variable (settings : CredentialsSettings)

/-- `SecretReconciler.Reconcile`: the `cco-secret` is mapped, unless there is a
`peer-pods-secret` of other origin. -/
def reconcileSecret {ε : Type} : Op ε Result := do
  match ← Routine.attempt (clientGet .secret ccoSecretKey) with
  | .error error => if error.isNotFound then return {} else return ⟨true, 0⟩
  | .ok ccoSecret =>
    match ← Routine.attempt getPeerPodsSecret with
    | .error error => if error.isNotFound then mapCCOSecret ccoSecret else return ⟨true, 0⟩
    | .ok peerPodsSecret =>
      if isOwnedByCCOSecret peerPodsSecret then mapCCOSecret ccoSecret else return {}
where
  mapCCOSecret (ccoSecret : Secret) : Op ε Result := do
    let written ← Routine.attempt (createOrUpdateSecret peerPodsSecretKey
      (ccoDataMapping settings (secretDataOf ccoSecret)) (some ccoSecret) [(labelCredentialsRequest, "true")])
    match written with
    | .ok _ => return {}
    | .error _ => return ⟨true, 0⟩

def tokenPath : String := "/var/run/secrets/openshift/serviceaccount/token"

/-- The JSON document, with its keys in order. -/
def gcpWIFDocument (audience serviceAccountEmail tokenPath : String) : String :=
  let impersonation := "https://iamcredentials.googleapis.com/v1/projects/-/serviceAccounts/" ++
    serviceAccountEmail ++ ":generateAccessToken"
  "\x7b\"audience\":" ++ settings.jsonString audience ++
    ",\"credential_source\":\x7b\"file\":" ++ settings.jsonString tokenPath ++
    ",\"format\":\x7b\"type\":\"text\"\x7d\x7d" ++
    ",\"service_account_impersonation_url\":" ++ settings.jsonString impersonation ++
    ",\"subject_token_type\":\"urn:ietf:params:oauth:token-type:jwt\"" ++
    ",\"token_url\":\"https://sts.googleapis.com/v1/token\",\"type\":\"external_account\"\x7d"

def buildGCPWIFCredentials (audience serviceAccountEmail tokenPath : String) : Op Err String :=
  if audience = "" then Routine.throw (.new "GCP WIF audience is empty")
  else if serviceAccountEmail = "" then Routine.throw (.new "GCP WIF service account email is empty")
  else if tokenPath = "" then Routine.throw (.new "GCP WIF token path is empty")
  else return gcpWIFDocument settings audience serviceAccountEmail tokenPath

/-- The audience that is set, or the one its parts make up. -/
def gcpAudience : String :=
  let audience := settings.getenv "AUDIENCE"
  let projectNumber := settings.getenv "PROJECT_NUMBER"
  let poolID := settings.getenv "POOL_ID"
  let providerID := settings.getenv "PROVIDER_ID"
  if audience = "" && projectNumber ≠ "" && poolID ≠ "" && providerID ≠ "" then
    "//iam.googleapis.com/projects/" ++ projectNumber ++ "/locations/global/workloadIdentityPools/" ++
      poolID ++ "/providers/" ++ providerID
  else audience

/-- The credentials found in the environment: of Azure, else of AWS, else of GCP. -/
def envCredentials : Op Err (Option StrMap) := do
  let clientID := settings.getenv "CLIENTID"
  let tenantID := settings.getenv "TENANTID"
  let subscriptionID := settings.getenv "SUBSCRIPTIONID"
  let roleARN := settings.getenv "ROLEARN"
  let gcpServiceAccount := settings.getenv "SERVICE_ACCOUNT_EMAIL"
  if clientID ≠ "" && tenantID ≠ "" && subscriptionID ≠ "" then
    return some (StrMap.ofList [("AZURE_CLIENT_ID", clientID), ("AZURE_TENANT_ID", tenantID),
      ("AZURE_SUBSCRIPTION_ID", subscriptionID), ("AZURE_FEDERATED_TOKEN_FILE", tokenPath)])
  else if roleARN ≠ "" then
    return some (StrMap.ofList [("AWS_ROLE_ARN", roleARN), ("AWS_WEB_IDENTITY_TOKEN_FILE", tokenPath)])
  else if gcpServiceAccount ≠ "" && gcpAudience settings ≠ "" then
    let wifCreds ← buildGCPWIFCredentials settings (gcpAudience settings) gcpServiceAccount tokenPath
    return some (StrMap.ofList [("GCP_WIF_CREDENTIALS", wifCreds)])
  else return none

def trySetupCredentialsFromEnv : Op Err Bool := do
  match ← envCredentials settings with
  | none => return false
  | some secretData =>
    createOrUpdateSecret peerPodsSecretKey secretData none [(labelExplicitDeletion, "true")]
    return true

/-- A provider for which no file is shipped has no request. -/
def getCredentialsRequest : Op Err (Option CredentialsRequest) := do
  let provider ← getCloudProviderFromInfra
  match ← Routine.attempt
      (readFile ("/config/peerpods/credentials-requests/credentials_request_" ++ provider ++ ".yaml")) with
  | .error error => if error.isNotFound then return none else Routine.throw error
  | .ok yamlData =>
    match settings.parseCredentialsRequestYAML yamlData with
    | none => Routine.throw (.new "error converting YAML to JSON")
    | some credentialsRequest => return some credentialsRequest

def createCredentialsRequests : Op Err PUnit := do
  match ← getCredentialsRequest settings with
  | none => return ⟨⟩
  | some credentialsRequest =>
    match ← Routine.attempt (clientCreate credentialsRequest) with
    | .ok _ => return ⟨⟩
    | .error error => if error.isAlreadyExists then return ⟨⟩ else Routine.throw error

def deleteCredentialsRequests : Op Err PUnit := do
  match ← getCredentialsRequest settings with
  | none => return ⟨⟩
  | some credentialsRequest =>
    match ← Routine.attempt (clientDelete .credentialsRequest credentialsRequest.key) with
    | .ok _ => return ⟨⟩
    | .error error => if error.isNotFound || error.isGone then return ⟨⟩ else Routine.throw error

def setupPeerPodsCredentials : Op Err Bool := do
  match ← Routine.attempt getPeerPodsSecret with
  | .ok _ => return false
  | .error error =>
    if !error.isNotFound then Routine.throw error
    else if ← isClusterInTokenBasedAuthMode then
      let _ ← trySetupCredentialsFromEnv settings
      return true
    else
      createCredentialsRequests settings
      return true

def teardownPeerPodsCredentials : Op Err Bool := do
  match ← Routine.attempt getPeerPodsSecret with
  | .error _ => pure ⟨⟩
  | .ok peerPodsSecret =>
    if needsExplicitDeletion peerPodsSecret then
      match ← Routine.attempt (clientDelete .secret peerPodsSecret.key) with
      | .ok _ => pure ⟨⟩
      | .error error => if !error.isNotFound && !error.isGone then Routine.throw error
  deleteCredentialsRequests settings
  return true

def enablesPeerPods (kataConfig : KataConfig) : Bool := (specOf kataConfig).enablePeerPods

/-- What the `KataConfigHandler` is told; errors are only logged. -/
inductive KataConfigEvent where
  | create (object : KataConfig)
  | update (objectNew : KataConfig)
  | delete (object : KataConfig)

def handleKataConfigEvent {ε : Type} : KataConfigEvent → Op ε PUnit
  | .create object =>
    if enablesPeerPods object then Routine.ignore (setupPeerPodsCredentials settings) else pure ⟨⟩
  | .update objectNew =>
    if enablesPeerPods objectNew then Routine.ignore (setupPeerPodsCredentials settings)
    else Routine.ignore (teardownPeerPodsCredentials settings)
  | .delete object =>
    if enablesPeerPods object then Routine.ignore (teardownPeerPodsCredentials settings) else pure ⟨⟩

end Handlers

end SandboxedContainers
