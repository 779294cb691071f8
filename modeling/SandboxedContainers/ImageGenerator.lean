import SandboxedContainers.Surroundings

/-!
# Pod VM images

The image generator: a process-wide object that is initialised on first use and
runs one job to create and one to delete the pod VM image of the cloud provider.
-/

namespace SandboxedContainers

open Lib

/-- What image creation and deletion report.  The source gives one number to all
failures and one to both unknown states. -/
inductive ImageStatus where
  | imageCreatedSuccessfully
  | imageDeletedSuccessfully
  | requeueNeeded
  | imageJobRunning
  | imageJobCompleted
  | imageJobFailed
  | unsupportedPodVMImageProvider
  | imageFailed
  | imageStatusUnknown
  deriving DecidableEq, Repr

def errInitializingImageGenerator : Err := .new "error initializing ImageGenerator instance"
def errUnsupportedCloudProvider : Err := .new "unsupported cloud provider, skipping image creation"
def errValidatingPeerPodsConfigs : Err := .new "error validating peer-pods-cm and peer-pods-secret"
def errCreatingImageConfigMap : Err := .new "error creating podvm image configMap from file"
def errUpdatingImageConfigMap : Err := .new "error updating podvm image configMap"
def errCreatingImageJob : Err := .new "error creating image job from yaml file"
def errCheckingJobStatus : Err := .new "error checking job status"

def unsupportedCloudProvider : String := "unsupported"
def peerpodsImageJobsPathLocation : String := "/config/peerpods/podvm"

def imageIDKeyOf : String → Option String
  | "aws" => some "PODVM_AMI_ID"
  | "azure" => some "AZURE_IMAGE_ID"
  | "gcp" => some "PODVM_IMAGE_NAME"
  | "libvirt" => some "LIBVIRT_IMAGE_ID"
  | "ibmcloud" => some "IBMCLOUD_PODVM_IMAGE_ID"
  | _ => none

/-- The number written in decimal digits, of which there is at least one. -/
def parseDigits (digits : List Char) : Option Nat :=
  if digits.isEmpty then none
  else digits.foldlM (fun value c => if c.isDigit then some (value * 10 + (c.toNat - '0'.toNat)) else none) 0

/-- `strconv.Atoi` on the trimmed content of the FIPS file. -/
def parseFips (content : String) : Option Int :=
  let trimmed := (content.toList.dropWhile isBlank).reverse.dropWhile isBlank |>.reverse
  let value := match trimmed with
    | '+' :: digits => (parseDigits digits).map Int.ofNat
    | '-' :: digits => (parseDigits digits).map fun value => -Int.ofNat value
    | digits => (parseDigits digits).map Int.ofNat
  value.filter fun value => -2 ^ 63 ≤ value && value < 2 ^ 63
where
  isBlank (c : Char) : Bool := c = '\n' || c = '\t' || c = ' '

section

variable (settings : Settings)

def cloudProvider : Op Err String :=
  if settings.getenv "PROVIDER_OVERRIDE" ≠ "" then pure (settings.getenv "PROVIDER_OVERRIDE")
  else getCloudProviderFromInfra.orElse fun error =>
    .new ("failed to get cloud provider from infra: " ++ error.message)

/-- Turn an error into a plain one with a text in front; a panic stays a panic. -/
def describe (text : String) : Err → Err
  | .panic reason => .panic reason
  | error => .new (text ++ error.message)

def newImageGenerator : Op Err ImageGenerator := do
  if !settings.inCluster then
    Routine.throw (.new "failed to get in-cluster config")
  let content ← (readFile "/proc/sys/crypto/fips_enabled").orElse (describe "failed to read FIPS file: ")
  match parseFips content with
  | none => Routine.throw (.new "failed to convert FIPS file content to int")
  | some fips =>
    let provider ← cloudProvider settings
    let clusterID ← getClusterID.orElse (describe "failed to get cluster ID: ")
    return { provider := if (imageIDKeyOf provider).isSome then provider else unsupportedCloudProvider
             clusterId := clusterID
             cmImageIDKey := (imageIDKeyOf provider).getD ""
             fips := fips = 1 }

/-- The generator is built once; a failed attempt is repeated by the next call. -/
def initializeImageGenerator : Op Err ImageGenerator := do
  match (← reconciler).ig with
  | some ig => return ig
  | none =>
    let ig ← newImageGenerator settings
    Routine.modify fun r => { r with ig := some ig }
    return ig

end

namespace ImageGenerator

def getPeerPodsCM : Op Err ConfigMap := clientGet .configMap ⟨operatorNamespace, peerpodsCMName⟩

def isImageIDSet {ε : Type} (ig : ImageGenerator) : Op ε Bool := do
  match ← Routine.attempt getPeerPodsCM with
  | .error _ => return false
  | .ok peerPodsCM => return dataAt peerPodsCM ig.cmImageIDKey ≠ ""

def getImageID (ig : ImageGenerator) : Op Err String := do
  return dataAt (← getPeerPodsCM) ig.cmImageIDKey

def getImageConfigMapName (ig : ImageGenerator) : String := ig.provider ++ "-podvm-image-cm"

def checkKeysPresentAndNotEmpty (data : StrMap) (keys : List String) : Bool :=
  keys.all fun key => StrMap.getD data key ≠ ""

def checkAnyKeyPresentWithValue (data : StrMap) (keys : List String) : Bool :=
  keys.any fun key => StrMap.getD data key ≠ ""

/-- The keys a provider needs in `peer-pods-secret` and in `peer-pods-cm`. -/
def credentialsPresent (provider : String) (secret : StrMap) : Bool :=
  match provider with
  | "aws" => checkKeysPresentAndNotEmpty secret ["AWS_ACCESS_KEY_ID", "AWS_SECRET_ACCESS_KEY"] ||
      checkKeysPresentAndNotEmpty secret ["AWS_ROLE_ARN", "AWS_WEB_IDENTITY_TOKEN_FILE"]
  | "azure" =>
    checkKeysPresentAndNotEmpty secret
      ["AZURE_TENANT_ID", "AZURE_CLIENT_ID", "AZURE_SUBSCRIPTION_ID", "AZURE_CLIENT_SECRET"] ||
    checkKeysPresentAndNotEmpty secret
      ["AZURE_TENANT_ID", "AZURE_CLIENT_ID", "AZURE_SUBSCRIPTION_ID", "AZURE_FEDERATED_TOKEN_FILE"]
  | "gcp" => checkKeysPresentAndNotEmpty secret ["GCP_CREDENTIALS"] ||
      checkKeysPresentAndNotEmpty secret ["GCP_WIF_CREDENTIALS"]
  | "libvirt" => checkKeysPresentAndNotEmpty secret ["CLOUD_PROVIDER", "LIBVIRT_URI"]
  | _ => checkAnyKeyPresentWithValue secret ["IBMCLOUD_IAM_PROFILE_ID", "IBMCLOUD_API_KEY"]

def requiredConfigMapKeys : String → Option (List String)
  | "aws" => some ["AWS_REGION", "AWS_SUBNET_ID", "AWS_VPC_ID", "AWS_SG_IDS", "CLOUD_PROVIDER"]
  | "azure" => some ["AZURE_RESOURCE_GROUP", "AZURE_REGION", "CLOUD_PROVIDER"]
  | "gcp" => some ["GCP_PROJECT_ID", "GCP_ZONE", "CLOUD_PROVIDER"]
  | "libvirt" => some ["CLOUD_PROVIDER", "LIBVIRT_POOL", "LIBVIRT_VOL_NAME", "LIBVIRT_DIR_NAME"]
  | "ibmcloud" => some ["CLOUD_PROVIDER"]
  | _ => none

def validatePeerPodsConfigs (ig : ImageGenerator) : Op Err PUnit := do
  let peerPodsCM ← getPeerPodsCM.orElse (describe "validatePeerPodsConfigs: ")
  let peerPodsSecret ← (clientGet .secret ⟨operatorNamespace, "peer-pods-secret"⟩).orElse
    (describe "validatePeerPodsConfigs: ")
  match requiredConfigMapKeys ig.provider with
  | none =>
    Routine.throw (.new ("validatePeerPodsConfigs: unsupported cloud provider " ++ ig.provider))
  | some keys =>
    if !credentialsPresent ig.provider (secretDataOf peerPodsSecret) then
      Routine.throw (.new
        "validatePeerPodsConfigs: cannot find the required keys in peer-pods-secret Secret")
    if !checkKeysPresentAndNotEmpty ((dataOf peerPodsCM).getD ∅) keys then
      Routine.throw (.new
        "validatePeerPodsConfigs: cannot find the required keys in peer-pods-cm ConfigMap")

def hexDigit (c : Char) : Option Nat :=
  if c.isDigit then some (c.toNat - '0'.toNat)
  else if 'a' ≤ c ∧ c ≤ 'f' then some (c.toNat - 'a'.toNat + 10)
  else if 'A' ≤ c ∧ c ≤ 'F' then some (c.toNat - 'A'.toNat + 10)
  else none

/-- `strconv.ParseUint(text, 16, 32)`. -/
def parseHex32 (text : String) : Option Nat := do
  if text.isEmpty then none
  let value ← text.toList.foldlM (fun value c => (hexDigit c).map fun digit => value * 16 + digit) 0
  if value < 2 ^ 32 then some value else none

def imageVersionOf (clusterId : String) : String :=
  match parseHex32 clusterId with
  | some clusterIdInt => toString (clusterIdInt % (2147483647 + 1)) ++ ".0.1"
  | none => "0.0.1"

def putImageVersion (ig : ImageGenerator) (cm : ConfigMap) : Op Err ConfigMap :=
  let imageVersion := imageVersionOf ig.clusterId
  match ig.provider with
  | "azure" => do
    let cm ← if dataAt cm "IMAGE_GALLERY_NAME" = "" then
        putData cm "IMAGE_GALLERY_NAME" ("PodVMGallery_" ++ ig.clusterId)
      else pure cm
    putData cm "IMAGE_VERSION" imageVersion
  | "aws" => putData cm "AMI_VERSION" imageVersion
  | "gcp" => putData cm "IMAGE_VERSION" (imageVersion.map fun c => if c = '.' then '-' else c)
  | _ => pure cm

section

variable (settings : Settings)

def createImageConfigMapFromFile (ig : ImageGenerator) : Op Err PUnit := do
  match ← Routine.attempt (clientGet .configMap ⟨operatorNamespace, ig.getImageConfigMapName⟩) with
  | .ok _ => return ⟨⟩
  | .error _ =>
    let yamlData ← readFile
      (peerpodsImageJobsPathLocation ++ "/" ++ ig.getImageConfigMapName ++ ".yaml")
    match settings.parseConfigMapYAML yamlData with
    | none => Routine.throw (.new "error converting YAML to JSON")
    | some cm =>
      let _ ← clientCreate (← setControllerReference (← ig.putImageVersion cm))
      return ⟨⟩

/-- The image config map with the FIPS value and the default image filled in, or
nothing when it already asks for FIPS. -/
def wantedImageConfigMap (ig : ImageGenerator) (cm : ConfigMap) : Op Err (Option ConfigMap) := do
  if ig.fips && dataAt cm "BOOT_FIPS" = "true" then
    return none
  let cm ← if ig.fips then putData cm "BOOT_FIPS" "true" else pure cm
  let image := settings.getenv "RELATED_IMAGE_PODVM_OCI"
  if dataAt cm "PODVM_IMAGE_URI" = "" && image ≠ "" && settings.goarch ≠ "s390x" then
    return some (← putData cm "PODVM_IMAGE_URI" ("oci::" ++ image))
  return some cm

def updateImageConfigMap (ig : ImageGenerator) : Op Err PUnit := do
  let cm ← clientGet .configMap ⟨operatorNamespace, ig.getImageConfigMapName⟩
  match ← wantedImageConfigMap settings ig cm with
  | none => return ⟨⟩
  | some wanted =>
    let _ ← clientUpdate wanted
    return ⟨⟩

def jobBodyOf (job : Job) : JobBody := job.body

def mapFirst {α : Type} (change : α → α) : List α → List α
  | [] => []
  | first :: rest => change first :: rest

def editFirstContainer (change : Container → Container) (job : Job) : Job :=
  { job with body := show JobBody from { jobBodyOf job with
    template := { (jobBodyOf job).template with
      containers := mapFirst change (jobBodyOf job).template.containers } } }

/-- The environment and arguments a delete job gets for the image it removes. -/
def withImageID (ig : ImageGenerator) (imageId : String) (container : Container) : Container :=
  match ig.provider with
  | "azure" => { container with
      env := container.env ++ [⟨"IMAGE_ID", imageId⟩], command := container.command ++ ["-g"] }
  | "aws" => { container with env := container.env ++ [⟨"AMI_ID", imageId⟩] }
  | "gcp" => { container with env := container.env ++ [⟨"IMAGE_NAME", imageId⟩] }
  | "libvirt" => { container with env := container.env ++ [⟨"LIBVIRT_IMAGE_ID", imageId⟩] }
  | _ => container

def withTrustedCA (volume : Volume × VolumeMount) (job : Job) : Job :=
  let mounted := editFirstContainer (fun container => { container with
    volumeMounts := container.volumeMounts ++ [volume.2]
    env := container.env ++
      [⟨"REQUESTS_CA_BUNDLE", "/etc/pki/ca-trust/extracted/pem/tls-ca-bundle.pem"⟩] }) job
  { mounted with body := show JobBody from { jobBodyOf mounted with
    template := { (jobBodyOf mounted).template with
      volumes := (jobBodyOf mounted).template.volumes ++ [volume.1] } } }

def withPayloadImage (image : String) (job : Job) : Job :=
  { job with body := show JobBody from { jobBodyOf job with
    template := { (jobBodyOf job).template with
      initContainers := mapFirst (fun container => { container with image := image })
        (jobBodyOf job).template.initContainers } } }

def createJobFromFile (ig : ImageGenerator) (jobFileName : String) : Op Err Job := do
  let yamlData ← readFile (peerpodsImageJobsPathLocation ++ "/" ++ jobFileName)
  match settings.parseJobYAML yamlData with
  | none => Routine.throw (.new "error converting YAML to JSON")
  | some parsed =>
    let job ← if jobFileName = "osc-podvm-delete-job.yaml" then do
        let imageId ← ig.getImageID
        pure (editFirstContainer (ig.withImageID imageId) parsed)
      else pure parsed
    let proxyEnvVars ← getEffectiveProxyEnvVars settings
    let job := editFirstContainer (fun container =>
      { container with env := container.env ++ proxyEnvVars }) job
    let job := match ← generateTrustedCAVolumeConfig with
      | none => job
      | some volume => withTrustedCA volume job
    let builder := settings.getenv "RELATED_IMAGE_PODVM_BUILDER"
    let job := if builder = "" then job
      else editFirstContainer (fun container => { container with image := builder }) job
    let payload := settings.getenv "RELATED_IMAGE_PODVM_PAYLOAD"
    return if jobFileName = "osc-podvm-create-job.yaml" ∧ payload ≠ "" then
      withPayloadImage payload job else job

/-- Creation of a job reports no error, not even a real one. -/
def createJob (job : Job) : Op Err PUnit := Routine.ignore (clientCreate job)

def deleteJob (job : Job) : Op Err PUnit := deleteIfPresent .job job.key

def hasJobFailed (status : JobStatus) : Bool := status.failedCondition && status.failed > 0
def isJobActive (status : JobStatus) : Bool := status.conditionCount = 0 && status.active > 0
def hasJobCompleted (status : JobStatus) : Bool := status.complete && status.succeeded > 0

def checkJobStatus (key : Key) : Op Err ImageStatus := do
  let status := (jobBodyOf (← clientGet .job key)).status
  if hasJobFailed status then return .imageJobFailed
  if hasJobCompleted status then return .imageJobCompleted
  if isJobActive status then return .imageJobRunning
  Routine.throw (.new ("job status check failed " ++ key.name))

/-- Delete a finished job and report `status`; a failed deletion asks for a retry. -/
def finishJob (job : Job) (status : ImageStatus) : Op Err (ImageStatus × Option Err) := do
  match ← caught (deleteJob job) with
  | .error error => return (.requeueNeeded, some error)
  | .ok _ => return (status, none)

/-- One round of the job that makes `isImageIDSet` equal to `wanted`. -/
def imageJobRunner (ig : ImageGenerator) (filename : String) (wanted : Bool)
    (success : ImageStatus) : Op Err (ImageStatus × Option Err) := do
  match ← caught (createJobFromFile settings ig filename) with
  | .error _ => return (.imageFailed, some errCreatingImageJob)
  | .ok job =>
    if (← ig.isImageIDSet) = wanted then
      finishJob job success
    else
      createJob job
      match ← caught (checkJobStatus job.key) with
      | .error _ => return (.imageStatusUnknown, some errCheckingJobStatus)
      | .ok .imageJobCompleted =>
        if (← ig.isImageIDSet) = wanted then finishJob job success
        else return (.requeueNeeded, none)
      | .ok .imageJobFailed => finishJob job .imageFailed
      | .ok _ => return (.requeueNeeded, none)

def imageCreateJobRunner (ig : ImageGenerator) : Op Err (ImageStatus × Option Err) :=
  imageJobRunner settings ig "osc-podvm-create-job.yaml" true .imageCreatedSuccessfully

def imageDeleteJobRunner (ig : ImageGenerator) : Op Err (ImageStatus × Option Err) :=
  imageJobRunner settings ig "osc-podvm-delete-job.yaml" false .imageDeletedSuccessfully

/-- Run the steps in order; the first that fails decides the error reported. -/
def runSteps : List (Op Err PUnit × Err) → Op Err (Option Err)
  | [] => pure none
  | (step, failure) :: rest => do
    match ← caught step with
    | .error _ => return some failure
    | .ok _ => runSteps rest

/-- An error of the job runner turns every status into a failure. -/
def jobOutcome : ImageStatus × Option Err → ImageStatus × Option Err
  | (_, some error) => (.imageFailed, some error)
  | (status, none) => (status, none)

/-- The part image creation and deletion share: `steps` and then the job. -/
def withGenerator (steps : ImageGenerator → List (Op Err PUnit × Err))
    (job : ImageGenerator → Op Err (ImageStatus × Option Err)) :
    Op Err (ImageStatus × Option Err) := do
  match ← caught (initializeImageGenerator settings) with
  | .error _ => return (.imageFailed, some errInitializingImageGenerator)
  | .ok ig =>
    if ig.provider = unsupportedCloudProvider then
      return (.unsupportedPodVMImageProvider, some errUnsupportedCloudProvider)
    match ← runSteps (steps ig) with
    | some error => return (.imageFailed, some error)
    | none => return jobOutcome (← job ig)

def imageCreate : Op Err (ImageStatus × Option Err) :=
  withGenerator settings (fun ig =>
    [(ig.validatePeerPodsConfigs, errValidatingPeerPodsConfigs),
     (createImageConfigMapFromFile settings ig, errCreatingImageConfigMap),
     (updateImageConfigMap settings ig, errUpdatingImageConfigMap)]) (imageCreateJobRunner settings)

def imageDelete : Op Err (ImageStatus × Option Err) :=
  withGenerator settings (fun ig => [(ig.validatePeerPodsConfigs, errValidatingPeerPodsConfigs)])
    (imageDeleteJobRunner settings)

end

end ImageGenerator

end SandboxedContainers
