import SandboxedContainers.Client

/-!
# The InProgress condition

The setters of the `InProgress` condition and the predicates that read it.  All
setters change the first condition of that type, or append one, so they share
`setInProgress`.
-/

namespace SandboxedContainers

open Lib

namespace KataConfigStatus

def findInProgressCondition (status : KataConfigStatus) : Option KataConfigCondition :=
  status.conditions.find? fun condition => condition.type = .inProgress

def getInProgressConditionValue (status : KataConfigStatus) : ConditionStatus :=
  match status.findInProgressCondition with
  | none => .conditionUnknown
  | some condition => condition.status

def hasReason (status : KataConfigStatus) (reason : String) : Bool :=
  match status.findInProgressCondition with
  | none => false
  | some condition => condition.status = .conditionTrue && condition.reason = reason

def isInstalling (status : KataConfigStatus) : Bool := status.hasReason "Installing"

def isUpdating (status : KataConfigStatus) : Bool := status.hasReason "Updating"

/-- Put `next` in the place of the first `InProgress` condition, or at the end. -/
def putInProgress (next : KataConfigCondition) :
    List KataConfigCondition → List KataConfigCondition
  | [] => [next]
  | condition :: rest =>
    if condition.type = .inProgress then next :: rest
    else condition :: putInProgress next rest

def setInProgress (value : ConditionStatus) (reason message : String)
    (status : KataConfigStatus) : KataConfigStatus :=
  { status with conditions := putInProgress ⟨.inProgress, value, reason, message⟩ status.conditions }

theorem find_putInProgress (next : KataConfigCondition) (isInProgress : next.type = .inProgress)
    (conditions : List KataConfigCondition) :
    (putInProgress next conditions).find? (fun condition => condition.type = .inProgress) = some next := by
  induction conditions with
  | nil => simp [putInProgress, isInProgress]
  | cons condition rest ih =>
    by_cases same : condition.type = .inProgress
    · simp [putInProgress, same, isInProgress]
    · simp [putInProgress, same, ih]

@[simp] theorem findInProgressCondition_setInProgress (value : ConditionStatus)
    (reason message : String) (status : KataConfigStatus) :
    (status.setInProgress value reason message).findInProgressCondition =
      some ⟨.inProgress, value, reason, message⟩ :=
  find_putInProgress _ rfl _

@[simp] theorem hasReason_setInProgress (value : ConditionStatus) (reason message sought : String)
    (status : KataConfigStatus) :
    (status.setInProgress value reason message).hasReason sought =
      (decide (value = .conditionTrue) && decide (reason = sought)) := by
  simp [hasReason]

end KataConfigStatus

section Setters

variable {ε : Type}

def setInProgressCondition (value : ConditionStatus) (reason message : String) : Op ε PUnit :=
  setStatus (KataConfigStatus.setInProgress value reason message)

def setInProgressConditionToInstalling : Op ε PUnit :=
  setInProgressCondition .conditionTrue "Installing"
    "Performing initial installation of kata on cluster"

def setInProgressConditionToUninstalling : Op ε PUnit :=
  setInProgressCondition .conditionTrue "Uninstalling" "Removing kata from cluster"

def setInProgressConditionToUpdating : Op ε PUnit :=
  setInProgressCondition .conditionTrue "Updating" "Adding and/or removing kata-enabled nodes"

def setInProgressConditionToFailed (failingNode : Node) : Op ε PUnit :=
  setInProgressCondition .conditionTrue "Failed"
    ("Node " ++ failingNode.metadata.name ++ " Degraded: " ++
      StrMap.getD failingNode.metadata.annotations "machineconfiguration.openshift.io/reason")

def setInProgressConditionToBlockedByExistingKataPods (message : String) : Op ε PUnit :=
  setInProgressCondition .conditionFalse "BlockedByExistingKataPods" message

def resetInProgressCondition : Op ε PUnit := setInProgressCondition .conditionFalse "" ""

def setInProgressConditionToPodVMImageCreating : Op ε PUnit :=
  setInProgressCondition .conditionTrue "PodVMImageJobRunning" "Creating Pod VM Image"

def setInProgressConditionToPodVMImageCreated : Op ε PUnit :=
  setInProgressCondition .conditionTrue "PodVMImageJobCompleted" "Created Pod VM Image"

def setInProgressConditionToPodVMImageCreationFailed : Op ε PUnit :=
  setInProgressCondition .conditionTrue "PodVMImageJobFailed" "Failed to create Pod VM Image"

def setInProgressConditionToPodVMImageCreationUnknown : Op ε PUnit :=
  setInProgressCondition .conditionUnknown "PodVMImageJobStatusUnknown"
    "Pod VM Image creation status is unknown"

def setInProgressConditionToPodVMImageDeleting : Op ε PUnit :=
  setInProgressCondition .conditionTrue "PodVMImageJobRunning" "Deleting Pod VM Image"

def setInProgressConditionToPodVMImageDeleted : Op ε PUnit :=
  setInProgressCondition .conditionTrue "PodVMImageJobCompleted" "Deleted Pod VM Image"

def setInProgressConditionToPodVMImageDeletionFailed : Op ε PUnit :=
  setInProgressCondition .conditionTrue "PodVMImageJobFailed" "Failed to delete Pod VM Image"

def setInProgressConditionToPodVMImageDeletionUnknown : Op ε PUnit :=
  setInProgressCondition .conditionUnknown "PodVMImageJobStatusUnknown"
    "Pod VM Image deletion status is unknown"

def setInProgressConditionToPodVMImageUnsupportedProvider : Op ε PUnit :=
  setInProgressCondition .conditionTrue "PodVMImageUnsupportedProvider"
    "Pod VM image provider is unsupported"

end Setters

end SandboxedContainers
