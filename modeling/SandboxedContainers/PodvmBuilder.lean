import SandboxedContainers.Lib.Labels
import SandboxedContainers.Lib.Shell

/-!
# The script behind the image jobs

`podvm-builder.sh` creates or deletes the pod VM image of a cloud provider.  The work
is done by the provider's handler script; the builder records the outcome in
`peer-pods-cm`.  It runs without `set -e`, so a command that fails has no consequence
unless its status is looked at.
-/

namespace SandboxedContainers

open Lib ShellScript

inductive BuilderProvider where
  | azure
  | aws
  | libvirt
  | gcp
  | ibmcloud
  | other
  deriving DecidableEq, Repr

inductive BuilderCommand where
  /-- `/scripts/<provider>-podvm-image-handler.sh`. -/
  | handler (provider : BuilderProvider) (arguments : List String)
  /-- `kubectl get configmap peer-pods-cm`, without its output. -/
  | getPeerPodsCm
  | getAnnotationValue (key : String)
  | getData (key : String)
  | patchData (key value : String)
  deriving DecidableEq, Repr

structure BuilderEnv where
  cloudProvider : BuilderProvider
  updatePeerpodsCm : String := "yes"
  imageId : String := ""
  amiId : String := ""
  imageName : String := ""
  libvirtImageId : String := ""

abbrev BuilderScript (α : Type) := ShellScript BuilderCommand α

def checkPeerPodsCmExists : BuilderScript Bool := succeeds .getPeerPodsCm

section Builder

variable (env : BuilderEnv)

/-- Take the image the handler has left in an annotation over into the data. -/
def publishImage (annotationKey key : String) : BuilderScript Nat := do
  if env.updatePeerpodsCm ≠ "yes" then
    return 0
  if !(← checkPeerPodsCmExists) then
    exit 0
  let image ← capture (.getAnnotationValue annotationKey)
  if image = "" then
    exit 1
  return (← run (.patchData key image)).status

def createPodvmImage : BuilderScript Nat :=
  match env.cloudProvider with
  | .azure => do
    let _ ← run (.handler .azure ["-c"])
    publishImage env "LATEST_IMAGE_ID" "AZURE_IMAGE_ID"
  | .aws => do
    let _ ← run (.handler .aws ["-c"])
    publishImage env "LATEST_AMI_ID" "PODVM_AMI_ID"
  | .gcp => do
    if !(← succeeds (.handler .gcp ["-c"])) then
      exit 1
    publishImage env "LATEST_IMAGE_ID" "PODVM_IMAGE_NAME"
  | .libvirt => do
    if !(← succeeds (.handler .libvirt ["-c"])) then
      exit 1
    if env.updatePeerpodsCm = "yes" then
      if !(← checkPeerPodsCmExists) then
        exit 1
    return 0
  | .ibmcloud | .other => exit 1

/-- Delete the image given, unless it is the one in use and nobody insists. -/
def deleteImage (key image : String) (force : Bool) : BuilderScript Nat := do
  if image = "" then
    exit 1
  let current ← capture (.getData key)
  if current = "" then
    exit 1
  if current = image && !force then
    exit 0
  let _ ← run (.handler env.cloudProvider ["-C"])
  if env.updatePeerpodsCm = "yes" then
    return (← run (.patchData key "")).status
  return 0

def deletePodvmImageGallery (argument : String) : BuilderScript Nat := do
  if env.cloudProvider ≠ .azure then
    return 0
  if !(← checkPeerPodsCmExists) then
    exit 0
  if (← capture (.getAnnotationValue "IMAGE_GALLERY_NAME")) = "" then
    exit 0
  if argument = "-f" then
    return (← run (.handler .azure ["-G", "force"])).status
  return (← run (.handler .azure ["-G"])).status

/-- On AWS and libvirt only the first argument can insist; elsewhere any can. -/
def deletePodvmImage (args : List String) : BuilderScript Nat := do
  if !(← checkPeerPodsCmExists) then
    exit 0
  match env.cloudProvider with
  | .azure =>
    let _ ← deleteImage env "AZURE_IMAGE_ID" env.imageId (args.contains "-f")
    if args.contains "-g" then
      deletePodvmImageGallery env "-f"
    else return 0
  | .gcp => deleteImage env "PODVM_IMAGE_NAME" env.imageName (args.contains "-f")
  | .aws => deleteImage env "PODVM_AMI_ID" env.amiId (args.headD "" = "-f")
  | .libvirt => deleteImage env "LIBVIRT_IMAGE_ID" env.libvirtImageId (args.headD "" = "-f")
  | .ibmcloud | .other => exit 1

/-- What the provider's `install_<provider>_deps` runs; whether it works is not looked at. -/
def depsOf : BuilderProvider → List (List String)
  | .azure | .aws | .gcp => [["--", "install_cli"], ["--", "install_binaries"]]
  | .libvirt => [["--", "install_binaries"]]
  | .ibmcloud | .other => []

def installDeps : List (List String) → BuilderScript PUnit
  | [] => return ⟨⟩
  | arguments :: rest => do
    let _ ← run (.handler env.cloudProvider arguments)
    installDeps rest

def podvmBuilder (args : List String) : BuilderScript Nat := do
  if env.cloudProvider = .ibmcloud ∨ env.cloudProvider = .other then
    exit 1
  installDeps env (depsOf env.cloudProvider)
  match args with
  | "create" :: _ => createPodvmImage env
  | "delete" :: rest => deletePodvmImage env rest
  | "delete-gallery" :: rest => deletePodvmImageGallery env (rest.headD "")
  | _ => exit 1

end Builder

section Jobs

structure PeerPodsCm where
  data : StrMap
  annotations : StrMap

structure BuilderWorld where
  cm : PeerPodsCm
  log : List (BuilderCommand × Bool) := []

/-- Which commands succeed, by their position in the run, and what a handler does to
`peer-pods-cm` when it succeeds or fails. -/
structure BuilderOutcome where
  succeeds : Nat → Bool
  effect : List String → Bool → PeerPodsCm → PeerPodsCm

variable (outcome : BuilderOutcome)

def BuilderOutcome.lines (success : Bool) (cm : PeerPodsCm) : BuilderCommand → List String
  | .getAnnotationValue key => if success then [StrMap.getD cm.annotations key] else []
  | .getData key => if success then [StrMap.getD cm.data key] else []
  | _ => []

def BuilderOutcome.cmAfter (success : Bool) (cm : PeerPodsCm) : BuilderCommand → PeerPodsCm
  | .handler _ arguments => outcome.effect arguments success cm
  | .patchData key value => if success then { cm with data := cm.data.insert key value } else cm
  | _ => cm

/-- Run a command: one that fails prints nothing. -/
def BuilderOutcome.serve (w : BuilderWorld) (command : BuilderCommand) : Output × BuilderWorld :=
  let success := outcome.succeeds w.log.length
  (⟨if success then 0 else 1, BuilderOutcome.lines success w.cm command⟩,
    ⟨outcome.cmAfter success w.cm command, w.log ++ [(command, success)]⟩)

def builderRun (env : BuilderEnv) (args : List String) (cm : PeerPodsCm) : Nat × BuilderWorld :=
  let ended := (podvmBuilder env args).eval outcome.serve () { cm := cm }
  (exitStatus ended.1.1, ended.2)

def imageKey : BuilderProvider → String
  | .azure => "AZURE_IMAGE_ID"
  | .aws => "PODVM_AMI_ID"
  | .gcp => "PODVM_IMAGE_NAME"
  | .libvirt => "LIBVIRT_IMAGE_ID"
  | .ibmcloud | .other => ""

/-- A job that creates an image succeeds only if the handler has created one. -/
def CreatesTruthfully (env : BuilderEnv) (cm : PeerPodsCm) : Prop :=
  (builderRun outcome env ["create"] cm).1 = 0 →
    (.handler env.cloudProvider ["-c"], true) ∈ (builderRun outcome env ["create"] cm).2.log

/-- A job that deletes an image empties its key only if the handler has deleted it. -/
def DeletesTruthfully (env : BuilderEnv) (args : List String) (cm : PeerPodsCm) : Prop :=
  (.patchData (imageKey env.cloudProvider) "", true) ∈ (builderRun outcome env ("delete" :: args) cm).2.log →
    (.handler env.cloudProvider ["-C"], true) ∈ (builderRun outcome env ("delete" :: args) cm).2.log

def afterDeps (provider : BuilderProvider) (w : BuilderWorld) : List (List String) → BuilderWorld
  | [] => w
  | arguments :: rest => afterDeps provider (outcome.serve w (.handler provider arguments)).2 rest

theorem installDeps_eval (env : BuilderEnv) (deps : List (List String)) (w : BuilderWorld) :
    (installDeps env deps).eval outcome.serve () w =
      ((.ok ⟨⟩, ()), afterDeps outcome env.cloudProvider w deps) := by
  induction deps generalizing w with
  | nil => rfl
  | cons arguments rest ih => exact ih _

theorem log_afterDeps (provider : BuilderProvider) (deps : List (List String)) (w : BuilderWorld) :
    ∃ added, (afterDeps outcome provider w deps).log = w.log ++ added ∧ added.length = deps.length ∧
      ∀ entry ∈ added, ∃ arguments ∈ deps, entry.1 = .handler provider arguments := by
  induction deps generalizing w with
  | nil => exact ⟨[], by simp [afterDeps], rfl, by simp⟩
  | cons arguments rest ih =>
    obtain ⟨added, same, length, entries⟩ :=
      ih (outcome.serve w (.handler provider arguments)).2
    refine ⟨(.handler provider arguments, outcome.succeeds w.log.length) :: added, ?_, by simp [length], ?_⟩
    · rw [afterDeps, same]
      simp [BuilderOutcome.serve]
    · rintro entry member
      rcases List.mem_cons.mp member with rfl | later
      · exact ⟨arguments, by simp, rfl⟩
      · obtain ⟨found, inRest, isHandler⟩ := entries entry later
        exact ⟨found, by simp [inRest], isHandler⟩

/-- Whether the image left in an annotation is published, or nothing is said about it. -/
def BuilderOutcome.publishes (position : Nat) (cm : PeerPodsCm) (annotationKey : String) :
    Bool :=
  !outcome.succeeds position ||
    (outcome.succeeds (position + 1) && StrMap.getD cm.annotations annotationKey ≠ "" &&
      outcome.succeeds (position + 2))

theorem publishImage_eval {env : BuilderEnv} (update : env.updatePeerpodsCm = "yes")
    (annotationKey key : String) (w : BuilderWorld) :
    ∃ added, ((publishImage env annotationKey key).eval outcome.serve () w).2.log = w.log ++ added ∧
      (∀ entry ∈ added, ∀ provider arguments, entry.1 ≠ .handler provider arguments) ∧
      (exitStatus ((publishImage env annotationKey key).eval outcome.serve () w).1.1 = 0 ↔
        outcome.publishes w.log.length w.cm annotationKey = true) := by
  unfold publishImage checkPeerPodsCmExists
  simp only [update, ne_eq, not_true_eq_false, if_false, eval_succeeds_bind, BuilderOutcome.publishes]
  cases present : outcome.succeeds w.log.length with
  | false =>
    refine ⟨[(.getPeerPodsCm, false)], ?_, by simp, ?_⟩
    · simp [BuilderOutcome.serve, present]
    · simp [BuilderOutcome.serve, present, exitStatus]
  | true =>
    cases read : outcome.succeeds (w.log.length + 1) with
    | false =>
      refine ⟨[(.getPeerPodsCm, true), (.getAnnotationValue annotationKey, false)], ?_, by simp, ?_⟩
      · simp [BuilderOutcome.serve, BuilderOutcome.lines, Output.text, present, read]
      · simp [BuilderOutcome.serve, BuilderOutcome.lines, Output.text, present, read, exitStatus]
    | true =>
      by_cases empty : StrMap.getD w.cm.annotations annotationKey = ""
      · refine ⟨[(.getPeerPodsCm, true), (.getAnnotationValue annotationKey, true)], ?_, by simp, ?_⟩
        · simp [BuilderOutcome.serve, BuilderOutcome.lines, BuilderOutcome.cmAfter, Output.text, present,
            read, empty]
        · simp [BuilderOutcome.serve, BuilderOutcome.lines, BuilderOutcome.cmAfter, Output.text, present,
            read, empty, exitStatus]
      · refine ⟨[(.getPeerPodsCm, true), (.getAnnotationValue annotationKey, true),
          (.patchData key (StrMap.getD w.cm.annotations annotationKey),
            outcome.succeeds (w.log.length + 2))], ?_, by simp, ?_⟩
        · simp [BuilderOutcome.serve, BuilderOutcome.lines, BuilderOutcome.cmAfter, Output.text, present,
            read, empty]
        · cases patched : outcome.succeeds (w.log.length + 2) <;>
            simp [BuilderOutcome.serve, BuilderOutcome.lines, BuilderOutcome.cmAfter, Output.text, present,
              read, empty, patched, exitStatus]

def BuilderEnv.position (env : BuilderEnv) : Nat := (depsOf env.cloudProvider).length

def BuilderOutcome.cmBefore (env : BuilderEnv) (cm : PeerPodsCm) : PeerPodsCm :=
  (afterDeps outcome env.cloudProvider { cm := cm } (depsOf env.cloudProvider)).cm

def latestKey : BuilderProvider → String
  | .aws => "LATEST_AMI_ID"
  | _ => "LATEST_IMAGE_ID"

/-- The handler is asked for its status, or it works, or the builder stumbles over
what follows. -/
def CreateChecked (env : BuilderEnv) (cm : PeerPodsCm) : Prop :=
  env.cloudProvider = .gcp ∨ env.cloudProvider = .libvirt ∨ outcome.succeeds env.position = true ∨
    outcome.publishes (env.position + 1) (outcome.effect ["-c"] false (outcome.cmBefore env cm))
      (latestKey env.cloudProvider) = false

def BuilderEnv.image (env : BuilderEnv) : String :=
  match env.cloudProvider with
  | .azure => env.imageId
  | .aws => env.amiId
  | .gcp => env.imageName
  | .libvirt => env.libvirtImageId
  | .ibmcloud | .other => ""

def BuilderEnv.forced (env : BuilderEnv) (args : List String) : Bool :=
  match env.cloudProvider with
  | .azure | .gcp => args.contains "-f"
  | _ => args.headD "" = "-f"

/-- The delete job comes to the point where it calls the handler. -/
def BuilderOutcome.deletes (env : BuilderEnv) (args : List String) (cm : PeerPodsCm) :
    Bool :=
  outcome.succeeds env.position && env.image ≠ "" && outcome.succeeds (env.position + 1) &&
    StrMap.getD (outcome.cmBefore env cm).data (imageKey env.cloudProvider) ≠ "" &&
    (StrMap.getD (outcome.cmBefore env cm).data (imageKey env.cloudProvider) ≠ env.image || env.forced args)

def DeleteChecked (env : BuilderEnv) (args : List String) (cm : PeerPodsCm) : Prop :=
  outcome.deletes env args cm = false ∨ outcome.succeeds (env.position + 2) = true ∨
    outcome.succeeds (env.position + 3) = false

variable {env : BuilderEnv} {cm : PeerPodsCm}

theorem podvmBuilder_eval (cm : PeerPodsCm)
    (known : env.cloudProvider ≠ .ibmcloud ∧ env.cloudProvider ≠ .other) (args : List String) :
    ∃ w : BuilderWorld, w.cm = outcome.cmBefore env cm ∧ w.log.length = env.position ∧
      (∀ entry ∈ w.log, ∃ arguments, arguments.headD "" = "--" ∧
        entry.1 = .handler env.cloudProvider arguments) ∧
      (podvmBuilder env args).eval outcome.serve () { cm := cm } =
        (match args with
          | "create" :: _ => createPodvmImage env
          | "delete" :: rest => deletePodvmImage env rest
          | "delete-gallery" :: rest => deletePodvmImageGallery env (rest.headD "")
          | _ => exit 1 : BuilderScript Nat).eval outcome.serve () w := by
  obtain ⟨added, log, length, entries⟩ := log_afterDeps outcome env.cloudProvider
    (depsOf env.cloudProvider) { cm := cm }
  refine ⟨afterDeps outcome env.cloudProvider { cm := cm } (depsOf env.cloudProvider), rfl, ?_, ?_, ?_⟩
  · simp [log, length, BuilderEnv.position]
  · intro entry member
    rw [log] at member
    obtain ⟨arguments, isDep, same⟩ := entries entry (by simpa using member)
    refine ⟨arguments, ?_, same⟩
    revert isDep
    cases env.cloudProvider <;> simp [depsOf] <;> rintro (rfl | rfl) <;> rfl
  · unfold podvmBuilder
    rw [if_neg (by simp [known])]
    exact Routine.eval_bind_ok (installDeps_eval outcome env _ _) _

section Actions

variable {w : BuilderWorld} (before : ∀ entry ∈ w.log, ∃ arguments, arguments.headD "" = "--" ∧
  entry.1 = .handler env.cloudProvider arguments)

include before

theorem handler_mem_iff {flag : String} (isFlag : flag ≠ "--") {success : Bool}
    {added : List (BuilderCommand × Bool)}
    (others : ∀ entry ∈ added, entry.1 ≠ .handler env.cloudProvider [flag]) :
    (.handler env.cloudProvider [flag], true) ∈
      w.log ++ (.handler env.cloudProvider [flag], success) :: added ↔ success = true := by
  simp only [List.mem_append, List.mem_cons, Prod.mk.injEq, true_and]
  constructor
  · rintro (inDeps | rfl | later)
    · obtain ⟨arguments, isDep, same⟩ := before _ inDeps
      injection same with _ sameArguments
      subst sameArguments
      exact absurd isDep isFlag
    · rfl
    · exact absurd rfl (others _ later)
  · rintro rfl
    exact .inr (.inl rfl)

theorem publishes_after_handler (update : env.updatePeerpodsCm = "yes") (annotationKey key : String) :
    let ended := (publishImage env annotationKey key).eval outcome.serve ()
      (outcome.serve w (.handler env.cloudProvider ["-c"])).2
    ((.handler env.cloudProvider ["-c"], true) ∈ ended.2.log ↔ outcome.succeeds w.log.length = true) ∧
      (exitStatus ended.1.1 = 0 ↔ outcome.publishes (w.log.length + 1)
        (outcome.effect ["-c"] (outcome.succeeds w.log.length) w.cm) annotationKey = true) := by
  intro ended
  obtain ⟨added, log, others, published⟩ := publishImage_eval outcome update annotationKey key
    (outcome.serve w (.handler env.cloudProvider ["-c"])).2
  have position : (outcome.serve w (.handler env.cloudProvider ["-c"])).2.log.length = w.log.length + 1 := by
    simp [BuilderOutcome.serve]
  rw [position] at published
  refine ⟨?_, published⟩
  rw [log]
  simp only [BuilderOutcome.serve, List.append_assoc, List.singleton_append]
  exact handler_mem_iff before (by decide) fun entry member => others entry member _ _

end Actions

theorem createsTruthfully_iff (known : env.cloudProvider ≠ .ibmcloud ∧ env.cloudProvider ≠ .other)
    (update : env.updatePeerpodsCm = "yes") :
    CreatesTruthfully outcome env cm ↔ CreateChecked outcome env cm := by
  obtain ⟨w, isCm, position, before, evaluated⟩ := podvmBuilder_eval outcome cm known ["create"]
  have unchecked (annotationKey key : String) := publishes_after_handler outcome before update annotationKey key
  rw [isCm, position] at unchecked
  unfold CreatesTruthfully builderRun CreateChecked
  simp only [evaluated, createPodvmImage]
  cases provider : env.cloudProvider with
  | azure =>
    rw [provider] at unchecked
    obtain ⟨handled, published⟩ := unchecked "LATEST_IMAGE_ID" "AZURE_IMAGE_ID"
    rw [eval_run_bind, handled, published]
    cases worked : outcome.succeeds env.position <;> simp [latestKey]
  | aws =>
    rw [provider] at unchecked
    obtain ⟨handled, published⟩ := unchecked "LATEST_AMI_ID" "PODVM_AMI_ID"
    rw [eval_run_bind, handled, published]
    cases worked : outcome.succeeds env.position <;> simp [latestKey]
  | gcp =>
    rw [provider] at unchecked
    obtain ⟨handled, published⟩ := unchecked "LATEST_IMAGE_ID" "PODVM_IMAGE_NAME"
    simp only [true_or, iff_true, eval_succeeds_bind]
    cases worked : outcome.succeeds env.position with
    | false => simp [BuilderOutcome.serve, position, worked, exitStatus]
    | true =>
      intro _
      have ok : (outcome.serve w (.handler .gcp ["-c"])).1.status = 0 := by
        simp [BuilderOutcome.serve, position, worked]
      simp only [ok, decide_true, Bool.not_true, Bool.false_eq_true, if_false]
      exact handled.mpr worked
  | libvirt =>
    simp only [true_or, or_true, iff_true, eval_succeeds_bind]
    cases worked : outcome.succeeds env.position with
    | false => simp [BuilderOutcome.serve, position, worked, exitStatus]
    | true =>
      have ok : (outcome.serve w (.handler .libvirt ["-c"])).1.status = 0 := by
        simp [BuilderOutcome.serve, position, worked]
      simp only [ok, decide_true, Bool.not_true, Bool.false_eq_true, if_false, update, if_true,
        checkPeerPodsCmExists, eval_succeeds_bind]
      intro _
      split <;> simp [BuilderOutcome.serve, position, worked]
  | ibmcloud => exact absurd provider known.1
  | other => exact absurd provider known.2

def isDeletion (provider : BuilderProvider) (command : BuilderCommand) : Prop :=
  command = .handler provider ["-C"] ∨ ∃ key value, command = .patchData key value

theorem deleteImage_eval (update : env.updatePeerpodsCm = "yes") (key image : String) (force : Bool)
    (w : BuilderWorld) :
    if image ≠ "" ∧ outcome.succeeds w.log.length = true ∧ StrMap.getD w.cm.data key ≠ "" ∧
        (StrMap.getD w.cm.data key ≠ image ∨ force = true) then
      ∃ status w', (deleteImage env key image force).eval outcome.serve () w = ((.ok status, ()), w') ∧
        w'.log = w.log ++ [(.getData key, true),
          (.handler env.cloudProvider ["-C"], outcome.succeeds (w.log.length + 1)),
          (.patchData key "", outcome.succeeds (w.log.length + 2))]
    else
      ∃ status w' added, (deleteImage env key image force).eval outcome.serve () w =
          ((.error status, ()), w') ∧ w'.log = w.log ++ added ∧
        ∀ entry ∈ added, ¬isDeletion env.cloudProvider entry.1 := by
  unfold deleteImage
  by_cases given : image = ""
  · rw [if_neg (by simp [given])]
    exact ⟨1, w, [], by simp [given], by simp, by simp⟩
  simp only [given, if_false, eval_capture_bind]
  have answered : (outcome.serve w (.getData key)).2.log =
      w.log ++ [(.getData key, outcome.succeeds w.log.length)] := rfl
  cases read : outcome.succeeds w.log.length with
  | false =>
    have text : (outcome.serve w (.getData key)).1.text = "" := by
      simp [BuilderOutcome.serve, BuilderOutcome.lines, Output.text, read]
    rw [if_neg (by simp)]
    refine ⟨1, _, _, by simp only [text, if_true, eval_exit_bind], answered, by simp [isDeletion]⟩
  | true =>
    have text : (outcome.serve w (.getData key)).1.text = StrMap.getD w.cm.data key := by
      simp [BuilderOutcome.serve, BuilderOutcome.lines, Output.text, read]
    rw [text]
    by_cases unset : StrMap.getD w.cm.data key = ""
    · rw [if_neg (by simp [unset])]
      refine ⟨1, _, _, by simp only [unset, if_true, eval_exit_bind], answered, by simp [isDeletion]⟩
    simp only [unset, if_false]
    by_cases goesOn : StrMap.getD w.cm.data key ≠ image ∨ force = true
    · rw [if_pos (by simp [given, unset, goesOn])]
      have notInUse : ¬(decide (StrMap.getD w.cm.data key = image) && !force) = true := by
        rcases goesOn with differs | forced
        · simp [differs]
        · simp [forced]
      rw [if_neg notInUse, eval_run_bind, if_pos update, eval_run_bind]
      refine ⟨_, _, rfl, ?_⟩
      simp [BuilderOutcome.serve, read]
    · rw [if_neg (by tauto)]
      obtain ⟨same, notForced⟩ : StrMap.getD w.cm.data key = image ∧ force = false := by simpa using goesOn
      refine ⟨0, _, _, by simp [same, notForced], answered, by simp [isDeletion]⟩

theorem log_of_inquiry {p : BuilderCommand → Prop} {α : Type} {script : BuilderScript α}
    (inquiry : Routine.Inquiry p script) (w : BuilderWorld) :
    ∃ added, (script.eval outcome.serve () w).2.log = w.log ++ added ∧ ∀ entry ∈ added, p entry.1 := by
  apply inquiry.eval_log
  intro w command allowed
  exact ⟨[(command, outcome.succeeds w.log.length)], rfl, by simpa using allowed⟩

theorem inquiry_deletePodvmImageGallery (env : BuilderEnv) (argument : String) :
    Routine.Inquiry (fun command => ¬isDeletion env.cloudProvider command)
      (deletePodvmImageGallery env argument) := by
  have exits (next : PUnit → BuilderScript Nat) :
      Routine.Inquiry (fun command => ¬isDeletion env.cloudProvider command)
        (exit 0 >>= next : BuilderScript Nat) :=
    (inquiry_exit 0 : Routine.Inquiry _ (exit 0 : BuilderScript Nat))
  unfold deletePodvmImageGallery
  split
  · exact Routine.inquiry_pure _
  apply (inquiry_succeeds (by simp [isDeletion])).bind
  intro present
  dsimp only
  split
  · exact exits _
  apply (inquiry_capture (by simp [isDeletion])).bind
  intro gallery
  split
  · exact exits _
  split
  · exact (inquiry_run (by simp [isDeletion])).bind fun _ => Routine.inquiry_pure _
  · exact (inquiry_run (by simp [isDeletion])).bind fun _ => Routine.inquiry_pure _

theorem deletePodvmImage_eval (known : env.cloudProvider ≠ .ibmcloud ∧ env.cloudProvider ≠ .other)
    (args : List String) {w : BuilderWorld}
    (present : outcome.succeeds w.log.length = true) :
    ∃ last, ((deletePodvmImage env args).eval outcome.serve () w).2.log =
        ((deleteImage env (imageKey env.cloudProvider) env.image (env.forced args)).eval outcome.serve ()
          (outcome.serve w .getPeerPodsCm).2).2.log ++ last ∧
      ∀ entry ∈ last, ¬isDeletion env.cloudProvider entry.1 := by
  have ok : (outcome.serve w .getPeerPodsCm).1.status = 0 := by simp [BuilderOutcome.serve, present]
  unfold deletePodvmImage checkPeerPodsCmExists
  simp only [eval_succeeds_bind, ok, decide_true, Bool.not_true, Bool.false_eq_true, if_false]
  cases provider : env.cloudProvider with
  | azure =>
    simp only [imageKey, BuilderEnv.image, BuilderEnv.forced, provider]
    rcases ended : (deleteImage env "AZURE_IMAGE_ID" env.imageId (args.contains "-f")).eval outcome.serve ()
      (outcome.serve w .getPeerPodsCm).2 with ⟨⟨result, ⟨⟩⟩, w'⟩
    cases result with
    | error status =>
      rw [Routine.eval_bind_error ended]
      exact ⟨[], by simp, by simp⟩
    | ok status =>
      rw [Routine.eval_bind_ok ended]
      split
      · have gallery := log_of_inquiry outcome (inquiry_deletePodvmImageGallery env "-f") w'
        rwa [provider] at gallery
      · exact ⟨[], by simp, by simp⟩
  | aws =>
    refine ⟨[], ?_, by simp⟩
    simp [imageKey, BuilderEnv.image, BuilderEnv.forced, provider]
  | gcp =>
    refine ⟨[], ?_, by simp⟩
    simp [imageKey, BuilderEnv.image, BuilderEnv.forced, provider]
  | libvirt =>
    refine ⟨[], ?_, by simp⟩
    simp [imageKey, BuilderEnv.image, BuilderEnv.forced, provider]
  | ibmcloud => exact absurd provider known.1
  | other => exact absurd provider known.2

theorem deletesTruthfully_iff (known : env.cloudProvider ≠ .ibmcloud ∧ env.cloudProvider ≠ .other)
    (update : env.updatePeerpodsCm = "yes") (args : List String) :
    DeletesTruthfully outcome env args cm ↔ DeleteChecked outcome env args cm := by
  obtain ⟨w, isCm, position, before, evaluated⟩ := podvmBuilder_eval outcome cm known ("delete" :: args)
  have deps : ∀ entry ∈ w.log, ¬isDeletion env.cloudProvider entry.1 := by
    intro entry member deletion
    obtain ⟨arguments, isDep, same⟩ := before entry member
    rw [same] at deletion
    rcases deletion with isHandler | ⟨key, value, isPatch⟩
    · injection isHandler with _ sameArguments
      rw [sameArguments] at isDep
      exact absurd isDep (by decide)
    · cases isPatch
  have untouched {log : List (BuilderCommand × Bool)} (none : ∀ entry ∈ log, ¬isDeletion env.cloudProvider entry.1)
      {value : String} : (.patchData (imageKey env.cloudProvider) value, true) ∉ log :=
    fun member => none _ member (.inr ⟨_, _, rfl⟩)
  unfold DeletesTruthfully builderRun DeleteChecked
  simp only [evaluated]
  cases present : outcome.succeeds env.position with
  | false =>
    have log : ((deletePodvmImage env args).eval outcome.serve () w).2.log = w.log ++ [(.getPeerPodsCm, false)] := by
      unfold deletePodvmImage checkPeerPodsCmExists
      simp [BuilderOutcome.serve, position, present]
    have stumbles : outcome.deletes env args cm = false := by simp [BuilderOutcome.deletes, present]
    simp [log, stumbles, untouched deps]
  | true =>
    obtain ⟨last, log, others⟩ := deletePodvmImage_eval outcome known args
      (show outcome.succeeds w.log.length = true by rw [position, present])
    have image := deleteImage_eval outcome update (imageKey env.cloudProvider) env.image (env.forced args)
      (outcome.serve w .getPeerPodsCm).2
    have sameCm : (outcome.serve w .getPeerPodsCm).2.cm = outcome.cmBefore env cm := isCm
    have sameLog : (outcome.serve w .getPeerPodsCm).2.log = w.log ++ [(.getPeerPodsCm, true)] := by
      simp [BuilderOutcome.serve, position, present]
    have sameLength : (outcome.serve w .getPeerPodsCm).2.log.length = env.position + 1 := by
      simp [sameLog, position]
    rw [sameCm, sameLength] at image
    by_cases reaches : env.image ≠ "" ∧ outcome.succeeds (env.position + 1) = true ∧
        StrMap.getD (outcome.cmBefore env cm).data (imageKey env.cloudProvider) ≠ "" ∧
        (StrMap.getD (outcome.cmBefore env cm).data (imageKey env.cloudProvider) ≠ env.image ∨
          env.forced args = true)
    · rw [if_pos reaches] at image
      obtain ⟨status, w', ended, imageLog⟩ := image
      have deletes : outcome.deletes env args cm = true := by
        simp [BuilderOutcome.deletes, present, reaches]
      rw [ended, imageLog, sameLog] at log
      have patched : (.patchData (imageKey env.cloudProvider) "", true) ∈
          ((deletePodvmImage env args).eval outcome.serve () w).2.log ↔
            outcome.succeeds (env.position + 3) = true := by
        rw [log]
        simp [untouched deps, untouched others]
      have handled : (.handler env.cloudProvider ["-C"], true) ∈
          ((deletePodvmImage env args).eval outcome.serve () w).2.log ↔
            outcome.succeeds (env.position + 2) = true := by
        rw [log]
        have notDep : (.handler env.cloudProvider ["-C"], true) ∉ w.log := fun member => deps _ member (.inl rfl)
        have notLast : (.handler env.cloudProvider ["-C"], true) ∉ last := fun member => others _ member (.inl rfl)
        simp [notDep, notLast]
      rw [patched, handled, deletes]
      cases outcome.succeeds (env.position + 2) <;> cases outcome.succeeds (env.position + 3) <;> simp
    · rw [if_neg reaches] at image
      obtain ⟨status, w', added, ended, imageLog, early⟩ := image
      have stumbles : outcome.deletes env args cm = false := by
        simpa [BuilderOutcome.deletes, present, and_assoc] using reaches
      rw [ended, imageLog, sameLog] at log
      simp [log, stumbles, untouched deps, untouched early, untouched others]

/-- Either action reports truthfully exactly when the failures of its handler show. -/
theorem podvmBuilder_truthful_iff (outcome : BuilderOutcome) (env : BuilderEnv) (args : List String)
    (cm : PeerPodsCm) (known : env.cloudProvider ∈ [.azure, .aws, .gcp, .libvirt])
    (update : env.updatePeerpodsCm = "yes") :
    (CreatesTruthfully outcome env cm ↔ CreateChecked outcome env cm) ∧
      (DeletesTruthfully outcome env args cm ↔ DeleteChecked outcome env args cm) := by
  have supported : env.cloudProvider ≠ .ibmcloud ∧ env.cloudProvider ≠ .other := by
    revert known
    cases env.cloudProvider <;> simp
  exact ⟨createsTruthfully_iff outcome supported update, deletesTruthfully_iff outcome supported update args⟩

def failingAt (position : Nat) : BuilderOutcome where
  succeeds n := n ≠ position
  effect _ _ cm := cm

def publishedCm : PeerPodsCm where
  data := StrMap.ofList [("AZURE_IMAGE_ID", "image-1")]
  annotations := StrMap.ofList [("LATEST_IMAGE_ID", "image-1")]

def azureBuilder : BuilderEnv := { cloudProvider := .azure, imageId := "image-1" }

/-- Nothing fails before the job is over. -/
theorem podvmBuilder_truthful_azure :
    CreatesTruthfully (failingAt 6) azureBuilder publishedCm ∧
      DeletesTruthfully (failingAt 6) azureBuilder ["-f"] publishedCm := by
  obtain ⟨creates, deletes⟩ := podvmBuilder_truthful_iff (failingAt 6) azureBuilder ["-f"] publishedCm (by decide) rfl
  exact ⟨creates.mpr (.inr (.inr (.inl rfl))), deletes.mpr (.inr (.inl rfl))⟩

/-- The handler fails to create an image, and the image of an earlier job is published
in its place; it fails to delete one, and the image counts as deleted. -/
theorem podvmBuilder_hides_failures :
    ¬CreatesTruthfully (failingAt 2) azureBuilder publishedCm ∧
      ¬DeletesTruthfully (failingAt 4) azureBuilder ["-f"] publishedCm := by
  constructor
  · intro truthful
    exact absurd (truthful (by decide +kernel)) (by decide +kernel)
  · intro truthful
    exact absurd (truthful (by decide +kernel)) (by decide +kernel)

end Jobs

end SandboxedContainers
