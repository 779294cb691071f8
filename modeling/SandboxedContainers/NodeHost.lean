import SandboxedContainers.KataInstall

/-!
# The host under the install script

What the commands of `osc-kata-install.sh` find on a node and change there: the
deployments of `rpm-ostree`, the packages that are live, the files below `/etc`, the
SELinux module, the kernel of the kata VM and the label of the node.  A command can
also fail, before or after it has done its work, or halfway.

The script decides in two ways whether `rpm-ostree` tracks kata.  Installing asks for
requests that start with the name of the package, uninstalling for requests that are
the name; the entry of a package that was layered from a file is neither absent nor a
bare name.
-/

namespace SandboxedContainers

open Lib ShellScript

structure Nvra where
  name : String
  version : String
  release : String
  arch : String
  deriving DecidableEq, Repr

def Nvra.text (nvra : Nvra) : String :=
  nvra.name ++ "-" ++ nvra.version ++ "-" ++ nvra.release ++ "." ++ nvra.arch

structure Deployment where
  staged : Bool
  booted : Bool
  requestedPackages : List String
  requestedLocalPackages : List Nvra
  content : List Nvra
  deriving DecidableEq

def Deployment.requested (deployment : Deployment) : List String :=
  deployment.requestedPackages ++ deployment.requestedLocalPackages.map Nvra.text

def nKata (deployments : List Deployment) : Nat :=
  ((deployments.flatMap Deployment.requested).filter (beginsWith "kata-containers")).length

structure Rpm where
  nvra : Nvra
  /-- What it has below `/etc`, and the regular files among that. -/
  etcListing : List String
  etcFiles : List String
  scriptlets : ScriptletPhase → Nat → List String

def Rpm.path (rpm : Rpm) : String := "/usr/share/rpm-ostree/extensions/" ++ rpm.nvra.text ++ ".rpm"

/-- The extension image, and what running one of its scriptlets does. -/
structure Extensions where
  image : String
  rpms : List Rpm
  installsModule : List String → Bool
  removesModule : List String → Bool
  buildsKernel : List String → Bool

def Extensions.at? (extensions : Extensions) (rpmPath : String) : Option Rpm :=
  extensions.rpms.find? fun rpm => rpm.path = rpmPath

/-- The first file named after the package, followed by a dash. -/
def Extensions.first? (extensions : Extensions) (package : String) : Option Rpm :=
  extensions.rpms.find? fun rpm => beginsWith (package ++ "-") rpm.nvra.text

structure Host where
  arch : String
  workerVersion : String := ""
  deployments : List Deployment
  /-- The packages `rpm -q` sees. -/
  live : List Nvra
  etcFiles : List String := []
  /-- The module store has `osc_monitor`. -/
  moduleStored : Bool := false
  /-- The policy of the kernel has it. -/
  moduleLoaded : Bool := false
  kernel : Bool := false
  label : Option KataInstallationDaemonSetState := none

namespace Host

variable (extensions : Extensions) (host : Host)

def staged : List Deployment := host.deployments.filter Deployment.staged

def booted : List Deployment := host.deployments.filter Deployment.booted

/-- The deployment the next one is derived from. -/
def base? : Option Deployment := (host.staged ++ host.booted).head?

def stage (deployment : Deployment) : Host :=
  { host with deployments := deployment :: host.deployments.filter (!·.staged) }

def without (base : Deployment) (packages : List String) : Deployment where
  staged := true
  booted := false
  requestedPackages := base.requestedPackages.filter (· ∉ packages)
  requestedLocalPackages := base.requestedLocalPackages.filter (·.name ∉ packages)
  content := base.content.filter (·.name ∉ packages)

/-- The deployment `rpm-ostree install` stages; it refuses what is requested already. -/
def installed? (uninstallList installRpms : List String) : Option Deployment := do
  let kept := without (← host.base?) uninstallList
  let added := (installRpms.filterMap extensions.at?).map Rpm.nvra
  if added.any (· ∈ kept.requestedLocalPackages) then none
  else some { kept with
    requestedLocalPackages := kept.requestedLocalPackages ++ added
    content := kept.content.filter (fun nvra => added.all (·.name ≠ nvra.name)) ++ added }

def crioConfigsOf (package : String) : List String :=
  (extensions.rpms.filter fun rpm => rpm.nvra.name = package ∧ rpm.nvra ∈ host.live).flatMap
    fun rpm => rpm.etcFiles.filter (beginsWith "etc/crio/crio.conf.d")

def tested (holds : Bool) : Output := { status := if holds then 0 else 1 }

def readRpm (rpmPath : String) (read : Rpm → List String) : Output :=
  match extensions.at? rpmPath with
  | some rpm => { lines := read rpm }
  | none => { status := 1 }

def result : NodeCommand → Output
  | .uname => { lines := [host.arch] }
  | .workerVersion => { lines := [host.workerVersion] }
  | .releaseImage _ => { lines := [extensions.image] }
  | .stagedRemoval => tested (host.staged ≠ [] && 0 < nKata host.booted && nKata host.staged = 0)
  | .stagedInstall => tested (host.staged ≠ [] && 0 < nKata host.staged)
  | .findRpm package => { lines := (extensions.first? package).toList.map Rpm.path }
  | .queryRpm rpmPath => readRpm extensions rpmPath fun rpm => [rpm.nvra.text]
  | .queryInstalled package =>
    match host.live.find? (·.name = package) with
    | some nvra => { lines := [nvra.text] }
    | none => { status := 1, lines := ["package " ++ package ++ " is not installed"] }
  | .countTracked => { lines := [toString (nKata host.deployments)] }
  | .listTracked => { lines := host.deployments.flatMap Deployment.requested }
  | .ostreeInstall uninstallList installRpms =>
    tested (host.installed? extensions uninstallList installRpms).isSome
  | .ostreeUninstall _ => tested host.base?.isSome
  | .listEtcFiles rpmPath => readRpm extensions rpmPath Rpm.etcListing
  | .isUsrFile file => tested (extensions.rpms.any fun rpm => rpm.nvra ∈ host.live && file ∈ rpm.etcFiles)
  | .isHostFile file => tested (file ∈ host.etcFiles)
  | .extractScriptlet phase rpmPath argument =>
    readRpm extensions rpmPath fun rpm => rpm.scriptlets phase argument
  | .moduleListed => tested host.moduleStored
  | .typeUsable => tested host.moduleLoaded
  | .kernelExists => tested host.kernel
  -- Under `pipefail`, a package without such a file fails the whole pipeline.
  | .removeCrioConfigs package => tested (host.crioConfigsOf extensions package ≠ [])
  | _ => {}

def effect : NodeCommand → Host
  | .labelNode state => { host with label := some state }
  | .cleanupPending => { host with deployments := host.deployments.filter (!·.staged) }
  | .applyLive =>
    match host.staged.head? with
    | some deployment => { host with live := deployment.content }
    | none => host
  | .ostreeInstall uninstallList installRpms =>
    match host.installed? extensions uninstallList installRpms with
    | some deployment => host.stage deployment
    | none => host
  | .ostreeUninstall packages =>
    match host.base? with
    | some base => host.stage (without base packages)
    | none => host
  | .copyEtcFiles files => { host with etcFiles := host.etcFiles ++ files.filter (· ∉ host.etcFiles) }
  | .removeCrioConfigs package =>
    { host with etcFiles := host.etcFiles.filter (· ∉ host.crioConfigsOf extensions package) }
  | .runScriptlet scriptlet =>
    { host with
      moduleStored := (host.moduleStored || extensions.installsModule scriptlet) && !extensions.removesModule scriptlet
      kernel := host.kernel || extensions.buildsKernel scriptlet }
  | .loadPolicy => { host with moduleLoaded := host.moduleStored }
  | .buildKernel => { host with kernel := true }
  | _ => host

end Host

/-- How a command goes: it works, or it fails having got some way. -/
structure Chance where
  works : Bool := true
  extent : Nat := 0

/-- What a command that fails has done: copying files, some of them; any other, all or
nothing. -/
def Host.effectSoFar (extensions : Extensions) (host : Host) (extent : Nat) : NodeCommand → Host
  | .copyEtcFiles files => host.effect extensions (.copyEtcFiles (files.take extent))
  | command => if extent = 0 then host else host.effect extensions command

def Host.respond (extensions : Extensions) (chance : Chance) (host : Host) (command : NodeCommand) :
    Output × Host :=
  if chance.works then (host.result extensions command, host.effect extensions command)
  else ({ status := 1 }, host.effectSoFar extensions chance.extent command)

theorem Host.respond_cases (extensions : Extensions) (chance : Chance) (host : Host) (command : NodeCommand) :
    (host.respond extensions chance command).2 = host ∨
      (host.respond extensions chance command).2 = host.effect extensions command ∨
      ∃ files extent, command = .copyEtcFiles files ∧
        (host.respond extensions chance command).2 =
          host.effect extensions (.copyEtcFiles (files.take extent)) := by
  unfold Host.respond
  split
  · exact .inr (.inl rfl)
  · unfold Host.effectSoFar
    split
    · exact .inr (.inr ⟨_, chance.extent, rfl, rfl⟩)
    · split
      · exact .inl rfl
      · exact .inr (.inl rfl)

section Uninstall

structure NodeRun where
  host : Host
  log : List NodeCommand := []

/-- Run the next command, with the chance it has at its place in the run. -/
def NodeRun.serve (extensions : Extensions) (chances : Nat → Chance) (s : NodeRun) (command : NodeCommand) :
    Output × NodeRun :=
  let (output, host) := s.host.respond extensions (chances s.log.length) command
  (output, ⟨host, s.log ++ [command]⟩)

def uninstallRun (extensions : Extensions) (chances : Nat → Chance) (packages : List String) (host : Host) :
    List NodeCommand :=
  ((uninstallKata packages).eval (NodeRun.serve extensions chances) () { host := host }).2.log

/-- The node is labelled without `rpm-ostree uninstall`. -/
def LabelsOnly (log : List NodeCommand) : Prop :=
  .labelNode .uninstalled ∈ log ∧ ∀ packages, .ostreeUninstall packages ∉ log

/-- Some deployment requests one of the packages by its bare name. -/
def Named (packages : List String) (deployments : List Deployment) : Prop :=
  ∃ package ∈ packages, ∃ deployment ∈ deployments, package ∈ deployment.requestedPackages

theorem Nvra.text_ne (nvra : Nvra) {name : String} (plain : '.' ∉ name.toList) : nvra.text ≠ name := by
  intro same
  apply plain
  rw [← same]
  simp [Nvra.text]

theorem packagesOf_plain {arch : String} {packages : List String} (known : packagesOf arch = some packages) :
    ∀ package ∈ packages, '.' ∉ package.toList := by
  unfold packagesOf at known
  split at known <;> cases known <;> decide

/-- A package that was layered from a file is not among what `grep -x` finds. -/
theorem mem_requested_iff {package : String} (plain : '.' ∉ package.toList) (deployment : Deployment) :
    package ∈ deployment.requested ↔ package ∈ deployment.requestedPackages := by
  have notLocal : package ∉ deployment.requestedLocalPackages.map Nvra.text := by
    intro member
    obtain ⟨nvra, _, same⟩ := List.mem_map.mp member
    exact nvra.text_ne plain same
  simp [Deployment.requested, notLocal]

theorem uninstallArgs_eq_nil_iff {packages : List String} (plain : ∀ package ∈ packages, '.' ∉ package.toList)
    (deployments : List Deployment) :
    (packages.filter fun package => package ∈ deployments.flatMap Deployment.requested) = [] ↔
      ¬Named packages deployments := by
  simp only [List.filter_eq_nil_iff, decide_eq_true_eq, List.mem_flatMap, Named]
  constructor
  · rintro absent ⟨package, listed, deployment, member, named⟩
    exact absent package listed ⟨deployment, member, (mem_requested_iff (plain package listed) _).mpr named⟩
  · rintro unnamed package listed ⟨deployment, member, requested⟩
    exact unnamed ⟨package, listed, deployment, member, (mem_requested_iff (plain package listed) _).mp requested⟩

variable (extensions : Extensions) (chances : Nat → Chance)

theorem NodeRun.log_serve (s : NodeRun) (command : NodeCommand) :
    (s.serve extensions chances command).2.log = s.log ++ [command] := rfl

theorem NodeRun.log_of_inquiry {p : NodeCommand → Prop} {α : Type} {script : NodeScript α}
    (inquiry : Routine.Inquiry p script) (s : NodeRun) :
    ∃ added, (script.eval (NodeRun.serve extensions chances) () s).2.log = s.log ++ added ∧
      ∀ command ∈ added, p command := by
  apply inquiry.eval_log
  intro s command allowed
  exact ⟨[command], rfl, by simpa using allowed⟩

@[grind ←]
theorem inquiry_runScriptlet {p : NodeCommand → Prop} {rpmPath : String} {phase : ScriptletPhase}
    {argument : Nat} (extracts : p (.extractScriptlet phase rpmPath argument))
    (runs : ∀ scriptlet, p (.runScriptlet scriptlet)) :
    Routine.Inquiry p (runScriptlet rpmPath phase argument) := by
  unfold runScriptlet
  grind

@[grind ←]
theorem inquiry_findRpm {p : NodeCommand → Prop} {package : String} (finds : p (.findRpm package)) :
    Routine.Inquiry p (findRpm package) :=
  (inquiry_must finds).bind fun _ => Routine.inquiry_pure _

theorem inquiry_preUninstall (package : String) :
    Routine.Inquiry (fun command => command ≠ .labelNode .uninstalled ∧
      ∀ packages, command ≠ .ostreeUninstall packages) (preUninstall package) := by
  apply (inquiry_must (by simp)).bind
  intro removed
  apply (inquiry_findRpm (by simp)).bind
  intro rpmPath
  split
  · exact inquiry_runScriptlet (by simp) (by simp)
  · exact Routine.inquiry_pure _

theorem labelsOnly_uninstallTracked_iff (uninstallArgs : List String) (s : NodeRun)
    (before : ∀ command ∈ s.log, command ≠ .labelNode .uninstalled ∧ ∀ packages, command ≠ .ostreeUninstall packages) :
    LabelsOnly ((uninstallTracked uninstallArgs).eval (NodeRun.serve extensions chances) () s).2.log ↔
      uninstallArgs = [] := by
  unfold uninstallTracked
  by_cases none : uninstallArgs = []
  · rw [if_pos none]
    simp only [none, iff_true]
    have early (packages : List String) : NodeCommand.ostreeUninstall packages ∉ s.log :=
      fun member => (before _ member).2 packages rfl
    unfold setStatusUninstalled
    cases works : (chances s.log.length).works with
    | false =>
      rw [eval_must_bind_error (by simp [NodeRun.serve, Host.respond, works])]
      simp [LabelsOnly, NodeRun.log_serve, early]
    | true =>
      rw [eval_must_bind_ok (by simp [NodeRun.serve, Host.respond, works, Host.result])]
      unfold sleepInfinity
      simp [LabelsOnly, NodeRun.log_serve, early]
  · rw [if_neg none]
    simp only [none, iff_false, LabelsOnly, not_and, not_forall, not_not]
    intro labelled
    have preparing := NodeRun.log_of_inquiry extensions chances
      (Routine.Inquiry.forM inquiry_preUninstall uninstallArgs) s
    rcases ended : (uninstallArgs.forM preUninstall : NodeScript PUnit).eval (NodeRun.serve extensions chances) ()
      s with ⟨⟨error | done, ⟨⟩⟩, s'⟩
    · rw [Routine.eval_bind_error ended] at labelled
      rw [ended] at preparing
      obtain ⟨added, log, others⟩ := preparing
      rw [log] at labelled
      rcases List.mem_append.mp labelled with inBefore | inAdded
      · exact absurd rfl (before _ inBefore).1
      · exact absurd rfl (others _ inAdded).1
    · rw [Routine.eval_bind_ok ended]
      have rest : Routine.Inquiry (fun _ => True) (do
          let _ ← setStatusUninstalled
          let _ ← must .restartCrio
          sleepInfinity : NodeScript Nat) :=
        (inquiry_must trivial).bind fun _ => (inquiry_must trivial).bind fun _ =>
          (inquiry_run trivial).bind fun _ => inquiry_exit 0
      refine ⟨uninstallArgs, ?_⟩
      by_cases works : (s'.serve extensions chances (.ostreeUninstall uninstallArgs)).1.status = 0
      · rw [eval_must_bind_ok works]
        obtain ⟨added, log, _⟩ := NodeRun.log_of_inquiry extensions chances rest
          (s'.serve extensions chances (.ostreeUninstall uninstallArgs)).2
        rw [log, NodeRun.log_serve]
        simp
      · rw [eval_must_bind_error works, NodeRun.log_serve]
        simp

/-- With kata installed, the node is labelled without `rpm-ostree uninstall` exactly
if nothing fails before and no package is requested by its bare name. -/
theorem labelsOnly_uninstallRun_iff {packages : List String}
    (plain : ∀ package ∈ packages, '.' ∉ package.toList) {host : Host} {nvra : Nvra}
    (installed : host.live.find? (·.name = "kata-containers") = some nvra) :
    LabelsOnly (uninstallRun extensions chances packages host) ↔
      (chances 1).works = true ∧ (chances 2).works = true ∧ ¬Named packages host.deployments := by
  have goesOn : ((({ host := host } : NodeRun).serve extensions chances
      (.queryInstalled "kata-containers")).1.text = "package kata-containers is not installed") = False := by
    cases works : (chances 0).works with
    | false => simp [NodeRun.serve, Host.respond, works, Output.text]
    | true =>
      have differs : nvra.text ≠ "package kata-containers is not installed" := nvra.text_ne (by decide)
      simpa [NodeRun.serve, Host.respond, works, Output.text, Host.result, installed] using differs
  have asked : (({ host := host } : NodeRun).serve extensions chances (.queryInstalled "kata-containers")).2 =
      ⟨host, [.queryInstalled "kata-containers"]⟩ := by
    cases works : (chances 0).works <;>
      simp [NodeRun.serve, Host.respond, works, Host.effect, Host.effectSoFar]
  unfold uninstallRun uninstallKata
  rw [eval_capture_bind]
  simp only [goesOn, if_false, asked]
  cases labels : (chances 1).works with
  | false =>
    unfold setStatusUninstalling
    rw [eval_must_bind_error (by simp [NodeRun.serve, Host.respond, labels])]
    simp [LabelsOnly, NodeRun.serve]
  | true =>
    unfold setStatusUninstalling
    rw [eval_must_bind_ok (by simp [NodeRun.serve, Host.respond, labels, Host.result]), eval_run_bind]
    cases lists : (chances 2).works with
    | false =>
      rw [if_pos (by simp [NodeRun.serve, Host.respond, lists]), eval_exit_bind]
      simp [LabelsOnly, NodeRun.serve]
    | true =>
      rw [if_neg (by simp [NodeRun.serve, Host.respond, lists, Host.result]),
        labelsOnly_uninstallTracked_iff _ _ _ _ (by simp [NodeRun.serve])]
      simp only [true_and]
      rw [← uninstallArgs_eq_nil_iff plain]
      simp [NodeRun.serve, Host.respond, lists, Host.result, labels, Host.effect]

/-- The node is reported clean only if no deployment has kata, exactly if a command
fails before or a package is requested by its bare name, wherever kata is tracked. -/
theorem uninstallKata_honest_iff {arch : String} {packages : List String}
    (known : packagesOf arch = some packages) {host : Host} {nvra : Nvra}
    (installed : host.live.find? (·.name = "kata-containers") = some nvra) :
    (LabelsOnly (uninstallRun extensions chances packages host) → nKata host.deployments = 0) ↔
      (chances 1).works = false ∨ (chances 2).works = false ∨ nKata host.deployments = 0 ∨
        Named packages host.deployments := by
  rw [labelsOnly_uninstallRun_iff extensions chances (packagesOf_plain known) installed]
  cases (chances 1).works <;> cases (chances 2).works <;> simp
  tauto

def kataNvra : Nvra := ⟨"kata-containers", "3.25.0", "7.el9", "s390x"⟩

def layeredHost (requestedPackages : List String) (requestedLocalPackages : List Nvra) : Host where
  arch := "s390x"
  deployments := [⟨false, true, requestedPackages, requestedLocalPackages, [kataNvra]⟩]
  live := [kataNvra]

def bareExtensions : Extensions where
  image := ""
  rpms := []
  installsModule _ := false
  removesModule _ := false
  buildsKernel _ := false

/-- Kata that was requested by name is uninstalled. -/
theorem uninstallKata_honest_named : nKata (layeredHost ["kata-containers"] []).deployments = 1 ∧
      (LabelsOnly (uninstallRun bareExtensions (fun _ => {}) ((packagesOf "s390x").getD [])
        (layeredHost ["kata-containers"] [])) → nKata (layeredHost ["kata-containers"] []).deployments = 0) := by
  constructor
  · decide +kernel
  · have installed : (layeredHost ["kata-containers"] []).live.find? (·.name = "kata-containers") =
        some kataNvra := by decide +kernel
    apply (uninstallKata_honest_iff bareExtensions (fun _ => {})
      (rfl : packagesOf "s390x" = some ((packagesOf "s390x").getD [])) installed).mpr
    exact .inr (.inr (.inr ⟨"kata-containers", by decide, _, List.mem_singleton.mpr rfl, by decide⟩))

/-- Kata that was installed from its RPM, as `install_kata` does it, is still layered
when the node is labelled. -/
theorem uninstallKata_leaves_layered :
    LabelsOnly (uninstallRun bareExtensions (fun _ => {}) ((packagesOf "s390x").getD [])
      (layeredHost [] [kataNvra])) ∧ nKata (layeredHost [] [kataNvra]).deployments = 1 := by
  constructor
  · have log : uninstallRun bareExtensions (fun _ => {}) ((packagesOf "s390x").getD [])
        (layeredHost [] [kataNvra]) = [.queryInstalled "kata-containers", .labelNode .uninstalling, .listTracked,
          .labelNode .uninstalled, .sleep] := by decide +kernel
    rw [log]
    simp [LabelsOnly]
  · decide +kernel

end Uninstall

end SandboxedContainers
