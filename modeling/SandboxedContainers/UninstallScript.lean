import SandboxedContainers.NodeHost
import SandboxedContainers.Lib.Text

/-!
# Uninstalling, command by command

`uninstall_kata` runs under `set -euo pipefail`.  Some of its steps are pipelines, whose status
is that of any command in them that fails; among these commands is a `grep`, which fails when it
prints nothing.  Here the pipelines are taken apart and the script is run on a host where all
other commands succeed.
-/

namespace SandboxedContainers

namespace UninstallScript

open Lib ShellScript

inductive HostTool where
  /-- `rpm -ql`. -/
  | rpmQl (package : String)
  | rm (path : String)
  /-- `find`, for the RPMs of a package. -/
  | find (package : String)
  /-- `rpm -qp --scripts`. -/
  | rpmScripts (rpmPath : String)
  /-- A step that is no pipeline. -/
  | step (command : NodeCommand)
  deriving DecidableEq, Repr

/-- The pattern of a `grep` that is tied to the start of a line; a dot stands for any character. -/
def matchesStart : List Char → List Char → Bool
  | [], _ => true
  | _ :: _, [] => false
  | c :: pattern, d :: text => (c = '.' || c = d) && matchesStart pattern text

def isCrioConfig (file : String) : Bool := matchesStart "/etc/crio/crio.conf.d".toList file.toList

/-- `while read -r file; do rm -f "/host$file"; done`, in a shell under `set -e`. -/
def removeFiles : List String → ShellScript HostTool Nat
  | [] => return 0
  | file :: files => do
    let _ ← must (.rm ("/host" ++ file))
    removeFiles files

/-- The start of the section of a phase in the output of `rpm --scripts`. -/
def opensScriptlet (phase line : String) : Bool :=
  Text.startsWith (phase ++ " scriptlet (using ") line &&
    Text.contains "):" (String.ofList (line.toList.drop (phase ++ " scriptlet (using ").length))

def opensSection (line : String) : Bool :=
  let word := String.ofList (line.toList.takeWhile fun c => 'a' ≤ c ∧ c ≤ 'z')
  word ≠ "" && (opensScriptlet word line || Text.startsWith (word ++ " program:") line)

/-- `gsub("\\$1", argument)`. -/
def putArgument (argument : List Char) : List Char → List Char
  | '$' :: '1' :: rest => argument ++ putArgument argument rest
  | c :: rest => c :: putArgument argument rest
  | [] => []

/-- The `awk` program of `extract_scriptlet`. -/
def scriptletLines (phase : String) (argument : Nat) : Bool → List String → List String
  | _, [] => []
  | found, line :: rest =>
    if opensScriptlet phase line then scriptletLines phase argument true rest
    else if opensSection line then scriptletLines phase argument false rest
    else if found then
      String.ofList (putArgument (toString argument).toList line.toList) :: scriptletLines phase argument found rest
    else scriptletLines phase argument found rest

def phaseName : ScriptletPhase → String
  | .postinstall => "postinstall"
  | .posttrans => "posttrans"
  | .preuninstall => "preuninstall"

/-- A step of the script, by the programs it is made of.  What a substitution captures has no
empty lines at its end. -/
def stepTools : NodeCommand → ShellScript HostTool Output
  | .removeCrioConfigs package => do
    let listed ← run (.rpmQl package)
    let files := listed.lines.filter isCrioConfig
    let removed ← Routine.attempt (removeFiles files)
    return ⟨pipefail [listed.status, if files = [] then 1 else 0, exitStatus removed], []⟩
  | .findRpm package => do
    let found ← run (.find package)
    return ⟨found.status, found.lines.take 1⟩
  | .extractScriptlet phase rpmPath argument => do
    let scripts ← run (.rpmScripts rpmPath)
    return ⟨scripts.status, (scriptletLines (phaseName phase) argument false scripts.lines).rdropWhile (· = "")⟩
  | command => run (.step command)

/-- A host on which kata is installed and every program that the script starts up to the restart
of CRI-O succeeds: what the programs print there. -/
structure WorkingHost where
  kataVersion : String
  installed : kataVersion ≠ "package kata-containers is not installed"
  requested : List String
  files : String → List String
  rpms : String → List String
  scripts : String → List String
  restart : Output

def WorkingHost.answer (host : WorkingHost) : HostTool → Output
  | .rpmQl package => ⟨0, host.files package⟩
  | .rm _ => {}
  | .find package => ⟨0, host.rpms package⟩
  | .rpmScripts rpmPath => ⟨0, host.scripts rpmPath⟩
  | .step (.queryInstalled _) => ⟨0, [host.kataVersion]⟩
  | .step .listTracked => ⟨0, host.requested⟩
  | .step .restartCrio => host.restart
  | .step _ => {}

def WorkingHost.serve (host : WorkingHost) (executed : List HostTool) (tool : HostTool) :
    Output × List HostTool :=
  (host.answer tool, executed ++ [tool])

def WorkingHost.uninstall (host : WorkingHost) (packages : List String) : List HostTool :=
  ((uninstallKata packages).eval (nested host.serve stepTools) () []).2

def WorkingHost.tracked (host : WorkingHost) (packages : List String) : List String :=
  packages.filter fun package => package ∈ host.requested

def WorkingHost.ownsCrioConfig (host : WorkingHost) (package : String) : Bool := (host.files package).any isCrioConfig

/-- `rpm-ostree` is told to uninstall these packages, and nothing else, and the node is labelled
after that. -/
def Uninstalls (packages : List String) (executed : List HostTool) : Prop :=
  ∃ before after, executed = before ++ .step (.ostreeUninstall packages) :: after ∧
    .step (.labelNode .uninstalled) ∈ after ∧
    ∀ others, .step (.ostreeUninstall others) ∈ before ++ after → others = packages

section Evaluation

variable (host : WorkingHost) (executed : List HostTool)

theorem removeFiles_eval (files : List String) : (removeFiles files).eval host.serve () executed =
      ((.ok 0, ()), executed ++ files.map fun file => .rm ("/host" ++ file)) := by
  induction files generalizing executed with
  | nil => simp [removeFiles]
  | cons file files ih =>
    rw [removeFiles, eval_must_bind_ok rfl, ih]
    simp [WorkingHost.serve]

theorem pipefail_grep (files : List String) (p : String → Bool) :
    pipefail [0, if files.filter p = [] then 1 else 0, 0] = if files.any p then 0 else 1 := by
  by_cases found : files.any p
  · have some : files.filter p ≠ [] := by simpa [List.filter_eq_nil_iff] using found
    rw [if_neg some, if_pos found]
    rfl
  · have none : files.filter p = [] := by simpa [List.filter_eq_nil_iff] using found
    rw [if_pos none, if_neg found]
    rfl

theorem removeCrioConfigs_nested (package : String) :
    nested host.serve stepTools executed (.removeCrioConfigs package) =
      (⟨if host.ownsCrioConfig package then 0 else 1, []⟩, executed ++ [.rpmQl package] ++
        ((host.files package).filter isCrioConfig).map fun file => .rm ("/host" ++ file)) := by
  rw [nested, stepTools, eval_run_bind,
    Routine.eval_bind_ok (Routine.eval_attempt (removeFiles_eval host _ _))]
  exact congrArg (Prod.mk · _) (congrArg (Output.mk · _) (pipefail_grep _ _))

/-- The program leaves the deployments of `rpm-ostree` alone. -/
def Harmless (tool : HostTool) : Prop := ∀ packages, tool ≠ .step (.ostreeUninstall packages)

theorem nested_harmless (command : NodeCommand) (other : ∀ packages, command ≠ .ostreeUninstall packages) :
    ∃ tools, (nested host.serve stepTools executed command).2 = executed ++ tools ∧ ∀ tool ∈ tools, Harmless tool := by
  cases command
  case removeCrioConfigs package =>
    rw [removeCrioConfigs_nested host executed package, List.append_assoc]
    refine ⟨_, rfl, List.forall_mem_append.mpr ⟨by simp [Harmless], ?_⟩⟩
    intro tool member
    obtain ⟨file, _, rfl⟩ := List.mem_map.mp member
    exact fun packages => nofun
  case findRpm package => exact ⟨[.find package], rfl, by simp [Harmless]⟩
  case extractScriptlet phase rpmPath argument => exact ⟨[.rpmScripts rpmPath], rfl, by simp [Harmless]⟩
  all_goals
    refine ⟨[.step _], rfl, List.forall_mem_singleton.mpr ?_⟩
    intro packages same
    exact other packages (HostTool.step.inj same)

theorem preUninstall_result (package : String) :
    ((preUninstall package).eval (nested host.serve stepTools) () executed).1.1 =
      if host.ownsCrioConfig package then .ok ⟨⟩ else .error 1 := by
  unfold preUninstall
  by_cases owned : host.ownsCrioConfig package
  · rw [eval_must_bind_ok (by rw [removeCrioConfigs_nested host executed package, if_pos owned]), if_pos owned]
    generalize (nested host.serve stepTools executed (.removeCrioConfigs package)).2 = executed
    have path : (findRpm package).eval (nested host.serve stepTools) () executed =
        ((.ok (((host.rpms package).take 1).headD ""), ()), executed ++ [.find package]) := rfl
    rw [Routine.eval_bind_ok path]
    split
    · unfold runScriptlet
      rw [eval_must_bind_ok rfl]
      dsimp only
      split
      · rfl
      · rfl
    · rfl
  · rw [eval_must_bind_error (by rw [removeCrioConfigs_nested host executed package, if_neg owned]; exact Nat.one_ne_zero),
      removeCrioConfigs_nested host executed package, if_neg owned, if_neg owned]

theorem preUninstalls_result (packages : List String) :
    ((packages.forM preUninstall).eval (nested host.serve stepTools) () executed).1.1 =
      if ∀ package ∈ packages, host.ownsCrioConfig package then .ok ⟨⟩ else .error 1 := by
  induction packages generalizing executed with
  | nil => rfl
  | cons package packages ih =>
    have first := preUninstall_result host executed package
    rcases ended : (preUninstall package).eval (nested host.serve stepTools) () executed with ⟨⟨result, ⟨⟩⟩, executed'⟩
    rw [ended] at first
    by_cases owned : host.ownsCrioConfig package
    · rw [if_pos owned] at first
      subst first
      rw [List.forM, Routine.eval_bind_ok ended, ih]
      simp [owned]
    · rw [if_neg owned] at first
      subst first
      rw [List.forM, Routine.eval_bind_error ended]
      simp [owned]

theorem preUninstalls_harmless (packages : List String) :
    ∃ tools, ((packages.forM preUninstall).eval (nested host.serve stepTools) () executed).2 = executed ++ tools ∧
      ∀ tool ∈ tools, Harmless tool :=
  (Routine.Inquiry.forM inquiry_preUninstall packages).eval_log (l := id)
    (fun executed command allowed => nested_harmless host executed command allowed.2) () executed

end Evaluation

def opening : List HostTool :=
  [.step (.queryInstalled "kata-containers"), .step (.labelNode .uninstalling), .step .listTracked]

theorem uninstall_eq (host : WorkingHost) (packages : List String) : host.uninstall packages =
      ((uninstallTracked (host.tracked packages)).eval (nested host.serve stepTools) () opening).2 := by
  have goesOn : ((nested host.serve stepTools [] (.queryInstalled "kata-containers")).1.text =
      "package kata-containers is not installed") = False := eq_false host.installed
  rw [WorkingHost.uninstall, uninstallKata, eval_capture_bind]
  simp only [goesOn, if_false]
  rfl

/-- Where nothing else fails, the script gets to `rpm-ostree` if and only if every tracked
package owns a configuration of CRI-O. -/
theorem uninstall_gets_to_ostree_iff (host : WorkingHost) (packages : List String)
    (nonempty : host.tracked packages ≠ []) :
    Uninstalls (host.tracked packages) (host.uninstall packages) ↔
      ∀ package ∈ host.tracked packages, ∃ file ∈ host.files package, isCrioConfig file = true := by
  obtain ⟨tools, added, harmless⟩ := preUninstalls_harmless host opening (host.tracked packages)
  have ended := preUninstalls_result host opening (host.tracked packages)
  rw [uninstall_eq, uninstallTracked, if_neg nonempty]
  generalize host.tracked packages = tracked at *
  rcases evaluated : (tracked.forM preUninstall).eval (nested host.serve stepTools) () opening with ⟨⟨result, ⟨⟩⟩, executed⟩
  rw [evaluated] at added ended
  subst added
  have early : ∀ tool ∈ opening ++ tools, Harmless tool :=
    List.forall_mem_append.mpr ⟨by simp [opening, Harmless], harmless⟩
  by_cases owned : ∀ package ∈ tracked, host.ownsCrioConfig package
  · rw [if_pos owned] at ended
    subst ended
    rw [Routine.eval_bind_ok evaluated, eval_must_bind_ok rfl]
    refine iff_of_true ?_ (fun package member => List.any_eq_true.mp (owned package member))
    rw [setStatusUninstalled, eval_must_bind_ok rfl]
    have closing : Routine.Inquiry (fun command => ∀ packages, command ≠ .ostreeUninstall packages) (do
        let _ ← must .restartCrio
        sleepInfinity : NodeScript Nat) :=
      (inquiry_must (by simp)).bind fun _ => (inquiry_run (by simp)).bind fun _ => inquiry_exit 0
    obtain ⟨more, closed, later⟩ := closing.eval_log (l := id)
      (fun executed command other => nested_harmless host executed command other) ()
      (opening ++ tools ++ [.step (.ostreeUninstall tracked)] ++ [.step (.labelNode .uninstalled)])
    refine ⟨opening ++ tools, .step (.labelNode .uninstalled) :: more, ?_, List.mem_cons_self, ?_⟩
    · refine closed.trans ?_
      simp
    · intro others member
      have all : ∀ tool ∈ opening ++ tools ++ .step (.labelNode .uninstalled) :: more, Harmless tool :=
        List.forall_mem_append.mpr ⟨early, List.forall_mem_cons.mpr ⟨by simp [Harmless], later⟩⟩
      exact absurd rfl (all _ member others)
  · rw [if_neg owned] at ended
    subst ended
    rw [Routine.eval_bind_error evaluated]
    refine iff_of_false ?_ (fun all => owned fun package member => List.any_eq_true.mpr (all package member))
    rintro ⟨before, after, same, _⟩
    have member : .step (.ostreeUninstall tracked) ∈ opening ++ tools := by
      rw [show opening ++ tools = _ from same]
      simp
    exact early _ member tracked rfl

def layeredHost (requested : List String) : WorkingHost where
  kataVersion := "kata-containers-3.25.0-7.el9.s390x"
  installed := by decide
  requested := requested
  files package := if package = "kata-containers" then ["/etc/crio/crio.conf.d/50-kata"] else ["/usr/bin/" ++ package]
  rpms _ := []
  scripts _ := []
  restart := {}

def s390xPackages : List String := (packagesOf "s390x").getD []

theorem uninstall_gets_to_ostree_kata : (layeredHost ["kata-containers"]).tracked s390xPackages ≠ [] ∧
      Uninstalls ["kata-containers"] ((layeredHost ["kata-containers"]).uninstall s390xPackages) :=
  ⟨by decide, (uninstall_gets_to_ostree_iff (layeredHost ["kata-containers"]) s390xPackages (by decide)).mpr (by decide)⟩

/-- The `grep` for `qemu-img` finds nothing, and the script ends there. -/
theorem uninstall_stops_at_grep :
    (layeredHost ["kata-containers", "qemu-img"]).tracked s390xPackages = ["kata-containers", "qemu-img"] ∧
      (layeredHost ["kata-containers", "qemu-img"]).uninstall s390xPackages =
        opening ++ [.rpmQl "kata-containers", .rm "/host/etc/crio/crio.conf.d/50-kata", .find "kata-containers",
          .rpmQl "qemu-img"] ∧
      ¬ Uninstalls ["kata-containers", "qemu-img"]
        ((layeredHost ["kata-containers", "qemu-img"]).uninstall s390xPackages) := by
  have executed : (layeredHost ["kata-containers", "qemu-img"]).uninstall s390xPackages =
      opening ++ [.rpmQl "kata-containers", .rm "/host/etc/crio/crio.conf.d/50-kata", .find "kata-containers",
        .rpmQl "qemu-img"] := by decide +kernel
  refine ⟨by decide +kernel, executed, ?_⟩
  rw [executed]
  rintro ⟨before, after, same, _⟩
  have member : .step (.ostreeUninstall ["kata-containers", "qemu-img"]) ∈ before ++
      .step (.ostreeUninstall ["kata-containers", "qemu-img"]) :: after := by simp
  rw [← same] at member
  simp [opening] at member

end UninstallScript

end SandboxedContainers
