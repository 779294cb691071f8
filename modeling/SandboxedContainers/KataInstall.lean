import SandboxedContainers.Lib.Shell
import SandboxedContainers.NodeStatus

/-!
# The script that installs kata on a node

In the DaemonSet mode `osc-kata-install.sh` runs in a pod on every node.  It layers
the RPMs of an extension image with `rpm-ostree`, takes over what a reboot would do
otherwise, and reports its progress in a label of the node.  It runs under
`set -euo pipefail`: a command that fails ends the run, unless its status is looked at.
-/

namespace SandboxedContainers

open Lib ShellScript

/-- The sections of an RPM whose scriptlets the script runs by hand. -/
inductive ScriptletPhase where
  | postinstall
  | posttrans
  | preuninstall
  deriving DecidableEq, Repr

/-- The commands of the script; those that concern the host run in a chroot. -/
inductive NodeCommand where
  | uname
  | makeDir (path : String)
  | extractContainerImage (image : String) (paths : List String)
  | makeExecutable (path : String)
  /-- `kubectl get` of the label with the version of an IBM Cloud worker. -/
  | workerVersion
  /-- `oc adm release info --image-for rhel-coreos-extensions`. -/
  | releaseImage (version : String)
  | labelNode (state : KataInstallationDaemonSetState)
  /-- The staged deployment drops the kata packages of the booted one. -/
  | stagedRemoval
  /-- The staged deployment has kata packages. -/
  | stagedInstall
  /-- `rpm-ostree cleanup -p`. -/
  | cleanupPending
  /-- `rpm-ostree apply-live --allow-replacement`. -/
  | applyLive
  /-- The first RPM of the extension image for a package. -/
  | findRpm (package : String)
  /-- `rpm -qp`. -/
  | queryRpm (rpmPath : String)
  /-- `rpm -q`. -/
  | queryInstalled (package : String)
  /-- The number of kata packages any deployment requests. -/
  | countTracked
  /-- Everything any deployment requests, one name a line. -/
  | listTracked
  | copyRpm (rpmPath : String)
  | removeDir (path : String)
  | ostreeInstall (uninstallList installRpms : List String)
  | ostreeUninstall (packages : List String)
  /-- The files an RPM has below `/etc`, without the slash. -/
  | listEtcFiles (rpmPath : String)
  /-- `[[ -f "/host/usr/$f" ]]`. -/
  | isUsrFile (file : String)
  /-- `test -e "/$f"`. -/
  | isHostFile (file : String)
  /-- Unpack files of `/usr/etc` in `/etc`. -/
  | copyEtcFiles (files : List String)
  | extractScriptlet (phase : ScriptletPhase) (rpmPath : String) (argument : Nat)
  | runScriptlet (scriptlet : List String)
  | loadPolicy
  /-- The module store lists `osc_monitor`. -/
  | moduleListed
  /-- A process can run as `osc_monitor.process`. -/
  | typeUsable
  | kernelExists
  | buildKernel
  | restartCrio
  /-- Remove the CRI-O configuration an installed package has brought. -/
  | removeCrioConfigs (package : String)
  | addons (action : String)
  | sleep
  deriving DecidableEq, Repr

structure InstallEnv where
  nodeName : String
  cliImage : String
  extensionImage : String
  addonImage : String := ""
  cloudProvider : String := ""

abbrev NodeScript (α : Type) := ShellScript NodeCommand α

def beginsWith (start text : String) : Bool := start.toList.isPrefixOf text.toList

def packagesOf : String → Option (List String)
  | "x86_64" => some ["capstone", "daxctl-libs", "edk2-ovmf", "ipxe-roms-qemu", "kata-containers", "libfdt",
      "libpmem", "libpng", "librdmacm", "ndctl-libs", "pixman", "qemu-img", "qemu-kvm-common", "qemu-kvm-core",
      "seabios-bin", "seavgabios-bin", "virtiofsd"]
  | "s390x" => some ["capstone", "kata-containers", "libfdt", "libpng", "pixman", "qemu-img",
      "qemu-kvm-common", "qemu-kvm-core", "virtiofsd"]
  | _ => none

def setStatusInstalled : NodeScript Output := must (.labelNode .installed)

def setStatusInstalling : NodeScript Output := must (.labelNode .installing)

def setStatusUninstalling : NodeScript Output := must (.labelNode .uninstalling)

def setStatusUninstalled : NodeScript Output := must (.labelNode .uninstalled)

/-- `sleep infinity`: nothing after it ever runs. -/
def sleepInfinity : NodeScript Nat := do
  let _ ← run .sleep
  exit 0

/-- The path of a package's RPM, or nothing if the image has none. -/
def findRpm (package : String) : NodeScript String := do
  return (← must (.findRpm package)).text

/-- What `install_kata` collects about the packages. -/
structure InstallPlan where
  uninstallList : List String := []
  installRpms : List String := []

def comparePackage (plan : InstallPlan) (package : String) : NodeScript InstallPlan := do
  let rpmPath ← findRpm package
  if rpmPath = "" then
    return plan
  let availableVersion := (← must (.queryRpm rpmPath)).text
  let installedVersion ← capture (.queryInstalled package)
  if beginsWith (package ++ "-") installedVersion then
    if installedVersion ≠ availableVersion then
      return ⟨plan.uninstallList ++ [package], plan.installRpms ++ [rpmPath]⟩
    return plan
  return { plan with installRpms := plan.installRpms ++ [rpmPath] }

def addRpm (installRpms : List String) (package : String) : NodeScript (List String) := do
  let rpmPath ← findRpm package
  return if rpmPath = "" then installRpms else installRpms ++ [rpmPath]

/-- With every package up to date, still stage them all if no deployment has kata. -/
def restage (packages installRpms : List String) : NodeScript (List String) := do
  if installRpms ≠ [] then
    return installRpms
  let tracked := (← must .countTracked).text
  if tracked = "" ∨ tracked = "0" then
    packages.foldlM addRpm installRpms
  else return installRpms

def keepFile (test : String → NodeScript Bool) (kept : List String) (file : String) :
    NodeScript (List String) := do
  return if ← test file then kept ++ [file] else kept

/-- The files of an RPM below `/etc` that pass a test; what fails here goes unnoticed. -/
def etcFilesOf (rpmPath : String) (test : String → NodeScript Bool) : NodeScript (List String) := do
  (← run (.listEtcFiles rpmPath)).lines.foldlM (keepFile test) []

def extractEtcFiles (rpmPath : String) : NodeScript PUnit := do
  let realEtcFiles ← etcFilesOf rpmPath fun file => succeeds (.isUsrFile file)
  if realEtcFiles ≠ [] then
    let _ ← must (.copyEtcFiles realEtcFiles)

/-- Run a scriptlet of an RPM, if it has one: with 1 on installation, 0 on removal. -/
def runScriptlet (rpmPath : String) (phase : ScriptletPhase) (argument : Nat) : NodeScript PUnit := do
  let scriptlet := (← must (.extractScriptlet phase rpmPath argument)).lines
  if scriptlet ≠ [] then
    let _ ← must (.runScriptlet scriptlet)

def extensionsDir : String := "/host/tmp/extensions/"

/-- Stage the packages and do by hand what would wait for the next boot. -/
def freshInstall (uninstallList installRpms : List String) : NodeScript PUnit := do
  let _ ← setStatusInstalling
  let _ ← must (.makeDir extensionsDir)
  installRpms.forM fun rpmPath => do
    let _ ← must (.copyRpm rpmPath)
  let _ ← must (.ostreeInstall uninstallList installRpms)
  let _ ← must .applyLive
  installRpms.forM extractEtcFiles
  [ScriptletPhase.postinstall, .posttrans].forM fun phase =>
    installRpms.forM fun rpmPath => runScriptlet rpmPath phase 1
  let _ ← must .loadPolicy
  let _ ← must (.removeDir extensionsDir)

/-- Bring back files of a package's RPM that `/etc` lacks, and remember that CRI-O
has to be restarted for them. -/
def repairEtcFiles (needsCrioRestart : Bool) (package : String) : NodeScript Bool := do
  let rpmPath ← findRpm package
  if rpmPath = "" then
    return needsCrioRestart
  let repairFiles ← etcFilesOf rpmPath fun file => do
    if ← succeeds (.isUsrFile file) then
      return !(← succeeds (.isHostFile file))
    else return false
  if repairFiles ≠ [] then
    let _ ← must (.copyEtcFiles repairFiles)
    return true
  return needsCrioRestart

def rerunScriptlets (package : String) : NodeScript PUnit := do
  let rpmPath ← findRpm package
  if rpmPath ≠ "" then
    [ScriptletPhase.postinstall, .posttrans].forM fun phase => runScriptlet rpmPath phase 1

/-- The SELinux module is in the store and in the policy the kernel has loaded. -/
def ensureModule (packages : List String) : NodeScript PUnit := do
  if !(← succeeds .moduleListed) then
    packages.forM rerunScriptlets
    let _ ← must .loadPolicy
  if ← succeeds .moduleListed then
    if !(← succeeds .typeUsable) then
      let _ ← must .loadPolicy

def osbuilderImages : String := "/var/cache/kata-containers/osbuilder-images"

def ensureKernel (env : InstallEnv) : NodeScript PUnit := do
  if env.cloudProvider ≠ "ibmcloud" then
    if !(← succeeds .kernelExists) then
      let _ ← must (.makeDir osbuilderImages)
      let _ ← must .buildKernel

/-- The checks for what a prior run may have left undone. -/
def verifyInstall (env : InstallEnv) (packages : List String) (fresh : Bool) : NodeScript PUnit := do
  let needsCrioRestart ← packages.foldlM repairEtcFiles fresh
  ensureModule packages
  ensureKernel env
  -- The restart kills this pod, so the label comes first.
  let _ ← setStatusInstalled
  if needsCrioRestart then
    let _ ← must .restartCrio

def installKata (env : InstallEnv) (packages : List String) : NodeScript PUnit := do
  if ← succeeds .stagedRemoval then
    let _ ← must .cleanupPending
  if ← succeeds .stagedInstall then
    let _ ← must .applyLive
  let plan ← packages.foldlM comparePackage {}
  let installRpms ← restage packages plan.installRpms
  if installRpms ≠ [] then
    freshInstall plan.uninstallList installRpms
  verifyInstall env packages (installRpms ≠ [])

def preUninstall (package : String) : NodeScript PUnit := do
  let _ ← must (.removeCrioConfigs package)
  let rpmPath ← findRpm package
  if rpmPath ≠ "" then
    runScriptlet rpmPath .preuninstall 0

/-- The end of `uninstall_kata`, once it is known what there is to uninstall. -/
def uninstallTracked (uninstallArgs : List String) : NodeScript Nat := do
  if uninstallArgs = [] then
    let _ ← setStatusUninstalled
    return ← sleepInfinity
  uninstallArgs.forM preUninstall
  let _ ← must (.ostreeUninstall uninstallArgs)
  let _ ← setStatusUninstalled
  let _ ← must .restartCrio
  sleepInfinity

def uninstallKata (packages : List String) : NodeScript Nat := do
  let installedVersion ← capture (.queryInstalled "kata-containers")
  if installedVersion = "package kata-containers is not installed" then
    let _ ← setStatusUninstalled
    return ← sleepInfinity
  let _ ← setStatusUninstalling
  let ostreePkgList ← run .listTracked
  if ostreePkgList.status ≠ 0 then
    exit 1
  uninstallTracked (packages.filter fun package => package ∈ ostreePkgList.lines)

def isBlank (text : String) : Bool := text.toList.all Char.isWhitespace

/-- The part of a worker's version before the first underscore. -/
def getWorkerNodeVersionIbmcloud : NodeScript String := do
  let rawVersion ← run .workerVersion
  if rawVersion.status ≠ 0 ∨ isBlank rawVersion.text then
    exit 1
  let version := String.ofList (rawVersion.text.toList.takeWhile (· ≠ '_'))
  if isBlank version then
    exit 1
  return version

def getExtensionImage (version : String) : NodeScript String := do
  let image ← run (.releaseImage version)
  if image.status ≠ 0 ∨ isBlank image.text then
    exit 1
  return image.text

def rpmExtensions (env : InstallEnv) : NodeScript PUnit := do
  let extensionImage ← if env.cloudProvider = "ibmcloud" then do
      getExtensionImage (← getWorkerNodeVersionIbmcloud)
    else pure env.extensionImage
  let _ ← must (.makeDir "/usr/share/rpm-ostree/extensions")
  let _ ← must (.extractContainerImage extensionImage ["/usr/share/rpm-ostree/extensions"])

def clientTools (env : InstallEnv) : NodeScript PUnit := do
  let _ ← must (.makeDir "/usr/bin")
  let _ ← must (.extractContainerImage env.cliImage ["/usr/bin/oc", "/usr/bin/kubectl"])
  let _ ← must (.makeExecutable "/usr/bin/oc")
  let _ ← must (.makeExecutable "/usr/bin/kubectl")

def addons (env : InstallEnv) (action : String) : NodeScript PUnit := do
  if env.addonImage ≠ "" then
    let _ ← must (.addons action)

def oscKataInstall (env : InstallEnv) (action : String) : NodeScript Nat := do
  let arch := (← must .uname).text
  match packagesOf arch with
  | none => exit 1
  | some packages =>
    if env.nodeName = "" ∨ env.cliImage = "" ∨ env.extensionImage = "" then
      exit 1
    match action with
    | "install" =>
      clientTools env
      rpmExtensions env
      installKata env packages
      addons env "install"
      let _ ← run (.queryInstalled "kata-containers")
      sleepInfinity
    | "uninstall" =>
      clientTools env
      addons env "uninstall"
      uninstallKata packages
    | _ => exit 1

end SandboxedContainers
