import SandboxedContainers.KataInstall
import SandboxedContainers.ServerReads
import SandboxedContainers.StatusLists

/-!
# The kernel addon

The config map `kata-addon-artifacts` names an image and the path of a kernel in it.  In the
MachineConfig mode `getCustomKernelConfig` reads it and wants both; in the DaemonSet mode
`getAddonEnvVars` turns each entry that is there into an environment variable of the install
script, which runs the addon script whenever it finds the image.
-/

namespace SandboxedContainers

open Lib Routine

namespace KernelAddon

def addonKey : Key := ⟨operatorNamespace, kataAddonConfigMapName⟩

/-- An entry of the config map, with the empty text where it or the map is missing. -/
def addonEntry (s : Cluster) (name : String) : String :=
  match s.find? .configMap addonKey with
  | none => ""
  | some configMap => dataAt configMap name

def envValue (env : List EnvVar) (name : String) : Option String :=
  (env.find? fun entry => entry.name = name).map EnvVar.value

section Readers

variable {memory memory' : Reconciler} {s s' : Cluster} {log : List Exchange}

theorem addon_read {result : Except Err ConfigMap} (served : s.served .configMap = true)
    (runs : Prog.Runs Served (clientGet .configMap addonKey memory) s log (result, memory') s') :
    memory' = memory ∧ s' = s ∧
      ((∃ configMap, result = .ok configMap ∧ s.find? .configMap addonKey = some configMap) ∨
        (result = .error (.api Store.notFound) ∧ s.find? .configMap addonKey = none)) := by
  obtain ⟨response, answered, _, ended⟩ := call_runs (.get .configMap addonKey) id runs
  unfold Served at answered
  cases found : s.find? .configMap addonKey with
  | none =>
    simp only [Store.exec, served, if_true, found] at answered
    cases answered
    cases ended
    exact ⟨rfl, rfl, .inr ⟨rfl, rfl⟩⟩
  | some configMap =>
    simp only [Store.exec, served, if_true, found] at answered
    cases answered
    cases ended
    exact ⟨rfl, rfl, .inl ⟨configMap, rfl, rfl⟩⟩

def addonVariables (image kernelPath : String) : List EnvVar :=
  (if image = "" then [] else [⟨"ADDON_IMAGE", image⟩]) ++
    if kernelPath = "" then [] else [⟨"ADDON_KERNEL_PATH", kernelPath⟩]

theorem addonEnvVarsOf_eq (configMap : ConfigMap) :
    addonEnvVarsOf configMap = addonVariables (dataAt configMap "addonImage") (dataAt configMap "kernelPath") := by
  unfold addonEnvVarsOf addonVariables
  by_cases image : dataAt configMap "addonImage" = ""
  · by_cases kernel : dataAt configMap "kernelPath" = "" <;> simp [image, kernel]
  · by_cases kernel : dataAt configMap "kernelPath" = "" <;> simp [image, kernel]

theorem getAddonEnvVars_served {ε : Type} {result : Except ε (List EnvVar)} (served : s.served .configMap = true)
    (runs : Prog.Runs Served ((getAddonEnvVars : Op ε (List EnvVar)) memory) s log (result, memory') s') :
    result = .ok (addonVariables (addonEntry s "addonImage") (addonEntry s "kernelPath")) := by
  obtain ⟨read, memory₁, between, first, rest, ran, ends, rfl⟩ := runs_attempt_bind runs
  obtain ⟨rfl, rfl, ⟨configMap, rfl, found⟩ | ⟨rfl, absent⟩⟩ := addon_read served ran
  · cases ends
    rw [addonEnvVarsOf_eq, addonEntry, addonEntry, found]
  · cases ends
    rw [addonEntry, addonEntry, absent]
    rfl

def kernelConfig (image kernelPath : String) : Option CustomKernelConfig :=
  if image = "" ∨ kernelPath = "" then none else some ⟨image, kernelPath⟩

theorem getCustomKernelConfig_served {result : Except Err (Option CustomKernelConfig)}
    (served : s.served .configMap = true)
    (runs : Prog.Runs Served (getCustomKernelConfig memory) s log (result, memory') s') :
    result = .ok (kernelConfig (addonEntry s "addonImage") (addonEntry s "kernelPath")) := by
  obtain ⟨read, memory₁, between, first, rest, ran, ends, rfl⟩ := runs_attempt_bind runs
  obtain ⟨rfl, rfl, ⟨configMap, rfl, found⟩ | ⟨rfl, absent⟩⟩ := addon_read served ran
  · dsimp only at ends
    rw [addonEntry, addonEntry, found, kernelConfig]
    split at ends
    · next blank =>
        cases ends
        exact congrArg _ (if_pos blank).symm
    · next filled =>
        cases ends
        exact congrArg _ (if_neg filled).symm
  · cases ends
    rw [addonEntry, addonEntry, absent]
    rfl

end Readers

section Variables

variable {image kernelPath : String}

theorem envValue_append_of_none {env more : List EnvVar} {name : String} (unset : envValue env name = none) :
    envValue (env ++ more) name = envValue more name := by
  unfold envValue at unset ⊢
  rw [Option.map_eq_none_iff] at unset
  rw [List.find?_append, unset, Option.none_or]

theorem envValue_image :
    envValue (addonVariables image kernelPath) "ADDON_IMAGE" = if image = "" then none else some image := by
  unfold envValue addonVariables
  by_cases noImage : image = ""
  · by_cases noKernel : kernelPath = "" <;> simp [noImage, noKernel]
  · simp [noImage]

theorem envValue_kernelPath : envValue (addonVariables image kernelPath) "ADDON_KERNEL_PATH" =
      if kernelPath = "" then none else some kernelPath := by
  unfold envValue addonVariables
  by_cases noImage : image = ""
  · by_cases noKernel : kernelPath = "" <;> simp [noImage, noKernel]
  · by_cases noKernel : kernelPath = "" <;> simp [noImage, noKernel]

end Variables

/-- The two modes agree: the image is in the environment exactly when there is a
configuration, and then both say the same. -/
def Agree (env : List EnvVar) (config : Option CustomKernelConfig) : Prop :=
  ((envValue env "ADDON_IMAGE").isSome = true ↔ config.isSome = true) ∧
    ∀ customKernelCfg, config = some customKernelCfg →
      envValue env "ADDON_IMAGE" = some customKernelCfg.image ∧
        envValue env "ADDON_KERNEL_PATH" = some customKernelCfg.kernelPath

theorem agree_iff {image kernelPath : String} :
    Agree (addonVariables image kernelPath) (kernelConfig image kernelPath) ↔ ¬ (image ≠ "" ∧ kernelPath = "") := by
  rw [Agree, envValue_image, envValue_kernelPath, kernelConfig]
  by_cases noImage : image = ""
  · simp [noImage]
  · by_cases noKernel : kernelPath = ""
    · simp [noImage, noKernel]
    · refine ⟨fun _ half => noKernel half.2, fun _ => ⟨by simp [noImage, noKernel], ?_⟩⟩
      rintro _ same
      rw [if_neg (not_or.mpr ⟨noImage, noKernel⟩)] at same
      cases same
      exact ⟨if_neg noImage, if_neg noKernel⟩

section Script

variable {settings : Settings} {memory memory' : Reconciler} {s s' : Cluster} {log : List Exchange}

def scriptEnv (nodeName : String) (env : List EnvVar) : InstallEnv where
  nodeName := nodeName
  cliImage := (envValue env "CLI_IMAGE").getD ""
  extensionImage := (envValue env "EXTENSION_IMAGE").getD ""
  addonImage := (envValue env "ADDON_IMAGE").getD ""
  cloudProvider := (envValue env "CLOUD_PROVIDER").getD ""

def Noted (commands : List NodeCommand) (command : NodeCommand) (_ : Output) (commands' : List NodeCommand) : Prop :=
  commands' = commands ++ [command]

/-- The addon script is called, with an image but without the path of a kernel. -/
def CalledInVain (env : List EnvVar) (commands : List NodeCommand) : Prop :=
  (∃ action, .addons action ∈ commands) ∧ envValue env "ADDON_IMAGE" ≠ none ∧ envValue env "ADDON_KERNEL_PATH" = none

def installScript : List String := ["/bin/bash", "/scripts/osc-kata-install.sh"]

/-- No run of the install script of a DaemonSet that is built in this cluster calls the addon
script in vain. -/
def ScriptSafe (settings : Settings) (s : Cluster) : Prop :=
  ∀ action memory log ds memory' s',
    Prog.Runs Served (daemonSetForKataInstall settings action memory) s log (.ok ds, memory') s' →
    ∀ container ∈ (templateOf ds).containers, container.command = installScript →
    ∀ nodeName argument scriptLog outcome commands,
      Prog.Runs Noted (oscKataInstall (scriptEnv nodeName container.env) argument ()) [] scriptLog outcome commands →
      ¬ CalledInVain container.env commands

theorem looks_getImageForComponent (componentName : String) : Looks IsRead (getImageForComponent componentName) := by
  unfold getImageForComponent getClusterVersion
  grind

theorem looks_getCloudProviderFromInfra : Looks IsRead getCloudProviderFromInfra := by
  unfold getCloudProviderFromInfra
  grind

theorem looks_getAddonEnvVars : Looks IsRead (getAddonEnvVars : Op Err (List EnvVar)) := by
  unfold getAddonEnvVars
  grind

def commonVariables (extensionImage cliImage cloudProvider : String) : List EnvVar :=
  [⟨"NODE_NAME", "spec.nodeName"⟩, ⟨"EXTENSION_IMAGE", extensionImage⟩, ⟨"CLI_IMAGE", cliImage⟩,
    ⟨"NODE_LABEL", kataInstallationDaemonSetLabel⟩, ⟨"CLOUD_PROVIDER", cloudProvider⟩]

theorem daemonSetForKataInstall_env {action : KataDaemonSetAction} {ds : DaemonSet}
    (served : s.served .configMap = true)
    (runs : Prog.Runs Served (daemonSetForKataInstall settings action memory) s log (.ok ds, memory') s')
    {container : Container} (member : container ∈ (templateOf ds).containers)
    (isScript : container.command = installScript) :
    ∃ extensionImage cliImage cloudProvider, container.env = commonVariables extensionImage cliImage cloudProvider ++
      addonVariables (addonEntry s "addonImage") (addonEntry s "kernelPath") := by
  obtain ⟨extensionImage, _, _, _, runs₁⟩ := served_of_reads (looks_getImageForComponent _) runs
  obtain ⟨cliImage, _, _, _, runs₂⟩ := served_of_reads (looks_getImageForComponent _) runs₁
  obtain ⟨_, _, _, _, runs₃⟩ := served_of_reads
    (inquiry_getNodeSelectorAsMap (isRead_get _) (isRead_list _ _)).looks runs₂
  obtain ⟨_, _, _, _, runs₄⟩ := served_of_reads looks_reconciler runs₃
  obtain ⟨_, _, _, _, runs₅⟩ := served_of_reads looks_getCloudProviderFromInfra.attempt runs₄
  obtain ⟨addonEnvVars, _, _, ran, runs₆⟩ := served_of_reads looks_getAddonEnvVars runs₅
  cases getAddonEnvVars_served served ran
  cases runs₆
  rcases List.mem_cons.mp member with rfl | other
  · exact ⟨extensionImage, cliImage, _, rfl⟩
  · cases List.mem_singleton.mp other
    exact absurd isScript (show ["/bin/bash", "/scripts/osc-log-level.sh"] ≠ installScript by decide)

theorem scriptSafe_of_whole (served : s.served .configMap = true)
    (whole : ¬ (addonEntry s "addonImage" ≠ "" ∧ addonEntry s "kernelPath" = "")) : ScriptSafe settings s := by
  rintro action memory log ds memory' s' runs container member isScript _ _ _ _ _ _ ⟨_, image, kernelPath⟩
  obtain ⟨extensionImage, cliImage, cloudProvider, env⟩ := daemonSetForKataInstall_env served runs member isScript
  rw [env, envValue_append_of_none (by rfl), envValue_image] at image
  rw [env, envValue_append_of_none (by rfl), envValue_kernelPath] at kernelPath
  apply whole
  constructor
  · intro blank
    exact image (if_pos blank)
  · by_contra filled
    rw [if_neg filled] at kernelPath
    cases kernelPath

end Script

end KernelAddon

open KernelAddon

/-- The modes agree, and the addon script is never called in vain, exactly where the config
map does not name an image without a kernel. -/
theorem kernelAddon_agrees_iff (settings : Settings) {memory memory₁ memory₂ memory₃ : Reconciler}
    {s s₁ s₂ : Cluster} {log log' : List Exchange} {env : Except Err (List EnvVar)}
    {config : Except Err (Option CustomKernelConfig)} (served : s.served .configMap = true)
    (runs : Prog.Runs Served ((getAddonEnvVars : Op Err (List EnvVar)) memory) s log (env, memory₁) s₁)
    (runs' : Prog.Runs Served (getCustomKernelConfig memory₂) s log' (config, memory₃) s₂) :
    ((∃ addonEnvVars customKernelCfg, env = .ok addonEnvVars ∧ config = .ok customKernelCfg ∧
        Agree addonEnvVars customKernelCfg) ∧ ScriptSafe settings s) ↔
      ¬ (addonEntry s "addonImage" ≠ "" ∧ addonEntry s "kernelPath" = "") := by
  obtain rfl := getAddonEnvVars_served served runs
  obtain rfl := getCustomKernelConfig_served served runs'
  constructor
  · rintro ⟨⟨_, _, ⟨rfl⟩, ⟨rfl⟩, agree⟩, _⟩
    exact agree_iff.mp agree
  · intro whole
    exact ⟨⟨_, _, rfl, rfl, agree_iff.mpr whole⟩, scriptSafe_of_whole served whole⟩

namespace KernelAddon

def addonCluster (entries : List (String × String)) : Cluster :=
  clusterOf [.create .configMap ⟨{ name := kataAddonConfigMapName, ns := operatorNamespace },
      show ConfigMapBody from { data := some (StrMap.ofList entries) }⟩,
    .create .clusterVersion ⟨{ name := "version" }, show ClusterVersionBody from ⟨"", "release"⟩⟩,
    .create .releaseInfo ⟨{ name := "release" }, show List ReleaseTag from
      [⟨"rhel-coreos-extensions", some "extensions"⟩, ⟨"cli", some "cli"⟩]⟩]

def onlyImage : List (String × String) := [("addonImage", "addon")]

def quietNode (commands : List NodeCommand) (command : NodeCommand) : Output × List NodeCommand :=
  (if command = .uname then { lines := ["x86_64"] } else {}, commands ++ [command])

def builder : Reconciler := { kataConfig := some exampleKataConfig }

end KernelAddon

theorem kernelAddon_agrees_on_both :
    ∃ env customKernelCfg, env = [⟨"ADDON_IMAGE", "addon"⟩, ⟨"ADDON_KERNEL_PATH", "vmlinuz"⟩] ∧
      customKernelCfg = some ⟨"addon", "vmlinuz"⟩ ∧ Agree env customKernelCfg ∧
      ScriptSafe plainSettings (addonCluster [("addonImage", "addon"), ("kernelPath", "vmlinuz")]) := by
  obtain ⟨log, runs⟩ := Prog.runs_eval Served Store.exec (fun _ _ => rfl)
    ((getAddonEnvVars : Op Err (List EnvVar)) builder)
    (addonCluster [("addonImage", "addon"), ("kernelPath", "vmlinuz")])
  obtain ⟨log', runs'⟩ := Prog.runs_eval Served Store.exec (fun _ _ => rfl) (getCustomKernelConfig builder)
    (addonCluster [("addonImage", "addon"), ("kernelPath", "vmlinuz")])
  obtain ⟨⟨env, customKernelCfg, gave, gave', agree⟩, safe⟩ :=
    (kernelAddon_agrees_iff plainSettings rfl runs runs').mpr (by decide +kernel)
  exact ⟨env, customKernelCfg, (Except.ok.inj gave).symm, (Except.ok.inj gave').symm, agree, safe⟩

/-- An image without a kernel: one mode has no configuration, the other calls the addon
script in vain, on a node that is labelled as installed. -/
theorem kernelAddon_without_kernel :
    (∃ log log', Prog.Runs Served ((getAddonEnvVars : Op Err (List EnvVar)) builder) (addonCluster onlyImage) log
        (.ok [⟨"ADDON_IMAGE", "addon"⟩], builder) (addonCluster onlyImage) ∧
      Prog.Runs Served (getCustomKernelConfig builder) (addonCluster onlyImage) log' (.ok none, builder)
        (addonCluster onlyImage) ∧ ¬ Agree [⟨"ADDON_IMAGE", "addon"⟩] none) ∧
      ∃ log ds, Prog.Runs Served (daemonSetForKataInstall plainSettings .installKata builder) (addonCluster onlyImage) log
          (.ok ds, builder) (addonCluster onlyImage) ∧
        ∃ container ∈ (templateOf ds).containers, container.command = installScript ∧
          ∃ scriptLog outcome commands,
            Prog.Runs Noted (oscKataInstall (scriptEnv "worker" container.env) "install" ()) [] scriptLog outcome
              commands ∧
            .labelNode .installed ∈ commands ∧ CalledInVain container.env commands := by
  obtain ⟨log, runs⟩ := Prog.runs_eval Served Store.exec (fun _ _ => rfl)
    ((getAddonEnvVars : Op Err (List EnvVar)) builder) (addonCluster onlyImage)
  obtain ⟨log', runs'⟩ := Prog.runs_eval Served Store.exec (fun _ _ => rfl) (getCustomKernelConfig builder)
    (addonCluster onlyImage)
  obtain ⟨log'', builds⟩ := Prog.runs_eval Served Store.exec (fun _ _ => rfl)
    (daemonSetForKataInstall plainSettings .installKata builder) (addonCluster onlyImage)
  refine ⟨⟨log, log', runs, runs', fun agree => nomatch agree.1.mp rfl⟩, log'', _, builds, _, .head _, rfl, ?_⟩
  obtain ⟨scriptLog, script⟩ := Prog.runs_eval Noted quietNode (fun _ _ => rfl)
    (oscKataInstall (scriptEnv "worker" _) "install" ()) []
  exact ⟨scriptLog, _, _, script, by decide +kernel, ⟨"install", by decide +kernel⟩, by decide +kernel, by decide +kernel⟩

end SandboxedContainers
