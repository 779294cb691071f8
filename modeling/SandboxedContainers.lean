import SandboxedContainers.PoolSampling
import SandboxedContainers.LabelRace
import SandboxedContainers.LabelCleanup
import SandboxedContainers.UninstallReports
import SandboxedContainers.Admission
import SandboxedContainers.FinalizerFirst
import SandboxedContainers.LayeredImage
import SandboxedContainers.MachineConfigRemoval
import SandboxedContainers.WebhookRemoval
import SandboxedContainers.CrioRestart
import SandboxedContainers.Events
import SandboxedContainers.FailedNodes
import SandboxedContainers.PodvmBuilder
import SandboxedContainers.CipherLists
import SandboxedContainers.ConfidentialClasses
import SandboxedContainers.NodeSelectors
import SandboxedContainers.ProxyOrder
import SandboxedContainers.RuntimeClassRelease
import SandboxedContainers.SecretProvenance
import SandboxedContainers.StoredReports
import SandboxedContainers.ConfidentialToggle
import SandboxedContainers.ImageVersions
import SandboxedContainers.KernelAddon
import SandboxedContainers.StoredMachineConfig
import SandboxedContainers.PluginCleanup
import SandboxedContainers.SecretMapping
import SandboxedContainers.ArtifactWait
import SandboxedContainers.ImageExtraction
import SandboxedContainers.Lib.Upsert
import SandboxedContainers.PluginOwnership
import SandboxedContainers.UninstallScript
import SandboxedContainers.Footprint
