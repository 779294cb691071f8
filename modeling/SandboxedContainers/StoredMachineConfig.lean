import SandboxedContainers.ServerReads
import SandboxedContainers.StatusLists

/-!
# The MachineConfig that is stored

`createMc` builds the MachineConfig that installs kata and makes sure that one of its name is
stored.  A stored one gets the new spec where that differs; its labels stay as they are, among
them the role, by which a pool picks it up, and the name of the `KataConfig`, by which later
reconciliations find it.
-/

namespace SandboxedContainers

open Lib Routine

namespace StoredMachineConfig

def mcKey (mc : MachineConfig) : Key := ⟨"", mc.metadata.name⟩

/-- The labels that others go by are those of `built`. -/
def LabelledAs (built stored : MachineConfig) : Prop :=
  stored.metadata.labels.lookup mcRoleLabel = built.metadata.labels.lookup mcRoleLabel ∧
    stored.metadata.labels.lookup "app" = built.metadata.labels.lookup "app"

section Built

theorem looks_newMCForCR (settings : Settings) (machinePool : String) (customKernelCfg : Option CustomKernelConfig) :
    Looks IsRead (newMCForCR settings machinePool customKernelCfg) := by
  have extension : Looks IsRead (getExtensionName settings) :=
    (inquiry_getExtensionName settings).looks.mono fun _ query => query.1
  unfold newMCForCR
  grind

end Built

section Runs

variable {settings : Settings} {machinePool : String} {customKernelCfg : Option CustomKernelConfig}
  {memory memory' : Reconciler} {s s' : Cluster} {log : List Exchange} {created : Bool}

/-- The server has accepted the creation of this MachineConfig. -/
def Accepted (mc : MachineConfig) (log : List Exchange) : Prop :=
  ∃ answer, (⟨.create .machineConfig (inScope mc), .ok answer⟩ : Exchange) ∈ log

theorem not_accepted_of_reads {mc : MachineConfig} (reads : ∀ entry ∈ log, IsRead entry.1) : ¬ Accepted mc log := by
  rintro ⟨answer, member⟩
  cases reads _ member

/-- How a call can return nil that has built `mc`. -/
inductive Returned (mc : MachineConfig) (s s' : Cluster) (log : List Exchange) : Bool → Prop where
  | created : s.find? .machineConfig (mcKey mc) = none →
      s'.find? .machineConfig (mcKey mc) = some (s.newborn (inScope mc)) → Accepted mc log → Returned mc s s' log true
  | present {existing stored : MachineConfig} : s.find? .machineConfig (mcKey mc) = some existing →
      s'.find? .machineConfig (mcKey mc) = some stored → specOfMc stored = specOfMc mc →
      stored.metadata.labels = existing.metadata.labels → ¬ Accepted mc log → Returned mc s s' log false

def withSpec (mc : MachineConfig) (spec : MachineConfigSpec) : MachineConfig := { mc with body := spec }

theorem clientUpdate_spec {existing answer : MachineConfig} {name : String} {spec : MachineConfigSpec}
    (runs : Prog.Runs Answered (clientUpdate (withSpec existing spec) memory) s log (.ok answer, memory') s')
    (found : s.find? .machineConfig ⟨"", name⟩ = some existing) :
    ∃ stored : MachineConfig, s'.find? .machineConfig ⟨"", name⟩ = some stored ∧ specOfMc stored = spec ∧
      stored.metadata.labels = existing.metadata.labels := by
  obtain ⟨response, answered, _, ended⟩ := call_runs
    (.update .machineConfig (inScope (withSpec existing spec))) id runs
  cases response with
  | error error => cases ended
  | ok accepted =>
    have sameKey := (Collection.find?_mem found).2
    have clusterKey : (inScope (withSpec existing spec)).key = ⟨"", name⟩ := by
      rw [key_inScope]
      exact congrArg (fun key : Key => (⟨"", key.name⟩ : Key)) sameKey
    exact ⟨_, find?_of_updated answered clusterKey found rfl, rfl, rfl⟩

theorem createMc_returned
    (runs : Prog.Runs Answered (createMc settings machinePool customKernelCfg memory) s log (.ok created, memory') s') :
    ∃ mc first rest, log = first ++ rest ∧
      Prog.Runs Answered (newMCForCR settings machinePool customKernelCfg memory) s first (.ok mc, memory) s ∧
      Returned mc s s' log created := by
  obtain ⟨mc, memory₁, between, first, rest, built, later, rfl⟩ := of_runs_bind runs
  have looks := looks_newMCForCR settings machinePool customKernelCfg
  obtain ⟨rfl, reads⟩ := looks.runs built
  obtain rfl := unchanged_of_reads looks.1 built
  refine ⟨mc, first, rest, rfl, built, ?_⟩
  obtain ⟨read, memory₂, between₂, log₁, log₂, ran, ends, rfl⟩ := runs_attempt_bind later
  obtain ⟨response, answered, rfl, ended⟩ := call_runs (.get .machineConfig (mcKey mc)) id ran
  have readLog (entry : Exchange) (member : entry ∈ first ++ [⟨.get .machineConfig (mcKey mc), response⟩]) :
      IsRead entry.1 := by
    rcases List.mem_append.mp member with early | late
    · exact reads entry early
    · cases List.mem_singleton.mp late
      rfl
  cases response with
  | error error =>
    obtain rfl : read = .error (.api error) := (Prod.mk.inj ended).1
    obtain rfl := (Prod.mk.inj ended).2
    dsimp only at ends
    split at ends
    · next missing =>
      obtain ⟨rfl, gone⟩ := answered.get_missing missing
      obtain ⟨answer, _, _, creation, _, creates, done, rfl⟩ := of_runs_bind ends
      obtain ⟨response, accepted, rfl, ended⟩ := call_runs (.create .machineConfig (inScope mc)) id creates
      cases response with
      | error error => cases ended
      | ok stored =>
        obtain ⟨_, _, rfl⟩ := accepted.create_ok
        cases done
        refine .created gone (Store.find?_insertNew gone) ⟨stored, ?_⟩
        exact List.mem_append_right _ (List.mem_append_right _ (List.mem_append_left _ (List.mem_singleton_self _)))
    · cases ends
  | ok existing =>
    obtain ⟨rfl, found⟩ := answered.get_ok
    obtain rfl : read = .ok existing := (Prod.mk.inj ended).1
    obtain rfl := (Prod.mk.inj ended).2
    dsimp only at ends
    split at ends
    · obtain ⟨answer, _, _, writing, _, updates, done, rfl⟩ := of_runs_bind ends
      cases done
      obtain ⟨stored, now, spec, labels⟩ := clientUpdate_spec updates found
      refine .present found now spec labels ?_
      rintro ⟨answer, member⟩
      rw [← List.append_assoc] at member
      rcases List.mem_append.mp member with early | late
      · exact not_accepted_of_reads readLog ⟨answer, early⟩
      · obtain ⟨_, _, rfl, _⟩ := call_runs (.update .machineConfig (inScope (withSpec existing mc.body))) id updates
        rw [List.append_nil] at late
        cases List.mem_singleton.mp late
    · next same =>
      cases ends
      rw [List.append_nil]
      exact .present found found (not_not.mp same) rfl (not_accepted_of_reads readLog)

end Runs

end StoredMachineConfig

open StoredMachineConfig

/-- After a nil return the stored MachineConfig has the spec that was built, and its labels
too unless one with other labels was there before. -/
theorem createMc_matches_iff {settings : Settings} {machinePool : String} {customKernelCfg : Option CustomKernelConfig}
    {memory memory' : Reconciler} {s s' : Cluster} {log : List Exchange} {created : Bool}
    (runs : Prog.Runs Answered (createMc settings machinePool customKernelCfg memory) s log (.ok created, memory') s') :
    ∃ mc first rest, log = first ++ rest ∧
      Prog.Runs Answered (newMCForCR settings machinePool customKernelCfg memory) s first (.ok mc, memory) s ∧
      (created = true ↔ Accepted mc log) ∧
      ((∃ stored : MachineConfig, s'.find? .machineConfig (mcKey mc) = some stored ∧ specOfMc stored = specOfMc mc ∧
          LabelledAs mc stored) ↔
        ∀ existing : MachineConfig, s.find? .machineConfig (mcKey mc) = some existing → LabelledAs mc existing) := by
  obtain ⟨mc, first, rest, split, built, returned⟩ := createMc_returned runs
  refine ⟨mc, first, rest, split, built, ?_⟩
  cases returned with
  | created absent now accepted =>
    refine ⟨⟨fun _ => accepted, fun _ => rfl⟩, fun _ existing found => ?_, fun _ => ?_⟩
    · cases absent.symm.trans found
    · exact ⟨_, now, rfl, rfl, rfl⟩
  | present found now spec labels quiet =>
    rename_i existing stored
    have same : LabelledAs mc stored ↔ LabelledAs mc existing := by rw [LabelledAs, LabelledAs, labels]
    refine ⟨⟨nofun, fun accepted => absurd accepted quiet⟩, ?_, fun labelled => ?_⟩
    · rintro ⟨other, found', _, labelled⟩ existing' before
      cases now.symm.trans found'
      cases found.symm.trans before
      exact same.mp labelled
    · exact ⟨stored, now, spec, same.mpr (labelled existing found)⟩

namespace StoredMachineConfig

def extensionSettings : Settings :=
  { plainSettings with
    lookupEnv := fun name => if name = "SANDBOXED_CONTAINERS_EXTENSION" then some "sandboxed-containers" else none }

def leftover : MachineConfig :=
  ⟨{ name := extensionMcName, labels := mcLabels "kata-oc" "other" }, show MachineConfigSpec from {}⟩

def holder : Reconciler := { kataConfig := some exampleKataConfig }

end StoredMachineConfig

theorem createMc_matches_on_empty :
    ∃ log memory' s' mc, Prog.Runs Answered (createMc extensionSettings "kata-oc" none holder) (clusterOf []) log
        (.ok true, memory') s' ∧
      Accepted mc log ∧ ∃ stored : MachineConfig, s'.find? .machineConfig (mcKey mc) = some stored ∧
        specOfMc stored = specOfMc mc ∧ LabelledAs mc stored := by
  obtain ⟨log, runs⟩ := Prog.runs_eval Answered Store.exec (fun _ _ => .inl rfl)
    (createMc extensionSettings "kata-oc" none holder) (clusterOf [])
  obtain ⟨mc, first, rest, _, _, made, kept⟩ := createMc_matches_iff runs
  exact ⟨log, _, _, mc, runs, made.mp rfl, kept.mpr fun existing found => nomatch found⟩

/-- The label of a `KataConfig` that is gone stays on the MachineConfig. -/
theorem createMc_keeps_labels :
    ∃ log memory' s' mc, Prog.Runs Answered (createMc extensionSettings "kata-oc" none holder)
        (clusterOf [.create .machineConfig leftover]) log (.ok false, memory') s' ∧
      Prog.Runs Answered (newMCForCR extensionSettings "kata-oc" none holder)
        (clusterOf [.create .machineConfig leftover]) [] (.ok mc, holder) (clusterOf [.create .machineConfig leftover]) ∧
      ∃ stored : MachineConfig, s'.find? .machineConfig (mcKey mc) = some stored ∧
        stored.metadata.labels.lookup "app" = some "other" ∧ mc.metadata.labels.lookup "app" = some "example" := by
  obtain ⟨log, runs⟩ := Prog.runs_eval Answered Store.exec (fun _ _ => .inl rfl)
    (createMc extensionSettings "kata-oc" none holder) (clusterOf [.create .machineConfig leftover])
  exact ⟨log, _, _, _, runs, .pure, _, rfl, by decide +kernel, by decide +kernel⟩

end SandboxedContainers
