import SandboxedContainers.Lib.Controller
import SandboxedContainers.NodeHost

/-!
# Restarting CRI-O when an install is interrupted

CRI-O knows a runtime only after it has been restarted.  Whether a run of the install
script restarts it is a variable of the run, while the packages and files that make
the restart necessary stay on the host.  A run that is killed between the two leaves
a host on which the next run finds everything in place and nothing to restart for.

`Settled` is the invariant between runs: nothing is owed to CRI-O, and packages that
are staged are live.  It survives every run that is not disturbed while it is exposed,
from staging packages or copying files to the restart.
-/

namespace SandboxedContainers

open Lib ShellScript Routine

structure NodeWorld where
  host : Host
  /-- Packages were made live or files copied to `/etc`, and CRI-O was not restarted. -/
  owed : Bool := false
  /-- Packages were staged or files copied, and CRI-O was not restarted. -/
  exposed : Bool := false

def Chance.acts (chance : Chance) : Bool := chance.works || chance.extent ≠ 0

section Commands

variable (extensions : Extensions)

def Host.copies (chance : Chance) : NodeCommand → Bool
  | .copyEtcFiles _ => chance.acts
  | _ => false

def Host.stages (chance : Chance) (host : Host) : NodeCommand → Bool
  | .ostreeInstall uninstallList installRpms =>
    chance.acts && (host.installed? extensions uninstallList installRpms).isSome
  | _ => false

def NodeWorld.respond (chance : Chance) (w : NodeWorld) (command : NodeCommand) : Output × NodeWorld :=
  let (output, host) := w.host.respond extensions chance command
  let restarted := command = .restartCrio && output.status = 0
  (output,
    { host := host
      owed := !restarted && (w.owed || host.live ≠ w.host.live || Host.copies chance command)
      exposed := !restarted &&
        (w.exposed || w.host.stages extensions chance command || Host.copies chance command) })

/-- The failure of such a command does not end the run. -/
def NodeCommand.tolerated : NodeCommand → Bool
  | .stagedRemoval | .stagedInstall | .queryInstalled _ | .listTracked | .listEtcFiles _ | .isUsrFile _
  | .isHostFile _ | .moduleListed | .typeUsable | .kernelExists | .workerVersion | .releaseImage _ => true
  | _ => false

/-- The install action, run again and again: a run may be killed at any time, and any
command may fail.  If the runs are undisturbed, neither happens while one is exposed. -/
def nodeInstaller (env : InstallEnv) (undisturbed : Bool) :
    Controller NodeCommand (fun _ => Output) NodeWorld Unit Unit (Except Nat Nat) where
  answer w command output w' := command ≠ .sleep ∧
    ∃ chance, w.respond extensions chance command = (output, w') ∧
      (undisturbed = true → w'.exposed = true → command.tolerated = false → output.status = 0)
  env _ _ := False
  body _ := oscKataInstall env "install"
  boot := ()
  start _ w w' := w' = w
  finish _ w w' := w' = w
  crash w w' := (undisturbed = true → w.exposed = false) ∧
    -- The policy of the kernel may revert when the pod is killed.
    (w' = w ∨ w' = { w with host := { w.host with moduleLoaded := false } })

end Commands

/-- The command leaves the deployments, the live packages and CRI-O alone. -/
def NodeCommand.quiet : NodeCommand → Bool
  | .cleanupPending | .applyLive | .ostreeInstall _ _ | .ostreeUninstall _ | .copyEtcFiles _ | .restartCrio
  | .sleep => false
  | _ => true

namespace CrioRestart

/-- Kata packages that are staged are live. -/
def Coherent (host : Host) : Prop :=
  0 < nKata host.staged → ∀ deployment, host.staged.head? = some deployment → host.live = deployment.content

structure Settled (w : NodeWorld) : Prop where
  coherent : Coherent w.host
  owed : w.owed = false
  exposed : w.exposed = false

/-- Between two commands of a run that is to restart CRI-O if `needs` says so. -/
structure Owing (needs : Bool) (memory : Unit) (w : NodeWorld) : Prop where
  coherent : Coherent w.host
  owed : w.exposed = false → w.owed = false
  exposed : w.exposed = true → needs = true

def Calm (_ : Unit) (w : NodeWorld) : Prop := Settled w

def Exposed (_ : Unit) (w : NodeWorld) : Prop := w.exposed = true

/-- The final sleep of a node that reports kata as installed. -/
def restartContract : Contract NodeCommand NodeWorld where
  good w command := command = .sleep → w.host.label = some .installed → w.owed = false
  mid w := w.exposed = false → Settled w

section Undisturbed

abbrev installer (extensions : Extensions) (env : InstallEnv) := (nodeInstaller extensions env true).toMachine

variable {extensions : Extensions} {env : InstallEnv} {chance : Chance} {w w' : NodeWorld}
  {command : NodeCommand} {output : Output} {needs : Bool}

theorem Owing.settled {memory : Unit} (owing : Owing needs memory w) (safe : w.exposed = false) : Settled w :=
  ⟨owing.coherent, owing.owed safe, safe⟩

theorem Owing.safe {memory : Unit} (owing : Owing false memory w) : w.exposed = false := by
  cases exposed : w.exposed with
  | false => rfl
  | true => exact absurd (owing.exposed exposed) (by decide)

theorem Settled.owing (settled : Settled w) (needs : Bool) (memory : Unit) : Owing needs memory w :=
  ⟨settled.coherent, fun _ => settled.owed, fun exposed => absurd exposed (by simp [settled.exposed])⟩

instance : Invariant (installer extensions env) restartContract (Owing needs) where
  stable _ _ _ changed := changed.elim
  mid _ _ owing safe := owing.settled safe

instance : Invariant (installer extensions env) restartContract Calm where
  stable _ _ _ changed := changed.elim
  mid _ _ settled _ := settled

instance : Invariant (installer extensions env) restartContract Exposed where
  stable _ _ _ changed := changed.elim
  mid _ _ exposed safe := absurd (exposed.symm.trans safe) (by decide)

/-- Nothing that matters to CRI-O differs. -/
structure Alike (w w' : NodeWorld) : Prop where
  deployments : w'.host.deployments = w.host.deployments
  live : w'.host.live = w.host.live
  owed : w'.owed = w.owed
  exposed : w'.exposed = w.exposed

theorem Alike.coherent (alike : Alike w w') (coherent : Coherent w.host) : Coherent w'.host := by
  unfold Coherent Host.staged
  rw [alike.deployments, alike.live]
  exact coherent

theorem Alike.owing (alike : Alike w w') {memory : Unit} (owing : Owing needs memory w) : Owing needs memory w' where
  coherent := alike.coherent owing.coherent
  owed safe := alike.owed.trans (owing.owed (alike.exposed.symm.trans safe))
  exposed exposed := owing.exposed (alike.exposed.symm.trans exposed)

theorem Host.respond_quiet (extensions : Extensions) (chance : Chance) (quiet : command.quiet = true)
    (host : Host) :
    (host.respond extensions chance command).2.deployments = host.deployments ∧
      (host.respond extensions chance command).2.live = host.live := by
  rcases Host.respond_cases extensions chance host command with same | same | ⟨files, extent, rfl, same⟩
  · rw [same]
    exact ⟨rfl, rfl⟩
  · rw [same]
    cases command with
    | cleanupPending | applyLive | ostreeInstall _ _ | ostreeUninstall _ => cases quiet
    | _ => exact ⟨rfl, rfl⟩
  · cases quiet

theorem NodeWorld.respond_eq (responds : w.respond extensions chance command = (output, w')) :
    (w.host.respond extensions chance command).1 = output ∧
      w' = (w.respond extensions chance command).2 := by
  rw [responds]
  exact ⟨congrArg Prod.fst responds, rfl⟩

theorem NodeWorld.exposed_respond (restarts : command ≠ .restartCrio) :
    (w.respond extensions chance command).2.exposed =
      (w.exposed || w.host.stages extensions chance command || Host.copies chance command) := by
  simp [NodeWorld.respond, restarts]

theorem NodeWorld.respond_alike
    (deployments : (w.host.respond extensions chance command).2.deployments = w.host.deployments)
    (live : (w.host.respond extensions chance command).2.live = w.host.live)
    (copies : Host.copies chance command = false) (stages : w.host.stages extensions chance command = false)
    (restarts : command ≠ .restartCrio) : Alike w (w.respond extensions chance command).2 where
  deployments := deployments
  live := live
  owed := by simp [NodeWorld.respond, live, copies, restarts]
  exposed := by simp [NodeWorld.exposed_respond restarts, copies, stages]

theorem NodeWorld.respond_quiet (quiet : command.quiet = true)
    (responds : w.respond extensions chance command = (output, w')) : Alike w w' := by
  obtain ⟨deployments, live⟩ := Host.respond_quiet extensions chance quiet w.host
  obtain ⟨_, rfl⟩ := NodeWorld.respond_eq responds
  have unmoved : Host.copies chance command = false ∧ w.host.stages extensions chance command = false ∧
      command ≠ .restartCrio := by
    cases command with
    | restartCrio | ostreeInstall _ _ | copyEtcFiles _ => cases quiet
    | _ => exact ⟨rfl, rfl, nofun⟩
  exact NodeWorld.respond_alike deployments live unmoved.1 unmoved.2.1 unmoved.2.2

variable (extensions env) in
/-- The part of the script leaves what it found, and ends early only if nothing is exposed. -/
def Keeps (needs : Bool) {α : Type} (script : NodeScript α) : Prop :=
  Triple (installer extensions env) restartContract (Owing needs) script
    (Leaves (fun _ => Owing needs) Calm)

section Rules

variable {α β : Type} {script : NodeScript α}

theorem keeps_pure (value : α) : Keeps extensions env needs (Pure.pure value) :=
  triple_pure fun _ _ => id

theorem Keeps.bind {next : α → NodeScript β} (first : Keeps extensions env needs script)
    (second : ∀ value, Keeps extensions env needs (next value)) : Keeps extensions env needs (script >>= next) :=
  first.leaves_bind second

theorem keeps_exit (status : Nat) : Keeps extensions env false (exit status : NodeScript α) := by
  apply triple_throw
  intro memory w owing
  exact owing.settled owing.safe

theorem keeps_run (quiet : command.quiet = true) : Keeps extensions env needs (run command) := by
  apply triple_request
  intro memory w owing
  refine ⟨?_, ?_⟩
  · rintro rfl
    cases quiet
  · rintro output w' ⟨_, chance, responds, _⟩
    exact (NodeWorld.respond_quiet quiet responds).owing owing

theorem keeps_succeeds (quiet : command.quiet = true) : Keeps extensions env needs (succeeds command) :=
  (keeps_run quiet).bind fun _ => keeps_pure _

theorem keeps_capture (quiet : command.quiet = true) : Keeps extensions env needs (capture command) :=
  (keeps_run quiet).bind fun _ => keeps_pure _

theorem triple_must {A B : Unit → NodeWorld → Prop}
    [before : Invariant (installer extensions env) restartContract A]
    [Invariant (installer extensions env) restartContract B]
    (strict : command.tolerated = false) (awake : command ≠ .sleep)
    (works : ∀ w w' output chance, A () w → w.respond extensions chance command = (output, w') →
      output.status = 0 → B () w')
    (fails : ∀ w w' output chance, A () w → w.respond extensions chance command = (output, w') →
      output.status ≠ 0 → w'.exposed = false → Settled w') :
    Triple (installer extensions env) restartContract A (must command)
      (Leaves (fun _ => B) Calm) := by
  intro memory w holds
  change Safe _ _ _ (.call command fun output =>
    (if output.status = 0 then Pure.pure output else exit output.status : NodeScript Output) memory) w
  refine safe_ask holds (fun _ _ sleeps => absurd sleeps awake) ?_
  rintro issued output w' holds' ⟨_, chance, responds, disturbed⟩
  split
  · next succeeded =>
      exact safe_result (Q := Leaves (fun _ => B) Calm) (works issued w' output chance holds' responds succeeded)
  · next failed =>
      have safe : w'.exposed = false := by
        cases exposed : w'.exposed with
        | false => rfl
        | true => exact absurd (disturbed rfl exposed strict) failed
      exact safe_result (Q := Leaves (fun _ => B) Calm) (fails issued w' output chance holds' responds failed safe)

theorem keeps_must (quiet : command.quiet = true) (strict : command.tolerated = false) :
    Keeps extensions env needs (must command) := by
  apply triple_must strict
  · rintro rfl
    cases quiet
  · intro w w' output chance owing responds _
    exact (NodeWorld.respond_quiet quiet responds).owing owing
  · intro w w' output chance owing responds _ safe
    exact ((NodeWorld.respond_quiet quiet responds).owing owing).settled safe

end Rules

theorem Host.works_of_status {host : Host} (succeeded : (host.respond extensions chance command).1.status = 0) :
    chance.works = true := by
  cases works : chance.works with
  | true => rfl
  | false => simp [Host.respond, works] at succeeded

theorem keeps_cleanupPending : Keeps extensions env needs (must .cleanupPending) := by
  have kept {w w' : NodeWorld} {output : Output} {chance : Chance} (owing : Owing needs () w)
      (responds : w.respond extensions chance .cleanupPending = (output, w')) : Owing needs () w' := by
    obtain ⟨_, rfl⟩ := NodeWorld.respond_eq responds
    have host : (w.host.respond extensions chance .cleanupPending).2 = w.host ∨
        (w.host.respond extensions chance .cleanupPending).2 =
          { w.host with deployments := w.host.deployments.filter (!·.staged) } := by
      rcases Host.respond_cases extensions chance w.host .cleanupPending with same | same | ⟨_, _, isCopy, _⟩
      · exact .inl same
      · exact .inr same
      · cases isCopy
    have live : (w.host.respond extensions chance .cleanupPending).2.live = w.host.live := by
      rcases host with same | same <;> rw [same]
    refine ⟨?_, ?_, ?_⟩
    · change Coherent (w.host.respond extensions chance .cleanupPending).2
      rcases host with same | same
      · rw [same]
        exact owing.coherent
      · rw [same]
        intro tracked deployment first
        simp [Host.staged, List.filter_filter] at first
    · simpa [NodeWorld.respond, live, Host.copies, Host.stages] using owing.owed
    · simpa [NodeWorld.respond, Host.copies, Host.stages] using owing.exposed
  apply triple_must rfl (by simp)
  · intro w w' output chance owing responds _
    exact kept owing responds
  · intro w w' output chance owing responds _ safe
    exact (kept owing responds).settled safe

theorem applyLive_alike {memory : Unit} (owing : Owing needs memory w) (tracked : 0 < nKata w.host.staged)
    (responds : w.respond extensions chance .applyLive = (output, w')) : Alike w w' := by
  obtain ⟨_, rfl⟩ := NodeWorld.respond_eq responds
  have same : w.host.effect extensions .applyLive = w.host := by
    unfold Host.effect
    cases first : w.host.staged.head? with
    | none => rfl
    | some deployment =>
      have live := owing.coherent tracked deployment first
      dsimp only
      rw [← live]
  have host : (w.host.respond extensions chance .applyLive).2 = w.host := by
    rcases Host.respond_cases extensions chance w.host .applyLive with same' | same' | ⟨_, _, isCopy, _⟩
    · exact same'
    · exact same'.trans same
    · cases isCopy
  exact NodeWorld.respond_alike (congrArg Host.deployments host) (congrArg Host.live host) rfl rfl (by simp)

def Tracking (needs found : Bool) (memory : Unit) (w : NodeWorld) : Prop :=
  Owing needs memory w ∧ (found = true → 0 < nKata w.host.staged)

instance {found : Bool} :
    Invariant (installer extensions env) restartContract (Tracking needs found) where
  stable _ _ _ changed := changed.elim
  mid _ _ holds safe := holds.1.settled safe

theorem triple_stagedInstall :
    Triple (installer extensions env) restartContract (Owing needs)
      (succeeds .stagedInstall) (Leaves (Tracking needs) Calm) := by
  refine Triple.leaves_bind (B := fun output => Tracking needs (output.status = 0)) ?_ fun output =>
    triple_pure (P := Tracking needs (output.status = 0)) fun _ _ => id
  apply triple_request
  intro memory w owing
  refine ⟨nofun, ?_⟩
  rintro output w' ⟨_, chance, responds, _⟩
  have alike := NodeWorld.respond_quiet rfl responds
  refine ⟨alike.owing owing, ?_⟩
  intro found
  obtain ⟨rfl, _⟩ := NodeWorld.respond_eq responds
  have works := Host.works_of_status (of_decide_eq_true found)
  simp only [Host.respond, works, if_true, Host.result, Host.tested, decide_eq_true_eq] at found
  have tracked : 0 < nKata w.host.staged := by
    by_contra none
    simp [none] at found
  unfold Host.staged at tracked ⊢
  rwa [alike.deployments]

theorem triple_mirror {α : Type} {rest : NodeScript α} {D : α → Unit → NodeWorld → Prop}
    (restMeets : Triple (installer extensions env) restartContract (Owing needs) rest
      (Leaves D Calm)) :
    Triple (installer extensions env) restartContract (Owing needs) (do
      if ← succeeds .stagedInstall then
        must .applyLive >>= fun _ => rest
      else rest) (Leaves D Calm) := by
  apply triple_stagedInstall.leaves_bind
  intro found
  cases found with
  | false => exact restMeets.given
  | true =>
    have applied : Triple (installer extensions env) restartContract (Tracking needs true)
        (must .applyLive) (Leaves (fun _ => Owing needs) Calm) := by
      apply triple_must rfl (by simp)
      · intro w w' output chance holds responds _
        exact (applyLive_alike holds.1 (holds.2 rfl) responds).owing holds.1
      · intro w w' output chance holds responds _ safe
        exact ((applyLive_alike holds.1 (holds.2 rfl) responds).owing holds.1).settled safe
    exact applied.leaves_bind fun _ => restMeets

theorem triple_ostreeInstall (uninstallList installRpms : List String) :
    Triple (installer extensions env) restartContract (Owing false)
      (must (.ostreeInstall uninstallList installRpms)) (Leaves (fun _ => Exposed) Calm) := by
  apply triple_must rfl (by simp)
  · intro w w' output chance _ responds succeeded
    obtain ⟨rfl, rfl⟩ := NodeWorld.respond_eq responds
    have works := Host.works_of_status succeeded
    have staged : (w.host.installed? extensions uninstallList installRpms).isSome = true := by
      by_contra refused
      simp [Host.respond, works, Host.result, Host.tested, refused] at succeeded
    simp [Exposed, NodeWorld.respond, Host.stages, Chance.acts, works, staged]
  · intro w w' output chance owing responds _ safe
    obtain ⟨_, rfl⟩ := NodeWorld.respond_eq responds
    -- What is not exposed has staged nothing, so the host is as it was.
    have stages : w.host.stages extensions chance (.ostreeInstall uninstallList installRpms) = false := by
      rw [NodeWorld.exposed_respond (by simp), Bool.or_eq_false_iff, Bool.or_eq_false_iff] at safe
      exact safe.1.2
    have host : (w.host.respond extensions chance (.ostreeInstall uninstallList installRpms)).2 = w.host := by
      rcases Bool.and_eq_false_iff.mp stages with nothing | refused
      · obtain ⟨fails, none⟩ := Bool.or_eq_false_iff.mp nothing
        have extent : chance.extent = 0 := by simpa using none
        simp [Host.respond, fails, Host.effectSoFar, extent]
      · have same : w.host.effect extensions (.ostreeInstall uninstallList installRpms) = w.host := by
          have none : w.host.installed? extensions uninstallList installRpms = none := by simpa using refused
          simp [Host.effect, none]
        rcases Host.respond_cases extensions chance w.host (.ostreeInstall uninstallList installRpms) with
          same' | same' | ⟨_, _, isCopy, _⟩
        · exact same'
        · exact same'.trans same
        · cases isCopy
    have alike := NodeWorld.respond_alike (congrArg Host.deployments host) (congrArg Host.live host) rfl stages
      (by simp)
    exact (alike.owing owing).settled safe

theorem triple_applyLive :
    Triple (installer extensions env) restartContract Exposed (must .applyLive)
      (Leaves (fun _ => Owing true) Calm) := by
  have stillExposed {w : NodeWorld} {chance : Chance} (exposed : Exposed () w) :
      (w.respond extensions chance .applyLive).2.exposed ≠ false := by
    rw [NodeWorld.exposed_respond (by simp), show w.exposed = true from exposed]
    simp
  apply triple_must rfl (by simp)
  · intro w w' output chance exposed responds succeeded
    obtain ⟨rfl, rfl⟩ := NodeWorld.respond_eq responds
    have works := Host.works_of_status succeeded
    refine ⟨?_, ?_, fun _ => rfl⟩
    · have host : (w.host.respond extensions chance .applyLive).2 = w.host.effect extensions .applyLive := by
        simp [Host.respond, works]
      change Coherent (w.host.respond extensions chance .applyLive).2
      rw [host]
      unfold Host.effect
      cases head : w.host.staged.head? with
      | none =>
        intro _ deployment first
        exact absurd (head.symm.trans first) (by simp)
      | some staged =>
        intro _ deployment first
        exact congrArg Deployment.content (Option.some.inj (head.symm.trans first))
    · intro safe
      exact absurd safe (stillExposed exposed)
  · intro w w' output chance exposed responds _ safe
    obtain ⟨_, rfl⟩ := NodeWorld.respond_eq responds
    exact absurd safe (stillExposed exposed)

theorem triple_copyEtcFiles (files : List String) :
    Triple (installer extensions env) restartContract (Owing needs)
      (must (.copyEtcFiles files)) (Leaves (fun _ => Owing true) Calm) := by
  have kept {w : NodeWorld} {chance : Chance} (owing : Owing needs () w) :
      (w.host.respond extensions chance (.copyEtcFiles files)).2.deployments = w.host.deployments ∧
        (w.host.respond extensions chance (.copyEtcFiles files)).2.live = w.host.live ∧
        Coherent (w.host.respond extensions chance (.copyEtcFiles files)).2 := by
    rcases Host.respond_cases extensions chance w.host (.copyEtcFiles files) with
      same | same | ⟨_, _, _, same⟩ <;>
    · rw [same]
      exact ⟨rfl, rfl, owing.coherent⟩
  apply triple_must rfl (by simp)
  · intro w w' output chance owing responds succeeded
    obtain ⟨rfl, rfl⟩ := NodeWorld.respond_eq responds
    have works := Host.works_of_status succeeded
    refine ⟨(kept owing).2.2, ?_, fun _ => rfl⟩
    intro safe
    rw [NodeWorld.exposed_respond (by simp)] at safe
    simp [Host.copies, Chance.acts, works] at safe
  · intro w w' output chance owing responds _ safe
    obtain ⟨_, rfl⟩ := NodeWorld.respond_eq responds
    have copies : Host.copies chance (.copyEtcFiles files) = false := by
      rw [NodeWorld.exposed_respond (by simp), Bool.or_eq_false_iff] at safe
      exact safe.2
    have alike := NodeWorld.respond_alike (kept owing).1 (kept owing).2.1 copies rfl (by simp)
    exact (alike.owing owing).settled safe

theorem triple_restartCrio :
    Triple (installer extensions env) restartContract (Owing needs) (must .restartCrio)
      (Leaves (fun _ => Calm) Calm) := by
  have host {w : NodeWorld} {chance : Chance} : (w.host.respond extensions chance .restartCrio).2 = w.host := by
    rcases Host.respond_cases extensions chance w.host .restartCrio with same | same | ⟨_, _, isCopy, _⟩
    · exact same
    · exact same
    · cases isCopy
  apply triple_must rfl (by simp)
  · intro w w' output chance owing responds succeeded
    obtain ⟨rfl, rfl⟩ := NodeWorld.respond_eq responds
    refine ⟨?_, by simp [NodeWorld.respond, succeeded], by simp [NodeWorld.respond, succeeded]⟩
    change Coherent (w.host.respond extensions chance .restartCrio).2
    rw [host]
    exact owing.coherent
  · intro w w' output chance owing responds failed safe
    obtain ⟨rfl, rfl⟩ := NodeWorld.respond_eq responds
    have alike : Alike w (w.respond extensions chance .restartCrio).2 := by
      refine ⟨congrArg Host.deployments host, congrArg Host.live host, ?_, ?_⟩
      · simp [NodeWorld.respond, failed, host, Host.copies]
      · simp [NodeWorld.respond, failed, Host.copies, Host.stages]
    exact (alike.owing owing).settled safe

section Script

theorem keeps_findRpm (package : String) : Keeps extensions env needs (findRpm package) :=
  (keeps_must rfl rfl).bind fun _ => keeps_pure _

theorem keeps_clientTools : Keeps extensions env needs (clientTools env) := by
  unfold clientTools
  apply (keeps_must rfl rfl).bind
  intro made
  apply (keeps_must rfl rfl).bind
  intro extracted
  apply (keeps_must rfl rfl).bind
  intro executable
  exact (keeps_must rfl rfl).bind fun _ => keeps_pure _

theorem keeps_getWorkerNodeVersionIbmcloud : Keeps extensions env false getWorkerNodeVersionIbmcloud := by
  unfold getWorkerNodeVersionIbmcloud
  apply (keeps_run rfl).bind
  intro rawVersion
  dsimp only
  split
  · exact keeps_exit _
  split
  · exact keeps_exit _
  · exact keeps_pure _

theorem keeps_getExtensionImage (version : String) : Keeps extensions env false (getExtensionImage version) := by
  unfold getExtensionImage
  apply (keeps_run rfl).bind
  intro image
  split
  · exact keeps_exit _
  · exact keeps_pure _

theorem keeps_rpmExtensions : Keeps extensions env false (rpmExtensions env) := by
  have extracts (image : String) : Keeps extensions env false (do
      let _ ← must (.makeDir "/usr/share/rpm-ostree/extensions")
      let _ ← must (.extractContainerImage image ["/usr/share/rpm-ostree/extensions"]) : NodeScript PUnit) := by
    apply (keeps_must rfl rfl).bind
    intro made
    exact (keeps_must rfl rfl).bind fun _ => keeps_pure _
  unfold rpmExtensions
  split
  · apply keeps_getWorkerNodeVersionIbmcloud.bind
    intro version
    exact (keeps_getExtensionImage version).bind extracts
  · exact extracts _

theorem keeps_comparePackage (plan : InstallPlan) (package : String) :
    Keeps extensions env needs (comparePackage plan package) := by
  unfold comparePackage
  apply (keeps_findRpm package).bind
  intro rpmPath
  split
  · exact keeps_pure _
  apply (keeps_must rfl rfl).bind
  intro available
  apply (keeps_capture rfl).bind
  intro installed
  repeat' split
  all_goals exact keeps_pure _

theorem keeps_restage (packages installRpms : List String) :
    Keeps extensions env needs (restage packages installRpms) := by
  unfold restage
  split
  · exact keeps_pure _
  apply (keeps_must rfl rfl).bind
  intro tracked
  dsimp only
  split
  · apply triple_foldlM (B := fun _ => Owing needs)
    intro installRpms package
    exact (keeps_findRpm package).bind fun _ => keeps_pure _
  · exact keeps_pure _

theorem keeps_etcFilesOf (rpmPath : String) {test : String → NodeScript Bool}
    (tests : ∀ file, Keeps extensions env needs (test file)) :
    Keeps extensions env needs (etcFilesOf rpmPath test) := by
  apply (keeps_run rfl).bind
  intro listing
  apply triple_foldlM (B := fun _ => Owing needs)
  intro kept file
  exact (tests file).bind fun _ => keeps_pure _

theorem keeps_extractEtcFiles (rpmPath : String) : Keeps extensions env true (extractEtcFiles rpmPath) := by
  apply (keeps_etcFilesOf rpmPath fun file => keeps_succeeds rfl).bind
  intro realEtcFiles
  split
  · exact (triple_copyEtcFiles realEtcFiles).leaves_bind fun _ => keeps_pure _
  · exact keeps_pure _

theorem keeps_runScriptlet (rpmPath : String) (phase : ScriptletPhase) (argument : Nat) :
    Keeps extensions env needs (runScriptlet rpmPath phase argument) := by
  apply (keeps_must rfl rfl).bind
  intro scriptlet
  dsimp only
  split
  · exact (keeps_must rfl rfl).bind fun _ => keeps_pure _
  · exact keeps_pure _

/-- A fresh install exposes the run, and ends early only before that. -/
theorem triple_freshInstall (uninstallList installRpms : List String) :
    Triple (installer extensions env) restartContract (Owing false)
      (freshInstall uninstallList installRpms) (Leaves (fun _ => Owing true) Calm) := by
  have copies (rpmPath : String) : Keeps extensions env false (do
      let _ ← must (.copyRpm rpmPath) : NodeScript PUnit) :=
    (keeps_must rfl rfl).bind fun _ => keeps_pure _
  unfold freshInstall setStatusInstalling
  apply (keeps_must rfl rfl).leaves_bind
  intro labelled
  apply (keeps_must rfl rfl).leaves_bind
  intro made
  apply (triple_forM copies installRpms).leaves_bind
  intro copied
  apply (triple_ostreeInstall uninstallList installRpms).leaves_bind
  intro staged
  apply triple_applyLive.leaves_bind
  intro applied
  apply (triple_forM keeps_extractEtcFiles installRpms).leaves_bind
  intro extracted
  apply (triple_forM (fun phase => triple_forM (fun rpmPath => keeps_runScriptlet rpmPath phase 1) installRpms)
    _).leaves_bind
  intro ran
  apply (keeps_must rfl rfl).leaves_bind
  intro loaded
  exact (keeps_must rfl rfl).leaves_bind fun _ => keeps_pure _

theorem triple_repairEtcFiles (needs : Bool) (package : String) :
    Triple (installer extensions env) restartContract (Owing needs)
      (repairEtcFiles needs package) (Leaves Owing Calm) := by
  have unchanged : Triple (installer extensions env) restartContract (Owing needs)
      (Pure.pure needs : NodeScript Bool) (Leaves Owing Calm) := triple_pure fun _ _ => id
  apply (keeps_findRpm package).leaves_bind
  intro rpmPath
  split
  · exact unchanged
  have tests (file : String) : Keeps extensions env needs (do
      if ← succeeds (.isUsrFile file) then
        return !(← succeeds (.isHostFile file))
      else return false : NodeScript Bool) := by
    apply (keeps_succeeds rfl).bind
    intro isUsrFile
    split
    · exact (keeps_succeeds rfl).bind fun _ => keeps_pure _
    · exact keeps_pure _
  apply (keeps_etcFilesOf rpmPath tests).leaves_bind
  intro repairFiles
  split
  · exact (triple_copyEtcFiles repairFiles).leaves_bind fun _ => triple_pure (P := Owing true) fun _ _ => id
  · exact unchanged

theorem keeps_rerunScriptlets (package : String) : Keeps extensions env needs (rerunScriptlets package) := by
  apply (keeps_findRpm package).bind
  intro rpmPath
  split
  · exact triple_forM (fun phase => keeps_runScriptlet rpmPath phase 1) _
  · exact keeps_pure _

theorem keeps_ensureModule (packages : List String) : Keeps extensions env needs (ensureModule packages) := by
  have loads : Keeps extensions env needs (do
      if ← succeeds .moduleListed then
        if !(← succeeds .typeUsable) then
          let _ ← must .loadPolicy : NodeScript PUnit) := by
    apply (keeps_succeeds rfl).bind
    intro listed
    split
    · apply (keeps_succeeds rfl).bind
      intro usable
      split
      · exact (keeps_must rfl rfl).bind fun _ => keeps_pure _
      · exact keeps_pure _
    · exact keeps_pure _
  unfold ensureModule
  apply (keeps_succeeds rfl).bind
  intro listed
  dsimp only
  split
  · apply Keeps.bind (triple_forM keeps_rerunScriptlets packages)
    intro ran
    exact (keeps_must rfl rfl).bind fun _ => loads
  · exact loads

theorem keeps_ensureKernel : Keeps extensions env needs (ensureKernel env) := by
  unfold ensureKernel
  split
  · apply (keeps_succeeds rfl).bind
    intro found
    split
    · apply (keeps_must rfl rfl).bind
      intro made
      exact (keeps_must rfl rfl).bind fun _ => keeps_pure _
    · exact keeps_pure _
  · exact keeps_pure _

/-- Whatever the run is exposed to at this point, the restart settles it. -/
theorem triple_verifyInstall (packages : List String) (fresh : Bool) :
    Triple (installer extensions env) restartContract (Owing fresh)
      (verifyInstall env packages fresh) (Leaves (fun _ => Calm) Calm) := by
  apply (triple_foldlM triple_repairEtcFiles packages fresh).leaves_bind
  intro needs
  apply (keeps_ensureModule packages).leaves_bind
  intro ensured
  apply keeps_ensureKernel.leaves_bind
  intro built
  apply (keeps_must rfl rfl).leaves_bind
  intro labelled
  cases needs with
  | true => exact triple_restartCrio.leaves_bind fun _ => triple_pure fun _ _ => id
  | false => exact triple_pure fun _ _ owing => owing.settled owing.safe

theorem triple_installKata (packages : List String) :
    Triple (installer extensions env) restartContract (Owing false)
      (installKata env packages) (Leaves (fun _ => Calm) Calm) := by
  have planned : Triple (installer extensions env) restartContract (Owing false) (do
      let plan ← packages.foldlM comparePackage {}
      let installRpms ← restage packages plan.installRpms
      if installRpms ≠ [] then
        freshInstall plan.uninstallList installRpms
      verifyInstall env packages (installRpms ≠ []) : NodeScript PUnit) (Leaves (fun _ => Calm) Calm) := by
    apply (triple_foldlM (B := fun _ => Owing false) keeps_comparePackage packages {}).leaves_bind
    intro plan
    apply (keeps_restage packages plan.installRpms).leaves_bind
    intro installRpms
    by_cases missing : installRpms = []
    · simpa [missing] using triple_verifyInstall packages false
    · simpa [missing] using (triple_freshInstall plan.uninstallList installRpms).leaves_bind fun _ =>
        triple_verifyInstall packages true
  unfold installKata
  apply (keeps_succeeds rfl).leaves_bind
  intro removal
  dsimp only
  split
  · exact keeps_cleanupPending.leaves_bind fun _ => triple_mirror planned
  · exact triple_mirror planned

/-- The final sleep is where the contract is due; nothing comes after it. -/
theorem triple_sleepInfinity :
    Triple (installer extensions env) restartContract Calm sleepInfinity
      (Leaves (fun _ => Calm) Calm) := by
  have sleeps : Triple (installer extensions env) restartContract Calm
      (run .sleep) (Leaves (fun _ => Calm) Calm) := by
    apply triple_request
    intro memory w settled
    refine ⟨fun _ _ => settled.owed, ?_⟩
    rintro output w' ⟨awake, _⟩
    exact absurd rfl awake
  exact sleeps.leaves_bind fun _ => triple_throw fun _ _ => id

/-- A whole run: it starts settled, and its final sleep finds CRI-O restarted. -/
theorem triple_oscKataInstall : Triple (installer extensions env) restartContract Calm
      (oscKataInstall env "install") (Leaves (fun _ => Calm) Calm) := by
  have gives (status : Nat) : Triple (installer extensions env) restartContract (Owing false)
      (exit status : NodeScript Nat) (Leaves (fun _ => Calm) Calm) :=
    triple_throw fun _ _ owing => owing.settled owing.safe
  have calms {memory : Unit} {w : NodeWorld} (owing : Owing false memory w) : Calm memory w :=
    owing.settled owing.safe
  have starts : Triple (installer extensions env) restartContract (Owing false)
      (oscKataInstall env "install") (Leaves (fun _ => Calm) Calm) := by
    apply (keeps_must rfl rfl).leaves_bind
    intro arch
    dsimp only
    split
    · exact gives 1
    next packages _ =>
      split
      · exact gives 1
      apply keeps_clientTools.leaves_bind
      intro tools
      apply keeps_rpmExtensions.leaves_bind
      intro extracted
      apply (triple_installKata packages).leaves_bind
      intro installed
      have addonsKept : Keeps extensions env false (addons env "install") := by
        unfold addons
        split
        · exact (keeps_must rfl rfl).bind fun _ => keeps_pure _
        · exact keeps_pure _
      refine Triple.leaves_bind (addonsKept.pre fun _ _ settled => settled.owing false _) fun _ => ?_
      refine Triple.leaves_bind (keeps_run rfl) fun _ => ?_
      exact triple_sleepInfinity.pre fun _ _ => calms
  exact starts.pre fun _ _ settled => settled.owing false _

end Script

theorem nodeInstaller_sound : (nodeInstaller extensions env true).Sound Settled restartContract Calm
      (fun outcome => Leaves (fun _ => Calm) Calm outcome.1 outcome.2) where
  init _ settled := settled
  env _ _ _ changed := changed.elim
  body _ memory w _ settled started := by
    cases started
    exact triple_oscKataInstall memory w settled
  finish outcome _ w _ ended finished := by
    cases finished
    cases outcome with
    | ok _ => exact ended
    | error _ => exact ended
  crash _ w w' settled crashed := by
    rcases crashed with ⟨_, rfl | rfl⟩
    · exact settled
    · exact { settled with }
  killed w w' mid crashed := by
    rcases crashed with ⟨undisturbed, rfl | rfl⟩
    · exact mid (undisturbed rfl)
    · have settled := mid (undisturbed rfl)
      exact { settled with }

end Undisturbed

end CrioRestart

open CrioRestart

/-- In undisturbed runs from a settled node, CRI-O has been restarted by the final sleep. -/
theorem crio_restarted_when_undisturbed (extensions : Extensions) (env : InstallEnv) {w : NodeWorld}
    (sleeps : (nodeInstaller extensions env true).Issues Settled w .sleep) :
    w.host.label = some .installed → w.owed = false :=
  nodeInstaller_sound.good sleeps rfl

section Runs

def installPlayer (extensions : Extensions) (env : InstallEnv) (undisturbed : Bool) :
    Controller.Player (nodeInstaller extensions env undisturbed) Chance Empty where
  start _ w := some w
  answer chance w command :=
    if command ≠ .sleep ∧ (undisturbed = true → (w.respond extensions chance command).2.exposed = true →
        command.tolerated = false → (w.respond extensions chance command).1.status = 0) then
      some (w.respond extensions chance command)
    else none
  finish _ w := some w
  crash w := if undisturbed = true → w.exposed = false then some w else none
  env change := nomatch change
  start_sound started := (Option.some.inj started).symm
  answer_sound := by
    intro chance w command output w' played
    split at played
    · next allowed =>
        have responds := Option.some.inj played
        rw [responds] at allowed
        exact ⟨allowed.1, chance, responds, allowed.2⟩
    · cases played
  finish_sound finished := (Option.some.inj finished).symm
  crash_sound := by
    intro w w' played
    split at played
    · next allowed => exact ⟨allowed, .inl (Option.some.inj played).symm⟩
    · cases played
  env_sound := by
    intro change
    cases change

def sleepsAt (extensions : Extensions) (env : InstallEnv) (undisturbed : Bool) (w : NodeWorld)
    (acts : List (Controller.Act Unit Chance Empty)) (check : NodeWorld → Bool) : Bool :=
  match (installPlayer extensions env undisturbed).play (.idle (), w) acts with
  | some (.running (.call .sleep _), w') => check w'
  | _ => false

theorem issues_of_sleepsAt {extensions : Extensions} {env : InstallEnv} {undisturbed : Bool} {w : NodeWorld}
    {acts : List (Controller.Act Unit Chance Empty)} (check : NodeWorld → Bool) (settled : Settled w)
    (ends : sleepsAt extensions env undisturbed w acts check = true) :
    ∃ w', (nodeInstaller extensions env undisturbed).Issues Settled w' .sleep ∧ check w' = true := by
  unfold sleepsAt at ends
  split at ends
  · rename_i next w' played
    exact ⟨w', ⟨next, (installPlayer extensions env undisturbed).play_reachable (.boot settled) played⟩, ends⟩
  · cases ends

def kataRpm : Rpm where
  nvra := kataNvra
  etcListing := ["etc/crio/crio.conf.d/50-kata"]
  etcFiles := ["etc/crio/crio.conf.d/50-kata"]
  scriptlets phase _ := match phase with
    | .postinstall => ["kata-osbuilder.sh -c"]
    | .posttrans => ["semodule -i osc_monitor.cil"]
    | .preuninstall => []

def kataExtensions : Extensions where
  image := "extensions"
  rpms := [kataRpm]
  installsModule scriptlet := scriptlet = ["semodule -i osc_monitor.cil"]
  removesModule _ := false
  buildsKernel scriptlet := scriptlet = ["kata-osbuilder.sh -c"]

def workerEnv : InstallEnv := { nodeName := "worker-0", cliImage := "cli", extensionImage := "extensions" }

def freshNode : NodeWorld where
  host := { arch := "s390x", deployments := [⟨false, true, [], [], []⟩], live := [] }

theorem settled_freshNode : Settled freshNode := by
  refine ⟨?_, rfl, rfl⟩
  intro tracked
  exact absurd tracked (by decide +kernel)

/-- One run that is not disturbed. -/
theorem crio_restarted_on_freshNode :
    ∃ w, (nodeInstaller kataExtensions workerEnv true).Issues Settled w .sleep ∧
      w.host.label = some .installed ∧ w.owed = false := by
  obtain ⟨w, sleeps, labelled⟩ := issues_of_sleepsAt (fun w => w.host.label = some .installed)
    settled_freshNode (show sleepsAt kataExtensions workerEnv true freshNode
      (.start () :: List.replicate 53 (.answer {})) _ = true by decide +kernel)
  have installed : w.host.label = some .installed := of_decide_eq_true labelled
  exact ⟨w, sleeps, installed, crio_restarted_when_undisturbed _ _ sleeps installed⟩

/-- The first run is killed after the label and before the restart; the second one finds
everything in place. -/
theorem crio_not_restarted : ∃ w, (nodeInstaller kataExtensions workerEnv false).Issues Settled w .sleep ∧
      w.host.label = some .installed ∧ w.owed = true := by
  obtain ⟨w, sleeps, checked⟩ := issues_of_sleepsAt
    (fun w => w.host.label = some .installed && w.owed) settled_freshNode
    (show sleepsAt kataExtensions workerEnv false freshNode
      (.start () :: List.replicate 51 (.answer {}) ++ [.crash, .start ()] ++ List.replicate 40 (.answer {})) _ =
        true by decide +kernel)
  obtain ⟨installed, owed⟩ : w.host.label = some .installed ∧ w.owed = true := by simpa using checked
  exact ⟨w, sleeps, installed, owed⟩

end Runs

end SandboxedContainers
