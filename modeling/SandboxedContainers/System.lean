import SandboxedContainers.Credentials
import SandboxedContainers.Lib.Controller
import SandboxedContainers.Reconcile

/-!
# The operator in its cluster

The operator runs `reconcile` again and again against a cluster that other
parties change at any time.  Every request of the operator is answered by the
server, or fails with an error that says nothing about the cluster, in which
case it may or may not have taken effect.

A `Monitor` records what a statement about executions refers to; `Rules` narrow
the executions down.
-/

namespace SandboxedContainers

open Lib

/-- What the server may answer: the real answer, or a transient error to a
request that was dropped, or carried out nevertheless. -/
def Answered (s : Cluster) (r : Req) (response : Response r) (s' : Cluster) : Prop :=
  (response, s') = s.exec r ∨
    ∃ error : ApiError, error.Transient ∧ Response.failure error r = some response ∧
      (s' = s ∨ s' = (s.exec r).2)

/-- What happens outside the operator: a request of another client, an API that
appears or disappears, and the bookkeeping of the operator's own work queue. -/
inductive Change where
  | request (r : Req)
  | serve (k : Kind) (available : Bool)
  /-- The oldest undelivered watch event reaches its handler. -/
  | deliver
  /-- A request for the `KataConfig` of this name enters the queue. -/
  | enqueue (name : String)

def Change.apply (s : Cluster) : Change → Cluster
  | .request r => (s.exec r).2
  | .serve k available => { s with served := Function.update s.served k available }
  | .deliver | .enqueue _ => s

/-- Whether the change leaves the status of every `KataConfig` alone. -/
def Change.isForeign : Change → Bool
  | .request (.updateStatus k _) | .request (.patch k _ _ _) => k ≠ .kataConfig
  | _ => true

/-- What a statement about executions keeps track of. -/
structure Monitor (G : Type) where
  start : Key → Cluster → G → G := fun _ _ => id
  call : Cluster → (r : Req) → Response r → Cluster → G → G
  env : Cluster → Change → Cluster → G → G := fun _ _ _ => id
  finish : Exit → Cluster → G → G := fun _ _ => id
  crash : Cluster → G → G := fun _ => id

structure Rules (G : Type) where
  start : Key → Cluster × G → Bool := fun _ _ => true
  answer : Cluster × G → (r : Req) → Response r → Cluster × G → Bool := fun _ _ _ _ => true
  env : Cluster × G → Change → Cluster × G → Bool := fun _ _ _ => true
  finish : Exit → Cluster × G → Bool := fun _ _ => true
  crash : Cluster × G → Bool := fun _ => true

variable {G : Type}

def ownStatus : Rules G where
  env _ change _ := change.isForeign

/-- The operator, its cluster and a monitor. -/
def operator (settings : Settings) (monitor : Monitor G) (rules : Rules G) :
    Controller Req Response (Cluster × G) Reconciler Key Exit where
  answer w r response w' :=
    Answered w.1 r response w'.1 ∧ w'.2 = monitor.call w.1 r response w'.1 w.2 ∧
      rules.answer w r response w' = true
  env w w' := ∃ change : Change,
    w' = (change.apply w.1, monitor.env w.1 change (change.apply w.1) w.2) ∧
    rules.env w change w' = true
  body := reconcile settings
  boot := {}
  start key w w' := rules.start key w = true ∧ w' = (w.1, monitor.start key w.1 w.2)
  finish exit w w' := rules.finish exit w = true ∧ w' = (w.1, monitor.finish exit w.1 w.2)
  crash w w' := rules.crash w = true ∧ w' = (w.1, monitor.crash w.1 w.2)

theorem operator_answered {settings : Settings} {monitor : Monitor G} {rules : Rules G}
    {w w' : Cluster × G} {r : Req} {response : Response r}
    (reply : (operator settings monitor rules).answer w r response w') :
    ∃ s', Answered w.1 r response s' ∧ w' = (s', monitor.call w.1 r response s' w.2) ∧
      rules.answer w r response w' = true :=
  ⟨w'.1, reply.1, Prod.ext rfl reply.2.1, reply.2.2⟩

theorem operator_mark {settings : Settings} {monitor : Monitor G} {rules : Rules G}
    {w w' : Cluster × G} {m : Mark} (answered : (operator settings monitor rules).answer w (.mark m) ⟨⟩ w') :
    w' = (w.1, monitor.call w.1 (.mark m) ⟨⟩ w.1 w.2) := by
  obtain ⟨s', g'⟩ := w'
  obtain ⟨real | ⟨_, _, failure, _⟩, recorded, _⟩ := answered
  · cases real
    exact Prod.ext rfl recorded
  · cases failure

/-- A cluster without objects, and the monitor as it starts. -/
def initially (g : G) (w : Cluster × G) : Prop := (∀ k, w.1.objs k = .empty) ∧ w.2 = g

theorem initially_absent {g : G} {w : Cluster × G} (start : initially g w) (k : Kind) (key : Key) :
    w.1.find? k key = none := by
  rw [Store.find?, start.1]
  rfl

inductive Fault where
  | served
  | dropped (error : ApiError)
  | lost (error : ApiError)

def Fault.answer (s : Cluster) (r : Req) : Fault → Option (Response r × Cluster)
  | .served => some (s.exec r)
  | .dropped error =>
    if error.Transient then (Response.failure error r).map fun response => (response, s)
    else none
  | .lost error =>
    if error.Transient then
      (Response.failure error r).map fun response => (response, (s.exec r).2)
    else none

theorem Fault.answer_sound {s s' : Cluster} {r : Req} {response : Response r} {fault : Fault}
    (answered : fault.answer s r = some (response, s')) : Answered s r response s' := by
  cases fault with
  | served => exact .inl (Option.some.inj answered).symm
  | dropped error =>
    obtain ⟨transient, sent⟩ := Option.ite_none_right_eq_some.mp answered
    obtain ⟨found, failure, same⟩ := Option.map_eq_some_iff.mp sent
    cases same
    exact .inr ⟨error, transient, failure, .inl rfl⟩
  | lost error =>
    obtain ⟨transient, sent⟩ := Option.ite_none_right_eq_some.mp answered
    obtain ⟨found, failure, same⟩ := Option.map_eq_some_iff.mp sent
    cases same
    exact .inr ⟨error, transient, failure, .inr rfl⟩

def operatorPlayer (settings : Settings) (monitor : Monitor G) (rules : Rules G) :
    (operator settings monitor rules).Player Fault Change where
  start key w := if rules.start key w then some (w.1, monitor.start key w.1 w.2) else none
  answer fault w r := (fault.answer w.1 r).bind fun answered =>
    let w' := (answered.2, monitor.call w.1 r answered.1 answered.2 w.2)
    if rules.answer w r answered.1 w' then some (answered.1, w') else none
  finish exit w := if rules.finish exit w then some (w.1, monitor.finish exit w.1 w.2) else none
  crash w := if rules.crash w then some (w.1, monitor.crash w.1 w.2) else none
  env change w :=
    let w' := (change.apply w.1, monitor.env w.1 change (change.apply w.1) w.2)
    if rules.env w change w' then some w' else none
  start_sound started := by
    obtain ⟨allowed, same⟩ := Option.ite_none_right_eq_some.mp started
    exact ⟨allowed, (Option.some.inj same).symm⟩
  answer_sound answered := by
    obtain ⟨⟨response, s'⟩, found, rest⟩ := Option.bind_eq_some_iff.mp answered
    obtain ⟨allowed, same⟩ := Option.ite_none_right_eq_some.mp rest
    cases same
    exact ⟨Fault.answer_sound found, rfl, allowed⟩
  finish_sound finished := by
    obtain ⟨allowed, same⟩ := Option.ite_none_right_eq_some.mp finished
    exact ⟨allowed, (Option.some.inj same).symm⟩
  crash_sound crashed := by
    obtain ⟨allowed, same⟩ := Option.ite_none_right_eq_some.mp crashed
    exact ⟨allowed, (Option.some.inj same).symm⟩
  env_sound changed := by
    obtain ⟨allowed, same⟩ := Option.ite_none_right_eq_some.mp changed
    cases same
    exact ⟨_, rfl, allowed⟩

section Scripts

abbrev Script := List (Controller.Act Key Fault Change)

def answered (count : Nat) : Script := List.replicate count (.answer .served)

def others (requests : List Req) : Script := requests.map fun r => .env (.request r)

/-- Carry out a script, starting with a fresh operator in a cluster without
objects that serves every kind. -/
def perform (settings : Settings) (monitor : Monitor G) (rules : Rules G) (g : G) (script : Script) :
    Option (Phase Req Response Reconciler Exit × (Cluster × G)) :=
  (operatorPlayer settings monitor rules).play (.idle {}, (.empty fun _ => true, g)) script

/-- Whether a script leads to a state of the cluster that passes the check. -/
def endsIn (settings : Settings) (monitor : Monitor G) (rules : Rules G) (g : G) (script : Script)
    (check : Cluster × G → Bool) : Bool :=
  (perform settings monitor rules g script).any fun state => check state.2

/-- Whether a script ends at a request that passes the check. -/
def endsAt (settings : Settings) (monitor : Monitor G) (rules : Rules G) (g : G) (script : Script)
    (check : Cluster × G → Req → Bool) : Bool :=
  match perform settings monitor rules g script with
  | some (.running (.call r _), w) => check w r
  | _ => false

/-- Whether a script ends at a control point that passes the check. -/
def endsAtMark (settings : Settings) (monitor : Monitor G) (rules : Rules G) (g : G) (script : Script)
    (check : Cluster × G → Mark → Bool) : Bool :=
  endsAt settings monitor rules g script fun w r => match r with
    | .mark m => check w m
    | _ => false

variable {settings : Settings} {monitor : Monitor G} {rules : Rules G} {g : G} {script : Script}

theorem perform_reachable {state : Phase Req Response Reconciler Exit × (Cluster × G)}
    (performed : perform settings monitor rules g script = some state) :
    (operator settings monitor rules).Reachable (initially g) state :=
  (operatorPlayer settings monitor rules).play_reachable (.boot ⟨fun _ => rfl, rfl⟩) performed

theorem reachable_of_endsIn {check : Cluster × G → Bool}
    (ends : endsIn settings monitor rules g script check = true) :
    ∃ phase w, (operator settings monitor rules).Reachable (initially g) (phase, w) ∧ check w = true := by
  obtain ⟨⟨phase, w⟩, performed, passes⟩ := (Option.any_eq_true _ _).mp ends
  exact ⟨phase, w, perform_reachable performed, passes⟩

theorem issues_of_endsAt {check : Cluster × G → Req → Bool}
    (ends : endsAt settings monitor rules g script check = true) :
    ∃ w r, (operator settings monitor rules).Issues (initially g) w r ∧ check w r = true := by
  unfold endsAt at ends
  split at ends
  · rename_i r next w performed
    exact ⟨w, r, ⟨next, perform_reachable performed⟩, ends⟩
  · cases ends

theorem issues_of_endsAtMark {check : Cluster × G → Mark → Bool}
    (ends : endsAtMark settings monitor rules g script check = true) :
    ∃ w m, (operator settings monitor rules).Issues (initially g) w (.mark m) ∧ check w m = true := by
  obtain ⟨w, r, issued, checked⟩ := issues_of_endsAt ends
  cases r with
  | mark m => exact ⟨w, m, issued, checked⟩
  | _ => cases checked

end Scripts

/-- What an agent of a DaemonSet reports when it is done. -/
def KataDaemonSetAction.finalState : KataDaemonSetAction → KataInstallationDaemonSetState
  | .installKata => .installed
  | .uninstallKata => .uninstalled

def plainSettings : Settings where
  lookupEnv _ := none
  goarch := "amd64"
  inCluster := true
  tlsProfile := none
  parseConfigMapYAML _ := none
  parseJobYAML _ := none
  rangeOrder := inOrder

/-- A role is given in the environment, and every text but the empty one parses. -/
def roleSettings : CredentialsSettings where
  toSettings := { plainSettings with lookupEnv := fun name => if name = "ROLEARN" then some "arn:role" else none }
  parseCredentialsRequestYAML _ := none
  credentialType document := if document = "" then none else some "service_account"
  credentialType_empty := rfl
  jsonString text := "\"" ++ text ++ "\""

def clusterOf (requests : List Req) : Cluster :=
  requests.foldl (fun s r => (s.exec r).2) (.empty fun _ => true)

def exampleKey : Key := ⟨"", "example"⟩

def exampleKataConfig : KataConfig := ⟨{ name := exampleKey.name }, show KataConfigBody from {}⟩

def finalizedKataConfig : KataConfig :=
  { exampleKataConfig with metadata := { exampleKataConfig.metadata with
    finalizers := [kataConfigFinalizer] } }

def exampleVersion : Object Kind.clusterVersion :=
  ⟨{ name := "version" }, show ClusterVersionBody from ⟨"", ""⟩⟩

def examplePool (name : String) (updating : Bool) : MachineConfigPool :=
  ⟨{ name := name }, show MachineConfigPoolBody from { status := { conditions :=
    [{ type := .updating, status := if updating then .conditionTrue else .conditionFalse }] } }⟩

def exampleNode : Node := ⟨{ name := "node", labels := StrMap.ofList [(workerLabel, "")] }, ()⟩

def nodeReports (state : KataInstallationDaemonSetState) : Req :=
  .patch .node exampleNode.key [(kataInstallationDaemonSetLabel, some state.text)] id

/-- A cluster with one node on which the operator works through DaemonSets. -/
def daemonSetCluster : Script :=
  others [.create .clusterVersion ⟨{ name := "version" }, show ClusterVersionBody from ⟨"", "release"⟩⟩,
    .create .releaseInfo ⟨{ name := "release" }, show List ReleaseTag from
      [⟨"rhel-coreos-extensions", some "extensions"⟩, ⟨"cli", some "cli"⟩]⟩,
    .create .secret ⟨{ name := "pull-secret", ns := "openshift-config" }, show SecretBody from ⟨∅⟩⟩,
    .create .configMap ⟨{ name := "osc-feature-gates", ns := operatorNamespace },
      show ConfigMapBody from ⟨some (StrMap.ofList [("deploymentMode", "DaemonSet")])⟩⟩,
    .create .node exampleNode]

def poolReports (name : String) (updating : Bool) : Req :=
  .patch .machineConfigPool ⟨"", name⟩ [] fun (pool : MachineConfigPoolBody) =>
    { pool with status := { pool.status with conditions :=
      [{ type := .updating, status := if updating then .conditionTrue else .conditionFalse }] } }

def workerPool : MachineConfigPool :=
  ⟨{ name := "worker" }, show MachineConfigPoolBody from { status := { machineCount := 1 } }⟩

/-- A cluster with one node on which the operator works through MachineConfigs. -/
def machineConfigCluster (node : Node) : Script :=
  others [.create .clusterVersion exampleVersion, .create .machineConfigPool workerPool,
    .updateStatus .machineConfigPool workerPool, .create .node node]

/-- A `KataConfig` appears, its label and MachineConfig are set, the pool goes
through its update, and the installation is completed. -/
def installation (kataConfig : KataConfig) : Script :=
  others [.create .kataConfig kataConfig] ++ [.start exampleKey] ++ answered 36 ++ [.finish] ++
    others [poolReports "kata-oc" true] ++ [.start exampleKey] ++ answered 35 ++ [.finish] ++
    others [poolReports "kata-oc" false] ++ [.start exampleKey] ++ answered 57 ++ [.finish]

def poolAppears (name : String) (updating : Bool) : Script :=
  others [.create .machineConfigPool (examplePool name updating),
    .updateStatus .machineConfigPool (examplePool name updating)]

end SandboxedContainers
