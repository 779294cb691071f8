import SandboxedContainers.Lib.Eval
import SandboxedContainers.ImageGenerator

/-!
# What the client exchanges with the server

A run keeps a log of what was asked and what was answered.  A call of the client logs
one exchange and hands on its answer; `Issues` bounds what a longer routine can log.
-/

namespace SandboxedContainers

open Lib Routine

abbrev Exchange := (r : Req) × Response r

section Runs

variable {S α β : Type} {answer : S → (r : Req) → Response r → S → Prop} {s s' : S}
  {memory memory' : Reconciler} {log : List Exchange}

theorem fromApi_runs {response : Except ApiError α} {outcome : Except Err α × Reconciler}
    (runs : Prog.Runs answer ((fromApi response : Op Err α) memory) s log outcome s') :
    s' = s ∧ log = [] ∧ outcome = (response.mapError .api, memory) := by
  cases response with
  | ok value =>
    cases runs
    exact ⟨rfl, rfl, rfl⟩
  | error error =>
    cases runs
    exact ⟨rfl, rfl, rfl⟩

/-- A client call is one request, and hands on what is answered. -/
theorem call_runs (r : Req) (unwrap : Response r → Except ApiError α) {outcome : Except Err α × Reconciler}
    (runs : Prog.Runs answer ((ask r >>= fun response => fromApi (unwrap response) : Op Err α) memory) s log
      outcome s') :
    ∃ response, answer s r response s' ∧ log = [⟨r, response⟩] ∧
      outcome = ((unwrap response).mapError .api, memory) := by
  replace runs : Prog.Runs answer (.call r fun response => (fromApi (unwrap response) : Op Err α) memory) s log
    outcome s' := runs
  cases runs with
  | call response answered rest =>
    obtain ⟨rfl, rfl, ended⟩ := fromApi_runs rest
    exact ⟨response, answered, rfl, ended⟩

/-- The same for a call whose error is looked at. -/
theorem attempt_call_runs {ε : Type} (r : Req) (unwrap : Response r → Except ApiError α)
    {next : Except Err α → Op ε β} {outcome : Except ε β × Reconciler}
    (runs : Prog.Runs answer ((attempt (ask r >>= fun response => fromApi (unwrap response) : Op Err α) >>= next)
      memory) s log outcome s') :
    ∃ response between rest, answer s r response between ∧ log = ⟨r, response⟩ :: rest ∧
      ∀ result, (unwrap response).mapError .api = result → Prog.Runs answer (next result memory) between rest outcome s' := by
  obtain ⟨result, memory₁, between, first, rest, ran, ends, rfl⟩ := runs_attempt_bind runs
  obtain ⟨response, answered, rfl, ended⟩ := call_runs r unwrap ran
  cases ended
  exact ⟨response, between, rest, answered, rfl, fun _ same => same ▸ ends⟩

theorem caught_runs {routine : Op Err α} {outcome : Except Err (Except Err α) × Reconciler}
    (runs : Prog.Runs answer (caught routine memory) s log outcome s') :
    ∃ result memory', Prog.Runs answer (routine memory) s log (result, memory') s' ∧
      ((outcome = (.ok result, memory') ∧ ∀ text, result ≠ .error (.panic text)) ∨
        ∃ text, result = .error (.panic text) ∧ outcome = (.error (.panic text), memory')) := by
  obtain ⟨result, memory', between, first, rest, ran, ends, rfl⟩ := runs_attempt_bind runs
  split at ends
  · rename_i text
    cases ends
    rw [List.append_nil]
    exact ⟨_, memory', ran, .inr ⟨text, rfl, rfl⟩⟩
  · rename_i calm
    cases ends
    rw [List.append_nil]
    exact ⟨result, memory', ran, .inl ⟨rfl, fun text panics => calm text panics⟩⟩

theorem orReturn_runs {routine : Op Err α} {early : Result} {result : Except Exit α}
    (runs : Prog.Runs answer (orReturn routine early memory) s log (result, memory') s') :
    (∃ value, Prog.Runs answer (routine memory) s log (.ok value, memory') s' ∧ result = .ok value) ∨
      ∃ error exit, Prog.Runs answer (routine memory) s log (.error error, memory') s' ∧ result = .error exit ∧
        exit.err = some error := by
  obtain ⟨ended, ran, rfl⟩ := of_runs_orElse runs
  cases ended with
  | ok value => exact .inl ⟨value, ran, rfl⟩
  | error error =>
    refine .inr ⟨error, _, ran, rfl, ?_⟩
    dsimp only
    split <;> rfl

theorem ignore_runs {ε ε' : Type} {routine : Op ε α} {outcome : Except ε' PUnit × Reconciler}
    (runs : Prog.Runs answer ((Routine.ignore routine : Op ε' PUnit) memory) s log outcome s') :
    ∃ result memory', Prog.Runs answer (routine memory) s log (result, memory') s' ∧
      outcome = (.ok ⟨⟩, memory') := by
  obtain ⟨result, memory', between, first, rest, ran, ends, rfl⟩ := runs_attempt_bind runs
  cases ends
  rw [List.append_nil]
  exact ⟨result, memory', ran, rfl⟩

def Err.Panics (error : Err) : Prop := ∃ text, error = .panic text

@[grind ←]
theorem stops_caught (routine : Op Err α) : Stops Err.Panics (caught routine) := by
  refine (stops_attempt routine).bind fun result => ?_
  split
  · exact stops_throw ⟨_, rfl⟩
  · exact stops_pure _

@[grind ←]
theorem stops_ignore {p : Err → Prop} (routine : Op Err α) : Stops p (Routine.ignore routine : Op Err PUnit) :=
  (stops_attempt routine).bind fun _ => stops_pure _

end Runs

section Rules

variable {p : Req → Prop} {ε α : Type}

theorem inquiry_fromApi (response : Except ApiError α) : Inquiry p (fromApi response) := by
  cases response with
  | ok value => exact inquiry_pure value
  | error error => exact inquiry_throw _

theorem inquiry_call {r : Req} {next : Response r → Op Err α} (allowed : p r)
    (rest : ∀ response, Inquiry p (next response)) : Inquiry p (ask r >>= next) :=
  (inquiry_request allowed).bind rest

@[grind ←]
theorem inquiry_clientGet {k : Kind} {key : Key} (allowed : p (.get k (scopedKey k key))) :
    Inquiry p (clientGet k key) := inquiry_call allowed inquiry_fromApi

@[grind ←]
theorem inquiry_clientList {k : Kind} {selector : Selector} (allowed : p (.list k selector)) :
    Inquiry p (clientList k selector) := inquiry_call allowed inquiry_fromApi

@[grind ←]
theorem inquiry_clientCreate {k : Kind} {object : Object k} (allowed : p (.create k (inScope object))) :
    Inquiry p (clientCreate object) := inquiry_call allowed inquiry_fromApi

@[grind ←]
theorem inquiry_clientUpdate {k : Kind} {object : Object k} (allowed : p (.update k (inScope object))) :
    Inquiry p (clientUpdate object) := inquiry_call allowed inquiry_fromApi

@[grind ←]
theorem inquiry_clientDelete {k : Kind} {key : Key} (allowed : p (.delete k (scopedKey k key))) :
    Inquiry p (clientDelete k key) := inquiry_call allowed inquiry_fromApi

@[grind ←]
theorem looks_clientGet {k : Kind} {key : Key} (allowed : p (.get k (scopedKey k key))) :
    Looks p (clientGet k key) := (inquiry_clientGet allowed).looks

@[grind ←]
theorem looks_clientList {k : Kind} {selector : Selector} (allowed : p (.list k selector)) :
    Looks p (clientList k selector) := (inquiry_clientList allowed).looks

@[grind ←]
theorem looks_clientCreate {k : Kind} {object : Object k} (allowed : p (.create k (inScope object))) :
    Looks p (clientCreate object) := (inquiry_clientCreate allowed).looks

@[grind ←]
theorem looks_clientUpdate {k : Kind} {object : Object k} (allowed : p (.update k (inScope object))) :
    Looks p (clientUpdate object) := (inquiry_clientUpdate allowed).looks

@[grind ←]
theorem looks_clientPatch {k : Kind} {key : Key} {change : Kind.Body k → Kind.Body k}
    (allowed : p (.patch k (scopedKey k key) [] change)) : Looks p (clientPatch k key change) :=
  (inquiry_call allowed inquiry_fromApi).looks

@[grind ←]
theorem looks_reconciler : Looks p (reconciler : Op ε Reconciler) := looks_get

@[grind ←]
theorem looks_setControllerReference {k : Kind} (object : Object k) :
    Looks p (setControllerReference object) := by
  unfold setControllerReference
  grind

@[grind ←]
theorem looks_putData (configMap : ConfigMap) (key value : String) :
    Looks p (putData configMap key value) := by
  unfold putData
  grind

@[grind ←]
theorem looks_putImageVersion (ig : ImageGenerator) (cm : ConfigMap) : Looks p (ig.putImageVersion cm) := by
  unfold ImageGenerator.putImageVersion
  grind

@[grind ←]
theorem looks_readFile (reads : ∀ key, p (.get .file key)) (path : String) : Looks p (readFile path) := by
  unfold readFile
  grind

@[grind ←]
theorem issues_caught {routine : Op Err α} (issues : Issues p routine) : Issues p (caught routine) := by
  apply issues.attempt.bind
  intro result
  split
  · exact issues_throw _
  · exact issues_pure _

section Pools

variable (reads : ∀ key, p (.get .machineConfigPool key)) (lists : p (.list .machineConfigPool []))
include reads lists

@[grind ←]
theorem inquiry_checkConvergedCluster : Inquiry p checkConvergedCluster := by
  unfold checkConvergedCluster isMachineConfigPoolAvailable isKindAvailable
  grind

@[grind ←]
theorem inquiry_isConvergedAndKnown : Inquiry p (isConvergedAndKnown : Op ε Bool) := by
  unfold isConvergedAndKnown
  grind

@[grind ←]
theorem inquiry_getNodeSelectorAsMap : Inquiry p (getNodeSelectorAsMap : Op ε (List (String × String))) := by
  unfold getNodeSelectorAsMap
  grind

end Pools

section Generator

variable (settings : Settings) (reads : ∀ {k : Kind} {key : Key}, k ≠ .job → p (.get k key))
include reads

theorem looks_newImageGenerator : Looks p (newImageGenerator settings) := by
  have provider : Looks p (cloudProvider settings) := by
    unfold cloudProvider getCloudProviderFromInfra
    grind
  have version : Looks p getClusterID := by
    unfold getClusterID getClusterVersion
    grind
  have file : Looks p (readFile "/proc/sys/crypto/fips_enabled") := looks_readFile (fun _ => reads nofun) _
  unfold newImageGenerator
  grind

theorem looks_createImageConfigMapFromFile (creates : ∀ configMap, p (.create .configMap configMap))
    (ig : ImageGenerator) : Looks p (ImageGenerator.createImageConfigMapFromFile settings ig) := by
  have file (path : String) : Looks p (readFile path) := looks_readFile (fun _ => reads nofun) path
  refine (looks_clientGet (reads (by decide))).attempt.bind fun found => ?_
  cases found <;> grind

theorem issues_initializeImageGenerator : Issues p (initializeImageGenerator settings) := by
  refine looks_reconciler.1.bind fun r => ?_
  split
  · exact issues_pure _
  · exact (looks_newImageGenerator settings reads).1.bind fun _ => (issues_modify _).bind fun _ => issues_pure _

end Generator

end Rules

end SandboxedContainers
