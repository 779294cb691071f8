import SandboxedContainers.ConsolePlugins
import SandboxedContainers.UninstallDetection

/-!
# Removing the console plugins

When the operator is uninstalled it removes what nothing else would: for each plugin the entry
on the `Console` and five objects.  A failed attempt is remembered and the next one is made all
the same; at the end the failures are returned together.

A `Sweep` is the record of what was attempted for one plugin.  Which attempts there are, and
when an error is returned, holds for any answers whatever; what is left in the cluster is told
for a server.
-/

namespace SandboxedContainers

open Lib Routine

/-- `errors.Join`; nobody looks into the result. -/
def joinErrors (errs : List Err) : Err := .new (String.intercalate "\n" (errs.map Err.message))

def networkPolicyName (pluginName : String) : String := "allow-" ++ pluginName

/-- An object to be deleted, with the Go type that error messages name. -/
structure OwnedObject where
  type : String
  kind : Kind
  key : Key

/-- The namespaced objects of a plugin and the one that is not. -/
def ownedObjects (ns pluginName : String) : List OwnedObject :=
  [⟨"*v1.Deployment", .deployment, ⟨ns, pluginName⟩⟩, ⟨"*v1.Service", .service, ⟨ns, pluginName⟩⟩,
   ⟨"*v1.ConfigMap", .configMap, ⟨ns, pluginName⟩⟩,
   ⟨"*v1.NetworkPolicy", .networkPolicy, ⟨ns, networkPolicyName pluginName⟩⟩,
   ⟨"*v1.ConsolePlugin", .consolePlugin, ⟨"", pluginName⟩⟩]

section Cleanup

variable {ε : Type} (ns : String)

def deleteOwned (errs : List Err) (owned : OwnedObject) : Op ε (List Err) := do
  match ← Routine.attempt (clientDelete owned.kind owned.key) with
  | .ok _ => return errs
  | .error error =>
    if error.isNotFound then return errs
    else return errs ++ [.wrap ("deleting " ++ owned.type ++ " " ++ owned.key.name ++ ": ") error]

def disablingErrors (pluginName : String) : Op ε (List Err) := do
  match ← Routine.attempt (disableConsolePlugin pluginName) with
  | .ok _ => return []
  | .error error => return [.wrap "disabling console plugin: " error]

def reportErrors (errs : List Err) : Op Err PUnit :=
  if errs = [] then return ⟨⟩ else Routine.throw (joinErrors errs)

def deleteResources (pluginName : String) : Op Err PUnit := do
  let errs ← disablingErrors pluginName
  reportErrors (← (ownedObjects ns pluginName).foldlM deleteOwned errs)

def cleanUpPlugin (errs : List Err) (pluginName : String) : Op ε (List Err) := do
  match ← Routine.attempt (deleteResources ns pluginName) with
  | .ok _ => return errs
  | .error error => return errs ++ [.wrap ("cleaning up console plugin " ++ pluginName ++ ": ") error]

def cleanUpPlugins (pluginNames : List String) : Op Err PUnit := do
  reportErrors (← pluginNames.foldlM (cleanUpPlugin ns) [])

end Cleanup

def namespaceOrDefault (ns : String) : String := if ns = "" then operatorNamespace else ns

def cleanupConsolePluginsOnUninstall (ns csvPrefix deploymentName : String) (pluginNames : List String) :
    Op Err PUnit := do
  if pluginNames = [] then return ⟨⟩
  match ← operatorUninstallInProgress (namespaceOrDefault ns) csvPrefix deploymentName with
  | (_, some error) => Routine.throw error
  | (false, none) => return ⟨⟩
  | (true, none) => cleanUpPlugins (namespaceOrDefault ns) pluginNames

namespace PluginCleanup

open ConsolePlugins (Edits settle_console inScope_edited)
open UninstallDetection (stops_operatorUninstallInProgress)

structure Sweep where
  plugin : String
  edit : List Exchange
  deletions : List Exchange

def deletionOf (owned : OwnedObject) : Req := .delete owned.kind owned.key

/-- A failed update of the `Console`, or a read of it that failed for another reason than that
there is none. -/
def StepFailed (exchange : Exchange) : Prop :=
  (∃ error : ApiError, exchange = ⟨.get .console consoleKey, .error error⟩ ∧ error.reason ≠ .notFound) ∨
    ∃ (console : Console) (error : ApiError), exchange = ⟨.update .console console, .error error⟩

def EditFailed (edit : List Exchange) : Prop := ∃ last, edit.getLast? = some last ∧ StepFailed last

def DeletionFailed (exchange : Exchange) : Prop :=
  ∃ k key, ∃ error : ApiError, exchange = ⟨.delete k key, .error error⟩ ∧ error.reason ≠ .notFound

namespace Sweep

def log (sweep : Sweep) : List Exchange := sweep.edit ++ sweep.deletions

def Failed (sweep : Sweep) : Prop := EditFailed sweep.edit ∨ ∃ exchange ∈ sweep.deletions, DeletionFailed exchange

/-- The `Console` was edited, or an attempt was made, and each of the five objects was
attempted to be deleted. -/
structure Complete {S : Type} (reply : S → (r : Req) → Response r → S → Prop) (ns : String) (sweep : Sweep) :
    Prop where
  edit : ∃ w w' memory outcome, Prog.Runs reply (disableConsolePlugin sweep.plugin memory) w sweep.edit outcome w'
  deletions : sweep.deletions.map Sigma.fst = (ownedObjects ns sweep.plugin).map deletionOf

end Sweep

/-- A `Console` without the entries and the markers of these plugins, and otherwise the same. -/
structure Stripped (pluginNames : List String) (console after : Console) : Prop where
  body : after.body = (setPlugins console ((pluginsOf console).filter (· ∉ pluginNames))).body
  annotations : ∀ key, after.metadata.annotations.lookup key =
    if key ∈ pluginNames.map enabledMarkerKey then none else console.metadata.annotations.lookup key
  metadata : after.metadata = { console.metadata with
    annotations := after.metadata.annotations, resourceVersion := after.metadata.resourceVersion }

theorem stripped_unchanged {console : Console} {pluginName : String}
    (untouched : ((pluginsOf console).filter (· ≠ pluginName)).length = (pluginsOf console).length)
    (unmarked : isMarked pluginName console = false) : Stripped [pluginName] console console := by
  have plugins : (pluginsOf console).filter (· ∉ [pluginName]) = pluginsOf console := by
    simp only [List.mem_singleton]
    exact List.filter_eq_self.mpr (List.length_filter_eq_length_iff.mp untouched)
  refine ⟨by rw [plugins]; rfl, fun key => ?_, rfl⟩
  by_cases same : key = enabledMarkerKey pluginName
  · subst same
    simpa [isMarked, StrMap.hasKey] using unmarked
  · simp [same]

def targetOf (owned : OwnedObject) : Kind × Key := (owned.kind, owned.key)

def targetsOf (ns pluginName : String) : List (Kind × Key) := (ownedObjects ns pluginName).map targetOf

/-- A relation that the edits and deletions of a run establish piece by piece, where none fails. -/
structure Builds {S : Type} (reply : S → (r : Req) → Response r → S → Prop)
    (Done : List String → List (Kind × Key) → S → S → Prop) : Prop where
  refl (w : S) : Done [] [] w w
  trans {names names' targets targets' w w₁ w'} :
    Done names targets w w₁ → Done names' targets' w₁ w' → Done (names ++ names') (targets ++ targets') w w'
  edit {pluginName memory memory' w w' log} :
    Prog.Runs reply (disableConsolePlugin pluginName memory) w log (.ok ⟨⟩, memory') w' → Done [pluginName] [] w w'
  delete {ns pluginName owned w w' response} : owned ∈ ownedObjects ns pluginName →
    reply w (deletionOf owned) response w' → ¬ DeletionFailed ⟨deletionOf owned, response⟩ →
    Done [] [targetOf owned] w w'

section Attempts

variable {S : Type} {reply : S → (r : Req) → Response r → S → Prop} {w w' : S} {log : List Exchange}
  {memory memory' : Reconciler} {ns pluginName : String}

theorem editFailed_append {first rest : List Exchange} (nonempty : rest ≠ []) :
    EditFailed (first ++ rest) ↔ EditFailed rest := by
  rw [EditFailed, List.getLast?_append_of_ne_nil _ nonempty, EditFailed]

theorem editFailed_singleton {last : Exchange} : EditFailed [last] ↔ StepFailed last := by
  simp [EditFailed]

theorem editFailed_get {response : Response (.get .console consoleKey : Req)} :
    EditFailed [⟨.get .console consoleKey, response⟩] ↔
      ∃ error : ApiError, response = .error error ∧ error.reason ≠ .notFound := by
  rw [editFailed_singleton]
  constructor
  · rintro (⟨error, same, other⟩ | ⟨_, _, same⟩)
    · cases same
      exact ⟨error, rfl, other⟩
    · cases same
  · rintro ⟨error, rfl, other⟩
    exact .inl ⟨error, rfl, other⟩

theorem editFailed_update (first : List Exchange) {console : Console}
    {response : Response (.update .console console : Req)} :
    EditFailed (first ++ [⟨.update .console console, response⟩]) ↔ ∃ error : ApiError, response = .error error := by
  rw [editFailed_append (List.cons_ne_nil _ _), editFailed_singleton]
  constructor
  · rintro (⟨error, same, _⟩ | ⟨_, error, same⟩)
    · cases same
    · cases same
      exact ⟨error, rfl⟩
  · rintro ⟨error, rfl⟩
    exact .inr ⟨console, error, rfl⟩

/-- What an attempt can come to: the `Console` is not read, there is nothing to do, or it is
written. -/
theorem disableAttempt_runs {result : Except Err PUnit}
    (runs : Prog.Runs reply (disableAttempt pluginName memory) w log (result, memory') w') :
    ∃ response between rest, reply w (.get .console consoleKey) response between ∧
      log = ⟨.get .console consoleKey, response⟩ :: rest ∧
      ((rest = [] ∧ w' = between ∧ ∃ error : ApiError, response = .error error ∧
          ((∃ error, result = .error error) ↔ error.reason ≠ .notFound)) ∨
        ∃ console, response = .ok console ∧
          ((rest = [] ∧ w' = between ∧ result = .ok ⟨⟩ ∧ Stripped [pluginName] console console) ∨
            ∃ answer, reply between (.update .console (inScope (dropPlugin pluginName console))) answer w' ∧
              rest = [⟨.update .console (inScope (dropPlugin pluginName console)), answer⟩] ∧
              ((∃ error, result = .error error) ↔ ∃ error : ApiError, answer = .error error))) := by
  obtain ⟨response, between, rest, answered, rfl, ends⟩ := attempt_call_runs (.get .console consoleKey) id runs
  refine ⟨response, between, rest, answered, rfl, ?_⟩
  cases response with
  | error error =>
    left
    specialize ends (.error (.api error)) rfl
    dsimp only at ends
    split at ends
    · next missing =>
      cases ends
      exact ⟨rfl, rfl, error, rfl, iff_of_false (by simp) (by simpa [Err.isNotFound, Err.reason?] using missing)⟩
    · next other =>
      cases ends
      exact ⟨rfl, rfl, error, rfl, iff_of_true ⟨_, rfl⟩ (by simpa [Err.isNotFound, Err.reason?] using other)⟩
  | ok console =>
    refine .inr ⟨console, rfl, ?_⟩
    specialize ends (.ok console) rfl
    dsimp only at ends
    split at ends
    · next nothing =>
      cases ends
      simp only [Bool.and_eq_true, decide_eq_true_eq, Bool.not_eq_true'] at nothing
      exact .inl ⟨rfl, rfl, rfl, stripped_unchanged nothing.1 nothing.2⟩
    · right
      rcases runs_bind ends with ⟨_, _, _, _, _, updated, done, rfl⟩ | ⟨_, _, updated, same⟩
      · cases done
        obtain ⟨answer, replied, rfl, ended⟩ := call_runs
          (.update .console (inScope (dropPlugin pluginName console))) id updated
        refine ⟨answer, replied, rfl, iff_of_false (by simp) ?_⟩
        rintro ⟨error, rfl⟩
        cases ended
      · cases same
        obtain ⟨answer, replied, rfl, ended⟩ := call_runs
          (.update .console (inScope (dropPlugin pluginName console))) id updated
        refine ⟨answer, replied, rfl, iff_of_true ⟨_, rfl⟩ ?_⟩
        cases answer with
        | ok answer => cases ended
        | error error => exact ⟨error, rfl⟩

theorem disableAttempt_fails {result : Except Err PUnit}
    (runs : Prog.Runs reply (disableAttempt pluginName memory) w log (result, memory') w') :
    log ≠ [] ∧ ((∃ error, result = .error error) ↔ EditFailed log) := by
  obtain ⟨response, _, _, _, rfl, ⟨rfl, _, error, rfl, failed⟩ | ⟨console, rfl, ⟨rfl, _, rfl, _⟩ |
    ⟨answer, _, rfl, failed⟩⟩⟩ := disableAttempt_runs runs
  · refine ⟨List.cons_ne_nil _ _, failed.trans (Iff.trans ?_ editFailed_get.symm)⟩
    exact ⟨fun other => ⟨error, rfl, other⟩, fun ⟨_, same, other⟩ => Except.error.inj same ▸ other⟩
  · refine ⟨List.cons_ne_nil _ _, Iff.trans (iff_of_false (by simp) ?_) editFailed_get.symm⟩
    rintro ⟨_, ⟨⟩, _⟩
  · exact ⟨List.cons_ne_nil _ _, failed.trans (editFailed_update [_]).symm⟩

theorem retryOnConflict_runs {P : S → List Exchange → Except Err PUnit → S → Prop} {operation : Op Err PUnit}
    (once : ∀ {w w' : S} {log memory memory'} {result : Except Err PUnit},
      Prog.Runs reply (operation memory) w log (result, memory') w' → P w log result w')
    (again : ∀ {w w₁ w' : S} {log log' error result},
      P w log (.error error) w₁ → P w₁ log' result w' → P w (log ++ log') result w')
    {retries : Nat} {result : Except Err PUnit}
    (runs : Prog.Runs reply (retryOnConflict operation retries memory) w log (result, memory') w') :
    P w log result w' := by
  induction retries generalizing w log memory with
  | zero => exact once runs
  | succ retries ih =>
    obtain ⟨tried, memory₁, between, first, rest, ran, ends, rfl⟩ := runs_attempt_bind runs
    cases tried with
    | ok value =>
      cases ends
      rw [List.append_nil]
      exact once ran
    | error error =>
      dsimp only at ends
      split at ends
      · exact again (once ran) (ih ends)
      · cases ends
        rw [List.append_nil]
        exact once ran

theorem disableConsolePlugin_runs {result : Except Err PUnit}
    (runs : Prog.Runs reply (disableConsolePlugin pluginName memory) w log (result, memory') w') :
    (∃ error, result = .error error) ↔ EditFailed log := by
  obtain ⟨inner, memory₁, between, first, rest, ran, ends, rfl⟩ := runs_attempt_bind runs
  have failed : first ≠ [] ∧ ((∃ error, inner = .error error) ↔ EditFailed first) := by
    refine retryOnConflict_runs (P := fun _ log result _ => log ≠ [] ∧ ((∃ error, result = .error error) ↔ EditFailed log))
      disableAttempt_fails (fun _ later => ⟨by simp [later.1], ?_⟩) ran
    rw [editFailed_append later.1]
    exact later.2
  cases inner with
  | ok value =>
    cases ends
    rw [List.append_nil, ← failed.2]
  | error error =>
    cases ends
    rw [List.append_nil, ← failed.2]
    exact iff_of_true ⟨_, rfl⟩ ⟨_, rfl⟩

theorem deletionFailed_iff {k : Kind} {key : Key} {response : Response (.delete k key : Req)} :
    DeletionFailed ⟨.delete k key, response⟩ ↔ ∃ error : ApiError, response = .error error ∧ error.reason ≠ .notFound := by
  constructor
  · rintro ⟨_, _, error, same, other⟩
    cases same
    exact ⟨error, rfl, other⟩
  · rintro ⟨error, rfl, other⟩
    exact ⟨k, key, error, rfl, other⟩

theorem clientDelete_replies {k : Kind} {key : Key} {result : Except Err PUnit} (scope : scopedKey k key = key)
    (runs : Prog.Runs reply (clientDelete k key memory) w log (result, memory') w') :
    ∃ response : Response (.delete k key : Req), reply w (.delete k key) response w' ∧
      log = [⟨.delete k key, response⟩] ∧ (result, memory') = (Except.mapError Err.api response, memory) := by
  have called := call_runs (.delete k (scopedKey k key)) id runs
  rw [scope] at called
  exact called

theorem deleteOwned_runs {errs : List Err} {owned : OwnedObject} {result : Except Err (List Err)}
    (scope : scopedKey owned.kind owned.key = owned.key)
    (runs : Prog.Runs reply (deleteOwned errs owned memory) w log (result, memory') w') :
    ∃ response errs', reply w (deletionOf owned) response w' ∧ log = [⟨deletionOf owned, response⟩] ∧
      result = .ok errs' ∧ (errs' = [] ↔ errs = [] ∧ ¬ DeletionFailed ⟨deletionOf owned, response⟩) := by
  obtain ⟨answer, memory₁, between, first, rest, ran, ends, rfl⟩ := runs_attempt_bind runs
  obtain ⟨response, replied, rfl, ended⟩ := clientDelete_replies scope ran
  cases response with
  | ok done =>
    obtain rfl : answer = .ok ⟨⟩ := (Prod.mk.inj ended).1
    cases ends
    refine ⟨_, errs, replied, rfl, rfl, (and_iff_left fun failed => ?_).symm⟩
    obtain ⟨_, ⟨⟩, _⟩ := deletionFailed_iff.mp failed
  | error error =>
    obtain rfl : answer = .error (.api error) := (Prod.mk.inj ended).1
    dsimp only at ends
    split at ends
    · next missing =>
        cases ends
        refine ⟨_, errs, replied, rfl, rfl, (and_iff_left fun failed => ?_).symm⟩
        obtain ⟨_, ⟨rfl⟩, other⟩ := deletionFailed_iff.mp failed
        exact other (by simpa [Err.isNotFound, Err.reason?] using missing)
    · next other =>
        cases ends
        refine ⟨_, _, replied, rfl, rfl, iff_of_false (by simp) fun both => both.2 ?_⟩
        exact deletionFailed_iff.mpr ⟨error, rfl, by simpa [Err.isNotFound, Err.reason?] using other⟩

theorem scopedKey_ownedObjects (ns pluginName : String) :
    ∀ owned ∈ ownedObjects ns pluginName, scopedKey owned.kind owned.key = owned.key := by
  simp [ownedObjects, scopedKey, Kind.namespaced]

variable {Done : List String → List (Kind × Key) → S → S → Prop} (builds : Builds reply Done)
include builds

theorem deletions_runs {errs : List Err} {objects : List OwnedObject} {result : Except Err (List Err)}
    (all : ∀ owned ∈ objects, owned ∈ ownedObjects ns pluginName)
    (runs : Prog.Runs reply ((objects.foldlM deleteOwned errs : Op Err (List Err)) memory) w log
      (result, memory') w') :
    log.map Sigma.fst = objects.map deletionOf ∧ ∃ errs', result = .ok errs' ∧
      (errs' = [] ↔ errs = [] ∧ ∀ exchange ∈ log, ¬ DeletionFailed exchange) ∧
      (errs' = [] → Done [] (objects.map targetOf) w w') := by
  induction objects generalizing errs w log memory with
  | nil =>
    cases runs
    exact ⟨rfl, errs, rfl, by simp, fun _ => builds.refl _⟩
  | cons owned objects ih =>
    rw [List.foldlM_cons] at runs
    rw [List.forall_mem_cons] at all
    have scope := scopedKey_ownedObjects ns pluginName owned all.1
    rcases runs_bind runs with ⟨errs₁, memory₁, between, first, rest, ran, ends, rfl⟩ | ⟨error, _, ran, _⟩
    · obtain ⟨response, _, replied, rfl, ⟨rfl⟩, noErrs⟩ := deleteOwned_runs scope ran
      obtain ⟨requests, errs', rfl, noErrs', later⟩ := ih all.2 ends
      refine ⟨by simp [requests], errs', rfl, ?_, fun none => ?_⟩
      · rw [noErrs', noErrs, and_assoc]
        simp
      · exact builds.trans (builds.delete all.1 replied (noErrs.mp (noErrs'.mp none).1).2) (later none)
    · obtain ⟨_, _, _, _, ⟨⟩, _⟩ := deleteOwned_runs scope ran

theorem disablingErrors_runs {result : Except Err (List Err)}
    (runs : Prog.Runs reply (disablingErrors pluginName memory) w log (result, memory') w') :
    (∃ outcome w', Prog.Runs reply (disableConsolePlugin pluginName memory) w log outcome w') ∧
      ∃ errs, result = .ok errs ∧ (errs = [] ↔ ¬ EditFailed log) ∧ (errs = [] → Done [pluginName] [] w w') := by
  obtain ⟨outcome, memory₁, between, first, rest, ran, ends, rfl⟩ := runs_attempt_bind runs
  have failed := disableConsolePlugin_runs ran
  cases outcome with
  | ok value =>
    cases ends
    rw [List.append_nil, ← failed]
    exact ⟨⟨_, _, ran⟩, [], rfl, by simp, fun _ => builds.edit ran⟩
  | error error =>
    cases ends
    rw [List.append_nil, ← failed]
    exact ⟨⟨_, _, ran⟩, _, rfl, by simp, by simp⟩

omit builds in
theorem reportErrors_runs {errs : List Err} {result : Except Err PUnit}
    (runs : Prog.Runs reply (reportErrors errs memory) w log (result, memory') w') :
    log = [] ∧ w' = w ∧ ((∃ error, result = .error error) ↔ errs ≠ []) ∧ (result = .ok ⟨⟩ → errs = []) := by
  unfold reportErrors at runs
  split at runs
  · next none =>
    cases runs
    exact ⟨rfl, rfl, by simp [none], fun _ => none⟩
  · next some =>
    cases runs
    exact ⟨rfl, rfl, by simp [some], by simp⟩

theorem deleteResources_runs {result : Except Err PUnit}
    (runs : Prog.Runs reply (deleteResources ns pluginName memory) w log (result, memory') w') :
    ∃ sweep : Sweep, sweep.plugin = pluginName ∧ sweep.log = log ∧ sweep.Complete reply ns ∧
      ((∃ error, result = .error error) ↔ sweep.Failed) ∧
      (result = .ok ⟨⟩ → Done [pluginName] (targetsOf ns pluginName) w w') := by
  rcases runs_bind runs with ⟨errs, memory₁, between, edit, rest, ran, ends, rfl⟩ | ⟨_, _, ran, _⟩
  · obtain ⟨⟨outcome, _, edits⟩, _, ⟨rfl⟩, noErrs, edited⟩ := disablingErrors_runs builds ran
    rcases runs_bind ends with ⟨errs', memory₂, between', deletions, last, deletes, reports, rfl⟩ | ⟨_, _, deletes, _⟩
    · obtain ⟨requests, _, ⟨rfl⟩, noErrs', deleted⟩ := deletions_runs builds (fun _ => id) deletes
      obtain ⟨rfl, rfl, reported, nil⟩ := reportErrors_runs reports
      rw [List.append_nil]
      refine ⟨⟨pluginName, edit, deletions⟩, rfl, rfl, ⟨⟨_, _, _, _, edits⟩, requests⟩, ?_, fun done => ?_⟩
      · rw [reported, Ne, noErrs', noErrs, Sweep.Failed]
        simp only [not_and_or, not_not, not_forall, exists_prop]
      · exact builds.trans (edited (noErrs'.mp (nil done)).1) (deleted (nil done))
    · obtain ⟨_, _, ⟨⟩, _⟩ := deletions_runs builds (fun _ => id) deletes
  · obtain ⟨_, _, ⟨⟩, _⟩ := disablingErrors_runs builds ran

theorem cleanUpPlugin_runs {errs : List Err} {result : Except Err (List Err)}
    (runs : Prog.Runs reply (cleanUpPlugin ns errs pluginName memory) w log (result, memory') w') :
    ∃ sweep : Sweep, sweep.plugin = pluginName ∧ sweep.log = log ∧ sweep.Complete reply ns ∧
      ∃ errs', result = .ok errs' ∧ (errs' = [] ↔ errs = [] ∧ ¬ sweep.Failed) ∧
        (errs' = [] → Done [pluginName] (targetsOf ns pluginName) w w') := by
  obtain ⟨outcome, memory₁, between, first, rest, ran, ends, rfl⟩ := runs_attempt_bind runs
  obtain ⟨sweep, named, same, complete, failed, done⟩ := deleteResources_runs builds ran
  refine ⟨sweep, named, ?_⟩
  rw [← failed]
  cases outcome with
  | ok value =>
    cases ends
    exact ⟨same.trans (List.append_nil _).symm, complete, errs, rfl, by simp, fun _ => done rfl⟩
  | error error =>
    cases ends
    exact ⟨same.trans (List.append_nil _).symm, complete, _, rfl, by simp, by simp⟩

theorem sweeps_runs {errs : List Err} {pluginNames : List String} {result : Except Err (List Err)}
    (runs : Prog.Runs reply ((pluginNames.foldlM (cleanUpPlugin ns) errs : Op Err (List Err)) memory) w log
      (result, memory') w') :
    ∃ sweeps : List Sweep, sweeps.map Sweep.plugin = pluginNames ∧ sweeps.flatMap Sweep.log = log ∧
      (∀ sweep ∈ sweeps, sweep.Complete reply ns) ∧
      ∃ errs', result = .ok errs' ∧ (errs' = [] ↔ errs = [] ∧ ∀ sweep ∈ sweeps, ¬ sweep.Failed) ∧
        (errs' = [] → Done pluginNames (pluginNames.flatMap (targetsOf ns)) w w') := by
  induction pluginNames generalizing errs w log memory with
  | nil =>
    cases runs
    exact ⟨[], rfl, rfl, by simp, errs, rfl, by simp, fun _ => builds.refl _⟩
  | cons pluginName pluginNames ih =>
    rw [List.foldlM_cons] at runs
    rcases runs_bind runs with ⟨errs₁, memory₁, between, first, rest, ran, ends, rfl⟩ | ⟨_, _, ran, _⟩
    · obtain ⟨sweep, named, same, complete, _, ⟨rfl⟩, noErrs, done⟩ := cleanUpPlugin_runs builds ran
      obtain ⟨sweeps, names, logs, completes, errs', rfl, noErrs', later⟩ := ih ends
      refine ⟨sweep :: sweeps, by simp [named, names], by simp [same, logs],
        List.forall_mem_cons.mpr ⟨complete, completes⟩, errs', rfl, ?_, fun none => ?_⟩
      · rw [noErrs', noErrs, and_assoc]
        simp
      · exact builds.trans (done (noErrs'.mp none).1) (later none)
    · obtain ⟨_, _, _, _, _, ⟨⟩, _⟩ := cleanUpPlugin_runs builds ran

/-- All was attempted, and an error is returned exactly for a failed attempt. -/
structure Exhaustive (reply : S → (r : Req) → Response r → S → Prop) (ns : String) (pluginNames : List String)
    (log : List Exchange) (result : Except Err PUnit) (sweeps : List Sweep) : Prop where
  plugins : sweeps.map Sweep.plugin = pluginNames
  log : sweeps.flatMap Sweep.log = log
  complete : ∀ sweep ∈ sweeps, sweep.Complete reply ns
  error : (∃ error, result = .error error) ↔ ∃ sweep ∈ sweeps, sweep.Failed

theorem cleanUpPlugins_runs {pluginNames : List String} {result : Except Err PUnit}
    (runs : Prog.Runs reply (cleanUpPlugins ns pluginNames memory) w log (result, memory') w') :
    (∃ sweeps, Exhaustive reply ns pluginNames log result sweeps) ∧
      (result = .ok ⟨⟩ → Done pluginNames (pluginNames.flatMap (targetsOf ns)) w w') := by
  rcases runs_bind runs with ⟨errs, memory₁, between, first, rest, ran, reports, rfl⟩ | ⟨_, _, ran, _⟩
  · obtain ⟨sweeps, names, logs, completes, _, ⟨rfl⟩, noErrs, done⟩ := sweeps_runs builds ran
    obtain ⟨rfl, rfl, reported, nil⟩ := reportErrors_runs reports
    refine ⟨⟨sweeps, names, logs.trans (List.append_nil _).symm, completes, ?_⟩, fun ok => done (nil ok)⟩
    rw [reported, Ne, noErrs]
    simp
  · obtain ⟨_, _, _, _, _, ⟨⟩, _⟩ := sweeps_runs builds ran

end Attempts

def Leaving (s : Cluster) (k : Kind) (key : Key) : Prop :=
  ∀ object, s.find? k key = some object → object.metadata.deletionTimestamp = true

/-- The `Console`, if there is one, is stripped of these plugins. -/
structure ConsoleStripped (pluginNames : List String) (s s' : Cluster) : Prop where
  absent : s.find? .console consoleKey = none → s'.find? .console consoleKey = none
  present : ∀ console, s.find? .console consoleKey = some console →
    ∃ after, s'.find? .console consoleKey = some after ∧ Stripped pluginNames console after

/-- The targets are gone or going, the `Console` is stripped of the plugins, and nothing else
has changed. -/
structure CleanedUp (pluginNames : List String) (targets : List (Kind × Key)) (s s' : Cluster) : Prop where
  apart : ∀ target ∈ targets, target.1 ≠ .console
  leaving : ∀ target ∈ targets, Leaving s' target.1 target.2
  console : ConsoleStripped pluginNames s s'
  others : ∀ k key, (k, key) ∉ targets → (k, key) ≠ (.console, consoleKey) → s'.find? k key = s.find? k key

section Composition

variable {names names' : List String} {targets targets' : List (Kind × Key)} {s s₁ s' : Cluster}
  {console middle after : Console}

theorem stripped_nil (console : Console) : Stripped [] console console := by
  refine ⟨?_, fun key => by simp, rfl⟩
  simp only [List.not_mem_nil, not_false_eq_true, decide_true, List.filter_true]
  rfl

theorem Stripped.trans (first : Stripped names console middle) (second : Stripped names' middle after) :
    Stripped (names ++ names') console after := by
  have plugins : pluginsOf middle = (pluginsOf console).filter (· ∉ names) := by
    rw [pluginsOf, first.body]
    rfl
  have rest (plugins : List String) : (setPlugins middle plugins).body = (setPlugins console plugins).body := by
    rw [setPlugins, first.body]
    rfl
  have both : (fun name => decide (name ∉ names') && decide (name ∉ names)) =
      fun name => decide (name ∉ names ++ names') := by
    funext name
    simp [not_or, Bool.and_comm]
  refine ⟨?_, fun key => ?_, ?_⟩
  · rw [second.body, rest, plugins, List.filter_filter, both]
  · rw [second.annotations, first.annotations]
    by_cases late : key ∈ names'.map enabledMarkerKey
    · rw [if_pos late, if_pos (by simp only [List.map_append, List.mem_append, late, or_true])]
    · rw [if_neg late]
      simp only [List.map_append, List.mem_append, late, or_false]
  · rw [second.metadata, first.metadata]

theorem Stripped.congr (stripped : Stripped names console after) (same : ∀ name, name ∈ names ↔ name ∈ names') :
    Stripped names' console after := by
  refine ⟨?_, fun key => ?_, stripped.metadata⟩
  · rw [stripped.body]
    simp only [same]
  · rw [stripped.annotations]
    simp only [List.mem_map, same]

theorem ConsoleStripped.trans (first : ConsoleStripped names s s₁) (second : ConsoleStripped names' s₁ s') :
    ConsoleStripped (names ++ names') s s' := by
  refine ⟨fun absent => second.absent (first.absent absent), fun console found => ?_⟩
  obtain ⟨middle, between, stripped⟩ := first.present console found
  obtain ⟨after, now, stripped'⟩ := second.present middle between
  exact ⟨after, now, stripped.trans stripped'⟩

theorem ConsoleStripped.congr (stripped : ConsoleStripped names s s') (same : ∀ name, name ∈ names ↔ name ∈ names') :
    ConsoleStripped names' s s' := by
  refine ⟨stripped.absent, fun console found => ?_⟩
  obtain ⟨after, now, stripped⟩ := stripped.present console found
  exact ⟨after, now, stripped.congr same⟩

theorem consoleStripped_of_eq (same : s'.find? .console consoleKey = s.find? .console consoleKey) :
    ConsoleStripped [] s s' :=
  ⟨fun absent => same.trans absent, fun console found => ⟨console, same.trans found, stripped_nil console⟩⟩

theorem ConsoleStripped.cleanedUp (stripped : ConsoleStripped names s s')
    (others : ∀ k key, (k, key) ≠ (.console, consoleKey) → s'.find? k key = s.find? k key) :
    CleanedUp names [] s s' :=
  ⟨by simp, by simp, stripped, fun k key _ => others k key⟩

theorem cleanedUp_refl (s : Cluster) : CleanedUp [] [] s s :=
  (consoleStripped_of_eq rfl).cleanedUp (fun _ _ _ => rfl)

theorem CleanedUp.trans (first : CleanedUp names targets s s₁) (second : CleanedUp names' targets' s₁ s') :
    CleanedUp (names ++ names') (targets ++ targets') s s' := by
  refine ⟨fun target member => ?_, fun target member => ?_, first.console.trans second.console,
    fun k key outside elsewhere => ?_⟩
  · rcases List.mem_append.mp member with early | late
    · exact first.apart target early
    · exact second.apart target late
  · by_cases late : target ∈ targets'
    · exact second.leaving target late
    · have early := (List.mem_append.mp member).resolve_right late
      have elsewhere : target ≠ (.console, consoleKey) := by
        rintro rfl
        exact first.apart _ early rfl
      intro object found
      rw [second.others target.1 target.2 late elsewhere] at found
      exact first.leaving target early object found
  · rw [List.mem_append, not_or] at outside
    rw [second.others k key outside.2 elsewhere, first.others k key outside.1 elsewhere]

theorem CleanedUp.congr (cleaned : CleanedUp names targets s s') (same : ∀ name, name ∈ names ↔ name ∈ names') :
    CleanedUp names' targets s s' :=
  ⟨cleaned.apart, cleaned.leaving, cleaned.console.congr same, cleaned.others⟩

end Composition

section Server

variable {memory memory' : Reconciler} {s s' : Cluster} {log : List Exchange} {ns pluginName : String}
  {console : Console}

theorem delete_cleans {k : Kind} {key : Key} {response : Response (.delete k key : Req)} (notConsole : k ≠ .console)
    (answered : Answered s (.delete k key) response s') (succeeded : ¬ DeletionFailed ⟨.delete k key, response⟩) :
    CleanedUp [] [(k, key)] s s' := by
  have others (k' : Kind) (key' : Key) (differs : (k', key') ≠ (k, key)) : s'.find? k' key' = s.find? k' key' := by
    rcases answered.store with rfl | rfl
    · rfl
    · exact Store.exec_find?_other fun target => differs (Option.some.inj target).symm
  have leaving : Leaving s' k key := by
    cases response with
    | ok done => exact fun object found => answered.delete_terminates found
    | error error =>
      have missing : error.reason = .notFound := by
        by_contra other
        exact succeeded (deletionFailed_iff.mpr ⟨error, rfl, other⟩)
      obtain ⟨rfl, absent⟩ := answered.delete_notFound missing
      intro object found
      cases absent.symm.trans found
  refine ⟨by simpa using notConsole, by simpa using leaving, consoleStripped_of_eq (others _ _ ?_),
    fun k' key' outside _ => others k' key' (by simpa using outside)⟩
  intro same
  exact notConsole (congrArg Prod.fst same).symm

theorem stripped_dropPlugin : Stripped [pluginName] console (s.stamp (dropPlugin pluginName console)) := by
  refine ⟨?_, fun key => ?_, rfl⟩
  · simp only [List.mem_singleton]
    rfl
  · change (console.metadata.annotations.erase (enabledMarkerKey pluginName)).lookup key = _
    by_cases same : key = enabledMarkerKey pluginName
    · subst same
      simp
    · simp [Finmap.lookup_erase_ne same, same]

theorem update_cleans {next : Console} {response : Response (.update .console next : Req)}
    (edited : next = dropPlugin pluginName console) (found : s.find? .console consoleKey = some console)
    (answered : Answered s (.update .console next) response s') :
    CleanedUp [pluginName] [] s s' ∨ (CleanedUp [] [] s s' ∧ ∃ error : ApiError, response = .error error) := by
  subst edited
  obtain ⟨member, key⟩ := Collection.find?_mem found
  have others (k : Kind) (other : Key) (differs : (k, other) ≠ (.console, consoleKey)) :
      s'.find? k other = s.find? k other := by
    rcases answered.store with rfl | rfl
    · rfl
    · refine Store.exec_find?_other fun target => differs ?_
      rw [← Option.some.inj target, ← key]
      rfl
  have settled {stored : Console} (known : s.find? .console (dropPlugin pluginName console).key = some stored)
      (current : Store.stale stored (dropPlugin pluginName console) = false)
      (now : s' = s.settle (Store.updated stored (dropPlugin pluginName console))) :
      CleanedUp [pluginName] [] s s' := by
    have metadata : (dropPlugin pluginName console).metadata = { console.metadata with
        annotations := (dropPlugin pluginName console).metadata.annotations } := rfl
    obtain ⟨_, after⟩ := settle_console (Store.seen_of_mem member) key metadata known current
    rw [← now] at after
    refine ConsoleStripped.cleanedUp ⟨fun absent => ?_, fun console' found' => ?_⟩ others
    · cases absent.symm.trans found
    · cases found.symm.trans found'
      exact ⟨_, after, stripped_dropPlugin⟩
  cases response with
  | ok answer =>
    obtain ⟨stored, known, current, _, now⟩ := answered.update_ok
    exact .inl (settled known current now)
  | error error =>
    rcases answered.store with rfl | same
    · exact .inr ⟨cleanedUp_refl _, error, rfl⟩
    · rcases Store.exec_update_cases (P := Mark) (s := s) (dropPlugin pluginName console) with
        ⟨_, refused⟩ | ⟨stored, known, current, _, written⟩
      · rw [refused] at same
        cases same
        exact .inr ⟨cleanedUp_refl s, error, rfl⟩
      · rw [written] at same
        exact .inl (settled known current same)

theorem disableAttempt_cleans {result : Except Err PUnit}
    (runs : Prog.Runs Answered (disableAttempt pluginName memory) s log (result, memory') s') :
    CleanedUp [pluginName] [] s s' ∨ (CleanedUp [] [] s s' ∧ ∃ error, result = .error error) := by
  obtain ⟨response, between, _, answered, _, ⟨_, rfl, error, rfl, failed⟩ | ⟨console, rfl, wrote⟩⟩ :=
    disableAttempt_runs runs
  · obtain ⟨rfl, _⟩ := answered.get_error
    by_cases missing : error.reason = .notFound
    · refine .inl (ConsoleStripped.cleanedUp ⟨id, fun console found => ?_⟩ (fun _ _ _ => rfl))
      cases (answered.get_notFound missing).2.symm.trans found
    · exact .inr ⟨cleanedUp_refl _, failed.mpr missing⟩
  · obtain ⟨rfl, found⟩ := answered.get_ok
    rcases wrote with ⟨_, rfl, _, stripped⟩ | ⟨answer, updated, _, failed⟩
    · refine .inl (ConsoleStripped.cleanedUp ⟨id, fun console' found' => ?_⟩ (fun _ _ _ => rfl))
      cases found.symm.trans found'
      exact ⟨console, found, stripped⟩
    · have whole : inScope (dropPlugin pluginName console) = dropPlugin pluginName console :=
        inScope_edited (Collection.find?_mem found).2 (show Edits pluginName console _ (some .disable) from rfl)
      exact (update_cleans whole found updated).imp_right fun kept => ⟨kept.1, failed.mpr kept.2⟩

theorem disableConsolePlugin_cleans
    (runs : Prog.Runs Answered (disableConsolePlugin pluginName memory) s log (.ok ⟨⟩, memory') s') :
    CleanedUp [pluginName] [] s s' := by
  obtain ⟨inner, memory₁, between, first, rest, ran, ends, rfl⟩ := runs_attempt_bind runs
  cases inner with
  | ok value =>
    cases ends
    have cleans := retryOnConflict_runs (P := fun s _ result s' =>
      CleanedUp [pluginName] [] s s' ∨ (CleanedUp [] [] s s' ∧ ∃ error, result = .error error)) disableAttempt_cleans
      (fun first later => ?_) ran
    · simpa using cleans
    · rcases first with first | ⟨first, _⟩
      · exact .inl (later.elim (fun cleaned => (first.trans cleaned).congr (by simp)) fun kept => first.trans kept.1)
      · exact later.imp first.trans fun kept => ⟨first.trans kept.1, kept.2⟩
  | error error => cases ends

theorem builds_cleanedUp : Builds Answered CleanedUp where
  refl := cleanedUp_refl
  trans := CleanedUp.trans
  edit := disableConsolePlugin_cleans
  delete member answered succeeded := by
    refine delete_cleans ?_ answered succeeded
    rintro same
    simp [ownedObjects] at member
    grind

end Server

section Whole

variable {csvPrefix deploymentName : String} {ns : String} {pluginNames : List String}

theorem looks_operatorUninstallInProgress :
    Looks IsRead (operatorUninstallInProgress ns csvPrefix deploymentName : Op Err (Bool × Option Err)) := by
  unfold operatorUninstallInProgress decideByCSVs checkDeployment listCSVs
  grind

theorem cleanup_runs {S : Type} {reply : S → (r : Req) → Response r → S → Prop} {w w' : S} {log : List Exchange}
    {memory memory' : Reconciler} {result : Except Err PUnit}
    (runs : Prog.Runs reply (cleanupConsolePluginsOnUninstall ns csvPrefix deploymentName pluginNames memory) w log
      (result, memory') w') :
    (pluginNames = [] ∧ log = [] ∧ w' = w ∧ result = .ok ⟨⟩) ∨
      ∃ answer first rest memory₁ w₁, log = first ++ rest ∧
        Prog.Runs reply (operatorUninstallInProgress (namespaceOrDefault ns) csvPrefix deploymentName memory) w first
          ((.ok answer : Except Err (Bool × Option Err)), memory₁) w₁ ∧
        (answer ≠ (true, none) → rest = [] ∧ w' = w₁) ∧
        (answer = (true, none) → Prog.Runs reply (cleanUpPlugins (namespaceOrDefault ns) pluginNames memory₁) w₁ rest
          (result, memory') w') := by
  unfold cleanupConsolePluginsOnUninstall at runs
  split at runs
  · next none =>
      cases runs
      exact .inl ⟨none, rfl, rfl, rfl⟩
  · right
    rcases runs_bind runs with ⟨answer, memory₁, w₁, first, rest, detects, ends, rfl⟩ | ⟨error, _, detects, _⟩
    · refine ⟨answer, first, rest, memory₁, w₁, rfl, detects, fun other => ?_, fun yes => ?_⟩
      · rcases answer with ⟨_ | _, _ | error⟩
        · cases ends
          exact ⟨rfl, rfl⟩
        · cases ends
          exact ⟨rfl, rfl⟩
        · exact absurd rfl other
        · cases ends
          exact ⟨rfl, rfl⟩
      · subst yes
        exact ends
    · exact False.elim ((stops_operatorUninstallInProgress (p := fun _ => False) memory).runs detects error rfl)

end Whole

end PluginCleanup

open PluginCleanup

/-- Whatever is answered, all is attempted, and an error is returned exactly for an attempt
that failed; and a nil return leaves the objects gone or going, the `Console` without the
plugins, and everything else as it was. -/
theorem plugins_cleaned_up (ns csvPrefix deploymentName : String) (pluginNames : List String) :
    (∀ {S : Type} {reply : S → (r : Req) → Response r → S → Prop} {w w' : S} {log : List Exchange}
      {memory memory' : Reconciler} {result : Except Err PUnit},
      Prog.Runs reply (cleanupConsolePluginsOnUninstall ns csvPrefix deploymentName pluginNames memory) w log
        (result, memory') w' →
      (pluginNames = [] ∧ log = [] ∧ w' = w ∧ result = .ok ⟨⟩) ∨
        ∃ answer first rest memory₁ w₁, log = first ++ rest ∧
          Prog.Runs reply (operatorUninstallInProgress (namespaceOrDefault ns) csvPrefix deploymentName memory) w first
            ((.ok answer : Except Err (Bool × Option Err)), memory₁) w₁ ∧
          (answer ≠ (true, none) → rest = [] ∧ w' = w₁) ∧
          (answer = (true, none) →
            ∃ sweeps, Exhaustive reply (namespaceOrDefault ns) pluginNames rest result sweeps)) ∧
    ∀ {s s' : Cluster} {log : List Exchange} {memory memory' : Reconciler},
      Prog.Runs Answered (cleanupConsolePluginsOnUninstall ns csvPrefix deploymentName pluginNames memory) s log
        (.ok ⟨⟩, memory') s' →
      (pluginNames = [] ∧ s' = s) ∨
        ∃ answer first memory₁, Prog.Runs Answered
            (operatorUninstallInProgress (namespaceOrDefault ns) csvPrefix deploymentName memory) s first
            ((.ok answer : Except Err (Bool × Option Err)), memory₁) s ∧
          (answer ≠ (true, none) → s' = s) ∧
          (answer = (true, none) →
            CleanedUp pluginNames (pluginNames.flatMap (targetsOf (namespaceOrDefault ns))) s s') := by
  refine ⟨fun {_ reply} _ _ _ _ _ _ runs => ?_, fun runs => ?_⟩
  · rcases cleanup_runs runs with none | ⟨answer, first, rest, memory₁, w₁, split, detects, no, yes⟩
    · exact .inl none
    · have anything : Builds reply fun _ _ _ _ => True := ⟨by simp, by simp, by simp, by simp⟩
      exact .inr ⟨answer, first, rest, memory₁, w₁, split, detects, no, fun said =>
        (cleanUpPlugins_runs anything (yes said)).1⟩
  · rcases cleanup_runs runs with ⟨none, _, same, _⟩ | ⟨answer, first, rest, memory₁, s₁, split, detects, no, yes⟩
    · exact .inl ⟨none, same⟩
    · obtain rfl := unchanged_of_reads looks_operatorUninstallInProgress.1 detects
      exact .inr ⟨answer, first, memory₁, detects, fun other => (no other).2,
        fun said => (cleanUpPlugins_runs builds_cleanedUp (yes said)).2 rfl⟩

namespace PluginCleanup

def sharedConsole : Console :=
  ⟨{ name := consoleKey.name, annotations := .ofList [(enabledMarkerKey "osc", "true"), ("note", "kept")] },
    show ConsoleBody from { plugins := ["osc", "other"] }⟩

def leftoverCluster (finalizers : List String) : Cluster :=
  clusterOf [.create .console sharedConsole,
    .create .consolePlugin ⟨{ name := "osc", finalizers := finalizers }, show Unit from ()⟩]

def cleanup : Prog Req Response (Except Err PUnit × Reconciler) :=
  cleanupConsolePluginsOnUninstall "" "operator" "manager" ["osc"] {}

def withoutConsole (s : Cluster) : Cluster := (s.exec (.delete .console consoleKey : Req)).2

/-- Somebody may delete the `Console` at any moment. -/
def Raced (s : Cluster) (r : Req) (response : Response r) (s' : Cluster) : Prop :=
  s.exec r = (response, s') ∨ (withoutConsole s).exec r = (response, s')

def raced (_ : Unit) (s : Cluster) (r : Req) : Option (Response r × Cluster) :=
  some (if r.writes = some .console then (withoutConsole s).exec r else s.exec r)

theorem raced_sound {turn : Unit} {s s' : Cluster} {r : Req} {response : Response r}
    (picked : raced turn s r = some (response, s')) : Raced s r response s' := by
  have same := Option.some.inj picked
  split at same
  · exact .inr same
  · exact .inl same

def failureOf : Exchange → Option ApiError
  | ⟨.get _ _, response⟩ | ⟨.list _ _, response⟩ | ⟨.create _ _, response⟩ | ⟨.update _ _, response⟩
  | ⟨.updateStatus _ _, response⟩ | ⟨.patch _ _ _ _, response⟩ | ⟨.delete _ _, response⟩ => failed response
  | ⟨.mark _, _⟩ => none
where
  failed {α : Type} : Except ApiError α → Option ApiError
    | .error error => some error
    | .ok _ => none

def isNotFoundFailure (error : ApiError) : Bool := error.reason == .notFound

/-- Every failure is for want of the object. -/
def onlyNotFound (log : List Exchange) : Bool := log.all fun exchange => (failureOf exchange).all isNotFoundFailure

def racedRun : Option (List Exchange × (Except Err PUnit × Reconciler) × Cluster) :=
  cleanup.play raced (List.replicate 20 ()) (leftoverCluster [])

theorem runs_of_eval {program : Prog Req Response (Except Err PUnit × Reconciler)} {s : Cluster}
    (done : (program.eval Store.exec s).1.1 = .ok ⟨⟩) :
    ∃ log memory', Prog.Runs Answered program s log (.ok ⟨⟩, memory') (program.eval Store.exec s).2 := by
  obtain ⟨log, runs⟩ := Prog.runs_eval Answered Store.exec (fun _ _ => .inl rfl) program s
  rw [← done]
  exact ⟨log, _, runs⟩

end PluginCleanup

theorem plugins_cleaned_up_leftover :
    ∃ log memory' s', Prog.Runs Answered cleanup (leftoverCluster []) log (.ok ⟨⟩, memory') s' ∧
      CleanedUp ["osc"] (targetsOf operatorNamespace "osc") (leftoverCluster []) s' := by
  obtain ⟨log, memory', runs⟩ := runs_of_eval
    (show (cleanup.eval Store.exec (leftoverCluster [])).1.1 = .ok ⟨⟩ by decide +kernel)
  refine ⟨log, memory', _, runs, ?_⟩
  rcases (plugins_cleaned_up "" "operator" "manager" ["osc"]).2 runs with ⟨none, _⟩ | ⟨answer, _, _, _, no, yes⟩
  · cases none
  · by_cases said : answer = (true, none)
    · exact yes said
    · have gone : ((cleanup.eval Store.exec (leftoverCluster [])).2.find? .consolePlugin ⟨"", "osc"⟩).isSome = false := by
        decide +kernel
      rw [no said] at gone
      exact absurd gone (by decide +kernel)

/-- With a finalizer the plugin outlives a nil return; and where only objects were missing an
error may be returned, if it was the `Console` that went missing at the last moment. -/
theorem cleanup_leaves_and_complains :
    (∃ log memory' s' plugin, Prog.Runs Answered cleanup (leftoverCluster ["hold"]) log (.ok ⟨⟩, memory') s' ∧
      s'.find? .consolePlugin ⟨"", "osc"⟩ = some plugin ∧ plugin.metadata.deletionTimestamp = true) ∧
    ∃ log error memory' s', Prog.Runs Raced cleanup (leftoverCluster []) log (.error error, memory') s' ∧
      onlyNotFound log = true ∧ ∃ exchange ∈ log, exchange.1.writes = some .console := by
  constructor
  · obtain ⟨log, memory', runs⟩ := runs_of_eval
      (show (cleanup.eval Store.exec (leftoverCluster ["hold"])).1.1 = .ok ⟨⟩ by decide +kernel)
    have held : ((cleanup.eval Store.exec (leftoverCluster ["hold"])).2.find? .consolePlugin ⟨"", "osc"⟩).any
        (fun plugin => plugin.metadata.deletionTimestamp) = true := by
      decide +kernel
    obtain ⟨plugin, found, going⟩ := (Option.any_eq_true _ _).mp held
    exact ⟨log, memory', _, plugin, runs, found, going⟩
  · have complains : racedRun.any (fun played => !played.2.1.1.isOk &&
        (onlyNotFound played.1 && played.1.any fun exchange => exchange.1.writes = some .console)) = true := by
      decide +kernel
    obtain ⟨⟨log, ⟨result, memory'⟩, s'⟩, played, checked⟩ := (Option.any_eq_true _ _).mp complains
    simp only [Bool.and_eq_true, List.any_eq_true, decide_eq_true_eq] at checked
    obtain ⟨failed, missing⟩ := checked
    have runs : Prog.Runs Raced cleanup (leftoverCluster []) log (result, memory') s' :=
      Prog.runs_play raced_sound played
    cases result with
    | ok value => cases failed
    | error error => exact ⟨log, error, memory', s', runs, missing⟩

end SandboxedContainers
