import SandboxedContainers.Lib.Text
import SandboxedContainers.ServerReads

/-!
# Telling an uninstallation from a restart

The operator is installed by a ClusterServiceVersion, of which there may be several during
an upgrade, or by none at all.  Two functions look at them: `findOperatorCSV` for the one that
governs the operator, and `operatorUninstallInProgress` to tell whether the operator is being
removed.  Each has a loop of its own; both are brought to the same three verdicts about the
list, which do not depend on its order.
-/

namespace SandboxedContainers

open Lib Routine

section Detection

variable (ns csvPrefix deploymentName : String)

def listCSVs : Op Err (List ClusterServiceVersion) := do
  return (← clientList .clusterServiceVersion).filter (·.metadata.ns = ns)

/-- The loop of `findOperatorCSV`: the first active CSV ends it, the first terminating one is
kept for the case that there is none. -/
def governingCSV (terminating : Option ClusterServiceVersion) :
    List ClusterServiceVersion → Option ClusterServiceVersion
  | [] => terminating
  | csv :: rest =>
    if !Text.startsWith csvPrefix csv.metadata.name then governingCSV terminating rest
    else if !csv.metadata.deletionTimestamp then some csv
    else governingCSV (terminating.or (some csv)) rest

def findOperatorCSV : Op Err (Option ClusterServiceVersion) := do
  return governingCSV csvPrefix none (← listCSVs ns)

/-- The loop of `operatorUninstallInProgress`: an active CSV ends it without an answer, else
the answer is whether there was any. -/
def scanCSVs (found : Bool) : List ClusterServiceVersion → Option Bool
  | [] => some found
  | csv :: rest =>
    if !Text.startsWith csvPrefix csv.metadata.name then scanCSVs found rest
    else if !csv.metadata.deletionTimestamp then none
    else scanCSVs true rest

/-- Without a CSV the Deployment of the operator decides. -/
def checkDeployment {ε : Type} : Op ε (Bool × Option Err) := do
  match ← Routine.attempt (clientGet .deployment ⟨ns, deploymentName⟩) with
  | .ok dep => return (dep.metadata.deletionTimestamp, none)
  | .error error =>
    if error.isNotFound then return (true, none)
    else return (false, some (.wrap ("checking operator Deployment " ++ deploymentName ++ ": ") error))

def decideByCSVs {ε : Type} (csvs : List ClusterServiceVersion) : Op ε (Bool × Option Err) :=
  match scanCSVs csvPrefix false csvs with
  | none => return (false, none)
  | some true => return (true, none)
  | some false => checkDeployment ns deploymentName

/-- The answer and the error are returned side by side. -/
def operatorUninstallInProgress {ε : Type} : Op ε (Bool × Option Err) := do
  match ← Routine.attempt (listCSVs ns) with
  | .ok csvs => decideByCSVs ns csvPrefix deploymentName csvs
  | .error error =>
    -- the API is not served
    if error.isNoMatchError || error.isNotFound then decideByCSVs ns csvPrefix deploymentName []
    else return (false, some (.wrap "listing operator CSVs: " error))

end Detection

namespace UninstallDetection

section Verdicts

variable {csvPrefix : String} {terminating : Option ClusterServiceVersion} {found : Bool}
  {csvs others : List ClusterServiceVersion}

def isOurs (csvPrefix : String) (csv : ClusterServiceVersion) : Bool := Text.startsWith csvPrefix csv.metadata.name

def isActive (csv : ClusterServiceVersion) : Bool := !csv.metadata.deletionTimestamp

/-- What a list of CSVs says about the operator. -/
inductive Verdict where
  | missing
  | active
  | terminating
  deriving DecidableEq, Repr

def csvVerdictOf : Option ClusterServiceVersion → Verdict
  | none => .missing
  | some csv => if isActive csv then .active else .terminating

def verdict (csvPrefix : String) (csvs : List ClusterServiceVersion) : Verdict :=
  if csvs.any fun csv => isOurs csvPrefix csv && isActive csv then .active
  else if csvs.any (isOurs csvPrefix) then .terminating
  else .missing

theorem verdict_perm (perm : csvs.Perm others) : verdict csvPrefix csvs = verdict csvPrefix others := by
  unfold verdict
  rw [perm.any_eq, perm.any_eq]

theorem verdict_eq_active :
    verdict csvPrefix csvs = .active ↔ ∃ csv ∈ csvs, isOurs csvPrefix csv = true ∧ isActive csv = true := by
  simp only [verdict, List.any_eq_true, Bool.and_eq_true]
  split
  · next some => simp [some]
  · next none => split <;> simp [none]

theorem verdict_eq_missing : verdict csvPrefix csvs = .missing ↔ ∀ csv ∈ csvs, isOurs csvPrefix csv = false := by
  simp only [verdict, List.any_eq_true, Bool.and_eq_true]
  split
  · next some =>
      obtain ⟨csv, member, ours, _⟩ := some
      refine iff_of_false nofun fun none => ?_
      rw [none csv member] at ours
      cases ours
  · split
    · next some =>
        obtain ⟨csv, member, ours⟩ := some
        refine iff_of_false nofun fun none => ?_
        rw [none csv member] at ours
        cases ours
    · next none => exact iff_of_true rfl (by simpa using none)

section Cons

variable {csv : ClusterServiceVersion}

theorem verdict_cons_other (other : isOurs csvPrefix csv = false) :
    verdict csvPrefix (csv :: csvs) = verdict csvPrefix csvs := by
  simp [verdict, other]

theorem verdict_cons_active (ours : isOurs csvPrefix csv = true) (active : isActive csv = true) :
    verdict csvPrefix (csv :: csvs) = .active := by
  simp [verdict, ours, active]

theorem verdict_cons_terminating (ours : isOurs csvPrefix csv = true) (ending : isActive csv = false) :
    verdict csvPrefix (csv :: csvs) = if verdict csvPrefix csvs = .active then .active else .terminating := by
  rw [verdict, List.any_cons, List.any_cons, ours, ending, Bool.and_false, Bool.false_or, Bool.true_or, if_pos rfl]
  by_cases active : csvs.any (fun csv => isOurs csvPrefix csv && isActive csv) = true
  · rw [if_pos active, verdict, if_pos active, if_pos rfl]
  · rw [if_neg active, verdict, if_neg active]
    split <;> rfl

theorem governingCSV_cons : governingCSV csvPrefix terminating (csv :: csvs) =
    if isOurs csvPrefix csv = true then
      if isActive csv = true then some csv else governingCSV csvPrefix (terminating.or (some csv)) csvs
    else governingCSV csvPrefix terminating csvs := by
  rw [governingCSV]
  by_cases ours : isOurs csvPrefix csv = true
  · rw [if_pos ours, if_neg (by simpa [isOurs] using ours)]
    rfl
  · rw [if_neg ours, if_pos (by simpa [isOurs] using ours)]

theorem scanCSVs_cons : scanCSVs csvPrefix found (csv :: csvs) =
    if isOurs csvPrefix csv = true then if isActive csv = true then none else scanCSVs csvPrefix true csvs
    else scanCSVs csvPrefix found csvs := by
  rw [scanCSVs]
  by_cases ours : isOurs csvPrefix csv = true
  · rw [if_pos ours, if_neg (by simpa [isOurs] using ours)]
    rfl
  · rw [if_neg ours, if_pos (by simpa [isOurs] using ours)]

end Cons

/-- The loop keeps a terminating CSV until it finds an active one. -/
theorem csvVerdictOf_governingCSV (kept : ∀ csv ∈ terminating, isActive csv = false) :
    csvVerdictOf (governingCSV csvPrefix terminating csvs) =
      if verdict csvPrefix csvs = .missing then csvVerdictOf terminating else verdict csvPrefix csvs := by
  induction csvs generalizing terminating with
  | nil => rfl
  | cons csv rest ih =>
    rw [governingCSV_cons]
    by_cases ours : isOurs csvPrefix csv = true
    · rw [if_pos ours]
      by_cases active : isActive csv = true
      · rw [if_pos active, verdict_cons_active ours active, if_neg nofun]
        exact if_pos active
      · have ending : isActive csv = false := by simpa using active
        have kept' : ∀ other ∈ terminating.or (some csv), isActive other = false := by
          cases terminating with
          | none =>
            intro other member
            cases member
            exact ending
          | some first => exact kept
        have verdictKept : csvVerdictOf (terminating.or (some csv)) = .terminating := by
          cases terminating with
          | none => exact if_neg active
          | some first => exact if_neg (by simp [kept first rfl])
        rw [if_neg active, ih kept', verdict_cons_terminating ours ending, verdictKept]
        cases verdict csvPrefix rest <;> rfl
    · have other : isOurs csvPrefix csv = false := by simpa using ours
      rw [if_neg ours, ih kept, verdict_cons_other other]

def Verdict.scanned (found : Bool) : Verdict → Option Bool
  | .active => none
  | .terminating => some true
  | .missing => some found

theorem scanCSVs_eq : scanCSVs csvPrefix found csvs = (verdict csvPrefix csvs).scanned found := by
  induction csvs generalizing found with
  | nil => rfl
  | cons csv rest ih =>
    rw [scanCSVs_cons]
    by_cases ours : isOurs csvPrefix csv = true
    · rw [if_pos ours]
      by_cases active : isActive csv = true
      · rw [if_pos active, verdict_cons_active ours active, Verdict.scanned]
      · rw [if_neg active, ih, verdict_cons_terminating ours (by simpa using active)]
        cases verdict csvPrefix rest <;> rfl
    · have other : isOurs csvPrefix csv = false := by simpa using ours
      rw [if_neg ours, ih, verdict_cons_other other]

end Verdicts

section Runs

/-- The answer of a server that lists what it has in any order, and may say in two ways that
it does not know a kind. -/
inductive Unordered (s : Cluster) : (r : Req) → Response r → Cluster → Prop where
  | served {r : Req} : Unordered s r (s.exec r).1 (s.exec r).2
  | shuffled {k : Kind} {selector : Selector} {items others : List (Object k)}
      (listed : (s.exec (.list k selector : Req)).1 = .ok items) (perm : others.Perm items) :
      Unordered s (.list k selector) (.ok others) s
  | unknown {k : Kind} {selector : Selector} {error : ApiError} (unserved : s.served k = false)
      (reason : error.reason = .notFound) : Unordered s (.list k selector) (.error error) s

variable {ns csvPrefix deploymentName : String} {memory memory' : Reconciler} {s s' : Cluster} {log : List Exchange}

def csvsOf (ns : String) (s : Cluster) : List ClusterServiceVersion :=
  (s.objs .clusterServiceVersion).items.filter (·.metadata.ns = ns)

theorem unordered_list {response : Response (.list .clusterServiceVersion [] : Req)}
    (answered : Unordered s (.list .clusterServiceVersion []) response s') :
    s' = s ∧ ((s.served .clusterServiceVersion = true ∧ ∃ items, response = .ok items ∧
        items.Perm (s.objs .clusterServiceVersion).items) ∨
      (s.served .clusterServiceVersion = false ∧ ∃ error : ApiError, response = .error error ∧
        (error.reason = .noMatch ∨ error.reason = .notFound))) := by
  have all : (s.objs .clusterServiceVersion).items.filter (fun object =>
      Selector.accepts [] object.metadata.labels) = (s.objs .clusterServiceVersion).items :=
    List.filter_eq_self.mpr fun _ _ => rfl
  cases answered with
  | served =>
    refine ⟨Store.exec_list_store _ _, ?_⟩
    cases known : s.served .clusterServiceVersion with
    | true =>
      refine .inl ⟨rfl, (s.objs .clusterServiceVersion).items, ?_, .refl _⟩
      simp only [Store.exec, known, if_true, all]
      rfl
    | false =>
      refine .inr ⟨rfl, Store.noMatch, ?_, .inl rfl⟩
      simp only [Store.exec, known, Bool.false_eq_true, if_false]
      rfl
  | shuffled listed perm =>
    refine ⟨rfl, .inl ?_⟩
    cases known : s.served .clusterServiceVersion with
    | true =>
      simp only [Store.exec, known, if_true, all] at listed
      cases listed
      exact ⟨rfl, _, rfl, perm⟩
    | false =>
      simp only [Store.exec, known, Bool.false_eq_true, if_false] at listed
      cases listed
  | unknown unserved reason => exact ⟨rfl, .inr ⟨unserved, _, rfl, .inr reason⟩⟩

theorem listCSVs_runs {result : Except Err (List ClusterServiceVersion)}
    (runs : Prog.Runs Unordered (listCSVs ns memory) s log (result, memory') s') :
    memory' = memory ∧ s' = s ∧
      ((s.served .clusterServiceVersion = true ∧ ∃ csvs, result = .ok csvs ∧ csvs.Perm (csvsOf ns s)) ∨
        (s.served .clusterServiceVersion = false ∧ ∃ error, result = .error error ∧
          (error.isNoMatchError || error.isNotFound) = true)) := by
  rcases runs_bind runs with ⟨items, memory₁, between, _, _, listed, ends, _⟩ | ⟨error, _, listed, same⟩
  · obtain ⟨response, answered, _, ended⟩ := call_runs (.list .clusterServiceVersion []) id listed
    cases ends
    obtain ⟨rfl, ⟨known, others, rfl, perm⟩ | ⟨_, _, rfl, _⟩⟩ := unordered_list answered
    · cases ended
      exact ⟨rfl, rfl, .inl ⟨known, _, rfl, perm.filter _⟩⟩
    · cases ended
  · cases same
    obtain ⟨response, answered, _, ended⟩ := call_runs (.list .clusterServiceVersion []) id listed
    obtain ⟨rfl, ⟨_, _, rfl, _⟩ | ⟨unknown, failure, rfl, reason⟩⟩ := unordered_list answered
    · cases ended
    · cases ended
      refine ⟨rfl, rfl, .inr ⟨unknown, _, rfl, ?_⟩⟩
      rcases reason with noMatch | notFound
      · simp [Err.isNoMatchError, Err.reason?, noMatch]
      · simp [Err.isNotFound, Err.reason?, notFound]

def csvVerdict (ns csvPrefix : String) (s : Cluster) : Verdict :=
  if s.served .clusterServiceVersion then verdict csvPrefix (csvsOf ns s) else .missing

def isGone (ns deploymentName : String) (s : Cluster) : Bool :=
  match s.find? .deployment ⟨ns, deploymentName⟩ with
  | none => true
  | some dep => dep.metadata.deletionTimestamp

theorem findOperatorCSV_runs {result : Except Err (Option ClusterServiceVersion)}
    (runs : Prog.Runs Unordered (findOperatorCSV ns csvPrefix memory) s log (result, memory') s') :
    (s.served .clusterServiceVersion = true ∧ ∃ csv, result = .ok csv ∧ csvVerdictOf csv = csvVerdict ns csvPrefix s) ∨
      (s.served .clusterServiceVersion = false ∧ ∃ error, result = .error error) := by
  rcases runs_bind runs with ⟨csvs, memory₁, between, _, _, listed, ends, _⟩ | ⟨error, _, listed, ended⟩
  · cases ends
    obtain ⟨rfl, rfl, ⟨known, _, same, perm⟩ | ⟨_, _, same, _⟩⟩ := listCSVs_runs listed
    · cases same
      refine .inl ⟨known, _, rfl, ?_⟩
      rw [csvVerdictOf_governingCSV (by simp), csvVerdict, known, if_pos rfl, ← verdict_perm perm]
      split
      · next missing => exact missing.symm
      · rfl
    · cases same
  · cases ended
    obtain ⟨rfl, rfl, ⟨_, _, same, _⟩ | ⟨unknown, _, same, _⟩⟩ := listCSVs_runs listed
    · cases same
    · exact .inr ⟨unknown, error, rfl⟩

theorem checkDeployment_runs {result : Except Err (Bool × Option Err)} (served : s.served .deployment = true)
    (runs : Prog.Runs Unordered (checkDeployment ns deploymentName memory) s log (result, memory') s') :
    result = .ok (isGone ns deploymentName s, none) := by
  obtain ⟨read, memory₁, between, _, _, ran, ends, _⟩ := runs_attempt_bind runs
  obtain ⟨response, answered, _, ended⟩ := call_runs (.get .deployment ⟨ns, deploymentName⟩) id ran
  cases answered with
  | served =>
    unfold isGone
    cases found : s.find? .deployment ⟨ns, deploymentName⟩ with
    | none =>
      simp only [Store.exec, served, if_true, found] at ended ends
      cases ended
      cases ends
      rfl
    | some dep =>
      simp only [Store.exec, served, if_true, found] at ended ends
      cases ended
      cases ends
      rfl

def Verdict.answer (gone : Bool) : Verdict → Bool
  | .active => false
  | .terminating => true
  | .missing => gone

theorem decideByCSVs_runs {result : Except Err (Bool × Option Err)} {csvs : List ClusterServiceVersion}
    (served : s.served .deployment = true)
    (runs : Prog.Runs Unordered (decideByCSVs ns csvPrefix deploymentName csvs memory) s log (result, memory') s') :
    result = .ok ((verdict csvPrefix csvs).answer (isGone ns deploymentName s), none) := by
  rw [decideByCSVs, scanCSVs_eq] at runs
  cases known : verdict csvPrefix csvs with
  | active =>
    rw [known] at runs
    cases runs
    rfl
  | terminating =>
    rw [known] at runs
    cases runs
    rfl
  | missing =>
    rw [known] at runs
    exact checkDeployment_runs served runs

theorem operatorUninstallInProgress_runs {result : Except Err (Bool × Option Err)}
    (served : s.served .deployment = true)
    (runs : Prog.Runs Unordered (operatorUninstallInProgress ns csvPrefix deploymentName memory) s log
      (result, memory') s') :
    result = .ok ((csvVerdict ns csvPrefix s).answer (isGone ns deploymentName s), none) := by
  obtain ⟨read, memory₁, between, _, _, ran, ends, _⟩ := runs_attempt_bind runs
  obtain ⟨rfl, rfl, ⟨known, csvs, rfl, perm⟩ | ⟨unknown, error, rfl, absent⟩⟩ := listCSVs_runs ran
  · rw [csvVerdict, known, if_pos rfl, ← verdict_perm perm]
    exact decideByCSVs_runs served ends
  · dsimp only at ends
    rw [if_pos absent] at ends
    rw [csvVerdict, unknown, if_neg Bool.false_ne_true]
    exact decideByCSVs_runs served ends

end Runs

section Answers

variable {ns csvPrefix deploymentName : String}

/-- An answer that does not come with an error, or is no. -/
def Sensible (answer : Bool × Option Err) : Prop := answer.1 = true → answer.2 = none

theorem yields_checkDeployment : Yields Sensible (checkDeployment ns deploymentName : Op Err (Bool × Option Err)) := by
  apply yields_bind
  intro read
  cases read with
  | ok dep => exact yields_pure fun _ => rfl
  | error error =>
    dsimp only
    split
    · exact yields_pure fun _ => rfl
    · exact yields_pure nofun

theorem yields_decideByCSVs (csvs : List ClusterServiceVersion) :
    Yields Sensible (decideByCSVs ns csvPrefix deploymentName csvs : Op Err (Bool × Option Err)) := by
  unfold decideByCSVs
  split
  · exact yields_pure nofun
  · exact yields_pure fun _ => rfl
  · exact yields_checkDeployment

theorem yields_operatorUninstallInProgress :
    Yields Sensible (operatorUninstallInProgress ns csvPrefix deploymentName : Op Err (Bool × Option Err)) := by
  apply yields_bind
  intro read
  cases read with
  | ok csvs => exact yields_decideByCSVs csvs
  | error error =>
    dsimp only
    split
    · exact yields_decideByCSVs []
    · exact yields_pure nofun

theorem stops_operatorUninstallInProgress {p : Err → Prop} :
    Stops p (operatorUninstallInProgress ns csvPrefix deploymentName : Op Err (Bool × Option Err)) := by
  unfold operatorUninstallInProgress decideByCSVs checkDeployment
  grind

end Answers

def Ours (ns csvPrefix : String) (s : Cluster) (csv : ClusterServiceVersion) : Prop :=
  csv ∈ (s.objs .clusterServiceVersion).items ∧ csv.metadata.ns = ns ∧ isOurs csvPrefix csv = true

/-- The search has come up with a CSV that is being deleted. -/
def FoundTerminating (found : Except Err (Option ClusterServiceVersion)) : Prop :=
  ∃ csv, found = .ok (some csv) ∧ csv.metadata.deletionTimestamp = true

section Summary

variable {ns csvPrefix : String} {s : Cluster}

theorem csvVerdict_eq_active (known : s.served .clusterServiceVersion = true) :
    csvVerdict ns csvPrefix s = .active ↔ ∃ csv, Ours ns csvPrefix s csv ∧ isActive csv = true := by
  rw [csvVerdict, if_pos known, verdict_eq_active]
  simp only [csvsOf, List.mem_filter, decide_eq_true_eq, Ours, and_assoc]

theorem csvVerdict_eq_missing : csvVerdict ns csvPrefix s = .missing ↔
      s.served .clusterServiceVersion = false ∨ ∀ csv, ¬ Ours ns csvPrefix s csv := by
  rw [csvVerdict]
  cases known : s.served .clusterServiceVersion with
  | false => simp
  | true =>
    rw [if_pos rfl, verdict_eq_missing]
    simp [csvsOf, Ours]

theorem foundTerminating_iff {csv : Option ClusterServiceVersion} :
    FoundTerminating (.ok csv) ↔ csvVerdictOf csv = .terminating := by
  cases csv with
  | none => simp [FoundTerminating, csvVerdictOf]
  | some csv => cases ending : csv.metadata.deletionTimestamp <;> simp [FoundTerminating, csvVerdictOf, isActive, ending]

end Summary

end UninstallDetection

open UninstallDetection

/-- The two detectors, on any cluster and whatever the order of the lists they get. -/
theorem uninstall_detectors_agree {ns csvPrefix deploymentName : String}
    {memory₁ memory₂ memory₃ memory₄ : Reconciler} {s s₁ s₂ : Cluster} {log log' : List Exchange}
    {found : Except Err (Option ClusterServiceVersion)} {answer : Bool × Option Err}
    (served : s.served .deployment = true)
    (finds : Prog.Runs Unordered (findOperatorCSV ns csvPrefix memory₁) s log (found, memory₂) s₁)
    (detects : Prog.Runs Unordered (operatorUninstallInProgress ns csvPrefix deploymentName memory₃) s log'
      ((.ok answer : Except Err (Bool × Option Err)), memory₄) s₂) :
    (s.served .clusterServiceVersion = true → (∃ csv, Ours ns csvPrefix s csv) →
      (FoundTerminating found ↔ answer.1 = true) ∧
        ((∃ csv, Ours ns csvPrefix s csv ∧ isActive csv = true) → ¬ FoundTerminating found ∧ answer.1 = false)) ∧
    (s.served .clusterServiceVersion = false ∨ (∀ csv, ¬ Ours ns csvPrefix s csv) →
      (answer.1 = true ↔ ∀ dep, s.find? .deployment ⟨ns, deploymentName⟩ = some dep →
        dep.metadata.deletionTimestamp = true)) ∧
    (∀ {S : Type} {reply : S → (r : Req) → Response r → S → Prop} {w w' : S} {log : List Exchange}
      {answer : Bool × Option Err} {memory memory' : Reconciler},
      Prog.Runs reply (operatorUninstallInProgress ns csvPrefix deploymentName memory) w log
        ((.ok answer : Except Err (Bool × Option Err)), memory') w' → ¬ (answer.1 = true ∧ answer.2 ≠ none)) ∧
    (∀ memory memory' log found' s', Prog.Runs Unordered (findOperatorCSV ns csvPrefix memory) s log
      (found', memory') s' → found'.toOption.map csvVerdictOf = found.toOption.map csvVerdictOf) ∧
    ∀ memory memory' log answer' s', Prog.Runs Unordered
      (operatorUninstallInProgress ns csvPrefix deploymentName memory) s log
      ((.ok answer' : Except Err (Bool × Option Err)), memory') s' → answer' = answer := by
  have detected := Except.ok.inj (operatorUninstallInProgress_runs served detects)
  have finding := findOperatorCSV_runs finds
  refine ⟨fun known some => ?_, fun none => ?_, fun runs both => ?_, fun _ _ _ found' _ again => ?_,
    fun _ _ _ _ _ again => ?_⟩
  · obtain ⟨_, csv, rfl, same⟩ | ⟨unknown, _⟩ := finding
    · have present : csvVerdict ns csvPrefix s ≠ .missing := by
        rw [Ne, csvVerdict_eq_missing, not_or]
        obtain ⟨csv, ours⟩ := some
        exact ⟨by simp [known], fun none => none csv ours⟩
      rw [foundTerminating_iff, same, detected, ← csvVerdict_eq_active known]
      cases verdict : csvVerdict ns csvPrefix s with
      | missing => exact absurd verdict present
      | active => simp [Verdict.answer]
      | terminating => simp [Verdict.answer]
    · rw [known] at unknown
      cases unknown
  · rw [detected, csvVerdict_eq_missing.mpr none, Verdict.answer, isGone]
    cases s.find? .deployment ⟨ns, deploymentName⟩ <;> simp
  · exact both.2 ((yields_operatorUninstallInProgress _).runs runs _ rfl both.1)
  · obtain ⟨known, csv, rfl, same⟩ | ⟨unknown, error, rfl⟩ := finding
    · obtain ⟨_, csv', rfl, same'⟩ | ⟨unknown, _⟩ := findOperatorCSV_runs again
      · simp [Except.toOption, same, same']
      · rw [known] at unknown
        cases unknown
    · obtain ⟨known, _⟩ | ⟨_, error', rfl⟩ := findOperatorCSV_runs again
      · rw [unknown] at known
        cases known
      · rfl
  · rw [detected]
    exact Except.ok.inj (operatorUninstallInProgress_runs served again)

namespace UninstallDetection

/-- An upgrade: an old version on its way out and the new one. -/
def upgradedCluster : Cluster :=
  clusterOf [.create .clusterServiceVersion
      ⟨{ name := "operator.v1", ns := operatorNamespace, finalizers := ["hold"] }, show Unit from ()⟩,
    .delete .clusterServiceVersion ⟨operatorNamespace, "operator.v1"⟩,
    .create .clusterServiceVersion ⟨{ name := "operator.v2", ns := operatorNamespace }, show Unit from ()⟩]

end UninstallDetection

theorem uninstall_detectors_agree_upgraded :
    ∃ log log' found answer memory', Prog.Runs Unordered (findOperatorCSV operatorNamespace "operator" {})
        upgradedCluster log (found, memory') upgradedCluster ∧
      Prog.Runs Unordered (operatorUninstallInProgress operatorNamespace "operator" "controller-manager" {})
        upgradedCluster log' ((.ok answer : Except Err (Bool × Option Err)), memory') upgradedCluster ∧
      ¬ FoundTerminating found ∧ answer.1 = false := by
  obtain ⟨log, finds⟩ := Prog.runs_eval Unordered Store.exec (fun _ _ => .served)
    (findOperatorCSV operatorNamespace "operator" {}) upgradedCluster
  obtain ⟨log', detects⟩ := Prog.runs_eval Unordered Store.exec (fun _ _ => .served)
    ((operatorUninstallInProgress operatorNamespace "operator" "controller-manager" :
      Op Err (Bool × Option Err)) {}) upgradedCluster
  have newer : ∃ csv, Ours operatorNamespace "operator" upgradedCluster csv ∧ isActive csv = true := by
    have listed : ((upgradedCluster.objs .clusterServiceVersion).items.any fun csv =>
        decide (csv.metadata.ns = operatorNamespace) && isOurs "operator" csv && isActive csv) = true := by
      decide +kernel
    obtain ⟨csv, member, holds⟩ := List.any_eq_true.mp listed
    simp only [Bool.and_eq_true, decide_eq_true_eq] at holds
    exact ⟨csv, ⟨member, holds.1⟩, holds.2⟩
  have agree := (uninstall_detectors_agree rfl finds detects).1 rfl (newer.imp fun _ => And.left)
  exact ⟨log, log', _, _, _, finds, detects, agree.2 newer⟩

end SandboxedContainers
