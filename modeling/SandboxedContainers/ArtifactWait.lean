import SandboxedContainers.Lib.Text

/-!
# Waiting for the artifacts of a CI job

`fetcher.py` of the prowjob analyzer reads the artifacts of a job over HTTP or from a local tree
and remembers what it got, missing files included, for the life of the process.
`wait_for_artifacts` polls for `finished.json`, which a job leaves when it ends.

The clock, the web server and the disk are those of a `Net`: what a call gives may depend on
everything that happened before, and a call may change what later ones give.
-/

namespace SandboxedContainers

open Lib Text

abbrev Bytes := List UInt8

/-- How `urlopen` ends: with a response or with one of the exceptions that are told apart. -/
inductive HttpAnswer where
  | response (contentType : String) (content : Bytes)
  | httpError (code : Nat)
  | urlError
  | otherError

/-- What the process has around it. -/
structure Net (W : Type) where
  time : W → Rat × W
  sleep : Nat → W → W
  urlopen : String → W → HttpAnswer × W
  readFile : String → W → Option Bytes × W

section Fetching

variable {W : Type} (net : Net W)

def prowViewGsPrefix : String := "https://prow.ci.openshift.org/view/gs/"

def storageBase : String := "https://storage.googleapis.com"

def publicBucketName (bucket : String) : String :=
  if bucket = "test-platform-results" then "test-platform-results-public" else bucket

/-- The address of the same tree on the bucket that anyone may read. -/
def prowUrlToPublicStorageBase (prowUrl : String) : Option String :=
  let rest := prowUrl.toList.drop prowViewGsPrefix.length
  let bucket := rest.takeWhile (· ≠ '/')
  let path := rest.drop (bucket.length + 1)
  if !startsWith prowViewGsPrefix prowUrl || '/' ∉ rest || bucket = [] || path = [] then none
  else some (storageBase ++ "/" ++ publicBucketName (String.ofList bucket) ++ "/" ++ String.ofList path)

def resolveFetchBaseUrl (baseUrl : String) : String := (prowUrlToPublicStorageBase baseUrl).getD baseUrl

/-- The attempts that are left of `maxRetries`, with a pause that doubles each time. -/
def fetchAttempts (url : String) (maxRetries : Nat) : Nat → W → Option Bytes × W
  | 0, w => (none, w)
  | left + 1, w =>
    let (answer, w) := net.urlopen url w
    let retry := if left = 0 then (none, w)
      else fetchAttempts url maxRetries left (net.sleep (2 ^ (maxRetries - (left + 1))) w)
    match answer with
    | .response contentType content => (if contains "text/html" contentType then none else some content, w)
    | .httpError code => if code ∈ [500, 502, 503, 504] then retry else (none, w)
    | .urlError => retry
    | .otherError => (none, w)

def fetchArtifactHttp (baseUrl artifactPath : String) (w : W) : Option Bytes × W :=
  fetchAttempts net (resolveFetchBaseUrl baseUrl ++ "/" ++ artifactPath) 3 3 w

structure Fetcher (W : Type) where
  localArtifactsRoot : Option String := none
  artifactCache : List (String × Option Bytes) := []
  world : W

variable (baseUrl : String)

def artifactCacheKey (localArtifactsRoot : Option String) (artifactPath : String) : String :=
  localArtifactsRoot.getD baseUrl ++ "\x00" ++ artifactPath

def readLocalArtifact (root artifactPath : String) (w : W) : Option Bytes × W :=
  net.readFile (root ++ "/" ++ artifactPath) w

def fetchArtifact (artifactPath : String) (f : Fetcher W) : Option Bytes × Fetcher W :=
  let key := artifactCacheKey baseUrl f.localArtifactsRoot artifactPath
  match f.artifactCache.lookup key with
  | some data => (data, f)
  | none =>
    let (data, w) := match f.localArtifactsRoot with
      | some root => readLocalArtifact net root artifactPath f.world
      | none => fetchArtifactHttp net baseUrl artifactPath f.world
    (data, { f with artifactCache := (key, data) :: f.artifactCache, world := w })

-- `json.loads` after decoding: nothing if that fails, and `None` for `null`
variable {Json : Type} (loads : Bytes → Option (Option Json))

def fetchJsonArtifact (artifactPath : String) (f : Fetcher W) : Option Json × Fetcher W :=
  let (content, f) := fetchArtifact net baseUrl artifactPath f
  ((content.bind loads).join, f)

def checkArtifactsReady (f : Fetcher W) : Bool × Fetcher W :=
  let (finished, f) := fetchJsonArtifact net baseUrl loads "finished.json" f
  (finished.isSome, f)

variable (timeout : Int) (pollInterval : Nat)

def Fetcher.timed (f : Fetcher W) : Fetcher W := { f with world := (net.time f.world).2 }

def Fetcher.rested (f : Fetcher W) : Fetcher W := { f with world := net.sleep pollInterval f.world }

/-- The rest of the loop, for a number of rounds; without a result if that was not enough. -/
def waitLoop (startTime : Rat) : Nat → Fetcher W → Option Bool × Fetcher W
  | 0, f => (none, f)
  | rounds + 1, f =>
    if (net.time f.world).1 - startTime < timeout then
      let (ready, f) := checkArtifactsReady net baseUrl loads (f.timed net)
      -- both messages tell the time
      if ready then (some true, f.timed net)
      else waitLoop startTime rounds ((f.timed net).rested net pollInterval)
    else (some false, f.timed net)

def waitForArtifacts (rounds : Nat) (f : Fetcher W) : Option Bool × Fetcher W :=
  match f.localArtifactsRoot with
  | some _ =>
    let (ready, f) := checkArtifactsReady net baseUrl loads f
    (some ready, f)
  | none =>
    waitLoop net baseUrl loads timeout pollInterval (net.time f.world).1 rounds (f.timed net)

end Fetching

section Waiting

variable {W Json : Type} (net : Net W) (baseUrl : String) (loads : Bytes → Option (Option Json)) (timeout : Int)
  (pollInterval : Nat)

/-- A direct fetch of `finished.json` would bring a valid file. -/
def Fetchable (w : W) : Prop :=
  ∃ content, (fetchArtifactHttp net baseUrl "finished.json" w).1 = some content ∧ (loads content).isSome

def finishedAt (w : W) : Bool :=
  (((fetchArtifactHttp net baseUrl "finished.json" w).1.bind loads).join).isSome

/-- The loop, at its head, gets to call `check_artifacts_ready` in a given state. -/
inductive Polls (startTime : Rat) : Fetcher W → Fetcher W → Prop
  | now {f : Fetcher W} (early : (net.time f.world).1 - startTime < timeout) : Polls startTime f (f.timed net)
  | later {f g : Fetcher W} (early : (net.time f.world).1 - startTime < timeout)
      (waiting : (checkArtifactsReady net baseUrl loads (f.timed net)).1 = false)
      (rest : Polls startTime
        (((checkArtifactsReady net baseUrl loads (f.timed net)).2.timed net).rested net pollInterval) g) :
      Polls startTime f g

variable {net baseUrl loads timeout pollInterval} {startTime : Rat} {f g : Fetcher W} {data : Option Bytes}

theorem Polls.early (polls : Polls net baseUrl loads timeout pollInterval startTime f g) :
    (net.time f.world).1 - startTime < timeout := by
  cases polls with
  | now early => exact early
  | later early => exact early

/-- What was found is remembered. -/
structure Stale (baseUrl : String) (data : Option Bytes) (f : Fetcher W) : Prop where
  remote : f.localArtifactsRoot = none
  cached : f.artifactCache.lookup (artifactCacheKey baseUrl none "finished.json") = some data

theorem Stale.check (stale : Stale baseUrl data f) :
    checkArtifactsReady net baseUrl loads f = (((data.bind loads).join).isSome, f) := by
  have known : fetchArtifact net baseUrl "finished.json" f = (data, f) := by
    rw [fetchArtifact, stale.remote]
    simp only [stale.cached]
  rw [checkArtifactsReady, fetchJsonArtifact, known]

theorem Stale.waitLoop (stale : Stale baseUrl data f) (missing : (data.bind loads).join = none) (rounds : Nat) :
    (waitLoop net baseUrl loads timeout pollInterval startTime rounds f).1 ≠ some true := by
  induction rounds generalizing f with
  | zero => nofun
  | succ rounds ih =>
    have timed : Stale baseUrl data (f.timed net) := ⟨stale.remote, stale.cached⟩
    rw [SandboxedContainers.waitLoop]
    split
    · rw [timed.check, missing]
      exact ih ⟨stale.remote, stale.cached⟩
    · nofun

theorem check_first (w : W) :
    checkArtifactsReady net baseUrl loads ⟨none, [], w⟩ = (finishedAt net baseUrl loads w,
      ⟨none, [(artifactCacheKey baseUrl none "finished.json", (fetchArtifactHttp net baseUrl "finished.json" w).1)],
        (fetchArtifactHttp net baseUrl "finished.json" w).2⟩) := rfl

theorem waitForArtifacts_true_iff {w : W} (early : (net.time (net.time w).2).1 - (net.time w).1 < timeout) :
    (∃ rounds, (waitForArtifacts net baseUrl loads timeout pollInterval rounds ⟨none, [], w⟩).1 = some true) ↔
      finishedAt net baseUrl loads (net.time (net.time w).2).2 = true := by
  have first (rounds : Nat) : waitForArtifacts net baseUrl loads timeout pollInterval (rounds + 1) ⟨none, [], w⟩ =
      waitLoop net baseUrl loads timeout pollInterval (net.time w).1 (rounds + 1) ⟨none, [], (net.time w).2⟩ := rfl
  constructor
  · rintro ⟨rounds, returned⟩
    by_contra missing
    cases rounds with
    | zero => cases returned
    | succ rounds =>
      rw [first, waitLoop, if_pos early, Fetcher.timed, check_first, Bool.eq_false_of_not_eq_true missing] at returned
      exact Stale.waitLoop ⟨rfl, List.lookup_cons_self⟩ (by simpa [finishedAt] using missing) rounds returned
  · intro finished
    refine ⟨1, ?_⟩
    rw [first, waitLoop, if_pos early, Fetcher.timed, check_first, finished]
    rfl

/-- Some check is made when the file could be fetched. -/
def PolledInTime (net : Net W) (baseUrl : String) (loads : Bytes → Option (Option Json)) (timeout : Int)
    (pollInterval : Nat) (w : W) : Prop :=
  ∃ f, Polls net baseUrl loads timeout pollInterval (net.time w).1 ⟨none, [], (net.time w).2⟩ f ∧
    Fetchable net baseUrl loads f.world

/-- Waiting for a job that ends in time succeeds if and only if it has ended at the first look. -/
theorem waitForArtifacts_succeeds_iff (w : W) :
    (PolledInTime net baseUrl loads timeout pollInterval w →
      ∃ rounds, (waitForArtifacts net baseUrl loads timeout pollInterval rounds ⟨none, [], w⟩).1 = some true) ↔
    (PolledInTime net baseUrl loads timeout pollInterval w →
      finishedAt net baseUrl loads (net.time (net.time w).2).2 = true) := by
  apply forall_congr'
  rintro ⟨f, polls, _⟩
  exact waitForArtifacts_true_iff polls.early

/-- A clock that only sleeping advances, and a job that ends ten seconds after the start. -/
def tenSecondJob : Net Nat where
  time now := (now, now)
  sleep seconds now := now + seconds
  urlopen _ now := (if now < 10 then .httpError 404 else .response "application/json" [], now)
  readFile _ now := (none, now)

/-- The file is there at the second check, but the first one has found it missing. -/
theorem waitForArtifacts_misses :
    PolledInTime tenSecondJob "job" (fun _ => some (some ())) 20 10 0 ∧
      (waitForArtifacts tenSecondJob "job" (fun _ => some (some ())) 20 10 3 ⟨none, [], 0⟩).1 = some false ∧
      ¬ ∃ rounds, (waitForArtifacts tenSecondJob "job" (fun _ => some (some ())) 20 10 rounds ⟨none, [], 0⟩).1 =
        some true := by
  have early : (tenSecondJob.time (tenSecondJob.time 0).2).1 - (tenSecondJob.time 0).1 < (20 : Int) := by decide +kernel
  refine ⟨⟨_, .later early (by decide +kernel) (.now (by decide +kernel)), [], by decide +kernel, rfl⟩,
    by decide +kernel, ?_⟩
  rw [waitForArtifacts_true_iff early]
  decide +kernel

end Waiting

end SandboxedContainers
