import SandboxedContainers.Lib.Routine
import SandboxedContainers.Objects

/-!
# The operator's client and its memory

Every function of the operator is an `Op`: a routine over API requests whose
memory is the reconciler object.  The wrappers below are the client calls as
the Go code makes them; `mark` names a control point and has no effect.
-/

namespace SandboxedContainers

open Lib

/-- An error value.  `wrap` keeps the inner error visible to `errors.As`, as the
verb `%w` does; a panic unwinds the whole reconciliation. -/
inductive Err where
  | api (error : ApiError)
  | new (text : String)
  | wrap (text : String) (inner : Err)
  | panic (text : String)
  deriving DecidableEq, Repr

namespace Err

def reason? : Err → Option Reason
  | api error => some error.reason
  | wrap _ inner => inner.reason?
  | new _ | panic _ => none

def isNotFound (error : Err) : Bool := error.reason? = some .notFound
def isAlreadyExists (error : Err) : Bool := error.reason? = some .alreadyExists
def isConflict (error : Err) : Bool := error.reason? = some .conflict
def isGone (error : Err) : Bool := error.reason? = some .gone
def isNoMatchError (error : Err) : Bool := error.reason? = some .noMatch

def message : Err → String
  | api error => error.message
  | new text => text
  | wrap text inner => text ++ inner.message
  | panic text => text

end Err

/-- What a reconciliation asks of the work queue; the delay is in seconds. -/
structure Result where
  requeue : Bool := false
  requeueAfter : Nat := 0
  deriving DecidableEq, Repr

/-- An early return of a function that returns a result and an error. -/
structure Exit where
  result : Result := {}
  err : Option Err := none
  deriving DecidableEq, Repr

inductive DeploymentMode where
  | machineConfigMode
  | daemonSetMode
  deriving DecidableEq, Repr

structure ImageGenerator where
  provider : String
  clusterId : String
  cmImageIDKey : String
  fips : Bool
  deriving DecidableEq, Repr

structure Reconciler where
  /-- Nil until the first reconciliation. -/
  kataConfig : Option KataConfig := none
  imgMc : Option MachineConfig := none
  deploymentMode : DeploymentMode := .machineConfigMode
  ig : Option ImageGenerator := none

/-- An order in which a `range` statement visits the entries of a map. -/
structure IterationOrder where
  visit : List (String × String) → List (String × String)
  perm : ∀ entries, (visit entries).Perm entries

def inOrder : IterationOrder := ⟨id, fun _ => .refl _⟩

/-- What the process takes from its surroundings, and the decoding of shipped
files, which third-party code does. -/
structure Settings where
  lookupEnv : String → Option String
  goarch : String
  /-- Whether the in-cluster client configuration can be built. -/
  inCluster : Bool
  /-- The TLS version and cipher list to pass on, if the profile is honoured. -/
  tlsProfile : Option (String × String)
  parseConfigMapYAML : String → Option ConfigMap
  parseJobYAML : String → Option Job
  rangeOrder : IterationOrder

def Settings.getenv (settings : Settings) (name : String) : String :=
  (settings.lookupEnv name).getD ""

def Settings.ranging (settings : Settings) (order : IterationOrder) : Settings :=
  { settings with rangeOrder := order }

/-- Control points that statements about executions refer to. -/
inductive Point where
  | deleteBranch
  | deleteRequest
  | deleteRequestDaemonSet
  | installRequest
  | installRequestDaemonSet
  | postKataInstallation
  | deletionEligible
  | chooseTargetPool
  | samplePool (name : String)
  | unlabelNodes
  | unlabelNodesDaemonSet
  | checkAgents
  | removeFinalizer
  deriving DecidableEq, Repr

/-- A control point and the `KataConfig` the reconciler holds there. -/
structure Mark where
  point : Point
  kataConfig : KataConfig

abbrev Req := Request Kind Mark

abbrev Op (ε α : Type) := Routine Req Response Reconciler ε α

def emptyKataConfig : KataConfig := ⟨{ name := "" }, show KataConfigBody from {}⟩

namespace Reconciler

def current (r : Reconciler) : KataConfig := r.kataConfig.getD emptyKataConfig

def status (r : Reconciler) : KataConfigStatus := statusOf r.current

def spec (r : Reconciler) : KataConfigSpec := specOf r.current

def setKataConfig (r : Reconciler) (kataConfig : KataConfig) : Reconciler :=
  { r with kataConfig := some kataConfig }

def setStatus (r : Reconciler) (status : KataConfigStatus) : Reconciler :=
  r.setKataConfig ⟨r.current.metadata,
    show KataConfigBody from { spec := r.spec, status := some status }⟩

@[simp] theorem status_setStatus (r : Reconciler) (status : KataConfigStatus) :
    (r.setStatus status).status = status := rfl

end Reconciler

section Calls

variable {ε α : Type}

def ask (r : Req) : Op ε (Response r) := Routine.request r

def fromApi : Except ApiError α → Op Err α
  | .ok value => Routine.pure value
  | .error error => Routine.throw (.api error)

/-- A client drops the namespace of a cluster-inScope object. -/
def scopedKey (k : Kind) (key : Key) : Key := if k.namespaced then key else ⟨"", key.name⟩

def inScope {k : Kind} (object : Object k) : Object k :=
  if k.namespaced then object
  else { object with metadata := { object.metadata with ns := "" } }

theorem key_inScope {k : Kind} (object : Object k) : (inScope object).key = scopedKey k object.key := by
  unfold inScope scopedKey
  split <;> rfl

theorem metadata_inScope {k : Kind} (object : Object k) :
    (inScope object).metadata = { object.metadata with ns := (inScope object).metadata.ns } := by
  unfold inScope
  split <;> rfl

def clientGet (k : Kind) (key : Key) : Op Err (Object k) :=
  ask (.get k (scopedKey k key)) >>= fun response => fromApi response

def clientList (k : Kind) (selector : Selector := []) : Op Err (List (Object k)) :=
  ask (.list k selector) >>= fun response => fromApi response

def clientCreate {k : Kind} (object : Object k) : Op Err (Object k) :=
  ask (.create k (inScope object)) >>= fun response => fromApi response

def clientUpdate {k : Kind} (object : Object k) : Op Err (Object k) :=
  ask (.update k (inScope object)) >>= fun response => fromApi response

def clientStatusUpdate {k : Kind} (object : Object k) : Op Err (Object k) :=
  ask (.updateStatus k (inScope object)) >>= fun response => fromApi response

def clientPatch (k : Kind) (key : Key) (change : Kind.Body k → Kind.Body k) : Op Err (Object k) :=
  ask (.patch k (scopedKey k key) [] change) >>= fun response => fromApi response

def clientDelete (k : Kind) (key : Key) : Op Err PUnit :=
  ask (.delete k (scopedKey k key)) >>= fun response => fromApi response

def reconciler : Op ε Reconciler := Routine.get

def mark (point : Point) : Op ε PUnit :=
  reconciler >>= fun r => ask (.mark ⟨point, r.current⟩)

def setStatus (change : KataConfigStatus → KataConfigStatus) : Op ε PUnit :=
  Routine.modify fun r => r.setStatus (change r.status)

/-- Return how a call ended; a panic is not an error a caller can handle. -/
def caught (routine : Op Err α) : Op Err (Except Err α) :=
  Routine.attempt routine >>= fun
    | .error (.panic text) => Routine.throw (.panic text)
    | result => Routine.pure result

/-- Return early with `result` and the error of a failed call. -/
def orReturn (routine : Op Err α) (result : Result := {}) : Op Exit α :=
  routine.orElse fun error => match error with
    | .panic _ => { err := some error }
    | _ => { result := result, err := some error }

/-- Return early with `result` and no error when a call fails. -/
def orRetry (routine : Op Err α) (result : Result) : Op Exit α :=
  routine.orElse fun error => match error with
    | .panic _ => { err := some error }
    | _ => { result := result }

/-- `controllerutil.CreateOrUpdate`: the object with the given key is created or
brought to the wanted state, and written only if that changes it. -/
def createOrUpdate (k : Kind) (key : Key) (blank : Kind.Body k)
    (mutate : Object k → Op Err (Object k)) : Op Err PUnit := do
  match ← Routine.attempt (clientGet k key) with
  | .error error =>
    if error.isNotFound then
      let object ← mutate ⟨{ name := key.name, ns := key.ns }, blank⟩
      let _ ← clientCreate object
      pure ⟨⟩
    else Routine.throw error
  | .ok existing =>
    let object ← mutate existing
    if object.metadata = existing.metadata ∧ object.body = existing.body then pure ⟨⟩
    else
      let _ ← clientUpdate object
      pure ⟨⟩

end Calls

end SandboxedContainers
