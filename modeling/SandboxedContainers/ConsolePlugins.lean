import SandboxedContainers.Concurrency
import SandboxedContainers.Runs

/-!
# Plugins on the Console

The console plugins share one object with the administrators, the operator's
`Console`: its list of plugins says which ones are enabled, and each reconciler
mirrors that for its own plugin in an annotation, the marker.  Reads and updates of
all parties interleave; an update that does not start from the stored version is
refused, and the reconciler then starts over.

The invariant that carries the argument: what a reconciler is about to write is its
edit of a `Console` it has seen, and an accepted update was made to that one.
-/

namespace SandboxedContainers

open Lib Routine

def enabledMarkerPrefix : String := "consoleplugin.openshift.io/enabled-"

def enabledMarkerKey (pluginName : String) : String := enabledMarkerPrefix ++ pluginName

def consoleKey : Key := ⟨"", "cluster"⟩

section Edits

variable (pluginName : String) (console : Console)

def pluginsOf : List String := (show ConsoleBody from console.body).plugins

def setPlugins (plugins : List String) : Console :=
  ⟨console.metadata, show ConsoleBody from { (show ConsoleBody from console.body) with plugins := plugins }⟩

def annotate (annotations : StrMap) : Console :=
  { console with metadata := { console.metadata with annotations := annotations } }

def isMarked : Bool := StrMap.hasKey console.metadata.annotations (enabledMarkerKey pluginName)

def isEnabled : Bool := pluginName ∈ pluginsOf console

def addMarker : Console :=
  annotate console (console.metadata.annotations.insert (enabledMarkerKey pluginName) "true")

def dropMarker : Console :=
  annotate console (console.metadata.annotations.erase (enabledMarkerKey pluginName))

def dropPlugin : Console :=
  dropMarker pluginName (setPlugins console ((pluginsOf console).filter (· ≠ pluginName)))

end Edits

/-- `retry.RetryOnConflict`: the error of the last attempt is handed on. -/
def retryOnConflict {α : Type} (operation : Op Err α) : Nat → Op Err α
  | 0 => operation
  | retries + 1 => do
    match ← Routine.attempt operation with
    | .ok value => return value
    | .error error =>
      if error.isConflict then retryOnConflict operation retries
      else Routine.throw error

def defaultRetries : Nat := 4

section Operations

variable (pluginName : String)

def syncAttempt : Op Err Bool := do
  let console ← (clientGet .console consoleKey).orElse (.wrap "reading Console operator CR: ")
  if isEnabled pluginName console && !isMarked pluginName console then
    let _ ← clientUpdate (addMarker pluginName console)
  else if !isEnabled pluginName console && isMarked pluginName console then
    let _ ← clientUpdate (dropMarker pluginName console)
  return isEnabled pluginName console

def syncConsolePluginEnabledState : Op Err Bool :=
  (retryOnConflict (syncAttempt pluginName) defaultRetries).orElse
    (.wrap "syncing plugin enablement on Console operator CR: ")

def disableAttempt : Op Err PUnit := do
  match ← Routine.attempt (clientGet .console consoleKey) with
  | .error error =>
    if error.isNotFound then return ⟨⟩
    else Routine.throw (.wrap "reading Console operator CR: " error)
  | .ok console =>
    let plugins := (pluginsOf console).filter (· ≠ pluginName)
    if plugins.length = (pluginsOf console).length && !isMarked pluginName console then
      return ⟨⟩
    let _ ← clientUpdate (dropPlugin pluginName console)

def disableConsolePlugin : Op Err PUnit :=
  (retryOnConflict (disableAttempt pluginName) defaultRetries).orElse
    (.wrap "removing plugin from Console operator CR: ")

end Operations

inductive ConsoleCall where
  | sync
  | disable
  deriving DecidableEq, Repr

/-- What a reconciler is asked to do; only a sync has something to report. -/
def consoleCall (pluginName : String) : ConsoleCall → Op Err (Option Bool)
  | .sync => do return some (← syncConsolePluginEnabledState pluginName)
  | .disable => do
    disableConsolePlugin pluginName
    return none

structure ConsoleNote where
  call : Option ConsoleCall := none
  /-- Nobody else has written the `Console` since it last read it. -/
  alone : Bool := false

def wroteConsole (s : Cluster) (r : Req) (s' : Cluster) : Bool :=
  r.writes = some .console && s'.version ≠ s.version

section System

variable {Name : Type} [DecidableEq Name]

def consoleObserver : Observer Name ConsoleCall (Name → ConsoleNote) where
  start name call _ notes := Function.update notes name { call := some call }
  call name s r _ s' notes other :=
    if other = name then match r with
      | .get .console _ => { notes name with alone := true }
      | _ => notes name
    else { notes other with alone := (notes other).alone && !wroteConsole s r s' }
  leave name _ notes := Function.update notes name {}
  env s change s' notes other := match change with
    | .request r => { notes other with alone := (notes other).alone && !wroteConsole s r s' }
    | _ => notes other

abbrev consoleSystem (pluginName : Name → String) :
    Clients Req Response (Cluster × (Name → ConsoleNote)) Name ConsoleCall
      (Except Err (Option Bool) × Reconciler) :=
  clients (fun name call => consoleCall (pluginName name) call {}) consoleObserver {}

end System

/-- The `Console` differs at most in one annotation. -/
structure MarkerOnly (pluginName : String) (before after : Console) : Prop where
  body : after.body = before.body
  metadata : after.metadata = { before.metadata with
    annotations := after.metadata.annotations, resourceVersion := after.metadata.resourceVersion }
  annotations : ∀ key, key ≠ enabledMarkerKey pluginName →
    after.metadata.annotations.lookup key = before.metadata.annotations.lookup key

/-- The plugin and its marker are gone, and everything else is as it was. -/
structure PluginRemoved (pluginName : String) (before after : Console) : Prop where
  body : after.body = (setPlugins before ((pluginsOf before).filter (· ≠ pluginName))).body
  metadata : after.metadata = { before.metadata with
    annotations := before.metadata.annotations.erase (enabledMarkerKey pluginName)
    resourceVersion := after.metadata.resourceVersion }

/-- No `Console` changed but the one the operator uses, and that one as described. -/
def ConsoleChanges (edit : Console → Console → Prop) (s s' : Cluster) : Prop :=
  s'.objs .console = s.objs .console ∨
    ∃ before after, s.find? .console consoleKey = some before ∧ s'.find? .console consoleKey = some after ∧
      edit before after ∧ ∀ key, key ≠ consoleKey → s'.find? .console key = s.find? .console key

namespace ConsolePlugins

variable {Name : Type} [DecidableEq Name] {pluginName : Name → String} {name : Name}

abbrev Notes (Name : Type) := Name → ConsoleNote

structure Relied (name : Name) (w w' : Cluster × Notes Name) : Prop where
  seen : ∀ console : Console, w.1.Seen console → w'.1.Seen console
  call : (w'.2 name).call = (w.2 name).call
  alone : (w'.2 name).alone = true → (w.2 name).alone = true ∧ w'.1.objs .console = w.1.objs .console

def Edits (pluginName : String) (console next : Console) : Option ConsoleCall → Prop
  | some .sync => next = addMarker pluginName console ∨ next = dropMarker pluginName console
  | some .disable => next = dropPlugin pluginName console
  | none => False

/-- A reconciler reads the `Console`, and writes its edit of what it has read. -/
def contract (pluginName : Name → String) (name : Name) : Contract Req (Cluster × Notes Name) where
  good w r := match r with
    | .get .console _ => True
    | .update .console next => ∃ console, w.1.Seen console ∧ console.key = consoleKey ∧
        Edits (pluginName name) console next (w.2 name).call
    | _ => False
  mid _ := True

abbrev machine (pluginName : Name → String) (name : Name) : Machine Req Response (Cluster × Notes Name) :=
  (consoleSystem pluginName).machine Relied name

section Store

variable {s s' : Cluster} {console next : Console}

theorem objs_console_eq {r : Req} (store : s' = s ∨ s' = (s.exec r).2) (quiet : wroteConsole s r s' = false) :
    s'.objs .console = s.objs .console := by
  rcases store with rfl | rfl
  · rfl
  by_cases writes : r.writes = some .console
  · have unmoved : (s.exec r).2.version = s.version := by simpa [wroteConsole, writes] using quiet
    rcases Store.exec_store_cases s r with same | ⟨k, object, rfl, _, added⟩ | ⟨k, stored, merged, _, settled⟩
    · rw [same]
    · rw [added] at unmoved
      exact absurd unmoved (Nat.succ_ne_self _)
    · rw [settled, Store.settle_version] at unmoved
      exact absurd unmoved (Nat.succ_ne_self _)
  · exact Store.exec_objs_ne writes

theorem key_edited (key : console.key = consoleKey)
    (metadata : next.metadata = { console.metadata with annotations := next.metadata.annotations }) :
    next.key = consoleKey := by
  rw [← key]
  simp only [Object.key, ObjectMeta.key]
  rw [metadata]

theorem settle_console {stored : Console} (seen : s.Seen console) (key : console.key = consoleKey)
    (metadata : next.metadata = { console.metadata with annotations := next.metadata.annotations })
    (found : s.find? .console next.key = some stored) (current : Store.stale stored next = false) :
    s.find? .console consoleKey = some console ∧
      (s.settle (Store.updated stored next)).find? .console consoleKey = some (s.stamp next) := by
  have sameKey := key_edited key metadata
  have member := (Collection.find?_mem found).1
  obtain rfl : stored = console := seen.eq_of_not_stale member current (by rw [metadata]) (by rw [metadata])
  have kept : Store.updated stored next = next := by
    have same : { next.metadata with
        uid := stored.metadata.uid, deletionTimestamp := stored.metadata.deletionTimestamp } = next.metadata := by
      rw [metadata]
    unfold Store.updated
    rw [same]
    rfl
  rw [sameKey] at found
  refine ⟨found, ?_⟩
  rw [kept]
  exact Store.find?_settle_kept found sameKey (by rw [metadata]) (by rw [metadata]) (by rw [metadata])

theorem consoleChanges_of_update {response : Response (.update .console next : Req)} {edit : Console → Console → Prop}
    (answered : Answered s (.update .console next) response s') (seen : s.Seen console)
    (key : console.key = consoleKey)
    (metadata : next.metadata = { console.metadata with annotations := next.metadata.annotations })
    (edits : edit console (s.stamp next)) : ConsoleChanges edit s s' := by
  rcases answered.store with rfl | rfl
  · exact .inl rfl
  rcases Store.exec_update_cases (P := Mark) (s := s) next with ⟨_, refused⟩ | ⟨stored, found, current, _, written⟩
  · rw [refused]
    exact .inl rfl
  · obtain ⟨before, after⟩ := settle_console seen key metadata found current
    refine .inr ⟨console, s.stamp next, before, by rw [written]; exact after, edits, ?_⟩
    intro other differs
    apply Store.exec_find?_other
    intro target
    have sameKey : next.key = other := congrArg Prod.snd (Option.some.inj target)
    exact differs (sameKey.symm.trans (key_edited key metadata))

end Store

section Edited

variable {p : String} {console next : Console} {call : ConsoleCall}

theorem isMarked_addMarker : isMarked p (addMarker p console) = true := by
  simp [isMarked, addMarker, annotate, StrMap.hasKey_insert]

theorem isMarked_dropMarker : isMarked p (dropMarker p console) = false := by
  simp [isMarked, dropMarker, annotate, StrMap.hasKey_erase]

theorem Edits.metadata (edits : Edits p console next (some call)) :
    next.metadata = { console.metadata with annotations := next.metadata.annotations } := by
  cases call with
  | sync =>
    rcases edits with rfl | rfl
    · rfl
    · rfl
  | disable =>
    cases edits
    rfl

def Permitted (p : String) : ConsoleCall → Console → Console → Prop
  | .sync => MarkerOnly p
  | .disable => PluginRemoved p

theorem Edits.permitted {s : Cluster} (edits : Edits p console next (some call)) :
    Permitted p call console (s.stamp next) := by
  cases call with
  | sync =>
    rcases edits with rfl | rfl
    · exact ⟨rfl, rfl, fun key differs => Finmap.lookup_insert_of_ne _ differs⟩
    · exact ⟨rfl, rfl, fun key differs => Finmap.lookup_erase_ne differs⟩
  | disable =>
    cases edits
    exact ⟨rfl, rfl⟩

theorem inScope_edited (key : console.key = consoleKey) (edits : Edits p console next (some call)) :
    inScope next = next := by
  have noNamespace : next.metadata.ns = "" := by
    rw [edits.metadata]
    exact congrArg Key.ns key
  have same : { next.metadata with ns := "" } = next.metadata := by rw [← noNamespace]
  change { next with metadata := { next.metadata with ns := "" } } = next
  rw [same]

end Edited

section Reconcilers

abbrev In (name : Name) (call : ConsoleCall) : Reconciler → Cluster × Notes Name → Prop :=
  World fun w => (w.2 name).call = some call

structure Holding (name : Name) (call : ConsoleCall) (console : Console) (w : Cluster × Notes Name) : Prop where
  call : (w.2 name).call = some call
  seen : w.1.Seen console
  key : console.key = consoleKey
  stored : (w.2 name).alone = true → w.1.find? .console consoleKey = some console

structure Wrote (name : Name) (call : ConsoleCall) (next : Console) (w : Cluster × Notes Name) : Prop where
  call : (w.2 name).call = some call
  stored : (w.2 name).alone = true → ∃ s : Cluster, w.1.find? .console consoleKey = some (s.stamp next)

/-- The marker tells whether the plugin is enabled, unless somebody has interfered. -/
structure Synced (pluginName : Name → String) (name : Name) (enabled : Bool) (w : Cluster × Notes Name) : Prop where
  call : (w.2 name).call = some .sync
  marker : (w.2 name).alone = true → ∃ console, w.1.find? .console consoleKey = some console ∧
    isMarked (pluginName name) console = isEnabled (pluginName name) console ∧
    enabled = isEnabled (pluginName name) console

variable {call : ConsoleCall}

instance : Invariant (machine pluginName name) (contract pluginName name) (In name call) :=
  world_invariant (fun _ _ relied running => relied.call.trans running) fun _ _ => trivial

omit [DecidableEq Name] in
theorem Relied.find?_eq {w w' : Cluster × Notes Name} (relied : Relied name w w')
    (alone : (w'.2 name).alone = true) : w'.1.find? .console consoleKey = w.1.find? .console consoleKey :=
  congrArg (fun objects => Collection.find? objects consoleKey) (relied.alone alone).2

instance (console : Console) : Invariant (machine pluginName name) (contract pluginName name)
    (World (Holding name call console)) := by
  refine world_invariant (fun w w' relied holding => ?_) fun _ _ => trivial
  refine ⟨relied.call.trans holding.call, relied.seen console holding.seen, holding.key, fun alone => ?_⟩
  rw [relied.find?_eq alone]
  exact holding.stored (relied.alone alone).1

instance (next : Console) : Invariant (machine pluginName name) (contract pluginName name)
    (World (Wrote name call next)) := by
  refine world_invariant (fun w w' relied wrote => ?_) fun _ _ => trivial
  refine ⟨relied.call.trans wrote.call, fun alone => ?_⟩
  rw [relied.find?_eq alone]
  exact wrote.stored (relied.alone alone).1

instance (enabled : Bool) : Invariant (machine pluginName name) (contract pluginName name)
    (World (Synced pluginName name enabled)) := by
  refine world_invariant (fun w w' relied synced => ?_) fun _ _ => trivial
  refine ⟨relied.call.trans synced.call, fun alone => ?_⟩
  rw [relied.find?_eq alone]
  exact synced.marker (relied.alone alone).1

theorem call_kept {w w' : Cluster × Notes Name} {r : Req} {response : Response r}
    (noted : w'.2 = consoleObserver.call name w.1 r response w'.1 w.2) : (w'.2 name).call = (w.2 name).call := by
  rw [noted]
  simp only [consoleObserver, if_pos]
  split
  · rfl
  · rfl

theorem get_triple : Triple (machine pluginName name) (contract pluginName name) (In name call)
    (clientGet .console consoleKey) (Leaves (fun console => World (Holding name call console)) (In name call)) := by
  refine clientGet_triple (fun _ _ _ => trivial) ?_ ?_
  · rintro memory w console w' running reply
    obtain ⟨same, found⟩ := reply.1.get_ok
    have stored : w'.1.find? .console consoleKey = some console := by
      rw [same]
      exact found
    exact ⟨(call_kept reply.2.1).trans running, Store.seen_of_mem (Collection.find?_mem stored).1,
      (Collection.find?_mem stored).2, fun _ => stored⟩
  · rintro memory w error w' running reply
    exact (call_kept reply.2.1).trans running

theorem update_triple {console next : Console} (edits : Edits (pluginName name) console next (some call)) :
    Triple (machine pluginName name) (contract pluginName name) (World (Holding name call console))
      (clientUpdate next) (Leaves (fun _ => World (Wrote name call next)) (In name call)) := by
  refine clientUpdate_triple ?_ ?_ ?_
  · rintro memory w holding
    rw [inScope_edited holding.key edits]
    refine ⟨console, holding.seen, holding.key, ?_⟩
    rw [holding.call]
    exact edits
  · rintro memory w answer w' holding reply
    rw [inScope_edited holding.key edits] at reply
    obtain ⟨stored, found, current, -, after⟩ := reply.1.update_ok
    refine ⟨(call_kept reply.2.1).trans holding.call, fun _ => ⟨w.1, ?_⟩⟩
    rw [after]
    exact (settle_console holding.seen holding.key edits.metadata found current).2
  · rintro memory w error w' holding reply
    exact (call_kept reply.2.1).trans holding.call

theorem retry_triple {α : Type} {B : α → Reconciler → Cluster × Notes Name → Prop} {operation : Op Err α}
    [∀ value, Invariant (machine pluginName name) (contract pluginName name) (B value)]
    (once : Triple (machine pluginName name) (contract pluginName name) (In name call) operation
      (Leaves B (In name call))) (retries : Nat) :
    Triple (machine pluginName name) (contract pluginName name) (In name call)
      (retryOnConflict operation retries) (Leaves B (In name call)) := by
  induction retries with
  | zero => exact once
  | succ retries ih =>
    refine Triple.bind (Q := fun outcome => match outcome with
      | .ok result => Leaves B (In name call) result
      | .error _ => In name call) once.attempt (fun result => ?_) fun _ _ _ => id
    cases result with
    | ok value => exact triple_pure fun _ _ => id
    | error error =>
      dsimp only
      split
      · exact ih
      · exact triple_throw fun _ _ => id

omit [DecidableEq Name] in
theorem Wrote.synced {next : Console} {w : Cluster × Notes Name} (wrote : Wrote name .sync next w)
    (marked : isMarked (pluginName name) next = isEnabled (pluginName name) next) :
    Synced pluginName name (isEnabled (pluginName name) next) w := by
  refine ⟨wrote.call, fun alone => ?_⟩
  obtain ⟨s, found⟩ := wrote.stored alone
  exact ⟨s.stamp next, found, marked, rfl⟩

theorem syncAttempt_triple : Triple (machine pluginName name) (contract pluginName name) (In name .sync)
    (syncAttempt (pluginName name))
    (Leaves (fun enabled => World (Synced pluginName name enabled)) (In name .sync)) := by
  refine get_triple.orElse_leaves.leaves_bind fun console => ?_
  split
  · rename_i wanted
    obtain ⟨enabled, _⟩ := Bool.and_eq_true_iff.mp wanted
    have edits : Edits (pluginName name) console (addMarker (pluginName name) console) (some .sync) := .inl rfl
    refine (update_triple edits).leaves_bind fun _ => triple_pure fun memory w wrote => wrote.synced ?_
    exact isMarked_addMarker.trans enabled.symm
  split
  · rename_i unwanted
    obtain ⟨disabled, _⟩ := Bool.and_eq_true_iff.mp unwanted
    have edits : Edits (pluginName name) console (dropMarker (pluginName name) console) (some .sync) := .inr rfl
    refine (update_triple edits).leaves_bind fun _ => triple_pure fun memory w wrote => wrote.synced ?_
    rw [isMarked_dropMarker]
    exact (Bool.not_eq_true' _).mp disabled |>.symm
  · rename_i noMarker noRemoval
    refine triple_pure fun memory w holding => ⟨holding.call, fun alone => ?_⟩
    refine ⟨console, holding.stored alone, ?_, rfl⟩
    cases marked : isMarked (pluginName name) console with
    | true => simpa [marked] using noRemoval
    | false => simpa [marked] using noMarker

theorem disableAttempt_triple : Triple (machine pluginName name) (contract pluginName name) (In name .disable)
    (disableAttempt (pluginName name)) (Leaves (fun _ => In name .disable) (In name .disable)) := by
  refine Triple.bind (Q := fun outcome => match outcome with
    | .ok result => Leaves (fun console => World (Holding name .disable console)) (In name .disable) result
    | .error _ => In name .disable) get_triple.attempt (fun result => ?_) fun _ _ _ => id
  cases result with
  | error error =>
    dsimp only
    split
    · exact triple_pure fun _ _ => id
    · exact triple_throw fun _ _ => id
  | ok console =>
    dsimp only
    split
    · exact triple_pure fun _ _ holding => Holding.call holding
    · have edits : Edits (pluginName name) console (dropPlugin (pluginName name) console) (some .disable) := rfl
      exact (update_triple edits).leaves_bind fun _ => triple_pure fun _ _ wrote => Wrote.call wrote

def Ended (pluginName : Name → String) (name : Name) : ConsoleCall → Except Err (Option Bool) →
    Cluster × Notes Name → Prop
  | .sync, .ok (some enabled) => Synced pluginName name enabled
  | _, _ => fun _ => True

theorem consoleCall_triple (call : ConsoleCall) :
    Triple (machine pluginName name) (contract pluginName name) (In name call)
      (consoleCall (pluginName name) call) fun result => World (Ended pluginName name call result) := by
  cases call with
  | sync =>
    refine Triple.bind (retry_triple syncAttempt_triple defaultRetries).orElse_leaves (fun enabled => ?_)
      fun _ _ _ _ => trivial
    exact triple_pure fun _ _ => id
  | disable =>
    refine Triple.bind (retry_triple disableAttempt_triple defaultRetries).orElse_leaves (fun _ => ?_)
      fun _ _ _ _ => trivial
    exact triple_pure fun _ _ _ => trivial

end Reconcilers

section Executions

variable {w w' : Cluster × Notes Name}

omit [DecidableEq Name] in
theorem relied_of_request {r : Req} (store : w'.1 = w.1 ∨ w'.1 = (w.1.exec r).2)
    (call : (w'.2 name).call = (w.2 name).call)
    (alone : (w'.2 name).alone = ((w.2 name).alone && !wroteConsole w.1 r w'.1)) : Relied name w w' := by
  refine ⟨fun console seen => ?_, call, fun still => ?_⟩
  · rcases store with same | same
    · exact same ▸ seen
    · exact same ▸ seen.exec
  · rw [alone] at still
    obtain ⟨before, quiet⟩ := Bool.and_eq_true_iff.mp still
    exact ⟨before, objs_console_eq store (by simpa using quiet)⟩

omit [DecidableEq Name] in
theorem relied_of_note (store : w'.1 = w.1) (note : w'.2 name = w.2 name) : Relied name w w' := by
  refine ⟨fun _ seen => store ▸ seen, by rw [note], fun alone => ⟨?_, by rw [store]⟩⟩
  rw [← note]
  exact alone

theorem relied_of_answer {other : Name} {r : Req} {response : Response r} (differs : other ≠ name)
    (reply : (consoleSystem pluginName).answer name w r response w') : Relied other w w' := by
  obtain ⟨answered, noted, _⟩ := reply
  refine relied_of_request answered.store ?_ ?_
  · rw [noted]
    simp only [consoleObserver, if_neg differs]
  · rw [noted]
    simp only [consoleObserver, if_neg differs]

theorem relied_of_change (name : Name) (change : Change) :
    Relied name w (change.apply w.1, consoleObserver.env w.1 change (change.apply w.1) w.2) := by
  have seen (console : Console) (before : w.1.Seen console) : (change.apply w.1).Seen console :=
    change.apply_seen before
  cases change with
  | request r => exact relied_of_request (.inr rfl) rfl rfl
  | serve | deliver | enqueue => exact ⟨seen, rfl, fun alone => ⟨alone, rfl⟩⟩

theorem sound : (consoleSystem pluginName).Sound (fun w => w.2 = fun _ => {}) (fun _ => True) Relied
    (contract pluginName) fun name call outcome => Ended pluginName name call outcome.1 where
  init _ _ := trivial
  start := by
    rintro name call w _ _ ⟨_, rfl⟩
    refine ⟨trivial, consoleCall_triple call {} _ ?_, fun other differs => relied_of_note rfl ?_⟩
    · simp [World, consoleObserver]
    · exact Function.update_of_ne differs _ _
  call name w r response w' _ _ reply := ⟨trivial, fun other differs => relied_of_answer differs reply⟩
  leave := by
    rintro name w _ _ rfl
    exact ⟨trivial, fun other differs => relied_of_note rfl (Function.update_of_ne differs _ _)⟩
  env := by
    rintro w _ _ ⟨change, rfl, _⟩
    exact ⟨trivial, fun name => relied_of_change name change⟩

theorem call_noted {state : Threads Req Response Name ConsoleCall (Except Err (Option Bool) × Reconciler) ×
      Cluster × Notes Name}
    (reached : (consoleSystem pluginName).Reachable (fun w => w.2 = fun _ => {}) state) :
    ∀ {name call program}, state.1 name = some (call, program) → (state.2.2 name).call = some call := by
  induction reached with
  | boot _ => exact nofun
  | step before step ih =>
    intro other call program thread
    cases step with
    | start name input _ started =>
      obtain ⟨_, rfl⟩ := started
      by_cases same : other = name
      · subst same
        obtain ⟨rfl, _⟩ : input = call ∧ _ := by simpa using thread
        simp [consoleObserver]
      · have before := ih (by simpa [same] using thread)
        simpa [consoleObserver, same] using before
    | call response running reply =>
      rename_i name input r next
      by_cases same : other = name
      · subst same
        obtain ⟨rfl, _⟩ : input = call ∧ _ := by simpa using thread
        exact (call_kept reply.2.1).trans (ih running)
      · have before := ih (by simpa [same] using thread)
        exact (relied_of_answer same reply).call.trans before
    | leave name left =>
      cases left
      by_cases same : other = name
      · subst same
        simp at thread
      · have before := ih (by simpa [same] using thread)
        simpa [consoleObserver, same] using before
    | env changed =>
      obtain ⟨change, rfl, _⟩ := changed
      exact (relied_of_change other change).call.trans (ih thread)

omit [DecidableEq Name] in
theorem answer_permitted {call : ConsoleCall} {r : Req} {response : Response r}
    (running : (w.2 name).call = some call) (good : (contract pluginName name).good w r)
    (answered : Answered w.1 r response w'.1) :
    ConsoleChanges (Permitted (pluginName name) call) w.1 w'.1 := by
  simp only [contract] at good
  split at good
  · exact .inl (answered.objs_eq (by simp [Request.writes]))
  · obtain ⟨console, seen, key, edits⟩ := good
    rw [running] at edits
    exact consoleChanges_of_update answered seen key edits.metadata edits.permitted
  · exact good.elim

end Executions

end ConsolePlugins

/-- However the calls interleave, a sync changes no more than its marker and a disable
takes its own plugin and marker away from the `Console` as it is stored; and a sync that
was not interfered with leaves the marker of an enabled plugin. -/
theorem consoleEdits_kept {Name : Type} [DecidableEq Name] {pluginName : Name → String}
    {threads : Threads Req Response Name ConsoleCall (Except Err (Option Bool) × Reconciler)}
    {w : Cluster × (Name → ConsoleNote)}
    (reached : (consoleSystem pluginName).Reachable (fun w => w.2 = fun _ => {}) (threads, w)) :
    (∀ name r next response w', threads name = some (.sync, .call r next) →
      (consoleSystem pluginName).answer name w r response w' →
        ConsoleChanges (MarkerOnly (pluginName name)) w.1 w'.1) ∧
    (∀ name r next response w', threads name = some (.disable, .call r next) →
      (consoleSystem pluginName).answer name w r response w' →
        ConsoleChanges (PluginRemoved (pluginName name)) w.1 w'.1) ∧
    ∀ name enabled memory, threads name = some (.sync, .pure (.ok (some enabled), memory)) →
      (w.2 name).alone = true → ∃ console, w.1.find? .console consoleKey = some console ∧
          (isMarked (pluginName name) console = true ↔ pluginName name ∈ pluginsOf console) ∧
          (enabled = true ↔ pluginName name ∈ pluginsOf console) := by
  have holds := ConsolePlugins.sound.holds reached
  have permitted {name : Name} {call : ConsoleCall} {r : Req} {next} {response : Response r} {w'}
      (thread : threads name = some (call, .call r next))
      (reply : (consoleSystem pluginName).answer name w r response w') :
      ConsoleChanges (ConsolePlugins.Permitted (pluginName name) call) w.1 w'.1 :=
    ConsolePlugins.answer_permitted (ConsolePlugins.call_noted reached thread)
      (holds.safe thread w .refl).2.1 reply.1
  refine ⟨fun name r next response w' thread reply => permitted thread reply,
    fun name r next response w' thread reply => permitted thread reply,
    fun name enabled memory thread alone => ?_⟩
  have synced : ConsolePlugins.Synced pluginName name enabled w := (holds.safe thread w .refl).2
  obtain ⟨console, found, marked, same⟩ := synced.marker alone
  refine ⟨console, found, ?_, ?_⟩
  · rw [marked]
    simp [isEnabled]
  · rw [same]
    simp [isEnabled]

/-- The thread has reported that the plugin is enabled, and nobody else has changed the
console since it has read it. -/
def enabledAlone (state : Threads Req Response Bool ConsoleCall (Except Err (Option Bool) × Reconciler) ×
    (Cluster × (Bool → ConsoleNote))) : Bool :=
  match state.1 true with
  | some (.sync, .pure (.ok (some enabled), _)) => (state.2.2 true).alone && enabled
  | _ => false

/-- Two plugins are synced, and an administrator is quicker than the first of them: its
update is refused, and it starts over. -/
theorem consoleEdits_kept_retried : ∃ (w : Cluster × (Bool → ConsoleNote)) (console : Console),
    w.1.find? .console consoleKey = some console ∧ isMarked "kata" console = true ∧
      "kata" ∈ pluginsOf console := by
  let pluginName (name : Bool) : String := if name then "kata" else "peerpods"
  let edited (plugins : List String) : Console :=
    ⟨{ name := "cluster" }, show ConsoleBody from { plugins := plugins }⟩
  have leads : leadsTo (fun name call => consoleCall (pluginName name) call {}) consoleObserver {}
      (fun _ => {})
      (requested [.create .console (edited ["kata"])] ++ [.start true .sync, .start false .sync] ++ served true 1 ++
        requested [.update .console (edited ["kata", "peerpods"])] ++ served false 2 ++ served true 3)
      enabledAlone = true := by
    decide +kernel
  obtain ⟨threads, w, reached, checked⟩ := reachable_of_leadsTo (fun w => w.2 = fun _ => {}) rfl leads
  unfold enabledAlone at checked
  split at checked
  · rename_i enabled memory thread
    obtain ⟨alone, isEnabled⟩ := Bool.and_eq_true_iff.mp checked
    obtain ⟨console, found, marked, reported⟩ := (consoleEdits_kept reached).2.2 true enabled memory thread alone
    exact ⟨w, console, found, marked.mpr (reported.mp isEnabled), reported.mp isEnabled⟩
  · cases checked

end SandboxedContainers
