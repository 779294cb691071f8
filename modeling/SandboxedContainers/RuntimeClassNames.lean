import SandboxedContainers.Exchanges
import SandboxedContainers.System

/-!
# The names of the runtime classes

`createRuntimeClass` adds a name to `Status.RuntimeClasses` and `deleteRuntimeClass` takes
it off, in memory.  The statements are about any history of such calls, whatever the API
answers, so that the objects may come and go at any time.
-/

namespace SandboxedContainers

open Lib Routine

namespace RuntimeClassNames

section Requests

def Elsewhere (r : Req) : Prop := r.writes = none ∧ ∀ key, r ≠ .get .runtimeClass key

@[grind ←]
theorem elsewhere_get {k : Kind} {key : Key} (differs : k ≠ .runtimeClass) : Elsewhere (.get k key) :=
  ⟨rfl, fun _ same => differs (by cases same; rfl)⟩

@[grind ←]
theorem elsewhere_list (k : Kind) (selector : Selector) : Elsewhere (.list k selector) := ⟨rfl, fun _ => nofun⟩

@[grind ←]
theorem looks_isConvergedAndKnown {ε : Type} : Looks Elsewhere (isConvergedAndKnown : Op ε Bool) :=
  (inquiry_isConvergedAndKnown (fun _ => elsewhere_get nofun) (elsewhere_list _ _)).looks

theorem looks_hasEligibleNodes (request : RuntimeClassRequest) : Looks Elsewhere (hasEligibleNodes request) := by
  have selector : Looks Elsewhere getKataConfigNodeSelectorAsSelector := by
    unfold getKataConfigNodeSelectorAsSelector getKataConfigNodeSelectorAsLabelSelector
    grind
  unfold hasEligibleNodes
  grind

theorem looks_wantedRuntimeClass (settings : Settings) (request : RuntimeClassRequest) :
    Looks Elsewhere (wantedRuntimeClass settings request) := by
  unfold wantedRuntimeClass getNodeSelectorAsMap
  grind

theorem looks_applyRuntimeClass {p : Req → Prop} (all : ∀ r, p r) (rc : RuntimeClass) :
    Looks p (applyRuntimeClass rc) := by
  unfold applyRuntimeClass
  grind

end Requests

def classKey (name : String) : Key := ⟨"", name⟩

def deletionAccepted (name : String) : Exchange := ⟨.delete .runtimeClass (classKey name), Except.ok ⟨⟩⟩

section Calls

variable {S : Type} {answer : S → (r : Req) → Response r → S → Prop} {s s' : S}
  {memory memory' : Reconciler} {log : List Exchange} {result : Except Err PUnit}

theorem createRuntimeClass_runs {settings : Settings} {request : RuntimeClassRequest}
    (runs : Prog.Runs answer (createRuntimeClass settings request memory) s log (result, memory') s') :
    (memory' = memory ∧ (result = .ok ⟨⟩ → ∀ entry ∈ log, Elsewhere entry.1)) ∨
      (result = .ok ⟨⟩ ∧ memory' = memory.setStatus (recordRuntimeClass request.name memory.status)) := by
  rcases runs_bind runs with ⟨eligible, memory₁, s₁, first, rest, checks, ends, rfl⟩ | ⟨error, _, checks, ended⟩
  · obtain ⟨rfl, elsewhere⟩ := (looks_hasEligibleNodes request).runs checks
    cases eligible with
    | false =>
      cases ends
      rw [List.append_nil]
      exact .inl ⟨rfl, fun _ => elsewhere⟩
    | true =>
      rcases runs_bind ends with ⟨wanted, _, s₂, _, _, wants, goesOn, rfl⟩ | ⟨error, _, wants, ended⟩
      · obtain ⟨rfl, _⟩ := (looks_wantedRuntimeClass settings request).runs wants
        rcases runs_bind goesOn with ⟨_, _, s₃, _, _, applies, finishes, rfl⟩ | ⟨error, _, applies, ended⟩
        · obtain ⟨rfl, _⟩ := (looks_applyRuntimeClass (p := fun _ => True) (fun _ => trivial) wanted).runs applies
          cases finishes
          exact .inr ⟨rfl, rfl⟩
        · obtain ⟨rfl, _⟩ := (looks_applyRuntimeClass (p := fun _ => True) (fun _ => trivial) wanted).runs applies
          cases ended
          exact .inl ⟨rfl, nofun⟩
      · obtain ⟨rfl, _⟩ := (looks_wantedRuntimeClass settings request).runs wants
        cases ended
        exact .inl ⟨rfl, nofun⟩
  · obtain ⟨rfl, _⟩ := (looks_hasEligibleNodes request).runs checks
    cases ended
    exact .inl ⟨rfl, nofun⟩

theorem deleteRuntimeClass_runs {name : String}
    (runs : Prog.Runs answer (deleteRuntimeClass name memory) s log (result, memory') s') :
    (memory' = memory ∧ deletionAccepted name ∉ log) ∨
      (result = .ok ⟨⟩ ∧ memory' = memory.setStatus (forgetRuntimeClass name memory.status) ∧
        deletionAccepted name ∈ log) := by
  have unread (response) : deletionAccepted name ≠ ⟨.get .runtimeClass (classKey name), response⟩ := nofun
  have refused (error) : deletionAccepted name ≠ ⟨.delete .runtimeClass (classKey name), Except.error error⟩ := nofun
  obtain ⟨found, memory₁, s₁, first, rest, reads, ends, rfl⟩ := runs_attempt_bind runs
  obtain ⟨foundAnswer, _, rfl, read⟩ := call_runs (.get .runtimeClass (classKey name)) (fun answer => answer) reads
  cases read
  cases foundAnswer with
  | error error =>
    replace ends : Prog.Runs answer ((if (Err.api error).isNotFound then Pure.pure ⟨⟩
      else Routine.throw (Err.api error) : Op Err PUnit) memory) s₁ rest (result, memory') s' := ends
    split at ends
    · cases ends
      exact .inl ⟨rfl, List.not_mem_cons_of_ne_of_not_mem (unread _) List.not_mem_nil⟩
    · cases ends
      exact .inl ⟨rfl, List.not_mem_cons_of_ne_of_not_mem (unread _) List.not_mem_nil⟩
  | ok found =>
    obtain ⟨deleted, memory₂, s₂, second, rest₂, deletes, finishes, rfl⟩ := runs_attempt_bind ends
    obtain ⟨deletedAnswer, _, rfl, done⟩ :=
      call_runs (.delete .runtimeClass (classKey name)) (fun answer => answer) deletes
    cases done
    cases deletedAnswer with
    | ok _ =>
      cases finishes
      exact .inr ⟨rfl, rfl, by simp [deletionAccepted]⟩
    | error error =>
      replace finishes : Prog.Runs answer ((if (Err.api error).isNotFound then Pure.pure ⟨⟩
        else Routine.throw (Err.api error) : Op Err PUnit) memory) s₂ rest₂ (result, memory') s' := finishes
      split at finishes
      · cases finishes
        exact .inl ⟨rfl, List.not_mem_cons_of_ne_of_not_mem (unread _)
          (List.not_mem_cons_of_ne_of_not_mem (refused _) List.not_mem_nil)⟩
      · cases finishes
        exact .inl ⟨rfl, List.not_mem_cons_of_ne_of_not_mem (unread _)
          (List.not_mem_cons_of_ne_of_not_mem (refused _) List.not_mem_nil)⟩

end Calls

/-! ### Histories of calls -/

inductive Call where
  | create (settings : Settings) (request : RuntimeClassRequest)
  | delete (name : String)

def Call.run : Call → Op Err PUnit
  | create settings request => createRuntimeClass settings request
  | delete name => deleteRuntimeClass name

structure Event where
  call : Call
  log : List Exchange
  result : Except Err PUnit

/-- The call is a creation that returned nil, and that did not stop at the check for
eligible nodes but went on to ask for the class. -/
def Event.Creates (event : Event) (name : String) : Prop :=
  ∃ settings request, event.call = .create settings request ∧ request.name = name ∧
    event.result = .ok ⟨⟩ ∧ ∃ entry ∈ event.log, entry.1 = .get .runtimeClass (classKey name)

def Event.Deletes (event : Event) (name : String) : Prop :=
  event.call = .delete name ∧ event.result = .ok ⟨⟩

/-- The API may answer anything, since others may do anything in between. -/
def anyAnswer : Cluster → (r : Req) → Response r → Cluster → Prop := fun _ _ _ _ => True

def classNames (memory : Reconciler) : List String := memory.status.runtimeClasses

/-- The calls so far, and the memory they have led to from an empty list.  Between the calls
the operator may do whatever leaves the list alone. -/
inductive History : List Event → Reconciler → Prop
  | start {memory : Reconciler} (empty : classNames memory = []) : History [] memory
  | called {events : List Event} {memory memory' : Reconciler} {call : Call} {s s' : Cluster}
      {log : List Exchange} {result : Except Err PUnit} (history : History events memory)
      (runs : Prog.Runs anyAnswer (call.run memory) s log (result, memory') s') :
      History (events ++ [⟨call, log, result⟩]) memory'
  | aside {events : List Event} {memory memory' : Reconciler} (history : History events memory)
      (kept : classNames memory' = classNames memory) : History events memory'

/-- The last creation of the class came after its last deletion. -/
def LastCreated (events : List Event) (name : String) : Prop :=
  ∃ earlier event later, events = earlier ++ event :: later ∧ event.Creates name ∧
    ∀ other ∈ later, ¬ other.Deletes name

theorem lastCreated_append {events : List Event} {event : Event} {name : String}
    (last : LastCreated (events ++ [event]) name) :
    event.Creates name ∨ (LastCreated events name ∧ ¬ event.Deletes name) := by
  obtain ⟨earlier, created, later, same, creates, undisturbed⟩ := last
  rcases List.eq_nil_or_concat later with rfl | ⟨between, final, rfl⟩
  · obtain ⟨_, lastSame⟩ := List.append_inj' same rfl
    cases lastSame
    exact .inl creates
  · rw [List.concat_eq_append, ← List.cons_append, ← List.append_assoc] at same
    obtain ⟨rfl, finalSame⟩ := List.append_inj' same rfl
    cases finalSame
    rw [List.concat_eq_append] at undisturbed
    refine .inr ⟨⟨earlier, created, between, rfl, creates, fun other member =>
      undisturbed other (List.mem_append_left _ member)⟩, undisturbed event (by simp)⟩

section Steps

variable {memory memory' : Reconciler} {call : Call} {s s' : Cluster} {log : List Exchange}
  {result : Except Err PUnit} {name : String}

theorem classNames_recorded (memory : Reconciler) (name : String) :
    classNames (memory.setStatus (recordRuntimeClass name memory.status)) =
      if name ∈ classNames memory then classNames memory else classNames memory ++ [name] := by
  simp only [classNames, Reconciler.status_setStatus, recordRuntimeClass, List.contains_iff_mem]
  exact apply_ite KataConfigStatus.runtimeClasses _ _ _

section Run

variable (runs : Prog.Runs anyAnswer (call.run memory) s log (result, memory') s')
include runs

theorem classNames_run : classNames memory' = classNames memory ∨
      (∃ settings request, call = .create settings request ∧ request.name ∉ classNames memory ∧
        classNames memory' = classNames memory ++ [request.name]) ∨
      ∃ name, call = .delete name ∧ result = .ok ⟨⟩ ∧ classNames memory' = (classNames memory).erase name := by
  cases call with
  | create settings request =>
    rcases createRuntimeClass_runs runs with ⟨rfl, _⟩ | ⟨_, rfl⟩
    · exact .inl rfl
    · rw [classNames_recorded]
      split
      · exact .inl rfl
      · next fresh => exact .inr (.inl ⟨settings, request, rfl, fresh, rfl⟩)
  | delete name =>
    rcases deleteRuntimeClass_runs runs with ⟨rfl, _⟩ | ⟨rfl, rfl, _⟩
    · exact .inl rfl
    · exact .inr (.inr ⟨name, rfl, rfl, rfl⟩)

theorem nodup_run (distinct : (classNames memory).Nodup) : (classNames memory').Nodup := by
  rcases classNames_run runs with same | ⟨_, request, _, fresh, added⟩ | ⟨name, _, _, removed⟩
  · exact same ▸ distinct
  · rw [added]
    exact distinct.append (List.nodup_singleton _) (List.disjoint_singleton.mpr fresh)
  · exact removed ▸ distinct.erase name

theorem mem_run (spared : ¬ Event.Deletes ⟨call, log, result⟩ name) (member : name ∈ classNames memory) :
    name ∈ classNames memory' := by
  rcases classNames_run runs with same | ⟨_, request, _, _, added⟩ | ⟨other, rfl, rfl, removed⟩
  · exact same ▸ member
  · exact added ▸ List.mem_append_left _ member
  · have differs : name ≠ other := by
      rintro rfl
      exact spared ⟨rfl, rfl⟩
    rw [removed]
    exact (List.mem_erase_of_ne differs).mpr member

theorem mem_run_created (creates : Event.Creates ⟨call, log, result⟩ name) : name ∈ classNames memory' := by
  obtain ⟨settings, request, rfl, rfl, rfl, entry, member, asks⟩ := creates
  rcases createRuntimeClass_runs runs with ⟨_, stopped⟩ | ⟨_, rfl⟩
  · exact absurd asks ((stopped rfl entry member).2 _)
  · rw [classNames_recorded]
    split
    · assumption
    · exact List.mem_append_right _ (List.mem_singleton_self _)

end Run

/-- A deletion that returns nil takes the name off the list exactly if the API accepted it,
or the name was not in the list. -/
theorem not_mem_run_deleted_iff (distinct : (classNames memory).Nodup)
    (runs : Prog.Runs anyAnswer (deleteRuntimeClass name memory) s log (result, memory') s') :
    name ∉ classNames memory' ↔ name ∉ classNames memory ∨ deletionAccepted name ∈ log := by
  rcases deleteRuntimeClass_runs runs with ⟨rfl, unaccepted⟩ | ⟨_, rfl, accepted⟩
  · exact (or_iff_left unaccepted).symm
  · exact iff_of_true distinct.not_mem_erase (.inr accepted)

end Steps

section Runs

variable {events : List Event} {memory : Reconciler}

theorem History.nodup (history : History events memory) : (classNames memory).Nodup := by
  induction history with
  | start empty => exact empty ▸ List.nodup_nil
  | called _ runs ih => exact nodup_run runs ih
  | aside _ kept ih => exact kept ▸ ih

theorem History.mem_of_lastCreated (history : History events memory) {name : String}
    (last : LastCreated events name) : name ∈ classNames memory := by
  induction history with
  | start =>
    obtain ⟨_, _, _, same, _⟩ := last
    simp at same
  | called _ runs ih =>
    rcases lastCreated_append last with creates | ⟨before, spared⟩
    · exact mem_run_created runs creates
    · exact mem_run runs spared (ih before)
  | aside _ kept ih => exact kept ▸ ih last

end Runs

end RuntimeClassNames

open RuntimeClassNames

/-- After any history of calls the list has no duplicates and holds every class whose last
creation came after its last deletion; and a deletion that returns nil then leaves the
name out of the list exactly if it was not in it or the API accepted the deletion, which
is where an object that is already gone makes the difference. -/
theorem runtimeClasses_follow_calls {events : List Event} {memory : Reconciler}
    (history : History events memory) :
    (classNames memory).Nodup ∧ (∀ name, LastCreated events name → name ∈ classNames memory) ∧
      ∀ name s log memory' s',
        Prog.Runs anyAnswer (deleteRuntimeClass name memory) s log (.ok ⟨⟩, memory') s' →
          (name ∉ classNames memory' ↔ name ∉ classNames memory ∨ deletionAccepted name ∈ log) :=
  ⟨history.nodup, fun _ last => history.mem_of_lastCreated last,
    fun _ _ _ _ _ runs => not_mem_run_deleted_iff history.nodup runs⟩

namespace RuntimeClassNames

def kataCreation : Call := .create plainSettings (kataRequest false)

def kataCreated : (Except Err PUnit × Reconciler) × Cluster :=
  kataCreation.run.eval Store.exec { kataConfig := some exampleKataConfig } (clusterOf [])

/-- The same cluster once others have taken off the finalizer and deleted the class. -/
def kataRemoved : Cluster :=
  [.update .runtimeClass ⟨{ name := kataRuntimeClassName }, show RuntimeClassBody from ⟨"kata", [], none⟩⟩,
    .delete .runtimeClass (classKey kataRuntimeClassName)].foldl (fun s (r : Req) => (s.exec r).2) kataCreated.2

def kataDeleted : (Except Err PUnit × Reconciler) × Cluster :=
  (Call.delete kataRuntimeClassName).run.eval Store.exec kataCreated.1.2 kataRemoved

theorem kataCreated_history : ∃ log, History [⟨kataCreation, log, kataCreated.1.1⟩] kataCreated.1.2 := by
  obtain ⟨log, runs⟩ := Prog.runs_eval anyAnswer Store.exec (fun _ _ => trivial)
    (kataCreation.run { kataConfig := some exampleKataConfig }) (clusterOf [])
  exact ⟨log, .called (.start (by decide +kernel)) runs⟩

end RuntimeClassNames

theorem runtimeClasses_follow_creation : ∃ events memory, History events memory ∧
    "kata" ∈ classNames memory ∧ (classNames memory).Nodup := by
  obtain ⟨log, history⟩ := kataCreated_history
  exact ⟨_, _, history, by decide +kernel, (runtimeClasses_follow_calls history).1⟩

/-- A class that others have removed stays in the list when it is deleted. -/
theorem runtimeClasses_keep_removed : ∃ events log memory,
    History (events ++ [⟨.delete "kata", log, .ok ⟨⟩⟩]) memory ∧ "kata" ∈ classNames memory := by
  obtain ⟨_, history⟩ := kataCreated_history
  obtain ⟨log, runs⟩ := Prog.runs_eval anyAnswer Store.exec (fun _ _ => trivial)
    ((Call.delete kataRuntimeClassName).run kataCreated.1.2) kataRemoved
  have ended : kataDeleted.1.1 = .ok ⟨⟩ ∧ "kata" ∈ classNames kataDeleted.1.2 := by decide +kernel
  have deleted : Prog.Runs anyAnswer ((Call.delete kataRuntimeClassName).run kataCreated.1.2) kataRemoved log
      (.ok ⟨⟩, kataDeleted.1.2) kataDeleted.2 := by
    rw [← ended.1]
    exact runs
  exact ⟨_, log, kataDeleted.1.2, .called history deleted, ended.2⟩

end SandboxedContainers
