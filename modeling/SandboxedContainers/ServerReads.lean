import SandboxedContainers.Exchanges
import SandboxedContainers.Lineage

/-!
# Reading from the server

A read is answered with the object that is stored, or with an error, and leaves the cluster
alone.  An object that was created or updated is there to be read afterwards.
-/

namespace SandboxedContainers

open Lib Routine

def IsRead (r : Req) : Prop := r.writes = none

/-- The answer of a server that does not fail. -/
def Served (s : Cluster) (r : Req) (response : Response r) (s' : Cluster) : Prop := (response, s') = s.exec r

variable {memory : Reconciler} {s s' : Cluster}

theorem Served.answered {r : Req} {response : Response r} (served : Served s r response s') :
    Answered s r response s' := .inl served

theorem IsRead.exec_store {r : Req} (read : IsRead r) : (s.exec r).2 = s := by
  cases r with
  | get k key => exact Store.exec_get_store k key
  | list k selector => exact Store.exec_list_store k selector
  | mark point => rfl
  | create | update | updateStatus | patch | delete => cases read

theorem IsRead.unchanged {r : Req} {response : Response r} (read : IsRead r) (answered : Answered s r response s') :
    s' = s := by
  rcases answered.store with same | same
  · exact same
  · exact same.trans read.exec_store

@[grind ←]
theorem isRead_get (k : Kind) (key : Key) : IsRead (.get k key) := rfl

@[grind ←]
theorem isRead_list (k : Kind) (selector : Selector) : IsRead (.list k selector) := rfl

theorem unchanged_of_reads {ε α : Type} {routine : Op ε α} {log : List Exchange} {outcome : Except ε α × Reconciler}
    (issues : Issues IsRead routine) (runs : Prog.Runs Answered (routine memory) s log outcome s') : s' = s :=
  (issues memory).runs_rel (R := fun s s' => s' = s) (fun _ => rfl) (fun first second => second.trans first)
    (fun read answered => read.unchanged answered) runs

theorem served_of_reads {ε α β : Type} {routine : Op ε α} {next : α → Op ε β} {log : List Exchange} {value : β}
    {memory' : Reconciler} (looks : Looks IsRead routine)
    (runs : Prog.Runs Served ((routine >>= next) memory) s log (.ok value, memory') s') :
    ∃ first log₁ log₂, Prog.Runs Served (routine memory) s log₁ (.ok first, memory) s ∧
      Prog.Runs Served (next first memory) s log₂ (.ok value, memory') s' := by
  obtain ⟨first, memory₁, s₁, log₁, log₂, ran, rest, _⟩ := of_runs_bind runs
  obtain rfl := unchanged_of_reads looks.1 (ran.mono Served.answered)
  obtain ⟨rfl, _⟩ := looks.runs ran
  exact ⟨first, log₁, log₂, ran, rest⟩

/-- The server hands out this object. -/
def Readable {k : Kind} (s : Cluster) (key : Key) (object : Object k) : Prop :=
  s.served k = true ∧ s.find? k key = some object

theorem Readable.exec {k : Kind} {key : Key} {object : Object k} (readable : Readable s key object) :
    s.exec (.get k key : Req) = (.ok object, s) := by
  simp only [Store.exec, readable.1, if_true, readable.2]

theorem Readable.answered {k : Kind} {key : Key} {object : Object k} (readable : Readable s key object) :
    Answered s (.get k key) (.ok object) s := .inl readable.exec.symm

theorem readable_of_answered {k : Kind} {key : Key} {object : Object k} {s' : Cluster}
    (answered : Answered s (.get k key) (.ok object) s') : Readable s key object := by
  refine ⟨?_, answered.get_ok.2⟩
  rcases answered with real | ⟨error, _, failure, _⟩
  · by_contra unserved
    simp only [Store.exec, unserved] at real
    cases real
  · cases failure

theorem clientGet_runs {k : Kind} {key : Key} {log : List Exchange} {s' : Cluster} {memory' : Reconciler}
    {result : Except Err (Object k)}
    (runs : Prog.Runs Answered (clientGet k key memory) s log (result, memory') s') :
    memory' = memory ∧ s' = s ∧ ((∃ object, result = .ok object ∧ Readable s (scopedKey k key) object) ∨
      ∃ error, result = .error (.api error)) := by
  obtain ⟨response, answered, rfl, ended⟩ := call_runs (.get k (scopedKey k key)) id runs
  cases response with
  | error error =>
    cases ended
    exact ⟨rfl, answered.get_error.1, .inr ⟨error, rfl⟩⟩
  | ok object =>
    cases ended
    exact ⟨rfl, answered.get_ok.1, .inl ⟨object, rfl, readable_of_answered answered⟩⟩

theorem clientGet_reads {k : Kind} {key : Key} {object : Object k}
    (readable : Readable s (scopedKey k key) object) :
    Prog.Runs Answered (clientGet k key memory) s [⟨.get k (scopedKey k key), .ok object⟩] (.ok object, memory) s :=
  .call _ readable.answered .pure

theorem find?_of_created {k : Kind} {object answer : Object k}
    (answered : Answered s (.create k object) (.ok answer) s') :
    s'.find? k object.key = some (s.newborn object) := by
  obtain ⟨absent, _, rfl⟩ := answered.create_ok
  exact Store.find?_insertNew absent

theorem find?_of_updated {k : Kind} {key : Key} {existing object answer : Object k}
    (answered : Answered s (.update k object) (.ok answer) s') (sameKey : object.key = key)
    (found : s.find? k key = some existing)
    (finalizers : object.metadata.finalizers = existing.metadata.finalizers) :
    s'.find? k key = some (s.stamp (Store.updated existing object)) := by
  obtain ⟨stored, known, _, _, rfl⟩ := answered.update_ok
  rw [sameKey] at known
  obtain rfl : existing = stored := Option.some.inj (found.symm.trans known)
  exact Store.find?_settle_kept found sameKey rfl finalizers rfl

end SandboxedContainers
