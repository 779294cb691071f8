import SandboxedContainers.Lib.Clients
import SandboxedContainers.Lineage

/-!
# Several clients of the cluster

Handlers that run at the same time, each one against the same server.  As with the
operator, a request is answered by the server or fails with an error that says
nothing, and other parties send requests of their own at any time.

An `Observer` records what a statement about executions refers to; `Limits` narrow
the executions down.
-/

namespace SandboxedContainers

open Lib

variable {Name Input Out G : Type}

structure Observer (Name Input G : Type) where
  start : Name → Input → Cluster → G → G := fun _ _ _ => id
  call : Name → Cluster → (r : Req) → Response r → Cluster → G → G
  leave : Name → Cluster → G → G := fun _ _ => id
  env : Cluster → Change → Cluster → G → G := fun _ _ _ => id

structure Limits (Name Input G : Type) where
  start : Name → Input → Cluster × G → Bool := fun _ _ _ => true
  answer : Name → Cluster × G → (r : Req) → Response r → Bool := fun _ _ _ _ => true
  env : Cluster × G → Change → Bool := fun _ _ => true

def clients (body : Name → Input → Prog Req Response Out) (observer : Observer Name Input G)
    (limits : Limits Name Input G) : Clients Req Response (Cluster × G) Name Input Out where
  body := body
  answer name w r response w' :=
    Answered w.1 r response w'.1 ∧ w'.2 = observer.call name w.1 r response w'.1 w.2 ∧
      limits.answer name w r response = true
  start name input w w' :=
    limits.start name input w = true ∧ w' = (w.1, observer.start name input w.1 w.2)
  leave name w w' := w' = (w.1, observer.leave name w.1 w.2)
  env w w' := ∃ change : Change,
    w' = (change.apply w.1, observer.env w.1 change (change.apply w.1) w.2) ∧ limits.env w change = true

def clientsPlayer [DecidableEq Name] (body : Name → Input → Prog Req Response Out)
    (observer : Observer Name Input G) (limits : Limits Name Input G) :
    (clients body observer limits).Player Fault Change where
  start name input w :=
    if limits.start name input w then some (w.1, observer.start name input w.1 w.2) else none
  answer name fault w r := (fault.answer w.1 r).bind fun answered =>
    if limits.answer name w r answered.1 then
      some (answered.1, answered.2, observer.call name w.1 r answered.1 answered.2 w.2)
    else none
  leave name w := some (w.1, observer.leave name w.1 w.2)
  env change w :=
    if limits.env w change then
      some (change.apply w.1, observer.env w.1 change (change.apply w.1) w.2)
    else none
  start_sound started := by
    obtain ⟨allowed, same⟩ := Option.ite_none_right_eq_some.mp started
    exact ⟨allowed, (Option.some.inj same).symm⟩
  answer_sound answered := by
    obtain ⟨⟨response, s'⟩, found, rest⟩ := Option.bind_eq_some_iff.mp answered
    obtain ⟨allowed, same⟩ := Option.ite_none_right_eq_some.mp rest
    cases same
    exact ⟨Fault.answer_sound found, rfl, allowed⟩
  leave_sound left := (Option.some.inj left).symm
  env_sound changed := by
    obtain ⟨allowed, same⟩ := Option.ite_none_right_eq_some.mp changed
    exact ⟨_, (Option.some.inj same).symm, allowed⟩

section Scripts

variable [DecidableEq Name] {body : Name → Input → Prog Req Response Out} {observer : Observer Name Input G}
  {limits : Limits Name Input G} {g : G}

def served (name : Name) (count : Nat) : List (Clients.Act Name Input Fault Change) :=
  List.replicate count (.answer name .served)

def requested (requests : List Req) : List (Clients.Act Name Input Fault Change) :=
  requests.map fun r => .env (.request r)

def leadsTo (body : Name → Input → Prog Req Response Out) (observer : Observer Name Input G)
    (limits : Limits Name Input G) (g : G) (script : List (Clients.Act Name Input Fault Change))
    (check : Threads Req Response Name Input Out × Cluster × G → Bool) : Bool :=
  ((clientsPlayer body observer limits).play (fun _ => none, (.empty fun _ => true, g)) script).any check

theorem reachable_of_leadsTo (init : Cluster × G → Prop) {script : List (Clients.Act Name Input Fault Change)}
    {check : Threads Req Response Name Input Out × Cluster × G → Bool} (start : init (.empty fun _ => true, g))
    (leads : leadsTo body observer limits g script check = true) :
    ∃ threads w, (clients body observer limits).Reachable init (threads, w) ∧ check (threads, w) = true := by
  obtain ⟨⟨threads, w⟩, played, passes⟩ := (Option.any_eq_true _ _).mp leads
  exact ⟨threads, w, (clientsPlayer body observer limits).play_reachable (.boot start) played, passes⟩

end Scripts

end SandboxedContainers
