import SandboxedContainers.Concurrency
import SandboxedContainers.Runs

/-!
# Admission of KataConfigs

The webhook that looks at a `KataConfig` before it is created lists those that exist
and refuses a second one.  The server stores an admitted one later, and meanwhile
other requests are looked at.
-/

namespace SandboxedContainers

open Lib Routine

/-- `ValidateCreate`; the submitted object is only logged. -/
def validateCreate (_ : KataConfig) : Op Err PUnit := do
  let kataConfigList ← (clientList .kataConfig).orElse fun error =>
    .new ("Failed to list KataConfig custom resources: " ++ error.message)
  if kataConfigList.length = 1 then
    Routine.throw (.new "A KataConfig instance already exists, refusing to create a duplicate")

/-- A user's request: the webhook is asked, and an admitted object is stored. -/
def createKataConfig (object : KataConfig) : Op Err PUnit := do
  validateCreate object
  let _ ← clientCreate object
  return ⟨⟩

def refuses (s : Cluster) (object : KataConfig) : Bool :=
  match (validateCreate object {}).eval Store.exec s with
  | ((.error _, _), _) => true
  | ((.ok _, _), _) => false

def admittedRequests : Observer Nat KataConfig (List Nat) where
  call request _ r response _ pending := match r, response with
    | .list .kataConfig _, .ok kataConfigs =>
      if kataConfigs.length = 1 then pending else request :: pending
    | .create .kataConfig _, _ => pending.filter (· ≠ request)
    | _, _ => pending
  leave request _ pending := pending.filter (· ≠ request)

/-- A `KataConfig` comes to exist through a request that goes past the webhook only. -/
def Change.isAdmitted : Change → Bool
  | .request (.create k _) => k ≠ .kataConfig
  | _ => true

def throughWebhook : Limits Nat KataConfig (List Nat) where
  env _ change := change.isAdmitted

/-- Besides, the webhook looks at a request only when no admitted one is outstanding. -/
def oneAtATime : Limits Nat KataConfig (List Nat) where
  env _ change := change.isAdmitted
  answer _ w r _ := match r with
    | .list .kataConfig _ => w.2.isEmpty
    | _ => true

def decision : Except ApiError (List KataConfig) → Except Err PUnit
  | .error error => .error (.new ("Failed to list KataConfig custom resources: " ++ error.message))
  | .ok kataConfigs =>
    if kataConfigs.length = 1 then
      .error (.new "A KataConfig instance already exists, refusing to create a duplicate")
    else .ok ⟨⟩

theorem validateCreate_eq (object : KataConfig) (memory : Reconciler) : validateCreate object memory =
      .call (.list .kataConfig []) fun response => .pure (decision response, memory) := by
  refine congrArg (Prog.call (Request.list Kind.kataConfig [])) (funext fun response => ?_)
  cases response with
  | error error => rfl
  | ok kataConfigs =>
    change (if kataConfigs.length = 1 then _ else _ : Op Err PUnit) memory = .pure (if _ then _ else _, memory)
    split <;> rfl

theorem refuses_iff {s : Cluster} {object : KataConfig} :
    refuses s object = true ↔ s.served .kataConfig = false ∨ (kataConfigs s).length = 1 := by
  have all : ((s.objs .kataConfig).items.filter fun kataConfig =>
      Selector.accepts [] kataConfig.metadata.labels) = kataConfigs s := by
    simp [Selector.accepts, kataConfigs]
  simp only [refuses, validateCreate_eq, Prog.eval, Store.exec, all]
  cases s.served .kataConfig with
  | false => simp [decision]
  | true =>
    by_cases single : (kataConfigs s).length = 1
    · simp [decision, single]
    · simp [decision, single]

namespace Admission

/-- There is one `KataConfig` at most, or there will be. -/
structure Sole (w : Cluster × List Nat) : Prop where
  single : (kataConfigs w.1).length ≤ 1
  vacant : w.2 ≠ [] → kataConfigs w.1 = []
  outstanding : w.2.length ≤ 1

def rely (request : Nat) (w w' : Cluster × List Nat) : Prop := request ∈ w.2 → request ∈ w'.2

/-- A request asks the webhook, and stores its object only if it is outstanding. -/
def contract (request : Nat) : Contract Req (Cluster × List Nat) where
  good w r := match r with
    | .list .kataConfig selector => selector = []
    | .create .kataConfig _ => request ∈ w.2
    | _ => False
  mid _ := True

abbrev system (limits : Limits Nat KataConfig (List Nat)) :=
  clients (fun _ object => createKataConfig object {}) admittedRequests limits

abbrev machine (request : Nat) : Machine Req Response (Cluster × List Nat) :=
  (system oneAtATime).machine rely request

abbrev Outstanding (request : Nat) : Reconciler → Cluster × List Nat → Prop := World fun w => request ∈ w.2

section Requests

variable {request : Nat}

instance : Invariant (machine request) (contract request) (World fun _ => True) :=
  world_invariant (fun _ _ _ => id) fun _ => id

instance : Invariant (machine request) (contract request) (Outstanding request) :=
  world_invariant (fun _ _ => id) fun _ _ => trivial

instance {α : Type} : (result : Except Err α) → Invariant (machine request) (contract request)
    (Leaves (fun _ => Outstanding request) (World fun _ => True) result) := inferInstance

theorem list_triple : Triple (machine request) (contract request) (World fun _ => True) (clientList .kataConfig)
    (Leaves (fun kataConfigs => World fun w => kataConfigs.length ≠ 1 → request ∈ w.2) (World fun _ => True)) := by
  have listed (kataConfigs : List KataConfig) : Invariant (machine request) (contract request)
      (World fun w => kataConfigs.length ≠ 1 → request ∈ w.2) :=
    world_invariant (fun _ _ relied admitted several => relied (admitted several)) fun _ _ => trivial
  refine clientList_triple (fun _ _ _ => rfl) ?_ (fun _ _ _ _ _ _ => trivial)
  rintro memory w kataConfigs w' _ ⟨_, recorded, _⟩ several
  rw [recorded]
  simp [admittedRequests, several]

theorem validate_triple (object : KataConfig) :
    Triple (machine request) (contract request) (World fun _ => True) (validateCreate object)
      (Leaves (fun _ => Outstanding request) (World fun _ => True)) := by
  have listed (kataConfigs : List KataConfig) : Invariant (machine request) (contract request)
      (World fun w => kataConfigs.length ≠ 1 → request ∈ w.2) :=
    world_invariant (fun _ _ relied admitted several => relied (admitted several)) fun _ _ => trivial
  refine Triple.bind list_triple.orElse_leaves (fun kataConfigs => ?_) fun _ _ _ _ => trivial
  split
  · exact triple_throw fun _ _ _ => trivial
  · rename_i several
    exact triple_pure fun _ _ admitted => admitted several

theorem create_triple (object : KataConfig) : Triple (machine request) (contract request) (World fun _ => True)
    (createKataConfig object) fun _ => World fun _ => True := by
  refine Triple.bind (validate_triple object) (fun _ => ?_) fun _ _ _ _ => trivial
  refine Triple.bind (Q := fun _ => World fun _ => True) (clientCreate_triple (fun _ _ => id)
    (fun _ _ _ _ _ _ => trivial) fun _ _ _ _ _ _ => trivial) (fun _ => ?_) fun _ _ _ _ => trivial
  exact triple_pure fun _ _ _ => trivial

end Requests

theorem length_le_of_change {s : Cluster} {change : Change} (admitted : change.isAdmitted = true) :
    (kataConfigs (change.apply s)).length ≤ (kataConfigs s).length := by
  cases change with
  | serve | deliver | enqueue => exact le_refl _
  | request r =>
    refine Collection.length_le fun after member => ?_
    rcases Store.exec_mem_cases member with old | ⟨submitted, rfl, _⟩ | ⟨stored, merged, rewrites, _, rfl⟩
    · exact ⟨after, old, rfl⟩
    · cases admitted
    · exact ⟨stored, rewrites.mem, rewrites.sameUid.symm⟩

theorem Sole.fewer {s s' : Cluster} {pending pending' : List Nat} (sole : Sole (s, pending))
    (objects : (kataConfigs s').length ≤ (kataConfigs s).length) (requests : pending'.length ≤ pending.length) :
    Sole (s', pending') := by
  refine ⟨objects.trans sole.single, fun outstanding => ?_, requests.trans sole.outstanding⟩
  have before : pending ≠ [] := by
    rintro rfl
    exact outstanding (List.eq_nil_of_length_eq_zero (Nat.le_zero.mp requests))
  have none : (kataConfigs s).length = 0 := by
    have vacant : kataConfigs s = [] := sole.vacant before
    rw [vacant]
    rfl
  exact List.eq_nil_of_length_eq_zero (Nat.le_zero.mp (objects.trans_eq none))

theorem Sole.listed {request : Nat} {w w' : Cluster × List Nat} {selector : Selector}
    {response : Response (.list .kataConfig selector : Req)} (sole : Sole w)
    (reply : (system oneAtATime).answer request w (.list .kataConfig selector) response w')
    (everything : selector = []) : Sole w' := by
  obtain ⟨answered, recorded, allowed⟩ := reply
  have none : w.2 = [] := List.isEmpty_iff.mp allowed
  subst everything
  cases response with
  | error error =>
    have same : w'.1 = w.1 := answered.list_error.1
    exact ⟨same ▸ sole.single, fun some => absurd (recorded.trans none) some, by rw [recorded]; exact sole.outstanding⟩
  | ok listed =>
    obtain ⟨same, _, all⟩ := answered.list_ok
    have exact : listed = kataConfigs w.1 := by simpa [Selector.accepts, kataConfigs] using all
    have outstanding : w'.2 = if listed.length = 1 then [] else [request] := by
      rw [recorded, ← none]
      rfl
    refine ⟨same ▸ sole.single, fun some => ?_, ?_⟩
    · have several : listed.length ≠ 1 := by
        rintro single
        rw [outstanding, if_pos single] at some
        exact some rfl
      have bound := sole.single
      rw [same]
      rw [exact] at several
      exact List.eq_nil_of_length_eq_zero (by omega)
    · rw [outstanding]
      split <;> simp

theorem Sole.only {request : Nat} {w : Cluster × List Nat} (sole : Sole w) (outstanding : request ∈ w.2) :
    w.2 = [request] := by
  obtain ⟨single, same⟩ := List.length_eq_one_iff.mp
    (Nat.le_antisymm sole.outstanding (List.length_pos_of_mem outstanding))
  rw [same, List.mem_singleton] at outstanding
  rw [same, outstanding]

theorem Sole.created {request : Nat} {w w' : Cluster × List Nat} {object : KataConfig}
    {response : Response (.create .kataConfig object : Req)} (sole : Sole w) (outstanding : request ∈ w.2)
    (reply : (system oneAtATime).answer request w (.create .kataConfig object) response w') : Sole w' := by
  obtain ⟨answered, recorded, _⟩ := reply
  have settled : w'.2 = [] := by
    rw [recorded]
    simp [admittedRequests, sole.only outstanding]
  have before : kataConfigs w.1 = [] := sole.vacant (List.ne_nil_of_mem outstanding)
  refine ⟨?_, fun some => absurd settled some, by simp [settled]⟩
  rcases answered.store with same | carriedOut
  · rw [same, before]
    simp
  rcases Store.exec_create_cases (P := Mark) (s := w.1) object with ⟨_, refused⟩ | ⟨_, added⟩
  · rw [carriedOut, refused, before]
    simp
  · rw [carriedOut, added]
    have bound := Collection.length_add_le (w.1.objs .kataConfig) (w.1.newborn object)
    have none : (w.1.objs .kataConfig).items = [] := before
    simpa [kataConfigs, Store.insertNew, none] using bound

theorem call_sole {request : Nat} {w w' : Cluster × List Nat} {r : Req} {response : Response r}
    (sole : Sole w) (good : (contract request).good w r) (reply : (system oneAtATime).answer request w r response w') :
    Sole w' ∧ ∀ other, other ≠ request → rely other w w' := by
  simp only [contract] at good
  split at good
  · refine ⟨sole.listed reply good, fun other _ outstanding => ?_⟩
    have none : w.2 = [] := List.isEmpty_iff.mp reply.2.2
    rw [none] at outstanding
    cases outstanding
  · refine ⟨sole.created good reply, fun other differs outstanding => ?_⟩
    rw [sole.only good, List.mem_singleton] at outstanding
    exact absurd outstanding differs
  · exact good.elim

theorem sound : (system oneAtATime).Sound (fun w => kataConfigs w.1 = [] ∧ w.2 = []) Sole rely contract
    fun _ _ _ _ => True where
  init w start := ⟨by simp [start.1], fun _ => start.1, by simp [start.2]⟩
  start := by
    rintro request object w _ sole ⟨_, rfl⟩
    exact ⟨sole, (create_triple object {} _ trivial).mono fun _ _ _ _ => trivial, fun _ _ => id⟩
  call request w r response w' sole good reply := call_sole sole good reply
  leave := by
    rintro request w _ sole rfl
    refine ⟨sole.fewer (le_refl _) (List.length_filter_le _ _), fun other differs member => ?_⟩
    exact List.mem_filter.mpr ⟨member, by simpa using differs⟩
  env := by
    rintro w _ sole ⟨change, rfl, admitted⟩
    exact ⟨sole.fewer (length_le_of_change admitted) (le_refl _), fun _ => id⟩

end Admission

/-- If the webhook looks at a request only when no admitted one is outstanding, there is
one `KataConfig` at most at any time, and while there is one the webhook refuses.  On any
cluster that serves the kind it refuses exactly if there is one. -/
theorem kataConfig_unique {threads : Threads Req Response Nat KataConfig (Except Err PUnit × Reconciler)}
    {w : Cluster × List Nat}
    (reached : (clients (fun _ object => createKataConfig object {}) admittedRequests oneAtATime).Reachable
      (fun w => kataConfigs w.1 = [] ∧ w.2 = []) (threads, w)) :
    ((kataConfigs w.1).length ≤ 1 ∧ (kataConfigs w.1 ≠ [] → ∀ object, refuses w.1 object = true)) ∧
      ∀ (s : Cluster) (object : KataConfig), s.served .kataConfig = true →
        (refuses s object = true ↔ (kataConfigs s).length = 1) := by
  have sole := (Admission.sound.holds reached).inv
  refine ⟨⟨sole.single, fun some object => refuses_iff.mpr (.inr ?_)⟩, fun s object serves => ?_⟩
  · exact Nat.le_antisymm sole.single (List.length_pos_iff.mpr some)
  · simp [refuses_iff, serves]

def secondKataConfig : KataConfig := ⟨{ name := "second" }, show KataConfigBody from {}⟩

/-- One request after the other: the second one is refused. -/
theorem kataConfig_unique_serial : ∃ w : Cluster × List Nat, kataConfigs w.1 ≠ [] ∧
    (kataConfigs w.1).length ≤ 1 ∧ refuses w.1 secondKataConfig = true := by
  have leads : leadsTo (fun _ object => createKataConfig object {}) admittedRequests oneAtATime []
      ([.start 1 exampleKataConfig] ++ served 1 2 ++ [.start 2 secondKataConfig] ++ served 2 1)
      (fun state => !(kataConfigs state.2.1).isEmpty) = true := by
    decide +kernel
  obtain ⟨threads, w, reached, checked⟩ :=
    reachable_of_leadsTo (fun w => kataConfigs w.1 = [] ∧ w.2 = []) ⟨rfl, rfl⟩ leads
  have some : kataConfigs w.1 ≠ [] := by
    rintro none
    simp [none] at checked
  obtain ⟨⟨single, refused⟩, _⟩ := kataConfig_unique reached
  exact ⟨w, some, single, refused some secondKataConfig⟩

/-- Two requests are admitted before either object is stored; then there are two, and the
webhook admits a third. -/
theorem kataConfigs_duplicated : ∃ threads w,
    (clients (fun _ object => createKataConfig object {}) admittedRequests throughWebhook).Reachable
      (fun w => kataConfigs w.1 = [] ∧ w.2 = []) (threads, w) ∧
    (kataConfigs w.1).length = 2 ∧ refuses w.1 ⟨{ name := "third" }, show KataConfigBody from {}⟩ = false := by
  have leads : leadsTo (fun _ object => createKataConfig object {}) admittedRequests throughWebhook []
      ([.start 1 exampleKataConfig, .start 2 secondKataConfig] ++ served 1 1 ++ served 2 1 ++ served 1 1 ++ served 2 1)
      (fun state => (kataConfigs state.2.1).length = 2 &&
        !refuses state.2.1 ⟨{ name := "third" }, show KataConfigBody from {}⟩) = true := by
    decide +kernel
  obtain ⟨threads, w, reached, checked⟩ :=
    reachable_of_leadsTo (fun w => kataConfigs w.1 = [] ∧ w.2 = []) ⟨rfl, rfl⟩ leads
  obtain ⟨two, admitted⟩ := Bool.and_eq_true_iff.mp checked
  exact ⟨threads, w, reached, of_decide_eq_true two, by simpa using admitted⟩

end SandboxedContainers
