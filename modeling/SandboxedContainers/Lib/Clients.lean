import SandboxedContainers.Lib.Machine

/-!
# Several clients of one service

Each client runs a program of its own; the requests of all of them are answered
one after another, in any order, and other parties act in between.  A call may
also be given up before it ends.

`Clients.Sound` is the rule for such executions: every client relies on what the
others do to the world, and guarantees it to them by what its requests are allowed
to be.  Each client is then `Safe` on its own.
-/

namespace SandboxedContainers.Lib

structure Clients (Req : Type) (Resp : Req → Type) (W Name Input Out : Type) where
  body : Name → Input → Prog Req Resp Out
  answer : Name → W → (r : Req) → Resp r → W → Prop
  start : Name → Input → W → W → Prop
  /-- The call is over, or has been given up. -/
  leave : Name → W → W → Prop
  env : W → W → Prop

/-- What each client has left to run of the call it is in. -/
abbrev Threads (Req : Type) (Resp : Req → Type) (Name Input Out : Type) :=
  Name → Option (Input × Prog Req Resp Out)

namespace Clients

variable {Req : Type} {Resp : Req → Type} {W Name Input Out : Type} [DecidableEq Name]

inductive Step (K : Clients Req Resp W Name Input Out) :
    Threads Req Resp Name Input Out × W → Threads Req Resp Name Input Out × W → Prop where
  | start {threads w w'} (name : Name) (input : Input) : threads name = none → K.start name input w w' →
      Step K (threads, w) (Function.update threads name (some (input, K.body name input)), w')
  | call {threads w w'} {name : Name} {input : Input} {r next} (response : Resp r) :
      threads name = some (input, .call r next) → K.answer name w r response w' →
      Step K (threads, w) (Function.update threads name (some (input, next response)), w')
  | leave {threads w w'} (name : Name) : K.leave name w w' →
      Step K (threads, w) (Function.update threads name none, w')
  | env {threads w w'} : K.env w w' → Step K (threads, w) (threads, w')

/-- What can be reached when no client is in a call at first. -/
inductive Reachable (K : Clients Req Resp W Name Input Out) (init : W → Prop) :
    Threads Req Resp Name Input Out × W → Prop where
  | boot {w} : init w → Reachable K init (fun _ => none, w)
  | step {state state'} : Reachable K init state → K.Step state state' → Reachable K init state'

/-- The world as one client sees it. -/
def machine (K : Clients Req Resp W Name Input Out) (rely : Name → W → W → Prop) (name : Name) :
    Machine Req Resp W where
  answer := K.answer name
  env := rely name

/-- The obligations of the rule for clients. -/
structure Sound (K : Clients Req Resp W Name Input Out) (init inv : W → Prop)
    (rely : Name → W → W → Prop) (C : Name → Contract Req W) (post : Name → Input → Out → W → Prop) : Prop where
  init : ∀ w, init w → inv w
  start : ∀ name input w w', inv w → K.start name input w w' →
    inv w' ∧ Safe (K.machine rely name) (C name) (post name input) (K.body name input) w' ∧
      ∀ other, other ≠ name → rely other w w'
  call : ∀ name w r response w', inv w → (C name).good w r → K.answer name w r response w' →
    inv w' ∧ ∀ other, other ≠ name → rely other w w'
  leave : ∀ name w w', inv w → K.leave name w w' → inv w' ∧ ∀ other, other ≠ name → rely other w w'
  env : ∀ w w', inv w → K.env w w' → inv w' ∧ ∀ name, rely name w w'

/-- What `Sound` promises about a state. -/
structure Holds (K : Clients Req Resp W Name Input Out) (inv : W → Prop) (rely : Name → W → W → Prop)
    (C : Name → Contract Req W) (post : Name → Input → Out → W → Prop)
    (state : Threads Req Resp Name Input Out × W) : Prop where
  inv : inv state.2
  safe : ∀ {name input program}, state.1 name = some (input, program) →
    Safe (K.machine rely name) (C name) (post name input) program state.2

variable {K : Clients Req Resp W Name Input Out} {init inv : W → Prop} {rely : Name → W → W → Prop}
  {C : Name → Contract Req W} {post : Name → Input → Out → W → Prop}

theorem Holds.update {threads : Threads Req Resp Name Input Out} {w w' : W} {name : Name}
    {thread : Option (Input × Prog Req Resp Out)} (holds : K.Holds inv rely C post (threads, w)) (kept : inv w')
    (own : ∀ {input program}, thread = some (input, program) →
      Safe (K.machine rely name) (C name) (post name input) program w')
    (others : ∀ other, other ≠ name → rely other w w') :
    K.Holds inv rely C post (Function.update threads name thread, w') where
  inv := kept
  safe {other input program} found := by
    by_cases same : other = name
    · subst same
      exact own (by simpa using found)
    · have before : threads other = some (input, program) := by simpa [same] using found
      exact (holds.safe before).drift (.single (others other same))

theorem Sound.step (sound : K.Sound init inv rely C post)
    {state state' : Threads Req Resp Name Input Out × W} (holds : K.Holds inv rely C post state)
    (step : K.Step state state') : K.Holds inv rely C post state' := by
  cases step with
  | start name input _ started =>
    obtain ⟨kept, safe, others⟩ := sound.start name input _ _ holds.inv started
    refine holds.update kept ?_ others
    rintro _ _ ⟨rfl⟩
    exact safe
  | call response thread answered =>
    obtain ⟨_, good, rest⟩ := holds.safe thread _ .refl
    obtain ⟨kept, others⟩ := sound.call _ _ _ response _ holds.inv good answered
    refine holds.update kept ?_ others
    rintro _ _ ⟨rfl⟩
    exact rest response _ answered
  | leave name left =>
    obtain ⟨kept, others⟩ := sound.leave name _ _ holds.inv left
    refine holds.update kept ?_ others
    rintro _ _ ⟨⟩
  | env changed =>
    obtain ⟨kept, everyone⟩ := sound.env _ _ holds.inv changed
    exact ⟨kept, fun thread => (holds.safe thread).drift (.single (everyone _))⟩

theorem Sound.holds (sound : K.Sound init inv rely C post) {state : Threads Req Resp Name Input Out × W}
    (reachable : K.Reachable init state) : K.Holds inv rely C post state := by
  induction reachable with
  | boot initial => exact ⟨sound.init _ initial, nofun⟩
  | step _ step ih => exact sound.step ih step

/-- One instruction of a concrete execution; `Choice` resolves the answer to a
request, `Change` names a change made by another party. -/
inductive Act (Name Input Choice Change : Type) where
  | start (name : Name) (input : Input)
  | answer (name : Name) (choice : Choice)
  | leave (name : Name)
  | env (change : Change)

/-- Executable transitions, each one a transition of the clients. -/
structure Player (K : Clients Req Resp W Name Input Out) (Choice Change : Type) where
  start : Name → Input → W → Option W
  answer : Name → Choice → W → (r : Req) → Option (Resp r × W)
  leave : Name → W → Option W
  env : Change → W → Option W
  start_sound : ∀ {name input w w'}, start name input w = some w' → K.start name input w w'
  answer_sound : ∀ {name choice w r response w'}, answer name choice w r = some (response, w') →
    K.answer name w r response w'
  leave_sound : ∀ {name w w'}, leave name w = some w' → K.leave name w w'
  env_sound : ∀ {change w w'}, env change w = some w' → K.env w w'

namespace Player

variable {Choice Change : Type}

def step (P : Player K Choice Change) (state : Threads Req Resp Name Input Out × W) :
    Act Name Input Choice Change → Option (Threads Req Resp Name Input Out × W)
  | .start name input =>
    if (state.1 name).isNone then
      (P.start name input state.2).map fun w' =>
        (Function.update state.1 name (some (input, K.body name input)), w')
    else none
  | .answer name choice =>
    match state.1 name with
    | some (input, .call r next) =>
      (P.answer name choice state.2 r).map fun answered =>
        (Function.update state.1 name (some (input, next answered.1)), answered.2)
    | _ => none
  | .leave name => (P.leave name state.2).map fun w' => (Function.update state.1 name none, w')
  | .env change => (P.env change state.2).map fun w' => (state.1, w')

theorem step_sound (P : Player K Choice Change) {state state' : Threads Req Resp Name Input Out × W}
    {act : Act Name Input Choice Change} (played : P.step state act = some state') : K.Step state state' := by
  cases act with
  | start name input =>
    obtain ⟨idle, played⟩ := Option.ite_none_right_eq_some.mp played
    obtain ⟨w', started, rfl⟩ := Option.map_eq_some_iff.mp played
    exact .start name input (Option.isNone_iff_eq_none.mp idle) (P.start_sound started)
  | answer name choice =>
    simp only [step] at played
    split at played
    · rename_i thread
      obtain ⟨⟨response, w'⟩, answered, rfl⟩ := Option.map_eq_some_iff.mp played
      exact .call response thread (P.answer_sound answered)
    · cases played
  | leave name =>
    obtain ⟨w', left, rfl⟩ := Option.map_eq_some_iff.mp played
    exact .leave name (P.leave_sound left)
  | env change =>
    obtain ⟨w', changed, rfl⟩ := Option.map_eq_some_iff.mp played
    exact .env (P.env_sound changed)

def play (P : Player K Choice Change) :
    Threads Req Resp Name Input Out × W → List (Act Name Input Choice Change) →
      Option (Threads Req Resp Name Input Out × W)
  | state, [] => some state
  | state, act :: acts => (P.step state act).bind fun state' => P.play state' acts

theorem play_reachable (P : Player K Choice Change) {acts : List (Act Name Input Choice Change)}
    {state state' : Threads Req Resp Name Input Out × W} (reachable : K.Reachable init state)
    (played : P.play state acts = some state') : K.Reachable init state' := by
  induction acts generalizing state with
  | nil =>
    obtain rfl : state = state' := by simpa [play] using played
    exact reachable
  | cons act acts ih =>
    obtain ⟨middle, first, rest⟩ := Option.bind_eq_some_iff.mp played
    exact ih (reachable.step (P.step_sound first)) rest

end Player

end Clients

end SandboxedContainers.Lib
