import SandboxedContainers.Lib.Machine

/-!
# Controllers that run again and again

A `Controller` runs its program over and over: each run starts with the memory
the previous one left, ends normally, or is killed, and then the next run
starts with the memory of a fresh process.  Other parties act at any time.

`Controller.Sound` packages the induction over such executions: an invariant
for the idle controller, kept by the others and by a crash, and a `Safe` body,
give the invariant and the contract in every reachable state.

`Controller.Player` makes the transitions executable, so that a single concrete
execution can be evaluated.
-/

namespace SandboxedContainers.Lib

/-- A machine with a program that is run repeatedly. -/
structure Controller (Req : Type) (Resp : Req → Type) (W Mem Input Out : Type)
    extends Machine Req Resp W where
  body : Input → Mem → Prog Req Resp (Out × Mem)
  /-- The memory of a process that has just started. -/
  boot : Mem
  start : Input → W → W → Prop
  finish : Out → W → W → Prop
  crash : W → W → Prop

/-- Between two runs, or inside one with the given program left to run. -/
inductive Phase (Req : Type) (Resp : Req → Type) (Mem Out : Type) where
  | idle (memory : Mem)
  | running (program : Prog Req Resp (Out × Mem))

namespace Controller

variable {Req : Type} {Resp : Req → Type} {W Mem Input Out : Type}

inductive Step (K : Controller Req Resp W Mem Input Out) :
    Phase Req Resp Mem Out × W → Phase Req Resp Mem Out × W → Prop where
  | start {memory w w'} (input : Input) :
      K.start input w w' → Step K (.idle memory, w) (.running (K.body input memory), w')
  | call {r next w w'} (response : Resp r) :
      K.answer w r response w' → Step K (.running (.call r next), w) (.running (next response), w')
  | finish {outcome memory w w'} :
      K.finish outcome w w' → Step K (.running (.pure (outcome, memory)), w) (.idle memory, w')
  | crash {phase w w'} : K.crash w w' → Step K (phase, w) (.idle K.boot, w')
  | env {phase w w'} : K.env w w' → Step K (phase, w) (phase, w')

/-- What a fresh process can reach from a world satisfying `init`. -/
inductive Reachable (K : Controller Req Resp W Mem Input Out) (init : W → Prop) :
    Phase Req Resp Mem Out × W → Prop where
  | boot {w} : init w → Reachable K init (.idle K.boot, w)
  | step {state state'} : Reachable K init state → K.Step state state' → Reachable K init state'

/-- Some execution issues the request in the world `w`. -/
def Issues (K : Controller Req Resp W Mem Input Out) (init : W → Prop) (w : W) (r : Req) : Prop :=
  ∃ next, K.Reachable init (.running (.call r next), w)

/-- The obligations of the invariant rule. -/
structure Sound (K : Controller Req Resp W Mem Input Out) (init : W → Prop)
    (C : Contract Req W) (Idle : Mem → W → Prop) (post : Out × Mem → W → Prop) : Prop where
  init : ∀ w, init w → Idle K.boot w
  env : ∀ memory, K.toMachine.Stable (Idle memory)
  body : ∀ input memory w w', Idle memory w → K.start input w w' →
    Safe K.toMachine C post (K.body input memory) w'
  finish : ∀ outcome memory w w', post (outcome, memory) w → K.finish outcome w w' →
    Idle memory w'
  crash : ∀ memory w w', Idle memory w → K.crash w w' → Idle K.boot w'
  killed : ∀ w w', C.mid w → K.crash w w' → Idle K.boot w'

/-- What `Sound` promises about a phase. -/
def Holds (K : Controller Req Resp W Mem Input Out) (C : Contract Req W)
    (Idle : Mem → W → Prop) (post : Out × Mem → W → Prop) :
    Phase Req Resp Mem Out × W → Prop
  | (.idle memory, w) => Idle memory w
  | (.running program, w) => Safe K.toMachine C post program w

variable {K : Controller Req Resp W Mem Input Out} {init : W → Prop} {C : Contract Req W}
  {Idle : Mem → W → Prop} {post : Out × Mem → W → Prop}

theorem Sound.step (sound : K.Sound init C Idle post)
    {state state' : Phase Req Resp Mem Out × W} (holds : K.Holds C Idle post state)
    (step : K.Step state state') : K.Holds C Idle post state' := by
  cases step with
  | start input started => exact sound.body input _ _ _ holds started
  | call response answered => exact (holds _ .refl).2.2 response _ answered
  | finish finished => exact sound.finish _ _ _ _ (holds _ .refl).2 finished
  | @crash phase w w' crashed =>
    cases phase with
    | idle memory => exact sound.crash memory _ _ holds crashed
    | running program => exact sound.killed _ _ (Safe.mid holds) crashed
  | @env phase w w' changed =>
    cases phase with
    | idle memory => exact sound.env memory changed holds
    | running program => exact Safe.drift holds (.single changed)

theorem Sound.holds (sound : K.Sound init C Idle post)
    {state : Phase Req Resp Mem Out × W} (reachable : K.Reachable init state) :
    K.Holds C Idle post state := by
  induction reachable with
  | boot initial => exact sound.init _ initial
  | step _ step ih => exact sound.step ih step

theorem Sound.good (sound : K.Sound init C Idle post) {w : W} {r : Req}
    (issued : K.Issues init w r) : C.good w r := by
  obtain ⟨next, reachable⟩ := issued
  exact (sound.holds reachable w .refl).2.1

/-- The controller does everything the first one does, as far as `view` can tell. -/
structure Covers (K : Controller Req Resp W Mem Input Out) (init : W → Prop)
    {W' : Type} (K' : Controller Req Resp W' Mem Input Out) (init' : W' → Prop) (view : W → W') :
    Prop where
  body : K'.body = K.body
  boot : K'.boot = K.boot
  initial : ∀ w, init w → init' (view w)
  answer : ∀ {w r response w'}, K.Issues init w r → K.answer w r response w' →
    K'.answer (view w) r response (view w')
  env : ∀ {w w'}, K.env w w' → K'.env (view w) (view w')
  start : ∀ {input w w'}, K.start input w w' → K'.start input (view w) (view w')
  finish : ∀ {outcome w w'}, K.finish outcome w w' → K'.finish outcome (view w) (view w')
  crash : ∀ {phase w w'}, K.Reachable init (phase, w) → K.crash w w' → K'.crash (view w) (view w')

theorem Covers.reachable {W' : Type} {K' : Controller Req Resp W' Mem Input Out}
    {init' : W' → Prop} {view : W → W'} (covers : Covers K init K' init' view)
    {phase : Phase Req Resp Mem Out} {w : W} (reachable : K.Reachable init (phase, w)) :
    K'.Reachable init' (phase, view w) := by
  generalize same : (phase, w) = state at reachable
  induction reachable generalizing phase w with
  | boot initial =>
    cases same
    rw [← covers.boot]
    exact .boot (covers.initial _ initial)
  | step before step ih =>
    subst same
    cases step with
    | start input started =>
      rw [← covers.body]
      exact (ih rfl).step (.start input (covers.start started))
    | call response answered =>
      exact (ih rfl).step (.call response (covers.answer ⟨_, before⟩ answered))
    | finish finished => exact (ih rfl).step (.finish (covers.finish finished))
    | crash crashed =>
      rw [← covers.boot]
      exact (ih rfl).step (.crash (covers.crash before crashed))
    | env changed => exact (ih rfl).step (.env (covers.env changed))

/-- One instruction of a concrete execution; `Choice` resolves the answer to a
request, `Change` names a change made by another party. -/
inductive Act (Input Choice Change : Type) where
  | start (input : Input)
  | answer (choice : Choice)
  | finish
  | crash
  | env (change : Change)

/-- Executable transitions, each one a transition of the controller. -/
structure Player (K : Controller Req Resp W Mem Input Out) (Choice Change : Type) where
  start : Input → W → Option W
  answer : Choice → W → (r : Req) → Option (Resp r × W)
  finish : Out → W → Option W
  crash : W → Option W
  env : Change → W → Option W
  start_sound : ∀ {input w w'}, start input w = some w' → K.start input w w'
  answer_sound : ∀ {choice w r response w'}, answer choice w r = some (response, w') →
    K.answer w r response w'
  finish_sound : ∀ {outcome w w'}, finish outcome w = some w' → K.finish outcome w w'
  crash_sound : ∀ {w w'}, crash w = some w' → K.crash w w'
  env_sound : ∀ {change w w'}, env change w = some w' → K.env w w'

namespace Player

variable {Choice Change : Type}

def step (P : Player K Choice Change) :
    Phase Req Resp Mem Out × W → Act Input Choice Change → Option (Phase Req Resp Mem Out × W)
  | (.idle memory, w), .start input =>
    (P.start input w).map fun w' => (.running (K.body input memory), w')
  | (.running (.call r next), w), .answer choice =>
    (P.answer choice w r).map fun answered => (.running (next answered.1), answered.2)
  | (.running (.pure (outcome, memory)), w), .finish =>
    (P.finish outcome w).map fun w' => (.idle memory, w')
  | (_, w), .crash => (P.crash w).map fun w' => (.idle K.boot, w')
  | (phase, w), .env change => (P.env change w).map fun w' => (phase, w')
  | _, _ => none

theorem step_sound (P : Player K Choice Change) {state state' : Phase Req Resp Mem Out × W}
    {act : Act Input Choice Change} (played : P.step state act = some state') :
    K.Step state state' := by
  unfold step at played
  split at played
  · obtain ⟨w', started, rfl⟩ := Option.map_eq_some_iff.mp played
    exact .start _ (P.start_sound started)
  · obtain ⟨⟨response, w'⟩, answered, rfl⟩ := Option.map_eq_some_iff.mp played
    exact .call _ (P.answer_sound answered)
  · obtain ⟨w', finished, rfl⟩ := Option.map_eq_some_iff.mp played
    exact .finish (P.finish_sound finished)
  · obtain ⟨w', crashed, rfl⟩ := Option.map_eq_some_iff.mp played
    exact .crash (P.crash_sound crashed)
  · obtain ⟨w', changed, rfl⟩ := Option.map_eq_some_iff.mp played
    exact .env (P.env_sound changed)
  · simp at played

def play (P : Player K Choice Change) :
    Phase Req Resp Mem Out × W → List (Act Input Choice Change) →
      Option (Phase Req Resp Mem Out × W)
  | state, [] => some state
  | state, act :: acts => (P.step state act).bind fun state' => P.play state' acts

theorem play_reachable (P : Player K Choice Change) {acts : List (Act Input Choice Change)}
    {state state' : Phase Req Resp Mem Out × W} (reachable : K.Reachable init state)
    (played : P.play state acts = some state') : K.Reachable init state' := by
  induction acts generalizing state with
  | nil =>
    obtain rfl : state = state' := by simpa [play] using played
    exact reachable
  | cons act acts ih =>
    obtain ⟨middle, first, rest⟩ := Option.bind_eq_some_iff.mp played
    exact ih (reachable.step (P.step_sound first)) rest

end Player

end Controller

end SandboxedContainers.Lib
