import SandboxedContainers.Lib.Machine

/-!
# Running a program on its own

`Prog.eval` runs a program against a service that answers each request in one way,
with nobody else around, and `Routine.eval` does so from a given memory.  A routine
is `Steady` if it comes to the same result from every memory and changes nothing.
An `Inquiry` only asks: it is steady on every service its requests leave alone,
services that answer them alike give it the same result, and it keeps every assertion
its requests keep.
-/

namespace SandboxedContainers.Lib

variable {Req : Type} {Resp : Req → Type} {S σ ε ε' α β : Type}

namespace Prog

/-- The result of a program and the service it leaves. -/
def eval (serve : S → (r : Req) → Resp r × S) : Prog Req Resp α → S → α × S
  | .pure value, s => (value, s)
  | .call r next, s => (next (serve s r).1).eval serve (serve s r).2

theorem eval_bind (serve : S → (r : Req) → Resp r × S) (program : Prog Req Resp α)
    (next : α → Prog Req Resp β) (s : S) :
    (program >>= next).eval serve s = (next (program.eval serve s).1).eval serve (program.eval serve s).2 := by
  induction program generalizing s with
  | pure value => rfl
  | call r rest ih => exact ih _ _

/-- Every request the program issues, whatever the answers, is of one sort. -/
def Only (p : Req → Prop) : Prog Req Resp α → Prop
  | .pure _ => True
  | .call r next => p r ∧ ∀ response, (next response).Only p

section Only

variable {p : Req → Prop} {program : Prog Req Resp α}

theorem Only.bind {next : α → Prog Req Resp β} (first : program.Only p)
    (rest : ∀ value, (next value).Only p) : (program >>= next).Only p := by
  induction program with
  | pure value => exact rest value
  | call r later ih =>
    exact ⟨first.1, fun response => ih response (first.2 response)⟩

theorem Only.bind_returns {q : α → Prop} {next : α → Prog Req Resp β} (first : program.Only p)
    (returns : program.Returns q) (rest : ∀ value, q value → (next value).Only p) : (program >>= next).Only p := by
  induction program with
  | pure value => exact rest value returns
  | call r later ih =>
    exact ⟨first.1, fun response => ih response (first.2 response) (returns response)⟩

theorem Only.mono {q : Req → Prop} (only : program.Only p) (weaker : ∀ r, p r → q r) : program.Only q := by
  induction program with
  | pure value => trivial
  | call r next ih =>
    exact ⟨weaker r only.1, fun response => ih response (only.2 response)⟩

variable {serve : S → (r : Req) → Resp r × S} {s : S}

theorem Only.eval_state (only : program.Only p) (kept : ∀ r, p r → (serve s r).2 = s) :
    (program.eval serve s).2 = s := by
  induction program with
  | pure value => rfl
  | call r next ih =>
    rw [eval, kept r only.1]
    exact ih _ (only.2 _)

theorem Only.eval_eq {S' : Type} {serve' : S' → (r : Req) → Resp r × S'} {t : S'}
    (only : program.Only p) (kept : ∀ r, p r → (serve s r).2 = s)
    (kept' : ∀ r, p r → (serve' t r).2 = t) (agree : ∀ r, p r → (serve s r).1 = (serve' t r).1) :
    (program.eval serve s).1 = (program.eval serve' t).1 := by
  induction program with
  | pure value => rfl
  | call r next ih =>
    rw [eval, eval, kept r only.1, kept' r only.1, agree r only.1]
    exact ih _ (only.2 _)

end Only

/-- A run with nobody else around: what was asked and answered in it, the value and the
service it leaves. -/
inductive Runs (answer : S → (r : Req) → Resp r → S → Prop) :
    Prog Req Resp α → S → List ((r : Req) × Resp r) → α → S → Prop where
  | pure {value : α} {s : S} : Runs answer (.pure value) s [] value s
  | call {r : Req} {next : Resp r → Prog Req Resp α} {log : List ((r : Req) × Resp r)} {value : α} {s s' s'' : S}
      (response : Resp r) : answer s r response s' → Runs answer (next response) s' log value s'' →
      Runs answer (.call r next) s (⟨r, response⟩ :: log) value s''

section Runs

variable {answer : S → (r : Req) → Resp r → S → Prop} {program : Prog Req Resp α}
  {log : List ((r : Req) × Resp r)} {s s' : S}

theorem Runs.of_bind {next : α → Prog Req Resp β} {value : β}
    (runs : Runs answer (program >>= next) s log value s') :
    ∃ middle between first rest, Runs answer program s first middle between ∧
      Runs answer (next middle) between rest value s' ∧ log = first ++ rest := by
  induction program generalizing s log with
  | pure middle => exact ⟨middle, s, [], log, .pure, runs, rfl⟩
  | call r later ih =>
    cases runs with
    | call response answered rest =>
      obtain ⟨middle, between, first, last, ran, ends, rfl⟩ := ih response rest
      exact ⟨middle, between, _ :: first, last, .call response answered ran, ends, rfl⟩

theorem Runs.bind {next : α → Prog Req Resp β} {value : β} {middle : α} {between : S}
    {rest : List ((r : Req) × Resp r)} (first : Runs answer program s log middle between)
    (second : Runs answer (next middle) between rest value s') :
    Runs answer (program >>= next) s (log ++ rest) value s' := by
  induction first with
  | pure => exact second
  | call response answered _ ih => exact .call response answered (ih second)

/-- What a program is known to end in holds at the end of each of its runs. -/
theorem Runs.safe {W : Type} {M : Machine Req Resp W} {C : Contract Req W} {post : α → W → Prop} {value : α}
    {allowed : ((r : Req) × Resp r) → Prop} (view : S → W) (runs : Runs answer program s log value s')
    (sound : ∀ {s r response s'}, answer s r response s' → allowed ⟨r, response⟩ →
      M.answer (view s) r response (view s'))
    (all : ∀ entry ∈ log, allowed entry) (safe : Safe M C post program (view s)) : post value (view s') := by
  induction runs with
  | pure => exact (safe _ .refl).2
  | call response answered _ ih =>
    obtain ⟨_, _, rest⟩ := safe _ .refl
    have reply := sound answered (all _ (List.mem_cons_self ..))
    exact ih (fun entry member => all entry (List.mem_cons_of_mem _ member)) (rest _ _ reply)

theorem Runs.mono {answer' : S → (r : Req) → Resp r → S → Prop} {value : α}
    (weaker : ∀ {s r response s'}, answer s r response s' → answer' s r response s')
    (runs : Runs answer program s log value s') : Runs answer' program s log value s' := by
  induction runs with
  | pure => exact .pure
  | call response answered _ ih => exact .call response (weaker answered) ih

theorem Only.mem_runs {p : Req → Prop} {value : α} (only : program.Only p)
    (runs : Runs answer program s log value s') : ∀ entry ∈ log, p entry.1 := by
  induction runs with
  | pure => exact nofun
  | call _ _ _ ih =>
    intro entry member
    rcases List.mem_cons.mp member with rfl | later
    · exact only.1
    · exact ih (only.2 _) entry later

theorem Only.runs_rel {p : Req → Prop} {R : S → S → Prop} {value : α} (only : program.Only p)
    (refl : ∀ s, R s s) (trans : ∀ {s s' s''}, R s s' → R s' s'' → R s s'')
    (step : ∀ {s r response s'}, p r → answer s r response s' → R s s')
    (runs : Runs answer program s log value s') : R s s' := by
  induction runs with
  | pure => exact refl _
  | call response answered _ ih =>
    exact trans (step only.1 answered) (ih (only.2 response))

theorem Runs.stable {p : S → Prop} {value : α} (step : ∀ {s r response s'}, answer s r response s' → p s → p s')
    (runs : Runs answer program s log value s') (holds : p s) : p s' := by
  induction runs with
  | pure => exact holds
  | call response answered _ ih => exact ih (step answered holds)

theorem Returns.runs {p : α → Prop} {value : α} (returns : program.Returns p)
    (runs : Runs answer program s log value s') : p value := by
  induction runs with
  | pure => exact returns
  | call response _ _ ih => exact ih (returns response)

variable (answer) in
/-- Running a program on a service that answers as the run may. -/
theorem runs_eval (serve : S → (r : Req) → Resp r × S)
    (honest : ∀ s r, answer s r (serve s r).1 (serve s r).2) (program : Prog Req Resp α) (s : S) :
    ∃ log, Runs answer program s log (program.eval serve s).1 (program.eval serve s).2 := by
  induction program generalizing s with
  | pure value => exact ⟨[], .pure⟩
  | call r next ih =>
    obtain ⟨log, runs⟩ := ih (serve s r).1 (serve s r).2
    exact ⟨_ :: log, .call _ (honest s r) runs⟩

/-- Carry out a program with a choice of answer for each request in turn. -/
def play {Choice : Type} (pick : Choice → S → (r : Req) → Option (Resp r × S)) :
    Prog Req Resp α → List Choice → S → Option (List ((r : Req) × Resp r) × α × S)
  | .pure value, _, s => some ([], value, s)
  | .call _ _, [], _ => none
  | .call r next, choice :: choices, s =>
    (pick choice s r).bind fun picked =>
      ((next picked.1).play pick choices picked.2).map fun played => (⟨r, picked.1⟩ :: played.1, played.2)

theorem runs_play {Choice : Type} {pick : Choice → S → (r : Req) → Option (Resp r × S)} {value : α}
    (sound : ∀ {choice s r response s'}, pick choice s r = some (response, s') → answer s r response s')
    {choices : List Choice} (played : program.play pick choices s = some (log, value, s')) :
    Runs answer program s log value s' := by
  induction program generalizing choices s log with
  | pure result =>
    cases played
    exact .pure
  | call r next ih =>
    cases choices with
    | nil => cases played
    | cons choice choices =>
      obtain ⟨⟨response, between⟩, picked, rest⟩ := Option.bind_eq_some_iff.mp played
      obtain ⟨⟨later, outcome⟩, ended, same⟩ := Option.map_eq_some_iff.mp rest
      cases same
      exact .call response (sound picked) (ih response ended)

end Runs

end Prog

namespace Routine

variable (serve : S → (r : Req) → Resp r × S)

/-- How a routine ends, the memory and the service it leaves. -/
def eval (routine : Routine Req Resp σ ε α) (memory : σ) (s : S) : (Except ε α × σ) × S :=
  (routine memory).eval serve s

variable {serve} {s s' : S} {memory memory' : σ} {routine : Routine Req Resp σ ε α} {next : α → Routine Req Resp σ ε β}

@[simp] theorem eval_pure (value : α) :
    (Pure.pure value : Routine Req Resp σ ε α).eval serve memory s = ((.ok value, memory), s) := rfl

@[simp] theorem eval_throw (error : ε) :
    (throw error : Routine Req Resp σ ε α).eval serve memory s = ((.error error, memory), s) := rfl

@[simp] theorem eval_request (r : Req) : (request r : Routine Req Resp σ ε (Resp r)).eval serve memory s =
      ((.ok (serve s r).1, memory), (serve s r).2) := rfl

theorem eval_bind_ok {value : α} (first : routine.eval serve memory s = ((.ok value, memory'), s'))
    (next : α → Routine Req Resp σ ε β) :
    (routine >>= next).eval serve memory s = (next value).eval serve memory' s' := by
  unfold eval at first
  rw [eval, bind_run, Prog.eval_bind, first]
  rfl

theorem eval_bind_error {error : ε} (first : routine.eval serve memory s = ((.error error, memory'), s'))
    (next : α → Routine Req Resp σ ε β) :
    (routine >>= next).eval serve memory s = ((.error error, memory'), s') := by
  unfold eval at first
  rw [eval, bind_run, Prog.eval_bind, first]
  rfl

theorem of_eval_bind {value : β}
    (ended : (routine >>= next).eval serve memory s = ((.ok value, memory'), s')) :
    ∃ first between s₁, routine.eval serve memory s = ((.ok first, between), s₁) ∧
      (next first).eval serve between s₁ = ((.ok value, memory'), s') := by
  rcases evaluated : routine.eval serve memory s with ⟨⟨error | first, between⟩, s₁⟩
  · rw [eval_bind_error evaluated] at ended
    cases ended
  · rw [eval_bind_ok evaluated] at ended
    exact ⟨first, between, s₁, rfl, ended⟩

theorem eval_attempt {result : Except ε α} (first : routine.eval serve memory s = ((result, memory'), s')) :
    (attempt routine : Routine Req Resp σ ε' (Except ε α)).eval serve memory s =
      ((.ok result, memory'), s') := by
  unfold eval at first
  have grafted := Prog.eval_bind serve (routine memory) (fun outcome : Except ε α × σ =>
    (.pure (.ok outcome.1, outcome.2) : Prog Req Resp (Except ε' (Except ε α) × σ))) s
  rw [first] at grafted
  exact grafted

/-- From every memory the routine comes to `result`, and changes nothing. -/
def Steady (serve : S → (r : Req) → Resp r × S) (s : S) (routine : Routine Req Resp σ ε α)
    (result : Except ε α) : Prop :=
  ∀ memory, routine.eval serve memory s = ((result, memory), s)

theorem steady_pure (value : α) :
    Steady serve s (Pure.pure value : Routine Req Resp σ ε α) (.ok value) := fun _ => rfl

theorem steady_throw (error : ε) :
    Steady serve s (throw error : Routine Req Resp σ ε α) (.error error) := fun _ => rfl

theorem steady_request {r : Req} (kept : (serve s r).2 = s) :
    Steady serve s (request r : Routine Req Resp σ ε (Resp r)) (.ok (serve s r).1) := by
  intro memory
  rw [eval_request, kept]

theorem Steady.bind {value : α} {result : Except ε β} (first : Steady serve s routine (.ok value))
    (rest : Steady serve s (next value) result) : Steady serve s (routine >>= next) result := by
  intro memory
  rw [eval_bind_ok (first memory) next]
  exact rest memory

theorem Steady.bind_error {error : ε}
    (first : Steady serve s routine (.error error)) (next : α → Routine Req Resp σ ε β) :
    Steady serve s (routine >>= next) (.error error) :=
  fun memory => eval_bind_error (first memory) next

theorem Steady.attempt {result : Except ε α} (first : Steady serve s routine result) :
    Steady serve s (attempt routine : Routine Req Resp σ ε' (Except ε α)) (.ok result) :=
  fun memory => eval_attempt (first memory)

/-- The result of a routine on its own, from the memory given. -/
def result (serve : S → (r : Req) → Resp r × S) (routine : Routine Req Resp σ ε α) (memory : σ)
    (s : S) : Except ε α :=
  (routine.eval serve memory s).1.1

theorem bind_assoc {γ : Type} (routine : Routine Req Resp σ ε α)
    (first : α → Routine Req Resp σ ε β) (second : β → Routine Req Resp σ ε γ) :
    routine >>= first >>= second = routine >>= fun value => first value >>= second := by
  funext memory
  refine (Prog.bind_assoc (routine memory) _ _).trans ?_
  refine congrArg (routine memory >>= ·) (funext fun outcome => ?_)
  rcases outcome with ⟨error | value, memory'⟩ <;> rfl

theorem Steady.result_eq {final : Except ε α}
    (steady : Steady serve s routine final) (memory : σ) : routine.result serve memory s = final := by
  rw [result, steady memory]

section Runs

variable {answer : S → (r : Req) → Resp r → S → Prop} {log : List ((r : Req) × Resp r)}

/-- A routine is run to its end, or an error cuts it short. -/
theorem runs_bind
    {outcome : Except ε β × σ} (runs : Prog.Runs answer ((routine >>= next) memory) s log outcome s') :
    (∃ value memory' between first rest, Prog.Runs answer (routine memory) s first (.ok value, memory') between ∧
      Prog.Runs answer (next value memory') between rest outcome s' ∧ log = first ++ rest) ∨
    ∃ error memory', Prog.Runs answer (routine memory) s log (.error error, memory') s' ∧
      outcome = (.error error, memory') := by
  obtain ⟨⟨error | value, memory'⟩, between, first, rest, ran, ends, rfl⟩ := Prog.Runs.of_bind runs
  · cases ends
    rw [List.append_nil]
    exact .inr ⟨error, memory', ran, rfl⟩
  · exact .inl ⟨value, memory', between, first, rest, ran, ends, rfl⟩

theorem of_runs_bind {value : β} (runs : Prog.Runs answer ((routine >>= next) memory) s log (.ok value, memory') s') :
    ∃ value' memory₁ between first rest, Prog.Runs answer (routine memory) s first (.ok value', memory₁) between ∧
      Prog.Runs answer (next value' memory₁) between rest (.ok value, memory') s' ∧ log = first ++ rest := by
  rcases runs_bind runs with parts | ⟨_, _, _, ended⟩
  · exact parts
  · cases ended

theorem runs_bind_ok {value : α} {between : S} {rest : List ((r : Req) × Resp r)} {outcome : Except ε β × σ}
    (first : Prog.Runs answer (routine memory) s log (.ok value, memory') between)
    (second : Prog.Runs answer (next value memory') between rest outcome s') :
    Prog.Runs answer ((routine >>= next) memory) s (log ++ rest) outcome s' := first.bind second

theorem runs_bind_error {error : ε}
    (first : Prog.Runs answer (routine memory) s log (.error error, memory') s') :
    Prog.Runs answer ((routine >>= next) memory) s log (.error error, memory') s' := by
  rw [← List.append_nil log]
  exact Prog.Runs.bind first .pure

theorem runs_attempt {result : Except ε α}
    (runs : Prog.Runs answer (routine memory) s log (result, memory') s') :
    Prog.Runs answer ((attempt routine : Routine Req Resp σ ε' (Except ε α)) memory) s log (.ok result, memory') s' := by
  rw [← List.append_nil log]
  exact Prog.Runs.bind runs .pure

theorem runs_orElse {translate : ε → ε'} {result : Except ε α}
    (runs : Prog.Runs answer (routine memory) s log (result, memory') s') :
    Prog.Runs answer (routine.orElse translate memory) s log (result.mapError translate, memory') s' := by
  rw [← List.append_nil log]
  refine runs_bind_ok (runs_attempt runs) ?_
  cases result with
  | ok value => exact .pure
  | error error => exact .pure

theorem runs_attempt_bind {next : Except ε α → Routine Req Resp σ ε' β} {outcome : Except ε' β × σ}
    (runs : Prog.Runs answer (((attempt routine : Routine Req Resp σ ε' (Except ε α)) >>= next) memory) s log
      outcome s') :
    ∃ result memory' between first rest, Prog.Runs answer (routine memory) s first (result, memory') between ∧
      Prog.Runs answer (next result memory') between rest outcome s' ∧ log = first ++ rest := by
  obtain ⟨middle, between, first, rest, ran, ends, rfl⟩ := Prog.Runs.of_bind runs
  obtain ⟨⟨result, memory'⟩, before, begin, done, ran', finished, rfl⟩ := Prog.Runs.of_bind ran
  cases finished
  rw [List.append_nil]
  exact ⟨result, memory', _, begin, rest, ran', ends, rfl⟩

theorem of_runs_orElse {translate : ε → ε'} {outcome : Except ε' α}
    (runs : Prog.Runs answer (routine.orElse translate memory) s log (outcome, memory') s') :
    ∃ result, Prog.Runs answer (routine memory) s log (result, memory') s' ∧ outcome = result.mapError translate := by
  obtain ⟨result, _, _, first, rest, ran, ends, rfl⟩ := runs_attempt_bind runs
  cases result with
  | ok value =>
    cases ends
    rw [List.append_nil]
    exact ⟨_, ran, rfl⟩
  | error error =>
    cases ends
    rw [List.append_nil]
    exact ⟨_, ran, rfl⟩

theorem runs_attempt_bind_ok {γ : Type}
    {after : Except ε β → Routine Req Resp σ ε' γ} {value : α} {between : S} {rest : List ((r : Req) × Resp r)}
    {outcome : Except ε' γ × σ} (first : Prog.Runs answer (routine memory) s log (.ok value, memory') between)
    (second : Prog.Runs answer ((attempt (next value) >>= after) memory') between rest outcome s') :
    Prog.Runs answer ((attempt (routine >>= next) >>= after) memory) s (log ++ rest) outcome s' := by
  obtain ⟨result, memory'', later, begin, finish, ran, ends, rfl⟩ := runs_attempt_bind second
  rw [← List.append_assoc]
  exact runs_bind_ok (runs_attempt (runs_bind_ok first ran)) ends

theorem of_runs_attempt_bind {γ : Type} {after : Except ε β → Routine Req Resp σ ε' γ} {outcome : Except ε' γ × σ}
    (runs : Prog.Runs answer ((attempt (routine >>= next) >>= after) memory) s log outcome s') :
    ∃ result memory' between first rest, Prog.Runs answer (routine memory) s first (result, memory') between ∧
      log = first ++ rest ∧
        (∀ value, result = .ok value → Prog.Runs answer ((attempt (next value) >>= after) memory') between rest outcome s') ∧
        ∀ error, result = .error error → Prog.Runs answer (after (.error error) memory') between rest outcome s' := by
  obtain ⟨result, memory₁, later, begin, finish, ran, ends, rfl⟩ := runs_attempt_bind runs
  rcases runs_bind ran with ⟨value, memory₂, between, first, middle, head, tail, rfl⟩ | ⟨error, memory₂, fails, ended⟩
  · refine ⟨_, _, _, _, _, head, List.append_assoc .., ?_, nofun⟩
    rintro _ ⟨⟩
    exact runs_bind_ok (runs_attempt tail) ends
  · cases ended
    refine ⟨_, _, _, _, _, fails, rfl, nofun, ?_⟩
    rintro _ ⟨⟩
    exact ends

/-- The routine begins as `reach` does, and where that comes to a value it continues as `go` says. -/
structure Staged {γ : Type} (answer : S → (r : Req) → Resp r → S → Prop) (reach : Routine Req Resp σ ε (Option γ))
    (go : γ → Routine Req Resp σ ε' β) (routine : Routine Req Resp σ ε' β) : Prop where
  compose {memory memory' : σ} {s between s' : S} {first rest : List ((r : Req) × Resp r)} {value : γ}
    {outcome : Except ε' β × σ} : Prog.Runs answer (reach memory) s first (.ok (some value), memory') between →
      Prog.Runs answer (go value memory') between rest outcome s' →
        Prog.Runs answer (routine memory) s (first ++ rest) outcome s'
  split {memory : σ} {s s' : S} {log : List ((r : Req) × Resp r)} {outcome : Except ε' β × σ} :
    Prog.Runs answer (routine memory) s log outcome s' → ∃ result memory' between first rest,
      Prog.Runs answer (reach memory) s first (result, memory') between ∧ log = first ++ rest ∧
        ∀ value, result = .ok (some value) → Prog.Runs answer (go value memory') between rest outcome s'

section Staged

variable {γ δ : Type} {go : γ → Routine Req Resp σ ε' β} {reach : α → Routine Req Resp σ ε (Option γ)}

theorem staged_none (routine : Routine Req Resp σ ε' β) :
    Staged answer (Pure.pure none : Routine Req Resp σ ε (Option γ)) go routine where
  compose reaches := by cases reaches
  split _ := ⟨.ok none, _, _, [], _, .pure, rfl, nofun⟩

theorem staged_some (value : γ) : Staged answer (Pure.pure (some value) : Routine Req Resp σ ε (Option γ)) go (go value) where
  compose reaches goes := by
    cases reaches
    exact goes
  split runs := ⟨_, _, _, [], _, .pure, rfl, by rintro _ ⟨⟩; exact runs⟩

theorem staged_bind {routine : Routine Req Resp σ ε α} {next : α → Routine Req Resp σ ε β}
    {go : γ → Routine Req Resp σ ε β} (staged : ∀ value, Staged answer (reach value) go (next value)) :
    Staged answer (routine >>= reach) go (routine >>= next) where
  compose reaches goes := by
    obtain ⟨value, _, _, _, _, ran, ends, rfl⟩ := of_runs_bind reaches
    rw [List.append_assoc]
    exact runs_bind_ok ran ((staged value).compose ends goes)
  split runs := by
    rcases runs_bind runs with ⟨value, _, _, first, _, ran, ends, rfl⟩ | ⟨_, _, fails, _⟩
    · obtain ⟨result, _, _, middle, _, reaches, rfl, goes⟩ := (staged value).split ends
      exact ⟨result, _, _, _, _, runs_bind_ok ran reaches, (List.append_assoc ..).symm, goes⟩
    · exact ⟨_, _, _, _, [], runs_bind_error fails, (List.append_nil _).symm, nofun⟩

theorem staged_attempt {routine : Routine Req Resp σ ε α} {next : α → Routine Req Resp σ ε δ}
    {after : Except ε δ → Routine Req Resp σ ε' β}
    (staged : ∀ value, Staged answer (reach value) go (attempt (next value) >>= after)) :
    Staged answer (routine >>= reach) go (attempt (routine >>= next) >>= after) where
  compose reaches goes := by
    obtain ⟨value, _, _, _, _, ran, ends, rfl⟩ := of_runs_bind reaches
    rw [List.append_assoc]
    exact runs_attempt_bind_ok ran ((staged value).compose ends goes)
  split runs := by
    obtain ⟨error | value, _, _, first, _, ran, rfl, ends, _⟩ := of_runs_attempt_bind runs
    · exact ⟨_, _, _, _, _, runs_bind_error ran, rfl, nofun⟩
    · obtain ⟨result, _, _, middle, _, reaches, rfl, goes⟩ := (staged value).split (ends value rfl)
      exact ⟨result, _, _, _, _, runs_bind_ok ran reaches, (List.append_assoc ..).symm, goes⟩

end Staged

end Runs

/-- Every request the routine issues, from whatever memory, is of one sort. -/
def Issues (p : Req → Prop) (routine : Routine Req Resp σ ε α) : Prop :=
  ∀ memory, (routine memory).Only p

section Issues

variable {p : Req → Prop}

@[grind ←]
theorem issues_pure (value : α) : Issues p (Pure.pure value : Routine Req Resp σ ε α) := fun _ => trivial

@[grind ←]
theorem issues_throw (error : ε) : Issues p (throw error : Routine Req Resp σ ε α) := fun _ => trivial

theorem issues_get : Issues p (get : Routine Req Resp σ ε σ) := fun _ => trivial

@[grind ←]
theorem issues_modify (change : σ → σ) : Issues p (modify change : Routine Req Resp σ ε PUnit) := fun _ => trivial

@[grind ←]
theorem Issues.bind (first : Issues p routine)
    (rest : ∀ value, Issues p (next value)) : Issues p (routine >>= next) := by
  intro memory
  apply (first memory).bind
  rintro ⟨error | value, memory'⟩
  · exact trivial
  · exact rest value memory'

theorem Issues.bind_yields {q : α → Prop} (first : Issues p routine)
    (yields : Yields q routine) (rest : ∀ value, q value → Issues p (next value)) : Issues p (routine >>= next) := by
  intro memory
  apply (first memory).bind_returns (yields memory)
  rintro ⟨error | value, memory'⟩ holds
  · exact trivial
  · exact rest value (holds value rfl) memory'

@[grind ←]
theorem Issues.attempt (issues : Issues p routine) :
    Issues p (attempt routine : Routine Req Resp σ ε' (Except ε α)) :=
  fun memory => (issues memory).bind fun _ => trivial

theorem Issues.mono {q : Req → Prop} (issues : Issues p routine) (weaker : ∀ r, p r → q r) : Issues q routine :=
  fun memory => (issues memory).mono weaker

theorem Issues.mem_runs {answer : S → (r : Req) → Resp r → S → Prop} {log : List ((r : Req) × Resp r)}
    {outcome : Except ε α × σ} (issues : Issues p routine)
    (runs : Prog.Runs answer (routine memory) s log outcome s') : ∀ entry ∈ log, p entry.1 :=
  (issues memory).mem_runs runs

end Issues

/-- A routine that leaves its memory alone, though it may look at it, and that only issues
requests of one sort. -/
def Looks (p : Req → Prop) (routine : Routine Req Resp σ ε α) : Prop :=
  Issues p routine ∧ ∀ memory, (routine memory).Returns fun outcome => outcome.2 = memory

section Looks

variable {p : Req → Prop}

@[grind ←]
theorem looks_pure (value : α) : Looks p (Pure.pure value : Routine Req Resp σ ε α) :=
  ⟨issues_pure value, fun _ => rfl⟩

@[grind ←]
theorem looks_throw (error : ε) : Looks p (throw error : Routine Req Resp σ ε α) :=
  ⟨issues_throw error, fun _ => rfl⟩

theorem looks_get : Looks p (get : Routine Req Resp σ ε σ) := ⟨issues_get, fun _ => rfl⟩

@[grind ←]
theorem Looks.bind (first : Looks p routine)
    (rest : ∀ value, Looks p (next value)) : Looks p (routine >>= next) := by
  refine ⟨first.1.bind fun value => (rest value).1, fun memory => (first.2 memory).bind ?_⟩
  rintro ⟨error | value, memory'⟩ rfl
  · exact rfl
  · exact (rest value).2 memory'

@[grind ←]
theorem Looks.attempt (looks : Looks p routine) :
    Looks p (attempt routine : Routine Req Resp σ ε' (Except ε α)) := by
  refine ⟨looks.1.attempt, fun memory => (looks.2 memory).bind ?_⟩
  rintro ⟨result, memory'⟩ rfl
  exact rfl

@[grind ←]
theorem Looks.orElse {translate : ε → ε'} (looks : Looks p routine) : Looks p (routine.orElse translate) := by
  apply looks.attempt.bind
  intro result
  cases result with
  | ok value => exact looks_pure value
  | error error => exact looks_throw _

theorem Looks.mono {q : Req → Prop} (looks : Looks p routine) (weaker : ∀ r, p r → q r) : Looks q routine :=
  ⟨looks.1.mono weaker, looks.2⟩

theorem Looks.runs {answer : S → (r : Req) → Resp r → S → Prop} {log : List ((r : Req) × Resp r)}
    {result : Except ε α} (looks : Looks p routine)
    (runs : Prog.Runs answer (routine memory) s log (result, memory') s') :
    memory' = memory ∧ ∀ entry ∈ log, p entry.1 :=
  ⟨(looks.2 memory).runs runs, looks.1.mem_runs runs⟩

theorem Looks.eval {serve : S → (r : Req) → Resp r × S} (looks : Looks p routine)
    (kept : ∀ r, p r → (serve s r).2 = s) (memory : σ) :
    routine.eval serve memory s = ((routine.result serve memory s, memory), s) := by
  obtain ⟨log, runs⟩ := Prog.runs_eval (fun _ _ _ _ => True) serve (fun _ _ => trivial) (routine memory) s
  have same : (routine.eval serve memory s).1.2 = memory := (looks.2 memory).runs runs
  have steady : (routine.eval serve memory s).2 = s := (looks.1 memory).eval_state kept
  exact Prod.ext (Prod.ext rfl same) steady

end Looks

/-- A routine that leaves its memory alone and never looks at it, and that only
issues requests of one sort. -/
def Inquiry (p : Req → Prop) (routine : Routine Req Resp σ ε α) : Prop :=
  ∃ program : Prog Req Resp (Except ε α), program.Only p ∧
    ∀ memory, routine memory = program >>= fun result => .pure (result, memory)

section Inquiry

variable {p : Req → Prop}

@[grind ←]
theorem inquiry_pure (value : α) : Inquiry p (Pure.pure value : Routine Req Resp σ ε α) :=
  ⟨.pure (.ok value), trivial, fun _ => rfl⟩

@[grind ←]
theorem inquiry_throw (error : ε) : Inquiry p (throw error : Routine Req Resp σ ε α) :=
  ⟨.pure (.error error), trivial, fun _ => rfl⟩

theorem inquiry_request {r : Req} (allowed : p r) : Inquiry p (request r : Routine Req Resp σ ε (Resp r)) :=
  ⟨.call r fun response => .pure (.ok response), ⟨allowed, fun _ => trivial⟩, fun _ => rfl⟩

/-- Go on with a value, and stop with an error. -/
def goOn (later : α → Prog Req Resp (Except ε β)) : Except ε α → Prog Req Resp (Except ε β)
  | .ok value => later value
  | .error error => .pure (.error error)

@[grind ←]
theorem Inquiry.bind (first : Inquiry p routine)
    (rest : ∀ value, Inquiry p (next value)) : Inquiry p (routine >>= next) := by
  obtain ⟨program, only, same⟩ := first
  choose later laterOnly laterSame using rest
  refine ⟨program >>= goOn later, ?_, ?_⟩
  · apply only.bind
    intro outcome
    cases outcome with
    | error error => trivial
    | ok value => exact laterOnly value
  · intro memory
    rw [bind_run, same memory, Prog.bind_assoc, Prog.bind_assoc]
    refine congrArg (program >>= ·) (funext fun outcome => ?_)
    cases outcome with
    | error error => rfl
    | ok value => exact laterSame value memory

@[grind ←]
theorem Inquiry.attempt (first : Inquiry p routine) :
    Inquiry p (attempt routine : Routine Req Resp σ ε' (Except ε α)) := by
  obtain ⟨program, only, same⟩ := first
  refine ⟨program >>= fun outcome => .pure (.ok outcome), only.bind fun _ => trivial, ?_⟩
  intro memory
  have unfolded : (Routine.attempt routine : Routine Req Resp σ ε' (Except ε α)) memory =
      routine memory >>= fun outcome => .pure (.ok outcome.1, outcome.2) := rfl
  rw [unfolded, same memory, Prog.bind_assoc, Prog.bind_assoc]
  rfl

theorem Inquiry.steady (inquiry : Inquiry p routine) (kept : ∀ r, p r → (serve s r).2 = s)
    (memory : σ) : Steady serve s routine (routine.result serve memory s) := by
  obtain ⟨program, only, same⟩ := inquiry
  have evaluated (memory : σ) : routine.eval serve memory s = (((program.eval serve s).1, memory), s) := by
    rw [eval, same memory, Prog.eval_bind, only.eval_state kept]
    rfl
  intro other
  rw [result, evaluated memory, evaluated other]

theorem Inquiry.result_eq {S' : Type} (inquiry : Inquiry p routine)
    (serve : S → (r : Req) → Resp r × S) (s : S) (serve' : S' → (r : Req) → Resp r × S') (t : S')
    (kept : ∀ r, p r → (serve s r).2 = s)
    (kept' : ∀ r, p r → (serve' t r).2 = t) (agree : ∀ r, p r → (serve s r).1 = (serve' t r).1)
    (memory : σ) : routine.result serve memory s = routine.result serve' memory t := by
  obtain ⟨program, only, same⟩ := inquiry
  simp only [result, eval, same memory, Prog.eval_bind, Prog.eval]
  exact only.eval_eq kept kept' agree

theorem Inquiry.forM {γ : Type} {step : γ → Routine Req Resp σ ε PUnit}
    (each : ∀ item, Inquiry p (step item)) (items : List γ) : Inquiry p (items.forM step) := by
  induction items with
  | nil => exact inquiry_pure _
  | cons item rest ih => exact (each item).bind fun _ => ih

theorem Inquiry.eval_rel {R : S → S → Prop} (inquiry : Inquiry p routine) (refl : ∀ s, R s s)
    (trans : ∀ {s s' s''}, R s s' → R s' s'' → R s s'') (step : ∀ s r, p r → R s (serve s r).2) (memory : σ) (s : S) :
    R s (routine.eval serve memory s).2 := by
  obtain ⟨program, only, same⟩ := inquiry
  rw [eval, same memory, Prog.eval_bind]
  change R s (program.eval serve s).2
  clear same
  induction program generalizing s with
  | pure result => exact refl s
  | call r next ih => exact trans (step s r only.1) (ih _ _ (only.2 _))

theorem Inquiry.eval_log {Entry : Type} {l : S → List Entry} {q : Entry → Prop} (inquiry : Inquiry p routine)
    (logs : ∀ s r, p r → ∃ entries, l (serve s r).2 = l s ++ entries ∧ ∀ entry ∈ entries, q entry)
    (memory : σ) (s : S) :
    ∃ added, l (routine.eval serve memory s).2 = l s ++ added ∧ ∀ entry ∈ added, q entry := by
  refine inquiry.eval_rel
    (R := fun s s' => ∃ added, l s' = l s ++ added ∧ ∀ entry ∈ added, q entry) ?_ ?_ logs memory s
  · exact fun s => ⟨[], (List.append_nil _).symm, nofun⟩
  rintro _ _ _ ⟨first, logged, known⟩ ⟨second, later, others⟩
  exact ⟨first ++ second, by rw [later, logged, List.append_assoc], List.forall_mem_append.mpr ⟨known, others⟩⟩

theorem Inquiry.issues (inquiry : Inquiry p routine) : Issues p routine := by
  obtain ⟨program, only, same⟩ := inquiry
  intro memory
  rw [same memory]
  exact only.bind fun _ => trivial

theorem Inquiry.looks (inquiry : Inquiry p routine) : Looks p routine := by
  refine ⟨inquiry.issues, fun memory => ?_⟩
  obtain ⟨program, _, same⟩ := inquiry
  rw [same memory]
  exact program.returns_true.bind fun _ _ => rfl

theorem Inquiry.mem_runs {answer : S → (r : Req) → Resp r → S → Prop} {log : List ((r : Req) × Resp r)}
    {outcome : Except ε α × σ} (inquiry : Inquiry p routine)
    (runs : Prog.Runs answer (routine memory) s log outcome s') : ∀ entry ∈ log, p entry.1 :=
  inquiry.issues.mem_runs runs

/-- A run of an inquiry leaves the memory alone, and changes the service as its requests do. -/
theorem Inquiry.runs_rel {answer : S → (r : Req) → Resp r → S → Prop} {log : List ((r : Req) × Resp r)}
    {R : S → S → Prop} {outcome : Except ε α × σ} (inquiry : Inquiry p routine)
    (refl : ∀ s, R s s) (trans : ∀ {s s' s''}, R s s' → R s' s'' → R s s'')
    (step : ∀ {s r response s'}, p r → answer s r response s' → R s s')
    (runs : Prog.Runs answer (routine memory) s log outcome s') : outcome.2 = memory ∧ R s s' := by
  obtain ⟨program, only, same⟩ := inquiry
  rw [same memory] at runs
  obtain ⟨result, between, first, rest, ran, ends, rfl⟩ := runs.of_bind
  cases ends
  exact ⟨rfl, only.runs_rel refl trans step ran⟩

theorem Inquiry.maintains {W : Type} {M : Machine Req Resp W} {C : Contract Req W} {A : σ → W → Prop}
    [invariant : Invariant M C A] (inquiry : Inquiry p routine)
    (admits : ∀ r, p r → ∀ memory w, A memory w →
      C.good w r ∧ ∀ response w', M.answer w r response w' → A memory w') :
    Maintains M C A routine := by
  obtain ⟨program, only, same⟩ := inquiry
  intro memory w holds
  rw [same memory]
  clear same
  induction program generalizing w with
  | pure result => exact safe_result (Q := fun _ => A) holds
  | call r next ih =>
    refine safe_call (invariant.stable memory) holds fun issued holds' => ?_
    obtain ⟨good, answered⟩ := admits r only.1 memory issued holds'
    exact ⟨invariant.mid memory issued holds', good, fun response w' reply =>
      ih response (only.2 response) w' (answered response w' reply)⟩

end Inquiry

end Routine

end SandboxedContainers.Lib
