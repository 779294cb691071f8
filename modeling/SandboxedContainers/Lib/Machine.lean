import Mathlib.Logic.Relation
import SandboxedContainers.Lib.Routine

/-!
# Running programs against an interfering service

A `Machine` says how the service answers a request in a world `W`, and which
changes of the world other parties may make between two requests.  A
`Contract` says what a program owes: `good` at every request it issues, `mid`
at every moment at which its process may die.

`Safe` is the resulting judgement; it is preserved by interference and composes
along `bind`.  `Routine.Triple` is its form for routines with a memory, and
`Routine.Maintains` the special case of an assertion that a routine keeps.
-/

namespace SandboxedContainers.Lib

/-- The world a program runs in: answers to its requests, and interference. -/
structure Machine (Req : Type) (Resp : Req → Type) (W : Type) where
  answer : W → (r : Req) → Resp r → W → Prop
  env : W → W → Prop

/-- What a program owes while it runs. -/
structure Contract (Req : Type) (W : Type) where
  /-- Holds whenever the request is issued. -/
  good : W → Req → Prop
  /-- Holds whenever the process may be killed. -/
  mid : W → Prop

/-- A program that owes nothing. -/
def Contract.free {Req W : Type} : Contract Req W where
  good _ _ := True
  mid _ := True

variable {Req : Type} {Resp : Req → Type} {W σ ε ε' α β : Type}

/-- Any number of changes by other parties. -/
def Machine.Drift (M : Machine Req Resp W) : W → W → Prop := Relation.ReflTransGen M.env

/-- An assertion no other party can falsify. -/
def Machine.Stable (M : Machine Req Resp W) (A : W → Prop) : Prop :=
  ∀ ⦃w w'⦄, M.env w w' → A w → A w'

theorem Machine.Stable.drift {M : Machine Req Resp W} {A : W → Prop} (stable : M.Stable A)
    {w w' : W} (drift : M.Drift w w') (holds : A w) : A w' := by
  induction drift with
  | refl => exact holds
  | tail _ step ih => exact stable step ih

/-- The program honours the contract from `w` on and ends in `post`, under
every answer of the machine and every interference. -/
def Safe (M : Machine Req Resp W) (C : Contract Req W) (post : α → W → Prop) :
    Prog Req Resp α → W → Prop
  | .pure value, w => ∀ w', M.Drift w w' → C.mid w' ∧ post value w'
  | .call r next, w => ∀ w', M.Drift w w' → C.mid w' ∧ C.good w' r ∧
      ∀ response w'', M.answer w' r response w'' → Safe M C post (next response) w''

section Safe

variable {M : Machine Req Resp W} {C : Contract Req W} {post post' : α → W → Prop} {program : Prog Req Resp α} {w : W}

theorem Safe.mid (safe : Safe M C post program w) : C.mid w := by
  cases program with
  | pure value => exact (safe w .refl).1
  | call r next => exact (safe w .refl).1

theorem Safe.drift {w w' : W} (safe : Safe M C post program w)
    (drift : M.Drift w w') : Safe M C post program w' := by
  cases program with
  | pure value => exact fun w'' later => safe w'' (drift.trans later)
  | call r next => exact fun w'' later => safe w'' (drift.trans later)

theorem Safe.mono (safe : Safe M C post program w)
    (weaker : ∀ value w', C.mid w' → post value w' → post' value w') :
    Safe M C post' program w := by
  induction program generalizing w with
  | pure value =>
    intro w' drift
    obtain ⟨mid, reached⟩ := safe w' drift
    exact ⟨mid, weaker value w' mid reached⟩
  | call r next ih =>
    intro w' drift
    obtain ⟨mid, good, rest⟩ := safe w' drift
    exact ⟨mid, good, fun response w'' answered =>
      ih response (rest response w'' answered)⟩

theorem safe_bind {next : α → Prog Req Resp β} {postNext : β → W → Prop}
    (safe : Safe M C (fun value => Safe M C postNext (next value)) program w) :
    Safe M C postNext (program >>= next) w := by
  induction program generalizing w with
  | pure value => exact (safe w .refl).2
  | call r rest ih =>
    intro w' drift
    obtain ⟨mid, good, later⟩ := safe w' drift
    exact ⟨mid, good, fun response w'' answered =>
      ih response (later response w'' answered)⟩

theorem safe_pure {A : W → Prop} (stable : M.Stable A) {value : α} (holds : A w)
    (enough : ∀ w', A w' → C.mid w' ∧ post value w') :
    Safe M C post (Pure.pure value) w :=
  fun w' drift => enough w' (stable.drift drift holds)

theorem safe_call {A : W → Prop} (stable : M.Stable A) {r : Req}
    {next : Resp r → Prog Req Resp α} (holds : A w)
    (enough : ∀ w', A w' → C.mid w' ∧ C.good w' r ∧
      ∀ response w'', M.answer w' r response w'' → Safe M C post (next response) w'') :
    Safe M C post (.call r next) w :=
  fun w' drift => enough w' (stable.drift drift holds)

theorem Safe.returns {p : α → Prop} (safe : Safe M C post program w) (returns : program.Returns p) :
    Safe M C (fun value w' => p value ∧ post value w') program w := by
  induction program generalizing w with
  | pure value => exact fun w' drift => ⟨(safe w' drift).1, returns, (safe w' drift).2⟩
  | call r next ih =>
    intro w' drift
    obtain ⟨mid, good, rest⟩ := safe w' drift
    exact ⟨mid, good, fun response w'' answered =>
      ih response (rest response w'' answered) (returns response)⟩

theorem Safe.both (first : Safe M C post program w) (second : Safe M .free post' program w) :
    Safe M C (fun value w' => post value w' ∧ post' value w') program w := by
  induction program generalizing w with
  | pure value =>
    exact fun w' drift => ⟨(first w' drift).1, (first w' drift).2, (second w' drift).2⟩
  | call r next ih =>
    intro w' drift
    obtain ⟨mid, good, rest⟩ := first w' drift
    obtain ⟨_, _, restAlso⟩ := second w' drift
    exact ⟨mid, good, fun response w'' answered =>
      ih response (rest response w'' answered) (restAlso response w'' answered)⟩

theorem Safe.settled (safe : Safe M C post program w) :
    Safe M C (fun value w' => Safe M C post (.pure value) w') program w := by
  induction program generalizing w with
  | pure value =>
    exact fun w' drift => ⟨(safe w' drift).1, fun w'' later => safe w'' (drift.trans later)⟩
  | call r next ih =>
    intro w' drift
    obtain ⟨mid, good, rest⟩ := safe w' drift
    exact ⟨mid, good, fun response w'' answered =>
      ih response (rest response w'' answered)⟩

/-- An assertion that every request may be issued under, and that every answer keeps,
is kept by every program. -/
theorem safe_of_kept {A : W → Prop} (stable : M.Stable A) (mid : ∀ w, A w → C.mid w)
    (kept : ∀ w r, A w → C.good w r ∧ ∀ response w', M.answer w r response w' → A w')
    (program : Prog Req Resp α) (holds : A w) : Safe M C (fun _ => A) program w := by
  induction program generalizing w with
  | pure value => exact safe_pure stable holds fun w' holds' => ⟨mid w' holds', holds'⟩
  | call r next ih =>
    refine safe_call stable holds fun issued holds' => ?_
    obtain ⟨good, answered⟩ := kept issued r holds'
    exact ⟨mid issued holds', good, fun response w' reply =>
      ih response (answered response w' reply)⟩

end Safe

namespace Routine

/-- An assertion about the memory and the world that no other party falsifies
and under which the process may be killed. -/
class Invariant (M : Machine Req Resp W) (C : Contract Req W) (A : σ → W → Prop) : Prop where
  stable : ∀ memory, M.Stable (A memory)
  mid : ∀ memory w, A memory w → C.mid w

/-- From `P` the routine honours the contract and ends in `Q`. -/
def Triple (M : Machine Req Resp W) (C : Contract Req W) (P : σ → W → Prop)
    (routine : Routine Req Resp σ ε α) (Q : Except ε α → σ → W → Prop) : Prop :=
  ∀ memory w, P memory w → Safe M C (fun outcome => Q outcome.1 outcome.2) (routine memory) w

/-- The routine keeps an assertion, however it ends. -/
def Maintains (M : Machine Req Resp W) (C : Contract Req W) (A : σ → W → Prop)
    (routine : Routine Req Resp σ ε α) : Prop :=
  Triple M C A routine fun _ => A

/-- `B` when there is a value to go on with, `Q` after an early stop. -/
def Onward (B : σ → W → Prop) (Q : Except ε β → σ → W → Prop) : Except ε α → σ → W → Prop
  | .ok _ => B
  | .error error => Q (.error error)

/-- `B` holds of the value a routine returned, and `S` after an error. -/
def Leaves (B : α → σ → W → Prop) (S : σ → W → Prop) : Except ε α → σ → W → Prop
  | .ok value => B value
  | .error _ => S

def Both (A B : σ → W → Prop) (memory : σ) (w : W) : Prop := A memory w ∧ B memory w

section Rules

variable {M : Machine Req Resp W} {C : Contract Req W} {P A : σ → W → Prop}
  {Q Q' : Except ε α → σ → W → Prop} {routine : Routine Req Resp σ ε α} {next : α → Routine Req Resp σ ε β}

instance {B : σ → W → Prop} {Q : Except ε β → σ → W → Prop} [onward : Invariant M C B]
    [stopped : ∀ result, Invariant M C (Q result)] :
    (result : Except ε α) → Invariant M C (Onward B Q result)
  | .ok _ => onward
  | .error error => stopped (.error error)

instance {B : α → σ → W → Prop} {S : σ → W → Prop} [returned : ∀ value, Invariant M C (B value)]
    [stopped : Invariant M C S] : (result : Except ε α) → Invariant M C (Leaves B S result)
  | .ok value => returned value
  | .error _ => stopped

theorem Invariant.and [invariant : Invariant M C A] (p : σ → Prop) :
    Invariant M C fun memory w => A memory w ∧ p memory where
  stable memory _ _ changed holds := ⟨invariant.stable memory changed holds.1, holds.2⟩
  mid memory w holds := invariant.mid memory w holds.1

theorem safe_end [invariant : Invariant M C P] {value : β} {post : β → W → Prop} {memory : σ} {w : W}
    (holds : P memory w) (enough : ∀ w', P memory w' → post value w') : Safe M C post (.pure value) w :=
  safe_pure (invariant.stable memory) holds fun w' holds' => ⟨invariant.mid memory w' holds', enough w' holds'⟩

theorem safe_ask [before : Invariant M C P] {r : Req} {next : Resp r → Prog Req Resp β} {post : β → W → Prop}
    {memory : σ} {w : W} (holds : P memory w) (good : ∀ w', P memory w' → C.good w' r)
    (rest : ∀ issued response w', P memory issued → M.answer issued r response w' → Safe M C post (next response) w') :
    Safe M C post (.call r next) w :=
  safe_call (before.stable memory) holds fun issued holds' => ⟨before.mid memory issued holds', good issued holds',
    fun response w' => rest issued response w' holds'⟩

theorem safe_result {result : Except ε α} {memory : σ} {w : W}
    [Invariant M C (Q result)] (holds : Q result memory w) :
    Safe M C (fun outcome => Q outcome.1 outcome.2) (.pure (result, memory)) w :=
  safe_end holds fun _ => id

theorem Triple.post (triple : Triple M C P routine Q)
    (weaker : ∀ result memory w, Q result memory w → Q' result memory w) :
    Triple M C P routine Q' :=
  fun memory w holds => (triple memory w holds).mono fun _ w' _ => weaker _ _ w'

instance {B : σ → W → Prop} [first : Invariant M C A] [second : Invariant M .free B] :
    Invariant M C (Both A B) where
  stable memory _ _ changed holds :=
    ⟨first.stable memory changed holds.1, second.stable memory changed holds.2⟩
  mid memory w holds := first.mid memory w holds.1

theorem Triple.both {P' : σ → W → Prop} (first : Triple M C P routine Q)
    (second : Triple M .free P' routine Q') :
    Triple M C (Both P P') routine fun result => Both (Q result) (Q' result) :=
  fun memory w holds => (first memory w holds.1).both (second memory w holds.2)

theorem Maintains.both {B : σ → W → Prop} (first : Maintains M C A routine)
    (second : Maintains M .free B routine) : Maintains M C (Both A B) routine := Triple.both first second

theorem Triple.pre {P' : σ → W → Prop} (triple : Triple M C P routine Q)
    (stronger : ∀ memory w, P' memory w → P memory w) : Triple M C P' routine Q :=
  fun memory w holds => triple memory w (stronger memory w holds)

theorem Triple.given {R : σ → W → Prop} (triple : Triple M C P routine Q) :
    Triple M C (fun memory w => P memory w ∧ R memory w) routine Q := triple.pre fun _ _ holds => holds.1

theorem triple_pure [Invariant M C P] {value : α}
    (enough : ∀ memory w, P memory w → Q (.ok value) memory w) :
    Triple M C P (Pure.pure value) Q :=
  fun memory _ holds => safe_end holds (enough memory)

theorem triple_throw [Invariant M C P] {error : ε}
    (enough : ∀ memory w, P memory w → Q (.error error) memory w) :
    Triple M C P (throw error) Q :=
  fun memory _ holds => safe_end holds (enough memory)

theorem triple_modify {change : σ → σ} {Q : Except ε PUnit → σ → W → Prop} [Invariant M C P]
    (enough : ∀ memory w, P memory w → Q (.ok ⟨⟩) (change memory) w) :
    Triple M C P (modify change) Q :=
  fun memory _ holds => safe_end holds (enough memory)

theorem triple_request {r : Req} {Q : Except ε (Resp r) → σ → W → Prop}
    [before : Invariant M C P] [after : ∀ response, Invariant M C (Q (.ok response))]
    (enough : ∀ memory w, P memory w → C.good w r ∧
      ∀ response w', M.answer w r response w' → Q (.ok response) memory w') :
    Triple M C P (request r) Q := by
  intro memory w holds
  refine safe_ask holds (fun issued holds' => (enough memory issued holds').1) ?_
  intro issued response w' holds' reply
  exact safe_result ((enough memory issued holds').2 response w' reply)

/-- Sequencing: an early stop must meet the postcondition as it stands. -/
theorem Triple.bind {R : Except ε β → σ → W → Prop}
    (first : Triple M C P routine Q) (second : ∀ value, Triple M C (Q (.ok value)) (next value) R)
    (stopped : ∀ error memory w, Q (.error error) memory w → R (.error error) memory w) :
    Triple M C P (routine >>= next) R := by
  intro memory w holds
  refine safe_bind ((first memory w holds).settled.mono ?_)
  rintro ⟨error | value, memory'⟩ w' _ settled
  · intro later drift
    obtain ⟨mid, ended⟩ := settled later drift
    exact ⟨mid, stopped error memory' later ended⟩
  · exact second value memory' w' (settled w' .refl).2

theorem Triple.andThen {B : σ → W → Prop}
    {R : Except ε β → σ → W → Prop} (first : Triple M C P routine (Onward B R))
    (second : ∀ value, Triple M C B (next value) R) : Triple M C P (routine >>= next) R :=
  Triple.bind first second fun _ _ _ => id

theorem Triple.attempt {Q : Except ε' (Except ε α) → σ → W → Prop}
    (triple : Triple M C P routine fun result => Q (.ok result)) :
    Triple M C P (attempt routine : Routine Req Resp σ ε' (Except ε α)) Q :=
  fun memory w holds => safe_bind (triple memory w holds).settled

/-- A caught routine hands its result on, whatever that is. -/
theorem Triple.attempt_bind {next : Except ε α → Routine Req Resp σ ε' β} {R : Except ε' β → σ → W → Prop}
    (first : Triple M C P routine Q) (second : ∀ result, Triple M C (Q result) (next result) R) :
    Triple M C P (Routine.attempt routine >>= next) R :=
  Triple.bind (Triple.attempt (Q := Leaves Q fun _ _ => False) first) second fun _ _ _ => False.elim

theorem Triple.orElse {Q : Except ε' α → σ → W → Prop} [invariant : ∀ result, Invariant M C (Q result)]
    {translate : ε → ε'} (triple : Triple M C P routine fun result => Q (result.mapError translate)) :
    Triple M C P (routine.orElse translate) Q := by
  intro memory w holds
  refine safe_bind ((Triple.attempt (Q := fun result => match result with
    | .ok result => Q (result.mapError translate)
    | .error error => Q (.error error)) triple memory w holds).settled.mono ?_)
  rintro ⟨_ | error | value, memory'⟩ w' _ settled
  · exact settled
  · exact safe_result (settled w' .refl).2
  · exact safe_result (settled w' .refl).2

theorem Triple.orElse_leaves {B : α → σ → W → Prop} {S : σ → W → Prop} [∀ value, Invariant M C (B value)]
    [Invariant M C S] {translate : ε → ε'} (triple : Triple M C P routine (Leaves B S)) :
    Triple M C P (routine.orElse translate) (Leaves B S) := by
  refine Triple.orElse (triple.post fun result memory w holds => ?_)
  cases result with
  | ok value => exact holds
  | error error => exact holds

theorem Triple.leaves_bind {B : α → σ → W → Prop} {D : β → σ → W → Prop}
    {S : σ → W → Prop} (first : Triple M C P routine (Leaves B S))
    (second : ∀ value, Triple M C (B value) (next value) (Leaves D S)) :
    Triple M C P (routine >>= next) (Leaves D S) :=
  Triple.bind first second fun _ _ _ => id

theorem triple_foldlM {γ : Type} {step : β → γ → Routine Req Resp σ ε β} {B : β → σ → W → Prop}
    {S : σ → W → Prop} [∀ value, Invariant M C (B value)]
    (each : ∀ value item, Triple M C (B value) (step value item) (Leaves B S)) (items : List γ) (value : β) :
    Triple M C (B value) (items.foldlM step value) (Leaves B S) := by
  induction items generalizing value with
  | nil => exact triple_pure fun _ _ => id
  | cons item rest ih =>
    exact (each value item).leaves_bind fun value' => ih value'

theorem triple_forM {γ : Type} {step : γ → Routine Req Resp σ ε PUnit} {S : σ → W → Prop} [Invariant M C A]
    (each : ∀ item, Triple M C A (step item) (Leaves (fun _ => A) S)) (items : List γ) :
    Triple M C A (items.forM step) (Leaves (fun _ => A) S) := by
  induction items with
  | nil => exact triple_pure fun _ _ => id
  | cons item rest ih => exact (each item).leaves_bind fun _ => ih

theorem triple_get_bind {next : σ → Routine Req Resp σ ε α}
    (enough : ∀ memory, Triple M C (fun memory' w => memory' = memory ∧ P memory w) (next memory) Q) :
    Triple M C P (get >>= next) Q :=
  fun memory w holds => enough memory memory w ⟨rfl, holds⟩

theorem triple_get_pure [Invariant M C P] {value : σ → α}
    (enough : ∀ memory w, P memory w → Q (.ok (value memory)) memory w) :
    Triple M C P (get >>= fun memory => Pure.pure (value memory)) Q :=
  fun memory _ holds => safe_end holds (enough memory)

/-- A branch on the memory that neither side looks at again. -/
theorem triple_get_ite {c : σ → Prop} [DecidablePred c] {yes no : Routine Req Resp σ ε α}
    (met : Triple M C (fun memory w => P memory w ∧ c memory) yes Q)
    (unmet : Triple M C (fun memory w => P memory w ∧ ¬ c memory) no Q) :
    Triple M C P (get >>= fun memory => if c memory then yes else no) Q := by
  refine triple_get_bind fun memory => ?_
  split
  · next holds => exact met.pre fun _ _ read => ⟨read.1 ▸ read.2, read.1 ▸ holds⟩
  · next fails => exact unmet.pre fun _ _ read => ⟨read.1 ▸ read.2, read.1 ▸ fails⟩

theorem triple_modify_bind {change : σ → σ} {next : PUnit → Routine Req Resp σ ε α}
    {R : σ → W → Prop} (moved : ∀ memory w, P memory w → R (change memory) w)
    (rest : Triple M C R (next ⟨⟩) Q) : Triple M C P (modify change >>= next) Q :=
  fun memory w holds => rest (change memory) w (moved memory w holds)

theorem Maintains.bind_triple {R : Except ε β → σ → W → Prop} (first : Maintains M C A routine)
    (second : ∀ value, Triple M C A (next value) R)
    (stopped : ∀ error memory w, A memory w → R (.error error) memory w) :
    Triple M C A (routine >>= next) R :=
  Triple.bind first second stopped

theorem Maintains.onward {Q : Except ε β → σ → W → Prop} (kept : Maintains M C A routine)
    (stopped : ∀ error memory w, A memory w → Q (.error error) memory w) :
    Triple M C A routine (Onward A Q) := by
  refine Triple.post kept fun result memory w holds => ?_
  cases result with
  | ok value => exact holds
  | error error => exact stopped error memory w holds

theorem Maintains.steadily (kept : Maintains M C A routine) :
    Triple M C A routine (Onward A fun _ : Except ε β => A) := kept.onward fun _ _ _ => id

theorem Maintains.known {p : α → Prop} (kept : Maintains M C A routine) (yields : Yields p routine) :
    Triple M C A routine (Leaves (fun value memory w => A memory w ∧ p value) A) := by
  intro memory w holds
  refine ((kept memory w holds).returns (yields memory)).mono ?_
  rintro ⟨error | value, memory'⟩ w' _ ⟨known, reached⟩
  · exact reached
  · exact ⟨reached, known value rfl⟩

theorem Maintains.bind_yields {R : Except ε β → σ → W → Prop} {p : α → Prop} (first : Maintains M C A routine)
    (yields : Yields p routine) (second : ∀ value, p value → Triple M C A (next value) R)
    (stopped : ∀ error memory w, A memory w → R (.error error) memory w) :
    Triple M C A (routine >>= next) R := by
  refine (first.known yields).bind (fun value memory w holds => ?_) stopped
  exact second value holds.2 memory w holds.1

@[grind ←]
theorem maintains_pure [Invariant M C A] (value : α) :
    Maintains M C A (Pure.pure value : Routine Req Resp σ ε α) :=
  triple_pure fun _ _ => id

@[grind ←]
theorem maintains_throw [Invariant M C A] (error : ε) :
    Maintains M C A (throw error : Routine Req Resp σ ε α) :=
  triple_throw fun _ _ => id

@[grind ←]
theorem maintains_get [Invariant M C A] : Maintains M C A (get : Routine Req Resp σ ε σ) :=
  fun _ _ holds => safe_end holds fun _ => id

theorem maintains_modify [Invariant M C A] {change : σ → σ}
    (kept : ∀ memory w, A memory w → A (change memory) w) :
    Maintains M C A (modify change : Routine Req Resp σ ε PUnit) :=
  triple_modify kept

theorem maintains_request [invariant : Invariant M C A] {r : Req}
    (kept : ∀ memory w, A memory w → C.good w r ∧
      ∀ response w', M.answer w r response w' → A memory w') :
    Maintains M C A (request r : Routine Req Resp σ ε (Resp r)) :=
  triple_request kept

@[grind ←]
theorem maintains_bind (first : Maintains M C A routine)
    (second : ∀ value, Maintains M C A (next value)) : Maintains M C A (routine >>= next) :=
  first.bind_triple second fun _ _ _ => id

@[grind ←]
theorem maintains_attempt (kept : Maintains M C A routine) :
    Maintains M C A (attempt routine : Routine Req Resp σ ε' (Except ε α)) :=
  Triple.attempt kept

@[grind ←]
theorem maintains_orElse [Invariant M C A] {translate : ε → ε'} (kept : Maintains M C A routine) :
    Maintains M C A (routine.orElse translate) := by
  refine maintains_bind (maintains_attempt kept) ?_
  rintro (error | value)
  · exact maintains_throw _
  · exact maintains_pure _

@[grind ←]
theorem maintains_ignore [Invariant M C A] (kept : Maintains M C A routine) :
    Maintains M C A (ignore routine : Routine Req Resp σ ε' PUnit) :=
  maintains_bind (maintains_attempt kept) fun _ => maintains_pure _

theorem maintains_when {condition : Prop} [Decidable condition]
    {optional : Routine Req Resp σ ε PUnit} {rest : PUnit → Routine Req Resp σ ε α}
    (kept : Maintains M C A optional) (restKept : Maintains M C A (rest ⟨⟩)) :
    Maintains M C A (if condition then optional >>= rest else rest ⟨⟩) := by
  split
  · exact maintains_bind kept fun _ => restKept
  · exact restKept

theorem triple_when {condition : Prop} [Decidable condition]
    {optional : Routine Req Resp σ ε PUnit} {rest : PUnit → Routine Req Resp σ ε α}
    (kept : Maintains M C A optional) (restMeets : Triple M C A (rest ⟨⟩) Q)
    (stopped : ∀ error memory w, A memory w → Q (.error error) memory w) :
    Triple M C A (if condition then optional >>= rest else rest ⟨⟩) Q := by
  split
  · exact kept.bind_triple (fun _ => restMeets) stopped
  · exact restMeets

end Rules

end Routine

end SandboxedContainers.Lib
