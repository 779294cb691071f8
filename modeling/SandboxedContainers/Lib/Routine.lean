import SandboxedContainers.Lib.Prog

/-!
# Fallible programs with a local memory

`Routine Req Resp σ ε α` is a program that keeps a private memory `σ`, may stop
early with an `ε`, and otherwise returns an `α`.  The memory survives an early
stop, so a caller that recovers from it sees every assignment made before it.
-/

namespace SandboxedContainers.Lib

def Routine (Req : Type) (Resp : Req → Type) (σ ε α : Type) : Type :=
  σ → Prog Req Resp (Except ε α × σ)

namespace Routine

variable {Req : Type} {Resp : Req → Type} {σ ε ε' α β : Type}

def pure (value : α) : Routine Req Resp σ ε α := fun memory => .pure (.ok value, memory)

/-- Stop early; whoever called the routine sees `error`. -/
def throw (error : ε) : Routine Req Resp σ ε α := fun memory => .pure (.error error, memory)

def bind (routine : Routine Req Resp σ ε α) (next : α → Routine Req Resp σ ε β) :
    Routine Req Resp σ ε β := fun memory =>
  routine memory >>= fun
    | (.ok value, memory') => next value memory'
    | (.error error, memory') => .pure (.error error, memory')

instance : Monad (Routine Req Resp σ ε) where
  pure := Routine.pure
  bind := Routine.bind

/-- What sequencing does with the outcome of the first routine. -/
def proceed (next : α → Routine Req Resp σ ε β) : Except ε α × σ → Prog Req Resp (Except ε β × σ)
  | (.ok value, memory) => next value memory
  | (.error error, memory) => .pure (.error error, memory)

theorem bind_run (routine : Routine Req Resp σ ε α) (next : α → Routine Req Resp σ ε β) (memory : σ) :
    (routine >>= next) memory = routine memory >>= proceed next := rfl

/-- Issue a request and hand its response on. -/
def request (r : Req) : Routine Req Resp σ ε (Resp r) := fun memory =>
  .call r fun response => .pure (.ok response, memory)

def get : Routine Req Resp σ ε σ := fun memory => .pure (.ok memory, memory)

def modify (change : σ → σ) : Routine Req Resp σ ε PUnit := fun memory =>
  .pure (.ok ⟨⟩, change memory)

/-- Run a routine and return how it ended instead of passing its error on. -/
def attempt (routine : Routine Req Resp σ ε α) : Routine Req Resp σ ε' (Except ε α) := fun memory =>
  routine memory >>= fun (result, memory') => .pure (.ok result, memory')

/-- Stop with a translated error where the routine stops with an error. -/
def orElse (routine : Routine Req Resp σ ε α) (translate : ε → ε') : Routine Req Resp σ ε' α :=
  attempt routine >>= fun
    | .ok value => pure value
    | .error error => throw (translate error)

/-- Carry on whether or not the routine failed. -/
def ignore (routine : Routine Req Resp σ ε α) : Routine Req Resp σ ε' PUnit :=
  attempt routine >>= fun _ => pure ⟨⟩

/-- Every value the routine returns satisfies `p`. -/
def Yields (p : α → Prop) (routine : Routine Req Resp σ ε α) : Prop :=
  ∀ memory, (routine memory).Returns fun outcome => ∀ value, outcome.1 = .ok value → p value

theorem yields_pure {p : α → Prop} {value : α} (holds : p value) :
    Yields p (Pure.pure value : Routine Req Resp σ ε α) := by
  rintro memory _ ⟨rfl⟩
  exact holds

theorem yields_throw {p : α → Prop} (error : ε) : Yields p (throw error : Routine Req Resp σ ε α) := by
  rintro memory _ ⟨⟩

theorem Yields.bind {q : α → Prop} {p : β → Prop} {routine : Routine Req Resp σ ε α}
    {next : α → Routine Req Resp σ ε β} (first : Yields q routine) (last : ∀ value, q value → Yields p (next value)) :
    Yields p (routine >>= next) := by
  refine fun memory => (first memory).bind ?_
  rintro ⟨error | value, memory'⟩ holds
  · rintro _ ⟨⟩
  · exact last value (holds value rfl) memory'

theorem yields_bind {p : β → Prop} {routine : Routine Req Resp σ ε α}
    {next : α → Routine Req Resp σ ε β} (last : ∀ value, Yields p (next value)) :
    Yields p (routine >>= next) := by
  refine fun memory => (routine memory).returns_true.bind ?_
  rintro ⟨error | value, memory'⟩ _
  · rintro _ ⟨⟩
  · exact last value memory'

theorem Yields.orElse {p : α → Prop} {routine : Routine Req Resp σ ε α} {translate : ε → ε'}
    (yields : Yields p routine) : Yields p (routine.orElse translate) := by
  refine fun memory => ((yields memory).bind (q := fun outcome => ∀ result, outcome.1 = .ok result →
    ∀ value, result = .ok value → p value) ?_).bind ?_
  · rintro outcome holds _ ⟨rfl⟩
    exact holds
  · rintro ⟨error | error | value, memory'⟩ holds
    · rintro _ ⟨⟩
    · rintro _ ⟨⟩
    · rintro _ ⟨rfl⟩
      exact holds _ rfl _ rfl

/-- Every error the routine stops with satisfies `p`. -/
def Stops (p : ε → Prop) (routine : Routine Req Resp σ ε α) : Prop :=
  ∀ memory, (routine memory).Returns fun outcome => ∀ error, outcome.1 = .error error → p error

@[grind ←]
theorem stops_pure {p : ε → Prop} (value : α) : Stops p (Pure.pure value : Routine Req Resp σ ε α) := by
  rintro memory _ ⟨⟩

@[grind ←]
theorem stops_throw {p : ε → Prop} {error : ε} (holds : p error) :
    Stops p (throw error : Routine Req Resp σ ε α) := by
  rintro memory _ ⟨rfl⟩
  exact holds

@[grind ←]
theorem Stops.bind {p : ε → Prop} {routine : Routine Req Resp σ ε α} {next : α → Routine Req Resp σ ε β}
    (first : Stops p routine) (rest : ∀ value, Stops p (next value)) : Stops p (routine >>= next) := by
  refine fun memory => (first memory).bind ?_
  rintro ⟨error | value, memory'⟩ holds
  · rintro _ ⟨rfl⟩
    exact holds _ rfl
  · exact rest value memory'

@[grind ←]
theorem stops_attempt {p : ε' → Prop} (routine : Routine Req Resp σ ε α) :
    Stops p (attempt routine : Routine Req Resp σ ε' (Except ε α)) := by
  refine fun memory => (routine memory).returns_true.bind fun outcome _ => ?_
  rintro _ ⟨⟩

end Routine

end SandboxedContainers.Lib
