import Mathlib.Data.Set.Basic

/-!
# Programs that talk to a service

`Prog Req Resp α` is a program that issues requests and continues with the
responses.  It gives the requests no meaning: the machine that answers them is
chosen later, so one program can be run against a failing, a crashing or an
interfering service.
-/

namespace SandboxedContainers.Lib

/-- A finite program over the requests `Req`, where `Resp r` answers `r`. -/
inductive Prog (Req : Type) (Resp : Req → Type) (α : Type) where
  | pure (value : α)
  | call (request : Req) (next : Resp request → Prog Req Resp α)

namespace Prog

variable {Req : Type} {Resp : Req → Type} {α β γ : Type}

/-- Sequencing: `next` is grafted onto every leaf. -/
def bind : Prog Req Resp α → (α → Prog Req Resp β) → Prog Req Resp β
  | .pure value, next => next value
  | .call request rest, next => .call request fun response => (rest response).bind next

instance : Monad (Prog Req Resp) where
  pure := Prog.pure
  bind := Prog.bind

@[simp] theorem call_bind (request : Req) (rest : Resp request → Prog Req Resp α)
    (next : α → Prog Req Resp β) :
    (Prog.call request rest >>= next) = Prog.call request fun response => rest response >>= next := rfl

theorem bind_assoc (program : Prog Req Resp α) (first : α → Prog Req Resp β) (second : β → Prog Req Resp γ) :
    program >>= first >>= second = program >>= fun value => first value >>= second := by
  induction program with
  | pure value => rfl
  | call request rest ih =>
    simp only [call_bind]
    congr 1
    funext response
    exact ih response

/-- However it is answered, the program returns a value that satisfies `p`. -/
def Returns (p : α → Prop) : Prog Req Resp α → Prop
  | .pure value => p value
  | .call _ next => ∀ response, (next response).Returns p

theorem returns_true (program : Prog Req Resp α) : program.Returns fun _ => True := by
  induction program with
  | pure value => trivial
  | call request rest ih => exact ih

theorem Returns.bind {program : Prog Req Resp α} {next : α → Prog Req Resp β} {p : α → Prop}
    {q : β → Prop} (first : program.Returns p) (rest : ∀ value, p value → (next value).Returns q) :
    (program >>= next).Returns q := by
  induction program with
  | pure value => exact rest value first
  | call request later ih => exact fun response => ih response (first response)

end Prog

end SandboxedContainers.Lib
