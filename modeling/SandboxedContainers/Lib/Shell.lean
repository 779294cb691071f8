import SandboxedContainers.Lib.Eval

/-!
# Shell scripts

A `ShellScript` runs commands and goes on with their exit status and output; leaving it
early is `exit`.  Nothing is said about what the commands do.  A command of a script
under `set -e` is run with `must`.
-/

namespace SandboxedContainers.Lib

/-- What a command leaves: its exit status and the lines it prints. -/
structure Output where
  status : Nat := 0
  lines : List String := []
  deriving DecidableEq, Repr

/-- The text a command substitution captures from a command that prints one line. -/
def Output.text (output : Output) : String := output.lines.headD ""

abbrev ShellScript (Cmd α : Type) := Routine Cmd (fun _ => Output) Unit Nat α

namespace ShellScript

variable {Cmd S α β : Type}

def run (command : Cmd) : ShellScript Cmd Output := Routine.request command

def exit (status : Nat) : ShellScript Cmd α := Routine.throw status

def succeeds (command : Cmd) : ShellScript Cmd Bool := do
  return (← run command).status = 0

/-- `$(command)`. -/
def capture (command : Cmd) : ShellScript Cmd String := do
  return (← run command).text

/-- A command whose failure ends the script. -/
def must (command : Cmd) : ShellScript Cmd Output := do
  let output ← run command
  if output.status = 0 then return output else exit output.status

/-- A command whose failure ends the script only where `set -e` counts: not in the condition of
an `if`, nor in a function that is called there. -/
def checked (errexit : Bool) (command : Cmd) : ShellScript Cmd Nat := do
  let output ← run command
  if errexit = true ∧ output.status ≠ 0 then exit output.status else return output.status

/-- The status of a pipeline under `pipefail`: that of the last command that fails. -/
def pipefail (statuses : List Nat) : Nat := (statuses.reverse.find? (· ≠ 0)).getD 0

/-- Commands that are scripts themselves, in a shell of their own. -/
def nested {Tool : Type} (serve : S → Tool → Output × S) (script : Cmd → ShellScript Tool Output) (s : S)
    (command : Cmd) : Output × S :=
  let ((result, _), s) := (script command).eval serve () s
  match result with
  | .ok output => (output, s)
  | .error status => (⟨status, []⟩, s)

/-- The exit status of a script that ends with `exit`, or with its last command. -/
def exitStatus : Except Nat Nat → Nat
  | .ok status => status
  | .error status => status

section Inquiry

variable {p : Cmd → Prop} {command : Cmd}

@[grind ←]
theorem inquiry_exit (status : Nat) : Routine.Inquiry p (exit status : ShellScript Cmd α) :=
  Routine.inquiry_throw status

@[grind ←]
theorem inquiry_run (allowed : p command) : Routine.Inquiry p (run command) := Routine.inquiry_request allowed

@[grind ←]
theorem inquiry_succeeds (allowed : p command) : Routine.Inquiry p (succeeds command) :=
  (inquiry_run allowed).bind fun _ => Routine.inquiry_pure _

@[grind ←]
theorem inquiry_capture (allowed : p command) : Routine.Inquiry p (capture command) :=
  (inquiry_run allowed).bind fun _ => Routine.inquiry_pure _

@[grind ←]
theorem inquiry_must (allowed : p command) : Routine.Inquiry p (must command) := by
  unfold must
  grind

@[grind ←]
theorem inquiry_checked (errexit : Bool) (allowed : p command) : Routine.Inquiry p (checked errexit command) := by
  unfold checked
  grind

end Inquiry

variable {serve : S → Cmd → Output × S} {s : S}

@[simp] theorem eval_exit (status : Nat) :
    (exit status : ShellScript Cmd α).eval serve () s = ((.error status, ()), s) := rfl

@[simp] theorem eval_exit_bind (status : Nat) (next : α → ShellScript Cmd β) :
    ((exit status : ShellScript Cmd α) >>= next).eval serve () s = ((.error status, ()), s) := rfl

@[simp] theorem eval_run_bind (command : Cmd) (next : Output → ShellScript Cmd α) :
    (run command >>= next).eval serve () s =
      (next (serve s command).1).eval serve () (serve s command).2 := rfl

@[simp] theorem eval_succeeds_bind (command : Cmd) (next : Bool → ShellScript Cmd α) :
    (succeeds command >>= next).eval serve () s =
      (next ((serve s command).1.status = 0)).eval serve () (serve s command).2 := rfl

@[simp] theorem eval_capture_bind (command : Cmd) (next : String → ShellScript Cmd α) :
    (capture command >>= next).eval serve () s =
      (next (serve s command).1.text).eval serve () (serve s command).2 := rfl

theorem eval_must_bind_ok {command : Cmd} (works : (serve s command).1.status = 0)
    (next : Output → ShellScript Cmd α) :
    (must command >>= next).eval serve () s =
      (next (serve s command).1).eval serve () (serve s command).2 := by
  refine Routine.eval_bind_ok ?_ next
  refine (eval_run_bind command _).trans ?_
  rw [if_pos works]
  rfl

theorem eval_must_bind_error {command : Cmd} (fails : (serve s command).1.status ≠ 0)
    (next : Output → ShellScript Cmd α) :
    (must command >>= next).eval serve () s =
      ((.error (serve s command).1.status, ()), (serve s command).2) := by
  refine Routine.eval_bind_error ?_ next
  refine (eval_run_bind command _).trans ?_
  rw [if_neg fails]
  rfl

end ShellScript

end SandboxedContainers.Lib
