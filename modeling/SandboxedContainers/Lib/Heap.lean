import Mathlib.Data.List.Infix
import Mathlib.Data.List.Basic

/-!
# Values behind references

A heap of cells that are allocated one after the other and never freed.  A reference is the
position of its cell, so two variables that hold the same reference share what is
written through either of them.
-/

namespace SandboxedContainers.Lib

structure Heap (α : Type) where
  cells : List α

abbrev Ref := Nat

namespace Heap

variable {α β : Type}

def read [Inhabited α] (heap : Heap α) (ref : Ref) : α := (heap.cells[ref]?).getD default

def alloc (value : α) : StateM (Heap α) Ref :=
  fun heap => (heap.cells.length, ⟨heap.cells ++ [value]⟩)

def modify [Inhabited α] (ref : Ref) (change : Heap α → α → α) : StateM (Heap α) PUnit :=
  fun heap => (⟨⟩, ⟨heap.cells.modify ref (change heap)⟩)

theorem run_bind {γ : Type} {program : StateM (Heap α) β} {next : β → StateM (Heap α) γ} {heap heap' : Heap α}
    {result : β} (first : program heap = (result, heap')) : (program >>= next) heap = next result heap' := by
  have unfolded : (program >>= next) heap = next (program heap).1 (program heap).2 := rfl
  rw [unfolded, first]

variable [Inhabited α] {cells : List α} {value : α}

theorem read_append (added : List α) {ref : Ref} (old : ref < cells.length) :
    read ⟨cells ++ added⟩ ref = read ⟨cells⟩ ref := by
  rw [read, read, List.getElem?_append_left old]

@[simp] theorem read_last : read ⟨cells ++ [value]⟩ cells.length = value := by
  simp [read]

theorem modify_last (change : Heap α → α → α) : modify cells.length change ⟨cells ++ [value]⟩ =
      (⟨⟩, ⟨cells ++ [change ⟨cells ++ [value]⟩ value]⟩) := by
  have last : (cells ++ [value]).modify cells.length (change ⟨cells ++ [value]⟩) =
      cells ++ [change ⟨cells ++ [value]⟩ value] := by
    generalize change ⟨cells ++ [value]⟩ = f
    induction cells with
    | nil => rfl
    | cons head tail ih => exact congrArg (head :: ·) ih
  exact congrArg (fun cells => (PUnit.unit, Heap.mk cells)) last

end Heap

end SandboxedContainers.Lib
