import Mathlib.Data.List.Perm.Basic

/-!
# Lists that come in no particular order

Equal values make the same list in every order, and each value of a list comes first in
one order and last in another.
-/

namespace SandboxedContainers.Lib

variable {α : Type}

theorem eq_of_perm_of_constant {first second : List α} (perm : first.Perm second)
    (constant : ∀ x ∈ second, ∀ y ∈ second, x = y) : first = second := by
  cases second with
  | nil => exact perm.eq_nil
  | cons head rest =>
    have replicated : head :: rest = List.replicate (rest.length + 1) head :=
      List.eq_replicate_of_mem fun x member => constant x member head List.mem_cons_self
    rw [replicated] at perm ⊢
    exact List.perm_replicate.mp perm

theorem exists_perm_first {values : List α} {value : α} (member : value ∈ values) :
    ∃ rest, (value :: rest).Perm values := by
  obtain ⟨before, after, rfl⟩ := List.append_of_mem member
  exact ⟨before ++ after, List.perm_middle.symm⟩

theorem exists_perm_last {values : List α} {value : α} (member : value ∈ values) :
    ∃ rest, (rest ++ [value]).Perm values := by
  obtain ⟨rest, perm⟩ := exists_perm_first member
  exact ⟨rest, (List.perm_append_singleton value rest).trans perm⟩

end SandboxedContainers.Lib
