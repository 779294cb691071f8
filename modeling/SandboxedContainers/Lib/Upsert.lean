import Mathlib.Data.List.Nodup

/-!
# Tables with a key

A table is a list of rows.  `upsert` puts a row in the place of the first one with its key, or
at the end if there is none.
-/

namespace SandboxedContainers.Lib

variable {α κ : Type} [DecidableEq κ]

def upsert (key : α → κ) (x : α) : List α → List α
  | [] => [x]
  | y :: ys => if key y = key x then x :: ys else y :: upsert key x ys

variable {key : α → κ} {x y : α} {xs : List α}

theorem mem_upsert_self : x ∈ upsert key x xs := by
  induction xs with
  | nil => exact List.mem_singleton_self x
  | cons y ys ih =>
    rw [upsert]
    split
    · exact List.mem_cons_self
    · exact List.mem_cons_of_mem y ih

theorem map_upsert :
    (upsert key x xs).map key = if key x ∈ xs.map key then xs.map key else xs.map key ++ [key x] := by
  induction xs with
  | nil => simp [upsert]
  | cons y ys ih =>
    by_cases same : key y = key x
    · simp [upsert, same]
    · rw [upsert, if_neg same, List.map_cons, ih]
      by_cases later : key x ∈ ys.map key
      · simp [later]
      · simp [later, Ne.symm same]

theorem nodup_upsert (unique : (xs.map key).Nodup) : ((upsert key x xs).map key).Nodup := by
  rw [map_upsert]
  split
  · exact unique
  · next absent =>
    apply List.Nodup.append unique (List.nodup_singleton _)
    simpa using absent

theorem filter_upsert_ne : (upsert key x xs).filter (key · ≠ key x) = xs.filter (key · ≠ key x) := by
  induction xs with
  | nil => simp [upsert]
  | cons y ys ih =>
    by_cases same : key y = key x
    · simp [upsert, same]
    · simp only [upsert, if_neg same, List.filter_cons, ih]

theorem filter_upsert_eq (unique : (xs.map key).Nodup) : (upsert key x xs).filter (key · = key x) = [x] := by
  induction xs with
  | nil => simp [upsert]
  | cons y ys ih =>
    obtain ⟨first, rest⟩ := List.nodup_cons.mp unique
    by_cases same : key y = key x
    · have others : ys.filter (key · = key x) = [] := by
        apply List.filter_eq_nil_iff.mpr
        intro other member found
        apply first
        rw [same, ← of_decide_eq_true found]
        exact List.mem_map_of_mem member
      rw [upsert, if_pos same, List.filter_cons_of_pos (by simp), others]
    · rw [upsert, if_neg same, List.filter_cons_of_neg (by simpa using same), ih rest]

theorem upsert_upsert (same : key y = key x) : upsert key y (upsert key x xs) = upsert key y xs := by
  induction xs with
  | nil => simp [upsert, same]
  | cons head tail ih =>
    by_cases found : key head = key x
    · simp [upsert, found, same]
    · simp [upsert, found, same, ih]

end SandboxedContainers.Lib
