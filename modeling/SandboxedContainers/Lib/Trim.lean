import Mathlib.Data.List.Basic
import Mathlib.Data.List.Infix
import Mathlib.Logic.Function.Iterate

/-!
# Trimming

Units are taken off both ends of a text for as long as there are any.  A unit may have
several symbols, as the characters of a text in UTF-8 have; what makes the two ends
independent of each other is that a unit can be told by its first symbol.
-/

namespace SandboxedContainers.Lib.Trim

variable {α : Type} {units : List (List α)} {lead : α → Bool} {symbol : α} {unit other text rest before after : List α}

/-- A unit starts with a symbol that stands nowhere else in a unit, and none is the start
of another one. -/
structure Code (units : List (List α)) (lead : α → Bool) : Prop where
  shape : ∀ unit ∈ units, ∃ first rest, unit = first :: rest ∧ lead first = true ∧
    ∀ symbol ∈ rest, lead symbol = false
  prefixFree : ∀ unit ∈ units, ∀ other ∈ units, unit <+: other → unit = other

namespace Code

theorem ne_nil (code : Code units lead) (member : unit ∈ units) : unit ≠ [] := by
  obtain ⟨first, rest, rfl, _⟩ := code.shape unit member
  exact List.cons_ne_nil first rest

theorem eq_nil_of_overlap (code : Code units lead) {common : List α} (member : before ++ symbol :: common ∈ units)
    (known : other ∈ units) (starts : other.head? = some symbol) : before = [] := by
  obtain ⟨first, rest, rfl, leads, _⟩ := code.shape other known
  cases starts
  obtain ⟨first', rest', same, _, inner⟩ := code.shape _ member
  cases before with
  | nil => rfl
  | cons first'' before =>
    obtain ⟨rfl, rfl⟩ := List.cons.inj same
    have trails := inner symbol (by simp)
    rw [leads] at trails
    cases trails

theorem suffixFree (code : Code units lead) (member : unit ∈ units) (known : other ∈ units)
    (ends : unit <:+ other) : unit = other := by
  obtain ⟨before, rfl⟩ := ends
  obtain ⟨first, rest, rfl, _⟩ := code.shape unit member
  rw [code.eq_nil_of_overlap known member rfl, List.nil_append]

theorem reversed_free (code : Code units lead) :
    ∀ unit ∈ units.map List.reverse, ∀ other ∈ units.map List.reverse, unit <+: other → unit = other := by
  intro unit member other known starts
  obtain ⟨unit', member', rfl⟩ := List.mem_map.mp member
  obtain ⟨other', known', rfl⟩ := List.mem_map.mp known
  rw [code.suffixFree member' known' (List.reverse_prefix.mp starts)]

end Code

section Operations

variable [DecidableEq α]

def stripStart (units : List (List α)) (text : List α) : List α :=
  match units.find? (·.isPrefixOf text) with
  | some unit => text.drop unit.length
  | none => text

def stripEnd (units : List (List α)) (text : List α) : List α :=
  (stripStart (units.map List.reverse) text.reverse).reverse

def trimStart (units : List (List α)) (text : List α) : List α := (stripStart units)^[text.length] text

def trimEnd (units : List (List α)) (text : List α) : List α := (stripEnd units)^[text.length] text

def trim (units : List (List α)) (text : List α) : List α := trimEnd units (trimStart units text)

end Operations

section Strip

variable [DecidableEq α]

theorem exists_start_or (units : List (List α)) (text : List α) :
    (∃ unit ∈ units, ∃ rest, text = unit ++ rest) ∨ ∀ unit ∈ units, ¬ unit <+: text := by
  by_cases some : ∃ unit ∈ units, unit <+: text
  · obtain ⟨unit, member, rest, same⟩ := some
    exact .inl ⟨unit, member, rest, same.symm⟩
  · exact .inr fun unit member starts => some ⟨unit, member, starts⟩

theorem exists_end_or (units : List (List α)) (text : List α) :
    (∃ unit ∈ units, ∃ rest, text = rest ++ unit) ∨ ∀ unit ∈ units, ¬ unit <:+ text := by
  by_cases some : ∃ unit ∈ units, unit <:+ text
  · obtain ⟨unit, member, rest, same⟩ := some
    exact .inl ⟨unit, member, rest, same.symm⟩
  · exact .inr fun unit member ends => some ⟨unit, member, ends⟩

theorem stripStart_of_none (none : ∀ unit ∈ units, ¬ unit <+: text) : stripStart units text = text := by
  have missed : units.find? (·.isPrefixOf text) = .none := by
    rw [List.find?_eq_none]
    intro unit member starts
    exact none unit member (List.isPrefixOf_iff_prefix.mp starts)
  rw [stripStart, missed]

theorem stripStart_append (free : ∀ unit ∈ units, ∀ other ∈ units, unit <+: other → unit = other)
    (member : unit ∈ units) : stripStart units (unit ++ rest) = rest := by
  cases found : units.find? (·.isPrefixOf (unit ++ rest)) with
  | none =>
    rw [List.find?_eq_none] at found
    exact absurd (List.isPrefixOf_iff_prefix.mpr (List.prefix_append unit rest)) (found unit member)
  | some other =>
    have starts := List.find?_some found
    rw [List.isPrefixOf_iff_prefix] at starts
    have known := List.mem_of_find?_eq_some found
    have same : other = unit := by
      rcases List.prefix_or_prefix_of_prefix starts (List.prefix_append unit rest) with within | within
      · exact free other known unit member within
      · exact (free unit member other known within).symm
    rw [stripStart, found, same]
    exact List.drop_left

theorem stripEnd_of_none (none : ∀ unit ∈ units, ¬ unit <:+ text) : stripEnd units text = text := by
  rw [stripEnd, stripStart_of_none, List.reverse_reverse]
  intro unit member starts
  obtain ⟨original, known, rfl⟩ := List.mem_map.mp member
  exact none original known (List.reverse_prefix.mp starts)

theorem stripStart_within (units : List (List α)) (text : List α) : stripStart units text <:+ text := by
  unfold stripStart
  split
  · exact List.drop_suffix _ _
  · exact List.suffix_refl _

theorem stripEnd_within (units : List (List α)) (text : List α) : stripEnd units text <+: text := by
  rw [stripEnd, ← List.reverse_suffix, List.reverse_reverse]
  exact stripStart_within _ _

theorem stripStart_nil : stripStart units [] = [] := List.suffix_nil.mp (stripStart_within units [])

theorem stripEnd_nil : stripEnd units [] = [] := List.prefix_nil.mp (stripEnd_within units [])

theorem stripStart_cut {symbol : α} {before after : List α}
    (free : ∀ unit ∈ units, ∀ other ∈ units, unit <+: other → unit = other)
    (foreign : ∀ unit ∈ units, symbol ∉ unit) :
    stripStart units (before ++ symbol :: after) = stripStart units before ++ symbol :: after := by
  rcases exists_start_or units before with ⟨unit, member, rest, rfl⟩ | none
  · rw [List.append_assoc, stripStart_append free member, stripStart_append free member]
  · rw [stripStart_of_none none, stripStart_of_none]
    intro unit member starts
    rcases List.prefix_or_prefix_of_prefix starts (List.prefix_append before (symbol :: after)) with within | within
    · exact none unit member within
    · obtain ⟨more, rfl⟩ := within
      cases more with
      | nil => exact none _ member (by rw [List.append_nil])
      | cons other more =>
        obtain ⟨rfl, _⟩ := List.cons_prefix_cons.mp ((List.prefix_append_right_inj before).mp starts)
        exact foreign _ member (by simp)

end Strip

namespace Code

variable [DecidableEq α]

theorem stripStart_append (code : Code units lead) (member : unit ∈ units) :
    stripStart units (unit ++ rest) = rest :=
  Trim.stripStart_append code.prefixFree member

theorem stripEnd_append (code : Code units lead) (member : unit ∈ units) :
    stripEnd units (rest ++ unit) = rest := by
  rw [stripEnd, List.reverse_append, Trim.stripStart_append code.reversed_free (List.mem_map_of_mem member),
    List.reverse_reverse]

theorem strip_comm_apart (code : Code units lead) (middle : List α) (member : unit ∈ units) (known : other ∈ units) :
    stripStart units (stripEnd units (unit ++ (middle ++ other))) =
      stripEnd units (stripStart units (unit ++ (middle ++ other))) := by
  calc stripStart units (stripEnd units (unit ++ (middle ++ other)))
      = stripStart units (unit ++ middle) := by rw [← List.append_assoc, code.stripEnd_append known]
    _ = middle := code.stripStart_append member
    _ = stripEnd units (middle ++ other) := (code.stripEnd_append known).symm
    _ = stripEnd units (stripStart units (unit ++ (middle ++ other))) := by rw [code.stripStart_append member]

theorem strip_comm (code : Code units lead) : Function.Commute (stripStart units) (stripEnd units) := by
  intro text
  rcases exists_start_or units text with ⟨unit, member, rest, rfl⟩ | noStart
  · rcases exists_end_or units (unit ++ rest) with ⟨other, known, front, same⟩ | noEnd
    · rcases List.append_eq_append_iff.mp same with ⟨middle, rfl, rfl⟩ | ⟨common, rfl, rfl⟩
      · exact code.strip_comm_apart middle member known
      · cases common with
        | nil =>
          rw [List.append_nil] at member ⊢
          exact code.strip_comm_apart [] member known
        | cons symbol common =>
          -- the two units overlap, so they are one and the same
          obtain rfl := code.eq_nil_of_overlap member known rfl
          have whole := code.prefixFree _ member _ known (List.prefix_append _ _)
          obtain rfl : rest = [] := by simpa using whole
          rw [code.stripStart_append member, same, code.stripEnd_append known, stripStart_nil, stripEnd_nil]
    · have noEnd' : ∀ other ∈ units, ¬ other <:+ rest := fun other known ends =>
        noEnd other known (ends.trans (List.suffix_append unit rest))
      rw [stripEnd_of_none noEnd, code.stripStart_append member, stripEnd_of_none noEnd']
  · rcases exists_end_or units text with ⟨other, known, front, rfl⟩ | noEnd
    · have noStart' : ∀ unit ∈ units, ¬ unit <+: front := fun unit member starts =>
        noStart unit member (starts.trans (List.prefix_append front other))
      rw [stripStart_of_none noStart, code.stripEnd_append known, stripStart_of_none noStart']
    · rw [stripStart_of_none noStart, stripEnd_of_none noEnd, stripStart_of_none noStart]

theorem stripStart_cut (code : Code units lead) (foreign : ∀ unit ∈ units, symbol ∉ unit) :
    stripStart units (before ++ symbol :: after) = stripStart units before ++ symbol :: after :=
  Trim.stripStart_cut code.prefixFree foreign

theorem stripEnd_cut (code : Code units lead) (foreign : ∀ unit ∈ units, symbol ∉ unit) :
    stripEnd units (before ++ symbol :: after) = before ++ symbol :: stripEnd units after := by
  have foreign' : ∀ unit ∈ units.map List.reverse, symbol ∉ unit := by
    intro unit member inside
    obtain ⟨original, known, rfl⟩ := List.mem_map.mp member
    exact foreign original known (List.mem_reverse.mp inside)
  have turned : (before ++ symbol :: after).reverse = after.reverse ++ symbol :: before.reverse := by simp
  rw [stripEnd, turned, Trim.stripStart_cut code.reversed_free foreign', stripEnd]
  simp

theorem stripStart_shrinks (code : Code units lead) (text : List α) :
    stripStart units text = text ∨ (stripStart units text).length < text.length := by
  rcases exists_start_or units text with ⟨unit, member, rest, rfl⟩ | none
  · have positive := List.length_pos_iff.mpr (code.ne_nil member)
    rw [code.stripStart_append member, List.length_append]
    right
    omega
  · exact .inl (stripStart_of_none none)

theorem stripEnd_shrinks (code : Code units lead) (text : List α) :
    stripEnd units text = text ∨ (stripEnd units text).length < text.length := by
  rcases exists_end_or units text with ⟨unit, member, rest, rfl⟩ | none
  · have positive := List.length_pos_iff.mpr (code.ne_nil member)
    rw [code.stripEnd_append member, List.length_append]
    right
    omega
  · exact .inl (stripEnd_of_none none)

end Code

section Iterate

variable {step : List α → List α} {count : Nat}

theorem iterate_fixed (shrinks : ∀ text, step text = text ∨ (step text).length < text.length) :
    ∀ count (text : List α), text.length ≤ count → step (step^[count] text) = step^[count] text := by
  intro count
  induction count with
  | zero =>
    intro text short
    rcases shrinks text with same | shorter
    · exact same
    · omega
  | succ count ih =>
    intro text short
    rw [Function.iterate_succ_apply]
    rcases shrinks text with same | shorter
    · rw [same, Function.iterate_fixed same, same]
    · exact ih (step text) (by omega)

theorem iterate_of_length_le (shrinks : ∀ text, step text = text ∨ (step text).length < text.length)
    (long : text.length ≤ count) : step^[count] text = step^[text.length] text := by
  obtain ⟨more, rfl⟩ := Nat.exists_eq_add_of_le' long
  rw [Function.iterate_add_apply]
  exact Function.iterate_fixed (iterate_fixed shrinks _ text le_rfl) more

theorem iterate_length_le (shrinks : ∀ text, step text = text ∨ (step text).length < text.length) :
    ∀ count (text : List α), (step^[count] text).length ≤ text.length := by
  intro count
  induction count with
  | zero => exact fun _ => le_rfl
  | succ count ih =>
    intro text
    rw [Function.iterate_succ_apply]
    refine (ih (step text)).trans ?_
    rcases shrinks text with same | shorter
    · rw [same]
    · exact shorter.le

end Iterate

namespace Code

variable [DecidableEq α]

theorem trimStart_of_length_le (code : Code units lead) {count : Nat} (long : text.length ≤ count) :
    (stripStart units)^[count] text = trimStart units text :=
  iterate_of_length_le code.stripStart_shrinks long

theorem trimEnd_of_length_le (code : Code units lead) {count : Nat} (long : text.length ≤ count) :
    (stripEnd units)^[count] text = trimEnd units text :=
  iterate_of_length_le code.stripEnd_shrinks long

theorem trimStart_idem (code : Code units lead) : trimStart units (trimStart units text) = trimStart units text :=
  Function.iterate_fixed (iterate_fixed code.stripStart_shrinks _ text le_rfl) _

theorem trimEnd_idem (code : Code units lead) : trimEnd units (trimEnd units text) = trimEnd units text :=
  Function.iterate_fixed (iterate_fixed code.stripEnd_shrinks _ text le_rfl) _

theorem trim_comm (code : Code units lead) : trimStart units (trimEnd units text) = trimEnd units (trimStart units text) := by
  have short : (trimStart units text).length ≤ text.length := iterate_length_le code.stripStart_shrinks _ _
  have short' : (trimEnd units text).length ≤ text.length := iterate_length_le code.stripEnd_shrinks _ _
  rw [← code.trimStart_of_length_le short', ← code.trimEnd_of_length_le short]
  exact code.strip_comm.iterate_iterate text.length text.length text

theorem trim_trimStart (code : Code units lead) : trim units (trimStart units text) = trim units text := by
  rw [trim, code.trimStart_idem, trim]

theorem trim_trimEnd (code : Code units lead) : trim units (trimEnd units text) = trim units text := by
  rw [trim, code.trim_comm, code.trimEnd_idem, trim]

theorem trim_append_unit (code : Code units lead) {unit : List α} (member : unit ∈ units) :
    trim units (text ++ unit) = trim units text := by
  have ends : trimEnd units (text ++ unit) = trimEnd units text := by
    rw [← code.trimEnd_of_length_le (Nat.le_succ _), Function.iterate_succ_apply, code.stripEnd_append member]
    exact code.trimEnd_of_length_le (by simp)
  rw [trim, trim, ← code.trim_comm, ← code.trim_comm, ends]

variable (code : Code units lead) (foreign : ∀ unit ∈ units, symbol ∉ unit)
include code foreign

theorem trimStart_cut :
    trimStart units (before ++ symbol :: after) = trimStart units before ++ symbol :: after := by
  have steps (count : Nat) : ∀ before, (stripStart units)^[count] (before ++ symbol :: after) =
      (stripStart units)^[count] before ++ symbol :: after := by
    induction count with
    | zero => exact fun _ => rfl
    | succ count ih =>
      intro before
      rw [Function.iterate_succ_apply, Function.iterate_succ_apply, code.stripStart_cut foreign, ih]
  rw [trimStart, steps, code.trimStart_of_length_le (by simp)]

theorem trimEnd_cut :
    trimEnd units (before ++ symbol :: after) = before ++ symbol :: trimEnd units after := by
  have steps (count : Nat) : ∀ after, (stripEnd units)^[count] (before ++ symbol :: after) =
      before ++ symbol :: (stripEnd units)^[count] after := by
    induction count with
    | zero => exact fun _ => rfl
    | succ count ih =>
      intro after
      rw [Function.iterate_succ_apply, Function.iterate_succ_apply, code.stripEnd_cut foreign, ih]
  rw [trimEnd, steps, code.trimEnd_of_length_le (by simp; omega)]

/-- Around a symbol that is in no unit, each side is trimmed at its outer end. -/
theorem trim_cut :
    trim units (before ++ symbol :: after) = trimStart units before ++ symbol :: trimEnd units after := by
  rw [trim, code.trimStart_cut foreign, code.trimEnd_cut foreign]

end Code

section Members

variable [DecidableEq α]

theorem mem_of_mem_trimStart (member : symbol ∈ trimStart units text) : symbol ∈ text := by
  have steps (count : Nat) : ∀ text, symbol ∈ (stripStart units)^[count] text → symbol ∈ text := by
    induction count with
    | zero => exact fun _ => id
    | succ count ih =>
      intro text member
      exact (stripStart_within units text).subset (ih _ member)
  exact steps _ text member

theorem mem_of_mem_trimEnd (member : symbol ∈ trimEnd units text) : symbol ∈ text := by
  have steps (count : Nat) : ∀ text, symbol ∈ (stripEnd units)^[count] text → symbol ∈ text := by
    induction count with
    | zero => exact fun _ => id
    | succ count ih =>
      intro text member
      exact (stripEnd_within units text).subset (ih _ member)
  exact steps _ text member

theorem mem_of_mem_trim (member : symbol ∈ trim units text) : symbol ∈ text :=
  mem_of_mem_trimStart (mem_of_mem_trimEnd member)

end Members

end SandboxedContainers.Lib.Trim
