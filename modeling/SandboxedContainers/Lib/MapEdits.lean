import SandboxedContainers.Lib.Labels

/-!
# Editing a map of strings entry by entry

A client that wants some entries in a map, and others out of it, walks over its wishes in
an order it does not choose.  Each step assigns an entry that reads differently, or drops
one that has a given value; a flag says whether anything was done.  Entries under different
keys do not get into each other's way, so the order makes no difference.
-/

namespace SandboxedContainers.Lib.StrMap

/-- The wishes of a map: one for each key. -/
def Distinct (entries : List (String × String)) : Prop := (entries.map Prod.fst).Nodup

/-- Assign an entry that reads differently. -/
def set (m : StrMap) (entry : String × String) : StrMap :=
  if getD m entry.1 = entry.2 then m else m.insert entry.1 entry.2

/-- Drop an entry that has the given value. -/
def drop (m : StrMap) (entry : String × String) : StrMap :=
  if m.lookup entry.1 = some entry.2 then m.erase entry.1 else m

def assign (m : StrMap) (entries : List (String × String)) : StrMap := entries.foldl set m

def discard (m : StrMap) (entries : List (String × String)) : StrMap := entries.foldl drop m

def assigns : StrMap → List (String × String) → Bool
  | _, [] => false
  | m, entry :: rest => getD m entry.1 ≠ entry.2 || assigns (set m entry) rest

def discards : StrMap → List (String × String) → Bool
  | _, [] => false
  | m, entry :: rest => m.lookup entry.1 = some entry.2 || discards (drop m entry) rest

section Steps

variable (m : StrMap) (entry : String × String) (key : String)

theorem lookup_set :
    (set m entry).lookup key = if key = entry.1 ∧ getD m key ≠ entry.2 then some entry.2 else m.lookup key := by
  unfold set
  by_cases same : key = entry.1
  · subst same
    by_cases reads : getD m entry.1 = entry.2
    · simp [reads]
    · simp [reads, Finmap.lookup_insert]
  · split
    · simp [same]
    · simp [same, Finmap.lookup_insert_of_ne m same]

theorem getD_set : getD (set m entry) key = if key = entry.1 then entry.2 else getD m key := by
  unfold set
  by_cases same : key = entry.1
  · subst same
    split
    · next reads => simp [reads]
    · simp [getD_insert]
  · rw [if_neg same]
    split
    · rfl
    · rw [getD_insert, if_neg same]

theorem lookup_drop :
    (drop m entry).lookup key = if key = entry.1 ∧ m.lookup key = some entry.2 then none else m.lookup key := by
  unfold drop
  by_cases same : key = entry.1
  · subst same
    split
    · next holds => simp [holds, Finmap.lookup_erase]
    · next differs => simp [differs]
  · split
    · simp [same, Finmap.lookup_erase_ne same]
    · simp [same]

end Steps

section Order

variable {m : StrMap} {entry other : String × String} {entries others : List (String × String)}

theorem set_comm (differs : entry.1 ≠ other.1) : set (set m entry) other = set (set m other) entry := by
  apply Finmap.ext_lookup
  intro key
  simp only [lookup_set, getD_set]
  by_cases same : key = entry.1
  · subst same
    simp [differs]
  · simp [same]

theorem drop_comm (differs : entry.1 ≠ other.1) : drop (drop m entry) other = drop (drop m other) entry := by
  apply Finmap.ext_lookup
  intro key
  simp only [lookup_drop]
  by_cases same : key = entry.1
  · subst same
    simp [differs]
  · simp [same]

theorem Distinct.eq_of_key (distinct : Distinct entries) (member : entry ∈ entries)
    (otherMember : other ∈ entries) (same : entry.1 = other.1) : entry = other :=
  List.inj_on_of_nodup_map distinct member otherMember same

theorem Distinct.tail (distinct : Distinct (entry :: entries)) : Distinct entries :=
  (List.nodup_cons.mp distinct).2

theorem Distinct.head_ne (distinct : Distinct (entry :: entries)) (member : other ∈ entries) :
    other.1 ≠ entry.1 := by
  intro same
  apply (List.nodup_cons.mp distinct).1
  rw [← same]
  exact List.mem_map_of_mem member

theorem assign_perm (distinct : Distinct entries) (perm : entries.Perm others) :
    assign m entries = assign m others := by
  apply perm.foldl_eq'
  intro first firstMember second secondMember before
  by_cases same : first.1 = second.1
  · rw [distinct.eq_of_key firstMember secondMember same]
  · exact set_comm same

theorem discard_perm (distinct : Distinct entries) (perm : entries.Perm others) :
    discard m entries = discard m others := by
  apply perm.foldl_eq'
  intro first firstMember second secondMember before
  by_cases same : first.1 = second.1
  · rw [distinct.eq_of_key firstMember secondMember same]
  · exact drop_comm same

theorem assigns_eq_any (distinct : Distinct entries) :
    assigns m entries = entries.any fun entry => getD m entry.1 ≠ entry.2 := by
  induction entries generalizing m with
  | nil => rfl
  | cons head tail ih =>
    rw [assigns, ih distinct.tail, List.any_cons]
    congr 1
    rw [Bool.eq_iff_iff, List.any_eq_true, List.any_eq_true]
    refine exists_congr fun entry => and_congr_right fun member => ?_
    rw [getD_set, if_neg (distinct.head_ne member)]

theorem discards_eq_any (distinct : Distinct entries) :
    discards m entries = entries.any fun entry => m.lookup entry.1 = some entry.2 := by
  induction entries generalizing m with
  | nil => rfl
  | cons head tail ih =>
    rw [discards, ih distinct.tail, List.any_cons]
    congr 1
    rw [Bool.eq_iff_iff, List.any_eq_true, List.any_eq_true]
    refine exists_congr fun entry => and_congr_right fun member => ?_
    simp [lookup_drop, distinct.head_ne member]

theorem any_perm {test : String × String → Bool} (perm : entries.Perm others) :
    entries.any test = others.any test := by
  rw [Bool.eq_iff_iff, List.any_eq_true, List.any_eq_true]
  exact exists_congr fun entry => and_congr_left fun _ => perm.mem_iff

theorem assigns_perm (distinct : Distinct entries) (perm : entries.Perm others) :
    assigns m entries = assigns m others := by
  rw [assigns_eq_any distinct, assigns_eq_any ((perm.map _).nodup distinct), any_perm perm]

theorem discards_perm (distinct : Distinct entries) (perm : entries.Perm others) :
    discards m entries = discards m others := by
  rw [discards_eq_any distinct, discards_eq_any ((perm.map _).nodup distinct), any_perm perm]

end Order

section Reading

variable {m : StrMap} {entries : List (String × String)} {key value : String}

theorem lookup_assign_of_ne (elsewhere : ∀ entry ∈ entries, entry.1 ≠ key) :
    (assign m entries).lookup key = m.lookup key := by
  induction entries generalizing m with
  | nil => rfl
  | cons head tail ih =>
    rw [List.forall_mem_cons] at elsewhere
    refine (ih elsewhere.2).trans ?_
    simp [lookup_set, elsewhere.1.symm]

theorem lookup_discard_of_ne (elsewhere : ∀ entry ∈ entries, entry.1 ≠ key) :
    (discard m entries).lookup key = m.lookup key := by
  induction entries generalizing m with
  | nil => rfl
  | cons head tail ih =>
    rw [List.forall_mem_cons] at elsewhere
    refine (ih elsewhere.2).trans ?_
    simp [lookup_drop, elsewhere.1.symm]

theorem getD_assign_of_mem (distinct : Distinct entries) (member : (key, value) ∈ entries) :
    getD (assign m entries) key = value := by
  induction entries generalizing m with
  | nil => cases member
  | cons head tail ih =>
    rcases List.mem_cons.mp member with rfl | later
    · have kept : (assign (set m (key, value)) tail).lookup key = (set m (key, value)).lookup key :=
        lookup_assign_of_ne fun entry found => distinct.head_ne found
      refine (congrArg (fun found => found.getD "") kept).trans ?_
      exact (getD_set m (key, value) key).trans (if_pos rfl)
    · exact ih distinct.tail later

theorem lookup_discard_ne (distinct : Distinct entries) (member : (key, value) ∈ entries) :
    (discard m entries).lookup key ≠ some value := by
  induction entries generalizing m with
  | nil => cases member
  | cons head tail ih =>
    rcases List.mem_cons.mp member with rfl | later
    · have kept : (discard (drop m (key, value)) tail).lookup key = (drop m (key, value)).lookup key :=
        lookup_discard_of_ne fun entry found => distinct.head_ne found
      refine ne_of_eq_of_ne kept ?_
      rw [lookup_drop]
      split
      · exact nofun
      · next differs => exact fun holds => differs ⟨rfl, holds⟩
    · exact ih distinct.tail later

theorem assign_eq_self (quiet : assigns m entries = false) : assign m entries = m := by
  induction entries generalizing m with
  | nil => rfl
  | cons head tail ih =>
    simp only [assigns, Bool.or_eq_false_iff, ne_eq, decide_not, Bool.not_eq_false', decide_eq_true_eq] at quiet
    have unset : set m head = m := if_pos quiet.1
    rw [unset] at quiet
    exact (congrArg (assign · tail) unset).trans (ih quiet.2)

theorem discard_eq_self (quiet : discards m entries = false) : discard m entries = m := by
  induction entries generalizing m with
  | nil => rfl
  | cons head tail ih =>
    simp only [discards, Bool.or_eq_false_iff, decide_eq_false_iff_not] at quiet
    have undropped : drop m head = m := if_neg quiet.1
    rw [undropped] at quiet
    exact (congrArg (discard · tail) undropped).trans (ih quiet.2)

end Reading

end SandboxedContainers.Lib.StrMap
