import SandboxedContainers.Lib.Labels

/-!
# Renaming the entries of a map

A table says under which key an entry is to stand.  Either the entries are walked through,
each put under its new key, or the table is, each of its lines fetching an entry.  Both leave
under a key the last value its source has.
-/

namespace SandboxedContainers.Lib.StrMap

/-- No two lines of the table have the same source, or the same target. -/
structure OneToOne (table : List (String × String)) : Prop where
  sources : (table.map Prod.fst).Nodup
  targets : (table.map Prod.snd).Nodup

/-- Put an entry under the key the table has for it, if any. -/
def rename (table : List (String × String)) (m : StrMap) (entry : String × String) : StrMap :=
  match table.lookup entry.1 with
  | some key => m.insert key entry.2
  | none => m

/-- Fetch the entry a line of the table is about, if there is one. -/
def fetch (source m : StrMap) (line : String × String) : StrMap :=
  match source.lookup line.1 with
  | some value => m.insert line.2 value
  | none => m

def lastValue (name : String) (entries : List (String × String)) : Option String :=
  ((entries.filter (·.1 = name)).getLast?).map Prod.snd

section LastValue

variable {name : String} {entries : List (String × String)} {entry : String × String}

theorem lastValue_concat :
    lastValue name (entries ++ [entry]) = if entry.1 = name then some entry.2 else lastValue name entries := by
  rw [lastValue, List.filter_append]
  by_cases same : entry.1 = name
  · simp [same]
  · simp [same, lastValue]

theorem lookup_ofList (entries : List (String × String)) (name : String) :
    (ofList entries).lookup name = lastValue name entries := by
  induction entries using List.reverseRecOn with
  | nil => rfl
  | append_singleton entries entry ih =>
    rw [ofList, List.foldl_append, lastValue_concat]
    by_cases same : entry.1 = name
    · subst same
      rw [if_pos rfl]
      exact Finmap.lookup_insert _
    · rw [if_neg same]
      exact (Finmap.lookup_insert_of_ne _ (Ne.symm same)).trans ih

end LastValue

section Rename

variable {table entries : List (String × String)} {m : StrMap} {line entry : String × String} {key : String}

theorem OneToOne.lookup_source (oneToOne : OneToOne table) (known : line ∈ table) :
    table.lookup line.1 = some line.2 := by
  obtain ⟨before, after, rfl⟩ := List.append_of_mem known
  rw [List.lookup_eq_some_iff]
  refine ⟨before, after, rfl, ?_⟩
  intro other member
  have nodup := oneToOne.sources
  rw [List.map_append, List.map_cons, List.nodup_append] at nodup
  rw [bne_iff_ne]
  exact (nodup.2.2 other.1 (List.mem_map_of_mem member) line.1 List.mem_cons_self).symm

theorem OneToOne.target_ne (oneToOne : OneToOne table) (known : line ∈ table) {other : String × String}
    (listed : other ∈ table) (differs : other.1 ≠ line.1) : line.2 ≠ other.2 := by
  intro same
  exact differs (congrArg Prod.fst (List.inj_on_of_nodup_map oneToOne.targets listed known same.symm))

theorem mem_of_lookup {source target : String} (found : table.lookup source = some target) :
    (source, target) ∈ table := by
  obtain ⟨before, after, rfl, _⟩ := List.lookup_eq_some_iff.mp found
  simp

theorem lookup_rename (oneToOne : OneToOne table) (known : line ∈ table) :
    (rename table m entry).lookup line.2 = if entry.1 = line.1 then some entry.2 else m.lookup line.2 := by
  unfold rename
  by_cases same : entry.1 = line.1
  · rw [same, oneToOne.lookup_source known, if_pos rfl]
    exact Finmap.lookup_insert _
  · rw [if_neg same]
    split
    · next target found =>
        exact Finmap.lookup_insert_of_ne _ (oneToOne.target_ne known (mem_of_lookup found) same)
    · rfl

theorem lookup_rename_of_not_mem (foreign : key ∉ table.map Prod.snd) :
    (rename table m entry).lookup key = m.lookup key := by
  unfold rename
  split
  · next target found =>
      refine Finmap.lookup_insert_of_ne _ ?_
      rintro rfl
      exact foreign (List.mem_map_of_mem (mem_of_lookup found))
  · rfl

/-- The last entry a line of the table is about is what its target has. -/
theorem lookup_foldl_rename (oneToOne : OneToOne table) (known : line ∈ table) :
    (entries.foldl (rename table) m).lookup line.2 = (lastValue line.1 entries).or (m.lookup line.2) := by
  induction entries using List.reverseRecOn with
  | nil => rfl
  | append_singleton entries entry ih =>
    rw [List.foldl_append, List.foldl_cons, List.foldl_nil, lookup_rename oneToOne known, lastValue_concat]
    by_cases same : entry.1 = line.1
    · rw [if_pos same, if_pos same, Option.some_or]
    · rw [if_neg same, if_neg same, ih]

theorem lookup_foldl_rename_of_not_mem (foreign : key ∉ table.map Prod.snd) :
    (entries.foldl (rename table) m).lookup key = m.lookup key := by
  induction entries generalizing m with
  | nil => rfl
  | cons entry entries ih =>
    exact ih.trans (lookup_rename_of_not_mem foreign)

end Rename

section Fetch

variable {source m : StrMap} {table : List (String × String)} {line : String × String} {key : String}

theorem lookup_fetch (source m : StrMap) (line : String × String) :
    (fetch source m line).lookup line.2 = (source.lookup line.1).or (m.lookup line.2) := by
  unfold fetch
  cases source.lookup line.1 with
  | none => rw [Option.none_or]
  | some value =>
    rw [Option.some_or]
    exact Finmap.lookup_insert _

theorem lookup_fetch_of_ne (differs : key ≠ line.2) : (fetch source m line).lookup key = m.lookup key := by
  unfold fetch
  split
  · exact Finmap.lookup_insert_of_ne _ differs
  · rfl

theorem lookup_foldl_fetch_of_not_mem (foreign : key ∉ table.map Prod.snd) :
    (table.foldl (fetch source) m).lookup key = m.lookup key := by
  induction table generalizing m with
  | nil => rfl
  | cons line table ih =>
    rw [List.map_cons, List.mem_cons, not_or] at foreign
    exact (ih foreign.2).trans (lookup_fetch_of_ne foreign.1)

theorem lookup_foldl_fetch (targets : (table.map Prod.snd).Nodup) (known : line ∈ table) :
    (table.foldl (fetch source) m).lookup line.2 = (source.lookup line.1).or (m.lookup line.2) := by
  induction table generalizing m with
  | nil => cases known
  | cons head table ih =>
    rw [List.map_cons, List.nodup_cons] at targets
    rcases List.mem_cons.mp known with rfl | later
    · exact (lookup_foldl_fetch_of_not_mem targets.1).trans (lookup_fetch source m line)
    · refine (ih targets.2 later).trans ?_
      rw [lookup_fetch_of_ne]
      rintro same
      exact targets.1 (same ▸ List.mem_map_of_mem later)

/-- It makes no difference which of the two is walked through, nor in which order. -/
theorem foldl_rename_eq_foldl_fetch (oneToOne : OneToOne table) {entries : List (String × String)}
    (whole : ofList entries = source) : entries.foldl (rename table) m = table.foldl (fetch source) m := by
  apply Finmap.ext_lookup
  intro key
  by_cases known : key ∈ table.map Prod.snd
  · obtain ⟨line, listed, rfl⟩ := List.mem_map.mp known
    rw [lookup_foldl_rename oneToOne listed, lookup_foldl_fetch oneToOne.targets listed, ← whole, lookup_ofList]
  · rw [lookup_foldl_rename_of_not_mem known, lookup_foldl_fetch_of_not_mem known]

end Fetch

end SandboxedContainers.Lib.StrMap
