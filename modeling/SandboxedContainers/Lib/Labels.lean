import Mathlib.Data.Finmap

/-!
# Labels and label selectors

Kubernetes label maps and the two selector types of its client library: the
user-facing `LabelSelector` and the compiled `Selector`, a conjunction of
requirements.  `LabelSelector.asSelector` is the conversion between them, with
the checks that make it fail.
-/

namespace SandboxedContainers.Lib

/-- A map from strings to strings; two maps with the same lookups are equal. -/
abbrev StrMap := Finmap fun _ : String => String

namespace StrMap

def getD (m : StrMap) (key : String) : String := (m.lookup key).getD ""

def ofList (entries : List (String × String)) : StrMap :=
  entries.foldl (fun m entry => m.insert entry.1 entry.2) ∅

def hasKey (m : StrMap) (key : String) : Bool := (m.lookup key).isSome

/-- Copy every entry of `entries` into `m`, the new value winning. -/
def copy (m : StrMap) (entries : List (String × String)) : StrMap :=
  entries.foldl (fun acc entry => acc.insert entry.1 entry.2) m

instance : LeftCommutative fun (key : String) (m : StrMap) => m.erase key where
  left_comm _ _ _ := Finmap.erase_erase

def eraseAll (m : StrMap) (keys : Finset String) : StrMap :=
  keys.val.foldr (fun key rest => rest.erase key) m

/-- The effect on `current` of the merge patch that turns `old` into `new`. -/
def mergePatch (old new current : StrMap) : StrMap :=
  eraseAll new (new.keys.filter fun key => old.lookup key = new.lookup key) ∪
    eraseAll current (old.keys \ new.keys)

theorem hasKey_insert (m : StrMap) (key key' value : String) :
    hasKey (m.insert key value) key' = (decide (key' = key) || hasKey m key') := by
  by_cases same : key' = key
  · subst same
    simp [hasKey, Finmap.lookup_insert]
  · simp [hasKey, Finmap.lookup_insert_of_ne m same, same]

theorem hasKey_erase (m : StrMap) (key key' : String) :
    hasKey (m.erase key) key' = (!decide (key' = key) && hasKey m key') := by
  by_cases same : key' = key
  · subst same
    simp [hasKey, Finmap.lookup_erase]
  · simp [hasKey, Finmap.lookup_erase_ne same, same]

theorem getD_insert (m : StrMap) (key key' value : String) :
    getD (m.insert key value) key' = if key' = key then value else getD m key' := by
  by_cases same : key' = key
  · subst same
    simp [getD, Finmap.lookup_insert]
  · simp [getD, Finmap.lookup_insert_of_ne m same, same]

theorem getD_erase (m : StrMap) (key key' : String) :
    getD (m.erase key) key' = if key' = key then "" else getD m key' := by
  by_cases same : key' = key
  · subst same
    simp [getD, Finmap.lookup_erase]
  · simp [getD, Finmap.lookup_erase_ne same, same]

theorem lookup_union (m m' : StrMap) (key : String) :
    (m ∪ m').lookup key = (m.lookup key).or (m'.lookup key) := by
  by_cases member : key ∈ m
  · obtain ⟨value, found⟩ := Option.isSome_iff_exists.mp (Finmap.lookup_isSome.mpr member)
    rw [Finmap.lookup_union_left member, found, Option.some_or]
  · rw [Finmap.lookup_union_right member, Finmap.lookup_eq_none.mpr member, Option.none_or]

theorem lookup_copy (m : StrMap) (entries : List (String × String)) (key : String) :
    (copy m entries).lookup key = (((copy ∅ entries).lookup key).or (m.lookup key)) := by
  unfold copy
  induction entries using List.reverseRecOn with
  | nil => simp
  | append_singleton entries entry ih =>
    rw [List.foldl_append, List.foldl_append]
    simp only [List.foldl_cons, List.foldl_nil]
    by_cases same : key = entry.1
    · subst same
      simp [Finmap.lookup_insert]
    · rw [Finmap.lookup_insert_of_ne _ same, Finmap.lookup_insert_of_ne _ same, ih]

theorem ofList_append (entries more : List (String × String)) :
    ofList (entries ++ more) = ofList more ∪ ofList entries := by
  apply Finmap.ext_lookup
  intro key
  have copied := lookup_copy (ofList entries) more key
  rw [ofList, List.foldl_append, lookup_union]
  exact copied

theorem lookup_eraseAll (m : StrMap) (keys : Finset String) (key : String) :
    (eraseAll m keys).lookup key = if key ∈ keys then none else m.lookup key := by
  have folded (keys : Multiset String) : (keys.foldr (fun key (rest : StrMap) => rest.erase key) m).lookup key =
      if key ∈ keys then none else m.lookup key := by
    induction keys using Multiset.induction_on with
    | empty => simp
    | cons head tail ih =>
      rw [Multiset.foldr_cons]
      by_cases same : key = head
      · subst same
        simp [Finmap.lookup_erase]
      · rw [Finmap.lookup_erase_ne same, ih]
        simp [same]
  exact folded keys.val

/-- A merge patch changes the keys in which the two maps differ. -/
theorem lookup_mergePatch (old new current : StrMap) (key : String) :
    (mergePatch old new current).lookup key =
      if old.lookup key = new.lookup key then current.lookup key else new.lookup key := by
  rw [mergePatch, lookup_union, lookup_eraseAll, lookup_eraseAll]
  simp only [Finset.mem_filter, Finset.mem_sdiff, Finmap.mem_keys, ← Finmap.lookup_isSome]
  cases wanted : new.lookup key with
  | none => cases found : old.lookup key <;> simp
  | some value =>
    by_cases same : old.lookup key = some value
    · simp [same]
    · simp [same]

theorem mergePatch_self (old new : StrMap) : mergePatch old new old = new := by
  apply Finmap.ext_lookup
  intro key
  rw [lookup_mergePatch]
  split
  · next same => exact same
  · rfl

end StrMap

/-- The operators a compiled requirement can have. -/
inductive Operator where
  | equals
  | isIn
  | notIn
  | exists
  | doesNotExist
  deriving DecidableEq, Repr

structure Requirement where
  key : String
  operator : Operator
  values : List String
  deriving DecidableEq

namespace Requirement

def accepts (requirement : Requirement) (labels : StrMap) : Bool :=
  match requirement.operator, labels.lookup requirement.key with
  | .equals, found | .isIn, found => found.any fun value => requirement.values.contains value
  | .notIn, found => found.all fun value => !requirement.values.contains value
  | .exists, found => found.isSome
  | .doesNotExist, found => found.isNone

end Requirement

/-- A conjunction of requirements; the empty one selects everything. -/
abbrev Selector := List Requirement

def Selector.accepts (selector : Selector) (labels : StrMap) : Bool :=
  selector.all fun requirement => requirement.accepts labels

/-- The selector that asks for exactly the given entries. -/
def Selector.ofSet (entries : List (String × String)) : Selector :=
  entries.map fun entry => ⟨entry.1, .equals, [entry.2]⟩

/-- A requirement as a user writes it: the operator is free text. -/
structure LabelSelectorRequirement where
  key : String
  operator : String
  values : List String
  deriving DecidableEq

structure LabelSelector where
  matchLabels : List (String × String) := []
  matchExpressions : List LabelSelectorRequirement := []
  deriving DecidableEq

namespace LabelSelector

def isAlnum (c : Char) : Bool := c.isAlphanum

def isLowerAlnum (c : Char) : Bool := c.isLower || c.isDigit

/-- Nonempty, starts and ends with an `edge` character, and has only `inner`
characters in between. -/
def framed (edge inner : Char → Bool) (text : List Char) : Bool :=
  match text.head?, text.getLast? with
  | some first, some last => edge first && edge last && text.all inner
  | _, _ => false

def validName (text : List Char) : Bool :=
  text.length ≤ 63 &&
    framed isAlnum (fun c => isAlnum c || c = '-' || c = '_' || c = '.') text

def validSubdomain (text : List Char) : Bool :=
  text.length ≤ 253 &&
    (text.splitOn '.').all (framed isLowerAlnum fun c => isLowerAlnum c || c = '-')

/-- A qualified name: an optional DNS subdomain and a slash, then a name. -/
def validKey (key : String) : Bool :=
  match key.toList.splitOn '/' with
  | [name] => validName name
  | [domain, name] => validSubdomain domain && validName name
  | _ => false

def validValue (value : String) : Bool := value.toList.isEmpty || validName value.toList

def compileOperator : String → Option Operator
  | "In" => some .isIn
  | "NotIn" => some .notIn
  | "Exists" => some .exists
  | "DoesNotExist" => some .doesNotExist
  | _ => none

/-- The number of values each operator accepts. -/
def validArity : Operator → List String → Bool
  | .equals, values => values.length = 1
  | .isIn, values | .notIn, values => !values.isEmpty
  | .exists, values | .doesNotExist, values => values.isEmpty

def newRequirement (key : String) (operator : Operator) (values : List String) :
    Option Requirement :=
  if validKey key && validArity operator values && values.all validValue then
    some ⟨key, operator, values⟩
  else none

/-- Compile a selector; `none` is the error of the client library. -/
def asSelector (selector : LabelSelector) : Option Selector := do
  let labels ← selector.matchLabels.mapM fun entry => newRequirement entry.1 .equals [entry.2]
  let expressions ← selector.matchExpressions.mapM fun expression => do
    let operator ← compileOperator expression.operator
    newRequirement expression.key operator expression.values
  return labels ++ expressions

def addLabel (selector : LabelSelector) (key value : String) : LabelSelector :=
  { selector with
    matchLabels := selector.matchLabels.filter (fun entry => entry.1 ≠ key) ++ [(key, value)] }

end LabelSelector

end SandboxedContainers.Lib
