import SandboxedContainers.Lib.Labels

/-!
# A typed object store with optimistic locking

The part of a Kubernetes API server that its clients can observe: collections
of named objects, one per kind, with resource versions, finalizers and
deletion timestamps.  `Store.exec` answers a request and returns the new store.

Keys are unique in a collection and no stored version lies in the future; both
are fields, so no request or interference can produce a store without them.
-/

namespace SandboxedContainers.Lib

structure Key where
  ns : String
  name : String
  deriving DecidableEq, Repr

structure OwnerReference where
  kind : String
  name : String
  uid : Nat
  controller : Bool
  deriving DecidableEq

structure ObjectMeta where
  name : String
  ns : String := ""
  labels : StrMap := ∅
  annotations : StrMap := ∅
  finalizers : List String := []
  /-- Whether the deletion timestamp is set. -/
  deletionTimestamp : Bool := false
  ownerReferences : List OwnerReference := []
  /-- Zero stands for a value the client has left unset. -/
  uid : Nat := 0
  resourceVersion : Nat := 0
  deriving DecidableEq

def ObjectMeta.key (metadata : ObjectMeta) : Key := ⟨metadata.ns, metadata.name⟩

/-- The server has assigned both numbers, at `version` or before. -/
structure ObjectMeta.Assigned (version : Nat) (metadata : ObjectMeta) : Prop where
  resourceVersion_pos : 0 < metadata.resourceVersion
  resourceVersion_le : metadata.resourceVersion ≤ version
  uid_pos : 0 < metadata.uid
  uid_le : metadata.uid ≤ version

theorem ObjectMeta.Assigned.later {version later : Nat} {metadata : ObjectMeta}
    (assigned : metadata.Assigned version) (le : version ≤ later) : metadata.Assigned later :=
  ⟨assigned.resourceVersion_pos, assigned.resourceVersion_le.trans le, assigned.uid_pos,
    assigned.uid_le.trans le⟩

/-- What the server knows about each kind of object. -/
class Schema (Kind : Type) where
  Body : Kind → Type
  /-- The body kept of an object submitted for creation. -/
  created : (k : Kind) → Body k → Body k
  /-- The body kept of an update: a status subresource stays as it was. -/
  updated : (k : Kind) → (stored submitted : Body k) → Body k
  /-- The body kept of an update through the status subresource. -/
  statusUpdated : (k : Kind) → (stored submitted : Body k) → Body k

structure Object {Kind : Type} [Schema Kind] (k : Kind) where
  metadata : ObjectMeta
  body : Schema.Body k

inductive Reason where
  | notFound
  | alreadyExists
  | conflict
  | invalid
  | gone
  | noMatch
  | other
  deriving DecidableEq, Repr

structure ApiError where
  reason : Reason
  message : String
  deriving DecidableEq, Repr

/-- An error that says nothing about what the store holds. -/
def ApiError.Transient (error : ApiError) : Prop :=
  error.reason = .other ∨ error.reason = .conflict

instance (error : ApiError) : Decidable error.Transient :=
  inferInstanceAs (Decidable (_ ∨ _))

section Collection

variable {Kind : Type} [Schema Kind] {k : Kind}

def Object.key (object : Object k) : Key := object.metadata.key

def Object.withUid (object : Object k) (uid : Nat) : Object k :=
  { object with metadata := { object.metadata with uid := uid } }

@[simp] theorem Object.key_withUid (object : Object k) (uid : Nat) :
    (object.withUid uid).key = object.key := rfl

def Object.uid (object : Object k) : Nat := object.metadata.uid

/-- The objects of one kind; neither a key nor a uid occurs twice. -/
structure Collection (k : Kind) where
  items : List (Object k)
  nodup : (items.map Object.key).Nodup
  uids : (items.map Object.uid).Nodup

namespace Collection

def empty : Collection k := ⟨[], List.nodup_nil, List.nodup_nil⟩

def find? (c : Collection k) (key : Key) : Option (Object k) :=
  c.items.find? fun object => object.key = key

theorem find?_mem {c : Collection k} {key : Key} {object : Object k}
    (found : c.find? key = some object) : object ∈ c.items ∧ object.key = key :=
  ⟨List.mem_of_find?_eq_some found, by simpa using List.find?_some found⟩

theorem eq_of_key {c : Collection k} {first second : Object k} (inFirst : first ∈ c.items)
    (inSecond : second ∈ c.items) (same : first.key = second.key) : first = second :=
  List.inj_on_of_nodup_map c.nodup inFirst inSecond same

theorem eq_of_uid {c : Collection k} {first second : Object k} (inFirst : first ∈ c.items)
    (inSecond : second ∈ c.items) (same : first.metadata.uid = second.metadata.uid) :
    first = second :=
  List.inj_on_of_nodup_map c.uids inFirst inSecond same

theorem find?_eq_some {c : Collection k} {key : Key} {object : Object k} :
    c.find? key = some object ↔ object ∈ c.items ∧ object.key = key := by
  refine ⟨find?_mem, fun ⟨member, same⟩ => ?_⟩
  cases found : c.find? key with
  | none =>
    have absent := List.find?_eq_none.mp found object member
    simp [same] at absent
  | some other =>
    obtain ⟨otherMember, otherSame⟩ := find?_mem found
    rw [eq_of_key otherMember member (otherSame.trans same.symm)]

theorem find?_eq_none {c : Collection k} {key : Key} :
    c.find? key = none ↔ ∀ object ∈ c.items, object.key ≠ key := by
  simp [find?, List.find?_eq_none]

theorem nodup_append_singleton {α β : Type} {f : α → β} {values : List α} {value : α}
    (nodup : (values.map f).Nodup) (fresh : ∀ other ∈ values, f other ≠ f value) :
    ((values ++ [value]).map f).Nodup := by
  rw [List.map_append, List.nodup_append]
  refine ⟨nodup, List.nodup_singleton _, ?_⟩
  intro image member other otherMember
  obtain ⟨stored, storedMember, rfl⟩ := List.mem_map.mp member
  simpa [List.mem_singleton.mp otherMember] using fresh stored storedMember

theorem length_le {before after : Collection k}
    (known : ∀ object ∈ after.items, ∃ old ∈ before.items, old.metadata.uid = object.metadata.uid) :
    after.items.length ≤ before.items.length := by
  have subset : after.items.map Object.uid ⊆ before.items.map Object.uid := by
    intro uid member
    obtain ⟨object, stored, rfl⟩ := List.mem_map.mp member
    obtain ⟨old, oldStored, same⟩ := known object stored
    exact List.mem_map.mpr ⟨old, oldStored, same⟩
  simpa using (after.uids.subperm subset).length_le

def add (c : Collection k) (object : Object k) : Collection k :=
  if fresh : c.find? object.key = none ∧ ∀ other ∈ c.items, other.uid ≠ object.uid then
    ⟨c.items ++ [object], nodup_append_singleton c.nodup (find?_eq_none.mp fresh.1),
      nodup_append_singleton c.uids fresh.2⟩
  else c

theorem length_add_le (c : Collection k) (object : Object k) :
    (c.add object).items.length ≤ c.items.length + 1 := by
  unfold add
  split
  · simp
  · exact Nat.le_succ _

/-- Put `object` in the place of the one with its key, whose uid it inherits. -/
def replace (c : Collection k) (object : Object k) : Collection k :=
  ⟨c.items.map fun stored =>
      if stored.key = object.key then object.withUid stored.metadata.uid else stored, by
    have sameKeys : (c.items.map fun stored =>
        if stored.key = object.key then object.withUid stored.metadata.uid else stored).map
          Object.key = c.items.map Object.key := by
      rw [List.map_map]
      refine List.map_congr_left fun stored _ => ?_
      by_cases same : stored.key = object.key <;> simp [same]
    rw [sameKeys]
    exact c.nodup, by
    have sameUids : (c.items.map fun stored =>
        if stored.key = object.key then object.withUid stored.metadata.uid else stored).map
          Object.uid = c.items.map Object.uid := by
      rw [List.map_map]
      refine List.map_congr_left fun stored _ => ?_
      by_cases same : stored.key = object.key <;> simp [same, Object.uid, Object.withUid]
    rw [sameUids]
    exact c.uids⟩

def remove (c : Collection k) (key : Key) : Collection k :=
  ⟨c.items.filter fun object => object.key ≠ key,
    c.nodup.sublist (List.filter_sublist.map Object.key),
    c.uids.sublist (List.filter_sublist.map Object.uid)⟩

theorem mem_add {c : Collection k} {object other : Object k}
    (absent : c.find? object.key = none) (fresh : ∀ other ∈ c.items, other.uid ≠ object.uid) :
    other ∈ (c.add object).items ↔ other ∈ c.items ∨ other = object := by
  rw [add, dif_pos ⟨absent, fresh⟩]
  simp

theorem mem_replace {c : Collection k} {object other : Object k} : other ∈ (c.replace object).items ↔
      (other ∈ c.items ∧ other.key ≠ object.key) ∨
        ∃ stored ∈ c.items, stored.key = object.key ∧ other = object.withUid stored.metadata.uid := by
  simp only [replace, List.mem_map]
  constructor
  · rintro ⟨stored, member, rfl⟩
    by_cases same : stored.key = object.key
    · exact .inr ⟨stored, member, same, by simp [same]⟩
    · exact .inl ⟨by simpa [same] using member, by simp [same]⟩
  · rintro (⟨member, differs⟩ | ⟨stored, member, same, rfl⟩)
    · exact ⟨other, member, by simp [differs]⟩
    · exact ⟨stored, member, by simp [same]⟩

theorem mem_remove {c : Collection k} {key : Key} {other : Object k} :
    other ∈ (c.remove key).items ↔ other ∈ c.items ∧ other.key ≠ key := by
  simp [remove]

end Collection

end Collection

end SandboxedContainers.Lib
