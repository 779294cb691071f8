import SandboxedContainers.Lib.Store

/-!
# Requests to the object store

`Store.exec` answers one request.  Every write goes through `Store.commit`,
which stamps a new version; an update with a stale version is refused, and an
object that is being deleted disappears with its last finalizer: a store holds no
object that is finished.

`mark` is a request without effect.  Programs issue it to name a point of their
control flow, so that statements about executions can speak about that point.
-/

namespace SandboxedContainers.Lib

inductive Request (Kind : Type) [Schema Kind] (P : Type) where
  | get (k : Kind) (key : Key)
  | list (k : Kind) (selector : Selector)
  | create (k : Kind) (object : Object k)
  | update (k : Kind) (object : Object k)
  | updateStatus (k : Kind) (object : Object k)
  | patch (k : Kind) (key : Key) (labels : List (String × Option String))
      (change : Schema.Body k → Schema.Body k)
  | delete (k : Kind) (key : Key)
  | mark (point : P)

variable {Kind P : Type} [Schema Kind]

def Response : Request Kind P → Type
  | .get k _ | .create k _ | .update k _ | .updateStatus k _ | .patch k _ _ _ =>
    Except ApiError (Object k)
  | .list k _ => Except ApiError (List (Object k))
  | .delete _ _ => Except ApiError PUnit
  | .mark _ => PUnit

/-- The response that reports `error`; a mark cannot fail. -/
def Response.failure (error : ApiError) : (r : Request Kind P) → Option (Response r)
  | .get _ _ | .create _ _ | .update _ _ | .updateStatus _ _ | .patch _ _ _ _ | .list _ _
  | .delete _ _ => some (.error error)
  | .mark _ => none

/-- The kind of object a request may change. -/
def Request.writes : Request Kind P → Option Kind
  | .create k _ | .update k _ | .updateStatus k _ | .patch k _ _ _ | .delete k _ => some k
  | .get _ _ | .list _ _ | .mark _ => none

/-- The kind and the key of the one object a request may change. -/
def Request.target : Request Kind P → Option (Kind × Key)
  | .create k object | .update k object | .updateStatus k object => some (k, object.key)
  | .patch k key _ _ | .delete k key => some (k, key)
  | .get _ _ | .list _ _ | .mark _ => none

/-- Whether an object disappears: deletion is under way and no finalizer is left. -/
def Store.finished {k : Kind} (object : Object k) : Bool :=
  object.metadata.deletionTimestamp && object.metadata.finalizers.isEmpty

structure Store (Kind : Type) [Schema Kind] where
  objs : (k : Kind) → Collection k
  version : Nat
  /-- Whether the server knows the kind at all. -/
  served : Kind → Bool
  assigned : ∀ k, ∀ object ∈ (objs k).items, object.metadata.Assigned version
  unfinished : ∀ k, ∀ object ∈ (objs k).items, Store.finished object = false

namespace Store

def empty (served : Kind → Bool) : Store Kind where
  objs _ := .empty
  version := 0
  served := served
  assigned _ _ member := nomatch member
  unfinished _ _ member := nomatch member

variable [DecidableEq Kind] {k : Kind}

def find? (s : Store Kind) (k : Kind) (key : Key) : Option (Object k) := (s.objs k).find? key

def commit (s : Store Kind) (k : Kind) (c : Collection k)
    (valid : ∀ object ∈ c.items, object.metadata.Assigned (s.version + 1) ∧ finished object = false) :
    Store Kind where
  objs := Function.update s.objs k c
  version := s.version + 1
  served := s.served
  assigned := by
    intro k' object member
    by_cases same : k' = k
    · subst same
      rw [Function.update_self] at member
      exact (valid object member).1
    · rw [Function.update_of_ne same] at member
      exact (s.assigned k' object member).later (Nat.le_succ _)
  unfinished := by
    intro k' object member
    by_cases same : k' = k
    · subst same
      rw [Function.update_self] at member
      exact (valid object member).2
    · rw [Function.update_of_ne same] at member
      exact s.unfinished k' object member

omit [DecidableEq Kind] in
theorem valid_of_mem {s : Store Kind} {object : Object k} (member : object ∈ (s.objs k).items) :
    object.metadata.Assigned (s.version + 1) ∧ finished object = false :=
  ⟨(s.assigned k object member).later (Nat.le_succ _), s.unfinished k object member⟩

def stamp (s : Store Kind) (object : Object k) : Object k :=
  { object with metadata := { object.metadata with resourceVersion := s.version + 1 } }

omit [DecidableEq Kind] in
@[simp] theorem stamp_key (s : Store Kind) (object : Object k) : (s.stamp object).key = object.key := rfl

/-- Store `object` over the one with its key, or drop that one if it is finished. -/
def settle (s : Store Kind) (object : Object k) : Store Kind :=
  if pending : finished object = false then
    s.commit k ((s.objs k).replace (s.stamp object)) fun other member => by
      rcases Collection.mem_replace.mp member with ⟨old, _⟩ | ⟨stored, found, _, rfl⟩
      · exact valid_of_mem old
      · have valid := s.assigned k stored found
        exact ⟨⟨Nat.succ_pos _, le_refl _, valid.uid_pos, Nat.le_succ_of_le valid.uid_le⟩, pending⟩
  else
    s.commit k ((s.objs k).remove object.key) fun _ member =>
      valid_of_mem (Collection.mem_remove.mp member).1

def newborn (s : Store Kind) (object : Object k) : Object k where
  metadata := { object.metadata with
    uid := s.version + 1, resourceVersion := s.version + 1, deletionTimestamp := false }
  body := Schema.created k object.body

omit [DecidableEq Kind] in
theorem newborn_fresh (s : Store Kind) (object : Object k) :
    ∀ other ∈ (s.objs k).items, other.uid ≠ (s.newborn object).uid := by
  intro other member same
  have known : other.uid ≤ s.version := (s.assigned k other member).uid_le
  rw [same] at known
  exact Nat.not_succ_le_self _ known

def insertNew (s : Store Kind) (object : Object k) : Store Kind :=
  s.commit k ((s.objs k).add (s.newborn object)) fun other member => by
    by_cases absent : (s.objs k).find? (s.newborn object).key = none
    · rcases (Collection.mem_add absent (s.newborn_fresh object)).mp member with old | rfl
      · exact valid_of_mem old
      · exact ⟨⟨Nat.succ_pos _, le_refl _, Nat.succ_pos _, le_refl _⟩, rfl⟩
    · have old : other ∈ (s.objs k).items := by
        rw [Collection.add, dif_neg fun fresh => absent fresh.1] at member
        exact member
      exact valid_of_mem old

/-- An update is refused when the client has not seen the stored version. -/
def stale (stored object : Object k) : Bool :=
  (object.metadata.resourceVersion != 0 &&
      object.metadata.resourceVersion != stored.metadata.resourceVersion) ||
    (object.metadata.uid != 0 && object.metadata.uid != stored.metadata.uid)

omit [DecidableEq Kind] in
theorem uid_eq_of_not_stale {stored object : Object k} (current : stale stored object = false)
    (named : 0 < object.metadata.uid) : stored.metadata.uid = object.metadata.uid := by
  simp only [stale, Bool.or_eq_false_iff, Bool.and_eq_false_imp, bne_iff_ne, ne_eq,
    bne_eq_false_iff_eq] at current
  exact (current.2 (by omega)).symm

/-- An object that is being deleted accepts no new finalizer. -/
def addsFinalizer (stored object : Object k) : Bool :=
  stored.metadata.deletionTimestamp &&
    object.metadata.finalizers.any fun name => !stored.metadata.finalizers.contains name

def updated (stored object : Object k) : Object k where
  metadata := { object.metadata with
    uid := stored.metadata.uid, deletionTimestamp := stored.metadata.deletionTimestamp }
  body := Schema.updated k stored.body object.body

def statusUpdated (stored object : Object k) : Object k where
  metadata := stored.metadata
  body := Schema.statusUpdated k stored.body object.body

/-- Apply one entry of a label patch; a null value removes the label. -/
def patchLabel (labels : StrMap) : String × Option String → StrMap
  | (key, some value) => labels.insert key value
  | (key, none) => labels.erase key

def patched (stored : Object k) (labels : List (String × Option String))
    (change : Schema.Body k → Schema.Body k) : Object k where
  metadata := { stored.metadata with labels := labels.foldl patchLabel stored.metadata.labels }
  body := change stored.body

def doomed (stored : Object k) : Object k :=
  { stored with metadata := { stored.metadata with deletionTimestamp := true } }

def notFound : ApiError := ⟨.notFound, "not found"⟩
def alreadyExists : ApiError := ⟨.alreadyExists, "already exists"⟩
def conflict : ApiError := ⟨.conflict, "the object has been modified"⟩
def versionSet : ApiError := ⟨.invalid, "resourceVersion should not be set on objects to be created"⟩
def noMatch : ApiError := ⟨.noMatch, "no matches for kind"⟩
def forbidden : ApiError :=
  ⟨.invalid, "no new finalizers can be added if the object is being deleted"⟩

def change (s : Store Kind) (k : Kind) (key : Key) (next : Object k → Except ApiError (Object k)) :
    Except ApiError (Object k) × Store Kind :=
  if s.served k then
    match s.find? k key with
    | none => (.error notFound, s)
    | some stored =>
      match next stored with
      | .error error => (.error error, s)
      | .ok object => (.ok (s.stamp object), s.settle object)
  else (.error noMatch, s)

def exec (s : Store Kind) : (r : Request Kind P) → Response r × Store Kind
  | .get k key =>
    if s.served k then
      match s.find? k key with
      | none => (.error notFound, s)
      | some object => (.ok object, s)
    else (.error noMatch, s)
  | .list k selector =>
    if s.served k then
      (.ok ((s.objs k).items.filter fun object => selector.accepts object.metadata.labels), s)
    else (.error noMatch, s)
  | .create k object =>
    if !s.served k then (.error noMatch, s)
    else if object.metadata.resourceVersion != 0 then (.error versionSet, s)
    else match s.find? k object.key with
      | some _ => (.error alreadyExists, s)
      | none => (.ok (s.newborn object), s.insertNew object)
  | .update k object => s.change k object.key fun stored =>
    if stale stored object then .error conflict
    else if addsFinalizer stored object then .error forbidden
    else .ok (updated stored object)
  | .updateStatus k object => s.change k object.key fun stored =>
    if stale stored object then .error conflict else .ok (statusUpdated stored object)
  | .patch k key labels edit => s.change k key fun stored => .ok (patched stored labels edit)
  | .delete k key =>
    match s.change k key fun stored => .ok (doomed stored) with
    | (.ok _, s') => (.ok ⟨⟩, s')
    | (.error error, s') => (.error error, s')
  | .mark _ => (⟨⟩, s)

section Lemmas

variable {s : Store Kind} {key : Key} {object other : Object k} {r : Request Kind P}

theorem commit_objs_ne {k' : Kind} (c : Collection k) (valid) (differs : k' ≠ k) :
    (s.commit k c valid).objs k' = s.objs k' := Function.update_of_ne differs _ _

@[simp] theorem commit_objs_self (c : Collection k) (valid) :
    (s.commit k c valid).objs k = c := Function.update_self _ _ _

theorem settle_objs_ne {k' : Kind} (differs : k' ≠ k) : (s.settle object).objs k' = s.objs k' := by
  unfold settle
  split <;> exact commit_objs_ne _ _ differs

@[simp] theorem settle_served : (s.settle object).served = s.served := by
  unfold settle
  split <;> rfl

@[simp] theorem settle_version : (s.settle object).version = s.version + 1 := by
  unfold settle
  split <;> rfl

theorem mem_settle (other : Object k) {stored : Object k} (member : stored ∈ (s.objs k).items)
    (sameKey : object.key = stored.key) (sameUid : object.metadata.uid = stored.metadata.uid) :
    other ∈ ((s.settle object).objs k).items ↔ (other ∈ (s.objs k).items ∧ other.key ≠ stored.key) ∨
        (other = s.stamp object ∧ finished object = false) := by
  unfold settle
  split
  · rename_i pending
    simp only [commit_objs_self, Collection.mem_replace, stamp_key, sameKey]
    have unique : ∀ candidate ∈ (s.objs k).items, candidate.key = stored.key → candidate = stored :=
      fun candidate found same => Collection.eq_of_key found member same
    have inherited : (s.stamp object).withUid stored.metadata.uid = s.stamp object := by
      simp [Object.withUid, stamp, sameUid]
    constructor
    · rintro (kept | ⟨candidate, found, same, rfl⟩)
      · exact .inl kept
      · rw [unique candidate found same, inherited]
        exact .inr ⟨rfl, pending⟩
    · rintro (kept | ⟨rfl, _⟩)
      · exact .inl kept
      · exact .inr ⟨stored, member, rfl, inherited.symm⟩
  · rename_i done
    simp [Collection.mem_remove, done, sameKey]

theorem mem_insertNew (absent : s.find? k object.key = none) : other ∈ ((s.insertNew object).objs k).items ↔
      other ∈ (s.objs k).items ∨ other = s.newborn object := by
  simp only [insertNew, commit_objs_self]
  exact Collection.mem_add absent (s.newborn_fresh object)

theorem change_cases (s : Store Kind) (key : Key) (next : Object k → Except ApiError (Object k)) :
    (∃ error, s.change k key next = (.error error, s)) ∨
      ∃ stored object, s.find? k key = some stored ∧ next stored = .ok object ∧
        s.change k key next = (.ok (s.stamp object), s.settle object) := by
  unfold change
  split
  · cases found : s.find? k key with
    | none => exact .inl ⟨_, rfl⟩
    | some stored =>
      cases decided : next stored with
      | error error => exact .inl ⟨error, by simp [decided]⟩
      | ok object => exact .inr ⟨stored, object, rfl, decided, by simp [decided]⟩
  · exact .inl ⟨_, rfl⟩

theorem exec_get_store (k : Kind) (key : Key) : (s.exec (P := P) (.get k key)).2 = s := by
  simp only [exec]
  split
  · split <;> rfl
  · rfl

theorem exec_list_store (k : Kind) (selector : Selector) : (s.exec (P := P) (.list k selector)).2 = s := by
  simp only [exec]
  split <;> rfl

theorem exec_create_cases (object : Object k) :
    (∃ error, s.exec (P := P) (.create k object) = (.error error, s)) ∨
      (s.find? k object.key = none ∧
        s.exec (P := P) (.create k object) = (.ok (s.newborn object), s.insertNew object)) := by
  simp only [exec]
  split
  · exact .inl ⟨_, rfl⟩
  · split
    · exact .inl ⟨_, rfl⟩
    · cases found : s.find? k object.key with
      | some _ => exact .inl ⟨_, rfl⟩
      | none => exact .inr ⟨rfl, rfl⟩

theorem exec_update_cases (object : Object k) :
    (∃ error, s.exec (P := P) (.update k object) = (.error error, s)) ∨
      ∃ stored, s.find? k object.key = some stored ∧ stale stored object = false ∧
        addsFinalizer stored object = false ∧
        s.exec (P := P) (.update k object) =
          (.ok (s.stamp (updated stored object)), s.settle (updated stored object)) := by
  rcases change_cases s object.key (fun stored =>
      if stale stored object then .error conflict
      else if addsFinalizer stored object then .error forbidden
      else .ok (updated stored object)) with
    refused | ⟨stored, merged, found, decided, changed⟩
  · exact .inl refused
  · refine .inr ⟨stored, found, ?_⟩
    split at decided
    · cases decided
    · rename_i current
      split at decided
      · cases decided
      · rename_i admitted
        cases decided
        exact ⟨by simpa using current, by simpa using admitted, changed⟩

theorem exec_updateStatus_cases (object : Object k) :
    (∃ error, s.exec (P := P) (.updateStatus k object) = (.error error, s)) ∨
      ∃ stored, s.find? k object.key = some stored ∧ stale stored object = false ∧
        s.exec (P := P) (.updateStatus k object) =
          (.ok (s.stamp (statusUpdated stored object)), s.settle (statusUpdated stored object)) := by
  rcases change_cases s object.key (fun stored =>
      if stale stored object then .error conflict else .ok (statusUpdated stored object)) with
    refused | ⟨stored, merged, found, decided, changed⟩
  · exact .inl refused
  · refine .inr ⟨stored, found, ?_⟩
    split at decided
    · cases decided
    · rename_i current
      cases decided
      exact ⟨by simpa using current, changed⟩

theorem exec_patch_cases (key : Key) (labels : List (String × Option String))
    (edit : Schema.Body k → Schema.Body k) :
    (∃ error, s.exec (P := P) (.patch k key labels edit) = (.error error, s)) ∨
      ∃ stored, s.find? k key = some stored ∧
        s.exec (P := P) (.patch k key labels edit) =
          (.ok (s.stamp (patched stored labels edit)), s.settle (patched stored labels edit)) := by
  rcases change_cases s key (fun stored => .ok (patched stored labels edit)) with
    refused | ⟨stored, merged, found, decided, changed⟩
  · exact .inl refused
  · cases decided
    exact .inr ⟨stored, found, changed⟩

theorem exec_delete_cases (k : Kind) (key : Key) :
    (∃ error, s.exec (P := P) (.delete k key) = (.error error, s)) ∨
      ∃ stored, s.find? k key = some stored ∧
        s.exec (P := P) (.delete k key) = (.ok ⟨⟩, s.settle (doomed stored)) := by
  rcases change_cases s key (fun stored : Object k => .ok (doomed stored)) with
    ⟨error, refused⟩ | ⟨stored, merged, found, decided, changed⟩
  · exact .inl ⟨error, by simp only [exec, refused]⟩
  · cases decided
    exact .inr ⟨stored, found, by simp only [exec, changed]⟩

/-- The request rewrites `stored` into `merged`. -/
inductive Rewrites (s : Store Kind) (k : Kind) : Request Kind P → Object k → Object k → Prop where
  | update {object stored : Object k} (found : s.find? k object.key = some stored)
      (current : stale stored object = false) (admitted : addsFinalizer stored object = false) :
      Rewrites s k (.update k object) stored (updated stored object)
  | updateStatus {object stored : Object k} (found : s.find? k object.key = some stored)
      (current : stale stored object = false) :
      Rewrites s k (.updateStatus k object) stored (statusUpdated stored object)
  | patch {key : Key} {stored : Object k} (labels : List (String × Option String))
      (edit : Schema.Body k → Schema.Body k) (found : s.find? k key = some stored) :
      Rewrites s k (.patch k key labels edit) stored (patched stored labels edit)
  | delete {key : Key} {stored : Object k} (found : s.find? k key = some stored) :
      Rewrites s k (.delete k key) stored (doomed stored)

namespace Rewrites

variable {stored merged : Object k} (rewrites : s.Rewrites k r stored merged)
include rewrites
omit [DecidableEq Kind]

theorem writes : r.writes = some k := by
  cases rewrites <;> rfl

theorem mem : stored ∈ (s.objs k).items := by
  cases rewrites with
  | update found | updateStatus found | patch _ _ found | delete found =>
    exact (Collection.find?_mem found).1

theorem sameKey : merged.key = stored.key := by
  cases rewrites with
  | update found => exact (Collection.find?_mem found).2.symm
  | updateStatus | patch | delete => rfl

theorem sameUid : merged.metadata.uid = stored.metadata.uid := by
  cases rewrites <;> rfl

theorem target : r.target = some (k, stored.key) := by
  cases rewrites with
  | update found | updateStatus found | patch _ _ found | delete found =>
    rw [(Collection.find?_mem found).2]
    rfl

theorem deletion (deleted : stored.metadata.deletionTimestamp = true) :
    merged.metadata.deletionTimestamp = true := by
  cases rewrites with
  | update | updateStatus | patch => exact deleted
  | delete => rfl

end Rewrites

/-- The same stored object at a later time. -/
structure Later (before after : Object k) : Prop where
  key : after.key = before.key
  uid : after.metadata.uid = before.metadata.uid
  deletion : before.metadata.deletionTimestamp = true → after.metadata.deletionTimestamp = true
  /-- An object that is being deleted gets no new finalizer. -/
  finalizers : before.metadata.deletionTimestamp = true →
    ∀ name ∈ after.metadata.finalizers, name ∈ before.metadata.finalizers

omit [DecidableEq Kind] in
theorem Later.refl (object : Object k) : Later object object := ⟨rfl, rfl, id, fun _ _ => id⟩

omit [DecidableEq Kind] in
theorem Rewrites.later {stored merged : Object k} (rewrites : s.Rewrites k r stored merged) :
    Later stored (s.stamp merged) where
  key := rewrites.sameKey
  uid := rewrites.sameUid
  deletion := rewrites.deletion
  finalizers deleting := by
    cases rewrites with
    | update found current admitted =>
      intro name member
      simp only [addsFinalizer, deleting, Bool.true_and, List.any_eq_false] at admitted
      simpa using admitted name member
    | updateStatus | patch | delete => exact fun _ => id

theorem exec_store_cases (s : Store Kind) (r : Request Kind P) : (s.exec r).2 = s ∨
      (∃ k object, r = .create k object ∧ s.find? k object.key = none ∧
        (s.exec r).2 = s.insertNew object) ∨
      ∃ (k : Kind) (stored merged : Object k), s.Rewrites k r stored merged ∧
        (s.exec r).2 = s.settle merged := by
  cases r with
  | get k key => exact .inl (exec_get_store k key)
  | list k selector => exact .inl (exec_list_store k selector)
  | mark point => exact .inl rfl
  | create k object =>
    rcases exec_create_cases (P := P) (s := s) object with ⟨_, refused⟩ | ⟨absent, added⟩
    · exact .inl (by rw [refused])
    · exact .inr (.inl ⟨k, object, rfl, absent, by rw [added]⟩)
  | update k object =>
    rcases exec_update_cases (P := P) (s := s) object with
      ⟨_, refused⟩ | ⟨stored, found, current, admitted, written⟩
    · exact .inl (by rw [refused])
    · exact .inr (.inr ⟨k, stored, _, .update found current admitted, by rw [written]⟩)
  | updateStatus k object =>
    rcases exec_updateStatus_cases (P := P) (s := s) object with
      ⟨_, refused⟩ | ⟨stored, found, current, written⟩
    · exact .inl (by rw [refused])
    · exact .inr (.inr ⟨k, stored, _, .updateStatus found current, by rw [written]⟩)
  | patch k key labels edit =>
    rcases exec_patch_cases (P := P) (s := s) key labels edit with
      ⟨_, refused⟩ | ⟨stored, found, written⟩
    · exact .inl (by rw [refused])
    · exact .inr (.inr ⟨k, stored, _, .patch labels edit found, by rw [written]⟩)
  | delete k key =>
    rcases exec_delete_cases (P := P) (s := s) k key with
      ⟨_, refused⟩ | ⟨stored, found, written⟩
    · exact .inl (by rw [refused])
    · exact .inr (.inr ⟨k, stored, _, .delete found, by rw [written]⟩)

theorem exec_mem_cases (member : object ∈ ((s.exec r).2.objs k).items) : object ∈ (s.objs k).items ∨
      (∃ submitted, r = .create k submitted ∧ s.find? k submitted.key = none ∧
        object = s.newborn submitted) ∨
      ∃ stored merged, s.Rewrites k r stored merged ∧ finished merged = false ∧
        object = s.stamp merged := by
  rcases exec_store_cases s r with same | ⟨k', submitted, rfl, absent, added⟩ |
    ⟨k', stored, merged, rewrites, settled⟩
  · exact .inl (same ▸ member)
  · rw [added] at member
    by_cases sameKind : k = k'
    · subst sameKind
      rcases (mem_insertNew absent).mp member with old | rfl
      · exact .inl old
      · exact .inr (.inl ⟨submitted, rfl, absent, rfl⟩)
    · rw [insertNew, commit_objs_ne _ _ sameKind] at member
      exact .inl member
  · rw [settled] at member
    by_cases sameKind : k = k'
    · subst sameKind
      rcases (mem_settle _ rewrites.mem rewrites.sameKey rewrites.sameUid).mp member with
        ⟨old, _⟩ | ⟨rfl, kept⟩
      · exact .inl old
      · exact .inr (.inr ⟨stored, merged, rewrites, kept, rfl⟩)
    · rw [settle_objs_ne sameKind] at member
      exact .inl member

/-- A stored object is a new one, or continues one that was there before. -/
theorem exec_lineage (member : object ∈ ((s.exec r).2.objs k).items) :
    s.version < object.metadata.uid ∨ ∃ before ∈ (s.objs k).items, Later before object := by
  rcases exec_mem_cases member with old | ⟨submitted, _, _, rfl⟩ | ⟨stored, merged, rewrites, _, rfl⟩
  · exact .inr ⟨object, old, .refl object⟩
  · exact .inl (Nat.lt_succ_self _)
  · exact .inr ⟨stored, rewrites.mem, rewrites.later⟩

/-- An object with a finalizer stays, and only an update takes the finalizer away. -/
theorem exec_keeps_finalizer {finalizer : String} (member : object ∈ (s.objs k).items)
    (bears : finalizer ∈ object.metadata.finalizers) (notUpdate : ∀ next, r ≠ .update k next) :
    ∃ after ∈ ((s.exec r).2.objs k).items, after.metadata.uid = object.metadata.uid ∧
      finalizer ∈ after.metadata.finalizers := by
  rcases exec_store_cases s r with same | ⟨k', submitted, rfl, absent, added⟩ |
    ⟨k', stored, merged, rewrites, settled⟩
  · rw [same]
    exact ⟨object, member, rfl, bears⟩
  · refine ⟨object, ?_, rfl, bears⟩
    rw [added]
    by_cases sameKind : k = k'
    · subst sameKind
      exact (mem_insertNew absent).mpr (.inl member)
    · rwa [insertNew, commit_objs_ne _ _ sameKind]
  · rw [settled]
    by_cases sameKind : k = k'
    · subst sameKind
      have items (other : Object k) := mem_settle other rewrites.mem rewrites.sameKey rewrites.sameUid
      by_cases same : object = stored
      · subst same
        have kept : merged.metadata.finalizers = object.metadata.finalizers := by
          cases rewrites with
          | update => exact absurd rfl (notUpdate _)
          | updateStatus | patch | delete => rfl
        have pending : finished merged = false := by
          have some : merged.metadata.finalizers ≠ [] := by
            rw [kept]
            exact List.ne_nil_of_mem bears
          simp [finished, some]
        exact ⟨s.stamp merged, (items _).mpr (.inr ⟨rfl, pending⟩), rewrites.sameUid, kept ▸ bears⟩
      · refine ⟨object, (items _).mpr (.inl ⟨member, fun sameKey => same ?_⟩), rfl, bears⟩
        exact Collection.eq_of_key member rewrites.mem sameKey
    · rw [settle_objs_ne sameKind]
      exact ⟨object, member, rfl, bears⟩

theorem exec_mem_recent (member : object ∈ ((s.exec r).2.objs k).items) :
    object ∈ (s.objs k).items ∨ object.metadata.resourceVersion = s.version + 1 := by
  rcases exec_mem_cases member with old | ⟨submitted, _, _, rfl⟩ | ⟨stored, merged, _, _, rfl⟩
  · exact .inl old
  · exact .inr rfl
  · exact .inr rfl

theorem exec_patch_recent {labels : List (String × Option String)}
    {edit : Schema.Body k → Schema.Body k} {answer : Object k}
    (applied : (s.exec (P := P) (.patch k key labels edit)).1 = .ok answer)
    (member : object ∈ ((s.exec (P := P) (.patch k key labels edit)).2.objs k).items)
    (sameUid : object.metadata.uid = answer.metadata.uid) :
    object.metadata.resourceVersion = s.version + 1 := by
  rcases exec_patch_cases (P := P) (s := s) key labels edit with
    ⟨_, refused⟩ | ⟨stored, found, written⟩
  · rw [refused] at applied
    cases applied
  · rw [written] at applied member
    cases applied
    have mem := (Collection.find?_mem found).1
    rcases (mem_settle _ mem (by rfl) (by rfl)).mp member with ⟨old, otherKey⟩ | ⟨rfl, _⟩
    · exact absurd (congrArg Object.key (Collection.eq_of_uid old mem sameUid)) otherKey
    · rfl

theorem exec_version_le : s.version ≤ (s.exec r).2.version := by
  rcases exec_store_cases s r with same | ⟨k', submitted, rfl, _, added⟩ |
    ⟨k', stored, merged, _, settled⟩
  · rw [same]
  · rw [added]
    exact Nat.le_succ _
  · rw [settled, settle_version]
    exact Nat.le_succ _

theorem exec_objs_ne {k : Kind} (differs : r.writes ≠ some k) : (s.exec r).2.objs k = s.objs k := by
  rcases exec_store_cases s r with same | ⟨k', object, rfl, _, added⟩ |
    ⟨k', stored, merged, rewrites, settled⟩
  · rw [same]
  · rw [added, insertNew]
    exact commit_objs_ne _ _ fun same => differs (congrArg some same.symm)
  · rw [settled]
    exact settle_objs_ne fun same => differs (rewrites.writes.trans (congrArg some same.symm))

theorem find?_insertNew (absent : s.find? k object.key = none) :
    (s.insertNew object).find? k object.key = some (s.newborn object) :=
  Collection.find?_eq_some.mpr ⟨(mem_insertNew absent).mpr (.inr rfl), rfl⟩

theorem find?_settle {stored : Object k} (merged : Object k) (found : s.find? k key = some stored)
    (sameKey : merged.key = key) (sameUid : merged.metadata.uid = stored.metadata.uid) :
    (s.settle merged).find? k key = if finished merged then none else some (s.stamp merged) := by
  obtain ⟨member, storedKey⟩ := Collection.find?_mem found
  have mem (other : Object k) := mem_settle other member (sameKey.trans storedKey.symm) sameUid
  cases done : finished merged with
  | true =>
    refine Collection.find?_eq_none.mpr fun other stillThere => ?_
    rcases (mem _).mp stillThere with ⟨_, otherKey⟩ | ⟨_, pending⟩
    · exact fun same => otherKey (same.trans storedKey.symm)
    · simp [done] at pending
  | false => exact Collection.find?_eq_some.mpr ⟨(mem _).mpr (.inr ⟨rfl, done⟩), sameKey⟩

/-- What leaves the finalizers and the deletion alone does not make an object disappear. -/
theorem find?_settle_kept {stored merged : Object k} (found : s.find? k key = some stored)
    (sameKey : merged.key = key) (sameUid : merged.metadata.uid = stored.metadata.uid)
    (finalizers : merged.metadata.finalizers = stored.metadata.finalizers)
    (deletion : merged.metadata.deletionTimestamp = stored.metadata.deletionTimestamp) :
    (s.settle merged).find? k key = some (s.stamp merged) := by
  have pending : finished merged = false := by
    rw [finished, finalizers, deletion]
    exact s.unfinished k stored (Collection.find?_mem found).1
  rw [find?_settle merged found sameKey sameUid, pending]
  rfl

theorem find?_exec_patch {stored answer : Object k} {labels : List (String × Option String)}
    {edit : Schema.Body k → Schema.Body k} (found : s.find? k key = some stored)
    (accepted : (s.exec (P := P) (.patch k key labels edit)).1 = .ok answer) :
    (s.exec (P := P) (.patch k key labels edit)).2.find? k key = some (s.stamp (patched stored labels edit)) := by
  rcases exec_patch_cases (s := s) (P := P) key labels edit with ⟨error, refused⟩ | ⟨other, known, settled⟩
  · rw [refused] at accepted
    cases accepted
  · cases found.symm.trans known
    rw [settled]
    exact find?_settle_kept found (Collection.find?_mem found).2 rfl rfl rfl

theorem exec_find?_other (other : r.target ≠ some (k, key)) : (s.exec r).2.find? k key = s.find? k key := by
  rcases exec_store_cases s r with same | ⟨k', object, rfl, absent, added⟩ |
    ⟨k', stored, merged, rewrites, settled⟩
  · rw [same]
  · rw [added]
    by_cases sameKind : k = k'
    · subst sameKind
      have otherKey : object.key ≠ key := fun sameKey => other (by rw [← sameKey]; rfl)
      refine Option.ext fun found => ?_
      simp only [find?, Collection.find?_eq_some, mem_insertNew absent]
      constructor
      · rintro ⟨old | rfl, foundKey⟩
        · exact ⟨old, foundKey⟩
        · exact absurd foundKey otherKey
      · exact fun ⟨old, foundKey⟩ => ⟨.inl old, foundKey⟩
    · simp only [find?, insertNew, commit_objs_ne _ _ sameKind]
  · rw [settled]
    by_cases sameKind : k = k'
    · subst sameKind
      have otherKey : stored.key ≠ key := fun sameKey => other (by rw [← sameKey, rewrites.target])
      refine Option.ext fun found => ?_
      simp only [find?, Collection.find?_eq_some, mem_settle _ rewrites.mem rewrites.sameKey rewrites.sameUid]
      constructor
      · rintro ⟨⟨old, _⟩ | ⟨rfl, _⟩, foundKey⟩
        · exact ⟨old, foundKey⟩
        · exact absurd (rewrites.sameKey.symm.trans foundKey) otherKey
      · exact fun ⟨old, foundKey⟩ => ⟨.inl ⟨old, fun same => otherKey (same.symm.trans foundKey)⟩, foundKey⟩
    · simp only [find?, settle_objs_ne sameKind]

theorem exec_absent (absent : s.find? k key = none)
    (elsewhere : ∀ object, r = .create k object → object.key ≠ key) :
    (s.exec r).2.find? k key = none := by
  have missing := Collection.find?_eq_none.mp absent
  refine Collection.find?_eq_none.mpr fun object member => ?_
  rcases exec_mem_cases member with old | ⟨submitted, created, _, rfl⟩ | ⟨stored, merged, rewrites, _, rfl⟩
  · exact missing object old
  · exact elsewhere submitted created
  · exact fun same => missing stored rewrites.mem (rewrites.sameKey.symm.trans same)

/-- The object was read from the store at some time: while it is stored under the
version it had, it has not changed. -/
structure Seen (s : Store Kind) (object : Object k) : Prop where
  assigned : object.metadata.Assigned s.version
  unchanged : ∀ stored ∈ (s.objs k).items, stored.metadata.uid = object.metadata.uid →
    stored.metadata.resourceVersion = object.metadata.resourceVersion → stored = object

omit [DecidableEq Kind] in
theorem seen_of_mem (member : object ∈ (s.objs k).items) : s.Seen object :=
  ⟨s.assigned k object member, fun _ found same _ => Collection.eq_of_uid found member same⟩

theorem Seen.exec (seen : s.Seen object) : (s.exec r).2.Seen object := by
  refine ⟨seen.assigned.later exec_version_le, fun stored found sameUid sameVersion => ?_⟩
  rcases exec_mem_recent found with old | recent
  · exact seen.unchanged stored old sameUid sameVersion
  · have bound := seen.assigned.resourceVersion_le
    omega

theorem seen_settle {stored merged : Object k} (found : stored ∈ (s.objs k).items)
    (sameKey : merged.key = stored.key) (sameUid : merged.metadata.uid = stored.metadata.uid) :
    (s.settle merged).Seen (s.stamp merged) := by
  have valid := s.assigned k stored found
  refine ⟨?_, fun other member _ sameVersion => ?_⟩
  · rw [settle_version]
    exact ⟨Nat.succ_pos _, le_refl _, sameUid ▸ valid.uid_pos, sameUid ▸ Nat.le_succ_of_le valid.uid_le⟩
  · rcases (mem_settle _ found sameKey sameUid).mp member with ⟨old, _⟩ | ⟨rfl, _⟩
    · have bound := (s.assigned k other old).resourceVersion_le
      exact absurd sameVersion (Nat.ne_of_lt (Nat.lt_succ_of_le bound))
    · rfl

/-- Nothing of the kind has been added, every object relates to what it was, and
only those that may leave have gone. -/
structure Confined (k : Kind) (R : Object k → Object k → Prop) (leaves : Object k → Prop) (s s' : Store Kind) : Prop where
  origin : ∀ after ∈ (s'.objs k).items, ∃ before ∈ (s.objs k).items, R before after
  future : ∀ before ∈ (s.objs k).items, leaves before ∨ ∃ after ∈ (s'.objs k).items, R before after

section Confined

variable {R : Object k → Object k → Prop} {leaves : Object k → Prop} (refl : ∀ object, R object object)
include refl

omit [DecidableEq Kind] in
theorem Confined.of_eq {s' : Store Kind} (same : s'.objs k = s.objs k) : Confined k R leaves s s' := by
  constructor
  · intro after member
    exact ⟨after, same ▸ member, refl after⟩
  · intro before member
    exact .inr ⟨before, same ▸ member, refl before⟩

/-- A request that creates nothing is judged by what it makes of the one object it rewrites. -/
theorem exec_confined (noCreation : ∀ object, r ≠ .create k object)
    (rewritten : ∀ stored merged, s.Rewrites k r stored merged →
      R stored (s.stamp merged) ∧ (finished merged = true → leaves stored)) :
    Confined k R leaves s (s.exec r).2 := by
  rcases exec_store_cases s r with same | ⟨k', object, rfl, _, _⟩ | ⟨k', stored, merged, rewrites, settled⟩
  · exact .of_eq refl (by rw [same])
  · refine .of_eq refl (exec_objs_ne fun writes => ?_)
    cases writes
    exact noCreation object rfl
  · rw [settled]
    by_cases sameKind : k = k'
    · subst sameKind
      obtain ⟨related, gone⟩ := rewritten stored merged rewrites
      have items (other : Object k) := mem_settle other rewrites.mem rewrites.sameKey rewrites.sameUid
      constructor
      · intro after member
        rcases (items after).mp member with ⟨old, _⟩ | ⟨rfl, _⟩
        · exact ⟨after, old, refl after⟩
        · exact ⟨stored, rewrites.mem, related⟩
      · intro before member
        by_cases same : before.key = stored.key
        · obtain rfl := Collection.eq_of_key member rewrites.mem same
          cases done : finished merged with
          | true => exact .inl (gone done)
          | false => exact .inr ⟨_, (items _).mpr (.inr ⟨rfl, done⟩), related⟩
        · exact .inr ⟨before, (items before).mpr (.inl ⟨member, same⟩), refl before⟩
    · exact .of_eq refl (settle_objs_ne sameKind)

end Confined

omit [DecidableEq Kind] in
/-- An update that is accepted was made to the object as it is stored. -/
theorem Seen.eq_of_not_stale {stored next : Object k} (seen : s.Seen object)
    (found : stored ∈ (s.objs k).items) (current : stale stored next = false)
    (sameUid : next.metadata.uid = object.metadata.uid)
    (sameVersion : next.metadata.resourceVersion = object.metadata.resourceVersion) :
    stored = object := by
  have uidPos := seen.assigned.uid_pos
  have versionPos := seen.assigned.resourceVersion_pos
  have reaches := uid_eq_of_not_stale current (by omega)
  simp only [stale, Bool.or_eq_false_iff, Bool.and_eq_false_imp, bne_iff_ne, ne_eq,
    bne_eq_false_iff_eq] at current
  exact seen.unchanged stored found (reaches.trans sameUid) ((current.1 (by omega)).symm.trans sameVersion)

@[simp] theorem exec_served : (s.exec r).2.served = s.served := by
  rcases exec_store_cases s r with same | ⟨k', object, rfl, _, added⟩ |
    ⟨k', stored, merged, _, settled⟩
  · rw [same]
  · rw [added]
    rfl
  · rw [settled, settle_served]

end Lemmas

end Store

end SandboxedContainers.Lib
