import SandboxedContainers.System

/-!
# Stored KataConfigs over time

A stored `KataConfig` is a new one, or continues one that was there before: with
the same key and uid, with its deletion not taken back, and with the status it
had unless a status update replaced it.  A uid is never used twice, so it
identifies a `KataConfig` over a whole execution.
-/

namespace SandboxedContainers

open Lib

def storedStatus (kataConfig : KataConfig) : Option KataConfigStatus :=
  (show KataConfigBody from kataConfig.body).status

theorem statusOf_eq (kataConfig : KataConfig) : statusOf kataConfig = (storedStatus kataConfig).getD {} := rfl

/-- Whether a request can change the status of a `KataConfig`. -/
def writesStatus : Req → Bool
  | .updateStatus k _ | .patch k _ _ _ => k = .kataConfig
  | _ => false

/-- The same `KataConfig` at a later time. -/
structure Continues (before after : KataConfig) : Prop where
  key : after.key = before.key
  uid : after.metadata.uid = before.metadata.uid
  deletion : before.metadata.deletionTimestamp = true → after.metadata.deletionTimestamp = true

theorem Continues.refl (kataConfig : KataConfig) : Continues kataConfig kataConfig := ⟨rfl, rfl, id⟩

def kataConfigs (s : Cluster) : List KataConfig := (s.objs .kataConfig).items

def nodes (s : Cluster) : List Node := (s.objs .node).items

/-- No stored `KataConfig` lost its status or its deletion between the two clusters. -/
def StatusKept (s s' : Cluster) : Prop :=
  s.version ≤ s'.version ∧ ∀ after ∈ kataConfigs s',
    (s.version < after.metadata.uid ∧ storedStatus after = none) ∨
      ∃ before ∈ kataConfigs s, Continues before after ∧ storedStatus after = storedStatus before

theorem StatusKept.refl (s : Cluster) : StatusKept s s :=
  ⟨le_refl _, fun after member => .inr ⟨after, member, .refl after, rfl⟩⟩

theorem uid_le_version {s : Cluster} {kataConfig : KataConfig} (member : kataConfig ∈ kataConfigs s) :
    kataConfig.metadata.uid ≤ s.version := (s.assigned .kataConfig kataConfig member).uid_le

theorem uid_pos {s : Cluster} {kataConfig : KataConfig} (member : kataConfig ∈ kataConfigs s) :
    0 < kataConfig.metadata.uid := (s.assigned .kataConfig kataConfig member).uid_pos

theorem exec_statusKept (s : Cluster) {r : Req} (quiet : writesStatus r = false) :
    StatusKept s (s.exec r).2 := by
  refine ⟨Store.exec_version_le, fun after member => ?_⟩
  rcases Store.exec_mem_cases member with old | ⟨submitted, rfl, _, rfl⟩ |
    ⟨before, merged, rewrites, _, rfl⟩
  · exact .inr ⟨after, old, .refl after, rfl⟩
  · exact .inl ⟨Nat.lt_succ_self _, rfl⟩
  · refine .inr ⟨before, rewrites.mem, ⟨rewrites.sameKey, rewrites.sameUid, rewrites.deletion⟩, ?_⟩
    cases rewrites with
    | update | delete => rfl
    | updateStatus | patch => simp [writesStatus] at quiet

theorem Change.apply_statusKept (s : Cluster) {change : Change} (foreign : change.isForeign = true) :
    StatusKept s (change.apply s) := by
  cases change with
  | request r =>
    apply exec_statusKept
    cases r <;> simp_all [Change.isForeign, writesStatus]
  | serve k available => exact .refl s
  | deliver => exact .refl s
  | enqueue name => exact .refl s

theorem Change.apply_seen {s : Cluster} {k : Kind} {object : Object k} (change : Change)
    (seen : s.Seen object) : (change.apply s).Seen object := by
  cases change with
  | request r => exact seen.exec
  | deliver | enqueue => exact seen
  | serve => exact ⟨seen.assigned, seen.unchanged⟩

/-- Every object stored in the second cluster is a new one, or continues one that
was stored in the first. -/
structure Evolves (s s' : Cluster) : Prop where
  version : s.version ≤ s'.version
  objects : ∀ k, ∀ after ∈ (s'.objs k).items, s.version < after.metadata.uid ∨
    ∃ before ∈ (s.objs k).items, Store.Later before after

theorem Evolves.refl (s : Cluster) : Evolves s s :=
  ⟨le_refl _, fun _ after member => .inr ⟨after, member, .refl after⟩⟩

theorem exec_evolves (s : Cluster) (r : Req) : Evolves s (s.exec r).2 :=
  ⟨Store.exec_version_le, fun _ _ => Store.exec_lineage⟩

theorem Change.apply_evolves (s : Cluster) (change : Change) : Evolves s (change.apply s) := by
  cases change with
  | request r => exact exec_evolves s r
  | serve | deliver | enqueue => exact ⟨le_refl _, fun _ after member => .inr ⟨after, member, .refl after⟩⟩

def Change.target : Change → Option (Kind × Key)
  | .request r => r.target
  | .serve _ _ | .deliver | .enqueue _ => none

theorem Change.apply_find?_other {s : Cluster} {change : Change} {k : Kind} {key : Key}
    (other : change.target ≠ some (k, key)) : (change.apply s).find? k key = s.find? k key := by
  cases change with
  | request r => exact Store.exec_find?_other other
  | serve | deliver | enqueue => rfl

section Decode

variable {α : Type}

@[simp] theorem decodeList_self (values : List α) : decodeList values values = values := by
  simp [decodeList]

@[simp] theorem KataNodesStatus.decode_self (nodes : KataNodesStatus) : nodes.decode nodes = nodes := by
  simp [KataNodesStatus.decode]

@[simp] theorem KataConfigStatus.decode_self (status : KataConfigStatus) : status.decode status = status := by
  unfold KataConfigStatus.decode
  rw [decodeList_self, decodeList_self, KataNodesStatus.decode_self]

theorem statusOf_decodeKataConfig (answer held : KataConfig) :
    statusOf (decodeKataConfig answer held) = match storedStatus answer with
      | none => statusOf held
      | some stored => stored.decode (statusOf held) := rfl

/-- An answer that carries the status the client sent changes nothing in it. -/
theorem statusOf_decodeKataConfig_of_eq {answer held : KataConfig}
    (same : storedStatus answer = storedStatus held) :
    statusOf (decodeKataConfig answer held) = statusOf held := by
  rw [statusOf_decodeKataConfig, same, statusOf_eq]
  cases storedStatus held <;> simp

end Decode

section Answered

variable {s s' : Cluster} {r : Req} {response : Response r} {k : Kind} {key : Key}

/-- A request that was answered took effect, or left the cluster alone. -/
theorem Answered.store (answered : Answered s r response s') : s' = s ∨ s' = (s.exec r).2 := by
  rcases answered with real | ⟨_, _, _, dropped | lost⟩
  · exact .inr (congrArg Prod.snd real)
  · exact .inl dropped
  · exact .inr lost

theorem Answered.seen {object : Object k} (answered : Answered s r response s')
    (seen : s.Seen object) : s'.Seen object := by
  rcases answered.store with rfl | rfl
  · exact seen
  · exact seen.exec

theorem Answered.evolves (answered : Answered s r response s') : Evolves s s' := by
  rcases answered.store with rfl | rfl
  · exact .refl _
  · exact exec_evolves s r

theorem Answered.objs_eq (answered : Answered s r response s')
    (other : r.writes ≠ some k) : s'.objs k = s.objs k := by
  rcases answered.store with rfl | rfl
  · rfl
  · exact Store.exec_objs_ne other

theorem Answered.confined {R : Object k → Object k → Prop} {leaves : Object k → Prop}
    (answered : Answered s r response s') (refl : ∀ object, R object object)
    (noCreation : ∀ object, r ≠ .create k object)
    (rewritten : ∀ stored merged, s.Rewrites k r stored merged →
      R stored (s.stamp merged) ∧ (Store.finished merged = true → leaves stored)) :
    Store.Confined k R leaves s s' := by
  rcases answered.store with rfl | rfl
  · exact .of_eq refl rfl
  · exact Store.exec_confined refl noCreation rewritten

theorem Answered.absent (answered : Answered s r response s')
    (absent : s.find? k key = none) (elsewhere : ∀ object, r = .create k object → object.key ≠ key) :
    s'.find? k key = none := by
  rcases answered.store with rfl | rfl
  · exact absent
  · exact Store.exec_absent absent elsewhere

theorem Answered.find?_other (answered : Answered s r response s')
    (other : r.target ≠ some (k, key)) : s'.find? k key = s.find? k key := by
  rcases answered.store with rfl | rfl
  · rfl
  · exact Store.exec_find?_other other

theorem Answered.update_present {existing next : Object k} {response}
    (answered : Answered s (.update k next) response s') (seen : s.Seen existing)
    (sameUid : next.metadata.uid = existing.metadata.uid)
    (sameVersion : next.metadata.resourceVersion = existing.metadata.resourceVersion)
    (sameFinalizers : next.metadata.finalizers = existing.metadata.finalizers)
    (present : (s.find? k key).isSome = true) : (s'.find? k key).isSome = true := by
  by_cases same : next.key = key
  · subst same
    rcases answered.store with rfl | rfl
    · exact present
    rcases Store.exec_update_cases (P := Mark) (s := s) next with
      ⟨_, refused⟩ | ⟨stored, found, current, _, written⟩
    · rw [refused]
      exact present
    · have member := (Collection.find?_mem found).1
      obtain rfl : stored = existing := seen.eq_of_not_stale member current sameUid sameVersion
      have stays : (s.settle (Store.updated stored next)).find? k next.key = some _ :=
        Store.find?_settle_kept found rfl rfl sameFinalizers rfl
      rw [written, stays]
      rfl
  · rw [answered.find?_other fun target => same (congrArg Prod.snd (Option.some.inj target))]
    exact present

theorem Answered.statusKept (answered : Answered s r response s') (quiet : writesStatus r = false) :
    StatusKept s s' := by
  rcases answered.store with rfl | rfl
  · exact .refl _
  · exact exec_statusKept s quiet

theorem Answered.version_le (answered : Answered s r response s') : s.version ≤ s'.version := by
  rcases answered.store with rfl | rfl
  · exact le_refl _
  · exact Store.exec_version_le

theorem Answered.statusWritten {object : KataConfig} {response}
    (answered : Answered s (.updateStatus .kataConfig object) response s')
    (named : 0 < object.metadata.uid) {after : KataConfig} (member : after ∈ kataConfigs s') :
    ∃ before ∈ kataConfigs s, Continues before after ∧
      (storedStatus after = storedStatus before ∨
        (after.metadata.uid = object.metadata.uid ∧ storedStatus after = storedStatus object)) := by
  rcases answered.store with rfl | rfl
  · exact ⟨after, member, .refl after, .inl rfl⟩
  rcases Store.exec_mem_cases member with old | ⟨_, created, _⟩ | ⟨before, _, rewrites, _, rfl⟩
  · exact ⟨after, old, .refl after, .inl rfl⟩
  · cases created
  · refine ⟨before, rewrites.mem, ⟨rewrites.sameKey, rewrites.sameUid, rewrites.deletion⟩, ?_⟩
    have sameUid := rewrites.sameUid
    cases rewrites with
    | updateStatus found current =>
      exact .inr ⟨sameUid.trans (Store.uid_eq_of_not_stale current named), rfl⟩

theorem Answered.delete_ok {response} (answered : Answered s (.delete k key) (.ok response) s') :
    ∃ stored, s.find? k key = some stored ∧ s' = s.settle (Store.doomed stored) := by
  rcases answered with real | ⟨error, _, failure, _⟩
  · rcases Store.exec_delete_cases (P := Mark) (s := s) k key with ⟨error, refused⟩ | ⟨stored, found, written⟩
    · rw [refused] at real
      cases real
    · rw [written] at real
      cases real
      exact ⟨stored, found, rfl⟩
  · cases failure

theorem Answered.delete_terminates {response} {object : Object k}
    (answered : Answered s (.delete k key) (.ok response) s') (found : s'.find? k key = some object) :
    object.metadata.deletionTimestamp = true := by
  obtain ⟨stored, before, rfl⟩ := answered.delete_ok
  obtain ⟨member, sameKey⟩ := Collection.find?_mem found
  have mem := Collection.find?_mem before
  rcases (Store.mem_settle _ mem.1 (by rfl) (by rfl)).mp member with ⟨_, otherKey⟩ | ⟨rfl, _⟩
  · exact absurd (sameKey.trans mem.2.symm) otherKey
  · rfl

theorem Answered.delete_gone {response} (answered : Answered s (.delete k key) (.ok response) s')
    (free : (s.find? k key).all (fun stored => stored.metadata.finalizers.isEmpty) = true) :
    s'.find? k key = none := by
  obtain ⟨stored, before, rfl⟩ := answered.delete_ok
  rw [before] at free
  have mem := Collection.find?_mem before
  refine Collection.find?_eq_none.mpr fun object member sameKey => ?_
  rcases (Store.mem_settle _ mem.1 (by rfl) (by rfl)).mp member with ⟨_, otherKey⟩ | ⟨_, unfinished⟩
  · exact otherKey (sameKey.trans mem.2.symm)
  · have empty : stored.metadata.finalizers = [] := by simpa using free
    simp [Store.finished, Store.doomed, empty] at unfinished

theorem Answered.delete_notFound {error : ApiError}
    (answered : Answered s (.delete k key) (.error error) s') (missing : error.reason = .notFound) :
    s' = s ∧ s.find? k key = none := by
  rcases answered with real | ⟨_, transient, failure, _⟩
  · by_cases served : s.served k = true
    · cases found : s.find? k key with
      | none =>
        simp only [Store.exec, Store.change, served, found, if_true] at real
        cases real
        exact ⟨rfl, rfl⟩
      | some stored =>
        simp only [Store.exec, Store.change, served, found, if_true] at real
        cases real
    · simp only [Store.exec, Store.change, served] at real
      cases real
      cases missing
  · cases failure
    rcases transient with other | conflict
    · simp [missing] at other
    · simp [missing] at conflict

theorem Answered.get_ok {object : Object k} (answered : Answered s (.get k key) (.ok object) s') :
    s' = s ∧ s.find? k key = some object := by
  rcases answered with real | ⟨error, _, failure, _⟩
  · simp only [Store.exec] at real
    split at real
    · split at real
      · cases real
      · rename_i found
        cases real
        exact ⟨rfl, found⟩
    · cases real
  · cases failure

theorem Answered.get_error {error : ApiError} (answered : Answered s (.get k key) (.error error) s') :
    s' = s ∧ (error.Transient ∨ (error = Store.notFound ∧ s.served k = true ∧ s.find? k key = none) ∨
      (error = Store.noMatch ∧ s.served k = false)) := by
  rcases answered with real | ⟨_, transient, failure, dropped | lost⟩
  · simp only [Store.exec] at real
    split at real
    · rename_i served
      split at real
      · rename_i absent
        cases real
        exact ⟨rfl, .inr (.inl ⟨rfl, served, absent⟩)⟩
      · cases real
    · rename_i unserved
      cases real
      exact ⟨rfl, .inr (.inr ⟨rfl, by simpa using unserved⟩)⟩
  · cases failure
    exact ⟨dropped, .inl transient⟩
  · cases failure
    exact ⟨lost.trans (Store.exec_get_store k key), .inl transient⟩

theorem Answered.get_missing {error : ApiError} (answered : Answered s (.get k key) (.error error) s')
    (missing : (Err.isNotFound (.api error) || Err.isGone (.api error)) = true) : s' = s ∧ s.find? k key = none := by
  obtain ⟨same, transient | ⟨_, _, absent⟩ | ⟨rfl, _⟩⟩ := answered.get_error
  · rcases transient with other | conflict
    · simp [Err.isNotFound, Err.isGone, Err.reason?, other] at missing
    · simp [Err.isNotFound, Err.isGone, Err.reason?, conflict] at missing
  · exact ⟨same, absent⟩
  · cases missing

theorem Answered.get_notFound {error : ApiError}
    (answered : Answered s (.get k key) (.error error) s') (missing : error.reason = .notFound) :
    s' = s ∧ s.find? k key = none :=
  answered.get_missing (by simp [Err.isNotFound, Err.reason?, missing])

theorem Answered.list_ok {selector : Selector} {objects : List (Object k)}
    (answered : Answered s (.list k selector) (.ok objects) s') :
    s' = s ∧ s.served k = true ∧
      objects = (s.objs k).items.filter fun object => selector.accepts object.metadata.labels := by
  rcases answered with real | ⟨error, _, failure, _⟩
  · simp only [Store.exec] at real
    split at real
    · rename_i served
      cases real
      exact ⟨rfl, served, rfl⟩
    · cases real
  · cases failure

theorem Answered.list_error {selector : Selector} {error : ApiError}
    (answered : Answered s (.list k selector) (.error error) s') :
    s' = s ∧ (error.Transient ∨ (error = Store.noMatch ∧ s.served k = false)) := by
  rcases answered with real | ⟨_, transient, failure, dropped | lost⟩
  · simp only [Store.exec] at real
    split at real
    · cases real
    · rename_i unserved
      cases real
      exact ⟨rfl, .inr ⟨rfl, by simpa using unserved⟩⟩
  · cases failure
    exact ⟨dropped, .inl transient⟩
  · cases failure
    exact ⟨lost.trans (Store.exec_list_store k selector), .inl transient⟩

theorem Answered.create_ok {object answer : Object k}
    (answered : Answered s (.create k object) (.ok answer) s') :
    s.find? k object.key = none ∧ answer = s.newborn object ∧ s' = s.insertNew object := by
  rcases answered with real | ⟨error, _, failure, _⟩
  · rcases Store.exec_create_cases (P := Mark) (s := s) object with ⟨error, refused⟩ | ⟨absent, added⟩
    · rw [refused] at real
      cases real
    · rw [added] at real
      cases real
      exact ⟨absent, rfl, rfl⟩
  · cases failure

theorem Answered.update_ok {object answer : Object k}
    (answered : Answered s (.update k object) (.ok answer) s') :
    ∃ stored, s.find? k object.key = some stored ∧ Store.stale stored object = false ∧
      answer = s.stamp (Store.updated stored object) ∧
      s' = s.settle (Store.updated stored object) := by
  rcases answered with real | ⟨error, _, failure, _⟩
  · rcases Store.exec_update_cases (P := Mark) (s := s) object with
      ⟨error, refused⟩ | ⟨stored, found, current, _, written⟩
    · rw [refused] at real
      cases real
    · rw [written] at real
      cases real
      exact ⟨stored, found, current, rfl, rfl⟩
  · cases failure

theorem Answered.updateStatus_ok {object answer : Object k}
    (answered : Answered s (.updateStatus k object) (.ok answer) s') :
    ∃ stored, s.find? k object.key = some stored ∧ Store.stale stored object = false ∧
      answer = s.stamp (Store.statusUpdated stored object) ∧
      s' = s.settle (Store.statusUpdated stored object) := by
  rcases answered with real | ⟨error, _, failure, _⟩
  · rcases Store.exec_updateStatus_cases (P := Mark) (s := s) object with
      ⟨error, refused⟩ | ⟨stored, found, current, written⟩
    · rw [refused] at real
      cases real
    · rw [written] at real
      cases real
      exact ⟨stored, found, current, rfl, rfl⟩
  · cases failure

end Answered

end SandboxedContainers
