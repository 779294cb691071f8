import SandboxedContainers.Runs

/-!
# What the operator creates for a KataConfig

MachineConfigs, the pool and the webhook configuration have no owner, so nothing
but the operator removes them.  `custody` records on behalf of which `KataConfig`
each of them was created, and from which `KataConfig`s the operator has removed
its finalizer.

A `KataConfig` that was released is being deleted and never gets its finalizer
back.  An install request ensures the finalizer before it creates anything of
this kind, so nothing is created for a `KataConfig` after its release.
-/

namespace SandboxedContainers

open Lib Routine

/-- Kinds the operator creates for a `KataConfig` without making it their owner. -/
def Kind.isUnowned : Kind → Bool
  | .machineConfig | .machineConfigPool | .mutatingWebhookConfiguration => true
  | _ => false

/-- The names under which the operator creates objects of these kinds. -/
def Kind.places : Kind → List Key
  | .machineConfig => [⟨"", extensionMcName⟩, ⟨"", imageMcName⟩]
  | .machineConfigPool => [poolKey "kata-oc"]
  | .mutatingWebhookConfiguration => [webhookConfigKey]
  | _ => []

def bearsFinalizer (kataConfig : KataConfig) : Bool :=
  kataConfig.metadata.finalizers.contains kataConfigFinalizer

def bearers (s : Cluster) : List Nat :=
  ((kataConfigs s).filter bearsFinalizer).map fun kataConfig => kataConfig.metadata.uid

structure Creation where
  kind : Kind
  uid : Nat
  owner : Nat
  deriving DecidableEq

structure Custody where
  /-- The install or delete request under way, and the `KataConfig` it was entered with. -/
  request : Option (Point × KataConfig) := none
  made : List Creation := []
  /-- Those on behalf of which a node was labelled for `kata-oc`. -/
  labelled : List Nat := []
  /-- Those the operator has removed its finalizer from. -/
  released : List Nat := []

def Point.isRequest : Point → Bool
  | .installRequest | .installRequestDaemonSet | .deleteRequest | .deleteRequestDaemonSet => true
  | _ => false

def Custody.owner (custody : Custody) : Option Nat :=
  custody.request.map fun (_, kataConfig) => kataConfig.metadata.uid

def Custody.leaving (custody : Custody) : Option Nat :=
  match custody.request with
  | some (.deleteRequest, kataConfig) | some (.deleteRequestDaemonSet, kataConfig) =>
    some kataConfig.metadata.uid
  | _ => none

def creations (s : Cluster) (k : Kind) (key : Key) (s' : Cluster) (owner : Option Nat) : List Creation :=
  match s.find? k key, s'.find? k key, owner with
  | none, some object, some owner => [⟨k, object.metadata.uid, owner⟩]
  | _, _, _ => []

def labelAppears (s s' : Cluster) : Bool :=
  (nodes s').any fun node => isLabeledForKata node && (nodes s).any fun before =>
    before.metadata.uid = node.metadata.uid && !isLabeledForKata before

def custody : Monitor Custody where
  start _ _ custody := { custody with request := none }
  call s r _ s' custody := match r with
    | .mark ⟨point, kataConfig⟩ =>
      if point.isRequest then { custody with request := some (point, kataConfig) } else custody
    | .create k object =>
      { custody with made := creations s k object.key s' custody.owner ++ custody.made }
    | .update .node _ =>
      if labelAppears s s' then { custody with labelled := custody.owner.toList ++ custody.labelled }
      else custody
    | .update .kataConfig _ =>
      { custody with released :=
        (bearers s).filter (fun uid => !(bearers s').contains uid) ++ custody.released }
    | _ => custody

section Ghost

variable {s s' : Cluster} {g : Custody} {r : Req} {response : Response r}

theorem custody_request (notMark : ∀ m, r ≠ .mark m) :
    (custody.call s r response s' g).request = g.request := by
  unfold custody
  simp only
  split
  · exact absurd rfl (notMark _)
  · rfl
  · split <;> rfl
  · rfl
  · rfl

theorem custody_released (other : ∀ object, r ≠ .update .kataConfig object) :
    (custody.call s r response s' g).released = g.released := by
  unfold custody
  simp only
  split
  · split <;> rfl
  · rfl
  · split <;> rfl
  · exact absurd rfl (other _)
  · rfl

theorem mem_bearers {uid : Nat} :
    uid ∈ bearers s ↔ ∃ kataConfig ∈ kataConfigs s, bearsFinalizer kataConfig = true ∧
      kataConfig.metadata.uid = uid := by
  simp [bearers, and_assoc]

end Ghost

section Ensuring

variable {W : Type} {M : Machine Req Response W} {C : Contract Req W}
  {Unsure Sure Stopped : Reconciler → W → Prop} [Invariant M C Unsure]
  [Invariant M C Sure] [Invariant M C Stopped]

/-- The finalizer is in place when `ensureFinalizer` returns: it was stored when the
`KataConfig` was fetched, or it was accepted now. -/
theorem ensureFinalizer_stored (Pledged : Reconciler → W → Prop)
    (held : ∀ memory w, Unsure memory w → bearsFinalizer memory.current = true → Sure memory w)
    (pledges : ∀ memory w (kataConfig : KataConfig), Unsure memory w → bearsFinalizer kataConfig = true →
      kataConfig.metadata.uid = memory.current.metadata.uid → kataConfig.key = memory.current.key →
        Pledged (memory.setKataConfig kataConfig) w)
    (updates : Triple M C Pledged updateKataConfig (Onward Sure fun _ : Except Err PUnit => Stopped)) :
    Triple M C Unsure ensureFinalizer (Onward Sure fun _ : Except Exit PUnit => Stopped) := by
  have add : Triple M C Unsure addFinalizer (Onward Sure fun _ : Except Err PUnit => Stopped) := by
    refine triple_modify_bind (R := Pledged) (fun memory w unsure => pledges memory w _ unsure ?_ rfl rfl) updates
    simp only [bearsFinalizer]
    split
    · assumption
    · simp
  refine triple_get_ite ?_ ?_
  · refine Triple.pre (P := Unsure) (Triple.orElse (add.post ?_)) fun _ _ unsure => unsure.1
    rintro (_ | _) memory w holds
    · exact holds
    · exact holds
  · have bearing := Invariant.and (M := M) (C := C) (A := Unsure)
      fun memory => bearsFinalizer memory.current = true
    refine Triple.pre (P := fun memory w => Unsure memory w ∧ bearsFinalizer memory.current = true)
      (triple_pure fun memory w holds => held memory w holds.1 holds.2) fun memory w unsure => ?_
    exact ⟨unsure.1, by simpa [bearsFinalizer] using unsure.2⟩

end Ensuring

namespace Custody

/-- A released `KataConfig` that is still there is being deleted, without the
operator's finalizer. -/
structure Gone (w : Cluster × Custody) : Prop where
  known : ∀ uid ∈ w.2.released, uid ≤ w.1.version
  gone : ∀ kataConfig ∈ kataConfigs w.1, kataConfig.metadata.uid ∈ w.2.released →
    kataConfig.metadata.deletionTimestamp = true ∧ bearsFinalizer kataConfig = false

/-- Nothing unowned is created on behalf of a released `KataConfig`, and only the
`KataConfig` a delete request is about is released. -/
structure Honours (w : Cluster × Custody) (r : Req) : Prop where
  creates : ∀ k object, r = .create k object → k.isUnowned = true → ∀ uid ∈ w.2.owner, uid ∉ w.2.released
  updates : ∀ object, r = .update .kataConfig object → 0 < object.metadata.uid ∧
    (bearsFinalizer object = false → w.2.leaving = some object.metadata.uid)

def contract : Contract Req (Cluster × Custody) where
  good := Honours
  mid := Gone

section

variable (settings : Settings)

abbrev system := operator settings custody {}

abbrev machine := (system settings).toMachine

end

section Release

variable {s s' : Cluster} {g g' : Custody} {object : KataConfig}

theorem Gone.evolves (settled : Gone (s, g)) (evolves : Evolves s s') (same : g'.released = g.released) :
    Gone (s', g') := by
  refine ⟨fun uid member => ?_, fun after member released => ?_⟩
  · exact (settled.known uid (same ▸ member)).trans evolves.version
  · have released' : after.metadata.uid ∈ g.released := same ▸ released
    rcases evolves.objects .kataConfig after member with fresh | ⟨before, old, later⟩
    · exact absurd (settled.known _ released') (Nat.not_le.mpr fresh)
    · obtain ⟨deleting, bare⟩ := settled.gone before old (later.uid ▸ released')
      refine ⟨later.deletion deleting, ?_⟩
      simp only [bearsFinalizer, List.contains_eq_mem, decide_eq_false_iff_not] at bare ⊢
      exact fun bears => bare (later.finalizers deleting _ bears)

theorem bearers_update {response} (answered : Answered s (.update .kataConfig object) response s')
    (assigned : 0 < object.metadata.uid) {uid : Nat} (bore : uid ∈ bearers s) :
    uid ∈ bearers s' ∨ (uid = object.metadata.uid ∧ bearsFinalizer object = false ∧
      ∃ stored ∈ kataConfigs s, stored.metadata.uid = uid ∧
        ∀ after ∈ kataConfigs s', after.metadata.uid = uid → Store.Later stored after ∧ bearsFinalizer after = false) := by
  obtain ⟨before, member, bears, rfl⟩ := mem_bearers.mp bore
  rcases answered.store with rfl | rfl
  · exact .inl bore
  rcases Store.exec_update_cases (P := Mark) (s := s) object with
    ⟨_, refused⟩ | ⟨stored, found, current, admitted, written⟩
  · rw [refused]
    exact .inl bore
  obtain ⟨storedMember, sameKey⟩ := Collection.find?_mem found
  have sameUid := Store.uid_eq_of_not_stale current assigned
  have items (other : KataConfig) : other ∈ ((s.settle (Store.updated stored object)).objs .kataConfig).items ↔ _ :=
    Store.mem_settle other storedMember sameKey.symm rfl
  by_cases this : before = stored
  · subst this
    cases kept : bearsFinalizer object with
    | true =>
      refine .inl (mem_bearers.mpr ⟨s.stamp (Store.updated before object), ?_, kept, rfl⟩)
      have pending : Store.finished (Store.updated before object) = false := by
        have some : object.metadata.finalizers ≠ [] := by
          rintro none
          simp [bearsFinalizer, none] at kept
        simp [Store.finished, Store.updated, some]
      rw [written]
      exact (items _).mpr (.inr ⟨rfl, pending⟩)
    | false =>
      refine .inr ⟨sameUid, rfl, before, member, rfl, fun after afterMember afterUid => ?_⟩
      rw [written] at afterMember
      rcases (items _).mp afterMember with ⟨old, otherKey⟩ | ⟨rfl, _⟩
      · exact absurd (congrArg Object.key (Collection.eq_of_uid old member afterUid)) otherKey
      · exact ⟨(Store.Rewrites.update (P := Mark) found current admitted).later, kept⟩
  · refine .inl (mem_bearers.mpr ⟨before, ?_, bears, rfl⟩)
    rw [written]
    exact (items _).mpr (.inl ⟨member, fun same => this (Collection.eq_of_key member storedMember same)⟩)

theorem bearer_of_update {kataConfig answer : KataConfig}
    (answered : Answered s (.update .kataConfig (inScope kataConfig)) (.ok answer) s')
    (assigned : 0 < kataConfig.metadata.uid) (bears : bearsFinalizer kataConfig = true) :
    kataConfig.metadata.uid ∈ bearers s' := by
  obtain ⟨stored, found, current, rfl, rfl⟩ := answered.update_ok
  have sameUid : stored.metadata.uid = kataConfig.metadata.uid := Store.uid_eq_of_not_stale current assigned
  have some : kataConfig.metadata.finalizers ≠ [] := by
    intro none
    simp [bearsFinalizer, none] at bears
  have pending : Store.finished (Store.updated stored (inScope kataConfig)) = false := by
    simp [Store.finished, Store.updated, inScope, Kind.namespaced, some]
  have member := Store.find?_settle (Store.updated stored (inScope kataConfig)) found rfl rfl
  rw [pending] at member
  exact mem_bearers.mpr ⟨_, (Collection.find?_mem member).1, bears, sameUid⟩

/-- The operator's update of a `KataConfig` that is being deleted, or of one that
keeps its finalizer. -/
theorem Gone.update (settled : Gone (s, g)) {response}
    (answered : Answered s (.update .kataConfig object) response s') (assigned : 0 < object.metadata.uid)
    (deleting : bearsFinalizer object = false → ∀ stored ∈ kataConfigs s,
      stored.metadata.uid = object.metadata.uid → stored.metadata.deletionTimestamp = true) :
    Gone (s', custody.call s (.update .kataConfig object) response s' g) := by
  have later : Gone (s', g) := settled.evolves answered.evolves rfl
  refine ⟨fun uid member => ?_, fun after member released => ?_⟩
  · rcases List.mem_append.mp member with new | old
    · obtain ⟨kataConfig, stored, _, rfl⟩ := mem_bearers.mp (List.mem_filter.mp new).1
      exact (uid_le_version stored).trans answered.version_le
    · exact later.known uid old
  · rcases List.mem_append.mp released with new | old
    · obtain ⟨bore, lost⟩ := List.mem_filter.mp new
      have lost' : after.metadata.uid ∉ bearers s' := by simpa using lost
      rcases bearers_update answered assigned bore with kept | ⟨same, bare, stored, storedMember, sameUid, gone⟩
      · exact absurd kept lost'
      · obtain ⟨continues, bareAfter⟩ := gone after member rfl
        exact ⟨continues.deletion (deleting bare stored storedMember (sameUid.trans same)), bareAfter⟩
    · exact later.gone after member old

end Release

section Entering

variable {settings : Settings} {rules : Rules Custody} {C : Contract Req (Cluster × Custody)}
  {Fetched : Reconciler → Cluster × Custody → Prop} {Rest Sure : Cluster × Custody → Prop}

/-- The request was entered with the `KataConfig` that the reconciler holds. -/
structure Entered (Fetched : Reconciler → Cluster × Custody → Prop) (memory : Reconciler)
    (w : Cluster × Custody) : Prop where
  fetched : Fetched memory w
  owner : ∀ uid ∈ w.2.owner, uid = uidOf memory

/-- The finalizer has been added in memory only. -/
structure Pledged (Rest : Cluster × Custody → Prop) (memory : Reconciler) (w : Cluster × Custody) : Prop where
  rest : Rest w
  assigned : 0 < uidOf memory
  bears : bearsFinalizer memory.current = true
  owner : ∀ uid ∈ w.2.owner, uid = uidOf memory

variable [Invariant (operator settings custody rules).toMachine C (Entered Fetched)]

theorem entered_mark [Invariant (operator settings custody rules).toMachine C Fetched] {point : Point}
    (isRequest : point.isRequest = true)
    (good : ∀ memory w, Fetched memory w → C.good w (.mark ⟨point, memory.current⟩))
    (enters : ∀ memory s g request, Fetched memory (s, g) → Fetched memory (s, { g with request := request })) :
    Triple (operator settings custody rules).toMachine C Fetched (mark point : Op Exit PUnit)
      fun _ => Entered Fetched := by
  refine mark_triple good ?_
  rintro memory ⟨s, g⟩ w' fetched answered
  rw [operator_mark answered]
  simp only [custody, isRequest, if_true]
  refine ⟨enters memory s g _ fetched, ?_⟩
  rintro uid ⟨rfl⟩
  rfl

theorem ensureFinalizer_entered [Invariant (operator settings custody rules).toMachine C (World Sure)]
    [Invariant (operator settings custody rules).toMachine C (World Rest)]
    (held : ∀ memory w, Fetched memory w → Rest w ∧ 0 < uidOf memory)
    (sure : ∀ memory w, Entered Fetched memory w → bearsFinalizer memory.current = true → Sure w)
    (updates : Triple (operator settings custody rules).toMachine C (Pledged Rest) updateKataConfig
      (Onward (World Sure) fun _ : Except Err PUnit => World Rest)) :
    Triple (operator settings custody rules).toMachine C (Entered Fetched) ensureFinalizer
      (Onward (World Sure) fun _ : Except Exit PUnit => World Rest) := by
  refine ensureFinalizer_stored (Pledged Rest) sure ?_ updates
  rintro memory w kataConfig ⟨fetched, owner⟩ bears same _
  obtain ⟨rest, assigned⟩ := held memory w fetched
  exact ⟨rest, Nat.lt_of_lt_of_eq assigned same.symm, bears, fun uid owned => (owner uid owned).trans same.symm⟩

end Entering

/-- The `KataConfig` the reconciler holds, if it is still stored, is being deleted. -/
def Doomed (memory : Reconciler) (s : Cluster) : Prop :=
  ∀ kataConfig ∈ kataConfigs s, kataConfig.metadata.uid = uidOf memory →
    kataConfig.metadata.deletionTimestamp = true

structure Fetched (memory : Reconciler) (w : Cluster × Custody) : Prop where
  gone : Gone w
  assigned : 0 < uidOf memory ∧ uidOf memory ≤ w.1.version
  held : bearsFinalizer memory.current = true → uidOf memory ∉ w.2.released
  doomed : memory.current.metadata.deletionTimestamp = true → Doomed memory w.1

def Doomable (memory : Reconciler) (w : Cluster × Custody) : Prop :=
  Fetched memory w ∧ memory.current.metadata.deletionTimestamp = true

structure Covered (w : Cluster × Custody) : Prop where
  gone : Gone w
  free : ∀ uid ∈ w.2.owner, uid ∉ w.2.released

structure Leaving (memory : Reconciler) (w : Cluster × Custody) : Prop where
  gone : Gone w
  assigned : 0 < uidOf memory ∧ uidOf memory ≤ w.1.version
  doomed : Doomed memory w.1
  leaving : w.2.leaving = some (uidOf memory)

theorem Doomed.evolves {memory : Reconciler} {s s' : Cluster} (doomed : Doomed memory s)
    (known : uidOf memory ≤ s.version) (evolves : Evolves s s') : Doomed memory s' := by
  intro after member same
  rcases evolves.objects .kataConfig after member with fresh | ⟨before, old, later⟩
  · exact absurd (same ▸ fresh) (Nat.not_lt.mpr known)
  · exact later.deletion (doomed before old (later.uid.symm.trans same))

/-- The assertion survives whatever neither releases a `KataConfig` nor enters a request. -/
structure Carried (A : Reconciler → Cluster × Custody → Prop) : Prop where
  gone : ∀ memory w, A memory w → Gone w
  kept : ∀ memory s s' (g g' : Custody), Evolves s s' → g'.request = g.request →
    g'.released = g.released → A memory (s, g) → A memory (s', g')

section Assertions

variable {settings : Settings} {A : Reconciler → Cluster × Custody → Prop}

theorem Carried.invariant (carried : Carried A) : Invariant (machine settings) contract A where
  stable := by
    rintro memory ⟨s, g⟩ _ ⟨change, rfl, _⟩ holds
    exact carried.kept memory s _ g g (change.apply_evolves s) rfl rfl holds
  mid := carried.gone

theorem not_update {r : Req} (other : r.writes ≠ some .kataConfig) (object : KataConfig) :
    r ≠ .update .kataConfig object := by
  rintro rfl
  exact other rfl

theorem Carried.admits (carried : Carried A) {r : Req} (good : ∀ memory w, A memory w → Honours w r)
    (notMark : ∀ m, r ≠ .mark m) (other : r.writes ≠ some .kataConfig) :
    Admits (machine settings) contract A r := by
  rintro memory ⟨s, g⟩ holds
  refine ⟨good memory _ holds, fun response w' reply => ?_⟩
  obtain ⟨s', answered, rfl, _⟩ := operator_answered reply
  exact carried.kept memory s s' g _ answered.evolves (custody_request notMark)
    (custody_released (not_update other)) holds

theorem honours_of_ne {w : Cluster × Custody} {r : Req}
    (creates : ∀ k object, r = .create k object → k.isUnowned = false)
    (updates : ∀ object, r ≠ .update .kataConfig object) : Honours w r := by
  refine ⟨fun k object isCreate unowned => ?_, fun object isUpdate => absurd isUpdate (updates object)⟩
  simp [creates k object isCreate] at unowned

theorem Carried.writable (carried : Carried A) {k : Kind} (owned : k.isUnowned = false)
    (other : k ≠ .kataConfig) : Writable (machine settings) contract A k := by
  intro r writes
  have quiet : r.writes ≠ some .kataConfig := fun same => other (Option.some.inj (writes.symm.trans same))
  refine carried.admits (fun _ _ _ => honours_of_ne ?_ (not_update quiet)) (writes_not_mark writes) quiet
  rintro k' object rfl
  cases writes
  exact owned

theorem Carried.deletable (carried : Carried A) {k : Kind} (other : k ≠ .kataConfig) :
    Deletable (machine settings) contract A k :=
  fun _ => carried.admits (fun _ _ _ => honours_of_ne (by simp) (by simp)) (by simp)
    fun same => other (Option.some.inj same)

theorem Carried.tolerant (carried : Carried A) (free : Inessential A) :
    Tolerant (machine settings) contract A where
  toInvariant := carried.invariant
  reads r reads notMark := by
    refine carried.admits (fun _ _ _ => honours_of_ne ?_ (not_update (by simp [reads]))) notMark
      (by simp [reads])
    rintro k object rfl
    cases reads
  side k side := carried.writable (by cases k <;> simp_all [Kind.isUnowned, Kind.isSide])
    (by rintro rfl; simp [Kind.isSide] at side)
  kataNodes := free.1
  imageGenerator := free.2

theorem Carried.passes (carried : Carried A) {point : Point} (other : point.isRequest = false) :
    Passes (machine settings) contract A point := by
  have invariant : Invariant (machine settings) contract A := carried.invariant
  refine fun ε => mark_triple (fun _ _ _ => honours_of_ne (by simp) (by simp)) ?_
  rintro memory ⟨s, g⟩ w' holds answered
  rw [operator_mark answered]
  simp only [custody, other]
  exact holds

theorem fetched_carried : Carried Fetched := by
  refine ⟨fun _ _ fetched => fetched.gone, fun memory s s' g g' evolves _ same fetched => ?_⟩
  refine ⟨fetched.gone.evolves evolves same, ?_, fun bears => ?_, fun deleted => ?_⟩
  · exact ⟨fetched.assigned.1, fetched.assigned.2.trans evolves.version⟩
  · rw [same]
    exact fetched.held bears
  · exact (fetched.doomed deleted).evolves fetched.assigned.2 evolves

theorem doomable_carried : Carried Doomable :=
  ⟨fun _ _ doomable => doomable.1.gone, fun memory s s' g g' evolves request same doomable =>
    ⟨fetched_carried.kept memory s s' g g' evolves request same doomable.1, doomable.2⟩⟩

theorem entered_carried : Carried (Entered Fetched) := by
  refine ⟨fun _ _ entered => entered.fetched.gone,
    fun memory s s' g g' evolves request released entered => ⟨?_, ?_⟩⟩
  · exact fetched_carried.kept memory s s' g g' evolves request released entered.fetched
  · rw [Custody.owner, request]
    exact entered.owner

theorem covered_carried : Carried (World Covered) := by
  refine ⟨fun _ _ covered => Covered.gone covered,
    fun memory s s' g g' evolves request released covered => ⟨?_, ?_⟩⟩
  · exact (Covered.gone covered).evolves evolves released
  · rw [Custody.owner, request, released]
    exact Covered.free covered

theorem leaving_carried : Carried Leaving := by
  refine ⟨fun _ _ leaving => leaving.gone, fun memory s s' g g' evolves request same leaving => ?_⟩
  refine ⟨leaving.gone.evolves evolves same, ⟨leaving.assigned.1, leaving.assigned.2.trans evolves.version⟩,
    leaving.doomed.evolves leaving.assigned.2 evolves, ?_⟩
  rw [Custody.leaving, request]
  exact leaving.leaving

theorem gone_carried : Carried (World Gone) :=
  ⟨fun _ _ => id, fun _ _ _ _ _ evolves _ released gone => Gone.evolves gone evolves released⟩

instance : Tolerant (machine settings) contract Fetched :=
  fetched_carried.tolerant ⟨fun _ _ _ fetched => { fetched with }, fun _ _ _ fetched => { fetched with }⟩

instance : Invariant (machine settings) contract Doomable := doomable_carried.invariant

instance : Tolerant (machine settings) contract (Entered Fetched) :=
  entered_carried.tolerant ⟨fun _ _ _ ⟨fetched, owner⟩ => ⟨{ fetched with }, owner⟩,
    fun _ _ _ ⟨fetched, owner⟩ => ⟨{ fetched with }, owner⟩⟩

instance : Pliant (machine settings) contract (World Covered) where
  toTolerant := covered_carried.tolerant ⟨fun _ _ _ => id, fun _ _ _ => id⟩
  conditions _ _ _ _ _ _ :=
    have : Invariant (machine settings) contract (World Covered) := covered_carried.invariant
    maintains_modify fun _ _ => id
  waiting _ _ _ := id

instance : Pliant (machine settings) contract Leaving where
  toTolerant := leaving_carried.tolerant ⟨fun _ _ _ leaving => { leaving with },
    fun _ _ _ leaving => { leaving with }⟩
  conditions _ _ _ _ _ _ :=
    have : Invariant (machine settings) contract Leaving := leaving_carried.invariant
    maintains_modify fun _ _ leaving => { leaving with }
  waiting _ _ _ leaving := { leaving with }

instance : Invariant (machine settings) contract (World Gone) := gone_carried.invariant

theorem gone_stores {P : Reconciler → Cluster × Custody → Prop} [Invariant (machine settings) contract P]
    (gone : ∀ memory w, P memory w → Gone w) :
    Triple (machine settings) contract P updateKataConfigStatus fun _ => World Gone := by
  refine updateKataConfigStatus_triple (fun _ _ _ => honours_of_ne (by simp) (by simp)) ?_ ?_
  · rintro memory ⟨s, g⟩ answer ⟨s', _⟩ holds ⟨answered, rfl, _⟩
    exact (gone memory _ holds).evolves answered.evolves rfl
  · rintro memory ⟨s, g⟩ error ⟨s', _⟩ holds ⟨answered, rfl, _⟩
    exact (gone memory _ holds).evolves answered.evolves rfl

instance : Reporting (machine settings) contract (World Gone) where
  toTolerant := gone_carried.tolerant ⟨fun _ _ _ => id, fun _ _ _ => id⟩
  conditions _ _ _ _ _ _ := maintains_modify fun _ _ => id
  waiting _ _ _ := id
  stores := gone_stores fun _ _ => id

end Assertions

section Requests

variable {settings : Settings}

instance : Invariant (machine settings) contract (Pledged Gone) where
  stable := by
    rintro memory ⟨s, g⟩ _ ⟨change, rfl, _⟩ pledged
    exact { pledged with rest := pledged.rest.evolves (change.apply_evolves s) rfl }
  mid _ _ pledged := pledged.rest

theorem Pledged.update {memory : Reconciler} {s s' : Cluster} {g : Custody} (pledged : Pledged Gone memory (s, g))
    {response} (answered : Answered s (.update .kataConfig (inScope memory.current)) response s') :
    Gone (s', custody.call s (.update .kataConfig (inScope memory.current)) response s' g) := by
  refine pledged.rest.update answered pledged.assigned fun bare => ?_
  have bears : bearsFinalizer (inScope memory.current) = true := pledged.bears
  rw [bears] at bare
  cases bare

theorem Gone.not_released {w : Cluster × Custody} (settled : Gone w) {uid : Nat} (bearer : uid ∈ bearers w.1) :
    uid ∉ w.2.released := by
  intro released
  obtain ⟨kataConfig, member, bears, rfl⟩ := mem_bearers.mp bearer
  obtain ⟨_, bare⟩ := settled.gone kataConfig member released
  simp [bears] at bare

theorem pledged_updates : Triple (machine settings) contract (Pledged Gone) updateKataConfig
    (Onward (World Covered) fun _ : Except Err PUnit => World Gone) := by
  refine updateKataConfig_triple (fun memory w pledged => ⟨by simp, ?_⟩) ?_ ?_
  · rintro _ ⟨rfl⟩
    refine ⟨pledged.assigned, fun bare => absurd (pledged.bears.symm.trans bare) (by simp)⟩
  · rintro memory ⟨s, g⟩ answer w' pledged reply
    obtain ⟨s', answered, rfl, _⟩ := operator_answered reply
    have settled := pledged.update answered
    refine ⟨settled, fun uid owned => ?_⟩
    rw [show uid = uidOf memory from pledged.owner uid owned]
    exact settled.not_released (bearer_of_update answered pledged.assigned pledged.bears)
  · rintro memory ⟨s, g⟩ error w' pledged reply
    obtain ⟨s', answered, rfl, _⟩ := operator_answered reply
    exact pledged.update answered

theorem ensureFinalizer_triple : Triple (machine settings) contract (Entered Fetched) ensureFinalizer
    (Onward (World Covered) fun _ : Except Exit PUnit => World Gone) := by
  refine ensureFinalizer_entered (fun _ _ fetched => ⟨fetched.gone, fetched.assigned.1⟩) ?_ pledged_updates
  rintro memory w ⟨fetched, owner⟩ bears
  refine ⟨fetched.gone, fun uid owned => ?_⟩
  rw [owner uid owned]
  exact fetched.held bears

theorem covered_writable {k : Kind} (other : k ≠ .kataConfig) :
    Writable (machine settings) contract (World Covered) k := by
  intro r writes
  have quiet : r.writes ≠ some .kataConfig := fun same => other (Option.some.inj (writes.symm.trans same))
  refine covered_carried.admits (fun _ _ covered => ⟨fun _ _ _ _ => Covered.free covered, ?_⟩)
    (writes_not_mark writes) quiet
  exact fun object isUpdate => absurd isUpdate (not_update quiet object)

instance : KeepsWebhook settings (machine settings) contract (World Covered) :=
  keepsWebhook_of_writable settings fun _ webhook =>
    covered_writable (by rintro rfl; simp [Kind.isWebhook] at webhook)

theorem fetched_enters {point : Point} (isRequest : point.isRequest = true) :
    Triple (machine settings) contract Fetched (mark point : Op Exit PUnit) fun _ => Entered Fetched :=
  entered_mark isRequest (fun _ _ _ => honours_of_ne (by simp) (by simp)) fun _ _ _ _ fetched =>
    { fetched with gone := { fetched.gone with } }

theorem postInstallation_covered : Maintains (machine settings) contract (World Covered)
    (postKataInstallation settings) :=
  postKataInstallation_maintains settings (covered_carried.passes rfl) (covered_writable (by decide))
    (world_creates (covered_writable (by decide)))

theorem install_triple : Triple (machine settings) contract Fetched
    (processKataConfigInstallRequest settings) fun _ => World Gone :=
  processKataConfigInstallRequest_triple settings (fetched_enters rfl) ensureFinalizer_triple
    world_commences (fun _ => covered_carried.passes rfl)
    (fun _ => (covered_writable (by decide)).updatable _)
    (createMc_maintains settings (covered_writable (by decide)))
    (ensureKataOcPool_maintains (covered_writable (by decide)))
    (postInstallation_covered.post fun _ _ _ covered => Covered.gone covered)
    (fun _ _ _ entered => entered.fetched.gone) fun _ _ _ covered => Covered.gone covered

theorem installDaemonSet_triple : Triple (machine settings) contract Fetched
    (processKataConfigInstallRequestDaemonSet settings) fun _ => World Gone := by
  have nodes {A : Reconciler → Cluster × Custody → Prop} (carried : Carried A)
      (change : Node → Option Node) : Updatable (machine settings) contract A change :=
    (carried.writable rfl (by decide)).updatable change
  have prepare : Triple (machine settings) contract (Entered Fetched) (prepareInstallationDaemonSet settings)
      (Onward (World Covered) fun _ : Except Exit PUnit => World Gone) := by
    refine prepareInstallationDaemonSet_triple (A := World Covered) settings
      (fun _ => nodes entered_carried _) (ensureFinalizer_triple.post ?_)
      (fun _ _ _ entered => entered.fetched.gone) ?_
    · rintro (_ | _) memory w holds
      · exact holds
      · exact holds
    · rintro (_ | _) memory w covered
      · exact Covered.gone covered
      · exact covered
  have conclude : Maintains (machine settings) contract (World Covered)
      (concludeInstallationDaemonSet settings) :=
    concludeInstallationDaemonSet_triple settings world_commences (covered_carried.passes rfl)
      postInstallation_covered fun _ _ _ => id
  refine Triple.bind (fetched_enters rfl) (fun _ => ?_) fun _ _ _ entered => entered.fetched.gone
  refine Triple.andThen prepare fun ds => ?_
  refine Triple.post (Q := fun _ => World Covered) ?_ fun _ _ _ covered => Covered.gone covered
  exact maintains_bind (ensureInstallDaemonSet_maintains world_commences (nodes covered_carried _)
    (covered_writable (by decide)) ds) fun _ => conclude

theorem leaving_mark {point : Point} (isDelete : point = .deleteRequest ∨ point = .deleteRequestDaemonSet) :
    Triple (machine settings) contract Doomable (mark point : Op Exit PUnit) fun _ => Leaving := by
  refine mark_triple (fun _ _ _ => honours_of_ne (by simp) (by simp)) ?_
  rintro memory ⟨s, g⟩ w' ⟨fetched, deleted⟩ answered
  rw [operator_mark answered]
  rcases isDelete with rfl | rfl
  · exact ⟨⟨fetched.gone.known, fetched.gone.gone⟩, fetched.assigned, fetched.doomed deleted, rfl⟩
  · exact ⟨⟨fetched.gone.known, fetched.gone.gone⟩, fetched.assigned, fetched.doomed deleted, rfl⟩

instance : ImageFree Leaving :=
  ⟨fun _ _ _ leaving => { leaving with }⟩

theorem eligible_triple : Triple (machine settings) contract Leaving checkDeletionEligibility
    (Onward Leaving fun _ : Except Exit PUnit => World Gone) :=
  checkDeletionEligibility_triple (B := World Gone)
    ((leaving_carried.passes rfl Exit).onward fun _ _ _ leaving => leaving.gone)
    (gone_stores fun _ _ leaving => leaving.gone)
    fun _ _ _ holds => holds.elim (fun leaving => leaving.gone) id

theorem release_triple : Triple (machine settings) contract Leaving
    (orRetry removeFinalizer ⟨true, 0⟩) fun _ => World Gone := by
  refine Triple.orElse (Q := fun _ => World Gone) ?_
  refine triple_modify_bind (R := Leaving) (fun _ _ leaving => { leaving with }) ?_
  refine Maintains.bind_triple (leaving_carried.passes rfl _) (fun _ => ?_) fun _ _ _ leaving => leaving.gone
  refine updateKataConfig_triple (fun memory w leaving => ⟨by simp, ?_⟩) ?_ ?_
  · rintro _ ⟨rfl⟩
    exact ⟨leaving.assigned.1, fun _ => leaving.leaving⟩
  · rintro memory ⟨s, g⟩ answer w' leaving reply
    obtain ⟨s', answered, rfl, _⟩ := operator_answered reply
    exact leaving.gone.update answered leaving.assigned.1 fun _ => leaving.doomed
  · rintro memory ⟨s, g⟩ error w' leaving reply
    obtain ⟨s', answered, rfl, _⟩ := operator_answered reply
    exact leaving.gone.update answered leaving.assigned.1 fun _ => leaving.doomed

theorem disable_maintains : Maintains (machine settings) contract Leaving
    (disablePeerPodsMiscConfigs settings) := by
  have delete (k : Kind) (key : Key) (other : k ≠ .kataConfig) : Triple (machine settings) contract Leaving
      (deleteIfPresent k key) (Onward Leaving fun _ : Except Err PUnit => Leaving) :=
    (deleteIfPresent_maintains (leaving_carried.deletable other) key).steadily
  exact disablePeerPodsMiscConfigs_triple settings (delete _ _ (by decide)) (delete _ _ (by decide))
    (delete _ _ (by decide)) (delete _ _ (by decide)) fun _ _ _ => id

theorem finish_triple (isConverged : Bool) : Triple (machine settings) contract Leaving
    (finishDeletion settings isConverged) fun _ => World Gone := by
  have peerPods : Maintains (machine settings) contract Leaving (disablePeerPods settings) :=
    disablePeerPods_triple settings pliant_conditions disable_maintains fun _ _ _ => id
  refine finishDeletion_triple (B := Leaving) (D := Leaving) settings ?_ (fun _ _ _ => id)
    (leaving_carried.deletable (by decide)) ?_ (fun _ _ leaving => leaving.1) release_triple ?_
  · exact fun _ => (deleteKataOcPool_maintains (leaving_carried.deletable (by decide))).onward
      fun _ _ _ leaving => leaving.gone
  · exact (peerPods.onward fun _ _ _ leaving => leaving.gone).given
  · exact fun _ _ _ holds => holds.elim (fun leaving => leaving.gone)
      fun holds => holds.elim (fun leaving => leaving.gone) fun leaving => leaving.gone

theorem delete_triple : Triple (machine settings) contract Doomable
    (processKataConfigDeleteRequest settings) fun _ => World Gone := by
  have unlabel (selector : Selector) : Maintains (machine settings) contract Leaving
      ((unlabelNodes selector).orElse labelFailure) :=
    maintains_orElse (unlabelNodes_maintains (leaving_carried.passes rfl)
      ((leaving_carried.writable rfl (by decide)).updatable _) selector)
  have remove (pool : String) : Maintains (machine settings) contract Leaving (removeMc settings pool) :=
    removeMc_maintains settings (leaving_carried.deletable (by decide)) pool
  refine processKataConfigDeleteRequest_triple (B := Leaving) (D := Leaving) settings (leaving_mark (.inl rfl)) eligible_triple
    (fun selector => (unlabel selector).onward fun _ _ _ leaving => leaving.gone)
    (fun pool => (remove pool).onward fun _ _ _ leaving => leaving.gone) ?_
    fun _ _ _ holds => holds.elim (fun leaving => leaving.gone) fun leaving => leaving.gone
  exact awaitDeletion_triple (B := fun _ => Leaving) settings (leaving_carried.passes rfl)
    isConvergedAndKnown_maintains (fun _ _ => leaving_carried.passes rfl) finish_triple
    (fun _ _ _ leaving => leaving.gone) fun _ _ _ _ leaving => leaving.gone

theorem deleteDaemonSet_triple : Triple (machine settings) contract Doomable
    (processKataConfigDeleteRequestDaemonSet settings) fun _ => World Gone := by
  have nodes (change : Node → Option Node) : Updatable (machine settings) contract Leaving change :=
    (leaving_carried.writable rfl (by decide)).updatable change
  have unlabel (selector : Selector) : Maintains (machine settings) contract Leaving
      ((unlabelNodesDaemonSet selector).orElse labelFailure) :=
    maintains_orElse (unlabelNodesDaemonSet_maintains (leaving_carried.passes rfl) (nodes _) selector)
  have peerPods : Maintains (machine settings) contract Leaving
      (orReturn (disablePeerPodsMiscConfigs settings)) := orReturn_maintains disable_maintains
  have finish : Triple (machine settings) contract Leaving (finishDeletionDaemonSet settings)
      fun _ => World Gone := by
    refine finishDeletionDaemonSet_triple (B := Leaving) (D := Leaving) settings
      (leaving_carried.deletable (by decide)) ?_ (fun _ _ leaving => leaving.1) ?_ release_triple
      fun _ _ _ holds => holds.elim (fun leaving => leaving.gone) fun leaving => leaving.gone
    · exact (peerPods.onward fun _ _ _ leaving => leaving.gone).given
    · exact fun selector => (unlabel selector).onward fun _ _ _ leaving => leaving.gone
  refine processKataConfigDeleteRequestDaemonSet_triple settings (leaving_mark (.inr rfl)) eligible_triple ?_
    fun _ _ _ leaving => leaving.gone
  refine Maintains.bind_triple (startUninstallation_maintains settings (nodes _)
    (leaving_carried.writable rfl (by decide))) (fun justCreated => ?_) fun _ _ _ leaving => leaving.gone
  exact concludeDeletionDaemonSet_keeps settings (leaving_carried.passes rfl) finish
    (fun _ _ _ leaving => leaving.gone) justCreated

theorem fetch_triple (key : Key) : Triple (machine settings) contract (World Gone) (fetchKataConfig key)
    (AfterFetch (fun _ => Fetched) (World Gone)) := by
  refine fetchKataConfig_triple (fun _ _ => id) (fun _ _ _ => honours_of_ne (by simp) (by simp)) ?_ ?_
  · rintro memory ⟨s, g⟩ kataConfig ⟨s', _⟩ gone ⟨answered, rfl, _⟩
    obtain ⟨rfl, found⟩ := answered.get_ok
    obtain ⟨member, _⟩ := Collection.find?_mem found
    refine ⟨gone, ⟨uid_pos member, uid_le_version member⟩, fun bears => ?_, fun deleted other stored same => ?_⟩
    · exact Gone.not_released gone (mem_bearers.mpr ⟨kataConfig, member, bears, rfl⟩)
    · obtain rfl := Collection.eq_of_uid stored member same
      exact deleted
  · rintro memory ⟨s, g⟩ error w' gone reply
    obtain ⟨s', answered, rfl, _⟩ := operator_answered reply
    have kept : World Gone memory (s', g) := Gone.evolves gone answered.evolves rfl
    exact ⟨kept, kept⟩

theorem reconcile_triple (key : Key) :
    Triple (machine settings) contract (World Gone) (reconcileRoutine settings key) fun _ => World Gone := by
  refine reconcileRoutine_triple (fun _ => Fetched) (fun _ => Fetched) settings (fetch_triple key) ?_ ?_ ?_
    fun _ _ _ fetched => fetched.gone
  · have classes : KeepsClasses settings (machine settings) contract Fetched :=
      (fetched_carried.writable rfl (by decide)).keepsClasses settings fun _ _ _ fetched =>
        { fetched with }
    have image : ImageFree Fetched :=
      ⟨fun _ _ _ fetched => { fetched with }⟩
    have prepare : Maintains (machine settings) contract Fetched (prepareReconcile settings) :=
      prepareReconcile_maintains settings classes fun _ _ _ fetched => { fetched with }
    exact fun _ => prepare.onward fun _ _ _ fetched => fetched.gone
  · intro status
    refine Triple.pre (P := Doomable) ?_ ?_
    · refine Maintains.bind_triple (doomable_carried.passes rfl _) (fun _ => ?_)
        fun _ _ _ doomable => doomable.1.gone
      refine deleteAndStoreStatus_triple settings (processDeleteRequest_triple settings ?_ ?_)
      · exact delete_triple.given
      · exact deleteDaemonSet_triple.given
    · rintro memory w ⟨fetched, leaves⟩
      simp only [Reconciler.leaves, Bool.and_eq_true] at leaves
      exact ⟨fetched, leaves.1.1⟩
  · intro status
    refine installBranch_triple settings (processInstallRequest_triple settings ?_ ?_) status
    · exact install_triple.pre fun _ _ holds => holds.1.1
    · exact installDaemonSet_triple.pre fun _ _ holds => holds.1.1

end Requests

theorem sound (settings : Settings) :
    (system settings).Sound (initially {}) contract (World Gone) fun outcome => World Gone outcome.2 := by
  refine operator_sound (fun _ => World Gone) (fun _ => World Gone) ?_
    (fun _ _ _ gone _ => ⟨gone.known, gone.gone⟩) reconcile_triple (fun _ _ _ gone _ => gone)
    fun _ gone _ => gone
  rintro ⟨s, g⟩ ⟨_, rfl⟩
  exact ⟨fun _ member => absurd member List.not_mem_nil, fun _ _ member => absurd member List.not_mem_nil⟩

/-- Whatever the rules, nothing unowned is created for a released `KataConfig`. -/
theorem honours {settings : Settings} {rules : Rules Custody} {w : Cluster × Custody} {r : Req}
    (issued : (operator settings custody rules).Issues (initially {}) w r) : Honours w r := by
  obtain ⟨next, reachable⟩ := issued
  have covers : Controller.Covers (operator settings custody rules) (initially {})
      (operator settings custody {}) (initially {}) _ := operator_covers Monitor.extends_self Rules.within_free
  have covered := covers.reachable reachable
  exact (sound settings).good ⟨next, covered⟩

/-- The rules, with what is known whatever the rules are. -/
noncomputable abbrev assured (rules : Rules Custody) : Rules Custody := rules.assuming Honours

theorem assured_covers (settings : Settings) (rules : Rules Custody) :
    Controller.Covers (operator settings custody rules) (initially {})
      (operator settings custody (assured rules)) (initially {}) id :=
  operator_assuming fun _ _ => honours

/-- An object of the kind that was created on behalf of the `KataConfig` exists in its
place; one that is being deleted may count or not. -/
def Holds (terminating : Bool) (k : Kind) (owner : Nat) (w : Cluster × Custody) : Prop :=
  ∃ object ∈ (w.1.objs k).items, object.key ∈ k.places ∧
    (terminating = true ∨ object.metadata.deletionTimestamp = false) ∧
    (⟨k, object.metadata.uid, owner⟩ : Creation) ∈ w.2.made

instance (terminating : Bool) (k : Kind) (owner : Nat) (w : Cluster × Custody) :
    Decidable (Holds terminating k owner w) := inferInstanceAs (Decidable (∃ object ∈ _, _))

/-- What was created was there before now. -/
def Known (w : Cluster × Custody) : Prop := ∀ creation ∈ w.2.made, creation.uid ≤ w.1.version

section Holds

variable {s s' : Cluster} {g : Custody} {r : Req} {response : Response r} {terminating : Bool} {k : Kind}
  {uid : Nat}

theorem Known.evolves (known : Known (s, g)) (evolves : Evolves s s') : Known (s', g) :=
  fun creation made => (known creation made).trans evolves.version

theorem Holds.evolves (known : Known (s, g)) (evolves : Evolves s s')
    (holds : Holds terminating k uid (s', g)) : Holds terminating k uid (s, g) := by
  obtain ⟨after, member, placed, counts, made⟩ := holds
  rcases evolves.objects k after member with fresh | ⟨before, old, later⟩
  · exact absurd (known _ made) (Nat.not_le.mpr fresh)
  · refine ⟨before, old, later.key ▸ placed, counts.imp id fun alive => ?_, by rw [← later.uid]; exact made⟩
    cases deleting : before.metadata.deletionTimestamp with
    | false => rfl
    | true => exact absurd (later.deletion deleting) (by simp [alive])

theorem mem_made {creation : Creation} (made : creation ∈ (custody.call s r response s' g).made) :
    creation ∈ g.made ∨ ∃ k key object, (∃ submitted, r = .create k submitted ∧ submitted.key = key) ∧
      s.find? k key = none ∧ s'.find? k key = some object ∧ creation.kind = k ∧
      creation.uid = object.metadata.uid ∧ creation.owner ∈ g.owner := by
  unfold custody at made
  simp only at made
  split at made
  · split at made <;> exact .inl made
  · rename_i k submitted _
    rcases List.mem_append.mp made with new | old
    · unfold creations at new
      split at new
      · rename_i object owner absent present owned
        obtain rfl := List.mem_singleton.mp new
        exact .inr ⟨k, _, object, ⟨submitted, rfl, rfl⟩, absent, present, rfl, rfl, owned⟩
      · cases new
    · exact .inl old
  · split at made <;> exact .inl made
  · exact .inl made
  · exact .inl made

theorem Known.call (known : Known (s, g)) (answered : Answered s r response s') :
    Known (s', custody.call s r response s' g) := by
  intro creation made
  rcases mem_made made with old | ⟨k, key, object, _, _, present, _, same, _⟩
  · exact (known creation old).trans answered.version_le
  · rw [same]
    exact (s'.assigned k object (Collection.find?_mem present).1).uid_le

/-- What exists on behalf of a `KataConfig` existed before, or was created just now
in a request about it. -/
theorem Holds.call (known : Known (s, g)) (answered : Answered s r response s')
    (holds : Holds terminating k uid (s', custody.call s r response s' g)) :
    Holds terminating k uid (s, g) ∨ (∃ object, r = .create k object) ∧ uid ∈ g.owner := by
  obtain ⟨object, member, placed, counts, made⟩ := holds
  rcases mem_made made with old | ⟨k', key, created, ⟨submitted, isCreate, _⟩, _, _, rfl, _, owned⟩
  · exact .inl (Holds.evolves known answered.evolves ⟨object, member, placed, counts, old⟩)
  · exact .inr ⟨⟨submitted, isCreate⟩, owned⟩

theorem not_holds (vacant : ∀ key ∈ k.places, ∀ object, s.find? k key = some object →
      terminating = false ∧ object.metadata.deletionTimestamp = true) :
    ¬Holds terminating k uid (s, g) := by
  rintro ⟨object, member, placed, counts, _⟩
  obtain ⟨ignored, deleting⟩ := vacant _ placed object (Collection.find?_eq_some.mpr ⟨member, rfl⟩)
  rcases counts with counted | alive
  · simp [counted] at ignored
  · simp [alive] at deleting

theorem mem_released (honours : Honours (s, g) r) (answered : Answered s r response s')
    (released : uid ∈ (custody.call s r response s' g).released) :
    uid ∈ g.released ∨ (∃ object, r = .update .kataConfig object) ∧ g.leaving = some uid := by
  by_cases isUpdate : ∃ object, r = .update .kataConfig object
  · obtain ⟨object, rfl⟩ := isUpdate
    obtain ⟨assigned, leaves⟩ := honours.updates object rfl
    rcases List.mem_append.mp released with new | old
    · obtain ⟨bore, lost⟩ := List.mem_filter.mp new
      rcases bearers_update answered assigned bore with kept | ⟨rfl, bare, _⟩
      · simp [kept] at lost
      · exact .inr ⟨⟨object, rfl⟩, leaves bare⟩
    · exact .inl old
  · rw [custody_released fun object same => isUpdate ⟨object, same⟩] at released
    exact .inl released

end Holds

end Custody

end SandboxedContainers
