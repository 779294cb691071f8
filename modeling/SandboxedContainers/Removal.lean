import SandboxedContainers.Custody

/-!
# Removing things before a KataConfig is released

A property of the kind "nothing that was created for a `KataConfig` outlives it"
is decided in the delete requests: by the time the finalizer is removed there must
be nothing left.  Everything else the operator does keeps such a property, and
that part is proved here once, for any list of kinds.
-/

namespace SandboxedContainers

open Lib Routine

def deletionFailed : (r : Req) → Response r → Bool
  | .delete _ _, .error error => error.reason ≠ .notFound
  | _, _ => false

namespace Removal

open Custody

def Tidy (terminating : Bool) (k : Kind) (w : Cluster × Custody) : Prop :=
  ∀ uid ∈ w.2.released, ¬Holds terminating k uid w

/-- `Tidy` for every kind to be removed, each with whether an object that is being
deleted still counts. -/
structure Orderly (kept : List (Bool × Kind)) (w : Cluster × Custody) : Prop where
  known : Known w
  tidy : ∀ entry ∈ kept, Tidy entry.1 entry.2 w

structure Calm (kept : List (Bool × Kind)) (w : Cluster × Custody) : Prop where
  orderly : Orderly kept w
  idle : w.2.leaving = none

structure ClearOf (kept removed : List (Bool × Kind)) (w : Cluster × Custody) : Prop where
  orderly : Orderly kept w
  clear : ∀ entry ∈ removed, ∀ uid, w.2.leaving = some uid → ¬Holds entry.1 entry.2 uid w

def contract (kept : List (Bool × Kind)) : Contract Req (Cluster × Custody) where
  good _ _ := True
  mid := Orderly kept

noncomputable abbrev system (settings : Settings) (rules : Rules Custody) :=
  operator settings custody (assured rules)

noncomputable abbrev machine (settings : Settings) (rules : Rules Custody) :
    Machine Req Response (Cluster × Custody) := (system settings rules).toMachine

section Steps

variable {kept removed : List (Bool × Kind)} {s s' : Cluster} {g : Custody} {r : Req}
  {response : Response r}

theorem Orderly.evolves (orderly : Orderly kept (s, g)) (evolves : Evolves s s') : Orderly kept (s', g) :=
  ⟨orderly.known.evolves evolves, fun entry member uid released holds =>
    orderly.tidy entry member uid released (holds.evolves orderly.known evolves)⟩

theorem ClearOf.evolves (clear : ClearOf kept removed (s, g)) (evolves : Evolves s s') :
    ClearOf kept removed (s', g) :=
  ⟨clear.orderly.evolves evolves, fun entry member uid leaving holds =>
    clear.clear entry member uid leaving (holds.evolves clear.orderly.known evolves)⟩

theorem Orderly.call (unowned : ∀ entry ∈ kept, entry.2.isUnowned = true) (orderly : Orderly kept (s, g))
    (honours : Honours (s, g) r) (answered : Answered s r response s')
    (cleared : (∃ object, r = .update .kataConfig object) → ∀ entry ∈ kept, ∀ uid,
      g.leaving = some uid → ¬Holds entry.1 entry.2 uid (s, g)) :
    Orderly kept (s', custody.call s r response s' g) := by
  refine ⟨orderly.known.call answered, fun entry member uid released holds => ?_⟩
  rcases holds.call orderly.known answered with before | ⟨⟨object, rfl⟩, owned⟩
  · rcases mem_released honours answered released with old | ⟨isUpdate, leaving⟩
    · exact orderly.tidy entry member uid old before
    · exact cleared isUpdate entry member uid leaving before
  · rcases mem_released honours answered released with old | ⟨⟨_, isUpdate⟩, _⟩
    · exact honours.creates _ object rfl (unowned entry member) uid owned old
    · cases isUpdate

theorem custody_leaving (notMark : ∀ m, r ≠ .mark m) :
    (custody.call s r response s' g).leaving = g.leaving := by
  rw [Custody.leaving, custody_request notMark]
  rfl

theorem ClearOf.call (unowned : ∀ entry ∈ kept, entry.2.isUnowned = true)
    (clear : ClearOf kept removed (s, g)) (honours : Honours (s, g) r) (answered : Answered s r response s')
    (notMark : ∀ m, r ≠ .mark m) (notCreated : ∀ entry ∈ removed, ∀ object, r ≠ .create entry.2 object)
    (enough : r.writes ≠ some .kataConfig ∨ removed = kept) :
    ClearOf kept removed (s', custody.call s r response s' g) := by
  refine ⟨clear.orderly.call unowned honours answered ?_, fun entry member uid leaving holds => ?_⟩
  · rintro ⟨object, rfl⟩
    rcases enough with other | rfl
    · exact absurd rfl other
    · exact clear.clear
  · rw [custody_leaving notMark] at leaving
    rcases holds.call clear.orderly.known answered with before | ⟨⟨object, isCreate⟩, _⟩
    · exact clear.clear entry member uid leaving before
    · exact notCreated entry member object isCreate

theorem leaving_of_mark {point : Point} {kataConfig : KataConfig}
    (other : point ≠ .deleteRequest ∧ point ≠ .deleteRequestDaemonSet) (idle : g.leaving = none) :
    (custody.call s (.mark ⟨point, kataConfig⟩) ⟨⟩ s' g).leaving = none := by
  cases point with
  | deleteRequest => exact absurd rfl other.1
  | deleteRequestDaemonSet => exact absurd rfl other.2
  | installRequest | installRequestDaemonSet => rfl
  | _ => exact idle

theorem custody_mark_made {m : Mark} :
    (custody.call s (.mark m) ⟨⟩ s' g).made = g.made ∧ (custody.call s (.mark m) ⟨⟩ s' g).released = g.released := by
  simp only [custody]
  split <;> exact ⟨rfl, rfl⟩

theorem Orderly.mark (orderly : Orderly kept (s, g)) {m : Mark} :
    Orderly kept (s, custody.call s (.mark m) ⟨⟩ s g) := by
  obtain ⟨made, released⟩ : (custody.call s (.mark m) ⟨⟩ s g).made = g.made ∧
      (custody.call s (.mark m) ⟨⟩ s g).released = g.released := custody_mark_made
  refine ⟨fun creation member => orderly.known creation (made ▸ member), ?_⟩
  rintro entry member uid isReleased ⟨object, stored, placed, counts, isMade⟩
  exact orderly.tidy entry member uid (released ▸ isReleased) ⟨object, stored, placed, counts, made ▸ isMade⟩

end Steps

section Outside

variable {settings : Settings} {rules : Rules Custody} {kept : List (Bool × Kind)}

theorem calm_invariant : Invariant (machine settings rules) (contract kept) (World (Calm kept)) := by
  refine world_invariant ?_ fun _ calm => calm.orderly
  rintro ⟨s, g⟩ _ ⟨change, rfl, _⟩ calm
  exact ⟨calm.orderly.evolves (change.apply_evolves s), calm.idle⟩

theorem orderly_invariant : Invariant (machine settings rules) (contract kept) (World (Orderly kept)) := by
  refine world_invariant ?_ fun _ => id
  rintro ⟨s, g⟩ _ ⟨change, rfl, _⟩ orderly
  exact orderly.evolves (change.apply_evolves s)

instance : Invariant (machine settings rules) (contract kept) (World (Calm kept)) := calm_invariant
instance : Invariant (machine settings rules) (contract kept) (World (Orderly kept)) := orderly_invariant

theorem calm_passes {point : Point} (other : point ≠ .deleteRequest ∧ point ≠ .deleteRequestDaemonSet) :
    Passes (machine settings rules) (contract kept) (World (Calm kept)) point := by
  refine fun ε => mark_triple (fun _ _ _ => trivial) ?_
  rintro memory ⟨s, g⟩ w' calm answered
  rw [operator_mark answered]
  have idle : (custody.call s (.mark ⟨point, memory.current⟩) ⟨⟩ s g).leaving = none :=
    leaving_of_mark other (Calm.idle calm)
  exact ⟨(Calm.orderly calm).mark, idle⟩

variable (unowned : ∀ entry ∈ kept, entry.2.isUnowned = true)
include unowned

theorem calm_admits {r : Req}
    (notMark : ∀ m, r ≠ .mark m) : Admits (machine settings rules) (contract kept) (World (Calm kept)) r := by
  rintro memory ⟨s, g⟩ calm
  refine ⟨trivial, fun response w' reply => ?_⟩
  obtain ⟨s', answered, rfl, allowed⟩ := operator_answered reply
  have honours := (Rules.assuming_answer allowed).2
  refine ⟨Calm.orderly calm |>.call unowned honours answered fun _ _ _ uid leaving => ?_, ?_⟩
  · have idle : g.leaving = none := Calm.idle calm
    simp [idle] at leaving
  · rw [custody_leaving notMark]
    exact Calm.idle calm

theorem orderly_admits {r : Req} (notUpdate : ∀ object, r ≠ .update .kataConfig object) :
    Admits (machine settings rules) (contract kept) (World (Orderly kept)) r := by
  rintro memory ⟨s, g⟩ orderly
  refine ⟨trivial, fun response w' reply => ?_⟩
  obtain ⟨s', answered, rfl, allowed⟩ := operator_answered reply
  exact Orderly.call unowned orderly (Rules.assuming_answer allowed).2 answered
    fun ⟨object, isUpdate⟩ => absurd isUpdate (notUpdate object)

theorem calm_lenient : Lenient (machine settings rules) (contract kept) (World (Calm kept)) :=
  world_lenient fun _ aside => calm_admits unowned (isAside_not_mark aside)

theorem calm_writable (k : Kind) : Writable (machine settings rules) (contract kept) (World (Calm kept)) k :=
  fun _ writes => calm_admits unowned (writes_not_mark writes)

theorem orderly_reporting : Reporting (machine settings rules) (contract kept) (World (Orderly kept)) where
  reads _ reads _ := orderly_admits unowned (not_update (by simp [reads]))
  side k side r writes := by
    refine orderly_admits unowned (not_update ?_)
    rw [writes]
    rintro ⟨rfl⟩
    cases side
  kataNodes _ _ _ := id
  imageGenerator _ _ _ := id
  conditions _ _ _ _ _ _ := maintains_modify fun _ _ => id
  waiting _ _ _ := id
  stores := updateKataConfigStatus_triple (fun _ _ _ => trivial)
    (fun memory w _ w' holds => (orderly_admits unowned (by simp) memory w holds).2 _ w')
    (fun memory w _ w' holds => (orderly_admits unowned (by simp) memory w holds).2 _ w')

theorem installs_maintains (status : KataConfigStatus) :
    Maintains (machine settings rules) (contract kept) (World (Calm kept)) (installBranch settings status) := by
  have lenient : Lenient (machine settings rules) (contract kept) (World (Calm kept)) := calm_lenient unowned
  have writable (k : Kind) : Writable (machine settings rules) (contract kept) (World (Calm kept)) k :=
    calm_writable unowned k
  have webhook : KeepsWebhook settings (machine settings rules) (contract kept) (World (Calm kept)) :=
    keepsWebhook_of_writable settings fun k _ => writable k
  exact installBranch_maintains settings world_commences
    (fun _ _ installs => calm_passes (by constructor <;> rintro rfl <;> cases installs))
    (fun _ => (writable _).updatable _) ((writable _).updatable _) (createMc_maintains settings (writable _))
    (writable _) (writable _) (world_creates (writable _)) status

end Outside

section Inside

variable {settings : Settings} {rules : Rules Custody} {kept removed : List (Bool × Kind)}

theorem clearOf_invariant :
    Invariant (machine settings rules) (contract kept) (World (ClearOf kept removed)) := by
  refine world_invariant ?_ fun _ clear => clear.orderly
  rintro ⟨s, g⟩ _ ⟨change, rfl, _⟩ clear
  exact clear.evolves (change.apply_evolves s)

instance : Invariant (machine settings rules) (contract kept) (World (ClearOf kept removed)) :=
  clearOf_invariant

theorem clearOf_passes {point : Point} (other : point.isRequest = false) :
    Passes (machine settings rules) (contract kept) (World (ClearOf kept removed)) point := by
  refine fun ε => mark_triple (fun _ _ _ => trivial) ?_
  rintro memory ⟨s, g⟩ w' clear answered
  rw [operator_mark answered]
  simp only [custody, other]
  exact clear

variable (unowned : ∀ entry ∈ kept, entry.2.isUnowned = true)
include unowned

theorem clearOf_admits {r : Req}
    (notMark : ∀ m, r ≠ .mark m) (notCreated : ∀ entry ∈ removed, ∀ object, r ≠ .create entry.2 object)
    (enough : r.writes ≠ some .kataConfig ∨ removed = kept) :
    Admits (machine settings rules) (contract kept) (World (ClearOf kept removed)) r := by
  rintro memory ⟨s, g⟩ clear
  refine ⟨trivial, fun response w' reply => ?_⟩
  obtain ⟨s', answered, rfl, allowed⟩ := operator_answered reply
  exact ClearOf.call unowned clear (Rules.assuming_answer allowed).2 answered notMark notCreated enough

theorem clearOf_deletable {k : Kind} (other : k ≠ .kataConfig) :
    Deletable (machine settings rules) (contract kept) (World (ClearOf kept removed)) k :=
  fun _ => clearOf_admits unowned (by simp) (by simp) (.inl fun same => other (Option.some.inj same))

theorem clearOf_writable {k : Kind} (owned : ∀ entry ∈ removed, entry.2 ≠ k) (other : k ≠ .kataConfig) :
    Writable (machine settings rules) (contract kept) (World (ClearOf kept removed)) k := by
  intro r writes
  refine clearOf_admits unowned (writes_not_mark writes) (fun entry member object isCreate => ?_) (.inl ?_)
  · subst isCreate
    exact owned entry member (Option.some.inj writes)
  · rw [writes]
    exact fun same => other (Option.some.inj same)

theorem clearOf_pliant (unownedRemoved : ∀ entry ∈ removed, entry.2.isUnowned = true) :
    Pliant (machine settings rules) (contract kept) (World (ClearOf kept removed)) where
  reads r reads notMark := by
    refine clearOf_admits unowned notMark ?_ (.inl (by simp [reads]))
    rintro entry _ object rfl
    cases reads
  side k side := by
    refine clearOf_writable unowned ?_ (by rintro rfl; cases side)
    rintro entry member rfl
    have := unownedRemoved entry member
    cases kind : entry.2 <;> simp_all [Kind.isUnowned, Kind.isSide]
  kataNodes _ _ _ := id
  imageGenerator _ _ _ := id
  conditions _ _ _ _ _ _ := maintains_modify fun _ _ => id
  waiting _ _ _ := id

theorem release_triple : Triple (machine settings rules) (contract kept) (World (ClearOf kept kept))
      (orRetry removeFinalizer ⟨true, 0⟩) fun _ => World (Orderly kept) := by
  refine Triple.orElse (Q := fun _ => World (Orderly kept)) ?_
  refine triple_modify_bind (R := World (ClearOf kept kept)) (fun _ _ => id) ?_
  refine Maintains.bind_triple (clearOf_passes rfl _) (fun _ => ?_) fun _ _ _ clear => ClearOf.orderly clear
  have update (object : KataConfig) : Admits (machine settings rules) (contract kept)
      (World (ClearOf kept kept)) (.update .kataConfig object) :=
    clearOf_admits unowned (by simp) (by simp) (.inr rfl)
  refine updateKataConfig_triple (fun _ _ _ => trivial) ?_ ?_
  · exact fun memory w _ w' holds reply => ((update _ memory w holds).2 _ w' reply).orderly
  · exact fun memory w _ w' holds reply => ((update _ memory w holds).2 _ w' reply).orderly

theorem eligible_triple {A : Reconciler → Cluster × Custody → Prop}
    [Pliant (machine settings rules) (contract kept) A]
    (orderly : ∀ memory w, A memory w → Orderly kept w)
    (passes : Passes (machine settings rules) (contract kept) A .deletionEligible) :
    Triple (machine settings rules) (contract kept) A checkDeletionEligibility
      (Onward A fun _ : Except Exit PUnit => World (Orderly kept)) := by
  have updates (object : KataConfig) : Admits (machine settings rules) (contract kept) (World (Orderly kept))
      (.updateStatus .kataConfig object) := orderly_admits unowned (by simp)
  refine checkDeletionEligibility_triple (B := World (Orderly kept))
    ((passes Exit).onward fun _ => orderly) ?_ fun _ memory w holds => holds.elim (orderly memory w) id
  refine updateKataConfigStatus_triple (fun _ _ _ => trivial) ?_ ?_
  · exact fun memory w _ w' holds => (updates _ memory w (orderly memory w holds)).2 _ w'
  · exact fun memory w _ w' holds => (updates _ memory w (orderly memory w holds)).2 _ w'

end Inside

section Executions

variable {settings : Settings} {rules : Rules Custody} {kept : List (Bool × Kind)}

theorem sound (unowned : ∀ entry ∈ kept, entry.2.isUnowned = true)
    (machineConfig : Triple (machine settings rules) (contract kept) (World (Calm kept))
      (processKataConfigDeleteRequest settings) fun _ => World (Orderly kept))
    (daemonSet : Triple (machine settings rules) (contract kept) (World (Calm kept))
      (processKataConfigDeleteRequestDaemonSet settings) fun _ => World (Orderly kept)) :
    (system settings rules).Sound (initially {}) (contract kept) (World (Orderly kept))
      fun outcome => World (Orderly kept) outcome.2 := by
  have lenient : Lenient (machine settings rules) (contract kept) (World (Calm kept)) := calm_lenient unowned
  have reporting : Reporting (machine settings rules) (contract kept) (World (Orderly kept)) :=
    orderly_reporting unowned
  have deletes : Triple (machine settings rules) (contract kept) (World (Calm kept)) (deleteBranch settings)
      fun _ => World (Orderly kept) := by
    refine Maintains.bind_triple (calm_passes (by simp) _) (fun _ => ?_) fun _ _ _ calm => Calm.orderly calm
    refine deleteAndStoreStatus_triple settings (processDeleteRequest_triple settings ?_ ?_)
    · exact machineConfig.given
    · exact daemonSet.given
  refine operator_sound (fun _ => World (Calm kept)) (fun _ => World (Orderly kept)) ?_ ?_
    (fun key => world_reconcile settings key (fun _ calm => calm.orderly)
      (world_classes (calm_writable unowned _)) deletes fun status =>
        (installs_maintains unowned status).post fun _ _ _ calm => Calm.orderly calm)
    (fun _ _ _ orderly _ => orderly) fun _ orderly _ => orderly
  · rintro ⟨s, g⟩ ⟨_, rfl⟩
    exact ⟨fun _ made => absurd made List.not_mem_nil, fun _ _ _ released => absurd released List.not_mem_nil⟩
  · rintro key memory ⟨s, g⟩ orderly _
    exact ⟨⟨orderly.known, orderly.tidy⟩, rfl⟩

theorem orderly_of_sound
    (sound : (system settings rules).Sound (initially {}) (contract kept) (World (Orderly kept))
      fun outcome => World (Orderly kept) outcome.2)
    {phase : Phase Req Response Reconciler Exit} {w : Cluster × Custody}
    (reached : (operator settings custody rules).Reachable (initially {}) (phase, w)) : Orderly kept w := by
  have holds := sound.holds ((assured_covers settings rules).reachable reached)
  cases phase with
  | idle memory => exact holds
  | running program => exact Safe.mid holds

end Executions

end Removal

end SandboxedContainers
