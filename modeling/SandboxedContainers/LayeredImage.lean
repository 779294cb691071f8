import SandboxedContainers.Interleaving
import SandboxedContainers.MachineConfigChoice

/-!
# The layered image is decided once

`MachineConfigChoice` says which of the two MachineConfigs the operator builds, from
what exists.  After the MachineConfig is gone nothing decides between the two any
more, but then a reconciliation has taken the delete branch, and there is no
install request after that.
-/

namespace SandboxedContainers

open Lib Routine

structure LayeredImage where
  /-- The uids for which the delete branch was taken. -/
  begun : List Nat := []
  /-- The uid of the `KataConfig`. -/
  self : Option Nat := none
  /-- The names of the MachineConfigs that were created, the last one first. -/
  created : List String := []
  /-- The specification the image was last created with. -/
  image : Option MachineConfigSpec := none

def LayeredImage.record (image : LayeredImage) (mc : MachineConfig) : LayeredImage :=
  { image with
    created := mc.metadata.name :: image.created
    image := if mc.metadata.name = imageMcName then some (specOfMc mc) else image.image }

def uidNamed (name : String) (s : Cluster) : Option Nat :=
  ((kataConfigs s).find? fun kataConfig => kataConfig.metadata.name = name).map
    fun kataConfig => kataConfig.metadata.uid

def layeredImage (name : String) : Monitor LayeredImage where
  call s r _ s' image := match r with
    | .mark ⟨.deleteBranch, kataConfig⟩ => { image with begun := kataConfig.metadata.uid :: image.begun }
    | .create .machineConfig object =>
      match s.find? .machineConfig object.key, s'.find? .machineConfig object.key with
      | none, some mc => image.record mc
      | _, _ => image
    | _ => image
  env _ _ s' image := { image with self := image.self <|> uidNamed name s' }

/-- One `KataConfig` is reconciled, and there is none of its name when it is gone; only
the operator writes its status and the two MachineConfigs. -/
def soleKataConfig (name : String) : Rules LayeredImage where
  start key _ := key.name = name
  env _ change w' := change.isForeign && change.sparesMcs &&
    decide (∀ kataConfig ∈ kataConfigs w'.1, kataConfig.metadata.name = name →
      w'.2.self = some kataConfig.metadata.uid)

namespace LayeredImage

open MachineConfigChoice

instance {name : String} : SparesMcs (soleKataConfig name) := by
  refine ⟨fun allowed => ?_⟩
  simp only [soleKataConfig, Bool.and_eq_true] at allowed
  exact allowed.1.2

structure Consistent (name : String) (w : Cluster × LayeredImage) : Prop where
  recorded : ∀ {key mc}, key.name ∈ mcNames → w.1.find? .machineConfig key = some mc →
    key.name ∈ w.2.created
  uniform : ∀ first ∈ w.2.created, ∀ second ∈ w.2.created, first = second
  spec : ∀ {key mc}, key.name = imageMcName → w.1.find? .machineConfig key = some mc →
    w.2.image = some (specOfMc mc)
  spent : w.2.created ≠ [] → Present w.1 ∨ ∃ uid, w.2.self = some uid ∧ uid ∈ w.2.begun
  self : ∀ kataConfig ∈ kataConfigs w.1, kataConfig.metadata.name = name →
    w.2.self = some kataConfig.metadata.uid

structure Fetched (name : String) (memory : Reconciler) (w : Cluster × LayeredImage) : Prop where
  consistent : Consistent name w
  self : w.2.self = some memory.current.metadata.uid

structure Installing (name : String) (w : Cluster × LayeredImage) : Prop where
  consistent : Consistent name w
  unspent : w.2.created ≠ [] → Present w.1

structure Deleting (name : String) (w : Cluster × LayeredImage) : Prop where
  consistent : Consistent name w
  begun : ∃ uid, w.2.self = some uid ∧ uid ∈ w.2.begun

def contract (name : String) : Contract Req (Cluster × LayeredImage) where
  good _ _ := True
  mid := Consistent name

/-- No delete branch was taken for a `KataConfig` that is to be installed. -/
def Unbegun (w : Cluster × LayeredImage) (r : Req) : Prop :=
  ∀ m, r = .mark m → isInstallRequest m.point = true → m.kataConfig.metadata.uid ∉ w.2.begun

section

variable (settings : Settings) (name : String)

noncomputable abbrev system := operator settings (layeredImage name)
  (((soleKataConfig name).assuming Unbegun).knowing fun w => Placed name w.1)

noncomputable abbrev machine : Machine Req Response (Cluster × LayeredImage) := (system settings name).toMachine

theorem unbegun {w : Cluster × LayeredImage} {r : Req}
    (issued : (operator settings (layeredImage name) (soleKataConfig name)).Issues (initially {}) w r) :
    Unbegun w r := by
  obtain ⟨next, reachable⟩ := issued
  have extended : (layeredImage name).Extends deleteBranches LayeredImage.begun := by
    refine ⟨fun _ _ _ => rfl, fun s r response s' image => ?_, fun _ _ _ _ => rfl, fun _ _ _ => rfl, fun _ _ => rfl⟩
    cases r with
    | mark m =>
      obtain ⟨point, kataConfig⟩ := m
      cases point <;> rfl
    | create k object =>
      cases k with
      | machineConfig =>
        simp only [layeredImage, deleteBranches]
        split <;> rfl
      | _ => rfl
    | _ => rfl
  have within : (soleKataConfig name).Within ownStatus LayeredImage.begun := by
    refine ⟨fun _ => rfl, fun _ => rfl, fun allowed => ?_, fun _ => rfl, fun _ => rfl⟩
    simp only [soleKataConfig, Bool.and_eq_true] at allowed
    exact allowed.1.1
  have covers : Controller.Covers (operator settings (layeredImage name) (soleKataConfig name)) (initially {})
      (operator settings deleteBranches ownStatus) (initially []) _ := operator_covers extended within
  have covered := covers.reachable reachable
  exact (Interleaving.sound settings).good ⟨next, covered⟩

end

structure Keeps (g g' : LayeredImage) : Prop where
  created : g'.created = g.created
  image : g'.image = g.image
  self : ∀ {uid}, g.self = some uid → g'.self = some uid
  begun : ∀ {uid}, uid ∈ g.begun → uid ∈ g'.begun

theorem Keeps.refl (g : LayeredImage) : Keeps g g := ⟨rfl, rfl, id, id⟩

theorem Consistent.frame {name : String} {s s' : Cluster} {g g' : LayeredImage}
    (consistent : Consistent name (s, g)) (frame : Frame s s') (keeps : Keeps g g')
    (self : ∀ kataConfig ∈ kataConfigs s', kataConfig.metadata.name = name →
      g'.self = some kataConfig.metadata.uid) : Consistent name (s', g') where
  recorded named found := by
    rw [keeps.created]
    exact consistent.recorded named ((frame _ named).symm.trans found)
  uniform := by
    rw [keeps.created]
    exact consistent.uniform
  spec {key mc} named found := by
    rw [keeps.image]
    exact consistent.spec named ((frame key (named ▸ mem_image)).symm.trans found)
  spent made := by
    rw [keeps.created] at made
    exact (consistent.spent made).imp frame.present.mpr fun ⟨uid, same, begun⟩ =>
      ⟨uid, keeps.self same, keeps.begun begun⟩
  self := self

/-- The assertion survives whatever leaves the two MachineConfigs and the record about
them alone. -/
structure Carried (name : String) (A : Reconciler → Cluster × LayeredImage → Prop) : Prop where
  consistent : ∀ {memory w}, A memory w → Consistent name w
  kept : ∀ {memory s s'} {g g' : LayeredImage}, Frame s s' → Keeps g g' → Consistent name (s', g') →
    A memory (s, g) → A memory (s', g')

theorem consistent_carried (name : String) : Carried name (World (Consistent name)) :=
  ⟨fun consistent => consistent, fun _ _ consistent _ => consistent⟩

theorem fetched_carried (name : String) : Carried name (Fetched name) :=
  ⟨fun fetched => fetched.consistent, fun _ keeps consistent fetched => ⟨consistent, keeps.self fetched.self⟩⟩

theorem installing_carried (name : String) : Carried name (World (Installing name)) :=
  ⟨fun installing => Installing.consistent installing, fun frame keeps consistent installing =>
    ⟨consistent, fun made => frame.present.mpr (Installing.unspent installing (keeps.created ▸ made))⟩⟩

theorem deleting_carried (name : String) : Carried name (World (Deleting name)) :=
  ⟨fun deleting => Deleting.consistent deleting, fun _ keeps consistent deleting =>
    ⟨consistent, (Deleting.begun deleting).imp fun _ both => ⟨keeps.self both.1, keeps.begun both.2⟩⟩⟩

section Assertions

variable {settings : Settings} {name : String} {A : Reconciler → Cluster × LayeredImage → Prop}

theorem Carried.invariant (carried : Carried name A) : Invariant (machine settings name) (contract name) A where
  stable := by
    rintro memory ⟨s, g⟩ _ ⟨change, rfl, rule⟩ holds
    replace rule : (soleKataConfig name).env (s, g) change _ = true := rule
    simp only [soleKataConfig, Bool.and_eq_true] at rule
    obtain ⟨⟨_, spares⟩, sole⟩ := rule
    have frame : Frame s (change.apply s) := by
      intro key named
      refine Change.apply_find?_other fun target => ?_
      simp [Change.sparesMcs, target, named] at spares
    have keeps : Keeps g { g with self := g.self <|> uidNamed name (change.apply s) } :=
      ⟨rfl, rfl, fun same => by simp [same], id⟩
    exact carried.kept frame keeps
      ((carried.consistent holds).frame frame keeps (of_decide_eq_true sole)) holds
  mid _ _ := carried.consistent

theorem self_kept {s s' : Cluster} {g : LayeredImage} {r : Req} {response : Response r}
    (consistent : Consistent name (s, g)) (answered : Answered s r response s')
    (notCreate : ∀ object, r ≠ .create .kataConfig object) :
    ∀ kataConfig ∈ kataConfigs s', kataConfig.metadata.name = name →
      g.self = some kataConfig.metadata.uid := by
  intro kataConfig member named
  rcases answered.store with rfl | rfl
  · exact consistent.self kataConfig member named
  rcases Store.exec_mem_cases member with old | ⟨submitted, isCreate, _⟩ | ⟨stored, merged, rewrites, _, rfl⟩
  · exact consistent.self kataConfig old named
  · exact absurd isCreate (notCreate submitted)
  · have key := rewrites.later.key
    have before := consistent.self stored rewrites.mem ((congrArg Key.name key).symm.trans named)
    exact before.trans (congrArg some rewrites.later.uid.symm)

theorem Carried.admits (carried : Carried name A) {r : Req} (notMark : ∀ m, r ≠ .mark m)
    (other : r.writes ≠ some .machineConfig) (notCreate : ∀ object, r ≠ .create .kataConfig object) :
    Admits (machine settings name) (contract name) A r := by
  rintro memory ⟨s, g⟩ holds
  refine ⟨trivial, fun response w' reply => ?_⟩
  obtain ⟨s', answered, rfl, _⟩ := operator_answered reply
  have frame : Frame s s' := fun key _ => by rw [Store.find?, Store.find?, answered.objs_eq other]
  have same : (layeredImage name).call s r response s' g = g := by
    simp only [layeredImage]
    split
    · exact absurd rfl (notMark _)
    · exact absurd rfl other
    · rfl
  simp only [same]
  exact carried.kept frame (.refl g) ((carried.consistent holds).frame frame (.refl g)
    (self_kept (carried.consistent holds) answered notCreate)) holds

theorem Carried.passes (carried : Carried name A) {point : Point} (other : point ≠ .deleteBranch) :
    Passes (machine settings name) (contract name) A point := by
  have invariant : Invariant (machine settings name) (contract name) A := carried.invariant
  refine fun ε => mark_triple (fun _ _ _ => trivial) ?_
  rintro memory ⟨s, g⟩ w' holds reply
  rw [operator_mark reply]
  have same : (layeredImage name).call s (.mark ⟨point, memory.current⟩) ⟨⟩ s g = g := by
    cases point with
    | deleteBranch => exact absurd rfl other
    | _ => rfl
  simp only [same]
  exact holds

theorem Carried.writable (carried : Carried name A) {k : Kind} (other : k ≠ .machineConfig)
    (foreign : k ≠ .kataConfig) : Writable (machine settings name) (contract name) A k := by
  intro r writes
  refine carried.admits (fun m same => by subst same; cases writes) ?_ ?_
  · rw [writes]
    exact fun same => other (Option.some.inj same)
  · rintro object rfl
    exact foreign (Option.some.inj writes).symm

theorem Carried.tolerant (carried : Carried name A)
    (free : ∀ (memory memory' : Reconciler) w, memory'.current.metadata.uid = memory.current.metadata.uid →
      A memory w → A memory' w) :
    Tolerant (machine settings name) (contract name) A where
  toInvariant := carried.invariant
  reads r reads notMark := by
    refine carried.admits notMark (by simp [reads]) ?_
    rintro object rfl
    cases reads
  side k side := carried.writable (by rintro rfl; cases side) (by rintro rfl; cases side)
  kataNodes _ _ _ := free _ _ _ rfl
  imageGenerator _ _ _ := free _ _ _ rfl

theorem Carried.lenient {p : Cluster × LayeredImage → Prop} (carried : Carried name (World p)) :
    Lenient (machine settings name) (contract name) (World p) := by
  have tolerant : Tolerant (machine settings name) (contract name) (World p) := carried.tolerant fun _ _ _ _ => id
  have update (object : KataConfig) :
      Admits (machine settings name) (contract name) (World p) (.update .kataConfig object) :=
    carried.admits (by simp) (by simp [Request.writes]) (by simp)
  have updateStatus (object : KataConfig) :
      Admits (machine settings name) (contract name) (World p) (.updateStatus .kataConfig object) :=
    carried.admits (by simp) (by simp [Request.writes]) (by simp)
  refine { tolerant with
    conditions := fun _ _ _ _ _ _ => maintains_modify fun _ _ => id
    waiting := fun _ _ _ => id
    modes := fun _ _ _ => id
    finalizers := fun _ _ _ => maintains_modify fun _ _ => id
    stores := updateKataConfigStatus_triple (fun _ _ _ => trivial)
      (fun memory w _ w' holds => (updateStatus _ memory w holds).2 _ w')
      fun memory w _ w' holds => (updateStatus _ memory w holds).2 _ w'
    updates := updateKataConfig_triple (fun _ _ _ => trivial)
      (fun memory w _ w' holds => (update _ memory w holds).2 _ w')
      fun memory w _ w' holds => (update _ memory w holds).2 _ w' }

instance : Lenient (machine settings name) (contract name) (World (Consistent name)) :=
  (consistent_carried name).lenient

instance : Lenient (machine settings name) (contract name) (World (Installing name)) :=
  (installing_carried name).lenient

instance : Lenient (machine settings name) (contract name) (World (Deleting name)) :=
  (deleting_carried name).lenient

instance : Tolerant (machine settings name) (contract name) (Fetched name) :=
  (fetched_carried name).tolerant fun _ _ _ same fetched => ⟨fetched.consistent, same ▸ fetched.self⟩

theorem Carried.keepsWebhook (carried : Carried name A) [Tolerant (machine settings name) (contract name) A] :
    KeepsWebhook settings (machine settings name) (contract name) A :=
  keepsWebhook_of_writable settings fun k webhook =>
    carried.writable (by rintro rfl; cases webhook) (by rintro rfl; cases webhook)

end Assertions

section Writing

variable {settings : Settings} {name : String} {s s' : Cluster} {g : LayeredImage}

theorem layeredImage_create {object : MachineConfig} {response : Response (.create .machineConfig object : Req)}
    (absent : s.find? .machineConfig object.key = none) :
    (layeredImage name).call s (.create .machineConfig object) response s g = g := by
  simp [layeredImage, absent]

theorem layeredImage_insertNew {object : MachineConfig} {response : Response (.create .machineConfig object : Req)}
    (absent : s.find? .machineConfig object.key = none) :
    (layeredImage name).call s (.create .machineConfig object) response (s.insertNew object) g =
      g.record (s.newborn object) := by
  simp [layeredImage, absent, Store.find?_insertNew absent]

theorem Installing.inserted (installing : Installing name (s, g)) {memory : Reconciler} {mc : MachineConfig}
    (working : Working name memory s) (stored : Stored mc none memory s)
    (self : ∀ kataConfig ∈ kataConfigs (s.insertNew (inScope mc)), kataConfig.metadata.name = name →
      g.self = some kataConfig.metadata.uid) :
    Installing name (s.insertNew (inScope mc), g.record (s.newborn (inScope mc))) := by
  have missing := working.absent stored
  have unmade : g.created = [] := by_contra fun made => missing (installing.unspent made)
  have present := present_insertNew stored.2 stored.1.named
  have only {key : Key} {other : MachineConfig} (member : key.name ∈ mcNames)
      (found : (s.insertNew (inScope mc)).find? .machineConfig key = some other) :=
    only_inserted working.rest.placed missing stored.2 member found
  refine ⟨⟨fun member found => ?_, ?_, fun named found => ?_, fun _ => .inl present, self⟩, fun _ => present⟩
  · obtain ⟨rfl, rfl⟩ := only member found
    exact List.mem_cons_self
  · simp only [LayeredImage.record, unmade]
    intro first isFirst second isSecond
    rw [List.mem_singleton.mp isFirst, List.mem_singleton.mp isSecond]
  · obtain ⟨rfl, rfl⟩ := only (named ▸ mem_image) found
    exact if_pos named

theorem create_installing (mc : MachineConfig) : Triple (machine settings name) (contract name)
      (Both (Both (World (Installing name)) (On (Working name))) (On (Stored mc none))) (clientCreate mc)
      fun _ => World (Installing name) := by
  have kept {memory : Reconciler} {w w' : Cluster × LayeredImage} {response}
      (holds : Both (Both (World (Installing name)) (On (Working name))) (On (Stored mc none)) memory w)
      (reply : (machine settings name).answer w (.create .machineConfig (inScope mc)) response w') :
      Installing name w' := by
    obtain ⟨⟨installing, working⟩, stored⟩ := holds
    obtain ⟨s', answered, rfl, _⟩ := operator_answered reply
    have self := self_kept (Installing.consistent installing) answered (by simp)
    rcases created_or_kept answered with rfl | rfl
    · rw [layeredImage_create stored.2]
      exact installing
    · rw [layeredImage_insertNew stored.2]
      exact Installing.inserted installing working stored self
  exact clientCreate_triple (fun _ _ _ => trivial) (fun _ _ _ _ holds reply => kept holds reply)
    fun _ _ _ _ holds reply => kept holds reply

theorem update_installing {mc existing : MachineConfig} (isExtension : mc.metadata.name = extensionMcName) :
    Triple (machine settings name) (contract name)
      (Both (Both (World (Installing name)) (On (Working name))) (On (Stored mc (some existing))))
      (clientUpdate { existing with body := mc.body }) fun _ => World (Installing name) := by
  refine ask_bind_triple (fun _ _ _ => trivial) ?_
  rintro memory ⟨s, g⟩ response w' ⟨⟨installing, working⟩, _, found⟩ reply
  obtain ⟨s', answered, rfl, _⟩ := operator_answered reply
  rw [isExtension] at found
  have consistent : Consistent name (s, g) := Installing.consistent installing
  obtain ⟨others, after, revised, made⟩ := updated_extension working.rest.placed found answered
  have present : Present s' := ⟨_, mem_extension, by rw [revised]; rfl⟩
  have kept : Installing name (s', g) := by
    refine ⟨⟨fun {key mc} member stored => ?_, consistent.uniform, fun {key mc} named stored => ?_,
      fun _ => .inl present, self_kept consistent answered (by simp)⟩, fun _ => present⟩
    · by_cases same : key = mcKey extensionMcName
      · subst same
        exact consistent.recorded mem_extension found
      · exact consistent.recorded member ((others key same).symm.trans stored)
    · have other : key ≠ mcKey extensionMcName := by
        rintro rfl
        exact absurd named (by decide)
      exact consistent.spec named ((others key other).symm.trans stored)
  cases response with
  | ok answer => exact safe_result (Q := fun _ => World (Installing name)) kept
  | error error => exact safe_result (Q := fun _ => World (Installing name)) kept

theorem delete_spec {key other : Key} {response} (answered : Answered s (.delete .machineConfig key) response s')
    {mc : MachineConfig} (found : s'.find? .machineConfig other = some mc) :
    ∃ before, s.find? .machineConfig other = some before ∧ specOfMc before = specOfMc mc := by
  rcases answered.store with rfl | rfl
  · exact ⟨mc, found, rfl⟩
  obtain ⟨member, rfl⟩ := Collection.find?_mem found
  rcases Store.exec_mem_cases member with old | ⟨_, isCreate, _⟩ | ⟨stored, merged, rewrites, _, rfl⟩
  · exact ⟨mc, Collection.find?_eq_some.mpr ⟨old, rfl⟩, rfl⟩
  · cases isCreate
  · refine ⟨stored, Collection.find?_eq_some.mpr ⟨rewrites.mem, rewrites.sameKey.symm⟩, ?_⟩
    cases rewrites
    rfl

theorem deleting_deletable : Deletable (machine settings name) (contract name) (World (Deleting name)) .machineConfig := by
  rintro key memory ⟨s, g⟩ deleting
  refine ⟨trivial, fun response w' reply => ?_⟩
  obtain ⟨s', answered, rfl, _⟩ := operator_answered reply
  obtain ⟨consistent, begun⟩ : Deleting name (s, g) := deleting
  refine ⟨⟨fun member found => ?_, consistent.uniform, fun named found => ?_, fun _ => .inr begun,
    self_kept consistent answered (by simp)⟩, begun⟩
  · obtain ⟨before, stored, _⟩ := delete_spec answered found
    exact consistent.recorded member stored
  · obtain ⟨before, stored, same⟩ := delete_spec answered found
    exact (consistent.spec named stored).trans (congrArg some same)

end Writing

section Branches

variable {settings : Settings} {name : String}

instance : KeepsWebhook settings (machine settings name) (contract name) (World (Installing name)) :=
  (installing_carried name).keepsWebhook

instance : KeepsWebhook settings (machine settings name) (contract name) (World (Deleting name)) :=
  (deleting_carried name).keepsWebhook

instance : KeepsWebhook settings (machine settings name) (contract name) (World (Consistent name)) :=
  (consistent_carried name).keepsWebhook

theorem installRequest_triple {ε : Type} : Triple (machine settings name) (contract name) (Fetched name)
    (mark .installRequest : Op ε PUnit) fun _ => World (Installing name) := by
  refine mark_triple (fun _ _ _ => trivial) ?_
  rintro memory ⟨s, g⟩ w' fetched reply
  have unbegun := (Rules.assuming_answer (Rules.knowing_answer reply.2.2)).2 _ rfl rfl
  rw [operator_mark reply]
  refine ⟨fetched.consistent, fun made => (fetched.consistent.spent made).resolve_right ?_⟩
  rintro ⟨uid, same, begun⟩
  rw [fetched.self] at same
  obtain rfl := Option.some.inj same
  exact unbegun begun

theorem deleteBranch_triple {ε : Type} : Triple (machine settings name) (contract name) (Fetched name)
    (mark .deleteBranch : Op ε PUnit) fun _ => World (Deleting name) := by
  refine mark_triple (fun _ _ _ => trivial) ?_
  rintro memory ⟨s, g⟩ w' fetched reply
  rw [operator_mark reply]
  have keeps : Keeps g { g with begun := memory.current.metadata.uid :: g.begun } :=
    ⟨rfl, rfl, id, List.mem_cons_of_mem _⟩
  exact ⟨fetched.consistent.frame (fun _ _ => rfl) keeps fetched.consistent.self, _, fetched.self, List.mem_cons_self⟩

theorem delete_maintains : Maintains (machine settings name) (contract name) (World (Deleting name))
    (processDeleteRequest settings) := by
  have carried := deleting_carried name
  exact processDeleteRequest_maintains settings (fun _ _ uninstalls => carried.passes (by rintro rfl; cases uninstalls))
    (carried.writable (by decide) (by decide)) (removeMc_maintains settings deleting_deletable)
    (carried.writable (by decide) (by decide)) (carried.writable (by decide) (by decide)).deletable

abbrev Resting (name : String) : Reconciler → Cluster × LayeredImage → Prop :=
  Both (World (Consistent name)) (On (Rest name))

abbrev Prepared (name : String) : Reconciler → Cluster × LayeredImage → Prop :=
  Both (Fetched name) (On (Ready name))

theorem deletes_triple : Triple (machine settings name) (contract name) (Prepared name) (deleteBranch settings)
    fun _ => Resting name := by
  refine Triple.bind (deleteBranch_triple.both (ready_framed.passes .deleteBranch Exit)) (fun _ => ?_)
    fun _ _ _ holds => ⟨Deleting.consistent holds.1, holds.2.held.rest⟩
  refine deleteAndStoreStatus_triple settings ((Triple.both delete_maintains processDelete_rest).post ?_)
  exact fun _ _ _ holds => ⟨Deleting.consistent holds.1, holds.2⟩

theorem install_triple : Triple (machine settings name) (contract name)
    (Both (Fetched name) (On (Working name))) (processKataConfigInstallRequest settings)
    fun _ => Both (World (Installing name)) (On (Working name)) := by
  have carried := installing_carried name
  have classes : KeepsClasses settings (machine settings name) (contract name)
      (Both (World (Installing name)) (On (Working name))) :=
    (world_classes (carried.writable (by decide) (by decide))).both (working_framed.keepsClasses working_narrow)
  have writable {k : Kind} (other : k ≠ .machineConfig) (foreign : k ≠ .kataConfig) :
      Writable (machine settings name) (contract name) (Both (World (Installing name)) (On (Working name))) k :=
    (carried.writable other foreign).both (working_framed.writable other)
  have passes {point : Point} (other : point ≠ .deleteBranch) :
      Passes (machine settings name) (contract name) (Both (World (Installing name)) (On (Working name))) point :=
    (carried.passes other).both (working_framed.passes _)
  exact processKataConfigInstallRequest_triple settings
    (installRequest_triple.both (working_framed.passes .installRequest Exit))
    (ensureFinalizer_maintains.steadily)
    (world_commences.both (working_framed.commences working_narrow))
    (fun _ => passes (by simp)) (fun _ => (writable (by decide) (by decide)).updatable _)
    (createMc_both create_installing fun _ _ => update_installing)
    (ensureKataOcPool_maintains (writable (by decide) (by decide)))
    (postKataInstallation_maintains settings (passes (by decide)) (writable (by decide) (by decide)) classes.creates)
    (fun _ _ _ => id) fun _ _ _ => id

theorem installDaemonSet_maintains : Maintains (machine settings name) (contract name) (World (Consistent name))
    (processKataConfigInstallRequestDaemonSet settings) := by
  have carried := consistent_carried name
  exact processKataConfigInstallRequestDaemonSet_maintains settings world_commences
    (fun _ installs => carried.passes (by rintro rfl; cases installs)) (fun _ => (carried.writable (by decide) (by decide)).updatable _)
    ((carried.writable (by decide) (by decide)).updatable _)
    (carried.writable (by decide) (by decide)) (world_creates (carried.writable (by decide) (by decide)))

theorem installs_triple (status : KataConfigStatus) : Triple (machine settings name) (contract name) (Prepared name)
    (installBranch settings status) fun _ => Resting name := by
  refine installBranch_triple settings (processInstallRequest_triple settings ?_ ?_) status
  · refine (install_triple.pre fun memory w holds => ?_).post fun _ _ _ holds => ?_
    · exact ⟨holds.1.1, Ready.working holds.1.2 holds.2⟩
    · exact ⟨Installing.consistent holds.1, Working.rest holds.2⟩
  · exact (installDaemonSet_maintains.both installDaemonSet_rest).pre fun _ _ holds =>
      ⟨holds.1.1.consistent, holds.1.2.held.rest⟩

theorem fetch_fetched {key : Key} (named : key.name = name) :
    Triple (machine settings name) (contract name) (World (Consistent name)) (fetchKataConfig key)
      (AfterFetch (fun _ => Fetched name) (World (Consistent name))) := by
  have read : Admits (machine settings name) (contract name) (World (Consistent name)) (.get .kataConfig ⟨"", key.name⟩) :=
    (consistent_carried name).admits (by simp) (by simp [Request.writes]) (by simp)
  refine fetchKataConfig_triple (fun _ _ => id) (fun _ _ _ => trivial) ?_ ?_
  · rintro memory ⟨s, g⟩ kataConfig ⟨s', _⟩ consistent ⟨answered, rfl, _⟩
    obtain ⟨rfl, found⟩ := answered.get_ok
    obtain ⟨member, sameKey⟩ := Collection.find?_mem found
    exact ⟨consistent, Consistent.self consistent kataConfig member ((congrArg Key.name sameKey).trans named)⟩
  · intro memory w error w' consistent reply
    have kept := (read memory w consistent).2 _ w' reply
    exact ⟨kept, kept⟩

theorem fetch_triple {key : Key} (named : key.name = name) :
    Triple (machine settings name) (contract name) (Resting name) (fetchKataConfig key)
      (AfterFetch (fun _ => Both (Fetched name) (On (Held name))) (Resting name)) := by
  refine ((fetch_fetched named).both (fetch_held named)).post ?_
  rintro (_ | _ | _) memory w holds
  · exact holds
  · exact holds
  · exact holds

theorem prepare_triple : Triple (machine settings name) (contract name) (Both (Fetched name) (On (Held name)))
    (prepareReconcile settings) (Onward (Prepared name) fun _ : Except Exit PUnit => Resting name) := by
  have image : ImageFree (Fetched name) := ⟨fun _ _ _ fetched => { fetched with }⟩
  have classes : KeepsClasses settings (machine settings name) (contract name) (Fetched name) :=
    ((fetched_carried name).writable (by decide) (by decide)).keepsClasses settings
      fun _ _ _ fetched => { fetched with }
  have prepare : Maintains (machine settings name) (contract name) (Fetched name) (prepareReconcile settings) :=
    prepareReconcile_maintains settings classes fun _ _ _ fetched => { fetched with }
  refine (Triple.both prepare prepare_ready).post ?_
  rintro (_ | _) memory w holds
  · exact ⟨holds.1.consistent, holds.2⟩
  · exact holds

theorem reconcile_triple {key : Key} (named : key.name = name) :
    Triple (machine settings name) (contract name) (Resting name) (reconcileRoutine settings key)
      fun _ => Resting name :=
  reconcileRoutine_triple (fun _ => Both (Fetched name) (On (Held name))) (fun _ => Prepared name)
    settings (fetch_triple named) (fun _ => prepare_triple)
    (fun _ => deletes_triple.given)
    (fun status => (installs_triple status).given)
    fun _ _ _ holds => ⟨holds.1.consistent, holds.2.held.rest⟩

end Branches

theorem sound (settings : Settings) (name : String) :
    (system settings name).Sound (initially {}) (contract name) (Resting name) fun outcome => Resting name outcome.2 := by
  refine operator_sound (fun key memory w => key.name = name ∧ Resting name memory w)
    (fun _ => Resting name) ?_ ?_ ?_ (fun _ _ _ rest _ => rest) ?_
  · intro w start
    have missing := initially_absent start .machineConfig
    have unmade : w.2.created = [] := by rw [start.2]
    refine ⟨⟨fun _ found => ?_, by simp [unmade], fun _ found => ?_, by simp [unmade], ?_⟩, rest_initially start⟩
    · simp [missing] at found
    · simp [missing] at found
    · intro kataConfig member
      rw [kataConfigs, start.1] at member
      cases member
  · exact fun key memory w rest allowed => ⟨of_decide_eq_true allowed, rest⟩
  · exact fun key memory w ⟨named, rest⟩ => reconcile_triple named memory w rest
  · exact fun w consistent allowed => ⟨consistent, (Rules.knowing_crash allowed).2, .none⟩

theorem consistent_of_reachable {settings : Settings} {name : String} {phase : Phase Req Response Reconciler Exit}
    {w : Cluster × LayeredImage}
    (reached : (operator settings (layeredImage name) (soleKataConfig name)).Reachable (initially {}) (phase, w)) :
    Consistent name w := by
  have assuming : Controller.Covers (operator settings (layeredImage name) (soleKataConfig name)) (initially {})
      (operator settings (layeredImage name) ((soleKataConfig name).assuming Unbegun)) (initially {}) id :=
    operator_assuming fun _ _ issued => unbegun settings name issued
  have knowing : Controller.Covers
      (operator settings (layeredImage name) ((soleKataConfig name).assuming Unbegun)) (initially {})
      (system settings name) (initially {}) id :=
    operator_knowing fun _ _ => placed_of_reachable fun _ _ allowed => of_decide_eq_true allowed
  have holds := (sound settings name).holds (knowing.reachable (assuming.reachable reached))
  cases phase with
  | idle memory => exact holds.1
  | running program => exact Safe.mid holds

end LayeredImage

def layeredImageGate (value : String) : ConfigMap :=
  ⟨{ name := "osc-feature-gates", ns := operatorNamespace },
    show ConfigMapBody from ⟨some (StrMap.ofList [("layeredImageDeployment", value)])⟩⟩

def exampleLayeredImage : ConfigMap :=
  ⟨{ name := "layered-image-deploy-cm", ns := operatorNamespace },
    show ConfigMapBody from ⟨some (StrMap.ofList [("osImageURL", "image")])⟩⟩

/-- Whatever the gates say, whatever fails and whenever the operator is restarted: the two
MachineConfigs of a `KataConfig` do not exist at the same time, all that are ever created
for it are of one kind, and an image has the specification it was created with. -/
theorem layered_image_settled (settings : Settings) {name : String}
    {phase : Phase Req Response Reconciler Exit} {w : Cluster × LayeredImage}
    (reached : (operator settings (layeredImage name) (soleKataConfig name)).Reachable (initially {}) (phase, w)) :
    (∀ first ∈ machineConfigs w.1, ∀ second ∈ machineConfigs w.1,
      ¬(first.metadata.name = extensionMcName ∧ second.metadata.name = imageMcName)) ∧
    (∀ first ∈ w.2.created, ∀ second ∈ w.2.created, first = second) ∧
    ∀ mc ∈ machineConfigs w.1, mc.metadata.name = imageMcName → w.2.image = some (specOfMc mc) := by
  have consistent := LayeredImage.consistent_of_reachable reached
  have found {mc : MachineConfig} (member : mc ∈ machineConfigs w.1) :
      w.1.find? .machineConfig mc.key = some mc := Collection.find?_eq_some.mpr ⟨member, rfl⟩
  refine ⟨?_, consistent.uniform, fun mc member image => consistent.spec image (found member)⟩
  rintro first isFirst second isSecond ⟨extension, image⟩
  have recorded {mc : MachineConfig} (member : mc ∈ machineConfigs w.1)
      (named : mc.metadata.name ∈ mcNames) : mc.metadata.name ∈ w.2.created := consistent.recorded named (found member)
  have same := consistent.uniform _ (recorded isFirst (extension ▸ MachineConfigChoice.mem_extension)) _
    (recorded isSecond (image ▸ MachineConfigChoice.mem_image))
  exact absurd (extension.symm.trans (same.trans image)) (by decide)

/-- With the gate on an image is created; the operator is restarted, the gate is switched
off, and the next reconciliation goes on with the image. -/
theorem layered_image_settled_restarted : ∃ w : Cluster × LayeredImage, ∃ mc ∈ machineConfigs w.1,
    mc.metadata.name = imageMcName ∧ w.2.image = some (specOfMc mc) := by
  have ends : endsIn plainSettings (layeredImage "example") (soleKataConfig "example") {}
      (machineConfigCluster exampleNode ++ others [.create .configMap (layeredImageGate "true"),
          .create .configMap exampleLayeredImage, .create .kataConfig exampleKataConfig] ++
        [.start exampleKey] ++ answered 23 ++ [.crash] ++ others [.update .configMap (layeredImageGate "false")] ++
        [.start exampleKey] ++ answered 18)
      (fun w => decide (∃ mc ∈ machineConfigs w.1, mc.metadata.name = imageMcName)) = true := by
    decide +kernel
  obtain ⟨phase, w, reached, checked⟩ := reachable_of_endsIn ends
  obtain ⟨mc, member, named⟩ := of_decide_eq_true checked
  exact ⟨w, mc, member, named, (layered_image_settled plainSettings reached).2.2 mc member named⟩

end SandboxedContainers
