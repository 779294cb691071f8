import SandboxedContainers.Runs

/-!
# Which MachineConfig the operator builds

The operator installs kata either as an extension of the node's system or as a
layered image, with one of two MachineConfigs.  Which one it builds depends on
`imgMc`, a field of its memory that the handler of the feature gate sets anew in
every reconciliation through MachineConfigs.

The invariant relates that field to the MachineConfig that exists: an extension
excludes a layered image in memory, and once the handler has run a stored image is
the one in memory.  It needs nothing but that nobody else writes the two
MachineConfigs and that every `KataConfig` is of one name.  The assertions here
look at the memory and the cluster only, so they can be carried beside any others.
-/

namespace SandboxedContainers

open Lib Routine

def mcNames : List String := [extensionMcName, imageMcName]

def machineConfigs (s : Cluster) : List MachineConfig := (s.objs .machineConfig).items

def Change.sparesMcs (change : Change) : Bool :=
  match change.target with
  | some (.machineConfig, key) => !mcNames.contains key.name
  | _ => true

/-- Nobody else writes the two MachineConfigs. -/
class SparesMcs {G : Type} (rules : Rules G) : Prop where
  spares : ∀ {w change w'}, rules.env w change w' = true → change.sparesMcs = true

instance {G : Type} {rules : Rules G} [spared : SparesMcs rules] {fact : Cluster × G → Req → Prop} :
    SparesMcs (rules.assuming fact) := ⟨spared.spares⟩

instance {G : Type} {rules : Rules G} [spared : SparesMcs rules] {fact : Cluster × G → Prop} :
    SparesMcs (rules.knowing fact) := ⟨spared.spares⟩

def On {G : Type} (A : Reconciler → Cluster → Prop) (memory : Reconciler) (w : Cluster × G) : Prop :=
  A memory w.1

namespace MachineConfigChoice

variable {G : Type} {settings : Settings} {monitor : Monitor G} {rules : Rules G} {C D : Contract Req (Cluster × G)}
  {A : Reconciler → Cluster × G → Prop} {name : String} {s s' : Cluster} {memory : Reconciler} {mc : MachineConfig}

abbrev machine (settings : Settings) (monitor : Monitor G) (rules : Rules G) := (operator settings monitor rules).toMachine

def mcKey (mcName : String) : Key := ⟨"", mcName⟩

theorem mem_extension : extensionMcName ∈ mcNames := by simp [mcNames]
theorem mem_image : imageMcName ∈ mcNames := by simp [mcNames]

structure MadeFor (name : String) (mc : MachineConfig) : Prop where
  app : StrMap.getD mc.metadata.labels "app" = name
  plain : mc.metadata.finalizers = []

def Present (s : Cluster) : Prop := ∃ mcName ∈ mcNames, (s.find? .machineConfig (mcKey mcName)).isSome = true

/-- One of them exists at most, as the operator has made it. -/
structure Placed (name : String) (s : Cluster) : Prop where
  made : ∀ (key : Key) {mc}, key.name ∈ mcNames → s.find? .machineConfig key = some mc → key.ns = "" ∧ MadeFor name mc
  exclusive : ∀ {extension image}, s.find? .machineConfig (mcKey extensionMcName) = some extension →
    s.find? .machineConfig (mcKey imageMcName) = some image → False

structure Remembered (name : String) (imgMc : Option MachineConfig) (s : Cluster) : Prop where
  image : ∀ mc ∈ imgMc, mc.metadata.name = imageMcName ∧ MadeFor name mc
  extension : (s.find? .machineConfig (mcKey extensionMcName)).isSome = true → imgMc = none

/-- An image that exists is the one in memory. -/
def Chosen (imgMc : Option MachineConfig) (s : Cluster) : Prop :=
  ∀ mc, s.find? .machineConfig (mcKey imageMcName) = some mc →
    ∃ held, imgMc = some held ∧ specOfMc held = specOfMc mc

structure Rest (name : String) (memory : Reconciler) (s : Cluster) : Prop where
  placed : Placed name s
  remembered : Remembered name memory.imgMc s

structure Held (name : String) (memory : Reconciler) (s : Cluster) : Prop where
  rest : Rest name memory s
  named : memory.current.metadata.name = name

structure Ready (name : String) (memory : Reconciler) (s : Cluster) : Prop where
  held : Held name memory s
  chosen : memory.deploymentMode = .machineConfigMode → Chosen memory.imgMc s

structure Working (name : String) (memory : Reconciler) (s : Cluster) : Prop where
  held : Held name memory s
  chosen : Chosen memory.imgMc s

theorem Ready.working (ready : Ready name memory s)
    (mode : memory.deploymentMode = .machineConfigMode) : Working name memory s :=
  ⟨ready.held, ready.chosen mode⟩

theorem Remembered.none : Remembered name none s := ⟨by simp, fun _ => rfl⟩

section Frames

/-- The two MachineConfigs are what they were. -/
def Frame (s s' : Cluster) : Prop :=
  ∀ key : Key, key.name ∈ mcNames → s'.find? .machineConfig key = s.find? .machineConfig key


theorem Frame.present (frame : Frame s s') : Present s' ↔ Present s := by
  constructor
  · rintro ⟨mcName, member, found⟩
    exact ⟨mcName, member, by rwa [frame (mcKey mcName) member] at found⟩
  · rintro ⟨mcName, member, found⟩
    exact ⟨mcName, member, by rwa [frame (mcKey mcName) member]⟩

theorem Placed.frame (placed : Placed name s) (frame : Frame s s') : Placed name s' where
  made key _ member found := placed.made key member ((frame _ member).symm.trans found)
  exclusive first second := placed.exclusive ((frame (mcKey extensionMcName) mem_extension).symm.trans first)
    ((frame (mcKey imageMcName) mem_image).symm.trans second)

theorem Placed.key_eq (placed : Placed name s) (key : Key)
    (member : key.name ∈ mcNames) (found : s.find? .machineConfig key = some mc) : key = mcKey key.name := by
  obtain ⟨noNs, _⟩ := placed.made key member found
  rw [mcKey, ← noNs]

end Frames

/-- A contract that asks for nothing but that one of the two exists at most. -/
class Lax {G : Type} (name : String) (C : Contract Req (Cluster × G)) : Prop where
  good : ∀ w r, C.good w r
  mid : ∀ w, Placed name w.1 → C.mid w

instance : Lax (G := G) name .free := ⟨fun _ _ => trivial, fun _ _ => trivial⟩

/-- The assertion meets the contract, and survives whatever leaves the two
MachineConfigs alone. -/
structure Framed {G : Type} (C : Contract Req (Cluster × G)) (A : Reconciler → Cluster → Prop) : Prop where
  good : ∀ w r, C.good w r
  mid : ∀ {memory w}, A memory w.1 → C.mid w
  kept : ∀ {memory s s'}, Frame s s' → A memory s → A memory s'

theorem framed_free {A : Reconciler → Cluster → Prop}
    (kept : ∀ memory s s', Frame s s' → A memory s → A memory s') : Framed (G := G) .free A :=
  ⟨fun _ _ => trivial, fun _ => trivial, fun frame => kept _ _ _ frame⟩

section Phases

variable [lax : Lax name C]

theorem rest_framed : Framed C (Rest name) where
  good := lax.good
  mid rest := lax.mid _ rest.placed
  kept frame rest := ⟨rest.placed.frame frame, rest.remembered.image, fun found =>
    rest.remembered.extension (by rwa [frame (mcKey extensionMcName) mem_extension] at found)⟩

theorem Chosen.frame {imgMc : Option MachineConfig} (chosen : Chosen imgMc s)
    (frame : Frame s s') : Chosen imgMc s' := fun mc found =>
  chosen mc ((frame (mcKey imageMcName) mem_image).symm.trans found)

theorem held_framed : Framed C (Held name) where
  good := lax.good
  mid held := lax.mid _ held.rest.placed
  kept frame held := ⟨(rest_framed (C := C)).kept frame held.rest, held.named⟩

theorem ready_framed : Framed C (Ready name) where
  good := lax.good
  mid ready := lax.mid _ ready.held.rest.placed
  kept frame ready := ⟨(held_framed (C := C)).kept frame ready.held, fun mode => (ready.chosen mode).frame frame⟩

theorem working_framed : Framed C (Working name) where
  good := lax.good
  mid working := lax.mid _ working.held.rest.placed
  kept frame working := ⟨(held_framed (C := C)).kept frame working.held, working.chosen.frame frame⟩

end Phases

section Assertions

variable {A : Reconciler → Cluster → Prop}

theorem Framed.admits (framed : Framed C A) {r : Req} (other : r.writes ≠ some .machineConfig) :
    Admits (machine settings monitor rules) C (On A) r := by
  intro memory w holds
  refine ⟨framed.good w r, fun response w' reply => framed.kept (fun key _ => ?_) holds⟩
  rw [Store.find?, Store.find?, Answered.objs_eq reply.1 other]

variable [spared : SparesMcs rules]

theorem Framed.invariant (framed : Framed C A) :
    Invariant (machine settings monitor rules) C (On A) where
  stable := by
    rintro memory w _ ⟨change, rfl, rule⟩ holds
    have spares := spared.spares rule
    refine framed.kept (fun key named => Change.apply_find?_other fun target => ?_) holds
    simp [Change.sparesMcs, target, named] at spares
  mid _ _ := framed.mid

theorem Framed.passes (framed : Framed C A) (point : Point) :
    Passes (machine settings monitor rules) C (On A) point := by
  have invariant : Invariant (machine settings monitor rules) C (On A) := framed.invariant
  refine fun ε => mark_triple (fun _ w _ => framed.good w _) ?_
  rintro memory w w' holds reply
  rw [operator_mark reply]
  exact holds

omit spared in
theorem Framed.writable (framed : Framed C A) {k : Kind} (other : k ≠ .machineConfig) :
    Writable (machine settings monitor rules) C (On A) k := by
  intro r writes
  refine framed.admits ?_
  rw [writes]
  exact fun same => other (Option.some.inj same)

/-- An assertion that looks at nothing in memory but the layered image, and the name of
the `KataConfig`. -/
def Narrow (A : Reconciler → Cluster → Prop) : Prop :=
  ∀ (memory memory' : Reconciler) s, memory'.imgMc = memory.imgMc →
    memory'.current.metadata.name = memory.current.metadata.name → A memory s → A memory' s

theorem Framed.tolerant (framed : Framed C A)
    (kataNodes : ∀ (memory : Reconciler) status s, A memory s → A (memory.setStatus status) s)
    (imageGenerator : ∀ (memory : Reconciler) ig s, A memory s → A { memory with ig := ig } s) :
    Tolerant (machine settings monitor rules) C (On A) where
  toInvariant := framed.invariant
  reads r reads _ := framed.admits (by simp [reads])
  side k side := framed.writable (by rintro rfl; cases side)
  kataNodes change memory w := kataNodes memory _ w.1
  imageGenerator ig memory w := imageGenerator memory ig w.1

theorem Framed.lenient (framed : Framed C A) (narrow : Narrow A) :
    Lenient (machine settings monitor rules) C (On A) := by
  have tolerant : Tolerant (machine settings monitor rules) C (On A) :=
    framed.tolerant (fun _ _ _ => narrow _ _ _ rfl rfl) fun _ _ _ => narrow _ _ _ rfl rfl
  have update (object : KataConfig) :
      Admits (machine settings monitor rules) C (On A) (.update .kataConfig object) :=
    framed.admits (by simp [Request.writes])
  have updateStatus (object : KataConfig) :
      Admits (machine settings monitor rules) C (On A) (.updateStatus .kataConfig object) :=
    framed.admits (by simp [Request.writes])
  refine { tolerant with
    conditions := fun _ _ _ _ _ _ => maintains_modify fun _ _ => narrow _ _ _ rfl rfl
    waiting := fun _ _ _ => narrow _ _ _ rfl rfl
    modes := fun _ _ _ => narrow _ _ _ rfl rfl
    finalizers := fun _ _ _ => maintains_modify fun _ _ => narrow _ _ _ rfl rfl
    stores := ?_
    updates := ?_ }
  · refine updateKataConfigStatus_triple (fun _ w _ => framed.good w _) ?_ ?_
    · rintro memory w answer w' holds reply
      refine narrow memory _ _ rfl ?_ ((updateStatus _ memory w holds).2 _ w' reply)
      obtain ⟨stored, found, _, rfl, _⟩ := Answered.updateStatus_ok reply.1
      exact congrArg Key.name (Collection.find?_mem found).2
    · exact fun memory w error w' holds => (updateStatus _ memory w holds).2 _ w'
  · refine updateKataConfig_triple (fun _ w _ => framed.good w _) ?_ ?_
    · rintro memory w answer w' holds reply
      refine narrow memory _ _ rfl ?_ ((update _ memory w holds).2 _ w' reply)
      obtain ⟨stored, found, _, rfl, _⟩ := Answered.update_ok reply.1
      rfl
    · exact fun memory w error w' holds => (update _ memory w holds).2 _ w'

theorem rest_narrow : Narrow (Rest name) := fun _ _ _ same _ rest =>
  ⟨rest.placed, same ▸ rest.remembered⟩

theorem held_narrow : Narrow (Held name) := fun _ _ _ same sameName held =>
  ⟨rest_narrow _ _ _ same sameName held.rest, sameName.trans held.named⟩

theorem working_narrow : Narrow (Working name) := fun _ _ _ same sameName working =>
  ⟨held_narrow _ _ _ same sameName working.held, same ▸ working.chosen⟩

variable [Lax name C]

instance : Lenient (machine settings monitor rules) C (On (Rest name)) :=
  rest_framed.lenient rest_narrow

instance : Lenient (machine settings monitor rules) C (On (Held name)) :=
  held_framed.lenient held_narrow

instance : Lenient (machine settings monitor rules) C (On (Working name)) :=
  working_framed.lenient working_narrow

instance : Tolerant (machine settings monitor rules) C (On (Ready name)) :=
  ready_framed.tolerant (fun memory _ _ ready => ⟨held_narrow memory _ _ rfl rfl ready.held, ready.chosen⟩)
    fun memory _ _ ready => ⟨held_narrow memory _ _ rfl rfl ready.held, ready.chosen⟩

omit spared in
theorem Framed.keepsWebhook (framed : Framed C A)
    [Tolerant (machine settings monitor rules) C (On A)] :
    KeepsWebhook settings (machine settings monitor rules) C (On A) :=
  keepsWebhook_of_writable settings fun k webhook => framed.writable (by rintro rfl; cases webhook)

omit spared in
theorem Framed.keepsClasses (framed : Framed C A) (narrow : Narrow A)
    [Tolerant (machine settings monitor rules) C (On A)] :
    KeepsClasses settings (machine settings monitor rules) C (On A) :=
  (framed.writable (by decide)).keepsClasses settings fun _ _ _ => narrow _ _ _ rfl rfl

theorem Framed.commences (framed : Framed C A) (narrow : Narrow A) :
    Commences (machine settings monitor rules) C (On A) := by
  have invariant : Invariant (machine settings monitor rules) C (On A) := framed.invariant
  exact ⟨maintains_modify fun _ _ => narrow _ _ _ rfl rfl, maintains_modify fun _ _ => narrow _ _ _ rfl rfl⟩

end Assertions

section Handler

variable [SparesMcs rules]

def Found : Option MachineConfig → Reconciler → Cluster → Prop
  | none => fun _ s => ¬Present s
  | some mc => fun _ s => mc.metadata.name ∈ mcNames ∧ s.find? .machineConfig mc.key = some mc

theorem found_framed : (found : Option MachineConfig) → Framed (G := G) .free (Found found)
  | none => framed_free fun _ _ _ frame absent present => absent (frame.present.mp present)
  | some mc => framed_free fun _ _ _ frame ⟨member, found⟩ => ⟨member, (frame mc.key member).trans found⟩

instance (found : Option MachineConfig) :
    Tolerant (machine settings monitor rules) .free (On (G := G) (Found found)) :=
  (found_framed found).tolerant (fun _ _ _ holds => by cases found <;> exact holds)
    fun _ _ _ holds => by cases found <;> exact holds

structure Listed (mcs : List MachineConfig) (_ : Reconciler) (s : Cluster) : Prop where
  stored : ∀ mc ∈ mcs, mc.metadata.name ∈ mcNames → s.find? .machineConfig mc.key = some mc
  complete : ∀ key mc, key.name ∈ mcNames → s.find? .machineConfig key = some mc → mc ∈ mcs

theorem listed_framed (mcs : List MachineConfig) : Framed (G := G) .free (Listed mcs) := by
  refine framed_free fun memory s s' frame listed => ?_
  refine ⟨fun mc member named => ?_, fun key mc named found => ?_⟩
  · exact (frame mc.key named).trans (listed.stored mc member named)
  · exact listed.complete key mc named ((frame key named).symm.trans found)

instance (mcs : List MachineConfig) :
    Invariant (machine settings monitor rules) .free (On (Listed mcs)) :=
  (listed_framed mcs).invariant

theorem getExisting_triple [tolerant : Tolerant (machine settings monitor rules) C A]
    (held : ∀ memory w, A memory w → Held name memory w.1) :
    Triple (machine settings monitor rules) C A getExistingMachineConfig
      (Leaves (fun found => Both A (On (Found found))) A) := by
  have list : Triple (machine settings monitor rules) C A (clientList .machineConfig)
      (Leaves (fun mcs => Both A (On (Listed mcs))) A) := by
    have reads := tolerant.reads (.list .machineConfig []) rfl (by simp)
    refine clientList_triple (fun memory w holds => (reads memory w holds).1) ?_ ?_
    · intro memory w mcs w' holds reply
      obtain ⟨same, _, rfl⟩ := Answered.list_ok reply.1
      refine ⟨(reads memory w holds).2 _ w' reply, ?_⟩
      change Listed _ memory w'.1
      rw [same]
      refine ⟨fun mc member _ => ?_, fun key mc named found => ?_⟩
      · exact Collection.find?_eq_some.mpr ⟨List.mem_of_mem_filter member, rfl⟩
      · exact List.mem_filter.mpr ⟨(Collection.find?_mem found).1, rfl⟩
    · exact fun memory w error w' holds => (reads memory w holds).2 _ w'
  refine list.leaves_bind fun mcs => ?_
  refine triple_get_pure ?_
  rintro memory w ⟨holds, listed⟩
  have isHeld := held memory w holds
  cases found : mcs.find? fun mc => StrMap.getD mc.metadata.labels "app" = memory.current.metadata.name &&
      (mc.metadata.name = extensionMcName || mc.metadata.name = imageMcName) with
  | none =>
    refine ⟨holds, ?_⟩
    rintro ⟨mcName, member, present⟩
    obtain ⟨mc, stored⟩ := Option.isSome_iff_exists.mp present
    obtain ⟨_, made⟩ := isHeld.rest.placed.made (mcKey mcName) member stored
    have sameName : mc.metadata.name = mcName := congrArg Key.name (Collection.find?_mem stored).2
    have missed := List.find?_eq_none.mp found mc (listed.complete _ mc member stored)
    have either : mcName = extensionMcName ∨ mcName = imageMcName := by simpa [mcNames] using member
    simp [made.app, isHeld.named, sameName, either] at missed
  | some mc =>
    have sought := List.find?_some found
    have member : mc.metadata.name ∈ mcNames := by
      simp only [Bool.and_eq_true, Bool.or_eq_true, decide_eq_true_eq] at sought
      simpa [mcNames] using sought.2
    exact ⟨holds, member, listed.stored mc (List.mem_of_find?_eq_some found) member⟩

theorem app_mcLabels (pool app : String) : StrMap.getD (mcLabels pool app) "app" = app := by
  simp [mcLabels, StrMap.ofList, StrMap.getD_insert]

/-- Nothing exists, and the image for the `KataConfig` has been built. -/
def Built (name : String) (mc : MachineConfig) (_ : Reconciler) (s : Cluster) : Prop :=
  ¬Present s ∧ mc.metadata.name = imageMcName ∧ MadeFor name mc

instance (mc : MachineConfig) :
    Invariant (machine settings monitor rules) .free (On (G := G) (Built name mc)) :=
  Framed.invariant <| framed_free fun _ _ _ frame built => ⟨fun present => built.1 (frame.present.mp present), built.2⟩

theorem createFromConfigMap_triple [tolerant : Tolerant (machine settings monitor rules) C A]
    (held : ∀ memory w, A memory w → Held name memory w.1) (cm : ConfigMap) :
    Triple (machine settings monitor rules) C (Both A (On (Found none)))
      (createMachineConfigFromConfigMap cm) (Leaves (fun mc => Both A (On (Built name mc))) A) := by
  unfold createMachineConfigFromConfigMap
  split
  · exact triple_throw fun _ _ holds => holds.1
  · refine Maintains.bind_triple getMcpName_maintains (fun mcp => ?_) fun _ _ _ holds => holds.1
    refine triple_get_pure ?_
    rintro memory w ⟨holds, absent⟩
    exact ⟨holds, absent, rfl, (app_mcLabels _ _).trans (held memory w holds).named, rfl⟩

theorem decided_of_absent (name : String) (imgMc : Option MachineConfig) (absent : ¬Present s)
    (image : ∀ mc ∈ imgMc, mc.metadata.name = imageMcName ∧ MadeFor name mc) :
    Remembered name imgMc s ∧ Chosen imgMc s := by
  refine ⟨⟨image, fun present => ?_⟩, fun mc stored => ?_⟩
  · exact absurd ⟨_, mem_extension, present⟩ absent
  · exact absurd ⟨_, mem_image, Option.isSome_iff_exists.mpr ⟨mc, stored⟩⟩ absent

theorem decided_of_found (held : Held name memory s) (found : Found (some mc) memory s) :
    Remembered name (if mc.metadata.name = imageMcName then some mc else memory.imgMc) s ∧
      Chosen (if mc.metadata.name = imageMcName then some mc else memory.imgMc) s := by
  obtain ⟨named, stored⟩ := found
  have placed := held.rest.placed
  obtain ⟨_, made⟩ := placed.made mc.key named stored
  rw [placed.key_eq mc.key named stored] at stored
  change s.find? .machineConfig (mcKey mc.metadata.name) = some mc at stored
  split
  · rename_i isImage
    rw [isImage] at stored
    refine ⟨⟨?_, fun present => ?_⟩, fun other found => ?_⟩
    · rintro _ ⟨rfl⟩
      exact ⟨isImage, made⟩
    · obtain ⟨extension, first⟩ := Option.isSome_iff_exists.mp present
      exact (placed.exclusive first stored).elim
    · rw [stored] at found
      cases found
      exact ⟨mc, rfl, rfl⟩
  · rename_i notImage
    have isExtension : mc.metadata.name = extensionMcName := by
      simp only [mcNames, List.mem_cons, List.not_mem_nil, or_false] at named
      exact named.resolve_right notImage
    rw [isExtension] at stored
    exact ⟨held.rest.remembered, fun other found => (placed.exclusive stored found).elim⟩

/-- The handler of the feature gate: `B` holds once the layered image is decided, and
`R` after an error. -/
theorem layered_triple [Tolerant (machine settings monitor rules) C A]
    {B R : Reconciler → Cluster × G → Prop} (held : ∀ memory w, A memory w → Held name memory w.1)
    (decided : ∀ (memory : Reconciler) w imgMc, A memory w → Remembered name imgMc w.1 → Chosen imgMc w.1 →
      B { memory with imgMc := imgMc } w)
    [Invariant (machine settings monitor rules) C R]
    (stopped : ∀ memory w, A memory w → R memory w)
    (reset : ∀ (memory : Reconciler) w, A memory w → R { memory with imgMc := none } w) (state : FeatureGateState) :
    Triple (machine settings monitor rules) C A (handleLayeredImageDeploymentFeature state)
      (Onward B fun _ : Except Err PUnit => R) := by
  refine Triple.bind (getExisting_triple held) (fun found => ?_) fun _ => stopped
  cases found with
  | some mc =>
    refine Triple.pre (P := Both A (On (Found (some mc)))) ?_ fun _ _ => id
    have chosen memory w (holds : Both A (On (Found (some mc))) memory w) :=
      decided_of_found (held memory w holds.1) holds.2
    by_cases isImage : mc.metadata.name = imageMcName
    · simp only [isImage, if_true] at chosen ⊢
      exact triple_modify fun memory w holds =>
        decided memory w _ holds.1 (chosen memory w holds).1 (chosen memory w holds).2
    · simp only [isImage, if_false] at chosen ⊢
      exact triple_pure fun memory w holds =>
        decided memory w memory.imgMc holds.1 (chosen memory w holds).1 (chosen memory w holds).2
  | none =>
    refine Triple.pre (P := Both A (On (Found none))) ?_ fun _ _ => id
    cases state with
    | disabled =>
      refine triple_modify fun memory w holds => ?_
      obtain ⟨remembered, chosen⟩ := decided_of_absent name none holds.2 (by simp)
      exact decided memory w none holds.1 remembered chosen
    | enabled =>
      refine Maintains.bind_triple (clientGet_maintains _ _) (fun cm => ?_) fun _ memory w holds => stopped memory w holds.1
      refine Triple.bind (Q := Leaves (Leaves (fun mc => Both A (On (Built name mc))) A) R)
        (Triple.attempt (createFromConfigMap_triple held cm)) (fun result => ?_) fun _ _ _ => id
      cases result with
      | ok mc =>
        refine Triple.pre (P := Both A (On (Built name mc))) (triple_modify fun memory w holds => ?_)
          fun _ _ => id
        obtain ⟨absent, image⟩ := holds.2
        obtain ⟨remembered, chosen⟩ := decided_of_absent name (some mc) absent
          (by rintro _ ⟨rfl⟩; exact image)
        exact decided memory w _ holds.1 remembered chosen
      | error error =>
        refine Triple.pre (P := A) ?_ fun _ _ => id
        exact triple_modify_bind (R := R) reset (triple_throw fun _ _ => id)

end Handler

def Choice (mc : MachineConfig) (memory : Reconciler) : Prop :=
  (mc.metadata.name = imageMcName ∧ memory.imgMc = some mc) ∨
    (mc.metadata.name = extensionMcName ∧ memory.imgMc = none ∧ MadeFor memory.current.metadata.name mc)

theorem Choice.named (choice : Choice mc memory) : mc.metadata.name ∈ mcNames := by
  rcases choice with ⟨named, _⟩ | ⟨named, _⟩
  · exact named ▸ mem_image
  · exact named ▸ mem_extension

def Stored (mc : MachineConfig) (stored : Option MachineConfig) (memory : Reconciler) (s : Cluster) : Prop :=
  Choice mc memory ∧ s.find? .machineConfig (mcKey mc.metadata.name) = stored

def Inspected (mc : MachineConfig) : Except Err MachineConfig → Reconciler → Cluster → Prop
  | .ok found => Stored mc (some found)
  | .error error => fun memory s => Choice mc memory ∧
      ((error.isNotFound || error.isGone) = true → s.find? .machineConfig (mcKey mc.metadata.name) = none)

theorem stored_framed {stored : Option MachineConfig} : Framed (G := G) .free (Stored mc stored) :=
  framed_free fun _ _ _ frame ⟨choice, found⟩ => ⟨choice, (frame (mcKey mc.metadata.name) choice.named).trans found⟩

theorem inspected_framed : (result : Except Err MachineConfig) → Framed (G := G) .free (Inspected mc result)
  | .ok _ => stored_framed
  | .error _ => framed_free fun _ _ _ frame ⟨choice, absent⟩ =>
    ⟨choice, fun missing => (frame (mcKey mc.metadata.name) choice.named).trans (absent missing)⟩

section Building

variable [SparesMcs rules]

instance (mc : MachineConfig) (stored : Option MachineConfig) :
    Invariant (machine settings monitor rules) .free (On (G := G) (Stored mc stored)) :=
  stored_framed.invariant

instance (mc : MachineConfig) (result : Except Err MachineConfig) :
    Invariant (machine settings monitor rules) .free (On (G := G) (Inspected mc result)) :=
  (inspected_framed result).invariant

instance (mc : MachineConfig) :
    Invariant (machine settings monitor rules) .free (On (G := G) fun memory _ => Choice mc memory) :=
  Framed.invariant <| framed_free fun _ _ _ _ => id

instance : Tolerant (machine settings monitor rules) .free
    (On (G := G) fun memory _ => memory.imgMc = none) :=
  Framed.tolerant (framed_free fun _ _ _ _ => id) (fun _ _ _ => id) fun _ _ _ => id

theorem newMCForCR_triple [Tolerant (machine settings monitor rules) C A]
    (rest : ∀ memory w, A memory w → Rest name memory w.1) (pool : String) (config : Option CustomKernelConfig) :
    Triple (machine settings monitor rules) C A (newMCForCR settings pool config)
      (Leaves (fun mc => Both A (On fun memory _ => Choice mc memory)) A) := by
  refine triple_get_bind fun r => ?_
  cases chosen : r.imgMc with
  | some mc =>
    refine Triple.pre (P := Both A (On fun memory _ => Choice mc memory)) (triple_pure fun _ _ => id) ?_
    rintro memory w ⟨rfl, holds⟩
    exact ⟨holds, .inl ⟨((rest _ _ holds).remembered.image mc chosen).1, chosen⟩⟩
  | none =>
    refine Triple.pre (P := Both A (On fun memory _ => memory.imgMc = none)) ?_ ?_
    · refine Maintains.bind_triple (getExtensionName_maintains settings) (fun extension => ?_) fun _ _ _ holds => holds.1
      refine triple_get_pure ?_
      rintro memory w ⟨holds, unset⟩
      exact ⟨holds, .inr ⟨rfl, unset, app_mcLabels _ _, rfl⟩⟩
    · rintro memory w ⟨rfl, holds⟩
      exact ⟨holds, chosen⟩

theorem getMc_triple [tolerant : Tolerant (machine settings monitor rules) C A] (mc : MachineConfig) :
    Triple (machine settings monitor rules) C (Both A (On fun memory _ => Choice mc memory))
      (clientGet .machineConfig ⟨"", mc.metadata.name⟩) fun result => Both A (On (Inspected mc result)) := by
  have reads := tolerant.reads (.get .machineConfig (mcKey mc.metadata.name)) rfl (by simp)
  refine clientGet_triple (fun memory w holds => (reads memory w holds.1).1) ?_ ?_
  · intro memory w found w' holds reply
    obtain ⟨same, stored⟩ := Answered.get_ok reply.1
    refine ⟨(reads memory w holds.1).2 _ w' reply, holds.2, ?_⟩
    rw [same]
    exact stored
  · intro memory w error w' holds reply
    refine ⟨(reads memory w holds.1).2 _ w' reply, holds.2, fun missing => ?_⟩
    obtain ⟨same, absent⟩ := Answered.get_missing reply.1 missing
    rw [same]
    exact absent

def refreshed (answer : MachineConfig) (memory : Reconciler) : Reconciler :=
  { memory with imgMc := memory.imgMc.map fun _ => answer }

omit [SparesMcs rules] in
theorem refreshed_invariant [invariant : Invariant (machine settings monitor rules) C A]
    (answer : MachineConfig) :
    Invariant (machine settings monitor rules) C fun memory => A (refreshed answer memory) :=
  ⟨fun memory => invariant.stable (refreshed answer memory), fun memory => invariant.mid (refreshed answer memory)⟩

/-- `createMc` creates the MachineConfig if it does not exist, and updates an extension
at most. -/
theorem createMc_triple [Tolerant (machine settings monitor rules) C A]
    (working : ∀ memory w, A memory w → Working name memory w.1)
    (create : ∀ mc, Triple (machine settings monitor rules) C (Both A (On (Stored mc none)))
      (clientCreate mc) (Leaves (fun answer memory => A (refreshed answer memory)) A))
    (update : ∀ mc existing, mc.metadata.name = extensionMcName →
      Triple (machine settings monitor rules) C (Both A (On (Stored mc (some existing))))
        (clientUpdate { existing with body := mc.body }) fun _ => A)
    (pool : String) (config : Option CustomKernelConfig) :
    Maintains (machine settings monitor rules) C A (createMc settings pool config) := by
  refine Triple.bind (newMCForCR_triple (fun memory w holds => (working memory w holds).held.rest) pool config)
    (fun mc => ?_) fun _ _ _ => id
  refine Triple.bind (Q := Leaves (fun result => Both A (On (Inspected mc result))) A)
    (Triple.attempt (getMc_triple mc)) (fun result => ?_) fun _ _ _ => id
  cases result with
  | error error =>
    refine Triple.pre (P := Both A (On (Inspected mc (.error error)))) ?_ fun _ _ => id
    dsimp only
    split
    · rename_i missing
      refine Triple.bind ((create mc).pre fun memory w holds => ⟨holds.1, holds.2.1, holds.2.2 missing⟩)
        (fun answer => ?_) fun _ _ _ => id
      exact triple_modify_bind (fun _ _ => id) (maintains_pure _)
    · exact triple_throw fun _ _ holds => holds.1
  | ok existing =>
    refine Triple.pre (P := Both A (On (Stored mc (some existing)))) ?_ fun _ _ => id
    dsimp only
    split
    · rename_i differs
      -- a layered image is what the memory says, so there is nothing to change in it
      by_cases isExtension : mc.metadata.name = extensionMcName
      · exact Triple.bind (update mc existing isExtension) (fun _ => maintains_pure _) fun _ _ _ => id
      · rintro memory w ⟨holds, choice, found⟩
        rcases choice with ⟨isImage, held⟩ | ⟨named, _⟩
        · rw [isImage] at found
          obtain ⟨image, chosen, same⟩ := (working memory w holds).chosen existing found
          rw [held] at chosen
          cases chosen
          exact absurd same.symm differs
        · exact absurd named isExtension
    · exact triple_pure fun _ _ holds => holds.1

/-- `removeMc` deletes the MachineConfig that was built: `F` holds while the one that was
found is at hand, and `B` afterwards, also if the deletion fails. -/
theorem removeMc_triple [Tolerant (machine settings monitor rules) C A]
    {F : MachineConfig → MachineConfig → Reconciler → Cluster × G → Prop}
    {B : Reconciler → Cluster × G → Prop} [Invariant (machine settings monitor rules) C B]
    {Q : Except Exit Bool → Reconciler → Cluster × G → Prop}
    (rest : ∀ memory w, A memory w → Rest name memory w.1)
    (missing : ∀ mc (memory : Reconciler) w, A memory w → Stored mc none memory w.1 →
      B { memory with imgMc := none } w)
    (refresh : ∀ mc found memory w, A memory w → Stored mc (some found) memory w.1 →
      F mc found (refreshed found memory) w)
    (delete : ∀ mc found, Triple (machine settings monitor rules) C (F mc found)
      (clientDelete .machineConfig ⟨"", mc.metadata.name⟩) fun _ => B)
    (stopped : ∀ error memory w, A memory w → Q (.error error) memory w) (pool : String) :
    Triple (machine settings monitor rules) C A (removeMc settings pool) (Onward B Q) := by
  refine Triple.bind (newMCForCR_triple rest pool none).orElse_leaves (fun mc => ?_) stopped
  refine Triple.bind (Q := Leaves (fun result => Both A (On (Inspected mc result))) A)
    (Triple.attempt (getMc_triple mc)) (fun result => ?_) stopped
  cases result with
  | error error =>
    refine Triple.pre (P := Both A (On (Inspected mc (.error error)))) ?_ fun _ _ => id
    by_cases notFound : error.isNotFound = true
    · simp only [notFound, Bool.not_true, Bool.false_eq_true, if_false]
      refine triple_modify_bind (R := B) (fun memory w holds => ?_) (triple_pure fun _ _ => id)
      exact missing mc memory w holds.1 ⟨holds.2.1, holds.2.2 (by simp [notFound])⟩
    · simp only [notFound, Bool.not_false, if_true]
      exact Triple.bind (Q := Leaves (fun _ _ _ => False) A) (triple_throw fun _ _ holds => holds.1)
        (fun _ _ _ never => never.elim) stopped
  | ok found =>
    refine Triple.pre (P := Both A (On (Stored mc (some found)))) ?_ fun _ _ => id
    refine triple_modify_bind (R := F mc found) (fun memory w holds => refresh mc found memory w holds.1 holds.2) ?_
    refine Triple.bind (Q := Leaves (fun _ => B) fun _ _ => False) ?_
      (fun _ => triple_pure (P := B) fun _ _ => id) fun _ _ _ never => never.elim
    exact Triple.bind (Q := Leaves (fun _ => B) fun _ _ => False) (Triple.attempt (delete mc found))
      (fun _ => triple_pure (P := B) fun _ _ => id) fun _ _ _ => id

end Building

section Writing

theorem Working.rest (working : Working name memory s) : Rest name memory s := working.held.rest

theorem Working.unchosen (working : Working name memory s) (choice : Choice mc memory) {mcName : String}
    (member : mcName ∈ mcNames) (other : mcName ≠ mc.metadata.name) :
    s.find? .machineConfig (mcKey mcName) = none := by
  simp only [mcNames, List.mem_cons, List.not_mem_nil, or_false] at member
  refine Option.eq_none_iff_forall_ne_some.mpr fun stored found => ?_
  rcases choice with ⟨named, held⟩ | ⟨named, unset, _⟩
  · have isExtension : mcName = extensionMcName := member.resolve_right fun isImage => other (isImage.trans named.symm)
    rw [isExtension] at found
    rw [working.rest.remembered.extension (by rw [found]; rfl)] at held
    cases held
  · have isImage : mcName = imageMcName := member.resolve_left fun isExtension => other (isExtension.trans named.symm)
    rw [isImage] at found
    obtain ⟨held, chosen, _⟩ := working.chosen stored found
    rw [unset] at chosen
    cases chosen

theorem Working.absent (working : Working name memory s) (stored : Stored mc none memory s) : ¬Present s := by
  rintro ⟨mcName, member, present⟩
  by_cases same : mcName = mc.metadata.name
  · simp [same, stored.2] at present
  · simp [working.unchosen stored.1 member same] at present

structure Sole (mcName : String) (found : MachineConfig) (_ : Reconciler) (s : Cluster) : Prop where
  member : mcName ∈ mcNames
  stored : s.find? .machineConfig (mcKey mcName) = some found
  plain : found.metadata.finalizers = []
  others : ∀ other ∈ mcNames, other ≠ mcName → s.find? .machineConfig (mcKey other) = none

theorem sole_framed {mcName : String} {found : MachineConfig} :
    Framed (G := G) .free (Sole mcName found) := by
  refine framed_free fun memory s s' frame sole => ⟨sole.member, ?_, sole.plain, fun other member differs => ?_⟩
  · exact (frame (mcKey mcName) sole.member).trans sole.stored
  · exact (frame (mcKey other) member).trans (sole.others other member differs)

theorem Working.sole (working : Working name memory s) {found : MachineConfig} {after : Reconciler}
    (stored : Stored mc (some found) memory s) : Sole mc.metadata.name found after s where
  member := stored.1.named
  stored := stored.2
  plain := (working.rest.placed.made (mcKey mc.metadata.name) stored.1.named stored.2).2.plain
  others _ member differs := working.unchosen stored.1 member differs

theorem Working.madeFor (working : Working name memory s) (choice : Choice mc memory) : MadeFor name mc := by
  rcases choice with ⟨_, held⟩ | ⟨_, _, made⟩
  · exact (working.rest.remembered.image mc held).2
  · exact working.held.named ▸ made

section Inserted

variable (placed : Placed name s) (missing : ¬Present s)
  (absent : s.find? .machineConfig (mcKey mc.metadata.name) = none)

include placed missing absent in
theorem only_inserted {key : Key} {other : MachineConfig} (member : key.name ∈ mcNames)
    (stored : (s.insertNew (inScope mc)).find? .machineConfig key = some other) :
    key = mcKey mc.metadata.name ∧ other = s.newborn (inScope mc) := by
  obtain ⟨isMember, sameKey⟩ := Collection.find?_mem stored
  rcases (Store.mem_insertNew absent).mp isMember with old | rfl
  · have kept : s.find? .machineConfig key = some other := Collection.find?_eq_some.mpr ⟨old, sameKey⟩
    have placedAt := placed.key_eq key member kept
    exact (missing ⟨key.name, member, by rw [← placedAt, kept]; rfl⟩).elim
  · exact ⟨sameKey.symm, rfl⟩

include absent in
theorem present_insertNew (named : mc.metadata.name ∈ mcNames) : Present (s.insertNew (inScope mc)) :=
  ⟨_, named, Option.isSome_iff_exists.mpr ⟨s.newborn (inScope mc), Store.find?_insertNew absent⟩⟩

include missing absent in
theorem Placed.inserted (placed : Placed name s) (made : MadeFor name mc) :
    Placed name (s.insertNew (inScope mc)) := by
  refine ⟨fun key _ member stored => ?_, fun first second => ?_⟩
  · obtain ⟨rfl, rfl⟩ := only_inserted placed missing absent member stored
    exact ⟨rfl, made.app, made.plain⟩
  · obtain ⟨isExtension, _⟩ := only_inserted placed missing absent mem_extension first
    obtain ⟨isImage, _⟩ := only_inserted placed missing absent mem_image second
    exact absurd ((congrArg Key.name isExtension).trans (congrArg Key.name isImage).symm) (by decide)

end Inserted

theorem Working.inserted (working : Working name memory s) (stored : Stored mc none memory s)
    {imgMc : Option MachineConfig}
    (known : imgMc = memory.imgMc ∨ imgMc = memory.imgMc.map fun _ => s.newborn (inScope mc)) :
    Working name { memory with imgMc := imgMc } (s.insertNew (inScope mc)) := by
  have missing := working.absent stored
  have made := working.madeFor stored.1
  have placed := working.rest.placed
  obtain ⟨choice, absent⟩ := stored
  refine ⟨⟨⟨placed.inserted missing absent made, fun held isHeld => ?_, fun present => ?_⟩, working.held.named⟩,
    fun image isStored => ?_⟩
  · rcases choice with ⟨isImage, chosen⟩ | ⟨_, unset, _⟩
    · rcases known with rfl | rfl
      · exact working.rest.remembered.image held isHeld
      · rw [chosen] at isHeld
        obtain rfl := Option.some.inj isHeld
        exact ⟨isImage, made.app, made.plain⟩
    · rcases known with rfl | rfl <;> simp [unset] at isHeld
  · obtain ⟨extension, found⟩ := Option.isSome_iff_exists.mp present
    obtain ⟨same, _⟩ := only_inserted placed missing absent mem_extension found
    rcases choice with ⟨isImage, _⟩ | ⟨_, unset, _⟩
    · exact absurd ((congrArg Key.name same).trans isImage) (by decide)
    · rcases known with rfl | rfl <;> simp [unset]
  · obtain ⟨same, rfl⟩ := only_inserted placed missing absent mem_image isStored
    rcases choice with ⟨_, chosen⟩ | ⟨isExtension, _⟩
    · rcases known with rfl | rfl
      · exact ⟨mc, chosen, rfl⟩
      · exact ⟨_, by rw [chosen]; rfl, rfl⟩
    · exact absurd ((congrArg Key.name same).trans isExtension) (by decide)

theorem updated_extension (placed : Placed name s) {existing : MachineConfig} {response}
    (found : s.find? .machineConfig (mcKey extensionMcName) = some existing)
    (answered : Answered s (.update .machineConfig (inScope { existing with body := mc.body })) response s') :
    (∀ key, key ≠ mcKey extensionMcName → s'.find? .machineConfig key = s.find? .machineConfig key) ∧
      ∃ after, s'.find? .machineConfig (mcKey extensionMcName) = some after ∧ MadeFor name after := by
  obtain ⟨member, key⟩ := Collection.find?_mem found
  obtain ⟨_, made⟩ := placed.made (mcKey extensionMcName) mem_extension found
  have sameKey : (inScope { existing with body := mc.body } : MachineConfig).key = mcKey extensionMcName :=
    (key_inScope _).trans (congrArg (scopedKey .machineConfig) key)
  refine ⟨fun key other => answered.find?_other fun target =>
    other ((congrArg Prod.snd (Option.some.inj target)).symm.trans sameKey), ?_⟩
  rcases answered.store with rfl | written
  · exact ⟨existing, found, made⟩
  rcases Store.exec_update_cases (P := Mark) (s := s) (inScope { existing with body := mc.body }) with
    ⟨_, refused⟩ | ⟨stored, isStored, _, _, accepted⟩
  · rw [refused] at written
    subst written
    exact ⟨existing, found, made⟩
  · rw [accepted] at written
    subst written
    rw [sameKey] at isStored
    obtain rfl := Option.some.inj (found.symm.trans isStored)
    exact ⟨_, Store.find?_settle_kept found sameKey rfl rfl rfl, made.app, made.plain⟩

theorem Working.revised (working : Working name memory s) {before after : MachineConfig}
    (found : s.find? .machineConfig (mcKey extensionMcName) = some before)
    (others : ∀ key, key ≠ mcKey extensionMcName → s'.find? .machineConfig key = s.find? .machineConfig key)
    (revised : s'.find? .machineConfig (mcKey extensionMcName) = some after) (made : MadeFor name after) :
    Working name memory s' := by
  have image := others (mcKey imageMcName) (by decide)
  refine ⟨⟨⟨⟨fun key mc member stored => ?_, fun _ second => ?_⟩, working.rest.remembered.image, fun _ => ?_⟩,
    working.held.named⟩, fun mc stored => working.chosen mc (image.symm.trans stored)⟩
  · by_cases same : key = mcKey extensionMcName
    · subst same
      obtain rfl := Option.some.inj (revised.symm.trans stored)
      exact ⟨rfl, made⟩
    · exact working.rest.placed.made key member ((others key same).symm.trans stored)
  · exact working.rest.placed.exclusive found (image.symm.trans second)
  · exact working.rest.remembered.extension (by rw [found]; rfl)

theorem deleted_or_kept (placed : Placed name s) {key : Key} {response}
    (answered : Answered s (.delete .machineConfig key) response s') {other : Key} (member : other.name ∈ mcNames) :
    s'.find? .machineConfig other = s.find? .machineConfig other ∨ s'.find? .machineConfig other = none := by
  by_cases same : other = key
  · subst same
    rcases answered.store with rfl | written
    · exact .inl rfl
    rcases Store.exec_delete_cases (P := Mark) (s := s) .machineConfig other with ⟨_, refused⟩ | ⟨stored, found, accepted⟩
    · rw [refused] at written
      exact .inl (by rw [written])
    · obtain ⟨_, made⟩ := placed.made other member found
      have finished : Store.finished (Store.doomed stored) = true := by
        simp [Store.finished, Store.doomed, made.plain]
      have gone := Store.find?_settle (Store.doomed stored) found (Collection.find?_mem found).2 rfl
      rw [finished] at gone
      rw [written, accepted]
      exact .inr gone
  · exact .inl (answered.find?_other fun target => same (congrArg Prod.snd (Option.some.inj target)).symm)

theorem Working.removed (working : Working name memory s) (removed : ∀ key : Key, key.name ∈ mcNames →
      s'.find? .machineConfig key = s.find? .machineConfig key ∨ s'.find? .machineConfig key = none) :
    Working name memory s' := by
  have before (key : Key) {mc : MachineConfig} (member : key.name ∈ mcNames)
      (found : s'.find? .machineConfig key = some mc) : s.find? .machineConfig key = some mc := by
    rcases removed key member with same | gone
    · exact same.symm.trans found
    · rw [gone] at found
      cases found
  refine ⟨⟨⟨⟨fun key _ member found => working.rest.placed.made key member (before key member found), fun first second =>
    working.rest.placed.exclusive (before (mcKey extensionMcName) mem_extension first)
      (before (mcKey imageMcName) mem_image second)⟩, working.rest.remembered.image, fun present => ?_⟩,
    working.held.named⟩, fun mc stored => working.chosen mc (before (mcKey imageMcName) mem_image stored)⟩
  obtain ⟨mc, found⟩ := Option.isSome_iff_exists.mp present
  exact working.rest.remembered.extension
    (Option.isSome_iff_exists.mpr ⟨mc, before (mcKey extensionMcName) mem_extension found⟩)

theorem Working.refreshed (working : Working name memory s) {found : MachineConfig}
    (stored : Stored mc (some found) memory s) : Working name (refreshed found memory) s := by
  obtain ⟨choice, isStored⟩ := stored
  rcases choice with ⟨isImage, held⟩ | ⟨_, unset, _⟩
  · have same : MachineConfigChoice.refreshed found memory = { memory with imgMc := some found } := by
      rw [MachineConfigChoice.refreshed, held]
      rfl
    rw [isImage] at isStored
    obtain ⟨_, made⟩ := working.rest.placed.made (mcKey imageMcName) mem_image isStored
    rw [same]
    refine ⟨⟨⟨working.rest.placed, ?_, fun present => ?_⟩, working.held.named⟩, fun image isImage => ?_⟩
    · rintro _ ⟨rfl⟩
      exact ⟨congrArg Key.name (Collection.find?_mem isStored).2, made⟩
    · rw [working.rest.remembered.extension present] at held
      cases held
    · exact ⟨found, rfl, congrArg specOfMc (Option.some.inj (isStored.symm.trans isImage))⟩
  · have same : MachineConfigChoice.refreshed found memory = memory := by
      rw [MachineConfigChoice.refreshed, unset]
      exact congrArg (fun imgMc => { memory with imgMc := imgMc }) unset.symm
    rw [same]
    exact working

theorem Working.unset (working : Working name memory s) (stored : Stored mc none memory s) :
    Working name { memory with imgMc := none } s := by
  have missing := working.absent stored
  exact ⟨⟨⟨working.rest.placed, .none⟩, working.held.named⟩, fun image found =>
    absurd ⟨_, mem_image, Option.isSome_iff_exists.mpr ⟨image, found⟩⟩ missing⟩

end Writing

section Requests

variable [SparesMcs rules] [lax : Lax name D]

omit lax in
theorem created_or_kept {object : MachineConfig} {response}
    (answered : Answered s (.create .machineConfig object) response s') : s' = s ∨ s' = s.insertNew object := by
  rcases answered.store with same | written
  · exact .inl same
  rcases Store.exec_create_cases (P := Mark) (s := s) object with ⟨_, refused⟩ | ⟨_, added⟩
  · rw [refused] at written
    exact .inl written
  · rw [added] at written
    exact .inr written

theorem create_working (mc : MachineConfig) :
    Triple (machine settings monitor rules) D (Both (On (Working name)) (On (Stored mc none)))
      (clientCreate mc) (Leaves (fun answer memory => On (Working name) (refreshed answer memory))
        (On (Working name))) := by
  have after (answer : MachineConfig) : Invariant (machine settings monitor rules) D
      fun memory => On (Working name) (refreshed answer memory) := refreshed_invariant answer
  refine clientCreate_triple (fun _ w _ => lax.good w _) ?_ ?_
  · rintro memory w answer w' ⟨working, stored⟩ reply
    obtain ⟨_, rfl, same⟩ := Answered.create_ok reply.1
    change Working name _ w'.1
    rw [same]
    exact working.inserted stored (.inr rfl)
  · rintro memory w error w' ⟨working, stored⟩ reply
    change Working name memory w'.1
    rcases created_or_kept reply.1 with same | added
    · rw [same]
      exact working
    · rw [added]
      exact working.inserted stored (.inl rfl)

theorem update_working {mc existing : MachineConfig} (isExtension : mc.metadata.name = extensionMcName) :
    Triple (machine settings monitor rules) D
      (Both (On (Working name)) (On (Stored mc (some existing))))
      (clientUpdate { existing with body := mc.body }) fun _ => On (Working name) := by
  refine ask_bind_triple (fun _ w _ => lax.good w _) ?_
  rintro memory w response w' ⟨working, _, found⟩ reply
  have kept : On (Working name) memory w' := by
    rw [isExtension] at found
    obtain ⟨others, after, revised, made⟩ := updated_extension working.rest.placed found reply.1
    exact working.revised found others revised made
  cases response with
  | ok answer => exact safe_result (Q := fun _ => On (Working name)) kept
  | error error => exact safe_result (Q := fun _ => On (Working name)) kept

omit [SparesMcs rules] in
theorem working_deletable :
    Deletable (machine settings monitor rules) D (On (Working name)) .machineConfig :=
  fun _ _ w working => ⟨lax.good w _, fun _ _ reply =>
    Working.removed working fun _ member => deleted_or_kept working.rest.placed reply.1 member⟩

omit lax in
theorem createMc_both [Tolerant (machine settings monitor rules) C A] [imageFree : ImageFree A]
    (create : ∀ mc, Triple (machine settings monitor rules) C
      (Both (Both A (On (Working name))) (On (Stored mc none))) (clientCreate mc) fun _ => A)
    (update : ∀ mc existing, mc.metadata.name = extensionMcName →
      Triple (machine settings monitor rules) C
        (Both (Both A (On (Working name))) (On (Stored mc (some existing))))
        (clientUpdate { existing with body := mc.body }) fun _ => A)
    (pool : String) (config : Option CustomKernelConfig) :
    Maintains (machine settings monitor rules) C (Both A (On (Working name)))
      (createMc settings pool config) := by
  refine createMc_triple (fun _ _ holds => holds.2) (fun mc => ?_) (fun mc existing isExtension => ?_) pool config
  · refine Triple.post (Triple.pre ((create mc).both (create_working mc)) fun memory w holds =>
      ⟨holds, holds.1.2, holds.2⟩) ?_
    rintro (error | answer) memory w ⟨kept, working⟩
    · exact ⟨kept, working⟩
    · exact ⟨imageFree.free _ memory w kept, working⟩
  · exact Triple.pre ((update mc existing isExtension).both (update_working isExtension)) fun memory w holds =>
      ⟨holds, holds.1.2, holds.2⟩

theorem removeMc_working (pool : String) :
    Maintains (machine settings monitor rules) D (On (Working name))
      (removeMc settings pool) := by
  refine Triple.post (removeMc_triple (A := On (Working name)) (B := On (Working name)) (Q := fun _ => On (Working name))
    (F := fun _ _ => On (Working name)) (fun _ _ working => Working.rest working)
    (fun mc memory w working stored => Working.unset working stored)
    (fun mc found memory w working stored => Working.refreshed working stored)
    (fun mc found => clientDelete_maintains working_deletable _) (fun _ _ _ => id) pool) ?_
  · rintro (_ | _) memory w working
    · exact working
    · exact working

theorem createMc_working (pool : String) (config : Option CustomKernelConfig) :
    Maintains (machine settings monitor rules) D (On (Working name))
      (createMc settings pool config) :=
  createMc_triple (A := On (Working name)) (fun _ _ => id) create_working (fun _ _ => update_working) pool config

end Requests

/-! ## Through a whole reconciliation -/

section Reconciliation

variable [SparesMcs rules] [lax : Lax name D]

instance : KeepsWebhook settings (machine settings monitor rules) D (On (Working name)) :=
  working_framed.keepsWebhook

instance : KeepsWebhook settings (machine settings monitor rules) D (On (Rest name)) :=
  rest_framed.keepsWebhook

theorem delete_working : Maintains (machine settings monitor rules) D (On (Working name))
    (processKataConfigDeleteRequest settings) :=
  processKataConfigDeleteRequest_maintains settings (fun point _ => working_framed.passes point)
    ((working_framed.writable (by decide)).updatable _) removeMc_working
    (working_framed.writable (by decide)).deletable (working_framed.writable (by decide)).deletable

theorem deleteDaemonSet_rest : Maintains (machine settings monitor rules) D (On (Rest name))
    (processKataConfigDeleteRequestDaemonSet settings) :=
  processKataConfigDeleteRequestDaemonSet_maintains settings (fun point _ => rest_framed.passes point)
    ((rest_framed.writable (by decide)).updatable _)
    ((rest_framed.writable (by decide)).updatable _) (rest_framed.writable (by decide))

theorem install_working : Maintains (machine settings monitor rules) D (On (Working name))
    (processKataConfigInstallRequest settings) :=
  processKataConfigInstallRequest_maintains settings (working_framed.commences working_narrow)
    (fun point _ => working_framed.passes point) (fun _ => (working_framed.writable (by decide)).updatable _) createMc_working
    (working_framed.writable (by decide)) (working_framed.writable (by decide))
    (working_framed.keepsClasses working_narrow).creates

theorem installDaemonSet_rest : Maintains (machine settings monitor rules) D (On (Rest name))
    (processKataConfigInstallRequestDaemonSet settings) :=
  processKataConfigInstallRequestDaemonSet_maintains settings (rest_framed.commences rest_narrow)
    (fun point _ => rest_framed.passes point) (fun _ => (rest_framed.writable (by decide)).updatable _)
    ((rest_framed.writable (by decide)).updatable _)
    (rest_framed.writable (by decide)) (rest_framed.keepsClasses rest_narrow).creates

theorem processDelete_rest : Triple (machine settings monitor rules) D (On (Ready name))
    (processDeleteRequest settings) fun _ => On (Rest name) := by
  refine processDeleteRequest_triple settings ?_ ?_
  · exact (delete_working.pre fun _ _ holds => Ready.working holds.1 holds.2).post
      fun _ _ _ working => Working.rest working
  · exact deleteDaemonSet_rest.pre fun _ _ holds => holds.1.held.rest

theorem processInstall_rest : Triple (machine settings monitor rules) D (On (Ready name))
    (processInstallRequest settings) fun _ => On (Rest name) := by
  refine processInstallRequest_triple settings ?_ ?_
  · exact (install_working.pre fun _ _ holds => Ready.working holds.1 holds.2).post
      fun _ _ _ working => Working.rest working
  · exact installDaemonSet_rest.pre fun _ _ holds => holds.1.held.rest

theorem installs_rest (status : KataConfigStatus) :
    Triple (machine settings monitor rules) D (On (Ready name)) (installBranch settings status)
      fun _ => On (Rest name) := installBranch_triple settings processInstall_rest status

theorem fetch_held {key : Key} (named : key.name = name) :
    Triple (machine settings monitor rules) D (On (Rest name)) (fetchKataConfig key)
      (AfterFetch (fun _ => On (Held name)) (On (Rest name))) := by
  have read : Admits (machine settings monitor rules) D (On (Rest name))
      (.get .kataConfig ⟨"", key.name⟩) := rest_framed.admits (by simp [Request.writes])
  refine fetchKataConfig_triple (fun memory w rest => ⟨rest.placed, rest.remembered⟩) (fun _ w _ => lax.good w _) ?_ ?_
  · intro memory w kataConfig w' rest reply
    obtain ⟨_, found⟩ := Answered.get_ok reply.1
    have kept : Rest name memory w'.1 := (read memory w rest).2 _ w' reply
    exact ⟨⟨kept.placed, kept.remembered⟩, (congrArg Key.name (Collection.find?_mem found).2).trans named⟩
  · intro memory w error w' rest reply
    have kept := (read memory w rest).2 _ w' reply
    exact ⟨kept, kept⟩

theorem prepare_ready : Triple (machine settings monitor rules) D (On (Held name))
    (prepareReconcile settings) (Onward (On (Ready name)) fun _ : Except Exit PUnit => On (Rest name)) := by
  have classes : KeepsClasses settings (machine settings monitor rules) D (On (Held name)) :=
    held_framed.keepsClasses held_narrow
  refine prepareReconcile_triple settings classes.finalizers (handleConfidentialBaremetal_maintains settings classes)
    (fun memory _ _ held => held_narrow memory _ _ rfl rfl held)
    (layered_triple (fun _ _ => id) ?_ (fun _ _ held => Held.rest held) ?_) ?_ fun _ _ held => Held.rest held
  · exact fun memory w imgMc held remembered chosen =>
      ⟨⟨⟨held.rest.placed, remembered⟩, held.named⟩, fun _ => chosen⟩
  · exact fun memory w held => ⟨held.rest.placed, .none⟩
  · intro memory w held daemonSet
    refine ⟨held, fun machineConfig => ?_⟩
    rw [daemonSet] at machineConfig
    cases machineConfig

theorem reconcile_rest {key : Key} (named : key.name = name) :
    Triple (machine settings monitor rules) D (On (Rest name)) (reconcileRoutine settings key)
      fun _ => On (Rest name) := by
  refine reconcileRoutine_triple (fun _ => On (Held name)) (fun _ => On (Ready name))
    settings (fetch_held named) (fun _ => prepare_ready) (fun _ => ?_) (fun status => ?_) fun _ _ _ ready => ready.held.rest
  · refine Triple.pre (P := On (Ready name)) ?_ fun _ _ holds => holds.1
    exact Maintains.bind_triple (ready_framed.passes _ _)
      (fun _ => deleteAndStoreStatus_triple settings processDelete_rest) fun _ _ _ ready => ready.held.rest
  · exact (installs_rest status).given

end Reconciliation

section Executions

variable [SparesMcs rules] {g : G}

def contract (name : String) : Contract Req (Cluster × G) where
  good _ _ := True
  mid w := Placed name w.1

instance : Lax (G := G) name (contract name) := ⟨fun _ _ => trivial, fun _ => id⟩

theorem rest_initially {w : Cluster × G} (start : initially g w) : Rest name {} w.1 := by
  have missing := initially_absent start .machineConfig
  refine ⟨⟨fun _ _ _ found => ?_, fun first _ => ?_⟩, .none⟩
  · simp [missing] at found
  · simp [missing] at first

theorem sound (named : ∀ key w, rules.start key w = true → key.name = name) :
    (operator settings monitor rules).Sound (initially g) (contract name) (On (Rest name))
      fun outcome => On (Rest name) outcome.2 :=
  operator_sound (fun key memory w => key.name = name ∧ On (Rest name) memory w)
    (fun _ => On (Rest name)) (fun _ start => rest_initially start)
    (fun key _ w rest allowed => ⟨named key w allowed, rest⟩)
    (fun _ memory w ⟨named, rest⟩ => reconcile_rest named memory w rest)
    (fun _ _ _ rest _ => rest) fun _ placed _ => ⟨placed, .none⟩

theorem placed_of_reachable (named : ∀ key w, rules.start key w = true → key.name = name)
    {phase : Phase Req Response Reconciler Exit} {w : Cluster × G}
    (reached : (operator settings monitor rules).Reachable (initially g) (phase, w)) : Placed name w.1 := by
  have invariant : (operator settings monitor rules).Sound (initially g) (contract name) (On (Rest name))
      fun outcome => On (Rest name) outcome.2 := sound named
  have holds := invariant.holds reached
  cases phase with
  | idle memory => exact holds.placed
  | running program => exact Safe.mid holds

end Executions

end MachineConfigChoice

end SandboxedContainers
