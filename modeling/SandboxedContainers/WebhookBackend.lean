import SandboxedContainers.Runs

/-!
# The admission webhook and its backend

The webhook configuration of peer pods refuses pods when its backend cannot be
reached, so the Deployment and the Service behind it should exist whenever it
does.  `peerPodsCalls` is the system of calls of `enablePeerPodsMiscConfigs` and
`disablePeerPodsMiscConfigs`, in any order and with any of their requests failing.
-/

namespace SandboxedContainers

open Lib Routine

inductive PeerPodsCall where
  | enable
  | disable
  deriving DecidableEq, Repr

def PeerPodsCall.routine (settings : Settings) : PeerPodsCall → Op Err PUnit
  | .enable => enablePeerPodsMiscConfigs settings
  | .disable => disablePeerPodsMiscConfigs settings

def webhookParts (settings : Settings) : List (Kind × Key) :=
  [(.deployment, webhookDeploymentKey settings), (.service, webhookSvcKey settings),
    (.mutatingWebhookConfiguration, webhookConfigKey)]

/-- Calls that run one after the other, each with any reconciler; in between and
meanwhile others change the cluster, but not the webhook.  `allowed` says when a
call may be made. -/
def peerPodsCalls (settings : Settings) (allowed : PeerPodsCall → Cluster → Bool) :
    Controller Req Response Cluster Reconciler (PeerPodsCall × Reconciler) (Except Err PUnit) where
  answer := Answered
  env s s' := ∃ change : Change, (∀ part ∈ webhookParts settings, change.target ≠ some part) ∧
    s' = change.apply s
  body input _ := input.1.routine settings input.2
  boot := {}
  start input s s' := allowed input.1 s = true ∧ s' = s
  finish _ s s' := s' = s
  crash s s' := s' = s

def noWebhook (settings : Settings) (s : Cluster) : Prop :=
  ∀ part ∈ webhookParts settings, s.find? part.1 part.2 = none

/-- A configuration that exists has its Deployment and its Service. -/
def webhookBacked (settings : Settings) (s : Cluster) : Bool :=
  !(s.find? .mutatingWebhookConfiguration webhookConfigKey).isSome ||
    ((s.find? .deployment (webhookDeploymentKey settings)).isSome &&
      (s.find? .service (webhookSvcKey settings)).isSome)

/-- The webhook is not taken down while its configuration exists. -/
def onlyWithoutConfig : PeerPodsCall → Cluster → Bool
  | .enable, _ => true
  | .disable, s => (s.find? .mutatingWebhookConfiguration webhookConfigKey).isNone

namespace WebhookBackend

abbrev system (settings : Settings) := peerPodsCalls settings onlyWithoutConfig

abbrev machine (settings : Settings) : Machine Req Response Cluster := (system settings).toMachine

def contract (settings : Settings) : Contract Req Cluster where
  good _ _ := True
  mid s := webhookBacked settings s = true

def Present (k : Kind) (key : Key) (s : Cluster) : Prop := (s.find? k key).isSome = true

def Unconfigured (s : Cluster) : Prop :=
  s.find? .mutatingWebhookConfiguration webhookConfigKey = none

def Deployed (settings : Settings) (s : Cluster) : Prop :=
  webhookBacked settings s = true ∧ Present .deployment (webhookDeploymentKey settings) s

def Served (settings : Settings) (s : Cluster) : Prop :=
  Present .deployment (webhookDeploymentKey settings) s ∧ Present .service (webhookSvcKey settings) s

theorem Served.backed {settings : Settings} {s : Cluster} (present : Served settings s) :
    webhookBacked settings s = true := by
  have deployment : _ = true := present.1
  have service : _ = true := present.2
  simp [webhookBacked, deployment, service]

theorem Unconfigured.backed {settings : Settings} {s : Cluster} (missing : Unconfigured s) :
    webhookBacked settings s = true := by
  rw [Unconfigured] at missing
  simp [webhookBacked, missing]

def AgreeBut (settings : Settings) (except : Option (Kind × Key)) (s s' : Cluster) : Prop :=
  ∀ part ∈ webhookParts settings, some part ≠ except →
    (s'.find? part.1 part.2).isSome = (s.find? part.1 part.2).isSome

/-- An assertion about which parts of the webhook exist. -/
structure Framed (settings : Settings) (p : Cluster → Prop) : Prop where
  backed : ∀ s, p s → webhookBacked settings s = true
  kept : ∀ s s', AgreeBut settings none s s' → p s → p s'

section Frame

variable {settings : Settings} {p q : Cluster → Prop}

theorem Framed.invariant (framed : Framed settings p) :
    Invariant (machine settings) (contract settings) (World p) := by
  refine world_invariant ?_ framed.backed
  rintro s _ ⟨change, elsewhere, rfl⟩ holds
  refine framed.kept s _ (fun part member _ => ?_) holds
  rw [Change.apply_find?_other (elsewhere part member)]

theorem Framed.admits (framed : Framed settings p) {r : Req}
    (elsewhere : ∀ part ∈ webhookParts settings, r.target ≠ some part) :
    Admits (machine settings) (contract settings) (World p) r := by
  refine fun _ s holds => ⟨trivial, fun _ s' answered => framed.kept s s' (fun part member _ => ?_) holds⟩
  rw [Answered.find?_other answered (elsewhere part member)]

theorem target_elsewhere {r : Req} (other : ∀ k, r.writes = some k → k.isWebhook = false) :
    ∀ part ∈ webhookParts settings, r.target ≠ some part := by
  intro part member same
  have writes : r.writes = some part.1 := by
    cases r <;> cases same <;> rfl
  have webhook : part.1.isWebhook = true := by
    simp only [webhookParts, List.mem_cons, List.not_mem_nil, or_false] at member
    rcases member with rfl | rfl | rfl <;> rfl
  simp [other _ writes] at webhook

theorem Framed.writable (framed : Framed settings p) {k : Kind} (other : k.isWebhook = false) :
    Writable (machine settings) (contract settings) (World p) k := by
  intro r writes
  refine framed.admits (target_elsewhere fun k' writes' => ?_)
  obtain rfl : k = k' := Option.some.inj (writes.symm.trans writes')
  exact other

theorem Framed.lenient (framed : Framed settings p) :
    Lenient (machine settings) (contract settings) (World p) := by
  have invariant := framed.invariant
  refine world_lenient fun r aside => framed.admits (target_elsewhere fun k writes => ?_)
  by_contra webhook
  refine isAside_writes aside ?_ writes
  cases k <;> simp_all [Kind.isWebhook, Kind.isSide]

theorem deployment_isPart : (Kind.deployment, webhookDeploymentKey settings) ∈ webhookParts settings := by
  simp [webhookParts]

theorem service_isPart : (Kind.service, webhookSvcKey settings) ∈ webhookParts settings := by simp [webhookParts]

theorem config_isPart : (Kind.mutatingWebhookConfiguration, webhookConfigKey) ∈ webhookParts settings := by
  simp [webhookParts]

theorem backed_framed : Framed settings fun s => webhookBacked settings s = true := by
  refine ⟨fun _ => id, fun s s' agree backed => ?_⟩
  have deployment := agree _ deployment_isPart (by simp)
  have service := agree _ service_isPart (by simp)
  have config := agree _ config_isPart (by simp)
  simp only at deployment service config
  simpa only [webhookBacked, deployment, service, config] using backed

theorem deployed_framed : Framed settings (Deployed settings) := by
  refine ⟨fun _ deployed => deployed.1, fun s s' agree deployed => ?_⟩
  have deployment := agree _ deployment_isPart (by simp)
  exact ⟨backed_framed.kept s s' agree deployed.1, deployment.trans deployed.2⟩

theorem served_framed : Framed settings (Served settings) := by
  refine ⟨fun _ => Served.backed, fun s s' agree served => ?_⟩
  have deployment := agree _ deployment_isPart (by simp)
  have service := agree _ service_isPart (by simp)
  exact ⟨deployment.trans served.1, service.trans served.2⟩

theorem unconfigured_framed : Framed settings Unconfigured := by
  refine ⟨fun _ => Unconfigured.backed, fun s s' agree missing => ?_⟩
  have config := agree _ config_isPart (by simp)
  simp only [show s.find? .mutatingWebhookConfiguration webhookConfigKey = none from missing] at config
  exact Option.isNone_iff_eq_none.mp (by simpa using config)

instance : Lenient (machine settings) (contract settings)
    (World fun s => webhookBacked settings s = true) := backed_framed.lenient
instance : Lenient (machine settings) (contract settings) (World (Served settings)) :=
  served_framed.lenient
instance : Lenient (machine settings) (contract settings) (World Unconfigured) :=
  unconfigured_framed.lenient

/-- A change that leaves everything but labels, annotations and the body alone. -/
def Dresses {k : Kind} (change : Object k → Object k) : Prop :=
  ∀ object, ∃ labels annotations, (change object).metadata =
    { object.metadata with labels := labels, annotations := annotations }

section Part

variable {k : Kind} {key : Key} {change : Object k → Object k} {s s' : Cluster}

theorem key_dressed (dresses : Dresses change) (object : Object k) :
    (inScope (change object)).key = scopedKey k object.key := by
  obtain ⟨labels, annotations, same⟩ := dresses object
  rw [key_inScope, Object.key, same]
  rfl

theorem agree_but {r : Req} {response : Response r} (answered : Answered s r response s')
    (target : r.target = some (k, key)) : AgreeBut settings (some (k, key)) s s' := by
  intro part _ other
  rw [answered.find?_other fun same => other (same.symm.trans target)]

theorem part_created {object : Object k} {response} (sameKey : object.key = key)
    (answered : Answered s (.create k object) response s') : s' = s ∨ Present k key s' := by
  subst sameKey
  rcases answered.store with rfl | rfl
  · exact .inl rfl
  rcases Store.exec_create_cases (P := Mark) (s := s) object with ⟨_, refused⟩ | ⟨absent, added⟩
  · exact .inl (by rw [refused])
  · refine .inr ?_
    rw [added, Present, Store.find?_insertNew absent]
    rfl

theorem part_accepted {object answer : Object k} (sameKey : object.key = key)
    (answered : Answered s (.create k object) (.ok answer) s') : Present k key s' := by
  subst sameKey
  obtain ⟨absent, _, rfl⟩ := answered.create_ok
  rw [Present, Store.find?_insertNew absent]
  rfl

theorem part_updated {object : Object k} {response} (dresses : Dresses change) (seen : s.Seen object)
    (sameKey : scopedKey k object.key = key) (present : Present k key s)
    (answered : Answered s (.update k (inScope (change object))) response s') :
    AgreeBut settings none s s' ∧ Present k key s' := by
  obtain ⟨labels, annotations, same⟩ := dresses object
  have inPlace := metadata_inScope (change object)
  rw [same] at inPlace
  have present' : Present k key s' :=
    answered.update_present seen (by rw [inPlace]) (by rw [inPlace]) (by rw [inPlace]) present
  refine ⟨fun part member _ => ?_, present'⟩
  by_cases this : part = (k, key)
  · subst this
    exact present'.trans present.symm
  · have target : (Request.update k (inScope (change object)) : Req).target = some (k, key) := by
      simp only [Request.target, key_dressed dresses, sameKey]
    exact agree_but answered target part member fun same => this (Option.some.inj same)

end Part

theorem part_triple {k : Kind} {key : Key} {blank : Kind.Body k} {change : Object k → Object k}
    (framed : Framed settings p) (framed' : Framed settings q) (weaker : ∀ s, q s → p s)
    (isPart : (k, key) ∈ webhookParts settings) (inPlace : scopedKey k key = key)
    (dresses : Dresses change)
    (gained : ∀ s s', AgreeBut settings (some (k, key)) s s' → Present k key s' → p s → q s') :
    Triple (machine settings) (contract settings) (World p)
      (createOrUpdate k key blank fun object => Pure.pure (change object))
      (Onward (World q) fun _ : Except Err PUnit => World p) := by
  have before := framed.invariant
  have after : ∀ result : Except Err PUnit, Invariant (machine settings) (contract settings)
      (Onward (World q) (fun _ : Except Err PUnit => World p) result)
    | .ok _ => framed'.invariant
    | .error _ => framed.invariant
  have holding (object : Object k) : Invariant (machine settings) (contract settings)
      (World fun s => q s ∧ Present k key s ∧ s.Seen object ∧ object.key = key) := by
    refine world_invariant ?_ fun s holds => framed'.backed s holds.1
    rintro s s' step ⟨holds, present, seen, sameKey⟩
    have kept : World q {} s' := framed'.invariant.stable {} step holds
    obtain ⟨change, elsewhere, rfl⟩ := step
    refine ⟨kept, ?_, change.apply_seen seen, sameKey⟩
    rw [Present, Change.apply_find?_other (elsewhere _ isPart)]
    exact present
  refine createOrUpdate_triple
    (F := fun object => World fun s => q s ∧ Present k key s ∧ s.Seen object ∧ object.key = key)
    (fun _ _ _ => trivial) (fun _ _ _ => trivial) (fun _ _ _ _ => trivial) ?_ ?_ (fun _ _ _ => id) ?_
    (fun _ _ _ holds => holds.1) ?_
  · intro memory s object s' holds answered
    obtain ⟨rfl, found⟩ := Answered.get_ok answered
    rw [inPlace] at found
    obtain ⟨member, sameKey⟩ := Collection.find?_mem found
    have present : Present k key s' := by rw [Present, found]; rfl
    exact ⟨gained s' s' (fun _ _ _ => rfl) present holds, present, Store.seen_of_mem member, sameKey⟩
  · intro memory s error s' holds answered
    obtain ⟨rfl, _⟩ := Answered.get_error answered
    exact holds
  · intro memory s response s' holds answered
    have sameKey : (inScope (change ⟨{ name := key.name, ns := key.ns }, blank⟩)).key = key :=
      (key_dressed dresses _).trans inPlace
    have gains (present : Present k key s') : q s' := by
      refine gained s s' (agree_but answered ?_) present holds
      simp only [Request.target, sameKey]
    cases response with
    | ok answer => exact gains (part_accepted sameKey answered)
    | error error =>
      rcases part_created sameKey answered with rfl | present
      · exact holds
      · exact weaker s' (gains present)
  · rintro object memory s response s' ⟨holds, present, seen, sameKey⟩ answered
    have agree : AgreeBut settings none s s' :=
      (part_updated dresses seen (by rw [sameKey, inPlace]) present answered).1
    have kept : q s' := framed'.kept s s' agree holds
    cases response with
    | ok answer => exact kept
    | error error => exact weaker s' kept

end Frame

section Calls

variable {settings : Settings}

theorem createDeployment_triple : Triple (machine settings) (contract settings)
    (World fun s => webhookBacked settings s = true) (createMutatingWebhookDeployment settings)
    (Onward (World (Deployed settings)) fun _ : Except Err PUnit =>
      World fun s => webhookBacked settings s = true) := by
  refine part_triple backed_framed deployed_framed (fun _ deployed => deployed.1)
    (by simp [webhookParts]) rfl (fun object => ⟨_, _, rfl⟩) fun s s' agree present backed => ⟨?_, present⟩
  have service := agree _ service_isPart (by simp)
  have config := agree _ config_isPart (by simp)
  have deployment : _ = true := present
  simp only at service config
  simp only [webhookBacked, deployment, service, config, Bool.or_eq_true, Bool.and_eq_true] at backed ⊢
  exact backed.imp id fun both => ⟨trivial, both.2⟩

theorem createService_triple : Triple (machine settings) (contract settings)
    (World (Deployed settings)) (createMutatingWebhookService settings)
    (Onward (World (Served settings)) fun _ : Except Err PUnit => World (Deployed settings)) := by
  refine part_triple deployed_framed served_framed (fun _ served => ⟨served.backed, served.1⟩)
    (by simp [webhookParts]) rfl (fun object => ⟨_, _, rfl⟩) fun s s' agree present deployed => ⟨?_, present⟩
  have deployment := agree _ deployment_isPart (by simp)
  exact deployment.trans deployed.2

theorem createConfig_triple : Triple (machine settings) (contract settings)
    (World (Served settings)) (createMutatingWebhookConfig settings)
    (Onward (World (Served settings)) fun _ : Except Err PUnit => World (Served settings)) := by
  refine part_triple served_framed served_framed (fun _ => id)
    (by simp [webhookParts]) rfl (fun object => ⟨_, _, rfl⟩) fun s s' agree _ served => ?_
  have deployment := agree _ deployment_isPart (by simp)
  have service := agree _ service_isPart (by simp)
  exact ⟨deployment.trans served.1, service.trans served.2⟩

theorem enable_triple : Maintains (machine settings) (contract settings)
    (World fun s => webhookBacked settings s = true) (enablePeerPodsMiscConfigs settings) := by
  have version : Maintains (machine settings) (contract settings)
      (World fun s => webhookBacked settings s = true) (getConfigMapVersion peerpodsCMName) :=
    versionOf_maintains _ _
  have policies : Maintains (machine settings) (contract settings)
      (World fun s => webhookBacked settings s = true) createPeerPodsWebhookNetworkPolicies :=
    ensureNetworkPolicies_maintains _
  have classes : KeepsClasses settings (machine settings) (contract settings) (World (Served settings)) :=
    world_classes (served_framed.writable rfl)
  refine maintains_bind version fun cmVersion => ?_
  split
  · exact maintains_throw _
  · rename_i version
    refine maintains_bind (createOrUpdate_maintains (backed_framed.writable rfl) _ _ fun ds => ?_) fun _ => ?_
    · exact maintains_bind (configureCAA_maintains settings ds _) fun configured =>
        maintains_bind (configureCAAProvider_maintains configured) fun _ => setControllerReference_maintains _
    refine maintains_bind policies fun _ => ?_
    refine Triple.andThen createDeployment_triple fun _ => ?_
    refine Triple.bind createService_triple (fun _ => ?_) fun _ _ _ deployed => deployed.1
    refine Triple.bind createConfig_triple (fun _ => ?_) fun _ _ _ served => served.backed
    exact (classes.create _).post fun _ _ _ served => Served.backed served

theorem unconfigured_deletable (k : Kind) :
    Deletable (machine settings) (contract settings) (World Unconfigured) k :=
  fun key _ s missing => ⟨trivial, fun _ _ answered => Answered.absent answered missing (by simp)⟩

theorem disable_triple : Maintains (machine settings) (contract settings) (World Unconfigured)
    (disablePeerPodsMiscConfigs settings) := by
  have delete (k : Kind) (key : Key) : Triple (machine settings) (contract settings)
      (World Unconfigured) (deleteIfPresent k key)
      (Onward (World Unconfigured) fun _ : Except Err PUnit => World Unconfigured) :=
    (deleteIfPresent_maintains (unconfigured_deletable k) key).steadily
  exact disablePeerPodsMiscConfigs_triple settings (delete _ _) (delete _ _) (delete _ _) (delete _ _)
    fun _ _ _ => id

theorem call_triple (call : PeerPodsCall) : Triple (machine settings) (contract settings)
    (World fun s => webhookBacked settings s = true ∧ onlyWithoutConfig call s = true)
    (call.routine settings) fun _ => World fun s => webhookBacked settings s = true := by
  cases call with
  | enable => exact enable_triple.given
  | disable =>
    refine (disable_triple.pre ?_).post fun _ _ _ missing => Unconfigured.backed missing
    exact fun _ _ holds => Option.isNone_iff_eq_none.mp holds.2

end Calls

theorem sound (settings : Settings) : (system settings).Sound (noWebhook settings) (contract settings)
      (fun _ s => webhookBacked settings s = true) fun _ s => webhookBacked settings s = true where
  init s missing := by
    have config : Unconfigured s :=
      missing (.mutatingWebhookConfiguration, webhookConfigKey) (by simp [webhookParts])
    exact config.backed
  env _ := backed_framed.invariant.stable {}
  body := by
    rintro ⟨call, memory⟩ _ _ s backed ⟨allowed, rfl⟩
    exact call_triple call memory s ⟨backed, allowed⟩
  finish := by
    rintro _ _ s _ backed rfl
    exact backed
  crash := by
    rintro _ s _ backed rfl
    exact backed
  killed := by
    rintro s _ backed rfl
    exact backed

end WebhookBackend

/-- As long as the webhook is not taken down while its configuration exists, that
configuration has its backend at every moment. -/
theorem webhook_backed (settings : Settings) {phase : Phase Req Response Reconciler (Except Err PUnit)}
    {s : Cluster}
    (reached : (peerPodsCalls settings onlyWithoutConfig).Reachable (noWebhook settings) (phase, s)) :
    webhookBacked settings s = true := by
  have holds := (WebhookBackend.sound settings).holds reached
  cases phase with
  | idle memory => exact holds
  | running program => exact Safe.mid holds

def peerPodsCallsPlayer (settings : Settings) (allowed : PeerPodsCall → Cluster → Bool) :
    (peerPodsCalls settings allowed).Player Fault Change where
  start input s := if allowed input.1 s then some s else none
  answer fault s r := fault.answer s r
  finish _ s := some s
  crash s := some s
  env change s :=
    if ∀ part ∈ webhookParts settings, change.target ≠ some part then some (change.apply s) else none
  start_sound started := by
    obtain ⟨permitted, same⟩ := Option.ite_none_right_eq_some.mp started
    exact ⟨permitted, (Option.some.inj same).symm⟩
  answer_sound := Fault.answer_sound
  finish_sound finished := (Option.some.inj finished).symm
  crash_sound crashed := (Option.some.inj crashed).symm
  env_sound changed := by
    obtain ⟨elsewhere, same⟩ := Option.ite_none_right_eq_some.mp changed
    exact ⟨_, elsewhere, (Option.some.inj same).symm⟩

def playPeerPodsCalls (allowed : PeerPodsCall → Cluster → Bool)
    (script : List (Controller.Act (PeerPodsCall × Reconciler) Fault Change)) :=
  (peerPodsCallsPlayer plainSettings allowed).play (.idle {}, .empty fun _ => true) script

theorem playPeerPodsCalls_reachable (allowed : PeerPodsCall → Cluster → Bool)
    (script : List (Controller.Act (PeerPodsCall × Reconciler) Fault Change)) (check : Cluster → Bool)
    (ends : (playPeerPodsCalls allowed script).any (fun state => check state.2) = true) :
    ∃ phase s, (peerPodsCalls plainSettings allowed).Reachable (noWebhook plainSettings) (phase, s) ∧
      check s = true := by
  obtain ⟨⟨phase, s⟩, played, passes⟩ := (Option.any_eq_true _ _).mp ends
  exact ⟨_, _, Controller.Player.play_reachable _ (.boot fun _ _ => rfl) played, passes⟩

def peerPodsEnabled : List (Controller.Act (PeerPodsCall × Reconciler) Fault Change) :=
  [.env (.request (.create .configMap ⟨{ name := peerpodsCMName, ns := operatorNamespace },
      show ConfigMapBody from ⟨none⟩⟩)),
    .env (.request (.create .infrastructure ⟨{ name := "cluster" }, show Option String from some "None"⟩)),
    .start (.enable, { kataConfig := some exampleKataConfig })] ++
  List.replicate 29 (.answer .served) ++ [.finish]

/-- The webhook is set up, and is backed. -/
theorem webhook_backed_enabled : ∃ s : Cluster,
    (s.find? .mutatingWebhookConfiguration webhookConfigKey).isSome = true ∧
    webhookBacked plainSettings s = true := by
  obtain ⟨phase, s, reached, configured⟩ := playPeerPodsCalls_reachable onlyWithoutConfig peerPodsEnabled
    (fun s => (s.find? .mutatingWebhookConfiguration webhookConfigKey).isSome) (by decide +kernel)
  exact ⟨s, configured, webhook_backed plainSettings reached⟩

/-- The webhook is taken down, and its Deployment is gone before its configuration. -/
theorem webhook_outlives_backend : ∃ phase s,
    (peerPodsCalls plainSettings fun _ _ => true).Reachable (noWebhook plainSettings) (phase, s) ∧
    (!webhookBacked plainSettings s) = true :=
  playPeerPodsCalls_reachable (fun _ _ => true)
    (peerPodsEnabled ++ [.start (.disable, { kataConfig := some exampleKataConfig }),
      .answer .served, .answer .served])
    (fun s => !webhookBacked plainSettings s) (by decide +kernel)

end SandboxedContainers
