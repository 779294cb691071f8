import SandboxedContainers.ServerReads
import SandboxedContainers.StatusLists

/-!
# The order of the proxy variables

`getEffectiveProxyEnvVars` appends the entries of a map in the order in which a
`range` statement visits them, and Go leaves that order open.  The pod template of
the cloud-api-adaptor DaemonSet takes the list as it comes.
-/

namespace SandboxedContainers

open Lib Routine

namespace ProxyOrder

def swapped : IterationOrder where
  visit
    | first :: second :: rest => second :: first :: rest
    | entries => entries
  perm
    | [] => .refl _
    | [_] => .refl _
    | first :: second :: rest => .swap first second rest

/-! ### The variables -/

/-- There is no entry, or there are two different ones to begin with: a proxy is passed
on under two names. -/
def Paired (entries : List (String × String)) : Prop :=
  entries = [] ∨ ∃ first second rest, entries = first :: second :: rest ∧ first ≠ second

theorem Paired.append {entries more : List (String × String)} (paired : Paired entries)
    (pairedMore : Paired more) : Paired (entries ++ more) := by
  rcases paired with rfl | ⟨first, second, rest, rfl, differ⟩
  · exact pairedMore
  · exact .inr ⟨first, second, rest ++ more, rfl, differ⟩

theorem paired_proxyEntries {canonical lower : String} (value : String) (differ : canonical ≠ lower) :
    Paired (proxyEntries canonical lower value) := by
  unfold proxyEntries
  split
  · exact .inl rfl
  · exact .inr ⟨_, _, [], rfl, fun same => differ (congrArg Prod.fst same)⟩

theorem paired_overlay {earlier later : List (String × String)} (distinct : earlier.Nodup)
    (pairedEarlier : Paired earlier) (pairedLater : Paired later) : Paired (overlay earlier later) := by
  unfold overlay
  rcases pairedLater with rfl | ⟨first, second, rest, rfl, differ⟩
  · simpa using pairedEarlier
  · have distinctKept := distinct.filter fun entry =>
      !(first :: second :: rest).any fun newer => newer.1 = entry.1
    -- An entry that is kept has a name that no later one has.
    cases kept : earlier.filter fun entry => !(first :: second :: rest).any fun newer => newer.1 = entry.1 with
    | nil => exact .inr ⟨first, second, rest, rfl, differ⟩
    | cons entry others =>
      rw [kept] at distinctKept
      cases others with
      | nil =>
        have member : entry ∈ earlier.filter fun entry =>
            !(first :: second :: rest).any fun newer => newer.1 = entry.1 := kept ▸ List.mem_cons_self
        refine .inr ⟨entry, first, second :: rest, rfl, ?_⟩
        rintro rfl
        simp at member
      | cons other others =>
        refine .inr ⟨entry, other, others ++ first :: second :: rest, rfl, ?_⟩
        rintro rfl
        simp at distinctKept

theorem overlay_eq_nil_iff {earlier later : List (String × String)} :
    overlay earlier later = [] ↔ earlier = [] ∧ later = [] := by
  unfold overlay
  constructor
  · intro empty
    obtain ⟨kept, rfl⟩ := List.append_eq_nil_iff.mp empty
    exact ⟨by simpa using kept, rfl⟩
  · rintro ⟨rfl, rfl⟩
    rfl

def clusterEntries (proxy : ProxyBody) : List (String × String) :=
  proxyEntries "HTTP_PROXY" "http_proxy" proxy.httpProxy ++
    proxyEntries "HTTPS_PROXY" "https_proxy" proxy.httpsProxy ++
    proxyEntries "NO_PROXY" "no_proxy" (if proxy.statusNoProxy = "" then proxy.noProxy else proxy.statusNoProxy)

theorem paired_clusterEntries (proxy : ProxyBody) : Paired (clusterEntries proxy) :=
  ((paired_proxyEntries _ (by decide)).append (paired_proxyEntries _ (by decide))).append
    (paired_proxyEntries _ (by decide))

theorem nodup_clusterEntries (proxy : ProxyBody) : (clusterEntries proxy).Nodup := by
  unfold clusterEntries
  generalize (if proxy.statusNoProxy = "" then proxy.noProxy else proxy.statusNoProxy) = noProxy
  unfold proxyEntries
  split <;> split <;> split <;> simp

def NoProxy (proxy : ProxyBody) : Prop :=
  proxy.httpProxy = "" ∧ proxy.httpsProxy = "" ∧ proxy.statusNoProxy = "" ∧ proxy.noProxy = ""

theorem clusterEntries_eq_nil_iff {proxy : ProxyBody} : clusterEntries proxy = [] ↔ NoProxy proxy := by
  have unset {canonical lower value : String} : proxyEntries canonical lower value = [] ↔ value = "" := by
    unfold proxyEntries
    split <;> simp_all
  unfold clusterEntries NoProxy
  simp only [List.append_eq_nil_iff, unset, and_assoc]
  by_cases status : proxy.statusNoProxy = "" <;> simp [status]

def proxyVariables : List String := ["HTTP_PROXY", "HTTPS_PROXY", "NO_PROXY"]

section Environment

variable (settings : Settings)

def environmentEntries (settings : Settings) (canonical lower : String) : List (String × String) :=
  match settings.lookupEnv canonical with
  | none => []
  | some value => [(canonical, value), (lower, value)]

theorem getProxyEnvVars_eq : getProxyEnvVars settings =
    environmentEntries settings "HTTP_PROXY" "http_proxy" ++
      (environmentEntries settings "HTTPS_PROXY" "https_proxy" ++
        (environmentEntries settings "NO_PROXY" "no_proxy" ++ [])) := rfl

theorem paired_getProxyEnvVars : Paired (getProxyEnvVars settings) := by
  have one {canonical lower : String} (differ : canonical ≠ lower) :
      Paired (environmentEntries settings canonical lower) := by
    unfold environmentEntries
    cases settings.lookupEnv canonical with
    | none => exact .inl rfl
    | some value => exact .inr ⟨_, _, [], rfl, fun same => differ (congrArg Prod.fst same)⟩
  rw [getProxyEnvVars_eq]
  exact (one (by decide)).append ((one (by decide)).append ((one (by decide)).append (.inl rfl)))

theorem getProxyEnvVars_eq_nil_iff :
    getProxyEnvVars settings = [] ↔ ∀ name ∈ proxyVariables, settings.lookupEnv name = none := by
  have unset {canonical lower : String} :
      environmentEntries settings canonical lower = [] ↔ settings.lookupEnv canonical = none := by
    unfold environmentEntries
    cases settings.lookupEnv canonical <;> simp
  rw [getProxyEnvVars_eq, proxyVariables]
  simp only [List.append_nil, List.append_eq_nil_iff, List.forall_mem_cons, List.not_mem_nil, false_implies,
    implies_true, and_true]
  exact and_congr unset (and_congr unset unset)

end Environment

/-! ### The template -/

structure CAAInputs where
  nodeSelector : List (String × String)
  fromCluster : List (String × String)
  trustedCA : Option (Volume × VolumeMount)

def caaInputs : Op Err CAAInputs := do
  let nodeSelector ← getNodeSelectorAsMap
  let fromCluster ← getProxyCREnvVars
  let trustedCA ← generateTrustedCAVolumeConfig
  return ⟨nodeSelector, fromCluster, trustedCA⟩

section Template

variable (settings : Settings) (ds : DaemonSet) (cmVersion : String)

def mount (volume : Option (Volume × VolumeMount)) (ds : DaemonSet) : DaemonSet :=
  match volume with
  | none => ds
  | some (volume, volumeMount) => mountVolume volume volumeMount ds

/-- What `configureCAA` makes of it, with the proxy variables in a given order. -/
def caaDaemonSet (inputs : CAAInputs) (entries : List (String × String)) : DaemonSet :=
  mount inputs.trustedCA ⟨ds.metadata, show PodTemplate from
    { labels := [("name", caaDsName)]
      annotations := [(peerpodsCMName ++ "/version", cmVersion)]
      serviceAccountName := "default"
      nodeSelector := StrMap.ofList inputs.nodeSelector
      containers := [
        { name := "caa-pod"
          image := settings.getenv "RELATED_IMAGE_CAA"
          command := ["/usr/local/bin/entrypoint.sh"]
          env := entries.map (fun entry => ⟨entry.1, entry.2⟩) ++ [⟨"NODE_NAME", "spec.nodeName"⟩] ++
            tlsEnvVars settings
          volumeMounts := caaVolumeMounts }]
      volumes := caaVolumes }⟩

/-- The order of the iteration has a say in the list of variables only. -/
theorem configureCAA_eq (order : IterationOrder) :
    configureCAA (settings.ranging order) ds cmVersion = caaInputs >>= fun inputs =>
      Pure.pure (caaDaemonSet settings ds cmVersion inputs
        (order.visit (overlay inputs.fromCluster (getProxyEnvVars settings)))) := by
  unfold configureCAA getEffectiveProxyEnvVars caaInputs
  simp only [Routine.bind_assoc]
  refine congrArg (getNodeSelectorAsMap >>= ·) (funext fun nodeSelector => ?_)
  refine congrArg (getProxyCREnvVars >>= ·) (funext fun fromCluster => ?_)
  refine congrArg (generateTrustedCAVolumeConfig >>= ·) (funext fun trustedCA => ?_)
  rcases trustedCA with _ | ⟨volume, volumeMount⟩ <;> rfl

def envOf (template : PodTemplate) : List (List EnvVar) := template.containers.map Container.env

theorem envOf_mount (volume : Option (Volume × VolumeMount)) :
    envOf (templateOf (mount volume ds)) = envOf (templateOf ds) := by
  rcases volume with _ | ⟨volume, volumeMount⟩
  · rfl
  · have mounted (containers : List Container) : (ImageGenerator.mapFirst (fun container =>
        { container with volumeMounts := container.volumeMounts ++ [volumeMount] }) containers).map Container.env =
          containers.map Container.env := by
      cases containers <;> rfl
    exact mounted _

theorem envOf_caaDaemonSet (inputs : CAAInputs) (entries : List (String × String)) :
    envOf (templateOf (caaDaemonSet settings ds cmVersion inputs entries)) =
      [entries.map (fun entry => ⟨entry.1, entry.2⟩) ++ [⟨"NODE_NAME", "spec.nodeName"⟩] ++ tlsEnvVars settings] :=
  envOf_mount _ _

theorem envOf_injective (inputs : CAAInputs) : Function.Injective fun entries =>
    envOf (templateOf (caaDaemonSet settings ds cmVersion inputs entries)) := by
  intro entries others same
  simp only [envOf_caaDaemonSet, List.cons.injEq, and_true, List.append_cancel_right_eq] at same
  refine List.map_injective_iff.mpr ?_ same
  rintro ⟨name, value⟩ ⟨name', value'⟩ ⟨⟩
  rfl

end Template

section Evaluation

variable (s : Cluster)

def clusterProxy : Except Err (List (String × String)) :=
  if s.served .proxy then
    .ok (((s.find? .proxy ⟨"", "cluster"⟩).map fun found => clusterEntries (proxyOf found)).getD [])
  else .error (.api Store.noMatch)

theorem steady_getProxyCREnvVars : Steady Store.exec s getProxyCREnvVars (clusterProxy s) := by
  unfold getProxyCREnvVars clusterProxy
  cases serves : s.served .proxy with
  | false =>
    exact (steady_clientGet_unserved (k := .proxy) _ serves).attempt.bind (steady_throw _)
  | true =>
    cases found : s.find? .proxy ⟨"", "cluster"⟩ with
    | none => exact (steady_clientGet_absent (k := .proxy) ⟨"", "cluster"⟩ serves found).attempt.bind (steady_pure _)
    | some proxy =>
      exact (steady_clientGet_exec (k := .proxy) ⟨"", "cluster"⟩ serves found).attempt.bind (steady_pure _)

theorem stops_generateTrustedCAVolumeConfig :
    Stops (fun _ : Err => False) (generateTrustedCAVolumeConfig : Op Err (Option (Volume × VolumeMount))) := by
  refine (stops_attempt _).bind fun answer => ?_
  cases answer <;> grind

theorem caaInputs_eval (memory : Reconciler) : match clusterProxy s with
    | .error error => caaInputs.result Store.exec memory s = .error error
    | .ok fromCluster => ∃ inputs, caaInputs.result Store.exec memory s = .ok inputs ∧
        inputs.fromCluster = fromCluster := by
  have proxy := steady_getProxyCREnvVars s
  cases known : clusterProxy s with
  | error error =>
    rw [known] at proxy
    exact ((steady_getNodeSelectorAsMap s).bind (proxy.bind_error _)).result_eq memory
  | ok fromCluster =>
    rw [known] at proxy
    rcases evaluated : (generateTrustedCAVolumeConfig : Op Err _).eval Store.exec memory s with
      ⟨⟨error | trustedCA, memory'⟩, s'⟩
    · have never := stops_generateTrustedCAVolumeConfig memory
      obtain ⟨log, runs⟩ := Prog.runs_eval (fun _ _ _ _ => True) Store.exec
        (fun _ _ => trivial) ((generateTrustedCAVolumeConfig : Op Err _) memory) s
      exact (never.runs runs error (congrArg (fun ended => ended.1.1) evaluated)).elim
    · refine ⟨⟨[(kataNodeLabel s, "")], fromCluster, trustedCA⟩, ?_, rfl⟩
      unfold caaInputs Routine.result
      rw [eval_bind_ok (steady_getNodeSelectorAsMap s memory), eval_bind_ok (proxy memory),
        eval_bind_ok evaluated]
      rfl

def Unproxied (settings : Settings) : Prop :=
  (∀ name ∈ proxyVariables, settings.lookupEnv name = none) ∧
    ∀ found, s.find? .proxy ⟨"", "cluster"⟩ = some found → NoProxy (proxyOf found)

theorem clusterProxy_ok {fromCluster : List (String × String)} (known : clusterProxy s = .ok fromCluster) :
    s.served .proxy = true ∧
      fromCluster = ((s.find? .proxy ⟨"", "cluster"⟩).map fun found => clusterEntries (proxyOf found)).getD [] := by
  unfold clusterProxy at known
  split at known
  · next serves =>
    cases known
    exact ⟨serves, rfl⟩
  · cases known

theorem clusterProxy_error {error : Err} (known : clusterProxy s = .error error) : s.served .proxy = false := by
  unfold clusterProxy at known
  split at known
  · cases known
  · next unserved => exact Bool.eq_false_iff.mpr unserved

variable {s} {fromCluster : List (String × String)}

theorem overlay_eq_nil_iff_unproxied (settings : Settings) (known : clusterProxy s = .ok fromCluster) :
    overlay fromCluster (getProxyEnvVars settings) = [] ↔ Unproxied s settings := by
  obtain ⟨_, rfl⟩ := clusterProxy_ok s known
  rw [overlay_eq_nil_iff, getProxyEnvVars_eq_nil_iff, and_comm, Unproxied]
  apply and_congr_right'
  cases s.find? .proxy ⟨"", "cluster"⟩ with
  | none => simp
  | some found => simp [clusterEntries_eq_nil_iff]

theorem paired_effective (settings : Settings) (known : clusterProxy s = .ok fromCluster) :
    Paired (overlay fromCluster (getProxyEnvVars settings)) := by
  obtain ⟨_, rfl⟩ := clusterProxy_ok s known
  cases s.find? .proxy ⟨"", "cluster"⟩ with
  | none => exact paired_overlay List.nodup_nil (.inl rfl) (paired_getProxyEnvVars settings)
  | some found =>
    exact paired_overlay (nodup_clusterEntries _) (paired_clusterEntries _) (paired_getProxyEnvVars settings)

end Evaluation

theorem visits_agree_iff {entries : List (String × String)} (paired : Paired entries) :
    (∀ order order' : IterationOrder, order.visit entries = order'.visit entries) ↔ entries = [] := by
  constructor
  · intro agree
    rcases paired with empty | ⟨first, second, rest, rfl, differ⟩
    · exact empty
    · have same := agree inOrder swapped
      exact absurd (List.cons.inj same).1 differ
  · rintro rfl order order'
    rw [(order.perm []).eq_nil, (order'.perm []).eq_nil]

section Reproduction

variable (settings : Settings) (memory : Reconciler) (s : Cluster) (cmVersion : String)

def caaTemplate (ds : DaemonSet) (order : IterationOrder) : Except Err PodTemplate :=
  ((configureCAA (settings.ranging order) ds cmVersion).result Store.exec memory s).map templateOf

def caaMutate (order : IterationOrder) (ds : DaemonSet) : Op Err DaemonSet := do
  setControllerReference (← configureCAAProvider (← configureCAA (settings.ranging order) ds cmVersion))

def caaCreateOrUpdate (order : IterationOrder) : Op Err PUnit :=
  createOrUpdate .daemonSet (caaKey settings) (show PodTemplate from {}) (caaMutate settings cmVersion order)

/-- It is the call by which `enablePeerPodsMiscConfigs` deploys the cloud-api-adaptor. -/
theorem enablePeerPodsMiscConfigs_ranging (order : IterationOrder) : ∃ rest : Op Err PUnit,
    enablePeerPodsMiscConfigs (settings.ranging order) = getConfigMapVersion peerpodsCMName >>= fun
      | none => Routine.throw (.new ("peer pod configmap " ++ peerpodsCMName ++ " missing"))
      | some cmVersion => caaCreateOrUpdate settings (toString cmVersion) order >>= fun _ => rest :=
  ⟨_, rfl⟩

theorem caaTemplate_eq (ds : DaemonSet) (order : IterationOrder) :
    caaTemplate settings memory s cmVersion ds order =
      (caaInputs.result Store.exec memory s).map fun inputs =>
        templateOf (caaDaemonSet settings ds cmVersion inputs
          (order.visit (overlay inputs.fromCluster (getProxyEnvVars settings)))) := by
  unfold caaTemplate Routine.result
  rw [configureCAA_eq]
  rcases evaluated : caaInputs.eval Store.exec memory s with ⟨⟨error | inputs, memory'⟩, s'⟩
  · rw [eval_bind_error evaluated]
    rfl
  · rw [eval_bind_ok evaluated]
    rfl

theorem templates_agree_iff (ds : DaemonSet) :
    (∀ order order', caaTemplate settings memory s cmVersion ds order =
        caaTemplate settings memory s cmVersion ds order') ↔ s.served .proxy = false ∨ Unproxied s settings := by
  have inputsOf := caaInputs_eval s memory
  simp only [caaTemplate_eq]
  cases known : clusterProxy s with
  | error error =>
    simp only [known] at inputsOf
    simp [inputsOf, Except.map, clusterProxy_error s known]
  | ok fromCluster =>
    simp only [known] at inputsOf
    obtain ⟨inputs, result, rfl⟩ := inputsOf
    have serves := (clusterProxy_ok s known).1
    rw [result, ← overlay_eq_nil_iff_unproxied settings known, ← visits_agree_iff (paired_effective settings known)]
    simp only [serves, Bool.true_eq_false, false_or]
    refine forall₂_congr fun order order' => ⟨fun same => ?_, fun same => ?_⟩
    · exact envOf_injective settings ds cmVersion inputs (congrArg envOf (Except.ok.inj same))
    · simp only [Except.map, same]

end Reproduction

/-! ### The next reconcile -/

section Again

variable {settings : Settings} {cmVersion : String} {order : IterationOrder} {memory memory' : Reconciler}
  {s s' : Cluster} {ds : DaemonSet} {log : List Exchange}

/-- A DaemonSet with another owner, and without the fields that the server fills in. -/
structure Bare (ds built : DaemonSet) : Prop where
  metadata : ∃ references, built.metadata = { ds.metadata with ownerReferences := references }
  template : (templateOf built).restartPolicy = ""

theorem Bare.key {built : DaemonSet} (bare : Bare ds built) : (inScope built).key = ds.key := by
  obtain ⟨⟨_, metadata⟩, _⟩ := bare
  change built.key = ds.key
  rw [Object.key, metadata]
  rfl

theorem bare_mount (volume : Option (Volume × VolumeMount)) {built : DaemonSet} (bare : Bare ds built) :
    Bare ds (mount volume built) := by
  obtain ⟨metadata, template⟩ := bare
  rcases volume with _ | ⟨volume, volumeMount⟩
  · exact ⟨metadata, template⟩
  · exact ⟨metadata, template⟩

theorem configureCAAProvider_yields {built : DaemonSet} (bare : Bare ds built) :
    Yields (Bare ds) (configureCAAProvider built) := by
  have mounted (volume : Volume) (volumeMount : VolumeMount) : Bare ds (mountVolume volume volumeMount built) :=
    bare_mount (some (volume, volumeMount)) bare
  have token : Yields (Bare ds) (isClusterInTokenBasedAuthMode >>= fun tokenBased =>
      if tokenBased then Pure.pure (addBoundSATokenVolume built) else Pure.pure built : Op Err DaemonSet) := by
    refine yields_bind fun tokenBased => ?_
    cases tokenBased with
    | false => exact yields_pure bare
    | true => exact yields_pure (mounted _ _)
  refine yields_bind fun provider => ?_
  split
  · exact yields_pure (mounted _ _)
  · exact token
  · exact token
  · exact token
  · exact yields_pure bare

theorem caaMutate_yields : Yields (Bare ds) (caaMutate settings cmVersion order ds) := by
  have configured : Yields (Bare ds) (configureCAA (settings.ranging order) ds cmVersion) := by
    rw [configureCAA_eq]
    exact yields_bind fun inputs => yields_pure (bare_mount _ ⟨⟨_, rfl⟩, rfl⟩)
  refine configured.bind fun built bare => (configureCAAProvider_yields bare).bind fun built bare => ?_
  obtain ⟨⟨_, metadata⟩, template⟩ := bare
  exact setControllerReference_yields fun references => ⟨⟨references, by rw [metadata]⟩, template⟩

/-- The server has filled in the fields. -/
def Admitted (settings : Settings) (s : Cluster) : Prop :=
  ∀ stored : DaemonSet, s.find? .daemonSet (caaKey settings) = some stored → (templateOf stored).restartPolicy ≠ ""

theorem restartPolicy_defaulted (template : PodTemplate) : template.defaulted.restartPolicy ≠ "" := by
  unfold PodTemplate.defaulted withDefault
  dsimp only
  split
  · decide
  · assumption

/-- The DaemonSet is stored, with these fields. -/
def Deployed (settings : Settings) (s : Cluster) : Prop :=
  ∃ stored : DaemonSet, s.find? .daemonSet (caaKey settings) = some stored ∧ (templateOf stored).restartPolicy ≠ ""

theorem Deployed.admitted (deployed : Deployed settings s) : Admitted settings s := by
  obtain ⟨stored, found, filled⟩ := deployed
  intro other same
  cases found.symm.trans same
  exact filled

theorem Bare.created {built answer : DaemonSet} (bare : Bare ds built) (key : ds.key = caaKey settings)
    (accepted : Answered s (.create .daemonSet (inScope built)) (.ok answer) s') : Deployed settings s' := by
  obtain ⟨vacant, _, rfl⟩ := accepted.create_ok
  have found := Store.find?_insertNew vacant
  rw [bare.key, key] at found
  exact ⟨_, found, restartPolicy_defaulted _⟩

theorem Bare.updated {built answer : DaemonSet} (bare : Bare ds built) (key : ds.key = caaKey settings)
    (seen : s.Seen ds) (accepted : Answered s (.update .daemonSet (inScope built)) (.ok answer) s') : Deployed settings s' := by
  obtain ⟨stored, present, current, _, rfl⟩ := accepted.update_ok
  rw [bare.key, key] at present
  obtain ⟨_, metadata⟩ := bare.metadata
  obtain rfl : stored = ds := seen.eq_of_not_stale (Collection.find?_mem present).1 current
    (congrArg ObjectMeta.uid metadata :) (congrArg ObjectMeta.resourceVersion metadata :)
  have kept : (s.settle (Store.updated stored (inScope built))).find? .daemonSet (caaKey settings) = some _ :=
    Store.find?_settle_kept present (bare.key.trans key) rfl (congrArg ObjectMeta.finalizers metadata :) rfl
  exact ⟨_, kept, restartPolicy_defaulted _⟩

theorem caaCreateOrUpdate_runs (admitted : Admitted settings s)
    (runs : Prog.Runs Answered (caaCreateOrUpdate settings cmVersion order memory) s log (.ok ⟨⟩, memory') s') :
    Deployed settings s' ∧
      (Deployed settings s → ∃ object answer, ⟨.update .daemonSet object, answer⟩ ∈ log) := by
  obtain ⟨response, between, rest, answered, rfl, goes⟩ := attempt_call_runs (.get .daemonSet (caaKey settings)) id runs
  replace goes := goes _ rfl
  cases response with
  | error error =>
    dsimp only [id, Except.mapError] at goes
    split at goes
    · next missing =>
      obtain ⟨rfl, absent⟩ := answered.get_notFound (by simpa [Err.isNotFound, Err.reason?] using missing)
      obtain ⟨object, _, s₁, _, _, mutated, creates, rfl⟩ := of_runs_bind goes
      have bare : Bare _ object := (caaMutate_yields _).runs mutated object rfl
      obtain ⟨_, _, _, _, _, created, done, rfl⟩ := of_runs_bind creates
      obtain ⟨answer, accepted, rfl, ended⟩ := call_runs (.create .daemonSet (inScope object)) id created
      cases done
      cases answer with
      | error error => cases ended
      | ok answer =>
        refine ⟨bare.created rfl accepted, ?_⟩
        rintro ⟨_, present, _⟩
        cases absent.symm.trans present
    · cases goes
  | ok existing =>
    obtain ⟨rfl, found⟩ := answered.get_ok
    obtain ⟨member, key⟩ := Collection.find?_mem found
    obtain ⟨object, _, s₁, _, _, mutated, compares, rfl⟩ := of_runs_bind goes
    have bare : Bare existing object := (caaMutate_yields _).runs mutated object rfl
    have differs : ¬(object.metadata = existing.metadata ∧ object.body = existing.body) := by
      rintro ⟨_, same⟩
      apply admitted existing found
      rw [← bare.template]
      exact congrArg PodTemplate.restartPolicy same.symm
    rw [if_neg differs] at compares
    obtain ⟨_, _, _, _, _, updated, done, rfl⟩ := of_runs_bind compares
    obtain ⟨answer, accepted, rfl, ended⟩ := call_runs (.update .daemonSet (inScope object)) id updated
    cases done
    cases answer with
    | error error => cases ended
    | ok answer =>
      have seen : s₁.Seen existing :=
        mutated.stable (p := fun s => s.Seen existing) Answered.seen (Store.seen_of_mem member)
      exact ⟨bare.updated key seen accepted, fun _ => ⟨inScope object, .ok answer, by simp⟩⟩

end Again

end ProxyOrder

open ProxyOrder

/-- The template of the cloud-api-adaptor pods is the same in every order of iteration
exactly if no proxy is set, or the cluster has no proxies at all and nothing is built.
But in whatever orders two calls are made, if both get through then the second one sends an
update: the server has filled in fields that the operator leaves out of the template. -/
theorem caaTemplate_reproducible_iff (settings : Settings) (memory : Reconciler) (s : Cluster)
    (ds : DaemonSet) (cmVersion : String) :
    ((∀ order order', caaTemplate settings memory s cmVersion ds order =
        caaTemplate settings memory s cmVersion ds order') ↔
      s.served .proxy = false ∨ Unproxied s settings) ∧
    ∀ order order' memory₁ memory₂ s₁ s₂ first second,
      (∀ stored : DaemonSet, s.find? .daemonSet (caaKey settings) = some stored →
        (templateOf stored).defaulted = templateOf stored) →
      Prog.Runs Answered (caaCreateOrUpdate settings cmVersion order memory) s first (.ok ⟨⟩, memory₁) s₁ →
      Prog.Runs Answered (caaCreateOrUpdate settings cmVersion order' memory₁) s₁ second (.ok ⟨⟩, memory₂) s₂ →
      ∃ object answer, ⟨.update .daemonSet object, answer⟩ ∈ second := by
  refine ⟨templates_agree_iff settings memory s cmVersion ds, ?_⟩
  intro order order' memory₁ memory₂ s₁ s₂ first second defaulted runs again
  have admitted : Admitted settings s := fun stored found => by
    rw [← defaulted stored found]
    exact restartPolicy_defaulted _
  obtain ⟨deployed, _⟩ := caaCreateOrUpdate_runs admitted runs
  obtain ⟨_, updates⟩ := caaCreateOrUpdate_runs deployed.admitted again
  exact updates deployed

def proxiedCluster : Cluster :=
  clusterOf [.create .kataConfig exampleKataConfig,
    .create .proxy ⟨{ name := "cluster" }, show ProxyBody from { httpProxy := "http://proxy" }⟩,
    .create .infrastructure ⟨{ name := "cluster" }, show Option String from some "None"⟩]

def proxiedMemory : Reconciler := { kataConfig := some exampleKataConfig }

def configuredCluster : Cluster :=
  ((caaCreateOrUpdate plainSettings "1" inOrder).eval Store.exec proxiedMemory proxiedCluster).2

theorem caaTemplate_reproducible_proxied : ∃ log memory s,
    Prog.Runs Answered (caaCreateOrUpdate plainSettings "1" inOrder proxiedMemory) configuredCluster log
      (.ok ⟨⟩, memory) s ∧ ∃ object answer, ⟨.update .daemonSet object, answer⟩ ∈ log := by
  have honest (s : Cluster) (r : Req) : Answered s r (s.exec r).1 (s.exec r).2 := .inl rfl
  obtain ⟨first, runs⟩ := Prog.runs_eval Answered Store.exec honest
    (caaCreateOrUpdate plainSettings "1" inOrder proxiedMemory) proxiedCluster
  obtain ⟨second, again⟩ := Prog.runs_eval Answered Store.exec honest
    (caaCreateOrUpdate plainSettings "1" inOrder proxiedMemory) configuredCluster
  have absent : proxiedCluster.find? .daemonSet (caaKey plainSettings) = none := by decide +kernel
  exact ⟨second, _, _, again, (caaTemplate_reproducible_iff plainSettings proxiedMemory proxiedCluster
    ⟨{ name := caaDsName }, show PodTemplate from {}⟩ "1").2 inOrder inOrder _ _ _ _ first second
      (by simp [absent]) runs again⟩

def caaStored (settings : Settings) (s : Cluster) : Option PodTemplate :=
  (s.find? .daemonSet (caaKey settings)).map templateOf

/-- With a proxy the template depends on the order.  The next `CreateOrUpdate` writes in any
order; in another order it changes the pods of a cluster that nothing has changed. -/
theorem caaTemplate_reordered :
    (∃ ds, caaTemplate plainSettings proxiedMemory configuredCluster "1" ds inOrder ≠
      caaTemplate plainSettings proxiedMemory configuredCluster "1" ds swapped) ∧
    (let again := ((caaCreateOrUpdate plainSettings "1" inOrder).eval Store.exec proxiedMemory configuredCluster).2
     again.version = configuredCluster.version + 1 ∧
      caaStored plainSettings again = caaStored plainSettings configuredCluster) ∧
    caaStored plainSettings ((caaCreateOrUpdate plainSettings "1" swapped).eval Store.exec proxiedMemory
      configuredCluster).2 ≠ caaStored plainSettings configuredCluster := by
  refine ⟨⟨⟨{ name := caaDsName }, show PodTemplate from {}⟩, ?_⟩, ?_, ?_⟩
  · decide +kernel
  · decide +kernel
  · decide +kernel

end SandboxedContainers
