import SandboxedContainers.ConfigMapEdits
import SandboxedContainers.ImageJobs

/-!
# Switching confidential peer pods on and off

`handleConfidentialPeerPods` edits the image config map, unless the pod VM image exists, and
then `peer-pods-cm`: it sets `DISABLECVM`, and sets or takes back the built-in value of
`INITDATA`.  Users edit the same config map between its calls.

A `Session` is any sequence of such calls and edits.  The server answers every request here;
what a call does is then determined, and is said once for an edit of a config map
(`EditRuns`).
-/

namespace SandboxedContainers

open Lib Routine

namespace ConfidentialToggle

open ImageJobs

/-- What a call wants in `peer-pods-cm`, and what it wants out of it. -/
def wantedEntries : FeatureGateState → List (String × String)
  | .enabled => [("DISABLECVM", "false")]
  | .disabled => [("DISABLECVM", "true"), ("INITDATA", defaultNonCCInitdata)]

def unwantedEntries : FeatureGateState → List (String × String)
  | .enabled => [("INITDATA", defaultNonCCInitdata)]
  | .disabled => []

theorem distinct_nil : StrMap.Distinct [] := List.nodup_nil

theorem distinct_wanted (state : FeatureGateState) : StrMap.Distinct (wantedEntries state) := by
  cases state <;> exact List.nodup_iff_pairwise_ne.mpr (by decide)

theorem distinct_unwanted (state : FeatureGateState) : StrMap.Distinct (unwantedEntries state) := by
  cases state <;> exact List.nodup_iff_pairwise_ne.mpr (by decide)

section Order

theorem dataEdit_perm {newData newData' keysToRemove keysToRemove' : List (String × String)}
    (distinct : StrMap.Distinct newData) (perm : newData.Perm newData')
    (distinctKeys : StrMap.Distinct keysToRemove) (permKeys : keysToRemove.Perm keysToRemove') :
    dataEdit newData' keysToRemove' = dataEdit newData keysToRemove := by
  funext configMap
  unfold dataEdit
  rw [StrMap.any_perm perm]
  cases dataOf configMap with
  | none => rfl
  | some data =>
    simp only [StrMap.assigns_perm distinct perm, StrMap.assign_perm distinct perm,
      StrMap.discards_perm distinctKeys permKeys, StrMap.discard_perm distinctKeys permKeys]

variable {newData keysToRemove : List (String × String)} (distinct : StrMap.Distinct newData)
  (distinctKeys : StrMap.Distinct keysToRemove)
include distinct distinctKeys

theorem updateConfigMap_distinct (settings : Settings) (cmName : String) :
    updateConfigMap settings cmName newData keysToRemove =
      editConfigMap ⟨operatorNamespace, cmName⟩ (dataEdit newData keysToRemove) := by
  have visited := settings.rangeOrder.perm
  rw [updateConfigMap_eq, dataEdit_perm distinct (visited _).symm distinctKeys (visited _).symm]

end Order

def imageEntries : FeatureGateState → List (String × String)
  | .enabled => [("CONFIDENTIAL_COMPUTE_ENABLED", "yes")]
  | .disabled => [("CONFIDENTIAL_COMPUTE_ENABLED", "no")]

theorem distinct_image (state : FeatureGateState) : StrMap.Distinct (imageEntries state) := by
  cases state <;> exact List.nodup_singleton _

variable {settings : Settings} {memory memory' : Reconciler} {s s' : Cluster} {log : List Exchange} {key : Key}
  {configMap : ConfigMap} {data : StrMap} {newData keysToRemove : List (String × String)} {ig : ImageGenerator}
  {state : FeatureGateState} {result : Except Err Unit}

section Edits

def Quiet (log : List Exchange) : Prop := ∀ entry ∈ log, ∀ configMap : ConfigMap, entry.1 ≠ .update .configMap configMap

theorem quiet_read {response} : Quiet [⟨.get .configMap key, response⟩] := by
  intro entry member configMap
  cases List.mem_singleton.mp member
  exact nofun

theorem Quiet.append {rest : List Exchange} (quiet : Quiet log) (quietRest : Quiet rest) : Quiet (log ++ rest) := by
  intro entry member
  rcases List.mem_append.mp member with early | late
  · exact quiet entry early
  · exact quietRest entry late

theorem exec_update_data (data : StrMap) (readable : Readable s key configMap) :
    (s.exec (.update .configMap (withData configMap data) : Req)) =
      (.ok (s.stamp (withData configMap data)), s.settle (withData configMap data)) := by
  obtain ⟨member, sameKey⟩ := Collection.find?_mem readable.2
  have found : s.find? .configMap (withData configMap data).key = some configMap := by
    rw [show (withData configMap data).key = key from sameKey]
    exact readable.2
  have current : Store.stale configMap (withData configMap data) = false := by simp [Store.stale, withData]
  have admitted : Store.addsFinalizer configMap (withData configMap data) = false := by
    simp only [Store.addsFinalizer, withData, Bool.and_eq_false_iff, List.any_eq_false]
    exact .inr fun name present => by simpa using present
  simp only [Store.exec, Store.change, readable.1, found, current, admitted, if_true]
  rfl

inductive EditRuns (key : Key) (edit : ConfigMap → Edit) (s : Cluster) :
    List Exchange → Except Err Unit → Cluster → Prop where
  | unread {error : ApiError} :
      (∀ configMap : ConfigMap, ¬ Readable s key configMap) →
      (error.reason = .notFound → s.served .configMap = true) →
      EditRuns key edit s [⟨.get .configMap key, .error error⟩] (.error (.api error)) s
  | panics {configMap : ConfigMap} : Readable s key configMap → edit configMap = .panics →
      EditRuns key edit s [⟨.get .configMap key, .ok configMap⟩] (.error (.panic nilMapText)) s
  | keeps {configMap : ConfigMap} : Readable s key configMap → edit configMap = .keep →
      EditRuns key edit s [⟨.get .configMap key, .ok configMap⟩] (.ok ⟨⟩) s
  | stores {configMap : ConfigMap} {data : StrMap} : Readable s key configMap →
      edit configMap = .store (withData configMap data) →
      EditRuns key edit s [⟨.get .configMap key, .ok configMap⟩,
          ⟨.update .configMap (withData configMap data), .ok (s.stamp (withData configMap data))⟩] (.ok ⟨⟩)
        (s.settle (withData configMap data))

theorem dataEdit_store {wanted : ConfigMap}
    (stores : dataEdit newData keysToRemove configMap = .store wanted) : ∃ data, wanted = withData configMap data := by
  unfold dataEdit at stores
  split at stores
  · split at stores <;> cases stores
  · split at stores
    · cases stores
      exact ⟨_, rfl⟩
    · cases stores

theorem updateConfigMap_served {cmName : String} (distinct : StrMap.Distinct newData)
    (distinctKeys : StrMap.Distinct keysToRemove)
    (runs : Prog.Runs Served (updateConfigMap settings cmName newData keysToRemove memory) s log (result, memory') s') :
    memory' = memory ∧
      EditRuns ⟨operatorNamespace, cmName⟩ (dataEdit newData keysToRemove) s log result s' := by
  rw [updateConfigMap_distinct distinct distinctKeys] at runs
  rcases runs_bind runs with ⟨configMap, memory₁, between, first, rest, ran, ends, rfl⟩ | ⟨error, memory₁, ran, same⟩
  · obtain ⟨response, served, rfl, ended⟩ := call_runs (.get .configMap ⟨operatorNamespace, cmName⟩) id ran
    cases response with
    | error error => cases ended
    | ok found =>
      cases ended
      obtain rfl : between = s := served.answered.get_ok.1
      have readable := readable_of_answered served.answered
      cases made : dataEdit newData keysToRemove configMap with
      | panics =>
        rw [made] at ends
        cases ends
        exact ⟨rfl, .panics readable made⟩
      | keep =>
        rw [made] at ends
        cases ends
        exact ⟨rfl, .keeps readable made⟩
      | store wanted =>
        obtain ⟨data, rfl⟩ := dataEdit_store made
        rw [made] at ends
        have accepted := exec_update_data data readable
        rcases runs_bind ends with ⟨_, _, _, _, _, stored, done, rfl⟩ | ⟨_, _, stored, _⟩
        · obtain ⟨response, updated, rfl, ended⟩ := call_runs (.update .configMap (withData configMap data)) id stored
          cases updated.trans accepted
          cases ended
          cases done
          exact ⟨rfl, .stores readable made⟩
        · obtain ⟨response, updated, rfl, ended⟩ := call_runs (.update .configMap (withData configMap data)) id stored
          cases updated.trans accepted
          cases ended
  · cases same
    obtain ⟨response, served, rfl, ended⟩ := call_runs (.get .configMap ⟨operatorNamespace, cmName⟩) id ran
    cases response with
    | ok found => cases ended
    | error error =>
      cases ended
      obtain rfl : s' = s := served.answered.get_error.1
      refine ⟨rfl, .unread (fun configMap readable => ?_) fun missing => ?_⟩
      · cases served.trans readable.exec
      · by_contra unserved
        simp only [Served, Store.exec, unserved] at served
        cases served
        cases missing

end Edits

section Outcomes

def edited (newData keysToRemove : List (String × String)) (data : StrMap) : StrMap :=
  (data.assign newData).discard keysToRemove

theorem dataEdit_of_some (present : dataOf configMap = some data) :
    (dataEdit newData keysToRemove configMap = .keep ∧ edited newData keysToRemove data = data) ∨
      dataEdit newData keysToRemove configMap = .store (withData configMap (edited newData keysToRemove data)) := by
  unfold dataEdit
  rw [present]
  dsimp only
  split
  · exact .inr rfl
  · next quiet =>
      rw [Bool.not_eq_true, Bool.or_eq_false_iff] at quiet
      refine .inl ⟨rfl, ?_⟩
      rw [edited, StrMap.discard_eq_self quiet.2, StrMap.assign_eq_self quiet.1]

theorem find?_settle_data (readable : Readable s key configMap) :
    (s.settle (withData configMap data)).find? .configMap key = some (s.stamp (withData configMap data)) :=
  Store.find?_settle_kept readable.2 (Collection.find?_mem readable.2).2 rfl rfl rfl

theorem EditRuns.served {edit : ConfigMap → Edit} (runs : EditRuns key edit s log result s') :
    s'.served = s.served := by
  cases runs with
  | stores => exact Store.settle_served
  | unread | panics | keeps => rfl

theorem EditRuns.find?_other {edit : ConfigMap → Edit} (runs : EditRuns key edit s log result s') {k : Kind}
    {other : Key} (differs : (k, other) ≠ (.configMap, key)) : s'.find? k other = s.find? k other := by
  cases runs with
  | stores readable made =>
    rename_i configMap data
    obtain ⟨_, sameKey⟩ := Collection.find?_mem readable.2
    have elsewhere : (Request.update Kind.configMap (withData configMap data) : Req).target ≠ some (k, other) := by
      intro same
      apply differs
      rw [← Option.some.inj same, ← sameKey]
      rfl
    have kept := Store.exec_find?_other (s := s) elsewhere
    rwa [exec_update_data data readable] at kept
  | unread | panics | keeps => rfl

theorem EditRuns.leaves (runs : EditRuns key (dataEdit newData keysToRemove) s log result s')
    (found : s.find? .configMap key = some configMap) (present : dataOf configMap = some data) :
    ∃ after, s'.find? .configMap key = some after ∧
      (dataOf after = some data ∨ dataOf after = some (edited newData keysToRemove data)) ∧
      (result = .ok ⟨⟩ → dataOf after = some (edited newData keysToRemove data)) := by
  cases runs with
  | unread => exact ⟨configMap, found, .inl present, nofun⟩
  | panics => exact ⟨configMap, found, .inl present, nofun⟩
  | keeps readable made =>
    cases found.symm.trans readable.2
    refine ⟨configMap, found, .inl present, fun _ => ?_⟩
    rcases dataEdit_of_some present with ⟨_, same⟩ | stores
    · rw [same]
      exact present
    · rw [made] at stores
      cases stores
  | stores readable made =>
    cases found.symm.trans readable.2
    rcases dataEdit_of_some present with ⟨keeps, _⟩ | stores
    · rw [made] at keeps
      cases keeps
    · cases made.symm.trans stores
      exact ⟨_, find?_settle_data readable, .inr rfl, fun _ => rfl⟩

def Settled (newData keysToRemove : List (String × String)) (key : Key) (s : Cluster) : Prop :=
  ∃ configMap : ConfigMap, Readable s key configMap ∧ dataEdit newData keysToRemove configMap = .keep

theorem dataEdit_edited (distinct : StrMap.Distinct newData) (distinctKeys : StrMap.Distinct keysToRemove)
    (disjoint : ∀ entry ∈ newData, ∀ other ∈ keysToRemove, other.1 ≠ entry.1)
    (present : dataOf configMap = some (edited newData keysToRemove data)) :
    dataEdit newData keysToRemove configMap = .keep := by
  have reads : (edited newData keysToRemove data).assigns newData = false := by
    rw [StrMap.assigns_eq_any distinct, List.any_eq_false]
    intro entry member
    have kept : StrMap.getD (edited newData keysToRemove data) entry.1 =
        StrMap.getD (data.assign newData) entry.1 :=
      congrArg (fun found => found.getD "") (StrMap.lookup_discard_of_ne (disjoint entry member))
    simpa using kept.trans (StrMap.getD_assign_of_mem distinct member)
  have dropped : (edited newData keysToRemove data).discards keysToRemove = false := by
    rw [StrMap.discards_eq_any distinctKeys, List.any_eq_false]
    intro entry member
    exact fun holds => StrMap.lookup_discard_ne distinctKeys member (of_decide_eq_true holds)
  simp [dataEdit, present, StrMap.assign_eq_self reads, reads, dropped]

theorem EditRuns.settled (runs : EditRuns key (dataEdit newData keysToRemove) s log (.ok ⟨⟩) s')
    (distinct : StrMap.Distinct newData) (distinctKeys : StrMap.Distinct keysToRemove)
    (disjoint : ∀ entry ∈ newData, ∀ other ∈ keysToRemove, other.1 ≠ entry.1) :
    Settled newData keysToRemove key s' := by
  cases runs with
  | keeps readable made => exact ⟨_, readable, made⟩
  | stores readable made =>
    rename_i configMap stored
    refine ⟨s.stamp (withData configMap stored), ⟨?_, find?_settle_data readable⟩, ?_⟩
    · rw [Store.settle_served]
      exact readable.1
    · cases present : dataOf configMap with
      | none =>
        simp only [dataEdit, present] at made
        split at made <;> cases made
      | some data =>
        rcases dataEdit_of_some present with ⟨keeps, _⟩ | stores
        · rw [made] at keeps
          cases keeps
        · obtain rfl : stored = edited newData keysToRemove data := by
            have same := (Edit.store.inj (made.symm.trans stores))
            exact Option.some.inj (congrArg dataOf same)
          exact dataEdit_edited distinct distinctKeys disjoint rfl

theorem EditRuns.of_settled (runs : EditRuns key (dataEdit newData keysToRemove) s log result s')
    (settled : Settled newData keysToRemove key s) : s' = s ∧ Quiet log := by
  obtain ⟨configMap, readable, keeps⟩ := settled
  cases runs with
  | unread missing => exact absurd readable (missing configMap)
  | panics => exact ⟨rfl, quiet_read⟩
  | keeps => exact ⟨rfl, quiet_read⟩
  | stores found made =>
    cases found.2.symm.trans readable.2
    rw [made] at keeps
    cases keeps

theorem updateConfigMapIfPresent_served {cmName : String} (distinct : StrMap.Distinct newData)
    (distinctKeys : StrMap.Distinct keysToRemove)
    (runs : Prog.Runs Served (updateConfigMapIfPresent settings cmName newData keysToRemove memory) s log
      (result, memory') s') :
    memory' = memory ∧ ∃ inner,
      EditRuns ⟨operatorNamespace, cmName⟩ (dataEdit newData keysToRemove) s log inner s' ∧
      (result = .ok ⟨⟩ → inner = .ok ⟨⟩ ∨ ∃ error, inner = .error error ∧ error.isNotFound = true) := by
  obtain ⟨inner, memory₁, between, first, rest, ran, ends, rfl⟩ := runs_attempt_bind runs
  obtain ⟨rfl, edits⟩ := updateConfigMap_served distinct distinctKeys ran
  cases inner with
  | ok _ =>
    cases ends
    rw [List.append_nil]
    exact ⟨rfl, _, edits, fun _ => .inl rfl⟩
  | error error =>
    dsimp only at ends
    split at ends
    · next missing =>
        cases ends
        rw [List.append_nil]
        exact ⟨rfl, _, edits, fun _ => .inr ⟨error, rfl, missing⟩⟩
    · cases ends
      rw [List.append_nil]
      exact ⟨rfl, _, edits, nofun⟩

end Outcomes

section Image

/-- The key under which the generator looks for an image belongs to its provider. -/
def Fits (ig : ImageGenerator) : Prop := ig.cmImageIDKey = (imageIDKeyOf ig.provider).getD ""

theorem newImageGenerator_fits (settings : Settings) : Yields Fits (newImageGenerator settings) := by
  have built (provider clusterID : String) (fips : Bool) : Fits
      { provider := if (imageIDKeyOf provider).isSome then provider else unsupportedCloudProvider
        clusterId := clusterID
        cmImageIDKey := (imageIDKeyOf provider).getD ""
        fips := fips } := by
    unfold Fits
    cases known : imageIDKeyOf provider with
    | none => rfl
    | some key => simp [known]
  unfold newImageGenerator
  dsimp only
  split
  · exact yields_bind fun _ => yields_bind fun _ => by
      split
      · exact yields_throw _
      · exact yields_bind fun _ => yields_bind fun _ => yields_pure (built ..)
  · refine yields_bind fun content => ?_
    split
    · exact yields_throw _
    · exact yields_bind fun _ => yields_bind fun _ => yields_pure (built ..)

theorem Fits.elsewhere (fits : Fits ig) : ig.cmImageIDKey ≠ "DISABLECVM" ∧ ig.cmImageIDKey ≠ "INITDATA" := by
  rw [fits]
  unfold imageIDKeyOf
  split <;> decide

theorem quiet_of_reads (reads : ∀ entry ∈ log, IsRead entry.1) : Quiet log := by
  intro entry member configMap same
  have read := reads entry member
  rw [same] at read
  cases read

theorem initializeImageGenerator_served {result : Except Err ImageGenerator}
    (fit : ∀ ig, memory.ig = some ig → Fits ig)
    (runs : Prog.Runs Served (initializeImageGenerator settings memory) s log (result, memory') s') :
    s' = s ∧ Quiet log ∧ (∀ ig, memory'.ig = some ig → Fits ig) ∧ ∀ ig, result = .ok ig → memory'.ig = some ig := by
  have issues : Issues IsRead (initializeImageGenerator settings) :=
    issues_initializeImageGenerator settings fun _ => rfl
  refine ⟨?_, quiet_of_reads (issues.mem_runs runs), ?_⟩
  · exact unchanged_of_reads issues (runs.mono Served.answered)
  · rcases runs_bind runs with ⟨held, memory₁, _, _, _, ran, ends, _⟩ | ⟨_, _, ran, _⟩
    · cases ran
      cases known : memory.ig with
      | some built =>
        simp only [known] at ends
        cases ends
        refine ⟨fit, ?_⟩
        rintro _ ⟨⟩
        exact known
      | none =>
        simp only [known] at ends
        rcases runs_bind ends with ⟨built, memory₂, _, _, _, made, rest, _⟩ | ⟨_, _, made, same⟩
        · cases rest
          refine ⟨?_, ?_⟩
          · rintro _ ⟨⟩
            exact (newImageGenerator_fits settings memory).runs made _ rfl
          · rintro _ ⟨⟩
            rfl
        · cases same
          obtain ⟨rfl, _⟩ := (looks_newImageGenerator (p := IsRead) settings fun _ => rfl).runs made
          exact ⟨fit, nofun⟩
    · cases ran

theorem isImageIDSet_served {found : ConfigMap} {result : Except Err Bool} (readable : Readable s peerPodsCMKey found)
    (runs : Prog.Runs Served ((ig.isImageIDSet : Op Err Bool) memory) s log (result, memory') s') :
    memory' = memory ∧ s' = s ∧ Quiet log ∧ result = .ok (dataAt found ig.cmImageIDKey ≠ "") := by
  obtain ⟨response, between, rest, served, rfl, ends⟩ := attempt_call_runs (.get .configMap peerPodsCMKey) id runs
  cases served.trans readable.exec
  cases ends _ rfl
  exact ⟨rfl, rfl, quiet_read, rfl⟩

def imageKey (ig : ImageGenerator) : Key := ⟨operatorNamespace, ig.getImageConfigMapName⟩

theorem imageKey_ne (ig : ImageGenerator) : imageKey ig ≠ peerPodsCMKey := by
  intro same
  have lengths := congrArg (fun key => key.name.length) same
  simp only [imageKey, ImageGenerator.getImageConfigMapName, String.length_append] at lengths
  have short : peerPodsCMKey.name.length = 12 := by decide
  have long : "-podvm-image-cm".length = 15 := by decide
  omega

theorem createImageConfigMapFromFile_present {found : ConfigMap} (readable : Readable s (imageKey ig) found)
    (runs : Prog.Runs Served (ImageGenerator.createImageConfigMapFromFile settings ig memory) s log (result, memory') s') :
    s' = s ∧ Quiet log := by
  obtain ⟨response, between, rest, served, rfl, ends⟩ := attempt_call_runs (.get .configMap (imageKey ig)) id runs
  cases served.trans readable.exec
  cases ends _ rfl
  exact ⟨rfl, quiet_read⟩

end Image

section Calls

/-- The image config map says so, or is not there to say otherwise. -/
def ImageSettled (ig : ImageGenerator) (state : FeatureGateState) (s : Cluster) : Prop :=
  Settled (imageEntries state) [] (imageKey ig) s ∨
    (state = .disabled ∧ ∀ configMap : ConfigMap, ¬ Readable s (imageKey ig) configMap)

theorem EditRuns.imageSettled (state : FeatureGateState)
    (edits : EditRuns (imageKey ig) (dataEdit (imageEntries state) []) s log (.ok ⟨⟩) s') :
    Settled (imageEntries state) [] (imageKey ig) s' :=
  edits.settled (distinct_image state) distinct_nil fun _ _ _ member => nomatch member

theorem EditRuns.peerPods {edit : ConfigMap → Edit} (edits : EditRuns (imageKey ig) edit s log result s') :
    s'.served = s.served ∧ s'.find? .configMap peerPodsCMKey = s.find? .configMap peerPodsCMKey :=
  ⟨edits.served, edits.find?_other fun same => imageKey_ne ig (Prod.mk.inj same).2.symm⟩

theorem configureConfidentialImage_served
    (runs : Prog.Runs Served (configureConfidentialImage settings ig state memory) s log (result, memory') s') :
    memory' = memory ∧ s'.served = s.served ∧
      (∀ found : ConfigMap, s.find? .configMap peerPodsCMKey = some found →
        s'.find? .configMap peerPodsCMKey = some found) ∧
      (result = .ok ⟨⟩ → ImageSettled ig state s') ∧ (ImageSettled ig state s → s' = s ∧ Quiet log) := by
  cases state with
  | enabled =>
    have adds {s s' : Cluster} {log : List Exchange} {memory memory' : Reconciler} {result : Except Err Unit}
        (ran : Prog.Runs Served (ImageGenerator.createImageConfigMapFromFile settings ig memory) s log
          (result, memory') s') : memory' = memory ∧ Preserves s s' := by
      have looks : Looks Adds _ := looks_createImageConfigMapFromFile settings (fun _ => .inl rfl) (fun _ => .inr ⟨_, rfl⟩) ig
      exact ⟨(looks.runs ran).1, (looks.1 memory).runs_rel Preserves.refl Preserves.trans Adds.preserves
        (ran.mono Served.answered)⟩
    have present (settled : ImageSettled ig .enabled s) : ∃ found : ConfigMap, Readable s (imageKey ig) found := by
      rcases settled with ⟨found, readable, _⟩ | ⟨impossible, _⟩
      · exact ⟨found, readable⟩
      · cases impossible
    rcases runs_bind runs with ⟨_, memory₁, between, first, rest, ran, ends, rfl⟩ | ⟨error, memory₁, ran, same⟩
    · obtain ⟨rfl, preserved⟩ := adds ran
      obtain ⟨rfl, edits⟩ := updateConfigMap_served (distinct_image .enabled) distinct_nil ends
      obtain ⟨served, kept⟩ := edits.peerPods
      refine ⟨rfl, served.trans preserved.served, fun found here => ?_, ?_, fun settled => ?_⟩
      · exact kept.trans (preserved.found _ found here)
      · rintro rfl
        exact .inl (EditRuns.imageSettled .enabled edits)
      · obtain ⟨found, readable⟩ := present settled
        obtain ⟨rfl, quiet⟩ := createImageConfigMapFromFile_present readable ran
        rcases settled with settled | ⟨impossible, _⟩
        · obtain ⟨rfl, quietRest⟩ := edits.of_settled settled
          exact ⟨rfl, quiet.append quietRest⟩
        · cases impossible
    · cases same
      obtain ⟨rfl, preserved⟩ := adds ran
      refine ⟨rfl, preserved.served, fun found here => preserved.found _ found here, nofun, fun settled => ?_⟩
      obtain ⟨found, readable⟩ := present settled
      exact createImageConfigMapFromFile_present readable ran
  | disabled =>
    obtain ⟨rfl, inner, edits, ended⟩ := updateConfigMapIfPresent_served (distinct_image .disabled) distinct_nil runs
    obtain ⟨served, kept⟩ := edits.peerPods
    refine ⟨rfl, served, fun found here => kept.trans here, fun nil => ?_, fun settled => ?_⟩
    · rcases ended nil with rfl | ⟨error, rfl, missing⟩
      · exact .inl (EditRuns.imageSettled .disabled edits)
      · cases edits with
        | unread absent _ => exact .inr ⟨rfl, absent⟩
        | panics => cases missing
    · rcases settled with settled | ⟨_, absent⟩
      · exact edits.of_settled settled
      · cases edits with
        | unread => exact ⟨rfl, quiet_read⟩
        | panics readable | keeps readable | stores readable => exact absurd readable (absent _)

def configureImage (settings : Settings) (state : FeatureGateState) : Op Err PUnit := do
  let ig ← initializeImageGenerator settings
  if ig.provider ≠ unsupportedCloudProvider then
    if !(← ig.isImageIDSet) then
      configureConfidentialImage settings ig state

theorem handleConfidentialPeerPods_eq (settings : Settings) (state : FeatureGateState) :
    handleConfidentialPeerPods settings state = configureImage settings state >>= fun _ =>
      updateConfigMapIfPresent settings peerpodsCMName (wantedEntries state) (unwantedEntries state) := by
  unfold handleConfidentialPeerPods configureImage
  rw [Routine.bind_assoc]
  refine bind_congr fun ig => ?_
  by_cases supported : ig.provider ≠ unsupportedCloudProvider
  · rw [if_pos supported, if_pos supported, Routine.bind_assoc]
    refine bind_congr fun set => ?_
    cases set <;> cases state <;> rfl
  · rw [if_neg supported, if_neg supported]
    cases state <;> rfl

/-- The image is settled for a generator: no configuration is due, or it is done. -/
def ImageDone (ig : ImageGenerator) (state : FeatureGateState) (peerPodsCM : ConfigMap) (s : Cluster) : Prop :=
  ig.provider = unsupportedCloudProvider ∨ dataAt peerPodsCM ig.cmImageIDKey ≠ "" ∨ ImageSettled ig state s

theorem configureImage_served {found : ConfigMap} (readable : Readable s peerPodsCMKey found)
    (fit : ∀ ig, memory.ig = some ig → Fits ig)
    (runs : Prog.Runs Served (configureImage settings state memory) s log (result, memory') s') :
    (∀ ig, memory'.ig = some ig → Fits ig) ∧ Readable s' peerPodsCMKey found ∧
      (result = .ok ⟨⟩ → ∃ ig, memory'.ig = some ig ∧ ImageDone ig state found s') ∧
      ((∃ ig, memory.ig = some ig ∧ ImageDone ig state found s) → s' = s ∧ Quiet log) := by
  rcases runs_bind runs with ⟨ig, memory₁, between, first, rest, ran, ends, rfl⟩ | ⟨error, memory₁, ran, same⟩
  · obtain ⟨rfl, quiet, fit', held⟩ := initializeImageGenerator_served fit ran
    have isHeld := held ig rfl
    have unique (known : ImageGenerator) (already : memory.ig = some known) : ig = known := by
      rcases runs_bind ran with ⟨_, _, _, _, _, reads, rest, _⟩ | ⟨_, _, reads, _⟩
      · cases reads
        simp only [already] at rest
        cases rest
        rfl
      · cases reads
    split at ends
    · next supported =>
      rcases runs_bind ends with ⟨set, _, _, first', rest', asked, configured, rfl⟩ | ⟨error, _, asked, _⟩
      · obtain ⟨rfl, rfl, quiet', value⟩ := isImageIDSet_served readable asked
        cases value
        split at configured
        · next unset =>
          obtain ⟨rfl, served, kept, settles, stays⟩ := configureConfidentialImage_served configured
          refine ⟨fit', ⟨?_, kept found readable.2⟩, fun nil => ⟨ig, isHeld, .inr (.inr (settles nil))⟩, ?_⟩
          · rw [served]
            exact readable.1
          · rintro ⟨known, already, done⟩
            cases unique known already
            rcases done with unsupported | isSet | settled
            · exact absurd unsupported supported
            · exact absurd isSet (by simpa using unset)
            · obtain ⟨rfl, quiet''⟩ := stays settled
              exact ⟨rfl, quiet.append (quiet'.append quiet'')⟩
        · next isSet =>
          cases configured
          refine ⟨fit', readable, fun _ => ⟨ig, isHeld, .inr (.inl (by simpa using isSet))⟩, fun _ => ⟨rfl, ?_⟩⟩
          rw [List.append_nil]
          exact quiet.append quiet'
      · cases (isImageIDSet_served readable asked).2.2.2
    · next unsupported =>
      cases ends
      refine ⟨fit', readable, fun _ => ⟨ig, isHeld, .inl (not_not.mp unsupported)⟩, fun _ => ⟨rfl, ?_⟩⟩
      rw [List.append_nil]
      exact quiet
  · cases same
    obtain ⟨rfl, quiet, fit', _⟩ := initializeImageGenerator_served fit ran
    exact ⟨fit', readable, nofun, fun _ => ⟨rfl, quiet⟩⟩

end Calls

section Sessions

/-- The config map can be read and has this data.  There is an entry: the server drops an
empty data map, and a client then reads a nil one. -/
def PeerPodsData (s : Cluster) (data : StrMap) : Prop :=
  data ≠ ∅ ∧ ∃ configMap : ConfigMap, Readable s peerPodsCMKey configMap ∧ dataOf configMap = some data

/-- Calls, edits by users and other work of the operator, in any order.  An edit may change
anything, as long as it leaves `peer-pods-cm` an entry, and so its data map. -/
inductive Session (settings : Settings) : Reconciler → Cluster → Prop where
  | start {memory : Reconciler} {s : Cluster} {data : StrMap} : memory.ig = none → PeerPodsData s data →
      Session settings memory s
  | call {memory memory' : Reconciler} {s s' : Cluster} {log : List Exchange} {result : Except Err Unit}
      (state : FeatureGateState) : Session settings memory s →
      Prog.Runs Served (handleConfidentialPeerPods settings state memory) s log (result, memory') s' →
      Session settings memory' s'
  | edit {memory : Reconciler} {s s' : Cluster} {data : StrMap} : Session settings memory s → PeerPodsData s' data →
      Session settings memory s'
  | elsewhere {memory memory' : Reconciler} {s : Cluster} : Session settings memory s → memory'.ig = memory.ig →
      Session settings memory' s

def toggled (state : FeatureGateState) (data : StrMap) : StrMap :=
  edited (wantedEntries state) (unwantedEntries state) data

theorem disjoint_entries (state : FeatureGateState) :
    ∀ entry ∈ wantedEntries state, ∀ other ∈ unwantedEntries state, other.1 ≠ entry.1 := by
  cases state with
  | enabled =>
    intro entry wanted other unwanted
    rw [List.mem_singleton.mp wanted, List.mem_singleton.mp unwanted]
    decide
  | disabled => exact fun _ _ _ unwanted => nomatch unwanted

theorem toggled_frame {key : String} (notFlag : key ≠ "DISABLECVM") (notInit : key ≠ "INITDATA") :
    (toggled state data).lookup key = data.lookup key := by
  have wanted : ∀ entry ∈ wantedEntries state, entry.1 ≠ key := by
    cases state <;> simp [wantedEntries, notFlag.symm, notInit.symm]
  have unwanted : ∀ entry ∈ unwantedEntries state, entry.1 ≠ key := by
    cases state <;> simp [unwantedEntries, notInit.symm]
  exact (StrMap.lookup_discard_of_ne unwanted).trans (StrMap.lookup_assign_of_ne wanted)

def Achieves (before after : StrMap) : FeatureGateState → Prop
  | .enabled => after.lookup "DISABLECVM" = some "false" ∧ after.lookup "INITDATA" ≠ some defaultNonCCInitdata ∧
      (before.lookup "INITDATA" ≠ some defaultNonCCInitdata → after.lookup "INITDATA" = before.lookup "INITDATA")
  | .disabled => after.lookup "DISABLECVM" = some "true" ∧ after.lookup "INITDATA" = some defaultNonCCInitdata

theorem lookup_of_getD {m : StrMap} {key value : String} (reads : StrMap.getD m key = value) (nonempty : value ≠ "") :
    m.lookup key = some value := by
  unfold StrMap.getD at reads
  cases found : m.lookup key with
  | none =>
    rw [found] at reads
    exact absurd reads.symm nonempty
  | some other =>
    rw [found] at reads
    exact congrArg some reads

theorem toggled_achieves (state : FeatureGateState) (data : StrMap) : Achieves data (toggled state data) state := by
  have assigned {key value : String} (member : (key, value) ∈ wantedEntries state) (nonempty : value ≠ "")
      (stays : ∀ entry ∈ unwantedEntries state, entry.1 ≠ key) : (toggled state data).lookup key = some value := by
    refine (StrMap.lookup_discard_of_ne stays).trans ?_
    exact lookup_of_getD (StrMap.getD_assign_of_mem (distinct_wanted state) member) nonempty
  cases state with
  | enabled =>
    refine ⟨assigned (List.mem_singleton_self _) (by decide) (by simp [unwantedEntries]), ?_, fun own => ?_⟩
    · exact StrMap.lookup_discard_ne (distinct_unwanted .enabled) (List.mem_singleton_self _)
    · have kept : (data.assign (wantedEntries .enabled)).lookup "INITDATA" = data.lookup "INITDATA" :=
        StrMap.lookup_assign_of_ne (by simp [wantedEntries])
      refine (StrMap.lookup_drop _ _ _).trans ?_
      rw [if_neg (fun holds => own (kept.symm.trans holds.2))]
      exact kept
  | disabled =>
    have nonempty : defaultNonCCInitdata ≠ "" := by simp [defaultNonCCInitdata]
    exact ⟨assigned (List.mem_cons_self ..) (by decide) (fun _ member => nomatch member),
      assigned (List.mem_cons_of_mem _ (List.mem_singleton_self _)) nonempty (fun _ member => nomatch member)⟩

theorem toggled_nonempty (state : FeatureGateState) (data : StrMap) : toggled state data ≠ ∅ := by
  intro empty
  have achieved := toggled_achieves state data
  rw [empty] at achieved
  cases state with
  | enabled => exact nomatch achieved.1
  | disabled => exact nomatch achieved.1

theorem call_served (fit : ∀ ig, memory.ig = some ig → Fits ig) (before : PeerPodsData s data)
    (runs : Prog.Runs Served (handleConfidentialPeerPods settings state memory) s log (result, memory') s') :
    (∀ ig, memory'.ig = some ig → Fits ig) ∧
      (PeerPodsData s' data ∨ PeerPodsData s' (toggled state data)) ∧
      (result = .ok ⟨⟩ → PeerPodsData s' (toggled state data) ∧
        ∃ ig, memory'.ig = some ig ∧ ∃ found, Readable s' peerPodsCMKey found ∧ ImageDone ig state found s' ∧
          Settled (wantedEntries state) (unwantedEntries state) peerPodsCMKey s') := by
  obtain ⟨nonempty, found, readable, present⟩ := before
  rw [handleConfidentialPeerPods_eq] at runs
  rcases runs_bind runs with ⟨_, memory₁, between, first, rest, ran, ends, rfl⟩ | ⟨error, memory₁, ran, same⟩
  · obtain ⟨fit', readable', configured, _⟩ := configureImage_served readable fit ran
    obtain ⟨rfl, inner, edits, ended⟩ :=
      updateConfigMapIfPresent_served (distinct_wanted state) (distinct_unwanted state) ends
    obtain ⟨after, found', either, finally'⟩ := edits.leaves readable'.2 present
    have served : s'.served .configMap = true := by
      rw [edits.served]
      exact readable'.1
    have grown := toggled_nonempty state data
    refine ⟨fit', either.imp (fun same => ⟨nonempty, after, ⟨served, found'⟩, same⟩)
      fun same => ⟨grown, after, ⟨served, found'⟩, same⟩, ?_⟩
    intro nil
    have finished : inner = .ok ⟨⟩ := by
      rcases ended nil with done | ⟨error, rfl, missing⟩
      · exact done
      · cases edits with
        | unread absent => exact absurd readable' (absent found)
        | panics => cases missing
    subst finished
    have now := finally' rfl
    obtain ⟨ig, held, done⟩ := configured rfl
    refine ⟨⟨grown, after, ⟨served, found'⟩, now⟩, ig, held, after, ⟨served, found'⟩, ?_, ?_⟩
    · rcases done with unsupported | isSet | settled
      · exact .inl unsupported
      · refine .inr (.inl ?_)
        -- the entry for the image is not one of those a call edits
        have kept : dataAt after ig.cmImageIDKey = dataAt found ig.cmImageIDKey := by
          obtain ⟨notFlag, notInit⟩ := (fit' ig held).elsewhere
          rw [dataAt_of_some now, dataAt_of_some present]
          exact congrArg (fun entry => entry.getD "") (toggled_frame notFlag notInit)
        rwa [kept]
      · refine .inr (.inr ?_)
        have image : s'.find? .configMap (imageKey ig) = between.find? .configMap (imageKey ig) :=
          edits.find?_other fun same => imageKey_ne ig (Prod.mk.inj same).2
        have sameReads (configMap : ConfigMap) :
            Readable s' (imageKey ig) configMap ↔ Readable between (imageKey ig) configMap := by
          rw [Readable, Readable, image, edits.served]
        rcases settled with ⟨stored, there, keeps⟩ | ⟨off, absent⟩
        · exact .inl ⟨stored, (sameReads stored).mpr there, keeps⟩
        · exact .inr ⟨off, fun configMap there => absent configMap ((sameReads configMap).mp there)⟩
    · exact edits.settled (distinct_wanted state) (distinct_unwanted state) (disjoint_entries state)
  · cases same
    obtain ⟨fit', readable', _⟩ := configureImage_served readable fit ran
    exact ⟨fit', .inl ⟨nonempty, found, readable', present⟩, nofun⟩

theorem Session.invariant (session : Session settings memory s) :
    (∀ ig, memory.ig = some ig → Fits ig) ∧ ∃ data, PeerPodsData s data := by
  induction session with
  | start fresh present =>
    refine ⟨fun ig held => ?_, _, present⟩
    rw [fresh] at held
    cases held
  | call state _ runs ih =>
    obtain ⟨fit, data, present⟩ := ih
    obtain ⟨fit', same | changed, _⟩ := call_served fit present runs
    · exact ⟨fit', data, same⟩
    · exact ⟨fit', _, changed⟩
  | edit _ present ih => exact ⟨ih.1, _, present⟩
  | elsewhere _ kept ih =>
    refine ⟨fun ig held => ih.1 ig ?_, ih.2⟩
    rw [← kept]
    exact held

end Sessions

end ConfidentialToggle

end SandboxedContainers
