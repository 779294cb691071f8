import SandboxedContainers.ManualCredentials
import SandboxedContainers.ServerReads

/-!
# Where peer-pods-secret comes from

Each event is handled to its end before the next one comes, and any read may fail.
The operator's labels and its owner reference then tell who created the secret that is
stored, and the operator deletes only what it created from its environment.

`SecretStep` is one step of such a history, with a ledger of who created which secret.
The argument is one lemma per handler about what a run of it does to the secret; the
invariant is that the marks of the stored secret are those of its creator.
-/

namespace SandboxedContainers

open Lib Routine

/-- What may be answered: besides what `Answered` allows, a read may fail with any error
but that there is no such object. -/
def Replied (s : Cluster) (r : Req) (response : Response r) (s' : Cluster) : Prop :=
  Answered s r response s' ∨
    (r.writes = none ∧ s' = s ∧ ∃ error : ApiError, error.reason ≠ .notFound ∧
      Response.failure error r = some response)

inductive SecretOrigin where
  | trySetupCredentialsFromEnv
  | secretReconciler
  | user
  deriving DecidableEq, Repr

abbrev SecretLedger := List (Nat × SecretOrigin)

def entered (origin : SecretOrigin) (s s' : Cluster) (ledger : SecretLedger) : SecretLedger :=
  match s'.find? .secret peerPodsSecretKey with
  | none => ledger
  | some secret => if s.version < secret.metadata.uid then (secret.metadata.uid, origin) :: ledger else ledger

structure SecretMarks where
  explicitDeletion : Bool
  credentialsRequest : Bool
  owned : Bool
  deriving DecidableEq, Repr

def marksOf (secret : Secret) : SecretMarks where
  explicitDeletion := StrMap.hasKey secret.metadata.labels labelExplicitDeletion
  credentialsRequest := StrMap.hasKey secret.metadata.labels labelCredentialsRequest
  owned := isOwnedByCCOSecret secret

def noMarks : SecretMarks := ⟨false, false, false⟩

/-- Others neither set nor remove a mark: a secret of theirs has none, and one they edit
keeps the ones it has. -/
def MarksKept (s s' : Cluster) : Prop :=
  ∀ secret, s'.find? .secret peerPodsSecretKey = some secret →
    (s.version < secret.metadata.uid ∧ marksOf secret = noMarks) ∨
      ∃ before, s.find? .secret peerPodsSecretKey = some before ∧ before.metadata.uid = secret.metadata.uid ∧
        marksOf secret = marksOf before

/-- A handler of the operator runs from one cluster to another. -/
inductive OperatorRun (settings : CredentialsSettings) (s : Cluster) :
    SecretOrigin → List ((r : Req) × Response r) → Cluster → Prop where
  | event {log : List ((r : Req) × Response r)} {outcome : Except Err PUnit × Reconciler} {s' : Cluster}
      (event : KataConfigEvent) : Prog.Runs Replied (handleKataConfigEvent settings event {}) s log outcome s' →
      OperatorRun settings s .trySetupCredentialsFromEnv log s'
  | reconcile {log : List ((r : Req) × Response r)} {outcome : Except Err Result × Reconciler} {s' : Cluster} :
      Prog.Runs Replied (reconcileSecret settings {}) s log outcome s' →
      OperatorRun settings s .secretReconciler log s'

inductive SecretStep (settings : CredentialsSettings) :
    Cluster × SecretLedger → Cluster × SecretLedger → Prop where
  | operator {origin : SecretOrigin} {s s' : Cluster} {ledger : SecretLedger} {log : List ((r : Req) × Response r)} :
      OperatorRun settings s origin log s' → SecretStep settings (s, ledger) (s', entered origin s s' ledger)
  | other {s : Cluster} {ledger : SecretLedger} (change : Change) : MarksKept s (change.apply s) →
      SecretStep settings (s, ledger) (change.apply s, entered .user s (change.apply s) ledger)

/-- In a run of a handler the cluster was found not to be in token-based mode. -/
def FoundNotTokenBased (s : Cluster) (earlier : List ((r : Req) × Response r)) : Prop :=
  ∃ before during, earlier = before ++ during ∧
    Prog.Runs Replied ((isClusterInTokenBasedAuthMode : Op Err Bool) {}) s during (.ok false, {}) s

theorem Replied.store {s s' : Cluster} {r : Req} {response : Response r} (replied : Replied s r response s') :
    s' = s ∨ s' = (s.exec r).2 := by
  rcases replied with answered | ⟨_, same, _⟩
  · exact answered.store
  · exact .inl same

theorem Replied.get_ok {s s' : Cluster} {k : Kind} {key : Key} {object : Object k}
    (replied : Replied s (.get k key) (.ok object) s') : s.find? k key = some object := by
  rcases replied with answered | ⟨_, _, error, _, failure⟩
  · exact answered.get_ok.2
  · cases failure

theorem Replied.get_notFound {s s' : Cluster} {k : Kind} {key : Key} {error : ApiError}
    (replied : Replied s (.get k key) (.error error) s') (missing : error.reason = .notFound) :
    s.find? k key = none := by
  rcases replied with answered | ⟨_, _, other, differs, failure⟩
  · exact (answered.get_notFound missing).2
  · cases failure
    exact absurd missing differs

namespace SecretProvenance

variable {settings : CredentialsSettings} {s s' : Cluster} {memory : Reconciler} {log : List Exchange}

abbrev secretIn (s : Cluster) : Option Secret := s.find? .secret peerPodsSecretKey

section Calls

theorem clientGet_replied {k : Kind} {key : Key} {result : Except Err (Object k)} {memory' : Reconciler}
    (runs : Prog.Runs Replied (clientGet k key memory) s log (result, memory') s') :
    s = s' ∧ memory = memory' ∧ (∀ object, result = .ok object → s.find? k (scopedKey k key) = some object) ∧
      ∀ error, result = .error error → error.isNotFound = true → s.find? k (scopedKey k key) = none := by
  obtain ⟨response, replied, _, ended⟩ := call_runs (.get k (scopedKey k key)) id runs
  obtain ⟨rfl, rfl⟩ := Prod.mk.inj ended
  have same : s = s' := by
    rcases replied.store with same | carriedOut
    · exact same.symm
    · rw [carriedOut, Store.exec_get_store]
  refine ⟨same, rfl, ?_, ?_⟩
  · intro object found
    cases response with
    | ok stored =>
      cases found
      exact replied.get_ok
    | error error => cases found
  · intro error failed missing
    cases response with
    | ok stored => cases failed
    | error reported =>
      cases failed
      exact replied.get_notFound (by simpa [Err.isNotFound, Err.reason?] using missing)

theorem call_store {α : Type} (r : Req) (unwrap : Response r → Except ApiError α) {outcome : Except Err α × Reconciler}
    (runs : Prog.Runs Replied ((ask r >>= fun response => fromApi (unwrap response) : Op Err α) memory) s log
      outcome s') : s' = s ∨ s' = (s.exec r).2 := by
  obtain ⟨response, replied, _⟩ := call_runs r unwrap runs
  exact replied.store

/-- A routine that comes to one value, or to an error, without asking. -/
def Decides {α : Type} (value : α) (routine : Op Err α) : Prop :=
  routine = Pure.pure value ∨ ∃ error, routine = Routine.throw error

theorem Decides.runs_bind {α β : Type} {value : α} {routine : Op Err α} {next : α → Op Err β}
    {outcome : Except Err β × Reconciler} (decides : Decides value routine)
    (runs : Prog.Runs Replied ((routine >>= next) memory) s log outcome s') :
    s' = s ∨ Prog.Runs Replied (next value memory) s log outcome s' := by
  rcases decides with rfl | ⟨error, rfl⟩
  · exact .inr runs
  · cases runs
    exact .inl rfl

theorem runs_bind_pure {α β : Type} {routine : Op Err α} {value : β} {outcome : Except Err β × Reconciler}
    (runs : Prog.Runs Replied ((routine >>= fun _ => Pure.pure value) memory) s log outcome s') :
    ∃ outcome', Prog.Runs Replied (routine memory) s log outcome' s' := by
  rcases runs_bind runs with ⟨value, memory', between, first, rest, ran, ends, rfl⟩ | ⟨error, memory', ran, _⟩
  · cases ends
    rw [List.append_nil]
    exact ⟨_, ran⟩
  · exact ⟨_, ran⟩

theorem createOrUpdate_runs {k : Kind} {key : Key} {blank : Kind.Body k} {mutate : Object k → Op Err (Object k)}
    {change : Object k → Object k} {outcome : Except Err PUnit × Reconciler}
    (decides : ∀ object, Decides (change object) (mutate object))
    (runs : Prog.Runs Replied (createOrUpdate k key blank mutate memory) s log outcome s') :
    s' = s ∨
      (s.find? k (scopedKey k key) = none ∧
        s' = (s.exec (.create k (inScope (change ⟨{ name := key.name, ns := key.ns }, blank⟩)) : Req)).2) ∨
      ∃ existing, s.find? k (scopedKey k key) = some existing ∧
        s' = (s.exec (.update k (inScope (change existing)) : Req)).2 := by
  obtain ⟨result, memory', between, first, rest, ran, ends, rfl⟩ := runs_attempt_bind runs
  obtain ⟨rfl, rfl, present, absent⟩ := clientGet_replied ran
  cases result with
  | error error =>
    dsimp only at ends
    split at ends
    · rename_i missing
      rcases (decides _).runs_bind ends with same | ends
      · exact .inl same
      · obtain ⟨_, created⟩ := runs_bind_pure ends
        rcases call_store (.create k _) id created with same | stored
        · exact .inl same
        · exact .inr (.inl ⟨absent error rfl missing, stored⟩)
    · cases ends
      exact .inl rfl
  | ok existing =>
    rcases (decides existing).runs_bind ends with same | ends
    · exact .inl same
    · split at ends
      · cases ends
        exact .inl rfl
      · obtain ⟨_, updated⟩ := runs_bind_pure ends
        rcases call_store (.update k _) id updated with same | stored
        · exact .inl same
        · exact .inr (.inr ⟨existing, present existing rfl, stored⟩)

end Calls

section Secrets

def wantedSecret (data : StrMap) (owner : Option Secret) (labels : List (String × String)) (secret : Secret) : Secret :=
  match owner with
  | none => filledSecret data labels secret
  | some owner => { filledSecret data labels secret with metadata := { (filledSecret data labels secret).metadata with
      ownerReferences := upsert referent ⟨"Secret", owner.metadata.name, owner.metadata.uid, false⟩
        secret.metadata.ownerReferences } }

theorem wantedSecret_metadata (data : StrMap) (owner : Option Secret) (labels : List (String × String)) (secret : Secret) :
    (wantedSecret data owner labels secret).metadata = { secret.metadata with
      labels := StrMap.copy secret.metadata.labels labels
      ownerReferences := (wantedSecret data owner labels secret).metadata.ownerReferences } := by
  cases owner with
  | none => rfl
  | some owner => rfl

theorem secretDataOf_wantedSecret (data : StrMap) (owner : Option Secret) (labels : List (String × String))
    (secret : Secret) : secretDataOf (wantedSecret data owner labels secret) = data := by
  cases owner with
  | none => rfl
  | some owner => rfl

theorem mutateSecret_decides {data : StrMap} {owner : Option Secret} {labels : List (String × String)} (secret : Secret) :
    Decides (wantedSecret data owner labels secret) (mutateSecret data owner labels secret) := by
  cases owner with
  | none => exact .inl rfl
  | some owner =>
    unfold mutateSecret setOwnerReference
    dsimp only
    split
    · exact .inr ⟨_, rfl⟩
    · exact .inl rfl

/-- What a run of `createOrUpdateSecret` may leave in the place of the secret. -/
inductive Put (change : Secret → Secret) (s s' : Cluster) : Prop where
  | nothing (same : s' = s)
  | created (absent : s.find? .secret peerPodsSecretKey = none)
      (stored : s'.find? .secret peerPodsSecretKey =
        some (s.newborn (change ⟨{ name := peerPodsSecretName, ns := operatorNamespace }, show SecretBody from ⟨∅⟩⟩)))
  | updated (existing : Secret) (present : s.find? .secret peerPodsSecretKey = some existing)
      (stored : s'.find? .secret peerPodsSecretKey = some (s.stamp (change existing)))

variable {data : StrMap} {owner : Option Secret} {labels : List (String × String)}

theorem wantedSecret_key (secret : Secret) : (wantedSecret data owner labels secret).key = secret.key := by
  simp only [Object.key, ObjectMeta.key]
  rw [wantedSecret_metadata]

theorem put_create {blank : Secret} (absent : secretIn s = none)
    (key : blank.key = peerPodsSecretKey) :
    (s.exec (.create .secret (wantedSecret data owner labels blank) : Req)).2 = s ∨
      (s.exec (.create .secret (wantedSecret data owner labels blank) : Req)).2.find? .secret peerPodsSecretKey =
        some (s.newborn (wantedSecret data owner labels blank)) := by
  have sameKey : (wantedSecret data owner labels blank).key = peerPodsSecretKey :=
    (wantedSecret_key blank).trans key
  rcases Store.exec_create_cases (P := Mark) (s := s) (wantedSecret data owner labels blank) with
    ⟨_, refused⟩ | ⟨_, added⟩
  · rw [refused]
    exact .inl rfl
  · rw [added]
    refine .inr (Collection.find?_eq_some.mpr ⟨?_, sameKey⟩)
    exact (Store.mem_insertNew (by rw [sameKey]; exact absent)).mpr (.inr rfl)

theorem put_update {existing : Secret} (present : secretIn s = some existing) :
    (s.exec (.update .secret (wantedSecret data owner labels existing) : Req)).2 = s ∨
      (s.exec (.update .secret (wantedSecret data owner labels existing) : Req)).2.find? .secret peerPodsSecretKey =
        some (s.stamp (wantedSecret data owner labels existing)) := by
  obtain ⟨member, key⟩ := Collection.find?_mem present
  have metadata := wantedSecret_metadata data owner labels existing
  have sameKey : (wantedSecret data owner labels existing).key = peerPodsSecretKey :=
    (wantedSecret_key existing).trans key
  rcases Store.exec_update_cases (P := Mark) (s := s) (wantedSecret data owner labels existing) with
    ⟨_, refused⟩ | ⟨stored, found, _, _, written⟩
  · rw [refused]
    exact .inl rfl
  · obtain rfl : existing = stored := by
      rw [sameKey] at found
      exact Option.some.inj (present.symm.trans found)
    have kept : Store.updated existing (wantedSecret data owner labels existing) =
        wantedSecret data owner labels existing := by
      have same : { (wantedSecret data owner labels existing).metadata with
          uid := existing.metadata.uid, deletionTimestamp := existing.metadata.deletionTimestamp } =
          (wantedSecret data owner labels existing).metadata := by
        rw [metadata]
      unfold Store.updated
      rw [same]
      rfl
    rw [written, kept]
    exact .inr (Store.find?_settle_kept present sameKey (by rw [metadata]) (by rw [metadata]) (by rw [metadata]))

theorem createOrUpdateSecret_runs {outcome : Except Err PUnit × Reconciler}
    (runs : Prog.Runs Replied (createOrUpdateSecret peerPodsSecretKey data owner labels memory) s log outcome s') :
    Put (wantedSecret data owner labels) s s' ∧
      ∀ key, key ≠ peerPodsSecretKey → s'.find? .secret key = s.find? .secret key := by
  rcases createOrUpdate_runs mutateSecret_decides runs with same | ⟨absent, stored⟩ | ⟨existing, present, stored⟩
  · exact ⟨.nothing same, fun key _ => by rw [same]⟩
  · refine ⟨?_, fun key differs => ?_⟩
    · have key : (⟨{ name := peerPodsSecretName, ns := operatorNamespace },
          show SecretBody from ⟨∅⟩⟩ : Secret).key = peerPodsSecretKey := rfl
      rcases put_create absent key with same | created
      · exact .nothing (stored.trans same)
      · exact .created absent (stored ▸ created)
    · rw [stored]
      refine Store.exec_find?_other fun target => differs ?_
      exact (congrArg Prod.snd (Option.some.inj target)).symm.trans (wantedSecret_key _)
  · refine ⟨?_, fun key differs => ?_⟩
    · rcases put_update present with same | updated
      · exact .nothing (stored.trans same)
      · exact .updated existing present (stored ▸ updated)
    · rw [stored]
      refine Store.exec_find?_other fun target => differs ?_
      exact (congrArg Prod.snd (Option.some.inj target)).symm.trans
        ((wantedSecret_key existing).trans (Collection.find?_mem present).2)

end Secrets

section Handlers

theorem reads_runs {ε α : Type} {routine : Op ε α} {outcome : Except ε α × Reconciler}
    (reads : Inquiry IsRead routine) (runs : Prog.Runs Replied (routine memory) s log outcome s') :
    outcome.2 = memory ∧ s = s' := by
  refine reads.runs_rel (fun _ => rfl) Eq.trans ?_ runs
  intro s r response s' read replied
  rcases Replied.store replied with same | carriedOut
  · exact same.symm
  · rw [carriedOut, read.exec_store]

theorem spares_runs {ε α : Type} {routine : Op ε α} {outcome : Except ε α × Reconciler}
    (spares : Inquiry (fun r : Req => r.writes ≠ some .secret) routine)
    (runs : Prog.Runs Replied (routine memory) s log outcome s') :
    outcome.2 = memory ∧ s'.objs .secret = s.objs .secret := by
  refine spares.runs_rel (R := fun s s' => s'.objs .secret = s.objs .secret) (fun _ => rfl) ?_ ?_ runs
  · intro _ _ _ first second
    exact second.trans first
  · intro s r response s' elsewhere replied
    rcases Replied.store replied with same | carriedOut
    · rw [same]
    · rw [carriedOut, Store.exec_objs_ne elsewhere]

section Requests

variable {p : Req → Prop} (reads : ∀ k key, p (.get k key))

@[grind ←]
theorem inquiry_envCredentials : Inquiry p (envCredentials settings) := by
  unfold envCredentials buildGCPWIFCredentials
  grind

include reads

@[grind ←]
theorem inquiry_isClusterInTokenBasedAuthMode {ε : Type} : Inquiry p (isClusterInTokenBasedAuthMode : Op ε Bool) := by
  unfold isClusterInTokenBasedAuthMode
  grind

@[grind ←]
theorem inquiry_createCredentialsRequests (creates : ∀ object, p (.create .credentialsRequest object)) :
    Inquiry p (createCredentialsRequests settings) := by
  unfold createCredentialsRequests
  grind

@[grind ←]
theorem inquiry_createOrUpdateSecret {key : Key} {data : StrMap} {owner : Option Secret}
    {labels : List (String × String)} (creates : ∀ object, p (.create .secret object))
    (updates : ∀ object, p (.update .secret object)) : Inquiry p (createOrUpdateSecret key data owner labels) := by
  unfold createOrUpdateSecret createOrUpdate mutateSecret setOwnerReference
  grind

@[grind ←]
theorem inquiry_trySetup (creates : ∀ object, p (.create .secret object))
    (updates : ∀ object, p (.update .secret object)) : Inquiry p (trySetupCredentialsFromEnv settings) := by
  unfold trySetupCredentialsFromEnv
  grind

theorem inquiry_teardown (deletes : ∀ k key, p (.delete k key)) : Inquiry p (teardownPeerPodsCredentials settings) := by
  have requests : Inquiry p (deleteCredentialsRequests settings) :=
    inquiry_deleteCredentialsRequests reads (deletes _)
  refine Inquiry.bind (inquiry_clientGet (reads _ _)).attempt fun found => ?_
  cases found with
  | error error => grind
  | ok secret =>
    dsimp only
    split <;> grind

end Requests

def blankSecret : Secret :=
  ⟨{ name := peerPodsSecretName, ns := operatorNamespace }, show SecretBody from ⟨∅⟩⟩

abbrev envSecret (data : StrMap) : Secret → Secret := wantedSecret data none [(labelExplicitDeletion, "true")]

abbrev mappedSecret (settings : CredentialsSettings) (ccoSecret : Secret) : Secret → Secret :=
  wantedSecret (ccoDataMapping settings (secretDataOf ccoSecret)) (some ccoSecret) [(labelCredentialsRequest, "true")]

/-- What a run of a handler can do to the secret. -/
inductive Effect (settings : CredentialsSettings) (s s' : Cluster) : SecretOrigin → Prop where
  | kept {origin : SecretOrigin} (same : s'.find? .secret peerPodsSecretKey = s.find? .secret peerPodsSecretKey) :
      Effect settings s s' origin
  | setUp (data : StrMap) (absent : s.find? .secret peerPodsSecretKey = none)
      (stored : s'.find? .secret peerPodsSecretKey = some (s.newborn (envSecret data blankSecret))) :
      Effect settings s s' .trySetupCredentialsFromEnv
  | deleted (secret : Secret) (present : s.find? .secret peerPodsSecretKey = some secret)
      (marked : needsExplicitDeletion secret = true)
      (after : s'.find? .secret peerPodsSecretKey = none ∨
        s'.find? .secret peerPodsSecretKey = some (s.stamp (Store.doomed secret))) :
      Effect settings s s' .trySetupCredentialsFromEnv
  | mapped (ccoSecret : Secret) (source : s.find? .secret ccoSecretKey = some ccoSecret)
      (still : s'.find? .secret ccoSecretKey = some ccoSecret)
      (absent : s.find? .secret peerPodsSecretKey = none)
      (stored : s'.find? .secret peerPodsSecretKey = some (s.newborn (mappedSecret settings ccoSecret blankSecret))) :
      Effect settings s s' .secretReconciler
  | remapped (ccoSecret existing : Secret) (source : s.find? .secret ccoSecretKey = some ccoSecret)
      (still : s'.find? .secret ccoSecretKey = some ccoSecret)
      (present : s.find? .secret peerPodsSecretKey = some existing) (owned : isOwnedByCCOSecret existing = true)
      (stored : s'.find? .secret peerPodsSecretKey = some (s.stamp (mappedSecret settings ccoSecret existing))) :
      Effect settings s s' .secretReconciler

theorem find?_eq_of_secrets (same : s'.objs .secret = s.objs .secret) :
    secretIn s' = secretIn s :=
  congrArg (fun secrets => Collection.find? secrets peerPodsSecretKey) same

theorem trySetup_runs {outcome : Except Err Bool × Reconciler} (absent : secretIn s = none)
    (runs : Prog.Runs Replied (trySetupCredentialsFromEnv settings memory) s log outcome s') :
    Effect settings s s' .trySetupCredentialsFromEnv := by
  rcases runs_bind runs with ⟨found, memory', between, first, rest, ran, ends, rfl⟩ | ⟨error, memory', ran, _⟩
  · obtain ⟨_, rfl⟩ := reads_runs inquiry_envCredentials ran
    cases found with
    | none =>
      cases ends
      exact .kept rfl
    | some secretData =>
      obtain ⟨_, written⟩ := runs_bind_pure ends
      obtain ⟨put, _⟩ := createOrUpdateSecret_runs written
      cases put with
      | nothing same => exact .kept (by rw [same])
      | created _ stored => exact .setUp secretData absent stored
      | updated existing present _ => cases absent.symm.trans present
  · obtain ⟨_, rfl⟩ := reads_runs inquiry_envCredentials ran
    exact .kept rfl

/-- A request the secret's set-up may make. -/
def SetsUp (r : Req) : Prop := ∀ k key, r ≠ .delete k key

def Maps (r : Req) : Prop := SetsUp r ∧ ∀ object, r ≠ .create .credentialsRequest object

/-- How far a set-up gets: it stops having only read, or there is no secret and it goes on
with the environment or with a request, as the mode of the cluster says. -/
inductive SetupRun (settings : CredentialsSettings) (s : Cluster) (log : List ((r : Req) × Response r))
    (s' : Cluster) : Prop where
  | stopped (same : s = s') (quiet : ∀ entry ∈ log, Maps entry.1)
  | fromEnv {earlier during : List ((r : Req) × Response r)} {outcome : Except Err Bool × Reconciler}
      (absent : s.find? .secret peerPodsSecretKey = none) (split : log = earlier ++ during)
      (quiet : ∀ entry ∈ earlier, Maps entry.1)
      (runs : Prog.Runs Replied (trySetupCredentialsFromEnv settings {}) s during outcome s')
  | fromRequest {earlier later : List ((r : Req) × Response r)} {outcome : Except Err PUnit × Reconciler}
      (absent : s.find? .secret peerPodsSecretKey = none) (split : log = earlier ++ later)
      (quiet : ∀ entry ∈ earlier, Maps entry.1) (mode : FoundNotTokenBased s earlier)
      (runs : Prog.Runs Replied (createCredentialsRequests settings {}) s later outcome s')

theorem quiet_append {first second : List ((r : Req) × Response r)} (one : ∀ entry ∈ first, Maps entry.1)
    (other : ∀ entry ∈ second, Maps entry.1) : ∀ entry ∈ first ++ second, Maps entry.1 := by
  intro entry member
  rcases List.mem_append.mp member with early | late
  · exact one entry early
  · exact other entry late

theorem setup_cases {outcome : Except Err Bool × Reconciler}
    (runs : Prog.Runs Replied (setupPeerPodsCredentials settings {}) s log outcome s') :
    SetupRun settings s log s' := by
  have reads (k : Kind) (key : Key) : Maps (.get k key) := ⟨nofun, nofun⟩
  have looks : Inquiry Maps getPeerPodsSecret := inquiry_clientGet (reads _ _)
  have asks : Inquiry Maps (isClusterInTokenBasedAuthMode : Op Err Bool) := inquiry_isClusterInTokenBasedAuthMode reads
  obtain ⟨result, memory', between, first, rest, ran, ends, rfl⟩ := runs_attempt_bind runs
  have looked := looks.mem_runs ran
  obtain ⟨rfl, rfl, _, absent⟩ := clientGet_replied ran
  cases result with
  | ok secret =>
    cases ends
    exact .stopped rfl (by simpa using looked)
  | error error =>
    dsimp only at ends
    split at ends
    · cases ends
      exact .stopped rfl (by simpa using looked)
    rename_i missing
    have vacant := absent error rfl (by simpa using missing)
    rcases runs_bind ends with ⟨tokenBased, memory', between, during, later, ran, ends, rfl⟩ | ⟨_, _, ran, _⟩
    · have quiet := quiet_append looked (asks.mem_runs ran)
      obtain ⟨rfl, rfl⟩ := reads_runs (inquiry_isClusterInTokenBasedAuthMode fun _ _ => rfl) ran
      have split := (List.append_assoc first during later).symm
      cases tokenBased with
      | true =>
        obtain ⟨_, tried⟩ := runs_bind_pure ends
        exact .fromEnv vacant split quiet tried
      | false =>
        obtain ⟨_, created⟩ := runs_bind_pure ends
        exact .fromRequest vacant split quiet ⟨first, during, rfl, ran⟩ created
    · obtain ⟨_, rfl⟩ := reads_runs (inquiry_isClusterInTokenBasedAuthMode fun _ _ => rfl) ran
      exact .stopped rfl (quiet_append looked (asks.mem_runs ran))

theorem createRequests_runs {outcome : Except Err PUnit × Reconciler}
    (runs : Prog.Runs Replied (createCredentialsRequests settings memory) s log outcome s') :
    s'.objs .secret = s.objs .secret := by
  have spares : Inquiry (fun r : Req => r.writes ≠ some .secret) (createCredentialsRequests settings) :=
    inquiry_createCredentialsRequests (by simp [Request.writes]) (by simp [Request.writes])
  exact (spares_runs spares runs).2

theorem SetupRun.effect (run : SetupRun settings s log s') : Effect settings s s' .trySetupCredentialsFromEnv := by
  cases run with
  | stopped same _ => exact .kept (by rw [same])
  | fromEnv absent _ _ runs => exact trySetup_runs absent runs
  | fromRequest _ _ _ _ runs =>
    exact .kept (find?_eq_of_secrets (createRequests_runs runs))

theorem requests_runs {outcome : Except Err Bool × Reconciler}
    (runs : Prog.Runs Replied ((deleteCredentialsRequests settings >>= fun _ => Pure.pure true : Op Err Bool) memory) s
      log outcome s') : s'.objs .secret = s.objs .secret := by
  obtain ⟨_, ran⟩ := runs_bind_pure runs
  have spares : Inquiry (fun r : Req => r.writes ≠ some .secret) (deleteCredentialsRequests settings) :=
    inquiry_deleteCredentialsRequests (by simp [Request.writes]) (by simp [Request.writes])
  exact (spares_runs spares ran).2

theorem find?_deleted {secret : Secret} (present : secretIn s = some secret) :
    (s.exec (.delete .secret peerPodsSecretKey : Req)).2 = s ∨
      (s.exec (.delete .secret peerPodsSecretKey : Req)).2.find? .secret peerPodsSecretKey = none ∨
      (s.exec (.delete .secret peerPodsSecretKey : Req)).2.find? .secret peerPodsSecretKey =
        some (s.stamp (Store.doomed secret)) := by
  rcases Store.exec_delete_cases (P := Mark) (s := s) .secret peerPodsSecretKey with
    ⟨_, refused⟩ | ⟨stored, found, written⟩
  · rw [refused]
    exact .inl rfl
  · obtain rfl : secret = stored := Option.some.inj (present.symm.trans found)
    rw [written]
    have key : (Store.doomed secret).key = peerPodsSecretKey := (Collection.find?_mem present).2
    dsimp only
    rw [Store.find?_settle (Store.doomed secret) present key rfl]
    split
    · exact .inr (.inl rfl)
    · exact .inr (.inr rfl)

theorem teardown_runs {outcome : Except Err Bool × Reconciler}
    (runs : Prog.Runs Replied (teardownPeerPodsCredentials settings memory) s log outcome s') :
    secretIn s' = secretIn s ∨
      ∃ secret, secretIn s = some secret ∧ needsExplicitDeletion secret = true ∧
        (secretIn s' = none ∨
          secretIn s' = some (s.stamp (Store.doomed secret))) := by
  obtain ⟨result, memory', between, first, rest, ran, ends, rfl⟩ := runs_attempt_bind runs
  obtain ⟨rfl, rfl, found, _⟩ := clientGet_replied ran
  cases result with
  | error error => exact .inl (find?_eq_of_secrets (requests_runs ends))
  | ok secret =>
    have present : secretIn s = some secret := found secret rfl
    dsimp only at ends
    split at ends
    · rename_i marked
      obtain ⟨result, memory', between, first, rest, ran, ends, rfl⟩ := runs_attempt_bind ends
      have key : secret.key = peerPodsSecretKey := (Collection.find?_mem present).2
      have requested : s'.objs .secret = between.objs .secret := by
        cases result with
        | ok _ => exact requests_runs ends
        | error error =>
          dsimp only at ends
          split at ends
          · cases ends
            rfl
          · exact requests_runs ends
      have after := find?_eq_of_secrets requested
      rcases call_store (.delete .secret (scopedKey .secret secret.key)) id ran with same | carriedOut
      · exact .inl (after.trans (by rw [same]))
      · replace carriedOut : between = (s.exec (.delete .secret peerPodsSecretKey : Req)).2 := by
          rw [carriedOut, key]
          rfl
        rcases find?_deleted present with same | gone
        · exact .inl (after.trans (by rw [carriedOut, same]))
        · refine .inr ⟨secret, present, marked, ?_⟩
          rw [after, carriedOut]
          exact gone
    · exact .inl (find?_eq_of_secrets (requests_runs ends))

theorem mapCCOSecret_runs {ccoSecret : Secret} {outcome : Except Err Result × Reconciler}
    (runs : Prog.Runs Replied (reconcileSecret.mapCCOSecret settings ccoSecret memory) s log outcome s') :
    Put (mappedSecret settings ccoSecret) s s' ∧
      ∀ key, key ≠ peerPodsSecretKey → s'.find? .secret key = s.find? .secret key := by
  obtain ⟨result, memory', between, first, rest, ran, ends, rfl⟩ := runs_attempt_bind runs
  cases result with
  | ok value =>
    cases ends
    exact createOrUpdateSecret_runs ran
  | error error =>
    cases ends
    exact createOrUpdateSecret_runs ran

theorem reconcile_runs {outcome : Except Err Result × Reconciler}
    (runs : Prog.Runs Replied (reconcileSecret settings memory) s log outcome s') :
    Effect settings s s' .secretReconciler := by
  have elsewhere : ccoSecretKey ≠ peerPodsSecretKey := by decide
  obtain ⟨result, memory', between, first, rest, ran, ends, rfl⟩ := runs_attempt_bind runs
  obtain ⟨rfl, rfl, found, _⟩ := clientGet_replied ran
  cases result with
  | error error =>
    dsimp only at ends
    split at ends
    · cases ends
      exact .kept rfl
    · cases ends
      exact .kept rfl
  | ok ccoSecret =>
    have source : s.find? .secret ccoSecretKey = some ccoSecret := found ccoSecret rfl
    obtain ⟨result, memory', between, first, rest, ran, ends, rfl⟩ := runs_attempt_bind ends
    obtain ⟨rfl, rfl, found, missing⟩ := clientGet_replied ran
    cases result with
    | error error =>
      dsimp only at ends
      split at ends
      · rename_i notFound
        obtain ⟨put, others⟩ := mapCCOSecret_runs ends
        have absent : secretIn s = none := missing error rfl notFound
        cases put with
        | nothing same => exact .kept (by rw [same])
        | created _ stored => exact .mapped ccoSecret source ((others _ elsewhere).trans source) absent stored
        | updated existing present _ => cases absent.symm.trans present
      · cases ends
        exact .kept rfl
    | ok secret =>
      have present : secretIn s = some secret := found secret rfl
      dsimp only at ends
      split at ends
      · rename_i owned
        obtain ⟨put, others⟩ := mapCCOSecret_runs ends
        cases put with
        | nothing same => exact .kept (by rw [same])
        | created absent _ => cases absent.symm.trans present
        | updated existing found stored =>
          obtain rfl : secret = existing := Option.some.inj (present.symm.trans found)
          exact .remapped ccoSecret secret source ((others _ elsewhere).trans source) present owned stored
      · cases ends
        exact .kept rfl

theorem event_runs {event : KataConfigEvent} {outcome : Except Err PUnit × Reconciler}
    (runs : Prog.Runs Replied (handleKataConfigEvent settings event memory) s log outcome s') :
    (s' = s ∧ log = []) ∨
      (∃ outcome', Prog.Runs Replied (setupPeerPodsCredentials settings memory) s log outcome' s') ∨
      ∃ outcome', Prog.Runs Replied (teardownPeerPodsCredentials settings memory) s log outcome' s' := by
  have ran {routine : Op Err Bool}
      (runs : Prog.Runs Replied ((Routine.ignore routine : Op Err PUnit) memory) s log outcome s') :
      ∃ outcome', Prog.Runs Replied (routine memory) s log outcome' s' := by
    obtain ⟨result, memory', runs, _⟩ := ignore_runs runs
    exact ⟨_, runs⟩
  cases event with
  | create object =>
    change Prog.Runs Replied ((if _ then _ else _ : Op Err PUnit) memory) s log outcome s' at runs
    split at runs
    · exact .inr (.inl (ran runs))
    · cases runs
      exact .inl ⟨rfl, rfl⟩
  | update objectNew =>
    change Prog.Runs Replied ((if _ then _ else _ : Op Err PUnit) memory) s log outcome s' at runs
    split at runs
    · exact .inr (.inl (ran runs))
    · exact .inr (.inr (ran runs))
  | delete object =>
    change Prog.Runs Replied ((if _ then _ else _ : Op Err PUnit) memory) s log outcome s' at runs
    split at runs
    · exact .inr (.inr (ran runs))
    · cases runs
      exact .inl ⟨rfl, rfl⟩

theorem operatorRun_effect {origin : SecretOrigin} (run : OperatorRun settings s origin log s') :
    Effect settings s s' origin := by
  cases run with
  | reconcile runs => exact reconcile_runs runs
  | event event runs =>
    rcases event_runs runs with ⟨rfl, _⟩ | ⟨_, ran⟩ | ⟨_, ran⟩
    · exact .kept rfl
    · exact (setup_cases ran).effect
    · rcases teardown_runs ran with same | ⟨secret, present, marked, after⟩
      · exact .kept same
      · exact .deleted secret present marked after

end Handlers

section Marks

variable {secret : Secret}

theorem marksOf_envSecret (data : StrMap) : marksOf (envSecret data blankSecret) = ⟨true, false, false⟩ := by
  have explicit : StrMap.hasKey (StrMap.copy ∅ [(labelExplicitDeletion, "true")]) labelExplicitDeletion = true := by
    decide
  have credentials : StrMap.hasKey (StrMap.copy ∅ [(labelExplicitDeletion, "true")]) labelCredentialsRequest = false := by
    decide
  rw [marksOf, SecretMarks.mk.injEq]
  exact ⟨explicit, credentials, rfl⟩

theorem marksOf_mappedSecret (settings : CredentialsSettings) {ccoSecret : Secret}
    (named : ccoSecret.metadata.name = credentialsRequestSecretRefName) :
    marksOf (mappedSecret settings ccoSecret secret) = ⟨(marksOf secret).explicitDeletion, true, true⟩ := by
  have different : labelExplicitDeletion ≠ labelCredentialsRequest := by decide
  rw [marksOf, SecretMarks.mk.injEq]
  refine ⟨?_, ?_, ?_⟩
  · rw [wantedSecret_metadata]
    simp [StrMap.copy, StrMap.hasKey_insert, different, marksOf]
  · rw [wantedSecret_metadata]
    simp [StrMap.copy, StrMap.hasKey_insert]
  · simp only [isOwnedByCCOSecret, wantedSecret, named]
    exact List.any_eq_true.mpr ⟨_, mem_upsert_self, rfl⟩

end Marks

section Histories

variable {ledger : SecretLedger} {origin : SecretOrigin} {secret : Secret}

def originMarks : SecretOrigin → SecretMarks
  | .trySetupCredentialsFromEnv => ⟨true, false, false⟩
  | .secretReconciler => ⟨false, true, true⟩
  | .user => noMarks

/-- The stored secret has the marks of its creator. -/
def Traced (s : Cluster) (ledger : SecretLedger) : Prop :=
  ∀ secret, s.find? .secret peerPodsSecretKey = some secret →
    ∃ origin, ledger.lookup secret.metadata.uid = some origin ∧ marksOf secret = originMarks origin

theorem lookup_entered (stored : s'.find? .secret peerPodsSecretKey = some secret) :
    (entered origin s s' ledger).lookup secret.metadata.uid =
      if s.version < secret.metadata.uid then some origin else ledger.lookup secret.metadata.uid := by
  unfold entered
  rw [stored]
  dsimp only
  split
  · exact List.lookup_cons_self
  · rfl

theorem uid_le (stored : secretIn s = some secret) : ¬s.version < secret.metadata.uid :=
  Nat.not_lt.mpr (s.assigned .secret secret (Collection.find?_mem stored).1).uid_le

theorem traced_of_same {after : Secret} (traced : Traced s ledger)
    (before : secretIn s = some secret)
    (stored : secretIn s' = some after) (uid : after.metadata.uid = secret.metadata.uid) :
    ∃ creator, (entered origin s s' ledger).lookup after.metadata.uid = some creator ∧
      marksOf secret = originMarks creator := by
  obtain ⟨creator, known, marks⟩ := traced secret before
  refine ⟨creator, ?_, marks⟩
  rw [lookup_entered stored, uid, if_neg (uid_le before)]
  exact known

theorem ccoSecret_name {ccoSecret : Secret} (source : s.find? .secret ccoSecretKey = some ccoSecret) :
    ccoSecret.metadata.name = credentialsRequestSecretRefName :=
  congrArg Key.name (Collection.find?_mem source).2

theorem Effect.traced (effect : Effect settings s s' origin) (traced : Traced s ledger) :
    Traced s' (entered origin s s' ledger) := by
  intro secret stored
  cases effect with
  | kept same =>
    obtain ⟨creator, known, marks⟩ := traced_of_same traced (same.symm.trans stored) stored rfl
    exact ⟨creator, known, marks⟩
  | setUp data absent created =>
    obtain rfl := Option.some.inj (created.symm.trans stored)
    refine ⟨.trySetupCredentialsFromEnv, ?_, marksOf_envSecret data⟩
    rw [lookup_entered stored]
    exact if_pos (Nat.lt_succ_self _)
  | deleted before present marked after =>
    rcases after with gone | doomed
    · cases gone.symm.trans stored
    · obtain rfl := Option.some.inj (doomed.symm.trans stored)
      obtain ⟨creator, known, marks⟩ := traced_of_same traced present stored rfl
      exact ⟨creator, known, marks⟩
  | mapped ccoSecret source still absent created =>
    obtain rfl := Option.some.inj (created.symm.trans stored)
    refine ⟨.secretReconciler, ?_, marksOf_mappedSecret settings (ccoSecret_name source)⟩
    rw [lookup_entered stored]
    exact if_pos (Nat.lt_succ_self _)
  | remapped ccoSecret existing source still present owned written =>
    obtain rfl := Option.some.inj (written.symm.trans stored)
    have uid : (mappedSecret settings ccoSecret existing).metadata.uid = existing.metadata.uid := by
      rw [wantedSecret_metadata]
    obtain ⟨creator, known, marks⟩ := traced_of_same traced present stored uid
    refine ⟨creator, known, ?_⟩
    -- only what the reconciler itself created has the owner it looks for
    cases creator with
    | secretReconciler =>
      refine (marksOf_mappedSecret settings (ccoSecret_name source)).trans ?_
      rw [marks]
      rfl
    | trySetupCredentialsFromEnv | user =>
      have unowned : (marksOf existing).owned = false := by rw [marks]; rfl
      exact absurd owned (by simpa [marksOf] using unowned)

theorem traced_step {ledger' : SecretLedger} (traced : Traced s ledger)
    (step : SecretStep settings (s, ledger) (s', ledger')) : Traced s' ledger' := by
  cases step with
  | operator run => exact (operatorRun_effect run).traced traced
  | other change kept =>
    intro secret stored
    rcases kept secret stored with ⟨fresh, plain⟩ | ⟨before, present, uid, marks⟩
    · refine ⟨.user, ?_, plain⟩
      rw [lookup_entered stored]
      exact if_pos fresh
    · obtain ⟨creator, known, same⟩ := traced_of_same traced present stored uid.symm
      exact ⟨creator, known, marks.trans same⟩

theorem traced_of_history {start state : Cluster × SecretLedger} (empty : secretIn start.1 = none)
    (history : Relation.ReflTransGen (SecretStep settings) start state) : Traced state.1 state.2 := by
  induction history with
  | refl =>
    intro secret stored
    cases empty.symm.trans stored
  | tail _ step ih => exact traced_step ih step

end Histories

section Logs

variable {p : Req → Prop}

theorem maps_get (k : Kind) (key : Key) : Maps (.get k key) := ⟨nofun, nofun⟩

theorem inquiry_reconcileSecret {ε : Type} : Inquiry Maps (reconcileSecret settings : Op ε Result) := by
  have writes (ccoSecret : Secret) : Inquiry Maps (reconcileSecret.mapCCOSecret settings ccoSecret : Op ε Result) := by
    have put {data : StrMap} : Inquiry Maps
        (createOrUpdateSecret peerPodsSecretKey data (some ccoSecret) [(labelCredentialsRequest, "true")]) :=
      inquiry_createOrUpdateSecret maps_get (fun _ => ⟨nofun, nofun⟩) fun _ => ⟨nofun, nofun⟩
    unfold reconcileSecret.mapCCOSecret
    grind
  unfold reconcileSecret getPeerPodsSecret
  grind [maps_get]

theorem inquiry_setup : Inquiry SetsUp (setupPeerPodsCredentials settings) := by
  have reads (k : Kind) (key : Key) : SetsUp (.get k key) := nofun
  have tries : Inquiry SetsUp (trySetupCredentialsFromEnv settings) :=
    inquiry_trySetup reads (fun _ => nofun) fun _ => nofun
  have creates : Inquiry SetsUp (createCredentialsRequests settings) :=
    inquiry_createCredentialsRequests reads fun _ => nofun
  unfold setupPeerPodsCredentials getPeerPodsSecret
  grind

theorem teardown_deletes {outcome : Except Err Bool × Reconciler}
    {response : Response (.delete .secret peerPodsSecretKey : Req)}
    (runs : Prog.Runs Replied (teardownPeerPodsCredentials settings memory) s log outcome s')
    (deletes : ⟨.delete .secret peerPodsSecretKey, response⟩ ∈ log) :
    ∃ secret, secretIn s = some secret ∧ needsExplicitDeletion secret = true := by
  obtain ⟨result, memory', between, first, rest, ran, ends, rfl⟩ := runs_attempt_bind runs
  have looks : Inquiry SetsUp getPeerPodsSecret := inquiry_clientGet nofun
  have asked : ⟨.delete .secret peerPodsSecretKey, response⟩ ∈ rest := by
    rcases List.mem_append.mp deletes with early | late
    · exact absurd rfl (looks.mem_runs ran _ early _ _)
    · exact late
  have requests : Inquiry (· ≠ .delete .secret peerPodsSecretKey)
      (deleteCredentialsRequests settings >>= fun _ => Pure.pure true : Op Err Bool) :=
    (inquiry_deleteCredentialsRequests (fun _ _ => nofun) fun _ => by simp).bind fun _ => inquiry_pure _
  cases result with
  | error error => exact absurd rfl (requests.mem_runs ends _ asked)
  | ok secret =>
    have present := (clientGet_replied ran).2.2.1 secret rfl
    dsimp only at ends
    split at ends
    · rename_i marked
      exact ⟨secret, present, marked⟩
    · exact absurd rfl (requests.mem_runs ends _ asked)

theorem delete_marked {origin : SecretOrigin} {response : Response (.delete .secret peerPodsSecretKey : Req)}
    (run : OperatorRun settings s origin log s') (deletes : ⟨.delete .secret peerPodsSecretKey, response⟩ ∈ log) :
    ∃ secret, secretIn s = some secret ∧ needsExplicitDeletion secret = true := by
  cases run with
  | reconcile runs => exact absurd rfl ((inquiry_reconcileSecret.mem_runs runs _ deletes).1 _ _)
  | event event runs =>
    rcases event_runs runs with ⟨_, rfl⟩ | ⟨_, ran⟩ | ⟨_, ran⟩
    · cases deletes
    · exact absurd rfl (inquiry_setup.mem_runs ran _ deletes _ _)
    · exact teardown_deletes ran deletes

theorem SetupRun.creates {object : CredentialsRequest} {response : Response (.create .credentialsRequest object : Req)}
    (run : SetupRun settings s log s') (creates : ⟨.create .credentialsRequest object, response⟩ ∈ log) :
    secretIn s = none ∧ ∃ earlier later, log = earlier ++ later ∧
      FoundNotTokenBased s earlier ∧ ⟨.create .credentialsRequest object, response⟩ ∈ later := by
  cases run with
  | stopped _ quiet => exact absurd rfl ((quiet _ creates).2 object)
  | fromEnv _ split quiet runs =>
    rw [split] at creates
    have setup : Inquiry Maps (trySetupCredentialsFromEnv settings) :=
      inquiry_trySetup maps_get (fun _ => ⟨nofun, nofun⟩) fun _ => ⟨nofun, nofun⟩
    exact absurd rfl ((quiet_append quiet (setup.mem_runs runs) _ creates).2 object)
  | fromRequest absent split quiet mode runs =>
    refine ⟨absent, _, _, split, mode, ?_⟩
    rw [split] at creates
    rcases List.mem_append.mp creates with early | late
    · exact absurd rfl ((quiet _ early).2 object)
    · exact late

theorem event_creates (run : OperatorRun settings s .trySetupCredentialsFromEnv log s')
    (absent : secretIn s = none) (present : secretIn s' ≠ none) :
    ∃ earlier during outcome, log = earlier ++ during ∧
      Prog.Runs Replied (trySetupCredentialsFromEnv settings {}) s during outcome s' := by
  cases run with
  | event event runs =>
    rcases event_runs runs with ⟨rfl, _⟩ | ⟨_, ran⟩ | ⟨_, ran⟩
    · exact absurd absent present
    · cases setup_cases ran with
      | stopped same _ => exact absurd (same ▸ absent) present
      | fromEnv _ split _ tried => exact ⟨_, _, _, split, tried⟩
      | fromRequest _ _ _ _ created =>
        have same := find?_eq_of_secrets (createRequests_runs created)
        exact absurd (same.trans absent) present
    · rcases teardown_runs ran with same | ⟨secret, found, _⟩
      · exact absurd (same.trans absent) present
      · cases absent.symm.trans found

theorem create_only {origin : SecretOrigin} {object : CredentialsRequest}
    {response : Response (.create .credentialsRequest object : Req)} (run : OperatorRun settings s origin log s')
    (creates : ⟨.create .credentialsRequest object, response⟩ ∈ log) :
    secretIn s = none ∧ ∃ earlier later, log = earlier ++ later ∧
      FoundNotTokenBased s earlier ∧ ⟨.create .credentialsRequest object, response⟩ ∈ later := by
  cases run with
  | reconcile runs => exact absurd rfl ((inquiry_reconcileSecret.mem_runs runs _ creates).2 _)
  | event event runs =>
    rcases event_runs runs with ⟨_, rfl⟩ | ⟨_, ran⟩ | ⟨_, ran⟩
    · cases creates
    · exact (setup_cases ran).creates creates
    · exact absurd rfl ((inquiry_teardown (p := fun r => ∀ object, r ≠ .create .credentialsRequest object)
        (fun _ _ => nofun) fun _ _ => nofun).mem_runs ran _ creates _)

end Logs

end SecretProvenance

/-- Whoever deals with `peer-pods-secret`, one after the other: its marks tell who created
it; a mapping leaves in it what the `cco-secret` says; the operator deletes it only with
the label it put there, and asks for credentials only where there is no secret and the
cluster was found not to be in token-based mode. -/
theorem peerPodsSecret_provenance {settings : CredentialsSettings} {s₀ s : Cluster} {ledger : SecretLedger}
    (without : (s₀.objs .secret).items = [])
    (history : Relation.ReflTransGen (SecretStep settings) (s₀, []) (s, ledger)) :
    (∀ secret, s.find? .secret peerPodsSecretKey = some secret → ((marksOf secret).explicitDeletion = true ↔
        ledger.lookup secret.metadata.uid = some .trySetupCredentialsFromEnv) ∧
      ((marksOf secret).credentialsRequest = true ↔ ledger.lookup secret.metadata.uid = some .secretReconciler) ∧
      ((marksOf secret).owned = true ↔ ledger.lookup secret.metadata.uid = some .secretReconciler) ∧
      ¬((marksOf secret).explicitDeletion = true ∧ (marksOf secret).credentialsRequest = true)) ∧
    (∀ log s', OperatorRun settings s .trySetupCredentialsFromEnv log s' →
      s.find? .secret peerPodsSecretKey = none → s'.find? .secret peerPodsSecretKey ≠ none →
        ∃ earlier during outcome, log = earlier ++ during ∧
          Prog.Runs Replied (trySetupCredentialsFromEnv settings {}) s during outcome s') ∧
    (∀ log s', OperatorRun settings s .secretReconciler log s' →
      s'.find? .secret peerPodsSecretKey ≠ s.find? .secret peerPodsSecretKey →
        ∃ secret ccoSecret, s'.find? .secret peerPodsSecretKey = some secret ∧
          s'.find? .secret ccoSecretKey = some ccoSecret ∧
          secretDataOf secret = ccoDataMapping settings (secretDataOf ccoSecret)) ∧
    (∀ origin log s' response, OperatorRun settings s origin log s' →
      ⟨.delete .secret peerPodsSecretKey, response⟩ ∈ log →
        ∃ secret, s.find? .secret peerPodsSecretKey = some secret ∧ (marksOf secret).explicitDeletion = true) ∧
    ∀ origin log s' object response, OperatorRun settings s origin log s' →
      ⟨.create .credentialsRequest object, response⟩ ∈ log →
        s.find? .secret peerPodsSecretKey = none ∧ ∃ earlier later, log = earlier ++ later ∧
          FoundNotTokenBased s earlier ∧ ⟨.create .credentialsRequest object, response⟩ ∈ later := by
  have empty : s₀.find? .secret peerPodsSecretKey = none := by
    simp [Store.find?, Collection.find?, without]
  have traced : SecretProvenance.Traced s ledger := SecretProvenance.traced_of_history empty history
  refine ⟨fun secret stored => ?_, fun log s' run absent present => SecretProvenance.event_creates run absent present,
    fun log s' run changed => ?_, fun origin log s' response run deletes => ?_,
    fun origin log s' object response run creates => SecretProvenance.create_only run creates⟩
  · obtain ⟨origin, known, marks⟩ := traced secret stored
    rw [known, marks]
    cases origin <;> simp [SecretProvenance.originMarks, noMarks]
  · cases SecretProvenance.operatorRun_effect run with
    | kept same => exact absurd same changed
    | mapped ccoSecret source still absent stored =>
      exact ⟨_, ccoSecret, stored, still, SecretProvenance.secretDataOf_wantedSecret _ _ _ _⟩
    | remapped ccoSecret existing source still present owned stored =>
      exact ⟨_, ccoSecret, stored, still, SecretProvenance.secretDataOf_wantedSecret _ _ _ _⟩
  · obtain ⟨secret, stored, marked⟩ := SecretProvenance.delete_marked run deletes
    refine ⟨secret, stored, ?_⟩
    by_contra unlabeled
    have absent : secret.metadata.labels.lookup labelExplicitDeletion = none := by
      simpa [marksOf, StrMap.hasKey] using unlabeled
    simp [needsExplicitDeletion, StrMap.getD, absent] at marked

/-- A `cco-secret` appears and is mapped. -/
theorem peerPodsSecret_provenance_mapped : ∃ (s : Cluster) (ledger : SecretLedger) (secret : Secret),
    s.find? .secret peerPodsSecretKey = some secret ∧ (marksOf secret).owned = true ∧
      ledger.lookup secret.metadata.uid = some .secretReconciler := by
  let ccoSecret : Secret := ⟨{ name := credentialsRequestSecretRefName, ns := operatorNamespace },
    show SecretBody from ⟨StrMap.ofList [("aws_access_key_id", "key")]⟩⟩
  let appears : Change := .request (.create .secret ccoSecret)
  let s : Cluster := appears.apply (.empty fun _ => true)
  let s' : Cluster := ((reconcileSecret roleSettings : Op Err Result) {} |>.eval Store.exec s).2
  have honest (s : Cluster) (r : Req) : Replied s r (s.exec r).1 (s.exec r).2 := .inl (.inl rfl)
  obtain ⟨log, runs⟩ := Prog.runs_eval _ _ honest ((reconcileSecret roleSettings : Op Err Result) {}) s
  have before : (s.find? .secret peerPodsSecretKey).isNone = true := by decide +kernel
  have after : ((s'.find? .secret peerPodsSecretKey).any fun secret => (marksOf secret).owned) = true := by
    decide +kernel
  have kept : MarksKept (.empty fun _ => true) s := by
    intro secret stored
    cases (Option.isNone_iff_eq_none.mp before).symm.trans stored
  have history : Relation.ReflTransGen (SecretStep roleSettings) (.empty fun _ => true, [])
      (s', entered .secretReconciler s s' (entered .user (.empty fun _ => true) s [])) :=
    .tail (.single (.other appears kept)) (.operator (.reconcile runs))
  obtain ⟨secret, stored, owned⟩ := (Option.any_eq_true _ _).mp after
  obtain ⟨_, _, created, _⟩ := (peerPodsSecret_provenance rfl history).1 secret stored
  exact ⟨s', _, secret, stored, owned, created.mp owned⟩

end SandboxedContainers
