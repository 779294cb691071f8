import SandboxedContainers.Concurrency
import SandboxedContainers.Credentials
import SandboxedContainers.Exchanges
import SandboxedContainers.Runs

/-!
# A user's own peer-pods-secret

The handlers of the credentials controller run next to each other and next to users,
who may create, edit and delete `peer-pods-secret` at any time.  Each handler looks
whether there is such a secret before it writes or deletes one, in requests of their
own: a secret that a user creates in between is taken for the handler's.

The invariant for users who wait: from its look until it is over, a handler finds no
secret of a user's in that place, so it may do there what it likes.
-/

namespace SandboxedContainers

open Lib Routine

/-- The calls that deal with `peer-pods-secret`; a set-up tries the environment itself. -/
inductive CredentialsCall where
  | setupPeerPodsCredentials
  | teardownPeerPodsCredentials
  | reconcileSecret
  deriving DecidableEq, Repr

def credentialsCall (settings : CredentialsSettings) : CredentialsCall → Op Err PUnit
  | .setupPeerPodsCredentials => Routine.ignore (setupPeerPodsCredentials settings)
  | .teardownPeerPodsCredentials => Routine.ignore (teardownPeerPodsCredentials settings)
  | .reconcileSecret => Routine.ignore (reconcileSecret settings : Op Err Result)

structure SecretNotes (Name : Type) where
  /-- The uids of the secrets that users have created. -/
  users : List Nat := []
  /-- The calls that have looked for the secret and are not over. -/
  looking : List Name := []

def isPlain (secret : Secret) : Bool :=
  !StrMap.hasKey secret.metadata.labels labelExplicitDeletion &&
    !StrMap.hasKey secret.metadata.labels labelCredentialsRequest && !isOwnedByCCOSecret secret

def Change.createsPeerPodsSecret : Change → Bool
  | .request r => match r with
    | .create .secret object => object.key = peerPodsSecretKey
    | _ => false
  | _ => false

def usersAfter (s : Cluster) (change : Change) (s' : Cluster) (users : List Nat) : List Nat :=
  if change.createsPeerPodsSecret && s'.version ≠ s.version then s'.version :: users else users

def usersPlain (s : Cluster) (users : List Nat) : Bool :=
  (s.find? .secret peerPodsSecretKey).all fun secret => secret.metadata.uid ∉ users || isPlain secret

section System

variable {Name : Type} [DecidableEq Name]

def secretObserver : Observer Name CredentialsCall (SecretNotes Name) where
  call name _ r _ _ notes := match r with
    | .get .secret key =>
      if key = peerPodsSecretKey then { notes with looking := name :: notes.looking } else notes
    | _ => notes
  leave name _ notes := { notes with looking := notes.looking.filter (· ≠ name) }
  env s change s' notes := { notes with users := usersAfter s change s' notes.users }

/-- What users create and edit carries none of the operator's marks. -/
def plainUsers : Limits Name CredentialsCall (SecretNotes Name) where
  env w change := usersPlain (change.apply w.1) (usersAfter w.1 change (change.apply w.1) w.2.users)

/-- Besides, users create the secret only while no call is past its look. -/
def waitingUsers : Limits Name CredentialsCall (SecretNotes Name) where
  env w change := usersPlain (change.apply w.1) (usersAfter w.1 change (change.apply w.1) w.2.users) &&
    (!change.createsPeerPodsSecret || w.2.looking.isEmpty)

abbrev credentialsSystem (settings : CredentialsSettings)
    (limits : Limits Name CredentialsCall (SecretNotes Name)) :
    Clients Req Response (Cluster × SecretNotes Name) Name CredentialsCall (Except Err PUnit × Reconciler) :=
  clients (fun _ call => credentialsCall settings call {}) secretObserver limits

end System

section Requests

variable {settings : CredentialsSettings}

@[grind ←]
theorem inquiry_getCredentialsRequest {p : Req → Prop} (reads : ∀ k key, p (.get k key)) :
    Inquiry p (getCredentialsRequest settings) := by
  unfold getCredentialsRequest getCloudProviderFromInfra readFile
  grind

@[grind ←]
theorem inquiry_deleteCredentialsRequests {p : Req → Prop} (reads : ∀ k key, p (.get k key))
    (deletes : ∀ key, p (.delete .credentialsRequest key)) : Inquiry p (deleteCredentialsRequests settings) := by
  unfold deleteCredentialsRequests
  grind

end Requests

structure UsersKnown {Name : Type} (w : Cluster × SecretNotes Name) : Prop where
  known : ∀ uid ∈ w.2.users, uid ≤ w.1.version
  plain : usersPlain w.1 w.2.users = true

namespace ManualCredentials

variable {Name : Type} [DecidableEq Name] {settings : CredentialsSettings} {name : Name}
  {w w' : Cluster × SecretNotes Name}

/-- There is no secret of a user's in that place. -/
def Unclaimed (w : Cluster × SecretNotes Name) : Prop :=
  ∀ secret, w.1.find? .secret peerPodsSecretKey = some secret → secret.metadata.uid ∉ w.2.users

/-- The call has found the place free of users' secrets. -/
structure Vacant (name : Name) (w : Cluster × SecretNotes Name) : Prop where
  known : UsersKnown w
  looking : name ∈ w.2.looking
  unclaimed : Unclaimed w

structure Relied (name : Name) (w w' : Cluster × SecretNotes Name) : Prop where
  known : UsersKnown w'
  vacant : Vacant name w → Vacant name w'

/-- A request that deals with the secret is issued only when it is no user's. -/
def contract : Contract Req (Cluster × SecretNotes Name) where
  good w r := r.target ≠ some (.secret, peerPodsSecretKey) ∨ Unclaimed w
  mid _ := True

abbrev machine (settings : CredentialsSettings) (name : Name) : Machine Req Response (Cluster × SecretNotes Name) :=
  (credentialsSystem settings waitingUsers).machine Relied name

section Evolution

omit [DecidableEq Name] in
theorem Unclaimed.evolves (unclaimed : Unclaimed w) (known : UsersKnown w) (evolves : Evolves w.1 w'.1)
    (users : w'.2.users = w.2.users) : Unclaimed w' := by
  intro secret found claimed
  rw [users] at claimed
  obtain ⟨member, key⟩ := Collection.find?_mem found
  rcases evolves.objects .secret secret member with fresh | ⟨before, stored, later⟩
  · exact absurd (known.known _ claimed) (Nat.not_le.mpr fresh)
  · refine unclaimed before (Collection.find?_eq_some.mpr ⟨stored, later.key.symm.trans key⟩) ?_
    rw [← later.uid]
    exact claimed

omit [DecidableEq Name] in
theorem Unclaimed.plain (unclaimed : Unclaimed w) : usersPlain w.1 w.2.users = true := by
  unfold usersPlain
  cases found : w.1.find? .secret peerPodsSecretKey with
  | none => rfl
  | some secret => simp [unclaimed secret found]

theorem users_kept {r : Req} {response : Response r}
    (noted : w'.2 = secretObserver.call name w.1 r response w'.1 w.2) : w'.2.users = w.2.users := by
  rw [noted]
  simp only [secretObserver]
  split
  · split
    · rfl
    · rfl
  · rfl

theorem looking_kept {other : Name} {r : Req} {response : Response r}
    (noted : w'.2 = secretObserver.call name w.1 r response w'.1 w.2) (looking : other ∈ w.2.looking) :
    other ∈ w'.2.looking := by
  rw [noted]
  simp only [secretObserver]
  split
  · split
    · exact List.mem_cons_of_mem _ looking
    · exact looking
  · exact looking

variable {r : Req} {response : Response r}

theorem Vacant.answer {other : Name} (vacant : Vacant other w) (answered : Answered w.1 r response w'.1)
    (noted : w'.2 = secretObserver.call name w.1 r response w'.1 w.2) : Vacant other w' := by
  have users := users_kept noted
  have unclaimed := vacant.unclaimed.evolves vacant.known answered.evolves users
  refine ⟨⟨fun uid member => ?_, unclaimed.plain⟩, looking_kept noted vacant.looking, unclaimed⟩
  rw [users] at member
  exact (vacant.known.known uid member).trans answered.version_le

theorem usersKnown_answer (known : UsersKnown w) (good : contract.good w r)
    (answered : Answered w.1 r response w'.1)
    (noted : w'.2 = secretObserver.call name w.1 r response w'.1 w.2) : UsersKnown w' := by
  have users := users_kept noted
  refine ⟨fun uid member => ?_, ?_⟩
  · rw [users] at member
    exact (known.known uid member).trans answered.version_le
  · rcases good with elsewhere | unclaimed
    · have same := answered.find?_other elsewhere
      have before := known.plain
      unfold usersPlain at before ⊢
      rw [users, same]
      exact before
    · exact (unclaimed.evolves known answered.evolves users).plain

omit [DecidableEq Name] in
theorem usersKnown_env {change : Change} (known : UsersKnown w)
    (plain : usersPlain (change.apply w.1) (usersAfter w.1 change (change.apply w.1) w.2.users) = true)
    (store : w'.1 = change.apply w.1)
    (users : w'.2.users = usersAfter w.1 change (change.apply w.1) w.2.users) : UsersKnown w' := by
  refine ⟨fun uid member => ?_, by rw [store, users]; exact plain⟩
  have later : w.1.version ≤ w'.1.version := store ▸ (change.apply_evolves w.1).version
  rw [users] at member
  unfold usersAfter at member
  split at member
  · rcases List.mem_cons.mp member with rfl | old
    · rw [store]
    · exact (known.known uid old).trans later
  · exact (known.known uid member).trans later

end Evolution

section Calls

abbrev Calm : Reconciler → Cluster × SecretNotes Name → Prop := World UsersKnown

instance : Invariant (machine settings name) contract (Calm : Reconciler → Cluster × SecretNotes Name → Prop) :=
  world_invariant (fun _ _ relied _ => relied.known) fun _ _ => trivial

instance : Invariant (machine settings name) contract (World (Vacant name)) :=
  world_invariant (fun _ _ relied vacant => relied.vacant vacant) fun _ _ => trivial

theorem vacant_maintains {ε α : Type} (routine : Op ε α) :
    Maintains (machine settings name) contract (World (Vacant name)) routine := by
  intro memory w vacant
  have stable : (machine settings name).Stable (Vacant name) := fun _ _ relied holds => relied.vacant holds
  refine safe_of_kept stable (fun _ _ => trivial) ?_ _ vacant
  intro issued r holds
  exact ⟨.inr holds.unclaimed, fun response w' reply => holds.answer reply.1 reply.2.1⟩

theorem calm_maintains {ε α : Type} {routine : Op ε α}
    (spares : Inquiry (fun r : Req => r.writes ≠ some .secret) routine) :
    Maintains (machine settings name) contract Calm routine := by
  refine spares.maintains fun r elsewhere memory issued known => ?_
  have good : contract.good issued r := by
    refine .inl fun target => elsewhere ?_
    cases r <;> simp_all [Request.target, Request.writes]
  exact ⟨good, fun response w' reply => usersKnown_answer known good reply.1 reply.2.1⟩

/-- What a look tells: with no secret, or one that carries a mark, the place is no user's. -/
def Looked (name : Name) : Except Err Secret → Cluster × SecretNotes Name → Prop
  | .ok secret, w => UsersKnown w ∧ (isPlain secret = false → Vacant name w)
  | .error error, w => UsersKnown w ∧ (error.isNotFound = true → Vacant name w)

instance (result : Except Err Secret) : Invariant (machine settings name) contract (World (Looked name result)) := by
  cases result with
  | ok secret => exact world_invariant (fun _ _ relied holds =>
    ⟨relied.known, fun marked => relied.vacant (holds.2 marked)⟩) fun _ _ => trivial
  | error error => exact world_invariant (fun _ _ relied holds =>
    ⟨relied.known, fun missing => relied.vacant (holds.2 missing)⟩) fun _ _ => trivial

theorem look_triple : Triple (machine settings name) contract Calm getPeerPodsSecret
    fun result => World (Looked name result) := by
  have looks {w w' : Cluster × SecretNotes Name} {response : Response (.get .secret peerPodsSecretKey : Req)}
      (reply : (machine settings name).answer w (.get .secret peerPodsSecretKey) response w') :
      name ∈ w'.2.looking := by
    rw [reply.2.1]
    simp [secretObserver]
  have good (w : Cluster × SecretNotes Name) : contract.good w (.get .secret peerPodsSecretKey) :=
    .inl (by simp [Request.target])
  refine clientGet_triple (fun _ w _ => good w) ?_ ?_
  · intro memory w secret w' known reply
    have known' : UsersKnown w' := usersKnown_answer known (good w) reply.1 reply.2.1
    refine ⟨known', fun marked => ⟨known', looks reply, ?_⟩⟩
    intro stored found claimed
    obtain ⟨same, before⟩ := reply.1.get_ok
    obtain rfl : secret = stored := by
      rw [same] at found
      exact Option.some.inj (before.symm.trans found)
    have plain := known'.plain
    simp [usersPlain, found, claimed, marked] at plain
  · intro memory w error w' known reply
    have known' : UsersKnown w' := usersKnown_answer known (good w) reply.1 reply.2.1
    refine ⟨known', fun missing => ⟨known', looks reply, ?_⟩⟩
    obtain ⟨same, absent⟩ := reply.1.get_notFound (by simpa [Err.isNotFound, Err.reason?] using missing)
    intro stored found
    rw [same] at found
    have nothing : w.1.find? .secret peerPodsSecretKey = none := absent
    rw [nothing] at found
    cases found

theorem looked_triple {α : Type} {next : Except Err Secret → Op Err α}
    (missing : ∀ error, error.isNotFound = false → Maintains (machine settings name) contract Calm (next (.error error)))
    (plain : ∀ secret, isPlain secret = true → Maintains (machine settings name) contract Calm (next (.ok secret))) :
    Maintains (machine settings name) contract Calm (Routine.attempt getPeerPodsSecret >>= next) := by
  have free (result : Except Err Secret) :
      Triple (machine settings name) contract (World (Vacant name)) (next result) fun _ => Calm :=
    (vacant_maintains _).post fun _ _ _ vacant => Vacant.known vacant
  refine Triple.bind (Q := fun outcome => match outcome with
    | .ok result => World (Looked name result)
    | .error _ => Calm) look_triple.attempt (fun result => ?_) fun _ _ _ => id
  cases result with
  | ok secret =>
    cases marked : isPlain secret with
    | true => exact (plain secret marked).given
    | false => exact (free _).pre fun _ _ looked => looked.2 marked
  | error error =>
    cases absent : error.isNotFound with
    | false => exact (missing error absent).given
    | true => exact (free _).pre fun _ _ looked => looked.2 absent

theorem setup_maintains :
    Maintains (machine settings name) contract Calm (setupPeerPodsCredentials settings) := by
  refine looked_triple (fun error other => ?_) fun secret _ => ?_
  · simp only [other, Bool.not_false, if_pos]
    exact maintains_throw _
  · exact maintains_pure _

theorem needsExplicitDeletion_eq_false {secret : Secret} (plain : isPlain secret = true) :
    needsExplicitDeletion secret = false := by
  simp only [isPlain, Bool.and_eq_true, Bool.not_eq_true'] at plain
  have absent : secret.metadata.labels.lookup labelExplicitDeletion = none := by
    simpa [StrMap.hasKey] using plain.1.1
  simp [needsExplicitDeletion, StrMap.getD, absent]

theorem teardown_maintains :
    Maintains (machine settings name) contract Calm (teardownPeerPodsCredentials settings) := by
  have requests : Maintains (machine settings name) contract Calm (deleteCredentialsRequests settings) :=
    calm_maintains (inquiry_deleteCredentialsRequests (by simp [Request.writes]) (by simp [Request.writes]))
  refine looked_triple (fun error _ => ?_) fun secret plain => ?_
  · exact maintains_bind requests fun _ => maintains_pure _
  · simp only [needsExplicitDeletion_eq_false plain]
    exact maintains_bind requests fun _ => maintains_pure _

theorem reconcile_maintains :
    Maintains (machine settings name) contract Calm (reconcileSecret settings : Op Err Result) := by
  have reads : Maintains (machine settings name) contract Calm (clientGet .secret ccoSecretKey) :=
    calm_maintains (inquiry_call (by simp [Request.writes]) inquiry_fromApi)
  refine maintains_bind (maintains_attempt reads) fun result => ?_
  cases result with
  | error error =>
    dsimp only
    split
    · exact maintains_pure _
    · exact maintains_pure _
  | ok ccoSecret =>
    refine looked_triple (fun error other => ?_) fun secret plain => ?_
    · simp only [other]
      exact maintains_pure _
    · have notOwned : isOwnedByCCOSecret secret = false := by
        simp only [isPlain, Bool.and_eq_true, Bool.not_eq_true'] at plain
        exact plain.2
      simp only [notOwned]
      exact maintains_pure _

theorem credentialsCall_maintains (call : CredentialsCall) :
    Maintains (machine settings name) contract Calm (credentialsCall settings call) := by
  cases call with
  | setupPeerPodsCredentials => exact maintains_ignore setup_maintains
  | teardownPeerPodsCredentials => exact maintains_ignore teardown_maintains
  | reconcileSecret => exact maintains_ignore reconcile_maintains

end Calls

theorem sound : (credentialsSystem settings (waitingUsers : Limits Name _ _)).Sound
    (fun w => UsersKnown w ∧ w.2.looking = []) UsersKnown Relied (fun _ => contract) fun _ _ _ _ => True where
  init _ start := start.1
  start := by
    rintro name call w _ known ⟨_, rfl⟩
    refine ⟨known, ?_, fun other _ => ⟨known, id⟩⟩
    exact (credentialsCall_maintains call {} _ known).mono fun _ _ _ _ => trivial
  call name w r response w' known good reply :=
    ⟨usersKnown_answer known good reply.1 reply.2.1, fun other _ =>
      ⟨usersKnown_answer known good reply.1 reply.2.1, fun vacant => vacant.answer reply.1 reply.2.1⟩⟩
  leave := by
    rintro name w _ known rfl
    have known' : UsersKnown (w.1, secretObserver.leave name w.1 w.2) := ⟨known.known, known.plain⟩
    refine ⟨known', fun other differs => ⟨known', fun vacant => ⟨known', ?_, vacant.unclaimed⟩⟩⟩
    exact List.mem_filter.mpr ⟨vacant.looking, by simpa using differs⟩
  env := by
    rintro w _ known ⟨change, rfl, allowed⟩
    obtain ⟨plain, waits⟩ := Bool.and_eq_true_iff.mp allowed
    have known' : UsersKnown (change.apply w.1, secretObserver.env w.1 change (change.apply w.1) w.2) :=
      usersKnown_env known plain rfl rfl
    refine ⟨known', fun name => ⟨known', fun vacant => ⟨known', vacant.looking, ?_⟩⟩⟩
    refine vacant.unclaimed.evolves vacant.known (change.apply_evolves w.1) ?_
    have quiet : change.createsPeerPodsSecret = false := by
      have busy : w.2.looking.isEmpty = false := by
        cases looking : w.2.looking with
        | nil => exact absurd vacant.looking (by simp [looking])
        | cons _ _ => rfl
      simpa [busy] using waits
    simp [secretObserver, usersAfter, quiet]

end ManualCredentials

/-- If users create `peer-pods-secret` only while no call is past its look for it, no
call ever changes or deletes one that a user has created. -/
theorem userSecret_untouched {Name : Type} [DecidableEq Name] {settings : CredentialsSettings}
    {threads : Threads Req Response Name CredentialsCall (Except Err PUnit × Reconciler)}
    {w : Cluster × SecretNotes Name}
    (reached : (credentialsSystem settings waitingUsers).Reachable
      (fun w => UsersKnown w ∧ w.2.looking = []) (threads, w))
    {name : Name} {call : CredentialsCall} {r : Req} {next} {response : Response r} {w' : Cluster × SecretNotes Name}
    (thread : threads name = some (call, .call r next))
    (reply : (credentialsSystem settings waitingUsers).answer name w r response w') {secret : Secret}
    (stored : w.1.find? .secret peerPodsSecretKey = some secret) (theirs : secret.metadata.uid ∈ w.2.users) :
    w'.1.find? .secret peerPodsSecretKey = some secret := by
  obtain ⟨_, good, _⟩ := (ManualCredentials.sound.holds reached).safe thread w .refl
  rcases good with elsewhere | unclaimed
  · rw [reply.1.find?_other elsewhere]
    exact stored
  · exact absurd theirs (unclaimed secret stored)

def userSecret : Secret :=
  ⟨{ name := peerPodsSecretName, ns := operatorNamespace },
    show SecretBody from ⟨StrMap.ofList [("AWS_ACCESS_KEY_ID", "mine")]⟩⟩

abbrev SecretState :=
  Threads Req Response Unit CredentialsCall (Except Err PUnit × Reconciler) × (Cluster × SecretNotes Unit)

def tokenBased : List (Clients.Act Unit CredentialsCall Fault Change) :=
  requested [.create .cloudCredential ⟨{ name := "cluster" }, show String from "Manual"⟩,
    .create .authentication ⟨{ name := "cluster" }, show String from "https://issuer"⟩]

def isRunning (state : SecretState) : Bool :=
  match state.1 () with
  | some (_, .call _ _) => true
  | _ => false

def overwrites (state : SecretState) : Bool :=
  match state.1 () with
  | some (.setupPeerPodsCredentials, .call r _) =>
    ((state.2.1.exec r).2.find? .secret peerPodsSecretKey).any fun after => needsExplicitDeletion after &&
      (secretDataOf after).lookup "AWS_ACCESS_KEY_ID" = none
  | _ => false

/-- A set-up has created the secret and a teardown has deleted it; then a user creates one,
and the next teardown goes on after it has found that one. -/
theorem userSecret_untouched_found : ∃ (w w' : Cluster × SecretNotes Unit) (secret : Secret),
    w.2.looking = [()] ∧ w.1.find? .secret peerPodsSecretKey = some secret ∧ secret.metadata.uid ∈ w.2.users ∧
      w'.1.find? .secret peerPodsSecretKey = some secret := by
  have leads : leadsTo (fun _ call => credentialsCall roleSettings call {}) secretObserver waitingUsers {}
      (tokenBased ++ [.start () .setupPeerPodsCredentials] ++ served () 5 ++
        [.leave (), .start () .teardownPeerPodsCredentials] ++ served () 3 ++ [.leave ()] ++
        requested [.create .secret userSecret] ++ [.start () .teardownPeerPodsCredentials] ++ served () 1)
      (fun state => (isRunning state && state.2.2.looking = [()]) &&
        (state.2.1.find? .secret peerPodsSecretKey).any fun secret => secret.metadata.uid ∈ state.2.2.users) = true := by
    decide +kernel
  have start : UsersKnown (.empty fun _ => true, ({} : SecretNotes Unit)) ∧
      ({} : SecretNotes Unit).looking = [] := ⟨⟨nofun, rfl⟩, rfl⟩
  obtain ⟨threads, w, reached, checked⟩ :=
    reachable_of_leadsTo (fun w => UsersKnown w ∧ w.2.looking = []) start leads
  obtain ⟨atWork, present⟩ := Bool.and_eq_true_iff.mp checked
  obtain ⟨running, past⟩ := Bool.and_eq_true_iff.mp atWork
  obtain ⟨secret, stored, theirs⟩ := (Option.any_eq_true _ _).mp present
  unfold isRunning at running
  split at running
  · rename_i call r next thread
    have reply : (credentialsSystem roleSettings waitingUsers).answer () w r (w.1.exec r).1
        ((w.1.exec r).2, secretObserver.call () w.1 r (w.1.exec r).1 (w.1.exec r).2 w.2) := ⟨.inl rfl, rfl, rfl⟩
    have theirs : secret.metadata.uid ∈ w.2.users := of_decide_eq_true theirs
    exact ⟨w, _, secret, of_decide_eq_true past, stored, theirs, userSecret_untouched reached thread reply stored theirs⟩
  · cases running

/-- A user creates the secret after the set-up has found none; the set-up then replaces
the credentials in it. -/
theorem userSecret_overwritten : ∃ threads w w' r next response secret,
    (credentialsSystem roleSettings (plainUsers : Limits Unit _ _)).Reachable
      (fun w => UsersKnown w ∧ w.2.looking = []) (threads, w) ∧
    threads () = some (.setupPeerPodsCredentials, .call r next) ∧
    (credentialsSystem roleSettings plainUsers).answer () w r response w' ∧
    w.1.find? .secret peerPodsSecretKey = some secret ∧ secret.metadata.uid ∈ w.2.users ∧
    (secretDataOf secret).lookup "AWS_ACCESS_KEY_ID" = some "mine" ∧
    (w'.1.find? .secret peerPodsSecretKey).any (fun after => needsExplicitDeletion after &&
      (secretDataOf after).lookup "AWS_ACCESS_KEY_ID" = none) = true := by
  have leads : leadsTo (fun _ call => credentialsCall roleSettings call {}) secretObserver plainUsers {}
      (tokenBased ++ [.start () .setupPeerPodsCredentials] ++ served () 1 ++ requested [.create .secret userSecret] ++
        served () 3)
      (fun state => overwrites state &&
        (state.2.1.find? .secret peerPodsSecretKey).any fun secret => secret.metadata.uid ∈ state.2.2.users &&
          (secretDataOf secret).lookup "AWS_ACCESS_KEY_ID" = some "mine") = true := by
    decide +kernel
  have start : UsersKnown (.empty fun _ => true, ({} : SecretNotes Unit)) ∧
      ({} : SecretNotes Unit).looking = [] := ⟨⟨nofun, rfl⟩, rfl⟩
  obtain ⟨threads, w, reached, checked⟩ :=
    reachable_of_leadsTo (fun w => UsersKnown w ∧ w.2.looking = []) start leads
  obtain ⟨running, present⟩ := Bool.and_eq_true_iff.mp checked
  obtain ⟨secret, stored, about⟩ := (Option.any_eq_true _ _).mp present
  obtain ⟨theirs, data⟩ := Bool.and_eq_true_iff.mp about
  unfold overwrites at running
  split at running
  · rename_i r next thread
    exact ⟨threads, w, ((w.1.exec r).2, _), r, next, (w.1.exec r).1, secret, reached, thread,
      ⟨.inl rfl, rfl, rfl⟩, stored, of_decide_eq_true theirs, of_decide_eq_true data, running⟩
  · cases running

end SandboxedContainers
