import SandboxedContainers.Runs

/-!
# Nodes an uninstallation forgets

In DaemonSet mode the install agent of a node reports when it is done, and so
does the uninstall agent.  A delete request is complete once all nodes of the
pool report `uninstalled`; a node that has left the pool is not asked.
-/

namespace SandboxedContainers

open Lib Routine

structure UninstallReports where
  /-- When the install agent of a node has reported, by the node's uid, unless an
  uninstall agent has reported since. -/
  outstanding : Nat → Option Nat := fun _ => none
  /-- The `KataConfig` that `processKataConfigDeleteRequestDaemonSet` removes. -/
  deleting : Option Nat := none
  /-- The nodes that are listed next are asked for their reports. -/
  checking : Bool := false

/-- The node with this uid has an install report of the `KataConfig`'s lifetime, and
no uninstall report after it. -/
def UninstallReports.pending (reports : UninstallReports) (uid : Nat) : Bool :=
  match reports.deleting, reports.outstanding uid with
  | some kataConfig, some report => kataConfig < report
  | _, _ => false

/-- The final report of an agent: it runs on a node with the role while its
DaemonSet exists, and sets nothing but its label. -/
def agentReport (s : Cluster) : Change → Option (Nat × KataDaemonSetAction)
  | .request (.patch .node key labels edit) =>
    match (s.exec (P := Mark) (.patch .node key labels edit)).1 with
    | .ok node => ([KataDaemonSetAction.installKata, .uninstallKata].find? fun action =>
      labels = [(kataInstallationDaemonSetLabel, some action.finalState.text)] &&
        isLabeledForKata node && (s.find? .daemonSet (daemonSetKey action)).isSome).map
      fun action => (node.metadata.uid, action)
    | .error _ => none
  | _ => none

def onNodes (s : Cluster) (outstanding : Nat → Option Nat) (uid : Nat) : Option Nat :=
  if (nodes s).any fun node => node.metadata.uid = uid then outstanding uid else none

def UninstallReports.afterReport (reports : UninstallReports) (version : Nat) :
    Option (Nat × KataDaemonSetAction) → Nat → Option Nat
  | some (uid, .installKata) => Function.update reports.outstanding uid (some version)
  | some (uid, .uninstallKata) => Function.update reports.outstanding uid none
  | none => reports.outstanding

def uninstallReports : Monitor UninstallReports where
  start _ _ reports := { reports with deleting := none }
  call _ r _ s' reports := {
    outstanding := onNodes s' reports.outstanding
    deleting := match r with
      | .mark ⟨.deleteRequestDaemonSet, kataConfig⟩ => some kataConfig.metadata.uid
      | _ => reports.deleting
    checking := match r with
      | .mark ⟨.checkAgents, _⟩ => true
      | .list .node _ => false
      | _ => reports.checking }
  env s change s' reports := { reports with
    outstanding := onNodes s' (reports.afterReport s'.version (agentReport s change)) }

/-- A node with an outstanding report says that it is uninstalled. -/
def UninstallReports.Fakes (w : Cluster × UninstallReports) : Prop :=
  ∃ node ∈ nodes w.1, (w.2.outstanding node.metadata.uid).isSome = true ∧
    reportedState node = KataInstallationDaemonSetState.uninstalled.text

instance (w : Cluster × UninstallReports) : Decidable (UninstallReports.Fakes w) :=
  inferInstanceAs (Decidable (∃ node ∈ _, _))

/-- Only uninstall agents say that a node is uninstalled, only the operator deals
with DaemonSets, which have no finalizers, and the nodes whose uninstall reports are
outstanding are in the pool when it is asked. -/
def staysInPool : Rules UninstallReports where
  env _ change w' := !decide (UninstallReports.Fakes w') && match change with
    | .request r => r.writes ≠ some .daemonSet
    | _ => true
  answer w r _ _ := match r with
    | .list .node selector => !w.2.checking || (nodes w.1).all fun node =>
      !w.2.pending node.metadata.uid || selector.accepts node.metadata.labels
    | .delete .daemonSet key => (w.1.find? .daemonSet key).all fun ds => ds.metadata.finalizers.isEmpty
    | _ => true

def UninstallReports.Forgets (w : Cluster × UninstallReports) : Prop :=
  ∃ node ∈ nodes w.1, w.2.pending node.metadata.uid = true

instance (w : Cluster × UninstallReports) : Decidable (UninstallReports.Forgets w) :=
  inferInstanceAs (Decidable (∃ node ∈ _, _))

namespace UninstallReports

def contract : Contract Req (Cluster × UninstallReports) where
  good w r := ∀ m, r = .mark m → m.point = .removeFinalizer → ¬Forgets w
  mid w := ¬Fakes w

section

variable (settings : Settings)

abbrev system := operator settings uninstallReports staysInPool

abbrev machine := (system settings).toMachine

end

def installDaemonSet (s : Cluster) : Option DaemonSet := s.find? .daemonSet (daemonSetKey .installKata)

def Shrinks (before after : UninstallReports) : Prop :=
  ∀ uid, after.outstanding uid = none ∨ after.outstanding uid = before.outstanding uid

/-- What a part of the delete request knows, besides that no node lies.  If `gone`
is set, it relies on the install DaemonSet being deleted. -/
structure Frame (gone : Bool) (q : Cluster × UninstallReports → Prop) : Prop where
  isGone : ∀ {w}, gone = true → q w → installDaemonSet w.1 = none
  later : ∀ {w w'}, q w → w'.2.deleting = w.2.deleting →
    (gone = true → installDaemonSet w'.1 = none ∧ Shrinks w.2 w'.2) → q w'

/-- No node with an outstanding report says that it is uninstalled. -/
def Honestly (q : Cluster × UninstallReports → Prop) (w : Cluster × UninstallReports) : Prop :=
  ¬Fakes w ∧ q w

def Outside (w : Cluster × UninstallReports) : Prop := w.2.deleting = none

def Stopped (w : Cluster × UninstallReports) : Prop := installDaemonSet w.1 = none

/-- The nodes that await their uninstallation are among the listed ones, and did not
say that they are uninstalled. -/
def Asked (listed : List Node) (w : Cluster × UninstallReports) : Prop :=
  installDaemonSet w.1 = none ∧ ∀ uid, w.2.pending uid = true → ∃ node ∈ listed,
    node.metadata.uid = uid ∧ reportedState node ≠ KataInstallationDaemonSetState.uninstalled.text

abbrev Done : Cluster × UninstallReports → Prop := Asked []

theorem anything_frame : Frame false Anything := ⟨by simp, fun _ _ _ => trivial⟩

theorem outside_frame : Frame false Outside := ⟨by simp, fun outside same _ => same.trans outside⟩

theorem stopped_frame : Frame true Stopped := ⟨fun _ => id, fun _ _ later => (later rfl).1⟩

theorem Shrinks.pending {before after : UninstallReports} (shrinks : Shrinks before after)
    (sameRequest : after.deleting = before.deleting) {uid : Nat} (left : after.pending uid = true) :
    before.pending uid = true := by
  unfold UninstallReports.pending at left ⊢
  rcases shrinks uid with cleared | same
  · rw [cleared] at left
    split at left <;> simp_all
  · rwa [sameRequest, same] at left

theorem asked_frame (listed : List Node) : Frame true (Asked listed) := by
  refine ⟨fun _ asked => asked.1, fun {w w'} asked sameRequest later => ⟨(later rfl).1, fun uid left => ?_⟩⟩
  exact asked.2 uid ((later rfl).2.pending sameRequest left)

theorem Outside.forgets_nothing {w : Cluster × UninstallReports} (outside : Outside w) : ¬Forgets w := by
  rintro ⟨node, _, pending⟩
  simp [UninstallReports.pending, show w.2.deleting = none from outside] at pending

theorem Done.forgets_nothing {w : Cluster × UninstallReports} (done : Done w) : ¬Forgets w := by
  rintro ⟨node, _, pending⟩
  obtain ⟨_, member, _⟩ := done.2 _ pending
  cases member

theorem onNodes_cases (s : Cluster) (outstanding : Nat → Option Nat) (uid : Nat) :
    onNodes s outstanding uid = none ∨ onNodes s outstanding uid = outstanding uid := by
  unfold onNodes
  split
  · exact .inr rfl
  · exact .inl rfl

theorem onNodes_exists {s : Cluster} {outstanding : Nat → Option Nat} {uid : Nat}
    (recorded : (onNodes s outstanding uid).isSome = true) :
    ∃ node ∈ nodes s, node.metadata.uid = uid := by
  unfold onNodes at recorded
  split at recorded
  · rename_i found
    simpa using found
  · cases recorded

theorem call_shrinks (s s' : Cluster) (r : Req) (response : Response r) (reports : UninstallReports) :
    Shrinks reports (uninstallReports.call s r response s' reports) :=
  onNodes_cases s' reports.outstanding

theorem Shrinks.isSome {before after : UninstallReports} (shrinks : Shrinks before after) {uid : Nat}
    (left : (after.outstanding uid).isSome = true) : (before.outstanding uid).isSome = true := by
  rcases shrinks uid with cleared | same
  · rw [cleared] at left
    cases left
  · rwa [same] at left

section Steps

variable {settings : Settings} {gone : Bool} {q : Cluster × UninstallReports → Prop}

theorem installDaemonSet_of_report {s : Cluster} {change : Change} {uid : Nat}
    (reported : agentReport s change = some (uid, .installKata)) : (installDaemonSet s).isSome = true := by
  unfold agentReport at reported
  split at reported
  · split at reported
    · obtain ⟨action, found, same⟩ := Option.map_eq_some_iff.mp reported
      obtain rfl : action = .installKata := (Prod.mk.inj same).2
      have runs := List.find?_some found
      simp only [Bool.and_eq_true] at runs
      exact runs.2
    · cases reported
  · cases reported

theorem env_shrinks {s : Cluster} (change : Change) (s' : Cluster) (reports : UninstallReports)
    (stopped : installDaemonSet s = none) :
    Shrinks reports (uninstallReports.env s change s' reports) := by
  intro uid
  refine (onNodes_cases s' _ uid).elim .inl fun same => ?_
  change onNodes s' _ uid = none ∨ onNodes s' _ uid = _
  rw [same]
  match found : agentReport s change with
  | none => exact .inr rfl
  | some (reporter, .installKata) =>
    have runs := installDaemonSet_of_report found
    rw [stopped] at runs
    cases runs
  | some (reporter, .uninstallKata) =>
    by_cases here : uid = reporter
    · subst here
      exact .inl (Function.update_self _ _ _)
    · exact .inr (Function.update_of_ne here _ _)

theorem Frame.invariant (frame : Frame gone q) :
    Invariant (machine settings) contract (World (Honestly q)) := by
  refine world_invariant ?_ fun _ holds => holds.1
  rintro ⟨s, reports⟩ _ ⟨change, rfl, rule⟩ ⟨_, holds⟩
  simp only [staysInPool, Bool.and_eq_true, Bool.not_eq_true', decide_eq_false_iff_not] at rule
  refine ⟨rule.1, frame.later holds rfl fun isGone => ?_⟩
  have stopped := frame.isGone isGone holds
  refine ⟨?_, env_shrinks change _ reports stopped⟩
  cases change with
  | request r =>
    have other : r.writes ≠ some .daemonSet := by simpa using rule.2
    simpa only [installDaemonSet, Store.find?, Change.apply, Store.exec_objs_ne other] using stopped
  | serve | deliver | enqueue => exact stopped

instance : Invariant (machine settings) contract (World (Honestly Anything)) := anything_frame.invariant
instance : Invariant (machine settings) contract (World (Honestly Outside)) := outside_frame.invariant
instance : Invariant (machine settings) contract (World (Honestly Stopped)) := stopped_frame.invariant
instance (listed : List Node) : Invariant (machine settings) contract (World (Honestly (Asked listed))) :=
  (asked_frame listed).invariant

theorem deleting_call (s s' : Cluster) {r : Req} (response : Response r) (reports : UninstallReports)
    (other : ∀ kataConfig, r ≠ .mark ⟨.deleteRequestDaemonSet, kataConfig⟩) :
    (uninstallReports.call s r response s' reports).deleting = reports.deleting := by
  simp only [uninstallReports]
  split
  · exact absurd rfl (other _)
  · rfl

theorem honest_of_nodes {s s' : Cluster} {before after : UninstallReports} (same : nodes s' = nodes s)
    (shrinks : Shrinks before after) (honest : ¬Fakes (s, before)) : ¬Fakes (s', after) := by
  rintro ⟨node, member, outstanding, reported⟩
  change node ∈ nodes s' at member
  rw [same] at member
  exact honest ⟨node, member, shrinks.isSome outstanding, reported⟩

theorem Frame.admits (frame : Frame gone q) {r : Req} (notMark : ∀ m, r ≠ .mark m)
    (notNode : r.writes ≠ some .node)
    (elsewhere : gone = true → ∀ ds, r = .create .daemonSet ds → ds.key ≠ daemonSetKey .installKata) :
    Admits (machine settings) contract (World (Honestly q)) r := by
  rintro memory ⟨s, reports⟩ ⟨honest, holds⟩
  refine ⟨good_of_not_mark notMark, fun response w' reply => ?_⟩
  obtain ⟨s', answered, rfl, _⟩ := operator_answered reply
  have shrinks := call_shrinks s s' r response reports
  refine ⟨honest_of_nodes (congrArg Collection.items (answered.objs_eq notNode)) shrinks honest, ?_⟩
  refine frame.later holds (deleting_call s s' response reports fun _ => notMark _) fun isGone => ⟨?_, shrinks⟩
  exact answered.absent (frame.isGone isGone holds) (elsewhere isGone)

theorem Frame.passes (frame : Frame gone q) {point : Point} (inside : point ≠ .deleteRequestDaemonSet)
    (finished : point = .removeFinalizer → ∀ w, q w → ¬Forgets w) :
    Passes (machine settings) contract (World (Honestly q)) point := by
  have invariant : Invariant (machine settings) contract (World (Honestly q)) := frame.invariant
  refine fun ε => mark_triple ?_ ?_
  · rintro memory w ⟨_, holds⟩ m ⟨rfl⟩ isRemoval
    exact finished isRemoval w holds
  · rintro memory ⟨s, reports⟩ w' ⟨honest, holds⟩ reply
    rw [operator_mark reply]
    have shrinks := call_shrinks s s (.mark ⟨point, memory.current⟩) ⟨⟩ reports
    refine ⟨honest_of_nodes rfl shrinks honest, frame.later holds ?_ fun isGone => ?_⟩
    · refine deleting_call s s (r := .mark ⟨point, memory.current⟩) ⟨⟩ reports fun kataConfig same => inside ?_
      cases same
      rfl
    · exact ⟨frame.isGone (w := (s, reports)) isGone holds, shrinks⟩

structure Harmless (change : Node → Option Node) : Prop where
  onlyLabels : OnlyLabels change
  report : ∀ {node next}, change node = some next →
    reportedState next = KataInstallationDaemonSetState.uninstalled.text →
      reportedState node = KataInstallationDaemonSetState.uninstalled.text

theorem Frame.updatable (frame : Frame gone q) {change : Node → Option Node} (harmless : Harmless change) :
    Updatable (machine settings) contract (World (Honestly q)) change := by
  rintro node next memory ⟨s, reports⟩ changed ⟨honest, holds⟩ seen
  refine ⟨good_of_not_mark (by simp), fun response w' reply => ?_⟩
  obtain ⟨s', answered, rfl, _⟩ := operator_answered reply
  have shrinks := call_shrinks s s' (.update .node (inScope next)) response reports
  refine ⟨?_, frame.later holds rfl fun isGone => ⟨?_, shrinks⟩⟩
  · rintro ⟨after, member, outstanding, reported⟩
    have same : next.metadata.uid = node.metadata.uid := by rw [(harmless.onlyLabels changed).1.shape]
    have confined := harmless.onlyLabels.confined changed seen answered (R := fun before after =>
      after.metadata.uid = before.metadata.uid ∧ (reportedState after = KataInstallationDaemonSetState.uninstalled.text →
        reportedState before = KataInstallationDaemonSetState.uninstalled.text))
      (fun _ => ⟨rfl, id⟩) ⟨same, fun reports => harmless.report changed reports⟩
    obtain ⟨before, known, sameUid, alike⟩ := confined.origin after member
    exact honest ⟨before, known, sameUid ▸ shrinks.isSome outstanding, alike reported⟩
  · exact answered.absent (frame.isGone isGone holds) (by simp)

theorem relabeled_harmless (selector : Selector) : Harmless (relabeled selector) where
  onlyLabels := relabeled_onlyLabels selector
  report changed reported := by
    have other : kataInstallationDaemonSetLabel ≠ kataOcLabel := by decide
    simp only [relabeled] at changed
    split at changed
    · cases changed
      simpa [reportedState, setLabel, StrMap.getD_insert, other] using reported
    · split at changed
      · cases changed
        simpa [reportedState, dropLabel, StrMap.getD_erase, other] using reported
      · cases changed

theorem labeled_harmless {state : KataInstallationDaemonSetState} (unfinished : state ≠ .uninstalled) :
    Harmless (labeled kataInstallationDaemonSetLabel state.text) where
  onlyLabels := labeled_onlyLabels _
  report changed reported := by
    cases changed
    simp only [reportedState, setLabel, StrMap.getD_insert, if_true] at reported
    cases state <;> simp_all [KataInstallationDaemonSetState.text]

theorem unlabeled_harmless : Harmless unlabeled where
  onlyLabels := unlabeled_onlyLabels
  report changed reported := by
    have other : kataInstallationDaemonSetLabel ≠ kataOcLabel := by decide
    obtain ⟨_, rfl⟩ : _ ∧ _ = _ := by simpa [unlabeled] using changed
    simpa [reportedState, dropLabel, StrMap.getD_erase, other] using reported

theorem unlabeledDaemonSet_harmless : Harmless unlabeledDaemonSet where
  onlyLabels := unlabeledDaemonSet_onlyLabels
  report changed reported := by
    obtain ⟨_, rfl⟩ : _ ∧ _ = _ := by simpa [unlabeledDaemonSet] using changed
    simp [reportedState, dropLabel, StrMap.getD_erase, KataInstallationDaemonSetState.text] at reported

theorem Frame.lenient (frame : Frame gone q) : Lenient (machine settings) contract (World (Honestly q)) := by
  have invariant : Invariant (machine settings) contract (World (Honestly q)) := frame.invariant
  refine world_lenient fun r aside =>
    frame.admits (isAside_not_mark aside) (isAside_writes aside rfl) ?_
  rintro _ ds rfl
  cases aside

instance : Lenient (machine settings) contract (World (Honestly Anything)) := anything_frame.lenient
instance : Lenient (machine settings) contract (World (Honestly Outside)) := outside_frame.lenient
instance : Lenient (machine settings) contract (World (Honestly Stopped)) := stopped_frame.lenient
instance (listed : List Node) : Lenient (machine settings) contract (World (Honestly (Asked listed))) :=
  (asked_frame listed).lenient

theorem Frame.writable (frame : Frame false q) {k : Kind} (notNode : k ≠ .node) :
    Writable (machine settings) contract (World (Honestly q)) k := by
  intro r writes
  refine frame.admits ?_ ?_ (by simp)
  · rintro m rfl
    cases writes
  · rw [writes]
    simpa using notNode

theorem Frame.deletable (frame : Frame gone q) {k : Kind} (notNode : k ≠ .node) :
    Deletable (machine settings) contract (World (Honestly q)) k :=
  fun _ => frame.admits (by simp) (by simpa [Request.writes] using notNode) (by simp)

theorem Frame.keepsWebhook [Lenient (machine settings) contract (World (Honestly q))]
    (frame : Frame gone q) : KeepsWebhook settings (machine settings) contract (World (Honestly q)) := by
  refine keepsWebhook_of_writable settings fun k webhook r writes => frame.admits ?_ ?_ ?_
  · rintro m rfl
    cases writes
  · rw [writes]
    rintro ⟨rfl⟩
    cases webhook
  · rintro _ ds rfl
    cases writes
    cases webhook

instance : KeepsWebhook settings (machine settings) contract (World (Honestly Outside)) :=
  outside_frame.keepsWebhook

instance (listed : List Node) :
    KeepsWebhook settings (machine settings) contract (World (Honestly (Asked listed))) :=
  (asked_frame listed).keepsWebhook

end Steps

section Deletion

variable {settings : Settings} {ε : Type}

/-- What is known after the attempt to delete the install DaemonSet. -/
def Deleting {α : Type} : Except ε α → Cluster × UninstallReports → Prop
  | .ok _ => Stopped
  | .error _ => Anything

instance {α : Type} : (result : Except ε α) →
    Invariant (machine settings) contract (World (Honestly (Deleting result)))
  | .ok _ => stopped_frame.invariant
  | .error _ => anything_frame.invariant

theorem deleteInstallDaemonSet_triple : Triple (machine settings) contract (World (Honestly Anything))
      (orReturn (deleteIfPresent .daemonSet (daemonSetKey .installKata)))
      fun result => World (Honestly (Deleting result)) := by
  have admits : Admits (machine settings) contract (World (Honestly Anything))
      (.delete .daemonSet (daemonSetKey .installKata)) := anything_frame.deletable (by simp) _
  refine Triple.orElse (deleteIfPresent_triple
    (Q := fun result => World (Honestly (Deleting (result.mapError _))))
    (fun memory w holds => (admits memory w holds).1) ?_ ?_ ?_)
  · rintro memory ⟨s, reports⟩ w' holds reply
    refine ⟨((admits memory _ holds).2 _ w' reply).1, ?_⟩
    obtain ⟨s', answered, rfl, rule⟩ := operator_answered reply
    exact answered.delete_gone rule
  · rintro memory ⟨s, reports⟩ error w' holds reply missing
    refine ⟨((admits memory _ holds).2 _ w' reply).1, ?_⟩
    obtain ⟨s', answered, rfl, _⟩ := operator_answered reply
    obtain ⟨rfl, absent⟩ := answered.delete_notFound missing
    exact absent
  · exact fun memory w error w' holds reply _ => ⟨((admits memory w holds).2 _ w' reply).1, trivial⟩

/-- The nodes that are listed next are asked for their reports; the recorded reports
belong to nodes that exist. -/
def Checking (w : Cluster × UninstallReports) : Prop :=
  Honestly Stopped w ∧ w.2.checking = true ∧
    ∀ uid, (w.2.outstanding uid).isSome = true → ∃ node ∈ nodes w.1, node.metadata.uid = uid

instance : Invariant (machine settings) contract (World Checking) := by
  refine world_invariant ?_ fun _ holds => holds.1.1
  rintro ⟨s, reports⟩ _ changed ⟨stopped, checking, _⟩
  have invariant : Invariant (machine settings) contract (World (Honestly Stopped)) := stopped_frame.invariant
  refine ⟨invariant.stable {} changed stopped, ?_⟩
  obtain ⟨change, rfl, _⟩ := changed
  exact ⟨checking, fun uid => onNodes_exists⟩

theorem checkAgents_triple : Triple (machine settings) contract (World (Honestly Stopped))
    (mark .checkAgents : Op ε PUnit) fun _ => World Checking := by
  refine mark_triple (fun _ _ _ m isMark isRemoval => ?_) ?_
  · cases isMark
    cases isRemoval
  · rintro memory ⟨s, reports⟩ w' ⟨honest, stopped⟩ reply
    rw [operator_mark reply]
    have shrinks := call_shrinks s s (.mark ⟨.checkAgents, memory.current⟩) ⟨⟩ reports
    exact ⟨⟨honest_of_nodes rfl shrinks honest, stopped⟩, rfl, fun uid => onNodes_exists⟩

def Answers : Except Err (List Node) → Cluster × UninstallReports → Prop
  | .ok listed => Asked listed
  | .error _ => Stopped

instance : (result : Except Err (List Node)) →
    Invariant (machine settings) contract (World (Honestly (Answers result)))
  | .ok listed => (asked_frame listed).invariant
  | .error _ => stopped_frame.invariant

theorem pending_isSome {reports : UninstallReports} {uid : Nat} (pending : reports.pending uid = true) :
    (reports.outstanding uid).isSome = true := by
  unfold UninstallReports.pending at pending
  split at pending
  · rename_i report
    simp [report]
  · cases pending

theorem askNodes_triple (labels : List (String × String)) :
    Triple (machine settings) contract (World Checking) (getNodesWithLabels labels)
      fun result => World (Honestly (Answers result)) := by
  have admits : Admits (machine settings) contract (World (Honestly Stopped))
      (.list .node (Selector.ofSet labels)) :=
    stopped_frame.admits (by simp) (by simp [Request.writes]) (by simp)
  refine clientList_triple (fun _ _ _ => good_of_not_mark (by simp)) ?_ ?_
  · rintro memory ⟨s, reports⟩ listed w' ⟨stopped, checking, exact⟩ reply
    refine ⟨((admits memory _ stopped).2 _ w' reply).1, ?_⟩
    obtain ⟨honest, gone⟩ := stopped
    obtain ⟨s', answered, rfl, rule⟩ := operator_answered reply
    obtain ⟨rfl, _, rfl⟩ := answered.list_ok
    change reports.checking = true at checking
    simp only [staysInPool, checking, Bool.not_true, Bool.false_or, List.all_eq_true] at rule
    refine ⟨gone, fun uid left => ?_⟩
    have pending : reports.pending uid = true :=
      (call_shrinks s' s' (.list .node (Selector.ofSet labels)) (.ok []) reports).pending rfl left
    obtain ⟨node, member, rfl⟩ := exact uid (pending_isSome pending)
    have accepted : (Selector.ofSet labels).accepts node.metadata.labels = true := by
      simpa [pending] using rule node member
    refine ⟨node, List.mem_filter.mpr ⟨member, accepted⟩, rfl, fun reported => ?_⟩
    exact honest ⟨node, member, pending_isSome pending, reported⟩
  · rintro memory w error w' ⟨stopped, _⟩ reply
    exact (admits memory w stopped).2 _ w' reply

/-- What the check says: if it finds no uninstallation under way, all are done. -/
def Progress : Except ε Bool → Cluster × UninstallReports → Prop
  | .ok false => Done
  | _ => Stopped

instance : (result : Except ε Bool) →
    Invariant (machine settings) contract (World (Honestly (Progress result)))
  | .ok false => (asked_frame []).invariant
  | .ok true | .error _ => stopped_frame.invariant

theorem isKataNodePoolInState_triple :
    Triple (machine settings) contract (World (Honestly Stopped)) (isKataNodePoolInState .uninstalled)
      fun result => World (Honestly (Progress (result.map not))) := by
  refine Maintains.bind_triple getNodeSelectorAsMap_maintains (fun labels => ?_) fun _ _ _ => id
  refine Triple.bind checkAgents_triple (fun _ => ?_) fun _ _ _ holds => holds.1
  refine Triple.bind (askNodes_triple labels) (fun listed => ?_) fun _ _ _ => id
  refine triple_pure (P := World (Honestly (Asked listed))) fun memory w asked => ?_
  by_cases all : (listed.filter fun node => reportedState node =
      KataInstallationDaemonSetState.uninstalled.text).length = listed.length
  · rw [decide_eq_true all]
    refine ⟨asked.1, asked.2.1, fun uid pending => ?_⟩
    obtain ⟨node, member, _, unreported⟩ := asked.2.2 uid pending
    have reported := List.length_filter_eq_length_iff.mp all node member
    exact absurd (of_decide_eq_true reported) unreported
  · rw [decide_eq_false all]
    exact ⟨asked.1, asked.2.1⟩

theorem progress_triple : Triple (machine settings) contract (World (Honestly Stopped))
      (orReturn isKataUninstallDaemonSetUninstalling)
      fun result => World (Honestly (Progress result)) := by
  refine Triple.orElse (Triple.bind isKataNodePoolInState_triple (fun inState => ?_) ?_)
  · cases inState with
    | true => exact triple_pure (P := World (Honestly Done)) fun _ _ => id
    | false => exact triple_pure (P := World (Honestly Stopped)) fun _ _ => id
  · exact fun _ _ _ => id

theorem uninstallKey_ne : daemonSetKey .uninstallKata ≠ daemonSetKey .installKata := by decide

theorem startUninstallation_stops :
    Triple (machine settings) contract (World (Honestly Anything)) (startUninstallation settings)
      fun result => World (Honestly (Deleting result)) := by
  refine startUninstallation_triple (B := World (Honestly Stopped)) settings ?_ (fun ds isUninstall => ?_) ?_
  · refine Triple.post deleteInstallDaemonSet_triple ?_
    rintro (_ | _) memory w holds
    · exact holds
    · exact holds
  · have creates : Admits (machine settings) contract (World (Honestly Stopped))
        (.create .daemonSet (inScope ds)) := by
      refine stopped_frame.admits (by simp) (by simp [Request.writes]) fun _ created isCreated => ?_
      obtain rfl : inScope ds = created := by simpa using isCreated
      exact fun same => uninstallKey_ne (isUninstall.symm.trans same)
    refine Triple.post (ensureUninstallDaemonSet_maintains
      (stopped_frame.updatable (labeled_harmless (by decide))) creates) ?_
    rintro (_ | _) memory w ⟨honest, stopped⟩
    · exact ⟨honest, trivial⟩
    · exact ⟨honest, stopped⟩
  · exact fun _ _ _ holds => ⟨holds.elim And.left And.left, trivial⟩

theorem deletesDaemonSet_triple : Triple (machine settings) contract (World (Honestly Outside))
      (processKataConfigDeleteRequestDaemonSet settings) fun _ => World (Honestly Anything) := by
  refine processKataConfigDeleteRequestDaemonSet_triple (A := World (Honestly Anything)) settings ?_
    ((checkDeletionEligibility_maintains (anything_frame.passes (by simp) (by simp))).onward
      fun _ _ _ => id) ?_ fun _ _ _ => id
  · refine mark_triple (fun _ _ _ m isMark isRemoval => ?_) ?_
    · cases isMark
      cases isRemoval
    · rintro memory ⟨s, reports⟩ w' ⟨honest, _⟩ reply
      rw [operator_mark reply]
      have shrinks := call_shrinks s s (.mark ⟨.deleteRequestDaemonSet, memory.current⟩) ⟨⟩ reports
      exact ⟨honest_of_nodes rfl shrinks honest, trivial⟩
  · refine Triple.bind startUninstallation_stops (fun justCreated => ?_) fun _ _ _ => id
    have finish : Maintains (machine settings) contract (World (Honestly Done))
        (finishDeletionDaemonSet settings) :=
      finishDeletionDaemonSet_maintains settings
        ((asked_frame []).passes (by simp) fun _ _ done => Done.forgets_nothing done)
        ((asked_frame []).passes (by simp) (by simp))
        ((asked_frame []).updatable unlabeledDaemonSet_harmless) ((asked_frame []).deletable (by simp))
    refine concludeDeletionDaemonSet_triple (A := World (Honestly Stopped)) (B := World (Honestly Done))
      settings ?_ (finish.post fun _ _ _ holds => ⟨holds.1, trivial⟩) ?_ justCreated
    · refine progress_triple.post ?_
      rintro (_ | _ | _) memory w holds
      · exact holds
      · exact holds
      · exact holds
    · exact fun _ _ _ holds => ⟨holds.elim And.left And.left, trivial⟩

end Deletion

section Requests

variable {settings : Settings}

theorem outside_passes {point : Point} (inside : point ≠ .deleteRequestDaemonSet) :
    Passes (machine settings) contract (World (Honestly Outside)) point :=
  outside_frame.passes inside fun _ _ outside => outside.forgets_nothing

theorem deletes_triple : Triple (machine settings) contract (World (Honestly Outside))
    (deleteBranch settings) fun _ => World (Honestly Anything) := by
  have rest memory w (outside : World (Honestly Outside) memory w) : World (Honestly Anything) memory w :=
    ⟨outside.1, trivial⟩
  refine Maintains.bind_triple (outside_passes (by simp) _) (fun _ => ?_) fun _ => rest
  refine deleteAndStoreStatus_triple settings (processDeleteRequest_triple settings ?_ ?_)
  · have maintains : Maintains (machine settings) contract (World (Honestly Outside))
        (processKataConfigDeleteRequest settings) :=
      processKataConfigDeleteRequest_maintains settings (fun _ uninstalls => outside_passes (by rintro rfl; cases uninstalls))
        (outside_frame.updatable unlabeled_harmless)
        (removeMc_maintains settings (outside_frame.deletable (by simp)))
        (outside_frame.deletable (by simp)) (outside_frame.deletable (by simp))
    exact maintains.given.post fun _ => rest
  · exact deletesDaemonSet_triple.given

theorem installs_triple (oldObjStatus : KataConfigStatus) :
    Maintains (machine settings) contract (World (Honestly Outside))
      (installBranch settings oldObjStatus) := by
  have commences : Commences (machine settings) contract (World (Honestly Outside)) := world_commences
  have writable {k : Kind} (notNode : k ≠ .node) :
      Writable (machine settings) contract (World (Honestly Outside)) k := outside_frame.writable notNode
  exact installBranch_maintains settings commences
    (fun _ _ installs => outside_passes (by rintro rfl; cases installs))
    (fun selector => outside_frame.updatable (relabeled_harmless selector))
    (outside_frame.updatable (labeled_harmless (by decide))) (createMc_maintains settings (writable (by simp)))
    (writable (by simp)) (writable (by simp)) (world_creates (writable (by simp))) oldObjStatus

end Requests

theorem sound (settings : Settings) :
    (system settings).Sound (initially {}) contract (World (Honestly Anything))
      fun outcome => World (Honestly Anything) outcome.2 := by
  refine operator_sound (fun _ => World (Honestly Outside))
    (fun _ => World (Honestly Anything)) ?_ ?_ ?_ ?_ ?_
  · rintro ⟨s, reports⟩ ⟨empty, _⟩
    refine ⟨?_, trivial⟩
    rintro ⟨node, member, _⟩
    have noNodes : s.objs .node = .empty := empty .node
    change node ∈ (s.objs .node).items at member
    rw [noNodes] at member
    cases member
  · exact fun _ _ _ holds _ => ⟨holds.1, rfl⟩
  · exact fun key => world_reconcile settings key (fun _ holds => ⟨holds.1, trivial⟩)
      (world_classes (outside_frame.writable (by simp))) deletes_triple
      fun status => (installs_triple status).post fun _ _ _ holds => ⟨holds.1, trivial⟩
  · exact fun _ _ _ holds _ => holds
  · exact fun _ honest _ => ⟨honest, trivial⟩

end UninstallReports

def daemonSetInstallation : Script :=
  daemonSetCluster ++ others [.create .kataConfig exampleKataConfig] ++ [.start exampleKey] ++
    answered 48 ++ [.finish] ++ others [nodeReports .installed] ++ [.start exampleKey] ++
    answered 62 ++ [.finish]

def selectorEdit : Req :=
  .patch .kataConfig exampleKey [] fun (kataConfig : KataConfigBody) =>
    { kataConfig with spec := { kataConfig.spec with
      kataConfigPoolSelector := some { matchLabels := [("custom", "yes")] } } }

/-- The node leaves the pool with kata installed, and the `KataConfig` is deleted. -/
theorem forgets_installed_node : ∃ w m,
    (operator plainSettings uninstallReports {}).Issues (initially {}) w (.mark m) ∧
      m.point = .removeFinalizer ∧ UninstallReports.Forgets w := by
  have ends : endsAtMark plainSettings uninstallReports {} {}
      (daemonSetInstallation ++ others [selectorEdit] ++ [.start exampleKey] ++ answered 57 ++ [.finish] ++
        others [.delete .kataConfig exampleKey] ++ [.start exampleKey] ++ answered 51 ++ [.finish] ++
        [.start exampleKey] ++ answered 58)
      (fun w m => m.point = .removeFinalizer ∧ UninstallReports.Forgets w) = true := by
    decide +kernel
  obtain ⟨w, m, issued, checked⟩ := issues_of_endsAtMark ends
  exact ⟨w, m, issued, of_decide_eq_true checked⟩

/-- If the nodes whose uninstall reports are outstanding are in the pool when it is
asked, and the others leave the agents' labels and DaemonSets alone, then every node
on which kata was installed is uninstalled when the finalizer is removed. -/
theorem forgets_no_node (settings : Settings) {w : Cluster × UninstallReports} {m : Mark}
    (issued : (operator settings uninstallReports staysInPool).Issues (initially {}) w (.mark m))
    (removal : m.point = .removeFinalizer) : ¬UninstallReports.Forgets w :=
  (UninstallReports.sound settings).good issued m rfl removal

/-- The node stays in the pool, and its agent reports. -/
theorem forgets_no_node_in_pool : ∃ w m,
    (operator plainSettings uninstallReports staysInPool).Issues (initially {}) w (.mark m) ∧
      m.point = .removeFinalizer ∧ w.2.deleting.isSome = true ∧ nodes w.1 ≠ [] ∧
      ¬UninstallReports.Forgets w := by
  have ends : endsAtMark plainSettings uninstallReports staysInPool {}
      (daemonSetInstallation ++ others [.delete .kataConfig exampleKey] ++ [.start exampleKey] ++
        answered 52 ++ [.finish] ++ others [nodeReports .uninstalled] ++ [.start exampleKey] ++ answered 59)
      (fun w m => m.point = .removeFinalizer && (w.2.deleting.isSome && !(nodes w.1).isEmpty)) = true := by
    decide +kernel
  obtain ⟨w, m, issued, checked⟩ := issues_of_endsAtMark ends
  obtain ⟨removal, rest⟩ := Bool.and_eq_true_iff.mp checked
  obtain ⟨deleting, exist⟩ := Bool.and_eq_true_iff.mp rest
  have removal := of_decide_eq_true removal
  exact ⟨w, m, issued, removal, deleting, by simpa using exist, forgets_no_node plainSettings issued removal⟩

end SandboxedContainers
