import SandboxedContainers.Lib.Upsert

/-!
# Operands of the console plugins and their owner

The namespaced operands of a console plugin name the ClusterServiceVersion of the operator as
an owner, so that they are garbage collected with it.  An upgrade brings a new CSV: what counts
is that the references to it and to others stay in order however often it is set.
-/

namespace SandboxedContainers

open Lib

/-- `metav1.OwnerReference`. -/
structure OwnerRef where
  apiVersion : String
  kind : String
  name : String
  uid : String
  controller : Option Bool := none
  blockOwnerDeletion : Option Bool := none
  deriving DecidableEq, Repr

/-- What the getters of the unstructured CSV return. -/
structure OperatorCSV where
  apiVersion : String
  kind : String
  name : String
  uid : String

def OperatorCSV.ref (csv : OperatorCSV) : OwnerRef := ⟨csv.apiVersion, csv.kind, csv.name, csv.uid, none, none⟩

/-- The owner references of an object once the CSV is among them; without a CSV they stay. -/
def consolePluginSetCSVOwnerRef (csv : Option OperatorCSV) (existing : List OwnerRef) : List OwnerRef :=
  match csv with
  | none => existing
  | some csv => upsert OwnerRef.uid csv.ref existing

def setCSVOwnerRefs (csvs : List (Option OperatorCSV)) (existing : List OwnerRef) : List OwnerRef :=
  csvs.foldl (fun existing csv => consolePluginSetCSVOwnerRef csv existing) existing

section Ownership

variable {csv : Option OperatorCSV} {existing : List OwnerRef}

abbrev UniqueOwners (references : List OwnerRef) : Prop := (references.map OwnerRef.uid).Nodup

theorem UniqueOwners.set (unique : UniqueOwners existing) :
    UniqueOwners (consolePluginSetCSVOwnerRef csv existing) := by
  cases csv with
  | none => exact unique
  | some csv => exact nodup_upsert unique

theorem UniqueOwners.setAll (unique : UniqueOwners existing) (csvs : List (Option OperatorCSV)) :
    UniqueOwners (setCSVOwnerRefs csvs existing) := by
  induction csvs generalizing existing with
  | nil => exact unique
  | cons csv csvs ih => exact ih unique.set

theorem setCSVOwnerRef_again (csv : Option OperatorCSV) (existing : List OwnerRef) :
    consolePluginSetCSVOwnerRef csv (consolePluginSetCSVOwnerRef csv existing) =
      consolePluginSetCSVOwnerRef csv existing := by
  cases csv with
  | none => rfl
  | some csv => exact upsert_upsert rfl

/-- Before a call any others may have been made.  The call leaves one reference to its CSV, up to
date, and those to other owners as they were; making it again has no effect. -/
theorem csvOwnerRef_maintained (references : List OwnerRef) (unique : UniqueOwners references)
    (earlier : List (Option OperatorCSV)) (called : Option OperatorCSV) :
    let before := setCSVOwnerRefs earlier references
    let after := consolePluginSetCSVOwnerRef called before
    UniqueOwners before ∧ UniqueOwners after ∧
      (∀ csv, called = some csv →
        after.filter (·.uid = csv.uid) = [⟨csv.apiVersion, csv.kind, csv.name, csv.uid, none, none⟩] ∧
        after.filter (·.uid ≠ csv.uid) = before.filter (·.uid ≠ csv.uid)) ∧
      (called = none → after = before) ∧ consolePluginSetCSVOwnerRef called after = after := by
  intro before after
  have kept : UniqueOwners before := unique.setAll earlier
  refine ⟨kept, kept.set, ?_, ?_, setCSVOwnerRef_again called before⟩
  · intro csv same
    subst same
    exact ⟨filter_upsert_eq (x := csv.ref) kept, filter_upsert_ne (x := csv.ref)⟩
  · intro same
    subst same
    rfl

/-- An upgrade: the operand of the old CSV gets the new one as an owner, and keeps the others. -/
theorem csvOwnerRef_maintained_upgrade :
    UniqueOwners [⟨"v1", "ConfigMap", "settings", "u0", some true, none⟩] ∧
      (consolePluginSetCSVOwnerRef (some ⟨"v1alpha1", "ClusterServiceVersion", "osc.v2", "u2"⟩)
        (setCSVOwnerRefs [some ⟨"v1alpha1", "ClusterServiceVersion", "osc.v1", "u1"⟩]
          [⟨"v1", "ConfigMap", "settings", "u0", some true, none⟩])).filter (·.uid = "u2") =
        [⟨"v1alpha1", "ClusterServiceVersion", "osc.v2", "u2", none, none⟩] :=
  ⟨by decide, ((csvOwnerRef_maintained [⟨"v1", "ConfigMap", "settings", "u0", some true, none⟩] (by decide)
    [some ⟨"v1alpha1", "ClusterServiceVersion", "osc.v1", "u1"⟩]
    (some ⟨"v1alpha1", "ClusterServiceVersion", "osc.v2", "u2"⟩)).2.2.1 _ rfl).1⟩

end Ownership

end SandboxedContainers
