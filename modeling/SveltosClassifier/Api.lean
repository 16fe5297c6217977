import Mathlib.Logic.Function.Basic
import Mathlib.Data.List.Dedup

/-!
# The objects a Classifier reconciliation reads and writes

Only the fields the controller reads or writes are kept. A Go `[]byte` is a
list of bytes with `nil` as the empty list, and a string-typed Go enum keeps
its zero value `""` as a constructor of its own. A Go function returning a
value and an `error` returns the pair.
-/

set_option autoImplicit false

namespace Sveltos.Api

/-- A Go `error`. The controller only ever asks `apierrors.IsNotFound` of one,
so every other error is its message. -/
inductive GoError where
  | notFound
  | message (text : String)
  deriving DecidableEq, Repr

def isNotFound : GoError → Bool
  | .notFound => true
  | .message _ => false

def GoError.text : GoError → String
  | .notFound => "not found"
  | .message t => t

structure ObjectReference where
  «namespace» : String
  name : String
  kind : String
  apiVersion : String
  deriving DecidableEq, Repr

instance : Inhabited ObjectReference := ⟨⟨"", "", "", ""⟩⟩

structure PolicyRef where
  «namespace» : String
  name : String
  kind : String
  deriving DecidableEq, Repr

def ClassifierKind : String := "Classifier"

def ClassifierFinalizer : String := "classifierfinalizer.projectsveltos.io"

def FeatureClassifier : String := "Classifier"

inductive ClusterType where
  | capi
  | sveltos
  deriving DecidableEq, Repr

def ClusterType.toLower : ClusterType → String
  | .capi => "capi"
  | .sveltos => "sveltos"

inductive ClassifierFeatureStatus where
  | unset
  | provisioning
  | provisioned
  | failed
  | removing
  | removed
  deriving DecidableEq, Repr

structure ClusterInfo where
  cluster : ObjectReference
  hash : List UInt8
  status : ClassifierFeatureStatus
  failureMessage : Option String
  deriving DecidableEq, Repr

structure UnManagedLabel where
  key : String
  failureMessage : Option String
  deriving DecidableEq, Repr

structure MachingClusterStatus where
  clusterRef : ObjectReference
  managedLabels : List String
  unManagedLabels : List UnManagedLabel
  deriving DecidableEq, Repr

instance : Inhabited MachingClusterStatus := ⟨⟨default, [], []⟩⟩

structure ClassifierLabel where
  key : String
  value : String
  deriving DecidableEq, Repr

structure ClassifierSpec where
  deployedResourceConstraints : List String
  kubernetesVersionConstraints : List String
  classifierLabels : List ClassifierLabel
  deriving DecidableEq, Repr

structure ClassifierStatus where
  clusterInfo : List ClusterInfo
  machingClusterStatuses : List MachingClusterStatus
  deriving DecidableEq, Repr

/-- A Classifier object: `paused` is the paused annotation, `deleting` a set
`DeletionTimestamp`. -/
structure Classifier where
  name : String
  spec : ClassifierSpec
  finalizers : List String
  paused : Bool
  deleting : Bool
  status : ClassifierStatus
  deriving DecidableEq, Repr

def Classifier.setClusterInfo (c : Classifier) (l : List ClusterInfo) : Classifier :=
  { c with status := { c.status with clusterInfo := l } }

def Classifier.setMachingClusterStatuses (c : Classifier) (l : List MachingClusterStatus) :
    Classifier :=
  { c with status := { c.status with machingClusterStatuses := l } }

@[simp] theorem setClusterInfo_clusterInfo (c : Classifier) (l : List ClusterInfo) :
    (c.setClusterInfo l).status.clusterInfo = l := rfl

@[simp] theorem setMachingClusterStatuses_clusterInfo (c : Classifier)
    (l : List MachingClusterStatus) :
    (c.setMachingClusterStatuses l).status.clusterInfo = c.status.clusterInfo := rfl

@[simp] theorem setMachingClusterStatuses_name (c : Classifier) (l : List MachingClusterStatus) :
    (c.setMachingClusterStatuses l).name = c.name := rfl

@[simp] theorem setClusterInfo_spec (c : Classifier) (l : List ClusterInfo) :
    (c.setClusterInfo l).spec = c.spec := rfl

@[simp] theorem setMachingClusterStatuses_spec (c : Classifier) (l : List MachingClusterStatus) :
    (c.setMachingClusterStatuses l).spec = c.spec := rfl

def Classifier.frame (c : Classifier) : String × ClassifierSpec × Bool × Bool :=
  (c.name, c.spec, c.paused, c.deleting)

@[simp] theorem setClusterInfo_frame (c : Classifier) (l : List ClusterInfo) :
    (c.setClusterInfo l).frame = c.frame := rfl

@[simp] theorem setMachingClusterStatuses_frame (c : Classifier) (l : List MachingClusterStatus) :
    (c.setMachingClusterStatuses l).frame = c.frame := rfl

@[simp] theorem frame_with_finalizers (c : Classifier) (fs : List String) :
    ({ c with finalizers := fs } : Classifier).frame = c.frame := rfl

@[simp] theorem frame_with_status (c : Classifier) (st : ClassifierStatus) :
    ({ c with status := st } : Classifier).frame = c.frame := rfl

structure ClassifierReport where
  clusterNamespace : String
  clusterName : String
  «match» : Bool
  deriving DecidableEq, Repr

structure Cluster where
  «namespace» : String
  name : String
  deleting : Bool
  labels : List (String × String)
  deriving DecidableEq, Repr

def setLabel (labels : List (String × String)) (key value : String) : List (String × String) :=
  if labels.any (·.1 == key) then labels.map (fun l => if l.1 = key then (key, value) else l)
  else labels ++ [(key, value)]

section Lookup

variable {β : Type} {k k' : String} (v : β)

theorem lookup_cons_ne {a : String} (b : β) (l : List (String × β)) (h : k ≠ a) :
    ((a, b) :: l).lookup k = l.lookup k := by
  simp [List.lookup_cons, beq_false_of_ne h]

theorem lookup_cons_self (b : β) (l : List (String × β)) : ((k, b) :: l).lookup k = some b := by
  simp [List.lookup_cons]

theorem lookup_map_set (l : List (String × β)) (h : k ≠ k') :
    (l.map fun e => if e.1 = k' then (k', v) else e).lookup k = l.lookup k := by
  induction l with
  | nil => rfl
  | cons e l ih =>
    rcases e with ⟨a, b⟩
    by_cases ha : a = k'
    · subst ha; simp only [List.map_cons, if_true, lookup_cons_ne _ _ h, ih]
    · simp only [List.map_cons, ha, if_false, List.lookup_cons, ih]

theorem lookup_append_set (l : List (String × β)) (h : k ≠ k') :
    (l ++ [(k', v)]).lookup k = l.lookup k := by
  induction l with
  | nil => exact lookup_cons_ne _ _ h
  | cons e l ih =>
    rcases e with ⟨a, b⟩
    by_cases hk : k = a
    · subst hk; simp only [List.cons_append, lookup_cons_self]
    · simp only [List.cons_append, lookup_cons_ne _ _ hk, ih]

theorem lookup_map_set_self (l : List (String × β)) (h : l.any (·.1 == k) = true) :
    (l.map fun e => if e.1 = k then (k, v) else e).lookup k = some v := by
  induction l with
  | nil => simp at h
  | cons e l ih =>
    rcases e with ⟨a, b⟩
    by_cases ha : a = k
    · subst ha; simp only [List.map_cons, if_true, lookup_cons_self]
    · simp only [List.any_cons, beq_false_of_ne ha, Bool.false_or] at h
      simp only [List.map_cons, ha, if_false, lookup_cons_ne _ _ (Ne.symm ha), ih h]

theorem lookup_append_set_self (l : List (String × β)) (h : l.any (·.1 == k) = false) :
    (l ++ [(k, v)]).lookup k = some v := by
  induction l with
  | nil => exact lookup_cons_self _ _
  | cons e l ih =>
    rcases e with ⟨a, b⟩
    simp only [List.any_cons, Bool.or_eq_false_iff, beq_eq_false_iff_ne] at h
    simp only [List.cons_append, lookup_cons_ne _ _ (Ne.symm h.1), ih h.2]

theorem lookup_setLabel (v : String) (labels : List (String × String)) (h : k ≠ k') :
    (setLabel labels k' v).lookup k = labels.lookup k := by
  unfold setLabel
  split
  · exact lookup_map_set v labels h
  · exact lookup_append_set v labels h

theorem lookup_setLabel_self (v : String) (labels : List (String × String)) :
    (setLabel labels k v).lookup k = some v := by
  unfold setLabel
  split
  · exact lookup_map_set_self v labels ‹_›
  · exact lookup_append_set_self v labels (Bool.eq_false_iff.2 ‹_›)

end Lookup

/-- The order in which one `for ... range` over a Go map visits its keys: any
permutation of them, chosen afresh for each loop. -/
structure MapOrder (α : Type) where
  visit : List α → List α
  perm : ∀ l, (visit l).Perm l

def MapOrder.insertion (α : Type) : MapOrder α := ⟨id, fun l => List.Perm.refl l⟩

inductive ReportMode where
  | collectFromManagementCluster
  | agentSendReportsNoGateway
  deriving DecidableEq, Repr

structure Feature where
  id : String
  currentHash : Classifier → List UInt8

end Sveltos.Api
