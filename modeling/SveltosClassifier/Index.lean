import SveltosClassifier.Api

/-!
# The in-memory index of classifiers and clusters

`ClusterMap` sends a cluster to the classifiers deployed in it and
`ClassifierMap` sends a classifier to its clusters. Cluster events are mapped
to classifiers through this index, with no I/O, so the two maps must stay
mirror images. `updateMaps` is their only writer; the other operations on the
reconciler's memory touch only the conflict sets.
-/

set_option autoImplicit false

namespace Sveltos.Index
open Sveltos.Api

/-- `libsveltosset.Set`: a Go `map[PolicyRef]bool`, read as the list of its
keys. Go visits a map in no fixed order; every loop over one here only inserts
or erases, so the order does not change what the loop leaves. -/
structure SveltosSet where
  items : List PolicyRef
  deriving Repr

namespace SveltosSet

def empty : SveltosSet := ⟨[]⟩

def has (s : SveltosSet) (e : PolicyRef) : Bool := s.items.contains e

def insert (s : SveltosSet) (e : PolicyRef) : SveltosSet :=
  if s.has e then s else ⟨s.items ++ [e]⟩

def erase (s : SveltosSet) (e : PolicyRef) : SveltosSet :=
  ⟨s.items.filter (fun x => x != e)⟩

def difference (s s2 : SveltosSet) : List PolicyRef :=
  s.items.filter (fun x => !s2.has x)

@[simp] theorem mem_empty (x : PolicyRef) : x ∉ empty.items := List.not_mem_nil x

@[simp] theorem mem_insert (s : SveltosSet) (e x : PolicyRef) :
    x ∈ (s.insert e).items ↔ x ∈ s.items ∨ x = e := by
  by_cases h : e ∈ s.items <;> simp [insert, has, h]
  exact fun hx => hx ▸ h

@[simp] theorem mem_erase (s : SveltosSet) (e x : PolicyRef) :
    x ∈ (s.erase e).items ↔ x ∈ s.items ∧ x ≠ e := by
  simp [erase]

@[simp] theorem mem_difference (s s2 : SveltosSet) (x : PolicyRef) :
    x ∈ s.difference s2 ↔ x ∈ s.items ∧ x ∉ s2.items := by
  simp [difference, has]

theorem insert_insert (s : SveltosSet) (e : PolicyRef) : (s.insert e).insert e = s.insert e := by
  by_cases h : e ∈ s.items <;> simp [insert, has, h]

theorem erase_erase (s : SveltosSet) (e : PolicyRef) : (s.erase e).erase e = s.erase e := by
  simp [erase, List.filter_filter]

end SveltosSet

/-- The fields of `ClassifierReconciler` a reconciliation reads or writes. The
deployer and the API server are shared with other workers and are modelled
as state of their own. -/
structure ClassifierReconciler where
  classifierReportMode : ReportMode
  controlPlaneEndpoint : String
  clusterMap : PolicyRef → Option SveltosSet
  classifierMap : PolicyRef → Option SveltosSet
  classifierSet : SveltosSet
  allClassifierSet : SveltosSet

def ClassifierReconciler.init (mode : ReportMode) (endpoint : String) : ClassifierReconciler :=
  ⟨mode, endpoint, fun _ => none, fun _ => none, .empty, .empty⟩

namespace ClassifierReconciler

variable (r : ClassifierReconciler)

def getClusterMapForEntry (entry : PolicyRef) : SveltosSet :=
  (r.clusterMap entry).getD .empty

def clustersOf (p : PolicyRef) : List PolicyRef :=
  ((r.classifierMap p).getD .empty).items

def updateClusterMapEntry (entry : PolicyRef) (f : SveltosSet → SveltosSet) :
    ClassifierReconciler :=
  { r with clusterMap := Function.update r.clusterMap entry (some (f (r.getClusterMapForEntry entry))) }

def updateClusterMapEntries (entries : List PolicyRef) (f : SveltosSet → SveltosSet) :
    ClassifierReconciler :=
  entries.foldl (fun r e => r.updateClusterMapEntry e f) r

end ClassifierReconciler

def clusterRef (c : ObjectReference) : PolicyRef := ⟨c.namespace, c.name, "Cluster"⟩

def classifierRef (name : String) : PolicyRef := ⟨"", name, ClassifierKind⟩

def currentClusters (clusterInfo : List ClusterInfo) : SveltosSet :=
  clusterInfo.foldl (fun s c => s.insert (clusterRef c.cluster)) .empty

def toBeRemoved (r : ClassifierReconciler) (classifierInfo : PolicyRef) (current : SveltosSet) :
    List PolicyRef :=
  match r.classifierMap classifierInfo with
  | some v => v.difference current
  | none => []

def updateMaps (r : ClassifierReconciler) (name : String) (clusterInfo : List ClusterInfo) :
    ClassifierReconciler :=
  let current := currentClusters clusterInfo
  let classifierInfo := classifierRef name
  let removed := toBeRemoved r classifierInfo current
  let r := r.updateClusterMapEntries (clusterInfo.map fun c => clusterRef c.cluster)
    (·.insert classifierInfo)
  let r := r.updateClusterMapEntries removed (·.erase classifierInfo)
  { r with classifierMap := Function.update r.classifierMap classifierInfo (some current) }

def updateClassifierSet (r : ClassifierReconciler) (name : String) (hasUnManaged : Bool) :
    ClassifierReconciler :=
  let classifierInfo := classifierRef name
  let classifierSet := if hasUnManaged then r.classifierSet.insert classifierInfo
    else r.classifierSet.erase classifierInfo
  { r with classifierSet := classifierSet, allClassifierSet := r.allClassifierSet.insert classifierInfo }

def eraseClassifier (r : ClassifierReconciler) (name : String) : ClassifierReconciler :=
  { r with classifierSet := r.classifierSet.erase (classifierRef name),
           allClassifierSet := r.allClassifierSet.erase (classifierRef name) }

inductive IndexOp where
  | updateMaps (name : String) (clusterInfo : List ClusterInfo)
  | updateClassifierSet (name : String) (hasUnManaged : Bool)
  | eraseClassifier (name : String)

def IndexOp.apply (r : ClassifierReconciler) : IndexOp → ClassifierReconciler
  | .updateMaps name l => Sveltos.Index.updateMaps r name l
  | .updateClassifierSet name b => Sveltos.Index.updateClassifierSet r name b
  | .eraseClassifier name => Sveltos.Index.eraseClassifier r name

def runIndex (r : ClassifierReconciler) (ops : List IndexOp) : ClassifierReconciler :=
  ops.foldl IndexOp.apply r

theorem runIndex_append (r : ClassifierReconciler) (ops rest : List IndexOp) :
    runIndex r (ops ++ rest) = runIndex (runIndex r ops) rest :=
  List.foldl_append _ _ _ _

theorem updateClusterMapEntries_settings (r : ClassifierReconciler) (entries : List PolicyRef)
    (f : SveltosSet → SveltosSet) :
    (r.updateClusterMapEntries entries f).classifierReportMode = r.classifierReportMode ∧
      (r.updateClusterMapEntries entries f).controlPlaneEndpoint = r.controlPlaneEndpoint := by
  induction entries generalizing r with
  | nil => exact ⟨rfl, rfl⟩
  | cons e es ih => exact ih (r.updateClusterMapEntry e f)

theorem runIndex_settings (r : ClassifierReconciler) (ops : List IndexOp) :
    (runIndex r ops).classifierReportMode = r.classifierReportMode ∧
      (runIndex r ops).controlPlaneEndpoint = r.controlPlaneEndpoint := by
  induction ops generalizing r with
  | nil => exact ⟨rfl, rfl⟩
  | cons op ops ih =>
    have h1 : (op.apply r).classifierReportMode = r.classifierReportMode ∧
        (op.apply r).controlPlaneEndpoint = r.controlPlaneEndpoint := by
      cases op with
      | updateMaps name l =>
        obtain ⟨h1, h2⟩ := updateClusterMapEntries_settings r (l.map fun c => clusterRef c.cluster)
          (·.insert (classifierRef name))
        obtain ⟨h3, h4⟩ := updateClusterMapEntries_settings
          (r.updateClusterMapEntries (l.map fun c => clusterRef c.cluster) (·.insert (classifierRef name)))
          (toBeRemoved r (classifierRef name) (currentClusters l)) (·.erase (classifierRef name))
        exact ⟨h3.trans h1, h4.trans h2⟩
      | updateClassifierSet => exact ⟨rfl, rfl⟩
      | eraseClassifier => exact ⟨rfl, rfl⟩
    obtain ⟨h2, h3⟩ := ih (op.apply r)
    exact ⟨h2.trans h1.1, h3.trans h1.2⟩

def lastUpdate (name : String) (ops : List IndexOp) : Option (List ClusterInfo) :=
  ops.foldl (fun acc op => match op with
    | .updateMaps n l => if n = name then some l else acc
    | _ => acc) none

namespace ClassifierReconciler

variable (r : ClassifierReconciler)

theorem getClusterMapForEntry_updateClusterMapEntry (e E : PolicyRef) (f : SveltosSet → SveltosSet) :
    (r.updateClusterMapEntry e f).getClusterMapForEntry E =
      if E = e then f (r.getClusterMapForEntry e) else r.getClusterMapForEntry E := by
  by_cases h : E = e <;> simp [updateClusterMapEntry, getClusterMapForEntry, h]

theorem getClusterMapForEntry_updateClusterMapEntries (es : List PolicyRef)
    (f : SveltosSet → SveltosSet) (hf : ∀ s, f (f s) = f s) (E : PolicyRef) :
    (r.updateClusterMapEntries es f).getClusterMapForEntry E =
      if E ∈ es then f (r.getClusterMapForEntry E) else r.getClusterMapForEntry E := by
  induction es generalizing r with
  | nil => simp [updateClusterMapEntries]
  | cons e es ih =>
    change ((r.updateClusterMapEntry e f).updateClusterMapEntries es f).getClusterMapForEntry E = _
    rw [ih, getClusterMapForEntry_updateClusterMapEntry]
    by_cases h : E = e <;> by_cases h' : E ∈ es <;> simp [h, h', hf]

@[simp] theorem classifierMap_updateClusterMapEntries (es : List PolicyRef)
    (f : SveltosSet → SveltosSet) : (r.updateClusterMapEntries es f).classifierMap = r.classifierMap := by
  induction es generalizing r with
  | nil => rfl
  | cons e es ih => exact ih _

end ClassifierReconciler

open ClassifierReconciler

theorem mem_foldl_insert (l : List ClusterInfo) (s : SveltosSet) (x : PolicyRef) :
    x ∈ (l.foldl (fun s c => s.insert (clusterRef c.cluster)) s).items ↔
      x ∈ s.items ∨ x ∈ l.map fun c => clusterRef c.cluster := by
  induction l generalizing s with
  | nil => simp
  | cons c l ih => rw [List.foldl_cons, ih]; simp [or_assoc, eq_comm]

@[simp] theorem mem_currentClusters (l : List ClusterInfo) (x : PolicyRef) :
    x ∈ (currentClusters l).items ↔ x ∈ l.map fun c => clusterRef c.cluster := by
  simp [currentClusters, mem_foldl_insert]

theorem clustersOf_updateMaps (r : ClassifierReconciler) (name : String) (l : List ClusterInfo)
    (p : PolicyRef) : (updateMaps r name l).clustersOf p =
      if p = classifierRef name then (currentClusters l).items else r.clustersOf p := by
  by_cases h : p = classifierRef name <;> simp [updateMaps, clustersOf, h]

theorem mem_toBeRemoved (r : ClassifierReconciler) (p x : PolicyRef) (cur : SveltosSet) :
    x ∈ toBeRemoved r p cur ↔ x ∈ r.clustersOf p ∧ x ∉ cur.items := by
  unfold toBeRemoved clustersOf
  cases r.classifierMap p <;> simp

theorem mem_updateMaps_clusterMap (r : ClassifierReconciler) (name : String)
    (l : List ClusterInfo) (q e : PolicyRef) :
    q ∈ ((updateMaps r name l).getClusterMapForEntry e).items ↔
      (q ∈ (r.getClusterMapForEntry e).items ∨ (q = classifierRef name ∧ e ∈ (currentClusters l).items)) ∧
        ¬(q = classifierRef name ∧ e ∈ toBeRemoved r (classifierRef name) (currentClusters l)) := by
  change q ∈ (((r.updateClusterMapEntries _ _).updateClusterMapEntries _ _).getClusterMapForEntry e).items ↔ _
  rw [getClusterMapForEntry_updateClusterMapEntries _ _ _ (fun s => SveltosSet.erase_erase s _),
    getClusterMapForEntry_updateClusterMapEntries _ _ _ (fun s => SveltosSet.insert_insert s _),
    mem_currentClusters]
  by_cases h1 : e ∈ l.map fun c => clusterRef c.cluster <;>
    by_cases h2 : e ∈ toBeRemoved r (classifierRef name) (currentClusters l) <;>
    simp only [h1, h2, if_true, if_false, SveltosSet.mem_insert, SveltosSet.mem_erase, ne_eq, and_true,
      and_false, or_false, not_false_eq_true]

def Mirror (r : ClassifierReconciler) : Prop :=
  ∀ p c, p ∈ (r.getClusterMapForEntry c).items ↔ c ∈ r.clustersOf p

theorem mirror_init (mode : ReportMode) (endpoint : String) :
    Mirror (ClassifierReconciler.init mode endpoint) := by
  simp [Mirror, ClassifierReconciler.init, getClusterMapForEntry, clustersOf]

theorem updateMaps_mirror (r : ClassifierReconciler) (name : String) (l : List ClusterInfo)
    (h : Mirror r) : Mirror (updateMaps r name l) := by
  intro p c
  rw [mem_updateMaps_clusterMap, clustersOf_updateMaps, mem_toBeRemoved, h]
  by_cases hp : p = classifierRef name
  · simp only [hp, if_true, true_and]; tauto
  · simp [hp]

theorem apply_mirror (r : ClassifierReconciler) (op : IndexOp) (h : Mirror r) :
    Mirror (op.apply r) := by
  cases op with
  | updateMaps name l => exact updateMaps_mirror r name l h
  | updateClassifierSet => exact h
  | eraseClassifier => exact h

theorem runIndex_mirror (r : ClassifierReconciler) (ops : List IndexOp) (h : Mirror r) :
    Mirror (runIndex r ops) := by
  induction ops generalizing r with
  | nil => exact h
  | cons op ops ih => exact ih _ (apply_mirror r op h)

theorem apply_classifierMap (r : ClassifierReconciler) (op : IndexOp) (name : String) :
    (op.apply r).classifierMap (classifierRef name) = match op with
      | .updateMaps n l => if n = name then some (currentClusters l)
          else r.classifierMap (classifierRef name)
      | _ => r.classifierMap (classifierRef name) := by
  cases op with
  | updateMaps n l =>
    by_cases h : n = name
    · simp [IndexOp.apply, updateMaps, h]
    · have : classifierRef name ≠ classifierRef n := by simp [classifierRef, Ne.symm h]
      simp [IndexOp.apply, updateMaps, h, this]
  | updateClassifierSet => rfl
  | eraseClassifier => rfl

theorem runIndex_classifierMap (r : ClassifierReconciler) (ops : List IndexOp) (name : String) :
    (runIndex r ops).classifierMap (classifierRef name) =
      match lastUpdate name ops with
      | some l => some (currentClusters l)
      | none => r.classifierMap (classifierRef name) := by
  induction ops using List.reverseRecOn with
  | nil => rfl
  | append_singleton ops op ih =>
    rw [runIndex_append]
    simp only [lastUpdate, List.foldl_append, List.foldl_cons, List.foldl_nil] at ih ⊢
    change (op.apply (runIndex r ops)).classifierMap _ = _
    rw [apply_classifierMap]
    cases op with
    | updateMaps n l => by_cases h : n = name <;> simp [h, ih]
    | updateClassifierSet => exact ih
    | eraseClassifier => exact ih

def IndexOp.classifier : IndexOp → String
  | .updateMaps name _ => name
  | .updateClassifierSet name _ => name
  | .eraseClassifier name => name

theorem updateClusterMapEntries_sets (r : ClassifierReconciler) (entries : List PolicyRef)
    (f : SveltosSet → SveltosSet) :
    (r.updateClusterMapEntries entries f).classifierSet = r.classifierSet ∧
      (r.updateClusterMapEntries entries f).allClassifierSet = r.allClassifierSet := by
  induction entries generalizing r with
  | nil => exact ⟨rfl, rfl⟩
  | cons e es ih => exact ih (r.updateClusterMapEntry e f)

theorem updateMaps_sets (r : ClassifierReconciler) (name : String) (l : List ClusterInfo) :
    (updateMaps r name l).classifierSet = r.classifierSet ∧
      (updateMaps r name l).allClassifierSet = r.allClassifierSet := by
  obtain ⟨h1, h2⟩ := updateClusterMapEntries_sets r (l.map fun c => clusterRef c.cluster)
    (·.insert (classifierRef name))
  obtain ⟨h3, h4⟩ := updateClusterMapEntries_sets _ (toBeRemoved r (classifierRef name) (currentClusters l))
    (·.erase (classifierRef name))
  exact ⟨h3.trans h1, h4.trans h2⟩

theorem runIndex_updateMaps_sets (r : ClassifierReconciler) (ops : List IndexOp)
    (h : ∀ op ∈ ops, ∃ n l, op = .updateMaps n l) :
    (runIndex r ops).classifierSet = r.classifierSet ∧ (runIndex r ops).allClassifierSet = r.allClassifierSet := by
  induction ops generalizing r with
  | nil => exact ⟨rfl, rfl⟩
  | cons op ops ih =>
    obtain ⟨n, l, rfl⟩ := h op (.head _)
    obtain ⟨h1, h2⟩ := ih (updateMaps r n l) fun op h' => h op (.tail _ h')
    exact ⟨h1.trans (updateMaps_sets r n l).1, h2.trans (updateMaps_sets r n l).2⟩

theorem mem_updateClassifierSet (r : ClassifierReconciler) (name : String) (b : Bool) :
    (classifierRef name ∈ (updateClassifierSet r name b).classifierSet.items ↔ b = true) ∧
      classifierRef name ∈ (updateClassifierSet r name b).allClassifierSet.items := by
  cases b <;> simp [updateClassifierSet]

theorem apply_sets_other (r : ClassifierReconciler) (op : IndexOp) (n : String) (h : op.classifier ≠ n) :
    (classifierRef n ∈ (op.apply r).classifierSet.items ↔ classifierRef n ∈ r.classifierSet.items) ∧
      (classifierRef n ∈ (op.apply r).allClassifierSet.items ↔ classifierRef n ∈ r.allClassifierSet.items) := by
  have hne : classifierRef n ≠ classifierRef op.classifier := fun he => h (congrArg PolicyRef.name he).symm
  simp only [IndexOp.classifier] at hne
  cases op with
  | updateMaps name l =>
    rw [IndexOp.apply, (updateMaps_sets r name l).1, (updateMaps_sets r name l).2]
    exact ⟨Iff.rfl, Iff.rfl⟩
  | updateClassifierSet name b => cases b <;> simp [IndexOp.apply, updateClassifierSet, hne]
  | eraseClassifier name => simp [IndexOp.apply, eraseClassifier, hne]

theorem runIndex_sets_other (r : ClassifierReconciler) (ops : List IndexOp) (n : String)
    (h : ∀ op ∈ ops, op.classifier ≠ n) :
    (classifierRef n ∈ (runIndex r ops).classifierSet.items ↔ classifierRef n ∈ r.classifierSet.items) ∧
      (classifierRef n ∈ (runIndex r ops).allClassifierSet.items ↔ classifierRef n ∈ r.allClassifierSet.items) := by
  induction ops generalizing r with
  | nil => exact ⟨Iff.rfl, Iff.rfl⟩
  | cons op ops ih =>
    obtain ⟨h1, h2⟩ := ih (op.apply r) fun op' h' => h op' (.tail _ h')
    obtain ⟨h3, h4⟩ := apply_sets_other r op n (h op (.head _))
    exact ⟨h1.trans h3, h2.trans h4⟩

theorem updateMaps_index_mirror (mode : ReportMode) (endpoint : String) (ops : List IndexOp) :
    let r := runIndex (ClassifierReconciler.init mode endpoint) ops
    (∀ p c, p ∈ (r.getClusterMapForEntry c).items ↔ c ∈ r.clustersOf p) ∧
      ∀ name, r.classifierMap (classifierRef name) = (lastUpdate name ops).map currentClusters :=
  ⟨runIndex_mirror _ ops (mirror_init mode endpoint), fun name => by
    rw [runIndex_classifierMap]; cases lastUpdate name ops <;> rfl⟩

end Sveltos.Index
