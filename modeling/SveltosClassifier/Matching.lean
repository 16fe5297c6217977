import SveltosClassifier.KeyManager
import SveltosClassifier.Reads
import SveltosClassifier.Index

/-!
# Matching clusters and label registrations

A pass reads the classifier's reports, registers the classifier with the key
manager for the labels it wants on every matching cluster, releases the
clusters it matched before and no longer does, and rebuilds
`Status.MachingClusterStatuses`. The clusters it matched before are read from
that persisted status, not from the key manager.
-/

set_option autoImplicit false

namespace Sveltos.Matching
open Sveltos.Api Sveltos.KeyManager Sveltos.Reads Sveltos.Index

variable {σ : Type} (km : Instance σ)

def clusterKey (c : ObjectReference) : String × String := (c.namespace, c.name)

def reportCluster (report : ClassifierReport) : ObjectReference :=
  ⟨report.clusterNamespace, report.clusterName, "", ""⟩

def currentMatchingClusters (reports : List ClassifierReport) : List ObjectReference :=
  ((reports.filter (·.match)).map reportCluster).dedup

def oldMatchingClusters (classifier : Classifier) : List ObjectReference :=
  (classifier.status.machingClusterStatuses.map (·.clusterRef)).dedup

def registerCluster (s : σ) (classifier : Classifier) (c : ObjectReference) : σ :=
  km.registerClassifierForLabels (km.removeStaleRegistrations s classifier c.namespace c.name)
    classifier c.namespace c.name

def releaseCluster (current : List ObjectReference) (s : σ) (classifier : Classifier)
    (c : ObjectReference) : σ :=
  if c ∈ current then s else km.removeAllRegistrations s classifier c.namespace c.name

/-- `handleLabelRegistrations`; the list `matchingClusterRefs` it fills is never
read, and is left out. -/
def handleLabelRegistrations (s : σ) (ready : Option GoError) (classifier : Classifier)
    (current old : List ObjectReference) (currentOrder oldOrder : MapOrder ObjectReference) :
    σ × Option GoError :=
  match ready with
  | some e => (s, some e)
  | none =>
    let s := (currentOrder.visit current).foldl (fun s c => registerCluster km s classifier c) s
    ((oldOrder.visit old).foldl (fun s c => releaseCluster km current s classifier c) s, none)

def managedLabels (s : σ) (classifier : Classifier) (cluster : ObjectReference) : List String :=
  (classifier.spec.classifierLabels.filter fun l =>
    km.canManageLabel s classifier cluster.namespace cluster.name l.key).map (·.key)

def unManagedLabels (s : σ) (classifier : Classifier) (cluster : ObjectReference) :
    List UnManagedLabel :=
  (classifier.spec.classifierLabels.filter fun l =>
    !km.canManageLabel s classifier cluster.namespace cluster.name l.key).map fun l =>
      ⟨l.key, match km.getManagerForKey s cluster.namespace cluster.name l.key with
        | .ok m => some ("classifier " ++ m ++ " currently manage this")
        | .error _ => none⟩

/-- `classifyLabels` -/
def classifyLabels (s : σ) (ready : Option GoError) (classifier : Classifier)
    (cluster : ObjectReference) : Except GoError (List String × List UnManagedLabel) :=
  match ready with
  | some e => .error e
  | none => .ok (managedLabels km s classifier cluster, unManagedLabels km s classifier cluster)

def machingStatus (s : σ) (classifier : Classifier) (c : ObjectReference) : MachingClusterStatus :=
  ⟨c, managedLabels km s classifier c, unManagedLabels km s classifier c⟩

/-- The loop that fills `matchingClusterStatus` and counts unmanaged labels. The
source never advances `i`, so every cluster is written to slot `i`. -/
def fillMatchingClusterStatus (s : σ) (ready : Option GoError) (classifier : Classifier) (i : Nat) :
    List MachingClusterStatus → Nat → List ObjectReference →
      Except GoError (List MachingClusterStatus × Nat)
  | slots, unManaged, [] => .ok (slots, unManaged)
  | slots, unManaged, c :: cs =>
    match classifyLabels km s ready classifier c with
    | .error e => .error e
    | .ok (managed, unmanaged) =>
      fillMatchingClusterStatus s ready classifier i (slots.set i ⟨c, managed, unmanaged⟩)
        (unManaged + unmanaged.length) cs

/-- `updateMatchingClustersAndRegistrations`: the key manager after it, the
writes to the reconciler's memory, the classifier as the scope holds it, and
the error it returns. -/
def updateMatchingClustersAndRegistrations (fleet : Fleet) (s : σ) (classifier : Classifier) :
    σ × List IndexOp × Classifier × Option GoError :=
  match fleet.listClassifierReports with
  | .error e => (s, [], classifier, some e)
  | .ok reports =>
    let current := currentMatchingClusters reports
    match handleLabelRegistrations km s fleet.keyManagerInstance classifier current
        (oldMatchingClusters classifier) fleet.currentOrder fleet.oldOrder with
    | (s, some e) => (s, [], classifier, some e)
    | (s, none) =>
      match fillMatchingClusterStatus km s fleet.keyManagerInstance classifier 0
          (List.replicate current.length default) 0 (fleet.statusOrder.visit current) with
      | .error e => (s, [], classifier, some e)
      | .ok (statuses, unManaged) =>
        (s, [.updateClassifierSet classifier.name (unManaged != 0)],
          classifier.setMachingClusterStatuses statuses, none)

/-- `updateLabelsOnCluster`: the labels the classifier may manage are set on
the cluster, which is then updated; the cluster as written, or the error. -/
def updateLabelsOnCluster (fleet : Fleet) (s : σ) (classifier : Classifier) (cluster : Cluster) :
    Except GoError Cluster :=
  match fleet.keyManagerInstance with
  | some e => .error e
  | none =>
    let labels := classifier.spec.classifierLabels.foldl (fun labels l =>
      if km.canManageLabel s classifier cluster.namespace cluster.name l.key
      then setLabel labels l.key l.value else labels) cluster.labels
    let cluster := { cluster with labels := labels }
    match fleet.updateCluster cluster with
    | some e => .error e
    | none => .ok cluster

/-- `updateLabelsOnMatchingClusters`: the clusters it wrote, in order, and the
error it returns. -/
def updateLabelsOnMatchingClusters (fleet : Fleet) (s : σ) (classifier : Classifier) :
    List MachingClusterStatus → List Cluster × Option GoError
  | [] => ([], none)
  | m :: ms =>
    match fleet.getCapiCluster m.clusterRef.namespace m.clusterRef.name with
    | .error e => ([], some e)
    | .ok cluster =>
      match updateLabelsOnCluster km fleet s classifier cluster with
      | .error e => ([], some e)
      | .ok cluster =>
        let (rest, err) := updateLabelsOnMatchingClusters fleet s classifier ms
        (cluster :: rest, err)

/-- `removeAllRegistrations`: every cluster the persisted status lists is
released. -/
def removeAllRegistrations (fleet : Fleet) (s : σ) (classifier : Classifier) : σ × Option GoError :=
  match fleet.keyManagerInstance with
  | some e => (s, some e)
  | none =>
    (classifier.status.machingClusterStatuses.foldl (fun s m =>
      km.removeAllRegistrations s classifier m.clusterRef.namespace m.clusterRef.name) s, none)

section Registrations

variable (s : σ) (classifier : Classifier) (p : String) (cl : String × String)

theorem registered_registerCluster (c : ObjectReference) :
    km.registered (registerCluster km s classifier c) p cl = true ↔
      km.registered s p cl = true ∨ (p = classifier.name ∧ cl = clusterKey c) := by
  simp [registerCluster, km.registered_register, km.registered_removeStale, clusterKey]

theorem registered_foldl_registerCluster (cs : List ObjectReference) :
    km.registered (cs.foldl (fun s c => registerCluster km s classifier c) s) p cl = true ↔
      km.registered s p cl = true ∨ (p = classifier.name ∧ cl ∈ cs.map clusterKey) := by
  induction cs generalizing s with
  | nil => simp
  | cons c cs ih =>
    rw [List.foldl_cons, ih, registered_registerCluster]
    simp only [List.map_cons, List.mem_cons]
    tauto

theorem registered_releaseCluster (current : List ObjectReference) (c : ObjectReference) :
    km.registered (releaseCluster km current s classifier c) p cl = true ↔
      km.registered s p cl = true ∧ ¬(p = classifier.name ∧ c ∉ current ∧ cl = clusterKey c) := by
  unfold releaseCluster
  by_cases hc : c ∈ current
  · simp [hc]
  · simp [hc, km.registered_removeAll, clusterKey]

theorem registered_foldl_releaseCluster (current os : List ObjectReference) :
    km.registered (os.foldl (fun s c => releaseCluster km current s classifier c) s) p cl = true ↔
      km.registered s p cl = true ∧
        ¬(p = classifier.name ∧ ∃ o ∈ os, o ∉ current ∧ clusterKey o = cl) := by
  induction os generalizing s with
  | nil => simp
  | cons c cs ih =>
    rw [List.foldl_cons, ih, registered_releaseCluster]
    simp only [List.mem_cons, exists_eq_or_imp]
    constructor
    · rintro ⟨⟨h1, h2⟩, h3⟩; exact ⟨h1, fun ⟨hp, h⟩ => h.elim (fun h => h2 ⟨hp, h.1, h.2.symm⟩) (fun h => h3 ⟨hp, h⟩)⟩
    · rintro ⟨h1, h2⟩; exact ⟨⟨h1, fun ⟨hp, hc, he⟩ => h2 ⟨hp, .inl ⟨hc, he.symm⟩⟩⟩, fun ⟨hp, h⟩ => h2 ⟨hp, .inr h⟩⟩

theorem handleLabelRegistrations_registered (current old : List ObjectReference)
    (o1 o2 : MapOrder ObjectReference) :
    km.registered (handleLabelRegistrations km s none classifier current old o1 o2).1 p cl = true ↔
      (km.registered s p cl = true ∨ (p = classifier.name ∧ cl ∈ current.map clusterKey)) ∧
        ¬(p = classifier.name ∧ ∃ o ∈ old, o ∉ current ∧ clusterKey o = cl) := by
  simp only [handleLabelRegistrations, registered_foldl_releaseCluster, registered_foldl_registerCluster,
    List.mem_map, (o1.perm current).mem_iff, (o2.perm old).mem_iff]

theorem handleLabelRegistrations_error (ready : Option GoError) (current old : List ObjectReference)
    (o1 o2 : MapOrder ObjectReference) (s' : σ)
    (h : handleLabelRegistrations km s ready classifier current old o1 o2 = (s', none)) :
    ready = none ∧ s' = (handleLabelRegistrations km s none classifier current old o1 o2).1 := by
  cases ready with
  | none => exact ⟨rfl, by rw [h]⟩
  | some e => simp [handleLabelRegistrations] at h

theorem mem_currentMatchingClusters (reports : List ClassifierReport) (c : ObjectReference) :
    c ∈ currentMatchingClusters reports ↔ ∃ r ∈ reports, r.match = true ∧ reportCluster r = c := by
  simp [currentMatchingClusters, and_assoc]

theorem updateMatching_registered (fleet : Fleet)
    (h : (updateMatchingClustersAndRegistrations km fleet s classifier).2.2.2 = none) :
    ∃ reports, fleet.listClassifierReports = .ok reports ∧
      (km.registered (updateMatchingClustersAndRegistrations km fleet s classifier).1 p cl = true ↔
        (km.registered s p cl = true ∨
          (p = classifier.name ∧ cl ∈ (currentMatchingClusters reports).map clusterKey)) ∧
        ¬(p = classifier.name ∧ ∃ o ∈ oldMatchingClusters classifier,
          o ∉ currentMatchingClusters reports ∧ clusterKey o = cl)) := by
  rcases hr : fleet.listClassifierReports with e | reports
  · simp [updateMatchingClustersAndRegistrations, hr] at h
  refine ⟨reports, rfl, ?_⟩
  rcases hh : handleLabelRegistrations km s fleet.keyManagerInstance classifier
    (currentMatchingClusters reports) (oldMatchingClusters classifier) fleet.currentOrder
    fleet.oldOrder with ⟨s', _ | e⟩
  · obtain ⟨hk, rfl⟩ := handleLabelRegistrations_error km s classifier _ _ _ _ _ s' hh
    rcases hf : fillMatchingClusterStatus km (handleLabelRegistrations km s none classifier
      (currentMatchingClusters reports) (oldMatchingClusters classifier) fleet.currentOrder
      fleet.oldOrder).1 fleet.keyManagerInstance classifier 0
      (List.replicate (currentMatchingClusters reports).length default) 0
      (fleet.statusOrder.visit (currentMatchingClusters reports)) with e | ⟨statuses, u⟩
    · simp [updateMatchingClustersAndRegistrations, hr, hh, hf] at h
    · simp only [updateMatchingClustersAndRegistrations, hr, hh, hf]
      exact handleLabelRegistrations_registered km s classifier p cl _ _ _ _
  · simp [updateMatchingClustersAndRegistrations, hr, hh] at h

theorem registered_removeAllRegistrations (fleet : Fleet) (h : fleet.keyManagerInstance = none) :
    km.registered (removeAllRegistrations km fleet s classifier).1 p cl = true ↔
      km.registered s p cl = true ∧
        ¬(p = classifier.name ∧ cl ∈ classifier.status.machingClusterStatuses.map (clusterKey ·.clusterRef)) := by
  simp only [removeAllRegistrations, h]
  induction classifier.status.machingClusterStatuses generalizing s with
  | nil => simp
  | cons m ms ih =>
    rw [List.foldl_cons, ih, km.registered_removeAll]
    simp only [List.map_cons, List.mem_cons, clusterKey]
    tauto

end Registrations


section Statuses

variable (s : σ) (classifier : Classifier)

theorem fillMatchingClusterStatus_slots (i : Nat) (slots : List MachingClusterStatus) (u : Nat)
    (cs : List ObjectReference) :
    ∃ n, fillMatchingClusterStatus km s none classifier i slots u cs =
      .ok (match cs.getLast? with
        | none => slots
        | some c => slots.set i (machingStatus km s classifier c), n) := by
  induction cs generalizing slots u with
  | nil => exact ⟨u, rfl⟩
  | cons c cs ih =>
    obtain ⟨n, hn⟩ := ih (slots.set i (machingStatus km s classifier c)) _
    refine ⟨n, ?_⟩
    simp only [fillMatchingClusterStatus, classifyLabels]
    rw [show (⟨c, managedLabels km s classifier c, unManagedLabels km s classifier c⟩ :
      MachingClusterStatus) = machingStatus km s classifier c from rfl, hn]
    cases cs with
    | nil => rfl
    | cons c' cs =>
      rcases hl : (c' :: cs).getLast? with _ | x
      · simp at hl
      · simp [List.getLast?_cons_cons, hl, List.set_set]

theorem fillMatchingClusterStatus_mem (i : Nat) (slots : List MachingClusterStatus) (u : Nat)
    (cs : List ObjectReference) (out : List MachingClusterStatus) (n : Nat)
    (h : fillMatchingClusterStatus km s none classifier i slots u cs = .ok (out, n))
    (hslots : ∀ m ∈ slots, m = default ∨ m = machingStatus km s classifier m.clusterRef) :
    ∀ m ∈ out, m = default ∨ m = machingStatus km s classifier m.clusterRef := by
  obtain ⟨n', hn⟩ := fillMatchingClusterStatus_slots km s classifier i slots u cs
  rw [hn, Except.ok.injEq, Prod.mk.injEq] at h
  rw [← h.1]
  split
  · exact hslots
  · intro m hm
    rcases List.mem_or_eq_of_mem_set hm with hm | rfl
    · exact hslots m hm
    · exact .inr rfl

theorem updateMatching_spec (fleet : Fleet) :
    let out := updateMatchingClustersAndRegistrations km fleet s classifier
    (out.2.2.2 ≠ none ∧ out.1 = s ∧ out.2.1 = [] ∧ out.2.2.1 = classifier) ∨
      (out.2.2.2 = none ∧ ∃ reports, fleet.listClassifierReports = .ok reports ∧
        out.1 = (handleLabelRegistrations km s none classifier (currentMatchingClusters reports)
          (oldMatchingClusters classifier) fleet.currentOrder fleet.oldOrder).1 ∧
        (∃ b, out.2.1 = [.updateClassifierSet classifier.name b]) ∧
        ∃ statuses, out.2.2.1 = classifier.setMachingClusterStatuses statuses ∧
          ∀ m ∈ statuses, m = default ∨ m = machingStatus km out.1 classifier m.clusterRef) := by
  intro out
  rcases hr : fleet.listClassifierReports with e | reports
  · exact .inl (by simp [out, updateMatchingClustersAndRegistrations, hr])
  rcases hk : fleet.keyManagerInstance with _ | e
  · set s' := (handleLabelRegistrations km s none classifier (currentMatchingClusters reports)
      (oldMatchingClusters classifier) fleet.currentOrder fleet.oldOrder).1
    obtain ⟨n, hn⟩ := fillMatchingClusterStatus_slots km s' classifier 0
      (List.replicate (currentMatchingClusters reports).length default) 0
      (fleet.statusOrder.visit (currentMatchingClusters reports))
    have hm := fillMatchingClusterStatus_mem km s' classifier 0 _ 0 _ _ n hn
      (fun m hm => .inl (List.eq_of_mem_replicate hm))
    have hh : handleLabelRegistrations km s none classifier (currentMatchingClusters reports)
        (oldMatchingClusters classifier) fleet.currentOrder fleet.oldOrder = (s', none) := rfl
    simp only [out, updateMatchingClustersAndRegistrations, hr, hk, hh, hn]
    exact .inr ⟨trivial, reports, rfl, rfl, ⟨_, rfl⟩, _, rfl, hm⟩
  · exact .inl (by simp [out, updateMatchingClustersAndRegistrations, hr, hk, handleLabelRegistrations])

theorem fillMatchingClusterStatus_count (i : Nat) (slots : List MachingClusterStatus) (u : Nat)
    (cs : List ObjectReference) :
    ∃ statuses n, fillMatchingClusterStatus km s none classifier i slots u cs = .ok (statuses, n) ∧
      (n = 0 ↔ u = 0 ∧ ∀ c ∈ cs, unManagedLabels km s classifier c = []) := by
  induction cs generalizing slots u with
  | nil => exact ⟨slots, u, rfl, by simp⟩
  | cons c cs ih =>
    obtain ⟨st, n, h, hn⟩ := ih (slots.set i (machingStatus km s classifier c))
      (u + (unManagedLabels km s classifier c).length)
    refine ⟨st, n, ?_, ?_⟩
    · simp only [fillMatchingClusterStatus, classifyLabels]
      rw [show (⟨c, managedLabels km s classifier c, unManagedLabels km s classifier c⟩ :
        MachingClusterStatus) = machingStatus km s classifier c from rfl, h]
    · rw [hn, Nat.add_eq_zero_iff, List.length_eq_zero, List.forall_mem_cons, and_assoc]

theorem unManagedLabels_ne_nil (c : ObjectReference) :
    unManagedLabels km s classifier c ≠ [] ↔
      ∃ l ∈ classifier.spec.classifierLabels, km.canManageLabel s classifier c.namespace c.name l.key = false := by
  simp [unManagedLabels, List.filter_eq_nil_iff]

theorem updateMatching_classifierSet (fleet : Fleet) (reports : List ClassifierReport)
    (hr : fleet.listClassifierReports = .ok reports)
    (hok : (updateMatchingClustersAndRegistrations km fleet s classifier).2.2.2 = none) :
    ∃ b, (updateMatchingClustersAndRegistrations km fleet s classifier).2.1 =
        [.updateClassifierSet classifier.name b] ∧
      (b = true ↔ ∃ c ∈ currentMatchingClusters reports, ∃ l ∈ classifier.spec.classifierLabels,
        km.canManageLabel (updateMatchingClustersAndRegistrations km fleet s classifier).1 classifier
          c.namespace c.name l.key = false) := by
  rcases hk : fleet.keyManagerInstance with _ | e
  · set s' := (handleLabelRegistrations km s none classifier (currentMatchingClusters reports)
      (oldMatchingClusters classifier) fleet.currentOrder fleet.oldOrder).1
    obtain ⟨st, n, hf, hn⟩ := fillMatchingClusterStatus_count km s' classifier 0
      (List.replicate (currentMatchingClusters reports).length default) 0
      (fleet.statusOrder.visit (currentMatchingClusters reports))
    have hh : handleLabelRegistrations km s none classifier (currentMatchingClusters reports)
        (oldMatchingClusters classifier) fleet.currentOrder fleet.oldOrder = (s', none) := rfl
    simp only [updateMatchingClustersAndRegistrations, hr, hk, hh, hf]
    refine ⟨_, rfl, ?_⟩
    rw [bne_iff_ne, ne_eq, hn]
    simp only [true_and, not_forall, ← ne_eq, unManagedLabels_ne_nil, (fleet.statusOrder.perm _).mem_iff,
      exists_prop]
  · simp [updateMatchingClustersAndRegistrations, hr, hk, handleLabelRegistrations] at hok

theorem getLast?_of_perm_pair {α : Type} (l : List α) (a b : α) (h : l.Perm [a, b]) :
    ∃ c, (c = a ∨ c = b) ∧ l.getLast? = some c := by
  match l, h.length_eq with
  | [x, y], _ => exact ⟨y, by simpa using h.mem_iff.mp (by simp), rfl⟩

/-- Two matching clusters, in whichever order Go visits them, leave the status
with one of them and a zero entry in place of the other, and no error. -/
theorem updateMatching_two_matches (o1 o2 o3 : MapOrder ObjectReference) :
    let a : ObjectReference := ⟨"default", "a", "", ""⟩
    let b : ObjectReference := ⟨"default", "b", "", ""⟩
    let fleet : Fleet := { Fleet.quiet with
      listClassifierReports := .ok [⟨"default", "a", true⟩, ⟨"default", "b", true⟩],
      currentOrder := o1, oldOrder := o2, statusOrder := o3 }
    let out := updateMatchingClustersAndRegistrations km fleet s classifier
    out.2.2.2 = none ∧ ∃ c, (c = a ∨ c = b) ∧
      out.2.2.1.status.machingClusterStatuses.map (·.clusterRef) = [c, default] := by
  intro a b fleet out
  have hc : currentMatchingClusters [⟨"default", "a", true⟩, ⟨"default", "b", true⟩] = [a, b] := by
    decide
  obtain ⟨c, hc', hl⟩ := getLast?_of_perm_pair (o3.visit [a, b]) a b (o3.perm [a, b])
  obtain ⟨n, hn⟩ := fillMatchingClusterStatus_slots km
    (handleLabelRegistrations km s none classifier [a, b] (oldMatchingClusters classifier) o1 o2).1
    classifier 0 [default, default] 0 (o3.visit [a, b])
  refine ⟨?_, c, hc', ?_⟩ <;>
  simp only [out, updateMatchingClustersAndRegistrations, fleet, Fleet.quiet, hc,
    handleLabelRegistrations, List.length_cons, List.length_nil] at hn ⊢ <;>
  simp [hn, hl, machingStatus]
  rfl

end Statuses

section Ownership

variable (s : σ) (classifier : Classifier) (cl : String × String) (k q : String)

theorem owner_registerCluster (c : ObjectReference) (h : km.owner s cl k = some q)
    (hq : q ≠ classifier.name) : km.owner (registerCluster km s classifier c) cl k = some q :=
  km.owner_register _ _ _ _ _ _ _ (km.owner_removeStale _ _ _ _ _ _ _ h hq) hq

theorem owner_releaseCluster (current : List ObjectReference) (c : ObjectReference)
    (h : km.owner s cl k = some q) (hq : q ≠ classifier.name) :
    km.owner (releaseCluster km current s classifier c) cl k = some q := by
  unfold releaseCluster
  split
  · exact h
  · exact km.owner_removeAll _ _ _ _ _ _ _ h hq

theorem owner_handleLabelRegistrations (ready : Option GoError) (current old : List ObjectReference)
    (o1 o2 : MapOrder ObjectReference) (h : km.owner s cl k = some q) (hq : q ≠ classifier.name) :
    km.owner (handleLabelRegistrations km s ready classifier current old o1 o2).1 cl k = some q := by
  unfold handleLabelRegistrations
  split
  · exact h
  · exact List.foldlRecOn (motive := fun s => km.owner s cl k = some q) _ _ _
      (List.foldlRecOn (motive := fun s => km.owner s cl k = some q) _ _ _ h
        fun s hs c _ => owner_registerCluster km s classifier cl k q c hs hq)
      fun s hs c _ => owner_releaseCluster km s classifier cl k q current c hs hq

theorem owner_updateMatching (fleet : Fleet) (h : km.owner s cl k = some q) (hq : q ≠ classifier.name) :
    km.owner (updateMatchingClustersAndRegistrations km fleet s classifier).1 cl k = some q := by
  rcases updateMatching_spec km s classifier fleet with ⟨-, hs, -⟩ | ⟨-, reports, -, hs, -⟩ <;> rw [hs]
  · exact h
  · exact owner_handleLabelRegistrations km s classifier cl k q _ _ _ _ _ h hq

theorem owner_removeAllRegistrations (fleet : Fleet) (h : km.owner s cl k = some q)
    (hq : q ≠ classifier.name) :
    km.owner (removeAllRegistrations km fleet s classifier).1 cl k = some q := by
  unfold removeAllRegistrations
  split
  · exact h
  · exact List.foldlRecOn (motive := fun s => km.owner s cl k = some q) _ _ _ h
      fun s hs m _ => km.owner_removeAll _ _ _ _ _ _ _ hs hq

end Ownership

section Labels

theorem lookup_foldl_setLabel (can : String → Bool) (ls : List ClassifierLabel) (labels : List (String × String))
    (k : String) :
    (ls.foldl (fun labels l => if can l.key then setLabel labels l.key l.value else labels) labels).lookup k =
      if can k then ((ls.reverse.find? (·.key = k)).map (·.value)).or (labels.lookup k) else labels.lookup k := by
  induction ls generalizing labels with
  | nil => split <;> rfl
  | cons l ls ih =>
    rw [List.foldl_cons, ih, List.reverse_cons, List.find?_append]
    by_cases hl : l.key = k
    · subst hl
      by_cases hc : can l.key
      · simp [hc, lookup_setLabel_self]
        cases List.find? (fun x => decide (x.key = l.key)) ls.reverse <;> rfl
      · simp [hc]
    · by_cases hc : can l.key <;> simp [hc, hl, lookup_setLabel _ _ (Ne.symm hl)]

variable (s : σ) (classifier : Classifier) (fleet : Fleet)

theorem updateLabelsOnCluster_ok (cluster c' : Cluster)
    (h : updateLabelsOnCluster km fleet s classifier cluster = .ok c') :
    c' = { cluster with labels := c'.labels } ∧ ∀ k, c'.labels.lookup k =
      if km.canManageLabel s classifier cluster.namespace cluster.name k then
        ((classifier.spec.classifierLabels.reverse.find? (·.key = k)).map (·.value)).or (cluster.labels.lookup k)
      else cluster.labels.lookup k := by
  unfold updateLabelsOnCluster at h
  split at h
  · cases h
  dsimp only at h
  split at h
  · cases h
  cases h
  exact ⟨rfl, lookup_foldl_setLabel _ _ _⟩

theorem mem_updateLabelsOnMatchingClusters (ms : List MachingClusterStatus) (c' : Cluster)
    (h : c' ∈ (updateLabelsOnMatchingClusters km fleet s classifier ms).1) :
    ∃ m ∈ ms, ∃ cluster, fleet.getCapiCluster m.clusterRef.namespace m.clusterRef.name = .ok cluster ∧
      updateLabelsOnCluster km fleet s classifier cluster = .ok c' := by
  induction ms with
  | nil => exact absurd h (List.not_mem_nil _)
  | cons m ms ih =>
    simp only [updateLabelsOnMatchingClusters] at h
    rcases hg : fleet.getCapiCluster m.clusterRef.namespace m.clusterRef.name with e | cluster <;>
      simp only [hg] at h
    · exact absurd h (List.not_mem_nil _)
    rcases hu : updateLabelsOnCluster km fleet s classifier cluster with e | c'' <;> simp only [hu] at h
    · exact absurd h (List.not_mem_nil _)
    rcases hr : updateLabelsOnMatchingClusters km fleet s classifier ms with ⟨rest, err⟩
    rw [hr] at ih
    simp only [hr, List.mem_cons] at h
    rcases h with rfl | h
    · exact ⟨m, .head _, cluster, hg, hu⟩
    · obtain ⟨m', hm', hrest⟩ := ih h
      exact ⟨m', .tail _ hm', hrest⟩

end Labels

end Sveltos.Matching
