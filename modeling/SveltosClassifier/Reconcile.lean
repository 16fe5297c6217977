import SveltosClassifier.Deploy
import SveltosClassifier.Matching

/-!
# One call of `Reconcile`

A pass reads the classifier, runs `reconcileNormal` or `reconcileDelete` on
it, and `Close` patches what the scope holds when the pass returns. A pass
that fails part way keeps the writes it made before failing: the key
manager's registrations, the deployer's queue, the cluster labels and the
reconciler's memory are not rolled back, and the patch still runs.

The status a pass builds holds one real entry, in its first slot, and zero
entries after it. On an API server that refuses to read a cluster with an
empty name, a pass of a classifier that two or more clusters match therefore
always fails at the labels, before it records clusters or deploys; and a pass
that returns nil has labelled every matching cluster, of which there is at
most one. The conflict set, in contrast, counts every matching cluster: a pass
puts the classifier in `ClassifierSet` exactly when one of them has a label
key of it that another classifier manages.
-/

set_option autoImplicit false

namespace Sveltos.Reconcile
open Sveltos.Api Sveltos.KeyManager Sveltos.Reads Sveltos.Async Sveltos.Index Sveltos.Process
  Sveltos.Matching Sveltos.Deploy

structure ReconcileResult where
  requeue : Bool
  requeueAfter : Nat
  deriving DecidableEq, Repr

def deleteRequeueAfter : Nat := 20

def normalRequeueAfter : Nat := 20

def done : ReconcileResult := ⟨false, 0⟩

structure Pass (σ : Type) where
  keys : σ
  ops : List IndexOp
  deployer : Deployer
  labelled : List Cluster
  written : Classifier
  classifier : Classifier
  result : ReconcileResult
  err : Option GoError

/-- `addFinalizer`: the classifier with the finalizer, and the error of the
patch that writes it. -/
def addFinalizer (fleet : Fleet) (classifier : Classifier) : Classifier × Option GoError :=
  let classifier := { classifier with finalizers := classifier.finalizers ++ [ClassifierFinalizer] }
  match fleet.patchFinalizer with
  | some e => (classifier, some (.message ("Failed to add finalizer for " ++ classifier.name ++ ": " ++ e.text)))
  | none => (classifier, none)

def withFinalizer (fleet : Fleet) (classifier : Classifier) : Classifier × Option GoError :=
  if ClassifierFinalizer ∈ classifier.finalizers then (classifier, none)
  else addFinalizer fleet classifier

/-- `getListOfClusters`: every cluster not being deleted, by namespace and name. -/
def getListOfClusters (fleet : Fleet) : Except GoError (List ObjectReference) :=
  match fleet.listClusters with
  | .error e => .error e
  | .ok clusters => .ok ((clusters.filter (!·.deleting)).map fun c => ⟨c.namespace, c.name, "", ""⟩)

def getClusterID (cluster : ObjectReference) : String := cluster.namespace ++ "/" ++ cluster.name

def newClusterInfo (clusterInfo : List ClusterInfo) (matching : List ObjectReference) :
    List ClusterInfo :=
  (matching.filter fun c => getClusterID c ∉ clusterInfo.map (getClusterID ·.cluster)).map
    fun c => ⟨c, [], .unset, none⟩

/-- `updateClusterInfo` -/
def updateClusterInfo (fleet : Fleet) (classifier : Classifier) : Classifier × Option GoError :=
  match getListOfClusters fleet with
  | .error e => (classifier, some e)
  | .ok matching =>
    (classifier.setClusterInfo
      (classifier.status.clusterInfo ++ newClusterInfo classifier.status.clusterInfo matching), none)

theorem withFinalizer_fst (fleet : Fleet) (classifier : Classifier) :
    ∃ fs, (withFinalizer fleet classifier).1 = { classifier with finalizers := fs } := by
  unfold withFinalizer addFinalizer
  split
  · exact ⟨_, rfl⟩
  · split <;> exact ⟨_, rfl⟩

@[simp] theorem withFinalizer_frame (fleet : Fleet) (classifier : Classifier) :
    (withFinalizer fleet classifier).1.frame = classifier.frame := by
  obtain ⟨fs, h⟩ := withFinalizer_fst fleet classifier
  simp [h]

@[simp] theorem withFinalizer_status (fleet : Fleet) (classifier : Classifier) :
    (withFinalizer fleet classifier).1.status = classifier.status := by
  obtain ⟨fs, h⟩ := withFinalizer_fst fleet classifier
  simp [h]

theorem withFinalizer_mem (fleet : Fleet) (classifier : Classifier) :
    ClassifierFinalizer ∈ (withFinalizer fleet classifier).1.finalizers := by
  unfold withFinalizer addFinalizer
  split
  · assumption
  · split <;> simp

theorem updateClusterInfo_of_err (fleet : Fleet) (classifier c : Classifier) (e : GoError)
    (h : updateClusterInfo fleet classifier = (c, some e)) : c = classifier := by
  unfold updateClusterInfo at h
  split at h <;> simp_all

theorem updateClusterInfo_fst (fleet : Fleet) (classifier : Classifier) :
    (updateClusterInfo fleet classifier).1 =
      classifier.setClusterInfo (updateClusterInfo fleet classifier).1.status.clusterInfo := by
  unfold updateClusterInfo
  split <;> rfl

theorem mem_updateClusterInfo (fleet : Fleet) (classifier : Classifier) (e : ClusterInfo)
    (he : e ∈ classifier.status.clusterInfo) :
    e ∈ (updateClusterInfo fleet classifier).1.status.clusterInfo := by
  unfold updateClusterInfo
  split
  · exact he
  · exact List.mem_append_left _ he

theorem updateClusterInfo_entries (fleet : Fleet) (classifier : Classifier) (e : ClusterInfo)
    (he : e ∈ (updateClusterInfo fleet classifier).1.status.clusterInfo) :
    e ∈ classifier.status.clusterInfo ∨ e.hash = [] := by
  unfold updateClusterInfo at he
  split at he
  · exact .inl he
  · rcases List.mem_append.1 he with he | he
    · exact .inl he
    · obtain ⟨c, -, rfl⟩ := List.mem_map.1 he
      exact .inr rfl

def PassCall (r : ClassifierReconciler) : Bool → Request → Prop
  | false => DeployCall r
  | true => UndeployCall

theorem PassCall.directed {r : ClassifierReconciler} {b : Bool} {req : Request} (h : PassCall r b req) :
    Directed b req := by
  cases b
  · exact DeployCall.directed h
  · exact UndeployCall.directed h

section Passes

variable (ext : Externals) {σ : Type} (km : Instance σ) (r : ClassifierReconciler) (fleet : Fleet)

/-- `reconcileNormal` -/
def reconcileNormal (s : σ) (d : Deployer) (classifier : Classifier) : Pass σ :=
  match withFinalizer fleet classifier with
  | (finalized, some e) => ⟨s, [], d, [], classifier, finalized, done, some e⟩
  | (classifier, none) =>
  let written := classifier
  match updateMatchingClustersAndRegistrations km fleet s classifier with
  | (s, ops, classifier, some e) => ⟨s, ops, d, [], written, classifier, done, some e⟩
  | (s, ops, classifier, none) =>
  match updateLabelsOnMatchingClusters km fleet s classifier classifier.status.machingClusterStatuses with
  | (labelled, some e) => ⟨s, ops, d, labelled, written, classifier, done, some e⟩
  | (labelled, none) =>
  match updateClusterInfo fleet classifier with
  | (classifier, some e) => ⟨s, ops, d, labelled, written, classifier, done, some e⟩
  | (classifier, none) =>
  let ops := ops ++ [.updateMaps classifier.name classifier.status.clusterInfo]
  match deployClassifier ext r fleet classifier (classifierFeature ext) d with
  | (classifier, d, some _) =>
    ⟨s, ops, d, labelled, written, classifier, ⟨true, normalRequeueAfter⟩, none⟩
  | (classifier, d, none) => ⟨s, ops, d, labelled, written, classifier, done, none⟩

/-- `reconcileDelete` -/
def reconcileDelete (s : σ) (d : Deployer) (classifier : Classifier) : Pass σ :=
  let written := classifier
  match removeAllRegistrations km fleet s classifier with
  | (s, some e) => ⟨s, [], d, [], written, classifier, done, some e⟩
  | (s, none) =>
  let ops := [.eraseClassifier classifier.name]
  let requeue : ReconcileResult := ⟨true, deleteRequeueAfter⟩
  match undeployClassifier ext fleet classifier (classifierFeature ext) d with
  | (classifier, d, some _) => ⟨s, ops, d, [], written, classifier, requeue, none⟩
  | (classifier, d, none) =>
  match fleet.removeClassifierReports with
  | some _ => ⟨s, ops, d, [], written, classifier, requeue, none⟩
  | none =>
  match (if r.classifierReportMode = .collectFromManagementCluster then fleet.removeAccessRequest
    else none) with
  | some _ => ⟨s, ops, d, [], written, classifier, requeue, none⟩
  | none =>
    ⟨s, ops, d, [], written,
      { classifier with finalizers := classifier.finalizers.filter (· ≠ ClassifierFinalizer) },
      done, none⟩

theorem reconcileNormal_cases (s : σ) (d : Deployer) (classifier : Classifier) :
    let p := reconcileNormal ext km r fleet s d classifier
    ((withFinalizer fleet classifier).2 ≠ none ∧ p.keys = s ∧ p.ops = [] ∧ p.deployer = d ∧
        p.written = classifier ∧ p.classifier = (withFinalizer fleet classifier).1 ∧ p.err ≠ none) ∨
      ∃ c1, withFinalizer fleet classifier = (c1, none) ∧ p.written = c1 ∧
        let m := updateMatchingClustersAndRegistrations km fleet s c1
        p.keys = m.1 ∧
        ((p.ops = m.2.1 ∧ p.deployer = d ∧ p.classifier = m.2.2.1 ∧ p.err ≠ none) ∨
          (m.2.2.2 = none ∧ (updateClusterInfo fleet m.2.2.1).2 = none ∧
            let c3 := (updateClusterInfo fleet m.2.2.1).1
            let out := deployClassifier ext r fleet c3 (classifierFeature ext) d
            p.ops = m.2.1 ++ [.updateMaps c3.name c3.status.clusterInfo] ∧ p.deployer = out.2.1 ∧
              p.classifier = out.1 ∧
              p.result = (if out.2.2 = none then done else ⟨true, normalRequeueAfter⟩) ∧
              p.err = none)) := by
  intro p
  rcases hf : withFinalizer fleet classifier with ⟨c1, _ | e⟩
  swap
  · left
    simp [p, reconcileNormal, hf]
  right
  refine ⟨c1, rfl, ?_⟩
  rcases hm : updateMatchingClustersAndRegistrations km fleet s c1 with ⟨s2, ops, c2, _ | e⟩
  swap
  · simp [p, reconcileNormal, hf, hm]
  rcases hl : updateLabelsOnMatchingClusters km fleet s2 c2 c2.status.machingClusterStatuses
    with ⟨l, _ | e⟩
  swap
  · simp [p, reconcileNormal, hf, hm, hl]
  rcases hu : updateClusterInfo fleet c2 with ⟨c3, _ | e⟩
  swap
  · simp [p, reconcileNormal, hf, hm, hl, hu, updateClusterInfo_of_err fleet c2 c3 e hu]
  rcases ho : deployClassifier ext r fleet c3 (classifierFeature ext) d with ⟨c4, d4, _ | e⟩ <;>
    simp [p, reconcileNormal, hf, hm, hl, hu, ho]

theorem reconcileDelete_cases (s : σ) (d : Deployer) (classifier : Classifier) :
    let p := reconcileDelete ext km r fleet s d classifier
    let u := undeployClassifier ext fleet classifier (classifierFeature ext) d
    p.keys = (removeAllRegistrations km fleet s classifier).1 ∧ p.written = classifier ∧
      ((p.ops = [] ∧ p.deployer = d ∧ p.classifier = classifier) ∨
        ((removeAllRegistrations km fleet s classifier).2 = none ∧
          p.ops = [.eraseClassifier classifier.name] ∧ p.deployer = u.2.1 ∧
          (p.classifier = u.1 ∨
            (u.2.2 = none ∧
              p.classifier = { u.1 with finalizers := u.1.finalizers.filter (· ≠ ClassifierFinalizer) })))) := by
  intro p u
  rcases hk : removeAllRegistrations km fleet s classifier with ⟨s', _ | e⟩
  swap
  · simp [p, reconcileDelete, hk]
  rcases hu : undeployClassifier ext fleet classifier (classifierFeature ext) d with ⟨c, d', _ | e⟩
  swap
  · simp [p, u, reconcileDelete, hk, hu]
  rcases hr : fleet.removeClassifierReports with _ | e
  swap
  · simp [p, u, reconcileDelete, hk, hu, hr]
  rcases ha : (if r.classifierReportMode = .collectFromManagementCluster then fleet.removeAccessRequest
    else none) with _ | e <;>
    simp [p, u, reconcileDelete, hk, hu, hr, ha]

theorem reconcileNormal_labelled (s : σ) (d : Deployer) (classifier : Classifier) :
    (reconcileNormal ext km r fleet s d classifier).labelled = [] ∨
      ∃ c1, withFinalizer fleet classifier = (c1, none) ∧
        let m := updateMatchingClustersAndRegistrations km fleet s c1
        m.2.2.2 = none ∧
          (reconcileNormal ext km r fleet s d classifier).labelled =
            (updateLabelsOnMatchingClusters km fleet m.1 m.2.2.1 m.2.2.1.status.machingClusterStatuses).1 := by
  rcases hf : withFinalizer fleet classifier with ⟨c1, _ | e⟩
  swap
  · left
    simp [reconcileNormal, hf]
  rcases hm : updateMatchingClustersAndRegistrations km fleet s c1 with ⟨s2, ops, c2, _ | e⟩
  swap
  · left
    simp [reconcileNormal, hf, hm]
  right
  refine ⟨c1, rfl, by rw [hm], ?_⟩
  dsimp only
  rw [hm]
  rcases hl : updateLabelsOnMatchingClusters km fleet s2 c2 c2.status.machingClusterStatuses with ⟨l, _ | e⟩
  · rcases hu : updateClusterInfo fleet c2 with ⟨c3, _ | e⟩
    · rcases ho : deployClassifier ext r fleet c3 (classifierFeature ext) d with ⟨c4, d4, _ | e⟩ <;>
        simp [reconcileNormal, hf, hm, hl, hu, ho]
    · simp [reconcileNormal, hf, hm, hl, hu]
  · simp [reconcileNormal, hf, hm, hl]

theorem reconcileNormal_ops (s : σ) (d : Deployer) (classifier : Classifier)
    (h : (reconcileNormal ext km r fleet s d classifier).ops ≠ []) :
    ∃ c1, withFinalizer fleet classifier = (c1, none) ∧
      let m := updateMatchingClustersAndRegistrations km fleet s c1
      m.2.2.2 = none ∧ (reconcileNormal ext km r fleet s d classifier).keys = m.1 ∧
      ∃ rest, (reconcileNormal ext km r fleet s d classifier).ops = m.2.1 ++ rest ∧
        ∀ op ∈ rest, ∃ n l, op = .updateMaps n l := by
  rcases reconcileNormal_cases ext km r fleet s d classifier with
    ⟨-, -, hops, -⟩ | ⟨c1, hf, -, hkeys, ⟨hops, -⟩ | ⟨hm, -, hops, -⟩⟩
  · exact absurd hops h
  · refine ⟨c1, hf, ?_, hkeys, [], by rw [hops, List.append_nil], fun op h => absurd h (List.not_mem_nil _)⟩
    rcases updateMatching_spec km s c1 fleet with ⟨-, -, hnil, -⟩ | ⟨hm, -⟩
    · exact absurd (hops.trans hnil) h
    · exact hm
  · exact ⟨c1, hf, hm, hkeys, _, hops, fun op hop => ⟨_, _, List.mem_singleton.1 hop⟩⟩

theorem reconcileDelete_labelled (s : σ) (d : Deployer) (classifier : Classifier) :
    (reconcileDelete ext km r fleet s d classifier).labelled = [] := by
  unfold reconcileDelete
  repeat' split
  all_goals rfl

theorem updateMatching_frame (s : σ) (classifier : Classifier) :
    (updateMatchingClustersAndRegistrations km fleet s classifier).2.2.1.frame = classifier.frame := by
  rcases updateMatching_spec km s classifier fleet with ⟨-, -, -, h⟩ | ⟨-, -, -, -, -, l, h, -⟩ <;>
    simp [h]

theorem updateMatching_finalizers (s : σ) (classifier : Classifier) :
    (updateMatchingClustersAndRegistrations km fleet s classifier).2.2.1.finalizers = classifier.finalizers := by
  rcases updateMatching_spec km s classifier fleet with ⟨-, -, -, h⟩ | ⟨-, -, -, -, -, l, h, -⟩ <;> rw [h]
  rfl

theorem updateMatching_ops_classifier (s : σ) (classifier : Classifier) :
    ∀ op ∈ (updateMatchingClustersAndRegistrations km fleet s classifier).2.1, op.classifier = classifier.name := by
  rcases updateMatching_spec km s classifier fleet with ⟨-, -, h, -⟩ | ⟨-, -, -, -, ⟨b, h⟩, -⟩ <;> rw [h]
  · exact fun op h => absurd h (List.not_mem_nil _)
  · intro op h
    rw [List.mem_singleton.1 h]
    rfl

theorem updateMatching_clusterInfo (s : σ) (classifier : Classifier) :
    (updateMatchingClustersAndRegistrations km fleet s classifier).2.2.1.status.clusterInfo =
      classifier.status.clusterInfo := by
  rcases updateMatching_spec km s classifier fleet with ⟨-, -, -, h⟩ | ⟨-, -, -, -, -, l, h, -⟩ <;>
    simp [h]

theorem deployed_frame (s : σ) (classifier c1 : Classifier)
    (hf : withFinalizer fleet classifier = (c1, none)) :
    (updateClusterInfo fleet (updateMatchingClustersAndRegistrations km fleet s c1).2.2.1).1.frame =
      classifier.frame := by
  rw [updateClusterInfo_fst, setClusterInfo_frame, updateMatching_frame, ← withFinalizer_frame fleet classifier,
    hf]

theorem reconcileNormal_frame (s : σ) (d : Deployer) (classifier : Classifier) :
    (reconcileNormal ext km r fleet s d classifier).classifier.frame = classifier.frame ∧
      (reconcileNormal ext km r fleet s d classifier).written.frame = classifier.frame := by
  rcases reconcileNormal_cases ext km r fleet s d classifier with
    ⟨-, -, -, -, hw, hc, -⟩ | ⟨c1, hf, hw, -, ⟨-, -, hc, -⟩ | ⟨-, -, -, -, hc, -, -⟩⟩
  · simp [hw, hc]
  all_goals
    have h1 : c1.frame = classifier.frame := by simpa [hf] using withFinalizer_frame fleet classifier
    rw [hw, hc]
  · exact ⟨(updateMatching_frame km fleet s c1).trans h1, h1⟩
  · rw [deployClassifier_fst, setClusterInfo_frame, updateClusterInfo_fst, setClusterInfo_frame,
      updateMatching_frame]
    exact ⟨h1, h1⟩

theorem reconcileNormal_finalizer (s : σ) (d : Deployer) (classifier : Classifier) :
    ClassifierFinalizer ∈ (reconcileNormal ext km r fleet s d classifier).classifier.finalizers ∧
      (((reconcileNormal ext km r fleet s d classifier).ops = [] ∧
          (reconcileNormal ext km r fleet s d classifier).written = classifier) ∨
        ClassifierFinalizer ∈ (reconcileNormal ext km r fleet s d classifier).written.finalizers) := by
  rcases reconcileNormal_cases ext km r fleet s d classifier with
    ⟨-, -, hops, -, hw, hc, -⟩ | ⟨c1, hf, hw, -, ⟨-, -, hc, -⟩ | ⟨-, -, -, -, hc, -, -⟩⟩
  · rw [hc]
    exact ⟨withFinalizer_mem fleet classifier, .inl ⟨hops, hw⟩⟩
  all_goals
    have h1 : ClassifierFinalizer ∈ c1.finalizers := by simpa [hf] using withFinalizer_mem fleet classifier
    rw [hw, hc]
  · exact ⟨(updateMatching_finalizers km fleet s c1).symm ▸ h1, .inr h1⟩
  · rw [deployClassifier_fst, updateClusterInfo_fst]
    exact ⟨(updateMatching_finalizers km fleet s c1).symm ▸ h1, .inr h1⟩

theorem reconcileDelete_frame (s : σ) (d : Deployer) (classifier : Classifier) :
    (reconcileDelete ext km r fleet s d classifier).classifier.frame = classifier.frame ∧
      (reconcileDelete ext km r fleet s d classifier).written.frame = classifier.frame := by
  have hu := (undeployClassifier_fst ext fleet classifier (classifierFeature ext) d).1
  rcases reconcileDelete_cases ext km r fleet s d classifier with
    ⟨-, hw, ⟨-, -, hc⟩ | ⟨-, -, -, hc | ⟨-, hc⟩⟩⟩ <;> rw [hw, hc] <;> try rw [hu]
  all_goals exact ⟨rfl, rfl⟩

theorem reconcileNormal_rel (R : Deployer → Deployer → Prop) (hrefl : ∀ d, R d d) (s : σ)
    (d : Deployer) (classifier : Classifier)
    (hdeploy : ∀ c : Classifier, c.frame = classifier.frame →
      R d (deployClassifier ext r fleet c (classifierFeature ext) d).2.1) :
    R d (reconcileNormal ext km r fleet s d classifier).deployer := by
  rcases reconcileNormal_cases ext km r fleet s d classifier with
    ⟨-, -, -, hd, -⟩ | ⟨c1, hf, -, -, ⟨-, hd, -⟩ | ⟨-, -, -, hd, -⟩⟩ <;> rw [hd]
  · exact hrefl d
  · exact hrefl d
  · exact hdeploy _ (deployed_frame km fleet s classifier c1 hf)

theorem reconcileDelete_rel (R : Deployer → Deployer → Prop) (hrefl : ∀ d, R d d) (s : σ)
    (d : Deployer) (classifier : Classifier)
    (hundeploy : R d (undeployClassifier ext fleet classifier (classifierFeature ext) d).2.1) :
    R d (reconcileDelete ext km r fleet s d classifier).deployer := by
  rcases (reconcileDelete_cases ext km r fleet s d classifier).2.2 with ⟨-, hd, -⟩ | ⟨-, -, hd, -⟩ <;>
    rw [hd]
  · exact hrefl d
  · exact hundeploy

theorem reconcileNormal_entries (s : σ) (d : Deployer) (classifier : Classifier) :
    let p := reconcileNormal ext km r fleet s d classifier
    p.written.status.clusterInfo = classifier.status.clusterInfo ∧
      ((p.classifier.status.clusterInfo = classifier.status.clusterInfo ∧ p.deployer = d) ∨
        ∃ c3 : Classifier, c3.frame = classifier.frame ∧
          (∀ e ∈ c3.status.clusterInfo, e ∈ classifier.status.clusterInfo ∨ e.hash = []) ∧
          p.classifier = (deployClassifier ext r fleet c3 (classifierFeature ext) d).1 ∧
          p.deployer = (deployClassifier ext r fleet c3 (classifierFeature ext) d).2.1) := by
  rcases reconcileNormal_cases ext km r fleet s d classifier with
    ⟨-, -, -, hd, hw, hc, -⟩ | ⟨c1, hf, hw, -, ⟨-, hd, hc, -⟩ | ⟨-, -, -, hd, hc, -, -⟩⟩
  · exact ⟨by rw [hw], .inl ⟨by rw [hc, withFinalizer_status], hd⟩⟩
  all_goals
    have h1 : c1.status = classifier.status := by simpa [hf] using withFinalizer_status fleet classifier
    refine ⟨by rw [hw, h1], ?_⟩
  · exact .inl ⟨by rw [hc, updateMatching_clusterInfo, h1], hd⟩
  · refine .inr ⟨_, deployed_frame km fleet s classifier c1 hf, fun e he => ?_, hc, hd⟩
    rcases updateClusterInfo_entries fleet _ e he with he | he
    · exact .inl (by rwa [updateMatching_clusterInfo, h1] at he)
    · exact .inr he

theorem admitted_reconcileNormal (s : σ) (d : Deployer) (classifier : Classifier) :
    d.Admitted (reconcileNormal ext km r fleet s d classifier).deployer :=
  reconcileNormal_rel ext km r fleet _ Deployer.Admitted.refl s d classifier fun c _ =>
    admitted_deployClassifier ext r fleet c _ d

theorem admitted_reconcileDelete (s : σ) (d : Deployer) (classifier : Classifier) :
    d.Admitted (reconcileDelete ext km r fleet s d classifier).deployer :=
  reconcileDelete_rel ext km r fleet _ Deployer.Admitted.refl s d classifier
    (admitted_undeployClassifier ext fleet classifier _ d)

theorem reconcileNormal_within (s : σ) (d : Deployer) (classifier : Classifier) :
    d.Within (reconcileNormal ext km r fleet s d classifier).deployer (·.applicant = classifier.name) :=
  reconcileNormal_rel ext km r fleet (fun d d' => d.Within d' _) (fun d => .refl d _) s d classifier
    fun c hf => (deployClassifier_within ext r fleet c _ d).mono fun _ hk => hk.trans (congrArg Prod.fst hf)

theorem reconcileDelete_within (s : σ) (d : Deployer) (classifier : Classifier) :
    d.Within (reconcileDelete ext km r fleet s d classifier).deployer (·.applicant = classifier.name) :=
  reconcileDelete_rel ext km r fleet (fun d d' => d.Within d' _) (fun d => .refl d _) s d classifier
    (undeployClassifier_within ext fleet classifier _ d)

structure Outcome (σ : Type) where
  keys : σ
  ops : List IndexOp
  deployer : Deployer
  labelled : List Cluster
  stored : Option Classifier
  result : ReconcileResult
  err : Option GoError

def store (classifier : Classifier) : Option Classifier :=
  if classifier.deleting ∧ classifier.finalizers = [] then none else some classifier

/-- `Reconcile` of the classifier the API server holds, if any; the deferred
`Close` patches the scope's classifier, and its error replaces the pass's. -/
def reconcile (s : σ) (d : Deployer) : Option Classifier → Outcome σ
  | none => ⟨s, [], d, [], none, done, none⟩
  | some classifier =>
    match fleet.getClassifier with
    | some e =>
      ⟨s, [], d, [], some classifier, done,
        some (.message ("Failed to fetch Classifier /" ++ classifier.name ++ ": " ++ e.text))⟩
    | none =>
      let p := if classifier.deleting then reconcileDelete ext km r fleet s d classifier
        else reconcileNormal ext km r fleet s d classifier
      match fleet.closePatch with
      | none => ⟨p.keys, p.ops, p.deployer, p.labelled, store p.classifier, p.result, p.err⟩
      | some e => ⟨p.keys, p.ops, p.deployer, p.labelled, store p.written, p.result, some e⟩

def passOf (s : σ) (d : Deployer) (classifier : Classifier) : Pass σ :=
  if classifier.deleting then reconcileDelete ext km r fleet s d classifier
  else reconcileNormal ext km r fleet s d classifier

theorem reconcile_labelled (s : σ) (d : Deployer) (classifier : Classifier) :
    (reconcile ext km r fleet s d (some classifier)).labelled = [] ∨
      (reconcile ext km r fleet s d (some classifier)).labelled = (passOf ext km r fleet s d classifier).labelled := by
  rcases hg : fleet.getClassifier with _ | e
  · right
    rcases hc : fleet.closePatch with _ | e <;> simp [reconcile, passOf, hg, hc]
  · left
    simp [reconcile, hg]

theorem reconcile_cases (s : σ) (d : Deployer) (classifier : Classifier) :
    let o := reconcile ext km r fleet s d (some classifier)
    let p := passOf ext km r fleet s d classifier
    (o.keys = s ∧ o.ops = [] ∧ o.deployer = d ∧ o.stored = some classifier) ∨
      (o.keys = p.keys ∧ o.ops = p.ops ∧ o.deployer = p.deployer ∧
        o.stored = store (if fleet.closePatch = none then p.classifier else p.written)) := by
  intro o p
  rcases hg : fleet.getClassifier with _ | e
  · right
    rcases hc : fleet.closePatch with _ | e <;> simp [o, p, passOf, reconcile, hg, hc]
  · left
    simp [o, reconcile, hg]

theorem passOf_ops_classifier (s : σ) (d : Deployer) (classifier : Classifier) :
    ∀ op ∈ (passOf ext km r fleet s d classifier).ops, op.classifier = classifier.name := by
  unfold passOf
  split
  · rcases (reconcileDelete_cases ext km r fleet s d classifier).2.2 with ⟨h, -⟩ | ⟨-, h, -⟩ <;> rw [h]
    · exact fun op h => absurd h (List.not_mem_nil _)
    · intro op h
      rw [List.mem_singleton.1 h]
      rfl
  · rcases reconcileNormal_cases ext km r fleet s d classifier with
      ⟨-, -, h, -⟩ | ⟨c1, hf, -, -, ⟨h, -⟩ | ⟨-, -, h, -⟩⟩ <;> rw [h]
    · exact fun op h => absurd h (List.not_mem_nil _)
    all_goals
      have hn : c1.name = classifier.name := by
        simpa [hf] using congrArg Prod.fst (withFinalizer_frame fleet classifier)
    · intro op hop
      rw [updateMatching_ops_classifier km fleet s c1 op hop, hn]
    · intro op hop
      rcases List.mem_append.1 hop with hop | hop
      · rw [updateMatching_ops_classifier km fleet s c1 op hop, hn]
      · rw [List.mem_singleton.1 hop]
        show (updateClusterInfo fleet _).1.frame.1 = _
        rw [updateClusterInfo_fst, setClusterInfo_frame, updateMatching_frame]
        exact hn

theorem reconcile_ops_classifier (s : σ) (d : Deployer) (classifier : Classifier) :
    ∀ op ∈ (reconcile ext km r fleet s d (some classifier)).ops, op.classifier = classifier.name := by
  rcases reconcile_cases ext km r fleet s d classifier with ⟨-, h, -⟩ | ⟨-, h, -⟩ <;> rw [h]
  · exact fun op h => absurd h (List.not_mem_nil _)
  · exact passOf_ops_classifier ext km r fleet s d classifier

/-- A `Reconcile` of a live classifier that writes to the reconciler's
memory leaves the classifier in `ClassifierSet` exactly when a cluster that a
report says it matches has a label key of it that, after the pass's
registrations, the key manager gives to another classifier. Every matching
cluster counts, not only the one the status keeps; and the classifier is then
in `AllClassifierSet`. -/
theorem classifierSet_iff_unmanaged (s : σ) (d : Deployer) (classifier : Classifier)
    (hlive : classifier.deleting = false) (reports : List ClassifierReport)
    (hr : fleet.listClassifierReports = .ok reports)
    (hops : (reconcile ext km r fleet s d (some classifier)).ops ≠ []) :
    let o := reconcile ext km r fleet s d (some classifier)
    (classifierRef classifier.name ∈ (runIndex r o.ops).classifierSet.items ↔
      ∃ c ∈ currentMatchingClusters reports, ∃ l ∈ classifier.spec.classifierLabels,
        km.owner o.keys (c.namespace, c.name) l.key ≠ some classifier.name) ∧
      classifierRef classifier.name ∈ (runIndex r o.ops).allClassifierSet.items := by
  intro o
  have hp : passOf ext km r fleet s d classifier = reconcileNormal ext km r fleet s d classifier := by
    simp [passOf, hlive]
  rcases reconcile_cases ext km r fleet s d classifier with ⟨-, h0, -⟩ | ⟨hk, hops', -⟩
  · exact absurd h0 hops
  rw [hp] at hk hops'
  obtain ⟨c1, hf, hm, hkeys, rest, hrest, hmaps⟩ :=
    reconcileNormal_ops ext km r fleet s d classifier (hops' ▸ hops)
  obtain ⟨b, hb, hiff⟩ := updateMatching_classifierSet km s c1 fleet reports hr hm
  have hframe : c1.frame = classifier.frame := by rw [← withFinalizer_frame fleet classifier, hf]
  simp only [Classifier.frame, Prod.mk.injEq] at hframe
  obtain ⟨h1, h2⟩ := runIndex_updateMaps_sets (runIndex r [.updateClassifierSet c1.name b]) rest hmaps
  rw [hops', hrest, hb, runIndex_append, h1, h2, hk, hkeys, ← hframe.1]
  refine ⟨(mem_updateClassifierSet r c1.name b).1.trans (hiff.trans ?_), (mem_updateClassifierSet r c1.name b).2⟩
  simp only [← hframe.2.1, ← km.canManageLabel_iff, ne_eq, Bool.not_eq_true]

theorem passOf_frame (s : σ) (d : Deployer) (classifier : Classifier) :
    (passOf ext km r fleet s d classifier).classifier.frame = classifier.frame ∧
      (passOf ext km r fleet s d classifier).written.frame = classifier.frame := by
  unfold passOf
  split
  · exact reconcileDelete_frame ext km r fleet s d classifier
  · exact reconcileNormal_frame ext km r fleet s d classifier

theorem store_eq_some (c c' : Classifier) (h : store c = some c') : c' = c := by
  unfold store at h
  split at h <;> simp_all

theorem store_of_live (c : Classifier) (h : c.deleting = false) : store c = some c := by
  simp [store, h]

theorem reconcile_stored_cases (s : σ) (d : Deployer) (classifier c' : Classifier)
    (h : (reconcile ext km r fleet s d (some classifier)).stored = some c') :
    c' = classifier ∨ (fleet.closePatch = none ∧ c' = (passOf ext km r fleet s d classifier).classifier) ∨
      c' = (passOf ext km r fleet s d classifier).written := by
  rcases reconcile_cases ext km r fleet s d classifier with ⟨-, -, -, hs⟩ | ⟨-, -, -, hs⟩ <;>
    rw [hs] at h
  · exact .inl (Option.some.inj h).symm
  · rw [store_eq_some _ _ h]
    split
    · exact .inr (.inl ⟨‹_›, rfl⟩)
    · exact .inr (.inr rfl)

theorem reconcile_stored_frame (s : σ) (d : Deployer) (classifier c' : Classifier)
    (h : (reconcile ext km r fleet s d (some classifier)).stored = some c') :
    c'.frame = classifier.frame := by
  rcases reconcile_stored_cases ext km r fleet s d classifier c' h with rfl | ⟨-, rfl⟩ | rfl
  · rfl
  · exact (passOf_frame ext km r fleet s d classifier).1
  · exact (passOf_frame ext km r fleet s d classifier).2

theorem reconcile_rel (R : Deployer → Deployer → Prop) (hrefl : ∀ d, R d d) (s : σ) (d : Deployer)
    (classifier : Classifier)
    (hnormal : R d (reconcileNormal ext km r fleet s d classifier).deployer)
    (hdelete : R d (reconcileDelete ext km r fleet s d classifier).deployer) :
    R d (reconcile ext km r fleet s d (some classifier)).deployer := by
  rcases reconcile_cases ext km r fleet s d classifier with ⟨-, -, hd, -⟩ | ⟨-, -, hd, -⟩ <;> rw [hd]
  · exact hrefl d
  · unfold passOf
    split
    · exact hdelete
    · exact hnormal

theorem reconcile_deploys (s : σ) (d : Deployer) (classifier : Classifier) :
    DeploysBy (PassCall r classifier.deleting) d (reconcile ext km r fleet s d (some classifier)).deployer := by
  rcases reconcile_cases ext km r fleet s d classifier with ⟨-, -, hd, -⟩ | ⟨-, -, hd, -⟩ <;> rw [hd]
  · exact .refl d
  unfold passOf
  split <;> rename_i hdel
  · rw [hdel]
    exact reconcileDelete_rel ext km r fleet _ DeploysBy.refl s d classifier
      (undeployClassifier_deploys ext fleet classifier _ d)
  · rw [Bool.not_eq_true] at hdel
    rw [hdel]
    exact reconcileNormal_rel ext km r fleet _ DeploysBy.refl s d classifier
      fun c _ => deployClassifier_deploys ext r fleet c _ d

theorem reconcile_stored_entries (s : σ) (d : Deployer) (classifier c' : Classifier)
    (hl : classifier.deleting = false) (h : (reconcile ext km r fleet s d (some classifier)).stored = some c') :
    (∀ e ∈ c'.status.clusterInfo, e ∈ classifier.status.clusterInfo) ∨
      ∃ c3 : Classifier, c3.frame = classifier.frame ∧
        (∀ e ∈ c3.status.clusterInfo, e ∈ classifier.status.clusterInfo ∨ e.hash = []) ∧
        c' = (deployClassifier ext r fleet c3 (classifierFeature ext) d).1 ∧
        (reconcile ext km r fleet s d (some classifier)).deployer =
          (deployClassifier ext r fleet c3 (classifierFeature ext) d).2.1 := by
  have hp : passOf ext km r fleet s d classifier = reconcileNormal ext km r fleet s d classifier := by
    simp [passOf, hl]
  obtain ⟨hw, hc⟩ := reconcileNormal_entries ext km r fleet s d classifier
  rcases reconcile_cases ext km r fleet s d classifier with ⟨-, -, -, hs⟩ | ⟨-, -, hd, hs⟩ <;>
    rw [hs] at h
  · cases h
    exact .inl fun e he => he
  rw [store_eq_some _ _ h, hp]
  split
  · rw [hd, hp]
    rcases hc with ⟨hc, -⟩ | hc
    · exact .inl fun e he => by rwa [hc] at he
    · exact .inr hc
  · exact .inl fun e he => by rwa [hw] at he

theorem admitted_reconcile (s : σ) (d : Deployer) (classifier : Option Classifier) :
    d.Admitted (reconcile ext km r fleet s d classifier).deployer := by
  cases classifier with
  | none => exact .refl d
  | some c =>
    exact reconcile_rel ext km r fleet _ Deployer.Admitted.refl s d c
      (admitted_reconcileNormal ext km r fleet s d c) (admitted_reconcileDelete ext km r fleet s d c)

theorem reconcile_within (s : σ) (d : Deployer) (classifier : Classifier) :
    d.Within (reconcile ext km r fleet s d (some classifier)).deployer (·.applicant = classifier.name) :=
  reconcile_rel ext km r fleet (fun d d' => d.Within d' _) (fun d => .refl d _) s d classifier
    (reconcileNormal_within ext km r fleet s d classifier)
    (reconcileDelete_within ext km r fleet s d classifier)

section TwoMatches

variable (reports : List ClassifierReport) (e : GoError) (hr : fleet.listClassifierReports = .ok reports)
  (h2 : 2 ≤ (currentMatchingClusters reports).length) (hg : fleet.getCapiCluster "" "" = .error e)
include hr h2 hg

end TwoMatches

section Labelled

variable (reports : List ClassifierReport) (e : GoError) (hr : fleet.listClassifierReports = .ok reports)
  (hg : fleet.getCapiCluster "" "" = .error e)
include hr hg

end Labelled

end Passes

theorem acme_conflict_in_classifierSet :
    let fleet : Fleet := { Fleet.quiet with
      listClassifierReports := .ok [⟨"default", "a", true⟩]
      getCapiCluster := fun ns n => if n = "" then .error .notFound else .ok ⟨ns, n, false, []⟩ }
    let classifier : Classifier := ⟨"acme", ⟨[], [], [⟨"team", "payments"⟩]⟩, [], false, false, ⟨[], []⟩⟩
    let keys : LabelQueues := LabelQueues.empty.register
      ⟨"billing", ⟨[], [], [⟨"team", "billing"⟩]⟩, [], false, false, ⟨[], []⟩⟩ "default" "a"
    let r : ClassifierReconciler := .init .collectFromManagementCluster ""
    let o : Outcome LabelQueues := reconcile Externals.zero labelQueues r fleet keys Deployer.idle (some classifier)
    (classifier.deleting = false ∧ fleet.listClassifierReports = .ok [⟨"default", "a", true⟩] ∧ o.ops ≠ []) ∧
      (classifierRef classifier.name ∈ (runIndex r o.ops).classifierSet.items ↔
        ∃ c ∈ currentMatchingClusters [⟨"default", "a", true⟩], ∃ l ∈ classifier.spec.classifierLabels,
          labelQueues.owner o.keys (c.namespace, c.name) l.key ≠ some classifier.name) ∧
      classifierRef classifier.name ∈ (runIndex r o.ops).allClassifierSet.items := by
  intro fleet classifier keys r o
  have hops : o.ops ≠ [] := List.ne_nil_of_length_pos (by decide)
  exact ⟨⟨rfl, rfl, hops⟩, classifierSet_iff_unmanaged Externals.zero labelQueues r fleet keys Deployer.idle
    classifier rfl _ rfl hops⟩

end Sveltos.Reconcile
