import SveltosClassifier.System

/-!
# When `reconcileDelete` lets a classifier go

`reconcileDelete` removes the finalizer once `undeployClassifier` returns nil,
which it does when `removeClassifier` returns nil on every cluster that still
exists. `removeClassifier` returns nil for a paused cluster, and for a cluster
of a paused classifier, without queueing anything: the finalizer then goes
although the classifier was never removed from that cluster.

The one index write of a deletion pass erases the classifier from
`ClassifierSet` and `AllClassifierSet`, so in every reachable state the two
sets hold only classifiers that exist. `ClusterMap` and `ClassifierMap` keep
what the last `updateMaps` wrote for it, so once the classifier is gone the
index still maps its clusters to it.
-/

set_option autoImplicit false

namespace Sveltos.Deletion
open Sveltos.Api Sveltos.KeyManager Sveltos.Reads Sveltos.Async Sveltos.Index Sveltos.Process
  Sveltos.Matching Sveltos.Deploy Sveltos.Reconcile Sveltos.System

def goneFleet : Fleet := { Fleet.quiet with getCluster := fun _ => some .notFound }

def deletingAcme : Classifier :=
  ⟨"acme", ⟨[], [], []⟩, [ClassifierFinalizer], false, true,
    ⟨[⟨⟨"default", "a", "Cluster", "cluster.x-k8s.io/v1beta1"⟩, [], .provisioned, none⟩], []⟩⟩

section Passes

variable (ext : Externals) {σ : Type} (km : Instance σ) (r : ClassifierReconciler) (fleet : Fleet)

theorem undeployClassifier_finalizers (d : Deployer) (classifier : Classifier) (f : Feature) :
    (undeployClassifier ext fleet classifier f d).1.finalizers = classifier.finalizers := by
  rw [(undeployClassifier_fst ext fleet classifier f d).1]

theorem reconcileDelete_undeployed (s : σ) (d : Deployer) (classifier : Classifier)
    (hin : ClassifierFinalizer ∈ classifier.finalizers)
    (hout : ClassifierFinalizer ∉ (reconcileDelete ext km r fleet s d classifier).classifier.finalizers) :
    (undeployClassifier ext fleet classifier (classifierFeature ext) d).2.2 = none := by
  rcases (reconcileDelete_cases ext km r fleet s d classifier).2.2 with
    ⟨-, -, hc⟩ | ⟨-, -, -, hc | ⟨hu, -⟩⟩
  · rw [hc] at hout; exact absurd hin hout
  · rw [hc, undeployClassifier_finalizers] at hout; exact absurd hin hout
  · exact hu

/-- Finalizer safety, as the code has it. `reconcileDelete` removes the
finalizer only if, for every entry of `Status.ClusterInfo`, the cluster is
gone, or the cluster or the classifier is paused, or no deploy of the key is
in progress and the deployer has reported its undeploy as removed. -/
theorem reconcileDelete_finalizer_removed (s : σ) (d : Deployer) (classifier : Classifier)
    (hin : ClassifierFinalizer ∈ classifier.finalizers)
    (hout : ClassifierFinalizer ∉ (reconcileDelete ext km r fleet s d classifier).classifier.finalizers) :
    ∀ ci ∈ classifier.status.clusterInfo, fleet.getCluster ci.cluster = some .notFound ∨
      isPaused fleet ci.cluster classifier = .ok true ∨
      (isPaused fleet ci.cluster classifier = .ok false ∧
        d.isInProgress (deployerKey ext ci.cluster classifier (classifierFeature ext) false) = false ∧
        (d.getResult (deployerKey ext ci.cluster classifier (classifierFeature ext) true)).resultStatus =
          .removed) := by
  intro ci hci
  have hu := reconcileDelete_undeployed ext km r fleet s d classifier hin hout
  rcases (undeployClassifier_eq_none ext fleet classifier _ d hu).2 ci hci with h | h
  · exact .inl h
  · exact .inr ((removeClassifier_eq_none ext fleet d classifier ci.cluster _).1 h)

end Passes

theorem reconcileDelete_finalizer_removed_gone :
    let p := reconcileDelete Externals.zero labelQueues (.init .collectFromManagementCluster "")
      goneFleet LabelQueues.empty Deployer.idle deletingAcme
    ClassifierFinalizer ∈ deletingAcme.finalizers ∧ ClassifierFinalizer ∉ p.classifier.finalizers ∧
      ∀ ci ∈ deletingAcme.status.clusterInfo, goneFleet.getCluster ci.cluster = some .notFound ∨
        isPaused goneFleet ci.cluster deletingAcme = .ok true ∨
        (isPaused goneFleet ci.cluster deletingAcme = .ok false ∧
          Deployer.idle.isInProgress
            (deployerKey Externals.zero ci.cluster deletingAcme (classifierFeature Externals.zero) false) = false ∧
          (Deployer.idle.getResult (deployerKey Externals.zero ci.cluster deletingAcme
            (classifierFeature Externals.zero) true)).resultStatus = .removed) := by
  intro p
  have hin : ClassifierFinalizer ∈ deletingAcme.finalizers := by simp [deletingAcme]
  have hout : ClassifierFinalizer ∉ p.classifier.finalizers := by
    simp [p, reconcileDelete, removeAllRegistrations, undeployClassifier, existingClusters,
      removeFromClusters, goneFleet, Fleet.quiet, isNotFound, ClassifierReconciler.init, deletingAcme,
      ClassifierFinalizer]
  exact ⟨hin, hout, reconcileDelete_finalizer_removed Externals.zero labelQueues _ goneFleet _ _
    deletingAcme hin hout⟩

def pausedFleet : Fleet := { Fleet.quiet with isClusterPaused := fun _ => .ok true }

/-- The finalizer is removed while the cluster exists and no undeploy was
ever queued, because the cluster is paused. -/
theorem reconcileDelete_paused_cluster_released :
    let cluster : ObjectReference := ⟨"default", "a", "Cluster", "cluster.x-k8s.io/v1beta1"⟩
    let p := reconcileDelete Externals.zero labelQueues (.init .collectFromManagementCluster "")
      pausedFleet LabelQueues.empty Deployer.idle deletingAcme
    ClassifierFinalizer ∉ p.classifier.finalizers ∧ pausedFleet.getCluster cluster = none ∧
      (Deployer.idle.getResult (deployerKey Externals.zero cluster deletingAcme
        (classifierFeature Externals.zero) true)).resultStatus ≠ .removed := by
  decide

section Index

variable (ext : Externals) {σ : Type} (km : Instance σ)

theorem reconcileDelete_maps (r : ClassifierReconciler) (fleet : Fleet) (s : σ) (d : Deployer)
    (classifier : Classifier) :
    (runIndex r (reconcileDelete ext km r fleet s d classifier).ops).clusterMap = r.clusterMap ∧
      (runIndex r (reconcileDelete ext km r fleet s d classifier).ops).classifierMap = r.classifierMap := by
  rcases (reconcileDelete_cases ext km r fleet s d classifier).2.2 with ⟨h, -⟩ | ⟨-, h, -⟩ <;>
    rw [h] <;> exact ⟨rfl, rfl⟩

theorem step_deleting_maps (w : World σ) (name : String) (fleet : Fleet) (c : Classifier)
    (hc : w.classifiers name = some c) (hdel : c.deleting = true) :
    (w.step ext km (.reconcile name fleet)).reconciler.clusterMap = w.reconciler.clusterMap ∧
      (w.step ext km (.reconcile name fleet)).reconciler.classifierMap = w.reconciler.classifierMap := by
  rw [(World.step_reconcile ext km w name fleet).2.1, hc]
  rcases reconcile_cases ext km w.reconciler fleet w.keys w.deployer c with ⟨-, h, -⟩ | ⟨-, h, -⟩ <;> rw [h]
  · exact ⟨rfl, rfl⟩
  · simp only [passOf, hdel, if_true]
    exact reconcileDelete_maps ext km _ _ _ _ _

end Index

def listedFleet : Fleet := { Fleet.quiet with listClusters := .ok [⟨"default", "a", false, []⟩] }

def acmeKey (cleanup : Bool) : DeployerKey :=
  deployerKey Externals.zero ⟨"default", "a", "", ""⟩ (applyClassifier "acme" ⟨[], [], []⟩ false none)
    (classifierFeature Externals.zero) cleanup

/-- `acme` deployed to `default/a`, then deleted, undeployed and let go: the
index still maps `default/a` to `acme`, and `ClassifierMap` still lists
`default/a` for it. -/
theorem index_outlives_classifier :
    let w : World LabelQueues := (World.init (.init .collectFromManagementCluster "") LabelQueues.empty Deployer.idle).run
      Externals.zero labelQueues
      [.apply "acme" ⟨[], [], []⟩ false, .reconcile "acme" listedFleet, .complete (acmeKey false) none,
        .delete "acme", .reconcile "acme" listedFleet, .complete (acmeKey true) none,
        .reconcile "acme" listedFleet]
    w.classifiers "acme" = none ∧
      (w.reconciler.getClusterMapForEntry (clusterRef ⟨"default", "a", "", ""⟩)).has (classifierRef "acme") ∧
      w.reconciler.clustersOf (classifierRef "acme") = [clusterRef ⟨"default", "a", "", ""⟩] := by
  decide

section Sets

variable (ext : Externals) {σ : Type} (km : Instance σ)

def SetsStored (w : World σ) : Prop :=
  ∀ n, classifierRef n ∈ w.reconciler.classifierSet.items ∨
      classifierRef n ∈ w.reconciler.allClassifierSet.items →
    ∃ c, w.classifiers n = some c ∧ ClassifierFinalizer ∈ c.finalizers

theorem store_of_finalizer (c : Classifier) (h : ClassifierFinalizer ∈ c.finalizers) : store c = some c := by
  simp [store, List.ne_nil_of_mem h]

theorem reconcile_setsStored (r : ClassifierReconciler) (fleet : Fleet) (s : σ) (d : Deployer) (c : Classifier)
    (h : classifierRef c.name ∈ r.classifierSet.items ∨ classifierRef c.name ∈ r.allClassifierSet.items →
      ClassifierFinalizer ∈ c.finalizers)
    (hin : classifierRef c.name ∈ (runIndex r (reconcile ext km r fleet s d (some c)).ops).classifierSet.items ∨
      classifierRef c.name ∈ (runIndex r (reconcile ext km r fleet s d (some c)).ops).allClassifierSet.items) :
    ∃ c', (reconcile ext km r fleet s d (some c)).stored = some c' ∧ ClassifierFinalizer ∈ c'.finalizers := by
  rcases reconcile_cases ext km r fleet s d c with ⟨-, hops, -, hst⟩ | ⟨-, hops, -, hst⟩ <;> rw [hops] at hin
  · exact ⟨c, hst, h hin⟩
  rw [hst]
  unfold passOf at hin ⊢
  by_cases hdel : c.deleting = true
  · rw [if_pos hdel] at hin ⊢
    rcases reconcileDelete_cases ext km r fleet s d c with ⟨-, hw, ⟨hops', -, hc⟩ | ⟨-, hops', -⟩⟩ <;>
      rw [hops'] at hin
    · refine ⟨c, ?_, h hin⟩
      split <;> simp only [hc, hw, store_of_finalizer c (h hin)]
    · simp [runIndex, IndexOp.apply, eraseClassifier] at hin
  · rw [if_neg hdel] at hin ⊢
    obtain ⟨hc, hw⟩ := reconcileNormal_finalizer ext km r fleet s d c
    split
    · exact ⟨_, store_of_finalizer _ hc, hc⟩
    · rcases hw with ⟨hops', hw⟩ | hw
      · rw [hops'] at hin
        rw [hw]
        exact ⟨c, store_of_finalizer c (h hin), h hin⟩
      · exact ⟨_, store_of_finalizer _ hw, hw⟩

theorem step_setsStored (w : World σ) (e : Event) (h : SetsStored w) : SetsStored (w.step ext km e) := by
  intro n hn
  cases e with
  | apply name spec paused =>
    obtain ⟨c, hc, hf⟩ := h n hn
    by_cases hname : n = name
    · subst hname
      exact ⟨{ c with spec := spec, paused := paused }, by simp [World.step, hc, applyClassifier], hf⟩
    · exact ⟨c, by simp [World.step, Function.update_noteq hname, hc], hf⟩
  | delete name =>
    obtain ⟨c, hc, hf⟩ := h n hn
    by_cases hname : n = name
    · subst hname
      refine ⟨{ c with deleting := true }, ?_, hf⟩
      simp only [World.step, World.setClassifier_classifiers, Function.update_same, hc, deleteClassifier]
      exact store_of_finalizer _ hf
    · exact ⟨c, by simp [World.step, Function.update_noteq hname, hc], hf⟩
  | complete key outcome => exact h n hn
  | reconcile name fleet =>
    obtain ⟨hcls, hrec, -, -⟩ := World.step_reconcile ext km w name fleet
    rw [hrec] at hn
    rw [hcls]
    rcases hw : w.classifiers name with _ | c <;> rw [hw] at hn
    · obtain ⟨c', hc', hf⟩ := h n hn
      have hname : n ≠ name := fun he => by rw [he, hw] at hc'; cases hc'
      exact ⟨c', by rw [Function.update_noteq hname]; exact hc', hf⟩
    by_cases hname : n = name
    · subst hname
      have hcn := w.named n c hw
      rw [Function.update_same]
      rw [← hcn] at hn
      refine reconcile_setsStored ext km w.reconciler fleet w.keys w.deployer c (fun hm => ?_) hn
      obtain ⟨c'', hc'', hf⟩ := h n (hcn ▸ hm)
      rw [hw] at hc''
      cases hc''
      exact hf
    · obtain ⟨h1, h2⟩ := runIndex_sets_other w.reconciler
        (reconcile ext km w.reconciler fleet w.keys w.deployer (some c)).ops n fun op hop => by
        rw [reconcile_ops_classifier ext km _ fleet _ _ c op hop, w.named name c hw]
        exact Ne.symm hname
      obtain ⟨c', hc', hf⟩ := h n (hn.imp h1.1 h2.1)
      exact ⟨c', by rw [Function.update_noteq hname]; exact hc', hf⟩

theorem setsStored_init (mode : ReportMode) (endpoint : String) (s : σ) (d : Deployer) :
    SetsStored (World.init (.init mode endpoint) s d) := by
  intro n hn
  simp [World.init, ClassifierReconciler.init, SveltosSet.empty] at hn

/-- In every state reachable from the controller's start, every classifier
`ClassifierSet` or `AllClassifierSet` holds exists and carries the finalizer:
a deletion pass erases it from both sets before the finalizer goes, so unlike
`ClusterMap` and `ClassifierMap` the two sets never outlive a classifier. -/
theorem sets_hold_stored (mode : ReportMode) (endpoint : String) (s : σ) (d : Deployer)
    (events : List Event) (n : String) :
    let w : World σ := (World.init (.init mode endpoint) s d).run ext km events
    classifierRef n ∈ w.reconciler.classifierSet.items ∨ classifierRef n ∈ w.reconciler.allClassifierSet.items →
      ∃ c, w.classifiers n = some c ∧ ClassifierFinalizer ∈ c.finalizers :=
  World.run_invariant ext km SetsStored (fun _ => True) (fun w e _ h => step_setsStored ext km w e h) _ events
    (fun _ _ => trivial) (setsStored_init mode endpoint s d) n

end Sets

theorem acme_in_sets_stored :
    let w : World LabelQueues := (World.init (.init .collectFromManagementCluster "") LabelQueues.empty
      Deployer.idle).run Externals.zero labelQueues [.apply "acme" ⟨[], [], []⟩ false, .reconcile "acme" listedFleet]
    (classifierRef "acme" ∈ w.reconciler.classifierSet.items ∨
        classifierRef "acme" ∈ w.reconciler.allClassifierSet.items) ∧
      ∃ c, w.classifiers "acme" = some c ∧ ClassifierFinalizer ∈ c.finalizers := by
  intro w
  have hin : classifierRef "acme" ∈ w.reconciler.classifierSet.items ∨
      classifierRef "acme" ∈ w.reconciler.allClassifierSet.items := by decide
  exact ⟨hin, sets_hold_stored Externals.zero labelQueues _ _ _ _ _ "acme" hin⟩

end Sveltos.Deletion
