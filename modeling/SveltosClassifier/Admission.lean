import SveltosClassifier.System

/-!
# Deploy and undeploy admission

Every `Deploy` call a run makes, whichever classifiers its passes reconcile
and however they interleave with the deployer finishing requests, is made
while the request of the other direction for the same key is not in progress:
a deploy is never queued over a running undeploy, nor an undeploy over a
running deploy. A refused request is an error of the pass, which is then
requeued; a deleting pass whose undeploy is refused keeps the finalizer.
-/

set_option autoImplicit false

namespace Sveltos.Admission
open Sveltos.Api Sveltos.KeyManager Sveltos.Reads Sveltos.Async Sveltos.Index Sveltos.Process
  Sveltos.Matching Sveltos.Deploy Sveltos.Reconcile Sveltos.System

variable (ext : Externals) {σ : Type} (km : Instance σ)

theorem admitted_step (w : World σ) (e : Event) :
    w.deployer.Admitted (World.step ext km w e).deployer := by
  cases e with
  | apply => exact .refl _
  | delete => exact .refl _
  | reconcile name fleet => exact admitted_reconcile ext km _ fleet _ _ _
  | complete key outcome => exact w.deployer.admitted_complete key outcome

theorem admitted_run (w : World σ) (events : List Event) :
    w.deployer.Admitted (World.run ext km w events).deployer := by
  induction events generalizing w with
  | nil => exact .refl _
  | cons e es ih => exact (admitted_step ext km w e).trans (ih _)

theorem reconcileDelete_requeued (r : ClassifierReconciler) (fleet : Fleet) (s : σ) (d : Deployer)
    (classifier : Classifier) (hu : (undeployClassifier ext fleet classifier (classifierFeature ext) d).2.2 ≠ none) :
    let p := reconcileDelete ext km r fleet s d classifier
    p.classifier.finalizers = classifier.finalizers ∧ (p.err ≠ none ∨ p.result = ⟨true, deleteRequeueAfter⟩) := by
  intro p
  rcases hrm : removeAllRegistrations km fleet s classifier with ⟨s', _ | e⟩
  · have hf := congrArg Classifier.finalizers (undeployClassifier_fst ext fleet classifier (classifierFeature ext) d).1
    rcases hud : undeployClassifier ext fleet classifier (classifierFeature ext) d with ⟨c', d', _ | e⟩ <;>
      rw [hud] at hu hf
    · exact absurd rfl hu
    · simp only [p, reconcileDelete, hrm, hud]
      exact ⟨hf, .inr trivial⟩
  · simp only [p, reconcileDelete, hrm]
    exact ⟨trivial, .inl (Option.some_ne_none e)⟩

/-- Admission safety. Over any run from any world, every `Deploy` call is
made while the opposite request of its key is not in progress. A deploy
refused because the cleanup of its key is in progress, and an undeploy
refused because the deploy of its key is in progress, are returned as errors.
An error of any call makes `deployClassifier` fail, and a pass whose
`deployClassifier` fails is requeued; an undeploy refused on a cluster that
exists makes `undeployClassifier` fail, and the deleting pass is requeued with
the finalizer kept. -/
theorem deploy_undeploy_admission (w : World σ) (events : List Event) :
    (∃ new, (World.run ext km w events).deployer.calls = w.deployer.calls ++ new ∧
      ∀ c ∈ new, c.oppositeInProgress = false) ∧
    (∀ (r : ClassifierReconciler) (fleet : Fleet) (d : Deployer) (classifier : Classifier)
        (cp : String) (cluster : ObjectReference) (f : Feature) (h : List UInt8),
      getCurrentHash ext r.classifierReportMode fleet classifier cp cluster f = .ok h →
      canProceed fleet classifier cluster = .ok true →
      d.isInProgress (deployerKey ext cluster classifier f true) = true →
      processClassifier ext r fleet d classifier cp cluster f = ((none, some (cleanupInProgress f)), d)) ∧
    (∀ (fleet : Fleet) (d : Deployer) (classifier : Classifier) (cluster : ObjectReference)
        (f : Feature),
      isPaused fleet cluster classifier = .ok false →
      d.isInProgress (deployerKey ext cluster classifier f false) = true →
      removeClassifier ext fleet d classifier cluster f = (some (deployInProgress f), d)) ∧
    (∀ (r : ClassifierReconciler) (fleet : Fleet) (classifier : Classifier) (f : Feature)
        (d : Deployer),
      ∀ o ∈ (processAll ext r fleet classifier f d classifier.status.clusterInfo).1, o.2 ≠ none →
        (deployClassifier ext r fleet classifier f d).2.2 ≠ none) ∧
    (∀ (r : ClassifierReconciler) (fleet : Fleet) (s : σ) (d : Deployer) (classifier : Classifier),
      let p := reconcileNormal ext km r fleet s d classifier
      p.result = done → p.err = none →
        (∃ c1, withFinalizer fleet classifier = (c1, none) ∧
          let m := updateMatchingClustersAndRegistrations km fleet s c1
          (updateClusterInfo fleet m.2.2.1).2 = none ∧
          (deployClassifier ext r fleet (updateClusterInfo fleet m.2.2.1).1 (classifierFeature ext)
            d).2.2 = none)) ∧
    (∀ (r : ClassifierReconciler) (fleet : Fleet) (s : σ) (d : Deployer) (classifier : Classifier)
        (ci : ClusterInfo),
      ci ∈ classifier.status.clusterInfo → fleet.getCluster ci.cluster ≠ some .notFound →
      isPaused fleet ci.cluster classifier = .ok false →
      d.isInProgress (deployerKey ext ci.cluster classifier (classifierFeature ext) false) = true →
      (undeployClassifier ext fleet classifier (classifierFeature ext) d).2.2 ≠ none ∧
        let p := reconcileDelete ext km r fleet s d classifier
        p.classifier.finalizers = classifier.finalizers ∧
          (p.err ≠ none ∨ p.result = ⟨true, deleteRequeueAfter⟩)) := by
  refine ⟨admitted_run ext km w events,
    fun r fleet d classifier cp cluster f h hh hp hu =>
      processClassifier_cleanup ext r fleet d classifier cp cluster f h hh hp hu,
    fun fleet d classifier cluster f hp hd =>
      removeClassifier_deployInProgress ext fleet d classifier cluster f hp hd,
    fun r fleet classifier f d o ho he => deployClassifier_err_of_call ext r fleet classifier f d o ho he,
    fun r fleet s d classifier hr he => ?normal, fun r fleet s d classifier ci hci hex hp hd => ?delete⟩
  case delete =>
    have hu : (undeployClassifier ext fleet classifier (classifierFeature ext) d).2.2 ≠ none := fun hn => by
      rcases (undeployClassifier_eq_none ext fleet classifier _ d hn).2 ci hci with h | h
      · exact hex h
      · rw [removeClassifier_deployInProgress ext fleet d classifier ci.cluster _ hp hd] at h
        cases h
    exact ⟨hu, reconcileDelete_requeued ext km r fleet s d classifier hu⟩
  case normal =>
    rcases reconcileNormal_cases ext km r fleet s d classifier with
      ⟨-, -, -, -, -, -, hne⟩ | ⟨c1, hf, -, -, ⟨-, -, -, hne⟩ | ⟨hm, hu, -, -, -, hres, -⟩⟩
    · exact absurd he hne
    · exact absurd he hne
    · refine ⟨c1, hf, hu, ?_⟩
      by_contra hne
      rw [if_neg hne] at hres
      exact absurd (hres ▸ hr) (by decide)

end Sveltos.Admission
