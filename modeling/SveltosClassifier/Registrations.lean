import SveltosClassifier.System

/-!
# Label registrations and managed labels

A pass learns which clusters its classifier matched before from the persisted
`Status.MachingClusterStatuses`, not from the key manager. A pass whose final
write fails leaves the registrations it made with a status that does not show
them: the next pass does not release them, and the stale status may list a
label as managed that the key manager has meanwhile given to another
classifier. When every final write succeeds, every label a live classifier's
status lists as managed is one the key manager says it owns, so no two of
them list the same label on the same cluster. A classifier being deleted keeps
the status of its last live pass, and an unmanaged label's failure message
names the owner at the time of the pass that wrote it, whoever owns the label
since.
-/

set_option autoImplicit false

namespace Sveltos.Registrations
open Sveltos.Api Sveltos.KeyManager Sveltos.Reads Sveltos.Async Sveltos.Index Sveltos.Process
  Sveltos.Matching Sveltos.Deploy Sveltos.Reconcile Sveltos.System

theorem withFinalizer_of_eq (fleet : Fleet) (classifier c1 : Classifier) (e : Option GoError)
    (h : withFinalizer fleet classifier = (c1, e)) :
    c1.name = classifier.name ∧ c1.status = classifier.status ∧ c1.deleting = classifier.deleting := by
  obtain ⟨fs, hfs⟩ := withFinalizer_fst fleet classifier
  rw [h] at hfs
  simp [show c1 = _ from hfs]

def teamSpec : ClassifierSpec := ⟨[], [], [⟨"team", "payments"⟩]⟩

def matchingFleet (names : List String) (closePatch : Option GoError) : Fleet :=
  { Fleet.quiet with
    listClassifierReports := .ok (names.map fun n => ⟨"default", n, true⟩)
    closePatch := closePatch }

def startWorld : World LabelQueues :=
  World.init (.init .collectFromManagementCluster "") LabelQueues.empty Deployer.idle

section Passes

variable (ext : Externals) {σ : Type} (km : Instance σ) (r : ClassifierReconciler) (fleet : Fleet)

/-- Registrations after a pass, as the code has them. After a
`reconcileNormal` pass whose `updateMatchingClustersAndRegistrations` returns
nil, the classifier is registered on every cluster with a matching report,
and elsewhere only where it was registered before and the persisted status
does not list the cluster as a match; no other classifier's registration
changes. After a `reconcileDelete` pass that removes the finalizer, the
classifier is released from exactly the clusters the persisted status lists. -/
theorem registrations_follow_persisted_status (s : σ) (d : Deployer) (classifier : Classifier)
    (q : String) (cl : String × String) :
    (∀ c1, withFinalizer fleet classifier = (c1, none) →
      (updateMatchingClustersAndRegistrations km fleet s c1).2.2.2 = none →
      ∃ reports, fleet.listClassifierReports = .ok reports ∧
        (km.registered (reconcileNormal ext km r fleet s d classifier).keys q cl = true ↔
          (km.registered s q cl = true ∨
            (q = classifier.name ∧ cl ∈ (currentMatchingClusters reports).map clusterKey)) ∧
          ¬(q = classifier.name ∧ ∃ o ∈ oldMatchingClusters classifier,
            o ∉ currentMatchingClusters reports ∧ clusterKey o = cl))) ∧
    (ClassifierFinalizer ∈ classifier.finalizers →
      ClassifierFinalizer ∉ (reconcileDelete ext km r fleet s d classifier).classifier.finalizers →
      (km.registered (reconcileDelete ext km r fleet s d classifier).keys q cl = true ↔
        km.registered s q cl = true ∧ ¬(q = classifier.name ∧
          cl ∈ classifier.status.machingClusterStatuses.map (clusterKey ·.clusterRef)))) := by
  refine ⟨fun c1 hf hm => ?_, fun hin hout => ?_⟩
  · obtain ⟨hn, hs, -⟩ := withFinalizer_of_eq fleet classifier c1 none hf
    have hk : (reconcileNormal ext km r fleet s d classifier).keys =
        (updateMatchingClustersAndRegistrations km fleet s c1).1 := by
      rcases reconcileNormal_cases ext km r fleet s d classifier with
        ⟨hne, -⟩ | ⟨c1', hf', -, hk, -⟩
      · rw [hf] at hne; exact absurd rfl hne
      · rw [hf] at hf'; cases hf'; exact hk
    rw [hk, ← hn, show oldMatchingClusters classifier = oldMatchingClusters c1 by
      simp [oldMatchingClusters, hs]]
    exact updateMatching_registered km s c1 q cl fleet hm
  · obtain ⟨hk, -, hcases⟩ := reconcileDelete_cases ext km r fleet s d classifier
    rcases hcases with ⟨-, -, hc⟩ | ⟨hrm, -⟩
    · rw [hc] at hout; exact absurd hin hout
    · have hki : fleet.keyManagerInstance = none := by
        cases hi : fleet.keyManagerInstance
        · rfl
        · simp [removeAllRegistrations, hi] at hrm
      rw [hk]
      exact registered_removeAllRegistrations km s classifier q cl fleet hki

/-- A pass whose final write fails leaves a registration that the next pass,
which sees no matching report and whose `updateMatchingClustersAndRegistrations`
returns nil, does not release. -/
theorem registration_outlives_match :
    let w1 : World LabelQueues := startWorld.run Externals.zero labelQueues
      [.apply "acme" teamSpec false, .reconcile "acme" (matchingFleet ["a"] (some (.message "conflict")))]
    let w2 : World LabelQueues := World.step Externals.zero labelQueues w1 (.reconcile "acme" (matchingFleet [] none))
    (∃ c, w1.classifiers "acme" = some c ∧ ClassifierFinalizer ∈ c.finalizers ∧
      (updateMatchingClustersAndRegistrations labelQueues (matchingFleet [] none) w1.keys c).2.2.2 =
        none) ∧
    (matchingFleet [] none).listClassifierReports = .ok [] ∧
    labelQueues.registered w2.keys "acme" ("default", "a") = true := by
  intro w1 w2
  exact ⟨⟨_, rfl, by decide, by decide⟩, rfl, by decide⟩

theorem owner_reconcile (s : σ) (d : Deployer) (classifier : Classifier) (cl : String × String)
    (k q : String) (h : km.owner s cl k = some q) (hq : q ≠ classifier.name) :
    km.owner (reconcile ext km r fleet s d (some classifier)).keys cl k = some q := by
  rcases reconcile_cases ext km r fleet s d classifier with ⟨hk, -⟩ | ⟨hk, -⟩ <;> rw [hk]
  · exact h
  unfold passOf
  split
  · rw [(reconcileDelete_cases ext km r fleet s d classifier).1]
    exact owner_removeAllRegistrations km s classifier cl k q fleet h hq
  · rcases reconcileNormal_cases ext km r fleet s d classifier with
      ⟨-, hk, -⟩ | ⟨c1, hf, -, hk, -⟩ <;> rw [hk]
    · exact h
    · exact owner_updateMatching km s c1 cl k q fleet h
        ((withFinalizer_of_eq fleet classifier c1 none hf).1 ▸ hq)

end Passes

section Runs

variable (ext : Externals) {σ : Type} (km : Instance σ)

end Runs

section Arbitration

variable (ext : Externals) {σ : Type} (km : Instance σ)

theorem owner_step (w : World σ) (e : Event) (cl : String × String) (k P : String)
    (he : ∀ fleet, e ≠ .reconcile P fleet) (h : km.owner w.keys cl k = some P) :
    km.owner (World.step ext km w e).keys cl k = some P := by
  cases e with
  | reconcile name fleet =>
    show km.owner (Reconcile.reconcile ext km w.reconciler fleet w.keys w.deployer (w.classifiers name)).keys cl k =
      some P
    cases hc : w.classifiers name with
    | none => exact h
    | some c =>
      refine owner_reconcile ext km _ fleet _ _ c cl k P h ?_
      rw [w.named name c hc]
      rintro rfl
      exact he fleet rfl
  | _ => exact h

theorem owner_run (w : World σ) (events : List Event) (cl : String × String) (k P : String)
    (he : ∀ e ∈ events, ∀ fleet, e ≠ .reconcile P fleet) (h : km.owner w.keys cl k = some P) :
    km.owner (w.run ext km events).keys cl k = some P :=
  World.run_invariant ext km (fun w => km.owner w.keys cl k = some P) (fun e => ∀ fleet, e ≠ .reconcile P fleet)
    (fun w e he h => owner_step ext km w e cl k P he h) w events he h

/-- Label arbitration over runs. Once `P` owns label key `k` on a cluster, no
pass of another classifier changes that label there until a pass of `P` runs:
each cluster such a pass writes back under that namespace and name is one it
read, with label `k` as it read it. -/
theorem owned_label_untouched (w : World σ) (events : List Event) (cl : String × String) (k P Q : String)
    (fleet : Fleet) (he : ∀ e ∈ events, ∀ f, e ≠ .reconcile P f) (hown : km.owner w.keys cl k = some P)
    (hQ : Q ≠ P) :
    let w' := w.run ext km events
    ∀ c' ∈ (Reconcile.reconcile ext km w'.reconciler fleet w'.keys w'.deployer (w'.classifiers Q)).labelled,
      (c'.namespace, c'.name) = cl →
        ∃ ns n cluster, fleet.getCapiCluster ns n = .ok cluster ∧ c' = { cluster with labels := c'.labels } ∧
          c'.labels.lookup k = cluster.labels.lookup k := by
  intro w' c' hc' hcl
  have hown' := owner_run ext km w events cl k P he hown
  cases hq : w'.classifiers Q with
  | none =>
    rw [hq] at hc'
    exact absurd hc' (List.not_mem_nil _)
  | some cq =>
    rw [hq] at hc'
    rcases reconcile_labelled ext km w'.reconciler fleet w'.keys w'.deployer cq with hl | hl <;> rw [hl] at hc'
    · exact absurd hc' (List.not_mem_nil _)
    unfold passOf at hc'
    split at hc'
    · rw [reconcileDelete_labelled] at hc'
      exact absurd hc' (List.not_mem_nil _)
    rcases reconcileNormal_labelled ext km w'.reconciler fleet w'.keys w'.deployer cq with hl | ⟨c1, hf, -, hl⟩ <;>
      rw [hl] at hc'
    · exact absurd hc' (List.not_mem_nil _)
    obtain ⟨m, -, cluster, hg, hu⟩ := mem_updateLabelsOnMatchingClusters km _ _ fleet _ c' hc'
    obtain ⟨hc, hlab⟩ := updateLabelsOnCluster_ok km _ _ fleet cluster c' hu
    refine ⟨_, _, cluster, hg, hc, ?_⟩
    have hn1 : c1.name = Q := (withFinalizer_of_eq fleet cq c1 none hf).1.trans (w'.named Q cq hq)
    have hn2 : (updateMatchingClustersAndRegistrations km fleet w'.keys c1).2.2.1.name = Q :=
      (congrArg Prod.fst (updateMatching_frame km fleet w'.keys c1)).trans hn1
    have hcl' : (cluster.namespace, cluster.name) = cl := by
      rw [hc] at hcl
      exact hcl
    have ho := owner_updateMatching km w'.keys c1 cl k P fleet hown' (by rw [hn1]; exact Ne.symm hQ)
    have hcan : km.canManageLabel (updateMatchingClustersAndRegistrations km fleet w'.keys c1).1
        (updateMatchingClustersAndRegistrations km fleet w'.keys c1).2.2.1 cluster.namespace cluster.name k = false := by
      rw [Bool.eq_false_iff]
      intro hcan
      rw [km.canManageLabel_iff, hcl', ho, hn2] at hcan
      exact hQ (Option.some.inj hcan).symm
    rw [hlab k, hcan]
    rfl

theorem q_keeps_team_label :
    let w := startWorld.run Externals.zero labelQueues
      [.apply "p" teamSpec false, .apply "q" teamSpec false, .reconcile "p" (matchingFleet ["a"] none)]
    let events := [Event.reconcile "q" (matchingFleet ["a"] none)]
    ((∀ e ∈ events, ∀ f, e ≠ .reconcile "p" f) ∧ labelQueues.owner w.keys ("default", "a") "team" = some "p" ∧
        "q" ≠ "p") ∧
      let w' := w.run Externals.zero labelQueues events
      ∀ c' ∈ (Reconcile.reconcile Externals.zero labelQueues w'.reconciler (matchingFleet ["a"] none) w'.keys
          w'.deployer (w'.classifiers "q")).labelled,
        (c'.namespace, c'.name) = ("default", "a") →
          ∃ ns n cluster, (matchingFleet ["a"] none).getCapiCluster ns n = .ok cluster ∧
            c' = { cluster with labels := c'.labels } ∧ c'.labels.lookup "team" = cluster.labels.lookup "team" := by
  intro w events
  have he : ∀ e ∈ events, ∀ f, e ≠ .reconcile "p" f := by simp [events]
  have hown : labelQueues.owner w.keys ("default", "a") "team" = some "p" := by decide
  have hq : "q" ≠ "p" := by decide
  exact ⟨⟨he, hown, hq⟩, owned_label_untouched Externals.zero labelQueues w events _ _ _ _ _ he hown hq⟩

end Arbitration

end Sveltos.Registrations
