import SveltosClassifier.Status
import SveltosClassifier.Registrations

/-!
# No redeploy of a settled cluster

An entry of `Status.ClusterInfo` is settled when its hash is the cluster's
current hash and it is `Provisioned`, or the deployer holds a result for its
deploy. `processClassifier` queues nothing for a settled entry and returns one
again, and every other call a pass makes is on another key. So over any run in
which each pass of the classifier processes the cluster with the same current
hash, no deploy of the classifier on the cluster is queued, however the
passes interleave with other classifiers' passes, with edits of other
classifiers and with the deployer finishing requests.

What the result assumes, as hypotheses: the classifier is not deleted, and
edits of it keep its spec and annotation; each of its passes reads a cluster
list naming each cluster once in a valid namespace, finds the cluster not
paused and ready, and reads the same current hash; no cleanup of the cluster
is in progress to begin with. A pass in which the cluster is paused or not
ready, or a read about it fails, drops the entry instead: the next pass
records the cluster again with no hash, and queues the deploy again. An edit of
the spec changes the current hash, and the next pass queues the deploy again
even while the first one is still in progress: before queueing a deploy
`processClassifier` asks the deployer only about the cleanup of the key.
-/

set_option autoImplicit false

namespace Sveltos.Convergence
open Sveltos.Api Sveltos.KeyManager Sveltos.Reads Sveltos.Async Sveltos.Index Sveltos.Process
  Sveltos.Matching Sveltos.Deploy Sveltos.Reconcile Sveltos.System Sveltos.Status Sveltos.Registrations

def oneClusterFleet (paused : Bool) : Fleet :=
  { Fleet.quiet with
    listClusters := .ok [⟨"default", "a", false, []⟩]
    isClusterPaused := fun _ => .ok paused }

def acme : Classifier := applyClassifier "acme" ⟨[], [], []⟩ false none

def clusterA : ObjectReference := ⟨"default", "a", "", ""⟩

def acmeDeploy : DeployerKey :=
  deployerKey Externals.zero clusterA acme (classifierFeature Externals.zero) false

def provisionedWorld : World LabelQueues :=
  startWorld.run Externals.zero labelQueues
    [.apply "acme" ⟨[], [], []⟩ false, .reconcile "acme" (oneClusterFleet false),
      .complete acmeDeploy none, .reconcile "acme" (oneClusterFleet false)]

variable (ext : Externals)

def Settled (d : Deployer) (c : Classifier) (cluster : ObjectReference) (h : List UInt8) : Prop :=
  ∃ e ∈ c.status.clusterInfo, e.cluster = cluster ∧ e.hash = h ∧
    (e.status = .provisioned ∨
      (deployResultOf ext d c cluster (classifierFeature ext)).resultStatus ≠ .unavailable)

theorem settled_congr {d d' : Deployer} {c c' : Classifier} {cluster : ObjectReference}
    {h : List UInt8} (hn : c'.name = c.name)
    (hs : ∀ e ∈ c.status.clusterInfo, e ∈ c'.status.clusterInfo)
    (hd : d.SameAt d' (deployerKey ext cluster c (classifierFeature ext) false))
    (hset : Settled ext d c cluster h) : Settled ext d' c' cluster h := by
  obtain ⟨e, he, hcl, hh, hst⟩ := hset
  refine ⟨e, hs e he, hcl, hh, hst.imp_right fun hr => ?_⟩
  rwa [deployResultOf, deployerKey_congr ext cluster c c' _ false hn, hd.getResult]

section Passes

variable {σ : Type} (km : Instance σ) (r : ClassifierReconciler) (fleet : Fleet)

theorem reconcileNormal_settled (s : σ) (d : Deployer) (classifier : Classifier)
    (cluster : ObjectReference) (h : List UInt8) (hc : WellFormed classifier)
    (hl : ListsWellFormed fleet) (hset : Settled ext d classifier cluster h)
    (hh : getCurrentHash ext r.classifierReportMode fleet classifier r.controlPlaneEndpoint cluster
      (classifierFeature ext) = .ok h)
    (hp : canProceed fleet classifier cluster = .ok true)
    (hu : d.isInProgress (deployerKey ext cluster classifier (classifierFeature ext) true) = false) :
    let p := reconcileNormal ext km r fleet s d classifier
    Settled ext p.deployer p.classifier cluster h ∧ Settled ext p.deployer p.written cluster h ∧
      d.CallsSince p.deployer
        (·.request.key ≠ deployerKey ext cluster classifier (classifierFeature ext) false) ∧
      d.SameAt p.deployer (deployerKey ext cluster classifier (classifierFeature ext) true) := by
  dsimp only
  rcases reconcileNormal_cases ext km r fleet s d classifier with
    ⟨-, -, -, hd, hw, hcl, -⟩ | ⟨c1, hf, hw, -, ⟨-, hd, hcl, -⟩ | ⟨-, -, -, hd, hcl, -, -⟩⟩
  · rw [hd, hw, hcl]
    exact ⟨settled_congr ext (congrArg Prod.fst (withFinalizer_frame fleet classifier))
      (by rw [withFinalizer_status]; exact fun _ => id) (.refl d _) hset, hset, .refl d _, .refl d _⟩
  all_goals obtain ⟨hn, hs, -⟩ := withFinalizer_of_eq fleet classifier c1 none hf
  · have hm := updateMatching_clusterInfo km fleet s c1
    rw [hd, hw, hcl]
    exact ⟨settled_congr ext ((congrArg Prod.fst (updateMatching_frame km fleet s c1)).trans hn)
        (by rw [hm, hs]; exact fun _ => id) (.refl d _) hset,
      settled_congr ext hn (by rw [hs]; exact fun _ => id) (.refl d _) hset, .refl d _, .refl d _⟩
  · have hf3 := deployed_frame km fleet s classifier c1 hf
    have hm : (updateMatchingClustersAndRegistrations km fleet s c1).2.2.1.status.clusterInfo =
        classifier.status.clusterInfo := by rw [updateMatching_clusterInfo, hs]
    have hkey (b : Bool) := deployerKey_congr ext cluster classifier _ (classifierFeature ext) b
      (congrArg Prod.fst hf3)
    obtain ⟨e, he, rfl, rfl, hok⟩ := hset
    obtain ⟨hset3, hcalls, hs0, hs1⟩ := deployClassifier_settled ext r fleet _ (classifierFeature ext) d
      e e.hash (updateClusterInfo_wellFormed fleet _ (wellFormed_of_clusterInfo _ _ hm hc) hl).1
      (mem_updateClusterInfo fleet _ e (hm ▸ he)) rfl
      (by rw [getCurrentHash_congr ext _ fleet classifier _ _ _ hf3]; exact hh)
      (by rw [canProceed_congr fleet classifier _ _ hf3]; exact hp)
      (by rw [hkey]; exact hu) (by rwa [deployResultOf, hkey])
    have hout : Settled ext (deployClassifier ext r fleet _ (classifierFeature ext) d).2.1
        (deployClassifier ext r fleet (updateClusterInfo fleet
          (updateMatchingClustersAndRegistrations km fleet s c1).2.2.1).1 (classifierFeature ext) d).1
        e.cluster e.hash :=
      settled_congr ext rfl (fun _ => id) hs0 hset3
    rw [hkey] at hcalls hs0 hs1
    rw [hd, hw, hcl]
    exact ⟨hout, settled_congr ext hn (by rw [hs]; exact fun _ => id) hs0 ⟨e, he, rfl, rfl, hok⟩,
      hcalls, hs1⟩

theorem reconcile_settled (s : σ) (d : Deployer) (c : Classifier) (cluster : ObjectReference)
    (h : List UInt8) (hdc : c.deleting = false) (hc : WellFormed c) (hl : ListsWellFormed fleet)
    (hset : Settled ext d c cluster h)
    (hh : getCurrentHash ext r.classifierReportMode fleet c r.controlPlaneEndpoint cluster
      (classifierFeature ext) = .ok h)
    (hp : canProceed fleet c cluster = .ok true)
    (hu : d.isInProgress (deployerKey ext cluster c (classifierFeature ext) true) = false) :
    let o := reconcile ext km r fleet s d (some c)
    (∃ c', o.stored = some c' ∧ c'.frame = c.frame ∧ WellFormed c' ∧ Settled ext o.deployer c' cluster h) ∧
      d.CallsSince o.deployer (·.request.key ≠ deployerKey ext cluster c (classifierFeature ext) false) ∧
      d.SameAt o.deployer (deployerKey ext cluster c (classifierFeature ext) true) := by
  dsimp only
  rcases reconcile_cases ext km r fleet s d c with ⟨-, -, hd, hs⟩ | ⟨-, -, hd, hs⟩ <;> rw [hd, hs]
  · exact ⟨⟨c, rfl, rfl, hc, hset⟩, .refl d _, .refl d _⟩
  rw [show passOf ext km r fleet s d c = reconcileNormal ext km r fleet s d c by simp [passOf, hdc]]
  obtain ⟨hsc, hsw, hcalls, hs1⟩ := reconcileNormal_settled ext km r fleet s d c cluster h hc hl hset hh hp hu
  obtain ⟨hfc, hfw⟩ := reconcileNormal_frame ext km r fleet s d c
  obtain ⟨hwc, hww⟩ := reconcileNormal_wellFormed ext km r fleet s d c hc hl
  refine ⟨?_, hcalls, hs1⟩
  split
  · exact ⟨_, store_of_live _ ((congrArg (·.2.2.2) hfc).trans hdc), hfc, hwc, hsc⟩
  · exact ⟨_, store_of_live _ ((congrArg (·.2.2.2) hfw).trans hdc), hfw, hww, hsw⟩

end Passes

section Runs

variable {σ : Type} (km : Instance σ)

theorem reconcile_named_within (w : World σ) (name : String) (fleet : Fleet) :
    w.deployer.Within
      (reconcile ext km w.reconciler fleet w.keys w.deployer (w.classifiers name)).deployer
      (·.applicant = name) := by
  cases hc : w.classifiers name with
  | none => exact .refl _ _
  | some c =>
    exact (reconcile_within ext km _ fleet _ _ c).mono fun k hk => hk.trans (w.named name c hc)

variable (c0 : Classifier) (cluster : ObjectReference) (h : List UInt8) (mode : ReportMode)
  (cp : String)

structure Converged (w : World σ) : Prop where
  stored : ∃ c, w.classifiers c0.name = some c ∧ c.frame = c0.frame ∧ WellFormed c ∧
    Settled ext w.deployer c cluster h
  noCleanup : w.deployer.isInProgress (deployerKey ext cluster c0 (classifierFeature ext) true) = false
  mode : w.reconciler.classifierReportMode = mode
  endpoint : w.reconciler.controlPlaneEndpoint = cp

def Undisturbed : Event → Prop
  | .apply name spec paused => name = c0.name → spec = c0.spec ∧ paused = c0.paused
  | .delete name => name ≠ c0.name
  | .reconcile name fleet => name = c0.name → ListsWellFormed fleet ∧
      getCurrentHash ext mode fleet c0 cp cluster (classifierFeature ext) = .ok h ∧
      canProceed fleet c0 cluster = .ok true
  | .complete _ _ => True

theorem converged_frame {w w' : World σ} (hw : Converged ext c0 cluster h mode cp w)
    (hc : w'.classifiers c0.name = w.classifiers c0.name)
    (hd : ∀ b, w.deployer.SameAt w'.deployer (deployerKey ext cluster c0 (classifierFeature ext) b))
    (hm : w'.reconciler.classifierReportMode = w.reconciler.classifierReportMode)
    (hcp : w'.reconciler.controlPlaneEndpoint = w.reconciler.controlPlaneEndpoint) :
    Converged ext c0 cluster h mode cp w' := by
  obtain ⟨⟨c, hcl, hf, hwf, hset⟩, hu, hmode, hcp0⟩ := hw
  have hkey := deployerKey_congr ext cluster c0 c (classifierFeature ext) false (congrArg Prod.fst hf)
  exact ⟨⟨c, hc.trans hcl, hf, hwf, settled_congr ext rfl (fun _ => id) (by rw [hkey]; exact hd false) hset⟩,
    by rw [Deployer.isInProgress, (hd true).1]; exact hu, hm.trans hmode, hcp.trans hcp0⟩

theorem step_converged (hdel : c0.deleting = false) (w : World σ) (e : Event)
    (he : Undisturbed ext c0 cluster h mode cp e) (hw : Converged ext c0 cluster h mode cp w) :
    Converged ext c0 cluster h mode cp (World.step ext km w e) ∧
      w.deployer.CallsSince (World.step ext km w e).deployer
        (·.request.key ≠ deployerKey ext cluster c0 (classifierFeature ext) false) := by
  obtain ⟨⟨c, hc, hf, hwf, hset⟩, hu, hmode, hcp⟩ := id hw
  have hnc : c.name = c0.name := congrArg Prod.fst hf
  have hkey (b : Bool) := deployerKey_congr ext cluster c0 c (classifierFeature ext) b hnc
  cases e with
  | apply name spec paused =>
    refine ⟨?_, .refl _ _⟩
    by_cases hn : name = c0.name
    · obtain ⟨rfl, rfl⟩ := he hn
      subst hn
      refine ⟨⟨{ c with spec := c0.spec, paused := c0.paused }, by simp [World.step, hc, applyClassifier],
        ?_, wellFormed_of_clusterInfo c _ rfl hwf, settled_congr ext rfl (fun _ => id) (.refl _ _) hset⟩,
        hu, hmode, hcp⟩
      show (c.name, c0.spec, c0.paused, c.deleting) = c0.frame
      rw [hnc, show c.deleting = c0.deleting from congrArg (·.2.2.2) hf]
      rfl
    · exact converged_frame ext c0 cluster h mode cp hw
        (by simp [World.step, Function.update_noteq (Ne.symm hn)]) (fun _ => .refl _ _) rfl rfl
  | delete name =>
    exact ⟨converged_frame ext c0 cluster h mode cp hw
      (by simp [World.step, Function.update_noteq (Ne.symm he)]) (fun _ => .refl _ _) rfl rfl, .refl _ _⟩
  | reconcile name fleet =>
    obtain ⟨hcls, hrec, -, hdep⟩ := World.step_reconcile ext km w name fleet
    obtain ⟨hm', hcp'⟩ := runIndex_settings w.reconciler
      (reconcile ext km w.reconciler fleet w.keys w.deployer (w.classifiers name)).ops
    rw [← hrec] at hm' hcp'
    by_cases hn : name = c0.name
    · obtain ⟨hl, hh, hp⟩ := he hn
      subst hn
      rw [hc] at hcls hdep
      obtain ⟨⟨c', hst, hf', hwf', hset'⟩, hcalls, hs1⟩ := reconcile_settled ext km w.reconciler fleet
        w.keys w.deployer c cluster h ((congrArg (·.2.2.2) hf).trans hdel) hwf hl hset
        (by rw [hmode, hcp, getCurrentHash_congr ext mode fleet c0 c cp cluster hf]; exact hh)
        (by rw [canProceed_congr fleet c0 c cluster hf]; exact hp) (by rw [hkey]; exact hu)
      rw [← hdep, hkey] at hcalls hs1
      rw [← hdep] at hset'
      exact ⟨⟨⟨c', by rw [hcls, Function.update_same, hst], hf'.trans hf, hwf', hset'⟩,
        by rw [Deployer.isInProgress, hs1.1]; exact hu, hm'.trans hmode, hcp'.trans hcp⟩, hcalls⟩
    · have hwi := reconcile_named_within ext km w name fleet
      rw [← hdep] at hwi
      exact ⟨converged_frame ext c0 cluster h mode cp hw
        (by rw [hcls, Function.update_noteq (Ne.symm hn)])
        (fun b => hwi.2 _ fun ha => hn ha.symm) hm' hcp',
        hwi.1.mono fun call ha hk => hn (ha.symm.trans (by rw [hk]; rfl))⟩
  | complete key outcome =>
    refine ⟨⟨⟨c, hc, hf, hwf, ?_⟩, ?_, hmode, hcp⟩, w.deployer.callsSince_complete key outcome _⟩
    · obtain ⟨e, he, h1, h2, h3⟩ := hset
      exact ⟨e, he, h1, h2, h3.imp_right (w.deployer.getResult_complete _ key outcome)⟩
    · have hu' : w.deployer.inProgress (deployerKey ext cluster c0 (classifierFeature ext) true) = false := hu
      exact Bool.eq_false_iff.2 fun h' => by
        simpa [hu'] using w.deployer.complete_inProgress key _ outcome h'

/-- No redeploy of a settled cluster. Over any run from a converged world (the
classifier's entry for the cluster carries the current hash and is
`Provisioned` or backed by a held result, and no cleanup of the cluster is in
progress), in which the classifier is neither deleted nor edited beyond its
spec and annotation, and each of its passes reads a well-formed cluster list,
finds the cluster not paused and ready, and reads the same current hash, no
deploy of the classifier on the cluster is queued, and the world stays
converged. -/
theorem settled_no_redeploy (hdel : c0.deleting = false) (w : World σ) (events : List Event)
    (hevents : ∀ e ∈ events, Undisturbed ext c0 cluster h mode cp e)
    (hw : Converged ext c0 cluster h mode cp w) :
    let w' := World.run ext km w events
    (∃ new, w'.deployer.calls = w.deployer.calls ++ new ∧
      ∀ c ∈ new, c.request.key ≠ deployerKey ext cluster c0 (classifierFeature ext) false) ∧
      Converged ext c0 cluster h mode cp w' := by
  have hrun := World.run_invariant ext km
    (fun w' => Converged ext c0 cluster h mode cp w' ∧ w.deployer.CallsSince w'.deployer
      (·.request.key ≠ deployerKey ext cluster c0 (classifierFeature ext) false))
    (Undisturbed ext c0 cluster h mode cp)
    (fun w1 e he hw1 => have hs := step_converged ext km c0 cluster h mode cp hdel w1 e he hw1.1
      ⟨hs.1, hw1.2.trans hs.2⟩)
    w events hevents ⟨hw, .refl _ _⟩
  exact ⟨hrun.2, hrun.1⟩

end Runs

theorem settled_no_redeploy_provisioned :
    let events := [Event.reconcile "acme" (oneClusterFleet false), .complete acmeDeploy none,
      .reconcile "acme" (oneClusterFleet false)]
    let h := classifierHash Externals.zero acme
    acme.deleting = false ∧
      (∀ e ∈ events, Undisturbed Externals.zero acme clusterA h .collectFromManagementCluster "" e) ∧
      Converged Externals.zero acme clusterA h .collectFromManagementCluster "" provisionedWorld ∧
      let w' := provisionedWorld.run Externals.zero labelQueues events
      (∃ new, w'.deployer.calls = provisionedWorld.deployer.calls ++ new ∧
        ∀ c ∈ new, c.request.key ≠ deployerKey Externals.zero clusterA acme (classifierFeature Externals.zero) false) ∧
        Converged Externals.zero acme clusterA h .collectFromManagementCluster "" w' := by
  intro events h
  have hl : ListsWellFormed (oneClusterFleet false) := by
    intro cs hcs
    cases hcs
    exact ⟨by decide, by simp [ValidNamespace]⟩
  have hev : ∀ e ∈ events, Undisturbed Externals.zero acme clusterA h .collectFromManagementCluster "" e := by
    intro e he
    simp only [events, List.mem_cons, List.not_mem_nil, or_false] at he
    rcases he with rfl | rfl | rfl
    · exact fun _ => ⟨hl, rfl, rfl⟩
    · trivial
    · exact fun _ => ⟨hl, rfl, rfl⟩
  have hw : Converged Externals.zero acme clusterA h .collectFromManagementCluster "" provisionedWorld :=
    ⟨⟨_, rfl, by decide, by unfold WellFormed ValidNamespace; decide, by unfold Settled; decide⟩, by decide,
      rfl, rfl⟩
  exact ⟨rfl, hev, hw, settled_no_redeploy Externals.zero labelQueues acme clusterA h _ _ rfl _ events hev hw⟩

/-- Pausing the cluster for one pass drops the `Provisioned` entry of `acme`,
and the next pass, with the cluster unpaused and the spec, credentials and
endpoint unchanged, queues the deploy again. -/
theorem pause_redeploys :
    let w : World LabelQueues := provisionedWorld.run Externals.zero labelQueues
      [.reconcile "acme" (oneClusterFleet true), .reconcile "acme" (oneClusterFleet false)]
    (∃ c, provisionedWorld.classifiers "acme" = some c ∧ ∃ e ∈ c.status.clusterInfo,
      e.cluster = clusterA ∧ e.status = .provisioned ∧ e.hash = classifierHash Externals.zero c) ∧
      ∃ call ∈ w.deployer.calls.drop provisionedWorld.deployer.calls.length, call.request.key = acmeDeploy := by
  intro w
  exact ⟨⟨_, rfl, by decide⟩, by decide⟩

def Externals.labelCount : Externals :=
  ⟨fun _ => .capi, fun spec => [spec.classifierLabels.length.toUInt8], fun b => (b ++ List.replicate 32 0).take 32,
    fun b => by simp⟩

/-- `acme` is edited while its first deploy on `default/a` is still running:
the next pass finds the recorded hash outdated and queues that deploy again,
while it is in progress. -/
theorem deploy_while_deploy_in_flight :
    let w : World LabelQueues := startWorld.run Externals.labelCount labelQueues
      [.apply "acme" ⟨[], [], []⟩ false, .reconcile "acme" (oneClusterFleet false),
        .apply "acme" ⟨[], [], [⟨"team", "payments"⟩]⟩ false]
    let w' := w.step Externals.labelCount labelQueues (.reconcile "acme" (oneClusterFleet false))
    w.deployer.inProgress acmeDeploy = true ∧
      ∃ call ∈ w'.deployer.calls.drop w.deployer.calls.length, call.request.key = acmeDeploy := by
  decide

end Sveltos.Convergence
