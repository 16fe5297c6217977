import SveltosClassifier.Process

/-!
# Deploying to and removing from every cluster

`deployClassifier` runs `processClassifier` on every entry of
`Status.ClusterInfo` and rebuilds the list from what it returns: a cluster it
could not process loses its entry. `undeployClassifier` runs
`removeClassifier` on every cluster that still exists and keeps an entry only
for the clusters not yet cleaned up.
-/

set_option autoImplicit false

namespace Sveltos.Deploy
open Sveltos.Api Sveltos.Reads Sveltos.Async Sveltos.Index Sveltos.Process

structure DeployAcc where
  errorSeen : Option GoError
  allDeployed : Bool
  clusterInfo : List ClusterInfo
  deployer : Deployer

section Loop

variable (ext : Externals) (r : ClassifierReconciler) (fleet : Fleet) (classifier : Classifier)
  (f : Feature)

def noteError (errorSeen : Option GoError) (out : Option ClusterInfo × Option GoError) :
    Option GoError :=
  match out.2 with
  | some e => some e
  | none => errorSeen

def noteDeployed (allDeployed : Bool) (out : Option ClusterInfo × Option GoError) : Bool :=
  match out.1 with
  | some ci => allDeployed && ci.status == .provisioned
  | none => allDeployed

def deployStep (acc : DeployAcc) (c : ClusterInfo) : DeployAcc :=
  match processClassifier ext r fleet acc.deployer classifier r.controlPlaneEndpoint c.cluster f with
  | (out, d) =>
    { errorSeen := noteError acc.errorSeen out
      allDeployed := noteDeployed acc.allDeployed out
      clusterInfo := acc.clusterInfo ++ out.1.toList
      deployer := d }

def stillQueued : GoError :=
  .message "request to deploy Classifier is still queued in one ore more clusters"

/-- `deployClassifier`: the classifier with its new `Status.ClusterInfo`, the
deployer, and the error it returns. -/
def deployClassifier (d : Deployer) : Classifier × Deployer × Option GoError :=
  let acc := classifier.status.clusterInfo.foldl (deployStep ext r fleet classifier f)
    ⟨none, true, [], d⟩
  (classifier.setClusterInfo acc.clusterInfo, acc.deployer,
    match acc.errorSeen with
    | some e => some e
    | none => if acc.allDeployed then none else some stillQueued)

def processAll : Deployer → List ClusterInfo → List (Option ClusterInfo × Option GoError) × Deployer
  | d, [] => ([], d)
  | d, c :: cs =>
    match processClassifier ext r fleet d classifier r.controlPlaneEndpoint c.cluster f with
    | (out, d') =>
      let (outs, d'') := processAll d' cs
      (out :: outs, d'')

theorem foldl_deployStep (acc : DeployAcc) (cs : List ClusterInfo) :
    cs.foldl (deployStep ext r fleet classifier f) acc =
      { errorSeen := (processAll ext r fleet classifier f acc.deployer cs).1.foldl noteError acc.errorSeen
        allDeployed := (processAll ext r fleet classifier f acc.deployer cs).1.foldl noteDeployed
          acc.allDeployed
        clusterInfo := acc.clusterInfo ++ (processAll ext r fleet classifier f acc.deployer cs).1.filterMap (·.1)
        deployer := (processAll ext r fleet classifier f acc.deployer cs).2 } := by
  induction cs generalizing acc with
  | nil => simp [processAll]
  | cons c cs ih =>
    rw [List.foldl_cons, ih]
    simp only [deployStep, processAll, List.foldl_cons, List.filterMap_cons]
    rcases processClassifier ext r fleet acc.deployer classifier r.controlPlaneEndpoint c.cluster f
      with ⟨⟨_ | ci, e⟩, d⟩ <;> simp

theorem foldl_noteError_eq_none (outs : List (Option ClusterInfo × Option GoError))
    (acc : Option GoError) :
    outs.foldl noteError acc = none ↔ acc = none ∧ ∀ o ∈ outs, o.2 = none := by
  induction outs generalizing acc with
  | nil => simp
  | cons o outs ih =>
    rw [List.foldl_cons, ih]
    rcases o with ⟨_, _ | e⟩ <;> simp [noteError, and_assoc]

theorem foldl_noteDeployed_eq_true (outs : List (Option ClusterInfo × Option GoError)) (acc : Bool) :
    outs.foldl noteDeployed acc = true ↔
      acc = true ∧ ∀ ci ∈ outs.filterMap (·.1), ci.status = .provisioned := by
  induction outs generalizing acc with
  | nil => simp
  | cons o outs ih =>
    rw [List.foldl_cons, ih]
    rcases o with ⟨_ | ci, _⟩ <;> simp [noteDeployed, and_assoc]

theorem processAll_length (d : Deployer) (cs : List ClusterInfo) :
    (processAll ext r fleet classifier f d cs).1.length = cs.length := by
  induction cs generalizing d with
  | nil => rfl
  | cons c cs ih => simp [processAll, ih]

theorem processAll_call (d : Deployer) (cs : List ClusterInfo) :
    ∀ p ∈ cs.zip (processAll ext r fleet classifier f d cs).1, ∃ d',
      p.2 = (processClassifier ext r fleet d' classifier r.controlPlaneEndpoint p.1.cluster f).1 := by
  induction cs generalizing d with
  | nil => simp
  | cons c cs ih =>
    intro p hp
    simp only [processAll, List.zip_cons_cons, List.mem_cons] at hp
    rcases hp with rfl | hp
    · exact ⟨d, rfl⟩
    · exact ih _ p hp

theorem processAll_cons (d : Deployer) (c : ClusterInfo) (cs : List ClusterInfo) :
    processAll ext r fleet classifier f d (c :: cs) =
      let p := processClassifier ext r fleet d classifier r.controlPlaneEndpoint c.cluster f
      (p.1 :: (processAll ext r fleet classifier f p.2 cs).1, (processAll ext r fleet classifier f p.2 cs).2) :=
  rfl

theorem processAll_sublist (d : Deployer) (cs : List ClusterInfo) :
    (((processAll ext r fleet classifier f d cs).1.filterMap (·.1)).map (·.cluster)).Sublist
      (cs.map (·.cluster)) := by
  induction cs generalizing d with
  | nil => simp [processAll]
  | cons c cs ih =>
    simp only [processAll, List.filterMap_cons, List.map_cons]
    rcases ho : (processClassifier ext r fleet d classifier r.controlPlaneEndpoint c.cluster f).1.1
      with _ | ci
    · simp only [ho]; exact (ih _).cons _
    · simp only [ho, List.map_cons]
      rw [processClassifier_cluster ext r fleet d classifier _ c.cluster f ci ho]
      exact (ih _).cons₂ _

theorem deployClassifier_fst (d : Deployer) :
    (deployClassifier ext r fleet classifier f d).1 =
      classifier.setClusterInfo (deployClassifier ext r fleet classifier f d).1.status.clusterInfo :=
  rfl

theorem deployClassifier_sublist (d : Deployer) :
    ((deployClassifier ext r fleet classifier f d).1.status.clusterInfo.map (·.cluster)).Sublist
      (classifier.status.clusterInfo.map (·.cluster)) := by
  simpa [deployClassifier, foldl_deployStep] using processAll_sublist ext r fleet classifier f d _

theorem processAll_rel (R : Deployer → Deployer → Prop) (hrefl : ∀ d, R d d)
    (htrans : ∀ {d₁ d₂ d₃}, R d₁ d₂ → R d₂ d₃ → R d₁ d₃) (cs : List ClusterInfo)
    (hstep : ∀ d, ∀ c ∈ cs,
      R d (processClassifier ext r fleet d classifier r.controlPlaneEndpoint c.cluster f).2)
    (d : Deployer) : R d (processAll ext r fleet classifier f d cs).2 := by
  induction cs generalizing d with
  | nil => exact hrefl d
  | cons c cs ih =>
    exact htrans (hstep d c (List.mem_cons_self c cs))
      (ih (fun d c hc => hstep d c (List.mem_cons_of_mem _ hc)) _)

theorem processAll_between (R : Deployer → Deployer → Prop) (hrefl : ∀ d, R d d)
    (htrans : ∀ {d₁ d₂ d₃}, R d₁ d₂ → R d₂ d₃ → R d₁ d₃) (cs : List ClusterInfo)
    (hstep : ∀ d, ∀ c ∈ cs,
      R d (processClassifier ext r fleet d classifier r.controlPlaneEndpoint c.cluster f).2)
    (d : Deployer) (ci : ClusterInfo) (hci : ci ∈ (processAll ext r fleet classifier f d cs).1.filterMap (·.1)) :
    ∃ c ∈ cs, ∃ d₁, R d d₁ ∧
      (processClassifier ext r fleet d₁ classifier r.controlPlaneEndpoint c.cluster f).1.1 = some ci ∧
      R (processClassifier ext r fleet d₁ classifier r.controlPlaneEndpoint c.cluster f).2
        (processAll ext r fleet classifier f d cs).2 := by
  induction cs generalizing d with
  | nil => cases hci
  | cons c cs ih =>
    have htail := fun d => processAll_rel ext r fleet classifier f R hrefl htrans cs
      (fun d c hc => hstep d c (List.mem_cons_of_mem _ hc)) d
    rw [processAll_cons] at hci ⊢
    dsimp only at hci ⊢
    rw [List.filterMap_cons] at hci
    -- the entry is the first call's, or one of the later calls'
    have hmem : (processClassifier ext r fleet d classifier r.controlPlaneEndpoint c.cluster f).1.1 = some ci ∨
        ci ∈ (processAll ext r fleet classifier f
          (processClassifier ext r fleet d classifier r.controlPlaneEndpoint c.cluster f).2 cs).1.filterMap (·.1) := by
      rcases ho : (processClassifier ext r fleet d classifier r.controlPlaneEndpoint c.cluster f).1.1
        with _ | ci' <;> simp only [ho, List.mem_cons] at hci
      · exact .inr hci
      · exact hci.imp (fun h => by rw [h]) id
    rcases hmem with ho | hci
    · exact ⟨c, List.mem_cons_self _ _, d, hrefl d, ho, htail _⟩
    · obtain ⟨c', hc', d₁, h₁, h₂, h₃⟩ := ih (fun d c hc => hstep d c (List.mem_cons_of_mem _ hc)) _ hci
      exact ⟨c', List.mem_cons_of_mem _ hc', d₁, htrans (hstep d c (List.mem_cons_self _ _)) h₁, h₂, h₃⟩

theorem deployClassifier_entries (R : Deployer → Deployer → Prop) (hrefl : ∀ d, R d d)
    (htrans : ∀ {d₁ d₂ d₃}, R d₁ d₂ → R d₂ d₃ → R d₁ d₃)
    (hstep : ∀ d, ∀ c ∈ classifier.status.clusterInfo,
      R d (processClassifier ext r fleet d classifier r.controlPlaneEndpoint c.cluster f).2)
    (d : Deployer) (ci : ClusterInfo) (hci : ci ∈ (deployClassifier ext r fleet classifier f d).1.status.clusterInfo) :
    ∃ c ∈ classifier.status.clusterInfo, ∃ d₁, R d d₁ ∧
      (processClassifier ext r fleet d₁ classifier r.controlPlaneEndpoint c.cluster f).1.1 = some ci ∧
      R (processClassifier ext r fleet d₁ classifier r.controlPlaneEndpoint c.cluster f).2
        (deployClassifier ext r fleet classifier f d).2.1 := by
  simp only [deployClassifier, foldl_deployStep, Classifier.setClusterInfo, List.nil_append] at hci ⊢
  exact processAll_between ext r fleet classifier f R hrefl htrans _ hstep d ci hci

theorem deployClassifier_deploys (d : Deployer) :
    DeploysBy (DeployCall r) d (deployClassifier ext r fleet classifier f d).2.1 := by
  simpa [deployClassifier, foldl_deployStep] using
    processAll_rel ext r fleet classifier f _ DeploysBy.refl (fun h h' => h.trans h') _
      (fun d c _ => processClassifier_deploys ext r fleet d classifier _ c.cluster f) d

theorem admitted_processAll (d : Deployer) (cs : List ClusterInfo) :
    d.Admitted (processAll ext r fleet classifier f d cs).2 :=
  processAll_rel ext r fleet classifier f _ Deployer.Admitted.refl (fun h h' => h.trans h') cs
    (fun d c _ => admitted_processClassifier ext r fleet d classifier _ c.cluster f) d

theorem admitted_deployClassifier (d : Deployer) :
    d.Admitted (deployClassifier ext r fleet classifier f d).2.1 := by
  simpa [deployClassifier, foldl_deployStep] using admitted_processAll ext r fleet classifier f d _

theorem processAll_keys (d : Deployer) (cs : List ClusterInfo) :
    d.Within (processAll ext r fleet classifier f d cs).2
      fun k => ∃ e ∈ cs, k = deployerKey ext e.cluster classifier f false :=
  processAll_rel ext r fleet classifier f (fun d d' => d.Within d' _) (fun d => .refl d _)
    (fun h h' => h.trans h') cs
    (fun d c hc => (processClassifier_within ext r fleet d classifier _ c.cluster f).mono
      fun _ hk => ⟨c, hc, hk⟩) d

theorem processAll_within (d : Deployer) (cs : List ClusterInfo) :
    d.Within (processAll ext r fleet classifier f d cs).2 (·.applicant = classifier.name) :=
  (processAll_keys ext r fleet classifier f d cs).mono fun _ ⟨_, _, hk⟩ => by rw [hk]; rfl

theorem deployClassifier_within (d : Deployer) :
    d.Within (deployClassifier ext r fleet classifier f d).2.1 (·.applicant = classifier.name) := by
  simpa [deployClassifier, foldl_deployStep] using processAll_within ext r fleet classifier f d _

theorem deployerKey_ne (a b : ObjectReference) (x y : Bool)
    (h : (a.namespace, a.name) ≠ (b.namespace, b.name)) :
    deployerKey ext a classifier f x ≠ deployerKey ext b classifier f y := by
  intro he
  simp only [deployerKey, DeployerKey.mk.injEq] at he
  exact h (by rw [he.1, he.2.1])

theorem processAll_settled (d : Deployer) (cs : List ClusterInfo) (e : ClusterInfo) (h : List UInt8)
    (hnd : (cs.map fun c => (c.cluster.namespace, c.cluster.name)).Nodup) (he : e ∈ cs)
    (hh : getCurrentHash ext r.classifierReportMode fleet classifier r.controlPlaneEndpoint e.cluster f =
      .ok h)
    (hp : canProceed fleet classifier e.cluster = .ok true)
    (hu : d.isInProgress (deployerKey ext e.cluster classifier f true) = false)
    (hs : getClassifierInClusterHashAndStatus classifier e.cluster = (h, some e.status))
    (hok : e.status = .provisioned ∨
      (deployResultOf ext d classifier e.cluster f).resultStatus ≠ .unavailable) :
    let out := processAll ext r fleet classifier f d cs
    (∃ ci ∈ out.1.filterMap (·.1), ci.cluster = e.cluster ∧ ci.hash = h ∧
      (ci.status = .provisioned ∨
        (deployResultOf ext d classifier e.cluster f).resultStatus ≠ .unavailable)) ∧
    d.CallsSince out.2 (fun c => c.request.key ≠ deployerKey ext e.cluster classifier f false) ∧
    d.SameAt out.2 (deployerKey ext e.cluster classifier f false) ∧
    d.SameAt out.2 (deployerKey ext e.cluster classifier f true) := by
  induction cs generalizing d with
  | nil => cases he
  | cons c cs ih =>
    rw [List.map_cons, List.nodup_cons] at hnd
    have hne : ∀ e' ∈ cs, (e'.cluster.namespace, e'.cluster.name) ≠ (c.cluster.namespace, c.cluster.name) :=
      fun e' he' h' => hnd.1 (h' ▸ List.mem_map_of_mem _ he')
    rw [processAll_cons]
    dsimp only
    rcases List.mem_cons.1 he with rfl | he
    · obtain ⟨hd, ci, hci, hrest⟩ := processClassifier_settled ext r fleet d classifier
        r.controlPlaneEndpoint e.cluster f h e.status hh hp hu hs hok
      rw [hd]
      refine ⟨⟨ci, List.mem_filterMap.2 ⟨_, List.mem_cons_self _ _, hci⟩, hrest⟩, ?_, ?_, ?_⟩
      · exact (processAll_keys ext r fleet classifier f d cs).1.mono fun call ⟨e', he', hk⟩ =>
          hk ▸ deployerKey_ne ext classifier f _ _ _ _ (hne e' he')
      all_goals exact (processAll_keys ext r fleet classifier f d cs).2 _ fun ⟨e', he', hk⟩ =>
        deployerKey_ne ext classifier f _ _ _ _ (hne e' he').symm hk
    · have hw := processClassifier_within ext r fleet d classifier r.controlPlaneEndpoint c.cluster f
      have hsame (b : Bool) := hw.2 (deployerKey ext e.cluster classifier f b)
        (deployerKey_ne ext classifier f _ _ _ _ (hne e he))
      have hres := (hsame false).getResult
      obtain ⟨⟨ci, hci, hrest⟩, hcs, hs0, hs1⟩ := ih _ hnd.2 he
        (by rw [Deployer.isInProgress, (hsame true).1]; exact hu)
        (by rw [deployResultOf, hres]; exact hok)
      obtain ⟨o, ho, hoc⟩ := List.mem_filterMap.1 hci
      exact ⟨⟨ci, List.mem_filterMap.2 ⟨o, List.mem_cons_of_mem _ ho, hoc⟩, by rwa [deployResultOf, hres] at hrest⟩,
        (hw.1.mono fun call hk => hk ▸ deployerKey_ne ext classifier f _ _ _ _ (hne e he).symm).trans hcs,
        (hsame false).trans hs0, (hsame true).trans hs1⟩

theorem deployClassifier_settled (d : Deployer) (e : ClusterInfo) (h : List UInt8)
    (hnd : (classifier.status.clusterInfo.map fun c => (c.cluster.namespace, c.cluster.name)).Nodup)
    (he : e ∈ classifier.status.clusterInfo) (hhash : e.hash = h)
    (hh : getCurrentHash ext r.classifierReportMode fleet classifier r.controlPlaneEndpoint e.cluster f =
      .ok h)
    (hp : canProceed fleet classifier e.cluster = .ok true)
    (hu : d.isInProgress (deployerKey ext e.cluster classifier f true) = false)
    (hok : e.status = .provisioned ∨
      (deployResultOf ext d classifier e.cluster f).resultStatus ≠ .unavailable) :
    let out := deployClassifier ext r fleet classifier f d
    (∃ ci ∈ out.1.status.clusterInfo, ci.cluster = e.cluster ∧ ci.hash = h ∧
      (ci.status = .provisioned ∨
        (deployResultOf ext d classifier e.cluster f).resultStatus ≠ .unavailable)) ∧
    d.CallsSince out.2.1 (fun c => c.request.key ≠ deployerKey ext e.cluster classifier f false) ∧
    d.SameAt out.2.1 (deployerKey ext e.cluster classifier f false) ∧
    d.SameAt out.2.1 (deployerKey ext e.cluster classifier f true) := by
  have hs := getClassifierInClusterHashAndStatus_of_mem classifier e hnd he
  rw [hhash] at hs
  simpa [deployClassifier, foldl_deployStep] using
    processAll_settled ext r fleet classifier f d _ e h hnd he hh hp hu hs hok

theorem deployClassifier_err_of_call (d : Deployer)
    (o : Option ClusterInfo × Option GoError)
    (ho : o ∈ (processAll ext r fleet classifier f d classifier.status.clusterInfo).1)
    (he : o.2 ≠ none) : (deployClassifier ext r fleet classifier f d).2.2 ≠ none := by
  have hn : (processAll ext r fleet classifier f d classifier.status.clusterInfo).1.foldl
      noteError none ≠ none := fun h => he (((foldl_noteError_eq_none _ _).1 h).2 o ho)
  simp only [deployClassifier, foldl_deployStep]
  rcases hf : (processAll ext r fleet classifier f d classifier.status.clusterInfo).1.foldl
    noteError none with _ | e
  · exact absurd hf hn
  · simp

/-- `deployClassifier` keeps, in order, the entries `processClassifier`
returned and drops the clusters it returned none for; it returns nil exactly
when no call failed and every entry kept is `Provisioned`. -/
theorem deployClassifier_aggregate (d : Deployer) :
    let outs := (processAll ext r fleet classifier f d classifier.status.clusterInfo).1
    let out := deployClassifier ext r fleet classifier f d
    outs.length = classifier.status.clusterInfo.length ∧
      (∀ p ∈ classifier.status.clusterInfo.zip outs, ∃ d',
        p.2 = (processClassifier ext r fleet d' classifier r.controlPlaneEndpoint p.1.cluster f).1) ∧
      out.1.status.clusterInfo = outs.filterMap (·.1) ∧
      (out.2.2 = none ↔
        (∀ o ∈ outs, o.2 = none) ∧ ∀ ci ∈ out.1.status.clusterInfo, ci.status = .provisioned) := by
  dsimp only
  refine ⟨processAll_length .., processAll_call ext r fleet classifier f d _, ?_, ?_⟩ <;>
    simp only [deployClassifier, foldl_deployStep, setClusterInfo_clusterInfo, List.nil_append]
  set outs := (processAll ext r fleet classifier f d classifier.status.clusterInfo).1
  rcases he : outs.foldl noteError none with _ | e
  · have hd : outs.foldl noteDeployed true = true ↔
        ∀ ci ∈ outs.filterMap (·.1), ci.status = .provisioned := by
      simpa using foldl_noteDeployed_eq_true outs true
    rw [← hd, and_iff_right ((foldl_noteError_eq_none outs none).1 he).2]
    cases outs.foldl noteDeployed true <;> simp
  · exact iff_of_false (by simp) fun h => by
      simp [(foldl_noteError_eq_none outs none).2 ⟨rfl, h.1⟩] at he

end Loop

/-- The Provisioned entry of a paused cluster is dropped, and nil is returned. -/
theorem deployClassifier_drops_paused :
    let cluster : ObjectReference := ⟨"default", "a", "Cluster", "cluster.x-k8s.io/v1beta1"⟩
    let classifier : Classifier := ⟨"acme", ⟨[], [], []⟩, [ClassifierFinalizer], false, false,
      ⟨[⟨cluster, [], .provisioned, none⟩], []⟩⟩
    let fleet : Fleet := { Fleet.quiet with isClusterPaused := fun _ => .ok true }
    let out := deployClassifier Externals.zero (.init .collectFromManagementCluster "") fleet classifier
      (classifierFeature Externals.zero) Deployer.idle
    out.1.status.clusterInfo = [] ∧ out.2.2 = none := by
  decide

section Undeploy

variable (ext : Externals) (fleet : Fleet) (classifier : Classifier) (f : Feature)

def existingClusters : List ClusterInfo → Except GoError (List ObjectReference)
  | [] => .ok []
  | c :: cs =>
    match fleet.getCluster c.cluster with
    | some e => if isNotFound e then existingClusters cs else .error e
    | none => (existingClusters cs).map (c.cluster :: ·)

def removeFromClusters : Deployer → List ObjectReference → List ClusterInfo × Deployer
  | d, [] => ([], d)
  | d, c :: cs =>
    match removeClassifier ext fleet d classifier c f with
    | (err, d') =>
      let (infos, d'') := removeFromClusters d' cs
      match err with
      | some e => (⟨c, [], .removing, some e.text⟩ :: infos, d'')
      | none => (infos, d'')

def stillRemoving (n : Nat) : GoError :=
  .message ("still in the process of removing Classifier from " ++ toString n ++ " clusters")

/-- `undeployClassifier`: the classifier with its new status, the deployer,
and the error it returns. -/
def undeployClassifier (d : Deployer) : Classifier × Deployer × Option GoError :=
  match existingClusters fleet classifier.status.clusterInfo with
  | .error e => (classifier, d, some e)
  | .ok clusters =>
    match removeFromClusters ext fleet classifier f d clusters with
    | (infos, d') =>
      if infos.length ≠ 0 then
        (classifier.setMachingClusterStatuses (infos.map fun ci => ⟨ci.cluster, [], []⟩), d',
          some (stillRemoving infos.length))
      else (classifier.setClusterInfo infos, d', none)

theorem existingClusters_eq_ok (cs : List ClusterInfo) (clusters : List ObjectReference)
    (h : existingClusters fleet cs = .ok clusters) :
    ∀ ci ∈ cs, fleet.getCluster ci.cluster = some .notFound ∨ ci.cluster ∈ clusters := by
  induction cs generalizing clusters with
  | nil => simp
  | cons c cs ih =>
    simp only [existingClusters] at h
    intro ci hci
    rcases hg : fleet.getCluster c.cluster with _ | e
    · rw [hg] at h
      rcases hr : existingClusters fleet cs with _ | cls <;> rw [hr] at h <;> cases h
      rcases List.mem_cons.1 hci with rfl | hci
      · exact .inr (List.mem_cons_self _ _)
      · exact (ih cls hr ci hci).imp_right (List.mem_cons_of_mem _)
    · rw [hg] at h
      cases e with
      | notFound =>
        rcases List.mem_cons.1 hci with rfl | hci
        · exact .inl hg
        · exact ih clusters h ci hci
      | message _ => cases h

theorem removeFromClusters_eq_nil (d : Deployer) (cs : List ObjectReference)
    (h : (removeFromClusters ext fleet classifier f d cs).1 = []) :
    (removeFromClusters ext fleet classifier f d cs).2 = d ∧
      ∀ c ∈ cs, (removeClassifier ext fleet d classifier c f).1 = none := by
  induction cs generalizing d with
  | nil => simp [removeFromClusters]
  | cons c cs ih =>
    simp only [removeFromClusters] at h ⊢
    rcases hc : removeClassifier ext fleet d classifier c f with ⟨_ | e, d'⟩ <;> simp only [hc] at h ⊢
    · have hd : d' = d := by
        simpa [hc] using removeClassifier_deployer_of_eq_none ext fleet d classifier c f (by simp [hc])
      subst hd
      simpa [hc] using ih d' h
    · cases h

theorem undeployClassifier_eq_none (d : Deployer)
    (h : (undeployClassifier ext fleet classifier f d).2.2 = none) :
    (undeployClassifier ext fleet classifier f d).2.1 = d ∧
      ∀ ci ∈ classifier.status.clusterInfo, fleet.getCluster ci.cluster = some .notFound ∨
        (removeClassifier ext fleet d classifier ci.cluster f).1 = none := by
  unfold undeployClassifier at h ⊢
  rcases he : existingClusters fleet classifier.status.clusterInfo with e | clusters <;>
    simp only [he] at h ⊢
  · cases h
  · have hr := removeFromClusters_eq_nil ext fleet classifier f d clusters
    rcases hc : removeFromClusters ext fleet classifier f d clusters with ⟨infos, d'⟩
    simp only [hc] at h hr ⊢
    split at h
    · cases h
    · rename_i hl
      obtain rfl : infos = [] := List.length_eq_zero.1 (not_not.1 hl)
      obtain ⟨rfl, hall⟩ := hr rfl
      refine ⟨by simp, fun ci hci => ?_⟩
      exact (existingClusters_eq_ok fleet _ clusters he ci hci).imp_right (hall _)

theorem removeFromClusters_rel (R : Deployer → Deployer → Prop) (hrefl : ∀ d, R d d)
    (htrans : ∀ {d₁ d₂ d₃}, R d₁ d₂ → R d₂ d₃ → R d₁ d₃)
    (hstep : ∀ d c, R d (removeClassifier ext fleet d classifier c f).2) (d : Deployer)
    (cs : List ObjectReference) : R d (removeFromClusters ext fleet classifier f d cs).2 := by
  induction cs generalizing d with
  | nil => exact hrefl d
  | cons c cs ih =>
    have h := htrans (hstep d c) (ih (removeClassifier ext fleet d classifier c f).2)
    rcases hp : removeClassifier ext fleet d classifier c f with ⟨_ | e, d'⟩ <;> rw [hp] at h <;>
      simpa [removeFromClusters, hp] using h

theorem undeployClassifier_rel (R : Deployer → Deployer → Prop) (hrefl : ∀ d, R d d)
    (htrans : ∀ {d₁ d₂ d₃}, R d₁ d₂ → R d₂ d₃ → R d₁ d₃)
    (hstep : ∀ d c, R d (removeClassifier ext fleet d classifier c f).2) (d : Deployer) :
    R d (undeployClassifier ext fleet classifier f d).2.1 := by
  unfold undeployClassifier
  rcases existingClusters fleet classifier.status.clusterInfo with e | clusters
  · exact hrefl d
  · have h := removeFromClusters_rel ext fleet classifier f R hrefl htrans hstep d clusters
    rcases removeFromClusters ext fleet classifier f d clusters with ⟨infos, d'⟩
    dsimp only
    split <;> exact h

theorem undeployClassifier_within (d : Deployer) :
    d.Within (undeployClassifier ext fleet classifier f d).2.1 (·.applicant = classifier.name) :=
  undeployClassifier_rel ext fleet classifier f (fun d d' => d.Within d' _) (fun d => .refl d _)
    (fun h h' => h.trans h')
    (fun d c => (removeClassifier_within ext fleet d classifier c f).mono fun k hk => by rw [hk]; rfl) d

theorem undeployClassifier_deploys (d : Deployer) :
    DeploysBy UndeployCall d (undeployClassifier ext fleet classifier f d).2.1 :=
  undeployClassifier_rel ext fleet classifier f _ DeploysBy.refl (fun h h' => h.trans h')
    (fun d c => removeClassifier_deploys ext fleet d classifier c f) d

theorem admitted_undeployClassifier (d : Deployer) :
    d.Admitted (undeployClassifier ext fleet classifier f d).2.1 :=
  undeployClassifier_rel ext fleet classifier f _ Deployer.Admitted.refl (fun h h' => h.trans h')
    (fun d c => admitted_removeClassifier ext fleet d classifier c f) d

theorem undeployClassifier_fst (d : Deployer) :
    (undeployClassifier ext fleet classifier f d).1 =
        { classifier with status := (undeployClassifier ext fleet classifier f d).1.status } ∧
      ((undeployClassifier ext fleet classifier f d).1.status.clusterInfo = classifier.status.clusterInfo ∨
        (undeployClassifier ext fleet classifier f d).1.status.clusterInfo = []) := by
  unfold undeployClassifier
  rcases existingClusters fleet classifier.status.clusterInfo with e | clusters
  · exact ⟨rfl, .inl rfl⟩
  · rcases hr : removeFromClusters ext fleet classifier f d clusters with ⟨infos, d'⟩
    simp only [hr]
    split
    · exact ⟨rfl, .inl rfl⟩
    · rename_i hl
      obtain rfl : infos = [] := List.length_eq_zero.1 (not_not.1 hl)
      exact ⟨rfl, .inr rfl⟩

end Undeploy

end Sveltos.Deploy
