import SveltosClassifier.Reads
import SveltosClassifier.Async
import SveltosClassifier.Index

/-!
# One classifier on one cluster

`processClassifier` decides, for one cluster, whether the classifier's last
deployment there still stands, is still running, has failed, or must be
queued again. `removeClassifier` is its mirror on deletion. Both refuse to
queue a request while the opposite request for the same key is in progress.
A deploy is queued while the deploy of its own key is in progress only when
the hash recorded for the cluster is not the current one.
-/

set_option autoImplicit false

namespace Sveltos.Process
open Sveltos.Api Sveltos.Reads Sveltos.Async Sveltos.Index

def deployerKey (ext : Externals) (cluster : ObjectReference) (classifier : Classifier)
    (f : Feature) (cleanup : Bool) : DeployerKey :=
  ⟨cluster.namespace, cluster.name, classifier.name, f.id, ext.getClusterType cluster, cleanup⟩

theorem deployerKey_congr (ext : Externals) (cluster : ObjectReference) (c c' : Classifier)
    (f : Feature) (cleanup : Bool) (hn : c'.name = c.name) :
    deployerKey ext cluster c' f cleanup = deployerKey ext cluster c f cleanup := by
  rw [deployerKey, hn, deployerKey]

def convertResultStatus (result : Result) : Option ClassifierFeatureStatus :=
  match result.resultStatus with
  | .deployed => some .provisioned
  | .failed => some .failed
  | .inProgress => some .provisioning
  | .removed => some .removed
  | .unavailable => none

/-- `getClassifierInClusterHashAndStatus`: the hash and status recorded for the
cluster by the first entry naming it, `nil` and `nil` when none does. -/
def getClassifierInClusterHashAndStatus (classifier : Classifier) (cluster : ObjectReference) :
    List UInt8 × Option ClassifierFeatureStatus :=
  match classifier.status.clusterInfo.find? (fun c =>
      c.cluster.namespace == cluster.namespace && c.cluster.name == cluster.name &&
      c.cluster.apiVersion == cluster.apiVersion && c.cluster.kind == cluster.kind) with
  | some c => (c.hash, some c.status)
  | none => ([], none)

theorem getClassifierInClusterHashAndStatus_of_mem (classifier : Classifier) (e : ClusterInfo)
    (hnd : (classifier.status.clusterInfo.map fun c => (c.cluster.namespace, c.cluster.name)).Nodup)
    (he : e ∈ classifier.status.clusterInfo) :
    getClassifierInClusterHashAndStatus classifier e.cluster = (e.hash, some e.status) := by
  unfold getClassifierInClusterHashAndStatus
  split
  · rename_i x hx
    have hp := List.find?_some hx
    simp only [Bool.and_eq_true, beq_iff_eq] at hp
    obtain rfl : x = e := List.inj_on_of_nodup_map hnd (List.mem_of_find?_eq_some hx) he
      (by simp [hp.1.1.1, hp.1.1.2])
    rfl
  · rename_i hx
    exact absurd (List.find?_eq_none.1 hx e he) (by simp)

theorem getClassifierInClusterHashAndStatus_cases (classifier : Classifier) (cluster : ObjectReference) :
    getClassifierInClusterHashAndStatus classifier cluster = ([], none) ∨
      ∃ e ∈ classifier.status.clusterInfo, e.cluster = cluster ∧
        getClassifierInClusterHashAndStatus classifier cluster = (e.hash, some e.status) := by
  unfold getClassifierInClusterHashAndStatus
  split
  · rename_i e he
    have hp := List.find?_some he
    simp only [Bool.and_eq_true, beq_iff_eq] at hp
    refine .inr ⟨e, List.mem_of_find?_eq_some he, ?_, rfl⟩
    obtain ⟨⟨⟨h1, h2⟩, h3⟩, h4⟩ := hp
    obtain ⟨⟨⟩, _⟩ := e
    cases cluster
    simp_all
  · exact .inl rfl

def deployRequest (r : ClassifierReconciler) (key : DeployerKey) : Request :=
  match r.classifierReportMode with
  | .collectFromManagementCluster => ⟨key, .deployClassifierInCluster, ⟨[]⟩⟩
  | .agentSendReportsNoGateway =>
    ⟨key, .deployClassifierWithKubeconfigInCluster,
      ⟨[("controlplaneendpoint-key", r.controlPlaneEndpoint)]⟩⟩

theorem deployRequest_key (r : ClassifierReconciler) (key : DeployerKey) :
    (deployRequest r key).key = key := by
  unfold deployRequest; split <;> rfl

def DeployCall (r : ClassifierReconciler) (req : Request) : Prop :=
  ∃ k, k.cleanup = false ∧ req = deployRequest r k

def UndeployCall (req : Request) : Prop :=
  ∃ k, k.cleanup = true ∧ req = ⟨k, .undeployClassifierFromCluster, ⟨[]⟩⟩

theorem DeployCall.directed {r : ClassifierReconciler} {req : Request} (h : DeployCall r req) :
    Directed false req := by
  obtain ⟨k, hk, rfl⟩ := h
  unfold deployRequest
  split <;> exact ⟨hk, by simp⟩

theorem UndeployCall.directed {req : Request} (h : UndeployCall req) : Directed true req := by
  obtain ⟨k, hk, rfl⟩ := h
  exact ⟨hk, iff_of_true rfl rfl⟩

def deployIfNeeded (ext : Externals) (r : ClassifierReconciler) (d : Deployer)
    (classifier : Classifier) (cluster : ObjectReference) (f : Feature) (currentHash : List UInt8) :
    (Option ClusterInfo × Option GoError) × Deployer :=
  let (hash, currentStatus) := getClassifierInClusterHashAndStatus classifier cluster
  let isConfigSame := hash == currentHash
  let result := d.getResult (deployerKey ext cluster classifier f false)
  match (if isConfigSame then convertResultStatus result else none) with
  | some status =>
    if status = .provisioned then
      ((some ⟨cluster, currentHash, status, some (result.err.getD "")⟩, none), d)
    else if status = .provisioning then
      ((some ⟨cluster, currentHash, status, some (result.err.getD "")⟩,
        some (.message "classifier is still being provisioned")), d)
    else ((some ⟨cluster, currentHash, status, none⟩, none), d)
  | none =>
    if isConfigSame ∧ currentStatus = some .provisioned then
      ((some ⟨cluster, currentHash, .provisioned, none⟩, none), d)
    else
      match d.deploy (deployRequest r (deployerKey ext cluster classifier f false)) with
      | (d', some e) => ((none, some e), d')
      | (d', none) => ((some ⟨cluster, currentHash, .provisioning, none⟩, none), d')

def cleanupInProgress (f : Feature) : GoError :=
  .message ("cleanup of " ++ f.id ++ " in cluster still in progress. Wait before redeploying")

/-- `processClassifier`: the entry the pass records for `cluster`, if any, the
error it returns, and the deployer after it. -/
def processClassifier (ext : Externals) (r : ClassifierReconciler) (fleet : Fleet) (d : Deployer)
    (classifier : Classifier) (cpEndpoint : String) (cluster : ObjectReference) (f : Feature) :
    (Option ClusterInfo × Option GoError) × Deployer :=
  match getCurrentHash ext r.classifierReportMode fleet classifier cpEndpoint cluster f with
  | .error e => ((none, some e), d)
  | .ok currentHash =>
  match canProceed fleet classifier cluster with
  | .error e => ((none, some e), d)
  | .ok false => ((none, none), d)
  | .ok true =>
  if d.isInProgress (deployerKey ext cluster classifier f true) then ((none, some (cleanupInProgress f)), d)
  else deployIfNeeded ext r d classifier cluster f currentHash

def deployInProgress (f : Feature) : GoError :=
  .message ("deploy of " ++ f.id ++ " in cluster still in progress. Wait before redeploying")

def undeployOf (ext : Externals) (classifier : Classifier) (cluster : ObjectReference) (f : Feature) :
    Request :=
  ⟨deployerKey ext cluster classifier f true, .undeployClassifierFromCluster, ⟨[]⟩⟩

/-- `removeClassifier`: the error it returns (`none` means removed or nothing
to do) and the deployer after it. -/
def removeClassifier (ext : Externals) (fleet : Fleet) (d : Deployer) (classifier : Classifier)
    (cluster : ObjectReference) (f : Feature) : Option GoError × Deployer :=
  match isPaused fleet cluster classifier with
  | .error e => (some e, d)
  | .ok true => (none, d)
  | .ok false =>
  if d.isInProgress (deployerKey ext cluster classifier f false) then (some (deployInProgress f), d)
  else
  match convertResultStatus (d.getResult (deployerKey ext cluster classifier f true)) with
  | some .provisioning => (some (.message "feature is still being removed"), d)
  | some .removed => (none, d)
  | _ =>
    match d.deploy (undeployOf ext classifier cluster f) with
    | (d', some e) => (some e, d')
    | (d', none) => (some (.message "cleanup request is queued"), d')

theorem getResult_ne_removed (d : Deployer) (k : DeployerKey) (hk : k.cleanup = false) :
    (d.getResult k).resultStatus ≠ .removed := by
  unfold Deployer.getResult
  split
  · simp
  · split <;> simp [hk]

section Decision

variable (ext : Externals) (r : ClassifierReconciler) (d : Deployer) (classifier : Classifier)
  (cluster : ObjectReference) (f : Feature) (h h0 : List UInt8) (s0 : Option ClassifierFeatureStatus)

def deployOf : Request := deployRequest r (deployerKey ext cluster classifier f false)

def deployResultOf : Result := d.getResult (deployerKey ext cluster classifier f false)

theorem deployIfNeeded_deployed (hs : getClassifierInClusterHashAndStatus classifier cluster = (h, s0))
    (hr : (deployResultOf ext d classifier cluster f).resultStatus = .deployed) :
    deployIfNeeded ext r d classifier cluster f h =
      ((some ⟨cluster, h, .provisioned, some ((deployResultOf ext d classifier cluster f).err.getD "")⟩,
        none), d) := by
  simp only [deployResultOf] at hr
  simp [deployIfNeeded, hs, hr, convertResultStatus, deployResultOf]

theorem deployIfNeeded_inProgress (hs : getClassifierInClusterHashAndStatus classifier cluster = (h, s0))
    (hr : (deployResultOf ext d classifier cluster f).resultStatus = .inProgress) :
    deployIfNeeded ext r d classifier cluster f h =
      ((some ⟨cluster, h, .provisioning, some ((deployResultOf ext d classifier cluster f).err.getD "")⟩,
        some (.message "classifier is still being provisioned")), d) := by
  simp only [deployResultOf] at hr
  simp [deployIfNeeded, hs, hr, convertResultStatus, deployResultOf]

theorem deployIfNeeded_failed (hs : getClassifierInClusterHashAndStatus classifier cluster = (h, s0))
    (hr : (deployResultOf ext d classifier cluster f).resultStatus = .failed) :
    deployIfNeeded ext r d classifier cluster f h = ((some ⟨cluster, h, .failed, none⟩, none), d) := by
  simp only [deployResultOf] at hr
  simp [deployIfNeeded, hs, hr, convertResultStatus]

theorem deployIfNeeded_restarted (hs : getClassifierInClusterHashAndStatus classifier cluster = (h, some .provisioned))
    (hr : (deployResultOf ext d classifier cluster f).resultStatus = .unavailable) :
    deployIfNeeded ext r d classifier cluster f h = ((some ⟨cluster, h, .provisioned, none⟩, none), d) := by
  simp only [deployResultOf] at hr
  simp [deployIfNeeded, hs, hr, convertResultStatus]

theorem deployIfNeeded_dispatch (hs : getClassifierInClusterHashAndStatus classifier cluster = (h0, s0))
    (hc : h0 ≠ h ∨ ((deployResultOf ext d classifier cluster f).resultStatus = .unavailable ∧
      s0 ≠ some .provisioned)) :
    deployIfNeeded ext r d classifier cluster f h =
      match d.deploy (deployOf ext r classifier cluster f) with
      | (d', some e) => ((none, some e), d')
      | (d', none) => ((some ⟨cluster, h, .provisioning, none⟩, none), d') := by
  simp only [deployResultOf] at hc
  rcases hc with hc | ⟨hr, hs0⟩
  · simp [deployIfNeeded, hs, hc, deployOf]
  · by_cases hh : h0 = h <;> simp [deployIfNeeded, hs, hr, hs0, hh, convertResultStatus, deployOf]

theorem deployIfNeeded_settled (st : ClassifierFeatureStatus)
    (hs : getClassifierInClusterHashAndStatus classifier cluster = (h, some st))
    (hok : st = .provisioned ∨ (deployResultOf ext d classifier cluster f).resultStatus ≠ .unavailable) :
    (deployIfNeeded ext r d classifier cluster f h).2 = d ∧
      ∃ ci, (deployIfNeeded ext r d classifier cluster f h).1.1 = some ci ∧ ci.cluster = cluster ∧
        ci.hash = h ∧
        (ci.status = .provisioned ∨ (deployResultOf ext d classifier cluster f).resultStatus ≠ .unavailable) := by
  rcases hr : (deployResultOf ext d classifier cluster f).resultStatus with _ | _ | _ | _ | _
  · rw [deployIfNeeded_deployed ext r d classifier cluster f h _ hs hr]; exact ⟨rfl, _, rfl, rfl, rfl, .inl rfl⟩
  · rw [deployIfNeeded_failed ext r d classifier cluster f h _ hs hr]
    exact ⟨rfl, _, rfl, rfl, rfl, .inr (by decide)⟩
  · rw [deployIfNeeded_inProgress ext r d classifier cluster f h _ hs hr]
    exact ⟨rfl, _, rfl, rfl, rfl, .inr (by decide)⟩
  · simp only [deployResultOf] at hr
    simp [deployIfNeeded, hs, hr, convertResultStatus]
  · obtain rfl : st = .provisioned := hok.resolve_right (by simp [hr])
    rw [deployIfNeeded_restarted ext r d classifier cluster f h hs hr]
    exact ⟨rfl, _, rfl, rfl, rfl, .inl rfl⟩

theorem deployIfNeeded_deployer :
    (deployIfNeeded ext r d classifier cluster f h).2 = d ∨
      (deployIfNeeded ext r d classifier cluster f h).2 = (d.deploy (deployOf ext r classifier cluster f)).1 := by
  rcases hs : getClassifierInClusterHashAndStatus classifier cluster with ⟨h0, s0⟩
  rcases hd : d.deploy (deployOf ext r classifier cluster f) with ⟨d', _ | e⟩ <;>
  simp only [deployOf] at hd <;>
  simp only [deployIfNeeded, hs, hd] <;>
  split <;> (try split) <;> (try split) <;> simp

theorem deployIfNeeded_entry (ci : ClusterInfo)
    (hc : (deployIfNeeded ext r d classifier cluster f h).1.1 = some ci) :
    let k := deployerKey ext cluster classifier f false
    let hs := getClassifierInClusterHashAndStatus classifier cluster
    ci.hash = h ∧
      (ci.status = .provisioned → hs = (h, some .provisioned) ∨
        (hs.1 = h ∧ d.results k = some none ∧ d.inProgress k = false)) ∧
      ((deployIfNeeded ext r d classifier cluster f h).2.inProgress k = true ∨
        ((deployIfNeeded ext r d classifier cluster f h).2 = d ∧ hs.1 = h)) := by
  dsimp only
  rcases hg : getClassifierInClusterHashAndStatus classifier cluster with ⟨h0, s0⟩
  -- the deploy is queued: the entry is `Provisioning` and its key in progress
  have queued : (h0 ≠ h ∨ ((deployResultOf ext d classifier cluster f).resultStatus = .unavailable ∧
      s0 ≠ some .provisioned)) → ci.hash = h ∧ ci.status ≠ .provisioned ∧
      (deployIfNeeded ext r d classifier cluster f h).2.inProgress (deployerKey ext cluster classifier f false) = true := by
    intro hq
    rw [deployIfNeeded_dispatch ext r d classifier cluster f h h0 s0 hg hq] at hc ⊢
    rcases hd : d.deploy (deployOf ext r classifier cluster f) with ⟨d', _ | e⟩ <;> rw [hd] at hc
    · cases hc
      have hk := d.deploy_queued _ (by rw [hd])
      rw [hd, deployOf, deployRequest_key] at hk
      exact ⟨rfl, by simp, hk⟩
    · cases hc
  by_cases hh : h0 = h
  swap
  · obtain ⟨h1, h2, h3⟩ := queued (.inl hh)
    exact ⟨h1, fun h => absurd h h2, .inl h3⟩
  subst hh
  rcases hr : (deployResultOf ext d classifier cluster f).resultStatus with _ | _ | _ | _ | _
  · rw [deployIfNeeded_deployed ext r d classifier cluster f h0 s0 hg hr] at hc ⊢
    cases hc
    simp only [deployResultOf, Deployer.getResult] at hr
    refine ⟨rfl, fun _ => .inr ⟨rfl, ?_⟩, .inr ⟨rfl, rfl⟩⟩
    split at hr
    · cases hr
    · split at hr <;> simp_all [deployerKey]
  · rw [deployIfNeeded_failed ext r d classifier cluster f h0 s0 hg hr] at hc ⊢
    cases hc
    exact ⟨rfl, (fun h => by cases h), .inr ⟨rfl, rfl⟩⟩
  · rw [deployIfNeeded_inProgress ext r d classifier cluster f h0 s0 hg hr] at hc ⊢
    cases hc
    exact ⟨rfl, (fun h => by cases h), .inr ⟨rfl, rfl⟩⟩
  · exact absurd hr (getResult_ne_removed d _ rfl)
  · by_cases hs0 : s0 = some .provisioned
    · subst hs0
      rw [deployIfNeeded_restarted ext r d classifier cluster f h0 hg hr] at hc ⊢
      cases hc
      exact ⟨rfl, fun _ => .inl rfl, .inr ⟨rfl, rfl⟩⟩
    · obtain ⟨h1, h2, h3⟩ := queued (.inr ⟨hr, hs0⟩)
      exact ⟨h1, fun h => absurd h h2, .inl h3⟩

theorem deployIfNeeded_cluster (ci : ClusterInfo)
    (hc : (deployIfNeeded ext r d classifier cluster f h).1.1 = some ci) : ci.cluster = cluster := by
  rcases hs : getClassifierInClusterHashAndStatus classifier cluster with ⟨h0, s0⟩
  rcases hd : d.deploy (deployOf ext r classifier cluster f) with ⟨d', _ | e⟩ <;>
  simp only [deployOf] at hd <;>
  simp only [deployIfNeeded, hs, hd] at hc <;>
  split at hc <;> (try split at hc) <;> (try split at hc) <;> simp at hc <;> rw [← hc]

end Decision

section Admission

variable (ext : Externals) (r : ClassifierReconciler) (fleet : Fleet) (d : Deployer)
  (classifier : Classifier) (cp : String) (cluster : ObjectReference) (f : Feature)

theorem processClassifier_admitted (h : List UInt8)
    (hh : getCurrentHash ext r.classifierReportMode fleet classifier cp cluster f = .ok h)
    (hp : canProceed fleet classifier cluster = .ok true)
    (hu : d.isInProgress (deployerKey ext cluster classifier f true) = false) :
    processClassifier ext r fleet d classifier cp cluster f = deployIfNeeded ext r d classifier cluster f h := by
  simp [processClassifier, hh, hp, hu]

theorem processClassifier_admitted_of_entry (ci : ClusterInfo)
    (hc : (processClassifier ext r fleet d classifier cp cluster f).1.1 = some ci) :
    ∃ h, getCurrentHash ext r.classifierReportMode fleet classifier cp cluster f = .ok h ∧
      d.inProgress (deployerKey ext cluster classifier f true) = false ∧
      processClassifier ext r fleet d classifier cp cluster f = deployIfNeeded ext r d classifier cluster f h := by
  unfold processClassifier at hc ⊢
  split at hc
  · cases hc
  rename_i h hh
  split at hc
  · cases hc
  · cases hc
  rename_i hp
  split at hc
  · cases hc
  rename_i hu
  exact ⟨h, hh, by simpa [Deployer.isInProgress] using hu, by simp [hp, hu]⟩

/-- A deploy that failed with message `boom` is recorded as `Failed` with no
failure message. -/
theorem processClassifier_failed_message_lost (ext : Externals) :
    let spec : ClassifierSpec := ⟨[], [], [⟨"team", "payments"⟩]⟩
    let cluster : ObjectReference := ⟨"default", "a", "Cluster", "cluster.x-k8s.io/v1beta1"⟩
    let classifier : Classifier := ⟨"acme", spec, [ClassifierFinalizer], false, false,
      ⟨[⟨cluster, ext.sha256 (ext.renderAsCode spec), .provisioning, none⟩], []⟩⟩
    let d : Deployer := ⟨[FeatureClassifier], fun _ => false, fun _ => some (some "boom"), []⟩
    let fleet := Fleet.quiet
    (processClassifier ext (.init .collectFromManagementCluster "") fleet d classifier ""
        cluster (classifierFeature ext)).1 =
      (some ⟨cluster, ext.sha256 (ext.renderAsCode spec), .failed, none⟩, none) := by
  intro spec cluster classifier d fleet
  rw [processClassifier_admitted ext (.init .collectFromManagementCluster "") fleet d classifier "" cluster
      (classifierFeature ext)
      (ext.sha256 (ext.renderAsCode spec)) rfl rfl rfl,
    deployIfNeeded_failed ext (.init .collectFromManagementCluster "") d classifier cluster
      (classifierFeature ext) _ (some .provisioning) rfl rfl]

theorem processClassifier_cleanup (h : List UInt8)
    (hh : getCurrentHash ext r.classifierReportMode fleet classifier cp cluster f = .ok h)
    (hp : canProceed fleet classifier cluster = .ok true)
    (hu : d.isInProgress (deployerKey ext cluster classifier f true) = true) :
    processClassifier ext r fleet d classifier cp cluster f = ((none, some (cleanupInProgress f)), d) := by
  simp [processClassifier, hh, hp, hu]

theorem processClassifier_deployer :
    (processClassifier ext r fleet d classifier cp cluster f).2 = d ∨
      ((processClassifier ext r fleet d classifier cp cluster f).2 =
          (d.deploy (deployOf ext r classifier cluster f)).1 ∧
        d.isInProgress (deployerKey ext cluster classifier f true) = false) := by
  unfold processClassifier
  split
  · exact .inl rfl
  · split
    · exact .inl rfl
    · exact .inl rfl
    · split
      · exact .inl rfl
      · rename_i hu
        rcases deployIfNeeded_deployer ext r d classifier cluster f _ with h | h
        · exact .inl h
        · exact .inr ⟨h, by simpa using hu⟩

theorem processClassifier_current_in_flight (h : List UInt8)
    (hh : getCurrentHash ext r.classifierReportMode fleet classifier cp cluster f = .ok h)
    (hs : (getClassifierInClusterHashAndStatus classifier cluster).1 = h)
    (hin : d.isInProgress (deployerKey ext cluster classifier f false) = true) :
    (processClassifier ext r fleet d classifier cp cluster f).2 = d := by
  rcases processClassifier_deployer ext r fleet d classifier cp cluster f with hd | ⟨-, hu⟩
  · exact hd
  rcases hp : canProceed fleet classifier cluster with e | _ | _
  · simp [processClassifier, hh, hp]
  · simp [processClassifier, hh, hp]
  rcases hg : getClassifierInClusterHashAndStatus classifier cluster with ⟨h0, s0⟩
  rw [hg] at hs
  subst hs
  rw [processClassifier_admitted ext r fleet d classifier cp cluster f h0 hh hp hu,
    deployIfNeeded_inProgress ext r d classifier cluster f h0 s0 hg (by
      simp only [Deployer.isInProgress] at hin
      simp [deployResultOf, Deployer.getResult, hin])]

theorem processClassifier_outdated (h : List UInt8)
    (hh : getCurrentHash ext r.classifierReportMode fleet classifier cp cluster f = .ok h)
    (hp : canProceed fleet classifier cluster = .ok true)
    (hu : d.isInProgress (deployerKey ext cluster classifier f true) = false)
    (hs : (getClassifierInClusterHashAndStatus classifier cluster).1 ≠ h) :
    (processClassifier ext r fleet d classifier cp cluster f).2 = (d.deploy (deployOf ext r classifier cluster f)).1 := by
  rw [processClassifier_admitted ext r fleet d classifier cp cluster f h hh hp hu]
  rcases hg : getClassifierInClusterHashAndStatus classifier cluster with ⟨h0, s0⟩
  rw [hg] at hs
  rw [deployIfNeeded_dispatch ext r d classifier cluster f h h0 s0 hg (.inl hs)]
  split <;> simp_all

theorem processClassifier_cluster (ci : ClusterInfo)
    (h : (processClassifier ext r fleet d classifier cp cluster f).1.1 = some ci) : ci.cluster = cluster := by
  unfold processClassifier at h
  split at h
  · simp at h
  · split at h
    · simp at h
    · simp at h
    · split at h
      · simp at h
      · exact deployIfNeeded_cluster ext r d classifier cluster f _ ci h

theorem processClassifier_deploys :
    DeploysBy (DeployCall r) d (processClassifier ext r fleet d classifier cp cluster f).2 := by
  rcases processClassifier_deployer ext r fleet d classifier cp cluster f with h | ⟨h, -⟩ <;> rw [h]
  · exact .refl d
  · exact .deploy d _ ⟨_, rfl, rfl⟩

theorem admitted_processClassifier :
    d.Admitted (processClassifier ext r fleet d classifier cp cluster f).2 := by
  rcases processClassifier_deployer ext r fleet d classifier cp cluster f with h | ⟨h, hu⟩
  · rw [h]; exact .refl d
  · rw [h]
    exact d.admitted_deploy _ (by rw [deployOf, deployRequest_key]; exact hu)

theorem processClassifier_calls :
    d.CallsSince (processClassifier ext r fleet d classifier cp cluster f).2
      fun c => c.request.key = deployerKey ext cluster classifier f false := by
  rcases processClassifier_deployer ext r fleet d classifier cp cluster f with h | ⟨h, -⟩ <;> rw [h]
  · exact .refl d _
  · exact d.callsSince_deploy _ _ (deployRequest_key r _)

theorem processClassifier_sameAt (k : DeployerKey)
    (hk : k ≠ deployerKey ext cluster classifier f false) :
    d.SameAt (processClassifier ext r fleet d classifier cp cluster f).2 k := by
  rcases processClassifier_deployer ext r fleet d classifier cp cluster f with h | ⟨h, -⟩ <;> rw [h]
  · exact .refl d k
  · exact d.sameAt_deploy _ k (by rw [deployOf, deployRequest_key]; exact hk)

theorem processClassifier_within :
    d.Within (processClassifier ext r fleet d classifier cp cluster f).2
      (· = deployerKey ext cluster classifier f false) :=
  ⟨processClassifier_calls ext r fleet d classifier cp cluster f,
    processClassifier_sameAt ext r fleet d classifier cp cluster f⟩

theorem processClassifier_settled (h : List UInt8) (st : ClassifierFeatureStatus)
    (hh : getCurrentHash ext r.classifierReportMode fleet classifier cp cluster f = .ok h)
    (hp : canProceed fleet classifier cluster = .ok true)
    (hu : d.isInProgress (deployerKey ext cluster classifier f true) = false)
    (hs : getClassifierInClusterHashAndStatus classifier cluster = (h, some st))
    (hok : st = .provisioned ∨ (deployResultOf ext d classifier cluster f).resultStatus ≠ .unavailable) :
    (processClassifier ext r fleet d classifier cp cluster f).2 = d ∧
      ∃ ci, (processClassifier ext r fleet d classifier cp cluster f).1.1 = some ci ∧
        ci.cluster = cluster ∧ ci.hash = h ∧
        (ci.status = .provisioned ∨ (deployResultOf ext d classifier cluster f).resultStatus ≠ .unavailable) := by
  rw [processClassifier_admitted ext r fleet d classifier cp cluster f h hh hp hu]
  exact deployIfNeeded_settled ext r d classifier cluster f h st hs hok

end Admission

section Removal

variable (ext : Externals) (fleet : Fleet) (d : Deployer) (classifier : Classifier)
  (cluster : ObjectReference) (f : Feature)

theorem removeClassifier_deployInProgress (hp : isPaused fleet cluster classifier = .ok false)
    (hd : d.isInProgress (deployerKey ext cluster classifier f false) = true) :
    removeClassifier ext fleet d classifier cluster f = (some (deployInProgress f), d) := by
  simp [removeClassifier, hp, hd]

theorem removeClassifier_deployer :
    (removeClassifier ext fleet d classifier cluster f).2 = d ∨
      ((removeClassifier ext fleet d classifier cluster f).2 = (d.deploy (undeployOf ext classifier cluster f)).1 ∧
        d.isInProgress (deployerKey ext cluster classifier f false) = false ∧
        d.isInProgress (deployerKey ext cluster classifier f true) = false) := by
  unfold removeClassifier
  split
  · exact .inl rfl
  · exact .inl rfl
  · split
    · exact .inl rfl
    · rename_i hu
      split
      · exact .inl rfl
      · exact .inl rfl
      · rename_i hr _
        refine .inr ⟨?_, by simpa using hu, ?_⟩
        · split <;> simp_all
        · by_contra hc
          exact hr (by simp_all [Deployer.getResult, Deployer.isInProgress, convertResultStatus])

theorem removeClassifier_eq_none :
    (removeClassifier ext fleet d classifier cluster f).1 = none ↔
      isPaused fleet cluster classifier = .ok true ∨
        (isPaused fleet cluster classifier = .ok false ∧
          d.isInProgress (deployerKey ext cluster classifier f false) = false ∧
          (d.getResult (deployerKey ext cluster classifier f true)).resultStatus = .removed) := by
  unfold removeClassifier
  rcases hp : isPaused fleet cluster classifier with e | _ | _ <;> simp
  by_cases hd : d.isInProgress (deployerKey ext cluster classifier f false) <;> simp [hd]
  rcases hd' : d.deploy (undeployOf ext classifier cluster f) with ⟨d', _ | e⟩ <;>
    cases hr : (d.getResult (deployerKey ext cluster classifier f true)).resultStatus <;>
    simp [convertResultStatus, hr]

theorem removeClassifier_deployer_of_eq_none
    (h : (removeClassifier ext fleet d classifier cluster f).1 = none) :
    (removeClassifier ext fleet d classifier cluster f).2 = d := by
  unfold removeClassifier at h ⊢
  rcases hp : isPaused fleet cluster classifier with e | _ | _ <;> simp [hp] at h ⊢
  by_cases hd : d.isInProgress (deployerKey ext cluster classifier f false) <;> simp [hd] at h ⊢
  rcases hd' : d.deploy (undeployOf ext classifier cluster f) with ⟨d', _ | e⟩ <;>
    cases hr : (d.getResult (deployerKey ext cluster classifier f true)).resultStatus <;>
    simp_all [convertResultStatus]

theorem removeClassifier_calls_idle :
    d.CallsSince (removeClassifier ext fleet d classifier cluster f).2
      fun c => d.inProgress c.request.key = false := by
  rcases removeClassifier_deployer ext fleet d classifier cluster f with h | ⟨h, -, hu⟩ <;> rw [h]
  · exact .refl d _
  · exact d.callsSince_deploy _ _ hu

theorem removeClassifier_within :
    d.Within (removeClassifier ext fleet d classifier cluster f).2
      (· = deployerKey ext cluster classifier f true) := by
  rcases removeClassifier_deployer ext fleet d classifier cluster f with h | ⟨h, -⟩ <;> rw [h]
  · exact .refl d _
  · exact d.within_deploy _

theorem removeClassifier_deploys :
    DeploysBy UndeployCall d (removeClassifier ext fleet d classifier cluster f).2 := by
  rcases removeClassifier_deployer ext fleet d classifier cluster f with h | ⟨h, -⟩ <;> rw [h]
  · exact .refl d
  · exact .deploy d _ ⟨_, rfl, rfl⟩

theorem admitted_removeClassifier :
    d.Admitted (removeClassifier ext fleet d classifier cluster f).2 := by
  rcases removeClassifier_deployer ext fleet d classifier cluster f with h | ⟨h, hu, -⟩
  · rw [h]; exact .refl d
  · rw [h]; exact d.admitted_deploy _ hu

end Removal

/-- A deploy is queued again while the deploy of its key is in progress exactly
when the hash the status records for the cluster is not the current one: a
changed spec, credential or endpoint, or a dropped entry, queues it whatever
the deployer holds, and with the recorded hash current the running deploy is
only read back. An undeploy is never queued while one of its key is in
progress. -/
theorem deploy_in_flight_only_when_outdated (ext : Externals) :
    (∀ (r : ClassifierReconciler) (fleet : Fleet) (d : Deployer) (classifier : Classifier) (cp : String)
        (cluster : ObjectReference) (f : Feature) (h : List UInt8),
      getCurrentHash ext r.classifierReportMode fleet classifier cp cluster f = .ok h →
      (getClassifierInClusterHashAndStatus classifier cluster).1 = h →
      d.isInProgress (deployerKey ext cluster classifier f false) = true →
      (processClassifier ext r fleet d classifier cp cluster f).2 = d) ∧
    (∀ (r : ClassifierReconciler) (fleet : Fleet) (d : Deployer) (classifier : Classifier) (cp : String)
        (cluster : ObjectReference) (f : Feature) (h : List UInt8),
      getCurrentHash ext r.classifierReportMode fleet classifier cp cluster f = .ok h →
      canProceed fleet classifier cluster = .ok true →
      d.isInProgress (deployerKey ext cluster classifier f true) = false →
      (getClassifierInClusterHashAndStatus classifier cluster).1 ≠ h →
      (processClassifier ext r fleet d classifier cp cluster f).2 = (d.deploy (deployOf ext r classifier cluster f)).1) ∧
    (∀ (fleet : Fleet) (d : Deployer) (classifier : Classifier) (cluster : ObjectReference) (f : Feature),
      d.CallsSince (removeClassifier ext fleet d classifier cluster f).2
        fun c => d.inProgress c.request.key = false) :=
  ⟨fun r fleet d classifier cp cluster f h hh hs hin =>
      processClassifier_current_in_flight ext r fleet d classifier cp cluster f h hh hs hin,
    fun r fleet d classifier cp cluster f h hh hp hu hs =>
      processClassifier_outdated ext r fleet d classifier cp cluster f h hh hp hu hs,
    fun fleet d classifier cluster f => removeClassifier_calls_idle ext fleet d classifier cluster f⟩

end Sveltos.Process
