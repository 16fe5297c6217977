import SveltosClassifier.Api

/-!
# What a pass reads from the fleet

A pass reads clusters, their pause and readiness, and the access-request
credentials through the API server. `Fleet` is the API server's answers
during one pass: any answer, errors included, and the same answer each time
the pass reads the same object. `Externals` is what the controller calls but
these sources do not define. The spec's fingerprint is built here.

In push mode the fingerprint folds in the credential, the first value the read
of the access request's secret visits. Two passes that read the same secrets
agree on it when each secret holds one value; a secret with two keys holding
different bytes gives two fingerprints when the two reads visit its keys in
different orders, as Go's map iteration may.
-/

set_option autoImplicit false

namespace Sveltos.Reads
open Sveltos.Api

/-- Functions the reconciler calls that are not in these sources:
`getClusterType` of the controllers package, `render.AsCode` and
`crypto/sha256`, whose digests are 32 bytes long. -/
structure Externals where
  getClusterType : ObjectReference → ClusterType
  renderAsCode : ClassifierSpec → List UInt8
  sha256 : List UInt8 → List UInt8
  sha256_length : ∀ b, (sha256 b).length = 32

def Externals.zero : Externals :=
  ⟨fun _ => .capi, fun _ => [], fun _ => List.replicate 32 0, fun _ => List.length_replicate 32 0⟩

structure AccessRequest where
  secretRef : Option (String × String)
  deriving DecidableEq, Repr

structure Secret where
  data : List (String × List UInt8)
  deriving DecidableEq, Repr

/-- What the API server, the key manager and the Go runtime answer during one
pass of one classifier. -/
structure Fleet where
  getClassifier : Option GoError
  patchFinalizer : Option GoError
  listClassifierReports : Except GoError (List ClassifierReport)
  keyManagerInstance : Option GoError
  currentOrder : MapOrder ObjectReference
  oldOrder : MapOrder ObjectReference
  statusOrder : MapOrder ObjectReference
  getCapiCluster : String → String → Except GoError Cluster
  updateCluster : Cluster → Option GoError
  listClusters : Except GoError (List Cluster)
  isClusterPaused : ObjectReference → Except GoError Bool
  isClusterReadyToBeConfigured : ObjectReference → Except GoError Bool
  getCluster : ObjectReference → Option GoError
  getAccessRequest : String → String → Except GoError AccessRequest
  getSecret : String → String → Except GoError Secret
  removeClassifierReports : Option GoError
  removeAccessRequest : Option GoError
  closePatch : Option GoError

def Fleet.quiet : Fleet where
  getClassifier := none
  patchFinalizer := none
  listClassifierReports := .ok []
  keyManagerInstance := none
  currentOrder := .insertion _
  oldOrder := .insertion _
  statusOrder := .insertion _
  getCapiCluster ns n := .ok ⟨ns, n, false, []⟩
  updateCluster _ := none
  listClusters := .ok []
  isClusterPaused _ := .ok false
  isClusterReadyToBeConfigured _ := .ok true
  getCluster _ := none
  getAccessRequest _ _ := .error .notFound
  getSecret _ _ := .error .notFound
  removeClassifierReports := none
  removeAccessRequest := none
  closePatch := none

def getAccessRequestName (clusterName : String) (clusterType : ClusterType) : String :=
  clusterType.toLower ++ "-" ++ clusterName

/-- `getKubeconfigFromAccessRequest`: the first value of the secret the access
request points to, `none` while there is none yet. -/
def getKubeconfigFromAccessRequest (fleet : Fleet) (clusterNamespace clusterName : String)
    (clusterType : ClusterType) : Except GoError (Option (List UInt8)) :=
  match fleet.getAccessRequest clusterNamespace (getAccessRequestName clusterName clusterType) with
  | .error e => .error e
  | .ok accessRequest =>
    match accessRequest.secretRef with
    | none => .ok none
    | some (ns, name) =>
      match fleet.getSecret ns name with
      | .error e => .error e
      | .ok secret =>
        match secret.data with
        | [] => .ok none
        | (_, contents) :: _ => .ok (some contents)

/-- `isPaused`: a cluster that cannot be found is not paused, whatever the
classifier's annotation says. -/
def isPaused (fleet : Fleet) (cluster : ObjectReference) (classifier : Classifier) :
    Except GoError Bool :=
  match fleet.isClusterPaused cluster with
  | .error e => if isNotFound e then .ok false else .error e
  | .ok true => .ok true
  | .ok false => .ok classifier.paused

/-- `canProceed`: the cluster is neither paused nor unready. -/
def canProceed (fleet : Fleet) (classifier : Classifier) (cluster : ObjectReference) :
    Except GoError Bool :=
  match isPaused fleet cluster classifier with
  | .error e => .error e
  | .ok true => .ok false
  | .ok false =>
    match fleet.isClusterReadyToBeConfigured cluster with
    | .error e => .error e
    | .ok ready => .ok ready

/-- `classifierHash`: sha256 of the spec rendered as Go code. -/
def classifierHash (ext : Externals) (classifier : Classifier) : List UInt8 :=
  ext.sha256 (ext.renderAsCode classifier.spec)

def classifierFeature (ext : Externals) : Feature := ⟨FeatureClassifier, classifierHash ext⟩

/-- `getCurrentHash`: in push mode, the feature's hash is folded with the
credential and the control-plane endpoint, once a credential exists. -/
def getCurrentHash (ext : Externals) (mode : ReportMode) (fleet : Fleet) (classifier : Classifier)
    (cpEndpoint : String) (cluster : ObjectReference) (f : Feature) : Except GoError (List UInt8) :=
  let currentHash := f.currentHash classifier
  match mode with
  | .collectFromManagementCluster => .ok currentHash
  | .agentSendReportsNoGateway =>
    match getKubeconfigFromAccessRequest fleet cluster.namespace cluster.name
        (ext.getClusterType cluster) with
    | .error e => if isNotFound e then .ok currentHash else .error e
    | .ok none => .ok currentHash
    | .ok (some kubeconfig) =>
      .ok (ext.sha256 (currentHash ++ kubeconfig ++ cpEndpoint.toUTF8.toList))

theorem getCurrentHash_length (ext : Externals) (mode : ReportMode) (fleet : Fleet) (classifier : Classifier)
    (cp : String) (cluster : ObjectReference) (h : List UInt8)
    (hh : getCurrentHash ext mode fleet classifier cp cluster (classifierFeature ext) = .ok h) : h.length = 32 := by
  have hc : ((classifierFeature ext).currentHash classifier).length = 32 := ext.sha256_length _
  unfold getCurrentHash at hh
  split at hh
  · cases hh; exact hc
  · split at hh
    · split at hh
      · cases hh; exact hc
      · cases hh
    · cases hh; exact hc
    · cases hh; exact ext.sha256_length _

theorem canProceed_eq_ok_true (fleet : Fleet) (classifier : Classifier) (cluster : ObjectReference) :
    canProceed fleet classifier cluster = .ok true ↔
      isPaused fleet cluster classifier = .ok false ∧ fleet.isClusterReadyToBeConfigured cluster = .ok true := by
  unfold canProceed
  split <;> simp_all
  split <;> simp_all

theorem getCurrentHash_congr (ext : Externals) (mode : ReportMode) (fleet : Fleet) (c c' : Classifier)
    (cp : String) (cluster : ObjectReference) (hf : c'.frame = c.frame) :
    getCurrentHash ext mode fleet c' cp cluster (classifierFeature ext) =
      getCurrentHash ext mode fleet c cp cluster (classifierFeature ext) := by
  have hs : c'.spec = c.spec := congrArg (·.2.1) hf
  simp only [getCurrentHash, classifierFeature, classifierHash, hs]

theorem canProceed_congr (fleet : Fleet) (c c' : Classifier) (cluster : ObjectReference)
    (hf : c'.frame = c.frame) : canProceed fleet c' cluster = canProceed fleet c cluster := by
  have hp : c'.paused = c.paused := congrArg (·.2.2.1) hf
  simp only [canProceed, isPaused, hp]

section Credentials

def SameCredentials (fleet fleet' : Fleet) : Prop :=
  fleet'.getAccessRequest = fleet.getAccessRequest ∧
    ∀ ns n, (∃ e, fleet.getSecret ns n = .error e ∧ fleet'.getSecret ns n = .error e) ∨
      ∃ s s', fleet.getSecret ns n = .ok s ∧ fleet'.getSecret ns n = .ok s' ∧ s.data.Perm s'.data

def SingleValued (fleet : Fleet) : Prop :=
  ∀ ns n s, fleet.getSecret ns n = .ok s → ∀ e ∈ s.data, ∀ e' ∈ s.data, e.2 = e'.2

theorem getKubeconfigFromAccessRequest_same (fleet fleet' : Fleet) (h : SameCredentials fleet fleet')
    (hv : SingleValued fleet) (ns n : String) (t : ClusterType) :
    getKubeconfigFromAccessRequest fleet' ns n t = getKubeconfigFromAccessRequest fleet ns n t := by
  unfold getKubeconfigFromAccessRequest
  rw [h.1]
  split
  · rfl
  split
  · rfl
  rename_i sns sn _
  rcases h.2 sns sn with ⟨e, he, he'⟩ | ⟨⟨data⟩, ⟨data'⟩, hs, hs', hp⟩
  · rw [he, he']
  rw [hs, hs']
  rcases data with _ | ⟨e, es⟩ <;> rcases data' with _ | ⟨e', es'⟩
  · rfl
  · exact absurd (List.Perm.eq_nil hp.symm) (List.cons_ne_nil _ _)
  · exact absurd (List.Perm.eq_nil hp) (List.cons_ne_nil _ _)
  · simp only [hv _ _ _ hs e' (hp.symm.subset (.head _)) e (.head _)]

theorem getCurrentHash_sameCredentials (ext : Externals) (mode : ReportMode) (fleet fleet' : Fleet)
    (h : SameCredentials fleet fleet') (hv : SingleValued fleet) (classifier : Classifier) (cp : String)
    (cluster : ObjectReference) (f : Feature) :
    getCurrentHash ext mode fleet' classifier cp cluster f = getCurrentHash ext mode fleet classifier cp cluster f := by
  simp only [getCurrentHash, getKubeconfigFromAccessRequest_same fleet fleet' h hv]

def Externals.window : Externals :=
  ⟨fun _ => .capi, fun _ => [], fun b => (b.drop 32 ++ List.replicate 32 0).take 32, fun b => by simp⟩

def credentialFleet (data : List (String × List UInt8)) : Fleet :=
  { Fleet.quiet with
    getAccessRequest := fun _ _ => .ok ⟨some ("projectsveltos", "kubeconfig")⟩
    getSecret := fun _ _ => .ok ⟨data⟩ }

/-- A secret with two keys holding different bytes, read by two passes that
visit its keys in the two orders: the passes compute two fingerprints. -/
theorem getCurrentHash_secret_order :
    let classifier : Classifier := ⟨"acme", ⟨[], [], []⟩, [], false, false, ⟨[], []⟩⟩
    let data : List (String × List UInt8) := [("kubeconfig", [1]), ("value", [2])]
    let cluster : ObjectReference := ⟨"default", "a", "Cluster", "cluster.x-k8s.io/v1beta1"⟩
    let hash (fleet : Fleet) := getCurrentHash Externals.window .agentSendReportsNoGateway fleet classifier
      "https://10.0.0.1:6443" cluster (classifierFeature Externals.window)
    SameCredentials (credentialFleet data) (credentialFleet data.reverse) ∧
      ∃ h h', hash (credentialFleet data) = .ok h ∧ hash (credentialFleet data.reverse) = .ok h' ∧ h ≠ h' := by
  intro classifier data cluster hash
  exact ⟨⟨rfl, fun _ _ => .inr ⟨_, _, rfl, rfl, by decide⟩⟩, _, _, rfl, rfl, by decide⟩

end Credentials

end Sveltos.Reads
