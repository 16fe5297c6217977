import SveltosClassifier.Endpoint

/-!
# The deployer's handlers on a managed cluster

The deployer runs the handler a request names: `deployClassifierInCluster` in
collect mode, `deployClassifierWithKubeconfigInCluster` in push mode, and
`undeployClassifierFromCluster`. A deploy applies the Classifier and
ClassifierReport CRDs and the classifier-agent's manifests, then creates the
Classifier instance with the spec the management cluster holds, or sets the
spec of the one there is. In push mode it first asks for an AccessRequest and
writes the kubeconfig the agent reaches the management cluster with into a
Secret of the managed cluster. An undeploy deletes the instance and nothing
else.

A managed cluster is the objects of its API server the handlers touch.
Modelled from the Kubernetes API contract: `Get` of a missing object is
NotFound, `Create` of an existing one fails, `Update` and `Delete` of a missing
one are NotFound, server-side `Apply` creates or replaces, and any call may
also fail with an error of its own (`faults`, never NotFound); a call that
fails writes nothing. What the
management cluster and the client libraries answer a run is one snapshot
(`Answers`), as for a reconcile pass, and the manifests and the YAML decoder
come from libraries (`Library`).
-/

set_option autoImplicit false

namespace Sveltos.Handlers
open Sveltos.Api Sveltos.Reads Sveltos.Async Sveltos.Endpoint

inductive Verb where
  | get
  | create
  | update
  | delete
  | apply
  | discover
  deriving DecidableEq, Repr

structure Ref where
  kind : String
  «namespace» : String
  name : String
  deriving DecidableEq, Repr

structure RemoteCall where
  verb : Verb
  ref : Ref
  deriving DecidableEq, Repr

section Api

variable {β : Type} (faults : RemoteCall → Option String) (objs : Ref → Option β) (ref : Ref)

def get : Except GoError β :=
  match faults ⟨.get, ref⟩ with
  | some t => .error (.message t)
  | none =>
    match objs ref with
    | some o => .ok o
    | none => .error .notFound

def alreadyExists : GoError := .message (ref.kind ++ " " ++ ref.name ++ " already exists")

def create (o : β) : (Ref → Option β) × Option GoError :=
  match faults ⟨.create, ref⟩ with
  | some t => (objs, some (.message t))
  | none =>
    match objs ref with
    | some _ => (objs, some (alreadyExists ref))
    | none => (Function.update objs ref (some o), none)

def update (o : β) : (Ref → Option β) × Option GoError :=
  match faults ⟨.update, ref⟩ with
  | some t => (objs, some (.message t))
  | none =>
    match objs ref with
    | some _ => (Function.update objs ref (some o), none)
    | none => (objs, some .notFound)

def delete : (Ref → Option β) × Option GoError :=
  match faults ⟨.delete, ref⟩ with
  | some t => (objs, some (.message t))
  | none =>
    match objs ref with
    | some _ => (Function.update objs ref none, none)
    | none => (objs, some .notFound)

def apply (o : β) : (Ref → Option β) × Option GoError :=
  match faults ⟨.apply, ref⟩ with
  | some t => (objs, some (.message t))
  | none => (Function.update objs ref (some o), none)

def Writes (v : Option β) (p : (Ref → Option β) × Option GoError) : Prop :=
  (p.2 = none ∧ p.1 = Function.update objs ref v) ∨ (p.2 ≠ none ∧ p.1 = objs)

theorem create_writes (o : β) : Writes objs ref (some o) (create faults objs ref o) := by
  unfold create Writes
  split
  · simp
  · split <;> simp

theorem update_writes (o : β) : Writes objs ref (some o) (update faults objs ref o) := by
  unfold update Writes
  split
  · simp
  · split <;> simp

theorem delete_writes : Writes objs ref none (delete faults objs ref) := by
  unfold delete Writes
  split
  · simp
  · split <;> simp

theorem apply_writes (o : β) : Writes objs ref (some o) (apply faults objs ref o) := by
  unfold apply Writes
  split <;> simp

variable {objs ref}

theorem Writes.grows {v : β} {p : (Ref → Option β) × Option GoError} (h : Writes objs ref (some v) p)
    (ref' : Ref) (hr : objs ref' ≠ none) : p.1 ref' ≠ none := by
  rcases h with ⟨-, h⟩ | ⟨-, h⟩ <;> rw [h]
  · by_cases he : ref' = ref
    · rw [he, Function.update_same]
      simp
    · rwa [Function.update_noteq he]
  · exact hr

theorem get_eq_ok {o : β} (h : get faults objs ref = .ok o) : objs ref = some o := by
  unfold get at h
  split at h
  · cases h
  · split at h <;> simp_all

theorem get_eq_notFound {e : GoError} (h : get faults objs ref = .error e) (he : isNotFound e = true) :
    objs ref = none := by
  unfold get at h
  split at h
  · cases h
    cases he
  · split at h
    · cases h
    · assumption

theorem create_nil {o : β} (h : (create faults objs ref o).2 = none) : objs ref = none := by
  unfold create at h
  split at h
  · cases h
  · split at h
    · cases h
    · assumption

end Api

structure ManagedCluster where
  namespaces : Ref → Option Unit
  secrets : Ref → Option (List (String × List UInt8))
  applied : Ref → Option String
  classifiers : Ref → Option ClassifierSpec

namespace ManagedCluster

def withNamespaces (mc : ManagedCluster) (p : (Ref → Option Unit) × Option GoError) :
    ManagedCluster × Option GoError :=
  ({ mc with namespaces := p.1 }, p.2)

def withSecrets (mc : ManagedCluster) (p : (Ref → Option (List (String × List UInt8))) × Option GoError) :
    ManagedCluster × Option GoError :=
  ({ mc with secrets := p.1 }, p.2)

def withApplied (mc : ManagedCluster) (p : (Ref → Option String) × Option GoError) :
    ManagedCluster × Option GoError :=
  ({ mc with applied := p.1 }, p.2)

def withClassifiers (mc : ManagedCluster) (p : (Ref → Option ClassifierSpec) × Option GoError) :
    ManagedCluster × Option GoError :=
  ({ mc with classifiers := p.1 }, p.2)

def Keeps (mc mc' : ManagedCluster) : Prop :=
  (∀ ref, mc.namespaces ref ≠ none → mc'.namespaces ref ≠ none) ∧
    (∀ ref, mc.secrets ref ≠ none → mc'.secrets ref ≠ none) ∧
    (∀ ref, mc.applied ref ≠ none → mc'.applied ref ≠ none)

theorem Keeps.refl (mc : ManagedCluster) : Keeps mc mc := ⟨fun _ h => h, fun _ h => h, fun _ h => h⟩

theorem Keeps.trans {mc₁ mc₂ mc₃ : ManagedCluster} (h : Keeps mc₁ mc₂) (h' : Keeps mc₂ mc₃) : Keeps mc₁ mc₃ :=
  ⟨fun r hr => h'.1 r (h.1 r hr), fun r hr => h'.2.1 r (h.2.1 r hr), fun r hr => h'.2.2 r (h.2.2 r hr)⟩

end ManagedCluster

def noPanic (p : ManagedCluster × Option GoError) : ManagedCluster × Option (Option GoError) :=
  (p.1, some p.2)

section Strings

def replaceLoop (old new : List Char) : Nat → List Char → List Char
  | 0, s => s
  | _ + 1, [] => []
  | n + 1, c :: cs =>
    if old.isPrefixOf (c :: cs) then new ++ replaceLoop old new n ((c :: cs).drop old.length)
    else c :: replaceLoop old new n cs

def replaceAll (s old new : String) : String :=
  if old.isEmpty then ⟨new.toList ++ s.toList.flatMap (· :: new.toList)⟩
  else ⟨replaceLoop old.toList new.toList s.length s.toList⟩

def splitLoop (sep : List Char) : Nat → List Char → List Char → List (List Char)
  | 0, piece, s => [piece ++ s]
  | _ + 1, piece, [] => [piece]
  | n + 1, piece, c :: cs =>
    if sep.isPrefixOf (c :: cs) then piece :: splitLoop sep n [] ((c :: cs).drop sep.length)
    else splitLoop sep n (piece ++ [c]) cs

def stringsSplit (s sep : String) : List String :=
  if sep.isEmpty then s.toList.map fun c => ⟨[c]⟩
  else (splitLoop sep.toList s.length [] s.toList).map String.mk

end Strings

def clusterTypeText : ClusterType → String
  | .capi => "Capi"
  | .sveltos => "Sveltos"

structure Unstructured where
  ref : Ref
  body : String
  deriving DecidableEq, Repr

structure Library where
  classifierSecretNamespace : String
  classifierSecretName : String
  classifierCRDYAML : String
  classifierReportCRDYAML : String
  classifierAgentYAML : String
  getUnstructured : String → Except GoError Unstructured

structure Classifiers where
  lookup : String → Option Classifier
  named : ∀ n c, lookup n = some c → c.name = n

structure Answers where
  getClassifier : Option String
  getCluster : Except GoError Bool
  initScheme : Option GoError
  getKubernetesClient : Option GoError
  getKubernetesRestConfig : Option GoError
  fleet : Fleet
  createAccessRequest : Option GoError
  faults : RemoteCall → Option String

def instanceRef (name : String) : Ref := ⟨ClassifierKind, "", name⟩

section Remote

variable (lib : Library) (faults : RemoteCall → Option String)

/-- `deployClassifierInstance`: creates the instance with the classifier's
spec, or sets the spec of the one there is. -/
def deployClassifierInstance (mc : ManagedCluster) (classifier : Classifier) : ManagedCluster × Option GoError :=
  match get faults mc.classifiers (instanceRef classifier.name) with
  | .error e =>
    if isNotFound e then
      mc.withClassifiers (create faults mc.classifiers (instanceRef classifier.name) classifier.spec)
    else (mc, some e)
  | .ok _ => mc.withClassifiers (update faults mc.classifiers (instanceRef classifier.name) classifier.spec)

def namespaceRef : Ref := ⟨"Namespace", "", lib.classifierSecretNamespace⟩

/-- `createSecretNamespace` -/
def createSecretNamespace (mc : ManagedCluster) : ManagedCluster × Option GoError :=
  match get faults mc.namespaces (namespaceRef lib) with
  | .ok _ => (mc, none)
  | .error e =>
    if isNotFound e then mc.withNamespaces (create faults mc.namespaces (namespaceRef lib) ())
    else (mc, some e)

def applyUnstructured (mc : ManagedCluster) (u : Unstructured) : ManagedCluster × Option GoError :=
  match faults ⟨.discover, ⟨u.ref.kind, u.ref.namespace, ""⟩⟩ with
  | some t => (mc, some (.message t))
  | none => mc.withApplied (apply faults mc.applied u.ref u.body)

def applyManifest (mc : ManagedCluster) (yaml : String) : ManagedCluster × Option GoError :=
  match lib.getUnstructured yaml with
  | .error e => (mc, some e)
  | .ok u => applyUnstructured faults mc u

def deployClassifierCRD (mc : ManagedCluster) : ManagedCluster × Option GoError :=
  applyManifest lib faults mc lib.classifierCRDYAML

def deployClassifierReportCRD (mc : ManagedCluster) : ManagedCluster × Option GoError :=
  applyManifest lib faults mc lib.classifierReportCRDYAML

def applyManifests : ManagedCluster → List String → ManagedCluster × Option GoError
  | mc, [] => (mc, none)
  | mc, yaml :: yamls =>
    match applyManifest lib faults mc yaml with
    | (mc, some e) => (mc, some e)
    | (mc, none) => applyManifests mc yamls

def agentYAML (clusterNamespace clusterName mode : String) (clusterType : ClusterType) : String :=
  let agentYAML := lib.classifierAgentYAML
  let agentYAML :=
    if mode ≠ "do-not-send-reports" then replaceAll agentYAML "do-not-send-reports" "send-reports" else agentYAML
  let agentYAML := replaceAll agentYAML "cluster-namespace=" ("cluster-namespace=" ++ clusterNamespace)
  let agentYAML := replaceAll agentYAML "cluster-name=" ("cluster-name=" ++ clusterName)
  replaceAll agentYAML "cluster-type=" ("cluster-type=" ++ clusterTypeText clusterType)

/-- `deployClassifierAgent`: the manifests between the `---` separators, each
applied in turn. -/
def deployClassifierAgent (mc : ManagedCluster) (clusterNamespace clusterName mode : String)
    (clusterType : ClusterType) : ManagedCluster × Option GoError :=
  applyManifests lib faults mc (stringsSplit (agentYAML lib clusterNamespace clusterName mode clusterType) "---")

end Remote

section Handlers

variable (lib : Library) (a : Answers) (cs : Classifiers)

/-- `getClassifierAndClusterClient`: the classifier that asked for the run,
once neither it nor the cluster is marked for deletion and a client for the
cluster is built. -/
def getClassifierAndClusterClient (classifierName : String) : Except GoError Classifier :=
  match a.getClassifier with
  | some t => .error (.message t)
  | none =>
  match cs.lookup classifierName with
  | none => .error .notFound
  | some classifier =>
  if classifier.deleting then .error (.message "classifier is marked for deletion") else
  match a.getCluster with
  | .error e => .error e
  | .ok true => .error (.message "cluster is marked for deletion")
  | .ok false =>
  match a.initScheme with
  | some e => .error e
  | none =>
  match a.getKubernetesClient with
  | some e => .error e
  | none => .ok classifier

/-- `deployCRDs` -/
def deployCRDs (mc : ManagedCluster) : ManagedCluster × Option GoError :=
  match a.getKubernetesRestConfig with
  | some e => (mc, some e)
  | none =>
  match deployClassifierCRD lib a.faults mc with
  | (mc, some e) => (mc, some e)
  | (mc, none) => deployClassifierReportCRD lib a.faults mc

def secretRef : Ref := ⟨"Secret", lib.classifierSecretNamespace, lib.classifierSecretName⟩

def assignEntry (m : List (String × List UInt8)) (k : String) (v : List UInt8) :
    Option (List (String × List UInt8)) :=
  match m with
  | [] => none
  | _ :: _ => some (if m.any (·.1 == k) then m.map (fun e => if e.1 = k then (k, v) else e) else m ++ [(k, v)])

theorem assignEntry_lookup {m m' : List (String × List UInt8)} {k : String} {v : List UInt8}
    (h : assignEntry m k v = some m') : m'.lookup k = some v ∧ ∀ k', k' ≠ k → m'.lookup k' = m.lookup k' := by
  unfold assignEntry at h
  split at h
  · cases h
  · cases h
    split
    · exact ⟨lookup_map_set_self v _ ‹_›, fun k' hk => lookup_map_set v _ hk⟩
    · exact ⟨lookup_append_set_self v _ (Bool.eq_false_iff.2 ‹_›), fun k' hk => lookup_append_set v _ hk⟩

/-- `updateSecretWithAccessManagementKubeconfig`; `none` as the error is a
panic. Any error of the `Get` of the Secret, not only NotFound, leads to its
`Create`. -/
def updateSecretWithAccessManagementKubeconfig (applicant : String) (kubeconfig : List UInt8)
    (mc : ManagedCluster) : ManagedCluster × Option (Option GoError) :=
  match getClassifierAndClusterClient a cs applicant with
  | .error e => (mc, some (some e))
  | .ok _ =>
  match createSecretNamespace lib a.faults mc with
  | (mc, some e) => (mc, some (some e))
  | (mc, none) =>
  match get a.faults mc.secrets (secretRef lib) with
  | .error _ => noPanic (mc.withSecrets (create a.faults mc.secrets (secretRef lib) [("kubeconfig", kubeconfig)]))
  | .ok data =>
    if data.lookup "kubeconfig" = some kubeconfig then (mc, some none) else
    match assignEntry data "kubeconfig" kubeconfig with
    | none => (mc, none)
    | some data => noPanic (mc.withSecrets (update a.faults mc.secrets (secretRef lib) data))

/-- `deployClassifierInCluster`, the deploy handler of collect mode. -/
def deployClassifierInCluster (clusterNamespace clusterName applicant : String) (clusterType : ClusterType)
    (mc : ManagedCluster) : ManagedCluster × Option GoError :=
  match a.getKubernetesRestConfig with
  | some e => (mc, some e)
  | none =>
  match deployCRDs lib a mc with
  | (mc, some e) => (mc, some e)
  | (mc, none) =>
  match deployClassifierAgent lib a.faults mc clusterNamespace clusterName "do-not-send-reports" clusterType with
  | (mc, some e) => (mc, some e)
  | (mc, none) =>
  match getClassifierAndClusterClient a cs applicant with
  | .error e => (mc, some e)
  | .ok classifier => deployClassifierInstance a.faults mc classifier

def accessRequestGet (clusterNamespace clusterName : String) (clusterType : ClusterType) : Option GoError :=
  match a.fleet.getAccessRequest clusterNamespace (getAccessRequestName clusterName clusterType) with
  | .ok _ => none
  | .error e => some e

def kubeconfigNotPresent : GoError := .message "accessRequest kubeconfig not present yet"

/-- `deployClassifierWithKubeconfigInCluster`, the deploy handler of push
mode; `none` as the error is a panic. -/
def deployClassifierWithKubeconfigInCluster (clusterNamespace clusterName applicant : String)
    (clusterType : ClusterType) (options : Options) (mc : ManagedCluster) :
    ManagedCluster × Option (Option GoError) :=
  match createAccessRequest (accessRequestGet a clusterNamespace clusterName clusterType) a.createAccessRequest
      clusterNamespace clusterName clusterType options with
  | none => (mc, none)
  | some (some e, _) => (mc, some (some e))
  | some (none, _) =>
  match getKubeconfigFromAccessRequest a.fleet clusterNamespace clusterName clusterType with
  | .error e => (mc, some (some e))
  | .ok none => (mc, some (some kubeconfigNotPresent))
  | .ok (some kubeconfig) =>
  match updateSecretWithAccessManagementKubeconfig lib a cs applicant kubeconfig mc with
  | (mc, none) => (mc, none)
  | (mc, some (some e)) => (mc, some (some e))
  | (mc, some none) =>
  match deployCRDs lib a mc with
  | (mc, some e) => (mc, some (some e))
  | (mc, none) =>
  match a.getKubernetesRestConfig with
  | some e => (mc, some (some e))
  | none =>
  match deployClassifierAgent lib a.faults mc clusterNamespace clusterName "send-reports" clusterType with
  | (mc, some e) => (mc, some (some e))
  | (mc, none) =>
  match getClassifierAndClusterClient a cs applicant with
  | .error e => (mc, some (some e))
  | .ok classifier => noPanic (deployClassifierInstance a.faults mc classifier)

/-- `undeployClassifierFromCluster` -/
def undeployClassifierFromCluster (applicant : String) (mc : ManagedCluster) : ManagedCluster × Option GoError :=
  match a.getCluster with
  | .error e => if isNotFound e then (mc, none) else (mc, some e)
  | .ok true => (mc, none)
  | .ok false =>
  match a.initScheme with
  | some e => (mc, some e)
  | none =>
  match a.getKubernetesClient with
  | some e => (mc, some e)
  | none =>
  match get a.faults mc.classifiers (instanceRef applicant) with
  | .error e => if isNotFound e then (mc, none) else (mc, some e)
  | .ok _ => mc.withClassifiers (delete a.faults mc.classifiers (instanceRef applicant))

/-- The deployer running a request: the handler it names, for the request's
cluster and applicant, with its options. `none` as the error is a panic. -/
def runRequest (r : Request) (mc : ManagedCluster) : ManagedCluster × Option (Option GoError) :=
  match r.handler with
  | .deployClassifierInCluster =>
    noPanic (deployClassifierInCluster lib a cs r.key.clusterNamespace r.key.clusterName r.key.applicant
      r.key.clusterType mc)
  | .deployClassifierWithKubeconfigInCluster =>
    deployClassifierWithKubeconfigInCluster lib a cs r.key.clusterNamespace r.key.clusterName r.key.applicant
      r.key.clusterType r.options mc
  | .undeployClassifierFromCluster => noPanic (undeployClassifierFromCluster a r.key.applicant mc)

end Handlers


section Steps

variable (lib : Library) (faults : RemoteCall → Option String)

theorem deployClassifierInstance_writes (mc : ManagedCluster) (c : Classifier) :
    (∃ f, (deployClassifierInstance faults mc c).1 = { mc with classifiers := f }) ∧
      Writes mc.classifiers (instanceRef c.name) (some c.spec)
        ((deployClassifierInstance faults mc c).1.classifiers, (deployClassifierInstance faults mc c).2) := by
  unfold deployClassifierInstance
  split
  · split
    · exact ⟨⟨_, rfl⟩, create_writes ..⟩
    · exact ⟨⟨_, rfl⟩, .inr ⟨by simp, rfl⟩⟩
  · exact ⟨⟨_, rfl⟩, update_writes ..⟩

theorem applyManifest_applied (mc : ManagedCluster) (yaml : String) :
    ∃ f, (applyManifest lib faults mc yaml).1 = { mc with applied := f } := by
  unfold applyManifest applyUnstructured
  split
  · exact ⟨_, rfl⟩
  · split <;> exact ⟨_, rfl⟩

theorem applyManifests_applied (mc : ManagedCluster) (yamls : List String) :
    ∃ f, (applyManifests lib faults mc yamls).1 = { mc with applied := f } := by
  induction yamls generalizing mc with
  | nil => exact ⟨_, rfl⟩
  | cons y ys ih =>
    obtain ⟨f, hf⟩ := applyManifest_applied lib faults mc y
    rcases h : applyManifest lib faults mc y with ⟨mc', _ | e⟩ <;> rw [h] at hf <;>
      simp only [applyManifests, h] <;> subst hf
    · obtain ⟨g, hg⟩ := ih { mc with applied := f }
      exact ⟨g, hg⟩
    · exact ⟨f, rfl⟩

theorem createSecretNamespace_namespaces (mc : ManagedCluster) :
    ∃ f, (createSecretNamespace lib faults mc).1 = { mc with namespaces := f } := by
  unfold createSecretNamespace
  split
  · exact ⟨_, rfl⟩
  · split <;> exact ⟨_, rfl⟩

variable (a : Answers) (cs : Classifiers)

theorem deployCRDs_applied (mc : ManagedCluster) :
    ∃ f, (deployCRDs lib a mc).1 = { mc with applied := f } := by
  obtain ⟨f, hf⟩ := applyManifest_applied lib a.faults mc lib.classifierCRDYAML
  unfold deployCRDs deployClassifierCRD deployClassifierReportCRD
  split
  · exact ⟨_, rfl⟩
  rcases h : applyManifest lib a.faults mc lib.classifierCRDYAML with ⟨mc', _ | e⟩ <;> rw [h] at hf <;>
    simp only [h] <;> subst hf
  · obtain ⟨g, hg⟩ := applyManifest_applied lib a.faults { mc with applied := f } lib.classifierReportCRDYAML
    exact ⟨g, hg⟩
  · exact ⟨f, rfl⟩

theorem getClassifierAndClusterClient_ok {n : String} {c : Classifier}
    (h : getClassifierAndClusterClient a cs n = .ok c) :
    cs.lookup n = some c ∧ c.deleting = false ∧ c.name = n := by
  unfold getClassifierAndClusterClient at h
  split at h
  · cases h
  split at h
  · cases h
  rename_i c' hc
  split at h
  · cases h
  rename_i hd
  split at h <;> try cases h
  split at h <;> try cases h
  split at h <;> cases h
  exact ⟨hc, by simpa using hd, cs.named n _ hc⟩

theorem updateSecret_frame (applicant : String) (kubeconfig : List UInt8) (mc : ManagedCluster) :
    ∃ f g, (updateSecretWithAccessManagementKubeconfig lib a cs applicant kubeconfig mc).1 =
      { mc with namespaces := f, secrets := g } := by
  obtain ⟨f, hf⟩ := createSecretNamespace_namespaces lib a.faults mc
  unfold updateSecretWithAccessManagementKubeconfig
  split
  · exact ⟨_, _, rfl⟩
  rcases h : createSecretNamespace lib a.faults mc with ⟨mc', _ | e⟩ <;> rw [h] at hf <;>
    simp only [h] <;> subst hf
  · split
    · exact ⟨_, _, rfl⟩
    · split
      · exact ⟨_, _, rfl⟩
      · split <;> exact ⟨_, _, rfl⟩
  · exact ⟨_, _, rfl⟩


theorem deployClassifierAgent_applied (mc : ManagedCluster) (ns n mode : String) (t : ClusterType) :
    ∃ f, (deployClassifierAgent lib a.faults mc ns n mode t).1 = { mc with applied := f } :=
  applyManifests_applied lib a.faults mc _

theorem deployClassifierInCluster_cases (ns n app : String) (t : ClusterType) (mc : ManagedCluster) :
    let p := deployClassifierInCluster lib a cs ns n app t mc
    (p.2 ≠ none ∧ p.1.classifiers = mc.classifiers) ∨
      (p.2 = none ∧ ∃ c, cs.lookup app = some c ∧ c.deleting = false ∧
        p.1.classifiers = Function.update mc.classifiers (instanceRef app) (some c.spec)) := by
  dsimp only
  obtain ⟨f1, h1⟩ := deployCRDs_applied lib a mc
  unfold deployClassifierInCluster
  split
  · exact .inl ⟨by simp, rfl⟩
  rcases hc : deployCRDs lib a mc with ⟨mc1, _ | e⟩ <;> rw [hc] at h1 <;> simp only [hc] <;> subst h1
  swap
  · exact .inl ⟨by simp, rfl⟩
  obtain ⟨f2, h2⟩ := deployClassifierAgent_applied lib a { mc with applied := f1 } ns n "do-not-send-reports" t
  rcases ha : deployClassifierAgent lib a.faults { mc with applied := f1 } ns n "do-not-send-reports" t
    with ⟨mc2, _ | e⟩ <;> rw [ha] at h2 <;> simp only [ha] <;> subst h2
  swap
  · exact .inl ⟨by simp, rfl⟩
  rcases hg : getClassifierAndClusterClient a cs app with e | c
  · exact .inl ⟨by simp, rfl⟩
  obtain ⟨hl, hd, hn⟩ := getClassifierAndClusterClient_ok a cs hg
  have hw := (deployClassifierInstance_writes a.faults { mc with applied := f2 } c).2
  rw [hn] at hw
  rcases hw with ⟨he, hw⟩ | ⟨he, hw⟩
  · exact .inr ⟨he, c, hl, hd, hw⟩
  · exact .inl ⟨he, hw⟩

theorem deployClassifierWithKubeconfigInCluster_cases (ns n app : String) (t : ClusterType)
    (options : Options) (mc : ManagedCluster) :
    let p := deployClassifierWithKubeconfigInCluster lib a cs ns n app t options mc
    (p.2 ≠ some none ∧ p.1.classifiers = mc.classifiers) ∨
      (p.2 = some none ∧ ∃ c, cs.lookup app = some c ∧ c.deleting = false ∧
        p.1.classifiers = Function.update mc.classifiers (instanceRef app) (some c.spec)) := by
  dsimp only
  unfold deployClassifierWithKubeconfigInCluster
  split
  · exact .inl ⟨by simp, rfl⟩
  · exact .inl ⟨by simp, rfl⟩
  split
  · exact .inl ⟨by simp, rfl⟩
  · exact .inl ⟨by simp, rfl⟩
  rename_i kubeconfig _
  obtain ⟨f0, g0, h0⟩ := updateSecret_frame lib a cs app kubeconfig mc
  rcases hu : updateSecretWithAccessManagementKubeconfig lib a cs app kubeconfig mc
    with ⟨mc0, _ | _ | e⟩ <;> rw [hu] at h0 <;> simp only [hu] <;> subst h0
  · exact .inl ⟨by simp, rfl⟩
  swap
  · exact .inl ⟨by simp, rfl⟩
  obtain ⟨f1, h1⟩ := deployCRDs_applied lib a { mc with namespaces := f0, secrets := g0 }
  rcases hc : deployCRDs lib a { mc with namespaces := f0, secrets := g0 } with ⟨mc1, _ | e⟩ <;>
    rw [hc] at h1 <;> simp only [hc] <;> subst h1
  swap
  · exact .inl ⟨by simp, rfl⟩
  split
  · exact .inl ⟨by simp, rfl⟩
  obtain ⟨f2, h2⟩ := deployClassifierAgent_applied lib a { mc with namespaces := f0, secrets := g0, applied := f1 }
    ns n "send-reports" t
  rcases ha : deployClassifierAgent lib a.faults { mc with namespaces := f0, secrets := g0, applied := f1 }
    ns n "send-reports" t with ⟨mc2, _ | e⟩ <;> rw [ha] at h2 <;> simp only [ha] <;> subst h2
  swap
  · exact .inl ⟨by simp, rfl⟩
  rcases hg : getClassifierAndClusterClient a cs app with e | c
  · exact .inl ⟨by simp, rfl⟩
  obtain ⟨hl, hd, hn⟩ := getClassifierAndClusterClient_ok a cs hg
  have hw := (deployClassifierInstance_writes a.faults { mc with namespaces := f0, secrets := g0, applied := f2 } c).2
  rw [hn] at hw
  rcases hw with ⟨he, hw⟩ | ⟨he, hw⟩
  · exact .inr ⟨by simpa [noPanic] using he, c, hl, hd, hw⟩
  · exact .inl ⟨by simpa [noPanic] using he, hw⟩

theorem undeployClassifierFromCluster_cases (app : String) (mc : ManagedCluster) :
    let p := undeployClassifierFromCluster a app mc
    (∃ f, p.1 = { mc with classifiers := f }) ∧
      ((p.1.classifiers = mc.classifiers ∧
          (p.2 = none → a.getCluster = .error .notFound ∨ a.getCluster = .ok true ∨
            mc.classifiers (instanceRef app) = none)) ∨
        (p.2 = none ∧ a.getCluster = .ok false ∧
          p.1.classifiers = Function.update mc.classifiers (instanceRef app) none)) := by
  dsimp only
  unfold undeployClassifierFromCluster
  split
  · rename_i e he
    split
    · rename_i hn
      refine ⟨⟨_, rfl⟩, .inl ⟨rfl, fun _ => .inl ?_⟩⟩
      cases e
      · exact he
      · cases hn
    · exact ⟨⟨_, rfl⟩, .inl ⟨rfl, fun h => by cases h⟩⟩
  · exact ⟨⟨_, rfl⟩, .inl ⟨rfl, fun _ => .inr (.inl ‹_›)⟩⟩
  rename_i hc
  split
  · exact ⟨⟨_, rfl⟩, .inl ⟨rfl, fun h => by cases h⟩⟩
  split
  · exact ⟨⟨_, rfl⟩, .inl ⟨rfl, fun h => by cases h⟩⟩
  split
  · rename_i e hg
    split
    · exact ⟨⟨_, rfl⟩, .inl ⟨rfl, fun _ => .inr (.inr (get_eq_notFound a.faults hg ‹_›))⟩⟩
    · exact ⟨⟨_, rfl⟩, .inl ⟨rfl, fun h => by cases h⟩⟩
  refine ⟨⟨_, rfl⟩, ?_⟩
  rcases delete_writes a.faults mc.classifiers (instanceRef app) with ⟨he, hw⟩ | ⟨he, hw⟩
  · exact .inr ⟨he, hc, hw⟩
  · exact .inl ⟨hw, fun h => absurd h he⟩

theorem runRequest_cases (r : Request) (mc : ManagedCluster) :
    let p := runRequest lib a cs r mc
    (r.handler ≠ .undeployClassifierFromCluster ∧
        ((p.2 ≠ some none ∧ p.1.classifiers = mc.classifiers) ∨
          (p.2 = some none ∧ ∃ c, cs.lookup r.key.applicant = some c ∧ c.deleting = false ∧
            p.1.classifiers = Function.update mc.classifiers (instanceRef r.key.applicant) (some c.spec)))) ∨
      (r.handler = .undeployClassifierFromCluster ∧
        (p.1.classifiers = mc.classifiers ∨
          (p.2 = some none ∧ p.1.classifiers = Function.update mc.classifiers (instanceRef r.key.applicant) none))) := by
  dsimp only
  unfold runRequest
  split <;> rename_i hh
  · refine .inl ⟨by simp [hh], ?_⟩
    rcases deployClassifierInCluster_cases lib a cs r.key.clusterNamespace r.key.clusterName r.key.applicant
      r.key.clusterType mc with ⟨he, hw⟩ | ⟨he, hw⟩
    · exact .inl ⟨by simpa [noPanic] using he, hw⟩
    · exact .inr ⟨by simp [noPanic, he], hw⟩
  · exact .inl ⟨by simp [hh], deployClassifierWithKubeconfigInCluster_cases lib a cs _ _ _ _ _ mc⟩
  · refine .inr ⟨hh, ?_⟩
    rcases (undeployClassifierFromCluster_cases a r.key.applicant mc).2 with ⟨hw, -⟩ | ⟨he, -, hw⟩
    · exact .inl hw
    · exact .inr ⟨by simp [noPanic, he], hw⟩


theorem runRequest_deployed (r : Request) (mc : ManagedCluster)
    (hh : r.handler ≠ .undeployClassifierFromCluster) (hr : (runRequest lib a cs r mc).2 = some none) :
    ∃ c, cs.lookup r.key.applicant = some c ∧ c.deleting = false ∧
      (runRequest lib a cs r mc).1.classifiers (instanceRef r.key.applicant) = some c.spec := by
  rcases runRequest_cases lib a cs r mc with ⟨-, ⟨hne, -⟩ | ⟨-, c, hl, hd, hw⟩⟩ | ⟨hu, -⟩
  · exact absurd hr hne
  · exact ⟨c, hl, hd, by rw [hw, Function.update_same]⟩
  · exact absurd hu hh

/-- An undeploy touches nothing but the applicant's Classifier instance: the
CRDs and the agent's objects, the namespace and the Secret holding the
management cluster's kubeconfig all stay. It returns nil with the instance in
place only when the cluster is not found or is marked for deletion. -/
theorem undeployClassifierFromCluster_spec (app : String) (mc : ManagedCluster) :
    let p := undeployClassifierFromCluster a app mc
    p.1.namespaces = mc.namespaces ∧ p.1.secrets = mc.secrets ∧ p.1.applied = mc.applied ∧
      (∀ ref, ref ≠ instanceRef app → p.1.classifiers ref = mc.classifiers ref) ∧
      (p.2 = none → a.getCluster = .error .notFound ∨ a.getCluster = .ok true ∨
        p.1.classifiers (instanceRef app) = none) := by
  dsimp only
  obtain ⟨⟨f, hf⟩, hc⟩ := undeployClassifierFromCluster_cases a app mc
  refine ⟨by rw [hf], by rw [hf], by rw [hf], fun ref hr => ?_, fun hn => ?_⟩
  · rcases hc with ⟨hw, -⟩ | ⟨-, -, hw⟩ <;> rw [hw]
    exact Function.update_noteq hr _ _
  · rcases hc with ⟨hw, h⟩ | ⟨-, -, hw⟩
    · rw [hw]
      exact h hn
    · exact .inr (.inr (by rw [hw, Function.update_same]))

theorem updateSecret_stored (app : String) (kubeconfig : List UInt8) (mc : ManagedCluster)
    (h : (updateSecretWithAccessManagementKubeconfig lib a cs app kubeconfig mc).2 = some none) :
    ∃ data, (updateSecretWithAccessManagementKubeconfig lib a cs app kubeconfig mc).1.secrets (secretRef lib) =
        some data ∧ data.lookup "kubeconfig" = some kubeconfig ∧
      ∀ k, k ≠ "kubeconfig" → data.lookup k = (mc.secrets (secretRef lib)).bind (·.lookup k) := by
  obtain ⟨f, hf⟩ := createSecretNamespace_namespaces lib a.faults mc
  unfold updateSecretWithAccessManagementKubeconfig at h ⊢
  rcases hg : getClassifierAndClusterClient a cs app with e | c <;> simp only [hg] at h ⊢
  · cases h
  rcases hn : createSecretNamespace lib a.faults mc with ⟨mc1, _ | e⟩ <;> rw [hn] at hf <;>
    simp only [hn] at h ⊢ <;> subst hf
  swap
  · cases h
  rcases hs : get a.faults mc.secrets (secretRef lib) with e | data <;> simp only [hs] at h ⊢
  · have he : (create a.faults mc.secrets (secretRef lib) [("kubeconfig", kubeconfig)]).2 = none := by
      simpa [noPanic, ManagedCluster.withSecrets] using h
    rcases create_writes a.faults mc.secrets (secretRef lib) [("kubeconfig", kubeconfig)] with ⟨-, hw⟩ | ⟨hne, -⟩
    · refine ⟨[("kubeconfig", kubeconfig)], by simp [noPanic, ManagedCluster.withSecrets, hw],
        lookup_cons_self _ _, fun k hk => ?_⟩
      rw [create_nil a.faults he, lookup_cons_ne _ _ hk]
      rfl
    · exact absurd he hne
  have hd := get_eq_ok a.faults hs
  by_cases hk : data.lookup "kubeconfig" = some kubeconfig
  · exact ⟨data, by simpa [hk] using hd, hk, fun k _ => by rw [hd]; rfl⟩
  simp only [hk, if_false] at h ⊢
  rcases ha : assignEntry data "kubeconfig" kubeconfig with _ | data' <;> simp only [ha] at h ⊢
  · cases h
  obtain ⟨hk', hother⟩ := assignEntry_lookup ha
  rcases update_writes a.faults mc.secrets (secretRef lib) data' with ⟨-, hw⟩ | ⟨hne, -⟩
  · exact ⟨data', by simp [noPanic, ManagedCluster.withSecrets, hw], hk', fun k hk => by rw [hother k hk, hd]; rfl⟩
  · exact absurd (by simpa [noPanic, ManagedCluster.withSecrets] using h) hne

/-- `updateSecretWithAccessManagementKubeconfig`. When it returns nil, the
Secret holds the kubeconfig under `kubeconfig` and every other entry it held.
It panics exactly when it gets past the classifier and the namespace and reads
the Secret back with no data. -/
theorem updateSecret_spec (app : String) (kubeconfig : List UInt8) (mc : ManagedCluster) :
    let p := updateSecretWithAccessManagementKubeconfig lib a cs app kubeconfig mc
    (p.2 = some none → ∃ data, p.1.secrets (secretRef lib) = some data ∧
        data.lookup "kubeconfig" = some kubeconfig ∧
        ∀ k, k ≠ "kubeconfig" → data.lookup k = (mc.secrets (secretRef lib)).bind (·.lookup k)) ∧
      (p.2 = none ↔ (∃ c, getClassifierAndClusterClient a cs app = .ok c) ∧
        (createSecretNamespace lib a.faults mc).2 = none ∧ a.faults ⟨.get, secretRef lib⟩ = none ∧
        mc.secrets (secretRef lib) = some []) := by
  dsimp only
  refine ⟨updateSecret_stored lib a cs app kubeconfig mc, ?_⟩
  obtain ⟨f, hf⟩ := createSecretNamespace_namespaces lib a.faults mc
  unfold updateSecretWithAccessManagementKubeconfig
  rcases hg : getClassifierAndClusterClient a cs app with e | c
  · simp
  rcases hn : createSecretNamespace lib a.faults mc with ⟨mc1, _ | e⟩ <;> rw [hn] at hf <;>
    simp only [hn] <;> subst hf
  swap
  · simp
  rcases hs : get a.faults mc.secrets (secretRef lib) with e | data
  · simp only [noPanic, ManagedCluster.withSecrets, reduceCtorEq, false_iff, not_and]
    intro _ _ hf hd
    simp [get, hf, hd] at hs
  have hd := get_eq_ok a.faults hs
  by_cases hk : data.lookup "kubeconfig" = some kubeconfig
  · simp only [hk, if_true, reduceCtorEq, false_iff, not_and]
    intro _ _ _ h
    rw [hd] at h
    cases h
    cases hk
  simp only [hk, if_false]
  rcases ha : assignEntry data "kubeconfig" kubeconfig with _ | data'
  · have hf0 : a.faults ⟨.get, secretRef lib⟩ = none := by
      unfold get at hs
      split at hs
      · cases hs
      · assumption
    have hd0 : data = [] := by
      cases data
      · rfl
      · simp [assignEntry] at ha
    simp [hf0, hd, hd0]
  · simp only [noPanic, ManagedCluster.withSecrets, reduceCtorEq, false_iff, not_and]
    intro _ _ _ hd'
    rw [hd] at hd'
    cases hd'
    simp [assignEntry] at ha

section Keeps

open ManagedCluster

variable {lib a cs}

theorem keeps_bind {α : Type} {mc : ManagedCluster} {p : ManagedCluster × Option GoError}
    {k : ManagedCluster → ManagedCluster × α} {stop : ManagedCluster → GoError → α}
    (hp : Keeps mc p.1) (hk : ∀ mc', Keeps mc mc' → Keeps mc (k mc').1) :
    Keeps mc (match p with
      | (mc', some e) => (mc', stop mc' e)
      | (mc', none) => k mc').1 := by
  rcases p with ⟨mc', _ | e⟩
  · exact hk mc' hp
  · exact hp

variable (lib a cs)

theorem createSecretNamespace_keeps (faults : RemoteCall → Option String) (mc : ManagedCluster) :
    Keeps mc (createSecretNamespace lib faults mc).1 := by
  unfold createSecretNamespace
  split
  · exact .refl mc
  · split
    · exact ⟨(create_writes faults mc.namespaces (namespaceRef lib) ()).grows, fun _ h => h, fun _ h => h⟩
    · exact .refl mc

theorem applyManifest_keeps (faults : RemoteCall → Option String) (mc : ManagedCluster) (yaml : String) :
    Keeps mc (applyManifest lib faults mc yaml).1 := by
  unfold applyManifest applyUnstructured
  split
  · exact .refl mc
  · split
    · exact .refl mc
    · exact ⟨fun _ h => h, fun _ h => h, (apply_writes faults mc.applied _ _).grows⟩

theorem applyManifests_keeps (faults : RemoteCall → Option String) (mc : ManagedCluster) (yamls : List String) :
    Keeps mc (applyManifests lib faults mc yamls).1 := by
  induction yamls generalizing mc with
  | nil => exact .refl mc
  | cons y ys ih =>
    exact keeps_bind (applyManifest_keeps lib faults mc y) fun mc' h => h.trans (ih mc')

theorem deployCRDs_keeps (mc : ManagedCluster) : Keeps mc (deployCRDs lib a mc).1 := by
  unfold deployCRDs deployClassifierCRD deployClassifierReportCRD
  split
  · exact .refl mc
  · exact keeps_bind (applyManifest_keeps lib a.faults mc _) fun mc' h =>
      h.trans (applyManifest_keeps lib a.faults mc' _)

theorem deployClassifierInstance_keeps (faults : RemoteCall → Option String) (mc : ManagedCluster)
    (c : Classifier) : Keeps mc (deployClassifierInstance faults mc c).1 := by
  obtain ⟨⟨f, hf⟩, -⟩ := deployClassifierInstance_writes faults mc c
  rw [hf]
  exact .refl mc

theorem updateSecret_keeps (app : String) (kubeconfig : List UInt8) (mc : ManagedCluster) :
    Keeps mc (updateSecretWithAccessManagementKubeconfig lib a cs app kubeconfig mc).1 := by
  unfold updateSecretWithAccessManagementKubeconfig
  split
  · exact .refl mc
  refine keeps_bind (createSecretNamespace_keeps lib a.faults mc) fun mc' h => h.trans ?_
  have hw : ∀ data, Writes mc'.secrets (secretRef lib) (some data)
      (update a.faults mc'.secrets (secretRef lib) data) := update_writes a.faults mc'.secrets _
  split
  · exact ⟨fun _ h => h, (create_writes a.faults mc'.secrets (secretRef lib) _).grows, fun _ h => h⟩
  · split
    · exact .refl mc'
    · split
      · exact .refl mc'
      · exact ⟨fun _ h => h, (hw _).grows, fun _ h => h⟩

theorem deployClassifierAgent_keeps (faults : RemoteCall → Option String) (mc : ManagedCluster)
    (ns n mode : String) (t : ClusterType) : Keeps mc (deployClassifierAgent lib faults mc ns n mode t).1 :=
  applyManifests_keeps lib faults mc _

theorem deployClassifierInCluster_keeps (ns n app : String) (t : ClusterType) (mc : ManagedCluster) :
    Keeps mc (deployClassifierInCluster lib a cs ns n app t mc).1 := by
  unfold deployClassifierInCluster
  split
  · exact .refl mc
  have h₁ := deployCRDs_keeps lib a mc
  rcases hc : deployCRDs lib a mc with ⟨m₁, _ | e⟩ <;> rw [hc] at h₁ <;> dsimp only
  · have h₂ := h₁.trans (deployClassifierAgent_keeps lib a.faults m₁ ns n "do-not-send-reports" t)
    rcases ha : deployClassifierAgent lib a.faults m₁ ns n "do-not-send-reports" t with ⟨m₂, _ | e⟩ <;>
      rw [ha] at h₂ <;> dsimp only
    · split
      · exact h₂
      · exact h₂.trans (deployClassifierInstance_keeps a.faults m₂ _)
    · exact h₂
  · exact h₁

theorem deployClassifierWithKubeconfigInCluster_keeps (ns n app : String) (t : ClusterType) (options : Options)
    (mc : ManagedCluster) : Keeps mc (deployClassifierWithKubeconfigInCluster lib a cs ns n app t options mc).1 := by
  unfold deployClassifierWithKubeconfigInCluster
  split
  · exact .refl mc
  · exact .refl mc
  split
  · exact .refl mc
  · exact .refl mc
  rename_i kubeconfig _
  have h₀ := updateSecret_keeps lib a cs app kubeconfig mc
  rcases hu : updateSecretWithAccessManagementKubeconfig lib a cs app kubeconfig mc with ⟨m₀, _ | _ | e⟩ <;>
    rw [hu] at h₀ <;> dsimp only
  · exact h₀
  · have h₁ := h₀.trans (deployCRDs_keeps lib a m₀)
    rcases hc : deployCRDs lib a m₀ with ⟨m₁, _ | e⟩ <;> rw [hc] at h₁ <;> dsimp only
    · split
      · exact h₁
      have h₂ := h₁.trans (deployClassifierAgent_keeps lib a.faults m₁ ns n "send-reports" t)
      rcases ha : deployClassifierAgent lib a.faults m₁ ns n "send-reports" t with ⟨m₂, _ | e⟩ <;>
        rw [ha] at h₂ <;> dsimp only
      · split
        · exact h₂
        · exact h₂.trans (deployClassifierInstance_keeps a.faults m₂ _)
      · exact h₂
    · exact h₁
  · exact h₀

theorem runRequest_keeps (r : Request) (mc : ManagedCluster) : Keeps mc (runRequest lib a cs r mc).1 := by
  unfold runRequest
  split
  · exact deployClassifierInCluster_keeps lib a cs _ _ _ _ mc
  · exact deployClassifierWithKubeconfigInCluster_keeps lib a cs _ _ _ _ _ mc
  · obtain ⟨⟨f, hf⟩, -⟩ := undeployClassifierFromCluster_cases a r.key.applicant mc
    rw [noPanic, hf]
    exact .refl mc

end Keeps

theorem updateSecret_panic (app : String) (kubeconfig : List UInt8) (mc : ManagedCluster)
    (h : (updateSecretWithAccessManagementKubeconfig lib a cs app kubeconfig mc).2 = none) :
    mc.secrets (secretRef lib) = some [] := by
  obtain ⟨f, hf⟩ := createSecretNamespace_namespaces lib a.faults mc
  unfold updateSecretWithAccessManagementKubeconfig at h
  split at h
  · cases h
  rcases hn : createSecretNamespace lib a.faults mc with ⟨mc1, _ | e⟩ <;> rw [hn] at hf h <;> dsimp only at h
  · subst hf
    rcases hs : get a.faults mc.secrets (secretRef lib) with e | data <;> simp only [hs] at h
    · cases h
    split at h
    · cases h
    rcases ha : assignEntry data "kubeconfig" kubeconfig with _ | data' <;> simp only [ha] at h
    · obtain rfl : data = [] := by
        cases data
        · rfl
        · simp [assignEntry] at ha
      exact get_eq_ok a.faults hs
    · cases h
  · cases h

theorem runRequest_panic (r : Request) (mc : ManagedCluster) (h : (runRequest lib a cs r mc).2 = none) :
    r.handler = .deployClassifierWithKubeconfigInCluster ∧
      (createAccessRequest (accessRequestGet a r.key.clusterNamespace r.key.clusterName r.key.clusterType)
          a.createAccessRequest r.key.clusterNamespace r.key.clusterName r.key.clusterType r.options = none ∨
        mc.secrets (secretRef lib) = some []) := by
  unfold runRequest at h
  split at h <;> rename_i hh
  · cases h
  swap
  · cases h
  refine ⟨hh, ?_⟩
  unfold deployClassifierWithKubeconfigInCluster at h
  split at h
  · exact .inl ‹_›
  · cases h
  split at h
  · cases h
  · cases h
  rcases hu : updateSecretWithAccessManagementKubeconfig lib a cs r.key.applicant _ mc with ⟨mc0, _ | _ | e⟩ <;>
    rw [hu] at h <;> dsimp only at h
  · exact .inr (updateSecret_panic lib a cs _ _ mc (by rw [hu]))
  · split at h
    · cases h
    split at h
    · cases h
    split at h
    · cases h
    split at h
    · cases h
    · cases h
  · cases h

theorem deployClassifierInCluster_secrets (ns n app : String) (t : ClusterType) (mc : ManagedCluster) :
    (deployClassifierInCluster lib a cs ns n app t mc).1.secrets = mc.secrets := by
  obtain ⟨f1, h1⟩ := deployCRDs_applied lib a mc
  unfold deployClassifierInCluster
  split
  · rfl
  rcases hc : deployCRDs lib a mc with ⟨mc1, _ | e⟩ <;> rw [hc] at h1 <;> simp only [hc] <;> subst h1
  swap
  · rfl
  obtain ⟨f2, h2⟩ := deployClassifierAgent_applied lib a { mc with applied := f1 } ns n "do-not-send-reports" t
  rcases ha : deployClassifierAgent lib a.faults { mc with applied := f1 } ns n "do-not-send-reports" t
    with ⟨mc2, _ | e⟩ <;> rw [ha] at h2 <;> simp only [ha] <;> subst h2
  swap
  · rfl
  split
  · rfl
  obtain ⟨⟨g, hg⟩, -⟩ := deployClassifierInstance_writes a.faults { mc with applied := f2 } ‹_›
  rw [hg]

theorem deployClassifierWithKubeconfigInCluster_secrets (ns n app : String) (t : ClusterType)
    (options : Options) (mc : ManagedCluster) :
    (deployClassifierWithKubeconfigInCluster lib a cs ns n app t options mc).1.secrets = mc.secrets ∨
      ∃ kubeconfig, (deployClassifierWithKubeconfigInCluster lib a cs ns n app t options mc).1.secrets =
        (updateSecretWithAccessManagementKubeconfig lib a cs app kubeconfig mc).1.secrets := by
  unfold deployClassifierWithKubeconfigInCluster
  split
  · exact .inl rfl
  · exact .inl rfl
  split
  · exact .inl rfl
  · exact .inl rfl
  rename_i kubeconfig _
  refine .inr ⟨kubeconfig, ?_⟩
  obtain ⟨f0, g0, h0⟩ := updateSecret_frame lib a cs app kubeconfig mc
  rcases hu : updateSecretWithAccessManagementKubeconfig lib a cs app kubeconfig mc
    with ⟨mc0, _ | _ | e⟩ <;> simp only [hu]
  rw [hu] at h0
  subst h0
  obtain ⟨f1, h1⟩ := deployCRDs_applied lib a { mc with namespaces := f0, secrets := g0 }
  rcases hc : deployCRDs lib a { mc with namespaces := f0, secrets := g0 } with ⟨mc1, _ | e⟩ <;>
    rw [hc] at h1 <;> simp only [hc] <;> subst h1
  swap
  · rfl
  split
  · rfl
  obtain ⟨f2, h2⟩ := deployClassifierAgent_applied lib a { mc with namespaces := f0, secrets := g0, applied := f1 }
    ns n "send-reports" t
  rcases ha : deployClassifierAgent lib a.faults { mc with namespaces := f0, secrets := g0, applied := f1 }
    ns n "send-reports" t with ⟨mc2, _ | e⟩ <;> rw [ha] at h2 <;> simp only [ha] <;> subst h2
  swap
  · rfl
  split
  · rfl
  obtain ⟨⟨g, hg⟩, -⟩ := deployClassifierInstance_writes a.faults
    { mc with namespaces := f0, secrets := g0, applied := f2 } ‹_›
  simp only [noPanic, hg]

theorem updateSecret_secret (app : String) (kubeconfig : List UInt8) (mc : ManagedCluster)
    (h : mc.secrets (secretRef lib) ≠ some []) :
    (updateSecretWithAccessManagementKubeconfig lib a cs app kubeconfig mc).1.secrets (secretRef lib) ≠ some [] := by
  obtain ⟨f, hf⟩ := createSecretNamespace_namespaces lib a.faults mc
  unfold updateSecretWithAccessManagementKubeconfig
  split
  · exact h
  rcases hn : createSecretNamespace lib a.faults mc with ⟨mc1, _ | e⟩ <;> rw [hn] at hf <;> dsimp only <;> subst hf
  swap
  · exact h
  rcases hs : get a.faults mc.secrets (secretRef lib) with e | data <;> dsimp only
  · rcases create_writes a.faults mc.secrets (secretRef lib) [("kubeconfig", kubeconfig)] with ⟨-, hw⟩ | ⟨-, hw⟩ <;>
      simp only [noPanic, ManagedCluster.withSecrets, hw]
    · simp
    · exact h
  split
  · exact h
  rcases ha : assignEntry data "kubeconfig" kubeconfig with _ | data'
  · exact h
  rcases update_writes a.faults mc.secrets (secretRef lib) data' with ⟨-, hw⟩ | ⟨-, hw⟩ <;>
    simp only [noPanic, ManagedCluster.withSecrets, hw]
  · rw [Function.update_same]
    intro he
    have := (assignEntry_lookup ha).1
    rw [Option.some.inj he] at this
    cases this
  · exact h

theorem runRequest_secret (r : Request) (mc : ManagedCluster) (h : mc.secrets (secretRef lib) ≠ some []) :
    (runRequest lib a cs r mc).1.secrets (secretRef lib) ≠ some [] := by
  unfold runRequest
  split
  · rw [noPanic, deployClassifierInCluster_secrets]
    exact h
  · rcases deployClassifierWithKubeconfigInCluster_secrets lib a cs r.key.clusterNamespace r.key.clusterName
      r.key.applicant r.key.clusterType r.options mc with hs | ⟨kc, hs⟩ <;> rw [hs]
    · exact h
    · exact updateSecret_secret lib a cs _ kc mc h
  · obtain ⟨⟨f, hf⟩, -⟩ := undeployClassifierFromCluster_cases a r.key.applicant mc
    rw [noPanic, hf]
    exact h

end Steps

end Sveltos.Handlers
