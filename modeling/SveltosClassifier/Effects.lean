import SveltosClassifier.Handlers

/-!
# What a handler run leaves on a managed cluster

Two facts about the deployer's handlers as wholes, beyond what each step
writes.

A deploy that returns nil has done all of its work: the Classifier and
ClassifierReport CRDs and every manifest of the agent were decoded and are
held by the cluster, the applicant's instance holds the spec of the live
classifier, and in push mode the namespace exists and the Secret holds the
kubeconfig the AccessRequest carries.

The deployer can run a request more than once: a worker restarts, or the
reconciler asks for the same deploy again. A handler run a second time with
the same answers, on the cluster its first run left, leaves that cluster as it
is. Three facts give it. Server-side apply writes what the manifests hold whatever
the cluster holds: the CRD and agent steps are one fixed sequence of writes up
to the first error, and a sequence written twice leaves what it leaves once.
The steps that read before they write (the namespace, the Secret, the
Classifier instance) write only what a second run finds already there. And a
step that stops the first run on an error of its own, having written nothing,
stops the second run the same way.
-/

set_option autoImplicit false

namespace Sveltos.Effects
open Sveltos.Api Sveltos.Reads Sveltos.Async Sveltos.Endpoint Sveltos.Handlers

section Success

variable (lib : Library) (faults : RemoteCall → Option String)

def Applied (yamls : List String) (mc : ManagedCluster) : Prop :=
  ∀ yaml ∈ yamls, ∃ u, lib.getUnstructured yaml = .ok u ∧ mc.applied u.ref ≠ none

variable {lib}

theorem Applied.keeps {yamls : List String} {mc mc' : ManagedCluster} (h : Applied lib yamls mc)
    (hk : ManagedCluster.Keeps mc mc') : Applied lib yamls mc' :=
  fun y hy => (h y hy).imp fun _ hu => ⟨hu.1, hk.2.2 _ hu.2⟩

theorem Applied.append {xs ys : List String} {mc : ManagedCluster} (h : Applied lib xs mc)
    (h' : Applied lib ys mc) : Applied lib (xs ++ ys) mc :=
  fun y hy => (List.mem_append.1 hy).elim (h y) (h' y)

theorem Applied.cons_cons {x y : String} {ys : List String} {mc : ManagedCluster} (h : Applied lib [x, y] mc)
    (h' : Applied lib ys mc) : Applied lib (x :: y :: ys) mc :=
  h.append h'

variable (lib)

theorem applyManifest_ok (mc : ManagedCluster) (yaml : String) (h : (applyManifest lib faults mc yaml).2 = none) :
    Applied lib [yaml] (applyManifest lib faults mc yaml).1 := by
  intro y hy
  rw [List.mem_singleton] at hy
  subst hy
  unfold applyManifest applyUnstructured at h ⊢
  rcases hu : lib.getUnstructured y with e | u <;> simp only [hu] at h ⊢
  · cases h
  refine ⟨u, rfl, ?_⟩
  rcases hd : faults ⟨.discover, ⟨u.ref.kind, u.ref.namespace, ""⟩⟩ with _ | t <;> simp only [hd] at h ⊢
  · rcases apply_writes faults mc.applied u.ref u.body with ⟨-, hw⟩ | ⟨hne, -⟩
    · simp [ManagedCluster.withApplied, hw]
    · exact absurd h hne
  · cases h

theorem applyManifests_ok (mc : ManagedCluster) (yamls : List String)
    (h : (applyManifests lib faults mc yamls).2 = none) : Applied lib yamls (applyManifests lib faults mc yamls).1 := by
  induction yamls generalizing mc with
  | nil => exact fun _ h => nomatch h
  | cons y ys ih =>
    rcases hp : applyManifest lib faults mc y with ⟨m, _ | e⟩ <;> simp only [applyManifests, hp] at h ⊢
    · have hy := applyManifest_ok lib faults mc y (by rw [hp])
      rw [hp] at hy
      exact (hy.keeps (applyManifests_keeps lib faults m ys)).append (ih m h)
    · cases h

theorem deployClassifierAgent_ok (mc : ManagedCluster) (ns n mode : String) (t : ClusterType)
    (h : (deployClassifierAgent lib faults mc ns n mode t).2 = none) :
    Applied lib (stringsSplit (agentYAML lib ns n mode t) "---") (deployClassifierAgent lib faults mc ns n mode t).1 :=
  applyManifests_ok lib faults mc _ h

theorem createSecretNamespace_ok (mc : ManagedCluster) (h : (createSecretNamespace lib faults mc).2 = none) :
    (createSecretNamespace lib faults mc).1.namespaces (namespaceRef lib) ≠ none := by
  unfold createSecretNamespace at h ⊢
  rcases hg : Handlers.get faults mc.namespaces (namespaceRef lib) with e | u <;> simp only [hg] at h ⊢
  · by_cases hn : isNotFound e = true <;> simp only [hn, if_true, if_false] at h ⊢
    · rcases create_writes faults mc.namespaces (namespaceRef lib) () with ⟨-, hw⟩ | ⟨hne, -⟩
      · simp [ManagedCluster.withNamespaces, hw]
      · exact absurd h hne
    · simp at h
  · simp [get_eq_ok faults hg]

theorem deployCRDs_ok (a : Answers) (mc : ManagedCluster) (h : (deployCRDs lib a mc).2 = none) :
    Applied lib [lib.classifierCRDYAML, lib.classifierReportCRDYAML] (deployCRDs lib a mc).1 := by
  unfold deployCRDs deployClassifierCRD deployClassifierReportCRD at h ⊢
  rcases hr : a.getKubernetesRestConfig with _ | e <;> simp only [hr] at h ⊢
  · rcases hp : applyManifest lib a.faults mc lib.classifierCRDYAML with ⟨m, _ | e⟩ <;> simp only [hp] at h ⊢
    · have hc := applyManifest_ok lib a.faults mc _ (by rw [hp])
      rw [hp] at hc
      exact (hc.keeps (applyManifest_keeps lib a.faults m _)).append (applyManifest_ok lib a.faults m _ h)
    · cases h
  · cases h

end Success

section Writes

def writeAll (us : List Unstructured) (objs : Ref → Option String) : Ref → Option String :=
  us.foldl (fun objs u => Function.update objs u.ref (some u.body)) objs

theorem writeAll_append (us vs : List Unstructured) (objs : Ref → Option String) :
    writeAll (us ++ vs) objs = writeAll vs (writeAll us objs) :=
  List.foldl_append _ _ _ _

theorem writeAll_frame (us : List Unstructured) (objs : Ref → Option String) (ref : Ref)
    (h : ref ∉ us.map (·.ref)) : writeAll us objs ref = objs ref := by
  induction us generalizing objs with
  | nil => rfl
  | cons u us ih =>
    simp only [List.map_cons, List.mem_cons, not_or] at h
    exact (ih _ h.2).trans (Function.update_noteq h.1 _ _)

theorem writeAll_congr (us : List Unstructured) {objs objs' : Ref → Option String}
    (h : ∀ ref, ref ∉ us.map (·.ref) → objs ref = objs' ref) : writeAll us objs = writeAll us objs' := by
  induction us generalizing objs objs' with
  | nil => exact funext fun ref => h ref (List.not_mem_nil _)
  | cons u us ih =>
    refine ih fun ref hr => ?_
    dsimp only
    by_cases he : ref = u.ref
    · rw [he, Function.update_same, Function.update_same]
    · rw [Function.update_noteq he, Function.update_noteq he]
      exact h ref (by simp only [List.map_cons, List.mem_cons, not_or]; exact ⟨he, hr⟩)

theorem writeAll_writeAll (us : List Unstructured) (objs : Ref → Option String) :
    writeAll us (writeAll us objs) = writeAll us objs :=
  writeAll_congr us (writeAll_frame us objs)

theorem writeAll_writeAll_twice (us vs : List Unstructured) (objs : Ref → Option String) :
    writeAll vs (writeAll us (writeAll vs (writeAll us objs))) = writeAll vs (writeAll us objs) := by
  rw [← writeAll_append us vs objs, ← writeAll_append us vs, writeAll_writeAll]

def Blind (step : ManagedCluster → ManagedCluster × Option GoError) : Prop :=
  ∃ us e, ∀ mc, step mc = ({ mc with applied := writeAll us mc.applied }, e)

variable (lib : Library) (faults : RemoteCall → Option String)

theorem applyManifest_blind (yaml : String) : Blind fun mc => applyManifest lib faults mc yaml := by
  unfold applyManifest applyUnstructured Handlers.apply
  rcases lib.getUnstructured yaml with e | u
  · exact ⟨[], some e, fun _ => rfl⟩
  dsimp only
  rcases faults ⟨.discover, ⟨u.ref.kind, u.ref.namespace, ""⟩⟩ with _ | t
  · dsimp only
    rcases faults ⟨.apply, u.ref⟩ with _ | t
    · exact ⟨[u], none, fun _ => rfl⟩
    · exact ⟨[], some (.message t), fun _ => rfl⟩
  · exact ⟨[], some (.message t), fun _ => rfl⟩

theorem applyManifests_blind (yamls : List String) : Blind fun mc => applyManifests lib faults mc yamls := by
  induction yamls with
  | nil => exact ⟨[], none, fun _ => rfl⟩
  | cons y ys ih =>
    obtain ⟨us, e, h⟩ := applyManifest_blind lib faults y
    obtain ⟨vs, e', h'⟩ := ih
    beta_reduce at h h'
    cases e with
    | some e => exact ⟨us, some e, fun mc => by simp only [applyManifests, h]⟩
    | none => exact ⟨us ++ vs, e', fun mc => by simp only [applyManifests, h, h', writeAll_append]⟩

theorem deployClassifierAgent_blind (ns n mode : String) (t : ClusterType) :
    Blind fun mc => deployClassifierAgent lib faults mc ns n mode t :=
  applyManifests_blind lib faults _

theorem deployCRDs_blind (a : Answers) : Blind (deployCRDs lib a) := by
  unfold deployCRDs deployClassifierCRD deployClassifierReportCRD
  rcases a.getKubernetesRestConfig with _ | e
  · obtain ⟨us, e, h⟩ := applyManifest_blind lib a.faults lib.classifierCRDYAML
    obtain ⟨vs, e', h'⟩ := applyManifest_blind lib a.faults lib.classifierReportCRDYAML
    beta_reduce at h h'
    cases e with
    | some e => exact ⟨us, some e, fun mc => by simp only [h]⟩
    | none => exact ⟨us ++ vs, e', fun mc => by simp only [h, h', writeAll_append]⟩
  · exact ⟨[], some e, fun _ => rfl⟩

end Writes

section Steps

variable (lib : Library) (faults : RemoteCall → Option String)

theorem retry_of_instances {α : Type} (step : ManagedCluster → ManagedCluster × α) (ref : Ref)
    (v : Option ClassifierSpec)
    (h : ∀ mc, ∃ f, (step mc).1 = { mc with classifiers := f } ∧
      (f = mc.classifiers ∨ f = Function.update mc.classifiers ref v)) (mc : ManagedCluster) :
    (step (step mc).1).1 = (step mc).1 := by
  obtain ⟨f, hf, rfl | rfl⟩ := h mc <;> rw [hf]
  · exact hf
  · obtain ⟨g, hg, rfl | rfl⟩ := h { mc with classifiers := Function.update mc.classifiers ref v } <;> rw [hg]
    simp only [Function.update_idem]

theorem deployClassifierInstance_retry (mc : ManagedCluster) (c : Classifier) :
    (deployClassifierInstance faults (deployClassifierInstance faults mc c).1 c).1 =
      (deployClassifierInstance faults mc c).1 := by
  refine retry_of_instances (deployClassifierInstance faults · c) (instanceRef c.name) (some c.spec) (fun mc => ?_) mc
  obtain ⟨⟨f, hf⟩, hw⟩ := deployClassifierInstance_writes faults mc c
  rw [hf] at hw
  rcases hw with ⟨-, hw⟩ | ⟨-, hw⟩
  · exact ⟨f, hf, .inr hw⟩
  · exact ⟨f, hf, .inl hw⟩

theorem deployClassifierInstance_applied (mc : ManagedCluster) (c : Classifier) (objs : Ref → Option String) :
    deployClassifierInstance faults { mc with applied := objs } c =
      ({ (deployClassifierInstance faults mc c).1 with applied := objs }, (deployClassifierInstance faults mc c).2) := by
  unfold deployClassifierInstance
  rcases get faults mc.classifiers (instanceRef c.name) with e | o
  · dsimp only
    split <;> rfl
  · rfl

theorem createSecretNamespace_retry (mc : ManagedCluster) :
    createSecretNamespace lib faults (createSecretNamespace lib faults mc).1 = createSecretNamespace lib faults mc := by
  cases hg : faults ⟨.get, namespaceRef lib⟩ <;> cases hx : mc.namespaces (namespaceRef lib) <;>
    cases hc : faults ⟨.create, namespaceRef lib⟩ <;>
    simp [createSecretNamespace, Handlers.get, create, hg, hx, hc, ManagedCluster.withNamespaces, isNotFound]

theorem deployClassifierInstance_namespaces (mc : ManagedCluster) (c : Classifier) :
    (deployClassifierInstance faults mc c).1.namespaces = mc.namespaces := by
  obtain ⟨⟨f, hf⟩, -⟩ := deployClassifierInstance_writes faults mc c
  rw [hf]

theorem deployClassifierInstance_secrets (mc : ManagedCluster) (c : Classifier) :
    (deployClassifierInstance faults mc c).1.secrets = mc.secrets := by
  obtain ⟨⟨f, hf⟩, -⟩ := deployClassifierInstance_writes faults mc c
  rw [hf]

theorem deployClassifierInstance_congr {mc mc' : ManagedCluster} (h : mc'.classifiers = mc.classifiers)
    (c : Classifier) :
    deployClassifierInstance faults mc' c =
      ({ mc' with classifiers := (deployClassifierInstance faults mc c).1.classifiers },
        (deployClassifierInstance faults mc c).2) := by
  obtain ⟨_, _, _, insts⟩ := mc'
  dsimp only at h
  subst h
  unfold deployClassifierInstance
  rcases get faults mc.classifiers (instanceRef c.name) with e | o
  · dsimp only
    split <;> rfl
  · rfl

theorem deployClassifierInstance_settled {mc mc' : ManagedCluster} {c : Classifier}
    (h : mc'.classifiers = (deployClassifierInstance faults mc c).1.classifiers) :
    (deployClassifierInstance faults mc' c).1 = mc' := by
  rw [deployClassifierInstance_congr faults h, deployClassifierInstance_retry, ← h]

theorem createSecretNamespace_frame (mc : ManagedCluster) (secrets : Ref → Option (List (String × List UInt8)))
    (objs : Ref → Option String) (insts : Ref → Option ClassifierSpec) :
    createSecretNamespace lib faults { mc with secrets := secrets, applied := objs, classifiers := insts } =
      ({ (createSecretNamespace lib faults mc).1 with secrets := secrets, applied := objs, classifiers := insts },
        (createSecretNamespace lib faults mc).2) := by
  unfold createSecretNamespace
  rcases Handlers.get faults mc.namespaces (namespaceRef lib) with e | u
  · dsimp only
    split <;> rfl
  · rfl

variable (a : Answers) (cs : Classifiers)

theorem updateSecret_instances (app : String) (kubeconfig : List UInt8) (mc : ManagedCluster)
    (objs : Ref → Option String) (insts : Ref → Option ClassifierSpec) :
    updateSecretWithAccessManagementKubeconfig lib a cs app kubeconfig { mc with applied := objs, classifiers := insts } =
      ({ (updateSecretWithAccessManagementKubeconfig lib a cs app kubeconfig mc).1 with
          applied := objs, classifiers := insts },
        (updateSecretWithAccessManagementKubeconfig lib a cs app kubeconfig mc).2) := by
  obtain ⟨f, hf⟩ := createSecretNamespace_namespaces lib a.faults mc
  unfold updateSecretWithAccessManagementKubeconfig
  rcases getClassifierAndClusterClient a cs app with e | c
  · rfl
  dsimp only
  rw [createSecretNamespace_frame]
  rcases hn : createSecretNamespace lib a.faults mc with ⟨m, _ | e⟩ <;> rw [hn] at hf <;> subst hf
  · dsimp only
    rcases Handlers.get a.faults mc.secrets (secretRef lib) with e | data
    · rfl
    · dsimp only
      split
      · rfl
      · split <;> rfl
  · rfl

theorem updateSecret_of_agree {app : String} {kubeconfig : List UInt8} {m mc : ManagedCluster}
    {e : Option (Option GoError)} (hm : updateSecretWithAccessManagementKubeconfig lib a cs app kubeconfig m = (m, e))
    (hn : mc.namespaces = m.namespaces) (hs : mc.secrets = m.secrets) :
    updateSecretWithAccessManagementKubeconfig lib a cs app kubeconfig mc = (mc, e) := by
  obtain ⟨_, _, objs, insts⟩ := mc
  dsimp only at hn hs
  subst hn hs
  have h := updateSecret_instances lib a cs app kubeconfig m objs insts
  rwa [hm] at h

theorem updateSecret_retry (app : String) (kubeconfig : List UInt8) (mc : ManagedCluster) :
    (updateSecretWithAccessManagementKubeconfig lib a cs app kubeconfig
        (updateSecretWithAccessManagementKubeconfig lib a cs app kubeconfig mc).1).1 =
      (updateSecretWithAccessManagementKubeconfig lib a cs app kubeconfig mc).1 ∧
    ((updateSecretWithAccessManagementKubeconfig lib a cs app kubeconfig
        (updateSecretWithAccessManagementKubeconfig lib a cs app kubeconfig mc).1).2 = some none →
      (updateSecretWithAccessManagementKubeconfig lib a cs app kubeconfig mc).2 = some none) := by
  have hns := createSecretNamespace_retry lib a.faults mc
  rcases hg : getClassifierAndClusterClient a cs app with e | c
  · simp [updateSecretWithAccessManagementKubeconfig, hg]
  rcases hn : createSecretNamespace lib a.faults mc with ⟨m, _ | e⟩ <;> rw [hn] at hns
  swap
  · simp [updateSecretWithAccessManagementKubeconfig, hg, hn, hns]
  simp only [updateSecretWithAccessManagementKubeconfig, hg, hn]
  rcases hsx : m.secrets (secretRef lib) with _ | data
  · cases hsg : a.faults ⟨.get, secretRef lib⟩ <;> cases hsc : a.faults ⟨.create, secretRef lib⟩ <;>
      simp [Handlers.get, create, hsx, hsg, hsc, noPanic, ManagedCluster.withSecrets, createSecretNamespace_frame, hns]
  cases hsg : a.faults ⟨.get, secretRef lib⟩
  · by_cases hk : data.lookup "kubeconfig" = some kubeconfig
    · simp [Handlers.get, hsx, hsg, hk, hns]
    rcases ha : assignEntry data "kubeconfig" kubeconfig with _ | data'
    · simp [Handlers.get, hsx, hsg, hk, ha, hns]
    have hk' := (assignEntry_lookup ha).1
    cases hsu : a.faults ⟨.update, secretRef lib⟩ <;>
      simp [Handlers.get, update, hsx, hsg, hk, ha, hk', hsu, noPanic, ManagedCluster.withSecrets,
        createSecretNamespace_frame, hns]
  · cases hsc : a.faults ⟨.create, secretRef lib⟩ <;>
      simp [Handlers.get, create, hsx, hsg, hsc, noPanic, ManagedCluster.withSecrets, hns]

end Steps

section Handlers

variable (lib : Library) (a : Answers) (cs : Classifiers)

theorem undeployClassifierFromCluster_retry (app : String) (mc : ManagedCluster) :
    (undeployClassifierFromCluster a app (undeployClassifierFromCluster a app mc).1).1 =
      (undeployClassifierFromCluster a app mc).1 := by
  refine retry_of_instances (undeployClassifierFromCluster a app) (instanceRef app) none (fun mc => ?_) mc
  obtain ⟨⟨f, hf⟩, hc⟩ := undeployClassifierFromCluster_cases a app mc
  rw [hf] at hc
  rcases hc with ⟨hw, -⟩ | ⟨-, -, hw⟩
  · exact ⟨f, hf, .inl hw⟩
  · exact ⟨f, hf, .inr hw⟩

theorem deployClassifierInCluster_retry (ns n app : String) (t : ClusterType) (mc : ManagedCluster) :
    (deployClassifierInCluster lib a cs ns n app t (deployClassifierInCluster lib a cs ns n app t mc).1).1 =
      (deployClassifierInCluster lib a cs ns n app t mc).1 := by
  obtain ⟨us, e₁, h₁⟩ := deployCRDs_blind lib a
  obtain ⟨vs, e₂, h₂⟩ := deployClassifierAgent_blind lib a.faults ns n "do-not-send-reports" t
  beta_reduce at h₂
  unfold deployClassifierInCluster
  rcases a.getKubernetesRestConfig with _ | e
  · rcases e₁ with _ | e₁ <;> rcases e₂ with _ | e₂ <;> rcases getClassifierAndClusterClient a cs app with e | c <;>
      simp [h₁, h₂, writeAll_writeAll_twice, writeAll_writeAll, deployClassifierInstance_applied,
        deployClassifierInstance_retry]
  · rfl

theorem deployClassifierWithKubeconfigInCluster_retry (ns n app : String) (t : ClusterType) (options : Options)
    (mc : ManagedCluster) :
    (deployClassifierWithKubeconfigInCluster lib a cs ns n app t options
        (deployClassifierWithKubeconfigInCluster lib a cs ns n app t options mc).1).1 =
      (deployClassifierWithKubeconfigInCluster lib a cs ns n app t options mc).1 := by
  obtain ⟨us, e₁, h₁⟩ := deployCRDs_blind lib a
  obtain ⟨vs, e₂, h₂⟩ := deployClassifierAgent_blind lib a.faults ns n "send-reports" t
  beta_reduce at h₂
  unfold deployClassifierWithKubeconfigInCluster
  rcases createAccessRequest (accessRequestGet a ns n t) a.createAccessRequest ns n t options with _ | ⟨_ | e, _⟩
  · rfl
  swap
  · rfl
  dsimp only
  rcases getKubeconfigFromAccessRequest a.fleet ns n t with e | _ | kc
  · rfl
  · rfl
  dsimp only
  obtain ⟨hr, hmono⟩ := updateSecret_retry lib a cs app kc mc
  rcases hu : updateSecretWithAccessManagementKubeconfig lib a cs app kc mc with ⟨m, e⟩
  rw [hu] at hr hmono
  dsimp only at hr hmono
  obtain ⟨e', he'⟩ : ∃ e', updateSecretWithAccessManagementKubeconfig lib a cs app kc m = (m, e') :=
    ⟨_, Prod.ext hr rfl⟩
  rw [he'] at hmono
  have hT := fun mc => @updateSecret_of_agree lib a cs _ _ _ mc _ he'
  rcases e with _ | _ | e
  rotate_left
  · rcases e₁ with _ | e₁
    swap
    · rcases e' with _ | _ | e' <;> simp [h₁, hT, writeAll_writeAll]
    rcases a.getKubernetesRestConfig with _ | e
    swap
    · rcases e' with _ | _ | e' <;> simp [h₁, hT, writeAll_writeAll]
    rcases e₂ with _ | e₂
    swap
    · rcases e' with _ | _ | e' <;> simp [h₁, h₂, hT, writeAll_writeAll_twice]
    rcases getClassifierAndClusterClient a cs app with e | c
    · rcases e' with _ | _ | e' <;> simp [h₁, h₂, hT, writeAll_writeAll_twice]
    · rcases e' with _ | _ | e' <;>
        simp [h₁, h₂, hT, writeAll_writeAll_twice, noPanic, deployClassifierInstance_applied,
          deployClassifierInstance_namespaces, deployClassifierInstance_secrets]
      exact deployClassifierInstance_settled a.faults rfl
  all_goals
    rw [he']
    rcases e' with _ | _ | e' <;> simp at hmono ⊢

/-- Every request is safe to run again: a second run of any handler, with the
same answers, on the managed cluster the first run left, leaves it as it is. -/
theorem runRequest_retry (r : Request) (mc : ManagedCluster) :
    (runRequest lib a cs r (runRequest lib a cs r mc).1).1 = (runRequest lib a cs r mc).1 := by
  rcases hh : r.handler <;> simp only [runRequest, hh, noPanic]
  · exact deployClassifierInCluster_retry lib a cs _ _ _ _ mc
  · exact deployClassifierWithKubeconfigInCluster_retry lib a cs _ _ _ _ _ mc
  · exact undeployClassifierFromCluster_retry a _ mc

theorem updateSecret_namespace (app : String) (kubeconfig : List UInt8) (mc : ManagedCluster)
    (h : (updateSecretWithAccessManagementKubeconfig lib a cs app kubeconfig mc).2 = some none) :
    (updateSecretWithAccessManagementKubeconfig lib a cs app kubeconfig mc).1.namespaces (namespaceRef lib) ≠ none := by
  unfold updateSecretWithAccessManagementKubeconfig at h ⊢
  rcases hg : getClassifierAndClusterClient a cs app with e | c <;> simp only [hg] at h ⊢
  · cases h
  rcases hn : createSecretNamespace lib a.faults mc with ⟨m, _ | e⟩ <;> simp only [hn] at h ⊢
  · have hm := createSecretNamespace_ok lib a.faults mc (by rw [hn])
    rw [hn] at hm
    rcases Handlers.get a.faults m.secrets (secretRef lib) with e | data
    · exact hm
    · dsimp only
      split
      · exact hm
      · split <;> exact hm
  · cases h

theorem deployClassifierInCluster_ok (ns n app : String) (t : ClusterType) (mc : ManagedCluster)
    (h : (deployClassifierInCluster lib a cs ns n app t mc).2 = none) :
    Applied lib (lib.classifierCRDYAML :: lib.classifierReportCRDYAML ::
      stringsSplit (agentYAML lib ns n "do-not-send-reports" t) "---") (deployClassifierInCluster lib a cs ns n app t mc).1 := by
  unfold deployClassifierInCluster at h ⊢
  rcases hr : a.getKubernetesRestConfig with _ | e <;> simp only [hr] at h ⊢
  swap
  · cases h
  rcases h₁ : deployCRDs lib a mc with ⟨m₁, _ | e⟩ <;> simp only [h₁] at h ⊢
  swap
  · cases h
  have hc := deployCRDs_ok lib a mc (by rw [h₁])
  rw [h₁] at hc
  have hk := deployClassifierAgent_keeps lib a.faults m₁ ns n "do-not-send-reports" t
  rcases h₂ : deployClassifierAgent lib a.faults m₁ ns n "do-not-send-reports" t with ⟨m₂, _ | e⟩ <;>
    rw [h₂] at hk <;> simp only [h₂] at h ⊢
  swap
  · cases h
  have ha := deployClassifierAgent_ok lib a.faults m₁ ns n "do-not-send-reports" t (by rw [h₂])
  rw [h₂] at ha
  rcases hg : getClassifierAndClusterClient a cs app with e | c <;> simp only [hg] at h ⊢
  · cases h
  · exact ((hc.keeps hk).cons_cons ha).keeps (deployClassifierInstance_keeps a.faults m₂ c)

theorem deployClassifierWithKubeconfigInCluster_ok (ns n app : String) (t : ClusterType) (options : Options)
    (mc : ManagedCluster) (h : (deployClassifierWithKubeconfigInCluster lib a cs ns n app t options mc).2 = some none) :
    let mc' := (deployClassifierWithKubeconfigInCluster lib a cs ns n app t options mc).1
    Applied lib (lib.classifierCRDYAML :: lib.classifierReportCRDYAML ::
        stringsSplit (agentYAML lib ns n "send-reports" t) "---") mc' ∧
      mc'.namespaces (namespaceRef lib) ≠ none ∧
      ∃ kubeconfig data, getKubeconfigFromAccessRequest a.fleet ns n t = .ok (some kubeconfig) ∧
        mc'.secrets (secretRef lib) = some data ∧ data.lookup "kubeconfig" = some kubeconfig := by
  dsimp only
  unfold deployClassifierWithKubeconfigInCluster at h ⊢
  rcases hq : createAccessRequest (accessRequestGet a ns n t) a.createAccessRequest ns n t options
    with _ | ⟨_ | e, _⟩ <;> simp only [hq] at h ⊢
  · cases h
  swap
  · cases h
  rcases hk : getKubeconfigFromAccessRequest a.fleet ns n t with e | _ | kc <;> simp only [hk] at h ⊢
  · cases h
  · cases h
  rcases hu : updateSecretWithAccessManagementKubeconfig lib a cs app kc mc with ⟨m₀, _ | _ | e⟩ <;>
    simp only [hu] at h ⊢
  · cases h
  swap
  · cases h
  obtain ⟨data, hd, hkc, -⟩ := updateSecret_stored lib a cs app kc mc (by rw [hu])
  have hns := updateSecret_namespace lib a cs app kc mc (by rw [hu])
  rw [hu] at hd hns
  obtain ⟨f₁, hf₁⟩ := deployCRDs_applied lib a m₀
  have hc := deployCRDs_ok lib a m₀
  rcases h₁ : deployCRDs lib a m₀ with ⟨m₁, _ | e⟩ <;> rw [h₁] at hf₁ hc <;> simp only [h₁] at h ⊢
  swap
  · cases h
  rcases hr : a.getKubernetesRestConfig with _ | e <;> simp only [hr] at h ⊢
  swap
  · cases h
  obtain ⟨f₂, hf₂⟩ := deployClassifierAgent_applied lib a m₁ ns n "send-reports" t
  have hk := deployClassifierAgent_keeps lib a.faults m₁ ns n "send-reports" t
  have ha := deployClassifierAgent_ok lib a.faults m₁ ns n "send-reports" t
  rcases h₂ : deployClassifierAgent lib a.faults m₁ ns n "send-reports" t with ⟨m₂, _ | e⟩ <;>
    rw [h₂] at hf₂ hk ha <;> simp only [h₂] at h ⊢
  swap
  · cases h
  rcases hg : getClassifierAndClusterClient a cs app with e | c <;> simp only [hg, noPanic] at h ⊢
  · cases h
  dsimp only at hf₁ hf₂
  subst hf₁ hf₂
  refine ⟨((hc rfl).keeps hk).cons_cons (ha rfl) |>.keeps (deployClassifierInstance_keeps a.faults _ c), ?_, kc, data,
    rfl, ?_⟩
  · rw [deployClassifierInstance_namespaces]
    exact hns
  · rw [deployClassifierInstance_secrets]
    exact ⟨hd, hkc⟩

def plainLibrary : Library :=
  ⟨"projectsveltos", "classifier-agent", "", "", "", fun _ => .ok ⟨⟨"CustomResourceDefinition", "", "classifiers"⟩, ""⟩⟩

def plainAnswers : Answers := ⟨none, .ok false, none, none, none, Fleet.quiet, none, fun _ => none⟩

def emptyCluster : ManagedCluster := ⟨fun _ => none, fun _ => none, fun _ => none, fun _ => none⟩

def oneClassifier (c : Classifier) : Classifiers :=
  ⟨fun n => if n = c.name then some c else none, fun n c' h => by
    dsimp only at h
    split at h
    · cases h
      exact (‹n = c.name›).symm
    · cases h⟩

/-- A deploy that returns nil has done its work on the managed cluster: the
applicant's instance holds the spec of the live classifier of that name, both
CRDs and every manifest of the agent for the request's cluster and mode were
decoded and are held by the cluster, and in push mode the namespace exists and
the Secret holds the kubeconfig the AccessRequest carries. -/
theorem runRequest_provisions (r : Request) (mc : ManagedCluster) (hh : r.handler ≠ .undeployClassifierFromCluster)
    (hr : (runRequest lib a cs r mc).2 = some none) :
    let mc' := (runRequest lib a cs r mc).1
    (∃ c, cs.lookup r.key.applicant = some c ∧ c.deleting = false ∧
        mc'.classifiers (instanceRef r.key.applicant) = some c.spec) ∧
      Applied lib (lib.classifierCRDYAML :: lib.classifierReportCRDYAML ::
        stringsSplit (agentYAML lib r.key.clusterNamespace r.key.clusterName
          (if r.handler = .deployClassifierInCluster then "do-not-send-reports" else "send-reports")
          r.key.clusterType) "---") mc' ∧
      (r.handler = .deployClassifierWithKubeconfigInCluster →
        mc'.namespaces (namespaceRef lib) ≠ none ∧
        ∃ kubeconfig data, getKubeconfigFromAccessRequest a.fleet r.key.clusterNamespace r.key.clusterName
            r.key.clusterType = .ok (some kubeconfig) ∧
          mc'.secrets (secretRef lib) = some data ∧ data.lookup "kubeconfig" = some kubeconfig) := by
  refine ⟨runRequest_deployed lib a cs r mc hh hr, ?_⟩
  unfold runRequest at hr ⊢
  rcases hh' : r.handler <;> simp only [hh', noPanic] at hr ⊢
  · exact ⟨deployClassifierInCluster_ok lib a cs _ _ _ _ mc (Option.some.inj hr), fun h => nomatch h⟩
  · have h := deployClassifierWithKubeconfigInCluster_ok lib a cs _ _ _ _ _ mc hr
    exact ⟨h.1, fun _ => h.2⟩
  · exact absurd hh' hh

theorem acme_deploy_provisions :
    let r : Request := ⟨⟨"default", "a", "acme", FeatureClassifier, .capi, false⟩, .deployClassifierInCluster, ⟨[]⟩⟩
    let cs := oneClassifier ⟨"acme", ⟨[], [], []⟩, [], false, false, ⟨[], []⟩⟩
    (r.handler ≠ .undeployClassifierFromCluster ∧ (runRequest plainLibrary plainAnswers cs r emptyCluster).2 = some none) ∧
      let mc' := (runRequest plainLibrary plainAnswers cs r emptyCluster).1
      (∃ c, cs.lookup r.key.applicant = some c ∧ c.deleting = false ∧
          mc'.classifiers (instanceRef r.key.applicant) = some c.spec) ∧
        Applied plainLibrary (plainLibrary.classifierCRDYAML :: plainLibrary.classifierReportCRDYAML ::
          stringsSplit (agentYAML plainLibrary r.key.clusterNamespace r.key.clusterName
            (if r.handler = .deployClassifierInCluster then "do-not-send-reports" else "send-reports")
            r.key.clusterType) "---") mc' ∧
        (r.handler = .deployClassifierWithKubeconfigInCluster →
          mc'.namespaces (namespaceRef plainLibrary) ≠ none ∧
          ∃ kubeconfig data, getKubeconfigFromAccessRequest plainAnswers.fleet r.key.clusterNamespace r.key.clusterName
              r.key.clusterType = .ok (some kubeconfig) ∧
            mc'.secrets (secretRef plainLibrary) = some data ∧ data.lookup "kubeconfig" = some kubeconfig) := by
  intro r cs
  have hh : r.handler ≠ .undeployClassifierFromCluster := by decide
  have hr : (runRequest plainLibrary plainAnswers cs r emptyCluster).2 = some none := by decide
  exact ⟨⟨hh, hr⟩, runRequest_provisions plainLibrary plainAnswers cs r emptyCluster hh hr⟩

end Handlers

end Sveltos.Effects
