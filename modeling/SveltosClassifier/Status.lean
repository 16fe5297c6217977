import SveltosClassifier.System

/-!
# Uniqueness and coverage of `Status.ClusterInfo`

`updateClusterInfo` appends an entry for every listed cluster whose
`namespace/name` no entry has; `deployClassifier` keeps a sublist of the
entries; `undeployClassifier` keeps them all or none. So, as long as the API
lists each cluster once, no two entries name the same cluster. The string key
is one-to-one on valid namespaces, which hold no `/`, and then every listed
cluster has an entry.
-/

set_option autoImplicit false

namespace Sveltos.Status
open Sveltos.Api Sveltos.KeyManager Sveltos.Reads Sveltos.Async Sveltos.Index Sveltos.Process
  Sveltos.Matching Sveltos.Deploy Sveltos.Reconcile Sveltos.System

def ValidNamespace (ns : String) : Prop := '/' ∉ ns.data

def WellFormed (c : Classifier) : Prop :=
  (c.status.clusterInfo.map (clusterKey ·.cluster)).Nodup ∧
    ∀ e ∈ c.status.clusterInfo, ValidNamespace e.cluster.namespace

def ListsWellFormed (fleet : Fleet) : Prop :=
  ∀ cs, fleet.listClusters = .ok cs →
    (cs.map fun c => (c.namespace, c.name)).Nodup ∧ ∀ c ∈ cs, ValidNamespace c.namespace

theorem getClusterID_congr (a b : ObjectReference) (h : clusterKey a = clusterKey b) :
    getClusterID a = getClusterID b := by
  simp only [clusterKey, Prod.mk.injEq] at h
  simp [getClusterID, h.1, h.2]

theorem append_sep_inj (x : Char) :
    ∀ (l₁ l₂ r₁ r₂ : List Char), x ∉ l₁ → x ∉ l₂ → l₁ ++ x :: r₁ = l₂ ++ x :: r₂ →
      l₁ = l₂ ∧ r₁ = r₂
  | [], [], _, _, _, _, h => ⟨rfl, by simpa using h⟩
  | [], y :: l₂, _, _, _, h₂, h => by
    simp only [List.nil_append, List.cons_append, List.cons.injEq] at h
    exact absurd (h.1 ▸ List.mem_cons_self y l₂) h₂
  | y :: l₁, [], _, _, h₁, _, h => by
    simp only [List.nil_append, List.cons_append, List.cons.injEq] at h
    exact absurd (h.1 ▸ List.mem_cons_self y l₁) h₁
  | y :: l₁, z :: l₂, r₁, r₂, h₁, h₂, h => by
    simp only [List.cons_append, List.cons.injEq] at h
    obtain ⟨e, r⟩ := append_sep_inj x l₁ l₂ r₁ r₂ (fun m => h₁ (List.mem_cons_of_mem y m))
      (fun m => h₂ (List.mem_cons_of_mem z m)) h.2
    exact ⟨by rw [h.1, e], r⟩

theorem getClusterID_inj (a b : ObjectReference) (ha : ValidNamespace a.namespace)
    (hb : ValidNamespace b.namespace) (h : getClusterID a = getClusterID b) :
    clusterKey a = clusterKey b := by
  have hd := congrArg String.data h
  simp only [getClusterID, String.data_append, List.append_assoc] at hd
  obtain ⟨h1, h2⟩ := append_sep_inj '/' _ _ _ _ ha hb hd
  simp only [clusterKey, Prod.mk.injEq, String.ext_iff]
  exact ⟨h1, h2⟩

theorem newClusterInfo_keys (old : List ClusterInfo) (matching : List ObjectReference) :
    (newClusterInfo old matching).map (clusterKey ·.cluster) =
      (matching.filter fun c => getClusterID c ∉ old.map (getClusterID ·.cluster)).map clusterKey := by
  simp [newClusterInfo, Function.comp_def]

theorem updateClusterInfo_wellFormed (fleet : Fleet) (classifier : Classifier)
    (hc : WellFormed classifier) (hl : ListsWellFormed fleet) :
    WellFormed (updateClusterInfo fleet classifier).1 := by
  unfold updateClusterInfo
  rcases hf : getListOfClusters fleet with e | matching
  · exact hc
  obtain ⟨clusters, hcl, rfl⟩ : ∃ clusters, fleet.listClusters = .ok clusters ∧
      matching = (clusters.filter (!·.deleting)).map fun c => ⟨c.namespace, c.name, "", ""⟩ := by
    unfold getListOfClusters at hf
    split at hf <;> simp_all
  obtain ⟨hnd, hv⟩ := hl clusters hcl
  have hmk : ((clusters.filter (!·.deleting)).map
      (fun c => (⟨c.namespace, c.name, "", ""⟩ : ObjectReference))).map clusterKey =
      (clusters.filter (!·.deleting)).map fun c => (c.namespace, c.name) := by
    simp [Function.comp_def, clusterKey]
  refine ⟨?_, ?_⟩
  · simp only [setClusterInfo_clusterInfo, List.map_append, newClusterInfo_keys]
    refine List.nodup_append.2 ⟨hc.1, ?_, ?_⟩
    · have h2 : ((clusters.filter (!·.deleting)).map fun c => (c.namespace, c.name)).Sublist
          (clusters.map fun c => (c.namespace, c.name)) := (List.filter_sublist _).map _
      rw [← hmk] at h2
      exact hnd.sublist (((List.filter_sublist _).map clusterKey).trans h2)
    · intro k hk hk'
      obtain ⟨e, he, rfl⟩ := List.mem_map.1 hk
      obtain ⟨c, hc', hkey⟩ := List.mem_map.1 hk'
      have hcf := (List.mem_filter.1 hc').2
      simp only [decide_eq_true_eq] at hcf
      exact hcf (List.mem_map.2 ⟨e, he, (getClusterID_congr _ _ hkey).symm⟩)
  · intro e he
    rcases List.mem_append.1 he with he | he
    · exact hc.2 e he
    · obtain ⟨c, hc', rfl⟩ := List.mem_map.1 he
      obtain ⟨cl, hcl', rfl⟩ := List.mem_map.1 (List.mem_filter.1 hc').1
      exact hv cl (List.mem_filter.1 hcl').1

theorem updateClusterInfo_covers (fleet : Fleet) (classifier : Classifier) (clusters : List Cluster)
    (hcl : fleet.listClusters = .ok clusters)
    (hc : ∀ e ∈ classifier.status.clusterInfo, ValidNamespace e.cluster.namespace)
    (cl : Cluster) (hmem : cl ∈ clusters) (hdel : cl.deleting = false)
    (hv : ValidNamespace cl.namespace) :
    ∃ e ∈ (updateClusterInfo fleet classifier).1.status.clusterInfo,
      clusterKey e.cluster = (cl.namespace, cl.name) := by
  let ref : ObjectReference := ⟨cl.namespace, cl.name, "", ""⟩
  simp only [updateClusterInfo, getListOfClusters, hcl, setClusterInfo_clusterInfo]
  by_cases hin : getClusterID ref ∈ classifier.status.clusterInfo.map (getClusterID ·.cluster)
  · obtain ⟨e, he, hid⟩ := List.mem_map.1 hin
    exact ⟨e, List.mem_append_left _ he, getClusterID_inj _ ref (hc e he) hv hid⟩
  · refine ⟨⟨ref, [], .unset, none⟩, List.mem_append_right _ ?_, rfl⟩
    simp only [newClusterInfo, List.mem_map, List.mem_filter]
    exact ⟨ref, ⟨⟨cl, by simp [hmem, hdel], rfl⟩, by simpa using hin⟩, rfl⟩

theorem wellFormed_of_sublist (c c' : Classifier)
    (h : (c'.status.clusterInfo.map (·.cluster)).Sublist (c.status.clusterInfo.map (·.cluster)))
    (hc : WellFormed c) : WellFormed c' := by
  refine ⟨?_, fun e he => ?_⟩
  · have h' := h.map clusterKey
    simp only [List.map_map, Function.comp_def] at h'
    exact hc.1.sublist h'
  · obtain ⟨e', he', hcl⟩ := List.mem_map.1 (h.subset (List.mem_map_of_mem _ he))
    exact hcl ▸ hc.2 e' he'

theorem wellFormed_of_clusterInfo (c c' : Classifier)
    (h : c'.status.clusterInfo = c.status.clusterInfo) (hc : WellFormed c) : WellFormed c' :=
  wellFormed_of_sublist c c' (h ▸ List.Sublist.refl _) hc

section Passes

variable (ext : Externals) {σ : Type} (km : Instance σ) (r : ClassifierReconciler) (fleet : Fleet)

theorem reconcileNormal_wellFormed (s : σ) (d : Deployer) (classifier : Classifier)
    (hc : WellFormed classifier) (hl : ListsWellFormed fleet) :
    WellFormed (reconcileNormal ext km r fleet s d classifier).classifier ∧
      WellFormed (reconcileNormal ext km r fleet s d classifier).written := by
  have h1 (c1 : Classifier) (hf : withFinalizer fleet classifier = (c1, none)) : WellFormed c1 := by
    have hs := withFinalizer_status fleet classifier
    rw [hf] at hs
    exact wellFormed_of_clusterInfo classifier c1 (by rw [← hs]) hc
  rcases reconcileNormal_cases ext km r fleet s d classifier with
    ⟨-, -, -, -, hw, hcl, -⟩ | ⟨c1, hf, hw, -, ⟨-, -, hcl, -⟩ | ⟨-, -, -, -, hcl, -, -⟩⟩ <;>
    rw [hw, hcl]
  · exact ⟨wellFormed_of_clusterInfo _ _ (by simp) hc, hc⟩
  · exact ⟨wellFormed_of_clusterInfo _ _ (updateMatching_clusterInfo km fleet s c1) (h1 c1 hf), h1 c1 hf⟩
  · refine ⟨wellFormed_of_sublist _ _ (deployClassifier_sublist ext r fleet _ _ d) ?_, h1 c1 hf⟩
    exact updateClusterInfo_wellFormed fleet _
      (wellFormed_of_clusterInfo _ _ (updateMatching_clusterInfo km fleet s c1) (h1 c1 hf)) hl

theorem reconcileDelete_wellFormed (s : σ) (d : Deployer) (classifier : Classifier)
    (hc : WellFormed classifier) :
    WellFormed (reconcileDelete ext km r fleet s d classifier).classifier ∧
      WellFormed (reconcileDelete ext km r fleet s d classifier).written := by
  have hu : WellFormed (undeployClassifier ext fleet classifier (classifierFeature ext) d).1 := by
    rcases (undeployClassifier_fst ext fleet classifier (classifierFeature ext) d).2 with h | h
    · exact wellFormed_of_clusterInfo _ _ h hc
    · exact ⟨by simp [h], by simp [h]⟩
  rcases reconcileDelete_cases ext km r fleet s d classifier with
    ⟨-, hw, ⟨-, -, hcl⟩ | ⟨-, -, -, hcl | ⟨-, hcl⟩⟩⟩ <;> rw [hw, hcl]
  · exact ⟨hc, hc⟩
  · exact ⟨hu, hc⟩
  · exact ⟨hu, hc⟩

end Passes

section Runs

variable (ext : Externals) {σ : Type} (km : Instance σ)

def AllWellFormed (w : World σ) : Prop := ∀ n c, w.classifiers n = some c → WellFormed c

def ReadsWellFormed : Event → Prop
  | .reconcile _ fleet => ListsWellFormed fleet
  | _ => True

theorem allWellFormed_update (w : World σ) (n : String) (o : Option Classifier)
    (h : AllWellFormed w) (ho : ∀ c, o = some c → WellFormed c) :
    ∀ n' c, Function.update w.classifiers n o n' = some c → WellFormed c := by
  intro n' c hc
  by_cases hn : n' = n
  · subst hn; exact ho c (by simpa using hc)
  · rw [Function.update_noteq hn] at hc; exact h n' c hc

theorem step_allWellFormed (w : World σ) (e : Event) (he : ReadsWellFormed e)
    (h : AllWellFormed w) : AllWellFormed (World.step ext km w e) := by
  cases e with
  | apply name spec paused =>
    refine allWellFormed_update w name _ h fun c hc => ?_
    cases hw : w.classifiers name with
    | none => cases hc; simp [hw, applyClassifier, WellFormed]
    | some c' =>
      simp only [hw, applyClassifier, Option.some.injEq] at hc
      exact hc ▸ h name c' hw
  | delete name =>
    refine allWellFormed_update w name _ h fun c hc => ?_
    cases hw : w.classifiers name with
    | none => simp [hw, deleteClassifier] at hc
    | some c' =>
      rw [hw, deleteClassifier] at hc
      rw [store_eq_some _ _ hc]
      exact h name c' hw
  | reconcile name fleet =>
    refine allWellFormed_update w name _ h fun c hc => ?_
    cases hw : w.classifiers name with
    | none => simp [hw, Reconcile.reconcile] at hc
    | some c' =>
      rw [hw] at hc
      have hc' := h name c' hw
      have hp : WellFormed (passOf ext km w.reconciler fleet w.keys w.deployer c').classifier ∧
          WellFormed (passOf ext km w.reconciler fleet w.keys w.deployer c').written := by
        unfold passOf
        split
        · exact reconcileDelete_wellFormed ext km _ fleet _ _ c' hc'
        · exact reconcileNormal_wellFormed ext km _ fleet _ _ c' hc' he
      rcases reconcile_stored_cases ext km _ fleet _ _ c' c hc with rfl | ⟨-, rfl⟩ | rfl
      · exact hc'
      · exact hp.1
      · exact hp.2
  | complete => exact h

/-- Uniqueness and coverage of `Status.ClusterInfo`. Over any run whose passes
read cluster lists that name each cluster once, in valid namespaces, every
classifier the API server holds has at most one entry per cluster namespace
and name. `updateClusterInfo`, on such a classifier and list, keeps every
entry unchanged and in order and appends entries only for listed clusters not
being deleted, so that each of them then has an entry. -/
theorem clusterInfo_unique_covering (r : ClassifierReconciler) (s : σ) (d : Deployer)
    (events : List Event) (hreads : ∀ e ∈ events, ReadsWellFormed e) :
    (∀ n c, ((World.init r s d).run ext km events).classifiers n = some c →
      (c.status.clusterInfo.map (clusterKey ·.cluster)).Nodup ∧
        ∀ e ∈ c.status.clusterInfo, ValidNamespace e.cluster.namespace) ∧
    ∀ (fleet : Fleet) (classifier : Classifier) (clusters : List Cluster),
      fleet.listClusters = .ok clusters → ListsWellFormed fleet → WellFormed classifier →
      ∃ extra, (updateClusterInfo fleet classifier).1.status.clusterInfo =
          classifier.status.clusterInfo ++ extra ∧
        (∀ e ∈ extra, ∃ cl ∈ clusters, cl.deleting = false ∧
          e = ⟨⟨cl.namespace, cl.name, "", ""⟩, [], .unset, none⟩) ∧
        ∀ cl ∈ clusters, cl.deleting = false →
          ∃ e ∈ (updateClusterInfo fleet classifier).1.status.clusterInfo,
            clusterKey e.cluster = (cl.namespace, cl.name) := by
  refine ⟨World.run_invariant ext km AllWellFormed ReadsWellFormed (step_allWellFormed ext km) _
    events hreads (fun _ _ h => nomatch h), fun fleet classifier clusters hcl hl hc => ?_⟩
  refine ⟨newClusterInfo classifier.status.clusterInfo
    ((clusters.filter (!·.deleting)).map fun c => ⟨c.namespace, c.name, "", ""⟩), ?_, ?_, fun cl hmem hdel =>
    updateClusterInfo_covers fleet classifier clusters hcl hc.2 cl hmem hdel ((hl clusters hcl).2 cl hmem)⟩
  · simp only [updateClusterInfo, getListOfClusters, hcl, setClusterInfo_clusterInfo]
  · intro e he
    obtain ⟨ref, href, rfl⟩ := List.mem_map.1 he
    obtain ⟨cl, hcl', rfl⟩ := List.mem_map.1 (List.mem_filter.1 href).1
    have := (List.mem_filter.1 hcl')
    exact ⟨cl, this.1, by simpa using this.2, rfl⟩

theorem clusterInfo_unique_covering_quiet :
    let events := [Event.apply "acme" ⟨[], [], []⟩ false, Event.reconcile "acme" Fleet.quiet]
    (∀ e ∈ events, ReadsWellFormed e) ∧
      ∀ n c, ((World.init (.init .collectFromManagementCluster "") LabelQueues.empty
          (⟨[FeatureClassifier], fun _ => false, fun _ => none, []⟩ : Deployer)).run Externals.zero
          labelQueues events).classifiers n = some c →
        (c.status.clusterInfo.map (clusterKey ·.cluster)).Nodup := by
  intro events
  have hreads : ∀ e ∈ events, ReadsWellFormed e := by
    simp [events, ReadsWellFormed, ListsWellFormed, Fleet.quiet]
  exact ⟨hreads, fun n c h =>
    ((clusterInfo_unique_covering Externals.zero labelQueues _ _ _ events hreads).1 n c h).1⟩

end Runs

end Sveltos.Status
