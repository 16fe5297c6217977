import SveltosClassifier.Effects
import SveltosClassifier.Convergence

/-!
# The deployer's workers and the managed clusters

The site is the world of `System` and the objects of every managed cluster. A
worker takes a request in progress, runs the handler it names on the cluster
its key names, reading the classifiers the world holds at that moment, and the
deployer records what the handler returned. A handler that panics takes the
controller down (`crashed`), and nothing happens after it. Every other event
is the world's, so every run of the site is a run of the world in which each
completion is what a handler returned, and the world's invariants hold on it;
a worker's step crashes the controller exactly when its handler panics.

A reconcile pass changes the deployer only by `Deploy` calls: deploys of its
classifier on a live pass, undeploys on a deleting one (`DeploysBy`). From
that and from what each handler does to the managed cluster, over every run
from the controller's start, a live classifier's status never says
`Provisioned` for a cluster that does not hold its instance; a classifier that
is gone or marked for deletion is never deployed again; and with an endpoint of
the startup format no handler ever panics.
-/

set_option autoImplicit false

namespace Sveltos.Workers
open Sveltos.Api Sveltos.KeyManager Sveltos.Reads Sveltos.Async Sveltos.Index Sveltos.Process
  Sveltos.Deploy Sveltos.Reconcile Sveltos.System Sveltos.Endpoint Sveltos.Handlers

structure ClusterId where
  «namespace» : String
  name : String
  clusterType : ClusterType
  deriving DecidableEq, Repr

def clusterOf (k : DeployerKey) : ClusterId := ⟨k.clusterNamespace, k.clusterName, k.clusterType⟩

/-- Modelled from the spec: the request the deployer holds for a key, the one
of the last `Deploy` call made for it. -/
def pending (d : Deployer) (k : DeployerKey) : Option Request :=
  (d.calls.reverse.find? (·.request.key == k)).map (·.request)

theorem pending_mem {d : Deployer} {k : DeployerKey} {r : Request} (h : pending d k = some r) :
    r.key = k ∧ ∃ c ∈ d.calls, c.request = r := by
  unfold pending at h
  rcases hf : d.calls.reverse.find? (·.request.key == k) with _ | c <;> rw [hf] at h
  · cases h
  · cases h
    exact ⟨by simpa using List.find?_some hf, c, List.mem_reverse.1 (List.mem_of_find?_eq_some hf), rfl⟩

/-- The world and every managed cluster; `crashed` once a handler has
panicked. -/
structure Site (σ : Type) where
  world : World σ
  clusters : ClusterId → ManagedCluster
  crashed : Bool

inductive Event where
  | apply (name : String) (spec : ClassifierSpec) (paused : Bool)
  | delete (name : String)
  | reconcile (name : String) (fleet : Fleet)
  | work (key : DeployerKey) (answers : Answers)

def classifiersOf {σ : Type} (w : World σ) : Classifiers := ⟨w.classifiers, w.named⟩

namespace Site

variable {σ : Type} (ext : Externals) (km : Instance σ) (lib : Library)

def init (r : ClassifierReconciler) (keys : σ) (clusters : ClusterId → ManagedCluster) : Site σ :=
  ⟨World.init r keys Deployer.idle, clusters, false⟩

/-- A worker runs the request in progress for `key`, if any. -/
def work (s : Site σ) (key : DeployerKey) (a : Answers) : Site σ :=
  match s.world.deployer.inProgress key, pending s.world.deployer key with
  | true, some r =>
    let p := runRequest lib a (classifiersOf s.world) r (s.clusters (clusterOf key))
    match p.2 with
    | none => { s with clusters := Function.update s.clusters (clusterOf key) p.1, crashed := true }
    | some e =>
      ⟨World.step ext km s.world (.complete key (e.map GoError.text)),
        Function.update s.clusters (clusterOf key) p.1, false⟩
  | _, _ => s

def step (s : Site σ) (e : Event) : Site σ :=
  if s.crashed then s else
  match e with
  | .apply name spec paused => { s with world := World.step ext km s.world (.apply name spec paused) }
  | .delete name => { s with world := World.step ext km s.world (.delete name) }
  | .reconcile name fleet => { s with world := World.step ext km s.world (.reconcile name fleet) }
  | .work key a => work ext km lib s key a

def run (s : Site σ) (events : List Event) : Site σ := events.foldl (step ext km lib) s

@[simp] theorem run_nil (s : Site σ) : run ext km lib s [] = s := rfl

@[simp] theorem run_cons (s : Site σ) (e : Event) (es : List Event) :
    run ext km lib s (e :: es) = run ext km lib (step ext km lib s e) es := rfl

theorem run_invariant (P : Site σ → Prop) (hstep : ∀ s e, P s → P (step ext km lib s e)) (s : Site σ)
    (events : List Event) (h : P s) : P (run ext km lib s events) := by
  induction events generalizing s with
  | nil => exact h
  | cons e es ih => exact ih _ (hstep s e h)

theorem work_cases (s : Site σ) (key : DeployerKey) (a : Answers) :
    work ext km lib s key a = s ∨
      ∃ r, s.world.deployer.inProgress key = true ∧ pending s.world.deployer key = some r ∧
        let p := runRequest lib a (classifiersOf s.world) r (s.clusters (clusterOf key))
        (work ext km lib s key a).clusters = Function.update s.clusters (clusterOf key) p.1 ∧
        (work ext km lib s key a).world.classifiers = s.world.classifiers ∧
        ((p.2 = none ∧ (work ext km lib s key a).world.deployer = s.world.deployer) ∨
          ∃ e, p.2 = some e ∧
            (work ext km lib s key a).world.deployer = s.world.deployer.complete key (e.map GoError.text)) := by
  unfold work
  split
  · rename_i r hk hr
    refine .inr ⟨r, hk, hr, ?_⟩
    dsimp only
    split <;> rename_i he
    · exact ⟨rfl, rfl, .inl ⟨he, rfl⟩⟩
    · exact ⟨rfl, rfl, .inr ⟨_, he, rfl⟩⟩
  · exact .inl rfl

theorem work_reconciler (s : Site σ) (key : DeployerKey) (a : Answers) :
    (work ext km lib s key a).world.reconciler = s.world.reconciler := by
  unfold work
  split
  · dsimp only
    split <;> rfl
  · rfl

theorem work_crashed (s : Site σ) (key : DeployerKey) (a : Answers) (h : (work ext km lib s key a).crashed = true) :
    s.crashed = true ∨ ∃ r, pending s.world.deployer key = some r ∧
      (runRequest lib a (classifiersOf s.world) r (s.clusters (clusterOf key))).2 = none := by
  unfold work at h
  split at h
  · rename_i r _ hr
    dsimp only at h
    split at h
    · exact .inr ⟨r, hr, ‹_›⟩
    · cases h
  · exact .inl h

end Site

section Invariant

variable {σ : Type} (ext : Externals) (km : Instance σ) (lib : Library)

def Holds (s : Site σ) (k : DeployerKey) : Prop :=
  (s.clusters (clusterOf k)).classifiers (instanceRef k.applicant) ≠ none

def EntryOk (d : Deployer) (holds : DeployerKey → Prop) (c : Classifier) (e : ClusterInfo) : Prop :=
  (e.hash ≠ [] → d.inProgress (deployerKey ext e.cluster c (classifierFeature ext) true) = false ∧
    (d.results (deployerKey ext e.cluster c (classifierFeature ext) false) = some none →
      d.inProgress (deployerKey ext e.cluster c (classifierFeature ext) false) = false →
      holds (deployerKey ext e.cluster c (classifierFeature ext) false))) ∧
  (e.status = .provisioned → e.hash ≠ [] ∧ holds (deployerKey ext e.cluster c (classifierFeature ext) false))

structure Inv (s : Site σ) : Prop where
  features : s.world.deployer.features = [FeatureClassifier]
  running : ∀ k, s.world.deployer.inProgress k = true → k.featureID = FeatureClassifier
  directed : ∀ c ∈ s.world.deployer.calls,
    (c.request.handler = .undeployClassifierFromCluster ↔ c.request.key.cleanup = true)
  entries : ∀ n c, s.world.classifiers n = some c → c.deleting = false →
    ∀ e ∈ c.status.clusterInfo, EntryOk ext s.world.deployer (Holds s) c e

section Entries

variable {ext} {d d' : Deployer} {holds : DeployerKey → Prop} {c : Classifier} {e : ClusterInfo}

theorem EntryOk.congr {c' : Classifier} (hn : c'.name = c.name) (h : EntryOk ext d holds c e) :
    EntryOk ext d holds c' e := by
  unfold EntryOk at h ⊢
  simpa only [deployerKey_congr ext e.cluster c c' _ _ hn] using h

theorem EntryOk.mono {holds' : DeployerKey → Prop}
    (hh : e.hash ≠ [] → holds (deployerKey ext e.cluster c (classifierFeature ext) false) →
      holds' (deployerKey ext e.cluster c (classifierFeature ext) false))
    (h : EntryOk ext d holds c e) : EntryOk ext d holds' c e :=
  ⟨fun he => ⟨(h.1 he).1, fun h₁ h₂ => hh he ((h.1 he).2 h₁ h₂)⟩,
    fun hp => ⟨(h.2 hp).1, hh (h.2 hp).1 (h.2 hp).2⟩⟩

theorem EntryOk.sameAt (hs : ∀ b, d.SameAt d' (deployerKey ext e.cluster c (classifierFeature ext) b))
    (h : EntryOk ext d holds c e) : EntryOk ext d' holds c e := by
  unfold EntryOk at h ⊢
  simpa only [(hs _).1, (hs _).2] using h

theorem EntryOk.deploys (hd : DeploysBy (Directed false) d d') (h : EntryOk ext d holds c e) :
    EntryOk ext d' holds c e := by
  refine ⟨fun he => ⟨?_, fun h₁ h₂ => ?_⟩, h.2⟩
  · rw [(hd.sameAt_cleanup _ rfl).1]
    exact (h.1 he).1
  · exact (h.1 he).2 (hd.succeeded _ h₁ h₂).1 (hd.succeeded _ h₁ h₂).2

theorem deployClassifier_entryOk (r : ClassifierReconciler) (fleet : Fleet) (c3 : Classifier)
    (hn : c3.name = c.name) (hentries : ∀ e ∈ c3.status.clusterInfo, e ∈ c.status.clusterInfo ∨ e.hash = [])
    (hok : ∀ e ∈ c.status.clusterInfo, EntryOk ext d holds c e) (ci : ClusterInfo)
    (hci : ci ∈ (deployClassifier ext r fleet c3 (classifierFeature ext) d).1.status.clusterInfo) :
    EntryOk ext (deployClassifier ext r fleet c3 (classifierFeature ext) d).2.1 holds c ci := by
  obtain ⟨e, -, d₁, h₁, hout, h₃⟩ := deployClassifier_entries ext r fleet c3 _ (DeploysBy (Directed false))
    DeploysBy.refl (fun h h' => h.trans h')
    (fun d c _ => (processClassifier_deploys ext r fleet d c3 _ c.cluster _).mono fun _ h => h.directed) d ci hci
  have h₂ := (processClassifier_deploys ext r fleet d₁ c3 r.controlPlaneEndpoint e.cluster
    (classifierFeature ext)).mono fun _ h => h.directed
  obtain ⟨h, hh, hu, heq⟩ := processClassifier_admitted_of_entry ext r fleet d₁ c3 _ e.cluster _ ci hout
  rw [heq] at hout h₂ h₃
  have hcl := deployIfNeeded_cluster ext r d₁ c3 e.cluster _ h ci hout
  obtain ⟨hhash, hprov, hrun⟩ := deployIfNeeded_entry ext r d₁ c3 e.cluster _ h ci hout
  have hne : h ≠ [] := fun h0 => by simpa [h0] using getCurrentHash_length ext _ fleet c3 _ e.cluster h hh
  have hkey : ∀ b, deployerKey ext e.cluster c3 (classifierFeature ext) b =
      deployerKey ext ci.cluster c (classifierFeature ext) b := fun b => by
    rw [hcl, deployerKey_congr ext e.cluster c c3 _ b hn]
  rw [hkey] at hu hprov hrun
  -- the first entry for the cluster, once it has the current hash, is one of `c`'s, as asked
  have first : (getClassifierInClusterHashAndStatus c3 e.cluster).1 = h → ∃ e0 : ClusterInfo,
      getClassifierInClusterHashAndStatus c3 e.cluster = (e0.hash, some e0.status) ∧
      (d.results (deployerKey ext ci.cluster c (classifierFeature ext) false) = some none →
        d.inProgress (deployerKey ext ci.cluster c (classifierFeature ext) false) = false →
        holds (deployerKey ext ci.cluster c (classifierFeature ext) false)) ∧
      (e0.status = .provisioned → holds (deployerKey ext ci.cluster c (classifierFeature ext) false)) := by
    intro hs
    rcases getClassifierInClusterHashAndStatus_cases c3 e.cluster with h0 | ⟨e0, he0, hcl0, h0⟩
    · rw [h0] at hs
      exact absurd hs.symm hne
    rw [h0] at hs
    have hne0 : e0.hash ≠ [] := fun h' => hne (hs.symm.trans h')
    have hok0 := hok e0 ((hentries e0 he0).resolve_right hne0)
    unfold EntryOk at hok0
    rw [hcl0, ← hcl] at hok0
    exact ⟨e0, h0, (hok0.1 hne0).2, fun hp => (hok0.2 hp).2⟩
  refine ⟨fun _ => ⟨?_, fun hr hp => ?_⟩, fun hp => ⟨hhash ▸ hne, ?_⟩⟩
  · rw [((h₂.trans h₃).sameAt_cleanup _ rfl).1]
    exact hu
  · rcases hrun with hrun | ⟨hd, hs⟩
    · exact absurd (h₃.inProgress_mono _ hrun) (by simp [hp])
    · obtain ⟨e0, -, hok0, -⟩ := first hs
      rw [hd] at h₃
      exact hok0 ((h₁.trans h₃).succeeded _ hr hp).1 ((h₁.trans h₃).succeeded _ hr hp).2
  · rcases hprov hp with hs | ⟨hs, hr, hp'⟩
    · obtain ⟨e0, hs0, -, hok0⟩ := first (by rw [hs])
      rw [hs] at hs0
      exact hok0 (Option.some.inj (Prod.ext_iff.1 hs0).2).symm
    · obtain ⟨e0, -, hok0, -⟩ := first hs
      exact hok0 (h₁.succeeded _ hr hp').1 (h₁.succeeded _ hr hp').2

end Entries

variable {ext}

theorem Inv.of_live {s s' : Site σ} (h : Inv ext s) (hd : s'.world.deployer = s.world.deployer)
    (hc : s'.clusters = s.clusters)
    (hlive : ∀ n c', s'.world.classifiers n = some c' → c'.deleting = false →
      c'.status.clusterInfo = [] ∨ ∃ c, s.world.classifiers n = some c ∧ c.deleting = false ∧
        c'.name = c.name ∧ ∀ e ∈ c'.status.clusterInfo, e ∈ c.status.clusterInfo) : Inv ext s' := by
  have hh : Holds s' = Holds s := by
    funext k
    unfold Holds
    rw [hc]
  refine ⟨hd ▸ h.features, hd ▸ h.running, hd ▸ h.directed, fun n c' hc' hl e he => ?_⟩
  rw [hd, hh]
  rcases hlive n c' hc' hl with he0 | ⟨c, hcs, hl', hn, hsub⟩
  · rw [he0] at he
    cases he
  · exact (h.entries n c hcs hl' e (hsub e he)).congr hn

theorem Inv.apply {s : Site σ} (h : Inv ext s) (name : String) (spec : ClassifierSpec) (paused : Bool) :
    Inv ext { s with world := World.step ext km s.world (.apply name spec paused) } := by
  refine h.of_live rfl rfl fun n c' hc' hl => ?_
  simp only [World.step, World.setClassifier_classifiers] at hc'
  by_cases hn : n = name
  · subst hn
    rw [Function.update_same] at hc'
    cases hc'
    cases hw : s.world.classifiers n with
    | none => exact .inl (by simp [hw, applyClassifier])
    | some c =>
      simp only [hw, applyClassifier] at hl ⊢
      exact .inr ⟨c, rfl, hl, rfl, fun e he => he⟩
  · rw [Function.update_noteq hn] at hc'
    exact .inr ⟨c', hc', hl, rfl, fun e he => he⟩

theorem Inv.delete {s : Site σ} (h : Inv ext s) (name : String) :
    Inv ext { s with world := World.step ext km s.world (.delete name) } := by
  refine h.of_live rfl rfl fun n c' hc' hl => .inr ⟨c', ?_, hl, rfl, fun e he => he⟩
  simp only [World.step, World.setClassifier_classifiers] at hc'
  by_cases hn : n = name
  · subst hn
    rw [Function.update_same] at hc'
    cases hw : s.world.classifiers n with
    | none => simp [hw, deleteClassifier] at hc'
    | some c =>
      rw [hw, deleteClassifier] at hc'
      rw [store_eq_some _ _ hc'] at hl
      cases hl
  · rwa [Function.update_noteq hn] at hc'

theorem Inv.reconcile {s : Site σ} (h : Inv ext s) (name : String) (fleet : Fleet) :
    Inv ext { s with world := World.step ext km s.world (.reconcile name fleet) } := by
  obtain ⟨hcls, -, -, hdep⟩ := World.step_reconcile ext km s.world name fleet
  rcases hw : s.world.classifiers name with _ | c
  · refine h.of_live (by rw [hdep, hw]; rfl) rfl fun n c' hc' hl => .inr ⟨c', ?_, hl, rfl, fun e he => he⟩
    rw [hcls, hw] at hc'
    by_cases hn : n = name
    · subst hn
      simp [Reconcile.reconcile] at hc'
    · rwa [Function.update_noteq hn] at hc'
  rw [hw] at hcls hdep
  have hd := (reconcile_deploys ext km s.world.reconciler fleet s.world.keys s.world.deployer c).mono
    fun _ h => h.directed
  have hwi := reconcile_within ext km s.world.reconciler fleet s.world.keys s.world.deployer c
  have hcn : c.name = name := s.world.named name c hw
  refine ⟨by rw [hdep, hd.features, h.features], fun k hk => ?_, fun call hc => ?_, fun n c' hc' hl e he => ?_⟩
  · rw [hdep] at hk
    rcases hd.inProgress k hk with hk | hk
    · exact h.running k hk
    · simpa [h.features] using hk
  · rw [hdep] at hc
    obtain ⟨new, hnew, hall⟩ := hd.calls
    rw [hnew] at hc
    rcases List.mem_append.1 hc with hc | hc
    · exact h.directed call hc
    · obtain ⟨hcl, hdir⟩ := hall call hc
      rw [hdir, hcl]
  rw [hcls] at hc'
  rw [hdep]
  by_cases hn : n = name
  · subst hn
    rw [Function.update_same] at hc'
    have hf := reconcile_stored_frame ext km _ fleet _ _ c c' hc'
    have hl' : c.deleting = false := by
      rw [← hl]
      exact (congrArg (·.2.2.2) hf).symm
    have hn' : c'.name = c.name := congrArg Prod.fst hf
    rw [hl'] at hd
    rcases reconcile_stored_entries ext km _ fleet _ _ c c' hl' hc' with hsub | ⟨c3, hf3, hent, rfl, hdeq⟩
    · exact ((h.entries _ c hw hl' e (hsub e he)).deploys hd).congr hn'
    · rw [hdeq]
      exact (deployClassifier_entryOk s.world.reconciler fleet c3 (congrArg Prod.fst hf3) hent
        (h.entries _ c hw hl') e he).congr hn'
  · rw [Function.update_noteq hn] at hc'
    have hne : c'.name ≠ c.name := by rw [s.world.named n c' hc', hcn]; exact hn
    exact (h.entries n c' hc' hl e he).sameAt fun b => hwi.2 _ hne

theorem Inv.noCleanup {s : Site σ} (h : Inv ext s) {X : ObjectReference} {c : Classifier}
    (hu : s.world.deployer.inProgress (deployerKey ext X c (classifierFeature ext) true) = false)
    (k : DeployerKey) (hk : s.world.deployer.inProgress k = true) (hc : k.cleanup = true)
    (hcl : clusterOf k = clusterOf (deployerKey ext X c (classifierFeature ext) false))
    (ha : k.applicant = (deployerKey ext X c (classifierFeature ext) false).applicant) : False := by
  have hf := h.running k hk
  have hk' : k = deployerKey ext X c (classifierFeature ext) true := by
    obtain ⟨ns, n, app, fid, ct, cl⟩ := k
    simp only [clusterOf, deployerKey, ClusterId.mk.injEq] at hcl ha hc hf ⊢
    simp [hcl, ha, hc, hf, classifierFeature]
  rw [hk', hu] at hk
  cases hk

theorem Inv.work {s : Site σ} (h : Inv ext s) (key : DeployerKey) (a : Answers) :
    Inv ext (Site.work ext km lib s key a) := by
  rcases Site.work_cases ext km lib s key a with heq | ⟨r, hrun, hpend, hcl, hcls, hw⟩
  · rw [heq]
    exact h
  obtain ⟨hrk, call, hcall, hreq⟩ := pending_mem hpend
  have hdir : r.handler = .undeployClassifierFromCluster ↔ key.cleanup = true := by
    rw [← hrk, ← hreq]
    exact h.directed call hcall
  -- an instance goes only by the undeploy of the key
  have keep : ∀ k, Holds s k →
      (key.cleanup = true → clusterOf key = clusterOf k → key.applicant = k.applicant → False) →
      Holds (Site.work ext km lib s key a) k := by
    intro k hk hno
    unfold Holds at hk ⊢
    rw [hcl]
    by_cases hc : clusterOf k = clusterOf key
    · rw [hc] at hk ⊢
      rw [Function.update_same]
      rcases runRequest_cases lib a (classifiersOf s.world) r (s.clusters (clusterOf key)) with
        ⟨-, ⟨-, hw⟩ | ⟨-, c, -, -, hw⟩⟩ | ⟨hu, hw | ⟨-, hw⟩⟩ <;> rw [hw]
      · exact hk
      · by_cases hr : instanceRef k.applicant = instanceRef r.key.applicant
        · rw [hr, Function.update_same]
          simp
        · rwa [Function.update_noteq hr]
      · exact hk
      · by_cases hr : instanceRef k.applicant = instanceRef r.key.applicant
        · have ha : k.applicant = r.key.applicant := by simpa [instanceRef] using hr
          exact (hno (hdir.1 hu) hc.symm (by rw [← hrk, ha])).elim
        · rwa [Function.update_noteq hr]
    · rwa [Function.update_noteq hc]
  -- the instance of an entry's deploy key stays
  have keepEntry : ∀ n c, s.world.classifiers n = some c → c.deleting = false → ∀ e ∈ c.status.clusterInfo,
      e.hash ≠ [] → Holds s (deployerKey ext e.cluster c (classifierFeature ext) false) →
      Holds (Site.work ext km lib s key a) (deployerKey ext e.cluster c (classifierFeature ext) false) :=
    fun n c hc hl e he hne hk => keep _ hk fun hct hcl' ha =>
      h.noCleanup ((h.entries n c hc hl e he).1 hne).1 key hrun hct hcl' ha
  rcases hw with ⟨-, hd⟩ | ⟨o, hp, hd⟩
  · refine ⟨hd ▸ h.features, hd ▸ h.running, hd ▸ h.directed, fun n c hc hl e he => ?_⟩
    rw [hcls] at hc
    rw [hd]
    exact (h.entries n c hc hl e he).mono (keepEntry n c hc hl e he)
  -- a deploy returning nil leaves its applicant's instance
  have deployed : o = none → key.cleanup = false → Holds (Site.work ext km lib s key a) key := by
    intro ho hkc
    subst ho
    have hh : r.handler ≠ .undeployClassifierFromCluster := fun hu => by simp [hdir.1 hu] at hkc
    obtain ⟨c, -, -, hi⟩ := runRequest_deployed lib a (classifiersOf s.world) r _ hh hp
    rw [hrk] at hi
    unfold Holds
    rw [hcl, Function.update_same, hi]
    simp
  refine ⟨by rw [hd, Deployer.complete_features, h.features], fun k hk => ?_, fun c hc => ?_,
    fun n c hc hl e he => ?_⟩
  · rw [hd] at hk
    exact h.running k (s.world.deployer.complete_inProgress key k _ hk)
  · rw [hd, Deployer.complete_calls] at hc
    exact h.directed c hc
  rw [hcls] at hc
  have ok := h.entries n c hc hl e he
  rw [hd]
  refine ⟨fun hne => ⟨Bool.eq_false_iff.2 fun ht => ?_, fun hr hq => ?_⟩, fun hq => ⟨(ok.2 hq).1,
    keepEntry n c hc hl e he (ok.2 hq).1 (ok.2 hq).2⟩⟩
  · have := s.world.deployer.complete_inProgress key _ _ ht
    rw [(ok.1 hne).1] at this
    cases this
  by_cases hk : deployerKey ext e.cluster c (classifierFeature ext) false = key
  · rw [hk, (s.world.deployer.complete_self key _ hrun).1] at hr
    rw [hk]
    exact deployed (by simpa using hr) (by rw [← hk]; rfl)
  · have hs := s.world.deployer.sameAt_complete key _ (o.map GoError.text) hk
    rw [hs.1] at hq
    rw [hs.2] at hr
    exact keepEntry n c hc hl e he hne ((ok.1 hne).2 hr hq)

theorem Inv.step {s : Site σ} (h : Inv ext s) (e : Event) : Inv ext (Site.step ext km lib s e) := by
  unfold Site.step
  split
  · exact h
  cases e with
  | apply name spec paused => exact h.apply km name spec paused
  | delete name => exact h.delete km name
  | reconcile name fleet => exact h.reconcile km name fleet
  | work key a => exact h.work km lib key a

variable (ext)

theorem inv_init (r : ClassifierReconciler) (keys : σ) (clusters : ClusterId → ManagedCluster) :
    Inv ext (Site.init r keys clusters) :=
  ⟨rfl, fun _ h => (by cases h), fun _ h => (by cases h), fun _ _ h => (by cases h)⟩

theorem inv_run (r : ClassifierReconciler) (keys : σ) (clusters : ClusterId → ManagedCluster)
    (events : List Event) : Inv ext (Site.run ext km lib (Site.init r keys clusters) events) :=
  Site.run_invariant ext km lib _ (fun _ e h => h.step km lib e) _ events (inv_init ext r keys clusters)

/-- Over every run from the controller's start, whatever the users, the fleet,
the managed clusters' answers and the order of the workers, a live
classifier's entry that says `Provisioned` for a cluster is backed by the
classifier's instance in that managed cluster. -/
theorem provisioned_instance (r : ClassifierReconciler) (keys : σ) (clusters : ClusterId → ManagedCluster)
    (events : List Event) (n : String) (c : Classifier) (e : ClusterInfo)
    (hc : (Site.run ext km lib (Site.init r keys clusters) events).world.classifiers n = some c)
    (hl : c.deleting = false) (he : e ∈ c.status.clusterInfo) (hp : e.status = .provisioned) :
    ((Site.run ext km lib (Site.init r keys clusters) events).clusters
      ⟨e.cluster.namespace, e.cluster.name, ext.getClusterType e.cluster⟩).classifiers (instanceRef n) ≠ none := by
  rw [← (Site.run ext km lib (Site.init r keys clusters) events).world.named n c hc]
  exact (((inv_run ext km lib r keys clusters events).entries n c hc hl e he).2 hp).2

end Invariant

section Deleted

variable {σ : Type} (ext : Externals) (km : Instance σ) (lib : Library)

theorem step_gone (s : Site σ) (e : Event) (n : String)
    (hn : ∀ c, s.world.classifiers n = some c → c.deleting = true)
    (he : ∀ spec paused, e ≠ .apply n spec paused) :
    (∀ c, (Site.step ext km lib s e).world.classifiers n = some c → c.deleting = true) ∧
      ∀ x, ((Site.step ext km lib s e).clusters x).classifiers (instanceRef n) = none ∨
        ((Site.step ext km lib s e).clusters x).classifiers (instanceRef n) =
          (s.clusters x).classifiers (instanceRef n) := by
  unfold Site.step
  split
  · exact ⟨hn, fun _ => .inr rfl⟩
  cases e with
  | apply m spec paused =>
    have hm : n ≠ m := fun h => he spec paused (by rw [h])
    refine ⟨fun c hc => hn c ?_, fun _ => .inr rfl⟩
    simpa [World.step, Function.update_noteq hm] using hc
  | delete m =>
    refine ⟨fun c hc => ?_, fun _ => .inr rfl⟩
    simp only [World.step, World.setClassifier_classifiers] at hc
    by_cases hm : n = m
    · subst hm
      rw [Function.update_same] at hc
      rcases hw : s.world.classifiers n with _ | c0 <;> rw [hw, deleteClassifier] at hc
      · cases hc
      · rw [store_eq_some _ _ hc]
    · exact hn c (by rwa [Function.update_noteq hm] at hc)
  | reconcile m fleet =>
    refine ⟨fun c hc => ?_, fun _ => .inr rfl⟩
    rw [(World.step_reconcile ext km s.world m fleet).1] at hc
    by_cases hm : n = m
    · subst hm
      rw [Function.update_same] at hc
      rcases hw : s.world.classifiers n with _ | c0 <;> rw [hw] at hc
      · simp [Reconcile.reconcile] at hc
      · rw [← hn c0 hw]
        exact congrArg (·.2.2.2) (reconcile_stored_frame ext km _ fleet _ _ c0 c hc)
    · exact hn c (by rwa [Function.update_noteq hm] at hc)
  | work key a =>
    dsimp only
    rcases Site.work_cases ext km lib s key a with heq | ⟨r, -, -, hcl, hcls, -⟩
    · rw [heq]
      exact ⟨hn, fun _ => .inr rfl⟩
    refine ⟨fun c hc => hn c (by rwa [hcls] at hc), fun x => ?_⟩
    rw [hcl]
    by_cases hx : x = clusterOf key
    swap
    · exact .inr (by rw [Function.update_noteq hx])
    subst hx
    rw [Function.update_same]
    rcases runRequest_cases lib a (classifiersOf s.world) r (s.clusters (clusterOf key)) with
      ⟨-, ⟨-, hw⟩ | ⟨-, c, hl, hd, hw⟩⟩ | ⟨-, hw | ⟨-, hw⟩⟩ <;> rw [hw]
    · exact .inr rfl
    · have hr : instanceRef n ≠ instanceRef r.key.applicant := fun h => by
        have ha : n = r.key.applicant := by simpa [instanceRef] using h
        rw [← ha] at hl
        simp [hn c hl] at hd
      exact .inr (Function.update_noteq hr _ _)
    · exact .inr rfl
    · by_cases hr : instanceRef n = instanceRef r.key.applicant
      · rw [hr, Function.update_same]
        exact .inl rfl
      · exact .inr (Function.update_noteq hr _ _)

/-- Over any run with no creation or edit of `n`, from a site where no
classifier named `n` is live, no managed cluster's Classifier instance named
`n` is ever written: each is deleted or stays as it was, even while deploys
queued for `n` before its deletion are still to run. -/
theorem deleted_not_redeployed (s : Site σ) (events : List Event) (n : String)
    (hn : ∀ c, s.world.classifiers n = some c → c.deleting = true)
    (he : ∀ e ∈ events, ∀ spec paused, e ≠ .apply n spec paused) (x : ClusterId) :
    ((Site.run ext km lib s events).clusters x).classifiers (instanceRef n) = none ∨
      ((Site.run ext km lib s events).clusters x).classifiers (instanceRef n) =
        (s.clusters x).classifiers (instanceRef n) := by
  induction events generalizing s with
  | nil => exact .inr rfl
  | cons e es ih =>
    obtain ⟨hn', hx⟩ := step_gone ext km lib s e n hn (he e (List.mem_cons_self _ _))
    rw [Site.run_cons]
    rcases ih _ hn' (fun e' h => he e' (List.mem_cons_of_mem _ h)) with h | h
    · exact .inl h
    · rw [h]
      exact hx x

/-- Over every run, no managed cluster loses a namespace, a Secret or an object
server-side apply wrote: the CRDs, the agent and the Secret with the
management cluster's kubeconfig stay after every classifier is gone, since an
undeploy deletes the Classifier instance only. -/
theorem installed_never_removed (s : Site σ) (events : List Event) (x : ClusterId) :
    ManagedCluster.Keeps (s.clusters x) ((Site.run ext km lib s events).clusters x) := by
  induction events generalizing s with
  | nil => exact .refl _
  | cons e es ih =>
    refine ManagedCluster.Keeps.trans ?_ (ih _)
    unfold Site.step
    split
    · exact .refl _
    cases e with
    | work key a =>
      dsimp only
      rcases Site.work_cases ext km lib s key a with heq | ⟨r, -, -, hcl, -, -⟩
      · rw [heq]
        exact .refl _
      rw [hcl]
      by_cases hx : x = clusterOf key
      · subst hx
        rw [Function.update_same]
        exact runRequest_keeps lib a _ r _
      · rw [Function.update_noteq hx]
        exact .refl _
    | _ => exact .refl _

end Deleted

section Panics

variable {σ : Type} (ext : Externals) (km : Instance σ) (lib : Library)

structure Calm (s : Site σ) : Prop where
  alive : s.crashed = false
  endpoint : s.world.reconciler.classifierReportMode = .agentSendReportsNoGateway →
    validEndpoint s.world.reconciler.controlPlaneEndpoint.toList = true
  calls : ∀ c ∈ s.world.deployer.calls, c.request.handler = .deployClassifierWithKubeconfigInCluster →
    ∃ cp, c.request.options.handlerOptions.lookup controlplaneendpoint = some cp ∧ validEndpoint cp.toList = true
  secrets : ∀ x, (s.clusters x).secrets (secretRef lib) ≠ some []

theorem PassCall.endpoint {r : ClassifierReconciler} {b : Bool} {req : Request} (h : PassCall r b req)
    (hh : req.handler = .deployClassifierWithKubeconfigInCluster) :
    r.classifierReportMode = .agentSendReportsNoGateway ∧
      req.options.handlerOptions.lookup controlplaneendpoint = some r.controlPlaneEndpoint := by
  cases b
  · obtain ⟨k, -, rfl⟩ := h
    cases hm : r.classifierReportMode
    · simp [deployRequest, hm] at hh
    · exact ⟨rfl, deployRequest_endpoint r k hm⟩
  · obtain ⟨k, -, rfl⟩ := h
    cases hh

variable {ext km lib}

theorem Calm.reconcile {s : Site σ} (h : Calm lib s) (name : String) (fleet : Fleet) :
    Calm lib { s with world := World.step ext km s.world (.reconcile name fleet) } := by
  obtain ⟨-, hr, -, hdep⟩ := World.step_reconcile ext km s.world name fleet
  obtain ⟨hmode, hcp⟩ := runIndex_settings s.world.reconciler
    (Reconcile.reconcile ext km s.world.reconciler fleet s.world.keys s.world.deployer (s.world.classifiers name)).ops
  refine ⟨h.alive, by rw [hr, hmode, hcp]; exact h.endpoint, fun c hc hh => ?_, h.secrets⟩
  rw [hdep] at hc
  rcases hw : s.world.classifiers name with _ | c0
  · rw [hw] at hc
    exact h.calls c hc hh
  rw [hw] at hc
  obtain ⟨new, hnew, hall⟩ := (reconcile_deploys ext km s.world.reconciler fleet s.world.keys
    s.world.deployer c0).calls
  rw [hnew] at hc
  rcases List.mem_append.1 hc with hc | hc
  · exact h.calls c hc hh
  · obtain ⟨hm, hl⟩ := PassCall.endpoint (hall c hc) hh
    exact ⟨_, hl, h.endpoint hm⟩

theorem Calm.work {s : Site σ} (h : Calm lib s) (key : DeployerKey) (a : Answers) :
    Calm lib (Site.work ext km lib s key a) := by
  have hcalls : (Site.work ext km lib s key a).world.deployer.calls = s.world.deployer.calls := by
    rcases Site.work_cases ext km lib s key a with heq | ⟨r, -, -, -, -, ⟨-, hd⟩ | ⟨o, -, hd⟩⟩
    · rw [heq]
    · rw [hd]
    · rw [hd, Deployer.complete_calls]
  refine ⟨Bool.eq_false_iff.2 fun hc => ?_, by rw [Site.work_reconciler]; exact h.endpoint,
    by rw [hcalls]; exact h.calls, fun x => ?_⟩
  · rcases Site.work_crashed ext km lib s key a hc with hc | ⟨r, hp, hr⟩
    · rw [h.alive] at hc
      cases hc
    obtain ⟨hk, c, hc, rfl⟩ := pending_mem hp
    obtain ⟨hh, hn | hs⟩ := runRequest_panic lib a _ c.request _ hr
    · obtain ⟨cp, hl, hv⟩ := h.calls c hc hh
      exact createAccessRequest_ne_none _ _ _ _ _ _ cp hl hv hn
    · exact h.secrets _ hs
  · rcases Site.work_cases ext km lib s key a with heq | ⟨r, -, -, hcl, -, -⟩
    · rw [heq]
      exact h.secrets x
    rw [hcl]
    by_cases hx : x = clusterOf key
    · subst hx
      rw [Function.update_same]
      exact runRequest_secret lib a _ r _ (h.secrets _)
    · rw [Function.update_noteq hx]
      exact h.secrets x

theorem Calm.step {s : Site σ} (h : Calm lib s) (e : Event) : Calm lib (Site.step ext km lib s e) := by
  unfold Site.step
  split
  · exact h
  cases e with
  | apply name spec paused => exact ⟨h.alive, h.endpoint, h.calls, h.secrets⟩
  | delete name => exact ⟨h.alive, h.endpoint, h.calls, h.secrets⟩
  | reconcile name fleet => exact h.reconcile name fleet
  | work key a => exact h.work key a

variable (ext km lib)

/-- Over every run from the controller's start, with the endpoint of the
startup format in push mode and no managed cluster holding the classifier
Secret with no data, no handler ever panics: the controller never goes down. -/
theorem never_panics (r : ClassifierReconciler) (keys : σ) (clusters : ClusterId → ManagedCluster)
    (events : List Event)
    (hv : r.classifierReportMode = .agentSendReportsNoGateway → validEndpoint r.controlPlaneEndpoint.toList = true)
    (hs : ∀ x, (clusters x).secrets (secretRef lib) ≠ some []) :
    (Site.run ext km lib (Site.init r keys clusters) events).crashed = false :=
  (Site.run_invariant ext km lib (Calm lib) (fun _ e h => h.step e) _ events
    ⟨rfl, hv, fun _ h => (by cases h), hs⟩).alive

end Panics

section Runs

open Sveltos.Registrations Sveltos.Convergence Sveltos.Effects

def acmeSite : Site LabelQueues :=
  Site.run Externals.zero labelQueues plainLibrary (Site.init startWorld.reconciler LabelQueues.empty fun _ => emptyCluster)
    [.apply "acme" ⟨[], [], []⟩ false, .reconcile "acme" (oneClusterFleet false), .work acmeDeploy plainAnswers,
      .reconcile "acme" (oneClusterFleet false)]

theorem acme_provisioned_instance :
    let c : Classifier := (acmeSite.world.classifiers "acme").getD acme
    let e : ClusterInfo := ⟨clusterA, classifierHash Externals.zero acme, .provisioned, some ""⟩
    (acmeSite.world.classifiers "acme" = some c ∧ c.deleting = false ∧ e ∈ c.status.clusterInfo ∧
        e.status = .provisioned) ∧
      (acmeSite.clusters ⟨"default", "a", .capi⟩).classifiers (instanceRef "acme") ≠ none := by
  intro c e
  have hc : acmeSite.world.classifiers "acme" = some c := by decide
  have hl : c.deleting = false := by decide
  have he : e ∈ c.status.clusterInfo := by decide
  exact ⟨⟨hc, hl, he, rfl⟩, provisioned_instance Externals.zero labelQueues plainLibrary _ _ _ _ "acme" c e hc hl he rfl⟩

def deletingSite : Site LabelQueues :=
  Site.run Externals.zero labelQueues plainLibrary (Site.init startWorld.reconciler LabelQueues.empty fun _ => emptyCluster)
    [.apply "acme" ⟨[], [], []⟩ false, .reconcile "acme" (oneClusterFleet false), .delete "acme"]

theorem acme_deleted_not_redeployed :
    deletingSite.world.deployer.inProgress acmeDeploy = true ∧
      ((∀ c, deletingSite.world.classifiers "acme" = some c → c.deleting = true) ∧
        ∀ e ∈ [Event.work acmeDeploy plainAnswers], ∀ spec paused, e ≠ .apply "acme" spec paused) ∧
      (((Site.run Externals.zero labelQueues plainLibrary deletingSite [.work acmeDeploy plainAnswers]).clusters
          ⟨"default", "a", .capi⟩).classifiers (instanceRef "acme") = none ∨
        ((Site.run Externals.zero labelQueues plainLibrary deletingSite [.work acmeDeploy plainAnswers]).clusters
          ⟨"default", "a", .capi⟩).classifiers (instanceRef "acme") =
          (deletingSite.clusters ⟨"default", "a", .capi⟩).classifiers (instanceRef "acme")) := by
  have hn : ∀ c, deletingSite.world.classifiers "acme" = some c → c.deleting = true := by
    intro c hc
    have h : (deletingSite.world.classifiers "acme").map (·.deleting) = some true := by decide
    rw [hc] at h
    exact Option.some.inj h
  have he : ∀ e ∈ [Event.work acmeDeploy plainAnswers], ∀ spec paused, e ≠ .apply "acme" spec paused := by
    simp
  exact ⟨by decide, ⟨hn, he⟩,
    deleted_not_redeployed Externals.zero labelQueues plainLibrary deletingSite _ "acme" hn he _⟩

theorem push_never_panics :
    let r : ClassifierReconciler := .init .agentSendReportsNoGateway "https://10.0.0.1:443"
    ((r.classifierReportMode = .agentSendReportsNoGateway → validEndpoint r.controlPlaneEndpoint.toList = true) ∧
        ∀ x : ClusterId, ((fun _ => emptyCluster) x).secrets (secretRef plainLibrary) ≠ some []) ∧
      (Site.run Externals.zero labelQueues plainLibrary (Site.init r LabelQueues.empty fun _ => emptyCluster)
        [.apply "acme" ⟨[], [], []⟩ false, .reconcile "acme" (oneClusterFleet false),
          .work acmeDeploy plainAnswers]).crashed = false := by
  intro r
  have hv : r.classifierReportMode = .agentSendReportsNoGateway → validEndpoint r.controlPlaneEndpoint.toList = true :=
    fun _ => by decide
  have hs : ∀ x : ClusterId, ((fun _ => emptyCluster) x).secrets (secretRef plainLibrary) ≠ some [] :=
    fun _ => by simp [emptyCluster]
  exact ⟨⟨hv, hs⟩, never_panics Externals.zero labelQueues plainLibrary r _ _ _ hv hs⟩

end Runs


end Sveltos.Workers
