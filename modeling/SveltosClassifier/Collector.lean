import SveltosClassifier.Mirrors

/-!
# The report collector loop

`collectClassifierReports` runs for as long as the manager does. Each
iteration lists the cluster-api clusters, collects the reports of each into
the management cluster, and sleeps for the interval. A failed `List` skips to
the next iteration with `continue`, past the sleep: while the `List` keeps
failing, the loop calls it again and again with no pause. The loop is paced
exactly when every iteration but the last one listed the clusters.

The loop is modelled over any number of its first iterations, each with the
answers it gets, the API server's answers to each update included. What it
writes is the sequence of the `updateClassifierReport` calls the API server
accepts, so the invariants of the mirror store hold all along it, and when no
two pairs it writes share a mirror the reconciler reads, for each cluster and
classifier, the last report of the cluster that the API server accepted.
-/

set_option autoImplicit false

namespace Sveltos.Collector
open Sveltos.Api Sveltos.Reads Sveltos.Reports

/-- What a cluster answers the collector: whether it is ready to be
configured, the client built for it (`InitScheme` and `GetKubernetesClient`),
and its `ClassifierReport`s; and what the management cluster's API server
answers the update of each report. -/
structure Remote where
  ready : Except GoError Bool
  client : Option GoError
  reports : Except GoError (List Report)
  server : Report → ServerAnswer

def collectClassifierReportsFromCluster (st : ReportStore) (cluster : Cluster) (remote : Remote) :
    ReportStore × Option GoError :=
  match remote.ready with
  | .error e => (st, some e)
  | .ok false => (st, none)
  | .ok true =>
    match remote.client with
    | some e => (st, some e)
    | none =>
      match remote.reports with
      | .error e => (st, some e)
      | .ok reports => (reports.foldl (fun st r => collectReport st cluster r (remote.server r)) st, none)

inductive Action where
  | listClusters
  | collect (cluster : Cluster)
  | sleep
  deriving DecidableEq, Repr

structure Round where
  clusters : Except GoError (List Cluster)
  remote : Cluster → Remote

def collectRound (st : ReportStore) (round : Round) : ReportStore × List Action :=
  match round.clusters with
  | .error _ => (st, [.listClusters])
  | .ok clusters =>
    (clusters.foldl (fun st c => (collectClassifierReportsFromCluster st c (round.remote c)).1) st,
      .listClusters :: clusters.map .collect ++ [.sleep])

/-- `collectClassifierReports` over its first iterations. -/
def collectClassifierReports (st : ReportStore) : List Round → ReportStore × List Action
  | [] => (st, [])
  | round :: rounds =>
    ((collectClassifierReports (collectRound st round).1 rounds).1,
      (collectRound st round).2 ++ (collectClassifierReports (collectRound st round).1 rounds).2)

section Pacing

def sleepsFirst : List Action → Bool
  | [] => true
  | .sleep :: _ => true
  | .listClusters :: _ => false
  | .collect _ :: rest => sleepsFirst rest

def paced : List Action → Bool
  | [] => true
  | .listClusters :: rest => sleepsFirst rest && paced rest
  | _ :: rest => paced rest

theorem sleepsFirst_collects (clusters : List Cluster) (rest : List Action) :
    sleepsFirst (clusters.map .collect ++ .sleep :: rest) = true := by
  induction clusters with
  | nil => rfl
  | cons c cs ih => exact ih

theorem paced_collects (clusters : List Cluster) (rest : List Action) :
    paced (clusters.map .collect ++ .sleep :: rest) = paced rest := by
  induction clusters with
  | nil => rfl
  | cons c cs ih => exact ih

theorem collectClassifierReports_cons (st : ReportStore) (round : Round) (rounds : List Round) :
    ∃ rest, (collectClassifierReports st (round :: rounds)).2 = .listClusters :: rest := by
  simp only [collectClassifierReports, collectRound]
  split <;> exact ⟨_, rfl⟩

theorem paced_collectClassifierReports (rounds : List Round) (st : ReportStore) :
    paced (collectClassifierReports st rounds).2 = true ↔ ∀ r ∈ rounds.dropLast, ∃ cs, r.clusters = .ok cs := by
  induction rounds generalizing st with
  | nil => simp [collectClassifierReports, paced]
  | cons round rounds ih =>
    simp only [collectClassifierReports, collectRound]
    split
    · rename_i e he
      rcases rounds with _ | ⟨r, rs⟩
      · simp [collectClassifierReports, paced, sleepsFirst]
      · obtain ⟨rest, hr⟩ := collectClassifierReports_cons st r rs
        simp [hr, paced, sleepsFirst, List.dropLast_cons₂, he]
    · rename_i cs hcs
      simp only [List.cons_append, List.append_assoc, List.singleton_append, List.nil_append]
      rw [paced, sleepsFirst_collects, Bool.true_and, paced_collects, ih]
      rcases rounds with _ | ⟨r, rs⟩
      · simp
      · simp [List.dropLast_cons₂, hcs]

/-- While the `List` of clusters keeps failing, the loop does nothing but call
it again: no collection, and no sleep between two calls. -/
theorem collectClassifierReports_busy_retry (st : ReportStore) (rounds : List Round)
    (h : ∀ r ∈ rounds, ∃ e, r.clusters = .error e) :
    (collectClassifierReports st rounds).2 = List.replicate rounds.length .listClusters ∧
      (2 ≤ rounds.length → paced (collectClassifierReports st rounds).2 = false) := by
  have hrun : (collectClassifierReports st rounds).2 = List.replicate rounds.length .listClusters := by
    induction rounds generalizing st with
    | nil => rfl
    | cons round rounds ih =>
      obtain ⟨e, he⟩ := h round (.head _)
      simp only [collectClassifierReports, collectRound, he, List.length_cons, List.replicate_succ,
        List.singleton_append, ih _ (fun r hr => h r (.tail _ hr))]
  refine ⟨hrun, fun hn => ?_⟩
  obtain ⟨n, hn⟩ : ∃ n, rounds.length = n + 2 := ⟨rounds.length - 2, by omega⟩
  rw [hrun, hn]
  rfl

def failedRound : Round :=
  ⟨.error (.message "connection refused"), fun _ => ⟨.ok false, none, .ok [], fun _ => .ok⟩⟩

theorem collectClassifierReports_busy_retry_twice :
    (∀ r ∈ [failedRound, failedRound], ∃ e, r.clusters = .error e) ∧
      (collectClassifierReports .empty [failedRound, failedRound]).2 = [.listClusters, .listClusters] ∧
      paced (collectClassifierReports .empty [failedRound, failedRound]).2 = false := by
  have h : ∀ r ∈ [failedRound, failedRound], ∃ e, r.clusters = .error e := by
    simp only [List.mem_cons, List.not_mem_nil, or_false, or_self, forall_eq]
    exact ⟨_, rfl⟩
  obtain ⟨h1, h2⟩ := collectClassifierReports_busy_retry .empty [failedRound, failedRound] h
  exact ⟨h, h1, h2 (by decide)⟩

end Pacing

section Writes

def clusterWrites (cluster : Cluster) (remote : Remote) : List (Cluster × Report) :=
  match remote.ready, remote.client, remote.reports with
  | .ok true, none, .ok reports => (reports.filter fun r => (remote.server r).accepted).map (cluster, ·)
  | _, _, _ => []

def roundWrites (round : Round) : List (Cluster × Report) :=
  match round.clusters with
  | .error _ => []
  | .ok clusters => clusters.flatMap fun c => clusterWrites c (round.remote c)

theorem updateAll_append (st : ReportStore) (ws ws' : List (Cluster × Report)) :
    updateAll st (ws ++ ws') = updateAll (updateAll st ws) ws' :=
  List.foldl_append _ _ _ _

theorem foldl_collectReport (cluster : Cluster) (server : Report → ServerAnswer) (reports : List Report)
    (st : ReportStore) :
    reports.foldl (fun st r => collectReport st cluster r (server r)) st =
      updateAll st ((reports.filter fun r => (server r).accepted).map (cluster, ·)) := by
  induction reports generalizing st with
  | nil => rfl
  | cons r rs ih =>
    rw [List.foldl_cons, ih, collectReport_answer, List.filter_cons]
    cases (server r).accepted <;> rfl

theorem collectClassifierReportsFromCluster_store (st : ReportStore) (cluster : Cluster) (remote : Remote) :
    (collectClassifierReportsFromCluster st cluster remote).1 = updateAll st (clusterWrites cluster remote) := by
  unfold collectClassifierReportsFromCluster clusterWrites
  rcases remote with ⟨_ | _ | _, _ | _, _ | _, server⟩ <;> simp [updateAll, foldl_collectReport]

theorem collectClusters_store (remote : Cluster → Remote) (clusters : List Cluster) (st : ReportStore) :
    clusters.foldl (fun st c => (collectClassifierReportsFromCluster st c (remote c)).1) st =
      updateAll st (clusters.flatMap fun c => clusterWrites c (remote c)) := by
  induction clusters generalizing st with
  | nil => rfl
  | cons c cs ih =>
    rw [List.foldl_cons, ih, List.flatMap_cons, updateAll_append, collectClassifierReportsFromCluster_store]

theorem collectRound_store (st : ReportStore) (round : Round) :
    (collectRound st round).1 = updateAll st (roundWrites round) := by
  unfold collectRound roundWrites
  split
  · rfl
  · exact collectClusters_store _ _ st

theorem collectClassifierReports_store (rounds : List Round) (st : ReportStore) :
    (collectClassifierReports st rounds).1 = updateAll st (rounds.flatMap roundWrites) := by
  induction rounds generalizing st with
  | nil => rfl
  | cons round rounds ih =>
    rw [collectClassifierReports, ih, collectRound_store, List.flatMap_cons, updateAll_append]

theorem collectClassifierReports_isolated (rounds : List Round)
    (hn : NoCollision (rounds.flatMap roundWrites)) :
    Isolated (collectClassifierReports .empty rounds).1 (rounds.flatMap roundWrites) := by
  rw [collectClassifierReports_store]
  exact updateAll_isolated _ hn _ (fun _ h => h) _ (fun _ h => nomatch h)

/-- The collector delivers the latest report the API server took: when no two
pairs it writes share a mirror, the last report a cluster gave for classifier
`P` whose update the API server answered is, as the reconciler reads it, among
the reports it lists for `P`; a later update the API server fails leaves it. -/
theorem collected_report_visible (rounds : List Round) (hn : NoCollision (rounds.flatMap roundWrites))
    (pre post : List (Cluster × Report)) (cluster : Cluster) (report : Report) (P : String)
    (hw : rounds.flatMap roundWrites = pre ++ (cluster, report) :: post)
    (hP : report.label ClassifierLabelName = some P)
    (hlast : ∀ w ∈ post, (w.1.namespace, w.1.name) = (cluster.namespace, cluster.name) →
      w.2.label ClassifierLabelName ≠ some P) :
    (⟨cluster.namespace, cluster.name, report.spec.match⟩ : ClassifierReport) ∈
      (collectClassifierReports .empty rounds).1.classifierReports P := by
  have hmem : (cluster, report) ∈ rounds.flatMap roundWrites := hw ▸ List.mem_append_right _ (.head _)
  have hk : writeKey cluster report = some (cluster.namespace, getClassifierReportName P cluster.name) := by
    rw [writeKey, hP]; rfl
  have hother : ∀ w ∈ post, writeKey w.1 w.2 ≠ some (cluster.namespace, getClassifierReportName P cluster.name) := by
    intro w hwp he
    obtain ⟨P', hP', hke⟩ := Option.map_eq_some'.1 he
    obtain ⟨hns, hname⟩ := Prod.mk.inj hke
    obtain ⟨rfl, hn'⟩ := hn w (hw ▸ List.mem_append_right _ (.tail _ hwp)) _ hmem P' P hP' hP hns hname
    exact hlast w hwp (by rw [hns, hn']) hP'
  obtain ⟨m, hget, hs⟩ := updateAll_get_last .empty cluster report pre post hk hother
  rw [← hw, ← collectClassifierReports_store] at hget
  obtain ⟨hm, hmk⟩ := ReportStore.get_eq_some hget
  -- the mirror under the key keeps the label of the pair that created it, which is `P`
  obtain ⟨w, hw', P', hP', hl, hk', -⟩ := collectClassifierReports_isolated rounds hn m hm
  obtain ⟨hns, hname⟩ := Prod.mk.inj (hk'.symm.trans hmk)
  obtain ⟨rfl, -⟩ := hn w hw' _ hmem P' P hP' hP hns hname
  refine List.mem_map.2 ⟨m, List.mem_filter.2 ⟨hm, by rw [hl]; exact beq_self_eq_true _⟩, ?_⟩
  rw [Report.view, hs]
  rfl

theorem acme_latest_report_visible :
    let a : Cluster := ⟨"default", "a", false, []⟩
    let rounds : List Round := [⟨.ok [a], fun _ => ⟨.ok true, none, .ok [reportOf "acme" false], fun _ => .ok⟩⟩,
      ⟨.ok [a], fun _ => ⟨.ok true, none, .ok [reportOf "acme" true], fun _ => ⟨none, some "conflict"⟩⟩⟩]
    (NoCollision (rounds.flatMap roundWrites) ∧
        rounds.flatMap roundWrites = [] ++ (a, reportOf "acme" false) :: [] ∧
        (reportOf "acme" false).label ClassifierLabelName = some "acme" ∧
        ∀ w ∈ ([] : List (Cluster × Report)), (w.1.namespace, w.1.name) = (a.namespace, a.name) →
          w.2.label ClassifierLabelName ≠ some "acme") ∧
      (⟨a.namespace, a.name, (reportOf "acme" false).spec.match⟩ : ClassifierReport) ∈
        (collectClassifierReports .empty rounds).1.classifierReports "acme" := by
  intro a rounds
  have hw : rounds.flatMap roundWrites = [] ++ (a, reportOf "acme" false) :: [] := rfl
  have hl : (reportOf "acme" false).label ClassifierLabelName = some "acme" := rfl
  have hn : NoCollision (rounds.flatMap roundWrites) := by
    intro w hw₁ w' hw₂ P P' h h' _ _
    rw [hw, List.nil_append, List.mem_singleton] at hw₁ hw₂
    subst hw₁ hw₂
    exact ⟨Option.some_inj.1 (h.symm.trans h'), rfl⟩
  have hlast : ∀ w ∈ ([] : List (Cluster × Report)), (w.1.namespace, w.1.name) = (a.namespace, a.name) →
      w.2.label ClassifierLabelName ≠ some "acme" := fun _ h => nomatch h
  exact ⟨⟨hn, hw, hl, hlast⟩, collected_report_visible rounds hn _ _ a _ "acme" hw hl hlast⟩

end Writes

end Sveltos.Collector
