import SveltosClassifier.Reads

/-!
# Report mirrors in the management cluster

In pull mode the manager copies each `ClassifierReport` a managed cluster
holds into the management cluster: a mirror in the cluster's namespace, named
`getClassifierReportName classifier cluster`, whose labels say which
classifier and which cluster it is for. `removeClassifierReports` and
`removeClusterClassifierReports` delete the mirrors carrying one label.

The API server is the store of mirrors, keyed by namespace and name. Its calls
fail as the store makes them fail, `Create` of a key in use and `Update` of a
missing one, or with an error of the server's own; a failed call writes
nothing.

Both names join two names with `--`, and names may contain `--`. Two
(classifier, cluster) pairs can then share one mirror, which keeps the
classifier label of the pair that created it and the spec of the pair that
wrote it last; two clusters can share one cluster label. When no two pairs
written share a mirror, every mirror holds what its own cluster reported for
its own classifier. Every mirror carries the label of the cluster its spec
names, so removing a cluster's mirrors removes those of every cluster whose
label is the same. Under each key the last write wins: the mirror holds the
spec of the last report written to it.
-/

set_option autoImplicit false

namespace Sveltos.Reports
open Sveltos.Api Sveltos.Reads

def classifierReportClusterLabel : String := "projectsveltos.io/cluster"

def ClassifierLabelName : String := "projectsveltos.io/classifier-name"

theorem classifierLabel_ne_clusterLabel : ClassifierLabelName ≠ classifierReportClusterLabel := by decide

structure ReportSpec where
  clusterNamespace : String
  clusterName : String
  classifierName : String
  «match» : Bool
  deriving DecidableEq, Repr

structure Report where
  «namespace» : String
  name : String
  labels : Option (List (String × String))
  spec : ReportSpec
  deriving DecidableEq, Repr

namespace Report

def key (r : Report) : String × String := (r.namespace, r.name)

def label (r : Report) (key : String) : Option String := (r.labels.getD []).lookup key

def view (r : Report) : ClassifierReport := ⟨r.spec.clusterNamespace, r.spec.clusterName, r.spec.match⟩

end Report

def joinNames (a b : String) : String := a ++ "--" ++ b

def getClassifierReportName (classifierName clusterName : String) : String :=
  joinNames classifierName clusterName

def getClusterInfo (clusterNamespace clusterName : String) : String :=
  joinNames clusterNamespace clusterName

theorem joinNames_shift (a b c : String) : joinNames (a ++ "--" ++ b) c = joinNames a (b ++ "--" ++ c) := by
  simp only [joinNames, String.append_assoc]

def replace (items : List Report) (o : Report) : List Report :=
  items.map fun r => if r.key = o.key then o else r

theorem map_key_replace (items : List Report) (o : Report) :
    (replace items o).map Report.key = items.map Report.key := by
  rw [replace, List.map_map]
  exact List.map_congr_left fun r _ => by by_cases h : r.key = o.key <;> simp [h]

theorem mem_replace {items : List Report} {o m : Report} (h : m ∈ replace items o) :
    m = o ∨ (m ∈ items ∧ m.key ≠ o.key) := by
  obtain ⟨r, hr, rfl⟩ := List.mem_map.1 h
  by_cases hk : r.key = o.key <;> simp [hk, hr]

structure ReportStore where
  items : List Report
  keys_nodup : (items.map Report.key).Nodup

namespace ReportStore

def empty : ReportStore := ⟨[], List.nodup_nil⟩

variable (st : ReportStore)

def get (ns name : String) : Option Report := st.items.find? (·.key == (ns, name))

def create (o : Report) : Except GoError ReportStore :=
  if h : o.key ∈ st.items.map Report.key then .error (.message "already exists")
  else .ok ⟨st.items ++ [o], by
    rw [List.map_append]
    exact List.nodup_append.2 ⟨st.keys_nodup, List.nodup_singleton _, List.disjoint_singleton.2 h⟩⟩

def update (o : Report) : Except GoError ReportStore :=
  if o.key ∈ st.items.map Report.key then
    .ok ⟨replace st.items o, by rw [map_key_replace]; exact st.keys_nodup⟩
  else .error .notFound

def delete (o : Report) : ReportStore :=
  ⟨st.items.filter (·.key ≠ o.key), st.keys_nodup.sublist ((List.filter_sublist _).map _)⟩

def list (key value : String) : List Report := st.items.filter (·.label key == some value)

def classifierReports (name : String) : List ClassifierReport :=
  (st.list ClassifierLabelName name).map Report.view

variable {st}

theorem get_eq_none {ns name : String} (h : st.get ns name = none) : ∀ m ∈ st.items, m.key ≠ (ns, name) := by
  intro m hm hk
  simpa [hk] using List.find?_eq_none.1 h m hm

theorem get_eq_some {ns name : String} {m : Report} (h : st.get ns name = some m) :
    m ∈ st.items ∧ m.key = (ns, name) :=
  ⟨List.mem_of_find?_eq_some h, by simpa using List.find?_some h⟩

theorem create_eq_ok {o : Report} {st' : ReportStore} (h : st.create o = .ok st') :
    st'.items = st.items ++ [o] := by
  unfold create at h
  split at h
  · cases h
  · cases h; rfl

theorem update_eq_ok {o : Report} {st' : ReportStore} (h : st.update o = .ok st') :
    st'.items = replace st.items o := by
  unfold update at h
  split at h
  · cases h; rfl
  · cases h

theorem eq_of_key_eq {m m' : Report} (hm : m ∈ st.items) (hm' : m' ∈ st.items) (h : m.key = m'.key) :
    m = m' :=
  List.inj_on_of_nodup_map st.keys_nodup hm hm' h

theorem get_eq_some_iff {ns name : String} {m : Report} :
    st.get ns name = some m ↔ m ∈ st.items ∧ m.key = (ns, name) := by
  refine ⟨get_eq_some, fun ⟨hm, hk⟩ => ?_⟩
  rcases h : st.get ns name with _ | m'
  · exact absurd hk (get_eq_none h m hm)
  · obtain ⟨hm', hk'⟩ := get_eq_some h
    rw [eq_of_key_eq hm' hm (hk'.trans hk.symm)]

theorem get_congr {st' : ReportStore} {k : String × String}
    (h : ∀ m : Report, m.key = k → (m ∈ st'.items ↔ m ∈ st.items)) : st'.get k.1 k.2 = st.get k.1 k.2 :=
  Option.ext fun m => by
    simp only [Option.mem_def, get_eq_some_iff]
    exact ⟨fun ⟨hm, hk⟩ => ⟨(h m hk).1 hm, hk⟩, fun ⟨hm, hk⟩ => ⟨(h m hk).2 hm, hk⟩⟩

theorem create_get {o : Report} (hk : st.get o.key.1 o.key.2 = none) :
    ∃ st', st.create o = .ok st' ∧ ∀ k, st'.get k.1 k.2 = if o.key = k then some o else st.get k.1 k.2 := by
  have hn : o.key ∉ st.items.map Report.key := fun h => by
    obtain ⟨m, hm, hmk⟩ := List.mem_map.1 h
    exact get_eq_none hk m hm hmk
  refine ⟨_, dif_neg hn, fun k => ?_⟩
  split
  · subst k
    exact get_eq_some_iff.2 ⟨List.mem_append_right _ (List.mem_singleton_self o), rfl⟩
  · exact get_congr fun m hmk => by
      simp only [List.mem_append, List.mem_singleton, or_iff_left_iff_imp]
      rintro rfl
      exact absurd hmk ‹_›

theorem update_get {o cur : Report} (hk : st.get o.key.1 o.key.2 = some cur) :
    ∃ st', st.update o = .ok st' ∧ ∀ k, st'.get k.1 k.2 = if o.key = k then some o else st.get k.1 k.2 := by
  obtain ⟨hcur, hck⟩ := get_eq_some hk
  refine ⟨_, if_pos (List.mem_map.2 ⟨cur, hcur, hck⟩), fun k => ?_⟩
  split
  · subst k
    exact get_eq_some_iff.2 ⟨List.mem_map.2 ⟨cur, hcur, if_pos hck⟩, rfl⟩
  · exact get_congr fun m hmk => by
      have hne : m.key ≠ o.key := fun h => ‹¬o.key = k› (h ▸ hmk)
      exact ⟨fun h => ((mem_replace h).resolve_left fun he => hne (he ▸ rfl)).1,
        fun h => List.mem_map.2 ⟨m, h, if_neg hne⟩⟩

theorem mem_foldl_delete (os : List Report) (m : Report) :
    m ∈ (os.foldl delete st).items ↔ m ∈ st.items ∧ ∀ o ∈ os, m.key ≠ o.key := by
  induction os generalizing st with
  | nil => simp
  | cons o os ih => simp [ih, delete, and_assoc]

end ReportStore

open ReportStore

def mirrorSpec (cluster : Cluster) (report : Report) : ReportSpec :=
  { report.spec with clusterNamespace := cluster.namespace, clusterName := cluster.name }

/-- The API server's own failures on the calls of one `updateClassifierReport`:
its `Get`, and its `Create` or `Update`. -/
structure ServerAnswer where
  get : Option String
  write : Option String
  deriving DecidableEq, Repr

def ServerAnswer.ok : ServerAnswer := ⟨none, none⟩

def answered (fault : Option String) (r : Except GoError ReportStore) : Except GoError ReportStore :=
  match fault with
  | some t => .error (.message t)
  | none => r

/-- `updateClassifierReport`: create the mirror of `report` from `cluster`,
labelled as the report is and with the cluster's label, or, when it exists,
write the spec and the cluster label into it. -/
def updateClassifierReport (st : ReportStore) (cluster : Cluster) (report : Report) (answer : ServerAnswer) :
    Except GoError ReportStore :=
  match report.labels with
  | none => .error (.message "classifierReport is malformed. Labels is empty")
  | some labels =>
    match labels.lookup ClassifierLabelName with
    | none => .error (.message "classifierReport is malformed. Label missing")
    | some classifierName =>
      let classifierReportName := getClassifierReportName classifierName cluster.name
      let clusterLabel := getClusterInfo cluster.namespace cluster.name
      answered answer.get <|
      match st.get cluster.namespace classifierReportName with
      | none =>
        answered answer.write <| st.create ⟨cluster.namespace, classifierReportName,
          some (setLabel labels classifierReportClusterLabel clusterLabel), mirrorSpec cluster report⟩
      | some current =>
        answered answer.write <| st.update { current with
          spec := mirrorSpec cluster report
          labels := some (setLabel (current.labels.getD []) classifierReportClusterLabel clusterLabel) }

/-- One turn of the loop of `collectClassifierReportsFromCluster` over a
cluster's reports: a failed update is logged and skipped. -/
def collectReport (st : ReportStore) (cluster : Cluster) (report : Report) (answer : ServerAnswer) : ReportStore :=
  match updateClassifierReport st cluster report answer with
  | .ok st' => st'
  | .error _ => st

def updateAll (st : ReportStore) (writes : List (Cluster × Report)) : ReportStore :=
  writes.foldl (fun st w => collectReport st w.1 w.2 .ok) st

def ServerAnswer.accepted (a : ServerAnswer) : Bool := a.get.isNone && a.write.isNone

theorem updateClassifierReport_refused (st : ReportStore) (cluster : Cluster) (report : Report) (a : ServerAnswer)
    (h : a.accepted = false) : ∃ e, updateClassifierReport st cluster report a = .error e := by
  unfold updateClassifierReport
  split
  · exact ⟨_, rfl⟩
  split
  · exact ⟨_, rfl⟩
  rcases a with ⟨_ | g, _ | w⟩
  · cases h
  · dsimp only [answered]
    split <;> exact ⟨_, rfl⟩
  all_goals exact ⟨_, rfl⟩

theorem collectReport_answer (st : ReportStore) (cluster : Cluster) (report : Report) (a : ServerAnswer) :
    collectReport st cluster report a = if a.accepted then collectReport st cluster report .ok else st := by
  cases ha : a.accepted
  · obtain ⟨e, he⟩ := updateClassifierReport_refused st cluster report a ha
    simp only [collectReport, he, Bool.false_eq_true, if_false]
  · rcases a with ⟨_ | g, _ | w⟩ <;> simp [ServerAnswer.accepted] at ha
    rfl

def removeLabelled (st : ReportStore) (key value : String) : ReportStore :=
  (st.list key value).foldl ReportStore.delete st

def removeClassifierReports (st : ReportStore) (classifierName : String) : ReportStore :=
  removeLabelled st ClassifierLabelName classifierName

def removeClusterClassifierReports (st : ReportStore) (clusterNamespace clusterName : String) :
    ReportStore :=
  removeLabelled st classifierReportClusterLabel (getClusterInfo clusterNamespace clusterName)

section Update

variable {st st' : ReportStore} {cluster : Cluster} {report : Report}

theorem mem_updateClassifierReport (h : updateClassifierReport st cluster report .ok = .ok st')
    {m : Report} (hm : m ∈ st'.items) :
    ∃ P, report.label ClassifierLabelName = some P ∧
      ((m ∈ st.items ∧ m.key ≠ (cluster.namespace, getClassifierReportName P cluster.name)) ∨
        (m.key = (cluster.namespace, getClassifierReportName P cluster.name) ∧
          m.spec = mirrorSpec cluster report ∧
          m.label classifierReportClusterLabel = some (getClusterInfo cluster.namespace cluster.name) ∧
          (m.label ClassifierLabelName = some P ∨
            ∃ cur ∈ st.items, cur.key = m.key ∧ m.label ClassifierLabelName = cur.label ClassifierLabelName))) := by
  unfold updateClassifierReport at h
  rcases hl : report.labels with _ | labels <;> rw [hl] at h
  · cases h
  rcases hP : labels.lookup ClassifierLabelName with _ | P <;> simp only [hP] at h
  · cases h
  refine ⟨P, by simp [Report.label, hl, hP], ?_⟩
  rcases hg : st.get cluster.namespace (getClassifierReportName P cluster.name) with _ | cur <;>
    simp only [hg, ServerAnswer.ok, answered] at h
  · rw [create_eq_ok h, List.mem_append, List.mem_singleton] at hm
    rcases hm with hm | rfl
    · exact .inl ⟨hm, get_eq_none hg m hm⟩
    · refine .inr ⟨rfl, rfl, lookup_setLabel_self _ _, .inl ?_⟩
      simp only [Report.label, Option.getD_some]
      rw [lookup_setLabel _ _ classifierLabel_ne_clusterLabel, hP]
  · obtain ⟨hcur, hkey⟩ := get_eq_some hg
    rcases mem_replace (update_eq_ok h ▸ hm) with rfl | ⟨hm, hk⟩
    · refine .inr ⟨hkey, rfl, lookup_setLabel_self _ _, .inr ⟨cur, hcur, rfl, ?_⟩⟩
      exact lookup_setLabel _ _ classifierLabel_ne_clusterLabel
    · exact .inl ⟨hm, hkey ▸ hk⟩

end Update

section Cleanup

def ClusterLabelled (st : ReportStore) : Prop :=
  ∀ m ∈ st.items,
    m.label classifierReportClusterLabel = some (getClusterInfo m.spec.clusterNamespace m.spec.clusterName)

theorem collectReport_clusterLabelled (st : ReportStore) (cluster : Cluster) (report : Report)
    (h : ClusterLabelled st) : ClusterLabelled (collectReport st cluster report .ok) := by
  unfold collectReport
  split
  · rename_i st' hu
    intro m hm
    obtain ⟨P, -, ⟨hm, -⟩ | ⟨-, hs, hc, -⟩⟩ := mem_updateClassifierReport hu hm
    · exact h m hm
    · rw [hc, hs]; rfl
  · exact h

theorem updateAll_clusterLabelled (writes : List (Cluster × Report)) (st : ReportStore)
    (h : ClusterLabelled st) : ClusterLabelled (updateAll st writes) := by
  induction writes generalizing st with
  | nil => exact h
  | cons w ws ih => exact ih _ (collectReport_clusterLabelled st w.1 w.2 h)

theorem mem_removeLabelled (st : ReportStore) (key value : String) (m : Report) :
    m ∈ (removeLabelled st key value).items ↔ m ∈ st.items ∧ m.label key ≠ some value := by
  rw [removeLabelled, mem_foldl_delete]
  refine and_congr_right fun hm => ⟨fun h hl => h m (by simp [list, hm, hl]) rfl, fun h o ho hk => ?_⟩
  obtain ⟨ho, hl⟩ := List.mem_filter.1 ho
  exact h (eq_of_key_eq hm ho hk ▸ by simpa using hl)

theorem mem_removeClusterClassifierReports (st : ReportStore) (h : ClusterLabelled st) (ns name : String)
    (m : Report) :
    m ∈ (removeClusterClassifierReports st ns name).items ↔
      m ∈ st.items ∧ getClusterInfo m.spec.clusterNamespace m.spec.clusterName ≠ getClusterInfo ns name := by
  rw [removeClusterClassifierReports, mem_removeLabelled]
  exact and_congr_right fun hm => by rw [h m hm, Ne, Option.some_inj]

def reportOf (classifierName : String) (isMatch : Bool) : Report :=
  ⟨"projectsveltos", classifierName, some [(ClassifierLabelName, classifierName)], ⟨"", "", classifierName, isMatch⟩⟩

/-- The clusters `a--b/c` and `a/b--c` share a cluster label: removing the
mirrors of `a/b--c` also removes those of `a--b/c`. -/
theorem removeClusterClassifierReports_other_cluster :
    let st : ReportStore := updateAll .empty
      [(⟨"a--b", "c", false, []⟩, reportOf "acme" true), (⟨"a", "b--c", false, []⟩, reportOf "acme" true)]
    getClusterInfo "a--b" "c" = getClusterInfo "a" "b--c" ∧
      st.classifierReports "acme" = [⟨"a--b", "c", true⟩, ⟨"a", "b--c", true⟩] ∧
      (removeClusterClassifierReports st "a" "b--c").classifierReports "acme" = [] := by
  decide

end Cleanup

section Isolation

def Reflects (m : Report) (P : String) (cluster : Cluster) (report : Report) : Prop :=
  report.label ClassifierLabelName = some P ∧ m.label ClassifierLabelName = some P ∧
    m.key = (cluster.namespace, getClassifierReportName P cluster.name) ∧ m.spec = mirrorSpec cluster report

def Isolated (st : ReportStore) (writes : List (Cluster × Report)) : Prop :=
  ∀ m ∈ st.items, ∃ w ∈ writes, ∃ P, Reflects m P w.1 w.2

def NoCollision (writes : List (Cluster × Report)) : Prop :=
  ∀ w ∈ writes, ∀ w' ∈ writes, ∀ P P', w.2.label ClassifierLabelName = some P →
    w'.2.label ClassifierLabelName = some P' → w.1.namespace = w'.1.namespace →
    getClassifierReportName P w.1.name = getClassifierReportName P' w'.1.name → P = P' ∧ w.1.name = w'.1.name

section Steps

variable (all : List (Cluster × Report)) (hn : NoCollision all)
include hn

theorem collectReport_isolated (st : ReportStore) (cluster : Cluster) (report : Report)
    (hw : (cluster, report) ∈ all) (h : Isolated st all) : Isolated (collectReport st cluster report .ok) all := by
  unfold collectReport
  split
  · rename_i st' hu
    intro m hm
    obtain ⟨P, hP, ⟨hm, -⟩ | ⟨hk, hs, -, hl⟩⟩ := mem_updateClassifierReport hu hm
    · exact h m hm
    refine ⟨_, hw, P, hP, ?_, hk, hs⟩
    rcases hl with hl | ⟨cur, hcur, hck, hl⟩
    · exact hl
    obtain ⟨w, hw', P', hP', hcl, hck', -⟩ := h cur hcur
    rw [hck, hk] at hck'
    obtain ⟨hns, hname⟩ := Prod.mk.inj hck'
    rw [hl, hcl, (hn _ hw _ hw' P P' hP hP' hns hname).1]
  · exact h

theorem updateAll_isolated (writes : List (Cluster × Report)) (hsub : ∀ w ∈ writes, w ∈ all)
    (st : ReportStore) (h : Isolated st all) : Isolated (updateAll st writes) all := by
  induction writes generalizing st with
  | nil => exact h
  | cons w ws ih =>
    exact ih (fun w' hw' => hsub w' (.tail _ hw')) _
      (collectReport_isolated all hn st w.1 w.2 (hsub w (.head _)) h)

end Steps

theorem mirror_reflects (writes : List (Cluster × Report)) (hn : NoCollision writes) (m : Report)
    (hm : m ∈ (updateAll .empty writes).items) (P : String) (hP : m.label ClassifierLabelName = some P) :
    ∃ w ∈ writes, w.1.namespace = m.spec.clusterNamespace ∧ w.1.name = m.spec.clusterName ∧
      w.2.label ClassifierLabelName = some P ∧ m.spec = mirrorSpec w.1 w.2 := by
  obtain ⟨w, hw, P', hr, hl, -, hs⟩ :=
    updateAll_isolated writes hn writes (fun _ h => h) .empty (fun _ h => nomatch h) m hm
  rw [hP, Option.some_inj] at hl
  exact ⟨w, hw, by rw [hs]; rfl, by rw [hs]; rfl, hl ▸ hr, hs⟩

/-- Classifier `a--b` reported not matching by `default/c`, then classifier
`a` reported matching by `default/b--c`: the two pairs share the mirror
`a--b--c`, which keeps the label `a--b` and now holds the report of `b--c` for
`a`, so the reports of `a--b` name `b--c` as a matching cluster. -/
theorem report_mirror_shared :
    let c : Cluster := ⟨"default", "c", false, []⟩
    let bc : Cluster := ⟨"default", "b--c", false, []⟩
    let st := updateAll .empty [(c, reportOf "a--b" false), (bc, reportOf "a" true)]
    getClassifierReportName "a--b" c.name = getClassifierReportName "a" bc.name ∧
      (∃ m ∈ st.items, m.label ClassifierLabelName = some "a--b" ∧ m.spec = mirrorSpec bc (reportOf "a" true)) ∧
      st.classifierReports "a--b" = [⟨"default", "b--c", true⟩] := by
  decide

end Isolation

section Freshness

def writeKey (cluster : Cluster) (report : Report) : Option (String × String) :=
  (report.label ClassifierLabelName).map fun P => (cluster.namespace, getClassifierReportName P cluster.name)

variable (st : ReportStore) (cluster : Cluster) (report : Report)

theorem collectReport_labelled {k : String × String} (hk : writeKey cluster report = some k) :
    ∃ o : Report, o.key = k ∧ o.spec = mirrorSpec cluster report ∧
      ∀ k', (collectReport st cluster report .ok).get k'.1 k'.2 = if o.key = k' then some o else st.get k'.1 k'.2 := by
  obtain ⟨P, hP, rfl⟩ := Option.map_eq_some'.1 hk
  obtain ⟨labels, hl, hP'⟩ : ∃ labels, report.labels = some labels ∧ labels.lookup ClassifierLabelName = some P := by
    rcases hl : report.labels with _ | labels
    · simp [Report.label, hl] at hP
    · exact ⟨labels, rfl, by simpa [Report.label, hl] using hP⟩
  unfold collectReport updateClassifierReport
  simp only [hl, hP']
  rcases hg : st.get cluster.namespace (getClassifierReportName P cluster.name) with _ | cur
  · let o : Report := ⟨cluster.namespace, getClassifierReportName P cluster.name,
      some (setLabel labels classifierReportClusterLabel (getClusterInfo cluster.namespace cluster.name)),
      mirrorSpec cluster report⟩
    obtain ⟨st', hc, hget⟩ := @create_get st o hg
    exact ⟨o, rfl, rfl, by rw [hc]; exact hget⟩
  · have hk' := (get_eq_some hg).2
    let o : Report := { cur with
      spec := mirrorSpec cluster report
      labels := some (setLabel (cur.labels.getD []) classifierReportClusterLabel
        (getClusterInfo cluster.namespace cluster.name)) }
    obtain ⟨st', hu, hget⟩ := @update_get st o cur (by show st.get cur.key.1 cur.key.2 = _; rw [hk']; exact hg)
    dsimp only
    exact ⟨o, hk', rfl, by rw [hu]; exact hget⟩

theorem collectReport_get_other {k : String × String} (hk : writeKey cluster report ≠ some k) :
    (collectReport st cluster report .ok).get k.1 k.2 = st.get k.1 k.2 := by
  rcases hw : writeKey cluster report with _ | k'
  · have hl : (report.labels.getD []).lookup ClassifierLabelName = none := Option.map_eq_none'.1 hw
    unfold collectReport updateClassifierReport
    rcases hlab : report.labels with _ | labels
    · rfl
    · rw [hlab, Option.getD_some] at hl
      simp only [hl]
  · obtain ⟨o, ho, -, hget⟩ := collectReport_labelled st cluster report hw
    rw [hget, if_neg (ho ▸ fun h => hk (hw.trans (congrArg some h)))]

theorem updateAll_get_other (writes : List (Cluster × Report)) {k : String × String}
    (h : ∀ w ∈ writes, writeKey w.1 w.2 ≠ some k) : (updateAll st writes).get k.1 k.2 = st.get k.1 k.2 := by
  induction writes generalizing st with
  | nil => rfl
  | cons w ws ih =>
    rw [updateAll, List.foldl_cons, ← updateAll, ih _ fun w' hw' => h w' (.tail _ hw'),
      collectReport_get_other _ _ _ (h w (.head _))]

theorem updateAll_get_last (pre post : List (Cluster × Report)) {k : String × String}
    (hk : writeKey cluster report = some k) (h : ∀ w ∈ post, writeKey w.1 w.2 ≠ some k) :
    ∃ m, (updateAll st (pre ++ (cluster, report) :: post)).get k.1 k.2 = some m ∧
      m.spec = mirrorSpec cluster report := by
  obtain ⟨o, ho, hs, hget⟩ := collectReport_labelled (updateAll st pre) cluster report hk
  refine ⟨o, ?_, hs⟩
  rw [updateAll, List.foldl_append, List.foldl_cons, ← updateAll, ← updateAll, updateAll_get_other _ _ h, hget,
    if_pos ho]

end Freshness

end Sveltos.Reports
