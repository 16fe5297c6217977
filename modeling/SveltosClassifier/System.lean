import SveltosClassifier.Reconcile

/-!
# Runs of the controller

The world the controller acts on: the classifiers the API server holds, by
name, the reconciler's memory, the label key manager and the deployer. A run
interleaves, in any order, users creating, editing and deleting classifiers,
reconcile passes of any classifier, each seeing the API through the `Fleet`
of its event, and the deployer finishing requests. A pass runs as one step:
one worker handles a classifier at a time, and no two classifiers share a
deployer key.
-/

set_option autoImplicit false

namespace Sveltos.System
open Sveltos.Api Sveltos.KeyManager Sveltos.Reads Sveltos.Async Sveltos.Index Sveltos.Reconcile

/-- The world; every classifier is stored under its own name. -/
structure World (σ : Type) where
  classifiers : String → Option Classifier
  named : ∀ n c, classifiers n = some c → c.name = n
  reconciler : ClassifierReconciler
  keys : σ
  deployer : Deployer

inductive Event where
  | apply (name : String) (spec : ClassifierSpec) (paused : Bool)
  | delete (name : String)
  | reconcile (name : String) (fleet : Fleet)
  | complete (key : DeployerKey) (outcome : Option String)

def applyClassifier (name : String) (spec : ClassifierSpec) (paused : Bool) :
    Option Classifier → Classifier
  | none => ⟨name, spec, [], paused, false, ⟨[], []⟩⟩
  | some c => { c with spec := spec, paused := paused }

def deleteClassifier : Option Classifier → Option Classifier
  | none => none
  | some c => store { c with deleting := true }

namespace World

variable {σ : Type}

def init (r : ClassifierReconciler) (s : σ) (d : Deployer) : World σ :=
  ⟨fun _ => none, (fun _ _ h => nomatch h), r, s, d⟩

def setClassifier (w : World σ) (n : String) (o : Option Classifier)
    (h : ∀ c, o = some c → c.name = n) : World σ :=
  { w with
    classifiers := Function.update w.classifiers n o
    named := fun n' c hc => by
      by_cases hn : n' = n
      · subst hn; exact h c (by simpa using hc)
      · rw [Function.update_noteq hn] at hc; exact w.named n' c hc }

@[simp] theorem setClassifier_classifiers (w : World σ) (n : String) (o : Option Classifier)
    (h : ∀ c, o = some c → c.name = n) :
    (w.setClassifier n o h).classifiers = Function.update w.classifiers n o := rfl

@[simp] theorem setClassifier_deployer (w : World σ) (n : String) (o : Option Classifier)
    (h : ∀ c, o = some c → c.name = n) : (w.setClassifier n o h).deployer = w.deployer := rfl

@[simp] theorem setClassifier_keys (w : World σ) (n : String) (o : Option Classifier)
    (h : ∀ c, o = some c → c.name = n) : (w.setClassifier n o h).keys = w.keys := rfl

theorem applyClassifier_name (w : World σ) (name : String) (spec : ClassifierSpec) (paused : Bool) :
    (applyClassifier name spec paused (w.classifiers name)).name = name := by
  cases h : w.classifiers name with
  | none => rfl
  | some c => exact w.named name c h

theorem deleteClassifier_name (w : World σ) (name : String) (c : Classifier)
    (h : deleteClassifier (w.classifiers name) = some c) : c.name = name := by
  cases hc : w.classifiers name with
  | none => simp [hc, deleteClassifier] at h
  | some c' =>
    rw [hc, deleteClassifier] at h
    rw [store_eq_some _ _ h]
    exact w.named name c' hc

theorem reconcile_name (ext : Externals) (km : Instance σ) (w : World σ) (fleet : Fleet)
    (name : String) (c : Classifier)
    (h : (Reconcile.reconcile ext km w.reconciler fleet w.keys w.deployer (w.classifiers name)).stored =
      some c) : c.name = name := by
  cases hc : w.classifiers name with
  | none => simp [hc, Reconcile.reconcile] at h
  | some c' =>
    rw [hc] at h
    exact (congrArg Prod.fst (reconcile_stored_frame ext km _ fleet _ _ c' c h)).trans
      (w.named name c' hc)

variable (ext : Externals) (km : Instance σ)

/-- One event. A pass stores what `Reconcile` leaves and applies its writes to
the reconciler's memory. -/
def step (w : World σ) : Event → World σ
  | .apply name spec paused =>
    w.setClassifier name (some (applyClassifier name spec paused (w.classifiers name)))
      fun _ h => Option.some.inj h ▸ applyClassifier_name w name spec paused
  | .delete name =>
    w.setClassifier name (deleteClassifier (w.classifiers name)) (deleteClassifier_name w name)
  | .reconcile name fleet =>
    let o := Reconcile.reconcile ext km w.reconciler fleet w.keys w.deployer (w.classifiers name)
    { w.setClassifier name o.stored (reconcile_name ext km w fleet name) with
      reconciler := runIndex w.reconciler o.ops
      keys := o.keys
      deployer := o.deployer }
  | .complete key outcome => { w with deployer := w.deployer.complete key outcome }

theorem step_reconcile (w : World σ) (name : String) (fleet : Fleet) :
    let o := Reconcile.reconcile ext km w.reconciler fleet w.keys w.deployer (w.classifiers name)
    (step ext km w (.reconcile name fleet)).classifiers = Function.update w.classifiers name o.stored ∧
      (step ext km w (.reconcile name fleet)).reconciler = runIndex w.reconciler o.ops ∧
      (step ext km w (.reconcile name fleet)).keys = o.keys ∧
      (step ext km w (.reconcile name fleet)).deployer = o.deployer :=
  ⟨rfl, rfl, rfl, rfl⟩

def run (w : World σ) (events : List Event) : World σ := events.foldl (step ext km) w

@[simp] theorem run_nil (w : World σ) : run ext km w [] = w := rfl

@[simp] theorem run_cons (w : World σ) (e : Event) (es : List Event) :
    run ext km w (e :: es) = run ext km (step ext km w e) es := rfl

theorem run_invariant (P : World σ → Prop) (allowed : Event → Prop)
    (hstep : ∀ w e, allowed e → P w → P (step ext km w e)) (w : World σ) (events : List Event)
    (hallowed : ∀ e ∈ events, allowed e) (h : P w) : P (run ext km w events) := by
  induction events generalizing w with
  | nil => exact h
  | cons e es ih =>
    exact ih _ (fun e' he' => hallowed e' (List.mem_cons_of_mem e he'))
      (hstep w e (hallowed e (List.mem_cons_self e es)) h)

end World

end Sveltos.System
