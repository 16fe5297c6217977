import SveltosClassifier.Api

/-!
# The asynchronous deployer

The reconciler never runs a deploy or an undeploy itself: it queues a request
with the deployer and learns the outcome on a later pass. Requests are keyed
by cluster, applicant, feature and direction. A key is in progress from the
`Deploy` call that queues it until the deployer completes it, and only then
does it carry a result. Every `Deploy` call is also kept in `calls`, with
whether the request of the other direction for the same key was in progress
at that moment, so that what a pass asked for, and when, can be stated.
-/

set_option autoImplicit false

namespace Sveltos.Async
open Sveltos.Api

structure DeployerKey where
  clusterNamespace : String
  clusterName : String
  applicant : String
  featureID : String
  clusterType : ClusterType
  cleanup : Bool
  deriving DecidableEq, Repr

def DeployerKey.opposite (k : DeployerKey) : DeployerKey := { k with cleanup := !k.cleanup }

inductive RequestHandler where
  | deployClassifierInCluster
  | deployClassifierWithKubeconfigInCluster
  | undeployClassifierFromCluster
  deriving DecidableEq, Repr

structure Options where
  handlerOptions : List (String × String)
  deriving DecidableEq, Repr

structure Request where
  key : DeployerKey
  handler : RequestHandler
  options : Options
  deriving DecidableEq, Repr

structure Call where
  request : Request
  oppositeInProgress : Bool
  deriving DecidableEq, Repr

inductive ResultStatus where
  | deployed
  | failed
  | inProgress
  | removed
  | unavailable
  deriving DecidableEq, Repr

structure Result where
  resultStatus : ResultStatus
  err : Option String
  deriving DecidableEq, Repr

/-- Modelled from the spec: the deployer library is not among the sources; its
contract is `dispatch`, `isInProgress` and `getResult`. `results` holds the
outcome of a completed request: `some none` success, `some (some e)` failure
with message `e`. Only registered features are accepted. -/
structure Deployer where
  features : List String
  inProgress : DeployerKey → Bool
  results : DeployerKey → Option (Option String)
  calls : List Call

namespace Deployer

def idle : Deployer := ⟨[FeatureClassifier], fun _ => false, fun _ => none, []⟩

variable (d : Deployer)

def isInProgress (k : DeployerKey) : Bool := d.inProgress k

def getResult (k : DeployerKey) : Result :=
  if d.inProgress k then ⟨.inProgress, none⟩ else
  match d.results k with
  | none => ⟨.unavailable, none⟩
  | some (some e) => ⟨.failed, some e⟩
  | some none => if k.cleanup then ⟨.removed, none⟩ else ⟨.deployed, none⟩

/-- `Deploy`: the call is recorded; a request for a registered feature is
queued and its key is in progress with no result. -/
def deploy (r : Request) : Deployer × Option GoError :=
  let call : Call := ⟨r, d.inProgress r.key.opposite⟩
  if r.key.featureID ∈ d.features then
    (⟨d.features, Function.update d.inProgress r.key true, Function.update d.results r.key none,
      d.calls ++ [call]⟩, none)
  else (⟨d.features, d.inProgress, d.results, d.calls ++ [call]⟩,
    some (.message ("feature " ++ r.key.featureID ++ " is not registered")))

/-- The deployer's own worker finishes a request in progress with `outcome`. -/
def complete (k : DeployerKey) (outcome : Option String) : Deployer :=
  if d.inProgress k then
    ⟨d.features, Function.update d.inProgress k false, Function.update d.results k (some outcome),
      d.calls⟩
  else d

@[simp] theorem deploy_calls (r : Request) :
    (d.deploy r).1.calls = d.calls ++ [⟨r, d.inProgress r.key.opposite⟩] := by
  unfold deploy; split <;> rfl

@[simp] theorem deploy_features (r : Request) : (d.deploy r).1.features = d.features := by
  unfold deploy; split <;> rfl

@[simp] theorem complete_calls (k : DeployerKey) (o : Option String) :
    (d.complete k o).calls = d.calls := by
  unfold complete; split <;> rfl

@[simp] theorem complete_features (k : DeployerKey) (o : Option String) :
    (d.complete k o).features = d.features := by
  unfold complete; split <;> rfl

theorem deploy_queued (r : Request) (h : (d.deploy r).2 = none) : (d.deploy r).1.inProgress r.key = true := by
  unfold deploy at h ⊢
  split at h
  · simp [*]
  · cases h

theorem complete_self (k : DeployerKey) (o : Option String) (h : d.inProgress k = true) :
    (d.complete k o).results k = some o ∧ (d.complete k o).inProgress k = false := by
  simp [complete, h]

theorem deploy_inProgress (r : Request) (k : DeployerKey) :
    (d.deploy r).1.inProgress k = ((d.inProgress k || (k == r.key && r.key.featureID ∈ d.features))) := by
  unfold deploy
  by_cases hf : r.key.featureID ∈ d.features <;> by_cases hk : k = r.key <;> simp [hf, hk]

theorem complete_inProgress (k k' : DeployerKey) (o : Option String)
    (h : (d.complete k o).inProgress k' = true) : d.inProgress k' = true := by
  unfold complete at h
  split at h
  · by_cases hk : k' = k
    · subst hk; simp at h
    · simpa [hk] using h
  · exact h

def CallsSince (d' : Deployer) (P : Call → Prop) : Prop :=
  ∃ new : List Call, d'.calls = d.calls ++ new ∧ ∀ c ∈ new, P c

theorem CallsSince.refl (P : Call → Prop) : d.CallsSince d P := ⟨[], by simp, by simp⟩

theorem CallsSince.trans {d₁ d₂ d₃ : Deployer} {P : Call → Prop} (h : d₁.CallsSince d₂ P)
    (h' : d₂.CallsSince d₃ P) : d₁.CallsSince d₃ P := by
  obtain ⟨n, hn, hc⟩ := h
  obtain ⟨n', hn', hc'⟩ := h'
  exact ⟨n ++ n', by rw [hn', hn, List.append_assoc], fun c hc'' =>
    (List.mem_append.1 hc'').elim (hc c) (hc' c)⟩

theorem CallsSince.mono {d₁ d₂ : Deployer} {P Q : Call → Prop} (h : d₁.CallsSince d₂ P)
    (hpq : ∀ c, P c → Q c) : d₁.CallsSince d₂ Q := by
  obtain ⟨n, hn, hc⟩ := h
  exact ⟨n, hn, fun c h => hpq c (hc c h)⟩

theorem callsSince_deploy (r : Request) (P : Call → Prop) (h : P ⟨r, d.inProgress r.key.opposite⟩) :
    d.CallsSince (d.deploy r).1 P :=
  ⟨_, deploy_calls d r, by simpa using h⟩

theorem callsSince_complete (k : DeployerKey) (o : Option String) (P : Call → Prop) :
    d.CallsSince (d.complete k o) P :=
  ⟨[], by simp, by simp⟩

def Admitted (d' : Deployer) : Prop := d.CallsSince d' fun c => c.oppositeInProgress = false

theorem Admitted.refl : d.Admitted d := CallsSince.refl d _

theorem Admitted.trans {d₁ d₂ d₃ : Deployer} (h : d₁.Admitted d₂) (h' : d₂.Admitted d₃) :
    d₁.Admitted d₃ :=
  CallsSince.trans h h'

theorem admitted_deploy (r : Request) (h : d.inProgress r.key.opposite = false) :
    d.Admitted (d.deploy r).1 :=
  callsSince_deploy d r _ h

theorem admitted_complete (k : DeployerKey) (o : Option String) : d.Admitted (d.complete k o) :=
  callsSince_complete d k o _

def SameAt (d' : Deployer) (k : DeployerKey) : Prop :=
  d'.inProgress k = d.inProgress k ∧ d'.results k = d.results k

theorem SameAt.refl (k : DeployerKey) : d.SameAt d k := ⟨rfl, rfl⟩

theorem SameAt.trans {d₁ d₂ d₃ : Deployer} {k : DeployerKey} (h : d₁.SameAt d₂ k)
    (h' : d₂.SameAt d₃ k) : d₁.SameAt d₃ k :=
  ⟨h'.1.trans h.1, h'.2.trans h.2⟩

theorem SameAt.getResult {d' : Deployer} {k : DeployerKey} (h : d.SameAt d' k) :
    d'.getResult k = d.getResult k := by
  simp [Deployer.getResult, h.1, h.2]

theorem sameAt_deploy (r : Request) (k : DeployerKey) (hk : k ≠ r.key) : d.SameAt (d.deploy r).1 k := by
  unfold deploy
  split <;> simp [SameAt, hk]

theorem sameAt_complete (k k' : DeployerKey) (o : Option String) (hk : k' ≠ k) :
    d.SameAt (d.complete k o) k' := by
  unfold complete
  split <;> simp [SameAt, hk]

def Within (d' : Deployer) (S : DeployerKey → Prop) : Prop :=
  d.CallsSince d' (fun c => S c.request.key) ∧ ∀ k, ¬S k → d.SameAt d' k

theorem Within.refl (S : DeployerKey → Prop) : d.Within d S := ⟨.refl d _, fun k _ => .refl d k⟩

theorem Within.trans {d₁ d₂ d₃ : Deployer} {S : DeployerKey → Prop} (h : d₁.Within d₂ S)
    (h' : d₂.Within d₃ S) : d₁.Within d₃ S :=
  ⟨h.1.trans h'.1, fun k hk => (h.2 k hk).trans (h'.2 k hk)⟩

theorem Within.mono {d₁ d₂ : Deployer} {S T : DeployerKey → Prop} (h : d₁.Within d₂ S)
    (hst : ∀ k, S k → T k) : d₁.Within d₂ T :=
  ⟨h.1.mono fun _ hc => hst _ hc, fun k hk => h.2 k fun hs => hk (hst k hs)⟩

theorem within_deploy (r : Request) : d.Within (d.deploy r).1 (· = r.key) :=
  ⟨d.callsSince_deploy r _ rfl, d.sameAt_deploy r⟩

theorem getResult_complete (k k' : DeployerKey) (o : Option String)
    (h : (d.getResult k).resultStatus ≠ .unavailable) :
    ((d.complete k' o).getResult k).resultStatus ≠ .unavailable := by
  unfold complete
  split
  · by_cases hk : k = k'
    · subst hk
      rcases o with _ | e
      · by_cases hc : k.cleanup <;> simp [getResult, hc]
      · simp [getResult]
    · simpa [getResult, hk] using h
  · exact h

end Deployer

def Directed (cleanup : Bool) (r : Request) : Prop :=
  r.key.cleanup = cleanup ∧ (r.handler = .undeployClassifierFromCluster ↔ cleanup = true)

section Calls

variable (P : Request → Prop)

def DeploysBy (d d' : Deployer) : Prop :=
  ∃ rs : List Request, (∀ r ∈ rs, P r) ∧ d' = rs.foldl (fun d r => (d.deploy r).1) d

variable {P}

theorem DeploysBy.refl (d : Deployer) : DeploysBy P d d := ⟨[], by simp, rfl⟩

theorem DeploysBy.trans {d₁ d₂ d₃ : Deployer} (h : DeploysBy P d₁ d₂) (h' : DeploysBy P d₂ d₃) :
    DeploysBy P d₁ d₃ := by
  obtain ⟨rs, hr, rfl⟩ := h
  obtain ⟨rs', hr', rfl⟩ := h'
  exact ⟨rs ++ rs', fun r h => (List.mem_append.1 h).elim (hr r) (hr' r), by rw [List.foldl_append]⟩

theorem DeploysBy.deploy (d : Deployer) (r : Request) (h : P r) : DeploysBy P d (d.deploy r).1 :=
  ⟨[r], by simpa using h, rfl⟩

theorem DeploysBy.mono {Q : Request → Prop} {d d' : Deployer} (h : DeploysBy P d d')
    (hpq : ∀ r, P r → Q r) : DeploysBy Q d d' := by
  obtain ⟨rs, hr, rfl⟩ := h
  exact ⟨rs, fun r h => hpq r (hr r h), rfl⟩

theorem DeploysBy.rel (R : Deployer → Deployer → Prop) (hrefl : ∀ d, R d d)
    (htrans : ∀ {d₁ d₂ d₃}, R d₁ d₂ → R d₂ d₃ → R d₁ d₃) (hstep : ∀ d r, P r → R d (d.deploy r).1)
    {d d' : Deployer} (h : DeploysBy P d d') : R d d' := by
  obtain ⟨rs, hr, rfl⟩ := h
  induction rs generalizing d with
  | nil => exact hrefl d
  | cons r rs ih =>
    exact htrans (hstep d r (hr r (.head _))) (ih (fun r' h => hr r' (.tail _ h)))

variable {d d' : Deployer} (h : DeploysBy P d d')
include h

theorem DeploysBy.features : d'.features = d.features :=
  h.rel (fun d d' => d'.features = d.features) (fun _ => rfl) (fun h h' => h'.trans h)
    fun d r _ => Deployer.deploy_features d r

theorem DeploysBy.calls : d.CallsSince d' fun c => P c.request :=
  h.rel (fun d d' => d.CallsSince d' fun c => P c.request) (fun d => .refl d _) (fun h h' => h.trans h')
    fun d r hr => d.callsSince_deploy r _ hr

theorem DeploysBy.sameAt (k : DeployerKey) (hk : ∀ r, P r → r.key ≠ k) : d.SameAt d' k :=
  h.rel (fun d d' => d.SameAt d' k) (fun d => .refl d k) (fun h h' => h.trans h')
    fun d r hr => d.sameAt_deploy r k (Ne.symm (hk r hr))

theorem DeploysBy.inProgress_mono (k : DeployerKey) (hk : d.inProgress k = true) : d'.inProgress k = true :=
  h.rel (fun d d' => d.inProgress k = true → d'.inProgress k = true) (fun _ h => h) (fun h₁ h₂ h₃ => h₂ (h₁ h₃))
    (fun d r _ h₁ => by simp [Deployer.deploy_inProgress, h₁]) hk

theorem DeploysBy.inProgress (k : DeployerKey) (hk : d'.inProgress k = true) :
    d.inProgress k = true ∨ k.featureID ∈ d.features := by
  refine (h.rel (fun d d' => d'.features = d.features ∧
    (d'.inProgress k = true → d.inProgress k = true ∨ k.featureID ∈ d.features))
    (fun _ => ⟨rfl, .inl⟩) (fun h₁ h₂ => ⟨h₂.1.trans h₁.1, fun h₃ => ?_⟩) (fun d r _ => ⟨d.deploy_features r, ?_⟩)).2 hk
  · rcases h₂.2 h₃ with h₄ | h₄
    · exact h₁.2 h₄
    · exact .inr (h₁.1 ▸ h₄)
  · intro h₁
    by_cases hf : k.featureID ∈ d.features
    · exact .inr hf
    · refine .inl ?_
      rw [Deployer.deploy_inProgress] at h₁
      by_cases hk : k = r.key
      · subst hk
        simpa [hf] using h₁
      · simpa [hk] using h₁

theorem DeploysBy.succeeded (k : DeployerKey) (hr : d'.results k = some none)
    (hp : d'.inProgress k = false) : d.results k = some none ∧ d.inProgress k = false := by
  refine h.rel (fun d d' => d'.results k = some none → d'.inProgress k = false →
      d.results k = some none ∧ d.inProgress k = false)
    (fun _ h₁ h₂ => ⟨h₁, h₂⟩) (fun h₁ h₂ h₃ h₄ => h₁ (h₂ h₃ h₄).1 (h₂ h₃ h₄).2) (fun d r _ h₁ h₂ => ?_) hr hp
  unfold Deployer.deploy at h₁ h₂
  by_cases hf : r.key.featureID ∈ d.features <;> by_cases hk : k = r.key <;> simp_all

end Calls

theorem DeploysBy.sameAt_cleanup {d d' : Deployer} (h : DeploysBy (Directed false) d d') (k : DeployerKey)
    (hk : k.cleanup = true) : d.SameAt d' k :=
  h.sameAt k fun r hr he => by
    have h₁ := hr.1
    rw [he, hk] at h₁
    cases h₁

end Sveltos.Async
