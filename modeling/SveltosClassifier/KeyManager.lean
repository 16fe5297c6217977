import SveltosClassifier.Api

/-!
# The label key manager, by its contract

For each cluster and label key the key manager names at most one classifier
that may set it. Its package is not among these sources: the reconciler
reaches it through five calls. `Instance σ` is any implementation over a
state `σ` together with the contract the reconciler relies on, stated over
two abstractions: the registered (classifier, cluster) pairs, which only
register and remove-all change, and the owner of each key, which a
classifier's calls never take away from another classifier.
-/

set_option autoImplicit false

namespace Sveltos.KeyManager
open Sveltos.Api

/-- The instance `keymanager.GetKeyManagerInstance` returns, over its state
`σ`. Clusters are named by namespace and name. -/
structure Instance (σ : Type) where
  registerClassifierForLabels : σ → Classifier → String → String → σ
  removeStaleRegistrations : σ → Classifier → String → String → σ
  removeAllRegistrations : σ → Classifier → String → String → σ
  canManageLabel : σ → Classifier → String → String → String → Bool
  getManagerForKey : σ → String → String → String → Except GoError String
  registered : σ → String → String × String → Bool
  owner : σ → String × String → String → Option String
  registered_register : ∀ s c ns n p cl,
    registered (registerClassifierForLabels s c ns n) p cl = true ↔
      registered s p cl = true ∨ (p = c.name ∧ cl = (ns, n))
  registered_removeStale : ∀ s c ns n p cl,
    registered (removeStaleRegistrations s c ns n) p cl = registered s p cl
  registered_removeAll : ∀ s c ns n p cl,
    registered (removeAllRegistrations s c ns n) p cl = true ↔
      registered s p cl = true ∧ ¬(p = c.name ∧ cl = (ns, n))
  canManageLabel_iff : ∀ s c ns n k,
    canManageLabel s c ns n k = true ↔ owner s (ns, n) k = some c.name
  getManagerForKey_ok : ∀ s ns n k q,
    getManagerForKey s ns n k = .ok q ↔ owner s (ns, n) k = some q
  owner_register : ∀ s c ns n cl k q, owner s cl k = some q → q ≠ c.name →
    owner (registerClassifierForLabels s c ns n) cl k = some q
  owner_removeStale : ∀ s c ns n cl k q, owner s cl k = some q → q ≠ c.name →
    owner (removeStaleRegistrations s c ns n) cl k = some q
  owner_removeAll : ∀ s c ns n cl k q, owner s cl k = some q → q ≠ c.name →
    owner (removeAllRegistrations s c ns n) cl k = some q

def labelKeys (c : Classifier) : List String := c.spec.classifierLabels.map (·.key)

/-- Modelled from the spec: the key manager's package is not among the sources.
"Whichever registers first owns it": per cluster and key, the classifiers that
asked for it, in order; the first one owns the key. -/
structure LabelQueues where
  queue : String × String → String → List String
  pairs : List (String × (String × String))

namespace LabelQueues

def empty : LabelQueues := ⟨fun _ _ => [], []⟩

def register (s : LabelQueues) (c : Classifier) (ns n : String) : LabelQueues :=
  ⟨fun cl k => if cl = (ns, n) ∧ k ∈ labelKeys c ∧ c.name ∉ s.queue cl k
      then s.queue cl k ++ [c.name] else s.queue cl k,
    s.pairs ++ [(c.name, (ns, n))]⟩

def removeStale (s : LabelQueues) (c : Classifier) (ns n : String) : LabelQueues :=
  ⟨fun cl k => if cl = (ns, n) ∧ k ∉ labelKeys c
      then (s.queue cl k).filter (· ≠ c.name) else s.queue cl k, s.pairs⟩

def removeAll (s : LabelQueues) (c : Classifier) (ns n : String) : LabelQueues :=
  ⟨fun cl k => if cl = (ns, n) then (s.queue cl k).filter (· ≠ c.name) else s.queue cl k,
    s.pairs.filter (· ≠ (c.name, (ns, n)))⟩

def owner (s : LabelQueues) (cl : String × String) (k : String) : Option String :=
  (s.queue cl k).head?

def getManagerForKey (s : LabelQueues) (ns n k : String) : Except GoError String :=
  match s.owner (ns, n) k with
  | some q => .ok q
  | none => .error (.message "no classifier is managing this key")

theorem head?_append_of_head? (l : List String) (x q : String) (h : l.head? = some q) :
    (l ++ [x]).head? = some q := by
  cases l <;> simp_all

theorem head?_filter_of_head? (l : List String) (x q : String) (h : l.head? = some q)
    (hq : q ≠ x) : (l.filter (· ≠ x)).head? = some q := by
  cases l with
  | nil => simp at h
  | cons y l => simp only [List.head?_cons, Option.some.injEq] at h; subst h; simp [hq]

end LabelQueues

def labelQueues : Instance LabelQueues where
  registerClassifierForLabels := LabelQueues.register
  removeStaleRegistrations := LabelQueues.removeStale
  removeAllRegistrations := LabelQueues.removeAll
  canManageLabel s c ns n k := s.owner (ns, n) k == some c.name
  getManagerForKey := LabelQueues.getManagerForKey
  registered s p cl := decide ((p, cl) ∈ s.pairs)
  owner := LabelQueues.owner
  registered_register s c ns n p cl := by simp [LabelQueues.register, and_comm]
  registered_removeStale _ _ _ _ _ _ := rfl
  registered_removeAll s c ns n p cl := by simp [LabelQueues.removeAll, and_comm]; tauto
  canManageLabel_iff _ _ _ _ _ := by simp
  getManagerForKey_ok s ns n k q := by
    unfold LabelQueues.getManagerForKey
    cases s.owner (ns, n) k <;> simp
  owner_register s c ns n cl k q h hq := by
    unfold LabelQueues.owner LabelQueues.register at *
    dsimp only
    split
    · exact LabelQueues.head?_append_of_head? _ _ _ h
    · exact h
  owner_removeStale s c ns n cl k q h hq := by
    unfold LabelQueues.owner LabelQueues.removeStale at *
    dsimp only
    split
    · exact LabelQueues.head?_filter_of_head? _ _ _ h hq
    · exact h
  owner_removeAll s c ns n cl k q h hq := by
    unfold LabelQueues.owner LabelQueues.removeAll at *
    dsimp only
    split
    · exact LabelQueues.head?_filter_of_head? _ _ _ h hq
    · exact h

end Sveltos.KeyManager
