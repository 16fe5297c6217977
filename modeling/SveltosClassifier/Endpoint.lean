import Mathlib.Data.List.Basic
import Mathlib.Algebra.Group.Int
import SveltosClassifier.Process

/-!
# The control-plane endpoint of an access request

In push mode every deploy carries the management cluster's control-plane
endpoint, which `main` has checked against the format
`^https://[0-9a-zA-Z][0-9a-zA-Z-.]+[0-9a-zA-Z]:\d+$`. `createAccessRequest`
splits it at `:`, parses the third part with `strconv.ParseInt(_, 10, 32)`,
drops the error, and asks for an AccessRequest whose host is the first two
parts joined by `:`.

On every endpoint of the format the split has three parts, and the host is
`https://` and the host name. The port is the value of its digits below
`2^31`. From `2^31` on, `ParseInt` returns `2^31 - 1` with a range error that
is dropped, so the AccessRequest names the port `2147483647` whatever the
digits say.
-/

set_option autoImplicit false

namespace Sveltos.Endpoint
open Sveltos.Api Sveltos.Reads Sveltos.Async Sveltos.Index Sveltos.Process

def controlplaneendpoint : String := "controlplaneendpoint-key"

theorem deployRequest_endpoint (r : ClassifierReconciler) (key : DeployerKey)
    (h : r.classifierReportMode = .agentSendReportsNoGateway) :
    (deployRequest r key).options.handlerOptions.lookup controlplaneendpoint = some r.controlPlaneEndpoint := by
  simp only [deployRequest, h]
  exact lookup_cons_self _ _

section Format

/-- Modelled from the spec: `[0-9a-zA-Z][0-9a-zA-Z-.]+[0-9a-zA-Z]`, the host
name of the endpoint format. -/
def isHostName (host : List Char) : Bool :=
  3 ≤ host.length && (host.head?.map Char.isAlphanum).getD false &&
    (host.getLast?.map Char.isAlphanum).getD false && host.all fun c => c.isAlphanum || c = '-' || c = '.'

/-- Modelled from the spec: the format `main` checks the endpoint against,
`^https://[0-9a-zA-Z][0-9a-zA-Z-.]+[0-9a-zA-Z]:\d+$`. A host name holds no
`:`, so the host name is what comes before the first `:` after the scheme. -/
def validEndpoint (endpoint : List Char) : Bool :=
  "https://".toList.isPrefixOf endpoint && isHostName ((endpoint.drop 8).takeWhile (· != ':')) &&
    match (endpoint.drop 8).dropWhile (· != ':') with
    | ':' :: digits => !digits.isEmpty && digits.all Char.isDigit
    | _ => false

theorem isHostName_colon {host : List Char} (h : isHostName host = true) : ∀ c ∈ host, c ≠ ':' := by
  intro c hc hcolon
  simp only [isHostName, Bool.and_eq_true, List.all_eq_true] at h
  have := h.2 c hc
  simp [hcolon] at this

theorem validEndpoint_parts (endpoint : List Char) (h : validEndpoint endpoint = true) :
    ∃ host digits, endpoint = "https://".toList ++ host ++ ':' :: digits ∧ isHostName host = true ∧
      digits ≠ [] ∧ ∀ c ∈ digits, c.isDigit = true := by
  simp only [validEndpoint, Bool.and_eq_true, List.isPrefixOf_iff_prefix] at h
  obtain ⟨⟨⟨rest, rfl⟩, hh⟩, hd⟩ := h
  rw [show ("https://".toList ++ rest).drop 8 = rest from List.drop_left' rfl] at hh hd
  split at hd
  · rename_i digits hdrop
    simp only [Bool.and_eq_true, Bool.not_eq_true', List.isEmpty_eq_false, List.all_eq_true] at hd
    refine ⟨_, digits, ?_, hh, hd.1, hd.2⟩
    rw [← hdrop, List.append_assoc, List.takeWhile_append_dropWhile]
  · cases hd

end Format

section Parse

inductive NumError where
  | malformed
  | outOfRange
  deriving DecidableEq, Repr

def digitStep (n : Nat) (c : Char) : Nat := n * 10 + (c.toNat - '0'.toNat)

def digitsValue (digits : List Char) : Nat := digits.foldl digitStep 0

def parseUintLoop : List Char → Nat → Nat × Option NumError
  | [], n => (n, none)
  | c :: cs, n =>
    if c.isDigit then
      if 2 ^ 32 - 1 < digitStep n c then (2 ^ 32 - 1, some .outOfRange) else parseUintLoop cs (digitStep n c)
    else (0, some .malformed)

def parseUint (s : List Char) : Nat × Option NumError :=
  if s = [] then (0, some .malformed) else parseUintLoop s 0

def splitSign : List Char → Bool × List Char
  | '+' :: rest => (false, rest)
  | '-' :: rest => (true, rest)
  | s => (false, s)

/-- `strconv.ParseInt(s, 10, 32)`: a value outside `int32` is replaced by the
bound it passed, with a range error. -/
def parseInt (s : List Char) : Int × Option NumError :=
  match parseUint (splitSign s).2 with
  | (_, some .malformed) => (0, some .malformed)
  | (un, _) =>
    if !(splitSign s).1 && 2 ^ 31 ≤ un then (2 ^ 31 - 1, some .outOfRange)
    else if (splitSign s).1 && 2 ^ 31 < un then (-2 ^ 31, some .outOfRange)
    else (if (splitSign s).1 then -(un : Int) else un, none)

theorem parseInt_bounds (s : List Char) : -2 ^ 31 ≤ (parseInt s).1 ∧ (parseInt s).1 < 2 ^ 31 := by
  unfold parseInt
  split
  · decide
  · split_ifs <;> cases (splitSign s).1 <;> simp_all <;> omega

theorem le_foldl_digitStep (ds : List Char) (n : Nat) : n ≤ ds.foldl digitStep n := by
  induction ds generalizing n with
  | nil => exact le_rfl
  | cons c cs ih => exact (Nat.le_mul_of_pos_right n (by decide)).trans ((Nat.le_add_right _ _).trans (ih _))

theorem parseUintLoop_digits (ds : List Char) (hd : ∀ c ∈ ds, c.isDigit = true) (n : Nat)
    (hn : n ≤ 2 ^ 32 - 1) :
    parseUintLoop ds n =
      if 2 ^ 32 - 1 < ds.foldl digitStep n then (2 ^ 32 - 1, some .outOfRange) else (ds.foldl digitStep n, none) := by
  induction ds generalizing n with
  | nil => rw [List.foldl_nil, if_neg (Nat.not_lt.2 hn)]; rfl
  | cons c cs ih =>
    rw [List.foldl_cons, parseUintLoop, if_pos (hd c (.head _))]
    split
    · rename_i hc
      rw [if_pos (Nat.lt_of_lt_of_le hc (le_foldl_digitStep cs _))]
    · exact ih (fun c' h => hd c' (.tail _ h)) _ (Nat.not_lt.1 ‹_›)

theorem parseInt_digits (ds : List Char) (hne : ds ≠ []) (hd : ∀ c ∈ ds, c.isDigit = true) :
    parseInt ds = if digitsValue ds < 2 ^ 31 then ((digitsValue ds : Int), none) else (2 ^ 31 - 1, some .outOfRange) := by
  obtain ⟨c, cs, rfl⟩ := List.exists_cons_of_ne_nil hne
  have hsign : splitSign (c :: cs) = (false, c :: cs) := by
    have hc := hd c (.head _)
    unfold splitSign
    split
    iterate 2 · rename_i h; rw [(List.cons.inj h).1] at hc; exact absurd hc (by decide)
    · rfl
  have hu : parseUint (c :: cs) = if 2 ^ 32 - 1 < digitsValue (c :: cs) then (2 ^ 32 - 1, some .outOfRange)
      else (digitsValue (c :: cs), none) := by
    rw [parseUint, if_neg (List.cons_ne_nil c cs), parseUintLoop_digits _ hd 0 (Nat.zero_le _)]
    rfl
  unfold parseInt
  rw [hsign, hu]
  by_cases hv : 2 ^ 32 - 1 < digitsValue (c :: cs)
  · rw [if_pos hv, if_neg (by omega)]
    rfl
  · rw [if_neg hv]
    by_cases hl : 2 ^ 31 ≤ digitsValue (c :: cs)
    · rw [if_neg (Nat.not_lt.2 hl)]
      simp only [Bool.not_false, decide_eq_true hl, Bool.and_self, if_true]
    · rw [if_pos (Nat.not_le.1 hl)]
      simp only [Bool.not_false, decide_eq_false hl, Bool.and_false, Bool.false_and, Bool.false_eq_true,
        if_false]

end Parse

structure AccessRequestObject where
  «namespace» : String
  name : String
  clusterNamespace : String
  clusterName : String
  host : String
  port : Int
  deriving DecidableEq, Repr

def missingControlPlaneMessage : String := "controlplane endpoint is missing"

/-- `createAccessRequest`, given the answers of `c.Get` (`none` when the
AccessRequest exists) and of `c.Create`: the error it returns and the
AccessRequest it creates. `none` is the panic of `info[2]` out of range. -/
def createAccessRequest (get create : Option GoError) (clusterNamespace clusterName : String)
    (clusterType : ClusterType) (options : Options) : Option (Option GoError × Option AccessRequestObject) :=
  match options.handlerOptions.lookup controlplaneendpoint with
  | none => some (some (.message missingControlPlaneMessage), none)
  | some cpEndpoint =>
    match cpEndpoint.toList.splitOn ':' with
    | info0 :: info1 :: info2 :: _ =>
      let port := (parseInt info2).1
      match get with
      | none => some (none, none)
      | some e =>
        if isNotFound e then
          some (create, some ⟨clusterNamespace, getAccessRequestName clusterName clusterType, clusterNamespace,
            clusterName, String.mk info0 ++ ":" ++ String.mk info1, port⟩)
        else some (some e, none)
    | _ => none

theorem splitOn_endpoint (host digits : List Char) (hh : ∀ c ∈ host, c ≠ ':')
    (hd : ∀ c ∈ digits, c.isDigit = true) :
    ("https://".toList ++ host ++ ':' :: digits).splitOn ':' = ["https".toList, "//".toList ++ host, digits] := by
  have hd' : ∀ c ∈ digits, ¬(c == ':') = true := fun c hc h => by
    have := hd c hc
    rw [beq_iff_eq.1 h] at this
    exact absurd this (by decide)
  have hh' : ∀ c ∈ "//".toList ++ host, ¬(c == ':') = true := by
    intro c hc h
    rw [beq_iff_eq.1 h] at hc
    simp only [List.mem_append] at hc
    exact hc.elim (by decide) (hh _ · rfl)
  show List.splitOnP _ ("https".toList ++ ':' :: (("//".toList ++ host) ++ ':' :: digits)) = _
  rw [List.splitOnP_first _ _ (by decide) ':' (by decide), List.splitOnP_first _ _ hh' ':' (by decide),
    List.splitOnP_eq_single _ _ hd']

theorem createAccessRequest_ne_none (get create : Option GoError) (clusterNamespace clusterName : String)
    (clusterType : ClusterType) (options : Options) (cpEndpoint : String)
    (hcp : options.handlerOptions.lookup controlplaneendpoint = some cpEndpoint)
    (hv : validEndpoint cpEndpoint.toList = true) :
    createAccessRequest get create clusterNamespace clusterName clusterType options ≠ none := by
  obtain ⟨host, digits, hcp', hh, -, hd⟩ := validEndpoint_parts _ hv
  have hsplit := splitOn_endpoint host digits (isHostName_colon hh) hd
  rw [← hcp'] at hsplit
  simp only [createAccessRequest, hcp, hsplit]
  split
  · simp
  · split <;> simp

/-- On every endpoint of the format nothing is indexed out of range, and an
AccessRequest that is created has the host `https://` and the host name, and
the port the value of the digits below `2^31` and `2^31 - 1` from there on. -/
theorem createAccessRequest_endpoint (get create : Option GoError) (clusterNamespace clusterName : String)
    (clusterType : ClusterType) (options : Options) (cpEndpoint : String)
    (hcp : options.handlerOptions.lookup controlplaneendpoint = some cpEndpoint)
    (hv : validEndpoint cpEndpoint.toList = true) :
    ∃ host digits, cpEndpoint.toList = "https://".toList ++ host ++ ':' :: digits ∧ isHostName host = true ∧
      ∃ out, createAccessRequest get create clusterNamespace clusterName clusterType options = some out ∧
        ∀ o, out.2 = some o → o.host = "https://" ++ String.mk host ∧
          o.port = if digitsValue digits < 2 ^ 31 then (digitsValue digits : Int) else 2 ^ 31 - 1 := by
  obtain ⟨host, digits, hcp', hh, hne, hd⟩ := validEndpoint_parts _ hv
  refine ⟨host, digits, hcp', hh, ?_⟩
  have hsplit := splitOn_endpoint host digits (isHostName_colon hh) hd
  rw [← hcp'] at hsplit
  simp only [createAccessRequest, hcp, hsplit]
  rcases get with _ | e
  · exact ⟨_, rfl, fun o h => nomatch h⟩
  · by_cases hn : isNotFound e = true
    · simp only [hn, if_true]
      refine ⟨_, rfl, fun o h => ?_⟩
      rw [← Option.some.inj h, parseInt_digits digits hne hd]
      refine ⟨rfl, ?_⟩
      split_ifs <;> rfl
    · simp only [hn]
      exact ⟨_, rfl, fun o h => nomatch h⟩

theorem createAccessRequest_endpoint_443 :
    [(controlplaneendpoint, "https://10.0.0.1:443")].lookup controlplaneendpoint = some "https://10.0.0.1:443" ∧
      validEndpoint "https://10.0.0.1:443".toList = true ∧
      ∃ host digits, "https://10.0.0.1:443".toList = "https://".toList ++ host ++ ':' :: digits ∧
        isHostName host = true ∧
        ∃ out, createAccessRequest (some .notFound) none "default" "a" .capi
            ⟨[(controlplaneendpoint, "https://10.0.0.1:443")]⟩ = some out ∧
          ∀ o, out.2 = some o → o.host = "https://" ++ String.mk host ∧
            o.port = if digitsValue digits < 2 ^ 31 then (digitsValue digits : Int) else 2 ^ 31 - 1 :=
  ⟨by decide, by decide, createAccessRequest_endpoint (some .notFound) none "default" "a" .capi
    ⟨[(controlplaneendpoint, "https://10.0.0.1:443")]⟩ "https://10.0.0.1:443" (by decide) (by decide)⟩

/-- The port `2147483648` passes the format; `ParseInt` fails on it with a
range error, and the AccessRequest names the port `2147483647`. -/
theorem createAccessRequest_port_out_of_range :
    validEndpoint "https://abc:2147483648".toList = true ∧ digitsValue "2147483648".toList = 2147483648 ∧
      (parseInt "2147483648".toList).2 = some .outOfRange ∧
      createAccessRequest (some .notFound) none "default" "a" .capi
          ⟨[(controlplaneendpoint, "https://abc:2147483648")]⟩ =
        some (none, some ⟨"default", "capi-a", "default", "a", "https://abc", 2147483647⟩) := by
  decide

end Sveltos.Endpoint
