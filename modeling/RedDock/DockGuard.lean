import RedDock.Targets

/-!
# DockGuard

Whether a Dockyard's scope rules permit a requested target. A call either
returns an `Evaluation` or raises what the code does not catch.
-/
set_option autoImplicit false
namespace RedDock
open Text

inductive ScopeRuleType
  | include
  | exclude
  deriving DecidableEq, Repr

inductive Decision
  | allowed
  | denied_policy
  | denied_out_of_scope
  | denied_excluded
  | invalid_target
  | unresolved
  deriving DecidableEq, Repr

/-- One authorized-scope statement. -/
structure ScopeRule where
  rule : ScopeRuleType
  value : Text
  deriving DecidableEq

def ScopeRule.target (u : Unicode) (rule : ScopeRule) : Except PyError Target := Targets.normalize_target u rule.value

/-- A decision and the facts that produced it. -/
structure Evaluation where
  decision : Decision
  target : Text
  reason : Text
  normalized_target : Option Text := none
  target_kind : Option TargetKind := none
  matched_rule : Option Text := none
  resolved_addresses : List Text := []
  excluded_addresses : List Text := []
  deriving DecidableEq

def Evaluation.allowed (e : Evaluation) : Bool := e.decision = .allowed

/-- What a name lookup gives: its answers, or an `OSError` with its `strerror`. -/
abbrev Answer := Except (Option Text) (List Text)
abbrev Resolver := Text → Answer

namespace DockGuard
open Targets

/-- `ip_network(text)` of a literal in the source. -/
def network (text : String) : Option IPNetwork := IPNetwork.ip_network text.toList true

def HARD_DENY_NETWORKS : List IPNetwork :=
  ["169.254.0.0/16", "100.100.100.200/32", "fe80::/10", "fd00:ec2::254/128"].filterMap network

def HARD_DENY_HOSTNAMES : List Text :=
  ["instance-data.ec2.internal", "metadata.aliyuncs.com", "metadata.goog", "metadata.google",
    "metadata.google.internal"].map String.toList

section
variable (u : Unicode)

def hard_policy_reason (target : Target) : Except PyError (Option Text) := do
  if target.is_named u ∧ target.host ∈ HARD_DENY_HOSTNAMES then
    return some "Metadata service hostnames cannot be added to scope or contacted".toList
  else
    match ← target.network u with
    | none => return none
    | some network =>
      if HARD_DENY_NETWORKS.any fun denied => network.version = denied.version && network.overlaps denied then
        return some "Metadata and link-local address space cannot be added to scope or contacted".toList
      else return none

def hard_denied_address (address : Text) : Bool :=
  match IPAddress.ip_address address with
  | none => true
  | some parsed => HARD_DENY_NETWORKS.any fun denied => parsed.version = denied.version && denied.contains parsed

/-- `_matches`: whether a scope entry covers a target. -/
def matches_rule (target rule : Target) : Except PyError Bool :=
  if target.kind = .url ∧ rule.kind = .url then .ok (target.value = rule.value)
  else if rule.kind = .url then .ok false
  else do
    match ← target.network u, ← rule.network u with
    | some target_network, some rule_network =>
      return target_network.version = rule_network.version && target_network.subnet_of rule_network
    | none, none => return target.host = rule.host
    | _, _ => return false

/-- `_first_match`; a rule that raises `TargetError` is skipped. -/
def first_match (target : Target) : List ScopeRule → Except PyError (Option ScopeRule)
  | [] => .ok none
  | rule :: rules =>
    match rule.target u >>= matches_rule u target with
    | .ok true => .ok (some rule)
    | .ok false => first_match target rules
    | .error (.targetError _) => first_match target rules
    | .error .valueError => .error .valueError

/-- The address space of a rule; absent as well when the rule raises `TargetError`. -/
def rule_network (rule : ScopeRule) : Except PyError (Option IPNetwork) :=
  match rule.target u >>= Target.network u with
  | .error (.targetError _) => .ok none
  | result => result

def overlapping_exclusions (target : Target) (excludes : List ScopeRule) : Except PyError (List ScopeRule) := do
  match ← target.network u with
  | none => return []
  | some network =>
    excludes.filterM fun rule => do
      match ← rule_network u rule with
      | none => return false
      | some rule_network => return rule_network.version = network.version && network.overlaps rule_network

/-- `_subtract`; `address_exclude` raises `ValueError` when `excluded` is not inside. -/
def subtract (excluded : IPNetwork) : List IPNetwork → Except PyError (List IPNetwork)
  | [] => .ok []
  | network :: networks =>
    if !network.overlaps excluded then do return network :: (← subtract excluded networks)
    else if !excluded.supernet_of network then
      match network.address_exclude excluded with
      | some rest => do return rest ++ (← subtract excluded networks)
      | none => .error .valueError
    else subtract excluded networks

/-- The loop of `_fully_excluded` over what remains of the network. -/
def exhausts (remaining : List IPNetwork) : List ScopeRule → Except PyError Bool
  | [] => .ok false
  | rule :: rules => do
    match ← rule.target u >>= Target.network u with
    | none => exhausts remaining rules
    | some excluded =>
      let remaining ← subtract excluded remaining
      if remaining = [] then return true else exhausts remaining rules

def fully_excluded (target : Target) (overlapping : List ScopeRule) : Except PyError Bool := do
  match ← target.network u with
  | none => return false
  | some network => exhausts u [network] overlapping

/-- The loop of `_excluded_address`. -/
def excludes_address (parsed : IPAddress) : List ScopeRule → Except PyError Bool
  | [] => .ok false
  | rule :: rules => do
    match ← rule_network u rule with
    | none => excludes_address parsed rules
    | some rule_network =>
      if rule_network.version = parsed.version ∧ rule_network.contains parsed then return true
      else excludes_address parsed rules

def excluded_address (address : Text) (excludes : List ScopeRule) : Except PyError Bool :=
  if !is_address_text u address then .ok false
  else
    match IPAddress.ip_address address with
    | none => .error .valueError
    | some parsed => excludes_address u parsed excludes

/-- The evaluation of a readable target, with its `base` facts. -/
def judged (requested : Text) (target : Target) (decision : Decision) (reason : Text) (matched : Option ScopeRule)
    (resolved excluded : List Text) : Evaluation where
  decision := decision
  target := requested
  reason := reason
  normalized_target := some target.value
  target_kind := some target.kind
  matched_rule := matched.map (·.value)
  resolved_addresses := resolved
  excluded_addresses := excluded

def permitted (included_by : ScopeRule) : Text :=
  "Target is covered by authorized scope entry ".toList ++ included_by.value

/-- Why an answer is refused before any rule is compared. -/
def refused_answer (address : Text) : Option Text :=
  match IPAddress.ip_address address with
  | none => some "DNS returned an invalid address".toList
  | some parsed =>
    if parsed.ipv4_mapped.isSome then some "IPv4-mapped IPv6 DNS answers are not supported".toList else none

/-- `_evaluate_named` with the answers at hand. -/
def evaluate_answers (requested : Text) (target : Target) (included_by : ScopeRule) (excludes : List ScopeRule)
    (addresses : List Text) : Except PyError Evaluation := do
  let result := fun decision reason => judged requested target decision reason (some included_by) addresses []
  match addresses.findSome? refused_answer with
  | some reason => return result .denied_policy reason
  | none =>
    if addresses.any hard_denied_address then
      return result .denied_policy
        (target.host ++ " resolves to a non-overridable metadata or link-local address".toList)
    else
      match ← addresses.filterM fun address => excluded_address u address excludes with
      | blocked :: _ =>
        return result .denied_excluded (target.host ++ " resolves to excluded address ".toList ++ blocked)
      | [] => return result .allowed (permitted included_by)

/-- `_evaluate_named`. -/
def evaluate_named (requested : Text) (target : Target) (included_by : ScopeRule) (excludes : List ScopeRule)
    (resolver : Resolver) : Except PyError Evaluation :=
  let unresolved := fun reason => judged requested target .unresolved reason (some included_by) [] []
  match resolver target.host with
  | .error strerror =>
    .ok (unresolved (target.host ++ " could not be resolved: ".toList ++
      match strerror with
      | none | some [] => "lookup failed".toList
      | some text => text))
  | .ok addresses =>
    if addresses = [] then .ok (unresolved (target.host ++ " did not resolve to any address".toList))
    else evaluate_answers u requested target included_by excludes addresses

/-- The network branch of `evaluate`. -/
def evaluate_network (requested : Text) (target : Target) (included_by : ScopeRule) (excludes : List ScopeRule) :
    Except PyError Evaluation := do
  let overlapping ← overlapping_exclusions u target excludes
  if ← fully_excluded u target overlapping then
    return judged requested target .denied_excluded "Every address in the requested network is excluded".toList
      (some included_by) [] []
  else
    return judged requested target .allowed (permitted included_by) (some included_by) [] (overlapping.map (·.value))

/-- `evaluate` for a target that `included_by` covers and no exclusion does. -/
def evaluate_included (requested : Text) (target : Target) (included_by : ScopeRule) (excludes : List ScopeRule)
    (resolver : Option Resolver) : Except PyError Evaluation :=
  if target.is_network then evaluate_network u requested target included_by excludes
  else
    match target.is_named u, resolver with
    | true, some resolver => evaluate_named u requested target included_by excludes resolver
    | _, _ => .ok (judged requested target .allowed (permitted included_by) (some included_by) [] [])

def includes_of (rules : List ScopeRule) : List ScopeRule := rules.filter (·.rule = .include)
def excludes_of (rules : List ScopeRule) : List ScopeRule := rules.filter (·.rule = .exclude)

/-- `evaluate` once the target is read. -/
def evaluate_target (requested : Text) (target : Target) (rules : List ScopeRule) (resolver : Option Resolver) :
    Except PyError Evaluation := do
  let refused := fun decision reason matched => judged requested target decision reason matched [] []
  match ← hard_policy_reason u target with
  | some policy_reason => return refused .denied_policy policy_reason none
  | none =>
    if includes_of rules = [] then
      return refused .denied_out_of_scope "This Dockyard has no authorized scope entries".toList none
    else
      match ← first_match u target (excludes_of rules) with
      | some excluded_by =>
        return refused .denied_excluded ("Target matches Dockyard exclusion ".toList ++ excluded_by.value)
          (some excluded_by)
      | none =>
        match ← first_match u target (includes_of rules) with
        | none =>
          return refused .denied_out_of_scope "Target is not covered by any authorized scope entry".toList none
        | some included_by => evaluate_included u requested target included_by (excludes_of rules) resolver

/-- `evaluate`. -/
def evaluate (requested : Text) (rules : List ScopeRule) (resolver : Option Resolver) : Except PyError Evaluation :=
  match normalize_target u requested with
  | .error (.targetError message) =>
    .ok { decision := .invalid_target, target := requested, reason := message }
  | .error .valueError => .error .valueError
  | .ok target => evaluate_target u requested target rules resolver

/-- What `normalize_scope_value` raises besides a `PyError`. -/
inductive ScopeError
  | raised (error : PyError)
  | rejected (message : Text)
  deriving DecidableEq

def normalize_scope_value (max_network_addresses : Nat) (raw : Text) : Except ScopeError Target :=
  match normalize_target u raw with
  | .error error => .error (.raised error)
  | .ok target =>
    match hard_policy_reason u target, target.network u with
    | .error error, _ => .error (.raised error)
    | .ok (some policy_reason), _ => .error (.rejected policy_reason)
    | .ok none, .error error => .error (.raised error)
    | .ok none, .ok none => .ok target
    | .ok none, .ok (some network) =>
      if max_network_addresses < network.num_addresses then
        .error (.rejected (target.value ++ " covers ".toList ++ dec network.num_addresses ++
          " addresses; RedDock allows at most ".toList ++ dec max_network_addresses ++
          " per scope entry (IPv4 /24 or IPv6 /120)".toList))
      else .ok target

end
end DockGuard
end RedDock
