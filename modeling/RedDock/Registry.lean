import RedDock.TlsCertificates
import RedDock.ServiceRules

/-!
# The registered detectors

The built-in detectors, and the declarative detectors of a plugin directory:
rules that compare one value of an observation's detail.
-/
set_option autoImplicit false
namespace RedDock.Registry
open Text Detection
open ServiceRules (Casing text severity confidence category discovery_run json_of of_type)
open HttpHeaders (latest_by_subject dec_int)

/-! ### Declarative detectors -/

/-- A value a rule may expect. -/
inductive Scalar
  | str (t : Text)
  | int (i : Int)
  | bool (b : Bool)

/-- `_scalar_equal` -/
def Scalar.equal : Scalar → Option Json → Bool
  | str t, some (.str u) => t = u
  | int i, some (.int j) => i = j
  | bool b, some (.bool c) => b = c
  | _, _ => false

def Scalar.json : Scalar → Json
  | str t => .str t
  | int i => .int i
  | bool b => .bool b

structure DeclarativeRule where
  id : Text
  observation_type : Text
  detail_key : Text
  equals : Scalar
  title : Text
  description : Text
  category : FindingCategory
  severity : Severity
  confidence : FindingConfidence
  remediation : Option Text

def PLUGIN_SCHEMA : Text := "reddock.detector-plugin/1".toList

/-- `_PLUGIN_ID` -/
def PLUGIN_ID (t : Text) : Bool :=
  "plugin.".toList.isPrefixOf t && match t.drop 7 with
    | [] => false
    | first :: rest => (first.isLower || first.isDigit) && decide (rest.length ≤ 55) &&
        rest.all fun c => c.isLower || c.isDigit || c == '.' || c == '_' || c == '-'

/-- A compiled manifest; its rules are sorted by their ids. -/
structure Declarative where
  id : Text
  version : Text
  rules : List DeclarativeRule
  finding_limit : Nat
  id_matches : PLUGIN_ID id = true

theorem plugin_id_separated {t : Text} (matching : PLUGIN_ID t = true) : '\x1f' ∉ t := by
  simp only [PLUGIN_ID, Bool.and_eq_true] at matching
  obtain ⟨starts, shape⟩ := matching
  obtain ⟨rest, rfl⟩ := List.isPrefixOf_iff_prefix.mp starts
  intro inside
  rcases List.mem_append.mp inside with head | tail
  · exact absurd head (by decide)
  · have dropped : ("plugin.".toList ++ rest).drop 7 = rest := List.drop_left' (by decide)
    rw [dropped] at shape
    cases rest with
    | nil => cases shape
    | cons first rest =>
      simp only [Bool.and_eq_true, List.all_eq_true] at shape
      rcases List.mem_cons.mp tail with rfl | later
      · exact absurd shape.1.1 (by decide)
      · exact absurd (shape.2 _ later) (by decide)

section
variable (digest : Scalar → Text)

/-- `value or 0`, in the scope key of a rule. -/
def or_zero (id : Option Int) : Text := dec_int (id.getD 0)

/-- The scope key of a rule; `digest` is the start of the hash of what it expects. -/
def scope_key (rule : DeclarativeRule) (observation : ObservationView) : Text :=
  join ":".toList [or_zero observation.asset_id, or_zero observation.service_id, rule.observation_type, rule.detail_key,
    digest rule.equals]

/-- `_finding` -/
def declared (rule : DeclarativeRule) (observation : ObservationView) : DetectedFinding where
  rule_id := text rule.id
  title := text rule.title
  description := text rule.description
  category := category rule.category
  severity := severity rule.severity
  confidence := confidence rule.confidence
  evidence_observation_ids := .ids [observation.id]
  asset_id := .optional_int observation.asset_id
  service_id := .optional_int observation.service_id
  scope_key := text (scope_key digest rule observation)
  remediation := (rule.remediation.map text).getD .none
  detail := .dict [
    ("plugin_schema".toList, .str PLUGIN_SCHEMA),
    ("observation_type".toList, .str rule.observation_type),
    ("detail_key".toList, .str rule.detail_key),
    ("expected".toList, rule.equals.json),
    ("observed".toList, (observation.detail.lookup rule.detail_key).getD .null),
    discovery_run observation]
  cve_references := .references []

/-- The findings of one rule. -/
def of_rule (context : DetectionContext) (rule : DeclarativeRule) : List DetectedFinding :=
  (((latest_by_subject (of_type context rule.observation_type)).map Prod.snd).filter fun observation =>
    rule.equals.equal (observation.detail.lookup rule.detail_key)).map (declared digest rule)

/-- `DeclarativeDetector.detect`, which stops one finding after its limit. -/
def Declarative.detect (plugin : Declarative) (context : DetectionContext) : List DetectedFinding :=
  (plugin.rules.flatMap (of_rule digest context)).take (plugin.finding_limit + 1)

def Declarative.detector (plugin : Declarative) : Detector where
  id := plugin.id
  version := plugin.version
  detect := fun context => .ok (.sequence ((plugin.detect digest context).map some))
  unevaluated := fun _ => .ok []
  separated := plugin_id_separated plugin.id_matches

end

/-! ### The registry -/

section
variable (casing : Casing) (digest : Scalar → Text)

def service_rules : Detector where
  id := "service.rules".toList
  version := "1.0.0".toList
  detect := fun context => .ok (.sequence ((ServiceRules.detect casing context).map some))
  unevaluated := fun _ => .ok []
  separated := by decide

def BUILT_INS : List Detector := [HttpHeaders.detector casing, service_rules casing, TlsCertificates.detector]

/-- `available_detectors`, without the check that the ids are distinct. -/
def available_detectors (plugins : List Declarative) : List Detector := BUILT_INS casing ++ plugins.map (Declarative.detector digest)

end

/-! ### What registered detectors cite -/

/-- A detector whose findings cite tuples of ids. -/
def CitesIds (detector : Detector) : Prop :=
  ∀ context items, detector.detect context = .ok (.sequence items) → ∀ finding, some finding ∈ items →
    ∃ ids, finding.evidence_observation_ids = .ids ids

/-- A detector that returns a list of findings. -/
theorem citesIds_of_list {detector : Detector} {detect : DetectionContext → List DetectedFinding}
    (lists : detector.detect = fun context => .ok (.sequence ((detect context).map some)))
    (cites : ∀ context, ∀ finding ∈ detect context, ∃ ids, finding.evidence_observation_ids = .ids ids) : CitesIds detector := by
  intro context items returned finding member
  rw [lists] at returned
  cases returned
  obtain ⟨found, listed, same⟩ := List.mem_map.mp member
  exact Option.some.inj same ▸ cites context found listed

section
variable {casing : Casing} {digest : Scalar → Text}

theorem http_cites : CitesIds (HttpHeaders.detector casing) := by
  refine citesIds_of_list rfl fun context finding member => ?_
  obtain ⟨response, _, member⟩ := List.mem_flatMap.mp member
  obtain ⟨found, _, rfl⟩ := List.mem_map.mp member
  exact ⟨_, rfl⟩

theorem service_cites : CitesIds (service_rules casing) := by
  refine citesIds_of_list rfl fun context finding member => ?_
  obtain ⟨asset, _, member⟩ := List.mem_flatMap.mp member
  obtain ⟨service, _, member⟩ := List.mem_flatMap.mp member
  split at member
  · cases member
  split at member
  · cases member
  rcases List.mem_append.mp member with here | here
  · obtain ⟨rule, _, rfl⟩ := List.mem_map.mp here
    exact ⟨_, rfl⟩
  · split at here
    · rw [List.mem_singleton.mp here]
      exact ⟨_, rfl⟩
    · cases here

theorem tls_cites : CitesIds TlsCertificates.detector := by
  refine citesIds_of_list rfl fun context finding member => ?_
  obtain ⟨session, _, found⟩ := List.mem_filterMap.mp member
  unfold TlsCertificates.for_session at found
  split at found
  · cases found
  split at found
  · cases found
    exact ⟨_, rfl⟩
  · cases found
    exact ⟨_, rfl⟩

theorem declarative_cites (plugin : Declarative) : CitesIds (plugin.detector digest) := by
  refine citesIds_of_list rfl fun context finding member => ?_
  obtain ⟨rule, _, member⟩ := List.mem_flatMap.mp (List.mem_of_mem_take member)
  obtain ⟨observation, _, rfl⟩ := List.mem_map.mp member
  exact ⟨_, rfl⟩

theorem available_cites {plugins : List Declarative} {detector : Detector}
    (member : detector ∈ available_detectors casing digest plugins) : CitesIds detector := by
  rcases List.mem_append.mp member with built_in | configured
  · simp only [BUILT_INS, List.mem_cons, List.not_mem_nil, or_false] at built_in
    rcases built_in with rfl | rfl | rfl
    · exact http_cites
    · exact service_cites
    · exact tls_cites
  · obtain ⟨plugin, _, rfl⟩ := List.mem_map.mp configured
    exact declarative_cites plugin

end
end RedDock.Registry
