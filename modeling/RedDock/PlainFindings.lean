import RedDock.OutputChecks
import RedDock.ServiceRules

/-!
# Findings made of texts

A finding whose fields are texts, members and ids, as the built-in detectors
make them, and what is left for `_validated` to check of a list of them.
-/
set_option autoImplicit false
namespace RedDock.PlainFindings
open Text Detection Fallible Checks OutputChecks

/-- The parts of a finding without a scope key. -/
structure Parts where
  rule_id : Text
  title : Text
  description : Text
  category : FindingCategory
  severity : Severity
  confidence : FindingConfidence
  cited : List Int
  asset_id : Option Int
  service_id : Option Int
  remediation : Text
  detail : List (Text × Json)
  references : List CveReference

def Parts.finding (parts : Parts) : DetectedFinding where
  rule_id := ServiceRules.text parts.rule_id
  title := ServiceRules.text parts.title
  description := ServiceRules.text parts.description
  category := ServiceRules.category parts.category
  severity := ServiceRules.severity parts.severity
  confidence := ServiceRules.confidence parts.confidence
  evidence_observation_ids := .ids parts.cited
  asset_id := .optional_int parts.asset_id
  service_id := .optional_int parts.service_id
  scope_key := ServiceRules.text []
  remediation := ServiceRules.text parts.remediation
  detail := .dict parts.detail
  cve_references := .references parts.references

/-! ### Lookups -/

/-- The asset and the service of a finding, by their ids. -/
def asset_with (context : DetectionContext) (asset_id : Option Int) : Option AssetView :=
  asset_id.bind fun id => context.assets.find? fun asset => asset.id = id

def service_with (context : DetectionContext) (service_id : Option Int) : Option ServiceView :=
  service_id.bind fun id => (context.assets.flatMap AssetView.services).find? fun service => service.id = id

theorem find_equal_int {α : Type} (id : α → Int) (i : Int) (items : List α) :
    find_equal id (.int i) items = .ok (items.find? fun item => id item = i) := by
  induction items with
  | nil => rfl
  | cons item items ih =>
    by_cases own : id item = i
    · simp [find_equal, Object.equals, Object.int, own]
    · simp only [find_equal, Object.equals, Object.int, own, decide_false, ok_bind, Bool.false_eq_true, if_false,
        List.find?_cons_of_neg, not_false_eq_true]
      exact ih

theorem asset_optional_int (context : DetectionContext) (asset_id : Option Int) :
    context.asset (.optional_int asset_id) = .ok (asset_with context asset_id) := by
  cases asset_id with
  | none => rfl
  | some id => exact find_equal_int AssetView.id id context.assets

theorem service_optional_int (context : DetectionContext) (service_id : Option Int) :
    context.service (.optional_int service_id) = .ok (service_with context service_id) := by
  cases service_id with
  | none => rfl
  | some id => exact find_equal_int ServiceView.id id _

/-! ### One finding -/

/-- What a detector's own finding meets before its texts are measured. -/
structure Proper (runtime : Runtime) (context : DetectionContext) (parts : Parts) : Prop where
  rule_id : RULE_ID parts.rule_id = true
  title : strip parts.title ≠ []
  description : strip parts.description ≠ []
  remediation : parts.remediation.length ≤ MAX_REMEDIATION
  asset : parts.asset_id.isSome = true → (asset_with context parts.asset_id).isSome = true
  service : parts.service_id.isSome = true → ∃ service, service_with context parts.service_id = some service ∧
    ∀ asset, asset_with context parts.asset_id = some asset → asset.id = service.asset_id
  cited : parts.cited ≠ []
  few : parts.cited.length ≤ runtime.max_evidence_per_finding
  known : ∀ id ∈ parts.cited, id ∈ context.observations.map ObservationView.id

/-- The lengths that are left to check. -/
def Fits (parts : Parts) : Prop := parts.title.length ≤ MAX_TITLE ∧ parts.description.length ≤ MAX_DESCRIPTION

section
variable {runtime : Runtime} {context : DetectionContext} {parts : Parts}

theorem text_checks_iff {t : Text} (limit : Nat) :
    Passed (text_checks (ServiceRules.text t) limit) ↔ strip t ≠ [] ∧ t.length ≤ limit := by
  have stripped : (ServiceRules.text t).strip = .ok true ↔ strip t ≠ [] := by simp [ServiceRules.text, Object.strip]
  have reads : Reads (ServiceRules.text t).strip := contained_ok _
  have measured : (ServiceRules.text t).len = .ok t.length := rfl
  simp only [text_checks, passed_cons, passed_nil, stripped, reads, measured, contained_ok, true_and, and_true, Except.ok.injEq,
    exists_eq_left']

theorem text_checks_passed {t : Text} (limit : Nat) (nonblank : strip t ≠ []) :
    Passed (text_checks (ServiceRules.text t) limit) ↔ t.length ≤ limit :=
  (text_checks_iff limit).trans (and_iff_right nonblank)

/-- The subject of a finding, where it is given, is found, and its service is
    the asset's. -/
theorem subject_passed {finding : DetectedFinding} {asset_id service_id : Option Int} (on : finding.asset_id = .optional_int asset_id)
    (runs : finding.service_id = .optional_int service_id)
    (asset : asset_id.isSome = true → (asset_with context asset_id).isSome = true)
    (service : service_id.isSome = true → ∃ service, service_with context service_id = some service ∧
      ∀ asset, asset_with context asset_id = some asset → asset.id = service.asset_id) :
    Passed (subject_checks context finding) := by
  have asset_is : context.asset finding.asset_id = .ok (asset_with context asset_id) := on ▸ asset_optional_int _ _
  have service_is : context.service finding.service_id = .ok (service_with context service_id) := runs ▸ service_optional_int _ _
  simp only [subject_checks, service_checks, passed_cons, asset_is, service_is, contained_ok, true_and]
  refine ⟨⟨_, rfl⟩, ?_, ?_⟩
  · cases given : asset_id with
    | none => exact Or.inl (by simp [on, given, Object.optional_int, Object.none, Object.is_none])
    | some id =>
      obtain ⟨found, is⟩ := Option.isSome_iff_exists.mp (asset (by simp [given]))
      exact Or.inr ⟨found, by rw [← given, is]⟩
  · cases given : service_id with
    | none =>
      have absent : finding.service_id.is_none = true := by
        simp [runs, given, Object.optional_int, Object.none, Object.is_none]
      rw [if_pos absent]
      exact passed_nil
    | some id =>
      have present : ¬finding.service_id.is_none = true := by
        simp [runs, given, Object.optional_int, Object.int, Object.is_none]
      obtain ⟨found, is, owned⟩ := service (by simp [given])
      rw [if_neg present, ← given, is]
      simp only [passed_cons, passed_nil, true_and, and_true]
      refine ⟨⟨found, rfl⟩, fun asset other here there => ?_⟩
      cases there
      exact owned asset (Except.ok.inj here)

/-- Some observations of the snapshot, not too many, are cited. -/
theorem evidence_passed {finding : DetectedFinding} {cited : List Int} (cites : finding.evidence_observation_ids = .ids cited)
    (nonempty : cited ≠ []) (few : cited.length ≤ runtime.max_evidence_per_finding)
    (known : ∀ id ∈ cited, id ∈ context.observations.map ObservationView.id) : Passed (evidence_checks runtime context finding) := by
  have members : finding.evidence_observation_ids.members = .ok (cited.map fun i => ⟨some i, 0⟩) := by
    rw [cites]
    rfl
  have truth : finding.evidence_observation_ids.truth = .ok true := by
    have nonempty : (!cited.isEmpty) = true := by simpa using nonempty
    rw [cites]
    show Except.ok (!cited.isEmpty) = _
    rw [nonempty]
  have nothing : OutputChecks.unknown context (cited.map fun i => ⟨some i, 0⟩) = [] := by
    refine List.filter_eq_nil_iff.mpr fun key member => ?_
    obtain ⟨id, listed, rfl⟩ := List.mem_map.mp member
    simpa using known id listed
  have length : finding.evidence_observation_ids.len = .ok cited.length := by
    rw [cites]
    rfl
  simp only [evidence_checks, length_check, passed_cons, passed_nil, members, truth, length, contained_ok, true_and, and_true,
    Except.ok.injEq, exists_eq_left', forall_eq']
  exact ⟨few, ⟨_, rfl⟩, fun unknown => absurd nothing unknown, nothing⟩

theorem finding_checks_passed (proper : Proper runtime context parts) :
    Passed (finding_checks runtime context parts.finding) ↔ Fits parts := by
  have rule_id : parts.finding.rule_id.matches_rule_id = .ok true := congrArg Except.ok proper.rule_id
  have remediation : Passed (remediation_checks parts.finding) := by
    have present : parts.finding.remediation.is_none = false := rfl
    have length : parts.finding.remediation.len = .ok parts.remediation.length := rfl
    simp only [remediation_checks, present, Bool.false_eq_true, if_false, length_check, passed_cons, passed_nil, length, contained_ok,
      true_and, and_true, Except.ok.injEq, exists_eq_left']
    exact proper.remediation
  have members : Passed (member_checks parts.finding) := by
    simp [member_checks, passed_cons, passed_nil, Parts.finding, ServiceRules.severity, ServiceRules.confidence, ServiceRules.category,
      Object.member, is_severity, is_confidence, is_category]
  have scope_key : parts.finding.scope_key.len = .ok 0 := rfl
  have detail : Passed (detail_checks parts.finding) := by
    simp [detail_checks, passed_cons, passed_nil, Parts.finding, Object.dict, Object.is_dict, Object.dumps]
  have subject : Passed (subject_checks context parts.finding) := subject_passed rfl rfl proper.asset proper.service
  have evidence : Passed (evidence_checks runtime context parts.finding) := evidence_passed rfl proper.cited proper.few proper.known
  have title := text_checks_passed MAX_TITLE proper.title
  have description := text_checks_passed MAX_DESCRIPTION proper.description
  simp only [finding_checks, passed_cons, passed_append, rule_id, remediation, members, detail, subject, evidence, length_check, scope_key, contained_ok, true_and, and_true, Except.ok.injEq, exists_eq_left',
    Nat.zero_le, Fits]
  exact and_congr title description

/-! ### A list of findings -/

variable {detector_id : Text}

theorem identity_finding (parts : Parts) : identity runtime detector_id parts.finding context =
    .ok (runtime.sha256 (fingerprint_text detector_id parts.rule_id (asset_with context parts.asset_id)
      (service_with context parts.service_id) ABSENT)) := by
  have asset : context.asset parts.finding.asset_id = .ok (asset_with context parts.asset_id) := asset_optional_int _ _
  have service : context.service parts.finding.service_id = .ok (service_with context parts.service_id) := service_optional_int _ _
  have rule_id : parts.finding.rule_id.part = .ok parts.rule_id := rfl
  have scope_key : parts.finding.scope_key.or_absent = .ok ABSENT := rfl
  simp only [identity, asset, service, rule_id, scope_key, ok_bind, pure_eq_ok]

/-- Findings with scope keys that are texts. -/
def Keyed (found : List DetectedFinding) : Prop := ∀ finding ∈ found, ∃ t, finding.scope_key = ServiceRules.text t

/-- Findings whose identities all differ, also from earlier ones. -/
theorem identity_checks_passed (previous : List DetectedFinding) {found : List DetectedFinding} (keyed : Keyed found)
    (distinct : (found.map fun finding => identity runtime detector_id finding context).Nodup)
    (earlier : ∀ other ∈ previous, ∀ finding ∈ found,
      identity runtime detector_id other context ≠ identity runtime detector_id finding context) :
    Passed (identity_checks runtime detector_id context previous found) := by
  induction found generalizing previous with
  | nil => exact passed_nil
  | cons first found ih =>
    obtain ⟨own, rest⟩ := List.nodup_cons.mp distinct
    obtain ⟨t, text⟩ := keyed first List.mem_cons_self
    have scope_key : Returns first.scope_key.or_absent := by
      rw [text]
      cases t with
      | nil => exact ⟨_, rfl⟩
      | cons c t => exact ⟨_, rfl⟩
    obtain ⟨part, is⟩ := scope_key
    rw [identity_checks, passed_cons, passed_cons, is]
    refine ⟨⟨contained_ok _, _, rfl⟩, ⟨trivial, fun other member => earlier other member first List.mem_cons_self⟩,
      ih _ (fun finding member => keyed finding (List.mem_cons_of_mem _ member)) rest ?_⟩
    intro other member finding inside
    rcases List.mem_cons.mp member with rfl | old
    · exact fun same => own (List.mem_map.mpr ⟨finding, inside, same.symm⟩)
    · exact earlier other old finding (List.mem_cons_of_mem _ inside)

theorem sortable {found : List DetectedFinding} (keyed : Keyed found) : Sortable context found := by
  intro first member second inside a b left right
  obtain ⟨t, text⟩ := keyed first member
  obtain ⟨u, text'⟩ := keyed second inside
  obtain ⟨_, _, left⟩ := bind_eq_ok.mp left
  obtain ⟨_, _, left⟩ := bind_eq_ok.mp left
  obtain ⟨_, _, right⟩ := bind_eq_ok.mp right
  obtain ⟨_, _, right⟩ := bind_eq_ok.mp right
  cases left
  cases right
  simp [OrderKey.orderable, text, text', ServiceRules.text, Object.orderable]

/-- Findings with different identities are accepted when each passes its own checks. -/
theorem validated_keyed {found : List DetectedFinding} (keyed : Keyed found)
    (few : found.length ≤ runtime.max_findings_per_detector)
    (distinct : (found.map fun finding => identity runtime detector_id finding context).Nodup) :
    Returns (validated runtime detector_id (.sequence (found.map some)) context) ↔
      ∀ finding ∈ found, Passed (finding_checks runtime context finding) := by
  rw [(validated_performs _).returns]
  have listed : (found.map some).filterMap id = found := by
    rw [List.filterMap_map]
    exact List.filterMap_some
  have identities := identity_checks_passed [] keyed distinct (by simp)
  have length : (found.map some).length ≤ runtime.max_findings_per_detector := by
    rw [List.length_map]
    exact few
  simp only [produced_checks, passed_cons, passed_append, passed_nil, listed, identities, length, sortable keyed, true_and, and_true]
  constructor
  · intro passed finding member check here
    exact passed check (List.mem_flatMap.mpr ⟨some finding, List.mem_map.mpr ⟨finding, member, rfl⟩, here⟩)
  · intro all check here
    obtain ⟨item, member, here⟩ := List.mem_flatMap.mp here
    obtain ⟨finding, inside, rfl⟩ := List.mem_map.mp member
    exact all finding inside check here

/-- Proper findings with different identities are accepted when their texts fit. -/
theorem validated_iff {all : List Parts} (proper : ∀ parts ∈ all, Proper runtime context parts)
    (few : all.length ≤ runtime.max_findings_per_detector)
    (distinct : (all.map fun parts => identity runtime detector_id parts.finding context).Nodup) :
    Returns (validated runtime detector_id (.sequence (all.map fun parts => some parts.finding)) context) ↔
      ∀ parts ∈ all, Fits parts := by
  have items : (all.map fun parts => some parts.finding) = (all.map Parts.finding).map some := by
    rw [List.map_map]
    rfl
  have keyed : Keyed (all.map Parts.finding) := by
    intro finding member
    obtain ⟨parts, _, rfl⟩ := List.mem_map.mp member
    exact ⟨[], rfl⟩
  rw [items, validated_keyed keyed (by rw [List.length_map]; exact few) (by rw [List.map_map]; exact distinct)]
  constructor
  · intro passed parts member
    exact (finding_checks_passed (proper parts member)).mp (passed _ (List.mem_map_of_mem member))
  · intro fits finding member
    obtain ⟨parts, inside, rfl⟩ := List.mem_map.mp member
    exact (finding_checks_passed (proper parts inside)).mpr (fits parts inside)

end
end RedDock.PlainFindings
