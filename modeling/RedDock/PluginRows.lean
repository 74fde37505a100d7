import RedDock.PluginFindings
import RedDock.Findings

/-!
# Rows of accepted manifests

The widths of the columns of a finding, and which rows that come of an accepted
manifest stay within them.
-/
set_option autoImplicit false
namespace RedDock.PluginRows
open Text Detection Registry Plugins PluginFindings Findings Fallible

/-- The text of an object has room in a column. -/
def Within (width : Nat) (o : Object) : Prop := ∃ n, o.len = .ok n ∧ n ≤ width

/-- The columns of a finding are within the lengths that the table declares. -/
structure Fits (row : Finding) : Prop where
  detector : row.detector.length ≤ 48
  detector_version : row.detector_version.length ≤ 16
  rule_id : row.rule_id.length ≤ 64
  title : Within 200 row.title
  category : Within 32 row.category
  severity : Within 16 row.severity
  confidence : Within 16 row.confidence

/-- Every row that storing a finding can write fits. -/
def StoredWithin (detector : Detector) (finding : DetectedFinding) : Prop :=
  ∀ run_id seen_at fingerprint asset_id service_id conclusion rows row,
    conclude detector finding asset_id service_id = .ok conclusion →
      stored_under fingerprint (upsert_finding run_id seen_at fingerprint conclusion rows) = some row → Fits row

/-! ### Stored rows -/

/-- Under its fingerprint a finding is stored as it was concluded. -/
theorem stored_under_upsert (run_id seen_at : Nat) (fingerprint : Text) (conclusion : Conclusion) (rows : List Finding) :
    ∃ stored, stored_under fingerprint (upsert_finding run_id seen_at fingerprint conclusion rows) =
      some (reconciled run_id seen_at fingerprint conclusion stored) := by
  induction rows with
  | nil => exact ⟨none, List.find?_cons_of_pos (decide_eq_true rfl)⟩
  | cons row rows ih =>
    rw [upsert_finding]
    by_cases own : row.fingerprint = fingerprint
    · rw [if_pos own]
      exact ⟨some row, List.find?_cons_of_pos (decide_eq_true rfl)⟩
    · obtain ⟨stored, is⟩ := ih
      rw [if_neg own]
      exact ⟨stored, (List.find?_cons_of_neg (by simpa using own)).trans is⟩

section
variable {digest : Scalar → Text} {plugin : Declarative}

/-- The columns of what a rule of a plugin finds. -/
def conclusion_of (plugin : Declarative) (digest : Scalar → Text) (rule : DeclarativeRule) (observation : ObservationView)
    (asset_id service_id : Option Int) : Conclusion where
  detector := plugin.id
  detector_version := plugin.version
  rule_id := rule.id
  title := .str (rule.title.take MAX_TITLE)
  description := (declared digest rule observation).description
  category := ServiceRules.category rule.category
  severity := ServiceRules.severity rule.severity
  confidence := ServiceRules.confidence rule.confidence
  remediation := (declared digest rule observation).remediation
  detail := (declared digest rule observation).detail
  cve_references := []
  asset_id := asset_id
  service_id := service_id

theorem conclude_declared (rule : DeclarativeRule) (observation : ObservationView) (asset_id service_id : Option Int) :
    conclude (plugin.detector digest) (declared digest rule observation) asset_id service_id =
      .ok (conclusion_of plugin digest rule observation asset_id service_id) := rfl

theorem category_within (category : FindingCategory) : Within 32 (ServiceRules.category category) := by
  refine ⟨_, rfl, ?_⟩
  cases category <;> decide

theorem severity_within (severity : Severity) : Within 16 (ServiceRules.severity severity) := by
  refine ⟨_, rfl, ?_⟩
  cases severity <;> decide

theorem confidence_within (confidence : FindingConfidence) : Within 16 (ServiceRules.confidence confidence) := by
  refine ⟨_, rfl, ?_⟩
  cases confidence <;> decide

theorem name_length {limit : Nat} {t : Text} (named : NAME limit t = true) : t.length ≤ limit + 1 := by
  cases t with
  | nil => exact Nat.zero_le _
  | cons first rest =>
    simp only [NAME, Bool.and_eq_true, decide_eq_true_eq] at named
    rw [List.length_cons]
    omega

/-- What a rule finds fits when the id and the version of its plugin do. -/
theorem declared_within {rule : DeclarativeRule} (shaped : Shaped rule) (observation : ObservationView) :
    StoredWithin (plugin.detector digest) (declared digest rule observation) ↔ plugin.id.length ≤ 48 ∧ plugin.version.length ≤ 16 := by
  constructor
  · intro within
    obtain ⟨stored, is⟩ := stored_under_upsert 0 0 [] (conclusion_of plugin digest rule observation none none) []
    have fits := within 0 0 [] none none _ [] _ (conclude_declared rule observation none none) is
    exact ⟨fits.detector, fits.detector_version⟩
  · intro room run_id seen_at fingerprint asset_id service_id conclusion rows row concluded found
    rw [conclude_declared] at concluded
    cases concluded
    obtain ⟨stored, is⟩ := stored_under_upsert run_id seen_at fingerprint
      (conclusion_of plugin digest rule observation asset_id service_id) rows
    rw [is] at found
    cases found
    exact {
      detector := room.1
      detector_version := room.2
      rule_id := name_length shaped.id
      title := ⟨_, rfl, List.length_take_le _ _⟩
      category := category_within _
      severity := severity_within _
      confidence := confidence_within _ }

end

/-! ### Accepted manifests -/

theorem compiled_version_length (library : Library) (settings : Settings) (manifest : Manifest) :
    (manifest.compiled library settings).version.length = manifest.document.version.length + 13 := by
  have digits := library.hexdigest_length manifest.raw
  show (manifest.document.version ++ '+' :: (library.hexdigest manifest.raw).take 12).length = _
  rw [List.length_append, List.length_cons, List.length_take]
  omega

theorem mem_detect {plugin : Declarative} {digest : Scalar → Text} {context : DetectionContext} {finding : DetectedFinding}
    (found : finding ∈ plugin.detect digest context) :
    ∃ rule ∈ plugin.rules, ∃ observation ∈ matching context rule, finding = declared digest rule observation := by
  obtain ⟨rule, listed, member⟩ := List.mem_flatMap.mp (List.mem_of_mem_take found)
  obtain ⟨observation, matched, rfl⟩ := List.mem_map.mp member
  exact ⟨rule, listed, observation, matched, rfl⟩

theorem detect_nil {plugin : Declarative} {digest : Scalar → Text} {context : DetectionContext} (nothing : plugin.detect digest context = []) :
    ∀ rule ∈ plugin.rules, matching context rule = [] := by
  rcases List.take_eq_nil_iff.mp nothing with zero | none_found
  · cases zero
  · intro rule listed
    exact List.map_eq_nil_iff.mp (List.flatMap_eq_nil_iff.mp none_found rule listed)

theorem findings_within {library : Library} {settings : Settings} {path : PluginPath} {plugin : Declarative} {digest : Scalar → Text}
    {context : DetectionContext} {findings : List DetectedFinding} (loaded : load_manifest library settings path = .ok plugin)
    (perm : findings.Perm (plugin.detect digest context)) :
    (∀ finding ∈ findings, StoredWithin (plugin.detector digest) finding) ↔
      (∀ rule ∈ plugin.rules, matching context rule = []) ∨ plugin.id.length ≤ 48 ∧ plugin.version.length ≤ 16 := by
  have shaped := (load_manifest_rules loaded).1
  constructor
  · intro within
    cases found : plugin.detect digest context with
    | nil => exact Or.inl (detect_nil found)
    | cons first rest =>
      have member : first ∈ plugin.detect digest context := found ▸ List.mem_cons_self
      obtain ⟨rule, listed, observation, _, is⟩ := mem_detect member
      have fits := within first (perm.mem_iff.mpr member)
      rw [is, declared_within (shaped rule listed)] at fits
      exact Or.inr fits
  · intro room finding member
    obtain ⟨rule, listed, observation, matched, rfl⟩ := mem_detect (perm.mem_iff.mp member)
    rcases room with none_found | room
    · rw [none_found rule listed] at matched
      exact absurd matched List.not_mem_nil
    · exact (declared_within (shaped rule listed) observation).mpr room

theorem validated_perm {plugin : Declarative} {digest : Scalar → Text} {runtime : Runtime} {context : DetectionContext}
    {produced : Produced} {findings : List DetectedFinding} (detects : (plugin.detector digest).detect context = .ok produced)
    (accepted : validated runtime (plugin.detector digest).id produced context = .ok findings) :
    findings.Perm (plugin.detect digest context) := by
  cases detects
  have perm := (OutputChecks.validated_ok accepted).1
  have items : OutputChecks.listed (.sequence ((plugin.detect digest context).map some)) = plugin.detect digest context := by
    show ((plugin.detect digest context).map some).filterMap id = _
    rw [List.filterMap_map]
    exact List.filterMap_some
  rw [items] at perm
  exact perm

/-- The accepted findings of a manifest are stored within the widths of their
    columns exactly when there are none, or the id of the manifest has at most 48
    characters and its version at most three. -/
theorem declared_rows_fit (library : Library) (settings : Settings) (path : PluginPath) (plugin : Declarative) (digest : Scalar → Text)
    (runtime : Runtime) (context : DetectionContext) (produced : Produced) (findings : List DetectedFinding)
    (loaded : load_manifest library settings path = .ok plugin) (detects : (plugin.detector digest).detect context = .ok produced)
    (accepted : validated runtime (plugin.detector digest).id produced context = .ok findings) :
    ∃ manifest, accept_manifest library settings path = .ok manifest ∧
      ((∀ finding ∈ findings, StoredWithin (plugin.detector digest) finding) ↔
        (∀ rule ∈ plugin.rules, matching context rule = []) ∨
          manifest.document.id.length ≤ 48 ∧ manifest.document.version.length ≤ 3) := by
  have within := findings_within loaded (validated_perm detects accepted)
  obtain ⟨manifest, taken, rfl⟩ := load_manifest_ok loaded
  refine ⟨manifest, taken, within.trans (or_congr_right (and_congr_right fun _ => ?_))⟩
  rw [compiled_version_length]
  omega

/-! ### Versions of three and of five characters -/

/-- What the loaded rules find in the snapshot of an origin that answered, once it
    is validated: the lengths of the versions that are stored of it. -/
def versions (plugin : Declarative) : Option (List (Option Nat)) :=
  (Snapshots.build_context {} (BuiltInDetectors.answering "http://app.example".toList) 1 0 none).toOption.bind fun context =>
    (validated FindingLifecycle.plainRuntime plugin.id (.sequence ((plugin.detect sample_digest context).map some)) context).toOption.map
      fun findings => findings.map fun finding =>
        (conclude (plugin.detector sample_digest) finding none none).toOption.map fun conclusion => conclusion.detector_version.length

theorem versions_some {plugin : Declarative} {lengths : List (Option Nat)} (is : versions plugin = some lengths) :
    ∃ context findings, Snapshots.build_context {} (BuiltInDetectors.answering "http://app.example".toList) 1 0 none = .ok context ∧
      validated FindingLifecycle.plainRuntime plugin.id (.sequence ((plugin.detect sample_digest context).map some)) context =
        .ok findings ∧
      (findings.map fun finding => (conclude (plugin.detector sample_digest) finding none none).toOption.map fun conclusion =>
        conclusion.detector_version.length) = lengths := by
  obtain ⟨context, built, rest⟩ := Option.bind_eq_some_iff.mp is
  obtain ⟨findings, accepted, same⟩ := Option.map_eq_some_iff.mp rest
  exact ⟨context, findings, toOption_some built, toOption_some accepted, same⟩

theorem declared_rows_fit_short : ∃ (plugin : Declarative) (context : DetectionContext) (findings : List DetectedFinding),
    load_manifest (sample_library "1.0" "Answered" "d2117f67cae0a779a87043d3ce89d52a1fe74464804dfaf867394d7b839ac9dc" (by decide)) {}
      (sample_path "1.0" "Answered") = .ok plugin ∧ findings.length = 1 ∧ ∃ manifest : Manifest,
    ((∀ finding ∈ findings, StoredWithin (plugin.detector sample_digest) finding) ↔
      (∀ rule ∈ plugin.rules, matching context rule = []) ∨
        manifest.document.id.length ≤ 48 ∧ manifest.document.version.length ≤ 3) := by
  have ran : (load_manifest (sample_library "1.0" "Answered" "d2117f67cae0a779a87043d3ce89d52a1fe74464804dfaf867394d7b839ac9dc"
      (by decide)) {} (sample_path "1.0" "Answered")).map versions = .ok (some [some 16]) := by
    decide +kernel
  obtain ⟨plugin, loaded, is⟩ := map_eq_ok.mp ran
  obtain ⟨context, findings, _, accepted, lengths⟩ := versions_some is
  obtain ⟨manifest, _, exact_widths⟩ := declared_rows_fit _ _ _ plugin sample_digest _ context _ findings loaded rfl accepted
  refine ⟨plugin, context, findings, loaded, ?_, manifest, exact_widths⟩
  have counted := congrArg List.length lengths
  rw [List.length_map] at counted
  exact counted

theorem long_version_stored : ∃ plugin context produced findings,
    load_manifest (sample_library "1.0.0" "Answered" "3b319203a0cbf6a8e1c9efdea512a4415ba3fd0b1e17d8cc892da23d4b44bc1f" (by decide)) {}
      (sample_path "1.0.0" "Answered") = .ok plugin ∧
    Snapshots.build_context {} (BuiltInDetectors.answering "http://app.example".toList) 1 0 none = .ok context ∧
    (plugin.detector sample_digest).detect context = .ok produced ∧
    validated FindingLifecycle.plainRuntime (plugin.detector sample_digest).id produced context = .ok findings ∧
    ∃ finding ∈ findings, ¬StoredWithin (plugin.detector sample_digest) finding := by
  have ran : (load_manifest (sample_library "1.0.0" "Answered" "3b319203a0cbf6a8e1c9efdea512a4415ba3fd0b1e17d8cc892da23d4b44bc1f"
      (by decide)) {} (sample_path "1.0.0" "Answered")).map versions = .ok (some [some 18]) := by
    decide +kernel
  obtain ⟨plugin, loaded, is⟩ := map_eq_ok.mp ran
  obtain ⟨context, findings, built, accepted, lengths⟩ := versions_some is
  obtain ⟨finding, rest, is, stored, _⟩ := List.map_eq_cons_iff.mp lengths
  obtain ⟨conclusion, concluded, length⟩ := Option.map_eq_some_iff.mp stored
  refine ⟨plugin, context, _, findings, loaded, built, rfl, accepted, finding, is ▸ List.mem_cons_self, fun within => ?_⟩
  obtain ⟨row, found⟩ := stored_under_upsert 1 0 [] conclusion []
  have fits := within 1 0 [] none none conclusion [] _ (toOption_some concluded) found
  have short : conclusion.detector_version.length ≤ 16 := fits.detector_version
  omega

end RedDock.PluginRows
