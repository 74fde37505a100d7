import RedDock.Plugins
import RedDock.BuiltInDetectors

/-!
# Findings of accepted manifests

What the rules of an accepted manifest find in a snapshot of stored rows, and
which of it `_validated` accepts.
-/
set_option autoImplicit false
namespace RedDock.PluginFindings
open Text Detection Registry Plugins Fallible Checks OutputChecks PlainFindings StoredRows
open BuiltInDetectors (Accepted)

/-- The latest observations that a rule matches. -/
def matching (context : DetectionContext) (rule : DeclarativeRule) : List ObservationView :=
  ((HttpHeaders.latest_by_subject (ServiceRules.of_type context rule.observation_type)).map Prod.snd).filter fun observation =>
    rule.equals.equal (observation.detail.lookup rule.detail_key)

/-- Everything the rules match. -/
def hits (context : DetectionContext) (rules : List DeclarativeRule) : List (DeclarativeRule × ObservationView) :=
  rules.flatMap fun rule => (matching context rule).map fun observation => (rule, observation)

section
variable (digest : Scalar → Text)

def of_hit (hit : DeclarativeRule × ObservationView) : DetectedFinding := declared digest hit.1 hit.2

/-- The text of the fingerprint of what is found. -/
def hit_text (context : DetectionContext) (detector_id : Text) (hit : DeclarativeRule × ObservationView) : Text :=
  fingerprint_text detector_id hit.1.id (asset_with context hit.2.asset_id) (service_with context hit.2.service_id)
    (scope_key digest hit.1 hit.2)

/-- No two fingerprints of what is found collide. -/
def Apart (runtime : Runtime) (context : DetectionContext) (plugin : Declarative) : Prop :=
  ∀ hit ∈ hits context plugin.rules, ∀ other ∈ hits context plugin.rules,
    runtime.sha256 (hit_text digest context plugin.id hit) = runtime.sha256 (hit_text digest context plugin.id other) →
      hit_text digest context plugin.id hit = hit_text digest context plugin.id other

/-- What the schema does not ask of a rule: texts that are more than space, and
    room for the ids in its scope key. -/
def Presentable (rule : DeclarativeRule) (observation : ObservationView) : Prop :=
  strip rule.title ≠ [] ∧ strip rule.description ≠ [] ∧ (scope_key digest rule observation).length ≤ MAX_SCOPE_KEY

end

/-! ### Accepted manifests -/

section
variable {library : Library} {settings : Settings} {path : PluginPath} {plugin : Declarative}

theorem load_manifest_ok (loaded : load_manifest library settings path = .ok plugin) :
    ∃ manifest, accept_manifest library settings path = .ok manifest ∧ plugin = manifest.compiled library settings := by
  obtain ⟨manifest, accepted, is⟩ := map_eq_ok.mp loaded
  exact ⟨manifest, accepted, is.symm⟩

theorem mem_compiled {manifest : Manifest} {rule : DeclarativeRule} :
    rule ∈ (manifest.compiled library settings).rules ↔ ∃ document ∈ manifest.document.rules, document.rule = rule := by
  show rule ∈ List.insertionSort _ _ ↔ _
  rw [(List.perm_insertionSort _ _).mem_iff, List.mem_map]

/-- The rules of an accepted manifest are as its schema asks, each with an id of
    its own. -/
theorem load_manifest_rules (loaded : load_manifest library settings path = .ok plugin) :
    (∀ rule ∈ plugin.rules, Shaped rule) ∧ (plugin.rules.map DeclarativeRule.id).Nodup := by
  obtain ⟨manifest, _, rfl⟩ := load_manifest_ok loaded
  constructor
  · intro rule member
    obtain ⟨document, _, rfl⟩ := mem_compiled.mp member
    exact document.shaped
  · refine ((List.perm_insertionSort _ _).map _).nodup_iff.mpr ?_
    rw [List.map_map]
    exact manifest.distinct

theorem name_rule_id {t : Text} (named : NAME 63 t = true) : RULE_ID t = true := by
  show (NAME 63 t || _) = true
  rw [named, Bool.true_or]

theorem name_separated {limit : Nat} {t : Text} (named : NAME limit t = true) : '\x1f' ∉ t := by
  cases t with
  | nil => exact List.not_mem_nil
  | cons first rest =>
    simp only [NAME, Bool.and_eq_true, List.all_eq_true] at named
    intro inside
    rcases List.mem_cons.mp inside with rfl | later
    · exact absurd named.1.1 (by decide)
    · exact absurd (named.2 _ later) (by decide)

end

/-! ### What is found -/

section
variable {context : DetectionContext} {digest : Scalar → Text} {plugin : Declarative}

theorem mem_hits {rules : List DeclarativeRule} {hit : DeclarativeRule × ObservationView} :
    hit ∈ hits context rules ↔ hit.1 ∈ rules ∧ hit.2 ∈ matching context hit.1 := by
  constructor
  · intro member
    obtain ⟨rule, listed, member⟩ := List.mem_flatMap.mp member
    obtain ⟨observation, found, rfl⟩ := List.mem_map.mp member
    exact ⟨listed, found⟩
  · intro both
    exact List.mem_flatMap.mpr ⟨hit.1, both.1, List.mem_map.mpr ⟨hit.2, both.2, rfl⟩⟩

theorem matching_observed {rule : DeclarativeRule} {observation : ObservationView} (found : observation ∈ matching context rule) :
    observation ∈ context.observations := by
  obtain ⟨entry, listed, rfl⟩ := List.mem_map.mp (List.mem_filter.mp found).1
  exact (List.mem_filter.mp ((BuiltInDetectors.latest_by_subject_latest _).own entry listed).2).1

/-- A rule matches one observation of a subject. -/
theorem matching_once (rule : DeclarativeRule) : ((matching context rule).map HttpHeaders.subject_of).Nodup := by
  have latest := BuiltInDetectors.latest_by_subject_latest (ServiceRules.of_type context rule.observation_type)
  refine List.Nodup.sublist (List.filter_sublist.map _) ?_
  rw [List.map_map]
  have same : (HttpHeaders.latest_by_subject (ServiceRules.of_type context rule.observation_type)).map
      (HttpHeaders.subject_of ∘ Prod.snd) =
      (HttpHeaders.latest_by_subject (ServiceRules.of_type context rule.observation_type)).map Prod.fst :=
    List.map_congr_left fun entry member => (latest.own entry member).1.symm
  rw [same]
  exact latest.once

theorem hits_nodup {rules : List DeclarativeRule} (distinct : (rules.map DeclarativeRule.id).Nodup) :
    ((hits context rules).map fun hit => (hit.1.id, hit.2.asset_id, hit.2.service_id)).Nodup := by
  rw [hits, List.map_flatMap]
  refine List.nodup_flatMap.mpr ⟨fun rule _ => ?_, ?_⟩
  · refine List.Nodup.of_map Prod.snd ?_
    rw [List.map_map, List.map_map]
    exact matching_once rule
  · refine (List.pairwise_map.mp distinct).imp fun {first second} different => ?_
    intro key left right
    obtain ⟨hit, member, rfl⟩ := List.mem_map.mp left
    obtain ⟨hit', member', same⟩ := List.mem_map.mp right
    obtain ⟨_, _, rfl⟩ := List.mem_map.mp member
    obtain ⟨_, _, rfl⟩ := List.mem_map.mp member'
    exact different (congrArg Prod.fst same).symm

theorem detect_hits (few : (hits context plugin.rules).length ≤ plugin.finding_limit) :
    plugin.detect digest context = (hits context plugin.rules).map (of_hit digest) := by
  have found : plugin.rules.flatMap (of_rule digest context) = (hits context plugin.rules).map (of_hit digest) := by
    rw [hits, List.map_flatMap]
    refine List.flatMap_congr fun rule _ => ?_
    rw [List.map_map]
    rfl
  rw [Declarative.detect, found]
  refine List.take_of_length_le ?_
  rw [List.length_map]
  omega

theorem scope_key_nonempty (rule : DeclarativeRule) (observation : ObservationView) : scope_key digest rule observation ≠ [] := by
  rw [scope_key, join_cons_cons]
  intro nothing
  have colon : ":".toList = [] := (List.append_eq_nil_iff.mp (List.append_eq_nil_iff.mp nothing).1).2
  exact absurd colon (by decide)

theorem identity_declared (runtime : Runtime) (detector_id : Text) (hit : DeclarativeRule × ObservationView) :
    identity runtime detector_id (of_hit digest hit) context = .ok (runtime.sha256 (hit_text digest context detector_id hit)) := by
  have asset : context.asset (of_hit digest hit).asset_id = .ok (asset_with context hit.2.asset_id) := asset_optional_int _ _
  have service : context.service (of_hit digest hit).service_id = .ok (service_with context hit.2.service_id) :=
    service_optional_int _ _
  have rule_id : (of_hit digest hit).rule_id.part = .ok hit.1.id := rfl
  have key : (of_hit digest hit).scope_key.or_absent = .ok (scope_key digest hit.1 hit.2) := by
    show (ServiceRules.text (scope_key digest hit.1 hit.2)).or_absent = _
    cases is : scope_key digest hit.1 hit.2 with
    | nil => exact absurd is (scope_key_nonempty _ _)
    | cons c t => rfl
  simp only [identity, asset, service, rule_id, key, ok_bind, pure_eq_ok]
  rfl

theorem identities_distinct {runtime : Runtime} (wellformed : WellFormed context) (shaped : ∀ rule ∈ plugin.rules, Shaped rule)
    (distinct : (plugin.rules.map DeclarativeRule.id).Nodup) (apart : Apart digest runtime context plugin) :
    (((hits context plugin.rules).map (of_hit digest)).map fun finding => identity runtime plugin.id finding context).Nodup := by
  have once : ((hits context plugin.rules).map fun hit => (hit.1.id, hit.2.asset_id, hit.2.service_id)).Nodup := hits_nodup distinct
  rw [List.map_map]
  refine List.Nodup.map_on (fun first member second inside same => ?_) (List.Nodup.of_map _ once)
  rw [Function.comp, Function.comp, identity_declared, identity_declared, Except.ok.injEq] at same
  have texts := apart first member second inside same
  obtain ⟨listed, found⟩ := mem_hits.mp member
  obtain ⟨listed', found'⟩ := mem_hits.mp inside
  have one := subject_of_text wellformed (name_separated (shaped _ listed).id) (name_separated (shaped _ listed').id)
    (wellformed.subjects _ (matching_observed found)) (wellformed.subjects _ (matching_observed found')) texts
  exact List.inj_on_of_nodup_map once member inside (Prod.ext one.1 (Prod.ext one.2.1 one.2.2))

/-- What a rule of a manifest finds passes the checks when it is presentable. -/
theorem declared_passed {runtime : Runtime} (enough : 1 ≤ runtime.max_evidence_per_finding) (wellformed : WellFormed context)
    {rule : DeclarativeRule} {observation : ObservationView} (shaped : Shaped rule) (observed : observation ∈ context.observations) :
    Passed (finding_checks runtime context (declared digest rule observation)) ↔ Presentable digest rule observation := by
  have rule_id : (declared digest rule observation).rule_id.matches_rule_id = .ok true := congrArg Except.ok (name_rule_id shaped.id)
  have remediation : Passed (remediation_checks (declared digest rule observation)) := by
    cases given : rule.remediation with
    | none =>
      have absent : (declared digest rule observation).remediation.is_none = true := by
        simp [declared, given, Object.none, Object.is_none]
      rw [remediation_checks, if_pos absent]
      exact passed_nil
    | some t =>
      have is : (declared digest rule observation).remediation = ServiceRules.text t := by simp [declared, given]
      have bound := shaped.remediation t given
      have length : (ServiceRules.text t).len = .ok t.length := rfl
      have present : ¬(ServiceRules.text t).is_none = true := Bool.false_ne_true
      rw [remediation_checks, is, if_neg present, length_check, length, passed_cons]
      exact ⟨⟨contained_ok _, _, rfl, bound.trans (by decide)⟩, passed_nil⟩
  have members : Passed (member_checks (declared digest rule observation)) := by
    simp [member_checks, passed_cons, passed_nil, declared, ServiceRules.severity, ServiceRules.confidence, ServiceRules.category,
      Object.member, is_severity, is_confidence, is_category]
  have key : (declared digest rule observation).scope_key.len = .ok (scope_key digest rule observation).length := rfl
  have detail : Passed (detail_checks (declared digest rule observation)) := by
    simp [detail_checks, passed_cons, passed_nil, declared, Object.dict, Object.is_dict, Object.dumps]
  have known := BuiltInDetectors.known_subject wellformed (wellformed.subjects observation observed)
  have subject : Passed (subject_checks context (declared digest rule observation)) := subject_passed rfl rfl known.1 known.2
  have cited : ∀ id ∈ [observation.id], id ∈ context.observations.map ObservationView.id := by
    intro id member
    rw [List.mem_singleton.mp member]
    exact List.mem_map_of_mem observed
  have evidence : Passed (evidence_checks runtime context (declared digest rule observation)) :=
    evidence_passed rfl (List.cons_ne_nil _ _) enough cited
  have title : Passed (text_checks (declared digest rule observation).title MAX_TITLE) ↔ strip rule.title ≠ [] := by
    refine (text_checks_iff MAX_TITLE).trans (and_iff_left ?_)
    exact shaped.title.2.trans (by decide)
  have description : Passed (text_checks (declared digest rule observation).description MAX_DESCRIPTION) ↔ strip rule.description ≠ [] := by
    refine (text_checks_iff MAX_DESCRIPTION).trans (and_iff_left ?_)
    exact shaped.description.2.trans (by decide)
  simp only [finding_checks, passed_cons, passed_append, rule_id, remediation, members, detail, subject, evidence, title, description,
    length_check, key, contained_ok, true_and, and_true, Except.ok.injEq, exists_eq_left', Presentable]

end

/-! ### Validation -/

/-- What shaped rules find is accepted exactly when all of it is presentable. -/
theorem detector_accepted_iff {runtime : Runtime} {context : DetectionContext} {digest : Scalar → Text} {plugin : Declarative}
    (shaped : ∀ rule ∈ plugin.rules, Shaped rule) (distinct : (plugin.rules.map DeclarativeRule.id).Nodup)
    (limit : plugin.finding_limit = runtime.max_findings_per_detector) (enough : 1 ≤ runtime.max_evidence_per_finding)
    (wellformed : WellFormed context) (few : (hits context plugin.rules).length ≤ plugin.finding_limit)
    (apart : Apart digest runtime context plugin) :
    Accepted runtime context (plugin.detector digest) ↔
      ∀ rule ∈ plugin.rules, ∀ observation ∈ matching context rule, Presentable digest rule observation := by
  have keyed : Keyed ((hits context plugin.rules).map (of_hit digest)) := by
    intro finding member
    obtain ⟨hit, _, rfl⟩ := List.mem_map.mp member
    exact ⟨_, rfl⟩
  have detects : (plugin.detector digest).detect context = .ok (.sequence (((hits context plugin.rules).map (of_hit digest)).map some)) := by
    show Except.ok (Produced.sequence _) = _
    rw [detect_hits few]
  have within : ((hits context plugin.rules).map (of_hit digest)).length ≤ runtime.max_findings_per_detector := by
    rw [List.length_map, ← limit]
    exact few
  have validates : Accepted runtime context (plugin.detector digest) ↔
      ∀ finding ∈ (hits context plugin.rules).map (of_hit digest), Passed (finding_checks runtime context finding) := by
    simp only [Accepted, detects, Except.ok.injEq, exists_eq_left']
    exact validated_keyed keyed within (identities_distinct wellformed shaped distinct apart)
  rw [validates]
  constructor
  · intro passed rule listed observation found
    refine (declared_passed enough wellformed (shaped rule listed) (matching_observed found)).mp (passed _ ?_)
    exact List.mem_map.mpr ⟨(rule, observation), mem_hits.mpr ⟨listed, found⟩, rfl⟩
  · intro presentable finding member
    obtain ⟨hit, inside, rfl⟩ := List.mem_map.mp member
    obtain ⟨listed, found⟩ := mem_hits.mp inside
    exact (declared_passed enough wellformed (shaped _ listed) (matching_observed found)).mpr (presentable _ listed _ found)

theorem loaded_limit {library : Library} {settings : Settings} {path : PluginPath} {plugin : Declarative}
    (loaded : load_manifest library settings path = .ok plugin) : plugin.finding_limit = settings.max_findings_per_detector := by
  obtain ⟨manifest, _, rfl⟩ := load_manifest_ok loaded
  rfl

/-- What a manifest accepted at load time finds in a snapshot of stored rows
    passes validation exactly when all of it is presentable. -/
theorem declarative_accepted (library : Library) (settings : Settings) (path : PluginPath) (plugin : Declarative)
    (digest : Scalar → Text) (runtime : Runtime) (limits : Snapshots.Limits) (tables : Inventory.Tables) (dockyard_id generated_at : Nat)
    (lookup : Option (Text → Text → List CveReference)) (context : DetectionContext)
    (loaded : load_manifest library settings path = .ok plugin)
    (one_limit : settings.max_findings_per_detector = runtime.max_findings_per_detector)
    (enough : 1 ≤ runtime.max_evidence_per_finding) (stored : Stored tables)
    (built : Snapshots.build_context limits tables dockyard_id generated_at lookup = .ok context)
    (few : (hits context plugin.rules).length ≤ plugin.finding_limit) (apart : Apart digest runtime context plugin) :
    Accepted runtime context (plugin.detector digest) ↔
      ∀ rule ∈ plugin.rules, ∀ observation ∈ matching context rule, Presentable digest rule observation := by
  obtain ⟨shaped, distinct⟩ := load_manifest_rules loaded
  exact detector_accepted_iff shaped distinct ((loaded_limit loaded).trans one_limit) enough (build_context_wellformed stored built)
    few apart

/-! ### A rule about responses with status 200 -/

def quoted (t : String) : Text := '"' :: t.toList ++ ['"']
def member (key : String) (value : Text) : Text := quoted key ++ ':' :: value
def braces (members : List Text) : Text := '{' :: join [','] members ++ ['}']

section
variable (version title : String)

def sample_rule : Text :=
  braces [member "id" (quoted "answered"), member "observation_type" (quoted "http_response"), member "detail_key" (quoted "status"),
    member "equals" (dec 200), member "title" (quoted title), member "description" (quoted "It answered."),
    member "category" (quoted "hardening"), member "severity" (quoted "low"), member "confidence" (quoted "low")]

def sample_text : Text :=
  braces [member "schema" (quoted "reddock.detector-plugin/1"), member "id" (quoted "plugin.sample"), member "version" (quoted version),
    member "title" (quoted "Sample"), member "description" (quoted "Sample rules"), member "rules" ('[' :: sample_rule title ++ [']'])]

def sample_document : Json :=
  .object [("schema".toList, .str PLUGIN_SCHEMA), ("id".toList, .str "plugin.sample".toList), ("version".toList, .str version.toList),
    ("title".toList, .str "Sample".toList), ("description".toList, .str "Sample rules".toList),
    ("rules".toList, .list [.object [("id".toList, .str "answered".toList), ("observation_type".toList, .str "http_response".toList),
      ("detail_key".toList, .str "status".toList), ("equals".toList, .int 200), ("title".toList, .str title.toList),
      ("description".toList, .str "It answered.".toList), ("category".toList, .str "hardening".toList),
      ("severity".toList, .str "low".toList), ("confidence".toList, .str "low".toList)]])]

def sample_raw : Bytes := (sample_text version title).map fun c => UInt8.ofNat c.toNat

def sample_library (hexdigest : String) (length : hexdigest.toList.length = 64) : Library where
  loads := fun _ => some (sample_document version title)
  hexdigest := fun _ => hexdigest.toList
  hexdigest_length := fun _ => length

def sample_path : PluginPath where
  name := "sample.json".toList
  resolved := some { content := some (sample_raw version title) }

/-- The start of the hash of `200`. -/
def sample_digest : Scalar → Text := fun _ => "27badc983df1".toList

/-- What the loaded rules match in the snapshot of an origin that answered, and
    whether all of it is presentable. -/
def matched (plugin : Declarative) : Option (Nat × Bool) :=
  (Snapshots.build_context {} (BuiltInDetectors.answering "http://app.example".toList) 1 0 none).toOption.map fun context =>
    ((hits context plugin.rules).length, (hits context plugin.rules).all fun hit =>
      !(strip hit.1.title).isEmpty && !(strip hit.1.description).isEmpty &&
        decide ((scope_key sample_digest hit.1 hit.2).length ≤ MAX_SCOPE_KEY))

end

theorem plain_apart (context : DetectionContext) (plugin : Declarative) :
    Apart sample_digest FindingLifecycle.plainRuntime context plugin := fun _ _ _ _ same => same

theorem toOption_some {ε α : Type} {x : Except ε α} {a : α} (is : x.toOption = some a) : x = .ok a := by
  cases x with
  | error e => cases is
  | ok b => exact congrArg Except.ok (Option.some.inj is)

theorem matched_some {plugin : Declarative} {found : Nat} {all : Bool} (is : matched plugin = some (found, all)) : ∃ context,
    Snapshots.build_context {} (BuiltInDetectors.answering "http://app.example".toList) 1 0 none = .ok context ∧
      (hits context plugin.rules).length = found ∧
        (all = true ↔ ∀ rule ∈ plugin.rules, ∀ observation ∈ matching context rule, Presentable sample_digest rule observation) := by
  obtain ⟨context, built, facts⟩ := Option.map_eq_some_iff.mp is
  rw [Prod.mk.injEq] at facts
  refine ⟨context, toOption_some built, facts.1, ?_⟩
  rw [← facts.2, List.all_eq_true]
  constructor
  · intro each rule listed observation found
    have here := each (rule, observation) (mem_hits.mpr ⟨listed, found⟩)
    simp only [Bool.and_eq_true, Bool.not_eq_true', List.isEmpty_eq_false_iff, decide_eq_true_eq] at here
    exact ⟨here.1.1, here.1.2, here.2⟩
  · intro each hit member
    obtain ⟨listed, found⟩ := mem_hits.mp member
    obtain ⟨title, description, key⟩ := each hit.1 listed hit.2 found
    simp only [Bool.and_eq_true, Bool.not_eq_true', List.isEmpty_eq_false_iff, decide_eq_true_eq]
    exact ⟨⟨title, description⟩, key⟩

theorem answering_named : Named "http://app.example".toList := ⟨by decide, by decide, by decide⟩

theorem declarative_accepted_answered : ∃ plugin context,
    load_manifest (sample_library "1.0" "Answered" "d2117f67cae0a779a87043d3ce89d52a1fe74464804dfaf867394d7b839ac9dc" (by decide)) {}
      (sample_path "1.0" "Answered") = .ok plugin ∧
    (Accepted FindingLifecycle.plainRuntime context (plugin.detector sample_digest) ↔
      ∀ rule ∈ plugin.rules, ∀ observation ∈ matching context rule, Presentable sample_digest rule observation) := by
  have ran : (load_manifest (sample_library "1.0" "Answered" "d2117f67cae0a779a87043d3ce89d52a1fe74464804dfaf867394d7b839ac9dc"
      (by decide)) {} (sample_path "1.0" "Answered")).map matched = .ok (some (1, true)) := by
    decide +kernel
  obtain ⟨plugin, loaded, is⟩ := map_eq_ok.mp ran
  obtain ⟨context, built, found, _⟩ := matched_some is
  refine ⟨plugin, context, loaded, declarative_accepted _ _ _ _ _ _ _ _ _ _ _ _ loaded rfl (by decide)
    (BuiltInDetectors.answering_stored answering_named) built ?_ (plain_apart _ _)⟩
  rw [found, loaded_limit loaded]
  decide

theorem blank_title_refused : ∃ plugin tables context,
    load_manifest (sample_library "1.0" " " "eee9fff1d0f59f00c44fa94fe9899e3b97e4bc29ae7afd36c3592b6d69733783" (by decide)) {}
      (sample_path "1.0" " ") = .ok plugin ∧
    Stored tables ∧ Snapshots.build_context {} tables 1 0 none = .ok context ∧
    (hits context plugin.rules).length ≤ plugin.finding_limit ∧ Apart sample_digest FindingLifecycle.plainRuntime context plugin ∧
    ¬Accepted FindingLifecycle.plainRuntime context (plugin.detector sample_digest) := by
  have ran : (load_manifest (sample_library "1.0" " " "eee9fff1d0f59f00c44fa94fe9899e3b97e4bc29ae7afd36c3592b6d69733783"
      (by decide)) {} (sample_path "1.0" " ")).map matched = .ok (some (1, false)) := by
    decide +kernel
  obtain ⟨plugin, loaded, is⟩ := map_eq_ok.mp ran
  obtain ⟨context, built, found, all⟩ := matched_some is
  have stored := BuiltInDetectors.answering_stored answering_named
  have few : (hits context plugin.rules).length ≤ plugin.finding_limit := by
    rw [found, loaded_limit loaded]
    decide
  obtain ⟨shaped, distinct⟩ := load_manifest_rules loaded
  refine ⟨plugin, _, context, loaded, stored, built, few, plain_apart _ _, fun accepted => ?_⟩
  have presentable := (detector_accepted_iff shaped distinct (loaded_limit loaded) (by decide) (build_context_wellformed stored built) few
    (plain_apart _ _)).mp accepted
  exact Bool.noConfusion (all.mpr presentable)

end RedDock.PluginFindings
