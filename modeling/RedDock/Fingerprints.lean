import RedDock.ColumnWidths
import RedDock.FindingLifecycle
import RedDock.StoredRows

/-!
# Which findings share a fingerprint

The parts of an issue are joined under one hash, with a placeholder for what is
absent. The parts that discovery and `_validated` accept hold no separator, so
two fingerprints agree exactly when the parts do, or stand behind the same
placeholder.
-/
set_option autoImplicit false
namespace RedDock.Fingerprints
open Text Targets DockGuard Inventory Detection Transactions Publications Fallible Checks OutputChecks
open Publishing hiding Raised
open Snapshots (Limits build_context asset_view service_view)
open NmapReport (Strings Element Ports Port Report)
open HttpProbe (ProbeOutcome)
open ColumnWidths (nmap_result http_result)
open FindingLifecycle (plainRuntime stubDetector stubFinding)

/-! ### Issues -/

/-- The asset and the socket of a service. -/
structure Endpoint where
  owner : Option (Text × Text)
  transport : Text
  port : Nat
  deriving DecidableEq

/-- A scope key: a text, or an empty object that is none. -/
inductive ScopeKey
  | text (t : Text)
  | empty (kind : Nat)
  deriving DecidableEq

/-- What a finding is about: a rule of a detector, an asset by its type and its
    identity, a service and a scope key. -/
structure Issue where
  detector : Text
  rule_id : Text
  asset : Option (Text × Text)
  service : Option Endpoint
  scope_key : ScopeKey
  deriving DecidableEq

def asset_key (asset : AssetView) : Text × Text := (asset.asset_type, asset.identity)

def endpoint (context : DetectionContext) (service : ServiceView) : Endpoint where
  owner := (context.assets.find? fun asset => asset.id = service.asset_id).map asset_key
  transport := service.transport
  port := service.port

def scope_key : Object → Except Raised ScopeKey
  | .str t _ => .ok (.text t)
  | .surrogates _ => .error .type_or_value
  | .other answers => do if ← answers.truth then .error .type_or_value else return .empty answers.kind

/-- The issue of a finding, in its snapshot. -/
def issue (detector_id : Text) (finding : DetectedFinding) (context : DetectionContext) : Except Raised Issue := do
  let asset ← context.asset finding.asset_id
  let service ← context.service finding.service_id
  let rule_id ← finding.rule_id.part
  let scope_key ← scope_key finding.scope_key
  return {
    detector := detector_id
    rule_id := rule_id
    asset := asset.map asset_key
    service := service.map (endpoint context)
    scope_key := scope_key }

namespace Issue

def endpoint_part (service : Option Endpoint) : Text :=
  match service with
  | some service => if service.transport.isEmpty then ABSENT else service.transport ++ '/' :: dec service.port
  | none => ABSENT

def key_part : ScopeKey → Text
  | .text t => or_absent (some t)
  | .empty _ => ABSENT

/-- The text its fingerprint is computed over. -/
def text (issue : Issue) : Text :=
  FINGERPRINT_SCHEMA ++ '\x1f' :: (issue.detector ++ '\x1f' :: (issue.rule_id ++ '\x1f' ::
    (or_absent (issue.asset.map Prod.fst) ++ '\x1f' :: (or_absent (issue.asset.map Prod.snd) ++ '\x1f' ::
      (endpoint_part issue.service ++ '\x1f' :: key_part issue.scope_key)))))

end Issue

theorem scope_key_part (o : Object) : o.or_absent = (scope_key o).map Issue.key_part := by
  cases o with
  | str t member =>
    cases t with
    | nil => rfl
    | cons c cs => rfl
  | surrogates length => rfl
  | other answers =>
    simp only [Object.or_absent, Object.truth, scope_key]
    cases answers.truth with
    | error raised => rfl
    | ok truth => cases truth <;> rfl

/-- The fingerprint of a finding is the hash of its issue's text. -/
theorem identity_eq (runtime : Runtime) (detector_id : Text) (finding : DetectedFinding) (context : DetectionContext) :
    identity runtime detector_id finding context =
      (issue detector_id finding context).map fun issue => runtime.sha256 issue.text := by
  unfold identity issue
  cases context.asset finding.asset_id with
  | error raised => rfl
  | ok asset =>
    cases context.service finding.service_id with
    | error raised => rfl
    | ok service =>
      cases finding.rule_id.part with
      | error raised => rfl
      | ok rule_id =>
        simp only [ok_bind, scope_key_part]
        cases scope_key finding.scope_key with
        | error raised => rfl
        | ok key =>
          simp only [Except.map, ok_bind, pure_eq_ok, StoredRows.fingerprint_text_eq, Issue.text]
          cases asset <;> cases service <;> rfl

/-! ### Alike issues -/

/-- A text that is written as the placeholder. -/
def Blank (t : Text) : Prop := t = [] ∨ t = ABSENT

/-- One asset, or two of one type whose identities are both blank. -/
def AlikeAssets (first second : Option (Text × Text)) : Prop :=
  first = second ∨ ∃ asset_type identity identity', first = some (asset_type, identity) ∧
    second = some (asset_type, identity') ∧ Blank identity ∧ Blank identity'

/-- No service, or one without a transport. -/
def Unaddressed (service : Option Endpoint) : Prop := ∀ e, service = some e → e.transport = []

/-- Two services without an address, or two of one transport and port, whatever
    they are on. -/
def AlikeServices (first second : Option Endpoint) : Prop :=
  Unaddressed first ∧ Unaddressed second ∨
    ∃ e e', first = some e ∧ second = some e' ∧ e.transport = e'.transport ∧ e.port = e'.port

def BlankKey : ScopeKey → Prop
  | .text t => Blank t
  | .empty _ => True

def AlikeKeys (first second : ScopeKey) : Prop := first = second ∨ BlankKey first ∧ BlankKey second

/-- Issues that are written alike. -/
structure Alike (first second : Issue) : Prop where
  detector : first.detector = second.detector
  rule_id : first.rule_id = second.rule_id
  asset : AlikeAssets first.asset second.asset
  service : AlikeServices first.service second.service
  scope_key : AlikeKeys first.scope_key second.scope_key

/-- An issue whose parts hold no separator, but for its scope key. -/
structure Separated (issue : Issue) : Prop where
  detector : '\x1f' ∉ issue.detector
  rule_id : '\x1f' ∉ issue.rule_id
  asset : ∀ asset, issue.asset = some asset → (∃ asset_type : AssetType, asset.1 = asset_type.str) ∧ '\x1f' ∉ asset.2
  service : ∀ e, issue.service = some e → '\x1f' ∉ e.transport

theorem or_absent_some (t u : Text) : or_absent (some t) = or_absent (some u) ↔ t = u ∨ Blank t ∧ Blank u := by
  cases t with
  | nil =>
    cases u with
    | nil => simp
    | cons c cs => simp [or_absent, Blank, eq_comm]
  | cons c cs =>
    cases u with
    | nil => simp [or_absent, Blank]
    | cons d ds =>
      simp only [or_absent, Blank, List.cons_ne_nil, false_or]
      constructor
      · exact Or.inl
      · rintro (same | ⟨first, second⟩)
        · exact same
        · exact first.trans second.symm

theorem or_absent_separated {value : Option Text} (separated : ∀ t, value = some t → '\x1f' ∉ t) : '\x1f' ∉ or_absent value := by
  cases value with
  | none => decide
  | some t =>
    cases t with
    | nil => decide
    | cons c cs => exact separated _ rfl

/-- The type of an asset is no placeholder. -/
theorem asset_parts {first second : Option (Text × Text)}
    (typed : ∀ asset, first = some asset → ∃ asset_type : AssetType, asset.1 = asset_type.str)
    (typed' : ∀ asset, second = some asset → ∃ asset_type : AssetType, asset.1 = asset_type.str) :
    or_absent (first.map Prod.fst) = or_absent (second.map Prod.fst) ∧
      or_absent (first.map Prod.snd) = or_absent (second.map Prod.snd) ↔ AlikeAssets first second := by
  have present : ∀ asset_type : AssetType, or_absent (some asset_type.str) = asset_type.str ∧ asset_type.str ≠ ABSENT := by
    intro asset_type
    cases asset_type <;> exact ⟨rfl, by decide⟩
  cases first with
  | none =>
    cases second with
    | none => simp [AlikeAssets]
    | some asset' =>
      obtain ⟨asset_type, is⟩ := typed' asset' rfl
      obtain ⟨written, other⟩ := present asset_type
      refine iff_of_false (fun same => other ?_) (by simp [AlikeAssets])
      rw [← written, ← is]
      exact same.1.symm
  | some asset =>
    obtain ⟨asset_type, is⟩ := typed asset rfl
    obtain ⟨written, other⟩ := present asset_type
    cases second with
    | none =>
      refine iff_of_false (fun same => other ?_) (by simp [AlikeAssets])
      rw [← written, ← is]
      exact same.1
    | some asset' =>
      obtain ⟨asset_type', is'⟩ := typed' asset' rfl
      obtain ⟨kind, identity⟩ := asset
      obtain ⟨kind', identity'⟩ := asset'
      simp only at is is'
      have kinds : or_absent (some kind) = or_absent (some kind') ↔ kind = kind' := by
        rw [is, is', written, (present asset_type').1]
      simp only [Option.map_some, kinds, or_absent_some, AlikeAssets, Option.some.injEq, Prod.mk.injEq]
      constructor
      · rintro ⟨rfl, same | ⟨blank, blank'⟩⟩
        · exact Or.inl ⟨rfl, same⟩
        · exact Or.inr ⟨kind, identity, identity', ⟨rfl, rfl⟩, ⟨rfl, rfl⟩, blank, blank'⟩
      · rintro (⟨rfl, same⟩ | ⟨_, _, _, ⟨rfl, rfl⟩, ⟨rfl, rfl⟩, blank, blank'⟩)
        · exact ⟨rfl, Or.inl same⟩
        · exact ⟨rfl, Or.inr ⟨blank, blank'⟩⟩

theorem unaddressed_part {service : Option Endpoint} (unaddressed : Unaddressed service) : Issue.endpoint_part service = ABSENT := by
  cases service with
  | none => rfl
  | some e => simp [Issue.endpoint_part, unaddressed e rfl]

theorem addressed_part {e : Endpoint} (addressed : e.transport ≠ []) :
    Issue.endpoint_part (some e) = e.transport ++ '/' :: dec e.port := by
  simp [Issue.endpoint_part, addressed]

theorem addressed_present {e : Endpoint} (addressed : e.transport ≠ []) : Issue.endpoint_part (some e) ≠ ABSENT := by
  intro same
  have slash : '/' ∈ ABSENT := by
    rw [← same, addressed_part addressed]
    simp
  exact absurd slash (by decide)

/-- Endpoints are told apart by their last slash. -/
theorem endpoint_parts (first second : Option Endpoint) :
    Issue.endpoint_part first = Issue.endpoint_part second ↔ AlikeServices first second := by
  have cases_of : ∀ service : Option Endpoint, Unaddressed service ∨ ∃ e, service = some e ∧ e.transport ≠ [] := by
    intro service
    cases service with
    | none => exact Or.inl fun _ none => by cases none
    | some e =>
      by_cases empty : e.transport = []
      · exact Or.inl fun _ is => by cases is; exact empty
      · exact Or.inr ⟨e, rfl, empty⟩
  constructor
  · intro same
    rcases cases_of first with none | ⟨e, rfl, addressed⟩
    · rcases cases_of second with none' | ⟨e', rfl, addressed'⟩
      · exact Or.inl ⟨none, none'⟩
      · rw [unaddressed_part none] at same
        exact absurd same.symm (addressed_present addressed')
    · rcases cases_of second with none' | ⟨e', rfl, addressed'⟩
      · rw [unaddressed_part none'] at same
        exact absurd same (addressed_present addressed)
      · rw [addressed_part addressed, addressed_part addressed'] at same
        have reversed := congrArg List.reverse same
        simp only [List.reverse_append, List.reverse_cons, List.append_assoc, List.singleton_append] at reversed
        obtain ⟨ports, transports⟩ := append_sep_inj (fun member => StoredRows.dec_no_slash _ (List.mem_reverse.mp member))
          (fun member => StoredRows.dec_no_slash _ (List.mem_reverse.mp member)) reversed
        have port : e.port = e'.port := by
          rw [← ofDec_dec e.port, List.reverse_injective ports, ofDec_dec]
        exact Or.inr ⟨e, e', rfl, rfl, List.reverse_injective transports, port⟩
  · rintro (⟨none, none'⟩ | ⟨e, e', rfl, rfl, transport, port⟩)
    · rw [unaddressed_part none, unaddressed_part none']
    · simp only [Issue.endpoint_part, transport, port]

theorem key_parts (first second : ScopeKey) : Issue.key_part first = Issue.key_part second ↔ AlikeKeys first second := by
  have absent : ∀ t : Text, or_absent (some t) = ABSENT ↔ Blank t := by
    intro t
    have same := or_absent_some t ABSENT
    have blank : Blank ABSENT := Or.inr rfl
    have placeholder : or_absent (some ABSENT) = ABSENT := rfl
    rw [placeholder, and_iff_left blank] at same
    exact same.trans (or_iff_right_of_imp Or.inr)
  cases first with
  | text t =>
    cases second with
    | text u =>
      simp only [Issue.key_part, or_absent_some, AlikeKeys, ScopeKey.text.injEq, BlankKey]
    | empty kind => simp [Issue.key_part, absent, AlikeKeys, BlankKey]
  | empty kind =>
    cases second with
    | text u =>
      rw [eq_comm]
      simp [Issue.key_part, absent, AlikeKeys, BlankKey]
    | empty kind' => simp [Issue.key_part, AlikeKeys, BlankKey]

theorem endpoint_separated {service : Option Endpoint} (separated : ∀ e, service = some e → '\x1f' ∉ e.transport) :
    '\x1f' ∉ Issue.endpoint_part service := by
  cases service with
  | none => decide
  | some e =>
    by_cases addressed : e.transport = []
    · rw [unaddressed_part fun _ is => by cases is; exact addressed]
      decide
    · rw [addressed_part addressed]
      intro member
      rcases List.mem_append.mp member with transport | port
      · exact separated e rfl transport
      · rcases List.mem_cons.mp port with slash | digit
        · exact absurd slash (by decide)
        · exact absurd (isDigit_of_mem_dec digit) (by decide)

/-- Two issues have one text exactly when they are alike. -/
theorem text_alike {first second : Issue} (left : Separated first) (right : Separated second) :
    first.text = second.text ↔ Alike first second := by
  have types : ∀ {issue : Issue}, Separated issue → ∀ t, issue.asset.map Prod.fst = some t → '\x1f' ∉ t := by
    intro issue separated t given
    obtain ⟨asset, is, rfl⟩ := Option.map_eq_some_iff.mp given
    obtain ⟨asset_type, is⟩ := (separated.asset asset is).1
    rw [is]
    cases asset_type <;> decide
  have identities : ∀ {issue : Issue}, Separated issue → ∀ t, issue.asset.map Prod.snd = some t → '\x1f' ∉ t := by
    intro issue separated t given
    obtain ⟨asset, is, rfl⟩ := Option.map_eq_some_iff.mp given
    exact (separated.asset asset is).2
  have assets := asset_parts (fun asset is => (left.asset asset is).1) (fun asset is => (right.asset asset is).1)
  constructor
  · intro same
    have rest := (List.cons.inj (List.append_cancel_left same)).2
    obtain ⟨detector, rest⟩ := append_sep_inj left.detector right.detector rest
    obtain ⟨rule_id, rest⟩ := append_sep_inj left.rule_id right.rule_id rest
    obtain ⟨kind, rest⟩ := append_sep_inj (or_absent_separated (types left)) (or_absent_separated (types right)) rest
    obtain ⟨name, rest⟩ := append_sep_inj (or_absent_separated (identities left)) (or_absent_separated (identities right)) rest
    obtain ⟨service, key⟩ := append_sep_inj (endpoint_separated left.service) (endpoint_separated right.service) rest
    exact ⟨detector, rule_id, assets.mp ⟨kind, name⟩, (endpoint_parts _ _).mp service, (key_parts _ _).mp key⟩
  · intro alike
    obtain ⟨kind, name⟩ := assets.mpr alike.asset
    rw [Issue.text, Issue.text, alike.detector, alike.rule_id, kind, name, (endpoint_parts _ _).mpr alike.service,
      (key_parts _ _).mpr alike.scope_key]

/-! ### What discovery records -/

/-- A report of XML characters: none of its values holds the separator. -/
inductive Characters : Element → Prop
  | node {tag : Text} {attributes : List (Text × Text)} {children : List Element}
      (values : ∀ given ∈ attributes, '\x1f' ∉ given.2) (inside : ∀ child ∈ children, Characters child) :
      Characters (.node tag attributes children)

theorem Characters.get {element : Element} (characters : Characters element) {key : String} {value : Text}
    (given : element.get key = some value) : '\x1f' ∉ value := by
  obtain ⟨values, inside⟩ := characters
  obtain ⟨before, after, is, -⟩ := List.lookup_eq_some_iff.mp given
  exact values (key.toList, value) (by rw [is]; simp)

theorem Characters.findall {element child : Element} (characters : Characters element) {tag : String}
    (member : child ∈ element.findall tag) : Characters child := by
  obtain ⟨values, inside⟩ := characters
  exact inside child (List.mem_filter.mp member).1

theorem Characters.findall_in {element child : Element} (characters : Characters element) {first second : String}
    (member : child ∈ element.findall_in first second) : Characters child := by
  obtain ⟨between, listed, member⟩ := List.mem_flatMap.mp member
  exact (characters.findall listed).findall member

/-- Rows of known types, whose keys hold no separator. -/
structure Rows (tables : Tables) : Prop where
  types : ∀ asset ∈ tables.assets, ∃ asset_type : AssetType, asset.asset_type = asset_type.str
  identities : ∀ asset ∈ tables.assets, '\x1f' ∉ asset.identity
  transports : ∀ service ∈ tables.services, '\x1f' ∉ service.transport

/-- So are the assets of a report. -/
def Reports (assets : List DiscoveredAsset) : Prop :=
  ∀ asset ∈ assets, '\x1f' ∉ asset.identity ∧ ∀ service ∈ asset.services, '\x1f' ∉ service.transport

section
variable {tables : Tables}

theorem upsert_asset_rows {dockyard_id observed_at : Nat} {discovered : DiscoveredAsset} (rows : Rows tables)
    (separated : '\x1f' ∉ discovered.identity) : Rows (upsert_asset dockyard_id discovered observed_at tables).2 := by
  unfold upsert_asset
  split
  · exact ⟨List.forall_mem_append.mpr ⟨rows.types, List.forall_mem_singleton.mpr ⟨_, rfl⟩⟩,
      List.forall_mem_append.mpr ⟨rows.identities, List.forall_mem_singleton.mpr separated⟩, rows.transports⟩
  · refine ⟨fun asset member => ?_, fun asset member => ?_, rows.transports⟩
    · obtain ⟨before, there, rfl⟩ := List.mem_map.mp member
      split
      · exact rows.types before there
      · exact rows.types before there
    · obtain ⟨before, there, rfl⟩ := List.mem_map.mp member
      split
      · exact rows.identities before there
      · exact rows.identities before there

theorem refresh_service_transport (discovered : DiscoveredService) (seen_at : Nat) (service : Service) :
    (refresh_service discovered seen_at service).transport = service.transport := by
  unfold refresh_service
  simp only
  split
  · rfl
  · split <;> rfl

theorem upsert_service_rows {asset_id observed_at : Nat} {discovered : DiscoveredService} (rows : Rows tables)
    (separated : '\x1f' ∉ discovered.transport) : Rows (upsert_service asset_id discovered observed_at tables).2 := by
  unfold upsert_service
  split
  · split
    · exact rows
    · exact ⟨rows.types, rows.identities, List.forall_mem_append.mpr ⟨rows.transports, List.forall_mem_singleton.mpr separated⟩⟩
  · refine ⟨rows.types, rows.identities, fun service member => ?_⟩
    obtain ⟨before, there, rfl⟩ := List.mem_map.mp member
    split
    · rw [refresh_service_transport]
      exact rows.transports before there
    · exact rows.transports before there

theorem foldlState_rows {α β : Type} {f : β → α → Tables → β × Tables} {items : List α} {b : β}
    (each : ∀ item ∈ items, ∀ b tables, Rows tables → Rows (f b item tables).2) (rows : Rows tables) :
    Rows (foldlState f items b tables).2 := by
  induction items generalizing b tables with
  | nil => exact rows
  | cons item items ih =>
    obtain ⟨first, rest⟩ := List.forall_mem_cons.mp each
    exact ih rest (first b tables rows)

theorem reconcile_rows (dockyard_id observed_at : Nat) {assets : List DiscoveredAsset} (rows : Rows tables) (reports : Reports assets) :
    Rows (reconcile dockyard_id observed_at assets tables).2 := by
  refine foldlState_rows (fun asset listed ids tables rows => ?_) rows
  obtain ⟨identity, services⟩ := reports asset listed
  refine foldlState_rows (fun service listed ids tables rows => ?_) (upsert_asset_rows rows identity)
  rw [ColumnWidths.reconcile_service_tables]
  exact upsert_service_rows rows (services service listed)

theorem published_rows {run : RunRow} {result : AdapterResult} {observations : List DiscoveredObservation} {observed_at : Nat}
    {stored : List StoredArtifact} (rows : Rows tables) (reports : Reports result.assets) :
    Rows (published run result observations observed_at stored tables) := by
  have reconciled := reconcile_rows run.dockyard_id observed_at rows reports
  obtain ⟨assets, services, -⟩ := add_records_frame run stored (record_all (recording run observed_at)
    (reconcile run.dockyard_id observed_at result.assets tables).1 observations
    (reconcile run.dockyard_id observed_at result.assets tables).2)
  obtain ⟨assets', services', -⟩ := record_all_appends (recording run observed_at)
    (reconcile run.dockyard_id observed_at result.assets tables).1 observations
    (reconcile run.dockyard_id observed_at result.assets tables).2
  refine ⟨?_, ?_, ?_⟩
  · rw [published, assets, assets']
    exact reconciled.types
  · rw [published, assets, assets']
    exact reconciled.identities
  · rw [published, services, services']
    exact reconciled.transports

end

section
variable {strings : Strings} {address : Text}

/-- A fold whose steps keep a condition. -/
theorem foldlM_keeps {ε α β : Type} {f : β → α → Except ε β} (inv : β → Prop) {items : List α} {b b' : β}
    (each : ∀ item ∈ items, ∀ b b', inv b → f b item = .ok b' → inv b') (first : inv b) (ran : items.foldlM f b = .ok b') : inv b' := by
  induction items generalizing b with
  | nil =>
    cases ran
    exact first
  | cons item items ih =>
    obtain ⟨here, rest⟩ := List.forall_mem_cons.mp each
    obtain ⟨next, stepped, ran⟩ := bind_eq_ok.mp ran
    exact ih rest (here b next first stepped) ran

/-- The transports of collected services. -/
def Transports (ports : Ports) : Prop := ∀ service ∈ ports.services, '\x1f' ∉ service.transport

theorem append_port_transports {ports ports' : Ports} {port : Port} (transports : Transports ports)
    (separated : '\x1f' ∉ port.transport) (ran : NmapReport.append_port strings address ports port = .ok ports') :
    Transports ports' := by
  unfold NmapReport.append_port at ran
  split at ran
  · cases ran
  cases ran
  exact List.forall_mem_append.mpr ⟨transports, List.forall_mem_singleton.mpr separated⟩

theorem normalize_port_transports {ports ports' : Ports} {port : Element} (characters : Characters port)
    (transports : Transports ports) (ran : NmapReport.normalize_port strings address ports port = .ok ports') :
    Transports ports' := by
  unfold NmapReport.normalize_port at ran
  split at ran
  · cases ran
    exact transports
  obtain ⟨number, _, ran⟩ := bind_eq_ok.mp ran
  split at ran
  · cases ran
    exact transports
  simp only at ran
  split at ran
  · cases ran
    exact transports
  refine append_port_transports transports ?_ ran
  show '\x1f' ∉ (port.get "protocol").getD "tcp".toList
  cases given : port.get "protocol" with
  | none => decide
  | some protocol => exact characters.get given

theorem normalize_summary_transports {state : Text} {ports ports' : Ports} {reason : Element} (transports : Transports ports)
    (ran : NmapReport.normalize_summary strings address state ports reason = .ok ports') : Transports ports' := by
  unfold NmapReport.normalize_summary at ran
  split at ran
  · split at ran
    · cases ran
      exact transports
    rename_i transport _ _ _ is_tcp
    obtain ⟨numbers, _, ran⟩ := bind_eq_ok.mp ran
    split at ran
    · cases ran
    split at ran
    · cases ran
    split at ran
    · cases ran
    split at ran
    · cases ran
    refine foldlM_keeps Transports (fun _ _ _ _ transports ran => append_port_transports transports ?_ ran) transports ran
    show '\x1f' ∉ transport
    rw [not_not.mp is_tcp]
    decide
  · cases ran
    exact transports

theorem normalize_ports_transports {host : Element} {ports : Ports} (characters : Characters host)
    (ran : NmapReport.normalize_ports strings host address = .ok ports) : Transports ports := by
  obtain ⟨listed, first, second⟩ := bind_eq_ok.mp ran
  have direct : Transports listed := foldlM_keeps Transports (fun port member _ _ transports ran =>
    normalize_port_transports (characters.findall_in member) transports ran) (fun _ none => by cases none) first
  refine foldlM_keeps Transports (fun extra _ before after transports ran => ?_) direct second
  unfold NmapReport.normalize_extra at ran
  simp only at ran
  split at ran
  · cases ran
    exact transports
  · exact foldlM_keeps Transports (fun _ _ _ _ transports ran => normalize_summary_transports transports ran) transports ran

theorem normalize_reports {document : Element} {hostname : Option Text} {report : Report} (characters : Characters document)
    (ran : NmapReport.normalize strings document hostname = .ok report) : Reports report.assets := by
  refine foldlM_keeps (fun report : Report => Reports report.assets) (fun host member before after reports ran => ?_)
    (fun _ none => by cases none) ran
  have own := characters.findall member
  unfold NmapReport.normalize_host at ran
  split at ran
  · cases ran
    exact reports
  rename_i address is_address
  simp only at ran
  split at ran
  · cases ran
    exact reports
  obtain ⟨ports, normalized, ran⟩ := bind_eq_ok.mp ran
  cases ran
  obtain ⟨element, found, given⟩ := Option.bind_eq_some_iff.mp is_address
  have identity := (own.findall (List.mem_of_find?_eq_some found)).get given
  exact List.forall_mem_append.mpr ⟨reports, List.forall_mem_singleton.mpr ⟨identity, normalize_ports_transports own normalized⟩⟩

end

theorem http_reports {u : Unicode} {raw : Text} {target : Target} (normal : normalize_target u raw = .ok target) (address : Text)
    (outcome : ProbeOutcome) : Reports (http_result u target address outcome).assets := by
  have visible := Canonical.form_visible (Canonical.normalize_target_form normal)
  show Reports (HttpProbe.normalize u target address outcome).1
  unfold HttpProbe.normalize
  split
  · exact fun _ none => by cases none
  · refine List.forall_mem_singleton.mpr ⟨fun member => ?_, List.forall_mem_singleton.mpr ?_⟩
    · exact absurd (visible _ member).1 (by decide)
    · show '\x1f' ∉ "tcp".toList
      decide

/-- The rows that published runs leave, whatever is scanned and answers. -/
inductive Recorded (u : Unicode) : Tables → Prop
  | empty : Recorded u {}
  | nmap {tables : Tables} (before : Recorded u tables) {strings : Strings} {document : Element} {hostname : Option Text}
      {report : Report} (characters : Characters document) (ran : NmapReport.normalize strings document hostname = .ok report)
      (run : RunRow) (evaluation : Evaluation) (observed_at : Nat) (stored : List StoredArtifact) :
      Recorded u (published run (nmap_result report) (run_observations run evaluation (nmap_result report)) observed_at stored tables)
  | http {tables : Tables} (before : Recorded u tables) {raw : Text} {target : Target}
      (normal : normalize_target u raw = .ok target) (address : Text) (outcome : ProbeOutcome)
      (run : RunRow) (evaluation : Evaluation) (observed_at : Nat) (stored : List StoredArtifact) :
      Recorded u (published run (http_result u target address outcome)
        (run_observations run evaluation (http_result u target address outcome)) observed_at stored tables)

theorem Recorded.rows {u : Unicode} {tables : Tables} (recorded : Recorded u tables) : Rows tables := by
  induction recorded with
  | empty => exact ⟨(fun _ none => by cases none), (fun _ none => by cases none), (fun _ none => by cases none)⟩
  | nmap before characters ran run evaluation observed_at stored ih => exact published_rows ih (normalize_reports characters ran)
  | http before normal address outcome run evaluation observed_at stored ih => exact published_rows ih (http_reports normal address outcome)

/-! ### Accepted findings -/

/-- A line feed at the end is not the separator. -/
theorem matchesLine_separated {p : Text → Bool} {t : Text} (proper : ∀ t, p t = true → '\x1f' ∉ t) (valid : matchesLine p t = true) :
    '\x1f' ∉ t := by
  unfold matchesLine at valid
  simp only [Bool.or_eq_true, Bool.and_eq_true, beq_iff_eq] at valid
  rcases valid with whole | ⟨last, front⟩
  · exact proper t whole
  · intro member
    have split := List.dropLast_append_getLast? '\n' last
    rw [← split] at member
    rcases List.mem_append.mp member with inside | final
    · exact proper _ front inside
    · exact absurd (List.mem_singleton.mp final) (by decide)

theorem rule_id_separated {t : Text} (valid : RULE_ID t = true) : '\x1f' ∉ t := by
  refine matchesLine_separated (fun t holds member => ?_) valid
  cases t with
  | nil => cases holds
  | cons first rest =>
    simp only [Bool.and_eq_true, List.all_eq_true] at holds
    rcases List.mem_cons.mp member with rfl | later
    · exact absurd holds.1.1 (by decide)
    · exact absurd (holds.2 _ later) (by decide)

section
variable {runtime : Runtime} {context : DetectionContext}

/-- What is accepted has passed its checks. -/
theorem accepted_checked {detector_id : Text} {produced : Produced} {findings : List DetectedFinding} {finding : DetectedFinding}
    (accepted : validated runtime detector_id produced context = .ok findings) (member : finding ∈ findings) :
    Returns (check_finding runtime context finding) := by
  have inside := (validated_ok accepted).1.mem_iff.mp member
  cases produced with
  | other => cases accepted
  | sequence items =>
    simp only [validated] at accepted
    split at accepted
    · cases accepted
    obtain ⟨all, read, -⟩ := bind_eq_ok.mp accepted
    have each : ∀ (items : List (Option DetectedFinding)) (all : List DetectedFinding),
        check_findings runtime context items = .ok all → ∀ finding, some finding ∈ items →
          Returns (check_finding runtime context finding) := by
      intro items
      induction items with
      | nil => exact fun _ _ _ none => by cases none
      | cons item items ih =>
        intro all read finding listed
        cases item with
        | none => cases read
        | some first =>
          unfold check_findings at read
          obtain ⟨u, checked, read⟩ := bind_eq_ok.mp read
          obtain ⟨rest, later, -⟩ := bind_eq_ok.mp read
          rcases List.mem_cons.mp listed with is | listed
          · cases is
            exact ⟨u, checked⟩
          · exact ih rest later finding listed
    refine each items all read finding ?_
    obtain ⟨item, listed, is⟩ := List.mem_filterMap.mp inside
    rw [id_eq] at is
    exact is ▸ listed

theorem find_equal_mem {α : Type} {id : α → Int} {o : Object} {items : List α} {item : α}
    (found : find_equal id o items = .ok (some item)) : item ∈ items := by
  induction items with
  | nil => cases found
  | cons first items ih =>
    unfold find_equal at found
    obtain ⟨equal, _, found⟩ := bind_eq_ok.mp found
    cases equal with
    | true =>
      cases found
      exact List.mem_cons_self
    | false => exact List.mem_cons_of_mem _ (ih found)

variable {tables : Tables} {limits : Limits} {dockyard_id generated_at : Nat} {lookup : Option (Text → Text → List CveReference)}

/-- An accepted finding has an issue, whose parts are separated. -/
theorem accepted_issue (rows : Rows tables) (built : build_context limits tables dockyard_id generated_at lookup = .ok context)
    {detector : Detector} {produced : Produced} {findings : List DetectedFinding} {finding : DetectedFinding}
    (accepted : validated runtime detector.id produced context = .ok findings) (member : finding ∈ findings) :
    ∃ i, issue detector.id finding context = .ok i ∧ Separated i := by
  obtain ⟨u, checked⟩ := accepted_checked accepted member
  obtain ⟨fingerprint, identified⟩ := ((validated_ok accepted).2 finding member).2
  rw [identity_eq] at identified
  obtain ⟨i, is, -⟩ := map_eq_ok.mp identified
  refine ⟨i, is, ?_⟩
  have passed := check_finding_performs.returns.mp ⟨u, checked⟩
  simp only [finding_checks, passed_cons] at passed
  have valid := passed.1.2
  obtain ⟨assets, -⟩ := StoredRows.build_context_rows built
  unfold issue at is
  obtain ⟨asset, found, is⟩ := bind_eq_ok.mp is
  obtain ⟨service, running, is⟩ := bind_eq_ok.mp is
  obtain ⟨rule_id, named, is⟩ := bind_eq_ok.mp is
  obtain ⟨key, keyed, is⟩ := bind_eq_ok.mp is
  cases is
  refine ⟨detector.separated, ?_, fun asset_key given => ?_, fun e given => ?_⟩
  · cases rule : finding.rule_id with
    | str t kind =>
      rw [rule] at named valid
      cases named
      exact rule_id_separated (Except.ok.inj valid)
    | surrogates length =>
      rw [rule] at named
      cases named
    | other answers =>
      rw [rule] at named
      cases named
  · obtain ⟨view, is, rfl⟩ := Option.map_eq_some_iff.mp given
    rw [is] at found
    have listed : view ∈ context.assets := by
      unfold DetectionContext.asset at found
      split at found
      · cases found
      · exact find_equal_mem found
    rw [assets] at listed
    obtain ⟨row, stored, rfl⟩ := List.mem_map.mp listed
    have inside := (StoredRows.mem_asset_rows.mp stored).1
    exact ⟨rows.types row inside, rows.identities row inside⟩
  · obtain ⟨view, is, rfl⟩ := Option.map_eq_some_iff.mp given
    rw [is] at running
    have listed : view ∈ context.assets.flatMap AssetView.services := by
      unfold DetectionContext.service at running
      split at running
      · cases running
      · exact find_equal_mem running
    rw [assets] at listed
    obtain ⟨asset_row, of_asset, inside⟩ := List.mem_flatMap.mp listed
    obtain ⟨row, stored, rfl⟩ := List.mem_map.mp of_asset
    obtain ⟨service_row, stored, rfl⟩ := List.mem_map.mp (List.mem_filter.mp inside).1
    exact rows.transports service_row (StoredRows.mem_service_rows.mp stored).1

end

section
variable {runtime : Runtime} {context context' : DetectionContext}

/-- Two fingerprints agree exactly when the issues are alike. -/
theorem fingerprints_alike (collision_free : Function.Injective runtime.sha256) {detector_id detector_id' : Text}
    {finding finding' : DetectedFinding} {i i' : Issue} (is : issue detector_id finding context = .ok i)
    (is' : issue detector_id' finding' context' = .ok i') (separated : Separated i) (separated' : Separated i') :
    identity runtime detector_id finding context = identity runtime detector_id' finding' context' ↔ Alike i i' := by
  rw [identity_eq, identity_eq, is, is', ← text_alike separated separated']
  simp only [Except.map, Except.ok.injEq]
  exact collision_free.eq_iff

theorem Alike.refl (i : Issue) : Alike i i where
  detector := rfl
  rule_id := rfl
  asset := Or.inl rfl
  service := by
    cases is : i.service with
    | none => exact Or.inl ⟨(fun _ none => by cases none), (fun _ none => by cases none)⟩
    | some e => exact Or.inr ⟨e, e, rfl, rfl, rfl, rfl⟩
  scope_key := Or.inl rfl

/-- Two accepted findings, of the same or of different runs, have one
    fingerprint just when they have one issue, exactly where issues that are
    written alike are the same. -/
theorem fingerprints_identify_iff (collision_free : Function.Injective runtime.sha256) {u : Unicode} {tables tables' : Tables}
    (recorded : Recorded u tables) (recorded' : Recorded u tables') {limits : Limits} {dockyard_id generated_at generated_at' : Nat}
    {lookup lookup' : Option (Text → Text → List CveReference)}
    (built : build_context limits tables dockyard_id generated_at lookup = .ok context)
    (built' : build_context limits tables' dockyard_id generated_at' lookup' = .ok context')
    {detector detector' : Detector} {produced produced' : Produced} {findings findings' : List DetectedFinding}
    (accepted : validated runtime detector.id produced context = .ok findings)
    (accepted' : validated runtime detector'.id produced' context' = .ok findings')
    {finding finding' : DetectedFinding} (member : finding ∈ findings) (member' : finding' ∈ findings') :
    ∃ i i' fingerprint fingerprint', issue detector.id finding context = .ok i ∧ issue detector'.id finding' context' = .ok i' ∧
      identity runtime detector.id finding context = .ok fingerprint ∧
      identity runtime detector'.id finding' context' = .ok fingerprint' ∧
      ((fingerprint = fingerprint' ↔ i = i') ↔ (Alike i i' → i = i')) := by
  obtain ⟨i, is, separated⟩ := accepted_issue recorded.rows built accepted member
  obtain ⟨i', is', separated'⟩ := accepted_issue recorded'.rows built' accepted' member'
  have same := fingerprints_alike collision_free is is' separated separated'
  have identified : identity runtime detector.id finding context = .ok (runtime.sha256 i.text) := by rw [identity_eq, is]; rfl
  have identified' : identity runtime detector'.id finding' context' = .ok (runtime.sha256 i'.text) := by rw [identity_eq, is']; rfl
  refine ⟨i, i', _, _, is, is', identified, identified', ?_⟩
  rw [identified, identified', Except.ok.injEq] at same
  rw [same]
  constructor
  · exact fun identify => identify.mp
  · exact fun distinct => ⟨distinct, fun one => one ▸ Alike.refl i⟩

end

/-- A Dockyard whose only observation is that an origin did not answer. -/
def silent_target : Target where
  kind := .url
  value := "http://10.0.0.1".toList
  host := "10.0.0.1".toList
  scheme := some "http".toList
  port := some 80

def silent_result : AdapterResult := http_result .plain silent_target "10.0.0.1".toList { error := some "refused".toList }

def silent_tables : Tables :=
  published ColumnWidths.banner_run silent_result (run_observations ColumnWidths.banner_run ColumnWidths.banner_evaluation silent_result) 0 [] {}

theorem silent_recorded : Recorded .plain silent_tables :=
  .http .empty (by decide +kernel : normalize_target .plain "http://10.0.0.1".toList = .ok silent_target) _ _ _ _ _ _

def silent_view : ObservationView where
  id := 1
  discovery_run_id := some 1
  observation_type := "endpoint_unreachable".toList
  observed_at := 0
  detail := [("address".toList, .str "10.0.0.1".toList), ("error".toList, .str "refused".toList)]

def silent_context : DetectionContext := { generated_at := 0, observations := [silent_view] }

theorem silent_built : build_context {} silent_tables 1 0 none = .ok silent_context := rfl

def keyed_finding (key : Text) : DetectedFinding := { stubFinding silent_view with scope_key := .str key }

def keyed_issue (key : Text) : Issue where
  detector := stubDetector.id
  rule_id := "stub-rule".toList
  asset := none
  service := none
  scope_key := .text key

theorem keyed_accepted {key : Text} (accepted :
    (validated plainRuntime stubDetector.id (.sequence [some (keyed_finding key)]) silent_context).isOk = true) :
    validated plainRuntime stubDetector.id (.sequence [some (keyed_finding key)]) silent_context =
      .ok [keyed_finding key] := by
  cases ran : validated plainRuntime stubDetector.id (.sequence [some (keyed_finding key)])
      silent_context with
  | error raised =>
    rw [ran] at accepted
    cases accepted
  | ok findings => rw [List.perm_singleton.mp (validated_ok ran).1]

/-- Without a scope key, and with the placeholder for one. -/
theorem placeholder_collides : ∃ first second,
    validated plainRuntime stubDetector.id (.sequence [some (keyed_finding [])]) silent_context =
      .ok [first] ∧
    validated plainRuntime stubDetector.id (.sequence [some (keyed_finding ABSENT)]) silent_context =
      .ok [second] ∧
    identity plainRuntime stubDetector.id first silent_context =
      identity plainRuntime stubDetector.id second silent_context ∧
    issue stubDetector.id first silent_context = .ok (keyed_issue []) ∧
    issue stubDetector.id second silent_context = .ok (keyed_issue ABSENT) ∧ keyed_issue [] ≠ keyed_issue ABSENT :=
  ⟨_, _, keyed_accepted (by decide +kernel), keyed_accepted (by decide +kernel), rfl, rfl, rfl, by decide⟩

/-- Two findings with one key and one fingerprint. -/
theorem fingerprints_identify_example :
    ∃ i i' fingerprint fingerprint', issue stubDetector.id (keyed_finding []) silent_context = .ok i ∧
      issue stubDetector.id (keyed_finding []) silent_context = .ok i' ∧
      identity plainRuntime stubDetector.id (keyed_finding []) silent_context = .ok fingerprint ∧
      identity plainRuntime stubDetector.id (keyed_finding []) silent_context = .ok fingerprint' ∧
      ((fingerprint = fingerprint' ↔ i = i') ↔ (Alike i i' → i = i')) :=
  fingerprints_identify_iff (show Function.Injective plainRuntime.sha256 from Function.injective_id) silent_recorded silent_recorded
    silent_built silent_built (keyed_accepted (by decide +kernel)) (keyed_accepted (by decide +kernel)) (List.mem_singleton_self _)
    (List.mem_singleton_self _)

end RedDock.Fingerprints
