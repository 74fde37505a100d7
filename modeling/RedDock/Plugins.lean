import RedDock.Registry
import RedDock.Intelligence

/-!
# Detector plugins

Manifests of declarative detectors: how one is read, which of them are accepted,
and the detector that an accepted one is compiled to.
-/
set_option autoImplicit false
namespace RedDock.Plugins
open Text Detection Registry
open Intelligence (text_of members_of within)

/-- `json.loads`, with the pairs of an object as they are written and nothing of
    a document it refuses or that has a lone surrogate; and SHA-256 in
    hexadecimal. -/
structure Library where
  loads : Bytes → Option Json
  hexdigest : Bytes → Text
  hexdigest_length : ∀ raw, (hexdigest raw).length = 64

structure Settings where
  max_detector_plugins : Nat := 16
  max_detector_plugin_bytes : Nat := 256 * 1024
  max_detector_plugin_rules : Nat := 50
  max_findings_per_detector : Nat := 500

/-! ### Documents -/

def name_character (c : Char) : Bool := c.isLower || c.isDigit || c == '.' || c == '_' || c == '-'

/-- `^[a-z0-9][a-z0-9._-]{0,limit}$` -/
def NAME (limit : Nat) (t : Text) : Bool :=
  match t with
  | [] => false
  | first :: rest => (first.isLower || first.isDigit) && decide (rest.length ≤ limit) && rest.all name_character

/-- `_VERSION` -/
def VERSION (t : Text) : Bool :=
  match t with
  | [] => false
  | first :: rest => first.isDigit && decide (rest.length ≤ 15) &&
      rest.all fun c => c.isAlphanum || c == '.' || c == '_' || c == '-'

/-- A text within the bounds of its length. -/
abbrev Bounded (low high : Nat) (t : Text) : Prop := low ≤ t.length ∧ t.length ≤ high

/-- The constraints on the fields of a rule. -/
structure Shaped (rule : DeclarativeRule) : Prop where
  id : NAME 63 rule.id = true
  observation_type : NAME 31 rule.observation_type = true
  detail_key : NAME 63 rule.detail_key = true
  title : Bounded 1 180 rule.title
  description : Bounded 1 3000 rule.description
  remediation : ∀ t ∈ rule.remediation, t.length ≤ 1500

instance shaped_decidable (rule : DeclarativeRule) : Decidable (Shaped rule) :=
  decidable_of_iff (NAME 63 rule.id = true ∧ NAME 31 rule.observation_type = true ∧ NAME 63 rule.detail_key = true ∧
      Bounded 1 180 rule.title ∧ Bounded 1 3000 rule.description ∧ ∀ t ∈ rule.remediation, t.length ≤ 1500)
    ⟨fun ⟨id, type, key, title, description, remediation⟩ => ⟨id, type, key, title, description, remediation⟩,
      fun shaped => ⟨shaped.id, shaped.observation_type, shaped.detail_key, shaped.title, shaped.description, shaped.remediation⟩⟩

/-- A rule as the schema leaves it. -/
structure RuleDocument where
  rule : DeclarativeRule
  shaped : Shaped rule

structure ManifestDocument where
  id : Text
  version : Text
  title : Text
  description : Text
  rules : List RuleDocument

def RULE_FIELDS : List Text :=
  ["id".toList, "observation_type".toList, "detail_key".toList, "equals".toList, "title".toList, "description".toList,
    "category".toList, "severity".toList, "confidence".toList, "remediation".toList]

def MANIFEST_FIELDS : List Text :=
  ["schema".toList, "id".toList, "version".toList, "title".toList, "description".toList, "rules".toList]

def CATEGORIES : List (Text × FindingCategory) :=
  [("transport".toList, .transport), ("hardening".toList, .hardening), ("information_disclosure".toList, .information_disclosure)]

def SEVERITIES : List (Text × Severity) :=
  [("informational".toList, .informational), ("low".toList, .low), ("medium".toList, .medium), ("high".toList, .high),
    ("critical".toList, .critical)]

def CONFIDENCES : List (Text × FindingConfidence) := [("low".toList, .low), ("medium".toList, .medium), ("high".toList, .high)]

/-- `str | int | bool` -/
def scalar_of : Json → Option Scalar
  | .str t => some (.str t)
  | .int i => some (.int i)
  | .bool b => some (.bool b)
  | _ => none

/-- `str | None`, of a field that may be left out. -/
def optional_text : Option Json → Option (Option Text)
  | none | some .null => some none
  | some (.str t) => some (some t)
  | some _ => none

/-- A member of a document, which has to be there. -/
def field {α : Type} (members : List (Text × Json)) (key : String) (read : Json → Option α) : Option α :=
  (members.lookup key.toList).bind read

/-- `RuleDocument.model_validate` -/
def rule_document (document : Json) : Option RuleDocument := do
  let members ← members_of document
  guard (∀ member ∈ members, member.1 ∈ RULE_FIELDS)
  let rule : DeclarativeRule := {
    id := ← field members "id" text_of
    observation_type := ← field members "observation_type" text_of
    detail_key := ← field members "detail_key" text_of
    equals := ← field members "equals" scalar_of
    title := ← field members "title" text_of
    description := ← field members "description" text_of
    category := ← (← field members "category" text_of) |> CATEGORIES.lookup
    severity := ← (← field members "severity" text_of) |> SEVERITIES.lookup
    confidence := ← (← field members "confidence" text_of) |> CONFIDENCES.lookup
    remediation := ← optional_text (members.lookup "remediation".toList) }
  if shaped : Shaped rule then some ⟨rule, shaped⟩ else none

def items_of : Json → Option (List Json)
  | .list items => some items
  | _ => none

/-- `ManifestDocument.model_validate` -/
def manifest_document (document : Json) : Option ManifestDocument := do
  let members ← members_of document
  guard (∀ member ∈ members, member.1 ∈ MANIFEST_FIELDS)
  guard ((← field members "schema" text_of) = PLUGIN_SCHEMA)
  return {
    id := ← field members "id" text_of
    version := ← field members "version" text_of
    title := ← within 1 120 (← field members "title" text_of)
    description := ← within 1 500 (← field members "description" text_of)
    rules := ← (← field members "rules" items_of).mapM rule_document }

mutual

/-- Whether `_unique_object` takes every object of a document. -/
def unique : Json → Bool
  | .list items => unique_items items
  | .object members => decide (members.map Prod.fst).Nodup && unique_members members
  | _ => true

def unique_items : List Json → Bool
  | [] => true
  | item :: items => unique item && unique_items items

def unique_members : List (Text × Json) → Bool
  | [] => true
  | (_, value) :: members => unique value && unique_members members

end

/-! ### Loading -/

/-- A `PluginConfigurationError`; of an invalid document the rest of the message
    is the library's. -/
inductive PluginConfigurationError
  | message (text : Text)
  | invalid (opening : Text)
  deriving DecidableEq

/-- What a path resolves to; there is no content where it cannot be read. -/
structure ResolvedPath where
  is_relative_to_root : Bool := true
  is_file : Bool := true
  content : Option Bytes

structure PluginPath where
  name : Text
  is_symlink : Bool := false
  resolved : Option ResolvedPath

/-- A manifest that passed every check, with the bytes it was read from. -/
structure Manifest where
  document : ManifestDocument
  raw : Bytes
  id_matches : PLUGIN_ID document.id = true
  version_matches : VERSION document.version = true
  some_rules : document.rules ≠ []
  distinct : (document.rules.map fun rule => rule.rule.id).Nodup

def about (path : PluginPath) (words : String) : Text := "Detector plugin ".toList ++ path.name ++ words.toList

/-- `raise PluginConfigurationError(f"Detector plugin {path.name}{words}")` -/
def refuse {α : Type} (path : PluginPath) (words : String) : Except PluginConfigurationError α := .error (.message (about path words))

section
variable (library : Library) (settings : Settings)

/-- The bytes of a manifest, one more than its limit at most. -/
def read_manifest (path : PluginPath) : Except PluginConfigurationError Bytes :=
  if path.is_symlink then refuse path " may not be a symbolic link"
  else
    match path.resolved with
    | none => refuse path " is unavailable"
    | some resolved =>
      if !resolved.is_relative_to_root || !resolved.is_file then refuse path " escapes its configured directory"
      else
        match resolved.content with
        | none => refuse path " could not be read"
        | some content => .ok (content.take (settings.max_detector_plugin_bytes + 1))

def parse_manifest (raw : Bytes) : Option ManifestDocument := do
  let document ← library.loads raw
  guard (unique document)
  manifest_document document

/-- The manifest of a path, through every check of `_load_manifest`. -/
def accept_manifest (path : PluginPath) : Except PluginConfigurationError Manifest := do
  let raw ← read_manifest settings path
  if settings.max_detector_plugin_bytes < raw.length then
    refuse path (" exceeds the " ++ toString settings.max_detector_plugin_bytes ++ "-byte manifest limit")
  else
    match parse_manifest library raw with
    | none => .error (.invalid (about path " is invalid: "))
    | some document =>
      if id_matches : PLUGIN_ID document.id = true then
        if version_matches : VERSION document.version = true then
          if counted : document.rules ≠ [] ∧ document.rules.length ≤ settings.max_detector_plugin_rules then
            if distinct : (document.rules.map fun rule => rule.rule.id).Nodup then
              .ok ⟨document, raw, id_matches, version_matches, counted.1, distinct⟩
            else refuse path " has duplicate rule IDs"
          else refuse path (" must contain 1–" ++ toString settings.max_detector_plugin_rules ++ " rules")
        else refuse path " has an invalid version"
      else refuse path " must use an ID beginning with plugin."

/-- `DeclarativeDetector.__init__` -/
def Manifest.compiled (manifest : Manifest) : Declarative where
  id := manifest.document.id
  version := manifest.document.version ++ '+' :: (library.hexdigest manifest.raw).take 12
  rules := (manifest.document.rules.map RuleDocument.rule).insertionSort fun a b => a.id ≤ b.id
  finding_limit := settings.max_findings_per_detector
  id_matches := manifest.id_matches

/-- `_load_manifest` -/
def load_manifest (path : PluginPath) : Except PluginConfigurationError Declarative :=
  (accept_manifest library settings path).map (Manifest.compiled library settings)

/-- The configured directory. -/
inductive Directory
  | unavailable
  | file
  | paths (paths : List PluginPath)

/-- `load_declarative_detectors` -/
def load_declarative_detectors : Option Directory → Except PluginConfigurationError (List Declarative)
  | none => .ok []
  | some .unavailable => .error (.message "The configured detector plugin directory is unavailable".toList)
  | some .file => .error (.message "The configured detector plugin path is not a directory".toList)
  | some (.paths paths) =>
    if settings.max_detector_plugins < paths.length then
      .error (.message ("At most ".toList ++ dec settings.max_detector_plugins ++ " detector plugin manifests may be installed".toList))
    else do
      let detectors ← (paths.insertionSort fun a b => a.name ≤ b.name).mapM (load_manifest library settings)
      if (detectors.map Declarative.id).Nodup then return detectors.insertionSort fun a b => a.id ≤ b.id
      else throw (.message "Detector plugin IDs must be unique".toList)

end
end RedDock.Plugins
