import RedDock.StoredRows
import RedDock.Registry
import RedDock.FindingLifecycle

/-!
# Built-in detectors and their validation

Over a snapshot of stored rows, the findings of a built-in detector pass every
check of `_validated` but the two lengths, of a title and of a description.
-/
set_option autoImplicit false
namespace RedDock.BuiltInDetectors
open Text Detection Checks PlainFindings StoredRows
open Reconciliation (lookup_mem)

/-! ### Observations of a snapshot -/

section
variable {κ α : Type} [DecidableEq κ]

theorem mem_put {key : κ} {value : α} {entries : List (κ × α)} {entry : κ × α} (member : entry ∈ HttpHeaders.put key value entries) :
    entry = (key, value) ∨ entry ∈ entries := by
  induction entries with
  | nil => exact Or.inl (List.mem_singleton.mp member)
  | cons first entries ih =>
    unfold HttpHeaders.put at member
    split at member
    · exact (List.mem_cons.mp member).imp id (List.mem_cons_of_mem _)
    · rcases List.mem_cons.mp member with rfl | later
      · exact Or.inr List.mem_cons_self
      · exact (ih later).imp id (List.mem_cons_of_mem _)

theorem put_keys {key : κ} {value : α} {entries : List (κ × α)} (once : (entries.map Prod.fst).Nodup) :
    ((HttpHeaders.put key value entries).map Prod.fst).Nodup := by
  induction entries with
  | nil => simp [HttpHeaders.put]
  | cons first entries ih =>
    obtain ⟨own, rest⟩ := List.nodup_cons.mp once
    unfold HttpHeaders.put
    split
    · rename_i same
      rw [List.map_cons, List.nodup_cons, ← same]
      exact ⟨own, rest⟩
    · rename_i different
      rw [List.map_cons, List.nodup_cons]
      refine ⟨fun inside => ?_, ih rest⟩
      obtain ⟨entry, member, is⟩ := List.mem_map.mp inside
      rcases mem_put member with rfl | old
      · exact different is.symm
      · exact own (is ▸ List.mem_map.mpr ⟨entry, old, rfl⟩)

end

/-- What is kept of the observations of a subject. -/
structure Latest (observations : List ObservationView) (latest : List (HttpHeaders.Subject × ObservationView)) : Prop where
  once : (latest.map Prod.fst).Nodup
  own : ∀ entry ∈ latest, entry.1 = HttpHeaders.subject_of entry.2 ∧ entry.2 ∈ observations

theorem latest_by_subject_latest (observations : List ObservationView) :
    Latest observations (HttpHeaders.latest_by_subject observations) := by
  have folded : ∀ (rest : List ObservationView) (latest : List (HttpHeaders.Subject × ObservationView)),
      (∀ observation ∈ rest, observation ∈ observations) → Latest observations latest →
        Latest observations (rest.foldl HttpHeaders.keep_latest latest) := by
    intro rest
    induction rest with
    | nil => exact fun _ _ kept => kept
    | cons observation rest ih =>
      intro latest inside kept
      obtain ⟨here, later⟩ := List.forall_mem_cons.mp inside
      have replaced : Latest observations (HttpHeaders.put (HttpHeaders.subject_of observation) observation latest) := by
        refine ⟨put_keys kept.once, fun entry member => ?_⟩
        rcases mem_put member with rfl | old
        · exact ⟨rfl, here⟩
        · exact kept.own entry old
      refine ih _ later ?_
      unfold HttpHeaders.keep_latest
      split
      · exact replaced
      · split
        · exact replaced
        · exact kept
  exact folded observations [] (fun _ member => member) ⟨by simp, by simp⟩

/-- The latest observations of a type, one for each subject. -/
theorem latest_of_type_latest (context : DetectionContext) (observation_type : Text) :
    ((HttpHeaders.latest_of_type context observation_type).map HttpHeaders.subject_of).Nodup ∧
      ∀ observation ∈ HttpHeaders.latest_of_type context observation_type, observation ∈ context.observations := by
  have latest := latest_by_subject_latest (ServiceRules.of_type context observation_type)
  have perm : (HttpHeaders.latest_of_type context observation_type).Perm
      ((HttpHeaders.latest_by_subject (ServiceRules.of_type context observation_type)).map Prod.snd) := List.perm_insertionSort _ _
  constructor
  · refine (perm.map _).nodup_iff.mpr ?_
    rw [List.map_map]
    have same : (HttpHeaders.latest_by_subject (ServiceRules.of_type context observation_type)).map
        (HttpHeaders.subject_of ∘ Prod.snd) =
        (HttpHeaders.latest_by_subject (ServiceRules.of_type context observation_type)).map Prod.fst :=
      List.map_congr_left fun entry member => (latest.own entry member).1.symm
    rw [same]
    exact latest.once
  · intro observation member
    obtain ⟨entry, listed, rfl⟩ := List.mem_map.mp (perm.mem_iff.mp member)
    exact (List.mem_filter.mp (latest.own entry listed).2).1

/-! ### Identities -/

/-- The rules of the built-in detectors. -/
def RULE_IDS : List Text :=
  HttpHeaders.ALL_RULES.map HttpHeaders.Rule.rule_id ++ ServiceRules.PROTOCOL_RULES.map ServiceRules.ProtocolRule.rule_id ++
    [ServiceRules.VERSION_DISCLOSURE, TlsCertificates.certificate_expired.rule_id, TlsCertificates.certificate_not_trusted.rule_id]

/-- No two fingerprints of one detector's findings about the subjects of a
    snapshot collide. -/
def CollisionFree (runtime : Runtime) (context : DetectionContext) (detector_id : Text) : Prop :=
  ∀ rule ∈ RULE_IDS, ∀ rule' ∈ RULE_IDS, ∀ asset_id asset_id' service_id service_id', Known context asset_id service_id →
    Known context asset_id' service_id' →
    runtime.sha256 (fingerprint_text detector_id rule (asset_with context asset_id) (service_with context service_id) ABSENT) =
      runtime.sha256 (fingerprint_text detector_id rule' (asset_with context asset_id') (service_with context service_id') ABSENT) →
    fingerprint_text detector_id rule (asset_with context asset_id) (service_with context service_id) ABSENT =
      fingerprint_text detector_id rule' (asset_with context asset_id') (service_with context service_id') ABSENT

section
variable {runtime : Runtime} {context : DetectionContext}

/-- Findings of one detector, each of a rule and a subject of its own. -/
theorem identities_nodup {detector_id : Text} (wellformed : WellFormed context)
    (collision_free : CollisionFree runtime context detector_id) {all : List Parts}
    (known : ∀ parts ∈ all, Known context parts.asset_id parts.service_id) (rules : ∀ parts ∈ all, parts.rule_id ∈ RULE_IDS)
    (keys : (all.map fun parts => (parts.rule_id, parts.asset_id, parts.service_id)).Nodup) :
    (all.map fun parts => identity runtime detector_id parts.finding context).Nodup := by
  refine List.Nodup.map_on (fun first member second inside same => ?_) (List.Nodup.of_map _ keys)
  rw [identity_finding, identity_finding, Except.ok.injEq] at same
  have texts := collision_free _ (rules first member) _ (rules second inside) _ _ _ _ (known first member) (known second inside) same
  have separated : ∀ rule ∈ RULE_IDS, '\x1f' ∉ rule := by decide +kernel
  have one := subject_of_text wellformed (separated _ (rules first member)) (separated _ (rules second inside))
    (known first member) (known second inside) texts
  exact List.inj_on_of_nodup_map keys member inside (Prod.ext one.1 (Prod.ext one.2.1 one.2.2))

/-- Keys of findings that are made for one item after another. -/
theorem keys_nodup {α β : Type} {items : List α} {make : α → List Parts} {subject : α → β}
    (once : (items.map subject).Nodup) (of_item : ∀ item ∈ items, ∀ parts ∈ make item, ∀ other ∈ items, ∀ parts' ∈ make other,
      (parts.asset_id, parts.service_id) = (parts'.asset_id, parts'.service_id) → subject item = subject other)
    (rules : ∀ item ∈ items, ((make item).map Parts.rule_id).Nodup) :
    ((items.flatMap make).map fun parts => (parts.rule_id, parts.asset_id, parts.service_id)).Nodup := by
  rw [List.map_flatMap]
  refine List.nodup_flatMap.mpr ⟨fun item member => ?_, ?_⟩
  · refine List.Nodup.of_map Prod.fst ?_
    rw [List.map_map]
    exact rules item member
  · refine (List.pairwise_map.mp once).imp_of_mem fun {first second} member inside different => ?_
    intro key left right
    obtain ⟨parts, made, rfl⟩ := List.mem_map.mp left
    obtain ⟨parts', made', same⟩ := List.mem_map.mp right
    refine different (of_item first member parts made second inside parts' made' ?_)
    rw [Prod.mk.injEq] at same
    exact same.2.symm

/-- What is known of a subject, as the checks of a finding ask for it. -/
theorem known_subject (wellformed : WellFormed context) {asset_id service_id : Option Int} (known : Known context asset_id service_id) :
    (asset_id.isSome = true → (asset_with context asset_id).isSome = true) ∧
      (service_id.isSome = true → ∃ service, service_with context service_id = some service ∧
        ∀ asset, asset_with context asset_id = some asset → asset.id = service.asset_id) := by
  refine ⟨(known.found wellformed).1, fun given => ?_⟩
  obtain ⟨service, found, owner⟩ := (known.found wellformed).2 given
  refine ⟨service, found, fun asset here => ?_⟩
  have own := (asset_with_some here).2
  rw [owner] at own
  exact (Option.some.inj own).symm

end

theorem strip_ne_nil {t : Text} {c : Char} (member : c ∈ t) (solid : isSpace c = false) : strip t ≠ [] := by
  intro nothing
  have spaces : ∀ d ∈ t.dropWhile isSpace, isSpace d = true := by
    rw [strip, List.rdropWhile_eq_nil_iff] at nothing
    exact nothing
  have all : t.dropWhile isSpace = [] := by
    cases rest : t.dropWhile isSpace with
    | nil => rfl
    | cons d ds =>
      have head : isSpace d = false := by simpa [rest] using List.head_dropWhile_not isSpace (show t.dropWhile isSpace ≠ [] by simp [rest])
      rw [spaces d (by simp [rest])] at head
      cases head
  exact absurd (List.dropWhile_eq_nil_iff.mp all c member) (by simp [solid])

/-- A text of the source is at most this long. -/
def LITERAL : Nat := 400

theorem literal_length {characters : List Char} {n : Nat} (is : characters.length = n) :
    (String.ofList characters).toList.length = n := by
  rw [String.toList_ofList]
  exact is

theorem append_length {s t : String} {m n k : Nat} (first : s.toList.length = m) (second : t.toList.length = n) (sum : m + n = k) :
    (s ++ t).toList.length = k := by
  rw [String.toList_append, List.length_append, first, second]
  exact sum

theorem literal_short {characters : List Char} (short : characters.length ≤ LITERAL) :
    (String.ofList characters).toList.length ≤ LITERAL := by
  rw [String.toList_ofList]
  exact short

theorem literal_proper {characters : List Char} (proper : RULE_ID characters = true) : RULE_ID (String.ofList characters).toList = true := by
  rw [String.toList_ofList]
  exact proper

theorem literal_solid {characters : List Char} (solid : characters.any (fun c => !isSpace c) = true) :
    (String.ofList characters).toList.any (fun c => !isSpace c) = true := by
  rw [String.toList_ofList]
  exact solid

theorem append_short {s t : String} {limit : Nat} (first : s.toList.length ≤ LITERAL) (second : t.toList.length ≤ LITERAL)
    (fits : LITERAL + LITERAL ≤ limit) : (s ++ t).toList.length ≤ limit := by
  rw [String.toList_append, List.length_append]
  omega

/-! ### http.security_headers -/

section Http
variable {casing : ServiceRules.Casing} {context : DetectionContext}

def http_parts (response : ObservationView) (headers : HttpHeaders.Headers) (status : HttpHeaders.Status) (origin : Text)
    (rule : HttpHeaders.Rule) : Parts where
  rule_id := rule.rule_id
  title := HttpHeaders.title rule origin
  description := HttpHeaders.description rule origin status (HttpHeaders.observed headers)
  category := rule.category
  severity := rule.severity
  confidence := rule.confidence
  cited := HttpHeaders.evidence rule response headers
  asset_id := response.asset_id
  service_id := response.service_id
  remediation := rule.remediation.toList
  detail := [("status".toList, status.json), ServiceRules.discovery_run response] ++
    (rule.scheme.map fun scheme => ("scheme".toList, Json.str scheme)).toList ++
    (HttpHeaders.related rule headers).map fun found => (found.1, Json.str found.2.1)
  references := []

variable (casing context) in
/-- The findings of a response. -/
def http_of (response : ObservationView) : List Parts :=
  (HttpHeaders.fired casing context response).map fun found =>
    http_parts response (HttpHeaders.given found.2 (HttpHeaders.headers_for casing context response)) found.1
      (HttpHeaders.origin context response) found.2

theorem http_detect : HttpHeaders.detect casing context =
    ((HttpHeaders.latest_responses context).flatMap (http_of casing context)).map Parts.finding := by
  rw [List.map_flatMap]
  refine List.flatMap_congr fun response _ => ?_
  rw [http_of, List.map_map]
  rfl

variable (casing context) in
/-- A response fires rules of the table, each at most once. -/
theorem fired_rules (response : ObservationView) :
    ((HttpHeaders.fired casing context response).map Prod.snd).Sublist HttpHeaders.ALL_RULES := by
  have transport : ∀ examined headers scheme status, (HttpHeaders.transport_rules casing examined headers scheme status).Sublist
      [HttpHeaders.plaintext_http, HttpHeaders.hsts_not_set] := by
    intro examined headers scheme status
    unfold HttpHeaders.transport_rules
    split
    · split
      · exact List.nil_sublist _
      · exact .cons_cons _ (List.nil_sublist _)
    · split
      · exact .cons _ (.refl _)
      · exact List.nil_sublist _
  have optional : ∀ (test : Prop) [Decidable test] (rule : HttpHeaders.Rule), (if test then [rule] else []).Sublist [rule] := by
    intro test _ rule
    split
    · exact .refl _
    · exact List.nil_sublist _
  have content : ∀ examined headers, (HttpHeaders.content_rules casing examined headers).Sublist HttpHeaders.CONTENT_RULES :=
    fun examined headers => ((optional _ _).append (optional _ _)).append (optional _ _)
  simp only [HttpHeaders.fired]
  split
  · exact List.nil_sublist _
  · split
    · rw [List.map_map]
      refine (List.map_id _).symm ▸ (transport _ _ _ _).append ?_
      split
      · exact content _ _
      · exact List.nil_sublist _
    · exact List.nil_sublist _

theorem http_remediation : ∀ rule ∈ HttpHeaders.ALL_RULES, rule.remediation.toList.length ≤ MAX_REMEDIATION := by
  refine List.forall_mem_cons.mpr ⟨?_, List.forall_mem_cons.mpr ⟨?_, List.forall_mem_cons.mpr ⟨?_,
    List.forall_mem_cons.mpr ⟨?_, List.forall_mem_singleton.mpr ?_⟩⟩⟩⟩
  · exact append_short (literal_short (by decide)) (literal_short (by decide)) (by decide)
  · exact append_short (literal_short (by decide)) (literal_short (by decide)) (by decide)
  · exact le_trans (b := LITERAL) (literal_short (by decide)) (by decide)
  · exact append_short (literal_short (by decide)) (literal_short (by decide)) (by decide)
  · exact append_short (literal_short (by decide)) (literal_short (by decide)) (by decide)

/-- The texts of every rule are not blank. -/
theorem rules_proper : ∀ rule ∈ HttpHeaders.ALL_RULES, RULE_ID rule.rule_id = true ∧ rule.related.length ≤ 1 ∧
    rule.title.toList.any (fun c => !isSpace c) = true ∧
    rule.description.any (fun piece => match piece with
      | .text t => t.toList.any fun c => !isSpace c
      | _ => false) = true := by
  have described : ∀ {characters : List Char} {pieces : List HttpHeaders.Piece}, characters.any (fun c => !isSpace c) = true →
      (HttpHeaders.Piece.text (String.ofList characters) :: pieces).any (fun piece => match piece with
        | .text t => t.toList.any fun c => !isSpace c
        | _ => false) = true := fun solid => List.any_eq_true.mpr ⟨_, List.mem_cons_self, literal_solid solid⟩
  refine List.forall_mem_cons.mpr ⟨?_, List.forall_mem_cons.mpr ⟨?_, List.forall_mem_cons.mpr ⟨?_, List.forall_mem_cons.mpr ⟨?_,
    List.forall_mem_singleton.mpr ?_⟩⟩⟩⟩
  all_goals exact ⟨literal_proper (by decide), by decide, literal_solid (by decide), described (by decide)⟩

theorem mem_headers_for {response : ObservationView} {header : Text × Text × Int}
    (member : header ∈ HttpHeaders.headers_for casing context response) :
    header.2.2 ∈ context.observations.map ObservationView.id := by
  refine List.foldlRecOn (motive := fun (headers : HttpHeaders.Headers) => ∀ header ∈ headers,
    header.2.2 ∈ context.observations.map ObservationView.id) (ServiceRules.of_type context "http_header".toList) _ (by simp)
    (fun headers known observation listed header member => ?_) header member
  split at member
  · exact known header member
  · split at member
    · rcases mem_put member with rfl | old
      · exact List.mem_map.mpr ⟨observation, (List.mem_filter.mp listed).1, rfl⟩
      · exact known header old
    · exact known header member

/-- The cited observations: the response and the related headers. -/
theorem evidence_cited (rule : HttpHeaders.Rule) (response : ObservationView) (headers : HttpHeaders.Headers) :
    HttpHeaders.evidence rule response headers ≠ [] ∧
      (HttpHeaders.evidence rule response headers).length ≤ 1 + rule.related.length ∧
      ∀ id ∈ HttpHeaders.evidence rule response headers, id = response.id ∨ ∃ header ∈ headers, header.2.2 = id := by
  have folded : ∀ (ids cited : List Int),
      (cited ≠ [] → ids.foldl (fun cited id => if id ∈ cited then cited else cited ++ [id]) cited ≠ []) ∧
      (ids.foldl (fun cited id => if id ∈ cited then cited else cited ++ [id]) cited).length ≤ cited.length + ids.length ∧
      ∀ id ∈ ids.foldl (fun cited id => if id ∈ cited then cited else cited ++ [id]) cited, id ∈ cited ∨ id ∈ ids := by
    intro ids
    induction ids with
    | nil => exact fun cited => ⟨id, by simp, fun id member => Or.inl member⟩
    | cons first ids ih =>
      intro cited
      by_cases known : first ∈ cited
      · obtain ⟨nonempty, short, inside⟩ := ih cited
        simp only [List.foldl_cons, known, if_true, List.length_cons]
        exact ⟨nonempty, by omega, fun id member => (inside id member).imp (fun h => h) (List.mem_cons_of_mem _)⟩
      · obtain ⟨nonempty, short, inside⟩ := ih (cited ++ [first])
        simp only [List.foldl_cons, known, if_false, List.length_cons]
        rw [List.length_append, List.length_singleton] at short
        refine ⟨fun _ => nonempty (by simp), by omega, fun id member => ?_⟩
        rcases inside id member with old | later
        · rcases List.mem_append.mp old with here | here
          · exact Or.inl here
          · exact Or.inr (List.mem_singleton.mp here ▸ List.mem_cons_self)
        · exact Or.inr (List.mem_cons_of_mem _ later)
  have related_ids : ∀ id ∈ (HttpHeaders.related rule headers).map (fun found => found.2.2), ∃ header ∈ headers, header.2.2 = id := by
    intro id member
    obtain ⟨found, listed, rfl⟩ := List.mem_map.mp member
    obtain ⟨name, _, given⟩ := List.mem_filterMap.mp listed
    obtain ⟨entry, here, rfl⟩ := Option.map_eq_some_iff.mp given
    exact ⟨(name, entry), lookup_mem here, rfl⟩
  have count : (HttpHeaders.related rule headers).length ≤ rule.related.length := List.length_filterMap_le ..
  obtain ⟨nonempty, short, inside⟩ := folded ((HttpHeaders.related rule headers).map fun found => found.2.2) [response.id]
  refine ⟨nonempty (by simp), ?_, fun id member => ?_⟩
  · rw [List.length_map, List.length_singleton] at short
    exact short.trans (by omega)
  · rcases inside id member with here | later
    · exact Or.inl (List.mem_singleton.mp here)
    · exact Or.inr (related_ids id later)

/-- The number of characters a piece of a description takes. -/
def size (origin status observed : Nat) : HttpHeaders.Piece → Nat
  | .text t => t.toList.length
  | .origin => origin
  | .status => status
  | .observed => observed

theorem description_length (rule : HttpHeaders.Rule) (origin observed : Text) (status : HttpHeaders.Status) :
    (HttpHeaders.description rule origin status observed).length =
      (rule.description.map (size origin.length status.shown.length observed.length)).sum := by
  rw [HttpHeaders.description, List.length_flatMap]
  congr 1
  refine List.map_congr_left fun piece _ => ?_
  cases piece <;> rfl

variable (casing context) in
/-- The texts of the rules that fire on the latest responses have room for the
    origin, the status and the recorded header. -/
def HttpShort : Prop :=
  ∀ response ∈ HttpHeaders.latest_responses context, ∀ found ∈ HttpHeaders.fired casing context response,
    (HttpHeaders.origin context response).length + found.2.title.toList.length ≤ MAX_TITLE ∧
    (found.2.description.map (size (HttpHeaders.origin context response).length found.1.shown.length
      (HttpHeaders.observed (HttpHeaders.given found.2 (HttpHeaders.headers_for casing context response))).length)).sum ≤ MAX_DESCRIPTION

theorem http_fits : (∀ parts ∈ (HttpHeaders.latest_responses context).flatMap (http_of casing context), Fits parts) ↔
    HttpShort casing context := by
  constructor
  · intro fits response listed found fired
    have here := fits _ (List.mem_flatMap.mpr ⟨response, listed, List.mem_map.mpr ⟨found, fired, rfl⟩⟩)
    rw [Fits, http_parts, HttpHeaders.title, List.length_append, description_length] at here
    exact here
  · intro short parts member
    obtain ⟨response, listed, member⟩ := List.mem_flatMap.mp member
    obtain ⟨found, fired, rfl⟩ := List.mem_map.mp member
    rw [Fits, http_parts, HttpHeaders.title, List.length_append, description_length]
    exact short response listed found fired

theorem http_proper {runtime : Runtime} (wellformed : WellFormed context) (enough : 2 ≤ runtime.max_evidence_per_finding) :
    ∀ parts ∈ (HttpHeaders.latest_responses context).flatMap (http_of casing context), Proper runtime context parts := by
  intro parts member
  obtain ⟨response, listed, member⟩ := List.mem_flatMap.mp member
  obtain ⟨found, fired, rfl⟩ := List.mem_map.mp member
  have rule : found.2 ∈ HttpHeaders.ALL_RULES := (fired_rules casing context response).subset (List.mem_map.mpr ⟨found, fired, rfl⟩)
  obtain ⟨rule_id, related, title, description⟩ := rules_proper found.2 rule
  have recorded := (latest_of_type_latest context _).2 response listed
  have subject := known_subject wellformed (wellformed.subjects response recorded)
  obtain ⟨cited, few, inside⟩ := evidence_cited found.2 response
    (HttpHeaders.given found.2 (HttpHeaders.headers_for casing context response))
  refine ⟨rule_id, ?_, ?_, http_remediation found.2 rule, subject.1, subject.2, cited, ?_, ?_⟩
  · obtain ⟨c, here, solid⟩ := List.any_eq_true.mp title
    exact strip_ne_nil (List.mem_append_right _ here) (by simpa using solid)
  · obtain ⟨piece, here, solid⟩ := List.any_eq_true.mp description
    cases piece with
    | text t =>
      obtain ⟨c, inside, solid⟩ := List.any_eq_true.mp solid
      exact strip_ne_nil (List.mem_flatMap.mpr ⟨_, here, inside⟩) (by simpa using solid)
    | origin => cases solid
    | status => cases solid
    | observed => cases solid
  · show (HttpHeaders.evidence _ _ _).length ≤ _
    omega
  · intro id member
    rcases inside id member with rfl | ⟨header, given, rfl⟩
    · exact List.mem_map.mpr ⟨response, recorded, rfl⟩
    · unfold HttpHeaders.given at given
      split at given
      · cases given
      · exact mem_headers_for given

theorem http_known (wellformed : WellFormed context) : ∀ parts ∈ (HttpHeaders.latest_responses context).flatMap (http_of casing context),
    Known context parts.asset_id parts.service_id ∧ parts.rule_id ∈ RULE_IDS := by
  intro parts member
  obtain ⟨response, listed, member⟩ := List.mem_flatMap.mp member
  obtain ⟨found, fired, rfl⟩ := List.mem_map.mp member
  have rule : found.2 ∈ HttpHeaders.ALL_RULES := (fired_rules casing context response).subset (List.mem_map.mpr ⟨found, fired, rfl⟩)
  exact ⟨wellformed.subjects response ((latest_of_type_latest context _).2 response listed),
    List.mem_append_left _ (List.mem_append_left _ (List.mem_map.mpr ⟨found.2, rule, rfl⟩))⟩

theorem http_keys : (((HttpHeaders.latest_responses context).flatMap (http_of casing context)).map fun parts =>
    (parts.rule_id, parts.asset_id, parts.service_id)).Nodup := by
  refine keys_nodup (latest_of_type_latest context _).1 ?_ ?_
  · intro response _ parts member other _ parts' member' same
    obtain ⟨found, _, rfl⟩ := List.mem_map.mp member
    obtain ⟨found', _, rfl⟩ := List.mem_map.mp member'
    exact same
  · intro response _
    have once : (HttpHeaders.ALL_RULES.map HttpHeaders.Rule.rule_id).Nodup := by decide +kernel
    rw [http_of, List.map_map]
    have rules := (fired_rules casing context response).map HttpHeaders.Rule.rule_id
    rw [List.map_map] at rules
    exact once.sublist rules

end Http
/-! ### service.rules -/

section Service
variable {casing : ServiceRules.Casing} {context : DetectionContext}

variable (casing) in
def protocol_parts (rule : ServiceRules.ProtocolRule) (asset : AssetView) (service : ServiceView) (observation : ObservationView) :
    Parts where
  rule_id := rule.rule_id
  title := ServiceRules.format casing asset service rule.title
  description := ServiceRules.format casing asset service rule.description
  category := .transport
  severity := rule.severity
  confidence := rule.confidence
  cited := [observation.id]
  asset_id := some asset.id
  service_id := some service.id
  remediation := rule.remediation.toList
  detail := [
    ("service_name".toList, ServiceRules.json_of service.service_name),
    ("product".toList, ServiceRules.json_of service.product),
    ("version".toList, ServiceRules.json_of service.version),
    ServiceRules.discovery_run observation]
  references := []

variable (casing context) in
def version_parts (asset : AssetView) (service : ServiceView) (observation : ObservationView) : Parts where
  rule_id := ServiceRules.VERSION_DISCLOSURE
  title := ServiceRules.version_title casing asset service
  description := ServiceRules.version_description casing context asset service
  category := .information_disclosure
  severity := .informational
  confidence := .medium
  cited := [observation.id]
  asset_id := some asset.id
  service_id := some service.id
  remediation := ServiceRules.VERSION_REMEDIATION.toList
  detail := [
    ("product".toList, ServiceRules.json_of service.product),
    ("version".toList, ServiceRules.json_of service.version),
    ServiceRules.discovery_run observation]
  references := ServiceRules.enrich context service

theorem version_finding (asset : AssetView) (service : ServiceView) (observation : ObservationView) :
    (version_parts casing context asset service observation).finding = ServiceRules.version casing context asset service observation := by
  simp only [Parts.finding, version_parts, ServiceRules.version, Object.optional_int, Option.map_some, Option.getD_some]

/-- The rules of a service's protocol. -/
def protocol_rules (casing : ServiceRules.Casing) (service : ServiceView) : List ServiceRules.ProtocolRule :=
  ServiceRules.PROTOCOL_RULES.filter fun rule => casing.lower (strip (service.service_name.getD [])) = rule.service_name

/-- A service that discloses its product and version. -/
def discloses (service : ServiceView) : Bool := ServiceRules.named service.product && ServiceRules.named service.version

variable (casing context) in
/-- The findings of a service with an identification. -/
def service_parts (asset : AssetView) (service : ServiceView) (observation : ObservationView) : List Parts :=
  (protocol_rules casing service).map (fun rule => protocol_parts casing rule asset service observation) ++
    if discloses service then [version_parts casing context asset service observation] else []

/-- The identification that the detector has of an open service. -/
def identification (context : DetectionContext) (service : ServiceView) : Option ObservationView :=
  if service.state ∉ ServiceRules.OPEN_STATES then none else (ServiceRules.identifications context).lookup service.id

/-- The services of a snapshot, each with its asset. -/
def located (context : DetectionContext) : List (AssetView × ServiceView) :=
  context.assets.flatMap fun asset => asset.services.map fun service => (asset, service)

variable (casing context) in
def service_of (place : AssetView × ServiceView) : List Parts :=
  match identification context place.2 with
  | none => []
  | some observation => service_parts casing context place.1 place.2 observation

theorem service_detect : ServiceRules.detect casing context = ((located context).flatMap (service_of casing context)).map Parts.finding := by
  rw [located, List.flatMap_assoc, List.map_flatMap]
  refine List.flatMap_congr fun asset _ => ?_
  rw [List.flatMap_map, List.map_flatMap]
  refine List.flatMap_congr fun service _ => ?_
  by_cases closed : service.state ∉ ServiceRules.OPEN_STATES
  · simp [service_of, identification, closed]
  · simp only [service_of, identification, closed, if_false]
    cases (ServiceRules.identifications context).lookup service.id with
    | none => rfl
    | some observation =>
      show ServiceRules.for_service casing context asset service observation = (service_parts casing context asset service observation).map _
      rw [service_parts, List.map_append, List.map_map, ServiceRules.for_service]
      by_cases disclosed : discloses service = true
      · rw [if_pos disclosed, if_pos (show (_ && _) = true from disclosed), List.map_singleton, version_finding]
        rfl
      · rw [if_neg disclosed, if_neg (show ¬(_ && _) = true from disclosed)]
        rfl

theorem mem_located {place : AssetView × ServiceView} : place ∈ located context ↔
    place.1 ∈ context.assets ∧ place.2 ∈ place.1.services := by
  simp only [located, List.mem_flatMap, List.mem_map]
  constructor
  · rintro ⟨asset, listed, service, inside, rfl⟩
    exact ⟨listed, inside⟩
  · rintro ⟨listed, inside⟩
    exact ⟨place.1, listed, place.2, inside, rfl⟩

theorem identification_mem {service : ServiceView} {observation : ObservationView}
    (found : identification context service = some observation) : observation ∈ context.observations := by
  have kept : ∀ entry ∈ ServiceRules.identifications context, entry.2 ∈ context.observations := by
    refine List.foldlRecOn (motive := fun (kept : List (Int × ObservationView)) => ∀ entry ∈ kept, entry.2 ∈ context.observations)
      (ServiceRules.of_type context ServiceRules.IDENTIFICATION) _ (by simp) fun kept known observation listed => ?_
    intro entry member
    have here : observation ∈ context.observations := (List.mem_filter.mp listed).1
    unfold ServiceRules.keep at member
    split at member
    · exact known entry member
    · split at member
      · exact known entry member
      · rename_i newest is
        rcases List.mem_cons.mp member with rfl | old
        · unfold ServiceRules.newer at is
          split at is
          · cases is
            exact here
          · rename_i current looked
            split at is
            · cases is
              exact here
            · cases is
              exact known _ (lookup_mem looked)
        · exact known entry old
  unfold identification at found
  split at found
  · cases found
  · exact kept _ (lookup_mem found)

/-- The texts of every protocol rule are not blank. -/
theorem protocol_proper : ∀ rule ∈ ServiceRules.PROTOCOL_RULES, RULE_ID rule.rule_id = true ∧
    rule.title.any (fun piece => match piece with
      | .text t => t.toList.any fun c => !isSpace c
      | _ => false) = true ∧
    rule.description.any (fun piece => match piece with
      | .text t => t.toList.any fun c => !isSpace c
      | _ => false) = true := by
  refine List.forall_mem_cons.mpr ⟨?_, List.forall_mem_singleton.mpr ?_⟩
  all_goals
    refine ⟨literal_proper (by decide), List.any_eq_true.mpr ⟨_, List.mem_cons_self, literal_solid (by decide)⟩,
      List.any_eq_true.mpr ⟨_, List.mem_cons_of_mem _ List.mem_cons_self, literal_solid (by decide)⟩⟩

theorem protocol_remediation : ∀ rule ∈ ServiceRules.PROTOCOL_RULES, rule.remediation.toList.length ≤ MAX_REMEDIATION := by
  refine List.forall_mem_cons.mpr ⟨?_, List.forall_mem_singleton.mpr ?_⟩
  · exact le_trans (b := LITERAL) (literal_short (by decide)) (by decide)
  · exact le_trans (b := LITERAL) (literal_short (by decide)) (by decide)

theorem version_remediation : ServiceRules.VERSION_REMEDIATION.toList.length ≤ MAX_REMEDIATION :=
  append_short (literal_short (by decide)) (literal_short (by decide)) (by decide)

theorem format_nonblank {asset : AssetView} {service : ServiceView} {pieces : List ServiceRules.Piece}
    (nonblank : pieces.any (fun piece => match piece with
      | .text t => t.toList.any fun c => !isSpace c
      | _ => false) = true) : strip (ServiceRules.format casing asset service pieces) ≠ [] := by
  obtain ⟨piece, here, solid⟩ := List.any_eq_true.mp nonblank
  cases piece with
  | text t =>
    obtain ⟨c, inside, solid⟩ := List.any_eq_true.mp solid
    exact strip_ne_nil (List.mem_flatMap.mpr ⟨_, here, inside⟩) (by simpa using solid)
  | asset => cases solid
  | endpoint => cases solid
  | identified => cases solid

theorem known_place {place : AssetView × ServiceView} (located : place ∈ located context) :
    Known context (some place.1.id) (some place.2.id) := by
  obtain ⟨listed, inside⟩ := mem_located.mp located
  exact ⟨fun id same => ⟨place.1, listed, Option.some.inj same⟩,
    fun id same => ⟨place.1, listed, rfl, place.2, inside, Option.some.inj same⟩⟩

theorem service_proper {runtime : Runtime} (wellformed : WellFormed context) (enough : 2 ≤ runtime.max_evidence_per_finding) :
    ∀ parts ∈ (located context).flatMap (service_of casing context), Proper runtime context parts := by
  intro parts member
  obtain ⟨⟨asset, service⟩, place, member⟩ := List.mem_flatMap.mp member
  obtain ⟨listed, inside⟩ := mem_located.mp place
  unfold service_of at member
  split at member
  · cases member
  rename_i observation found
  have recorded := identification_mem found
  have subject := known_subject wellformed (known_place place)
  have cites : ∀ id ∈ [observation.id], id ∈ context.observations.map ObservationView.id := by
    intro id here
    rw [List.mem_singleton.mp here]
    exact List.mem_map.mpr ⟨observation, recorded, rfl⟩
  rcases List.mem_append.mp member with here | here
  · obtain ⟨rule, fires, rfl⟩ := List.mem_map.mp here
    have rule_listed := (List.mem_filter.mp fires).1
    obtain ⟨rule_id, title, description⟩ := protocol_proper rule rule_listed
    exact ⟨rule_id, format_nonblank title, format_nonblank description, protocol_remediation rule rule_listed, subject.1, subject.2,
      List.cons_ne_nil _ _, (by decide : 1 ≤ 2).trans enough, cites⟩
  · split at here
    · rw [List.mem_singleton.mp here, version_parts]
      have rule_id : RULE_ID ServiceRules.VERSION_DISCLOSURE = true := by decide +kernel
      have title : strip (ServiceRules.version_title casing asset service) ≠ [] := by
        have inside : 'd' ∈ " discloses its version".toList := by decide
        exact strip_ne_nil (List.mem_append_right _ inside) (by decide)
      have description : strip (ServiceRules.version_description casing context asset service) ≠ [] := by
        have inside : 'd' ∈ " identified the service on ".toList := by decide
        have member : 'd' ∈ ServiceRules.version_description casing context asset service := by
          simp only [ServiceRules.version_description, List.mem_append]
          exact Or.inl (Or.inl (Or.inl (Or.inl (Or.inl (Or.inl (Or.inl (Or.inr inside)))))))
        exact strip_ne_nil member (by decide)
      have remediation := version_remediation
      generalize ServiceRules.VERSION_REMEDIATION.toList = advice at remediation ⊢
      exact ⟨rule_id, title, description, remediation, subject.1, subject.2, List.cons_ne_nil _ _,
        (by decide : 1 ≤ 2).trans enough, cites⟩
    · cases here

theorem service_known : ∀ parts ∈ (located context).flatMap (service_of casing context),
    Known context parts.asset_id parts.service_id ∧ parts.rule_id ∈ RULE_IDS := by
  intro parts member
  obtain ⟨place, located, member⟩ := List.mem_flatMap.mp member
  have known := known_place located
  unfold service_of at member
  split at member
  · cases member
  · rcases List.mem_append.mp member with here | here
    · obtain ⟨rule, fires, rfl⟩ := List.mem_map.mp here
      have table : rule.rule_id ∈ ServiceRules.PROTOCOL_RULES.map ServiceRules.ProtocolRule.rule_id :=
        List.mem_map.mpr ⟨rule, (List.mem_filter.mp fires).1, rfl⟩
      exact ⟨known, List.mem_append_left _ (List.mem_append_right _ table)⟩
    · split at here
      · rw [List.mem_singleton.mp here, version_parts]
        exact ⟨known, List.mem_append_right _ List.mem_cons_self⟩
      · cases here

theorem service_keys (wellformed : WellFormed context) : (((located context).flatMap (service_of casing context)).map fun parts =>
    (parts.rule_id, parts.asset_id, parts.service_id)).Nodup := by
  have of_place : ∀ place : AssetView × ServiceView, ∀ parts ∈ service_of casing context place, parts.service_id = some place.2.id := by
    intro place parts member
    unfold service_of at member
    split at member
    · cases member
    · rcases List.mem_append.mp member with here | here
      · obtain ⟨rule, _, rfl⟩ := List.mem_map.mp here
        rfl
      · split at here
        · rw [List.mem_singleton.mp here, version_parts]
        · cases here
  have once : ((located context).map fun place => place.2.id).Nodup := by
    have same : (located context).map (fun place => place.2.id) = (services_of context).map ServiceView.id := by
      rw [located, services_of, List.map_flatMap, List.map_flatMap]
      refine List.flatMap_congr fun asset _ => ?_
      rw [List.map_map]
      rfl
    rw [same]
    exact wellformed.service_ids
  refine keys_nodup once ?_ ?_
  · intro place _ parts member other _ parts' member' same
    rw [of_place place parts member, of_place other parts' member', Prod.mk.injEq] at same
    exact Option.some.inj same.2
  · intro place _
    have table : (ServiceRules.PROTOCOL_RULES.map ServiceRules.ProtocolRule.rule_id ++ [ServiceRules.VERSION_DISCLOSURE]).Nodup := by
      decide +kernel
    refine table.sublist ?_
    unfold service_of
    split
    · exact List.nil_sublist _
    · rw [service_parts, List.map_append, List.map_map]
      refine List.Sublist.append (List.filter_sublist.map _) ?_
      split
      · exact .refl _
      · exact List.nil_sublist _

/-! #### Lengths -/

/-- The number of characters a piece takes. -/
def piece_size (asset endpoint identified : Nat) : ServiceRules.Piece → Nat
  | .text t => t.toList.length
  | .asset => asset
  | .endpoint => endpoint
  | .identified => identified

/-- The number of characters of the product and version in parentheses. -/
def identified_size (service : ServiceView) : Nat :=
  if ServiceRules.named service.product then 4 + (ServiceRules.shown service.product).length + (ServiceRules.shown service.version).length
  else 0

theorem identified_length (service : ServiceView) : (ServiceRules.identified_as service).length = identified_size service := by
  unfold ServiceRules.identified_as identified_size
  split
  · have closed : ∀ t : Text, (t ++ ")".toList).rdropWhile isSpace = t ++ ")".toList := by
      intro t
      show (t ++ [')']).rdropWhile isSpace = _
      rw [List.rdropWhile_concat_neg _ _ _ (by decide)]
      rfl
    have opening : " (".toList.length = 2 := literal_length (by decide)
    have blank : " ".toList.length = 1 := literal_length (by decide)
    have closing : ")".toList.length = 1 := literal_length (by decide)
    rw [closed]
    simp only [List.length_append, opening, blank, closing]
    clear opening blank closing
    omega
  · rfl

variable (casing) in
def pieces_size (asset : AssetView) (service : ServiceView) (pieces : List ServiceRules.Piece) : Nat :=
  (pieces.map (piece_size asset.display_name.length (ServiceRules.endpoint casing service).length (identified_size service))).sum

theorem format_length (asset : AssetView) (service : ServiceView) (pieces : List ServiceRules.Piece) :
    (ServiceRules.format casing asset service pieces).length = pieces_size casing asset service pieces := by
  rw [ServiceRules.format, List.length_flatMap, pieces_size]
  congr 1
  refine List.map_congr_left fun piece _ => ?_
  cases piece with
  | text t => rfl
  | asset => rfl
  | endpoint => rfl
  | identified => exact identified_length service

/-- The characters of a version title and description besides their fields. -/
def VERSION_TITLE : Nat := 26
def VERSION_DESCRIPTION : Nat := 169

theorem version_title_length (asset : AssetView) (service : ServiceView) : (ServiceRules.version_title casing asset service).length =
    (ServiceRules.endpoint casing service).length + asset.display_name.length + VERSION_TITLE := by
  have on : " on ".toList.length = 4 := literal_length (by decide)
  have discloses : " discloses its version".toList.length = 22 := literal_length (by decide)
  simp only [ServiceRules.version_title, List.length_append, on, discloses, VERSION_TITLE]
  clear on discloses
  omega

theorem version_description_length (asset : AssetView) (service : ServiceView) :
    (ServiceRules.version_description casing context asset service).length =
      asset.display_name.length + (ServiceRules.endpoint casing service).length + (ServiceRules.shown service.product).length +
        (ServiceRules.shown service.version).length + (ServiceRules.association (ServiceRules.enrich context service)).length +
        VERSION_DESCRIPTION := by
  have identified : " identified the service on ".toList.length = 27 := literal_length (by decide)
  have as : " as ".toList.length = 4 := literal_length (by decide)
  have blank : " ".toList.length = 1 := literal_length (by decide)
  have banner : (". A version banner is useful to a reviewer and equally useful to anyone else who can reach the port, because it narrows " ++
      "down what to try.").toList.length = 137 := by
    exact append_length (m := 120) (n := 17) (literal_length (by decide)) (literal_length (by decide)) (by decide)
  simp only [ServiceRules.version_description, List.length_append, identified, as, blank, banner, VERSION_DESCRIPTION]
  clear identified as blank banner
  omega

variable (casing context) in
/-- The texts of the rules that fire on open, identified services have room for
    the names of the asset, the endpoint and the service. -/
def ServiceShort : Prop :=
  ∀ asset ∈ context.assets, ∀ service ∈ asset.services, (identification context service).isSome = true →
    (∀ rule ∈ protocol_rules casing service, pieces_size casing asset service rule.title ≤ MAX_TITLE ∧
      pieces_size casing asset service rule.description ≤ MAX_DESCRIPTION) ∧
    (discloses service = true →
      (ServiceRules.endpoint casing service).length + asset.display_name.length + VERSION_TITLE ≤ MAX_TITLE ∧
      asset.display_name.length + (ServiceRules.endpoint casing service).length + (ServiceRules.shown service.product).length +
        (ServiceRules.shown service.version).length + (ServiceRules.association (ServiceRules.enrich context service)).length +
        VERSION_DESCRIPTION ≤ MAX_DESCRIPTION)

theorem service_fits : (∀ parts ∈ (located context).flatMap (service_of casing context), Fits parts) ↔ ServiceShort casing context := by
  constructor
  · intro fits asset listed service inside found
    obtain ⟨observation, is⟩ := Option.isSome_iff_exists.mp found
    have all : ∀ parts ∈ service_parts casing context asset service observation, Fits parts := by
      intro parts member
      refine fits parts (List.mem_flatMap.mpr ⟨(asset, service), mem_located.mpr ⟨listed, inside⟩, ?_⟩)
      simp only [service_of, is]
      exact member
    refine ⟨fun rule fires => ?_, fun disclosed => ?_⟩
    · have here := all _ (List.mem_append_left _ (List.mem_map.mpr ⟨rule, fires, rfl⟩))
      rw [Fits, protocol_parts, format_length, format_length] at here
      exact here
    · have here := all (version_parts casing context asset service observation) (List.mem_append_right _ (by rw [if_pos disclosed]; simp))
      rw [Fits, version_parts, version_title_length, version_description_length] at here
      exact here
  · intro short parts member
    obtain ⟨⟨asset, service⟩, place, member⟩ := List.mem_flatMap.mp member
    obtain ⟨listed, inside⟩ := mem_located.mp place
    unfold service_of at member
    split at member
    · cases member
    rename_i observation found
    obtain ⟨protocol, version⟩ := short asset listed service inside (Option.isSome_iff_exists.mpr ⟨observation, found⟩)
    rcases List.mem_append.mp member with here | here
    · obtain ⟨rule, fires, rfl⟩ := List.mem_map.mp here
      rw [Fits, protocol_parts, format_length, format_length]
      exact protocol rule fires
    · split at here
      · rename_i disclosed
        rw [List.mem_singleton.mp here, Fits, version_parts, version_title_length, version_description_length]
        exact version disclosed
      · cases here

end Service

/-! ### tls.certificates -/

section Tls
variable {context : DetectionContext}

def tls_parts (session : ObservationView) (origin description : Text) (rule : TlsCertificates.Rule) : Parts where
  rule_id := rule.rule_id
  title := TlsCertificates.title rule origin
  description := description
  category := .transport
  severity := rule.severity
  confidence := .high
  cited := [session.id]
  asset_id := session.asset_id
  service_id := session.service_id
  remediation := rule.remediation.toList
  detail := TlsCertificates.detail session
  references := []

theorem tls_finding (session : ObservationView) (origin description : Text) (rule : TlsCertificates.Rule) :
    (tls_parts session origin description rule).finding = TlsCertificates.finding session origin description rule := rfl

/-- The finding of a session whose certificate did not verify. -/
def tls_of (context : DetectionContext) (session : ObservationView) : List Parts :=
  if !TlsCertificates.unverified session then []
  else if TlsCertificates.expired session then
    [tls_parts session (TlsCertificates.origin context session)
      (TlsCertificates.expired_description (TlsCertificates.origin context session)) TlsCertificates.certificate_expired]
  else
    [tls_parts session (TlsCertificates.origin context session)
      (TlsCertificates.untrusted_description (TlsCertificates.origin context session) (TlsCertificates.reason session))
      TlsCertificates.certificate_not_trusted]

theorem tls_detect : TlsCertificates.detect context =
    ((TlsCertificates.latest_sessions context).flatMap (tls_of context)).map Parts.finding := by
  rw [TlsCertificates.detect, List.map_flatMap, List.filterMap_eq_flatMap_toList]
  refine List.flatMap_congr fun session _ => ?_
  simp only [TlsCertificates.for_session, tls_of]
  split
  · rfl
  · split
    · rw [List.map_singleton, tls_finding, Option.toList_some]
    · rw [List.map_singleton, tls_finding, Option.toList_some]

theorem mem_tls_of {session : ObservationView} {parts : Parts} (member : parts ∈ tls_of context session) :
    ∃ description rule, parts = tls_parts session (TlsCertificates.origin context session) description rule ∧
      ((rule = TlsCertificates.certificate_expired ∧
          description = TlsCertificates.expired_description (TlsCertificates.origin context session)) ∨
        (rule = TlsCertificates.certificate_not_trusted ∧ description =
          TlsCertificates.untrusted_description (TlsCertificates.origin context session) (TlsCertificates.reason session))) := by
  unfold tls_of at member
  split at member
  · cases member
  · split at member
    · exact ⟨_, _, List.mem_singleton.mp member, Or.inl ⟨rfl, rfl⟩⟩
    · exact ⟨_, _, List.mem_singleton.mp member, Or.inr ⟨rfl, rfl⟩⟩

theorem tls_rules_proper : ∀ rule ∈ [TlsCertificates.certificate_expired, TlsCertificates.certificate_not_trusted],
    RULE_ID rule.rule_id = true ∧ rule.title.toList.any (fun c => !isSpace c) = true := by
  refine List.forall_mem_cons.mpr ⟨?_, List.forall_mem_singleton.mpr ?_⟩
  all_goals exact ⟨literal_proper (by decide), literal_solid (by decide)⟩

theorem tls_remediation : ∀ rule ∈ [TlsCertificates.certificate_expired, TlsCertificates.certificate_not_trusted],
    rule.remediation.toList.length ≤ MAX_REMEDIATION := by
  refine List.forall_mem_cons.mpr ⟨?_, List.forall_mem_singleton.mpr ?_⟩
  · exact le_trans (b := LITERAL) (literal_short (by decide)) (by decide)
  · exact append_short (literal_short (by decide)) (literal_short (by decide)) (by decide)

theorem tls_proper {runtime : Runtime} (wellformed : WellFormed context) (enough : 2 ≤ runtime.max_evidence_per_finding) :
    ∀ parts ∈ (TlsCertificates.latest_sessions context).flatMap (tls_of context), Proper runtime context parts := by
  intro parts member
  obtain ⟨session, listed, member⟩ := List.mem_flatMap.mp member
  obtain ⟨description, rule, rfl, made⟩ := mem_tls_of member
  have recorded := (latest_of_type_latest context _).2 session listed
  have subject := known_subject wellformed (wellformed.subjects session recorded)
  have table : rule ∈ [TlsCertificates.certificate_expired, TlsCertificates.certificate_not_trusted] := by
    rcases made with ⟨rfl, _⟩ | ⟨rfl, _⟩ <;> simp
  obtain ⟨rule_id, title⟩ := tls_rules_proper rule table
  refine ⟨rule_id, ?_, ?_, tls_remediation rule table, subject.1, subject.2, List.cons_ne_nil _ _, (by decide : 1 ≤ 2).trans enough,
    ?_⟩
  · obtain ⟨c, here, solid⟩ := List.any_eq_true.mp title
    exact strip_ne_nil (List.mem_append_right _ here) (by simpa using solid)
  · have expired : 'C' ∈ "Certificate verification for ".toList := by decide
    have untrusted : 'R' ∈ "RedDock completed a TLS handshake with ".toList := by decide
    rcases made with ⟨_, rfl⟩ | ⟨_, rfl⟩
    · exact strip_ne_nil (List.mem_append_left _ (List.mem_append_left _ expired)) (by decide)
    · exact strip_ne_nil (List.mem_append_left _ (List.mem_append_left _ (List.mem_append_left _ (List.mem_append_left _ untrusted))))
        (by decide)
  · intro id here
    rw [show (tls_parts session _ description rule).cited = [session.id] from rfl, List.mem_singleton] at here
    rw [here]
    exact List.mem_map.mpr ⟨session, recorded, rfl⟩

theorem tls_known (wellformed : WellFormed context) : ∀ parts ∈ (TlsCertificates.latest_sessions context).flatMap (tls_of context),
    Known context parts.asset_id parts.service_id ∧ parts.rule_id ∈ RULE_IDS := by
  intro parts member
  obtain ⟨session, listed, member⟩ := List.mem_flatMap.mp member
  obtain ⟨description, rule, rfl, made⟩ := mem_tls_of member
  have known := wellformed.subjects session ((latest_of_type_latest context _).2 session listed)
  refine ⟨known, List.mem_append_right _ (List.mem_cons_of_mem _ ?_)⟩
  rcases made with ⟨rfl, _⟩ | ⟨rfl, _⟩
  · exact List.mem_cons_self
  · exact List.mem_cons_of_mem _ List.mem_cons_self

theorem tls_keys : (((TlsCertificates.latest_sessions context).flatMap (tls_of context)).map fun parts =>
    (parts.rule_id, parts.asset_id, parts.service_id)).Nodup := by
  refine keys_nodup (latest_of_type_latest context _).1 ?_ ?_
  · intro session _ parts member other _ parts' member' same
    obtain ⟨_, _, rfl, _⟩ := mem_tls_of member
    obtain ⟨_, _, rfl, _⟩ := mem_tls_of member'
    exact same
  · intro session _
    unfold tls_of
    split
    · exact List.nodup_nil
    · split
      · exact List.nodup_singleton _
      · exact List.nodup_singleton _

/-- The characters of the descriptions besides their fields. -/
def EXPIRED : Nat := 251
def UNTRUSTED : Nat := 416

/-- The number of characters an explanation takes. -/
def explanation_size (reason : Option Text) : Nat := (reason.map fun reason => reason.length + 22).getD 0

theorem expired_words : TlsCertificates.EXPIRED_WORDS.toList.length = 222 :=
  append_length (m := 119) (n := 103) (literal_length (by decide)) (literal_length (by decide)) (by decide)

theorem store_words : TlsCertificates.STORE_WORDS.toList.length = 86 := literal_length (by decide)

theorem causes_words : TlsCertificates.CAUSES_WORDS.toList.length = 291 :=
  append_length (m := 234) (n := 57) (append_length (m := 115) (n := 119) (literal_length (by decide)) (literal_length (by decide))
    (by decide)) (literal_length (by decide)) (by decide)

theorem expired_length (origin : Text) : (TlsCertificates.expired_description origin).length = origin.length + EXPIRED := by
  have first : "Certificate verification for ".toList.length = 29 := literal_length (by decide)
  show ("Certificate verification for ".toList ++ origin ++ TlsCertificates.EXPIRED_WORDS.toList).length = _
  simp only [List.length_append, first, expired_words, EXPIRED]
  clear first
  omega

theorem explanation_length (reason : Option Text) : (TlsCertificates.explanation reason).length = explanation_size reason := by
  have opening : " OpenSSL reported: \"".toList.length = 20 := literal_length (by decide)
  have closing : "\".".toList.length = 2 := literal_length (by decide)
  cases reason with
  | none => rfl
  | some reason =>
    show (" OpenSSL reported: \"".toList ++ reason ++ "\".".toList).length = _
    simp only [List.length_append, opening, closing, explanation_size, Option.map_some, Option.getD_some]
    clear opening closing
    omega

theorem untrusted_length (origin : Text) (reason : Option Text) : (TlsCertificates.untrusted_description origin reason).length =
    origin.length + explanation_size reason + UNTRUSTED := by
  have first : "RedDock completed a TLS handshake with ".toList.length = 39 := literal_length (by decide)
  show ("RedDock completed a TLS handshake with ".toList ++ origin ++ TlsCertificates.STORE_WORDS.toList ++
    TlsCertificates.explanation reason ++ TlsCertificates.CAUSES_WORDS.toList).length = _
  simp only [List.length_append, first, explanation_length, store_words, causes_words, UNTRUSTED]
  clear first
  omega

/-- The texts about the latest sessions that did not verify have room for the
    origin and what OpenSSL reported. -/
def TlsShort (context : DetectionContext) : Prop :=
  ∀ session ∈ TlsCertificates.latest_sessions context, TlsCertificates.unverified session = true →
    if TlsCertificates.expired session then
      (TlsCertificates.origin context session).length + TlsCertificates.certificate_expired.title.toList.length ≤ MAX_TITLE
    else
      (TlsCertificates.origin context session).length + TlsCertificates.certificate_not_trusted.title.toList.length ≤ MAX_TITLE ∧
      (TlsCertificates.origin context session).length + explanation_size (TlsCertificates.reason session) + UNTRUSTED ≤ MAX_DESCRIPTION

theorem tls_fits : (∀ parts ∈ (TlsCertificates.latest_sessions context).flatMap (tls_of context), Fits parts) ↔ TlsShort context := by
  constructor
  · intro fits session listed unverified
    have all : ∀ parts ∈ tls_of context session, Fits parts := fun parts member =>
      fits parts (List.mem_flatMap.mpr ⟨session, listed, member⟩)
    simp only [tls_of, unverified, Bool.not_true, Bool.false_eq_true, if_false] at all
    split
    · rename_i expired
      rw [if_pos expired] at all
      have here := (all _ (List.mem_singleton_self _)).1
      rw [tls_parts, TlsCertificates.title, List.length_append] at here
      exact here
    · rename_i trusted
      rw [if_neg trusted] at all
      have here := all _ (List.mem_singleton_self _)
      rw [Fits, tls_parts, TlsCertificates.title, List.length_append, untrusted_length] at here
      exact here
  · intro short parts member
    obtain ⟨session, listed, member⟩ := List.mem_flatMap.mp member
    unfold tls_of at member
    split at member
    · cases member
    rename_i unverified
    have room := short session listed (by simpa using unverified)
    split at member
    · rename_i expired
      rw [if_pos expired] at room
      rw [List.mem_singleton.mp member, Fits, tls_parts, TlsCertificates.title, List.length_append, expired_length]
      refine ⟨room, ?_⟩
      show _ + 251 ≤ 4000
      have bound : (TlsCertificates.origin context session).length ≤ 200 := (Nat.le_add_right _ _).trans room
      omega
    · rename_i trusted
      rw [if_neg trusted] at room
      rw [List.mem_singleton.mp member, Fits, tls_parts, TlsCertificates.title, List.length_append, untrusted_length]
      exact room

end Tls

/-! ### Validation -/

/-- The findings a detector returns pass every check of `_validated`. -/
def Accepted (runtime : Runtime) (context : DetectionContext) (detector : Detector) : Prop :=
  ∃ produced, detector.detect context = .ok produced ∧ Returns (validated runtime detector.id produced context)

/-- The findings are no more than the limit for one detector. -/
def Few (runtime : Runtime) (context : DetectionContext) (detector : Detector) : Prop :=
  ∀ items, detector.detect context = .ok (.sequence items) → items.length ≤ runtime.max_findings_per_detector

section
variable {runtime : Runtime} {context : DetectionContext} {casing : ServiceRules.Casing}

/-- A detector whose findings are made of texts. -/
theorem accepted_iff {detector : Detector} {all : List Parts} {found : List DetectedFinding}
    (detects : detector.detect context = .ok (.sequence (found.map some))) (made : found = all.map Parts.finding)
    (wellformed : WellFormed context) (collision_free : CollisionFree runtime context detector.id)
    (few : Few runtime context detector) (proper : ∀ parts ∈ all, Proper runtime context parts)
    (known : ∀ parts ∈ all, Known context parts.asset_id parts.service_id ∧ parts.rule_id ∈ RULE_IDS)
    (keys : (all.map fun parts => (parts.rule_id, parts.asset_id, parts.service_id)).Nodup) :
    Accepted runtime context detector ↔ ∀ parts ∈ all, Fits parts := by
  have items : found.map some = all.map fun parts => some parts.finding := by
    rw [made, List.map_map]
    rfl
  rw [items] at detects
  have length := few _ detects
  rw [List.length_map] at length
  simp only [Accepted, detects, Except.ok.injEq, exists_eq_left']
  exact validated_iff proper length (identities_nodup wellformed collision_free (fun parts member => (known parts member).1)
    (fun parts member => (known parts member).2) keys)

theorem http_accepted_iff (wellformed : WellFormed context) (enough : 2 ≤ runtime.max_evidence_per_finding)
    (collision_free : CollisionFree runtime context (HttpHeaders.detector casing).id)
    (few : Few runtime context (HttpHeaders.detector casing)) :
    Accepted runtime context (HttpHeaders.detector casing) ↔ HttpShort casing context :=
  (accepted_iff rfl http_detect wellformed collision_free few (http_proper wellformed enough) (http_known wellformed) http_keys).trans
    http_fits

theorem service_accepted_iff (wellformed : WellFormed context) (enough : 2 ≤ runtime.max_evidence_per_finding)
    (collision_free : CollisionFree runtime context (Registry.service_rules casing).id)
    (few : Few runtime context (Registry.service_rules casing)) :
    Accepted runtime context (Registry.service_rules casing) ↔ ServiceShort casing context :=
  (accepted_iff rfl service_detect wellformed collision_free few (service_proper wellformed enough) service_known
    (service_keys wellformed)).trans service_fits

theorem tls_accepted_iff (wellformed : WellFormed context) (enough : 2 ≤ runtime.max_evidence_per_finding)
    (collision_free : CollisionFree runtime context TlsCertificates.detector.id)
    (few : Few runtime context TlsCertificates.detector) :
    Accepted runtime context TlsCertificates.detector ↔ TlsShort context :=
  (accepted_iff rfl tls_detect wellformed collision_free few (tls_proper wellformed enough) (tls_known wellformed) tls_keys).trans
    tls_fits

/-- Over a snapshot of stored rows, what a built-in detector returns is accepted
    exactly when its texts are short. -/
theorem built_ins_accepted {limits : Snapshots.Limits} {tables : Inventory.Tables} {dockyard_id generated_at : Nat}
    {lookup : Option (Text → Text → List CveReference)} (stored : Stored tables)
    (built : Snapshots.build_context limits tables dockyard_id generated_at lookup = .ok context)
    (enough : 2 ≤ runtime.max_evidence_per_finding)
    (collision_free : ∀ detector ∈ Registry.BUILT_INS casing, CollisionFree runtime context detector.id)
    (few : ∀ detector ∈ Registry.BUILT_INS casing, Few runtime context detector) :
    (Accepted runtime context (HttpHeaders.detector casing) ↔ HttpShort casing context) ∧
    (Accepted runtime context (Registry.service_rules casing) ↔ ServiceShort casing context) ∧
    (Accepted runtime context TlsCertificates.detector ↔ TlsShort context) := by
  have wellformed := build_context_wellformed stored built
  have http : HttpHeaders.detector casing ∈ Registry.BUILT_INS casing := List.mem_cons_self
  have service : Registry.service_rules casing ∈ Registry.BUILT_INS casing := List.mem_cons_of_mem _ List.mem_cons_self
  have tls : TlsCertificates.detector ∈ Registry.BUILT_INS casing := List.mem_cons_of_mem _ (List.mem_cons_of_mem _ List.mem_cons_self)
  exact ⟨http_accepted_iff wellformed enough (collision_free _ http) (few _ http),
    service_accepted_iff wellformed enough (collision_free _ service) (few _ service),
    tls_accepted_iff wellformed enough (collision_free _ tls) (few _ tls)⟩

end

/-! ### An origin that answers over plaintext -/

section
open Inventory

/-- What a probe of an origin leaves. -/
def answering (origin : Text) : Tables where
  assets := [{
    id := 1
    dockyard_id := 1
    asset_type := AssetType.web.str
    identity := origin
    display_name := origin
    ip_address := none
    hostname := none
    first_seen := 0
    last_seen := 0 }]
  services := [{
    id := 1
    asset_id := 1
    transport := "tcp".toList
    port := 80
    state := "open".toList
    service_name := some "http".toList
    product := none
    version := none
    first_seen := 0
    last_seen := 0 }]
  observations := [{
    id := 1
    dockyard_id := 1
    discovery_run_id := 1
    asset_id := some 1
    service_id := some 1
    adapter := "http_probe".toList
    observation_type := "http_response".toList
    summary := []
    detail := some [("status".toList, .int 200), ("scheme".toList, .str "http".toList),
      ("headers_examined".toList, .list [.str HttpHeaders.HSTS])]
    confidence := Confidence.observed.str
    raw_reference := []
    observed_at := 0 }]

theorem answering_stored {origin : Text} (named : Named origin) : Stored (answering origin) where
  keyed := ⟨⟨by simp [answering, Reconciliation.asset_keys], by simp [answering, Reconciliation.asset_keys]⟩,
    ⟨by simp [answering, Reconciliation.service_keys], by simp [answering, Reconciliation.service_keys]⟩,
    by simp [answering, Reconciliation.asset_keys]⟩
  assets := by
    intro asset member
    rw [List.mem_singleton.mp member]
    have web : Named AssetType.web.str := ⟨by decide, by decide, by decide⟩
    exact ⟨web, named⟩
  transports := by
    intro service member
    rw [List.mem_singleton.mp member]
    exact (by decide : "tcp".toList ≠ [] ∧ '\x1f' ∉ "tcp".toList)
  observed := by
    intro observation member asset_id given
    rw [List.mem_singleton.mp member] at given ⊢
    exact ⟨_, List.mem_singleton_self _, Option.some.inj given, rfl⟩
  of_asset := by
    intro observation member service_id given
    rw [List.mem_singleton.mp member] at given ⊢
    exact ⟨_, List.mem_singleton_self _, Option.some.inj given, rfl⟩

theorem plain_collision_free (context : DetectionContext) (detector_id : Text) :
    CollisionFree FindingLifecycle.plainRuntime context detector_id :=
  fun _ _ _ _ _ _ _ _ _ _ same => same

/-- Whether every built-in detector stays within its limit. -/
def few_found (context : DetectionContext) : Bool :=
  (Registry.BUILT_INS .ascii).all fun detector => match detector.detect context with
    | .ok (.sequence items) => items.length ≤ FindingLifecycle.plainRuntime.max_findings_per_detector
    | _ => false

theorem few_of_found {context : DetectionContext} (found : few_found context = true) :
    ∀ detector ∈ Registry.BUILT_INS .ascii, Few FindingLifecycle.plainRuntime context detector := by
  intro detector member items detects
  have here := List.all_eq_true.mp found detector member
  rw [detects] at here
  exact of_decide_eq_true here

theorem built_ins_accepted_short : ∃ context,
    Snapshots.build_context {} (answering "http://app.example".toList) 1 0 none = .ok context ∧
    (Accepted FindingLifecycle.plainRuntime context (HttpHeaders.detector .ascii) ↔ HttpShort .ascii context) := by
  have named : Named "http://app.example".toList := ⟨by decide, by decide, by decide⟩
  have ran : (Snapshots.build_context {} (answering "http://app.example".toList) 1 0 none).map few_found = .ok true := by
    decide +kernel
  obtain ⟨context, built, found⟩ := Fallible.map_eq_ok.mp ran
  exact ⟨context, built, (built_ins_accepted (answering_stored named) built (by decide)
    (fun _ _ => plain_collision_free _ _) (few_of_found found)).1⟩

/-- An origin of a name with labels of 60 characters. -/
def long_origin : Text :=
  "http://".toList ++ List.replicate 60 'a' ++ '.' :: List.replicate 60 'b' ++ '.' :: List.replicate 60 'c' ++ ".example".toList

theorem long_origin_refused : ∃ target context, Targets.normalize_target .plain long_origin = .ok target ∧ target.value = long_origin ∧
    Stored (answering target.value) ∧ Snapshots.build_context {} (answering target.value) 1 0 none = .ok context ∧
    (∀ detector ∈ Registry.BUILT_INS .ascii, Few FindingLifecycle.plainRuntime context detector) ∧
    ¬Accepted FindingLifecycle.plainRuntime context (HttpHeaders.detector .ascii) := by
  have read : (Targets.normalize_target .plain long_origin).map (·.value) = .ok long_origin := by decide +kernel
  obtain ⟨target, read, value⟩ := Fallible.map_eq_ok.mp read
  have named : Named long_origin := ⟨by decide, by decide, by decide +kernel⟩
  have stored := answering_stored named
  have ran : (Snapshots.build_context {} (answering long_origin) 1 0 none).map (fun context =>
      (few_found context, (HttpHeaders.latest_responses context).any fun response =>
        (HttpHeaders.fired .ascii context response).any fun found =>
          MAX_TITLE < (HttpHeaders.origin context response).length + found.2.title.toList.length)) = .ok (true, true) := by
    decide +kernel
  obtain ⟨context, built, facts⟩ := Fallible.map_eq_ok.mp ran
  rw [Prod.mk.injEq] at facts
  obtain ⟨found, long⟩ := facts
  have few := few_of_found found
  refine ⟨target, context, read, value, value ▸ stored, value ▸ built, few, fun accepted => ?_⟩
  have short := (http_accepted_iff (build_context_wellformed stored built) (by decide) (plain_collision_free _ _)
    (few _ List.mem_cons_self)).mp accepted
  obtain ⟨response, listed, fires⟩ := List.any_eq_true.mp long
  obtain ⟨rule, fired, long⟩ := List.any_eq_true.mp fires
  exact absurd (short response listed rule fired).1 (Nat.not_le.mpr (of_decide_eq_true long))

end
end RedDock.BuiltInDetectors
