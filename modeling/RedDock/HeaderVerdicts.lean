import RedDock.BuiltInDetectors

/-!
# What the header detector reports

The subjects and rules that `http.security_headers` reports, and those it lists
as unevaluated.
-/
set_option autoImplicit false
namespace RedDock.HeaderVerdicts
open Text Detection HttpHeaders
open ServiceRules (Casing of_type)

/-- `str.lower` and `str.upper`, as they are on ASCII texts. -/
structure AsciiCasing extends Casing where
  lower_ascii : ∀ t, isAscii t = true → lower t = t.map Char.toLower

theorem optional_int_inj {i j : Option Int} (same : Object.optional_int i = Object.optional_int j) : i = j := by
  cases i with
  | none =>
    cases j with
    | none => rfl
    | some j => exact absurd (congrArg Object.is_none same) Bool.noConfusion
  | some i =>
    cases j with
    | none => exact absurd (congrArg Object.is_none same) Bool.noConfusion
    | some j =>
      have answers := congrArg (fun o => o.equals i) same
      have equal : Except.ok (decide (i = i)) = (Except.ok (decide (i = j)) : Except Raised Bool) := answers
      rw [decide_eq_true rfl, Except.ok.injEq] at equal
      rw [of_decide_eq_true equal.symm]

section
variable (casing : Casing) (context : DetectionContext)

/-- The detector reports a rule of a subject. -/
def Reported (asset_id service_id : Option Int) (rule_id : Text) : Prop :=
  ∃ finding ∈ detect casing context, finding.asset_id = .optional_int asset_id ∧ finding.service_id = .optional_int service_id ∧
    finding.rule_id = ServiceRules.text rule_id

variable {casing context}

theorem reported_iff {asset_id service_id : Option Int} {rule_id : Text} : Reported casing context asset_id service_id rule_id ↔
    ∃ response ∈ latest_responses context, subject_of response = (asset_id, service_id) ∧
      ∃ rule ∈ (fired casing context response).map Prod.snd, rule.rule_id = rule_id := by
  constructor
  · rintro ⟨_, detected, asset, service, named⟩
    obtain ⟨response, latest, made⟩ := List.mem_flatMap.mp detected
    obtain ⟨found, fires, rfl⟩ := List.mem_map.mp made
    have same : found.2.rule_id = rule_id := (Object.str.inj named).1
    exact ⟨response, latest, Prod.ext (optional_int_inj asset) (optional_int_inj service), found.2, List.mem_map_of_mem fires, same⟩
  · rintro ⟨response, latest, subject, rule, fires, rfl⟩
    obtain ⟨found, member, rfl⟩ := List.mem_map.mp fires
    obtain ⟨rfl, rfl⟩ := Prod.mk.inj subject
    exact ⟨_, List.mem_flatMap.mpr ⟨response, latest, List.mem_map_of_mem member⟩, rfl, rfl, rfl⟩

theorem unevaluated_iff {asset_id service_id : Option Int} {rule_id : Text} : (asset_id, service_id, rule_id) ∈ unevaluated casing context ↔
    ∃ response ∈ latest_responses context, subject_of response = (asset_id, service_id) ∧
      ∃ rule ∈ unevaluated_rules casing context response, rule.rule_id = rule_id := by
  constructor
  · intro listed
    obtain ⟨response, latest, made⟩ := List.mem_flatMap.mp listed
    obtain ⟨rule, unjudged, is⟩ := List.mem_map.mp made
    obtain ⟨asset, rest⟩ := Prod.mk.inj is
    obtain ⟨service, named⟩ := Prod.mk.inj rest
    exact ⟨response, latest, Prod.ext asset service, rule, unjudged, named⟩
  · rintro ⟨response, latest, subject, rule, unjudged, rfl⟩
    obtain ⟨rfl, rfl⟩ := Prod.mk.inj subject
    exact List.mem_flatMap.mpr ⟨response, latest, List.mem_map_of_mem unjudged⟩

/-- A subject has one latest response. -/
theorem latest_unique {first second : ObservationView} (left : first ∈ latest_responses context) (right : second ∈ latest_responses context)
    (same : subject_of first = subject_of second) : first = second :=
  List.inj_on_of_nodup_map (BuiltInDetectors.latest_of_type_latest context "http_response".toList).1 left right same

theorem rule_of_id {first second : Rule} (left : first ∈ ALL_RULES) (right : second ∈ ALL_RULES) (same : first.rule_id = second.rule_id) :
    first = second := by
  have once : (ALL_RULES.map Rule.rule_id).Nodup := by decide +kernel
  exact List.inj_on_of_nodup_map once left right same

theorem fired_known {response : ObservationView} {rule : Rule} (fires : rule ∈ (fired casing context response).map Prod.snd) :
    rule ∈ ALL_RULES := (BuiltInDetectors.fired_rules casing context response).subset fires

theorem unevaluated_known {response : ObservationView} {rule : Rule} (unjudged : rule ∈ unevaluated_rules casing context response) :
    rule ∈ ALL_RULES := by
  have header_rules : ∀ header ∈ HEADER_RULES, header.2 ∈ ALL_RULES := by
    simp [HEADER_RULES, ALL_RULES, CONTENT_RULES]
  have content_rules : ∀ rule ∈ CONTENT_RULES, rule ∈ ALL_RULES := fun rule member => List.mem_append_right _ member
  simp only [unevaluated_rules] at unjudged
  split at unjudged
  · split at unjudged
    · exact unjudged
    · rcases List.mem_append.mp unjudged with missing | content
      · obtain ⟨header, kept, rfl⟩ := List.mem_map.mp missing
        exact header_rules header (List.mem_filter.mp kept).1
      · split at content
        · cases content
        · exact content_rules rule content
  · exact unjudged

/-! ### The rules of a response -/

/-- What the rules of a response are judged by: the headers that were examined,
    the scheme and the status. -/
structure Judged (casing : Casing) (context : DetectionContext) (response : ObservationView) (scheme : Text) (status : Status) : Prop where
  examined : examined casing response ≠ []
  scheme : HttpHeaders.scheme context response = some scheme
  status : as_int (get response "status") = some status

theorem fired_judged {response : ObservationView} {rule : Rule} : rule ∈ (fired casing context response).map Prod.snd ↔
    ∃ scheme status, Judged casing context response scheme status ∧
      (rule ∈ transport_rules casing (examined casing response) (headers_for casing context response) scheme status.value ∨
        is_content_response status.value = true ∧ rule ∈ content_rules casing (examined casing response) (headers_for casing context response)) := by
  simp only [fired]
  constructor
  · intro fires
    split at fires
    · cases fires
    · rename_i some_examined
      split at fires
      · rename_i scheme status schemes states
        rw [List.map_map] at fires
        have member : rule ∈ transport_rules casing (examined casing response) (headers_for casing context response) scheme status.value ++
            (if is_content_response status.value then content_rules casing (examined casing response) (headers_for casing context response)
              else []) := by
          rw [List.mem_map] at fires
          obtain ⟨_, member, rfl⟩ := fires
          exact member
        refine ⟨scheme, status, ⟨fun none => some_examined (List.isEmpty_iff.mpr none), schemes, states⟩, ?_⟩
        rcases List.mem_append.mp member with transport | content
        · exact Or.inl transport
        · split at content
          · rename_i usual
            exact Or.inr ⟨usual, content⟩
          · cases content
      · cases fires
  · rintro ⟨scheme, status, judged, fires⟩
    rw [if_neg fun none => judged.examined (List.isEmpty_iff.mp none)]
    simp only [judged.scheme, judged.status]
    refine List.mem_map.mpr ⟨(status, rule), List.mem_map.mpr ⟨rule, List.mem_append.mpr ?_, rfl⟩, rfl⟩
    rcases fires with transport | ⟨usual, content⟩
    · exact Or.inl transport
    · exact Or.inr (by rw [if_pos usual]; exact content)

theorem unevaluated_judged {response : ObservationView} {scheme : Text} {status : Status} (judged : Judged casing context response scheme status) :
    unevaluated_rules casing context response =
      ((HEADER_RULES.filter fun header => header.1 ∉ examined casing response).map Prod.snd) ++
        (if is_content_response status.value then [] else CONTENT_RULES) := by
  simp only [unevaluated_rules, judged.scheme, judged.status]
  rw [if_neg fun none => judged.examined (List.isEmpty_iff.mp none)]

theorem Judged.unique {response : ObservationView} {scheme other : Text} {status status' : Status}
    (one : Judged casing context response scheme status) (two : Judged casing context response other status') :
    scheme = other ∧ status = status' :=
  ⟨Option.some.inj (one.scheme.symm.trans two.scheme), Option.some.inj (one.status.symm.trans two.status)⟩

section
variable {examined : List Text} {headers : Headers} {scheme : Text} {status : Int} {rule : Rule}

theorem mem_transport : rule ∈ transport_rules casing examined headers scheme status ↔
    (rule = plaintext_http ∧ scheme = "http".toList ∧ redirects casing headers status = false) ∨
      (rule = hsts_not_set ∧ scheme ≠ "http".toList ∧ HSTS ∈ examined ∧ headers.lookup HSTS = none) := by
  unfold transport_rules
  by_cases plain : scheme = "http".toList
  · rw [if_pos plain]
    by_cases redirected : redirects casing headers status = true
    · rw [if_pos redirected, redirected]
      simp [plain]
    · rw [if_neg redirected]
      simp [plain, Bool.not_eq_true _ ▸ redirected]
  · rw [if_neg plain]
    by_cases missing : HSTS ∈ examined ∧ headers.lookup HSTS = none
    · rw [if_pos missing]
      simp only [List.mem_singleton, plain, false_and, and_false, false_or, ne_eq, not_false_eq_true, missing, and_self, and_true]
    · rw [if_neg missing]
      simp only [List.not_mem_nil, plain, false_and, and_false, false_or, false_iff]
      exact fun both => missing both.2.2

theorem mem_content : rule ∈ content_rules casing examined headers ↔
    (rule = content_type_options_not_nosniff ∧ CONTENT_TYPE_OPTIONS ∈ examined ∧ is_nosniff casing headers = false) ∨
      (rule = content_security_policy_not_set ∧ CONTENT_SECURITY_POLICY ∈ examined ∧ headers.lookup CONTENT_SECURITY_POLICY = none) ∨
        (rule = frame_protection_not_set ∧ FRAME_OPTIONS ∈ examined ∧ restricts_framing casing headers = false) := by
  have single : ∀ (test : Prop) [Decidable test] (one : Rule), rule ∈ (if test then [one] else []) ↔ rule = one ∧ test := by
    intro test _ one
    by_cases holds : test
    · simp [holds]
    · simp [holds]
  rw [content_rules, List.mem_append, List.mem_append, single, single, single, or_assoc]
  simp only [Bool.not_eq_true]

end

/-- A header that a rule needs was examined where the rule fires. -/
theorem fired_examined {response : ObservationView} {rule : Rule} (fires : rule ∈ (fired casing context response).map Prod.snd)
    {header : Text} (needs : (header, rule) ∈ HEADER_RULES) : header ∈ examined casing response := by
  have of_rule : ∀ {known : Rule} {name : Text}, (∀ entry ∈ HEADER_RULES, entry.2.rule_id = known.rule_id → entry.1 = name) →
      rule = known → name ∈ examined casing response → header ∈ examined casing response := by
    intro known name table is member
    have here : header = name := table _ needs (congrArg Rule.rule_id is)
    rw [here]
    exact member
  obtain ⟨scheme, status, _, transport | ⟨_, content⟩⟩ := fired_judged.mp fires
  · rcases mem_transport.mp transport with ⟨is, _⟩ | ⟨is, _, member, _⟩
    · have never : ∀ entry ∈ HEADER_RULES, entry.2.rule_id ≠ plaintext_http.rule_id := by decide +kernel
      exact absurd (congrArg Rule.rule_id is) (never _ needs)
    · exact of_rule (by decide +kernel) is member
  · rcases mem_content.mp content with ⟨is, member, _⟩ | ⟨is, member, _⟩ | ⟨is, member, _⟩
    · exact of_rule (by decide +kernel) is member
    · exact of_rule (by decide +kernel) is member
    · exact of_rule (by decide +kernel) is member

theorem fired_content {response : ObservationView} {rule : Rule} {scheme : Text} {status : Status}
    (fires : rule ∈ (fired casing context response).map Prod.snd) (judged : Judged casing context response scheme status)
    (content : rule ∈ CONTENT_RULES) : is_content_response status.value = true := by
  obtain ⟨_, _, other, transport | ⟨usual, _⟩⟩ := fired_judged.mp fires
  · have apart : ∀ entry ∈ CONTENT_RULES, entry.rule_id ≠ plaintext_http.rule_id ∧ entry.rule_id ≠ hsts_not_set.rule_id := by
      decide +kernel
    rcases mem_transport.mp transport with ⟨rfl, _⟩ | ⟨rfl, _⟩
    · exact absurd rfl (apart _ content).1
    · exact absurd rfl (apart _ content).2
  · rw [(judged.unique other).2]
    exact usual

section
variable {response : ObservationView} {rule : Rule} {scheme : Text} {status : Status}

/-- A rule of the transport fires on the transport. -/
theorem fired_transport (judged : Judged casing context response scheme status) (apart : rule.rule_id ∉ CONTENT_RULES.map Rule.rule_id) :
    rule ∈ (fired casing context response).map Prod.snd ↔
      rule ∈ transport_rules casing (examined casing response) (headers_for casing context response) scheme status.value := by
  rw [fired_judged]
  constructor
  · rintro ⟨_, _, other, transport | ⟨_, content⟩⟩
    · rw [(judged.unique other).1, (judged.unique other).2]
      exact transport
    · have named : ∀ known ∈ CONTENT_RULES, rule = known → False := by
        rintro known member rfl
        exact apart (List.mem_map_of_mem member)
      rcases mem_content.mp content with ⟨is, _⟩ | ⟨is, _⟩ | ⟨is, _⟩
      · exact (named _ List.mem_cons_self is).elim
      · exact (named _ (List.mem_cons_of_mem _ List.mem_cons_self) is).elim
      · exact (named _ (List.mem_cons_of_mem _ (List.mem_cons_of_mem _ List.mem_cons_self)) is).elim
  · exact fun transport => ⟨scheme, status, judged, Or.inl transport⟩

/-- A rule of the content fires on a response that is the usual one. -/
theorem fired_on_content (judged : Judged casing context response scheme status) (known : rule ∈ CONTENT_RULES) :
    rule ∈ (fired casing context response).map Prod.snd ↔ is_content_response status.value = true ∧
      rule ∈ content_rules casing (examined casing response) (headers_for casing context response) := by
  refine ⟨fun fires => ⟨fired_content fires judged known, ?_⟩, fun both => fired_judged.mpr ⟨scheme, status, judged, Or.inr both⟩⟩
  obtain ⟨_, _, _, transport | ⟨_, content⟩⟩ := fired_judged.mp fires
  · have apart : ∀ entry ∈ CONTENT_RULES, entry.rule_id ≠ plaintext_http.rule_id ∧ entry.rule_id ≠ hsts_not_set.rule_id := by
      decide +kernel
    rcases mem_transport.mp transport with ⟨is, _⟩ | ⟨is, _⟩
    · exact absurd (congrArg Rule.rule_id is) (apart _ known).1
    · exact absurd (congrArg Rule.rule_id is) (apart _ known).2
  · exact content

theorem fired_plaintext (judged : Judged casing context response "http".toList status) :
    plaintext_http ∈ (fired casing context response).map Prod.snd ↔
      redirects casing (headers_for casing context response) status.value = false := by
  have other : plaintext_http ≠ hsts_not_set := fun is => absurd (congrArg Rule.rule_id is) (by decide)
  rw [fired_transport judged (by decide), mem_transport]
  simp only [other, true_and, false_and, or_false]

theorem fired_hsts (judged : Judged casing context response scheme status) (secure : scheme ≠ "http".toList) :
    hsts_not_set ∈ (fired casing context response).map Prod.snd ↔
      HSTS ∈ examined casing response ∧ (headers_for casing context response).lookup HSTS = none := by
  have other : hsts_not_set ≠ plaintext_http := fun is => absurd (congrArg Rule.rule_id is) (by decide)
  rw [fired_transport judged (by decide), mem_transport]
  simp only [other, secure, true_and, false_and, false_or, ne_eq, not_false_eq_true]

theorem fired_nosniff (judged : Judged casing context response scheme status) :
    content_type_options_not_nosniff ∈ (fired casing context response).map Prod.snd ↔ is_content_response status.value = true ∧
      CONTENT_TYPE_OPTIONS ∈ examined casing response ∧ is_nosniff casing (headers_for casing context response) = false := by
  have policy : content_type_options_not_nosniff ≠ content_security_policy_not_set := fun is => absurd (congrArg Rule.rule_id is) (by decide)
  have framing : content_type_options_not_nosniff ≠ frame_protection_not_set := fun is => absurd (congrArg Rule.rule_id is) (by decide)
  rw [fired_on_content judged List.mem_cons_self, mem_content]
  simp only [policy, framing, true_and, false_and, or_false]

theorem fired_policy (judged : Judged casing context response scheme status) :
    content_security_policy_not_set ∈ (fired casing context response).map Prod.snd ↔ is_content_response status.value = true ∧
      CONTENT_SECURITY_POLICY ∈ examined casing response ∧ (headers_for casing context response).lookup CONTENT_SECURITY_POLICY = none := by
  have nosniff : content_security_policy_not_set ≠ content_type_options_not_nosniff := fun is => absurd (congrArg Rule.rule_id is) (by decide)
  have framing : content_security_policy_not_set ≠ frame_protection_not_set := fun is => absurd (congrArg Rule.rule_id is) (by decide)
  rw [fired_on_content judged (List.mem_cons_of_mem _ List.mem_cons_self), mem_content]
  simp only [nosniff, framing, true_and, false_and, false_or, or_false]

theorem fired_framing (judged : Judged casing context response scheme status) :
    frame_protection_not_set ∈ (fired casing context response).map Prod.snd ↔ is_content_response status.value = true ∧
      FRAME_OPTIONS ∈ examined casing response ∧ restricts_framing casing (headers_for casing context response) = false := by
  have nosniff : frame_protection_not_set ≠ content_type_options_not_nosniff := fun is => absurd (congrArg Rule.rule_id is) (by decide)
  have policy : frame_protection_not_set ≠ content_security_policy_not_set := fun is => absurd (congrArg Rule.rule_id is) (by decide)
  rw [fired_on_content judged (List.mem_cons_of_mem _ (List.mem_cons_of_mem _ List.mem_cons_self)), mem_content]
  simp only [nosniff, policy, true_and, false_and, false_or]

end

/-- A rule that fires is not listed as unevaluated. -/
theorem fired_evaluated {response : ObservationView} {rule : Rule} (fires : rule ∈ (fired casing context response).map Prod.snd) :
    rule ∉ unevaluated_rules casing context response := by
  obtain ⟨scheme, status, judged, _⟩ := fired_judged.mp fires
  intro unjudged
  rw [unevaluated_judged judged] at unjudged
  rcases List.mem_append.mp unjudged with missing | content
  · obtain ⟨header, kept, rfl⟩ := List.mem_map.mp missing
    obtain ⟨needs, unexamined⟩ := List.mem_filter.mp kept
    exact of_decide_eq_true unexamined (fired_examined fires needs)
  · split at content
    · cases content
    · rename_i unusual
      exact unusual (fired_content fires judged content)

/-- No rule of a subject is both reported and listed as unevaluated. -/
theorem reported_evaluated {asset_id service_id : Option Int} {rule_id : Text} (reported : Reported casing context asset_id service_id rule_id) :
    (asset_id, service_id, rule_id) ∉ unevaluated casing context := by
  intro listed
  obtain ⟨response, latest, subject, rule, fires, named⟩ := reported_iff.mp reported
  obtain ⟨other, also_latest, same, rule', unjudged, named'⟩ := unevaluated_iff.mp listed
  have one := latest_unique latest also_latest (subject.trans same.symm)
  rw [← one] at unjudged
  have rules := rule_of_id (fired_known fires) (unevaluated_known unjudged) (named.trans named'.symm)
  rw [← rules] at unjudged
  exact fired_evaluated fires unjudged

section
variable {response : ObservationView} {rule : Rule}

theorem reported_response (latest : response ∈ latest_responses context) (known : rule ∈ ALL_RULES) :
    Reported casing context response.asset_id response.service_id rule.rule_id ↔ rule ∈ (fired casing context response).map Prod.snd := by
  rw [reported_iff]
  constructor
  · rintro ⟨other, also_latest, same, other_rule, fires, named⟩
    rw [latest_unique latest also_latest same.symm, ← rule_of_id (fired_known fires) known named]
    exact fires
  · exact fun fires => ⟨response, latest, rfl, rule, fires, rfl⟩

theorem unevaluated_response (latest : response ∈ latest_responses context) (known : rule ∈ ALL_RULES) :
    (response.asset_id, response.service_id, rule.rule_id) ∈ unevaluated casing context ↔
      rule ∈ unevaluated_rules casing context response := by
  rw [unevaluated_iff]
  constructor
  · rintro ⟨other, also_latest, same, other_rule, unjudged, named⟩
    rw [latest_unique latest also_latest same.symm, ← rule_of_id (unevaluated_known unjudged) known named]
    exact unjudged
  · exact fun unjudged => ⟨response, latest, rfl, rule, unjudged, rfl⟩

end

/-! ### The headers of a response -/

theorem lookup_put {α : Type} {key other : Text} {value : α} {entries : List (Text × α)} :
    (put key value entries).lookup other = if other = key then some value else entries.lookup other := by
  induction entries with
  | nil =>
    by_cases same : other = key
    · simp [put, same]
    · simp [put, same, List.lookup, beq_eq_false_iff_ne.mpr same]
  | cons entry entries ih =>
    obtain ⟨first, there⟩ := entry
    unfold put
    by_cases here : first = key
    · rw [if_pos here]
      by_cases same : other = key
      · simp [same]
      · have apart : other ≠ first := fun is => same (is.trans here)
        simp [List.lookup, same, beq_eq_false_iff_ne.mpr same, beq_eq_false_iff_ne.mpr apart]
    · rw [if_neg here]
      by_cases same : other = first
      · have apart : other ≠ key := fun is => here (same.symm.trans is)
        simp [List.lookup, same, here]
      · simp only [List.lookup, beq_eq_false_iff_ne.mpr same, ih]

/-- The header observations of a response. -/
def of_response (context : DetectionContext) (response : ObservationView) : List ObservationView :=
  (of_type context "http_header".toList).filter fun observation =>
    observation.discovery_run_id = response.discovery_run_id ∧ subject_of observation = subject_of response

/-- The name of a header observation. -/
def header_name (casing : Casing) (observation : ObservationView) : Option Text :=
  match get observation "header" with
  | some (.str name) => some (casing.lower name)
  | _ => none

def add_header (casing : Casing) (headers : Headers) (observation : ObservationView) : Headers :=
  match get observation "header", get observation "value" with
  | some (.str name), some (.str value) => put (casing.lower name) (value, observation.id) headers
  | _, _ => headers

/-- The value that is known of a header after one more observation of it. -/
def keep_value (known : Option (Text × Int)) (observation : ObservationView) : Option (Text × Int) :=
  match get observation "value" with
  | some (.str value) => some (value, observation.id)
  | _ => known

theorem headers_for_eq (casing : Casing) (context : DetectionContext) (response : ObservationView) :
    headers_for casing context response = (of_response context response).foldl (add_header casing) [] := by
  rw [headers_for, of_response, List.foldl_filter]
  congr 1
  funext headers observation
  by_cases own : observation.discovery_run_id = response.discovery_run_id ∧ subject_of observation = subject_of response
  · have inside : ¬(observation.discovery_run_id ≠ response.discovery_run_id ∨ subject_of observation ≠ subject_of response) := by
      rintro (run | subject)
      · exact run own.1
      · exact subject own.2
    rw [if_neg inside, if_pos (decide_eq_true own)]
    rfl
  · have outside : observation.discovery_run_id ≠ response.discovery_run_id ∨ subject_of observation ≠ subject_of response := by
      by_cases run : observation.discovery_run_id = response.discovery_run_id
      · exact Or.inr fun subject => own ⟨run, subject⟩
      · exact Or.inl run
    rw [if_pos outside, if_neg (by simpa using own)]

/-- What is known of a header comes from the observations of that header. -/
theorem lookup_headers {observations : List ObservationView} {headers : Headers} {name : Text} :
    (observations.foldl (add_header casing) headers).lookup name =
      (observations.filter fun observation => header_name casing observation = some name).foldl keep_value (headers.lookup name) := by
  induction observations generalizing headers with
  | nil => rfl
  | cons observation observations ih =>
    rw [List.foldl_cons, ih]
    by_cases named : header_name casing observation = some name
    · rw [List.filter_cons, if_pos (decide_eq_true named), List.foldl_cons]
      congr 1
      unfold header_name at named
      split at named
      · rename_i written is
        unfold add_header keep_value
        rw [is]
        split
        · rename_i name' value same valued
          cases same
          rw [valued, lookup_put, if_pos (Option.some.inj named).symm]
        · rename_i other
          split
          · rename_i value valued
            exact absurd valued (other _ _ rfl)
          · rfl
      · cases named
    · rw [List.filter_cons, if_neg (by simpa using named)]
      congr 1
      unfold add_header
      split
      · rename_i written value is valued
        have apart : name ≠ casing.lower written := by
          intro same
          apply named
          rw [header_name, is, same]
        rw [lookup_put, if_neg apart]
      · rfl

end
end RedDock.HeaderVerdicts
