import RedDock.HttpProbe
import RedDock.ExaminedHeaders

/-!
# Validating a header finding

The recheck of a recorded HTTP finding: the same probe, and `_judge` over what
it answered. It comes to what the detector says of the same response.
-/
set_option autoImplicit false
namespace RedDock.Validation
open Text Detection Inventory HttpProbe
open HttpHeaders (Rule plaintext_http hsts_not_set content_type_options_not_nosniff content_security_policy_not_set
  frame_protection_not_set dec_int put)
open ServiceRules (Casing)

inductive Outcome
  | confirmed
  | not_reproduced
  | indeterminate
  deriving DecidableEq, Repr

/-- What a response says of a finding. -/
structure Judgement where
  outcome : Outcome
  confidence : Text
  summary : Text
  deriving DecidableEq

/-- `str` headers by their names in lower case. -/
abbrev Headers := List (Text × Text)

def HTTP_RULES : List Text := HttpHeaders.ALL_RULES.map Rule.rule_id
def CONTENT_RULES : List Text := HttpHeaders.CONTENT_RULES.map Rule.rule_id

/-- `_content_response` -/
def content_response (status : Int) : Bool := status < 300 || (400 ≤ status && status < 500)

/-- `_presence_result` -/
def presence_result (present : Bool) (label : String) : Judgement :=
  if present then ⟨.not_reproduced, "high".toList, "The response now carries ".toList ++ label.toList⟩
  else ⟨.confirmed, "high".toList, "The response still does not carry ".toList ++ label.toList⟩

section
variable (casing : Casing)

/-- A plaintext response that redirects to HTTPS. -/
def redirected (status : Int) (headers : Headers) : Bool :=
  300 ≤ status && status < 400 && "https://".toList.isPrefixOf (casing.lower ((headers.lookup "location".toList).getD []))

/-- `_judge`, or the message of a refusal. -/
def judge (rule_id : Text) (status : Int) (headers : Headers) : Except Text Judgement :=
  if rule_id = plaintext_http.rule_id then
    if redirected casing status headers then
      .ok ⟨.not_reproduced, "high".toList, "The origin now redirects plaintext HTTP to HTTPS".toList⟩
    else .ok ⟨.confirmed, "high".toList, "The origin still answered over plaintext HTTP with HTTP ".toList ++ dec_int status⟩
  else if rule_id ∈ CONTENT_RULES ∧ content_response status = false then
    .ok ⟨.indeterminate, "medium".toList, "HTTP ".toList ++ dec_int status ++ " is not a normal content response for this check".toList⟩
  else if rule_id = hsts_not_set.rule_id then
    .ok (presence_result (headers.lookup "strict-transport-security".toList).isSome "Strict-Transport-Security")
  else if rule_id = content_security_policy_not_set.rule_id then
    .ok (presence_result (headers.lookup "content-security-policy".toList).isSome "Content-Security-Policy")
  else if rule_id = content_type_options_not_nosniff.rule_id then
    .ok (presence_result (casing.lower (strip ((headers.lookup "x-content-type-options".toList).getD [])) = "nosniff".toList)
      "X-Content-Type-Options: nosniff")
  else if rule_id = frame_protection_not_set.rule_id then
    .ok (presence_result (HttpHeaders.framing_restricted casing (headers.lookup "x-frame-options".toList)
      (headers.lookup "content-security-policy".toList)) "a framing restriction")
  else .error "This finding has no Phase 3 non-destructive validation profile".toList

/-- `str(detail.get(key, ""))` of a detail that holds texts. -/
def detail_text (observation : DiscoveredObservation) (key : String) : Text :=
  match (observation.detail.getD []).lookup key.toList with
  | some (.str t) => t
  | _ => []

/-- The headers among the observations of a probe. -/
def probe_headers (observations : List DiscoveredObservation) : Headers :=
  (observations.filter fun observation => observation.observation_type = "http_header".toList).foldl (fun headers observation =>
    put (casing.lower (detail_text observation "header")) (detail_text observation "value") headers) []

structure ValidationResult where
  judgement : Judgement
  detail : List (Text × Json)
  raw : List UInt8

/-- `_validate`, of what the probe answered. -/
def validate (rule_id : Text) (target : Target) (observations : List DiscoveredObservation) (artifacts : List RawArtifact) :
    Except Text ValidationResult :=
  let response := observations.find? fun observation => observation.observation_type = "http_response".toList
  let headers := probe_headers casing observations
  let raw := (artifacts.head?.map RawArtifact.content).getD "{}".toUTF8.toList
  match response.bind fun response => HttpHeaders.as_int ((response.detail.getD []).lookup "status".toList) with
  | none => .ok {
      judgement := ⟨.indeterminate, "low".toList, "RedDock could not obtain an HTTP response from ".toList ++ target.value⟩
      detail := [("rule_id".toList, .str rule_id), ("headers".toList, .object (headers.map fun header => (header.1, .str header.2))),
        ("reachable".toList, .bool false)]
      raw := raw }
  | some status => do
      let judgement ← judge casing rule_id status.value headers
      return {
        judgement := judgement
        detail := [("rule_id".toList, .str rule_id), ("target".toList, .str target.value), ("status".toList, .int status.value),
          ("headers_examined".toList, .list (((headers.map Prod.fst).insertionSort (· ≤ ·)).map .str)),
          ("address".toList, ((response.bind fun response => (response.detail.getD []).lookup "address".toList).getD .null))]
        raw := raw }

end

/-! ### The same response, judged twice -/

/-- A snapshot holds what the probe made of an outcome: the response and the
    headers that were recorded with it. -/
structure Recorded (target : Target) (address : Text) (outcome : ProbeOutcome) (status : Int) (context : DetectionContext)
    (response : ObservationView) : Prop where
  answered : outcome.status = some status
  latest : response ∈ HttpHeaders.latest_responses context
  detail : response.detail = (http_response target address outcome status).detail.getD []
  headers : (HeaderVerdicts.of_response context response).map ObservationView.detail =
    outcome.headers.map fun header => (http_header target header).detail.getD []

/-- The schemes a rule can be reported for. -/
def Reportable (rule : Rule) (scheme : Option Text) : Prop :=
  (scheme = some "http".toList ∧ rule ≠ hsts_not_set) ∨ (scheme = some "https".toList ∧ rule ≠ plaintext_http)

section
variable {casing : HeaderVerdicts.AsciiCasing} {u : Unicode} {target : Target} {address : Text} {outcome : ProbeOutcome} {status : Int}
  {context : DetectionContext} {response : ObservationView}

theorem examined_recorded (recorded : Recorded target address outcome status context response) :
    HttpHeaders.examined casing.toCasing response = RECORDED_HEADERS := by
  have listed : HttpHeaders.get response "headers_examined" = some (.list (RECORDED_HEADERS.map .str)) := by
    rw [HttpHeaders.get, recorded.detail]
    rfl
  have ascii : RECORDED_HEADERS.all (fun header => isAscii header && decide (header.map Char.toLower = header)) = true := by decide +kernel
  rw [HttpHeaders.examined, listed]
  show (RECORDED_HEADERS.map Json.str).filterMap _ = _
  rw [List.filterMap_map]
  have kept : ∀ header ∈ RECORDED_HEADERS, casing.lower header = header := by
    intro header member
    have small := List.all_eq_true.mp ascii header member
    rw [Bool.and_eq_true, decide_eq_true_eq] at small
    rw [casing.lower_ascii header small.1, small.2]
  refine (List.filterMap_congr fun header member => ?_).trans List.filterMap_some
  show some (casing.lower header) = some header
  rw [kept header member]

theorem recorded_judged (recorded : Recorded target address outcome status context response) {scheme : Text}
    (scheme_is : target.scheme = some scheme) (known : scheme = "http".toList ∨ scheme = "https".toList) :
    HeaderVerdicts.Judged casing.toCasing context response scheme ⟨status, dec_int status, .int status⟩ := by
  refine ⟨?_, ?_, ?_⟩
  · rw [examined_recorded recorded]
    exact List.cons_ne_nil _ _
  · have stated : HttpHeaders.get response "scheme" = some (.str scheme) := by
      rw [HttpHeaders.get, recorded.detail]
      show some (json_of target.scheme) = _
      rw [scheme_is]
      rfl
    rw [HttpHeaders.scheme, stated]
    exact if_pos known
  · have stated : HttpHeaders.get response "status" = some (.int status) := by
      rw [HttpHeaders.get, recorded.detail]
      rfl
    rw [stated]
    rfl

/-- A header without its observation. -/
def plain (header : Text × Text × Int) : Text × Text := (header.1, header.2.1)

theorem put_plain {name value : Text} {id : Int} {headers : HttpHeaders.Headers} :
    (put name (value, id) headers).map plain = put name value (headers.map plain) := by
  induction headers with
  | nil => rfl
  | cons header headers ih =>
    unfold put
    by_cases same : header.1 = name
    · rw [if_pos same]
      show _ = if header.1 = name then _ else _
      rw [if_pos same]
      rfl
    · rw [if_neg same]
      show _ = if header.1 = name then _ else _
      rw [if_neg same, List.map_cons, ih]

theorem headers_folded {observations : List ObservationView} {headers : List (Text × Text)} (known : HttpHeaders.Headers)
    (details : observations.map ObservationView.detail = headers.map fun header => (http_header target header).detail.getD []) :
    (observations.foldl (HeaderVerdicts.add_header casing.toCasing) known).map plain =
      headers.foldl (fun headers header => put (casing.lower header.1) header.2 headers) (known.map plain) := by
  induction headers generalizing observations known with
  | nil =>
    rw [List.map_nil, List.map_eq_nil_iff] at details
    rw [details]
    rfl
  | cons header headers ih =>
    cases observations with
    | nil => cases details
    | cons observation observations =>
      rw [List.map_cons, List.map_cons] at details
      obtain ⟨own, rest⟩ := List.cons.inj details
      have named : HttpHeaders.get observation "header" = some (.str header.1) := by
        rw [HttpHeaders.get, own]
        rfl
      have valued : HttpHeaders.get observation "value" = some (.str header.2) := by
        rw [HttpHeaders.get, own]
        rfl
      have added : HeaderVerdicts.add_header casing.toCasing known observation =
          put (casing.lower header.1) (header.2, observation.id) known := by
        rw [HeaderVerdicts.add_header, named, valued]
      rw [List.foldl_cons, List.foldl_cons, added, ih _ rest, put_plain]

/-- The validator reads the headers that the detector does. -/
theorem headers_recorded (recorded : Recorded target address outcome status context response) :
    (HttpHeaders.headers_for casing.toCasing context response).map plain = probe_headers casing.toCasing (HttpProbe.normalize u target address outcome).2 := by
  have headers_only : (HttpProbe.normalize u target address outcome).2.filter (fun observation => observation.observation_type = "http_header".toList) =
      outcome.headers.map (http_header target) := by
    have response_other : "http_response".toList ≠ "http_header".toList := by decide
    have tls_other : "tls_session".toList ≠ "http_header".toList := by decide
    have kept : (outcome.headers.map (http_header target)).filter (fun observation => observation.observation_type = "http_header".toList) =
        outcome.headers.map (http_header target) := by
      refine List.filter_eq_self.mpr fun observation member => ?_
      obtain ⟨header, _, rfl⟩ := List.mem_map.mp member
      exact decide_eq_true rfl
    have dropped : ((outcome.tls.map (tls_session target)).toList).filter
        (fun observation => observation.observation_type = "http_header".toList) = [] := by
      refine List.filter_eq_nil_iff.mpr fun observation member => ?_
      obtain ⟨tls, _, rfl⟩ := Option.map_eq_some_iff.mp (Option.mem_toList.mp member)
      exact (Bool.eq_false_iff.mp (decide_eq_false tls_other))
    have first : ¬decide ((http_response target address outcome status).observation_type = "http_header".toList) = true :=
      Bool.eq_false_iff.mp (decide_eq_false response_other)
    unfold HttpProbe.normalize
    rw [recorded.answered]
    show List.filter _ (http_response target address outcome status :: (_ ++ _)) = _
    rw [List.filter_cons, if_neg first, List.filter_append, kept, dropped, List.append_nil]
  rw [HeaderVerdicts.headers_for_eq, headers_folded [] recorded.headers, probe_headers, headers_only, List.foldl_map]
  rfl

theorem lookup_plain {headers : HttpHeaders.Headers} {name : Text} : (headers.map plain).lookup name = (headers.lookup name).map Prod.fst := by
  induction headers with
  | nil => rfl
  | cons header headers ih =>
    obtain ⟨first, value, id⟩ := header
    show List.lookup name ((first, value) :: headers.map plain) = _
    by_cases same : name = first
    · simp [List.lookup, same]
    · simp only [List.lookup, beq_eq_false_iff_ne.mpr same, ih]

/-- The values the validator looks up are those the detector does. -/
theorem probe_lookup (recorded : Recorded target address outcome status context response) (name : Text) :
    (probe_headers casing.toCasing (HttpProbe.normalize u target address outcome).2).lookup name =
      ((HttpHeaders.headers_for casing.toCasing context response).lookup name).map Prod.fst := by
  rw [← headers_recorded recorded, lookup_plain]

theorem lower_nil (casing : HeaderVerdicts.AsciiCasing) : casing.lower [] = [] := casing.lower_ascii [] rfl

/-- What a judgement comes to: the rule fires, is evaluated or is not. -/
inductive Verdict (casing : HeaderVerdicts.AsciiCasing) (context : DetectionContext) (response : ObservationView) (rule : Rule) : Outcome → Prop
  | fires : rule ∈ (HttpHeaders.fired casing.toCasing context response).map Prod.snd → Verdict casing context response rule .confirmed
  | holds : rule ∉ (HttpHeaders.fired casing.toCasing context response).map Prod.snd →
      rule ∉ HttpHeaders.unevaluated_rules casing.toCasing context response → Verdict casing context response rule .not_reproduced
  | unjudged : rule ∈ HttpHeaders.unevaluated_rules casing.toCasing context response → Verdict casing context response rule .indeterminate

/-- With everything examined, the content rules are unevaluated where the
    response is not the usual one, and no others. -/
theorem unevaluated_recorded (recorded : Recorded target address outcome status context response) {scheme : Text}
    (judged : HeaderVerdicts.Judged casing.toCasing context response scheme ⟨status, dec_int status, .int status⟩) {rule : Rule} :
    rule ∈ HttpHeaders.unevaluated_rules casing.toCasing context response ↔
      HttpHeaders.is_content_response status = false ∧ rule ∈ HttpHeaders.CONTENT_RULES := by
  have none_missing : HttpHeaders.HEADER_RULES.filter (fun header => header.1 ∉ RECORDED_HEADERS) = [] := by
    refine List.filter_eq_nil_iff.mpr ?_
    decide +kernel
  rw [HeaderVerdicts.unevaluated_judged judged, examined_recorded recorded, none_missing, List.map_nil, List.nil_append]
  by_cases usual : HttpHeaders.is_content_response status = true
  · simp [usual]
  · simp [usual]

/-- A rule of presence: it fires where what it asks for is absent. -/
theorem presence_verdict {rule : Rule} {present : Bool} {label : String}
    (fires : rule ∈ (HttpHeaders.fired casing.toCasing context response).map Prod.snd ↔ present = false)
    (evaluated : rule ∉ HttpHeaders.unevaluated_rules casing.toCasing context response) :
    Verdict casing context response rule (presence_result present label).outcome := by
  cases present with
  | true => exact .holds (fun never => Bool.noConfusion (fires.mp never)) evaluated
  | false => exact .fires (fires.mpr rfl)

/-! ### Each rule, judged -/

variable (casing) in
theorem judge_plaintext (status : Int) (headers : Headers) : ∃ judgement, judge casing.toCasing plaintext_http.rule_id status headers = .ok judgement ∧
    judgement.outcome = if redirected casing.toCasing status headers then .not_reproduced else .confirmed := by
  unfold judge
  rw [if_pos rfl]
  by_cases secure : redirected casing.toCasing status headers = true
  · exact ⟨_, if_pos secure, (if_pos secure).symm⟩
  · exact ⟨_, if_neg secure, (if_neg secure).symm⟩

theorem judge_hsts (status : Int) (headers : Headers) : judge casing.toCasing hsts_not_set.rule_id status headers =
    .ok (presence_result (headers.lookup HttpHeaders.HSTS).isSome "Strict-Transport-Security") := by
  have apart : ¬(hsts_not_set.rule_id ∈ CONTENT_RULES ∧ content_response status = false) := fun both => absurd both.1 (by decide +kernel)
  unfold judge
  rw [if_neg (by decide), if_neg apart, if_pos rfl]
  rfl

variable (casing) in
theorem judge_unusual {rule : Rule} (content : rule ∈ HttpHeaders.CONTENT_RULES) {status : Int} (unusual : content_response status = false)
    (headers : Headers) : ∃ judgement, judge casing.toCasing rule.rule_id status headers = .ok judgement ∧ judgement.outcome = .indeterminate := by
  have other : ∀ known ∈ HttpHeaders.CONTENT_RULES, known.rule_id ≠ plaintext_http.rule_id := by decide +kernel
  unfold judge
  rw [if_neg (other rule content), if_pos ⟨List.mem_map_of_mem content, unusual⟩]
  exact ⟨_, rfl, rfl⟩

section
variable {status : Int} (usual : content_response status = true) (headers : Headers)
include usual

theorem judge_policy : judge casing.toCasing content_security_policy_not_set.rule_id status headers =
    .ok (presence_result (headers.lookup HttpHeaders.CONTENT_SECURITY_POLICY).isSome "Content-Security-Policy") := by
  have served : ∀ rule_id : Text, ¬(rule_id ∈ CONTENT_RULES ∧ content_response status = false) := fun _ both =>
    Bool.noConfusion (usual.symm.trans both.2)
  unfold judge
  rw [if_neg (by decide), if_neg (served _), if_neg (by decide), if_pos rfl]
  rfl

theorem judge_nosniff : judge casing.toCasing content_type_options_not_nosniff.rule_id status headers =
    .ok (presence_result (casing.lower (strip ((headers.lookup HttpHeaders.CONTENT_TYPE_OPTIONS).getD [])) = HttpHeaders.NOSNIFF)
      "X-Content-Type-Options: nosniff") := by
  have served : ∀ rule_id : Text, ¬(rule_id ∈ CONTENT_RULES ∧ content_response status = false) := fun _ both =>
    Bool.noConfusion (usual.symm.trans both.2)
  unfold judge
  rw [if_neg (by decide), if_neg (served _), if_neg (by decide), if_neg (by decide), if_pos rfl]
  rfl

theorem judge_framing : judge casing.toCasing frame_protection_not_set.rule_id status headers =
    .ok (presence_result (HttpHeaders.framing_restricted casing.toCasing (headers.lookup HttpHeaders.FRAME_OPTIONS)
      (headers.lookup HttpHeaders.CONTENT_SECURITY_POLICY)) "a framing restriction") := by
  have served : ∀ rule_id : Text, ¬(rule_id ∈ CONTENT_RULES ∧ content_response status = false) := fun _ both =>
    Bool.noConfusion (usual.symm.trans both.2)
  unfold judge
  rw [if_neg (by decide), if_neg (served _), if_neg (by decide), if_neg (by decide), if_neg (by decide), if_pos rfl]
  rfl

end

/-- The validator's judgement of a rule is the detector's. -/
def Agrees (casing : HeaderVerdicts.AsciiCasing) (u : Unicode) (target : Target) (address : Text) (outcome : ProbeOutcome) (status : Int)
    (context : DetectionContext) (response : ObservationView) (rule : Rule) : Prop :=
  ∃ judgement, judge casing.toCasing rule.rule_id status (probe_headers casing.toCasing (HttpProbe.normalize u target address outcome).2) =
    .ok judgement ∧ Verdict casing context response rule judgement.outcome

section
variable (recorded : Recorded target address outcome status context response) {scheme : Text}
  (judged : HeaderVerdicts.Judged casing.toCasing context response scheme ⟨status, dec_int status, .int status⟩)
include recorded judged

theorem agrees_plaintext (plaintext : scheme = "http".toList) : Agrees casing u target address outcome status context response plaintext_http := by
  obtain ⟨judgement, is, comes⟩ := judge_plaintext casing status
    (probe_headers casing.toCasing (HttpProbe.normalize u target address outcome).2)
  refine ⟨judgement, is, ?_⟩
  subst plaintext
  have evaluated : plaintext_http ∉ HttpHeaders.unevaluated_rules casing.toCasing context response := by
    rw [unevaluated_recorded recorded judged]
    exact fun both => absurd (List.mem_map_of_mem both.2) (by decide +kernel : plaintext_http.rule_id ∉ HttpHeaders.CONTENT_RULES.map Rule.rule_id)
  have same : redirected casing.toCasing status (probe_headers casing.toCasing (HttpProbe.normalize u target address outcome).2) =
      HttpHeaders.redirects casing.toCasing (HttpHeaders.headers_for casing.toCasing context response) status := by
    have found : (probe_headers casing.toCasing (HttpProbe.normalize u target address outcome).2).lookup HttpHeaders.LOCATION = _ :=
      probe_lookup recorded HttpHeaders.LOCATION
    rw [redirected, HttpHeaders.redirects]
    show (_ && "https://".toList.isPrefixOf (casing.lower ((List.lookup HttpHeaders.LOCATION _).getD []))) = _
    rw [found]
    cases (HttpHeaders.headers_for casing.toCasing context response).lookup HttpHeaders.LOCATION with
    | none =>
      show (_ && "https://".toList.isPrefixOf (casing.lower [])) = _
      rw [lower_nil]
      rfl
    | some value => rfl
  have fires := HeaderVerdicts.fired_plaintext judged
  rw [comes, same]
  by_cases secure : HttpHeaders.redirects casing.toCasing (HttpHeaders.headers_for casing.toCasing context response) status = true
  · rw [if_pos secure]
    exact .holds (fun member => Bool.noConfusion (secure.symm.trans (fires.mp member))) evaluated
  · rw [if_neg secure]
    exact .fires (fires.mpr (Bool.not_eq_true _ ▸ secure))

theorem agrees_hsts (secure : scheme ≠ "http".toList) : Agrees casing u target address outcome status context response hsts_not_set := by
  have evaluated : hsts_not_set ∉ HttpHeaders.unevaluated_rules casing.toCasing context response := by
    rw [unevaluated_recorded recorded judged]
    exact fun both => absurd (List.mem_map_of_mem both.2) (by decide +kernel : hsts_not_set.rule_id ∉ HttpHeaders.CONTENT_RULES.map Rule.rule_id)
  have looked : HttpHeaders.HSTS ∈ HttpHeaders.examined casing.toCasing response := by
    rw [examined_recorded recorded]
    decide +kernel
  refine ⟨_, judge_hsts status _, presence_verdict ?_ evaluated⟩
  rw [HeaderVerdicts.fired_hsts judged secure, probe_lookup recorded, Option.isSome_map, Option.isSome_eq_false_iff, Option.isNone_iff_eq_none]
  exact ⟨And.right, fun absent => ⟨looked, absent⟩⟩

theorem agrees_content {rule : Rule} (content : rule ∈ HttpHeaders.CONTENT_RULES) :
    Agrees casing u target address outcome status context response rule := by
  by_cases usual : content_response status = true
  · have evaluated : rule ∉ HttpHeaders.unevaluated_rules casing.toCasing context response := by
      rw [unevaluated_recorded recorded judged]
      exact fun both => Bool.noConfusion (usual.symm.trans both.1)
    have looked : ∀ header ∈ RECORDED_HEADERS, header ∈ HttpHeaders.examined casing.toCasing response := by
      rw [examined_recorded recorded]
      exact fun _ => id
    rcases List.mem_cons.mp content with rfl | content
    · refine ⟨_, judge_nosniff usual _, presence_verdict ?_ evaluated⟩
      rw [HeaderVerdicts.fired_nosniff judged, probe_lookup recorded, HttpHeaders.is_nosniff]
      have examined := looked HttpHeaders.CONTENT_TYPE_OPTIONS (by decide +kernel)
      have served : HttpHeaders.is_content_response status = true := usual
      simp only [served, examined, true_and]
      cases (HttpHeaders.headers_for casing.toCasing context response).lookup HttpHeaders.CONTENT_TYPE_OPTIONS with
      | none =>
        show (false = false ↔ decide (casing.lower [] = HttpHeaders.NOSNIFF) = false)
        rw [lower_nil]
        decide
      | some value => exact Iff.rfl
    · rcases List.mem_cons.mp content with rfl | content
      · refine ⟨_, judge_policy usual _, presence_verdict ?_ evaluated⟩
        have examined := looked HttpHeaders.CONTENT_SECURITY_POLICY (by decide +kernel)
        rw [HeaderVerdicts.fired_policy judged, probe_lookup recorded, Option.isSome_map, Option.isSome_eq_false_iff, Option.isNone_iff_eq_none]
        exact ⟨fun fires => fires.2.2, fun absent => ⟨usual, examined, absent⟩⟩
      · rw [List.mem_singleton] at content
        subst content
        refine ⟨_, judge_framing usual _, presence_verdict ?_ evaluated⟩
        have examined := looked HttpHeaders.FRAME_OPTIONS (by decide +kernel)
        rw [HeaderVerdicts.fired_framing judged, probe_lookup recorded, probe_lookup recorded]
        exact ⟨fun fires => fires.2.2, fun absent => ⟨usual, examined, absent⟩⟩
  · have unusual : content_response status = false := Bool.not_eq_true _ ▸ usual
    obtain ⟨judgement, is, comes⟩ := judge_unusual casing content unusual
      (probe_headers casing.toCasing (HttpProbe.normalize u target address outcome).2)
    refine ⟨judgement, is, comes ▸ .unjudged ((unevaluated_recorded recorded judged).mpr ⟨unusual, content⟩)⟩

end

/-- Every rule that can be reported is judged as the detector judges it. -/
theorem reportable_agrees (recorded : Recorded target address outcome status context response) {rule : Rule} (known : rule ∈ HttpHeaders.ALL_RULES)
    (reportable : Reportable rule target.scheme) : Agrees casing u target address outcome status context response rule := by
  obtain ⟨scheme, scheme_is, schemes, apart⟩ : ∃ scheme, target.scheme = some scheme ∧ (scheme = "http".toList ∨ scheme = "https".toList) ∧
      (rule = plaintext_http → scheme = "http".toList) ∧ (rule = hsts_not_set → scheme ≠ "http".toList) := by
    rcases reportable with ⟨scheme_is, other⟩ | ⟨scheme_is, other⟩
    · exact ⟨_, scheme_is, Or.inl rfl, fun _ => rfl, fun is => absurd is other⟩
    · exact ⟨_, scheme_is, Or.inr rfl, fun is => absurd is other, fun _ => by decide⟩
  have judged : HeaderVerdicts.Judged casing.toCasing context response scheme ⟨status, dec_int status, .int status⟩ :=
    recorded_judged recorded scheme_is schemes
  rcases List.mem_append.mp known with transport | content
  · rcases List.mem_cons.mp transport with rfl | transport
    · exact agrees_plaintext recorded judged (apart.1 rfl)
    · rw [List.mem_singleton] at transport
      subst transport
      exact agrees_hsts recorded judged (apart.2 rfl)
  · exact agrees_content recorded judged content

/-- A response that was probed is judged from its status and headers. -/
theorem validate_probed (answered : outcome.status = some status) (rule_id : Text) (artifacts : List RawArtifact) {judgement : Judgement}
    (judges : judge casing.toCasing rule_id status (probe_headers casing.toCasing (HttpProbe.normalize u target address outcome).2) = .ok judgement) :
    ∃ result, validate casing.toCasing rule_id target (HttpProbe.normalize u target address outcome).2 artifacts = .ok result ∧
      result.judgement = judgement := by
  have found : (HttpProbe.normalize u target address outcome).2.find? (fun observation => observation.observation_type = "http_response".toList) =
      some (http_response target address outcome status) := by
    unfold HttpProbe.normalize
    rw [answered]
    exact List.find?_cons_of_pos (decide_eq_true rfl)
  have reads : HttpHeaders.as_int (((http_response target address outcome status).detail.getD []).lookup "status".toList) =
      some ⟨status, dec_int status, .int status⟩ := rfl
  unfold validate
  rw [found]
  simp only [Option.bind_some]
  rw [reads]
  simp only
  rw [judges]
  exact ⟨_, rfl, rfl⟩

/-- The recheck of a response says of a rule what the detector says of the
    same response. -/
theorem validator_agrees (casing : HeaderVerdicts.AsciiCasing) (u : Unicode) (target : Target) (address : Text) (outcome : ProbeOutcome)
    (status : Int) (context : DetectionContext) (response : ObservationView) (artifacts : List RawArtifact)
    (recorded : Recorded target address outcome status context response) (rule : Rule) (known : rule ∈ HttpHeaders.ALL_RULES)
    (reportable : Reportable rule target.scheme) :
    ∃ result, validate casing.toCasing rule.rule_id target (HttpProbe.normalize u target address outcome).2 artifacts = .ok result ∧
      judge casing.toCasing rule.rule_id status (probe_headers casing.toCasing (HttpProbe.normalize u target address outcome).2) =
        .ok result.judgement ∧
      (result.judgement.outcome = .confirmed ↔
        HeaderVerdicts.Reported casing.toCasing context response.asset_id response.service_id rule.rule_id) ∧
      (result.judgement.outcome = .not_reproduced ↔
        ¬HeaderVerdicts.Reported casing.toCasing context response.asset_id response.service_id rule.rule_id ∧
          (response.asset_id, response.service_id, rule.rule_id) ∉ HttpHeaders.unevaluated casing.toCasing context) ∧
      (result.judgement.outcome = .indeterminate ↔
        (response.asset_id, response.service_id, rule.rule_id) ∈ HttpHeaders.unevaluated casing.toCasing context) := by
  obtain ⟨judgement, judges, verdict⟩ : Agrees casing u target address outcome status context response rule :=
    reportable_agrees recorded known reportable
  obtain ⟨result, validates, rfl⟩ := validate_probed (u := u) recorded.answered rule.rule_id artifacts judges
  refine ⟨result, validates, judges, ?_⟩
  rw [HeaderVerdicts.reported_response recorded.latest known, HeaderVerdicts.unevaluated_response recorded.latest known]
  cases is : result.judgement.outcome with
  | confirmed =>
    rw [is] at verdict
    obtain ⟨fires⟩ := verdict
    simp [fires, HeaderVerdicts.fired_evaluated fires]
  | not_reproduced =>
    rw [is] at verdict
    obtain _ | ⟨silent, evaluated⟩ := verdict
    simp [silent, evaluated]
  | indeterminate =>
    rw [is] at verdict
    obtain _ | _ | ⟨unjudged⟩ := verdict
    have silent : rule ∉ (HttpHeaders.fired casing.toCasing context response).map Prod.snd := fun fires =>
      HeaderVerdicts.fired_evaluated fires unjudged
    simp only [unjudged, silent, reduceCtorEq, not_true_eq_false, and_false, and_self]

end

/-- An origin that restricts framing, and its snapshot. -/
def probed_target : Target := { kind := .url, value := "https://10.0.0.1".toList, host := "10.0.0.1".toList, scheme := some "https".toList }

def probed : ProbeOutcome := { status := some 200, headers := [("X-Frame-Options".toList, "DENY".toList)] }

def probed_response : ObservationView where
  id := 2
  discovery_run_id := some 1
  asset_id := some 1
  observation_type := "http_response".toList
  observed_at := 0
  detail := (http_response probed_target "10.0.0.1".toList probed 200).detail.getD []

def probed_header : ObservationView where
  id := 3
  discovery_run_id := some 1
  asset_id := some 1
  observation_type := "http_header".toList
  observed_at := 0
  detail := (http_header probed_target ("X-Frame-Options".toList, "DENY".toList)).detail.getD []

def probed_context : DetectionContext where
  generated_at := 0
  observations := [probed_response, probed_header]

theorem validator_agrees_restricted :
    ¬HeaderVerdicts.Reported ExaminedHeaders.ascii.toCasing probed_context (some 1) none frame_protection_not_set.rule_id ∧
      (some 1, none, frame_protection_not_set.rule_id) ∉ HttpHeaders.unevaluated ExaminedHeaders.ascii.toCasing probed_context := by
  have recorded : Recorded probed_target "10.0.0.1".toList probed 200 probed_context probed_response :=
    ⟨rfl, List.mem_singleton_self _, rfl, rfl⟩
  have known : frame_protection_not_set ∈ HttpHeaders.ALL_RULES := List.mem_append_right _ (by simp [HttpHeaders.CONTENT_RULES])
  have reportable : Reportable frame_protection_not_set probed_target.scheme :=
    Or.inr ⟨rfl, fun is => absurd (congrArg Rule.rule_id is) (by decide)⟩
  obtain ⟨result, _, judges, _, holds, _⟩ := validator_agrees ExaminedHeaders.ascii Unicode.plain probed_target "10.0.0.1".toList probed 200
    probed_context probed_response [] recorded frame_protection_not_set known reportable
  have judged : (judge ExaminedHeaders.ascii.toCasing frame_protection_not_set.rule_id 200 (probe_headers ExaminedHeaders.ascii.toCasing
      (HttpProbe.normalize Unicode.plain probed_target "10.0.0.1".toList probed).2)).map Judgement.outcome = .ok .not_reproduced := by
    decide +kernel
  rw [judges] at judged
  exact holds.mp (Except.ok.inj judged)

end RedDock.Validation
