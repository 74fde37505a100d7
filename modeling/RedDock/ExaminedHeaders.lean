import RedDock.HeaderVerdicts

/-!
# Headers that were examined

What `http.security_headers` says of a response, over two snapshots that agree
on the headers its probe examined.
-/
set_option autoImplicit false
namespace RedDock.ExaminedHeaders
open Text Detection HttpHeaders HeaderVerdicts
open ServiceRules (Casing of_type)

section
variable (casing : Casing)

/-- The observations of the headers that a response was examined for. -/
def examined_headers (context : DetectionContext) (response : ObservationView) : List ObservationView :=
  (of_response context response).filter fun observation => (header_name casing observation).any (· ∈ examined casing response)

/-- Two snapshots differ at most in headers that were not examined. -/
structure Agree (first second : DetectionContext) : Prop where
  assets : second.assets = first.assets
  responses : latest_responses second = latest_responses first
  headers : ∀ response ∈ latest_responses first, examined_headers casing second response = examined_headers casing first response

/-- Two snapshots are judged the same. -/
def SameVerdicts (first second : DetectionContext) : Prop :=
  ∀ asset_id service_id rule_id, (Reported casing first asset_id service_id rule_id ↔ Reported casing second asset_id service_id rule_id) ∧
    ((asset_id, service_id, rule_id) ∈ unevaluated casing first ↔ (asset_id, service_id, rule_id) ∈ unevaluated casing second)

/-- No rule of a subject is both reported and listed as unevaluated. -/
def Exclusive (context : DetectionContext) : Prop :=
  ∀ asset_id service_id rule_id, ¬(Reported casing context asset_id service_id rule_id ∧ (asset_id, service_id, rule_id) ∈ unevaluated casing context)

/-- The rules read no header of a response but those that were examined: a
    plaintext redirect only with its location, and framing only with the policy,
    unless the frame options are enough. -/
structure ReadsExamined (context : DetectionContext) (response : ObservationView) : Prop where
  location : ∀ scheme status, Judged casing context response scheme status → scheme = "http".toList → 300 ≤ status.value →
    status.value < 400 → LOCATION ∈ examined casing response
  framing : ∀ scheme status, Judged casing context response scheme status → is_content_response status.value = true →
    FRAME_OPTIONS ∈ examined casing response → CONTENT_SECURITY_POLICY ∈ examined casing response ∨
      framing_restricted casing (((headers_for casing context response).lookup FRAME_OPTIONS).map Prod.fst) none = true

variable {casing} {first second : DetectionContext} {response : ObservationView}

theorem Agree.scheme (agree : Agree casing first second) : scheme second response = scheme first response := by
  have same : asset_of second response = asset_of first response := by rw [asset_of, agree.assets]; rfl
  unfold HttpHeaders.scheme HttpHeaders.scheme.of_origin
  rw [same]

theorem Agree.judged (agree : Agree casing first second) {scheme : Text} {status : Status} :
    Judged casing second response scheme status ↔ Judged casing first response scheme status :=
  ⟨fun judged => ⟨judged.examined, agree.scheme ▸ judged.scheme, judged.status⟩,
    fun judged => ⟨judged.examined, agree.scheme.trans judged.scheme, judged.status⟩⟩

theorem Agree.unevaluated_rules (agree : Agree casing first second) :
    unevaluated_rules casing second response = unevaluated_rules casing first response := by
  unfold HttpHeaders.unevaluated_rules
  rw [agree.scheme]

/-- An examined header has the same value. -/
theorem Agree.lookup (agree : Agree casing first second) (latest : response ∈ latest_responses first) {name : Text}
    (looked : name ∈ examined casing response) :
    (headers_for casing second response).lookup name = (headers_for casing first response).lookup name := by
  have narrowed : ∀ context, (of_response context response).filter (fun observation => header_name casing observation = some name) =
      (examined_headers casing context response).filter fun observation => header_name casing observation = some name := by
    intro context
    rw [examined_headers, List.filter_filter]
    refine List.filter_congr fun observation _ => ?_
    by_cases named : header_name casing observation = some name
    · simp [named, looked]
    · simp [named]
  rw [headers_for_eq, headers_for_eq, lookup_headers, lookup_headers, narrowed, narrowed, agree.headers response latest]

/-- Frame options that restrict framing do so with any policy. -/
theorem framing_restricted_any {frame_options : Option Text} (restricted : framing_restricted casing frame_options none = true)
    (policy : Option Text) : framing_restricted casing frame_options policy = true := by
  unfold framing_restricted at restricted ⊢
  split at restricted
  · rename_i restrictive
    rw [if_pos restrictive]
  · cases restricted

theorem Agree.fired (agree : Agree casing first second) (latest : response ∈ latest_responses first)
    (reads : ReadsExamined casing first response) {rule : Rule} :
    rule ∈ (fired casing second response).map Prod.snd ↔ rule ∈ (fired casing first response).map Prod.snd := by
  have same : ∀ name, name ∈ examined casing response →
      (headers_for casing second response).lookup name = (headers_for casing first response).lookup name := fun _ => agree.lookup latest
  have transport : ∀ scheme status, Judged casing first response scheme status →
      (rule ∈ transport_rules casing (examined casing response) (headers_for casing second response) scheme status.value ↔
        rule ∈ transport_rules casing (examined casing response) (headers_for casing first response) scheme status.value) := by
    intro scheme status judged
    rw [mem_transport, mem_transport]
    refine or_congr ?_ ?_
    · refine and_congr_right fun _ => and_congr_right fun plain => ?_
      by_cases moved : 300 ≤ status.value ∧ status.value < 400
      · unfold redirects
        rw [same LOCATION (reads.location scheme status judged plain moved.1 moved.2)]
      · have never : ∀ headers, redirects casing headers status.value = false := by
          intro headers
          rw [redirects, ← Bool.decide_and, decide_eq_false moved, Bool.false_and]
        rw [never, never]
    · refine and_congr_right fun _ => and_congr_right fun _ => and_congr_right fun looked => ?_
      rw [same HSTS looked]
  have content : ∀ scheme status, Judged casing first response scheme status → is_content_response status.value = true →
      (rule ∈ content_rules casing (examined casing response) (headers_for casing second response) ↔
        rule ∈ content_rules casing (examined casing response) (headers_for casing first response)) := by
    intro scheme status judged usual
    rw [mem_content, mem_content]
    refine or_congr ?_ (or_congr ?_ ?_)
    · refine and_congr_right fun _ => and_congr_right fun looked => ?_
      unfold is_nosniff
      rw [same CONTENT_TYPE_OPTIONS looked]
    · refine and_congr_right fun _ => and_congr_right fun looked => ?_
      rw [same CONTENT_SECURITY_POLICY looked]
    · refine and_congr_right fun _ => and_congr_right fun looked => ?_
      unfold restricts_framing
      rw [same FRAME_OPTIONS looked]
      rcases reads.framing scheme status judged usual looked with policy | enough
      · rw [same CONTENT_SECURITY_POLICY policy]
      · rw [framing_restricted_any enough, framing_restricted_any enough]
  rw [fired_judged, fired_judged]
  refine exists_congr fun scheme => exists_congr fun status => ?_
  rw [agree.judged]
  refine and_congr_right fun judged => or_congr (transport scheme status judged) ?_
  exact and_congr_right fun usual => content scheme status judged usual

/-- Snapshots that agree on the examined headers are judged the same, where the
    rules read no other header. -/
theorem Agree.same_verdicts (agree : Agree casing first second)
    (reads : ∀ response ∈ latest_responses first, ReadsExamined casing first response) : SameVerdicts casing first second := by
  intro asset_id service_id rule_id
  constructor
  · rw [reported_iff, reported_iff, agree.responses]
    refine exists_congr fun response => and_congr_right fun latest => and_congr_right fun _ => exists_congr fun rule => ?_
    rw [agree.fired latest (reads response latest)]
  · rw [unevaluated_iff, unevaluated_iff, agree.responses]
    refine exists_congr fun response => and_congr_right fun _ => and_congr_right fun _ => exists_congr fun rule => ?_
    rw [agree.unevaluated_rules]

/-! ### One more header -/

/-- A header observation that is recorded with a response. -/
def header_observation (context : DetectionContext) (response : ObservationView) (name value : Text) : ObservationView where
  id := (context.observations.map ObservationView.id).foldr max 0 + 1
  discovery_run_id := response.discovery_run_id
  asset_id := response.asset_id
  service_id := response.service_id
  observation_type := "http_header".toList
  observed_at := response.observed_at
  detail := [("header".toList, .str name), ("value".toList, .str value)]

/-- A snapshot with one more header of a response. -/
def with_header (context : DetectionContext) (response : ObservationView) (name value : Text) : DetectionContext :=
  { context with observations := context.observations ++ [header_observation context response name value] }

variable {context : DetectionContext} {name value : Text}

theorem filter_kept {α : Type} {p : α → Bool} {a : α} (kept : p a = true) : [a].filter p = [a] := by
  rw [List.filter_cons, if_pos kept]
  rfl

theorem filter_dropped {α : Type} {p : α → Bool} {a : α} (dropped : p a = false) : [a].filter p = [] := by
  rw [List.filter_cons, if_neg (Bool.eq_false_iff.mp dropped)]
  rfl

theorem with_header_responses : latest_responses (with_header context response name value) = latest_responses context := by
  have kept : of_type (with_header context response name value) "http_response".toList = of_type context "http_response".toList := by
    have other : "http_header".toList ≠ "http_response".toList := by decide
    unfold of_type with_header
    rw [List.filter_append, filter_dropped, List.append_nil]
    exact decide_eq_false other
  unfold latest_responses latest_of_type
  rw [kept]

theorem with_header_of_response (other : ObservationView) : of_response (with_header context response name value) other =
    of_response context other ++
      [header_observation context response name value].filter fun observation =>
        observation.discovery_run_id = other.discovery_run_id ∧ subject_of observation = subject_of other := by
  have kept : of_type (with_header context response name value) "http_header".toList =
      of_type context "http_header".toList ++ [header_observation context response name value] := by
    unfold of_type with_header
    rw [List.filter_append, filter_kept]
    exact decide_eq_true rfl
  rw [of_response, kept, List.filter_append]
  rfl

theorem with_header_own : of_response (with_header context response name value) response =
    of_response context response ++ [header_observation context response name value] := by
  rw [with_header_of_response, filter_kept]
  exact decide_eq_true ⟨rfl, rfl⟩

theorem header_name_eq : header_name casing (header_observation context response name value) = some (casing.lower name) := rfl

/-- A header that was not examined makes no difference to what was. -/
theorem with_header_agree (latest : response ∈ latest_responses context) (unexamined : casing.lower name ∉ examined casing response) :
    Agree casing context (with_header context response name value) where
  assets := rfl
  responses := with_header_responses
  headers := by
    intro other also_latest
    rw [examined_headers, examined_headers]
    by_cases same : subject_of response = subject_of other
    · have one := latest_unique latest also_latest same
      rw [← one, with_header_own, List.filter_append, filter_dropped, List.append_nil]
      exact decide_eq_false unexamined
    · have outside : ¬((header_observation context response name value).discovery_run_id = other.discovery_run_id ∧
          subject_of (header_observation context response name value) = subject_of other) := fun both => same both.2
      rw [with_header_of_response, filter_dropped, List.append_nil]
      exact decide_eq_false outside

/-- The value of the added header, and those of the others. -/
theorem with_header_lookup (looked : Text) : (headers_for casing (with_header context response name value) response).lookup looked =
    if looked = casing.lower name then some (value, (header_observation context response name value).id)
    else (headers_for casing context response).lookup looked := by
  have added : ∀ headers, add_header casing headers (header_observation context response name value) =
      put (casing.lower name) (value, (header_observation context response name value).id) headers := fun _ => rfl
  rw [headers_for_eq, headers_for_eq, with_header_own, List.foldl_append, List.foldl_cons, List.foldl_nil, added, lookup_put]

theorem with_header_scheme : scheme (with_header context response name value) response = scheme context response := rfl

theorem with_header_judged {scheme : Text} {status : Status} (judged : Judged casing context response scheme status) :
    Judged casing (with_header context response name value) response scheme status := ⟨judged.examined, judged.scheme, judged.status⟩

end

/-! ### Reading what was not examined -/

section
variable {casing : AsciiCasing} {context : DetectionContext} {response : ObservationView}

/-- A header whose absence or value decides a rule makes a difference. -/
theorem not_same_verdicts {other : DetectionContext} {rule : Rule} (latest : response ∈ latest_responses context)
    (responses : latest_responses other = latest_responses context) (known : rule ∈ ALL_RULES)
    (differs : rule ∈ (fired casing.toCasing other response).map Prod.snd ↔ ¬rule ∈ (fired casing.toCasing context response).map Prod.snd) :
    ¬SameVerdicts casing.toCasing context other := by
  intro same
  have reported := (same response.asset_id response.service_id rule.rule_id).1
  rw [reported_response latest known, reported_response (responses ▸ latest) known, differs] at reported
  by_cases fires : rule ∈ (fired casing.toCasing context response).map Prod.snd
  · exact reported.mp fires fires
  · exact fires (reported.mpr fires)

theorem lower_self (casing : AsciiCasing) {t : Text} (ascii : isAscii t = true) (small : t.map Char.toLower = t) : casing.lower t = t := by
  rw [casing.lower_ascii t ascii, small]

/-- A value that makes the location what it was not. -/
def other_location (redirected : Bool) : Text := if redirected then [] else "https://".toList

theorem redirects_location {headers : Headers} {status : Int} {redirected : Bool} (moved : 300 ≤ status ∧ status < 400)
    (location : (headers.lookup LOCATION).map Prod.fst = some (other_location redirected)) :
    redirects casing.toCasing headers status = !redirected := by
  obtain ⟨⟨value, id⟩, found, rfl⟩ := Option.map_eq_some_iff.mp location
  rw [redirects, found, ← Bool.decide_and, decide_eq_true moved, Bool.true_and, Option.any_some]
  cases redirected with
  | true =>
    have nothing : casing.lower [] = [] := lower_self casing rfl rfl
    show List.isPrefixOf "https://".toList (casing.lower []) = false
    rw [nothing]
    decide
  | false =>
    have kept : casing.lower "https://".toList = "https://".toList := lower_self casing (by decide) (by decide)
    show List.isPrefixOf "https://".toList (casing.lower "https://".toList) = true
    rw [kept]
    decide

/-- A policy that restricts framing or not. -/
def policy (restricts : Bool) : Text := if restricts then "frame-ancestors none".toList else []

theorem framing_policy {frame_options : Option Text} (free : framing_restricted casing.toCasing frame_options none = false) (restricts : Bool) :
    framing_restricted casing.toCasing frame_options (some (policy restricts)) = restricts := by
  have unrestricted : ¬(frame_options.any fun value => casing.lower (strip value) ∈ RESTRICTIVE_FRAME_OPTIONS) = true := by
    intro restrictive
    rw [framing_restricted, if_pos restrictive] at free
    cases free
  rw [framing_restricted, if_neg unrestricted]
  cases restricts with
  | true =>
    have pieces : (policy true).splitOn ';' = [policy true] := by decide +kernel
    have kept : casing.lower (strip (policy true)) = policy true := by
      have stripped : strip (policy true) = policy true := by decide +kernel
      rw [stripped]
      exact lower_self casing (by decide) (by decide)
    simp only [pieces, List.map_cons, List.map_nil, kept]
    decide +kernel
  | false =>
    have pieces : (policy false).splitOn ';' = [[]] := by decide +kernel
    have kept : casing.lower (strip []) = [] := lower_self casing rfl rfl
    simp only [pieces, List.map_cons, List.map_nil, kept]
    decide +kernel

/-- A rule that reads a header that was not examined is judged by it. -/
theorem reads_examined (latest : response ∈ latest_responses context)
    (same : ∀ other, Agree casing.toCasing context other → SameVerdicts casing.toCasing context other) :
    ReadsExamined casing.toCasing context response := by
  have flips : ∀ b c : Bool, c = !b → (c = false ↔ ¬b = false) := by decide
  refine ⟨fun scheme status judged plain low high => ?_, fun scheme status judged usual looked => ?_⟩
  · by_contra unexamined
    subst plain
    have kept : casing.lower LOCATION = LOCATION := lower_self casing (by decide) (by decide)
    obtain ⟨value, is⟩ : ∃ value, value = other_location (redirects casing.toCasing (headers_for casing.toCasing context response) status.value) :=
      ⟨_, rfl⟩
    have agree : Agree casing.toCasing context (with_header context response LOCATION value) := with_header_agree latest (by rwa [kept])
    have known : plaintext_http ∈ ALL_RULES := List.mem_cons_self
    refine not_same_verdicts latest agree.responses known ?_ (same _ agree)
    rw [fired_plaintext judged, fired_plaintext (with_header_judged judged)]
    refine flips _ _ (redirects_location ⟨low, high⟩ ?_)
    rw [with_header_lookup, if_pos kept.symm, is]
    rfl
  · by_contra neither
    rw [not_or, Bool.not_eq_true] at neither
    obtain ⟨unexamined, free⟩ := neither
    have kept : casing.lower CONTENT_SECURITY_POLICY = CONTENT_SECURITY_POLICY := lower_self casing (by decide) (by decide)
    obtain ⟨value, is⟩ : ∃ value, value = policy !(restricts_framing casing.toCasing (headers_for casing.toCasing context response)) := ⟨_, rfl⟩
    have agree : Agree casing.toCasing context (with_header context response CONTENT_SECURITY_POLICY value) :=
      with_header_agree latest (by rwa [kept])
    have known : frame_protection_not_set ∈ ALL_RULES := List.mem_append_right _ (by simp [CONTENT_RULES])
    refine not_same_verdicts latest agree.responses known ?_ (same _ agree)
    rw [fired_framing judged, fired_framing (with_header_judged judged)]
    simp only [usual, looked, true_and]
    refine flips _ _ ?_
    have apart : FRAME_OPTIONS ≠ casing.lower CONTENT_SECURITY_POLICY := by
      rw [kept]
      decide
    rw [restricts_framing, with_header_lookup, with_header_lookup, if_neg apart, if_pos kept.symm, is]
    exact framing_policy free _

end

/-! ### The two directions -/

theorem exclusive (casing : Casing) (context : DetectionContext) : Exclusive casing context := by
  rintro asset_id service_id rule_id ⟨reported, listed⟩
  exact reported_evaluated reported listed

/-- Snapshots that agree on the examined headers of one snapshot are judged as
    it is exactly when its rules read no other headers. -/
theorem examined_headers_suffice (casing : AsciiCasing) (context : DetectionContext) :
    ((∀ other, Agree casing.toCasing context other → SameVerdicts casing.toCasing context other) ∧ Exclusive casing.toCasing context) ↔
      ∀ response ∈ latest_responses context, ReadsExamined casing.toCasing context response := by
  constructor
  · rintro ⟨same, _⟩ response latest
    exact reads_examined latest same
  · intro reads
    exact ⟨fun other agree => agree.same_verdicts reads, exclusive _ _⟩

def ascii : AsciiCasing := { Casing.ascii with lower_ascii := fun _ _ => rfl }

/-- A response that was examined for its frame options only. -/
def frames_response : ObservationView where
  id := 1
  discovery_run_id := some 1
  asset_id := some 1
  observation_type := "http_response".toList
  observed_at := 0
  detail := [("status".toList, .int 200), ("scheme".toList, .str "https".toList), ("headers_examined".toList, .list [.str FRAME_OPTIONS])]

def frames_only : DetectionContext where
  generated_at := 0
  assets := [{ id := 1, asset_type := "web".toList, identity := "https://10.0.0.1".toList, display_name := "https://10.0.0.1".toList }]
  observations := [frames_response]

/-- The same response with a policy that was recorded all the same. -/
def frames_and_policy : DetectionContext := with_header frames_only frames_response CONTENT_SECURITY_POLICY (policy true)

theorem unexamined_policy_read : Agree ascii.toCasing frames_only frames_and_policy ∧
    Reported ascii.toCasing frames_only (some 1) none frame_protection_not_set.rule_id ∧
      ¬Reported ascii.toCasing frames_and_policy (some 1) none frame_protection_not_set.rule_id := by
  have latest : frames_response ∈ latest_responses frames_only := List.mem_singleton_self _
  have unexamined : ascii.lower CONTENT_SECURITY_POLICY ∉ examined ascii.toCasing frames_response := by decide +kernel
  have agree : Agree ascii.toCasing frames_only frames_and_policy := with_header_agree latest unexamined
  have known : frame_protection_not_set ∈ ALL_RULES := List.mem_append_right _ (by simp [CONTENT_RULES])
  have judged : Judged ascii.toCasing frames_only frames_response "https".toList ⟨200, "200".toList, .int 200⟩ :=
    ⟨by decide +kernel, rfl, rfl⟩
  have looked : FRAME_OPTIONS ∈ examined ascii.toCasing frames_response := by decide +kernel
  have free : framing_restricted ascii.toCasing none none = false := rfl
  refine ⟨agree, ?_, ?_⟩
  · refine (reported_response latest known).mpr ((fired_framing judged).mpr ⟨rfl, looked, ?_⟩)
    exact free
  · intro reported
    have unrestricted := ((fired_framing (with_header_judged judged)).mp
      ((reported_response (agree.responses ▸ latest) known).mp reported)).2.2
    have kept : ascii.lower CONTENT_SECURITY_POLICY = CONTENT_SECURITY_POLICY := lower_self ascii (by decide) (by decide)
    have apart : FRAME_OPTIONS ≠ ascii.lower CONTENT_SECURITY_POLICY := by
      rw [kept]
      decide
    rw [restricts_framing, with_header_lookup, with_header_lookup, if_neg apart, if_pos kept.symm] at unrestricted
    exact Bool.noConfusion ((framing_policy free true).symm.trans unrestricted)

end RedDock.ExaminedHeaders
