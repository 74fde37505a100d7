import RedDock.Detection
import RedDock.Checks

/-!
# What the checks ask of a detector's output

The checks of `_validated` as a list in the order they are made, each with what
it has to read and what it lets pass.
-/
set_option autoImplicit false
namespace RedDock.OutputChecks
open Text Detection Fallible Checks

/-- A `DetectorOutputError`. -/
def IsRefusal (raised : Raised) : Prop := ∃ message, raised = .output message

section
variable (runtime : Runtime) (context : DetectionContext) (finding : DetectedFinding)

/-! ### One finding -/

/-- An operation on an object that returns, unless it refuses the finding itself. -/
abbrev Reads {α : Type} (x : Except Raised α) : Prop := Contained IsRefusal x

/-- `x.strip()` is true and `len(x)` at most the limit. -/
def text_checks (text : Object) (limit : Nat) : List Check := [
  ⟨Reads text.strip, text.strip = .ok true⟩,
  ⟨Reads text.len, ∃ n, text.len = .ok n ∧ n ≤ limit⟩]

def length_check (o : Object) (limit : Nat) : Check := ⟨Reads o.len, ∃ n, o.len = .ok n ∧ n ≤ limit⟩

def remediation_checks : List Check :=
  if finding.remediation.is_none then [] else [length_check finding.remediation MAX_REMEDIATION]

def member_checks : List Check := [
  ⟨True, is_severity finding.severity.member = true⟩,
  ⟨True, is_confidence finding.confidence.member = true⟩,
  ⟨True, is_category finding.category.member = true⟩]

def service_checks : List Check :=
  if finding.service_id.is_none then [] else [
    ⟨Reads (context.service finding.service_id), ∃ service, context.service finding.service_id = .ok (some service)⟩,
    ⟨True, ∀ asset service, context.asset finding.asset_id = .ok (some asset) →
      context.service finding.service_id = .ok (some service) → asset.id = service.asset_id⟩]

def subject_checks : List Check :=
  ⟨Reads (context.asset finding.asset_id), Returns (context.asset finding.asset_id)⟩ ::
  ⟨True, finding.asset_id.is_none = true ∨ ∃ asset, context.asset finding.asset_id = .ok (some asset)⟩ ::
  service_checks context finding

/-- The cited objects that name no observation of the snapshot. -/
def unknown (keys : List Key) : List Key := unknown_keys (context.observations.map ObservationView.id) keys

def evidence_checks : List Check := [
  ⟨Reads finding.evidence_observation_ids.truth, finding.evidence_observation_ids.truth = .ok true⟩,
  length_check finding.evidence_observation_ids runtime.max_evidence_per_finding,
  ⟨Reads finding.evidence_observation_ids.members, Returns finding.evidence_observation_ids.members⟩,
  -- unknown objects are sorted into the message
  ⟨∀ keys, finding.evidence_observation_ids.members = .ok keys → unknown context keys ≠ [] →
      (∀ a ∈ unknown context keys, ∀ b ∈ unknown context keys, a.order = b.order) ∧
        (runtime.repr_keys (unknown context keys)).isSome,
    ∀ keys, finding.evidence_observation_ids.members = .ok keys → unknown context keys = []⟩]

def detail_checks : List Check := [
  ⟨True, finding.detail.is_dict = true⟩,
  ⟨finding.detail.dumps ≠ .error .other, finding.detail.dumps = .ok ()⟩]

def finding_checks : List Check :=
  ⟨Reads finding.rule_id.matches_rule_id, finding.rule_id.matches_rule_id = .ok true⟩ ::
  (text_checks finding.title MAX_TITLE ++ (text_checks finding.description MAX_DESCRIPTION ++
    (remediation_checks finding ++ (length_check finding.scope_key MAX_SCOPE_KEY :: (member_checks finding ++
      (subject_checks context finding ++ (evidence_checks runtime context finding ++ detail_checks finding)))))))

end

section
variable {runtime : Runtime} {context : DetectionContext} {finding : DetectedFinding} {message : String}

@[simp] theorem isRefusal_output (message : Text) : IsRefusal (.output message) := ⟨message, rfl⟩
@[simp] theorem not_isRefusal_type_or_value : ¬IsRefusal .type_or_value := by rintro ⟨_, ⟨⟩⟩
@[simp] theorem not_isRefusal_other : ¬IsRefusal .other := by rintro ⟨_, ⟨⟩⟩

theorem refuse_if_performs (test : Bool) : Performs IsRefusal (refuse_if test finding message) [⟨True, test = false⟩] := by
  cases test <;> exact .one (by simp [refuse_if, refuse]) (by simp [refuse_if, refuse])

theorem check_rule_id_performs : Performs IsRefusal (check_rule_id runtime finding)
    [⟨Reads finding.rule_id.matches_rule_id, finding.rule_id.matches_rule_id = .ok true⟩] :=
  .test (isRefusal_output _) fun _ => .ok ()

theorem check_length_performs (o : Object) (limit : Nat) :
    Performs IsRefusal (check_length finding o limit message) [length_check o limit] := by
  unfold check_length
  cases read : o.len with
  | error raised => exact .one (by simp [read]) (by simp [read])
  | ok n =>
    by_cases long : limit < n
    · exact .one (by simp [read, refuse_if, refuse, long]) (by simp [read, refuse_if, refuse, long])
    · have short : n ≤ limit := by omega
      exact .one (by simp [read, refuse_if, long]) (by simp [read, refuse_if, long, short])

theorem check_text_performs (text : Object) (limit : Nat) :
    Performs IsRefusal (check_text finding text limit message) (text_checks text limit) :=
  .test (isRefusal_output _) fun _ => check_length_performs text limit

theorem check_remediation_performs : Performs IsRefusal (check_remediation finding) (remediation_checks finding) := by
  unfold check_remediation remediation_checks
  by_cases absent : finding.remediation.is_none = true
  · rw [if_pos absent, if_pos absent]
    exact .ok ()
  · rw [if_neg absent, if_neg absent]
    exact check_length_performs _ _

theorem check_subject_performs : Performs IsRefusal (check_subject finding context) (subject_checks context finding) := by
  unfold check_subject subject_checks
  refine Performs.bind (.single _) fun asset found => Performs.bind (?_ : Performs _ _ [_]) fun _ known => ?_
  · refine (refuse_if_performs _).congr ?_ ?_
    · simp [Guarded]
    · cases asset <;> simp [Passed, found]
  by_cases absent : finding.service_id.is_none = true
  · rw [if_pos absent, if_pos absent]
    exact .ok ()
  · rw [if_neg absent, if_neg absent]
    cases read : context.service finding.service_id with
    | error raised => exact ⟨by simp [Guarded], by simp [Passed]⟩
    | ok service =>
      cases service with
      | none => exact ⟨by simp [Guarded, refuse], by simp [Passed, refuse]⟩
      | some service =>
        have last : Performs IsRefusal (refuse_if (asset.any (·.id ≠ service.asset_id)) finding " names a service on a different asset") _ :=
          refuse_if_performs _
        refine ⟨by simpa [Guarded] using last.contained, ?_⟩
        cases asset <;> simpa [Passed, found] using last.returns

theorem refuse_unknown_performs (keys : List Key) : Performs IsRefusal (refuse_unknown runtime finding keys)
    [⟨(∀ a ∈ keys, ∀ b ∈ keys, a.order = b.order) ∧ (runtime.repr_keys keys).isSome, False⟩] := by
  unfold refuse_unknown
  by_cases mixed : (keys.any fun a => keys.any fun b => a.order ≠ b.order) = true
  · have some_differ : ¬∀ a ∈ keys, ∀ b ∈ keys, a.order = b.order := by
      intro same
      obtain ⟨a, first, second⟩ := List.any_eq_true.mp mixed
      obtain ⟨b, second, differ⟩ := List.any_eq_true.mp second
      exact absurd (same a first b second) (by simpa using differ)
    rw [if_pos mixed]
    exact .one (by simp [some_differ]) (by simp)
  · have same : ∀ a ∈ keys, ∀ b ∈ keys, a.order = b.order := by
      intro a first b second
      by_contra differ
      exact mixed (List.any_eq_true.mpr ⟨a, first, List.any_eq_true.mpr ⟨b, second, by simpa using differ⟩⟩)
    rw [if_neg mixed]
    cases shown : runtime.repr_keys keys with
    | none => exact .one (by simp) (by simp)
    | some text => exact .one (by simpa using same) (by simp)

theorem check_evidence_performs : Performs IsRefusal
    (check_evidence runtime finding (context.observations.map ObservationView.id) runtime.max_evidence_per_finding)
    (evidence_checks runtime context finding) := by
  unfold check_evidence
  refine Performs.test (isRefusal_output _) fun _ => ?_
  refine Performs.bind (check_length_performs _ _) fun _ _ => Performs.bind (.single _) fun keys read => ?_
  have same : ∀ other, finding.evidence_observation_ids.members = .ok other ↔ other = keys := by
    intro other
    rw [read, Except.ok.injEq, eq_comm]
  by_cases known : unknown context keys = []
  · have nothing : unknown_keys (context.observations.map ObservationView.id) keys = [] := known
    simp only [nothing, if_true]
    refine .one ?_ ?_ <;> simp [same, known]
  · have something : unknown_keys (context.observations.map ObservationView.id) keys ≠ [] := known
    simp only [something, if_false]
    refine (refuse_unknown_performs _).congr ?_ ?_
    · simp only [Guarded, same, forall_eq, known, ne_eq, not_false_eq_true, true_implies]
      simp [unknown]
    · simp [Passed, same, known]

theorem check_detail_performs : Performs IsRefusal (check_detail finding) (detail_checks finding) := by
  unfold check_detail detail_checks
  by_cases dict : finding.detail.is_dict = true
  · cases dumped : finding.detail.dumps with
    | ok value => exact ⟨by simp [dict, Guarded], by simp [dict, Passed]⟩
    | error raised =>
      cases raised <;> exact ⟨by simp [dict, Guarded, refuse], by simp [dict, Passed, refuse]⟩
  · exact ⟨by simp [dict, Guarded, refuse], by simp [dict, Passed, refuse]⟩

theorem check_members_performs : Performs IsRefusal (check_members finding) (member_checks finding) := by
  refine Performs.congr ((refuse_if_performs _).bind fun _ _ => (refuse_if_performs _).bind fun _ _ => refuse_if_performs _)
    ?_ ?_ <;> simp [member_checks, Guarded, Passed]

theorem check_finding_performs : Performs IsRefusal (check_finding runtime context finding)
    (finding_checks runtime context finding) := by
  unfold check_finding finding_checks
  refine check_rule_id_performs.bind fun _ _ => (check_text_performs _ _).bind fun _ _ => ?_
  refine (check_text_performs _ _).bind fun _ _ => check_remediation_performs.bind fun _ _ => ?_
  refine (check_length_performs _ _).bind fun _ _ => ?_
  refine check_members_performs.bind fun _ _ => check_subject_performs.bind fun _ _ => ?_
  exact check_evidence_performs.bind fun _ _ => check_detail_performs

/-- What the later steps use of a finding that passed. -/
structure Checked (context : DetectionContext) (finding : DetectedFinding) : Prop where
  asset : Returns (context.asset finding.asset_id)
  service : Returns (context.service finding.service_id)
  rule_id : Returns finding.rule_id.part

theorem service_of_none (absent : finding.service_id.is_none = true) : Returns (context.service finding.service_id) :=
  ⟨none, by simp [DetectionContext.service, absent]⟩

theorem checked_of_ok {u : Unit} (checked : check_finding runtime context finding = .ok u) : Checked context finding := by
  have passed := check_finding_performs.returns.mp ⟨u, checked⟩
  simp only [finding_checks, subject_checks, passed_cons, passed_append] at passed
  obtain ⟨rule_id, _, _, _, _, _, ⟨asset, _, service⟩, _⟩ := passed
  refine ⟨asset.2, ?_, ?_⟩
  · by_cases absent : finding.service_id.is_none = true
    · exact service_of_none absent
    · simp only [service_checks, absent, Bool.false_eq_true, if_false, passed_cons] at service
      obtain ⟨found, read⟩ := service.1.2
      exact ⟨_, read⟩
  · revert rule_id
    cases finding.rule_id <;> simp [Object.matches_rule_id, Object.part]

end

/-! ### The findings of a detector -/

section
variable (runtime : Runtime) (detector_id : Text) (context : DetectionContext)

/-- Something that is not a finding is refused. -/
def item_checks : Option DetectedFinding → List Check
  | none => [⟨True, False⟩]
  | some finding => finding_checks runtime context finding

/-- Every finding has an identity that no earlier one has. -/
def identity_checks (previous : List DetectedFinding) : List DetectedFinding → List Check
  | [] => []
  | finding :: findings =>
    ⟨Reads finding.scope_key.or_absent, Returns finding.scope_key.or_absent⟩ ::
    ⟨True, ∀ earlier ∈ previous, identity runtime detector_id earlier context ≠ identity runtime detector_id finding context⟩ ::
    identity_checks (finding :: previous) findings

/-- Findings that agree on the rule, the asset and the service have scope keys
    that `<` is defined on. -/
def Sortable (findings : List DetectedFinding) : Prop :=
  ∀ first ∈ findings, ∀ second ∈ findings, ∀ a b, order_key first context = .ok a → order_key second context = .ok b →
    a.orderable b = true

def produced_checks : Produced → List Check
  | .other => [⟨True, False⟩]
  | .sequence items =>
    ⟨True, items.length ≤ runtime.max_findings_per_detector⟩ ::
    (items.flatMap (item_checks runtime context) ++
      (identity_checks runtime detector_id context [] (items.filterMap id) ++ [⟨Sortable context (items.filterMap id), True⟩]))

end

section
variable {runtime : Runtime} {detector_id : Text} {context : DetectionContext}

theorem check_findings_ok {items : List (Option DetectedFinding)} {findings : List DetectedFinding}
    (checked : check_findings runtime context items = .ok findings) :
    items.filterMap id = findings ∧ ∀ finding ∈ findings, Checked context finding := by
  induction items generalizing findings with
  | nil =>
    cases checked
    simp
  | cons item items ih =>
    cases item with
    | none => simp [check_findings] at checked
    | some finding =>
      unfold check_findings at checked
      obtain ⟨_, first, checked⟩ := bind_eq_ok.mp checked
      obtain ⟨rest, later, checked⟩ := bind_eq_ok.mp checked
      cases checked
      obtain ⟨same, all⟩ := ih later
      refine ⟨by simp [← same], ?_⟩
      intro other member
      rcases List.mem_cons.mp member with rfl | member
      · exact checked_of_ok first
      · exact all other member

theorem check_findings_performs (items : List (Option DetectedFinding)) :
    Performs IsRefusal (check_findings runtime context items) (items.flatMap (item_checks runtime context)) := by
  induction items with
  | nil => exact .ok []
  | cons item items ih =>
    rw [List.flatMap_cons]
    cases item with
    | none => exact ⟨by simp [check_findings, item_checks, Guarded], by simp [check_findings, item_checks, passed_cons]⟩
    | some finding => exact check_finding_performs.bind fun _ _ => ih.map fun findings _ => returns_ok _

/-- The identity of a finding that passed its checks. -/
theorem identity_performs {finding : DetectedFinding} (checked : Checked context finding) :
    Performs IsRefusal (identity runtime detector_id finding context)
      [⟨Reads finding.scope_key.or_absent, Returns finding.scope_key.or_absent⟩] := by
  obtain ⟨asset, found⟩ := checked.asset
  obtain ⟨service, running⟩ := checked.service
  obtain ⟨rule_id, named⟩ := checked.rule_id
  simp only [identity, found, running, named, ok_bind]
  exact (Performs.single _).map fun _ _ => returns_ok _

theorem check_distinct_performs {previous : List DetectedFinding} {seen : List (Text × Text)} {findings : List DetectedFinding}
    (known : List.Forall₂ (fun finding entry => identity runtime detector_id finding context = .ok entry.1) previous seen)
    (checked : ∀ finding ∈ findings, Checked context finding) :
    Performs IsRefusal (check_distinct runtime detector_id context seen findings)
      (identity_checks runtime detector_id context previous findings) := by
  induction findings generalizing previous seen with
  | nil => exact .ok ()
  | cons finding findings ih =>
    unfold check_distinct identity_checks
    refine (identity_performs (checked finding (by simp))).bind fun fingerprint identified => ?_
    have fresh : seen.lookup fingerprint = none ↔ ∀ earlier ∈ previous,
        identity runtime detector_id earlier context ≠ identity runtime detector_id finding context := by
      rw [List.lookup_eq_none_iff, identified]
      constructor
      · intro all earlier member same
        obtain ⟨entry, inside, is⟩ := forall₂_left known member
        rw [is, Except.ok.injEq] at same
        exact absurd same.symm (bne_iff_ne.mp (all entry inside))
      · intro all entry member
        obtain ⟨earlier, inside, is⟩ := forall₂_right known member
        exact bne_iff_ne.mpr fun same => all earlier inside (by rw [is, same])
    cases found : seen.lookup fingerprint with
    | none =>
      refine .passing (fresh.mp found) (ih ?_ fun other member => checked other (List.mem_cons_of_mem _ member))
      exact .cons identified known
    | some other =>
      have repeated : ¬∀ earlier ∈ previous,
          identity runtime detector_id earlier context ≠ identity runtime detector_id finding context := by
        rw [← fresh, found]
        simp
      exact .failing (isRefusal_output _) repeated

/-- The keys of findings that passed their checks. -/
theorem order_keys {findings : List DetectedFinding} (checked : ∀ finding ∈ findings, Checked context finding) :
    ∃ keyed, findings.mapM (fun finding => do return (← order_key finding context, finding)) = Except.ok keyed ∧
      keyed.map (·.2) = findings ∧ ∀ entry ∈ keyed, order_key entry.2 context = .ok entry.1 := by
  induction findings with
  | nil => exact ⟨[], rfl, rfl, by simp⟩
  | cons finding findings ih =>
    obtain ⟨keyed, ran, same, keys⟩ := ih fun other member => checked other (List.mem_cons_of_mem _ member)
    obtain ⟨asset, found⟩ := (checked finding (by simp)).asset
    obtain ⟨service, running⟩ := (checked finding (by simp)).service
    obtain ⟨key, is⟩ : ∃ key, order_key finding context = .ok key := by simp [order_key, found, running]
    refine ⟨(key, finding) :: keyed, ?_, by rw [List.map_cons, same], ?_⟩
    · rw [List.mapM_cons, is, ran]
      rfl
    · intro entry member
      rcases List.mem_cons.mp member with rfl | member
      · exact is
      · exact keys entry member

theorem sort_findings_performs {findings : List DetectedFinding} (checked : ∀ finding ∈ findings, Checked context finding) :
    Performs IsRefusal (sort_findings context findings) [⟨Sortable context findings, True⟩] := by
  obtain ⟨keyed, ran, same, keys⟩ := order_keys checked
  have comparable : Sortable context findings ↔ ∀ a ∈ keyed, ∀ b ∈ keyed, a.1.orderable b.1 = true := by
    rw [Sortable, ← same]
    constructor
    · intro all a first b second
      exact all a.2 (List.mem_map_of_mem first) b.2 (List.mem_map_of_mem second) _ _ (keys a first) (keys b second)
    · rintro all _ first _ second a b read reads
      obtain ⟨x, inside, rfl⟩ := List.mem_map.mp first
      obtain ⟨y, within, rfl⟩ := List.mem_map.mp second
      rw [keys x inside, Except.ok.injEq] at read
      rw [keys y within, Except.ok.injEq] at reads
      exact read ▸ reads ▸ all x inside y within
  have test : (keyed.any fun a => keyed.any fun b => !a.1.orderable b.1) = true ↔ ¬Sortable context findings := by
    rw [comparable]
    simp
  unfold sort_findings
  rw [ran, ok_bind]
  by_cases sortable : Sortable context findings
  · have nothing : ¬(keyed.any fun a => keyed.any fun b => !a.1.orderable b.1) = true := fun mixed => test.mp mixed sortable
    rw [if_neg nothing]
    exact .one (by simp [sortable]) (by simp [sortable])
  · rw [if_pos (test.mpr sortable)]
    exact .one (by simp [sortable]) (by simp [sortable])

/-- Sorted findings are the findings. -/
theorem sort_findings_perm {findings sorted : List DetectedFinding} (checked : ∀ finding ∈ findings, Checked context finding)
    (ran : sort_findings context findings = .ok sorted) : sorted.Perm findings := by
  obtain ⟨keyed, keys, same, _⟩ := order_keys checked
  unfold sort_findings at ran
  rw [keys, ok_bind] at ran
  split at ran
  · simp at ran
  · cases ran
    rw [← same]
    exact (List.perm_insertionSort _ keyed).map _

theorem validated_performs (produced : Produced) : Performs IsRefusal (validated runtime detector_id produced context)
    (produced_checks runtime detector_id context produced) := by
  cases produced with
  | other => exact .failing (isRefusal_output _) not_false
  | sequence items =>
    simp only [validated, produced_checks]
    by_cases many : runtime.max_findings_per_detector < items.length
    · rw [if_pos many]
      exact .failing (isRefusal_output _) (by omega)
    · rw [if_neg many]
      refine .passing (by omega) ((check_findings_performs items).bind fun findings read => ?_)
      obtain ⟨rfl, checked⟩ := check_findings_ok read
      exact (check_distinct_performs .nil checked).bind fun _ _ => sort_findings_performs checked

/-- The findings that a detector lists. -/
def listed : Produced → List DetectedFinding
  | .other => []
  | .sequence items => items.filterMap id

theorem check_distinct_ok {seen : List (Text × Text)} {findings : List DetectedFinding}
    (checked : check_distinct runtime detector_id context seen findings = .ok ()) {finding : DetectedFinding}
    (member : finding ∈ findings) : Returns (identity runtime detector_id finding context) := by
  induction findings generalizing seen with
  | nil => simp at member
  | cons first findings ih =>
    unfold check_distinct at checked
    obtain ⟨fingerprint, identified, checked⟩ := bind_eq_ok.mp checked
    split at checked
    · simp at checked
    · rcases List.mem_cons.mp member with rfl | member
      · exact ⟨fingerprint, identified⟩
      · exact ih checked member

/-- What is accepted is what was listed, in another order. -/
theorem validated_ok {produced : Produced} {findings : List DetectedFinding}
    (accepted : validated runtime detector_id produced context = .ok findings) :
    findings.Perm (listed produced) ∧ ∀ finding ∈ findings, Checked context finding ∧
      Returns (identity runtime detector_id finding context) := by
  cases produced with
  | other => simp [validated] at accepted
  | sequence items =>
    simp only [validated] at accepted
    split at accepted
    · simp at accepted
    · obtain ⟨all, read, accepted⟩ := bind_eq_ok.mp accepted
      obtain ⟨_, distinct, accepted⟩ := bind_eq_ok.mp accepted
      obtain ⟨rfl, checked⟩ := check_findings_ok read
      have perm := sort_findings_perm checked accepted
      refine ⟨perm, fun finding member => ?_⟩
      have inside := perm.mem_iff.mp member
      exact ⟨checked finding inside, check_distinct_ok distinct inside⟩

end
end RedDock.OutputChecks
