import RedDock.Scope

/-!
# The decision scope prescribes

A specification of DockGuard on sets of hosts: `prescribed` names the decision,
`handed` the exclusions passed on with a permitted network. What `evaluate`
returns is what they prescribe.
-/
set_option autoImplicit false
namespace RedDock.Verdict
open Text Targets Canonical DockGuard Fallible Scope

variable {u : Unicode}

/-! ### Name lookups -/

/-- The code counts an answer as excluded: an address without a zone that some
    exclusion holds. -/
def AnswerExcluded (u : Unicode) (excludes : List ScopeRule) (answer : Text) : Prop :=
  is_address_text u answer = true ∧ ∃ parsed, IPAddress.ip_address answer = some parsed ∧
    parsed.host ∈ excludedHosts u excludes

open Classical in
/-- The decision on a name by its answers. -/
noncomputable def prescribedFor (u : Unicode) (excludes : List ScopeRule) : Answer → Decision
  | .error _ => .unresolved
  | .ok answers =>
    if answers = [] then .unresolved
    else if ∃ a ∈ answers, (refused_answer a).isSome then .denied_policy
    else if ∃ a ∈ answers, hard_denied_address a = true then .denied_policy
    else if ∃ a ∈ answers, AnswerExcluded u excludes a then .denied_excluded
    else .allowed

theorem excluded_address_ok {excludes : List ScopeRule} {answer : Text} {b : Bool}
    (ran : excluded_address u answer excludes = .ok b) : b = true ↔ AnswerExcluded u excludes answer := by
  unfold excluded_address at ran
  unfold AnswerExcluded
  by_cases address : is_address_text u answer = true
  · cases read : IPAddress.ip_address answer with
    | none => simp [address, read] at ran
    | some parsed =>
      simp only [address, Bool.not_true, Bool.false_eq_true, if_false, read] at ran
      simpa [address] using excludes_address_ok ran
  · simp only [address, Bool.not_false, if_true, Except.ok.injEq] at ran
    simp [address, ← ran]

theorem excluded_address_total {excludes : List ScopeRule} (readable : Readable u excludes) (answer : Text) :
    ∃ b, excluded_address u answer excludes = .ok b := by
  unfold excluded_address
  by_cases address : is_address_text u answer = true
  · obtain ⟨parsed, read⟩ := Option.isSome_iff_exists.mp (is_address_text_iff.mp address).1
    simpa [address, read] using excludes_address_total readable
  · exact ⟨false, by simp [address]⟩

theorem blocked_ok {excludes : List ScopeRule} {answers blocked : List Text}
    (ran : (answers.filterM fun a => excluded_address u a excludes) = .ok blocked) :
    blocked = [] ↔ ¬∃ a ∈ answers, AnswerExcluded u excludes a := by
  obtain ⟨all, rfl⟩ := filterM_ok.mp ran
  simp only [List.filter_eq_nil_iff, not_exists, not_and]
  refine forall_congr' fun a => imp_congr_right fun member => ?_
  obtain ⟨b, tested⟩ := all a member
  have kept : passes (fun a => excluded_address u a excludes) a = b := passes_of_ok tested
  rw [kept, excluded_address_ok tested]

theorem refused_iff {answers : List Text} :
    answers.findSome? refused_answer = none ↔ ¬∃ a ∈ answers, (refused_answer a).isSome := by
  rw [List.findSome?_eq_none_iff]
  simp

section Named
variable {requested : Text} {t : Target} {included_by : ScopeRule} {excludes : List ScopeRule}

theorem evaluate_answers_spec {answers : List Text} {e : Evaluation} (some_answer : answers ≠ [])
    (ran : evaluate_answers u requested t included_by excludes answers = .ok e) :
    e.decision = prescribedFor u excludes (.ok answers) ∧ e.excluded_addresses = [] ∧ e.resolved_addresses = answers := by
  unfold evaluate_answers at ran
  simp only at ran
  rw [prescribedFor, if_neg some_answer]
  cases refused : answers.findSome? refused_answer with
  | some reason =>
    simp only [refused] at ran
    cases ran
    have some_refused : ∃ a ∈ answers, (refused_answer a).isSome := by
      by_contra absent
      rw [refused_iff.mpr absent] at refused
      simp at refused
    exact ⟨by rw [if_pos some_refused]; rfl, rfl, rfl⟩
  | none =>
    simp only [refused] at ran
    rw [if_neg (refused_iff.mp refused)]
    by_cases hard : answers.any hard_denied_address = true
    · rw [if_pos hard] at ran
      cases ran
      exact ⟨by rw [if_pos (List.any_eq_true.mp hard)]; rfl, rfl, rfl⟩
    · rw [if_neg hard] at ran
      rw [if_neg (fun some => hard (List.any_eq_true.mpr some))]
      obtain ⟨blocked, filtered, ran⟩ := bind_eq_ok.mp ran
      have exact_blocked := blocked_ok filtered
      cases blocked with
      | cons first rest =>
        cases ran
        have some_blocked : ∃ a ∈ answers, AnswerExcluded u excludes a := by
          by_contra absent
          exact absurd (exact_blocked.mpr absent) (by simp)
        exact ⟨by rw [if_pos some_blocked]; rfl, rfl, rfl⟩
      | nil =>
        cases ran
        exact ⟨by rw [if_neg (exact_blocked.mp rfl)]; rfl, rfl, rfl⟩

/-- What an evaluation of a name returns is what its answers prescribe. -/
theorem evaluate_named_spec {resolver : Resolver} {e : Evaluation}
    (ran : evaluate_named u requested t included_by excludes resolver = .ok e) :
    e.decision = prescribedFor u excludes (resolver t.host) ∧ e.excluded_addresses = [] ∧
      (e.decision = .allowed → resolver t.host = .ok e.resolved_addresses) := by
  unfold evaluate_named at ran
  simp only at ran
  cases answer : resolver t.host with
  | error strerror =>
    simp only [answer] at ran
    cases ran
    exact ⟨rfl, rfl, by simp [judged]⟩
  | ok answers =>
    simp only [answer] at ran
    by_cases empty : answers = []
    · rw [if_pos empty] at ran
      cases ran
      exact ⟨by rw [prescribedFor, if_pos empty]; rfl, rfl, by simp [judged]⟩
    · rw [if_neg empty] at ran
      obtain ⟨decision, excluded, resolved⟩ := evaluate_answers_spec empty ran
      exact ⟨decision, excluded, fun _ => by rw [resolved]⟩

theorem evaluate_named_total {resolver : Resolver} (readable : Readable u excludes) :
    ∃ e, evaluate_named u requested t included_by excludes resolver = .ok e := by
  unfold evaluate_named
  simp only
  cases resolver t.host with
  | error strerror => exact ⟨_, rfl⟩
  | ok answers =>
    by_cases empty : answers = []
    · exact ⟨_, if_pos empty⟩
    simp only [empty, if_false, evaluate_answers]
    cases answers.findSome? refused_answer with
    | some reason => exact ⟨_, rfl⟩
    | none =>
      by_cases hard : answers.any hard_denied_address = true
      · exact ⟨_, if_pos hard⟩
      · simp only [hard]
        obtain ⟨blocked, filtered⟩ : ∃ blocked, (answers.filterM fun a => excluded_address u a excludes) = .ok blocked :=
          ⟨_, filterM_ok.mpr ⟨fun a _ => excluded_address_total readable a, rfl⟩⟩
        rw [filtered]
        cases blocked with
        | nil => exact ⟨_, rfl⟩
        | cons first rest => exact ⟨_, rfl⟩

end Named

/-! ### Targets -/

open Classical in
/-- The decision on a target that an inclusion covers and no exclusion does. -/
noncomputable def prescribedInside (u : Unicode) (t : Target) (excludes : List ScopeRule) (resolver : Option Resolver) :
    Decision :=
  match t.is_network, space u t, t.is_named u, resolver with
  | true, some n, _, _ => if n.space ⊆ excludedHosts u excludes then .denied_excluded else .allowed
  | _, _, true, some resolver => prescribedFor u excludes (resolver t.host)
  | _, _, _, _ => .allowed

open Classical in
/-- The decision on a target under a list of rules. -/
noncomputable def prescribed (u : Unicode) (t : Target) (rules : List ScopeRule) (resolver : Option Resolver) : Decision :=
  if HardDenied u t then .denied_policy
  else if includes_of rules = [] then .denied_out_of_scope
  else if Covered u (excludes_of rules) t then .denied_excluded
  else if ¬Covered u (includes_of rules) t then .denied_out_of_scope
  else prescribedInside u t (excludes_of rules) resolver

/-- The exclusions that reach into a network. -/
def reaching (u : Unicode) (t : Target) (excludes : List ScopeRule) : List ScopeRule :=
  match space u t with
  | some n => excludes.filter (overlapsRule u n)
  | none => []

theorem mem_includes {rules : List ScopeRule} {rule : ScopeRule} :
    rule ∈ includes_of rules ↔ rule ∈ rules ∧ rule.rule = .include := by
  simp [includes_of]

theorem mem_excludes {rules : List ScopeRule} {rule : ScopeRule} :
    rule ∈ excludes_of rules ↔ rule ∈ rules ∧ rule.rule = .exclude := by
  simp [excludes_of]

/-- The values passed on with a decision. -/
def handed (u : Unicode) (t : Target) (rules : List ScopeRule) (decision : Decision) : List Text :=
  if t.is_network = true ∧ decision = .allowed then (reaching u t (excludes_of rules)).map (·.value) else []

theorem mem_reaching {t : Target} {rules : List ScopeRule} {rule : ScopeRule} : rule ∈ reaching u t rules ↔
    rule ∈ rules ∧ ∃ n, space u t = some n ∧ ∃ m, ruleSpace u rule = some m ∧ n.overlaps m = true := by
  unfold reaching
  cases space u t with
  | none => simp
  | some n => simpa using mem_overlapping

theorem mem_handed {t : Target} {rules : List ScopeRule} {decision : Decision} {v : Text} : v ∈ handed u t rules decision ↔
    (t.is_network = true ∧ decision = .allowed) ∧ ∃ rule ∈ reaching u t (excludes_of rules), rule.value = v := by
  unfold handed
  split
  · rename_i on
    simp [on]
  · rename_i off
    simp [off]

/-- The hosts the values handed on with an evaluation denote. -/
def leftExcluded (u : Unicode) (e : Evaluation) : Set Host :=
  {h | ∃ v ∈ e.excluded_addresses, ∃ n, ruleSpace u { rule := .exclude, value := v } = some n ∧ h ∈ n.space}

section Target
variable {requested : Text} {t : Target} {rules : List ScopeRule} {resolver : Option Resolver} {e : Evaluation}

/-- What a permitted target's evaluation returns is what scope prescribes inside. -/
theorem evaluate_included_spec {included_by : ScopeRule} {excludes : List ScopeRule} (form : Form t)
    (readable : Readable u excludes) (ran : evaluate_included u requested t included_by excludes resolver = .ok e) :
    e.decision = prescribedInside u t excludes resolver ∧
      e.excluded_addresses =
        (if t.is_network = true ∧ e.decision = .allowed then (reaching u t excludes).map (·.value) else []) ∧
      (e.decision = .allowed → t.is_named u = true → ∀ r ∈ resolver, r t.host = .ok e.resolved_addresses) := by
  unfold evaluate_included at ran
  by_cases network : t.is_network = true
  · obtain ⟨n, _, _, target_space⟩ := is_network_space (u := u) form network
    obtain ⟨b, full, full_iff⟩ := fully_excluded_spec excludes form target_space
    have named : t.is_named u = false := by
      rw [Bool.eq_false_iff, ne_eq, is_named_iff form, target_space]; simp
    rw [if_pos network, evaluate_network, overlapping_exclusions_eq form target_space readable, ok_bind, full,
      ok_bind] at ran
    cases b with
    | true =>
      cases ran
      exact ⟨by simp [prescribedInside, network, target_space, full_iff.mp rfl, judged], by simp [judged], by simp [judged]⟩
    | false =>
      cases ran
      have partly : ¬n.space ⊆ excludedHosts u excludes := fun all => by simpa using full_iff.mpr all
      refine ⟨?_, ?_, by simp [named]⟩
      · simp [prescribedInside, network, target_space, partly, judged]
      · simp [reaching, network, target_space, judged]
  · rw [if_neg network] at ran
    cases named : t.is_named u with
    | false =>
      simp only [named] at ran
      cases ran
      exact ⟨by simp [prescribedInside, network, named, judged], by simp [network, judged], by simp⟩
    | true =>
      cases resolver with
      | none =>
        simp only [named] at ran
        cases ran
        exact ⟨by simp [prescribedInside, network, named, judged], by simp [network, judged], by simp⟩
      | some r =>
        simp only [named] at ran
        obtain ⟨decision, excluded, answers⟩ := evaluate_named_spec ran
        refine ⟨by simp [prescribedInside, network, named, decision], by simp [network, excluded], ?_⟩
        intro allowed _ r' same
        cases same
        exact answers allowed

/-- What the evaluation of a canonical target returns is what scope prescribes. -/
theorem evaluate_target_spec (form : Form t) (ran : evaluate_target u requested t rules resolver = .ok e) :
    e.decision = prescribed u t rules resolver ∧ e.excluded_addresses = handed u t rules e.decision ∧
      (e.decision = .allowed → t.is_named u = true → ∀ r ∈ resolver, r t.host = .ok e.resolved_addresses) := by
  unfold evaluate_target at ran
  obtain ⟨reason, policy, ran⟩ := bind_eq_ok.mp ran
  obtain ⟨reason', same, hard_iff⟩ := hard_policy_reason_spec (u := u) form
  rw [policy] at same
  cases same
  cases reason with
  | some text =>
    cases ran
    have hard : HardDenied u t := hard_iff.mp rfl
    exact ⟨by simp [prescribed, hard, judged], by simp [handed, judged], by simp [judged]⟩
  | none =>
    have soft : ¬HardDenied u t := fun hard => by simpa using hard_iff.mpr hard
    simp only at ran
    by_cases nothing : includes_of rules = []
    · rw [if_pos nothing] at ran
      cases ran
      exact ⟨by simp [prescribed, soft, nothing, judged], by simp [handed, judged], by simp [judged]⟩
    rw [if_neg nothing] at ran
    obtain ⟨excluded_by, first, ran⟩ := bind_eq_ok.mp ran
    cases excluded_by with
    | some rule =>
      cases ran
      have covered := covered_of_some form first
      exact ⟨by simp [prescribed, soft, nothing, covered, judged], by simp [handed, judged], by simp [judged]⟩
    | none =>
      obtain ⟨uncovered, readable⟩ := first_match_none form first
      obtain ⟨included_by, second, ran⟩ := bind_eq_ok.mp ran
      cases included_by with
      | none =>
        cases ran
        obtain ⟨outside, _⟩ := first_match_none form second
        exact ⟨by simp [prescribed, soft, nothing, uncovered, outside, judged], by simp [handed, judged], by simp [judged]⟩
      | some rule =>
        have covered := covered_of_some form second
        have inside : prescribed u t rules resolver = prescribedInside u t (excludes_of rules) resolver := by
          simp [prescribed, soft, nothing, uncovered, covered]
        rw [inside]
        exact evaluate_included_spec form readable ran

theorem evaluate_included_total {included_by : ScopeRule} {excludes : List ScopeRule} (form : Form t)
    (readable : Readable u excludes) : ∃ e, evaluate_included u requested t included_by excludes resolver = .ok e := by
  unfold evaluate_included
  by_cases network : t.is_network = true
  · obtain ⟨n, _, _, target_space⟩ := is_network_space (u := u) form network
    obtain ⟨b, full, _⟩ := fully_excluded_spec excludes form target_space
    rw [if_pos network, evaluate_network, overlapping_exclusions_eq form target_space readable, ok_bind, full, ok_bind]
    cases b <;> exact ⟨_, rfl⟩
  · rw [if_neg network]
    cases t.is_named u with
    | false => exact ⟨_, rfl⟩
    | true =>
      cases resolver with
      | none => exact ⟨_, rfl⟩
      | some r => exact evaluate_named_total readable

/-- Readable rules always give an evaluation. -/
theorem evaluate_target_total (form : Form t) (readable : Readable u rules) :
    ∃ e, evaluate_target u requested t rules resolver = .ok e := by
  have includes_readable : Readable u (includes_of rules) := fun r member => readable r (List.mem_of_mem_filter member)
  have excludes_readable : Readable u (excludes_of rules) := fun r member => readable r (List.mem_of_mem_filter member)
  obtain ⟨reason, policy, _⟩ := hard_policy_reason_spec (u := u) form
  unfold evaluate_target
  rw [policy, ok_bind]
  cases reason with
  | some text => exact ⟨_, rfl⟩
  | none =>
    simp only
    by_cases nothing : includes_of rules = []
    · exact ⟨_, if_pos nothing⟩
    rw [if_neg nothing]
    obtain ⟨excluded_by, first⟩ := first_match_total form excludes_readable
    rw [first, ok_bind]
    cases excluded_by with
    | some rule => exact ⟨_, rfl⟩
    | none =>
      obtain ⟨included_by, second⟩ := first_match_total form includes_readable
      simp only [second, ok_bind]
      cases included_by with
      | none => exact ⟨_, rfl⟩
      | some rule => exact evaluate_included_total form excludes_readable

end Target

/-! ### Requests -/

section Request
variable {requested : Text} {rules : List ScopeRule} {resolver : Option Resolver} {e : Evaluation}

/-- What `evaluate` returns: a refused text, or what scope prescribes. -/
theorem evaluate_spec (ran : evaluate u requested rules resolver = .ok e) :
    (e.decision = .invalid_target ∧ e.excluded_addresses = [] ∧
      ∃ message, normalize_target u requested = .error (.targetError message)) ∨
    ∃ t, normalize_target u requested = .ok t ∧ Form t ∧ e.decision = prescribed u t rules resolver ∧
      e.excluded_addresses = handed u t rules e.decision ∧
      (e.decision = .allowed → t.is_named u = true → ∀ r ∈ resolver, r t.host = .ok e.resolved_addresses) := by
  unfold evaluate at ran
  cases read : normalize_target u requested with
  | error error =>
    cases error with
    | valueError => simp [read] at ran
    | targetError message =>
      simp only [read, Except.ok.injEq] at ran
      subst ran
      exact Or.inl ⟨rfl, rfl, message, rfl⟩
  | ok t =>
    simp only [read] at ran
    have form := normalize_target_form read
    exact Or.inr ⟨t, rfl, form, evaluate_target_spec form ran⟩

theorem evaluate_of_target {t : Target} (read : normalize_target u requested = .ok t) :
    evaluate u requested rules resolver = evaluate_target u requested t rules resolver := by
  simp [evaluate, read]

end Request

end RedDock.Verdict
