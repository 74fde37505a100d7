import RedDock.Verdict

/-!
# Soundness of an allowed decision

What an allowed decision promises of the target and of the addresses behind a
name, and the one kind of answer that breaks the promise: `excluded_address`
takes an address with a zone for no address at all.
-/
set_option autoImplicit false
namespace RedDock.Soundness
open Text Targets IpText Canonical DockGuard Fallible Scope Verdict

variable {u : Unicode}

/-- Everything an allowed decision promises of a target. -/
structure Sound (u : Unicode) (rules : List ScopeRule) (resolver : Resolver) (t : Target) : Prop where
  space_permitted : ∀ n, space u t = some n → ∀ denied ∈ HARD_DENY_NETWORKS, n.overlaps denied = false
  name_permitted : t.host ∉ HARD_DENY_HOSTNAMES
  included : ∃ rule ∈ rules, rule.rule = .include ∧ ∃ entry, rule.target u = .ok entry ∧ Covers u entry t
  not_excluded : ∀ rule ∈ rules, rule.rule = .exclude → ∀ entry, rule.target u = .ok entry → ¬Covers u entry t
  answers : t.is_named u = true → ∃ addresses, resolver t.host = .ok addresses ∧ ∀ a ∈ addresses,
    ∃ parsed, IPAddress.ip_address a = some parsed ∧ (∀ denied ∈ HARD_DENY_NETWORKS, denied.contains parsed = false) ∧
      ∀ rule ∈ rules, rule.rule = .exclude → ∀ n, ruleSpace u rule = some n → n.contains parsed = false

/-- No answer for the requested name carries a zone on an address that an
    exclusion holds. -/
def ZoneFree (u : Unicode) (requested : Text) (rules : List ScopeRule) (resolver : Resolver) : Prop :=
  ∀ t, normalize_target u requested = .ok t → t.is_named u = true → ∀ addresses, resolver t.host = .ok addresses →
    ∀ a ∈ addresses, '%' ∈ a → ∀ parsed, IPAddress.ip_address a = some parsed →
      ∀ rule ∈ rules, rule.rule = .exclude → ∀ n, ruleSpace u rule = some n → n.contains parsed = false

/-! ### An allowed decision -/

/-- The conditions under which scope prescribes `allowed`. -/
structure Admitted (u : Unicode) (t : Target) (rules : List ScopeRule) (resolver : Option Resolver) : Prop where
  soft : ¬HardDenied u t
  included : Covered u (includes_of rules) t
  not_excluded : ¬Covered u (excludes_of rules) t
  inside : prescribedInside u t (excludes_of rules) resolver = .allowed

theorem prescribed_allowed_iff {t : Target} {rules : List ScopeRule} {resolver : Option Resolver} :
    prescribed u t rules resolver = .allowed ↔ Admitted u t rules resolver := by
  unfold prescribed
  constructor
  · intro allowed
    split at allowed
    · simp at allowed
    rename_i soft
    split at allowed
    · simp at allowed
    split at allowed
    · simp at allowed
    rename_i not_excluded
    split at allowed
    · simp at allowed
    rename_i included
    exact ⟨soft, not_not.mp included, not_excluded, allowed⟩
  · rintro ⟨soft, included, not_excluded, inside⟩
    have some_include : includes_of rules ≠ [] := by
      obtain ⟨rule, member, _⟩ := included
      exact List.ne_nil_of_mem member
    simp [soft, some_include, not_excluded, included, inside]

/-- The answers behind an admitted name. -/
theorem prescribedFor_allowed {excludes : List ScopeRule} {answer : Answer}
    (allowed : prescribedFor u excludes answer = .allowed) :
    ∃ addresses, answer = .ok addresses ∧ ∀ a ∈ addresses, refused_answer a = none ∧ hard_denied_address a = false ∧
      ¬AnswerExcluded u excludes a := by
  cases answer with
  | error strerror => simp [prescribedFor] at allowed
  | ok addresses =>
    simp only [prescribedFor] at allowed
    split at allowed
    · simp at allowed
    split at allowed
    · simp at allowed
    rename_i accepted
    split at allowed
    · simp at allowed
    rename_i permitted
    split at allowed
    · simp at allowed
    rename_i outside
    refine ⟨addresses, rfl, fun a member => ⟨?_, ?_, fun excluded => outside ⟨a, member, excluded⟩⟩⟩
    · by_contra refused
      exact accepted ⟨a, member, Option.isSome_iff_ne_none.mpr refused⟩
    · exact Bool.eq_false_iff.mpr fun hard => permitted ⟨a, member, hard⟩

theorem named_inside {t : Target} {excludes : List ScopeRule} {resolver : Resolver} (form : Form t)
    (named : t.is_named u = true) :
    prescribedInside u t excludes (some resolver) = prescribedFor u excludes (resolver t.host) := by
  have nothing := (is_named_iff form).mp named
  cases network : t.is_network <;> simp [prescribedInside, nothing, named, network]

theorem not_hard_denied_host {t : Target} (form : Form t) (soft : ¬HardDenied u t) : t.host ∉ HARD_DENY_HOSTNAMES := by
  have letter : ∀ h ∈ HARD_DENY_HOSTNAMES, 't' ∈ h := by decide +kernel
  have literal : ∀ {a : IPAddress}, Plain a → a.str ∉ HARD_DENY_HOSTNAMES := fun {a} plain member =>
    absurd (str_char plain 't' (letter _ member)) (by unfold AddressChar; decide)
  by_cases named : t.is_named u = true
  · exact fun member => soft (Or.inl ⟨named, member⟩)
  · cases form with
    | address usable => exact literal usable.plain
    | @network n usable =>
      intro member
      have inside : 't' ∈ n.str := letter _ member
      simp only [IPNetwork.str, List.append_assoc, List.mem_append, List.mem_singleton] at inside
      rcases inside with inAddress | slash | inLength
      · exact absurd (str_char usable.plain 't' inAddress) (by unfold AddressChar; decide)
      · exact absurd slash (by decide)
      · exact absurd (isDigit_of_mem_dec inLength) (by decide)
    | name name => exact absurd rfl named
    | origin known is_written low high =>
      cases is_written with
      | name name =>
        refine absurd ?_ named
        simp [Target.is_named, originTarget, is_address_text_name name]
      | v4 usable _ => exact literal usable.plain
      | v6 usable _ => exact literal usable.plain

theorem hard_denied_address_eq {answer : Text} {parsed : IPAddress} (read : IPAddress.ip_address answer = some parsed) :
    hard_denied_address answer = true ↔ parsed.host ∈ hardDenied := by
  rw [hard_denied_address, read]
  exact hard_contains_iff parsed

theorem mem_excludedHosts {rules : List ScopeRule} {parsed : IPAddress} : parsed.host ∉ excludedHosts u (excludes_of rules) ↔
    ∀ rule ∈ rules, rule.rule = .exclude → ∀ n, ruleSpace u rule = some n → n.contains parsed = false := by
  constructor
  · intro outside rule member kind n same
    rw [Bool.eq_false_iff, ne_eq, IPNetwork.contains_iff]
    exact fun held => outside ⟨rule, mem_excludes.mpr ⟨member, kind⟩, n, same, held⟩
  · rintro clear ⟨rule, member, n, same, held⟩
    obtain ⟨inRules, kind⟩ := mem_excludes.mp member
    have out := clear rule inRules kind n same
    rw [Bool.eq_false_iff, ne_eq, IPNetwork.contains_iff] at out
    exact out held

/-- An accepted answer outside hard-denied space, read as an address. -/
theorem answer_parsed {excludes : List ScopeRule} {answer : Text} (accepted : refused_answer answer = none)
    (permitted : hard_denied_address answer = false) (outside : ¬AnswerExcluded u excludes answer) :
    ∃ parsed, IPAddress.ip_address answer = some parsed ∧ parsed.host ∉ hardDenied ∧
      ('%' ∉ answer → parsed.host ∉ excludedHosts u excludes) := by
  cases read : IPAddress.ip_address answer with
  | none => simp [refused_answer, read] at accepted
  | some parsed =>
    refine ⟨parsed, rfl, ?_, ?_⟩
    · rw [← hard_denied_address_eq read, permitted]
      simp
    · intro plain held
      exact outside ⟨is_address_text_iff.mpr ⟨by simp [read], plain⟩, parsed, read, held⟩

/-- An allowed request is sound exactly when no answer hides an excluded address
    behind a zone. -/
theorem allowed_sound_iff {requested : Text} {rules : List ScopeRule} {resolver : Resolver} {e : Evaluation}
    (ran : evaluate u requested rules (some resolver) = .ok e) (allowed : e.decision = .allowed) :
    (∃ t, normalize_target u requested = .ok t ∧ Sound u rules resolver t) ↔ ZoneFree u requested rules resolver := by
  rcases evaluate_spec ran with ⟨invalid, _⟩ | ⟨t, read, form, decision, _, _⟩
  · rw [allowed] at invalid
    simp at invalid
  rw [allowed] at decision
  obtain ⟨soft, included, not_excluded, inside⟩ := prescribed_allowed_iff.mp decision.symm
  constructor
  · rintro ⟨t', read', sound⟩ t'' read'' named addresses answered a member _ parsed reads
    rw [read'] at read''
    cases read''
    obtain ⟨addresses', answered', each⟩ := sound.answers named
    rw [answered] at answered'
    cases answered'
    obtain ⟨parsed', reads', _, clear⟩ := each a member
    rw [reads] at reads'
    cases reads'
    exact clear
  · intro zoneFree
    refine ⟨t, read, ?_, not_hard_denied_host form soft, ?_, ?_, ?_⟩
    · intro n same denied member
      rw [Bool.eq_false_iff, ne_eq, IPNetwork.overlaps_iff]
      rintro ⟨h, inN, inDenied⟩
      exact soft (Or.inr ⟨n, same, h, inN, denied, member, inDenied⟩)
    · obtain ⟨rule, member, covering⟩ := included
      obtain ⟨inRules, kind⟩ := mem_includes.mp member
      exact ⟨rule, inRules, kind, covering⟩
    · intro rule member kind entry reads covers
      exact not_excluded ⟨rule, mem_excludes.mpr ⟨member, kind⟩, entry, reads, covers⟩
    · intro named
      rw [named_inside form named] at inside
      obtain ⟨addresses, answered, each⟩ := prescribedFor_allowed inside
      refine ⟨addresses, answered, fun a member => ?_⟩
      obtain ⟨accepted, permitted, outside⟩ := each a member
      obtain ⟨parsed, reads, notHard, clear⟩ := answer_parsed accepted permitted outside
      refine ⟨parsed, reads, fun denied inDenied => ?_, ?_⟩
      · rw [Bool.eq_false_iff, ne_eq, IPNetwork.contains_iff]
        exact fun held => notHard ⟨denied, inDenied, held⟩
      · by_cases zone : '%' ∈ a
        · exact zoneFree t read named addresses answered a member zone parsed reads
        · exact mem_excludedHosts.mp (clear zone)

/-! ### A zone hides an excluded address -/

/-- A name in scope, and a documentation range taken out of it. -/
def zoneRules : List ScopeRule :=
  [{ rule := .include, value := "app.example".toList }, { rule := .exclude, value := "2001:db8::/120".toList }]

def zoneResolver : Resolver := fun _ => .ok ["2001:db8::1%eth0".toList]

theorem zone_evaluation : ∃ e, evaluate .plain "app.example".toList zoneRules (some zoneResolver) = .ok e ∧
    e.decision = .allowed := by
  have ran : (evaluate .plain "app.example".toList zoneRules (some zoneResolver)).map (·.decision) = .ok .allowed := by
    decide +kernel
  exact map_eq_ok.mp ran

theorem zone_answer_allowed : ∃ e, evaluate .plain "app.example".toList zoneRules (some zoneResolver) = .ok e ∧
    e.decision = .allowed ∧
      ¬∃ t, normalize_target .plain "app.example".toList = .ok t ∧ Sound .plain zoneRules zoneResolver t := by
  obtain ⟨e, ran, allowed⟩ := zone_evaluation
  refine ⟨e, ran, allowed, ?_⟩
  rintro ⟨t, read, sound⟩
  have named : t.is_named .plain = true := by
    have ran : (normalize_target .plain "app.example".toList).map (·.is_named .plain) = .ok true := by decide +kernel
    obtain ⟨t', read', named⟩ := map_eq_ok.mp ran
    rw [read] at read'
    cases read'
    exact named
  obtain ⟨addresses, answered, each⟩ := sound.answers named
  cases answered
  obtain ⟨parsed, reads, _, clear⟩ := each _ (List.mem_singleton.mpr rfl)
  have denoted : (ruleSpace .plain { rule := .exclude, value := "2001:db8::/120".toList }).isSome = true := by decide +kernel
  obtain ⟨n, same⟩ := Option.isSome_iff_exists.mp denoted
  have out := clear _ (by simp [zoneRules]) rfl n same
  have held : ((ruleSpace .plain { rule := .exclude, value := "2001:db8::/120".toList }).bind fun n =>
      (IPAddress.ip_address "2001:db8::1%eth0".toList).map n.contains) = some true := by decide +kernel
  rw [same, reads] at held
  simp [out] at held

theorem allowed_sound_iff_zone :
    (∃ t, normalize_target .plain "app.example".toList = .ok t ∧ Sound .plain zoneRules zoneResolver t) ↔
      ZoneFree .plain "app.example".toList zoneRules zoneResolver := by
  obtain ⟨e, ran, allowed⟩ := zone_evaluation
  exact allowed_sound_iff ran allowed

end RedDock.Soundness
