import RedDock.Soundness

/-!
# IPv4-mapped addresses

The block `::ffff:0:0/96` writes IPv4 addresses as IPv6 ones. No literal is
tested for it. An address below `2 ^ 48` is spelled with a leading colon, every
network that meets the block starts below `2 ^ 48`, and a safe token does not
start with a colon. Answers of a name lookup are tested one by one.
-/
set_option autoImplicit false
namespace RedDock.MappedAddresses
open Text IPAddress Targets IpText Canonical DockGuard Fallible Scope Verdict Soundness

variable {u : Unicode}

/-- The hosts of `::ffff:0:0/96`. -/
def MAPPED : Set Host := hosts .v6 {ip | ip / 2 ^ 32 = 0xFFFF}

theorem mem_mapped_iff (a : IPAddress) : a.host ∈ MAPPED ↔ a.ipv4_mapped.isSome = true := by
  cases a with
  | v4 ip => simp [MAPPED, hosts, IPAddress.host, IPAddress.version, IPAddress.ipv4_mapped]
  | v6 ip scope_id =>
    have member : (IPAddress.v6 ip scope_id).host ∈ MAPPED ↔ ip.val / 2 ^ 32 = 0xFFFF := and_iff_right rfl
    rw [member, IPAddress.ipv4_mapped]
    split
    · exact iff_of_true ‹_› rfl
    · exact iff_of_false ‹_› (by simp)

/-! ### The spelling of low addresses -/

theorem hextets_low {ip : Nat} (low : ip < 2 ^ 48) : ∃ a b c, digitsOf 65536 8 ip = [0, 0, 0, 0, 0, a, b, c] := by
  have high : ∀ k, 3 ≤ k → ip / 65536 ^ k = 0 := fun k far => by
    have grows : 65536 ^ 3 ≤ 65536 ^ k := Nat.pow_le_pow_right (by decide) far
    exact Nat.div_eq_of_lt (by omega)
  refine ⟨ip / 65536 ^ 2 % 65536, ip / 65536 % 65536, ip % 65536, ?_⟩
  simp only [digitsOf, show List.range 8 = [0, 1, 2, 3, 4, 5, 6, 7] from rfl, List.map_cons, List.map_nil]
  rw [high (8 - 1 - 0) (by decide), high (8 - 1 - 1) (by decide), high (8 - 1 - 2) (by decide),
    high (8 - 1 - 3) (by decide), high (8 - 1 - 4) (by decide)]
  norm_num

/-- Five leading zeros are never beaten by a later run. -/
theorem zeroRuns_low (a b c : Text) :
    (zeroRuns [['0'], ['0'], ['0'], ['0'], ['0'], a, b, c]).best_start = 0 ∧
      5 ≤ (zeroRuns [['0'], ['0'], ['0'], ['0'], ['0'], a, b, c]).best_len := by
  by_cases first : a = ['0'] <;> by_cases second : b = ['0'] <;> by_cases third : c = ['0'] <;>
    simp [zeroRuns, List.zipIdx, Runs.next, first, second, third]

theorem v6_string_low {ip : Nat} (low : ip < 2 ^ 48) : (v6_string ip).head? = some ':' := by
  obtain ⟨a, b, c, hextets⟩ := hextets_low low
  have zero : hex 0 = ['0'] := by decide
  obtain ⟨start, long⟩ := zeroRuns_low (hex a) (hex b) (hex c)
  unfold v6_string compress_hextets
  simp only [hextets, List.map_cons, List.map_nil, zero]
  rw [if_pos (by omega), start]
  simp [cutRun, join]

theorem str_low {a : IPAddress} (plain : Plain a) (family : a.version = .v6) (safe : a.str.head? ≠ some ':') :
    2 ^ 48 ≤ a.ip := by
  rcases plain_cases plain with ⟨ip, rfl⟩ | ⟨ip, rfl, unmapped⟩
  · cases family
  · rw [str_v6 unmapped] at safe
    exact Nat.le_of_not_lt fun low => safe (v6_string_low low)

/-! ### Targets -/

theorem disjoint_of_high {n : IPNetwork} (high : n.version = .v6 → 2 ^ 48 ≤ n.network_address.ip) :
    Disjoint n.space MAPPED := by
  rw [Set.disjoint_left]
  intro h inside mapped
  cases n with
  | v4 b => exact absurd (inside.1.symm.trans mapped.1) (by decide)
  | v6 b =>
    have base : 2 ^ 48 ≤ b.base := high rfl
    have above : b.base ≤ h.2 := inside.2.1
    have block : h.2 / 2 ^ 32 = 0xFFFF := mapped.2
    omega

theorem usable_unmapped {a : IPAddress} (usable : Usable a) : Disjoint (IPNetwork.single a).space MAPPED := by
  rw [IPNetwork.space_single, Set.disjoint_singleton_left, mem_mapped_iff, usable.plain.1]
  simp

theorem usable_network_unmapped {n : IPNetwork} (usable : UsableNetwork n) : Disjoint n.space MAPPED := by
  refine disjoint_of_high fun family => str_low usable.plain ?_ fun colon => head_of_safe_token usable.safe ?_
  · cases n <;> exact family
  · rw [IPNetwork.str, List.append_assoc, List.head?_append_of_ne_nil]
    · exact colon
    · intro empty; simp [empty] at colon

/-- The address space a target denotes is read and holds no mapped address. -/
def Unmapped (u : Unicode) (t : Target) : Prop :=
  ∃ n, t.network u = .ok n ∧ ∀ m ∈ n, Disjoint m.space MAPPED

theorem form_unmapped {t : Target} (form : Form t) : Unmapped u t := by
  have one : ∀ {n : IPNetwork}, Disjoint n.space MAPPED → ∀ m ∈ some n, Disjoint m.space MAPPED :=
    fun disjoint m same => Option.mem_some.mp same ▸ disjoint
  cases form with
  | address usable => exact ⟨_, network_address usable, one (usable_unmapped usable)⟩
  | network usable => exact ⟨_, network_network usable, one (usable_network_unmapped usable)⟩
  | name name => exact ⟨_, network_name, by simp⟩
  | origin _ is_written _ _ =>
    rcases network_origin (u := u) _ _ _ is_written with ⟨_, usable, _, same⟩ | ⟨_, same⟩
    · exact ⟨_, same, one (usable_unmapped usable)⟩
    · exact ⟨_, same, by simp⟩

/-! ### Decisions -/

/-- A resolved answer that is an address outside the block. -/
def AnswerUnmapped (answer : Text) : Prop := ∃ a, IPAddress.ip_address answer = some a ∧ a.host ∉ MAPPED

theorem accepted_unmapped {answer : Text} (accepted : refused_answer answer = none) : AnswerUnmapped answer := by
  unfold refused_answer at accepted
  cases read : IPAddress.ip_address answer with
  | none => simp [read] at accepted
  | some a =>
    refine ⟨a, read, fun mapped => ?_⟩
    simp [read, (mem_mapped_iff a).mp mapped] at accepted

section Evaluation
variable {requested : Text} {t : Target} {rules : List ScopeRule} {resolver : Option Resolver} {e : Evaluation}

/-- Only the answers of a resolver are recorded with a decision. -/
theorem unresolved_included {included_by : ScopeRule} {excludes : List ScopeRule}
    (unnamed : t.is_named u = true → resolver = none)
    (ran : evaluate_included u requested t included_by excludes resolver = .ok e) : e.resolved_addresses = [] := by
  unfold evaluate_included at ran
  split at ran
  · unfold evaluate_network at ran
    obtain ⟨overlapping, _, ran⟩ := bind_eq_ok.mp ran
    obtain ⟨full, _, ran⟩ := bind_eq_ok.mp ran
    cases full <;> cases ran <;> rfl
  · split at ran
    · rename_i named
      cases unnamed named
    · cases ran; rfl

theorem unresolved_target (unnamed : t.is_named u = true → resolver = none)
    (ran : evaluate_target u requested t rules resolver = .ok e) : e.resolved_addresses = [] := by
  unfold evaluate_target at ran
  obtain ⟨reason, _, ran⟩ := bind_eq_ok.mp ran
  cases reason with
  | some policy_reason => cases ran; rfl
  | none =>
    simp only at ran
    split at ran
    · cases ran; rfl
    obtain ⟨excluded_by, _, ran⟩ := bind_eq_ok.mp ran
    cases excluded_by with
    | some rule => cases ran; rfl
    | none =>
      obtain ⟨included_by, _, ran⟩ := bind_eq_ok.mp ran
      cases included_by with
      | none => cases ran; rfl
      | some rule => exact unresolved_included unnamed ran

theorem allowed_unmapped (form : Form t) (ran : evaluate_target u requested t rules resolver = .ok e)
    (allowed : e.decision = .allowed) : ∀ answer ∈ e.resolved_addresses, AnswerUnmapped answer := by
  obtain ⟨decision, _, resolved⟩ := evaluate_target_spec form ran
  cases resolver with
  | none =>
    rw [unresolved_target (fun _ => rfl) ran]
    simp
  | some r =>
    by_cases named : t.is_named u = true
    · rw [allowed] at decision
      have inside := (prescribed_allowed_iff.mp decision.symm).inside
      rw [named_inside form named, resolved allowed named r rfl] at inside
      obtain ⟨addresses, same, each⟩ := prescribedFor_allowed inside
      cases same
      exact fun answer member => accepted_unmapped (each answer member).1
    · rw [unresolved_target (fun is => absurd is named) ran]
      simp

end Evaluation

/-- What the code authorizes, by a decision or as a scope entry, keeps clear of the block. -/
theorem mapped_never_authorized (requested : Text) (rules : List ScopeRule) (resolver : Option Resolver)
    (max_network_addresses : Nat) :
    (∀ e, evaluate u requested rules resolver = .ok e → e.decision = .allowed →
      (∃ t, normalize_target u requested = .ok t ∧ Unmapped u t ∧
        (t.is_named u = true → ∀ r ∈ resolver, r t.host = .ok e.resolved_addresses)) ∧
      ∀ answer ∈ e.resolved_addresses, AnswerUnmapped answer) ∧
    ∀ t, normalize_scope_value u max_network_addresses requested = .ok t →
      normalize_target u requested = .ok t ∧ Unmapped u t := by
  constructor
  · intro e ran allowed
    rcases evaluate_spec ran with ⟨invalid, _⟩ | ⟨t, read, form, _, _, resolved⟩
    · rw [allowed] at invalid
      cases invalid
    · rw [evaluate_of_target read] at ran
      exact ⟨⟨t, read, form_unmapped form, resolved allowed⟩, allowed_unmapped form ran allowed⟩
  · intro t accepted
    unfold normalize_scope_value at accepted
    cases read : normalize_target u requested with
    | error error => simp [read] at accepted
    | ok t' =>
      have same : t' = t := by
        simp only [read] at accepted
        split at accepted
        all_goals first | cases accepted | skip
        · rfl
        · split at accepted
          · cases accepted
          · cases accepted; rfl
      subst same
      exact ⟨rfl, form_unmapped (normalize_target_form read)⟩

/-- A documentation range in scope. -/
def documentationRules : List ScopeRule := [{ rule := .include, value := "2001:db8::/120".toList }]

theorem mapped_never_authorized_documentation :
    (∃ t, normalize_target .plain "2001:db8::/124".toList = .ok t ∧ Unmapped .plain t) ∧
    ∃ t, normalize_scope_value .plain 256 "2001:db8::/124".toList = .ok t ∧ Unmapped .plain t := by
  have authorized := mapped_never_authorized (u := .plain) "2001:db8::/124".toList documentationRules none 256
  constructor
  · have ran : (evaluate .plain "2001:db8::/124".toList documentationRules none).map (·.decision) = .ok .allowed := by
      decide +kernel
    obtain ⟨e, evaluated, allowed⟩ := map_eq_ok.mp ran
    obtain ⟨⟨t, read, unmapped, _⟩, _⟩ := authorized.1 e evaluated allowed
    exact ⟨t, read, unmapped⟩
  · have ran : (normalize_scope_value .plain 256 "2001:db8::/124".toList).map (·.kind) = .ok .ipv6_network := by
      decide +kernel
    obtain ⟨t, accepted, _⟩ := map_eq_ok.mp ran
    exact ⟨t, accepted, (authorized.2 t accepted).2⟩

example : (normalize_target .plain "::ffff:10.0.0.1".toList).toOption = none := by decide +kernel
example : (normalize_target .plain "::ffff:a00:0/100".toList).toOption = none := by decide +kernel

end RedDock.MappedAddresses
