import RedDock.Canonical
import RedDock.DockGuard
import RedDock.IpSpace

/-!
# What scope means

The abstract reading of scope: a target is a set of hosts or a name, an entry
covers a target, and an exclusion takes hosts out of a network. Each operation
of `DockGuard` is tied to it by one lemma.
-/
set_option autoImplicit false
namespace RedDock.Scope
open Text Targets IpText Canonical DockGuard Fallible

variable {u : Unicode}

/-! ### Address space -/

/-- The address space of a target, absent for a name. -/
def space (u : Unicode) (t : Target) : Option IPNetwork :=
  match t.network u with
  | .ok n => n
  | .error _ => none

theorem space_of {t : Target} {n : Option IPNetwork} (read : t.network u = .ok n) : space u t = n := by
  simp [space, read]

section Forms
variable {a : IPAddress} {n : IPNetwork} {labels : List Text} {h : Text}

theorem network_address (usable : Usable a) : (addressTarget a).network u = .ok (some (.single a)) := by
  have kind : (addressTarget a).is_address = true := by cases a <;> rfl
  have value : (addressTarget a).value = a.str := rfl
  simp [Target.network, kind, value, ip_network_address usable.plain]

theorem network_network (usable : UsableNetwork n) : (networkTarget n).network u = .ok (some n) := by
  have kind : (networkTarget n).is_network = true := by cases n <;> rfl
  have value : (networkTarget n).value = n.str := rfl
  simp [Target.network, kind, value, ip_network_str usable.plain]

theorem network_name : (nameTarget h).network u = .ok none := by
  simp [Target.network, Target.is_network, Target.is_address, nameTarget]

theorem is_address_text_str (usable : Usable a) : is_address_text u a.str = true := by
  simp [is_address_text, parse_address_str usable.plain]

theorem is_address_text_name (name : Name labels h) : is_address_text u h = false := by
  simp [is_address_text, parse_address_name name]

/-- The address an origin is written with, absent for a named one. -/
theorem network_origin (scheme : Text) (default port : Nat) {host written : Text} (is_written : Written host written) :
    (∃ a, Usable a ∧ host = a.str ∧ (originTarget scheme host written default port).network u = .ok (some (.single a))) ∨
    ((∃ labels, Name labels host) ∧ (originTarget scheme host written default port).network u = .ok none) := by
  have literal : ∀ {a : IPAddress} {w : Text}, Usable a →
      (originTarget scheme a.str w default port).network u = .ok (some (.single a)) := fun {a w} usable => by
    simp [Target.network, Target.is_network, Target.is_address, originTarget, is_address_text_str usable,
      ip_network_address usable.plain]
  cases is_written with
  | name name =>
    refine Or.inr ⟨⟨_, name⟩, ?_⟩
    simp [Target.network, Target.is_network, Target.is_address, originTarget, is_address_text_name name]
  | v4 usable _ => exact Or.inl ⟨_, usable, rfl, literal usable⟩
  | v6 usable _ => exact Or.inl ⟨_, usable, rfl, literal usable⟩

end Forms

section Target
variable {t : Target}

/-- The network of a canonical target is always there to be read. -/
theorem network_total (form : Form t) : t.network u = .ok (space u t) := by
  have read : (∃ n, t.network u = .ok n) → t.network u = .ok (space u t) := by
    rintro ⟨n, same⟩
    rw [space_of same, same]
  apply read
  cases form with
  | address usable => exact ⟨_, network_address usable⟩
  | network usable => exact ⟨_, network_network usable⟩
  | name name => exact ⟨_, network_name⟩
  | origin _ is_written _ _ =>
    rcases network_origin (u := u) _ _ _ is_written with ⟨_, _, _, same⟩ | ⟨_, same⟩
    · exact ⟨_, same⟩
    · exact ⟨_, same⟩

theorem is_named_iff (form : Form t) : t.is_named u = true ↔ space u t = none := by
  cases form with
  | @address a usable =>
    have named : (addressTarget a).is_named u = false := by cases a <;> rfl
    simp [named, space_of (network_address usable)]
  | @network n usable =>
    have named : (networkTarget n).is_named u = false := by cases n <;> rfl
    simp [named, space_of (network_network usable)]
  | name name =>
    rw [space_of network_name]
    simp [Target.is_named, nameTarget]
  | @origin scheme host written default port known is_written low high =>
    rcases network_origin (u := u) scheme default port is_written with
      ⟨a, usable, rfl, same⟩ | ⟨⟨labels, name⟩, same⟩
    · rw [space_of same]
      simp [Target.is_named, originTarget, is_address_text_str usable]
    · rw [space_of same]
      simp [Target.is_named, originTarget, is_address_text_name name]

theorem is_network_space (form : Form t) (network : t.is_network = true) :
    ∃ n, UsableNetwork n ∧ t = networkTarget n ∧ space u t = some n := by
  cases form with
  | @address a usable => cases a <;> simp [addressTarget, address_kind, IPAddress.version, Target.is_network] at network
  | @network n usable => exact ⟨n, usable, rfl, space_of (network_network usable)⟩
  | name name => simp [nameTarget, Target.is_network] at network
  | origin => simp [originTarget, Target.is_network] at network

end Target

/-! ### Coverage -/

/-- An entry covers a target: an origin covers itself, address space covers
    the address space inside it, a name covers itself. -/
def Covers (u : Unicode) (entry t : Target) : Prop :=
  if entry.kind = .url then t.kind = .url ∧ t.value = entry.value
  else
    match space u entry, space u t with
    | some m, some n => n.space ⊆ m.space
    | none, none => t.host = entry.host
    | _, _ => False

/-- Some rule of the list is an entry that covers the target. -/
def Covered (u : Unicode) (rules : List ScopeRule) (t : Target) : Prop :=
  ∃ rule ∈ rules, ∃ entry, rule.target u = .ok entry ∧ Covers u entry t

/-- No rule raises an error the evaluation does not catch. -/
def Readable (u : Unicode) (rules : List ScopeRule) : Prop := ∀ rule ∈ rules, rule.target u ≠ .error .valueError

theorem rule_form {rule : ScopeRule} {entry : Target} (reads : rule.target u = .ok entry) : Form entry :=
  normalize_target_form reads

theorem matches_rule_spec (u : Unicode) {t entry : Target} (form : Form t) (entry_form : Form entry) :
    ∃ b, matches_rule u t entry = .ok b ∧ (b = true ↔ Covers u entry t) := by
  unfold matches_rule Covers
  by_cases origin : entry.kind = .url
  · by_cases both : t.kind = .url
    · exact ⟨decide (t.value = entry.value), by simp [origin, both], by simp [origin, both]⟩
    · exact ⟨false, by simp [origin, both], by simp [origin, both]⟩
  · simp only [origin, and_false, if_false, network_total form, network_total entry_form, ok_bind, pure_eq_ok]
    cases target_space : space u t with
    | none => cases entry_space : space u entry <;> simp
    | some n =>
      cases entry_space : space u entry with
      | none => simp
      | some m =>
        refine ⟨_, rfl, ?_⟩
        rw [Bool.and_eq_true, decide_eq_true_iff, IPNetwork.subnet_of_iff]
        exact ⟨fun inside => inside.2, fun inside => ⟨IPNetwork.version_eq_of_subset inside, inside⟩⟩

section Rules
variable {t : Target}

theorem first_match_none {rules : List ScopeRule} (form : Form t) (none : first_match u t rules = .ok none) :
    ¬Covered u rules t ∧ Readable u rules := by
  induction rules with
  | nil => exact ⟨by rintro ⟨_, member, _⟩; simp at member, by intro _ member; simp at member⟩
  | cons rule rules ih =>
    unfold first_match at none
    cases reads : rule.target u with
    | error e =>
      cases e with
      | valueError => simp [reads] at none
      | targetError message =>
        simp only [reads, error_bind] at none
        obtain ⟨uncovered, readable⟩ := ih none
        constructor
        · rintro ⟨r, member, entry, entry_reads, covers⟩
          rcases List.mem_cons.mp member with rfl | later
          · simp [reads] at entry_reads
          · exact uncovered ⟨r, later, entry, entry_reads, covers⟩
        · intro r member
          rcases List.mem_cons.mp member with rfl | later
          · simp [reads]
          · exact readable r later
    | ok entry =>
      obtain ⟨b, ran, covers_iff⟩ := matches_rule_spec u form (rule_form reads)
      simp only [reads, ok_bind, ran] at none
      cases b with
      | true => simp at none
      | false =>
        obtain ⟨uncovered, readable⟩ := ih none
        constructor
        · rintro ⟨r, member, other, other_reads, covers⟩
          rcases List.mem_cons.mp member with rfl | later
          · rw [reads] at other_reads
            cases other_reads
            exact absurd (covers_iff.mpr covers) (by decide)
          · exact uncovered ⟨r, later, other, other_reads, covers⟩
        · intro r member
          rcases List.mem_cons.mp member with rfl | later
          · simp [reads]
          · exact readable r later

theorem first_match_some {rules : List ScopeRule} {rule : ScopeRule} (form : Form t)
    (found : first_match u t rules = .ok (some rule)) :
    rule ∈ rules ∧ ∃ entry, rule.target u = .ok entry ∧ Covers u entry t := by
  induction rules with
  | nil => simp [first_match] at found
  | cons head rules ih =>
    unfold first_match at found
    cases reads : head.target u with
    | error e =>
      cases e with
      | valueError => simp [reads] at found
      | targetError message =>
        simp only [reads, error_bind] at found
        exact ⟨List.mem_cons_of_mem _ (ih found).1, (ih found).2⟩
    | ok entry =>
      obtain ⟨b, ran, covers_iff⟩ := matches_rule_spec u form (rule_form reads)
      simp only [reads, ok_bind, ran] at found
      cases b with
      | true =>
        cases found
        exact ⟨by simp, entry, reads, covers_iff.mp rfl⟩
      | false => exact ⟨List.mem_cons_of_mem _ (ih found).1, (ih found).2⟩

theorem covered_of_some {rules : List ScopeRule} {rule : ScopeRule} (form : Form t)
    (found : first_match u t rules = .ok (some rule)) : Covered u rules t :=
  have ⟨member, entry, reads, covers⟩ := first_match_some form found
  ⟨rule, member, entry, reads, covers⟩

/-- Readable rules are always compared to the end. -/
theorem first_match_total {rules : List ScopeRule} (form : Form t) (readable : Readable u rules) :
    ∃ result, first_match u t rules = .ok result := by
  induction rules with
  | nil => exact ⟨none, rfl⟩
  | cons rule rules ih =>
    obtain ⟨result, later⟩ := ih fun r member => readable r (List.mem_cons_of_mem _ member)
    unfold first_match
    cases reads : rule.target u with
    | error e =>
      cases e with
      | valueError => exact absurd reads (readable rule (by simp))
      | targetError message => exact ⟨result, by simpa using later⟩
    | ok entry =>
      obtain ⟨b, ran, _⟩ := matches_rule_spec u form (rule_form reads)
      cases b with
      | true => exact ⟨some rule, by simp [ran]⟩
      | false => exact ⟨result, by simpa [ran] using later⟩

end Rules

/-! ### Exclusions -/

/-- The address space of a rule, absent when it denotes none. -/
def ruleSpace (u : Unicode) (rule : ScopeRule) : Option IPNetwork :=
  match rule.target u with
  | .ok entry => space u entry
  | .error _ => none

/-- The hosts some rule of the list denotes. -/
def excludedHosts (u : Unicode) (rules : List ScopeRule) : Set Host :=
  {h | ∃ rule ∈ rules, ∃ n, ruleSpace u rule = some n ∧ h ∈ n.space}

theorem rule_network_eq {rule : ScopeRule} (readable : rule.target u ≠ .error .valueError) :
    rule_network u rule = .ok (ruleSpace u rule) := by
  unfold rule_network ruleSpace
  cases reads : rule.target u with
  | error e =>
    cases e with
    | valueError => exact absurd reads readable
    | targetError message => simp
  | ok entry => simp [network_total (rule_form reads)]

theorem rule_network_ok {rule : ScopeRule} {n : Option IPNetwork} (ran : rule_network u rule = .ok n) :
    rule.target u ≠ .error .valueError ∧ n = ruleSpace u rule := by
  have readable : rule.target u ≠ .error .valueError := by
    intro raised
    simp [rule_network, raised] at ran
  rw [rule_network_eq readable] at ran
  exact ⟨readable, (Except.ok.inj ran).symm⟩

/-- Whether a rule takes hosts out of a network. -/
def overlapsRule (u : Unicode) (n : IPNetwork) (rule : ScopeRule) : Bool := (ruleSpace u rule).any n.overlaps

theorem overlapping_test {n : IPNetwork} {rule : ScopeRule} (readable : rule.target u ≠ .error .valueError) :
    (do match ← rule_network u rule with
        | none => return false
        | some rule_network => return rule_network.version = n.version && n.overlaps rule_network) =
      (.ok (overlapsRule u n rule) : Except PyError Bool) := by
  rw [rule_network_eq readable, ok_bind, overlapsRule]
  cases same : ruleSpace u rule with
  | none => rfl
  | some m =>
    simp only [pure_eq_ok, Except.ok.injEq, Option.any_some]
    rw [Bool.eq_iff_iff, Bool.and_eq_true, decide_eq_true_iff]
    exact ⟨fun both => both.2, fun overlap => ⟨(IPNetwork.version_eq_of_overlaps overlap).symm, overlap⟩⟩

theorem overlapping_exclusions_eq {t : Target} {n : IPNetwork} {rules : List ScopeRule} (form : Form t)
    (target_space : space u t = some n) (readable : Readable u rules) :
    overlapping_exclusions u t rules = .ok (rules.filter (overlapsRule u n)) := by
  unfold overlapping_exclusions
  rw [network_total form, ok_bind, target_space]
  refine filterM_ok.mpr ⟨fun rule member => ⟨_, overlapping_test (readable rule member)⟩, ?_⟩
  exact List.filter_congr fun rule member => (passes_of_ok (overlapping_test (readable rule member))).symm

theorem subtract_spec (excluded : IPNetwork) (networks : List IPNetwork) :
    ∃ rest, subtract excluded networks = .ok rest ∧
      ∀ h, (∃ n ∈ rest, h ∈ n.space) ↔ (∃ n ∈ networks, h ∈ n.space) ∧ h ∉ excluded.space := by
  induction networks with
  | nil => exact ⟨[], rfl, by simp⟩
  | cons n networks ih =>
    obtain ⟨rest, ran, left⟩ := ih
    unfold subtract
    by_cases overlap : n.overlaps excluded = true
    · by_cases inside : excluded.supernet_of n = true
      · refine ⟨rest, by simp [overlap, inside, ran], fun h => ?_⟩
        rw [IPNetwork.supernet_of_iff] at inside
        simp only [left h, List.mem_cons, exists_eq_or_imp]
        constructor
        · rintro ⟨held, out⟩
          exact ⟨Or.inr held, out⟩
        · rintro ⟨held | held, out⟩
          · exact absurd (inside held) out
          · exact ⟨held, out⟩
      · have within : excluded.space ⊆ n.space := by
          rcases IPNetwork.subset_or_subset overlap with smaller | larger
          · exact absurd ((IPNetwork.supernet_of_iff excluded n).mpr smaller) inside
          · exact larger
        obtain ⟨pieces, cut, exact_pieces⟩ := IPNetwork.address_exclude_spec within
        refine ⟨pieces ++ rest, by simp [overlap, inside, cut, ran], fun h => ?_⟩
        simp only [List.mem_append, or_and_right, exists_or, exact_pieces h, left h, List.mem_cons, exists_eq_left,
          Set.mem_sdiff]
    · refine ⟨n :: rest, by simp [overlap, ran], fun h => ?_⟩
      rw [Bool.not_eq_true, IPNetwork.not_overlaps_iff, Set.disjoint_left] at overlap
      simp only [List.mem_cons, exists_eq_or_imp, left h]
      constructor
      · rintro (held | ⟨held, out⟩)
        · exact ⟨Or.inl held, overlap held⟩
        · exact ⟨Or.inr held, out⟩
      · rintro ⟨held | held, out⟩
        · exact Or.inl held
        · exact Or.inr ⟨held, out⟩

/-- The loop ends with nothing left exactly when the rules hold every host. -/
theorem exhausts_spec {rules : List ScopeRule} : ∀ (remaining : List IPNetwork), remaining ≠ [] →
    (∀ rule ∈ rules, ∃ entry, rule.target u = .ok entry) →
    ∃ b, exhausts u remaining rules = .ok b ∧
      (b = true ↔ ∀ h, (∃ n ∈ remaining, h ∈ n.space) → h ∈ excludedHosts u rules) := by
  induction rules with
  | nil =>
    intro remaining nonempty _
    obtain ⟨n, rest, rfl⟩ := List.exists_cons_of_ne_nil nonempty
    obtain ⟨h, held⟩ := n.space_nonempty
    refine ⟨false, rfl, by simp, fun all => ?_⟩
    obtain ⟨_, member, _⟩ := all h ⟨n, by simp, held⟩
    simp at member
  | cons rule rules ih =>
    intro remaining nonempty read
    obtain ⟨entry, reads⟩ := read rule (by simp)
    have later := fun r member => read r (List.mem_cons_of_mem rule member)
    have same : ruleSpace u rule = space u entry := by simp [ruleSpace, reads]
    have split : ∀ h, h ∈ excludedHosts u (rule :: rules) ↔
        (∃ n, ruleSpace u rule = some n ∧ h ∈ n.space) ∨ h ∈ excludedHosts u rules := by
      intro h
      simp [excludedHosts]
    unfold exhausts
    rw [reads, ok_bind, network_total (rule_form reads), ok_bind]
    cases entry_space : space u entry with
    | none =>
      obtain ⟨b, ran, exact_left⟩ := ih remaining nonempty later
      refine ⟨b, ran, exact_left.trans (forall_congr' fun h => ?_)⟩
      rw [split, same, entry_space]
      simp
    | some excluded =>
      obtain ⟨rest, cut, left⟩ := subtract_spec excluded remaining
      simp only [cut, ok_bind]
      have whole : (∀ h, (∃ n ∈ remaining, h ∈ n.space) → h ∈ excludedHosts u (rule :: rules)) ↔
          ∀ h, (∃ n ∈ rest, h ∈ n.space) → h ∈ excludedHosts u rules := by
        refine forall_congr' fun h => ?_
        rw [split, same, entry_space, left h]
        simp only [Option.some.injEq, exists_eq_left']
        by_cases out : h ∈ excluded.space <;> simp [out]
      by_cases nothing : rest = []
      · refine ⟨true, by simp [nothing], ?_⟩
        rw [whole, nothing]
        simp
      · obtain ⟨b, ran, exact_left⟩ := ih rest nothing later
        exact ⟨b, by simp [nothing, ran], exact_left.trans whole.symm⟩

theorem mem_overlapping {n : IPNetwork} {rules : List ScopeRule} {rule : ScopeRule} :
    rule ∈ rules.filter (overlapsRule u n) ↔ rule ∈ rules ∧ ∃ m, ruleSpace u rule = some m ∧ n.overlaps m = true := by
  rw [List.mem_filter, overlapsRule]
  cases same : ruleSpace u rule <;> simp

/-- A network is fully excluded when the rules hold every one of its hosts. -/
theorem fully_excluded_spec {t : Target} {n : IPNetwork} (rules : List ScopeRule) (form : Form t)
    (target_space : space u t = some n) :
    ∃ b, fully_excluded u t (rules.filter (overlapsRule u n)) = .ok b ∧
      (b = true ↔ n.space ⊆ excludedHosts u rules) := by
  have read : ∀ rule ∈ rules.filter (overlapsRule u n), ∃ entry, rule.target u = .ok entry := by
    intro rule member
    obtain ⟨_, m, same, _⟩ := mem_overlapping.mp member
    cases reads : rule.target u with
    | error e => simp [ruleSpace, reads] at same
    | ok entry => exact ⟨entry, rfl⟩
  obtain ⟨b, ran, exact_left⟩ := exhausts_spec [n] (by simp) read
  refine ⟨b, by simp [fully_excluded, network_total form, target_space, ran], exact_left.trans ?_⟩
  simp only [List.mem_singleton, exists_eq_left, Set.subset_def]
  refine forall_congr' fun h => imp_congr_right fun held => ?_
  simp only [excludedHosts, mem_overlapping, Set.mem_ofPred_eq]
  constructor
  · rintro ⟨rule, ⟨member, _⟩, m, same, inside⟩
    exact ⟨rule, member, m, same, inside⟩
  · rintro ⟨rule, member, m, same, inside⟩
    exact ⟨rule, ⟨member, m, same, (IPNetwork.overlaps_iff n m).mpr ⟨h, held, inside⟩⟩, m, same, inside⟩

theorem excludes_address_ok {parsed : IPAddress} {rules : List ScopeRule} {b : Bool}
    (ran : excludes_address u parsed rules = .ok b) : b = true ↔ parsed.host ∈ excludedHosts u rules := by
  induction rules with
  | nil =>
    cases ran
    simp [excludedHosts]
  | cons rule rules ih =>
    unfold excludes_address at ran
    obtain ⟨n, reads, ran⟩ := bind_eq_ok.mp ran
    obtain ⟨_, rfl⟩ := rule_network_ok reads
    have split : parsed.host ∈ excludedHosts u (rule :: rules) ↔
        (∃ n, ruleSpace u rule = some n ∧ parsed.host ∈ n.space) ∨ parsed.host ∈ excludedHosts u rules := by
      simp [excludedHosts]
    rw [split]
    cases same : ruleSpace u rule with
    | none =>
      simp only [same] at ran
      simpa using ih ran
    | some n =>
      simp only [same] at ran
      by_cases inside : n.version = parsed.version ∧ n.contains parsed = true
      · rw [if_pos inside] at ran
        cases ran
        simp [(IPNetwork.contains_iff n parsed).mp inside.2]
      · rw [if_neg inside] at ran
        have outside : parsed.host ∉ n.space := fun held =>
          inside ⟨(IPNetwork.version_of_mem held).symm, (IPNetwork.contains_iff n parsed).mpr held⟩
        simpa [outside] using ih ran

theorem excludes_address_total {parsed : IPAddress} {rules : List ScopeRule} (readable : Readable u rules) :
    ∃ b, excludes_address u parsed rules = .ok b := by
  induction rules with
  | nil => exact ⟨false, rfl⟩
  | cons rule rules ih =>
    obtain ⟨b, later⟩ := ih fun r member => readable r (List.mem_cons_of_mem _ member)
    unfold excludes_address
    rw [rule_network_eq (readable rule (by simp)), ok_bind]
    cases ruleSpace u rule with
    | none => exact ⟨b, later⟩
    | some n =>
      by_cases inside : n.version = parsed.version ∧ n.contains parsed = true
      · exact ⟨true, by simp [inside]⟩
      · exact ⟨b, by simp only [inside, if_false]; exact later⟩

/-! ### Hard-denied space -/

/-- The hosts no scope can authorize. -/
def hardDenied : Set Host := {h | ∃ denied ∈ HARD_DENY_NETWORKS, h ∈ denied.space}

theorem hard_overlap_iff (n : IPNetwork) :
    (HARD_DENY_NETWORKS.any fun denied => n.version = denied.version && n.overlaps denied) = true ↔
      ∃ h ∈ n.space, h ∈ hardDenied := by
  simp only [List.any_eq_true, Bool.and_eq_true, decide_eq_true_eq, IPNetwork.overlaps_iff, hardDenied,
    Set.mem_ofPred_eq]
  constructor
  · rintro ⟨denied, member, _, h, inN, inDenied⟩
    exact ⟨h, inN, denied, member, inDenied⟩
  · rintro ⟨h, inN, denied, member, inDenied⟩
    exact ⟨denied, member, IPNetwork.version_eq_of_common inN inDenied, h, inN, inDenied⟩

theorem hard_contains_iff (a : IPAddress) :
    (HARD_DENY_NETWORKS.any fun denied => a.version = denied.version && denied.contains a) = true ↔ a.host ∈ hardDenied := by
  simp only [List.any_eq_true, Bool.and_eq_true, decide_eq_true_eq, IPNetwork.contains_iff, hardDenied, Set.mem_ofPred_eq]
  constructor
  · rintro ⟨denied, member, _, held⟩
    exact ⟨denied, member, held⟩
  · rintro ⟨denied, member, held⟩
    exact ⟨denied, member, IPNetwork.version_of_mem held, held⟩

/-- Policy refuses hard-denied names and whatever overlaps hard-denied space. -/
def HardDenied (u : Unicode) (t : Target) : Prop :=
  (t.is_named u = true ∧ t.host ∈ HARD_DENY_HOSTNAMES) ∨ ∃ n, space u t = some n ∧ ∃ h ∈ n.space, h ∈ hardDenied

theorem hard_policy_reason_spec {t : Target} (form : Form t) :
    ∃ reason, hard_policy_reason u t = .ok reason ∧ (reason.isSome = true ↔ HardDenied u t) := by
  unfold hard_policy_reason HardDenied
  by_cases name : t.is_named u = true ∧ t.host ∈ HARD_DENY_HOSTNAMES
  · exact ⟨some _, if_pos name, by simp [name]⟩
  · rw [if_neg name, network_total form, ok_bind]
    cases same : space u t with
    | none => exact ⟨none, rfl, by simp [name]⟩
    | some n =>
      by_cases overlap : (HARD_DENY_NETWORKS.any fun denied => n.version = denied.version && n.overlaps denied) = true
      · exact ⟨some _, if_pos overlap, by simpa [name] using (hard_overlap_iff n).mp overlap⟩
      · exact ⟨none, if_neg overlap, by simpa [name] using mt (hard_overlap_iff n).mpr overlap⟩

end RedDock.Scope
