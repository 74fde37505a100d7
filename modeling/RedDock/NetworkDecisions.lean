import RedDock.Verdict

/-!
# Networks and their addresses

A decision on a network against the decisions on its addresses. The two read
the rules alike but for one kind: an origin exclusion written with an address
counts against a network and not against the address itself.
-/
set_option autoImplicit false
namespace RedDock.NetworkDecisions
open Text Targets IpText Canonical DockGuard Fallible Scope Verdict

variable {u : Unicode}

def Allows (u : Unicode) (requested : Text) (rules : List ScopeRule) (resolver : Option Resolver) : Prop :=
  ∃ e, evaluate u requested rules resolver = .ok e ∧ e.decision = .allowed

/-- The text of an address with the full prefix length. -/
def fullPrefix (a : IPAddress) : Text := a.str ++ '/' :: dec a.version.bits

/-- Decisions on networks agree with those on addresses under these rules. -/
structure Agrees (u : Unicode) (rules : List ScopeRule) (resolver : Option Resolver) : Prop where
  inside : ∀ requested t n, normalize_target u requested = .ok t → t.is_network = true → t.network u = .ok (some n) →
    ∀ text t' a, normalize_target u text = .ok t' → t'.is_address = true → IPAddress.ip_address t'.value = some a →
    n.contains a = true → ∀ e, evaluate u requested rules resolver = .ok e → e.decision = .allowed →
    ∃ e', evaluate u text rules resolver = .ok e' ∧
      ((a.host ∈ leftExcluded u e ∧ e'.decision = .denied_excluded) ∨
        (a.host ∉ leftExcluded u e ∧ e'.decision = .allowed))
  single : ∀ text t' a, normalize_target u text = .ok t' → t'.is_address = true → IPAddress.ip_address t'.value = some a →
    (Allows u text rules resolver ↔ Allows u (fullPrefix a) rules resolver)

/-- Every origin exclusion written with an address names one that policy denies,
    that an exclusion of addresses covers as well, or that no inclusion covers. -/
def Clean (u : Unicode) (rules : List ScopeRule) : Prop :=
  ∀ rule ∈ rules, rule.rule = .exclude → ∀ entry, rule.target u = .ok entry → entry.kind = .url →
    ∀ a, IPAddress.ip_address entry.host = some a →
      HardDenied u (addressTarget a) ∨ first_match u (addressTarget a) (excludes_of rules) ≠ .ok none ∨
        ∀ r, first_match u (addressTarget a) (includes_of rules) ≠ .ok (some r)

/-! ### Addresses and single networks -/

theorem address_of_target {t : Target} {a : IPAddress} (form : Form t) (address : t.is_address = true)
    (read : IPAddress.ip_address t.value = some a) : Usable a ∧ t = addressTarget a := by
  cases form with
  | @address b usable =>
    rw [show (addressTarget b).value = b.str from rfl, ip_address_str usable.plain] at read
    cases read
    exact ⟨usable, rfl⟩
  | @network n usable => cases n <;> simp [networkTarget, network_kind, IPNetwork.version, Target.is_address] at address
  | name name => simp [nameTarget, Target.is_address] at address
  | origin => simp [originTarget, Target.is_address] at address

section Single
variable {a : IPAddress}

theorem single_network_address (plain : Plain a) : (IPNetwork.single a).network_address = a ∧
    (IPNetwork.single a).broadcast_address = a ∧ (IPNetwork.single a).prefixlen = a.version.bits := by
  have last : ∀ {w x : Nat} (lt : x < 2 ^ w), (Block.single x lt).last = x := fun lt => by
    simp [Block.last, Block.size, Block.single]
  rcases plain_cases plain with ⟨ip, rfl⟩ | ⟨ip, rfl, _⟩
  · exact ⟨rfl, congrArg IPAddress.v4 (Fin.ext (last ip.isLt)), rfl⟩
  · exact ⟨rfl, congrArg (IPAddress.v6 · none) (Fin.ext (last ip.isLt)), rfl⟩

theorem single_str (plain : Plain a) : (IPNetwork.single a).str = fullPrefix a := by
  obtain ⟨start, _, len⟩ := single_network_address plain
  rw [IPNetwork.str, start, len, fullPrefix, List.append_assoc]
  rfl

theorem usable_single (usable : Usable a) : UsableNetwork (.single a) := by
  obtain ⟨start, last, len⟩ := single_network_address usable.plain
  refine ⟨by rw [start]; exact usable.plain, by rw [start]; exact usable.specified, ?_, ?_⟩
  · rw [IPNetwork.is_multicast, start, usable.unicast]
    rfl
  · have line : '\n' ∉ a.str := line_of_visible fun c member => address_char_visible (str_char usable.plain c member)
    have digits : ∀ c ∈ dec a.version.bits, c.isDigit = true := fun c member => isDigit_of_mem_dec member
    have token := usable.safe
    rw [is_safe_token, SAFE_TOKEN, matchesLine_of_line line, token_text, Bool.and_eq_true, List.all_eq_true] at token
    have tail : ∀ c ∈ '/' :: dec a.version.bits, token_char c = true ∧ c ≠ '\n' := by
      intro c member
      rcases List.mem_cons.mp member with rfl | digit
      · decide
      · exact ⟨by simp [token_char, Char.isAlphanum, digits c digit], by rintro rfl; exact absurd (digits _ digit) (by decide)⟩
    have nonempty : a.str ≠ [] := fun empty => by simp [empty] at token
    rw [single_str usable.plain, fullPrefix, is_safe_token, SAFE_TOKEN, matchesLine_of_line, token_text,
      List.head?_append_of_ne_nil _ nonempty, token.1, Bool.true_and, List.all_append, Bool.and_eq_true, List.all_eq_true,
      List.all_eq_true]
    · exact ⟨token.2, fun c member => (tail c member).1⟩
    · intro member
      rcases List.mem_append.mp member with inside | outside
      · exact line inside
      · exact (tail _ outside).2 rfl

theorem normalize_fullPrefix (usable : Usable a) :
    normalize_target u (fullPrefix a) = .ok (networkTarget (.single a)) := by
  rw [← single_str usable.plain]
  have form := Form.network (usable_single usable)
  refine normalize_target_self form (short_of_not_origin form ?_)
  cases a <;> simp [networkTarget, network_kind, IPNetwork.single, IPNetwork.version]

theorem normalize_str (usable : Usable a) : normalize_target u a.str = .ok (addressTarget a) := by
  have form := Form.address usable
  refine normalize_target_self form (short_of_not_origin form ?_)
  cases a <;> simp [addressTarget, address_kind, IPAddress.version]

end Single

/-! ### The rules as an address and a network read them -/

section Rules
variable {t t' : Target} {rules : List ScopeRule}

/-- An address is covered by an entry of address space that holds it. -/
theorem covers_address_iff {a : IPAddress} {entry : Target} (usable : Usable a) :
    Covers u entry (addressTarget a) ↔ entry.kind ≠ .url ∧ ∃ m, space u entry = some m ∧ a.host ∈ m.space := by
  have kind : (addressTarget a).kind ≠ .url := by cases a <;> simp [addressTarget, address_kind, IPAddress.version]
  unfold Covers
  rw [space_of (network_address usable)]
  by_cases origin : entry.kind = .url
  · simp [origin, kind]
  · cases same : space u entry <;> simp [origin, IPNetwork.single_subset_iff]

theorem covers_network_iff {n : IPNetwork} {entry : Target} (usable : UsableNetwork n) :
    Covers u entry (networkTarget n) ↔ entry.kind ≠ .url ∧ ∃ m, space u entry = some m ∧ n.space ⊆ m.space := by
  have kind : (networkTarget n).kind ≠ .url := by cases n <;> simp [networkTarget, network_kind, IPNetwork.version]
  unfold Covers
  rw [space_of (network_network usable)]
  by_cases origin : entry.kind = .url
  · simp [origin, kind]
  · cases same : space u entry <;> simp [origin]

/-- Rules that cover two targets alike are matched alike. -/
theorem first_match_congr (form : Form t) (form' : Form t')
    (same : ∀ entry, Form entry → (Covers u entry t ↔ Covers u entry t')) : first_match u t rules = first_match u t' rules := by
  induction rules with
  | nil => rfl
  | cons rule rules ih =>
    unfold first_match
    cases reads : rule.target u with
    | error e => cases e <;> simp [ih]
    | ok entry =>
      obtain ⟨b, ran, covers⟩ := matches_rule_spec u form (rule_form reads)
      obtain ⟨b', ran', covers'⟩ := matches_rule_spec u form' (rule_form reads)
      have agree : b = b' := by rw [Bool.eq_iff_iff, covers, covers', same entry (rule_form reads)]
      simp only [ok_bind, ran, ran', agree, ih]

/-- A target that more entries cover is matched no later. -/
theorem first_match_found (form : Form t) (form' : Form t') (wider : ∀ entry, Covers u entry t → Covers u entry t')
    {r : ScopeRule} (found : first_match u t rules = .ok (some r)) : ∃ r', first_match u t' rules = .ok (some r') := by
  induction rules with
  | nil => simp [first_match] at found
  | cons rule rules ih =>
    unfold first_match at found ⊢
    cases reads : rule.target u with
    | error e =>
      cases e with
      | valueError => simp [reads] at found
      | targetError message =>
        simp only [reads, error_bind] at found ⊢
        exact ih found
    | ok entry =>
      obtain ⟨b, ran, covers⟩ := matches_rule_spec u form (rule_form reads)
      obtain ⟨b', ran', covers'⟩ := matches_rule_spec u form' (rule_form reads)
      simp only [reads, ok_bind, ran, ran'] at found ⊢
      cases b' with
      | true => exact ⟨rule, rfl⟩
      | false =>
        cases b with
        | true => exact absurd (covers'.mpr (wider entry (covers.mp rfl))) (by decide)
        | false => exact ih found

/-- What stands behind an allowed evaluation. -/
theorem evaluate_allowed_iff {requested : Text} {resolver : Option Resolver} (form : Form t) :
    (∃ e, evaluate_target u requested t rules resolver = .ok e ∧ e.decision = .allowed) ↔
      ¬HardDenied u t ∧ first_match u t (excludes_of rules) = .ok none ∧
        ∃ r, first_match u t (includes_of rules) = .ok (some r) ∧
          ∃ e, evaluate_included u requested t r (excludes_of rules) resolver = .ok e ∧ e.decision = .allowed := by
  obtain ⟨reason, policy, hard_iff⟩ := hard_policy_reason_spec (u := u) form
  unfold evaluate_target
  rw [policy, ok_bind]
  cases reason with
  | some text =>
    have hard : HardDenied u t := hard_iff.mp rfl
    simp [hard, judged]
  | none =>
    have soft : ¬HardDenied u t := fun hard => by simpa using hard_iff.mpr hard
    simp only [soft, not_false_eq_true, true_and]
    by_cases nothing : includes_of rules = []
    · simp [nothing, first_match, judged]
    simp only [nothing, if_false]
    cases first : first_match u t (excludes_of rules) with
    | error error => simp
    | ok excluded_by =>
      cases excluded_by with
      | some rule => simp [judged]
      | none =>
        simp only [ok_bind, true_and]
        cases second : first_match u t (includes_of rules) with
        | error error => simp
        | ok included_by =>
          cases included_by with
          | none => simp [judged]
          | some rule => simp

theorem evaluate_excluded {requested : Text} {resolver : Option Resolver} {r r' : ScopeRule} (form : Form t)
    (soft : ¬HardDenied u t) (excluded : first_match u t (excludes_of rules) = .ok (some r))
    (included : r' ∈ includes_of rules) :
    ∃ e, evaluate_target u requested t rules resolver = .ok e ∧ e.decision = .denied_excluded := by
  obtain ⟨reason, policy, hard_iff⟩ := hard_policy_reason_spec (u := u) form
  have nothing : includes_of rules ≠ [] := List.ne_nil_of_mem included
  cases reason with
  | some text => exact absurd (hard_iff.mp rfl) soft
  | none => simp [evaluate_target, policy, nothing, excluded, judged]

end Rules

/-! ### Agreement -/

section Agreement
variable {rules : List ScopeRule} {a b : IPAddress}

theorem host_injective (plain : Plain a) (plain' : Plain b) (same : a.host = b.host) : a = b := by
  rcases plain_cases plain with ⟨ip, rfl⟩ | ⟨ip, rfl, _⟩ <;> rcases plain_cases plain' with ⟨ip', rfl⟩ | ⟨ip', rfl, _⟩ <;>
    simp [IPAddress.host, IPAddress.version, IPAddress.ip] at same
  · rw [Fin.ext same]
  · rw [Fin.ext same]

theorem hard_denied_address_iff (usable : Usable a) : HardDenied u (addressTarget a) ↔ a.host ∈ hardDenied := by
  have named : (addressTarget a).is_named u = false := by cases a <;> rfl
  simp only [HardDenied, named, Bool.false_eq_true, false_and, false_or, space_of (network_address usable),
    Option.some.injEq, exists_eq_left', IPNetwork.mem_single, exists_eq_left]

theorem hard_denied_network_iff {n : IPNetwork} (usable : UsableNetwork n) :
    HardDenied u (networkTarget n) ↔ ∃ h ∈ n.space, h ∈ hardDenied := by
  have named : (networkTarget n).is_named u = false := by cases n <;> rfl
  simp [HardDenied, named, space_of (network_network usable)]

/-- An origin with address space is written with the one address it holds. -/
theorem origin_space {entry : Target} {m : IPNetwork} (form : Form entry) (origin : entry.kind = .url)
    (same : space u entry = some m) : ∃ b, Usable b ∧ entry.host = b.str ∧ m = .single b := by
  cases form with
  | @address b _ => cases b <;> simp [addressTarget, address_kind, IPAddress.version] at origin
  | @network n _ => cases n <;> simp [networkTarget, network_kind, IPNetwork.version] at origin
  | name => simp [nameTarget] at origin
  | @origin scheme host written default port _ is_written _ _ =>
    rcases network_origin (u := u) scheme default port is_written with
      ⟨b, usable, host_is, read⟩ | ⟨_, read⟩
    · rw [space_of read] at same
      cases same
      exact ⟨b, usable, host_is, rfl⟩
    · rw [space_of read] at same
      cases same

/-- An address no exclusion of addresses covers is in no excluded network,
    provided the rules are clean. -/
theorem not_excluded_of_clean (clean : Clean u rules) (usable : Usable a) (soft : ¬HardDenied u (addressTarget a))
    (uncovered : first_match u (addressTarget a) (excludes_of rules) = .ok none) {r : ScopeRule}
    (included : first_match u (addressTarget a) (includes_of rules) = .ok (some r)) :
    a.host ∉ excludedHosts u (excludes_of rules) := by
  rintro ⟨rule, member, m, same, held⟩
  obtain ⟨none_covers, _⟩ := first_match_none (.address usable) uncovered
  obtain ⟨inRules, kind⟩ := mem_excludes.mp member
  cases reads : rule.target u with
  | error e => simp [ruleSpace, reads] at same
  | ok entry =>
    have entry_space : space u entry = some m := by simpa [ruleSpace, reads] using same
    by_cases origin : entry.kind = .url
    · obtain ⟨b, usable_b, host_is, rfl⟩ := origin_space (rule_form reads) origin entry_space
      have equal := host_injective usable.plain usable_b.plain ((IPNetwork.mem_single b _).mp held)
      subst equal
      rcases clean rule inRules kind entry reads origin a (by rw [host_is, ip_address_str usable.plain]) with
        hard | matched | missing
      · exact soft hard
      · exact matched uncovered
      · exact missing r included
    · exact none_covers ⟨rule, member, entry, reads, (covers_address_iff usable).mpr ⟨origin, m, entry_space, held⟩⟩

theorem evaluate_included_address (requested : Text) (resolver : Option Resolver) {r : ScopeRule} {excludes : List ScopeRule} :
    ∃ e, evaluate_included u requested (addressTarget a) r excludes resolver = .ok e ∧ e.decision = .allowed := by
  have network : (addressTarget a).is_network = false := by cases a <;> rfl
  have named : (addressTarget a).is_named u = false := by cases a <;> rfl
  simp [evaluate_included, network, named, judged]

theorem mem_leftExcluded {requested : Text} {n : IPNetwork} {resolver : Option Resolver} {e : Evaluation} {t : Target}
    (normal : normalize_target u requested = .ok t) (network : t.is_network = true) (target_space : space u t = some n)
    (ran : evaluate u requested rules resolver = .ok e) (allowed : e.decision = .allowed) {h : Host} (inside : h ∈ n.space) :
    h ∈ leftExcluded u e ↔ h ∈ excludedHosts u (excludes_of rules) := by
  rcases evaluate_spec ran with ⟨invalid, _⟩ | ⟨t', normal', _, _, excluded, _⟩
  · rw [allowed] at invalid; cases invalid
  rw [normal] at normal'; cases normal'
  simp only [leftExcluded, excludedHosts, Set.mem_ofPred_eq, excluded, mem_handed, mem_reaching]
  constructor
  · rintro ⟨v, ⟨_, rule, ⟨member, _⟩, rfl⟩, m, same, held⟩
    exact ⟨rule, member, m, same, held⟩
  · rintro ⟨rule, member, m, same, held⟩
    exact ⟨rule.value, ⟨⟨network, allowed⟩, rule, ⟨member, n, target_space, m, same,
      (IPNetwork.overlaps_iff n m).mpr ⟨h, inside, held⟩⟩, rfl⟩, m, same, held⟩

theorem agrees_inside {resolver : Option Resolver} (clean : Clean u rules) {requested text : Text} {n : IPNetwork}
    {e : Evaluation} (usable_n : UsableNetwork n) (usable : Usable a)
    (normal : normalize_target u requested = .ok (networkTarget n)) (normal' : normalize_target u text = .ok (addressTarget a))
    (inside : a.host ∈ n.space) (ran : evaluate u requested rules resolver = .ok e) (allowed : e.decision = .allowed) :
    ∃ e', evaluate u text rules resolver = .ok e' ∧
      ((a.host ∈ leftExcluded u e ∧ e'.decision = .denied_excluded) ∨
        (a.host ∉ leftExcluded u e ∧ e'.decision = .allowed)) := by
  have network : (networkTarget n).is_network = true := by cases n <;> rfl
  have left := mem_leftExcluded normal network (space_of (network_network usable_n)) ran allowed inside
  rw [evaluate_of_target normal] at ran
  rw [evaluate_of_target normal', left]
  obtain ⟨soft, uncovered, r, included, _⟩ := (evaluate_allowed_iff (.network usable_n)).mp ⟨e, ran, allowed⟩
  have soft' : ¬HardDenied u (addressTarget a) := fun hard =>
    soft ((hard_denied_network_iff usable_n).mpr ⟨a.host, inside, (hard_denied_address_iff usable).mp hard⟩)
  obtain ⟨r', included'⟩ := first_match_found (.network usable_n) (.address usable)
    (fun entry covers => by
      obtain ⟨kind, m, same, within⟩ := (covers_network_iff usable_n).mp covers
      exact (covers_address_iff usable).mpr ⟨kind, m, same, within inside⟩) included
  obtain ⟨_, readable⟩ := first_match_none (.network usable_n) uncovered
  obtain ⟨result, first⟩ := first_match_total (.address usable) readable
  cases result with
  | some x =>
    obtain ⟨e', ran', denied⟩ := evaluate_excluded (.address usable) soft' first (first_match_some (.address usable) included').1
    obtain ⟨member, entry, reads, covers⟩ := first_match_some (.address usable) first
    obtain ⟨_, m, same, held⟩ := (covers_address_iff usable).mp covers
    exact ⟨e', ran', Or.inl ⟨⟨x, member, m, by simp [ruleSpace, reads, same], held⟩, denied⟩⟩
  | none =>
    obtain ⟨e', ran', allowed'⟩ := (evaluate_allowed_iff (.address usable)).mpr
      ⟨soft', first, r', included', evaluate_included_address text resolver⟩
    exact ⟨e', ran', Or.inr ⟨not_excluded_of_clean clean usable soft' first included', allowed'⟩⟩

/-- An address and the network of it alone are read alike by every rule. -/
theorem covers_single_iff {entry : Target} (usable : Usable a) :
    Covers u entry (networkTarget (.single a)) ↔ Covers u entry (addressTarget a) := by
  rw [covers_network_iff (usable_single usable), covers_address_iff usable]
  simp only [IPNetwork.single_subset_iff]

theorem hard_denied_single_iff (usable : Usable a) :
    HardDenied u (networkTarget (.single a)) ↔ HardDenied u (addressTarget a) := by
  rw [hard_denied_network_iff (usable_single usable), hard_denied_address_iff usable]
  simp [IPNetwork.mem_single]

theorem evaluate_included_single {requested : Text} {r : ScopeRule} {excludes : List ScopeRule} {resolver : Option Resolver}
    (usable : Usable a) (readable : Readable u excludes) :
    (∃ e, evaluate_included u requested (networkTarget (.single a)) r excludes resolver = .ok e ∧ e.decision = .allowed) ↔
      a.host ∉ excludedHosts u excludes := by
  have form := Form.network (usable_single usable)
  have network : (networkTarget (.single a)).is_network = true := by cases a <;> rfl
  have decides : prescribedInside u (networkTarget (.single a)) excludes resolver = .allowed ↔
      a.host ∉ excludedHosts u excludes := by
    rw [← Set.singleton_subset_iff, ← IPNetwork.space_single]
    simp [prescribedInside, network, space_of (network_network (usable_single usable))]
  constructor
  · rintro ⟨e, ran, allowed⟩
    obtain ⟨decision, _⟩ := evaluate_included_spec form readable ran
    exact decides.mp (decision.symm.trans allowed)
  · intro outside
    obtain ⟨e, ran⟩ : ∃ e, evaluate_included u requested (networkTarget (.single a)) r excludes resolver = .ok e :=
      evaluate_included_total form readable
    obtain ⟨decision, _⟩ := evaluate_included_spec form readable ran
    exact ⟨e, ran, decision.trans (decides.mpr outside)⟩

/-- An address is allowed while its network is not exactly when an exclusion that
    does not cover it holds it. -/
theorem allows_address_iff {text : Text} {resolver : Option Resolver} (usable : Usable a)
    (normal : normalize_target u text = .ok (addressTarget a)) :
    Allows u text rules resolver ↔ ¬HardDenied u (addressTarget a) ∧
      first_match u (addressTarget a) (excludes_of rules) = .ok none ∧
        ∃ r, first_match u (addressTarget a) (includes_of rules) = .ok (some r) := by
  rw [Allows, evaluate_of_target normal, evaluate_allowed_iff (.address usable)]
  simp only [evaluate_included_address, and_true]

theorem allows_fullPrefix_iff {resolver : Option Resolver} (usable : Usable a) :
    Allows u (fullPrefix a) rules resolver ↔ (¬HardDenied u (addressTarget a) ∧
      first_match u (addressTarget a) (excludes_of rules) = .ok none ∧
        ∃ r, first_match u (addressTarget a) (includes_of rules) = .ok (some r)) ∧
      a.host ∉ excludedHosts u (excludes_of rules) := by
  have alike : ∀ l, first_match u (networkTarget (.single a)) l = first_match u (addressTarget a) l := fun l =>
    first_match_congr (.network (usable_single usable)) (.address usable) fun entry _ => covers_single_iff usable
  rw [Allows, evaluate_of_target (normalize_fullPrefix usable), evaluate_allowed_iff (.network (usable_single usable)),
    hard_denied_single_iff usable]
  simp only [alike]
  constructor
  · rintro ⟨soft, uncovered, r, included, permitted⟩
    obtain ⟨_, readable⟩ := first_match_none (.address usable) uncovered
    exact ⟨⟨soft, uncovered, r, included⟩, (evaluate_included_single usable readable).mp permitted⟩
  · rintro ⟨⟨soft, uncovered, r, included⟩, outside⟩
    obtain ⟨_, readable⟩ := first_match_none (.address usable) uncovered
    exact ⟨soft, uncovered, r, included, (evaluate_included_single usable readable).mpr outside⟩

/-- Decisions on networks agree with those on their addresses exactly when the
    rules are clean. -/
theorem agrees_iff (u : Unicode) (rules : List ScopeRule) (resolver : Option Resolver) :
    Agrees u rules resolver ↔ Clean u rules := by
  constructor
  · intro agrees rule member kind entry reads origin a literal
    by_contra violated
    simp only [not_or, not_not, not_forall] at violated
    obtain ⟨soft, uncovered, r, included⟩ := violated
    have form := rule_form reads
    obtain ⟨usable, same⟩ : Usable a ∧ space u entry = some (.single a) := by
      cases form with
      | @address b _ => cases b <;> simp [addressTarget, address_kind, IPAddress.version] at origin
      | @network n _ => cases n <;> simp [networkTarget, network_kind, IPNetwork.version] at origin
      | name => simp [nameTarget] at origin
      | @origin scheme host written default port _ is_written _ _ =>
        rcases network_origin (u := u) scheme default port is_written with
          ⟨b, usable, host_is, read⟩ | ⟨⟨labels, name⟩, _⟩
        · have equal : IPAddress.ip_address host = some a := literal
          rw [host_is, ip_address_str usable.plain] at equal
          cases equal
          exact ⟨usable, space_of read⟩
        · have none_read := parse_address_name (u := u) name
          rw [parse_address_eq (notMem_name name (by decide) (by decide)), show IPAddress.ip_address host = some a from literal]
            at none_read
          cases none_read
    have held : a.host ∈ excludedHosts u (excludes_of rules) :=
      ⟨rule, mem_excludes.mpr ⟨member, kind⟩, .single a, by simp [ruleSpace, reads, same], (IPNetwork.mem_single a _).mpr rfl⟩
    have address : (addressTarget a).is_address = true := by cases a <;> rfl
    have alike := agrees.single a.str (addressTarget a) a (normalize_str usable) address (ip_address_str usable.plain)
    rw [allows_address_iff usable (normalize_str usable), allows_fullPrefix_iff usable] at alike
    exact (alike.mp ⟨soft, uncovered, r, included⟩).2 held
  · intro clean
    constructor
    · intro requested t n normal network read text t' a normal' address literal inside e ran allowed
      obtain ⟨m, usable_n, rfl, _⟩ := is_network_space (u := u) (normalize_target_form normal) network
      obtain ⟨usable, rfl⟩ := address_of_target (normalize_target_form normal') address literal
      rw [network_network usable_n] at read
      cases read
      exact agrees_inside clean usable_n usable normal normal' ((IPNetwork.contains_iff n a).mp inside) ran allowed
    · intro text t' a normal' address literal
      obtain ⟨usable, rfl⟩ := address_of_target (normalize_target_form normal') address literal
      rw [allows_address_iff usable normal', allows_fullPrefix_iff usable]
      exact ⟨fun allows => ⟨allows, not_excluded_of_clean clean usable allows.1 allows.2.1 allows.2.2.choose_spec⟩, And.left⟩

end Agreement

/-! ### An origin exclusion on an address -/

def originRules : List ScopeRule :=
  [{ rule := .include, value := "10.0.0.0/24".toList }, { rule := .exclude, value := "http://10.0.0.1".toList }]

theorem origin_exclusion_disagrees : ¬Agrees .plain originRules none := by
  intro agrees
  have normal : (normalize_target .plain "10.0.0.1".toList).map (fun t => (t.is_address, IPAddress.ip_address t.value)) =
      .ok (true, some (.v4 0x0A000001)) := by decide +kernel
  obtain ⟨t, read, facts⟩ := map_eq_ok.mp normal
  have alike := agrees.single _ t (.v4 0x0A000001) read (congrArg Prod.fst facts) (congrArg Prod.snd facts)
  have address : (evaluate .plain "10.0.0.1".toList originRules none).map (·.decision) = .ok .allowed := by decide +kernel
  have network : (evaluate .plain (fullPrefix (.v4 0x0A000001)) originRules none).map (·.decision) = .ok .denied_excluded := by
    decide +kernel
  obtain ⟨e, ran, allowed⟩ := alike.mp (map_eq_ok.mp address)
  obtain ⟨e', ran', denied⟩ := map_eq_ok.mp network
  rw [ran] at ran'
  cases ran'
  rw [allowed] at denied
  cases denied

end RedDock.NetworkDecisions
