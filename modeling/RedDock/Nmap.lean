import RedDock.Soundness

/-!
# The nmap argument vector

`NmapAdapter.prepare`: what the scanner is told to scan and to leave out, for a
request DockGuard allowed.
-/
set_option autoImplicit false
namespace RedDock.Nmap
open Text Targets IpText Canonical DockGuard Fallible Scope Verdict Soundness

variable {u : Unicode}

/-- Everything an adapter is permitted to know about a run. -/
structure AdapterRequest where
  target : Target
  profile : Text
  resolved_addresses : List Text := []
  excluded_addresses : List Text := []

/-- Why `prepare` raises `AdapterError`. -/
inductive AdapterError
  | unknown_profile (profile : Text)
  | not_resolved (host : Text)
  | single_host_only
  | unsafe_value (value : Text)
  | mixed_families
  deriving DecidableEq

def HOST_DISCOVERY : Text := "host_discovery".toList
def SERVICE_DISCOVERY : Text := "service_discovery".toList
def LAB_EXTENDED_SERVICE_DISCOVERY : Text := "lab_extended_service_discovery".toList

def supported_kinds : List TargetKind := [.ipv4, .ipv4_network, .ipv6, .ipv6_network, .hostname]
def supports (target : Target) : Bool := target.kind ∈ supported_kinds

/-- `_address_family` -/
def address_family (value : Text) : Nat :=
  match IPNetwork.ip_network value false with
  | some (.v6 _) => 6
  | _ => 4

/-- `_assert_scan_values` -/
def assert_scan_values : List Text → Except AdapterError Unit
  | [] => .ok ()
  | value :: values => if is_safe_token value then assert_scan_values values else .error (.unsafe_value value)

def scan_targets (u : Unicode) (request : AdapterRequest) : Except AdapterError (List Text) :=
  if request.target.is_named u then
    if request.resolved_addresses = [] then .error (.not_resolved request.target.host)
    else .ok request.resolved_addresses
  else .ok [request.target.value]

def common_options (binary : Text) : List Text :=
  binary :: ["-n", "-oX", "-", "-T3", "--max-retries", "2", "--host-timeout", "120s"].map String.toList

def profile_options (profile : Text) : Except AdapterError (List Text) :=
  if profile = HOST_DISCOVERY then .ok (["-sn", "--disable-arp-ping"].map String.toList)
  else if profile = SERVICE_DISCOVERY then
    .ok (["-Pn", "-sT", "--top-ports", "100", "-sV", "--version-intensity", "2"].map String.toList)
  else if profile = LAB_EXTENDED_SERVICE_DISCOVERY then
    .ok (["-Pn", "-sT", "--top-ports", "1000", "-sV", "--version-intensity", "5"].map String.toList)
  else .error (.unknown_profile profile)

/-- `--exclude` with its comma-separated value. -/
def exclude_arguments (excluded : List Text) : List Text :=
  if excluded = [] then [] else ["--exclude".toList, join [','] excluded]

def prepare (u : Unicode) (binary : Text) (request : AdapterRequest) : Except AdapterError (List Text) := do
  let options ← profile_options request.profile
  let targets ← scan_targets u request
  if request.profile = LAB_EXTENDED_SERVICE_DISCOVERY ∧ (request.target.is_network ∨ targets.length ≠ 1) then
    .error .single_host_only
  else
    assert_scan_values targets
    let families := (targets.map address_family).dedup
    if 1 < families.length then .error .mixed_families
    else
      let family := if families = [6] then ["-6".toList] else []
      assert_scan_values request.excluded_addresses
      let excluded := request.excluded_addresses.filter fun value => address_family value ∈ families
      return common_options binary ++ options ++ family ++ exclude_arguments excluded ++ targets

/-! ### What an argument vector means -/

/-- An argument vector by its parts. -/
structure Command where
  options : List Text
  exclude : Option Text
  targets : List Text

def Command.argv (c : Command) : List Text :=
  c.options ++ (match c.exclude with
    | none => []
    | some value => ["--exclude".toList, value]) ++ c.targets

/-- The literals of the `--exclude` value. -/
def Command.excluded (c : Command) : List Text := (c.exclude.map (·.splitOn ',')).getD []

/-- The hosts a list of literals denotes. -/
def denoted (values : List Text) : Set Host :=
  {h | ∃ v ∈ values, ∃ n, IPNetwork.ip_network v false = some n ∧ h ∈ n.space}

/-- A scan by fixed options of literals that reaches no address an exclusion
    denotes. -/
structure Respects (u : Unicode) (binary profile : Text) (rules : List ScopeRule) (argv : List Text) (c : Command) :
    Prop where
  same : argv = c.argv
  fixed : ∃ chosen family, profile_options profile = .ok chosen ∧ (family = [] ∨ family = ["-6".toList]) ∧
    c.options = common_options binary ++ chosen ++ family
  literals : ∀ v ∈ c.targets ++ c.excluded, ∃ n, IPNetwork.ip_network v false = some n
  outside : ∀ rule ∈ rules, rule.rule = .exclude → ∀ n, ruleSpace u rule = some n →
    ∀ h ∈ n.space, h ∉ denoted c.targets \ denoted c.excluded

/-- The rules that are not an origin. -/
def withoutOrigins (u : Unicode) (rules : List ScopeRule) : List ScopeRule :=
  rules.filter fun rule => match rule.target u with
    | .ok entry => entry.kind ≠ .url
    | .error _ => true

/-- Every exclusion that reaches into a requested network is written as the
    address or network it denotes. -/
def WrittenPlainly (u : Unicode) (t : Target) (rules : List ScopeRule) : Prop :=
  t.is_network = true → ∀ n, space u t = some n → ∀ rule ∈ rules, rule.rule = .exclude →
    ∀ m, ruleSpace u rule = some m → n.overlaps m = true → IPNetwork.ip_network rule.value false = some m

/-! ### Building the vector -/

theorem assert_scan_values_ok {values : List Text} {x : Unit} (safe : assert_scan_values values = .ok x) :
    ∀ v ∈ values, is_safe_token v = true := by
  induction values with
  | nil => simp
  | cons value values ih =>
    unfold assert_scan_values at safe
    split at safe
    · intro v member
      rcases List.mem_cons.mp member with rfl | later
      · assumption
      · exact ih safe v later
    · simp at safe

theorem safe_token_char {v : Text} (safe : is_safe_token v = true) : ∀ c ∈ v, token_char c = true ∨ c = '\n' := by
  intro c member
  simp only [is_safe_token, SAFE_TOKEN, matchesLine, Bool.or_eq_true, Bool.and_eq_true, beq_iff_eq] at safe
  rcases safe with whole | ⟨last, front⟩
  · rw [token_text, Bool.and_eq_true, List.all_eq_true] at whole
    exact Or.inl (whole.2 c member)
  · rw [token_text, Bool.and_eq_true, List.all_eq_true] at front
    have nonempty : v ≠ [] := List.ne_nil_of_mem member
    rw [List.getLast?_eq_some_getLast nonempty, Option.some.injEq] at last
    rw [← List.dropLast_append_getLast nonempty, last, List.mem_append, List.mem_singleton] at member
    exact member.imp (front.2 c) id

theorem notMem_safe_token {v : Text} {c : Char} (safe : is_safe_token v = true) (other : token_char c = false)
    (line : c ≠ '\n') : c ∉ v := fun member => by
  rcases safe_token_char safe c member with token | is
  · simp [token] at other
  · exact line is

/-- What a prepared vector is made of. -/
theorem prepare_ok {binary : Text} {request : AdapterRequest} {argv : List Text}
    (prepared : prepare u binary request = .ok argv) :
    ∃ options targets family, profile_options request.profile = .ok options ∧ scan_targets u request = .ok targets ∧
      (family = [] ∨ family = ["-6".toList]) ∧ (∀ v ∈ targets, is_safe_token v = true) ∧
      (∀ v ∈ request.excluded_addresses, is_safe_token v = true) ∧
      argv = common_options binary ++ options ++ family ++ exclude_arguments (request.excluded_addresses.filter
        fun value => address_family value ∈ (targets.map address_family).dedup) ++ targets := by
  unfold prepare at prepared
  obtain ⟨options, chosen, prepared⟩ := bind_eq_ok.mp prepared
  obtain ⟨targets, scanned, prepared⟩ := bind_eq_ok.mp prepared
  split at prepared
  · simp at prepared
  obtain ⟨_, safe, prepared⟩ := bind_eq_ok.mp prepared
  simp only at prepared
  split at prepared
  · simp at prepared
  obtain ⟨_, safe', prepared⟩ := bind_eq_ok.mp prepared
  refine ⟨options, targets, _, chosen, scanned, ?_, assert_scan_values_ok safe, assert_scan_values_ok safe',
    (Except.ok.inj prepared).symm⟩
  split
  · exact Or.inr rfl
  · exact Or.inl rfl

/-- The parts of a prepared vector as a command. -/
theorem command_of_parts (options targets : List Text) {excluded : List Text} (safe : ∀ v ∈ excluded, is_safe_token v = true) :
    ∃ c : Command, options ++ exclude_arguments excluded ++ targets = c.argv ∧ c.options = options ∧
      c.targets = targets ∧ c.excluded = excluded := by
  by_cases nothing : excluded = []
  · refine ⟨⟨options, none, targets⟩, ?_, rfl, rfl, by simp [Command.excluded, nothing]⟩
    simp [Command.argv, exclude_arguments, nothing]
  · refine ⟨⟨options, some (join [','] excluded), targets⟩, ?_, rfl, rfl, ?_⟩
    · simp [Command.argv, exclude_arguments, nothing]
    · exact List.splitOn_intercalate ',' (fun v member => notMem_safe_token (safe v member) (by decide) (by decide)) nothing

/-! ### Allowed requests -/

theorem denoted_nil : denoted [] = ∅ := by
  ext h
  simp [denoted]

/-- The address behind an answer that passed every check and is a safe token. -/
theorem answer_literal {excludes : List ScopeRule} {answer : Text} (accepted : refused_answer answer = none)
    (outside : ¬AnswerExcluded u excludes answer) (safe : is_safe_token answer = true) :
    ∃ parsed, IPNetwork.ip_network answer false = some (.single parsed) ∧ parsed.host ∉ excludedHosts u excludes := by
  have plain : '%' ∉ answer := notMem_safe_token safe (by decide) (by decide)
  cases read : IPAddress.ip_address answer with
  | none => simp [refused_answer, read] at accepted
  | some parsed =>
    refine ⟨parsed, ip_network_of_ip_address read false, fun held => outside ⟨?_, parsed, read, held⟩⟩
    exact is_address_text_iff.mpr ⟨by simp [read], plain⟩

/-- Without a resolver an evaluation has no answers. -/
theorem unresolved {requested : Text} {rules : List ScopeRule} {e : Evaluation}
    (ran : evaluate u requested rules none = .ok e) : e.resolved_addresses = [] := by
  unfold evaluate at ran
  cases read : normalize_target u requested with
  | error error =>
    cases error with
    | valueError => simp [read] at ran
    | targetError message =>
      simp only [read] at ran
      cases ran
      rfl
  | ok t =>
    simp only [read, evaluate_target] at ran
    obtain ⟨reason, _, ran⟩ := bind_eq_ok.mp ran
    cases reason with
    | some text =>
      cases ran
      rfl
    | none =>
      simp only at ran
      by_cases nothing : includes_of rules = []
      · rw [if_pos nothing] at ran
        cases ran
        rfl
      rw [if_neg nothing] at ran
      obtain ⟨excluded_by, _, ran⟩ := bind_eq_ok.mp ran
      cases excluded_by with
      | some rule =>
        cases ran
        rfl
      | none =>
        obtain ⟨included_by, _, ran⟩ := bind_eq_ok.mp ran
        cases included_by with
        | none =>
          cases ran
          rfl
        | some rule =>
          simp only [evaluate_included] at ran
          split at ran
          · obtain ⟨overlapping, _, ran⟩ := bind_eq_ok.mp ran
            obtain ⟨full, _, ran⟩ := bind_eq_ok.mp ran
            cases full <;> cases ran <;> rfl
          · cases named : t.is_named u <;> simp only [named] at ran <;> cases ran <;> rfl

/-- The family nmap is told is the family of the network a text denotes. -/
theorem address_family_eq {v : Text} {n : IPNetwork} (read : IPNetwork.ip_network v false = some n) :
    address_family v = if n.version = .v6 then 6 else 4 := by
  cases n <;> simp [address_family, read, IPNetwork.version]

theorem address_family_iff {v w : Text} {n m : IPNetwork} (read : IPNetwork.ip_network v false = some n)
    (other : IPNetwork.ip_network w false = some m) : address_family v = address_family w ↔ n.version = m.version := by
  rw [address_family_eq read, address_family_eq other]
  cases n <;> cases m <;> simp [IPNetwork.version]

section Allowed
variable {requested binary : Text} {t : Target} {rules : List ScopeRule} {resolver : Option Resolver} {e : Evaluation}

theorem mem_withoutOrigins {rule : ScopeRule} {n : IPNetwork} (member : rule ∈ withoutOrigins u rules)
    (same : ruleSpace u rule = some n) :
    rule ∈ rules ∧ ∃ entry, rule.target u = .ok entry ∧ entry.kind ≠ .url ∧ space u entry = some n := by
  obtain ⟨inRules, kept⟩ := List.mem_filter.mp member
  cases reads : rule.target u with
  | error error => simp [ruleSpace, reads] at same
  | ok entry =>
    simp only [reads, decide_eq_true_eq] at kept
    exact ⟨inRules, entry, rfl, kept, by simpa [ruleSpace, reads] using same⟩

/-- An exclusion of address space holds no host of an admitted single address. -/
theorem outside_address {a : IPAddress} (usable : Usable a) (admitted : Admitted u (addressTarget a) rules resolver) :
    ∀ rule ∈ withoutOrigins u rules, rule.rule = .exclude → ∀ n, ruleSpace u rule = some n → a.host ∉ n.space := by
  intro rule member kind n same held
  obtain ⟨inRules, entry, reads, plain, same⟩ := mem_withoutOrigins member same
  refine admitted.not_excluded ⟨rule, mem_excludes.mpr ⟨inRules, kind⟩, entry, reads, ?_⟩
  rw [Covers, if_neg plain, same, space_of (network_address usable)]
  exact (IPNetwork.single_subset_iff a n).mpr held

/-- A prepared vector respects the rules when the scanned hosts that an
    exclusion holds are handed over as literals of a scanned family. -/
theorem respects_of_parts {profile : Text} {options targets family excluded : List Text}
    (chosen : profile_options profile = .ok options) (either : family = [] ∨ family = ["-6".toList])
    (safe : ∀ v ∈ excluded, is_safe_token v = true)
    (literal : ∀ v ∈ targets ++ excluded, ∃ n, IPNetwork.ip_network v false = some n)
    (outside : ∀ rule ∈ rules, rule.rule = .exclude → ∀ n, ruleSpace u rule = some n →
      ∀ h ∈ n.space, h ∈ denoted targets → h ∈ denoted excluded) :
    ∃ c, Respects u binary profile rules
      (common_options binary ++ options ++ family ++ exclude_arguments excluded ++ targets) c := by
  obtain ⟨c, same, fixed, rfl, rfl⟩ :=
    command_of_parts (common_options binary ++ options ++ family) targets safe
  exact ⟨c, same, ⟨options, family, chosen, either, fixed⟩, literal, fun rule member kind n inside h held scanned =>
    scanned.2 (outside rule member kind n inside h held scanned.1)⟩

theorem mem_denoted_single {a : IPAddress} {v : Text} {h : Host} (read : IPNetwork.ip_network v false = some (.single a)) :
    h ∈ denoted [v] ↔ h = a.host := by
  simp [denoted, read, IPNetwork.mem_single]

/-- A host name is scanned by answers that no exclusion holds. -/
theorem prepared_name {name : Text} {profile : Text} {argv : List Text} (form : Form (nameTarget name))
    (spec : e.decision = prescribed u (nameTarget name) rules resolver)
    (handed_on : e.excluded_addresses = handed u (nameTarget name) rules e.decision)
    (answers : e.decision = .allowed → ∀ r ∈ resolver, r name = .ok e.resolved_addresses)
    (alone : resolver = none → e.resolved_addresses = []) (allowed : e.decision = .allowed)
    (prepared : prepare u binary ⟨nameTarget name, profile, e.resolved_addresses, e.excluded_addresses⟩ = .ok argv) :
    ∃ c, Respects u binary profile (withoutOrigins u rules) argv c := by
  have named : (nameTarget name).is_named u = true := rfl
  have nothing : e.excluded_addresses = [] := by simp [handed_on, handed, nameTarget, Target.is_network]
  obtain ⟨options, targets, family, chosen, scanned, either, safe, _, rfl⟩ := prepare_ok prepared
  rw [scan_targets, if_pos named] at scanned
  cases resolver with
  | none => simp [alone rfl] at scanned
  | some r =>
    split at scanned
    · simp at scanned
    cases scanned
    have admitted := prescribed_allowed_iff.mp (spec.symm.trans allowed)
    have inside := admitted.inside
    rw [named_inside form named] at inside
    obtain ⟨addresses, same, accepted⟩ := prescribedFor_allowed inside
    have same' : r name = .ok addresses := same
    rw [answers allowed r rfl, Except.ok.injEq] at same'
    subst same'
    have literal : ∀ v ∈ e.resolved_addresses, ∃ parsed, IPNetwork.ip_network v false = some (.single parsed) ∧
        parsed.host ∉ excludedHosts u (excludes_of rules) := fun v member =>
      answer_literal (accepted v member).1 (accepted v member).2.2 (safe v member)
    simp only [nothing, List.filter_nil]
    refine respects_of_parts chosen either (by simp) (fun v member => ?_) ?_
    · obtain ⟨parsed, read, _⟩ := literal v (by simpa using member)
      exact ⟨_, read⟩
    · rintro rule member kind n inside h held ⟨v, answered, m, read, scanned⟩
      obtain ⟨parsed, read', outside⟩ := literal v answered
      rw [read', Option.some.injEq] at read
      subst read
      rw [IPNetwork.mem_single] at scanned
      subst scanned
      exact absurd ⟨rule, mem_excludes.mpr ⟨List.mem_of_mem_filter member, kind⟩, n, inside, held⟩ outside

/-- An address is scanned alone. -/
theorem prepared_address {a : IPAddress} {profile : Text} {argv : List Text} (usable : Usable a)
    (spec : e.decision = prescribed u (addressTarget a) rules resolver)
    (handed_on : e.excluded_addresses = handed u (addressTarget a) rules e.decision) (allowed : e.decision = .allowed)
    (prepared : prepare u binary ⟨addressTarget a, profile, e.resolved_addresses, e.excluded_addresses⟩ = .ok argv) :
    ∃ c, Respects u binary profile (withoutOrigins u rules) argv c := by
  have named : (addressTarget a).is_named u = false := by cases a <;> rfl
  have single : (addressTarget a).is_network = false := by cases a <;> rfl
  have nothing : e.excluded_addresses = [] := by simp [handed_on, handed, single]
  obtain ⟨options, targets, family, chosen, scanned, either, safe, _, rfl⟩ := prepare_ok prepared
  simp only [scan_targets, named, Bool.false_eq_true, if_false, Except.ok.injEq] at scanned
  subst scanned
  have read : IPNetwork.ip_network (addressTarget a).value false = some (.single a) := ip_network_address usable.plain _
  simp only [nothing, List.filter_nil]
  refine respects_of_parts chosen either (by simp) (fun v member => ?_) ?_
  · have is : v = (addressTarget a).value := by simpa using member
    subst is
    exact ⟨_, read⟩
  · intro rule member kind n inside h held scanned
    rw [(mem_denoted_single read).mp scanned] at held
    exact absurd held
      (outside_address usable (prescribed_allowed_iff.mp (spec.symm.trans allowed)) rule member kind n inside)

/-- A network is scanned without the exclusions that reach into it. -/
theorem prepared_network {n : IPNetwork} {profile : Text} {argv : List Text} (usable : UsableNetwork n)
    (plainly : WrittenPlainly u (networkTarget n) rules)
    (handed_on : e.excluded_addresses = handed u (networkTarget n) rules e.decision) (allowed : e.decision = .allowed)
    (prepared : prepare u binary ⟨networkTarget n, profile, e.resolved_addresses, e.excluded_addresses⟩ = .ok argv) :
    ∃ c, Respects u binary profile (withoutOrigins u rules) argv c := by
  have named : (networkTarget n).is_named u = false := by cases n <;> rfl
  have network : (networkTarget n).is_network = true := by cases n <;> rfl
  have target_space : space u (networkTarget n) = some n := space_of (network_network usable)
  have read : IPNetwork.ip_network (networkTarget n).value false = some n := ip_network_str usable.plain _
  obtain ⟨options, targets, family, chosen, scanned, either, safe, safe', rfl⟩ := prepare_ok prepared
  simp only [scan_targets, named, Bool.false_eq_true, if_false, Except.ok.injEq] at scanned
  subst scanned
  -- every exclusion handed over is a literal of the scanned family, so the filter keeps it
  have handed_literal : ∀ v ∈ e.excluded_addresses, ∃ m, IPNetwork.ip_network v false = some m := by
    intro v member
    rw [handed_on, mem_handed] at member
    obtain ⟨_, rule, reached, rfl⟩ := member
    obtain ⟨inRules, n', same, m, rule_space, overlap⟩ := mem_reaching.mp reached
    obtain ⟨inRules, kind⟩ := mem_excludes.mp inRules
    exact ⟨m, plainly network n' same rule inRules kind m rule_space overlap⟩
  refine respects_of_parts chosen either (fun v member => safe' v (List.mem_of_mem_filter member)) (fun v member => ?_) ?_
  · rcases List.mem_append.mp member with scanned | excluded
    · have is : v = (networkTarget n).value := by simpa using scanned
      subst is
      exact ⟨n, read⟩
    · exact handed_literal v (List.mem_of_mem_filter excluded)
  · rintro rule member kind m rule_space h held ⟨v, scanned, n', read', inN⟩
    have member := List.mem_of_mem_filter member
    have is : v = (networkTarget n).value := by simpa using scanned
    rw [is, read, Option.some.injEq] at read'
    subst read'
    have overlap : n.overlaps m = true := (IPNetwork.overlaps_iff n m).mpr ⟨h, inN, held⟩
    have written := plainly network n target_space rule member kind m rule_space overlap
    refine ⟨rule.value, List.mem_filter.mpr ⟨?_, ?_⟩, m, written, held⟩
    · rw [handed_on, mem_handed]
      exact ⟨⟨network, allowed⟩, rule, mem_reaching.mpr ⟨mem_excludes.mpr ⟨member, kind⟩, n, target_space, m, rule_space,
        overlap⟩, rfl⟩
    · have family := (address_family_iff written read).mpr (IPNetwork.version_eq_of_overlaps overlap).symm
      rw [decide_eq_true_iff, List.mem_dedup, family]
      simp

end Allowed

/-- Stored exclusions other than origins are written plainly. -/
theorem writtenPlainly_of_stored {t : Target} {rules : List ScopeRule} (stored : ∀ rule ∈ rules, rule.rule = .exclude →
    ∀ entry, rule.target u = .ok entry → entry.value = rule.value ∧ entry.kind ≠ .url) : WrittenPlainly u t rules := by
  intro _ n _ rule member kind m same _
  cases reads : rule.target u with
  | error error => simp [ruleSpace, reads] at same
  | ok entry =>
    obtain ⟨value, plain⟩ := stored rule member kind entry reads
    rw [ruleSpace, reads] at same
    simp only at same
    rw [← value]
    cases rule_form reads with
    | address usable =>
      rw [space_of (network_address usable), Option.some.injEq] at same
      rw [← same]
      exact ip_network_address usable.plain _
    | network usable =>
      rw [space_of (network_network usable), Option.some.injEq] at same
      rw [← same]
      exact ip_network_str usable.plain _
    | name name => simp [space_of network_name] at same
    | origin => exact absurd rfl plain

/-- For every target the adapter supports, an allowed decision is prepared into
    fixed options and literals that reach no address an exclusion of address
    space holds, as long as the exclusions that reach into a network are written
    as the literals they denote. -/
theorem prepared_scan_respects {requested binary profile : Text} {rules : List ScopeRule} {resolver : Option Resolver}
    {e : Evaluation} {t : Target} {argv : List Text} (read : normalize_target u requested = .ok t)
    (supported : supports t = true) (plainly : WrittenPlainly u t rules)
    (ran : evaluate u requested rules resolver = .ok e) (allowed : e.decision = .allowed)
    (prepared : prepare u binary ⟨t, profile, e.resolved_addresses, e.excluded_addresses⟩ = .ok argv) :
    ∃ c, Respects u binary profile (withoutOrigins u rules) argv c := by
  rcases evaluate_spec ran with ⟨invalid, _⟩ | ⟨t', read', form, spec, handed_on, answers⟩
  · simp [invalid] at allowed
  rw [read, Except.ok.injEq] at read'
  subst read'
  cases form with
  | address usable => exact prepared_address usable spec handed_on allowed prepared
  | network usable => exact prepared_network usable plainly handed_on allowed prepared
  | name name =>
    refine prepared_name (.name name) spec handed_on (fun allowed r member => answers allowed rfl r member) ?_ allowed prepared
    rintro rfl
    exact unresolved ran
  | origin => exact absurd supported (by simp [supports, supported_kinds, originTarget])

/-! ### A network without one address -/

def blockRules : List ScopeRule :=
  [{ rule := .include, value := "10.0.0.0/30".toList }, { rule := .exclude, value := "10.0.0.1".toList }]

def blockTarget : Target := { kind := .ipv4_network, value := "10.0.0.0/30".toList, host := "10.0.0.0/30".toList }

theorem prepared_scan_respects_block : ∃ argv c,
    prepare .plain "nmap".toList ⟨blockTarget, SERVICE_DISCOVERY, [], ["10.0.0.1".toList]⟩ = .ok argv ∧
    Respects .plain "nmap".toList SERVICE_DISCOVERY (withoutOrigins .plain blockRules) argv c := by
  have read : normalize_target .plain "10.0.0.0/30".toList = .ok blockTarget := by decide +kernel
  have judges : (evaluate .plain "10.0.0.0/30".toList blockRules none).map
      (fun e => (e.decision, e.resolved_addresses, e.excluded_addresses)) =
        .ok (.allowed, [], ["10.0.0.1".toList]) := by decide +kernel
  obtain ⟨e, ran, facts⟩ := map_eq_ok.mp judges
  rw [Prod.mk.injEq, Prod.mk.injEq] at facts
  obtain ⟨allowed, resolved, excluded⟩ := facts
  have prepares : (prepare .plain "nmap".toList ⟨blockTarget, SERVICE_DISCOVERY, [], ["10.0.0.1".toList]⟩).map
      List.length = .ok 19 := by decide +kernel
  obtain ⟨argv, prepared, _⟩ := map_eq_ok.mp prepares
  have plainly : WrittenPlainly .plain blockTarget blockRules := by
    refine writtenPlainly_of_stored fun rule member kind entry reads => ?_
    have stored : ∀ rule ∈ blockRules, rule.rule = .exclude →
        (rule.target .plain).map (fun entry => decide (entry.value = rule.value ∧ entry.kind ≠ .url)) = .ok true := by
      decide +kernel
    obtain ⟨entry', reads', plain⟩ := map_eq_ok.mp (stored rule member kind)
    rw [reads, Except.ok.injEq] at reads'
    subst reads'
    exact of_decide_eq_true plain
  have handed_over : prepare .plain "nmap".toList
      ⟨blockTarget, SERVICE_DISCOVERY, e.resolved_addresses, e.excluded_addresses⟩ = .ok argv := by
    rw [resolved, excluded, prepared]
  obtain ⟨c, respects⟩ := prepared_scan_respects read (by decide) plainly ran allowed handed_over
  exact ⟨argv, c, prepared, respects⟩

/-! ### An origin excludes no address -/

def originRules : List ScopeRule :=
  [{ rule := .include, value := "10.0.0.1".toList }, { rule := .exclude, value := "http://10.0.0.1".toList }]

def hostTarget : Target := { kind := .ipv4, value := "10.0.0.1".toList, host := "10.0.0.1".toList }

theorem lone_target {c : Command} {options family : List Text} {v : Text} (fixed : c.options = options ++ family)
    (either : family = [] ∨ family = ["-6".toList]) (same : options ++ [v] = c.argv) (host : v ≠ "-6".toList) :
    c.targets = [v] ∧ c.excluded = [] := by
  rw [Command.argv, fixed, List.append_assoc, List.append_assoc, List.append_cancel_left_eq] at same
  rcases either with rfl | rfl
  · cases exclude : c.exclude with
    | none => exact ⟨by simpa [exclude] using same.symm, by simp [Command.excluded, exclude]⟩
    | some value => simp [exclude] at same
  · rw [List.singleton_append, List.cons.injEq] at same
    exact absurd same.1 host

/-- The address an excluded origin is written with is still scanned. -/
theorem origin_address_scanned : ∃ e argv, normalize_target .plain "10.0.0.1".toList = .ok hostTarget ∧
    evaluate .plain "10.0.0.1".toList originRules none = .ok e ∧ e.decision = .allowed ∧
    prepare .plain "nmap".toList ⟨hostTarget, HOST_DISCOVERY, e.resolved_addresses, e.excluded_addresses⟩ = .ok argv ∧
    ¬∃ c, Respects .plain "nmap".toList HOST_DISCOVERY originRules argv c := by
  have judges : (evaluate .plain "10.0.0.1".toList originRules none).map
      (fun e => (e.decision, e.resolved_addresses, e.excluded_addresses)) = .ok (.allowed, [], []) := by decide +kernel
  obtain ⟨e, ran, facts⟩ := map_eq_ok.mp judges
  rw [Prod.mk.injEq, Prod.mk.injEq] at facts
  obtain ⟨allowed, resolved, excluded⟩ := facts
  have prepared : prepare .plain "nmap".toList ⟨hostTarget, HOST_DISCOVERY, [], []⟩ =
      .ok (common_options "nmap".toList ++ ["-sn".toList, "--disable-arp-ping".toList] ++ ["10.0.0.1".toList]) := by
    decide +kernel
  refine ⟨e, _, by decide +kernel, ran, allowed, by rw [resolved, excluded, prepared], ?_⟩
  rintro ⟨c, same, ⟨chosen, family, profile, either, fixed⟩, _, outside⟩
  have options : profile_options HOST_DISCOVERY = .ok ["-sn".toList, "--disable-arp-ping".toList] := by decide +kernel
  rw [options, Except.ok.injEq] at profile
  subst profile
  obtain ⟨targets, excluded⟩ := lone_target fixed either same (by decide)
  have denotes : (ruleSpace .plain { rule := .exclude, value := "http://10.0.0.1".toList }).bind (fun n =>
      (IPNetwork.ip_network "10.0.0.1".toList false).map fun m => decide (n = .single (.v4 0x0a000001) ∧ m = n)) =
        some true := by decide +kernel
  obtain ⟨n, same_space, denotes⟩ := Option.bind_eq_some_iff.mp denotes
  obtain ⟨m, read, facts⟩ := Option.map_eq_some_iff.mp denotes
  obtain ⟨rfl, rfl⟩ := of_decide_eq_true facts
  refine outside _ (by simp [originRules]) rfl _ same_space _ ((IPNetwork.mem_single _ _).mpr rfl) ⟨?_, ?_⟩
  · rw [targets, mem_denoted_single read]
  · rw [excluded, denoted_nil]
    exact Set.notMem_empty _

end RedDock.Nmap
