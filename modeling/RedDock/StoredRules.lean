import RedDock.Scope

/-!
# Stored rules read back

A scope entry is stored by its canonical value and normalized again at every
evaluation. Both agree unless the international labels of an origin's host make
the canonical value longer than an accepted text.
-/
set_option autoImplicit false
namespace RedDock.StoredRules
open Text Targets IpText Canonical DockGuard Fallible Scope

variable {u : Unicode}

/-- A branch that skips a rule on `TargetError` is taken for this rule. -/
def Skipped (u : Unicode) (rule : ScopeRule) : Prop :=
  (∃ requested t, normalize_target u requested = .ok t ∧
    ∃ message, (rule.target u >>= matches_rule u t) = .error (.targetError message)) ∨
  ∃ message, (rule.target u >>= Target.network u) = .error (.targetError message)

/-- The host name with each label in ASCII. -/
def asciiHost (u : Unicode) (hostname : Text) : Text :=
  join ['.'] (((u.lower (rstripChar '.' (strip hostname))).splitOn '.').map fun label =>
    (ascii_label u label).toOption.getD [])

/-- A text that is not an origin with a host name, or whose scheme, host name in
    ASCII and port come to at most 255 characters. -/
def Fits (u : Unicode) (raw : Text) : Prop :=
  "://".toList <:+: strip raw → ∀ parts, Urls.urlsplit u (strip raw) = some parts →
    is_address_text u (parts.hostname u) = false →
    ∀ default port, default_port (u.lower parts.scheme) = some default → parts.port = some port →
      (u.lower parts.scheme).length + "://".length + (asciiHost u (parts.hostname u)).length +
        (port_suffix default port).length ≤ MAX_TARGET_LENGTH

theorem asciiHost_of_normal {t h : Text} (line : '\n' ∉ t) (normal : normalize_hostname u t = .ok h) : asciiHost u t = h := by
  obtain ⟨labels, name, pieces⟩ := normalize_hostname_spec line normal
  have same : ((u.lower (rstripChar '.' (strip t))).splitOn '.').map (fun label => (ascii_label u label).toOption.getD []) =
      labels := by
    rw [← List.forall₂_eq_eq_eq, List.forall₂_map_left_iff]
    refine pieces.imp fun label l ascii => ?_
    simp [ascii, Except.toOption]
  rw [asciiHost, same, ← name.text]

theorem written_literal {a : IPAddress} {written : Text} (plain : Plain a) (is_written : written = a.str ∨ written = ['['] ++ a.str ++ [']']) :
    written.length ≤ 47 := by
  have := str_length plain
  rcases is_written with rfl | rfl
  · omega
  · simp only [List.length_append, List.length_singleton]; omega

theorem suffix_length (default : Nat) {port : Option Nat} (bounded : ∀ p, port = some p → p ≤ 65535) :
    (port_suffix default port).length ≤ 6 := by
  cases port with
  | none => simp [port_suffix]
  | some p =>
    have length := dec_length_le (n := p) (k := 5) (by decide) (by have := bounded p rfl; omega)
    simp only [port_suffix]
    split
    · simp
    · simp only [List.length_cons]; omega

theorem port_bounded {parts : Urls.SplitResult} {port : Option Nat} (reads : parts.port = some port) :
    ∀ p, port = some p → p ≤ 65535 := by
  intro p same
  rw [same, Urls.SplitResult.port] at reads
  split at reads
  · simp at reads
  · split at reads
    · rename_i small
      simp only [Option.some.injEq] at reads
      omega
    · simp at reads

theorem scheme_length {scheme : Text} {default : Nat} (known : default_port scheme = some default) : scheme.length ≤ 5 := by
  rcases scheme_cases known with rfl | rfl <;> decide +kernel

/-- The canonical value of an origin is short exactly when its text fits. -/
theorem origin_short_iff {raw : Text} {t : Target} (url : "://".toList <:+: strip raw) (origin : Origin u (strip raw) t) :
    t.value.length ≤ MAX_TARGET_LENGTH ↔ Fits u raw := by
  obtain ⟨parts, default, port, host, written, split, known, reads_port, positive, hosts, is_written, literal, rfl⟩ := origin
  have length : (originTarget (u.lower parts.scheme) host written default (port.getD default)).value.length =
      (u.lower parts.scheme).length + "://".length + written.length + (port_suffix default port).length := by
    rw [port_suffix_getD default port]
    simp only [originTarget, List.length_append]
    rfl
  rw [length]
  unfold url_host at hosts
  obtain ⟨parsed, read, hosts⟩ := bind_eq_ok.mp hosts
  cases parsed with
  | none =>
    obtain ⟨h, normal, hosts⟩ := bind_eq_ok.mp hosts
    simp only [pure_eq_ok, Except.ok.injEq, Prod.mk.injEq] at hosts
    obtain ⟨rfl, rfl⟩ := hosts
    have same := asciiHost_of_normal (hostname_line (urlsplit_line split)) normal
    have named : is_address_text u (parts.hostname u) = false := by simp [is_address_text, read]
    constructor
    · intro short _ parts' split' _ default' port' known' reads_port'
      rw [split] at split'; cases split'
      rw [known] at known'; cases known'
      rw [reads_port] at reads_port'; cases reads_port'
      rw [same]
      exact short
    · intro fits
      have bound := fits url parts split named default port known reads_port
      rwa [same] at bound
  | some a =>
    obtain ⟨plain, is_literal⟩ := literal a read
    have short := written_literal plain is_literal
    have scheme := scheme_length known
    have suffix := suffix_length default (port_bounded reads_port)
    have separator : "://".length = 3 := rfl
    constructor
    · intro _ _ parts' split' named
      rw [split] at split'; cases split'
      simp [is_address_text, read] at named
    · intro _
      unfold MAX_TARGET_LENGTH
      omega

theorem normalize_target_url {raw : Text} {t : Target} (normal : normalize_target u raw = .ok t)
    (url : "://".toList <:+: strip raw) : normalize_url u (strip raw) = .ok t := by
  unfold normalize_target at normal
  simp only at normal
  split at normal
  · simp at normal
  split at normal
  · simp at normal
  split at normal
  · simp at normal
  exact normal

theorem normalize_target_kind {raw : Text} {t : Target} (normal : normalize_target u raw = .ok t)
    (other : ¬"://".toList <:+: strip raw) : t.kind ≠ .url := by
  unfold normalize_target at normal
  simp only at normal
  split at normal
  · simp at normal
  split at normal
  · simp at normal
  split at normal
  · simp at normal
  split at normal
  · obtain ⟨n, _, rfl⟩ := normalize_network_eq_ok normal
    cases n <;> simp [networkTarget, network_kind, IPNetwork.version]
  · obtain ⟨parsed, read, normal⟩ := bind_eq_ok.mp normal
    cases parsed with
    | some a =>
      obtain ⟨_, rfl⟩ := address_target_eq_ok read normal
      cases a <;> simp [addressTarget, address_kind, IPAddress.version]
    | none =>
      obtain ⟨h, _, normal⟩ := bind_eq_ok.mp normal
      unfold hostname_target at normal
      obtain ⟨_, _, normal⟩ := bind_eq_ok.mp normal
      cases normal
      simp

theorem short_iff {raw : Text} {t : Target} (normal : normalize_target u raw = .ok t) :
    t.value.length ≤ MAX_TARGET_LENGTH ↔ Fits u raw := by
  by_cases url : "://".toList <:+: strip raw
  · obtain ⟨origin⟩ := normalize_url_eq_ok (normalize_target_url normal url)
    exact origin_short_iff url origin
  · exact iff_of_true (short_of_not_origin (normalize_target_form normal) (normalize_target_kind normal url))
      fun inside => absurd inside url

theorem accepted_target {limit : Nat} {raw : Text} {t : Target} (accepted : normalize_scope_value u limit raw = .ok t) :
    normalize_target u raw = .ok t := by
  unfold normalize_scope_value at accepted
  cases normal : normalize_target u raw with
  | error error => simp [normal] at accepted
  | ok t' =>
    simp only [normal] at accepted
    split at accepted <;> try simp at accepted
    · rw [accepted]
    · split at accepted <;> simp at accepted
      rw [accepted]

/-- A rule whose value an operator managed to store. -/
def Stored (u : Unicode) (rule : ScopeRule) : Prop :=
  ∃ limit raw t, normalize_scope_value u limit raw = .ok t ∧ rule.value = t.value

/-- A stored value never raises anything but a `TargetError`. -/
theorem stored_readable {rules : List ScopeRule} (stored : ∀ rule ∈ rules, Stored u rule) : Readable u rules := by
  intro rule member raised
  obtain ⟨limit, raw, t, accepted, value⟩ := stored rule member
  have form := normalize_target_form (accepted_target accepted)
  rw [ScopeRule.target, value] at raised
  by_cases short : t.value.length ≤ MAX_TARGET_LENGTH
  · rw [normalize_target_self form short] at raised
    cases raised
  · rw [normalize_target_long form (by omega)] at raised
    simp [targetError, targetErrorText] at raised

theorem not_skipped {rule : ScopeRule} {entry : Target} (reads : rule.target u = .ok entry) : ¬Skipped u rule := by
  have form := rule_form reads
  rintro (⟨requested, t, normal, message, raised⟩ | ⟨message, raised⟩)
  · obtain ⟨b, ran, _⟩ := matches_rule_spec u (normalize_target_form normal) form
    rw [reads, ok_bind, ran] at raised
    cases raised
  · rw [reads, ok_bind, network_total form] at raised
    cases raised

/-- A stored value is read back as the accepted target, and its rule is never
    skipped, exactly when the accepted text fits. -/
theorem stored_rule_kept_iff {limit : Nat} {raw : Text} {t : Target}
    (accepted : normalize_scope_value u limit raw = .ok t) :
    (normalize_target u t.value = .ok t ∧ ∀ kind, ¬Skipped u { rule := kind, value := t.value }) ↔ Fits u raw := by
  have normal := accepted_target accepted
  have form := normalize_target_form normal
  rw [← short_iff normal]
  constructor
  · rintro ⟨back, _⟩
    by_contra long
    rw [normalize_target_long form (by omega)] at back
    simp at back
  · intro short
    have back := normalize_target_self (u := u) form short
    refine ⟨back, fun kind => ?_⟩
    have reads : ({ rule := kind, value := t.value } : ScopeRule).target u = .ok t := back
    exact not_skipped reads

/-! ### An origin that grows past the limit -/

/-- Thirty-one labels of one letter outside ASCII and one in ASCII. -/
def grownName : Text := "https://".toList ++ join ['.'] (List.replicate 31 ['ü'] ++ ["abcde".toList])

theorem grown_name_skipped : ∃ t, normalize_scope_value .plain 256 grownName = .ok t ∧
    normalize_target .plain t.value = targetError "Target must be 255 characters or fewer" ∧
      Skipped .plain { rule := .exclude, value := t.value } := by
  have accepted : (normalize_scope_value .plain 256 grownName).map (·.value.length) = .ok 261 := by decide +kernel
  obtain ⟨t, stored, length⟩ := map_eq_ok.mp accepted
  have refused := normalize_target_long (u := .plain) (normalize_target_form (accepted_target stored))
    (by rw [length]; decide)
  refine ⟨t, stored, refused, Or.inr ⟨"Target must be 255 characters or fewer".toList, ?_⟩⟩
  rw [ScopeRule.target, refused]
  rfl

theorem stored_rule_kept_iff_name : ∃ t, normalize_scope_value .plain 256 "https://bücher.example".toList = .ok t ∧
    ((normalize_target .plain t.value = .ok t ∧ ∀ kind, ¬Skipped .plain { rule := kind, value := t.value }) ↔
      Fits .plain "https://bücher.example".toList) := by
  have accepted : (normalize_scope_value .plain 256 "https://bücher.example".toList).map (·.value.length) = .ok 29 := by
    decide +kernel
  obtain ⟨t, stored, _⟩ := map_eq_ok.mp accepted
  exact ⟨t, stored, stored_rule_kept_iff stored⟩

end RedDock.StoredRules
