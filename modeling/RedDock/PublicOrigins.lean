import RedDock.MalformedText

/-!
# Public origins

The reading of the HTTPS origin a server is published under, and the comparison
of a presented `Origin` header with it. What the two raise is settled by what
`urlsplit` refuses.
-/
set_option autoImplicit false
namespace RedDock.PublicOrigins
open Text Targets Canonical DockGuard Fallible MalformedText

variable {u : Unicode}

/-- What the two functions may raise. -/
inductive OriginError
  | browserSecurityError (message : Text)
  | raised (error : PyError)
  | typeError
  deriving DecidableEq

structure PublicOrigin where
  value : Text
  trusted_host : Text
  deriving DecidableEq

def MAX_PUBLIC_ORIGIN_LENGTH : Nat := 512

def originError {α : Type} (message : String) : Except OriginError α := .error (.browserSecurityError message.toList)

/-- `normalize_target` as `parse_public_origin` calls it. -/
def origin_target (u : Unicode) (raw : Text) : Except OriginError Target :=
  match normalize_target u raw with
  | .ok target => .ok target
  | .error (.targetError message) => .error (.browserSecurityError ("Invalid public origin: ".toList ++ message))
  | .error .valueError => .error (.raised .valueError)

/-- `parse_public_origin` once the text is split. -/
def origin_of_parts (u : Unicode) (raw : Text) (parts : Urls.SplitResult) : Except OriginError PublicOrigin := do
  let (path, query, fragment) := Urls.location u raw
  if u.lower parts.scheme ≠ "https".toList then originError "Public origin must use HTTPS"
  else if '@' ∈ parts.netloc then originError "Public origin must not embed credentials"
  else if parts.netloc.getLast? = some ':' then originError "Public origin must include a port after ':'"
  else if path ≠ [] ∨ query ≠ [] ∨ fragment ≠ [] ∨ '?' ∈ raw ∨ '#' ∈ raw then
    originError "Public origin must not include a path, query, or fragment"
  else
    let target ← origin_target u raw
    if target.kind ≠ .url ∨ target.scheme ≠ some "https".toList then originError "Public origin must use HTTPS"
    else return { value := target.value, trusted_host := target.host }

def parse_public_origin (u : Unicode) (raw : Text) : Except OriginError PublicOrigin :=
  if raw = [] then originError "Public origin must be non-empty text"
  else if MAX_PUBLIC_ORIGIN_LENGTH < raw.length then originError "Public origin must be 512 characters or fewer"
  else if raw ≠ strip raw ∨ raw.any (fun c => isSpace c || decide (c.toNat < 0x20)) = true then
    originError "Public origin must not contain whitespace or controls"
  else if '\\' ∈ raw then originError "Public origin must not contain backslashes"
  else
    match Urls.urlsplit u raw with
    | none => .error (.raised .valueError)
    | some parts => origin_of_parts u raw parts

/-- `compare_digest` of two texts, which takes ASCII only. -/
def compare_digest (a b : Text) : Except OriginError Bool :=
  if isAscii a && isAscii b then .ok (a == b) else .error .typeError

def origin_matches (u : Unicode) (presented : Option Text) (expected : PublicOrigin) : Except OriginError Bool :=
  match presented with
  | none => .ok false
  | some presented =>
    if presented = "null".toList then .ok false
    else
      match parse_public_origin u presented with
      | .error (.browserSecurityError _) => .ok false
      | .error error => .error error
      | .ok candidate => compare_digest candidate.value expected.value

/-! ### What reading an origin raises -/

/-- The text passed to `urlsplit` by `parse_public_origin`. -/
structure Presented (raw : Text) : Prop where
  nonempty : raw ≠ []
  short : raw.length ≤ MAX_PUBLIC_ORIGIN_LENGTH
  stripped : raw = strip raw
  printed : raw.any (fun c => isSpace c || decide (c.toNat < 0x20)) = false
  forward : '\\' ∉ raw

/-- The text reaches `urlsplit` in `parse_public_origin`, which refuses it. -/
def OriginRefused (u : Unicode) (raw : Text) : Prop := Presented raw ∧ Urls.urlsplit u raw = none

/-- An origin in ASCII, or an error `origin_matches` catches. -/
def Settled (x : Except OriginError PublicOrigin) : Prop :=
  (∃ origin, x = .ok origin ∧ isAscii origin.value = true) ∨ ∃ message, x = .error (.browserSecurityError message)

theorem settled_error (message : String) : Settled (originError message) := Or.inr ⟨_, rfl⟩

theorem Settled.ite {p : Prop} [Decidable p] {x y : Except OriginError PublicOrigin} (yes : Settled x) (no : Settled y) :
    Settled (if p then x else y) := by
  split
  · exact yes
  · exact no

theorem origin_of_parts_settled {raw : Text} {parts : Urls.SplitResult} (stripped : raw = strip raw)
    (split : Urls.urlsplit u raw = some parts) : Settled (origin_of_parts u raw parts) := by
  unfold origin_of_parts
  refine .ite (settled_error _) (.ite (settled_error _) (.ite (settled_error _) (.ite (settled_error _) ?_)))
  -- The text was split once already, so the parser splits it too.
  have accepted : ¬TargetRefused u raw := fun bad => by
    have refused := bad.refused
    rw [← stripped, split] at refused
    cases refused
  unfold origin_target
  rcases (normalize_target_caught accepted).cases with ⟨t, read⟩ | ⟨message, read⟩
  · simp only [read, ok_bind]
    refine .ite (settled_error _) (Or.inl ⟨_, rfl, ?_⟩)
    exact isAscii_visible (form_visible (normalize_target_form read))
  · simp only [read, error_bind]
    exact Or.inr ⟨_, rfl⟩

theorem parse_public_origin_cases (raw : Text) :
    (OriginRefused u raw ∧ parse_public_origin u raw = .error (.raised .valueError)) ∨
      (¬OriginRefused u raw ∧ Settled (parse_public_origin u raw)) := by
  have guarded : ∀ message, ¬Presented raw → parse_public_origin u raw = originError message →
      (OriginRefused u raw ∧ parse_public_origin u raw = .error (.raised .valueError)) ∨
        (¬OriginRefused u raw ∧ Settled (parse_public_origin u raw)) := fun message outside same =>
    Or.inr ⟨fun refused => outside refused.1, same ▸ settled_error message⟩
  by_cases empty : raw = []
  · exact guarded _ (fun presented => presented.nonempty empty) (if_pos empty)
  by_cases long : MAX_PUBLIC_ORIGIN_LENGTH < raw.length
  · exact guarded _ (fun presented => Nat.not_lt.mpr presented.short long) ((if_neg empty).trans (if_pos long))
  by_cases spaced : raw ≠ strip raw ∨ raw.any (fun c => isSpace c || decide (c.toNat < 0x20)) = true
  · refine guarded _ (fun presented => ?_) ((if_neg empty).trans ((if_neg long).trans (if_pos spaced)))
    rcases spaced with padded | control
    · exact padded presented.stripped
    · exact absurd (presented.printed.symm.trans control) (by decide)
  by_cases backward : '\\' ∈ raw
  · exact guarded _ (fun presented => presented.forward backward)
      ((if_neg empty).trans ((if_neg long).trans ((if_neg spaced).trans (if_pos backward))))
  obtain ⟨stripped, printed⟩ := not_or.mp spaced
  have presented : Presented raw :=
    ⟨empty, Nat.le_of_not_lt long, not_not.mp stripped, Bool.not_eq_true _ ▸ printed, backward⟩
  have reached : parse_public_origin u raw = match Urls.urlsplit u raw with
      | none => .error (.raised .valueError)
      | some parts => origin_of_parts u raw parts :=
    (if_neg empty).trans ((if_neg long).trans ((if_neg spaced).trans (if_neg backward)))
  cases split : Urls.urlsplit u raw with
  | none => exact Or.inl ⟨⟨presented, split⟩, by rw [reached, split]⟩
  | some parts =>
    refine Or.inr ⟨fun refused => ?_, ?_⟩
    · have none := refused.2
      rw [split] at none
      cases none
    · rw [reached, split]
      exact origin_of_parts_settled presented.stripped split

/-- A parsed origin is written in ASCII. -/
theorem parsed_ascii {raw : Text} {origin : PublicOrigin} (parsed : parse_public_origin u raw = .ok origin) :
    isAscii origin.value = true := by
  rcases parse_public_origin_cases (u := u) raw with ⟨_, raised⟩ | ⟨_, ⟨other, same, ascii⟩ | ⟨message, refused⟩⟩
  · rw [raised] at parsed
    cases parsed
  · rw [parsed] at same
    cases same
    exact ascii
  · rw [refused] at parsed
    cases parsed

/-- Against an origin in ASCII a comparison fails exactly on the texts `urlsplit` refuses. -/
theorem origin_matches_iff {presented : Text} {expected : PublicOrigin} (ascii : isAscii expected.value = true) :
    (∃ b, origin_matches u (some presented) expected = .ok b) ↔ ¬OriginRefused u presented := by
  unfold origin_matches
  by_cases null : presented = "null".toList
  · have kept : ¬OriginRefused u "null".toList := by
      rintro ⟨_, refused⟩
      obtain ⟨netloc, here, _⟩ := (urlsplit_none_iff _).mp refused
      have none : authority u "null".toList = none := rfl
      rw [none] at here
      cases here
    simp only [null, if_true]
    exact iff_of_true ⟨false, rfl⟩ kept
  · simp only [null, if_false]
    rcases parse_public_origin_cases (u := u) presented with
      ⟨refused, raised⟩ | ⟨accepted, ⟨origin, parsed, written⟩ | ⟨message, caught⟩⟩
    · rw [raised]
      simp [refused]
    · rw [parsed]
      exact iff_of_true ⟨_, by simp only [compare_digest, written, ascii]; rfl⟩ accepted
    · rw [caught]
      exact iff_of_true ⟨false, rfl⟩ accepted

/-! ### Canonical origins -/

section Written
variable {host written : Text} {port : Nat}

theorem location_origin {netloc : Text} (chars : NetlocChars netloc) :
    Urls.location u ("https".toList ++ "://".toList ++ netloc) = ([], [], []) := by
  have nothing : netloc.dropWhile (fun c => c ∉ ['/', '?', '#']) = [] := by
    rw [List.dropWhile_eq_nil_iff]
    exact fun c member => decide_eq_true (chars.delimiter c member)
  have known : default_port "https".toList = some 443 := rfl
  simp only [Urls.location, split_scheme_origin known chars, List.take_succ_cons, List.take_zero, if_true,
    List.drop_succ_cons, List.drop_zero, nothing]
  rfl

/-- An origin does not end in the colon of a missing port. -/
theorem netloc_last (is_written : Written host written) :
    (written ++ port_suffix 443 (some port)).getLast? ≠ some ':' := by
  have plain : ∀ {t : Text}, ':' ∉ t → t.getLast? ≠ some ':' := fun absent last => absent (List.mem_of_getLast? last)
  by_cases standard : port = 443
  · rw [port_suffix, if_pos standard, List.append_nil]
    cases is_written with
    | name name => exact plain (notMem_name name (by decide) (by decide))
    | v4 usable family => exact plain (colon_notMem_v4 usable family)
    | v6 usable family => rw [List.getLast?_concat]; decide
  · rw [port_suffix, if_neg standard, List.getLast?_append_of_ne_nil _ (by simp), List.getLast?_cons,
      List.getLast?_eq_some_getLast (dec_ne_nil port)]
    intro last
    have digit := isDigit_of_mem_dec (List.getLast_mem (dec_ne_nil port))
    rw [show (dec port).getLast (dec_ne_nil port) = ':' by simpa using last] at digit
    exact absurd digit (by decide)

/-- A canonical HTTPS origin is read as itself. -/
theorem parse_public_origin_self (is_written : Written host written) (low : 1 ≤ port) (high : port ≤ 65535)
    (fits : (originTarget "https".toList host written 443 port).value.length ≤ MAX_TARGET_LENGTH) :
    parse_public_origin u (originTarget "https".toList host written 443 port).value =
      .ok { value := (originTarget "https".toList host written 443 port).value, trusted_host := host } := by
  have known : default_port "https".toList = some 443 := rfl
  have form := Form.origin known is_written low high
  have visible := form_visible form
  have read := normalize_target_self (u := u) form fits
  have chars : NetlocChars (written ++ port_suffix 443 (some port)) := netloc_chars is_written
  have splits : SplitsTo (written ++ port_suffix 443 (some port)) host (portText 443 port) := splitsTo_written is_written
  have value : (originTarget "https".toList host written 443 port).value =
      "https".toList ++ "://".toList ++ (written ++ port_suffix 443 (some port)) := by
    simp only [originTarget, List.append_assoc]
  have split : Urls.urlsplit u (originTarget "https".toList host written 443 port).value =
      some { scheme := "https".toList, netloc := written ++ port_suffix 443 (some port) } := by
    rw [value]
    exact urlsplit_origin known chars ⟨splits.brackets, splits.checked⟩
  have place : Urls.location u (originTarget "https".toList host written 443 port).value = ([], [], []) := by
    rw [value]
    exact location_origin chars
  have lower : u.lower "https".toList = "https".toList := scheme_lower known
  -- The characters that are tested for stand neither in the prefix nor behind it.
  have absent : ∀ c ∈ ['\\', '?', '#'], c ∉ (originTarget "https".toList host written 443 port).value := by
    intro c tested member
    rw [value] at member
    rcases List.mem_append.mp member with front | back
    · have free : ("https".toList ++ "://".toList).all (fun d => d ∉ ['\\', '?', '#']) = true := by decide +kernel
      exact of_decide_eq_true (chars_of_all free c front) tested
    · have char := netloc_char is_written c back
      simp only [List.mem_cons, List.not_mem_nil, or_false] at tested
      rcases tested with rfl | rfl | rfl <;> exact absurd char (by unfold IpText.AddressChar; decide)
  have presented : ¬((originTarget "https".toList host written 443 port).value ≠
      strip (originTarget "https".toList host written 443 port).value ∨
      (originTarget "https".toList host written 443 port).value.any (fun c => isSpace c || decide (c.toNat < 0x20)) = true) := by
    rw [strip_visible visible]
    simp only [ne_eq, not_true_eq_false, false_or, List.any_eq_true, not_exists, not_and]
    intro c member
    have shown := visible c member
    simp only [visible_not_space shown, Bool.false_or, decide_eq_true_eq]
    have := shown.1
    omega
  have short : ¬MAX_PUBLIC_ORIGIN_LENGTH < (originTarget "https".toList host written 443 port).value.length := by
    simp only [MAX_TARGET_LENGTH] at fits
    simp only [MAX_PUBLIC_ORIGIN_LENGTH]
    omega
  unfold parse_public_origin
  rw [if_neg (form_ne_nil form), if_neg short, if_neg presented, if_neg (absent _ (by simp)), split]
  simp only [origin_of_parts, place, lower, at_notMem_netloc is_written, netloc_last is_written, absent '?' (by simp),
    absent '#' (by simp), origin_target, read, ok_bind]
  simp [originTarget]

end Written

/-! ### Malformed text -/

/-- The text is read or refused by each of the three functions: nothing else escapes. -/
structure Handled (u : Unicode) (text : Text) : Prop where
  target : (∃ t, normalize_target u text = .ok t) ∨ ∃ message, normalize_target u text = .error (.targetError message)
  evaluation : ∀ rules resolver, (∀ rule ∈ rules, ¬TargetRefused u rule.value) →
    ∃ e, evaluate u text rules resolver = .ok e ∧
      ∀ message, normalize_target u text = .error (.targetError message) → e.decision = .invalid_target
  origin : ∀ raw expected, parse_public_origin u raw = .ok expected →
    ∃ b, origin_matches u (some text) expected = .ok b

/-- Some origin is read, whatever the tables. -/
theorem parsed_origin_exists (u : Unicode) : ∃ raw origin, parse_public_origin u raw = .ok origin := by
  have name : Name ["reddock".toList, "test".toList] "reddock.test".toList :=
    ⟨by simp, by decide +kernel, by decide +kernel, by decide +kernel, by decide +kernel, by decide +kernel⟩
  exact ⟨_, _, parse_public_origin_self (.name name) (by decide : 1 ≤ 443) (by decide) (by decide +kernel)⟩

/-- Malformed text is handled exactly where `urlsplit` takes it, or is not asked. -/
theorem malformed_handled_iff (u : Unicode) (text : Text) :
    Handled u text ↔ ¬TargetRefused u text ∧ ¬OriginRefused u text := by
  constructor
  · intro handled
    constructor
    · intro refused
      have raised := (normalize_target_raises_iff text).mpr refused
      rcases handled.target with ⟨t, read⟩ | ⟨message, read⟩
      · rw [raised] at read
        cases read
      · rw [raised] at read
        cases read
    · obtain ⟨raw, expected, parsed⟩ := parsed_origin_exists u
      exact (origin_matches_iff (parsed_ascii parsed)).mp (handled.origin raw expected parsed)
  · rintro ⟨target_accepted, origin_accepted⟩
    exact {
      target := (normalize_target_caught target_accepted).cases
      evaluation := fun rules resolver accepted => evaluate_caught target_accepted (readable_of_accepted accepted)
      origin := fun raw expected parsed => (origin_matches_iff (parsed_ascii parsed)).mpr origin_accepted }

theorem malformed_not_handled : ¬Handled .plain "https://[".toList := by
  intro handled
  have raised : normalize_target .plain "https://[".toList = .error .valueError := by decide +kernel
  rcases handled.target with ⟨t, read⟩ | ⟨message, read⟩
  · rw [raised] at read
    cases read
  · rw [raised] at read
    cases read

/-- The same text crashes an evaluation and the comparison of an `Origin` header. -/
example : evaluate .plain "https://[".toList [] none = .error .valueError ∧
    origin_matches .plain (some "https://[".toList) { value := "https://a.b".toList, trusted_host := "a.b".toList } =
      .error (.raised .valueError) := by decide +kernel

end RedDock.PublicOrigins
