import RedDock.Verdict

/-!
# Malformed text

Which texts the target parser fails on with something else than a `TargetError`:
the ones it hands to `urlsplit`, which it calls outside of its `try` statements.
-/
set_option autoImplicit false
namespace RedDock.MalformedText
open Text Targets Canonical DockGuard Fallible Scope Verdict

variable {u : Unicode}

/-! ### Texts `urlsplit` refuses -/

/-- What stands between `//` and the location in a URL, when it has an authority. -/
def authority (u : Unicode) (url : Text) : Option Text :=
  let url := (url.dropWhile (·.toNat ≤ 0x20)).filter fun c => c ∉ ['\t', '\r', '\n']
  let rest := (Urls.split_scheme u url).2
  if rest.take 2 = ['/', '/'] then some ((rest.drop 2).takeWhile fun c => c ∉ ['/', '?', '#']) else none

/-- One bracket without the other, brackets around something that is no IPv6
    address, or a character whose normal form holds a delimiter. -/
def BadAuthority (u : Unicode) (netloc : Text) : Prop :=
  ¬('[' ∈ netloc ↔ ']' ∈ netloc) ∨ ('[' ∈ netloc ∧ Urls.check_bracketed_netloc netloc = false) ∨
    Urls.checknetloc u netloc = false

theorem judged_authority (netloc : Text) (parts : Urls.SplitResult) :
    (if decide ('[' ∈ netloc) != decide (']' ∈ netloc) then none
      else if '[' ∈ netloc ∧ !Urls.check_bracketed_netloc netloc then none
      else if !Urls.checknetloc u netloc then none
      else some parts) = none ↔ BadAuthority u netloc := by
  unfold BadAuthority
  by_cases opened : '[' ∈ netloc <;> by_cases closed : ']' ∈ netloc <;>
    cases host : Urls.check_bracketed_netloc netloc <;> cases kept : Urls.checknetloc u netloc <;>
    simp [opened, closed]

theorem urlsplit_none_iff (url : Text) :
    Urls.urlsplit u url = none ↔ ∃ netloc, authority u url = some netloc ∧ BadAuthority u netloc := by
  unfold Urls.urlsplit authority
  simp only
  split
  · rw [judged_authority]
    exact ⟨fun bad => ⟨_, rfl, bad⟩, fun ⟨_, same, bad⟩ => Option.some.inj same ▸ bad⟩
  · simp

/-- The text reaches `urlsplit` in `normalize_target`, which refuses it. -/
structure TargetRefused (u : Unicode) (raw : Text) : Prop where
  nonempty : strip raw ≠ []
  short : (strip raw).length ≤ MAX_TARGET_LENGTH
  permitted : (strip raw).any is_forbidden_character = false
  url : "://".toList <:+: strip raw
  refused : Urls.urlsplit u (strip raw) = none

/-! ### What is caught -/

/-- Nothing but a `TargetError` is raised. -/
def Caught {α : Type} (x : Except PyError α) : Prop := x ≠ .error .valueError

section Caught
variable {α β : Type}

@[simp] theorem caught_ok (a : α) : Caught (.ok a) := by simp [Caught]
@[simp] theorem caught_targetErrorText (message : Text) : Caught (targetErrorText message : Except PyError α) := by
  simp [Caught, targetErrorText]
@[simp] theorem caught_targetError (message : String) : Caught (targetError message : Except PyError α) :=
  caught_targetErrorText _

theorem Caught.bind {x : Except PyError α} {f : α → Except PyError β} (first : Caught x) (next : ∀ a, Caught (f a)) :
    Caught (x >>= f) := by
  intro raised
  rcases bind_eq_error.mp raised with here | ⟨a, _, later⟩
  · exact first here
  · exact next a later

theorem Caught.ite {p : Prop} [Decidable p] {x y : Except PyError α} (yes : Caught x) (no : Caught y) :
    Caught (if p then x else y) := by
  split
  · exact yes
  · exact no

theorem Caught.mapM {f : α → Except PyError β} (each : ∀ a, Caught (f a)) (as : List α) : Caught (as.mapM f) := by
  induction as with
  | nil => exact caught_ok _
  | cons a rest ih =>
    rw [List.mapM_cons]
    exact (each a).bind fun b => ih.bind fun bs => caught_ok _

theorem Caught.cases {x : Except PyError α} (caught : Caught x) :
    (∃ a, x = .ok a) ∨ ∃ message, x = .error (.targetError message) := by
  cases x with
  | ok a => exact Or.inl ⟨a, rfl⟩
  | error e =>
    cases e with
    | targetError message => exact Or.inr ⟨message, rfl⟩
    | valueError => exact absurd rfl caught

end Caught

theorem parse_address_caught (text : Text) : Caught (parse_address u text) :=
  .ite (caught_ok _) (.ite (.ite (caught_targetError _) (caught_ok _)) (caught_ok _))

theorem reject_unusable_caught (a : IPAddress) : Caught (reject_unusable_address a) :=
  .ite (caught_targetError _) (.ite (caught_targetError _) (caught_ok _))

theorem assert_safe_token_caught (value : Text) : Caught (assert_safe_token value) :=
  .ite (caught_ok _) (caught_targetError _)

theorem address_target_caught (a : IPAddress) : Caught (address_target a) :=
  (reject_unusable_caught a).bind fun _ => (assert_safe_token_caught _).bind fun _ => caught_ok _

theorem normalize_network_caught (text : Text) : Caught (normalize_network u text) := by
  unfold normalize_network
  refine .ite (caught_targetError _) ((parse_address_caught _).bind fun parsed => ?_)
  cases parsed with
  | none => exact caught_targetError _
  | some address =>
    simp only
    split
    · exact caught_targetErrorText _
    · exact .ite (caught_targetError _) (.ite (caught_targetError _) ((assert_safe_token_caught _).bind fun _ => caught_ok _))

theorem ascii_label_caught (label : Text) : Caught (ascii_label u label) := by
  unfold ascii_label
  refine .ite (caught_ok _) ?_
  split
  · exact caught_ok _
  · exact caught_targetError _

theorem normalize_label_caught (label : Text) : Caught (normalize_label u label) :=
  .ite (caught_targetError _) ((ascii_label_caught label).bind fun _ => .ite (caught_targetErrorText _) (caught_ok _))

theorem normalize_hostname_caught (text : Text) : Caught (normalize_hostname u text) := by
  unfold normalize_hostname
  refine .ite (caught_targetError _) ((Caught.mapM normalize_label_caught _).bind fun normalized => ?_)
  exact .ite (caught_targetError _) (.ite (caught_targetError _) (.ite (caught_targetError _) (caught_ok _)))

theorem hostname_target_caught (hostname : Text) : Caught (hostname_target hostname) :=
  (assert_safe_token_caught _).bind fun _ => caught_ok _

theorem url_host_caught (hostname : Text) : Caught (url_host u hostname) := by
  unfold url_host
  refine (parse_address_caught _).bind fun parsed => ?_
  cases parsed with
  | none => exact (normalize_hostname_caught _).bind fun _ => caught_ok _
  | some address => exact (reject_unusable_caught _).bind fun _ => caught_ok _

/-- Of the library calls of `_normalize_url` only `urlsplit` is not caught. -/
theorem normalize_url_raises_iff (text : Text) : normalize_url u text = .error .valueError ↔ Urls.urlsplit u text = none := by
  unfold normalize_url
  cases split : Urls.urlsplit u text with
  | none => simp
  | some parts =>
    simp only [reduceCtorEq, iff_false]
    change Caught _
    cases default_port (u.lower parts.scheme) with
    | none => exact caught_targetError _
    | some default =>
      refine .ite (caught_targetError _) ?_
      cases parts.port with
      | none => exact caught_targetError _
      | some port =>
        refine .ite (caught_targetError _) (.ite (caught_targetError _) ((url_host_caught _).bind fun hosts => ?_))
        exact (assert_safe_token_caught _).bind fun _ => caught_ok _

/-- The parser raises something else than a `TargetError` exactly on the texts
    `urlsplit` refuses. -/
theorem normalize_target_raises_iff (raw : Text) : normalize_target u raw = .error .valueError ↔ TargetRefused u raw := by
  have kept : ∀ {x : Except PyError Target}, Caught x → (x = .error .valueError ↔ False) := fun caught => iff_false_intro caught
  have only : ∀ {p : Prop}, (TargetRefused u raw → p) → ¬p → (False ↔ TargetRefused u raw) :=
    fun needs not => ⟨False.elim, fun refused => not (needs refused)⟩
  unfold normalize_target
  simp only
  by_cases empty : strip raw = []
  · rw [if_pos empty, kept (caught_targetError _)]
    exact only (·.nonempty) (not_not.mpr empty)
  by_cases long : MAX_TARGET_LENGTH < (strip raw).length
  · rw [if_neg empty, if_pos long, kept (caught_targetError _)]
    exact only (·.short) (Nat.not_le.mpr long)
  by_cases forbidden : (strip raw).any is_forbidden_character = true
  · rw [if_neg empty, if_neg long, if_pos forbidden, kept (caught_targetError _)]
    exact only (·.permitted) (by simp [forbidden])
  rw [if_neg empty, if_neg long, if_neg forbidden]
  by_cases url : "://".toList <:+: strip raw
  · rw [if_pos url, normalize_url_raises_iff]
    exact ⟨fun refused => ⟨empty, Nat.le_of_not_lt long, by simpa using forbidden, url, refused⟩, (·.refused)⟩
  · rw [if_neg url, kept]
    · exact only (·.url) url
    · refine .ite (normalize_network_caught _) ((parse_address_caught _).bind fun parsed => ?_)
      cases parsed with
      | none => exact (normalize_hostname_caught _).bind fun _ => hostname_target_caught _
      | some address => exact address_target_caught _

theorem normalize_target_caught {raw : Text} (accepted : ¬TargetRefused u raw) : Caught (normalize_target u raw) :=
  fun raised => accepted ((normalize_target_raises_iff raw).mp raised)

/-! ### Evaluations -/

theorem readable_of_accepted {rules : List ScopeRule} (accepted : ∀ rule ∈ rules, ¬TargetRefused u rule.value) :
    Readable u rules := fun rule member => normalize_target_caught (accepted rule member)

theorem evaluate_raises {requested : Text} {rules : List ScopeRule} {resolver : Option Resolver}
    (refused : TargetRefused u requested) : evaluate u requested rules resolver = .error .valueError := by
  simp [evaluate, (normalize_target_raises_iff requested).mpr refused]

theorem evaluate_caught {requested : Text} {rules : List ScopeRule} {resolver : Option Resolver}
    (accepted : ¬TargetRefused u requested) (readable : Readable u rules) :
    ∃ e, evaluate u requested rules resolver = .ok e ∧
      ∀ message, normalize_target u requested = .error (.targetError message) → e.decision = .invalid_target := by
  rcases (normalize_target_caught accepted).cases with ⟨t, read⟩ | ⟨message, read⟩
  · obtain ⟨e, ran⟩ : ∃ e, evaluate_target u requested t rules resolver = .ok e :=
      evaluate_target_total (normalize_target_form read) readable
    refine ⟨e, (evaluate_of_target read).trans ran, fun message refused => ?_⟩
    rw [read] at refused
    cases refused
  · exact ⟨_, by rw [evaluate, read], fun _ _ => rfl⟩

end RedDock.MalformedText
