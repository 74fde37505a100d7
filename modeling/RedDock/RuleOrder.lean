import RedDock.Soundness
import RedDock.StoredRules

/-!
# Order and growth of the rules

A decision depends on which rules there are, not on their order, and a Dockyard
with more exclusions or fewer inclusions permits no more.
-/
set_option autoImplicit false
namespace RedDock.RuleOrder
open Text Targets Canonical DockGuard Scope Verdict Soundness StoredRules

variable {u : Unicode} {rules rules' : List ScopeRule} {t : Target} {resolver : Option Resolver}

/-! ### Rules as a set -/

theorem covered_mono (inside : ∀ r ∈ rules, r ∈ rules') (covered : Covered u rules t) : Covered u rules' t := by
  obtain ⟨rule, member, covering⟩ := covered
  exact ⟨rule, inside rule member, covering⟩

theorem excludedHosts_mono (inside : ∀ r ∈ rules, r ∈ rules') : excludedHosts u rules ⊆ excludedHosts u rules' := by
  rintro h ⟨rule, member, held⟩
  exact ⟨rule, inside rule member, held⟩

theorem answerExcluded_mono {answer : Text} (inside : ∀ r ∈ rules, r ∈ rules') (excluded : AnswerExcluded u rules answer) :
    AnswerExcluded u rules' answer := by
  obtain ⟨address, parsed, read, held⟩ := excluded
  exact ⟨address, parsed, read, excludedHosts_mono inside held⟩

/-- More exclusions permit no more names. -/
theorem prescribedFor_mono {answer : Answer} (inside : ∀ r ∈ rules, r ∈ rules')
    (allowed : prescribedFor u rules' answer = .allowed) : prescribedFor u rules answer = .allowed := by
  cases answer with
  | error strerror => simp [prescribedFor] at allowed
  | ok answers =>
    simp only [prescribedFor] at allowed ⊢
    split at allowed
    · simp at allowed
    split at allowed
    · simp at allowed
    split at allowed
    · simp at allowed
    split at allowed
    · simp at allowed
    rename_i some_answer accepted permitted outside
    have still : ¬∃ a ∈ answers, AnswerExcluded u rules a := by
      rintro ⟨a, member, excluded⟩
      exact outside ⟨a, member, answerExcluded_mono inside excluded⟩
    rw [if_neg some_answer, if_neg accepted, if_neg permitted, if_neg still]

theorem prescribedInside_mono (inside : ∀ r ∈ rules, r ∈ rules')
    (allowed : prescribedInside u t rules' resolver = .allowed) : prescribedInside u t rules resolver = .allowed := by
  unfold prescribedInside at allowed ⊢
  split at allowed
  · split at allowed
    · simp at allowed
    · rename_i partly
      rw [if_neg fun all => partly (all.trans (excludedHosts_mono inside))]
  · exact prescribedFor_mono inside allowed
  · rfl

/-- Fewer inclusions and more exclusions. -/
structure Narrows (rules rules' : List ScopeRule) : Prop where
  includes : ∀ r ∈ includes_of rules', r ∈ includes_of rules
  excludes : ∀ r ∈ excludes_of rules, r ∈ excludes_of rules'

theorem prescribed_mono (narrows : Narrows rules rules') (allowed : prescribed u t rules' resolver = .allowed) :
    prescribed u t rules resolver = .allowed := by
  rw [prescribed_allowed_iff] at allowed ⊢
  exact ⟨allowed.soft, covered_mono narrows.includes allowed.included,
    fun covered => allowed.not_excluded (covered_mono narrows.excludes covered),
    prescribedInside_mono narrows.excludes allowed.inside⟩

/-- Whatever is not decided on answers alone follows from which rules there are. -/
theorem prescribed_congr (same : ∀ r, r ∈ rules ↔ r ∈ rules') : prescribed u t rules resolver = prescribed u t rules' resolver := by
  have includes : ∀ r, r ∈ includes_of rules ↔ r ∈ includes_of rules' := fun r => by
    rw [mem_includes, mem_includes, same]
  have excludes : ∀ r, r ∈ excludes_of rules ↔ r ∈ excludes_of rules' := fun r => by
    rw [mem_excludes, mem_excludes, same]
  have nothing : includes_of rules = [] ↔ includes_of rules' = [] := by
    simp only [List.eq_nil_iff_forall_not_mem, includes]
  have included : Covered u (includes_of rules) t ↔ Covered u (includes_of rules') t :=
    ⟨covered_mono fun r => (includes r).mp, covered_mono fun r => (includes r).mpr⟩
  have excluded : Covered u (excludes_of rules) t ↔ Covered u (excludes_of rules') t :=
    ⟨covered_mono fun r => (excludes r).mp, covered_mono fun r => (excludes r).mpr⟩
  have hosts : excludedHosts u (excludes_of rules) = excludedHosts u (excludes_of rules') :=
    Set.Subset.antisymm (excludedHosts_mono fun r => (excludes r).mp) (excludedHosts_mono fun r => (excludes r).mpr)
  have blocked : AnswerExcluded u (excludes_of rules) = AnswerExcluded u (excludes_of rules') := by
    funext answer
    rw [AnswerExcluded, AnswerExcluded, hosts]
  have answers : prescribedFor u (excludes_of rules) = prescribedFor u (excludes_of rules') := by
    funext answer
    unfold prescribedFor
    rw [blocked]
  have inside : prescribedInside u t (excludes_of rules) resolver = prescribedInside u t (excludes_of rules') resolver := by
    unfold prescribedInside
    rw [hosts, answers]
  unfold prescribed
  rw [propext included, propext excluded, inside]
  simp only [nothing]

/-! ### Evaluations -/

/-- One edit that can only narrow a scope. -/
inductive Narrowing : List ScopeRule → List ScopeRule → Prop
  | add_exclude (before after : List ScopeRule) (value : Text) :
      Narrowing (before ++ after) (before ++ { rule := .exclude, value := value } :: after)
  | remove_include (before after : List ScopeRule) (value : Text) :
      Narrowing (before ++ { rule := .include, value := value } :: after) (before ++ after)

theorem narrowing_narrows (edit : Narrowing rules rules') : Narrows rules rules' := by
  cases edit with
  | add_exclude before after value =>
    refine ⟨?_, ?_⟩ <;> intro r member <;> simp only [includes_of, excludes_of, List.filter_append, List.filter_cons] at *
    · simpa using member
    · simp only [decide_true, if_true, List.mem_append, List.mem_cons] at *
      rcases member with front | back
      · exact Or.inl front
      · exact Or.inr (Or.inr back)
  | remove_include before after value =>
    refine ⟨?_, ?_⟩ <;> intro r member <;> simp only [includes_of, excludes_of, List.filter_append, List.filter_cons] at *
    · simp only [decide_true, if_true, List.mem_append, List.mem_cons] at *
      rcases member with front | back
      · exact Or.inl front
      · exact Or.inr (Or.inr back)
    · simpa using member

/-- Reordered rules give the same decision and hand on the same values; stored
    rules give an evaluation in every order or in none. -/
def OrderIndependent (u : Unicode) (requested : Text) (resolver : Option Resolver) : Prop :=
  ∀ rules rules' : List ScopeRule, rules.Perm rules' →
    (∀ e e', evaluate u requested rules resolver = .ok e → evaluate u requested rules' resolver = .ok e' →
      e.decision = e'.decision ∧ ∀ v, v ∈ e.excluded_addresses ↔ v ∈ e'.excluded_addresses) ∧
    ((∀ rule ∈ rules, Stored u rule) →
      ((∃ e, evaluate u requested rules resolver = .ok e) ↔ ∃ e', evaluate u requested rules' resolver = .ok e'))

/-- A narrowing edit turns no other decision into `allowed` and releases no
    excluded host. -/
def Monotone (u : Unicode) (requested : Text) (resolver : Option Resolver) : Prop :=
  ∀ rules rules' : List ScopeRule, Narrowing rules rules' →
    ∀ e e', evaluate u requested rules resolver = .ok e → evaluate u requested rules' resolver = .ok e' →
      (e.decision ≠ .allowed → e'.decision ≠ .allowed) ∧
      (e.decision = .allowed → e'.decision = .allowed → leftExcluded u e ⊆ leftExcluded u e')

theorem evaluate_same {requested : Text} {e e' : Evaluation} (same : ∀ r, r ∈ rules ↔ r ∈ rules')
    (ran : evaluate u requested rules resolver = .ok e) (ran' : evaluate u requested rules' resolver = .ok e') :
    e.decision = e'.decision ∧ ∀ v, v ∈ e.excluded_addresses ↔ v ∈ e'.excluded_addresses := by
  rcases evaluate_spec ran with ⟨invalid, nothing, message, refused⟩ | ⟨t, read, form, decision, excluded, _⟩
  · rcases evaluate_spec ran' with ⟨invalid', nothing', _⟩ | ⟨t', read', _⟩
    · exact ⟨by rw [invalid, invalid'], by simp [nothing, nothing']⟩
    · rw [refused] at read'; cases read'
  · rcases evaluate_spec ran' with ⟨_, _, message', refused'⟩ | ⟨t', read', _, decision', excluded', _⟩
    · rw [read] at refused'; cases refused'
    · rw [read] at read'; cases read'
      have agree : e.decision = e'.decision := by rw [decision, decision', prescribed_congr same]
      refine ⟨agree, fun v => ?_⟩
      rw [excluded, excluded', mem_handed, mem_handed, agree]
      simp only [mem_reaching, mem_excludes, same]

theorem evaluate_narrows {requested : Text} {e e' : Evaluation} (narrows : Narrows rules rules')
    (ran : evaluate u requested rules resolver = .ok e) (ran' : evaluate u requested rules' resolver = .ok e')
    (allowed' : e'.decision = .allowed) : e.decision = .allowed ∧ ∀ v ∈ e.excluded_addresses, v ∈ e'.excluded_addresses := by
  rcases evaluate_spec ran' with ⟨invalid', _⟩ | ⟨t, read', _, decision', excluded', _⟩
  · rw [allowed'] at invalid'; cases invalid'
  · rcases evaluate_spec ran with ⟨_, _, message, refused⟩ | ⟨t', read, _, decision, excluded, _⟩
    · rw [read'] at refused; cases refused
    · rw [read'] at read; cases read
      rw [allowed'] at decision'
      have allowed : e.decision = .allowed := by rw [decision, prescribed_mono narrows decision'.symm]
      refine ⟨allowed, fun v member => ?_⟩
      rw [excluded, mem_handed] at member
      obtain ⟨on, rule, reaches, value⟩ := member
      rw [excluded', mem_handed]
      refine ⟨⟨on.1, allowed'⟩, rule, ?_, value⟩
      rw [mem_reaching] at reaches ⊢
      exact ⟨narrows.excludes rule reaches.1, reaches.2⟩

theorem evaluate_total {requested : Text} (readable : Readable u rules) :
    (∃ e, evaluate u requested rules resolver = .ok e) ↔ normalize_target u requested ≠ .error .valueError := by
  unfold evaluate
  cases read : normalize_target u requested with
  | error error => cases error <;> simp
  | ok t => simpa using evaluate_target_total (normalize_target_form read) readable

/-- Scope evaluation is order independent and monotone. -/
theorem evaluate_order_monotone (u : Unicode) (requested : Text) (resolver : Option Resolver) :
    OrderIndependent u requested resolver ∧ Monotone u requested resolver := by
  constructor
  · intro rules rules' perm
    refine ⟨fun e e' ran ran' => evaluate_same (fun r => perm.mem_iff) ran ran', fun stored => ?_⟩
    rw [evaluate_total (stored_readable stored),
      evaluate_total (stored_readable fun rule member => stored rule (perm.mem_iff.mpr member))]
  · intro rules rules' edit e e' ran ran'
    have narrows := narrowing_narrows edit
    refine ⟨fun denied allowed' => denied (evaluate_narrows narrows ran ran' allowed').1, ?_⟩
    rintro _ allowed' h ⟨v, member, held⟩
    exact ⟨v, (evaluate_narrows narrows ran ran' allowed').2 v member, held⟩

end RedDock.RuleOrder
