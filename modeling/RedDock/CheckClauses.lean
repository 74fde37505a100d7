import RedDock.SqlTokens

/-!
# Check clauses of a table

The check clauses of an SQL text are those of its tokens: behind each word
`CHECK` the tokens in balanced parentheses.
-/
set_option autoImplicit false
namespace RedDock.CheckClauses
open Text Fallible SqlScanner SqlTokens

/-! ### Clauses of tokens -/

/-- The tokens up to the parenthesis that closes the outermost one. -/
def clause : Nat → List Token → Option (List Token × List Token)
  | _, [] => none
  | depth, token :: tokens =>
    if token = .other '(' then (clause (depth + 1) tokens).map fun found => (token :: found.1, found.2)
    else if token = .other ')' then
      if depth = 1 then some ([], tokens) else (clause (depth - 1) tokens).map fun found => (token :: found.1, found.2)
    else (clause depth tokens).map fun found => (token :: found.1, found.2)

theorem clause_length {depth : Nat} {tokens : List Token} {found : List Token × List Token} (is : clause depth tokens = some found) :
    found.2.length < tokens.length := by
  induction tokens generalizing depth found with
  | nil => cases is
  | cons token tokens ih =>
    have step : ∀ {depth' : Nat}, (clause depth' tokens).map (fun found => (token :: found.1, found.2)) = some found →
        found.2.length < (token :: tokens).length := by
      intro depth' is
      obtain ⟨inner, here, rfl⟩ := Option.map_eq_some_iff.mp is
      exact (ih here).trans (Nat.lt_succ_self _)
    rw [clause] at is
    split at is
    · exact step is
    · split at is
      · split at is
        · cases is
          exact Nat.lt_succ_self _
        · exact step is
      · exact step is

/-- The word, in any case. -/
def is_check (token : Token) : Prop := token.lower = .word "check".toList

instance decidable_is_check (token : Token) : Decidable (is_check token) := inferInstanceAs (Decidable (_ = _))

/-- What stands in the parentheses behind each `CHECK`. -/
def bodies (tokens : List Token) : Scanned (List (List Token)) :=
  match tokens with
  | [] => .ok []
  | token :: rest =>
    if is_check token then match rest with
      | .other '(' :: inside => match _found : clause 1 inside with
        | none => .error UNTERMINATED_CHECK
        | some found => (bodies found.2).map (found.1 :: ·)
      | _ => .error INVALID_CHECK
    else bodies rest
termination_by tokens.length
decreasing_by
  · exact (clause_length _found).trans (by simp)
  · exact Nat.lt_succ_self _

/-- A word of which `CHECK` is no part between dollar signs, unless it is all
    of it. -/
def Checkless (text : Text) : Prop := ∀ before five after, text = before ++ (five ++ after) → five.map Char.toLower = "check".toList →
  (before = [] ∨ before.getLast? = some '$') → (after = [] ∨ after.head? = some '$') → before = [] ∧ after = []

/-- Tokens of a text whose words stand apart from all that a regular expression
    takes for a part of a word. -/
inductive Parted (letters : Letters) : Option Char → Text → List Token → Text → Prop
  | done {previous : Option Char} {rest : Text} : Parted letters previous rest [] rest
  | gap {previous : Option Char} {gap sql rest : Text} {tokens : List Token} : Gap gap → Parted letters gap.getLast? sql tokens rest →
      Parted letters previous (gap ++ sql) tokens rest
  | token {previous : Option Char} {token : Token} {sql rest : Text} {tokens : List Token} : Stands token sql.head? →
      (∀ text, token = .word text →
        previous.any (part_of_word letters) = false ∧ sql.head?.any (part_of_word letters) = false ∧ Checkless text) →
      Parted letters token.text.getLast? sql tokens rest → Parted letters previous (token.text ++ sql) (token :: tokens) rest

theorem lexes_of_parted {letters : Letters} {previous : Option Char} {sql rest : Text} {tokens : List Token}
    (parted : Parted letters previous sql tokens rest) : Lexes sql tokens rest := by
  induction parted with
  | done => exact .done
  | gap is_gap _ ih => exact .gap is_gap ih
  | token stands _ _ ih => exact .token stands ih

/-! ### Text that a loop reads one by one -/

/-- Characters at which no comment and no quoted text begins. -/
def PlainRun (sql : Text) : Text → Prop
  | [] => True
  | c :: text => lead (c :: (text ++ sql)) = .ok .plain ∧ PlainRun sql text

theorem plain_run_apart {sql text : Text} (apart : ∀ c ∈ text, is_quote c = false ∧ c ≠ '-' ∧ c ≠ '/') : PlainRun sql text := by
  induction text with
  | nil => trivial
  | cons c text ih =>
    obtain ⟨⟨not_quote, not_dash, not_slash⟩, later⟩ := List.forall_mem_cons.mp apart
    exact ⟨lead_plain not_quote (no_comment not_dash not_slash _), ih later⟩

/-- A token in quotes is read at once, any other one by one. -/
theorem plain_run {token : Token} {sql : Text} (stands : Stands token sql.head?) (unquoted : ∀ text, token ≠ .quoted text) :
    PlainRun sql token.text := by
  cases stands with
  | word filled all _ =>
    refine plain_run_apart fun c member => ⟨word_not_quote (all c member), ?_, ?_⟩
    · rintro rfl
      cases all _ member
    · rintro rfl
      cases all _ member
  | quoted _ _ _ => exact absurd rfl (unquoted _)
  | operator listed longest =>
    have tails : ∀ text ∈ OPERATORS, text.tail.all (fun c => !is_quote c && c ≠ '-' && c ≠ '/') = true := by decide
    have tail := tails _ listed
    obtain ⟨c, d, more, rfl, visible, not_quote, not_word, no_comment⟩ := operator_head listed
    refine ⟨lead_plain not_quote no_comment, plain_run_apart fun e member => ?_⟩
    have apart := List.all_eq_true.mp tail e member
    simp only [Bool.and_eq_true, Bool.not_eq_true', decide_eq_true_eq] at apart
    exact ⟨apart.1.1, apart.1.2, apart.2⟩
  | other visible not_quote not_word no_operator no_comment => exact ⟨lead_plain not_quote no_comment, trivial⟩

/-- Only a parenthesis of its own is one outside quotes. -/
theorem not_paren {token : Token} {next : Option Char} (stands : Stands token next) (unquoted : ∀ text, token ≠ .quoted text)
    (not_open : token ≠ .other '(') (not_close : token ≠ .other ')') : ∀ c ∈ token.text, c ≠ '(' ∧ c ≠ ')' := by
  intro c member
  cases stands with
  | word _ all _ =>
    constructor
    · rintro rfl
      cases all _ member
    · rintro rfl
      cases all _ member
  | quoted _ _ _ => exact absurd rfl (unquoted _)
  | operator listed _ =>
    have apart : ∀ text ∈ OPERATORS, '(' ∉ text ∧ ')' ∉ text := by decide
    obtain ⟨no_open, no_close⟩ := apart _ listed
    exact ⟨fun is => no_open (is ▸ member), fun is => no_close (is ▸ member)⟩
  | other _ _ _ _ _ =>
    cases List.mem_singleton.mp member
    exact ⟨fun is => not_open (congrArg _ is), fun is => not_close (congrArg _ is)⟩

/-! ### Balanced parentheses -/

section
variable {unbalanced : Text}

theorem balanced_comment {depth : Nat} {sql skipped after : Text} (is : lead sql = .ok (.comment skipped after)) :
    balanced unbalanced depth sql = (balanced unbalanced depth after).map fun found => (skipped ++ found.1, found.2) := by
  cases sql with
  | nil => cases is
  | cons c rest =>
    rw [balanced]
    split <;> simp_all

theorem balanced_quoted {depth : Nat} {sql skipped after : Text} (is : lead sql = .ok (.quoted skipped after)) :
    balanced unbalanced depth sql = (balanced unbalanced depth after).map fun found => (skipped ++ found.1, found.2) := by
  cases sql with
  | nil => cases is
  | cons c rest =>
    rw [balanced]
    split <;> simp_all

theorem balanced_plain (unbalanced : Text) {depth : Nat} {c : Char} {rest : Text} (is : lead (c :: rest) = .ok .plain) :
    balanced unbalanced depth (c :: rest) =
      if c = '(' then (balanced unbalanced (depth + 1) rest).map fun found => (c :: found.1, found.2)
      else if c = ')' then
        if depth = 1 then .ok ([], rest) else (balanced unbalanced (depth - 1) rest).map fun found => (c :: found.1, found.2)
      else (balanced unbalanced depth rest).map fun found => (c :: found.1, found.2) := by
  rw [balanced]
  split <;> simp_all

theorem balanced_run {depth : Nat} {text sql : Text} (run : PlainRun sql text) (apart : ∀ c ∈ text, c ≠ '(' ∧ c ≠ ')') :
    balanced unbalanced depth (text ++ sql) = (balanced unbalanced depth sql).map fun found => (text ++ found.1, found.2) := by
  induction text with
  | nil =>
    rw [List.nil_append]
    cases balanced unbalanced depth sql <;> rfl
  | cons c text ih =>
    obtain ⟨not_paren, later⟩ := List.forall_mem_cons.mp apart
    rw [List.cons_append, balanced_plain unbalanced run.1, if_neg not_paren.1, if_neg not_paren.2, ih run.2 later]
    cases balanced unbalanced depth sql <;> rfl

end

section
variable {letters : Letters} {previous : Option Char} {unbalanced sql rest : Text} {tokens : List Token}

theorem balanced_end (ends : Ends rest) (depth : Nat) : balanced unbalanced depth rest = .error unbalanced := by
  rcases lead_end ends with rfl | comment
  · rw [balanced]
  · rw [balanced_comment comment, balanced]
    rfl

theorem balanced_gap {gap : Text} (is_gap : Gap gap) (depth : Nat) (sql : Text) : balanced unbalanced depth (gap ++ sql) =
    (balanced unbalanced depth sql).map fun found => (gap ++ found.1, found.2) := by
  rcases lead_gap is_gap sql with ⟨c, rfl, blank, plain⟩ | comment
  · have not_paren : c ≠ '(' ∧ c ≠ ')' := ⟨space_apart blank (by decide), space_apart blank (by decide)⟩
    exact balanced_run ⟨plain, trivial⟩ (by simpa using not_paren)
  · exact balanced_comment comment

/-- No token but a parenthesis holds one that counts. -/
theorem balanced_token {token : Token} (stands : Stands token sql.head?) (depth : Nat) (not_open : token ≠ .other '(')
    (not_close : token ≠ .other ')') : balanced unbalanced depth (token.text ++ sql) =
      (balanced unbalanced depth sql).map fun found => (token.text ++ found.1, found.2) := by
  by_cases unquoted : ∀ text, token ≠ .quoted text
  · exact balanced_run (plain_run stands unquoted) (not_paren stands unquoted not_open not_close)
  · simp only [ne_eq, not_forall, not_not] at unquoted
    obtain ⟨text, rfl⟩ := unquoted
    exact balanced_quoted (lead_quoted stands)

theorem balanced_open (depth : Nat) (sql : Text) :
    balanced unbalanced depth ('(' :: sql) =
      (balanced unbalanced (depth + 1) sql).map fun found => ('(' :: found.1, found.2) :=
  (balanced_plain unbalanced (lead_plain rfl (no_comment (by decide) (by decide) _))).trans (if_pos rfl)

/-- A clause of the tokens is one of the text. -/
theorem balanced_lexes (unbalanced : Text) (parted : Parted letters previous sql tokens rest) (ends : Ends rest) (depth : Nat) :
    (clause depth tokens = none → balanced unbalanced depth sql = .error unbalanced) ∧
      ∀ found, clause depth tokens = some found → ∃ text after, balanced unbalanced depth sql = .ok (text, after) ∧
        sql = text ++ ')' :: after ∧ Lexes text found.1 [] ∧ Parted letters (some ')') after found.2 rest := by
  induction parted generalizing depth with
  | done => exact ⟨fun _ => balanced_end ends depth, fun _ is => by cases is⟩
  | @gap _ gap sql rest tokens is_gap _ ih =>
    obtain ⟨none, found⟩ := ih ends depth
    refine ⟨fun is => by rw [balanced_gap is_gap, none is]; rfl, fun inner is => ?_⟩
    obtain ⟨text, after, read, split, lexes, parted⟩ := found inner is
    refine ⟨gap ++ text, after, by rw [balanced_gap is_gap, read]; rfl, by rw [split, List.append_assoc], .gap is_gap lexes, parted⟩
  | @token _ token sql rest tokens stands _ parted ih =>
    -- the token stands before what is left of the clause as well
    have before : ∀ {text after : Text}, sql = text ++ ')' :: after → Stands token text.head? := by
      rintro text after rfl
      cases text with
      | nil => exact stands_none stands
      | cons c text => exact stands
    have step : ∀ depth', clause depth (token :: tokens) = (clause depth' tokens).map (fun found => (token :: found.1, found.2)) →
        balanced unbalanced depth (token.text ++ sql) =
          (balanced unbalanced depth' sql).map (fun found => (token.text ++ found.1, found.2)) →
        (clause depth (token :: tokens) = none → balanced unbalanced depth (token.text ++ sql) = .error unbalanced) ∧
          ∀ found, clause depth (token :: tokens) = some found →
            ∃ text after, balanced unbalanced depth (token.text ++ sql) = .ok (text, after) ∧
              token.text ++ sql = text ++ ')' :: after ∧ Lexes text found.1 [] ∧ Parted letters (some ')') after found.2 rest := by
      intro depth' counted read
      obtain ⟨none, found⟩ := ih ends depth'
      rw [counted, read]
      refine ⟨fun is => by rw [none (Option.map_eq_none_iff.mp is)]; rfl, fun outer is => ?_⟩
      obtain ⟨inner, counted_inner, rfl⟩ := Option.map_eq_some_iff.mp is
      obtain ⟨text, after, read, split, lexes, parted⟩ := found inner counted_inner
      exact ⟨token.text ++ text, after, by rw [read]; rfl, by rw [split, List.append_assoc], .token (before split) lexes, parted⟩
    by_cases opens : token = .other '('
    · subst opens
      exact step (depth + 1) (if_pos rfl) (balanced_open depth sql)
    by_cases closes : token = .other ')'
    · subst closes
      have plain : lead (')' :: sql) = .ok .plain := lead_plain rfl (no_comment (by decide) (by decide) _)
      have read : balanced unbalanced depth (')' :: sql) = _ := balanced_plain unbalanced plain
      rw [if_neg (by decide), if_pos rfl] at read
      have counted : clause depth (.other ')' :: tokens) = _ := (if_neg (by decide)).trans (if_pos rfl)
      by_cases outermost : depth = 1
      · rw [if_pos outermost] at read counted
        rw [counted]
        refine ⟨fun is => (by cases is), fun found is => ?_⟩
        cases is
        exact ⟨[], sql, read, rfl, .done, parted⟩
      · rw [if_neg outermost] at read counted
        exact step (depth - 1) counted read
    · exact step depth ((if_neg opens).trans (if_neg closes)) (balanced_token stands depth opens closes)

end

/-! ### Gaps -/

section
variable {letters : Letters} {previous : Option Char} {sql rest : Text} {tokens : List Token}

theorem first_visible {token : Token} {next : Option Char} (stands : Stands token next) :
    ∃ c more, token.text = c :: more ∧ isSpace c = false := by
  cases stands with
  | word filled all _ =>
    obtain ⟨c, more, rfl⟩ := List.exists_cons_of_ne_nil filled
    exact ⟨c, more, rfl, word_not_space (all c List.mem_cons_self)⟩
  | @quoted opening _ _ quote _ _ =>
    refine ⟨opening, _, rfl, Bool.eq_false_iff.mpr fun blank => ?_⟩
    rw [space_not_quote blank] at quote
    cases quote
  | operator listed _ =>
    obtain ⟨c, d, more, rfl, visible, _⟩ := operator_head listed
    exact ⟨c, d :: more, rfl, visible⟩
  | @other c _ visible _ _ _ _ => exact ⟨c, [], rfl, visible⟩

theorem comment_of_lead {skipped after : Text} (is : lead sql = .ok (.comment skipped after)) :
    skip_sql_comment sql = .ok (some (skipped, after)) := by
  cases sql with
  | nil => cases is
  | cons c sql =>
    obtain ⟨found, read, is⟩ := bind_eq_ok.mp is
    cases found with
    | some found =>
      cases is
      exact read
    | none =>
      simp only at is
      split at is
      · obtain ⟨quoted, _, is⟩ := bind_eq_ok.mp is
        cases is
      · cases is

theorem no_comment_of_lead {found : Lead} (is : lead sql = .ok found) (apart : ∀ skipped after, found ≠ .comment skipped after) :
    skip_sql_comment sql = .ok none := by
  cases sql with
  | nil => rfl
  | cons c sql =>
    obtain ⟨comment, read, is⟩ := bind_eq_ok.mp is
    cases comment with
    | some comment =>
      cases is
      exact absurd rfl (apart _ _)
    | none => exact read

theorem skip_gap_comment {skipped after : Text} (is : lead sql = .ok (.comment skipped after)) : skip_gap sql = skip_gap after := by
  have read := comment_of_lead is
  cases sql with
  | nil => cases is
  | cons c sql =>
    rw [skip_gap]
    split <;> simp_all

theorem skip_gap_none {c : Char} (none : skip_sql_comment (c :: sql) = .ok none) :
    skip_gap (c :: sql) = if isSpace c then skip_gap sql else .ok (c :: sql) := by
  rw [skip_gap]
  split <;> simp_all

theorem skip_gap_token {token : Token} (stands : Stands token sql.head?) : skip_gap (token.text ++ sql) = .ok (token.text ++ sql) := by
  obtain ⟨c, more, is, visible⟩ := first_visible stands
  have none : skip_sql_comment (token.text ++ sql) = .ok none := by
    by_cases unquoted : ∀ text, token ≠ .quoted text
    · have run := plain_run stands unquoted
      rw [is] at run ⊢
      exact no_comment_of_lead run.1 fun _ _ is => Lead.noConfusion is
    · simp only [ne_eq, not_forall, not_not] at unquoted
      obtain ⟨text, rfl⟩ := unquoted
      exact no_comment_of_lead (lead_quoted stands) fun _ _ is => Lead.noConfusion is
  rw [is] at none ⊢
  exact (skip_gap_none none).trans (if_neg (by rw [visible]; exact Bool.false_ne_true))

/-- What a gap is skipped for is the next token. -/
theorem skip_gap_parted (parted : Parted letters previous sql tokens rest) (ends : Ends rest) :
    (tokens = [] → skip_gap sql = .ok []) ∧ ∀ token later, tokens = token :: later → ∃ after, skip_gap sql = .ok (token.text ++ after) ∧
      Stands token after.head? ∧ Parted letters token.text.getLast? after later rest := by
  induction parted with
  | done =>
    refine ⟨fun _ => ?_, fun _ _ is => by cases is⟩
    rcases lead_end ends with rfl | comment
    · rw [skip_gap]
    · rw [skip_gap_comment comment, skip_gap]
  | @gap _ gap sql rest tokens is_gap _ ih =>
    have skipped : skip_gap (gap ++ sql) = skip_gap sql := by
      rcases lead_gap is_gap sql with ⟨c, rfl, blank, plain⟩ | comment
      · exact (skip_gap_none (no_comment_of_lead plain fun _ _ is => Lead.noConfusion is)).trans (if_pos blank)
      · exact skip_gap_comment comment
    rw [skipped]
    exact ih ends
  | @token _ token sql rest tokens stands _ parted _ =>
    refine ⟨fun is => (by cases is), fun first later is => ?_⟩
    cases is
    exact ⟨sql, skip_gap_token stands, stands, parted⟩

end

/-! ### The loop -/

section
variable {letters : Letters} {previous : Option Char} {sql rest : Text}

theorem check_comment {skipped after : Text} (is : lead sql = .ok (.comment skipped after)) :
    check_clauses_from letters previous sql = check_clauses_from letters skipped.getLast? after := by
  cases sql with
  | nil => cases is
  | cons c sql =>
    rw [check_clauses_from]
    split <;> simp_all

theorem check_quoted {skipped after : Text} (is : lead sql = .ok (.quoted skipped after)) :
    check_clauses_from letters previous sql = check_clauses_from letters skipped.getLast? after := by
  cases sql with
  | nil => cases is
  | cons c sql =>
    rw [check_clauses_from]
    split <;> simp_all

theorem check_step {c : Char} (plain : lead (c :: sql) = .ok .plain)
    (other : match_check letters (c :: sql) = none ∨ previous.any (part_of_word letters) = true) :
    check_clauses_from letters previous (c :: sql) = check_clauses_from letters (some c) sql := by
  rw [check_clauses_from]
  split
  · simp_all
  · simp_all
  · simp_all
  · split
    · rfl
    · rename_i found
      rw [found] at other
      rcases other with none | inside
      · cases none
      · rw [if_pos inside]

section
variable {c : Char} {after : Text} (plain : lead (c :: sql) = .ok .plain) (found : match_check letters (c :: sql) = some after)
  (bounded : previous.any (part_of_word letters) = false)
include plain found bounded

theorem check_invalid {next : Text} (gap : skip_gap after = .ok next) (no_open : next.head? ≠ some '(') :
    check_clauses_from letters previous (c :: sql) = .error INVALID_CHECK := by
  rw [check_clauses_from]
  split
  · simp_all
  · simp_all
  · simp_all
  · split
    · simp_all
    · rename_i again
      cases found.symm.trans again
      rw [bounded, if_neg Bool.false_ne_true]
      split
      · simp_all
      · rename_i opened
        rw [opened] at gap
        cases gap
        exact absurd rfl no_open
      · rfl

theorem check_unterminated {inside : Text} (gap : skip_gap after = .ok ('(' :: inside))
    (read : balanced UNTERMINATED_CHECK 1 inside = .error UNTERMINATED_CHECK) :
    check_clauses_from letters previous (c :: sql) = .error UNTERMINATED_CHECK := by
  rw [check_clauses_from]
  split
  · simp_all
  · simp_all
  · simp_all
  · split
    · simp_all
    · rename_i again
      cases found.symm.trans again
      rw [bounded, if_neg Bool.false_ne_true]
      split
      · simp_all
      · rename_i opened
        rw [gap] at opened
        cases opened
        split <;> simp_all
      · rename_i apart opened
        cases gap.symm.trans opened
        exact (apart _ rfl).elim

theorem check_clause {inside : Text} {clause : Text × Text} (gap : skip_gap after = .ok ('(' :: inside))
    (read : balanced UNTERMINATED_CHECK 1 inside = .ok clause) : check_clauses_from letters previous (c :: sql) = (do
      let expression ← canonical_sql_fragment letters (some clause.1)
      return expression.getD "None".toList :: (← check_clauses_from letters (some ')') clause.2)) := by
  rw [check_clauses_from]
  split
  · simp_all
  · simp_all
  · simp_all
  · split
    · simp_all
    · rename_i again
      cases found.symm.trans again
      rw [bounded, if_neg Bool.false_ne_true]
      split
      · simp_all
      · rename_i opened
        rw [gap] at opened
        cases opened
        split
        · simp_all
        · rename_i again
          cases read.symm.trans again
          rfl
      · rename_i apart opened
        cases gap.symm.trans opened
        exact (apart _ rfl).elim

end

end

/-! ### Words -/

section
variable {letters : Letters} {previous : Option Char} {sql : Text}

theorem matches_letters_split {allowed : List (List Char)} {after : Text} (is : matches_letters allowed sql = some after) :
    ∃ found, sql = found ++ after ∧ List.Forall₂ (fun c few => c ∈ few) found allowed := by
  induction allowed generalizing sql with
  | nil =>
    cases is
    exact ⟨[], rfl, .nil⟩
  | cons few allowed ih =>
    cases sql with
    | nil => cases is
    | cons c sql =>
      rw [matches_letters] at is
      split at is
      · rename_i member
        obtain ⟨found, rfl, all⟩ := ih is
        exact ⟨c :: found, rfl, .cons member all⟩
      · cases is

theorem matches_letters_append {allowed : List (List Char)} {found : Text} (all : List.Forall₂ (fun c few => c ∈ few) found allowed)
    (after : Text) : matches_letters allowed (found ++ after) = some after := by
  induction all with
  | nil => rfl
  | cons member _ ih =>
    rw [List.cons_append, matches_letters, if_pos member]
    exact ih

theorem matches_letters_lower {allowed : List (List Char)} {found word : Text} (all : List.Forall₂ (fun c few => c ∈ few) found allowed)
    (lower : List.Forall₂ (fun few d => ∀ c ∈ few, c.toNat < 128 → c.toLower = d) allowed word) (ascii : ∀ c ∈ found, c.toNat < 128) :
    found.map Char.toLower = word := by
  induction all generalizing word with
  | nil => cases lower; rfl
  | cons member _ ih =>
    obtain ⟨here, others⟩ := List.forall_mem_cons.mp ascii
    cases lower with
    | cons first more => rw [List.map_cons, first _ member here, ih more others]

theorem check_lower : List.Forall₂ (fun few d => ∀ c ∈ few, c.toNat < 128 → c.toLower = d) CHECK "check".toList := by
  have letters : "check".toList = ['c', 'h', 'e', 'c', 'k'] := rfl
  rw [letters]
  refine .cons ?_ (.cons ?_ (.cons ?_ (.cons ?_ (.cons ?_ .nil)))) <;> simp

theorem mem_allowed {allowed : List (List Char)} {found : Text} (all : List.Forall₂ (fun c few => c ∈ few) found allowed) {c : Char}
    (member : c ∈ found) : ∃ few ∈ allowed, c ∈ few := by
  induction all with
  | nil => cases member
  | cons first _ ih =>
    rcases List.mem_cons.mp member with rfl | member
    · exact ⟨_, List.mem_cons_self, first⟩
    · obtain ⟨few, listed, inside⟩ := ih member
      exact ⟨few, List.mem_cons_of_mem _ listed, inside⟩

/-- What `check` is matched with is part of a word. -/
theorem check_part (letters : Letters) {found : Text} (all : List.Forall₂ (fun c few => c ∈ few) found CHECK) :
    ∀ c ∈ found, part_of_word letters c = true := by
  have listed : ∀ few ∈ CHECK, ∀ c ∈ few, (c.toNat < 128 ∧ c.isAlphanum = true) ∨ c = '\u212A' := by simp [CHECK]
  intro c member
  obtain ⟨few, allowed, inside⟩ := mem_allowed all member
  rcases listed few allowed c inside with ⟨ascii, letter⟩ | rfl
  · simp [part_of_word, letters.isalnum_ascii c ascii, letter]
  · simp [part_of_word, letters.isalnum_kelvin]

/-- Between words that are joined there is a dollar sign. -/
theorem dollar {c : Char} (inside : word_character c = true) (outside : part_of_word letters c = false) : c = '$' := by
  rw [part_of_word, letters.isalnum_ascii c (word_ascii inside)] at outside
  simp only [word_character, Bool.or_eq_true, decide_eq_true_eq, Bool.or_eq_false_iff, decide_eq_false_iff_not] at inside outside
  rcases inside with (letter | same) | same
  · rw [outside.1] at letter
    cases letter
  · exact absurd same outside.2
  · exact same

theorem match_check_split {after : Text} (is : match_check letters sql = some after) :
    matches_letters CHECK sql = some after ∧ after.head?.any (part_of_word letters) = false := by
  obtain ⟨matched, bounded⟩ := Option.filter_eq_some_iff.mp is
  exact ⟨matched, by simpa using bounded⟩

theorem match_check_first {c : Char} (other : c ∉ ['c', 'C']) : match_check letters (c :: sql) = none := by
  rw [match_check, CHECK, matches_letters, if_neg other]
  rfl

/-- What a match within a word has before it and behind it. -/
theorem match_within {word after : Text} (all : ∀ c ∈ word, word_character c = true) (next : sql.head?.any (part_of_word letters) = false)
    (is : match_check letters (word ++ sql) = some after) : ∃ five more, word = five ++ more ∧ five.map Char.toLower = "check".toList ∧
      (more = [] ∨ more.head? = some '$') := by
  obtain ⟨matched, bounded⟩ := match_check_split is
  obtain ⟨five, split, found⟩ := matches_letters_split matched
  rcases List.append_eq_append_iff.mp split with ⟨more, five_is, sql_is⟩ | ⟨more, word_is, after_is⟩
  · -- past the word there is no part of one
    cases more with
    | nil =>
      rw [List.append_nil] at five_is
      subst five_is
      exact ⟨five, [], (List.append_nil _).symm, matches_letters_lower found check_lower fun c member => word_ascii (all c member), Or.inl rfl⟩
    | cons d more =>
      have part := check_part letters found d (by rw [five_is]; simp)
      rw [sql_is] at next
      exact absurd part (Bool.eq_false_iff.mp next)
  · subst word_is
    refine ⟨five, more, rfl, matches_letters_lower found check_lower fun c member => word_ascii (all c (List.mem_append_left _ member)), ?_⟩
    cases more with
    | nil => exact Or.inl rfl
    | cons d more =>
      rw [after_is] at bounded
      exact Or.inr (congrArg some (dollar (all d (by simp)) bounded))

/-- The loop goes past a word that is not `CHECK`. -/
theorem check_word {word : Text} (all : ∀ c ∈ word, word_character c = true) (next : sql.head?.any (part_of_word letters) = false)
    (checkless : Checkless word) (other : ¬is_check (.word word)) (before now : Text) (split : word = before ++ now) :
    check_clauses_from letters (before.getLast?.or previous) (now ++ sql) = check_clauses_from letters (word.getLast?.or previous) sql := by
  induction now generalizing before with
  | nil => rw [split, List.append_nil, List.nil_append]
  | cons c now ih =>
    have inside : ∀ d ∈ c :: now, word_character d = true := fun d member => all d (split ▸ List.mem_append_right _ member)
    have skipped : match_check letters (c :: (now ++ sql)) = none ∨ (before.getLast?.or previous).any (part_of_word letters) = true := by
      cases found : match_check letters (c :: (now ++ sql)) with
      | none => exact Or.inl rfl
      | some after =>
        refine Or.inr (Bool.not_eq_false _ |>.mp fun outside => ?_)
        obtain ⟨five, more, now_is, lower, behind⟩ := match_within inside next found
        rw [now_is] at split
        have ahead : before = [] ∨ before.getLast? = some '$' := by
          cases last : before.getLast? with
          | none => exact Or.inl (List.getLast?_eq_none_iff.mp last)
          | some d =>
            rw [last] at outside
            have member : d ∈ word := split ▸ List.mem_append_left _ (List.mem_of_getLast? last)
            exact Or.inr (congrArg some (dollar (all d member) outside))
        obtain ⟨rfl, rfl⟩ := checkless before five more split lower ahead behind
        rw [List.nil_append, List.append_nil] at split
        exact other (by rw [is_check, Token.lower, split, lower])
    rw [List.cons_append, check_step (lead_word (inside c List.mem_cons_self) _) skipped]
    have moved := ih (before ++ [c]) (by rw [split, List.append_assoc]; rfl)
    rw [List.getLast?_concat] at moved
    exact moved

/-- No clause begins in characters that `check` does not begin with. -/
theorem check_run {text : Text} (run : PlainRun sql text) (other : ∀ c ∈ text, c ∉ ['c', 'C']) :
    check_clauses_from letters previous (text ++ sql) = check_clauses_from letters (text.getLast?.or previous) sql := by
  induction text generalizing previous with
  | nil => rfl
  | cons c text ih =>
    obtain ⟨first, later⟩ := List.forall_mem_cons.mp other
    rw [List.cons_append, check_step run.1 (Or.inl (match_check_first first)), ih run.2 later]
    cases text with
    | nil => rfl
    | cons d text => rw [List.getLast?_cons_cons]; simp [List.getLast?_cons]

theorem check_gap {gap : Text} (is_gap : Gap gap) :
    check_clauses_from letters previous (gap ++ sql) = check_clauses_from letters gap.getLast? sql := by
  rcases lead_gap is_gap sql with ⟨c, rfl, blank, plain⟩ | comment
  · have other : c ∉ ['c', 'C'] := by
      simp only [List.mem_cons, List.not_mem_nil, or_false, not_or]
      exact ⟨space_apart blank (by decide), space_apart blank (by decide)⟩
    exact check_step plain (Or.inl (match_check_first other))
  · exact check_comment comment

/-- The loop goes past a token that is not `CHECK`. -/
theorem check_token {token : Token} (stands : Stands token sql.head?)
    (apart : ∀ text, token = .word text →
      previous.any (part_of_word letters) = false ∧ sql.head?.any (part_of_word letters) = false ∧ Checkless text)
    (other : ¬is_check token) :
    check_clauses_from letters previous (token.text ++ sql) = check_clauses_from letters token.text.getLast? sql := by
  obtain ⟨last, ends⟩ : ∃ c, token.text.getLast? = some c :=
    ⟨_, List.getLast?_eq_some_getLast (text_ne_nil stands)⟩
  have passed : check_clauses_from letters previous (token.text ++ sql) = check_clauses_from letters (token.text.getLast?.or previous) sql ∨
      check_clauses_from letters previous (token.text ++ sql) = check_clauses_from letters token.text.getLast? sql := by
    cases token with
    | word text =>
      obtain ⟨_, next, checkless⟩ := apart text rfl
      cases stands with
      | word _ all _ => exact Or.inl (check_word all next checkless other [] text rfl)
    | quoted text => exact Or.inr (check_quoted (lead_quoted stands))
    | operator text =>
      refine Or.inl (check_run (plain_run stands fun _ => nofun) fun c member => ?_)
      cases stands with
      | operator listed _ =>
        have letterless : ∀ text ∈ OPERATORS, 'c' ∉ text ∧ 'C' ∉ text := by decide
        obtain ⟨no_small, no_capital⟩ := letterless _ listed
        intro letter
        rcases List.mem_cons.mp letter with rfl | letter
        · exact no_small member
        · cases List.mem_singleton.mp letter
          exact no_capital member
    | other c =>
      refine Or.inl (check_run (plain_run stands fun _ => nofun) fun d member => ?_)
      cases List.mem_singleton.mp member
      cases stands with
      | other _ _ not_word _ _ =>
        intro letter
        rcases List.mem_cons.mp letter with rfl | letter
        · cases not_word
        · cases List.mem_singleton.mp letter
          cases not_word
  rw [ends] at passed ⊢
  rcases passed with passed | passed
  · exact passed
  · exact passed

end

/-! ### Clauses of a text -/

section
variable {token : Token} {tokens : List Token}

theorem bodies_other (other : ¬is_check token) : bodies (token :: tokens) = bodies tokens := by
  rw [bodies.eq_def]
  exact if_neg other

theorem bodies_end (check : is_check token) : bodies [token] = .error INVALID_CHECK := by
  rw [bodies.eq_def]
  exact if_pos check

theorem bodies_invalid {next : Token} (check : is_check token) (no_open : next ≠ .other '(') :
    bodies (token :: next :: tokens) = .error INVALID_CHECK := by
  rw [bodies.eq_def]
  refine (if_pos check).trans ?_
  split
  · rename_i is
    exact absurd (List.cons.inj is).1 no_open
  · rfl

theorem bodies_unterminated (check : is_check token) (none : clause 1 tokens = none) :
    bodies (token :: .other '(' :: tokens) = .error UNTERMINATED_CHECK := by
  rw [bodies, if_pos check]
  split <;> simp_all

theorem bodies_clause {found : List Token × List Token} (check : is_check token) (is : clause 1 tokens = some found) :
    bodies (token :: .other '(' :: tokens) = (bodies found.2).map (found.1 :: ·) := by
  rw [bodies, if_pos check]
  split <;> simp_all

end

section
variable {letters : Letters} {previous : Option Char} {sql rest : Text} {tokens : List Token}

/-- The canonical form of tokens. -/
def canonical_of (letters : Letters) (tokens : List Token) : Text := join " ".toList (tokens.map (Token.folded letters))

theorem check_end (ends : Ends rest) : check_clauses_from letters previous rest = .ok [] := by
  rcases lead_end ends with rfl | comment
  · rw [check_clauses_from]
  · rw [check_comment comment, check_clauses_from]

theorem case_of_lower {c d : Char} (lower : c.toLower = d) : c = d ∨ c = d.toUpper := by
  by_cases upper : c.isUpper = true
  · right
    rw [← lower, Char.toUpper_toLower_eq_toUpper, Char.toUpper_eq_of_not_isLower (Char.not_isLower_of_isUpper upper)]
  · left
    rw [← lower, Char.toLower_eq_of_not_isUpper upper]

theorem allowed_of_lower {word : Text} {allowed : List (List Char)}
    (all : List.Forall₂ (fun d few => d ∈ few ∧ d.toUpper ∈ few) (word.map Char.toLower) allowed) :
    List.Forall₂ (fun c few => c ∈ few) word allowed := by
  rw [List.forall₂_map_left_iff] at all
  refine all.imp fun c few both => ?_
  rcases case_of_lower (rfl : c.toLower = c.toLower) with is | is
  · rw [is]
    exact both.1
  · rw [is]
    exact both.2

theorem check_allowed : List.Forall₂ (fun d few => d ∈ few ∧ d.toUpper ∈ few) "check".toList CHECK := by
  have letters : "check".toList = ['c', 'h', 'e', 'c', 'k'] := rfl
  rw [letters]
  refine .cons ?_ (.cons ?_ (.cons ?_ (.cons ?_ (.cons ?_ .nil)))) <;> decide

/-- A word that is `CHECK` is matched. -/
theorem match_check_word {word : Text} (check : is_check (.word word)) (next : sql.head?.any (part_of_word letters) = false) :
    match_check letters (word ++ sql) = some sql := by
  have lower : word.map Char.toLower = "check".toList := Token.word.inj check
  have allowed : List.Forall₂ (fun c few => c ∈ few) word CHECK := allowed_of_lower (lower ▸ check_allowed)
  rw [match_check, matches_letters_append allowed, Option.filter_some, next]
  rfl

theorem open_token {token : Token} {next : Option Char} (stands : Stands token next) {after : Text}
    (head : (token.text ++ after).head? = some '(') : token = .other '(' := by
  obtain ⟨c, more, is, _⟩ := first_visible stands
  rw [is] at head
  cases head
  have member : '(' ∈ token.text := by rw [is]; exact List.mem_cons_self
  cases stands with
  | word _ all _ => cases all _ member
  | quoted quote _ _ =>
    cases is
    cases quote
  | operator listed _ =>
    have apart : ∀ text ∈ OPERATORS, '(' ∉ text := by decide
    exact absurd member (apart _ listed)
  | other _ _ _ _ _ =>
    cases is
    rfl

/-- The loop finds the clauses of the tokens. -/
theorem check_parted (parted : Parted letters previous sql tokens rest) (ends : Ends rest) :
    check_clauses_from letters previous sql = (bodies tokens).map fun found => found.map (canonical_of letters) := by
  induction size : sql.length using Nat.strong_induction_on generalizing previous sql tokens with
  | _ n ih =>
    cases parted with
    | done =>
      rw [check_end ends, bodies]
      rfl
    | @gap _ gap sql _ _ is_gap parted =>
      obtain ⟨c, more, rfl, _⟩ := gap_head is_gap
      rw [check_gap is_gap]
      exact ih sql.length (by rw [← size, List.length_append, List.length_cons]; omega) parted rfl
    | @token _ token sql _ tokens stands apart parted =>
      obtain ⟨c, more, is, _⟩ := first_visible stands
      have shorter : sql.length < n := by rw [← size, List.length_append, is, List.length_cons]; omega
      by_cases check : is_check token
      · -- the word and what stands behind it
        cases token with
        | word word =>
          obtain ⟨bounded, next, _⟩ := apart word rfl
          cases is
          have inside : word_character c = true := by
            cases stands with
            | word _ all _ => exact all c List.mem_cons_self
          have plain := lead_word inside (more ++ sql)
          have found := match_check_word check next
          obtain ⟨nothing, first⟩ := skip_gap_parted parted ends
          cases tokens with
          | nil =>
            rw [bodies_end check]
            exact check_invalid plain found bounded (nothing rfl) (by simp)
          | cons second later =>
            obtain ⟨after, gap, stands', parted'⟩ := first second later rfl
            by_cases opens : second = .other '('
            · subst opens
              obtain ⟨unterminated, balanced⟩ := balanced_lexes UNTERMINATED_CHECK parted' ends 1
              cases clause_is : clause 1 later with
              | none =>
                rw [bodies_unterminated check clause_is]
                exact check_unterminated plain found bounded gap (unterminated clause_is)
              | some inner =>
                obtain ⟨text, last, read, split, lexes, parted_last⟩ := balanced inner clause_is
                have whole : Whole text inner.1 := ⟨[], lexes, Or.inl rfl⟩
                have shorter_last : last.length < n := by
                  have within := skip_gap_length gap
                  have longer := congrArg List.length split
                  simp only [List.length_append, List.length_cons, Token.text] at within longer
                  omega
                have others := ih last.length shorter_last parted_last rfl
                rw [bodies_clause check clause_is]
                refine (check_clause plain found bounded gap read).trans ?_
                rw [canonical_whole whole, others, ok_bind]
                cases bodies inner.2 <;> rfl
            · rw [bodies_invalid check opens]
              exact check_invalid plain found bounded gap fun head => opens (open_token stands' head)
        | quoted text => cases check
        | operator text => cases check
        | other c => cases check
      · rw [check_token stands apart check, bodies_other check]
        exact ih sql.length shorter parted rfl

end

/-! ### Texts whose words stand apart -/

section
variable {letters : Letters} {previous : Option Char} {sql rest : Text} {tokens : List Token}

theorem symbol_apart (letters : Letters) {c : Char} (ascii : c.toNat < 128) (not_word : word_character c = false) :
    part_of_word letters c = false := by
  simp only [word_character, Bool.or_eq_false_iff] at not_word
  rw [part_of_word, letters.isalnum_ascii c ascii, not_word.1.1, not_word.1.2]
  rfl

theorem space_not_part (letters : Letters) {c : Char} (blank : isSpace c = true) : part_of_word letters c = false := by
  rw [part_of_word, letters.isalnum_space c blank, decide_eq_false (space_apart blank (by decide))]
  rfl

theorem quote_not_part (letters : Letters) {c : Char} (quote : is_quote c = true) :
    part_of_word letters c = false ∧ part_of_word letters (closing_of c) = false := by
  simp only [is_quote, Bool.or_eq_true, decide_eq_true_eq] at quote
  rcases quote with ((rfl | rfl) | rfl) | rfl
  all_goals exact ⟨symbol_apart letters (by decide) (by decide), symbol_apart letters (by decide) (by decide)⟩

theorem gap_not_part (letters : Letters) {gap : Text} (is_gap : Gap gap) :
    gap.getLast?.any (part_of_word letters) = false ∧ ∀ sql, (gap ++ sql).head?.any (part_of_word letters) = false := by
  constructor
  · cases is_gap with
    | space blank => exact space_not_part letters blank
    | line _ =>
      rw [List.getLast?_concat]
      exact space_not_part letters (by decide)
    | @block body _ =>
      have last : ("/*".toList ++ body ++ "*/".toList).getLast? = some '/' := List.getLast?_append_of_ne_nil _ (by decide)
      rw [last]
      exact symbol_apart letters (by decide) (by decide)
  · intro sql
    obtain ⟨c, more, rfl, blank | rfl | rfl⟩ := gap_head is_gap
    · exact space_not_part letters blank
    · exact symbol_apart letters (by decide) (by decide)
    · exact symbol_apart letters (by decide) (by decide)

/-- A token that is no word touches no part of one. -/
theorem token_not_part (letters : Letters) {token : Token} {next : Option Char} (stands : Stands token next)
    (no_word : ∀ text, token ≠ .word text) (plain : ∀ c, token = .other c → letters.isalnum c = false) :
    token.text.getLast?.any (part_of_word letters) = false ∧ ∀ sql, (token.text ++ sql).head?.any (part_of_word letters) = false := by
  cases stands with
  | word _ _ _ => exact absurd rfl (no_word _)
  | @quoted opening body _ quote _ _ =>
    obtain ⟨opens, closes⟩ := quote_not_part letters quote
    refine ⟨?_, fun _ => opens⟩
    rw [Token.text, List.getLast?_concat]
    exact closes
  | @operator text _ listed _ =>
    have symbols : ∀ text ∈ OPERATORS, text.all (fun c => c.toNat < 128 && !word_character c) = true := by decide
    have apart : ∀ c ∈ text, part_of_word letters c = false := by
      intro c member
      have symbol := List.all_eq_true.mp (symbols _ listed) c member
      simp only [Bool.and_eq_true, decide_eq_true_eq, Bool.not_eq_true'] at symbol
      exact symbol_apart letters symbol.1 symbol.2
    obtain ⟨c, d, more, rfl, _⟩ := operator_head listed
    refine ⟨?_, fun _ => apart c List.mem_cons_self⟩
    rw [Token.text, List.getLast?_eq_some_getLast (List.cons_ne_nil _ _)]
    exact apart _ (List.getLast_mem _)
  | @other c _ _ _ not_word _ _ =>
    have not_part : part_of_word letters c = false := by
      simp only [word_character, Bool.or_eq_false_iff] at not_word
      rw [part_of_word, plain c rfl, not_word.1.2]
      rfl
    exact ⟨not_part, fun _ => not_part⟩

/-- What stands behind a word is no part of one. -/
theorem next_not_part (lexes : Lexes sql tokens rest) (ends : Ends rest) (plain : ∀ c, Token.other c ∈ tokens → letters.isalnum c = false)
    (boundary : sql.head?.any word_character = false) : sql.head?.any (part_of_word letters) = false := by
  cases lexes with
  | done =>
    rcases ends with rfl | ⟨body, rfl, _⟩
    · rfl
    · exact symbol_apart letters (by decide) (by decide)
  | gap is_gap _ => exact (gap_not_part letters is_gap).2 _
  | @token token _ _ _ stands _ =>
    cases token with
    | word text =>
      cases stands with
      | word filled all _ =>
        obtain ⟨c, more, rfl⟩ := List.exists_cons_of_ne_nil filled
        have inside : word_character c = true := all c List.mem_cons_self
        exact absurd (inside.symm.trans boundary) Bool.noConfusion
    | quoted text => exact (token_not_part letters stands nofun nofun).2 _
    | operator text => exact (token_not_part letters stands nofun nofun).2 _
    | other c =>
      refine (token_not_part letters stands nofun fun d is => ?_).2 _
      cases is
      exact plain c List.mem_cons_self

/-- So stand those of a text without letters and digits outside its words, none
    of which has `CHECK` between dollar signs. -/
theorem parted_of_lexes (lexes : Lexes sql tokens rest) (ends : Ends rest) (plain : ∀ c, Token.other c ∈ tokens → letters.isalnum c = false)
    (checkless : ∀ text, Token.word text ∈ tokens → Checkless text)
    (before : previous.any (part_of_word letters) = true → sql.head?.any word_character = false) : Parted letters previous sql tokens rest := by
  induction lexes generalizing previous with
  | done => exact .done
  | gap is_gap _ ih =>
    refine .gap is_gap (ih ends plain checkless fun inside => ?_)
    rw [(gap_not_part letters is_gap).1] at inside
    cases inside
  | @token token sql rest tokens stands later ih =>
    have plain_later : ∀ c, Token.other c ∈ tokens → letters.isalnum c = false := fun c member => plain c (List.mem_cons_of_mem _ member)
    have parted : (token.text.getLast?.any (part_of_word letters) = true → sql.head?.any word_character = false) →
        Parted letters token.text.getLast? sql tokens rest :=
      ih ends plain_later fun text member => checkless text (List.mem_cons_of_mem _ member)
    by_cases word : ∃ text, token = .word text
    · obtain ⟨text, rfl⟩ := word
      cases stands with
      | word filled all boundary =>
        refine .token (.word filled all boundary) (fun same is => ?_) (parted fun _ => boundary)
        cases is
        refine ⟨Bool.eq_false_iff.mpr fun inside => ?_, next_not_part later ends plain_later boundary, checkless text List.mem_cons_self⟩
        obtain ⟨c, more, rfl⟩ := List.exists_cons_of_ne_nil filled
        have first : word_character c = true := all c List.mem_cons_self
        exact absurd (first.symm.trans (before inside)) Bool.noConfusion
    · have no_word : ∀ text, token ≠ .word text := fun text is => word ⟨text, is⟩
      refine .token stands (fun text is => absurd is (no_word text)) (parted fun inside => ?_)
      rw [(token_not_part letters stands no_word fun c is => plain c (is ▸ List.mem_cons_self)).1] at inside
      cases inside

end

/-! ### Canonical forms -/

section
variable (letters : Letters)

/-- The canonical form of a text is that of its tokens up to the case of words,
    and its check clauses are those of its tokens. -/
theorem canonicalisation_exact :
    (∀ (sql : Text), (∃ found, sql_tokens letters sql = .ok found) ↔ ∃ tokens, Whole sql tokens) ∧
    (∀ (before gap rest : Text) (tokens others : List Token), Lexes (before ++ rest) tokens rest → Whole rest others → Gap gap →
      ¬(before.getLast? = some '-' ∧ gap.head? = some '-') →
      canonical_sql_fragment letters (some (before ++ (gap ++ rest))) = canonical_sql_fragment letters (some (before ++ rest))) ∧
    (∀ (sql other : Text) (tokens others : List Token), Whole sql tokens → Whole other others →
      tokens.map Token.lower = others.map Token.lower →
      canonical_sql_fragment letters (some sql) = canonical_sql_fragment letters (some other)) ∧
    (∀ (sql other : Text) (tokens others : List Token), Whole sql tokens → Whole other others → Settled letters tokens → Settled letters others →
      tokens.map Token.lower ≠ others.map Token.lower →
      canonical_sql_fragment letters (some sql) ≠ canonical_sql_fragment letters (some other)) ∧
    ∀ (sql rest : Text) (tokens : List Token), Parted letters none sql tokens rest → Ends rest →
      check_clauses letters (some sql) = (bodies tokens).map fun found => (found.map (canonical_of letters)).insertionSort (· ≤ ·) := by
  refine ⟨fun sql => ⟨?_, ?_⟩, ?_, ?_, ?_, ?_⟩
  · rintro ⟨found, read⟩
    exact whole_of_ok read
  · rintro ⟨tokens, whole⟩
    exact ⟨_, sql_tokens_whole letters whole⟩
  · intro before gap rest tokens others lexes whole is_gap apart
    exact canonical_gap letters lexes whole is_gap apart
  · intro sql other tokens others whole whole' same
    exact canonical_of_lower whole whole' same
  · intro sql other tokens others whole whole' settled settled' different same
    exact different ((canonical_iff letters whole whole' settled settled').mp same)
  · intro sql rest tokens parted ends
    rw [check_clauses, Option.getD_some, check_parted parted ends]
    cases bodies tokens <;> rfl

end

/-- ASCII, the long s and the Kelvin sign. -/
def latin : Letters where
  casefold c := if c = '\u017F' then ['s'] else if c = '\u212A' then ['k'] else [c.toLower]
  isalnum c := c.isAlphanum || c = '\u017F' || c = '\u212A'
  casefold_ascii c ascii := by
    have no_long : c ≠ '\u017F' := by rintro rfl; revert ascii; decide
    have no_kelvin : c ≠ '\u212A' := by rintro rfl; revert ascii; decide
    rw [if_neg no_long, if_neg no_kelvin]
  isalnum_ascii c ascii := by
    have no_long : c ≠ '\u017F' := by rintro rfl; revert ascii; decide
    have no_kelvin : c ≠ '\u212A' := by rintro rfl; revert ascii; decide
    simp [no_long, no_kelvin]
  isalnum_space c blank := by
    have no_long : c ≠ '\u017F' := space_apart blank (by decide)
    have no_kelvin : c ≠ '\u212A' := space_apart blank (by decide)
    have no_word : word_character c = false := Bool.eq_false_iff.mpr fun inside => by
      rw [word_not_space inside] at blank
      cases blank
    simp only [word_character, Bool.or_eq_false_iff] at no_word
    simp [no_word.1.1, no_long, no_kelvin]
  isalnum_kelvin := rfl

theorem lexes_word (word : Text) (filled : word ≠ []) (all : word.all word_character = true) {sql rest : Text} {tokens : List Token}
    (boundary : sql.head?.any word_character = false) (later : Lexes sql tokens rest) : Lexes (word ++ sql) (.word word :: tokens) rest :=
  .token (.word filled (List.all_eq_true.mp all) boundary) later

theorem lexes_clause (word : Text) (filled : word ≠ []) (all : word.all word_character = true) :
    Lexes (word ++ "(b)".toList) [.word word, .other '(', .word "b".toList, .other ')'] [] := by
  have closing : Lexes ")".toList [.other ')'] [] := .token (.other rfl rfl rfl (by decide) (by decide)) .done
  have opening : Lexes "(b)".toList [.other '(', .word "b".toList, .other ')'] [] :=
    .token (.other rfl rfl rfl (by decide) (by decide)) (lexes_word "b".toList (by decide) rfl rfl closing)
  exact lexes_word word filled all rfl opening

theorem lexes_subtraction : Lexes ("a -".toList ++ " b".toList) [.word "a".toList, .other '-'] " b".toList := by
  have dash : Lexes "- b".toList [.other '-'] " b".toList := .token (.other rfl rfl rfl (by decide) (by decide)) .done
  have space : Gap " ".toList := .space rfl
  exact lexes_word "a".toList (by decide) rfl rfl (.gap space dash)

theorem comment_gap : Gap "--c\n".toList := by
  have body : '\n' ∉ "c".toList := by decide
  exact .line body

/-- A comment behind a dash, one behind a word, and a clause. -/
theorem canonicalisation_exact_example :
    canonical_sql_fragment latin (some ("a -".toList ++ (" ".toList ++ " b".toList))) =
      canonical_sql_fragment latin (some ("a -".toList ++ " b".toList)) ∧
    check_clauses latin (some ("CHECK".toList ++ "(b)".toList)) = .ok ["b".toList] := by
  obtain ⟨_, gaps, _, _, clauses⟩ := canonicalisation_exact latin
  have after : Whole " b".toList [.word "b".toList] := by
    have space : Gap " ".toList := .space rfl
    exact ⟨[], .gap space (lexes_word "b".toList (by decide) rfl rfl .done), Or.inl rfl⟩
  refine ⟨gaps _ _ _ _ _ lexes_subtraction after (.space rfl) (by decide), ?_⟩
  have short : ∀ text : Text, text.length ≤ 5 → Checkless text := by
    intro text most before five rest split lower _ _
    have five_long := congrArg List.length lower
    rw [split] at most
    simp only [List.length_map, List.length_append, String.length_toList] at five_long most
    have five_is : five.length = 5 := five_long
    exact ⟨List.length_eq_zero_iff.mp (by omega), List.length_eq_zero_iff.mp (by omega)⟩
  have parted : Parted latin none ("CHECK".toList ++ "(b)".toList)
      [.word "CHECK".toList, .other '(', .word "b".toList, .other ')'] [] :=
    parted_of_lexes (lexes_clause "CHECK".toList (by decide) rfl) (Or.inl rfl) (by simp; decide) (by simp [short]) (by simp)
  exact (clauses _ _ _ parted (Or.inl rfl)).trans (by decide +kernel)

/-- A comment behind a dash begins one character early. Outside words characters
    are folded too, and a clause may begin behind a dollar sign. -/
theorem comment_behind_dash :
    (Lexes ("a -".toList ++ " b".toList) [.word "a".toList, .other '-'] " b".toList ∧ Gap "--c\n".toList ∧
      canonical_sql_fragment latin (some ("a -".toList ++ ("--c\n".toList ++ " b".toList))) ≠
        canonical_sql_fragment latin (some ("a -".toList ++ " b".toList))) ∧
    (Whole "\u017F".toList [.other '\u017F'] ∧ Whole "s".toList [.word "s".toList] ∧
      canonical_sql_fragment latin (some "\u017F".toList) = canonical_sql_fragment latin (some "s".toList)) ∧
    (Whole "a$check(b)".toList [.word "a$check".toList, .other '(', .word "b".toList, .other ')'] ∧
      bodies [.word "a$check".toList, .other '(', .word "b".toList, .other ')'] = .ok [] ∧
      check_clauses latin (some "a$check(b)".toList) = .ok ["b".toList]) := by
  refine ⟨⟨lexes_subtraction, comment_gap, by decide +kernel⟩, ⟨?_, ?_, by decide +kernel⟩, ?_, by decide +kernel, by decide +kernel⟩
  · have long : Lexes "\u017F".toList [.other '\u017F'] [] := .token (.other (by decide) rfl rfl (by decide) (by decide)) .done
    exact ⟨[], long, Or.inl rfl⟩
  · exact ⟨[], lexes_word "s".toList (by decide) rfl rfl .done, Or.inl rfl⟩
  · exact ⟨[], lexes_clause "a$check".toList (by decide) rfl, Or.inl rfl⟩

end RedDock.CheckClauses
