import RedDock.SqlScanner

/-!
# The tokens of an SQL text

What the scanners read, as a grammar of its own: a text is tokens with white
space and comments between them. The canonical form of a text is that of its
tokens.
-/
set_option autoImplicit false
namespace RedDock.SqlTokens
open Text Fallible SqlScanner

/-! ### The grammar -/

inductive Token
  | word (text : Text)
  | quoted (text : Text)
  | operator (text : Text)
  | other (c : Char)
  deriving DecidableEq

def Token.text : Token → Text
  | .word text | .quoted text | .operator text => text
  | .other c => [c]

/-- White space or a comment that is terminated. -/
inductive Gap : Text → Prop
  | space {c : Char} : isSpace c = true → Gap [c]
  | line {body : Text} : '\n' ∉ body → Gap ("--".toList ++ body ++ ['\n'])
  | block {body : Text} : (∀ before after, body ++ "*/".toList = before ++ ("*/".toList ++ after) → after = []) →
      Gap ("/*".toList ++ body ++ "*/".toList)

/-- What stands in quotes: closing characters only in pairs. -/
inductive QuotedBody (closing : Char) : Text → Prop
  | nil : QuotedBody closing []
  | plain {c : Char} {body : Text} : c ≠ closing → QuotedBody closing body → QuotedBody closing (c :: body)
  | doubled {body : Text} : QuotedBody closing body → QuotedBody closing (closing :: closing :: body)

/-- A token before some next character, which is no part of it. -/
inductive Stands : Token → Option Char → Prop
  | word {text : Text} {next : Option Char} : text ≠ [] → (∀ c ∈ text, word_character c = true) → next.any word_character = false →
      Stands (.word text) next
  | quoted {opening : Char} {body : Text} {next : Option Char} : is_quote opening = true → QuotedBody (closing_of opening) body →
      next ≠ some (closing_of opening) → Stands (.quoted (opening :: body ++ [closing_of opening])) next
  | operator {text : Text} {next : Option Char} : text ∈ OPERATORS → (text = "->".toList → next ≠ some '>') →
      Stands (.operator text) next
  | other {c : Char} {next : Option Char} : isSpace c = false → is_quote c = false → word_character c = false →
      c :: next.toList ∉ OPERATORS → c :: next.toList ∉ ["--".toList, "/*".toList] → Stands (.other c) next

/-- A text begins with these tokens, before the rest. -/
inductive Lexes : Text → List Token → Text → Prop
  | done {rest : Text} : Lexes rest [] rest
  | gap {gap sql rest : Text} {tokens : List Token} : Gap gap → Lexes sql tokens rest → Lexes (gap ++ sql) tokens rest
  | token {token : Token} {sql rest : Text} {tokens : List Token} : Stands token sql.head? → Lexes sql tokens rest →
      Lexes (token.text ++ sql) (token :: tokens) rest

/-- Nothing, or a comment up to the end of the text. -/
def Ends (rest : Text) : Prop := rest = [] ∨ ∃ body, rest = "--".toList ++ body ∧ '\n' ∉ body

/-- The tokens of a text whose quotes and comments are terminated. -/
def Whole (sql : Text) (tokens : List Token) : Prop := ∃ rest, Lexes sql tokens rest ∧ Ends rest

/-! ### What the tests of a loop see -/

theorem line_comment_line {body : Text} (one_line : '\n' ∉ body) (rest : Text) :
    line_comment (body ++ '\n' :: rest) = (body ++ ['\n'], rest) := by
  induction body with
  | nil => rfl
  | cons c body ih =>
    rw [List.mem_cons, not_or] at one_line
    rw [List.cons_append, line_comment, if_neg (Ne.symm one_line.1), ih one_line.2]
    rfl

theorem line_comment_end {body : Text} (one_line : '\n' ∉ body) : line_comment body = (body, []) := by
  induction body with
  | nil => rfl
  | cons c body ih =>
    rw [List.mem_cons, not_or] at one_line
    rw [line_comment, if_neg (Ne.symm one_line.1), ih one_line.2]

theorem block_comment_block {body : Text} (first : ∀ before after, body ++ "*/".toList = before ++ ("*/".toList ++ after) → after = [])
    (rest : Text) : block_comment (body ++ ("*/".toList ++ rest)) = .ok (body ++ "*/".toList, rest) := by
  induction body with
  | nil => rfl
  | cons c body ih =>
    have later := ih fun before after is => first (c :: before) after (congrArg (c :: ·) is)
    have open_still : ∀ more, c = '*' → body ++ ("*/".toList ++ rest) = '/' :: more → False := by
      intro more star slash
      cases body with
      | nil => cases slash
      | cons d body =>
        cases slash
        have nothing := first [] (body ++ "*/".toList) (by rw [star]; rfl)
        simp at nothing
    rw [List.cons_append, block_comment.eq_3 _ _ open_still, later]
    rfl

theorem skip_sql_quoted_body {closing : Char} {body : Text} (quoted : QuotedBody closing body) {rest : Text}
    (ends : rest.head? ≠ some closing) : skip_sql_quoted closing (body ++ closing :: rest) = .ok (body ++ [closing], rest) := by
  induction quoted with
  | nil =>
    cases rest with
    | nil => rw [List.nil_append, skip_sql_quoted, if_pos rfl]
    | cons d rest =>
      have other : d ≠ closing := fun is => ends (by rw [is]; rfl)
      rw [List.nil_append, skip_sql_quoted, if_pos rfl, if_neg other]
      rfl
  | @plain c body other _ ih =>
    obtain ⟨d, more, is⟩ := List.exists_cons_of_ne_nil (List.append_ne_nil_of_right_ne_nil body (List.cons_ne_nil closing rest))
    rw [List.cons_append, is, skip_sql_quoted, if_neg other, ← is, ih]
    rfl
  | doubled _ ih =>
    rw [List.cons_append, List.cons_append, skip_sql_quoted, if_pos rfl, if_pos rfl, ih]
    rfl

/-- A character that begins neither a comment nor a quoted text. -/
theorem lead_plain {c : Char} {rest : Text} (not_quote : is_quote c = false)
    (no_comment : c :: rest.head?.toList ∉ ["--".toList, "/*".toList]) : lead (c :: rest) = .ok .plain := by
  have none : skip_sql_comment (c :: rest) = .ok none := by
    unfold skip_sql_comment
    split
    · rename_i is
      cases is
      simp at no_comment
    · rename_i is
      cases is
      simp at no_comment
    · rfl
  rw [lead, none, ok_bind, not_quote]
  rfl

theorem space_apart {c d : Char} (blank : isSpace c = true) (visible : isSpace d = false) : c ≠ d := by
  intro is
  rw [is, visible] at blank
  cases blank

theorem space_not_quote {c : Char} (blank : isSpace c = true) : is_quote c = false := by
  simp only [is_quote, Bool.or_eq_false_iff, decide_eq_false_iff_not]
  exact ⟨⟨⟨space_apart blank (by decide), space_apart blank (by decide)⟩, space_apart blank (by decide)⟩, space_apart blank (by decide)⟩

theorem word_not_space {c : Char} (inside : word_character c = true) : isSpace c = false := by
  cases blank : isSpace c with
  | false => rfl
  | true =>
    simp only [word_character, Bool.or_eq_true, decide_eq_true_eq] at inside
    rcases inside with (letter | rfl) | rfl
    · simp only [Char.isAlphanum, Char.isAlpha, Char.isUpper, Char.isLower, Char.isDigit, Bool.or_eq_true, Bool.and_eq_true,
        decide_eq_true_eq, ge_iff_le, UInt32.le_iff_toNat_le] at letter
      simp only [isSpace, Bool.or_eq_true, Bool.and_eq_true, decide_eq_true_eq, beq_iff_eq] at blank
      simp at letter
      omega
    · cases blank
    · cases blank

theorem word_not_quote {c : Char} (inside : word_character c = true) : is_quote c = false := by
  cases quote : is_quote c with
  | false => rfl
  | true =>
    simp only [is_quote, Bool.or_eq_true, decide_eq_true_eq] at quote
    rcases quote with ((rfl | rfl) | rfl) | rfl <;> cases inside

/-- A character that no comment begins with. -/
theorem no_comment {c : Char} (not_dash : c ≠ '-') (not_slash : c ≠ '/') (next : Option Char) :
    c :: next.toList ∉ ["--".toList, "/*".toList] := by
  intro member
  rcases List.mem_cons.mp member with is | member
  · exact not_dash (List.cons.inj is).1
  · exact not_slash (List.cons.inj (List.mem_singleton.mp member)).1

theorem lead_space {c : Char} (blank : isSpace c = true) (sql : Text) : lead (c :: sql) = .ok .plain :=
  lead_plain (space_not_quote blank) (no_comment (space_apart blank (by decide)) (space_apart blank (by decide)) _)

theorem lead_word {c : Char} (inside : word_character c = true) (sql : Text) : lead (c :: sql) = .ok .plain := by
  refine lead_plain (word_not_quote inside) (no_comment ?_ ?_ _)
  · rintro rfl
    cases inside
  · rintro rfl
    cases inside

theorem lead_gap {gap : Text} (is_gap : Gap gap) (sql : Text) :
    (∃ c, gap = [c] ∧ isSpace c = true ∧ lead (gap ++ sql) = .ok .plain) ∨ lead (gap ++ sql) = .ok (.comment gap sql) := by
  cases is_gap with
  | @space c blank => exact Or.inl ⟨c, rfl, blank, lead_space blank sql⟩
  | @line body one_line =>
    right
    have read : skip_sql_comment ('-' :: '-' :: (body ++ '\n' :: sql)) = .ok (some ('-' :: '-' :: (body ++ ['\n']), sql)) := by
      rw [skip_sql_comment, line_comment_line one_line]
    have whole : "--".toList ++ body ++ ['\n'] ++ sql = '-' :: '-' :: (body ++ '\n' :: sql) := by simp
    rw [whole, lead, read]
    rfl
  | @block body first =>
    right
    have read : skip_sql_comment ('/' :: '*' :: (body ++ ("*/".toList ++ sql))) = .ok (some ('/' :: '*' :: (body ++ "*/".toList), sql)) := by
      rw [skip_sql_comment, block_comment_block first]
      rfl
    have whole : "/*".toList ++ body ++ "*/".toList ++ sql = '/' :: '*' :: (body ++ ("*/".toList ++ sql)) := by simp
    rw [whole, lead, read]
    rfl

theorem lead_quoted {text sql : Text} (stands : Stands (.quoted text) sql.head?) : lead (text ++ sql) = .ok (.quoted text sql) := by
  cases stands with
  | @quoted opening body _ quote inside ends =>
    have not_dash : opening ≠ '-' := by rintro rfl; cases quote
    have not_slash : opening ≠ '/' := by rintro rfl; cases quote
    have none : skip_sql_comment (opening :: (body ++ closing_of opening :: sql)) = .ok none := by
      unfold skip_sql_comment
      split
      · rename_i is
        exact absurd (List.cons.inj is).1 not_dash
      · rename_i is
        exact absurd (List.cons.inj is).1 not_slash
      · rfl
    have whole : opening :: body ++ [closing_of opening] ++ sql = opening :: (body ++ closing_of opening :: sql) := by simp
    rw [whole, lead, none, ok_bind, quote]
    simp only [if_true, skip_sql_quoted_body inside ends, ok_bind, pure_eq_ok]
    rfl

theorem lead_end {rest : Text} (ends : Ends rest) : rest = [] ∨ lead rest = .ok (.comment rest []) := by
  rcases ends with rfl | ⟨body, rfl, one_line⟩
  · exact Or.inl rfl
  · right
    have read : skip_sql_comment ('-' :: '-' :: body) = .ok (some ('-' :: '-' :: body, [])) := by
      rw [skip_sql_comment, line_comment_end one_line]
    have whole : "--".toList ++ body = '-' :: '-' :: body := rfl
    rw [whole, lead, read]
    rfl

/-! ### Reading the tokens -/

section
variable (letters : Letters)

/-- A token as the canonical form has it. -/
def Token.folded : Token → Text
  | .word text => text.flatMap letters.casefold
  | .quoted text | .operator text => text
  | .other c => letters.casefold c

variable {letters}

theorem sql_tokens_comment {sql skipped after : Text} (is : lead sql = .ok (.comment skipped after)) :
    sql_tokens letters sql = sql_tokens letters after := by
  cases sql with
  | nil => cases is
  | cons c rest =>
    rw [sql_tokens]
    split <;> simp_all

theorem sql_tokens_quoted {sql quoted after : Text} (is : lead sql = .ok (.quoted quoted after)) :
    sql_tokens letters sql = (sql_tokens letters after).map (quoted :: ·) := by
  cases sql with
  | nil => cases is
  | cons c rest =>
    rw [sql_tokens]
    split <;> simp_all

theorem sql_tokens_plain (letters : Letters) {c : Char} {rest : Text} (is : lead (c :: rest) = .ok .plain) : sql_tokens letters (c :: rest) =
    if isSpace c then sql_tokens letters rest
    else if word_character c then
      (sql_tokens letters (rest.dropWhile word_character)).map ((c :: rest.takeWhile word_character).flatMap letters.casefold :: ·)
    else match OPERATORS.find? (·.isPrefixOf (c :: rest)) with
      | some candidate => (sql_tokens letters ((c :: rest).drop candidate.length)).map (candidate :: ·)
      | none => (sql_tokens letters rest).map (letters.casefold c :: ·) := by
  rw [sql_tokens]
  split
  · simp_all
  · simp_all
  · simp_all
  · congr 2
    split
    · rename_i read
      rw [read]
    · rename_i read
      rw [read]

theorem sql_tokens_gap {gap : Text} (is_gap : Gap gap) (sql : Text) : sql_tokens letters (gap ++ sql) = sql_tokens letters sql := by
  rcases lead_gap is_gap sql with ⟨c, rfl, blank, plain⟩ | comment
  · exact (sql_tokens_plain letters plain).trans (if_pos blank)
  · exact sql_tokens_comment comment

theorem sql_tokens_end {rest : Text} (ends : Ends rest) : sql_tokens letters rest = .ok [] := by
  rcases lead_end ends with rfl | comment
  · rw [sql_tokens]
  · rw [sql_tokens_comment comment, sql_tokens]

theorem takeWhile_word {text sql : Text} (all : ∀ c ∈ text, word_character c = true) (next : sql.head?.any word_character = false) :
    (text ++ sql).takeWhile word_character = text ∧ (text ++ sql).dropWhile word_character = sql := by
  rw [List.takeWhile_append_of_pos all, List.dropWhile_append_of_pos all]
  cases sql with
  | nil => simp
  | cons d sql =>
    have stop : word_character d = false := next
    simp [stop]

/-- The operator that is read is the one that stands there. -/
theorem find_operator {text sql : Text} (listed : text ∈ OPERATORS) (longest : text = "->".toList → sql.head? ≠ some '>') :
    OPERATORS.find? (·.isPrefixOf (text ++ sql)) = some text := by
  have arrow : ">".toList.isPrefixOf sql = false ∨ text ≠ "->".toList := by
    by_cases is : text = "->".toList
    · left
      refine Bool.eq_false_iff.mpr fun begins => ?_
      obtain ⟨more, rfl⟩ := List.isPrefixOf_iff_prefix.mp begins
      exact longest is rfl
    · exact Or.inr is
  simp only [OPERATORS, List.mem_cons, List.not_mem_nil, or_false] at listed
  rcases listed with rfl | rfl | rfl | rfl | rfl | rfl | rfl
  all_goals simp [OPERATORS, List.isPrefixOf] at arrow ⊢
  exact arrow

/-- No operator is read where none begins. -/
theorem find_no_operator {c : Char} {sql : Text} (no_operator : c :: sql.head?.toList ∉ OPERATORS) :
    OPERATORS.find? (·.isPrefixOf (c :: sql)) = none := by
  -- an operator of three characters begins with one of two
  have shorter : ∀ text ∈ OPERATORS, 2 ≤ text.length ∧ text.take 2 ∈ OPERATORS := by decide
  refine List.find?_eq_none.mpr fun text listed begins => no_operator ?_
  obtain ⟨long, short⟩ := shorter text listed
  obtain ⟨more, is⟩ := List.isPrefixOf_iff_prefix.mp begins
  have two : (c :: sql).take 2 = text.take 2 := by rw [← is, List.take_append_of_le_length long]
  cases sql with
  | nil =>
    have lengths := congrArg List.length is
    simp only [List.length_append, List.length_cons, List.length_nil] at lengths
    omega
  | cons d sql =>
    rw [← two] at short
    exact short

/-- What an operator begins with. -/
theorem operator_head {text : Text} (listed : text ∈ OPERATORS) : ∃ c d more, text = c :: d :: more ∧ isSpace c = false ∧
    is_quote c = false ∧ word_character c = false ∧ [c, d] ∉ ["--".toList, "/*".toList] := by
  simp only [OPERATORS, List.mem_cons, List.not_mem_nil, or_false] at listed
  rcases listed with rfl | rfl | rfl | rfl | rfl | rfl | rfl
  all_goals exact ⟨_, _, _, rfl, by decide, by decide, by decide, by decide⟩

theorem sql_tokens_token {token : Token} {sql : Text} (stands : Stands token sql.head?) :
    sql_tokens letters (token.text ++ sql) = (sql_tokens letters sql).map (token.folded letters :: ·) := by
  cases token with
  | word text =>
    cases stands with
    | word filled all next =>
      obtain ⟨c, more, rfl⟩ := List.exists_cons_of_ne_nil filled
      obtain ⟨first, later⟩ := List.forall_mem_cons.mp all
      obtain ⟨taken, dropped⟩ := takeWhile_word later next
      have read := sql_tokens_plain letters (lead_word first (more ++ sql))
      rw [word_not_space first, first, taken, dropped] at read
      exact read
  | quoted text => exact sql_tokens_quoted (lead_quoted stands)
  | operator text =>
    cases stands with
    | operator listed longest =>
      have found := find_operator listed longest
      obtain ⟨c, d, more, rfl, visible, not_quote, not_word, no_comment⟩ := operator_head listed
      have plain : lead (c :: (d :: more ++ sql)) = .ok .plain := lead_plain not_quote no_comment
      have read := sql_tokens_plain letters plain
      rw [visible, not_word] at read
      simp only [Token.text, Token.folded, List.cons_append] at found read ⊢
      rw [found] at read
      simpa using read
  | other c =>
    cases stands with
    | other visible not_quote not_word no_operator no_comment =>
      have read := sql_tokens_plain letters (lead_plain not_quote no_comment)
      rw [visible, not_word, find_no_operator no_operator] at read
      exact read

theorem sql_tokens_lexes {sql rest : Text} {tokens : List Token} (lexes : Lexes sql tokens rest) :
    sql_tokens letters sql = (sql_tokens letters rest).map (tokens.map (Token.folded letters) ++ ·) := by
  induction lexes with
  | done =>
    rename_i rest
    cases sql_tokens letters rest <;> rfl
  | gap is_gap _ ih => rw [sql_tokens_gap is_gap, ih]
  | token stands _ ih =>
    rename_i rest _ _
    rw [sql_tokens_token stands, ih]
    cases sql_tokens letters rest <;> rfl

/-- The tokens of a text are read. -/
theorem sql_tokens_whole (letters : Letters) {sql : Text} {tokens : List Token} (whole : Whole sql tokens) :
    sql_tokens letters sql = .ok (tokens.map (Token.folded letters)) := by
  obtain ⟨rest, lexes, ends⟩ := whole
  rw [sql_tokens_lexes lexes, sql_tokens_end ends, Except.map, List.append_nil]

end

/-! ### What is read are tokens -/

theorem line_comment_cases (sql : Text) : (∃ body after, '\n' ∉ body ∧ line_comment sql = (body ++ ['\n'], after)) ∨
    '\n' ∉ sql ∧ line_comment sql = (sql, []) := by
  by_cases feed : '\n' ∈ sql
  · obtain ⟨body, after, rfl, one_line⟩ := List.eq_append_cons_of_mem feed
    exact Or.inl ⟨body, after, one_line, line_comment_line one_line after⟩
  · exact Or.inr ⟨feed, line_comment_end feed⟩

theorem block_comment_ok {sql : Text} {found : Text × Text} (is : block_comment sql = .ok found) : ∃ body,
    (∀ before after, body ++ "*/".toList = before ++ ("*/".toList ++ after) → after = []) ∧ found.1 = body ++ "*/".toList := by
  induction sql using block_comment.induct generalizing found with
  | case1 => cases is
  | case2 rest =>
    cases is
    refine ⟨[], fun before after is => ?_, rfl⟩
    have lengths := congrArg List.length is
    simp only [List.length_append, List.length_nil] at lengths
    exact List.length_eq_zero_iff.mp (by omega)
  | case3 c rest other ih =>
    rw [block_comment.eq_3 c rest other] at is
    obtain ⟨inner, read, rfl⟩ := map_eq_ok.mp is
    obtain ⟨body, first, is_body⟩ := ih read
    refine ⟨c :: body, fun before after is => ?_, congrArg (c :: ·) is_body⟩
    cases before with
    | nil =>
      have star : c = '*' := (List.cons.inj is).1
      have later : body ++ "*/".toList = '/' :: after := (List.cons.inj is).2
      -- a body after a star does not begin with a slash
      have begins : rest = inner.1 ++ inner.2 := block_comment_split read
      rw [is_body, later] at begins
      exact (other _ star begins).elim
    | cons d before => exact first before after (List.cons.inj is).2

theorem skip_sql_quoted_ok {closing : Char} {sql : Text} {found : Text × Text} (is : skip_sql_quoted closing sql = .ok found) :
    ∃ body, QuotedBody closing body ∧ found.1 = body ++ [closing] ∧ found.2.head? ≠ some closing := by
  induction sql using skip_sql_quoted.induct closing generalizing found with
  | case1 => cases is
  | case2 =>
    rw [skip_sql_quoted, if_pos rfl] at is
    cases is
    exact ⟨[], .nil, rfl, by simp⟩
  | case3 c other => rw [skip_sql_quoted, if_neg other] at is; cases is
  | case4 rest ih =>
    rw [skip_sql_quoted, if_pos rfl, if_pos rfl] at is
    obtain ⟨inner, read, rfl⟩ := map_eq_ok.mp is
    obtain ⟨body, quoted, is_body, ends⟩ := ih read
    exact ⟨closing :: closing :: body, .doubled quoted, congrArg (closing :: closing :: ·) is_body, ends⟩
  | case5 d rest other =>
    rw [skip_sql_quoted, if_pos rfl, if_neg other] at is
    cases is
    exact ⟨[], .nil, rfl, fun same => other (Option.some.inj same)⟩
  | case6 c d rest other ih =>
    rw [skip_sql_quoted, if_neg other] at is
    obtain ⟨inner, read, rfl⟩ := map_eq_ok.mp is
    obtain ⟨body, quoted, is_body, ends⟩ := ih read
    exact ⟨c :: body, .plain other quoted, congrArg (c :: ·) is_body, ends⟩

theorem skip_sql_comment_ok {sql : Text} {found : Text × Text} (is : skip_sql_comment sql = .ok (some found)) :
    Gap found.1 ∨ Ends found.1 ∧ found.2 = [] := by
  unfold skip_sql_comment at is
  split at is
  · rename_i rest
    cases is
    rcases line_comment_cases rest with ⟨body, after, one_line, read⟩ | ⟨one_line, read⟩
    · left
      rw [read]
      exact .line one_line
    · right
      rw [read]
      exact ⟨Or.inr ⟨rest, rfl, one_line⟩, rfl⟩
  · rename_i rest
    obtain ⟨inner, read, is⟩ := map_eq_ok.mp is
    cases is
    obtain ⟨body, first, is_body⟩ := block_comment_ok read
    left
    rw [is_body]
    exact .block first
  · cases is

/-- What the tests of a loop have found. -/
theorem lead_ok {c : Char} {rest : Text} {found : Lead} (is : lead (c :: rest) = .ok found) : match found with
    | .comment skipped after => Gap skipped ∨ Ends skipped ∧ after = []
    | .quoted skipped after => Stands (.quoted skipped) after.head?
    | .plain => is_quote c = false ∧ c :: rest.head?.toList ∉ ["--".toList, "/*".toList] := by
  obtain ⟨comment, read, is⟩ := bind_eq_ok.mp is
  cases comment with
  | some comment =>
    cases is
    exact skip_sql_comment_ok read
  | none =>
    simp only at is
    split at is
    · rename_i quote
      obtain ⟨quoted, skipped, is⟩ := bind_eq_ok.mp is
      cases is
      obtain ⟨body, inside, is_body, ends⟩ := skip_sql_quoted_ok skipped
      have stands := Stands.quoted quote inside ends
      simp only [is_body]
      exact stands
    · rename_i not_quote
      cases is
      refine ⟨Bool.eq_false_iff.mpr not_quote, fun member => ?_⟩
      cases rest with
      | nil => simp at member
      | cons d rest =>
        simp only [List.head?_cons, Option.toList_some, List.mem_cons, List.not_mem_nil, or_false] at member
        rcases member with two | two <;> cases two
        · cases read
        · obtain ⟨_, _, none⟩ := map_eq_ok.mp read
          cases none

theorem lead_of_tokens {letters : Letters} {c : Char} {rest : Text} {found : List Text} (is : sql_tokens letters (c :: rest) = .ok found) :
    ∃ start, lead (c :: rest) = .ok start := by
  cases read : lead (c :: rest) with
  | ok start => exact ⟨_, rfl⟩
  | error message =>
    rw [sql_tokens] at is
    split at is <;> simp_all

/-- A text that the scanner reads is made of tokens. -/
theorem whole_of_ok {letters : Letters} {sql : Text} {found : List Text} (is : sql_tokens letters sql = .ok found) :
    ∃ tokens, Whole sql tokens := by
  induction size : sql.length using Nat.strong_induction_on generalizing sql found with
  | _ n ih =>
    have step : ∀ {after : Text} {f : List Text → List Text}, after.length < n → (sql_tokens letters after).map f = .ok found →
        ∃ tokens, Whole after tokens := by
      intro after f shorter is
      obtain ⟨inner, read, rfl⟩ := map_eq_ok.mp is
      exact ih _ shorter read rfl
    have token : ∀ (token : Token) (after : Text), Stands token after.head? → (∃ tokens, Whole after tokens) →
        ∃ tokens, Whole (token.text ++ after) tokens := by
      rintro token after stands ⟨tokens, rest, lexes, ends⟩
      exact ⟨token :: tokens, rest, .token stands lexes, ends⟩
    cases sql with
    | nil => exact ⟨[], [], .done, Or.inl rfl⟩
    | cons c rest =>
      have one_less : rest.length < n := Nat.lt_of_lt_of_eq (Nat.lt_succ_self _) size
      obtain ⟨start, read⟩ := lead_of_tokens is
      have found_start := lead_ok read
      cases start with
      | comment skipped after =>
        obtain ⟨split, _⟩ := lead_split read
        rw [sql_tokens_comment read] at is
        rcases found_start with gap | ⟨ends, rfl⟩
        · obtain ⟨tokens, last, lexes, ends⟩ := ih _ (size ▸ comment_shorter read) is rfl
          rw [split]
          exact ⟨tokens, last, .gap gap lexes, ends⟩
        · rw [split, List.append_nil]
          exact ⟨[], skipped, .done, ends⟩
      | quoted skipped after =>
        obtain ⟨split, _⟩ := lead_split read
        rw [sql_tokens_quoted read] at is
        rw [split]
        exact token _ after found_start (step (size ▸ quoted_shorter read) is)
      | plain =>
        obtain ⟨not_quote, no_comment⟩ := found_start
        rw [sql_tokens_plain letters read] at is
        split at is
        · rename_i blank
          obtain ⟨tokens, last, lexes, ends⟩ := ih _ one_less is rfl
          exact ⟨tokens, last, .gap (.space blank) lexes, ends⟩
        rename_i visible
        split at is
        · rename_i inside
          have all : ∀ d ∈ c :: rest.takeWhile word_character, word_character d = true :=
            List.forall_mem_cons.mpr ⟨inside, fun d member => List.mem_takeWhile_imp member⟩
          have next : (rest.dropWhile word_character).head?.any word_character = false := by
            cases left : rest.dropWhile word_character with
            | nil => rfl
            | cons d more =>
              have stops := List.head?_dropWhile_not word_character rest
              rw [left] at stops
              simpa using stops
          have whole := token (.word (c :: rest.takeWhile word_character)) _ (.word (List.cons_ne_nil _ _) all next)
            (step ((List.length_dropWhile_le _ _).trans_lt one_less) is)
          simpa [Token.text] using whole
        rename_i not_word
        split at is
        · rename_i candidate found_first
          have listed := List.mem_of_find?_eq_some found_first
          have begins := List.find?_some (p := fun text : Text => text.isPrefixOf (c :: rest)) found_first
          obtain ⟨more, split⟩ := List.isPrefixOf_iff_prefix.mp begins
          have dropped : (c :: rest).drop candidate.length = more := by rw [← split, List.drop_left]
          rw [dropped] at is
          have longest : candidate = "->".toList → more.head? ≠ some '>' := by
            rintro rfl begins
            cases more with
            | nil => cases begins
            | cons d more =>
              cases begins
              have longer : OPERATORS.find? (·.isPrefixOf ("->>".toList ++ more)) = some "->>".toList :=
                find_operator (by decide) fun is => absurd is (by decide)
              rw [← split] at found_first
              have same : some "->>".toList = some "->".toList := longer.symm.trans found_first
              cases same
          have shorter : more.length < n := by
            obtain ⟨_, _, _, filled, _⟩ := operator_head listed
            rw [← size, ← split, filled, List.length_append]
            simp
          rw [← split]
          exact token (.operator candidate) more (.operator listed longest) (step shorter is)
        · rename_i none_found
          have no_operator : c :: rest.head?.toList ∉ OPERATORS := by
            intro listed
            have begins := List.find?_eq_none.mp none_found _ listed
            refine begins (List.isPrefixOf_iff_prefix.mpr ?_)
            cases rest with
            | nil => exact List.prefix_refl _
            | cons d rest => exact ⟨rest, rfl⟩
          exact token (.other c) rest (.other (Bool.eq_false_iff.mpr visible) not_quote (Bool.eq_false_iff.mpr not_word) no_operator
            no_comment) (step one_less is)

/-! ### Neighbours -/

/-- A token stands at the end of a text too. -/
theorem stands_none {token : Token} {next : Option Char} (stands : Stands token next) : Stands token none := by
  cases stands with
  | word filled all _ => exact .word filled all rfl
  | quoted quote inside _ => exact .quoted quote inside (by simp)
  | operator listed _ => exact .operator listed (by simp)
  | other visible not_quote not_word _ _ =>
    have longer : ∀ text ∈ OPERATORS ++ ["--".toList, "/*".toList], text.length ≠ 1 := by decide
    refine .other visible not_quote not_word (fun member => ?_) fun member => ?_
    · exact longer _ (List.mem_append_left _ member) rfl
    · exact longer _ (List.mem_append_right _ member) rfl

/-- No gap begins with a character that ends a quoted text or an operator, or
    begins a comment with a slash. -/
theorem gap_start {c : Char} (gap : isSpace c = true ∨ c = '-' ∨ c = '/') : c ∉ ['\'', '"', '`', ']', '>', '=', '|', '*'] := by
  have apart : ∀ d ∈ ['\'', '"', '`', ']', '>', '=', '|', '*'], isSpace d = false ∧ d ≠ '-' ∧ d ≠ '/' := by
    simp [isSpace]
  intro member
  obtain ⟨visible, not_dash, not_slash⟩ := apart c member
  rcases gap with blank | dash | slash
  · rw [visible] at blank
    cases blank
  · exact not_dash dash
  · exact not_slash slash

/-- A token stands before white space and comments, unless they make a comment
    of it. -/
theorem stands_gap {token : Token} {next : Option Char} {c : Char} (stands : Stands token next)
    (gap : isSpace c = true ∨ c = '-' ∨ c = '/') (apart : ¬(token.text.getLast? = some '-' ∧ c = '-')) : Stands token (some c) := by
  have start := gap_start gap
  cases stands with
  | word filled all _ =>
    refine .word filled all ?_
    rw [Option.any_some]
    cases inside : word_character c with
    | false => rfl
    | true =>
      rcases gap with blank | rfl | rfl
      · rw [word_not_space inside] at blank
        cases blank
      · cases inside
      · cases inside
  | @quoted opening _ _ quote inside _ =>
    refine .quoted quote inside fun is => start ?_
    rw [Option.some.inj is]
    simp only [is_quote, Bool.or_eq_true, decide_eq_true_eq] at quote
    rcases quote with ((rfl | rfl) | rfl) | rfl <;> decide
  | operator listed _ =>
    refine .operator listed fun _ is => start ?_
    rw [Option.some.inj is]
    decide
  | @other d _ visible not_quote not_word _ _ =>
    refine .other visible not_quote not_word (fun member => start ?_) fun member => ?_
    · simp only [OPERATORS, List.mem_cons, List.not_mem_nil, or_false, Option.toList_some] at member
      rcases member with is | is | is | is | is | is | is <;> cases is <;> decide
    · simp only [List.mem_cons, List.not_mem_nil, or_false, Option.toList_some] at member
      rcases member with is | is
      · cases is
        exact apart ⟨rfl, rfl⟩
      · cases is
        exact start (by decide)

/-- Where a gap begins, there is white space or a comment. -/
theorem gap_head {gap : Text} (is_gap : Gap gap) : ∃ c more, gap = c :: more ∧ (isSpace c = true ∨ c = '-' ∨ c = '/') := by
  cases is_gap with
  | @space c blank => exact ⟨c, [], rfl, Or.inl blank⟩
  | @line body _ => exact ⟨'-', '-' :: body ++ ['\n'], rfl, Or.inr (Or.inl rfl)⟩
  | @block body _ => exact ⟨'/', '*' :: body ++ "*/".toList, rfl, Or.inr (Or.inr rfl)⟩

/-- A gap between the tokens of a text and its rest leaves them as they are,
    unless it makes a comment of a last dash. -/
theorem lexes_before_gap {sql rest : Text} {tokens : List Token} (lexes : Lexes sql tokens rest) : ∃ before, sql = before ++ rest ∧
    ∀ {gap : Text} (after : Text), Gap gap → ¬(before.getLast? = some '-' ∧ gap.head? = some '-') →
      Lexes (before ++ (gap ++ after)) tokens (gap ++ after) := by
  induction lexes with
  | done => exact ⟨[], rfl, fun _ _ _ => .done⟩
  | @gap own _ _ _ is_gap _ ih =>
    obtain ⟨before, rfl, kept⟩ := ih
    refine ⟨own ++ before, by simp, fun {gap} after is_other apart => ?_⟩
    have later := kept after is_other fun both => apart ⟨by rw [List.getLast?_append, both.1]; rfl, both.2⟩
    rw [List.append_assoc]
    exact .gap is_gap later
  | @token token sql rest _ stands _ ih =>
    obtain ⟨before, rfl, kept⟩ := ih
    refine ⟨token.text ++ before, by simp, fun {gap} after is_gap apart => ?_⟩
    have later := kept after is_gap fun both => apart ⟨by rw [List.getLast?_append, both.1]; rfl, both.2⟩
    rw [List.append_assoc]
    refine .token ?_ later
    cases before with
    | nil =>
      obtain ⟨c, more, rfl, starts⟩ := gap_head is_gap
      rw [List.append_nil] at apart
      exact stands_gap stands starts fun both => apart ⟨both.1, congrArg some both.2⟩
    | cons b before => exact stands

/-- The last character of a token is shown. -/
theorem last_visible {token : Token} {next : Option Char} (stands : Stands token next) {c : Char} (last : token.text.getLast? = some c) :
    isSpace c = false := by
  cases stands with
  | word _ all _ => exact word_not_space (all c (List.mem_of_getLast? last))
  | @quoted opening body _ quote _ _ =>
    rw [Token.text, List.getLast?_concat] at last
    cases last
    simp only [is_quote, Bool.or_eq_true, decide_eq_true_eq] at quote
    rcases quote with ((rfl | rfl) | rfl) | rfl <;> decide
  | operator listed _ =>
    have visible : ∀ text ∈ OPERATORS, text.getLast?.any isSpace = false := by decide
    have shown := visible _ listed
    rw [Token.text] at last
    rw [last] at shown
    exact shown
  | other visible _ _ _ _ =>
    cases last
    exact visible

theorem text_ne_nil {token : Token} {next : Option Char} (stands : Stands token next) : token.text ≠ [] := by
  cases stands with
  | word filled _ _ => exact filled
  | quoted _ _ _ => exact List.cons_ne_nil _ _
  | operator listed _ =>
    obtain ⟨_, _, _, rfl, _⟩ := operator_head listed
    exact List.cons_ne_nil _ _
  | other _ _ _ _ _ => exact List.cons_ne_nil _ _

theorem lexes_nil {tokens : List Token} {rest : Text} (lexes : Lexes [] tokens rest) : tokens = [] ∧ rest = [] := by
  generalize is : ([] : Text) = sql at lexes
  cases lexes with
  | done => exact ⟨rfl, rfl⟩
  | gap is_gap _ =>
    obtain ⟨c, more, rfl, _⟩ := gap_head is_gap
    cases is
  | token stands _ => exact absurd (List.append_eq_nil_iff.mp is.symm).1 (text_ne_nil stands)

theorem snoc_inj {one other : Text} {c d : Char} (same : one ++ [c] = other ++ [d]) : one = other ∧ c = d := by
  obtain ⟨texts, lasts⟩ := List.append_inj' same rfl
  exact ⟨texts, (List.cons.inj lasts).1⟩

/-- White space at the end of a text is not of its tokens. -/
theorem whole_snoc {sql : Text} {tokens : List Token} {c : Char} (blank : isSpace c = true) (whole : Whole (sql ++ [c]) tokens) :
    Whole sql tokens := by
  obtain ⟨rest, lexes, ends⟩ := whole
  generalize is : sql ++ [c] = all at lexes
  induction lexes generalizing sql with
  | @done rest =>
    refine ⟨sql, .done, ?_⟩
    rcases ends with rfl | ⟨body, rfl, one_line⟩
    · simp at is
    · cases body using List.reverseRecOn with
      | nil =>
        have dashes : sql ++ [c] = ['-'] ++ ['-'] := is
        obtain ⟨_, rfl⟩ := snoc_inj dashes
        cases blank
      | append_singleton body d =>
        rw [← List.append_assoc] at is
        exact Or.inr ⟨body, (snoc_inj is).1, fun feed => one_line (List.mem_append_left _ feed)⟩
  | @gap own sql' _ tokens is_gap lexes ih =>
    cases sql' using List.reverseRecOn with
    | nil =>
      obtain ⟨rfl, rfl⟩ := lexes_nil lexes
      rw [List.append_nil] at is
      rw [← is] at is_gap
      generalize is_own : sql ++ [c] = own at is_gap
      refine ⟨sql, .done, ?_⟩
      cases is_gap with
      | @space d _ =>
        have one : sql ++ [c] = [] ++ [d] := is_own
        exact Or.inl (snoc_inj one).1
      | line one_line => exact Or.inr ⟨_, (snoc_inj is_own).1, one_line⟩
      | @block body _ =>
        have split : "/*".toList ++ body ++ "*/".toList = "/*".toList ++ body ++ ['*'] ++ ['/'] := by simp
        rw [split] at is_own
        obtain ⟨_, rfl⟩ := snoc_inj is_own
        cases blank
    | append_singleton sql' d =>
      rw [← List.append_assoc] at is
      obtain ⟨rfl, rfl⟩ := snoc_inj is
      obtain ⟨last, lexes, ends⟩ := ih ends rfl
      exact ⟨last, .gap is_gap lexes, ends⟩
  | @token token sql' rest _ stands lexes ih =>
    cases sql' using List.reverseRecOn with
    | nil =>
      have last : token.text.getLast? = some c := by
        rw [List.append_nil] at is
        rw [← is, List.getLast?_concat]
      rw [last_visible stands last] at blank
      cases blank
    | append_singleton sql' d =>
      rw [← List.append_assoc] at is
      obtain ⟨rfl, rfl⟩ := snoc_inj is
      obtain ⟨last, lexes, ends⟩ := ih ends rfl
      refine ⟨last, .token ?_ lexes, ends⟩
      cases sql' with
      | nil => exact stands_none stands
      | cons b sql' => exact stands

section
variable {letters : Letters}

theorem sql_tokens_dropWhile (sql : Text) : sql_tokens letters (sql.dropWhile isSpace) = sql_tokens letters sql := by
  induction sql with
  | nil => rfl
  | cons c sql ih =>
    cases blank : isSpace c with
    | true =>
      rw [List.dropWhile_cons_of_pos blank, ih]
      exact (sql_tokens_gap (.space blank) sql).symm
    | false => rw [List.dropWhile_cons_of_neg (by rw [blank]; simp)]

theorem whole_rdropWhile {sql : Text} {tokens : List Token} (whole : Whole sql tokens) : Whole (sql.rdropWhile isSpace) tokens := by
  induction sql using List.reverseRecOn with
  | nil => exact whole
  | append_singleton sql c ih =>
    cases blank : isSpace c with
    | true =>
      rw [List.rdropWhile_concat_pos _ _ _ blank]
      exact ih (whole_snoc blank whole)
    | false =>
      rw [List.rdropWhile_concat_neg _ _ _ (by rw [blank]; simp)]
      exact whole

/-- The canonical form of a text is that of its tokens. -/
theorem canonical_whole {sql : Text} {tokens : List Token} (whole : Whole sql tokens) :
    canonical_sql_fragment letters (some sql) = .ok (some (join " ".toList (tokens.map (Token.folded letters)))) := by
  have read := sql_tokens_whole letters whole
  rw [← sql_tokens_dropWhile] at read
  obtain ⟨others, inner⟩ := whole_of_ok read
  have same := (sql_tokens_whole letters inner).symm.trans read
  rw [canonical_sql_fragment, strip, sql_tokens_whole letters (whole_rdropWhile inner), Except.map, Except.ok.inj same]

end

/-! ### Equal forms -/

/-- A token up to the case of an unquoted word. -/
def Token.lower : Token → Token
  | .word text => .word (text.map Char.toLower)
  | token => token

/-- Tokens whose characters outside words and quotes have no other case. -/
def Settled (letters : Letters) (tokens : List Token) : Prop := ∀ c, Token.other c ∈ tokens → letters.casefold c = [c]

theorem word_ascii {c : Char} (inside : word_character c = true) : c.toNat < 128 := by
  simp only [word_character, Bool.or_eq_true, decide_eq_true_eq] at inside
  rcases inside with (letter | rfl) | rfl
  · simp only [Char.isAlphanum, Char.isAlpha, Char.isUpper, Char.isLower, Char.isDigit, Bool.or_eq_true, Bool.and_eq_true,
      decide_eq_true_eq, ge_iff_le, UInt32.le_iff_toNat_le] at letter
    simp at letter
    omega
  · decide
  · decide

theorem lower_other {c : Char} (outside : word_character c = false) : c.toLower = c := by
  refine Char.toLower_eq_of_not_isUpper fun upper => ?_
  simp [word_character, Char.isAlphanum, Char.isAlpha, upper] at outside

theorem word_lower {c : Char} (inside : word_character c = true) : word_character c.toLower = true := by
  cases upper : c.isUpper with
  | false => rwa [Char.toLower_eq_of_not_isUpper (by rw [upper]; simp)]
  | true =>
    have letter : c.toLower.isAlpha = true := by simp [Char.isAlpha, upper]
    simp [word_character, Char.isAlphanum, letter]

theorem stands_lower {token : Token} {next : Option Char} (stands : Stands token next) : Stands token.lower next := by
  cases stands with
  | @word text _ filled all boundary =>
    refine .word (by simpa using filled) (fun c member => ?_) boundary
    obtain ⟨d, inside, rfl⟩ := List.mem_map.mp member
    exact word_lower (all d inside)
  | quoted quote inside ends => exact .quoted quote inside ends
  | operator listed longest => exact .operator listed longest
  | other visible not_quote not_word no_operator no_comment => exact .other visible not_quote not_word no_operator no_comment

theorem lower_idem (token : Token) : token.lower.lower = token.lower := by
  cases token with
  | word text => simp [Token.lower, Function.comp_def]
  | quoted text => rfl
  | operator text => rfl
  | other c => rfl

/-- Outside words and quotes all of ASCII is settled. -/
theorem settled_ascii (letters : Letters) {c : Char} {next : Option Char} (stands : Stands (.other c) next) (ascii : c.toNat < 128) :
    letters.casefold c = [c] := by
  cases stands with
  | other _ _ not_word _ _ => rw [letters.casefold_ascii c ascii, lower_other not_word]

/-- Folding a settled token is lowering it. -/
theorem folded_eq {letters : Letters} {token : Token} {next : Option Char} (stands : Stands token next)
    (settled : ∀ c, token = .other c → letters.casefold c = [c]) : token.folded letters = token.lower.text := by
  cases stands with
  | @word text _ filled all boundary =>
    clear filled boundary settled
    induction text with
    | nil => rfl
    | cons c text ih =>
      obtain ⟨first, later⟩ := List.forall_mem_cons.mp all
      have rest : text.flatMap letters.casefold = text.map Char.toLower := ih later
      simp [Token.folded, Token.lower, Token.text, letters.casefold_ascii c (word_ascii first), rest]
  | quoted _ _ _ => rfl
  | operator _ _ => rfl
  | @other c _ _ _ _ _ _ => exact settled c rfl

/-- A token is known by its text. -/
def Token.of_text (text : Text) : Token := match text with
  | [] => .word []
  | c :: rest =>
    if word_character c then .word (c :: rest)
    else if is_quote c then .quoted (c :: rest)
    else if c :: rest ∈ OPERATORS then .operator (c :: rest)
    else .other c

theorem of_text_eq {token : Token} {next : Option Char} (stands : Stands token next) : Token.of_text token.text = token := by
  cases stands with
  | word filled all _ =>
    obtain ⟨c, rest, rfl⟩ := List.exists_cons_of_ne_nil filled
    exact if_pos (all c List.mem_cons_self)
  | @quoted opening _ _ quote _ _ =>
    have not_word : ¬word_character opening = true := fun inside => by
      rw [word_not_quote inside] at quote
      cases quote
    exact (if_neg not_word).trans (if_pos quote)
  | operator listed _ =>
    have listed_again := listed
    obtain ⟨c, d, more, rfl, _, not_quote, not_word, _⟩ := operator_head listed
    simp only [Token.text, Token.of_text]
    rw [not_word, not_quote, if_neg Bool.false_ne_true, if_neg Bool.false_ne_true, if_pos listed_again]
  | @other c _ _ not_quote not_word _ _ =>
    have single : [c] ∉ OPERATORS := fun listed => by
      have longer : ∀ text ∈ OPERATORS, text.length ≠ 1 := by decide
      exact longer _ listed rfl
    simp only [Token.text, Token.of_text]
    rw [not_word, not_quote, if_neg Bool.false_ne_true, if_neg Bool.false_ne_true, if_neg single]

theorem stands_of_lexes {sql rest : Text} {tokens : List Token} (lexes : Lexes sql tokens rest) :
    ∀ token ∈ tokens, ∃ next, Stands token next := by
  induction lexes with
  | done => exact fun _ none => by cases none
  | gap _ _ ih => exact ih
  | token stands _ ih => exact List.forall_mem_cons.mpr ⟨⟨_, stands⟩, ih⟩

/-- Tokens with a space between them are read back. -/
theorem lexes_join {tokens : List Token} (stand : ∀ token ∈ tokens, ∃ next, Stands token next) :
    Lexes (join " ".toList (tokens.map Token.text)) tokens [] := by
  induction tokens with
  | nil => exact .done
  | cons token tokens ih =>
    obtain ⟨⟨next, here⟩, later⟩ := List.forall_mem_cons.mp stand
    cases tokens with
    | nil =>
      have only : Lexes (token.text ++ []) [token] [] := .token (stands_none here) .done
      rw [List.append_nil] at only
      simpa [join] using only
    | cons second tokens =>
      have spaced : Lexes (' ' :: join " ".toList ((second :: tokens).map Token.text)) (second :: tokens) [] :=
        .gap (.space rfl) (ih later)
      have before : Stands token (some ' ') := stands_gap here (Or.inl rfl) fun both => by cases both.2
      rw [List.map_cons, List.map_cons, join_cons_cons, List.append_assoc]
      exact .token before spaced

section
variable {letters : Letters} {sql other : Text} {tokens others : List Token}

theorem folded_list (whole : Whole sql tokens) (settled : Settled letters tokens) :
    tokens.map (Token.folded letters) = (tokens.map Token.lower).map Token.text := by
  obtain ⟨rest, lexes, _⟩ := whole
  rw [List.map_map]
  refine List.map_congr_left fun token member => ?_
  obtain ⟨next, stands⟩ := stands_of_lexes lexes token member
  exact folded_eq stands fun c is => settled c (is ▸ member)

theorem lowered_stand (whole : Whole sql tokens) : ∀ token ∈ tokens.map Token.lower, ∃ next, Stands token next := by
  obtain ⟨rest, lexes, _⟩ := whole
  intro token member
  obtain ⟨original, inside, rfl⟩ := List.mem_map.mp member
  obtain ⟨next, stands⟩ := stands_of_lexes lexes original inside
  exact ⟨next, stands_lower stands⟩

theorem folded_lower (letters : Letters) {token : Token} {next : Option Char} (stands : Stands token next) :
    token.lower.folded letters = token.folded letters := by
  cases token with
  | word text =>
    have none : ∀ c, Token.word text = .other c → letters.casefold c = [c] := fun _ is => by cases is
    have none' : ∀ c, (Token.word text).lower = .other c → letters.casefold c = [c] := fun _ is => by cases is
    rw [folded_eq stands none, folded_eq (stands_lower stands) none', lower_idem]
  | quoted text => rfl
  | operator text => rfl
  | other c => rfl

/-- Texts whose tokens agree up to the case of words have one canonical form. -/
theorem canonical_of_lower (whole : Whole sql tokens) (whole' : Whole other others) (same : tokens.map Token.lower = others.map Token.lower) :
    canonical_sql_fragment letters (some sql) = canonical_sql_fragment letters (some other) := by
  have folded : ∀ {sql : Text} {tokens : List Token}, Whole sql tokens →
      tokens.map (Token.folded letters) = (tokens.map Token.lower).map (Token.folded letters) := by
    rintro sql tokens ⟨rest, lexes, _⟩
    rw [List.map_map]
    refine List.map_congr_left fun token member => ?_
    obtain ⟨next, stands⟩ := stands_of_lexes lexes token member
    exact (folded_lower letters stands).symm
  rw [canonical_whole whole, canonical_whole whole', folded whole, folded whole', same]

/-- The lowered tokens are read back from the canonical form. -/
theorem lowered_of_join (letters : Letters) (whole : Whole sql tokens) (settled : Settled letters tokens) :
    sql_tokens letters (join " ".toList ((tokens.map Token.lower).map Token.text)) = .ok ((tokens.map Token.lower).map Token.text) := by
  have joined : Whole (join " ".toList ((tokens.map Token.lower).map Token.text)) (tokens.map Token.lower) :=
    ⟨[], lexes_join (lowered_stand whole), Or.inl rfl⟩
  have settled_lower : Settled letters (tokens.map Token.lower) := by
    intro c member
    obtain ⟨token, inside, is⟩ := List.mem_map.mp member
    cases token with
    | other d => exact settled c (is ▸ inside)
    | word text => cases is
    | quoted text => cases is
    | operator text => cases is
  have lowered : (tokens.map Token.lower).map Token.lower = tokens.map Token.lower := by
    rw [List.map_map]
    exact List.map_congr_left fun token _ => lower_idem token
  rw [sql_tokens_whole letters joined, folded_list joined settled_lower, lowered]

/-- Where the characters outside words and quotes have no other case, only
    those have one. -/
theorem canonical_iff (letters : Letters) (whole : Whole sql tokens) (whole' : Whole other others) (settled : Settled letters tokens) (settled' : Settled letters others) :
    canonical_sql_fragment letters (some sql) = canonical_sql_fragment letters (some other) ↔
      tokens.map Token.lower = others.map Token.lower := by
  rw [canonical_whole whole, canonical_whole whole', folded_list whole settled, folded_list whole' settled']
  constructor
  · intro same
    have joined := Option.some.inj (Except.ok.inj same)
    have stand := lowered_stand whole
    have stand' := lowered_stand whole'
    have texts : ∀ {list : List Token}, (∀ token ∈ list, ∃ next, Stands token next) → (list.map Token.text).map Token.of_text = list := by
      intro list stand
      rw [List.map_map]
      refine (List.map_congr_left fun token member => ?_).trans (List.map_id list)
      obtain ⟨next, stands⟩ := stand token member
      exact of_text_eq stands
    have read := lowered_of_join letters whole settled
    rw [joined, lowered_of_join letters whole' settled'] at read
    rw [← texts stand, ← texts stand', Except.ok.inj read]
  · intro same
    rw [same]

theorem lexes_trans {last : Text} {rest : Text} (lexes : Lexes sql tokens rest) (later : Lexes rest others last) :
    Lexes sql (tokens ++ others) last := by
  induction lexes with
  | done => exact later
  | gap is_gap _ ih => exact .gap is_gap (ih later)
  | token stands _ ih => exact .token stands (ih later)

/-- White space or a comment between tokens changes nothing, unless it makes a
    comment of a dash before it. -/
theorem canonical_gap (letters : Letters) {before rest gap : Text} (lexes : Lexes (before ++ rest) tokens rest) (whole : Whole rest others)
    (is_gap : Gap gap) (apart : ¬(before.getLast? = some '-' ∧ gap.head? = some '-')) :
    canonical_sql_fragment letters (some (before ++ (gap ++ rest))) = canonical_sql_fragment letters (some (before ++ rest)) := by
  obtain ⟨own, split, kept⟩ := lexes_before_gap lexes
  rw [← List.append_cancel_right split] at kept
  obtain ⟨last, later, ends⟩ := whole
  have here : Whole (before ++ rest) (tokens ++ others) := ⟨last, lexes_trans lexes later, ends⟩
  have there : Whole (before ++ (gap ++ rest)) (tokens ++ others) := ⟨last, lexes_trans (kept rest is_gap apart) (.gap is_gap later), ends⟩
  rw [canonical_whole here, canonical_whole there]

end

end RedDock.SqlTokens
