import RedDock.Fallible
import RedDock.Text

/-!
# Scanning the SQL of a schema

The scanners of a backup's schema: what they skip, the canonical form of a text
and the clauses of a table. Each works on what is left of the text and goes on
with less.
-/
set_option autoImplicit false
namespace RedDock.SqlScanner
open Text Fallible

/-- The parts of the Unicode database behind `str.casefold`, `str.isalnum` and
    the word characters of a regular expression. -/
structure Letters where
  casefold : Char → Text
  isalnum : Char → Bool
  casefold_ascii : ∀ c : Char, c.toNat < 128 → casefold c = [c.toLower]
  isalnum_ascii : ∀ c : Char, c.toNat < 128 → isalnum c = c.isAlphanum
  isalnum_space : ∀ c : Char, isSpace c = true → isalnum c = false
  isalnum_kelvin : isalnum '\u212A' = true

/-- `BackupError`, by its message. -/
abbrev Scanned (α : Type) := Except Text α

def UNTERMINATED_QUOTE : Text := "SQLite schema contains unterminated quoted SQL".toList
def UNTERMINATED_COMMENT : Text := "SQLite schema contains an unterminated SQL comment".toList

/-! ### What is skipped -/

def closing_of (opening : Char) : Char := if opening = '[' then ']' else opening
def is_quote (c : Char) : Bool := c = '\'' || c = '"' || c = '`' || c = '['

/-- `_skip_sql_quoted`, behind the opening character: the rest of the quoted
    text and what follows it. -/
def skip_sql_quoted (closing : Char) : Text → Scanned (Text × Text)
  | [] => .error UNTERMINATED_QUOTE
  | [c] => if c = closing then .ok ([c], []) else .error UNTERMINATED_QUOTE
  | c :: d :: rest =>
    if c = closing then
      if d = closing then (skip_sql_quoted closing rest).map fun found => (c :: d :: found.1, found.2) else .ok ([c], d :: rest)
    else (skip_sql_quoted closing (d :: rest)).map fun found => (c :: found.1, found.2)

/-- A text up to the first line feed, and what follows. -/
def line_comment : Text → Text × Text
  | [] => ([], [])
  | c :: rest => if c = '\n' then ([c], rest) else (c :: (line_comment rest).1, (line_comment rest).2)

/-- A text up to the first `*/`, and what follows. -/
def block_comment : Text → Scanned (Text × Text)
  | [] => .error UNTERMINATED_COMMENT
  | '*' :: '/' :: rest => .ok ("*/".toList, rest)
  | c :: rest => (block_comment rest).map fun found => (c :: found.1, found.2)

/-- `_skip_sql_comment`: a comment at the start of a text, and what follows. -/
def skip_sql_comment : Text → Scanned (Option (Text × Text))
  | '-' :: '-' :: rest => .ok (some ('-' :: '-' :: (line_comment rest).1, (line_comment rest).2))
  | '/' :: '*' :: rest => (block_comment rest).map fun found => some ('/' :: '*' :: found.1, found.2)
  | _ => .ok none

/-- What a text begins with. -/
inductive Lead
  | comment (skipped rest : Text)
  | quoted (skipped rest : Text)
  | plain

/-- The two tests that each loop begins with. -/
def lead : Text → Scanned Lead
  | [] => .ok .plain
  | c :: rest => do
    match ← skip_sql_comment (c :: rest) with
    | some (skipped, after) => return .comment skipped after
    | none =>
      if is_quote c then
        let (skipped, after) ← skip_sql_quoted (closing_of c) rest
        return .quoted (c :: skipped) after
      else return .plain

theorem skip_sql_quoted_split {closing : Char} {sql : Text} {found : Text × Text} (is : skip_sql_quoted closing sql = .ok found) :
    sql = found.1 ++ found.2 := by
  induction sql using skip_sql_quoted.induct closing generalizing found with
  | case1 => cases is
  | case2 => rw [skip_sql_quoted, if_pos rfl] at is; cases is; rfl
  | case3 c other => rw [skip_sql_quoted, if_neg other] at is; cases is
  | case4 rest ih =>
    rw [skip_sql_quoted, if_pos rfl, if_pos rfl] at is
    obtain ⟨inner, skipped, rfl⟩ := map_eq_ok.mp is
    rw [ih skipped]
    rfl
  | case5 d rest other =>
    rw [skip_sql_quoted, if_pos rfl, if_neg other] at is
    cases is
    rfl
  | case6 c d rest other ih =>
    rw [skip_sql_quoted, if_neg other] at is
    obtain ⟨inner, skipped, rfl⟩ := map_eq_ok.mp is
    rw [ih skipped]
    rfl

theorem line_comment_split (sql : Text) : sql = (line_comment sql).1 ++ (line_comment sql).2 := by
  induction sql with
  | nil => rfl
  | cons c rest ih =>
    rw [line_comment]
    split
    · rfl
    · exact congrArg (c :: ·) ih

theorem block_comment_split {sql : Text} {found : Text × Text} (is : block_comment sql = .ok found) : sql = found.1 ++ found.2 := by
  induction sql using block_comment.induct generalizing found with
  | case1 => cases is
  | case2 rest => cases is; rfl
  | case3 c rest other ih =>
    rw [block_comment.eq_3 c rest other] at is
    obtain ⟨inner, skipped, rfl⟩ := map_eq_ok.mp is
    rw [ih skipped]
    rfl

theorem skip_sql_comment_split {sql : Text} {found : Text × Text} (is : skip_sql_comment sql = .ok (some found)) :
    sql = found.1 ++ found.2 ∧ found.1 ≠ [] := by
  unfold skip_sql_comment at is
  split at is
  · rename_i rest
    cases is
    exact ⟨congrArg ('-' :: '-' :: ·) (line_comment_split rest), List.cons_ne_nil _ _⟩
  · rename_i rest
    obtain ⟨inner, skipped, is⟩ := map_eq_ok.mp is
    cases is
    exact ⟨congrArg ('/' :: '*' :: ·) (block_comment_split skipped), List.cons_ne_nil _ _⟩
  · cases is

/-- What is skipped is the start of the text. -/
theorem lead_split {sql : Text} {found : Lead} (is : lead sql = .ok found) : match found with
    | .comment skipped rest | .quoted skipped rest => sql = skipped ++ rest ∧ skipped ≠ []
    | .plain => True := by
  cases sql with
  | nil => cases is; trivial
  | cons c rest =>
    obtain ⟨comment, read, is⟩ := bind_eq_ok.mp is
    cases comment with
    | some comment =>
      cases is
      exact skip_sql_comment_split read
    | none =>
      simp only at is
      split at is
      · obtain ⟨quoted, skipped, is⟩ := bind_eq_ok.mp is
        cases is
        exact ⟨congrArg (c :: ·) (skip_sql_quoted_split skipped), List.cons_ne_nil _ _⟩
      · cases is
        trivial

theorem comment_shorter {sql skipped rest : Text} (is : lead sql = .ok (.comment skipped rest)) : rest.length < sql.length := by
  obtain ⟨split, some_text⟩ := lead_split is
  rw [split, List.length_append]
  exact Nat.lt_add_of_pos_left (List.length_pos_iff.mpr some_text)

theorem quoted_shorter {sql skipped rest : Text} (is : lead sql = .ok (.quoted skipped rest)) : rest.length < sql.length := by
  obtain ⟨split, some_text⟩ := lead_split is
  rw [split, List.length_append]
  exact Nat.lt_add_of_pos_left (List.length_pos_iff.mpr some_text)

/-! ### The canonical form -/

/-- `[A-Za-z0-9_$]` -/
def word_character (c : Char) : Bool := c.isAlphanum || c = '_' || c = '$'

def OPERATORS : List Text :=
  ["->>".toList, "<=".toList, ">=".toList, "<>".toList, "!=".toList, "||".toList, "->".toList]

section
variable (letters : Letters)

/-- The loop of `_canonical_sql_fragment`. -/
def sql_tokens (sql : Text) : Scanned (List Text) :=
  match sql with
  | [] => .ok []
  | character :: rest => match _found : lead (character :: rest) with
    | .error message => .error message
    | .ok (.comment _ after) => sql_tokens after
    | .ok (.quoted quoted after) => (sql_tokens after).map (quoted :: ·)
    | .ok .plain =>
      if isSpace character then sql_tokens rest
      else if word_character character then
        (sql_tokens (rest.dropWhile word_character)).map ((character :: rest.takeWhile word_character).flatMap letters.casefold :: ·)
      else match _operator : OPERATORS.find? (·.isPrefixOf (character :: rest)) with
        | some candidate => (sql_tokens ((character :: rest).drop candidate.length)).map (candidate :: ·)
        | none => (sql_tokens rest).map (letters.casefold character :: ·)
termination_by sql.length
decreasing_by
  · exact comment_shorter _found
  · exact quoted_shorter _found
  · exact Nat.lt_succ_self _
  · exact Nat.lt_succ_of_le (List.length_dropWhile_le _ _)
  · have listed := List.mem_of_find?_eq_some _operator
    have filled : ∀ operator ∈ OPERATORS, 0 < operator.length := by decide
    have some_text := filled candidate listed
    simp only [List.length_drop, List.length_cons]
    omega
  · exact Nat.lt_succ_self _

/-- `_canonical_sql_fragment` -/
def canonical_sql_fragment : Option Text → Scanned (Option Text)
  | none => .ok none
  | some value => (sql_tokens letters (strip value)).map fun tokens => some (join " ".toList tokens)

end

/-! ### Check clauses -/

/-- White space and comments. -/
def skip_gap (sql : Text) : Scanned Text :=
  match sql with
  | [] => .ok []
  | c :: rest => match _found : skip_sql_comment (c :: rest) with
    | .error message => .error message
    | .ok (some comment) => skip_gap comment.2
    | .ok none => if isSpace c then skip_gap rest else .ok (c :: rest)
termination_by sql.length
decreasing_by
  · obtain ⟨split, some_text⟩ := skip_sql_comment_split _found
    rw [split, List.length_append]
    exact Nat.lt_add_of_pos_left (List.length_pos_iff.mpr some_text)
  · exact Nat.lt_succ_self _

/-- From behind an opening parenthesis, at some depth: the text up to the
    parenthesis that closes the outermost one, and what follows. -/
def balanced (unbalanced : Text) (depth : Nat) (sql : Text) : Scanned (Text × Text) :=
  match sql with
  | [] => .error unbalanced
  | c :: rest => match _found : lead (c :: rest) with
    | .error message => .error message
    | .ok (.comment skipped after) => (balanced unbalanced depth after).map fun found => (skipped ++ found.1, found.2)
    | .ok (.quoted skipped after) => (balanced unbalanced depth after).map fun found => (skipped ++ found.1, found.2)
    | .ok .plain =>
      if c = '(' then (balanced unbalanced (depth + 1) rest).map fun found => (c :: found.1, found.2)
      else if c = ')' then
        if depth = 1 then .ok ([], rest) else (balanced unbalanced (depth - 1) rest).map fun found => (c :: found.1, found.2)
      else (balanced unbalanced depth rest).map fun found => (c :: found.1, found.2)
termination_by sql.length
decreasing_by
  · exact comment_shorter _found
  · exact quoted_shorter _found
  all_goals exact Nat.lt_succ_self _

/-- `check` in the cases that a regular expression takes for one. -/
def CHECK : List (List Char) := [['c', 'C'], ['h', 'H'], ['e', 'E'], ['c', 'C'], ['k', 'K', '\u212A']]

def INVALID_CHECK : Text := "SQLite schema contains an invalid CHECK clause".toList
def UNTERMINATED_CHECK : Text := "SQLite schema contains an unterminated CHECK clause".toList

/-- Characters one by one among those that are allowed. -/
def matches_letters : List (List Char) → Text → Option Text
  | [], sql => some sql
  | allowed :: more, c :: rest => if c ∈ allowed then matches_letters more rest else none
  | _ :: _, [] => none

theorem matches_letters_length {allowed : List (List Char)} {sql rest : Text} (is : matches_letters allowed sql = some rest) :
    rest.length + allowed.length = sql.length := by
  induction allowed generalizing sql with
  | nil => cases is; rfl
  | cons first allowed ih =>
    cases sql with
    | nil => cases is
    | cons c sql =>
      rw [matches_letters] at is
      split at is
      · rw [List.length_cons, List.length_cons, ← ih is, Nat.add_assoc]
      · cases is

theorem skip_gap_length {sql rest : Text} (is : skip_gap sql = .ok rest) : rest.length ≤ sql.length := by
  induction size : sql.length using Nat.strong_induction_on generalizing sql with
  | _ n ih =>
    rw [skip_gap.eq_def] at is
    split at is
    · cases is
      exact Nat.zero_le _
    · split at is
      · cases is
      · rename_i c after comment read
        have shorter : comment.2.length < n := by
          obtain ⟨split, some_text⟩ := skip_sql_comment_split read
          rw [← size, split, List.length_append]
          exact Nat.lt_add_of_pos_left (List.length_pos_iff.mpr some_text)
        exact (ih _ shorter is rfl).trans (Nat.le_of_lt shorter)
      · split at is
        · have shorter := Nat.lt_of_lt_of_eq (Nat.lt_succ_self _) size
          exact (ih _ shorter is rfl).trans (Nat.le_of_lt shorter)
        · cases is
          exact Nat.le_of_eq size

theorem balanced_length {unbalanced : Text} {depth : Nat} {sql : Text} {found : Text × Text}
    (is : balanced unbalanced depth sql = .ok found) : found.2.length < sql.length := by
  induction size : sql.length using Nat.strong_induction_on generalizing sql depth found with
  | _ n ih =>
    rw [balanced.eq_def] at is
    split at is
    · cases is
    · rename_i c rest
      have one_less : rest.length < n := Nat.lt_of_lt_of_eq (Nat.lt_succ_self _) size
      have step : ∀ (more : Text) {depth' : Nat} {after : Text}, after.length < n →
          (balanced unbalanced depth' after).map (fun found => (more ++ found.1, found.2)) = .ok found → found.2.length < n := by
        intro more depth' after shorter is
        obtain ⟨inner, ran, rfl⟩ := map_eq_ok.mp is
        exact (ih _ shorter ran rfl).trans shorter
      split at is
      · cases is
      · rename_i read
        exact step _ (size ▸ comment_shorter read) is
      · rename_i read
        exact step _ (size ▸ quoted_shorter read) is
      · split at is
        · exact step [c] one_less is
        · split at is
          · split at is
            · cases is
              exact one_less
            · exact step [c] one_less is
          · exact step [c] one_less is

section
variable (letters : Letters)

/-- `\w`, of which there is none on both sides of `\b`. -/
def part_of_word (c : Char) : Bool := letters.isalnum c || c = '_'

/-- `re.match(r"check\b", sql, re.IGNORECASE)`, as what follows. -/
def match_check (sql : Text) : Option Text := (matches_letters CHECK sql).filter fun rest => !rest.head?.any (part_of_word letters)

/-- The loop of `_check_clauses`, behind a character. -/
def check_clauses_from (previous : Option Char) (sql : Text) : Scanned (List Text) :=
  match sql with
  | [] => .ok []
  | c :: rest => match _found : lead (c :: rest) with
    | .error message => .error message
    | .ok (.comment skipped after) => check_clauses_from skipped.getLast? after
    | .ok (.quoted skipped after) => check_clauses_from skipped.getLast? after
    | .ok .plain => match _check : match_check letters (c :: rest) with
      | none => check_clauses_from (some c) rest
      | some after =>
        if previous.any (part_of_word letters) then check_clauses_from (some c) rest
        else match _gap : skip_gap after with
          | .error message => .error message
          | .ok ('(' :: inside) => match _clause : balanced UNTERMINATED_CHECK 1 inside with
            | .error message => .error message
            | .ok clause => do
              let expression ← canonical_sql_fragment letters (some clause.1)
              return expression.getD "None".toList :: (← check_clauses_from (some ')') clause.2)
          | .ok _ => .error INVALID_CHECK
termination_by sql.length
decreasing_by
  · exact comment_shorter _found
  · exact quoted_shorter _found
  · exact Nat.lt_succ_self _
  · exact Nat.lt_succ_self _
  · have inside_rest := (balanced_length _clause).trans_le (Nat.le_of_succ_le (skip_gap_length _gap))
    have rest_sql := matches_letters_length (Option.filter_eq_some_iff.mp _check).1
    exact inside_rest.trans_le (rest_sql ▸ Nat.le_add_right _ _)

/-- `_check_clauses` -/
def check_clauses (create_sql : Option Text) : Scanned (List Text) :=
  (check_clauses_from letters none (create_sql.getD [])).map fun clauses => clauses.insertionSort (· ≤ ·)

end

/-! ### Table declarations -/

def NO_COLUMNS : Text := "SQLite table declaration has no column list".toList
def EMPTY_CLAUSE : Text := "SQLite table declaration contains an empty clause".toList
def UNBALANCED : Text := "SQLite table declaration has unbalanced parentheses".toList

/-- What follows the first opening parenthesis. -/
def column_list (sql : Text) : Scanned Text :=
  match sql with
  | [] => .error NO_COLUMNS
  | c :: rest => match _found : lead (c :: rest) with
    | .error message => .error message
    | .ok (.comment _ after) => column_list after
    | .ok (.quoted _ after) => column_list after
    | .ok .plain => if c = '(' then .ok rest else column_list rest
termination_by sql.length
decreasing_by
  · exact comment_shorter _found
  · exact quoted_shorter _found
  · exact Nat.lt_succ_self _

section
variable (letters : Letters)

/-- `_canonical_table_clause`: without the name of a constraint. -/
def canonical_table_clause (value : Text) : Scanned Text := do
  let canonical := (← canonical_sql_fragment letters (some value)).getD []
  if "constraint ".toList.isPrefixOf canonical then
    -- `split(" ", 2)` has a third part where there are two spaces
    match (canonical.drop 11).dropWhile (· ≠ ' ') with
    | _ :: third => return third
    | [] => return canonical
  else return canonical

/-- The loop over the clauses, with the clause that is being read. -/
def table_clauses (depth : Nat) (clause : Text) (sql : Text) : Scanned (List Text × Text) :=
  match sql with
  | [] => .error UNBALANCED
  | c :: rest => match _found : lead (c :: rest) with
    | .error message => .error message
    | .ok (.comment skipped after) => table_clauses depth (clause ++ skipped) after
    | .ok (.quoted skipped after) => table_clauses depth (clause ++ skipped) after
    | .ok .plain =>
      if c = '(' then table_clauses (depth + 1) (clause ++ [c]) rest
      else if c = ')' then
        if depth = 1 then do
          let last ← canonical_table_clause letters clause
          return (if last.isEmpty then [] else [last], rest)
        else table_clauses (depth - 1) (clause ++ [c]) rest
      else if c = ',' ∧ depth = 1 then do
        let read ← canonical_table_clause letters clause
        if read.isEmpty then .error EMPTY_CLAUSE
        else
          let (clauses, suffix) ← table_clauses depth [] rest
          return (read :: clauses, suffix)
      else table_clauses depth (clause ++ [c]) rest
termination_by sql.length
decreasing_by
  · exact comment_shorter _found
  · exact quoted_shorter _found
  all_goals exact Nat.lt_succ_self _

/-- `_table_ddl_contract` -/
def table_ddl_contract (create_sql : Option Text) : Scanned (List Text × Text) := do
  let (clauses, suffix) ← table_clauses letters 1 [] (← column_list (create_sql.getD []))
  return (clauses.insertionSort (· ≤ ·), (← canonical_sql_fragment letters (some suffix)).getD [])

end

end RedDock.SqlScanner
