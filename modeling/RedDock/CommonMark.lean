import Mathlib

/-!
# Code spans and table rows

What CommonMark reads as a code span and what its table extension reads as the
cells of a row.
-/
set_option autoImplicit false
namespace RedDock.CommonMark

/-- A null character is read as the replacement character. -/
def normalize (s : List Char) : List Char := s.map fun c => if c = '\x00' then '\uFFFD' else c

/-! ### Code spans -/

/-- Line endings are read as spaces. -/
def unfold_lines : List Char → List Char
  | [] => []
  | '\r' :: '\n' :: rest => ' ' :: unfold_lines rest
  | c :: rest => (if c = '\n' ∨ c = '\r' then ' ' else c) :: unfold_lines rest

/-- One space is taken off at both ends, where there are two and not only
    spaces. -/
def strip_padding (body : List Char) : List Char :=
  if body.head? = some ' ' ∧ body.getLast? = some ' ' ∧ ¬body.all (· = ' ') then body.tail.dropLast else body

def content (body : List Char) : List Char := strip_padding (unfold_lines body)

/-- The body before the first run of exactly `n` backticks and the text behind
    it; `run` backticks were just read. -/
def closing (n : Nat) : Nat → List Char → Option (List Char × List Char)
  | run, [] => if run = n then some ([], []) else none
  | run, c :: rest =>
    if c = '`' then closing n (run + 1) rest
    else if run = n then some ([], c :: rest)
    else (closing n 0 rest).map fun found => (List.replicate run '`' ++ c :: found.1, found.2)

/-- The backticks that a text begins with. -/
def opening (s : List Char) : Nat := (s.takeWhile (· = '`')).length

/-- The code span that a text begins with, as its content and the rest of the
    text. -/
def code_span (s : List Char) : Option (List Char × List Char) :=
  if opening s = 0 then none else (closing (opening s) 0 (s.drop (opening s))).map fun found => (content found.1, found.2)

/-! ### Rows of a table -/

/-- A row is cut at each pipe that no backslash escapes. -/
def split_cells : List Char → List (List Char)
  | [] => [[]]
  | '\\' :: c :: rest => (split_cells rest).modifyHead fun cell => '\\' :: c :: cell
  | c :: rest => if c = '|' then [] :: split_cells rest else (split_cells rest).modifyHead (c :: ·)

/-- An escaped pipe is read as a pipe, in code spans too. -/
def unescape_pipes : List Char → List Char
  | [] => []
  | '\\' :: '|' :: rest => '|' :: unescape_pipes rest
  | c :: rest => c :: unescape_pipes rest

def is_blank (c : Char) : Bool := c = ' ' || c = '\t' || c = '\n' || c = '\x0b' || c = '\x0c' || c = '\r'
def trim (s : List Char) : List Char := (s.dropWhile is_blank).rdropWhile is_blank
def clean (cell : List Char) : List Char := trim (unescape_pipes cell)

/-- The cells of a row between its outer pipes. -/
def cells (line : List Char) : List (List Char) :=
  let all := split_cells (trim line)
  let inner := if all.head?.any fun cell => cell.all is_blank then all.tail else all
  (if inner.getLast?.any fun cell => cell.all is_blank then inner.dropLast else inner).map clean

/-- A row has the columns of its table: further cells are left out and missing
    ones are empty. -/
def table_row (columns : Nat) (line : List Char) : List (List Char) :=
  (cells line ++ List.replicate columns []).take columns

/-! ### Reading a code span -/

/-- No run of `n` backticks in a text after `run` of them. -/
def RunsBelow (n : Nat) : Nat → List Char → Prop
  | run, [] => run < n
  | run, c :: rest => run < n ∧ RunsBelow n (if c = '`' then run + 1 else 0) rest

theorem closing_replicate {n : Nat} (count run : Nat) (after : List Char) :
    closing n run (List.replicate count '`' ++ after) = closing n (run + count) after := by
  induction count generalizing run with
  | zero => rfl
  | succ count ih =>
    rw [List.replicate_succ, List.cons_append, closing, if_pos rfl, ih, Nat.add_right_comm, Nat.add_assoc]

/-- A run of `n` that ends here closes. -/
theorem closing_here {n : Nat} {after : List Char} (ends : after.head? ≠ some '`') : closing n n after = some ([], after) := by
  cases after with
  | nil => rw [closing, if_pos rfl]
  | cons c rest =>
    have other : c ≠ '`' := fun is => ends (by rw [is]; rfl)
    rw [closing, if_neg other, if_pos rfl]

theorem closing_body {n run : Nat} {body after : List Char} {last : Char} (below : RunsBelow n run body) (other : last ≠ '`')
    (ends : after.head? ≠ some '`') : closing n run (body ++ last :: (List.replicate n '`' ++ after)) =
      some (List.replicate run '`' ++ (body ++ [last]), after) := by
  induction body generalizing run with
  | nil =>
    have short : run ≠ n := Nat.ne_of_lt below
    rw [List.nil_append, closing, if_neg other, if_neg short, closing_replicate, Nat.zero_add, closing_here ends]
    rfl
  | cons c body ih =>
    obtain ⟨short, below⟩ := below
    rw [List.cons_append, closing]
    by_cases tick : c = '`'
    · rw [if_pos tick] at below ⊢
      rw [ih below, tick, List.replicate_succ']
      simp
    · rw [if_neg tick] at below ⊢
      rw [if_neg (Nat.ne_of_lt short), ih below]
      simp

/-- Between two runs of as many backticks, a body whose runs are shorter is the
    code span. -/
theorem code_span_delimited {n : Nat} {body after : List Char} {last : Char} (pos : 0 < n)
    (starts : (body ++ [last]).head? ≠ some '`') (below : RunsBelow n 0 body) (other : last ≠ '`') (ends : after.head? ≠ some '`') :
    code_span (List.replicate n '`' ++ (body ++ last :: (List.replicate n '`' ++ after))) = some (content (body ++ [last]), after) := by
  have no_more : (body ++ last :: (List.replicate n '`' ++ after)).takeWhile (· = '`') = [] := by
    cases body with
    | nil => rw [List.nil_append, List.takeWhile_cons_of_neg (by simpa using other)]
    | cons c body =>
      have first : c ≠ '`' := fun is => starts (by rw [is]; rfl)
      rw [List.cons_append, List.takeWhile_cons_of_neg (by simpa using first)]
  have opens : opening (List.replicate n '`' ++ (body ++ last :: (List.replicate n '`' ++ after))) = n := by
    rw [opening, List.takeWhile_append_of_pos (by simp), no_more]
    simp
  rw [code_span, opens, if_neg (Nat.pos_iff_ne_zero.mp pos), List.drop_left' List.length_replicate, closing_body below other ends]
  rfl

/-! ### Counting characters -/

theorem closing_split {n run : Nat} {s : List Char} {found : List Char × List Char} (is : closing n run s = some found) :
    List.replicate run '`' ++ s = found.1 ++ (List.replicate n '`' ++ found.2) := by
  induction s generalizing run found with
  | nil =>
    rw [closing] at is
    split at is
    · rename_i same
      cases is
      rw [same]
      rfl
    · cases is
  | cons c rest ih =>
    rw [closing] at is
    split at is
    · rename_i tick
      rw [← ih is, tick, List.replicate_succ']
      simp
    · split at is
      · rename_i same
        cases is
        rw [same]
        rfl
      · obtain ⟨inner, found_inner, rfl⟩ := Option.map_eq_some_iff.mp is
        have later := ih found_inner
        rw [List.replicate_zero, List.nil_append] at later
        simp [later]

theorem count_unfold_lines {d : Char} (visible : d ≠ ' ') (body : List Char) : (unfold_lines body).count d ≤ body.count d := by
  induction body using unfold_lines.induct with
  | case1 => rfl
  | case2 rest ih =>
    rw [unfold_lines, List.count_cons_of_ne visible.symm]
    exact ih.trans ((List.Sublist.cons _ (List.sublist_cons_self _ _)).count_le d)
  | case3 c rest other ih =>
    rw [unfold_lines.eq_3 c rest other]
    split
    · rw [List.count_cons_of_ne visible.symm]
      exact ih.trans ((List.sublist_cons_self _ _).count_le d)
    · rw [List.count_cons, List.count_cons]
      exact Nat.add_le_add_right ih _

theorem strip_padding_sublist (body : List Char) : (strip_padding body).Sublist body := by
  unfold strip_padding
  split
  · exact (List.dropLast_sublist _).trans (List.tail_sublist _)
  · exact List.Sublist.refl _

/-- A code span shows no more of a character than there is of it. -/
theorem count_code_span {d : Char} (visible : d ≠ ' ') {s : List Char} {span : List Char × List Char} (is : code_span s = some span) :
    span.1.count d ≤ s.count d := by
  unfold code_span at is
  split at is
  · cases is
  obtain ⟨found, closes, rfl⟩ := Option.map_eq_some_iff.mp is
  have split_there := closing_split closes
  rw [List.replicate_zero, List.nil_append] at split_there
  calc (content found.1).count d
      ≤ (unfold_lines found.1).count d := (strip_padding_sublist _).count_le d
    _ ≤ found.1.count d := count_unfold_lines visible _
    _ ≤ (s.drop (opening s)).count d := by rw [split_there, List.count_append]; exact Nat.le_add_right _ _
    _ ≤ s.count d := (List.drop_sublist _ _).count_le d

theorem trim_sublist (s : List Char) : (trim s).Sublist s :=
  ((List.rdropWhile_prefix _ _).sublist).trans (List.dropWhile_sublist _)

/-! ### The first cell of a row -/

theorem modifyHead_ne_nil {f : List Char → List Char} {items : List (List Char)} (some_item : items ≠ []) : items.modifyHead f ≠ [] := by
  obtain ⟨head, tail, rfl⟩ := List.exists_cons_of_ne_nil some_item
  exact List.cons_ne_nil _ _

theorem split_cells_ne_nil (s : List Char) : split_cells s ≠ [] := by
  induction s using split_cells.induct with
  | case1 => exact List.cons_ne_nil _ _
  | case2 c rest ih => exact modifyHead_ne_nil ih
  | case3 rest other ih =>
    rw [split_cells.eq_3 _ _ other, if_pos rfl]
    exact List.cons_ne_nil _ _
  | case4 c rest other not_pipe ih =>
    rw [split_cells.eq_3 _ _ other, if_neg not_pipe]
    exact modifyHead_ne_nil ih

theorem count_pipes_unescape (s : List Char) : (unescape_pipes s).count '|' = s.count '|' := by
  induction s using unescape_pipes.induct with
  | case1 => rfl
  | case2 rest ih => rw [unescape_pipes]; simp [ih]
  | case3 c rest other ih => rw [unescape_pipes.eq_3 c rest other, List.count_cons, List.count_cons, ih]

theorem unescape_cons (c : Char) (s : List Char) :
    (c = '\\' ∧ ∃ rest, s = '|' :: rest) ∨ unescape_pipes (c :: s) = c :: unescape_pipes s := by
  by_cases escaped : c = '\\' ∧ ∃ rest, s = '|' :: rest
  · exact Or.inl escaped
  · exact Or.inr (unescape_pipes.eq_3 c s fun rest slash pipe => escaped ⟨slash, rest, pipe⟩)

/-- One more character, at most one more backslash. -/
theorem count_unescape_cons (c : Char) (s : List Char) :
    (unescape_pipes (c :: s)).count '\\' ≤ (unescape_pipes s).count '\\' + [c].count '\\' := by
  rcases unescape_cons c s with ⟨rfl, rest, rfl⟩ | is
  · have pipe : unescape_pipes ('|' :: rest) = '|' :: unescape_pipes rest := unescape_pipes.eq_3 '|' rest fun _ slash _ => by cases slash
    rw [unescape_pipes, pipe]
    exact Nat.le_add_right _ _
  · rw [is, List.count_cons, List.count_singleton]

theorem count_unescape_le (s : List Char) : (unescape_pipes s).count '\\' ≤ s.count '\\' := by
  induction s with
  | nil => rfl
  | cons c s ih =>
    have more := count_unescape_cons c s
    rw [List.count_singleton] at more
    rw [List.count_cons]
    omega

/-- A cell before a blank and a pipe: it is cut at a pipe of its own or it is
    whole, and then escapes whatever pipes it has. -/
theorem split_cells_head (cell rest : List Char) : ∃ head tail, split_cells (cell ++ ' ' :: '|' :: rest) = head :: tail ∧
    tail.getLast? = (split_cells rest).getLast? ∧
    ((∃ after, cell = head ++ '|' :: after) ∨ head = cell ++ [' '] ∧ tail = split_cells rest ∧
      ('|' ∈ cell → (unescape_pipes head).count '\\' < head.count '\\')) := by
  induction cell using split_cells.induct with
  | case1 =>
    refine ⟨[' '], split_cells rest, ?_, rfl, Or.inr ⟨rfl, rfl, fun none => by cases none⟩⟩
    simp [split_cells]
  | case2 c cell ih =>
    obtain ⟨head, tail, is, same_last, cases_of⟩ := ih
    refine ⟨'\\' :: c :: head, tail, ?_, same_last, ?_⟩
    · rw [List.cons_append, List.cons_append, split_cells, is]
      rfl
    · rcases cases_of with ⟨after, cut⟩ | ⟨whole, later, fewer⟩
      · exact Or.inl ⟨after, by rw [cut]; rfl⟩
      · refine Or.inr ⟨by rw [whole]; rfl, later, fun pipe => ?_⟩
        by_cases escaped : c = '|'
        · have less := count_unescape_le head
          rw [escaped, unescape_pipes, List.count_cons_self, List.count_cons_of_ne (by decide), List.count_cons_of_ne (by decide)]
          exact Nat.lt_succ_of_le less
        · have inside : '|' ∈ cell := by simpa [escaped, Ne.symm escaped] using pipe
          have less := fewer inside
          have one := count_unescape_cons '\\' (c :: head)
          have two := count_unescape_cons c head
          rw [List.count_singleton] at one two
          rw [List.count_cons, List.count_cons]
          omega
  | case3 cell other ih =>
    obtain ⟨head, tail, is, same_last, _⟩ := ih
    have not_slash : ∀ d others, '|' = '\\' → cell ++ ' ' :: '|' :: rest = d :: others → False := fun _ _ slash _ => by cases slash
    refine ⟨[], head :: tail, ?_, ?_, Or.inl ⟨cell, rfl⟩⟩
    · rw [List.cons_append, split_cells.eq_3 _ _ not_slash, if_pos rfl, is]
    · rw [List.getLast?_cons, same_last, List.getLast?_eq_some_getLast (split_cells_ne_nil rest)]
      rfl
  | case4 c cell other not_pipe ih =>
    by_cases slash : c = '\\'
    · -- the backslash escapes the blank behind the cell
      have none : cell = [] := by
        cases cell with
        | nil => rfl
        | cons d cell => exact (other d cell slash rfl).elim
      rw [none, slash]
      refine ⟨['\\', ' '], split_cells rest, ?_, rfl, Or.inr ⟨rfl, rfl, fun pipe => ?_⟩⟩
      · simp [split_cells]
      · simp at pipe
    · obtain ⟨head, tail, is, same_last, cases_of⟩ := ih
      refine ⟨c :: head, tail, ?_, same_last, ?_⟩
      · rw [List.cons_append, split_cells.eq_3 _ _ fun _ _ is_slash _ => slash is_slash, if_neg not_pipe, is]
        rfl
      · rcases cases_of with ⟨after, cut⟩ | ⟨whole, later, fewer⟩
        · exact Or.inl ⟨after, by rw [cut]; rfl⟩
        · refine Or.inr ⟨by rw [whole]; rfl, later, fun pipe => ?_⟩
          have inside : '|' ∈ cell := (List.mem_cons.mp pipe).resolve_left (Ne.symm not_pipe)
          have less := fewer inside
          have one := count_unescape_cons c head
          rw [List.count_singleton] at one
          rw [List.count_cons]
          omega

/-! ### A row of given cells -/

/-- Cells, each between a blank and a blank with a pipe. -/
def row_body (texts : List (List Char)) : List Char := texts.flatMap fun text => ' ' :: text ++ [' ', '|']
def row_line (texts : List (List Char)) : List Char := '|' :: row_body texts

theorem row_body_cons (text : List Char) (texts : List (List Char)) :
    row_body (text :: texts) = (' ' :: text) ++ ' ' :: '|' :: row_body texts := by simp [row_body]

theorem row_last (texts : List (List Char)) : (split_cells (row_body texts)).getLast? = some [] := by
  induction texts with
  | nil => rfl
  | cons text texts ih =>
    obtain ⟨head, tail, is, same_last, _⟩ := split_cells_head (' ' :: text) (row_body texts)
    rw [row_body_cons, is, List.getLast?_cons, same_last, ih]
    rfl

theorem row_line_ends (texts : List (List Char)) : ∃ start, row_line texts = start ++ ['|'] := by
  induction texts with
  | nil => exact ⟨[], rfl⟩
  | cons text texts ih =>
    obtain ⟨start, is⟩ := ih
    refine ⟨'|' :: ' ' :: text ++ ' ' :: start, ?_⟩
    rw [row_line] at is
    rw [row_line, row_body_cons, is]
    simp

theorem trim_eq {s : List Char} (starts : s.head?.any is_blank = false) (ends : s.getLast?.any is_blank = false) : trim s = s := by
  have none_first : s.dropWhile is_blank = s := by
    cases s with
    | nil => rfl
    | cons c s => rw [List.dropWhile_cons_of_neg (by simpa using starts)]
  rw [trim, none_first]
  cases s using List.reverseRecOn with
  | nil => rfl
  | append_singleton s c => rw [List.rdropWhile_concat_neg _ _ _ (by simpa using ends)]

/-- The cells of a row. -/
theorem cells_row_line (texts : List (List Char)) : cells (row_line texts) = (split_cells (row_body texts)).dropLast.map clean := by
  obtain ⟨start, ends⟩ := row_line_ends texts
  have whole : trim (row_line texts) = row_line texts := trim_eq rfl (by rw [ends, List.getLast?_concat]; rfl)
  have not_slash : ∀ d others, '|' = '\\' → row_body texts = d :: others → False := fun _ _ slash _ => by cases slash
  have outer : split_cells (row_line texts) = [] :: split_cells (row_body texts) := by
    rw [row_line, split_cells.eq_3 _ _ not_slash, if_pos rfl]
  rw [cells, whole, outer]
  simp [row_last texts]

end RedDock.CommonMark
