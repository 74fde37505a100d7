import RedDock.CommonMark
import RedDock.HttpHeaders

/-!
# Retained text in a report

What a reader of the report's Markdown makes of the text that `_md` writes: one
code span with the collapsed text, in one cell of a row, unless the text is
blank or has a null character or a pipe.
-/
set_option autoImplicit false
namespace RedDock.MarkdownSpans
open Text CommonMark
open HttpHeaders (split)

/-- `" ".join(text.split())` -/
def collapse (value : Text) : Text := join " ".toList (split value)

/-- The loop over the text: the longest run of backticks, of which `current`
    were just read. -/
def longest_run : Nat → Nat → Text → Nat
  | longest, _, [] => longest
  | longest, current, character :: rest =>
    let current := if character = '`' then current + 1 else 0
    longest_run (max longest current) current rest

/-- `_md` -/
def md : Option Text → Text
  | none => "—".toList
  | some value =>
    let text := collapse value
    let delimiter := List.replicate (longest_run 0 0 text + 1) '`'
    let padding := if text.head? = some '`' || text.getLast? = some '`' then " ".toList else []
    delimiter ++ padding ++ text ++ padding ++ delimiter

/-- What a row of the technical report has in a column: an id or a value. -/
inductive Column
  | number (n : Nat)
  | text (value : Option Text)

def Column.render : Column → Text
  | .number n => dec n
  | .text value => md value

/-- What a reader sees in a cell. -/
inductive Shown
  | span (content : Text)
  | literal (cell : Text)
  deriving DecidableEq

def read_cell (cell : Text) : Shown := match code_span cell with
  | some (content, []) => .span content
  | _ => .literal cell

def read_row (columns : Nat) (line : Text) : List Shown := (table_row columns (normalize line)).map read_cell

/-- What it should be. -/
def Column.expected : Column → Shown
  | .number n => .literal (dec n)
  | .text none => .literal "—".toList
  | .text (some value) => .span (collapse value)

/-- Each value of a row is one code span, in its own cell. -/
structure Contained (columns : List Column) : Prop where
  spans : ∀ value, Column.text (some value) ∈ columns → code_span (normalize (md (some value))) = some (collapse value, [])
  cells : read_row columns.length (row_line (columns.map Column.render)) = columns.map Column.expected

/-- A value with something to show, without null characters and pipes. -/
structure Plain (value : Text) : Prop where
  some_text : ∃ c ∈ value, isSpace c = false
  no_null : '\x00' ∉ value
  no_pipe : '|' ∉ value

/-! ### Collapsed text -/

theorem flatten_splitOnP (p : Char → Bool) (t : Text) : (t.splitOnP p).flatten = t.filter (!p ·) := by
  induction t with
  | nil => rfl
  | cons c t ih =>
    obtain ⟨head, tail, pieces⟩ := List.exists_cons_of_ne_nil (List.splitOnP_ne_nil p t)
    rw [List.splitOnP_cons_eq_if_modifyHead]
    rw [pieces] at ih ⊢
    cases blank : p c with
    | true => simpa [blank] using ih
    | false => simpa [blank] using ih

theorem flatten_split (t : Text) : (split t).flatten = t.filter (!isSpace ·) := by
  rw [← flatten_splitOnP, split]
  induction t.splitOnP isSpace with
  | nil => rfl
  | cons word words ih => cases word with
    | nil => simpa using ih
    | cons c word => simpa using ih

theorem mem_join_of_mem {sep word : Text} {words : List Text} {c : Char} (listed : word ∈ words) (member : c ∈ word) :
    c ∈ join sep words := by
  induction words with
  | nil => cases listed
  | cons first words ih =>
    cases words with
    | nil =>
      rw [List.mem_singleton.mp listed] at member
      simpa [join] using member
    | cons second words =>
      rw [join_cons_cons, List.mem_append, List.mem_append]
      rcases List.mem_cons.mp listed with rfl | later
      · exact Or.inl (Or.inl member)
      · exact Or.inr (ih later)

section
variable {value : Text}

theorem mem_word {word : Text} (listed : word ∈ split value) {c : Char} (member : c ∈ word) : c ∈ value ∧ isSpace c = false := by
  have inside : c ∈ (split value).flatten := List.mem_flatten.mpr ⟨word, listed, member⟩
  rw [flatten_split, List.mem_filter] at inside
  exact ⟨inside.1, by simpa using inside.2⟩

theorem mem_collapse {c : Char} (visible : isSpace c = false) : c ∈ collapse value ↔ c ∈ value := by
  constructor
  · intro member
    rcases mem_join member with space | ⟨word, listed, inside⟩
    · rw [List.mem_singleton.mp space] at visible
      cases visible
    · exact (mem_word listed inside).1
  · intro member
    have inside : c ∈ (split value).flatten := by
      rw [flatten_split]
      exact List.mem_filter.mpr ⟨member, by rw [visible]; rfl⟩
    obtain ⟨word, listed, inside⟩ := List.mem_flatten.mp inside
    exact mem_join_of_mem listed inside

/-- The blanks of a collapsed text are spaces. -/
theorem collapse_blank {c : Char} (member : c ∈ collapse value) (blank : isSpace c = true) : c = ' ' := by
  rcases mem_join member with space | ⟨word, listed, inside⟩
  · exact List.mem_singleton.mp space
  · rw [(mem_word listed inside).2] at blank
    cases blank

/-- The ends of words joined are ends of words. -/
theorem join_ends {sep : Text} {words : List Text} (filled : ∀ word ∈ words, word ≠ []) {c : Char} :
    ((join sep words).head? = some c → ∃ word ∈ words, c ∈ word) ∧ ((join sep words).getLast? = some c → ∃ word ∈ words, c ∈ word) := by
  induction words with
  | nil => simp [join]
  | cons first words ih =>
    obtain ⟨here, later⟩ := List.forall_mem_cons.mp filled
    cases words with
    | nil =>
      have only : join sep [first] = first := by simp [join]
      rw [only]
      exact ⟨fun is => ⟨first, List.mem_cons_self, List.mem_of_head? is⟩, fun is => ⟨first, List.mem_cons_self, List.mem_of_getLast? is⟩⟩
    | cons second words =>
      have rest : join sep (second :: words) ≠ [] := by
        obtain ⟨d, others, is⟩ := List.exists_cons_of_ne_nil (later second List.mem_cons_self)
        exact List.ne_nil_of_mem (mem_join_of_mem List.mem_cons_self (is ▸ List.mem_cons_self : d ∈ second))
      obtain ⟨d, others, is⟩ := List.exists_cons_of_ne_nil here
      constructor
      · intro starts
        rw [join_cons_cons, is] at starts
        cases starts
        exact ⟨first, List.mem_cons_self, is ▸ List.mem_cons_self⟩
      · intro ends
        rw [join_cons_cons, List.getLast?_append_of_ne_nil _ rest] at ends
        obtain ⟨word, listed, inside⟩ := (ih later).2 ends
        exact ⟨word, List.mem_cons_of_mem _ listed, inside⟩

theorem word_ne_nil {word : Text} (listed : word ∈ split value) : word ≠ [] := by
  have filled := (List.mem_filter.mp listed).2
  intro none
  rw [none] at filled
  cases filled

theorem collapse_head : (collapse value).head? ≠ some ' ' := by
  intro starts
  obtain ⟨word, listed, inside⟩ := (join_ends fun _ listed => word_ne_nil listed).1 starts
  have visible := (mem_word listed inside).2
  cases visible

theorem collapse_last : (collapse value).getLast? ≠ some ' ' := by
  intro ends
  obtain ⟨word, listed, inside⟩ := (join_ends fun _ listed => word_ne_nil listed).2 ends
  have visible := (mem_word listed inside).2
  cases visible

end

/-! ### The span -/

theorem longest_run_runs {n longest run : Nat} {text : Text} (known : run ≤ longest) (short : longest_run longest run text < n) :
    RunsBelow n run text := by
  induction text generalizing longest run with
  | nil => exact lt_of_le_of_lt known short
  | cons c text ih =>
    have longer : ∀ (longest run : Nat) (text : Text), longest ≤ longest_run longest run text := by
      intro longest run text
      induction text generalizing longest run with
      | nil => exact le_refl _
      | cons c text ih => exact (le_max_left _ _).trans (ih _ _)
    rw [longest_run] at short
    exact ⟨known.trans_lt ((le_max_left _ _).trans_lt ((longer _ _ _).trans_lt short)), ih (le_max_right _ _) short⟩

theorem runs_of_append {n run : Nat} {text after : Text} (below : RunsBelow n run (text ++ after)) : RunsBelow n run text := by
  induction text generalizing run with
  | nil => cases after with
    | nil => exact below
    | cons c after => exact below.1
  | cons c text ih => exact ⟨below.1, ih below.2⟩

theorem unfold_lines_eq {body : Text} (one_line : '\n' ∉ body ∧ '\r' ∉ body) : unfold_lines body = body := by
  induction body using unfold_lines.induct with
  | case1 => rfl
  | case2 rest ih => exact absurd List.mem_cons_self one_line.2
  | case3 c rest other ih =>
    have later := ih ⟨fun inside => one_line.1 (List.mem_cons_of_mem _ inside), fun inside => one_line.2 (List.mem_cons_of_mem _ inside)⟩
    have not_feed : c ≠ '\n' := fun is => one_line.1 (is ▸ List.mem_cons_self)
    have not_return : c ≠ '\r' := fun is => one_line.2 (is ▸ List.mem_cons_self)
    rw [unfold_lines.eq_3 c rest other, if_neg (not_or.mpr ⟨not_feed, not_return⟩), later]

section
variable {value : Text}

theorem collapse_one_line : '\n' ∉ collapse value ∧ '\r' ∉ collapse value := by
  constructor
  · intro member
    have is_space := collapse_blank member (by decide)
    cases is_space
  · intro member
    have is_space := collapse_blank member (by decide)
    cases is_space

theorem collapse_ne_nil_iff : collapse value ≠ [] ↔ ∃ c ∈ value, isSpace c = false := by
  constructor
  · intro some_text
    obtain ⟨c, others, is⟩ := List.exists_cons_of_ne_nil some_text
    have inside : c ∈ collapse value := is ▸ List.mem_cons_self
    cases blank : isSpace c with
    | false => exact ⟨c, (mem_collapse blank).mp inside, blank⟩
    | true =>
      have starts : (collapse value).head? = some ' ' := by rw [is, collapse_blank inside blank]; rfl
      exact absurd starts collapse_head
  · rintro ⟨c, inside, visible⟩
    exact List.ne_nil_of_mem ((mem_collapse visible).mpr inside)

/-- Padded with spaces or not, the content is the collapsed text. -/
theorem content_collapse : content (collapse value) = collapse value := by
  rw [content, unfold_lines_eq collapse_one_line, strip_padding, if_neg fun both => collapse_head both.1]

theorem content_padded (some_text : ∃ c ∈ value, isSpace c = false) : content (' ' :: collapse value ++ [' ']) = collapse value := by
  have one_line : '\n' ∉ ' ' :: collapse value ++ [' '] ∧ '\r' ∉ ' ' :: collapse value ++ [' '] := by
    simp [collapse_one_line]
  have shown : ¬(' ' :: collapse value ++ [' ']).all (· = ' ') = true := by
    intro all
    obtain ⟨c, inside, visible⟩ := some_text
    have is_space := List.all_eq_true.mp all c (by simp [(mem_collapse visible).mpr inside])
    rw [of_decide_eq_true is_space] at visible
    cases visible
  have ends : (' ' :: collapse value ++ [' ']).getLast? = some ' ' := List.getLast?_concat
  rw [content, unfold_lines_eq one_line, strip_padding, if_pos ⟨rfl, ends, shown⟩]
  simp

/-- A value with something to show is one code span with its collapsed text,
    whatever follows it. -/
theorem md_span (some_text : ∃ c ∈ value, isSpace c = false) {after : Text} (ends : after.head? ≠ some '`') :
    code_span (md (some value) ++ after) = some (collapse value, after) := by
  have pos : 0 < longest_run 0 0 (collapse value) + 1 := Nat.succ_pos _
  have below : RunsBelow (longest_run 0 0 (collapse value) + 1) 0 (collapse value) := longest_run_runs (le_refl _) (Nat.lt_succ_self _)
  have filled := collapse_ne_nil_iff.mpr some_text
  simp only [md]
  split
  · have below_padded : RunsBelow (longest_run 0 0 (collapse value) + 1) 0 (' ' :: collapse value) := ⟨pos, below⟩
    have starts : (' ' :: collapse value ++ [' ']).head? ≠ some '`' := by simp
    have span := code_span_delimited pos starts below_padded (by decide) ends
    rw [content_padded some_text] at span
    rw [← span]
    simp
  · rename_i no_ticks
    simp only [Bool.or_eq_true, decide_eq_true_eq, not_or] at no_ticks
    have split_last := List.dropLast_append_getLast filled
    have other : (collapse value).getLast filled ≠ '`' := fun is =>
      no_ticks.2 (by rw [List.getLast?_eq_some_getLast filled, is])
    have below_split : RunsBelow (longest_run 0 0 (collapse value) + 1) 0 ((collapse value).dropLast ++ [(collapse value).getLast filled]) := by
      rw [split_last]
      exact below
    have below_start := runs_of_append below_split
    have span := code_span_delimited pos (by rw [split_last]; exact no_ticks.1) below_start other ends
    rw [split_last, content_collapse, List.append_cons, split_last] at span
    rw [← span]
    simp

theorem blank_md (blank : ¬∃ c ∈ value, isSpace c = false) : md (some value) = "``".toList := by
  have nothing : collapse value = [] := not_not.mp (mt collapse_ne_nil_iff.mp blank)
  rw [md, nothing]
  rfl

/-- Of other characters than spaces and backticks, `_md` writes those of the
    text. -/
theorem count_md {d : Char} (visible : d ≠ ' ') (not_tick : d ≠ '`') : (md (some value)).count d = (collapse value).count d := by
  have ticks : ∀ n, (List.replicate n '`').count d = 0 := fun n => List.count_eq_zero_of_not_mem fun member =>
    not_tick (List.eq_of_mem_replicate member)
  simp only [md]
  split
  · simp [List.count_append, ticks, Ne.symm visible]
  · simp [List.count_append, ticks]

theorem normalize_eq {s : Text} (no_null : '\x00' ∉ s) : normalize s = s := by
  refine (List.map_congr_left fun c member => ?_).trans (List.map_id s)
  refine if_neg fun is => no_null ?_
  rwa [← is]

theorem count_null (s : Text) : (normalize s).count '\x00' = 0 := by
  refine List.count_eq_zero_of_not_mem fun member => ?_
  obtain ⟨c, _, is⟩ := List.mem_map.mp member
  split at is
  · cases is
  · contradiction

theorem mem_md {d : Char} (visible : isSpace d = false) (not_tick : d ≠ '`') : d ∈ md (some value) ↔ d ∈ value := by
  have not_space : d ≠ ' ' := fun is => by rw [is] at visible; cases visible
  rw [← List.count_pos_iff, count_md not_space not_tick, List.count_pos_iff, mem_collapse visible]

/-- `_md` alone is one code span with the collapsed text exactly when there is
    something to show and no null character. -/
theorem md_span_iff (value : Text) : code_span (normalize (md (some value))) = some (collapse value, []) ↔
    (∃ c ∈ value, isSpace c = false) ∧ '\x00' ∉ value := by
  constructor
  · intro span
    refine ⟨?_, fun null => ?_⟩
    · by_contra blank
      rw [blank_md blank] at span
      cases span
    · have shown : 0 < (collapse value).count '\x00' := List.count_pos_iff.mpr ((mem_collapse (by decide)).mpr null)
      have most : (collapse value).count '\x00' ≤ (normalize (md (some value))).count '\x00' := count_code_span (by decide) span
      rw [count_null] at most
      exact absurd (Nat.le_zero.mp most) (Nat.ne_of_gt shown)
  · rintro ⟨some_text, no_null⟩
    have same : normalize (md (some value)) = md (some value) ++ [] := by
      rw [normalize_eq fun null => no_null ((mem_md (by decide) (by decide)).mp null), List.append_nil]
    rw [same, md_span some_text (by simp)]

end

/-! ### The row -/

theorem unescape_eq {s : Text} (no_pipe : '|' ∉ s) : unescape_pipes s = s := by
  induction s with
  | nil => rfl
  | cons c s ih =>
    rw [List.mem_cons, not_or] at no_pipe
    rcases unescape_cons c s with ⟨_, rest, rfl⟩ | is
    · exact absurd List.mem_cons_self no_pipe.2
    · rw [is, ih no_pipe.2]

theorem trim_blanks {s : Text} (starts : s.head?.any is_blank = false) (ends : s.getLast?.any is_blank = false) (filled : s ≠ []) :
    trim (' ' :: s ++ [' ']) = s := by
  have first : (' ' :: s ++ [' ']).dropWhile is_blank = s ++ [' '] := by
    obtain ⟨c, others, rfl⟩ := List.exists_cons_of_ne_nil filled
    rw [List.cons_append, List.dropWhile_cons_of_pos rfl, List.cons_append, List.dropWhile_cons_of_neg (by simpa using starts)]
  have no_first : s.dropWhile is_blank = s := by
    obtain ⟨c, others, rfl⟩ := List.exists_cons_of_ne_nil filled
    rw [List.dropWhile_cons_of_neg (by simpa using starts)]
  have trimmed := trim_eq starts ends
  rw [trim, no_first] at trimmed
  rw [trim, first, List.rdropWhile_concat_pos _ _ _ rfl, trimmed]

/-- What a column writes begins and ends with something that is shown. -/
structure Closed (text : Text) : Prop where
  filled : text ≠ []
  starts : text.head?.any is_blank = false
  ends : text.getLast?.any is_blank = false

theorem clean_whole {text : Text} (closed : Closed text) (no_pipe : '|' ∉ text) : clean (' ' :: text ++ [' ']) = text := by
  have none : '|' ∉ ' ' :: text ++ [' '] := by simp [no_pipe]
  rw [clean, unescape_eq none, trim_blanks closed.starts closed.ends closed.filled]

theorem digits_closed (n : Nat) : Closed (dec n) := by
  have shown : ∀ c ∈ dec n, is_blank c = false := by
    intro c member
    have digit := isDigit_of_mem_dec member
    cases blank : is_blank c with
    | false => rfl
    | true =>
      simp only [is_blank, Bool.or_eq_true, decide_eq_true_eq] at blank
      rcases blank with ((((rfl | rfl) | rfl) | rfl) | rfl) | rfl <;> cases digit
  refine ⟨dec_ne_nil n, ?_, ?_⟩
  · cases first : (dec n).head? with
    | none => rfl
    | some c => exact shown c (List.mem_of_head? first)
  · cases last : (dec n).getLast? with
    | none => rfl
    | some c => exact shown c (List.mem_of_getLast? last)

theorem md_closed (value : Option Text) : Closed (md value) := by
  cases value with
  | none => exact ⟨by decide, by decide, by decide⟩
  | some value =>
    simp only [md]
    refine ⟨by simp [List.replicate_succ], by simp [List.replicate_succ, is_blank], ?_⟩
    rw [List.replicate_succ', ← List.append_assoc, List.getLast?_concat]
    rfl

theorem literal_of_head {cell : Text} (starts : cell.head? ≠ some '`') : read_cell cell = .literal cell := by
  have none_open : opening cell = 0 := by
    cases cell with
    | nil => rfl
    | cons c cell =>
      have other : c ≠ '`' := fun is => starts (by rw [is]; rfl)
      rw [opening, List.takeWhile_cons_of_neg (by simpa using other)]
      rfl
  rw [read_cell, code_span, if_pos none_open]

/-- A column whose value, if it has one, meets a condition. -/
def Column.Has (P : Text → Prop) (column : Column) : Prop := ∀ value, column = .text (some value) → P value

theorem render_free {column : Column} {d : Char} (visible : isSpace d = false) (not_tick : d ≠ '`') (not_digit : d.isDigit = false)
    (not_dash : d ≠ '—') (free : column.Has fun value => d ∉ value) : d ∉ column.render := by
  intro member
  cases column with
  | number n =>
    rw [isDigit_of_mem_dec member] at not_digit
    cases not_digit
  | text value => cases value with
    | none => exact not_dash (List.mem_singleton.mp member)
    | some value => exact free value rfl ((mem_md visible not_tick).mp member)

theorem render_closed (column : Column) : Closed column.render := by
  cases column with
  | number n => exact digits_closed n
  | text value => exact md_closed value

/-- A whole cell shows what it should. -/
theorem read_whole {column : Column} (some_text : column.Has fun value => ∃ c ∈ value, isSpace c = false)
    (no_pipe : column.Has fun value => '|' ∉ value) : read_cell (clean (' ' :: column.render ++ [' '])) = column.expected := by
  rw [clean_whole (render_closed column) (render_free (by decide) (by decide) (by decide) (by decide) no_pipe)]
  cases column with
  | number n =>
    refine literal_of_head fun starts => ?_
    have digit := isDigit_of_mem_dec (List.mem_of_head? starts)
    cases digit
  | text value => cases value with
    | none => exact literal_of_head (by decide)
    | some value =>
      have span : code_span (md (some value) ++ []) = some (collapse value, []) := md_span (some_text value rfl) (by simp)
      rw [List.append_nil] at span
      rw [Column.render, read_cell, span]
      rfl

/-- The first cell of a value with a pipe does not show the value: it is cut at
    the pipe or loses the backslash before it. -/
theorem read_piped {value head : Text}
    (first : (∃ after, ' ' :: md (some value) = head ++ '|' :: after) ∨ head = ' ' :: md (some value) ++ [' '] ∧
      ((unescape_pipes head).count '\\' < head.count '\\')) : read_cell (clean head) ≠ .span (collapse value) := by
  intro shown
  have span : code_span (clean head) = some (collapse value, []) := by
    unfold read_cell at shown
    split at shown
    · rename_i content is
      cases shown
      exact is
    · cases shown
  have below : ∀ d, d ≠ ' ' → (collapse value).count d ≤ (unescape_pipes head).count d := fun d visible =>
    (count_code_span visible span).trans ((trim_sublist _).count_le d)
  rcases first with ⟨after, cut⟩ | ⟨whole, fewer⟩
  · have all := congrArg (List.count '|') cut
    rw [List.count_cons_of_ne (by decide), count_md (by decide) (by decide), List.count_append, List.count_cons_self] at all
    have most := below '|' (by decide)
    rw [count_pipes_unescape] at most
    omega
  · have all : head.count '\\' = (collapse value).count '\\' := by
      rw [whole, List.count_append, List.count_cons_of_ne (by decide), count_md (by decide) (by decide)]
      rfl
    have most := below '\\' (by decide)
    omega

/-- The cells of a row show its columns exactly when no value has a pipe. -/
theorem read_cells_iff (columns : List Column) (fill : List Text)
    (some_text : ∀ column ∈ columns, column.Has fun value => ∃ c ∈ value, isSpace c = false) :
    (((split_cells (row_body (columns.map Column.render))).dropLast.map clean ++ fill).take columns.length).map read_cell =
      columns.map Column.expected ↔ ∀ column ∈ columns, column.Has fun value => '|' ∉ value := by
  induction columns with
  | nil => simp
  | cons column columns ih =>
    obtain ⟨shows, later_shows⟩ := List.forall_mem_cons.mp some_text
    obtain ⟨head, tail, is, same_last, first⟩ := split_cells_head (' ' :: column.render) (row_body (columns.map Column.render))
    have some_tail : tail ≠ [] := fun none => by
      rw [none, row_last] at same_last
      cases same_last
    rw [List.map_cons, row_body_cons, is, List.dropLast_cons_of_ne_nil some_tail, List.forall_mem_cons]
    simp only [List.map_cons, List.cons_append, List.length_cons, List.take_succ_cons, List.cons.injEq]
    have whole_cell : (column.Has fun value => '|' ∉ value) →
        head = ' ' :: column.render ++ [' '] ∧ tail = split_cells (row_body (columns.map Column.render)) := by
      intro no_pipe
      rcases first with ⟨after, cut⟩ | ⟨whole, later, _⟩
      · have inside : '|' ∈ ' ' :: column.render := cut ▸ List.mem_append_right head List.mem_cons_self
        have own := (List.mem_cons.mp inside).resolve_left (by decide)
        exact absurd own (render_free (by decide) (by decide) (by decide) (by decide) no_pipe)
      · exact ⟨whole, later⟩
    constructor
    · rintro ⟨here, later⟩
      have no_pipe : column.Has fun value => '|' ∉ value := by
        rintro value rfl pipe
        refine read_piped ?_ here
        rcases first with cut | ⟨whole, _, fewer⟩
        · exact Or.inl cut
        · exact Or.inr ⟨whole, fewer (List.mem_cons_of_mem _ ((mem_md (by decide) (by decide)).mpr pipe))⟩
      rw [(whole_cell no_pipe).2] at later
      exact ⟨no_pipe, (ih later_shows).mp later⟩
    · rintro ⟨no_pipe, later⟩
      obtain ⟨whole, rest⟩ := whole_cell no_pipe
      rw [whole, rest]
      exact ⟨read_whole shows no_pipe, (ih later_shows).mpr later⟩

theorem row_free {columns : List Column} (no_null : ∀ column ∈ columns, column.Has fun value => '\x00' ∉ value) :
    '\x00' ∉ row_line (columns.map Column.render) := by
  rw [row_line, row_body]
  intro member
  have inside := (List.mem_cons.mp member).resolve_left (by decide)
  obtain ⟨text, listed, inside⟩ := List.mem_flatMap.mp inside
  obtain ⟨column, of_row, rfl⟩ := List.mem_map.mp listed
  simp at inside
  exact render_free (by decide) (by decide) (by decide) (by decide) (no_null column of_row) inside

/-- The values of a row are contained, each as one code span in its own cell,
    exactly when each has something to show, no null character and no pipe. -/
theorem contained_iff (columns : List Column) : Contained columns ↔ ∀ value, Column.text (some value) ∈ columns → Plain value := by
  have of_values : ∀ P : Text → Prop, (∀ column ∈ columns, column.Has P) ↔ ∀ value, Column.text (some value) ∈ columns → P value := by
    intro P
    exact ⟨fun all value listed => all _ listed value rfl, fun all column listed value is => all value (is ▸ listed)⟩
  have row : (∀ value, Column.text (some value) ∈ columns → (∃ c ∈ value, isSpace c = false) ∧ '\x00' ∉ value) →
      (read_row columns.length (row_line (columns.map Column.render)) = columns.map Column.expected ↔
        ∀ column ∈ columns, column.Has fun value => '|' ∉ value) := by
    intro shown
    have no_null := (of_values _).mpr fun value listed => (shown value listed).2
    rw [read_row, table_row, normalize_eq (row_free no_null), cells_row_line]
    exact read_cells_iff columns _ ((of_values _).mpr fun value listed => (shown value listed).1)
  constructor
  · intro contained value listed
    have shown := fun value listed => (md_span_iff value).mp (contained.spans value listed)
    have no_pipe := (of_values _).mp ((row shown).mp contained.cells)
    exact ⟨(shown value listed).1, (shown value listed).2, no_pipe value listed⟩
  · intro plain
    have shown := fun value listed => And.intro (plain value listed).some_text (plain value listed).no_null
    exact ⟨fun value listed => (md_span_iff value).mpr (shown value listed),
      (row shown).mpr ((of_values _).mpr fun value listed => (plain value listed).no_pipe)⟩

/-- The note of a scope rule with a pipe is read as two cells. -/
theorem piped_note_splits : ¬Contained [.text (some "allow".toList), .text (some "cidr".toList), .text (some "10.0.0.0/8".toList),
    .text (some "lab | dmz".toList)] := by
  intro contained
  have other : read_row 4 (row_line ([Column.text (some "allow".toList), .text (some "cidr".toList),
      .text (some "10.0.0.0/8".toList), .text (some "lab | dmz".toList)].map Column.render)) ≠
      [Column.text (some "allow".toList), .text (some "cidr".toList), .text (some "10.0.0.0/8".toList),
        .text (some "lab | dmz".toList)].map Column.expected := by decide +kernel
  exact other contained.cells

end RedDock.MarkdownSpans
