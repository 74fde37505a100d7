import RedDock.DockPacks

/-!
# Published reports

A published report is served as it was built, over every run of the application:
nothing writes to its directory again, and no report run changes its row.
-/
set_option autoImplicit false
namespace RedDock.Reporting
open Text Fallible
open Retained
open Members (parts Component parts_join)

/-! ### Where files of runs are -/

theorem dec_inj {n m : Nat} (same : dec n = dec m) : n = m := by
  rw [← ofDec_dec n, same, ofDec_dec]

theorem not_digits {n : Nat} {c : Char} (other : c.isDigit = false) : c ∉ dec n := fun member => by
  rw [isDigit_of_mem_dec member] at other
  cases other

theorem component_number (n : Nat) : Component (dec n) :=
  ⟨dec_ne_nil n, fun dot => not_digits (by decide) (dot ▸ List.mem_singleton_self '.'), not_digits (by decide)⟩

theorem reporting_not_number (n : Nat) : REPORTING_SCOPE ≠ dec n := by
  intro same
  have letter : 'r' ∈ REPORTING_SCOPE := by decide
  exact not_digits (by decide) (same ▸ letter)

/-- Only the files of a report are below its directory. -/
theorem below_directory {dockyard_id run_id other_dockyard other_run : Nat} {scope : Scope} {artifact : Artifact}
    (inside : run_directory dockyard_id run_id .reporting <+: destination other_dockyard other_run scope artifact) :
    scope = .reporting ∧ dockyard_id = other_dockyard ∧ run_id = other_run := by
  unfold destination run_directory at inside
  cases scope
  case reporting =>
    simp only [Scope.parts, List.cons_append, List.nil_append, List.cons_prefix_cons] at inside
    exact ⟨rfl, dec_inj inside.1, dec_inj inside.2.2.1⟩
  case discovery =>
    simp only [Scope.parts, List.cons_append, List.nil_append, List.cons_prefix_cons] at inside
    exact absurd inside.2.1 (reporting_not_number _)
  all_goals
    simp only [Scope.parts, List.cons_append, List.nil_append, List.cons_prefix_cons] at inside
    exact absurd inside.2.1 (by decide)

theorem directory_above (dockyard_id run_id : Nat) (scope : Scope) (artifact : Artifact) :
    run_directory dockyard_id run_id scope <+: destination dockyard_id run_id scope artifact := List.prefix_append _ _

/-- The files of a report that are written. -/
def EXPORTS : List Artifact := [
  .normalized, .raw "technical.md".toList, .raw "executive.md".toList, .raw "evidence-manifest.json".toList, .raw "dockpack.zip".toList]

theorem exports_artifacts (published : Published) : published.exports.map Prod.fst = EXPORTS := rfl

theorem exports_apart : (EXPORTS.map fun artifact => parts artifact.relative).Nodup := by decide +kernel

theorem export_destinations (published : Published) (dockyard_id run_id : Nat) :
    (published.exports.map fun file => destination dockyard_id run_id .reporting file.1).Nodup := by
  have mapped : (published.exports.map fun file => destination dockyard_id run_id .reporting file.1) =
      (EXPORTS.map fun artifact => parts artifact.relative).map (run_directory dockyard_id run_id .reporting ++ ·) := by
    rw [← exports_artifacts published, List.map_map, List.map_map]
    rfl
  rw [mapped]
  exact exports_apart.map (List.append_right_injective _)

/-! ### Paths -/

theorem parts_below (base relative : Text) : parts (below base relative) = parts base ++ parts relative := by
  rw [parts, below, List.splitOn_append_cons_self, List.filter_append]
  rfl

theorem safe_relative_ok {value : Text} {found : List Text} (safe : safe_relative value = .ok found) :
    found = parts value ∧ value ≠ [] ∧ '\\' ∉ value ∧ value.head? ≠ some '/' ∧ ['.', '.'] ∉ parts value := by
  unfold safe_relative at safe
  split at safe
  · cases safe
  · next none =>
    simp only [not_or] at none
    exact ⟨(Except.ok.inj safe).symm, none.1, none.2.1, none.2.2.1, none.2.2.2⟩

theorem safe_relative_of {value : Text} (filled : value ≠ []) (slashes : '\\' ∉ value) (start : value.head? ≠ some '/')
    (inside : ['.', '.'] ∉ parts value) : safe_relative value = .ok (parts value) := by
  unfold safe_relative
  rw [if_neg]
  rintro (none | back | absolute | parent)
  · exact filled none
  · exact slashes back
  · exact start absolute
  · exact inside parent

/-- A safe path below a safe path is safe. -/
theorem safe_below {base relative : Text} {found : List Text} (safe : safe_relative base = .ok found) (slashes : '\\' ∉ relative)
    (inside : ['.', '.'] ∉ parts relative) : safe_relative (below base relative) = .ok (found ++ parts relative) := by
  obtain ⟨rfl, filled, plain, start, no_parent⟩ := safe_relative_ok safe
  rw [← parts_below]
  refine safe_relative_of (by simp [below]) ?_ ?_ ?_
  · simpa [below, plain] using slashes
  · rw [below, List.head?_append_of_ne_nil _ filled]
    exact start
  · rw [parts_below, List.mem_append]
    exact fun member => member.elim no_parent inside

/-- A component without what no path may have. -/
structure Solid (part : Text) : Prop where
  component : Component part
  slashes : '\\' ∉ part
  null : Char.ofNat 0 ∉ part
  parent : part ≠ ['.', '.']

theorem safe_join {directory : List Text} (nonempty : directory ≠ []) (solid : ∀ part ∈ directory, Solid part) :
    safe_relative (join ['/'] directory) = .ok directory := by
  have is := parts_join nonempty fun part member => (solid part member).component
  have filled : join ['/'] directory ≠ [] := fun none => by
    rw [none] at is
    exact nonempty (is.symm.trans (by decide))
  have head : (join ['/'] directory).head? ≠ some '/' := by
    cases directory with
    | nil => exact absurd rfl nonempty
    | cons first rest =>
      obtain ⟨filled, _, free⟩ := (solid first List.mem_cons_self).component
      have whole : ∃ after, join ['/'] (first :: rest) = first ++ after := by
        cases rest with
        | nil => exact ⟨[], by simp [join]⟩
        | cons second rest => exact ⟨_, by rw [join_cons_cons, List.append_assoc]⟩
      obtain ⟨after, same⟩ := whole
      rw [same, List.head?_append_of_ne_nil _ filled]
      exact fun slash => free (List.mem_of_mem_head? slash)
  rw [safe_relative_of filled ?_ head (is.symm ▸ fun member => (solid _ member).parent rfl), is]
  intro back
  rcases mem_join back with sep | ⟨part, member, inside⟩
  · exact absurd sep (by decide)
  · exact (solid part member).slashes inside

theorem solid_number (n : Nat) : Solid (dec n) where
  component := component_number n
  slashes := not_digits (by decide)
  null := not_digits (by decide)
  parent := fun same => not_digits (n := n) (c := '.') (by decide) (same ▸ List.mem_cons_self)

theorem solid_scope (scope : Scope) : ∀ part ∈ scope.parts, Solid part := by
  cases scope
  case discovery => exact fun part member => absurd member List.not_mem_nil
  all_goals exact List.forall_mem_singleton.mpr ⟨⟨by decide, by decide, by decide⟩, by decide, by decide, by decide⟩

theorem solid_directory (dockyard_id run_id : Nat) (scope : Scope) : ∀ part ∈ run_directory dockyard_id run_id scope, Solid part := by
  intro part member
  simp only [run_directory, List.mem_cons, List.mem_append, List.not_mem_nil, or_false] at member
  rcases member with rfl | inside | rfl
  · exact solid_number dockyard_id
  · exact solid_scope scope part inside
  · exact solid_number run_id

/-- The path that a run stores of its directory. -/
theorem safe_run_path (dockyard_id run_id : Nat) (scope : Scope) :
    safe_relative (relative_run_path dockyard_id run_id scope) = .ok (run_directory dockyard_id run_id scope) :=
  safe_join (List.cons_ne_nil _ _) (solid_directory dockyard_id run_id scope)

theorem no_null_run_path (dockyard_id run_id : Nat) (scope : Scope) : Char.ofNat 0 ∉ relative_run_path dockyard_id run_id scope := by
  intro null
  rcases mem_join null with sep | ⟨part, member, inside⟩
  · exact absurd sep (by decide)
  · exact (solid_directory dockyard_id run_id scope part member).null inside

/-! ### What is served -/

def Choice.artifact : Choice → Artifact
  | .technical => .raw "technical.md".toList
  | .executive => .raw "executive.md".toList
  | .manifest => .raw "evidence-manifest.json".toList
  | .dockpack => .raw "dockpack.zip".toList

theorem choice_relative (choice : Choice) : choice.relative = choice.artifact.relative := by
  cases choice <;> decide

theorem choice_plain (choice : Choice) : '\\' ∉ choice.relative ∧ ['.', '.'] ∉ parts choice.relative ∧ Char.ofNat 0 ∉ choice.relative := by
  cases choice <;> decide

theorem choice_exported (published : Published) (choice : Choice) : (choice.artifact, choice.payload published) ∈ published.exports := by
  cases choice <;> simp [Published.exports, Choice.artifact, Choice.payload]

/-- A published report as it stands in the store. -/
structure Kept (library : Library) (s : State) (run : ReportRun) (published : Published) : Prop where
  built : ∃ db files, s.built_of run.id = some (db, files) ∧ build library files db run.dockyard_id = .ok published
  row : ∃ now, run = completed library published run.dockyard_id now (requested run.dockyard_id run.id)
  stored : ∀ file ∈ published.exports, s.files (destination run.dockyard_id run.id .reporting file.1) = some file.2

section
variable {library : Library} {s : State} {run : ReportRun} {published : Published}

theorem packed_small {report : Report} {package : Bytes} (packed : report.packed library = .ok package) (choice : Choice) :
    (choice.payload ⟨report, package⟩).length ≤ max_dockpack_bytes := by
  obtain ⟨archive, _, rest⟩ := bind_eq_ok.mp packed
  split at rest
  · cases rest
  next whole =>
  split at rest
  · cases rest
  next technical =>
  split at rest
  · cases rest
  next executive =>
  split at rest
  · cases rest
  next manifest =>
  cases Except.ok.inj rest
  cases choice with
  | technical => exact not_lt.mp (not_or.mp technical).2
  | executive => exact not_lt.mp executive
  | manifest => exact not_lt.mp manifest
  | dockpack => exact not_lt.mp whole

theorem read_bounded_of {file : Bytes} {max_bytes : Nat} {message : String} (small : file.length ≤ max_bytes) :
    read_bounded file max_bytes message = .ok file := by
  unfold read_bounded
  rw [List.take_of_length_le (by omega), if_neg (by omega)]

/-- What is kept of a report is served. -/
theorem Kept.served (kept : Kept library s run published) (choice : Choice) :
    artifact_path library s.files run choice = .ok (choice.payload published) := by
  obtain ⟨db, files, _, built⟩ := kept.built
  obtain ⟨report, _, rest⟩ := bind_eq_ok.mp built
  obtain ⟨package, packed, same⟩ := bind_eq_ok.mp rest
  obtain rfl := Except.ok.inj same
  obtain ⟨now, row⟩ := kept.row
  have expected : choice.expected run = some (library.sha256 (choice.payload ⟨report, package⟩)) := by
    rw [row]
    cases choice <;> rfl
  have path : run.evidence_path = some (relative_run_path run.dockyard_id run.id .reporting) := by
    rw [row]
    rfl
  have done : run.status = .completed := by
    rw [row]
    rfl
  have digest : present (choice.expected run) = true := by
    have long := library.digest (choice.payload ⟨report, package⟩)
    rw [expected]
    unfold hexadecimal at long
    simp only [Bool.and_eq_true, decide_eq_true_eq] at long
    cases hash : library.sha256 (choice.payload ⟨report, package⟩) with
    | nil => simp [hash] at long
    | cons c rest => rfl
  have placed : present run.evidence_path = true := by
    have filled := (safe_relative_ok (safe_run_path run.dockyard_id run.id .reporting)).2.1
    rw [path]
    cases is : relative_run_path run.dockyard_id run.id .reporting with
    | nil => exact absurd is filled
    | cons c rest => rfl
  obtain ⟨slashes, parent, null⟩ := choice_plain choice
  have safe := safe_below (safe_run_path run.dockyard_id run.id .reporting) slashes parent
  have stored := kept.stored _ (choice_exported ⟨report, package⟩ choice)
  have found : safe_file s.files (below (relative_run_path run.dockyard_id run.id .reporting) choice.relative) =
      .ok (choice.payload ⟨report, package⟩) := by
    unfold safe_file
    have free : Char.ofNat 0 ∉ below (relative_run_path run.dockyard_id run.id .reporting) choice.relative := by
      simp only [below, List.mem_append, List.mem_cons]
      rintro (before | slash | after)
      · exact no_null_run_path _ _ _ before
      · exact absurd slash (by decide)
      · exact null after
    rw [choice_relative] at safe ⊢
    rw [choice_relative] at free
    rw [safe, ok_bind, if_neg free]
    unfold destination at stored
    rw [stored]
    rfl
  unfold artifact_path
  rw [if_neg (by simp [done, placed, digest]), path, Option.getD_some, found, ok_bind, read_bounded_of (packed_small packed choice), ok_bind,
    expected, Option.getD_some, if_neg (not_not.mpr rfl)]
  rfl

/-! ### Steps -/

variable {s' : State}

/-- What no step changes: the row of a completed run, its files, and what it was built of. -/
structure Preserves (s s' : State) : Prop where
  rows : ∀ run ∈ s.db.report_runs, run.status = .completed → run ∈ s'.db.report_runs
  files : ∀ run ∈ s.db.report_runs, run.status = .completed → ∀ artifact,
    s'.files (destination run.dockyard_id run.id .reporting artifact) = s.files (destination run.dockyard_id run.id .reporting artifact)
  built : ∀ run ∈ s.db.report_runs, run.status = .completed → s'.built_of run.id = s.built_of run.id

theorem Preserves.kept (same : Preserves s s') (member : run ∈ s.db.report_runs) (done : run.status = .completed)
    (kept : Kept library s run published) : Kept library s' run published where
  built := by
    rw [same.built run member done]
    exact kept.built
  row := kept.row
  stored := fun file exported => by
    rw [same.files run member done]
    exact kept.stored file exported

theorem Preserves.trans {s'' : State} (first : Preserves s s') (second : Preserves s' s'') : Preserves s s'' where
  rows := fun run member done => second.rows run (first.rows run member done) done
  files := fun run member done artifact =>
    (second.files run (first.rows run member done) done artifact).trans (first.files run member done artifact)
  built := fun run member done => (second.built run (first.rows run member done) done).trans (first.built run member done)

/-- A run in progress, and what is written of it. -/
structure Writing (library : Library) (s : State) (current : Current) : Prop where
  row : requested current.dockyard_id current.run_id ∈ s.db.report_runs
  written : ∀ published rest, current.published = some (published, rest) → ∃ db files done, s.built_of current.run_id = some (db, files) ∧
    build library files db current.dockyard_id = .ok published ∧ published.exports = done ++ rest ∧
      ∀ file ∈ done, s.files (destination current.dockyard_id current.run_id .reporting file.1) = some file.2

structure Inv (library : Library) (s : State) : Prop where
  once : (s.db.report_runs.map ReportRun.id).Nodup
  completed : ∀ run ∈ s.db.report_runs, run.status = .completed → ∃ published, Kept library s run published
  running : ∀ run ∈ s.db.report_runs, run.status = .running → ∃ current, s.current = some current ∧ current.run_id = run.id
  current : ∀ current, s.current = some current → Writing library s current

theorem same_row (inv : Inv library s) {one other : ReportRun} (left : one ∈ s.db.report_runs) (right : other ∈ s.db.report_runs)
    (ids : one.id = other.id) : one = other := List.inj_on_of_nodup_map inv.once left right ids

/-- A completed run is not the one in progress. -/
theorem not_current (inv : Inv library s) {current : Current} (running : s.current = some current) (member : run ∈ s.db.report_runs)
    (done : run.status = .completed) : run.id ≠ current.run_id := fun same => by
  have is := same_row inv member (inv.current current running).row same
  rw [is] at done
  cases done

theorem mem_update {db : Database} {run_id : Nat} {change : ReportRun → ReportRun} :
    run ∈ (update_report db run_id change).report_runs ↔
      (run ∈ db.report_runs ∧ run.id ≠ run_id) ∨ ∃ row ∈ db.report_runs, row.id = run_id ∧ run = change row := by
  simp only [update_report, List.mem_map]
  constructor
  · rintro ⟨row, member, rfl⟩
    by_cases same : row.id = run_id
    · exact .inr ⟨row, member, same, by rw [if_pos same]⟩
    · rw [if_neg same]
      exact .inl ⟨member, same⟩
  · rintro (⟨member, other⟩ | ⟨row, member, same, rfl⟩)
    · exact ⟨run, member, by rw [if_neg other]⟩
    · exact ⟨row, member, by rw [if_pos same]⟩

theorem update_ids {db : Database} {run_id : Nat} {change : ReportRun → ReportRun} (keeps : ∀ row, (change row).id = row.id) :
    (update_report db run_id change).report_runs.map ReportRun.id = db.report_runs.map ReportRun.id := by
  rw [update_report, List.map_map]
  refine List.map_congr_left fun row _ => ?_
  simp only [Function.comp_apply]
  split
  · exact keeps row
  · rfl

theorem removed_other {files : Files} {dockyard_id run_id other_dockyard other_run : Nat} (apart : other_run ≠ run_id) (artifact : Artifact) :
    files.remove (run_directory dockyard_id run_id .reporting) (destination other_dockyard other_run .reporting artifact) =
      files (destination other_dockyard other_run .reporting artifact) := by
  unfold Files.remove
  rw [if_neg fun inside => apart (below_directory inside).2.2.symm]

theorem written_other {files : Files} {dockyard_id run_id other_dockyard other_run : Nat} {scope : Scope} {artifact other : Artifact}
    {payload : Bytes} (apart : scope = .reporting → other_run ≠ run_id) :
    files.write (destination dockyard_id run_id scope artifact) payload (destination other_dockyard other_run .reporting other) =
      files (destination other_dockyard other_run .reporting other) := by
  unfold Files.write
  rw [Function.update_of_ne]
  intro same
  have inside := directory_above other_dockyard other_run .reporting other
  rw [same] at inside
  obtain ⟨reporting, _, ids⟩ := below_directory inside
  exact apart reporting ids

theorem discard_preserves {dockyard_id run_id now : Nat} {error : Text}
    (apart : ∀ run ∈ s.db.report_runs, run.status = .completed → run.id ≠ run_id) : Preserves s (s.discard dockyard_id run_id error now) where
  rows := fun run member done => mem_update.mpr (.inl ⟨member, apart run member done⟩)
  files := fun run member done artifact => removed_other (apart run member done) artifact
  built := fun _ _ _ => rfl

/-- The rows that a failure leaves. -/
theorem discard_rows {dockyard_id run_id now : Nat} {error : Text} (member : run ∈ (s.discard dockyard_id run_id error now).db.report_runs) :
    (run ∈ s.db.report_runs ∧ run.id ≠ run_id) ∨ run.status = .failed := by
  rcases mem_update.mp member with before | ⟨row, _, _, rfl⟩
  · exact .inl before
  · exact .inr rfl

theorem discard_ids {dockyard_id run_id now : Nat} {error : Text} :
    (s.discard dockyard_id run_id error now).db.report_runs.map ReportRun.id = s.db.report_runs.map ReportRun.id :=
  update_ids fun _ => rfl

/-- An invariant of a state with no run in progress. -/
theorem idle_inv (inv : Inv library s) (same : Preserves s s') (ids : s'.db.report_runs.map ReportRun.id = s.db.report_runs.map ReportRun.id)
    (old : ∀ run ∈ s'.db.report_runs, run.status = .completed → run ∈ s.db.report_runs ∨ ∃ published, Kept library s' run published)
    (idle : ∀ run ∈ s'.db.report_runs, run.status ≠ .running) (none : s'.current = none) : Inv library s' where
  once := ids ▸ inv.once
  completed := fun run member done => by
    rcases old run member done with before | new
    · obtain ⟨published, kept⟩ := inv.completed run before done
      exact ⟨published, same.kept before done kept⟩
    · exact new
  running := fun run member running => absurd running (idle run member)
  current := fun current running => by
    rw [none] at running
    cases running

theorem fail_inv (inv : Inv library s) {current : Current} (running : s.current = some current) (error : Text) (now : Nat) :
    Preserves s (s.fail current error now) ∧ Inv library (s.fail current error now) := by
  have same : Preserves s (s.discard current.dockyard_id current.run_id error now) :=
    discard_preserves fun run member done => not_current inv running member done
  have preserves : Preserves s (s.fail current error now) := ⟨same.rows, same.files, same.built⟩
  have left {run : ReportRun} (member : run ∈ (s.fail current error now).db.report_runs) :=
    @discard_rows s run current.dockyard_id _ now error member
  refine ⟨preserves, idle_inv inv preserves (@discard_ids s current.dockyard_id _ _ _) (fun run member done => ?_) (fun run member is => ?_) rfl⟩
  · rcases left member with before | failed
    · exact .inl before.1
    · rw [failed] at done
      cases done
  · rcases left member with ⟨before, other⟩ | failed
    · obtain ⟨there, found, id⟩ := inv.running run before is
      rw [running] at found
      cases found
      exact other id.symm
    · rw [failed] at is
      cases is

/-- An invariant of a state with a run in progress, whose rows are the ones before. -/
theorem busy_inv (inv : Inv library s) (same : Preserves s s') (rows : s'.db.report_runs = s.db.report_runs) {current current' : Current}
    (running : s.current = some current) (now_running : s'.current = some current') (one_run : current'.run_id = current.run_id)
    (writing : Writing library s' current') : Inv library s' where
  once := rows ▸ inv.once
  completed := fun run member done => by
    rw [rows] at member
    obtain ⟨published, kept⟩ := inv.completed run member done
    exact ⟨published, same.kept member done kept⟩
  running := fun run member is => by
    rw [rows] at member
    obtain ⟨there, found, id⟩ := inv.running run member is
    rw [running] at found
    cases found
    exact ⟨current', now_running, one_run.trans id⟩
  current := fun there found => by
    rw [now_running] at found
    cases found
    exact writing

theorem request_inv (inv : Inv library s) (idle : s.current = none) {dockyard_id run_id : Nat} (new : run_id ∉ s.db.report_runs.map ReportRun.id)
    (event : SecurityEvent) :
    Preserves s ({ s with db := { s.db with report_runs := s.db.report_runs ++ [requested dockyard_id run_id] },
                          current := some { dockyard_id, run_id } }.with_event event) ∧
      Inv library ({ s with db := { s.db with report_runs := s.db.report_runs ++ [requested dockyard_id run_id] },
                            current := some { dockyard_id, run_id } }.with_event event) := by
  have preserves : Preserves s ({ s with
      db := { s.db with report_runs := s.db.report_runs ++ [requested dockyard_id run_id] },
      current := some { dockyard_id, run_id } }.with_event event) :=
    ⟨fun run member _ => List.mem_append_left _ member, fun _ _ _ _ => rfl, fun _ _ _ => rfl⟩
  refine ⟨preserves, ⟨?_, fun run member done => ?_, fun run member is => ?_, fun current found => ?_⟩⟩
  · show ((s.db.report_runs ++ [requested dockyard_id run_id]).map ReportRun.id).Nodup
    rw [List.map_append, List.nodup_append]
    refine ⟨inv.once, by simp, fun id before other last same => new ?_⟩
    rw [List.map_singleton, List.mem_singleton] at last
    rw [same, last] at before
    exact before
  · rcases List.mem_append.mp member with before | last
    · obtain ⟨published, kept⟩ := inv.completed run before done
      exact ⟨published, preserves.kept before done kept⟩
    · rw [List.mem_singleton.mp last] at done
      cases done
  · rcases List.mem_append.mp member with before | last
    · obtain ⟨_, found, _⟩ := inv.running run before is
      rw [idle] at found
      cases found
    · rw [List.mem_singleton.mp last]
      exact ⟨_, rfl, rfl⟩
  · cases Option.some.inj found
    exact ⟨List.mem_append_right _ (List.mem_singleton_self _), fun _ _ none => by cases none⟩

theorem build_inv (inv : Inv library s) {dockyard_id run_id : Nat} (running : s.current = some { dockyard_id, run_id })
    (built : build library s.files s.db dockyard_id = .ok published) :
    Preserves s { s with current := some { dockyard_id, run_id, published := some (published, published.exports) }
                         built_of := Function.update s.built_of run_id (some (s.db, s.files)) } ∧
      Inv library { s with current := some { dockyard_id, run_id, published := some (published, published.exports) }
                           built_of := Function.update s.built_of run_id (some (s.db, s.files)) } := by
  have preserves : Preserves s { s with
      current := some { dockyard_id, run_id, published := some (published, published.exports) }
      built_of := Function.update s.built_of run_id (some (s.db, s.files)) } :=
    ⟨fun _ member _ => member, fun _ _ _ _ => rfl, fun run member done =>
      Function.update_of_ne (not_current inv running member done) _ _⟩
  refine ⟨preserves, busy_inv inv preserves rfl running rfl rfl ⟨(inv.current _ running).row, fun other rest found => ?_⟩⟩
  cases Option.some.inj found
  exact ⟨s.db, s.files, [], Function.update_self _ _ _, built, rfl, by simp⟩

theorem write_inv (inv : Inv library s) {dockyard_id run_id : Nat} {artifact : Artifact} {payload : Bytes} {rest : List (Artifact × Bytes)}
    (running : s.current = some { dockyard_id, run_id, published := some (published, (artifact, payload) :: rest) }) :
    Preserves s { s with files := s.files.write (destination dockyard_id run_id .reporting artifact) payload
                         current := some { dockyard_id, run_id, published := some (published, rest) } } ∧
      Inv library { s with files := s.files.write (destination dockyard_id run_id .reporting artifact) payload
                           current := some { dockyard_id, run_id, published := some (published, rest) } } := by
  have preserves : Preserves s { s with
      files := s.files.write (destination dockyard_id run_id .reporting artifact) payload
      current := some { dockyard_id, run_id, published := some (published, rest) } } :=
    ⟨fun _ member _ => member, fun run member done other => written_other fun _ => not_current inv running member done, fun _ _ _ => rfl⟩
  refine ⟨preserves, busy_inv inv preserves rfl running rfl rfl ⟨(inv.current _ running).row, fun other left found => ?_⟩⟩
  cases Option.some.inj found
  obtain ⟨db, files, done, built_of, built, exports, stored⟩ := (inv.current _ running).written _ _ rfl
  refine ⟨db, files, done ++ [(artifact, payload)], built_of, built, by rw [exports, List.append_assoc]; rfl, fun file member => ?_⟩
  rcases List.mem_append.mp member with before | last
  · have apart := export_destinations published dockyard_id run_id
    rw [exports, List.map_append, List.nodup_append] at apart
    have other := apart.2.2 _ (List.mem_map_of_mem before) _ (List.mem_map_of_mem List.mem_cons_self)
    exact (Function.update_of_ne other _ _).trans (stored file before)
  · rw [List.mem_singleton.mp last]
    exact Function.update_self _ _ _

theorem finish_inv (inv : Inv library s) {dockyard_id run_id : Nat} (running : s.current = some { dockyard_id, run_id, published := some (published, []) })
    (now : Nat) (event : SecurityEvent) :
    Preserves s ({ s with db := update_report s.db run_id (completed library published dockyard_id now), current := none }.with_event event) ∧
      Inv library ({ s with db := update_report s.db run_id (completed library published dockyard_id now), current := none }.with_event event) := by
  have preserves : Preserves s
      ({ s with db := update_report s.db run_id (completed library published dockyard_id now), current := none }.with_event event) :=
    ⟨fun run member done => mem_update.mpr (.inl ⟨member, not_current inv running member done⟩), fun _ _ _ _ => rfl, fun _ _ _ => rfl⟩
  have writing := inv.current _ running
  have changed {run row : ReportRun} (found : row ∈ s.db.report_runs) (id : row.id = run_id)
      (is : run = completed library published dockyard_id now row) :
      run = completed library published dockyard_id now (requested dockyard_id run_id) := by
    rw [is, same_row inv found writing.row id]
  refine ⟨preserves, idle_inv inv preserves (update_ids fun _ => rfl) (fun run member done => ?_) (fun run member is => ?_) rfl⟩
  · rcases mem_update.mp member with before | ⟨row, found, id, is⟩
    · exact .inl before.1
    · have whole := changed found id is
      obtain ⟨db, files, done, built_of, built, exports, stored⟩ := writing.written _ _ rfl
      rw [List.append_nil] at exports
      subst whole
      exact .inr ⟨published, ⟨db, files, built_of, built⟩, ⟨now, rfl⟩, fun file member => stored file (exports ▸ member)⟩
  · rcases mem_update.mp member with ⟨before, other⟩ | ⟨row, found, id, same⟩
    · obtain ⟨there, found, id⟩ := inv.running run before is
      rw [running] at found
      cases found
      exact other id.symm
    · rw [same] at is
      cases is

/-- What the recovery of some of the runs does. -/
structure Discarded (s s' : State) (runs : List ReportRun) : Prop where
  preserves : Preserves s s'
  ids : s'.db.report_runs.map ReportRun.id = s.db.report_runs.map ReportRun.id
  rows : ∀ run ∈ s'.db.report_runs, (run ∈ s.db.report_runs ∧ ∀ row ∈ runs, run.id ≠ row.id) ∨ run.status = .failed

theorem discard_all {error : Text} {now : Nat} {runs : List ReportRun}
    (apart : ∀ run ∈ s.db.report_runs, run.status = .completed → ∀ row ∈ runs, run.id ≠ row.id) :
    Discarded s (runs.foldl (fun s run => s.discard run.dockyard_id run.id error now) s) runs := by
  induction runs generalizing s with
  | nil => exact ⟨⟨fun _ member _ => member, fun _ _ _ _ => rfl, fun _ _ _ => rfl⟩, rfl, fun run member => .inl ⟨member, by simp⟩⟩
  | cons first runs ih =>
    have here := @discard_preserves s first.dockyard_id first.id now error fun run member done => apart run member done first List.mem_cons_self
    have rest := @ih (s.discard first.dockyard_id first.id error now) fun run member done row listed => by
      rcases discard_rows member with before | failed
      · exact apart run before.1 done row (List.mem_cons_of_mem _ listed)
      · rw [failed] at done
        cases done
    refine ⟨here.trans rest.preserves, rest.ids.trans discard_ids, fun run member => ?_⟩
    rcases rest.rows run member with ⟨before, others⟩ | failed
    · rcases discard_rows before with ⟨old, other⟩ | failed
      · exact .inl ⟨old, List.forall_mem_cons.mpr ⟨other, others⟩⟩
      · exact .inr failed
    · exact .inr failed

theorem restart_inv (inv : Inv library s) (now : Nat) :
    Preserves s { recovered s now with current := none } ∧ Inv library { recovered s now with current := none } := by
  have discarded : Discarded s (recovered s now) (s.db.report_runs.filter fun run => run.status = .running) :=
    discard_all fun run member done row listed same => by
      obtain ⟨found, running⟩ := List.mem_filter.mp listed
      rw [same_row inv member found same] at done
      rw [decide_eq_true_eq, done] at running
      cases running
  have preserves : Preserves s { recovered s now with current := none } :=
    ⟨discarded.preserves.rows, discarded.preserves.files, discarded.preserves.built⟩
  refine ⟨preserves, idle_inv inv preserves discarded.ids (fun run member done => ?_) (fun run member is => ?_) rfl⟩
  · rcases discarded.rows run member with ⟨before, _⟩ | failed
    · exact .inl before
    · rw [failed] at done
      cases done
  · rcases discarded.rows run member with ⟨before, others⟩ | failed
    · exact others run (List.mem_filter.mpr ⟨before, decide_eq_true is⟩) rfl
    · rw [failed] at is
      cases is

/-- A step that leaves the run in progress and all report rows. -/
theorem aside_inv (inv : Inv library s) (rows : s'.db.report_runs = s.db.report_runs) (current : s'.current = s.current)
    (built : s'.built_of = s.built_of)
    (files : ∀ dockyard_id run_id artifact, s'.files (destination dockyard_id run_id .reporting artifact) =
      s.files (destination dockyard_id run_id .reporting artifact)) : Preserves s s' ∧ Inv library s' := by
  have preserves : Preserves s s' :=
    ⟨fun run member _ => rows ▸ member, fun run _ _ artifact => files _ _ artifact, fun run _ _ => by rw [built]⟩
  refine ⟨preserves, rows ▸ inv.once, fun run member done => ?_, fun run member is => ?_, fun there found => ?_⟩
  · rw [rows] at member
    obtain ⟨published, kept⟩ := inv.completed run member done
    exact ⟨published, preserves.kept member done kept⟩
  · rw [rows] at member
    rw [current]
    exact inv.running run member is
  · rw [current] at found
    have writing := inv.current there found
    refine ⟨rows ▸ writing.row, fun published rest is => ?_⟩
    obtain ⟨db, read, done, built_of, made, exports, stored⟩ := writing.written published rest is
    exact ⟨db, read, done, by rw [built, built_of], made, exports, fun file member => (files _ _ _).trans (stored file member)⟩

theorem step_inv (inv : Inv library s) {action : Action} (stepped : step library s action = some s') : Preserves s s' ∧ Inv library s' := by
  cases action with
  | request dockyard_id run_id permitted permitted_again =>
    simp only [step] at stepped
    split at stepped
    · next idle _ =>
      split at stepped
      · next guards =>
        rw [← Option.some.inj stepped]
        exact request_inv inv idle guards.2.2.2 _
      · cases stepped
    · cases stepped
  | build now =>
    simp only [step] at stepped
    split at stepped
    · next running =>
      split at stepped
      · rw [← Option.some.inj stepped]
        exact fail_inv inv running _ now
      · next built =>
        rw [← Option.some.inj stepped]
        exact build_inv inv running built
    · cases stepped
  | write =>
    simp only [step] at stepped
    split at stepped
    · next running =>
      rw [← Option.some.inj stepped]
      exact write_inv inv running
    · cases stepped
  | interrupt error now =>
    simp only [step] at stepped
    split at stepped
    · next running =>
      rw [← Option.some.inj stepped]
      exact fail_inv inv running error now
    · cases stepped
  | finish permitted now =>
    simp only [step] at stepped
    split at stepped
    · next running =>
      split at stepped
      · rw [← Option.some.inj stepped]
        exact finish_inv inv running now _
      · rw [← Option.some.inj stepped]
        exact fail_inv inv running _ now
    · cases stepped
  | restart now =>
    rw [← Option.some.inj stepped]
    exact restart_inv inv now
  | evidence dockyard_id run_id scope artifact payload =>
    simp only [step] at stepped
    split at stepped
    · next guards =>
      rw [← Option.some.inj stepped]
      exact aside_inv inv rfl rfl rfl fun _ _ _ => written_other fun reporting => absurd reporting guards.1
    · cases stepped
  | others db =>
    rw [← Option.some.inj stepped]
    exact aside_inv inv rfl rfl rfl fun _ _ _ => rfl

/-! ### Runs -/

/-- The application before its first report. -/
def fresh_state (db : Database) (files : Files) : State := { db := { db with report_runs := [] }, files }

theorem fresh_inv (db : Database) (files : Files) : Inv library (fresh_state db files) where
  once := List.nodup_nil
  completed := fun _ member => absurd member List.not_mem_nil
  running := fun _ member => absurd member List.not_mem_nil
  current := fun _ none => by cases none

theorem kept_always (inv : Inv library s) (member : run ∈ s.db.report_runs) (done : run.status = .completed)
    (kept : Kept library s run published) :
    Runs.Always (step library) s fun t => run ∈ t.db.report_runs ∧ Kept library t run published :=
  Runs.always_of_invariant (fun t => Inv library t ∧ run ∈ t.db.report_runs ∧ Kept library t run published)
    (fun t action t' held stepped => by
      obtain ⟨same, next⟩ := step_inv held.1 stepped
      exact ⟨next, same.rows run held.2.1 done, same.kept held.2.1 done held.2.2⟩)
    ⟨inv, member, kept⟩ fun _ held => held.2

end
end RedDock.Reporting
