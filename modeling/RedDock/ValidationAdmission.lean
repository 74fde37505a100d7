import RedDock.Admissions
import RedDock.RetainedRows
import RedDock.Fallible

/-!
# Retained validation runs

Any number of validation `create_run` calls, each with its own session, among
edits of the scope and the findings, approvals and restarts. A call counts the
runs of its Dockyard, resolves its target and commits its run in steps of their
own, with no lock around them; the orders a database holds back are among those
that are run here. A report reads the runs with one query.
-/
set_option autoImplicit false
namespace RedDock.ValidationAdmission
open Text Targets DockGuard Admissions Runs Fallible
open Approvals (Status Asset StoredEvidence validation_target)
open Retained (ValidationRun ordered)

/-- The columns of a finding that `create_run` reads. -/
structure Finding extends Approvals.Finding where
  status : Text

/-- Where a `create_run` call stands. -/
inductive Phase
  | called
  /-- Authorized, with the identity locks released by a commit. -/
  | released
  | found (finding : Finding)
  | counted (finding : Finding)
  | targeted (target : Target)
  | evaluated (target : Target) (evaluation : Evaluation)
  /-- The row of the run is not committed. -/
  | flushed (run : ValidationRun)
  | admission (run : ValidationRun)
  | finished

structure Call where
  dockyard_id : Nat
  finding_id : Nat
  phase : Phase := .called

inductive Act
  | authorize (permitted : Bool)
  | find
  | count
  | target
  | evaluate (resolver : Resolver)
  | insert (now : Nat)
  | commit
  /-- An exception, and the rollback of the session. -/
  | raise

/-- What an `approve_run` call commits of a run. -/
inductive Approval
  | claim (note : Text) (evaluation : Evaluation)
  | store (evidence : StoredEvidence)
  | complete (result : Validation.ValidationResult)
  | fail (error : Text)

structure World where
  rules : Nat → List ScopeRule
  findings : Nat → Option Finding
  assets : Nat → Option Asset
  runs : List ValidationRun := []
  next_id : Nat := 1
  calls : List Call := []

inductive Action
  | call (dockyard_id finding_id : Nat)
  | act (number : Nat) (act : Act)
  | edit (rules : Nat → List ScopeRule) (findings : Nat → Option Finding) (assets : Nat → Option Asset)
  | approve (run_id : Nat) (approval : Approval) (now : Nat)
  /-- The process ends, with its calls, and starts with `recover_interrupted_runs`. -/
  | restart (now : Nat)

def of_dockyard (dockyard_id : Nat) (run : ValidationRun) : Bool := run.dockyard_id = dockyard_id

/-- The count of `_within_validation_limit`. -/
def retained_runs (w : World) (dockyard_id : Nat) : Nat := w.runs.countP (of_dockyard dockyard_id)

/-- The row that a call inserts. -/
def created_row (run_id dockyard_id finding_id : Nat) (target : Target) (evaluation : Evaluation) (now : Nat) : ValidationRun where
  id := run_id
  finding_id := finding_id
  dockyard_id := dockyard_id
  target := target.value
  status := if evaluation.allowed then .pending_approval else .denied
  decision := some evaluation.decision
  decision_reason := some (evaluation.reason.take 500)
  completed_at := if evaluation.allowed then none else some now

def approved_row (approval : Approval) (now : Nat) (run : Approvals.ValidationRun) : Approvals.ValidationRun :=
  match approval with
  | .claim note evaluation => Approvals.claim_row run note evaluation now
  | .store evidence => Approvals.evidence_row run evidence
  | .complete result => Approvals.completed_row run result now
  | .fail error => Approvals.failed_row run error now

/-- A run with other columns of its validation. -/
def changed (change : Approvals.ValidationRun → Approvals.ValidationRun) (run : ValidationRun) : ValidationRun :=
  { run with toValidationRun := change run.toValidationRun }

/-- The rows and the phase an act leaves. -/
structure Left where
  runs : List ValidationRun
  next_id : Nat
  phase : Phase

/-- A move that touches no row. -/
def World.stay (w : World) (phase : Phase) : Left := ⟨w.runs, w.next_id, phase⟩

section
variable (u : Unicode) (limit : Nat)

/-- One act of a call, absent when it stands elsewhere. -/
def move (w : World) (call : Call) : Phase → Act → Option Left
  | .called, .authorize permitted => some (w.stay (if permitted then .released else .finished))
  | .released, .find => some (w.stay (match w.findings call.finding_id with
      | none => .finished
      | some finding => if finding.dockyard_id ≠ call.dockyard_id ∨ finding.status ≠ "open".toList then .finished else .found finding))
  | .found finding, .count => some (w.stay (if limit ≤ retained_runs w call.dockyard_id then .finished else .counted finding))
  | .counted finding, .target => some (w.stay (match validation_target u finding.toFinding w.assets with
      | .error _ => .finished
      | .ok target => .targeted target))
  | .targeted target, .evaluate resolver => some (w.stay (match evaluate u target.value (w.rules call.dockyard_id) (some resolver) with
      | .error _ => .finished
      | .ok evaluation => .evaluated target evaluation))
  | .evaluated target evaluation, .insert now => some {
      runs := w.runs
      next_id := w.next_id + 1
      phase := .flushed (created_row w.next_id call.dockyard_id call.finding_id target evaluation now) }
  | .flushed run, .authorize permitted => some (w.stay (if permitted then .admission run else .finished))
  | .admission run, .commit => some { runs := w.runs ++ [run], next_id := w.next_id, phase := .finished }
  | .finished, .raise => none
  | _, .raise => some (w.stay .finished)
  | _, _ => none

/-- The world after a move. -/
def World.after (w : World) (number : Nat) (call : Call) (left : Left) : World :=
  { w with runs := left.runs, next_id := left.next_id, calls := w.calls.set number { call with phase := left.phase } }

def step (w : World) : Action → Option World
  | .call dockyard_id finding_id => some { w with calls := w.calls ++ [{ dockyard_id, finding_id }] }
  | .act number act => (w.calls[number]?).bind fun call => (move u limit w call call.phase act).map fun left => w.after number call left
  | .edit rules findings assets => some { w with rules := rules, findings := findings, assets := assets }
  | .approve run_id approval now =>
    some { w with runs := w.runs.map fun run => if run.id = run_id then changed (approved_row approval now) run else run }
  | .restart now => some { w with
      runs := w.runs.map (changed fun run => Approvals.recovered_row run now)
      calls := w.calls.map fun call => { call with phase := .finished } }

end

/-! ### What a report reads -/

structure ValidationRow where
  id : Nat
  status : Status
  outcome : Option Validation.Outcome
  confidence : Option Text
  summary : Option Text
  decision : Option Decision
  result_sha256 : Option Text
  manifest_sha256 : Option Text
  completed_at : Option Nat

def validation_row (run : ValidationRun) : ValidationRow where
  id := run.id
  status := run.status
  outcome := run.outcome
  confidence := run.confidence
  summary := run.summary
  decision := run.decision
  result_sha256 := run.result_sha256
  manifest_sha256 := run.manifest_sha256
  completed_at := run.completed_at

/-- `setdefault` and `append` of a dictionary of lists. -/
def append_to (key : Nat) (row : ValidationRow) : List (Nat × List ValidationRow) → List (Nat × List ValidationRow)
  | [] => [(key, [row])]
  | entry :: entries => if entry.1 = key then (key, entry.2 ++ [row]) :: entries else entry :: append_to key row entries

/-- The loop of `_validation_rows`, past some rows. -/
def add_rows (limit : Nat) (result : List (Nat × List ValidationRow)) : Nat → List ValidationRun → Except Text (List (Nat × List ValidationRow))
  | _, [] => .ok result
  | past, run :: runs =>
    if limit < past + 1 then .error "The report exceeds the fixed validation-row limit".toList
    else add_rows limit (append_to run.finding_id (validation_row run) result) (past + 1) runs

/-- `_validation_rows` -/
def validation_rows (limit : Nat) (runs : List ValidationRun) (dockyard_id : Nat) : Except Text (List (Nat × List ValidationRow)) :=
  add_rows limit [] 0 ((ordered (fun run => toLex (run.finding_id, run.id)) (runs.filter (of_dockyard dockyard_id))).take (limit + 1))

theorem add_rows_ok {limit past : Nat} {result : List (Nat × List ValidationRow)} {runs : List ValidationRun} :
    (∃ rows, add_rows limit result past runs = .ok rows) ↔ runs = [] ∨ past + runs.length ≤ limit := by
  induction runs generalizing past result with
  | nil => simp [add_rows]
  | cons run runs ih =>
    rw [add_rows]
    by_cases beyond : limit < past + 1
    · simp only [beyond, if_true, List.length_cons, reduceCtorEq, exists_false, false_or, false_iff]
      omega
    · simp only [beyond, if_false, ih, List.length_cons, reduceCtorEq, false_or]
      constructor
      · rintro (rfl | within)
        · simp only [List.length_nil]
          omega
        · omega
      · exact fun within => Or.inr (by omega)

/-- A report refuses a Dockyard with more runs than the limit, and no other. -/
theorem validation_rows_ok {limit : Nat} {runs : List ValidationRun} {dockyard_id : Nat} :
    (∃ rows, validation_rows limit runs dockyard_id = .ok rows) ↔ runs.countP (of_dockyard dockyard_id) ≤ limit := by
  rw [validation_rows, add_rows_ok, List.countP_eq_length_filter]
  have listed : (ordered (fun run : ValidationRun => toLex (run.finding_id, run.id)) (runs.filter (of_dockyard dockyard_id))).length =
      (runs.filter (of_dockyard dockyard_id)).length := (List.perm_insertionSort _ _).length_eq
  rw [← List.length_eq_zero_iff, List.length_take, listed]
  omega

/-! ### Calls between their count and their commit -/

def Phase.inserting : Phase → Bool
  | .counted _ | .targeted _ | .evaluated _ _ | .flushed _ | .admission _ => true
  | _ => false

def inserting (dockyard_id : Nat) (call : Call) : Bool := call.dockyard_id = dockyard_id && call.phase.inserting

/-- The runs of a Dockyard, and the calls on it that have counted and are yet to
    commit one more. -/
def pledged (w : World) (dockyard_id : Nat) : Nat := load (of_dockyard dockyard_id) (inserting dockyard_id) w.runs w.calls

/-- A call that counts fewer runs than the limit still does so with the calls
    that are ahead of it. -/
def RoomLeft (limit : Nat) (w : World) : Action → Prop
  | .act number .count => ∀ call, w.calls[number]? = some call → retained_runs w call.dockyard_id < limit →
      pledged w call.dockyard_id < limit
  | _ => True

instance (limit : Nat) (w : World) (a : Action) : Decidable (RoomLeft limit w a) := by
  cases a with
  | act number act =>
    cases act with
    | count =>
      exact inferInstanceAs (Decidable (∀ call ∈ w.calls[number]?, retained_runs w call.dockyard_id < limit →
        pledged w call.dockyard_id < limit))
    | _ => exact isTrue trivial
  | _ => exact isTrue trivial

/-- The row that a call is about to commit. -/
def Phase.row : Phase → Option ValidationRun
  | .flushed run | .admission run => some run
  | _ => none

section
variable {u : Unicode} {limit : Nat}

/-- Everything an act of a call can do. -/
inductive Moves (limit : Nat) (w : World) (call : Call) : Phase → Act → Left → Prop
  | stay {phase phase' : Phase} {act : Act} : (phase'.inserting = true → phase.inserting = true) →
      (∀ run, phase'.row = some run → phase.row = some run) → Moves limit w call phase act ⟨w.runs, w.next_id, phase'⟩
  | count {finding : Finding} : retained_runs w call.dockyard_id < limit →
      Moves limit w call (.found finding) .count ⟨w.runs, w.next_id, .counted finding⟩
  | insert {phase : Phase} {act : Act} {run : ValidationRun} : phase.inserting = true → run.dockyard_id = call.dockyard_id →
      Moves limit w call phase act ⟨w.runs, w.next_id + 1, .flushed run⟩
  | commit {run : ValidationRun} {act : Act} : Moves limit w call (.admission run) act ⟨w.runs ++ [run], w.next_id, .finished⟩

/-- A call that gives up, or goes on without a row. -/
theorem stay_moves {w : World} {call : Call} {phase phase' : Phase} {act : Act} (inserting : phase'.inserting = true → phase.inserting = true)
    (rowless : phase'.row = none) : Moves limit w call phase act (w.stay phase') :=
  .stay inserting fun run row => by rw [rowless] at row; cases row

theorem move_moves {w : World} {call : Call} {phase : Phase} {act : Act} {left : Left} (moved : move u limit w call phase act = some left) :
    Moves limit w call phase act left := by
  unfold move at moved
  split at moved
  · cases moved
    split <;> exact stay_moves nofun rfl
  · cases moved
    split
    · exact stay_moves nofun rfl
    · split <;> exact stay_moves nofun rfl
  · cases moved
    split
    · exact stay_moves nofun rfl
    · next room => exact .count (Nat.not_le.mp room)
  · cases moved
    split <;> exact stay_moves (fun _ => rfl) rfl
  · cases moved
    split <;> exact stay_moves (fun _ => rfl) rfl
  · cases moved
    exact .insert rfl rfl
  · cases moved
    split
    · exact .stay (fun _ => rfl) fun run row => row
    · exact stay_moves nofun rfl
  · cases moved
    exact .commit
  · cases moved
  · cases moved
    exact stay_moves nofun rfl
  · cases moved

/-! ### The invariant -/

structure Inv (limit : Nat) (w : World) : Prop where
  within : ∀ dockyard_id, pledged w dockyard_id ≤ limit
  own : ∀ call ∈ w.calls, ∀ run, call.phase.row = some run → run.dockyard_id = call.dockyard_id

/-- Runs within the limit, and no call at work. -/
def Begins (limit : Nat) (w : World) : Prop := w.calls = [] ∧ ∀ dockyard_id, retained_runs w dockyard_id ≤ limit

theorem inv_begins {w : World} (begins : Begins limit w) : Inv limit w where
  within dockyard_id := by
    rw [pledged, begins.1, load_alone fun call member => (List.not_mem_nil member).elim]
    exact begins.2 dockyard_id
  own call member := by
    rw [begins.1] at member
    exact (List.not_mem_nil member).elim

theorem own_set {w : World} {number : Nat} {call : Call} {phase : Phase} (inv : Inv limit w)
    (own : ∀ run, phase.row = some run → run.dockyard_id = call.dockyard_id) :
    ∀ other ∈ w.calls.set number { call with phase := phase }, ∀ run, other.phase.row = some run → run.dockyard_id = other.dockyard_id := by
  intro other member
  rcases List.mem_or_eq_of_mem_set member with old | rfl
  · exact inv.own other old
  · exact own

theorem inv_moves {w : World} {number : Nat} {call : Call} {act : Act} {left : Left} (inv : Inv limit w) (here : w.calls[number]? = some call)
    (moves : Moves limit w call call.phase act left)
    (room : act = .count → retained_runs w call.dockyard_id < limit → pledged w call.dockyard_id < limit) : Inv limit (w.after number call left) := by
  have member := List.mem_of_getElem? here
  obtain ⟨dockyard_id, finding_id, phase⟩ := call
  cases moves with
  | @stay phase phase' act inserts rows =>
    refine ⟨fun d => (Admissions.Moves.hold (le_refl _) (countP_set_le here fun after => ?_)).within (inv.within d),
      own_set inv fun run row => inv.own _ member run (rows run row)⟩
    simp only [inserting, Bool.and_eq_true] at after ⊢
    exact ⟨after.1, inserts after.2⟩
  | count fewer =>
    refine ⟨fun d => ?_, own_set inv fun run row => by cases row⟩
    by_cases same : dockyard_id = d
    · subst same
      exact (Admissions.Moves.pass here (room rfl fewer)).within (inv.within dockyard_id)
    · exact (Admissions.Moves.hold (le_refl _) (countP_set_le here fun after => by simp [inserting, same] at after)).within (inv.within d)
  | @insert phase act run inserts own =>
    refine ⟨fun d => (Admissions.Moves.hold (le_refl _) (countP_set_le here fun after => ?_)).within (inv.within d),
      own_set inv fun other row => by cases row; exact own⟩
    simp only [inserting, Bool.and_eq_true] at after ⊢
    exact ⟨after.1, inserts⟩
  | @commit run act =>
    have owned : run.dockyard_id = dockyard_id := inv.own _ member run rfl
    refine ⟨fun d => ?_, own_set inv fun other row => by cases row⟩
    by_cases same : dockyard_id = d
    · exact (Admissions.Moves.insert here (by simp [inserting, same, Phase.inserting]) (by simp [inserting, Phase.inserting])).within (inv.within d)
    · refine (Admissions.Moves.hold ?_ (countP_set_le here fun after => by simp [inserting, same] at after)).within (inv.within d)
      show (w.runs ++ [run]).countP (of_dockyard d) ≤ w.runs.countP (of_dockyard d)
      simp [of_dockyard, owned, same]

theorem dockyard_of_approved {approval : Approval} {now : Nat} {run : Approvals.ValidationRun} :
    (approved_row approval now run).dockyard_id = run.dockyard_id := by
  cases approval <;> rfl

theorem inv_step {w w' : World} {a : Action} (inv : Inv limit w) (room : RoomLeft limit w a) (stepped : step u limit w a = some w') :
    Inv limit w' := by
  cases a with
  | call dockyard_id finding_id =>
    cases stepped
    refine ⟨fun d => (Admissions.Moves.hold (le_refl _) (Nat.le_of_eq (countP_arrive ?_))).within (inv.within d), fun call member => ?_⟩
    · simp [inserting, Phase.inserting]
    · rcases List.mem_append.mp member with old | new
      · exact inv.own call old
      · rw [List.mem_singleton.mp new]
        intro run row
        cases row
  | act number act =>
    obtain ⟨call, here, moved⟩ := Option.bind_eq_some_iff.mp stepped
    obtain ⟨left, left_by, rfl⟩ := Option.map_eq_some_iff.mp moved
    refine inv_moves inv here (move_moves left_by) fun counts => ?_
    subst counts
    exact room call here
  | edit rules findings assets =>
    cases stepped
    exact ⟨inv.within, inv.own⟩
  | approve run_id approval now =>
    cases stepped
    refine ⟨fun d => (Admissions.Moves.hold (countP_map_le fun run counts => ?_) (le_refl _)).within (inv.within d), inv.own⟩
    split at counts
    · simpa [of_dockyard, changed, dockyard_of_approved] using counts
    · exact counts
  | restart now =>
    cases stepped
    refine ⟨fun d => (Admissions.Moves.hold (countP_map_le fun run counts => ?_) ?_).within (inv.within d), fun call member run row => ?_⟩
    · simp only [of_dockyard, changed, Approvals.recovered_row] at counts ⊢
      split at counts <;> exact counts
    · exact countP_map_le fun call after => by simp [inserting, Phase.inserting] at after
    · obtain ⟨before, -, rfl⟩ := List.mem_map.mp member
      cases row

theorem inv_run {w w' : World} {actions : List Action} (begins : Begins limit w) (room : Along (step u limit) (RoomLeft limit) w actions)
    (ran : run (step u limit) w actions = some w') : Inv limit w' :=
  invariant_along (Inv limit) (fun _ _ _ inv => inv_step inv) room (inv_begins begins) ran

end

/-- As long as a call that counts fewer runs than the limit has room with the
    calls ahead of it, the runs stay within the limit and reports are made. -/
theorem validation_limit_kept (u : Unicode) (limit : Nat) (w w' : World) (actions : List Action) (begins : Begins limit w)
    (room : Along (step u limit) (RoomLeft limit) w actions) (ran : run (step u limit) w actions = some w') (dockyard_id : Nat) :
    retained_runs w' dockyard_id ≤ limit ∧ ∃ rows, validation_rows limit w'.runs dockyard_id = .ok rows := by
  have within : retained_runs w' dockyard_id ≤ limit := Nat.le_trans counted_le_load ((inv_run begins room ran).within dockyard_id)
  exact ⟨within, validation_rows_ok.mpr within⟩

/-! ### The last run of a Dockyard -/

def origin : Text := "https://10.0.0.1".toList

/-- A Dockyard with one run less than the 500 it may hold. -/
def nearly_full : World where
  rules := fun _ => [⟨.include, origin⟩]
  findings := fun id => if id = 1 then some {
      dockyard_id := 1
      detector := Approvals.VALIDATOR_DETECTOR
      rule_id := HttpHeaders.frame_protection_not_set.rule_id
      asset_id := some 1
      status := "open".toList }
    else none
  assets := fun id => if id = 1 then some ⟨1, origin⟩ else none
  runs := (List.range 499).map fun n => { id := n + 1, finding_id := 1, dockyard_id := 1, target := origin, status := .completed }
  next_id := 500

theorem nearly_full_begins : Begins 500 nearly_full := by
  refine ⟨rfl, fun dockyard_id => Nat.le_trans List.countP_le_length ?_⟩
  simp [nearly_full]

/-- What a call does up to its count, and from there to its commit. -/
def until_count (number : Nat) : List Action := [.act number (.authorize true), .act number .find, .act number .count]

def until_commit (number : Nat) : List Action :=
  [.act number .target, .act number (.evaluate fun _ => .ok []), .act number (.insert 7), .act number (.authorize true), .act number .commit]

/-- The second call counts after the first has committed. -/
def in_turn : List Action := [.call 1 1, .call 1 1] ++ until_count 0 ++ until_commit 0 ++ until_count 1

/-- Both calls count before either commits. -/
def at_once : List Action := [.call 1 1, .call 1 1] ++ until_count 0 ++ until_count 1 ++ until_commit 0 ++ until_commit 1

theorem validation_limit_kept_in_turn : ∃ w, run (step .plain 500) nearly_full in_turn = some w ∧ retained_runs w 1 = 500 ∧
    ∃ rows, validation_rows 500 w.runs 1 = .ok rows := by
  have reached : (run (step .plain 500) nearly_full in_turn).map (fun w => retained_runs w 1) = some 500 := by decide +kernel
  obtain ⟨w, ran, full⟩ := Option.map_eq_some_iff.mp reached
  have room : Along (step .plain 500) (RoomLeft 500) nearly_full in_turn := by decide +kernel
  exact ⟨w, ran, full, (validation_limit_kept .plain 500 nearly_full w in_turn nearly_full_begins room ran 1).2⟩

/-- Two requests that count at once leave one run too many, and no report can be
    made of the Dockyard. -/
theorem validation_limit_exceeded : ¬ ∀ u limit w w' actions, Begins limit w → run (step u limit) w actions = some w' →
    ∀ dockyard_id, retained_runs w' dockyard_id ≤ limit ∧ ∃ rows, validation_rows limit w'.runs dockyard_id = .ok rows := by
  intro bounded
  have reached : (run (step .plain 500) nearly_full at_once).map (fun w => retained_runs w 1) = some 501 := by decide +kernel
  obtain ⟨w, ran, full⟩ := Option.map_eq_some_iff.mp reached
  have within := (bounded .plain 500 nearly_full w at_once nearly_full_begins ran 1).1
  omega

end RedDock.ValidationAdmission
