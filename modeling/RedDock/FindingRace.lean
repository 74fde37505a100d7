import RedDock.Findings

/-!
# An operator decides while a detection run works

One finding row under the statements of a detection run's transaction and the
operators' transactions around it. The run reads the row without a lock and
writes the columns it changed at a later flush; an operator's transaction locks
the row first.
-/
set_option autoImplicit false
namespace RedDock.FindingRace
open Text Detection Findings Runs

/-! ### The transactions -/

/-- What a run does with the finding: whether a detector reproduced it, with
    which conclusion, and whether its own detector resolves what is absent. -/
structure Plan where
  run_id : Nat
  seen_at : Nat
  resolved_at : Nat
  reproduced : Option Conclusion
  covered : Bool
  unevaluated : Bool

/-- The columns a session changed and has not flushed. -/
structure Changes where
  seen : Option Conclusion := none
  status : Option FindingStatus := none
  resolved_at : Option (Option Nat) := none

/-- The row with the changed columns written. -/
def Changes.write (plan : Plan) (changes : Changes) (row : Finding) : Finding :=
  let seen := match changes.seen with
    | none => row
    | some conclusion => reconciled plan.run_id plan.seen_at row.fingerprint conclusion (some row)
  { seen with
    status := changes.status.getD row.status
    resolved_at := changes.resolved_at.getD row.resolved_at }

/-- What `upsert_finding` changes of a row it has read. -/
def upsert_changes (conclusion : Conclusion) (row : Finding) : Changes where
  seen := some conclusion
  status := if row.status = .resolved then some .open else none
  resolved_at := if row.status = .resolved then some none else none

/-- What `resolve_absent` changes of a candidate it has read. -/
def resolve_changes (plan : Plan) (row : Finding) : Changes :=
  if plan.reproduced.isSome || row.status = .resolved || plan.unevaluated then {}
  else { status := some .resolved, resolved_at := some (some plan.resolved_at) }

/-- The statement the run executes next. -/
inductive Phase
  | store
  | flush_stored
  | list
  | flush_resolved
  | commit
  | finished
  deriving DecidableEq

/-- Who holds the row lock. -/
inductive Holder
  | run
  | operator (status : FindingStatus) (note : Option Text)

/-- The committed row and its lock, the run's session, and the last decision an
    operator committed. -/
structure World where
  committed : Finding
  lock : Option Holder := none
  phase : Phase := .store
  loaded : Option Finding := none
  changes : Changes := {}
  written : Option Finding := none
  decided : Option FindingStatus := none

inductive Action
  /-- The run executes its next statement, or raises and rolls back. -/
  | advance
  | abort
  /-- `set_status` locks the row, and commits or raises. -/
  | lock (status : FindingStatus) (note : Option Text)
  | settle (permitted : Bool)

/-- The row a SELECT of the run finds. -/
def World.visible (w : World) : Finding := w.written.getD w.committed

/-- The row as the session has it: an instance that is loaded stays as it is. -/
def World.row (w : World) : Finding := w.loaded.getD w.visible

/-- A flush, which waits for the lock when there is something to write. -/
def flush (plan : Plan) (w : World) (next : Phase) : Option World :=
  match w.changes, w.lock with
  | { seen := none, status := none, resolved_at := none }, _ => some { w with phase := next }
  | _, some (.operator _ _) => none
  | changes, _ => some { w with
      phase := next
      lock := some .run
      written := some (changes.write plan w.visible)
      changes := {} }

/-- The next statement of the run. -/
def advance (plan : Plan) (w : World) : Option World :=
  match w.phase with
  | .store =>
    match plan.reproduced with
    | none => some { w with phase := .list }
    | some conclusion =>
      let row := w.row
      let changes := upsert_changes conclusion row
      some { w with phase := .flush_stored, loaded := some (changes.write plan row), changes := changes }
  | .flush_stored => flush plan w .list
  | .list =>
    if plan.covered && w.visible.status ∉ OPERATOR_OWNED_STATUSES then
      let row := w.row
      let changes := resolve_changes plan row
      some { w with phase := .flush_resolved, loaded := some (changes.write plan row), changes := changes }
    else some { w with phase := .commit }
  | .flush_resolved => flush plan w .commit
  | .commit => some { w with
      phase := .finished
      committed := w.visible
      lock := match w.lock with
        | some .run => none
        | lock => lock
      loaded := none
      written := none }
  | .finished => none

/-- The run's transaction is rolled back. -/
def abort (w : World) : World :=
  { w with
    phase := .finished
    lock := match w.lock with
      | some .run => none
      | lock => lock
    loaded := none
    changes := {}
    written := none }

/-- The row an operator's transaction commits. -/
def decide_status (status : FindingStatus) (note : Option Text) (row : Finding) : Finding :=
  { row with
    status := status
    status_note := note
    resolved_at := if status = .open then none else row.resolved_at }

def step (plan : Plan) (w : World) : Action → Option World
  | .advance => advance plan w
  | .abort => if w.phase = .finished then none else some (abort w)
  | .lock status note =>
    match w.lock with
    | none => if status ∈ OPERATOR_STATUSES then some { w with lock := some (.operator status note) } else none
    | some _ => none
  | .settle permitted =>
    match w.lock with
    | some (.operator status note) =>
      if permitted then
        some { w with committed := decide_status status note w.committed, lock := none, decided := some status }
      else some { w with lock := none }
    | _ => none

/-! ### One transaction by itself -/

/-- A flush of what `upsert_finding` changed writes the row that it reconciles. -/
theorem write_upsert_changes (plan : Plan) (conclusion : Conclusion) (row : Finding) :
    (upsert_changes conclusion row).write plan row =
      reconciled plan.run_id plan.seen_at row.fingerprint conclusion (some row) := by
  by_cases back : row.status = .resolved <;> simp [Changes.write, upsert_changes, reconciled, back]

/-- An operator's transaction writes the row that `set_status` does. -/
theorem set_status_decide (status : FindingStatus) (note : Option Text) (row : Finding) :
    set_status row.fingerprint status note [row] = [decide_status status note row] := by
  simp [set_status, decide_status]

/-! ### Decisions -/

/-- A committed decision to suppress or accept is the status of the row. -/
def DecisionKept (w : World) : Prop :=
  ∀ status, w.decided = some status → status ∈ OPERATOR_OWNED_STATUSES → w.committed.status = status

/-- No such decision is committed over a status change that the run has read
    for and not flushed. -/
def NothingUnflushed (w : World) (action : Action) : Prop :=
  action = .settle true → ∀ status note, w.lock = some (.operator status note) → status ∈ OPERATOR_OWNED_STATUSES →
    w.changes.status = none

/-- A run that is about to start, over a row that agrees with the last decision. -/
structure Begins (w : World) : Prop where
  phase : w.phase = .store
  lock : w.lock = none
  loaded : w.loaded = none
  changes : w.changes = {}
  written : w.written = none
  kept : DecisionKept w

/-- What every statement keeps: a decision is on every version of the row, and
    no unflushed change is about to replace it. -/
structure Inv (w : World) : Prop where
  kept : DecisionKept w
  locked : w.written ≠ none → w.lock = some .run
  written : ∀ row, w.written = some row → ∀ status, w.decided = some status → status ∈ OPERATOR_OWNED_STATUSES →
    row.status = status
  unflushed : ∀ status, w.decided = some status → status ∈ OPERATOR_OWNED_STATUSES → w.changes.status = none
  unloaded : w.phase = .store → w.loaded = none

theorem Begins.inv {w : World} (begins : Begins w) : Inv w where
  kept := begins.kept
  locked some := absurd begins.written some
  written row is := by simp [begins.written] at is
  unflushed _ _ _ := by rw [begins.changes]
  unloaded _ := begins.loaded

/-- The run sees a committed decision. -/
theorem Inv.visible {w : World} (inv : Inv w) {status : FindingStatus} (decided : w.decided = some status)
    (owned : status ∈ OPERATOR_OWNED_STATUSES) : w.visible.status = status := by
  cases version : w.written with
  | none =>
    rw [World.visible, version, Option.getD_none]
    exact inv.kept status decided owned
  | some row =>
    rw [World.visible, version, Option.getD_some]
    exact inv.written row version status decided owned

theorem write_status (plan : Plan) (changes : Changes) (row : Finding) :
    (changes.write plan row).status = changes.status.getD row.status := rfl

theorem flush_inv {plan : Plan} {w w' : World} {next : Phase} (inv : Inv w) (later : next ≠ .store)
    (flushed : flush plan w next = some w') : Inv w' := by
  unfold flush at flushed
  split at flushed
  · cases flushed
    exact ⟨inv.kept, inv.locked, inv.written, inv.unflushed, fun first => absurd first later⟩
  · simp at flushed
  · cases flushed
    refine ⟨inv.kept, fun _ => rfl, ?_, fun _ _ _ => rfl, fun first => absurd first later⟩
    intro row is status decided owned
    cases is
    rw [write_status, inv.unflushed status decided owned, Option.getD_none]
    exact inv.visible decided owned

theorem owned_ne_resolved {status : FindingStatus} (owned : status ∈ OPERATOR_OWNED_STATUSES) : status ≠ .resolved := by
  rintro rfl
  simp [OPERATOR_OWNED_STATUSES] at owned

theorem advance_inv {plan : Plan} {w w' : World} (inv : Inv w) (advanced : advance plan w = some w') : Inv w' := by
  unfold advance at advanced
  cases phase : w.phase with
  | store =>
    simp only [phase] at advanced
    cases reproduced : plan.reproduced with
    | none =>
      simp only [reproduced] at advanced
      cases advanced
      exact ⟨inv.kept, inv.locked, inv.written, inv.unflushed, by simp⟩
    | some conclusion =>
      simp only [reproduced] at advanced
      cases advanced
      refine ⟨inv.kept, inv.locked, inv.written, ?_, by simp⟩
      intro status decided owned
      -- the row that was read carries the decision, so it is not reopened
      have row : w.row.status = status := by
        rw [World.row, inv.unloaded phase, Option.getD_none]
        exact inv.visible decided owned
      have other : w.row.status ≠ .resolved := by
        rw [row]
        exact owned_ne_resolved owned
      simp [upsert_changes, other]
  | flush_stored =>
    simp only [phase] at advanced
    exact flush_inv inv (by simp) advanced
  | list =>
    simp only [phase] at advanced
    split at advanced
    · rename_i candidate
      cases advanced
      refine ⟨inv.kept, inv.locked, inv.written, ?_, by simp⟩
      intro status decided owned
      -- a decided row is no candidate
      rw [Bool.and_eq_true, decide_eq_true_eq, inv.visible decided owned] at candidate
      exact absurd owned candidate.2
    · cases advanced
      exact ⟨inv.kept, inv.locked, inv.written, inv.unflushed, by simp⟩
  | flush_resolved =>
    simp only [phase] at advanced
    exact flush_inv inv (by simp) advanced
  | commit =>
    simp only [phase] at advanced
    cases advanced
    refine ⟨?_, by simp, by simp, inv.unflushed, by simp⟩
    intro status decided owned
    exact inv.visible decided owned
  | finished => simp [phase] at advanced

theorem step_inv (plan : Plan) (w : World) (action : Action) (w' : World) (inv : Inv w) (meets : NothingUnflushed w action)
    (stepped : step plan w action = some w') : Inv w' := by
  cases action with
  | advance => exact advance_inv inv stepped
  | abort =>
    simp only [step] at stepped
    split at stepped
    · simp at stepped
    · cases stepped
      exact ⟨inv.kept, by simp [abort], by simp [abort], by simp [abort], by simp [abort]⟩
  | lock status note =>
    simp only [step] at stepped
    split at stepped
    · rename_i free
      split at stepped
      · cases stepped
        have nothing : w.written = none := by
          by_contra some
          simp [inv.locked some] at free
        exact ⟨inv.kept, fun some => absurd nothing some, inv.written, inv.unflushed, inv.unloaded⟩
      · simp at stepped
    · simp at stepped
  | settle permitted =>
    simp only [step] at stepped
    split at stepped
    · rename_i status note held
      have nothing : w.written = none := by
        by_contra some
        simp [inv.locked some] at held
      cases permitted with
      | true =>
        cases stepped
        refine ⟨?_, fun some => absurd nothing some, fun row is => by simp [nothing] at is, ?_, inv.unloaded⟩
        · intro decided is owned
          exact Option.some.inj is
        · intro decided is owned
          cases is
          exact meets rfl status note held owned
      | false =>
        cases stepped
        exact ⟨inv.kept, fun some => absurd nothing some, inv.written, inv.unflushed, inv.unloaded⟩
    · simp at stepped

/-- In every interleaving in which no decision is committed over an unflushed
    status change of the run, a decision to suppress or accept is never lost. -/
theorem decision_kept {plan : Plan} {w w' : World} {actions : List Action} (begins : Begins w)
    (meets : Along (step plan) NothingUnflushed w actions) (ran : run (step plan) w actions = some w') : DecisionKept w' :=
  (invariant_along Inv (step_inv plan) meets begins.inv ran).kept

/-! ### An operator between the read and the flush -/

def conclusion : Conclusion where
  detector := "stub.detector".toList
  detector_version := "1".toList
  rule_id := "stub-rule".toList
  title := .str "Stub".toList
  description := .str "A stub.".toList
  category := .str "hardening".toList
  severity := .str "low".toList
  confidence := .str "high".toList
  remediation := .none
  detail := .dict []
  cve_references := []
  asset_id := none
  service_id := none

/-- The second run of the detector. -/
def plan (reproduced : Option Conclusion) : Plan where
  run_id := 2
  seen_at := 2
  resolved_at := 2
  reproduced := reproduced
  covered := true
  unevaluated := false

/-- The finding of the first run, and the second about to start. -/
def world (status : FindingStatus) (resolved_at : Option Nat) : World where
  committed := { reconciled 1 1 "stub".toList conclusion none with status := status, resolved_at := resolved_at }

theorem world_begins (status : FindingStatus) (resolved_at : Option Nat) : Begins (world status resolved_at) :=
  ⟨rfl, rfl, rfl, rfl, rfl, fun _ decided => by simp [world] at decided⟩

/-- An operator suppresses the finding while the run holds what it read. -/
def suppressed_between (before after : Nat) : List Action :=
  List.replicate before .advance ++ [.lock .suppressed none, .settle true] ++ List.replicate after .advance

/-- What is left when the run has committed. -/
def outcome (w : World) : Phase × Option FindingStatus × FindingStatus := (w.phase, w.decided, w.committed.status)

/-- An open finding that the run reproduces stays suppressed. -/
theorem decision_kept_open : ∃ w', run (step (plan (some conclusion))) (world .open none) (suppressed_between 1 3) = some w' ∧
    outcome w' = (.finished, some .suppressed, .suppressed) ∧ DecisionKept w' := by
  have ran : (run (step (plan (some conclusion))) (world .open none) (suppressed_between 1 3)).map outcome =
      some (.finished, some .suppressed, .suppressed) := by decide +kernel
  obtain ⟨w', ran, left⟩ := Option.map_eq_some_iff.mp ran
  refine ⟨w', ran, left, decision_kept (world_begins _ _) ?_ ran⟩
  refine ⟨nofun, fun read advanced => ⟨nofun, fun locked held => ⟨fun _ _ _ _ _ => ?_, fun decided settled => ?_⟩⟩⟩
  · cases advanced
    cases held
    rfl
  · exact ⟨nofun, fun _ _ => ⟨nofun, fun _ _ => ⟨nofun, fun _ _ => trivial⟩⟩⟩

/-- A resolved finding that the run reproduces is reopened over the decision,
    and an open one that it does not reproduce is resolved over it. -/
theorem decision_lost :
    (∃ w', run (step (plan (some conclusion))) (world .resolved (some 1)) (suppressed_between 1 4) = some w' ∧
      w'.phase = .finished ∧ ¬DecisionKept w') ∧
    ∃ w', run (step (plan none)) (world .open none) (suppressed_between 2 2) = some w' ∧
      w'.phase = .finished ∧ ¬DecisionKept w' := by
  have lost : ∀ {w : World} {status : FindingStatus}, outcome w = (.finished, some .suppressed, status) →
      status ≠ .suppressed → w.phase = .finished ∧ ¬DecisionKept w := by
    intro w status left other
    rw [outcome, Prod.mk.injEq, Prod.mk.injEq] at left
    refine ⟨left.1, fun kept => other ?_⟩
    rw [← left.2.2, kept .suppressed left.2.1 (by simp [OPERATOR_OWNED_STATUSES])]
  have reopened : (run (step (plan (some conclusion))) (world .resolved (some 1)) (suppressed_between 1 4)).map outcome =
      some (.finished, some .suppressed, .open) := by decide +kernel
  have resolved : (run (step (plan none)) (world .open none) (suppressed_between 2 2)).map outcome =
      some (.finished, some .suppressed, .resolved) := by decide +kernel
  obtain ⟨w₁, first, left₁⟩ := Option.map_eq_some_iff.mp reopened
  obtain ⟨w₂, second, left₂⟩ := Option.map_eq_some_iff.mp resolved
  exact ⟨⟨w₁, first, lost left₁ (by simp)⟩, w₂, second, lost left₂ (by simp)⟩

end RedDock.FindingRace
