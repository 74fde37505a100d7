import RedDock.Admissions
import RedDock.RetainedRows

/-!
# Correlation runs in flight

Any number of `start_correlation` calls, each with its own session, and restarts.
A call moves by one read or commit at a time, and each of these can raise
instead. The count and the commit of a call are two steps, with no lock around
them; the orders a database holds back are among those that are run here.
-/
set_option autoImplicit false
namespace RedDock.CorrelationAdmission
open Text Retained Admissions Runs

def ACTIVE_STATUSES : List CorrelationStatus := [.pending, .running]

/-- Where a `start_correlation` call stands. -/
inductive Phase
  | called
  | authorized
  /-- No active run was counted. -/
  | counted
  /-- The row of the run is not committed. -/
  | flushed (run_id : Nat)
  | committed (run_id : Nat)
  | running (run_id : Nat)
  | failing (run_id : Nat) (error : Text)
  | finished
  deriving DecidableEq

structure Call where
  dockyard_id : Nat
  phase : Phase := .called
  deriving DecidableEq

/-- What `_perform` publishes with its run. -/
structure Published where
  graph : Graph
  evidence_path : Text
  result_sha256 : Text
  metadata_sha256 : Text
  completed_at : Nat

inductive Act
  | authorize (permitted : Bool)
  | count
  | insert
  | commit
  | start
  | publish (published : Published)
  /-- `RunRejected` or `AuthorizationDenied` with its text, or another
      exception, out of `_perform`. -/
  | reject (message : Text)
  | crash
  | fail (now : Nat)
  /-- An exception out of the call itself. -/
  | raise

structure World where
  runs : List CorrelationRun := []
  next_id : Nat := 1
  calls : List Call := []

inductive Action
  | call (dockyard_id : Nat)
  | act (number : Nat) (act : Act)
  /-- The process ends, with its calls, and starts with `recover_interrupted_runs`. -/
  | restart (now : Nat)

/-- The runs of a Dockyard in an active status. -/
def active (dockyard_id : Nat) (run : CorrelationRun) : Bool := run.dockyard_id = dockyard_id && run.status ∈ ACTIVE_STATUSES

def active_runs (w : World) (dockyard_id : Nat) : Nat := w.runs.countP (active dockyard_id)

/-- The row of a run, changed. -/
def update (runs : List CorrelationRun) (run_id : Nat) (change : CorrelationRun → CorrelationRun) : List CorrelationRun :=
  runs.map fun run => if run.id = run_id then change run else run

def published_row (published : Published) (run : CorrelationRun) : CorrelationRun :=
  { run with
    graph := some published.graph
    status := .completed
    evidence_path := some published.evidence_path
    result_sha256 := some published.result_sha256
    metadata_sha256 := some published.metadata_sha256
    completed_at := some published.completed_at }

def failed_row (error : Text) (now : Nat) (run : CorrelationRun) : CorrelationRun :=
  { run with status := .failed, error := some error, completed_at := some now }

/-- `recover_interrupted_runs` -/
def recovered_row (now : Nat) (run : CorrelationRun) : CorrelationRun :=
  if run.status ∈ ACTIVE_STATUSES then failed_row "Interrupted by a RedDock restart".toList now run else run

/-- The rows and the phase an act leaves. -/
structure Left where
  runs : List CorrelationRun
  next_id : Nat
  phase : Phase

/-- A move that touches no row. -/
def World.stay (w : World) (phase : Phase) : Left := ⟨w.runs, w.next_id, phase⟩

/-- One act of a call, absent when it stands elsewhere. -/
def move (w : World) (dockyard_id : Nat) : Phase → Act → Option Left
  | .called, .authorize permitted => some (w.stay (if permitted then .authorized else .finished))
  | .authorized, .count => some (w.stay (if active_runs w dockyard_id = 0 then .counted else .finished))
  | .counted, .insert => some { runs := w.runs, next_id := w.next_id + 1, phase := .flushed w.next_id }
  | .flushed run_id, .commit =>
    some { runs := w.runs ++ [{ id := run_id, dockyard_id, status := .pending }], next_id := w.next_id, phase := .committed run_id }
  | .committed run_id, .start =>
    some { runs := update w.runs run_id fun run => { run with status := .running }, next_id := w.next_id, phase := .running run_id }
  | .running run_id, .publish published =>
    some { runs := update w.runs run_id (published_row published), next_id := w.next_id, phase := .finished }
  | .running run_id, .reject message => some (w.stay (.failing run_id (message.take 500)))
  | .running run_id, .crash =>
    some (w.stay (.failing run_id "Correlation failed unexpectedly; see the RedDock container log".toList))
  | .failing run_id error, .fail now =>
    some { runs := update w.runs run_id (failed_row error now), next_id := w.next_id, phase := .finished }
  | .finished, .raise => none
  | _, .raise => some (w.stay .finished)
  | _, _ => none

/-- The world after a move. -/
def World.after (w : World) (number : Nat) (call : Call) (left : Left) : World where
  runs := left.runs
  next_id := left.next_id
  calls := w.calls.set number { call with phase := left.phase }

def step (w : World) : Action → Option World
  | .call dockyard_id => some { w with calls := w.calls ++ [{ dockyard_id }] }
  | .act number act => (w.calls[number]?).bind fun call => (move w call.dockyard_id call.phase act).map fun left => w.after number call left
  | .restart now => some { w with
      runs := w.runs.map (recovered_row now)
      calls := w.calls.map fun call => { call with phase := .finished } }

/-! ### What an act does -/

/-- The run a call has a row of. -/
def Phase.run_id : Phase → Option Nat
  | .flushed run_id | .committed run_id | .running run_id | .failing run_id _ => some run_id
  | _ => none

/-- A call is between its count and its commit. -/
def Phase.inserting : Phase → Bool
  | .counted | .flushed _ => true
  | _ => false

/-- A call's row is committed as it was inserted, or not committed. -/
def Phase.fresh : Phase → Bool
  | .flushed _ | .committed _ => true
  | _ => false

def inserting (dockyard_id : Nat) (call : Call) : Bool := call.dockyard_id = dockyard_id && call.phase.inserting

/-- Everything an act of a call can do. -/
inductive Moves (w : World) (dockyard_id : Nat) : Phase → Left → Prop
  | wait {phase phase' : Phase} : phase'.fresh = false → phase'.inserting = false → (phase'.run_id = none ∨ phase'.run_id = phase.run_id) →
      Moves w dockyard_id phase ⟨w.runs, w.next_id, phase'⟩
  | count : active_runs w dockyard_id = 0 → Moves w dockyard_id .authorized ⟨w.runs, w.next_id, .counted⟩
  | insert : Moves w dockyard_id .counted ⟨w.runs, w.next_id + 1, .flushed w.next_id⟩
  | commit {run_id : Nat} : Moves w dockyard_id (.flushed run_id)
      ⟨w.runs ++ [{ id := run_id, dockyard_id, status := .pending }], w.next_id, .committed run_id⟩
  | change {phase phase' : Phase} {run_id : Nat} {change : CorrelationRun → CorrelationRun} :
      phase.run_id = some run_id → phase.inserting = false → phase'.fresh = false → phase'.inserting = false →
      (phase'.run_id = none ∨ phase'.run_id = some run_id) →
      (∀ run, (change run).id = run.id ∧ (change run).dockyard_id = run.dockyard_id) →
      (phase = .committed run_id ∨ ∀ run, (change run).status ∉ ACTIVE_STATUSES) →
      Moves w dockyard_id phase ⟨update w.runs run_id change, w.next_id, phase'⟩

theorem move_moves {w : World} {dockyard_id : Nat} {phase : Phase} {act : Act} {left : Left}
    (moved : move w dockyard_id phase act = some left) : Moves w dockyard_id phase left := by
  unfold move at moved
  split at moved
  · cases moved
    split
    · exact .wait rfl rfl (Or.inl rfl)
    · exact .wait rfl rfl (Or.inl rfl)
  · cases moved
    split
    · next none => exact .count none
    · exact .wait rfl rfl (Or.inl rfl)
  · cases moved
    exact .insert
  · cases moved
    exact .commit
  · cases moved
    exact .change rfl rfl rfl rfl (Or.inr rfl) (fun _ => ⟨rfl, rfl⟩) (Or.inl rfl)
  · cases moved
    exact .change rfl rfl rfl rfl (Or.inl rfl) (fun _ => ⟨rfl, rfl⟩) (Or.inr fun run => by simp [published_row, ACTIVE_STATUSES])
  · cases moved
    exact .wait rfl rfl (Or.inr rfl)
  · cases moved
    exact .wait rfl rfl (Or.inr rfl)
  · cases moved
    exact .change rfl rfl rfl rfl (Or.inl rfl) (fun _ => ⟨rfl, rfl⟩) (Or.inr fun run => by simp [failed_row, ACTIVE_STATUSES])
  · cases moved
  · cases moved
    exact .wait rfl rfl (Or.inl rfl)
  · cases moved

/-- No other call is on its way to insert a run when one counts none. -/
def CountsAlone (w : World) : Action → Prop
  | .act number .count => ∀ call, w.calls[number]? = some call → active_runs w call.dockyard_id = 0 →
      ∀ other ∈ w.calls, inserting call.dockyard_id other = false
  | _ => True

instance (w : World) (a : Action) : Decidable (CountsAlone w a) := by
  cases a with
  | act number act =>
    cases act with
    | count =>
      exact inferInstanceAs (Decidable (∀ call ∈ w.calls[number]?, active_runs w call.dockyard_id = 0 →
        ∀ other ∈ w.calls, inserting call.dockyard_id other = false))
    | _ => exact isTrue trivial
  | _ => exact isTrue trivial

/-! ### The invariant -/

/-- A row is of one call that has not finished. -/
structure Inv (w : World) : Prop where
  within : ∀ dockyard_id, load (active dockyard_id) (inserting dockyard_id) w.runs w.calls ≤ 1
  rows : ∀ run ∈ w.runs, run.id < w.next_id
  ids : ∀ call ∈ w.calls, ∀ run_id, call.phase.run_id = some run_id → run_id < w.next_id
  sole : ∀ one other : Nat, ∀ call call' : Call, w.calls[one]? = some call → w.calls[other]? = some call' → ∀ run_id,
    call.phase.run_id = some run_id → call'.phase.run_id = some run_id → one = other
  flushed : ∀ call ∈ w.calls, ∀ run_id, call.phase = .flushed run_id → ∀ run ∈ w.runs, run.id ≠ run_id
  committed : ∀ call ∈ w.calls, ∀ run_id, call.phase = .committed run_id → ∀ run ∈ w.runs, run.id = run_id →
    run.status ∈ ACTIVE_STATUSES

theorem countP_update_le {dockyard_id run_id : Nat} {runs : List CorrelationRun} {change : CorrelationRun → CorrelationRun}
    (holds : ∀ run ∈ runs, run.id = run_id → active dockyard_id (change run) = true → active dockyard_id run = true) :
    (update runs run_id change).countP (active dockyard_id) ≤ runs.countP (active dockyard_id) := by
  rw [update, List.countP_map]
  refine List.countP_mono_left fun run member counts => ?_
  simp only [Function.comp_apply] at counts
  split at counts
  · next here => exact holds run member here counts
  · exact counts

/-- A move keeps the invariant when it keeps to the rows of its call. -/
theorem inv_after {w : World} {number : Nat} {call : Call} {left : Left} (inv : Inv w) (here : w.calls[number]? = some call)
    (within : ∀ dockyard_id, load (active dockyard_id) (inserting dockyard_id) left.runs
      (w.calls.set number { call with phase := left.phase }) ≤ 1)
    (later : w.next_id ≤ left.next_id) (rows : ∀ run ∈ left.runs, run.id < left.next_id)
    (own : ∀ run_id, left.phase.run_id = some run_id →
      run_id < left.next_id ∧ (call.phase.run_id = some run_id ∨ w.next_id ≤ run_id))
    (apart : ∀ run ∈ left.runs, call.phase.run_id = some run.id ∨ run ∈ w.runs)
    (flushed : ∀ run_id, left.phase = .flushed run_id → ∀ run ∈ left.runs, run.id ≠ run_id)
    (committed : ∀ run_id, left.phase = .committed run_id → ∀ run ∈ left.runs, run.id = run_id → run.status ∈ ACTIVE_STATUSES) :
    Inv (w.after number call left) := by
  obtain ⟨inside, -⟩ := List.getElem?_eq_some_iff.mp here
  have calls : ∀ one call', (w.after number call left).calls[one]? = some call' →
      (one = number ∧ call' = { call with phase := left.phase }) ∨ (one ≠ number ∧ w.calls[one]? = some call') := by
    intro one call' found
    simp only [World.after] at found
    by_cases same : one = number
    · subst same
      rw [List.getElem?_set_self inside, Option.some.injEq] at found
      exact Or.inl ⟨rfl, found.symm⟩
    · rw [List.getElem?_set_ne (Ne.symm same)] at found
      exact Or.inr ⟨same, found⟩
  -- a row of another call is not this call's
  have others : ∀ one call', one ≠ number → w.calls[one]? = some call' → ∀ run ∈ left.runs, call'.phase.run_id = some run.id →
      run ∈ w.runs := by
    intro one call' different found run member owned
    rcases apart run member with mine | old
    · exact absurd (inv.sole one number call' call found here run.id owned mine) different
    · exact old
  refine ⟨within, rows, fun call' member run_id owned => ?_, fun one other call' call'' first second run_id owned owned' => ?_,
    fun call' member run_id phase => ?_, fun call' member run_id phase => ?_⟩
  · obtain ⟨one, found⟩ := List.getElem?_of_mem member
    rcases calls one call' found with ⟨-, rfl⟩ | ⟨-, old⟩
    · exact (own run_id owned).1
    · exact Nat.lt_of_lt_of_le (inv.ids call' (List.mem_of_getElem? old) run_id owned) later
  · rcases calls one call' first with ⟨rfl, rfl⟩ | ⟨different, old⟩
    · rcases calls other call'' second with ⟨rfl, rfl⟩ | ⟨different, old⟩
      · rfl
      · rcases (own run_id owned).2 with mine | new
        · exact inv.sole one other call call'' here old run_id mine owned'
        · exact absurd (inv.ids call'' (List.mem_of_getElem? old) run_id owned') (Nat.not_lt.mpr new)
    · rcases calls other call'' second with ⟨rfl, rfl⟩ | ⟨different', old'⟩
      · rcases (own run_id owned').2 with mine | new
        · exact inv.sole one other call' call old here run_id owned mine
        · exact absurd (inv.ids call' (List.mem_of_getElem? old) run_id owned) (Nat.not_lt.mpr new)
      · exact inv.sole one other call' call'' old old' run_id owned owned'
  · obtain ⟨one, found⟩ := List.getElem?_of_mem member
    rcases calls one call' found with ⟨-, rfl⟩ | ⟨different, old⟩
    · exact flushed run_id phase
    · intro run inside same
      have kept := others one call' different old run inside (by rw [phase, Phase.run_id, same])
      exact inv.flushed call' (List.mem_of_getElem? old) run_id phase run kept same
  · obtain ⟨one, found⟩ := List.getElem?_of_mem member
    rcases calls one call' found with ⟨-, rfl⟩ | ⟨different, old⟩
    · exact committed run_id phase
    · intro run inside same
      have kept := others one call' different old run inside (by rw [phase, Phase.run_id, same])
      exact inv.committed call' (List.mem_of_getElem? old) run_id phase run kept same

theorem fresh_of_flushed {phase : Phase} {run_id : Nat} (stale : phase.fresh = false) : phase ≠ .flushed run_id ∧ phase ≠ .committed run_id := by
  constructor
  · rintro rfl
    cases stale
  · rintro rfl
    cases stale

theorem inv_moves {w : World} {number : Nat} {call : Call} {left : Left} (inv : Inv w) (here : w.calls[number]? = some call)
    (moves : Moves w call.dockyard_id call.phase left)
    (alone : call.phase = .authorized → left.phase = .counted → ∀ other ∈ w.calls, inserting call.dockyard_id other = false) :
    Inv (w.after number call left) := by
  have member := List.mem_of_getElem? here
  obtain ⟨dockyard_id, phase⟩ := call
  cases moves with
  | @wait phase phase' stale outside kept =>
    have leaves : ∀ d, (w.calls.set number ⟨dockyard_id, phase'⟩).countP (inserting d) ≤ w.calls.countP (inserting d) := fun d =>
      countP_set_le here fun inserts => by simp [inserting, outside] at inserts
    refine inv_after inv here (fun d => (Admissions.Moves.hold (le_refl _) (leaves d)).within (inv.within d)) (le_refl _) inv.rows
      (fun run_id owned => ?_) (fun run inside => Or.inr inside) (fun run_id flushed => absurd flushed (fresh_of_flushed stale).1)
      (fun run_id committed => absurd committed (fresh_of_flushed stale).2)
    rcases kept with none | same
    · rw [none] at owned
      cases owned
    · rw [same] at owned
      exact ⟨inv.ids _ member run_id owned, Or.inl owned⟩
  | count none =>
    have quiet := alone rfl rfl
    refine inv_after inv here (fun d => ?_) (le_refl _) inv.rows (fun run_id owned => by cases owned) (fun run inside => Or.inr inside)
      (fun run_id flushed => by cases flushed) (fun run_id committed => by cases committed)
    by_cases same : d = dockyard_id
    · subst same
      refine (Admissions.Moves.pass here ?_).within (inv.within d)
      rw [load_alone quiet]
      exact Nat.lt_of_le_of_lt (Nat.le_of_eq none) Nat.zero_lt_one
    · exact (Admissions.Moves.hold (le_refl _) (countP_set_le here fun inserts => by
        simp [inserting, Ne.symm same] at inserts)).within (inv.within d)
  | insert =>
    refine inv_after inv here (fun d => (Admissions.Moves.hold (le_refl _) (countP_set_le here fun inserts => ?_)).within (inv.within d))
      (Nat.le_succ _) (fun run inside => Nat.lt_succ_of_lt (inv.rows run inside)) (fun run_id owned => ?_) (fun run inside => Or.inr inside)
      (fun run_id flushed run inside => ?_) (fun run_id committed => by cases committed)
    · simpa [inserting, Phase.inserting] using inserts
    · cases owned
      exact ⟨Nat.lt_succ_self _, Or.inr (le_refl _)⟩
    · cases flushed
      exact Nat.ne_of_lt (inv.rows run inside)
  | @commit run_id =>
    refine inv_after inv here (fun d => ?_) (le_refl _) (fun run inside => ?_) (fun run_id owned => ?_) (fun run inside => ?_)
      (fun run_id flushed => by cases flushed) (fun run_id committed run inside same => ?_)
    · by_cases same : d = dockyard_id
      · subst same
        exact (Admissions.Moves.insert here (by simp [inserting, Phase.inserting]) (by simp [inserting, Phase.inserting])).within (inv.within d)
      · refine (Admissions.Moves.hold ?_ (countP_set_le here fun inserts => ?_)).within (inv.within d)
        · simp [active, Ne.symm same]
        · simp [inserting, Phase.inserting] at inserts
    · rcases List.mem_append.mp inside with old | new
      · exact inv.rows run old
      · rw [List.mem_singleton.mp new]
        exact inv.ids _ member run_id rfl
    · cases owned
      exact ⟨inv.ids _ member run_id rfl, Or.inl rfl⟩
    · rcases List.mem_append.mp inside with old | new
      · exact Or.inr old
      · rw [List.mem_singleton.mp new]
        exact Or.inl rfl
    · cases committed
      rcases List.mem_append.mp inside with old | new
      · exact absurd same (inv.flushed _ member run_id rfl run old)
      · rw [List.mem_singleton.mp new]
        exact List.mem_cons_self
  | @change phase phase' run_id change owns before stale after kept keeps active_before =>
    have fewer : ∀ d, (update w.runs run_id change).countP (active d) ≤ w.runs.countP (active d) := by
      intro d
      refine countP_update_le fun run inside same counts => ?_
      simp only [active, Bool.and_eq_true, decide_eq_true_eq] at counts ⊢
      refine ⟨(keeps run).2.symm.trans counts.1, ?_⟩
      rcases active_before with committed | inactive
      · exact inv.committed _ member run_id committed run inside same
      · exact absurd counts.2 (inactive run)
    have leaves : ∀ d, (w.calls.set number ⟨dockyard_id, phase'⟩).countP (inserting d) ≤ w.calls.countP (inserting d) := fun d =>
      countP_set_le here fun inserts => by simp [inserting, after] at inserts
    refine inv_after inv here (fun d => (Admissions.Moves.hold (fewer d) (leaves d)).within (inv.within d)) (le_refl _)
      (fun run inside => ?_) (fun other owned => ?_) (fun run inside => ?_)
      (fun run_id flushed => absurd flushed (fresh_of_flushed stale).1)
      (fun run_id committed => absurd committed (fresh_of_flushed stale).2)
    · obtain ⟨old, present, rfl⟩ := List.mem_map.mp inside
      split
      · rw [(keeps old).1]
        exact inv.rows old present
      · exact inv.rows old present
    · rcases kept with none | same
      · rw [none] at owned
        cases owned
      · rw [same] at owned
        cases owned
        exact ⟨inv.ids _ member run_id owns, Or.inl owns⟩
    · obtain ⟨old, present, rfl⟩ := List.mem_map.mp inside
      split
      · next same =>
        rw [(keeps old).1, same]
        exact Or.inl owns
      · exact Or.inr present

/-- A count that passes is the only move to `counted`. -/
theorem counted_of_move {w : World} {dockyard_id : Nat} {phase : Phase} {act : Act} {left : Left}
    (moved : move w dockyard_id phase act = some left) (authorized : phase = .authorized) (counted : left.phase = .counted) :
    active_runs w dockyard_id = 0 ∧ act = .count := by
  subst authorized
  cases act with
  | count =>
    cases moved
    by_cases none : active_runs w dockyard_id = 0
    · exact ⟨none, rfl⟩
    · simp [World.stay, none] at counted
  | raise =>
    cases moved
    cases counted
  | _ => cases moved

theorem inv_step {w w' : World} {a : Action} (inv : Inv w) (alone : CountsAlone w a) (stepped : step w a = some w') : Inv w' := by
  cases a with
  | call dockyard_id =>
    cases stepped
    have quiet : ∀ d, inserting d { dockyard_id : Call } = false := fun d => by simp [inserting, Phase.inserting]
    refine ⟨fun d => ?_, inv.rows, fun call member => ?_, fun one other call call' first second run_id owned owned' => ?_,
      fun call member => ?_, fun call member => ?_⟩
    · exact (Admissions.Moves.hold (le_refl _) (Nat.le_of_eq (countP_arrive (quiet d)))).within (inv.within d)
    · rcases List.mem_append.mp member with old | new
      · exact inv.ids call old
      · rw [List.mem_singleton.mp new]
        intro run_id owned
        cases owned
    · have old : ∀ (number : Nat) (call : Call), (w.calls ++ [{ dockyard_id : Call }])[number]? = some call → call.phase.run_id = some run_id →
          w.calls[number]? = some call := by
        intro number call found owned
        rcases getElem?_arrive found with old | rfl
        · exact old
        · cases owned
      exact inv.sole one other call call' (old one call first owned) (old other call' second owned') run_id owned owned'
    · rcases List.mem_append.mp member with old | new
      · exact inv.flushed call old
      · rw [List.mem_singleton.mp new]
        intro run_id phase
        cases phase
    · rcases List.mem_append.mp member with old | new
      · exact inv.committed call old
      · rw [List.mem_singleton.mp new]
        intro run_id phase
        cases phase
  | act number act =>
    obtain ⟨call, here, moved⟩ := Option.bind_eq_some_iff.mp stepped
    obtain ⟨left, left_by, rfl⟩ := Option.map_eq_some_iff.mp moved
    refine inv_moves inv here (move_moves left_by) fun authorized counted => ?_
    obtain ⟨none, rfl⟩ := counted_of_move left_by authorized counted
    exact alone call here none
  | restart now =>
    cases stepped
    have idle : ∀ call ∈ w.calls.map fun call => { call with phase := .finished }, call.phase = .finished := by
      intro call member
      obtain ⟨before, -, rfl⟩ := List.mem_map.mp member
      rfl
    have ended : ∀ run ∈ w.runs, ∀ d, active d (recovered_row now run) = false := by
      intro run _ d
      unfold recovered_row
      split
      · simp [active, failed_row, ACTIVE_STATUSES]
      · next inactive => simp [active, inactive]
    refine ⟨fun d => ?_, fun run member => ?_, fun call member run_id owned => ?_, fun one other call call' first second run_id owned => ?_,
      fun call member run_id phase => ?_, fun call member run_id phase => ?_⟩
    · rw [load_alone fun call member => by simp [inserting, idle call member, Phase.inserting], List.countP_map,
        List.countP_eq_zero.mpr fun run member => by simp [ended run member d]]
      exact Nat.zero_le 1
    · obtain ⟨before, inside, rfl⟩ := List.mem_map.mp member
      have same : (recovered_row now before).id = before.id := by
        unfold recovered_row
        split <;> rfl
      rw [same]
      exact inv.rows before inside
    · rw [idle call member] at owned
      cases owned
    · rw [idle call (List.mem_of_getElem? first)] at owned
      cases owned
    · rw [idle call member] at phase
      cases phase
    · rw [idle call member] at phase
      cases phase

theorem inv_run {w : World} {actions : List Action} (alone : Along step CountsAlone {} actions) (ran : run step {} actions = some w) :
    Inv w := by
  refine invariant_along Inv (fun _ _ _ inv => inv_step inv) alone ⟨fun _ => Nat.zero_le 1, ?_, ?_, ?_, ?_, ?_⟩ ran
  · exact fun _ member => (List.not_mem_nil member).elim
  · exact fun _ member => (List.not_mem_nil member).elim
  · exact fun _ _ _ _ found => by cases found
  · exact fun _ member => (List.not_mem_nil member).elim
  · exact fun _ member => (List.not_mem_nil member).elim

/-- As long as no call counts the runs of a Dockyard while another one on it is
    between its count and its commit, at most one of its runs is active. -/
theorem one_active_run (actions : List Action) (w : World) (alone : Along step CountsAlone {} actions)
    (ran : run step {} actions = some w) (dockyard_id : Nat) : active_runs w dockyard_id ≤ 1 :=
  Nat.le_trans counted_le_load ((inv_run alone ran).within dockyard_id)

/-- Two calls on a Dockyard, one after the other. -/
def in_turn : List Action := [.call 1, .act 0 (.authorize true), .act 0 .count, .act 0 .insert, .act 0 .commit, .act 0 .start,
  .call 1, .act 1 (.authorize true), .act 1 .count]

theorem one_active_run_in_turn : ∃ w, run step {} in_turn = some w ∧ active_runs w 1 ≤ 1 := by
  exact ⟨_, rfl, one_active_run in_turn _ (by decide) rfl 1⟩

/-- Two requests that both count before either inserts are both admitted. -/
theorem two_active_runs : ¬ ∀ actions w, run step {} actions = some w → ∀ dockyard_id, active_runs w dockyard_id ≤ 1 := by
  intro bounded
  have exceeded := bounded [.call 1, .call 1, .act 0 (.authorize true), .act 1 (.authorize true), .act 0 .count, .act 1 .count,
    .act 0 .insert, .act 0 .commit, .act 1 .insert, .act 1 .commit] _ rfl 1
  revert exceeded
  decide

end RedDock.CorrelationAdmission
