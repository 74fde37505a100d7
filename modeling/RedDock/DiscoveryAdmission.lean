import RedDock.DiscoveryRequests
import RedDock.ExecutionClaims
import RedDock.Admissions

/-!
# Discovery admission

A creation holds the admission lock from its counts to its commit, and nothing
but a creation adds to what is counted: the runs in flight and the runs of a
Dockyard stay within their bounds, in every order of the calls.
-/
set_option autoImplicit false
namespace RedDock.DiscoveryAdmission
open Text Targets DockGuard DiscoveryRequests Admissions Runs
open Discovery (Config ACTIVE_STATUSES DiscoveryRun ScopeEntry)
open Executions (Moved)

variable {Result Row : Type} {config : Config Result Row} {limits : Limits}

/-! ### Stages -/

def Stage.locked : Stage → Bool
  | .called | .returned _ _ | .rejected _ | .aborted => false
  | _ => true

/-- The history had room for one more run. -/
def Stage.counting : Stage → Bool
  | .counted _ _ | .evaluated _ _ | .passed _ _ | .flushed _ _ _ _ => true
  | _ => false

/-- There was room for one more run in flight. -/
def Stage.starting : Stage → Bool
  | .passed _ evaluation => evaluation.allowed
  | .flushed _ run _ _ => is_active run
  | _ => false

def Stage.run : Stage → Option Run
  | .flushed _ run _ _ => some run
  | _ => none

def counting (dockyard_id : Nat) (call : Request) : Bool := call.dockyard_id = dockyard_id && Stage.counting call.stage

def starting (call : Request) : Bool := Stage.starting call.stage

theorem locked_of_counting {stage : Stage} (counts : Stage.counting stage = true) : Stage.locked stage = true := by
  cases stage <;> simp_all [Stage.counting, Stage.locked]

theorem locked_of_starting {stage : Stage} (starts : Stage.starting stage = true) : Stage.locked stage = true := by
  cases stage <;> simp_all [Stage.starting, Stage.locked]

theorem locked_of_run {stage : Stage} {run : Run} (flushed : Stage.run stage = some run) : Stage.locked stage = true := by
  cases stage <;> simp_all [Stage.run, Stage.locked]

/-! ### What an act of a creation does -/

/-- The run that is inserted, whatever the lab says of it. -/
theorem lab_request_run (lab : Lab.Settings) (now : Nat) (grants : List Lab.LabAuthorization) (profile : Profile) (run_id : Nat)
    (call : Request) (evaluation : Evaluation) :
    let left := lab_request lab now grants profile (created_run run_id call evaluation) evaluation
    left.1.id = run_id ∧ left.1.dockyard_id = call.dockyard_id ∧ (is_active left.1 = true → evaluation.allowed = true) := by
  have active : is_active (created_run run_id call evaluation) = true → evaluation.allowed = true := by
    intro active
    by_contra denied
    simp [is_active, created_run, denied, ACTIVE_STATUSES] at active
  unfold lab_request
  split
  · generalize request_policy lab now grants profile (created_run run_id call evaluation) evaluation = policy
    intro left
    by_cases refused : (!policy.1.allowed && evaluation.allowed) = true
    · simp only [left, refused, if_true]
      exact ⟨rfl, rfl, fun active => by simp [is_active, Executions.denied, ACTIVE_STATUSES] at active⟩
    · simp only [left, refused, Bool.false_eq_true, if_false]
      exact ⟨rfl, rfl, active⟩
  · exact ⟨rfl, rfl, active⟩

/-- Everything an act of a `create_run` call can do. -/
inductive Creates (limits : Limits) (w : World Result) (number : Nat) (call : Request) : Stage → World Result → Prop
  | acquire : w.lock = none → Creates limits w number call .called { w.at_stage number call .locked with lock := some number }
  | give_up : Creates limits w number call .called (w.at_stage number call .aborted)
  | permit : Creates limits w number call .locked (w.at_stage number call .authorized)
  | count {adapter : Adapter} {profile : Profile} : retained_runs w call.dockyard_id < limits.max_discovery_runs_per_dockyard →
      Creates limits w number call .authorized (w.at_stage number call (.counted adapter profile))
  | evaluate {adapter : Adapter} {profile : Profile} {evaluation : Evaluation} :
      Creates limits w number call (.counted adapter profile) (w.at_stage number call (.evaluated profile evaluation))
  | limit {profile : Profile} {evaluation evaluation' : Evaluation} :
      (evaluation'.allowed = true → active_runs w < limits.max_concurrent_runs) →
      Creates limits w number call (.evaluated profile evaluation) (w.at_stage number call (.passed profile evaluation'))
  | insert {profile : Profile} {evaluation evaluation' : Evaluation} {run : Run} {event : Option Lab.LabAuditEvent} :
      lab_request w.lab w.now w.grants.rows profile (created_run w.next_run_id call evaluation) evaluation = (run, event, evaluation') →
      Creates limits w number call (.passed profile evaluation)
        { w.at_stage number call (.flushed profile run event evaluation') with next_run_id := w.next_run_id + 1 }
  | commit {profile : Profile} {run : Run} {event : Option Lab.LabAuditEvent} {evaluation : Evaluation} :
      Creates limits w number call (.flushed profile run event evaluation) { w.ended number call (.returned run.id evaluation) with
        runs := w.runs ++ [run]
        audit := w.audit ++ event.toList
        decisions := w.decisions ++ (request_decision profile run evaluation).toList }
  | stop {stage stage' : Stage} : Stage.locked stage = true → ((∃ message, stage' = .rejected message) ∨ stage' = .aborted) →
      Creates limits w number call stage (w.ended number call stage')

theorem refuse_allowed {profile : Profile} {evaluation evaluation' : Evaluation} {reason : Text}
    (refused : refuse profile evaluation reason = .ok evaluation') : evaluation'.allowed = false := by
  unfold refuse at refused
  split at refused
  · cases refused
    rfl
  · cases refused

theorem find_profile_room {w : World Result} {call : Request} {found : Adapter × Profile} (ok : find_profile limits w call = .ok found) :
    retained_runs w call.dockyard_id < limits.max_discovery_runs_per_dockyard := by
  unfold find_profile at ok
  split at ok
  · cases ok
  · next room => exact Nat.not_le.mp room

theorem admit_request_room {w : World Result} {profile : Profile} {evaluation evaluation' : Evaluation}
    (ok : admit_request limits w profile evaluation = .ok evaluation') (allowed : evaluation'.allowed = true) :
    active_runs w < limits.max_concurrent_runs := by
  unfold admit_request at ok
  split at ok
  · rw [refuse_allowed ok] at allowed
    cases allowed
  · next room =>
    cases ok
    by_contra full
    exact room ⟨allowed, Nat.not_lt.mp full⟩

theorem create_creates {w w' : World Result} {number : Nat} {call : Request} {stage : Stage} {creating : Creating}
    (created : create config limits w number call stage creating = some w') : Creates limits w number call stage w' := by
  unfold create at created
  split at created
  · split at created
    · next free =>
      cases created
      exact .acquire free
    · cases created
  · cases created
    split
    · exact .permit
    · exact .stop rfl (Or.inr rfl)
  · cases created
    split
    · exact .stop rfl (Or.inl ⟨_, rfl⟩)
    · next found => exact .count (find_profile_room found)
  · cases created
    split
    · exact .stop rfl (Or.inr rfl)
    · exact .stop rfl (Or.inl ⟨_, rfl⟩)
    · exact .evaluate
  · cases created
    split
    · exact .stop rfl (Or.inl ⟨_, rfl⟩)
    · next admitted => exact .limit (admit_request_room admitted)
  · next profile evaluation =>
    cases created
    exact .insert rfl
  · cases created
    exact .commit
  · cases created
  · cases created
  · cases created
  · cases created
    exact .give_up
  · next not_returned not_rejected not_aborted not_called =>
    cases created
    refine .stop ?_ (Or.inr rfl)
    cases stage with
    | called => exact absurd rfl not_called
    | returned run_id evaluation => exact absurd rfl (not_returned run_id evaluation)
    | rejected message => exact absurd rfl (not_rejected message)
    | aborted => exact absurd rfl not_aborted
    | _ => rfl
  · cases created

/-! ### The invariant -/

structure Inv (limits : Limits) (runs : List Run) (next_run_id : Nat) (lock : Option Nat) (requests : List Request) : Prop where
  retained : ∀ dockyard_id, load (of_dockyard dockyard_id) (counting dockyard_id) runs requests ≤ limits.max_discovery_runs_per_dockyard
  active : load is_active starting runs requests ≤ limits.max_concurrent_runs
  held : ∀ (number : Nat) (call : Request), requests[number]? = some call → Stage.locked call.stage = true → lock = some number
  distinct : (runs.map Run.id).Nodup
  ids : ∀ run ∈ runs, run.id < next_run_id
  flushed : ∀ call ∈ requests, ∀ run, Stage.run call.stage = some run →
    run.id < next_run_id ∧ run.id ∉ runs.map Run.id ∧ run.dockyard_id = call.dockyard_id

section
variable {runs runs' : List Run} {next_run_id next' : Nat} {lock lock' : Option Nat} {requests : List Request}

/-- Only the holder of the lock is at a stage that needs it. -/
theorem Inv.alone (inv : Inv limits runs next_run_id lock requests) {number other : Nat} {call call' : Request}
    (here : requests[number]? = some call) (free : Stage.locked call.stage = true ∨ lock = none) (there : requests[other]? = some call')
    (different : other ≠ number) : Stage.locked call'.stage = false := by
  by_contra locked
  rw [Bool.not_eq_false] at locked
  have holder := inv.held other call' there locked
  rcases free with mine | none
  · rw [inv.held number call here mine, Option.some.injEq] at holder
    exact different holder.symm
  · rw [none] at holder
    cases holder

/-- A creation goes from one stage to another, with nobody else at work. -/
theorem inv_stage (inv : Inv limits runs next_run_id lock requests) {number : Nat} {call : Request} {stage : Stage}
    (here : requests[number]? = some call) (free : Stage.locked call.stage = true ∨ lock = none)
    (retained : ∀ dockyard_id, load (of_dockyard dockyard_id) (counting dockyard_id) runs' (requests.set number { call with stage := stage }) ≤
      limits.max_discovery_runs_per_dockyard)
    (active : load is_active starting runs' (requests.set number { call with stage := stage }) ≤ limits.max_concurrent_runs)
    (held : Stage.locked stage = true → lock' = some number) (distinct : (runs'.map Run.id).Nodup) (ids : ∀ run ∈ runs', run.id < next')
    (flushed : ∀ run, Stage.run stage = some run → run.id < next' ∧ run.id ∉ runs'.map Run.id ∧ run.dockyard_id = call.dockyard_id) :
    Inv limits runs' next' lock' (requests.set number { call with stage := stage }) := by
  obtain ⟨inside, -⟩ := List.getElem?_eq_some_iff.mp here
  have calls : ∀ other call', (requests.set number { call with stage := stage })[other]? = some call' →
      Stage.locked call'.stage = true → other = number ∧ call' = { call with stage := stage } := by
    intro other call' found locked
    by_cases same : other = number
    · subst same
      rw [List.getElem?_set_self inside, Option.some.injEq] at found
      exact ⟨rfl, found.symm⟩
    · rw [List.getElem?_set_ne (Ne.symm same)] at found
      rw [inv.alone here free found same] at locked
      cases locked
  refine ⟨retained, active, fun other call' found locked => ?_, distinct, ids, fun call' member run run_of => ?_⟩
  · obtain ⟨rfl, rfl⟩ := calls other call' found locked
    exact held locked
  · obtain ⟨other, found⟩ := List.getElem?_of_mem member
    obtain ⟨rfl, rfl⟩ := calls other call' found (locked_of_run run_of)
    exact flushed run run_of

/-- Where nobody else is at work, a call that has not passed a count is all
    there is to it. -/
theorem load_alone_at (counted : Run → Bool) (passed : Request → Bool) (inv : Inv limits runs next_run_id lock requests) {number : Nat}
    {call : Request} (here : requests[number]? = some call) (free : Stage.locked call.stage = true) (outside : passed call = false)
    (locks : ∀ call, passed call = true → Stage.locked call.stage = true) : load counted passed runs requests = runs.countP counted := by
  refine load_alone fun call' member => ?_
  obtain ⟨other, found⟩ := List.getElem?_of_mem member
  by_cases same : other = number
  · subst same
    rw [here, Option.some.injEq] at found
    rw [← found]
    exact outside
  · by_contra passes
    rw [Bool.not_eq_false] at passes
    have idle := inv.alone here (Or.inl free) found same
    rw [locks call' passes] at idle
    cases idle

end

/-- A stage that counts as its predecessor did. -/
theorem counting_set {requests : List Request} {number : Nat} {call : Request} {stage : Stage} (here : requests[number]? = some call)
    (counts : Stage.counting stage = true → Stage.counting call.stage = true) (dockyard_id : Nat) :
    (requests.set number { call with stage := stage }).countP (counting dockyard_id) ≤ requests.countP (counting dockyard_id) :=
  countP_set_le here fun after => by
    simp only [counting, Bool.and_eq_true] at after ⊢
    exact ⟨after.1, counts after.2⟩

theorem starting_set {requests : List Request} {number : Nat} {call : Request} {stage : Stage} (here : requests[number]? = some call)
    (starts : Stage.starting stage = true → Stage.starting call.stage = true) :
    (requests.set number { call with stage := stage }).countP starting ≤ requests.countP starting :=
  countP_set_le here starts

/-- A call that gives up before it has the lock. -/
theorem inv_give_up {runs : List Run} {next_run_id : Nat} {lock : Option Nat} {requests : List Request} {number : Nat} {call : Request}
    (inv : Inv limits runs next_run_id lock requests) (here : requests[number]? = some call) :
    Inv limits runs next_run_id lock (requests.set number { call with stage := .aborted }) := by
  obtain ⟨inside, -⟩ := List.getElem?_eq_some_iff.mp here
  refine ⟨fun d => (Moves.hold (le_refl _) (counting_set here (fun after => by cases after) d)).within (inv.retained d),
    (Moves.hold (le_refl _) (starting_set here fun after => by cases after)).within inv.active, fun other call' found locked => ?_, inv.distinct, inv.ids,
    fun call' member run run_of => ?_⟩
  · by_cases same : other = number
    · subst same
      rw [List.getElem?_set_self inside, Option.some.injEq] at found
      rw [← found] at locked
      cases locked
    · rw [List.getElem?_set_ne (Ne.symm same)] at found
      exact inv.held other call' found locked
  · rcases List.mem_or_eq_of_mem_set member with old | rfl
    · exact inv.flushed call' old run run_of
    · cases run_of

abbrev WorldInv (limits : Limits) (w : World Result) : Prop := Inv limits w.runs w.next_run_id w.lock w.requests

theorem inv_creates {w w' : World Result} {number : Nat} {call : Request} (inv : WorldInv limits w) (here : w.requests[number]? = some call)
    (creates : Creates limits w number call call.stage w') : WorldInv limits w' := by
  have member := List.mem_of_getElem? here
  obtain ⟨dockyard_id, requested_target, adapter_name, profile_name, stage⟩ := call
  cases creates with
  | acquire free =>
    exact inv_stage inv here (Or.inr free) (fun d => (Moves.hold (le_refl _) (counting_set here (fun after => by cases after) d)).within (inv.retained d))
      ((Moves.hold (le_refl _) (starting_set here fun after => by cases after)).within inv.active) (fun _ => rfl) inv.distinct inv.ids fun run run_of => by cases run_of
  | give_up => exact inv_give_up inv here
  | permit =>
    exact inv_stage inv here (Or.inl rfl) (fun d => (Moves.hold (le_refl _) (counting_set here (fun after => by cases after) d)).within (inv.retained d))
      ((Moves.hold (le_refl _) (starting_set here fun after => by cases after)).within inv.active) (fun _ => inv.held number _ here rfl) inv.distinct inv.ids fun run run_of => by cases run_of
  | @count adapter profile room =>
    refine inv_stage inv here (Or.inl rfl) (fun d => ?_) ((Moves.hold (le_refl _) (starting_set here fun after => by cases after)).within inv.active)
      (fun _ => inv.held number _ here rfl) inv.distinct inv.ids fun run run_of => by cases run_of
    by_cases same : dockyard_id = d
    · subst same
      refine (Moves.pass here ?_).within (inv.retained dockyard_id)
      show load (of_dockyard dockyard_id) (counting dockyard_id) w.runs w.requests < _
      rw [load_alone_at (of_dockyard dockyard_id) (counting dockyard_id) inv here rfl (by simp [counting, Stage.counting]) fun call counts =>
        locked_of_counting (Bool.and_eq_true_iff.mp counts).2]
      exact room
    · exact (Moves.hold (le_refl _) (countP_set_le here fun after => by simp [counting, same] at after)).within (inv.retained d)
  | evaluate =>
    exact inv_stage inv here (Or.inl rfl) (fun d => (Moves.hold (le_refl _) (counting_set here (fun _ => rfl) d)).within (inv.retained d))
      ((Moves.hold (le_refl _) (starting_set here fun after => by cases after)).within inv.active) (fun _ => inv.held number _ here rfl) inv.distinct inv.ids fun run run_of => by cases run_of
  | @limit profile evaluation evaluation' room =>
    refine inv_stage inv here (Or.inl rfl) (fun d => (Moves.hold (le_refl _) (counting_set here (fun _ => rfl) d)).within (inv.retained d)) ?_
      (fun _ => inv.held number _ here rfl) inv.distinct inv.ids fun run run_of => by cases run_of
    by_cases allowed : evaluation'.allowed = true
    · refine (Moves.pass here ?_).within inv.active
      show load is_active starting w.runs w.requests < _
      rw [load_alone_at is_active starting inv here rfl rfl fun call starts => locked_of_starting starts]
      exact room allowed
    · exact (Moves.hold (le_refl _) (starting_set here (by exact fun starts => absurd starts allowed))).within inv.active
  | @insert profile evaluation evaluation' run event decided =>
    obtain ⟨id, dockyard, active⟩ := lab_request_run w.lab w.now w.grants.rows profile w.next_run_id
      ⟨dockyard_id, requested_target, adapter_name, profile_name, .passed profile evaluation⟩ evaluation
    rw [decided] at id dockyard active
    refine inv_stage inv here (Or.inl rfl) (fun d => (Moves.hold (le_refl _) (counting_set here (fun _ => rfl) d)).within (inv.retained d))
      ((Moves.hold (le_refl _) (starting_set here (by exact active))).within inv.active) (fun _ => inv.held number _ here rfl) inv.distinct
      (fun run inside => Nat.lt_succ_of_lt (inv.ids run inside)) fun run flushed => ?_
    cases flushed
    refine ⟨id ▸ Nat.lt_succ_self _, fun inside => ?_, dockyard⟩
    obtain ⟨old, present, same⟩ := List.mem_map.mp inside
    exact absurd (inv.ids old present) (by rw [same, id]; exact Nat.lt_irrefl _)
  | @commit profile run event evaluation =>
    obtain ⟨id, fresh, dockyard⟩ := inv.flushed _ member run rfl
    refine inv_stage inv here (Or.inl rfl) (fun d => ?_) ?_ (fun after => by cases after) ?_ ?_ fun run run_of => by cases run_of
    · by_cases same : dockyard_id = d
      · subst same
        exact (Moves.insert here (by simp [counting, Stage.counting]) (by simp [counting, Stage.counting])).within (inv.retained dockyard_id)
      · refine (Moves.hold ?_ (countP_set_le here fun after => by simp [counting, same] at after)).within (inv.retained d)
        rw [List.countP_append, List.countP_singleton, show of_dockyard d run = false from by simp [of_dockyard, dockyard, same]]
        exact le_refl _
    · by_cases active : is_active run = true
      · exact (Moves.insert here active rfl).within inv.active
      · refine (Moves.hold ?_ (starting_set here fun after => by cases after)).within inv.active
        rw [List.countP_append, List.countP_singleton, if_neg active]
        exact le_refl _
    · rw [List.map_append, List.nodup_append]
      refine ⟨inv.distinct, List.nodup_singleton _, fun one inside other single => ?_⟩
      rintro rfl
      rw [List.mem_singleton.mp single] at inside
      exact fresh inside
    · intro other inside
      rcases List.mem_append.mp inside with old | new
      · exact inv.ids other old
      · rw [List.mem_singleton.mp new]
        exact id
  | @stop stage stage' locked ended =>
    have idle : Stage.locked stage' = false := by
      rcases ended with ⟨message, rfl⟩ | rfl <;> rfl
    have leaves : ∀ {passes : Bool}, (passes = true → Stage.locked stage' = true) → passes = true → False := by
      intro passes locks passed
      rw [locks passed] at idle
      cases idle
    exact inv_stage inv here (Or.inl locked)
      (fun d => (Moves.hold (le_refl _) (counting_set here (fun after => (leaves locked_of_counting after).elim) d)).within (inv.retained d))
      ((Moves.hold (le_refl _) (starting_set here fun after => (leaves locked_of_starting after).elim)).within inv.active)
      (fun after => (leaves id after).elim) inv.distinct inv.ids fun run run_of => (leaves (fun _ => locked_of_run run_of) rfl).elim

/-! ### Executions and restarts -/

/-- Rows whose identity and Dockyard stay, with no more of them active. -/
theorem inv_rows {runs runs' : List Run} {next_run_id : Nat} {lock : Option Nat} {requests : List Request}
    (inv : Inv limits runs next_run_id lock requests) (ids : runs'.map Run.id = runs.map Run.id)
    (retained : ∀ dockyard_id, runs'.countP (of_dockyard dockyard_id) ≤ runs.countP (of_dockyard dockyard_id))
    (active : runs'.countP is_active ≤ runs.countP is_active) : Inv limits runs' next_run_id lock requests := by
  refine ⟨fun d => (Moves.hold (retained d) (le_refl _)).within (inv.retained d), (Moves.hold active (le_refl _)).within inv.active,
    inv.held, ids ▸ inv.distinct, fun run member => ?_, fun call member run run_of => ids ▸ inv.flushed call member run run_of⟩
  obtain ⟨old, present, same⟩ := List.mem_map.mp (ids ▸ List.mem_map_of_mem member)
  rw [← same]
  exact inv.ids old present

/-- An execution makes no run active that is not. -/
theorem active_of_moves {entries : List ScopeEntry} {run : DiscoveryRun} {worker : Nat} {phase : Executions.Phase Result}
    {moved : Moved Result} (moves : ExecutionClaims.Moves config entries run worker phase moved)
    (active : moved.run.status ∈ ACTIVE_STATUSES) : run.status ∈ ACTIVE_STATUSES := by
  cases moves with
  | claim pending => simp [pending, ACTIVE_STATUSES]
  | leave _ _ _ status =>
    rcases status with same | ended
    · exact same ▸ active
    · exact absurd active ended
  | detach =>
    unfold Executions.fail_detached at active
    split at active
    · next running => exact running
    · exact active
  | _ => exact active

theorem set_row_ids {runs : List Run} {run_id : Nat} {row : DiscoveryRun} : (set_row runs run_id row).map Run.id = runs.map Run.id := by
  rw [set_row, List.map_map]
  refine List.map_congr_left fun run _ => ?_
  simp only [Function.comp_apply]
  split <;> rfl

theorem set_row_retained {runs : List Run} {run_id : Nat} {row : DiscoveryRun} (dockyard_id : Nat) :
    (set_row runs run_id row).countP (of_dockyard dockyard_id) ≤ runs.countP (of_dockyard dockyard_id) := by
  refine countP_map_le fun run counts => ?_
  split at counts <;> exact counts

theorem set_row_active {runs : List Run} {run : Run} {run_id : Nat} {row : DiscoveryRun} (distinct : (runs.map Run.id).Nodup)
    (found : runs.find? (fun run => run.id = run_id) = some run)
    (kept : row.status ∈ ACTIVE_STATUSES → run.row.status ∈ ACTIVE_STATUSES) :
    (set_row runs run_id row).countP is_active ≤ runs.countP is_active := by
  have here : run.id = run_id := by simpa using List.find?_some found
  rw [set_row, List.countP_map]
  refine List.countP_mono_left fun other member active => ?_
  simp only [Function.comp_apply] at active
  split at active
  · next same =>
    rw [List.inj_on_of_nodup_map distinct member (List.mem_of_find?_eq_some found) (same.trans here.symm)]
    simp only [is_active, decide_eq_true_eq] at active ⊢
    exact kept active
  · exact active

/-- An act of an execution changes the row of its run, as a move of
    `execute_run` does, and no request. -/
theorem work_cases {w w' : World Result} {number : Nat} {worker : Worker Result} {run : Run} {profile : Profile}
    {act : Executions.Act Result} (worked : work config w number worker run profile act = some w') :
    ∃ moved, ExecutionClaims.Moves (with_profile config profile) (w.entries run.dockyard_id) run.row number worker.phase moved ∧
      w'.runs = set_row w.runs worker.run_id moved.run ∧ w'.requests = w.requests ∧ w'.lock = w.lock ∧
      w'.next_run_id = w.next_run_id := by
  unfold work at worked
  split at worked
  · obtain ⟨moved, ran, rfl⟩ := Option.map_eq_some_iff.mp worked
    exact ⟨moved, ExecutionClaims.move_moves ran, rfl, rfl, rfl, rfl⟩
  · obtain ⟨moved, ran, rfl⟩ := Option.map_eq_some_iff.mp worked
    refine ⟨moved, ExecutionClaims.move_moves ran, ?_⟩
    split <;> exact ⟨rfl, rfl, rfl, rfl⟩

theorem recovered_inactive {run : Run} : is_active (recovered run) = false := by
  unfold recovered
  split
  · simp [is_active, ACTIVE_STATUSES]
  · next inactive => simpa using inactive

theorem cut_idle {stage : Stage} : Stage.locked stage.cut = false := by
  cases stage <;> rfl

/-- Where no creation is at work, the lock is free. -/
theorem inv_idle {runs : List Run} {next_run_id : Nat} {lock : Option Nat} {requests requests' : List Request}
    (inv : Inv limits runs next_run_id lock requests) (idle : ∀ call ∈ requests', Stage.locked call.stage = false) :
    Inv limits runs next_run_id none requests' := by
  have outside : ∀ passed : Request → Bool, (∀ call, passed call = true → Stage.locked call.stage = true) →
      ∀ call ∈ requests', passed call = false := by
    intro passed locks call member
    by_contra passes
    rw [Bool.not_eq_false] at passes
    have locked := locks call passes
    rw [idle call member] at locked
    cases locked
  refine ⟨fun d => ?_, ?_, fun number call found locked => ?_, inv.distinct, inv.ids, fun call member run run_of => ?_⟩
  · rw [load_alone (outside (counting d) fun call counts => locked_of_counting (Bool.and_eq_true_iff.mp counts).2)]
    exact Nat.le_trans counted_le_load (inv.retained d)
  · rw [load_alone (outside starting fun call starts => locked_of_starting starts)]
    exact Nat.le_trans counted_le_load inv.active
  · rw [idle call (List.mem_of_getElem? found)] at locked
    cases locked
  · have locked := locked_of_run run_of
    rw [idle call member] at locked
    cases locked

theorem inv_step {w w' : World Result} {a : Action Result} (inv : WorldInv limits w) (stepped : step config limits w a = some w') :
    WorldInv limits w' := by
  cases a with
  | tick =>
    cases stepped
    exact inv
  | switch enabled =>
    cases stepped
    exact inv
  | edit dockyard_id entries =>
    cases stepped
    exact inv
  | create_authorization dockyard_id capability_id acknowledgement note duration_minutes =>
    simp only [step] at stepped
    split at stepped <;> cases stepped <;> exact inv
  | revoke_authorization dockyard_id authorization_id =>
    simp only [step] at stepped
    split at stepped <;> cases stepped <;> exact inv
  | request dockyard_id requested_target adapter_name profile_name =>
    cases stepped
    have called : Stage.locked (Request.stage { dockyard_id, requested_target, adapter_name, profile_name }) = false := rfl
    refine ⟨fun d => (Moves.hold (le_refl _) (Nat.le_of_eq (countP_arrive ?_))).within (inv.retained d),
      (Moves.hold (le_refl _) (Nat.le_of_eq (countP_arrive rfl))).within inv.active, fun other call found locked => ?_, inv.distinct,
      inv.ids, fun call member run run_of => ?_⟩
    · simp [counting, Stage.counting]
    · rcases getElem?_arrive found with old | rfl
      · exact inv.held other call old locked
      · rw [called] at locked
        cases locked
    · rcases List.mem_append.mp member with old | new
      · exact inv.flushed call old run run_of
      · rw [List.mem_singleton.mp new] at run_of
        cases run_of
  | create number creating =>
    obtain ⟨call, here, created⟩ := Option.bind_eq_some_iff.mp stepped
    exact inv_creates inv here (create_creates created)
  | execute run_id =>
    cases stepped
    exact inv
  | work number act =>
    obtain ⟨worker, -, rest⟩ := Option.bind_eq_some_iff.mp stepped
    obtain ⟨run, found, worked⟩ := Option.bind_eq_some_iff.mp rest
    split at worked
    · split at worked
      · cases worked
        exact inv
      · cases worked
    · obtain ⟨moved, moves, runs, requests, lock, next⟩ := work_cases worked
      rw [WorldInv, runs, requests, lock, next]
      exact inv_rows inv set_row_ids set_row_retained (set_row_active inv.distinct found (active_of_moves moves))
  | restart =>
    cases stepped
    have idle : ∀ call ∈ w.requests.map fun call => { call with stage := call.stage.cut }, Stage.locked call.stage = false := by
      intro call member
      obtain ⟨before, -, rfl⟩ := List.mem_map.mp member
      exact cut_idle
    have ids : (w.runs.map recovered).map Run.id = w.runs.map Run.id := by
      rw [List.map_map]
      refine List.map_congr_left fun run _ => ?_
      simp only [Function.comp_apply, recovered]
      split <;> rfl
    have rows : Inv limits (w.runs.map recovered) w.next_run_id w.lock w.requests := by
      refine inv_rows inv ids (fun d => countP_map_le fun run counts => ?_) (countP_map_le fun run counts => ?_)
      · simp only [of_dockyard, recovered] at counts ⊢
        split at counts <;> exact counts
      · rw [recovered_inactive] at counts
        cases counts
    exact inv_idle rows idle

/-! ### Runs -/

theorem inv_run {w : World Result} {actions : List (Action Result)} (ran : run (step config limits) {} actions = some w) :
    WorldInv limits w := by
  refine invariant_run (WorldInv limits) (fun _ _ _ inv stepped => inv_step inv stepped) ?_ ran
  exact ⟨fun _ => Nat.zero_le _, Nat.zero_le _, (fun _ _ found => by cases found), List.nodup_nil,
    fun _ member => (List.not_mem_nil member).elim, fun _ member => (List.not_mem_nil member).elim⟩

/-- A creation that has returned its run stays so. -/
theorem returned_step {w w' : World Result} {a : Action Result} {number run_id : Nat} {call : Request} {evaluation : Evaluation}
    (here : w.requests[number]? = some call) (returned : call.stage = .returned run_id evaluation)
    (stepped : step config limits w a = some w') : w'.requests[number]? = some call := by
  cases a with
  | create_authorization dockyard_id capability_id acknowledgement note duration_minutes =>
    simp only [step] at stepped
    split at stepped <;> cases stepped <;> exact here
  | revoke_authorization dockyard_id authorization_id =>
    simp only [step] at stepped
    split at stepped <;> cases stepped <;> exact here
  | request dockyard_id requested_target adapter_name profile_name =>
    cases stepped
    obtain ⟨inside, -⟩ := List.getElem?_eq_some_iff.mp here
    exact (List.getElem?_append_left inside).trans here
  | create other creating =>
    obtain ⟨call', there, created⟩ := Option.bind_eq_some_iff.mp stepped
    have different : other ≠ number := by
      rintro rfl
      rw [here, Option.some.injEq] at there
      subst there
      rw [returned] at created
      cases creating <;> cases created
    have elsewhere : ∀ stage, (w.at_stage other call' stage).requests[number]? = some call := fun stage =>
      (List.getElem?_set_ne different).trans here
    have creates := create_creates created
    generalize call'.stage = stage at creates
    cases creates <;> exact elsewhere _
  | work other act =>
    obtain ⟨worker, -, rest⟩ := Option.bind_eq_some_iff.mp stepped
    obtain ⟨run, found, worked⟩ := Option.bind_eq_some_iff.mp rest
    split at worked
    · split at worked
      · cases worked
        exact here
      · cases worked
    · obtain ⟨moved, -, -, requests, -, -⟩ := work_cases worked
      rw [requests]
      exact here
  | restart =>
    cases stepped
    show (w.requests.map fun call => { call with stage := call.stage.cut })[number]? = some call
    rw [List.getElem?_map, here, Option.map_some, returned]
    simp only [Stage.cut, ← returned]
  | _ =>
    cases stepped
    exact here

/-- A creation that adds a run returns it. -/
theorem creates_runs {w w' : World Result} {number : Nat} {call : Request} {stage : Stage} (here : w.requests[number]? = some call)
    (creates : Creates limits w number call stage w') :
    w'.runs = w.runs ∨ ∃ call' run_id evaluation, w'.requests[number]? = some call' ∧ call'.stage = .returned run_id evaluation := by
  obtain ⟨inside, -⟩ := List.getElem?_eq_some_iff.mp here
  cases creates with
  | @commit profile run event evaluation =>
    exact Or.inr ⟨_, run.id, evaluation, List.getElem?_set_self inside, rfl⟩
  | _ => exact Or.inl rfl

/-- In every order of creations, executions and restarts the runs in flight and
    the runs of a Dockyard stay within their bounds, and a creation that ends
    rejected has changed no run. -/
theorem discovery_bounds_kept (config : Config Result Row) (limits : Limits) (w : World Result) (actions : List (Action Result))
    (ran : run (step config limits) {} actions = some w) :
    active_runs w ≤ limits.max_concurrent_runs ∧
    (∀ dockyard_id, retained_runs w dockyard_id ≤ limits.max_discovery_runs_per_dockyard) ∧
    ∀ number call message, w.requests[number]? = some call → call.stage = .rejected message →
      ∀ before creating after w₁ w₂, actions = before ++ .create number creating :: after →
        run (step config limits) {} before = some w₁ → step config limits w₁ (.create number creating) = some w₂ → w₂.runs = w₁.runs := by
  have inv := inv_run ran
  refine ⟨Nat.le_trans counted_le_load inv.active, fun d => Nat.le_trans counted_le_load (inv.retained d), ?_⟩
  intro number call message here rejected before creating after w₁ w₂ split reached stepped
  obtain ⟨call₁, there, created⟩ := Option.bind_eq_some_iff.mp stepped
  rcases creates_runs there (create_creates created) with same | ⟨call₂, run_id, evaluation, found, returned⟩
  · exact same
  · have rest : run (step config limits) w₂ after = some w := by
      rw [split] at ran
      obtain ⟨w₁', reached', ran⟩ := run_append.mp ran
      rw [reached, Option.some.injEq] at reached'
      subst reached'
      obtain ⟨w₂', stepped', ran⟩ := run_cons.mp ran
      rw [stepped, Option.some.injEq] at stepped'
      exact stepped' ▸ ran
    have last : w.requests[number]? = some call₂ :=
      invariant_run (fun w => w.requests[number]? = some call₂) (fun _ _ _ held stepped => returned_step held returned stepped) found rest
    rw [here, Option.some.injEq] at last
    rw [last, returned] at rejected
    cases rejected

/-! ### A third request -/

open ScopeRevocation in
/-- A request for the host, by a call of its own. -/
def created (number : Nat) : List (Action Unit) :=
  .request 1 "10.0.0.1".toList "nmap".toList Nmap.HOST_DISCOVERY :: ([.acquire, .authorize true, .count, .evaluate fun _ => .ok [], .limit,
    .insert, .commit].map fun creating => .create number creating)

open ScopeRevocation in
/-- Two requests that are admitted, and one that finds two runs in flight. -/
def three_requests : List (Action Unit) :=
  .edit 1 [hostEntry] :: (created 0 ++ created 1 ++ (created 2).take 6)

open ScopeRevocation in
theorem discovery_bounds_kept_three : ∃ w, run (step plainConfig {}) {} three_requests = some w ∧ active_runs w = 2 ∧ retained_runs w 1 ≤ 500 ∧
    w.requests.length = 3 := by
  have reached : (run (step plainConfig {}) {} three_requests).map (fun w => (active_runs w, w.requests.length)) = some (2, 3) := by decide +kernel
  obtain ⟨w, ran, facts⟩ := Option.map_eq_some_iff.mp reached
  rw [Prod.mk.injEq] at facts
  exact ⟨w, ran, facts.1, (discovery_bounds_kept plainConfig {} w three_requests ran).2.1 1, facts.2⟩

end RedDock.DiscoveryAdmission
