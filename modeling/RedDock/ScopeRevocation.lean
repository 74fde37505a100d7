import RedDock.Discovery

/-!
# Scope revoked while a run executes

Whatever is edited while the tool runs, the rules committed at the moment of
publishing allow what was scanned: the lock keeps every edit out between the
second evaluation and the commit.
-/
set_option autoImplicit false
namespace RedDock.ScopeRevocation
open Text Targets Canonical DockGuard Fallible Scope Verdict Soundness Nmap Discovery Runs

variable {Result Row : Type} {config : Config Result Row}

/-! ### What publishing promises -/

/-- An exclusion entry reaches into a target's address space. -/
def Reaches (u : Unicode) (entry t : Target) : Prop :=
  ∃ n m, space u t = some n ∧ space u entry = some m ∧ n.overlaps m = true

/-- The committed rules allow the target at the addresses handed to the
    adapter, which was handed every exclusion that counts. -/
def InForce (config : Config Result Row) (counts : Target → Target → Prop) (w : World Result Row) : Prop :=
  ∃ request, w.contacted = some request ∧
    (∃ recheck, evaluate config.u w.run.requested_target (scope_rules config w.entries)
      (some fun _ => .ok request.resolved_addresses) = .ok recheck ∧ recheck.decision = .allowed) ∧
    ∀ t, normalize_target config.u w.run.requested_target = .ok t →
      ∀ rule ∈ scope_rules config w.entries, rule.rule = .exclude → ∀ entry, rule.target config.u = .ok entry →
        Reaches config.u entry t → counts entry t → rule.value ∈ request.excluded_addresses

/-- An origin counts as an exclusion of networks only. -/
def CountsAsExclusion (entry t : Target) : Prop := t.is_network = true ∨ entry.kind ≠ .url

/-! ### The invariant -/

/-- The adapter was handed the addresses and exclusions of an evaluation. -/
def Handed (w : World Result Row) (evaluation : Evaluation) : Prop :=
  ∃ request, w.contacted = some request ∧ request.resolved_addresses = evaluation.resolved_addresses ∧
    request.excluded_addresses = evaluation.excluded_addresses

/-- The committed rules still allow what an evaluation allowed. -/
def StillAllowed (config : Config Result Row) (w : World Result Row) (evaluation : Evaluation) : Prop :=
  ∃ recheck, evaluate config.u w.run.requested_target (scope_rules config w.entries)
      (some fun _ => .ok evaluation.resolved_addresses) = .ok recheck ∧
    recheck.decision = .allowed ∧ ∀ v ∈ recheck.excluded_addresses, v ∈ evaluation.excluded_addresses

/-- What holds of the world while the worker stands at a phase. -/
def Progress (config : Config Result Row) (w : World Result Row) : Phase Result Row → Prop
  | .contacting evaluation => Handed w evaluation
  | .returned evaluation _ => Handed w evaluation
  | .locked evaluation _ => Handed w evaluation ∧ w.lock = some .runner
  | .rechecked evaluation _ => Handed w evaluation ∧ StillAllowed config w evaluation ∧ w.lock = some .runner
  | .persisted _ => (∃ evaluation, Handed w evaluation ∧ StillAllowed config w evaluation) ∧ w.lock = some .runner
  | _ => True

structure Inv (config : Config Result Row) (w : World Result Row) : Prop where
  unpublished : w.run.status ≠ .completed → w.rows = []
  published : w.run.status = .completed → w.worker = .finished
  progress : Progress config w w.worker

theorem inv_finished {w : World Result Row} (finished : w.worker = .finished)
    (unpublished : w.run.status ≠ .completed → w.rows = []) : Inv config w :=
  ⟨unpublished, fun _ => finished, by rw [finished]; trivial⟩

theorem Inv.nothing {w : World Result Row} (inv : Inv config w) (working : w.worker ≠ .finished) : w.rows = [] :=
  inv.unpublished fun completed => working (inv.published completed)

/-- An edit moves nothing the worker relies on: the worker has the lock as long
    as its second evaluation matters. -/
theorem inv_editor {w w' : World Result Row} (inv : Inv config w) (editing : w.lock ≠ some .runner)
    (run : w'.run = w.run) (rows : w'.rows = w.rows) (worker : w'.worker = w.worker)
    (contacted : w'.contacted = w.contacted) : Inv config w' := by
  refine ⟨by rw [run, rows]; exact inv.unpublished, by rw [run, worker]; exact inv.published, ?_⟩
  have progress := inv.progress
  rw [worker]
  cases phase : w.worker with
  | contacting evaluation => simpa [phase, Progress, Handed, contacted] using progress
  | returned evaluation result => simpa [phase, Progress, Handed, contacted] using progress
  | locked evaluation result =>
    rw [phase] at progress
    exact absurd progress.2 editing
  | rechecked evaluation result =>
    rw [phase] at progress
    exact absurd progress.2.2 editing
  | persisted rows =>
    rw [phase] at progress
    exact absurd progress.2 editing
  | _ => trivial

/-- A world whose worker is still at work, at a later phase. -/
theorem inv_working {w w' : World Result Row} (inv : Inv config w) (working : w.worker ≠ .finished)
    (rows : w'.rows = w.rows) (status : w'.run.status = w.run.status ∨ w'.run.status ≠ .completed)
    (progress : Progress config w' w'.worker) : Inv config w' := by
  refine ⟨fun _ => by rw [rows, inv.nothing working], fun completed => ?_, progress⟩
  rcases status with same | other
  · exact absurd (inv.published (same.symm.trans completed)) working
  · exact absurd completed other

theorem decide_execution_ok {w w' : World Result Row} {resolver : Resolver} {lab_policy : PolicyDecision}
    (ran : decide_execution config w resolver lab_policy = .ok w') :
    (∃ decision reason, w' = deny w decision reason) ∨
      ∃ evaluation target, w' = { w with worker := .approved evaluation target } := by
  unfold decide_execution at ran
  obtain ⟨evaluation, _, ran⟩ := bind_eq_ok.mp ran
  split at ran
  · exact Or.inl ⟨_, _, (Except.ok.inj ran).symm⟩
  obtain ⟨target, _, ran⟩ := bind_eq_ok.mp ran
  split at ran
  · exact Or.inl ⟨_, _, (Except.ok.inj ran).symm⟩
  split at ran
  · exact Or.inl ⟨_, _, (Except.ok.inj ran).symm⟩
  · exact Or.inr ⟨_, _, (Except.ok.inj ran).symm⟩

theorem recheck_scope_ok {w w' : World Result Row} {evaluation : Evaluation} {result : Result}
    (ran : recheck_scope config w evaluation result = .ok w') :
    (∃ decision reason, w' = { deny w decision reason with lock := none }) ∨
      (StillAllowed config w evaluation ∧ w' = { w with worker := .rechecked evaluation result }) := by
  unfold recheck_scope at ran
  obtain ⟨recheck, evaluated, ran⟩ := bind_eq_ok.mp ran
  split at ran
  · exact Or.inl ⟨_, _, (Except.ok.inj ran).symm⟩
  · rename_i kept
    simp only [Bool.or_eq_true, Bool.not_eq_true', not_or, Bool.not_eq_false, List.all_eq_true, decide_eq_true_eq,
      Evaluation.allowed] at kept
    exact Or.inr ⟨⟨recheck, evaluated, kept.1, kept.2⟩, (Except.ok.inj ran).symm⟩

theorem apply_edit_frame (config : Config Result Row) (edit : Edit) (existing : List ScopeEntry) (w : World Result Row) :
    (apply_edit config edit existing w).run = w.run ∧ (apply_edit config edit existing w).rows = w.rows ∧
      (apply_edit config edit existing w).worker = w.worker ∧
        (apply_edit config edit existing w).contacted = w.contacted := by
  cases edit with
  | add rule target =>
    simp only [apply_edit]
    cases add_scope_entry config w.next_id rule target existing with
    | ok entry => exact ⟨rfl, rfl, rfl, rfl⟩
    | error error => exact ⟨rfl, rfl, rfl, rfl⟩
  | remove entry_id => exact ⟨rfl, rfl, rfl, rfl⟩

/-- Every action keeps the invariant. -/
theorem inv_step (w : World Result Row) (action : Action Result) (w' : World Result Row) (inv : Inv config w)
    (stepped : step config w action = some w') : Inv config w' := by
  have denied : ∀ decision reason, w.worker ≠ .finished → Inv config (deny w decision reason) :=
    fun _ _ working => inv_finished rfl fun _ => inv.nothing working
  cases action with
  | enter edit =>
    simp only [step] at stepped
    split at stepped
    · rename_i free
      cases stepped
      exact inv_editor inv (by simp [free]) rfl rfl rfl rfl
    · simp at stepped
  | list =>
    simp only [step] at stepped
    split at stepped
    · rename_i edit editing
      cases stepped
      exact inv_editor inv (by simp [editing]) rfl rfl rfl rfl
    · simp at stepped
  | settle permitted =>
    simp only [step] at stepped
    split at stepped
    · rename_i edit existing editing
      cases stepped
      have kept : Inv config w := inv
      by_cases applied : permitted = true
      · obtain ⟨run, rows, worker, contacted⟩ := apply_edit_frame config edit existing w
        exact inv_editor inv (by simp [editing]) (by simp [applied, run]) (by simp [applied, rows])
          (by simp [applied, worker]) (by simp [applied, contacted])
      · exact inv_editor inv (by simp [editing]) (by simp [applied]) (by simp [applied]) (by simp [applied])
          (by simp [applied])
    · simp at stepped
  | claim =>
    simp only [step] at stepped
    split at stepped
    · rename_i phase
      split at stepped
      · cases stepped
        exact inv_working inv (by simp [phase]) rfl (Or.inr (by simp)) trivial
      · cases stepped
        exact inv_finished rfl inv.unpublished
    · simp at stepped
  | authorize admitted =>
    simp only [step] at stepped
    split at stepped
    · rename_i phase
      cases admitted with
      | true =>
        cases stepped
        exact inv_working inv (by simp [phase]) rfl (Or.inl rfl) trivial
      | false =>
        cases stepped
        exact denied _ _ (by simp [phase])
    · simp at stepped
  | decide resolver lab_policy =>
    simp only [step] at stepped
    split at stepped
    · rename_i phase
      cases decided : decide_execution config w resolver lab_policy with
      | error error => simp [decided, Except.toOption] at stepped
      | ok next =>
        rw [decided] at stepped
        cases stepped
        rcases decide_execution_ok decided with ⟨decision, reason, rfl⟩ | ⟨evaluation, target, rfl⟩
        · exact denied _ _ (by simp [phase])
        · exact inv_working inv (by simp [phase]) rfl (Or.inl rfl) trivial
    · simp at stepped
  | contact admitted =>
    simp only [step] at stepped
    split at stepped
    · rename_i evaluation target phase
      split at stepped
      · cases stepped
        exact inv_finished rfl inv.unpublished
      · cases admitted with
        | true =>
          cases stepped
          exact inv_working inv (by simp [phase]) rfl (Or.inl rfl) ⟨_, rfl, rfl, rfl⟩
        | false =>
          cases stepped
          exact denied _ _ (by simp [phase])
    · simp at stepped
  | answer result =>
    simp only [step] at stepped
    split at stepped
    · rename_i evaluation phase
      cases stepped
      have progress := inv.progress
      rw [phase] at progress
      exact inv_working inv (by simp [phase]) rfl (Or.inl rfl) progress
    · simp at stepped
  | acquire =>
    simp only [step] at stepped
    split at stepped
    · rename_i evaluation result phase free
      cases stepped
      have progress := inv.progress
      rw [phase] at progress
      exact inv_working inv (by simp [phase]) rfl (Or.inl rfl) ⟨progress, rfl⟩
    · simp at stepped
  | recheck =>
    simp only [step] at stepped
    split at stepped
    · rename_i evaluation result phase
      have progress := inv.progress
      rw [phase] at progress
      cases rechecked : recheck_scope config w evaluation result with
      | error error => simp [rechecked, Except.toOption] at stepped
      | ok next =>
        rw [rechecked] at stepped
        cases stepped
        rcases recheck_scope_ok rechecked with ⟨decision, reason, rfl⟩ | ⟨allowed, rfl⟩
        · exact inv_finished rfl fun _ => inv.nothing (by simp [phase])
        · exact inv_working inv (by simp [phase]) rfl (Or.inl rfl) ⟨progress.1, allowed, progress.2⟩
    · simp at stepped
  | persist =>
    simp only [step] at stepped
    split at stepped
    · rename_i evaluation result phase
      have progress := inv.progress
      rw [phase] at progress
      cases stepped
      exact inv_working inv (by simp [phase]) rfl (Or.inl rfl) ⟨⟨evaluation, progress.1, progress.2.1⟩, progress.2.2⟩
    · simp at stepped
  | publish =>
    simp only [step] at stepped
    split at stepped
    · cases stepped
      exact inv_finished rfl fun unfinished => absurd rfl unfinished
    · simp at stepped
  | fail message =>
    simp only [step] at stepped
    have working : w.worker ≠ .finished := by
      intro finished
      simp [finished] at stepped
    split at stepped
    · simp at stepped
    · simp at stepped
    · cases stepped
      exact inv_finished rfl fun _ => inv.nothing working
  | restart =>
    cases stepped
    refine inv_finished rfl fun _ => ?_
    unfold restart_process
    by_cases active : w.run.status ∈ ACTIVE_STATUSES
    · refine inv.unpublished fun completed => ?_
      simp [completed, ACTIVE_STATUSES] at active
    · rename_i other
      refine inv.unpublished ?_
      simpa [restart_process, active] using other

/-! ### The publishing commit -/

/-- The world after the results are committed. -/
def publishedWorld (w : World Result Row) (rows : List Row) : World Result Row :=
  { w with rows := rows, run := { w.run with status := .completed }, lock := none, worker := .finished }

/-- An action publishes, or it writes no row and completes nothing. -/
theorem step_publishes {w w' : World Result Row} {action : Action Result} (stepped : step config w action = some w') :
    (∃ rows, w.worker = .persisted rows ∧ w' = publishedWorld w rows) ∨
      (w'.rows = w.rows ∧ (w'.run.status = .completed → w.run.status = .completed)) := by
  cases action with
  | enter edit =>
    simp only [step] at stepped
    split at stepped <;> cases stepped
    exact Or.inr ⟨rfl, id⟩
  | list =>
    simp only [step] at stepped
    split at stepped <;> cases stepped
    exact Or.inr ⟨rfl, id⟩
  | settle permitted =>
    simp only [step] at stepped
    split at stepped
    · rename_i edit existing _
      cases stepped
      obtain ⟨run, rows, _⟩ := apply_edit_frame config edit existing w
      cases permitted with
      | true => exact Or.inr ⟨rows, by simp [run]⟩
      | false => exact Or.inr ⟨rfl, id⟩
    · simp at stepped
  | claim =>
    simp only [step] at stepped
    split at stepped
    · split at stepped <;> cases stepped
      · exact Or.inr ⟨rfl, by simp⟩
      · exact Or.inr ⟨rfl, id⟩
    · simp at stepped
  | authorize admitted =>
    simp only [step] at stepped
    split at stepped
    · cases admitted <;> cases stepped
      · exact Or.inr ⟨rfl, by simp [deny_execution, deny]⟩
      · exact Or.inr ⟨rfl, id⟩
    · simp at stepped
  | decide resolver lab_policy =>
    simp only [step] at stepped
    split at stepped
    · cases decided : decide_execution config w resolver lab_policy with
      | error error => simp [decided, Except.toOption] at stepped
      | ok next =>
        rw [decided] at stepped
        cases stepped
        rcases decide_execution_ok decided with ⟨decision, reason, rfl⟩ | ⟨evaluation, target, rfl⟩
        · exact Or.inr ⟨rfl, by simp [deny]⟩
        · exact Or.inr ⟨rfl, id⟩
    · simp at stepped
  | contact admitted =>
    simp only [step] at stepped
    split at stepped
    · split at stepped
      · cases stepped
        exact Or.inr ⟨rfl, id⟩
      · cases admitted <;> cases stepped
        · exact Or.inr ⟨rfl, by simp [deny_execution, deny]⟩
        · exact Or.inr ⟨rfl, id⟩
    · simp at stepped
  | answer result =>
    simp only [step] at stepped
    split at stepped <;> cases stepped
    exact Or.inr ⟨rfl, id⟩
  | acquire =>
    simp only [step] at stepped
    split at stepped <;> cases stepped
    exact Or.inr ⟨rfl, id⟩
  | recheck =>
    simp only [step] at stepped
    split at stepped
    · rename_i evaluation result _
      cases rechecked : recheck_scope config w evaluation result with
      | error error => simp [rechecked, Except.toOption] at stepped
      | ok next =>
        rw [rechecked] at stepped
        cases stepped
        rcases recheck_scope_ok rechecked with ⟨decision, reason, rfl⟩ | ⟨allowed, rfl⟩
        · exact Or.inr ⟨rfl, by simp [deny]⟩
        · exact Or.inr ⟨rfl, id⟩
    · simp at stepped
  | persist =>
    simp only [step] at stepped
    split at stepped <;> cases stepped
    exact Or.inr ⟨rfl, id⟩
  | publish =>
    simp only [step] at stepped
    split at stepped
    · rename_i rows phase
      cases stepped
      exact Or.inl ⟨rows, phase, rfl⟩
    · simp at stepped
  | fail message =>
    simp only [step] at stepped
    split at stepped <;> cases stepped
    exact Or.inr ⟨rfl, by simp [fail_run]⟩
  | restart =>
    cases stepped
    refine Or.inr ⟨rfl, ?_⟩
    by_cases active : w.run.status ∈ ACTIVE_STATUSES <;> simp [restart_process, active]

/-- The address space of anything but a network is one address. -/
theorem single_space {u : Unicode} {t : Target} {n : IPNetwork} (form : Form t) (alone : t.is_network = false)
    (same : space u t = some n) : ∃ a, n = .single a := by
  cases form with
  | @address a usable =>
    rw [space_of (network_address usable), Option.some.injEq] at same
    exact ⟨a, same.symm⟩
  | @network n usable => cases n <;> simp [networkTarget, network_kind, IPNetwork.version, Target.is_network] at alone
  | name name => simp [space_of network_name] at same
  | @origin scheme host written default port known is_written low high =>
    rcases network_origin (u := u) scheme default port is_written with
      ⟨a, _, _, read⟩ | ⟨_, read⟩
    · rw [space_of read, Option.some.injEq] at same
      exact ⟨a, same.symm⟩
    · simp [space_of read] at same

/-- An allowed evaluation hands on every exclusion that counts. -/
theorem counted_handed {u : Unicode} {requested : Text} {rules : List ScopeRule} {resolver : Resolver}
    {e : Evaluation} {t entry : Target} {rule : ScopeRule} (ran : evaluate u requested rules (some resolver) = .ok e)
    (allowed : e.decision = .allowed) (read : normalize_target u requested = .ok t) (member : rule ∈ rules)
    (kind : rule.rule = .exclude) (reads : rule.target u = .ok entry) (reaches : Reaches u entry t)
    (counts : CountsAsExclusion entry t) : rule.value ∈ e.excluded_addresses := by
  rcases evaluate_spec ran with ⟨invalid, _⟩ | ⟨t', read', form, decision, handed_on, _⟩
  · simp [invalid] at allowed
  rw [read, Except.ok.injEq] at read'
  subst read'
  obtain ⟨n, m, target_space, entry_space, overlap⟩ := reaches
  have rule_space : ruleSpace u rule = some m := by
    rw [ruleSpace, reads]
    exact entry_space
  cases network : t.is_network with
  | true =>
    rw [handed_on, mem_handed]
    exact ⟨⟨network, allowed⟩, rule,
      mem_reaching.mpr ⟨mem_excludes.mpr ⟨member, kind⟩, n, target_space, m, rule_space, overlap⟩, rfl⟩
  | false =>
    -- a single host inside an excluded address space is not allowed at all
    have plain : entry.kind ≠ .url := counts.resolve_left (by simp [network])
    obtain ⟨a, rfl⟩ := single_space form network target_space
    have admitted := prescribed_allowed_iff.mp (decision.symm.trans allowed)
    refine absurd ⟨rule, mem_excludes.mpr ⟨member, kind⟩, entry, reads, ?_⟩ admitted.not_excluded
    rw [Covers, if_neg plain, entry_space, target_space]
    exact (IPNetwork.single_subset_iff a m).mpr ((IPNetwork.single_overlaps_iff a m).mp overlap)

theorem publishedWorld_inForce {w : World Result Row} {rows : List Row} (inv : Inv config w)
    (phase : w.worker = .persisted rows) : InForce config CountsAsExclusion (publishedWorld w rows) := by
  have progress := inv.progress
  rw [phase] at progress
  obtain ⟨⟨evaluation, ⟨request, contacted, resolved, excluded⟩, recheck, evaluated, allowed, inside⟩, _⟩ := progress
  refine ⟨request, contacted, ⟨recheck, by rw [resolved]; exact evaluated, allowed⟩, ?_⟩
  intro t read rule member kind entry reads reaches counts
  rw [excluded]
  exact inside _ (counted_handed evaluated allowed read member kind reads reaches counts)

/-- A run as `create_run` submits it. -/
structure Submitted (w : World Result Row) : Prop where
  pending : w.run.status = .pending
  nothing : w.rows = []
  worker : w.worker = .submitted

theorem Submitted.inv {w : World Result Row} (submitted : Submitted w) : Inv config w :=
  ⟨fun _ => submitted.nothing, fun completed => by simp [submitted.pending] at completed,
    by rw [submitted.worker]; trivial⟩

/-- Rows are committed by the completing commit alone, under rules that still
    allow what was scanned. -/
theorem published_in_force {start w w' : World Result Row} {actions : List (Action Result)} {action : Action Result}
    (submitted : Submitted start) (ran : run (step config) start actions = some w)
    (stepped : step config w action = some w') :
    (w'.run.status ≠ .completed → w'.rows = []) ∧
      (w'.rows ≠ w.rows → w.run.status ≠ .completed ∧ w'.run.status = .completed) ∧
      (w.run.status ≠ .completed → w'.run.status = .completed → InForce config CountsAsExclusion w') := by
  have inv : Inv config w := invariant_run (Inv config) inv_step submitted.inv ran
  refine ⟨(inv_step w action w' inv stepped).unpublished, ?_, ?_⟩
  · intro changed
    rcases step_publishes stepped with ⟨rows, phase, rfl⟩ | ⟨same, _⟩
    · refine ⟨fun completed => ?_, rfl⟩
      have finished := inv.published completed
      rw [phase] at finished
      simp at finished
    · exact absurd same changed
  · intro before after
    rcases step_publishes stepped with ⟨rows, phase, rfl⟩ | ⟨_, completes⟩
    · exact publishedWorld_inForce inv phase
    · exact absurd (completes after) before

/-! ### A run with an edit, and an origin on a scanned address -/

def plainConfig : Config Unit Nat where
  u := .plain
  listed_before := fun a b => a.id ≤ b.id
  profile := { name := SERVICE_DISCOVERY, title := "Service discovery".toList }
  rows := fun _ _ => [0]

def submittedWorld (requested : Text) (entries : List ScopeEntry) : World Unit Nat where
  entries := entries
  next_id := entries.length + 1
  run := { requested_target := requested, status := .pending, decision := .allowed, decision_reason := [] }

theorem submittedWorld_submitted (requested : Text) (entries : List ScopeEntry) :
    Submitted (submittedWorld requested entries) := ⟨rfl, rfl, rfl⟩

def hostEntry : ScopeEntry := { id := 1, rule := .include, kind := .ipv4, value := "10.0.0.1".toList }
def originEntry : ScopeEntry := { id := 2, rule := .exclude, kind := .url, value := "http://10.0.0.1".toList }

/-- The worker up to the tool's answer, with other requests in between. -/
def throughTool (edits : List (Action Unit)) : List (Action Unit) :=
  [.claim, .authorize true, .decide (fun _ => .ok []) ⟨true, []⟩, .contact true] ++ edits ++
    [.answer (), .acquire, .recheck, .persist]

theorem published_in_force_edited : ∃ w w', run (step plainConfig) (submittedWorld "10.0.0.1".toList [hostEntry])
    (throughTool [.enter (.add .exclude "10.0.0.2".toList), .list, .settle true]) = some w ∧
      step plainConfig w .publish = some w' ∧ w'.rows = [0] ∧ InForce plainConfig CountsAsExclusion w' := by
  have reached : (run (step plainConfig) (submittedWorld "10.0.0.1".toList [hostEntry])
      (throughTool [.enter (.add .exclude "10.0.0.2".toList), .list, .settle true])).map
        (fun w => (w.run.status, (step plainConfig w .publish).map fun w' => (w'.rows, w'.run.status))) =
          some (.running, some ([0], .completed)) := by decide +kernel
  obtain ⟨w, ran, facts⟩ := Option.map_eq_some_iff.mp reached
  rw [Prod.mk.injEq] at facts
  obtain ⟨running, published⟩ := facts
  obtain ⟨w', stepped, facts⟩ := Option.map_eq_some_iff.mp published
  rw [Prod.mk.injEq] at facts
  obtain ⟨rows, completed⟩ := facts
  have all := published_in_force (submittedWorld_submitted _ _) ran stepped
  exact ⟨w, w', ran, stepped, rows, all.2.2 (by simp [running]) completed⟩

def completedRow : DiscoveryRun where
  requested_target := "10.0.0.1".toList
  status := .completed
  decision := .allowed
  decision_reason := "Target is covered by authorized scope entry 10.0.0.1".toList

/-- A run publishes although an origin on the scanned address was excluded all
    along and never handed over. -/
theorem origin_not_handed : ∃ w w', run (step plainConfig) (submittedWorld "10.0.0.1".toList [hostEntry, originEntry])
    (throughTool []) = some w ∧ step plainConfig w .publish = some w' ∧ w'.run.status = .completed ∧
      ¬InForce plainConfig (fun _ _ => True) w' := by
  have reached : (run (step plainConfig) (submittedWorld "10.0.0.1".toList [hostEntry, originEntry]) (throughTool [])).bind
      (fun w => (step plainConfig w .publish).map fun w' => (w'.run, w'.entries, w'.contacted.map (·.excluded_addresses))) =
        some (completedRow, [hostEntry, originEntry], some []) := by decide +kernel
  obtain ⟨w, ran, published⟩ := Option.bind_eq_some_iff.mp reached
  obtain ⟨w', stepped, facts⟩ := Option.map_eq_some_iff.mp published
  rw [Prod.mk.injEq, Prod.mk.injEq] at facts
  obtain ⟨row, entries, handed⟩ := facts
  refine ⟨w, w', ran, stepped, by rw [row]; rfl, ?_⟩
  rintro ⟨request, contacted, _, every⟩
  rw [contacted, Option.map_some, Option.some.injEq] at handed
  rw [row, entries] at every
  have targets : ∃ t entry, normalize_target .plain "10.0.0.1".toList = .ok t ∧
      normalize_target .plain "http://10.0.0.1".toList = .ok entry ∧ space .plain t = some (.single (.v4 0x0a000001)) ∧
        space .plain entry = some (.single (.v4 0x0a000001)) := by
    refine ⟨addressTarget (.v4 0x0a000001), originTarget "http".toList "10.0.0.1".toList "10.0.0.1".toList 80 80, ?_⟩
    decide +kernel
  obtain ⟨t, entry, read, reads, target_space, entry_space⟩ := targets
  have listed : { rule := .exclude, value := "http://10.0.0.1".toList } ∈
      scope_rules plainConfig [hostEntry, originEntry] := by decide +kernel
  have inside := every t read _ listed rfl entry reads ⟨_, _, target_space, entry_space, by decide +kernel⟩ trivial
  rw [handed] at inside
  simp at inside

end RedDock.ScopeRevocation
