import RedDock.ScopeAudit
import RedDock.Soundness

/-!
# What an allowed target rests on

A target that DockGuard allows in a workspace is covered by an entry of its
scope, and the record names the member who added that entry.
-/
set_option autoImplicit false
namespace RedDock.RecordedScope
open Text Targets DockGuard Scope Team Transactions
open AuditPages (AuditEvent)
open ScopeAudit (SCOPE_ADD ScopeEntry Dockyard State Action Owns scope step)
open ExecutionAuthority (security_event)
open TeamInvariants (opened)

variable {Result Row : Type} {config : Discovery.Config Result Row} {policy : WorkflowExecutionPolicy}

/-- The event names a member, under a role that may change scopes. -/
def Attributed (event : AuditEvent) : Prop :=
  ∃ membership_id role, event.actor_membership_id = some membership_id ∧ event.actor_role = some role ∧ permitted role .scope_manage = true

/-- The rules of a workspace. -/
def rules_of (config : Discovery.Config Result Row) (entries : List ScopeEntry) (dockyard_id : Nat) : List ScopeRule :=
  Discovery.scope_rules config ((scope entries dockyard_id).map ScopeEntry.toScopeEntry)

def as_rule (entry : ScopeEntry) : ScopeRule := { rule := entry.rule, value := entry.value }

theorem mem_rules {entries : List ScopeEntry} {dockyard_id : Nat} {rule : ScopeRule} (listed : rule ∈ rules_of config entries dockyard_id) :
    ∃ entry ∈ entries, entry.dockyard_id = dockyard_id ∧ as_rule entry = rule := by
  obtain ⟨stored, inside, rfl⟩ := List.mem_map.mp listed
  rw [Discovery.list_scope_entries, List.mem_insertionSort] at inside
  obtain ⟨entry, here, rfl⟩ := List.mem_map.mp inside
  obtain ⟨there, named⟩ := List.mem_filter.mp here
  exact ⟨entry, there, of_decide_eq_true named, rfl⟩

/-- An allowed target is covered by an entry of the scope. -/
theorem allowed_covered {entries : List ScopeEntry} {dockyard_id : Nat} {requested : Text} {resolver : Option Resolver} {evaluation : Evaluation}
    (ran : evaluate config.u requested (rules_of config entries dockyard_id) resolver = .ok evaluation) (allowed : evaluation.decision = .allowed) :
    ∃ target, normalize_target config.u requested = .ok target ∧ ∃ entry ∈ entries, entry.dockyard_id = dockyard_id ∧ entry.rule = .include ∧
      ∃ covering, (as_rule entry).target config.u = .ok covering ∧ Covers config.u covering target := by
  rcases Verdict.evaluate_spec ran with ⟨invalid, _⟩ | ⟨target, read, _, decision, _, _⟩
  · rw [allowed] at invalid
    cases invalid
  · obtain ⟨rule, included, covering, reads, covers⟩ := (Soundness.prescribed_allowed_iff.mp (decision.symm.trans allowed)).included
    obtain ⟨listed, includes⟩ := List.mem_filter.mp included
    obtain ⟨entry, there, named, rfl⟩ := mem_rules listed
    exact ⟨target, read, entry, there, named, of_decide_eq_true includes, covering, reads, covers⟩

/-- Every addition in the log names its member. -/
def Named (s : State) : Prop := ∀ event ∈ s.log, event.action = SCOPE_ADD → Attributed event

theorem named_step {s next : State} {action : Action} (named : Named s) (stepped : step config policy s action = some next) : Named next := by
  have grown : ∀ {event : AuditEvent}, (event.action = SCOPE_ADD → Attributed event) → ∀ other ∈ s.log ++ [event], other.action = SCOPE_ADD →
      Attributed other := fun attributed other listed adds => by
    rcases List.mem_append.mp listed with before | last
    · exact named other before adds
    · rw [List.mem_singleton.mp last] at adds ⊢
      exact attributed adds
  cases action with
  | others tables events =>
    simp only [step] at stepped
    split at stepped
    · rename_i quiet
      cases stepped
      intro event listed adds
      rcases List.mem_append.mp listed with before | new
      · exact named event before adds
      · exact absurd adds (quiet event new).1
    · cases stepped
  | create_dockyard store organization_id authorization name description id event_id =>
    simp only [step] at stepped
    split at stepped
    · rcases ran : ScopeAudit.create_dockyard store policy organization_id authorization name description id event_id (opened s.tables) with
        ⟨raised | made, t⟩
      · rw [ran] at stepped
        cases stepped
      · rw [ran] at stepped
        cases stepped
        exact grown fun adds => absurd ((ScopeAudit.create_dockyard_ok ran).2.symm.trans adds) (by decide)
    · cases stepped
  | add_scope_entry store dockyard_id authorization rule target note id event_id =>
    simp only [step] at stepped
    split at stepped
    · rcases ran : ScopeAudit.add_scope_entry config store policy s dockyard_id authorization rule target note id event_id (opened s.tables) with
        ⟨raised | made, t⟩
      · rw [ran] at stepped
        cases stepped
      · rw [ran] at stepped
        cases stepped
        obtain ⟨actor, holds, _, _, _, _, _, event⟩ := ScopeAudit.add_scope_entry_ok ran
        exact grown fun _ => event ▸ ⟨actor.membership_id, actor.role, rfl, rfl, holds.permitted⟩
    · cases stepped
  | remove_scope_entry store dockyard_id entry_id authorization event_id =>
    simp only [step] at stepped
    rcases ran : ScopeAudit.remove_scope_entry store policy s dockyard_id entry_id authorization event_id (opened s.tables) with ⟨raised | found, t⟩
    · rw [ran] at stepped
      cases stepped
    · rw [ran] at stepped
      cases found with
      | none => cases stepped
      | some event =>
        cases stepped
        obtain ⟨actor, _, _, _, recorded⟩ := ScopeAudit.remove_scope_entry_ok ran
        exact grown fun adds => absurd adds (by rw [recorded]; exact (by decide : ScopeAudit.SCOPE_REMOVE ≠ SCOPE_ADD))

/-- An event that says that an entry is there is an addition. -/
theorem reads_true {event : AuditEvent} {organization_id : Nat} {id : Text} (said : ScopeAudit.reads event = some ((organization_id, id), true)) :
    event.action = SCOPE_ADD ∧ event.target_id = some id ∧ event.organization_id = organization_id := by
  unfold ScopeAudit.reads at said
  split at said
  · rename_i adds
    obtain ⟨target, is, key⟩ := Option.map_eq_some_iff.mp said
    cases key
    exact ⟨adds, is, rfl⟩
  · split at said
    · obtain ⟨_, _, key⟩ := Option.map_eq_some_iff.mp said
      cases key
    · cases said

/-- At every moment, a target that is allowed in a workspace is covered by an
    entry of its scope, and the log holds the addition of that entry, after
    which nothing is recorded of it, in the organization of the workspace and
    by a member under a role that may change scopes. -/
theorem allowed_on_record {tables : Database} {dockyards : List Dockyard} (keys : (dockyards.map (·.id)).Nodup) :
    Runs.Always (step config policy) { tables := tables, dockyards := dockyards } fun s =>
      ∀ requested resolver evaluation dockyard_id,
        evaluate config.u requested (rules_of config s.entries dockyard_id) resolver = .ok evaluation → evaluation.decision = .allowed →
        ∃ target, normalize_target config.u requested = .ok target ∧
          ∃ entry ∈ s.entries, entry.dockyard_id = dockyard_id ∧ entry.rule = .include ∧
            (∃ covering, (as_rule entry).target config.u = .ok covering ∧ Covers config.u covering target) ∧
            ∃ before event after, s.log = before ++ event :: after ∧ event.action = SCOPE_ADD ∧ event.target_id = some (dec entry.id) ∧
              Owns s.dockyards event.organization_id dockyard_id ∧ Attributed event ∧
              ∀ later ∈ after, ∀ present, ScopeAudit.reads later ≠ some ((event.organization_id, dec entry.id), present) := by
  refine Runs.always_of_invariant (fun s => ScopeAudit.Inv config.max_scope_entries s ∧ Named s)
    (fun _ _ _ inv stepped => ⟨(ScopeAudit.inv_step inv.1 stepped).1, named_step inv.2 stepped⟩) ⟨ScopeAudit.inv_start keys, ?_⟩ ?_
  · exact fun event listed => absurd listed List.not_mem_nil
  · intro s inv requested resolver evaluation dockyard_id ran allowed
    obtain ⟨target, read, entry, listed, here, includes, covers⟩ := allowed_covered ran allowed
    obtain ⟨dockyard, there, named⟩ := List.mem_map.mp (inv.1.owned entry listed)
    have owns : Owns s.dockyards dockyard.organization_id entry.dockyard_id := ⟨dockyard, there, named, rfl⟩
    have stands := (inv.1.accounts dockyard.organization_id entry.id).mpr ⟨entry, listed, rfl, owns⟩
    obtain ⟨before, event, after, whole, said, silent⟩ := Ledgers.ledger_last stands
    obtain ⟨adds, target_id, organization⟩ := reads_true said
    refine ⟨target, read, entry, listed, here, includes, covers, before, event, after, whole, adds, target_id, ?_, ?_, ?_⟩
    · exact organization ▸ here ▸ owns
    · exact inv.2 event (whole ▸ List.mem_append_right _ List.mem_cons_self) adds
    · exact organization ▸ silent

/-! ### An address -/

open ScopeAudit (plainConfig first_dockyard edits)
open TeamInvariants (localTables)

theorem address_on_record : ∃ s evaluation,
    Runs.run (step plainConfig LOCAL_WORKFLOW_POLICY) { tables := localTables, dockyards := [first_dockyard] } (edits.take 2) = some s ∧
      evaluate .plain "192.0.2.7".toList (rules_of plainConfig s.entries 2) none = .ok evaluation ∧ evaluation.decision = .allowed ∧
        ∃ entry ∈ s.entries, entry.dockyard_id = 2 ∧ ∃ event ∈ s.log, event.action = SCOPE_ADD ∧ event.target_id = some (dec entry.id) := by
  have ended : ((Runs.run (step plainConfig LOCAL_WORKFLOW_POLICY) { tables := localTables, dockyards := [first_dockyard] } (edits.take 2)).bind
      fun s => (evaluate .plain "192.0.2.7".toList (rules_of plainConfig s.entries 2) none).toOption).map (·.decision) = some .allowed := by
    decide +kernel
  obtain ⟨evaluation, evaluated, allowed⟩ := Option.map_eq_some_iff.mp ended
  obtain ⟨s, ran, found⟩ := Option.bind_eq_some_iff.mp evaluated
  have read : evaluate .plain "192.0.2.7".toList (rules_of plainConfig s.entries 2) none = .ok evaluation := by
    cases whole : evaluate .plain "192.0.2.7".toList (rules_of plainConfig s.entries 2) none with
    | error error =>
      rw [whole] at found
      cases found
    | ok other =>
      rw [whole] at found
      cases found
      rfl
  obtain ⟨_, _, entry, listed, here, _, _, before, event, after, whole, adds, target_id, _⟩ :=
    allowed_on_record (by decide) (edits.take 2) s ran "192.0.2.7".toList none evaluation 2 read allowed
  exact ⟨s, evaluation, ran, read, allowed, entry, listed, here, event, whole ▸ List.mem_append_right _ List.mem_cons_self, adds, target_id⟩

end RedDock.RecordedScope
