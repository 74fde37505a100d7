import RedDock.ExecutionAuthority

/-!
# Scopes and their record

Members create workspaces and change their scopes, each change in one
transaction with its security event. The events are a ledger of the entries:
over every run they say which entries each organization has.
-/
set_option autoImplicit false
namespace RedDock.ScopeAudit
open Text Transactions Team
open AuditPages (AuditEvent)
open ExecutionAuthority (SUCCESS security_event append_security_event workspace_actor)
open Ledgers (ledger ledger_silent ledger_entry)
open TeamAudit (Holds)
open TeamInvariants (opened)

/-! ### The tables -/

structure Dockyard extends ExecutionAuthority.Dockyard where
  name : Text
  description : Option Text
  deriving DecidableEq

/-- A row of `scope_entries`. -/
structure ScopeEntry extends Discovery.ScopeEntry where
  dockyard_id : Nat
  note : Option Text
  deriving DecidableEq

structure State where
  tables : Database
  dockyards : List Dockyard
  entries : List ScopeEntry := []
  log : List AuditEvent := []

def DOCKYARD_CREATE : Text := "dockyard.create".toList
def SCOPE_ADD : Text := "scope.add".toList
def SCOPE_REMOVE : Text := "scope.remove".toList
def SCOPE_ENTRY : Text := "scope_entry".toList

/-- The scope of a workspace. -/
def scope (entries : List ScopeEntry) (dockyard_id : Nat) : List ScopeEntry := entries.filter fun entry => entry.dockyard_id = dockyard_id

/-- A row that a commit leaves, and its event. -/
structure Made (Row : Type) where
  row : Row
  event : AuditEvent

/-! ### The functions -/

section
variable {Result Row : Type} (config : Discovery.Config Result Row) (store : Store) (policy : WorkflowExecutionPolicy) (s : State)

/-- `require_workflow_actor` -/
def require_workflow_actor (dockyard_id : Nat) (authorization : AuthorizationContext) (permission : Permission) : Tx AuthorizationContext := do
  let actor ← workspace_actor store policy (s.dockyards.map Dockyard.toDockyard) dockyard_id authorization permission
  actor.elim (raise .denied) pure

def create_dockyard (organization_id : Nat) (authorization : AuthorizationContext) (name : Text) (description : Option Text)
    (id event_id : Nat) : Tx (Made Dockyard) := do
  let actor ← (if authorization.organization_id = organization_id then
      current_workflow_actor store policy organization_id (some authorization.user_id) (some authorization.membership_id) .dockyard_manage
    else pure none : Tx (Option AuthorizationContext))
  actor.elim (raise .denied) fun actor => do
    let event ← append_security_event store actor.organization_id (some actor) DOCKYARD_CREATE SUCCESS "dockyard".toList id
      "dockyard_created".toList event_id
    commit store.fails
    return { row := { id := id, organization_id := organization_id, name := strip name, description := description }, event := event }

/-- `_add_scope_entry`; what refuses an entry is a `ValueError`. -/
def add_scope_entry (dockyard_id : Nat) (authorization : AuthorizationContext) (rule : ScopeRuleType) (target : Text) (note : Option Text)
    (id event_id : Nat) : Tx (Made ScopeEntry) := do
  let actor ← require_workflow_actor store policy s dockyard_id authorization .scope_manage
  let existing ← read store.fails fun _ => (scope s.entries dockyard_id).map ScopeEntry.toScopeEntry
  let entry ← (Discovery.add_scope_entry config id rule target existing).toOption.elim (raise .valueError) pure
  let event ← append_security_event store actor.organization_id (some actor) SCOPE_ADD SUCCESS SCOPE_ENTRY entry.id "scope_added".toList event_id
  commit store.fails
  return { row := { entry with dockyard_id := dockyard_id, note := note }, event := event }

/-- `_remove_scope_entry`: the event of an entry that was there. -/
def remove_scope_entry (dockyard_id entry_id : Nat) (authorization : AuthorizationContext) (event_id : Nat) : Tx (Option AuditEvent) := do
  let actor ← require_workflow_actor store policy s dockyard_id authorization .scope_manage
  let entry ← read store.fails fun _ => s.entries.find? fun entry => entry.dockyard_id = dockyard_id ∧ entry.id = entry_id
  entry.elim (return none) fun _ => do
    let event ← append_security_event store actor.organization_id (some actor) SCOPE_REMOVE SUCCESS SCOPE_ENTRY entry_id
      "scope_removed".toList event_id
    commit store.fails
    return some event

end

/-! ### The system -/

/-- What happens; new rows have keys of their own. -/
inductive Action
  | others (tables : Database) (events : List AuditEvent)
  | create_dockyard (store : Store) (organization_id : Nat) (authorization : AuthorizationContext) (name : Text) (description : Option Text)
      (id event_id : Nat)
  | add_scope_entry (store : Store) (dockyard_id : Nat) (authorization : AuthorizationContext) (rule : ScopeRuleType) (target : Text)
      (note : Option Text) (id event_id : Nat)
  | remove_scope_entry (store : Store) (dockyard_id entry_id : Nat) (authorization : AuthorizationContext) (event_id : Nat)

section
variable {Result Row : Type} (config : Discovery.Config Result Row) (policy : WorkflowExecutionPolicy)

def State.created (s : State) (made : Made Dockyard) : State := { s with dockyards := s.dockyards ++ [made.row], log := s.log ++ [made.event] }
def State.added (s : State) (made : Made ScopeEntry) : State := { s with entries := s.entries ++ [made.row], log := s.log ++ [made.event] }
def State.removed (s : State) (entry_id : Nat) (event : AuditEvent) : State :=
  { s with entries := s.entries.filter fun entry => entry.id ≠ entry_id, log := s.log ++ [event] }

def step (s : State) : Action → Option State
  | .others tables events =>
    if ∀ event ∈ events, event.action ≠ SCOPE_ADD ∧ event.action ≠ SCOPE_REMOVE then
      some { s with tables := tables, log := s.log ++ events }
    else none
  | .create_dockyard store organization_id authorization name description id event_id =>
    if id ∉ s.dockyards.map (·.id) then
      (create_dockyard store policy organization_id authorization name description id event_id (opened s.tables)).1.toOption.map s.created
    else none
  | .add_scope_entry store dockyard_id authorization rule target note id event_id =>
    if id ∉ s.entries.map (·.id) then
      (add_scope_entry config store policy s dockyard_id authorization rule target note id event_id (opened s.tables)).1.toOption.map s.added
    else none
  | .remove_scope_entry store dockyard_id entry_id authorization event_id =>
    (remove_scope_entry store policy s dockyard_id entry_id authorization event_id (opened s.tables)).1.toOption.join.map (s.removed entry_id)

end

/-! ### What the events say -/

/-- The entry that an event names, with its organization, and whether it is there from then on. -/
def reads (event : AuditEvent) : Option ((Nat × Text) × Bool) :=
  if event.action = SCOPE_ADD then event.target_id.map fun id => ((event.organization_id, id), true)
  else if event.action = SCOPE_REMOVE then event.target_id.map fun id => ((event.organization_id, id), false)
  else none

theorem reads_other {event : AuditEvent} (other : event.action ≠ SCOPE_ADD ∧ event.action ≠ SCOPE_REMOVE) : reads event = none := by
  rw [reads, if_neg other.1, if_neg other.2]

theorem reads_added {organization_id id event_id : Nat} {actor : Option AuthorizationContext} {outcome target_type reason_code : Text} :
    reads (security_event organization_id actor SCOPE_ADD outcome target_type id reason_code event_id) = some ((organization_id, dec id), true) := rfl

theorem reads_removed {organization_id id event_id : Nat} {actor : Option AuthorizationContext} {outcome target_type reason_code : Text} :
    reads (security_event organization_id actor SCOPE_REMOVE outcome target_type id reason_code event_id) =
      some ((organization_id, dec id), false) := rfl

/-! ### What each function leaves -/

section Calls
variable {Result Row : Type} {config : Discovery.Config Result Row} {store : Store} {policy : WorkflowExecutionPolicy} {s : State}
  {r t : Session Database}

/-- A workspace belongs to an organization. -/
def Owns (dockyards : List Dockyard) (organization_id dockyard_id : Nat) : Prop :=
  ∃ dockyard ∈ dockyards, dockyard.id = dockyard_id ∧ dockyard.organization_id = organization_id

theorem require_workflow_actor_ok {dockyard_id : Nat} {authorization actor : AuthorizationContext} {permission : Permission}
    (ran : require_workflow_actor store policy s dockyard_id authorization permission r = (.ok actor, t)) :
    Holds actor permission r.working ∧ Owns s.dockyards actor.organization_id dockyard_id := by
  obtain ⟨found, r₁, resolved, rest⟩ := bind_ok.mp ran
  cases found with
  | none => cases rest
  | some found =>
    cases rest
    obtain ⟨holds, row, listed, is⟩ := ExecutionAuthority.workspace_actor_holds resolved
    obtain ⟨dockyard, inside, rfl⟩ := List.mem_map.mp listed
    exact ⟨holds, dockyard, inside, is⟩

/-- An entry is stored where there is room for it and it is new. -/
theorem entry_accepted {id : Nat} {rule : ScopeRuleType} {target : Text} {existing : List Discovery.ScopeEntry} {entry : Discovery.ScopeEntry}
    (accepted : Discovery.add_scope_entry config id rule target existing = .ok entry) :
    entry.id = id ∧ existing.length < config.max_scope_entries ∧ ∀ other ∈ existing, (other.rule, other.value) ≠ (entry.rule, entry.value) := by
  unfold Discovery.add_scope_entry at accepted
  cases normalized : DockGuard.normalize_scope_value config.u config.max_network_addresses target with
  | error error =>
    rw [normalized] at accepted
    cases accepted
  | ok target =>
    rw [normalized] at accepted
    simp only [Bind.bind, Except.bind] at accepted
    split at accepted
    · cases accepted
    · rename_i room
      split at accepted
      · cases accepted
      · rename_i known
        cases accepted
        refine ⟨rfl, Nat.lt_of_not_le room, fun other listed same => known ?_⟩
        obtain ⟨rules, values⟩ := Prod.mk.inj same
        exact List.any_eq_true.mpr ⟨other, listed, by simp [rules, values]⟩

theorem create_dockyard_ok {organization_id id event_id : Nat} {authorization : AuthorizationContext} {name : Text} {description : Option Text}
    {made : Made Dockyard}
    (ran : create_dockyard store policy organization_id authorization name description id event_id r = (.ok made, t)) :
    made.row.id = id ∧ made.event.action = DOCKYARD_CREATE := by
  obtain ⟨found, r₁, _, rest⟩ := bind_ok.mp ran
  cases found with
  | none => cases rest
  | some actor =>
    obtain ⟨event, r₂, appended, rest⟩ := bind_ok.mp rest
    obtain ⟨_, r₃, _, rest⟩ := bind_ok.mp rest
    cases rest
    exact ⟨rfl, congrArg (·.action) (ExecutionAuthority.append_event_ok appended)⟩

theorem add_scope_entry_ok {dockyard_id id event_id : Nat} {authorization : AuthorizationContext} {rule : ScopeRuleType} {target : Text}
    {note : Option Text} {made : Made ScopeEntry}
    (ran : add_scope_entry config store policy s dockyard_id authorization rule target note id event_id r = (.ok made, t)) :
    ∃ actor, Holds actor .scope_manage r.working ∧ Owns s.dockyards actor.organization_id dockyard_id ∧ made.row.id = id ∧
      made.row.dockyard_id = dockyard_id ∧ (scope s.entries dockyard_id).length < config.max_scope_entries ∧
      (∀ other ∈ scope s.entries dockyard_id, (other.rule, other.value) ≠ (made.row.rule, made.row.value)) ∧
      made.event = security_event actor.organization_id (some actor) SCOPE_ADD SUCCESS SCOPE_ENTRY id "scope_added".toList event_id := by
  obtain ⟨actor, r₁, required, rest⟩ := bind_ok.mp ran
  obtain ⟨existing, r₂, listing, rest⟩ := bind_ok.mp rest
  obtain ⟨entry, r₃, accepting, rest⟩ := bind_ok.mp rest
  obtain ⟨event, r₄, appended, rest⟩ := bind_ok.mp rest
  obtain ⟨_, r₅, _, rest⟩ := bind_ok.mp rest
  cases rest
  obtain ⟨holds, owns⟩ := require_workflow_actor_ok required
  obtain ⟨is, _, _⟩ := read_ok listing
  cases accepted : Discovery.add_scope_entry config id rule target existing with
  | error error =>
    rw [accepted] at accepting
    cases accepting
  | ok stored =>
    rw [accepted] at accepting
    cases accepting
    obtain ⟨named, room, fresh⟩ := entry_accepted accepted
    rw [is, List.length_map] at room
    refine ⟨actor, holds, owns, named, rfl, room, fun other listed => ?_, named ▸ ExecutionAuthority.append_event_ok appended⟩
    exact fresh other.toScopeEntry (is ▸ List.mem_map_of_mem listed)

theorem remove_scope_entry_ok {dockyard_id entry_id event_id : Nat} {authorization : AuthorizationContext} {event : AuditEvent}
    (ran : remove_scope_entry store policy s dockyard_id entry_id authorization event_id r = (.ok (some event), t)) :
    ∃ actor, Holds actor .scope_manage r.working ∧ Owns s.dockyards actor.organization_id dockyard_id ∧
      (∃ entry ∈ s.entries, entry.dockyard_id = dockyard_id ∧ entry.id = entry_id) ∧
      event = security_event actor.organization_id (some actor) SCOPE_REMOVE SUCCESS SCOPE_ENTRY entry_id "scope_removed".toList event_id := by
  obtain ⟨actor, r₁, required, rest⟩ := bind_ok.mp ran
  obtain ⟨found, r₂, looked, rest⟩ := bind_ok.mp rest
  obtain ⟨holds, owns⟩ := require_workflow_actor_ok required
  obtain ⟨is, _, _⟩ := read_ok looked
  cases found with
  | none => cases rest
  | some entry =>
    obtain ⟨appended, r₃, appending, rest⟩ := bind_ok.mp rest
    obtain ⟨_, r₄, _, rest⟩ := bind_ok.mp rest
    cases rest
    have named := List.find?_some is.symm
    simp only [decide_eq_true_eq] at named
    exact ⟨actor, holds, owns, ⟨entry, List.mem_of_find?_eq_some is.symm, named⟩,
      ExecutionAuthority.append_event_ok appending⟩

end Calls

/-! ### What holds of the system -/

/-- The entries of an organization, by the names in the events. -/
def Accounts (s : State) : Prop :=
  ∀ organization_id id, ledger reads s.log (organization_id, dec id) = some true ↔
    ∃ entry ∈ s.entries, entry.id = id ∧ Owns s.dockyards organization_id entry.dockyard_id

structure Inv (maximum : Nat) (s : State) : Prop where
  dockyards : (s.dockyards.map (·.id)).Nodup
  keys : (s.entries.map (·.id)).Nodup
  owned : ∀ entry ∈ s.entries, entry.dockyard_id ∈ s.dockyards.map (·.id)
  accounts : Accounts s
  bounded : ∀ dockyard_id, (scope s.entries dockyard_id).length ≤ maximum
  distinct : ∀ dockyard_id, ((scope s.entries dockyard_id).map fun entry => (entry.rule, entry.value)).Nodup

/-- A step changes the scope of a workspace for a member who may, and records it. -/
def Recorded (s next : State) : Prop :=
  ∀ dockyard_id, scope next.entries dockyard_id ≠ scope s.entries dockyard_id →
    ∃ actor event, Holds actor .scope_manage s.tables ∧ Owns s.dockyards actor.organization_id dockyard_id ∧ next.log = s.log ++ [event] ∧
      event.organization_id = actor.organization_id ∧ event.actor_membership_id = some actor.membership_id

section Steps
variable {Result Row : Type} {config : Discovery.Config Result Row} {policy : WorkflowExecutionPolicy} {s next : State}

theorem recorded_none (same : next.entries = s.entries) : Recorded s next := fun _ changed => absurd (by rw [same]) changed

theorem owns_unique (keys : (s.dockyards.map (·.id)).Nodup) {one other dockyard_id : Nat} (first : Owns s.dockyards one dockyard_id)
    (second : Owns s.dockyards other dockyard_id) : one = other := by
  obtain ⟨a, aIn, aNamed, rfl⟩ := first
  obtain ⟨b, bIn, bNamed, rfl⟩ := second
  rw [KeyedRows.eq_of_key keys aIn bIn (aNamed.trans bNamed.symm)]

theorem owns_append {dockyards : List Dockyard} {made : Dockyard} {organization_id dockyard_id : Nat}
    (listed : dockyard_id ∈ dockyards.map (·.id)) (fresh : made.id ∉ dockyards.map (·.id)) :
    Owns (dockyards ++ [made]) organization_id dockyard_id ↔ Owns dockyards organization_id dockyard_id := by
  constructor
  · rintro ⟨dockyard, inside, named, organization⟩
    rcases List.mem_append.mp inside with before | new
    · exact ⟨dockyard, before, named, organization⟩
    · rw [List.mem_singleton.mp new] at named
      exact absurd (named ▸ listed) fresh
  · rintro ⟨dockyard, inside, rest⟩
    exact ⟨dockyard, List.mem_append_left _ inside, rest⟩

theorem others_step {maximum : Nat} (inv : Inv maximum s) {tables : Database} {events : List AuditEvent}
    (quiet : ∀ event ∈ events, event.action ≠ SCOPE_ADD ∧ event.action ≠ SCOPE_REMOVE) :
    Inv maximum { s with tables := tables, log := s.log ++ events } where
  dockyards := inv.dockyards
  keys := inv.keys
  owned := inv.owned
  accounts := fun organization_id id => by
    rw [ledger_silent fun event listed => reads_other (quiet event listed)]
    exact inv.accounts organization_id id
  bounded := inv.bounded
  distinct := inv.distinct

theorem created_step {maximum : Nat} (inv : Inv maximum s) {made : Made Dockyard} (fresh : made.row.id ∉ s.dockyards.map (·.id))
    (creates : made.event.action = DOCKYARD_CREATE) : Inv maximum (s.created made) where
  dockyards := by
    simp only [State.created, List.map_append, List.map_singleton]
    exact List.nodup_append.mpr ⟨inv.dockyards, List.nodup_singleton _, fun a listed b new =>
      fun same => fresh (List.mem_singleton.mp new ▸ same ▸ listed)⟩
  keys := inv.keys
  owned := fun entry listed => by
    simp only [State.created, List.map_append]
    exact List.mem_append_left _ (inv.owned entry listed)
  accounts := fun organization_id id => by
    have quiet : ∀ event ∈ [made.event], reads event = none := fun event listed => by
      rw [List.mem_singleton.mp listed]
      exact reads_other (by rw [creates]; decide)
    simp only [State.created]
    rw [ledger_silent quiet, inv.accounts organization_id id]
    refine exists_congr fun entry => and_congr_right fun listed => and_congr_right fun _ => ?_
    exact (owns_append (inv.owned entry listed) fresh).symm
  bounded := inv.bounded
  distinct := inv.distinct

theorem scope_append {entries : List ScopeEntry} {entry : ScopeEntry} (dockyard_id : Nat) :
    scope (entries ++ [entry]) dockyard_id = scope entries dockyard_id ++ if entry.dockyard_id = dockyard_id then [entry] else [] := by
  rw [scope, List.filter_append]
  by_cases here : entry.dockyard_id = dockyard_id
  · simp [scope, here]
  · simp [scope, here]

theorem added_step {made : Made ScopeEntry} {actor : AuthorizationContext} {dockyard_id id event_id : Nat} (inv : Inv config.max_scope_entries s)
    (fresh : id ∉ s.entries.map (·.id)) (owns : Owns s.dockyards actor.organization_id dockyard_id) (named : made.row.id = id)
    (inside : made.row.dockyard_id = dockyard_id) (room : (scope s.entries dockyard_id).length < config.max_scope_entries)
    (new : ∀ other ∈ scope s.entries dockyard_id, (other.rule, other.value) ≠ (made.row.rule, made.row.value))
    (event : made.event = security_event actor.organization_id (some actor) SCOPE_ADD SUCCESS SCOPE_ENTRY id "scope_added".toList event_id) :
    Inv config.max_scope_entries (s.added made) where
  dockyards := inv.dockyards
  keys := by
    simp only [State.added, List.map_append, List.map_singleton]
    exact List.nodup_append.mpr ⟨inv.keys, List.nodup_singleton _, fun a listed b last =>
      fun same => fresh (named ▸ List.mem_singleton.mp last ▸ same ▸ listed)⟩
  owned := fun entry listed => by
    rcases List.mem_append.mp listed with before | last
    · exact inv.owned entry before
    · obtain ⟨dockyard, there, is, _⟩ := owns
      rw [List.mem_singleton.mp last, inside]
      exact List.mem_map.mpr ⟨dockyard, there, is⟩
  accounts := fun organization_id other => by
    simp only [State.added]
    rw [event, ledger_entry reads_added]
    by_cases key : (organization_id, dec other) = (actor.organization_id, dec id)
    · rw [key, Function.update_self]
      obtain ⟨same, text⟩ := Prod.mk.inj key
      have same_id : other = id := Function.LeftInverse.injective ofDec_dec text
      refine iff_of_true rfl ⟨made.row, List.mem_append_right _ (List.mem_singleton_self _), named.trans same_id.symm, ?_⟩
      rw [inside, same]
      exact owns
    · rw [Function.update_of_ne key, inv.accounts organization_id other]
      constructor
      · rintro ⟨entry, listed, rest⟩
        exact ⟨entry, List.mem_append_left _ listed, rest⟩
      · rintro ⟨entry, listed, is, owned⟩
        rcases List.mem_append.mp listed with before | last
        · exact ⟨entry, before, is, owned⟩
        · rw [List.mem_singleton.mp last] at is owned
          rw [inside] at owned
          exact absurd (by rw [owns_unique inv.dockyards owned owns, ← is, named]) key
  bounded := fun other => by
    simp only [State.added]
    rw [scope_append, List.length_append]
    by_cases here : made.row.dockyard_id = other
    · rw [if_pos here, List.length_singleton, ← here, inside]
      exact room
    · rw [if_neg here, List.length_nil, Nat.add_zero]
      exact inv.bounded other
  distinct := fun other => by
    simp only [State.added]
    rw [scope_append, List.map_append]
    by_cases here : made.row.dockyard_id = other
    · rw [if_pos here]
      refine List.nodup_append.mpr ⟨inv.distinct other, by simp, fun pair listed last is => ?_⟩
      obtain ⟨entry, there, rfl⟩ := List.mem_map.mp listed
      rw [← here, inside] at there
      intro same
      exact new entry there (same.trans (by simpa using is))
    · rw [if_neg here, List.map_nil, List.append_nil]
      exact inv.distinct other

/-- The removal of one entry leaves the scopes of the other workspaces. -/
theorem scope_removed (keys : (s.entries.map (·.id)).Nodup) {entry : ScopeEntry} (listed : entry ∈ s.entries) {dockyard_id : Nat}
    (apart : entry.dockyard_id ≠ dockyard_id) :
    scope (s.entries.filter fun other => other.id ≠ entry.id) dockyard_id = scope s.entries dockyard_id := by
  rw [scope, scope, List.filter_filter]
  refine List.filter_congr fun other inside => ?_
  by_cases here : other.dockyard_id = dockyard_id
  · have differs : other.id ≠ entry.id := fun same => apart (KeyedRows.eq_of_key keys inside listed same ▸ here)
    simp [here, differs]
  · simp [here]

theorem scope_filter_sublist {entries : List ScopeEntry} {p : ScopeEntry → Bool} (dockyard_id : Nat) :
    (scope (entries.filter p) dockyard_id).Sublist (scope entries dockyard_id) := List.filter_sublist.filter _

theorem removed_step {maximum : Nat} {actor : AuthorizationContext} {entry : ScopeEntry} {event : AuditEvent} {event_id : Nat}
    (inv : Inv maximum s) (listed : entry ∈ s.entries) (owns : Owns s.dockyards actor.organization_id entry.dockyard_id)
    (recorded : event = security_event actor.organization_id (some actor) SCOPE_REMOVE SUCCESS SCOPE_ENTRY entry.id "scope_removed".toList
      event_id) : Inv maximum (s.removed entry.id event) where
  dockyards := inv.dockyards
  keys := inv.keys.sublist (List.filter_sublist.map _)
  owned := fun other inside => inv.owned other (List.mem_filter.mp inside).1
  accounts := fun organization_id other => by
    simp only [State.removed]
    rw [recorded, ledger_entry reads_removed]
    by_cases key : (organization_id, dec other) = (actor.organization_id, dec entry.id)
    · rw [key, Function.update_self]
      have same_id : other = entry.id := Function.LeftInverse.injective ofDec_dec (Prod.mk.inj key).2
      refine iff_of_false (by simp) ?_
      rintro ⟨found, inside, is, _⟩
      exact of_decide_eq_true (List.mem_filter.mp inside).2 (is.trans same_id)
    · rw [Function.update_of_ne key, inv.accounts organization_id other]
      constructor
      · rintro ⟨found, inside, is, owned⟩
        refine ⟨found, List.mem_filter.mpr ⟨inside, decide_eq_true fun same => key ?_⟩, is, owned⟩
        rw [KeyedRows.eq_of_key inv.keys inside listed same] at owned
        rw [owns_unique inv.dockyards owned owns, ← is, same]
      · rintro ⟨found, inside, rest⟩
        exact ⟨found, (List.mem_filter.mp inside).1, rest⟩
  bounded := fun dockyard_id => (scope_filter_sublist dockyard_id).length_le.trans (inv.bounded dockyard_id)
  distinct := fun dockyard_id => (inv.distinct dockyard_id).sublist ((scope_filter_sublist dockyard_id).map _)

theorem inv_step {action : Action} (inv : Inv config.max_scope_entries s) (stepped : step config policy s action = some next) :
    Inv config.max_scope_entries next ∧ Recorded s next := by
  cases action with
  | others tables events =>
    simp only [step] at stepped
    split at stepped
    · rename_i quiet
      cases stepped
      exact ⟨others_step inv quiet, recorded_none rfl⟩
    · cases stepped
  | create_dockyard store organization_id authorization name description id event_id =>
    simp only [step] at stepped
    split at stepped
    · rename_i fresh
      rcases ran : create_dockyard store policy organization_id authorization name description id event_id (opened s.tables) with ⟨raised | made, t⟩
      · rw [ran] at stepped
        cases stepped
      · rw [ran] at stepped
        cases stepped
        obtain ⟨named, creates⟩ := create_dockyard_ok ran
        exact ⟨created_step inv (named ▸ fresh) creates, recorded_none rfl⟩
    · cases stepped
  | add_scope_entry store dockyard_id authorization rule target note id event_id =>
    simp only [step] at stepped
    split at stepped
    · rename_i fresh
      rcases ran : add_scope_entry config store policy s dockyard_id authorization rule target note id event_id (opened s.tables) with
        ⟨raised | made, t⟩
      · rw [ran] at stepped
        cases stepped
      · rw [ran] at stepped
        cases stepped
        obtain ⟨actor, holds, owns, named, inside, room, new, event⟩ := add_scope_entry_ok ran
        refine ⟨added_step inv fresh owns named inside room new event, fun changed differs => ?_⟩
        have here : made.row.dockyard_id = changed := by
          by_contra apart
          exact differs (by simp only [State.added]; rw [scope_append, if_neg apart, List.append_nil])
        exact ⟨actor, made.event, holds, here ▸ inside.symm ▸ owns, rfl, by rw [event]; rfl, by rw [event]; rfl⟩
    · cases stepped
  | remove_scope_entry store dockyard_id entry_id authorization event_id =>
    simp only [step] at stepped
    rcases ran : remove_scope_entry store policy s dockyard_id entry_id authorization event_id (opened s.tables) with ⟨raised | found, t⟩
    · rw [ran] at stepped
      cases stepped
    · rw [ran] at stepped
      cases found with
      | none => cases stepped
      | some event =>
        cases stepped
        obtain ⟨actor, holds, owns, ⟨entry, listed, inside, rfl⟩, recorded⟩ := remove_scope_entry_ok ran
        rw [← inside] at owns
        refine ⟨removed_step inv listed owns recorded, fun changed differs => ?_⟩
        have here : entry.dockyard_id = changed := by
          by_contra apart
          exact differs (scope_removed inv.keys listed apart)
        exact ⟨actor, event, holds, here ▸ owns, rfl, by rw [recorded]; rfl, by rw [recorded]; rfl⟩

theorem inv_start {tables : Database} {dockyards : List Dockyard} {maximum : Nat} (keys : (dockyards.map (·.id)).Nodup) :
    Inv maximum { tables := tables, dockyards := dockyards } where
  dockyards := keys
  keys := List.nodup_nil
  owned := by simp
  accounts := fun _ _ => by simp [ledger]
  bounded := by simp [scope]
  distinct := by simp [scope]

/-- From workspaces without entries on, the events say at every moment which
    entries the workspaces of each organization have; no scope outgrows its
    bound or holds an entry twice; and a scope changes only for a member who
    may change it then, in a commit that adds their event. -/
theorem log_accounts_for_scope {tables : Database} {dockyards : List Dockyard} (keys : (dockyards.map (·.id)).Nodup) :
    Runs.Always (step config policy) { tables := tables, dockyards := dockyards } fun s =>
      (∀ organization_id id, ledger reads s.log (organization_id, dec id) = some true ↔
        ∃ entry ∈ s.entries, entry.id = id ∧ Owns s.dockyards organization_id entry.dockyard_id) ∧
      (∀ dockyard_id, (scope s.entries dockyard_id).length ≤ config.max_scope_entries ∧
        ((scope s.entries dockyard_id).map fun entry => (entry.rule, entry.value)).Nodup) ∧
      ∀ action next, step config policy s action = some next → ∀ dockyard_id, scope next.entries dockyard_id ≠ scope s.entries dockyard_id →
        ∃ actor event, Holds actor .scope_manage s.tables ∧ Owns s.dockyards actor.organization_id dockyard_id ∧
          next.log = s.log ++ [event] ∧ event.organization_id = actor.organization_id ∧
            event.actor_membership_id = some actor.membership_id := by
  exact Runs.always_of_invariant (Inv config.max_scope_entries) (fun _ _ _ inv stepped => (inv_step inv stepped).1) (inv_start keys) fun s inv =>
    ⟨inv.accounts, fun dockyard_id => ⟨inv.bounded dockyard_id, inv.distinct dockyard_id⟩, fun _ _ stepped => (inv_step inv stepped).2⟩

end Steps
/-! ### A workspace -/

open ExecutionAuthority (operator)
open TeamInvariants (plainStore localTables)

def plainConfig : Discovery.Config Unit Unit where
  u := .plain
  listed_before := fun a b => a.id ≤ b.id
  profile := { name := "service".toList, title := "Service".toList }
  rows := fun _ _ => []

/-- A second workspace, an address in its scope, and the address taken out again. -/
def edits : List Action :=
  [.create_dockyard plainStore 1 operator "Second".toList none 2 11,
    .add_scope_entry plainStore 2 operator .include "192.0.2.7".toList none 5 12, .remove_scope_entry plainStore 2 5 operator 13]

def first_dockyard : Dockyard := { id := 1, organization_id := 1, name := "First".toList, description := none }

theorem log_accounts_for_edits : ∃ s, Runs.run (step plainConfig LOCAL_WORKFLOW_POLICY) { tables := localTables, dockyards := [first_dockyard] }
    edits = some s ∧ ∀ id, ledger reads s.log (1, dec id) = some true ↔ ∃ entry ∈ s.entries, entry.id = id ∧ Owns s.dockyards 1 entry.dockyard_id := by
  have ended : (Runs.run (step plainConfig LOCAL_WORKFLOW_POLICY) { tables := localTables, dockyards := [first_dockyard] } edits).isSome = true := by
    decide +kernel
  obtain ⟨s, ran⟩ := Option.isSome_iff_exists.mp ended
  exact ⟨s, ran, fun id => (log_accounts_for_scope (by decide) edits s ran).1 1 id⟩

end RedDock.ScopeAudit
