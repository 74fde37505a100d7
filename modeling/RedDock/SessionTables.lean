import RedDock.SessionFamilies

/-!
# Session tables

The table of the session rows under any sequence of transactions, at any
moments: what the database checks of it, and what one row of a family has in
common with another.
-/
set_option autoImplicit false
namespace RedDock.SessionTables
open Text Sessions SessionFamilies Runs

/-! ### Requests -/

/-- The unique constraints of the table. -/
def stores (rows : List BrowserSession) : Bool :=
  decide (rows.map (·.token_hash)).Nodup && decide (rows.map fun row => (row.family_hash, row.generation)).Nodup &&
    decide ((rows.filter BrowserSession.live).map (·.family_hash)).Nodup

inductive Request
  | issue (now : Int) (directory : Directory) (membership_id : Nat) (token family_hash : Text)
  | resolve (now : Int) (directory : Directory) (token : Text) (expected : Expected) (touch : Bool)
  | rotate (now : Int) (directory : Directory) (token csrf_token new_token : Text)

def Request.now : Request → Int
  | .issue now .. | .resolve now .. | .rotate now .. => now

/-- What a caller is given of a session. -/
structure Credentials where
  token : Text
  csrf_token : Text
  expires_at : Int
  deriving DecidableEq

def credentials (issued : IssuedSession) : Credentials :=
  { token := issued.token, csrf_token := issued.csrf_token, expires_at := issued.expires_at }

/-- How a request ends: `unavailable` where the database refuses a row, and
    without a value where the session is rejected. -/
inductive Outcome
  | unavailable
  | issued (session : Option Credentials) (evicted : List Text)
  | resolved (context : Option AuthorizationContext)
  | rotated (replacement : Option (Option Credentials))
  deriving DecidableEq

/-- The sessions that an issue closes with their families. -/
def evicted (membership_id : Nat) (now : Int) (rows : List BrowserSession) : List Text :=
  (overflowing (active_sessions membership_id now rows)).map (·.token_hash)

/-- `revoke_membership_sessions` -/
def revoke_membership_sessions (directory : Directory) (membership_id : Nat) (now : Int) (rows : List BrowserSession) :
    List BrowserSession × Nat :=
  match directory membership_id with
  | none => (rows, 0)
  | some _ =>
    (rows.map fun row => if row.membership_id = membership_id ∧ row.revoked_at = none then { row with revoked_at := some now } else row,
      rows.countP fun row => row.membership_id = membership_id && row.live)

section
variable (digests : Digests)

/-- A request with the id that its new row is given; a row that the database
    refuses is rolled back. -/
def perform (id : Nat) (rows : List BrowserSession) : Request → List BrowserSession × Outcome
  | .issue now directory membership_id token family_hash =>
    match issue_browser_session digests directory membership_id now ⟨id, token, family_hash⟩ rows with
    | none => (rows, .issued none [])
    | some (after, issued) =>
      if stores after then (after, .issued (some (credentials issued)) (evicted membership_id now rows)) else (rows, .unavailable)
  | .resolve now directory token expected touch =>
    let resolved := resolve_browser_session digests directory token expected touch now rows
    (resolved.1, .resolved resolved.2)
  | .rotate now directory token csrf_token new_token =>
    match rotate_browser_session digests directory token csrf_token now ⟨id, new_token, []⟩ rows with
    | none => (rows, .rotated none)
    | some (after, none) => (after, .rotated (some none))
    | some (after, some issued) =>
      if stores after then (after, .rotated (some (some (credentials issued)))) else (rows, .unavailable)

/-- Whether no row has the secrets of a request. -/
def secret (rows : List BrowserSession) : Request → Bool
  | .issue _ _ _ token family_hash => digests.digest token ∉ rows.map (·.token_hash) && family_hash ∉ rows.map (·.family_hash)
  | .resolve .. => true
  | .rotate _ _ _ _ new_token => digests.digest new_token ∉ rows.map (·.token_hash)

inductive Transaction
  | request (request : Request)
  | revoke (now : Int) (directory : Directory) (token : Text)
  | revoke_membership (now : Int) (directory : Directory) (membership_id : Nat)
  | purge (before : Int) (limit : Nat) (locked : List Nat)

/-- One transaction on the table, with the id of a new row: greater than those
    that are stored. -/
def transact (rows : List BrowserSession) (transaction : Nat × Transaction) : Option (List BrowserSession) :=
  match transaction.2 with
  | .request request =>
    if rows.all (·.id < transaction.1) && secret digests rows request then some (perform digests transaction.1 rows request).1 else none
  | .revoke now directory token => some (revoke_browser_session digests directory token now rows).1
  | .revoke_membership now directory membership_id => some (revoke_membership_sessions directory membership_id now rows).1
  | .purge before limit locked => some (purge_inactive_browser_sessions before limit locked rows)

end

/-! ### Families -/

/-- What two rows of one family have in common. -/
structure Kin (a b : BrowserSession) : Prop where
  expires_at : a.expires_at = b.expires_at
  membership_id : a.membership_id = b.membership_id
  revoked : a.revoked_at = none → b.revoked_at = none
  one_live : a.live = true → b.live = true → a = b
  newest : a.live = true → b.generation ≤ a.generation
  generation : a.generation = b.generation → a = b

structure Lineage (rows : List BrowserSession) : Prop where
  unique : (rows.map (·.token_hash)).Nodup
  ascending : rows.Pairwise fun a b => a.id < b.id
  kin : ∀ a ∈ rows, ∀ b ∈ rows, a.family_hash = b.family_hash → Kin a b

theorem same_token {rows : List BrowserSession} (unique : (rows.map (·.token_hash)).Nodup) {a b : BrowserSession} (first : a ∈ rows)
    (second : b ∈ rows) (same : a.token_hash = b.token_hash) : a = b :=
  List.inj_on_of_nodup_map unique first second same

/-- No unique constraint refuses such a table. -/
theorem stores_of_lineage {rows : List BrowserSession} (lineage : Lineage rows) : stores rows = true := by
  have nodup : rows.Nodup := lineage.unique.of_map
  simp only [stores, Bool.and_eq_true, decide_eq_true_eq]
  refine ⟨⟨lineage.unique, nodup.map_on fun a first b second same => ?_⟩, (nodup.filter _).map_on fun a first b second same => ?_⟩
  · obtain ⟨family, generation⟩ := Prod.mk.inj same
    exact (lineage.kin a first b second family).generation generation
  · obtain ⟨first, live⟩ := List.mem_filter.mp first
    obtain ⟨second, live'⟩ := List.mem_filter.mp second
    exact (lineage.kin a first b second same).one_live live live'

theorem lineage_filter {rows : List BrowserSession} (lineage : Lineage rows) (keep : BrowserSession → Bool) : Lineage (rows.filter keep) where
  unique := lineage.unique.sublist (List.filter_sublist.map _)
  ascending := lineage.ascending.filter _
  kin a first b second := lineage.kin a (List.mem_filter.mp first).1 b (List.mem_filter.mp second).1

/-- A row with other moments. -/
structure Restamped (row' row : BrowserSession) : Prop where
  id : row'.id = row.id
  token_hash : row'.token_hash = row.token_hash
  family_hash : row'.family_hash = row.family_hash
  membership_id : row'.membership_id = row.membership_id
  generation : row'.generation = row.generation
  expires_at : row'.expires_at = row.expires_at
  live : row'.live = true → row.live = true

theorem Restamped.refl (row : BrowserSession) : Restamped row row := ⟨rfl, rfl, rfl, rfl, rfl, rfl, fun live => live⟩

theorem lineage_map {rows : List BrowserSession} {f : BrowserSession → BrowserSession} (lineage : Lineage rows)
    (restamped : ∀ row ∈ rows, Restamped (f row) row)
    (revoked : ∀ a ∈ rows, ∀ b ∈ rows, a.family_hash = b.family_hash → (f a).revoked_at = none → (f b).revoked_at = none) :
    Lineage (rows.map f) where
  unique := by
    have same : (rows.map f).map (·.token_hash) = rows.map (·.token_hash) := by
      rw [List.map_map]
      exact List.map_congr_left fun row member => (restamped row member).token_hash
    rw [same]
    exact lineage.unique
  ascending := by
    rw [List.pairwise_map]
    refine lineage.ascending.imp_of_mem fun {a b} first second before => ?_
    rw [(restamped a first).id, (restamped b second).id]
    exact before
  kin := by
    intro a' first b' second family
    obtain ⟨a, inside, rfl⟩ := List.mem_map.mp first
    obtain ⟨b, inside', rfl⟩ := List.mem_map.mp second
    have here := restamped a inside
    have there := restamped b inside'
    rw [here.family_hash, there.family_hash] at family
    have kin := lineage.kin a inside b inside' family
    exact {
      expires_at := by rw [here.expires_at, there.expires_at, kin.expires_at]
      membership_id := by rw [here.membership_id, there.membership_id, kin.membership_id]
      revoked := revoked a inside b inside' family
      one_live := fun live live' => congrArg f (kin.one_live (here.live live) (there.live live'))
      newest := fun live => by
        rw [here.generation, there.generation]
        exact kin.newest (here.live live)
      generation := fun same => by
        rw [here.generation, there.generation] at same
        exact congrArg f (kin.generation same) }

/-- A new row: of a family that has none, or the successor of its live row. -/
theorem lineage_snoc {rows : List BrowserSession} {record : BrowserSession} (lineage : Lineage rows) (greater : ∀ row ∈ rows, row.id < record.id)
    (fresh : record.token_hash ∉ rows.map (·.token_hash)) (open_record : record.revoked_at = none)
    (family : ∀ row ∈ rows, row.family_hash = record.family_hash → row.expires_at = record.expires_at ∧
      row.membership_id = record.membership_id ∧ row.revoked_at = none ∧ row.live = false ∧ row.generation < record.generation) :
    Lineage (rows ++ [record]) where
  unique := by
    rw [List.map_append]
    exact List.nodup_append'.mpr ⟨lineage.unique, List.nodup_singleton _, List.disjoint_singleton.mpr fresh⟩
  ascending := by
    rw [List.pairwise_append]
    refine ⟨lineage.ascending, List.pairwise_singleton _ _, fun row member last is => ?_⟩
    cases List.mem_singleton.mp is
    exact greater row member
  kin := by
    intro a first b second same
    rcases List.mem_append.mp first with first | first <;> rcases List.mem_append.mp second with second | second
    · exact lineage.kin a first b second same
    · cases List.mem_singleton.mp second
      obtain ⟨expires, membership, _, dead, earlier⟩ := family a first same
      exact {
        expires_at := expires
        membership_id := membership
        revoked := fun _ => open_record
        one_live := fun live => absurd live (by rw [dead]; exact Bool.false_ne_true)
        newest := fun live => absurd live (by rw [dead]; exact Bool.false_ne_true)
        generation := fun same => absurd same (Nat.ne_of_lt earlier) }
    · cases List.mem_singleton.mp first
      obtain ⟨expires, membership, revoked, dead, earlier⟩ := family b second same.symm
      exact {
        expires_at := expires.symm
        membership_id := membership.symm
        revoked := fun _ => revoked
        one_live := fun _ live => absurd live (by rw [dead]; exact Bool.false_ne_true)
        newest := fun _ => Nat.le_of_lt earlier
        generation := fun same => absurd same (Nat.ne_of_gt earlier) }
    · cases List.mem_singleton.mp first
      cases List.mem_singleton.mp second
      exact ⟨rfl, rfl, fun revoked => revoked, fun _ _ => rfl, fun _ => Nat.le_refl _, fun _ => rfl⟩

/-! ### What a transaction keeps -/

section
variable {digests : Digests} {directory : Directory} {rows : List BrowserSession}

theorem lineage_revoke_family (lineage : Lineage rows) (family_hash : Text) (now : Int) : Lineage (revoke_family family_hash now rows) := by
  refine lineage_map lineage (fun row _ => ?_) fun a first b second family revoked => ?_
  · split
    · exact ⟨rfl, rfl, rfl, rfl, rfl, rfl, by simp [BrowserSession.live]⟩
    · exact Restamped.refl row
  · have kin := lineage.kin a first b second family
    split at revoked
    · cases revoked
    · rename_i other
      rw [if_neg (fun both => other ⟨family.trans both.1, revoked⟩)]
      exact kin.revoked revoked

theorem lineage_foldl_revoke (sessions : List BrowserSession) (now : Int) (lineage : Lineage rows) :
    Lineage (sessions.foldl (fun rows session => revoke_family session.family_hash now rows) rows) := by
  induction sessions generalizing rows with
  | nil => exact lineage
  | cons session sessions ih => exact ih (lineage_revoke_family lineage _ now)

theorem lineage_revoke_membership (lineage : Lineage rows) (membership_id : Nat) (now : Int) :
    Lineage (revoke_membership_sessions directory membership_id now rows).1 := by
  unfold revoke_membership_sessions
  split
  · exact lineage
  · refine lineage_map lineage (fun row _ => ?_) fun a first b second family revoked => ?_
    · split
      · exact ⟨rfl, rfl, rfl, rfl, rfl, rfl, by simp [BrowserSession.live]⟩
      · exact Restamped.refl row
    · have kin := lineage.kin a first b second family
      split at revoked
      · cases revoked
      · rename_i other
        rw [if_neg (fun both => other ⟨kin.membership_id.trans both.1, revoked⟩)]
        exact kin.revoked revoked

theorem lineage_revoke (lineage : Lineage rows) (token : Text) (now : Int) :
    Lineage (revoke_browser_session digests directory token now rows).1 := by
  unfold revoke_browser_session
  split
  · exact lineage
  · split
    · exact lineage
    · split
      · exact lineage_revoke_family lineage _ now
      · exact lineage

theorem lineage_resolve (lineage : Lineage rows) (token : Text) (expected : Expected) (touch : Bool) (now : Int) :
    Lineage (resolve_browser_session digests directory token expected touch now rows).1 := by
  have touched : ∀ session, Lineage (rows.map fun other => if touches session now other then { other with last_seen_at := now } else other) := by
    intro session
    refine lineage_map lineage (fun row _ => ?_) fun a first b second family revoked => ?_
    · split
      · exact ⟨rfl, rfl, rfl, rfl, rfl, rfl, fun live => live⟩
      · exact Restamped.refl row
    · have same : ∀ row : BrowserSession, (if touches session now row then { row with last_seen_at := now } else row).revoked_at = row.revoked_at := by
        intro row
        split <;> rfl
      rw [same] at revoked ⊢
      exact (lineage.kin a first b second family).revoked revoked
  unfold resolve_browser_session
  split
  · exact lineage
  · split
    · exact lineage
    · simp only
      split
      · exact touched _
      · exact touched _

/-- Revocations leave the rows with other moments. -/
theorem restamped_foldl (sessions : List BrowserSession) (now : Int) {row' : BrowserSession}
    (member : row' ∈ sessions.foldl (fun rows session => revoke_family session.family_hash now rows) rows) :
    ∃ row ∈ rows, row'.id = row.id ∧ row'.token_hash = row.token_hash ∧ row'.family_hash = row.family_hash := by
  induction sessions generalizing rows with
  | nil => exact ⟨row', member, rfl, rfl, rfl⟩
  | cons session sessions ih =>
    obtain ⟨middle, inside, id, token_hash, family_hash⟩ := ih member
    obtain ⟨row, stored, rfl⟩ := List.mem_map.mp inside
    refine ⟨row, stored, ?_, ?_, ?_⟩
    · rw [id]; split <;> rfl
    · rw [token_hash]; split <;> rfl
    · rw [family_hash]; split <;> rfl

/-- A family of its own is no one's kin. -/
theorem lineage_issue {membership_id id : Nat} {now : Int} {token family_hash : Text} {after : List BrowserSession} {issued : IssuedSession}
    (lineage : Lineage rows) (greater : ∀ row ∈ rows, row.id < id) (fresh : digests.digest token ∉ rows.map (·.token_hash))
    (own : family_hash ∉ rows.map (·.family_hash))
    (ran : issue_browser_session digests directory membership_id now ⟨id, token, family_hash⟩ rows = some (after, issued)) : Lineage after := by
  unfold issue_browser_session at ran
  obtain ⟨identity, _, ran⟩ := Option.bind_eq_some_iff.mp ran
  obtain ⟨context, _, ran⟩ := Option.bind_eq_some_iff.mp ran
  obtain ⟨csrf_token, _, ran⟩ := Option.bind_eq_some_iff.mp ran
  cases ran
  refine lineage_snoc (lineage_foldl_revoke _ now lineage) (fun row member => ?_) (fun member => ?_) rfl fun row member family => ?_
  · obtain ⟨old, stored, same, _, _⟩ := restamped_foldl _ now member
    rw [same]
    exact greater old stored
  · obtain ⟨row, inside, is⟩ := List.mem_map.mp member
    obtain ⟨old, stored, _, same, _⟩ := restamped_foldl _ now inside
    exact fresh (List.mem_map.mpr ⟨old, stored, same.symm.trans is⟩)
  · obtain ⟨old, stored, _, _, same⟩ := restamped_foldl _ now member
    exact absurd (List.mem_map.mpr ⟨old, stored, same.symm.trans family⟩) own

end

/-! ### Rotations -/

section
variable (digests : Digests)

/-- What a rotation decides for the row of a token: nothing where it is rejected,
    and otherwise the CSRF proof of the successor, if it is due. -/
def rotation_due (identity : Identity) (csrf_token : Text) (now : Int) (new_token : Text) (row : BrowserSession) : Option (Option Text) :=
  if (authorization_context row.membership_id identity).isNone || !is_active now row || !csrf_token_matches digests csrf_token row.csrf_token_hash
  then none
  else if now < row.token_issued_at + SESSION_ROTATION_INTERVAL then some none
  else if MAX_SESSION_GENERATION ≤ row.generation then none
  else (csrf_token_for_session digests new_token).map some

/-- The row that takes the place of another. -/
def successor (fresh : Fresh) (csrf_token : Text) (now : Int) (row : BrowserSession) : BrowserSession := {
  id := fresh.id
  token_hash := digests.digest fresh.token
  csrf_token_hash := digests.digest csrf_token
  family_hash := row.family_hash
  generation := row.generation + 1
  membership_id := row.membership_id
  created_at := now
  token_issued_at := now
  last_seen_at := now
  expires_at := row.expires_at }

/-- The rows after a decision, and what is issued. -/
def rotated (fresh : Fresh) (now : Int) (rows : List BrowserSession) (row : BrowserSession) :
    Option Text → List BrowserSession × Option IssuedSession
  | none => (rows, none)
  | some csrf_token => (rows.map (replace row.token_hash now) ++ [successor digests fresh csrf_token now row],
      some { session_id := fresh.id, token := fresh.token, csrf_token := csrf_token, expires_at := row.expires_at })

end

section
variable {digests : Digests} {directory : Directory} {rows : List BrowserSession}

/-- The family of a row is locked with it, but the row is the one that was found. -/
theorem locked_family_eq (token_hash : Text) : locked_family directory token_hash rows =
    (rows.find? (·.token_hash = token_hash)).bind fun row => (directory row.membership_id).map fun identity =>
      (row, identity, rows.filter fun other => other.family_hash = row.family_hash) := by
  unfold locked_family
  cases found : rows.find? (·.token_hash = token_hash) with
  | none => rfl
  | some row =>
    have again : (rows.filter fun other => other.family_hash = row.family_hash).find? (·.token_hash = token_hash) = some row := by
      obtain ⟨holds, before, after, rfl, earlier⟩ := List.find?_eq_some_iff_append.mp found
      rw [List.find?_filter, List.find?_eq_some_iff_append]
      refine ⟨by simpa using holds, before, after, rfl, fun other member => ?_⟩
      have apart := earlier other member
      simp only [Bool.not_eq_true', decide_eq_false_iff_not] at apart
      simp [apart]
    cases is : directory row.membership_id with
    | none => simp [is]
    | some identity => simp only [Option.bind_some, Option.bind_eq_bind, is, again, Option.map_some, Option.pure_def]

theorem rotate_eq (token csrf_token : Text) (now : Int) (fresh : Fresh) : rotate_browser_session digests directory token csrf_token now fresh rows =
    if !is_browser_session_token token || !is_browser_session_token csrf_token then none
    else (rows.find? (·.token_hash = digests.digest token)).bind fun row => (directory row.membership_id).bind fun identity =>
      (rotation_due digests identity csrf_token now fresh.token row).map (rotated digests fresh now rows row) := by
  unfold rotate_browser_session
  split
  · rfl
  · rw [locked_family_eq]
    cases rows.find? (·.token_hash = digests.digest token) with
    | none => rfl
    | some row =>
      simp only [Option.bind_some, Option.bind_eq_bind]
      cases directory row.membership_id with
      | none => rfl
      | some identity =>
        simp only [Option.bind_some, Option.map_some, rotation_due]
        cases authorization_context row.membership_id identity with
        | none => rfl
        | some context =>
          simp only [Option.bind_some, Option.isNone_some, Bool.false_or]
          split
          · rfl
          · split
            · rfl
            · split
              · rfl
              · cases csrf_token_for_session digests fresh.token <;> rfl

/-- A successor is kin to the rows that it comes from. -/
theorem lineage_rotated {id : Nat} {now : Int} {new_token csrf_token : Text} {row : BrowserSession} (lineage : Lineage rows)
    (greater : ∀ row ∈ rows, row.id < id) (fresh : digests.digest new_token ∉ rows.map (·.token_hash)) (member : row ∈ rows)
    (live : row.live = true) : Lineage (rotated digests ⟨id, new_token, []⟩ now rows row (some csrf_token)).1 := by
  have restamped : ∀ other : BrowserSession, Restamped (replace row.token_hash now other) other := by
    intro other
    unfold replace
    split
    · exact ⟨rfl, rfl, rfl, rfl, rfl, rfl, by simp [BrowserSession.live]⟩
    · exact Restamped.refl other
  have revoked : ∀ other : BrowserSession, (replace row.token_hash now other).revoked_at = other.revoked_at := by
    intro other
    unfold replace
    split <;> rfl
  have replaced : Lineage (rows.map (replace row.token_hash now)) := by
    refine lineage_map lineage (fun other _ => restamped other) fun a first b second family none => ?_
    rw [revoked] at none ⊢
    exact (lineage.kin a first b second family).revoked none
  have open_row : row.revoked_at = none := by
    simp only [BrowserSession.live, Bool.and_eq_true, Option.isNone_iff_eq_none] at live
    exact live.2
  refine lineage_snoc replaced (fun other inside => ?_) (fun inside => ?_) rfl fun other inside family => ?_
  · obtain ⟨old, stored, rfl⟩ := List.mem_map.mp inside
    rw [(restamped old).id]
    exact greater old stored
  · obtain ⟨other, changed, is⟩ := List.mem_map.mp inside
    obtain ⟨old, stored, rfl⟩ := List.mem_map.mp changed
    exact fresh (List.mem_map.mpr ⟨old, stored, (restamped old).token_hash.symm.trans is⟩)
  · obtain ⟨old, stored, rfl⟩ := List.mem_map.mp inside
    have same := restamped old
    have kin := lineage.kin row member old stored (family.symm.trans same.family_hash)
    refine ⟨same.expires_at.trans kin.expires_at.symm, same.membership_id.trans kin.membership_id.symm, ?_, ?_, ?_⟩
    · rw [revoked]
      exact kin.revoked open_row
    · -- the live row of the family is the one that is replaced
      by_contra still
      rw [Bool.not_eq_false] at still
      cases kin.one_live live (same.live still)
      simp [replace, BrowserSession.live] at still
    · rw [same.generation]
      exact Nat.lt_succ_of_le (kin.newest live)

end

/-! ### Runs -/

section
variable {digests : Digests} {rows : List BrowserSession}

/-- A due rotation is that of a live row. -/
theorem live_of_rotation {identity : Identity} {csrf_token new_token : Text} {now : Int} {row : BrowserSession} {decided : Option Text}
    (is : rotation_due digests identity csrf_token now new_token row = some decided) : is_active now row = true ∧ row.live = true := by
  unfold rotation_due at is
  split at is
  · cases is
  · rename_i valid
    simp only [Bool.or_eq_true, Bool.not_eq_true', not_or, Bool.not_eq_false] at valid
    have active := valid.1.2
    refine ⟨active, ?_⟩
    simp only [is_active, Bool.and_eq_true] at active
    exact active.1.1.1.1

theorem rotate_some {directory : Directory} {token csrf_token : Text} {now : Int} {fresh : Fresh} {found : List BrowserSession × Option IssuedSession}
    (ran : rotate_browser_session digests directory token csrf_token now fresh rows = some found) :
    ∃ row ∈ rows, row.live = true ∧ ∃ decided, found = rotated digests fresh now rows row decided := by
  rw [rotate_eq] at ran
  split at ran
  · cases ran
  · obtain ⟨row, is_row, ran⟩ := Option.bind_eq_some_iff.mp ran
    obtain ⟨identity, _, ran⟩ := Option.bind_eq_some_iff.mp ran
    obtain ⟨decided, is, rfl⟩ := Option.map_eq_some_iff.mp ran
    exact ⟨row, List.mem_of_find?_eq_some is_row, (live_of_rotation is).2, decided, rfl⟩

section
variable {directory : Directory} {membership_id id : Nat} {now : Int} {token csrf_token family_hash new_token : Text}
  {after : List BrowserSession} {issued : IssuedSession}

theorem perform_issue (lineage : Lineage after)
    (ran : issue_browser_session digests directory membership_id now ⟨id, token, family_hash⟩ rows = some (after, issued)) :
    perform digests id rows (.issue now directory membership_id token family_hash) =
      (after, .issued (some (credentials issued)) (evicted membership_id now rows)) := by
  simp only [perform, ran]
  exact if_pos (stores_of_lineage lineage)

theorem perform_no_issue (ran : issue_browser_session digests directory membership_id now ⟨id, token, family_hash⟩ rows = none) :
    perform digests id rows (.issue now directory membership_id token family_hash) = (rows, .issued none []) := by
  simp only [perform, ran]

theorem perform_rotate (lineage : Lineage after)
    (ran : rotate_browser_session digests directory token csrf_token now ⟨id, new_token, []⟩ rows = some (after, some issued)) :
    perform digests id rows (.rotate now directory token csrf_token new_token) = (after, .rotated (some (some (credentials issued)))) := by
  simp only [perform, ran]
  exact if_pos (stores_of_lineage lineage)

theorem perform_not_due
    (ran : rotate_browser_session digests directory token csrf_token now ⟨id, new_token, []⟩ rows = some (after, none)) :
    perform digests id rows (.rotate now directory token csrf_token new_token) = (after, .rotated (some none)) := by
  simp only [perform, ran]

theorem perform_no_rotate (ran : rotate_browser_session digests directory token csrf_token now ⟨id, new_token, []⟩ rows = none) :
    perform digests id rows (.rotate now directory token csrf_token new_token) = (rows, .rotated none) := by
  simp only [perform, ran]

end

theorem lineage_perform {id : Nat} {request : Request} (lineage : Lineage rows) (greater : ∀ row ∈ rows, row.id < id)
    (fresh : secret digests rows request = true) : Lineage (perform digests id rows request).1 := by
  cases request with
  | issue now directory membership_id token family_hash =>
    simp only [secret, Bool.and_eq_true, decide_eq_true_eq] at fresh
    cases ran : issue_browser_session digests directory membership_id now ⟨id, token, family_hash⟩ rows with
    | none =>
      rw [perform_no_issue ran]
      exact lineage
    | some found =>
      have after := lineage_issue lineage greater fresh.1 fresh.2 ran
      rw [perform_issue after ran]
      exact after
  | resolve now directory token expected touch => exact lineage_resolve lineage token expected touch now
  | rotate now directory token csrf_token new_token =>
    simp only [secret, decide_eq_true_eq] at fresh
    cases ran : rotate_browser_session digests directory token csrf_token now ⟨id, new_token, []⟩ rows with
    | none =>
      rw [perform_no_rotate ran]
      exact lineage
    | some found =>
      obtain ⟨row, member, live, decided, rfl⟩ := rotate_some ran
      cases decided with
      | none =>
        rw [perform_not_due ran]
        exact lineage
      | some csrf =>
        have after : Lineage (rotated digests ⟨id, new_token, []⟩ now rows row (some csrf)).1 := lineage_rotated lineage greater fresh member live
        rw [perform_rotate after ran]
        exact after

theorem lineage_transact {rows' : List BrowserSession} {transaction : Nat × Transaction} (lineage : Lineage rows)
    (stepped : transact digests rows transaction = some rows') : Lineage rows' := by
  unfold transact at stepped
  split at stepped
  · split at stepped
    · rename_i given
      cases stepped
      simp only [Bool.and_eq_true, List.all_eq_true, decide_eq_true_eq] at given
      exact lineage_perform lineage given.1 given.2
    · cases stepped
  · cases stepped
    exact lineage_revoke lineage _ _
  · cases stepped
    exact lineage_revoke_membership lineage _ _
  · cases stepped
    exact lineage_filter lineage _

theorem empty_lineage : Lineage [] := ⟨List.nodup_nil, List.Pairwise.nil, fun _ none => by cases none⟩

/-- Every table that transactions lead to keeps its families together. -/
theorem lineage_run {history : List (Nat × Transaction)} (ran : run (transact digests) [] history = some rows) : Lineage rows :=
  invariant_run Lineage (fun _ _ _ lineage stepped => lineage_transact lineage stepped) empty_lineage ran

end

end RedDock.SessionTables
