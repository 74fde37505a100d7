import RedDock.Sessions
import RedDock.Fallible

/-!
# Session families

Over every sequence of transactions on the session rows: one live row for a
family, no way back for a token that was replaced or revoked, a bounded number
of active sessions, and one expiry for a family.
-/
set_option autoImplicit false
namespace RedDock.SessionFamilies
open Text Sessions Runs

variable {digests : Digests} {directory : Directory}

/-! ### Rows that fade -/

/-- A row after a transaction at a moment: the same session, live only if it
    was, and active only if it was. -/
structure Fades (now : Int) (row' row : BrowserSession) : Prop where
  token_hash : row'.token_hash = row.token_hash
  family_hash : row'.family_hash = row.family_hash
  membership_id : row'.membership_id = row.membership_id
  expires_at : row'.expires_at = row.expires_at
  token_issued_at : row'.token_issued_at = row.token_issued_at
  last_seen_at : row'.last_seen_at = row.last_seen_at ∨ row'.last_seen_at = now
  live : row'.live = true → row.live = true
  active : is_active now row' = true → is_active now row = true

theorem Fades.refl (now : Int) (row : BrowserSession) : Fades now row row :=
  ⟨rfl, rfl, rfl, rfl, rfl, Or.inl rfl, id, id⟩

theorem Fades.trans {now : Int} {a b c : BrowserSession} (first : Fades now a b) (second : Fades now b c) : Fades now a c where
  token_hash := first.token_hash.trans second.token_hash
  family_hash := first.family_hash.trans second.family_hash
  membership_id := first.membership_id.trans second.membership_id
  expires_at := first.expires_at.trans second.expires_at
  token_issued_at := first.token_issued_at.trans second.token_issued_at
  last_seen_at := by
    rcases first.last_seen_at with same | seen
    · rw [same]
      exact second.last_seen_at
    · exact Or.inr seen
  live := fun live => second.live (first.live live)
  active := fun active => second.active (first.active active)

/-- Some of the rows, faded. -/
def Evolves (now : Int) (rows rows' : List BrowserSession) : Prop := List.SublistForall₂ (Fades now) rows' rows

theorem evolves_map {now : Int} {f : BrowserSession → BrowserSession} {rows : List BrowserSession}
    (fades : ∀ row ∈ rows, Fades now (f row) row) : Evolves now rows (rows.map f) := by
  refine List.sublistForall₂_iff.mpr ⟨rows, ?_, List.Sublist.refl rows⟩
  rw [List.forall₂_map_left_iff]
  exact List.forall₂_same.mpr fades

theorem evolves_filter (now : Int) (keep : BrowserSession → Bool) (rows : List BrowserSession) :
    Evolves now rows (rows.filter keep) :=
  List.sublistForall₂_iff.mpr ⟨_, List.forall₂_same.mpr fun row _ => Fades.refl now row, List.filter_sublist⟩

theorem Evolves.refl (now : Int) (rows : List BrowserSession) : Evolves now rows rows :=
  List.sublistForall₂_iff.mpr ⟨rows, List.forall₂_same.mpr fun row _ => Fades.refl now row, List.Sublist.refl rows⟩

theorem Evolves.trans {now : Int} {a b c : List BrowserSession} (first : Evolves now a b) (second : Evolves now b c) :
    Evolves now a c := by
  have transitive : IsTrans BrowserSession (Fades now) := ⟨fun _ _ _ => Fades.trans⟩
  exact List.SublistForall₂.is_trans.trans _ _ _ second first

theorem Evolves.mem {now : Int} {rows rows' : List BrowserSession} (evolves : Evolves now rows rows') {row' : BrowserSession}
    (member : row' ∈ rows') : ∃ row ∈ rows, Fades now row' row := by
  obtain ⟨kept, fades, sub⟩ := List.sublistForall₂_iff.mp evolves
  obtain ⟨row, inside, holds⟩ := Fallible.forall₂_left fades member
  exact ⟨row, sub.subset inside, holds⟩

theorem Evolves.count {now : Int} {rows rows' : List BrowserSession} (evolves : Evolves now rows rows') (membership_id : Nat) :
    active_count now membership_id rows' ≤ active_count now membership_id rows := by
  obtain ⟨kept, fades, sub⟩ := List.sublistForall₂_iff.mp evolves
  refine le_trans ?_ sub.countP_le
  clear sub evolves
  induction fades with
  | nil => exact le_rfl
  | @cons row' row rows' kept here _ ih =>
    have fewer : (row'.membership_id = membership_id && is_active now row') = true →
        (row.membership_id = membership_id && is_active now row) = true := by
      simp only [Bool.and_eq_true, decide_eq_true_eq, here.membership_id]
      exact fun active => ⟨active.1, here.active active.2⟩
    have rest : active_count now membership_id rows' ≤ kept.countP fun row => row.membership_id = membership_id && is_active now row :=
      ih
    simp only [active_count, List.countP_cons] at rest ⊢
    by_cases active : (row'.membership_id = membership_id && is_active now row') = true
    · rw [if_pos active, if_pos (fewer active)]
      omega
    · rw [if_neg active]
      omega

theorem Evolves.token_hashes {now : Int} {rows rows' : List BrowserSession} (evolves : Evolves now rows rows') :
    (rows'.map (·.token_hash)).Sublist (rows.map (·.token_hash)) := by
  obtain ⟨kept, fades, sub⟩ := List.sublistForall₂_iff.mp evolves
  rw [← Fallible.forall₂_map_eq (f := (·.token_hash)) (g := (·.token_hash)) (fun _ _ here => here.token_hash.symm) fades]
  exact sub.map _

/-! ### What one transaction does -/

theorem fades_revoked (family_hash : Text) (now : Int) (row : BrowserSession) : Fades now
    (if row.family_hash = family_hash ∧ row.revoked_at = none then { row with revoked_at := some now } else row) row := by
  split
  · exact ⟨rfl, rfl, rfl, rfl, rfl, Or.inl rfl, by simp [BrowserSession.live], by simp [is_active, BrowserSession.live]⟩
  · exact Fades.refl now row

theorem revoke_family_evolves (family_hash : Text) (now : Int) (rows : List BrowserSession) :
    Evolves now rows (revoke_family family_hash now rows) :=
  evolves_map fun row _ => fades_revoked family_hash now row

/-- A family is closed by its revocation. -/
theorem revoke_family_closes {family_hash : Text} {now : Int} {rows : List BrowserSession} {row : BrowserSession}
    (member : row ∈ revoke_family family_hash now rows) (family : row.family_hash = family_hash) : row.live = false := by
  obtain ⟨old, _, rfl⟩ := List.mem_map.mp member
  by_cases open_row : old.family_hash = family_hash ∧ old.revoked_at = none
  · simp [open_row, BrowserSession.live]
  · rw [if_neg open_row] at family ⊢
    have revoked : old.revoked_at ≠ none := fun none => open_row ⟨family, none⟩
    cases is : old.revoked_at with
    | none => exact absurd is revoked
    | some moment => simp [BrowserSession.live, is]

theorem foldl_revoke_evolves (sessions : List BrowserSession) (now : Int) (rows : List BrowserSession) :
    Evolves now rows (sessions.foldl (fun rows session => revoke_family session.family_hash now rows) rows) := by
  induction sessions generalizing rows with
  | nil => exact Evolves.refl now rows
  | cons session sessions ih => exact (revoke_family_evolves _ now rows).trans (ih _)

/-- The revocations of several families close each of them. -/
theorem foldl_revoke_closes {sessions : List BrowserSession} {now : Int} {rows : List BrowserSession} {row session : BrowserSession}
    (listed : session ∈ sessions)
    (member : row ∈ sessions.foldl (fun rows session => revoke_family session.family_hash now rows) rows)
    (family : row.family_hash = session.family_hash) : row.live = false := by
  induction sessions generalizing rows with
  | nil => simp at listed
  | cons first sessions ih =>
    rcases List.mem_cons.mp listed with rfl | later
    · obtain ⟨old, inside, fades⟩ := (foldl_revoke_evolves sessions now _).mem member
      have closed := revoke_family_closes inside (fades.family_hash ▸ family)
      by_contra live
      rw [Bool.not_eq_false] at live
      simp [fades.live live] at closed
    · exact ih later member

theorem touched_fades (session : BrowserSession) (now : Int) (row : BrowserSession) :
    Fades now (if touches session now row then { row with last_seen_at := now } else row) row := by
  by_cases touched : touches session now row = true
  · rw [if_pos touched]
    refine ⟨rfl, rfl, rfl, rfl, rfl, Or.inr rfl, id, fun active => ?_⟩
    simp only [touches, Bool.and_eq_true, decide_eq_true_eq] at touched
    simp only [is_active, Bool.and_eq_true, decide_eq_true_eq] at active ⊢
    obtain ⟨⟨⟨_, unexpired⟩, _⟩, _⟩ := touched
    refine ⟨⟨⟨⟨active.1.1.1.1, active.1.1.1.2⟩, ?_⟩, active.1.2⟩, ?_⟩ <;> omega
  · rw [if_neg touched]
    exact Fades.refl now row

theorem resolve_evolves (token : Text) (expected : Expected) (touch : Bool) (now : Int) (rows : List BrowserSession) :
    Evolves now rows (resolve_browser_session digests directory token expected touch now rows).1 := by
  unfold resolve_browser_session
  split
  · exact Evolves.refl now rows
  · split
    · exact Evolves.refl now rows
    · simp only
      split <;> exact evolves_map fun row _ => touched_fades _ now row

theorem revoke_evolves (token : Text) (now : Int) (rows : List BrowserSession) :
    Evolves now rows (revoke_browser_session digests directory token now rows).1 := by
  unfold revoke_browser_session
  split
  · exact Evolves.refl now rows
  · split
    · exact Evolves.refl now rows
    · split
      · exact revoke_family_evolves _ now rows
      · exact Evolves.refl now rows

theorem purge_evolves (now before : Int) (limit : Nat) (locked : List Nat) (rows : List BrowserSession) :
    Evolves now rows (purge_inactive_browser_sessions before limit locked rows) := evolves_filter now _ rows

/-! ### New rows -/

/-- Sessions beyond the limit are closed before another is added. -/
theorem overflowing_leaves (membership_id : Nat) (now : Int) (rows : List BrowserSession) :
    active_count now membership_id ((overflowing (active_sessions membership_id now rows)).foldl
      (fun rows session => revoke_family session.family_hash now rows) rows) < MAX_ACTIVE_SESSIONS_PER_MEMBERSHIP := by
  have perm : (active_sessions membership_id now rows).Perm (rows.filter (counts membership_id now)) :=
    List.perm_insertionSort _ _
  generalize listed : active_sessions membership_id now rows = active at perm ⊢
  have evolves := foldl_revoke_evolves (overflowing active) now rows
  -- what is still active counted before, and was not among the first
  have fewer : active_count now membership_id ((overflowing active).foldl
      (fun rows session => revoke_family session.family_hash now rows) rows) ≤
        rows.countP fun row => decide (row ∉ overflowing active) && counts membership_id now row := by
    obtain ⟨kept, fades, sub⟩ := List.sublistForall₂_iff.mp evolves
    refine le_trans ?_ sub.countP_le
    have closed : ∀ row session : BrowserSession, session ∈ overflowing active →
        row ∈ (overflowing active).foldl (fun rows session => revoke_family session.family_hash now rows) rows →
          row.family_hash = session.family_hash → row.live = false :=
      fun _ _ => foldl_revoke_closes
    generalize (overflowing active).foldl (fun rows session => revoke_family session.family_hash now rows) rows = after at closed fades
    clear sub evolves
    induction fades with
    | nil => exact le_rfl
    | @cons row' row after kept here _ ih =>
      have rest := ih fun row session listed member => closed row session listed (List.mem_cons_of_mem _ member)
      have counted : (row'.membership_id = membership_id && is_active now row') = true →
          (decide (row ∉ overflowing active) && counts membership_id now row) = true := by
        intro is
        simp only [Bool.and_eq_true, decide_eq_true_eq] at is
        have before := here.active is.2
        simp only [is_active, Bool.and_eq_true, decide_eq_true_eq] at before
        have stays : row ∉ overflowing active := by
          intro stale
          have dead := closed row' row stale (by simp) here.family_hash
          have live := is.2
          simp [is_active, dead] at live
        simp only [counts, Bool.and_eq_true, decide_eq_true_eq]
        refine ⟨stays, ⟨⟨here.membership_id ▸ is.1, before.1.1.1.1⟩, before.1.2⟩, ?_⟩
        omega
      simp only [active_count, List.countP_cons] at rest ⊢
      by_cases active_row : (row'.membership_id = membership_id && is_active now row') = true
      · rw [if_pos active_row, if_pos (counted active_row)]
        omega
      · rw [if_neg active_row]
        omega
  refine lt_of_le_of_lt fewer ?_
  rw [← List.countP_filter, ← perm.countP_eq]
  have split := List.take_append_drop (active.length + 1 - MAX_ACTIVE_SESSIONS_PER_MEMBERSHIP) active
  rw [← congrArg (List.countP fun row => decide (row ∉ overflowing active)) split, List.countP_append]
  have none_taken : (active.take (active.length + 1 - MAX_ACTIVE_SESSIONS_PER_MEMBERSHIP)).countP
      (fun row => decide (row ∉ overflowing active)) = 0 := by
    rw [List.countP_eq_zero]
    intro row member
    have inside : row ∈ overflowing active := member
    simp [inside]
  have dropped := List.countP_le_length (p := fun row => decide (row ∉ overflowing active))
    (l := active.drop (active.length + 1 - MAX_ACTIVE_SESSIONS_PER_MEMBERSHIP))
  rw [List.length_drop] at dropped
  have positive : 0 < MAX_ACTIVE_SESSIONS_PER_MEMBERSHIP := by decide
  omega

/-- A new row of a membership, just issued. -/
structure New (digests : Digests) (now : Int) (fresh : Fresh) (row : BrowserSession) : Prop where
  token_hash : row.token_hash = digests.digest fresh.token
  token_issued_at : row.token_issued_at = now
  last_seen_at : row.last_seen_at = now
  live : row.live = true

theorem issue_ok {membership_id : Nat} {now : Int} {fresh : Fresh} {rows rows' : List BrowserSession} {issued : IssuedSession}
    (ran : issue_browser_session digests directory membership_id now fresh rows = some (rows', issued)) :
    ∃ kept record, rows' = kept ++ [record] ∧ Evolves now rows kept ∧ New digests now fresh record ∧
      record.family_hash = fresh.family_hash ∧ record.membership_id = membership_id ∧ record.expires_at = issued.expires_at ∧
        active_count now membership_id kept < MAX_ACTIVE_SESSIONS_PER_MEMBERSHIP := by
  unfold issue_browser_session at ran
  obtain ⟨identity, _, ran⟩ := Option.bind_eq_some_iff.mp ran
  obtain ⟨context, _, ran⟩ := Option.bind_eq_some_iff.mp ran
  obtain ⟨csrf_token, _, ran⟩ := Option.bind_eq_some_iff.mp ran
  cases ran
  exact ⟨_, _, rfl, foldl_revoke_evolves _ _ _, ⟨rfl, rfl, rfl, rfl⟩, rfl, rfl, rfl, overflowing_leaves membership_id now rows⟩

/-- The row of a token, replaced. -/
def replace (token_hash : Text) (now : Int) (row : BrowserSession) : BrowserSession :=
  if row.token_hash = token_hash then { row with replaced_at := some now } else row

theorem replace_fades (token_hash : Text) (now : Int) (row : BrowserSession) : Fades now (replace token_hash now row) row := by
  unfold replace
  split
  · exact ⟨rfl, rfl, rfl, rfl, rfl, Or.inl rfl, by simp [BrowserSession.live], by simp [is_active, BrowserSession.live]⟩
  · exact Fades.refl now row

theorem locked_family_ok {token_hash : Text} {rows family : List BrowserSession} {presented : BrowserSession} {identity : Identity}
    (locked : locked_family directory token_hash rows = some (presented, identity, family)) :
    presented ∈ rows ∧ presented.token_hash = token_hash ∧ family = rows.filter fun row => row.family_hash = presented.family_hash := by
  unfold locked_family at locked
  obtain ⟨locator, _, locked⟩ := Option.bind_eq_some_iff.mp locked
  obtain ⟨_, _, locked⟩ := Option.bind_eq_some_iff.mp locked
  obtain ⟨row, found, locked⟩ := Option.bind_eq_some_iff.mp locked
  cases locked
  have member := List.mem_of_find?_eq_some found
  have same : presented.family_hash = locator.family_hash := by simpa using (List.mem_filter.mp member).2
  exact ⟨(List.mem_filter.mp member).1, by simpa using List.find?_some found, by rw [same]⟩

theorem rotate_ok {token csrf_token : Text} {now : Int} {fresh : Fresh} {rows rows' : List BrowserSession} {issued : IssuedSession}
    (ran : rotate_browser_session digests directory token csrf_token now fresh rows = some (rows', some issued)) :
    ∃ current ∈ rows, is_active now current = true ∧ ∃ successor,
      rows' = rows.map (replace current.token_hash now) ++ [successor] ∧ New digests now fresh successor ∧
        successor.family_hash = current.family_hash ∧ successor.membership_id = current.membership_id ∧
          successor.expires_at = current.expires_at := by
  unfold rotate_browser_session at ran
  split at ran
  · simp at ran
  obtain ⟨⟨current, identity, family⟩, locked, ran⟩ := Option.bind_eq_some_iff.mp ran
  obtain ⟨context, _, ran⟩ := Option.bind_eq_some_iff.mp ran
  split at ran
  · simp at ran
  rename_i valid
  split at ran
  · simp at ran
  split at ran
  · simp at ran
  obtain ⟨new_csrf, _, ran⟩ := Option.bind_eq_some_iff.mp ran
  cases ran
  simp only [Bool.or_eq_true, Bool.not_eq_true', not_or, Bool.not_eq_false] at valid
  exact ⟨current, (locked_family_ok locked).1, valid.1, _, rfl, ⟨rfl, rfl, rfl, rfl⟩, rfl, rfl, rfl⟩

/-- An active row is lost where another takes its place. -/
theorem replace_count {current : BrowserSession} {now : Int} {rows : List BrowserSession} (member : current ∈ rows)
    (active : is_active now current = true) : active_count now current.membership_id (rows.map (replace current.token_hash now)) <
      active_count now current.membership_id rows := by
  induction rows with
  | nil => simp at member
  | cons row rows ih =>
    have fades : Evolves now rows (rows.map _) := evolves_map fun row _ => replace_fades current.token_hash now row
    have rest := fades.count current.membership_id
    simp only [active_count, List.map_cons, List.countP_cons] at rest ih ⊢
    rcases List.mem_cons.mp member with rfl | later
    · have lost : is_active now (replace current.token_hash now current) = false := by
        simp [replace, is_active, BrowserSession.live]
      simp only [lost, Bool.and_false, Bool.false_eq_true, if_false, active, Bool.and_true, decide_true, if_true]
      omega
    · have less := ih later
      have fades := replace_fades current.token_hash now row
      by_cases still : ((replace current.token_hash now row).membership_id = current.membership_id &&
          is_active now (replace current.token_hash now row)) = true
      · have before : (row.membership_id = current.membership_id && is_active now row) = true := by
          simp only [Bool.and_eq_true, decide_eq_true_eq] at still ⊢
          exact ⟨fades.membership_id ▸ still.1, fades.active still.2⟩
        rw [if_pos still, if_pos before]
        omega
      · rw [if_neg still]
        omega

/-! ### The invariant -/

structure Inv (w : World) : Prop where
  unique : (w.rows.map (·.token_hash)).Nodup
  used : ∀ row ∈ w.rows, row.token_hash ∈ w.used
  known : ∀ row ∈ w.rows, (row.family_hash, row.expires_at) ∈ w.families
  families : (w.families.map (·.1)).Nodup
  one_live : ∀ a ∈ w.rows, ∀ b ∈ w.rows, a.family_hash = b.family_hash → a.live = true → b.live = true → a = b
  stamped : ∀ row ∈ w.rows, row.token_issued_at ≤ w.clock ∧ row.last_seen_at ≤ w.clock

/-- What later rows are to earlier ones: the same token, live only if it was,
    or a token that is new. -/
structure Later (w w' : World) : Prop where
  used : ∀ token_hash ∈ w.used, token_hash ∈ w'.used
  families : ∀ family ∈ w.families, family ∈ w'.families
  rows : ∀ row' ∈ w'.rows, (∃ row ∈ w.rows, row'.token_hash = row.token_hash ∧ (row'.live = true → row.live = true)) ∨
    row'.token_hash ∉ w.used

theorem Later.refl (w : World) : Later w w := ⟨fun _ => id, fun _ => id, fun row member => Or.inl ⟨row, member, rfl, id⟩⟩

theorem Later.trans {a b c : World} (first : Later a b) (second : Later b c) : Later a c where
  used token_hash known := second.used token_hash (first.used token_hash known)
  families family known := second.families family (first.families family known)
  rows row'' member := by
    rcases second.rows row'' member with ⟨row', inside, same, live⟩ | fresh
    · rcases first.rows row' inside with ⟨row, before, is, lived⟩ | fresh
      · exact Or.inl ⟨row, before, same.trans is, fun now_live => lived (live now_live)⟩
      · exact Or.inr (same ▸ fresh)
    · exact Or.inr fun known => fresh (first.used _ known)

theorem same_of_token {w : World} (inv : Inv w) {a b : BrowserSession} (first : a ∈ w.rows) (second : b ∈ w.rows)
    (same : a.token_hash = b.token_hash) : a = b := List.inj_on_of_nodup_map inv.unique first second same

/-- Rows that only fade keep the invariant. -/
theorem inv_evolves {w w' : World} {now : Int} (inv : Inv w) (later : w.clock ≤ now) (evolves : Evolves now w.rows w'.rows)
    (clock : now = w'.clock) (used : w'.used = w.used) (families : w'.families = w.families) : Inv w' ∧ Later w w' := by
  have origin : ∀ row' ∈ w'.rows, ∃ row ∈ w.rows, Fades now row' row := fun _ member => evolves.mem member
  have unique := inv.unique.sublist evolves.token_hashes
  refine ⟨⟨unique, ?_, ?_, by rw [families]; exact inv.families, ?_, ?_⟩, ?_⟩
  · intro row' member
    obtain ⟨row, inside, fades⟩ := origin row' member
    rw [used, fades.token_hash]
    exact inv.used row inside
  · intro row' member
    obtain ⟨row, inside, fades⟩ := origin row' member
    rw [families, fades.family_hash, fades.expires_at]
    exact inv.known row inside
  · intro a' first b' second family live live'
    obtain ⟨a, inside, fades⟩ := origin a' first
    obtain ⟨b, within, fades'⟩ := origin b' second
    have same : a = b := by
      refine inv.one_live a inside b within ?_ (fades.live live) (fades'.live live')
      rw [← fades.family_hash, ← fades'.family_hash, family]
    refine List.inj_on_of_nodup_map unique first second ?_
    rw [fades.token_hash, fades'.token_hash, same]
  · intro row' member
    obtain ⟨row, inside, fades⟩ := origin row' member
    have stamped := inv.stamped row inside
    rw [fades.token_issued_at, ← clock]
    refine ⟨by omega, ?_⟩
    rcases fades.last_seen_at with seen | seen <;> omega
  · refine ⟨fun _ known => used ▸ known, fun _ known => families ▸ known, fun row' member => Or.inl ?_⟩
    obtain ⟨row, inside, fades⟩ := origin row' member
    exact ⟨row, inside, fades.token_hash, fades.live⟩

/-- A new row keeps it, where its token is new and no row of its family is live. -/
theorem inv_added {w : World} (w' : World) {digests : Digests} {fresh : Fresh} {record : BrowserSession} (inv : Inv w)
    (added : w'.rows = w.rows ++ [record]) (new : New digests w.clock fresh record) (clock : w'.clock = w.clock)
    (used : w'.used = digests.digest fresh.token :: w.used) (unused : digests.digest fresh.token ∉ w.used)
    (known : (record.family_hash, record.expires_at) ∈ w'.families) (families : (w'.families.map (·.1)).Nodup)
    (kept : ∀ family ∈ w.families, family ∈ w'.families)
    (closed : ∀ row ∈ w.rows, row.family_hash = record.family_hash → row.live = false) : Inv w' ∧ Later w w' := by
  have fresh_hash : ∀ row ∈ w.rows, row.token_hash ≠ record.token_hash := by
    intro row member same
    rw [new.token_hash] at same
    exact unused (same ▸ inv.used row member)
  have cases_row : ∀ row ∈ w'.rows, row ∈ w.rows ∨ row = record := by
    intro row member
    simpa [added] using member
  refine ⟨⟨?_, ?_, ?_, families, ?_, ?_⟩, ⟨fun hash member => by simp [used, member], kept, ?_⟩⟩
  · rw [added, List.map_append, List.nodup_append]
    refine ⟨inv.unique, by simp, ?_⟩
    intro hash member other single
    obtain ⟨row, inside, rfl⟩ := List.mem_map.mp member
    rw [List.map_singleton, List.mem_singleton] at single
    rw [single]
    exact fresh_hash row inside
  · intro row member
    rcases cases_row row member with old | rfl
    · simp [used, inv.used row old]
    · simp [used, new.token_hash]
  · intro row member
    rcases cases_row row member with old | rfl
    · exact kept _ (inv.known row old)
    · exact known
  · intro a first b second family live live'
    rcases cases_row a first with old | rfl
    · rcases cases_row b second with old' | rfl
      · exact inv.one_live a old b old' family live live'
      · simp [closed a old family] at live
    · rcases cases_row b second with old' | rfl
      · simp [closed b old' family.symm] at live'
      · rfl
  · intro row member
    rw [clock]
    rcases cases_row row member with old | rfl
    · exact inv.stamped row old
    · rw [new.token_issued_at, new.last_seen_at]
      exact ⟨le_rfl, le_rfl⟩
  · intro row' member
    rcases cases_row row' member with old | rfl
    · exact Or.inl ⟨row', old, rfl, id⟩
    · exact Or.inr (new.token_hash ▸ unused)

/-- The sessions that other moments and other transactions leave active. -/
def CountKept (w w' : World) : Prop :=
  ∀ membership_id, active_count w'.clock membership_id w'.rows ≤ active_count w'.clock membership_id w.rows

/-- An active session was active before. -/
theorem active_count_earlier {w : World} (inv : Inv w) {now : Int} (later : w.clock ≤ now) (membership_id : Nat) :
    active_count now membership_id w.rows ≤ active_count w.clock membership_id w.rows := by
  refine List.countP_mono_left fun row member active => ?_
  have stamped := inv.stamped row member
  simp only [Bool.and_eq_true, is_active, decide_eq_true_eq] at active ⊢
  refine ⟨active.1, ⟨⟨⟨active.2.1.1.1.1, ?_⟩, ?_⟩, ?_⟩, ?_⟩ <;> omega

/-- What one transaction keeps, and what it does to the number of sessions. -/
structure Stepped (action : Action) (w w' : World) : Prop where
  inv : Inv w'
  later : Later w w'
  clock : w.clock ≤ w'.clock
  counts : (∀ now directory membership_id token family_hash, action ≠ .issue now directory membership_id token family_hash) →
    CountKept w w'
  issued : ∀ now directory membership_id token family_hash, action = .issue now directory membership_id token family_hash →
    ∀ other, active_count w'.clock other w'.rows ≤ active_count w'.clock other w.rows ∨
      active_count w'.clock other w'.rows ≤ MAX_ACTIVE_SESSIONS_PER_MEMBERSHIP

/-- A transaction under which rows only fade. -/
theorem stepped_evolves {action : Action} {w w' : World} (inv : Inv w) (later : w.clock ≤ w'.clock)
    (evolves : Evolves w'.clock w.rows w'.rows) (used : w'.used = w.used) (families : w'.families = w.families) :
    Stepped action w w' := by
  obtain ⟨after, history⟩ := inv_evolves inv later evolves rfl used families
  exact ⟨after, history, later, fun _ => evolves.count, fun _ _ _ _ _ _ => fun other => Or.inl (evolves.count other)⟩

theorem stepped_issue {w : World} {now : Int} {membership_id : Nat} {token family_hash : Text}
    {rows : List BrowserSession} {issued : IssuedSession} (inv : Inv w) (later : w.clock ≤ now)
    (unused : digests.digest token ∉ w.used) (new_family : family_hash ∉ w.families.map (·.1))
    (ran : issue_browser_session digests directory membership_id now ⟨w.next_id, token, family_hash⟩ w.rows = some (rows, issued)) :
    Stepped (.issue now directory membership_id token family_hash) w {
      rows := rows
      clock := now
      next_id := w.next_id + 1
      used := digests.digest token :: w.used
      families := (family_hash, issued.expires_at) :: w.families } := by
  obtain ⟨kept, record, rfl, evolves, new, family, member, expires, few⟩ := issue_ok ran
  have faded : Inv { w with rows := kept, clock := now } ∧ Later w { w with rows := kept, clock := now } :=
    inv_evolves inv later evolves rfl rfl rfl
  obtain ⟨inside, before⟩ := faded
  have absent : ∀ row ∈ kept, row.family_hash ≠ record.family_hash := by
    intro row listed same
    rw [family] at same
    exact new_family (List.mem_map.mpr ⟨_, inside.known row listed, same⟩)
  have added := inv_added {
      rows := kept ++ [record]
      clock := now
      next_id := w.next_id + 1
      used := digests.digest token :: w.used
      families := (family_hash, issued.expires_at) :: w.families } inside rfl new rfl rfl unused
    (by simp [family, expires]) (List.nodup_cons.mpr ⟨new_family, inv.families⟩) (fun _ known => List.mem_cons_of_mem _ known)
    (fun row listed same => absurd same (absent row listed))
  refine ⟨added.1, before.trans added.2, later, fun other => absurd rfl (other _ _ _ _ _), ?_⟩
  rintro _ _ _ _ _ _ other
  have old := evolves.count other
  simp only [active_count, List.countP_append, List.countP_singleton] at old few ⊢
  by_cases own : record.membership_id = other
  · right
    rw [← own, member]
    split <;> omega
  · left
    simp [own]
    exact old

theorem stepped_rotate {w : World} {now : Int} {token csrf_token new_token : Text} {rows : List BrowserSession}
    {issued : IssuedSession} (inv : Inv w) (later : w.clock ≤ now) (unused : digests.digest new_token ∉ w.used)
    (ran : rotate_browser_session digests directory token csrf_token now ⟨w.next_id, new_token, []⟩ w.rows =
      some (rows, some issued)) : Stepped (.rotate now directory token csrf_token new_token) w
        { w with rows := rows, clock := now, next_id := w.next_id + 1, used := digests.digest new_token :: w.used } := by
  obtain ⟨current, member, active, successor, rfl, new, family, owner, expires⟩ := rotate_ok ran
  have evolves : Evolves now w.rows (w.rows.map _) := evolves_map fun row _ => replace_fades current.token_hash now row
  have faded : Inv { w with rows := w.rows.map (replace current.token_hash now), clock := now } ∧
      Later w { w with rows := w.rows.map (replace current.token_hash now), clock := now } :=
    inv_evolves inv later evolves rfl rfl rfl
  obtain ⟨inside, before⟩ := faded
  have live : current.live = true := by
    simp only [is_active, Bool.and_eq_true] at active
    exact active.1.1.1.1
  have closed : ∀ row ∈ w.rows.map (replace current.token_hash now), row.family_hash = successor.family_hash →
      row.live = false := by
    intro row listed same
    obtain ⟨old, within, rfl⟩ := List.mem_map.mp listed
    have fades := replace_fades current.token_hash now old
    by_contra still
    rw [Bool.not_eq_false] at still
    have is : old = current :=
      inv.one_live old within current member (by rw [← fades.family_hash, same, family]) (fades.live still) live
    rw [is] at still
    simp [replace, BrowserSession.live] at still
  have added := inv_added
    { w with
      rows := w.rows.map (replace current.token_hash now) ++ [successor]
      clock := now
      next_id := w.next_id + 1
      used := digests.digest new_token :: w.used } inside rfl new rfl rfl unused
    (by rw [family, expires]; exact inv.known current member) inv.families (fun _ known => known) closed
  refine ⟨added.1, before.trans added.2, later, ?_, fun _ _ _ _ _ issue => by simp at issue⟩
  intro _ other
  have old := evolves.count other
  simp only [active_count, List.countP_append, List.countP_singleton] at old ⊢
  by_cases own : successor.membership_id = other
  · have fewer := replace_count member active
    rw [← owner, own] at fewer
    simp only [active_count] at fewer
    split <;> omega
  · simpa [own, List.countP_map] using old

theorem step_stepped {w w' : World} {action : Action} (inv : Inv w) (stepped : step digests w action = some w') :
    Stepped action w w' := by
  cases action with
  | issue now directory membership_id token family_hash =>
    simp only [step] at stepped
    split at stepped
    · rename_i allowed
      obtain ⟨later, _, unused, new_family⟩ := allowed
      cases ran : issue_browser_session digests directory membership_id now ⟨w.next_id, token, family_hash⟩ w.rows with
      | none =>
        rw [ran] at stepped
        cases stepped
        exact stepped_evolves inv later (Evolves.refl _ _) rfl rfl
      | some result =>
        rw [ran] at stepped
        cases stepped
        exact stepped_issue inv later unused new_family ran
    · simp at stepped
  | resolve now directory token expected touch =>
    simp only [step] at stepped
    split at stepped
    · rename_i allowed
      cases stepped
      exact stepped_evolves inv allowed.1 (resolve_evolves _ _ _ _ _) rfl rfl
    · simp at stepped
  | rotate now directory token csrf_token new_token =>
    simp only [step] at stepped
    split at stepped
    · rename_i allowed
      obtain ⟨later, _, unused⟩ := allowed
      split at stepped
      · rename_i rows issued ran
        cases stepped
        exact stepped_rotate inv later unused ran
      · cases stepped
        exact stepped_evolves inv later (Evolves.refl _ _) rfl rfl
    · simp at stepped
  | revoke now directory token =>
    simp only [step] at stepped
    split at stepped
    · rename_i allowed
      cases stepped
      exact stepped_evolves inv allowed.1 (revoke_evolves _ _ _) rfl rfl
    · simp at stepped
  | purge before limit locked =>
    cases stepped
    exact stepped_evolves inv le_rfl (purge_evolves _ _ _ _ _) rfl rfl

/-! ### Whole runs -/

/-- No membership has more active sessions than the limit. -/
def Bounded (w : World) : Prop := ∀ membership_id, active_count w.clock membership_id w.rows ≤ MAX_ACTIVE_SESSIONS_PER_MEMBERSHIP

theorem stepped_bounded {action : Action} {w w' : World} (inv : Inv w) (bounded : Bounded w) (stepped : Stepped action w w') :
    Bounded w' := by
  intro membership_id
  have before := (active_count_earlier inv stepped.clock membership_id).trans (bounded membership_id)
  by_cases issue : ∃ now directory membership_id token family_hash, action = .issue now directory membership_id token family_hash
  · obtain ⟨now, directory, owner, token, family_hash, is⟩ := issue
    rcases stepped.issued now directory owner token family_hash is membership_id with kept | few
    · exact kept.trans before
    · exact few
  · refine (stepped.counts ?_ membership_id).trans before
    intro now directory owner token family_hash is
    exact issue ⟨now, directory, owner, token, family_hash, is⟩

theorem run_inv {w w' : World} {actions : List Action} (inv : Inv w) (bounded : Bounded w)
    (ran : run (step digests) w actions = some w') : Inv w' ∧ Bounded w' ∧ Later w w' :=
  invariant_run (fun later => Inv later ∧ Bounded later ∧ Later w later)
    (fun _ _ _ held done =>
      have stepped := step_stepped held.1 done
      ⟨stepped.inv, stepped_bounded held.1 held.2.1 stepped, held.2.2.trans stepped.later⟩)
    ⟨inv, bounded, Later.refl w⟩ ran

/-- A token that was replaced or revoked. -/
def Retired (digests : Digests) (w : World) (token : Text) : Prop :=
  ∃ row ∈ w.rows, row.token_hash = digests.digest token ∧ row.live = false

/-- A token whose rows are all dead authenticates nobody and rotates nothing. -/
structure Useless (digests : Digests) (w : World) (token : Text) : Prop where
  resolve : ∀ directory expected touch now, (resolve_browser_session digests directory token expected touch now w.rows).2 = none
  rotate : ∀ directory csrf_token now fresh, rotate_browser_session digests directory token csrf_token now fresh w.rows = none

theorem useless_of_dead {w : World} {token : Text}
    (dead : ∀ row ∈ w.rows, row.token_hash = digests.digest token → row.live = false) : Useless digests w token where
  resolve directory expected touch now := by
    have nothing : valid_row digests directory token expected now w.rows = none := by
      cases found : valid_row digests directory token expected now w.rows with
      | none => rfl
      | some result =>
        unfold valid_row at found
        split at found
        · simp at found
        obtain ⟨⟨row, identity⟩, located, found⟩ := Option.bind_eq_some_iff.mp found
        obtain ⟨context, _, found⟩ := Option.bind_eq_some_iff.mp found
        split at found
        · rename_i valid
          obtain ⟨other, listed, located⟩ := Option.bind_eq_some_iff.mp located
          obtain ⟨_, _, same⟩ := Option.bind_eq_some_iff.mp located
          cases same
          have lost := dead row (List.mem_of_find?_eq_some listed) (by simpa using List.find?_some listed)
          simp [is_active, lost] at valid
        · simp at found
    simp [resolve_browser_session, nothing]
  rotate directory csrf_token now fresh := by
    cases ran : rotate_browser_session digests directory token csrf_token now fresh w.rows with
    | none => rfl
    | some result =>
      unfold rotate_browser_session at ran
      split at ran
      · simp at ran
      obtain ⟨⟨current, identity, family⟩, locked, ran⟩ := Option.bind_eq_some_iff.mp ran
      obtain ⟨context, _, ran⟩ := Option.bind_eq_some_iff.mp ran
      obtain ⟨member, same, _⟩ := locked_family_ok locked
      have lost := dead current member same
      simp [is_active, lost] at ran

theorem useless_later {w w' : World} {token : Text} (inv : Inv w) (later : Later w w') (retired : Retired digests w token) :
    Useless digests w' token := by
  obtain ⟨row, member, hash, dead⟩ := retired
  refine useless_of_dead fun row' listed same => ?_
  rcases later.rows row' listed with ⟨old, inside, is, live⟩ | fresh
  · have one : old = row := same_of_token inv inside member (by rw [← is, same, hash])
    by_contra still
    rw [Bool.not_eq_false] at still
    have lived := live still
    rw [one, dead] at lived
    simp at lived
  · rw [same, ← hash] at fresh
    exact absurd (inv.used row member) fresh

/-- Revoking through a token closes the family of its row. -/
theorem revoke_closes {w w' : World} {now : Int} {token : Text} (inv : Inv w)
    (shaped : is_browser_session_token token = true) (stepped : step digests w (.revoke now directory token) = some w')
    {row : BrowserSession} (member : row ∈ w.rows) (hash : row.token_hash = digests.digest token) :
    ∀ row' ∈ w'.rows, row'.family_hash = row.family_hash → row'.live = false := by
  simp only [step] at stepped
  split at stepped
  · rename_i allowed
    cases stepped
    have located : w.rows.find? (·.token_hash = digests.digest token) = some row := by
      cases found : w.rows.find? (·.token_hash = digests.digest token) with
      | none =>
        have missing := List.find?_eq_none.mp found row member
        simp [hash] at missing
      | some other =>
        rw [same_of_token inv (List.mem_of_find?_eq_some found) member (by rw [hash]; simpa using List.find?_some found)]
    obtain ⟨identity, known⟩ := Option.isSome_iff_exists.mp (List.all_eq_true.mp allowed.2 row member)
    have family : row ∈ w.rows.filter fun other => other.family_hash = row.family_hash := by simp [member]
    have presented : (w.rows.filter fun other => other.family_hash = row.family_hash).find?
        (·.token_hash = digests.digest token) = some row := by
      cases found : (w.rows.filter fun other => other.family_hash = row.family_hash).find? (·.token_hash = digests.digest token) with
      | none =>
        have missing := List.find?_eq_none.mp found row family
        simp [hash] at missing
      | some other =>
        rw [same_of_token inv (List.mem_filter.mp (List.mem_of_find?_eq_some found)).1 member
          (by rw [hash]; simpa using List.find?_some found)]
    have locked : locked_family directory (digests.digest token) w.rows =
        some (row, identity, w.rows.filter fun other => other.family_hash = row.family_hash) := by
      rw [List.find?_filter] at presented
      simp only [Bool.decide_and, Bool.decide_eq_true] at presented
      simp [locked_family, located, known, presented]
    simp only [revoke_browser_session, shaped, Bool.not_true, Bool.false_eq_true, if_false, locked]
    split
    · exact fun row' listed same => revoke_family_closes listed same
    · rename_i closed
      intro row' listed same
      rw [Bool.not_eq_true, List.any_eq_false] at closed
      simpa using closed row' (List.mem_filter.mpr ⟨listed, by simpa using same⟩)
  · simp at stepped

theorem empty_inv : Inv {} := ⟨by simp, by simp, by simp, by simp, by simp, by simp⟩

/-- Session families over every sequence of transactions. -/
theorem session_families {actions more : List Action} {w w' : World} (ran : run (step digests) {} actions = some w)
    (ran' : run (step digests) w more = some w') :
    (∀ a ∈ w.rows, ∀ b ∈ w.rows, a.family_hash = b.family_hash → a.live = true → b.live = true → a = b) ∧
    (∀ token, Retired digests w token → Useless digests w' token) ∧
    (∀ now directory token next, is_browser_session_token token = true → step digests w (.revoke now directory token) = some next →
      ∀ row ∈ w.rows, row.token_hash = digests.digest token → ∀ row' ∈ next.rows, row'.family_hash = row.family_hash →
        row'.live = false) ∧
    (∀ action next, step digests w action = some next → Bounded next ∧
      ((∀ now directory membership_id token family_hash, action ≠ .issue now directory membership_id token family_hash) →
        ∀ membership_id, active_count next.clock membership_id next.rows ≤ active_count next.clock membership_id w.rows ∧
          active_count next.clock membership_id next.rows ≤ active_count w.clock membership_id w.rows)) ∧
    (∀ row ∈ w.rows, ∀ row' ∈ w'.rows, row'.family_hash = row.family_hash → row'.expires_at = row.expires_at) := by
  obtain ⟨inv, bounded, _⟩ := run_inv empty_inv (by simp [Bounded, active_count]) ran
  obtain ⟨inv', _, later⟩ := run_inv inv bounded ran'
  refine ⟨inv.one_live, fun token retired => useless_later inv later retired, ?_, ?_, ?_⟩
  · intro now directory token next shaped stepped row member hash
    exact revoke_closes inv shaped stepped member hash
  · intro action next taken
    have stepped := step_stepped inv taken
    refine ⟨stepped_bounded inv bounded stepped, fun other membership_id => ?_⟩
    have same := stepped.counts other membership_id
    exact ⟨same, same.trans (active_count_earlier inv stepped.clock membership_id)⟩
  · intro row member row' member' same
    have first := later.families _ (inv.known row member)
    have second := inv'.known row' member'
    rw [same] at second
    exact (Prod.mk.inj (List.inj_on_of_nodup_map inv'.families second first rfl)).2

def firstToken : Text := List.replicate 43 'A'
def secondToken : Text := List.replicate 43 'B'

/-- The digests of two tokens. -/
def tokenDigests : Digests where
  digest token :=
    if token = firstToken then "0f007385b6f9d4b7eeb2748605afe1a984a0a3bfa3f014d09e2a784ce9e5cd1a".toList
    else if token = secondToken then "412dc46cc9e3cb26f29f7c1415c556349af62904c5d15b0a2d8cfdc5cfa22b34".toList
    else if token = "PHhXvyrluvTnyJBQh2LwkQ1Liv5lWDGiZKm-JRoVkF0".toList then
      "36869f79906a073009b361da3938cc587147fec0e4ff3ab41fe056cfc7d40d70".toList
    else "2660f1b34a0e29e8128c53121608bb6265e5872a08ebd5b38bc802ee683e1134".toList
  csrf token :=
    if token = firstToken then "PHhXvyrluvTnyJBQh2LwkQ1Liv5lWDGiZKm-JRoVkF0".toList
    else "aPyfiPK2ubeVRAv8IPTIxkgbUG3VeQ6lXPpqZPuiidU".toList

/-- One active owner. -/
def oneOwner : Directory := fun _ => some {
  organization_id := 1
  user_id := 1
  membership_status := "active".toList
  user_status := "active".toList
  role := "owner".toList
  oidc_issuer := []
  organization_slug := [] }

/-- A session that is issued, touched and rotated. -/
def opening : List Action :=
  [.issue 0 oneOwner 1 firstToken "family".toList,
   .resolve (25 * 60 * SECOND) oneOwner firstToken {} true,
   .resolve (50 * 60 * SECOND) oneOwner firstToken {} true,
   .rotate SESSION_ROTATION_INTERVAL oneOwner firstToken (tokenDigests.csrf firstToken) secondToken]

/-- The replaced token is of no use, also after the revocation. -/
theorem session_families_rotated : ∃ w w', run (step tokenDigests) {} opening = some w ∧ w.rows.length = 2 ∧
    run (step tokenDigests) w [.revoke SESSION_ROTATION_INTERVAL oneOwner firstToken] = some w' ∧
      w'.rows.all (·.live = false) = true ∧ Useless tokenDigests w' firstToken := by
  have opened : (run (step tokenDigests) {} opening).map (fun w => (w.rows.length, w.rows.map (·.live))) =
      some (2, [false, true]) := by decide +kernel
  have closed : ((run (step tokenDigests) {} opening).bind fun w =>
      run (step tokenDigests) w [.revoke SESSION_ROTATION_INTERVAL oneOwner firstToken]).map
        (fun w' => w'.rows.all (·.live = false)) = some true := by decide +kernel
  have replaced : (run (step tokenDigests) {} opening).map (fun w =>
      w.rows.any fun row => row.token_hash = tokenDigests.digest firstToken && !row.live) = some true := by decide +kernel
  obtain ⟨w, ran, rows⟩ := Option.map_eq_some_iff.mp opened
  rw [ran, Option.bind_some] at closed
  obtain ⟨w', ran', all⟩ := Option.map_eq_some_iff.mp closed
  rw [ran, Option.map_some, Option.some_inj] at replaced
  have retired : Retired tokenDigests w firstToken := by
    simpa [Retired] using replaced
  exact ⟨w, w', ran, (Prod.mk.inj rows).1, ran', all, (session_families ran ran').2.1 firstToken retired⟩

end RedDock.SessionFamilies
