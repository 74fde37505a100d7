import RedDock.SessionTables

/-!
# The cleanup of sessions

A table next to the same table after a cleanup. What the cleanup deletes can no
longer become active, so requests from its cut-off on end alike on both tables.
-/
set_option autoImplicit false
namespace RedDock.SessionPurge
open Text Sessions SessionFamilies SessionTables Runs

/-! ### Sorting related lists -/

section
universe u v
variable {α : Type u} {β : Type v} {R : α → β → Prop} {r : α → α → Prop} {s : β → β → Prop} [DecidableRel r] [DecidableRel s]
  {xs : List α} {ys : List β}

theorem forall₂_orderedInsert (related : List.Forall₂ R xs ys) {a : α} {a' : β} (here : R a a')
    (agree : ∀ b ∈ xs, ∀ b' ∈ ys, R b b' → (r a b ↔ s a' b')) :
    List.Forall₂ R (xs.orderedInsert r a) (ys.orderedInsert s a') := by
  induction related with
  | nil => exact .cons here .nil
  | @cons b b' xs ys there related ih =>
    have first := agree b List.mem_cons_self b' List.mem_cons_self there
    rw [List.orderedInsert_cons, List.orderedInsert_cons]
    by_cases less : r a b
    · rw [if_pos less, if_pos (first.mp less)]
      exact .cons here (.cons there related)
    · rw [if_neg less, if_neg fun less' => less (first.mpr less')]
      exact .cons there (ih fun c member c' member' => agree c (List.mem_cons_of_mem _ member) c' (List.mem_cons_of_mem _ member'))

/-- Related lists are sorted alike by orders that agree on what stands in order. -/
theorem forall₂_insertionSort {P : α → α → Prop} {Q : β → β → Prop} (related : List.Forall₂ R xs ys) (before : xs.Pairwise P)
    (before' : ys.Pairwise Q) (agree : ∀ a a' b b', R a a' → R b b' → P a b → Q a' b' → (r a b ↔ s a' b')) :
    List.Forall₂ R (xs.insertionSort r) (ys.insertionSort s) := by
  induction related with
  | nil => exact .nil
  | @cons a a' xs ys here related ih =>
    obtain ⟨first, later⟩ := List.pairwise_cons.mp before
    obtain ⟨first', later'⟩ := List.pairwise_cons.mp before'
    refine forall₂_orderedInsert (ih later later') here fun b member b' member' there => ?_
    exact agree a a' b b' here there (first b ((List.mem_insertionSort r).mp member)) (first' b' ((List.mem_insertionSort s).mp member'))

end

/-! ### A table behind another -/

/-- A row that no moment from the cut-off on finds active. -/
def Dead (before : Int) (row : BrowserSession) : Prop :=
  row.live = false ∨ row.expires_at ≤ before ∨ row.last_seen_at ≤ before - SESSION_IDLE_TIMEOUT

/-- The same session, at most under another id. -/
def Same (row row' : BrowserSession) : Prop := row' = { row with id := row'.id }

/-- A table without some rows that are dead. -/
inductive Behind (before : Int) : List BrowserSession → List BrowserSession → Prop
  | nil : Behind before [] []
  | kept {row row' : BrowserSession} {rows rows' : List BrowserSession} : Same row row' → Behind before rows rows' →
      Behind before (row :: rows) (row' :: rows')
  | purged {row : BrowserSession} {rows rows' : List BrowserSession} : Dead before row → Behind before rows rows' →
      Behind before (row :: rows) rows'

section
variable {before now : Int} {rows rows' : List BrowserSession}

theorem dead_inactive {row : BrowserSession} (dead : Dead before row) (later : before ≤ now) :
    is_active now row = false ∧ ∀ membership_id, counts membership_id now row = false := by
  rcases dead with dead | expired | idle
  · exact ⟨by simp [is_active, dead], fun _ => by simp [counts, dead]⟩
  · have over_now : ¬now < row.expires_at := by omega
    exact ⟨by simp [is_active, over_now], fun _ => by simp [counts, over_now]⟩
  · have unseen : ¬now < row.last_seen_at + SESSION_IDLE_TIMEOUT := by omega
    have unseen' : ¬now - SESSION_IDLE_TIMEOUT < row.last_seen_at := by omega
    exact ⟨by simp [is_active, unseen], fun _ => by simp [counts, unseen']⟩

theorem dead_of_inactive {row : BrowserSession} (is : inactive before row = true) : Dead before row := by
  simp only [inactive, Bool.or_eq_true, decide_eq_true_eq, Bool.and_eq_true] at is
  rcases is with (expired | revoked) | ⟨_, idle⟩
  · exact Or.inr (Or.inl expired)
  · cases at_moment : row.revoked_at with
    | none => rw [at_moment] at revoked; cases revoked
    | some moment => exact Or.inl (by simp [BrowserSession.live, at_moment])
  · exact Or.inr (Or.inr idle)

theorem behind_filter (keep : BrowserSession → Bool) (dropped : ∀ row ∈ rows, keep row = false → Dead before row) :
    Behind before rows (rows.filter keep) := by
  induction rows with
  | nil => exact .nil
  | cons row rows ih =>
    obtain ⟨first, later⟩ := List.forall_mem_cons.mp dropped
    cases kept : keep row with
    | true =>
      rw [List.filter_cons_of_pos kept]
      exact .kept rfl (ih later)
    | false =>
      rw [List.filter_cons_of_neg (by rw [kept]; exact Bool.false_ne_true)]
      exact .purged (first kept) (ih later)

/-- A cleanup leaves the table behind itself. -/
theorem behind_purge (before : Int) (limit : Nat) (locked : List Nat) (rows : List BrowserSession) :
    Behind before rows (purge_inactive_browser_sessions before limit locked rows) := by
  refine behind_filter _ fun row _ dropped => ?_
  simp only [Bool.not_eq_false', Bool.and_eq_true] at dropped
  exact dead_of_inactive dropped.1

theorem behind_map {f f' : BrowserSession → BrowserSession} (behind : Behind before rows rows')
    (same : ∀ row ∈ rows, ∀ row' ∈ rows', Same row row' → Same (f row) (f' row')) (dead : ∀ row ∈ rows, Dead before row → Dead before (f row)) :
    Behind before (rows.map f) (rows'.map f') := by
  induction behind with
  | nil => exact .nil
  | kept here _ ih =>
    obtain ⟨_, dead⟩ := List.forall_mem_cons.mp dead
    refine .kept (same _ List.mem_cons_self _ List.mem_cons_self here) (ih (fun row member row' member' => ?_) dead)
    exact same row (List.mem_cons_of_mem _ member) row' (List.mem_cons_of_mem _ member')
  | purged gone _ ih =>
    obtain ⟨first, dead⟩ := List.forall_mem_cons.mp dead
    exact .purged (first gone) (ih (fun row member => same row (List.mem_cons_of_mem _ member)) dead)

theorem behind_snoc {record record' : BrowserSession} (behind : Behind before rows rows') (same : Same record record') :
    Behind before (rows ++ [record]) (rows' ++ [record']) := by
  induction behind with
  | nil => exact .kept same .nil
  | kept here _ ih => exact .kept here ih
  | purged gone _ ih => exact .purged gone ih

/-- What no dead row meets, the same rows meet. -/
theorem forall₂_of_behind {p : BrowserSession → Bool} (behind : Behind before rows rows') (same : ∀ row row', Same row row' → p row = p row')
    (dead : ∀ row, Dead before row → p row = false) : List.Forall₂ Same (rows.filter p) (rows'.filter p) := by
  induction behind with
  | nil => exact .nil
  | @kept row row' _ _ here _ ih =>
    have agree := same row row' here
    cases holds : p row with
    | true =>
      rw [List.filter_cons_of_pos holds, List.filter_cons_of_pos (agree ▸ holds)]
      exact .cons here ih
    | false =>
      have fails : ¬p row = true := by rw [holds]; exact Bool.false_ne_true
      rw [List.filter_cons_of_neg fails, List.filter_cons_of_neg (agree ▸ fails)]
      exact ih
  | purged gone _ ih =>
    rw [List.filter_cons_of_neg (by rw [dead _ gone]; exact Bool.false_ne_true)]
    exact ih

theorem token_hashes_behind (behind : Behind before rows rows') : (rows'.map (·.token_hash)).Sublist (rows.map (·.token_hash)) := by
  induction behind with
  | nil => exact List.Sublist.refl _
  | kept here _ ih =>
    rw [List.map_cons, List.map_cons, here]
    exact ih.cons_cons _
  | purged _ _ ih => exact ih.cons _

theorem family_hashes_behind (behind : Behind before rows rows') : (rows'.map (·.family_hash)).Sublist (rows.map (·.family_hash)) := by
  induction behind with
  | nil => exact List.Sublist.refl _
  | kept here _ ih =>
    rw [List.map_cons, List.map_cons, here]
    exact ih.cons_cons _
  | purged _ _ ih => exact ih.cons _

/-- A token leads to the same row in both tables, or to a dead one. -/
theorem find_behind (behind : Behind before rows rows') (unique : (rows.map (·.token_hash)).Nodup) (token_hash : Text) :
    (rows'.find? (·.token_hash = token_hash) = none ∧ ∀ row, rows.find? (·.token_hash = token_hash) = some row → Dead before row) ∨
      ∃ row row', rows.find? (·.token_hash = token_hash) = some row ∧ rows'.find? (·.token_hash = token_hash) = some row' ∧ Same row row' := by
  induction behind with
  | nil => exact Or.inl ⟨rfl, fun _ is => by cases is⟩
  | @kept row row' _ _ here behind ih =>
    have agree : row'.token_hash = row.token_hash := by rw [here]
    by_cases found : row.token_hash = token_hash
    · refine Or.inr ⟨row, row', ?_, ?_, here⟩
      · rw [List.find?_cons_of_pos (by simpa using found)]
      · rw [List.find?_cons_of_pos (by simpa using agree.trans found)]
    · have missed : ¬row'.token_hash = token_hash := fun is => found (agree.symm.trans is)
      rw [List.find?_cons_of_neg (by simpa using missed), List.find?_cons_of_neg (by simpa using found)]
      exact ih (List.nodup_cons.mp unique).2
  | @purged row rows rows' gone behind ih =>
    obtain ⟨alone, unique⟩ := List.nodup_cons.mp unique
    by_cases found : row.token_hash = token_hash
    · refine Or.inl ⟨?_, fun other is => ?_⟩
      · rw [List.find?_eq_none]
        intro other member
        simp only [decide_eq_true_eq]
        intro is
        exact alone ((token_hashes_behind behind).subset (List.mem_map.mpr ⟨other, member, is.trans found.symm⟩))
      · rw [List.find?_cons_of_pos (by simpa using found)] at is
        cases is
        exact gone
    · rw [List.find?_cons_of_neg (by simpa using found)]
      exact ih unique

end

/-! ### Requests on both tables -/

/-- A table with its families kept together, and one behind it. -/
structure Twin (before : Int) (rows rows' : List BrowserSession) : Prop where
  lineage : Lineage rows
  lineage' : Lineage rows'
  behind : Behind before rows rows'

section
variable {digests : Digests} {directory : Directory} {before now : Int} {rows rows' : List BrowserSession}

theorem same_counts {row row' : BrowserSession} (same : Same row row') (membership_id : Nat) :
    counts membership_id now row = counts membership_id now row' := by
  rw [same]
  rfl

/-- The sessions that count are the same, in the same order. -/
theorem active_same (twin : Twin before rows rows') (later : before ≤ now) (membership_id : Nat) :
    List.Forall₂ Same (active_sessions membership_id now rows) (active_sessions membership_id now rows') := by
  have counted := forall₂_of_behind (p := counts membership_id now) twin.behind (fun _ _ same => same_counts same membership_id)
    fun _ dead => (dead_inactive dead later).2 membership_id
  refine forall₂_insertionSort counted (twin.lineage.ascending.filter _) (twin.lineage'.ascending.filter _) ?_
  intro a a' b b' here there less less'
  rw [here, there]
  simp only [Nat.le_of_lt less, Nat.le_of_lt less']

theorem overflowing_same {active active' : List BrowserSession} (same : List.Forall₂ Same active active') :
    List.Forall₂ Same (overflowing active) (overflowing active') := by
  rw [overflowing, overflowing, same.length_eq]
  exact List.forall₂_take _ same

theorem evicted_same (twin : Twin before rows rows') (later : before ≤ now) (membership_id : Nat) :
    evicted membership_id now rows = evicted membership_id now rows' := by
  have same := overflowing_same (active_same twin later membership_id)
  exact (Fallible.forall₂_map_eq (f := (·.token_hash)) (g := (·.token_hash)) (fun _ _ here => by rw [here]) same).symm

theorem behind_revoke_family (behind : Behind before rows rows') (family_hash : Text) (moment : Int) :
    Behind before (revoke_family family_hash moment rows) (revoke_family family_hash moment rows') := by
  refine behind_map behind (fun row _ row' _ same => ?_) fun row _ dead => ?_
  · rw [Same] at same
    rw [same]
    simp only [Same]
    split <;> rfl
  · split
    · exact Or.inl (by simp [BrowserSession.live])
    · exact dead

theorem behind_foldl_revoke {sessions sessions' : List BrowserSession} (same : List.Forall₂ Same sessions sessions') (moment : Int)
    (behind : Behind before rows rows') :
    Behind before (sessions.foldl (fun rows session => revoke_family session.family_hash moment rows) rows)
      (sessions'.foldl (fun rows session => revoke_family session.family_hash moment rows) rows') := by
  induction same generalizing rows rows' with
  | nil => exact behind
  | @cons session session' _ _ here _ ih =>
    have family : session'.family_hash = session.family_hash := by rw [here]
    rw [List.foldl_cons, List.foldl_cons, family]
    exact ih (behind_revoke_family behind _ moment)

/-- An issue is rejected on both tables, or leaves them the one behind the other. -/
theorem issue_same (digests : Digests) (directory : Directory) (twin : Twin before rows rows') (later : before ≤ now) (membership_id id id' : Nat) (token family_hash : Text) :
    (issue_browser_session digests directory membership_id now ⟨id, token, family_hash⟩ rows = none ∧
      issue_browser_session digests directory membership_id now ⟨id', token, family_hash⟩ rows' = none) ∨
    ∃ after issued after' issued', issue_browser_session digests directory membership_id now ⟨id, token, family_hash⟩ rows = some (after, issued) ∧
      issue_browser_session digests directory membership_id now ⟨id', token, family_hash⟩ rows' = some (after', issued') ∧
      credentials issued = credentials issued' ∧ Behind before after after' := by
  have stale := overflowing_same (active_same twin later membership_id)
  have kept := behind_foldl_revoke stale now twin.behind
  unfold issue_browser_session
  cases directory membership_id with
  | none => exact Or.inl ⟨rfl, rfl⟩
  | some identity =>
    cases is : authorization_context membership_id identity with
    | none => exact Or.inl ⟨by simp [is], by simp [is]⟩
    | some context =>
      simp only [Option.bind_eq_bind, Option.bind_some, is, Option.pure_def]
      cases csrf_token_for_session digests token with
      | none => exact Or.inl ⟨rfl, rfl⟩
      | some csrf_token =>
        right
        exact ⟨_, _, _, _, rfl, rfl, rfl, behind_snoc kept rfl⟩

/-- The row of a token is valid in both tables or in neither. -/
theorem valid_same (digests : Digests) (directory : Directory) (twin : Twin before rows rows') (later : before ≤ now) (token : Text) (expected : Expected) :
    (valid_row digests directory token expected now rows = none ∧ valid_row digests directory token expected now rows' = none) ∨
    ∃ row ∈ rows, ∃ row' ∈ rows', ∃ context, valid_row digests directory token expected now rows = some (row, context) ∧
      valid_row digests directory token expected now rows' = some (row', context) ∧ Same row row' ∧ is_active now row = true := by
  unfold valid_row
  cases shaped : is_browser_session_token token with
  | false => exact Or.inl ⟨rfl, rfl⟩
  | true =>
    simp only [Bool.not_true, Bool.false_eq_true, if_false, session_row]
    rcases find_behind twin.behind twin.lineage.unique (digests.digest token) with ⟨missing, dead⟩ | ⟨row, row', found, found', same⟩
    · left
      rw [missing]
      refine ⟨?_, rfl⟩
      cases found : rows.find? (·.token_hash = digests.digest token) with
      | none => rfl
      | some row =>
        have inactive := (dead_inactive (dead row found) later).1
        simp only [Option.bind_eq_bind, Option.bind_some]
        cases directory row.membership_id with
        | none => rfl
        | some identity =>
          simp only [Option.bind_some, Option.pure_def]
          cases authorization_context row.membership_id identity with
          | none => rfl
          | some context => simp only [Option.bind_some, inactive, Bool.false_and, Bool.false_eq_true, if_false]
    · have member := List.mem_of_find?_eq_some found
      have member' := List.mem_of_find?_eq_some found'
      rw [found, found', same]
      simp only [Option.bind_eq_bind, Option.bind_some]
      cases directory row.membership_id with
      | none => exact Or.inl ⟨rfl, rfl⟩
      | some identity =>
        simp only [Option.bind_some, Option.pure_def]
        cases authorization_context row.membership_id identity with
        | none => exact Or.inl ⟨rfl, rfl⟩
        | some context =>
          simp only [Option.bind_some]
          have active_same : is_active now { row with id := row'.id } = is_active now row := rfl
          rw [active_same]
          split
          · rename_i holds
            simp only [Bool.and_eq_true] at holds
            right
            exact ⟨row, member, row', member', context, rfl, by rw [← same], same, holds.1.1.1⟩
          · exact Or.inl ⟨rfl, rfl⟩

/-- The touch of a row finds that row. -/
theorem touches_eq {row other : BrowserSession} (unique : (rows.map (·.token_hash)).Nodup) (member : row ∈ rows) (inside : other ∈ rows) :
    touches row now other = (decide (other.token_hash = row.token_hash) && other.live && decide (now < other.expires_at) &&
      decide (now - SESSION_IDLE_TIMEOUT < other.last_seen_at) && decide (other.last_seen_at ≤ now - SESSION_TOUCH_INTERVAL) &&
      decide (other.last_seen_at < now)) := by
  by_cases token : other.token_hash = row.token_hash
  · have is := same_token unique inside member token
    subst is
    simp [touches]
  · simp [touches, token]

theorem touches_same (now : Int) {row row' other other' : BrowserSession} (twin : Twin before rows rows') (member : row ∈ rows) (member' : row' ∈ rows')
    (inside : other ∈ rows) (inside' : other' ∈ rows') (same : Same row row') (same' : Same other other') :
    touches row now other = touches row' now other' := by
  rw [touches_eq twin.lineage.unique member inside, touches_eq twin.lineage'.unique member' inside', same, same']
  rfl

theorem resolve_same (digests : Digests) (directory : Directory) (twin : Twin before rows rows') (later : before ≤ now) (token : Text) (expected : Expected) (touch : Bool) :
    (resolve_browser_session digests directory token expected touch now rows).2 =
      (resolve_browser_session digests directory token expected touch now rows').2 ∧
    Behind before (resolve_browser_session digests directory token expected touch now rows).1
      (resolve_browser_session digests directory token expected touch now rows').1 := by
  unfold resolve_browser_session
  rcases valid_same digests directory twin later token expected with
    ⟨rejected, rejected'⟩ | ⟨row, member, row', member', context, valid, valid', same, active⟩
  · rw [rejected, rejected']
    exact ⟨rfl, twin.behind⟩
  · rw [valid, valid']
    have seen : row'.last_seen_at = row.last_seen_at := by rw [same]
    simp only [seen]
    split
    · exact ⟨rfl, twin.behind⟩
    · rename_i due
      simp only [Bool.or_eq_true, Bool.not_eq_true', decide_eq_true_eq, not_or, Int.not_lt] at due
      have touched : touches row now row = true := by
        simp only [is_active, Bool.and_eq_true, decide_eq_true_eq] at active
        obtain ⟨⟨⟨⟨live, _⟩, _⟩, unexpired⟩, recent⟩ := active
        have interval : 0 < SESSION_TOUCH_INTERVAL := by decide
        have since : now - SESSION_IDLE_TIMEOUT < row.last_seen_at := by omega
        have earlier : row.last_seen_at < now := by omega
        simp [touches, live, unexpired, since, due.2, earlier]
      have touched' : touches row' now row' = true :=
        (touches_same now twin member member' member member' same same).symm.trans touched
      rw [if_pos (List.any_eq_true.mpr ⟨row, member, touched⟩), if_pos (List.any_eq_true.mpr ⟨row', member', touched'⟩)]
      refine ⟨rfl, behind_map twin.behind (fun other inside other' inside' same' => ?_) fun other inside dead => ?_⟩
      · have agree := touches_same now twin member member' inside inside' same same'
        rw [agree]
        split
        · rw [Same] at same' ⊢
          rw [same']
        · exact same'
      · rw [touches_eq twin.lineage.unique member inside]
        split
        · rename_i holds
          simp only [Bool.and_eq_true, decide_eq_true_eq] at holds
          rcases dead with dead | expired | idle
          · rw [dead] at holds
            exact absurd holds.1.1.1.1.2 Bool.false_ne_true
          · omega
          · omega
        · exact dead

theorem rotation_same {row row' : BrowserSession} (same : Same row row') (identity : Identity) (csrf_token new_token : Text) :
    rotation_due digests identity csrf_token now new_token row' = rotation_due digests identity csrf_token now new_token row := by
  rw [same]
  rfl

theorem behind_rotated (digests : Digests) (now : Int) {row row' : BrowserSession} (behind : Behind before rows rows') (same : Same row row') (id id' : Nat) (new_token : Text)
    (decided : Option Text) : Behind before (rotated digests ⟨id, new_token, []⟩ now rows row decided).1
      (rotated digests ⟨id', new_token, []⟩ now rows' row' decided).1 := by
  cases decided with
  | none => exact behind
  | some csrf_token =>
    refine behind_snoc (behind_map behind (fun other _ other' _ same' => ?_) fun other _ dead => ?_) (by rw [same]; rfl)
    · have token : row'.token_hash = row.token_hash := by rw [same]
      have token' : other'.token_hash = other.token_hash := by rw [same']
      unfold replace
      rw [token, token']
      split
      · rw [Same] at same' ⊢
        rw [same']
      · exact same'
    · unfold replace
      split
      · exact Or.inl (by simp [BrowserSession.live])
      · exact dead

/-- A rotation is rejected on both tables, or decides the same of the same row. -/
theorem rotate_same (digests : Digests) (directory : Directory) (twin : Twin before rows rows') (later : before ≤ now) (token csrf_token new_token : Text) (id id' : Nat) :
    (rotate_browser_session digests directory token csrf_token now ⟨id, new_token, []⟩ rows = none ∧
      rotate_browser_session digests directory token csrf_token now ⟨id', new_token, []⟩ rows' = none) ∨
    ∃ row ∈ rows, ∃ row' ∈ rows', ∃ decided, Same row row' ∧ row.live = true ∧
      rotate_browser_session digests directory token csrf_token now ⟨id, new_token, []⟩ rows =
        some (rotated digests ⟨id, new_token, []⟩ now rows row decided) ∧
      rotate_browser_session digests directory token csrf_token now ⟨id', new_token, []⟩ rows' =
        some (rotated digests ⟨id', new_token, []⟩ now rows' row' decided) := by
  rw [rotate_eq, rotate_eq]
  cases malformed : (!is_browser_session_token token || !is_browser_session_token csrf_token) with
  | true => exact Or.inl ⟨rfl, rfl⟩
  | false =>
    simp only [Bool.false_eq_true, if_false]
    rcases find_behind twin.behind twin.lineage.unique (digests.digest token) with ⟨missing, dead⟩ | ⟨row, row', found, found', same⟩
    · left
      rw [missing]
      refine ⟨?_, rfl⟩
      cases found : rows.find? (·.token_hash = digests.digest token) with
      | none => rfl
      | some row =>
        have inactive := (dead_inactive (dead row found) later).1
        rw [Option.bind_some]
        cases directory row.membership_id with
        | none => rfl
        | some identity =>
          have rejected : rotation_due digests identity csrf_token now new_token row = none := by simp [rotation_due, inactive]
          rw [Option.bind_some, rejected]
          rfl
    · have membership : row'.membership_id = row.membership_id := by rw [same]
      rw [found, found', Option.bind_some, Option.bind_some, membership]
      cases directory row.membership_id with
      | none => exact Or.inl ⟨rfl, rfl⟩
      | some identity =>
        rw [Option.bind_some, Option.bind_some, rotation_same same]
        cases is : rotation_due digests identity csrf_token now new_token row with
        | none => exact Or.inl ⟨rfl, rfl⟩
        | some decided =>
          right
          exact ⟨row, List.mem_of_find?_eq_some found, row', List.mem_of_find?_eq_some found', decided, same, (live_of_rotation is).2, rfl, rfl⟩

/-- Secrets that are new to a table are new to one behind it. -/
theorem secret_behind {request : Request} (behind : Behind before rows rows') (fresh : secret digests rows request = true) :
    secret digests rows' request = true := by
  cases request with
  | issue _ _ _ token family_hash =>
    simp only [secret, Bool.and_eq_true, decide_eq_true_eq] at fresh ⊢
    exact ⟨fun member => fresh.1 ((token_hashes_behind behind).subset member), fun member => fresh.2 ((family_hashes_behind behind).subset member)⟩
  | resolve _ _ _ _ _ => rfl
  | rotate _ _ _ _ new_token =>
    simp only [secret, decide_eq_true_eq] at fresh ⊢
    exact fun member => fresh ((token_hashes_behind behind).subset member)

/-- A request ends alike on both tables. -/
theorem perform_same {request : Request} {id id' : Nat} (twin : Twin before rows rows') (later : before ≤ request.now)
    (greater : ∀ row ∈ rows, row.id < id) (greater' : ∀ row ∈ rows', row.id < id') (fresh : secret digests rows request = true) :
    (perform digests id rows request).2 = (perform digests id' rows' request).2 ∧
      Twin before (perform digests id rows request).1 (perform digests id' rows' request).1 := by
  have fresh' := secret_behind twin.behind fresh
  have after := lineage_perform twin.lineage greater fresh
  have after' := lineage_perform twin.lineage' greater' fresh'
  suffices same : (perform digests id rows request).2 = (perform digests id' rows' request).2 ∧
      Behind before (perform digests id rows request).1 (perform digests id' rows' request).1 from ⟨same.1, after, after', same.2⟩
  cases request with
  | issue now directory membership_id token family_hash =>
    have later : before ≤ now := later
    simp only [secret, Bool.and_eq_true, decide_eq_true_eq] at fresh fresh'
    rcases issue_same digests directory twin later membership_id id id' token family_hash with
      ⟨none, none'⟩ | ⟨rows₁, issued, rows₁', issued', ran, ran', same, behind⟩
    · rw [perform_no_issue none, perform_no_issue none']
      exact ⟨rfl, twin.behind⟩
    · rw [perform_issue (lineage_issue twin.lineage greater fresh.1 fresh.2 ran) ran,
        perform_issue (lineage_issue twin.lineage' greater' fresh'.1 fresh'.2 ran') ran', same, evicted_same twin later membership_id]
      exact ⟨rfl, behind⟩
  | resolve now directory token expected touch =>
    obtain ⟨same, behind⟩ := resolve_same digests directory twin later token expected touch
    exact ⟨congrArg Outcome.resolved same, behind⟩
  | rotate now directory token csrf_token new_token =>
    have later : before ≤ now := later
    simp only [secret, decide_eq_true_eq] at fresh fresh'
    rcases rotate_same digests directory twin later token csrf_token new_token id id' with
      ⟨none, none'⟩ | ⟨row, member, row', member', decided, same, live, ran, ran'⟩
    · rw [perform_no_rotate none, perform_no_rotate none']
      exact ⟨rfl, twin.behind⟩
    · have live' : row'.live = true := by
        rw [same]
        exact live
      have behind := behind_rotated digests now twin.behind same id id' new_token decided
      cases decided with
      | none =>
        rw [perform_not_due ran, perform_not_due ran']
        exact ⟨rfl, twin.behind⟩
      | some csrf =>
        rw [perform_rotate (lineage_rotated twin.lineage greater fresh member live) ran,
          perform_rotate (lineage_rotated twin.lineage' greater' fresh' member' live') ran']
        have expires : row'.expires_at = row.expires_at := by rw [same]
        exact ⟨by simp only [credentials, expires], behind⟩

end

/-! ### Sequences of requests -/

section
variable (digests : Digests)

/-- How the requests end, one after the other. -/
def serve : List BrowserSession → List (Nat × Request) → List Outcome
  | _, [] => []
  | rows, (id, request) :: later => (perform digests id rows request).2 :: serve (perform digests id rows request).1 later

/-- Every new row is given an id greater than those that are stored. -/
def numbered : List BrowserSession → List (Nat × Request) → Bool
  | _, [] => true
  | rows, (id, request) :: later => rows.all (·.id < id) && numbered (perform digests id rows request).1 later

/-- The secrets that are given out are not stored yet. -/
def secrets : List BrowserSession → List (Nat × Request) → Bool
  | _, [] => true
  | rows, (id, request) :: later => secret digests rows request && secrets (perform digests id rows request).1 later

end

section
variable {digests : Digests} {before now : Int} {rows rows' : List BrowserSession}

theorem serve_same {later later' : List (Nat × Request)} (twin : Twin before rows rows') (same : later.map (·.2) = later'.map (·.2))
    (times : ∀ request ∈ later, before ≤ request.2.now) (ids : numbered digests rows later = true) (ids' : numbered digests rows' later' = true)
    (fresh : secrets digests rows later = true) : serve digests rows later = serve digests rows' later' := by
  induction later generalizing rows rows' later' with
  | nil =>
    cases later' with
    | nil => rfl
    | cons _ _ => cases same
  | cons first later ih =>
    cases later' with
    | nil => cases same
    | cons first' later' =>
      obtain ⟨id, request⟩ := first
      obtain ⟨id', request'⟩ := first'
      obtain ⟨requests, others⟩ := List.cons.inj same
      obtain ⟨time, times⟩ := List.forall_mem_cons.mp times
      simp only [numbered, Bool.and_eq_true, List.all_eq_true, decide_eq_true_eq] at ids ids'
      simp only [secrets, Bool.and_eq_true] at fresh
      simp only at requests
      subst requests
      obtain ⟨outcome, after⟩ := perform_same twin time ids.1 ids'.1 fresh.1
      rw [serve, serve, outcome, ih after others times ids.2 ids'.2 fresh.2]

/-- A family that has an active row is left alone. -/
theorem purge_spares {row other : BrowserSession} {limit : Nat} {locked : List Nat} (lineage : Lineage rows) (past : before ≤ now)
    (member : row ∈ rows) (gone : row ∉ purge_inactive_browser_sessions before limit locked rows) (inside : other ∈ rows)
    (family : other.family_hash = row.family_hash) : is_active now other = false := by
  have dropped : inactive before row = true := by
    by_contra keeps
    exact gone (List.mem_filter.mpr ⟨member, by simp [keeps]⟩)
  have kin := lineage.kin other inside row member family
  by_contra still
  rw [Bool.not_eq_false] at still
  have active := still
  simp only [is_active, Bool.and_eq_true, decide_eq_true_eq] at active
  obtain ⟨⟨⟨⟨live, _⟩, _⟩, unexpired⟩, recent⟩ := active
  have open_other : other.revoked_at = none := by
    simp only [BrowserSession.live, Bool.and_eq_true, Option.isNone_iff_eq_none] at live
    exact live.2
  have open_row := kin.revoked open_other
  simp only [inactive, Bool.or_eq_true, decide_eq_true_eq, Bool.and_eq_true, open_row, Option.any_none, Bool.false_eq_true, or_false] at dropped
  rcases dropped with expired | ⟨leaf, idle⟩
  · have expires := kin.expires_at
    omega
  · -- the only live row of its family
    have live_row : row.live = true := by simp [BrowserSession.live, leaf, open_row]
    cases kin.one_live live live_row
    omega

/-- No request from the cut-off on tells whether sessions were cleaned up. -/
theorem purge_unobservable {history : List (Nat × Transaction)} (ran : run (transact digests) [] history = some rows) (past : before ≤ now)
    (limit : Nat) (locked : List Nat) :
    (∀ row ∈ rows, row ∉ purge_inactive_browser_sessions before limit locked rows →
      ∀ other ∈ rows, other.family_hash = row.family_hash → is_active now other = false) ∧
    ∀ later later' : List (Nat × Request), later.map (·.2) = later'.map (·.2) → (∀ request ∈ later, before ≤ request.2.now) →
      numbered digests rows later = true → numbered digests (purge_inactive_browser_sessions before limit locked rows) later' = true →
      secrets digests rows later = true →
      serve digests rows later = serve digests (purge_inactive_browser_sessions before limit locked rows) later' := by
  have lineage := lineage_run ran
  refine ⟨fun row member gone other inside family => purge_spares lineage past member gone inside family, ?_⟩
  intro later later' same times ids ids' fresh
  have twin : Twin before rows (purge_inactive_browser_sessions before limit locked rows) :=
    ⟨lineage, lineage_filter lineage _, behind_purge before limit locked rows⟩
  exact serve_same twin same times ids ids' fresh

end

/-- A session that is rotated and then left idle. -/
def abandoned : List (Nat × Transaction) :=
  [(0, .request (.issue 0 oneOwner 1 firstToken "family".toList)),
   (1, .request (.resolve (25 * 60 * SECOND) oneOwner firstToken {} true)),
   (1, .request (.resolve (50 * 60 * SECOND) oneOwner firstToken {} true)),
   (1, .request (.rotate SESSION_ROTATION_INTERVAL oneOwner firstToken (tokenDigests.csrf firstToken) secondToken))]

def thirdToken : Text := List.replicate 43 'C'

/-- Requests after its cleanup, with the id of the one new row. -/
def requests (id : Nat) : List (Nat × Request) :=
  [(id, .resolve (2 * 3600 * SECOND) oneOwner firstToken {} true),
   (id, .issue (2 * 3600 * SECOND) oneOwner 1 thirdToken "other".toList),
   (id + 1, .resolve (2 * 3600 * SECOND + 1) oneOwner thirdToken {} false)]

/-- The cleanup deletes the successor, keeps the row that it replaced, and frees
    an id. -/
theorem purge_unobservable_example : ∃ rows, run (transact tokenDigests) [] abandoned = some rows ∧
    (purge_inactive_browser_sessions (2 * 3600 * SECOND) 256 [] rows).map (·.id) = [0] ∧
    serve tokenDigests rows (requests 2) = serve tokenDigests (purge_inactive_browser_sessions (2 * 3600 * SECOND) 256 [] rows) (requests 1) := by
  have left : (run (transact tokenDigests) [] abandoned).map (fun rows =>
      ((purge_inactive_browser_sessions (2 * 3600 * SECOND) 256 [] rows).map (·.id), numbered tokenDigests rows (requests 2),
        numbered tokenDigests (purge_inactive_browser_sessions (2 * 3600 * SECOND) 256 [] rows) (requests 1),
        secrets tokenDigests rows (requests 2))) = some ([0], true, true, true) := by decide +kernel
  obtain ⟨rows, ran, is⟩ := Option.map_eq_some_iff.mp left
  obtain ⟨kept, is⟩ := Prod.mk.inj is
  obtain ⟨ids, is⟩ := Prod.mk.inj is
  obtain ⟨ids', fresh⟩ := Prod.mk.inj is
  refine ⟨rows, ran, kept, ?_⟩
  have times : ∀ request ∈ requests 2, 2 * 3600 * SECOND ≤ request.2.now := by
    simp [requests, Request.now]
  exact (purge_unobservable ran (Int.le_refl (2 * 3600 * SECOND)) 256 []).2 (requests 2) (requests 1) rfl times ids ids' fresh

end RedDock.SessionPurge
