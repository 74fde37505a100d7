import RedDock.SessionTables

/-!
# Session generations

A rotation needs a row that has not expired, an hour after it was issued, and
the eight hours of its family are fixed when it starts: the cap on generations
is never why one fails. No clock is trusted to go forward here.
-/
set_option autoImplicit false
namespace RedDock.SessionGenerations
open Text Sessions SessionFamilies SessionTables

section
variable (digests : Digests)

/-- One transaction, whatever its secrets, its id and its moment. -/
def apply (rows : List BrowserSession) (transaction : Nat × Transaction) : List BrowserSession :=
  match transaction.2 with
  | .request request => (perform digests transaction.1 rows request).1
  | .revoke now directory token => (revoke_browser_session digests directory token now rows).1
  | .revoke_membership now directory membership_id => (revoke_membership_sessions directory membership_id now rows).1
  | .purge before limit locked => purge_inactive_browser_sessions before limit locked rows

/-- The rows that transactions lead to. -/
def apply_all (history : List (Nat × Transaction)) : List BrowserSession := history.foldl (apply digests) []

/-- `rotate_browser_session` without its cap on generations. -/
def rotate_uncapped (directory : Directory) (token csrf_token : Text) (now : Int) (fresh : Fresh) (rows : List BrowserSession) :
    Option (List BrowserSession × Option IssuedSession) := do
  if !is_browser_session_token token || !is_browser_session_token csrf_token then none
  else
    let (current, identity, _) ← locked_family directory (digests.digest token) rows
    let _ ← authorization_context current.membership_id identity
    if !is_active now current || !csrf_token_matches digests csrf_token current.csrf_token_hash then none
    else if now < current.token_issued_at + SESSION_ROTATION_INTERVAL then return (rows, none)
    else
      let new_csrf ← csrf_token_for_session digests fresh.token
      let replaced := rows.map fun row => if row.token_hash = current.token_hash then { row with replaced_at := some now } else row
      let successor : BrowserSession := {
        id := fresh.id
        token_hash := digests.digest fresh.token
        csrf_token_hash := digests.digest new_csrf
        family_hash := current.family_hash
        generation := current.generation + 1
        membership_id := current.membership_id
        created_at := now
        token_issued_at := now
        last_seen_at := now
        expires_at := current.expires_at }
      return (replaced ++ [successor], some
        { session_id := successor.id, token := fresh.token, csrf_token := new_csrf, expires_at := successor.expires_at })

end

/-! ### What no transaction changes of a row -/

/-- The family of a row, its place there, and the moments it was given. -/
structure Stem where
  family_hash : Text
  generation : Nat
  token_issued_at : Int
  expires_at : Int

def stem (row : BrowserSession) : Stem := ⟨row.family_hash, row.generation, row.token_issued_at, row.expires_at⟩

section
variable {digests : Digests} {directory : Directory} {rows : List BrowserSession}

theorem stems_map {f : BrowserSession → BrowserSession} (same : ∀ row, stem (f row) = stem row) : (rows.map f).map stem = rows.map stem := by
  rw [List.map_map]
  exact List.map_congr_left fun row _ => same row

theorem stems_revoke_family (family_hash : Text) (now : Int) : (revoke_family family_hash now rows).map stem = rows.map stem :=
  stems_map fun row => by split <;> rfl

theorem stems_foldl_revoke (sessions : List BrowserSession) (now : Int) :
    (sessions.foldl (fun rows session => revoke_family session.family_hash now rows) rows).map stem = rows.map stem := by
  induction sessions generalizing rows with
  | nil => rfl
  | cons session sessions ih => exact ih.trans (stems_revoke_family _ now)

theorem stems_resolve (token : Text) (expected : Expected) (touch : Bool) (now : Int) :
    (resolve_browser_session digests directory token expected touch now rows).1.map stem = rows.map stem := by
  have touched : ∀ session, (rows.map fun other => if touches session now other then { other with last_seen_at := now } else other).map stem =
      rows.map stem := fun session => stems_map fun row => by split <;> rfl
  unfold resolve_browser_session
  split
  · rfl
  · split
    · rfl
    · simp only
      split
      · exact touched _
      · exact touched _

theorem stems_revoke (token : Text) (now : Int) : (revoke_browser_session digests directory token now rows).1.map stem = rows.map stem := by
  unfold revoke_browser_session
  split
  · rfl
  · split
    · rfl
    · split
      · exact stems_revoke_family _ now
      · rfl

theorem stems_revoke_membership (membership_id : Nat) (now : Int) :
    (revoke_membership_sessions directory membership_id now rows).1.map stem = rows.map stem := by
  unfold revoke_membership_sessions
  split
  · rfl
  · exact stems_map fun row => by split <;> rfl

theorem stems_issue {membership_id : Nat} {now : Int} {fresh : Fresh} {after : List BrowserSession} {issued : IssuedSession}
    (ran : issue_browser_session digests directory membership_id now fresh rows = some (after, issued)) :
    after.map stem = rows.map stem ++ [⟨fresh.family_hash, 0, now, now + SESSION_LIFETIME⟩] := by
  unfold issue_browser_session at ran
  obtain ⟨identity, _, ran⟩ := Option.bind_eq_some_iff.mp ran
  obtain ⟨context, _, ran⟩ := Option.bind_eq_some_iff.mp ran
  obtain ⟨csrf_token, _, ran⟩ := Option.bind_eq_some_iff.mp ran
  cases ran
  rw [List.map_append, stems_foldl_revoke]
  rfl

/-- A rotation leaves the rows, or adds the successor of one that was active
    and is due. -/
theorem stems_rotate {token csrf_token : Text} {now : Int} {fresh : Fresh} {found : List BrowserSession × Option IssuedSession}
    (ran : rotate_browser_session digests directory token csrf_token now fresh rows = some found) :
    found.1.map stem = rows.map stem ∨ ∃ row ∈ rows, is_active now row = true ∧ row.token_issued_at + SESSION_ROTATION_INTERVAL ≤ now ∧
      found.1.map stem = rows.map stem ++ [⟨row.family_hash, row.generation + 1, now, row.expires_at⟩] := by
  rw [rotate_eq] at ran
  split at ran
  · cases ran
  · obtain ⟨row, is_row, ran⟩ := Option.bind_eq_some_iff.mp ran
    obtain ⟨identity, _, ran⟩ := Option.bind_eq_some_iff.mp ran
    obtain ⟨decided, is, rfl⟩ := Option.map_eq_some_iff.mp ran
    cases decided with
    | none => exact Or.inl rfl
    | some csrf =>
      have due : row.token_issued_at + SESSION_ROTATION_INTERVAL ≤ now := by
        unfold rotation_due at is
        split at is
        · cases is
        · split at is
          · cases is
          · omega
      refine Or.inr ⟨row, List.mem_of_find?_eq_some is_row, (live_of_rotation is).1, due, ?_⟩
      rw [rotated, List.map_append, stems_map fun other => by unfold replace; split <;> rfl]
      rfl

end

/-! ### Generations within a family's hours -/

/-- A family was started by an issue at a moment. -/
def Started (history : List (Nat × Transaction)) (family_hash : Text) (start : Int) : Prop :=
  ∃ id directory membership_id token, (id, Transaction.request (.issue start directory membership_id token family_hash)) ∈ history

/-- The family of a row started a rotation interval, for each generation, before
    the row was given its token, and expires a lifetime after it started. -/
def Aged (history : List (Nat × Transaction)) (one : Stem) : Prop :=
  ∃ start, Started history one.family_hash start ∧ one.expires_at = start + SESSION_LIFETIME ∧
    one.generation * SESSION_ROTATION_INTERVAL ≤ one.token_issued_at - start

section
variable {digests : Digests} {rows : List BrowserSession} {history : List (Nat × Transaction)} {transaction : Nat × Transaction}

theorem Aged.append {one : Stem} (aged : Aged history one) : Aged (history ++ [transaction]) one := by
  obtain ⟨start, ⟨id, directory, membership_id, token, member⟩, rest⟩ := aged
  exact ⟨start, ⟨id, directory, membership_id, token, List.mem_append_left _ member⟩, rest⟩

/-- The successor of a row that is due is a rotation interval older. -/
theorem aged_successor {family_hash : Text} {generation : Nat} {token_issued_at expires_at now : Int}
    (aged : Aged history ⟨family_hash, generation, token_issued_at, expires_at⟩) (due : token_issued_at + SESSION_ROTATION_INTERVAL ≤ now) :
    Aged history ⟨family_hash, generation + 1, now, expires_at⟩ := by
  obtain ⟨start, started, fixed, old⟩ := aged
  refine ⟨start, started, fixed, ?_⟩
  simp only at old ⊢
  push_cast
  rw [add_mul, one_mul]
  omega

theorem aged_perform (aged : ∀ one ∈ rows.map stem, Aged history one) (id : Nat) (request : Request) :
    ∀ one ∈ (perform digests id rows request).1.map stem, Aged (history ++ [(id, .request request)]) one := by
  have kept : ∀ one ∈ rows.map stem, Aged (history ++ [(id, .request request)]) one := fun one member => (aged one member).append
  cases request with
  | issue now directory membership_id token family_hash =>
    unfold perform
    simp only
    split
    · exact kept
    · rename_i after issued ran
      split
      · rw [stems_issue ran]
        intro one member
        rcases List.mem_append.mp member with old | new
        · exact kept one old
        · rw [List.mem_singleton.mp new]
          refine ⟨now, ⟨id, directory, membership_id, token, List.mem_append_right _ List.mem_cons_self⟩, rfl, ?_⟩
          simp
      · exact kept
  | resolve now directory token expected touch =>
    unfold perform
    simp only
    rw [stems_resolve]
    exact kept
  | rotate now directory token csrf_token new_token =>
    have rotated : ∀ found, rotate_browser_session digests directory token csrf_token now ⟨id, new_token, []⟩ rows = some found →
        ∀ one ∈ found.1.map stem, Aged (history ++ [(id, .request (.rotate now directory token csrf_token new_token))]) one := by
      intro found ran
      rcases stems_rotate ran with same | ⟨row, member, _, due, more⟩
      · rw [same]
        exact kept
      · rw [more]
        intro one inside
        rcases List.mem_append.mp inside with old | new
        · exact kept one old
        · rw [List.mem_singleton.mp new]
          exact aged_successor (kept (stem row) (List.mem_map_of_mem member)) due
    unfold perform
    simp only
    split
    · exact kept
    · rename_i ran
      exact rotated _ ran
    · rename_i ran
      split
      · exact rotated _ ran
      · exact kept

theorem aged_apply (aged : ∀ one ∈ rows.map stem, Aged history one) (transaction : Nat × Transaction) :
    ∀ one ∈ (apply digests rows transaction).map stem, Aged (history ++ [transaction]) one := by
  have kept : ∀ one ∈ rows.map stem, Aged (history ++ [transaction]) one := fun one member => (aged one member).append
  obtain ⟨id, transaction⟩ := transaction
  unfold apply
  cases transaction with
  | request request => exact aged_perform aged id request
  | revoke now directory token =>
    simp only
    rw [stems_revoke]
    exact kept
  | revoke_membership now directory membership_id =>
    simp only
    rw [stems_revoke_membership]
    exact kept
  | purge before limit locked =>
    intro one member
    obtain ⟨row, inside, rfl⟩ := List.mem_map.mp member
    exact kept _ (List.mem_map_of_mem (List.mem_filter.mp inside).1)

/-- Every stored row is of an age that allows for its generation. -/
theorem aged_all (history : List (Nat × Transaction)) : ∀ one ∈ (apply_all digests history).map stem, Aged history one := by
  induction history using List.reverseRecOn with
  | nil => exact fun one member => absurd member List.not_mem_nil
  | append_singleton history transaction ih =>
    rw [apply_all, List.foldl_append]
    exact aged_apply ih transaction

/-- A row that is due before its family expires is of one of the generations
    that fit its hours. -/
theorem below_cap {row : BrowserSession} {now : Int} (aged : Aged history (stem row)) (due : row.token_issued_at + SESSION_ROTATION_INTERVAL ≤ now)
    (unexpired : now < row.expires_at) : row.generation < MAX_SESSION_GENERATION := by
  obtain ⟨start, _, fixed, old⟩ := aged
  simp only [stem] at fixed old
  unfold MAX_SESSION_GENERATION
  unfold SESSION_LIFETIME SECOND at fixed
  unfold SESSION_ROTATION_INTERVAL SECOND at old due
  omega

theorem unexpired_of_active {row : BrowserSession} {now : Int} (active : is_active now row = true) : now < row.expires_at := by
  simp only [is_active, Bool.and_eq_true, decide_eq_true_eq] at active
  exact active.1.2

/-- Where every row that is due is below the cap, rotations never meet it. -/
theorem rotate_eq_uncapped (below : ∀ row ∈ rows, ∀ now, is_active now row = true → row.token_issued_at + SESSION_ROTATION_INTERVAL ≤ now →
      row.generation < MAX_SESSION_GENERATION) (directory : Directory) (token csrf_token : Text) (now : Int) (fresh : Fresh) :
    rotate_browser_session digests directory token csrf_token now fresh rows = rotate_uncapped digests directory token csrf_token now fresh rows := by
  unfold rotate_browser_session rotate_uncapped
  split
  · rfl
  · cases locked : locked_family directory (digests.digest token) rows with
    | none => rfl
    | some found =>
      obtain ⟨current, identity, family⟩ := found
      simp only [Option.bind_eq_bind, Option.bind_some]
      congr 1
      funext context
      by_cases valid : (!is_active now current || !csrf_token_matches digests csrf_token current.csrf_token_hash) = true
      · rw [if_pos valid, if_pos valid]
      · rw [if_neg valid, if_neg valid]
        by_cases early : now < current.token_issued_at + SESSION_ROTATION_INTERVAL
        · rw [if_pos early, if_pos early]
        · rw [if_neg early, if_neg early, if_neg]
          simp only [Bool.or_eq_true, Bool.not_eq_true', not_or, Bool.not_eq_false] at valid
          exact not_le.mpr (below current (locked_family_ok locked).1 now valid.1 (not_lt.mp early))

end

/-- After every sequence of transactions at any moments, the rows are of an age
    that allows for their generations, a due rotation finds its row below the
    cap, and rotations do what they do without it. -/
theorem generation_cap (digests : Digests) (history : List (Nat × Transaction)) :
    (∀ row ∈ apply_all digests history, ∃ start, Started history row.family_hash start ∧ row.expires_at = start + SESSION_LIFETIME ∧
      row.generation * SESSION_ROTATION_INTERVAL ≤ row.token_issued_at - start) ∧
    (∀ row ∈ apply_all digests history, ∀ now, is_active now row = true → row.token_issued_at + SESSION_ROTATION_INTERVAL ≤ now →
      now < row.expires_at ∧ row.generation < MAX_SESSION_GENERATION) ∧
    ∀ directory token csrf_token now fresh,
      rotate_browser_session digests directory token csrf_token now fresh (apply_all digests history) =
        rotate_uncapped digests directory token csrf_token now fresh (apply_all digests history) := by
  have aged : ∀ row ∈ apply_all digests history, Aged history (stem row) := fun row member =>
    aged_all history _ (List.mem_map_of_mem member)
  have below : ∀ row ∈ apply_all digests history, ∀ now, is_active now row = true → row.token_issued_at + SESSION_ROTATION_INTERVAL ≤ now →
      row.generation < MAX_SESSION_GENERATION := fun row member now active due =>
    below_cap (aged row member) due (unexpired_of_active active)
  exact ⟨aged, fun row member now active due => ⟨unexpired_of_active active, below row member now active due⟩, rotate_eq_uncapped below⟩

/-- A session that is rotated and touched until its successor is due, and one
    that an earlier clock issues after it. -/
def exampleHistory : List (Nat × Transaction) :=
  [(0, .request (.issue 0 oneOwner 1 firstToken "family".toList)),
    (1, .request (.resolve (25 * 60 * SECOND) oneOwner firstToken {} true)),
    (1, .request (.resolve (50 * 60 * SECOND) oneOwner firstToken {} true)),
    (1, .request (.rotate SESSION_ROTATION_INTERVAL oneOwner firstToken (tokenDigests.csrf firstToken) secondToken)),
    (2, .request (.resolve (85 * 60 * SECOND) oneOwner secondToken {} true)),
    (2, .request (.resolve (110 * 60 * SECOND) oneOwner secondToken {} true)),
    (2, .request (.issue (-SECOND) oneOwner 1 (List.replicate 43 'C') "another".toList))]

theorem generation_cap_example :
    (apply_all tokenDigests exampleHistory).map (fun row => (row.generation, row.token_issued_at)) =
        [(0, 0), (1, SESSION_ROTATION_INTERVAL), (0, -SECOND)] ∧
      ∃ row ∈ apply_all tokenDigests exampleHistory, is_active (2 * SESSION_ROTATION_INTERVAL) row = true ∧
        2 * SESSION_ROTATION_INTERVAL < row.expires_at ∧ row.generation < MAX_SESSION_GENERATION := by
  have due : ∃ row ∈ apply_all tokenDigests exampleHistory, is_active (2 * SESSION_ROTATION_INTERVAL) row = true ∧
      row.token_issued_at + SESSION_ROTATION_INTERVAL ≤ 2 * SESSION_ROTATION_INTERVAL := by decide +kernel
  obtain ⟨row, member, active, old⟩ := due
  exact ⟨by decide +kernel, row, member, active, (generation_cap tokenDigests exampleHistory).2.1 row member _ active old⟩

end RedDock.SessionGenerations
