import RedDock.Admissions
import RedDock.KeyedRows
import RedDock.LoginAttempts

/-!
# One-time logins

In every order of the calls, a login attempt is consumed at most once and ends
in one session at most. The row of an attempt is there from the commit of its
login to the commit of the first callback that names it, and a callback keeps
what it burned to its end.
-/
set_option autoImplicit false
namespace RedDock.OneTimeLogins
open Text Team IdTokens LoginAttempts Runs Admissions
open Sessions (Digests IssuedSession)

variable {digests : Digests} {registry : Claims → Int → Bool} {config : Config}

/-- A text that is presented for another is the same text, as far as a digest
    tells texts apart. -/
def Presents (digest : Text → Text) (presented own : Text) : Prop :=
  presented = own ∨ (presented ≠ own ∧ digest presented = digest own)

theorem presents_of_digest {digest : Text → Text} {presented own : Text} (same : digest presented = digest own) :
    Presents digest presented own := by
  by_cases equal : presented = own
  · exact Or.inl equal
  · exact Or.inr ⟨equal, same⟩

/-- The attempt that a login committed. -/
def attempt_of (logins : List Login) (login : Nat) : Option IssuedLoginAttempt := (logins[login]?).bind (·.attempt)

/-! ### The two operations -/

/-- A row that holds the digests of an attempt. -/
structure Stores (digest : Text → Text) (row : OidcLoginAttempt) (attempt : IssuedLoginAttempt) : Prop where
  state : row.state_hash = digest attempt.state
  browser_token : row.browser_token_hash = digest attempt.browser_token
  nonce : row.nonce_hash = digest attempt.nonce
  expires_at : row.expires_at = attempt.expires_at

/-- A login adds a row of its own to some of the rows there were. -/
theorem issue_login_attempt_rows {digest : Text → Text} {login : Nat} {now : Int} {secrets : Secrets}
    {rows rows' : List OidcLoginAttempt} {attempt : IssuedLoginAttempt}
    (issued : issue_login_attempt digest login now secrets rows = some (rows', attempt)) :
    ∃ kept record, kept.Sublist rows ∧ rows' = kept ++ [record] ∧ record.login = login ∧ Stores digest record attempt := by
  unfold issue_login_attempt at issued
  simp only at issued
  split at issued
  · cases issued
  split at issued
  · cases issued
  split at issued
  · cases issued
  · cases issued
    exact ⟨_, _, List.filter_sublist, rfl, rfl, ⟨rfl, rfl, rfl, rfl⟩⟩

/-- A callback takes the row it names out of the rows. -/
theorem consume_login_attempt_row {digest : Text → Text} {state browser_token : Text} {now : Int}
    {rows rows' : List OidcLoginAttempt} {consumed : ConsumedLoginAttempt}
    (took : consume_login_attempt digest state browser_token now rows = some (rows', consumed)) :
    ∃ row ∈ rows, names digest state browser_token now row = true ∧ consumed.login = row.login ∧
      consumed.nonce_hash = row.nonce_hash ∧ rows'.Sublist rows ∧
      rows' = rows.filter fun row => !names digest state browser_token now row := by
  unfold consume_login_attempt at took
  split at took
  · cases took
  split at took
  · rename_i row only
    cases took
    have listed : row ∈ rows.filter (names digest state browser_token now) := by rw [only]; exact List.mem_singleton_self row
    obtain ⟨member, named⟩ := List.mem_filter.mp listed
    exact ⟨row, member, named, rfl, rfl, List.filter_sublist, rfl⟩
  · cases took

/-! ### What a step does -/

/-- A phase before an attempt is committed. -/
def starting : LoginPhase → Bool
  | .requested | .admitted | .discovered => true
  | _ => false

/-- A phase before anything is burned. -/
def early : CallbackPhase → Bool
  | .received | .admitted => true
  | _ => false

/-- The attempt a phase works on. -/
def working : CallbackPhase → Option ConsumedLoginAttempt
  | .burned attempt | .exchanged attempt | .verified attempt _ => some attempt
  | _ => none

/-- A phase past the check of the ID token. -/
def accepted : CallbackPhase → Bool
  | .verified _ _ | .granted _ => true
  | _ => false

/-- A callback that failed, or is about to. -/
def lost : CallbackPhase → Bool
  | .denied _ | .failed => true
  | _ => false

/-- An ID token was accepted whose nonce has the digest of what was burned. -/
def NonceBound (digest : Text → Text) (c : Callback) : Prop :=
  ∃ taken claims nonce, c.taken = some taken ∧ c.claims = some claims ∧ claims.nonce = .text nonce ∧
    digest nonce = taken.attempt.nonce_hash

/-- A callback whose phase agrees with what it keeps. -/
structure Sound (digest : Text → Text) (c : Callback) : Prop where
  early : early c.phase = true → c.taken = none
  working : ∀ attempt, working c.phase = some attempt → ∃ consumed_at, c.taken = some ⟨attempt, consumed_at⟩
  accepted : accepted c.phase = true → NonceBound digest c

/-- A callback that goes on with what it has. -/
structure Proceeds (digest : Text → Text) (c c' : Callback) : Prop where
  request : c'.request = c.request
  taken : c'.taken = c.taken
  lost : lost c.phase = true → lost c'.phase = true
  granted : ∀ session, c'.phase ≠ .granted session
  ongoing : ∀ session, c.phase ≠ .granted session
  sound : Sound digest c → Sound digest c'

/-- Everything a step can do. -/
inductive Moves (digest : Text → Text) (w : World) : World → Prop
  | log_in : Moves digest w { w with logins := w.logins ++ [{}] }
  | arrive {request : CallbackRequest} : Moves digest w { w with callbacks := w.callbacks ++ [{ request := request }] }
  | login {number : Nat} {login : Login} {phase : LoginPhase} : w.logins[number]? = some login →
      (starting phase = true → starting login.phase = true) →
      Moves digest w (w.at_login number { login with phase := phase })
  | issue {number : Nat} {login : Login} {now : Int} {secrets : Secrets} {attempts : List OidcLoginAttempt}
      {attempt : IssuedLoginAttempt} : w.logins[number]? = some login → login.phase = .discovered →
      issue_login_attempt digest number now secrets w.attempts = some (attempts, attempt) →
      Moves digest w { w.at_login number { phase := .issued, attempt := some attempt } with attempts := attempts }
  | callback {number : Nat} {c c' : Callback} {db : Database} : w.callbacks[number]? = some c → Proceeds digest c c' →
      Moves digest w { w.at_callback number c' with db := db }
  | burn {number : Nat} {c : Callback} {now : Int} {attempts : List OidcLoginAttempt} {attempt : ConsumedLoginAttempt} :
      w.callbacks[number]? = some c → c.phase = .admitted →
      consume_login_attempt digest c.request.state c.request.browser_token now w.attempts = some (attempts, attempt) →
      Moves digest w { w.at_callback number { c with phase := .burned attempt, taken := some ⟨attempt, now⟩ } with
        attempts := attempts }
  | grant {number : Nat} {c : Callback} {attempt : ConsumedLoginAttempt} {identity : VerifiedIdentity} {session : IssuedSession}
      {db : Database} : w.callbacks[number]? = some c → c.phase = .verified attempt identity →
      Moves digest w { w.at_callback number { c with phase := .granted session } with
        db := db
        issued := w.issued ++ [(attempt.login, session)] }
  | elsewhere {db : Database} : Moves digest w { w with db := db }

theorem login_step_moves {w w' : World} {number : Nat} {login : Login} {event : LoginEvent} (here : w.logins[number]? = some login)
    (stepped : login_step digests w number login event = some w') : Moves digests.digest w w' := by
  unfold login_step at stepped
  cases event with
  | limit allowed =>
    simp only at stepped
    split at stepped
    · rename_i phase
      cases stepped
      exact .login here fun _ => by rw [phase]; rfl
    · cases stepped
  | discover answers =>
    simp only at stepped
    split at stepped
    · rename_i phase
      cases stepped
      exact .login here fun _ => by rw [phase]; rfl
    · cases stepped
  | issue now secrets commits =>
    simp only at stepped
    split at stepped
    · rename_i phase
      split at stepped
      · rename_i attempts attempt issued
        split at stepped
        · cases stepped
          exact .issue here phase issued
        · cases stepped
          exact .login here fun starts => by cases starts
      · cases stepped
        exact .login here fun starts => by cases starts
    · cases stepped
  | answer answers =>
    simp only at stepped
    split at stepped
    · cases stepped
      refine .login here fun starts => ?_
      cases answers <;> cases starts
    · cases stepped
  | abort =>
    simp only at stepped
    split at stepped
    · cases stepped
    · cases stepped
      exact .login here fun starts => by cases starts

theorem lost_quiet {phase : CallbackPhase} (is : lost phase = true) :
    early phase = false ∧ working phase = none ∧ accepted phase = false := by
  cases phase with
  | denied | failed => exact ⟨rfl, rfl, rfl⟩
  | _ => cases is

/-- A callback that gives up, whatever it was at. -/
theorem proceeds_lost {digest : Text → Text} {c : Callback} {phase : CallbackPhase} (ongoing : ∀ session, c.phase ≠ .granted session)
    (gives_up : lost phase = true) : Proceeds digest c { c with phase := phase } where
  request := rfl
  taken := rfl
  lost := fun _ => gives_up
  granted := fun session same => by subst same; cases gives_up
  ongoing := ongoing
  sound := fun _ => by
    obtain ⟨not_early, idle, unaccepted⟩ := lost_quiet gives_up
    exact ⟨fun is => by simp [not_early] at is, fun attempt is => by simp [idle] at is, fun is => by simp [unaccepted] at is⟩

theorem callback_step_moves {w w' : World} {number : Nat} {c : Callback} {event : CallbackEvent} (here : w.callbacks[number]? = some c)
    (stepped : callback_step digests registry config w number c event = some w') : Moves digests.digest w w' := by
  unfold callback_step at stepped
  cases event with
  | limit allowed =>
    simp only at stepped
    split at stepped
    · rename_i phase
      cases stepped
      cases allowed with
      | false => exact .callback here (proceeds_lost (fun session => by rw [phase]; nofun) rfl)
      | true =>
        refine .callback here ⟨rfl, rfl, fun is => ?_, nofun, fun session => (by rw [phase]; nofun), fun sound => ?_⟩
        · rw [phase] at is
          cases is
        · exact ⟨fun _ => sound.early (by rw [phase]; rfl), fun _ is => (by cases is), fun is => (by cases is)⟩
    · cases stepped
  | burn now commits =>
    simp only at stepped
    split at stepped
    · rename_i phase
      have ongoing : ∀ session, c.phase ≠ .granted session := fun session => by rw [phase]; nofun
      split at stepped
      · cases stepped
        exact .callback here (proceeds_lost ongoing rfl)
      split at stepped
      · rename_i attempts attempt took
        split at stepped
        · cases stepped
          exact .burn here phase took
        · cases stepped
          exact .callback here (proceeds_lost ongoing rfl)
      · cases stepped
        exact .callback here (proceeds_lost ongoing rfl)
    · cases stepped
  | exchange answers =>
    simp only at stepped
    split at stepped
    · rename_i attempt phase
      have ongoing : ∀ session, c.phase ≠ .granted session := fun session => by rw [phase]; nofun
      cases stepped
      cases answers with
      | false => exact .callback here (proceeds_lost ongoing rfl)
      | true =>
        refine .callback here ⟨rfl, rfl, fun is => ?_, nofun, ongoing, fun sound => ?_⟩
        · rw [phase] at is
          cases is
        · refine ⟨fun is => (by cases is), fun _ is => ?_, fun is => (by cases is)⟩
          cases is
          exact sound.working attempt (by rw [phase]; rfl)
    · cases stepped
  | validate now claims =>
    simp only at stepped
    split at stepped
    · rename_i attempt phase
      have ongoing : ∀ session, c.phase ≠ .granted session := fun session => by rw [phase]; nofun
      split at stepped
      · cases stepped
        exact .callback here (proceeds_lost ongoing rfl)
      split at stepped
      · cases stepped
        exact .callback here (proceeds_lost ongoing rfl)
      · rename_i claims _ identity valid
        cases stepped
        refine .callback here ⟨rfl, rfl, fun is => ?_, nofun, ongoing, fun sound => ?_⟩
        · rw [phase] at is
          cases is
        · obtain ⟨consumed_at, taken⟩ := sound.working attempt (by rw [phase]; rfl)
          refine ⟨fun is => (by cases is), fun _ is => ?_, fun _ => ?_⟩
          · cases is
            exact ⟨consumed_at, taken⟩
          · obtain ⟨nonce, carried, same⟩ := validate_id_token_nonce valid
            exact ⟨_, claims, nonce, taken, rfl, carried, same⟩
    · cases stepped
  | record commits =>
    simp only at stepped
    split at stepped
    · rename_i reason_code phase
      cases stepped
      exact .callback here (proceeds_lost (fun session => by rw [phase]; nofun) rfl)
    · cases stepped
  | grant now fresh commits =>
    simp only at stepped
    split at stepped
    · rename_i attempt identity phase
      have ongoing : ∀ session, c.phase ≠ .granted session := fun session => by rw [phase]; nofun
      split at stepped
      · split at stepped
        · cases stepped
          exact .grant here phase
        · cases stepped
          exact .callback here (proceeds_lost ongoing rfl)
      · cases stepped
        exact .callback here (proceeds_lost ongoing rfl)
    · cases stepped
  | abort =>
    simp only at stepped
    split at stepped
    · cases stepped
    · rename_i ongoing
      cases stepped
      exact .callback here (proceeds_lost ongoing rfl)

theorem step_moves {w w' : World} {action : Action} (stepped : step digests registry config w action = some w') :
    Moves digests.digest w w' := by
  cases action with
  | begin_login =>
    cases stepped
    exact .log_in
  | complete_callback request =>
    cases stepped
    exact .arrive
  | login number event =>
    obtain ⟨login, here, moved⟩ := Option.bind_eq_some_iff.mp stepped
    exact login_step_moves here moved
  | callback number event =>
    obtain ⟨c, here, moved⟩ := Option.bind_eq_some_iff.mp stepped
    exact callback_step_moves here moved
  | elsewhere db =>
    cases stepped
    exact .elsewhere

/-! ### The invariant -/

/-- What a callback burned is an attempt of its login, and the callback named
    it in time. -/
structure Burned (digest : Text → Text) (request : CallbackRequest) (taken : Taken) (attempt : IssuedLoginAttempt) : Prop where
  state : digest request.state = digest attempt.state
  browser_token : digest request.browser_token = digest attempt.browser_token
  nonce : taken.attempt.nonce_hash = digest attempt.nonce
  in_time : taken.consumed_at < attempt.expires_at

structure Inv (digest : Text → Text) (w : World) : Prop where
  /-- A login that is still under way has committed no attempt. -/
  fresh : ∀ login ∈ w.logins, starting login.phase = true → login.attempt = none
  rows_distinct : (w.attempts.map (·.login)).Nodup
  rows : ∀ row ∈ w.attempts, ∃ attempt, attempt_of w.logins row.login = some attempt ∧ Stores digest row attempt
  burned : ∀ c ∈ w.callbacks, ∀ taken, c.taken = some taken →
    ∃ attempt, attempt_of w.logins taken.attempt.login = some attempt ∧ Burned digest c.request taken attempt
  gone : ∀ c ∈ w.callbacks, ∀ taken, c.taken = some taken → taken.attempt.login ∉ w.attempts.map (·.login)
  once : ∀ (i j : Nat) (c c' : Callback) (taken taken' : Taken), w.callbacks[i]? = some c → w.callbacks[j]? = some c' →
    c.taken = some taken → c'.taken = some taken' → taken.attempt.login = taken'.attempt.login → i = j
  sound : ∀ c ∈ w.callbacks, Sound digest c
  issued_once : (w.issued.map (·.1)).Nodup
  issued : ∀ entry ∈ w.issued, ∃ c ∈ w.callbacks, ∃ taken, c.phase = .granted entry.2 ∧ c.taken = some taken ∧
    taken.attempt.login = entry.1
  logged : ∀ c ∈ w.callbacks, ∀ session, c.phase = .granted session →
    ∃ taken, c.taken = some taken ∧ (taken.attempt.login, session) ∈ w.issued

/-- A login whose attempts stay is all that the rest of a step needs of it. -/
theorem attempt_of_set {logins : List Login} {number : Nat} {login : Login} {phase : LoginPhase}
    (here : logins[number]? = some login) (other : Nat) :
    attempt_of (logins.set number { login with phase := phase }) other = attempt_of logins other := by
  unfold attempt_of
  by_cases same : other = number
  · subst same
    obtain ⟨inside, -⟩ := List.getElem?_eq_some_iff.mp here
    rw [List.getElem?_set_self inside, here]
    rfl
  · rw [List.getElem?_set_ne (Ne.symm same)]

theorem attempt_of_append {logins : List Login} {login : Nat} {attempt : IssuedLoginAttempt} (arrived : Login)
    (found : attempt_of logins login = some attempt) : attempt_of (logins ++ [arrived]) login = some attempt := by
  unfold attempt_of at found ⊢
  obtain ⟨committed, here, has⟩ := Option.bind_eq_some_iff.mp found
  rw [List.getElem?_append_left (List.getElem?_eq_some_iff.mp here).1, here]
  exact has

/-- A login's own attempt hides no other. -/
theorem attempt_of_commit {logins : List Login} {number login : Nat} {committing : Login} {attempt : IssuedLoginAttempt}
    (moved : Login) (here : logins[number]? = some committing) (none : committing.attempt = none)
    (found : attempt_of logins login = some attempt) : login ≠ number ∧ attempt_of (logins.set number moved) login = some attempt := by
  have other : login ≠ number := by
    rintro rfl
    rw [attempt_of, here, Option.bind_some, none] at found
    cases found
  refine ⟨other, ?_⟩
  unfold attempt_of at found ⊢
  rwa [List.getElem?_set_ne (Ne.symm other)]

section
variable {digest : Text → Text} {w : World}

theorem Inv.begin_login (inv : Inv digest w) : Inv digest { w with logins := w.logins ++ [{}] } where
  fresh := by
    intro login member starts
    rcases List.mem_append.mp member with old | new
    · exact inv.fresh login old starts
    · rw [List.mem_singleton.mp new]
  rows_distinct := inv.rows_distinct
  rows := fun row member =>
    have ⟨attempt, found, stores⟩ := inv.rows row member
    ⟨attempt, attempt_of_append _ found, stores⟩
  burned := fun c member taken took =>
    have ⟨attempt, found, burned⟩ := inv.burned c member taken took
    ⟨attempt, attempt_of_append _ found, burned⟩
  gone := inv.gone
  once := inv.once
  sound := inv.sound
  issued_once := inv.issued_once
  issued := inv.issued
  logged := inv.logged

theorem Inv.login (inv : Inv digest w) {number : Nat} {login : Login} {phase : LoginPhase} (here : w.logins[number]? = some login)
    (starts : starting phase = true → starting login.phase = true) :
    Inv digest (w.at_login number { login with phase := phase }) where
  fresh := by
    intro login' member starts'
    rcases List.mem_or_eq_of_mem_set member with old | rfl
    · exact inv.fresh login' old starts'
    · exact inv.fresh login (List.mem_of_getElem? here) (starts starts')
  rows_distinct := inv.rows_distinct
  rows := fun row member =>
    have ⟨attempt, found, stores⟩ := inv.rows row member
    ⟨attempt, (attempt_of_set here _).trans found, stores⟩
  burned := fun c member taken took =>
    have ⟨attempt, found, burned⟩ := inv.burned c member taken took
    ⟨attempt, (attempt_of_set here _).trans found, burned⟩
  gone := inv.gone
  once := inv.once
  sound := inv.sound
  issued_once := inv.issued_once
  issued := inv.issued
  logged := inv.logged

/-- The new row is the first of its login, and nobody has consumed one of it. -/
theorem Inv.issue (inv : Inv digest w) {number : Nat} {login : Login} {now : Int} {secrets : Secrets}
    {attempts : List OidcLoginAttempt} {attempt : IssuedLoginAttempt} (here : w.logins[number]? = some login)
    (phase : login.phase = .discovered) (issued : issue_login_attempt digest number now secrets w.attempts = some (attempts, attempt)) :
    Inv digest { w.at_login number { phase := .issued, attempt := some attempt } with attempts := attempts } := by
  obtain ⟨kept, record, sublist, rfl, own, stores⟩ := issue_login_attempt_rows issued
  have none : login.attempt = none := inv.fresh login (List.mem_of_getElem? here) (by rw [phase]; rfl)
  obtain ⟨inside, -⟩ := List.getElem?_eq_some_iff.mp here
  have committed : ∀ login' attempt', attempt_of w.logins login' = some attempt' → login' ≠ number ∧
      attempt_of (w.logins.set number { phase := .issued, attempt := some attempt }) login' = some attempt' :=
    fun _ _ found => attempt_of_commit _ here none found
  refine { inv with fresh := ?_, rows_distinct := ?_, rows := ?_, burned := ?_, gone := ?_ }
  · intro login' member starts
    rcases List.mem_or_eq_of_mem_set member with old | rfl
    · exact inv.fresh login' old starts
    · cases starts
  · rw [List.map_append, List.nodup_append]
    refine ⟨inv.rows_distinct.sublist (sublist.map _), List.nodup_singleton _, ?_⟩
    intro one listed other new same
    obtain ⟨row, member, rfl⟩ := List.mem_map.mp listed
    obtain ⟨attempt', found, -⟩ := inv.rows row (sublist.subset member)
    rw [List.map_singleton, List.mem_singleton] at new
    exact (committed _ _ found).1 (same.trans (new.trans own))
  · intro row member
    rcases List.mem_append.mp member with old | new
    · obtain ⟨attempt', found, stores'⟩ := inv.rows row (sublist.subset old)
      exact ⟨attempt', (committed _ _ found).2, stores'⟩
    · rw [List.mem_singleton.mp new]
      refine ⟨attempt, ?_, stores⟩
      show attempt_of (w.logins.set number _) record.login = _
      rw [own, attempt_of, List.getElem?_set_self inside]
      rfl
  · intro c member taken took
    obtain ⟨attempt', found, burned⟩ := inv.burned c member taken took
    exact ⟨attempt', (committed _ _ found).2, burned⟩
  · intro c member taken took listed
    obtain ⟨attempt', found, -⟩ := inv.burned c member taken took
    rw [List.map_append, List.mem_append, List.map_singleton, List.mem_singleton] at listed
    rcases listed with old | new
    · exact inv.gone c member taken took ((sublist.map _).subset old)
    · exact (committed _ _ found).1 (new.trans own)

theorem Inv.arrive (inv : Inv digest w) (request : CallbackRequest) :
    Inv digest { w with callbacks := w.callbacks ++ [{ request := request }] } := by
  have cases_of : ∀ c ∈ w.callbacks ++ [({ request := request } : Callback)], c ∈ w.callbacks ∨ c = { request := request } :=
    fun c member => (List.mem_append.mp member).imp_right List.mem_singleton.mp
  refine { inv with burned := ?_, gone := ?_, once := ?_, sound := ?_, issued := ?_, logged := ?_ }
  · intro c member taken took
    rcases cases_of c member with old | rfl
    · exact inv.burned c old taken took
    · cases took
  · intro c member taken took
    rcases cases_of c member with old | rfl
    · exact inv.gone c old taken took
    · cases took
  · intro i j c c' taken taken' there there' took took' same
    rcases getElem?_arrive there with old | rfl
    · rcases getElem?_arrive there' with old' | rfl
      · exact inv.once i j c c' taken taken' old old' took took' same
      · cases took'
    · cases took
  · intro c member
    rcases cases_of c member with old | rfl
    · exact inv.sound c old
    · exact ⟨fun _ => rfl, fun _ is => (by cases is), fun is => (by cases is)⟩
  · intro entry listed
    obtain ⟨c, member, taken, is⟩ := inv.issued entry listed
    exact ⟨c, List.mem_append_left _ member, taken, is⟩
  · intro c member session is
    rcases cases_of c member with old | rfl
    · exact inv.logged c old session is
    · cases is

/-- The callbacks that a session was issued to stay, where another one moves. -/
theorem Inv.issued_set (inv : Inv digest w) {number : Nat} {c : Callback} (here : w.callbacks[number]? = some c)
    (ongoing : ∀ session, c.phase ≠ .granted session) (c' : Callback) : ∀ entry ∈ w.issued,
      ∃ other ∈ w.callbacks.set number c', ∃ taken, other.phase = .granted entry.2 ∧ other.taken = some taken ∧
        taken.attempt.login = entry.1 := by
  intro entry listed
  obtain ⟨other, inside, taken, granted, is⟩ := inv.issued entry listed
  obtain ⟨i, there⟩ := List.getElem?_of_mem inside
  have different : i ≠ number := by
    rintro rfl
    rw [here, Option.some.injEq] at there
    exact ongoing entry.2 (there ▸ granted)
  exact ⟨other, List.mem_of_getElem? ((List.getElem?_set_ne (Ne.symm different)).trans there), taken, granted, is⟩

/-- A callback that keeps what it took is still the only one that took it. -/
theorem Inv.once_set (inv : Inv digest w) {number : Nat} {c c' : Callback} (here : w.callbacks[number]? = some c)
    (kept : c'.taken = c.taken) : ∀ (i j : Nat) (one other : Callback) (taken taken' : Taken),
      (w.callbacks.set number c')[i]? = some one → (w.callbacks.set number c')[j]? = some other → one.taken = some taken →
        other.taken = some taken' → taken.attempt.login = taken'.attempt.login → i = j := by
  have before : ∀ (i : Nat) (one : Callback), (w.callbacks.set number c')[i]? = some one →
      ∃ old, w.callbacks[i]? = some old ∧ old.taken = one.taken := by
    intro i one there
    rcases getElem?_moved there with ⟨rfl, rfl⟩ | ⟨-, old⟩
    · exact ⟨c, here, kept.symm⟩
    · exact ⟨one, old, rfl⟩
  intro i j one other taken taken' there there' took took' same
  obtain ⟨old, first, has⟩ := before i one there
  obtain ⟨old', second, has'⟩ := before j other there'
  exact inv.once i j old old' taken taken' first second (has.trans took) (has'.trans took') same

/-- A callback that goes on changes nothing that was burned or issued. -/
theorem Inv.callback (inv : Inv digest w) {number : Nat} {c c' : Callback} (here : w.callbacks[number]? = some c)
    (proceeds : Proceeds digest c c') (db : Database) : Inv digest { w.at_callback number c' with db := db } := by
  have member := List.mem_of_getElem? here
  refine { inv with burned := ?_, gone := ?_, once := ?_, sound := ?_, issued := ?_, logged := ?_ }
  · intro other inside taken took
    rcases List.mem_or_eq_of_mem_set inside with old | rfl
    · exact inv.burned other old taken took
    · rw [proceeds.request]
      exact inv.burned c member taken (proceeds.taken ▸ took)
  · intro other inside taken took
    rcases List.mem_or_eq_of_mem_set inside with old | rfl
    · exact inv.gone other old taken took
    · exact inv.gone c member taken (proceeds.taken ▸ took)
  · exact inv.once_set here proceeds.taken
  · intro other inside
    rcases List.mem_or_eq_of_mem_set inside with old | rfl
    · exact inv.sound other old
    · exact proceeds.sound (inv.sound c member)
  · exact inv.issued_set here proceeds.ongoing c'
  · intro other inside session is
    rcases List.mem_or_eq_of_mem_set inside with old | rfl
    · exact inv.logged other old session is
    · exact absurd is (proceeds.granted session)

/-- The row is gone with the commit that burned it, and no other callback has
    burned one of its login. -/
theorem Inv.burn (inv : Inv digest w) {number : Nat} {c : Callback} {now : Int} {attempts : List OidcLoginAttempt}
    {attempt : ConsumedLoginAttempt} (here : w.callbacks[number]? = some c) (phase : c.phase = .admitted)
    (took : consume_login_attempt digest c.request.state c.request.browser_token now w.attempts = some (attempts, attempt)) :
    Inv digest { w.at_callback number { c with phase := .burned attempt, taken := some ⟨attempt, now⟩ } with
      attempts := attempts } := by
  obtain ⟨row, listed, named, own, bound, sublist, left⟩ := consume_login_attempt_row took
  simp only [names, decide_eq_true_eq] at named
  obtain ⟨issued, found, stores⟩ := inv.rows row listed
  have login_listed : attempt.login ∈ w.attempts.map (·.login) := own ▸ List.mem_map_of_mem listed
  have login_left : attempt.login ∉ attempts.map (·.login) := by
    intro still
    obtain ⟨other, inside, same⟩ := List.mem_map.mp still
    have is := KeyedRows.eq_of_key inv.rows_distinct (sublist.subset inside) listed (same.trans own)
    rw [left, is] at inside
    have unnamed := (List.mem_filter.mp inside).2
    simp [names, named] at unnamed
  refine { inv with rows_distinct := ?_, rows := ?_, burned := ?_, gone := ?_, once := ?_, sound := ?_, issued := ?_, logged := ?_ }
  · exact inv.rows_distinct.sublist (sublist.map _)
  · exact fun other inside => inv.rows other (sublist.subset inside)
  · intro other inside taken has
    rcases List.mem_or_eq_of_mem_set inside with old | rfl
    · exact inv.burned other old taken has
    · cases has
      refine ⟨issued, own ▸ found, named.1.symm.trans stores.state, named.2.1.symm.trans stores.browser_token,
        bound.trans stores.nonce, ?_⟩
      rw [← stores.expires_at]
      exact named.2.2
  · intro other inside taken has
    rcases List.mem_or_eq_of_mem_set inside with old | rfl
    · exact fun still => inv.gone other old taken has ((sublist.map _).subset still)
    · cases has
      exact login_left
  · -- a row that is there has been burned by nobody
    have unburned : ∀ (i : Nat) (other : Callback) (taken : Taken), w.callbacks[i]? = some other → other.taken = some taken →
        taken.attempt.login ≠ attempt.login :=
      fun i other taken there has same => inv.gone other (List.mem_of_getElem? there) taken has (same ▸ login_listed)
    intro i j one other taken taken' there there' has has' same
    rcases getElem?_moved there with ⟨rfl, rfl⟩ | ⟨-, old⟩
    · rcases getElem?_moved there' with ⟨rfl, -⟩ | ⟨-, old'⟩
      · rfl
      · cases has
        exact absurd same.symm (unburned j other taken' old' has')
    · rcases getElem?_moved there' with ⟨rfl, rfl⟩ | ⟨-, old'⟩
      · cases has'
        exact absurd same (unburned i one taken old has)
      · exact inv.once i j one other taken taken' old old' has has' same
  · intro other inside
    rcases List.mem_or_eq_of_mem_set inside with old | rfl
    · exact inv.sound other old
    · refine ⟨fun is => (by cases is), fun attempt' is => ?_, fun is => (by cases is)⟩
      cases is
      exact ⟨now, rfl⟩
  · exact inv.issued_set here (fun session => by rw [phase]; nofun) _
  · intro other inside session is
    rcases List.mem_or_eq_of_mem_set inside with old | rfl
    · exact inv.logged other old session is
    · cases is

/-- The first session of its attempt: another one would be of a callback that
    burned the same attempt. -/
theorem Inv.grant (inv : Inv digest w) {number : Nat} {c : Callback} {attempt : ConsumedLoginAttempt}
    {identity : VerifiedIdentity} {session : IssuedSession} (here : w.callbacks[number]? = some c)
    (phase : c.phase = .verified attempt identity) (db : Database) :
    Inv digest { w.at_callback number { c with phase := .granted session } with
      db := db
      issued := w.issued ++ [(attempt.login, session)] } := by
  have member := List.mem_of_getElem? here
  obtain ⟨consumed_at, taken_is⟩ := (inv.sound c member).working attempt (by rw [phase]; rfl)
  have bound := (inv.sound c member).accepted (by rw [phase]; rfl)
  have ongoing : ∀ session, c.phase ≠ .granted session := fun session => by rw [phase]; nofun
  refine { inv with burned := ?_, gone := ?_, once := ?_, sound := ?_, issued_once := ?_, issued := ?_, logged := ?_ }
  · intro other inside taken took
    rcases List.mem_or_eq_of_mem_set inside with old | rfl
    · exact inv.burned other old taken took
    · exact inv.burned c member taken took
  · intro other inside taken took
    rcases List.mem_or_eq_of_mem_set inside with old | rfl
    · exact inv.gone other old taken took
    · exact inv.gone c member taken took
  · exact inv.once_set here rfl
  · intro other inside
    rcases List.mem_or_eq_of_mem_set inside with old | rfl
    · exact inv.sound other old
    · exact ⟨fun is => (by cases is), fun _ is => (by cases is), fun _ => bound⟩
  · rw [List.map_append, List.nodup_append]
    refine ⟨inv.issued_once, List.nodup_singleton _, ?_⟩
    intro login listed other new same
    obtain ⟨entry, inside, rfl⟩ := List.mem_map.mp listed
    obtain ⟨other_callback, inCallbacks, taken, granted, took, is⟩ := inv.issued entry inside
    obtain ⟨i, there⟩ := List.getElem?_of_mem inCallbacks
    rw [List.map_singleton, List.mem_singleton] at new
    obtain rfl := inv.once i number other_callback c taken _ there here took taken_is (is.trans (same.trans new))
    rw [here, Option.some.injEq] at there
    exact ongoing entry.2 (there ▸ granted)
  · intro entry listed
    rcases List.mem_append.mp listed with old | new
    · exact inv.issued_set here ongoing _ entry old
    · rw [List.mem_singleton.mp new]
      obtain ⟨inside, -⟩ := List.getElem?_eq_some_iff.mp here
      exact ⟨_, List.mem_of_getElem? (List.getElem?_set_self inside), _, rfl, taken_is, rfl⟩
  · intro other inside session' is
    rcases List.mem_or_eq_of_mem_set inside with old | rfl
    · obtain ⟨taken, took, listed⟩ := inv.logged other old session' is
      exact ⟨taken, took, List.mem_append_left _ listed⟩
    · cases is
      exact ⟨_, taken_is, List.mem_append_right _ (List.mem_singleton_self _)⟩

theorem Moves.inv {w' : World} (moves : Moves digest w w') (inv : Inv digest w) : Inv digest w' := by
  cases moves with
  | log_in => exact inv.begin_login
  | arrive => exact inv.arrive _
  | login here starts => exact inv.login here starts
  | issue here phase issued => exact inv.issue here phase issued
  | callback here proceeds => exact inv.callback here proceeds _
  | burn here phase took => exact inv.burn here phase took
  | grant here phase => exact inv.grant here phase _
  | elsewhere => exact { inv with }

end

/-! ### Runs -/

/-- What holds of a callback that was given a session for an attempt. -/
structure Completed (digest : Text → Text) (c : Callback) (session : IssuedSession) (taken : Taken) (attempt : IssuedLoginAttempt)
    (claims : Claims) (nonce : Text) : Prop where
  granted : c.phase = .granted session
  took : c.taken = some taken
  state : Presents digest c.request.state attempt.state
  browser_token : Presents digest c.request.browser_token attempt.browser_token
  in_time : taken.consumed_at < attempt.expires_at
  accepted : c.claims = some claims
  carries : claims.nonce = .text nonce
  nonce : Presents digest nonce attempt.nonce

/-- Login attempts are one-time. -/
structure OneTime (digest : Text → Text) (w : World) : Prop where
  /-- An attempt is consumed at most once: its row is gone, and no other
      callback has taken it. -/
  consumed : ∀ (number : Nat) (c : Callback) (taken : Taken), w.callbacks[number]? = some c → c.taken = some taken →
    taken.attempt.login ∉ w.attempts.map (·.login) ∧
      ∀ (number' : Nat) (c' : Callback) (taken' : Taken), w.callbacks[number']? = some c' → c'.taken = some taken' →
        taken'.attempt.login = taken.attempt.login → number' = number
  /-- It yields at most one session. -/
  sessions : (w.issued.map (·.1)).Nodup
  /-- The callbacks that were given one are those that completed an attempt. -/
  logged : ∀ c ∈ w.callbacks, ∀ session, c.phase = .granted session →
    ∃ taken, c.taken = some taken ∧ (taken.attempt.login, session) ∈ w.issued
  completed : ∀ entry ∈ w.issued, ∃ c ∈ w.callbacks, ∃ taken attempt claims nonce, taken.attempt.login = entry.1 ∧
    attempt_of w.logins entry.1 = some attempt ∧ Completed digest c entry.2 taken attempt claims nonce

theorem Inv.one_time {digest : Text → Text} {w : World} (inv : Inv digest w) : OneTime digest w where
  consumed := fun number c taken here took =>
    ⟨inv.gone c (List.mem_of_getElem? here) taken took, fun number' c' taken' here' took' same =>
      inv.once number' number c' c taken' taken here' here took' took same⟩
  sessions := inv.issued_once
  logged := inv.logged
  completed := by
    intro entry listed
    obtain ⟨c, member, taken, granted, took, own⟩ := inv.issued entry listed
    obtain ⟨attempt, found, burned⟩ := inv.burned c member taken took
    obtain ⟨taken', claims, nonce, took', has, carries, bound⟩ := (inv.sound c member).accepted (by rw [granted]; rfl)
    rw [took, Option.some.injEq] at took'
    subst took'
    exact ⟨c, member, taken, attempt, claims, nonce, own, own ▸ found, granted, took, presents_of_digest burned.state,
      presents_of_digest burned.browser_token, burned.in_time, has, carries, presents_of_digest (bound.trans burned.nonce)⟩

/-- A callback that failed over an attempt. -/
def FailedOver (number : Nat) (taken : Taken) (w : World) : Prop :=
  ∃ c, w.callbacks[number]? = some c ∧ lost c.phase = true ∧ c.taken = some taken

/-- A failed callback stays what it is. -/
theorem Moves.failed_over {digest : Text → Text} {w w' : World} (moves : Moves digest w w') {number : Nat} {taken : Taken}
    (failed : FailedOver number taken w) : FailedOver number taken w' := by
  obtain ⟨c, here, is_lost, took⟩ := failed
  -- a callback that moves is another one, or goes on being lost
  have moved : ∀ {other : Nat} {old new : Callback}, w.callbacks[other]? = some old → (lost old.phase = true → lost new.phase = true) →
      (lost old.phase = true → new.taken = old.taken) →
        ∃ c, (w.callbacks.set other new)[number]? = some c ∧ lost c.phase = true ∧ c.taken = some taken := by
    intro other old new there stays keeps
    by_cases same : other = number
    · subst same
      rw [here, Option.some.injEq] at there
      subst there
      obtain ⟨inside, -⟩ := List.getElem?_eq_some_iff.mp here
      exact ⟨new, List.getElem?_set_self inside, stays is_lost, (keeps is_lost).trans took⟩
    · exact ⟨c, (List.getElem?_set_ne same).trans here, is_lost, took⟩
  cases moves with
  | log_in => exact ⟨c, here, is_lost, took⟩
  | arrive =>
    exact ⟨c, (List.getElem?_append_left (List.getElem?_eq_some_iff.mp here).1).trans here, is_lost, took⟩
  | login _ _ => exact ⟨c, here, is_lost, took⟩
  | issue _ _ _ => exact ⟨c, here, is_lost, took⟩
  | callback there proceeds => exact moved there proceeds.lost fun _ => proceeds.taken
  | burn there phase _ => exact moved there (fun is => by rw [phase] at is; cases is) fun is => (by rw [phase] at is; cases is)
  | grant there phase => exact moved there (fun is => by rw [phase] at is; cases is) fun _ => rfl
  | elsewhere => exact ⟨c, here, is_lost, took⟩

theorem inv_run {w w' : World} {actions : List Action} (inv : Inv digests.digest w)
    (ran : run (step digests registry config) w actions = some w') : Inv digests.digest w' :=
  invariant_run (Inv digests.digest) (fun _ _ _ inv stepped => (step_moves stepped).inv inv) inv ran

theorem failed_over_run {w w' : World} {actions : List Action} {number : Nat} {taken : Taken} (failed : FailedOver number taken w)
    (ran : run (step digests registry config) w actions = some w') : FailedOver number taken w' :=
  invariant_run (FailedOver number taken) (fun _ _ _ failed stepped => (step_moves stepped).failed_over failed) failed ran

theorem inv_start (digest : Text → Text) (db : Database) : Inv digest { db := db } where
  fresh := fun _ member => absurd member List.not_mem_nil
  rows_distinct := List.nodup_nil
  rows := fun _ member => absurd member List.not_mem_nil
  burned := fun _ member => absurd member List.not_mem_nil
  gone := fun _ member => absurd member List.not_mem_nil
  once := fun i j c c' taken taken' here => by simp at here
  sound := fun _ member => absurd member List.not_mem_nil
  issued_once := List.nodup_nil
  issued := fun _ member => absurd member List.not_mem_nil
  logged := fun _ member => absurd member List.not_mem_nil

/-- An attempt that a callback failed over has no session and no row. -/
theorem Inv.never_completed {digest : Text → Text} {w : World} (inv : Inv digest w) {number : Nat} {taken : Taken}
    (failed : FailedOver number taken w) :
    taken.attempt.login ∉ w.issued.map (·.1) ∧ taken.attempt.login ∉ w.attempts.map (·.login) := by
  obtain ⟨c, here, is_lost, took⟩ := failed
  refine ⟨fun listed => ?_, inv.gone c (List.mem_of_getElem? here) taken took⟩
  obtain ⟨entry, inside, same⟩ := List.mem_map.mp listed
  obtain ⟨other, member, taken', granted, took', own⟩ := inv.issued entry inside
  obtain ⟨i, there⟩ := List.getElem?_of_mem member
  obtain rfl := inv.once i number other c taken' taken there here took' took (own.trans same)
  rw [here, Option.some.injEq] at there
  rw [there, granted] at is_lost
  cases is_lost

/-- After every run a login attempt has been consumed at most once, for a
    callback that presented its state and browser token in time and an ID token
    bound to its nonce, and what a failed callback consumed is never completed. -/
theorem login_attempts_one_time (digests : Digests) (registry : Claims → Int → Bool) (config : Config) (db : Database)
    (actions : List Action) (w : World) (ran : run (step digests registry config) { db := db } actions = some w) :
    OneTime digests.digest w ∧
      ∀ (number : Nat) (taken : Taken), FailedOver number taken w → ∀ (later : List Action) (w' : World),
        run (step digests registry config) w later = some w' →
          taken.attempt.login ∉ w'.issued.map (·.1) ∧ taken.attempt.login ∉ w'.attempts.map (·.login) := by
  have inv := inv_run (inv_start digests.digest db) ran
  exact ⟨inv.one_time, fun number taken failed later w' ran_later =>
    (inv_run inv ran_later).never_completed (failed_over_run failed ran_later)⟩

/-! ### A login and two callbacks for it -/

def token (c : Char) : Text := List.replicate 43 c

def plain_digests : Digests where
  digest := fun t => List.replicate 64 (t.head?.getD '0')
  csrf := fun _ => token 'c'

def deployment : Config where
  oidc_issuer := "https://id.example".toList
  oidc_client_id := "reddock".toList
  organization_slug := "team".toList

def members : Database where
  organizations := [{ id := 2, slug := "team".toList, name := "Team".toList }]
  users := [{
    id := 2
    oidc_issuer := "https://id.example".toList
    oidc_subject := "first".toList
    display_name := "First".toList
    status := .active }]
  memberships := [{ id := 2, organization_id := 2, user_id := 2, role := .owner, status := .active }]
  browser_sessions := []

def id_token : Claims where
  iss := .text "https://id.example".toList
  sub := .text "first".toList
  aud := .text "reddock".toList
  exp := .number 1300
  iat := .number 1000
  nonce := .text (token 'd')

def answered : CallbackRequest where
  state := token 'a'
  browser_token := token 'b'
  code := "code".toList

/-- The browser sends its answer twice; the second finds no attempt. -/
def login_run : List Action := [
  .begin_login,
  .login 0 (.limit true),
  .login 0 (.discover true),
  .login 0 (.issue 0 { state := token 'a', browser_token := token 'b', nonce := token 'd', verifier := token 'e' } true),
  .login 0 (.answer true),
  .complete_callback answered,
  .complete_callback answered,
  .callback 0 (.limit true),
  .callback 1 (.limit true),
  .callback 0 (.burn 1 true),
  .callback 1 (.burn 1 true),
  .callback 0 (.exchange true),
  .callback 0 (.validate 1000 (some id_token)),
  .callback 0 (.grant 2 { id := 1, token := token 't', family_hash := List.replicate 64 'f' } true)]

theorem login_attempts_one_time_example :
    ∃ w, run (step plain_digests (fun _ _ => true) deployment) { db := members } login_run = some w ∧
      w.issued.map (·.1) = [0] ∧ w.db.browser_sessions.length = 1 ∧ OneTime plain_digests.digest w := by
  have ends : ((run (step plain_digests (fun _ _ => true) deployment) { db := members } login_run).map fun w =>
      (w.issued.map (·.1), w.db.browser_sessions.length)) = some ([0], 1) := by decide +kernel
  obtain ⟨w, ran, left⟩ := Option.map_eq_some_iff.mp ends
  rw [Prod.mk.injEq] at left
  exact ⟨w, ran, left.1, left.2,
    (login_attempts_one_time plain_digests (fun _ _ => true) deployment members login_run w ran).1⟩

end RedDock.OneTimeLogins
