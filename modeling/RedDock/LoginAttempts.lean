import RedDock.IdTokens
import RedDock.Runs

/-!
# Login attempts

The rows of started logins, and the two operations that create and consume
them. A login and a callback are a chain of calls: each of their transactions
commits as a whole or not at all, between any two of them any other call may
act, and any of them may be the last one that is made.
-/
set_option autoImplicit false
namespace RedDock.LoginAttempts
open Text Team IdTokens Runs
open Sessions (Digests IssuedSession is_browser_session_token)

def LOGIN_ATTEMPT_LIFETIME : Int := 10 * 60 * Sessions.SECOND
def MAX_PENDING_LOGIN_ATTEMPTS : Nat := 1024

/-! ### Rows -/

/-- A row of `oidc_login_attempts`. `login` is the call that issued it, which
    is no column. -/
structure OidcLoginAttempt where
  login : Nat
  id : Nat
  state_hash : Text
  browser_token_hash : Text
  nonce_hash : Text
  pkce_verifier : Text
  expires_at : Int

structure IssuedLoginAttempt where
  state : Text
  browser_token : Text
  nonce : Text
  expires_at : Int

structure ConsumedLoginAttempt where
  login : Nat
  id : Nat
  nonce_hash : Text
  pkce_verifier : Text

/-- The four tokens of an attempt. -/
structure Secrets where
  state : Text
  browser_token : Text
  nonce : Text
  verifier : Text

def Secrets.shaped (secrets : Secrets) : Bool :=
  [secrets.state, secrets.browser_token, secrets.nonce, secrets.verifier].all is_browser_session_token

def next_id (rows : List OidcLoginAttempt) : Nat := (rows.map (·.id)).foldl max 0 + 1

section
variable (digest : Text → Text)

/-- `issue_login_attempt`; absent when it raises. -/
def issue_login_attempt (login : Nat) (issued_at : Int) (secrets : Secrets) (rows : List OidcLoginAttempt) :
    Option (List OidcLoginAttempt × IssuedLoginAttempt) :=
  let kept := rows.filter fun row => issued_at < row.expires_at
  if MAX_PENDING_LOGIN_ATTEMPTS ≤ kept.length then none
  else if !secrets.shaped then none
  else
    let record : OidcLoginAttempt := {
      login := login
      id := next_id kept
      state_hash := digest secrets.state
      browser_token_hash := digest secrets.browser_token
      nonce_hash := digest secrets.nonce
      pkce_verifier := secrets.verifier
      expires_at := issued_at + LOGIN_ATTEMPT_LIFETIME }
    -- the hashes of the state and of the browser token are unique columns
    if kept.any fun row => decide (row.state_hash = record.state_hash ∨ row.browser_token_hash = record.browser_token_hash) then none
    else some (kept ++ [record], {
      state := secrets.state
      browser_token := secrets.browser_token
      nonce := secrets.nonce
      expires_at := record.expires_at })

/-- The row that a state and a browser token name until it expires. -/
def names (state browser_token : Text) (consumed_at : Int) (row : OidcLoginAttempt) : Bool :=
  decide (row.state_hash = digest state ∧ row.browser_token_hash = digest browser_token ∧ consumed_at < row.expires_at)

/-- `consume_login_attempt`; absent when it raises. -/
def consume_login_attempt (state browser_token : Text) (consumed_at : Int) (rows : List OidcLoginAttempt) :
    Option (List OidcLoginAttempt × ConsumedLoginAttempt) :=
  if !is_browser_session_token state || !is_browser_session_token browser_token then none
  else
    match rows.filter (names digest state browser_token consumed_at) with
    | [row] => some (rows.filter fun row => !names digest state browser_token consumed_at row, {
        login := row.login
        id := row.id
        nonce_hash := row.nonce_hash
        pkce_verifier := row.pkce_verifier })
    | _ => none

end

/-! ### Logins -/

inductive LoginPhase
  | requested
  | admitted
  | discovered
  | issued
  | answered
  | failed
  deriving DecidableEq

/-- A `begin_login` call, with the attempt that it committed. -/
structure Login where
  phase : LoginPhase := .requested
  attempt : Option IssuedLoginAttempt := none

inductive LoginEvent
  /-- The client's address and the limiter. -/
  | limit (allowed : Bool)
  | discover (answers : Bool)
  | issue (now : Int) (secrets : Secrets) (commits : Bool)
  | answer (answers : Bool)
  /-- Any other exception. -/
  | abort

/-! ### Callbacks -/

structure CallbackRequest where
  state : Text
  browser_token : Text
  code : Text

inductive CallbackPhase
  | received
  | admitted
  | burned (attempt : ConsumedLoginAttempt)
  | exchanged (attempt : ConsumedLoginAttempt)
  | verified (attempt : ConsumedLoginAttempt) (identity : VerifiedIdentity)
  /-- The denial of a burned attempt is about to be recorded. -/
  | denied (reason_code : String)
  | granted (issued : IssuedSession)
  | failed

/-- What a callback burned, and when. -/
structure Taken where
  attempt : ConsumedLoginAttempt
  consumed_at : Int

/-- A `complete_callback` call, with what it burned and the claims of the ID
    token that it accepted. -/
structure Callback where
  request : CallbackRequest
  phase : CallbackPhase := .received
  taken : Option Taken := none
  claims : Option Claims := none

inductive CallbackEvent
  | limit (allowed : Bool)
  | burn (now : Int) (commits : Bool)
  /-- The token request, answered with an ID token or not. -/
  | exchange (answers : Bool)
  /-- The claims of the ID token, absent when its signature does not hold. -/
  | validate (now : Int) (claims : Option Claims)
  | record (commits : Bool)
  | grant (now : Int) (fresh : Sessions.Fresh) (commits : Bool)
  | abort

/-- The shape of what the browser sends back. -/
def CallbackRequest.shaped (request : CallbackRequest) : Bool :=
  is_browser_session_token request.state && is_browser_session_token request.browser_token &&
    decide (1 ≤ request.code.length ∧ request.code.length ≤ 4096) && !has_control request.code

/-! ### The system -/

/-- The tables, the calls, and the sessions that callbacks issued, each with
    the login it is for. -/
structure World where
  attempts : List OidcLoginAttempt := []
  db : Database
  logins : List Login := []
  callbacks : List Callback := []
  issued : List (Nat × IssuedSession) := []

inductive Action
  | begin_login
  | complete_callback (request : CallbackRequest)
  | login (number : Nat) (event : LoginEvent)
  | callback (number : Nat) (event : CallbackEvent)
  /-- Whatever else changes the identity tables and the sessions. -/
  | elsewhere (db : Database)

def World.at_login (w : World) (number : Nat) (login : Login) : World := { w with logins := w.logins.set number login }
def World.at_callback (w : World) (number : Nat) (callback : Callback) : World :=
  { w with callbacks := w.callbacks.set number callback }

section
variable (digests : Digests) (registry : Claims → Int → Bool) (config : Config)

/-- A step of `begin_login`. -/
def login_step (w : World) (number : Nat) (login : Login) : LoginEvent → Option World
  | .limit allowed =>
    if login.phase = .requested then
      some (w.at_login number { login with phase := if allowed then .admitted else .failed })
    else none
  | .discover answers =>
    if login.phase = .admitted then
      some (w.at_login number { login with phase := if answers then .discovered else .failed })
    else none
  | .issue now secrets commits =>
    if login.phase = .discovered then
      match issue_login_attempt digests.digest number now secrets w.attempts with
      | some (attempts, attempt) =>
        if commits then some { w.at_login number { phase := .issued, attempt := some attempt } with attempts := attempts }
        else some (w.at_login number { login with phase := .failed })
      | none => some (w.at_login number { login with phase := .failed })
    else none
  | .answer answers =>
    if login.phase = .issued then
      some (w.at_login number { login with phase := if answers then .answered else .failed })
    else none
  | .abort =>
    if login.phase = .answered then none else some (w.at_login number { login with phase := .failed })

/-- The denials of `_record_callback_denial`, where the organization is there. -/
def record_callback_denial (reason_code : String) (db : Database) : Database :=
  match db.organizations.find? (·.slug = config.organization_slug) with
  | none => db
  | some organization => { db with security_events := db.security_events ++ [denial organization.id reason_code] }

def SESSION_ISSUE : String := "session.issue"

/-- The event of an issued session. -/
def session_event (context : Sessions.AuthorizationContext) (family_hash : Text) : SecurityAuditEvent where
  organization_id := context.organization_id
  actor_user_id := some context.user_id
  actor_membership_id := some context.membership_id
  actor_role := some context.role
  action := SESSION_ISSUE.toList
  outcome := "success".toList
  target_type := some "browser_session".toList
  target_id := some family_hash
  reason_code := some "session_created".toList

/-- A row that the unique columns of a new session collide with. -/
def conflicts (fresh : Sessions.Fresh) (row : Sessions.BrowserSession) : Bool :=
  decide (row.id = fresh.id ∨ row.token_hash = digests.digest fresh.token ∨
    (row.family_hash = fresh.family_hash ∧ (row.generation = 0 ∨ row.live = true)))

/-- The last transaction of `complete_callback`: what it commits, and the
    session unless it raises. -/
def issue_session (identity : VerifiedIdentity) (now : Int) (fresh : Sessions.Fresh) (db : Database) :
    Database × Option IssuedSession :=
  match resolve_verified_identity config identity db with
  | .refused event => ({ db with security_events := db.security_events ++ event.toList }, none)
  | .resolved context =>
    match Sessions.issue_browser_session digests (directory db) context.membership_id now fresh db.browser_sessions with
    | none => (db, none)
    | some (rows, issued) =>
      if rows.dropLast.any (conflicts digests fresh) || !BOUNDED_IDENTIFIER fresh.family_hash then (db, none)
      else ({ db with
        browser_sessions := rows
        security_events := db.security_events ++ [session_event context fresh.family_hash] }, some issued)

/-- A step of `complete_callback`. -/
def callback_step (w : World) (number : Nat) (callback : Callback) : CallbackEvent → Option World
  | .limit allowed =>
    match callback.phase with
    | .received => some (w.at_callback number { callback with phase := if allowed then .admitted else .failed })
    | _ => none
  | .burn now commits =>
    match callback.phase with
    | .admitted =>
      if !callback.request.shaped then some (w.at_callback number { callback with phase := .failed })
      else
        match consume_login_attempt digests.digest callback.request.state callback.request.browser_token now w.attempts with
        | some (attempts, attempt) =>
          if commits then
            some { w.at_callback number { callback with phase := .burned attempt, taken := some ⟨attempt, now⟩ } with
              attempts := attempts }
          else some (w.at_callback number { callback with phase := .failed })
        | none => some (w.at_callback number { callback with phase := .failed })
    | _ => none
  | .exchange answers =>
    match callback.phase with
    | .burned attempt =>
      some (w.at_callback number { callback with
        phase := if answers then .exchanged attempt else .denied "provider_exchange_failed" })
    | _ => none
  | .validate now claims =>
    match callback.phase with
    | .exchanged attempt =>
      match claims with
      | none => some (w.at_callback number { callback with phase := .denied "id_token_invalid" })
      | some claims =>
        match validate_id_token digests.digest registry config now claims attempt.nonce_hash with
        | none => some (w.at_callback number { callback with phase := .denied "id_token_invalid" })
        | some identity => some (w.at_callback number { callback with phase := .verified attempt identity, claims := some claims })
    | _ => none
  | .record commits =>
    match callback.phase with
    | .denied reason_code =>
      some { w.at_callback number { callback with phase := .failed } with
        db := if commits then record_callback_denial config reason_code w.db else w.db }
    | _ => none
  | .grant now fresh commits =>
    match callback.phase with
    | .verified attempt identity =>
      if commits then
        match issue_session digests config identity now fresh w.db with
        | (db, some session) =>
          some { w.at_callback number { callback with phase := .granted session } with
            db := db
            issued := w.issued ++ [(attempt.login, session)] }
        | (db, none) => some { w.at_callback number { callback with phase := .failed } with db := db }
      else some (w.at_callback number { callback with phase := .failed })
    | _ => none
  | .abort =>
    match callback.phase with
    | .granted _ => none
    | _ => some (w.at_callback number { callback with phase := .failed })

def step (w : World) : Action → Option World
  | .begin_login => some { w with logins := w.logins ++ [{}] }
  | .complete_callback request => some { w with callbacks := w.callbacks ++ [{ request := request }] }
  | .login number event => do
    let login ← w.logins[number]?
    login_step digests w number login event
  | .callback number event => do
    let callback ← w.callbacks[number]?
    callback_step digests registry config w number callback event
  | .elsewhere db => some { w with db := db }

end

end RedDock.LoginAttempts
