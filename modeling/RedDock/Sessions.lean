import RedDock.Text
import RedDock.Runs

/-!
# Browser sessions

The session rows of the server and the transactions on them. A session family
is a chain of rows: a rotation replaces the row of a token by the row of its
successor, and a revocation closes the whole chain.
-/
set_option autoImplicit false
namespace RedDock.Sessions
open Text

/-- A second, in microseconds; every moment is a number of them. -/
def SECOND : Int := 1000000
def SESSION_LIFETIME : Int := 8 * 3600 * SECOND
def SESSION_IDLE_TIMEOUT : Int := 30 * 60 * SECOND
def SESSION_TOUCH_INTERVAL : Int := 5 * 60 * SECOND
def SESSION_ROTATION_INTERVAL : Int := 3600 * SECOND
def MAX_ACTIVE_SESSIONS_PER_MEMBERSHIP : Nat := 8
def MAX_SESSION_GENERATION : Nat := 16

/-! ### Rows -/

structure BrowserSession where
  id : Nat
  token_hash : Text
  csrf_token_hash : Text
  family_hash : Text
  generation : Nat
  membership_id : Nat
  created_at : Int
  token_issued_at : Int
  last_seen_at : Int
  expires_at : Int
  replaced_at : Option Int := none
  revoked_at : Option Int := none
  deriving DecidableEq

inductive Role
  | owner
  | admin
  | operator
  | auditor
  | viewer
  deriving DecidableEq, Repr

/-- `Role(value)` -/
def Role.of (value : Text) : Option Role :=
  if value = "owner".toList then some .owner
  else if value = "admin".toList then some .admin
  else if value = "operator".toList then some .operator
  else if value = "auditor".toList then some .auditor
  else if value = "viewer".toList then some .viewer
  else none

/-- A membership with its user and its organization. -/
structure Identity where
  organization_id : Nat
  user_id : Nat
  membership_status : Text
  user_status : Text
  role : Text
  oidc_issuer : Text
  organization_slug : Text

/-- The memberships at one moment. -/
abbrev Directory := Nat → Option Identity

structure AuthorizationContext where
  organization_id : Nat
  user_id : Nat
  membership_id : Nat
  role : Role
  deriving DecidableEq

/-- `_authorization_context` -/
def authorization_context (membership_id : Nat) (identity : Identity) : Option AuthorizationContext :=
  if identity.membership_status ≠ "active".toList ∨ identity.user_status ≠ "active".toList then none
  else (Role.of identity.role).map fun role =>
    { organization_id := identity.organization_id, user_id := identity.user_id, membership_id := membership_id, role := role }

/-! ### Tokens -/

/-- The digests of a token: of the bearer token itself, and the derived CSRF proof. -/
structure Digests where
  digest : Text → Text
  csrf : Text → Text

/-- `_TOKEN.fullmatch` -/
def is_browser_session_token (token : Text) : Bool :=
  token.length = 43 && token.all fun c => c.isAlphanum || c == '_' || c == '-'

def csrf_token_for_session (digests : Digests) (token : Text) : Option Text :=
  if is_browser_session_token token then some (digests.csrf token) else none

def is_digest (t : Text) : Bool := t.length = 64 && t.all fun c => c.isDigit || ('a' ≤ c && c ≤ 'f')

def csrf_token_matches (digests : Digests) (presented expected_hash : Text) : Bool :=
  is_browser_session_token presented && is_digest expected_hash && digests.digest presented = expected_hash

/-! ### Validity -/

/-- A row that is neither replaced nor revoked. -/
def BrowserSession.live (row : BrowserSession) : Bool := row.replaced_at.isNone && row.revoked_at.isNone

/-- `_is_active` -/
def is_active (now : Int) (row : BrowserSession) : Bool :=
  row.live && row.token_issued_at ≤ now && row.last_seen_at ≤ now && now < row.expires_at &&
    now < row.last_seen_at + SESSION_IDLE_TIMEOUT

/-- The active sessions of a membership. -/
def active_count (now : Int) (membership_id : Nat) (rows : List BrowserSession) : Nat :=
  rows.countP fun row => row.membership_id = membership_id && is_active now row

/-! ### The transactions -/

/-- What a new row is given: its id, its secrets, or those of a new family. -/
structure Fresh where
  id : Nat
  token : Text
  family_hash : Text

structure IssuedSession where
  session_id : Nat
  token : Text
  csrf_token : Text
  expires_at : Int

/-- The rows of a family, revoked unless they are already. -/
def revoke_family (family_hash : Text) (revoked_at : Int) (rows : List BrowserSession) : List BrowserSession :=
  rows.map fun row =>
    if row.family_hash = family_hash ∧ row.revoked_at = none then { row with revoked_at := some revoked_at } else row

/-- Whether `issue_browser_session` counts a row against the limit. -/
def counts (membership_id : Nat) (issued_at : Int) (row : BrowserSession) : Bool :=
  row.membership_id = membership_id && row.live && issued_at < row.expires_at &&
    issued_at - SESSION_IDLE_TIMEOUT < row.last_seen_at

/-- The sessions that count, the one unseen for longest first. -/
def active_sessions (membership_id : Nat) (issued_at : Int) (rows : List BrowserSession) : List BrowserSession :=
  (rows.filter (counts membership_id issued_at)).insertionSort fun a b =>
    a.last_seen_at < b.last_seen_at ∨ (a.last_seen_at = b.last_seen_at ∧ a.id ≤ b.id)

/-- The families that have to go for one more session. -/
def overflowing (active : List BrowserSession) : List BrowserSession :=
  active.take (active.length + 1 - MAX_ACTIVE_SESSIONS_PER_MEMBERSHIP)

section
variable (digests : Digests) (directory : Directory)

/-- `issue_browser_session`; absent when it is rejected. -/
def issue_browser_session (membership_id : Nat) (now : Int) (fresh : Fresh) (rows : List BrowserSession) :
    Option (List BrowserSession × IssuedSession) := do
  let identity ← directory membership_id
  let _ ← authorization_context membership_id identity
  let stale := overflowing (active_sessions membership_id now rows)
  let kept := stale.foldl (fun rows session => revoke_family session.family_hash now rows) rows
  let csrf_token ← csrf_token_for_session digests fresh.token
  let record : BrowserSession := {
    id := fresh.id
    token_hash := digests.digest fresh.token
    csrf_token_hash := digests.digest csrf_token
    family_hash := fresh.family_hash
    generation := 0
    membership_id := membership_id
    created_at := now
    token_issued_at := now
    last_seen_at := now
    expires_at := now + SESSION_LIFETIME }
  return (kept ++ [record],
    { session_id := record.id, token := fresh.token, csrf_token := csrf_token, expires_at := record.expires_at })

/-- `_session_row` -/
def session_row (token_hash : Text) (rows : List BrowserSession) : Option (BrowserSession × Identity) := do
  let row ← rows.find? (·.token_hash = token_hash)
  let identity ← directory row.membership_id
  return (row, identity)

/-- What `resolve_browser_session` is asked for besides a token. -/
structure Expected where
  csrf_token : Option Text := none
  issuer : Option Text := none
  organization_slug : Option Text := none

/-- The row of a token that is valid at a moment. -/
def valid_row (token : Text) (expected : Expected) (now : Int) (rows : List BrowserSession) :
    Option (BrowserSession × AuthorizationContext) := do
  if !is_browser_session_token token then none
  else
    let (row, identity) ← session_row directory (digests.digest token) rows
    let context ← authorization_context row.membership_id identity
    if is_active now row && expected.issuer.all (· = identity.oidc_issuer) &&
        expected.organization_slug.all (· = identity.organization_slug) &&
        expected.csrf_token.all fun csrf => csrf_token_matches digests csrf row.csrf_token_hash
    then return (row, context) else none

/-- Whether the touch of a row finds it as it was read. -/
def touches (row : BrowserSession) (now : Int) (other : BrowserSession) : Bool :=
  other.id = row.id && other.token_hash = row.token_hash && other.live && now < other.expires_at &&
    now - SESSION_IDLE_TIMEOUT < other.last_seen_at && other.last_seen_at ≤ now - SESSION_TOUCH_INTERVAL &&
    other.last_seen_at < now

/-- `resolve_browser_session`: the rows it leaves, and whom the token authenticates. -/
def resolve_browser_session (token : Text) (expected : Expected) (touch : Bool) (now : Int) (rows : List BrowserSession) :
    List BrowserSession × Option AuthorizationContext :=
  match valid_row digests directory token expected now rows with
  | none => (rows, none)
  | some (row, context) =>
    if !touch || now - SESSION_TOUCH_INTERVAL < row.last_seen_at then (rows, some context)
    else
      let touched := rows.map fun other => if touches row now other then { other with last_seen_at := now } else other
      if rows.any (touches row now) then (touched, some context)
      else (touched, (valid_row digests directory token { expected with issuer := none, organization_slug := none } now touched).map (·.2))

/-- `_locked_family`: the presented row, its identity and its family. -/
def locked_family (token_hash : Text) (rows : List BrowserSession) :
    Option (BrowserSession × Identity × List BrowserSession) := do
  let locator ← rows.find? (·.token_hash = token_hash)
  let identity ← directory locator.membership_id
  let family := rows.filter fun row => row.family_hash = locator.family_hash
  let presented ← family.find? (·.token_hash = token_hash)
  return (presented, identity, family)

/-- `rotate_browser_session`: absent when it is rejected, and otherwise the rows
    and the successor, if the rotation was due. -/
def rotate_browser_session (token csrf_token : Text) (now : Int) (fresh : Fresh) (rows : List BrowserSession) :
    Option (List BrowserSession × Option IssuedSession) := do
  if !is_browser_session_token token || !is_browser_session_token csrf_token then none
  else
    let (current, identity, _) ← locked_family directory (digests.digest token) rows
    let _ ← authorization_context current.membership_id identity
    if !is_active now current || !csrf_token_matches digests csrf_token current.csrf_token_hash then none
    else if now < current.token_issued_at + SESSION_ROTATION_INTERVAL then return (rows, none)
    else if MAX_SESSION_GENERATION ≤ current.generation then none
    else
      let new_csrf ← csrf_token_for_session digests fresh.token
      let replaced := rows.map fun row => if row.token_hash = current.token_hash then { row with replaced_at := some now } else row
      let successor : BrowserSession := {
        id := fresh.id
        token_hash := digests.digest fresh.token
        csrf_token_hash := digests.digest new_csrf
        family_hash := current.family_hash
        generation := current.generation + 1
        membership_id := current.membership_id
        created_at := now
        token_issued_at := now
        last_seen_at := now
        expires_at := current.expires_at }
      return (replaced ++ [successor], some
        { session_id := successor.id, token := fresh.token, csrf_token := new_csrf, expires_at := successor.expires_at })

/-- `revoke_browser_session`: the rows it leaves, and whether it closed a family. -/
def revoke_browser_session (token : Text) (now : Int) (rows : List BrowserSession) : List BrowserSession × Bool :=
  if !is_browser_session_token token then (rows, false)
  else
    match locked_family directory (digests.digest token) rows with
    | none => (rows, false)
    | some (presented, _, family) =>
      if family.any BrowserSession.live then (revoke_family presented.family_hash now rows, true) else (rows, false)

end

/-- What a cleanup at a cut-off may delete. -/
def inactive (before : Int) (row : BrowserSession) : Bool :=
  row.expires_at ≤ before || row.revoked_at.any (· ≤ before) ||
    (row.replaced_at.isNone && row.last_seen_at ≤ before - SESSION_IDLE_TIMEOUT)

/-- `purge_inactive_browser_sessions`, which skips rows that are locked. -/
def purge_inactive_browser_sessions (before : Int) (limit : Nat) (locked : List Nat) (rows : List BrowserSession) :
    List BrowserSession :=
  let candidates := (rows.filter fun row => inactive before row && decide (row.id ∉ locked)).insertionSort fun a b => a.id ≤ b.id
  let ids := (candidates.take limit).map (·.id)
  rows.filter fun row => !(inactive before row && decide (row.id ∈ ids))

/-! ### The server over time -/

/-- The session rows and the clock. `used` lists the token hashes given out so
    far, and `families` the families with their expiry: secrets do not repeat. -/
structure World where
  rows : List BrowserSession := []
  clock : Int := 0
  next_id : Nat := 0
  used : List Text := []
  families : List (Text × Int) := []

inductive Action
  | issue (now : Int) (directory : Directory) (membership_id : Nat) (token family_hash : Text)
  | resolve (now : Int) (directory : Directory) (token : Text) (expected : Expected) (touch : Bool)
  | rotate (now : Int) (directory : Directory) (token csrf_token new_token : Text)
  | revoke (now : Int) (directory : Directory) (token : Text)
  | purge (before : Int) (limit : Nat) (locked : List Nat)

/-- Every stored session belongs to a membership. -/
def covers (directory : Directory) (rows : List BrowserSession) : Bool :=
  rows.all fun row => (directory row.membership_id).isSome

/-- One transaction, at a clock that does not go back; what is rejected is
    rolled back. -/
def step (digests : Digests) (w : World) : Action → Option World
  | .issue now directory membership_id token family_hash =>
    if w.clock ≤ now ∧ covers directory w.rows = true ∧ digests.digest token ∉ w.used ∧
        family_hash ∉ w.families.map (·.1) then
      match issue_browser_session digests directory membership_id now ⟨w.next_id, token, family_hash⟩ w.rows with
      | none => some { w with clock := now }
      | some (rows, issued) => some {
          rows := rows
          clock := now
          next_id := w.next_id + 1
          used := digests.digest token :: w.used
          families := (family_hash, issued.expires_at) :: w.families }
    else none
  | .resolve now directory token expected touch =>
    if w.clock ≤ now ∧ covers directory w.rows = true then
      some { w with rows := (resolve_browser_session digests directory token expected touch now w.rows).1, clock := now }
    else none
  | .rotate now directory token csrf_token new_token =>
    if w.clock ≤ now ∧ covers directory w.rows = true ∧ digests.digest new_token ∉ w.used then
      match rotate_browser_session digests directory token csrf_token now ⟨w.next_id, new_token, []⟩ w.rows with
      | some (rows, some _) =>
        some { w with rows := rows, clock := now, next_id := w.next_id + 1, used := digests.digest new_token :: w.used }
      | _ => some { w with clock := now }
    else none
  | .revoke now directory token =>
    if w.clock ≤ now ∧ covers directory w.rows = true then
      some { w with rows := (revoke_browser_session digests directory token now w.rows).1, clock := now }
    else none
  | .purge before limit locked => some { w with rows := purge_inactive_browser_sessions before limit locked w.rows }

end RedDock.Sessions
