import RedDock.Team

/-!
# ID tokens and identities

What `validate_id_token` asks of the claims of a token whose signature holds,
and the one membership that `resolve_verified_identity` finds for an identity.
-/
set_option autoImplicit false
namespace RedDock.IdTokens
open Text Team
open Sessions (Role is_browser_session_token is_digest)

/-! ### Claims -/

/-- A decoded claim. A list keeps what is not text as `none`, and a number is
    finite: an infinite float passes no bound. -/
inductive Claim
  | absent
  | text (t : Text)
  | items (items : List (Option Text))
  | number (value : Rat)
  | other
  deriving DecidableEq

structure Claims where
  iss : Claim := .absent
  sub : Claim := .absent
  aud : Claim := .absent
  azp : Claim := .absent
  exp : Claim := .absent
  iat : Claim := .absent
  nbf : Claim := .absent
  nonce : Claim := .absent
  deriving DecidableEq

structure VerifiedIdentity where
  issuer : Text
  subject : Text
  deriving DecidableEq

/-- What the deployment configures. -/
structure Config where
  oidc_issuer : Text
  oidc_client_id : Text
  organization_slug : Text

def OIDC_CLOCK_SKEW_SECONDS : Rat := 60
def MAX_ID_TOKEN_AGE_SECONDS : Rat := 10 * 60
def MAX_ID_TOKEN_HORIZON_SECONDS : Rat := 60 * 60
def MAX_NUMERIC_DATE : Rat := 4102444800

/-- `_numeric_date` -/
def numeric_date : Claim → Option Rat
  | .number value => if value < 0 ∨ MAX_NUMERIC_DATE < value then none else some value
  | _ => none

/-- The time of `nbf`, which may be missing. -/
def not_before_date : Claim → Option (Option Rat)
  | .absent => some none
  | claim => (numeric_date claim).map some

def has_control (t : Text) : Bool := t.any fun c => decide (c.toNat < 0x20)

/-- A subject of one to 255 characters that are no controls. -/
def is_subject (subject : Text) : Bool := decide (1 ≤ subject.length ∧ subject.length ≤ 255) && !has_control subject

def audiences : Claim → Option (List Text)
  | .text t => some [t]
  | .items items => items.mapM id
  | _ => none

def accepts_audience (client_id : Text) (audience authorized_party : Claim) : Bool :=
  match audiences audience with
  | none => false
  | some listed => decide (listed ≠ [] ∧ listed.length ≤ 8 ∧ listed.Nodup ∧ client_id ∈ listed ∧
      (1 < listed.length → authorized_party = .text client_id) ∧
      (authorized_party ≠ .absent → authorized_party = .text client_id))

/-- The windows around the clock that the times of a token lie in. -/
def timely (now : Rat) (expires issued : Rat) (not_before : Option Rat) : Bool :=
  !decide (expires ≤ now - OIDC_CLOCK_SKEW_SECONDS ∨ now + MAX_ID_TOKEN_HORIZON_SECONDS < expires ∨
    now + OIDC_CLOCK_SKEW_SECONDS < issued ∨ issued < now - MAX_ID_TOKEN_AGE_SECONDS ∨ expires ≤ issued) &&
    not_before.all fun not_before => decide (not_before ≤ now + OIDC_CLOCK_SKEW_SECONDS)

/-- The nonce of a token is a token that the stored digest is the digest of. -/
def nonce_matches (digest : Text → Text) (expected_nonce_hash : Text) : Claim → Bool
  | .text nonce => is_browser_session_token nonce && is_digest expected_nonce_hash && decide (digest nonce = expected_nonce_hash)
  | _ => false

/-- `validate_id_token`, from the claims of a verified token on; `registry` is
    the check of `JWTClaimsRegistry`, at a clock in seconds. -/
def validate_id_token (digest : Text → Text) (registry : Claims → Int → Bool) (config : Config) (now : Int) (claims : Claims)
    (expected_nonce_hash : Text) : Option VerifiedIdentity := do
  let expires ← numeric_date claims.exp
  let issued ← numeric_date claims.iat
  let not_before ← not_before_date claims.nbf
  if !registry claims now then none
  else
    match claims.iss, claims.sub with
    | .text issuer, .text subject =>
      if issuer ≠ config.oidc_issuer then none
      else if !is_subject subject then none
      else if !accepts_audience config.oidc_client_id claims.aud claims.azp then none
      else if !timely now expires issued not_before then none
      else if !nonce_matches digest expected_nonce_hash claims.nonce then none
      else return { issuer := issuer, subject := subject }
    | _, _ => none

/-- A validated token carries a nonce with the digest that was expected. -/
theorem validate_id_token_nonce {digest : Text → Text} {registry : Claims → Int → Bool} {config : Config} {now : Int}
    {claims : Claims} {expected_nonce_hash : Text} {identity : VerifiedIdentity}
    (valid : validate_id_token digest registry config now claims expected_nonce_hash = some identity) :
    ∃ nonce, claims.nonce = .text nonce ∧ digest nonce = expected_nonce_hash := by
  unfold validate_id_token at valid
  obtain ⟨expires, _, valid⟩ := Option.bind_eq_some_iff.mp valid
  obtain ⟨issued, _, valid⟩ := Option.bind_eq_some_iff.mp valid
  obtain ⟨not_before, _, valid⟩ := Option.bind_eq_some_iff.mp valid
  split at valid
  · cases valid
  split at valid
  · split at valid
    · cases valid
    split at valid
    · cases valid
    split at valid
    · cases valid
    split at valid
    · cases valid
    split at valid
    · cases valid
    · rename_i bound
      rw [Bool.not_eq_true, Bool.not_eq_false'] at bound
      cases carried : claims.nonce with
      | text nonce =>
        rw [carried, nonce_matches, Bool.and_eq_true, decide_eq_true_eq] at bound
        exact ⟨nonce, rfl, bound.2⟩
      | _ =>
        rw [carried] at bound
        cases bound
  · cases valid

/-! ### Identities -/

def AUTHENTICATION_DENY : String := "authentication.deny"

/-- The event of a denied authentication. -/
def denial (organization_id : Nat) (reason_code : String) : SecurityAuditEvent where
  organization_id := organization_id
  actor_user_id := none
  actor_membership_id := none
  actor_role := none
  action := AUTHENTICATION_DENY.toList
  outcome := "denied".toList
  target_type := none
  target_id := none
  reason_code := some reason_code.toList

/-- An identity that is refused, with the event that is committed for it, or
    resolved to a membership. -/
inductive Resolved
  | refused (event : Option SecurityAuditEvent)
  | resolved (context : Sessions.AuthorizationContext)

/-- The active memberships of an identity in an organization. -/
def active_memberships (identity : VerifiedIdentity) (organization_id : Nat) (db : Database) : List (User × Membership) :=
  (db.users.filter fun user => decide (user.oidc_issuer = identity.issuer ∧ user.oidc_subject = identity.subject ∧
      user.status = .active)).flatMap fun user =>
    (db.memberships.filter fun m => decide (m.user_id = user.id ∧ m.organization_id = organization_id ∧ m.status = .active)).map
      fun m => (user, m)

/-- `resolve_verified_identity` -/
def resolve_verified_identity (config : Config) (identity : VerifiedIdentity) (db : Database) : Resolved :=
  match db.organizations.find? (·.slug = config.organization_slug) with
  | none => .refused none
  | some organization =>
    if identity.issuer ≠ config.oidc_issuer ∨ is_subject identity.subject = false then
      .refused (some (denial organization.id "identity_claim_invalid"))
    else
      match (active_memberships identity organization.id db).take 2 with
      | [] => .refused (some (denial organization.id "identity_not_provisioned"))
      | [(user, membership)] => .resolved {
          organization_id := organization.id
          user_id := user.id
          membership_id := membership.id
          role := membership.role }
      | _ => .refused (some (denial organization.id "identity_ambiguous"))

/-- The memberships of a database, as the sessions see them. -/
def directory (db : Database) : Sessions.Directory := fun membership_id => do
  let membership ← db.memberships.find? (·.id = membership_id)
  let user ← db.users.find? (·.id = membership.user_id)
  let organization ← db.organizations.find? (·.id = membership.organization_id)
  return {
    organization_id := membership.organization_id
    user_id := membership.user_id
    membership_status := status_value membership.status
    user_status := status_value user.status
    role := role_value membership.role
    oidc_issuer := user.oidc_issuer
    organization_slug := organization.slug }

end RedDock.IdTokens
