import RedDock.Histories
import RedDock.IdTokens
import RedDock.Intelligence
import RedDock.Issuers

/-!
# The provider's signing keys

How the client of the OIDC provider reads the provider's documents, keeps its
key set, and finds the key a token is checked against. Moments are microseconds.
-/
set_option autoImplicit false
namespace RedDock.ProviderKeys
open Text Detection Histories
open Intelligence (members_of text_of)
open IdTokens (VerifiedIdentity has_control)

def MAX_DISCOVERY_BYTES : Nat := 64 * 1024
def MAX_JWKS_BYTES : Nat := 256 * 1024
def MAX_ID_TOKEN_BYTES : Nat := 64 * 1024
def MAX_JWKS_KEYS : Nat := 32
def JWKS_REFRESH_BACKOFF : Int := 30 * 1000000
def JWKS_CACHE_LIFETIME : Int := 60 * 60 * 1000000
/-- `ALLOWED_ID_TOKEN_ALGORITHMS`, sorted. -/
def ALLOWED_ID_TOKEN_ALGORITHMS : List Text := ["ES256".toList, "RS256".toList]
def PRIVATE_JWK_MEMBERS : List Text :=
  ["d".toList, "p".toList, "q".toList, "dp".toList, "dq".toList, "qi".toList, "oth".toList]

/-- What a call raises; of a refused claim the message is left out. -/
inductive Refusal
  | oidc_error (message : Text)
  | claims_refused
  | value_error
  deriving DecidableEq

def refuse {α : Type} (words : String) : Except Refusal α := .error (.oidc_error words.toList)

/-- A JSON object, whose names are distinct. -/
abbrev Document := List (Text × Json)

/-- What `json.loads` raises under the two hooks of `_decode_json`. -/
inductive LoadError
  | duplicate_member
  | constant
  | invalid
  deriving DecidableEq

/-- What the standard library and the JOSE library do. -/
structure Library where
  unicode : Unicode
  loads : Bytes → Except LoadError Json
  /-- `jwk.import_key` and `jwt.decode` of a token by an algorithm. -/
  decode : Document → Text → Text → Option IdTokens.Claims
  registry : IdTokens.Claims → Int → Bool
  digest : Text → Text

structure Config extends IdTokens.Config where
  oidc_endpoint_origins : List Text

structure ProviderMetadata where
  issuer : Text
  authorization_endpoint : Text
  token_endpoint : Text
  jwks_uri : Text
  signing_algorithms : List Text
  deriving DecidableEq

/-! ### Documents -/

/-- What a request of the provider meets. -/
inductive Reply
  | http_error
  | response (status_code : Nat) (content_type : Text) (body : Bytes)

/-- `_decode_json` -/
def decode_json (library : Library) (payload : Bytes) (label : String) : Except Refusal Document :=
  match library.loads payload with
  | .error .duplicate_member => refuse "OIDC response contains duplicate JSON members"
  | .error .constant => refuse "OIDC JSON contains a non-finite number"
  | .error .invalid => .error (.oidc_error ("OIDC ".toList ++ label.toList ++ " is not valid JSON".toList))
  | .ok value =>
    match members_of value with
    | none => .error (.oidc_error ("OIDC ".toList ++ label.toList ++ " must be a JSON object".toList))
    | some document => .ok document

/-- `_json_request`, of what the request meets. -/
def json_request (library : Library) (reply : Reply) (max_bytes : Nat) : Except Refusal Document :=
  match reply with
  | .http_error => refuse "OIDC provider request failed"
  | .response status_code content_type body =>
    if 300 ≤ status_code ∧ status_code < 400 then refuse "OIDC provider redirects are not accepted"
    else if status_code ≠ 200 then refuse "OIDC provider request failed"
    else if library.unicode.lower (partition ';' content_type).1 ∉ ["application/json".toList, "application/jwk-set+json".toList] then
      refuse "OIDC provider returned an unexpected content type"
    else if max_bytes < body.length then refuse "OIDC provider response is oversized"
    else decode_json library body "provider response"

/-- `_bounded_string_list` -/
def bounded_string_list (value : Option Json) (label : String) : Except Refusal (List Text) :=
  match value.bind Intelligence.texts_of with
  | some items =>
    if 1 ≤ items.length ∧ items.length ≤ 32 ∧ ∀ item ∈ items, (1 ≤ item.length ∧ item.length ≤ 128) ∧ has_control item = false then .ok items
    else .error (.oidc_error ("OIDC ".toList ++ label.toList ++ " is malformed".toList))
  | none => .error (.oidc_error ("OIDC ".toList ++ label.toList ++ " is malformed".toList))

/-- `_allowed_endpoint` -/
def allowed_endpoint (library : Library) (config : Config) (value : Option Json) (label : String) : Except Refusal Text :=
  match value.bind text_of with
  | none => .error (.oidc_error ("OIDC ".toList ++ label.toList ++ " is missing or oversized".toList))
  | some value =>
    if value = [] ∨ value ≠ strip value ∨ 2048 < value.length ∨ '\\' ∈ value ∨ '%' ∈ value ∨
        value.any (fun c => isSpace c || decide (c.toNat < 0x20)) = true then
      .error (.oidc_error ("OIDC ".toList ++ label.toList ++ " is missing or oversized".toList))
    else
      match Urls.urlsplit library.unicode value with
      | none => .error .value_error
      | some parts =>
        let (path, query, fragment) := Urls.location library.unicode value
        if parts.scheme ≠ "https".toList ∨ parts.hostname library.unicode = [] ∨ parts.username ≠ [] ∨ parts.password ≠ [] ∨
            fragment ≠ [] ∨ "https://".toList ++ parts.netloc ∉ config.oidc_endpoint_origins ∨
            (path.splitOn '/').tail.any (· ∈ [[], ['.'], ['.', '.']]) = true then
          .error (.oidc_error ("OIDC ".toList ++ label.toList ++ " is outside the configured HTTPS origins".toList))
        else if query ≠ [] then .error (.oidc_error ("OIDC ".toList ++ label.toList ++ " must not contain a query".toList))
        else .ok value

/-- What `discovery` makes of the provider's document. -/
def read_metadata (library : Library) (config : Config) (document : Document) : Except Refusal ProviderMetadata := do
  if (document.lookup "issuer".toList).bind text_of ≠ some config.oidc_issuer then
    refuse "OIDC discovery issuer does not match configuration"
  let authorization_endpoint ← allowed_endpoint library config (document.lookup "authorization_endpoint".toList) "authorization endpoint"
  let token_endpoint ← allowed_endpoint library config (document.lookup "token_endpoint".toList) "token endpoint"
  let jwks_uri ← allowed_endpoint library config (document.lookup "jwks_uri".toList) "JWKS endpoint"
  let methods ← bounded_string_list (document.lookup "code_challenge_methods_supported".toList) "PKCE methods"
  if "S256".toList ∉ methods then refuse "OIDC provider does not advertise PKCE S256"
  let algorithms ← bounded_string_list (document.lookup "id_token_signing_alg_values_supported".toList) "ID-token algorithms"
  let advertised_algorithms := ALLOWED_ID_TOKEN_ALGORITHMS.filter (· ∈ algorithms)
  if advertised_algorithms = [] then refuse "OIDC provider has no allowed ID-token algorithm"
  let response_types ← bounded_string_list (document.lookup "response_types_supported".toList) "response types"
  if "code".toList ∉ response_types then refuse "OIDC provider does not advertise authorization code flow"
  let auth_methods ← bounded_string_list (document.lookup "token_endpoint_auth_methods_supported".toList)
    "token endpoint authentication methods"
  if "client_secret_basic".toList ∉ auth_methods then refuse "OIDC provider does not advertise client_secret_basic"
  return ⟨config.oidc_issuer, authorization_endpoint, token_endpoint, jwks_uri, advertised_algorithms⟩

/-- The keys of a key-set document. -/
def read_keys (document : Document) : Except Refusal (List Document) :=
  match document.lookup "keys".toList with
  | some (.list keys) =>
    if ¬(1 ≤ keys.length ∧ keys.length ≤ MAX_JWKS_KEYS) then refuse "OIDC JWKS contains an invalid number of keys"
    else
      match keys.mapM members_of with
      | none => refuse "OIDC JWKS contains an invalid key"
      | some keys => .ok keys
  | _ => refuse "OIDC JWKS contains an invalid number of keys"

/-! ### Tokens -/

def BASE64URL : List Char := "ABCDEFGHIJKLMNOPQRSTUVWXYZabcdefghijklmnopqrstuvwxyz0123456789-_".toList

/-- `_JWT_SEGMENT` -/
def JWT_SEGMENT (t : Text) : Bool := t != [] && t.all fun c => c.isAlphanum || c == '-' || c == '_'

/-- `urlsafe_b64decode`, of a text of the alphabet that is padded. -/
def urlsafe_b64decode (t : Text) : Option Bytes :=
  if t.length % 4 = 1 then none
  else
    let bits := ofDigits 64 (t.map BASE64URL.idxOf)
    some ((digitsOf 256 (6 * t.length / 8) (bits / 2 ^ (6 * t.length % 8))).map UInt8.ofNat)

/-- `urlsafe_b64encode`, without its padding. -/
def urlsafe_b64encode (b : Bytes) : Text :=
  let length := (8 * b.length + 5) / 6
  (digitsOf 64 length (ofDigits 256 (b.map UInt8.toNat) * 2 ^ (6 * length - 8 * b.length))).map fun i => BASE64URL.getD i 'A'

/-- `_base64url_bytes` -/
def base64url_bytes (value : Option Json) : Option Bytes := do
  let value ← value.bind text_of
  if JWT_SEGMENT value = false then none
  else
    let decoded ← urlsafe_b64decode value
    if urlsafe_b64encode decoded ≠ value then none else some decoded

/-- `_jwt_part` -/
def jwt_part (library : Library) (token : Text) (part : Nat) : Except Refusal Document :=
  let segments := token.splitOn '.'
  if segments.length ≠ 3 ∨ [] ∈ segments then refuse "OIDC ID token is malformed"
  else
    let encoded := segments.getD part []
    if MAX_ID_TOKEN_BYTES < encoded.length then refuse "OIDC ID token is oversized"
    else if JWT_SEGMENT encoded = false then refuse "OIDC ID token is malformed"
    else
      match urlsafe_b64decode encoded with
      | none => refuse "OIDC ID token is malformed"
      | some payload =>
        if urlsafe_b64encode payload ≠ encoded then refuse "OIDC ID token is not canonically encoded"
        else decode_json library payload "ID token"

/-- `_KID` -/
def KID (t : Text) : Bool := decide (1 ≤ t.length ∧ t.length ≤ 128) && t.all fun c => decide (0x21 ≤ c.toNat ∧ c.toNat ≤ 0x7E)

/-- A member of a key, which `null` leaves out. -/
def member (key : Document) (name : String) : Option Json :=
  match key.lookup name.toList with
  | some .null => none
  | value => value

/-- A descriptive member of a key is short text, if it is there. -/
def described (key : Document) (name : String) : Bool :=
  match member key name with
  | none => true
  | some (.str value) => decide (1 ≤ value.length ∧ value.length ≤ 128) && !has_control value
  | some _ => false

/-- `int.from_bytes(value, "big")` -/
def big_endian (b : Bytes) : Nat := ofDigits 256 (b.map UInt8.toNat)

/-- The numbers of a key are of the size its algorithm asks for. -/
def sized (key : Document) (algorithm : Text) : Bool :=
  if algorithm = "RS256".toList then
    ((base64url_bytes (key.lookup "n".toList)).any fun modulus =>
      decide (2048 ≤ (big_endian modulus).size ∧ (big_endian modulus).size ≤ 8192)) &&
    (base64url_bytes (key.lookup "e".toList)).any fun exponent => big_endian exponent == 65537
  else if algorithm = "ES256".toList then
    ((base64url_bytes (key.lookup "x".toList)).any fun coordinate => coordinate.length == 32) &&
    (base64url_bytes (key.lookup "y".toList)).any fun coordinate => coordinate.length == 32
  else true

/-- `_select_key` -/
def select_key (jwks : List Document) (kid algorithm : Text) : Option Document :=
  let valid_keys := jwks.filter fun key => ["kid", "use", "alg", "kty", "crv"].all (described key)
  match valid_keys.filter fun key => (member key "kid").bind text_of == some kid with
  | [key] =>
    if (member key "use").any (fun use => text_of use != some "sig".toList) ∨
        (member key "alg").any (fun alg => text_of alg != some algorithm) then none
    else if (member key "kty").bind text_of ≠ some (if algorithm = "RS256".toList then "RSA".toList else "EC".toList) then none
    else if key.any (fun entry => decide (entry.1 ∈ PRIVATE_JWK_MEMBERS)) then none
    else if key.any (fun entry => decide (entry.1 ∈ ["jku".toList, "x5u".toList, "jwk".toList])) then none
    else if algorithm = "ES256".toList ∧ (member key "crv").bind text_of ≠ some "P-256".toList then none
    else if sized key algorithm = false then none
    else some key
  | _ => none

/-! ### The cache of keys -/

/-- What has happened to the key set: a request of it at a moment, with the keys
    that were stored, and the search for a token's key among keys. -/
inductive Event
  | fetched (moment : Int) (stored : Option (List Document))
  | searched (began : Int) (keys : List Document)

/-- The client's caches. Its history is kept for what is said about it; the
    code reads no part of it. -/
structure OidcProvider where
  metadata : Option ProviderMetadata := none
  jwks : Option (List Document) := none
  last_jwks_refresh : Option Int := none
  jwks_loaded_at : Option Int := none
  history : List Event := []

namespace OidcProvider

def record (provider : OidcProvider) (event : Event) : OidcProvider := { provider with history := provider.history ++ [event] }

section
variable (library : Library) (config : Config)

/-- `discovery` -/
def discovery (provider : OidcProvider) (http : Text → Reply) : Except Refusal ProviderMetadata × OidcProvider :=
  match provider.metadata with
  | some metadata => (.ok metadata, provider)
  | none =>
    let url := rstripChar '/' config.oidc_issuer ++ "/.well-known/openid-configuration".toList
    match json_request library (http url) MAX_DISCOVERY_BYTES >>= read_metadata library config with
    | .error error => (.error error, provider)
    | .ok metadata => (.ok metadata, { provider with metadata := some metadata })

/-- Whether the cached keys were loaded within their lifetime. -/
def fresh_cache (provider : OidcProvider) (checked_at : Int) : Bool :=
  provider.jwks.isSome && provider.jwks_loaded_at.any fun loaded_at => decide (checked_at - loaded_at < JWKS_CACHE_LIFETIME)

/-- Whether the last refresh is too recent for another. -/
def backing_off (provider : OidcProvider) (checked_at : Int) : Bool :=
  provider.last_jwks_refresh.any fun last => decide (checked_at - last < JWKS_REFRESH_BACKOFF)

/-- The request of `_load_jwks`. -/
def fetch_jwks (provider : OidcProvider) (checked_at : Int) (reply : Reply) : Except Refusal (List Document) × OidcProvider :=
  match json_request library reply MAX_JWKS_BYTES >>= read_keys with
  | .error error => (.error error, provider.record (.fetched checked_at none))
  | .ok keys =>
    (.ok keys, { provider.record (.fetched checked_at (some keys)) with jwks := some keys, jwks_loaded_at := some checked_at })

/-- `_load_jwks` -/
def load_jwks (provider : OidcProvider) (checked_at : Int) (http : Text → Reply) (refresh : Bool) :
    Except Refusal (List Document) × OidcProvider :=
  match provider.jwks, provider.fresh_cache checked_at && !refresh with
  | some keys, true => (.ok keys, provider)
  | _, _ =>
    if provider.backing_off checked_at then (refuse "OIDC JWKS refresh is temporarily rate limited", provider)
    else
      match discovery library config { provider with last_jwks_refresh := some checked_at } http with
      | (.error error, provider) => (.error error, provider)
      | (.ok metadata, provider) => provider.fetch_jwks library checked_at (http metadata.jwks_uri)

end

end OidcProvider

/-- A call of `validate_id_token`: what the clock says and what the provider
    answers when it begins and at each of the two times it may ask for keys, and
    the clock when it looks at the claims. -/
structure Validation where
  token : Text
  expected_nonce_hash : Text
  began : Int
  began_http : Text → Reply
  first : Int
  first_http : Text → Reply
  second : Int
  second_http : Text → Reply
  ended : Int

namespace OidcProvider
section
variable (library : Library) (config : Config)

/-- The header of a token whose parts are readable. -/
def read_header (token : Text) : Except Refusal Document := do
  if MAX_ID_TOKEN_BYTES < (Bytes.utf8 token).length then refuse "OIDC ID token is oversized"
  let header ← jwt_part library token 0
  let _ ← jwt_part library token 1
  return header

/-- The algorithm and the key identifier that a header may name. -/
def named_key (metadata : ProviderMetadata) (header : Document) : Except Refusal (Text × Text) :=
  match (header.lookup "alg".toList).bind text_of, (header.lookup "kid".toList).bind text_of with
  | some algorithm, some kid =>
    if algorithm ∉ metadata.signing_algorithms ∨ KID kid = false then
      refuse "OIDC ID token algorithm or key identifier is not allowed"
    else if header.any (fun entry => decide (entry.1 ∈ ["jku".toList, "x5u".toList, "jwk".toList])) then
      refuse "OIDC ID token embeds an untrusted key reference"
    else .ok (algorithm, kid)
  | _, _ => refuse "OIDC ID token algorithm or key identifier is not allowed"

/-- The key of a token, from the cache and then from a refreshed key set. -/
def find_key (provider : OidcProvider) (call : Validation) (algorithm kid : Text) : Except Refusal Document × OidcProvider :=
  match provider.load_jwks library config call.first call.first_http false with
  | (.error error, provider) => (.error error, provider)
  | (.ok keys, provider) =>
    let provider := provider.record (.searched call.began keys)
    match select_key keys kid algorithm with
    | some key_data => (.ok key_data, provider)
    | none =>
      match provider.load_jwks library config call.second call.second_http true with
      | (.error error, provider) => (.error error, provider)
      | (.ok keys, provider) =>
        let provider := provider.record (.searched call.began keys)
        match select_key keys kid algorithm with
        | some key_data => (.ok key_data, provider)
        | none => (refuse "OIDC ID token key is unknown", provider)

/-- The identity in a token, by the key that was found. -/
def verified_identity (call : Validation) (algorithm : Text) (key_data : Document) : Except Refusal VerifiedIdentity :=
  match library.decode key_data call.token algorithm with
  | none => refuse "OIDC ID token signature is invalid"
  | some claims =>
    match IdTokens.validate_id_token library.digest library.registry config.toConfig (call.ended.tdiv 1000000) claims
        call.expected_nonce_hash with
    | none => .error .claims_refused
    | some identity => .ok identity

def validate_id_token (provider : OidcProvider) (call : Validation) : Except Refusal VerifiedIdentity × OidcProvider :=
  match read_header library call.token with
  | .error error => (.error error, provider)
  | .ok header =>
    match discovery library config provider call.began_http with
    | (.error error, provider) => (.error error, provider)
    | (.ok metadata, provider) =>
      match named_key metadata header with
      | .error error => (.error error, provider)
      | .ok (algorithm, kid) =>
        match find_key library config provider call algorithm kid with
        | (.error error, provider) => (.error error, provider)
        | (.ok key_data, provider) => (verified_identity library config call algorithm key_data, provider)

/-- A sequence of calls. -/
def run (provider : OidcProvider) (calls : List Validation) : OidcProvider :=
  calls.foldl (fun provider call => (validate_id_token library config provider call).2) provider

end
end OidcProvider

/-! ### The discipline of the cache -/

/-- The moments at which the key set was requested. -/
def fetch_moments (history : List Event) : List Int :=
  history.filterMap fun
    | .fetched moment _ => some moment
    | .searched _ _ => none

/-- The keys that a request brought, with its moment. -/
def Event.stored : Event → Option (Int × List Document)
  | .fetched moment (some keys) => some (moment, keys)
  | _ => none

/-- What the last successful request of the key set brought. -/
def last_stored (history : List Event) : Option (Int × List Document) := latest Event.stored history

/-- Keys that a search of a check begun at a moment may use. -/
def Loaded (history : List Event) (began : Int) (keys : List Document) : Prop :=
  ∃ moment, Event.fetched moment (some keys) ∈ history ∧ began < moment + JWKS_CACHE_LIFETIME

/-- A search uses loaded keys. -/
def Fresh (before : List Event) : Event → Prop
  | .searched began keys => Loaded before began keys
  | .fetched _ _ => True

structure Disciplined (provider : OidcProvider) : Prop where
  apart : (fetch_moments provider.history).Pairwise fun earlier later => earlier + JWKS_REFRESH_BACKOFF ≤ later
  behind : ∀ moment ∈ fetch_moments provider.history, ∃ last, provider.last_jwks_refresh = some last ∧ moment ≤ last
  loaded_at : provider.jwks_loaded_at = (last_stored provider.history).map Prod.fst
  keys : provider.jwks = (last_stored provider.history).map Prod.snd
  fresh : Justified Fresh provider.history

/-- Everything a call of `_load_jwks` may do. -/
inductive Load (provider : OidcProvider) (checked_at : Int) : Except Refusal (List Document) → OidcProvider → Prop
  | cached {keys : List Document} {loaded_at : Int} (held : provider.jwks = some keys) (loaded : provider.jwks_loaded_at = some loaded_at)
      (young : checked_at - loaded_at < JWKS_CACHE_LIFETIME) : Load provider checked_at (.ok keys) provider
  | limited (error : Refusal) : Load provider checked_at (.error error) provider
  | undiscovered (error : Refusal) (idle : provider.backing_off checked_at = false) :
      Load provider checked_at (.error error) { provider with last_jwks_refresh := some checked_at }
  | failed (error : Refusal) (metadata : Option ProviderMetadata) (idle : provider.backing_off checked_at = false) :
      Load provider checked_at (.error error)
        { provider with
          metadata := metadata
          last_jwks_refresh := some checked_at
          history := provider.history ++ [.fetched checked_at none] }
  | stored (keys : List Document) (metadata : Option ProviderMetadata) (idle : provider.backing_off checked_at = false) :
      Load provider checked_at (.ok keys)
        { metadata := metadata
          jwks := some keys
          last_jwks_refresh := some checked_at
          jwks_loaded_at := some checked_at
          history := provider.history ++ [.fetched checked_at (some keys)] }

section
variable {library : Library} {config : Config} {provider : OidcProvider}

/-- Discovery leaves everything but the metadata. -/
theorem discovery_kept (http : Text → Reply) : ∃ metadata, (provider.discovery library config http).2 = { provider with metadata := metadata } := by
  unfold OidcProvider.discovery
  cases known : provider.metadata with
  | some metadata =>
    refine ⟨provider.metadata, ?_⟩
    rfl
  | none =>
    simp only
    split
    · exact ⟨provider.metadata, rfl⟩
    · exact ⟨_, rfl⟩

theorem discovery_error {http : Text → Reply} {error : Refusal} (refused : (provider.discovery library config http).1 = .error error) :
    (provider.discovery library config http).2 = provider := by
  unfold OidcProvider.discovery at refused ⊢
  cases known : provider.metadata with
  | some metadata => rfl
  | none =>
    simp only [known] at refused ⊢
    split
    · rfl
    · rename_i read
      rw [read] at refused
      cases refused

theorem fetch_load (checked_at : Int) (reply : Reply) (metadata : Option ProviderMetadata) (idle : provider.backing_off checked_at = false) :
    Load provider checked_at
      (({ provider with metadata := metadata, last_jwks_refresh := some checked_at } : OidcProvider).fetch_jwks library checked_at reply).1
      (({ provider with metadata := metadata, last_jwks_refresh := some checked_at } : OidcProvider).fetch_jwks library checked_at reply).2 := by
  unfold OidcProvider.fetch_jwks
  split
  · exact .failed _ metadata idle
  · exact .stored _ metadata idle

theorem load_jwks_load (checked_at : Int) (http : Text → Reply) (refresh : Bool) :
    Load provider checked_at (provider.load_jwks library config checked_at http refresh).1
      (provider.load_jwks library config checked_at http refresh).2 := by
  unfold OidcProvider.load_jwks
  split
  · rename_i keys held fresh
    rw [Bool.and_eq_true] at fresh
    unfold OidcProvider.fresh_cache at fresh
    cases loaded : provider.jwks_loaded_at with
    | none => simp [loaded] at fresh
    | some loaded_at =>
      simp only [loaded, Option.any_some, Bool.and_eq_true, decide_eq_true_eq] at fresh
      exact .cached held loaded fresh.1.2
  · split
    · exact .limited _
    · rename_i idle
      rw [Bool.not_eq_true] at idle
      obtain ⟨metadata, kept⟩ := @discovery_kept library config { provider with last_jwks_refresh := some checked_at } http
      split
      · rename_i error after discovered
        have same := discovery_error (congrArg Prod.fst discovered)
        rw [discovered] at same
        subst same
        exact .undiscovered _ idle
      · rename_i found after discovered
        rw [discovered] at kept
        subst kept
        exact fetch_load checked_at _ metadata idle

end

theorem fetch_moments_append (history later : List Event) : fetch_moments (history ++ later) = fetch_moments history ++ fetch_moments later :=
  List.filterMap_append

theorem last_stored_failed (history : List Event) (moment : Int) : last_stored (history ++ [.fetched moment none]) = last_stored history :=
  latest_concat _

theorem last_stored_stored (history : List Event) (moment : Int) (keys : List Document) :
    last_stored (history ++ [.fetched moment (some keys)]) = some (moment, keys) :=
  latest_concat _

theorem last_stored_searched (history : List Event) (began : Int) (keys : List Document) :
    last_stored (history ++ [.searched began keys]) = last_stored history :=
  latest_concat _

theorem mem_of_last_stored {history : List Event} {moment : Int} {keys : List Document} (last : last_stored history = some (moment, keys)) :
    Event.fetched moment (some keys) ∈ history := by
  obtain ⟨event, member, stored⟩ := mem_of_latest last
  cases event with
  | fetched other kept =>
    cases kept with
    | none => cases stored
    | some found =>
      cases stored
      exact member
  | searched _ _ => cases stored

section
variable {provider after : OidcProvider} {checked_at : Int} {result : Except Refusal (List Document)}

/-- No request follows another within the time to back off. -/
theorem apart_fetched (disciplined : Disciplined provider) (idle : provider.backing_off checked_at = false) (stored : Option (List Document)) :
    (fetch_moments (provider.history ++ [.fetched checked_at stored])).Pairwise (fun earlier later => earlier + JWKS_REFRESH_BACKOFF ≤ later) ∧
      ∀ moment ∈ fetch_moments (provider.history ++ [.fetched checked_at stored]), moment ≤ checked_at := by
  have old : ∀ moment ∈ fetch_moments provider.history, moment + JWKS_REFRESH_BACKOFF ≤ checked_at := by
    intro moment member
    obtain ⟨last, refreshed, behind⟩ := disciplined.behind moment member
    unfold OidcProvider.backing_off at idle
    rw [refreshed, Option.any_some, decide_eq_false_iff_not] at idle
    omega
  have one : fetch_moments [Event.fetched checked_at stored] = [checked_at] := rfl
  rw [fetch_moments_append, one]
  constructor
  · refine List.pairwise_append.mpr ⟨disciplined.apart, List.pairwise_singleton _ _, fun moment member later is => ?_⟩
    rw [List.mem_singleton.mp is]
    exact old moment member
  · intro moment member
    rcases List.mem_append.mp member with earlier | is
    · have bound := old moment earlier
      unfold JWKS_REFRESH_BACKOFF at bound
      omega
    · exact (List.mem_singleton.mp is).le

/-- A call of `_load_jwks` keeps the discipline. -/
theorem disciplined_load (disciplined : Disciplined provider) (load : Load provider checked_at result after) : Disciplined after := by
  cases load with
  | cached | limited => exact disciplined
  | undiscovered error idle =>
    refine ⟨disciplined.apart, fun moment member => ⟨checked_at, rfl, ?_⟩, disciplined.loaded_at, disciplined.keys, disciplined.fresh⟩
    apply (apart_fetched disciplined idle none).2
    rw [fetch_moments_append]
    exact List.mem_append_left _ member
  | failed error metadata idle =>
    obtain ⟨apart, behind⟩ := apart_fetched disciplined idle none
    refine ⟨apart, fun moment member => ⟨checked_at, rfl, behind moment member⟩, ?_, ?_, justified_concat.mpr ⟨disciplined.fresh, trivial⟩⟩
    · rw [last_stored_failed]
      exact disciplined.loaded_at
    · rw [last_stored_failed]
      exact disciplined.keys
  | stored keys metadata idle =>
    obtain ⟨apart, behind⟩ := apart_fetched disciplined idle (some keys)
    refine ⟨apart, fun moment member => ⟨checked_at, rfl, behind moment member⟩, ?_, ?_, justified_concat.mpr ⟨disciplined.fresh, trivial⟩⟩
    · rw [last_stored_stored]
      rfl
    · rw [last_stored_stored]
      rfl

/-- The keys that a call returns were loaded within their lifetime. -/
theorem loaded_load {keys : List Document} (disciplined : Disciplined provider) (load : Load provider checked_at (.ok keys) after) :
    Loaded after.history checked_at keys := by
  cases load with
  | cached held loaded young =>
    rw [disciplined.keys] at held
    rw [disciplined.loaded_at] at loaded
    obtain ⟨pair, last, rfl⟩ := Option.map_eq_some_iff.mp held
    obtain ⟨_, same, rfl⟩ := Option.map_eq_some_iff.mp loaded
    cases Option.some.inj (last.symm.trans same)
    exact ⟨pair.1, mem_of_last_stored last, by omega⟩
  | stored keys metadata idle =>
    refine ⟨checked_at, List.mem_append_right _ List.mem_cons_self, ?_⟩
    unfold JWKS_CACHE_LIFETIME
    omega

/-- A failing call leaves the keys and the moment they were loaded at. -/
theorem load_error {error : Refusal} (load : Load provider checked_at (.error error) after) :
    after.jwks = provider.jwks ∧ after.jwks_loaded_at = provider.jwks_loaded_at := by
  cases load <;> exact ⟨rfl, rfl⟩

theorem Loaded.earlier {history : List Event} {keys : List Document} {began : Int} (loaded : Loaded history checked_at keys)
    (order : began ≤ checked_at) : Loaded history began keys := by
  obtain ⟨moment, member, young⟩ := loaded
  exact ⟨moment, member, by omega⟩

/-- A search among loaded keys keeps the discipline. -/
theorem disciplined_searched {began : Int} {keys : List Document} (disciplined : Disciplined provider)
    (loaded : Loaded provider.history began keys) : Disciplined (provider.record (.searched began keys)) := by
  have no_fetch : fetch_moments [Event.searched began keys] = [] := rfl
  have same : fetch_moments (provider.record (.searched began keys)).history = fetch_moments provider.history := by
    rw [OidcProvider.record, fetch_moments_append, no_fetch, List.append_nil]
  have last : last_stored (provider.record (.searched began keys)).history = last_stored provider.history := last_stored_searched _ _ _
  refine ⟨same ▸ disciplined.apart, same ▸ disciplined.behind, last ▸ disciplined.loaded_at, last ▸ disciplined.keys,
    justified_concat.mpr ⟨disciplined.fresh, loaded⟩⟩

end

/-! ### Sequences of calls -/

/-- What the clock says along a call. -/
def Validation.moments (call : Validation) : List Int := [call.began, call.first, call.second, call.ended]

section
variable {library : Library} {config : Config} {provider : OidcProvider}

theorem disciplined_discovery (disciplined : Disciplined provider) (http : Text → Reply) :
    Disciplined (provider.discovery library config http).2 := by
  obtain ⟨metadata, kept⟩ := @discovery_kept library config provider http
  rw [kept]
  exact ⟨disciplined.apart, disciplined.behind, disciplined.loaded_at, disciplined.keys, disciplined.fresh⟩

/-- One request for keys, and the search among what it returns. -/
theorem disciplined_look {began checked_at : Int} {http : Text → Reply} {refresh : Bool} {keys : List Document} {after : OidcProvider}
    (disciplined : Disciplined provider) (order : began ≤ checked_at)
    (returned : provider.load_jwks library config checked_at http refresh = (.ok keys, after)) :
    Disciplined (after.record (.searched began keys)) := by
  have load := @load_jwks_load library config provider checked_at http refresh
  rw [returned] at load
  exact disciplined_searched (disciplined_load disciplined load) ((loaded_load disciplined load).earlier order)

theorem disciplined_refused {checked_at : Int} {http : Text → Reply} {refresh : Bool} {error : Refusal} {after : OidcProvider}
    (disciplined : Disciplined provider) (returned : provider.load_jwks library config checked_at http refresh = (.error error, after)) :
    Disciplined after := by
  have load := @load_jwks_load library config provider checked_at http refresh
  rw [returned] at load
  exact disciplined_load disciplined load

theorem disciplined_find {call : Validation} (disciplined : Disciplined provider) (first : call.began ≤ call.first)
    (second : call.began ≤ call.second) (algorithm kid : Text) :
    Disciplined (provider.find_key library config call algorithm kid).2 := by
  unfold OidcProvider.find_key
  split
  · rename_i returned
    exact disciplined_refused disciplined returned
  · rename_i keys after returned
    have looked := disciplined_look disciplined first returned
    simp only
    split
    · exact looked
    · split
      · rename_i again
        exact disciplined_refused looked again
      · rename_i again
        have relooked := disciplined_look looked second again
        split <;> exact relooked

theorem disciplined_validate {call : Validation} (disciplined : Disciplined provider) (first : call.began ≤ call.first)
    (second : call.began ≤ call.second) : Disciplined (provider.validate_id_token library config call).2 := by
  have discovered := @disciplined_discovery library config _ disciplined call.began_http
  unfold OidcProvider.validate_id_token
  split
  · exact disciplined
  · split
    · rename_i found
      rw [found] at discovered
      exact discovered
    · rename_i found
      rw [found] at discovered
      split
      · exact discovered
      · have found_key := fun algorithm kid => @disciplined_find library config _ _ discovered first second algorithm kid
        split
        · rename_i searched
          rw [← congrArg Prod.snd searched]
          exact found_key _ _
        · rename_i searched
          rw [← congrArg Prod.snd searched]
          exact found_key _ _

theorem disciplined_run {calls : List Validation} (disciplined : Disciplined provider)
    (ordered : ∀ call ∈ calls, call.began ≤ call.first ∧ call.began ≤ call.second) :
    Disciplined (provider.run library config calls) := by
  induction calls generalizing provider with
  | nil => exact disciplined
  | cons call calls ih =>
    obtain ⟨first, second⟩ := ordered call List.mem_cons_self
    exact ih (disciplined_validate disciplined first second) fun other member => ordered other (List.mem_cons_of_mem _ member)

end

theorem disciplined_start : Disciplined {} :=
  ⟨List.Pairwise.nil, fun _ member => absurd member List.not_mem_nil, rfl, rfl, justified_nil⟩

theorem ordered_of_clock {calls : List Validation} (clock : (calls.flatMap Validation.moments).Pairwise (· ≤ ·)) :
    ∀ call ∈ calls, call.began ≤ call.first ∧ call.began ≤ call.second := by
  intro call member
  have within : call.moments.Pairwise (· ≤ ·) := (List.pairwise_flatMap.mp clock).1 call member
  simp only [Validation.moments, List.pairwise_cons, List.mem_cons] at within
  exact ⟨within.1 _ (Or.inl rfl), within.1 _ (Or.inr (Or.inl rfl))⟩

/-- A provider with one key, whose documents are the bodies of one byte. -/
def exampleLibrary : Library where
  unicode := Unicode.plain
  loads body :=
    if body = [0] then .ok (.object [("issuer".toList, .str "https://id.example".toList),
      ("authorization_endpoint".toList, .str "https://id.example/authorize".toList),
      ("token_endpoint".toList, .str "https://id.example/token".toList),
      ("jwks_uri".toList, .str "https://id.example/keys".toList),
      ("code_challenge_methods_supported".toList, .list [.str "S256".toList]),
      ("id_token_signing_alg_values_supported".toList, .list [.str "RS256".toList]),
      ("response_types_supported".toList, .list [.str "code".toList]),
      ("token_endpoint_auth_methods_supported".toList, .list [.str "client_secret_basic".toList])])
    else if body = [1] then .ok (.object [("keys".toList, .list [.object [("kid".toList, .str "old".toList)]])])
    else if body = [2] then .ok (.object [("alg".toList, .str "RS256".toList), ("kid".toList, .str "new".toList)])
    else .error .invalid
  decode _ _ _ := none
  registry _ _ := false
  digest := id

def exampleConfig : Config where
  oidc_issuer := "https://id.example".toList
  oidc_client_id := "reddock".toList
  organization_slug := "reddock".toList
  oidc_endpoint_origins := ["https://id.example".toList]

/-- A token of an unknown key, checked at a second. -/
def exampleCall (second : Int) : Validation where
  token := "Ag.Ag.Ag".toList
  expected_nonce_hash := []
  began := second * 1000000
  began_http url := .response 200 "application/json".toList (if url = "https://id.example/keys".toList then [1] else [0])
  first := second * 1000000
  first_http url := .response 200 "application/json".toList (if url = "https://id.example/keys".toList then [1] else [0])
  second := second * 1000000
  second_http _ := .http_error
  ended := second * 1000000

end RedDock.ProviderKeys
