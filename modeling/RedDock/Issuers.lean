import RedDock.Targets

/-!
# Canonical HTTPS URLs

The one spelling of an issuer, or of an origin of the identity provider, that
the configuration, the offline bootstrap and the server accept.
-/
set_option autoImplicit false
namespace RedDock.Issuers
open Text Targets

/-- What `_canonical_https_url` may raise. -/
inductive UrlError
  | configurationError (message : Text)
  | valueError
  deriving DecidableEq

def configurationError {α : Type} (field message : String) : Except UrlError α :=
  .error (.configurationError (field.toList ++ ' ' :: message.toList))

/-- `[A-Za-z0-9._~!$&'()*+,;=:@-]` -/
def path_char (c : Char) : Bool := c.isAlphanum || c ∈ "._~!$&'()*+,;=:@-".toList

/-- `(?:/[A-Za-z0-9._~!$&'()*+,;=:@-]+)*/?` over the whole text. -/
def ISSUER_PATH (path : Text) : Bool :=
  path == [] || (path.head? == some '/' &&
    (path.tail.splitOn '/').dropLast.all (fun segment => segment != [] && segment.all path_char) &&
    ((path.tail.splitOn '/').getLastD []).all path_char)

/-- The segments of a path, without the empty one behind a final slash. -/
def path_segments (path : Text) : List Text :=
  let segments := (path.splitOn '/').tail
  if segments.getLast? = some [] then segments.dropLast else segments

/-- `urlunsplit(("https", netloc, path, "", ""))` -/
def unsplit (netloc path : Text) : Text :=
  "https://".toList ++ netloc ++ (if path ≠ [] ∧ path.head? ≠ some '/' then '/' :: path else path)

def rendered_netloc (hostname : Text) (port : Option Nat) : Text :=
  let rendered_host := if ':' ∈ hostname then ['['] ++ hostname ++ [']'] else hostname
  match port with
  | some port => rendered_host ++ ':' :: dec port
  | none => rendered_host

/-- Why a path is refused. -/
def path_error (field : String) (origin_only : Bool) (path : Text) : Option UrlError :=
  let refused := fun (message : String) => some (UrlError.configurationError (field.toList ++ ' ' :: message.toList))
  if origin_only then if path ≠ [] then refused "must be an origin without a path" else none
  else if !ISSUER_PATH path then refused "contains a non-canonical issuer path"
  else if (path_segments path).any fun segment => segment ∈ [[], ['.'], ['.', '.']] then
    refused "contains a non-canonical issuer path"
  else none

/-- `_canonical_https_url` once the URL is split and its port is read. -/
def canonical_parts (u : Unicode) (field : String) (origin_only : Bool) (raw : Text) (parts : Urls.SplitResult)
    (port : Option Nat) : Except UrlError Text :=
  let hostname := parts.hostname u
  let path := (Urls.location u raw).1
  if !isAscii hostname ∨ hostname ≠ u.lower hostname then configurationError field "host must use canonical lowercase ASCII"
  else
    match normalize_target u hostname with
    | .error _ => configurationError field "contains an invalid host"
    | .ok normalized_host =>
      if normalized_host.kind ≠ .hostname ∨ normalized_host.value ≠ hostname then
        configurationError field "must use a canonical DNS host name"
      else if parts.netloc.getLast? = some ':' ∨ (port = some 443 ∧ ":443".toList <:+: parts.netloc) then
        configurationError field "must omit the default HTTPS port"
      else
        match path_error field origin_only path with
        | some error => .error error
        | none =>
          let canonical := unsplit (rendered_netloc hostname port) path
          if canonical ≠ raw then configurationError field "must use its exact canonical spelling"
          else .ok canonical

/-- `_canonical_https_url` -/
def canonical_https_url (u : Unicode) (field : String) (origin_only : Bool) (raw : Text) : Except UrlError Text :=
  if raw = [] ∨ raw ≠ strip raw ∨ 500 < raw.length then configurationError field "must be bounded canonical HTTPS text"
  else if '\\' ∈ raw ∨ raw.any (fun c => isSpace c || decide (c.toNat < 0x20)) = true then
    configurationError field "contains unsafe characters"
  else
    match Urls.urlsplit u raw with
    | none => .error .valueError
    | some parts =>
      let (_, query, fragment) := Urls.location u raw
      if parts.scheme ≠ "https".toList ∨ parts.hostname u = [] ∨ parts.username ≠ [] ∨ parts.password ≠ [] then
        configurationError field "must be an exact HTTPS URL without credentials"
      else if query ≠ [] ∨ fragment ≠ [] then configurationError field "must not contain a query or fragment"
      else
        match parts.port with
        | none => configurationError field "contains an invalid port"
        | some port => canonical_parts u field origin_only raw parts port

def canonical_oidc_issuer (u : Unicode) (raw : Text) : Except UrlError Text := canonical_https_url u "OIDC issuer" false raw

/-- A URL is accepted as it is written. -/
theorem canonical_https_url_eq {u : Unicode} {field : String} {origin_only : Bool} {raw canonical : Text}
    (accepted : canonical_https_url u field origin_only raw = .ok canonical) : canonical = raw := by
  have refused : ∀ message, configurationError field message ≠ .ok canonical := fun _ same => by cases same
  unfold canonical_https_url at accepted
  split at accepted
  · exact absurd accepted (refused _)
  split at accepted
  · exact absurd accepted (refused _)
  split at accepted
  · cases accepted
  simp only at accepted
  split at accepted
  · exact absurd accepted (refused _)
  split at accepted
  · exact absurd accepted (refused _)
  split at accepted
  · exact absurd accepted (refused _)
  unfold canonical_parts at accepted
  simp only at accepted
  split at accepted
  · exact absurd accepted (refused _)
  split at accepted
  · exact absurd accepted (refused _)
  split at accepted
  · exact absurd accepted (refused _)
  split at accepted
  · exact absurd accepted (refused _)
  split at accepted
  · cases accepted
  split at accepted
  · exact absurd accepted (refused _)
  · rename_i spelled
    cases accepted
    exact not_not.mp spelled

example : canonical_oidc_issuer .plain "https://id.example/realms/a/".toList = .ok "https://id.example/realms/a/".toList := by
  decide +kernel
example : (canonical_oidc_issuer .plain "https://id.example/a/../b".toList).toOption = none := by decide +kernel

end RedDock.Issuers
