import RedDock.Detection
import RedDock.Sessions

/-!
# The session client of a page

`ServerSessionClient` runs on one thread. A call runs up to its next `await` in
one turn, and the private fields are shared by every call that is under way.
The turns are modelled as functions of those fields. A reply, the body of a reply and
the settling of a promise are actions that come in any order the queue allows.
-/
set_option autoImplicit false
namespace RedDock.SessionClient
open Text Detection
open Sessions (Role is_browser_session_token)

/-! ### What the browser gives -/

structure Url where
  origin : Text
  pathname : Text
  hash : Text

/-- `Date.parse`, in milliseconds where it is finite, `window.location.origin`,
    and `new URL(path, origin)` where it does not throw. -/
structure World where
  date_parse : Text → Option Int
  origin : Text
  url : Text → Option Url

/-- The length of a string in UTF-16 code units. -/
def length (t : Text) : Nat := (t.map fun c => if c.toNat < 65536 then 1 else 2).sum

structure Response where
  status : Nat
  /-- The `Retry-After` header. -/
  retry_after : Option Text := none
  deriving DecidableEq

def Response.ok (response : Response) : Bool := 200 ≤ response.status && response.status ≤ 299

/-! ### Errors and accepted documents -/

structure ServerSession where
  role : Role
  permissions : List Text
  expires_at : Text
  deriving DecidableEq

inductive SessionStatus
  | unknown
  | authenticated
  | signed_out
  | unavailable
  deriving DecidableEq

structure ServerSessionError where
  status : Option Nat
  retry_after : Option Nat := none
  deriving DecidableEq

def ServerSessionError.message (error : ServerSessionError) : Text :=
  if error.status = some 401 then "Sign in to continue.".toList
  else if error.status = some 403 then "Permission denied.".toList
  else if error.status = some 429 then "Too many requests. Try again shortly.".toList
  else "Server request unavailable.".toList

/-- What an `await` can throw: the class of the file, or anything else. -/
inductive Thrown
  | server (error : ServerSessionError)
  | other
  deriving DecidableEq

/-- `error instanceof ServerSessionError ? error : new ServerSessionError(null)` -/
def Thrown.server_error : Thrown → ServerSessionError
  | .server error => error
  | .other => { status := none }

def refused : Thrown := .server { status := none }

/-- A parsed object has each key once. -/
def object : Json → Except Thrown (List (Text × Json))
  | .object members => .ok members
  | _ => .error refused

def get (body : List (Text × Json)) (key : String) : Json := (body.lookup key.toList).getD .null

section
variable (world : World)

def expiry : Json → Except Thrown Text
  | .str value => if 40 < length value || (world.date_parse value).isNone then .error refused else .ok value
  | _ => .error refused

def proof : Json → Except Thrown Text
  | .str value => if is_browser_session_token value then .ok value else .error refused
  | _ => .error refused

def exact (body : List (Text × Json)) (keys : List String) : Bool :=
  body.length = keys.length && keys.all fun key => (body.lookup key.toList).isSome

/-- `/^[a-z][a-z_:]{0,63}$/` -/
def permission_text : Text → Bool
  | [] => false
  | first :: rest => first.isLower && rest.length ≤ 63 && rest.all fun c => c.isLower || c == '_' || c == ':'

def permission : Json → Option Text
  | .str value => if permission_text value then some value else none
  | _ => none

def role : Json → Option Role
  | .str value => Role.of value
  | _ => none

def permissions : Json → Option (List Text)
  | .list items => do
    if 64 < items.length then none
    else
      let texts ← items.mapM permission
      if texts.Nodup then some texts else none
  | _ => none

def recovered (value : Json) : Except Thrown (ServerSession × Text) := do
  let body ← object value
  if !exact body ["role", "permissions", "expires_at", "csrf_token"] then .error refused
  else
    match role (get body "role"), permissions (get body "permissions") with
    | some role, some permissions =>
      let expires_at ← expiry world (get body "expires_at")
      let csrf ← proof (get body "csrf_token")
      return ({ role, permissions, expires_at }, csrf)
    | _, _ => .error refused

def failure (response : Response) : Thrown := .server {
  status := some response.status
  retry_after := response.retry_after.bind fun retry =>
    if retry.isDigits && retry.length ≤ 5 then some (min (ofDec retry) 86400) else none }

inductive Notice
  | proof_stale
  | signed_out
  deriving DecidableEq

/-- A number with an integral value is an `int`. -/
def tab_notice : Json → Option Notice
  | .object body =>
    match body.length, get body "v", get body "kind" with
    | 2, .int 1, .str kind =>
      if kind = "proof_stale".toList then some .proof_stale
      else if kind = "signed_out".toList then some .signed_out
      else none
    | _, _, _ => none
  | _ => none

end

/-! ### The private fields -/

/-- The fields of the object but for its queue. A promise it remembers is known by
    the number of the call that made it. -/
structure Client where
  session : Option ServerSession := none
  csrf : Option Text := none
  status : SessionStatus := .unknown
  epoch : Nat := 0
  revision : Nat := 0
  recovering : Option Nat := none
  renewing : Option Nat := none
  logging_out : Option Nat := none
  channel : Bool

namespace Client

def clear (status : SessionStatus) (client : Client) : Client :=
  { client with session := none, csrf := none, status := status, revision := client.revision + 1 }

/-- What `forget` and an accepted notice have in common. -/
def reset (status : SessionStatus) (client : Client) : Client :=
  clear status { client with epoch := client.epoch + 1, recovering := none, renewing := none, logging_out := none }

def forget (client : Client) : Client := client.reset .unknown

def release (client : Client) : Client := { client with channel := false }

def confirms (csrf expires_at : Text) (client : Client) : Bool :=
  is_browser_session_token csrf && decide (client.session.map (·.expires_at) = some expires_at) && decide (client.csrf = some csrf)

/-- `#onNotice`: the fields it leaves, where it accepts the notice. -/
def on_notice (value : Json) (client : Client) : Option Client :=
  (tab_notice value).map fun kind => client.reset (if kind = .signed_out then .signed_out else .unknown)

def publish (kind : Notice) (client : Client) : List Notice := if client.channel then [kind] else []

/-- `#require` at a moment, in milliseconds: the fields it leaves, with the session and the proof. -/
def require (world : World) (now : Int) (client : Client) : Client × Except Thrown (ServerSession × Text) :=
  match client.session, client.csrf with
  | some session, some csrf =>
    if csrf.isEmpty then (client, .error (.server { status := some 401 }))
    else if (world.date_parse session.expires_at).any (· ≤ now) then
      (client.clear .signed_out, .error (.server { status := some 401 }))
    else (client, .ok (session, csrf))
  | _, _ => (client, .error (.server { status := some 401 }))

end Client

/-! ### Turns -/

inductive Method
  | GET
  | HEAD
  | POST
  | PATCH
  | PUT
  | DELETE
  deriving DecidableEq

/-- `SAFE.has(method)` -/
def Method.safe : Method → Bool
  | .GET | .HEAD => true
  | _ => false

/-- A body that `JSON.stringify` writes, or one that it throws on. -/
inductive Body
  | json (value : Json)
  | unserialisable

structure Operation where
  method : Option Method := none
  body : Option Body := none

/-- What `fetch` is called with. -/
structure RequestInit where
  path : Text
  method : Method := .GET
  headers : List (Text × Text) := []
  body : Option Json := none

def CSRF_HEADER : Text := "X-RedDock-CSRF".toList

/-- The proof that goes with a request. -/
def RequestInit.proof (init : RequestInit) : Option Text := init.headers.lookup CSRF_HEADER

inductive Kind
  | recover
  | renew
  | logout
  | request (path : Text) (operation : Operation)

/-- The calls that go through the queue. -/
def Kind.queued : Kind → Bool
  | .request _ operation => !(operation.method.getD .GET).safe
  | _ => true

/-- What an operation has read before an `await` and uses after it. -/
inductive Kept
  | recover
  | renew (session : ServerSession) (csrf : Text)
  | logout
  | request (revision : Nat)

inductive Outcome
  | recovered (session : Option ServerSession)
  | renewed (session : ServerSession)
  | logged_out
  | answered (response : Response)
  | failed (error : Thrown)

/-- How a turn ends: at the `await` of a request, at the `await` of the body of its reply, or for good. -/
inductive Next
  | fetch (init : RequestInit) (kept : Kept)
  | read (kept : Kept)
  | done (outcome : Outcome)

structure Turn where
  client : Client
  next : Next
  published : List Notice := []

namespace Turn

/-- A rejection, with the fields left as they are. -/
def failed (error : Thrown) (client : Client) : Turn := { client := client, next := .done (.failed error) }

/-- The `catch` of an operation of an epoch. -/
def caught (epoch : Nat) (status : Thrown → SessionStatus) (error : Thrown) (client : Client) : Turn :=
  failed (.server error.server_error) (if epoch = client.epoch then client.clear (status error) else client)

/-- The turn a checked value leads to, or the one an error does. -/
def either {A : Type} (error : Thrown → Turn) (next : A → Turn) : Except Thrown A → Turn
  | .ok a => next a
  | .error e => error e

end Turn

section
variable (world : World)

namespace Recover

def caught : Nat → Thrown → Client → Turn := fun epoch => Turn.caught epoch fun _ => .unavailable

def start (epoch : Nat) (client : Client) : Turn :=
  if epoch ≠ client.epoch then .failed refused client
  else
    { client := client
      next := .fetch { path := "/api/auth/session".toList, headers := [("X-RedDock-Session".toList, "recover".toList)] } .recover }

def reply (epoch : Nat) (response : Option Response) (client : Client) : Turn :=
  match response with
  | none => caught epoch refused client
  | some response =>
    if epoch ≠ client.epoch then caught epoch refused client
    else if response.status = 401 then { client := client.clear .signed_out, next := .done (.recovered none) }
    else if !response.ok then caught epoch (failure response) client
    else { client := client, next := .read .recover }

def body (now : Int) (epoch : Nat) (json : Option Json) (client : Client) : Turn :=
  match json with
  | none => caught epoch .other client
  | some json => Turn.either (fun error => caught epoch error client) (fun next =>
      if epoch ≠ client.epoch then caught epoch refused client
      else
        let stored := { client with
          session := some next.1, csrf := some next.2, status := .authenticated, revision := client.revision + 1 }
        let required := stored.require world now
        Turn.either (fun error => caught epoch error required.1)
          (fun _ => { client := required.1, next := .done (.recovered required.1.session) }) required.2)
    (recovered world json)

end Recover

namespace Renew

def caught : Nat → Thrown → Client → Turn := fun epoch => Turn.caught epoch fun error =>
  if error.server_error.status = some 401 then .signed_out else .unavailable

def start (now : Int) (epoch : Nat) (client : Client) : Turn :=
  if epoch ≠ client.epoch then .failed refused client
  else
    let required := client.require world now
    Turn.either (fun error => .failed error required.1) (fun held =>
      { client := required.1
        next := .fetch { path := "/api/auth/renew".toList, method := .POST, headers := [(CSRF_HEADER, held.2)] } (.renew held.1 held.2) })
      required.2

def reply (session : ServerSession) (csrf : Text) (epoch : Nat) (response : Option Response) (client : Client) : Turn :=
  match response with
  | none => caught epoch refused client
  | some response =>
    if epoch ≠ client.epoch then caught epoch refused client
    else if !response.ok then caught epoch (failure response) client
    else { client := client, next := .read (.renew session csrf) }

/-- Whether the proof was rotated, and the proof to keep. -/
def renewed (session : ServerSession) (csrf : Text) (body : List (Text × Json)) : Except Thrown (Bool × Text) :=
  if !exact body ["rotated", "expires_at", "csrf_token"] then .error refused
  else
    match get body "rotated" with
    | .bool rotated => do
      let expires_at ← expiry world (get body "expires_at")
      if expires_at ≠ session.expires_at then .error refused
      else if rotated then return (true, ← proof (get body "csrf_token"))
      else
        match get body "csrf_token" with
        | .null => return (false, csrf)
        | _ => .error refused
    | _ => .error refused

def body (session : ServerSession) (csrf : Text) (epoch : Nat) (json : Option Json) (client : Client) : Turn :=
  match json with
  | none => caught epoch .other client
  | some json => Turn.either (fun error => caught epoch error client) (fun body =>
      if epoch ≠ client.epoch then caught epoch refused client
      else Turn.either (fun error => caught epoch error client) (fun next =>
        { client := { client with csrf := some next.2, revision := client.revision + 1 }
          next := .done (.renewed session)
          published := if next.1 then client.publish .proof_stale else [] })
        (renewed world session csrf body))
    (object json)

end Renew

namespace Logout

def caught : Nat → Thrown → Client → Turn := fun epoch => Turn.caught epoch fun _ => .unavailable

def start (now : Int) (epoch : Nat) (client : Client) : Turn :=
  if epoch ≠ client.epoch then .failed refused client
  else
    let required := client.require world now
    Turn.either (fun error => .failed error required.1) (fun held =>
      { client := required.1
        next := .fetch { path := "/api/auth/logout".toList, method := .POST, headers := [(CSRF_HEADER, held.2)] } .logout })
      required.2

def reply (epoch : Nat) (response : Option Response) (client : Client) : Turn :=
  match response with
  | none => caught epoch refused client
  | some response =>
    if epoch ≠ client.epoch then caught epoch refused client
    else if response.status ≠ 204 then caught epoch (failure response) client
    else { client := client.clear .signed_out, next := .done .logged_out, published := client.publish .signed_out }

end Logout

namespace Request

def start (path : Text) (operation : Operation) (now : Int) (epoch : Nat) (client : Client) : Turn :=
  if epoch ≠ client.epoch then .failed refused client
  else
    let required := client.require world now
    Turn.either (fun error => .failed error required.1) (fun held =>
      let method := operation.method.getD .GET
      let headers := (if method.safe then [] else [(CSRF_HEADER, held.2)]) ++
        (if operation.body.isSome then [("Content-Type".toList, "application/json".toList)] else [])
      match operation.body with
      | some .unserialisable => .failed .other required.1
      | some (.json value) =>
        { client := required.1, next := .fetch { path, method, headers, body := some value } (.request required.1.revision) }
      | none => { client := required.1, next := .fetch { path, method, headers } (.request required.1.revision) })
      required.2

def reply (revision epoch : Nat) (response : Option Response) (client : Client) : Turn :=
  match response with
  | none => .failed refused client
  | some response =>
    if epoch ≠ client.epoch then .failed refused client
    else if client.session.isNone then .failed (.server { status := some 401 }) client
    else if !response.ok then
      .failed (failure response) (if response.status = 401 ∧ revision = client.revision then client.clear .signed_out else client)
    else { client := client, next := .done (.answered response) }

end Request

/-- The first turn of an operation. -/
def start (now : Int) (kind : Kind) (epoch : Nat) (client : Client) : Turn :=
  match kind with
  | .recover => Recover.start epoch client
  | .renew => Renew.start world now epoch client
  | .logout => Logout.start world now epoch client
  | .request path operation => Request.start world path operation now epoch client

/-- The turn after the reply, absent where `fetch` threw. -/
def reply (kept : Kept) (epoch : Nat) (response : Option Response) (client : Client) : Turn :=
  match kept with
  | .recover => Recover.reply epoch response client
  | .renew session csrf => Renew.reply session csrf epoch response client
  | .logout => Logout.reply epoch response client
  | .request revision => Request.reply revision epoch response client

/-- The turn after the body of a reply, absent where `json()` threw. Only two operations read one. -/
def body (now : Int) (kept : Kept) (epoch : Nat) (json : Option Json) (client : Client) : Option Turn :=
  match kept with
  | .recover => some (Recover.body world now epoch json client)
  | .renew session csrf => some (Renew.body world session csrf epoch json client)
  | _ => none

end

/-! ### The page: the object with its promises -/

inductive Stage
  | waiting
  | fetching (kept : Kept)
  | reading (kept : Kept)
  | finished (outcome : Outcome)
  | settled (outcome : Outcome)

def Stage.is_settled : Stage → Bool
  | .settled _ => true
  | _ => false

structure Call where
  kind : Kind
  epoch : Nat
  stage : Stage

/-- What happens on a page: a call is taken on, the state is dropped by `forget` or
    a notice, a request leaves, a notice leaves, a promise settles. -/
inductive Event
  | called (id : Nat)
  | reset
  | sent (id : Nat) (init : RequestInit)
  | published (kind : Notice)
  | settled (id : Nat)

/-- The calls by their number, those of the queue in its order, and what happened. -/
structure Page where
  client : Client
  queue : List Nat := []
  calls : List Call := []
  log : List Event := []

namespace Page

def settled (page : Page) (id : Nat) : Bool := page.calls[id]?.any fun call => call.stage.is_settled

/-- A call is taken on, in the epoch of its moment. -/
def call (kind : Kind) (page : Page) : Page :=
  { page with
    calls := page.calls ++ [{ kind, epoch := page.client.epoch, stage := .waiting }]
    log := page.log ++ [.called page.calls.length] }

/-- `#enqueue` -/
def enqueue (kind : Kind) (page : Page) : Page :=
  { page.call kind with queue := page.queue ++ [page.calls.length] }

def set_stage (id : Nat) (stage : Stage) (page : Page) : Page :=
  { page with calls := page.calls.modify id fun call => { call with stage := stage } }

/-- A turn of a call is run. -/
def advance (id : Nat) (turn : Turn) (page : Page) : Page :=
  let page := { page with client := turn.client, log := page.log ++ turn.published.map Event.published }
  match turn.next with
  | .fetch init kept => { page.set_stage id (.fetching kept) with log := page.log ++ [Event.sent id init] }
  | .read kept => page.set_stage id (.reading kept)
  | .done outcome => page.set_stage id (.finished outcome)

def reset (client : Client) (page : Page) : Page := { page with client := client, log := page.log ++ [.reset] }

end Page

/-! ### The methods, with the promise each returns -/

def recover (page : Page) : Page × Nat :=
  match page.client.recovering with
  | some id => (page, id)
  | none =>
    let id := page.calls.length
    let page := page.enqueue .recover
    ({ page with client := { page.client with recovering := some id } }, id)

def renew (page : Page) : Page × Nat :=
  match page.client.renewing with
  | some id => (page, id)
  | none =>
    let id := page.calls.length
    let page := page.enqueue .renew
    ({ page with client := { page.client with renewing := some id } }, id)

def logout (page : Page) : Page × Nat :=
  match page.client.logging_out with
  | some id => (page, id)
  | none =>
    let id := page.calls.length
    let page := page.enqueue .logout
    ({ page with client := { page.client with logging_out := some id } }, id)

section
variable (world : World)

/-- The paths that `request` takes. -/
def allowed (path : Text) : Bool :=
  (world.url path).any fun target =>
    "/api/".toList.isPrefixOf path && decide (target.origin = world.origin) && "/api/".toList.isPrefixOf target.pathname &&
      !"/api/auth/".toList.isPrefixOf target.pathname && target.hash.isEmpty && !path.contains '\\'

def request (now : Int) (path : Text) (operation : Operation) (page : Page) : Except ServerSessionError (Page × Nat) :=
  if !allowed world path then .error { status := none }
  else if page.client.logging_out.isSome then .error { status := some 401 }
  else
    let id := page.calls.length
    let kind := Kind.request path operation
    if (operation.method.getD .GET).safe then
      .ok ((page.call kind).advance id (start world now kind page.client.epoch page.client), id)
    else .ok (page.enqueue kind, id)

/-- `confirmIssuedProof`: the page it leaves, and whether it returns. -/
def confirm_issued_proof (csrf expires_at : Text) (page : Page) : Page × Except ServerSessionError Unit :=
  if page.client.confirms csrf expires_at then (page, .ok ()) else (page.reset page.client.forget, .error { status := none })

/-- What happens next: a call of the API, a message of another page, or the resumption of a call. -/
inductive Action
  | forget
  | release
  | confirm_issued_proof (csrf expires_at : Text)
  | recover
  | renew
  | logout
  | request (now : Int) (path : Text) (operation : Operation)
  | notice (value : Json)
  | start (now : Int) (id : Nat)
  | reply (id : Nat) (response : Option Response)
  | body (now : Int) (id : Nat) (json : Option Json)
  | settle (id : Nat)
  | tidy (id : Nat)

/-- The operation whose continuation an action is. -/
def Action.operation : Action → Option Nat
  | .start _ id | .reply id _ | .body _ id _ | .settle id | .tidy id => some id
  | _ => none

/-- The next call of the queue, once the promises of those before it have settled. -/
def resume_start (now : Int) (id : Nat) (page : Page) : Option Page := do
  let call ← page.calls[id]?
  match call.stage with
  | .waiting =>
    if page.queue.contains id && (page.queue.takeWhile (· != id)).all page.settled then
      some (page.advance id (start world now call.kind call.epoch page.client))
    else none
  | _ => none

def resume_reply (id : Nat) (response : Option Response) (page : Page) : Option Page := do
  let call ← page.calls[id]?
  match call.stage with
  | .fetching kept => some (page.advance id (reply kept call.epoch response page.client))
  | _ => none

def resume_body (now : Int) (id : Nat) (json : Option Json) (page : Page) : Option Page := do
  let call ← page.calls[id]?
  match call.stage with
  | .reading kept => (body world now kept call.epoch json page.client).map (page.advance id)
  | _ => none

def settle (id : Nat) (page : Page) : Option Page := do
  let call ← page.calls[id]?
  match call.stage with
  | .finished outcome =>
    let page := page.set_stage id (.settled outcome)
    some { page with log := page.log ++ [.settled id] }
  | _ => none

/-- The reaction `clear` of a settled call, which drops the promise where it is still the one remembered. -/
def tidy (id : Nat) (page : Page) : Option Page :=
  let drop := fun (remembered : Option Nat) => if remembered = some id then none else remembered
  if page.settled id then
    some { page with client := { page.client with
      recovering := drop page.client.recovering, renewing := drop page.client.renewing, logging_out := drop page.client.logging_out } }
  else none

/-- An action that cannot happen is absent. -/
def step (page : Page) : Action → Option Page
  | .forget => some (page.reset page.client.forget)
  | .release => some { page with client := page.client.release }
  | .confirm_issued_proof csrf expires_at => some (confirm_issued_proof csrf expires_at page).1
  | .recover => some (recover page).1
  | .renew => some (renew page).1
  | .logout => some (logout page).1
  | .request now path operation =>
    match request world now path operation page with
    | .ok (page, _) => some page
    | .error _ => some page
  | .notice value =>
    if page.client.channel then
      match page.client.on_notice value with
      | some client => some (page.reset client)
      | none => some page
    else none
  | .start now id => resume_start world now id page
  | .reply id response => resume_reply id response page
  | .body now id json => resume_body world now id json page
  | .settle id => settle id page
  | .tidy id => tidy id page

/-- The page of a new object, where the browser has the channel or not. -/
def new_page (channel : Bool) : Page := { client := { channel } }

def run (actions : List Action) (page : Page) : Option Page := actions.foldlM (step world) page

end

end RedDock.SessionClient
