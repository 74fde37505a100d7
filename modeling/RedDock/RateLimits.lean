import RedDock.Text
import RedDock.Bytes

/-!
# Database-serialized rate limits

An attempt consults the global bucket of its action, then the bucket of its
subject, each in one conditional upsert, and forgets a batch of expired buckets
in between. Moments are microseconds.
-/
set_option autoImplicit false
namespace RedDock.RateLimits
open Text

def MAX_BUCKET_ATTEMPTS : Nat := 1000000
/-- `MAX_WINDOW`, in seconds. -/
def MAX_WINDOW : Nat := 86400
def DEFAULT_CLEANUP_LIMIT : Nat := 64
/-- `datetime.max` -/
def MAX_MOMENT : Nat := 315537897599999999

inductive RateLimitedAction
  | oidc_login
  | oidc_callback
  | request_mutation
  deriving DecidableEq, Repr

def RateLimitedAction.value : RateLimitedAction → Text
  | .oidc_login => "oidc.login".toList
  | .oidc_callback => "oidc.callback".toList
  | .request_mutation => "request.mutation".toList

inductive RateLimitScope
  | global
  | client
  | membership
  | session
  deriving DecidableEq, Repr

def RateLimitScope.value : RateLimitScope → Text
  | .global => "global".toList
  | .client => "client".toList
  | .membership => "membership".toList
  | .session => "session".toList

/-- What a call raises. -/
inductive Refusal
  | value_error (message : Text)
  | overflow_error
  | unavailable (message : Text)
  deriving DecidableEq, Repr

/-- Deployment-owned HMAC material. -/
structure RateLimitKey where
  material : Bytes
  bounded : 32 ≤ material.length ∧ material.length ≤ 128

/-- A limit of attempts in a window of whole seconds. -/
structure RateLimitRule where
  limit : Nat
  window : Nat
  limited : 1 ≤ limit ∧ limit ≤ MAX_BUCKET_ATTEMPTS
  bounded : 1 ≤ window ∧ window ≤ MAX_WINDOW

/-- The window, in microseconds. -/
def RateLimitRule.length (rule : RateLimitRule) : Nat := rule.window * 1000000

structure RateLimitPlan where
  action : RateLimitedAction
  global_rule : RateLimitRule
  subject_rule : RateLimitRule

/-- A value that a subject of a scope may have. -/
def Subject (scope : RateLimitScope) (value : Text) : Prop :=
  if scope = .global then value = "global".toList
  else value ≠ [] ∧ value.length ≤ 128 ∧ isAscii value = true ∧ '\x00' ∉ value

instance decidable_subject (scope : RateLimitScope) (value : Text) : Decidable (Subject scope value) := by
  unfold Subject
  exact inferInstance

structure RateLimitSubject where
  scope : RateLimitScope
  value : Text
  valid : Subject scope value

structure RateLimitDecision where
  allowed : Bool
  retry_after_seconds : Nat
  deriving DecidableEq, Repr

def GLOBAL_SUBJECT : RateLimitSubject := ⟨.global, "global".toList, rfl⟩

/-- `hmac.new(key, message, sha256).hexdigest()` -/
structure Hmac where
  hexdigest : Bytes → Bytes → Text
  length : ∀ key message, (hexdigest key message).length = 64

/-- `str.encode("ascii")`, of ASCII texts. -/
def encode_ascii (t : Text) : Bytes := t.map fun c => UInt8.ofNat c.toNat

/-- What `_key_hash` is the digest of. -/
def material (action : RateLimitedAction) (subject : RateLimitSubject) : Bytes :=
  encode_ascii "reddock-rate-limit-v1\x00".toList ++ encode_ascii action.value ++ [0] ++ encode_ascii subject.scope.value ++ [0] ++
    encode_ascii subject.value

/-- `_retry_after`. A float of seconds that is rounded is more than a day, and
    the window is less than it. -/
def retry_after (expires_at now window : Nat) : Nat := max 1 (min ((expires_at - now + 999999) / 1000000) window)

/-- A stored counter. -/
structure RateLimitBucket where
  id : Nat
  attempt_count : Nat
  expires_at : Nat
  deriving DecidableEq, Repr

/-- The action and the key hash that name a bucket. -/
abbrev BucketKey := RateLimitedAction × Text

/-- The buckets by their names, of which each has one. -/
abbrev Table := AList fun _ : BucketKey => RateLimitBucket

/-- The check constraints of a stored bucket. -/
def Checked (bucket : BucketKey) (row : RateLimitBucket) : Prop :=
  bucket.2.length = 64 ∧ 1 ≤ row.attempt_count ∧ row.attempt_count ≤ MAX_BUCKET_ATTEMPTS

instance decidable_checked (bucket : BucketKey) (row : RateLimitBucket) : Decidable (Checked bucket row) := by
  unfold Checked
  exact inferInstance

def Table.ids (table : Table) : List Nat := table.entries.map fun entry => entry.2.id

/-- The primary key of the next row. -/
def Table.next_id (table : Table) : Nat := table.ids.foldl max 0 + 1

/-- A row is written where the constraints hold. -/
def Table.write (table : Table) (bucket : BucketKey) (row : RateLimitBucket) : Except Refusal Table :=
  if Checked bucket row then .ok (table.insert bucket row) else .error (.unavailable "durable rate limiter is unavailable".toList)

/-- The conditional upsert, which writes no row where its condition fails. -/
def upsert (table : Table) (bucket : BucketKey) (limit now expires_at : Nat) : Except Refusal (Option Table) :=
  match table.lookup bucket with
  | none => some <$> table.write bucket ⟨table.next_id, 1, expires_at⟩
  | some row =>
    if row.expires_at ≤ now then some <$> table.write bucket ⟨row.id, 1, expires_at⟩
    else if row.attempt_count < limit then some <$> table.write bucket ⟨row.id, row.attempt_count + 1, row.expires_at⟩
    else .ok none

/-- `datetime.__add__` -/
def add (now length : Nat) : Except Refusal Nat := if now + length ≤ MAX_MOMENT then .ok (now + length) else .error .overflow_error

section
variable (hmac : Hmac) (plan : RateLimitPlan)

/-- `_key_hash` -/
def key_hash (subject : RateLimitSubject) (key : RateLimitKey) : Text := hmac.hexdigest key.material (material plan.action subject)

def bucket_of (subject : RateLimitSubject) (key : RateLimitKey) : BucketKey := (plan.action, key_hash hmac plan subject key)

/-- `_consume` -/
def consume (table : Table) (subject : RateLimitSubject) (rule : RateLimitRule) (key : RateLimitKey) (now : Nat) :
    Except Refusal (Table × RateLimitDecision) := do
  let bucket := bucket_of hmac plan subject key
  let expires_at ← add now rule.length
  match ← upsert table bucket rule.limit now expires_at with
  | some table => return (table, ⟨true, 0⟩)
  | none =>
    match table.lookup bucket with
    | none => throw (.unavailable "rate-limit decision lost its durable bucket".toList)
    | some stored => return (table, ⟨false, retry_after stored.expires_at now rule.window⟩)

end

/-- An entry before another, by expiry and primary key. -/
def sooner (one other : Sigma fun _ : BucketKey => RateLimitBucket) : Bool :=
  one.2.expires_at < other.2.expires_at || (one.2.expires_at = other.2.expires_at && one.2.id ≤ other.2.id)

/-- The batch of expired rows, less those that others have locked. -/
def expired_ids (table : Table) (cutoff limit : Nat) (locked : List Nat) : List Nat :=
  (((table.entries.filter fun entry => entry.2.expires_at ≤ cutoff ∧ entry.2.id ∉ locked).insertionSort fun one other =>
    sooner one other = true).take limit).map fun entry => entry.2.id

/-- A table without the rows of a batch that have expired. -/
def Table.delete (table : Table) (cutoff : Nat) (ids : List Nat) : Table :=
  ⟨table.entries.filter fun entry => ¬(entry.2.expires_at ≤ cutoff ∧ entry.2.id ∈ ids), table.nodupKeys.sublist List.filter_sublist⟩

/-- `purge_expired_rate_limit_buckets` -/
def purge (table : Table) (before limit : Nat) (locked : List Nat) : Except Refusal Table :=
  if 1 ≤ limit ∧ limit ≤ 1000 then .ok (table.delete before (expired_ids table before limit locked))
  else .error (.value_error "rate-limit cleanup count must be between 1 and 1000".toList)

/-- What a bucket decided, by its rule. -/
structure Consultation where
  bucket : BucketKey
  rule : RateLimitRule
  decision : RateLimitDecision

/-- A call of `enforce_rate_limit`; the rows that others have locked are not purged. -/
structure Attempt where
  key : RateLimitKey
  subject : RateLimitSubject
  now : Nat
  locked : List Nat := []

/-- The consultations of a call, the last of which is its decision. -/
structure Consulted where
  global : Consultation
  subject : Option Consultation := none

def Consulted.all (consulted : Consulted) : List Consultation := consulted.global :: consulted.subject.toList
def Consulted.decision (consulted : Consulted) : RateLimitDecision := (consulted.subject.getD consulted.global).decision

section
variable (hmac : Hmac) (plan : RateLimitPlan)

/-- `enforce_rate_limit`, within its transaction. -/
def enforce (table : Table) (attempt : Attempt) : Except Refusal (Table × Consulted) := do
  if attempt.subject.scope = .global then throw (.value_error "a non-global rate-limit subject is required".toList)
  let (table, decision) ← consume hmac plan table GLOBAL_SUBJECT plan.global_rule attempt.key attempt.now
  let global : Consultation := ⟨bucket_of hmac plan GLOBAL_SUBJECT attempt.key, plan.global_rule, decision⟩
  if decision.allowed = false then return (table, ⟨global, none⟩)
  let table ← purge table attempt.now DEFAULT_CLEANUP_LIMIT attempt.locked
  let (table, decision) ← consume hmac plan table attempt.subject plan.subject_rule attempt.key attempt.now
  return (table, ⟨global, some ⟨bucket_of hmac plan attempt.subject attempt.key, plan.subject_rule, decision⟩⟩)

/-- A transaction on the buckets. -/
inductive Step
  | attempt (call : Attempt)
  | purge (before limit : Nat) (locked : List Nat)

def Step.now : Step → Nat
  | .attempt call => call.now
  | .purge before _ _ => before

/-- What a transaction leaves; one that raises is rolled back. -/
def step (table : Table) : Step → Table
  | .attempt call => match enforce hmac plan table call with
    | .ok (table, _) => table
    | .error _ => table
  | .purge before limit locked => match purge table before limit locked with
    | .ok table => table
    | .error _ => table

/-- What a transaction consulted, if it was committed. -/
def consultations (table : Table) : Step → List Consultation
  | .attempt call => match enforce hmac plan table call with
    | .ok (_, consulted) => consulted.all
    | .error _ => []
  | .purge _ _ _ => []

def run (table : Table) (steps : List Step) : Table := steps.foldl (step hmac plan) table

/-- How many attempts of a step a bucket allowed. -/
def allowed (table : Table) (bucket : BucketKey) (one : Step) : Nat :=
  (consultations hmac plan table one).countP fun consultation => consultation.bucket = bucket ∧ consultation.decision.allowed = true

/-- How many attempts of a run a bucket allowed. -/
def allowed_in (table : Table) (bucket : BucketKey) : List Step → Nat
  | [] => 0
  | one :: steps => allowed hmac plan table bucket one + allowed_in (step hmac plan table one) bucket steps

/-- What a run has digested: the key and the message. -/
def hashed (steps : List Step) : List (Bytes × Bytes) :=
  steps.flatMap fun
    | .attempt call => [(call.key.material, material plan.action GLOBAL_SUBJECT), (call.key.material, material plan.action call.subject)]
    | .purge _ _ _ => []

/-- No two messages of a run have the same digest. -/
def CollisionFree (steps : List Step) : Prop :=
  ∀ one ∈ hashed plan steps, ∀ other ∈ hashed plan steps, hmac.hexdigest one.1 one.2 = hmac.hexdigest other.1 other.2 → one.2 = other.2

end
end RedDock.RateLimits
