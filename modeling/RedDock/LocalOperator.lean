import RedDock.Histories
import RedDock.Sessions
import RedDock.SlidingWindows

/-!
# The local operator

The throttles and the browser sessions that the local server keeps in memory.
Moments are the seconds of a monotonic clock that is never negative, rational as
floats are: a reading less a window is exact or negative, and the sum of a moment
and an age is rounded to no more than a reading it does not exceed.
-/
set_option autoImplicit false
namespace RedDock.LocalOperator
open Text Histories SlidingWindows
open Sessions (is_browser_session_token)

def OPERATOR_COOKIE_NAME : Text := "reddock_operator".toList
def ALLOWED_BROWSER_ORIGINS : List Text := ["http://localhost:8080".toList, "http://127.0.0.1:8080".toList]
def MUTATION_LIMIT : Nat := 120
def MUTATION_WINDOW_SECONDS : ℚ := 60
def UNLOCK_LIMIT : Nat := 10
def UNLOCK_WINDOW_SECONDS : ℚ := 60
def BROWSER_SESSION_MAX_AGE_SECONDS : ℚ := 8 * 60 * 60
def BROWSER_SESSION_IDLE_SECONDS : ℚ := 30 * 60
def MAX_BROWSER_SESSIONS : Nat := 8

inductive Refusal
  | unavailable
  | denied
  | throttled
  deriving DecidableEq, Repr

/-! ### The throttle -/

/-- `_FixedWindowThrottle` -/
structure FixedWindowThrottle where
  limit : Nat
  window_seconds : ℚ
  events : List ℚ := []

/-- `consume` -/
def FixedWindowThrottle.consume (throttle : FixedWindowThrottle) (moment : ℚ) : Except Refusal Unit × FixedWindowThrottle :=
  let cutoff := moment - throttle.window_seconds
  let events := throttle.events.dropWhile fun event => decide (event ≤ cutoff)
  if throttle.limit ≤ events.length then (.error .throttled, { throttle with events := events })
  else (.ok (), { throttle with events := events ++ [moment] })

/-- The throttle after calls of it, and the moments that it let through. -/
def FixedWindowThrottle.consume_all (throttle : FixedWindowThrottle) : List ℚ → FixedWindowThrottle × List ℚ
  | [] => (throttle, [])
  | moment :: moments =>
    (((throttle.consume moment).2.consume_all moments).1,
      (if (throttle.consume moment).1.isOk then [moment] else []) ++ ((throttle.consume moment).2.consume_all moments).2)

/-! ### Sessions -/

/-- `_LocalBrowserSession` -/
structure LocalBrowserSession where
  session_id : Text
  csrf_digest : Text
  created_at : ℚ
  last_seen_at : ℚ
  deriving DecidableEq

/-- The ordered map of the sessions by the digests of their tokens. -/
abbrev Sessions := List (Text × LocalBrowserSession)

/-- What happens to the session of a digest. An eviction names the digests that
    are still held after it. -/
inductive Event
  | issued (digest : Text) (moment : ℚ)
  | used (digest : Text) (moment : ℚ)
  | authenticated (digest : Text) (moment : ℚ)
  | evicted (digest : Text) (kept : List Text)
  deriving DecidableEq

/-- The state of the process. Its history is kept for what is said about it;
    the code reads no part of it. -/
structure LocalOperatorRuntime where
  digest : Option Text
  mutations : FixedWindowThrottle := { limit := MUTATION_LIMIT, window_seconds := MUTATION_WINDOW_SECONDS }
  unlocks : FixedWindowThrottle := { limit := UNLOCK_LIMIT, window_seconds := UNLOCK_WINDOW_SECONDS }
  sessions : Sessions := []
  history : List Event := []

/-- The header values a request carries. -/
structure Request where
  origin : List Text := []
  operator_token : List Text := []
  operator_csrf : List Text := []
  cookie : List Text := []

/-- `browser_origin_allowed` -/
def browser_origin_allowed (request : Request) : Bool :=
  request.origin.length == 1 && request.origin.all fun origin => decide (origin ∈ ALLOWED_BROWSER_ORIGINS)

/-- `_operator_cookie_values` -/
def operator_cookie_values (request : Request) : List Text :=
  request.cookie.flatMap fun raw_cookie =>
    (raw_cookie.splitOn ';').filterMap fun item =>
      let (name, separator, value) := partition '=' (strip item)
      if separator && decide (name = OPERATOR_COOKIE_NAME) then some value else none

/-- What `secrets.token_urlsafe` generates for a session. -/
structure Secrets where
  token : Text
  session_id : Text
  csrf_token : Text

/-- Whether a session is past one of its ages. -/
def LocalBrowserSession.expired (session : LocalBrowserSession) (moment : ℚ) : Bool :=
  decide (session.created_at + BROWSER_SESSION_MAX_AGE_SECONDS ≤ moment ∨ session.last_seen_at + BROWSER_SESSION_IDLE_SECONDS ≤ moment)

/-- The loop that makes room for one more session, with the evictions. -/
def make_room : Sessions → Sessions × List Event
  | [] => ([], [])
  | oldest :: rest =>
    if MAX_BROWSER_SESSIONS ≤ rest.length + 1 then
      ((make_room rest).1, .evicted oldest.1 (rest.map Prod.fst) :: (make_room rest).2)
    else (oldest :: rest, [])

/-- `sessions[digest] = session`, which keeps the place of a digest that is there. -/
def assign (sessions : Sessions) (digest : Text) (session : LocalBrowserSession) : Sessions :=
  if digest ∈ sessions.map Prod.fst then sessions.map fun entry => if entry.1 = digest then (digest, session) else entry
  else sessions ++ [(digest, session)]

/-- The touch of a session, which is then the last of the map. -/
def touch (sessions : Sessions) (digest : Text) (session : LocalBrowserSession) (moment : ℚ) : Sessions :=
  (sessions.filter fun entry => decide (entry.1 ≠ digest)) ++ [(digest, { session with last_seen_at := moment })]

namespace LocalOperatorRuntime
section
variable (sha256 : Text → Text) (runtime : LocalOperatorRuntime)

/-- `__purge_browser_sessions` -/
def purge_browser_sessions (moment : ℚ) : LocalOperatorRuntime :=
  { runtime with sessions := runtime.sessions.filter fun entry => !entry.2.expired moment }

/-- `__clear_browser_sessions` -/
def clear_browser_sessions : LocalOperatorRuntime := { runtime with sessions := [] }

/-- `__matching_session_digest`, with its session. -/
def matching_session (token_digest : Text) : Option LocalBrowserSession := runtime.sessions.lookup token_digest

/-- `__file_matches`; an unreadable token file is absent. -/
def file_matches (file : Option Text) : Bool :=
  match runtime.digest, file with
  | some digest, some token => decide (digest = sha256 token)
  | _, _ => false

/-- `verify` -/
def verify (candidate : Text) : Bool :=
  runtime.digest.any fun digest => is_browser_session_token candidate && decide (digest = sha256 candidate)

/-- `__require_available` -/
def require_available (file : Option Text) : Except Refusal Unit × LocalOperatorRuntime :=
  if runtime.file_matches sha256 file then (.ok (), runtime) else (.error .unavailable, runtime.clear_browser_sessions)

/-- `__issue_browser_session` -/
def issue_browser_session (secrets : Secrets) (moment : ℚ) : Except Refusal Secrets × LocalOperatorRuntime :=
  if [secrets.token, secrets.session_id, secrets.csrf_token].all is_browser_session_token = false then (.error .unavailable, runtime)
  else
    let purged := runtime.purge_browser_sessions moment
    let digest := sha256 secrets.token
    (.ok secrets, { purged with
      sessions := assign (make_room purged.sessions).1 digest
        { session_id := secrets.session_id, csrf_digest := sha256 secrets.csrf_token, created_at := moment, last_seen_at := moment }
      history := purged.history ++ (make_room purged.sessions).2 ++ [.issued digest moment] })

/-- `__browser_session_id` -/
def browser_session_id (token : Text) (moment : ℚ) : Option Text × LocalOperatorRuntime :=
  if !is_browser_session_token token then (none, runtime)
  else
    let purged := runtime.purge_browser_sessions moment
    match purged.matching_session (sha256 token) with
    | none => (none, purged)
    | some session => (some session.session_id, { purged with history := purged.history ++ [.authenticated (sha256 token) moment] })

/-- `__verify_browser_session`, with a proof and `touch=True` as it is called. -/
def verify_browser_session (token csrf_token : Text) (moment : ℚ) : Bool × LocalOperatorRuntime :=
  if !is_browser_session_token token || !is_browser_session_token csrf_token then (false, runtime)
  else
    let purged := runtime.purge_browser_sessions moment
    match purged.matching_session (sha256 token) with
    | none => (false, purged)
    | some session =>
      if session.csrf_digest ≠ sha256 csrf_token then (false, purged)
      else (true, { purged with
        sessions := touch purged.sessions (sha256 token) session moment
        history := purged.history ++ [.authenticated (sha256 token) moment, .used (sha256 token) moment] })

/-- The end of `authorize_mutation`. -/
def consume_mutation (moment : ℚ) : Except Refusal Unit × LocalOperatorRuntime :=
  ((runtime.mutations.consume moment).1, { runtime with mutations := (runtime.mutations.consume moment).2 })

def authorize_mutation (request : Request) (file : Option Text) (verified_at consumed_at : ℚ) :
    Except Refusal Unit × LocalOperatorRuntime :=
  match runtime.require_available sha256 file with
  | (.error error, runtime) => (.error error, runtime)
  | (.ok (), runtime) =>
    if request.origin = [] then
      match request.operator_token with
      | [header] =>
        if operator_cookie_values request ≠ [] ∨ request.operator_csrf ≠ [] ∨ runtime.verify sha256 header = false then (.error .denied, runtime)
        else runtime.consume_mutation consumed_at
      | _ => (.error .denied, runtime)
    else if browser_origin_allowed request = false ∨ request.operator_token ≠ [] then (.error .denied, runtime)
    else
      match operator_cookie_values request, request.operator_csrf with
      | [cookie], [csrf] =>
        match runtime.verify_browser_session sha256 cookie csrf verified_at with
        | (false, runtime) => (.error .denied, runtime)
        | (true, runtime) => runtime.consume_mutation consumed_at
      | _, _ => (.error .denied, runtime)

def authorize_unlock (request : Request) (candidate : Text) (file : Option Text) (secrets : Secrets) (consumed_at issued_at : ℚ) :
    Except Refusal Secrets × LocalOperatorRuntime :=
  match runtime.require_available sha256 file with
  | (.error error, runtime) => (.error error, runtime)
  | (.ok (), runtime) =>
    if browser_origin_allowed request = false then (.error .denied, runtime)
    else
      let consumed := { runtime with unlocks := (runtime.unlocks.consume consumed_at).2 }
      match (runtime.unlocks.consume consumed_at).1 with
      | .error error => (.error error, consumed)
      | .ok () => if consumed.verify sha256 candidate = false then (.error .denied, consumed) else consumed.issue_browser_session sha256 secrets issued_at

/-- `request_browser_session_id`, and `request_is_unlocked` where it is there. -/
def request_browser_session_id (request : Request) (file : Option Text) (moment : ℚ) : Option Text × LocalOperatorRuntime :=
  if runtime.file_matches sha256 file = false then (none, runtime.clear_browser_sessions)
  else
    match operator_cookie_values request with
    | [cookie] => runtime.browser_session_id sha256 cookie moment
    | _ => (none, runtime)

end
end LocalOperatorRuntime

/-- A call of the boundary, with what the clock says along it. -/
inductive Call
  | mutation (request : Request) (file : Option Text) (verified_at consumed_at : ℚ)
  | unlock (request : Request) (candidate : Text) (file : Option Text) (secrets : Secrets) (consumed_at issued_at : ℚ)
  | session_id (request : Request) (file : Option Text) (moment : ℚ)

def Call.moments : Call → List ℚ
  | .mutation _ _ verified_at consumed_at => [verified_at, consumed_at]
  | .unlock _ _ _ _ consumed_at issued_at => [consumed_at, issued_at]
  | .session_id _ _ moment => [moment]

/-- The token that is generated if the call issues a session. -/
def Call.token : Call → Option Text
  | .unlock _ _ _ secrets _ _ => some secrets.token
  | _ => none

def LocalOperatorRuntime.step (sha256 : Text → Text) (runtime : LocalOperatorRuntime) : Call → LocalOperatorRuntime
  | .mutation request file verified_at consumed_at => (runtime.authorize_mutation sha256 request file verified_at consumed_at).2
  | .unlock request candidate file secrets consumed_at issued_at =>
    (runtime.authorize_unlock sha256 request candidate file secrets consumed_at issued_at).2
  | .session_id request file moment => (runtime.request_browser_session_id sha256 request file moment).2

def LocalOperatorRuntime.run (sha256 : Text → Text) (runtime : LocalOperatorRuntime) (calls : List Call) : LocalOperatorRuntime :=
  calls.foldl (LocalOperatorRuntime.step sha256) runtime

/-! ### The throttle lets a limit through -/

section
variable (throttle : FixedWindowThrottle) (moment : ℚ)

theorem consume_events : (throttle.consume moment).2 =
    { throttle with events := (attempt throttle.limit throttle.window_seconds throttle.events moment).1 } := by
  unfold FixedWindowThrottle.consume attempt recent
  simp only
  split <;> rfl

theorem consume_isOk : (throttle.consume moment).1.isOk = (attempt throttle.limit throttle.window_seconds throttle.events moment).2 := by
  unfold FixedWindowThrottle.consume attempt recent
  simp only
  split <;> rfl

end

/-- Calls of the throttle are attempts of its sliding window. -/
theorem consume_all_eq (throttle : FixedWindowThrottle) (moments : List ℚ) :
    throttle.consume_all moments =
      ({ throttle with events := (attempts throttle.limit throttle.window_seconds throttle.events moments).1 },
        (attempts throttle.limit throttle.window_seconds throttle.events moments).2) := by
  induction moments generalizing throttle with
  | nil => rfl
  | cons moment moments ih =>
    rw [FixedWindowThrottle.consume_all, ih, consume_isOk, consume_events, attempts]

theorem windowed_of_sorted (limit : Nat) (length : ℚ) {moments : List ℚ} (clock : moments.Pairwise (· ≤ ·)) {later : ℚ}
    (past : ∀ one ∈ moments, one ≤ later) :
    ∃ last, last ≤ later ∧ Windowed limit length (attempts limit length [] moments).2 (attempts limit length [] moments).1 last := by
  cases moments with
  | nil => exact ⟨later, le_rfl, windowed_start limit length later⟩
  | cons first rest =>
    have starts : (first :: first :: rest).Pairwise (· ≤ ·) := by
      refine List.pairwise_cons.mpr ⟨fun one member => ?_, clock⟩
      rcases List.mem_cons.mp member with rfl | after
      · exact le_rfl
      · exact (List.pairwise_cons.mp clock).1 one after
    obtain ⟨last, latest, windowed⟩ := windowed_attempts (windowed_start limit length first) starts
    refine ⟨last, latest later fun one member => ?_, windowed⟩
    rcases List.mem_cons.mp member with rfl | later
    · exact past one List.mem_cons_self
    · exact past one later

/-! ### What is recorded of a session -/

/-- A use that an event records of a digest; a session is used when it is issued. -/
def Event.use_of (digest : Text) : Event → Option ℚ
  | .issued of moment => if of = digest then some moment else none
  | .used of moment => if of = digest then some moment else none
  | _ => none

def Event.issue_of (digest : Text) : Event → Option ℚ
  | .issued of moment => if of = digest then some moment else none
  | _ => none

/-- The moment of the last use of a session. -/
def last_use (history : List Event) (digest : Text) : Option ℚ := latest (Event.use_of digest) history

/-- The moment a session was issued. -/
def issued_at (history : List Event) (digest : Text) : Option ℚ := latest (Event.issue_of digest) history

/-- No session that is kept was last used before the one that is evicted. -/
def Oldest (before : List Event) (digest : Text) (kept : List Text) : Prop :=
  ∃ seen, last_use before digest = some seen ∧ ∀ other ∈ kept, ∃ seen', last_use before other = some seen' ∧ seen ≤ seen'

/-- A session within both its ages. -/
def Live (before : List Event) (digest : Text) (moment : ℚ) : Prop :=
  ∃ created seen, issued_at before digest = some created ∧ last_use before digest = some seen ∧
    moment < created + BROWSER_SESSION_MAX_AGE_SECONDS ∧ moment < seen + BROWSER_SESSION_IDLE_SECONDS

/-- Evictions remove an oldest session, and only live sessions authenticate. -/
def Sound (before : List Event) : Event → Prop
  | .evicted digest kept => Oldest before digest kept
  | .authenticated digest moment => Live before digest moment
  | _ => True

/-- The sessions are few, in the order of their last uses, and as the history
    has them; those ever held are among the digests that were issued. -/
structure Kept (issued : List Text) (sessions : Sessions) (history : List Event) (now : ℚ) : Prop where
  capped : sessions.length ≤ MAX_BROWSER_SESSIONS
  keys : (sessions.map Prod.fst).Nodup
  known : ∀ entry ∈ sessions, entry.1 ∈ issued
  ordered : sessions.Pairwise fun earlier later => earlier.2.last_seen_at ≤ later.2.last_seen_at
  past : ∀ entry ∈ sessions, entry.2.last_seen_at ≤ now
  created : ∀ entry ∈ sessions, issued_at history entry.1 = some entry.2.created_at
  seen : ∀ entry ∈ sessions, last_use history entry.1 = some entry.2.last_seen_at
  sound : Justified Sound history

section
variable {issued : List Text} {sessions : Sessions} {history : List Event} {now moment : ℚ} {digest : Text} {session : LocalBrowserSession}

theorem Kept.sublist (kept : Kept issued sessions history now) {fewer : Sessions} (inside : fewer.Sublist sessions) :
    Kept issued fewer history now where
  capped := inside.length_le.trans kept.capped
  keys := kept.keys.sublist (inside.map _)
  known entry member := kept.known entry (inside.subset member)
  ordered := kept.ordered.sublist inside
  past entry member := kept.past entry (inside.subset member)
  created entry member := kept.created entry (inside.subset member)
  seen entry member := kept.seen entry (inside.subset member)
  sound := kept.sound

theorem Kept.later (kept : Kept issued sessions history now) (order : now ≤ moment) : Kept issued sessions history moment :=
  { kept with past := fun entry member => (kept.past entry member).trans order }

/-- An event that says nothing of the uses of a session. -/
theorem Kept.event (kept : Kept issued sessions history now) (event : Event) (sound : Sound history event)
    (no_use : ∀ digest, event.use_of digest = none) (no_issue : ∀ digest, event.issue_of digest = none) :
    Kept issued sessions (history ++ [event]) now where
  capped := kept.capped
  keys := kept.keys
  known := kept.known
  ordered := kept.ordered
  past := kept.past
  created entry member := by
    rw [issued_at, latest_concat, no_issue]
    exact kept.created entry member
  seen entry member := by
    rw [last_use, latest_concat, no_use]
    exact kept.seen entry member
  sound := justified_concat.mpr ⟨kept.sound, sound⟩

/-- The first of the sessions was used last before the others. -/
theorem oldest_first {oldest : Text × LocalBrowserSession} {rest : Sessions} (kept : Kept issued (oldest :: rest) history now) :
    Oldest history oldest.1 (rest.map Prod.fst) := by
  refine ⟨oldest.2.last_seen_at, kept.seen oldest List.mem_cons_self, fun other member => ?_⟩
  obtain ⟨entry, inside, rfl⟩ := List.mem_map.mp member
  exact ⟨entry.2.last_seen_at, kept.seen entry (List.mem_cons_of_mem _ inside), (List.pairwise_cons.mp kept.ordered).1 entry inside⟩

theorem kept_make_room (kept : Kept issued sessions history now) :
    Kept issued (make_room sessions).1 (history ++ (make_room sessions).2) now ∧ (make_room sessions).1.length < MAX_BROWSER_SESSIONS := by
  induction sessions generalizing history with
  | nil => exact ⟨by simpa [make_room] using kept, by decide⟩
  | cons oldest rest ih =>
    rw [make_room]
    by_cases full : MAX_BROWSER_SESSIONS ≤ rest.length + 1
    · rw [if_pos full]
      have evicted := (kept.sublist (List.sublist_cons_self oldest rest)).event (.evicted oldest.1 (rest.map Prod.fst))
        (oldest_first kept) (fun _ => rfl) (fun _ => rfl)
      obtain ⟨left, few⟩ := ih evicted
      rw [List.append_assoc] at left
      exact ⟨left, few⟩
    · rw [if_neg full]
      exact ⟨by simpa using kept, not_le.mp full⟩

theorem assign_new {sessions : Sessions} (absent : digest ∉ sessions.map Prod.fst) :
    assign sessions digest session = sessions ++ [(digest, session)] := if_neg absent

/-- One more session, used last: those before it are kept, and it is recorded. -/
theorem Kept.added (kept : Kept issued sessions history now) (order : now ≤ moment) (few : sessions.length < MAX_BROWSER_SESSIONS)
    (absent : digest ∉ sessions.map Prod.fst) (known : digest ∈ issued) (last : session.last_seen_at = moment) (event : Event)
    (used : event.use_of digest = some moment) (unused : ∀ other, other ≠ digest → event.use_of other = none)
    (created : (event.issue_of digest).or (issued_at history digest) = some session.created_at)
    (unissued : ∀ other, other ≠ digest → event.issue_of other = none) (sound : Sound history event) :
    Kept issued (sessions ++ [(digest, session)]) (history ++ [event]) moment := by
  have other : ∀ entry ∈ sessions, entry.1 ≠ digest := fun entry member same => absent (List.mem_map.mpr ⟨entry, member, same⟩)
  have cases_of : ∀ {Q : Text × LocalBrowserSession → Prop}, (∀ entry ∈ sessions, Q entry) → Q (digest, session) →
      ∀ entry ∈ sessions ++ [(digest, session)], Q entry := by
    intro Q old new entry member
    rcases List.mem_append.mp member with inside | is
    · exact old entry inside
    · exact List.mem_singleton.mp is ▸ new
  refine ⟨?_, ?_, cases_of kept.known known, ?_, ?_, ?_, ?_, justified_concat.mpr ⟨kept.sound, sound⟩⟩
  · rw [List.length_append]
    exact few
  · rw [List.map_append]
    exact List.nodup_append_comm.mpr (List.nodup_cons.mpr ⟨absent, kept.keys⟩)
  · refine List.pairwise_append.mpr ⟨kept.ordered, List.pairwise_singleton _ _, fun entry member new is => ?_⟩
    rw [List.mem_singleton.mp is]
    exact ((kept.past entry member).trans order).trans last.ge
  · exact cases_of (fun entry member => (kept.past entry member).trans order) last.le
  · refine cases_of (fun entry member => ?_) ?_
    · rw [issued_at, latest_concat, unissued entry.1 (other entry member)]
      exact kept.created entry member
    · rw [issued_at, latest_concat]
      exact created
  · refine cases_of (fun entry member => ?_) ?_
    · rw [last_use, latest_concat, unused entry.1 (other entry member)]
      exact kept.seen entry member
    · rw [last_use, latest_concat, used]
      exact congrArg some last.symm

theorem mem_of_lookup {sessions : Sessions} (found : sessions.lookup digest = some session) : (digest, session) ∈ sessions := by
  obtain ⟨before, after, rfl, _⟩ := List.lookup_eq_some_iff.mp found
  exact List.mem_append_right _ List.mem_cons_self

theorem live_of_unexpired (kept : Kept issued sessions history now) (member : (digest, session) ∈ sessions)
    (young : session.expired moment = false) : Live history digest moment := by
  unfold LocalBrowserSession.expired at young
  rw [decide_eq_false_iff_not, not_or, not_le, not_le] at young
  exact ⟨session.created_at, session.last_seen_at, kept.created _ member, kept.seen _ member, young.1, young.2⟩

theorem Kept.wider {sessions : Sessions} {history : List Event} (kept : Kept issued sessions history now) (digest : Text) :
    Kept (digest :: issued) sessions history now :=
  { kept with known := fun entry member => List.mem_cons_of_mem _ (kept.known entry member) }

/-- The touch of a live session. -/
theorem kept_touch (kept : Kept issued sessions history now) (order : now ≤ moment) (member : (digest, session) ∈ sessions)
    (live : Live history digest moment) :
    Kept issued (touch sessions digest session moment) (history ++ [.authenticated digest moment, .used digest moment]) moment := by
  have authenticated := kept.event (.authenticated digest moment) live (fun _ => rfl) (fun _ => rfl)
  have left := authenticated.sublist (List.filter_sublist (p := fun entry => decide (entry.1 ≠ digest)))
  have fewer : (sessions.filter fun entry => decide (entry.1 ≠ digest)).length < sessions.length := by
    rw [List.length_filter_lt_length_iff_exists]
    exact ⟨_, member, by simp⟩
  have absent : digest ∉ (sessions.filter fun entry => decide (entry.1 ≠ digest)).map Prod.fst := by
    intro again
    obtain ⟨entry, inside, same⟩ := List.mem_map.mp again
    exact of_decide_eq_true (List.mem_filter.mp inside).2 same
  have known : digest ∈ issued := kept.known _ member
  have seen : ({ session with last_seen_at := moment } : LocalBrowserSession).last_seen_at = moment := rfl
  have added := left.added order (fewer.trans_le kept.capped) absent known seen (.used digest moment) (if_pos rfl) (fun other differ => if_neg differ.symm)
    (authenticated.created _ member) (fun _ _ => rfl) trivial
  rwa [List.append_assoc] at added

theorem kept_issue (kept : Kept issued sessions history now) (order : now ≤ moment) (absent : digest ∉ issued)
    (created : session.created_at = moment) (seen : session.last_seen_at = moment) :
    Kept (digest :: issued) (assign (make_room sessions).1 digest session)
      (history ++ (make_room sessions).2 ++ [.issued digest moment]) moment := by
  obtain ⟨left, few⟩ := kept_make_room kept
  have unknown : digest ∉ (make_room sessions).1.map Prod.fst := by
    intro again
    obtain ⟨entry, inside, same⟩ := List.mem_map.mp again
    exact absent (same ▸ left.known entry inside)
  rw [assign_new unknown]
  refine (left.wider digest).added order few unknown List.mem_cons_self seen (.issued digest moment) (if_pos rfl)
    (fun other differ => if_neg differ.symm) ?_ (fun other differ => if_neg differ.symm) trivial
  rw [Event.issue_of, if_pos rfl, created]
  rfl

end

/-! ### Calls -/

section
variable {sha256 : Text → Text} {runtime : LocalOperatorRuntime} {issued : List Text} {now moment : ℚ}

/-- The sessions of the process are as its history has them. -/
def LocalOperatorRuntime.Held (runtime : LocalOperatorRuntime) (issued : List Text) (now : ℚ) : Prop :=
  Kept issued runtime.sessions runtime.history now

theorem held_purge (held : runtime.Held issued now) (moment : ℚ) : (runtime.purge_browser_sessions moment).Held issued now :=
  held.sublist List.filter_sublist

/-- A session that is found after the purge is live. -/
theorem live_of_found (held : runtime.Held issued now) {digest : Text} {session : LocalBrowserSession}
    (found : (runtime.purge_browser_sessions moment).matching_session digest = some session) :
    (digest, session) ∈ (runtime.purge_browser_sessions moment).sessions ∧ Live runtime.history digest moment := by
  have member := mem_of_lookup found
  obtain ⟨inside, young⟩ := List.mem_filter.mp member
  exact ⟨member, live_of_unexpired held inside (by simpa using young)⟩

theorem held_require (held : runtime.Held issued now) (file : Option Text) : (runtime.require_available sha256 file).2.Held issued now := by
  unfold LocalOperatorRuntime.require_available
  split
  · exact held
  · exact held.sublist (List.nil_sublist _)

theorem held_session_id (held : runtime.Held issued now) (order : now ≤ moment) (token : Text) :
    (runtime.browser_session_id sha256 token moment).2.Held issued moment := by
  unfold LocalOperatorRuntime.browser_session_id
  split
  · exact held.later order
  · simp only
    split
    · exact (held_purge held moment).later order
    · rename_i found
      have live := (live_of_found held found).2
      exact ((held_purge held moment).later order).event (.authenticated (sha256 token) moment) live (fun _ => rfl) (fun _ => rfl)

theorem held_verify (held : runtime.Held issued now) (order : now ≤ moment) (token csrf_token : Text) :
    (runtime.verify_browser_session sha256 token csrf_token moment).2.Held issued moment := by
  unfold LocalOperatorRuntime.verify_browser_session
  split
  · exact held.later order
  · simp only
    split
    · exact (held_purge held moment).later order
    · rename_i found
      obtain ⟨member, live⟩ := live_of_found held found
      split
      · exact (held_purge held moment).later order
      · exact kept_touch (held_purge held moment) order member live

theorem held_issue (held : runtime.Held issued now) (order : now ≤ moment) (secrets : Secrets) (fresh : sha256 secrets.token ∉ issued) :
    (runtime.issue_browser_session sha256 secrets moment).2.Held (sha256 secrets.token :: issued) moment := by
  unfold LocalOperatorRuntime.issue_browser_session
  split
  · exact (held.later order).wider _
  · exact kept_issue (held_purge held moment) order fresh rfl rfl

theorem held_mutation (held : runtime.Held issued now) {verified_at consumed_at : ℚ} (first : now ≤ verified_at)
    (second : verified_at ≤ consumed_at) (request : Request) (file : Option Text) :
    (runtime.authorize_mutation sha256 request file verified_at consumed_at).2.Held issued consumed_at := by
  have required := @held_require sha256 _ _ _ held file
  have order := first.trans second
  unfold LocalOperatorRuntime.authorize_mutation
  split
  · rename_i refused
    rw [refused] at required
    exact required.later order
  · rename_i available
    rw [available] at required
    have idle := required.later order
    split
    · split
      · split
        · exact idle
        · exact idle
      · exact idle
    · split
      · exact idle
      · split
        · rename_i cookie csrf _ _
          have verified := @held_verify sha256 _ _ _ _ required first cookie csrf
          split
          · rename_i denied
            rw [denied] at verified
            exact verified.later second
          · rename_i granted
            rw [granted] at verified
            exact verified.later second
        · exact idle

theorem held_unlock (held : runtime.Held issued now) {consumed_at issued_moment : ℚ} (first : now ≤ consumed_at)
    (second : consumed_at ≤ issued_moment) (request : Request) (candidate : Text) (file : Option Text) (secrets : Secrets)
    (fresh : sha256 secrets.token ∉ issued) :
    (runtime.authorize_unlock sha256 request candidate file secrets consumed_at issued_moment).2.Held (sha256 secrets.token :: issued)
      issued_moment := by
  have required := @held_require sha256 _ _ _ held file
  have order := first.trans second
  unfold LocalOperatorRuntime.authorize_unlock
  split
  · rename_i refused
    rw [refused] at required
    exact (required.later order).wider _
  · rename_i left available
    rw [available] at required
    have idle := (required.later order).wider (sha256 secrets.token)
    split
    · exact idle
    · simp only
      split
      · exact idle
      · split
        · exact idle
        · exact @held_issue sha256 { left with unlocks := (left.unlocks.consume consumed_at).2 } _ _ _ required order secrets fresh

theorem held_request (held : runtime.Held issued now) (order : now ≤ moment) (request : Request) (file : Option Text) :
    (runtime.request_browser_session_id sha256 request file moment).2.Held issued moment := by
  unfold LocalOperatorRuntime.request_browser_session_id
  split
  · exact (held.later order).sublist (List.nil_sublist _)
  · split
    · exact held_session_id held order _
    · exact held.later order

/-- A call keeps the sessions as the history has them. -/
theorem held_step (held : runtime.Held issued now) (call : Call) (clock : (now :: call.moments).Pairwise (· ≤ ·))
    (fresh : ∀ token ∈ call.token, sha256 token ∉ issued) :
    ∃ last, last ∈ call.moments ∧ (∀ one ∈ now :: call.moments, one ≤ last) ∧
      (runtime.step sha256 call).Held ((call.token.map sha256).toList ++ issued) last := by
  cases call with
  | mutation request file verified_at consumed_at =>
    simp only [Call.moments, List.pairwise_cons, List.mem_cons, List.not_mem_nil, or_false, forall_eq_or_imp, forall_eq] at clock
    refine ⟨consumed_at, List.mem_cons_of_mem _ List.mem_cons_self, ?_, held_mutation held clock.1.1 clock.2.1 request file⟩
    simpa [Call.moments] using ⟨clock.1.2, clock.2.1⟩
  | unlock request candidate file secrets consumed_at issued_moment =>
    simp only [Call.moments, List.pairwise_cons, List.mem_cons, List.not_mem_nil, or_false, forall_eq_or_imp, forall_eq] at clock
    refine ⟨issued_moment, List.mem_cons_of_mem _ List.mem_cons_self, ?_,
      held_unlock held clock.1.1 clock.2.1 request candidate file secrets (fresh secrets.token rfl)⟩
    simpa [Call.moments] using ⟨clock.1.2, clock.2.1⟩
  | session_id request file moment =>
    simp only [Call.moments, List.pairwise_cons, List.mem_cons, List.not_mem_nil, or_false, forall_eq] at clock
    refine ⟨moment, List.mem_cons_self, ?_, held_request held clock.1 request file⟩
    simpa [Call.moments] using clock.1

/-- So does every sequence of calls. -/
theorem held_run {calls : List Call} (held : runtime.Held issued now) (clock : (now :: calls.flatMap Call.moments).Pairwise (· ≤ ·))
    (fresh : (calls.filterMap Call.token).Pairwise fun one other => sha256 one ≠ sha256 other)
    (unissued : ∀ token ∈ calls.filterMap Call.token, sha256 token ∉ issued) :
    ∃ issued last, (runtime.run sha256 calls).Held issued last := by
  induction calls generalizing runtime issued now with
  | nil => exact ⟨issued, now, held⟩
  | cons call calls ih =>
    rw [List.flatMap_cons, ← List.cons_append] at clock
    obtain ⟨here, rest, across⟩ := List.pairwise_append.mp clock
    have first : ∀ token ∈ call.token, sha256 token ∉ issued := by
      intro token is
      exact unissued token (List.mem_filterMap.mpr ⟨call, List.mem_cons_self, is⟩)
    obtain ⟨last, within, latest, next⟩ := held_step held call here first
    refine ih next ?_ ?_ ?_
    · exact List.pairwise_cons.mpr ⟨fun one member => across last (List.mem_cons_of_mem _ within) one member, rest⟩
    · rw [List.filterMap_cons] at fresh
      split at fresh
      · exact fresh
      · exact (List.pairwise_cons.mp fresh).2
    · intro token member again
      rcases List.mem_append.mp again with new | old
      · obtain ⟨earlier, is, same⟩ := Option.map_eq_some_iff.mp (Option.mem_toList.mp new)
        rw [List.filterMap_cons, is] at fresh
        exact (List.pairwise_cons.mp fresh).1 token member same
      · have later : token ∈ (call :: calls).filterMap Call.token := by
          obtain ⟨one, inside, is⟩ := List.mem_filterMap.mp member
          exact List.mem_filterMap.mpr ⟨one, List.mem_cons_of_mem _ inside, is⟩
        exact unissued token later old

end

theorem held_start (digest : Option Text) (now : ℚ) : ({ digest := digest } : LocalOperatorRuntime).Held [] now where
  capped := Nat.zero_le _
  keys := List.nodup_nil
  known _ member := absurd member List.not_mem_nil
  ordered := List.Pairwise.nil
  past _ member := absurd member List.not_mem_nil
  created _ member := absurd member List.not_mem_nil
  seen _ member := absurd member List.not_mem_nil
  sound := justified_nil

/-- In the order of the clock, the throttle lets through at most its limit in
    any window of its length, without its one end or the other, and refuses only
    where the window that ends there has seen exactly the limit. -/
theorem throttle_windows (limit : Nat) (window_seconds : ℚ) {moments : List ℚ} (clock : moments.Pairwise (· ≤ ·)) :
    (∀ start, ((FixedWindowThrottle.consume_all ⟨limit, window_seconds, []⟩ moments).2.filter fun one =>
        decide (start < one ∧ one ≤ start + window_seconds)).length ≤ limit) ∧
      (∀ start, ((FixedWindowThrottle.consume_all ⟨limit, window_seconds, []⟩ moments).2.filter fun one =>
        decide (start ≤ one ∧ one < start + window_seconds)).length ≤ limit) ∧
      ∀ before moment after, moments = before ++ moment :: after →
        ((FixedWindowThrottle.consume_all ⟨limit, window_seconds, []⟩ before).1.consume moment).1 = .error .throttled →
          ((FixedWindowThrottle.consume_all ⟨limit, window_seconds, []⟩ before).2.filter fun one =>
            decide (moment - window_seconds < one ∧ one ≤ moment)).length = limit := by
  obtain ⟨later, bound⟩ := moments.toFinset.exists_le
  obtain ⟨last, _, windowed⟩ := windowed_of_sorted limit window_seconds clock fun one member => bound one (List.mem_toFinset.mpr member)
  refine ⟨?_, ?_, ?_⟩
  · rw [consume_all_eq]
    exact windowed.after_start
  · rw [consume_all_eq]
    exact windowed.before_end
  · rintro before moment after rfl refused
    obtain ⟨earlier, _, across⟩ := List.pairwise_append.mp clock
    obtain ⟨last, past, windowed⟩ := windowed_of_sorted limit window_seconds earlier fun one member =>
      across one member moment List.mem_cons_self
    rw [consume_all_eq] at refused ⊢
    have passed := consume_isOk ⟨limit, window_seconds, (attempts limit window_seconds [] before).1⟩ moment
    rw [refused] at passed
    exact refused_full windowed past passed.symm

/-- The operator unlocks the interface, and changes something 5 s later. -/
def exampleCalls : List Call :=
  let operator := List.replicate 43 'o'
  let secrets : Secrets := ⟨List.replicate 43 'a', List.replicate 43 'b', List.replicate 43 'c'⟩
  let origin := ["http://localhost:8080".toList]
  [.unlock { origin := origin } operator (some operator) secrets 0 0,
    .mutation { origin := origin, operator_csrf := [secrets.csrf_token], cookie := ["reddock_operator=".toList ++ secrets.token] }
      (some operator) 5 5]

end RedDock.LocalOperator
