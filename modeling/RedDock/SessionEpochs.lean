import RedDock.SessionPages

/-!
# Epochs of the session client

`forget` and an accepted notice start a new epoch. An operation of an earlier
epoch still comes back from the network, but what the page holds is not its
to change. A write leaves with the proof that is held when it leaves, behind
every operation queued before it.
-/
set_option autoImplicit false
namespace RedDock.SessionEpochs
open Text Detection SessionClient SessionTurns SessionPages

/-! ### What a step sends -/

def is_write : Event → Bool
  | .sent _ init => !init.method.safe
  | _ => false

/-- No write is sent on the way from one page to another. -/
def Unwritten (page after : Page) : Prop := ∃ new, after.log = page.log ++ new ∧ ∀ event ∈ new, is_write event = false

section
variable {world : World} {page middle after : Page} {id : Nat}

theorem Unwritten.refl : Unwritten page page := ⟨[], (List.append_nil _).symm, fun _ mem => absurd mem List.not_mem_nil⟩

theorem Unwritten.trans (first : Unwritten page middle) (second : Unwritten middle after) : Unwritten page after := by
  obtain ⟨new, log, unwritten⟩ := first
  obtain ⟨newer, log', unwritten'⟩ := second
  refine ⟨new ++ newer, by rw [log', log, List.append_assoc], fun event mem => ?_⟩
  rcases List.mem_append.mp mem with mem | mem
  · exact unwritten event mem
  · exact unwritten' event mem

theorem unwritten_event (event : Event) (log : after.log = page.log ++ [event]) (other : is_write event = false) : Unwritten page after :=
  ⟨[event], log, fun _ mem => List.mem_singleton.mp mem ▸ other⟩

theorem unwritten_turn {turn : Turn} (safe : ∀ init kept, turn.next = .fetch init kept → init.method.safe = true) :
    Unwritten page (page.advance id turn) := by
  refine ⟨_, advance_log turn, fun event mem => ?_⟩
  rcases List.mem_append.mp mem with published | sent
  · obtain ⟨kind, _, rfl⟩ := List.mem_map.mp published
    rfl
  · cases next : turn.next with
    | fetch init kept =>
      rw [next] at sent
      rw [List.mem_singleton.mp sent]
      exact congrArg not (safe init kept next)
    | read kept =>
      rw [next] at sent
      cases sent
    | done outcome =>
      rw [next] at sent
      cases sent

theorem unwritten_resumed {epoch : Nat} {client : Client} {turn : Turn} (resumes : Resumes epoch client turn) :
    Unwritten page (page.advance id turn) :=
  unwritten_turn fun init kept sent => absurd sent (resumes.quiet init kept)

/-- A request that is taken on sends at once only where its method is safe. -/
theorem unwritten_request {now : Int} {path : Text} {operation : Operation} (accepted : request world now path operation page = .ok (after, id)) :
    Unwritten page after := by
  unfold request at accepted
  split at accepted
  · cases accepted
  · split at accepted
    · cases accepted
    · simp only at accepted
      split at accepted
      next safe =>
        cases accepted
        have called : Unwritten page (page.call (.request path operation)) := unwritten_event (.called page.calls.length) rfl rfl
        refine called.trans (unwritten_turn fun init kept sent => ?_)
        by_contra write
        have queued := ((start_starts now (.request path operation)).sends init kept sent).2 (Bool.not_eq_true _ ▸ write) |>.1
        rw [Kind.queued, safe] at queued
        cases queued
      · cases accepted
        exact unwritten_event (.called page.calls.length) rfl rfl

/-- Only the first turn of a queued call sends a write. -/
theorem unwritten_step {action : Action} (stepped : step world page action = some after) (other : ∀ now id, action ≠ .start now id) :
    Unwritten page after := by
  cases action with
  | start now id => exact absurd rfl (other now id)
  | forget => exact Option.some.inj stepped ▸ unwritten_event .reset rfl rfl
  | release => exact Option.some.inj stepped ▸ .refl
  | confirm_issued_proof csrf expires_at =>
    obtain rfl := Option.some.inj stepped
    unfold confirm_issued_proof
    split
    · exact .refl
    · exact unwritten_event .reset rfl rfl
  | recover =>
    obtain rfl := Option.some.inj stepped
    unfold recover
    split
    · exact .refl
    · exact unwritten_event (.called page.calls.length) rfl rfl
  | renew =>
    obtain rfl := Option.some.inj stepped
    unfold renew
    split
    · exact .refl
    · exact unwritten_event (.called page.calls.length) rfl rfl
  | logout =>
    obtain rfl := Option.some.inj stepped
    unfold logout
    split
    · exact .refl
    · exact unwritten_event (.called page.calls.length) rfl rfl
  | request now path operation =>
    simp only [step] at stepped
    split at stepped
    next accepted => exact Option.some.inj stepped ▸ unwritten_request accepted
    · exact Option.some.inj stepped ▸ .refl
  | notice value =>
    simp only [step] at stepped
    split at stepped
    · split at stepped
      · exact Option.some.inj stepped ▸ unwritten_event .reset rfl rfl
      · exact Option.some.inj stepped ▸ .refl
    · cases stepped
  | reply id response =>
    obtain ⟨call, kept, found, fetching, rfl⟩ := resume_reply_some stepped
    exact unwritten_resumed (reply_resumes kept response)
  | body now id json =>
    obtain ⟨call, kept, turn, found, reading, ran, rfl⟩ := resume_body_some stepped
    exact unwritten_resumed (body_resumes ran)
  | settle id =>
    obtain ⟨call, outcome, found, finished, rfl⟩ := settle_some stepped
    exact unwritten_event (.settled id) rfl rfl
  | tidy id =>
    obtain ⟨client, rfl, _, _⟩ := tidy_some stepped
    exact .refl

/-- A continuation of an operation of an earlier epoch. -/
theorem stale_step {action : Action} (consistent : Consistent page) (operation : action.operation = some id)
    (stepped : step world page action = some after) (old : Outdated id page.log) : Same page.client after.client := by
  have untouched : ∀ {call : Call} {turn : Turn}, page.calls[id]? = some call → Moves call.epoch page.client turn.client →
      Same page.client (page.advance id turn).client := by
    intro call turn found moves
    rw [advance_client, moves.stale ((consistent.timed.outdated_iff found).mp old)]
    exact .refl _
  cases action with
  | start now other =>
    obtain rfl := Option.some.inj operation
    obtain ⟨call, found, _, _, _, rfl⟩ := resume_start_some stepped
    exact untouched found (start_starts now call.kind).moves
  | reply other response =>
    obtain rfl := Option.some.inj operation
    obtain ⟨call, kept, found, _, rfl⟩ := resume_reply_some stepped
    exact untouched found (reply_resumes kept response).moves
  | body now other json =>
    obtain rfl := Option.some.inj operation
    obtain ⟨call, kept, turn, found, _, ran, rfl⟩ := resume_body_some stepped
    exact untouched found (body_resumes ran).moves
  | settle other =>
    obtain ⟨call, outcome, _, _, rfl⟩ := settle_some stepped
    exact .refl _
  | tidy other =>
    obtain ⟨client, rfl, same, _⟩ := tidy_some stepped
    exact same
  | _ => cases operation

/-- In a queue in order, everything before a call is in front of it. -/
theorem mem_takeWhile_of_lt {queue : List Nat} {earlier : Nat} (sorted : queue.Pairwise (· < ·)) (mem : earlier ∈ queue) (lt : earlier < id) :
    earlier ∈ queue.takeWhile (· != id) := by
  induction queue with
  | nil => cases mem
  | cons first rest ih =>
    obtain ⟨least, sorted⟩ := List.pairwise_cons.mp sorted
    have other : first < id := by
      rcases List.mem_cons.mp mem with rfl | mem
      · exact lt
      · exact (least earlier mem).trans lt
    rw [List.takeWhile_cons_of_pos (by simpa using Nat.ne_of_lt other)]
    rcases List.mem_cons.mp mem with rfl | mem
    · exact List.mem_cons_self
    · exact List.mem_cons_of_mem _ (ih sorted mem)

/-- A write that leaves has the proof that is held, and finds every call queued before it settled. -/
theorem write_step {action : Action} {new : List Event} {init : RequestInit} (consistent : Consistent page)
    (stepped : step world page action = some after) (log : after.log = page.log ++ new) (sent : Event.sent id init ∈ new)
    (write : init.method.safe = false) :
    init.proof = page.client.csrf ∧ page.client.csrf ≠ none ∧ after.client = page.client ∧
      ∀ earlier call, earlier < id → page.calls[earlier]? = some call → call.kind.queued = true → call.stage.is_settled = true := by
  have start_only : ∃ now other, action = .start now other := by
    by_contra other
    simp only [not_exists] at other
    obtain ⟨events, same, unwritten⟩ := unwritten_step stepped other
    obtain rfl := List.append_cancel_left (log.symm.trans same)
    have unsent := unwritten _ sent
    rw [is_write, write] at unsent
    cases unsent
  obtain ⟨now, other, rfl⟩ := start_only
  obtain ⟨call, found, waiting, queued, ready, rfl⟩ := resume_start_some stepped
  obtain rfl := List.append_cancel_left (log.symm.trans (advance_log _))
  rcases List.mem_append.mp sent with published | sent
  · obtain ⟨kind, _, different⟩ := List.mem_map.mp published
    cases different
  · cases next : (start world now call.kind call.epoch page.client).next with
    | fetch started kept =>
      rw [next] at sent
      obtain ⟨rfl, rfl⟩ := Event.sent.inj (List.mem_singleton.mp sent)
      obtain ⟨same, proved⟩ := (start_starts now call.kind).sends init kept next
      obtain ⟨_, proof, held⟩ := proved write
      refine ⟨proof, held, (advance_client _).trans same, fun earlier before lt found queued => ?_⟩
      have ahead := mem_takeWhile_of_lt consistent.ordered.sorted (consistent.ordered.complete earlier before found queued) lt
      have settled := List.all_eq_true.mp ready earlier ahead
      rwa [Page.settled, found, Option.any_some] at settled
    | read kept =>
      rw [next] at sent
      cases sent
    | done outcome =>
      rw [next] at sent
      cases sent

/-- A request is taken on where no logout of this epoch is under way. -/
theorem accepted_request {now : Int} {path : Text} {operation : Operation} {earlier : Nat} {call : Call} (consistent : Consistent page)
    (accepted : request world now path operation page = .ok (after, id)) (found : page.calls[earlier]? = some call)
    (is_logout : call.kind = .logout) : call.stage.is_settled = true ∨ Outdated earlier page.log := by
  by_cases settled : call.stage.is_settled = true
  · exact .inl settled
  · right
    refine (consistent.timed.outdated_iff found).mpr fun current => ?_
    have held := consistent.pending earlier call found is_logout (Bool.not_eq_true _ ▸ settled) current
    rw [(request_moves accepted).1] at held
    cases held

/-- What was sent was sent for a call that was taken on. -/
theorem called_of_sent {init : RequestInit} (consistent : Consistent page) (sent : Event.sent id init ∈ page.log) :
    Event.called id ∈ page.log := by
  have counted : 0 < page.log.countP (sends id) := List.countP_pos_iff.mpr ⟨_, sent, beq_self_eq_true id⟩
  have room := consistent.once id
  refine consistent.timed.logged id (Nat.lt_of_not_le fun outside => ?_)
  rw [requests, List.getElem?_eq_none outside] at room
  exact absurd (Nat.lt_of_lt_of_le counted room) (Nat.lt_irrefl 0)

theorem at_most_one (once : Once page) (id : Nat) : page.log.countP (sends id) ≤ 1 := by
  refine (once id).trans ?_
  unfold requests
  cases page.calls[id]? with
  | none => exact Nat.zero_le 1
  | some call =>
    show Stage.requests call.stage ≤ 1
    cases call.stage with
    | waiting => exact Nat.zero_le 1
    | _ => exact Nat.le_refl 1

end

/-! ### The client over a run -/

/-- In every run of the calls, the notices and the continuations of a page: a call sends at most one
    request; a session is held with a proof; what began before a reset changes
    neither session, proof nor status after it; a write leaves with the proof held at that moment, behind
    all that was queued before it; a request is refused while a logout is under way
    that no reset has followed. -/
theorem session_epochs (world : World) (channel : Bool) (actions : List Action) (page : Page)
    (ran : run world actions (new_page channel) = some page) :
    (∀ id, page.log.countP (sends id) ≤ 1 ∧ ∀ init, Event.sent id init ∈ page.log → Event.called id ∈ page.log) ∧
    (page.client.session ≠ none → page.client.csrf ≠ none) ∧
    (∀ action id after, action.operation = some id → step world page action = some after → Outdated id page.log →
      Same page.client after.client) ∧
    (∀ action after new id init, step world page action = some after → after.log = page.log ++ new → Event.sent id init ∈ new →
      init.method.safe = false → init.proof = page.client.csrf ∧ page.client.csrf ≠ none ∧ after.client = page.client ∧
        ∀ earlier call, earlier < id → page.calls[earlier]? = some call → call.kind.queued = true → call.stage.is_settled = true) ∧
    ∀ now path operation after id, request world now path operation page = .ok (after, id) →
      ∀ earlier call, page.calls[earlier]? = some call → call.kind = .logout → call.stage.is_settled = true ∨ Outdated earlier page.log := by
  have consistent := consistent_run (consistent_new channel) ran
  refine ⟨fun id => ⟨at_most_one consistent.once id, fun init sent => called_of_sent consistent sent⟩, consistent.backed, ?_, ?_, ?_⟩
  · intro action id after operation stepped old
    exact stale_step consistent operation stepped old
  · intro action after new id init stepped log sent write
    exact write_step consistent stepped log sent write
  · intro now path operation after id accepted earlier call found is_logout
    exact accepted_request consistent accepted found is_logout

def plain_world : World where
  date_parse := fun t => if t = "2030-01-01T00:00:00Z".toList then some 1893456000000 else none
  origin := "https://reddock.test".toList
  url := fun path => if path = "/api/dockyards".toList then some ⟨"https://reddock.test".toList, path, []⟩ else none

def recovered_body : Json := .object [("role".toList, .str "operator".toList), ("permissions".toList, .list [.str "dockyard:read".toList]),
  ("expires_at".toList, .str "2030-01-01T00:00:00Z".toList), ("csrf_token".toList, .str (List.replicate 43 'C'))]

/-- A recovery, from its call to its last reaction. -/
def recovery (id : Nat) : List Action :=
  [.recover, .start 0 id, .reply id (some { status := 200 }), .body 0 id (some recovered_body), .settle id, .tidy id]

/-- A read and a renewal are under way when another page tells of a rotation; a write waits behind a new recovery. -/
def crossed : List Action := recovery 0 ++
  [.request 0 "/api/dockyards".toList {}, .renew, .start 0 2, .notice (.object [("v".toList, .int 1), ("kind".toList, .str "proof_stale".toList)]),
    .recover, .request 0 "/api/dockyards".toList { method := some .POST }, .reply 2 (some { status := 401 }), .settle 2,
    .start 0 3, .reply 3 (some { status := 200 }), .body 0 3 (some recovered_body), .settle 3, .start 0 4]

theorem session_epochs_example : ∃ page, run plain_world crossed (new_page true) = some page ∧
    (∀ id, page.log.countP (sends id) ≤ 1 ∧ ∀ init, Event.sent id init ∈ page.log → Event.called id ∈ page.log) ∧
    page.client.csrf = some (List.replicate 43 'C') ∧ page.log.countP (sends 4) = 1 := by
  have checked : ((run plain_world crossed (new_page true)).map fun page =>
      decide (page.client.csrf = some (List.replicate 43 'C')) && decide (page.log.countP (sends 4) = 1)) = some true := by decide +kernel
  obtain ⟨page, ran, held⟩ := Option.map_eq_some_iff.mp checked
  rw [Bool.and_eq_true, decide_eq_true_eq, decide_eq_true_eq] at held
  exact ⟨page, ran, (session_epochs plain_world true crossed page ran).1, held⟩

/-- A logout whose request is under way when the page forgets its state. -/
def forgotten : List Action := recovery 0 ++ [.logout, .start 0 1, .forget]

/-- A write is taken on although a logout that was forgotten has not settled. -/
theorem forgotten_logout_unsettled : ¬ ∀ (world : World) (channel : Bool) (actions : List Action) (page : Page),
    run world actions (new_page channel) = some page →
    ∀ (now : Int) (path : Text) (operation : Operation) (after : Page) (id : Nat), request world now path operation page = .ok (after, id) →
      (operation.method.getD .GET).safe = false →
      ∀ (earlier : Nat) (call : Call), page.calls[earlier]? = some call → call.kind = .logout → call.stage.is_settled = true := by
  intro refused
  have happens : (run plain_world forgotten (new_page true)).isSome = true := by decide +kernel
  have ran := (Option.some_get happens).symm
  have logout : ((run plain_world forgotten (new_page true)).get happens).calls[1]? =
      some { kind := .logout, epoch := 0, stage := .fetching .logout } := rfl
  exact absurd (refused plain_world true forgotten _ ran 0 "/api/dockyards".toList { method := some .POST } _ 2 rfl rfl 1 _ logout rfl)
    Bool.false_ne_true

end RedDock.SessionEpochs
