import RedDock.Histories
import RedDock.SessionTurns

/-!
# Pages of the session client

Every step of a page is one of a few moves. From them: a call keeps the epoch it
began in, the queue keeps the order of the calls, a call sends once, and a
logout of the epoch that has not settled is the one the client remembers.
-/
set_option autoImplicit false
namespace RedDock.SessionPages
open Text Detection SessionClient SessionTurns Histories

/-! ### What the log tells -/

/-- A call was taken on before the state was dropped again. -/
def Outdated (id : Nat) (log : List Event) : Prop := ∃ before after, log = before ++ .called id :: after ∧ .reset ∈ after

def is_reset : Event → Bool
  | .reset => true
  | _ => false

/-- How often the state was dropped. -/
def resets (log : List Event) : Nat := log.countP is_reset

/-- A request leaves for a call. -/
def sends (id : Nat) : Event → Bool
  | .sent other _ => other == id
  | _ => false

/-- Neither a call taken on nor a state dropped. -/
def quiet : Event → Bool
  | .called _ | .reset => false
  | _ => true

section
variable {log new : List Event} {id : Nat}

theorem reset_mem (dropped : 0 < resets log) : Event.reset ∈ log := by
  obtain ⟨event, mem, was_reset⟩ := List.countP_pos_iff.mp dropped
  cases event with
  | reset => exact mem
  | called other => cases was_reset
  | sent other init => cases was_reset
  | published kind => cases was_reset
  | settled other => cases was_reset

theorem resets_append : resets (log ++ new) = resets log + resets new := List.countP_append

theorem resets_quiet (silent : ∀ event ∈ new, quiet event = true) : resets (log ++ new) = resets log := by
  have none_new : resets new = 0 := by
    refine List.countP_eq_zero.mpr fun event mem was_reset => ?_
    have still := silent event mem
    cases event with
    | reset => cases still
    | called other => cases was_reset
    | sent other init => cases was_reset
    | published kind => cases was_reset
    | settled other => cases was_reset
  rw [resets_append, none_new, Nat.add_zero]

end

/-! ### One step -/

/-- The kind and the epoch of a call, which stay as they are. -/
def nature (call : Call) : Kind × Nat := (call.kind, call.epoch)

/-- What the resumption of a call leaves alone on the page. -/
structure Frame (page after : Page) : Prop where
  natures : after.calls.map nature = page.calls.map nature
  queue : after.queue = page.queue
  epoch : after.client.epoch = page.client.epoch
  log : ∃ new, after.log = page.log ++ new ∧ ∀ event ∈ new, quiet event = true

/-- What a step does to a page. A safe request takes two of them: its first turn runs at once. -/
inductive Move (page : Page) : Page → Prop
  | reset (status : SessionStatus) : Move page (page.reset (page.client.reset status))
  | remembered (client : Client) (same : Same page.client client)
      (pending : client.logging_out = page.client.logging_out ∨ ∃ id, page.client.logging_out = some id ∧ page.settled id = true) :
      Move page { page with client := client }
  | enqueued (kind : Kind) (client : Client) (same : Same page.client client) (queued : kind.queued = true)
      (pending : client.logging_out = page.client.logging_out ∧ kind ≠ .logout ∨
        page.client.logging_out = none ∧ client.logging_out = some page.calls.length) :
      Move page { page.enqueue kind with client := client }
  | called (path : Text) (operation : Operation) (safe : (Kind.request path operation).queued = false) :
      Move page (page.call (.request path operation))
  | started (id : Nat) (call : Call) (turn : Turn) (found : page.calls[id]? = some call) (waiting : call.stage = .waiting)
      (starts : Starts call.kind call.epoch page.client turn) : Move page (page.advance id turn)
  | resumed (id : Nat) (call : Call) (turn : Turn) (found : page.calls[id]? = some call) (started : call.stage ≠ .waiting)
      (unsettled : call.stage.is_settled = false) (resumes : Resumes call.epoch page.client turn) : Move page (page.advance id turn)
  | settled (id : Nat) (call : Call) (outcome : Outcome) (found : page.calls[id]? = some call) (finished : call.stage = .finished outcome) :
      Move page { page.set_stage id (.settled outcome) with log := page.log ++ [.settled id] }

section
variable {world : World} {page after : Page} {id : Nat}

theorem resume_start_some {now : Int} (resumed : resume_start world now id page = some after) :
    ∃ call, page.calls[id]? = some call ∧ call.stage = .waiting ∧ id ∈ page.queue ∧
      (page.queue.takeWhile (· != id)).all page.settled = true ∧ after = page.advance id (start world now call.kind call.epoch page.client) := by
  obtain ⟨call, found, resumed⟩ := Option.bind_eq_some_iff.mp resumed
  split at resumed
  next waiting =>
    split at resumed
    next ready =>
      rw [Bool.and_eq_true] at ready
      exact ⟨call, found, waiting, List.contains_iff_mem.mp ready.1, ready.2, (Option.some.inj resumed).symm⟩
    · cases resumed
  · cases resumed

theorem resume_reply_some {response : Option Response} (resumed : resume_reply id response page = some after) :
    ∃ call kept, page.calls[id]? = some call ∧ call.stage = .fetching kept ∧
      after = page.advance id (reply kept call.epoch response page.client) := by
  obtain ⟨call, found, resumed⟩ := Option.bind_eq_some_iff.mp resumed
  split at resumed
  next kept fetching => exact ⟨call, kept, found, fetching, (Option.some.inj resumed).symm⟩
  · cases resumed

theorem resume_body_some {now : Int} {json : Option Json} (resumed : resume_body world now id json page = some after) :
    ∃ call kept turn, page.calls[id]? = some call ∧ call.stage = .reading kept ∧
      body world now kept call.epoch json page.client = some turn ∧ after = page.advance id turn := by
  obtain ⟨call, found, resumed⟩ := Option.bind_eq_some_iff.mp resumed
  split at resumed
  next kept reading =>
    obtain ⟨turn, ran, rfl⟩ := Option.map_eq_some_iff.mp resumed
    exact ⟨call, kept, turn, found, reading, ran, rfl⟩
  · cases resumed

theorem settle_some (resumed : settle id page = some after) :
    ∃ call outcome, page.calls[id]? = some call ∧ call.stage = .finished outcome ∧
      after = { page.set_stage id (.settled outcome) with log := page.log ++ [.settled id] } := by
  obtain ⟨call, found, resumed⟩ := Option.bind_eq_some_iff.mp resumed
  split at resumed
  next outcome finished => exact ⟨call, outcome, found, finished, (Option.some.inj resumed).symm⟩
  · cases resumed

/-- A settled call is forgotten; what the page holds stays. -/
theorem tidy_some (resumed : tidy id page = some after) : ∃ client, after = { page with client := client } ∧ Same page.client client ∧
    (client.logging_out = page.client.logging_out ∨ ∃ id, page.client.logging_out = some id ∧ page.settled id = true) := by
  unfold tidy at resumed
  simp only at resumed
  split at resumed
  next settled =>
    refine ⟨_, (Option.some.inj resumed).symm, ⟨rfl, rfl, rfl, rfl⟩, ?_⟩
    by_cases pending : page.client.logging_out = some id
    · exact .inr ⟨id, pending, settled⟩
    · exact .inl (if_neg pending)
  · cases resumed

theorem recover_moves : Relation.ReflTransGen Move page (recover page).1 := by
  unfold recover
  split
  · exact .refl
  · exact .single (.enqueued .recover _ ⟨rfl, rfl, rfl, rfl⟩ rfl (.inl ⟨rfl, Kind.noConfusion⟩))

theorem renew_moves : Relation.ReflTransGen Move page (renew page).1 := by
  unfold renew
  split
  · exact .refl
  · exact .single (.enqueued .renew _ ⟨rfl, rfl, rfl, rfl⟩ rfl (.inl ⟨rfl, Kind.noConfusion⟩))

theorem logout_moves : Relation.ReflTransGen Move page (logout page).1 := by
  unfold logout
  split
  · exact .refl
  next free => exact .single (.enqueued .logout _ ⟨rfl, rfl, rfl, rfl⟩ rfl (.inr ⟨free, rfl⟩))

theorem request_moves {now : Int} {path : Text} {operation : Operation} (accepted : request world now path operation page = .ok (after, id)) :
    page.client.logging_out = none ∧ Relation.ReflTransGen Move page after := by
  unfold request at accepted
  split at accepted
  · cases accepted
  · split at accepted
    · cases accepted
    next free =>
      refine ⟨Option.not_isSome_iff_eq_none.mp free, ?_⟩
      simp only at accepted
      split at accepted
      next safe =>
        cases accepted
        have queued : (Kind.request path operation).queued = false := by simp [Kind.queued, safe]
        refine .tail (.single (.called path operation queued))
          (.started page.calls.length { kind := .request path operation, epoch := page.client.epoch, stage := .waiting } _ ?_ rfl (start_starts now _))
        exact List.getElem?_concat_length
      next unsafe_method =>
        cases accepted
        have queued : (Kind.request path operation).queued = true := by simp [Kind.queued, unsafe_method]
        exact .single (.enqueued _ page.client ⟨rfl, rfl, rfl, rfl⟩ queued (.inl ⟨rfl, Kind.noConfusion⟩))

/-- Everything a step can do. -/
theorem step_moves {action : Action} (stepped : step world page action = some after) : Relation.ReflTransGen Move page after := by
  cases action with
  | forget => exact Option.some.inj stepped ▸ .single (.reset .unknown)
  | release => exact Option.some.inj stepped ▸ .single (.remembered _ ⟨rfl, rfl, rfl, rfl⟩ (.inl rfl))
  | confirm_issued_proof csrf expires_at =>
    obtain rfl := Option.some.inj stepped
    unfold confirm_issued_proof
    split
    · exact .refl
    · exact .single (.reset .unknown)
  | recover => exact Option.some.inj stepped ▸ recover_moves
  | renew => exact Option.some.inj stepped ▸ renew_moves
  | logout => exact Option.some.inj stepped ▸ logout_moves
  | request now path operation =>
    simp only [step] at stepped
    split at stepped
    next accepted => exact Option.some.inj stepped ▸ (request_moves accepted).2
    · exact Option.some.inj stepped ▸ .refl
  | notice value =>
    simp only [step] at stepped
    split at stepped
    · split at stepped
      next client accepted =>
        obtain ⟨kind, _, rfl⟩ := Option.map_eq_some_iff.mp accepted
        exact Option.some.inj stepped ▸ .single (.reset _)
      · exact Option.some.inj stepped ▸ .refl
    · cases stepped
  | start now id =>
    obtain ⟨call, found, waiting, _, _, rfl⟩ := resume_start_some stepped
    exact .single (.started id call _ found waiting (start_starts now _))
  | reply id response =>
    obtain ⟨call, kept, found, fetching, rfl⟩ := resume_reply_some stepped
    exact .single (.resumed id call _ found (by simp [fetching]) (by rw [fetching]; rfl) (reply_resumes kept response))
  | body now id json =>
    obtain ⟨call, kept, turn, found, reading, ran, rfl⟩ := resume_body_some stepped
    exact .single (.resumed id call _ found (by simp [reading]) (by rw [reading]; rfl) (body_resumes ran))
  | settle id =>
    obtain ⟨call, outcome, found, finished, rfl⟩ := settle_some stepped
    exact .single (.settled id call outcome found finished)
  | tidy id =>
    obtain ⟨client, rfl, same, pending⟩ := tidy_some stepped
    exact .single (.remembered client same pending)

end

/-! ### Frames -/

section
variable {page after : Page} {id : Nat}

theorem natures_set_stage (calls : List Call) (id : Nat) (stage : Stage) :
    (calls.modify id fun call => { call with stage := stage }).map nature = calls.map nature := by
  refine List.ext_getElem? fun other => ?_
  rw [List.getElem?_map, List.getElem?_map, List.getElem?_modify]
  cases calls[other]? with
  | none => rfl
  | some call =>
    simp only [Option.map_some]
    split <;> rfl

/-- The stage a turn leaves its call at. -/
def stage_of : Next → Stage
  | .fetch _ kept => .fetching kept
  | .read kept => .reading kept
  | .done outcome => .finished outcome

/-- The request a turn sends. -/
def sent_of (id : Nat) : Next → List Event
  | .fetch init _ => [.sent id init]
  | _ => []

theorem advance_client (turn : Turn) : (page.advance id turn).client = turn.client := by
  unfold Page.advance
  cases turn.next <;> rfl

theorem advance_queue (turn : Turn) : (page.advance id turn).queue = page.queue := by
  unfold Page.advance
  cases turn.next <;> rfl

theorem advance_calls (turn : Turn) :
    (page.advance id turn).calls = page.calls.modify id fun call => { call with stage := stage_of turn.next } := by
  unfold Page.advance
  cases turn.next <;> rfl

theorem advance_log (turn : Turn) :
    (page.advance id turn).log = page.log ++ (turn.published.map Event.published ++ sent_of id turn.next) := by
  unfold Page.advance
  cases turn.next with
  | fetch init kept => simp [sent_of]
  | read kept => simp [sent_of, Page.set_stage]
  | done outcome => simp [sent_of, Page.set_stage]

theorem advance_frame (turn : Turn) (unmoved : turn.client.epoch = page.client.epoch) : Frame page (page.advance id turn) where
  natures := by rw [advance_calls, natures_set_stage]
  queue := advance_queue turn
  epoch := by rw [advance_client, unmoved]
  log := by
    refine ⟨_, advance_log turn, fun event mem => ?_⟩
    rcases List.mem_append.mp mem with published | sent
    · obtain ⟨kind, _, rfl⟩ := List.mem_map.mp published
      rfl
    · cases next : turn.next <;> simp [sent_of, next] at sent
      rw [sent]
      rfl

theorem settled_frame (outcome : Outcome) :
    Frame page { page.set_stage id (.settled outcome) with log := page.log ++ [.settled id] } where
  natures := natures_set_stage page.calls id _
  queue := rfl
  epoch := rfl
  log := ⟨[.settled id], rfl, fun _ mem => List.mem_singleton.mp mem ▸ rfl⟩

theorem remembered_frame {client : Client} (same : Same page.client client) : Frame page { page with client := client } where
  natures := rfl
  queue := rfl
  epoch := same.epoch
  log := ⟨[], (List.append_nil _).symm, fun _ mem => absurd mem List.not_mem_nil⟩

theorem Frame.length (frame : Frame page after) : after.calls.length = page.calls.length := by
  have lengths := congrArg List.length frame.natures
  rwa [List.length_map, List.length_map] at lengths

theorem Frame.found {call : Call} (frame : Frame page after) (found : after.calls[id]? = some call) :
    ∃ earlier, page.calls[id]? = some earlier ∧ nature earlier = nature call := by
  have same := congrArg (·[id]?) frame.natures
  simp only [List.getElem?_map, found, Option.map_some] at same
  exact Option.map_eq_some_iff.mp same.symm

end

/-! ### Calls and the epochs they began in -/

/-- A call that was taken on has the epoch of that moment. -/
def Begun (natures : List (Kind × Nat)) (before : List Event) (event : Event) : Prop :=
  ∀ id, event = .called id → natures[id]?.map Prod.snd = some (resets before)

structure Timed (page : Page) : Prop where
  epoch : page.client.epoch = resets page.log
  begun : Justified (Begun (page.calls.map nature)) page.log
  logged : ∀ id, id < page.calls.length → Event.called id ∈ page.log

section
variable {page after : Page} {id : Nat}

theorem timed_frame (frame : Frame page after) (timed : Timed page) : Timed after := by
  obtain ⟨new, log, silent⟩ := frame.log
  constructor
  · rw [frame.epoch, log, resets_quiet silent, timed.epoch]
  · rw [frame.natures, log]
    refine justified_append timed.begun fun event mem before id is_call => ?_
    have still := silent event mem
    rw [is_call] at still
    cases still
  · intro id inside
    rw [log]
    exact List.mem_append_left _ (timed.logged id (frame.length ▸ inside))

theorem timed_reset (status : SessionStatus) (timed : Timed page) : Timed (page.reset (page.client.reset status)) := by
  constructor
  · show page.client.epoch + 1 = resets (page.log ++ [.reset])
    rw [timed.epoch, resets_append]
    rfl
  · exact justified_append timed.begun fun event mem before id is_call => by
      rw [List.mem_singleton.mp mem] at is_call
      cases is_call
  · exact fun id inside => List.mem_append_left _ (timed.logged id inside)

/-- A new call begins in the epoch of its moment, and the earlier ones keep theirs. -/
theorem timed_call (kind : Kind) (queue : List Nat) {client : Client} (same : client.epoch = page.client.epoch) (timed : Timed page) :
    Timed { page.call kind with queue := queue, client := client } := by
  have natures : (page.call kind).calls.map nature = page.calls.map nature ++ [(kind, page.client.epoch)] := List.map_append
  constructor
  · show client.epoch = resets (page.log ++ [.called page.calls.length])
    rw [same, timed.epoch, resets_append]
    rfl
  · show Justified (Begun ((page.call kind).calls.map nature)) (page.log ++ [.called page.calls.length])
    rw [natures]
    refine justified_concat.mpr ⟨timed.begun.imp fun before event begun id is_call => ?_, fun id is_call => ?_⟩
    · obtain ⟨call, found, began⟩ := Option.map_eq_some_iff.mp (begun id is_call)
      rw [List.getElem?_append_left (List.getElem?_eq_some_iff.mp found).1, found, Option.map_some, began]
    · obtain rfl := Event.called.inj is_call
      rw [← List.length_map nature, List.getElem?_concat_length, Option.map_some, timed.epoch]
  · intro id inside
    show Event.called id ∈ page.log ++ [.called page.calls.length]
    have inside : id < page.calls.length + 1 := by simpa [Page.call] using inside
    rcases Nat.lt_or_eq_of_le (Nat.le_of_lt_succ inside) with earlier | rfl
    · exact List.mem_append_left _ (timed.logged id earlier)
    · exact List.mem_append_right _ List.mem_cons_self

theorem timed_move (moved : Move page after) (timed : Timed page) : Timed after := by
  cases moved with
  | reset status => exact timed_reset status timed
  | remembered client same pending => exact timed_frame (remembered_frame same) timed
  | enqueued kind client same queued pending => exact timed_call kind _ same.epoch timed
  | called path operation safe => exact timed_call _ page.queue rfl timed
  | started id call turn found waiting starts => exact timed_frame (advance_frame turn starts.moves.unmoved) timed
  | resumed id call turn found started unsettled resumes => exact timed_frame (advance_frame turn resumes.moves.unmoved) timed
  | settled id call outcome found finished => exact timed_frame (settled_frame outcome) timed

/-- The log has the moment of a call, with its epoch. -/
theorem Timed.split {call : Call} (timed : Timed page) (found : page.calls[id]? = some call) :
    ∃ before after, page.log = before ++ .called id :: after ∧ call.epoch = resets before := by
  obtain ⟨before, after, split⟩ := List.mem_iff_append.mp (timed.logged id (List.getElem?_eq_some_iff.mp found).1)
  have began := timed.begun before (.called id) after split id rfl
  rw [List.getElem?_map, found] at began
  exact ⟨before, after, split, Option.some.inj began⟩

theorem resets_split {before after : List Event} (split : page.log = before ++ .called id :: after) :
    resets page.log = resets before + resets after := by
  rw [split, resets_append]
  exact congrArg (resets before + ·) (List.countP_cons_of_neg Bool.false_ne_true)

theorem Timed.epoch_le {call : Call} (timed : Timed page) (found : page.calls[id]? = some call) : call.epoch ≤ page.client.epoch := by
  obtain ⟨before, after, split, began⟩ := timed.split found
  rw [timed.epoch, resets_split split, began]
  exact Nat.le_add_right _ _

/-- A call is of an earlier epoch where the log has a reset after it. -/
theorem Timed.outdated_iff {call : Call} (timed : Timed page) (found : page.calls[id]? = some call) :
    Outdated id page.log ↔ call.epoch ≠ page.client.epoch := by
  constructor
  · rintro ⟨before, after, split, dropped⟩
    have began := timed.begun before (.called id) after split id rfl
    rw [List.getElem?_map, found] at began
    have positive : 0 < resets after := List.countP_pos_iff.mpr ⟨.reset, dropped, rfl⟩
    have same : call.epoch = resets before := Option.some.inj began
    rw [timed.epoch, resets_split split, same]
    omega
  · intro old
    obtain ⟨before, after, split, began⟩ := timed.split found
    rw [timed.epoch, resets_split split, began] at old
    exact ⟨before, after, split, reset_mem (by omega)⟩

end

/-! ### What else holds of every page -/

/-- A logout of this epoch that has not settled is the one the fields remember. -/
def Pending (page : Page) : Prop :=
  ∀ id call, page.calls[id]? = some call → call.kind = .logout → call.stage.is_settled = false → call.epoch = page.client.epoch →
    page.client.logging_out = some id

/-- How many requests a call may have sent. -/
def Stage.requests : Stage → Nat
  | .waiting => 0
  | _ => 1

def requests (page : Page) (id : Nat) : Nat := (page.calls[id]?.map fun call => Stage.requests call.stage).getD 0

def Once (page : Page) : Prop := ∀ id, page.log.countP (sends id) ≤ requests page id

/-- The queue has the calls that go through it in the order in which they were made. -/
structure Ordered (page : Page) : Prop where
  sorted : page.queue.Pairwise (· < ·)
  inside : ∀ id ∈ page.queue, id < page.calls.length
  complete : ∀ id call, page.calls[id]? = some call → call.kind.queued = true → id ∈ page.queue

structure Consistent (page : Page) : Prop where
  timed : Timed page
  pending : Pending page
  once : Once page
  ordered : Ordered page
  backed : Backed page.client

section
variable {page after : Page} {id : Nat}

theorem found_set_stage {calls : List Call} {stage : Stage} {other : Nat} {changed : Call}
    (found : (calls.modify id fun call => { call with stage := stage })[other]? = some changed) :
    ∃ call, calls[other]? = some call ∧ changed.kind = call.kind ∧ changed.epoch = call.epoch ∧
      changed.stage = if id = other then stage else call.stage := by
  rw [List.getElem?_modify] at found
  obtain ⟨call, present, rfl⟩ := Option.map_eq_some_iff.mp found
  refine ⟨call, present, ?_⟩
  split <;> exact ⟨rfl, rfl, rfl⟩

theorem found_call {kind : Kind} {other : Nat} {call : Call} (found : (page.call kind).calls[other]? = some call) :
    page.calls[other]? = some call ∨ other = page.calls.length ∧ call = { kind, epoch := page.client.epoch, stage := .waiting } := by
  rw [Page.call, List.getElem?_append] at found
  split at found
  · exact .inl found
  · right
    obtain ⟨here, same⟩ := List.getElem?_eq_some_iff.mp found
    have only : other - page.calls.length = 0 := Nat.lt_one_iff.mp here
    refine ⟨by omega, ?_⟩
    rw [List.getElem_singleton] at same
    exact same.symm

/-- A step of a call that has not settled before. -/
theorem pending_advance {stage : Stage} (pending : Pending page) (epoch : after.client.epoch = page.client.epoch)
    (remembered : after.client.logging_out = page.client.logging_out)
    (calls : after.calls = page.calls.modify id fun call => { call with stage := stage })
    (unsettled : ∀ call, page.calls[id]? = some call → call.stage.is_settled = false) : Pending after := by
  intro other changed found is_logout open_still current
  rw [calls] at found
  obtain ⟨call, found, kind, began, stage⟩ := found_set_stage found
  rw [remembered]
  refine pending other call found (kind ▸ is_logout) ?_ (began.symm.trans (current.trans epoch))
  by_cases here : id = other
  · exact unsettled call (here ▸ found)
  · rwa [stage, if_neg here] at open_still

theorem pending_turn {call : Call} {turn : Turn} (pending : Pending page) (found : page.calls[id]? = some call)
    (unsettled : call.stage.is_settled = false) (moves : Moves call.epoch page.client turn.client) : Pending (page.advance id turn) := by
  refine pending_advance pending ?_ ?_ (advance_calls turn) fun other same => ?_
  · rw [advance_client, moves.unmoved]
  · rw [advance_client, moves.logging_out]
  · exact Option.some.inj (found.symm.trans same) ▸ unsettled

theorem pending_move (timed : Timed page) (moved : Move page after) (pending : Pending page) : Pending after := by
  cases moved with
  | reset status =>
    intro id call found is_logout open_still current
    have before := timed.epoch_le found
    have later : call.epoch = page.client.epoch + 1 := current
    omega
  | remembered client same kept =>
    intro id call found is_logout open_still current
    have held := pending id call found is_logout open_still (current.trans same.epoch)
    rcases kept with kept | ⟨other, remembered, settled⟩
    · exact kept.trans held
    · obtain rfl := Option.some.inj (remembered.symm.trans held)
      rw [Page.settled, found, Option.any_some, open_still] at settled
      cases settled
  | enqueued kind client same queued kept =>
    intro id call found is_logout open_still current
    rcases found_call found with found | ⟨rfl, rfl⟩
    · have held := pending id call found is_logout open_still (current.trans same.epoch)
      rcases kept with ⟨kept, _⟩ | ⟨free, _⟩
      · exact kept.trans held
      · rw [free] at held
        cases held
    · rcases kept with ⟨_, other_kind⟩ | ⟨_, remembered⟩
      · exact absurd is_logout other_kind
      · exact remembered
  | called path operation safe =>
    intro id call found is_logout open_still current
    rcases found_call found with found | ⟨rfl, rfl⟩
    · exact pending id call found is_logout open_still current
    · cases is_logout
  | started id call turn found waiting starts => exact pending_turn pending found (by rw [waiting]; rfl) starts.moves
  | resumed id call turn found started unsettled resumes => exact pending_turn pending found unsettled resumes.moves
  | settled id call outcome found finished =>
    have calls : ({ page.set_stage id (.settled outcome) with log := page.log ++ [.settled id] } : Page).calls =
        page.calls.modify id fun call => { call with stage := .settled outcome } := rfl
    refine pending_advance pending rfl rfl calls fun other same => ?_
    rw [← Option.some.inj (found.symm.trans same), finished]
    rfl

theorem once_log {new : List Event} (once : Once page) (log : after.log = page.log ++ new)
    (enough : ∀ other, new.countP (sends other) + requests page other ≤ requests after other) : Once after := by
  intro other
  rw [log, List.countP_append]
  have before := once other
  have room := enough other
  omega

theorem requests_stage {stage : Stage} {call : Call} (found : page.calls[id]? = some call)
    (calls : after.calls = page.calls.modify id fun call => { call with stage := stage }) (other : Nat) :
    requests after other = if id = other then Stage.requests stage else requests page other := by
  unfold requests
  rw [calls, List.getElem?_modify]
  by_cases here : id = other
  · rw [← here, found]
    simp
  · simp [here]

theorem requests_call (kind : Kind) (other : Nat) : requests (page.call kind) other = requests page other := by
  unfold requests
  rw [Page.call, List.getElem?_append]
  split
  · rfl
  next outside =>
    rw [List.getElem?_eq_none (Nat.le_of_not_lt outside)]
    cases other - page.calls.length <;> rfl

theorem countP_published (kinds : List Notice) (other : Nat) : (kinds.map Event.published).countP (sends other) = 0 := by
  refine List.countP_eq_zero.mpr fun event mem => ?_
  obtain ⟨kind, _, rfl⟩ := List.mem_map.mp mem
  exact Bool.false_ne_true

theorem requests_stage_of (next : Next) : Stage.requests (stage_of next) = 1 := by
  cases next <;> rfl

theorem countP_sent_of (id : Nat) (next : Next) (other : Nat) : (sent_of id next).countP (sends other) ≤ if id = other then 1 else 0 := by
  cases next with
  | fetch init kept =>
    by_cases here : id = other
    · simp [sent_of, sends, here]
    · simp [sent_of, sends, here]
  | read kept => exact Nat.zero_le _
  | done outcome => exact Nat.zero_le _

/-- A turn sends no more than the stages before and after it say. -/
theorem once_turn {call : Call} {turn : Turn} (once : Once page) (found : page.calls[id]? = some call)
    (sent : (sent_of id turn.next).countP (sends id) + Stage.requests call.stage ≤ 1) : Once (page.advance id turn) := by
  refine once_log once (advance_log turn) fun other => ?_
  rw [List.countP_append, countP_published, Nat.zero_add, requests_stage found (advance_calls turn), requests_stage_of]
  by_cases here : id = other
  · rw [if_pos here, ← here, requests, found]
    exact sent
  · have none_sent := countP_sent_of id turn.next other
    rw [if_neg here] at none_sent ⊢
    omega

theorem once_move (moved : Move page after) (once : Once page) : Once after := by
  cases moved with
  | reset status => exact once_log once rfl fun other => Nat.le_of_eq (Nat.zero_add _)
  | remembered client same kept => exact once
  | enqueued kind client same queued kept =>
    refine once_log once rfl fun other => ?_
    exact Nat.le_of_eq ((Nat.zero_add _).trans (requests_call kind other).symm)
  | called path operation safe =>
    refine once_log once rfl fun other => ?_
    exact Nat.le_of_eq ((Nat.zero_add _).trans (requests_call _ other).symm)
  | started id call turn found waiting starts =>
    refine once_turn once found ?_
    have at_most := countP_sent_of id turn.next id
    rw [if_pos rfl] at at_most
    rw [waiting]
    exact at_most
  | resumed id call turn found started unsettled resumes =>
    refine once_turn once found ?_
    have none_sent : sent_of id turn.next = [] := by
      cases next : turn.next with
      | fetch init kept => exact absurd next (resumes.quiet init kept)
      | read kept => rfl
      | done outcome => rfl
    rw [none_sent]
    cases call.stage with
    | waiting => exact Nat.zero_le _
    | _ => exact Nat.le_refl 1
  | settled id call outcome found finished =>
    refine once_log once rfl fun other => ?_
    have calls : ({ page.set_stage id (.settled outcome) with log := page.log ++ [.settled id] } : Page).calls =
        page.calls.modify id fun call => { call with stage := .settled outcome } := rfl
    rw [requests_stage found calls]
    by_cases here : id = other
    · rw [if_pos here, ← here, requests, found, Option.map_some, finished]
      exact Nat.le_refl 1
    · rw [if_neg here]
      exact Nat.le_of_eq (Nat.zero_add _)

theorem ordered_frame (frame : Frame page after) (ordered : Ordered page) : Ordered after where
  sorted := frame.queue ▸ ordered.sorted
  inside := fun id mem => frame.length ▸ ordered.inside id (frame.queue ▸ mem)
  complete := by
    intro id call found queued
    obtain ⟨earlier, found, same⟩ := frame.found found
    have kind : earlier.kind = call.kind := congrArg Prod.fst same
    rw [frame.queue]
    exact ordered.complete id earlier found (kind ▸ queued)

theorem ordered_move (moved : Move page after) (ordered : Ordered page) : Ordered after := by
  cases moved with
  | reset status => exact ⟨ordered.sorted, ordered.inside, ordered.complete⟩
  | remembered client same pending => exact ordered_frame (remembered_frame same) ordered
  | enqueued kind client same queued pending =>
    constructor
    · refine List.pairwise_append.mpr ⟨ordered.sorted, List.pairwise_singleton _ _, fun id mem new is_new => ?_⟩
      exact List.mem_singleton.mp is_new ▸ ordered.inside id mem
    · intro id mem
      show id < (page.calls ++ [_]).length
      rw [List.length_append]
      rcases List.mem_append.mp mem with mem | mem
      · exact Nat.lt_add_right 1 (ordered.inside id mem)
      · exact List.mem_singleton.mp mem ▸ Nat.lt_succ_self _
    · intro id call found is_queued
      rcases found_call found with found | ⟨rfl, _⟩
      · exact List.mem_append_left _ (ordered.complete id call found is_queued)
      · exact List.mem_append_right _ List.mem_cons_self
  | called path operation safe =>
    refine ⟨ordered.sorted, fun id mem => ?_, fun id call found is_queued => ?_⟩
    · show id < (page.calls ++ [_]).length
      rw [List.length_append]
      exact Nat.lt_add_right 1 (ordered.inside id mem)
    · rcases found_call found with found | ⟨rfl, rfl⟩
      · exact ordered.complete id call found is_queued
      · rw [safe] at is_queued
        cases is_queued
  | started id call turn found waiting starts => exact ordered_frame (advance_frame turn starts.moves.unmoved) ordered
  | resumed id call turn found started unsettled resumes => exact ordered_frame (advance_frame turn resumes.moves.unmoved) ordered
  | settled id call outcome found finished => exact ordered_frame (settled_frame outcome) ordered

theorem backed_move (moved : Move page after) (backed : Backed page.client) : Backed after.client := by
  cases moved with
  | reset status => exact backed_clear status
  | remembered client same pending => exact same.backed backed
  | enqueued kind client same queued pending => exact same.backed backed
  | called path operation safe => exact backed
  | started id call turn found waiting starts =>
    rw [advance_client]
    exact starts.moves.backed backed
  | resumed id call turn found started unsettled resumes =>
    rw [advance_client]
    exact resumes.moves.backed backed
  | settled id call outcome found finished => exact backed

theorem consistent_move (moved : Move page after) (consistent : Consistent page) : Consistent after where
  timed := timed_move moved consistent.timed
  pending := pending_move consistent.timed moved consistent.pending
  once := once_move moved consistent.once
  ordered := ordered_move moved consistent.ordered
  backed := backed_move moved consistent.backed

theorem consistent_moves (moved : Relation.ReflTransGen Move page after) (consistent : Consistent page) : Consistent after := by
  induction moved with
  | refl => exact consistent
  | tail _ last ih => exact consistent_move last ih

theorem consistent_new (channel : Bool) : Consistent (new_page channel) where
  timed := ⟨rfl, justified_nil, fun id inside => absurd inside (Nat.not_lt_zero id)⟩
  pending := fun id call found => by cases found
  once := fun id => Nat.zero_le _
  ordered := ⟨List.Pairwise.nil, fun id mem => absurd mem List.not_mem_nil, fun id call found => by cases found⟩
  backed := fun held => absurd rfl held

/-- Every page that actions lead to, in any order they can come in. -/
theorem consistent_run {world : World} {actions : List Action} (consistent : Consistent page) (ran : run world actions page = some after) :
    Consistent after := by
  induction actions generalizing page with
  | nil => exact Option.some.inj ran ▸ consistent
  | cons action actions ih =>
    obtain ⟨middle, stepped, rest⟩ := Option.bind_eq_some_iff.mp ran
    exact ih (consistent_moves (step_moves stepped) consistent) rest

end

end RedDock.SessionPages
