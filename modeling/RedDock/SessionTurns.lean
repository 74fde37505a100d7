import RedDock.SessionClient

/-!
# Turns of the session client

A turn of an operation of an earlier epoch leaves every field alone. Only a
first turn sends, and a write it sends has the proof the fields hold.
-/
set_option autoImplicit false
namespace RedDock.SessionTurns
open Text Detection SessionClient

/-! ### What a turn leaves alone -/

/-- A session is never held without a proof. -/
def Backed (client : Client) : Prop := client.session ≠ none → client.csrf ≠ none

/-- The session, the proof and the status are the same, and so is the epoch. -/
structure Same (client after : Client) : Prop where
  session : after.session = client.session
  csrf : after.csrf = client.csrf
  status : after.status = client.status
  epoch : after.epoch = client.epoch

theorem Same.refl (client : Client) : Same client client := ⟨rfl, rfl, rfl, rfl⟩

theorem Same.backed {client after : Client} (same : Same client after) (backed : Backed client) : Backed after := by
  unfold Backed
  rw [same.session, same.csrf]
  exact backed

/-- What an operation of an epoch may do to the fields in a turn. -/
structure Moves (epoch : Nat) (client after : Client) : Prop where
  unmoved : after.epoch = client.epoch
  logging_out : after.logging_out = client.logging_out
  backed : Backed client → Backed after
  stale : epoch ≠ client.epoch → after = client

section
variable {epoch : Nat} {client middle after : Client}

theorem Moves.refl : Moves epoch client client := ⟨rfl, rfl, id, fun _ => rfl⟩

theorem Moves.trans (first : Moves epoch client middle) (second : Moves epoch middle after) : Moves epoch client after where
  unmoved := second.unmoved.trans first.unmoved
  logging_out := second.logging_out.trans first.logging_out
  backed := fun backed => second.backed (first.backed backed)
  stale := by
    intro old
    rw [second.stale (by rwa [first.unmoved]), first.stale old]

theorem backed_clear (status : SessionStatus) : Backed (client.clear status) := fun held => absurd rfl held

theorem moves_clear (status : SessionStatus) (current : epoch = client.epoch) : Moves epoch client (client.clear status) :=
  ⟨rfl, rfl, fun _ => backed_clear status, fun old => absurd current old⟩

theorem moves_require (world : World) (now : Int) (current : epoch = client.epoch) : Moves epoch client (client.require world now).1 := by
  unfold Client.require
  split
  · split
    · exact .refl
    · split
      · exact moves_clear _ current
      · exact .refl
  · exact .refl

/-- `#require` hands out the proof that is held, and leaves the fields as they are. -/
theorem require_ok {world : World} {now : Int} {held : ServerSession × Text} (ok : (client.require world now).2 = .ok held) :
    (client.require world now).1 = client ∧ client.csrf = some held.2 := by
  unfold Client.require at ok ⊢
  split at ok
  next session csrf has_session has_csrf =>
    split at ok
    · cases ok
    · split at ok
      · cases ok
      · next filled current =>
        rw [if_neg filled, if_neg current]
        cases ok
        exact ⟨rfl, has_csrf⟩
  · cases ok

theorem either_of {A : Type} {P : Turn → Prop} {error : Thrown → Turn} {next : A → Turn} {result : Except Thrown A}
    (wrong : ∀ e, result = .error e → P (error e)) (right : ∀ a, result = .ok a → P (next a)) : P (Turn.either error next result) := by
  cases result with
  | error e => exact wrong e rfl
  | ok a => exact right a rfl

/-- A turn that only goes on with an operation: it sends nothing. -/
structure Resumes (epoch : Nat) (client : Client) (turn : Turn) : Prop where
  moves : Moves epoch client turn.client
  quiet : ∀ init kept, turn.next ≠ .fetch init kept

theorem Resumes.later {turn : Turn} (resumes : Resumes epoch middle turn) (moves : Moves epoch client middle) : Resumes epoch client turn :=
  ⟨moves.trans resumes.moves, resumes.quiet⟩

theorem done_quiet (outcome : Outcome) : ∀ init kept, Next.done outcome ≠ .fetch init kept := by
  intro init kept sent
  cases sent

theorem read_quiet (reader : Kept) : ∀ init kept, Next.read reader ≠ .fetch init kept := by
  intro init kept sent
  cases sent

theorem resumes_failed (error : Thrown) (moves : Moves epoch client after) : Resumes epoch client (.failed error after) :=
  ⟨moves, done_quiet _⟩

theorem resumes_caught (status : Thrown → SessionStatus) (error : Thrown) : Resumes epoch client (.caught epoch status error client) := by
  refine resumes_failed _ ?_
  split
  next current => exact moves_clear _ current
  · exact .refl

end

section
variable {world : World} {epoch : Nat} {client : Client}

theorem recover_reply_resumes (response : Option Response) : Resumes epoch client (Recover.reply epoch response client) := by
  unfold Recover.reply Recover.caught
  split
  · exact resumes_caught _ _
  · split
    · exact resumes_caught _ _
    · next current =>
      split
      · exact ⟨moves_clear _ (not_not.mp current), done_quiet _⟩
      · split
        · exact resumes_caught _ _
        · exact ⟨.refl, read_quiet _⟩

theorem recover_body_resumes (now : Int) (json : Option Json) : Resumes epoch client (Recover.body world now epoch json client) := by
  unfold Recover.body Recover.caught
  split
  · exact resumes_caught _ _
  · refine either_of (fun e _ => resumes_caught _ e) fun next _ => ?_
    split
    · exact resumes_caught _ _
    · next current =>
      have stored : Moves epoch client { client with
          session := some next.1, csrf := some next.2, status := .authenticated, revision := client.revision + 1 } :=
        ⟨rfl, rfl, fun _ _ => Option.some_ne_none _, fun old => absurd (not_not.mp current) old⟩
      have required := stored.trans (moves_require world now (not_not.mp current))
      exact either_of (fun e _ => (resumes_caught _ e).later required) fun _ _ => ⟨required, done_quiet _⟩

theorem renew_reply_resumes (session : ServerSession) (csrf : Text) (response : Option Response) :
    Resumes epoch client (Renew.reply session csrf epoch response client) := by
  unfold Renew.reply Renew.caught
  split
  · exact resumes_caught _ _
  · split
    · exact resumes_caught _ _
    · split
      · exact resumes_caught _ _
      · exact ⟨.refl, read_quiet _⟩

theorem renew_body_resumes (session : ServerSession) (csrf : Text) (json : Option Json) :
    Resumes epoch client (Renew.body world session csrf epoch json client) := by
  unfold Renew.body Renew.caught
  split
  · exact resumes_caught _ _
  · refine either_of (fun e _ => resumes_caught _ e) fun body _ => ?_
    split
    · exact resumes_caught _ _
    · next current =>
      refine either_of (fun e _ => resumes_caught _ e) fun next _ => ?_
      exact ⟨⟨rfl, rfl, fun _ _ => Option.some_ne_none _, fun old => absurd (not_not.mp current) old⟩, done_quiet _⟩

theorem logout_reply_resumes (response : Option Response) : Resumes epoch client (Logout.reply epoch response client) := by
  unfold Logout.reply Logout.caught
  split
  · exact resumes_caught _ _
  · split
    · exact resumes_caught _ _
    · next current =>
      split
      · exact resumes_caught _ _
      · exact ⟨moves_clear _ (not_not.mp current), done_quiet _⟩

theorem request_reply_resumes (revision : Nat) (response : Option Response) :
    Resumes epoch client (Request.reply revision epoch response client) := by
  unfold Request.reply
  split
  · exact resumes_failed _ .refl
  · split
    · exact resumes_failed _ .refl
    · next current =>
      split
      · exact resumes_failed _ .refl
      · split
        · refine resumes_failed _ ?_
          split
          · exact moves_clear _ (not_not.mp current)
          · exact .refl
        · exact ⟨.refl, done_quiet _⟩

theorem reply_resumes (kept : Kept) (response : Option Response) : Resumes epoch client (reply kept epoch response client) := by
  cases kept with
  | recover => exact recover_reply_resumes response
  | renew session csrf => exact renew_reply_resumes session csrf response
  | logout => exact logout_reply_resumes response
  | request revision => exact request_reply_resumes revision response

theorem body_resumes {now : Int} {kept : Kept} {json : Option Json} {turn : Turn} (read : body world now kept epoch json client = some turn) :
    Resumes epoch client turn := by
  cases kept with
  | recover => exact Option.some.inj read ▸ recover_body_resumes now json
  | renew session csrf => exact Option.some.inj read ▸ renew_body_resumes session csrf json
  | logout => cases read
  | request revision => cases read

/-- A first turn: where it sends, the fields are as they were, and a write has the proof they hold. -/
structure Starts (kind : Kind) (epoch : Nat) (client : Client) (turn : Turn) : Prop where
  moves : Moves epoch client turn.client
  sends : ∀ init kept, turn.next = .fetch init kept → turn.client = client ∧
    (init.method.safe = false → kind.queued = true ∧ init.proof = client.csrf ∧ client.csrf ≠ none)

theorem starts_failed {kind : Kind} {after : Client} (error : Thrown) (moves : Moves epoch client after) :
    Starts kind epoch client (.failed error after) :=
  ⟨moves, fun init kept sent => absurd sent (done_quiet _ init kept)⟩

theorem proof_first (csrf : Text) (headers : List (Text × Text)) : ((CSRF_HEADER, csrf) :: headers).lookup CSRF_HEADER = some csrf :=
  List.lookup_cons_self

theorem recover_starts : Starts .recover epoch client (Recover.start epoch client) := by
  unfold Recover.start
  split
  · exact starts_failed _ .refl
  · refine ⟨.refl, fun init kept sent => ⟨rfl, fun unsafe_method => ?_⟩⟩
    cases sent
    cases unsafe_method

/-- An operation that needs a session sends with the proof of `#require`. -/
theorem starts_required {kind : Kind} {now : Int} {next : ServerSession × Text → Turn} (current : epoch = client.epoch)
    (right : ∀ held, (client.require world now).1 = client → client.csrf = some held.2 → Starts kind epoch client (next held)) :
    Starts kind epoch client (Turn.either (fun error => .failed error (client.require world now).1) next (client.require world now).2) :=
  either_of (fun error _ => starts_failed error (moves_require world now current)) fun held ok =>
    right held (require_ok ok).1 (require_ok ok).2

/-- A turn that sends: a write among what it sends has the proof that is held. -/
theorem starts_fetch {kind : Kind} {init : RequestInit} {kept : Kept} {csrf : Text} (has_csrf : client.csrf = some csrf)
    (written : init.method.safe = false → kind.queued = true ∧ init.proof = some csrf) :
    Starts kind epoch client { client := client, next := .fetch init kept } := by
  refine ⟨.refl, fun sent other same => ⟨rfl, fun write => ?_⟩⟩
  cases same
  obtain ⟨queued, proof⟩ := written write
  exact ⟨queued, proof.trans has_csrf.symm, has_csrf ▸ Option.some_ne_none csrf⟩

theorem renew_starts (now : Int) : Starts .renew epoch client (Renew.start world now epoch client) := by
  unfold Renew.start
  split
  · exact starts_failed _ .refl
  · next current =>
    refine starts_required (not_not.mp current) fun held same has_csrf => ?_
    rw [same]
    exact starts_fetch has_csrf fun _ => ⟨rfl, proof_first _ _⟩

theorem logout_starts (now : Int) : Starts .logout epoch client (Logout.start world now epoch client) := by
  unfold Logout.start
  split
  · exact starts_failed _ .refl
  · next current =>
    refine starts_required (not_not.mp current) fun held same has_csrf => ?_
    rw [same]
    exact starts_fetch has_csrf fun _ => ⟨rfl, proof_first _ _⟩

theorem request_starts (path : Text) (operation : Operation) (now : Int) :
    Starts (.request path operation) epoch client (Request.start world path operation now epoch client) := by
  unfold Request.start
  split
  · exact starts_failed _ .refl
  · next current =>
    refine starts_required (not_not.mp current) fun held same has_csrf => ?_
    have written : ∀ others : List (Text × Text), (operation.method.getD .GET).safe = false →
        (Kind.request path operation).queued = true ∧
          ((if (operation.method.getD .GET).safe then [] else [(CSRF_HEADER, held.2)]) ++ others).lookup CSRF_HEADER = some held.2 := by
      intro others write
      rw [Kind.queued, write]
      exact ⟨rfl, proof_first _ _⟩
    rw [same]
    simp only
    cases body : operation.body with
    | none => exact starts_fetch has_csrf (written _)
    | some value =>
      cases value with
      | unserialisable => exact starts_failed _ .refl
      | json value => exact starts_fetch has_csrf (written _)

theorem start_starts (now : Int) (kind : Kind) : Starts kind epoch client (start world now kind epoch client) := by
  cases kind with
  | recover => exact recover_starts
  | renew => exact renew_starts now
  | logout => exact logout_starts now
  | request path operation => exact request_starts path operation now

end

end RedDock.SessionTurns
