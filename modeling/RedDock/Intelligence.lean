import RedDock.Detection
import RedDock.Bytes
import RedDock.Claims

/-!
# Intelligence runs

A run is created over one packet of stored data, which is retained. Any number
of `approve_run` calls may then send it to the model provider, among changes of
the configuration and of the retained file, and restarts; and what the provider
answers is checked against the packet.
-/
set_option autoImplicit false
namespace RedDock.Intelligence
open Text Detection

/-- The document serializer, the digest, and what the schema library makes of
    integers and says of a document that it refuses. -/
structure Library where
  document_bytes : Json → Bytes
  sha256 : Bytes → Text
  as_int : Json → Option Int
  explain : Json → Text

/-! ### Packets -/

/-- What a packet says of a finding. -/
structure PacketFinding where
  id : Int
  rule_id : Text
  title : Text
  description : Text
  remediation : Option Text := none
  severity : Text
  confidence : Text
  status : Text
  asset_id : Option Int := none
  service_id : Option Int := none
  evidence_sha256 : List Text

structure Packet where
  dockyard_id : Int
  correlation_run_id : Int
  findings : List PacketFinding

def PacketFinding.document (finding : PacketFinding) : Json :=
  .object [("id".toList, .int finding.id), ("rule_id".toList, .str finding.rule_id), ("title".toList, .str finding.title),
    ("description".toList, .str finding.description), ("remediation".toList, (finding.remediation.map Json.str).getD .null),
    ("severity".toList, .str finding.severity), ("confidence".toList, .str finding.confidence), ("status".toList, .str finding.status),
    ("asset_id".toList, (finding.asset_id.map Json.int).getD .null), ("service_id".toList, (finding.service_id.map Json.int).getD .null),
    ("evidence_sha256".toList, .list (finding.evidence_sha256.map .str))]

def Packet.document (packet : Packet) : Json :=
  .object [("schema".toList, .str "reddock.intelligence-input/1".toList),
    ("purpose".toList, .str "advice-only remediation and prioritization".toList),
    ("constraints".toList, .list [.str "Stored evidence only; do not infer target contact or exploitability.".toList,
      .str "Output cannot change findings, scope, tools, or validation state.".toList]),
    ("dockyard_id".toList, .int packet.dockyard_id), ("correlation_run_id".toList, .int packet.correlation_run_id),
    ("findings".toList, .list (packet.findings.map PacketFinding.document))]

/-! ### Advice -/

structure PriorityAdvice where
  finding_id : Int
  priority : Text
  rationale : Text
  remediation_steps : List Text
  evidence_sha256 : List Text
  deriving DecidableEq

structure IntelligenceAdvice where
  summary : Text
  priorities : List PriorityAdvice
  limitations : List Text := []
  deriving DecidableEq

def text_of : Json → Option Text
  | .str t => some t
  | _ => none

def texts_of : Json → Option (List Text)
  | .list items => items.mapM text_of
  | _ => none

/-- A value whose length is within bounds. -/
def within {α : Type} (low high : Nat) (xs : List α) : Option (List α) := if low ≤ xs.length ∧ xs.length ≤ high then some xs else none

def members_of : Json → Option (List (Text × Json))
  | .object members => some members
  | _ => none

def PRIORITIES : List Text := ["urgent".toList, "high".toList, "normal".toList, "low".toList]
def PRIORITY_FIELDS : List Text :=
  ["finding_id".toList, "priority".toList, "rationale".toList, "remediation_steps".toList, "evidence_sha256".toList]
def ADVICE_FIELDS : List Text := ["summary".toList, "priorities".toList, "limitations".toList]

section
variable (library : Library)

/-- `PriorityAdvice`, of one element of a document. -/
def priority_of (element : Json) : Option PriorityAdvice := do
  let members ← members_of element
  guard (∀ member ∈ members, member.1 ∈ PRIORITY_FIELDS)
  let finding_id ← (← members.lookup "finding_id".toList) |> library.as_int
  let priority ← (← members.lookup "priority".toList) |> text_of
  guard (priority ∈ PRIORITIES)
  let rationale ← within 1 1000 (← (← members.lookup "rationale".toList) |> text_of)
  let remediation_steps ← within 1 10 (← (← members.lookup "remediation_steps".toList) |> texts_of)
  let evidence_sha256 ← within 1 20 (← (← members.lookup "evidence_sha256".toList) |> texts_of)
  return { finding_id, priority, rationale, remediation_steps, evidence_sha256 }

/-- `IntelligenceAdvice.model_validate` -/
def model_validate (raw : Json) : Option IntelligenceAdvice := do
  let members ← members_of raw
  guard (∀ member ∈ members, member.1 ∈ ADVICE_FIELDS)
  let summary ← within 1 2000 (← (← members.lookup "summary".toList) |> text_of)
  let priorities ← match ← members.lookup "priorities".toList with
    | .list items => within 1 200 (← items.mapM (priority_of library))
    | _ => none
  let limitations ← match members.lookup "limitations".toList with
    | none => some []
    | some items => within 0 20 (← texts_of items)
  return { summary, priorities, limitations }

end

/-- The hashes that a packet allows for a finding: the last row of it. -/
def allowed (packet : Packet) (finding_id : Int) : Option (List Text) :=
  (packet.findings.reverse.find? fun finding => finding.id = finding_id).map PacketFinding.evidence_sha256

/-- One turn of the loop in `_validate_advice`. -/
def check_priority (packet : Packet) (seen : List Int) (priority : PriorityAdvice) : Except Text Unit :=
  if priority.finding_id ∈ seen then .error "The provider returned duplicate advice for one finding".toList
  else match allowed packet priority.finding_id with
    | none => .error "The provider referenced a finding outside the approved packet".toList
    | some hashes =>
      if ¬∀ digest ∈ priority.evidence_sha256, digest ∈ hashes then
        .error "The provider referenced evidence outside the approved packet".toList
      else if ∃ step ∈ priority.remediation_steps, strip step = [] ∨ 500 < step.length then
        .error "The provider returned an invalid remediation step".toList
      else .ok ()

def check_priorities (packet : Packet) : List Int → List PriorityAdvice → Except Text Unit
  | _, [] => .ok ()
  | seen, priority :: priorities => do
    check_priority packet seen priority
    check_priorities packet (priority.finding_id :: seen) priorities

/-- `_validate_advice` -/
def validate_advice (advice : IntelligenceAdvice) (packet : Packet) : Except Text Unit := do
  check_priorities packet [] advice.priorities
  if 2000 < advice.summary.length ∨ ∃ item ∈ advice.limitations, 500 < item.length then
    throw "The provider returned over-long advice".toList

/-! ### Runs -/

/-- A model provider, as it was configured. -/
structure Provider where
  id : Text
  model : Text
  base_url : Text
  api_key : Option Text := none
  sends_data_external : Bool
  deriving DecidableEq

def Provider.destination (provider : Provider) : Text := provider.base_url

inductive Status
  | pending_approval
  | running
  | completed
  | failed
  deriving DecidableEq, Repr

/-- One approval-gated exchange with a model. -/
structure IntelligenceRun where
  dockyard_id : Nat
  status : Status
  provider : Text
  model : Text
  destination : Text
  sends_data_external : Bool
  prompt_version : Text
  input : Packet
  input_sha256 : Text
  evidence_path : Option Text := none
  approval_note : Option Text := none
  output : Option IntelligenceAdvice := none
  result_sha256 : Option Text := none
  metadata_sha256 : Option Text := none
  error : Option Text := none
  approved_at : Option Nat := none
  started_at : Option Nat := none
  completed_at : Option Nat := none

/-- `_provider_identity` -/
def provider_identity (provider : Provider) : Text × Text × Text × Bool :=
  (provider.id, provider.model, provider.destination, provider.sends_data_external)

def IntelligenceRun.provider_identity (run : IntelligenceRun) : Text × Text × Text × Bool :=
  (run.provider, run.model, run.destination, run.sends_data_external)

/-- What a creation finds: the configured provider and its limits, the runs
    there are, and the packet of the latest correlation. -/
structure Creation where
  dockyard_id : Nat
  provider : Option Provider
  prompt_version : Text
  active : Nat
  count : Nat
  max_runs : Nat
  max_input_bytes : Nat
  packet : Option Packet
  evidence_path : Text

section
variable (library : Library)

/-- The row that a creation commits. -/
def created_row (creation : Creation) (provider : Provider) (packet : Packet) : IntelligenceRun where
  dockyard_id := creation.dockyard_id
  status := .pending_approval
  provider := provider.id
  model := provider.model
  destination := provider.destination
  sends_data_external := provider.sends_data_external
  prompt_version := creation.prompt_version
  input := packet
  input_sha256 := library.sha256 (library.document_bytes packet.document)
  evidence_path := some creation.evidence_path

/-- `_create_run`: the committed run and its retained packet. -/
def create_run (creation : Creation) : Except Text (IntelligenceRun × Bytes) :=
  match creation.provider with
  | none => .error "Intelligence is disabled until an operator configures a model provider".toList
  | some provider =>
    if creation.active ≠ 0 then .error "An intelligence run is already awaiting approval or running".toList
    else if creation.max_runs ≤ creation.count then .error "This Dockyard reached the fixed intelligence-run limit".toList
    else match creation.packet with
      | none => .error "Run correlation before creating an intelligence packet".toList
      | some packet =>
        if packet.findings = [] then .error "No evidence-linked active findings are available for intelligence".toList
        else if creation.max_input_bytes < (library.document_bytes packet.document).length then
          .error "The intelligence packet exceeds the fixed input size limit".toList
        else .ok (created_row library creation provider packet, library.document_bytes packet.document)

/-- `_verify_retained_packet`: the retained file, where it may be sent. -/
def verify_retained_packet (run : IntelligenceRun) (retained : Option Bytes) : Except Text Bytes :=
  if library.sha256 (library.document_bytes run.input.document) ≠ run.input_sha256 ∨ run.evidence_path.getD [] = [] then
    .error "The retained intelligence packet failed integrity verification".toList
  else match retained with
    | none => .error "The retained intelligence packet is unavailable".toList
    | some bytes =>
      if library.sha256 bytes ≠ run.input_sha256 then .error "The retained intelligence packet failed integrity verification".toList
      else .ok bytes

end

/-! ### Approvals -/

/-- A call of `approve_run`, by the release that runs it. -/
structure Call where
  dockyard_id : Nat
  note : Text
  prompt_version : Text

/-- An exception in a call: one whose text is recorded, or any other. -/
inductive Raised
  | reported (message : Text)
  | unexpected

/-- What `approve_run` records of an exception. -/
def Raised.message : Raised → Text
  | reported message => message.take 500
  | unexpected => "Intelligence failed unexpectedly; see the RedDock container log".toList

/-- Where an `approve_run` call stands. -/
inductive Phase
  | idle
  | called (call : Call)
  | authorized (call : Call)
  | read (call : Call) (row : IntelligenceRun)
  | verified (call : Call) (row : IntelligenceRun)
  | matched (call : Call) (provider : Provider)
  /-- The update of the claim found no row. -/
  | beaten
  /-- The update of the claim is not committed. -/
  | updated (call : Call) (provider : Provider) (now : Nat)
  | admission (call : Call) (provider : Provider) (now : Nat)
  /-- The claim is committed. -/
  | admitted (call : Call) (provider : Provider)
  | refreshed (call : Call) (provider : Provider)
  | asking (packet : Packet)
  | advised (advice : IntelligenceAdvice)
  | written (advice : IntelligenceAdvice) (result metadata : Text)
  | failing (error : Text)
  | finished

/-- What a call does next. -/
inductive Act
  | call (dockyard_id : Nat) (note : Text)
  | authorize (admitted : Bool)
  | read
  | verify
  | provider
  | claim (now : Nat)
  | rollback
  | commit
  | refresh
  | analyze
  | answer (raw : Json)
  | write (result metadata : Text)
  | complete (now : Nat)
  | fail (now : Nat)
  | raise (raised : Raised)

/-- What is checked, committed or sent by a call. -/
inductive Event
  | verified (call : Nat) (retained : Bytes)
  | claimed (call : Nat)
  | disclosed (call : Nat) (provider : Provider) (prompt_version : Text) (packet : Packet)

abbrev Claimed := Claims.World IntelligenceRun Phase Event
abbrev Left := Claims.Left IntelligenceRun Phase Event

/-- The run and its calls, the retained file, the configured provider and the
    prompt version of the release. -/
structure World where
  claim : Claimed
  retained : Option Bytes
  provider : Option Provider
  prompt_version : Text

inductive Action
  | configure (provider : Option Provider)
  | retain (bytes : Option Bytes)
  | act (call : Nat) (act : Act)
  /-- The process ends, with its calls, and a release starts with
      `recover_interrupted_runs`. -/
  | restart (now : Nat) (prompt_version : Text)

/-- The values that the claim writes. -/
def claim_row (run : IntelligenceRun) (note : Text) (now : Nat) : IntelligenceRun :=
  { run with approval_note := some note, approved_at := some now, started_at := some now, status := .running }

def completed_row (run : IntelligenceRun) (advice : IntelligenceAdvice) (result metadata : Text) (now : Nat) : IntelligenceRun :=
  { run with
    output := some advice
    result_sha256 := some result
    metadata_sha256 := some metadata
    status := .completed
    completed_at := some now }

def failed_row (run : IntelligenceRun) (error : Text) (now : Nat) : IntelligenceRun :=
  { run with status := .failed, error := some error, completed_at := some now }

/-- `recover_interrupted_runs` -/
def recovered_row (run : IntelligenceRun) (now : Nat) : IntelligenceRun :=
  if run.status = .running then failed_row run "Interrupted by a RedDock restart".toList now else run

/-- Where an exception takes a call: to the handlers, or out of it. -/
def raised_from (raised : Raised) : Phase → Option Phase
  | .idle | .finished => none
  | .refreshed _ _ | .asking _ | .advised _ => some (.failing raised.message)
  | _ => some .finished

section
variable (library : Library)

/-- One act of a call, absent when it stands elsewhere or a lock is held. -/
def move (w : World) (number : Nat) : Phase → Act → Option Left
  | .idle, .call dockyard_id note =>
    some { record := w.claim.record, lock := w.claim.lock, phase := .called ⟨dockyard_id, note, w.prompt_version⟩ }
  | .called call, .authorize admitted =>
    some { record := w.claim.record, lock := w.claim.lock, phase := if admitted then .authorized call else .finished }
  | .authorized call, .read =>
    some {
      record := w.claim.record
      lock := w.claim.lock
      phase := if w.claim.record.dockyard_id = call.dockyard_id ∧ w.claim.record.status = .pending_approval ∧
          w.claim.record.prompt_version = call.prompt_version then .read call w.claim.record
        else .finished }
  | .read call row, .verify =>
    match verify_retained_packet library row w.retained with
    | .error _ => some { record := w.claim.record, lock := w.claim.lock, phase := .finished }
    | .ok retained =>
      some { record := w.claim.record, lock := w.claim.lock, phase := .verified call row, events := [.verified number retained] }
  | .verified call row, .provider =>
    some {
      record := w.claim.record
      lock := w.claim.lock
      phase := match w.provider with
        | none => .finished
        | some provider => if provider_identity provider = row.provider_identity then .matched call provider else .finished }
  | .matched call provider, .claim now =>
    if w.claim.lock = none then
      if w.claim.record.status = .pending_approval ∧ w.claim.record.prompt_version = call.prompt_version then
        some { record := w.claim.record, lock := some number, phase := .updated call provider now }
      else some { record := w.claim.record, lock := w.claim.lock, phase := .beaten }
    else none
  | .beaten, .rollback => some { record := w.claim.record, lock := w.claim.lock, phase := .finished }
  | .updated call provider now, .authorize admitted =>
    if admitted then some { record := w.claim.record, lock := w.claim.lock, phase := .admission call provider now }
    else some { record := w.claim.record, lock := none, phase := .finished }
  | .admission call provider now, .commit =>
    some { record := claim_row w.claim.record call.note now, lock := none, phase := .admitted call provider, events := [.claimed number] }
  | .admitted call provider, .refresh =>
    some { record := w.claim.record, lock := w.claim.lock, phase := .refreshed call provider }
  | .refreshed call provider, .analyze =>
    some {
      record := w.claim.record
      lock := w.claim.lock
      phase := .asking w.claim.record.input
      events := [.disclosed number provider call.prompt_version w.claim.record.input] }
  | .asking packet, .answer raw =>
    some {
      record := w.claim.record
      lock := w.claim.lock
      phase := match model_validate library raw with
        | none => .failing ((library.explain raw).take 500)
        | some advice => match validate_advice advice packet with
          | .error message => .failing (message.take 500)
          | .ok _ => .advised advice }
  | .advised advice, .write result metadata =>
    some { record := w.claim.record, lock := w.claim.lock, phase := .written advice result metadata }
  | .written advice result metadata, .complete now =>
    some { record := completed_row w.claim.record advice result metadata now, lock := w.claim.lock, phase := .finished }
  | .failing error, .fail now => some { record := failed_row w.claim.record error now, lock := w.claim.lock, phase := .finished }
  | .updated _ _ _, .raise _ | .admission _ _ _, .raise _ => some { record := w.claim.record, lock := none, phase := .finished }
  | phase, .raise raised => (raised_from raised phase).map fun phase => { record := w.claim.record, lock := w.claim.lock, phase := phase }
  | _, _ => none

/-- Calls after a restart. -/
def ended (calls : Nat → Phase) (number : Nat) : Phase :=
  match calls number with
  | .idle => .idle
  | _ => .finished

/-- One action of the world. -/
def step (w : World) : Action → Option World
  | .configure provider => some { w with provider := provider }
  | .retain bytes => some { w with retained := bytes }
  | .act number act => (move library w number (w.claim.parties number) act).map fun left => { w with claim := w.claim.after number left }
  | .restart now prompt_version =>
    some { w with
      claim := ⟨recovered_row w.claim.record now, none, ended w.claim.parties, w.claim.events⟩
      prompt_version := prompt_version }

end
end RedDock.Intelligence
