import RedDock.Intelligence
import RedDock.Fallible

/-!
# An intelligence run discloses one packet

However a run is approved, its provider is sent at most one request, with the
packet the run was created over and under what was recorded then; and advice is
kept only where the packet backs it.
-/
set_option autoImplicit false
namespace RedDock.Disclosures
open Text Intelligence Claims Fallible
open Intelligence (World Left step Event)

/-! ### Advice -/

/-- Every finding that is advised on occurs once, and the packet has it, with
    the evidence that is cited. -/
def Grounded (advice : IntelligenceAdvice) (packet : Packet) : Prop :=
  (advice.priorities.map PriorityAdvice.finding_id).Nodup ∧ ∀ priority ∈ advice.priorities, ∃ finding ∈ packet.findings,
    finding.id = priority.finding_id ∧ ∀ digest ∈ priority.evidence_sha256, digest ∈ finding.evidence_sha256

theorem check_priority_ok {packet : Packet} {seen : List Int} {priority : PriorityAdvice} (checked : check_priority packet seen priority = .ok ()) :
    priority.finding_id ∉ seen ∧ ∃ finding ∈ packet.findings,
      finding.id = priority.finding_id ∧ ∀ digest ∈ priority.evidence_sha256, digest ∈ finding.evidence_sha256 := by
  unfold check_priority at checked
  by_cases again : priority.finding_id ∈ seen
  · rw [if_pos again] at checked
    cases checked
  rw [if_neg again] at checked
  refine ⟨again, ?_⟩
  cases known : allowed packet priority.finding_id with
  | none =>
    rw [known] at checked
    cases checked
  | some hashes =>
    rw [known] at checked
    obtain ⟨finding, found, rfl⟩ := Option.map_eq_some_iff.mp known
    by_cases cited : ∀ digest ∈ priority.evidence_sha256, digest ∈ finding.evidence_sha256
    · have named := List.find?_some found
      exact ⟨finding, List.mem_reverse.mp (List.mem_of_find?_eq_some found), of_decide_eq_true named, cited⟩
    · simp only [if_pos cited] at checked
      cases checked

theorem check_priorities_ok {packet : Packet} {seen : List Int} {priorities : List PriorityAdvice}
    (checked : check_priorities packet seen priorities = .ok ()) :
    (priorities.map PriorityAdvice.finding_id).Nodup ∧ ∀ priority ∈ priorities, priority.finding_id ∉ seen ∧ ∃ finding ∈ packet.findings,
      finding.id = priority.finding_id ∧ ∀ digest ∈ priority.evidence_sha256, digest ∈ finding.evidence_sha256 := by
  induction priorities generalizing seen with
  | nil => exact ⟨List.nodup_nil, fun _ member => (List.not_mem_nil member).elim⟩
  | cons priority priorities ih =>
    obtain ⟨_, first, rest⟩ := bind_eq_ok.mp checked
    obtain ⟨distinct, others⟩ := ih rest
    refine ⟨List.nodup_cons.mpr ⟨fun member => ?_, distinct⟩, fun other member => ?_⟩
    · obtain ⟨other, inside, same⟩ := List.mem_map.mp member
      exact (others other inside).1 (same ▸ List.mem_cons_self)
    · rcases List.mem_cons.mp member with rfl | member
      · exact check_priority_ok first
      · obtain ⟨unseen, backed⟩ := others other member
        exact ⟨fun inside => unseen (List.mem_cons_of_mem _ inside), backed⟩

theorem validate_advice_ok {advice : IntelligenceAdvice} {packet : Packet} (validated : validate_advice advice packet = .ok ()) :
    Grounded advice packet := by
  obtain ⟨_, checked, _⟩ := bind_eq_ok.mp validated
  obtain ⟨distinct, backed⟩ := check_priorities_ok checked
  exact ⟨distinct, fun priority member => (backed priority member).2⟩

/-! ### What is recorded at creation -/

/-- What a creation records for good. -/
structure Recorded where
  provider_identity : Text × Text × Text × Bool
  prompt_version : Text
  input : Packet
  input_sha256 : Text

def recorded (run : IntelligenceRun) : Recorded := ⟨run.provider_identity, run.prompt_version, run.input, run.input_sha256⟩

def standing (run : IntelligenceRun) : Standing :=
  match run.status with
  | .pending_approval => .free
  | .running => .taken
  | .completed | .failed => .closed

def stage : Phase → Stage
  | .updated _ _ _ | .admission _ _ _ => .claiming
  | .admitted _ _ | .refreshed _ _ => .owning
  | .asking _ | .advised _ | .written _ _ _ | .failing _ => .acted
  | _ => .outside

def Event.discloses : Event → Bool
  | .disclosed _ _ _ _ => true
  | _ => false

section
variable (library : Library) (created : Recorded)

/-- The packet and the retained file have the digest that was recorded, as
    checked in the call. -/
def Verified (number : Nat) (events : List Event) : Prop :=
  library.sha256 (library.document_bytes created.input.document) = created.input_sha256 ∧
    ∃ retained, .verified number retained ∈ events ∧ library.sha256 retained = created.input_sha256

/-- The call committed its claim after it verified the packet. -/
def Committed (number : Nat) (events : List Event) : Prop :=
  ∃ later earlier, events = later ++ .claimed number :: earlier ∧ Verified library created number earlier

/-- A call goes by what was recorded. -/
def Bound (call : Call) (provider : Provider) : Prop :=
  call.prompt_version = created.prompt_version ∧ provider_identity provider = created.provider_identity

def Tells (number : Nat) (phase : Phase) (events : List Event) : Prop :=
  match phase with
  | .read call row => recorded row = created ∧ call.prompt_version = created.prompt_version
  | .verified call row => (recorded row = created ∧ call.prompt_version = created.prompt_version) ∧ Verified library created number events
  | .matched call provider | .updated call provider _ | .admission call provider _ =>
    Bound created call provider ∧ Verified library created number events
  | .admitted call provider | .refreshed call provider => Bound created call provider ∧ Committed library created number events
  | .asking packet => packet = created.input
  | .advised advice | .written advice _ _ => Grounded advice created.input
  | _ => True

/-- A request is for what was recorded, by a call that claimed the run. -/
def Justified (event : Event) (earlier : List Event) : Prop :=
  ∀ number provider prompt_version packet, event = .disclosed number provider prompt_version packet →
    packet = created.input ∧ prompt_version = created.prompt_version ∧ provider_identity provider = created.provider_identity ∧
      Committed library created number earlier

variable {library created}

theorem Verified.later {number : Nat} {events : List Event} (new : List Event) (verified : Verified library created number events) :
    Verified library created number (new ++ events) := by
  obtain ⟨digest, retained, member, same⟩ := verified
  exact ⟨digest, retained, List.mem_append_right _ member, same⟩

theorem Committed.later {number : Nat} {events : List Event} (new : List Event) (committed : Committed library created number events) :
    Committed library created number (new ++ events) := by
  obtain ⟨later, earlier, rfl, verified⟩ := committed
  exact ⟨new ++ later, earlier, (List.append_assoc _ _ _).symm, verified⟩

theorem Tells.later {number : Nat} {phase : Phase} {events : List Event} (new : List Event) (tells : Tells library created number phase events) :
    Tells library created number phase (new ++ events) := by
  cases phase with
  | read call row => exact tells
  | verified call row => exact ⟨tells.1, tells.2.later new⟩
  | matched call provider => exact ⟨tells.1, tells.2.later new⟩
  | updated call provider now => exact ⟨tells.1, tells.2.later new⟩
  | admission call provider now => exact ⟨tells.1, tells.2.later new⟩
  | admitted call provider => exact ⟨tells.1, tells.2.later new⟩
  | refreshed call provider => exact ⟨tells.1, tells.2.later new⟩
  | asking packet => exact tells
  | advised advice => exact tells
  | written advice result metadata => exact tells
  | _ => trivial

variable (library created)

def kind : Kind IntelligenceRun Phase Event where
  standing := standing
  stage := stage
  acts := Event.discloses
  tells := Tells library created
  good := Justified library created
  later := Tells.later

/-- What a run keeps: what was recorded, and grounded advice where it is complete. -/
def Kept (run : IntelligenceRun) : Prop :=
  recorded run = created ∧ (run.status = .completed → ∃ advice, run.output = some advice ∧ Grounded advice created.input)

end

section
variable {library : Library} {created : Recorded} {w : World} {number : Nat}

theorem verify_ok {run : IntelligenceRun} {retained : Option Bytes} {bytes : Bytes} (verified : verify_retained_packet library run retained = .ok bytes) :
    library.sha256 (library.document_bytes run.input.document) = run.input_sha256 ∧ library.sha256 bytes = run.input_sha256 := by
  unfold verify_retained_packet at verified
  split at verified
  · cases verified
  · rename_i sound
    rw [not_or, not_not] at sound
    split at verified
    · cases verified
    · split at verified
      · cases verified
      · rename_i same
        cases verified
        exact ⟨sound.1, not_not.mp same⟩

/-- An act of a call, and what it keeps of the run. -/
theorem move_claims {act : Act} {left : Left} (inv : Inv (kind library created) w.claim) (kept : Kept created w.claim.record)
    (moved : move library w number (w.claim.parties number) act = some left) :
    Step (kind library created) w.claim (w.claim.after number left) ∧ Kept created left.record := by
  have told : Tells library created number (w.claim.parties number) w.claim.events := inv.told number
  have stands := inv.stands number
  have outside : ∀ {phase phase' : Phase}, w.claim.parties number = phase → stage phase = .outside → stage phase' = .outside →
      (Tells library created number phase w.claim.events → Tells library created number phase' w.claim.events) →
      Step (kind library created) w.claim (w.claim.after number ⟨w.claim.record, w.claim.lock, phase', []⟩) ∧ Kept created w.claim.record := by
    intro phase phase' here before after tells
    subst here
    exact ⟨.move (.outside before after rfl) tells, kept⟩
  cases here : w.claim.parties number with
  | idle =>
    rw [here] at moved
    cases act with
    | call dockyard_id note =>
      cases moved
      exact outside here rfl rfl fun _ => trivial
    | _ => cases moved
  | called call =>
    rw [here] at moved
    cases act with
    | authorize admitted =>
      cases moved
      cases admitted with
      | true => exact outside here rfl rfl fun _ => trivial
      | false => exact outside here rfl rfl fun _ => trivial
    | raise raised =>
      cases moved
      exact outside here rfl rfl fun _ => trivial
    | _ => cases moved
  | authorized call =>
    rw [here] at moved
    cases act with
    | read =>
      cases moved
      by_cases pending : w.claim.record.dockyard_id = call.dockyard_id ∧ w.claim.record.status = .pending_approval ∧
          w.claim.record.prompt_version = call.prompt_version
      · rw [if_pos pending]
        refine outside here rfl rfl fun _ => ⟨kept.1, ?_⟩
        rw [← pending.2.2, ← kept.1]
        rfl
      · rw [if_neg pending]
        exact outside here rfl rfl fun _ => trivial
    | raise raised =>
      cases moved
      exact outside here rfl rfl fun _ => trivial
    | _ => cases moved
  | read call row =>
    rw [here] at moved told
    cases act with
    | verify =>
      simp only [move] at moved
      cases verified : verify_retained_packet library row w.retained with
      | error message =>
        rw [verified] at moved
        cases moved
        exact outside here rfl rfl fun _ => trivial
      | ok bytes =>
        rw [verified] at moved
        cases moved
        obtain ⟨own, file⟩ := verify_ok verified
        refine ⟨.move (.outside ?_ rfl rfl) fun _ => ⟨told, ?_, bytes, List.mem_cons_self, ?_⟩, kept⟩
        · rw [here]
          rfl
        · rw [← told.1]
          exact own
        · rw [← told.1]
          exact file
    | raise raised =>
      cases moved
      exact outside here rfl rfl fun _ => trivial
    | _ => cases moved
  | verified call row =>
    rw [here] at moved told
    cases act with
    | provider =>
      cases moved
      cases w.provider with
      | none => exact outside here rfl rfl fun _ => trivial
      | some provider =>
        by_cases same : provider_identity provider = row.provider_identity
        · simp only [if_pos same]
          refine outside here rfl rfl fun _ => ⟨⟨told.1.2, ?_⟩, told.2⟩
          rw [same, ← told.1.1]
          rfl
        · simp only [if_neg same]
          exact outside here rfl rfl fun _ => trivial
    | raise raised =>
      cases moved
      exact outside here rfl rfl fun _ => trivial
    | _ => cases moved
  | matched call provider =>
    rw [here] at moved told
    cases act with
    | claim now =>
      simp only [move] at moved
      by_cases unlocked : w.claim.lock = none
      · rw [if_pos unlocked] at moved
        by_cases free : w.claim.record.status = .pending_approval ∧ w.claim.record.prompt_version = call.prompt_version
        · rw [if_pos free] at moved
          cases moved
          refine ⟨.move (.lock ?_ rfl unlocked ?_ (rfl : Quiet _ [])) fun _ => told, kept⟩
          · rw [here]
            rfl
          · show standing w.claim.record = .free
            rw [standing, free.1]
        · rw [if_neg free] at moved
          cases moved
          exact outside here rfl rfl fun _ => trivial
      · rw [if_neg unlocked] at moved
        cases moved
    | raise raised =>
      cases moved
      exact outside here rfl rfl fun _ => trivial
    | _ => cases moved
  | beaten =>
    rw [here] at moved
    cases act with
    | rollback =>
      cases moved
      exact outside here rfl rfl fun _ => trivial
    | raise raised =>
      cases moved
      exact outside here rfl rfl fun _ => trivial
    | _ => cases moved
  | updated call provider now =>
    rw [here] at moved told
    have claiming : stage (w.claim.parties number) = .claiming := by
      rw [here]
      rfl
    cases act with
    | authorize admitted =>
      cases admitted with
      | true =>
        cases moved
        exact ⟨.move (.hold claiming rfl) fun _ => told, kept⟩
      | false =>
        cases moved
        exact ⟨.move (.release claiming rfl) fun _ => trivial, kept⟩
    | raise raised =>
      cases moved
      exact ⟨.move (.release claiming rfl) fun _ => trivial, kept⟩
    | _ => cases moved
  | admission call provider now =>
    rw [here] at moved told
    have claiming : stage (w.claim.parties number) = .claiming := by
      rw [here]
      rfl
    cases act with
    | commit =>
      cases moved
      exact ⟨.move (.take claiming rfl rfl rfl) fun _ => ⟨told.1, [], w.claim.events, rfl, told.2⟩, kept.1, nofun⟩
    | raise raised =>
      cases moved
      exact ⟨.move (.release claiming rfl) fun _ => trivial, kept⟩
    | _ => cases moved
  | admitted call provider =>
    rw [here] at moved told
    have owning : stage (w.claim.parties number) = .owning := by
      rw [here]
      rfl
    cases act with
    | refresh =>
      cases moved
      exact ⟨.move (.own owning (Or.inl rfl)) fun _ => told, kept⟩
    | raise raised =>
      cases moved
      refine ⟨.move (.leave (Or.inl owning) rfl ?_) fun _ => trivial, kept⟩
      rw [(stands.owning owning).1]
      exact nofun
    | _ => cases moved
  | refreshed call provider =>
    rw [here] at moved told
    have owning : stage (w.claim.parties number) = .owning := by
      rw [here]
      rfl
    cases act with
    | analyze =>
      cases moved
      have packet : w.claim.record.input = created.input := congrArg Recorded.input kept.1
      refine ⟨.move (.act owning rfl rfl fun _ => ?_) fun _ => packet, kept⟩
      rintro _ _ _ _ ⟨⟩
      exact ⟨packet, told.1.1, told.1.2, told.2⟩
    | raise raised =>
      cases moved
      exact ⟨.move (.own owning (Or.inr rfl)) fun _ => trivial, kept⟩
    | _ => cases moved
  | asking packet =>
    rw [here] at moved told
    have acted : stage (w.claim.parties number) = .acted := by
      rw [here]
      rfl
    have taken : standing w.claim.record = .taken := stands.acted acted
    cases act with
    | answer raw =>
      cases moved
      cases read : model_validate library raw with
      | none =>
        exact ⟨.move (.work acted rfl taken) fun _ => trivial, kept⟩
      | some advice =>
        cases checked : validate_advice advice packet with
        | error message =>
          simp only [checked]
          exact ⟨.move (.work acted rfl taken) fun _ => trivial, kept⟩
        | ok _ =>
          simp only [checked]
          have own : packet = created.input := told
          have grounded : Grounded advice created.input := own ▸ validate_advice_ok checked
          exact ⟨.move (.work acted rfl taken) fun _ => grounded, kept⟩
    | raise raised =>
      cases moved
      exact ⟨.move (.work acted rfl taken) fun _ => trivial, kept⟩
    | _ => cases moved
  | advised advice =>
    rw [here] at moved told
    have acted : stage (w.claim.parties number) = .acted := by
      rw [here]
      rfl
    have taken : standing w.claim.record = .taken := stands.acted acted
    cases act with
    | write result metadata =>
      cases moved
      exact ⟨.move (.work acted rfl taken) fun _ => told, kept⟩
    | raise raised =>
      cases moved
      exact ⟨.move (.work acted rfl taken) fun _ => trivial, kept⟩
    | _ => cases moved
  | written advice result metadata =>
    rw [here] at moved told
    have acted : stage (w.claim.parties number) = .acted := by
      rw [here]
      rfl
    cases act with
    | complete now =>
      cases moved
      exact ⟨.move (.leave (Or.inr acted) rfl nofun) fun _ => trivial, kept.1, fun _ => ⟨advice, rfl, told⟩⟩
    | raise raised =>
      cases moved
      refine ⟨.move (.leave (Or.inr acted) rfl ?_) fun _ => trivial, kept⟩
      rw [stands.acted acted]
      exact nofun
    | _ => cases moved
  | failing error =>
    rw [here] at moved
    have acted : stage (w.claim.parties number) = .acted := by
      rw [here]
      rfl
    cases act with
    | fail now =>
      cases moved
      exact ⟨.move (.leave (Or.inr acted) rfl nofun) fun _ => trivial, kept.1, nofun⟩
    | raise raised =>
      cases moved
      refine ⟨.move (.leave (Or.inr acted) rfl ?_) fun _ => trivial, kept⟩
      rw [stands.acted acted]
      exact nofun
    | _ => cases moved
  | finished =>
    rw [here] at moved
    cases act with
    | _ => cases moved

theorem restart_claims (w : World) (now : Nat) (kept : Kept created w.claim.record) :
    Step (kind library created) w.claim ⟨recovered_row w.claim.record now, none, ended w.claim.parties, w.claim.events⟩ ∧
      Kept created (recovered_row w.claim.record now) := by
  unfold recovered_row
  refine ⟨.restart (fun number => ?_) (fun number _ => ?_) ?_, ?_⟩
  · show stage (ended w.claim.parties number) = .outside
    unfold ended
    split
    · rfl
    · rfl
  · show Tells library created number (ended w.claim.parties number) w.claim.events
    unfold ended
    split
    · trivial
    · trivial
  · by_cases running : w.claim.record.status = .running
    · rw [if_pos running]
      refine Or.inr ⟨?_, rfl⟩
      show standing w.claim.record = .taken
      rw [standing, running]
    · rw [if_neg running]
      exact Or.inl rfl
  · by_cases running : w.claim.record.status = .running
    · rw [if_pos running]
      exact ⟨kept.1, nofun⟩
    · rw [if_neg running]
      exact kept

theorem step_claims (w : World) (action : Action) (w' : World) (held : Inv (kind library created) w.claim ∧ Kept created w.claim.record)
    (stepped : step library w action = some w') : Step (kind library created) w.claim w'.claim ∧ Kept created w'.claim.record := by
  cases action with
  | configure provider =>
    cases stepped
    exact ⟨.elsewhere, held.2⟩
  | retain bytes =>
    cases stepped
    exact ⟨.elsewhere, held.2⟩
  | act number act =>
    obtain ⟨left, moved, rfl⟩ := Option.map_eq_some_iff.mp stepped
    exact move_claims held.1 held.2 moved
  | restart now prompt_version =>
    cases stepped
    exact restart_claims w now held.2

end

/-- A run as it was created, that no call has touched. -/
structure Begins (library : Library) (creation : Creation) (w : World) : Prop where
  created : ∃ retained, create_run library creation = .ok (w.claim.record, retained)
  idle : ∀ number, w.claim.parties number = .idle
  silent : w.claim.events = []

theorem create_run_pending {library : Library} {creation : Creation} {run : IntelligenceRun} {retained : Bytes}
    (created : create_run library creation = .ok (run, retained)) : run.status = .pending_approval := by
  unfold create_run at created
  split at created
  · cases created
  · split at created
    · cases created
    · split at created
      · cases created
      · split at created
        · cases created
        · split at created
          · cases created
          · split at created
            · cases created
            · cases created
              rfl

theorem create_run_ok {library : Library} {creation : Creation} {provider : Provider} {packet : Packet} (configured : creation.provider = some provider)
    (idle : creation.active = 0) (room : ¬creation.max_runs ≤ creation.count) (correlated : creation.packet = some packet)
    (filled : packet.findings ≠ []) (fits : ¬creation.max_input_bytes < (library.document_bytes packet.document).length) :
    create_run library creation = .ok (created_row library creation provider packet, library.document_bytes packet.document) := by
  unfold create_run
  rw [configured, correlated]
  simp only
  rw [if_neg (not_not.mpr idle), if_neg room, if_neg filled, if_neg fits]

theorem Begins.held {library : Library} {creation : Creation} {w : World} (begins : Begins library creation w) :
    Inv (kind library (recorded w.claim.record)) w.claim ∧ Kept (recorded w.claim.record) w.claim.record := by
  refine ⟨Inv.begins (fun number => ?_) begins.silent (fun number => ?_), rfl, fun completed => ?_⟩
  · rw [begins.idle]
    rfl
  · rw [begins.idle]
    trivial
  · obtain ⟨retained, created⟩ := begins.created
    rw [create_run_pending created] at completed
    cases completed

/-- In every run of any number of approvals, changes of the configuration and
    the retained file, and restarts, the provider is sent at most one request:
    the packet of the creation, to the provider and under the prompt version
    recorded then, by a call that verified it and claimed the run; and advice is
    kept only where it is grounded in the packet. -/
theorem one_packet_disclosed (library : Library) (creation : Creation) (start w : World) (actions : List Action)
    (begins : Begins library creation start) (ran : Runs.run (step library) start actions = some w) :
    w.claim.events.countP Event.discloses ≤ 1 ∧
    (∀ later number provider prompt_version packet earlier,
      w.claim.events = later ++ .disclosed number provider prompt_version packet :: earlier →
        packet = start.claim.record.input ∧ prompt_version = start.claim.record.prompt_version ∧
          provider_identity provider = start.claim.record.provider_identity ∧
            Committed library (recorded start.claim.record) number earlier) ∧
    recorded w.claim.record = recorded start.claim.record ∧
    (w.claim.record.status = .completed → ∃ advice, w.claim.record.output = some advice ∧ Grounded advice start.claim.record.input) := by
  have held : Inv (kind library (recorded start.claim.record)) w.claim ∧ Kept (recorded start.claim.record) w.claim.record :=
    inv_run step_claims begins.held ran
  refine ⟨held.1.once, ?_, held.2⟩
  intro later number provider prompt_version packet earlier split
  exact held.1.justified later _ earlier split rfl number provider prompt_version packet rfl

/-! ### One approval -/

def hsts_packet : Packet where
  dockyard_id := 1
  correlation_run_id := 1
  findings := [{
    id := 7
    rule_id := "hsts-not-set".toList
    title := "HSTS".toList
    description := "Not set".toList
    severity := "low".toList
    confidence := "high".toList
    status := "open".toList
    asset_id := some 1
    evidence_sha256 := [List.replicate 64 'a'] }]

/-- The lines of the serialized packet. -/
def hsts_lines : List Text := [
  "\x7b",
  "  \"constraints\": [",
  "    \"Stored evidence only; do not infer target contact or exploitability.\",",
  "    \"Output cannot change findings, scope, tools, or validation state.\"",
  "  ],",
  "  \"correlation_run_id\": 1,",
  "  \"dockyard_id\": 1,",
  "  \"findings\": [",
  "    \x7b",
  "      \"asset_id\": 1,",
  "      \"confidence\": \"high\",",
  "      \"description\": \"Not set\",",
  "      \"evidence_sha256\": [",
  "        \"aaaaaaaaaaaaaaaaaaaaaaaaaaaaaaaaaaaaaaaaaaaaaaaaaaaaaaaaaaaaaaaa\"",
  "      ],",
  "      \"id\": 7,",
  "      \"remediation\": null,",
  "      \"rule_id\": \"hsts-not-set\",",
  "      \"service_id\": null,",
  "      \"severity\": \"low\",",
  "      \"status\": \"open\",",
  "      \"title\": \"HSTS\"",
  "    \x7d",
  "  ],",
  "  \"purpose\": \"advice-only remediation and prioritization\",",
  "  \"schema\": \"reddock.intelligence-input/1\"",
  "\x7d"].map String.toList

def hsts_bytes : Bytes := (['\n'].intercalate hsts_lines).map fun c => UInt8.ofNat c.toNat

def hsts_library : Library where
  document_bytes _ := hsts_bytes
  sha256 bytes := if bytes = hsts_bytes then "17ac9587ec5c55e1fc07e4f31ffde0ee0b438cfa0fecedb7811554846882bd23".toList else []
  as_int
    | .int i => some i
    | _ => none
  explain _ := []

def local_provider : Provider where
  id := "openai-compatible".toList
  model := "llama".toList
  base_url := "http://ollama:11434/v1".toList
  sends_data_external := false

def hsts_creation : Creation where
  dockyard_id := 1
  provider := some local_provider
  prompt_version := "1".toList
  active := 0
  count := 0
  max_runs := 100
  max_input_bytes := 65536
  packet := some hsts_packet
  evidence_path := "1/intelligence/1".toList

def hsts_run : IntelligenceRun := created_row hsts_library hsts_creation local_provider hsts_packet

def pendingWorld : World where
  claim := { record := hsts_run, parties := fun _ => .idle }
  retained := some hsts_bytes
  provider := some local_provider
  prompt_version := "1".toList

theorem pendingWorld_begins : Begins hsts_library hsts_creation pendingWorld := by
  refine ⟨⟨hsts_bytes, ?_⟩, fun _ => rfl, rfl⟩
  have filled : hsts_packet.findings ≠ [] := List.cons_ne_nil _ _
  have fits : ¬hsts_creation.max_input_bytes < (hsts_library.document_bytes hsts_packet.document).length := by decide +kernel
  exact create_run_ok rfl rfl (by decide) rfl filled fits

def hsts_advice : Detection.Json :=
  .object [("summary".toList, .str "Set HSTS".toList), ("priorities".toList, .list [.object [("finding_id".toList, .int 7),
    ("priority".toList, .str "low".toList), ("rationale".toList, .str "Plain".toList), ("remediation_steps".toList, .list [.str "Set it".toList]),
    ("evidence_sha256".toList, .list [.str (List.replicate 64 'a')])]])]

/-- An approval, with a change of the configuration after its claim. -/
def approving : List Action :=
  [.act 0 (.call 1 "Send it".toList), .act 0 (.authorize true), .act 0 .read, .act 0 .verify, .act 0 .provider, .act 0 (.claim 5),
    .act 0 (.authorize true), .act 0 .commit, .configure none, .act 0 .refresh, .act 0 .analyze, .retain none, .act 0 (.answer hsts_advice),
    .act 0 (.write [] []), .act 0 (.complete 9)]

theorem one_packet_disclosed_hsts : ∃ w, Runs.run (step hsts_library) pendingWorld approving = some w ∧
    w.claim.events.countP Event.discloses ≤ 1 ∧ ∃ advice, w.claim.record.output = some advice ∧ Grounded advice hsts_packet := by
  have reached : (Runs.run (step hsts_library) pendingWorld approving).map (fun w => w.claim.record.status) = some .completed := by
    decide +kernel
  obtain ⟨w, ran, completed⟩ := Option.map_eq_some_iff.mp reached
  obtain ⟨once, _, _, grounded⟩ := one_packet_disclosed hsts_library hsts_creation pendingWorld w approving pendingWorld_begins ran
  exact ⟨w, ran, once, grounded completed⟩

end RedDock.Disclosures
