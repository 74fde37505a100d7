import RedDock.FindingLifecycle
import RedDock.OutputChecks
import RedDock.Noninterference

/-!
# One detector among others

What a detector returns is its own affair as long as every check that is reached
can read it: the run records the detector as failed or completed, and what is
stored and resolved for all others is what it would be without it.
-/
set_option autoImplicit false
namespace RedDock.DetectorIsolation
open Text Detection Findings Fallible Checks OutputChecks Noninterference Runs

variable {runtime : Runtime} {run : DetectionRun}

/-! ### The writes of a run -/

/-- A write of a run: a finding under its fingerprint, or what a detector no
    longer reproduces. -/
inductive Write
  | upsert (fingerprint : Text) (conclusion : Conclusion)
  | resolve (detector : Detector) (reproduced : List Text)

def Write.apply (run : DetectionRun) (rows : List Finding) : Write → List Finding
  | upsert fingerprint conclusion => upsert_finding run.id run.context.generated_at fingerprint conclusion rows
  | resolve detector reproduced =>
    match detector.unevaluated run.context with
    | .error _ => rows
    | .ok unevaluated => resolve_absent detector.id reproduced unevaluated (run.resolved_at detector.id) rows

/-- The detector on whose behalf rows are written. -/
def Write.owner : Write → Text
  | upsert _ conclusion => conclusion.detector
  | resolve detector _ => detector.id

/-- A fingerprint that a detector computes. -/
def FingerprintOf (runtime : Runtime) (detector_id fingerprint : Text) : Prop :=
  '\x1f' ∉ detector_id ∧ ∃ rule_id asset service scope_key,
    fingerprint = runtime.sha256 (fingerprint_text detector_id rule_id asset service scope_key)

/-- The write of one accepted finding. -/
def finding_upsert (runtime : Runtime) (run : DetectionRun) (detector : Detector) (detected : DetectedFinding) :
    Except Raised (Text × Conclusion) := do
  let fingerprint ← identity runtime detector.id detected run.context
  let asset ← run.context.asset detected.asset_id
  let service ← run.context.service detected.service_id
  let conclusion ← conclude detector detected (asset.map AssetView.id) (service.map ServiceView.id)
  if run.accepts detected then return (fingerprint, conclusion) else throw .other

theorem store_finding_eq (detector : Detector) (rows : List Finding) (detected : DetectedFinding) :
    store_finding runtime run detector rows detected = (finding_upsert runtime run detector detected).map fun upsert =>
      ((Write.upsert upsert.1 upsert.2).apply run rows, upsert.1) := by
  unfold store_finding finding_upsert
  cases identity runtime detector.id detected run.context with
  | error raised => rfl
  | ok fingerprint =>
    cases run.context.asset detected.asset_id with
    | error raised => rfl
    | ok asset =>
      cases run.context.service detected.service_id with
      | error raised => rfl
      | ok service =>
        simp only [ok_bind]
        cases conclude detector detected (asset.map AssetView.id) (service.map ServiceView.id) with
        | error raised => rfl
        | ok conclusion => by_cases accepted : run.accepts detected = true <;> simp [accepted, Write.apply, Except.map]

/-- What is stored for a detector that succeeded. -/
abbrev Entry := Detector × List (Text × Conclusion)

def Entry.upserts (entry : Entry) : List Write := entry.2.map fun upsert => .upsert upsert.1 upsert.2
def Entry.resolve (entry : Entry) : Write := .resolve entry.1 (entry.2.map (·.1))

def writes (entries : List Entry) : List Write := entries.flatMap Entry.upserts ++ entries.map Entry.resolve

/-- The entries of the detectors that succeeded. -/
inductive Stored (runtime : Runtime) (run : DetectionRun) : List DetectorOutcome → List Entry → Prop
  | nil : Stored runtime run [] []
  | failed {outcome : DetectorOutcome} {outcomes : List DetectorOutcome} {entries : List Entry} {error : Text} :
    outcome.result = .error error → Stored runtime run outcomes entries → Stored runtime run (outcome :: outcomes) entries
  | completed {outcome : DetectorOutcome} {outcomes : List DetectorOutcome} {entries : List Entry}
    {findings : List DetectedFinding} {upserts : List (Text × Conclusion)} :
    outcome.result = .ok findings →
    List.Forall₂ (fun detected upsert => finding_upsert runtime run outcome.detector detected = .ok upsert) findings upserts →
    Stored runtime run outcomes entries → Stored runtime run (outcome :: outcomes) ((outcome.detector, upserts) :: entries)

theorem store_findings_iff {detector : Detector} {findings : List DetectedFinding} {rows rows' : List Finding}
    {fingerprints : List Text} : store_findings runtime run detector rows findings = .ok (rows', fingerprints) ↔
      ∃ upserts, List.Forall₂ (fun detected upsert => finding_upsert runtime run detector detected = .ok upsert) findings upserts ∧
        rows' = (Entry.upserts (detector, upserts)).foldl (Write.apply run) rows ∧ fingerprints = upserts.map (·.1) := by
  induction findings generalizing rows fingerprints with
  | nil =>
    constructor
    · intro stored
      cases stored
      exact ⟨[], .nil, rfl, rfl⟩
    · rintro ⟨_, ⟨⟩, rfl, rfl⟩
      rfl
  | cons detected findings ih =>
    unfold store_findings
    rw [store_finding_eq]
    constructor
    · intro stored
      obtain ⟨⟨rows₁, fingerprint⟩, first, stored⟩ := bind_eq_ok.mp stored
      obtain ⟨⟨rows₂, rest⟩, second, stored⟩ := bind_eq_ok.mp stored
      cases stored
      obtain ⟨upsert, here, is⟩ := map_eq_ok.mp first
      cases is
      obtain ⟨upserts, later, rfl, rfl⟩ := ih.mp second
      exact ⟨upsert :: upserts, .cons here later, rfl, rfl⟩
    · rintro ⟨_, here, rfl, rfl⟩
      cases here with
      | cons here later =>
        rw [here]
        have rest := ih.mpr ⟨_, later, rfl, rfl⟩
        simp only [Except.map, ok_bind]
        rw [rest]
        rfl

/-- `_store` succeeds with the writes of its entries. -/
theorem store_iff {outcomes : List DetectorOutcome} {rows rows' : List Finding} {reproduced : Reproduced} :
    store runtime run rows outcomes = .ok (rows', reproduced) ↔ ∃ entries, Stored runtime run outcomes entries ∧
      rows' = (entries.flatMap Entry.upserts).foldl (Write.apply run) rows ∧
        reproduced = entries.map fun entry => (entry.1, entry.2.map (·.1)) := by
  induction outcomes generalizing rows reproduced with
  | nil =>
    constructor
    · intro stored
      cases stored
      exact ⟨[], .nil, rfl, rfl⟩
    · rintro ⟨_, ⟨⟩, rfl, rfl⟩
      rfl
  | cons outcome outcomes ih =>
    unfold store
    cases result : outcome.result with
    | error error =>
      simp only
      rw [ih]
      constructor
      · rintro ⟨entries, stored, is⟩
        exact ⟨entries, .failed result stored, is⟩
      · rintro ⟨entries, stored, is⟩
        cases stored with
        | failed _ stored => exact ⟨entries, stored, is⟩
        | completed other => simp [result] at other
    | ok findings =>
      simp only
      constructor
      · intro stored
        obtain ⟨⟨rows₁, fingerprints⟩, first, stored⟩ := bind_eq_ok.mp stored
        obtain ⟨⟨rows₂, rest⟩, second, stored⟩ := bind_eq_ok.mp stored
        cases stored
        obtain ⟨upserts, here, rfl, rfl⟩ := store_findings_iff.mp first
        obtain ⟨entries, later, rfl, rfl⟩ := ih.mp second
        exact ⟨(outcome.detector, upserts) :: entries, .completed result here later,
          by rw [List.flatMap_cons, List.foldl_append], rfl⟩
      · rintro ⟨entries, stored, rfl, rfl⟩
        cases stored with
        | failed other => simp [result] at other
        | completed is here later =>
          rw [result, Except.ok.injEq] at is
          subst is
          rw [store_findings_iff.mpr ⟨_, here, rfl, rfl⟩, ok_bind]
          simp only
          rw [ih.mpr ⟨_, later, by rw [List.flatMap_cons, List.foldl_append], rfl⟩]
          rfl

theorem resolve_eq (entries : List Entry) (rows : List Finding) :
    resolve run (entries.map fun entry => (entry.1, entry.2.map (·.1))) rows =
      (entries.map Entry.resolve).foldl (Write.apply run) rows := by
  rw [resolve, List.foldl_map, List.foldl_map]
  rfl

/-- A run commits when every detector is recorded and every entry stored. -/
theorem perform_iff {rows final : List Finding} {outcomes : List DetectorOutcome} :
    perform runtime run rows = .ok (outcomes, final) ↔ (run.detectors.map Detector.id).Nodup ∧ run.publishes = true ∧
      List.Forall₂ (fun detector outcome => run_detector runtime run.context detector = .ok outcome) run.detectors outcomes ∧
        ∃ entries, Stored runtime run outcomes entries ∧ final = (writes entries).foldl (Write.apply run) rows := by
  unfold perform
  by_cases distinct : (run.detectors.map Detector.id).Nodup
  · simp only [distinct, decide_true, Bool.not_true, Bool.false_eq_true, if_false, true_and]
    rw [← mapM_ok]
    constructor
    · intro performed
      obtain ⟨_, ran, performed⟩ := bind_eq_ok.mp performed
      obtain ⟨⟨stored, reproduced⟩, storing, performed⟩ := bind_eq_ok.mp performed
      split at performed
      · rename_i published
        cases performed
        obtain ⟨entries, here, rfl, rfl⟩ := store_iff.mp storing
        exact ⟨published, ran, entries, here, by rw [resolve_eq, writes, List.foldl_append]⟩
      · simp at performed
    · rintro ⟨published, ran, entries, here, rfl⟩
      rw [ran, ok_bind, store_iff.mpr ⟨entries, here, rfl, rfl⟩, ok_bind]
      simp only [published, if_true]
      rw [resolve_eq, writes, List.foldl_append]
      rfl
  · simp [distinct]

/-! ### Fingerprints -/

/-- Rows under a fingerprint of their own detector. -/
def Fingerprinted (runtime : Runtime) (rows : List Finding) : Prop := ∀ row ∈ rows, FingerprintOf runtime row.detector row.fingerprint

/-- A write under a fingerprint of the detector it is for. -/
def Write.Signed (runtime : Runtime) : Write → Prop
  | upsert fingerprint conclusion => FingerprintOf runtime conclusion.detector fingerprint
  | resolve _ _ => True

/-- Two detectors with one fingerprint are one. -/
theorem FingerprintOf.same (collision_free : Function.Injective runtime.sha256) {first second fingerprint : Text}
    (here : FingerprintOf runtime first fingerprint) (there : FingerprintOf runtime second fingerprint) : first = second := by
  obtain ⟨free, rule_id, asset, service, scope_key, is⟩ := here
  obtain ⟨free', rule_id', asset', service', scope_key', is'⟩ := there
  have texts := collision_free (is.symm.trans is')
  simp only [fingerprint_text, join] at texts
  exact (append_sep_inj free free' (List.cons.inj (List.append_cancel_left texts)).2).1

/-! ### What the others see -/

/-- The rows of every detector but one. -/
def others (detector_id : Text) (rows : List Finding) : List Finding := rows.filter fun row => row.detector ≠ detector_id

theorem others_cons (detector_id : Text) (row : Finding) (rows : List Finding) : others detector_id (row :: rows) =
    if row.detector = detector_id then others detector_id rows else row :: others detector_id rows := by
  by_cases own : row.detector = detector_id <;> simp [others, own]

section Upsert
variable {run_id seen_at : Nat} {fingerprint : Text} {conclusion : Conclusion} {rows : List Finding}

theorem upsert_fingerprinted (rows_signed : Fingerprinted runtime rows)
    (signed : FingerprintOf runtime conclusion.detector fingerprint) :
    Fingerprinted runtime (upsert_finding run_id seen_at fingerprint conclusion rows) := by
  intro row member
  rcases FindingLifecycle.mem_upsert member with old | ⟨stored, rfl, _⟩
  · exact rows_signed row old
  · exact signed

/-- Nobody else sees what is written under a fingerprint of one's own. -/
theorem others_own_upsert (own : ∀ row ∈ rows, row.fingerprint = fingerprint → row.detector = conclusion.detector) :
    others conclusion.detector (upsert_finding run_id seen_at fingerprint conclusion rows) = others conclusion.detector rows := by
  induction rows with
  | nil => simp [upsert_finding, others, reconciled]
  | cons row rows ih =>
    by_cases same : row.fingerprint = fingerprint
    · simp [upsert_finding, same, others, reconciled, own row (by simp) same]
    · have rest := ih fun other member => own other (List.mem_cons_of_mem _ member)
      rw [upsert_finding, if_neg same, others_cons, others_cons, rest]

/-- Everybody else sees it written to the rows they see. -/
theorem others_upsert {detector_id : Text} (other : conclusion.detector ≠ detector_id)
    (own : ∀ row ∈ rows, row.fingerprint = fingerprint → row.detector = conclusion.detector) :
    others detector_id (upsert_finding run_id seen_at fingerprint conclusion rows) =
      upsert_finding run_id seen_at fingerprint conclusion (others detector_id rows) := by
  induction rows with
  | nil => simp [upsert_finding, others, reconciled, other]
  | cons row rows ih =>
    by_cases same : row.fingerprint = fingerprint
    · have visible : row.detector ≠ detector_id := by
        rw [own row (by simp) same]
        exact other
      simp [upsert_finding, same, others, reconciled, other, visible]
    · have rest := ih fun other member => own other (List.mem_cons_of_mem _ member)
      rw [upsert_finding, if_neg same, others_cons, others_cons, rest]
      by_cases hidden : row.detector = detector_id
      · rw [if_pos hidden, if_pos hidden]
      · rw [if_neg hidden, if_neg hidden, upsert_finding, if_neg same]

end Upsert

theorem resolve_fingerprinted {detector_id : Text} {reproduced : List Text} {unevaluated : List Coverage} {resolved_at : Nat}
    {rows : List Finding} (signed : Fingerprinted runtime rows) :
    Fingerprinted runtime (resolve_absent detector_id reproduced unevaluated resolved_at rows) := by
  intro row' member
  obtain ⟨row, inside, rfl⟩ := List.mem_map.mp member
  split
  · exact signed row inside
  · exact signed row inside

theorem others_resolve (detector_id other_id : Text) (reproduced : List Text) (unevaluated : List Coverage) (resolved_at : Nat)
    (rows : List Finding) : others other_id (resolve_absent detector_id reproduced unevaluated resolved_at rows) =
      resolve_absent detector_id reproduced unevaluated resolved_at (others other_id rows) := by
  rw [others, resolve_absent, List.filter_map, resolve_absent, others]
  congr 1
  refine List.filter_congr fun row _ => ?_
  simp only [Function.comp]
  split <;> rfl

theorem others_own_resolve (detector_id : Text) (reproduced : List Text) (unevaluated : List Coverage) (resolved_at : Nat)
    (rows : List Finding) : others detector_id (resolve_absent detector_id reproduced unevaluated resolved_at rows) =
      others detector_id rows := by
  rw [others_resolve, resolve_absent]
  conv_rhs => rw [← List.map_id (others detector_id rows)]
  refine List.map_congr_left fun row member => ?_
  have other : row.detector ≠ detector_id := by simpa using (List.mem_filter.mp member).2
  simp [absent, other]

/-- What is written for one detector is nothing to the others. -/
theorem unwinds (collision_free : Function.Injective runtime.sha256) (run : DetectionRun) :
    Unwinds (Write.apply run) Write.owner (Fingerprinted runtime) (Write.Signed runtime) others where
  kept rows write signed meets := by
    cases write with
    | upsert fingerprint conclusion => exact upsert_fingerprinted signed meets
    | resolve detector reproduced =>
      simp only [Write.apply]
      split
      · exact signed
      · exact resolve_fingerprinted signed
  own rows write signed meets := by
    cases write with
    | upsert fingerprint conclusion =>
      exact others_own_upsert fun row member same => FingerprintOf.same collision_free (same ▸ signed row member) meets
    | resolve detector reproduced =>
      simp only [Write.apply, Write.owner]
      split
      · rfl
      · exact others_own_resolve _ _ _ _ _
  same rows rows' write detector_id signed signed' meets other same := by
    cases write with
    | upsert fingerprint conclusion =>
      have own : ∀ {rows : List Finding}, Fingerprinted runtime rows → ∀ row ∈ rows, row.fingerprint = fingerprint →
          row.detector = conclusion.detector := fun signed row member is =>
        FingerprintOf.same collision_free (is ▸ signed row member) meets
      simp only [Write.apply]
      rw [others_upsert other (own signed), others_upsert other (own signed'), same]
    | resolve detector reproduced =>
      simp only [Write.apply]
      split
      · exact same
      · rw [others_resolve, others_resolve, same]

/-! ### Entries and reachable rows -/

theorem finding_upsert_ok {detector : Detector} {detected : DetectedFinding} {upsert : Text × Conclusion}
    (written : finding_upsert runtime run detector detected = .ok upsert) :
    upsert.2.detector = detector.id ∧ FingerprintOf runtime detector.id upsert.1 := by
  unfold finding_upsert at written
  obtain ⟨fingerprint, identified, written⟩ := bind_eq_ok.mp written
  obtain ⟨asset, _, written⟩ := bind_eq_ok.mp written
  obtain ⟨service, _, written⟩ := bind_eq_ok.mp written
  obtain ⟨conclusion, concluded, written⟩ := bind_eq_ok.mp written
  split at written
  · cases written
    obtain ⟨_, _, concluded⟩ := bind_eq_ok.mp concluded
    obtain ⟨_, _, concluded⟩ := bind_eq_ok.mp concluded
    cases concluded
    obtain ⟨asset, _, identified⟩ := bind_eq_ok.mp identified
    obtain ⟨service, _, identified⟩ := bind_eq_ok.mp identified
    obtain ⟨rule_id, _, identified⟩ := bind_eq_ok.mp identified
    obtain ⟨scope_key, _, identified⟩ := bind_eq_ok.mp identified
    cases identified
    exact ⟨rfl, detector.separated, rule_id, asset, service, scope_key, rfl⟩
  · simp at written

theorem stored_upserts {outcomes : List DetectorOutcome} {entries : List Entry} (stored : Stored runtime run outcomes entries) :
    ∀ entry ∈ entries, ∀ upsert ∈ entry.2, upsert.2.detector = entry.1.id ∧ FingerprintOf runtime entry.1.id upsert.1 := by
  induction stored with
  | nil => simp
  | failed _ _ ih => exact ih
  | completed _ here _ ih =>
    intro entry member
    rcases List.mem_cons.mp member with rfl | later
    · intro upsert inside
      obtain ⟨detected, _, written⟩ := forall₂_right here inside
      exact finding_upsert_ok written
    · exact ih entry later

/-- Every write of a run is on behalf of the detector of its entry, and signed. -/
theorem stored_writes {outcomes : List DetectorOutcome} {entries : List Entry} (stored : Stored runtime run outcomes entries) :
    ∀ write ∈ writes entries, write.Signed runtime := by
  intro write member
  rcases List.mem_append.mp member with member | member
  · obtain ⟨entry, inside, member⟩ := List.mem_flatMap.mp member
    obtain ⟨upsert, within, rfl⟩ := List.mem_map.mp member
    obtain ⟨same, signed⟩ := stored_upserts stored entry inside upsert within
    show FingerprintOf runtime upsert.2.detector upsert.1
    rw [same]
    exact signed
  · obtain ⟨entry, _, rfl⟩ := List.mem_map.mp member
    trivial

theorem perform_fingerprinted (collision_free : Function.Injective runtime.sha256) {rows final : List Finding}
    {outcomes : List DetectorOutcome} (signed : Fingerprinted runtime rows)
    (performed : perform runtime run rows = .ok (outcomes, final)) : Fingerprinted runtime final := by
  obtain ⟨_, _, _, entries, stored, rfl⟩ := perform_iff.mp performed
  exact (unwinds collision_free run).inv_foldl signed (stored_writes stored)

theorem step_fingerprinted (collision_free : Function.Injective runtime.sha256) (rows : List Finding) (action : Action)
    (rows' : List Finding) (signed : Fingerprinted runtime rows) (stepped : step runtime rows action = some rows') :
    Fingerprinted runtime rows' := by
  cases action with
  | detect run =>
    cases stepped
    unfold execute_run
    cases performed : perform runtime run rows with
    | error raised => exact signed
    | ok result => exact perform_fingerprinted collision_free signed performed
  | decide fingerprint status note permitted =>
    simp only [step] at stepped
    split at stepped
    · cases stepped
      cases permitted with
      | false => exact signed
      | true =>
        intro row' member
        rcases FindingLifecycle.mem_set_status member with old | ⟨row, inside, rfl⟩
        · exact signed row' old
        · exact signed row inside
    · simp at stepped

/-! ### The same run without a detector -/

/-- The run without the detectors of an id. -/
def runWithout (run : DetectionRun) (detector_id : Text) : DetectionRun :=
  { run with detectors := run.detectors.filter fun detector => detector.id ≠ detector_id }

theorem Stored.filter {outcomes : List DetectorOutcome} {entries : List Entry} (stored : Stored runtime run outcomes entries)
    (detector_id : Text) : Stored runtime (runWithout run detector_id)
      (outcomes.filter fun outcome => outcome.detector.id ≠ detector_id) (entries.filter fun entry => entry.1.id ≠ detector_id) := by
  induction stored with
  | nil => exact .nil
  | @failed outcome outcomes entries error result _ ih =>
    by_cases own : outcome.detector.id = detector_id
    · simpa [own] using ih
    · simpa [own] using Stored.failed result ih
  | @completed outcome outcomes entries findings upserts result here _ ih =>
    by_cases own : outcome.detector.id = detector_id
    · simpa [own] using ih
    · have kept : Stored runtime (runWithout run detector_id) _ _ := .completed result here ih
      simpa [own] using kept

/-- The writes without those of a detector are the writes of the other entries. -/
theorem writes_without {entries : List Entry} (owned : ∀ entry ∈ entries, ∀ upsert ∈ entry.2, upsert.2.detector = entry.1.id)
    (detector_id : Text) : without Write.owner detector_id (writes entries) =
      writes (entries.filter fun entry => entry.1.id ≠ detector_id) := by
  have upserts : ∀ {entry : Entry}, (∀ upsert ∈ entry.2, upsert.2.detector = entry.1.id) →
      entry.upserts.filter (fun write => write.owner ≠ detector_id) = if entry.1.id = detector_id then [] else entry.upserts := by
    intro entry same
    split
    · rename_i own
      refine List.filter_eq_nil_iff.mpr fun write member => ?_
      obtain ⟨upsert, inside, rfl⟩ := List.mem_map.mp member
      simp [Write.owner, same upsert inside, own]
    · rename_i other
      refine List.filter_eq_self.mpr fun write member => ?_
      obtain ⟨upsert, inside, rfl⟩ := List.mem_map.mp member
      simp [Write.owner, same upsert inside, other]
  rw [without, writes, writes, List.filter_append, List.filter_map]
  congr 1
  induction entries with
  | nil => rfl
  | cons entry entries ih =>
    have rest := ih fun later member => owned later (List.mem_cons_of_mem _ member)
    rw [List.flatMap_cons, List.filter_append, rest, upserts (owned entry (by simp))]
    by_cases own : entry.1.id = detector_id <;> simp [own]

theorem perform_without (collision_free : Function.Injective runtime.sha256) {rows final : List Finding}
    {outcomes : List DetectorOutcome} (signed : Fingerprinted runtime rows)
    (performed : perform runtime run rows = .ok (outcomes, final)) (detector_id : Text) :
    others detector_id final = others detector_id (execute_run runtime (runWithout run detector_id) rows) := by
  obtain ⟨distinct, published, ran, entries, stored, rfl⟩ := perform_iff.mp performed
  have fewer : perform runtime (runWithout run detector_id) rows = .ok
      (outcomes.filter fun outcome => outcome.detector.id ≠ detector_id,
        (writes (entries.filter fun entry => entry.1.id ≠ detector_id)).foldl (Write.apply run) rows) := by
    refine perform_iff.mpr ⟨?_, published, ?_, _, stored.filter detector_id, rfl⟩
    · exact distinct.sublist (List.filter_sublist.map _)
    · refine forall₂_filter (fun detector outcome here => ?_) ran
      rw [FindingLifecycle.run_detector_ok here]
  rw [execute_run, fewer]
  rw [(unwinds collision_free run).purge detector_id signed signed (stored_writes stored) rfl]
  rw [writes_without (fun entry member upsert inside => (stored_upserts stored entry member upsert inside).1)]

/-! ### Isolation -/

/-- Every detector is recorded, failed or completed, and what the run stores and
    resolves for all others is what it does without it. -/
def Isolated (runtime : Runtime) (run : DetectionRun) (rows : List Finding) : Prop :=
  ∃ outcomes final, perform runtime run rows = .ok (outcomes, final) ∧
    outcomes.map DetectorOutcome.detector = run.detectors ∧ ∀ detector ∈ run.detectors,
      others detector.id final = others detector.id (execute_run runtime (runWithout run detector.id) rows)

/-- A finding that can be written out, and that the database and the evidence take. -/
def Writable (run : DetectionRun) (finding : DetectedFinding) : Prop :=
  Returns (finding.title.slice MAX_TITLE) ∧ Returns finding.cve_references.documents ∧ run.accepts finding = true

/-- What a detector raises can be described; what it returns can be read by every
    check that is reached and, once it passes them all, be written. -/
def Readable (runtime : Runtime) (run : DetectionRun) (detector : Detector) : Prop :=
  match detector.detect run.context with
  | .error described => described.isSome
  | .ok produced => Guarded (produced_checks runtime detector.id run.context produced ++
      (listed produced).map fun finding => ⟨Writable run finding, True⟩)

theorem finding_upsert_returns {detector : Detector} {finding : DetectedFinding} (checked : Checked run.context finding)
    (identified : Returns (identity runtime detector.id finding run.context)) :
    Returns (finding_upsert runtime run detector finding) ↔ Writable run finding := by
  obtain ⟨asset, found⟩ := checked.asset
  obtain ⟨service, running⟩ := checked.service
  obtain ⟨fingerprint, identified⟩ := identified
  simp only [finding_upsert, identified, found, running, ok_bind, conclude, Writable]
  cases finding.title.slice MAX_TITLE with
  | error raised => simp
  | ok title =>
    cases finding.cve_references.documents with
    | error raised => simp
    | ok references => by_cases accepted : run.accepts finding = true <;> simp [accepted]

/-- Entries are stored when every accepted finding can be written. -/
theorem stored_iff {outcomes : List DetectorOutcome} : (∃ entries, Stored runtime run outcomes entries) ↔
    ∀ outcome ∈ outcomes, ∀ findings, outcome.result = .ok findings →
      ∀ finding ∈ findings, Returns (finding_upsert runtime run outcome.detector finding) := by
  induction outcomes with
  | nil => exact ⟨fun _ => by simp, fun _ => ⟨[], .nil⟩⟩
  | cons outcome outcomes ih =>
    constructor
    · rintro ⟨_, stored⟩
      cases stored with
      | failed result stored =>
        intro other member findings is
        rcases List.mem_cons.mp member with rfl | later
        · simp [result] at is
        · exact ih.mp ⟨_, stored⟩ other later findings is
      | completed result here stored =>
        intro other member findings is finding inside
        rcases List.mem_cons.mp member with rfl | later
        · rw [result, Except.ok.injEq] at is
          subst is
          obtain ⟨upsert, _, written⟩ := forall₂_left here inside
          exact ⟨upsert, written⟩
        · exact ih.mp ⟨_, stored⟩ other later findings is finding inside
    · intro all
      obtain ⟨entries, stored⟩ := ih.mpr fun other later => all other (List.mem_cons_of_mem _ later)
      cases result : outcome.result with
      | error error => exact ⟨entries, .failed result stored⟩
      | ok findings =>
        obtain ⟨upserts, here⟩ := forall₂_exists (all outcome (by simp) findings result)
        exact ⟨_, .completed result here stored⟩

/-- A detector is recorded, and what it had accepted can be written, when its
    output is readable. -/
theorem run_detector_iff {detector : Detector} : (∃ outcome, run_detector runtime run.context detector = .ok outcome ∧
    ∀ findings, outcome.result = .ok findings → ∀ finding ∈ findings,
      Returns (finding_upsert runtime run outcome.detector finding)) ↔ Readable runtime run detector := by
  unfold Readable run_detector
  cases detector.detect run.context with
  | error described => cases described <;> simp
  | ok produced =>
    have performs : Performs _ (validated runtime detector.id produced run.context) _ := validated_performs produced
    simp only
    rw [guarded_append, guarded_reads, ← performs.contained, ← performs.returns]
    cases accepted : validated runtime detector.id produced run.context with
    | error raised => cases raised <;> simp
    | ok findings =>
      obtain ⟨perm, checked⟩ := validated_ok accepted
      simp only [Except.ok.injEq, exists_eq_left', contained_ok, returns_ok, true_and, true_implies]
      constructor
      · intro all finding member
        have inside := perm.mem_iff.mpr member
        exact (finding_upsert_returns (checked finding inside).1 (checked finding inside).2).mp (all findings rfl finding inside)
      · rintro all _ rfl finding inside
        exact (finding_upsert_returns (checked finding inside).1 (checked finding inside).2).mpr
          (all finding (perm.mem_iff.mp inside))

theorem isolated_of_performed (collision_free : Function.Injective runtime.sha256) {rows final : List Finding}
    {outcomes : List DetectorOutcome} (signed : Fingerprinted runtime rows)
    (performed : perform runtime run rows = .ok (outcomes, final)) : Isolated runtime run rows := by
  obtain ⟨_, _, recorded, _⟩ := perform_iff.mp performed
  refine ⟨outcomes, final, performed, ?_, fun detector _ => perform_without collision_free signed performed detector.id⟩
  have same := forall₂_map_eq (f := id) (fun detector outcome here => FindingLifecycle.run_detector_ok here) recorded
  rw [same, List.map_id]

open FindingLifecycle in
/-- A stub whose finding has `None` for a rule id. -/
def namelessDetector : Detector where
  id := "nameless.detector".toList
  version := "1".toList
  detect := fun context => .ok (.sequence (context.observations.map fun observation =>
    some { stubFinding observation with rule_id := .none }))
  unevaluated := fun _ => .ok []
  separated := by decide +kernel

open FindingLifecycle in
/-- A stub whose finding cites no observation. -/
def uncitedDetector : Detector where
  id := "uncited.detector".toList
  version := "1".toList
  detect := fun context => .ok (.sequence (context.observations.map fun observation =>
    some { stubFinding observation with evidence_observation_ids := .ids [] }))
  unevaluated := fun _ => .ok []
  separated := by decide +kernel

open FindingLifecycle in
/-- A run of the stub detector after another one. -/
def runAfter (detector : Detector) : DetectionRun := { stubRun 1 [stubObservation] with detectors := [detector, stubDetector] }

end RedDock.DetectorIsolation
