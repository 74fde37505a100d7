import RedDock.Reports

/-!
# The artifacts that rows cite

What the references of a report come from: each is a file of one row of the
Dockyard, and each hash that a finished row retains has its reference.
-/
set_option autoImplicit false
namespace RedDock.Reporting
open Text Fallible
open Inventory (EvidenceRecord)
open Retained

/-- The files that a row has retained: where they are, and their hashes. -/
structure Citation where
  source : Source
  run_id : Nat
  base : Text
  hashes : List Text

/-- A reference to a file of a row. -/
structure Cites (citation : Citation) (item : ArtifactReference) : Prop where
  source : item.source = citation.source
  placed : ∃ relative, item.source_path = below citation.base relative ∧ item.archive_path = archived citation.source citation.run_id relative
  hexadecimal : hexadecimal item.expected_sha256 = true
  readable : ∃ parts, safe_relative item.source_path = .ok parts

/-- References that are added for a row. -/
def Adds (citation : Citation) (target grown : List ArtifactReference) : Prop :=
  ∃ items, grown = target ++ items ∧ (∀ item ∈ items, Cites citation item) ∧
    ∀ hash ∈ citation.hashes, ∃ item ∈ items, item.expected_sha256 = hash

section
variable {source : Source} {run_id : Nat} {base : Text} {hashes more : List Text} {target grown last : List ArtifactReference}

theorem Adds.nothing : Adds ⟨source, run_id, base, []⟩ target target := ⟨[], by simp, by simp, by simp⟩

theorem Adds.append (first : Adds ⟨source, run_id, base, hashes⟩ target grown) (second : Adds ⟨source, run_id, base, more⟩ grown last) :
    Adds ⟨source, run_id, base, hashes ++ more⟩ target last := by
  obtain ⟨items, rfl, cites, has⟩ := first
  obtain ⟨others, rfl, others_cite, others_have⟩ := second
  refine ⟨items ++ others, by rw [List.append_assoc], fun item member => ?_, fun hash member => ?_⟩
  · rcases List.mem_append.mp member with here | there
    · exact ⟨(cites item here).source, (cites item here).placed, (cites item here).hexadecimal, (cites item here).readable⟩
    · exact ⟨(others_cite item there).source, (others_cite item there).placed, (others_cite item there).hexadecimal,
        (others_cite item there).readable⟩
  · rcases List.mem_append.mp member with here | there
    · obtain ⟨item, inside, is⟩ := has hash here
      exact ⟨item, List.mem_append_left _ inside, is⟩
    · obtain ⟨item, inside, is⟩ := others_have hash there
      exact ⟨item, List.mem_append_right _ inside, is⟩

theorem reference_ok {source_path archive_path media_type expected_sha256 : Text} {truncated : Bool} {item : ArtifactReference}
    (made : reference source run_id source_path archive_path media_type expected_sha256 truncated = .ok item) :
    item = { source, run_id, source_path, archive_path, media_type, expected_sha256, truncated } ∧ hexadecimal expected_sha256 = true ∧
      ∃ parts, safe_relative source_path = .ok parts := by
  unfold reference at made
  split at made
  · cases made
  · next digest =>
    obtain ⟨parts, safe, rest⟩ := bind_eq_ok.mp made
    obtain ⟨_, _, same⟩ := bind_eq_ok.mp rest
    exact ⟨(Except.ok.inj same).symm, by simpa using digest, parts, safe⟩

theorem add_references_ok {items : List ArtifactReference} (added : add_references target items = .ok grown) : grown = target ++ items := by
  unfold add_references at added
  split at added
  · cases added
  · exact (Except.ok.inj added).symm

/-- One file of a row is referenced. -/
theorem cites_reference {relative media_type digest : Text} {truncated : Bool} {item : ArtifactReference}
    (made : reference source run_id (below base relative) (archived source run_id relative) media_type digest truncated = .ok item) :
    Cites ⟨source, run_id, base, hashes⟩ item ∧ item.expected_sha256 = digest := by
  obtain ⟨rfl, digits, safe⟩ := reference_ok made
  exact ⟨⟨rfl, ⟨relative, rfl, rfl⟩, digits, safe⟩, rfl⟩

theorem adds_one {relative media_type digest : Text} {truncated : Bool} {item : ArtifactReference}
    (made : reference source run_id (below base relative) (archived source run_id relative) media_type digest truncated = .ok item)
    (added : add_references target [item] = .ok grown) : Adds ⟨source, run_id, base, [digest]⟩ target grown := by
  obtain ⟨cites, is⟩ := @cites_reference _ _ _ [digest] _ _ _ _ _ made
  refine ⟨[item], add_references_ok added, fun other member => ?_, fun hash member => ⟨item, by simp, ?_⟩⟩
  · rw [List.mem_singleton.mp member]
    exact cites
  · rw [List.mem_singleton.mp member, is]

theorem adds_two {relative other media_type other_type digest other_digest : Text} {item second : ArtifactReference}
    (made : reference source run_id (below base relative) (archived source run_id relative) media_type digest = .ok item)
    (made_second : reference source run_id (below base other) (archived source run_id other) other_type other_digest = .ok second)
    (added : add_references target [item, second] = .ok grown) : Adds ⟨source, run_id, base, [digest, other_digest]⟩ target grown := by
  obtain ⟨cites, is⟩ := @cites_reference _ _ _ [digest, other_digest] _ _ _ _ _ made
  obtain ⟨second_cites, second_is⟩ := @cites_reference _ _ _ [digest, other_digest] _ _ _ _ _ made_second
  refine ⟨[item, second], add_references_ok added, fun one member => ?_, fun hash member => ?_⟩
  · rcases List.mem_pair.mp member with rfl | rfl
    · exact cites
    · exact second_cites
  · rcases List.mem_pair.mp member with rfl | rfl
    · exact ⟨item, by simp, is⟩
    · exact ⟨second, by simp, second_is⟩

/-- What a fold adds for all rows. -/
theorem foldlM_adds {Row : Type} {f : List ArtifactReference → Row → Except Text (List ArtifactReference)} {citation : Row → Citation}
    (each : ∀ target row grown, f target row = .ok grown → Adds (citation row) target grown) {rows : List Row}
    (ran : rows.foldlM f target = .ok grown) :
    ∃ items, grown = target ++ items ∧ (∀ item ∈ items, ∃ row ∈ rows, Cites (citation row) item) ∧
      ∀ row ∈ rows, ∀ hash ∈ (citation row).hashes, ∃ item ∈ items, item.expected_sha256 = hash := by
  induction rows generalizing target with
  | nil => exact ⟨[], by simpa using (Except.ok.inj ran).symm, by simp, by simp⟩
  | cons row rows ih =>
    rw [List.foldlM_cons, bind_eq_ok] at ran
    obtain ⟨middle, first, rest⟩ := ran
    obtain ⟨here, rfl, cites, has⟩ := each target row middle first
    obtain ⟨later, rfl, cite, have_all⟩ := ih rest
    refine ⟨here ++ later, by rw [List.append_assoc], fun item member => ?_, fun one member hash hashed => ?_⟩
    · rcases List.mem_append.mp member with inside | after
      · exact ⟨row, by simp, cites item inside⟩
      · obtain ⟨other, listed, is⟩ := cite item after
        exact ⟨other, List.mem_cons_of_mem _ listed, is⟩
    · rcases List.mem_cons.mp member with rfl | listed
      · obtain ⟨item, inside, is⟩ := has hash hashed
        exact ⟨item, List.mem_append_left _ inside, is⟩
      · obtain ⟨item, inside, is⟩ := have_all one listed hash hashed
        exact ⟨item, List.mem_append_right _ inside, is⟩

theorem known_pair_ok {path result metadata : Option Text} (added : known_pair target source run_id path result metadata = .ok grown) :
    Adds ⟨source, run_id, path.getD [], [result.getD [], metadata.getD []]⟩ target grown := by
  unfold known_pair at added
  split at added
  · split at added
    · cases added
    · obtain ⟨first, made, rest⟩ := bind_eq_ok.mp added
      obtain ⟨second, made_second, appended⟩ := bind_eq_ok.mp rest
      exact adds_two made made_second appended
  · cases added

end

/-! ### The rows of a Dockyard -/

def record_citation (dockyard_id : Nat) (record : EvidenceRecord) : Citation where
  source := .discovery
  run_id := record.discovery_run_id
  base := below (dec dockyard_id) (dec record.discovery_run_id)
  hashes := [record.sha256]

def detection_citation (run : DetectionRun) : Citation where
  source := .detection
  run_id := run.id
  base := run.evidence_path.getD []
  hashes := [run.result_sha256.getD [], run.metadata_sha256.getD []]

def validation_citation (run : ValidationRun) : Citation where
  source := .validation
  run_id := run.id
  base := run.evidence_path.getD []
  hashes := [run.result_sha256.getD [], run.metadata_sha256.getD []] ++ if present run.manifest_sha256 then [run.manifest_sha256.getD []] else []

def correlation_citation (run : CorrelationRun) : Citation where
  source := .correlation
  run_id := run.id
  base := run.evidence_path.getD []
  hashes := [run.result_sha256.getD [], run.metadata_sha256.getD []]

/-- The advice of a run, and its metadata. -/
def advice_hashes (run : IntelligenceRun) : List Text :=
  if run.status = .completed ∧ present run.result_sha256 = true ∧ present run.metadata_sha256 = true then
    [run.result_sha256.getD [], run.metadata_sha256.getD []] else []

def intelligence_citation (run : IntelligenceRun) : Citation where
  source := .intelligence
  run_id := run.id
  base := run.evidence_path.getD []
  hashes := (if run.input_sha256 = [] then [] else [run.input_sha256]) ++ advice_hashes run

/-- The runs that a report has the evidence of. -/
def finished_detections (db : Database) (dockyard_id : Nat) : List DetectionRun :=
  (detection_runs db dockyard_id).filter fun run => run.status = .completed && run.evidence_path.isSome

def finished_validations (db : Database) (dockyard_id : Nat) : List ValidationRun :=
  (validation_runs db dockyard_id).filter fun run => run.status = .completed && run.evidence_path.isSome

def finished_correlations (db : Database) (dockyard_id : Nat) : List CorrelationRun :=
  (correlation_runs db dockyard_id).filter fun run => run.status = .completed && run.evidence_path.isSome

def retained_intelligence (db : Database) (dockyard_id : Nat) : List IntelligenceRun :=
  (intelligence_runs db dockyard_id).filter fun run => run.evidence_path.isSome && run.status ≠ .running

def citations (db : Database) (dockyard_id : Nat) : List Citation :=
  (evidence_records db dockyard_id).map (record_citation dockyard_id) ++ (finished_detections db dockyard_id).map detection_citation ++
    (finished_validations db dockyard_id).map validation_citation ++ (finished_correlations db dockyard_id).map correlation_citation ++
      (retained_intelligence db dockyard_id).map intelligence_citation

section
variable {library : Library} {files : Files} {base : Text} {target grown : List ArtifactReference}

theorem record_references_ok {dockyard_id : Nat} (record : EvidenceRecord) (added : record_references dockyard_id target record = .ok grown) :
    Adds (record_citation dockyard_id record) target grown := by
  obtain ⟨item, made, appended⟩ := bind_eq_ok.mp added
  have path : below (dec dockyard_id) (below (dec record.discovery_run_id) record.relative_path) =
      below (below (dec dockyard_id) (dec record.discovery_run_id)) record.relative_path := by simp [below]
  rw [path] at made
  exact adds_one made appended

theorem entry_references_ok {run_id : Nat} (entry : ManifestEntry) (added : entry_references run_id base target entry = .ok grown) :
    Adds ⟨.validation, run_id, base, [entry.sha256]⟩ target grown := by
  obtain ⟨item, made, appended⟩ := bind_eq_ok.mp added
  exact adds_one made appended

theorem entries_ok {run_id : Nat} {entries : List ManifestEntry}
    (added : entries.foldlM (entry_references run_id base) target = .ok grown) : Adds ⟨.validation, run_id, base, []⟩ target grown := by
  obtain ⟨items, same, cite, _⟩ := foldlM_adds (fun target entry grown => @entry_references_ok base target grown run_id entry) added
  refine ⟨items, same, fun item member => ?_, by simp⟩
  obtain ⟨_, _, cites⟩ := cite item member
  exact ⟨cites.source, cites.placed, cites.hexadecimal, cites.readable⟩

theorem manifest_references_ok {run_id : Nat} {manifest_sha256 : Text}
    (added : manifest_references library files target run_id base manifest_sha256 = .ok grown) :
    Adds ⟨.validation, run_id, base, [manifest_sha256]⟩ target grown := by
  obtain ⟨item, made, rest⟩ := bind_eq_ok.mp added
  obtain ⟨middle, appended, rest⟩ := bind_eq_ok.mp rest
  obtain ⟨_, _, rest⟩ := bind_eq_ok.mp rest
  obtain ⟨payload, _, rest⟩ := bind_eq_ok.mp rest
  split at rest
  · cases rest
  · obtain ⟨entries, _, rest⟩ := bind_eq_ok.mp rest
    exact (adds_one made appended).append (entries_ok rest)

theorem validation_references_ok (run : ValidationRun) (added : validation_references library files target run = .ok grown) :
    Adds (validation_citation run) target grown := by
  obtain ⟨middle, pair, rest⟩ := bind_eq_ok.mp added
  split at rest
  · next has =>
    have manifest := (known_pair_ok pair).append (manifest_references_ok rest)
    unfold validation_citation
    rwa [if_pos has]
  · next none =>
    have same : middle = grown := Except.ok.inj rest
    unfold validation_citation
    rw [if_neg none, List.append_nil, ← same]
    exact known_pair_ok pair

theorem advice_references_ok {run : IntelligenceRun} {path other : Text}
    (added : (if run.status = .completed ∧ present run.result_sha256 = true ∧ present run.metadata_sha256 = true then do
        let advice ← reference .intelligence run.id (below base path) (archived .intelligence run.id path) JSON_TYPE (run.result_sha256.getD [])
        let metadata ← reference .intelligence run.id (below base other) (archived .intelligence run.id other) JSON_TYPE
          (run.metadata_sha256.getD [])
        add_references target [advice, metadata]
      else pure target) = .ok grown) : Adds ⟨.intelligence, run.id, base, advice_hashes run⟩ target grown := by
  unfold advice_hashes
  split at added
  · next completed =>
    obtain ⟨advice, made, rest⟩ := bind_eq_ok.mp added
    obtain ⟨metadata, made_metadata, appended⟩ := bind_eq_ok.mp rest
    rw [if_pos completed]
    exact adds_two made made_metadata appended
  · next unfinished =>
    rw [if_neg unfinished, ← Except.ok.inj added]
    exact .nothing

theorem intelligence_references_ok (run : IntelligenceRun) (added : intelligence_references target run = .ok grown) :
    Adds (intelligence_citation run) target grown := by
  unfold intelligence_references at added
  dsimp only at added
  unfold intelligence_citation
  split at added
  · next blank =>
    obtain ⟨middle, same, rest⟩ := bind_eq_ok.mp added
    rw [if_pos blank, List.nil_append, Except.ok.inj same]
    exact advice_references_ok rest
  · next digest =>
    obtain ⟨packet, made, rest⟩ := bind_eq_ok.mp added
    obtain ⟨middle, appended, rest⟩ := bind_eq_ok.mp rest
    rw [if_neg digest]
    exact (adds_one made appended).append (advice_references_ok rest)

theorem deduplicate_ok {references kept : List ArtifactReference} (done : deduplicate references = .ok kept) :
    (references.map ArtifactReference.archive_path).Nodup ∧ kept = ordered ArtifactReference.archive_path references := by
  unfold deduplicate at done
  split at done
  · next once => exact ⟨once, (Except.ok.inj done).symm⟩
  · cases done

/-- What the references of a Dockyard are. -/
structure Referenced (db : Database) (dockyard_id : Nat) (references : List ArtifactReference) : Prop where
  once : (references.map ArtifactReference.archive_path).Nodup
  cited : ∀ item ∈ references, ∃ citation ∈ citations db dockyard_id, Cites citation item
  complete : ∀ citation ∈ citations db dockyard_id, ∀ hash ∈ citation.hashes, ∃ item ∈ references, item.expected_sha256 = hash

theorem artifact_references_ok {db : Database} {dockyard_id : Nat} {references : List ArtifactReference}
    (made : artifact_references library files db dockyard_id = .ok references) : Referenced db dockyard_id references := by
  obtain ⟨one, records, rest⟩ := bind_eq_ok.mp made
  obtain ⟨two, detections, rest⟩ := bind_eq_ok.mp rest
  obtain ⟨three, validations, rest⟩ := bind_eq_ok.mp rest
  obtain ⟨four, correlations, rest⟩ := bind_eq_ok.mp rest
  obtain ⟨five, intelligence, rest⟩ := bind_eq_ok.mp rest
  obtain ⟨once, rfl⟩ := deduplicate_ok rest
  obtain ⟨a, rfl, a_cites, a_has⟩ := foldlM_adds (fun _ record _ => record_references_ok record) records
  obtain ⟨b, rfl, b_cites, b_has⟩ := foldlM_adds (fun _ run _ added => show Adds (detection_citation run) _ _ from known_pair_ok added) detections
  obtain ⟨c, rfl, c_cites, c_has⟩ := foldlM_adds (fun _ run _ => validation_references_ok run) validations
  obtain ⟨d, rfl, d_cites, d_has⟩ := foldlM_adds (fun _ run _ added => show Adds (correlation_citation run) _ _ from known_pair_ok added) correlations
  obtain ⟨e, rfl, e_cites, e_has⟩ := foldlM_adds (fun _ run _ => intelligence_references_ok run) intelligence
  have perm := List.perm_insertionSort (fun one other : ArtifactReference => one.archive_path ≤ other.archive_path) (one ++ b ++ c ++ d ++ e)
  refine ⟨(perm.map _).nodup_iff.mpr once, fun item member => ?_, fun citation listed hash hashed => ?_⟩
  · have inside := mem_ordered.mp member
    simp only [List.mem_append] at inside
    simp only [citations, List.mem_append, List.mem_map]
    rcases inside with (((inside | inside) | inside) | inside) | inside
    · obtain ⟨row, listed, cites⟩ := a_cites item inside
      exact ⟨_, .inl (.inl (.inl (.inl ⟨row, listed, rfl⟩))), cites⟩
    · obtain ⟨row, listed, cites⟩ := b_cites item inside
      exact ⟨_, .inl (.inl (.inl (.inr ⟨row, listed, rfl⟩))), cites⟩
    · obtain ⟨row, listed, cites⟩ := c_cites item inside
      exact ⟨_, .inl (.inl (.inr ⟨row, listed, rfl⟩)), cites⟩
    · obtain ⟨row, listed, cites⟩ := d_cites item inside
      exact ⟨_, .inl (.inr ⟨row, listed, rfl⟩), cites⟩
    · obtain ⟨row, listed, cites⟩ := e_cites item inside
      exact ⟨_, .inr ⟨row, listed, rfl⟩, cites⟩
  · simp only [citations, List.mem_append, List.mem_map] at listed
    simp only [mem_ordered, List.mem_append]
    rcases listed with (((⟨row, listed, rfl⟩ | ⟨row, listed, rfl⟩) | ⟨row, listed, rfl⟩) | ⟨row, listed, rfl⟩) | ⟨row, listed, rfl⟩
    · obtain ⟨item, inside, is⟩ := a_has row listed hash hashed
      exact ⟨item, .inl (.inl (.inl (.inl inside))), is⟩
    · obtain ⟨item, inside, is⟩ := b_has row listed hash hashed
      exact ⟨item, .inl (.inl (.inl (.inr inside))), is⟩
    · obtain ⟨item, inside, is⟩ := c_has row listed hash hashed
      exact ⟨item, .inl (.inl (.inr inside)), is⟩
    · obtain ⟨item, inside, is⟩ := d_has row listed hash hashed
      exact ⟨item, .inl (.inr inside), is⟩
    · obtain ⟨item, inside, is⟩ := e_has row listed hash hashed
      exact ⟨item, .inr inside, is⟩

/-! ### Verification -/

/-- An artifact whose content is read at its place and has its hash. -/
structure Verified (library : Library) (files : Files) (artifact : VerifiedArtifact) : Prop where
  hash : library.sha256 artifact.payload = artifact.sha256
  read : safe_file files artifact.reference.source_path = .ok artifact.payload

theorem read_bounded_ok {file payload : Bytes} {max_bytes : Nat} {message : String} (read : read_bounded file max_bytes message = .ok payload) :
    payload = file ∧ file.length ≤ max_bytes := by
  unfold read_bounded at read
  split at read
  · cases read
  · next small =>
    rw [List.length_take] at small
    have fits : file.length ≤ max_bytes := by omega
    exact ⟨by rw [← Except.ok.inj read, List.take_of_length_le (by omega)], fits⟩

theorem verify_from_ok {total : Nat} {references : List ArtifactReference} {verified : List VerifiedArtifact}
    (done : verify_from library files total references = .ok verified) :
    verified.map VerifiedArtifact.reference = references ∧ ∀ artifact ∈ verified, Verified library files artifact := by
  induction references generalizing total verified with
  | nil =>
    rw [← Except.ok.inj done]
    exact ⟨rfl, by simp⟩
  | cons reference references ih =>
    obtain ⟨file, found, rest⟩ := bind_eq_ok.mp done
    obtain ⟨payload, read, compared⟩ := bind_eq_ok.mp rest
    obtain ⟨rfl, _⟩ := read_bounded_ok read
    split at compared
    · cases compared
    · next same =>
      obtain ⟨later, remaining, is⟩ := bind_eq_ok.mp compared
      obtain ⟨mapped, all⟩ := ih remaining
      rw [← Except.ok.inj is]
      refine ⟨by rw [List.map_cons, mapped], fun artifact member => ?_⟩
      rcases List.mem_cons.mp member with rfl | after
      · exact ⟨not_not.mp same, found⟩
      · exact all artifact after

theorem verify_artifacts_ok {references : List ArtifactReference} {verified : List VerifiedArtifact}
    (done : verify_artifacts library files references = .ok verified) :
    verified.map VerifiedArtifact.reference = references ∧ (∀ artifact ∈ verified, Verified library files artifact) ∧
      verified.length ≤ max_report_evidence_files := by
  unfold verify_artifacts at done
  split at done
  · cases done
  · next few =>
    obtain ⟨mapped, all⟩ := verify_from_ok done
    refine ⟨mapped, all, ?_⟩
    have same := congrArg List.length mapped
    rw [List.length_map] at same
    omega

end
end RedDock.Reporting
