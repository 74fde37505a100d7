import RedDock.CitedArtifacts
import RedDock.Catalogue

/-!
# DockPacks

The package of a report as an archive that is closed under what it says: its
manifest lists what it holds, and what the snapshot cites is in it.
-/
set_option autoImplicit false
namespace RedDock.Reporting
open Text Fallible
open Retained
open ZipFiles (Member written Fits local_file length_local_file)

/-! ### Names -/

theorem count_below (base relative : Text) : (below base relative).count '/' = base.count '/' + (relative.count '/' + 1) := by
  rw [below, List.count_append, List.count_cons_self]

theorem count_archived (source : Source) (run_id : Nat) (relative : Text) : 3 ≤ (archived source run_id relative).count '/' := by
  have sum : ∀ a b c d : Nat, 3 ≤ a + 1 + (b + (c + (d + 1) + 1)) := by omega
  have first : ("evidence/".toList).count '/' = 0 + 1 := by decide
  have rest : (below source.str (below (dec run_id) relative)).count '/' =
      source.str.count '/' + ((dec run_id).count '/' + (relative.count '/' + 1) + 1) := by rw [count_below, count_below]
  have total : (archived source run_id relative).count '/' =
      ("evidence/".toList).count '/' + (below source.str (below (dec run_id) relative)).count '/' := List.count_append
  exact (sum _ _ _ _).trans_eq (total.trans (congrArg₂ _ first rest)).symm

/-- The members that every package has. -/
def FIXED_MEMBERS : List Text := [SNAPSHOT_MEMBER, TECHNICAL_MEMBER, EXECUTIVE_MEMBER, MANIFEST_MEMBER]

theorem fixed_once : (FIXED_MEMBERS ++ [DOCKPACK]).Nodup := by decide

theorem fixed_count : ∀ name ∈ FIXED_MEMBERS ++ [DOCKPACK], name.count '/' ≤ 1 := by decide

theorem archived_not_fixed {source : Source} {run_id : Nat} {relative : Text} : archived source run_id relative ∉ FIXED_MEMBERS ++ [DOCKPACK] := by
  intro member
  exact absurd ((count_archived source run_id relative).trans (fixed_count _ member)) (by decide)

theorem put_new {κ α : Type} [DecidableEq κ] {key : κ} {value : α} {entries : List (κ × α)} (new : key ∉ entries.map Prod.fst) :
    HttpHeaders.put key value entries = entries ++ [(key, value)] := by
  induction entries with
  | nil => rfl
  | cons entry entries ih =>
    rw [List.map_cons, List.mem_cons, not_or] at new
    rw [HttpHeaders.put, if_neg (Ne.symm new.1), ih new.2, List.cons_append]

theorem put_all {κ α β : Type} [DecidableEq κ] {key : β → κ} {value : β → α} {items : List β} {entries : List (κ × α)}
    (once : (entries.map Prod.fst ++ items.map key).Nodup) :
    items.foldl (fun entries item => HttpHeaders.put (key item) (value item) entries) entries =
      entries ++ items.map fun item => (key item, value item) := by
  induction items generalizing entries with
  | nil => simp
  | cons item items ih =>
    have new : key item ∉ entries.map Prod.fst := fun member => by
      rw [List.map_cons, List.nodup_append] at once
      exact once.2.2 _ member _ List.mem_cons_self rfl
    rw [List.foldl_cons, put_new new, ih (by simpa using once), List.append_assoc]
    rfl

/-! ### The archive -/

theorem content_le_written {members : List Member} {member : Member} (inside : member ∈ members) :
    member.content.length ≤ (written members).length := by
  have one : (local_file member).length ≤ (members.flatMap local_file).length := by
    rw [List.length_flatMap]
    exact List.le_sum_of_mem (List.mem_map_of_mem inside)
  rw [length_local_file] at one
  rw [written, List.length_append]
  exact (Nat.le_add_left _ _).trans (one.trans (Nat.le_add_right _ _))

section
variable {library : Library} {files : Files} {db : Database} {dockyard_id : Nat}

/-- A package that was built is read back. -/
theorem packed_read {report : Report} {package : Bytes} (few : (report.members library).length < 256 ^ 2)
    (packed : report.packed library = .ok package) :
    ZipFiles.members package = some ((report.members library).map fun member => (Bytes.utf8 member.name, member.content)) := by
  obtain ⟨archive, wrote, rest⟩ := bind_eq_ok.mp packed
  unfold Report.dockpack at wrote
  split at wrote
  · cases wrote
  next short =>
  have is := Except.ok.inj wrote
  split at rest
  · cases rest
  next small =>
  have same : archive = package := by
    split at rest
    · cases rest
    split at rest
    · cases rest
    split at rest
    · cases rest
    exact Except.ok.inj rest
  subst same is
  have bound : (written (report.members library)).length < 256 ^ 4 := lt_of_le_of_lt (not_lt.mp small) (by decide)
  refine ZipFiles.members_written (fun member inside => ⟨?_, (content_le_written inside).trans_lt bound⟩) few bound
  by_contra long
  exact short ⟨member, inside, not_lt.mp long⟩

/-- What the package of a report holds. -/
structure Closed (library : Library) (report : Report) (members : List (Text × Bytes)) : Prop where
  once : (members.map Prod.fst).Nodup
  /-- `dockpack.json` lists the other members, with their sizes and hashes. -/
  listed : ∃ listings, (DOCKPACK, JsonText.document (package_document (library.sha256 report.snapshot_bytes) listings)) ∈ members ∧
    listings.Perm ((members.filter fun member => member.1 ≠ DOCKPACK).map (listing library))
  documents : (SNAPSHOT_MEMBER, report.snapshot_bytes) ∈ members ∧ (TECHNICAL_MEMBER, report.technical) ∈ members ∧
    (EXECUTIVE_MEMBER, report.executive) ∈ members ∧ (MANIFEST_MEMBER, report.manifest_bytes) ∈ members
  /-- A file of the evidence manifest is a member with its hash. -/
  evidence : ∀ artifact ∈ report.snapshot.evidence_manifest.files,
    (artifact.reference.archive_path, artifact.payload) ∈ members ∧ library.sha256 artifact.payload = artifact.sha256

/-- The hash of a member. -/
def Packed (library : Library) (members : List (Text × Bytes)) (hash : Text) : Prop := ∃ member ∈ members, library.sha256 member.2 = hash

theorem verified_paths {references : List ArtifactReference} {verified : List VerifiedArtifact}
    (referenced : Referenced db dockyard_id references) (mapped : verified.map VerifiedArtifact.reference = references) :
    (verified.map fun artifact => artifact.reference.archive_path).Nodup ∧
      ∀ artifact ∈ verified, artifact.reference.archive_path ∉ FIXED_MEMBERS ++ [DOCKPACK] := by
  constructor
  · have once := referenced.once
    rwa [← mapped, List.map_map] at once
  · intro artifact member
    obtain ⟨citation, _, cites⟩ := referenced.cited artifact.reference (mapped ▸ List.mem_map_of_mem member)
    obtain ⟨relative, _, path⟩ := cites.placed
    rw [path]
    exact archived_not_fixed

/-- The fixed members of a report. -/
def Report.fixed (report : Report) : List (Text × Bytes) := [
  (SNAPSHOT_MEMBER, report.snapshot_bytes), (TECHNICAL_MEMBER, report.technical), (EXECUTIVE_MEMBER, report.executive),
  (MANIFEST_MEMBER, report.manifest_bytes)]

theorem fixed_names (report : Report) : report.fixed.map Prod.fst = FIXED_MEMBERS := rfl

section
variable {report : Report} (once : (report.verified.map fun artifact => artifact.reference.archive_path).Nodup)
  (apart : ∀ artifact ∈ report.verified, artifact.reference.archive_path ∉ FIXED_MEMBERS ++ [DOCKPACK])
include once apart

theorem names_once : (FIXED_MEMBERS ++ report.verified.map fun artifact => artifact.reference.archive_path).Nodup := by
  refine List.nodup_append.mpr ⟨(List.nodup_append.mp fixed_once).1, once, fun name fixed other listed same => ?_⟩
  obtain ⟨artifact, member, rfl⟩ := List.mem_map.mp listed
  exact apart artifact member (List.mem_append_left _ (same ▸ fixed))

theorem payloads_eq : report.payloads =
    report.fixed ++ report.verified.map fun artifact => (artifact.reference.archive_path, artifact.payload) :=
  put_all (names_once once apart)

theorem payload_names : report.payloads.map Prod.fst = FIXED_MEMBERS ++ report.verified.map fun artifact => artifact.reference.archive_path := by
  rw [payloads_eq once apart, List.map_append, fixed_names, List.map_map]
  rfl

theorem dockpack_new : DOCKPACK ∉ report.payloads.map Prod.fst := by
  rw [payload_names once apart]
  intro member
  rcases List.mem_append.mp member with fixed | listed
  · exact (List.nodup_append.mp fixed_once).2.2 _ fixed _ (by simp) rfl
  · obtain ⟨artifact, inside, is⟩ := List.mem_map.mp listed
    exact apart artifact inside (by rw [is]; simp)

theorem members_perm (library : Library) : ((report.members library).map fun member => (member.name, member.content)).Perm
    (report.payloads ++ [(DOCKPACK, JsonText.document (report.package_manifest library))]) := by
  rw [Report.members, List.map_map, put_new (dockpack_new once apart)]
  exact (List.map_id _).symm ▸ List.perm_insertionSort _ _

/-- A package is closed. -/
theorem closed_of_paths (library : Library) (manifest : report.snapshot.evidence_manifest.files = report.verified)
    (verified : ∀ artifact ∈ report.verified, Verified library files artifact) :
    Closed library report ((report.members library).map fun member => (member.name, member.content)) := by
  have perm := members_perm once apart library
  have fresh := dockpack_new once apart
  have inside {payload : Text × Bytes} (member : payload ∈ report.payloads) :
      payload ∈ (report.members library).map fun member => (member.name, member.content) :=
    perm.mem_iff.mpr (List.mem_append_left _ member)
  have fixed {payload : Text × Bytes} (member : payload ∈ report.fixed) : payload ∈ report.payloads := by
    rw [payloads_eq once apart]
    exact List.mem_append_left _ member
  have names : (report.payloads.map Prod.fst).Nodup := payload_names once apart ▸ names_once once apart
  refine ⟨?_, ⟨(ordered Prod.fst report.payloads).map (listing library), ?_, ?_⟩, ?_, fun artifact member => ⟨?_, ?_⟩⟩
  · rw [(perm.map Prod.fst).nodup_iff, List.map_append, List.nodup_append]
    refine ⟨names, by simp, fun name member other last same => fresh ?_⟩
    rw [List.map_singleton, List.mem_singleton] at last
    rwa [same, last] at member
  · exact perm.mem_iff.mpr (by simp [Report.package_manifest])
  · have others : (report.payloads ++ [(DOCKPACK, JsonText.document (report.package_manifest library))]).filter
        (fun member => decide (member.1 ≠ DOCKPACK)) = report.payloads := by
      rw [List.filter_append, List.filter_cons_of_neg (by simp), List.filter_nil, List.append_nil]
      exact List.filter_eq_self.mpr fun payload member => decide_eq_true fun same => fresh (same ▸ List.mem_map_of_mem member)
    have rest := perm.filter fun member => decide (member.1 ≠ DOCKPACK)
    rw [others] at rest
    exact ((List.perm_insertionSort _ _).trans rest.symm).map _
  · exact ⟨inside (fixed (by simp [Report.fixed])), inside (fixed (by simp [Report.fixed])), inside (fixed (by simp [Report.fixed])),
      inside (fixed (by simp [Report.fixed]))⟩
  · rw [manifest] at member
    refine inside ?_
    rw [payloads_eq once apart]
    exact List.mem_append_right _ (List.mem_map_of_mem member)
  · rw [manifest] at member
    exact (verified artifact member).hash

end
end
/-! ### What the snapshot cites -/

section
variable {Row : Type}

theorem mem_append_to {result : List (Nat × List Row)} {key id : Nat} {row other : Row} :
    row ∈ rows_of (append_to result key other) id ↔ row ∈ rows_of result id ∨ id = key ∧ row = other := by
  unfold rows_of append_to
  rw [Catalogue.lookup_put]
  by_cases same : id = key
  · simp [same]
  · simp [same]

end

section
variable {library : Library} {files : Files} {db : Database} {dockyard_id : Nat}

theorem validate_rows_ok {index : Nat} {rows : List ValidationRun} {result grown : List (Nat × List ValidationRun)}
    (done : validate_rows index rows result = .ok grown) {id : Nat} {row : ValidationRun} (member : row ∈ rows_of grown id) :
    row ∈ rows_of result id ∨ row ∈ rows := by
  induction rows generalizing index result with
  | nil =>
    rw [Except.ok.inj done]
    exact .inl member
  | cons first rows ih =>
    unfold validate_rows at done
    split at done
    · cases done
    · rcases ih done with before | later
      · rcases mem_append_to.mp before with old | ⟨_, rfl⟩
        · exact .inl old
        · exact .inr List.mem_cons_self
      · exact .inr (List.mem_cons_of_mem _ later)

theorem validation_rows_ok {validations : List (Nat × List ValidationRun)} (done : validation_rows db dockyard_id = .ok validations)
    {id : Nat} {row : ValidationRun} (member : row ∈ rows_of validations id) : row ∈ validation_runs db dockyard_id := by
  rcases validate_rows_ok done member with none | listed
  · cases none
  · exact mem_ordered.mpr (mem_ordered.mp (List.mem_of_mem_take listed))

/-- What a snapshot takes of the rows that a report has evidence of. -/
structure Taken (db : Database) (dockyard_id : Nat) (manifest : Manifest) (snapshot : Snapshot) : Prop where
  manifest : snapshot.evidence_manifest = manifest
  validations : ∀ row ∈ snapshot.findings, ∀ validation ∈ row.validations, validation ∈ validation_runs db dockyard_id
  correlation : ∀ run, snapshot.correlation = some run → run ∈ correlation_runs db dockyard_id ∧ run.status = .completed
  intelligence : ∀ run, snapshot.intelligence = some run → run ∈ intelligence_runs db dockyard_id ∧ run.status = .completed

theorem snapshot_taken {manifest : Manifest} {taken : Snapshot} (done : snapshot db dockyard_id manifest = .ok taken) :
    Taken db dockyard_id manifest taken := by
  unfold snapshot at done
  split at done
  · cases done
  · obtain ⟨assets, _, done⟩ := bind_eq_ok.mp done
    obtain ⟨services, _, done⟩ := bind_eq_ok.mp done
    obtain ⟨findings, _, done⟩ := bind_eq_ok.mp done
    obtain ⟨evidence, _, done⟩ := bind_eq_ok.mp done
    obtain ⟨validations, validated, done⟩ := bind_eq_ok.mp done
    obtain ⟨lab, _, done⟩ := bind_eq_ok.mp done
    obtain ⟨scope, _, done⟩ := bind_eq_ok.mp done
    obtain rfl := Except.ok.inj done
    refine ⟨rfl, fun row member validation listed => ?_, fun run last => ?_, fun run last => ?_⟩
    · obtain ⟨finding, _, rfl⟩ := List.mem_map.mp member
      exact validation_rows_ok validated listed
    · simpa using List.mem_filter.mp (List.mem_of_getLast? last)
    · simpa using List.mem_filter.mp (List.mem_of_getLast? last)

theorem claim_ok {available : List Text} {row claimed : FindingRow} (done : claim available row = .ok claimed) :
    row.evidence ≠ [] ∧ ∀ item ∈ row.evidence, item.sha256 ∈ available := by
  unfold claim at done
  split at done
  · cases done
  next some_evidence =>
  split at done
  · cases done
  next known => exact ⟨some_evidence, by simpa using known⟩

/-- What was read for a report. -/
structure Captured (library : Library) (files : Files) (db : Database) (dockyard_id : Nat) (report : Report) : Prop where
  referenced : Referenced db dockyard_id (report.verified.map VerifiedArtifact.reference)
  verified : ∀ artifact ∈ report.verified, Verified library files artifact
  few : report.verified.length ≤ max_report_evidence_files
  manifest : report.snapshot.evidence_manifest.files = report.verified
  taken : ∃ manifest taken, Taken db dockyard_id manifest taken ∧ taken.findings = report.snapshot.findings ∧
    taken.correlation = report.snapshot.correlation ∧ taken.intelligence = report.snapshot.intelligence
  claimed : ∀ row ∈ report.snapshot.findings, row.evidence ≠ [] ∧
    ∀ item ∈ row.evidence, item.sha256 ∈ report.verified.map VerifiedArtifact.sha256

theorem capture_ok {report : Report} (done : capture library files db dockyard_id = .ok report) :
    Captured library files db dockyard_id report := by
  obtain ⟨references, sourced, done⟩ := bind_eq_ok.mp done
  obtain ⟨verified, read, done⟩ := bind_eq_ok.mp done
  obtain ⟨taken, took, done⟩ := bind_eq_ok.mp done
  obtain ⟨enriched, enriches, done⟩ := bind_eq_ok.mp done
  obtain rfl := Except.ok.inj done
  obtain ⟨_, _, sourced⟩ := bind_eq_ok.mp sourced
  obtain ⟨found, made, sourced⟩ := bind_eq_ok.mp sourced
  have same : found = references := by
    split at sourced
    · cases sourced
    · exact Except.ok.inj sourced
  subst same
  obtain ⟨mapped, all, few⟩ := verify_artifacts_ok read
  have is := snapshot_taken took
  obtain ⟨enrichment, claims, done⟩ := bind_eq_ok.mp enriches
  obtain rfl := Except.ok.inj done
  obtain ⟨rows, claimed, _⟩ := bind_eq_ok.mp claims
  refine ⟨mapped ▸ artifact_references_ok made, all, few, by rw [is.manifest]; rfl, ⟨_, taken, is, rfl, rfl, rfl⟩, fun row member => ?_⟩
  obtain ⟨_, _, one⟩ := forall₂_left (mapM_ok.mp claimed) member
  rw [is.manifest] at one
  exact claim_ok one

/-- What a snapshot quotes is in the package. -/
structure Supported (library : Library) (db : Database) (dockyard_id : Nat) (snapshot : Snapshot) (members : List (Text × Bytes)) : Prop where
  findings : ∀ row ∈ snapshot.findings, row.evidence ≠ [] ∧ ∀ item ∈ row.evidence, Packed library members item.sha256
  records : ∀ record ∈ db.evidence_records, record.dockyard_id = dockyard_id → Packed library members record.sha256
  validations : ∀ row ∈ snapshot.findings, ∀ run ∈ row.validations, run.status = .completed → run.evidence_path.isSome = true →
    Packed library members (run.result_sha256.getD []) ∧
      (present run.manifest_sha256 = true → Packed library members (run.manifest_sha256.getD []))
  correlation : ∀ run, snapshot.correlation = some run → run.evidence_path.isSome = true → Packed library members (run.result_sha256.getD [])
  intelligence : ∀ run, snapshot.intelligence = some run → run.evidence_path.isSome = true →
    (run.input_sha256 ≠ [] → Packed library members run.input_sha256) ∧
      (present run.result_sha256 = true → present run.metadata_sha256 = true → Packed library members (run.result_sha256.getD []))

theorem Captured.supported {report : Report} {members : List (Text × Bytes)} (captured : Captured library files db dockyard_id report)
    (closed : Closed library report members) : Supported library db dockyard_id report.snapshot members := by
  have packed {hash : Text} (known : hash ∈ report.verified.map VerifiedArtifact.sha256) : Packed library members hash := by
    obtain ⟨artifact, member, rfl⟩ := List.mem_map.mp known
    rw [← captured.manifest] at member
    exact ⟨_, closed.evidence artifact member⟩
  have cites {citation : Citation} (listed : citation ∈ citations db dockyard_id) {hash : Text} (hashed : hash ∈ citation.hashes) :
      Packed library members hash := by
    obtain ⟨item, member, is⟩ := captured.referenced.complete citation listed hash hashed
    obtain ⟨artifact, inside, rfl⟩ := List.mem_map.mp member
    exact packed (is ▸ List.mem_map_of_mem inside)
  obtain ⟨_, taken, is, findings, correlation, intelligence⟩ := captured.taken
  refine ⟨fun row member => ?_, fun record member own => ?_, fun row member run listed completed placed => ?_, fun run last placed => ?_,
    fun run last placed => ?_⟩
  · exact ⟨(captured.claimed row member).1, fun item cited => packed ((captured.claimed row member).2 item cited)⟩
  · have listed : record ∈ evidence_records db dockyard_id := mem_ordered.mpr (List.mem_filter.mpr ⟨member, by simpa using own⟩)
    exact cites (by simp [citations]; exact .inl ⟨record, listed, rfl⟩) (by simp [record_citation])
  · have finished : run ∈ finished_validations db dockyard_id :=
      List.mem_filter.mpr ⟨is.validations row (findings ▸ member) run listed, by simp [completed, placed]⟩
    have known : validation_citation run ∈ citations db dockyard_id := by
      simp only [citations, List.mem_append, List.mem_map]
      exact .inl (.inl (.inr ⟨run, finished, rfl⟩))
    exact ⟨cites known (by simp [validation_citation]), fun manifest => cites known (by simp [validation_citation, manifest])⟩
  · obtain ⟨member, completed⟩ := is.correlation run (correlation ▸ last)
    have finished : run ∈ finished_correlations db dockyard_id := List.mem_filter.mpr ⟨member, by simp [completed, placed]⟩
    have known : correlation_citation run ∈ citations db dockyard_id := by
      simp only [citations, List.mem_append, List.mem_map]
      exact .inl (.inr ⟨run, finished, rfl⟩)
    exact cites known (by simp [correlation_citation])
  · obtain ⟨member, completed⟩ := is.intelligence run (intelligence ▸ last)
    have retained : run ∈ retained_intelligence db dockyard_id := List.mem_filter.mpr ⟨member, by simp [completed, placed]⟩
    have known : intelligence_citation run ∈ citations db dockyard_id := by
      simp only [citations, List.mem_append, List.mem_map]
      exact .inr ⟨run, retained, rfl⟩
    exact ⟨fun input => cites known (by simp [intelligence_citation, input]),
      fun result metadata => cites known (by simp [intelligence_citation, advice_hashes, completed, result, metadata])⟩

end

/-- A digest and a parser. -/
def plain_library : Library where
  sha256 := fun _ => List.replicate 64 '0'
  digest := fun _ => by decide
  loads := fun _ => none

/-- A Dockyard with one file of evidence. -/
def scanned : Database where
  dockyards := [{ id := 1, name := "lab".toList, status := "active".toList }]
  evidence_records := [{
    id := 1
    dockyard_id := 1
    discovery_run_id := 1
    kind := "raw".toList
    relative_path := "scan".toList
    media_type := "text".toList
    size_bytes := 1
    sha256 := List.replicate 64 '0'
    truncated := false }]

example : (capture plain_library (fun path => if path = ["1".toList, "1".toList, "scan".toList] then some [65] else none) scanned 1).toBool =
    true := by decide +kernel

end RedDock.Reporting
