import RedDock.DatabaseEvidence

/-!
# What the evidence references depend on

`_validate_database_evidence` asks the records and the reader for members below
the evidence directory only, and reads none that is longer than a manifest.
-/
set_option autoImplicit false
namespace RedDock.EvidenceReferences
open Text Fallible Checks ManifestChecks DatabaseEvidence

theorem bind_congr_ok {ε α β : Type} {x : Except ε α} {f g : α → Except ε β} (same : ∀ a, x = .ok a → f a = g a) : x >>= f = x >>= g := by
  cases x with
  | ok a => exact same a rfl
  | error e => rfl

theorem foldlM_congr_step {ε α β : Type} {f g : β → α → Except ε β} (same : ∀ b a, f b a = g b a) (items : List α) (start : β) :
    items.foldlM f start = items.foldlM g start := by
  have equal : f = g := funext fun b => funext (same b)
  rw [equal]

/-- Records and readers that agree below the evidence directory. -/
structure Agree (records others : List Record) (reader other_reader : Text → Except Raised Bytes) : Prop where
  recorded : ∀ member, "evidence/".toList <+: member → record_of records member = record_of others member
  readable : ∀ member record, "evidence/".toList <+: member → record_of records member = some record →
    record.size_bytes ≤ (MAX_MANIFEST_BYTES : Int) → reader member = other_reader member

section
variable {strings : Strings} {loads : Bytes → Except Unread Value} {parse_int : SqlValue → Option Int} {records others : List Record}
  {reader other_reader : Text → Except Raised Bytes}

/-- A reference is to a member below the evidence directory. -/
theorem evidence_member_below {base relative : Option Text} {member : Text} (ran : evidence_member strings base relative = .ok member) :
    "evidence/".toList <+: member := by
  unfold evidence_member at ran
  split at ran
  next base relative =>
    simp only at ran
    split at ran
    · cases ran
      rw [List.append_assoc]
      exact List.prefix_append _ _
    · cases ran
  · cases ran

theorem validate_reference_agree (agree : Agree records others reader other_reader) {member : Text} (below : "evidence/".toList <+: member)
    (digest : Option PyStr) (size : Size) : validate_reference records member digest size = validate_reference others member digest size := by
  unfold validate_reference
  rw [agree.recorded member below]

theorem see_artifact_agree (agree : Agree records others reader other_reader) (base : Text) (seen : List Text) (item : Value) :
    see_artifact strings records base seen item = see_artifact strings others base seen item := by
  unfold see_artifact
  split
  · split
    · split
      · simp only
        split
        · refine bind_congr_ok fun member named => ?_
          rw [validate_reference_agree agree (evidence_member_below named)]
        · rfl
      · rfl
    · rfl
  · rfl

theorem validation_manifest_agree (agree : Agree records others reader other_reader) (base : Text) (payload : Bytes) :
    validate_validation_manifest strings loads records base payload = validate_validation_manifest strings loads others base payload := by
  have artifacts : see_artifact strings records base = see_artifact strings others base :=
    funext fun seen => funext (see_artifact_agree agree base seen)
  unfold validate_validation_manifest
  rw [artifacts]

theorem evidence_row_agree (agree : Agree records others reader other_reader) (count : Nat) (row : Except Unfetched EvidenceRow) :
    validate_evidence_row strings parse_int records count row = validate_evidence_row strings parse_int others count row := by
  refine bind_congr_ok fun row _ => ?_
  refine bind_congr_ok fun count _ => ?_
  refine bind_congr_ok fun dockyard_id _ => ?_
  refine bind_congr_ok fun run_id _ => ?_
  refine bind_congr_ok fun member named => ?_
  rw [validate_reference_agree agree (evidence_member_below named)]

theorem run_file_agree (agree : Agree records others reader other_reader) (base : SqlValue) (count : Nat) (file : String × SqlValue) :
    validate_run_file strings records base count file = validate_run_file strings others base count file := by
  unfold validate_run_file
  split
  · rfl
  · refine bind_congr_ok fun count _ => ?_
    refine bind_congr_ok fun member named => ?_
    rw [validate_reference_agree agree (evidence_member_below named)]

theorem run_manifest_agree (agree : Agree records others reader other_reader) (base : SqlValue) :
    validate_run_manifest strings loads records reader base = validate_run_manifest strings loads others other_reader base := by
  refine bind_congr_ok fun member named => ?_
  have below := evidence_member_below named
  rw [← agree.recorded member below]
  cases found : record_of records member with
  | none => rfl
  | some record =>
    simp only
    split
    · rfl
    next small =>
      rw [agree.readable member record below found (Int.not_lt.mp small)]
      exact bind_congr_ok fun payload _ => validation_manifest_agree agree _ payload

theorem run_row_agree (agree : Agree records others reader other_reader) (table : String) (files : List String) (count : Nat)
    (row : Except Unfetched RunRow) : validate_run_row strings loads records reader table files count row =
      validate_run_row strings loads others other_reader table files count row := by
  refine bind_congr_ok fun row _ => ?_
  simp only [foldlM_congr_step (run_file_agree agree row.base), run_manifest_agree agree]

theorem runs_agree (agree : Agree records others reader other_reader) (connection : Connection) (tables : List Text) (count : Nat)
    (entry : String × List String) : validate_runs strings loads records reader connection tables count entry =
      validate_runs strings loads others other_reader connection tables count entry := by
  unfold validate_runs
  rw [foldlM_congr_step (run_row_agree agree entry.1 entry.2)]

theorem rows_agree (agree : Agree records others reader other_reader) (connection : Connection) :
    validate_rows strings loads parse_int records reader connection = validate_rows strings loads parse_int others other_reader connection := by
  refine bind_congr_ok fun _ _ => ?_
  refine bind_congr_ok fun tables _ => ?_
  have rows : validate_evidence_rows strings parse_int records connection tables =
      validate_evidence_rows strings parse_int others connection tables := by
    unfold validate_evidence_rows
    rw [foldlM_congr_step (evidence_row_agree agree)]
  rw [rows]
  refine bind_congr_ok fun count _ => ?_
  rw [foldlM_congr_step (runs_agree agree connection tables)]

/-- A database is validated alike over records and readers that agree. -/
theorem database_evidence_agree (agree : Agree records others reader other_reader) (size : Nat) (connection : Connection)
    (expected_revision : Value) : validate_database_evidence strings loads parse_int records reader size connection expected_revision =
      validate_database_evidence strings loads parse_int others other_reader size connection expected_revision := by
  refine bind_congr_ok fun revision _ => ?_
  rw [rows_agree agree]

end
end RedDock.EvidenceReferences
