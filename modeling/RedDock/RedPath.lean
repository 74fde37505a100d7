import RedDock.FindingCorrelations

/-!
# The graph of a run among other commits

A run reads its sources one query after another, and each query sees what is
committed when it is made. The graph of the run is sound exactly when no
finding with evidence that it reads is on an asset that its first query has not
seen.
-/
set_option autoImplicit false
namespace RedDock.RedPath
open Text Retained Correlation Fallible FindingCorrelations
open Inventory (Asset EvidenceRecord fresh)

/-- Committed rows: assets and findings with keys of their own, and evidence
    with the hash of its bytes. -/
structure Committed where
  db : Database
  keyed : Keyed db
  hashed : ∀ record ∈ db.evidence_records, record.sha256 ≠ []

/-- What the first three queries have returned. -/
structure Inputs where
  assets : List Asset
  findings : List Finding
  hashes : List (Nat × Text)

/-- Where a run is: which query comes next, and what it has read. -/
inductive Phase
  | assets
  | findings (assets : List Asset)
  | hashes (assets : List Asset) (findings : List Finding)
  | observations (inputs : Inputs) (found : List Relation) (web host : Asset) (rest : List Asset)
  | evidence (inputs : Inputs) (found : List Relation) (web host : Asset) (observation : Observation) (rest : List Asset)
  | derived (rows : Store) (graph : Graph)
  | rejected (error : Text)

/-- Discovery and detection commit, or the run makes its next query. -/
inductive Action
  | commit (committed : Committed)
  | read

section
variable (settings : Settings) (store : Store) (run : Run)

/-- The rest of `_asset_relationships`, up to its next query. -/
def resume (inputs : Inputs) (found : List Relation) : List Asset → Phase
  | [] => match derive settings run store inputs.assets inputs.findings inputs.hashes found with
    | .ok (rows, graph) => .derived rows graph
    | .error error => .rejected error
  | web :: rest => match host_of inputs.assets web with
    | none => resume inputs found rest
    | some host => .observations inputs found web host rest

/-- One query of `_perform`. Without findings the hashes are not queried; there
    are none then either. -/
def read (db : Database) : Phase → Phase
  | .assets => .findings (assets_of db run.dockyard_id)
  | .findings assets =>
    let findings := findings_of db run.dockyard_id
    match within_inputs settings assets findings with
    | .error error => .rejected error
    | .ok () => .hashes assets findings
  | .hashes assets findings => resume settings store run ⟨assets, findings, finding_hashes db findings⟩ [] (webs assets)
  | .observations inputs found web host rest => match response_at db run.dockyard_id web with
    | none => resume settings store run inputs found rest
    | some observation => .evidence inputs found web host observation rest
  | .evidence inputs found web host observation rest => match normalized_record db run.dockyard_id observation.discovery_run_id with
    | none => resume settings store run inputs found rest
    | some evidence => resume settings store run inputs (found ++ [⟨web, host, observation, evidence⟩]) rest
  | .derived rows graph => .derived rows graph
  | .rejected error => .rejected error

/-- A run among commits, from what is committed and where it is. -/
def perform_among (committed : Committed) (phase : Phase) : List Action → Phase
  | [] => phase
  | .commit next :: actions => perform_among next phase actions
  | .read :: actions => perform_among committed (read settings store run committed.db phase) actions

end

/-- What is committed at each query. -/
def reads (committed : Committed) : List Action → List Committed
  | [] => []
  | .commit next :: actions => reads next actions
  | .read :: actions => committed :: reads committed actions

/-! ### Sound graphs -/

/-- A graph whose edges join its nodes and carry hashes, and whose ids differ. -/
structure Sound (graph : Graph) : Prop where
  closed : ∀ edge ∈ graph.edges, edge.source ∈ graph.nodes.map Node.id ∧ edge.target ∈ graph.nodes.map Node.id
  evidenced : ∀ edge ∈ graph.edges, ∃ digest ∈ edge.evidence_sha256, digest ≠ []
  node_ids : (graph.nodes.map Node.id).Nodup
  edge_ids : (graph.edges.map Edge.id).Nodup

/-- Each finding of the second state that cites evidence of the third is on an
    asset of the first. -/
def Covered (dockyard_id : Nat) (first second third : Database) : Prop :=
  ∀ finding ∈ second.findings, finding.dockyard_id = dockyard_id → ∀ asset_id, finding.asset_id = some asset_id →
    (∃ link ∈ third.finding_evidence, link.finding_id = finding.id ∧
      ∃ record ∈ third.evidence_records, link.evidence_record_id = some record.id) →
    ∃ asset ∈ first.assets, asset.dockyard_id = dockyard_id ∧ asset.id = asset_id

theorem dec_injective : Function.Injective dec := Function.LeftInverse.injective ofDec_dec

theorem asset_node_id_inj {one other : Nat} (same : asset_node_id one = asset_node_id other) : one = other := by
  unfold asset_node_id at same
  exact dec_injective (List.append_cancel_left same)

theorem finding_node_id_inj {one other : Nat} (same : finding_node_id one = finding_node_id other) : one = other := by
  unfold finding_node_id at same
  exact dec_injective (List.append_cancel_left same)

theorem node_ids_apart (asset_id finding_id : Nat) : asset_node_id asset_id ≠ finding_node_id finding_id := by
  intro same
  have heads : some 'a' = some 'f' := congrArg List.head? same
  cases heads

/-! ### Hashes -/

section
variable {db : Database} {findings : List Finding}

theorem mem_finding_hashes {entry : Nat × Text} : entry ∈ finding_hashes db findings →
    ∃ record ∈ db.evidence_records, entry.2 = record.sha256 := by
  intro member
  obtain ⟨link, _, is⟩ := List.mem_filterMap.mp member
  obtain ⟨record, found, rfl⟩ := Option.map_eq_some_iff.mp is
  exact ⟨record, List.mem_of_find?_eq_some found, rfl⟩

/-- A hash of a finding is that of a stored record. -/
theorem hash_of_record {finding_id : Nat} {digest : Text} (is : (finding_hashes db findings).lookup finding_id = some digest) :
    ∃ record ∈ db.evidence_records, digest = record.sha256 := by
  obtain ⟨before, after, split, _⟩ := List.lookup_eq_some_iff.mp is
  exact mem_finding_hashes (split ▸ List.mem_append_right before List.mem_cons_self)

theorem supported_iff {finding : Finding} (listed : finding ∈ findings) : supported (finding_hashes db findings) finding = true ↔
    ∃ link ∈ db.finding_evidence, link.finding_id = finding.id ∧
      ∃ record ∈ db.evidence_records, link.evidence_record_id = some record.id := by
  rw [supported, List.lookup_isSome_iff]
  constructor
  · rintro ⟨entry, member, same⟩
    obtain ⟨link, inside, is⟩ := List.mem_filterMap.mp member
    obtain ⟨record, found, rfl⟩ := Option.map_eq_some_iff.mp is
    have cites := List.find?_some found
    exact ⟨link, (List.mem_filter.mp ((List.mem_insertionSort _).mp inside)).1, (beq_iff_eq.mp same).symm, record,
      List.mem_of_find?_eq_some found, of_decide_eq_true cites⟩
  · rintro ⟨link, stored, own, record, recorded, cites⟩
    have some_record : (db.evidence_records.find? fun record => link.evidence_record_id = some record.id).isSome = true :=
      List.find?_isSome.mpr ⟨record, recorded, decide_eq_true cites⟩
    obtain ⟨first, found⟩ := Option.isSome_iff_exists.mp some_record
    have inside : link.finding_id ∈ findings.map Finding.id := own ▸ List.mem_map_of_mem listed
    refine ⟨(link.finding_id, first.sha256), List.mem_filterMap.mpr ⟨link, (List.mem_insertionSort _).mpr
      (List.mem_filter.mpr ⟨stored, decide_eq_true inside⟩), ?_⟩, beq_iff_eq.mpr own.symm⟩
    rw [found]
    rfl

end

/-! ### Edges -/

theorem relationship_edge_evidence (row : AssetRelationship) :
    (relationship_edge row).evidence_sha256 = if row.evidence_sha256.isEmpty then [] else [row.evidence_sha256] := rfl

theorem correlation_edge_evidence (row : FindingCorrelation) :
    (correlation_edge row).evidence_sha256 = [row.source_evidence_sha256, row.target_evidence_sha256].filter (!·.isEmpty) := rfl

/-- The ids of numbered rows. -/
theorem numbered_ids_nodup {α β : Type} {make : Nat → α → β} {key : β → Nat} (agree : ∀ id item, key (make id item) = id)
    (first : Nat) (items : List α) : ((numbered make first items).map key).Nodup := by
  have ids : (numbered make first items).map key = List.range' first items.length := by
    refine List.ext_getElem (by simp [numbered]) fun index _ _ => ?_
    simp [numbered, agree]
  rw [ids]
  exact List.nodup_range'

/-- Calls that add rows are among those that are made. -/
theorem added_mem {settings : Settings} {limit : Nat} {items added result : List Call}
    (ran : items.foldlM (add settings limit) added = .ok result) {call : Call} (member : call ∈ result) : call ∈ added ∨ call ∈ items := by
  induction items generalizing added with
  | nil =>
    cases ran
    exact Or.inl member
  | cons item items ih =>
    obtain ⟨next, here, ran⟩ := bind_eq_ok.mp ran
    have grown : ∀ other ∈ next, other ∈ added ∨ other = item := by
      unfold add at here
      split at here
      · cases here
        exact fun _ inside => Or.inl inside
      · split at here
        · cases here
        · cases here
          exact fun _ inside => (List.mem_append.mp inside).imp_right List.mem_singleton.mp
    rcases ih ran with early | late
    · rcases grown call early with before | rfl
      · exact Or.inl before
      · exact Or.inr List.mem_cons_self
    · exact Or.inr (List.mem_cons_of_mem _ late)

/-- Relations of assets that were read, with the hash of their evidence. -/
def Found (assets : List Asset) (found : List Relation) : Prop :=
  ∀ relation ∈ found, Joins assets relation ∧ relation.evidence.sha256 ≠ []

section
variable {settings : Settings} {run : Run} {store rows : Store} {assets : List Asset} {findings : List Finding}
  {hashes : List (Nat × Text)} {found : List Relation} {graph : Graph}

/-- What a run that is not rejected derives. -/
theorem derive_ok (is : derive settings run store assets findings hashes found = .ok (rows, graph)) :
    ∃ correlations, (∀ call ∈ correlations, call ∈ calls findings hashes
        (numbered (asset_relationship run) (fresh (store.asset_relationships.map (·.id))) found)) ∧
      rows = numbered_rows run store hashes found correlations (framework_mappings findings hashes) ∧
      graph = graph_document assets findings hashes rows := by
  simp only [derive] at is
  split at is
  · cases is
  obtain ⟨correlations, ran, is⟩ := bind_eq_ok.mp is
  cases is
  exact ⟨correlations, fun call member => (added_mem ran member).resolve_left (List.not_mem_nil), rfl, rfl⟩

/-- Both findings of a call were read and have hashes. -/
theorem call_findings {relationships : List AssetRelationship} {call : Call} (member : call ∈ calls findings hashes relationships) :
    (call.left ∈ findings ∧ supported hashes call.left = true) ∧ call.right ∈ findings ∧ supported hashes call.right = true := by
  have of_group : ∀ {asset_id : Nat} {finding : Finding}, finding ∈ group findings hashes asset_id →
      finding ∈ findings ∧ supported hashes finding = true := fun inside => ⟨(mem_group.mp inside).1, (mem_group.mp inside).2.2⟩
  rcases mem_calls member with ⟨asset_id, inside⟩ | ⟨row, _, inside⟩
  · exact ⟨of_group (same_asset_of_mem inside).left, of_group (same_asset_of_mem inside).right⟩
  · exact ⟨of_group (related_of_mem inside).left, of_group (related_of_mem inside).right⟩

theorem source_target (P : Finding → Prop) (call : Call) (left : P call.left) (right : P call.right) :
    P call.source ∧ P call.target := by
  unfold Call.source Call.target
  split
  · exact ⟨right, left⟩
  · exact ⟨left, right⟩

/-- An edge between nodes of the graph, with a hash. -/
def Fits (assets : List Asset) (findings : List Finding) (edge : Edge) : Prop :=
  (edge.source ∈ (assets.map asset_node ++ findings.map finding_node).map Node.id ∧
    edge.target ∈ (assets.map asset_node ++ findings.map finding_node).map Node.id) ∧
  ∃ digest ∈ edge.evidence_sha256, digest ≠ []

theorem asset_node_mem (findings : List Finding) {asset : Asset} (listed : asset ∈ assets) :
    asset_node_id asset.id ∈ (assets.map asset_node ++ findings.map finding_node).map Node.id :=
  List.mem_map.mpr ⟨asset_node asset, List.mem_append_left _ (List.mem_map_of_mem listed), rfl⟩

theorem finding_node_mem (assets : List Asset) {finding : Finding} (listed : finding ∈ findings) :
    finding_node_id finding.id ∈ (assets.map asset_node ++ findings.map finding_node).map Node.id :=
  List.mem_map.mpr ⟨finding_node finding, List.mem_append_right _ (List.mem_map_of_mem listed), rfl⟩

/-- The asset nodes are those of assets. -/
theorem asset_of_node {asset_id : Nat} (member : asset_node_id asset_id ∈ (assets.map asset_node ++ findings.map finding_node).map Node.id) :
    ∃ asset ∈ assets, asset.id = asset_id := by
  obtain ⟨node, inside, is⟩ := List.mem_map.mp member
  rcases List.mem_append.mp inside with of_asset | of_finding
  · obtain ⟨asset, listed, rfl⟩ := List.mem_map.mp of_asset
    have same : asset_node_id asset.id = asset_node_id asset_id := is
    exact ⟨asset, listed, asset_node_id_inj same⟩
  · obtain ⟨finding, _, rfl⟩ := List.mem_map.mp of_finding
    exact absurd is.symm (node_ids_apart asset_id finding.id)

/-- What a numbered row is made from. -/
theorem mem_numbered {α β : Type} {make : Nat → α → β} {first : Nat} {items : List α} {row : β} (member : row ∈ numbered make first items) :
    ∃ id, ∃ item ∈ items, row = make id item := by
  obtain ⟨index, inside, rfl⟩ := List.mem_mapIdx.mp member
  exact ⟨_, _, List.getElem_mem inside, rfl⟩

theorem relationship_fits (related : Found assets found) {first : Nat} {row : AssetRelationship}
    (member : row ∈ numbered (asset_relationship run) first found) : Fits assets findings (relationship_edge row) := by
  obtain ⟨id, relation, inside, is⟩ := mem_numbered member
  obtain ⟨joins, hashed⟩ := related relation inside
  have web : row.source_asset_id = relation.web.id := by rw [is, asset_relationship]
  have host : row.target_asset_id = relation.host.id := by rw [is, asset_relationship]
  have digest : row.evidence_sha256 ≠ [] := by rwa [is, asset_relationship]
  have source := asset_node_mem findings (List.mem_filter.mp joins.web).1
  have target := asset_node_mem findings joins.host
  rw [← web] at source
  rw [← host] at target
  exact ⟨⟨source, target⟩, row.evidence_sha256, by simp [relationship_edge_evidence, digest], digest⟩

theorem correlation_fits {relationships : List AssetRelationship} {correlations : List Call}
    (hashed : ∀ id digest, hashes.lookup id = some digest → digest ≠ []) (made : ∀ call ∈ correlations, call ∈ calls findings hashes relationships)
    {first : Nat} {row : FindingCorrelation} (member : row ∈ numbered (finding_correlation run hashes) first correlations) :
    Fits assets findings (correlation_edge row) := by
  obtain ⟨id, call, inside, is⟩ := mem_numbered member
  obtain ⟨left, right⟩ := call_findings (made call inside)
  obtain ⟨source, target⟩ := source_target (fun finding => finding ∈ findings ∧ supported hashes finding = true) call left right
  obtain ⟨digest, hash⟩ := Option.isSome_iff_exists.mp source.2
  have source_id : row.source_finding_id = call.source.id := by rw [is, finding_correlation]
  have target_id : row.target_finding_id = call.target.id := by rw [is, finding_correlation]
  have source_hash : row.source_evidence_sha256 = digest := by rw [is, finding_correlation, hash, Option.getD_some]
  have source_node := finding_node_mem assets source.1
  have target_node := finding_node_mem assets target.1
  rw [← source_id] at source_node
  rw [← target_id] at target_node
  exact ⟨⟨source_node, target_node⟩, digest, by simp [correlation_edge_evidence, source_hash, hashed _ _ hash], hashed _ _ hash⟩

theorem subject_edge_ok {finding : Finding} {edge : Edge} (is : subject_edge hashes finding = some edge) :
    ∃ asset_id digest, finding.asset_id = some asset_id ∧ hashes.lookup finding.id = some digest ∧
      edge.id = "finding-subject:".toList ++ dec finding.id ∧ edge.source = asset_node_id asset_id ∧
      edge.target = finding_node_id finding.id ∧ edge.evidence_sha256 = [digest] := by
  unfold subject_edge at is
  obtain ⟨asset_id, on, is⟩ := Option.bind_eq_some_iff.mp is
  obtain ⟨digest, hash, is⟩ := Option.bind_eq_some_iff.mp is
  cases is
  exact ⟨asset_id, digest, on, hash, rfl, rfl, rfl, rfl⟩

/-- Ids that are a text before a number of their own. -/
theorem prefixed_nodup {β : Type} {items : List β} {key : β → Nat} (before : Text) (distinct : (items.map key).Nodup) :
    (items.map fun item => before ++ dec (key item)).Nodup := by
  have same : (items.map fun item => before ++ dec (key item)) = (items.map key).map fun id => before ++ dec id := by rw [List.map_map]; rfl
  rw [same]
  exact distinct.map fun _ _ is => dec_injective (List.append_cancel_left is)

theorem node_ids_nodup (asset_ids : (assets.map (·.id)).Nodup) (finding_ids : (findings.map Finding.id).Nodup) :
    ((assets.map asset_node ++ findings.map finding_node).map Node.id).Nodup := by
  rw [List.map_append, List.map_map, List.map_map]
  refine (prefixed_nodup "asset:".toList asset_ids).append (prefixed_nodup "finding:".toList finding_ids) fun id left right => ?_
  obtain ⟨asset, _, rfl⟩ := List.mem_map.mp left
  obtain ⟨finding, _, is⟩ := List.mem_map.mp right
  exact node_ids_apart asset.id finding.id is.symm

theorem subject_ids (hashes : List (Nat × Text)) (findings : List Finding) : ((findings.filterMap (subject_edge hashes)).map Edge.id).Sublist
    (findings.map fun finding => "finding-subject:".toList ++ dec finding.id) := by
  refine filterMap_sublist (fun finding edge is => ?_) findings
  obtain ⟨_, _, _, _, id, _⟩ := subject_edge_ok is
  exact id

theorem edge_ids_nodup {relationships : List AssetRelationship} {correlations : List FindingCorrelation}
    (finding_ids : (findings.map Finding.id).Nodup) (relationship_ids : (relationships.map AssetRelationship.id).Nodup)
    (correlation_ids : (correlations.map FindingCorrelation.id).Nodup) :
    ((relationships.map relationship_edge ++ findings.filterMap (subject_edge hashes) ++ correlations.map correlation_edge).map
      Edge.id).Nodup := by
  have subjects := subject_ids hashes findings
  rw [List.map_append, List.map_append, List.map_map, List.map_map]
  -- the kinds of edges differ in how their ids begin
  refine ((prefixed_nodup "asset-relationship:".toList relationship_ids).append
    ((prefixed_nodup "finding-subject:".toList finding_ids).sublist subjects) fun id left right => ?_).append
    (prefixed_nodup "finding-correlation:".toList correlation_ids) fun id left right => ?_
  · obtain ⟨row, _, rfl⟩ := List.mem_map.mp left
    obtain ⟨finding, _, is⟩ := List.mem_map.mp (subjects.subset right)
    have begins : "f".toList = "a".toList := congrArg (List.take 1) is
    exact absurd begins (by decide)
  · obtain ⟨row, _, rfl⟩ := List.mem_map.mp right
    rcases List.mem_append.mp left with of_relationship | of_subject
    · obtain ⟨other, _, is⟩ := List.mem_map.mp of_relationship
      have begins : "a".toList = "f".toList := congrArg (List.take 1) is
      exact absurd begins (by decide)
    · obtain ⟨finding, _, is⟩ := List.mem_map.mp (subjects.subset of_subject)
      have begins : "finding-s".toList = "finding-c".toList := congrArg (List.take 9) is
      exact absurd begins (by decide)

/-- The graph that is derived is sound exactly when each finding with a hash is
    on no asset or on one that was read. -/
theorem sound_iff (asset_ids : (assets.map (·.id)).Nodup) (finding_ids : (findings.map Finding.id).Nodup) (related : Found assets found)
    (hashed : ∀ id digest, hashes.lookup id = some digest → digest ≠ [])
    (is : derive settings run store assets findings hashes found = .ok (rows, graph)) :
    Sound graph ↔ ∀ finding ∈ findings, ∀ asset_id, finding.asset_id = some asset_id → supported hashes finding = true →
      ∃ asset ∈ assets, asset.id = asset_id := by
  obtain ⟨correlations, made, is_rows, rfl⟩ := derive_ok is
  constructor
  · intro sound finding listed asset_id on holds
    obtain ⟨digest, hash⟩ := Option.isSome_iff_exists.mp holds
    obtain ⟨edge, is_edge⟩ : ∃ edge, subject_edge hashes finding = some edge := by
      rw [subject_edge, on, hash]
      exact ⟨_, rfl⟩
    obtain ⟨asset_id', _, on', _, _, source, _⟩ := subject_edge_ok is_edge
    cases Option.some.inj (on.symm.trans on')
    have inside : edge ∈ (graph_document assets findings hashes rows).edges :=
      List.mem_append_left _ (List.mem_append_right _ (List.mem_filterMap.mpr ⟨finding, listed, is_edge⟩))
    have node := (sound.closed edge inside).1
    rw [source] at node
    exact asset_of_node node
  · intro covered
    have fits : ∀ edge ∈ (graph_document assets findings hashes rows).edges, Fits assets findings edge := by
      intro edge member
      rcases List.mem_append.mp member with first | of_correlation
      · rcases List.mem_append.mp first with of_relationship | of_subject
        · obtain ⟨row, inside, rfl⟩ := List.mem_map.mp of_relationship
          rw [is_rows] at inside
          exact relationship_fits related inside
        · obtain ⟨finding, listed, is_edge⟩ := List.mem_filterMap.mp of_subject
          obtain ⟨asset_id, digest, on, hash, _, source, target, evidence⟩ := subject_edge_ok is_edge
          obtain ⟨asset, read, rfl⟩ := covered finding listed asset_id on (by rw [supported, hash]; rfl)
          rw [Fits, source, target, evidence]
          exact ⟨⟨asset_node_mem findings read, finding_node_mem assets listed⟩, digest, List.mem_singleton_self _, hashed _ _ hash⟩
      · obtain ⟨row, inside, rfl⟩ := List.mem_map.mp of_correlation
        rw [is_rows] at inside
        exact correlation_fits hashed made inside
    have relationship_ids : (rows.asset_relationships.map AssetRelationship.id).Nodup := by
      rw [is_rows]
      exact numbered_ids_nodup (fun _ _ => rfl) _ _
    have correlation_ids : (rows.finding_correlations.map FindingCorrelation.id).Nodup := by
      rw [is_rows]
      exact numbered_ids_nodup (fun _ _ => rfl) _ _
    exact {
      closed := fun edge member => (fits edge member).1
      evidenced := fun edge member => (fits edge member).2
      node_ids := node_ids_nodup asset_ids finding_ids
      edge_ids := edge_ids_nodup finding_ids relationship_ids correlation_ids }

end

/-! ### Runs among commits -/

/-- A run that has read its first inputs, and only related what it read. -/
def Kept (settings : Settings) (store : Store) (run : Run) (inputs : Inputs) : Phase → Prop
  | .assets | .findings _ | .hashes _ _ => False
  | .observations inputs' found web host rest => inputs' = inputs ∧ Found inputs.assets found ∧
      host_of inputs.assets web = some host ∧ ∀ asset ∈ web :: rest, asset ∈ webs inputs.assets
  | .evidence inputs' found web host _ rest => inputs' = inputs ∧ Found inputs.assets found ∧
      host_of inputs.assets web = some host ∧ ∀ asset ∈ web :: rest, asset ∈ webs inputs.assets
  | .derived rows graph => ∃ found, Found inputs.assets found ∧
      derive settings run store inputs.assets inputs.findings inputs.hashes found = .ok (rows, graph)
  | .rejected _ => True

section
variable {settings : Settings} {store : Store} {run : Run}

theorem kept_resume {inputs : Inputs} {found : List Relation} (related : Found inputs.assets found) {rest : List Asset}
    (listed : ∀ asset ∈ rest, asset ∈ webs inputs.assets) : Kept settings store run inputs (resume settings store run inputs found rest) := by
  induction rest with
  | nil =>
    unfold resume
    split
    · exact ⟨found, related, ‹_›⟩
    · trivial
  | cons web rest ih =>
    unfold resume
    split
    · exact ih (List.forall_mem_cons.mp listed).2
    · exact ⟨rfl, related, ‹_›, listed⟩

/-- The evidence that a run reads is a stored record. -/
theorem normalized_stored {db : Database} {dockyard_id discovery_run_id : Nat} {record : EvidenceRecord}
    (is : normalized_record db dockyard_id discovery_run_id = some record) : record ∈ db.evidence_records :=
  (List.mem_filter.mp ((List.mem_insertionSort _).mp (List.mem_of_head? is))).1

theorem kept_read {inputs : Inputs} {phase : Phase} (kept : Kept settings store run inputs phase) (committed : Committed) :
    Kept settings store run inputs (read settings store run committed.db phase) := by
  cases phase with
  | assets => exact kept.elim
  | findings _ => exact kept.elim
  | hashes _ _ => exact kept.elim
  | derived rows graph => exact kept
  | rejected error => trivial
  | observations inputs' found web host rest =>
    obtain ⟨rfl, related, is_host, listed⟩ := kept
    simp only [read]
    split
    · exact kept_resume related (List.forall_mem_cons.mp listed).2
    · exact ⟨rfl, related, is_host, listed⟩
  | evidence inputs' found web host observation rest =>
    obtain ⟨rfl, related, is_host, listed⟩ := kept
    obtain ⟨is_web, later⟩ := List.forall_mem_cons.mp listed
    simp only [read]
    split
    · exact kept_resume related later
    · rename_i evidence is
      refine kept_resume (fun relation member => ?_) later
      rcases List.mem_append.mp member with before | new
      · exact related relation before
      · rw [List.mem_singleton.mp new]
        exact ⟨⟨is_web, (host_of_joins is_host).1, (host_of_joins is_host).2⟩, committed.hashed _ (normalized_stored is)⟩

theorem kept_run {inputs : Inputs} {phase : Phase} (kept : Kept settings store run inputs phase) (committed : Committed)
    (actions : List Action) : Kept settings store run inputs (perform_among settings store run committed phase actions) := by
  induction actions generalizing committed phase with
  | nil => exact kept
  | cons action actions ih =>
    cases action with
    | commit next => exact ih kept next
    | read => exact ih (kept_read kept committed) committed

/-- A run stays where it is until it makes a query. -/
theorem first_read (settings : Settings) (store : Store) (run : Run) (committed : Committed) (phase : Phase) (actions : List Action) :
    perform_among settings store run committed phase actions = phase ∨
      ∃ state later, reads committed actions = state :: reads state later ∧
        perform_among settings store run committed phase actions =
          perform_among settings store run state (read settings store run state.db phase) later := by
  induction actions generalizing committed with
  | nil => exact Or.inl rfl
  | cons action actions ih =>
    cases action with
    | commit next => exact ih next
    | read => exact Or.inr ⟨committed, actions, rfl, rfl⟩

/-- A run that is rejected stays so. -/
theorem rejected_run (committed : Committed) (error : Text) (actions : List Action) :
    perform_among settings store run committed (.rejected error) actions = .rejected error := by
  induction actions generalizing committed with
  | nil => rfl
  | cons action actions ih =>
    cases action with
    | commit next => exact ih next
    | read => exact ih committed

/-- The inputs of a run that derives its graph are what its first three queries
    have seen. -/
theorem derived_inputs {start : Committed} {actions : List Action} {rows : Store} {graph : Graph}
    (derived : perform_among settings store run start .assets actions = .derived rows graph) :
    ∃ first second third rest, reads start actions = first :: second :: third :: rest ∧
      ∃ found, Found (assets_of first.db run.dockyard_id) found ∧
        derive settings run store (assets_of first.db run.dockyard_id) (findings_of second.db run.dockyard_id)
          (finding_hashes third.db (findings_of second.db run.dockyard_id)) found = .ok (rows, graph) := by
  rcases first_read settings store run start .assets actions with still | ⟨first, actions, at_first, ran⟩
  · rw [still] at derived
    cases derived
  rw [ran] at derived
  simp only [read] at derived
  rcases first_read settings store run first (.findings (assets_of first.db run.dockyard_id)) actions with
    still | ⟨second, actions, at_second, ran⟩
  · rw [still] at derived
    cases derived
  rw [ran] at derived
  simp only [read] at derived
  split at derived
  · rw [rejected_run] at derived
    cases derived
  rcases first_read settings store run second
    (.hashes (assets_of first.db run.dockyard_id) (findings_of second.db run.dockyard_id)) actions with
    still | ⟨third, actions, at_third, ran⟩
  · rw [still] at derived
    cases derived
  rw [ran] at derived
  simp only [read] at derived
  let inputs : Inputs := ⟨assets_of first.db run.dockyard_id, findings_of second.db run.dockyard_id,
    finding_hashes third.db (findings_of second.db run.dockyard_id)⟩
  have begins : Kept settings store run inputs (resume settings store run inputs [] (webs inputs.assets)) :=
    kept_resume (fun _ none => by cases none) fun _ listed => listed
  have kept := kept_run begins third actions
  rw [derived] at kept
  exact ⟨first, second, third, reads third actions, by rw [at_first, at_second, at_third], kept⟩

/-- The graph of a run among commits is sound exactly when what its first three
    queries have seen is covered. -/
theorem graph_sound_iff (settings : Settings) (store : Store) (run : Run) (start : Committed) (actions : List Action) (rows : Store)
    (graph : Graph) (derived : perform_among settings store run start .assets actions = .derived rows graph) :
    ∃ first second third rest, reads start actions = first :: second :: third :: rest ∧
      (Sound graph ↔ Covered run.dockyard_id first.db second.db third.db) := by
  obtain ⟨first, second, third, rest, seen, found, related, is⟩ := derived_inputs derived
  refine ⟨first, second, third, rest, seen, ?_⟩
  have own_asset : ∀ {asset}, asset ∈ assets_of first.db run.dockyard_id ↔ asset ∈ first.db.assets ∧ asset.dockyard_id = run.dockyard_id := by
    simp [assets_of, ordered]
  have own_finding : ∀ {finding}, finding ∈ findings_of second.db run.dockyard_id ↔
      finding ∈ second.db.findings ∧ finding.dockyard_id = run.dockyard_id := by
    simp [findings_of, ordered]
  have asset_ids : ((assets_of first.db run.dockyard_id).map (·.id)).Nodup :=
    List.pairwise_map.mpr ((assets_ordered first.keyed).imp fun less => Nat.ne_of_lt less)
  have hashed : ∀ id digest, (finding_hashes third.db (findings_of second.db run.dockyard_id)).lookup id = some digest → digest ≠ [] := by
    intro id digest hash
    obtain ⟨record, stored, rfl⟩ := hash_of_record hash
    exact third.hashed record stored
  rw [sound_iff asset_ids (finding_ids (findings_ordered second.keyed)) related hashed is]
  constructor
  · intro all finding stored own asset_id on cites
    have listed := own_finding.mpr ⟨stored, own⟩
    obtain ⟨asset, read, same⟩ := all finding listed asset_id on ((supported_iff listed).mpr cites)
    exact ⟨asset, (own_asset.mp read).1, (own_asset.mp read).2, same⟩
  · intro covered finding listed asset_id on holds
    obtain ⟨stored, own⟩ := own_finding.mp listed
    obtain ⟨asset, read, at_home, same⟩ := covered finding stored own asset_id on ((supported_iff listed).mp holds)
    exact ⟨asset, own_asset.mpr ⟨read, at_home⟩, same⟩

end

def nothing : Committed := ⟨{}, ⟨by decide, by decide⟩, fun _ none => by cases none⟩

/-- A host and its evidence, after a discovery run. -/
def discovered : Committed where
  db := { two_findings with findings := [], finding_evidence := [] }
  keyed := ⟨by decide, by decide⟩
  hashed := by decide

/-- And two findings on it, after a detection run. -/
def detected : Committed := ⟨two_findings, ⟨by decide, by decide⟩, by decide⟩

theorem graph_sound_iff_example : ∃ rows graph,
    perform_among {} {} ⟨1, 7⟩ detected .assets [.read, .read, .read] = .derived rows graph ∧ Sound graph := by
  have ends : (match perform_among {} {} ⟨1, 7⟩ detected .assets [.read, .read, .read] with
      | .derived _ _ => true
      | _ => false) = true := by decide +kernel
  split at ends
  · rename_i rows graph derived
    obtain ⟨first, second, third, rest, seen, sound⟩ :=
      graph_sound_iff {} {} ⟨1, 7⟩ detected [.read, .read, .read] rows graph derived
    cases seen
    refine ⟨rows, graph, derived, sound.mpr fun finding stored own asset_id on cites => ?_⟩
    refine ⟨host_asset 1, List.mem_cons_self, rfl, ?_⟩
    rcases List.mem_cons.mp stored with rfl | stored
    · exact Option.some.inj on
    · rw [List.mem_singleton.mp stored] at on
      exact Option.some.inj on
  · cases ends

/-- A discovery run and a detection run commit after the assets are read: the
    graph has an edge from an asset that is none of its nodes. -/
theorem dangling_subject_edge : ∃ rows graph,
    perform_among {} {} ⟨1, 7⟩ nothing .assets [.read, .commit discovered, .commit detected, .read, .read] = .derived rows graph ∧
      ∃ edge ∈ graph.edges, edge.source ∉ graph.nodes.map Node.id := by
  have ends : (match perform_among {} {} ⟨1, 7⟩ nothing .assets [.read, .commit discovered, .commit detected, .read, .read] with
      | .derived _ graph => graph.edges.any fun edge => edge.source ∉ graph.nodes.map Node.id
      | _ => false) = true := by decide +kernel
  split at ends
  · rename_i rows graph derived
    obtain ⟨edge, inside, dangling⟩ := List.any_eq_true.mp ends
    exact ⟨rows, graph, derived, edge, inside, of_decide_eq_true dangling⟩
  · cases ends

end RedDock.RedPath
