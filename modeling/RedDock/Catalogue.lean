import RedDock.HttpHeaders
import RedDock.Fallible

/-!
# The CVE catalogue

A catalogue is a JSON document with a list of entries. Its entries are put into
a table under the normalized product and version, and looked up there; what an
entry finds under its key, it replaces.
-/
set_option autoImplicit false
namespace RedDock.Catalogue
open Text Detection Fallible
open HttpHeaders (put split)

def CATALOG_SCHEMA : Text := "reddock.cve-catalog/1".toList
def EXACT_VERSION : Text := "exact_version".toList
def MAX_CVE_ID : Nat := 32
def MAX_URL : Nat := 255
def MAX_TEXT : Nat := 120

/-- A normalized product and version. -/
abbrev Key := Text × Text

/-- `_Entry` -/
structure Entry where
  cve_ids : List Text
  product : Text
  version : Text
  url : Option Text
  deriving DecidableEq

/-- `LocalCatalogEnrichment` -/
structure LocalCatalogEnrichment where
  source : Text
  version : Option Text
  entries : List (Key × Entry)

/-- `dict.get` -/
def get (members : List (Text × Json)) (field : String) : Option Json := members.lookup field.toList

/-- `CatalogError` -/
def catalog_error {α : Type} (message : Text) : Except Text α := .error message

def entry_error {α : Type} (index : Nat) (message : String) : Except Text α :=
  catalog_error ("Catalogue entry ".toList ++ dec index ++ " ".toList ++ message.toList)

/-- `_text` -/
def text (value : Option Json) (field : String) (limit : Nat) : Except Text (Option Text) :=
  match value with
  | none | some .null => .ok none
  | some (.str t) =>
    if limit < (strip t).length then
      catalog_error ("Catalogue field ".toList ++ field.toList ++ " must be ".toList ++ dec limit ++ " characters or fewer".toList)
    else .ok (if strip t = [] then none else some (strip t))
  | some _ => catalog_error ("Catalogue field ".toList ++ field.toList ++ " must be text".toList)

/-- One item of a `cve` array. -/
def cve_id (index : Nat) : Json → Except Text Text
  | .str t =>
    if strip t = [] then entry_error index "has a CVE identifier that is not text"
    else if MAX_CVE_ID < (strip t).length then entry_error index "has an over-long CVE identifier"
    else .ok (strip t)
  | _ => entry_error index "has a CVE identifier that is not text"

/-- `_cve_ids`, sorted and without duplicates. -/
def cve_ids (value : Option Json) (index : Nat) : Except Text (List Text) :=
  match value with
  | some (.list (item :: items)) => do
    let identifiers ← (item :: items).mapM (cve_id index)
    return identifiers.dedup.insertionSort (· ≤ ·)
  | _ => entry_error index "needs a non-empty cve array"

def is_link (url : Text) : Bool := "http://".toList.isPrefixOf url || "https://".toList.isPrefixOf url

section
variable (casefold : Text → Text)

def normalize_product (value : Text) : Text := casefold (join " ".toList (split value))
def normalize_version (value : Text) : Text := casefold (strip value)
def key_of (product version : Text) : Key := (normalize_product casefold product, normalize_version casefold version)

/-- One entry of a document, under its key. -/
def read_entry (index : Nat) : Json → Except Text (Key × Entry)
  | .object members => do
    let product ← text (get members "product") "product" MAX_TEXT
    let version ← text (get members "version") "version" MAX_TEXT
    match product, version with
    | some product, some version =>
      let cve_ids ← cve_ids (get members "cve") index
      let url ← text (get members "url") "url" MAX_URL
      if url.any fun url => !is_link url then entry_error index "has a url that is not http or https"
      else return (key_of casefold product version, { cve_ids := cve_ids, product := product, version := version, url := url })
    | _, _ => entry_error index "needs a product and a version"
  | _ => entry_error index "is not an object"

/-- The loop of `parse_catalog` from the entry at an index on. -/
def read_entries : Nat → List Json → List (Key × Entry) → Except Text (List (Key × Entry))
  | _, [], entries => .ok entries
  | index, raw :: raws, entries => do
    let read ← read_entry casefold index raw
    read_entries (index + 1) raws (put read.1 read.2 entries)

/-- `parse_catalog` -/
def parse_catalog (max_cve_catalog_entries : Nat) (document : Json) : Except Text LocalCatalogEnrichment :=
  match document with
  | .object members =>
    match get members "schema" with
    | some (.str schema) =>
      if schema ≠ CATALOG_SCHEMA then undeclared
      else match get members "entries" with
        | some (.list raws) =>
          if max_cve_catalog_entries < raws.length then
            catalog_error ("A CVE catalogue may hold at most ".toList ++ dec max_cve_catalog_entries ++ " entries".toList)
          else do
            let source ← text (get members "source") "source" MAX_TEXT
            let version ← text (get members "version") "version" MAX_TEXT
            let entries ← read_entries casefold 0 raws []
            return { source := source.getD "operator-supplied".toList, version := version, entries := entries }
        | _ => catalog_error "A CVE catalogue must contain an entries array".toList
    | _ => undeclared
  | _ => catalog_error "A CVE catalogue must be a JSON object".toList
where
  undeclared : Except Text LocalCatalogEnrichment :=
    catalog_error ("A CVE catalogue must declare schema ".toList ++ CATALOG_SCHEMA)

/-- `LocalCatalogEnrichment.lookup` -/
def LocalCatalogEnrichment.lookup (catalog : LocalCatalogEnrichment) (product version : Text) : List CveReference :=
  match catalog.entries.lookup (key_of casefold product version) with
  | none => []
  | some entry => entry.cve_ids.map fun cve_id => {
      cve_id := cve_id
      source := catalog.source
      source_version := catalog.version
      match_type := EXACT_VERSION
      matched_product := entry.product
      matched_version := entry.version
      url := entry.url }

end

/-! ### What a table holds -/

theorem lookup_put {κ α : Type} [BEq κ] [LawfulBEq κ] [DecidableEq κ] {key other : κ} {value : α} {entries : List (κ × α)} :
    (put key value entries).lookup other = if other = key then some value else entries.lookup other := by
  induction entries with
  | nil =>
    by_cases same : other = key
    · simp [put, same]
    · simp [put, same, List.lookup, beq_eq_false_iff_ne.mpr same]
  | cons entry entries ih =>
    obtain ⟨first, there⟩ := entry
    unfold put
    by_cases here : first = key
    · rw [if_pos here]
      by_cases same : other = key
      · simp [same]
      · have apart : other ≠ first := fun is => same (is.trans here)
        simp [List.lookup, same, beq_eq_false_iff_ne.mpr same, beq_eq_false_iff_ne.mpr apart]
    · rw [if_neg here]
      by_cases same : other = first
      · have apart : other ≠ key := fun is => here (same.symm.trans is)
        simp [List.lookup, same, here]
      · simp only [List.lookup, beq_eq_false_iff_ne.mpr same, ih]

/-- The entries under a key, in the order of the document. -/
def matching (read : List (Key × Entry)) (key : Key) : List Entry := (read.filter fun entry => entry.1 = key).map Prod.snd

/-- Putting entries one after another leaves the last of each key. -/
theorem lookup_puts (read : List (Key × Entry)) (entries : List (Key × Entry)) (key : Key) :
    (read.foldl (fun entries entry => put entry.1 entry.2 entries) entries).lookup key =
      ((matching read key).getLast?).or (entries.lookup key) := by
  induction read using List.reverseRecOn generalizing entries with
  | nil => rfl
  | append_singleton read entry ih =>
    rw [List.foldl_append, List.foldl_cons, List.foldl_nil, lookup_put]
    by_cases same : key = entry.1
    · simp [matching, same]
    · rw [if_neg same, ih]
      simp [matching, Ne.symm same]

section
variable {casefold : Text → Text}

/-- The entries of a document as they are read, one after another. -/
inductive Read (casefold : Text → Text) : Nat → List Json → List (Key × Entry) → Prop
  | nil {index : Nat} : Read casefold index [] []
  | cons {index : Nat} {raw : Json} {raws : List Json} {entry : Key × Entry} {read : List (Key × Entry)}
      (first : read_entry casefold index raw = .ok entry) (rest : Read casefold (index + 1) raws read) :
      Read casefold index (raw :: raws) (entry :: read)

theorem read_entries_ok {index : Nat} {raws : List Json} {before entries : List (Key × Entry)}
    (ran : read_entries casefold index raws before = .ok entries) : ∃ read, Read casefold index raws read ∧
      entries = read.foldl (fun entries entry => put entry.1 entry.2 entries) before := by
  induction raws generalizing index before with
  | nil =>
    cases ran
    exact ⟨[], .nil, rfl⟩
  | cons raw raws ih =>
    obtain ⟨entry, first, ran⟩ := bind_eq_ok.mp ran
    obtain ⟨read, rest, rfl⟩ := ih ran
    exact ⟨entry :: read, .cons first rest, rfl⟩

/-- The entries array of a document. -/
def entries_of : Json → List Json
  | .object members => match get members "entries" with
    | some (.list raws) => raws
    | _ => []
  | _ => []

/-- A catalogue that is accepted is made of the entries of its document. -/
theorem parse_catalog_ok {max_cve_catalog_entries : Nat} {document : Json} {catalog : LocalCatalogEnrichment}
    (accepted : parse_catalog casefold max_cve_catalog_entries document = .ok catalog) :
    ∃ read, Read casefold 0 (entries_of document) read ∧
      catalog.entries = read.foldl (fun entries entry => put entry.1 entry.2 entries) [] := by
  unfold parse_catalog at accepted
  split at accepted
  · rename_i members
    split at accepted
    · split at accepted
      · cases accepted
      split at accepted
      · rename_i raws listed
        split at accepted
        · cases accepted
        obtain ⟨source, _, accepted⟩ := bind_eq_ok.mp accepted
        obtain ⟨version, _, accepted⟩ := bind_eq_ok.mp accepted
        obtain ⟨entries, ran, accepted⟩ := bind_eq_ok.mp accepted
        cases accepted
        have same : entries_of (.object members) = raws := by simp [entries_of, listed]
        rw [same]
        exact read_entries_ok ran
      · cases accepted
    · cases accepted
  · cases accepted

/-- The identifiers a lookup gives are those of the last entry under the key. -/
theorem lookup_ids (catalog : LocalCatalogEnrichment) {read : List (Key × Entry)}
    (made : catalog.entries = read.foldl (fun entries entry => put entry.1 entry.2 entries) []) (product version : Text) :
    (catalog.lookup casefold product version).map CveReference.cve_id =
      (((matching read (key_of casefold product version)).getLast?).map Entry.cve_ids).getD [] := by
  have found := lookup_puts read [] (key_of casefold product version)
  rw [← made, List.lookup_nil, Option.or_none] at found
  unfold LocalCatalogEnrichment.lookup
  rw [found]
  cases (matching read (key_of casefold product version)).getLast? with
  | none => rfl
  | some entry =>
    simp only [List.map_map, Option.map_some, Option.getD_some]
    exact List.map_id' entry.cve_ids

theorem cve_ids_once {value : Option Json} {index : Nat} {ids : List Text} (ran : cve_ids value index = .ok ids) : ids.Nodup := by
  unfold cve_ids at ran
  split at ran
  · obtain ⟨identifiers, _, ran⟩ := bind_eq_ok.mp ran
    cases ran
    exact (List.perm_insertionSort _ _).nodup_iff.mpr (List.nodup_dedup _)
  · cases ran

theorem read_entry_once {index : Nat} {raw : Json} {entry : Key × Entry} (ran : read_entry casefold index raw = .ok entry) :
    entry.2.cve_ids.Nodup := by
  unfold read_entry at ran
  split at ran
  · obtain ⟨product, _, ran⟩ := bind_eq_ok.mp ran
    obtain ⟨version, _, ran⟩ := bind_eq_ok.mp ran
    split at ran
    · obtain ⟨ids, listed, ran⟩ := bind_eq_ok.mp ran
      obtain ⟨url, _, ran⟩ := bind_eq_ok.mp ran
      split at ran
      · cases ran
      · cases ran
        exact cve_ids_once listed
    · cases ran
  · cases ran

theorem Read.once {index : Nat} {raws : List Json} {read : List (Key × Entry)} (reads : Read casefold index raws read) :
    ∀ entry ∈ read, entry.2.cve_ids.Nodup := by
  induction reads with
  | nil => simp
  | cons first rest ih => exact List.forall_mem_cons.mpr ⟨read_entry_once first, ih⟩

/-- A lookup gives each identifier once. -/
theorem lookup_once {catalog : LocalCatalogEnrichment} {raws : List Json} {read : List (Key × Entry)} (reads : Read casefold 0 raws read)
    (made : catalog.entries = read.foldl (fun entries entry => put entry.1 entry.2 entries) []) (product version : Text) :
    ((catalog.lookup casefold product version).map CveReference.cve_id).Nodup := by
  rw [lookup_ids catalog made]
  cases is_last : (matching read (key_of casefold product version)).getLast? with
  | none => exact List.nodup_nil
  | some last =>
    obtain ⟨entry, inside, rfl⟩ := List.mem_map.mp (List.mem_of_getLast? is_last)
    exact reads.once entry (List.mem_filter.mp inside).1

/-- What the entries under a key say that the last of them does not is what a
    lookup loses. -/
theorem lookup_union_iff {max_cve_catalog_entries : Nat} {document : Json} {catalog : LocalCatalogEnrichment}
    (accepted : parse_catalog casefold max_cve_catalog_entries document = .ok catalog) :
    ∃ read, Read casefold 0 (entries_of document) read ∧ ∀ product version,
      ((catalog.lookup casefold product version).map CveReference.cve_id).Nodup ∧
      ((∀ id, id ∈ (catalog.lookup casefold product version).map CveReference.cve_id ↔
          ∃ entry ∈ matching read (key_of casefold product version), id ∈ entry.cve_ids) ↔
        ∀ last, (matching read (key_of casefold product version)).getLast? = some last →
          ∀ entry ∈ matching read (key_of casefold product version), entry.cve_ids ⊆ last.cve_ids) := by
  obtain ⟨read, reads, made⟩ := parse_catalog_ok accepted
  refine ⟨read, reads, fun product version => ⟨lookup_once reads made product version, ?_⟩⟩
  rw [lookup_ids catalog made]
  cases is_last : (matching read (key_of casefold product version)).getLast? with
  | none =>
    rw [List.getLast?_eq_none_iff] at is_last
    simp [is_last]
  | some last =>
    have listed := List.mem_of_getLast? is_last
    simp only [Option.map_some, Option.getD_some, Option.some.injEq]
    constructor
    · rintro union _ rfl entry member id inside
      exact (union id).mpr ⟨entry, member, inside⟩
    · intro contained id
      constructor
      · exact fun inside => ⟨last, listed, inside⟩
      · rintro ⟨entry, member, inside⟩
        exact contained last rfl entry member inside

end

def repeated_entry (product cve : String) : Json :=
  .object [("product".toList, .str product.toList), ("version".toList, .str "9.6".toList), ("cve".toList, .list [.str cve.toList])]

/-- One product in two spellings. -/
def repeated_catalogue : Json :=
  .object [("schema".toList, .str CATALOG_SCHEMA),
    ("entries".toList, .list [repeated_entry "OpenSSH" "CVE-2024-1", repeated_entry "openssh " "CVE-2024-2"])]

def fold_ascii (t : Text) : Text := t.map Char.toLower

theorem repeated_accepted : ∃ catalog, parse_catalog fold_ascii 20000 repeated_catalogue = .ok catalog ∧
    (catalog.lookup fold_ascii "OpenSSH".toList "9.6".toList).map CveReference.cve_id = ["CVE-2024-2".toList] := by
  have judged : (parse_catalog fold_ascii 20000 repeated_catalogue).map (fun catalog =>
      (catalog.lookup fold_ascii "OpenSSH".toList "9.6".toList).map CveReference.cve_id) = .ok ["CVE-2024-2".toList] := by
    decide +kernel
  exact map_eq_ok.mp judged

/-- An accepted catalogue with a repeated key. -/
theorem lookup_union_example : ∃ catalog, parse_catalog fold_ascii 20000 repeated_catalogue = .ok catalog ∧
    ∃ read, Read fold_ascii 0 (entries_of repeated_catalogue) read ∧ ∀ product version,
      ((catalog.lookup fold_ascii product version).map CveReference.cve_id).Nodup ∧
      ((∀ id, id ∈ (catalog.lookup fold_ascii product version).map CveReference.cve_id ↔
          ∃ entry ∈ matching read (key_of fold_ascii product version), id ∈ entry.cve_ids) ↔
        ∀ last, (matching read (key_of fold_ascii product version)).getLast? = some last →
          ∀ entry ∈ matching read (key_of fold_ascii product version), entry.cve_ids ⊆ last.cve_ids) := by
  obtain ⟨catalog, accepted, -⟩ := repeated_accepted
  exact ⟨catalog, accepted, lookup_union_iff accepted⟩

/-- The second spelling replaces what the first one says. -/
theorem repeated_entry_lost : ∃ catalog, parse_catalog fold_ascii 20000 repeated_catalogue = .ok catalog ∧
    ∃ read, Read fold_ascii 0 (entries_of repeated_catalogue) read ∧
      ¬∀ id, id ∈ (catalog.lookup fold_ascii "OpenSSH".toList "9.6".toList).map CveReference.cve_id ↔
        ∃ entry ∈ matching read (key_of fold_ascii "OpenSSH".toList "9.6".toList), id ∈ entry.cve_ids := by
  obtain ⟨catalog, accepted, ids⟩ := repeated_accepted
  let key : Key := ("openssh".toList, "9.6".toList)
  let first : Entry := ⟨["CVE-2024-1".toList], "OpenSSH".toList, "9.6".toList, none⟩
  let second : Entry := ⟨["CVE-2024-2".toList], "openssh".toList, "9.6".toList, none⟩
  have one : read_entry fold_ascii 0 (repeated_entry "OpenSSH" "CVE-2024-1") = .ok (key, first) := by decide +kernel
  have two : read_entry fold_ascii 1 (repeated_entry "openssh " "CVE-2024-2") = .ok (key, second) := by decide +kernel
  refine ⟨catalog, accepted, [(key, first), (key, second)], .cons one (.cons two .nil), fun union => ?_⟩
  have lost := (union "CVE-2024-1".toList).mpr ⟨first, by decide +kernel, by decide +kernel⟩
  rw [ids] at lost
  exact absurd lost (by decide +kernel)

end RedDock.Catalogue
