import RedDock.Fallible
import RedDock.IpAddress

/-!
# Printed addresses read back

Every IPv4 address, and every IPv6 address that is not IPv4-mapped and has no
zone, is read back from its printed form, and so is every network whose address
is one of these. The reader of a printed network needs no cleared host bits.
-/
set_option autoImplicit false
namespace RedDock.IpText
open Text IPAddress Fallible

/-! ### IPv4 -/

theorem parse_octet_dec {n : Nat} (small : n < 256) : parse_octet (dec n) = some n := by
  have short : (dec n).length ≤ 3 := dec_length_le (by decide) (by omega)
  unfold parse_octet
  rw [isDigits_dec, ofDec_dec]
  rcases dec_ne_zero_or (n := n) with zero | head
  · simp [zero]; omega
  · simp [head]; omega

theorem mapM_parse_octet {ns : List Nat} (small : ∀ n ∈ ns, n < 256) : (ns.map dec).mapM parse_octet = some ns := by
  induction ns with
  | nil => rfl
  | cons n rest ih =>
    have head := parse_octet_dec (small n (by simp))
    have tail := ih fun m member => small m (List.mem_cons_of_mem _ member)
    rw [List.map_cons, List.mapM_cons, head, tail]
    rfl

theorem dot_notMem_dec (n : Nat) : '.' ∉ dec n := fun member => absurd (isDigit_of_mem_dec member) (by decide)

theorem split_v4_string (ip : Nat) : (v4_string ip).splitOn '.' = (digitsOf 256 4 ip).map dec := by
  apply List.splitOn_intercalate
  · intro part member
    obtain ⟨n, _, rfl⟩ := List.mem_map.mp member
    exact dot_notMem_dec n
  · intro empty
    have := congrArg List.length empty
    simp [digitsOf] at this

theorem v4_int_from_v4_string (ip : Fin (2 ^ 32)) : v4_int_from_string (v4_string ip.val) = some ip := by
  have small : ∀ d ∈ digitsOf 256 4 ip.val, d < 256 := fun d member => digitsOf_lt (by decide) member
  have bytes := mapM_parse_octet small
  have value : ofDigits 256 (digitsOf 256 4 ip.val) = ip.val := ofDigits_digitsOf (by have := ip.isLt; omega)
  unfold v4_int_from_string
  rw [split_v4_string]
  simp [bytes, value, digitsOf_length]

theorem v4_string_char {ip : Nat} {c : Char} (member : c ∈ v4_string ip) : c.isDigit = true ∨ c = '.' := by
  rcases mem_join member with sep | ⟨part, inParts, inPart⟩
  · exact Or.inr (by simpa using sep)
  · obtain ⟨n, _, rfl⟩ := List.mem_map.mp inParts
    exact Or.inl (isDigit_of_mem_dec inPart)

theorem ofTextV4_v4_string (ip : Fin (2 ^ 32)) : ofTextV4 (v4_string ip.val) = some (.v4 ip) := by
  have plain : '/' ∉ v4_string ip.val := by
    intro member
    rcases v4_string_char member with digit | dot
    · exact absurd digit (by decide)
    · exact absurd dot (by decide)
  simp [ofTextV4, plain, v4_int_from_v4_string]

/-! ### Hextets -/

theorem parse_hextet_hex {n : Nat} (small : n < 65536) : parse_hextet (hex n) = some n := by
  have short : (hex n).length ≤ 4 := hex_length_le (by decide) (by omega)
  unfold parse_hextet
  rw [if_neg (by omega), ofHex_hex]

theorem mapM_parse_hextet {ns : List Nat} (small : ∀ n ∈ ns, n < 65536) : (ns.map hex).mapM parse_hextet = some ns := by
  induction ns with
  | nil => rfl
  | cons n rest ih =>
    have head := parse_hextet_hex (small n (by simp))
    have tail := ih fun m member => small m (List.mem_cons_of_mem _ member)
    rw [List.map_cons, List.mapM_cons, head, tail]
    rfl

theorem hex_eq_zero {n : Nat} (printed : hex n = ['0']) : n = 0 := by
  have read := ofHex_hex n
  rw [printed] at read
  have zero : ofHex ['0'] = some 0 := by decide
  rw [zero] at read
  exact (Option.some.inj read).symm

/-- A hextet's characters: lower-case hexadecimal digits. -/
theorem hex_char {n : Nat} {c : Char} (member : c ∈ hex n) : c.isDigit = true ∨ ('a' ≤ c ∧ c ≤ 'f') := by
  obtain ⟨d, lt, rfl⟩ := hex_digit member
  exact digitChar_hexChar lt

theorem colon_notMem_hex (n : Nat) : ':' ∉ hex n := fun member => by
  rcases hex_char member with digit | ⟨low, _⟩
  · exact absurd digit (by decide)
  · exact absurd low (by decide)

theorem dot_notMem_hex (n : Nat) : '.' ∉ hex n := fun member => by
  rcases hex_char member with digit | ⟨low, _⟩
  · exact absurd digit (by decide)
  · exact absurd low (by decide)

/-! ### The run of zeros that is cut out -/

/-- What holds of the loop state after the first `k` hextets: both runs it keeps
    hold zeros only and end within the hextets read. -/
structure RunsRead (hextets : List Text) (k : Nat) (s : Runs) : Prop where
  best_end : s.best_start + s.best_len ≤ k
  best_zero : ∀ i, s.best_start ≤ i → i < s.best_start + s.best_len → hextets[i]? = some ['0']
  current_end : ∀ start, s.start = some start → start + s.len = k
  current_zero : ∀ start, s.start = some start → ∀ i, start ≤ i → i < k → hextets[i]? = some ['0']
  current_none : s.start = none → s.len = 0

theorem runs_next {hextets : List Text} {k : Nat} {s : Runs} {hextet : Text} (read : RunsRead hextets k s)
    (here : hextets[k]? = some hextet) : RunsRead hextets (k + 1) (s.next k hextet) := by
  by_cases zero : hextet = ['0']
  · -- The current run grows by one, from `k` when there was none.
    have start_end : s.start.getD k + (s.len + 1) = k + 1 := by
      cases started : s.start with
      | none => simp [read.current_none started]
      | some start => have := read.current_end start started; simp; omega
    have run_zero : ∀ i, s.start.getD k ≤ i → i < k + 1 → hextets[i]? = some ['0'] := by
      intro i low high
      rcases Nat.lt_or_ge i k with before | at_end
      · cases started : s.start with
        | none => rw [started] at low; simp at low; omega
        | some start => rw [started] at low; exact read.current_zero start started i (by simpa using low) before
      · rw [show i = k by omega, here, zero]
    by_cases longer : s.best_len < s.len + 1
    · simp only [Runs.next, zero, if_true, longer]
      refine ⟨by simp only; omega, ?_, ?_, ?_, by simp⟩
      · intro i low high; exact run_zero i low (by simp only at high; omega)
      · intro start same; simp only [Option.some.injEq] at same; subst same; simp only; omega
      · intro start same i low high; simp only [Option.some.injEq] at same; subst same; exact run_zero i low high
    · simp only [Runs.next, zero, if_true, longer, if_false]
      refine ⟨by have := read.best_end; simp only; omega, read.best_zero, ?_, ?_, by simp⟩
      · intro start same; simp only [Option.some.injEq] at same; subst same; simp only; omega
      · intro start same i low high; simp only [Option.some.injEq] at same; subst same; exact run_zero i low high
  · simp only [Runs.next, zero, if_false]
    exact ⟨by have := read.best_end; simp only; omega, read.best_zero, by simp, by simp, by simp⟩

theorem runs_fold {hextets : List Text} : ∀ (before rest : List Text) (s : Runs),
    RunsRead hextets before.length s → hextets = before ++ rest →
    RunsRead hextets hextets.length ((rest.zipIdx before.length).foldl (fun s entry => s.next entry.2 entry.1) s) := by
  intro before rest
  induction rest generalizing before with
  | nil =>
    intro s read split
    simpa [split] using read
  | cons hextet rest ih =>
    intro s read split
    have here : hextets[before.length]? = some hextet := by simp [split]
    have next := ih (before ++ [hextet]) (s.next before.length hextet)
      (by simpa using runs_next read here) (by simpa using split)
    simpa using next

theorem zeroRuns_read (hextets : List Text) : RunsRead hextets hextets.length (zeroRuns hextets) :=
  runs_fold [] hextets {} ⟨by simp, by intro i _ high; simp at high, by simp, by simp, by simp⟩ rfl

/-! ### Reading the compressed form -/

/-- The single empty part strictly inside a text with one `::`. -/
theorem skipIndices_one {left right : List Text} (leftNe : left ≠ []) (rightNe : right ≠ [])
    (leftFull : ∀ p ∈ left.tail, p ≠ []) (rightFull : ∀ p ∈ right.dropLast, p ≠ []) :
    skipIndices (left ++ [[]] ++ right) = [left.length] := by
  have lenL := List.length_pos_iff.mpr leftNe
  have lenR := List.length_pos_iff.mpr rightNe
  have only : ∀ i ∈ List.range ((left ++ [[]] ++ right).length - 1),
      decide (1 ≤ i ∧ (left ++ [[]] ++ right)[i]? = some []) = decide (i = left.length) := by
    intro i inside
    rw [List.mem_range] at inside
    simp only [List.length_append, List.length_singleton] at inside
    rw [decide_eq_decide]
    constructor
    · rintro ⟨pos, empty⟩
      rcases Nat.lt_trichotomy i left.length with lt | same | gt
      · -- An empty part before the cut would be in the tail of `left`.
        rw [List.append_assoc, List.getElem?_append_left lt] at empty
        refine absurd rfl (leftFull [] ?_)
        have at_tail : left.tail[i - 1]? = some [] := by
          rw [List.getElem?_tail, Nat.sub_add_cancel pos]; exact empty
        exact List.mem_of_getElem? at_tail
      · exact same
      · -- One after the cut, but not last, would be in `right.dropLast`.
        rw [List.getElem?_append_right (by simp; omega)] at empty
        refine absurd rfl (rightFull [] ?_)
        have at_drop : right.dropLast[i - (left ++ [[]]).length]? = some [] := by
          rw [List.dropLast_eq_take, List.getElem?_take_of_lt (by simp; omega)]; exact empty
        exact List.mem_of_getElem? at_drop
    · rintro rfl
      exact ⟨lenL, by simp⟩
  unfold skipIndices
  rw [List.filter_congr only, List.filter_eq, List.count_eq_one_of_mem List.nodup_range]
  · rfl
  · rw [List.mem_range]; simp; omega

section Cut
variable {ns : List Nat} {start stop : Nat}

theorem mem_map_hex_ne_nil {part : Text} (member : part ∈ ns.map hex) : part ≠ [] := by
  obtain ⟨n, _, rfl⟩ := List.mem_map.mp member
  exact hex_ne_nil n

theorem zeros_between (zero : ∀ i, start ≤ i → i < stop → ns[i]? = some 0) (order : start ≤ stop)
    (inside : stop ≤ ns.length) : ns.take start ++ List.replicate (stop - start) 0 ++ ns.drop stop = ns := by
  apply List.ext_getElem?
  intro i
  have cut : (ns.take start).length = start := by simp; omega
  have cutRun : (ns.take start ++ List.replicate (stop - start) 0).length = stop := by simp; omega
  rcases Nat.lt_or_ge i start with before | after
  · rw [List.append_assoc, List.getElem?_append_left (by omega), List.getElem?_take_of_lt before]
  · rcases Nat.lt_or_ge i stop with within | beyond
    · rw [List.getElem?_append_left (by omega), List.getElem?_append_right (by omega), zero i after within,
        List.getElem?_replicate_of_lt (by omega)]
    · rw [List.getElem?_append_right (by omega), List.getElem?_drop, cutRun, Nat.add_sub_cancel' beyond]

/-- Reading back eight hextets of which the run `[start, stop)` of zeros was cut out. -/
theorem hextetsOf_cutRun (eight : ns.length = 8) (small : ∀ n ∈ ns, n < 65536) (long : start + 1 < stop)
    (inside : stop ≤ 8) (zero : ∀ i, start ≤ i → i < stop → ns[i]? = some 0) :
    hextetsOf (cutRun (ns.map hex) start stop) = some ns := by
  set left := (if start = 0 then [[]] else []) ++ (ns.take start).map hex with leftIs
  set right := (ns.drop stop).map hex ++ (if stop = 8 then [[]] else []) with rightIs
  have parts : cutRun (ns.map hex) start stop = left ++ [[]] ++ right := by
    simp [cutRun, leftIs, rightIs, eight, List.map_take, List.map_drop, List.append_assoc]
  have nothing : ns.drop 8 = [] := List.drop_eq_nil_of_le (by omega)
  have leftLen : left.length = if start = 0 then 1 else start := by
    by_cases first : start = 0
    · simp [leftIs, first]
    · simp [leftIs, first, eight]; omega
  have rightLen : right.length = if stop = 8 then 1 else 8 - stop := by
    by_cases last : stop = 8
    · simp [rightIs, last, eight]
    · simp [rightIs, last, eight]
  have leftNe : left ≠ [] := by
    intro empty; rw [empty] at leftLen; split at leftLen <;> simp at leftLen; omega
  have rightNe : right ≠ [] := by
    intro empty; rw [empty] at rightLen; split at rightLen <;> simp at rightLen; omega
  have leftFull : ∀ p ∈ left.tail, p ≠ [] := by
    intro part member
    by_cases first : start = 0
    · simp [leftIs, first] at member
    · exact mem_map_hex_ne_nil (List.mem_of_mem_tail (by simpa only [leftIs, first, if_false, List.nil_append] using member))
  have rightFull : ∀ p ∈ right.dropLast, p ≠ [] := by
    intro part member
    by_cases last : stop = 8
    · simp [rightIs, last, nothing] at member
    · exact mem_map_hex_ne_nil (List.mem_of_mem_dropLast (by simpa only [rightIs, last, if_false, List.append_nil] using member))
  have total : (left ++ [[]] ++ right).length = left.length + 1 + right.length := by simp; omega
  -- An end of the text is empty exactly where the run reaches that end.
  have head : (left ++ [[]] ++ right).head? = some [] ↔ start = 0 := by
    by_cases first : start = 0
    · simp [leftIs, first]
    · have full : (ns.take start).map hex ≠ [] := by
        intro empty; simp [first] at empty; simp [empty] at eight
      simp only [leftIs, first, if_false, List.nil_append, iff_false]
      rw [List.append_assoc, List.head?_append_of_ne_nil _ full]
      intro empty
      exact mem_map_hex_ne_nil (List.mem_of_mem_head? empty) rfl
  have last : (left ++ [[]] ++ right).getLast? = some [] ↔ stop = 8 := by
    by_cases last : stop = 8
    · simp [rightIs, last, nothing]
    · have full : (ns.drop stop).map hex ≠ [] := by
        intro empty; simp [eight] at empty; omega
      simp only [rightIs, last, if_false, List.append_nil, iff_false]
      rw [List.getLast?_append_of_ne_nil _ full]
      intro empty
      exact mem_map_hex_ne_nil (List.mem_of_mem_getLast? empty) rfl
  have sides : sidesOf (left ++ [[]] ++ right) left.length = some (start, 8 - stop) := by
    have hi : (if start = 0 then left.length - 1 else left.length) = start := by rw [leftLen]; split <;> omega
    have lo : (if stop = 8 then left.length + 1 + right.length - left.length - 2
        else left.length + 1 + right.length - left.length - 1) = 8 - stop := by rw [rightLen]; split <;> omega
    simp only [sidesOf, head, last, total, hi, lo]
    rw [if_neg (by omega), if_neg (by omega), if_neg (by omega)]
  have takes : (left ++ [[]] ++ right).take start = (ns.take start).map hex := by
    by_cases first : start = 0
    · simp [first]
    · have size : ((ns.take start).map hex).length = start := by simp [eight]; omega
      simp only [leftIs, first, if_false, List.nil_append]
      rw [List.append_assoc, List.take_append_of_le_length (by omega), List.take_of_length_le (by omega)]
  have drops : (left ++ [[]] ++ right).drop ((left ++ [[]] ++ right).length - (8 - stop)) = (ns.drop stop).map hex := by
    by_cases reaches : stop = 8
    · simp [reaches, ← eight]
    · simp only [rightIs, reaches, if_false, List.append_nil]
      have size : ((ns.drop stop).map hex).length = 8 - stop := by simp [eight]
      rw [List.length_append, size, Nat.add_sub_cancel, List.drop_left]
  have high := mapM_parse_hextet fun n member => small n (List.mem_of_mem_take (i := start) member)
  have low := mapM_parse_hextet fun n member => small n (List.mem_of_mem_drop (i := stop) member)
  rw [parts]
  unfold hextetsOf
  rw [skipIndices_one leftNe rightNe leftFull rightFull]
  simp only [sides, takes, drops, high, low, Option.bind_eq_bind, Option.bind_some, Option.pure_def]
  rw [show 8 - (start + (8 - stop)) = stop - start by omega, zeros_between zero (by omega) (by omega)]

end Cut

/-! ### IPv6 -/

theorem hextetsOf_plain {ns : List Nat} (eight : ns.length = 8) (small : ∀ n ∈ ns, n < 65536) :
    hextetsOf (ns.map hex) = some ns := by
  have skip : skipIndices (ns.map hex) = [] := by
    unfold skipIndices
    rw [List.filter_eq_nil_iff]
    intro i _ empty
    simp only [decide_eq_true_eq] at empty
    exact mem_map_hex_ne_nil (List.mem_of_getElem? empty.2) rfl
  have head : (ns.map hex).head? ≠ some [] := fun empty => mem_map_hex_ne_nil (List.mem_of_mem_head? empty) rfl
  have last : (ns.map hex).getLast? ≠ some [] := fun empty => mem_map_hex_ne_nil (List.mem_of_mem_getLast? empty) rfl
  unfold hextetsOf
  rw [skip]
  simp only [List.length_map, eight, head, last, mapM_parse_hextet small, ne_eq, not_true_eq_false, if_false]

theorem hextetsOf_compress {ns : List Nat} (eight : ns.length = 8) (small : ∀ n ∈ ns, n < 65536) :
    hextetsOf (compress_hextets (ns.map hex)) = some ns := by
  have read := zeroRuns_read (ns.map hex)
  by_cases long : 1 < (zeroRuns (ns.map hex)).best_len
  · have bound := read.best_end
    simp only [compress_hextets, long, if_true]
    refine hextetsOf_cutRun eight small (by omega) (by simpa [eight] using bound) ?_
    intro i low high
    have zero := read.best_zero i low high
    rw [List.getElem?_map, Option.map_eq_some_iff] at zero
    obtain ⟨n, here, printed⟩ := zero
    rw [here, hex_eq_zero printed]
  · simp only [compress_hextets, long, if_false]
    exact hextetsOf_plain eight small

theorem compress_part {ns : List Nat} {part : Text} (member : part ∈ compress_hextets (ns.map hex)) :
    part = [] ∨ ∃ n ∈ ns, part = hex n := by
  have printed : part ∈ ns.map hex → ∃ n ∈ ns, part = hex n := fun inside => by
    obtain ⟨n, inNs, rfl⟩ := List.mem_map.mp inside
    exact ⟨n, inNs, rfl⟩
  simp only [compress_hextets] at member
  split at member
  · simp only [cutRun, List.mem_append] at member
    rcases member with (((edge | before) | cut) | after) | edge
    · split at edge <;> simp at edge
      exact Or.inl edge
    · exact Or.inr (printed (List.mem_of_mem_take before))
    · exact Or.inl (by simpa using cut)
    · exact Or.inr (printed (List.mem_of_mem_drop after))
    · split at edge <;> simp at edge
      exact Or.inl edge
  · exact Or.inr (printed member)

theorem compress_length {ns : List Nat} (eight : ns.length = 8) :
    3 ≤ (compress_hextets (ns.map hex)).length ∧ (compress_hextets (ns.map hex)).length ≤ 9 := by
  have bound := (zeroRuns_read (ns.map hex)).best_end
  rw [List.length_map, eight] at bound
  simp only [compress_hextets]
  split
  · rename_i long
    simp only [cutRun, List.length_append, List.length_take, List.length_drop, List.length_map, eight]
    constructor <;> split <;> split <;> simp <;> omega
  · simp [eight]

theorem v6_string_char {ip : Nat} {c : Char} (member : c ∈ v6_string ip) :
    c = ':' ∨ c.isDigit = true ∨ ('a' ≤ c ∧ c ≤ 'f') := by
  rcases mem_join member with sep | ⟨part, inParts, inPart⟩
  · exact Or.inl (by simpa using sep)
  · rcases compress_part inParts with rfl | ⟨n, _, rfl⟩
    · simp at inPart
    · exact Or.inr (hex_char inPart)

theorem notMem_v6_string {ip : Nat} {c : Char} (colon : c ≠ ':') (digit : c.isDigit = false)
    (letter : ¬('a' ≤ c ∧ c ≤ 'f')) : c ∉ v6_string ip := fun member => by
  rcases v6_string_char member with is | is | is
  · exact colon is
  · simp [is] at digit
  · exact letter is

theorem split_v6_string (ip : Nat) : (v6_string ip).splitOn ':' = compress_hextets ((digitsOf 65536 8 ip).map hex) := by
  apply List.splitOn_intercalate
  · intro part member
    rcases compress_part member with rfl | ⟨n, _, rfl⟩
    · simp
    · exact colon_notMem_hex n
  · intro empty
    have lengths := compress_length (digitsOf_length 65536 8 ip)
    rw [empty] at lengths
    exact absurd lengths.1 (by decide)

theorem v6_int_from_v6_string (ip : Fin (2 ^ 128)) : v6_int_from_string (v6_string ip.val) = some ip := by
  have eight := digitsOf_length 65536 8 ip.val
  have small : ∀ n ∈ digitsOf 65536 8 ip.val, n < 65536 := fun n member => digitsOf_lt (by decide) member
  have value : ofDigits 65536 (digitsOf 65536 8 ip.val) = ip.val := ofDigits_digitsOf (by have := ip.isLt; omega)
  obtain ⟨atLeast, atMost⟩ := compress_length eight
  set parts := compress_hextets ((digitsOf 65536 8 ip.val).map hex) with partsIs
  have plain : '.' ∉ parts.getLastD [] := by
    intro dotted
    have inParts : parts.getLastD [] ∈ parts := by
      rw [List.getLastD_eq_getLast?, List.getLast?_eq_some_getLast (by intro empty; simp [empty] at atLeast)]
      exact List.getLast_mem _
    rcases compress_part inParts with empty | ⟨n, _, printed⟩
    · rw [empty] at dotted; simp at dotted
    · exact dot_notMem_hex n (printed ▸ dotted)
  have read : hextetsOf parts = some (digitsOf 65536 8 ip.val) := hextetsOf_compress eight small
  simp only [v6_int_from_string, split_v6_string, ← partsIs, expandDotted, plain, if_false, Option.bind_eq_bind,
    Option.bind_some, if_neg (show ¬parts.length < 3 by omega), if_neg (show ¬9 < parts.length by omega), read, value,
    Option.pure_def, Fin.ofNat_val_eq_self]

theorem ofTextV6_v6_string (ip : Fin (2 ^ 128)) : ofTextV6 (v6_string ip.val) = some (.v6 ip none) := by
  have slash : '/' ∉ v6_string ip.val := notMem_v6_string (by decide) (by decide) (by decide)
  have percent : '%' ∉ v6_string ip.val := notMem_v6_string (by decide) (by decide) (by decide)
  have whole : partition '%' (v6_string ip.val) = (v6_string ip.val, false, []) := partition_of_notMem percent
  simp [ofTextV6, slash, split_scope_id, whole, v6_int_from_v6_string]

/-! ### What a text that reads as an address looks like -/

theorem parse_octet_isDigits {part : Text} {n : Nat} (read : parse_octet part = some n) : isDigits part = true := by
  unfold parse_octet at read
  split at read
  · simp at read
  · rename_i digits; simpa using digits

theorem parse_octet_length {part : Text} {n : Nat} (read : parse_octet part = some n) : part.length ≤ 3 := by
  unfold parse_octet at read
  split at read
  · simp at read
  · split at read
    · simp at read
    · omega

/-- A dotted quad is made of digits and dots. -/
theorem v4_text_char {t : Text} {ip : Fin (2 ^ 32)} (read : v4_int_from_string t = some ip) :
    ∀ c ∈ t, c = '.' ∨ c.isDigit = true := by
  intro c member
  unfold v4_int_from_string at read
  simp only at read
  split at read
  · simp at read
  cases bytes : (t.splitOn '.').mapM parse_octet with
  | none => simp [bytes] at read
  | some ns =>
    rcases mem_of_splitOn '.' member with dot | ⟨part, inParts, inPart⟩
    · exact Or.inl dot
    · obtain ⟨n, _, octet⟩ := forall₂_left (mapM_some.mp bytes) inParts
      have digits := parse_octet_isDigits octet
      simp only [isDigits, Bool.and_eq_true, List.all_eq_true] at digits
      exact Or.inr (digits.2 c inPart)

theorem ofTextV4_of_colon {t : Text} (colon : ':' ∈ t) : ofTextV4 t = none := by
  unfold ofTextV4
  split
  · rfl
  · cases read : v4_int_from_string t with
    | none => rfl
    | some ip =>
      rcases v4_text_char read ':' colon with is | is <;> exact absurd is (by decide)

/-- An address that is not IPv4 has a colon in its text. -/
theorem colon_of_ofTextV6 {t : Text} {a : IPAddress} (read : ofTextV6 t = some a) : ':' ∈ t := by
  by_contra absent
  have pieces : ∀ s : Text, ':' ∉ s → v6_int_from_string s = none := by
    intro s none
    have one : s.splitOn ':' = [s] := List.splitOn_eq_singleton none
    simp [v6_int_from_string, one]
  unfold ofTextV6 at read
  split at read
  · simp at read
  · cases split : split_scope_id t with
    | none => simp [split] at read
    | some pair =>
      obtain ⟨addr, scope_id⟩ := pair
      have within : ∀ c ∈ addr, c ∈ t := by
        intro c member
        unfold split_scope_id partition at split
        simp only at split
        have first : addr = t.takeWhile (· != '%') := by
          split at split
          · rename_i same; simp at split same; rw [← split.1, ← same.1]
          · rename_i same; split at split <;> simp at split same; rw [← split.1, ← same.1]
        exact List.takeWhile_subset _ (first ▸ member)
      have nothing := pieces addr fun inside => absent (within _ inside)
      simp [split, nothing] at read

theorem colon_mem_v6_string (ip : Fin (2 ^ 128)) : ':' ∈ v6_string ip.val := colon_of_ofTextV6 (ofTextV6_v6_string ip)

/-! ### Addresses and networks -/

/-- No zone and no IPv4 address inside. -/
def Plain (a : IPAddress) : Prop := a.ipv4_mapped = none ∧ ∀ ip scope_id, a = .v6 ip scope_id → scope_id = none

/-- The characters of an address in canonical text. -/
def AddressChar (c : Char) : Prop := c = ':' ∨ c = '.' ∨ c.isDigit = true ∨ ('a' ≤ c ∧ c ≤ 'f')

/-- The reader of one family's addresses. -/
def reader : Version → Text → Option IPAddress
  | .v4 => ofTextV4
  | .v6 => ofTextV6

section Plain
variable {a : IPAddress}

theorem str_v4 (ip : Fin (2 ^ 32)) : IPAddress.str (.v4 ip) = v4_string ip.val := rfl

theorem str_v6 {ip : Fin (2 ^ 128)} (unmapped : ipv4_mapped (.v6 ip none) = none) :
    IPAddress.str (.v6 ip none) = v6_string ip.val := by
  simp [IPAddress.str, unmapped]

theorem plain_cases (plain : Plain a) : (∃ ip, a = .v4 ip) ∨
    (∃ ip, a = .v6 ip none ∧ ipv4_mapped (.v6 ip none) = none) := by
  cases a with
  | v4 ip => exact Or.inl ⟨ip, rfl⟩
  | v6 ip scope_id =>
    have noZone := plain.2 ip scope_id rfl
    subst noZone
    exact Or.inr ⟨ip, rfl, plain.1⟩

theorem reader_str (plain : Plain a) : reader a.version a.str = some a := by
  rcases plain_cases plain with ⟨ip, rfl⟩ | ⟨ip, rfl, unmapped⟩
  · exact ofTextV4_v4_string ip
  · rw [str_v6 unmapped]; exact ofTextV6_v6_string ip

theorem v4_reader_str_v6 (ip : Fin (2 ^ 128)) : ofTextV4 (v6_string ip.val) = none :=
  ofTextV4_of_colon (colon_mem_v6_string ip)

theorem str_char (plain : Plain a) : ∀ c ∈ a.str, AddressChar c := by
  intro c member
  rcases plain_cases plain with ⟨ip, rfl⟩ | ⟨ip, rfl, unmapped⟩
  · rcases v4_string_char (str_v4 ip ▸ member) with digit | dot
    · exact Or.inr (Or.inr (Or.inl digit))
    · exact Or.inr (Or.inl dot)
  · rcases v6_string_char (str_v6 unmapped ▸ member) with colon | digit | letter
    · exact Or.inl colon
    · exact Or.inr (Or.inr (Or.inl digit))
    · exact Or.inr (Or.inr (Or.inr letter))

theorem slash_notMem_str (plain : Plain a) : '/' ∉ a.str := fun member => by
  rcases str_char plain '/' member with is | is | is | is <;> exact absurd is (by decide)

theorem str_length (plain : Plain a) : a.str.length ≤ 45 := by
  rcases plain_cases plain with ⟨ip, rfl⟩ | ⟨ip, rfl, unmapped⟩
  · have parts : ∀ p ∈ (digitsOf 256 4 ip.val).map dec, p.length ≤ 3 := by
      intro p member
      obtain ⟨n, inDigits, rfl⟩ := List.mem_map.mp member
      exact dec_length_le (by decide) (by have := digitsOf_lt (by decide) inDigits; omega)
    have bound := join_length_le '.' parts
    rw [List.length_map, digitsOf_length] at bound
    exact bound.trans (by decide)
  · have parts : ∀ p ∈ compress_hextets ((digitsOf 65536 8 ip.val).map hex), p.length ≤ 4 := by
      intro p member
      rcases compress_part member with rfl | ⟨n, inDigits, rfl⟩
      · simp
      · exact hex_length_le (by decide) (by have := digitsOf_lt (by decide) inDigits; omega)
    have bound := join_length_le ':' parts
    have count := (compress_length (digitsOf_length 65536 8 ip.val)).2
    rw [str_v6 unmapped]
    exact bound.trans (by omega)

/-- Both address families read from one text: the first that accepts it wins. -/
theorem ip_address_str (plain : Plain a) : ip_address a.str = some a := by
  rcases plain_cases plain with ⟨ip, rfl⟩ | ⟨ip, rfl, unmapped⟩
  · simp [ip_address, str_v4, ofTextV4_v4_string]
  · simp [ip_address, str_v6 unmapped, v4_reader_str_v6, ofTextV6_v6_string]

end Plain

theorem make_netmask_dec {v : Version} {len : Nat} (le : len ≤ v.bits) : IPNetwork.make_netmask v (dec len) = some len := by
  cases v <;> simp [IPNetwork.make_netmask, IPNetwork.prefix_from_prefix_string, isDigits_dec] <;>
    simp [Version.bits] at le <;> omega

theorem around_base (n : IPNetwork) : IPNetwork.around n.network_address n.prefixlen = some n := by
  have same : ∀ {w : Nat} (b : Block w), Block.around b.base b.len b.len_le b.base_lt = b := fun b =>
    Block.ext_of_base_len (Nat.div_mul_cancel b.aligned) rfl
  cases n with
  | v4 b => simp [IPNetwork.around, IPNetwork.network_address, IPNetwork.prefixlen, b.len_le, same]
  | v6 b => simp [IPNetwork.around, IPNetwork.network_address, IPNetwork.prefixlen, b.len_le, same]

theorem around_bits (a : IPAddress) : IPNetwork.around a a.version.bits = some (IPNetwork.single a) := by
  have same : ∀ {w x : Nat} (lt : x < 2 ^ w), Block.around x w le_rfl lt = Block.single x lt := fun lt =>
    Block.ext_of_base_len (by simp [Block.around, Block.single, Block.clearHost]) rfl
  cases a with
  | v4 ip => simp [IPNetwork.around, IPAddress.version, Version.bits, IPNetwork.single, same]
  | v6 ip scope_id => simp [IPNetwork.around, IPAddress.version, Version.bits, IPNetwork.single, same]

theorem prefixlen_le (n : IPNetwork) : n.prefixlen ≤ n.version.bits := by
  cases n with
  | v4 b => exact b.len_le
  | v6 b => exact b.len_le

theorem version_network_address (n : IPNetwork) : n.network_address.version = n.version := by cases n <;> rfl

/-- An address read as a network is the network that holds it alone. -/
theorem ofText_address {read : Text → Option IPAddress} {a : IPAddress} {t : Text} (plain : '/' ∉ t)
    (reads : read t = some a) (strict : Bool) : IPNetwork.ofText read t strict = some (IPNetwork.single a) := by
  have start : (IPNetwork.single a).network_address.ip = a.ip := by cases a <;> rfl
  simp [IPNetwork.ofText, List.splitOn_eq_singleton plain, reads, around_bits, start]

/-- An address, a slash and a prefix length are read as the network around it. -/
theorem ofText_prefix {read : Text → Option IPAddress} {a : IPAddress} {t len : Text} (plain : '/' ∉ t)
    (digits : '/' ∉ len) (reads : read t = some a) :
    IPNetwork.ofText read (t ++ '/' :: len) false = (IPNetwork.make_netmask a.version len).bind (IPNetwork.around a) := by
  have parts : ∀ l ∈ [t, len], '/' ∉ l := by simp [plain, digits]
  have pieces := List.splitOn_intercalate '/' parts (by simp)
  have whole : ['/'].intercalate [t, len] = t ++ '/' :: len := by simp [List.intercalate_cons_cons]
  rw [whole] at pieces
  simp [IPNetwork.ofText, pieces, reads]

theorem ofText_none {read : Text → Option IPAddress} {t : Text} {strict : Bool}
    (refuses : ∀ s ∈ (t.splitOn '/').head?, read s = none) : IPNetwork.ofText read t strict = none := by
  unfold IPNetwork.ofText
  cases pieces : t.splitOn '/' with
  | nil => rfl
  | cons s rest =>
    have nothing := refuses s (by simp [pieces])
    cases rest with
    | nil => simp [nothing]
    | cons mask rest => cases rest <;> simp [nothing]

theorem ip_network_address {a : IPAddress} (plain : Plain a) (strict : Bool) :
    IPNetwork.ip_network a.str strict = some (IPNetwork.single a) := by
  have slash := slash_notMem_str plain
  rcases plain_cases plain with ⟨ip, rfl⟩ | ⟨ip, rfl, unmapped⟩
  · simp [IPNetwork.ip_network, ofText_address slash (ofTextV4_v4_string ip)]
  · rw [str_v6 unmapped] at slash ⊢
    have v4 : IPNetwork.ofText ofTextV4 (v6_string ip.val) strict = none := by
      apply ofText_none
      simp [List.splitOn_eq_singleton slash, v4_reader_str_v6]
    simp [IPNetwork.ip_network, v4, ofText_address slash (ofTextV6_v6_string ip)]

/-- A text that reads as an address reads as the network that holds it alone. -/
theorem ip_network_of_ip_address {t : Text} {a : IPAddress} (read : ip_address t = some a) (strict : Bool) :
    IPNetwork.ip_network t strict = some (IPNetwork.single a) := by
  have slash : '/' ∉ t := by
    intro member
    simp [ip_address, ofTextV4, ofTextV6, member] at read
  unfold ip_address at read
  cases v4 : ofTextV4 t with
  | some b =>
    simp only [v4] at read
    cases Option.some.inj read
    simp [IPNetwork.ip_network, ofText_address slash v4]
  | none =>
    simp only [v4] at read
    have none_v4 : IPNetwork.ofText ofTextV4 t strict = none := by
      apply ofText_none
      simp [List.splitOn_eq_singleton slash, v4]
    rw [IPNetwork.ip_network, none_v4]
    exact ofText_address slash read strict

theorem splitOn_str {n : IPNetwork} (plain : Plain n.network_address) :
    n.str.splitOn '/' = [n.network_address.str, dec n.prefixlen] := by
  have digits : '/' ∉ dec n.prefixlen := fun member => absurd (isDigit_of_mem_dec member) (by decide)
  have parts : ∀ l ∈ [n.network_address.str, dec n.prefixlen], '/' ∉ l := by simp [slash_notMem_str plain, digits]
  have pieces := List.splitOn_intercalate '/' parts (by simp)
  rwa [show ['/'].intercalate [n.network_address.str, dec n.prefixlen] = n.str by
    simp [List.intercalate_cons_cons, IPNetwork.str]] at pieces

theorem ofText_str {n : IPNetwork} (plain : Plain n.network_address) (strict : Bool) :
    IPNetwork.ofText (reader n.version) n.str strict = some n := by
  have reads := reader_str plain
  have mask := make_netmask_dec (prefixlen_le n)
  rw [version_network_address] at reads
  simp [IPNetwork.ofText, splitOn_str plain, reads, version_network_address, mask, around_base]

/-- A printed network reads back as itself, host bits checked or not. -/
theorem ip_network_str {n : IPNetwork} (plain : Plain n.network_address) (strict : Bool) :
    IPNetwork.ip_network n.str strict = some n := by
  have reads := ofText_str plain strict
  cases n with
  | v4 b => exact (congrArg (· <|> _) reads).trans rfl
  | v6 b =>
    have unmapped : ipv4_mapped (.v6 ⟨b.base, b.base_lt⟩ none) = none := plain.1
    have v4 : IPNetwork.ofText ofTextV4 (IPNetwork.str (.v6 b)) strict = none := by
      apply ofText_none
      rw [splitOn_str plain]
      intro s first
      cases first
      exact (congrArg ofTextV4 (str_v6 unmapped)).trans (v4_reader_str_v6 _)
    simp only [IPNetwork.ip_network, v4]
    exact reads

/-- A mapped address is printed with a leading `::ffff:`. -/
theorem plain_of_head {a : IPAddress} (unscoped : ∀ ip scope_id, a = .v6 ip scope_id → scope_id = none)
    (head : a.str.head? ≠ some ':') : Plain a := by
  refine ⟨?_, unscoped⟩
  cases a with
  | v4 ip => rfl
  | v6 ip scope_id =>
    have noZone := unscoped ip scope_id rfl
    subst noZone
    cases mapped : ipv4_mapped (.v6 ip none) with
    | none => rfl
    | some inner =>
      have high : ip.val / 2 ^ 32 = 0xFFFF := by
        simp only [ipv4_mapped] at mapped
        by_contra other
        rw [if_neg other] at mapped
        simp at mapped
      have front : v6_string 0xFFFF = "::ffff".toList := by decide +kernel
      refine absurd ?_ head
      simp only [IPAddress.str, mapped, high, front]
      rfl

end RedDock.IpText
