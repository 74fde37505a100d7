import RedDock.Targets

/-!
# Canonical targets

Every accepted target has one of four canonical forms, and a canonical form of
at most 255 characters is accepted again and is its own normal form.
-/
set_option autoImplicit false
namespace RedDock.Canonical
open Text Targets IpText Fallible

variable {u : Unicode}

/-! ### Characters -/

/-- A visible ASCII character. -/
def Visible (c : Char) : Prop := 33 ≤ c.toNat ∧ c.toNat ≤ 126

instance (c : Char) : Decidable (Visible c) := inferInstanceAs (Decidable (_ ∧ _))

theorem visible_not_space {c : Char} (visible : Visible c) : isSpace c = false := by
  obtain ⟨low, high⟩ := visible
  simp [isSpace]
  omega

theorem visible_not_forbidden {c : Char} (visible : Visible c) : is_forbidden_character c = false := by
  have space := visible_not_space visible
  obtain ⟨low, high⟩ := visible
  simp [is_forbidden_character, space]
  omega

theorem digit_visible {c : Char} (digit : c.isDigit = true) : Visible c := by
  simp only [Char.isDigit, Bool.and_eq_true, decide_eq_true_eq, ge_iff_le, UInt32.le_iff_toNat_le] at digit
  have low : 48 ≤ c.toNat := digit.1
  have high : c.toNat ≤ 57 := digit.2
  exact ⟨by omega, by omega⟩

theorem label_char_visible {c : Char} (char : (label_edge c || c = '-') = true) : Visible c := by
  simp only [label_edge, Bool.or_eq_true, decide_eq_true_eq] at char
  rcases char with (lower | digit) | rfl
  · simp only [Char.isLower, Bool.and_eq_true, decide_eq_true_eq, ge_iff_le, UInt32.le_iff_toNat_le] at lower
    have low : 97 ≤ c.toNat := lower.1
    have high : c.toNat ≤ 122 := lower.2
    exact ⟨by omega, by omega⟩
  · exact digit_visible digit
  · decide

theorem address_char_visible {c : Char} (char : AddressChar c) : Visible c := by
  rcases char with rfl | rfl | digit | ⟨low, high⟩
  · decide
  · decide
  · exact digit_visible digit
  · have low' : 97 ≤ c.toNat := low
    have high' : c.toNat ≤ 102 := high
    exact ⟨by omega, by omega⟩

theorem strip_visible {t : Text} (visible : ∀ c ∈ t, Visible c) : strip t = t := by
  have kept : ∀ c ∈ t, ¬isSpace c = true := fun c member => by simp [visible_not_space (visible c member)]
  have front : t.dropWhile isSpace = t := by
    cases t with
    | nil => rfl
    | cons c t => simp [visible_not_space (visible c (by simp))]
  unfold strip
  rw [front]
  apply List.rdropWhile_eq_self_iff.mpr
  intro nonempty
  exact kept _ (List.getLast_mem nonempty)

theorem isAscii_visible {t : Text} (visible : ∀ c ∈ t, Visible c) : isAscii t = true := by
  simp only [isAscii, List.all_eq_true, decide_eq_true_eq]
  intro c member
  have := (visible c member).2
  omega

theorem matchesLine_of_line {p : Text → Bool} {t : Text} (line : '\n' ∉ t) : matchesLine p t = p t := by
  have last : t.getLast? ≠ some '\n' := fun same => line (List.mem_of_mem_getLast? same)
  simp [matchesLine, last]

theorem line_of_visible {t : Text} (visible : ∀ c ∈ t, Visible c) : '\n' ∉ t :=
  fun member => absurd (visible '\n' member) (by decide)

theorem lower_self {t : Text} (visible : ∀ c ∈ t, Visible c) (upper : ∀ c ∈ t, ¬(65 ≤ c.toNat ∧ c.toNat ≤ 90)) :
    u.lower t = t := by
  have each : ∀ c ∈ t, c.toLower = id c := by
    intro c member
    unfold Char.toLower
    rw [dif_neg]
    · rfl
    · rintro ⟨low, high⟩
      exact upper c member ⟨low, high⟩
  rw [u.lower_ascii t (isAscii_visible visible), List.map_congr_left each, List.map_id]

/-! ### Host names -/

theorem label_chars {l : Text} (label : label_text l = true) : ∀ c ∈ l, (label_edge c || c = '-') = true := by
  simp only [label_text, Bool.and_eq_true, List.all_eq_true] at label
  exact label.2

theorem label_visible {l : Text} (label : label_text l = true) : ∀ c ∈ l, Visible c :=
  fun c member => label_char_visible (label_chars label c member)

theorem label_ne_nil {l : Text} (label : label_text l = true) : l ≠ [] := by
  rintro rfl
  simp [label_text] at label

theorem notMem_label {l : Text} {c : Char} (label : label_text l = true) (other : (label_edge c || c = '-') = false) :
    c ∉ l := fun member => by simp [label_chars label c member] at other

theorem normalize_label_self {l : Text} (label : label_text l = true) : normalize_label u l = .ok l := by
  have visible := label_visible label
  have same : LABEL l = true := by rw [LABEL, matchesLine_of_line (line_of_visible visible), label]
  have ascii : ascii_label u l = .ok l := by rw [ascii_label, if_pos (isAscii_visible visible)]
  rw [normalize_label, if_neg (label_ne_nil label), ascii, ok_bind, same]
  rfl

theorem ascii_label_line {label s : Text} (line : '\n' ∉ label) (ascii : ascii_label u label = .ok s) : '\n' ∉ s := by
  unfold ascii_label at ascii
  split at ascii
  · cases ascii; exact line
  · split at ascii
    · rename_i encoded
      cases ascii
      exact fun member => line (Idna.encode_line encoded member)
    · simp at ascii

theorem normalize_label_spec {label l : Text} (line : '\n' ∉ label) (normal : normalize_label u label = .ok l) :
    ascii_label u label = .ok l ∧ label_text l = true := by
  unfold normalize_label at normal
  split at normal
  · simp at normal
  · obtain ⟨s, ascii, fits⟩ := bind_eq_ok.mp normal
    split at fits
    · simp at fits
    · rename_i proper
      cases fits
      rw [LABEL, matchesLine_of_line (ascii_label_line line ascii)] at proper
      exact ⟨ascii, by simpa using proper⟩

/-- A host name in canonical form, by its labels. -/
structure Name (labels : List Text) (h : Text) : Prop where
  nonempty : labels ≠ []
  proper : ∀ l ∈ labels, label_text l = true
  text : h = join ['.'] labels
  short : h.length ≤ MAX_HOSTNAME_LENGTH
  named : isDigits (labels.getLastD []) = false
  literal : labels.all ADDRESS_COMPONENT = false

theorem normalize_hostname_spec {t h : Text} (line : '\n' ∉ t) (normal : normalize_hostname u t = .ok h) :
    ∃ labels, Name labels h ∧
      List.Forall₂ (fun label l => ascii_label u label = .ok l)
        ((u.lower (rstripChar '.' (strip t))).splitOn '.') labels := by
  have trimmed : '\n' ∉ u.lower (rstripChar '.' (strip t)) := by
    intro member
    have inStrip : '\n' ∈ strip t := (List.rdropWhile_prefix _ _).subset (u.lower_line _ member)
    exact line (List.dropWhile_subset _ ((List.rdropWhile_prefix _ _).subset inStrip))
  unfold normalize_hostname at normal
  simp only at normal
  split at normal
  · simp at normal
  obtain ⟨labels, mapped, checks⟩ := bind_eq_ok.mp normal
  have pieces := mapM_ok.mp mapped
  have pieceLine : ∀ label ∈ (u.lower (rstripChar '.' (strip t))).splitOn '.', '\n' ∉ label := by
    intro label piece member
    rw [List.splitOn_eq_splitOnP] at piece
    exact trimmed (mem_of_mem_splitOnP piece member)
  have each : ∀ l ∈ labels, label_text l = true := by
    intro l member
    obtain ⟨label, piece, normalized⟩ := forall₂_right pieces member
    exact (normalize_label_spec (pieceLine label piece) normalized).2
  split at checks
  · simp at checks
  rename_i short
  split at checks
  · simp at checks
  rename_i named
  split at checks
  · simp at checks
  rename_i literal
  simp only [pure_eq_ok, Except.ok.injEq] at checks
  subst checks
  refine ⟨labels, ⟨?_, each, rfl, by simpa using short, by simpa using named, by simpa using literal⟩, ?_⟩
  · intro empty
    have lengths := pieces.length_eq
    rw [empty] at lengths
    exact List.splitOn_ne_nil '.' _ (List.length_eq_zero_iff.mp lengths)
  · rw [List.forall₂_iff_zip] at pieces ⊢
    refine ⟨pieces.1, fun paired => ?_⟩
    exact (normalize_label_spec (pieceLine _ (List.of_mem_zip paired).1) (pieces.2 paired)).1

section Name
variable {labels : List Text} {h : Text}

theorem name_char (name : Name labels h) : ∀ c ∈ h, c = '.' ∨ (label_edge c || c = '-') = true := by
  intro c member
  rcases mem_join (name.text ▸ member) with dot | ⟨l, inLabels, inL⟩
  · exact Or.inl (by simpa using dot)
  · exact Or.inr (label_chars (name.proper l inLabels) c inL)

theorem name_visible (name : Name labels h) : ∀ c ∈ h, Visible c := by
  intro c member
  rcases name_char name c member with rfl | char
  · decide
  · exact label_char_visible char

theorem notMem_name (name : Name labels h) {c : Char} (dot : c ≠ '.') (other : (label_edge c || c = '-') = false) :
    c ∉ h := fun member => by
  rcases name_char name c member with is | char
  · exact dot is
  · simp [char] at other

theorem splitOn_name (name : Name labels h) : h.splitOn '.' = labels := by
  rw [name.text]
  exact List.splitOn_intercalate '.' (fun l member => notMem_label (name.proper l member) (by decide)) name.nonempty

theorem name_piece_ne_nil (name : Name labels h) : [] ∉ h.splitOn '.' := by
  rw [splitOn_name name]
  exact fun member => label_ne_nil (name.proper [] member) rfl

theorem name_ne_nil (name : Name labels h) : h ≠ [] := by
  rintro rfl
  exact name_piece_ne_nil name (by simp)

theorem rstrip_name (name : Name labels h) : rstripChar '.' h = h := by
  apply List.rdropWhile_eq_self_iff.mpr
  intro nonempty dot
  have last : h = h.dropLast ++ '.' :: [] := by
    rw [beq_iff_eq] at dot
    conv_lhs => rw [← List.dropLast_append_getLast nonempty, dot]
  refine name_piece_ne_nil name ?_
  rw [last, List.splitOn_append_cons_self]
  simp

theorem name_not_upper (name : Name labels h) : ∀ c ∈ h, ¬(65 ≤ c.toNat ∧ c.toNat ≤ 90) := by
  intro c member upper
  have char := name_char name c member
  simp only [label_edge, Bool.or_eq_true, decide_eq_true_eq] at char
  rcases char with rfl | (lower | digit) | rfl
  · exact absurd upper (by decide)
  · simp only [Char.isLower, Bool.and_eq_true, decide_eq_true_eq, ge_iff_le, UInt32.le_iff_toNat_le] at lower
    have : 97 ≤ c.toNat := lower.1
    omega
  · simp only [Char.isDigit, Bool.and_eq_true, decide_eq_true_eq, ge_iff_le, UInt32.le_iff_toNat_le] at digit
    have : c.toNat ≤ 57 := digit.2
    omega
  · exact absurd upper (by decide)

theorem lower_name (name : Name labels h) : u.lower h = h := lower_self (name_visible name) (name_not_upper name)

theorem normalize_hostname_self (name : Name labels h) : normalize_hostname u h = .ok h := by
  have mapped : labels.mapM (normalize_label u) = .ok labels :=
    mapM_ok.mpr (List.forall₂_same.mpr fun l member => normalize_label_self (name.proper l member))
  unfold normalize_hostname
  simp only [strip_visible (name_visible name), rstrip_name name, lower_name name, name_ne_nil name, if_false,
    splitOn_name name, mapped, ok_bind, ← name.text]
  rw [if_neg (by have := name.short; omega), if_neg (by rw [name.named]; decide), if_neg (by rw [name.literal]; decide)]
  rfl

theorem parse_address_name (name : Name labels h) : parse_address u h = .ok none := by
  have colon : ':' ∉ h := notMem_name name (by decide) (by decide)
  have quad : IPV4_TEXT u h = false := by
    rw [IPV4_TEXT, matchesLine_of_line (line_of_visible (name_visible name)), dotted_quad, splitOn_name name,
      Bool.and_eq_false_iff]
    refine Or.inr (Bool.eq_false_iff.mpr fun all => ?_)
    -- The last label would be a number.
    have inside : labels.getLastD [] ∈ labels := by
      rw [List.getLastD_eq_getLast?, List.getLast?_eq_some_getLast name.nonempty]
      exact List.getLast_mem _
    have digits := List.all_eq_true.mp all _ inside
    have visible := label_visible (name.proper _ inside)
    have nonempty := label_ne_nil (name.proper _ inside)
    refine absurd name.named ?_
    simp only [decimals, Bool.and_eq_true, List.all_eq_true] at digits
    simp only [isDigits, Bool.not_eq_false, Bool.and_eq_true, Bool.not_eq_true', List.isEmpty_eq_false_iff,
      List.all_eq_true]
    refine ⟨nonempty, fun c member => ?_⟩
    rw [← u.isDecimal_ascii c (by have := (visible c member).2; omega)]
    exact digits.2 c member
  simp [parse_address, quad, colon]

theorem safe_token_name (name : Name labels h) : is_safe_token h = true := by
  have token : token_text h = true := by
    simp only [token_text, Bool.and_eq_true, List.all_eq_true]
    constructor
    · obtain ⟨l, rest, rfl⟩ := List.exists_cons_of_ne_nil name.nonempty
      have first := name.proper l (by simp)
      obtain ⟨c, l', rfl⟩ := List.exists_cons_of_ne_nil (label_ne_nil first)
      have head : h.head? = some c := by
        rw [name.text]
        cases rest with
        | nil => simp [join]
        | cons m rest => simp [join_cons_cons]
      have edge : label_edge c = true := by
        simp only [label_text, List.head?_cons, Option.any_some, Bool.and_eq_true] at first
        exact first.1.1.2
      rw [head, Option.any_some]
      simp only [label_edge, Bool.or_eq_true] at edge
      rcases edge with lower | digit
      · simp [Char.isAlphanum, Char.isAlpha, lower]
      · simp [Char.isAlphanum, digit]
    · intro c member
      rcases name_char name c member with rfl | char
      · decide
      · simp only [label_edge, Bool.or_eq_true, decide_eq_true_eq] at char
        rcases char with (lower | digit) | rfl
        · simp [token_char, Char.isAlphanum, Char.isAlpha, lower]
        · simp [token_char, Char.isAlphanum, digit]
        · decide
  rw [is_safe_token, SAFE_TOKEN, matchesLine_of_line (line_of_visible (name_visible name)), token]

end Name

/-! ### Addresses -/

theorem quad_char {t : Text} (quad : dotted_quad u t = true) : ∀ c ∈ t, c = '.' ∨ u.isDecimal c = true := by
  intro c member
  rcases mem_of_splitOn '.' member with dot | ⟨part, piece, inPart⟩
  · exact Or.inl dot
  · simp only [dotted_quad, Bool.and_eq_true, List.all_eq_true] at quad
    have part_decimals := quad.2 part piece
    simp only [decimals, Bool.and_eq_true, List.all_eq_true] at part_decimals
    exact Or.inr (part_decimals.2 c inPart)

theorem ipv4_text_char {t : Text} (quad : IPV4_TEXT u t = true) :
    ∀ c ∈ t, c = '\n' ∨ c = '.' ∨ u.isDecimal c = true := by
  intro c member
  simp only [IPV4_TEXT, matchesLine, Bool.or_eq_true, Bool.and_eq_true, beq_iff_eq] at quad
  rcases quad with whole | ⟨last, front⟩
  · exact Or.inr (quad_char whole c member)
  · have split : t = t.dropLast ++ ['\n'] := by
      have nonempty : t ≠ [] := by rintro rfl; simp at last
      rw [List.getLast?_eq_some_getLast nonempty, Option.some.injEq] at last
      conv_lhs => rw [← List.dropLast_append_getLast nonempty, last]
    rw [split, List.mem_append, List.mem_singleton] at member
    rcases member with inFront | line
    · exact Or.inr (quad_char front c inFront)
    · exact Or.inl line

theorem notMem_ipv4_text {t : Text} {c : Char} (quad : IPV4_TEXT u t = true) (ascii : c.toNat < 128)
    (other : c ≠ '\n' ∧ c ≠ '.' ∧ c.isDigit = false) : c ∉ t := fun member => by
  rcases ipv4_text_char quad c member with is | is | is
  · exact other.1 is
  · exact other.2.1 is
  · rw [u.isDecimal_ascii c ascii, other.2.2] at is
    simp at is

/-- The characters of a text the standard library reads as IPv4. -/
theorem ipv4_text_of_ofTextV4 {t : Text} {a : IPAddress} (read : IPAddress.ofTextV4 t = some a) : IPV4_TEXT u t = true := by
  unfold IPAddress.ofTextV4 at read
  split at read
  · simp at read
  cases value : IPAddress.v4_int_from_string t with
  | none => simp [value] at read
  | some ip =>
    unfold IPAddress.v4_int_from_string at value
    simp only at value
    split at value
    · simp at value
    rename_i four
    cases bytes : (t.splitOn '.').mapM IPAddress.parse_octet with
    | none => simp [bytes] at value
    | some ns =>
      have quad : dotted_quad u t = true := by
        simp only [dotted_quad, Bool.and_eq_true, decide_eq_true_eq, List.all_eq_true]
        refine ⟨by omega, fun part piece => ?_⟩
        obtain ⟨n, _, octet⟩ := forall₂_left (mapM_some.mp bytes) piece
        have digits := parse_octet_isDigits octet
        have short := parse_octet_length octet
        simp only [isDigits, Bool.and_eq_true, Bool.not_eq_true', List.isEmpty_eq_false_iff, List.all_eq_true] at digits
        simp only [decimals, Bool.and_eq_true, decide_eq_true_eq, List.all_eq_true]
        refine ⟨⟨List.length_pos_iff.mpr digits.1, short⟩, fun c member => ?_⟩
        have digit := digits.2 c member
        rw [u.isDecimal_ascii c (by have := (digit_visible digit).2; omega), digit]
      simp [IPV4_TEXT, matchesLine, quad]

/-- Without a zone the code reads the addresses the standard library reads. -/
theorem parse_address_eq {t : Text} (noZone : '%' ∉ t) : parse_address u t = .ok (IPAddress.ip_address t) := by
  unfold parse_address IPAddress.ip_address
  by_cases quad : IPV4_TEXT u t = true
  · have colon : ':' ∉ t := notMem_ipv4_text quad (by decide) (by decide)
    have notV6 : IPAddress.ofTextV6 t = none :=
      Option.eq_none_iff_forall_ne_some.mpr fun a read => colon (colon_of_ofTextV6 read)
    simp [quad, notV6]
  · have notV4 : IPAddress.ofTextV4 t = none :=
      Option.eq_none_iff_forall_ne_some.mpr fun a read => quad (ipv4_text_of_ofTextV4 read)
    by_cases colon : ':' ∈ t
    · simp [quad, colon, noZone, notV4]
    · have notV6 : IPAddress.ofTextV6 t = none :=
        Option.eq_none_iff_forall_ne_some.mpr fun a read => colon (colon_of_ofTextV6 read)
      simp [quad, colon, notV4, notV6]

/-- A text with a zone is never an address to the code. -/
theorem is_address_text_iff {t : Text} : is_address_text u t = true ↔ (IPAddress.ip_address t).isSome ∧ '%' ∉ t := by
  by_cases zone : '%' ∈ t
  · have quad : IPV4_TEXT u t = false := Bool.eq_false_iff.mpr fun quad =>
      notMem_ipv4_text quad (c := '%') (by decide) (by decide) zone
    by_cases colon : ':' ∈ t
    · simp [is_address_text, parse_address, quad, colon, zone, targetError, targetErrorText]
    · simp [is_address_text, parse_address, quad, colon, zone]
  · simp [is_address_text, parse_address_eq zone, zone]

theorem unscoped_of_ofTextV6 {t : Text} {a : IPAddress} (noZone : '%' ∉ t) (read : IPAddress.ofTextV6 t = some a) :
    ∃ ip, a = .v6 ip none := by
  unfold IPAddress.ofTextV6 at read
  split at read
  · simp at read
  · have whole : IPAddress.split_scope_id t = some (t, none) := by
      simp [IPAddress.split_scope_id, partition_of_notMem noZone]
    simp only [whole, Option.bind_eq_bind, Option.bind_some, Option.bind_eq_some_iff, Option.pure_def,
      Option.some.injEq] at read
    obtain ⟨ip, _, rfl⟩ := read
    exact ⟨ip, rfl⟩

theorem unscoped_of_ip_address {t : Text} {a : IPAddress} (noZone : '%' ∉ t) (read : IPAddress.ip_address t = some a) :
    ∀ ip scope_id, a = .v6 ip scope_id → scope_id = none := by
  intro ip scope_id same
  unfold IPAddress.ip_address at read
  cases v4 : IPAddress.ofTextV4 t with
  | some b =>
    simp only [v4] at read
    cases Option.some.inj read
    subst same
    unfold IPAddress.ofTextV4 at v4
    split at v4
    · simp at v4
    · simp at v4
  | none =>
    simp only [v4] at read
    obtain ⟨ip', rfl⟩ := unscoped_of_ofTextV6 noZone read
    cases same; rfl

/-- What the code accepts as an address has no zone. -/
theorem parse_address_some {t : Text} {a : IPAddress} (read : parse_address u t = .ok (some a)) :
    '%' ∉ t ∧ IPAddress.ip_address t = some a := by
  have plain : '%' ∉ t := ((is_address_text_iff (u := u)).mp (by simp [is_address_text, read])).2
  rw [parse_address_eq plain] at read
  exact ⟨plain, by simpa using read⟩

theorem head_of_safe_token {t : Text} (safe : is_safe_token t = true) : t.head? ≠ some ':' := by
  intro head
  have first : ∀ s : Text, s.head? = some ':' → token_text s = false := by
    intro s colon
    simp only [token_text, colon, Option.any_some]
    exact Bool.and_eq_false_iff.mpr (Or.inl (by decide))
  simp only [is_safe_token, SAFE_TOKEN, matchesLine, Bool.or_eq_true, Bool.and_eq_true, beq_iff_eq] at safe
  rcases safe with whole | ⟨last, front⟩
  · simp [first t head] at whole
  · cases t with
    | nil => simp at head
    | cons c rest =>
      cases rest with
      | nil => simp at head last; rw [head] at last; exact absurd last (by decide)
      | cons d rest =>
        have colon : ((c :: d :: rest).dropLast).head? = some ':' := by simpa using head
        rw [first _ colon] at front
        exact absurd front (by decide)

theorem plain_of_safe {t : Text} {a : IPAddress} (read : parse_address u t = .ok (some a))
    (safe : is_safe_token a.str = true) : Plain a := by
  obtain ⟨noZone, address⟩ := parse_address_some read
  exact plain_of_head (unscoped_of_ip_address noZone address) (head_of_safe_token safe)

theorem percent_notMem_str {a : IPAddress} (plain : Plain a) : '%' ∉ a.str := fun member => by
  rcases str_char plain '%' member with is | is | is | is <;> exact absurd is (by decide)

theorem parse_address_str {a : IPAddress} (plain : Plain a) : parse_address u a.str = .ok (some a) := by
  rw [parse_address_eq (percent_notMem_str plain), ip_address_str plain]

/-! ### The four canonical forms -/

/-- An address the code accepts as a target or as the host of an origin. -/
structure Usable (a : IPAddress) : Prop where
  plain : Plain a
  specified : a.is_unspecified = false
  unicast : a.is_multicast = false
  safe : is_safe_token a.str = true

/-- A network the code accepts as a target. -/
structure UsableNetwork (n : IPNetwork) : Prop where
  plain : Plain n.network_address
  specified : n.network_address.is_unspecified = false
  unicast : n.is_multicast = false
  safe : is_safe_token n.str = true

/-- The host of an origin and the way it is written there. -/
inductive Written : Text → Text → Prop
  | name {labels : List Text} {h : Text} (name : Name labels h) : Written h h
  | v4 {a : IPAddress} (usable : Usable a) (family : a.version = .v4) : Written a.str a.str
  | v6 {a : IPAddress} (usable : Usable a) (family : a.version = .v6) : Written a.str (['['] ++ a.str ++ [']'])

def addressTarget (a : IPAddress) : Target := { kind := address_kind a.version, value := a.str, host := a.str }
def networkTarget (n : IPNetwork) : Target := { kind := network_kind n.version, value := n.str, host := n.str }
def nameTarget (h : Text) : Target := { kind := .hostname, value := h, host := h }
def originTarget (scheme host written : Text) (default port : Nat) : Target where
  kind := .url
  value := scheme ++ "://".toList ++ written ++ port_suffix default (some port)
  host := host
  scheme := some scheme
  port := some port

/-- A target in canonical form. -/
inductive Form : Target → Prop
  | address {a : IPAddress} (usable : Usable a) : Form (addressTarget a)
  | network {n : IPNetwork} (usable : UsableNetwork n) : Form (networkTarget n)
  | name {labels : List Text} {h : Text} (name : Name labels h) : Form (nameTarget h)
  | origin {scheme host written : Text} {default port : Nat} (known : default_port scheme = some default)
      (is_written : Written host written) (low : 1 ≤ port) (high : port ≤ 65535) :
      Form (originTarget scheme host written default port)

theorem assert_safe_token_eq_ok {v : Text} {x : Unit} (asserted : assert_safe_token v = .ok x) : is_safe_token v = true := by
  unfold assert_safe_token at asserted
  split at asserted
  · assumption
  · simp at asserted

theorem reject_unusable_eq_ok {a : IPAddress} {x : Unit} (kept : reject_unusable_address a = .ok x) :
    a.is_unspecified = false ∧ a.is_multicast = false := by
  unfold reject_unusable_address at kept
  split at kept
  · simp at kept
  · split at kept
    · simp at kept
    · exact ⟨by simpa using ‹¬a.is_unspecified = true›, by simpa using ‹¬a.is_multicast = true›⟩

theorem Usable.kept {a : IPAddress} (usable : Usable a) : reject_unusable_address a = .ok () := by
  simp [reject_unusable_address, usable.specified, usable.unicast]

theorem usable_of_parse {t : Text} {a : IPAddress} {x y : Unit} (read : parse_address u t = .ok (some a))
    (kept : reject_unusable_address a = .ok x) (asserted : assert_safe_token a.str = .ok y) : Usable a :=
  have safe := assert_safe_token_eq_ok asserted
  have kept := reject_unusable_eq_ok kept
  ⟨plain_of_safe read safe, kept.1, kept.2, safe⟩

theorem address_target_eq_ok {t : Text} {a : IPAddress} {target : Target} (read : parse_address u t = .ok (some a))
    (normal : address_target a = .ok target) : Usable a ∧ target = addressTarget a := by
  unfold address_target at normal
  obtain ⟨_, kept, normal⟩ := bind_eq_ok.mp normal
  obtain ⟨_, asserted, normal⟩ := bind_eq_ok.mp normal
  cases normal
  exact ⟨usable_of_parse read kept asserted, rfl⟩

theorem address_target_self {a : IPAddress} (usable : Usable a) : address_target a = .ok (addressTarget a) := by
  simp [address_target, usable.kept, assert_safe_token, usable.safe, addressTarget]

theorem normalize_network_eq_ok {t : Text} {target : Target} (normal : normalize_network u t = .ok target) :
    ∃ n, UsableNetwork n ∧ target = networkTarget n := by
  unfold normalize_network at normal
  simp only at normal
  split at normal
  · simp at normal
  obtain ⟨parsed, _, normal⟩ := bind_eq_ok.mp normal
  cases parsed with
  | none => simp at normal
  | some a =>
    simp only at normal
    split at normal
    · simp at normal
    · rename_i n _
      split at normal
      · simp at normal
      rename_i specified
      split at normal
      · simp at normal
      rename_i unicast
      obtain ⟨_, asserted, normal⟩ := bind_eq_ok.mp normal
      cases normal
      have safe := assert_safe_token_eq_ok asserted
      have unscoped : ∀ ip scope_id, n.network_address = .v6 ip scope_id → scope_id = none := by
        intro ip scope_id same
        cases n <;> cases same
        rfl
      refine ⟨n, ⟨plain_of_head unscoped ?_, by simpa using specified, by simpa using unicast, safe⟩, rfl⟩
      intro colon
      refine head_of_safe_token safe ?_
      rw [IPNetwork.str, List.append_assoc, List.head?_append_of_ne_nil]
      · exact colon
      · intro empty; simp [empty] at colon

theorem prefix_dec {n : IPNetwork} : PREFIX u (dec n.prefixlen) = true := by
  have bound := prefixlen_le n
  have small : n.prefixlen < 10 ^ 3 := by cases version : n.version <;> simp [version, Version.bits] at bound <;> omega
  have short := dec_length_le (k := 3) (by decide) small
  have all : (dec n.prefixlen).all u.isDecimal = true := by
    rw [List.all_eq_true]
    intro c member
    have digit := isDigit_of_mem_dec member
    rw [u.isDecimal_ascii c (by have := (digit_visible digit).2; omega), digit]
  have nonempty := List.length_pos_iff.mpr (dec_ne_nil n.prefixlen)
  simp [PREFIX, matchesLine, decimals, all, short]
  omega

theorem normalize_network_self {n : IPNetwork} (usable : UsableNetwork n) :
    normalize_network u n.str = .ok (networkTarget n) := by
  have pieces : partition '/' n.str = (n.network_address.str, true, dec n.prefixlen) := by
    rw [IPNetwork.str, List.append_assoc]
    exact partition_append (slash_notMem_str usable.plain) _
  have spelled : IPNetwork.ip_network (n.network_address.str ++ ['/'] ++ dec n.prefixlen) false = some n :=
    ip_network_str usable.plain false
  simp only [normalize_network, pieces, prefix_dec, Bool.not_true, Bool.false_eq_true, if_false,
    parse_address_str usable.plain, ok_bind, spelled, usable.specified, usable.unicast, assert_safe_token, usable.safe,
    if_true, pure_eq_ok, networkTarget]

/-! ### Origins -/

theorem scheme_cases {scheme : Text} {default : Nat} (known : default_port scheme = some default) :
    scheme = "http".toList ∨ scheme = "https".toList := by
  unfold default_port at known
  split at known
  · exact Or.inl ‹_›
  · split at known
    · exact Or.inr ‹_›
    · simp at known

/-- A test that every character of a known text passes. -/
theorem chars_of_all {t : Text} {p : Char → Bool} (all : t.all p = true) : ∀ c ∈ t, p c = true := List.all_eq_true.mp all

theorem scheme_visible {scheme : Text} {default : Nat} (known : default_port scheme = some default) : ∀ c ∈ scheme, Visible c := by
  intro c member
  rcases scheme_cases known with rfl | rfl
  · exact of_decide_eq_true (chars_of_all (p := fun c => decide (Visible c)) (by decide +kernel) c member)
  · exact of_decide_eq_true (chars_of_all (p := fun c => decide (Visible c)) (by decide +kernel) c member)

theorem scheme_lower {scheme : Text} {default : Nat} (known : default_port scheme = some default) : u.lower scheme = scheme := by
  refine lower_self (scheme_visible known) fun c member => ?_
  rcases scheme_cases known with rfl | rfl
  · exact of_decide_eq_true (chars_of_all (p := fun c => decide ¬(65 ≤ c.toNat ∧ c.toNat ≤ 90)) (by decide +kernel) c member)
  · exact of_decide_eq_true (chars_of_all (p := fun c => decide ¬(65 ≤ c.toNat ∧ c.toNat ≤ 90)) (by decide +kernel) c member)

theorem separator_visible : ∀ c ∈ "://".toList, Visible c := fun c member =>
  of_decide_eq_true (chars_of_all (p := fun c => decide (Visible c)) (by decide +kernel) c member)

/-- What may stand between `://` and the end of an origin. -/
structure NetlocChars (netloc : Text) : Prop where
  visible : ∀ c ∈ netloc, Visible c
  delimiter : ∀ c ∈ netloc, c ∉ ['/', '?', '#']

/-- An origin loses no character before its scheme is split off. -/
theorem split_scheme_origin {scheme netloc : Text} {default : Nat} (known : default_port scheme = some default)
    (chars : NetlocChars netloc) : Urls.split_scheme u (((scheme ++ "://".toList ++ netloc).dropWhile (·.toNat ≤ 0x20)).filter
      fun c => c ∉ ['\t', '\r', '\n']) = (scheme, '/' :: '/' :: netloc) := by
  have whole : scheme ++ "://".toList ++ netloc = scheme ++ ':' :: '/' :: '/' :: netloc := by
    rw [List.append_assoc]; rfl
  have kept : ∀ c ∈ scheme ++ ':' :: '/' :: '/' :: netloc, Visible c := by
    intro c member
    rcases List.mem_append.mp member with inScheme | later
    · exact scheme_visible known c inScheme
    · rcases List.mem_cons.mp later with rfl | later
      · decide
      rcases List.mem_cons.mp later with rfl | later
      · decide
      rcases List.mem_cons.mp later with rfl | later
      · decide
      exact chars.visible c later
  have front : (scheme ++ ':' :: '/' :: '/' :: netloc).dropWhile (·.toNat ≤ 0x20) = scheme ++ ':' :: '/' :: '/' :: netloc := by
    rcases scheme_cases known with rfl | rfl <;> rfl
  have clean : (scheme ++ ':' :: '/' :: '/' :: netloc).filter (fun c => c ∉ ['\t', '\r', '\n']) =
      scheme ++ ':' :: '/' :: '/' :: netloc := by
    rw [List.filter_eq_self]
    intro c member
    have visible := kept c member
    simp only [List.mem_cons, List.not_mem_nil, or_false, not_or, decide_eq_true_eq]
    refine ⟨?_, ?_, ?_⟩ <;> rintro rfl <;> exact absurd visible (by decide)
  have colon : ':' ∉ scheme := by rcases scheme_cases known with rfl | rfl <;> decide +kernel
  have lower : u.lower scheme = scheme := scheme_lower known
  have alphabetic : (scheme.head?.any Char.isAlpha && scheme.all Urls.scheme_char) = true := by
    rcases scheme_cases known with rfl | rfl <;> decide +kernel
  rw [whole, front, clean, Urls.split_scheme, partition_append colon]
  simp only [alphabetic, if_true, lower]

theorem urlsplit_origin {scheme netloc : Text} {default : Nat} (known : default_port scheme = some default)
    (chars : NetlocChars netloc) (brackets : ('[' ∈ netloc ↔ ']' ∈ netloc) ∧
      ('[' ∈ netloc → Urls.check_bracketed_netloc netloc = true)) :
    Urls.urlsplit u (scheme ++ "://".toList ++ netloc) = some { scheme := scheme, netloc := netloc } := by
  have host : netloc.takeWhile (fun c => c ∉ ['/', '?', '#']) = netloc := by
    rw [List.takeWhile_eq_self_iff]
    intro c member
    exact decide_eq_true (chars.delimiter c member)
  have ascii : Urls.checknetloc u netloc = true := by
    simp [Urls.checknetloc, isAscii_visible chars.visible]
  have same : (decide ('[' ∈ netloc) != decide (']' ∈ netloc)) = false := by
    rw [bne_eq_false_iff_eq, decide_eq_decide]; exact brackets.1
  have checked : ¬('[' ∈ netloc ∧ (!Urls.check_bracketed_netloc netloc) = true) := by
    rintro ⟨open_bracket, refused⟩
    simp [brackets.2 open_bracket] at refused
  simp only [Urls.urlsplit, split_scheme_origin known chars, List.take_succ_cons, List.take_zero, if_true,
    List.drop_succ_cons, List.drop_zero, host, same, checked, ascii, Bool.false_eq_true, if_false, Bool.not_true]

theorem suffix_char {default port : Nat} : ∀ c ∈ port_suffix default (some port), c = ':' ∨ c.isDigit = true := by
  intro c member
  simp only [port_suffix] at member
  split at member
  · simp at member
  · rcases List.mem_cons.mp member with rfl | digit
    · exact Or.inl rfl
    · exact Or.inr (isDigit_of_mem_dec digit)

section Written
variable {host written : Text} {default port : Nat}

theorem written_char (is_written : Written host written) : ∀ c ∈ written,
    AddressChar c ∨ c = '[' ∨ c = ']' ∨ (label_edge c || c = '-') = true := by
  intro c member
  cases is_written with
  | name name =>
    rcases name_char name c member with rfl | char
    · exact Or.inl (Or.inr (Or.inl rfl))
    · exact Or.inr (Or.inr (Or.inr char))
  | v4 usable _ => exact Or.inl (str_char usable.plain c member)
  | v6 usable _ =>
    simp only [List.append_assoc, List.mem_append, List.mem_singleton] at member
    rcases member with rfl | inside | rfl
    · exact Or.inr (Or.inl rfl)
    · exact Or.inl (str_char usable.plain c inside)
    · exact Or.inr (Or.inr (Or.inl rfl))

theorem netloc_char (is_written : Written host written) : ∀ c ∈ written ++ port_suffix default (some port),
    AddressChar c ∨ c = '[' ∨ c = ']' ∨ (label_edge c || c = '-') = true := by
  intro c member
  rcases List.mem_append.mp member with inWritten | inSuffix
  · exact written_char is_written c inWritten
  · rcases suffix_char c inSuffix with rfl | digit
    · exact Or.inl (Or.inl rfl)
    · exact Or.inl (Or.inr (Or.inr (Or.inl digit)))

theorem netloc_chars (is_written : Written host written) : NetlocChars (written ++ port_suffix default (some port)) := by
  constructor
  · intro c member
    rcases netloc_char is_written c member with char | rfl | rfl | char
    · exact address_char_visible char
    · decide
    · decide
    · exact label_char_visible char
  · intro c member delimiter
    simp only [List.mem_cons, List.not_mem_nil, or_false] at delimiter
    have char := netloc_char is_written c member
    rcases delimiter with rfl | rfl | rfl <;> exact absurd char (by unfold AddressChar; decide)

theorem at_notMem_netloc (is_written : Written host written) : '@' ∉ written ++ port_suffix default (some port) :=
  fun member => absurd (netloc_char is_written '@' member) (by unfold AddressChar; decide)

theorem afterLast_of_notMem {sep : Char} {t : Text} (absent : sep ∉ t) : afterLast sep t = t := by
  rw [afterLast, List.rtakeWhile_eq_self_iff]
  intro c member
  simp only [bne_iff_ne, ne_eq]
  exact fun same => absent (same ▸ member)

/-- The characters of a host that is written without brackets. -/
def BareChar (c : Char) : Prop := AddressChar c ∨ (label_edge c || c = '-') = true

theorem bare_name {labels : List Text} {h : Text} (name : Name labels h) : ∀ c ∈ h, BareChar c := by
  intro c member
  rcases name_char name c member with rfl | char
  · exact Or.inl (Or.inr (Or.inl rfl))
  · exact Or.inr char

theorem bracket_notMem {t : Text} {c : Char} (bare : ∀ c ∈ t, BareChar c) (bracket : c = '[' ∨ c = ']') :
    c ∉ t ++ port_suffix default (some port) := by
  have outside : ¬BareChar c := by
    rcases bracket with rfl | rfl <;> unfold BareChar AddressChar <;> decide
  intro member
  rcases List.mem_append.mp member with inT | inSuffix
  · exact outside (bare c inT)
  · rcases suffix_char c inSuffix with rfl | digit
    · exact outside (Or.inl (Or.inl rfl))
    · exact outside (Or.inl (Or.inr (Or.inr (Or.inl digit))))

theorem colon_notMem_v4 {a : IPAddress} (usable : Usable a) (family : a.version = .v4) : ':' ∉ a.str := by
  rcases plain_cases usable.plain with ⟨ip, rfl⟩ | ⟨ip, rfl, _⟩
  · intro colon
    rcases v4_string_char colon with digit | dot
    · exact absurd digit (by decide)
    · exact absurd dot (by decide)
  · simp [IPAddress.version] at family

/-- The port of an origin as text, empty for the default one. -/
def portText (default port : Nat) : Text := if port = default then [] else dec port

theorem partition_suffix {t : Text} (colon : ':' ∉ t) :
    (partition ':' (t ++ port_suffix default (some port))).1 = t ∧
      (partition ':' (t ++ port_suffix default (some port))).2.2 = portText default port := by
  simp only [port_suffix, portText]
  split
  · rw [List.append_nil, partition_of_notMem colon]; exact ⟨rfl, rfl⟩
  · rw [partition_append colon]; exact ⟨rfl, rfl⟩

/-- What splitting the part after `://` of an origin gives back. -/
structure SplitsTo (netloc host portText : Text) : Prop where
  hostinfo : ∀ scheme, Urls.SplitResult.hostinfo { scheme := scheme, netloc := netloc } =
    (host, if portText = [] then none else some portText)
  brackets : '[' ∈ netloc ↔ ']' ∈ netloc
  checked : '[' ∈ netloc → Urls.check_bracketed_netloc netloc = true

theorem splitsTo_bare {t : Text} (bare : ∀ c ∈ t, BareChar c) (colon : ':' ∉ t)
    (info : afterLast '@' (t ++ port_suffix default (some port)) = t ++ port_suffix default (some port)) :
    SplitsTo (t ++ port_suffix default (some port)) t (portText default port) := by
  have opening : '[' ∉ t ++ port_suffix default (some port) := bracket_notMem bare (Or.inl rfl)
  have closing : ']' ∉ t ++ port_suffix default (some port) := bracket_notMem bare (Or.inr rfl)
  have front : (partition ':' (t ++ port_suffix default (some port))).1 = t := (partition_suffix colon).1
  have back : (partition ':' (t ++ port_suffix default (some port))).2.2 = portText default port := (partition_suffix colon).2
  refine ⟨fun scheme => ?_, by simp [opening, closing], fun inside => absurd inside opening⟩
  simp only [Urls.SplitResult.hostinfo, info]
  rw [partition_of_notMem opening]
  simp only [front, back]

theorem splitsTo_bracketed {a : IPAddress} (usable : Usable a) (family : a.version = .v6)
    (info : afterLast '@' ('[' :: (a.str ++ ']' :: port_suffix default (some port))) =
      '[' :: (a.str ++ ']' :: port_suffix default (some port))) :
    SplitsTo ('[' :: (a.str ++ ']' :: port_suffix default (some port))) a.str (portText default port) := by
  have opening : partition '[' ('[' :: (a.str ++ ']' :: port_suffix default (some port))) =
      ([], true, a.str ++ ']' :: port_suffix default (some port)) := partition_append (t := []) (by simp) _
  have closing : partition ']' (a.str ++ ']' :: port_suffix default (some port)) =
      (a.str, true, port_suffix default (some port)) := by
    refine partition_append (fun member => ?_) _
    exact absurd (str_char usable.plain ']' member) (by unfold AddressChar; decide)
  have back : (partition ':' (port_suffix default (some port))).2.2 = portText default port :=
    (partition_suffix (t := []) (by simp)).2
  refine ⟨fun scheme => ?_, by simp, fun _ => ?_⟩
  · simp only [Urls.SplitResult.hostinfo, info, opening, closing, back]
  · have address : Urls.check_bracketed_host a.str = true := by
      obtain ⟨ip, rfl⟩ : ∃ ip, a = .v6 ip none := by
        rcases plain_cases usable.plain with ⟨ip, rfl⟩ | ⟨ip, rfl, _⟩
        · simp [IPAddress.version] at family
        · exact ⟨ip, rfl⟩
      have head : (IPAddress.str (.v6 ip none)).head? ≠ some 'v' := fun head =>
        absurd (str_char usable.plain 'v' (List.mem_of_mem_head? head)) (by unfold AddressChar; decide)
      rw [Urls.check_bracketed_host, if_neg head, ip_address_str usable.plain]
    have after : (port_suffix default (some port) = [] ∨ (port_suffix default (some port)).head? = some ':') := by
      simp only [port_suffix]
      split <;> simp
    simp only [Urls.check_bracketed_netloc, info, opening, closing, address, decide_true, Bool.true_and, Bool.and_true,
      Bool.or_eq_true, decide_eq_true_eq]
    exact after

theorem splitsTo_written (is_written : Written host written) :
    SplitsTo (written ++ port_suffix default (some port)) host (portText default port) := by
  have noUser : '@' ∉ written ++ port_suffix default (some port) := at_notMem_netloc is_written
  have info := afterLast_of_notMem noUser
  cases is_written with
  | name name => exact splitsTo_bare (bare_name name) (notMem_name name (by decide) (by decide)) info
  | v4 usable family =>
    exact splitsTo_bare (fun c member => Or.inl (str_char usable.plain c member)) (colon_notMem_v4 usable family) info
  | v6 usable family =>
    simp only [List.append_assoc, List.cons_append, List.nil_append] at info ⊢
    exact splitsTo_bracketed usable family info

theorem port_origin {netloc : Text} (splits : SplitsTo netloc host (portText default port)) (high : port ≤ 65535)
    (scheme : Text) : Urls.SplitResult.port { scheme := scheme, netloc := netloc } =
      some (if port = default then none else some port) := by
  rw [Urls.SplitResult.port, splits.hostinfo, portText]
  by_cases same : port = default
  · simp [same]
  · simp [same, dec_ne_nil, isDigits_dec, high]

theorem str_not_upper {a : IPAddress} (plain : Plain a) : ∀ c ∈ a.str, ¬(65 ≤ c.toNat ∧ c.toNat ≤ 90) := by
  intro c member upper
  rcases str_char plain c member with rfl | rfl | digit | ⟨low, _⟩
  · exact absurd upper (by decide)
  · exact absurd upper (by decide)
  · simp only [Char.isDigit, Bool.and_eq_true, decide_eq_true_eq, ge_iff_le, UInt32.le_iff_toNat_le] at digit
    have : c.toNat ≤ 57 := digit.2
    omega
  · have : 97 ≤ c.toNat := low
    omega

theorem host_self (is_written : Written host written) : u.lower host = host ∧ '%' ∉ host ∧ host ≠ [] ∧
    is_safe_token host = true ∧ url_host u host = .ok (host, written) := by
  have address : ∀ {a : IPAddress}, Usable a → u.lower a.str = a.str ∧ '%' ∉ a.str ∧ a.str ≠ [] ∧
      is_safe_token a.str = true := fun {a} usable => by
    refine ⟨lower_self (fun c member => address_char_visible (str_char usable.plain c member)) (str_not_upper usable.plain),
      percent_notMem_str usable.plain, fun empty => ?_, usable.safe⟩
    have safe := usable.safe
    rw [empty] at safe
    exact absurd safe (by decide)
  cases is_written with
  | name name =>
    refine ⟨lower_name name, notMem_name name (by decide) (by decide), name_ne_nil name, safe_token_name name, ?_⟩
    simp [url_host, parse_address_name name, normalize_hostname_self name]
  | v4 usable family =>
    obtain ⟨lower, percent, nonempty, safe⟩ := address usable
    refine ⟨lower, percent, nonempty, safe, ?_⟩
    simp [url_host, parse_address_str usable.plain, usable.kept, family]
  | v6 usable family =>
    obtain ⟨lower, percent, nonempty, safe⟩ := address usable
    refine ⟨lower, percent, nonempty, safe, ?_⟩
    simp [url_host, parse_address_str usable.plain, usable.kept, family]

theorem normalize_url_self {scheme : Text} (known : default_port scheme = some default)
    (is_written : Written host written) (low : 1 ≤ port) (high : port ≤ 65535) :
    normalize_url u (originTarget scheme host written default port).value =
      .ok (originTarget scheme host written default port) := by
  have splits : SplitsTo (written ++ port_suffix default (some port)) host (portText default port) :=
    splitsTo_written is_written
  have value : (originTarget scheme host written default port).value =
      scheme ++ "://".toList ++ (written ++ port_suffix default (some port)) := by
    simp only [originTarget, List.append_assoc]
  have parts := urlsplit_origin (u := u) known (netloc_chars is_written) ⟨splits.brackets, splits.checked⟩
  have lowerScheme : u.lower scheme = scheme := scheme_lower known
  have noUser : '@' ∉ written ++ port_suffix default (some port) := at_notMem_netloc is_written
  obtain ⟨lower, percent, nonempty, safe, hosts⟩ := host_self (u := u) is_written
  have hostname : Urls.SplitResult.hostname u
      { scheme := scheme, netloc := written ++ port_suffix default (some port) } = host := by
    simp [Urls.SplitResult.hostname, splits.hostinfo, partition_of_notMem percent, lower]
  rw [value, normalize_url, parts]
  simp only [lowerScheme, known, Urls.SplitResult.username, Urls.SplitResult.password, noUser, if_false, ne_eq,
    not_true_eq_false, or_self, port_origin splits high, hostname, nonempty, hosts, ok_bind, assert_safe_token, safe,
    if_true, pure_eq_ok]
  by_cases same : port = default
  · simp [same, originTarget, port_suffix]
  · have positive : port ≠ 0 := by omega
    simp [same, positive, originTarget, port_suffix]

end Written

theorem urlsplit_line {url : Text} {parts : Urls.SplitResult} (split : Urls.urlsplit u url = some parts) :
    '\n' ∉ parts.netloc := by
  unfold Urls.urlsplit at split
  simp only at split
  set clean := (url.dropWhile (·.toNat ≤ 0x20)).filter (fun c => c ∉ ['\t', '\r', '\n']) with cleanIs
  have noLine : '\n' ∉ clean := by
    intro member
    have kept := (List.mem_filter.mp member).2
    simp at kept
  have rest : ∀ c ∈ (Urls.split_scheme u clean).2, c ∈ clean := by
    intro c member
    unfold Urls.split_scheme partition at member
    split at member
    · rename_i same
      simp only [Prod.mk.injEq] at same
      split at member
      · rw [← same.2.2] at member
        exact List.dropWhile_subset _ (List.mem_of_mem_tail member)
      · exact member
    · exact member
  split at split
  · split at split
    · simp at split
    split at split
    · simp at split
    split at split
    · simp at split
    cases split
    intro member
    exact noLine (rest _ (List.mem_of_mem_drop (List.takeWhile_subset _ member)))
  · cases split; simp

theorem mem_partition {sep c : Char} {t : Text} (member : c ∈ (partition sep t).1 ∨ c ∈ (partition sep t).2.2) : c ∈ t := by
  rcases member with front | back
  · exact List.takeWhile_subset _ front
  · exact List.dropWhile_subset _ (List.mem_of_mem_tail back)

theorem hostname_line {parts : Urls.SplitResult} (line : '\n' ∉ parts.netloc) : '\n' ∉ parts.hostname u := by
  have info : '\n' ∉ parts.hostinfo.1 := by
    intro member
    have inInfo : '\n' ∈ afterLast '@' parts.netloc := by
      unfold Urls.SplitResult.hostinfo at member
      simp only at member
      split at member
      · rename_i same
        have inner := mem_partition (Or.inl member)
        have rest : '\n' ∈ (partition '[' (afterLast '@' parts.netloc)).2.2 := by
          rw [same]
          exact inner
        exact mem_partition (Or.inr rest)
      · exact mem_partition (Or.inl member)
    exact line ((List.rtakeWhile_suffix _ _).subset inInfo)
  intro member
  simp only [Urls.SplitResult.hostname, List.mem_append] at member
  rcases member with (lowered | percent) | zone
  · exact info (mem_partition (Or.inl (u.lower_line _ lowered)))
  · split at percent <;> simp at percent
  · exact info (mem_partition (Or.inr zone))

theorem port_suffix_getD (default : Nat) (port : Option Nat) :
    port_suffix default port = port_suffix default (some (port.getD default)) := by
  cases port <;> simp [port_suffix]

/-- How the code reads an accepted origin. -/
structure Origin (u : Unicode) (text : Text) (target : Target) where
  parts : Urls.SplitResult
  default : Nat
  port : Option Nat
  host : Text
  written : Text
  split : Urls.urlsplit u text = some parts
  known : default_port (u.lower parts.scheme) = some default
  reads_port : parts.port = some port
  positive : port ≠ some 0
  hosts : url_host u (parts.hostname u) = .ok (host, written)
  is_written : Written host written
  literal : ∀ a, parse_address u (parts.hostname u) = .ok (some a) →
    Plain a ∧ (written = a.str ∨ written = ['['] ++ a.str ++ [']'])
  same : target = originTarget (u.lower parts.scheme) host written default (port.getD default)

theorem url_host_eq_ok {t host written : Text} {x : Unit} (line : '\n' ∉ t) (hosts : url_host u t = .ok (host, written))
    (asserted : assert_safe_token host = .ok x) : Written host written := by
  unfold url_host at hosts
  obtain ⟨parsed, read, hosts⟩ := bind_eq_ok.mp hosts
  cases parsed with
  | none =>
    obtain ⟨h, normal, hosts⟩ := bind_eq_ok.mp hosts
    cases hosts
    obtain ⟨labels, name, _⟩ := normalize_hostname_spec line normal
    exact .name name
  | some a =>
    obtain ⟨_, kept, hosts⟩ := bind_eq_ok.mp hosts
    simp only [pure_eq_ok, Except.ok.injEq, Prod.mk.injEq] at hosts
    obtain ⟨rfl, rfl⟩ := hosts
    have usable := usable_of_parse read kept asserted
    cases family : a.version with
    | v4 => exact .v4 usable family
    | v6 => exact .v6 usable family

theorem url_host_literal {t host written : Text} {x : Unit} {a : IPAddress} (hosts : url_host u t = .ok (host, written))
    (asserted : assert_safe_token host = .ok x) (read : parse_address u t = .ok (some a)) :
    Plain a ∧ (written = a.str ∨ written = ['['] ++ a.str ++ [']']) := by
  rw [url_host, read, ok_bind] at hosts
  obtain ⟨_, kept, hosts⟩ := bind_eq_ok.mp hosts
  simp only [pure_eq_ok, Except.ok.injEq, Prod.mk.injEq] at hosts
  obtain ⟨rfl, rfl⟩ := hosts
  refine ⟨(usable_of_parse read kept asserted).plain, ?_⟩
  split
  · exact Or.inr rfl
  · exact Or.inl rfl

theorem normalize_url_eq_ok {text : Text} {target : Target} (normal : normalize_url u text = .ok target) :
    Nonempty (Origin u text target) := by
  unfold normalize_url at normal
  cases split : Urls.urlsplit u text with
  | none => simp [split] at normal
  | some parts =>
    simp only [split] at normal
    cases known : default_port (u.lower parts.scheme) with
    | none => simp [known] at normal
    | some default =>
      simp only [known] at normal
      split at normal
      · simp at normal
      cases reads_port : parts.port with
      | none => simp [reads_port] at normal
      | some port =>
        simp only [reads_port] at normal
        split at normal
        · simp at normal
        split at normal
        · simp at normal
        rename_i positive
        obtain ⟨⟨host, written⟩, hosts, normal⟩ := bind_eq_ok.mp normal
        obtain ⟨_, asserted, normal⟩ := bind_eq_ok.mp normal
        simp only [pure_eq_ok, Except.ok.injEq] at normal
        refine ⟨⟨parts, default, port, host, written, split, known, reads_port, positive, hosts,
          url_host_eq_ok (hostname_line (urlsplit_line split)) hosts asserted,
          fun a read => url_host_literal hosts asserted read, ?_⟩⟩
        rw [← normal, originTarget, port_suffix_getD]

theorem Origin.form {text : Text} {target : Target} (origin : Origin u text target) : Form target := by
  rw [origin.same]
  have reads := origin.reads_port
  have bounded : ∀ p, origin.port = some p → p ≤ 65535 := by
    intro p same
    rw [same, Urls.SplitResult.port] at reads
    split at reads
    · simp at reads
    · split at reads
      · rename_i small
        simp only [Option.some.injEq] at reads
        omega
      · simp at reads
  have default : 1 ≤ origin.default ∧ origin.default ≤ 65535 := by
    have known := origin.known
    unfold default_port at known
    split at known
    · simp only [Option.some.injEq] at known; omega
    · split at known
      · simp only [Option.some.injEq] at known; omega
      · simp at known
  refine .origin origin.known origin.is_written ?_ ?_
  · cases same : origin.port with
    | none => exact default.1
    | some p => have := origin.positive; rw [same] at this; simp at this ⊢; omega
  · cases same : origin.port with
    | none => exact default.2
    | some p => exact bounded p same

/-! ### Normalization -/

theorem slash_count_of_url {t : Text} (url : "://".toList <:+: t) : 2 ≤ t.count '/' :=
  le_trans (by decide +kernel) (url.sublist.count_le '/')

/-- Every accepted target is in canonical form. -/
theorem normalize_target_form {raw : Text} {target : Target} (normal : normalize_target u raw = .ok target) : Form target := by
  unfold normalize_target at normal
  simp only at normal
  split at normal
  · simp at normal
  split at normal
  · simp at normal
  split at normal
  · simp at normal
  rename_i allowed
  have line : '\n' ∉ strip raw := by
    intro member
    exact allowed (List.any_eq_true.mpr ⟨'\n', member, by decide⟩)
  split at normal
  · obtain ⟨origin⟩ := normalize_url_eq_ok normal
    exact origin.form
  split at normal
  · obtain ⟨n, usable, rfl⟩ := normalize_network_eq_ok normal
    exact .network usable
  obtain ⟨parsed, read, normal⟩ := bind_eq_ok.mp normal
  cases parsed with
  | some a =>
    obtain ⟨usable, rfl⟩ := address_target_eq_ok read normal
    exact .address usable
  | none =>
    obtain ⟨h, named, normal⟩ := bind_eq_ok.mp normal
    obtain ⟨labels, name, _⟩ := normalize_hostname_spec line named
    unfold hostname_target at normal
    obtain ⟨_, _, normal⟩ := bind_eq_ok.mp normal
    cases normal
    exact .name name

section Form
variable {target : Target}

theorem str_network_char {n : IPNetwork} (usable : UsableNetwork n) : ∀ c ∈ n.str, Visible c := by
  intro c member
  simp only [IPNetwork.str, List.append_assoc, List.mem_append, List.mem_singleton] at member
  rcases member with inAddress | rfl | inLen
  · exact address_char_visible (str_char usable.plain c inAddress)
  · decide
  · exact digit_visible (isDigit_of_mem_dec inLen)

theorem form_visible (form : Form target) : ∀ c ∈ target.value, Visible c := by
  intro c member
  cases form with
  | address usable => exact address_char_visible (str_char usable.plain c member)
  | network usable => exact str_network_char usable c member
  | name name => exact name_visible name c member
  | origin known is_written _ _ =>
    simp only [originTarget, List.append_assoc, List.mem_append] at member
    rcases member with inScheme | sep | inNetloc
    · exact scheme_visible known c inScheme
    · exact separator_visible c sep
    · exact (netloc_chars is_written).visible c (List.mem_append.mpr inNetloc)

theorem form_ne_nil (form : Form target) : target.value ≠ [] := by
  intro empty
  cases form with
  | address usable =>
    have safe := usable.safe
    simp only [addressTarget] at empty
    rw [empty] at safe
    exact absurd safe (by decide)
  | network usable =>
    have safe := usable.safe
    simp only [networkTarget] at empty
    rw [empty] at safe
    exact absurd safe (by decide)
  | name name => exact name_ne_nil name empty
  | origin => simp [originTarget] at empty

/-- A canonical value of acceptable length is its own normal form. -/
theorem normalize_target_self (form : Form target) (fits : target.value.length ≤ MAX_TARGET_LENGTH) :
    normalize_target u target.value = .ok target := by
  have visible := form_visible form
  have allowed : target.value.any is_forbidden_character = false := by
    rw [List.any_eq_false]
    exact fun c member => by simp [visible_not_forbidden (visible c member)]
  have short : ¬MAX_TARGET_LENGTH < target.value.length := Nat.not_lt.mpr fits
  rw [normalize_target, strip_visible visible]
  simp only [form_ne_nil form, if_false, short, allowed, Bool.false_eq_true]
  cases form with
  | @address a usable =>
    have slash : '/' ∉ a.str := slash_notMem_str usable.plain
    have url : ¬"://".toList <:+: a.str := fun url => slash (url.subset (by decide +kernel))
    simp only [addressTarget, url, slash, if_false, parse_address_str usable.plain, ok_bind]
    exact address_target_self usable
  | @network n usable =>
    have digits : '/' ∉ dec n.prefixlen := fun member => absurd (isDigit_of_mem_dec member) (by decide)
    have once : n.str.count '/' = 1 := by
      simp [IPNetwork.str, List.count_append, List.count_eq_zero.mpr (slash_notMem_str usable.plain),
        List.count_eq_zero.mpr digits]
    have url : ¬"://".toList <:+: n.str := fun url => by have := slash_count_of_url url; omega
    have slash : '/' ∈ n.str := List.count_pos_iff.mp (by omega)
    simp only [networkTarget, url, slash, if_false, if_true]
    exact normalize_network_self usable
  | @name labels h name =>
    have slash : '/' ∉ h := notMem_name name (by decide) (by decide)
    have url : ¬"://".toList <:+: h := fun url => slash (url.subset (by decide +kernel))
    simp only [nameTarget, url, slash, if_false, parse_address_name name, ok_bind, normalize_hostname_self name,
      hostname_target, assert_safe_token, safe_token_name name, if_true, pure_eq_ok]
  | @origin scheme host written default port known is_written low high =>
    have url : "://".toList <:+: (originTarget scheme host written default port).value :=
      ⟨scheme, written ++ port_suffix default (some port), by simp only [originTarget, List.append_assoc]⟩
    simp only [url, if_true]
    exact normalize_url_self known is_written low high

/-- A longer canonical value is refused for its length. -/
theorem normalize_target_long (form : Form target) (long : MAX_TARGET_LENGTH < target.value.length) :
    normalize_target u target.value = targetError "Target must be 255 characters or fewer" := by
  rw [normalize_target, strip_visible (form_visible form)]
  simp only [form_ne_nil form, long, if_false, if_true]

/-- Only an origin can be longer than an accepted text. -/
theorem short_of_not_origin (form : Form target) (kind : target.kind ≠ .url) : target.value.length ≤ MAX_TARGET_LENGTH := by
  cases form with
  | address usable => exact (str_length usable.plain).trans (by decide)
  | @network n usable =>
    have small : n.prefixlen < 10 ^ 3 := by
      have bound := prefixlen_le n
      cases version : n.version <;> simp [version, Version.bits] at bound <;> omega
    have address := str_length usable.plain
    have length := dec_length_le (k := 3) (by decide) small
    simp only [networkTarget, IPNetwork.str, List.length_append, List.length_singleton, MAX_TARGET_LENGTH]
    omega
  | name name => exact name.short.trans (by decide)
  | origin => exact absurd rfl kind

end Form

end RedDock.Canonical
