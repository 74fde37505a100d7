import Mathlib

/-!
# Text

A Python `str` as a list of code points, with the operations the models use.
What depends on the tables of the Unicode database (case mapping, decimal
digits, NFKC and nameprep) is a parameter, `Unicode`, that carries the few
facts about those tables the proofs rely on.
-/
namespace RedDock

/-- A Python string: its code points in order. -/
abbrev Text := List Char

namespace Text

instance lawful : LawfulBEq Text := inferInstance

/-- `str.isascii`. -/
def isAscii (t : Text) : Bool := t.all fun c => c.toNat < 128
/-- `isascii() and isdigit()`. -/
def isDigits (t : Text) : Bool := !t.isEmpty && t.all Char.isDigit
/-- `str.isspace` of one character. -/
def isSpace (c : Char) : Bool :=
  let n := c.toNat
  (9 ≤ n && n ≤ 13) || (28 ≤ n && n ≤ 32) || n == 133 || n == 160 || n == 5760 ||
    (8192 ≤ n && n ≤ 8202) || n == 8232 || n == 8233 || n == 8239 || n == 8287 || n == 12288
/-- `str.strip()`. -/
def strip (t : Text) : Text := (t.dropWhile isSpace).rdropWhile isSpace
/-- `str.rstrip(c)`. -/
def rstripChar (c : Char) (t : Text) : Text := t.rdropWhile (· == c)
/-- The text before the first `sep`, whether there is one, and the text after it. -/
def partition (sep : Char) (t : Text) : Text × Bool × Text :=
  (t.takeWhile (· != sep), t.contains sep, (t.dropWhile (· != sep)).tail)
/-- The text after the last `sep`, or the whole text without one. -/
def afterLast (sep : Char) (t : Text) : Text := t.rtakeWhile (· != sep)
/-- The text before the last `sep`, empty without one. -/
def beforeLast (sep : Char) (t : Text) : Text := (t.rdropWhile (· != sep)).dropLast
/-- `sep.join(parts)`. -/
def join (sep : Text) (parts : List Text) : Text := sep.intercalate parts
/-- A regular expression that ends in `$`: the whole text, or all of it but a
    final line feed. -/
def matchesLine (p : Text → Bool) (t : Text) : Bool := p t || (t.getLast? == some '\n' && p t.dropLast)

/-- The decimal digits of a number. -/
def dec (n : Nat) : Text := Nat.toDigits 10 n
/-- `int(text)` for a text of decimal digits. -/
def ofDec (t : Text) : Nat := Nat.ofDigitChars 10 t 0
/-- The lower-case hexadecimal digits of a number. -/
def hex (n : Nat) : Text := Nat.toDigits 16 n
/-- The value of a hexadecimal digit in either case. -/
def hexValue (c : Char) : Option Nat :=
  if c.isDigit then some (c.toNat - 48)
  else if 'a' ≤ c && c ≤ 'f' then some (c.toNat - 87)
  else if 'A' ≤ c && c ≤ 'F' then some (c.toNat - 55)
  else none
/-- `int(text, 16)` for a text of hexadecimal digits; absent for any other. -/
def ofHex (t : Text) : Option Nat :=
  if t.isEmpty then none else t.foldlM (fun n c => (hexValue c).map (16 * n + ·)) 0

/-- The `n` digits of a number in a base, most significant first. -/
def digitsOf (base n x : Nat) : List Nat := (List.range n).map fun i => x / base ^ (n - 1 - i) % base
/-- The number a list of digits denotes, most significant first. -/
def ofDigits (base : Nat) (ds : List Nat) : Nat := ds.foldl (base * · + ·) 0

/-! ### Decimal and hexadecimal round trips -/

@[simp] theorem ofDec_dec (n : Nat) : ofDec (dec n) = n := Nat.ofDigitChars_ten_toDigits
theorem dec_ne_nil (n : Nat) : dec n ≠ [] := Nat.toDigits_ne_nil
theorem isDigit_of_mem_dec {n : Nat} {c : Char} (member : c ∈ dec n) : c.isDigit = true :=
  Nat.isDigit_of_mem_toDigits (by decide) (by decide) member
theorem isDigits_dec (n : Nat) : isDigits (dec n) = true := by
  simp only [isDigits, Bool.and_eq_true, Bool.not_eq_true', List.isEmpty_eq_false_iff, List.all_eq_true]
  exact ⟨dec_ne_nil n, fun c member => isDigit_of_mem_dec member⟩
theorem dec_length_le {n k : Nat} (pos : 0 < k) (lt : n < 10 ^ k) : (dec n).length ≤ k :=
  (Nat.length_toDigits_le_iff (by decide) pos).mpr lt

/-- The digits of a number above zero do not begin with a zero. -/
theorem dec_head_ne_zero {n : Nat} (pos : 0 < n) : (dec n).head? ≠ some '0' := by
  induction n using Nat.strongRecOn with
  | ind n ih =>
    unfold dec at *
    rw [Nat.toDigits_eq_if (by decide)]
    by_cases small : n < 10
    · rw [if_pos small]
      simp only [List.head?_cons, ne_eq, Option.some.injEq, Nat.digitChar_eq_zero]
      omega
    · rw [if_neg small, List.head?_append]
      have head := ih (n / 10) (by omega) (by omega)
      cases found : (Nat.toDigits 10 (n / 10)).head? with
      | none => exact absurd (List.head?_eq_none_iff.mp found) Nat.toDigits_ne_nil
      | some c => rw [found] at head; simpa using head

theorem dec_ne_zero_or {n : Nat} : dec n = ['0'] ∨ (dec n).head? ≠ some '0' := by
  rcases Nat.eq_zero_or_pos n with zero | pos
  · subst zero; exact Or.inl rfl
  · exact Or.inr (dec_head_ne_zero pos)

theorem hexValue_digitChar {d : Nat} (lt : d < 16) : hexValue d.digitChar = some d := by
  have all : ∀ e ∈ List.range 16, hexValue e.digitChar = some e := by decide
  exact all d (List.mem_range.mpr lt)

theorem foldlM_hex (n : Nat) :
    (hex n).foldlM (fun m c => (hexValue c).map (16 * m + ·)) 0 = some n := by
  induction n using Nat.strongRecOn with
  | ind n ih =>
    unfold hex at *
    rw [Nat.toDigits_eq_if (by decide)]
    by_cases small : n < 16
    · simp [small, hexValue_digitChar small]
    · rw [if_neg small, List.foldlM_append, ih (n / 16) (by omega)]
      have digit := hexValue_digitChar (Nat.mod_lt n (show 0 < 16 by decide))
      simp [digit]
      omega

theorem hex_ne_nil (n : Nat) : hex n ≠ [] := Nat.toDigits_ne_nil
@[simp] theorem ofHex_hex (n : Nat) : ofHex (hex n) = some n := by
  simp [ofHex, hex_ne_nil, foldlM_hex]
theorem hex_length_le {n k : Nat} (pos : 0 < k) (lt : n < 16 ^ k) : (hex n).length ≤ k :=
  (Nat.length_toDigits_le_iff (by decide) pos).mpr lt

theorem hex_digit {n : Nat} {c : Char} (member : c ∈ hex n) : ∃ d < 16, c = d.digitChar := by
  induction n using Nat.strongRecOn with
  | ind n ih =>
    unfold hex at *
    rw [Nat.toDigits_eq_if (by decide)] at member
    by_cases small : n < 16
    · simp only [small, if_true, List.mem_singleton] at member
      exact ⟨n, small, member⟩
    · rw [if_neg small, List.mem_append, List.mem_singleton] at member
      rcases member with member | rfl
      · exact ih (n / 16) (by omega) member
      · exact ⟨n % 16, Nat.mod_lt _ (by decide), rfl⟩

theorem ofDigits_digitsOf {base n x : Nat} (lt : x < base ^ n) : ofDigits base (digitsOf base n x) = x := by
  -- After `k` digits the fold has read the number without its `n - k` low digits.
  have read : ∀ k ≤ n, ((List.range k).map fun i => x / base ^ (n - 1 - i) % base).foldl (base * · + ·) 0 =
      x / base ^ (n - k) := by
    intro k
    induction k with
    | zero => intro _; simp [Nat.div_eq_of_lt lt]
    | succ k ih =>
      intro bound
      rw [List.range_succ, List.map_append, List.foldl_append, ih (by omega)]
      simp only [List.map_cons, List.map_nil, List.foldl_cons, List.foldl_nil]
      rw [show n - k = (n - 1 - k) + 1 by omega, Nat.pow_succ, ← Nat.div_div_eq_div_mul,
        show n - (k + 1) = n - 1 - k by omega]
      exact Nat.div_add_mod _ _
  have whole := read n le_rfl
  simpa [digitsOf, ofDigits] using whole

theorem digitsOf_length (base n x : Nat) : (digitsOf base n x).length = n := by simp [digitsOf]
theorem digitsOf_lt {base n x d : Nat} (pos : 0 < base) (member : d ∈ digitsOf base n x) : d < base := by
  obtain ⟨i, _, rfl⟩ := List.mem_map.mp member
  exact Nat.mod_lt _ pos

theorem mem_join {sep : Text} {parts : List Text} {c : Char} (member : c ∈ join sep parts) :
    c ∈ sep ∨ ∃ p ∈ parts, c ∈ p := by
  unfold join at member
  induction parts with
  | nil => simp at member
  | cons p rest ih =>
    cases rest with
    | nil => exact Or.inr ⟨p, by simp, by simpa using member⟩
    | cons q rest =>
      simp only [List.intercalate_cons_cons, List.append_assoc, List.mem_append] at member
      rcases member with here | here | later
      · exact Or.inr ⟨p, by simp, here⟩
      · exact Or.inl here
      · rcases ih later with inSep | ⟨r, inRest, inR⟩
        · exact Or.inl inSep
        · exact Or.inr ⟨r, List.mem_cons_of_mem _ inRest, inR⟩

theorem join_cons_cons (sep p q : Text) (rest : List Text) :
    join sep (p :: q :: rest) = p ++ sep ++ join sep (q :: rest) := List.intercalate_cons_cons ..

theorem mem_of_splitOn (sep : Char) {t : Text} {c : Char} (member : c ∈ t) :
    c = sep ∨ ∃ part ∈ t.splitOn sep, c ∈ part := by
  have whole : c ∈ join [sep] (t.splitOn sep) := by
    rw [join, List.intercalate_splitOn]; exact member
  rcases mem_join whole with inSep | inPart
  · exact Or.inl (by simpa using inSep)
  · exact Or.inr inPart

theorem mem_of_mem_splitOnP {p : Char → Bool} {t part : Text} {c : Char} (piece : part ∈ t.splitOnP p)
    (member : c ∈ part) : c ∈ t := by
  induction t generalizing part with
  | nil => simp at piece; simp [piece] at member
  | cons d t ih =>
    rw [List.splitOnP_cons_eq_if_modifyHead] at piece
    split at piece
    · rcases List.mem_cons.mp piece with rfl | later
      · simp at member
      · exact List.mem_cons_of_mem _ (ih later member)
    · obtain ⟨head, rest, pieces⟩ := List.exists_cons_of_ne_nil (List.splitOnP_ne_nil p t)
      rw [pieces, List.modifyHead_cons] at piece
      rcases List.mem_cons.mp piece with rfl | later
      · rcases List.mem_cons.mp member with rfl | inHead
        · simp
        · exact List.mem_cons_of_mem _ (ih (by simp [pieces]) inHead)
      · exact List.mem_cons_of_mem _ (ih (by simp [pieces, later]) member)

theorem join_length_le (sep : Char) {parts : List Text} {k : Nat} (short : ∀ p ∈ parts, p.length ≤ k) :
    (join [sep] parts).length ≤ parts.length * (k + 1) := by
  unfold join
  induction parts with
  | nil => simp
  | cons p rest ih =>
    have head := short p (by simp)
    have tail := ih fun q member => short q (List.mem_cons_of_mem _ member)
    cases rest with
    | nil => simp; omega
    | cons q rest =>
      rw [List.intercalate_cons_cons]
      simp only [List.length_append, List.length_cons, List.length_nil] at tail ⊢
      rw [Nat.add_mul (rest.length + 1) 1]
      omega

theorem partition_of_notMem {sep : Char} {t : Text} (absent : sep ∉ t) : partition sep t = (t, false, []) := by
  have kept : ∀ c ∈ t, (c != sep) = true := fun c member => by
    simp only [bne_iff_ne, ne_eq]
    exact fun same => absent (same ▸ member)
  have after : t.dropWhile (· != sep) = [] := List.dropWhile_eq_nil_iff.mpr kept
  simp [partition, List.takeWhile_eq_self_iff.mpr kept, absent, after]

theorem partition_append {sep : Char} {t : Text} (absent : sep ∉ t) (rest : Text) :
    partition sep (t ++ sep :: rest) = (t, true, rest) := by
  have kept : ∀ c ∈ t, (c != sep) = true := fun c member => by
    simp only [bne_iff_ne, ne_eq]
    exact fun same => absent (same ▸ member)
  simp [partition, List.takeWhile_append_of_pos kept, List.dropWhile_append_of_pos kept]

/-- The first of two separated parts ends at the first separator. -/
theorem append_sep_inj {sep : Char} {a b rest rest' : Text} (left : sep ∉ a) (right : sep ∉ b)
    (same : a ++ sep :: rest = b ++ sep :: rest') : a = b ∧ rest = rest' := by
  have parts := (partition_append left rest).symm.trans ((congrArg (partition sep) same).trans (partition_append right rest'))
  rw [Prod.mk.injEq, Prod.mk.injEq] at parts
  exact ⟨parts.1, parts.2.2⟩

theorem digitChar_hexChar {d : Nat} (lt : d < 16) :
    d.digitChar.isDigit = true ∨ ('a' ≤ d.digitChar ∧ d.digitChar ≤ 'f') := by
  have all : ∀ e ∈ List.range 16, e.digitChar.isDigit = true ∨ ('a' ≤ e.digitChar ∧ e.digitChar ≤ 'f') := by decide
  exact all d (List.mem_range.mpr lt)

end Text

/-- The parts of the Unicode database behind `str.lower`, the regular
    expression `\d`, `unicodedata.normalize` and nameprep. -/
structure Unicode where
  /-- `str.lower`. -/
  lower : Text → Text
  /-- A character matched by `\d`. -/
  isDecimal : Char → Bool
  /-- `unicodedata.normalize("NFKC", text)`. -/
  nfkc : Text → Text
  /-- `encodings.idna.nameprep`; absent when it raises. -/
  nameprep : Text → Option Text
  lower_ascii : ∀ t, Text.isAscii t = true → lower t = t.map Char.toLower
  lower_line : ∀ t, '\n' ∈ lower t → '\n' ∈ t
  isDecimal_ascii : ∀ c : Char, c.toNat < 128 → isDecimal c = c.isDigit
  nameprep_line : ∀ t s, nameprep t = some s → '\n' ∈ s → '\n' ∈ t

theorem toLower_line {c : Char} (lowered : c.toLower = '\n') : c = '\n' := by
  unfold Char.toLower at lowered
  split at lowered
  · rename_i upper
    have value : (c.val + 32).toNat = 10 := congrArg (fun d : Char => d.val.toNat) lowered
    have bounds := upper
    simp only [ge_iff_le, UInt32.le_iff_toNat_le] at bounds
    have low : 65 ≤ c.val.toNat := bounds.1
    have high : c.val.toNat ≤ 90 := bounds.2
    rw [UInt32.toNat_add] at value
    have shift : (32 : UInt32).toNat = 32 := rfl
    omega
  · exact lowered

/-- Tables under which every letter outside ASCII is lower case and already in
    normal form, as most of them are. -/
def Unicode.plain : Unicode where
  lower := List.map Char.toLower
  isDecimal := Char.isDigit
  nfkc := id
  nameprep := some
  lower_ascii _ _ := rfl
  lower_line t member := by
    obtain ⟨c, inT, lowered⟩ := List.mem_map.mp member
    exact toLower_line lowered ▸ inT
  isDecimal_ascii _ _ := rfl
  nameprep_line t s same member := by cases same; exact member

end RedDock
