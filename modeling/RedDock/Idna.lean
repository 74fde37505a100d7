import RedDock.Fallible
import RedDock.Text

/-!
# International labels

The `idna` codec of the Python standard library, with the Punycode encoder it
ends in. Nameprep needs the Unicode tables and is taken from `Unicode`.
-/
set_option autoImplicit false
namespace RedDock.Idna
open Text Fallible

/-! ### Punycode -/

/-- The bias threshold `T` of digit `j`. -/
def T (j bias : Nat) : Nat :=
  if 36 * (j + 1) ≤ bias then 1 else if 26 < 36 * (j + 1) - bias then 26 else 36 * (j + 1) - bias

def digit (d : Nat) : Char := "abcdefghijklmnopqrstuvwxyz0123456789".toList.getD d 'a'

/-- `generate_generalized_integer`; `N` shrinks in each round, which bounds the fuel. -/
def generate_generalized_integer : Nat → Nat → Nat → Nat → Text
  | 0, _, _, _ => []
  | fuel + 1, N, bias, j =>
    let t := T j bias
    if N < t then [digit N]
    else digit (t + (N - t) % (36 - t)) :: generate_generalized_integer fuel ((N - t) / (36 - t)) bias (j + 1)

/-- The loop of `adapt`. -/
def adaptLoop : Nat → Nat → Nat → Nat × Nat
  | 0, delta, divisions => (delta, divisions)
  | fuel + 1, delta, divisions =>
    if 455 < delta then adaptLoop fuel (delta / 35) (divisions + 36) else (delta, divisions)
def adapt (delta : Nat) (first : Bool) (numchars : Nat) : Nat :=
  let delta := if first then delta / 700 else delta / 2
  let delta := delta + delta / numchars
  let (delta, divisions) := adaptLoop delta delta 0
  divisions + 36 * delta / (delta + 38)

/-- What `insertion_unsort` carries from one occurrence to the next. -/
structure Unsort where
  result : List Nat
  oldindex : Int
  delta : Int
  index : Int

/-- One position of the text under the character `c` being inserted. -/
def Unsort.visit (c : Char) (s : Unsort) (here : Char) : Unsort :=
  if here = c then
    let index := s.index + 1
    { result := s.result ++ [(s.delta + (index - s.oldindex) - 1).toNat], oldindex := index, delta := 0, index := index }
  else if here < c then { s with index := s.index + 1 }
  else s

/-- `insertion_unsort`. -/
def insertion_unsort (str extended : Text) : List Nat :=
  let insert := fun (state : Unsort × Nat) (c : Char) =>
    let curlen := (str.filter (· < c)).length
    let start := { state.1 with delta := (curlen + 1) * (c.toNat - state.2), index := -1 }
    (str.foldl (Unsort.visit c) start, c.toNat)
  (extended.foldl insert ({ result := [], oldindex := -1, delta := 0, index := -1 }, 0x80)).1.result

/-- `generate_integers`. -/
def generate_integers (baselen : Nat) : List Nat → Nat → Nat → Text
  | [], _, _ => []
  | delta :: deltas, points, bias =>
    generate_generalized_integer (delta + 1) delta bias 0 ++
      generate_integers baselen deltas (points + 1) (adapt delta (points == 0) (baselen + points + 1))

/-- `punycode_encode`. -/
def punycode_encode (text : Text) : Text :=
  let base := text.filter (·.toNat < 128)
  let extended := (text.filter (128 ≤ ·.toNat)).dedup.mergeSort
  let encoded := generate_integers base.length (insertion_unsort text extended) 0 72
  if base = [] then encoded else base ++ ['-'] ++ encoded

/-! ### Labels -/

/-- An ASCII label of 1 to 63 characters as it is. -/
def sized (label : Text) : Option Text := if 0 < label.length ∧ label.length < 64 then some label else none

/-- `ToASCII`. -/
def ToASCII (u : Unicode) (label : Text) : Option Text :=
  if isAscii label then sized label
  else do
    let label ← u.nameprep label
    if isAscii label then sized label
    else if "xn--".toList.isPrefixOf (u.lower label) then none
    else sized ("xn--".toList ++ punycode_encode label)

/-- The full stops `ToASCII` splits a name at. -/
def isDot (c : Char) : Bool := c = '.' || c.toNat = 0x3002 || c.toNat = 0xFF0E || c.toNat = 0xFF61

/-- `label.encode("idna")` for a text outside ASCII. -/
def encode (u : Unicode) (input : Text) : Option Text := do
  let labels := input.splitOnP isDot
  let trailing := labels.getLast? = some []
  let encoded ← (if trailing then labels.dropLast else labels).mapM (ToASCII u)
  return join ['.'] encoded ++ (if trailing then ['.'] else [])

/-! ### No line feed appears -/

theorem digit_ne_line (d : Nat) : digit d ≠ '\n' := by
  unfold digit
  intro same
  have inside : '\n' ∈ 'a' :: "abcdefghijklmnopqrstuvwxyz0123456789".toList := by
    rw [List.getD_eq_getElem?_getD] at same
    cases found : "abcdefghijklmnopqrstuvwxyz0123456789".toList[d]? with
    | none => rw [found] at same; exact absurd same (by decide)
    | some c =>
      rw [found] at same
      exact List.mem_cons_of_mem _ (List.mem_of_getElem? (found.trans (congrArg some same)))
  exact absurd inside (by decide +kernel)

theorem line_notMem_integer (fuel N bias j : Nat) : '\n' ∉ generate_generalized_integer fuel N bias j := by
  induction fuel generalizing N j with
  | zero => simp [generate_generalized_integer]
  | succ fuel ih =>
    simp only [generate_generalized_integer]
    split
    · simpa using (digit_ne_line N).symm
    · simp only [List.mem_cons, not_or]
      exact ⟨(digit_ne_line _).symm, ih _ _⟩

theorem line_notMem_integers (baselen : Nat) (deltas : List Nat) (points bias : Nat) :
    '\n' ∉ generate_integers baselen deltas points bias := by
  induction deltas generalizing points bias with
  | nil => simp [generate_integers]
  | cons delta deltas ih =>
    simp only [generate_integers, List.mem_append, not_or]
    exact ⟨line_notMem_integer (delta + 1) delta bias 0, ih _ _⟩

theorem punycode_line {text : Text} (member : '\n' ∈ punycode_encode text) : '\n' ∈ text := by
  have encoded := line_notMem_integers (text.filter (·.toNat < 128)).length
    (insertion_unsort text (text.filter (128 ≤ ·.toNat)).dedup.mergeSort) 0 72
  simp only [punycode_encode] at member
  split at member
  · exact absurd member encoded
  · simp only [List.mem_append, List.mem_singleton] at member
    rcases member with (inBase | dash) | inside
    · exact List.mem_of_mem_filter inBase
    · exact absurd dash (by decide)
    · exact absurd inside encoded

theorem sized_line {label s : Text} (sizes : sized label = some s) : s = label := by
  unfold sized at sizes
  split at sizes
  · exact (Option.some.inj sizes).symm
  · simp at sizes

theorem ToASCII_line {u : Unicode} {label s : Text} (ascii : ToASCII u label = some s) (member : '\n' ∈ s) :
    '\n' ∈ label := by
  unfold ToASCII at ascii
  split at ascii
  · exact sized_line ascii ▸ member
  · cases prepared : u.nameprep label with
    | none => simp [prepared] at ascii
    | some prep =>
      simp only [prepared, Option.bind_eq_bind, Option.bind_some] at ascii
      refine u.nameprep_line label prep prepared ?_
      split at ascii
      · exact sized_line ascii ▸ member
      · split at ascii
        · simp at ascii
        · have inside := sized_line ascii ▸ member
          rcases List.mem_append.mp inside with ace | encoded
          · exact absurd ace (by decide +kernel)
          · exact punycode_line encoded

theorem encode_line {u : Unicode} {input s : Text} (encodes : encode u input = some s) (member : '\n' ∈ s) :
    '\n' ∈ input := by
  unfold encode at encodes
  simp only [Option.bind_eq_bind, Option.bind_eq_some_iff, Option.pure_def, Option.some.injEq] at encodes
  obtain ⟨encoded, mapped, rfl⟩ := encodes
  rcases List.mem_append.mp member with joined | dot
  · rcases mem_join joined with sep | ⟨part, inEncoded, inPart⟩
    · exact absurd sep (by decide)
    · obtain ⟨label, inLabels, ascii⟩ := forall₂_right (mapM_some.mp mapped) inEncoded
      have piece : label ∈ input.splitOnP isDot := by
        split at inLabels
        · exact List.mem_of_mem_dropLast inLabels
        · exact inLabels
      exact mem_of_mem_splitOnP piece (ToASCII_line ascii inPart)
  · split at dot <;> simp at dot

end RedDock.Idna
