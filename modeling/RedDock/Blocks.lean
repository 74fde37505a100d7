import Mathlib

/-!
# Aligned blocks of naturals

A block of width `w` is a run of `2 ^ (w - len)` consecutive naturals below
`2 ^ w` that starts at a multiple of its own size: the set an address prefix
denotes. Two blocks are nested or disjoint, a block splits into two halves, and
removing an inner block leaves the siblings met on the way down to it.
-/
namespace RedDock

/-- The naturals below `2 ^ w` whose first `len` bits are those of `base`. -/
structure Block (w : Nat) where
  base : Nat
  len : Nat
  len_le : len ≤ w
  aligned : 2 ^ (w - len) ∣ base
  base_lt : base < 2 ^ w
  deriving DecidableEq

namespace Block
variable {w : Nat}

/-- How many naturals the block holds. -/
def size (b : Block w) : Nat := 2 ^ (w - b.len)
/-- The last natural of the block. -/
def last (b : Block w) : Nat := b.base + b.size - 1
/-- A natural with its `host` low bits cleared. -/
def clearHost (host a : Nat) : Nat := a / 2 ^ host * 2 ^ host
/-- The block of prefix length `len` around a natural. -/
def around (a len : Nat) (len_le : len ≤ w) (lt : a < 2 ^ w) : Block w where
  base := clearHost (w - len) a
  len := len
  len_le := len_le
  aligned := Dvd.intro_left _ rfl
  base_lt := lt_of_le_of_lt (Nat.div_mul_le_self _ _) lt
/-- The block that holds one natural. -/
def single (a : Nat) (lt : a < 2 ^ w) : Block w where
  base := a
  len := w
  len_le := le_rfl
  aligned := by simp
  base_lt := lt

/-- Whether the leading bits of `a` are those of the block. -/
def contains (b : Block w) (a : Nat) : Bool := clearHost (w - b.len) a = b.base
/-- Whether one block holds an end of the other. -/
def overlaps (b c : Block w) : Bool :=
  c.contains b.base || (c.contains b.last || (b.contains c.base || b.contains c.last))
/-- Whether both ends of `b` lie between the ends of `c`. -/
def subnetOf (b c : Block w) : Bool := c.base ≤ b.base && b.last ≤ c.last

/-- The naturals of a block. -/
def space (b : Block w) : Set Nat := {a | b.base ≤ a ∧ a ≤ b.last}

theorem size_pos (b : Block w) : 0 < b.size := Nat.two_pow_pos _
theorem base_le_last (b : Block w) : b.base ≤ b.last := by
  have := b.size_pos
  unfold last; omega
theorem mem_space {b : Block w} {a : Nat} : a ∈ b.space ↔ b.base ≤ a ∧ a ≤ b.last := Iff.rfl
theorem base_mem (b : Block w) : b.base ∈ b.space := ⟨le_rfl, b.base_le_last⟩
theorem last_mem (b : Block w) : b.last ∈ b.space := ⟨b.base_le_last, le_rfl⟩

theorem last_lt (b : Block w) : b.last < 2 ^ w := by
  obtain ⟨k, base_is⟩ := b.aligned
  have pow : 2 ^ w = 2 ^ (w - b.len) * 2 ^ b.len := by
    rw [← pow_add, Nat.sub_add_cancel b.len_le]
  have below : k < 2 ^ b.len := by
    have lt := b.base_lt
    rw [base_is, pow] at lt
    exact Nat.lt_of_mul_lt_mul_left lt
  have room : 2 ^ (w - b.len) * (k + 1) ≤ 2 ^ w := by
    rw [pow]; exact Nat.mul_le_mul_left _ below
  have pos : 0 < 2 ^ (w - b.len) := Nat.two_pow_pos _
  unfold last size
  rw [base_is]
  rw [Nat.mul_add] at room
  omega

theorem space_lt {b : Block w} {a : Nat} (member : a ∈ b.space) : a < 2 ^ w :=
  lt_of_le_of_lt member.2 b.last_lt

/-- Clearing the host bits finds the multiple of the block size at or below. -/
theorem clearHost_eq_iff {host a base : Nat} (aligned : 2 ^ host ∣ base) :
    clearHost host a = base ↔ base ≤ a ∧ a < base + 2 ^ host := by
  obtain ⟨k, rfl⟩ := aligned
  have pos : 0 < 2 ^ host := Nat.two_pow_pos _
  have split := Nat.div_add_mod a (2 ^ host)
  have low := Nat.mod_lt a pos
  unfold clearHost
  rw [Nat.mul_comm (a / 2 ^ host)]
  constructor
  · intro same
    rw [same] at split
    omega
  · rintro ⟨above, below⟩
    have quotient : a / 2 ^ host = k := by
      apply Nat.div_eq_of_lt_le
      · rw [Nat.mul_comm]; exact above
      · rw [Nat.mul_comm, Nat.mul_add]; omega
    rw [quotient]

theorem contains_iff (b : Block w) (a : Nat) : b.contains a = true ↔ a ∈ b.space := by
  have pos := b.size_pos
  unfold contains
  rw [decide_eq_true_iff, clearHost_eq_iff b.aligned, mem_space]
  unfold last size at *
  omega

theorem mem_around {a len : Nat} (len_le : len ≤ w) (lt : a < 2 ^ w) : a ∈ (around a len len_le lt).space := by
  rw [← contains_iff]
  simp [contains, around]

theorem mem_single {a x : Nat} (lt : a < 2 ^ w) : x ∈ (single a lt).space ↔ x = a := by
  simp [mem_space, single, last, size]
  omega

/-- A longer prefix has a block size that divides the shorter one's. -/
theorem size_dvd {b c : Block w} (longer : c.len ≤ b.len) : b.size ∣ c.size :=
  pow_dvd_pow 2 (by omega)

/-- Two blocks that share a natural are nested, the longer prefix inside. -/
theorem nested_of_common {b c : Block w} {a : Nat} (inB : a ∈ b.space) (inC : a ∈ c.space)
    (longer : c.len ≤ b.len) : c.base ≤ b.base ∧ b.last ≤ c.last := by
  obtain ⟨q, sizes⟩ := size_dvd longer
  have posB := b.size_pos
  obtain ⟨k, baseB⟩ : b.size ∣ b.base := b.aligned
  obtain ⟨m, baseC⟩ : c.size ∣ c.base := c.aligned
  have lastB : b.last + 1 = b.size * (k + 1) := by
    rw [Nat.mul_add, ← baseB]; unfold last; omega
  have startC : c.base = b.size * (q * m) := by rw [baseC, sizes, Nat.mul_assoc]
  have lastC : c.last + 1 = b.size * (q * m + q) := by
    rw [Nat.mul_add, ← startC, ← sizes]
    have := c.size_pos
    unfold last; omega
  -- `a` lies in both, so the index of `b` lies in the index range of `c`.
  have low : q * m < k + 1 := by
    have : b.size * (q * m) < b.size * (k + 1) := by
      rw [← startC, ← lastB]; have := inB.2; have := inC.1; omega
    exact Nat.lt_of_mul_lt_mul_left this
  have high : k < q * m + q := by
    have : b.size * k < b.size * (q * m + q) := by
      rw [← baseB, ← lastC]; have := inB.1; have := inC.2; omega
    exact Nat.lt_of_mul_lt_mul_left this
  constructor
  · rw [startC, baseB]; exact Nat.mul_le_mul_left _ (by omega)
  · have : b.last + 1 ≤ c.last + 1 := by
      rw [lastB, lastC]; exact Nat.mul_le_mul_left _ (by omega)
    omega

theorem subnetOf_iff (b c : Block w) : b.subnetOf c = true ↔ b.space ⊆ c.space := by
  simp only [subnetOf, Bool.and_eq_true, decide_eq_true_eq]
  constructor
  · rintro ⟨low, high⟩ a ⟨above, below⟩
    exact ⟨low.trans above, below.trans high⟩
  · intro inside
    exact ⟨(inside b.base_mem).1, (inside b.last_mem).2⟩

theorem overlaps_iff (b c : Block w) : b.overlaps c = true ↔ ∃ a, a ∈ b.space ∧ a ∈ c.space := by
  simp only [overlaps, Bool.or_eq_true, contains_iff]
  constructor
  · rintro (h | h | h | h)
    · exact ⟨_, b.base_mem, h⟩
    · exact ⟨_, b.last_mem, h⟩
    · exact ⟨_, h, c.base_mem⟩
    · exact ⟨_, h, c.last_mem⟩
  · rintro ⟨a, inB, inC⟩
    rcases Nat.le_total c.len b.len with longer | longer
    · obtain ⟨low, high⟩ := nested_of_common inB inC longer
      exact Or.inl ⟨low, b.base_le_last.trans high⟩
    · obtain ⟨low, high⟩ := nested_of_common inC inB longer
      exact Or.inr (Or.inr (Or.inl ⟨low, c.base_le_last.trans high⟩))

theorem overlaps_comm (b c : Block w) : b.overlaps c = c.overlaps b := by
  rw [Bool.eq_iff_iff, overlaps_iff, overlaps_iff]
  exact exists_congr fun a => and_comm

/-- Overlapping blocks are nested one way or the other. -/
theorem subset_or_subset {b c : Block w} (overlap : b.overlaps c = true) : b.space ⊆ c.space ∨ c.space ⊆ b.space := by
  obtain ⟨a, inB, inC⟩ := (overlaps_iff b c).mp overlap
  rcases Nat.le_total c.len b.len with longer | longer
  · obtain ⟨low, high⟩ := nested_of_common inB inC longer
    exact Or.inl fun x member => ⟨low.trans member.1, member.2.trans high⟩
  · obtain ⟨low, high⟩ := nested_of_common inC inB longer
    exact Or.inr fun x member => ⟨low.trans member.1, member.2.trans high⟩

/-- A block inside another has the longer prefix. -/
theorem len_le_of_subset {b c : Block w} (inside : b.space ⊆ c.space) : c.len ≤ b.len := by
  have low := (inside b.base_mem).1
  have high := (inside b.last_mem).2
  have sizes : b.size ≤ c.size := by
    have := b.size_pos
    have := c.size_pos
    unfold last at high; omega
  have exponents : w - b.len ≤ w - c.len := (Nat.pow_le_pow_iff_right (by norm_num)).mp sizes
  have := b.len_le
  have := c.len_le
  omega

theorem ext_of_base_len {b c : Block w} (base : b.base = c.base) (len : b.len = c.len) : b = c := by
  cases b; cases c
  simp only at base len
  subst base; subst len
  rfl

theorem eq_of_subset_of_len {b c : Block w} (inside : b.space ⊆ c.space) (len : b.len = c.len) : b = c := by
  have low := (inside b.base_mem).1
  have high := (inside b.last_mem).2
  refine ext_of_base_len ?_ len
  have := b.size_pos
  unfold last size at *
  rw [len] at *
  omega

theorem space_injective : Function.Injective (space : Block w → Set Nat) := by
  intro b c same
  have le := len_le_of_subset same.le
  have ge := len_le_of_subset same.ge
  exact eq_of_subset_of_len same.le (le_antisymm ge le)

/-! ### Halves -/

/-- The lower half of a block that holds more than one natural. -/
def lower (b : Block w) (splits : b.len < w) : Block w where
  base := b.base
  len := b.len + 1
  len_le := splits
  aligned := (pow_dvd_pow 2 (by omega)).trans b.aligned
  base_lt := b.base_lt

/-- The upper half of a block that holds more than one natural. -/
def upper (b : Block w) (splits : b.len < w) : Block w where
  base := b.base + 2 ^ (w - (b.len + 1))
  len := b.len + 1
  len_le := splits
  aligned := Nat.dvd_add ((pow_dvd_pow 2 (by omega)).trans b.aligned) dvd_rfl
  base_lt := by
    have inside := b.last_lt
    have half : b.size = 2 ^ (w - (b.len + 1)) + 2 ^ (w - (b.len + 1)) := by
      unfold size
      rw [show w - b.len = (w - (b.len + 1)) + 1 by omega, pow_succ]; ring
    have pos : 0 < 2 ^ (w - (b.len + 1)) := Nat.two_pow_pos _
    unfold last at inside
    omega

/-- The two halves of a block, absent when it holds one natural. -/
def halves (b : Block w) : Option (Block w × Block w) :=
  if splits : b.len < w then some (b.lower splits, b.upper splits) else none

theorem size_halves {b : Block w} (splits : b.len < w) : b.size = (b.lower splits).size + (b.upper splits).size := by
  unfold size lower upper
  rw [show w - b.len = (w - (b.len + 1)) + 1 by omega, pow_succ]; ring

theorem mem_halves {b : Block w} (splits : b.len < w) (a : Nat) :
    a ∈ b.space ↔ a ∈ (b.lower splits).space ∨ a ∈ (b.upper splits).space := by
  have sizes := size_halves splits
  have pos := (b.lower splits).size_pos
  have posU := (b.upper splits).size_pos
  simp only [mem_space, last] at *
  have baseL : (b.lower splits).base = b.base := rfl
  have baseU : (b.upper splits).base = b.base + (b.lower splits).size := rfl
  omega

theorem halves_disjoint {b : Block w} (splits : b.len < w) :
    Disjoint (b.lower splits).space (b.upper splits).space := by
  rw [Set.disjoint_left]
  intro a inL inU
  have pos := (b.lower splits).size_pos
  have baseU : (b.upper splits).base = b.base + (b.lower splits).size := rfl
  have baseL : (b.lower splits).base = b.base := rfl
  have high := inL.2
  have low := inU.1
  unfold last at high
  omega

/-- A block strictly inside another lies in one of its halves. -/
theorem subset_half {b c : Block w} (splits : c.len < w) (inside : b.space ⊆ c.space) (longer : c.len < b.len) :
    b.space ⊆ (c.lower splits).space ∨ b.space ⊆ (c.upper splits).space := by
  have place : ∀ h : Block w, h.len = c.len + 1 → b.base ∈ h.space → b.space ⊆ h.space := by
    intro h len member
    obtain ⟨low, high⟩ := nested_of_common b.base_mem member (by omega)
    exact fun x inB => ⟨low.trans inB.1, inB.2.trans high⟩
  rcases (mem_halves splits b.base).mp (inside b.base_mem) with member | member
  · exact Or.inl (place _ rfl member)
  · exact Or.inr (place _ rfl member)

/-! ### Removing an inner block -/

/-- Walk down from the halves `s1`, `s2` to `other`, keeping the half left out
    at each level. The fuel bounds the number of levels. -/
def excludeLoop : Nat → Block w → Block w → Block w → Option (List (Block w))
  | 0, _, _, _ => none
  | fuel + 1, s1, s2, other =>
    if s1 = other then some [s2]
    else if s2 = other then some [s1]
    else if other.subnetOf s1 then do
      let (t1, t2) ← s1.halves
      let rest ← excludeLoop fuel t1 t2 other
      return s2 :: rest
    else if other.subnetOf s2 then do
      let (t1, t2) ← s2.halves
      let rest ← excludeLoop fuel t1 t2 other
      return s1 :: rest
    else none

/-- The blocks left of `b` without `other`; absent when `other` is not inside `b`. -/
def exclude (b other : Block w) : Option (List (Block w)) :=
  if !other.subnetOf b then none
  else if other = b then some []
  else do
    let (s1, s2) ← b.halves
    excludeLoop w s1 s2 other

/-- Pairwise disjoint blocks that together hold exactly the naturals of `s`. -/
structure Tiles (blocks : List (Block w)) (s : Set Nat) : Prop where
  disjoint : blocks.Pairwise fun b c => Disjoint b.space c.space
  exact : ∀ a, (∃ b ∈ blocks, a ∈ b.space) ↔ a ∈ s

theorem Tiles.cons {b : Block w} {blocks : List (Block w)} {s : Set Nat} (tiles : Tiles blocks s)
    (apart : Disjoint b.space s) : Tiles (b :: blocks) (b.space ∪ s) := by
  refine ⟨List.pairwise_cons.mpr ⟨?_, tiles.disjoint⟩, ?_⟩
  · intro c member
    exact apart.mono_right fun a inC => (tiles.exact a).mp ⟨c, member, inC⟩
  · intro a
    simp only [List.mem_cons, exists_eq_or_imp, tiles.exact, Set.mem_union]

theorem Tiles.single (b : Block w) : Tiles [b] b.space := ⟨List.pairwise_singleton _ _, by simp⟩
theorem Tiles.nil : Tiles ([] : List (Block w)) ∅ := ⟨List.Pairwise.nil, by simp⟩

/-- Tilings of disjoint sets tile the union. -/
theorem Tiles.append {xs ys : List (Block w)} {s t : Set Nat} (left : Tiles xs s) (right : Tiles ys t)
    (apart : Disjoint s t) : Tiles (xs ++ ys) (s ∪ t) := by
  refine ⟨List.pairwise_append.mpr ⟨left.disjoint, right.disjoint, ?_⟩, ?_⟩
  · intro b inX c inY
    rw [Set.disjoint_left] at apart ⊢
    exact fun a inB inC => apart ((left.exact a).mp ⟨b, inX, inB⟩) ((right.exact a).mp ⟨c, inY, inC⟩)
  · intro a
    simp only [List.mem_append, or_and_right, exists_or, left.exact, right.exact, Set.mem_union]

/-- The loop ends and leaves the two halves without `other`. -/
theorem excludeLoop_spec : ∀ (fuel : Nat) (s1 s2 other : Block w), s1.len = s2.len → s1.len ≤ other.len →
    other.len < fuel + s1.len → Disjoint s1.space s2.space →
    (other.space ⊆ s1.space ∨ other.space ⊆ s2.space) →
    ∃ rest, excludeLoop fuel s1 s2 other = some rest ∧ Tiles rest ((s1.space ∪ s2.space) \ other.space) := by
  intro fuel
  induction fuel with
  | zero => intro s1 s2 other _ _ enough; omega
  | succ fuel ih =>
    intro s1 s2 other level shorter enough apart inside
    by_cases first : s1 = other
    · refine ⟨[s2], by simp [excludeLoop, first], ?_⟩
      have left : (s1.space ∪ s2.space) \ other.space = s2.space := by
        rw [← first, Set.union_sdiff_left, sdiff_eq_left.mpr apart.symm]
      rw [left]; exact Tiles.single s2
    by_cases second : s2 = other
    · refine ⟨[s1], by simp [excludeLoop, first, second], ?_⟩
      have left : (s1.space ∪ s2.space) \ other.space = s1.space := by
        rw [← second, Set.union_sdiff_right, sdiff_eq_left.mpr apart]
      rw [left]; exact Tiles.single s1
    -- One level down: the half around `other` is split, its sibling is kept.
    have descend : ∀ s t : Block w, s ≠ other → s.len ≤ other.len → other.len < fuel + 1 + s.len →
        Disjoint s.space t.space → other.space ⊆ s.space → ∃ splits : s.len < w, ∃ rest,
          excludeLoop fuel (s.lower splits) (s.upper splits) other = some rest ∧
          Tiles (t :: rest) ((s.space ∪ t.space) \ other.space) := by
      intro s t differs below fits away within
      have strict : s.len < other.len := by
        rcases Nat.lt_or_ge s.len other.len with lt | ge
        · exact lt
        · exact absurd (eq_of_subset_of_len within (by omega)).symm differs
      have splits : s.len < w := lt_of_lt_of_le strict other.len_le
      have deeper : (s.lower splits).len = s.len + 1 := rfl
      obtain ⟨rest, ran, tiles⟩ := ih (s.lower splits) (s.upper splits) other rfl (by omega) (by omega)
        (halves_disjoint splits) (subset_half splits within strict)
      refine ⟨splits, rest, ran, ?_⟩
      have whole : (s.lower splits).space ∪ (s.upper splits).space = s.space := by
        ext a; exact (mem_halves splits a).symm
      rw [whole] at tiles
      have split : (s.space ∪ t.space) \ other.space = t.space ∪ s.space \ other.space := by
        rw [Set.union_sdiff_distrib, Set.union_comm, sdiff_eq_left.mpr (away.symm.mono_right within)]
      rw [split]
      exact tiles.cons (away.symm.mono_right Set.sdiff_subset)
    by_cases inFirst : other.subnetOf s1 = true
    · obtain ⟨splits, rest, ran, tiles⟩ := descend s1 s2 first shorter (by omega) apart
        ((subnetOf_iff other s1).mp inFirst)
      exact ⟨s2 :: rest, by simp [excludeLoop, first, second, inFirst, halves, splits, ran], tiles⟩
    · have inSecond : other.subnetOf s2 = true := by
        rw [subnetOf_iff] at inFirst ⊢
        exact inside.resolve_left inFirst
      obtain ⟨splits, rest, ran, tiles⟩ := descend s2 s1 second (by omega) (by omega) apart.symm
        ((subnetOf_iff other s2).mp inSecond)
      rw [Set.union_comm] at tiles
      exact ⟨s1 :: rest, by simp [excludeLoop, first, second, inFirst, inSecond, halves, splits, ran], tiles⟩

/-- Excluding an inner block never fails and leaves exactly the difference. -/
theorem exclude_spec {b other : Block w} (inside : other.space ⊆ b.space) :
    ∃ rest, b.exclude other = some rest ∧ Tiles rest (b.space \ other.space) := by
  have subnet : other.subnetOf b = true := (subnetOf_iff other b).mpr inside
  by_cases same : other = b
  · subst same
    refine ⟨[], by simp [exclude, subnet], ?_⟩
    rw [Set.sdiff_self]; exact Tiles.nil
  · have strict : b.len < other.len := by
      rcases Nat.lt_or_ge b.len other.len with lt | ge
      · exact lt
      · exact absurd (eq_of_subset_of_len inside (le_antisymm ge (len_le_of_subset inside))) same
    have splits : b.len < w := lt_of_lt_of_le strict other.len_le
    have deeper : (b.lower splits).len = b.len + 1 := rfl
    have bounded := other.len_le
    obtain ⟨rest, ran, tiles⟩ := excludeLoop_spec w (b.lower splits) (b.upper splits) other rfl (by omega) (by omega)
      (halves_disjoint splits) (subset_half splits inside strict)
    refine ⟨rest, by simp [exclude, subnet, same, halves, splits, ran], ?_⟩
    have whole : (b.lower splits).space ∪ (b.upper splits).space = b.space := by
      ext a; exact (mem_halves splits a).symm
    rwa [whole] at tiles

end Block
end RedDock
