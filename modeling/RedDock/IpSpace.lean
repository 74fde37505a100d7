import RedDock.IpAddress

/-!
# Networks as sets of hosts

The comparisons of networks in terms of the hosts they denote.
-/
set_option autoImplicit false
namespace RedDock.IPNetwork
open IPAddress

theorem hosts_subset_iff {v : Version} {s t : Set Nat} : hosts v s ⊆ hosts v t ↔ s ⊆ t := by
  constructor
  · intro inside a member
    exact (@inside (v, a) ⟨rfl, member⟩).2
  · intro inside h member
    exact ⟨member.1, inside member.2⟩

theorem space_nonempty (n : IPNetwork) : n.space.Nonempty := by
  cases n with
  | v4 b => exact ⟨(.v4, b.base), rfl, b.base_mem⟩
  | v6 b => exact ⟨(.v6, b.base), rfl, b.base_mem⟩

theorem version_of_mem {n : IPNetwork} {h : Host} (member : h ∈ n.space) : h.1 = n.version := by
  cases n <;> exact member.1

theorem version_eq_of_common {n m : IPNetwork} {h : Host} (inN : h ∈ n.space) (inM : h ∈ m.space) :
    n.version = m.version := (version_of_mem inN).symm.trans (version_of_mem inM)

theorem contains_iff (n : IPNetwork) (a : IPAddress) : n.contains a = true ↔ a.host ∈ n.space := by
  cases n <;> cases a <;> simp [contains, space, hosts, host, IPAddress.version, IPAddress.ip, Block.contains_iff]

theorem overlaps_iff (n m : IPNetwork) : n.overlaps m = true ↔ ∃ h, h ∈ n.space ∧ h ∈ m.space := by
  cases n <;> cases m <;> simp [overlaps, space, hosts, Block.overlaps_iff]

theorem overlaps_comm (n m : IPNetwork) : n.overlaps m = m.overlaps n := by
  rw [Bool.eq_iff_iff, overlaps_iff, overlaps_iff]
  exact exists_congr fun h => and_comm

theorem not_overlaps_iff (n m : IPNetwork) : n.overlaps m = false ↔ Disjoint n.space m.space := by
  rw [← Bool.not_eq_true, overlaps_iff, Set.disjoint_left]
  simp

theorem version_eq_of_overlaps {n m : IPNetwork} (overlap : n.overlaps m = true) : n.version = m.version := by
  obtain ⟨h, inN, inM⟩ := (overlaps_iff n m).mp overlap
  exact version_eq_of_common inN inM

theorem version_eq_of_subset {n m : IPNetwork} (inside : n.space ⊆ m.space) : n.version = m.version := by
  obtain ⟨h, inN⟩ := n.space_nonempty
  exact version_eq_of_common inN (inside inN)

theorem subnet_of_iff (n m : IPNetwork) : n.subnet_of m = true ↔ n.space ⊆ m.space := by
  have apart : n.version ≠ m.version → ¬n.space ⊆ m.space := fun differ inside => differ (version_eq_of_subset inside)
  cases n with
  | v4 b =>
    cases m with
    | v4 c => exact (Block.subnetOf_iff b c).trans hosts_subset_iff.symm
    | v6 c => simpa [subnet_of] using apart (by simp [version])
  | v6 b =>
    cases m with
    | v4 c => simpa [subnet_of] using apart (by simp [version])
    | v6 c => exact (Block.subnetOf_iff b c).trans hosts_subset_iff.symm

theorem supernet_of_iff (n m : IPNetwork) : n.supernet_of m = true ↔ m.space ⊆ n.space := subnet_of_iff m n

/-- Overlapping networks are nested one way or the other. -/
theorem subset_or_subset {n m : IPNetwork} (overlap : n.overlaps m = true) : n.space ⊆ m.space ∨ m.space ⊆ n.space := by
  cases n with
  | v4 b =>
    cases m with
    | v4 c => exact (Block.subset_or_subset overlap).imp hosts_subset_iff.mpr hosts_subset_iff.mpr
    | v6 c => simp [overlaps] at overlap
  | v6 b =>
    cases m with
    | v4 c => simp [overlaps] at overlap
    | v6 c => exact (Block.subset_or_subset overlap).imp hosts_subset_iff.mpr hosts_subset_iff.mpr

theorem mem_single (a : IPAddress) (h : Host) : h ∈ (single a).space ↔ h = a.host := by
  obtain ⟨v, x⟩ := h
  cases a with
  | v4 ip => simp [single, space, hosts, Block.mem_single, host, IPAddress.version, IPAddress.ip]
  | v6 ip scope_id => simp [single, space, hosts, Block.mem_single, host, IPAddress.version, IPAddress.ip]

theorem space_single (a : IPAddress) : (single a).space = {a.host} := Set.ext fun h => mem_single a h

theorem single_subset_iff (a : IPAddress) (n : IPNetwork) : (single a).space ⊆ n.space ↔ a.host ∈ n.space := by
  rw [space_single, Set.singleton_subset_iff]

theorem single_overlaps_iff (a : IPAddress) (n : IPNetwork) : (single a).overlaps n = true ↔ a.host ∈ n.space := by
  rw [overlaps_iff]
  simp [mem_single]

theorem exclude_hosts {w : Nat} {v : Version} (wrap : Block w → IPNetwork)
    (spaces : ∀ b, (wrap b).space = hosts v b.space) {b c : Block w} (inside : (wrap c).space ⊆ (wrap b).space) :
    ∃ rest, (b.exclude c).map (List.map wrap) = some rest ∧
      ∀ h, (∃ m ∈ rest, h ∈ m.space) ↔ h ∈ (wrap b).space \ (wrap c).space := by
  rw [spaces, spaces, hosts_subset_iff] at inside
  obtain ⟨rest, ran, tiles⟩ := Block.exclude_spec inside
  refine ⟨rest.map wrap, by simp [ran], fun h => ?_⟩
  have left := tiles.exact h.2
  simp only [List.mem_map, exists_exists_and_eq_and, spaces, Set.mem_sdiff] at left ⊢
  constructor
  · rintro ⟨d, member, family, held⟩
    obtain ⟨inB, notC⟩ := left.mp ⟨d, member, held⟩
    exact ⟨⟨family, inB⟩, fun bad => notC bad.2⟩
  · rintro ⟨⟨family, inB⟩, notC⟩
    obtain ⟨d, member, held⟩ := left.mpr ⟨inB, fun inC => notC ⟨family, inC⟩⟩
    exact ⟨d, member, family, held⟩

/-- The networks left of `n` without `other` hold exactly the other hosts. -/
theorem address_exclude_spec {n other : IPNetwork} (inside : other.space ⊆ n.space) :
    ∃ rest, n.address_exclude other = some rest ∧ ∀ h, (∃ m ∈ rest, h ∈ m.space) ↔ h ∈ n.space \ other.space := by
  have family := version_eq_of_subset inside
  cases n with
  | v4 b =>
    cases other with
    | v4 c => exact exclude_hosts .v4 (fun _ => rfl) inside
    | v6 c => simp [version] at family
  | v6 b =>
    cases other with
    | v4 c => simp [version] at family
    | v6 c => exact exclude_hosts .v6 (fun _ => rfl) inside

end RedDock.IPNetwork
