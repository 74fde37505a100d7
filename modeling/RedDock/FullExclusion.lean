import RedDock.Scope

/-!
# Full exclusion

What is left of a network while exclusions are subtracted from it: after every
step networks that share no host, and at the end nothing exactly when the
exclusions hold every host of the network.
-/
set_option autoImplicit false
namespace RedDock.FullExclusion
open Text Targets DockGuard Scope Fallible

variable {u : Unicode}

/-- Networks that share no host and hold exactly the hosts of a set. -/
structure Tiles (networks : List IPNetwork) (s : Set Host) : Prop where
  disjoint : networks.Pairwise fun one other => Disjoint one.space other.space
  covered : ∀ h, (∃ n ∈ networks, h ∈ n.space) ↔ h ∈ s

theorem Tiles.single (n : IPNetwork) : Tiles [n] n.space := ⟨List.pairwise_singleton _ _, by simp⟩

/-- Tilings of disjoint sets tile the union. -/
theorem Tiles.append {xs ys : List IPNetwork} {s t : Set Host} (left : Tiles xs s) (right : Tiles ys t) (apart : Disjoint s t) :
    Tiles (xs ++ ys) (s ∪ t) := by
  refine ⟨List.pairwise_append.mpr ⟨left.disjoint, right.disjoint, fun one in_xs other in_ys => ?_⟩, fun h => ?_⟩
  · refine Set.disjoint_left.mpr fun h here there => ?_
    exact Set.disjoint_left.mp apart ((left.covered h).mp ⟨one, in_xs, here⟩) ((right.covered h).mp ⟨other, in_ys, there⟩)
  · simp only [List.mem_append, or_and_right, exists_or, left.covered, right.covered, Set.mem_union]

/-! ### One exclusion -/

theorem exclude_tiles {w : Nat} {v : Version} (wrap : Block w → IPNetwork) (spaces : ∀ b, (wrap b).space = hosts v b.space)
    {b c : Block w} (inside : (wrap c).space ⊆ (wrap b).space) :
    ∃ rest, (b.exclude c).map (List.map wrap) = some rest ∧ Tiles rest ((wrap b).space \ (wrap c).space) := by
  obtain ⟨rest, ran, covered⟩ := IPNetwork.exclude_hosts wrap spaces inside
  refine ⟨rest, ran, ?_, covered⟩
  rw [spaces, spaces, IPNetwork.hosts_subset_iff] at inside
  obtain ⟨blocks, cut, tiles⟩ := Block.exclude_spec inside
  rw [cut, Option.map_some, Option.some.injEq] at ran
  subst ran
  refine List.pairwise_map.mpr (tiles.disjoint.imp fun apart => ?_)
  rw [spaces, spaces]
  exact Set.disjoint_left.mpr fun h one other => Set.disjoint_left.mp apart one.2 other.2

theorem address_exclude_tiles {n other : IPNetwork} (inside : other.space ⊆ n.space) :
    ∃ rest, n.address_exclude other = some rest ∧ Tiles rest (n.space \ other.space) := by
  have family := IPNetwork.version_eq_of_subset inside
  cases n with
  | v4 b =>
    cases other with
    | v4 c => exact exclude_tiles .v4 (fun _ => rfl) inside
    | v6 c => simp [IPNetwork.version] at family
  | v6 b =>
    cases other with
    | v4 c => simp [IPNetwork.version] at family
    | v6 c => exact exclude_tiles .v6 (fun _ => rfl) inside

/-- What a step leaves of one network. -/
theorem subtract_one (excluded n : IPNetwork) :
    ∃ pieces, Tiles pieces (n.space \ excluded.space) ∧
      ∀ networks rest, subtract excluded networks = .ok rest → subtract excluded (n :: networks) = .ok (pieces ++ rest) := by
  by_cases overlap : n.overlaps excluded = true
  · by_cases inside : excluded.supernet_of n = true
    · have nothing : n.space \ excluded.space = ∅ := Set.sdiff_eq_empty.mpr ((IPNetwork.supernet_of_iff excluded n).mp inside)
      refine ⟨[], ⟨List.Pairwise.nil, fun h => ?_⟩, fun networks rest ran => by simp [subtract, overlap, inside, ran]⟩
      rw [nothing]
      simp
    · have within : excluded.space ⊆ n.space := by
        rcases IPNetwork.subset_or_subset overlap with smaller | larger
        · exact absurd ((IPNetwork.supernet_of_iff excluded n).mpr smaller) inside
        · exact larger
      obtain ⟨pieces, cut, tiles⟩ := address_exclude_tiles within
      exact ⟨pieces, tiles, fun networks rest ran => by simp [subtract, overlap, inside, cut, ran]⟩
  · have apart : Disjoint n.space excluded.space := (IPNetwork.not_overlaps_iff n excluded).mp (Bool.not_eq_true _ ▸ overlap)
    refine ⟨[n], ?_, fun networks rest ran => by simp [subtract, overlap, ran]⟩
    rw [apart.sdiff_eq_left]
    exact Tiles.single n

/-- A step leaves disjoint networks that hold what was held but the excluded
    hosts. -/
theorem subtract_tiles (excluded : IPNetwork) {networks : List IPNetwork}
    (disjoint : networks.Pairwise fun one other => Disjoint one.space other.space) :
    ∃ rest, subtract excluded networks = .ok rest ∧ Tiles rest ({h | ∃ n ∈ networks, h ∈ n.space} \ excluded.space) := by
  induction networks with
  | nil => exact ⟨[], rfl, List.Pairwise.nil, by simp⟩
  | cons n networks ih =>
    obtain ⟨apart, later⟩ := List.pairwise_cons.mp disjoint
    obtain ⟨rest, ran, tiles⟩ := ih later
    obtain ⟨pieces, piece_tiles, step⟩ := subtract_one excluded n
    refine ⟨pieces ++ rest, step networks rest ran, ?_⟩
    have split : {h | ∃ m ∈ n :: networks, h ∈ m.space} \ excluded.space =
        n.space \ excluded.space ∪ {h | ∃ m ∈ networks, h ∈ m.space} \ excluded.space := by
      ext h
      simp only [List.mem_cons, exists_eq_or_imp, Set.mem_sdiff, Set.mem_ofPred_eq, Set.mem_union]
      exact or_and_right
    rw [split]
    refine piece_tiles.append tiles (Set.disjoint_left.mpr fun h here there => ?_)
    obtain ⟨m, member, held⟩ := there.1
    exact Set.disjoint_left.mp (apart m member) here.1 held

/-! ### All exclusions -/

/-- What the exclusions leave of some networks, one step for each. -/
def left_over (networks exclusions : List IPNetwork) : Except PyError (List IPNetwork) :=
  exclusions.foldlM (fun remaining excluded => subtract excluded remaining) networks

/-- Every run of steps leaves disjoint networks that hold exactly the hosts that
    no exclusion holds. -/
theorem left_over_tiles {exclusions networks : List IPNetwork} {s : Set Host} (tiles : Tiles networks s) :
    ∃ rest, left_over networks exclusions = .ok rest ∧ Tiles rest (s \ {h | ∃ excluded ∈ exclusions, h ∈ excluded.space}) := by
  induction exclusions generalizing networks s with
  | nil =>
    refine ⟨networks, rfl, ?_⟩
    have same : s \ {h | ∃ excluded ∈ ([] : List IPNetwork), h ∈ excluded.space} = s := by
      ext h
      simp
    rwa [same]
  | cons excluded exclusions ih =>
    obtain ⟨next, ran, held⟩ := subtract_tiles excluded tiles.disjoint
    have left : {h | ∃ n ∈ networks, h ∈ n.space} = s := Set.ext tiles.covered
    rw [left] at held
    obtain ⟨rest, later, whole⟩ := ih held
    refine ⟨rest, by simpa [left_over, ran] using later, ?_⟩
    have same : s \ {h | ∃ n ∈ excluded :: exclusions, h ∈ n.space} =
        (s \ excluded.space) \ {h | ∃ n ∈ exclusions, h ∈ n.space} := by
      ext h
      simp only [List.mem_cons, exists_eq_or_imp, Set.mem_sdiff, Set.mem_ofPred_eq, not_or, and_assoc]
    rwa [same]

theorem rule_space_of {rule : ScopeRule} {m : IPNetwork} (read : rule_network u rule = .ok (some m)) : ruleSpace u rule = some m :=
  (rule_network_ok read).2.symm

/-- A network is fully excluded exactly when the exclusions that overlap it hold
    every one of its hosts, and each step on the way leaves disjoint networks
    that hold exactly the hosts not excluded so far. -/
theorem full_exclusion_exact (u : Unicode) :
    (∀ (t : Target) (n : IPNetwork) (overlapping : List ScopeRule), t.network u = .ok (some n) →
      (∀ rule ∈ overlapping, ∃ m, rule_network u rule = .ok (some m) ∧ m.version = n.version ∧ n.overlaps m = true) →
      ∃ excluded, fully_excluded u t overlapping = .ok excluded ∧
        (excluded = true ↔ ∀ h ∈ n.space, ∃ rule ∈ overlapping, ∃ m, rule_network u rule = .ok (some m) ∧ h ∈ m.space)) ∧
    (∀ (excluded : IPNetwork) (networks : List IPNetwork), networks.Pairwise (fun one other => Disjoint one.space other.space) →
      ∃ rest, subtract excluded networks = .ok rest ∧ Tiles rest ({h | ∃ n ∈ networks, h ∈ n.space} \ excluded.space)) ∧
    ∀ (n : IPNetwork) (exclusions : List IPNetwork),
      ∃ rest, left_over [n] exclusions = .ok rest ∧ Tiles rest (n.space \ {h | ∃ excluded ∈ exclusions, h ∈ excluded.space}) := by
  refine ⟨fun t n overlapping network overlap => ?_, fun excluded networks disjoint => subtract_tiles excluded disjoint,
    fun n exclusions => left_over_tiles (Tiles.single n)⟩
  have readable : ∀ rule ∈ overlapping, ∃ entry, rule.target u = .ok entry := by
    intro rule member
    obtain ⟨m, read, _⟩ := overlap rule member
    have known := rule_space_of read
    cases reads : rule.target u with
    | error error => simp [ruleSpace, reads] at known
    | ok entry => exact ⟨entry, rfl⟩
  obtain ⟨excluded, ran, whole⟩ := exhausts_spec [n] (by simp) readable
  refine ⟨excluded, by simp [fully_excluded, network, ran], whole.trans ?_⟩
  simp only [List.mem_singleton, exists_eq_left]
  refine forall_congr' fun h => imp_congr_right fun _ => ?_
  constructor
  · rintro ⟨rule, member, m, known, held⟩
    obtain ⟨other, read, _⟩ := overlap rule member
    have same : m = other := Option.some.inj (known.symm.trans (rule_space_of read))
    exact ⟨rule, member, m, same ▸ read, held⟩
  · rintro ⟨rule, member, m, read, held⟩
    exact ⟨rule, member, m, rule_space_of read, held⟩

/-- A network and its halves. -/
def whole : IPNetwork := .v4 (Block.around 0xC0000200 30 (by decide) (by decide))
def whole_target : Target := { kind := .ipv4_network, value := "192.0.2.0/30".toList, host := "192.0.2.0/30".toList }
theorem half_lt (base : Fin (2 ^ 32)) : base.val < 2 ^ 32 := base.isLt
def half (base : Fin (2 ^ 32)) : IPNetwork := .v4 (Block.around base.val 31 (by decide) (half_lt base))
def half_rules : List ScopeRule := [{ rule := .exclude, value := "192.0.2.2/31".toList }, { rule := .exclude, value := "192.0.2.0/31".toList }]

theorem full_exclusion_exact_halves : ∃ excluded, fully_excluded .plain whole_target half_rules = .ok excluded ∧
    (excluded = true ↔ ∀ h ∈ whole.space, ∃ rule ∈ half_rules, ∃ m, rule_network .plain rule = .ok (some m) ∧ h ∈ m.space) := by
  refine (full_exclusion_exact .plain).1 whole_target whole half_rules (by decide +kernel) fun rule member => ?_
  have either : rule = { rule := .exclude, value := "192.0.2.2/31".toList } ∨ rule = { rule := .exclude, value := "192.0.2.0/31".toList } := by
    simpa [half_rules] using member
  rcases either with rfl | rfl
  · exact ⟨half 0xC0000202, by decide +kernel, by decide +kernel, by decide +kernel⟩
  · exact ⟨half 0xC0000200, by decide +kernel, by decide +kernel, by decide +kernel⟩

end RedDock.FullExclusion
