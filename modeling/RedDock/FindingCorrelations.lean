import RedDock.Correlation
import RedDock.Fallible

/-!
# Which findings a run correlates

The loops of `_finding_correlations` reach each pair of supported findings on
one asset, or on two related ones, once; so the bound on edges refuses a run
exactly when these pairs and the other edges are too many.
-/
set_option autoImplicit false
namespace RedDock.FindingCorrelations
open Text Retained Correlation Fallible
open Inventory (Asset EvidenceRecord fresh truthy)

/-! ### Pairs -/

section
variable {α β : Type}

theorem pairs_sublist {some_items items : List α} (inside : some_items.Sublist items) : (pairs some_items).Sublist (pairs items) := by
  induction inside with
  | slnil => exact .slnil
  | cons item _ ih => exact ih.trans (List.sublist_append_right _ _)
  | cons_cons item inside ih => exact (inside.map _).append ih

theorem mem_of_pairs {items : List α} {pair : α × α} (member : pair ∈ pairs items) : pair.1 ∈ items ∧ pair.2 ∈ items := by
  induction items with
  | nil => cases member
  | cons first rest ih =>
    rcases List.mem_append.mp member with here | later
    · obtain ⟨right, inside, rfl⟩ := List.mem_map.mp here
      exact ⟨List.mem_cons_self, List.mem_cons_of_mem _ inside⟩
    · exact ⟨List.mem_cons_of_mem _ (ih later).1, List.mem_cons_of_mem _ (ih later).2⟩

/-- The pairs of items in order. -/
theorem mem_pairs {key : α → Nat} {items : List α} (ordered : items.Pairwise fun one other => key one < key other) {one other : α} :
    (one, other) ∈ pairs items ↔ one ∈ items ∧ other ∈ items ∧ key one < key other := by
  induction items with
  | nil => simp [pairs]
  | cons first rest ih =>
    obtain ⟨before, rest_ordered⟩ := List.pairwise_cons.mp ordered
    rw [pairs, List.mem_append, ih rest_ordered, List.mem_map]
    constructor
    · rintro (⟨right, inside, is⟩ | ⟨left, right, less⟩)
      · cases is
        exact ⟨List.mem_cons_self, List.mem_cons_of_mem _ inside, before _ inside⟩
      · exact ⟨List.mem_cons_of_mem _ left, List.mem_cons_of_mem _ right, less⟩
    · rintro ⟨left, right, less⟩
      rcases List.mem_cons.mp left with rfl | left_later
      · rcases List.mem_cons.mp right with rfl | right_later
        · exact absurd less (lt_irrefl _)
        · exact Or.inl ⟨other, right_later, rfl⟩
      · rcases List.mem_cons.mp right with rfl | right_later
        · exact absurd (less.trans (before _ left_later)) (lt_irrefl _)
        · exact Or.inr ⟨left_later, right_later, less⟩

theorem pairs_map_nodup {f : α → β} {items : List α} (distinct : (items.map f).Nodup) :
    ((pairs items).map fun pair => (f pair.1, f pair.2)).Nodup := by
  induction items with
  | nil => exact List.nodup_nil
  | cons first rest ih =>
    rw [List.map_cons, List.nodup_cons] at distinct
    obtain ⟨new, rest_distinct⟩ := distinct
    rw [pairs, List.map_append, List.map_map]
    refine List.Nodup.append ?_ (ih rest_distinct) fun key left right => ?_
    · have same : (fun pair : α × α => (f pair.1, f pair.2)) ∘ (fun right => (first, right)) = (fun y => (f first, y)) ∘ f := rfl
      rw [same, ← List.map_map]
      exact rest_distinct.map fun _ _ is => (Prod.mk.inj is).2
    · obtain ⟨later, _, rfl⟩ := List.mem_map.mp left
      obtain ⟨pair, inside, is⟩ := List.mem_map.mp right
      refine new (List.mem_map.mpr ⟨pair.1, (mem_of_pairs inside).1, ?_⟩)
      exact (Prod.mk.inj is).1

theorem filterMap_sublist {γ : Type} {f : α → Option β} {g : β → γ} {h : α → γ} (agree : ∀ a b, f a = some b → g b = h a)
    (items : List α) : ((items.filterMap f).map g).Sublist (items.map h) := by
  induction items with
  | nil => exact .slnil
  | cons item items ih =>
    cases kept : f item with
    | none =>
      rw [List.filterMap_cons_none kept]
      exact ih.cons _
    | some value =>
      rw [List.filterMap_cons_some kept, List.map_cons, List.map_cons, agree item value kept]
      exact ih.cons_cons _

theorem nodup_eraseDups [BEq α] [LawfulBEq α] (items : List α) : items.eraseDups.Nodup := by
  induction size : items.length using Nat.strong_induction_on generalizing items with
  | _ n ih =>
    cases items with
    | nil => simp
    | cons first rest =>
      rw [List.eraseDups_cons, List.nodup_cons]
      refine ⟨fun again => ?_, ih _ ?_ _ rfl⟩
      · rw [List.mem_eraseDups, List.mem_filter] at again
        simp at again
      · rw [← size, List.length_cons]
        exact Nat.lt_succ_of_le (List.length_filter_le _ _)

/-- Items that one function tells apart are told apart by another one that
    agrees only where it does. -/
theorem nodup_map_of {γ : Type} {f : α → β} {g : α → γ} {items : List α} (distinct : (items.map f).Nodup)
    (agree : ∀ one ∈ items, ∀ other ∈ items, g one = g other → f one = f other) : (items.map g).Nodup :=
  (List.Nodup.of_map f distinct).map_on fun one left other right same =>
    List.inj_on_of_nodup_map distinct left right (agree one left other right same)

end

/-! ### The pairs that are due -/

def linked (relationships : List AssetRelationship) (one other : Nat) : Bool := relationships.any fun row =>
  row.source_asset_id = one && row.target_asset_id = other || row.source_asset_id = other && row.target_asset_id = one

/-- How two findings are correlated, if they are. -/
def correlation_kind (hashes : List (Nat × Text)) (relationships : List AssetRelationship) (one other : Finding) : Option Text :=
  match one.asset_id, other.asset_id with
  | some asset, some asset' =>
    if !supported hashes one || !supported hashes other then none
    else if asset = asset' then some "same_asset".toList
    else if linked relationships asset asset' then some "related_assets".toList
    else none
  | _, _ => none

/-- Each unordered pair of supported findings on one asset or on two related
    ones, the lower id first. -/
def due (findings : List Finding) (hashes : List (Nat × Text)) (relationships : List AssetRelationship) : List (Nat × Nat × Text) :=
  (pairs findings).filterMap fun pair => (correlation_kind hashes relationships pair.1 pair.2).map fun kind => (pair.1.id, pair.2.id, kind)

/-- Relationships of which none ends where one starts. -/
structure Simple (relationships : List AssetRelationship) : Prop where
  sources : (relationships.map (·.source_asset_id)).Nodup
  apart : ∀ row ∈ relationships, ∀ other ∈ relationships, row.target_asset_id ≠ other.source_asset_id

section
variable {findings : List Finding} {hashes : List (Nat × Text)} {relationships : List AssetRelationship}

theorem mem_group {asset_id : Nat} {finding : Finding} : finding ∈ group findings hashes asset_id ↔
    finding ∈ findings ∧ finding.asset_id = some asset_id ∧ supported hashes finding = true := by
  simp [group]

theorem mem_grouped_assets {asset_id : Nat} : asset_id ∈ grouped_assets findings hashes ↔ ∃ finding, finding ∈ group findings hashes asset_id := by
  simp only [grouped_assets, List.mem_eraseDups, List.mem_filterMap, List.mem_filter, mem_group]
  constructor
  · rintro ⟨finding, ⟨listed, holds⟩, on⟩
    exact ⟨finding, listed, on, holds⟩
  · rintro ⟨finding, listed, on, holds⟩
    exact ⟨finding, ⟨listed, holds⟩, on⟩

/-- What a call of the first loop is about. -/
structure SameAsset (findings : List Finding) (hashes : List (Nat × Text)) (call : Call) (asset_id : Nat) : Prop where
  kind : call.kind = "same_asset".toList
  left : call.left ∈ group findings hashes asset_id
  right : call.right ∈ group findings hashes asset_id

/-- And one of the second loop. -/
structure Related (findings : List Finding) (hashes : List (Nat × Text)) (call : Call) (relationship : AssetRelationship) : Prop where
  kind : call.kind = "related_assets".toList
  left : call.left ∈ group findings hashes relationship.source_asset_id
  right : call.right ∈ group findings hashes relationship.target_asset_id

theorem same_asset_of_mem {asset_id : Nat} {call : Call} (member : call ∈ same_asset_calls findings hashes asset_id) :
    SameAsset findings hashes call asset_id := by
  obtain ⟨pair, inside, rfl⟩ := List.mem_map.mp member
  exact ⟨rfl, (mem_of_pairs inside).1, (mem_of_pairs inside).2⟩

theorem related_of_mem {relationship : AssetRelationship} {call : Call} (member : call ∈ related_calls findings hashes relationship) :
    Related findings hashes call relationship := by
  obtain ⟨left, on_source, member⟩ := List.mem_flatMap.mp member
  obtain ⟨right, on_target, rfl⟩ := List.mem_map.mp member
  exact ⟨rfl, on_source, on_target⟩

/-- A call is of one of the loops. -/
theorem mem_calls {call : Call} (member : call ∈ calls findings hashes relationships) :
    (∃ asset_id, call ∈ same_asset_calls findings hashes asset_id) ∨ ∃ row ∈ relationships, call ∈ related_calls findings hashes row := by
  rcases List.mem_append.mp member with same | related
  · obtain ⟨asset_id, _, inside⟩ := List.mem_flatMap.mp same
    exact Or.inl ⟨asset_id, inside⟩
  · obtain ⟨row, listed, inside⟩ := List.mem_flatMap.mp related
    exact Or.inr ⟨row, listed, inside⟩

theorem kinds_apart : "same_asset".toList ≠ "related_assets".toList := by decide

/-- The kind of findings on one asset. -/
theorem kind_same {one other : Finding} {asset_id : Nat} (left : one ∈ group findings hashes asset_id)
    (right : other ∈ group findings hashes asset_id) : correlation_kind hashes relationships one other = some "same_asset".toList := by
  obtain ⟨-, on, holds⟩ := mem_group.mp left
  obtain ⟨-, on', holds'⟩ := mem_group.mp right
  simp [correlation_kind, on, on', holds, holds']

theorem kind_related {one other : Finding} {asset_id asset_id' : Nat} (different : asset_id ≠ asset_id')
    (left : one ∈ group findings hashes asset_id) (right : other ∈ group findings hashes asset_id')
    (joined : linked relationships asset_id asset_id' = true) :
    correlation_kind hashes relationships one other = some "related_assets".toList := by
  obtain ⟨-, on, holds⟩ := mem_group.mp left
  obtain ⟨-, on', holds'⟩ := mem_group.mp right
  simp [correlation_kind, on, on', holds, holds', different, joined]

/-- The findings of a call, in the order of the loops. -/
def ends (call : Call) : Nat × Nat := (call.left.id, call.right.id)

variable (ordered : findings.Pairwise fun one other => one.id < other.id)
include ordered

theorem finding_ids : (findings.map Finding.id).Nodup :=
  List.pairwise_map.mpr (ordered.imp fun less => Nat.ne_of_lt less)

theorem group_ordered (asset_id : Nat) : (group findings hashes asset_id).Pairwise fun one other => one.id < other.id :=
  ordered.sublist List.filter_sublist

theorem same_finding {one other : Finding} (left : one ∈ findings) (right : other ∈ findings) (same : one.id = other.id) : one = other :=
  List.inj_on_of_nodup_map (finding_ids ordered) left right same

/-- A finding is on one asset. -/
theorem group_asset {asset_id asset_id' : Nat} {one other : Finding} (left : one ∈ group findings hashes asset_id)
    (right : other ∈ group findings hashes asset_id') (same : one.id = other.id) : asset_id = asset_id' := by
  obtain ⟨listed, on, -⟩ := mem_group.mp left
  obtain ⟨listed', on', -⟩ := mem_group.mp right
  rw [same_finding ordered listed listed' same, on'] at on
  exact (Option.some.inj on).symm

theorem same_asset_ends_nodup :
    (((grouped_assets findings hashes).flatMap (same_asset_calls findings hashes)).map ends).Nodup := by
  rw [List.map_flatMap]
  refine List.nodup_flatMap.mpr ⟨fun asset_id _ => ?_, ?_⟩
  · rw [same_asset_calls, List.map_map]
    exact pairs_map_nodup (List.pairwise_map.mpr ((group_ordered ordered asset_id).imp fun less => Nat.ne_of_lt less))
  · refine (nodup_eraseDups _).imp fun {asset_id asset_id'} different key left right => different ?_
    obtain ⟨call, member, rfl⟩ := List.mem_map.mp left
    obtain ⟨call', member', is⟩ := List.mem_map.mp right
    exact group_asset ordered (same_asset_of_mem member).left (same_asset_of_mem member').left (Prod.mk.inj is).1.symm

theorem related_ends_nodup (simple : Simple relationships) :
    ((relationships.flatMap (related_calls findings hashes)).map ends).Nodup := by
  rw [List.map_flatMap]
  refine List.nodup_flatMap.mpr ⟨fun relationship _ => ?_, ?_⟩
  · have ids : ∀ asset_id, ((group findings hashes asset_id).map Finding.id).Nodup := fun asset_id =>
      List.pairwise_map.mpr ((group_ordered ordered asset_id).imp fun less => Nat.ne_of_lt less)
    have product := (ids relationship.source_asset_id).product (ids relationship.target_asset_id)
    rw [related_calls, List.map_flatMap]
    refine List.nodup_flatMap.mpr ⟨fun left _ => ?_, ?_⟩
    · rw [List.map_map]
      have same : ends ∘ (fun right : Finding => ({
          left := left
          right := right
          kind := "related_assets".toList
          basis := "The findings belong to assets joined by asset relationship #".toList ++ dec relationship.id ++ ".".toList
          relation_id := some relationship.id } : Call)) = (fun id => (left.id, id)) ∘ Finding.id := rfl
      rw [same, ← List.map_map]
      exact (ids _).map fun _ _ is => (Prod.mk.inj is).2
    · refine (List.pairwise_map.mp (ids relationship.source_asset_id)).imp fun {left left'} different key first second => different ?_
      obtain ⟨call, member, rfl⟩ := List.mem_map.mp first
      obtain ⟨call', member', is⟩ := List.mem_map.mp second
      obtain ⟨right, _, rfl⟩ := List.mem_map.mp member
      obtain ⟨right', _, rfl⟩ := List.mem_map.mp member'
      exact (Prod.mk.inj is).1.symm
  · refine (List.pairwise_map.mp simple.sources).imp fun {row row'} different key first second => different ?_
    obtain ⟨call, member, rfl⟩ := List.mem_map.mp first
    obtain ⟨call', member', is⟩ := List.mem_map.mp second
    exact group_asset ordered (related_of_mem member).left (related_of_mem member').left (Prod.mk.inj is).1.symm

theorem ends_nodup (simple : Simple relationships) : ((calls findings hashes relationships).map ends).Nodup := by
  rw [calls, List.map_append]
  refine (same_asset_ends_nodup ordered).append (related_ends_nodup ordered simple) fun key left right => ?_
  obtain ⟨call, member, rfl⟩ := List.mem_map.mp left
  obtain ⟨call', member', is⟩ := List.mem_map.mp right
  obtain ⟨asset_id, _, inside⟩ := List.mem_flatMap.mp member
  obtain ⟨row, listed, inside'⟩ := List.mem_flatMap.mp member'
  have same := same_asset_of_mem inside
  have related := related_of_mem inside'
  obtain ⟨lefts, rights⟩ := Prod.mk.inj is
  have source := group_asset ordered related.left same.left lefts
  have target := group_asset ordered related.right same.right rights
  exact simple.apart row listed row listed (target.trans source.symm)

theorem same_asset_less {asset_id : Nat} {call : Call} (member : call ∈ same_asset_calls findings hashes asset_id) :
    call.left.id < call.right.id := by
  obtain ⟨pair, inside, rfl⟩ := List.mem_map.mp member
  exact ((mem_pairs (group_ordered ordered asset_id)).mp inside).2.2

/-- No call is about one finding only. -/
theorem ends_apart (simple : Simple relationships) {call : Call} (member : call ∈ calls findings hashes relationships) :
    call.left.id ≠ call.right.id := by
  rcases mem_calls member with ⟨asset_id, inside⟩ | ⟨row, listed, inside⟩
  · exact Nat.ne_of_lt (same_asset_less ordered inside)
  · intro same
    have related := related_of_mem inside
    exact simple.apart row listed row listed (group_asset ordered related.left related.right same).symm

theorem same_asset_key {asset_id : Nat} {call : Call} (member : call ∈ same_asset_calls findings hashes asset_id) :
    call.key = (call.left.id, call.right.id, "same_asset".toList) := by
  have not_less := Nat.lt_asymm (same_asset_less ordered member)
  rw [Call.key, Call.source, Call.target, if_neg not_less, if_neg not_less, (same_asset_of_mem member).kind]

/-- Calls with one key are about the same findings. -/
theorem ends_of_key (simple : Simple relationships) {call call' : Call} (member : call ∈ calls findings hashes relationships)
    (member' : call' ∈ calls findings hashes relationships) (same : call.key = call'.key) : ends call = ends call' := by
  have kinds : call.kind = call'.kind := (Prod.mk.inj (Prod.mk.inj same).2).2
  rcases mem_calls member with ⟨asset_id, inside⟩ | ⟨row, listed, inside⟩
  · rcases mem_calls member' with ⟨asset_id', inside'⟩ | ⟨row', _, inside'⟩
    · rw [same_asset_key ordered inside, same_asset_key ordered inside'] at same
      obtain ⟨left, rest⟩ := Prod.mk.inj same
      rw [ends, ends, left, (Prod.mk.inj rest).1]
    · rw [(same_asset_of_mem inside).kind, (related_of_mem inside').kind] at kinds
      exact absurd kinds kinds_apart
  · rcases mem_calls member' with ⟨asset_id', inside'⟩ | ⟨row', listed', inside'⟩
    · rw [(related_of_mem inside).kind, (same_asset_of_mem inside').kind] at kinds
      exact absurd kinds.symm kinds_apart
    · have here := related_of_mem inside
      have there := related_of_mem inside'
      obtain ⟨sources, rest⟩ := Prod.mk.inj same
      have targets := (Prod.mk.inj rest).1
      simp only [Call.source, Call.target] at sources targets
      -- findings that meet crosswise would be on assets that are source and target
      split at sources
      · split at sources
        · rw [if_pos ‹_›, if_pos ‹_›] at targets
          rw [ends, ends, sources, targets]
        · exact absurd (group_asset ordered here.right there.left sources) (simple.apart row listed row' listed')
      · split at sources
        · exact absurd (group_asset ordered here.left there.right sources).symm (simple.apart row' listed' row listed)
        · rw [if_neg ‹_›, if_neg ‹_›] at targets
          rw [ends, ends, sources, targets]

theorem keys_nodup (simple : Simple relationships) : ((calls findings hashes relationships).map Call.key).Nodup :=
  nodup_map_of (ends_nodup ordered simple) fun _ left _ right same => ends_of_key ordered simple left right same

theorem mem_due {one other : Finding} {kind : Text} (left : one ∈ findings) (right : other ∈ findings) (less : one.id < other.id)
    (is : correlation_kind hashes relationships one other = some kind) : (one.id, other.id, kind) ∈ due findings hashes relationships :=
  List.mem_filterMap.mpr ⟨(one, other), (mem_pairs ordered).mpr ⟨left, right, less⟩, by rw [is]; rfl⟩

/-- What a call is about is due. -/
theorem due_of_call (simple : Simple relationships) {call : Call} (member : call ∈ calls findings hashes relationships) :
    call.key ∈ due findings hashes relationships := by
  rcases mem_calls member with ⟨asset_id, inside⟩ | ⟨row, listed, inside⟩
  · have same := same_asset_of_mem inside
    rw [same_asset_key ordered inside]
    exact mem_due ordered (mem_group.mp same.left).1 (mem_group.mp same.right).1 (same_asset_less ordered inside)
      (kind_same same.left same.right)
  · have related := related_of_mem inside
    have apart := simple.apart row listed row listed
    have joined : linked relationships row.source_asset_id row.target_asset_id = true :=
      List.any_eq_true.mpr ⟨row, listed, by simp⟩
    have joined' : linked relationships row.target_asset_id row.source_asset_id = true :=
      List.any_eq_true.mpr ⟨row, listed, by simp⟩
    rw [Call.key, Call.source, Call.target, related.kind]
    have different := ends_apart ordered simple member
    split
    · rename_i less
      exact mem_due ordered (mem_group.mp related.right).1 (mem_group.mp related.left).1 less
        (kind_related apart related.right related.left joined')
    · exact mem_due ordered (mem_group.mp related.left).1 (mem_group.mp related.right).1 (by omega)
        (kind_related apart.symm related.left related.right joined)

/-- What is due has its call. -/
theorem call_of_due {key : Nat × Nat × Text} (member : key ∈ due findings hashes relationships) :
    key ∈ (calls findings hashes relationships).map Call.key := by
  obtain ⟨pair, listed, is⟩ := List.mem_filterMap.mp member
  obtain ⟨one, other⟩ := pair
  obtain ⟨left, right, less⟩ := (mem_pairs ordered).mp listed
  obtain ⟨kind, found, rfl⟩ := Option.map_eq_some_iff.mp is
  simp only at found
  unfold correlation_kind at found
  split at found
  · rename_i asset_id asset_id' on on'
    split at found
    · cases found
    rename_i holds
    simp only [Bool.or_eq_true, Bool.not_eq_true', not_or, Bool.not_eq_false] at holds
    have in_group := mem_group.mpr ⟨left, on, holds.1⟩
    have in_group' := mem_group.mpr ⟨right, on', holds.2⟩
    have not_less := Nat.lt_asymm less
    split at found
    · rename_i same
      cases found
      rw [← same] at in_group'
      let call : Call := {
        left := one
        right := other
        kind := "same_asset".toList
        basis := "Both findings cite observations attached to asset #".toList ++ dec asset_id ++ ".".toList
        relation_id := none }
      have inside : call ∈ same_asset_calls findings hashes asset_id :=
        List.mem_map.mpr ⟨(one, other), (mem_pairs (group_ordered ordered asset_id)).mpr ⟨in_group, in_group', less⟩, rfl⟩
      refine List.mem_map.mpr ⟨call, List.mem_append_left _ (List.mem_flatMap.mpr ⟨asset_id, ?_, inside⟩), ?_⟩
      · exact mem_grouped_assets.mpr ⟨one, in_group⟩
      · exact same_asset_key ordered inside
    · split at found
      · rename_i joined
        cases found
        obtain ⟨row, in_rows, ends⟩ := List.any_eq_true.mp joined
        simp only [Bool.or_eq_true, Bool.and_eq_true, decide_eq_true_eq] at ends
        have call_of : ∀ first second : Finding, first ∈ group findings hashes row.source_asset_id →
            second ∈ group findings hashes row.target_asset_id → ∃ call ∈ calls findings hashes relationships,
              call.left = first ∧ call.right = second ∧ call.kind = "related_assets".toList := by
          intro first second on_source on_target
          refine ⟨_, List.mem_append_right _ (List.mem_flatMap.mpr ⟨row, in_rows, List.mem_flatMap.mpr ⟨first, on_source,
            List.mem_map.mpr ⟨second, on_target, rfl⟩⟩⟩), rfl, rfl, rfl⟩
        rcases ends with ⟨source, target⟩ | ⟨source, target⟩
        · obtain ⟨call, inside, is_left, is_right, is_kind⟩ := call_of one other (source ▸ in_group) (target ▸ in_group')
          exact List.mem_map.mpr ⟨call, inside, by
            rw [Call.key, Call.source, Call.target, is_left, is_right, is_kind, if_neg not_less, if_neg not_less]⟩
        · obtain ⟨call, inside, is_left, is_right, is_kind⟩ := call_of other one (source ▸ in_group') (target ▸ in_group)
          exact List.mem_map.mpr ⟨call, inside, by
            rw [Call.key, Call.source, Call.target, is_left, is_right, is_kind, if_pos less, if_pos less]⟩
      · cases found
  · cases found

/-- Each pair that is due is called for once, and no other. -/
theorem calls_due (simple : Simple relationships) :
    ((calls findings hashes relationships).map Call.key).Perm (due findings hashes relationships) := by
  refine (List.perm_ext_iff_of_nodup (keys_nodup ordered simple) ?_).mpr fun key => ⟨fun member => ?_, call_of_due ordered⟩
  · have ids := pairs_map_nodup (finding_ids ordered)
    have inside : ((due findings hashes relationships).map fun key => (key.1, key.2.1)).Sublist
        ((pairs findings).map fun pair => (pair.1.id, pair.2.id)) := by
      refine filterMap_sublist (fun pair key is => ?_) _
      obtain ⟨kind, _, rfl⟩ := Option.map_eq_some_iff.mp is
      rfl
    exact List.Nodup.of_map _ (ids.sublist inside)
  · obtain ⟨call, listed, rfl⟩ := List.mem_map.mp member
    exact due_of_call ordered simple listed

end

/-! ### The bound -/

/-- New keys are added while there is room. -/
theorem add_all {settings : Settings} {limit : Nat} {added items : List Call} (room : added.length ≤ limit)
    (distinct : ((added ++ items).map Call.key).Nodup) (apart : ∀ call ∈ items, call.source.id ≠ call.target.id) :
    items.foldlM (add settings limit) added =
      if added.length + items.length ≤ limit then .ok (added ++ items) else .error (too_many_edges settings) := by
  induction items generalizing added with
  | nil => simp [room]
  | cons call items ih =>
    obtain ⟨here, rest⟩ := List.forall_mem_cons.mp apart
    have new : call.key ∉ added.map Call.key := by
      rw [List.map_append, List.map_cons] at distinct
      exact fun member => (List.nodup_append.mp distinct).2.2 _ member _ List.mem_cons_self rfl
    rw [List.foldlM_cons, add, if_neg (not_or.mpr ⟨here, new⟩)]
    by_cases full : limit ≤ added.length
    · rw [if_pos full, error_bind, if_neg (by rw [List.length_cons]; omega)]
    · have longer : (added ++ [call]).length ≤ limit := by rw [List.length_append, List.length_singleton]; omega
      rw [if_neg full, ok_bind, ih longer (by rwa [List.append_assoc]) rest, List.append_assoc]
      simp only [List.length_append, List.length_cons, List.length_nil, List.singleton_append, Nat.add_assoc, Nat.add_comm 1]

theorem source_ne_target {call : Call} (apart : call.left.id ≠ call.right.id) : call.source.id ≠ call.target.id := by
  unfold Call.source Call.target
  split
  · exact apart.symm
  · exact apart

/-- The correlations of findings are those that are due, unless they are too
    many. -/
theorem finding_correlations_eq {settings : Settings} {findings : List Finding} {hashes : List (Nat × Text)}
    {relationships : List AssetRelationship} {limit : Nat} (ordered : findings.Pairwise fun one other => one.id < other.id)
    (simple : Simple relationships) : finding_correlations settings findings hashes relationships limit =
      if (due findings hashes relationships).length ≤ limit then .ok (calls findings hashes relationships)
      else .error (too_many_edges settings) := by
  have count : ((calls findings hashes relationships).map Call.key).length = (due findings hashes relationships).length :=
    (calls_due ordered simple).length_eq
  rw [List.length_map] at count
  have all : (calls findings hashes relationships).foldlM (add settings limit) [] =
      if ([] : List Call).length + (calls findings hashes relationships).length ≤ limit
      then .ok ([] ++ calls findings hashes relationships) else .error (too_many_edges settings) :=
    add_all (Nat.zero_le _) (keys_nodup ordered simple) fun call member => source_ne_target (ends_apart ordered simple member)
  rw [finding_correlations, all, List.length_nil, Nat.zero_add, count, List.nil_append]

/-! ### The relationships of a run -/

theorem numbered_map {α β γ : Type} {make : Nat → α → β} {f : β → γ} {g : α → γ} (agree : ∀ id item, f (make id item) = g item)
    (first : Nat) (items : List α) : (numbered make first items).map f = items.map g := by
  refine List.ext_getElem (by simp [numbered]) fun index _ _ => ?_
  simp [numbered, agree]

/-- Rows with keys of their own, as a database keeps them. -/
structure Keyed (db : Database) : Prop where
  assets : (db.assets.map (·.id)).Nodup
  findings : (db.findings.map Finding.id).Nodup

section
variable {db : Database} {dockyard_id : Nat}

/-- Rows in the order of distinct ids. -/
theorem ordered_less {Row : Type} {key : Row → Nat} {rows : List Row} (distinct : (rows.map key).Nodup) :
    (ordered key rows).Pairwise fun one other => key one < key other := by
  have sorted : (ordered key rows).Pairwise fun one other => key one ≤ key other := List.pairwise_insertionSort _ _
  have apart : (ordered key rows).Pairwise fun one other => key one ≠ key other :=
    List.pairwise_map.mp (((List.perm_insertionSort _ _).map key).nodup_iff.mpr distinct)
  exact (sorted.and apart).imp fun both => Nat.lt_of_le_of_ne both.1 both.2

theorem findings_ordered (keyed : Keyed db) : (findings_of db dockyard_id).Pairwise fun one other => one.id < other.id :=
  ordered_less (keyed.findings.sublist (List.filter_sublist.map _))

theorem assets_ordered (keyed : Keyed db) : (assets_of db dockyard_id).Pairwise fun one other => one.id < other.id :=
  ordered_less (keyed.assets.sublist (List.filter_sublist.map _))

end

/-- A relation joins a web asset and another asset, a host. -/
structure Joins (assets : List Asset) (relation : Relation) : Prop where
  web : relation.web ∈ webs assets
  host : relation.host ∈ assets
  host_type : relation.host.asset_type = "host".toList

theorem host_of_joins {assets : List Asset} {web host : Asset} (found : host_of assets web = some host) :
    host ∈ assets ∧ host.asset_type = "host".toList := by
  obtain ⟨at_address, -⟩ := Option.filter_eq_some_iff.mp found
  have inside := List.mem_filter.mp (List.mem_of_getLast? at_address)
  simp only [Bool.and_eq_true, decide_eq_true_eq] at inside
  exact ⟨inside.1, inside.2.1.1⟩

theorem relation_joins {db : Database} {dockyard_id : Nat} {assets : List Asset} {web : Asset} {related : Relation}
    (is : relation db dockyard_id assets web = some related) : related.web = web ∧ related.host ∈ assets ∧
      related.host.asset_type = "host".toList := by
  unfold relation at is
  obtain ⟨host, found, is⟩ := Option.bind_eq_some_iff.mp is
  obtain ⟨observation, _, is⟩ := Option.bind_eq_some_iff.mp is
  obtain ⟨evidence, _, is⟩ := Option.bind_eq_some_iff.mp is
  cases is
  exact ⟨rfl, host_of_joins found⟩

/-- Relationships made of relations of different web assets are simple. -/
theorem numbered_simple {assets : List Asset} {run : Run} {first : Nat} {found : List Relation}
    (ordered : assets.Pairwise fun one other => one.id < other.id) (joins : ∀ relation ∈ found, Joins assets relation)
    (once : (found.map fun relation => relation.web.id).Nodup) : Simple (numbered (asset_relationship run) first found) := by
  have ids : (assets.map (·.id)).Nodup := List.pairwise_map.mpr (ordered.imp fun less => Nat.ne_of_lt less)
  have of_row : ∀ row ∈ numbered (asset_relationship run) first found, ∃ relation ∈ found,
      row.source_asset_id = relation.web.id ∧ row.target_asset_id = relation.host.id := by
    intro row member
    obtain ⟨index, inside, rfl⟩ := List.mem_mapIdx.mp member
    exact ⟨_, List.getElem_mem inside, rfl, rfl⟩
  constructor
  · have source : ∀ id (found : Relation), (asset_relationship run id found).source_asset_id = found.web.id := fun _ _ => rfl
    exact (numbered_map source first found).symm ▸ once
  · intro row member other member' same
    obtain ⟨relation, inside, -, target⟩ := of_row row member
    obtain ⟨relation', inside', source, -⟩ := of_row other member'
    have host := joins relation inside
    have web := List.mem_filter.mp (joins relation' inside').web
    have one : relation.host = relation'.web :=
      List.inj_on_of_nodup_map ids host.host web.1 (target.symm.trans (same.trans source))
    have kind := web.2
    rw [← one, host.host_type] at kind
    simp only [Bool.and_eq_true, decide_eq_true_eq] at kind
    exact absurd kind.1 (by decide)

theorem relations_simple {db : Database} (keyed : Keyed db) (dockyard_id : Nat) (run : Run) (first : Nat) :
    Simple (numbered (asset_relationship run) first (relations db dockyard_id (assets_of db dockyard_id))) := by
  have ordered : (assets_of db dockyard_id).Pairwise fun one other => one.id < other.id := assets_ordered keyed
  have ids : ((assets_of db dockyard_id).map (·.id)).Nodup := List.pairwise_map.mpr (ordered.imp fun less => Nat.ne_of_lt less)
  refine numbered_simple ordered (fun found member => ?_) ?_
  · obtain ⟨web, listed, is⟩ := List.mem_filterMap.mp member
    obtain ⟨own, host, host_type⟩ := relation_joins is
    exact ⟨own ▸ listed, host, host_type⟩
  · have web_ids : ((webs (assets_of db dockyard_id)).map (·.id)).Nodup := ids.sublist (List.filter_sublist.map _)
    refine web_ids.sublist (filterMap_sublist (fun web found is => ?_) _)
    rw [(relation_joins is).1]

/-! ### Whole runs -/

section
variable (db : Database) (store : Store) (run : Run)

/-- The hashes of the findings that a run reads. -/
def run_hashes : List (Nat × Text) := finding_hashes db (findings_of db run.dockyard_id)

/-- The relationships it derives. -/
def run_relationships : List AssetRelationship :=
  numbered (asset_relationship run) (fresh (store.asset_relationships.map (·.id)))
    (relations db run.dockyard_id (assets_of db run.dockyard_id))

/-- The pairs of findings that it correlates. -/
def run_pairs : List (Nat × Nat × Text) :=
  due (findings_of db run.dockyard_id) (run_hashes db run) (run_relationships db store run)

/-- The edges it would store. -/
def edge_count : Nat :=
  (run_relationships db store run).length + subject_edge_count (findings_of db run.dockyard_id) (run_hashes db run) +
    (run_pairs db store run).length

/-- The rows it would store. -/
def run_rows : Store :=
  numbered_rows run store (run_hashes db run) (relations db run.dockyard_id (assets_of db run.dockyard_id))
    (calls (findings_of db run.dockyard_id) (run_hashes db run) (run_relationships db store run))
    (framework_mappings (findings_of db run.dockyard_id) (run_hashes db run))

/-- Its input or its edges are over a limit. -/
def over_limit (settings : Settings) : Prop :=
  settings.max_correlation_assets < (assets_of db run.dockyard_id).length ∨
  settings.max_correlation_findings < (findings_of db run.dockyard_id).length ∨
  settings.max_correlation_edges < edge_count db store run

/-- The rows of a run hold its relationships and each of its pairs once, the
    lower id first. -/
structure Exact (rows : Store) : Prop where
  relationships : rows.asset_relationships = run_relationships db store run
  pairs : (rows.finding_correlations.map fun row => (row.source_finding_id, row.target_finding_id, row.relationship_type)).Perm
    (run_pairs db store run)
  ordered : ∀ row ∈ rows.finding_correlations, row.source_finding_id < row.target_finding_id

end

theorem due_less {findings : List Finding} {hashes : List (Nat × Text)} {relationships : List AssetRelationship}
    (ordered : findings.Pairwise fun one other => one.id < other.id) {key : Nat × Nat × Text}
    (member : key ∈ due findings hashes relationships) : key.1 < key.2.1 := by
  obtain ⟨pair, listed, is⟩ := List.mem_filterMap.mp member
  obtain ⟨kind, _, rfl⟩ := Option.map_eq_some_iff.mp is
  exact ((mem_pairs ordered).mp listed).2.2

theorem within_inputs_eq (settings : Settings) (assets : List Asset) (findings : List Finding) :
    (∃ error, within_inputs settings assets findings = .error error) ∨
      within_inputs settings assets findings = .ok () := by
  unfold within_inputs
  split
  · exact Or.inl ⟨_, rfl⟩
  · split
    · exact Or.inl ⟨_, rfl⟩
    · exact Or.inr rfl

theorem within_inputs_ok_iff {settings : Settings} {assets : List Asset} {findings : List Finding} :
    within_inputs settings assets findings = .ok () ↔
      assets.length ≤ settings.max_correlation_assets ∧ findings.length ≤ settings.max_correlation_findings := by
  unfold within_inputs
  split
  · simp; omega
  · split
    · simp; omega
    · simp; omega

section
variable {settings : Settings} {db : Database} {store : Store} {run : Run}

/-- Below the bound a run adds a row for each call. -/
theorem derive_eq {assets : List Asset} {findings : List Finding} {hashes : List (Nat × Text)} {relations : List Relation}
    (ordered : findings.Pairwise fun one other => one.id < other.id) :
    let relationships := numbered (asset_relationship run) (fresh (store.asset_relationships.map (·.id))) relations
    let rows := numbered_rows run store hashes relations (calls findings hashes relationships) (framework_mappings findings hashes)
    Simple relationships → derive settings run store assets findings hashes relations =
      if settings.max_correlation_edges <
        relationships.length + subject_edge_count findings hashes + (due findings hashes relationships).length
      then .error (too_many_edges settings) else .ok (rows, graph_document assets findings hashes rows) := by
  intro relationships rows simple
  simp only [derive]
  by_cases fixed : settings.max_correlation_edges < relationships.length + subject_edge_count findings hashes
  · rw [if_pos fixed, if_pos (by omega)]
  rw [if_neg fixed, finding_correlations_eq ordered simple]
  by_cases room : (due findings hashes relationships).length ≤
      settings.max_correlation_edges - (relationships.length + subject_edge_count findings hashes)
  · rw [if_pos room, if_neg (by omega)]
    rfl
  · rw [if_neg room, if_pos (by omega)]
    rfl

theorem exact_rows (keyed : Keyed db) : Exact db store run (run_rows db store run) := by
  have ordered : (findings_of db run.dockyard_id).Pairwise fun one other => one.id < other.id := findings_ordered keyed
  let key_of (row : FindingCorrelation) : Nat × Nat × Text := (row.source_finding_id, row.target_finding_id, row.relationship_type)
  have key : ∀ id call, key_of (finding_correlation run (run_hashes db run) id call) = Call.key call := fun _ _ => rfl
  have due_calls : ((calls (findings_of db run.dockyard_id) (run_hashes db run) (run_relationships db store run)).map Call.key).Perm
      (run_pairs db store run) := calls_due ordered (relations_simple keyed _ _ _)
  have pairs : ((run_rows db store run).finding_correlations.map key_of).Perm (run_pairs db store run) := by
    rw [run_rows, numbered_rows, numbered_map key]
    exact due_calls
  refine ⟨rfl, pairs, fun row member => ?_⟩
  have inside : key_of row ∈ run_pairs db store run := pairs.mem_iff.mp (List.mem_map_of_mem member)
  exact due_less ordered inside

end

/-- A run derives exact rows or is over a limit. -/
theorem perform_cases (settings : Settings) {db : Database} (store : Store) (run : Run) (keyed : Keyed db) :
    (¬over_limit db store run settings ∧ ∃ rows graph, perform settings db store run = .ok (rows, graph) ∧ Exact db store run rows) ∨
      over_limit db store run settings ∧ ∃ error, perform settings db store run = .error error := by
  rcases within_inputs_eq settings (assets_of db run.dockyard_id) (findings_of db run.dockyard_id) with ⟨error, refused⟩ | inside
  · refine Or.inr ⟨?_, error, by rw [perform, refused, error_bind]⟩
    by_contra within
    simp only [over_limit, not_or, not_lt] at within
    rw [within_inputs_ok_iff.mpr ⟨within.1, within.2.1⟩] at refused
    cases refused
  have bounds := within_inputs_ok_iff.mp inside
  have limit : over_limit db store run settings ↔ settings.max_correlation_edges < edge_count db store run := by
    simp only [over_limit]
    omega
  have derived : derive settings run store (assets_of db run.dockyard_id) (findings_of db run.dockyard_id) (run_hashes db run)
      (relations db run.dockyard_id (assets_of db run.dockyard_id)) =
      if settings.max_correlation_edges < edge_count db store run then .error (too_many_edges settings)
      else .ok (run_rows db store run, graph_document (assets_of db run.dockyard_id) (findings_of db run.dockyard_id)
        (run_hashes db run) (run_rows db store run)) :=
    derive_eq (findings_ordered keyed) (relations_simple keyed _ _ _)
  have performed : perform settings db store run = derive settings run store (assets_of db run.dockyard_id)
      (findings_of db run.dockyard_id) (run_hashes db run) (relations db run.dockyard_id (assets_of db run.dockyard_id)) := by
    rw [perform, inside, ok_bind, run_hashes]
  rw [limit, performed, derived]
  by_cases above : settings.max_correlation_edges < edge_count db store run
  · exact Or.inr ⟨above, _, if_pos above⟩
  · exact Or.inl ⟨above, _, _, if_neg above, exact_rows keyed⟩

/-- A completed run stores its relationships and each of its pairs once; any
    other one stores nothing, and it is rejected exactly when its input or its
    edges are over a limit. -/
theorem correlations_exact (settings : Settings) (db : Database) (store : Store) (run : Run) (published : Bool) (keyed : Keyed db) :
    (∀ graph, (execute settings db store run published).2 = .completed graph →
      ∃ rows, Exact db store run rows ∧ (execute settings db store run published).1 = store.append rows) ∧
    ((∃ error, (execute settings db store run published).2 = .rejected error) ↔ over_limit db store run settings) ∧
    ((∀ graph, (execute settings db store run published).2 ≠ .completed graph) → (execute settings db store run published).1 = store) := by
  rcases perform_cases settings store run keyed with ⟨within, rows, graph, is, exact_here⟩ | ⟨above, error, is⟩
  · cases published
    · simp [execute, is, within]
    · simp only [execute, is, if_true]
      refine ⟨fun _ _ => ⟨rows, exact_here, rfl⟩, ?_, fun none => absurd rfl (none graph)⟩
      simp [within]
  · simp [execute, is, above]

/-- A host asset, by its id. -/
def host_asset (id : Nat) : Asset := ⟨id, 7, "host".toList, dec id, dec id, none, none, 0, 0⟩

/-- A finding of the first host. -/
def host_finding (id : Nat) : Finding where
  id := id
  dockyard_id := 7
  fingerprint := dec id
  detector := "exposure".toList
  detector_version := "1.0.0".toList
  rule_id := "plaintext-http".toList
  title := "Plaintext HTTP".toList
  description := []
  category := "exposure".toList
  severity := "low".toList
  confidence := "observed".toList
  status := "open".toList
  asset_id := some 1
  first_seen := 0
  last_seen := 0

/-- Two findings on one host, each with its evidence. -/
def two_findings : Database where
  assets := [host_asset 1]
  findings := [host_finding 1, host_finding 2]
  evidence_records := [⟨1, 7, 1, "normalized".toList, "result.json".toList, "application/json".toList, 2, "ab".toList, false⟩]
  finding_evidence := [{ id := 1, finding_id := 1, observation_id := 1, evidence_record_id := some 1, summary := [] },
    { id := 2, finding_id := 2, observation_id := 1, evidence_record_id := some 1, summary := [] }]

theorem correlations_exact_example : ∃ rows, Exact two_findings {} ⟨1, 7⟩ rows ∧
    (execute {} two_findings {} ⟨1, 7⟩ true).1 = Store.append {} rows := by
  have keyed : Keyed two_findings := ⟨by decide, by decide⟩
  have within : ¬over_limit two_findings {} ⟨1, 7⟩ {} := by
    unfold over_limit
    decide +kernel
  rcases perform_cases {} {} ⟨1, 7⟩ keyed with ⟨_, rows, graph, is, _⟩ | ⟨above, _⟩
  · have completed : (execute {} two_findings {} ⟨1, 7⟩ true).2 = .completed graph := by rw [execute, is]; rfl
    exact (correlations_exact {} two_findings {} ⟨1, 7⟩ true keyed).1 graph completed
  · exact absurd above within

/-- So many hosts, and nothing else. -/
def hosts (count : Nat) : Database where
  assets := (List.range count).map host_asset

theorem hosts_assets (count : Nat) : (assets_of (hosts count) 7).Perm ((List.range count).map host_asset) := by
  have own : ((List.range count).map host_asset).filter (fun row => row.dockyard_id = 7) = (List.range count).map host_asset :=
    List.filter_eq_self.mpr fun asset member => by
      obtain ⟨id, _, rfl⟩ := List.mem_map.mp member
      rfl
  rw [assets_of, hosts, own]
  exact List.perm_insertionSort _ _

theorem hosts_relations (count : Nat) : relations (hosts count) 7 (assets_of (hosts count) 7) = [] := by
  have none : webs (assets_of (hosts count) 7) = [] := List.filter_eq_nil_iff.mpr fun asset member => by
    obtain ⟨id, _, rfl⟩ := List.mem_map.mp ((hosts_assets count).mem_iff.mp member)
    simp [host_asset]
  rw [relations, none, List.filterMap_nil]

theorem hosts_edge_count (count : Nat) : edge_count (hosts count) {} ⟨1, 7⟩ = 0 := by
  have no_relationships : run_relationships (hosts count) {} ⟨1, 7⟩ = [] := by
    rw [run_relationships, hosts_relations]
    rfl
  rw [edge_count, no_relationships]
  rfl

/-- A run without any edge is rejected for its assets. -/
theorem rejected_without_edges : edge_count (hosts 2001) {} ⟨1, 7⟩ ≤ ({} : Settings).max_correlation_edges ∧
    ∃ error, (execute {} (hosts 2001) {} ⟨1, 7⟩ true).2 = .rejected error := by
  have full : ({} : Settings).max_correlation_assets < (assets_of (hosts 2001) 7).length := by
    rw [(hosts_assets 2001).length_eq, List.length_map, List.length_range]
    decide
  constructor
  · rw [hosts_edge_count]
    exact Nat.zero_le _
  · rw [execute, perform, within_inputs, if_pos full]
    exact ⟨_, rfl⟩

end RedDock.FindingCorrelations
