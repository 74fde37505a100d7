import RedDock.RateLimits
import RedDock.Windows
import RedDock.Fallible

/-!
# What the rate limiter promises

Each bucket is a fixed window that the transactions on the buckets move.
-/
set_option autoImplicit false
namespace RedDock.RateLimits
open Text Windows Fallible

/-- The window a bucket stands for. -/
def Table.window (table : Table) (bucket : BucketKey) : Option Window :=
  (table.lookup bucket).map fun row => ⟨row.attempt_count, row.expires_at⟩

theorem window_of_lookup {table other : Table} {bucket : BucketKey} (same : table.lookup bucket = other.lookup bucket) :
    table.window bucket = other.window bucket := by rw [Table.window, Table.window, same]

theorem write_ok {table after : Table} {bucket : BucketKey} {row : RateLimitBucket} (written : table.write bucket row = .ok after) :
    after = table.insert bucket row := by
  unfold Table.write at written
  split at written
  · exact (Except.ok.inj written).symm
  · cases written

section
variable {table after : Table} {bucket : BucketKey} {limit now length : Nat}

/-- An upsert is an attempt on the window of its bucket. -/
theorem upsert_written (upserted : upsert table bucket limit now (now + length) = .ok (some after)) :
    apply limit length (table.window bucket) (.spend now) = (after.window bucket, true) ∧
      ∀ other ≠ bucket, after.lookup other = table.lookup other := by
  have of_write : ∀ row, (some <$> table.write bucket row : Except Refusal (Option Table)) = .ok (some after) →
      after.window bucket = some ⟨row.attempt_count, row.expires_at⟩ ∧ ∀ other ≠ bucket, after.lookup other = table.lookup other := by
    intro row written
    cases is : table.write bucket row with
    | error refusal =>
      rw [is] at written
      cases written
    | ok result =>
      rw [is] at written
      cases written
      rw [write_ok is]
      refine ⟨?_, fun other apart => AList.lookup_insert_ne apart⟩
      rw [Table.window, AList.lookup_insert]
      rfl
  unfold upsert at upserted
  unfold Table.window
  cases stored : table.lookup bucket with
  | none =>
    rw [stored] at upserted
    obtain ⟨left, others⟩ := of_write _ upserted
    exact ⟨Prod.ext left.symm rfl, others⟩
  | some row =>
    rw [stored] at upserted
    simp only at upserted
    by_cases ended : row.expires_at ≤ now
    · rw [if_pos ended] at upserted
      obtain ⟨left, others⟩ := of_write _ upserted
      exact ⟨(if_pos ended).trans (Prod.ext left.symm rfl), others⟩
    · rw [if_neg ended] at upserted
      by_cases room : row.attempt_count < limit
      · rw [if_pos room] at upserted
        obtain ⟨left, others⟩ := of_write _ upserted
        exact ⟨(if_neg ended).trans ((if_pos room).trans (Prod.ext left.symm rfl)), others⟩
      · rw [if_neg room] at upserted
        cases upserted

theorem upsert_refused (upserted : upsert table bucket limit now (now + length) = .ok none) :
    apply limit length (table.window bucket) (.spend now) = (table.window bucket, false) ∧
      ∃ row, table.lookup bucket = some row ∧ now < row.expires_at := by
  have never : ∀ row, (some <$> table.write bucket row : Except Refusal (Option Table)) ≠ .ok none := by
    intro row written
    cases is : table.write bucket row with
    | error refusal =>
      rw [is] at written
      cases written
    | ok result =>
      rw [is] at written
      cases written
  unfold upsert at upserted
  unfold Table.window
  cases stored : table.lookup bucket with
  | none =>
    rw [stored] at upserted
    exact absurd upserted (never _)
  | some row =>
    rw [stored] at upserted
    simp only at upserted
    by_cases ended : row.expires_at ≤ now
    · rw [if_pos ended] at upserted
      exact absurd upserted (never _)
    · rw [if_neg ended] at upserted
      by_cases room : row.attempt_count < limit
      · rw [if_pos room] at upserted
        exact absurd upserted (never _)
      · exact ⟨(if_neg ended).trans (if_neg room), row, rfl, Nat.not_le.mp ended⟩

end

/-- What a bucket that is consulted leaves, and what it decides. -/
structure Consumed (table : Table) (bucket : BucketKey) (rule : RateLimitRule) (now : Nat) (after : Table) (decision : RateLimitDecision) :
    Prop where
  spent : apply rule.limit rule.length (table.window bucket) (.spend now) = (after.window bucket, decision.allowed)
  others : ∀ other ≠ bucket, after.lookup other = table.lookup other
  denied : decision.allowed = false → after = table ∧ ∃ row, table.lookup bucket = some row ∧ now < row.expires_at ∧
    decision.retry_after_seconds = retry_after row.expires_at now rule.window

section
variable {hmac : Hmac} {plan : RateLimitPlan} {table after : Table}

theorem consume_ok {subject : RateLimitSubject} {rule : RateLimitRule} {key : RateLimitKey} {now : Nat} {decision : RateLimitDecision}
    (consumed : consume hmac plan table subject rule key now = .ok (after, decision)) :
    Consumed table (bucket_of hmac plan subject key) rule now after decision := by
  unfold consume at consumed
  obtain ⟨expires_at, added, consumed⟩ := bind_eq_ok.mp consumed
  have moment : expires_at = now + rule.length := by
    unfold add at added
    split at added
    · exact (Except.ok.inj added).symm
    · cases added
  subst moment
  obtain ⟨result, upserted, consumed⟩ := bind_eq_ok.mp consumed
  cases result with
  | some written =>
    cases consumed
    obtain ⟨spent, others⟩ := upsert_written upserted
    exact ⟨spent, others, fun never => Bool.noConfusion never⟩
  | none =>
    obtain ⟨spent, row, stored, running⟩ := upsert_refused upserted
    simp only [stored] at consumed
    cases consumed
    exact ⟨spent, fun _ _ => rfl, fun _ => ⟨rfl, row, stored, running, rfl⟩⟩

theorem lookup_delete (table : Table) (cutoff : Nat) (ids : List Nat) (bucket : BucketKey) :
    (table.delete cutoff ids).lookup bucket = table.lookup bucket ∨
      ((table.delete cutoff ids).lookup bucket = none ∧ ∃ row, table.lookup bucket = some row ∧ row.expires_at ≤ cutoff) := by
  have kept : ∀ row, row ∈ (table.delete cutoff ids).lookup bucket ↔
      row ∈ table.lookup bucket ∧ ¬(row.expires_at ≤ cutoff ∧ row.id ∈ ids) := by
    intro row
    refine (List.mem_dlookup_iff (table.delete cutoff ids).nodupKeys).trans ?_
    refine Iff.trans ?_ (and_congr_left' (List.mem_dlookup_iff table.nodupKeys).symm)
    exact List.mem_filter.trans (and_congr_right' decide_eq_true_iff)
  cases stored : table.lookup bucket with
  | none =>
    refine Or.inl (Option.eq_none_iff_forall_not_mem.mpr fun row member => ?_)
    have before := ((kept row).mp member).1
    rw [stored] at before
    cases before
  | some row =>
    by_cases gone : row.expires_at ≤ cutoff ∧ row.id ∈ ids
    · refine Or.inr ⟨Option.eq_none_iff_forall_not_mem.mpr fun other member => ?_, row, rfl, gone.1⟩
      obtain ⟨before, stays⟩ := (kept other).mp member
      rw [stored] at before
      cases before
      exact stays gone
    · exact Or.inl ((kept row).mpr ⟨stored, gone⟩)

/-- A purge forgets windows that have ended. -/
theorem purge_ok {before limit : Nat} {locked : List Nat} (purged : purge table before limit locked = .ok after) (bucket : BucketKey) :
    after.lookup bucket = table.lookup bucket ∨
      (after.lookup bucket = none ∧ ∃ row, table.lookup bucket = some row ∧ row.expires_at ≤ before) := by
  unfold purge at purged
  split at purged
  · cases purged
    exact lookup_delete _ _ _ _
  · cases purged

/-- A call that is committed: the global bucket denies it, or the bucket of the
    subject decides, after a purge. -/
inductive Enforced (hmac : Hmac) (plan : RateLimitPlan) (table : Table) (call : Attempt) : Table → Consulted → Prop
  | denied (decision : RateLimitDecision) : decision.allowed = false →
      Consumed table (bucket_of hmac plan GLOBAL_SUBJECT call.key) plan.global_rule call.now table decision →
      Enforced hmac plan table call table ⟨⟨bucket_of hmac plan GLOBAL_SUBJECT call.key, plan.global_rule, decision⟩, none⟩
  | decided (spent purged after : Table) (first second : RateLimitDecision) : first.allowed = true → call.subject.scope ≠ .global →
      Consumed table (bucket_of hmac plan GLOBAL_SUBJECT call.key) plan.global_rule call.now spent first →
      purge spent call.now DEFAULT_CLEANUP_LIMIT call.locked = .ok purged →
      Consumed purged (bucket_of hmac plan call.subject call.key) plan.subject_rule call.now after second →
      Enforced hmac plan table call after ⟨⟨bucket_of hmac plan GLOBAL_SUBJECT call.key, plan.global_rule, first⟩,
        some ⟨bucket_of hmac plan call.subject call.key, plan.subject_rule, second⟩⟩

theorem enforce_ok {call : Attempt} {consulted : Consulted} (enforced : enforce hmac plan table call = .ok (after, consulted)) :
    Enforced hmac plan table call after consulted := by
  unfold enforce at enforced
  by_cases anyone : call.subject.scope = .global
  · rw [if_pos anyone] at enforced
    cases enforced
  rw [if_neg anyone] at enforced
  obtain ⟨⟨spent, first⟩, consumed, enforced⟩ := bind_eq_ok.mp enforced
  have at_global := consume_ok consumed
  simp only at enforced
  by_cases refused : first.allowed = false
  · rw [if_pos refused] at enforced
    cases enforced
    obtain ⟨rfl, _⟩ := at_global.denied refused
    exact .denied first refused at_global
  · rw [if_neg refused] at enforced
    obtain ⟨purged, purges, enforced⟩ := bind_eq_ok.mp enforced
    obtain ⟨⟨last, second⟩, consumed', enforced⟩ := bind_eq_ok.mp enforced
    cases enforced
    exact .decided spent purged last first second (Bool.not_eq_false _ ▸ refused) anyone at_global purges (consume_ok consumed')

end

/-! ### The moves of a transaction -/

/-- Moves at one moment take the window of a bucket from one table to another,
    and allow some attempts. -/
def Moved (rule : RateLimitRule) (bucket : BucketKey) (now : Nat) (table after : Table) (count : Nat) : Prop :=
  ∃ moves : List Move, (∀ move ∈ moves, move.now = now) ∧
    apply_all rule.limit rule.length (table.window bucket) moves = (after.window bucket, count)

section
variable {rule : RateLimitRule} {bucket : BucketKey} {now : Nat} {table middle after : Table}

theorem Moved.same (unchanged : after.lookup bucket = table.lookup bucket) : Moved rule bucket now table after 0 := by
  refine ⟨[], fun _ member => (List.not_mem_nil member).elim, ?_⟩
  rw [apply_all, window_of_lookup unchanged]

theorem Moved.one {move : Move} {allowed : Bool} (at_now : move.now = now)
    (moved : apply rule.limit rule.length (table.window bucket) move = (after.window bucket, allowed)) :
    Moved rule bucket now table after allowed.toNat := by
  refine ⟨[move], fun other member => ?_, ?_⟩
  · rw [List.mem_singleton.mp member]
    exact at_now
  · rw [apply_all_single, moved]

theorem Moved.trans {first second : Nat} (before : Moved rule bucket now table middle first) (next : Moved rule bucket now middle after second) :
    Moved rule bucket now table after (first + second) := by
  obtain ⟨moves, at_now, moved⟩ := before
  obtain ⟨moves', at_now', moved'⟩ := next
  refine ⟨moves ++ moves', fun move member => ?_, ?_⟩
  · exact (List.mem_append.mp member).elim (at_now move) (at_now' move)
  · rw [apply_all_append, moved]
    simp only [moved']

theorem purge_moved {limit : Nat} {locked : List Nat} (purged : purge table now limit locked = .ok after) :
    Moved rule bucket now table after 0 := by
  rcases purge_ok purged bucket with same | ⟨gone, row, stored, ended⟩
  · exact Moved.same same
  · refine (?_ : Moved rule bucket now table after false.toNat)
    refine Moved.one (rfl : (Move.forget now).now = now) ?_
    rw [Table.window, Table.window, stored, gone]
    exact Prod.ext (if_pos ended) rfl

theorem consumed_moved {own : BucketKey} {by_rule : RateLimitRule} {decision : RateLimitDecision}
    (consumed : Consumed table own by_rule now after decision) (ruled : own = bucket → rule = by_rule) :
    Moved rule bucket now table after (if own = bucket ∧ decision.allowed = true then 1 else 0) := by
  by_cases here : own = bucket
  · subst here
    have moved := Moved.one (rfl : (Move.spend now).now = now) (ruled rfl ▸ consumed.spent)
    cases is : decision.allowed with
    | true =>
      rw [is] at moved
      rw [if_pos ⟨rfl, rfl⟩]
      exact moved
    | false =>
      rw [is] at moved
      rw [if_neg fun both => Bool.noConfusion both.2]
      exact moved
  · rw [if_neg fun both => here both.1]
    exact Moved.same (consumed.others bucket (Ne.symm here))

end

section
variable (hmac : Hmac) (plan : RateLimitPlan)

/-- The rule by which a transaction consults a bucket. -/
def Ruled (rule : RateLimitRule) (bucket : BucketKey) (one : Step) : Prop :=
  ∀ call, one = .attempt call → (bucket_of hmac plan GLOBAL_SUBJECT call.key = bucket → rule = plan.global_rule) ∧
    (call.subject.scope ≠ .global → bucket_of hmac plan call.subject call.key = bucket → rule = plan.subject_rule)

variable {hmac plan} {rule : RateLimitRule} {bucket : BucketKey}

theorem step_moved (table : Table) {one : Step} (ruled : Ruled hmac plan rule bucket one) :
    Moved rule bucket one.now table (step hmac plan table one) (allowed hmac plan table bucket one) := by
  cases one with
  | purge before limit locked =>
    cases purged : purge table before limit locked with
    | error refusal =>
      simp only [step, purged]
      exact Moved.same rfl
    | ok after =>
      simp only [step, purged]
      exact purge_moved purged
  | attempt call =>
    obtain ⟨at_global, at_subject⟩ := ruled call rfl
    cases enforced : enforce hmac plan table call with
    | error refusal =>
      simp only [step, allowed, consultations, enforced]
      exact Moved.same rfl
    | ok result =>
      obtain ⟨after, consulted⟩ := result
      simp only [step, allowed, consultations, enforced]
      cases enforce_ok enforced with
      | denied decision refused consumed =>
        have moved := consumed_moved consumed at_global
        show Moved _ _ _ _ _ (List.countP _ [_])
        rw [List.countP_cons, List.countP_nil, Nat.zero_add]
        simp only [decide_eq_true_eq]
        exact moved
      | decided spent purged _ first second passed other consumed purges consumed' =>
        have moved := ((consumed_moved consumed at_global).trans (purge_moved purges)).trans (consumed_moved consumed' (at_subject other))
        show Moved _ _ _ _ _ (List.countP _ [_, _])
        rw [List.countP_cons, List.countP_cons, List.countP_nil]
        simp only [decide_eq_true_eq]
        rw [Nat.zero_add, Nat.add_comm]
        exact moved

/-! ### Runs -/

theorem allowed_within {table : Table} {steps : List Step} {window : Window} (stored : table.window bucket = some window)
    (within : window.count ≤ rule.limit) (ruled : ∀ one ∈ steps, Ruled hmac plan rule bucket one)
    (alive : ∀ one ∈ steps, one.now < window.expiry) :
    window.count + allowed_in hmac plan table bucket steps ≤ rule.limit := by
  induction steps generalizing table window with
  | nil => exact within
  | cons one steps ih =>
    obtain ⟨moves, at_now, moved⟩ := step_moved table (ruled one List.mem_cons_self)
    have live : ∀ move ∈ moves, move.now < window.expiry := fun move member => at_now move member ▸ alive one List.mem_cons_self
    have counted := apply_all_live rule.length live within
    rw [stored] at moved
    rw [moved] at counted
    rw [allowed_in, ← Nat.add_assoc]
    exact ih counted.1 counted.2
      (fun other member => ruled other (List.mem_cons_of_mem _ member)) (fun other member => alive other (List.mem_cons_of_mem _ member))

/-- Clocks that do not go back. -/
def Ordered (steps : List Step) : Prop := (steps.map Step.now).Pairwise (· ≤ ·)

theorem run_bounded {table : Table} {steps : List Step} {clock : Nat} (bounded : Bounded rule.length clock (table.window bucket))
    (ruled : ∀ one ∈ steps, Ruled hmac plan rule bucket one) (ordered : Ordered steps) (later : ∀ one ∈ steps, clock ≤ one.now)
    {now : Nat} (last : ∀ one ∈ steps, one.now ≤ now) (here : clock ≤ now) :
    Bounded rule.length now ((run hmac plan table steps).window bucket) := by
  induction steps generalizing table clock with
  | nil => exact fun window member => (bounded window member).trans (Nat.add_le_add_right here _)
  | cons one steps ih =>
    obtain ⟨moves, at_now, moved⟩ := step_moved table (ruled one List.mem_cons_self)
    have next := apply_all_bounded rule.limit bounded (later one List.mem_cons_self) at_now
    rw [moved] at next
    obtain ⟨after, rest⟩ := List.pairwise_cons.mp ordered
    exact ih next (fun other member => ruled other (List.mem_cons_of_mem _ member)) rest
      (fun other member => after _ (List.mem_map_of_mem member)) (fun other member => last other (List.mem_cons_of_mem _ member))
      (last one List.mem_cons_self)

/-! ### The buckets of a run -/

/-- Scopes are told apart by their first letters. -/
theorem scope_letter {one other : RateLimitScope} (same : (encode_ascii one.value).head? = (encode_ascii other.value).head?) : one = other := by
  revert same
  cases one <;> cases other <;> decide

/-- What is digested says the scope of its subject. -/
theorem material_scope {action : RateLimitedAction} {one other : RateLimitSubject} (same : material action one = material action other) :
    one.scope = other.scope := by
  have first : ∀ (scope : RateLimitScope) (rest : Bytes), (encode_ascii scope.value ++ rest).head? = (encode_ascii scope.value).head? := by
    intro scope rest
    cases scope <;> rfl
  unfold material at same
  simp only [List.append_assoc] at same
  have rest := List.append_cancel_left (List.append_cancel_left (List.append_cancel_left same))
  have letters := congrArg List.head? rest
  rw [first, first] at letters
  exact scope_letter letters

theorem attempt_hashed {steps : List Step} {call : Attempt} (member : .attempt call ∈ steps) :
    (call.key.material, material plan.action GLOBAL_SUBJECT) ∈ hashed plan steps ∧
      (call.key.material, material plan.action call.subject) ∈ hashed plan steps :=
  ⟨List.mem_flatMap.mpr ⟨_, member, List.mem_cons_self⟩, List.mem_flatMap.mpr ⟨_, member, List.mem_cons_of_mem _ List.mem_cons_self⟩⟩

/-- The bucket of a subject is not a global one. -/
theorem buckets_apart {steps : List Step} (free : CollisionFree hmac plan steps) {call other : Attempt} (member : .attempt call ∈ steps)
    (member' : .attempt other ∈ steps) (named : other.subject.scope ≠ .global) :
    bucket_of hmac plan GLOBAL_SUBJECT call.key ≠ bucket_of hmac plan other.subject other.key := by
  intro same
  have digests := free _ (attempt_hashed member).1 _ (attempt_hashed member').2 (Prod.mk.inj same).2
  exact named (material_scope digests).symm

/-- Which buckets a call consults. -/
theorem consulted_cases {table : Table} {call : Attempt} {one : Consultation} (consulted : one ∈ consultations hmac plan table (.attempt call)) :
    (one.bucket = bucket_of hmac plan GLOBAL_SUBJECT call.key ∧ one.rule = plan.global_rule) ∨
      (one.bucket = bucket_of hmac plan call.subject call.key ∧ one.rule = plan.subject_rule ∧ call.subject.scope ≠ .global) := by
  unfold consultations at consulted
  cases enforced : enforce hmac plan table call with
  | error refusal =>
    simp only [enforced] at consulted
    exact absurd consulted List.not_mem_nil
  | ok result =>
    obtain ⟨after, both⟩ := result
    simp only [enforced] at consulted
    cases enforce_ok enforced with
    | denied decision refused consumed =>
      rw [List.mem_singleton.mp consulted]
      exact Or.inl ⟨rfl, rfl⟩
    | decided spent purged _ first second passed other consumed purges consumed' =>
      rcases List.mem_cons.mp consulted with rfl | consulted
      · exact Or.inl ⟨rfl, rfl⟩
      · rw [List.mem_singleton.mp consulted]
        exact Or.inr ⟨rfl, rfl, other⟩

theorem consulted_ruled {steps : List Step} (free : CollisionFree hmac plan steps) {table : Table} {call : Attempt} (member : .attempt call ∈ steps)
    {one : Consultation} (consulted : one ∈ consultations hmac plan table (.attempt call)) :
    ∀ step ∈ steps, Ruled hmac plan one.rule one.bucket step := by
  rintro _ inside other rfl
  rcases consulted_cases consulted with ⟨named, rule⟩ | ⟨named, rule, personal⟩
  · refine ⟨fun _ => rule, fun personal same => ?_⟩
    exact absurd (named.symm.trans same.symm) (buckets_apart free member inside personal)
  · refine ⟨fun same => ?_, fun _ _ => rule⟩
    exact absurd (same.trans named) (buckets_apart free inside member personal)

/-- No row that a bucket has runs any more. -/
def Ended (table : Table) (bucket : BucketKey) (now : Nat) : Prop := ∀ row ∈ table.lookup bucket, row.expires_at ≤ now

theorem Ended.window {table : Table} {bucket : BucketKey} {now : Nat} (ended : Ended table bucket now) :
    ∀ one ∈ table.window bucket, one.expiry ≤ now := by
  intro one member
  obtain ⟨row, stored, rfl⟩ := Option.map_eq_some_iff.mp member
  exact ended row stored

theorem Ended.purged {table after : Table} {now limit : Nat} {locked : List Nat} {bucket : BucketKey} (ended : Ended table bucket now)
    {before : Nat} (purges : purge table before limit locked = .ok after) : Ended after bucket now := by
  intro row member
  rcases purge_ok purges bucket with same | ⟨gone, _⟩
  · exact ended row (same ▸ member)
  · rw [gone] at member
    cases member

/-- The first attempt on a bucket that does not run opens it. -/
theorem ended_opens {table : Table} {call : Attempt}
    (apart : call.subject.scope ≠ .global → bucket_of hmac plan GLOBAL_SUBJECT call.key ≠ bucket_of hmac plan call.subject call.key)
    {one : Consultation} (consulted : one ∈ consultations hmac plan table (.attempt call)) (ended : Ended table one.bucket call.now) :
    one.decision.allowed = true ∧ (step hmac plan table (.attempt call)).window one.bucket = some ⟨1, call.now + one.rule.length⟩ ∧
      allowed hmac plan table one.bucket (.attempt call) = 1 := by
  unfold allowed
  unfold consultations at consulted ⊢
  unfold step
  cases enforced : enforce hmac plan table call with
  | error refusal =>
    simp only [enforced] at consulted
    exact absurd consulted List.not_mem_nil
  | ok result =>
    obtain ⟨after, both⟩ := result
    simp only [enforced] at consulted ⊢
    cases enforce_ok enforced with
    | denied decision refused consumed =>
      rw [List.mem_singleton.mp consulted] at ended
      have opened := consumed.spent.symm.trans (apply_opens ended.window)
      exact Bool.noConfusion (refused.symm.trans (Prod.mk.inj opened).2)
    | decided spent purged _ first second passed other consumed purges consumed' =>
      have distinct := apart other
      show _ ∧ _ ∧ List.countP _ [_, _] = 1
      rw [List.countP_cons, List.countP_cons, List.countP_nil]
      simp only [decide_eq_true_eq, Nat.zero_add]
      rcases List.mem_cons.mp consulted with rfl | consulted
      · have opened := consumed.spent.symm.trans (apply_opens ended.window)
        refine ⟨passed, ?_, ?_⟩
        · rw [window_of_lookup (consumed'.others _ distinct)]
          rcases purge_ok purges (bucket_of hmac plan GLOBAL_SUBJECT call.key) with same | ⟨_, row, stored, gone⟩
          · rw [window_of_lookup same]
            exact (Prod.mk.inj opened).1
          · have left := (Prod.mk.inj opened).1
            rw [Table.window, stored] at left
            have expiry := congrArg Window.expiry (Option.some.inj left)
            have long := plan.global_rule.bounded.1
            simp only [RateLimitRule.length] at expiry
            omega
        · rw [if_neg fun both => distinct both.1.symm, if_pos ⟨rfl, passed⟩]
      · have is := List.mem_singleton.mp consulted
        subst is
        have before : Ended spent (bucket_of hmac plan call.subject call.key) call.now := by
          intro row member
          rw [consumed.others _ (Ne.symm distinct)] at member
          exact ended row member
        have opened := consumed'.spent.symm.trans (apply_opens (before.purged purges).window)
        have passed' := (Prod.mk.inj opened).2
        exact ⟨passed', (Prod.mk.inj opened).1, by rw [if_pos ⟨rfl, passed'⟩, if_neg fun both => distinct both.1]⟩

/-- A bucket that denies an attempt runs, and is left as it is. -/
theorem denied_kept {table : Table} {call : Attempt}
    (apart : call.subject.scope ≠ .global → bucket_of hmac plan GLOBAL_SUBJECT call.key ≠ bucket_of hmac plan call.subject call.key)
    {one : Consultation} (consulted : one ∈ consultations hmac plan table (.attempt call)) (denied : one.decision.allowed = false) :
    (step hmac plan table (.attempt call)).lookup one.bucket = table.lookup one.bucket ∧
      (one.bucket = bucket_of hmac plan GLOBAL_SUBJECT call.key → step hmac plan table (.attempt call) = table) ∧
      ∃ row, table.lookup one.bucket = some row ∧ call.now < row.expires_at ∧
        one.decision.retry_after_seconds = retry_after row.expires_at call.now one.rule.window := by
  unfold consultations at consulted
  unfold step
  cases enforced : enforce hmac plan table call with
  | error refusal =>
    simp only [enforced] at consulted
    exact absurd consulted List.not_mem_nil
  | ok result =>
    obtain ⟨after, both⟩ := result
    simp only [enforced] at consulted ⊢
    cases enforce_ok enforced with
    | denied decision refused consumed =>
      have is := List.mem_singleton.mp consulted
      subst is
      exact ⟨rfl, fun _ => rfl, (consumed.denied refused).2⟩
    | decided spent purged _ first second passed other consumed purges consumed' =>
      rcases List.mem_cons.mp consulted with rfl | consulted
      · exact Bool.noConfusion (passed.symm.trans denied)
      · have is := List.mem_singleton.mp consulted
        subst is
        have distinct := apart other
        obtain ⟨left, row, stored, running, retry⟩ := consumed'.denied denied
        have unpurged : purged.lookup (bucket_of hmac plan call.subject call.key) = spent.lookup (bucket_of hmac plan call.subject call.key) := by
          rcases purge_ok purges (bucket_of hmac plan call.subject call.key) with same | ⟨gone, _⟩
          · exact same
          · rw [gone] at stored
            cases stored
        have same := unpurged.trans (consumed.others _ (Ne.symm distinct))
        refine ⟨left ▸ same, fun is => absurd is.symm distinct, row, same ▸ stored, running, retry⟩

/-! ### The promises -/

/-- What is promised of a consultation in a run, by the steps around it. -/
structure Promised (hmac : Hmac) (plan : RateLimitPlan) (table : Table) (before : List Step) (call : Attempt) (after : List Step)
    (one : Consultation) : Prop where
  /-- An attempt that finds no running bucket opens it, and the bucket allows a limit of attempts until it expires. -/
  bounded : Ended (run hmac plan table before) one.bucket call.now →
    ∃ row, (run hmac plan table (before ++ [.attempt call])).lookup one.bucket = some row ∧ row.attempt_count = 1 ∧
      row.expires_at = call.now + one.rule.length ∧
      ∀ during rest, after = during ++ rest → (∀ step ∈ during, step.now < row.expires_at) →
        allowed_in hmac plan (run hmac plan table before) one.bucket (.attempt call :: during) ≤ one.rule.limit
  /-- A bucket that denies an attempt is left as it is. -/
  kept : one.decision.allowed = false →
    (run hmac plan table (before ++ [.attempt call])).lookup one.bucket = (run hmac plan table before).lookup one.bucket
  /-- An attempt that the global bucket denies changes no bucket. -/
  global_kept : one.decision.allowed = false → one.bucket = bucket_of hmac plan GLOBAL_SUBJECT call.key →
    run hmac plan table (before ++ [.attempt call]) = run hmac plan table before
  within : one.decision.allowed = false → 1 ≤ one.decision.retry_after_seconds ∧ one.decision.retry_after_seconds ≤ one.rule.window
  /-- A retry that much later is not denied by the same bucket. -/
  retried : one.decision.allowed = false → ∀ purges again rest, after = purges ++ .attempt again :: rest →
    (∀ step ∈ purges, ∃ cutoff limit locked, step = .purge cutoff limit locked) →
    call.now + one.decision.retry_after_seconds * 1000000 ≤ again.now →
    ∀ later ∈ consultations hmac plan (run hmac plan table (before ++ .attempt call :: purges)) (.attempt again),
      later.bucket = one.bucket → later.decision.allowed = true

theorem run_append (table : Table) (first second : List Step) :
    run hmac plan table (first ++ second) = run hmac plan (run hmac plan table first) second := List.foldl_append

theorem retry_within {expires_at now : Nat} (rule : RateLimitRule) :
    1 ≤ retry_after expires_at now rule.window ∧ retry_after expires_at now rule.window ≤ rule.window := by
  have long := rule.bounded.1
  unfold retry_after
  omega

theorem retry_ends {expires_at now : Nat} {rule : RateLimitRule} (bounded : expires_at ≤ now + rule.length) :
    expires_at ≤ now + retry_after expires_at now rule.window * 1000000 := by
  obtain ⟨remaining, is⟩ : ∃ remaining, remaining = (expires_at - now + 999999) / 1000000 := ⟨_, rfl⟩
  have rounded : expires_at - now ≤ remaining * 1000000 ∧ remaining ≤ rule.window := by
    unfold RateLimitRule.length at bounded
    omega
  have kept : remaining ≤ retry_after expires_at now rule.window := by
    rw [retry_after, ← is, Nat.min_eq_left rounded.2]
    exact Nat.le_max_right _ _
  have seconds := Nat.mul_le_mul_right 1000000 kept
  omega

theorem purges_ended {table : Table} {purges : List Step} {bucket : BucketKey} {now : Nat}
    (only : ∀ one ∈ purges, ∃ cutoff limit locked, one = Step.purge cutoff limit locked) (ended : Ended table bucket now) :
    Ended (run hmac plan table purges) bucket now := by
  induction purges generalizing table with
  | nil => exact ended
  | cons one purges ih =>
    refine ih (fun other member => only other (List.mem_cons_of_mem _ member)) ?_
    obtain ⟨cutoff, limit, locked, rfl⟩ := only one List.mem_cons_self
    cases purged : purge table cutoff limit locked with
    | error refusal =>
      simp only [step, purged]
      exact ended
    | ok after =>
      simp only [step, purged]
      exact ended.purged purged

/-- Every consultation of a run keeps what is promised. -/
theorem rate_limit_bound (hmac : Hmac) (plan : RateLimitPlan) (table : Table) (steps : List Step)
    (fresh : ∀ digest, table.lookup (plan.action, digest) = none) (ordered : Ordered steps) (free : CollisionFree hmac plan steps)
    (before after : List Step) (call : Attempt) (split : steps = before ++ .attempt call :: after)
    (one : Consultation) (consulted : one ∈ consultations hmac plan (run hmac plan table before) (.attempt call)) :
    Promised hmac plan table before call after one := by
  have member : .attempt call ∈ steps := split ▸ List.mem_append_right _ List.mem_cons_self
  have ruled := consulted_ruled free member consulted
  have apart : ∀ other, .attempt other ∈ steps → other.subject.scope ≠ .global →
      bucket_of hmac plan GLOBAL_SUBJECT other.key ≠ bucket_of hmac plan other.subject other.key :=
    fun other inside personal => buckets_apart free inside inside personal
  have one_step : run hmac plan table (before ++ [.attempt call]) = step hmac plan (run hmac plan table before) (.attempt call) := by
    rw [run_append]
    rfl
  -- a running bucket ends within its window, since it was opened before
  have bounded : ∀ row ∈ (run hmac plan table before).lookup one.bucket, row.expires_at ≤ call.now + one.rule.length := by
    intro row stored
    have none_yet : table.window one.bucket = none := by
      have action : one.bucket = (plan.action, one.bucket.2) := by
        rcases consulted_cases consulted with ⟨named, _⟩ | ⟨named, _⟩
        · rw [named]
          rfl
        · rw [named]
          rfl
      rw [Table.window, action, fresh]
      rfl
    have first : Bounded one.rule.length 0 (table.window one.bucket) := by
      rw [none_yet]
      rintro _ ⟨⟩
    rw [split, Ordered, List.map_append, List.pairwise_append] at ordered
    have clocks : Bounded one.rule.length call.now ((run hmac plan table before).window one.bucket) := run_bounded first
      (fun other inside => ruled other (split ▸ List.mem_append_left _ inside)) ordered.1 (fun _ _ => Nat.zero_le _)
      (fun other inside => ordered.2.2 _ (List.mem_map_of_mem inside) _ List.mem_cons_self) (Nat.zero_le _)
    exact clocks ⟨row.attempt_count, row.expires_at⟩ (Option.mem_map.mpr ⟨row, stored, rfl⟩)
  constructor
  · intro ended
    obtain ⟨_, opened, counted⟩ := ended_opens (apart call member) consulted ended
    rw [← one_step] at opened
    obtain ⟨row, stored, is⟩ := Option.map_eq_some_iff.mp opened
    obtain ⟨count, expiry⟩ := Window.mk.inj is
    refine ⟨row, stored, count, expiry, ?_⟩
    intro during rest here alive
    rw [one_step] at opened
    have limited := one.rule.limited.1
    rw [allowed_in, counted]
    refine allowed_within opened limited (fun other inside => ruled other ?_) fun other inside => expiry ▸ alive other inside
    rw [split, here]
    exact List.mem_append_right _ (List.mem_cons_of_mem _ (List.mem_append_left _ inside))
  · intro denied
    rw [one_step]
    exact (denied_kept (apart call member) consulted denied).1
  · intro denied global
    rw [one_step]
    exact (denied_kept (apart call member) consulted denied).2.1 global
  · intro denied
    obtain ⟨_, _, row, _, _, retry⟩ := denied_kept (apart call member) consulted denied
    rw [retry]
    exact retry_within _
  · intro denied purges again rest here only later_enough later inside same
    obtain ⟨kept, _, row, stored, _, retry⟩ := denied_kept (apart call member) consulted denied
    have there : .attempt again ∈ steps := by
      rw [split, here]
      exact List.mem_append_right _ (List.mem_cons_of_mem _ (List.mem_append_right _ List.mem_cons_self))
    refine (ended_opens (apart again there) inside ?_).1
    rw [same, run_append]
    have attempted : Ended (step hmac plan (run hmac plan table before) (.attempt call)) one.bucket again.now := by
      intro other found
      rw [kept, stored] at found
      cases found
      rw [retry] at later_enough
      exact (retry_ends (bounded row stored)).trans later_enough
    have ended : Ended (run hmac plan (step hmac plan (run hmac plan table before) (.attempt call)) purges) one.bucket again.now :=
      purges_ended only attempted
    exact ended

end

/-- Digests of the buckets of one client's logins. -/
def login_hmac : Hmac where
  hexdigest _ message :=
    if message = material .oidc_login GLOBAL_SUBJECT then "47a70db440616a9c29aece083c639fdce8fcff58c48e7a7f2acc26fe4b4d2293".toList
    else "070ff95aa53987a194744e7257fb8bf30bcec654d4d3607cd5103aa36db448d1".toList
  length _ message := by
    split
    · decide
    · decide

def login_key : RateLimitKey := ⟨List.replicate 32 0, by decide⟩
def login_client : RateLimitSubject := ⟨.client, "10.0.0.1".toList, by decide⟩

/-- One login in a minute for each client. -/
def login_plan : RateLimitPlan := ⟨.oidc_login, ⟨512, 600, by decide, by decide⟩, ⟨1, 60, by decide, by decide⟩⟩

/-- Two logins, half a minute apart. -/
def login_again : Attempt := { key := login_key, subject := login_client, now := 30500000 }
def logins : List Step := [.attempt { key := login_key, subject := login_client, now := 0 }]

theorem rate_limit_bound_logins : ∃ one ∈ consultations login_hmac login_plan (run login_hmac login_plan ∅ logins) (.attempt login_again),
    one.decision = ⟨false, 30⟩ ∧ Promised login_hmac login_plan ∅ logins login_again [] one := by
  have denied : ∃ one ∈ consultations login_hmac login_plan (run login_hmac login_plan ∅ logins) (.attempt login_again),
      one.decision = ⟨false, 30⟩ := by decide +kernel
  obtain ⟨one, consulted, decides⟩ := denied
  have free : CollisionFree login_hmac login_plan (logins ++ [.attempt login_again]) := by
    unfold CollisionFree
    decide +kernel
  refine ⟨one, consulted, decides, ?_⟩
  exact rate_limit_bound login_hmac login_plan ∅ (logins ++ [.attempt login_again]) (fun _ => rfl) (by unfold Ordered; decide) free
    logins [] login_again rfl one consulted

end RedDock.RateLimits
