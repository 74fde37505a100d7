import Mathlib

/-!
# Ledgers

A log of entries, some of which say what a key has from then on. The ledger of
a log is what its last entry of each key says.
-/
set_option autoImplicit false
namespace RedDock.Ledgers
universe u v w
variable {Entry : Type u} {Key : Type v} {Value : Type w} [DecidableEq Key] (reads : Entry → Option (Key × Value))

/-- What each key has after one more entry. -/
def post (table : Key → Option Value) (entry : Entry) : Key → Option Value :=
  (reads entry).elim table fun said => Function.update table said.1 (some said.2)

def ledger (log : List Entry) : Key → Option Value := log.foldl (post reads) fun _ => none

variable {reads}

theorem ledger_append (log block : List Entry) : ledger reads (log ++ block) = block.foldl (post reads) (ledger reads log) :=
  List.foldl_append

/-- Entries that say nothing change nothing. -/
theorem ledger_silent {log block : List Entry} (silent : ∀ entry ∈ block, reads entry = none) :
    ledger reads (log ++ block) = ledger reads log := by
  rw [ledger_append]
  induction block with
  | nil => rfl
  | cons entry block ih =>
    rw [List.foldl_cons, post, silent entry List.mem_cons_self, Option.elim_none]
    exact ih fun other member => silent other (List.mem_cons_of_mem _ member)

theorem ledger_entry {log : List Entry} {entry : Entry} {key : Key} {value : Value} (said : reads entry = some (key, value)) :
    ledger reads (log ++ [entry]) = Function.update (ledger reads log) key (some value) := by
  rw [ledger_append, List.foldl_cons, List.foldl_nil, post, said, Option.elim_some]

/-- What is said of one key depends on what was said of it. -/
theorem post_at (table : Key → Option Value) (entry : Entry) (key : Key) :
    post reads table entry key = ((reads entry).filter fun said => decide (said.1 = key)).elim (table key) fun said => some said.2 := by
  rw [post]
  cases tells : reads entry with
  | none => rfl
  | some said =>
    by_cases here : said.1 = key
    · simp [here, Option.filter]
    · simp [here, Option.filter, Function.update_of_ne (Ne.symm here)]

/-- The entries about a key say of it what the whole log says. -/
theorem ledger_filter {p : Entry → Bool} {key : Key} {log : List Entry}
    (about : ∀ entry ∈ log, ∀ value, reads entry = some (key, value) → p entry = true) :
    ledger reads (log.filter p) key = ledger reads log key := by
  induction log using List.reverseRecOn with
  | nil => rfl
  | append_singleton log entry ih =>
    have before := ih fun other listed => about other (List.mem_append_left _ listed)
    rw [List.filter_append, ledger_append log [entry], List.foldl_cons, List.foldl_nil, post_at, ← before]
    by_cases kept : p entry = true
    · rw [List.filter_cons_of_pos kept, List.filter_nil, ledger_append, List.foldl_cons, List.foldl_nil, post_at]
    · rw [List.filter_cons_of_neg kept, List.filter_nil, List.append_nil]
      have silent : (reads entry).filter (fun said => decide (said.1 = key)) = none := by
        rw [Option.filter_eq_none_iff]
        intro said tells here
        have named : said.1 = key := of_decide_eq_true here
        exact kept (about entry (by simp) said.2 (tells.trans (by rw [← named])))
      rw [silent, Option.elim_none]

/-- What is said of a key was said by an entry after which none spoke of it. -/
theorem ledger_last {log : List Entry} {key : Key} {value : Value} (stands : ledger reads log key = some value) :
    ∃ before entry after, log = before ++ entry :: after ∧ reads entry = some (key, value) ∧
      ∀ later ∈ after, ∀ other, reads later ≠ some (key, other) := by
  induction log using List.reverseRecOn with
  | nil => cases stands
  | append_singleton log entry ih =>
    rw [ledger_append, List.foldl_cons, List.foldl_nil, post_at] at stands
    cases named : (reads entry).filter fun said => decide (said.1 = key) with
    | none =>
      rw [named, Option.elim_none] at stands
      obtain ⟨before, spoke, after, rfl, told, silent⟩ := ih stands
      refine ⟨before, spoke, after ++ [entry], by simp, told, fun later listed other speaks => ?_⟩
      rcases List.mem_append.mp listed with earlier | last
      · exact silent later earlier other speaks
      · rw [List.mem_singleton.mp last] at speaks
        simp [speaks, Option.filter] at named
    | some said =>
      rw [named, Option.elim_some, Option.some.injEq] at stands
      obtain ⟨told, is⟩ := Option.filter_eq_some_iff.mp named
      have key_is : said.1 = key := of_decide_eq_true is
      exact ⟨log, entry, [], rfl, told.trans (by rw [← key_is, ← stands]), fun later listed => by cases listed⟩

end RedDock.Ledgers
