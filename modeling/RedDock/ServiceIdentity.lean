import RedDock.Inventory
import RedDock.KeyedRows

/-!
# The identity of a service

What a row of `services` says after any history of discoveries: a row is there
once its port was found open, and it names what the last identification since
its opening named, all of it or nothing.
-/
set_option autoImplicit false
namespace RedDock.ServiceIdentity
open Text Inventory

/-! ### Histories -/

/-- An asset with a transport and a port. -/
structure Key where
  asset_id : Nat
  transport : Text
  port : Nat
  deriving DecidableEq

/-- A discovered service of an asset, as `upsert_service` is given it. -/
structure Seen where
  asset_id : Nat
  discovered : DiscoveredService
  seen_at : Nat

def key_of (service : Service) : Key := ⟨service.asset_id, service.transport, service.port⟩
def Seen.key (seen : Seen) : Key := ⟨seen.asset_id, seen.discovered.transport, seen.discovered.port⟩

def upsert (tables : Tables) (seen : Seen) : Tables := (upsert_service seen.asset_id seen.discovered seen.seen_at tables).2

/-- What a history found of one service. -/
def found (key : Key) (history : List Seen) : List DiscoveredService :=
  (history.filter fun seen => seen.key = key).map (·.discovered)

def is_open (discovered : DiscoveredService) : Bool := decide (discovered.state ∈ OPEN_SERVICE_STATES)

/-- Absent fields are `None`, and no text is empty. -/
def Plain (discovered : DiscoveredService) : Prop :=
  discovered.service_name ≠ some [] ∧ discovered.product ≠ some [] ∧ discovered.version ≠ some []

instance decidable_plain (discovered : DiscoveredService) : Decidable (Plain discovered) := by
  unfold Plain
  exact inferInstance

/-! ### What a row should say -/

abbrev Identification := Option Text × Option Text × Option Text

def identification (discovered : DiscoveredService) : Identification :=
  (discovered.service_name, discovered.product, discovered.version)

def identity (service : Service) : Identification := (service.service_name, service.product, service.version)

/-- A discovery that creates the row, or takes it from a state that is not open
    to one that is. -/
def Opens (found : List DiscoveredService) (i : Nat) : Prop :=
  ∃ discovered, found[i]? = some discovered ∧ is_open discovered = true ∧
    ((∀ j < i, ∀ earlier, found[j]? = some earlier → is_open earlier = false) ∨
      ∃ j before, j + 1 = i ∧ found[j]? = some before ∧ is_open before = false)

/-- The last of them. -/
structure Opening (found : List DiscoveredService) (i : Nat) : Prop where
  opens : Opens found i
  last : ∀ j, i < j → ¬Opens found j

/-- What the last discovery that identified anything from a position on
    identified. -/
def last_identification (found : List DiscoveredService) (i : Nat) : Identification :=
  ((((found.drop i).filter DiscoveredService.identified).getLast?).map identification).getD (none, none, none)

theorem identification_plain {discovered : DiscoveredService} (plain : Plain discovered)
    (nothing : discovered.identified = false) : identification discovered = (none, none, none) := by
  have absent : ∀ value : Option Text, value ≠ some [] → truthy value = false → value = none := by
    intro value nonempty falsy
    cases value with
    | none => rfl
    | some t =>
      cases t with
      | nil => exact absurd rfl nonempty
      | cons c cs => cases falsy
  simp only [DiscoveredService.identified, Bool.or_eq_false_iff] at nothing
  rw [identification, absent _ plain.1 nothing.1.1, absent _ plain.2.1 nothing.1.2, absent _ plain.2.2 nothing.2]

/-! ### One more discovery -/

section
variable {before : List DiscoveredService} {next : DiscoveredService} {i : Nat}

theorem opens_append (inside : i < before.length) : Opens (before ++ [next]) i ↔ Opens before i := by
  have same : ∀ j, j ≤ i → (before ++ [next])[j]? = before[j]? := fun j le =>
    List.getElem?_append_left (Nat.lt_of_le_of_lt le inside)
  unfold Opens
  refine exists_congr fun discovered => ?_
  rw [same i (le_refl i)]
  refine and_congr_right fun _ => and_congr_right fun _ => or_congr ?_ ?_
  · exact forall_congr' fun j => imp_congr_right fun less => by rw [same j (Nat.le_of_lt less)]
  · refine exists_congr fun j => exists_congr fun earlier => and_congr_right fun is => ?_
    rw [same j (by omega)]

theorem opens_inside (opens : Opens before i) : i < before.length := by
  obtain ⟨discovered, there, -⟩ := opens
  exact (List.getElem?_eq_some_iff.mp there).1

/-- The discovery opens the row: none of the earlier ones did, or the last was
    not open. -/
theorem opening_next (now_open : is_open next = true)
    (closed : (∀ d ∈ before, is_open d = false) ∨ ∃ last, before.getLast? = some last ∧ is_open last = false) :
    Opening (before ++ [next]) before.length where
  opens := by
    refine ⟨next, List.getElem?_concat_length, now_open, ?_⟩
    rcases closed with never | ⟨last, is_last, not_open⟩
    · refine Or.inl fun j less earlier there => ?_
      rw [List.getElem?_append_left less] at there
      exact never earlier (List.mem_of_getElem? there)
    · rw [List.getLast?_eq_getElem?] at is_last
      obtain ⟨inside, -⟩ := List.getElem?_eq_some_iff.mp is_last
      refine Or.inr ⟨before.length - 1, last, by omega, ?_, not_open⟩
      rw [List.getElem?_append_left inside]
      exact is_last
  last := fun j after opens => by
    have inside := opens_inside opens
    rw [List.length_append, List.length_singleton] at inside
    omega

/-- The discovery opens nothing: it is not open, or the one before it is. -/
theorem opening_kept (opening : Opening before i)
    (kept : is_open next = false ∨ ∃ last, before.getLast? = some last ∧ is_open last = true) : Opening (before ++ [next]) i where
  opens := (opens_append (opens_inside opening.opens)).mpr opening.opens
  last := by
    intro j after opens
    have inside := opens_inside opens
    rw [List.length_append, List.length_singleton] at inside
    by_cases earlier : j < before.length
    · exact opening.last j after ((opens_append earlier).mp opens)
    · have at_end : j = before.length := by omega
      subst at_end
      obtain ⟨discovered, there, now_open, how⟩ := opens
      rw [List.getElem?_concat_length, Option.some.injEq] at there
      subst there
      rcases kept with closed | ⟨last, is_last, was_open⟩
      · rw [closed] at now_open
        cases now_open
      · rw [List.getLast?_eq_getElem?] at is_last
        obtain ⟨nonempty, -⟩ := List.getElem?_eq_some_iff.mp is_last
        rw [← List.getElem?_append_left nonempty] at is_last
        rcases how with never | ⟨k, previous, is, there, not_open⟩
        · rw [never _ nonempty last is_last] at was_open
          cases was_open
        · have same : before.length - 1 = k := by omega
          rw [same, there, Option.some.injEq] at is_last
          rw [is_last, was_open] at not_open
          cases not_open

theorem last_identification_next (plain : Plain next) :
    last_identification (before ++ [next]) before.length = identification next := by
  rw [last_identification, List.drop_left]
  by_cases identified : next.identified = true
  · rw [List.filter_cons_of_pos identified]
    rfl
  · rw [List.filter_cons_of_neg identified]
    exact (identification_plain plain (Bool.not_eq_true _ ▸ identified)).symm

theorem last_identification_kept (inside : i ≤ before.length) :
    last_identification (before ++ [next]) i =
      if next.identified then identification next else last_identification before i := by
  rw [last_identification, List.drop_append_of_le_length inside, List.filter_append]
  by_cases identified : next.identified = true
  · rw [List.filter_cons_of_pos identified, List.filter_nil, List.getLast?_concat, if_pos identified]
    rfl
  · rw [List.filter_cons_of_neg identified, List.filter_nil, List.append_nil, if_neg identified]
    rfl

end

/-! ### The row of a service -/

def rows_of (key : Key) (tables : Tables) : List Service := tables.services.filter fun service => key_of service = key

/-- What a history leaves of a service: no row while its port was never open,
    and otherwise one row, in the last state and with the last identification. -/
inductive Records (found : List DiscoveredService) : List Service → Prop
  | absent : (∀ discovered ∈ found, is_open discovered = false) → Records found []
  | row {service : Service} {last : DiscoveredService} {i : Nat} : found.getLast? = some last → service.state = last.state →
      Opening found i → identity service = last_identification found i → Records found [service]

/-- The tables a history leaves, of one service. -/
structure Inv (key : Key) (history : List Seen) (tables : Tables) : Prop where
  distinct : (tables.services.map (·.id)).Nodup
  records : Records (found key history) (rows_of key tables)

@[simp] theorem key_refresh (discovered : DiscoveredService) (seen_at : Nat) (service : Service) :
    key_of (refresh_service discovered seen_at service) = key_of service := by
  unfold refresh_service
  simp only
  split
  · rfl
  · split <;> rfl

@[simp] theorem id_refresh (discovered : DiscoveredService) (seen_at : Nat) (service : Service) :
    (refresh_service discovered seen_at service).id = service.id := by
  unfold refresh_service
  simp only
  split
  · rfl
  · split <;> rfl

@[simp] theorem state_refresh (discovered : DiscoveredService) (seen_at : Nat) (service : Service) :
    (refresh_service discovered seen_at service).state = discovered.state := by
  unfold refresh_service
  simp only
  split
  · rfl
  · split <;> rfl

theorem identity_refresh (discovered : DiscoveredService) (seen_at : Nat) (service : Service) :
    identity (refresh_service discovered seen_at service) =
      if discovered.identified then identification discovered
      else if service.state ∉ OPEN_SERVICE_STATES ∧ discovered.state ∈ OPEN_SERVICE_STATES then (none, none, none)
      else identity service := by
  unfold refresh_service
  simp only [Bool.and_eq_true, Bool.not_eq_true', decide_eq_false_iff_not, decide_eq_true_eq]
  split
  · rfl
  · split <;> rfl

/-- The row `upsert_service` works on. -/
theorem upsert_cases (tables : Tables) (seen : Seen) :
    (rows_of seen.key tables = [] ∧ is_open seen.discovered = false ∧ upsert tables seen = tables) ∨
    (rows_of seen.key tables = [] ∧ is_open seen.discovered = true ∧ upsert tables seen = { tables with
      services := tables.services ++
        [new_service (Inventory.fresh (tables.services.map (·.id))) seen.asset_id seen.discovered seen.seen_at] }) ∨
    ∃ known ∈ tables.services, key_of known = seen.key ∧ upsert tables seen = { tables with
      services := KeyedRows.update Service.id known.id (refresh_service seen.discovered seen.seen_at) tables.services } := by
  have same : (fun service : Service => service.asset_id = seen.asset_id && service.transport = seen.discovered.transport &&
      service.port = seen.discovered.port) = fun service => decide (key_of service = seen.key) := by
    funext service
    simp only [key_of, Seen.key, Key.mk.injEq, Bool.decide_and, Bool.and_assoc]
  unfold upsert upsert_service
  rw [same]
  cases known : tables.services.find? fun service => decide (key_of service = seen.key) with
  | none =>
    have nothing : rows_of seen.key tables = [] := by
      rw [rows_of, List.filter_eq_nil_iff]
      exact List.find?_eq_none.mp known
    by_cases opened : seen.discovered.state ∈ OPEN_SERVICE_STATES
    · refine Or.inr (Or.inl ⟨nothing, decide_eq_true opened, ?_⟩)
      simp only [opened, not_true_eq_false, if_false]
    · refine Or.inl ⟨nothing, decide_eq_false opened, ?_⟩
      simp only [opened, not_false_eq_true, if_true]
  | some known' =>
    exact Or.inr (Or.inr ⟨known', List.mem_of_find?_eq_some known, by simpa using List.find?_some known, rfl⟩)

theorem found_other {key : Key} {seen : Seen} (other : seen.key ≠ key) (history : List Seen) :
    found key (history ++ [seen]) = found key history := by
  rw [found, List.filter_append, List.filter_cons_of_neg (by simpa using other), List.filter_nil, List.append_nil, found]

theorem found_own (seen : Seen) (history : List Seen) :
    found seen.key (history ++ [seen]) = found seen.key history ++ [seen.discovered] := by
  rw [found, List.filter_append, List.filter_cons_of_pos (by simp), List.filter_nil, List.map_append, found]
  rfl

theorem upsert_distinct {tables : Tables} (seen : Seen) (distinct : (tables.services.map (·.id)).Nodup) :
    ((upsert tables seen).services.map (·.id)).Nodup := by
  rcases upsert_cases tables seen with ⟨-, -, same⟩ | ⟨-, -, inserted⟩ | ⟨known, -, -, updated⟩
  · rw [same]
    exact distinct
  · rw [inserted, List.map_append, List.nodup_append]
    refine ⟨distinct, List.nodup_singleton _, fun id listed other new equal => ?_⟩
    rw [List.map_singleton, List.mem_singleton] at new
    have less := lt_fresh listed
    rw [equal, new] at less
    exact absurd less (Nat.lt_irrefl _)
  · rw [updated, KeyedRows.update_keys (id_refresh _ _)]
    exact distinct

/-- A discovery of another service leaves the row alone. -/
theorem rows_other {tables : Tables} {key : Key} {seen : Seen} (other : seen.key ≠ key)
    (distinct : (tables.services.map (·.id)).Nodup) : rows_of key (upsert tables seen) = rows_of key tables := by
  rcases upsert_cases tables seen with ⟨-, -, same⟩ | ⟨-, -, inserted⟩ | ⟨known, listed, own, updated⟩
  · rw [same]
  · have unlike : [new_service (Inventory.fresh (tables.services.map (·.id))) seen.asset_id seen.discovered seen.seen_at].filter
        (fun service => decide (key_of service = key)) = [] := by
      rw [List.filter_cons_of_neg (by rw [decide_eq_true_eq]; exact other), List.filter_nil]
    rw [inserted, rows_of, List.filter_append, unlike, List.append_nil, rows_of]
  · rw [updated, rows_of, KeyedRows.filter_update, rows_of]
    intro row member same
    obtain rfl := KeyedRows.eq_of_key distinct member listed same
    rw [key_refresh, own]
    exact ⟨decide_eq_false other, decide_eq_false other⟩

/-- A discovery of a service with a row changes that row. -/
theorem rows_refreshed {tables : Tables} {known : Service} {discovered : DiscoveredService} {seen_at : Nat} {key : Key}
    (alone : rows_of key tables = [known]) :
    rows_of key { tables with services := KeyedRows.update Service.id known.id (refresh_service discovered seen_at) tables.services } =
      [refresh_service discovered seen_at known] := by
  have kept : (fun service => decide (key_of service = key)) ∘ (fun row => if Service.id row = known.id then
      refresh_service discovered seen_at row else row) = fun service => decide (key_of service = key) := by
    funext row
    rw [Function.comp_apply]
    split
    · rw [key_refresh]
    · rfl
  rw [rows_of] at alone
  rw [rows_of, KeyedRows.update, List.filter_map, kept, alone, List.map_singleton, if_pos rfl]

/-- One discovery more. -/
theorem Inv.upsert {key : Key} {history : List Seen} {tables : Tables} (inv : Inv key history tables) {seen : Seen}
    (plain : seen.key = key → Plain seen.discovered) : Inv key (history ++ [seen]) (upsert tables seen) := by
  refine ⟨upsert_distinct seen inv.distinct, ?_⟩
  by_cases own : seen.key = key
  swap
  · rw [found_other own, rows_other own inv.distinct]
    exact inv.records
  subst own
  have records := inv.records
  rw [found_own]
  rcases upsert_cases tables seen with ⟨nothing, closed, same⟩ | ⟨nothing, opened, inserted⟩ | ⟨known, listed, own, updated⟩
  · rw [same, nothing]
    rw [nothing] at records
    cases records with
    | absent never =>
      refine .absent fun discovered member => ?_
      rcases List.mem_append.mp member with old | new
      · exact never discovered old
      · rw [List.mem_singleton.mp new]
        exact closed
  · rw [nothing] at records
    cases records with
    | absent never =>
      have row : rows_of seen.key (ServiceIdentity.upsert tables seen) =
          [new_service (Inventory.fresh (tables.services.map (·.id))) seen.asset_id seen.discovered seen.seen_at] := by
        rw [rows_of] at nothing
        rw [inserted, rows_of, List.filter_append, nothing, List.nil_append, List.filter_cons_of_pos, List.filter_nil]
        exact decide_eq_true rfl
      rw [row]
      exact .row List.getLast?_concat rfl (opening_next opened (Or.inl never)) (last_identification_next (plain rfl)).symm
  · have member : known ∈ rows_of seen.key tables := List.mem_filter.mpr ⟨listed, decide_eq_true own⟩
    rw [updated]
    generalize rows : rows_of seen.key tables = present at records
    rw [rows] at member
    cases records with
    | absent => cases member
    | @row service last i is_last state opening identified =>
      obtain rfl := List.mem_singleton.mp member
      rw [rows_refreshed rows]
      have was : is_open last = decide (known.state ∈ OPEN_SERVICE_STATES) := by rw [is_open, state]
      by_cases reopened : known.state ∉ OPEN_SERVICE_STATES ∧ seen.discovered.state ∈ OPEN_SERVICE_STATES
      · refine .row List.getLast?_concat (state_refresh _ _ _)
          (opening_next (decide_eq_true reopened.2) (Or.inr ⟨last, is_last, was.trans (decide_eq_false reopened.1)⟩)) ?_
        rw [last_identification_next (plain rfl), identity_refresh, if_pos reopened]
        split
        · rfl
        · rename_i nothing
          exact (identification_plain (plain rfl) (Bool.not_eq_true _ ▸ nothing)).symm
      · have kept : is_open seen.discovered = false ∨ ∃ last, (found seen.key history).getLast? = some last ∧ is_open last = true := by
          by_cases closed : seen.discovered.state ∈ OPEN_SERVICE_STATES
          · have stays : known.state ∈ OPEN_SERVICE_STATES := not_not.mp fun shut => reopened ⟨shut, closed⟩
            exact Or.inr ⟨last, is_last, was.trans (decide_eq_true stays)⟩
          · exact Or.inl (decide_eq_false closed)
        refine .row List.getLast?_concat (state_refresh _ _ _) (opening_kept opening kept) ?_
        rw [last_identification_kept (Nat.le_of_lt (opens_inside opening.opens)), identity_refresh, if_neg reopened, identified]

theorem inv_history {key : Key} {tables : Tables} (distinct : (tables.services.map (·.id)).Nodup) (fresh : rows_of key tables = [])
    (history : List Seen) (plain : ∀ seen ∈ history, seen.key = key → Plain seen.discovered) :
    Inv key history (history.foldl upsert tables) := by
  induction history using List.reverseRecOn with
  | nil => exact ⟨distinct, fresh ▸ .absent fun _ member => absurd member List.not_mem_nil⟩
  | append_singleton history seen ih =>
    rw [List.foldl_append]
    have before := ih fun earlier member => plain earlier (List.mem_append_left _ member)
    exact before.upsert (plain seen (List.mem_append_right _ (List.mem_singleton_self seen)))

/-- A service whose port was never found before: after any discoveries, of it
    and of other services, it has a row exactly when one of its own found the
    port open, and the row names what the last identification named since the
    row was created or opened again, and nothing where there is none. -/
theorem service_identity (key : Key) (tables : Tables) (distinct : (tables.services.map (·.id)).Nodup)
    (fresh : rows_of key tables = []) (history : List Seen) (plain : ∀ seen ∈ history, seen.key = key → Plain seen.discovered) :
    (rows_of key (history.foldl upsert tables) ≠ [] ↔ ∃ discovered ∈ found key history, is_open discovered = true) ∧
      ∀ service ∈ rows_of key (history.foldl upsert tables), rows_of key (history.foldl upsert tables) = [service] ∧
        ∃ i, Opening (found key history) i ∧ identity service = last_identification (found key history) i := by
  have inv := inv_history distinct fresh history plain
  have records := inv.records
  generalize rows_of key (history.foldl upsert tables) = rows at records
  cases records with
  | absent never =>
    refine ⟨⟨fun present => absurd rfl present, fun ⟨discovered, member, opened⟩ => ?_⟩, fun _ member => absurd member List.not_mem_nil⟩
    rw [never discovered member] at opened
    cases opened
  | @row service last i _ _ opening identified =>
    refine ⟨⟨fun _ => ?_, fun _ => List.cons_ne_nil _ _⟩, fun other member => ?_⟩
    · obtain ⟨discovered, there, opened, -⟩ := opening.opens
      exact ⟨discovered, List.mem_of_getElem? there, opened⟩
    · rw [List.mem_singleton.mp member]
      exact ⟨rfl, i, opening, identified⟩

/-- An identified port that closes and is found open again, with no
    identification. -/
def reopened : List Seen := [
  ⟨1, { transport := "tcp".toList, port := 80, state := "open".toList, product := some "nginx".toList, version := some "1".toList }, 1⟩,
  ⟨1, { transport := "tcp".toList, port := 80, state := "closed".toList }, 2⟩,
  ⟨1, { transport := "tcp".toList, port := 80, state := "open".toList }, 3⟩]

theorem service_identity_reopened :
    (rows_of ⟨1, "tcp".toList, 80⟩ (reopened.foldl upsert {})).map identity = [(none, none, none)] ∧
      ∀ service ∈ rows_of ⟨1, "tcp".toList, 80⟩ (reopened.foldl upsert {}),
        rows_of ⟨1, "tcp".toList, 80⟩ (reopened.foldl upsert {}) = [service] ∧
          ∃ i, Opening (found ⟨1, "tcp".toList, 80⟩ reopened) i ∧
            identity service = last_identification (found ⟨1, "tcp".toList, 80⟩ reopened) i :=
  ⟨by decide +kernel, (service_identity ⟨1, "tcp".toList, 80⟩ {} List.nodup_nil rfl reopened (by decide +kernel)).2⟩

end RedDock.ServiceIdentity
