import RedDock.NmapReport

/-!
# Port summaries

What `_expand_port_summary` makes of a text, and what `_normalize_ports` raises.
`str.isdigit` holds of more characters than `int` reads: a text of such
characters raises `ValueError` where nothing before it was refused.
-/
set_option autoImplicit false
namespace RedDock.PortSummaries
open Text Inventory Fallible NmapReport
open Executions (Raised)

/-! ### Digits -/

/-- The Unicode tables of digits: `decimal` are the values of the decimal ones. -/
structure Digits where
  digit : Char → Bool
  decimal : Char → Option Nat
  upper : Text → Text
  decimal_digit : ∀ c, (decimal c).isSome = true → digit c = true
  ascii : ∀ c, c.isDigit = true → decimal c = some (c.toNat - '0'.toNat)

/-- `sys.get_int_max_str_digits()` -/
def MAX_STR_DIGITS : Nat := 4300

namespace Digits

/-- The number that decimal digits denote. -/
def value (digits : Digits) (t : Text) : Option Nat :=
  if t = [] then none else t.foldlM (fun n c => (digits.decimal c).map (10 * n + ·)) 0

def strings (digits : Digits) : Strings where
  isdigit := fun t => !t.isEmpty && t.all digits.digit
  int := fun t => if MAX_STR_DIGITS < t.length then none else digits.value t
  upper := digits.upper

/-- A text that is no digits, or that `int` reads. -/
def Convertible (digits : Digits) (t : Text) : Prop :=
  t ≠ [] → t.all digits.digit = true → (∀ c ∈ t, (digits.decimal c).isSome = true) ∧ t.length ≤ MAX_STR_DIGITS

instance decidable_convertible (digits : Digits) (t : Text) : Decidable (digits.Convertible t) := by
  unfold Convertible
  exact inferInstance

/-! ### What a summary denotes -/

/-- A decimal port. -/
def port (digits : Digits) (t : Text) : Option Nat := (digits.value t).filter fun n => 1 ≤ n ∧ n ≤ 65535

/-- The ports of an ascending range. -/
def ascending (start last : Nat) : Option (List Nat) :=
  if start ≤ last then some ((List.range (last + 1 - start)).map (start + ·)) else none

/-- One port, or a range of them. -/
def item_ports (digits : Digits) (item : Text) : Option (List Nat) :=
  match item.splitOn '-' with
  | [bound] => (digits.port bound).map fun port => [port]
  | [start, last] => do
    let start ← digits.port start
    let last ← digits.port last
    ascending start last
  | _ => none

/-- The ports of some items, which are distinct and within the bound. -/
def items_ports (digits : Digits) (items : List Text) : Option (List Nat) :=
  ((items.mapM digits.item_ports).map List.flatten).filter fun ports => ports.Nodup ∧ ports.length ≤ MAX_SUMMARY_PORTS

/-- What a port summary denotes. -/
def denoted (digits : Digits) (raw : Text) : Option (List Nat) := digits.items_ports (raw.splitOn ',')

/-- The bounds of an item can be converted. -/
def ConvertibleItem (digits : Digits) (item : Text) : Prop :=
  match item.splitOn '-' with
  | [bound] => digits.Convertible bound
  | [start, last] => digits.Convertible start ∧ digits.Convertible last
  | _ => True

/-- Items that are read and denote ports. -/
def Settled (digits : Digits) (items : List Text) : Prop :=
  (∀ item ∈ items, digits.ConvertibleItem item) ∧ (digits.items_ports items).isSome = true

/-- No text that cannot be converted stands behind items that are read and
    denote ports. -/
def Readable (digits : Digits) (raw : Text) : Prop :=
  ∀ before item after, raw.splitOn ',' = before ++ item :: after → digits.Settled before → digits.ConvertibleItem item

end Digits

variable {digits : Digits}

theorem foldlM_decimal (t : Text) (n : Nat) :
    (t.foldlM (fun n c => (digits.decimal c).map (10 * n + ·)) n).isSome = true ↔ ∀ c ∈ t, (digits.decimal c).isSome = true := by
  induction t generalizing n with
  | nil => simp
  | cons c t ih =>
    rw [List.foldlM_cons, List.forall_mem_cons]
    cases read : digits.decimal c with
    | none => simp
    | some d =>
      simp only [Option.map_some, Option.bind_eq_bind, Option.bind_some, Option.isSome_some, true_and]
      exact ih _

theorem value_isSome {t : Text} : (digits.value t).isSome = true ↔ t ≠ [] ∧ ∀ c ∈ t, (digits.decimal c).isSome = true := by
  unfold Digits.value
  split
  · rename_i empty
    simp [empty]
  · rename_i nonempty
    rw [foldlM_decimal]
    simp [nonempty]

/-- A text with a value is digits. -/
theorem isdigit_of_value {t : Text} (read : (digits.value t).isSome = true) : digits.strings.isdigit t = true := by
  obtain ⟨nonempty, decimals⟩ := value_isSome.mp read
  simp only [Digits.strings, Bool.and_eq_true, Bool.not_eq_true', List.isEmpty_eq_false_iff, List.all_eq_true]
  exact ⟨nonempty, fun c member => digits.decimal_digit c (decimals c member)⟩

/-- The two tests and the conversion, of a text that can be converted. -/
theorem port_count {t : Text} (convertible : digits.Convertible t) :
    match digits.value t with
    | none => digits.strings.isdigit t = false
    | some n => digits.strings.isdigit t = true ∧ digits.strings.int t = some n := by
  cases read : digits.value t with
  | some n =>
    have is_digits : digits.strings.isdigit t = true := isdigit_of_value (by rw [read]; rfl)
    have shape := is_digits
    simp only [Digits.strings, Bool.and_eq_true, Bool.not_eq_true', List.isEmpty_eq_false_iff] at shape
    refine ⟨is_digits, ?_⟩
    simp only [Digits.strings, if_neg (Nat.not_lt.mpr (convertible shape.1 shape.2).2), read]
  | none =>
    by_contra is_digits
    rw [Bool.not_eq_false] at is_digits
    simp only [Digits.strings, Bool.and_eq_true, Bool.not_eq_true', List.isEmpty_eq_false_iff] at is_digits
    have some := value_isSome.mpr ⟨is_digits.1, (convertible is_digits.1 is_digits.2).1⟩
    rw [read] at some
    cases some

/-- `_port_number` of a text that can be converted. -/
theorem port_number_convertible {t : Text} (convertible : digits.Convertible t) :
    port_number digits.strings (some t) = .ok (digits.port t) := by
  have counts := port_count convertible
  unfold port_number Digits.port
  cases read : digits.value t with
  | none =>
    rw [read] at counts
    simp [counts]
  | some n =>
    rw [read] at counts
    by_cases inside : 1 ≤ n ∧ n ≤ 65535 <;> simp [counts, Option.filter, inside]

theorem inconvertible_raises {t : Text} (inconvertible : ¬digits.Convertible t) :
    digits.strings.isdigit t = true ∧ digits.strings.int t = none := by
  simp only [Digits.Convertible, Classical.not_imp] at inconvertible
  obtain ⟨nonempty, all, fails⟩ := inconvertible
  have is_digits : digits.strings.isdigit t = true := by
    simp only [Digits.strings, Bool.and_eq_true, Bool.not_eq_true', List.isEmpty_eq_false_iff]
    exact ⟨nonempty, all⟩
  have raises : digits.strings.int t = none := by
    simp only [Digits.strings]
    split
    · rfl
    · rename_i short
      by_contra read
      exact fails ⟨(value_isSome.mp (Option.isSome_iff_ne_none.mpr read)).2, Nat.not_lt.mp short⟩
  exact ⟨is_digits, raises⟩

theorem port_number_inconvertible {t : Text} (inconvertible : ¬digits.Convertible t) :
    port_number digits.strings (some t) = .error .unexpected := by
  obtain ⟨is_digits, raises⟩ := inconvertible_raises inconvertible
  simp [port_number, is_digits, raises]

/-! ### Items -/

theorem ascending_ne_nil {start last : Nat} {ports : List Nat} (is : Digits.ascending start last = some ports) : ports ≠ [] := by
  unfold Digits.ascending at is
  split at is
  · cases is
    rename_i le
    rw [ne_eq, List.map_eq_nil_iff, List.range_eq_nil]
    omega
  · cases is

theorem item_ports_ne_nil {item : Text} {ports : List Nat} (is : digits.item_ports item = some ports) : ports ≠ [] := by
  unfold Digits.item_ports at is
  split at is
  · obtain ⟨port, -, rfl⟩ := Option.map_eq_some_iff.mp is
    exact List.cons_ne_nil _ _
  · obtain ⟨start, -, is⟩ := Option.bind_eq_some_iff.mp is
    obtain ⟨last, -, is⟩ := Option.bind_eq_some_iff.mp is
    exact ascending_ne_nil is
  · cases is

theorem summary_item_convertible {item : Text} (convertible : digits.ConvertibleItem item) :
    summary_item digits.strings item = .ok ((digits.item_ports item).getD []) := by
  rcases cut : item.splitOn '-' with _ | ⟨start, _ | ⟨last, _ | ⟨more, rest⟩⟩⟩
  · simp only [summary_item, Digits.item_ports, cut]
    rfl
  · simp only [Digits.ConvertibleItem, cut] at convertible
    simp only [summary_item, Digits.item_ports, cut, port_number_convertible convertible]
    cases digits.port start <;> rfl
  · simp only [Digits.ConvertibleItem, cut] at convertible
    simp only [summary_item, Digits.item_ports, cut, port_number_convertible convertible.1, port_number_convertible convertible.2]
    cases digits.port start with
    | none => rfl
    | some first =>
      cases digits.port last with
      | none => rfl
      | some final =>
        simp only [ok_bind, Option.bind_eq_bind, Option.bind_some, Digits.ascending]
        split <;> rfl
  · simp only [summary_item, Digits.item_ports, cut]
    rfl

theorem summary_item_inconvertible {item : Text} (inconvertible : ¬digits.ConvertibleItem item) :
    summary_item digits.strings item = .error .unexpected := by
  rcases cut : item.splitOn '-' with _ | ⟨start, _ | ⟨last, _ | ⟨more, rest⟩⟩⟩
  · simp only [Digits.ConvertibleItem, cut, not_true_eq_false] at inconvertible
  · simp only [Digits.ConvertibleItem, cut] at inconvertible
    simp only [summary_item, cut, port_number_inconvertible inconvertible]
    rfl
  · simp only [Digits.ConvertibleItem, cut, not_and_or] at inconvertible
    simp only [summary_item, cut]
    by_cases first : digits.Convertible start
    · rw [port_number_convertible first, port_number_inconvertible (inconvertible.resolve_left (not_not.mpr first))]
      rfl
    · rw [port_number_inconvertible first]
      rfl
  · simp only [Digits.ConvertibleItem, cut, not_true_eq_false] at inconvertible

/-! ### Summaries -/

/-- Ports a summary may give. -/
def Fits (ports : List Nat) : Prop := ports.Nodup ∧ ports.length ≤ MAX_SUMMARY_PORTS

instance decidable_fits (ports : List Nat) : Decidable (Fits ports) := inferInstanceAs (Decidable (_ ∧ _))

theorem Fits.of_append {first second : List Nat} (fits : Fits (first ++ second)) : Fits first :=
  ⟨fits.1.of_append_left, Nat.le_trans (by simp) fits.2⟩

def Refused {α : Type} (x : Except Raised α) : Prop := ∃ message, x = .error (.adapter_error message)

theorem Refused.bind {α β : Type} {x : Except Raised α} (refused : Refused x) (f : α → Except Raised β) : Refused (x >>= f) := by
  obtain ⟨message, rfl⟩ := refused
  exact ⟨message, rfl⟩

theorem add_summary_port_cases (ports : List Nat) (port : Nat) (fits : Fits ports) :
    (add_summary_port ports port = .ok (ports ++ [port]) ∧ Fits (ports ++ [port])) ∨
      (Refused (add_summary_port ports port) ∧ ¬Fits (ports ++ [port])) := by
  unfold add_summary_port
  by_cases listed : port ∈ ports
  · rw [if_pos listed]
    refine Or.inr ⟨⟨_, rfl⟩, fun fits => ?_⟩
    exact List.disjoint_of_nodup_append fits.1 listed (List.mem_singleton_self port)
  by_cases full : MAX_SUMMARY_PORTS < ports.length + 1
  · rw [if_neg listed, if_pos full]
    refine Or.inr ⟨⟨_, rfl⟩, fun fits => ?_⟩
    have short := fits.2
    rw [List.length_append, List.length_singleton] at short
    exact Nat.not_lt.mpr short full
  · rw [if_neg listed, if_neg full]
    refine Or.inl ⟨rfl, List.nodup_append.mpr ⟨fits.1, List.nodup_singleton _, fun a member b one same => ?_⟩, ?_⟩
    · exact listed (List.mem_singleton.mp one ▸ same ▸ member)
    · rw [List.length_append, List.length_singleton]
      exact Nat.not_lt.mp full

/-- The ports of an item are added, unless one of them is refused. -/
theorem add_summary_ports (ports added : List Nat) (fits : Fits ports) :
    (added.foldlM add_summary_port ports = .ok (ports ++ added) ∧ Fits (ports ++ added)) ∨
      (Refused (added.foldlM add_summary_port ports) ∧ ¬Fits (ports ++ added)) := by
  induction added generalizing ports with
  | nil =>
    rw [List.append_nil]
    exact Or.inl ⟨rfl, fits⟩
  | cons port added ih =>
    have arrange : ports ++ port :: added = (ports ++ [port]) ++ added := by rw [List.append_assoc]; rfl
    rw [List.foldlM_cons, arrange]
    rcases add_summary_port_cases ports port fits with ⟨stepped, fits'⟩ | ⟨refused, overfull⟩
    · rw [stepped, ok_bind]
      exact ih (ports ++ [port]) fits'
    · exact Or.inr ⟨refused.bind _, fun fits' => overfull fits'.of_append⟩

/-- One item of a summary. -/
def expand_item (digits : Digits) (ports : List Nat) (item : Text) : Except Raised (List Nat) := do
  let values ← summary_item digits.strings item
  if values.isEmpty then .error (.adapter_error "Nmap port summary is invalid".toList) else values.foldlM add_summary_port ports

theorem expand_port_summary_eq (raw : Text) :
    expand_port_summary digits.strings raw = (raw.splitOn ',').foldlM (expand_item digits) [] := rfl

/-- An item that can be converted is refused, or adds its ports. -/
theorem expand_item_cases {ports : List Nat} (fits : Fits ports) {item : Text} (convertible : digits.ConvertibleItem item) :
    (∃ added, digits.item_ports item = some added ∧ expand_item digits ports item = .ok (ports ++ added) ∧ Fits (ports ++ added)) ∨
      (Refused (expand_item digits ports item) ∧ ∀ added, digits.item_ports item = some added → ¬Fits (ports ++ added)) := by
  unfold expand_item
  rw [summary_item_convertible convertible, ok_bind]
  cases read : digits.item_ports item with
  | none => exact Or.inr ⟨⟨_, rfl⟩, fun added is => by cases is⟩
  | some added =>
    have present : added.isEmpty = false := List.isEmpty_eq_false_iff.mpr (item_ports_ne_nil read)
    simp only [Option.getD_some, present, Bool.false_eq_true, if_false]
    rcases add_summary_ports ports added fits with ⟨ran, fits'⟩ | ⟨refused, overfull⟩
    · exact Or.inl ⟨added, rfl, ran, fits'⟩
    · refine Or.inr ⟨refused, fun added' is => ?_⟩
      cases is
      exact overfull

theorem expand_item_inconvertible (ports : List Nat) {item : Text} (inconvertible : ¬digits.ConvertibleItem item) :
    expand_item digits ports item = .error .unexpected := by
  rw [expand_item, summary_item_inconvertible inconvertible]
  rfl

theorem items_ports_eq_some {items : List Text} {ports : List Nat} :
    digits.items_ports items = some ports ↔
      ∃ lists, items.mapM digits.item_ports = some lists ∧ lists.flatten = ports ∧ Fits ports := by
  rw [Digits.items_ports, Option.filter_eq_some_iff]
  simp only [Option.map_eq_some_iff, decide_eq_true_eq, Fits]
  constructor
  · rintro ⟨⟨lists, all, is⟩, fits⟩
    exact ⟨lists, all, is, fits⟩
  · rintro ⟨lists, all, is, fits⟩
    exact ⟨⟨lists, all, is⟩, fits⟩

theorem items_ports_concat {items : List Text} {item : Text} {ports : List Nat} :
    digits.items_ports (items ++ [item]) = some ports ↔ ∃ before added, digits.items_ports items = some before ∧
      digits.item_ports item = some added ∧ ports = before ++ added ∧ Fits ports := by
  simp only [items_ports_eq_some]
  constructor
  · rintro ⟨lists, all, rfl, fits⟩
    rw [List.mapM_append] at all
    obtain ⟨first, read, all⟩ := Option.bind_eq_some_iff.mp all
    obtain ⟨last, one, is⟩ := Option.bind_eq_some_iff.mp all
    cases is
    rw [List.mapM_cons, List.mapM_nil] at one
    obtain ⟨added, reads, is⟩ := Option.bind_eq_some_iff.mp one
    cases is
    rw [List.flatten_concat] at fits ⊢
    exact ⟨first.flatten, added, ⟨first, read, rfl, fits.of_append⟩, reads, rfl, fits⟩
  · rintro ⟨_, added, ⟨first, read, rfl, -⟩, reads, rfl, fits⟩
    refine ⟨first ++ [added], ?_, List.flatten_concat, fits⟩
    rw [List.mapM_append, read, List.mapM_cons, reads]
    rfl

theorem items_ports_prefix {first second : List Text} {ports : List Nat} (read : digits.items_ports (first ++ second) = some ports) :
    (digits.items_ports first).isSome = true := by
  induction second using List.reverseRecOn generalizing ports with
  | nil =>
    rw [List.append_nil] at read
    rw [read]
    rfl
  | append_singleton second item ih =>
    rw [← List.append_assoc] at read
    obtain ⟨before, _, earlier, _⟩ := items_ports_concat.mp read
    exact ih earlier

/-- Items are expanded to what they denote exactly when all of them are read. -/
theorem expand_items_ok {items : List Text} {ports : List Nat} : items.foldlM (expand_item digits) [] = .ok ports ↔
    (∀ item ∈ items, digits.ConvertibleItem item) ∧ digits.items_ports items = some ports := by
  induction items using List.reverseRecOn generalizing ports with
  | nil =>
    have none_denotes : digits.items_ports [] = some [] := rfl
    rw [none_denotes, List.foldlM_nil, pure_eq_ok, Except.ok.injEq, Option.some.injEq]
    simp
  | append_singleton items item ih =>
    rw [List.foldlM_append, bind_eq_ok, items_ports_concat]
    simp only [List.foldlM_cons, List.foldlM_nil, bind_pure]
    constructor
    · rintro ⟨before, ran, stepped⟩
      obtain ⟨all, read⟩ := ih.mp ran
      obtain ⟨_, _, _, fits⟩ := items_ports_eq_some.mp read
      by_cases convertible : digits.ConvertibleItem item
      · rcases expand_item_cases fits convertible with ⟨added, reads, gives, fits'⟩ | ⟨⟨message, refused⟩, -⟩
        · rw [gives] at stepped
          cases stepped
          exact ⟨List.forall_mem_append.mpr ⟨all, List.forall_mem_singleton.mpr convertible⟩, before, added, read, reads, rfl, fits'⟩
        · rw [refused] at stepped
          cases stepped
      · rw [expand_item_inconvertible before convertible] at stepped
        cases stepped
    · rintro ⟨all, before, added, read, reads, rfl, fits⟩
      obtain ⟨all, one⟩ := List.forall_mem_append.mp all
      have convertible := List.forall_mem_singleton.mp one
      refine ⟨before, ih.mpr ⟨all, read⟩, ?_⟩
      rcases expand_item_cases fits.of_append convertible with ⟨added', reads', gives, -⟩ | ⟨-, overfull⟩
      · rw [reads, Option.some.injEq] at reads'
        rw [gives, reads']
      · exact absurd fits (overfull added reads)

/-- A summary raises something else exactly at a text that cannot be converted
    behind items that are read. -/
theorem expand_unexpected (raw : Text) : expand_port_summary digits.strings raw = .error .unexpected ↔ ¬digits.Readable raw := by
  rw [expand_port_summary_eq, foldlM_error]
  simp only [Digits.Readable, not_forall]
  constructor
  · rintro ⟨before, item, after, ports, split, ran, raised⟩
    obtain ⟨all, read⟩ := expand_items_ok.mp ran
    obtain ⟨_, _, _, fits⟩ := items_ports_eq_some.mp read
    refine ⟨before, item, after, split, ⟨all, Option.isSome_iff_exists.mpr ⟨ports, read⟩⟩, fun convertible => ?_⟩
    rcases expand_item_cases fits convertible with ⟨added, -, gives, -⟩ | ⟨⟨message, refused⟩, -⟩
    · rw [gives] at raised
      cases raised
    · rw [refused] at raised
      cases raised
  · rintro ⟨before, item, after, split, settled, inconvertible⟩
    obtain ⟨ports, read⟩ := Option.isSome_iff_exists.mp settled.2
    exact ⟨before, item, after, ports, split, expand_items_ok.mpr ⟨settled.1, read⟩, expand_item_inconvertible ports inconvertible⟩

/-- What is raised, or the ports a text denotes. -/
def ExactOrRefused (digits : Digits) (raw : Text) : Prop :=
  Refused (expand_port_summary digits.strings raw) ∨
    ∃ ports, expand_port_summary digits.strings raw = .ok ports ∧ digits.denoted raw = some ports

theorem expand_exact (raw : Text) : ExactOrRefused digits raw ↔ digits.Readable raw := by
  rw [← not_iff_not, ← expand_unexpected]
  cases ran : expand_port_summary digits.strings raw with
  | ok ports =>
    have read := (expand_items_ok.mp ran).2
    have exact_ports : ExactOrRefused digits raw := Or.inr ⟨ports, ran, read⟩
    simp [exact_ports]
  | error e =>
    unfold ExactOrRefused Refused
    cases e <;> simp [ran]

/-- Where a text denotes ports, reading it comes to its end. -/
theorem expand_readable {raw : Text} {ports : List Nat} (readable : digits.Readable raw) (denotes : digits.denoted raw = some ports) :
    expand_port_summary digits.strings raw = .ok ports := by
  have all : ∀ before after, raw.splitOn ',' = before ++ after → ∀ item ∈ before, digits.ConvertibleItem item := by
    intro before
    induction before using List.reverseRecOn with
    | nil => exact fun _ _ item member => absurd member List.not_mem_nil
    | append_singleton before item ih =>
      intro after split
      have split' : raw.splitOn ',' = before ++ item :: after := by rw [split, List.append_assoc]; rfl
      have earlier := ih (item :: after) split'
      refine List.forall_mem_append.mpr ⟨earlier, List.forall_mem_singleton.mpr (readable before item after split' ⟨earlier, ?_⟩)⟩
      unfold Digits.denoted at denotes
      rw [split'] at denotes
      exact items_ports_prefix denotes
  rw [expand_port_summary_eq, expand_items_ok]
  exact ⟨all _ [] (List.append_nil _).symm, denotes⟩

/-! ### Rendering -/

/-- One port or an ascending range, as nmap writes them. -/
inductive Item
  | single (port : Nat)
  | range (start last : Nat)

namespace Item

def ports : Item → List Nat
  | single port => [port]
  | range start last => (List.range (last + 1 - start)).map (start + ·)

def str : Item → Text
  | single port => dec port
  | range start last => dec start ++ '-' :: dec last

/-- Ports of the range 1 to 65535. -/
def Valid : Item → Prop
  | single port => 1 ≤ port ∧ port ≤ 65535
  | range start last => 1 ≤ start ∧ start ≤ last ∧ last ≤ 65535

end Item

/-- The summary of some items. -/
def summary (items : List Item) : Text := join [','] (items.map Item.str)

theorem value_dec (n : Nat) : digits.value (dec n) = some n := by
  have read : ∀ (t : Text) (start : Nat), (∀ c ∈ t, c.isDigit = true) →
      t.foldlM (fun n c => (digits.decimal c).map (10 * n + ·)) start = some (Nat.ofDigitChars 10 t start) := by
    intro t
    induction t with
    | nil => exact fun start _ => rfl
    | cons c t ih =>
      intro start all
      rw [List.foldlM_cons, digits.ascii c (all c List.mem_cons_self), Nat.ofDigitChars_cons]
      exact ih _ fun d member => all d (List.mem_cons_of_mem _ member)
  rw [Digits.value, if_neg (dec_ne_nil n), read _ 0 fun c member => isDigit_of_mem_dec member]
  exact congrArg some (ofDec_dec n)

theorem port_dec {n : Nat} (low : 1 ≤ n) (high : n ≤ 65535) : digits.port (dec n) = some n := by
  simp [Digits.port, value_dec, Option.filter, low, high]

theorem convertible_dec {n : Nat} (high : n ≤ 65535) : digits.Convertible (dec n) := by
  refine fun _ _ => ⟨(value_isSome.mp (by rw [value_dec]; rfl)).2, ?_⟩
  exact Nat.le_trans (dec_length_le (by decide) (Nat.lt_of_le_of_lt high (by decide) : n < 10 ^ 5)) (by decide)

theorem not_mem_dec {n : Nat} {c : Char} (other : c.isDigit = false) : c ∉ dec n := fun member => by
  rw [isDigit_of_mem_dec member] at other
  cases other

theorem str_splitOn (item : Item) : item.str.splitOn '-' = match item with
    | .single port => [dec port]
    | .range start last => [dec start, dec last] := by
  cases item with
  | single port => exact List.splitOn_eq_singleton (not_mem_dec (by decide))
  | range start last =>
    show (dec start ++ '-' :: dec last).splitOn '-' = _
    rw [List.splitOn_append_cons_self_of_not_mem (not_mem_dec (by decide)), List.splitOn_eq_singleton (not_mem_dec (by decide))]

theorem str_convertible {item : Item} (valid : item.Valid) : digits.ConvertibleItem item.str := by
  rw [Digits.ConvertibleItem, str_splitOn]
  cases item with
  | single port => exact convertible_dec valid.2
  | range start last => exact ⟨convertible_dec (Nat.le_trans valid.2.1 valid.2.2), convertible_dec valid.2.2⟩

theorem str_ports {item : Item} (valid : item.Valid) : digits.item_ports item.str = some item.ports := by
  rw [Digits.item_ports, str_splitOn]
  cases item with
  | single port =>
    simp only [port_dec valid.1 valid.2]
    rfl
  | range start last =>
    simp only [port_dec valid.1 (Nat.le_trans valid.2.1 valid.2.2), port_dec (Nat.le_trans valid.1 valid.2.1) valid.2.2,
      Option.bind_eq_bind, Option.bind_some, Digits.ascending, if_pos valid.2.1]
    rfl

theorem not_mem_str (item : Item) : ',' ∉ item.str := by
  cases item with
  | single port => exact not_mem_dec (by decide)
  | range start last =>
    intro member
    rcases List.mem_append.mp member with first | second
    · exact not_mem_dec (by decide) first
    · rcases List.mem_cons.mp second with dash | later
      · exact absurd dash (by decide)
      · exact not_mem_dec (by decide) later

/-- Every list of ports is read back from its summaries. -/
theorem expand_summary (digits : Digits) {items : List Item} (some_item : items ≠ []) (valid : ∀ item ∈ items, item.Valid)
    (fits : Fits (items.flatMap Item.ports)) :
    expand_port_summary digits.strings (summary items) = .ok (items.flatMap Item.ports) := by
  have nonempty : items.map Item.str ≠ [] := fun none => some_item (List.map_eq_nil_iff.mp none)
  have cut : (summary items).splitOn ',' = items.map Item.str := by
    refine List.splitOn_intercalate ',' (fun part member => ?_) nonempty
    obtain ⟨item, -, rfl⟩ := List.mem_map.mp member
    exact not_mem_str item
  rw [expand_port_summary_eq, cut, expand_items_ok]
  constructor
  · intro part member
    obtain ⟨item, listed, rfl⟩ := List.mem_map.mp member
    exact str_convertible (valid item listed)
  · refine items_ports_eq_some.mpr ⟨items.map Item.ports, ?_, (List.flatMap_def ..).symm, fits⟩
    rw [mapM_some, List.forall₂_map_left_iff, List.forall₂_map_right_iff, List.forall₂_same]
    exact fun item member => str_ports (valid item member)

/-! ### Documents -/

/-- What a document says of ports: a port element, or the summary of some ports
    in one state. -/
inductive Entry
  | port (element : Element)
  | summary (state : Text) (reason : Element)

def extra_entries (extra : Element) : List Entry :=
  let state := (extra.get "state").getD "unknown".toList
  if state ∉ PORT_STATES then [] else (extra.findall "extrareasons").map (.summary state)

def entries (host : Element) : List Entry :=
  (host.findall_in "ports" "port").map .port ++ (host.findall_in "ports" "extraports").flatMap extra_entries

def normalize_entry (digits : Digits) (address : Text) (ports : Ports) : Entry → Except Raised Ports
  | .port element => normalize_port digits.strings address ports element
  | .summary state reason => normalize_summary digits.strings address state ports reason

theorem normalize_ports_eq (host : Element) (address : Text) :
    normalize_ports digits.strings host address = (entries host).foldlM (normalize_entry digits address) {} := by
  have extras : ∀ (found : List Element) (ports : Ports), (found.flatMap extra_entries).foldlM (normalize_entry digits address) ports =
      found.foldlM (normalize_extra digits.strings address) ports := by
    intro found ports
    rw [foldlM_flatMap]
    congr 1
    funext ports extra
    unfold extra_entries normalize_extra
    simp only
    split
    · rfl
    · rw [List.foldlM_map]
      rfl
  unfold normalize_ports entries
  rw [List.foldlM_append, List.foldlM_map]
  exact bind_congr fun ports => (extras _ ports).symm

/-- The transport and the port of an element that counts. -/
def port_key (digits : Digits) (element : Element) : Option (Text × Nat) := do
  let state_element ← element.find "state"
  let number ← digits.port (← element.get "portid")
  if (state_element.get "state").getD "unknown".toList ∈ PORT_STATES then some ((element.get "protocol").getD "tcp".toList, number)
  else none

/-- The text of a summary that counts. -/
def summary_text (reason : Element) : Option Text :=
  (reason.get "ports").filter fun _ => reason.get "proto" = some "tcp".toList

/-- The ports of a summary whose count is theirs. -/
def summary_keys (digits : Digits) (reason : Element) : Option (List (Text × Nat)) :=
  match summary_text reason with
  | none => some []
  | some raw => do
    let ports ← digits.denoted raw
    let count ← digits.value (← reason.get "count")
    if count = ports.length then some (ports.map fun port => ("tcp".toList, port)) else none

/-- The ports an entry lists, absent where it is refused. -/
def entry_keys (digits : Digits) : Entry → Option (List (Text × Nat))
  | .port element => some (port_key digits element).toList
  | .summary _ reason => summary_keys digits reason

/-- The texts of an entry that are read can be converted. -/
def ConvertibleEntry (digits : Digits) : Entry → Prop
  | .port element => (element.find "state").isSome = true → ∀ raw, element.get "portid" = some raw → digits.Convertible raw
  | .summary _ reason => ∀ raw, summary_text reason = some raw → digits.Readable raw ∧
      ((digits.denoted raw).isSome = true → ∀ count, reason.get "count" = some count → digits.Convertible count)

/-- Entries that are read and list distinct ports. -/
def SettledEntries (digits : Digits) (listed : List Entry) : Prop :=
  (∀ entry ∈ listed, ConvertibleEntry digits entry) ∧ ∃ keys, listed.mapM (entry_keys digits) = some keys ∧ keys.flatten.Nodup

/-- No text that cannot be converted stands behind entries that are read and
    list distinct ports. -/
def ReadableHost (digits : Digits) (host : Element) : Prop :=
  ∀ before entry after, entries host = before ++ entry :: after → SettledEntries digits before → ConvertibleEntry digits entry

/-- Adding ports to what was seen: all of them, or one is refused. -/
def Adds (ports : Ports) (keys : List (Text × Nat)) (x : Except Raised Ports) : Prop :=
  (∃ left, x = .ok left ∧ left.seen = keys.reverse ++ ports.seen ∧ left.seen.Nodup) ∨
    (Refused x ∧ ¬(keys.reverse ++ ports.seen).Nodup)

section
variable {address : Text} {ports : Ports}

theorem adds_nothing (distinct : ports.seen.Nodup) : Adds ports [] (.ok ports) := Or.inl ⟨ports, rfl, rfl, distinct⟩

theorem append_port_adds (digits : Digits) (address : Text) {ports : Ports} (distinct : ports.seen.Nodup) (port : Port) :
    Adds ports [(port.transport, port.port)] (append_port digits.strings address ports port) := by
  unfold append_port
  by_cases listed : (port.transport, port.port) ∈ ports.seen
  · rw [if_pos listed]
    exact Or.inr ⟨⟨_, rfl⟩, fun all => (List.nodup_cons.mp all).1 listed⟩
  · rw [if_neg listed]
    exact Or.inl ⟨_, rfl, rfl, List.nodup_cons.mpr ⟨listed, distinct⟩⟩

theorem append_ports_add (distinct : ports.seen.Nodup) (transport : Text) (numbers : List Nat) (port : Nat → Port)
    (own : ∀ number, ((port number).transport, (port number).port) = (transport, number)) :
    Adds ports (numbers.map fun number => (transport, number))
      (numbers.foldlM (fun ports number => append_port digits.strings address ports (port number)) ports) := by
  induction numbers generalizing ports with
  | nil => exact adds_nothing distinct
  | cons number numbers ih =>
    have arrange : ((number :: numbers).map fun number => (transport, number)).reverse ++ ports.seen =
        (numbers.map fun number => (transport, number)).reverse ++ ((transport, number) :: ports.seen) := by
      rw [List.map_cons, List.reverse_cons, List.append_assoc]
      rfl
    rw [List.foldlM_cons]
    rcases append_port_adds digits address distinct (port number) with ⟨left, ran, seen, distinct'⟩ | ⟨refused, again⟩
    · rw [own] at seen
      rw [ran, ok_bind]
      unfold Adds
      rw [arrange]
      have more := ih distinct'
      unfold Adds at more
      rw [seen] at more
      exact more
    · rw [own] at again
      refine Or.inr ⟨refused.bind _, fun all => again ?_⟩
      rw [arrange] at all
      exact (List.nodup_append.mp all).2.1

theorem summary_text_some {reason : Element} {raw : Text} (text : summary_text reason = some raw) :
    reason.get "proto" = some "tcp".toList ∧ reason.get "ports" = some raw := by
  obtain ⟨is, tcp⟩ := Option.filter_eq_some_iff.mp text
  exact ⟨of_decide_eq_true tcp, is⟩

theorem normalize_summary_skips {state : Text} {reason : Element} (text : summary_text reason = none) :
    normalize_summary digits.strings address state ports reason = .ok ports := by
  unfold normalize_summary
  split
  · rename_i transport raw proto named
    have other : transport ≠ "tcp".toList := by
      rintro rfl
      simp [summary_text, named, proto] at text
    rw [if_pos other]
  · rfl

/-- A summary that is refused, or whose count is checked. -/
theorem normalize_summary_reads (address state : Text) (ports : Ports) {reason : Element} {raw : Text} (text : summary_text reason = some raw)
    (readable : digits.Readable raw) :
    (digits.denoted raw = none ∧ Refused (normalize_summary digits.strings address state ports reason)) ∨
    ∃ numbers, digits.denoted raw = some numbers ∧ ((∀ count, reason.get "count" = some count → digits.Convertible count) →
      if (reason.get "count").bind digits.value = some numbers.length then
        normalize_summary digits.strings address state ports reason =
          numbers.foldlM (fun ports number => append_port digits.strings address ports {
            transport := "tcp".toList, port := number, state := state, reason := (reason.get "reason").getD [] }) ports
      else Refused (normalize_summary digits.strings address state ports reason)) ∧
      ((∃ count, reason.get "count" = some count ∧ ¬digits.Convertible count) →
        normalize_summary digits.strings address state ports reason = .error .unexpected) := by
  obtain ⟨proto, named⟩ := summary_text_some text
  unfold normalize_summary
  simp only [proto, named, ne_eq, not_true_eq_false, if_false]
  cases denotes : digits.denoted raw with
  | none =>
    refine Or.inl ⟨rfl, ?_⟩
    rcases (expand_exact raw).mpr readable with refused | ⟨numbers, -, is⟩
    · exact refused.bind _
    · rw [denotes] at is
      cases is
  | some numbers =>
    rw [expand_readable readable denotes, ok_bind]
    refine Or.inr ⟨numbers, rfl, fun convertible => ?_, ?_⟩
    · cases counted : reason.get "count" with
      | none => exact ⟨_, rfl⟩
      | some count =>
        have read := port_count (convertible count counted)
        simp only [Option.bind_some]
        split
        · rename_i same
          rw [same] at read
          simp [read]
        · rename_i differs
          cases value : digits.value count with
          | none =>
            rw [value] at read
            simp only [read, Bool.not_false, if_true]
            exact ⟨_, rfl⟩
          | some n =>
            rw [value] at read
            have unlike : n ≠ numbers.length := fun same => differs (by rw [value, same])
            simp only [read, Bool.not_true, Bool.false_eq_true, if_false, unlike, not_false_eq_true, if_true]
            exact ⟨_, rfl⟩
    · rintro ⟨count, counted, inconvertible⟩
      obtain ⟨is_digits, raises⟩ := inconvertible_raises inconvertible
      simp [counted, is_digits, raises]

/-- An entry that can be converted adds the ports it lists. -/
theorem normalize_entry_adds (address : Text) {ports : Ports} (distinct : ports.seen.Nodup) {entry : Entry} (convertible : ConvertibleEntry digits entry) :
    match entry_keys digits entry with
    | none => Refused (normalize_entry digits address ports entry)
    | some keys => Adds ports keys (normalize_entry digits address ports entry) := by
  cases entry with
  | port element =>
    simp only [entry_keys, normalize_entry, port_key, normalize_port]
    cases stated : element.find "state" with
    | none => exact adds_nothing distinct
    | some state_element =>
      simp only [Option.bind_eq_bind, Option.bind_some]
      cases named : element.get "portid" with
      | none => exact adds_nothing distinct
      | some raw =>
        rw [port_number_convertible (convertible (by rw [stated]; rfl) raw named), ok_bind]
        simp only [Option.bind_some]
        cases digits.port raw with
        | none => exact adds_nothing distinct
        | some number =>
          simp only [Option.bind_some]
          by_cases counts : (state_element.get "state").getD "unknown".toList ∈ PORT_STATES
          · simp only [counts, not_true_eq_false, if_true, if_false]
            exact append_port_adds digits address distinct _
          · simp only [counts, not_false_eq_true, if_true, if_false]
            exact adds_nothing distinct
  | summary state reason =>
    simp only [entry_keys, normalize_entry, summary_keys]
    cases text : summary_text reason with
    | none =>
      rw [normalize_summary_skips text]
      exact adds_nothing distinct
    | some raw =>
      obtain ⟨readable, counts⟩ := convertible raw text
      rcases normalize_summary_reads address state ports text readable with
        ⟨denotes, refused⟩ | ⟨numbers, denotes, reads, -⟩
      · simp only [denotes, Option.bind_eq_bind, Option.bind_none]
        exact refused
      · have ran := reads (counts (by rw [denotes]; rfl))
        simp only [denotes, Option.bind_eq_bind, Option.bind_some]
        cases counted : (reason.get "count").bind digits.value with
        | none =>
          rw [counted] at ran
          rw [← Option.bind_assoc, counted]
          exact ran
        | some count =>
          rw [counted] at ran
          rw [← Option.bind_assoc, counted, Option.bind_some]
          by_cases same : count = numbers.length
          · rw [if_pos (congrArg some same)] at ran
            rw [if_pos same, ran]
            exact append_ports_add distinct "tcp".toList numbers _ fun _ => rfl
          · rw [if_neg fun is => same (Option.some.inj is)] at ran
            rw [if_neg same]
            exact ran

/-- An entry with a text that cannot be converted raises something else. -/
theorem normalize_entry_inconvertible {entry : Entry} (inconvertible : ¬ConvertibleEntry digits entry) :
    normalize_entry digits address ports entry = .error .unexpected := by
  cases entry with
  | port element =>
    simp only [ConvertibleEntry, Classical.not_imp, not_forall] at inconvertible
    obtain ⟨stated, raw, named, fails⟩ := inconvertible
    obtain ⟨state_element, stated⟩ := Option.isSome_iff_exists.mp stated
    simp only [normalize_entry, normalize_port, stated, named, port_number_inconvertible fails]
    rfl
  | summary state reason =>
    simp only [ConvertibleEntry, not_forall] at inconvertible
    obtain ⟨raw, text, fails⟩ := inconvertible
    by_cases readable : digits.Readable raw
    · have late : (digits.denoted raw).isSome = true ∧ ∃ count, reason.get "count" = some count ∧ ¬digits.Convertible count := by
        by_contra none
        refine fails ⟨readable, fun denotes count counted => ?_⟩
        by_contra inconvertible
        exact none ⟨denotes, count, counted, inconvertible⟩
      obtain ⟨denotes, count, counted, inconvertible⟩ := late
      rcases normalize_summary_reads address state ports text readable with
        ⟨none, -⟩ | ⟨numbers, -, -, raises⟩
      · rw [none] at denotes
        cases denotes
      · exact raises ⟨count, counted, inconvertible⟩
    · obtain ⟨proto, named⟩ := summary_text_some text
      simp only [normalize_entry, normalize_summary, proto, named, ne_eq, not_true_eq_false, if_false]
      rw [(expand_unexpected raw).mpr readable]
      rfl

end

theorem mapM_concat {α β : Type} {f : α → Option β} {xs : List α} {x : α} {ys : List β} :
    (xs ++ [x]).mapM f = some ys ↔ ∃ before y, xs.mapM f = some before ∧ f x = some y ∧ ys = before ++ [y] := by
  rw [List.mapM_append, List.mapM_cons, List.mapM_nil]
  cases xs.mapM f with
  | none => simp
  | some before =>
    cases f x with
    | none => simp
    | some y => simp [eq_comm]

/-- What is seen at the end of entries that were read are the ports they list. -/
theorem normalize_entries_seen {address : Text} {listed : List Entry} {left : Ports}
    (ran : listed.foldlM (normalize_entry digits address) {} = .ok left) : (∀ entry ∈ listed, ConvertibleEntry digits entry) ∧
      left.seen.Nodup ∧ ∃ keys, listed.mapM (entry_keys digits) = some keys ∧ left.seen = keys.flatten.reverse := by
  induction listed using List.reverseRecOn generalizing left with
  | nil =>
    cases ran
    exact ⟨by simp, List.nodup_nil, [], rfl, rfl⟩
  | append_singleton listed entry ih =>
    simp only [List.foldlM_append, List.foldlM_cons, List.foldlM_nil, bind_pure] at ran
    obtain ⟨before, earlier, stepped⟩ := bind_eq_ok.mp ran
    obtain ⟨all, distinct, keys, read, seen⟩ := ih earlier
    by_cases convertible : ConvertibleEntry digits entry
    · have adds := normalize_entry_adds address distinct convertible
      cases own : entry_keys digits entry with
      | none =>
        rw [own] at adds
        obtain ⟨message, refused⟩ := adds
        rw [refused] at stepped
        cases stepped
      | some added =>
        rw [own] at adds
        rcases adds with ⟨left', gives, seen', distinct'⟩ | ⟨⟨message, refused⟩, -⟩
        · rw [gives] at stepped
          cases stepped
          refine ⟨List.forall_mem_append.mpr ⟨all, List.forall_mem_singleton.mpr convertible⟩, distinct', keys ++ [added],
            mapM_concat.mpr ⟨keys, added, read, own, rfl⟩, ?_⟩
          rw [seen', seen, List.flatten_concat, List.reverse_append]
        · rw [refused] at stepped
          cases stepped
    · rw [normalize_entry_inconvertible convertible] at stepped
      cases stepped

/-- Entries are read to the end exactly when all of them can be and their ports
    are distinct. -/
theorem normalize_entries_ok {address : Text} {listed : List Entry} :
    (∃ left, listed.foldlM (normalize_entry digits address) {} = .ok left) ↔ SettledEntries digits listed := by
  constructor
  · rintro ⟨left, ran⟩
    obtain ⟨all, distinct, keys, read, seen⟩ := normalize_entries_seen ran
    exact ⟨all, keys, read, List.nodup_reverse.mp (seen ▸ distinct)⟩
  induction listed using List.reverseRecOn with
  | nil => exact fun _ => ⟨{}, rfl⟩
  | append_singleton listed entry ih =>
    rintro ⟨all, keys, read, distinct⟩
    obtain ⟨earlier, one⟩ := List.forall_mem_append.mp all
    obtain ⟨first, added, read_first, own, rfl⟩ := mapM_concat.mp read
    rw [List.flatten_concat] at distinct
    obtain ⟨before, ran⟩ := ih ⟨earlier, first, read_first, distinct.of_append_left⟩
    obtain ⟨-, seen_distinct, keys, read_keys, seen⟩ := normalize_entries_seen ran
    rw [read_first, Option.some.injEq] at read_keys
    have adds := normalize_entry_adds address seen_distinct (List.forall_mem_singleton.mp one)
    rw [own] at adds
    simp only [List.foldlM_append, List.foldlM_cons, List.foldlM_nil, bind_pure]
    rcases adds with ⟨left, gives, -, -⟩ | ⟨-, again⟩
    · exact ⟨left, bind_eq_ok.mpr ⟨before, ran, gives⟩⟩
    · rw [seen, ← read_keys, ← List.reverse_append] at again
      exact absurd (List.nodup_reverse.mpr distinct) again

/-- `_normalize_ports` raises something else exactly at a text that cannot be
    converted behind entries that are read. -/
theorem normalize_ports_unexpected (host : Element) (address : Text) :
    normalize_ports digits.strings host address = .error .unexpected ↔ ¬ReadableHost digits host := by
  rw [normalize_ports_eq, foldlM_error]
  simp only [ReadableHost, not_forall]
  constructor
  · rintro ⟨before, entry, after, ports, split, ran, raised⟩
    refine ⟨before, entry, after, split, normalize_entries_ok.mp ⟨ports, ran⟩, fun convertible => ?_⟩
    have adds := normalize_entry_adds address (normalize_entries_seen ran).2.1 convertible
    cases own : entry_keys digits entry with
    | none =>
      rw [own] at adds
      obtain ⟨message, refused⟩ := adds
      rw [refused] at raised
      cases raised
    | some added =>
      rw [own] at adds
      rcases adds with ⟨left, gives, -, -⟩ | ⟨⟨message, refused⟩, -⟩
      · rw [gives] at raised
        cases raised
      · rw [refused] at raised
        cases raised
  · rintro ⟨before, entry, after, split, settled, inconvertible⟩
    obtain ⟨ports, ran⟩ := normalize_entries_ok.mpr settled
    exact ⟨before, entry, after, ports, split, ran, normalize_entry_inconvertible inconvertible⟩

/-- A summary is refused or read as what it denotes, a document raises nothing
    else either, exactly where every text of digits that is reached can be
    converted; and every list of ports is read back. -/
theorem port_summaries_exact (digits : Digits) :
    (∀ raw, ExactOrRefused digits raw ↔ digits.Readable raw) ∧
      (∀ host address, (∀ e, normalize_ports digits.strings host address = .error e → ∃ message, e = .adapter_error message) ↔
        ReadableHost digits host) ∧
      ∀ items : List Item, items ≠ [] → (∀ item ∈ items, item.Valid) → Fits (items.flatMap Item.ports) →
        expand_port_summary digits.strings (summary items) = .ok (items.flatMap Item.ports) := by
  refine ⟨expand_exact, fun host address => ?_, fun items some_item valid fits => expand_summary digits some_item valid fits⟩
  rw [← not_iff_not, ← normalize_ports_unexpected host address]
  constructor
  · intro escapes
    simp only [not_forall] at escapes
    obtain ⟨e, ran, other⟩ := escapes
    cases e with
    | adapter_error message => exact absurd ⟨message, rfl⟩ other
    | unexpected => exact ran
  · intro raised handled
    obtain ⟨message, is⟩ := handled _ raised
    cases is

/-- The tables with the ASCII digits and the superscript two, which is a digit
    and not a decimal one. -/
def superscript : Digits where
  digit := fun c => c.isDigit || c == '²'
  decimal := fun c => if c.isDigit then some (c.toNat - '0'.toNat) else none
  upper := id
  decimal_digit := fun c some => by
    split at some
    · rename_i is
      rw [is]
      rfl
    · cases some
  ascii := fun c is => if_pos is

def superscript_host : Element :=
  .node "host".toList [] [.node "ports".toList [] [.node "port".toList [("protocol".toList, "tcp".toList), ("portid".toList, ['²'])]
    [.node "state".toList [("state".toList, "open".toList)] []]]]

/-- The superscript two is neither refused nor read. -/
theorem superscript_escapes : ¬ExactOrRefused superscript ['²'] ∧
    normalize_ports superscript.strings superscript_host "10.0.0.1".toList = .error .unexpected := by
  have raised : expand_port_summary superscript.strings ['²'] = .error .unexpected := by decide +kernel
  refine ⟨?_, by rfl⟩
  rintro (⟨message, refused⟩ | ⟨ports, read, -⟩)
  · rw [raised] at refused
    cases refused
  · rw [raised] at read
    cases read

end RedDock.PortSummaries
