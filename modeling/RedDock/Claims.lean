import RedDock.Runs

/-!
# A record that one party claims

Any number of parties race for a record. A party that takes it holds its lock
until the claim is committed or rolled back, acts at most once for it, and lets
it go. A restart ends every party and closes a record that was taken.
-/
set_option autoImplicit false
namespace RedDock.Claims

/-- How far a party is with the claim. -/
inductive Stage
  | outside
  /-- Its claim is not committed. -/
  | claiming
  /-- Its claim is committed, and it has not acted. -/
  | owning
  | acted
  deriving DecidableEq

inductive Standing
  | free
  | taken
  | closed
  deriving DecidableEq

section
variable (Record Phase Event : Type)

/-- What records, parties and events are, and what the events so far tell of a
    party; an act is good after events that justify it. -/
structure Kind where
  standing : Record → Standing
  stage : Phase → Stage
  acts : Event → Bool
  tells : Nat → Phase → List Event → Prop
  good : Event → List Event → Prop
  later : ∀ {party phase events} new, tells party phase events → tells party phase (new ++ events)

/-- The committed record, who holds its lock, the parties, and their events, the
    latest first. -/
structure World where
  record : Record
  lock : Option Nat := none
  parties : Nat → Phase
  events : List Event := []

/-- What a party leaves. -/
structure Left where
  record : Record
  lock : Option Nat
  phase : Phase
  events : List Event := []

end

section
variable {Record Phase Event : Type} (kind : Kind Record Phase Event)

def Quiet (events : List Event) : Prop := events.countP kind.acts = 0

/-- Everything a party can do with the record. -/
inductive Moves (party : Nat) (record : Record) (lock : Option Nat) (events : List Event) (phase : Phase) : Left Record Phase Event → Prop
  | outside {phase' : Phase} {new : List Event} : kind.stage phase = .outside → kind.stage phase' = .outside → Quiet kind new →
      Moves party record lock events phase ⟨record, lock, phase', new⟩
  | lock {phase' : Phase} {new : List Event} : kind.stage phase = .outside → kind.stage phase' = .claiming → lock = none →
      kind.standing record = .free → Quiet kind new → Moves party record lock events phase ⟨record, some party, phase', new⟩
  | hold {phase' : Phase} : kind.stage phase = .claiming → kind.stage phase' = .claiming →
      Moves party record lock events phase ⟨record, lock, phase', []⟩
  | release {phase' : Phase} : kind.stage phase = .claiming → kind.stage phase' = .outside →
      Moves party record lock events phase ⟨record, none, phase', []⟩
  | take {record' : Record} {phase' : Phase} {new : List Event} : kind.stage phase = .claiming → kind.stage phase' = .owning →
      kind.standing record' = .taken → Quiet kind new → Moves party record lock events phase ⟨record', none, phase', new⟩
  | refuse {record' : Record} {phase' : Phase} : kind.stage phase = .claiming → kind.stage phase' = .outside →
      kind.standing record' = .closed → Moves party record lock events phase ⟨record', none, phase', []⟩
  | own {phase' : Phase} : kind.stage phase = .owning → kind.stage phase' = .owning ∨ kind.stage phase' = .acted →
      Moves party record lock events phase ⟨record, lock, phase', []⟩
  | act {phase' : Phase} {event : Event} : kind.stage phase = .owning → kind.stage phase' = .acted → kind.acts event = true →
      (kind.tells party phase events → kind.good event events) → Moves party record lock events phase ⟨record, lock, phase', [event]⟩
  | work {record' : Record} {phase' : Phase} : kind.stage phase = .acted → kind.stage phase' = .acted → kind.standing record' = .taken →
      Moves party record lock events phase ⟨record', lock, phase', []⟩
  | leave {record' : Record} {phase' : Phase} : kind.stage phase = .owning ∨ kind.stage phase = .acted → kind.stage phase' = .outside →
      kind.standing record' ≠ .free → Moves party record lock events phase ⟨record', lock, phase', []⟩

/-- The world after a party's move. -/
def World.after (world : World Record Phase Event) (party : Nat) (left : Left Record Phase Event) : World Record Phase Event where
  record := left.record
  lock := left.lock
  parties := Function.update world.parties party left.phase
  events := left.events ++ world.events

inductive Step (world : World Record Phase Event) : World Record Phase Event → Prop
  | move {party : Nat} {left : Left Record Phase Event} :
      Moves kind party world.record world.lock world.events (world.parties party) left →
      (kind.tells party (world.parties party) world.events → kind.tells party left.phase (left.events ++ world.events)) →
      Step world (world.after party left)
  | restart {record : Record} {parties : Nat → Phase} : (∀ party, kind.stage (parties party) = .outside) →
      (∀ party, kind.tells party (world.parties party) world.events → kind.tells party (parties party) world.events) →
      record = world.record ∨ (kind.standing world.record = .taken ∧ kind.standing record = .closed) →
      Step world ⟨record, none, parties, world.events⟩
  | elsewhere : Step world world

/-! ### Invariants -/

/-- Where a party stands with the record. -/
def Stands (party : Nat) (phase : Phase) (record : Record) (lock : Option Nat) (events : List Event) : Prop :=
  match kind.stage phase with
  | .outside => True
  | .claiming => lock = some party ∧ kind.standing record = .free
  | .owning => kind.standing record = .taken ∧ Quiet kind events
  | .acted => kind.standing record = .taken

structure Inv (world : World Record Phase Event) : Prop where
  sole : ∀ party other, kind.stage (world.parties party) ≠ .outside → kind.stage (world.parties other) ≠ .outside → party = other
  stands : ∀ party, Stands kind party (world.parties party) world.record world.lock world.events
  free : kind.standing world.record = .free → Quiet kind world.events
  once : world.events.countP kind.acts ≤ 1
  told : ∀ party, kind.tells party (world.parties party) world.events
  justified : ∀ later event earlier, world.events = later ++ event :: earlier → kind.acts event = true → kind.good event earlier

variable {kind}

theorem stands_outside {party : Nat} {phase : Phase} {record : Record} {lock : Option Nat} {events : List Event}
    (outside : kind.stage phase = .outside) : Stands kind party phase record lock events := by
  rw [Stands, outside]
  trivial

theorem quiet_append {new events : List Event} (first : Quiet kind new) (rest : Quiet kind events) : Quiet kind (new ++ events) := by
  rw [Quiet, List.countP_append, first, rest]

theorem Stands.quiet {party : Nat} {phase : Phase} {record : Record} {lock : Option Nat} {events new : List Event}
    (stands : Stands kind party phase record lock events) (quiet : Quiet kind new) : Stands kind party phase record lock (new ++ events) := by
  unfold Stands at stands ⊢
  cases stage : kind.stage phase with
  | owning =>
    rw [stage] at stands
    exact ⟨stands.1, quiet_append quiet stands.2⟩
  | _ =>
    rw [stage] at stands
    exact stands

/-- A quiet event list in front leaves the acts where they are. -/
theorem justified_quiet {new events : List Event} (quiet : Quiet kind new)
    (justified : ∀ later event earlier, events = later ++ event :: earlier → kind.acts event = true → kind.good event earlier) :
    ∀ later event earlier, new ++ events = later ++ event :: earlier → kind.acts event = true → kind.good event earlier := by
  induction new with
  | nil => exact justified
  | cons first new ih =>
    have silent : kind.acts first = false ∧ Quiet kind new := by
      unfold Quiet at quiet
      rw [List.countP_cons] at quiet
      by_cases acts : kind.acts first = true
      · rw [if_pos acts] at quiet
        omega
      · rw [if_neg acts] at quiet
        exact ⟨Bool.not_eq_true _ ▸ acts, by unfold Quiet; omega⟩
    intro later event earlier split acts
    cases later with
    | nil =>
      rw [List.cons_append] at split
      obtain ⟨rfl, _⟩ := List.cons.inj split
      exact Bool.noConfusion (silent.1.symm.trans acts)
    | cons other later => exact ih silent.2 later event earlier (List.cons.inj split).2 acts

section
variable {world : World Record Phase Event} {party : Nat}

theorem Inv.outside (inv : Inv kind world) (stage : kind.stage (world.parties party) ≠ .outside) {other : Nat} (apart : other ≠ party) :
    kind.stage (world.parties other) = .outside := by
  by_contra inside
  exact apart (inv.sole other party inside stage)

/-- Nobody is inside where the record is free and unlocked. -/
theorem Inv.unlocked (inv : Inv kind world) (unlocked : world.lock = none) (free : kind.standing world.record = .free) (other : Nat) :
    kind.stage (world.parties other) = .outside := by
  have stands := inv.stands other
  unfold Stands at stands
  cases stage : kind.stage (world.parties other) with
  | outside => rfl
  | claiming =>
    rw [stage, unlocked] at stands
    cases stands.1
  | owning =>
    rw [stage, free] at stands
    cases stands.1
  | acted =>
    rw [stage, free] at stands
    cases stands

/-- A move of a party while the others are outside. -/
theorem Inv.alone {left : Left Record Phase Event} (inv : Inv kind world)
    (others : ∀ other, other ≠ party → kind.stage (world.parties other) = .outside)
    (stands : Stands kind party left.phase left.record left.lock (left.events ++ world.events))
    (free : kind.standing left.record = .free → Quiet kind (left.events ++ world.events))
    (once : (left.events ++ world.events).countP kind.acts ≤ 1)
    (tells : kind.tells party (world.parties party) world.events → kind.tells party left.phase (left.events ++ world.events))
    (justified : ∀ later event earlier, left.events ++ world.events = later ++ event :: earlier → kind.acts event = true →
      kind.good event earlier) : Inv kind (world.after party left) where
  sole one other inside inside' := by
    have only : ∀ one, kind.stage ((world.after party left).parties one) ≠ .outside → one = party := by
      intro one inside
      by_contra apart
      apply inside
      show kind.stage (Function.update world.parties party left.phase one) = .outside
      rw [Function.update_of_ne apart]
      exact others one apart
    rw [only one inside, only other inside']
  stands other := by
    show Stands kind other (Function.update world.parties party left.phase other) left.record left.lock (left.events ++ world.events)
    by_cases same : other = party
    · rw [same, Function.update_self]
      exact stands
    · rw [Function.update_of_ne same]
      exact stands_outside (others other same)
  free := free
  once := once
  told other := by
    show kind.tells other (Function.update world.parties party left.phase other) (left.events ++ world.events)
    by_cases same : other = party
    · rw [same, Function.update_self]
      exact tells (inv.told party)
    · rw [Function.update_of_ne same]
      exact kind.later _ (inv.told other)
  justified := justified

theorem Inv.quiet_once (inv : Inv kind world) {new : List Event} (quiet : Quiet kind new) : (new ++ world.events).countP kind.acts ≤ 1 := by
  rw [List.countP_append, quiet, Nat.zero_add]
  exact inv.once

/-- A quiet move outside. -/
theorem Inv.move_outside {phase : Phase} {new : List Event} (inv : Inv kind world) (before : kind.stage (world.parties party) = .outside)
    (after : kind.stage phase = .outside) (quiet : Quiet kind new)
    (tells : kind.tells party (world.parties party) world.events → kind.tells party phase (new ++ world.events)) :
    Inv kind (world.after party ⟨world.record, world.lock, phase, new⟩) where
  sole one other inside inside' := by
    have same_stage : ∀ one, kind.stage ((world.after party ⟨world.record, world.lock, phase, new⟩).parties one) =
        kind.stage (world.parties one) := by
      intro one
      show kind.stage (Function.update world.parties party phase one) = _
      by_cases same : one = party
      · rw [same, Function.update_self, after, before]
      · rw [Function.update_of_ne same]
    rw [same_stage] at inside inside'
    exact inv.sole one other inside inside'
  stands other := by
    show Stands kind other (Function.update world.parties party phase other) world.record world.lock (new ++ world.events)
    by_cases same : other = party
    · rw [same, Function.update_self]
      exact stands_outside after
    · rw [Function.update_of_ne same]
      exact (inv.stands other).quiet quiet
  free is := quiet_append quiet (inv.free is)
  once := inv.quiet_once quiet
  told other := by
    show kind.tells other (Function.update world.parties party phase other) (new ++ world.events)
    by_cases same : other = party
    · rw [same, Function.update_self]
      exact tells (inv.told party)
    · rw [Function.update_of_ne same]
      exact kind.later _ (inv.told other)
  justified := justified_quiet quiet inv.justified

end

section
variable {party : Nat} {phase : Phase} {record : Record} {lock : Option Nat} {events : List Event}

theorem Stands.owning (stands : Stands kind party phase record lock events) (stage : kind.stage phase = .owning) :
    kind.standing record = .taken ∧ Quiet kind events := by
  rw [Stands, stage] at stands
  exact stands

theorem Stands.claiming (stands : Stands kind party phase record lock events) (stage : kind.stage phase = .claiming) :
    lock = some party ∧ kind.standing record = .free := by
  rw [Stands, stage] at stands
  exact stands

theorem Stands.acted (stands : Stands kind party phase record lock events) (stage : kind.stage phase = .acted) :
    kind.standing record = .taken := by
  rw [Stands, stage] at stands
  exact stands

/-- The stages after the claim is committed. -/
theorem Stands.taken (stands : Stands kind party phase record lock events) (stage : kind.stage phase = .owning ∨ kind.stage phase = .acted) :
    kind.standing record = .taken := by
  rcases stage with owning | acted
  · exact (stands.owning owning).1
  · exact stands.acted acted

theorem stands_taken (stage : kind.stage phase = .acted) (taken : kind.standing record = .taken) :
    Stands kind party phase record lock events := by
  rw [Stands, stage]
  exact taken

end

theorem not_outside {phase : Phase} {stage : Stage} (is : kind.stage phase = stage) (apart : stage ≠ .outside) :
    kind.stage phase ≠ .outside := by
  rw [is]
  exact apart

theorem inv_move {world : World Record Phase Event} {party : Nat} {left : Left Record Phase Event} (inv : Inv kind world)
    (moves : Moves kind party world.record world.lock world.events (world.parties party) left)
    (tells : kind.tells party (world.parties party) world.events → kind.tells party left.phase (left.events ++ world.events)) :
    Inv kind (world.after party left) := by
  cases moves with
  | outside before after quiet => exact inv.move_outside before after quiet tells
  | lock before after unlocked free quiet =>
    refine inv.alone (fun other _ => inv.unlocked unlocked free other) ?_ (fun is => quiet_append quiet (inv.free is)) (inv.quiet_once quiet) tells
      (justified_quiet quiet inv.justified)
    rw [Stands, after]
    exact ⟨rfl, free⟩
  | hold before after =>
    have stands := (inv.stands party).claiming before
    refine inv.alone (fun other apart => inv.outside (not_outside before nofun) apart) ?_ inv.free inv.once tells inv.justified
    rw [Stands, after]
    exact stands
  | release before after =>
    exact inv.alone (fun other apart => inv.outside (not_outside before nofun) apart) (stands_outside after) inv.free inv.once tells inv.justified
  | take before after taken quiet =>
    have stands := (inv.stands party).claiming before
    refine inv.alone (fun other apart => inv.outside (not_outside before nofun) apart) ?_ (fun is => ?_) (inv.quiet_once quiet) tells
      (justified_quiet quiet inv.justified)
    · rw [Stands, after]
      exact ⟨taken, quiet_append quiet (inv.free stands.2)⟩
    · cases taken.symm.trans is
  | refuse before after closed =>
    refine inv.alone (fun other apart => inv.outside (not_outside before nofun) apart) (stands_outside after) (fun is => ?_) inv.once tells
      inv.justified
    cases closed.symm.trans is
  | own before after =>
    have stands := (inv.stands party).owning before
    refine inv.alone (fun other apart => inv.outside (not_outside before nofun) apart) ?_ inv.free inv.once tells inv.justified
    rcases after with owning | acted
    · rw [Stands, owning]
      exact stands
    · exact stands_taken acted stands.1
  | @act phase' event before after acts good =>
    have stands := (inv.stands party).owning before
    refine inv.alone (fun other apart => inv.outside (not_outside before nofun) apart) (stands_taken after stands.1) (fun is => ?_) ?_ tells ?_
    · cases stands.1.symm.trans is
    · show List.countP _ (event :: world.events) ≤ 1
      rw [List.countP_cons, stands.2, if_pos acts]
    · intro later other earlier split acted
      cases later with
      | nil =>
        obtain ⟨rfl, rfl⟩ := List.cons.inj split
        exact good (inv.told party)
      | cons first later => exact inv.justified later other earlier (List.cons.inj split).2 acted
  | work before after taken =>
    refine inv.alone (fun other apart => inv.outside (not_outside before nofun) apart) (stands_taken after taken) (fun is => ?_) inv.once tells
      inv.justified
    cases taken.symm.trans is
  | leave before after closed =>
    have inside : kind.stage (world.parties party) ≠ .outside := by
      rcases before with owning | acted
      · exact not_outside owning nofun
      · exact not_outside acted nofun
    exact inv.alone (fun other apart => inv.outside inside apart) (stands_outside after) (fun is => absurd is closed) inv.once tells
      inv.justified

theorem inv_step {world world' : World Record Phase Event} (inv : Inv kind world) (stepped : Step kind world world') : Inv kind world' := by
  cases stepped with
  | move moves tells => exact inv_move inv moves tells
  | restart ended told closes =>
    refine ⟨fun party _ inside => absurd (ended party) inside, fun party => stands_outside (ended party), fun is => ?_, inv.once,
      fun party => told party (inv.told party), inv.justified⟩
    rcases closes with rfl | ⟨_, closed⟩
    · exact inv.free is
    · cases closed.symm.trans is
  | elsewhere => exact inv

/-- A record that is closed stays as it is. -/
theorem closed_step {world world' : World Record Phase Event} (inv : Inv kind world) (closed : kind.standing world.record = .closed)
    (stepped : Step kind world world') : world'.record = world.record := by
  cases stepped with
  | @move party left moves tells =>
    have never : kind.standing world.record ≠ .taken := by
      rw [closed]
      exact nofun
    have unclaimed : kind.stage (world.parties party) ≠ .claiming := fun stage =>
      nomatch closed.symm.trans ((inv.stands party).claiming stage).2
    cases moves with
    | outside => rfl
    | lock _ _ _ free _ => cases closed.symm.trans free
    | hold before _ => exact absurd before unclaimed
    | release before _ => exact absurd before unclaimed
    | take before _ _ _ => exact absurd before unclaimed
    | refuse before _ _ => exact absurd before unclaimed
    | own before _ => exact absurd ((inv.stands party).taken (Or.inl before)) never
    | act before _ _ _ => exact absurd ((inv.stands party).taken (Or.inl before)) never
    | work before _ _ => exact absurd ((inv.stands party).taken (Or.inr before)) never
    | leave before _ _ => exact absurd ((inv.stands party).taken before) never
  | restart _ _ closes =>
    rcases closes with same | ⟨taken, _⟩
    · exact same
    · cases closed.symm.trans taken
  | elsewhere => rfl

/-! ### Machines that claim -/

theorem Inv.begins {world : World Record Phase Event} (outside : ∀ party, kind.stage (world.parties party) = .outside)
    (silent : world.events = []) (told : ∀ party, kind.tells party (world.parties party) []) : Inv kind world := by
  refine ⟨fun party _ inside => absurd (outside party) inside, fun party => stands_outside (outside party), ?_, ?_, ?_, ?_⟩
  · intro _
    rw [silent]
    rfl
  · rw [silent]
    exact Nat.zero_le _
  · rw [silent]
    exact told
  · intro later event earlier split
    rw [silent] at split
    exact absurd split.symm (List.append_ne_nil_of_right_ne_nil _ (List.cons_ne_nil _ _))

section
variable {State Action : Type} {step : State → Action → Option State} {claim : State → World Record Phase Event} {also : State → Prop}
  (claims : ∀ s action s', Inv kind (claim s) ∧ also s → step s action = some s' → Step kind (claim s) (claim s') ∧ also s')
include claims

/-- The invariant holds after every run of a machine that claims, with what
    else its steps keep. -/
theorem inv_run {s t : State} {actions : List Action} (inv : Inv kind (claim s) ∧ also s) (ran : Runs.run step s actions = some t) :
    Inv kind (claim t) ∧ also t := by
  refine Runs.invariant_run (fun s => Inv kind (claim s) ∧ also s) (fun s action s' held stepped => ?_) inv ran
  obtain ⟨moved, kept⟩ := claims s action s' held stepped
  exact ⟨inv_step held.1 moved, kept⟩

/-- Once closed, a record stays as it is in every run. -/
theorem closed_run {s t : State} {actions : List Action} (inv : Inv kind (claim s) ∧ also s)
    (closed : kind.standing (claim s).record = .closed) (ran : Runs.run step s actions = some t) : (claim t).record = (claim s).record := by
  have kept := Runs.invariant_run (fun s' => (Inv kind (claim s') ∧ also s') ∧ (claim s').record = (claim s).record) ?_ ⟨inv, rfl⟩ ran
  · exact kept.2
  · rintro s' action s'' ⟨held, same⟩ stepped
    obtain ⟨moved, kept⟩ := claims s' action s'' held stepped
    refine ⟨⟨inv_step held.1 moved, kept⟩, (closed_step held.1 ?_ moved).trans same⟩
    rw [same]
    exact closed

end
end
end RedDock.Claims
