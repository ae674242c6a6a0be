import ArenaPaths.Proofs.Directory

/-!
# Directories as finite maps

A directory is a finite map from ids to nodes, be it hashed or dense, however its ids
fall into buckets and however often one of them is registered again. Looking up an id
gives the node of the last registration that succeeded. A registration is refused if the
slab of entries is full or the id lies beyond the table, and for no other reason; then
nothing changes. Hence two directories that refuse nothing cannot be told apart by what
they find.

Main statement: `Directory.registrations_refine_map`.
-/

namespace ArenaPaths

open ArenaPaths.Action

namespace Strategy

/-- The fault with which a directory refuses an id once it holds the given number of
entries, if it does. Only a hashed one runs out of entries. -/
def refusal (entries held : Nat) (id : UInt32) : Strategy → Option Fault
  | .hashed _ =>
    if held = entries then some (.boundExceeded "index entries" entries) else none
  | .dense greatest =>
    if greatest < id then some (.idBeyondTable id.toNat greatest.toNat) else none

section Refusal

variable {entries held : Nat} {buckets greatest id : UInt32} {fault : Fault}

theorem refusal_hashed_eq_some : (hashed buckets).refusal entries held id = some fault ↔
    held = entries ∧ .boundExceeded "index entries" entries = fault := by
  simp [refusal]

theorem refusal_hashed_eq_none : (hashed buckets).refusal entries held id = none ↔
    held ≠ entries := by
  simp [refusal]

theorem refusal_dense_eq_some : (dense greatest).refusal entries held id = some fault ↔
    greatest < id ∧ .idBeyondTable id.toNat greatest.toNat = fault := by
  simp [refusal]

theorem refusal_dense_eq_none : (dense greatest).refusal entries held id = none ↔
    id ≤ greatest := by
  simp [refusal]

end Refusal

/-- A directory that holds the given number of entries has room for all
registrations. -/
def Takes (entries held : Nat) (registrations : Roll) : Strategy → Prop
  | .hashed _ => held + registrations.length ≤ entries
  | .dense greatest => ∀ registration ∈ registrations, registration.1 ≤ greatest

/-- A directory that has room for all registrations takes the first one, and then has
room for the others. -/
theorem Takes.cons {strategy : Strategy} {entries held : Nat}
    {registration : UInt32 × NodeRef} {others : Roll}
    (takes : strategy.Takes entries held (registration :: others)) :
    strategy.refusal entries held registration.1 = none ∧
    strategy.Takes entries (held + 1) others := by
  cases strategy with
  | hashed buckets =>
    have enough : held + (others.length + 1) ≤ entries := takes
    refine ⟨refusal_hashed_eq_none.mpr (by omega), ?_⟩
    change held + 1 + others.length ≤ entries
    omega
  | dense greatest =>
    have inside : registration.1 ≤ greatest := takes registration List.mem_cons_self
    exact ⟨refusal_dense_eq_none.mpr inside,
      fun other member => takes other (List.mem_cons_of_mem _ member)⟩

end Strategy

namespace Roll

/-- The registrations that succeeded, the latest first. -/
def succeeded : Roll → List (Except Fault Unit) → Roll
  | registration :: others,
      .ok () :: results => succeeded others results ++ [registration]
  | _ :: others, .error _ :: results => succeeded others results
  | _, _ => []

end Roll

namespace Directory

variable {strategy : Strategy} {entries : Nat} {state : Directory × Arena} {roll : Roll}

/-- Register the node of an id in a directory whose tables stand in an arena. -/
def register (registration : UInt32 × NodeRef) : Action (Directory × Arena) Unit := do
  let (directory, arena) ← get
  let after ← onSecond
    (Arena.onMemory (directory.insert arena.window registration.1 registration.2))
  onFirst (set after)

/-- Look up an id in a directory whose tables stand in an arena. -/
def find (id : UInt32) : Action (Directory × Arena) (Option NodeRef) := do
  let (directory, arena) ← get
  onSecond (Arena.onMemory (directory.lookup arena.window id))

/-! ## Steps on the arena from steps on its bytes -/

section Steps

variable {directory after : Directory} {arena : Arena} {memory : Memory} {id : UInt32}
  {node : NodeRef} {fault : Fault}

theorem register_eq_ok
    (inserted : directory.insert arena.window id node arena.memory = .ok after memory) :
    register (id, node) (directory, arena)
      = .ok () (after, arena.withMemory memory) := by
  have onArena : Arena.onMemory (directory.insert arena.window id node) arena
      = .ok after (arena.withMemory memory) :=
    focus_eq_ok inserted
  simp only [register, get_bind_apply, bind_ok (onSecond_eq_ok onArena)]
  exact onFirst_eq_ok (set_apply directory after)

theorem register_eq_error
    (refused : directory.insert arena.window id node arena.memory
      = .error fault arena.memory) :
    register (id, node) (directory, arena) = .error fault (directory, arena) := by
  have onArena : Arena.onMemory (directory.insert arena.window id node) arena
      = .error fault arena :=
    focus_eq_error refused
  simp only [register, get_bind_apply, bind_error (onSecond_eq_error onArena)]

theorem find_eq_ok {node? : Option NodeRef}
    (found : directory.lookup arena.window id arena.memory = .ok node? arena.memory) :
    find id (directory, arena) = .ok node? (directory, arena) := by
  have onArena : Arena.onMemory (directory.lookup arena.window id) arena
      = .ok node? arena := focus_eq_ok found
  simp only [find, get_bind_apply, onSecond_eq_ok onArena]

end Steps

/-! ## The map that a directory holds -/

/-- A directory of a strategy stands in an arena and holds the entries of a roll, out of
as many as it has room for. -/
structure Maps (strategy : Strategy) (entries : Nat) (state : Directory × Arena)
    (roll : Roll) : Prop where
  sound : state.2.Sound
  strategy_eq : state.1.strategy = strategy
  hasRoom : state.1.HasRoom entries
  holds : ∃ low high, state.2.window.low ≤ low ∧ high ≤ state.2.window.high ∧
    state.1.Holds state.2.window.address low high state.2.memory roll

/-- A directory that was laid out is the empty map. -/
theorem maps_of_create {arena laid : Arena} {directory : Directory}
    (sound : arena.Sound)
    (created : create strategy entries arena = .ok directory laid) :
    Maps strategy entries (directory, laid) [] := by
  obtain ⟨extended, hasRoom, strategy_eq, holds⟩ := holds_of_create sound created
  refine ⟨extended.sound, strategy_eq, hasRoom, arena.used, laid.used, ?_,
    Nat.le_refl _, ?_⟩
  · change laid.granule ≤ arena.used
    rw [extended.granule_eq]
    exact sound.granule_le_used
  · change directory.Holds laid.window.address arena.used laid.used laid.memory []
    rw [extended.address_eq]
    exact holds

namespace Maps

variable (maps : Maps strategy entries state roll)
include maps

theorem find_eq (id : UInt32) : find id state = .ok (roll.lookup id) state := by
  obtain ⟨directory, arena⟩ := state
  obtain ⟨low, high, lower, upper, holds⟩ := maps.holds
  exact find_eq_ok (holds.lookup_eq maps.sound.window_sound lower upper id)

/-- A full slab and an id beyond the table are found out before anything is written. -/
theorem register_of_refusal {registration : UInt32 × NodeRef} {fault : Fault}
    (refused : strategy.refusal entries roll.length registration.1 = some fault) :
    register registration state = .error fault state := by
  obtain ⟨directory, arena⟩ := state
  obtain ⟨id, node⟩ := registration
  obtain ⟨_, rfl, hasRoom, low, high, _, _, holds⟩ := maps
  apply register_eq_error
  cases directory with
  | hashed directory =>
    obtain ⟨bucketsAt, entriesAt, holds⟩ := holds
    obtain rfl : directory.capacity = entries := hasRoom
    obtain ⟨full, rfl⟩ := Strategy.refusal_hashed_eq_some.mp refused
    exact bind_error (directory.insert_of_full
        (holds.used_eq.trans full) arena.window id node arena.memory)
  | dense directory =>
    obtain ⟨beyond, rfl⟩ := Strategy.refusal_dense_eq_some.mp refused
    exact insert_of_greatest_lt rfl beyond arena.window node arena.memory

/-- Whatever is not refused becomes the newest entry. -/
theorem register_of_room {registration : UInt32 × NodeRef}
    (taken : strategy.refusal entries roll.length registration.1 = none) :
    ∃ after, register registration state = .ok () after ∧
      Maps strategy entries after (registration :: roll) := by
  obtain ⟨directory, arena⟩ := state
  obtain ⟨id, node⟩ := registration
  obtain ⟨sound, rfl, hasRoom, low, high, lower, upper, holds⟩ := maps
  cases directory with
  | hashed directory =>
    obtain ⟨bucketsAt, entriesAt, holds⟩ := holds
    obtain rfl : directory.capacity = entries := hasRoom
    have room : roll.length < directory.capacity :=
      Nat.lt_of_le_of_ne holds.used_le (Strategy.refusal_hashed_eq_none.mp taken)
    have inserted := holds.insert_eq sound.window_sound lower upper room id node
    refine ⟨_, register_eq_ok (bind_ok inserted), sound.withMemory _, rfl, rfl, low,
      high, ?_⟩
    simp only [Arena.window_withMemory, Arena.memory_withMemory]
    exact ⟨lower, upper, bucketsAt, entriesAt, holds.cons room id node⟩
  | dense directory =>
    obtain ⟨tableAt, holds⟩ := holds
    have inside : id ≤ directory.greatest := Strategy.refusal_dense_eq_none.mp taken
    have inserted := holds.insert_eq sound.window_sound lower upper inside node
    refine ⟨_, register_eq_ok (bind_ok inserted), sound.withMemory _, rfl, hasRoom, low,
      high, ?_⟩
    simp only [Arena.window_withMemory, Arena.memory_withMemory]
    exact ⟨lower, upper, tableAt, holds.cons inside node⟩

/-- However registrations end, the directory holds those that succeeded in front of what
it held before. -/
theorem registerAll (registrations : Roll) :
    ∃ results after, outcomes (registrations.map register) state = (results, after) ∧
      Maps strategy entries after (registrations.succeeded results ++ roll) := by
  induction registrations generalizing state roll with
  | nil => exact ⟨[], state, rfl, maps⟩
  | cons registration others ih =>
    cases refused : strategy.refusal entries roll.length registration.1 with
    | some fault =>
      -- the others meet the directory as it was
      obtain ⟨results, after, ran, held⟩ := ih maps
      exact ⟨_, after,
        outcomes_cons (outcome_of_error (maps.register_of_refusal refused)) ran, held⟩
    | none =>
      obtain ⟨between, registered, grown⟩ := maps.register_of_room refused
      obtain ⟨results, after, ran, held⟩ := ih grown
      refine ⟨_, after, outcomes_cons (outcome_of_ok registered) ran, ?_⟩
      rw [Roll.succeeded, List.append_assoc]
      exact held

/-- A directory that has room for all registrations ends up with each of them. -/
theorem registerAll_of_takes {registrations : Roll}
    (takes : strategy.Takes entries roll.length registrations) :
    ∃ after, outcomes (registrations.map register) state
      = (registrations.map fun _ => .ok (), after) ∧
      Maps strategy entries after (registrations.reverse ++ roll) := by
  induction registrations generalizing state roll with
  | nil => exact ⟨state, rfl, maps⟩
  | cons registration others ih =>
    obtain ⟨taken, takesOthers⟩ := takes.cons
    obtain ⟨between, registered, grown⟩ := maps.register_of_room taken
    obtain ⟨after, ran, held⟩ := ih grown takesOthers
    refine ⟨after, outcomes_cons (outcome_of_ok registered) ran, ?_⟩
    rw [List.reverse_cons, List.append_assoc]
    exact held

end Maps

/-- Register nodes one after another in a directory that was laid out in any arena.
Looking up an id then gives the node of its last registration that succeeded. The next
registration fails exactly if the directory refuses it, and then leaves every byte and
every count as it was; no other fault arises. A directory that refuses none of the
registrations answers like every other one that refuses none, whichever strategies the
two have. -/
theorem registrations_refine_map {arena laid : Arena} {directory : Directory}
    (obtainable : arena.Obtainable)
    (created : create strategy entries arena = .ok directory laid)
    (registrations : Roll) :
    ∃ results state,
      outcomes (registrations.map register) (directory, laid) = (results, state) ∧
      (∀ id, find id state = .ok ((registrations.succeeded results).lookup id) state) ∧
      (∀ registration,
        match strategy.refusal entries (registrations.succeeded results).length
          registration.1 with
        | some fault => register registration state = .error fault state
        | none => ∃ after, register registration state = .ok () after) ∧
      (strategy.Takes entries 0 registrations →
        results = registrations.map (fun _ => .ok ()) ∧
        ∀ otherStrategy otherEntries otherArena other otherLaid, otherArena.Obtainable →
          create otherStrategy otherEntries otherArena = .ok other otherLaid →
          otherStrategy.Takes otherEntries 0 registrations →
          ∃ otherState,
            outcomes (registrations.map register) (other, otherLaid)
              = (results, otherState) ∧
            ∀ id, (find id).result otherState = (find id).result state) := by
  have fresh := maps_of_create obtainable.sound created
  obtain ⟨results, state, ran, maps⟩ := fresh.registerAll registrations
  rw [List.append_nil] at maps
  refine ⟨results, state, ran, maps.find_eq, ?_, ?_⟩
  · intro registration
    split
    · rename_i fault refused
      exact maps.register_of_refusal refused
    · rename_i taken
      obtain ⟨after, registered, _⟩ := maps.register_of_room taken
      exact ⟨after, registered⟩
  · intro takes
    obtain ⟨after, ranAll, held⟩ := fresh.registerAll_of_takes takes
    obtain ⟨rfl, rfl⟩ := Prod.mk.inj (ran.symm.trans ranAll)
    refine ⟨rfl, ?_⟩
    intro otherStrategy otherEntries otherArena other otherLaid otherObtainable
      otherCreated otherTakes
    have otherFresh := maps_of_create otherObtainable.sound otherCreated
    obtain ⟨otherState, otherRan, otherHeld⟩ :=
      otherFresh.registerAll_of_takes otherTakes
    refine ⟨otherState, otherRan, fun id => ?_⟩
    rw [result_of_ok (otherHeld.find_eq id), result_of_ok (held.find_eq id)]

/-- Three registrations of two ids that fall into one bucket, the second one of an id
taking over from the first. -/
def overtaking : Roll :=
  [(7, ⟨256, by decide⟩), (9, ⟨272, by decide⟩), (7, ⟨288, by decide⟩)]

/-- A single bucket whose last entry ends at the last address takes three registrations
and refuses a fourth. A table up to nine that is laid out instead answers alike. -/
theorem registrations_refine_map_in_single_bucket :
    ∃ arena directory laid state other otherLaid otherState,
      Arena.ofBacking ⟨.heap, 0xFFFFFFB0, 80, .zeros⟩ 16 = .ok arena ∧
      create (.hashed 1) 3 arena = .ok directory laid ∧ laid.used = 80 ∧
      outcomes (overtaking.map register) (directory, laid)
        = ([.ok (), .ok (), .ok ()], state) ∧
      find 7 state = .ok (some ⟨288, by decide⟩) state ∧
      find 9 state = .ok (some ⟨272, by decide⟩) state ∧
      find 5 state = .ok none state ∧
      register (5, ⟨256, by decide⟩) state
        = .error (.boundExceeded "index entries" 3) state ∧
      create (.dense 9) 0 arena = .ok other otherLaid ∧
      outcomes (overtaking.map register) (other, otherLaid)
        = ([.ok (), .ok (), .ok ()], otherState) ∧
      ∀ id, (find id).result otherState = (find id).result state := by
  have opened : Arena.ofBacking ⟨.heap, 0xFFFFFFB0, 80, .zeros⟩ 16
      = .ok ⟨⟨.heap, 0xFFFFFFB0, 80, .zeros⟩, 0xFFFFFFB0, 16, 16, 0⟩ := rfl
  obtain ⟨directory, laid, created, full⟩ : ∃ directory laid,
      create (.hashed 1) 3 ⟨⟨.heap, 0xFFFFFFB0, 80, .zeros⟩, 0xFFFFFFB0, 16, 16, 0⟩
        = .ok directory laid ∧
      laid.used = 80 :=
    ⟨_, _, rfl, rfl⟩
  obtain ⟨other, otherLaid, otherCreated⟩ : ∃ other otherLaid,
      create (.dense 9) 0 ⟨⟨.heap, 0xFFFFFFB0, 80, .zeros⟩, 0xFFFFFFB0, 16, 16, 0⟩
        = .ok other otherLaid :=
    ⟨_, _, rfl⟩
  obtain ⟨results, state, ran, finds, next, agree⟩ :=
    registrations_refine_map (.ofBacking opened) created overtaking
  obtain ⟨rfl, agrees⟩ := agree (by decide : 0 + overtaking.length ≤ 3)
  obtain ⟨otherState, otherRan, alike⟩ :=
    agrees (.dense 9) 0 _ other otherLaid (.ofBacking opened) otherCreated
    (by decide : ∀ registration ∈ overtaking, registration.1 ≤ 9)
  exact ⟨_, directory, laid, state, other, otherLaid, otherState, opened, created, full,
    ran, finds 7, finds 9, finds 5, next (5, ⟨256, by decide⟩), otherCreated, otherRan,
    alike⟩

end Directory

end ArenaPaths
