import ArenaPaths.Proofs.Frontier
import Mathlib.Data.Multiset.AddSub

/-!
# Frontiers as priority queues

Items go into a frontier and come out of it in any order, at the hands of the host or of
the device, each through a window of its own. What they deal with is a priority queue: a
multiset of items with room for so many of them, out of which comes a cheapest one.
Which of several cheapest ones that is the queue leaves open.

The slots of the frontier, as anyone reads them, hold these items and no others, and no
bytes but those of the slots are ever written.
-/

namespace ArenaPaths.Frontier

/-- A cost and a node, as they go into a frontier and come out of it. -/
abbrev Item := UInt32 × NodeRef

/-- The slot that holds an item. -/
def Item.slot (item : Item) : Slot := ⟨item.1, item.2.address⟩

/-! ## Priority queues -/

/-- What can be done to a frontier. -/
inductive Operation where
  | push (item : Item)
  | pop
  | clear
  deriving DecidableEq, Repr

/-- What an operation gives, if anything, between the items held before it and those
held after it, in a priority queue with room for `capacity` items. -/
inductive Operation.Serves (capacity : Nat) :
    Operation → Multiset Item → Except Fault (Option Item) → Multiset Item → Prop
  | push (item : Item) {held : Multiset Item} :
      held.card < capacity →
      Serves capacity (.push item) held (.ok none) (item ::ₘ held)
  | full (item : Item) {held : Multiset Item} :
      held.card = capacity →
      Serves capacity (.push item) held (.error (.frontierFull capacity)) held
  | pop {item : Item} {rest : Multiset Item} :
      (∀ other ∈ rest, item.1 ≤ other.1) →
        Serves capacity .pop (item ::ₘ rest) (.ok (some item)) rest
  | empty : Serves capacity .pop 0 (.ok none) 0
  | clear (held : Multiset Item) : Serves capacity .clear held (.ok none) 0

/-- What operations give one after another, between the items held before them and those
held after them. -/
inductive ServesAll (capacity : Nat) :
    List Operation → Multiset Item → List (Except Fault (Option Item)) →
      Multiset Item → Prop
  | nil (held : Multiset Item) : ServesAll capacity [] held [] held
  | cons {operation : Operation} {rest : List Operation}
      {result : Except Fault (Option Item)}
      {results : List (Except Fault (Option Item))}
        {before between after : Multiset Item} :
      operation.Serves capacity before result between →
      ServesAll capacity rest between results after →
      ServesAll capacity (operation :: rest) before (result :: results) after

/-! ## Heaps in memory -/

/-- Carry out an operation on a frontier through a window. -/
def Operation.perform (window : Window) : Operation → Action Workspace (Option Item)
  | .push item => do
    Frontier.push window item.1 item.2
    return none
  | .pop => Frontier.pop window
  | .clear => do
    modify fun workspace => { workspace with frontier := workspace.frontier.clear }
    return none

/-- Operations, each of them with the window through which it is carried out, as actions
one after another. -/
def actions (steps : List (Window × Operation)) :
    List (Action Workspace (Option Item)) :=
  steps.map fun step => step.2.perform step.1

variable {base : UInt32} {capacity position : Nat} {held : Multiset Item}
  {workspace : Workspace} {window : Window}

/-- The items stand in slots from one on as an ordered heap. -/
structure Heaped (base : UInt32) (capacity position : Nat) (held : Multiset Item)
    (workspace : Workspace) : Prop where
  frontier_eq : workspace.frontier = ⟨base, capacity, held.card⟩
  card_le : held.card ≤ capacity
  ordered : Heap.Ordered key held.card (tape position workspace.memory)
  entries_eq : Heap.entries held.card (tape position workspace.memory)
    = held.map Item.slot

namespace Heaped

theorem fresh (base : UInt32) (capacity position : Nat) (memory : Memory) :
    Heaped base capacity position 0 ⟨⟨base, capacity, 0⟩, memory⟩ where
  frontier_eq := rfl
  card_le := Nat.zero_le _
  ordered index lower upper := absurd (Nat.le_trans lower upper) (by decide)
  entries_eq := rfl

variable (heaped : Heaped base capacity position held workspace)
include heaped

theorem placed (reached : Placed ⟨base, capacity, 0⟩ window position capacity) :
    workspace.frontier.Placed window position capacity := by
  rw [heaped.frontier_eq]
  exact reached.resize _

theorem push (reached : Placed ⟨base, capacity, 0⟩ window position capacity)
    (room : held.card < capacity) (item : Item) :
    ∃ memory, Frontier.push window item.1 item.2 workspace
        = .ok () ⟨⟨base, capacity, (item ::ₘ held).card⟩, memory⟩ ∧
      Heaped base capacity position (item ::ₘ held)
        ⟨⟨base, capacity, (item ::ₘ held).card⟩, memory⟩ ∧
      Memory.SameExcept (Touches position capacity) workspace.memory memory := by
  have size_eq : workspace.frontier.size = held.card := by rw [heaped.frontier_eq]
  have capacity_eq : workspace.frontier.capacity = capacity := by
    rw [heaped.frontier_eq]
  obtain ⟨memory, pushed, tape_eq, same⟩ :=
    (heaped.placed reached).push_eq (by omega) (by omega) item.1 item.2
  rw [size_eq] at tape_eq
  obtain ⟨ordered, entries_eq⟩ := Heap.push_spec heaped.ordered item.slot
  refine ⟨memory, ?_, ?_, same⟩
  · rw [pushed, heaped.frontier_eq, Multiset.card_cons]
  constructor
  case frontier_eq => rfl
  case card_le =>
    rw [Multiset.card_cons]
    exact room
  case ordered =>
    rw [Multiset.card_cons, tape_eq]
    exact ordered
  case entries_eq =>
    rw [Multiset.card_cons, tape_eq, Multiset.map_cons, ← heaped.entries_eq]
    exact entries_eq

/-- What stands at the root is the slot of a cheapest item. -/
theorem exists_cheapest (occupied : held ≠ 0) :
    ∃ item rest, held = item ::ₘ rest ∧ item.slot = tape position workspace.memory 1 ∧
      ∀ other ∈ rest, item.1 ≤ other.1 := by
  have positive : 1 ≤ held.card := Multiset.card_pos.mpr occupied
  have atRoot : tape position workspace.memory 1 ∈ held.map Item.slot := by
    rw [← heaped.entries_eq, Heap.mem_entries]
    exact ⟨1, Nat.le_refl 1, positive, rfl⟩
  obtain ⟨item, member, slot_eq⟩ := Multiset.mem_map.mp atRoot
  obtain ⟨rest, held_eq⟩ := Multiset.exists_cons_of_mem member
  refine ⟨item, rest, held_eq, slot_eq, ?_⟩
  intro other later
  have otherSlot :
      other.slot ∈ Heap.entries held.card (tape position workspace.memory) := by
    rw [heaped.entries_eq, held_eq]
    exact Multiset.mem_map_of_mem _ (Multiset.mem_cons_of_mem later)
  obtain ⟨index, lower, upper, isOther⟩ := Heap.mem_entries.mp otherSlot
  have least := heaped.ordered.root_le lower upper
  rw [isOther, ← slot_eq] at least
  exact key_le_key.mp least

theorem pop (reached : Placed ⟨base, capacity, 0⟩ window position capacity)
    (occupied : held ≠ 0) :
    ∃ item rest memory, held = item ::ₘ rest ∧ (∀ other ∈ rest, item.1 ≤ other.1) ∧
      Frontier.pop window workspace
        = .ok (some item) ⟨⟨base, capacity, rest.card⟩, memory⟩ ∧
      Heaped base capacity position rest ⟨⟨base, capacity, rest.card⟩, memory⟩ ∧
      Memory.SameExcept (Touches position capacity) workspace.memory memory := by
  obtain ⟨item, rest, rfl, slot_eq, least⟩ := heaped.exists_cheapest occupied
  have card_eq : (item ::ₘ rest).card - 1 = rest.card := by
    rw [Multiset.card_cons, Nat.add_sub_cancel]
  have size_eq : workspace.frontier.size = (item ::ₘ rest).card := by
    rw [heaped.frontier_eq]
  have positive : 0 < (item ::ₘ rest).card := Multiset.card_pos.mpr occupied
  obtain ⟨memory, popped, tape_eq, same⟩ :=
    (heaped.placed reached).pop_eq (size_eq ▸ heaped.card_le)
    (size_eq ▸ positive) item.2 (by rw [← slot_eq]; rfl)
  obtain ⟨ordered, entries_eq⟩ := Heap.popped_spec heaped.ordered positive
  rw [size_eq] at tape_eq
  rw [← tape_eq, card_eq] at ordered entries_eq
  refine ⟨item, rest, memory, rfl, least, ?_, ?_, same⟩
  · rw [popped, ← slot_eq, heaped.frontier_eq, card_eq]
    rfl
  constructor
  case frontier_eq => rfl
  case card_le =>
    exact Nat.le_trans (Multiset.card_le_card (Multiset.le_cons_self rest item))
      heaped.card_le
  case ordered => exact ordered
  case entries_eq =>
    rw [heaped.entries_eq, Multiset.map_cons, slot_eq,
      Multiset.cons_inj_right] at entries_eq
    exact entries_eq.symm

/-- An operation does to the frontier what it does to the priority queue of its
items. -/
theorem perform (reached : Placed ⟨base, capacity, 0⟩ window position capacity)
    (operation : Operation) :
    ∃ result next after, (operation.perform window).outcome workspace = (result, next) ∧
      operation.Serves capacity held result after ∧
      Heaped base capacity position after next ∧
      Memory.SameExcept (Touches position capacity) workspace.memory next.memory := by
  cases operation with
  | push item =>
    by_cases full : held.card = capacity
    · have counted : workspace.frontier.size = workspace.frontier.capacity := by
        rw [heaped.frontier_eq, full]
      have refused : Frontier.push window item.1 item.2 workspace = _ :=
        push_of_full counted item.1 item.2
      rw [heaped.frontier_eq] at refused
      exact ⟨_, _, held, Action.outcome_of_error (Action.bind_error refused),
        .full item full, heaped, .refl _⟩
    · obtain ⟨memory, pushed, heapedAfter, same⟩ :=
        heaped.push reached (Nat.lt_of_le_of_ne heaped.card_le full) item
      exact ⟨_, _, _, Action.outcome_of_ok (Action.bind_ok pushed), .push item
        (Nat.lt_of_le_of_ne heaped.card_le full), heapedAfter, same⟩
  | pop =>
    by_cases empty : held = 0
    · subst empty
      have counted : workspace.frontier.size = 0 := by rw [heaped.frontier_eq]; rfl
      have nothing : Frontier.pop window workspace = _ := pop_of_empty counted
      exact ⟨_, _, 0, Action.outcome_of_ok nothing, .empty, heaped, .refl _⟩
    · obtain ⟨item, rest, memory, rfl, least, popped, heapedAfter, same⟩ :=
        heaped.pop reached empty
      exact ⟨_, _, rest, Action.outcome_of_ok popped, .pop least, heapedAfter, same⟩
  | clear =>
    refine ⟨.ok none, ⟨⟨base, capacity, 0⟩, workspace.memory⟩, 0, ?_, .clear held,
      .fresh _ _ _ _, .refl _⟩
    rw [← show workspace.frontier.clear = ⟨base, capacity, 0⟩ by
      rw [heaped.frontier_eq]; rfl]
    rfl

/-- Operations one after another, each through a window of its own, do to the frontier
what they do to the priority queue of its items. -/
theorem performAll {steps : List (Window × Operation)}
    (reached : ∀ step ∈ steps, Placed ⟨base, capacity, 0⟩ step.1 position capacity) :
    ∃ results next after,
      Action.outcomes (actions steps) workspace = (results, next) ∧
      ServesAll capacity (steps.map Prod.snd) held results after ∧
      Heaped base capacity position after next ∧
      Memory.SameExcept (Touches position capacity) workspace.memory next.memory := by
  induction steps generalizing held workspace with
  | nil => exact ⟨[], workspace, held, rfl, .nil held, heaped, .refl _⟩
  | cons step rest ih =>
    obtain ⟨result, between, items, here, serves, heapedBetween, same⟩ :=
      heaped.perform (reached step List.mem_cons_self) step.2
    obtain ⟨results, next, after, there, servesRest, heapedAfter, sameRest⟩ :=
      ih heapedBetween fun later member => reached later (List.mem_cons_of_mem _ member)
    exact ⟨result :: results, next, after, Action.outcomes_cons here there,
      .cons serves servesRest, heapedAfter, same.trans sameRest⟩

end Heaped

/-! ## What is read in the slots -/

/-- Through a window, the slots of a frontier show its items: there are as many as it
counts, none of them is cheaper than its parent, and that is also what the frontier
finds when it looks. -/
structure Shows (window : Window) (held : Multiset Item)
    (workspace : Workspace) : Prop where
  size_eq : workspace.frontier.size = held.card
  entries_eq : (workspace.frontier.entries window workspace.frontier.size
      workspace.memory : Multiset Slot)
    = held.map Item.slot
  parent_le : ∀ index, 2 ≤ index → index ≤ workspace.frontier.size → ∃ parent child,
    workspace.frontier.read window (index / 2) workspace.memory
      = .ok parent workspace.memory ∧
    workspace.frontier.read window index workspace.memory = .ok child workspace.memory ∧
    parent.cost ≤ child.cost
  isOrdered_eq : workspace.frontier.isOrdered window workspace.memory
    = .ok true workspace.memory

section Reading

variable {frontier : Frontier} {slots : Nat} {memory : Memory}
  (placed : frontier.Placed window position slots) (fits : frontier.size ≤ slots)
include placed fits

/-- All slots that a frontier counts can be read. -/
theorem Placed.entries_eq :
    frontier.entries window frontier.size memory
      = (List.range' 1 frontier.size).map (tape position memory) := by
  have slots_eq : ((List.range' 1 frontier.size).map fun index =>
      ((frontier.read window index).result memory).toOption)
      = ((List.range' 1 frontier.size).map (tape position memory)).map some := by
    rw [List.map_map]
    apply List.map_congr_left
    intro index member
    rw [List.mem_range'_1] at member
    rw [Action.result_of_ok (placed.read_eq memory (by omega))]
    rfl
  have readable : ∀ slots : List Slot,
      ((slots.map some).takeWhile Option.isSome).filterMap id = slots := by
    intro slots
    induction slots with
    | nil => rfl
    | cons slot rest ih => simpa using ih
  simp only [entries, Nat.min_self, slots_eq, readable]

/-- A frontier in order finds itself in order. -/
theorem Placed.isOrdered_eq
    (ordered : Heap.Ordered key frontier.size (tape position memory)) :
    frontier.isOrdered window memory = .ok true memory := by
  apply Action.allM_apply_eq_true
  intro index member
  rw [List.mem_range'_1] at member
  have child := placed.read_eq memory (show index ≤ slots by omega)
  have parent := placed.read_eq memory (show index / 2 ≤ slots by omega)
  have cheaper := key_le_key.mp (ordered index member.1 (by omega))
  rw [Action.bind_ok child, Action.bind_ok parent, Action.pure_apply,
    decide_eq_true cheaper]

end Reading

theorem Heaped.shows (heaped : Heaped base capacity position held workspace)
    (reached : Placed ⟨base, capacity, 0⟩ window position capacity) :
    Shows window held workspace := by
  have placed := heaped.placed reached
  have size_eq : workspace.frontier.size = held.card := by rw [heaped.frontier_eq]
  have fits : workspace.frontier.size ≤ capacity := size_eq ▸ heaped.card_le
  have ordered := heaped.ordered
  rw [← size_eq] at ordered
  constructor
  case size_eq => exact size_eq
  case entries_eq =>
    rw [placed.entries_eq fits, ← heaped.entries_eq, size_eq, Heap.entries,
      Nat.Icc_eq_range', Nat.add_sub_cancel]
    rfl
  case parent_le =>
    intro index lower upper
    exact ⟨_, _, placed.read_eq _ (by omega), placed.read_eq _ (by omega),
      key_le_key.mp (ordered index lower upper)⟩
  case isOrdered_eq => exact placed.isOrdered_eq fits ordered

/-! ## Frontiers in an arena -/

section Reserved

variable {arena after : Arena} {frontier : Frontier} (sound : arena.Sound)
  (created : create capacity arena = .ok frontier after)
include sound created

/-- A frontier that is reserved in an arena is empty and stands behind the bytes in use
so far. -/
theorem extends_of_create :
    arena.Extends after ∧ frontier = ⟨after.window.address arena.used, capacity, 0⟩ ∧
      arena.used + (capacity + 1) * 8 ≤ after.used := by
  obtain ⟨_, _, reserved, made⟩ := Action.of_bind_eq_ok created
  cases made
  obtain ⟨extended, rfl, fits⟩ := Arena.extends_of_reserve sound reserved
  rw [Record.size_slot] at fits
  rw [← extended.address_eq]
  exact ⟨extended, rfl, fits⟩

theorem position_of_create : frontier.base.toNat - after.base.toNat = arena.used := by
  obtain ⟨extended, rfl, fits⟩ := extends_of_create sound created
  have inside : arena.used < after.window.high := Nat.lt_of_lt_of_le (by omega) fits
  change (after.window.address arena.used).toNat - after.window.base.toNat = arena.used
  rw [Window.toNat_address extended.sound.window_sound inside, Nat.add_sub_cancel_left]

/-- Whoever reaches all that the host reaches finds the slots of the frontier. -/
theorem placed_of_create (within : after.window.Within window)
    (windowSound : window.Sound) :
    frontier.Placed window arena.used capacity := by
  obtain ⟨extended, rfl, fits⟩ := extends_of_create sound created
  constructor
  case sound => exact windowSound
  case base_eq => exact (within.address_eq _).symm
  case spans =>
    exact within.spans
      ⟨Nat.le_trans (Nat.le_of_eq extended.granule_eq) sound.granule_le_used, fits⟩

end Reserved

/-- A frontier that was reserved in an arena serves as a priority queue for all who
reach what the host reaches, whoever carries out which operation. Through each of their
windows its slots show the items that went in and did not come out. An item for which
there is no room is refused, and nothing changes. No bytes are written but those of the
slots from one on. -/
theorem operations_serve_cheapest_first {arena after : Arena} {frontier : Frontier}
    (obtainable : arena.Obtainable)
    (created : create capacity arena = .ok frontier after)
    (steps : List (Window × Operation))
    (reached : ∀ step ∈ steps, after.window.Within step.1 ∧ step.1.Sound) :
    ∃ results workspace held,
      Action.outcomes (actions steps) ⟨frontier, after.memory⟩ = (results, workspace) ∧
      ServesAll capacity (steps.map Prod.snd) 0 results held ∧
      workspace.frontier = { frontier with size := held.card } ∧
      (∀ window, after.window.Within window → window.Sound →
        Shows window held workspace) ∧
      (workspace.frontier.size = capacity → ∀ window cost node,
        push window cost node workspace = .error (.frontierFull capacity) workspace) ∧
      Memory.SameExcept (Touches (frontier.base.toNat - after.base.toNat) capacity)
        after.memory workspace.memory := by
  have sound := obtainable.sound
  have placed : ∀ window, after.window.Within window → window.Sound →
      frontier.Placed window arena.used capacity :=
    fun window within windowSound => placed_of_create sound created within windowSound
  rw [position_of_create sound created]
  obtain ⟨_, rfl, _⟩ := extends_of_create sound created
  obtain ⟨results, workspace, held, ran, serves, heaped, same⟩ :=
    (Heaped.fresh
      (after.window.address arena.used) capacity arena.used after.memory).performAll
      fun step member => placed step.1 (reached step member).1 (reached step member).2
  refine ⟨results, workspace, held, ran, serves, heaped.frontier_eq, ?_, ?_, same⟩
  · intro window within windowSound
    exact heaped.shows (placed window within windowSound)
  · intro full window cost node
    have capacity_eq : workspace.frontier.capacity = capacity := by
      rw [heaped.frontier_eq]
    rw [push_of_full (full.trans capacity_eq.symm), capacity_eq]

/-- Host and device take turns: three items go in, one comes out, and another one goes
in. -/
def turns (host device : Window) : List (Window × Operation) :=
  [(host, .push (5, ⟨64, by decide⟩)), (device, .push (3, ⟨80, by decide⟩)),
    (host, .push (4, ⟨64, by decide⟩)),
    (host, .pop), (device, .push (9, ⟨80, by decide⟩))]

/-- In a frontier with room for two items the third one is refused, then the cheaper one
of the two comes out, and another one takes its place. -/
theorem operations_serve_cheapest_first_in_turns :
    ∃ arena frontier after,
      Arena.ofBacking ⟨.heap, 0x10000000, 4096, .zeros⟩ 64 = .ok arena ∧
      create 2 arena = .ok frontier after ∧
      ∃ results workspace held,
        Action.outcomes (actions (turns after.window after.deviceWindow))
          ⟨frontier, after.memory⟩
          = (results, workspace) ∧
        results = [.ok none, .ok none, .error (.frontierFull 2),
          .ok (some (3, ⟨80, by decide⟩)), .ok none] ∧
        Shows after.window held workspace ∧ Shows after.deviceWindow held workspace ∧
        push after.window 1 ⟨64, by decide⟩ workspace
          = .error (.frontierFull 2) workspace := by
  have opened : Arena.ofBacking ⟨.heap, 0x10000000, 4096, .zeros⟩ 64
      = .ok ⟨⟨.heap, 0x10000000, 4096, .zeros⟩, 0x10000000, 64, 64, 0⟩ := rfl
  obtain ⟨frontier, after, created, given, full⟩ : ∃ frontier after,
      create 2 ⟨⟨.heap, 0x10000000, 4096, .zeros⟩, 0x10000000, 64, 64, 0⟩
        = .ok frontier after ∧
      (Action.outcomes (actions (turns after.window after.deviceWindow))
        ⟨frontier, after.memory⟩).1
        = [.ok none, .ok none, .error (.frontierFull 2),
          .ok (some (3, ⟨80, by decide⟩)), .ok none] ∧
      (Action.outcomes (actions (turns after.window after.deviceWindow))
        ⟨frontier, after.memory⟩).2.frontier.size
        = 2 :=
    ⟨_, _, rfl, by decide +kernel, by decide +kernel⟩
  have sound := (extends_of_create (Arena.sound_of_ofBacking opened) created).1.sound
  have byHost : after.window.Within after.window ∧ after.window.Sound :=
    ⟨.refl _, sound.window_sound⟩
  have byDevice : after.window.Within after.deviceWindow ∧ after.deviceWindow.Sound :=
    ⟨sound.window_within, sound.deviceWindow_sound⟩
  obtain ⟨results, workspace, held, ran, _, _, shows, refused, _⟩ :=
    operations_serve_cheapest_first (.ofBacking opened) created
      (turns after.window after.deviceWindow)
      (by simp [turns, byHost, byDevice])
  rw [ran] at given full
  exact ⟨_, frontier, after, opened, created, results, workspace, held, ran, given,
    shows _ byHost.1 byHost.2, shows _ byDevice.1 byDevice.2, refused full _ _ _⟩

end ArenaPaths.Frontier
