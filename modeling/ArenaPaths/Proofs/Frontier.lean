import ArenaPaths.Frontier
import ArenaPaths.Proofs.Allocation
import ArenaPaths.Proofs.Heap

/-!
# Frontiers in memory

A frontier whose slots lie in the window behaves as a heap on a tape: its slots, read
one after another, are the tape. Each operation is followed on the memory and returns
without a fault; what it does to the tape is what the heap does, and no other bytes
change.
-/

namespace ArenaPaths.Frontier

variable {frontier : Frontier} {window : Window} {position slots : Nat}
  {memory : Memory}

/-- What an entry is ordered by. -/
def key (slot : Slot) : Nat := slot.cost.toNat

theorem key_le_key {left right : Slot} :
    key left ≤ key right ↔ left.cost ≤ right.cost :=
  UInt32.le_iff_toNat_le.symm

theorem key_lt_key {left right : Slot} :
    key left < key right ↔ left.cost < right.cost :=
  UInt32.lt_iff_toNat_lt.symm

/-- The slots at a position, by number. -/
def tape (position : Nat) (memory : Memory) (index : Nat) : Slot :=
  Record.read memory (position + index * 8)

/-- The bytes of the slots that a frontier uses. -/
def Touches (position capacity query : Nat) : Prop := position + 8 ≤ query ∧
    query < position + (capacity + 1) * 8

/-- So many slots of a frontier, and slot zero, lie in a window from the given position
on. They need not be as many as the frontier takes entries. -/
structure Placed (frontier : Frontier) (window : Window)
    (position slots : Nat) : Prop where
  sound : window.Sound
  base_eq : frontier.base = window.address position
  spans : window.Spans position ((slots + 1) * 8)

theorem Placed.resize (placed : frontier.Placed window position slots) (size : Nat) :
    Placed { frontier with size } window position slots :=
  ⟨placed.sound, placed.base_eq, placed.spans⟩

theorem Placed.slotAddress_eq (placed : frontier.Placed window position slots)
    {index : Nat} (inside : index ≤ slots) :
    frontier.slotAddress index = .ok (window.address (position + index * 8)) := by
  have upper := placed.spans.le_high
  rw [slotAddress, placed.base_eq, Record.size_slot]
  exact Window.entryAddress_address placed.sound (by omega)

theorem Placed.slot_spans (placed : frontier.Placed window position slots) {index : Nat}
    (inside : index ≤ slots) : window.Spans (position + index * 8) (Record.size Slot) :=
  placed.spans.part (by simp only [Record.size_slot]; omega)

theorem Placed.read_eq (placed : frontier.Placed window position slots)
    (memory : Memory) {index : Nat} (inside : index ≤ slots) :
    frontier.read window index memory = .ok (tape position memory index) memory := by
  rw [read, placed.slotAddress_eq inside, Action.liftM_ok_bind_apply,
    Window.load_address placed.sound (placed.slot_spans inside) (by decide)]
  rfl

theorem Placed.write_eq (placed : frontier.Placed window position slots) {index : Nat}
    (inside : index ≤ slots) (entry : Slot) :
    frontier.write window index entry memory
      = .ok () (Record.write memory (position + index * 8) entry) := by
  rw [write, placed.slotAddress_eq inside, Action.liftM_ok_bind_apply,
    Window.store_address placed.sound (placed.slot_spans inside) (by decide)]

theorem tape_write (index : Nat) (entry : Slot) :
    tape position (Record.write memory (position + index * 8) entry)
      = Function.update (tape position memory) index entry := by
  funext other
  by_cases same : other = index
  · subst same
    rw [Function.update_self, tape, Record.read_write]
  · rw [Function.update_of_ne same, tape, tape]
    apply Record.read_write_of_disjoint
    simp only [Record.size_slot]
    omega

/-- A slot from one on is written on bytes of the frontier. -/
theorem sameExcept_write {index capacity : Nat} (lower : 1 ≤ index)
    (upper : index ≤ capacity) (entry : Slot) :
    Memory.SameExcept (Touches position capacity) memory
      (Record.write memory (position + index * 8) entry) := by
  apply Memory.sameExcept_write
  intro query start stop
  simp only [Record.size_slot] at stop
  constructor <;> omega

/-! ## Sifts -/

theorem Placed.siftUp_eq (placed : frontier.Placed window position slots)
    (memory : Memory) (entry : Slot) {hole : Nat} (positive : 1 ≤ hole)
    (inside : hole ≤ slots) :
    ∃ after, frontier.siftUp window entry hole memory = .ok () after ∧
      tape position after = Heap.siftUp key (tape position memory) entry hole ∧
      Memory.SameExcept (Touches position slots) memory after := by
  induction hole using Nat.strongRecOn generalizing memory with
  | ind hole ih =>
    rw [siftUp, Heap.siftUp]
    by_cases below : 1 < hole
    · rw [if_pos below, if_pos below, Action.bind_ok (placed.read_eq memory (by omega))]
      by_cases cheap : (tape position memory (hole / 2)).cost ≤ entry.cost
      · rw [if_pos cheap, if_pos (key_le_key.mpr cheap), placed.write_eq inside]
        exact ⟨_, rfl, tape_write hole entry, sameExcept_write positive inside entry⟩
      · rw [if_neg cheap, if_neg (mt key_le_key.mp cheap),
          Action.bind_ok (placed.write_eq inside _)]
        obtain ⟨after, run, result, same⟩ := ih (hole / 2) (by omega)
          (Record.write memory (position + hole * 8) (tape position memory (hole / 2)))
            (by omega) (by omega)
        rw [tape_write] at result
        exact ⟨after, run, result, (sameExcept_write positive inside _).trans same⟩
    · rw [if_neg below, if_neg below, placed.write_eq inside]
      exact ⟨_, rfl, tape_write hole entry, sameExcept_write positive inside entry⟩

/-- The cheaper child is the one that the heap takes. -/
theorem Placed.cheaperChild_eq (placed : frontier.Placed window position slots)
    (memory : Memory) {left : Nat} (inside : left ≤ frontier.size)
    (fits : frontier.size ≤ slots) :
    ∃ isRight : Bool,
      frontier.cheaperChild window left memory
        = .ok (isRight, tape position memory (left + isRight.toNat)) memory ∧
      left + isRight.toNat
        = Heap.cheaperChild key frontier.size (tape position memory) left := by
  rw [cheaperChild, Action.bind_ok (placed.read_eq memory (by omega)),
    Heap.cheaperChild]
  by_cases hasRight : left < frontier.size
  · simp only [if_pos hasRight,
      Action.bind_ok (placed.read_eq memory (show left + 1 ≤ _ by omega))]
    by_cases cheaper : (tape position memory (left + 1)).cost
      < (tape position memory left).cost
    · refine ⟨true, ?_, ?_⟩
      · rw [if_pos cheaper]
        rfl
      · rw [if_pos ⟨hasRight, key_lt_key.mpr cheaper⟩]
        rfl
    · refine ⟨false, ?_, ?_⟩
      · rw [if_neg cheaper]
        rfl
      · rw [if_neg fun both => cheaper (key_lt_key.mp both.2)]
        rfl
  · refine ⟨false, ?_, ?_⟩
    · rw [if_neg hasRight]
      rfl
    · rw [if_neg fun both => hasRight both.1]
      rfl

theorem Placed.siftDown_eq (placed : frontier.Placed window position slots)
    (fits : frontier.size ≤ slots) (memory : Memory) (entry : Slot) {hole : Nat}
    (positive : 0 < hole) (inside : hole ≤ frontier.size) :
    ∃ after, frontier.siftDown window entry hole positive memory = .ok () after ∧
      tape position after
        = Heap.siftDown key frontier.size (tape position memory) entry hole ∧
      Memory.SameExcept (Touches position slots) memory after := by
  -- the hole only ever moves to a larger number, up to the size
  induction remaining :
    frontier.size + 1 - hole using Nat.strongRecOn generalizing hole memory with
  | ind remaining ih =>
    rw [siftDown, Heap.siftDown]
    by_cases hasChild : 2 * hole ≤ frontier.size
    · obtain ⟨isRight, child, childEq⟩ := placed.cheaperChild_eq memory hasChild fits
      have cases :=
        Heap.cheaperChild_cases key frontier.size (tape position memory) (2 * hole)
      rw [if_pos hasChild, if_pos ⟨positive, hasChild⟩, Action.bind_ok child, ← childEq]
      rw [← childEq] at cases
      dsimp only
      by_cases cheap :
        entry.cost ≤ (tape position memory (2 * hole + isRight.toNat)).cost
      · rw [if_pos cheap, if_pos (key_le_key.mpr cheap), placed.write_eq (by omega)]
        exact ⟨_, rfl, tape_write hole entry,
          sameExcept_write positive (by omega) entry⟩
      · rw [if_neg cheap, if_neg (mt key_le_key.mp cheap),
          Action.bind_ok (placed.write_eq (by omega) _)]
        obtain ⟨after, run, result, same⟩ :=
          ih (frontier.size + 1 - (2 * hole + isRight.toNat)) (by omega)
          (Record.write memory (position + hole * 8)
            (tape position memory (2 * hole + isRight.toNat)))
          (by omega) (by omega) rfl
        rw [tape_write] at result
        exact ⟨after, run, result, (sameExcept_write positive (by omega) _).trans same⟩
    · rw [if_neg hasChild, if_neg fun both => hasChild both.2,
        placed.write_eq (by omega)]
      exact ⟨_, rfl, tape_write hole entry, sameExcept_write positive (by omega) entry⟩

/-! ## Entries -/

section Room

variable {workspace : Workspace}
  (notFull : workspace.frontier.size ≠ workspace.frontier.capacity) {cost : UInt32}
  {node : NodeRef} {after : Memory} {fault : Fault}
include notFull

/-- A frontier that is not full counts the entry and then sifts it up. -/
theorem push_of_room (cost : UInt32) (node : NodeRef) :
    push window cost node workspace =
      Workspace.onMemory (workspace.frontier.siftUp window ⟨cost, node.address⟩
        (workspace.frontier.size + 1))
        ⟨{ workspace.frontier with size := workspace.frontier.size + 1 },
          workspace.memory⟩ := by
  simp only [push, Action.get_bind_apply, if_neg notFull, Workspace.resize,
    Action.modify_bind_apply]

theorem push_of_siftUp_ok
    (placed : workspace.frontier.siftUp window ⟨cost, node.address⟩
      (workspace.frontier.size + 1) workspace.memory = .ok () after) :
    push window cost node workspace
      = .ok () ⟨{ workspace.frontier with size := workspace.frontier.size + 1 },
        after⟩ := by
  rw [push_of_room notFull]
  exact Action.focus_eq_ok placed

theorem push_of_siftUp_error
    (failed : workspace.frontier.siftUp window ⟨cost, node.address⟩
      (workspace.frontier.size + 1) workspace.memory = .error fault after) :
    push window cost node workspace
      = .error fault ⟨{ workspace.frontier with size := workspace.frontier.size + 1 },
        after⟩ := by
  rw [push_of_room notFull]
  exact Action.focus_eq_error failed

end Room

/-- A frontier that is not full takes an entry if there is a slot for it. -/
theorem Placed.push_eq {workspace : Workspace}
    (placed : workspace.frontier.Placed window position slots)
    (fits : workspace.frontier.size < slots)
    (notFull : workspace.frontier.size ≠ workspace.frontier.capacity) (cost : UInt32)
    (node : NodeRef) :
    ∃ after,
      push window cost node workspace
        = .ok () ⟨{ workspace.frontier with size := workspace.frontier.size + 1 },
          after⟩ ∧
      tape position after
        = Heap.siftUp key (tape position workspace.memory) ⟨cost, node.address⟩
          (workspace.frontier.size + 1) ∧
      Memory.SameExcept (Touches position slots) workspace.memory after := by
  obtain ⟨after, run, result, same⟩ :=
    placed.siftUp_eq workspace.memory ⟨cost, node.address⟩
    (Nat.succ_pos workspace.frontier.size) fits
  exact ⟨after, push_of_siftUp_ok notFull run, result, same⟩

theorem push_of_full {workspace : Workspace}
    (full : workspace.frontier.size = workspace.frontier.capacity) (cost : UInt32)
    (node : NodeRef) :
    push window cost node workspace
      = .error (.frontierFull workspace.frontier.capacity) workspace := by
  simp only [push, Action.get_bind_apply, if_pos full, Action.throw_bind_apply]

theorem pop_of_empty {workspace : Workspace} (empty : workspace.frontier.size = 0) :
    pop window workspace = .ok none workspace := by
  simp only [pop, Action.get_bind_apply, if_pos empty, Action.pure_apply]

/-- A frontier whose cheapest entry names a node gives it out. -/
theorem Placed.pop_eq {workspace : Workspace}
    (placed : workspace.frontier.Placed window position slots)
    (fits : workspace.frontier.size ≤ slots) (positive : 0 < workspace.frontier.size)
    (node : NodeRef) (named : (tape position workspace.memory 1).node = node.address) :
    ∃ after,
      pop window workspace
        = .ok (some ((tape position workspace.memory 1).cost, node))
            ⟨{ workspace.frontier with size := workspace.frontier.size - 1 }, after⟩ ∧
      tape position after
        = Heap.popped key workspace.frontier.size (tape position workspace.memory) ∧
      Memory.SameExcept (Touches position slots) workspace.memory after := by
  have top : Workspace.onMemory (workspace.frontier.read window 1) workspace
      = .ok (tape position workspace.memory 1) workspace :=
        Action.focus_eq_ok (placed.read_eq _ (by omega))
  have last : Workspace.onMemory
      (workspace.frontier.read window workspace.frontier.size) workspace
      = .ok (tape position workspace.memory workspace.frontier.size) workspace :=
    Action.focus_eq_ok (placed.read_eq _ fits)
  have present : NodeRef.ofWord? (tape position workspace.memory 1).node
      = some node := by
    rw [named, NodeRef.ofWord?_address]
  simp only [pop, Action.get_bind_apply, if_neg (Nat.ne_of_gt positive),
    Action.bind_ok top, Action.bind_ok last,
    Workspace.resize, Action.modify_bind_apply, present, Heap.popped]
  by_cases more : 0 < workspace.frontier.size - 1
  · obtain ⟨after, run, result, same⟩ :=
      (placed.resize (workspace.frontier.size - 1)).siftDown_eq
      (show workspace.frontier.size - 1 ≤ slots by omega) workspace.memory
      (tape position workspace.memory workspace.frontier.size) (Nat.succ_pos 0) more
    refine ⟨after, ?_, ?_, same⟩
    · rw [if_pos more]
      exact Action.bind_ok (Action.focus_eq_ok run)
    · rw [if_pos more]
      exact result
  · refine ⟨workspace.memory, ?_, ?_, .refl _⟩
    · rw [if_neg more]
      rfl
    · rw [if_neg more]

end ArenaPaths.Frontier
