import ArenaPaths.Arena

/-!
# Frontiers

A frontier is a binary min-heap of (cost, node) slots in memory. Slots are numbered from
one; slot zero is there but never used. There is no way to lower the cost of an entry: a
node may be in the frontier several times.

Both sifts keep the entry to be placed apart and move a hole through the heap, so each
slot on the way is written once.
-/

namespace ArenaPaths

/-- A heap at a base address with room for `capacity` entries, of which it holds
`size`. -/
structure Frontier where
  base : UInt32
  capacity : Nat
  size : Nat := 0
  deriving DecidableEq, Repr

/-- What a search works on: the frontier and the memory that holds its slots and the
records. -/
structure Workspace where
  frontier : Frontier
  memory : Memory

namespace Workspace

variable {α : Type}

/-- Run a step on the memory. -/
def onMemory (step : Action Memory α) : Action Workspace α :=
  Action.focus Workspace.memory (fun workspace memory => { workspace with memory }) step

/-- Set the number of entries that the frontier counts. -/
def resize (size : Nat) : Action Workspace Unit :=
  modify fun workspace => { workspace with
    frontier := { workspace.frontier with size } }

end Workspace

namespace Frontier

/-- Reserve an empty frontier, slot zero included. -/
def create (capacity : Nat) : Action Arena Frontier := do
  let base ← Arena.reserve ((capacity + 1) * Record.size Slot)
  return ⟨base, capacity, 0⟩

/-- Address of a slot. -/
def slotAddress (frontier : Frontier) (index : Nat) : Except Fault UInt32 :=
  Word.entryAddress frontier.base index (Record.size Slot)

/-- The slot with a number. -/
def read (frontier : Frontier) (window : Window) (index : Nat) :
    Action Memory Slot := do
  window.load Slot (← frontier.slotAddress index)

/-- Put an entry in the slot with a number. -/
def write (frontier : Frontier) (window : Window) (index : Nat) (entry : Slot) :
    Action Memory Unit := do
  window.store (← frontier.slotAddress index) entry

/-- Move the hole at `hole` up while the entry is strictly cheaper than the parent, then
fill it with the entry. -/
def siftUp (frontier : Frontier) (window : Window) (entry : Slot) (hole : Nat) :
    Action Memory Unit :=
  if 1 < hole then do
    let parent ← frontier.read window (hole / 2)
    if parent.cost ≤ entry.cost then frontier.write window hole entry
    else
      frontier.write window hole parent
      siftUp frontier window entry (hole / 2)
  else
    frontier.write window hole entry
termination_by hole

/-- The cheaper child of a hole that has one at `left`: whether it is the right one, and
the child itself. The right child counts only if it is strictly cheaper. -/
def cheaperChild (frontier : Frontier) (window : Window) (left : Nat) :
    Action Memory (Bool × Slot) := do
  let leftSlot ← frontier.read window left
  if left < frontier.size then
    let rightSlot ← frontier.read window (left + 1)
    if rightSlot.cost < leftSlot.cost then return (true, rightSlot)
  return (false, leftSlot)

/-- Move the hole at `hole` down while its cheaper child is strictly cheaper than the
entry, then fill it with the entry. -/
def siftDown (frontier : Frontier) (window : Window) (entry : Slot) (hole : Nat)
    (positive : 0 < hole) :
    Action Memory Unit :=
  if 2 * hole ≤ frontier.size then do
    let (isRight, child) ← frontier.cheaperChild window (2 * hole)
    if entry.cost ≤ child.cost then frontier.write window hole entry
    else
      frontier.write window hole child
      siftDown frontier window entry (2 * hole + isRight.toNat) (by omega)
  else
    frontier.write window hole entry
termination_by frontier.size + 1 - hole

/-- Add an entry. The frontier counts it before its slots are touched. -/
def push (window : Window) (cost : UInt32) (node : NodeRef) :
    Action Workspace Unit := do
  let frontier := (← get).frontier
  if frontier.size = frontier.capacity then throw (.frontierFull frontier.capacity)
  Workspace.resize (frontier.size + 1)
  Workspace.onMemory (frontier.siftUp window ⟨cost, node.address⟩ (frontier.size + 1))

/-- Take out the cheapest entry, if there is one: the last entry leaves its slot and
sinks from the root. -/
def pop (window : Window) : Action Workspace (Option (UInt32 × NodeRef)) := do
  let frontier := (← get).frontier
  if frontier.size = 0 then return none
  let top ← Workspace.onMemory (frontier.read window 1)
  let last ← Workspace.onMemory (frontier.read window frontier.size)
  let rest := { frontier with size := frontier.size - 1 }
  Workspace.resize rest.size
  if 0 < rest.size then
    Workspace.onMemory (rest.siftDown window last 1 (by decide))
  match NodeRef.ofWord? top.node with
  | some node => return some (top.cost, node)
  | none => throw (.corrupt (← frontier.slotAddress 1).toNat .emptySlot)

/-- Forget all entries. -/
def clear (frontier : Frontier) : Frontier := { frontier with size := 0 }

/-- Whether no slot is cheaper than its parent. -/
def isOrdered (frontier : Frontier) (window : Window) : Action Memory Bool :=
  (List.range' 2 (frontier.size - 1)).allM fun index => do
    let child ← frontier.read window index
    let parent ← frontier.read window (index / 2)
    return parent.cost ≤ child.cost

/-- The slots from one on as far as they can be read, at most `limit` of them. -/
def entries (frontier : Frontier) (window : Window) (limit : Nat) (memory : Memory) :
    List Slot :=
  let slots := (List.range' 1 (min frontier.size limit)).map fun index =>
    ((frontier.read window index).result memory).toOption
  (slots.takeWhile Option.isSome).filterMap id

end Frontier

end ArenaPaths
