import ArenaPaths.Backing.Device
import ArenaPaths.Window

/-!
# Arenas

An arena hands out blocks of its backing one after another and never takes one back.
Blocks are whole granules, and they are zero when they are handed out. The first granule
is kept back, so that no block starts at the base.
-/

namespace ArenaPaths

/-- A block handed out by an arena: where it starts and how long it is, in bytes of the
backing. -/
structure Block where
  offset : Nat
  length : Nat
  deriving DecidableEq, Repr

/-- An arena over a backing. `used` counts the kept-back granule and the blocks handed
out. -/
structure Arena where
  backing : Backing
  base : UInt32
  granule : Nat
  used : Nat
  allocations : Nat

namespace Arena

/-- Bytes of a granule when none is asked for. -/
def defaultGranule : Nat := 64

/-- Whether a number is a power of two. -/
def isPowerOfTwo (n : Nat) : Bool :=
  n != 0 && n == 1 <<< Nat.log2 n

/-- Lay an arena over a backing. The granule is checked first, then the size of the
backing, then that every one of its bytes has a 32-bit physical address. -/
def ofBacking (backing : Backing) (granule : Nat) : Except Fault Arena := do
  if granule < 4 || !isPowerOfTwo granule then throw (.mapping (.badGranule granule))
  let least ← Word.mul UInt64.size 2 granule
  if backing.capacity < least then
    throw (.mapping (.backingTooSmall backing.capacity granule))
  match Word.add64? backing.base backing.capacity with
  | none => throw (.addressOutside backing.base)
  | some stop =>
    if UInt32.size < stop then throw (.addressOutside backing.base)
    if UInt32.size ≤ backing.base then throw (.addressOutside backing.base)
    return ⟨backing, backing.base.toUInt32, granule, granule, 0⟩

/-- Open an arena on the backing that is asked for. -/
def ofRequest (request : BackingRequest) (granule : Nat) : Action Files Arena := do
  ofBacking (← request.fulfil) granule

/-- Bytes of the backing. -/
def capacity (arena : Arena) : Nat := arena.backing.capacity

/-- Bytes that can still be handed out. -/
def remaining (arena : Arena) : Nat := arena.capacity - arena.used

/-- The bytes under the arena. -/
def memory (arena : Arena) : Memory := arena.backing.memory

/-- What the host reaches: the blocks handed out so far. -/
def window (arena : Arena) : Window := ⟨arena.base, arena.granule, arena.used⟩

/-- What the device reaches: all but the first granule. -/
def deviceWindow (arena : Arena) : Window := ⟨arena.base, arena.granule, arena.capacity⟩

/-- The arena with other bytes under it. -/
def withMemory (arena : Arena) (memory : Memory) : Arena :=
  { arena with backing := { arena.backing with memory } }

/-- Run a step on the bytes under the arena. -/
def onMemory {α : Type} (step : Action Memory α) : Action Arena α :=
  Action.focus Arena.memory Arena.withMemory step

/-- The length of a block for the given bytes: at least one, in whole granules, as long
as it is a 64-bit size. -/
def blockLength? (granule bytes : Nat) : Option Nat :=
  Word.mul64? ((max bytes 1 + granule - 1) / granule) granule

/-- Hand out a block of at least the given bytes, filled with zeros, if there is room
for it. -/
def allocate? (bytes : Nat) (arena : Arena) : Option (Block × Arena) := do
  let length ← blockLength? arena.granule bytes
  let stop ← Word.add64? arena.used length
  if arena.capacity < stop then none
  else
    let cleared := arena.withMemory (arena.memory.clear arena.used length)
    some (⟨arena.used, length⟩,
        { cleared with used := stop, allocations := arena.allocations + 1 })

/-- Physical address of a byte of the backing; it stops the program to ask for one past
the end of the backing. -/
def physicalAddress (arena : Arena) (offset : Nat) : Except Fault UInt32 :=
  if arena.capacity < offset then .error (.abort .offsetBeyondCapacity)
  else .ok (arena.base + offset.toUInt32)

/-- Physical address of a block. -/
def blockAddress (arena : Arena) (block : Block) : Except Fault UInt32 :=
  arena.physicalAddress block.offset

/-- Offset of an address among the bytes handed out. -/
def offsetOf (arena : Arena) (address : UInt32) : Except Fault Nat :=
  arena.window.locate address 0

/-- Hand out a block and give its address; an arena without room for it is the fault. -/
def reserve (bytes : Nat) : Action Arena UInt32 := do
  let arena ← get
  match arena.allocate? bytes with
  | none => throw (.arenaExhausted bytes arena.remaining)
  | some (block, after) =>
    set after
    after.blockAddress block

/-- Which side is about to read. -/
inductive Direction where
  | toDevice
  | fromDevice
  deriving DecidableEq, Repr

/-- Bring a range up to date for the side about to read it. -/
def syncRange (arena : Arena) (offset length : Nat) : Direction → Except Fault Unit
  | .toDevice => arena.backing.flush offset length
  | .fromDevice => arena.backing.invalidate offset length

/-- Bring a block up to date for the side about to read it. -/
def sync (arena : Arena) (block : Block) (direction : Direction) : Except Fault Unit :=
  arena.syncRange block.offset block.length direction

/-- Bring all that was handed out up to date for the side about to read it. -/
def syncAll (arena : Arena) (direction : Direction) : Except Fault Unit :=
  arena.syncRange 0 arena.used direction

/-- Usage of the arena in words. -/
def usage (arena : Arena) : String :=
  s!"{arena.used} / {arena.capacity} bytes in {arena.allocations} allocations"

/-- The arena after the file under it was written. -/
def refresh (arena : Arena) (files : Files) : Arena :=
  { arena with backing := arena.backing.refresh files }

end Arena

end ArenaPaths
