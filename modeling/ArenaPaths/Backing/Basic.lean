import ArenaPaths.Coherency
import ArenaPaths.Mapping

/-!
# Backings

The bytes under an arena: where they come from, the physical address of the first, how
many there are, and how host and device are kept in step. This module has the backing
itself and the one on the heap.
-/

namespace ArenaPaths

/-- Where the bytes of a backing come from. -/
inductive Source where
  /-- Memory of the host alone. -/
  | heap
  /-- A buffer of the udmabuf driver, mapped with the given mode. -/
  | udmabuf (mode : Coherency) (mapping : Mapping)
  /-- A map of a UIO device. -/
  | uio (mapping : Mapping)
  deriving DecidableEq, Repr

namespace Source

/-- How a source is shown. -/
def render : Source → String
  | .heap => "Heap"
  | .udmabuf _ _ => "udmabuf"
  | .uio _ => "UIO"

/-- Cache behaviour of the host's view. -/
def coherency : Source → Coherency
  | .heap => .cacheEnabled
  | .udmabuf mode _ => mode
  | .uio _ => .sync

/-- The mapped file behind the bytes, if there is one. -/
def mapping? : Source → Option Mapping
  | .heap => none
  | .udmabuf _ mapping => some mapping
  | .uio mapping => some mapping

end Source

/-- Bytes for an arena. `base` is the physical address of the first byte, which may
still be too large for a device. -/
structure Backing where
  source : Source
  base : Nat
  capacity : Nat
  memory : Memory

namespace Backing

/-- Memory of the machine, which cannot be reserved as a whole. -/
def machineMemory : Nat := 0x400000000

/-- Reserve zeroed memory of the host, reported at the given physical address. -/
def heap (capacity base : Nat) : Except Fault Backing :=
  if capacity = 0 then .error (.mapping .zeroCapacity)
  else
    let size := Mapping.roundToPage capacity
    if UInt64.size ≤ size then .error (.mapping (.capacityOverflow capacity))
    else if UInt64.size / 2 - Mapping.pageSize < size then
      .error (.mapping .sizeBeyondLayout)
    else if machineMemory ≤ size then .error (.mapping (.reservationRefused size))
    else .ok ⟨.heap, base, size, .zeros⟩

/-- Make the host's writes in a range visible to the device. Only a cached buffer of the
driver needs any work. -/
def flush (backing : Backing) (offset length : Nat) : Except Fault Unit :=
  match backing.source with
  | .udmabuf mode mapping =>
    if mode.isCached then mapping.sync offset length else .ok ()
  | .heap | .uio _ => .ok ()

/-- Drop what the host has cached of a range; for a cached buffer this is the same work
as a flush. -/
def invalidate (backing : Backing) (offset length : Nat) : Except Fault Unit :=
  backing.flush offset length

/-- The files as they are while the backing shares its bytes with one of them. -/
def publish (backing : Backing) (files : Files) : Files :=
  match backing.source.mapping? with
  | some mapping => mapping.publish backing.memory files
  | none => files

/-- The content of the file at a path from `start` on, at most `length` bytes of it, as
it is while the backing shares its bytes with one of the files. -/
def fileContent (backing : Backing) (files : Files) (path : String)
    (start length : Nat) :
    Except IoFault (List UInt8) := do
  let file ← files.file path
  match backing.source.mapping? with
  | some mapping =>
    if mapping.isOver files path then
      return mapping.content backing.memory file start length
    else return file.content start length
  | none => return file.content start length

/-- The backing after its file was written. -/
def refresh (backing : Backing) (files : Files) : Backing :=
  match backing.source.mapping? with
  | some mapping => { backing with memory := mapping.refresh backing.memory files }
  | none => backing

/-- Run a step on the bytes. -/
def onMemory {α : Type} (step : Action Memory α) : Action Backing α :=
  Action.focus Backing.memory (fun backing memory => { backing with memory }) step

end Backing

end ArenaPaths
