import ArenaPaths.Action
import ArenaPaths.Record

/-!
# Windows

Host and device reach one memory by physical address, each through a window of its own:
the host's ends where the arena has handed out blocks so far, the device's at the end of
the backing. A record is accessible if it lies in the window as a whole; then its bytes
are copied in or out, and otherwise nothing happens but the fault.
-/

namespace ArenaPaths

/-- The positions from `low` up to `high`, where position zero has the physical address
`base`. -/
structure Window where
  base : UInt32
  low : Nat
  high : Nat
  deriving DecidableEq, Repr

namespace Window

variable {α : Type}

/-- The position of `length` bytes at an address, if all of them are in the window. -/
def locate (window : Window) (address : UInt32) (length : Nat) : Except Fault Nat :=
  let position := address.toNat - window.base.toNat
  if window.base ≤ address ∧ window.low ≤ position ∧
      position + length ≤ window.high then .ok position
  else .error (.addressOutside address.toNat)

/-- Copy the record at an address out of memory. -/
def load (α : Type) [Record α] (window : Window) (address : UInt32) :
    Action Memory α := do
  let position ← window.locate address (Record.size α)
  return Record.read (← get) position

/-- Copy a record into memory at an address. -/
def store [Record α] (window : Window) (address : UInt32) (value : α) :
    Action Memory Unit := do
  let position ← window.locate address (Record.size α)
  modify (Record.write · position value)

/-- Load the bytes at the given addresses one by one; the first that is not accessible
is the fault. -/
def loadBytes (window : Window) (addresses : List UInt32) :
    Action Memory (List UInt8) :=
  addresses.mapM (window.load UInt8)

/-- An address is located exactly if the bytes from it on lie in the window, counted in
natural numbers. -/
theorem locate_eq_ok_iff {window : Window} {address : UInt32} {length position : Nat} :
    window.locate address length = .ok position ↔
      address.toNat = window.base.toNat + position ∧ window.low ≤ position ∧
      position + length ≤ window.high := by
  simp only [locate, UInt32.le_iff_toNat_le]
  split
  · simp only [Except.ok.injEq]; omega
  · simp only [reduceCtorEq, false_iff]; omega

end Window

end ArenaPaths
