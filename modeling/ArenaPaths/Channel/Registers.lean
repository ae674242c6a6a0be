import ArenaPaths.Channel.Basic
import ArenaPaths.Mapping
import ArenaPaths.Record

/-!
# Channels over registers

An accelerator has a data register, which takes request words and gives response words,
and a status register, whose bits say when the data register must not be used. A guarded
channel polls the status until the bit in question is clear; an unguarded one trusts the
accelerator to be ready.

A bank of registers is any state machine that can be read and written at byte offsets.
The one of a real device is a window of mapped memory.
-/

namespace ArenaPaths

/-- Registers at byte offsets, over a state `σ`. Both reading and writing may change the
state. -/
structure RegisterBank (σ : Type) where
  read : Nat → Action σ UInt32
  write : Nat → UInt32 → Action σ Unit

namespace Register

/-- Offset of the data register. -/
def data : Nat := 0

/-- Offset of the status register. -/
def status : Nat := 4

/-- Bytes that the registers of a device take. -/
def windowSize : Nat := 0x1000

/-- Status bit: there is no response word. -/
def outputEmpty : UInt32 := 1

/-- Status bit: there is no room for a request word. -/
def inputFull : UInt32 := 2

end Register

/-! ## Polling -/

/-- Whether the status is looked at before the data register is used. -/
inductive Guard where
  | guarded
  | unguarded
  deriving DecidableEq, Repr

/-- How a guard is shown. -/
def Guard.label : Guard → String
  | .guarded => "Guarded"
  | .unguarded => "Unguarded"

/-- How long to poll. -/
structure Polling where
  /-- Polls before giving up, if there is an end to it. -/
  limit : Option Nat
  /-- Polls between two chances for other threads. -/
  yieldInterval : Nat := 10000
  deriving DecidableEq, Repr

namespace Polling

/-- Polls when no number is asked for. -/
def defaultLimit : Nat := 100000000

/-- Polling when nothing is asked for. -/
def default : Polling := ⟨some defaultLimit, 10000⟩

/-- Polls that can be counted: the count of polls without a limit stops the program
here. -/
def countable : Nat := UInt64.size

/-- Reads of the status that a wait makes at most. Even a limit of zero allows one. -/
def reads (polling : Polling) : Nat :=
  match polling.limit with
  | some limit => max 1 limit
  | none => countable

/-- The fault of a wait that has made all its reads. -/
def exhausted (polling : Polling) (operation : String) : Fault :=
  match polling.limit with
  | some _ => .timeout operation polling.reads
  | none => .abort .addOverflow

/-- Whether other threads get a chance after the given number of polls. An interval of
zero counts as one. -/
def yields (polling : Polling) (polls : Nat) : Except Fault Bool := do
  return (← Word.rem polls (max polling.yieldInterval 1)) == 0

end Polling

namespace RegisterBank

variable {σ : Type}

/-- Look whether a status bit is clear. -/
def isClear (bank : RegisterBank σ) (mask : UInt32) : Action σ Bool := do
  let status ← bank.read Register.status
  return status &&& mask == 0

/-- Poll until a status bit is clear, after some polls that found it set. At most the
given number of polls follow the first one. -/
def poll (bank : RegisterBank σ) (polling : Polling) (mask : UInt32)
    (operation : String) (polls : Nat) :
    Nat → Action σ Unit
  | 0 => do
    if ← bank.isClear mask then return ()
    else throw (polling.exhausted operation)
  | remaining + 1 => do
    if ← bank.isClear mask then return ()
    else
      -- whether other threads get their chance is not seen by this one
      let _ ← polling.yields (polls + 1)
      bank.poll polling mask operation (polls + 1) remaining

/-- Wait for a status bit to clear, if the channel is guarded. -/
def await (bank : RegisterBank σ) (guard : Guard) (polling : Polling) (mask : UInt32)
    (operation : String) :
    Action σ Unit :=
  match guard with
  | .guarded => bank.poll polling mask operation 0 (polling.reads - 1)
  | .unguarded => return ()

/-- Put a word in the data register once there is room for it. -/
def send (bank : RegisterBank σ) (guard : Guard) (polling : Polling) (word : UInt32) :
    Action σ Unit := do
  bank.await guard polling Register.inputFull "write_word"
  bank.write Register.data word

/-- Take a word from the data register once there is one. -/
def receive (bank : RegisterBank σ) (guard : Guard) (polling : Polling) :
    Action σ UInt32 := do
  bank.await guard polling Register.outputEmpty "read_word"
  bank.read Register.data

/-- The channel over a bank of registers. -/
def channel (bank : RegisterBank σ) (guard : Guard) (polling : Polling) :
    Channel σ where
  kind := .registers
  send := bank.send guard polling
  receive := bank.receive guard polling

end RegisterBank

/-! ## The registers of a device -/

/-- Mapped registers of a device. -/
structure RegisterWindow where
  mapping : Mapping
  memory : Memory

namespace RegisterWindow

/-- Map the registers of the device at a path. -/
def make (files : Files) (path : String) : Except Fault RegisterWindow := do
  let (mapping, memory) ← Mapping.make files path Register.windowSize 0
  return ⟨mapping, memory⟩

/-- Check that a register is in the window; it stops the program to use one that is
not. -/
def check (window : RegisterWindow) (offset : Nat) : Except Fault Unit := do
  let stop ← Word.add UInt64.size offset 4
  if window.mapping.size < stop then throw (.abort .registerOutOfBounds)

/-- Mapped memory as a bank of registers. -/
def bank : RegisterBank RegisterWindow where
  read offset := do
    (← get).check offset
    return Record.read (← get).memory offset
  write offset word := do
    (← get).check offset
    modify fun window =>
      { window with memory := Record.write window.memory offset word }

/-- The files as they are while the window shares its bytes with one of them. -/
def publish (window : RegisterWindow) (files : Files) : Files :=
  window.mapping.publish window.memory files

/-- The window after its file was written. -/
def refresh (window : RegisterWindow) (files : Files) : RegisterWindow :=
  { window with memory := window.mapping.refresh window.memory files }

end RegisterWindow

end ArenaPaths
