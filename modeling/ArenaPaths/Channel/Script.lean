import ArenaPaths.Channel.Registers
import ArenaPaths.Window

/-!
# Scripted registers

A bank of registers that plays a part written down beforehand: the words that its status
and data registers give, and the stores that it makes to the memory it shares with the
host once it has a whole request. It keeps count of what was asked of it.
-/

namespace ArenaPaths

/-- A part to play, and what has been played of it. -/
structure Script where
  /-- Words that the status register still gives; after them it gives zero. -/
  status : List UInt32 := []
  /-- Words that the data register still gives; after them it gives the word last
  written. -/
  data : List UInt32 := []
  /-- Words to be stored at physical addresses when the last word of the first request
  comes in. -/
  stores : List (UInt32 × UInt32) := []
  /-- Reads of the status register so far. -/
  statusReads : Nat := 0
  /-- Words written so far, the last one first. -/
  written : List UInt32 := []
  deriving DecidableEq, Repr

namespace Script

/-- Read a register. -/
def read (offset : Nat) (script : Script) : UInt32 × Script :=
  if offset = Register.status then
    (script.status.headD 0, { script with
        status := script.status.tail, statusReads := script.statusReads + 1 })
  else
    match script.data with
    | word :: rest => (word, { script with data := rest })
    | [] => (script.written.headD 0, script)

/-- Write a register. -/
def write (word : UInt32) (script : Script) : Script :=
  { script with written := word :: script.written }

/-- Whether the last word written completed the first request. -/
def requested (script : Script) : Bool :=
  script.written.length == Channel.requestWords

/-- Store words at addresses; one that is out of reach has no effect. -/
def storeWords (window : Window) (stores : List (UInt32 × UInt32))
    (memory : Memory) : Memory :=
  stores.foldl (fun memory (address, word) =>
    ((window.store address word).outcome memory).2) memory

/-- The script as a bank of registers, with what it reaches of the memory it shares. -/
def bank (window : Window) : RegisterBank (Script × Memory) where
  read offset := modifyGet fun (script, memory) =>
    let (word, rest) := script.read offset
    (word, rest, memory)
  write _ word := modify fun (script, memory) =>
    let rest := script.write word
    (rest, if rest.requested then storeWords window rest.stores memory else memory)

end Script

end ArenaPaths
