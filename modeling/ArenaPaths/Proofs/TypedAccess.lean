import ArenaPaths.Proofs.Directory

/-!
# Typed access

Host and device load and store records by address, each through its own view of the
arena. An access goes through exactly if the record lies in the view as a whole. What
one of them stores both find again, as the bytes of its words in order with the least
significant byte first, and nothing else changes for either.

Main statement: `Arena.typed_access_coherent`.
-/

namespace ArenaPaths

open ArenaPaths.Action

/-! ## Bytes in a row -/

namespace Memory

theorem bytes_append (memory : Memory) (start first second : Nat) :
    memory.bytes start (first + second)
      = memory.bytes start first ++ memory.bytes (start + first) second := by
  simp only [bytes, List.range_add, List.map_append, List.map_map, Function.comp_def,
    Nat.add_assoc]

theorem bytes_succ (memory : Memory) (start length : Nat) :
    memory.bytes start (length + 1)
      = memory.get start :: memory.bytes (start + 1) length := by
  rw [Nat.add_comm, bytes_append]
  rfl

/-- Runs of equal length one behind the other are one run. -/
theorem bytes_mul (memory : Memory) (start count length : Nat) :
    memory.bytes start (count * length)
      = (List.range count).flatMap fun index =>
        memory.bytes (start + index * length) length := by
  induction count with
  | zero => rw [Nat.zero_mul]; rfl
  | succ count ih =>
    rw [Nat.add_one_mul, bytes_append, ih, List.range_succ, List.flatMap_append,
      List.flatMap_singleton]

end Memory

/-- The lowest bytes of a number, the least significant first. -/
def littleEndian : Nat → Nat → List UInt8
  | 0, _ => []
  | width + 1, value => value.toUInt8 :: littleEndian width (value / 256)

/-- The bytes of a number in memory are its own. -/
theorem littleEndian_number (memory : Memory) (position width : Nat) :
    littleEndian width (memory.number position width)
      = memory.bytes position width := by
  induction width generalizing position with
  | zero => rfl
  | succ width ih =>
    have byte := (memory.get position).toNat_lt
    have lowest : (memory.number position (width + 1)).toUInt8
        = memory.get position := by
      rw [← UInt8.toNat_inj, Memory.number, Nat.toUInt8, UInt8.toNat_ofNat']
      omega
    have others : memory.number position (width + 1) / 256
        = memory.number (position + 1) width := by
      rw [Memory.number]
      omega
    rw [littleEndian, lowest, others, ih, Memory.bytes_succ]

/-! ## Bytes of records -/

namespace Record

/-- A kind of record with the bytes of its values. -/
class Encoded (α : Type) [Record α] where
  encode : α → List UInt8
  /-- A value stands in memory as its bytes. -/
  encode_read : ∀ (memory : Memory) (position : Nat),
    encode (read memory position) = memory.bytes position (size α)

export Encoded (encode encode_read)

instance : Encoded UInt8 where
  encode value := littleEndian 1 value.toNat
  encode_read memory position := by
    have small : memory.number position 1 < UInt8.size := memory.number_lt position 1
    have toNat_eq : (read memory position : UInt8).toNat = memory.number position 1 :=
      UInt8.toNat_ofNat_of_lt small
    rw [toNat_eq]
    exact littleEndian_number memory position 1

instance : Encoded UInt16 where
  encode value := littleEndian 2 value.toNat
  encode_read memory position := by
    have small : memory.number position 2 < UInt16.size := memory.number_lt position 2
    have toNat_eq : (read memory position : UInt16).toNat = memory.number position 2 :=
      UInt16.toNat_ofNat_of_lt small
    rw [toNat_eq]
    exact littleEndian_number memory position 2

instance : Encoded UInt32 where
  encode value := littleEndian 4 value.toNat
  encode_read memory position := by
    have small : memory.number position 4 < UInt32.size := memory.number_lt position 4
    have toNat_eq : (read memory position : UInt32).toNat = memory.number position 4 :=
      UInt32.toNat_ofNat_of_lt small
    rw [toNat_eq]
    exact littleEndian_number memory position 4

instance : Encoded UInt64 where
  encode value := littleEndian 8 value.toNat
  encode_read memory position := by
    have small : memory.number position 8 < UInt64.size := memory.number_lt position 8
    have toNat_eq : (read memory position : UInt64).toNat = memory.number position 8 :=
      UInt64.toNat_ofNat_of_lt small
    rw [toNat_eq]
    exact littleEndian_number memory position 8

/-- Values one behind the other are their bytes one behind the other. -/
theorem flatMap_encode_read {α : Type} [Record α] [Encoded α] (memory : Memory)
    (position count : Nat) :
    ((List.range count).map fun index =>
      (read memory (position + index * size α) : α)).flatMap encode
      = memory.bytes position (count * size α) := by
  rw [List.flatMap_map]
  simp only [encode_read]
  exact (memory.bytes_mul position count (size α)).symm

instance {α : Type} {n : Nat} [Record α] [Encoded α] : Encoded (Vector α n) where
  encode values := values.toList.flatMap encode
  encode_read memory position := by
    have inRow : (read memory position : Vector α n).toList
        = (List.range n).map fun index => read memory (position + index * size α) := by
      apply List.ext_getElem
      · simp
      · intro index _ _
        simp [read]
    rw [inRow]
    exact flatMap_encode_read memory position n

instance : Encoded Edge where
  encode edge := [edge.target, edge.cost].flatMap encode
  encode_read memory position := flatMap_encode_read memory position 2

instance : Encoded Slot where
  encode slot := [slot.cost, slot.node].flatMap encode
  encode_read memory position := flatMap_encode_read memory position 2

instance : Encoded Entry where
  encode entry := [entry.id, entry.node, entry.next].flatMap encode
  encode_read memory position := flatMap_encode_read memory position 3

instance : Encoded Node where
  encode node := [node.parent, node.cost, node.firstPage, node.visited].flatMap encode
  encode_read memory position := flatMap_encode_read memory position 4

instance : Encoded Page where
  encode page := [page.count, page.next].flatMap encode ++ encode page.edges
  encode_read memory position := by
    have header : [(read memory (position + Page.countOffset) : UInt32),
        read memory (position + Page.nextOffset)].flatMap encode
          = memory.bytes position 8 :=
      flatMap_encode_read memory position 2
    have edges :
        encode (read memory (position + Page.edgesOffset) : Vector Edge edgesPerPage)
        = memory.bytes (position + 8) 64 :=
          encode_read memory (position + Page.edgesOffset)
    rw [read_page, header, edges]
    exact (memory.bytes_append position 8 64).symm

end Record

/-- The kinds of records that are loaded and stored. -/
inductive Kind where
  | byte
  | half
  | word
  | double
  | slot
  | entry
  | node
  | page
  deriving DecidableEq, Repr

namespace Kind

/-- The values of a kind. -/
def Value : Kind → Type
  | .byte => UInt8
  | .half => UInt16
  | .word => UInt32
  | .double => UInt64
  | .slot => Slot
  | .entry => Entry
  | .node => Node
  | .page => Page

instance : (kind : Kind) → Record kind.Value
  | .byte => inferInstanceAs (Record UInt8)
  | .half => inferInstanceAs (Record UInt16)
  | .word => inferInstanceAs (Record UInt32)
  | .double => inferInstanceAs (Record UInt64)
  | .slot => inferInstanceAs (Record Slot)
  | .entry => inferInstanceAs (Record Entry)
  | .node => inferInstanceAs (Record Node)
  | .page => inferInstanceAs (Record Page)

instance : (kind : Kind) → Record.Lawful kind.Value
  | .byte => inferInstanceAs (Record.Lawful UInt8)
  | .half => inferInstanceAs (Record.Lawful UInt16)
  | .word => inferInstanceAs (Record.Lawful UInt32)
  | .double => inferInstanceAs (Record.Lawful UInt64)
  | .slot => inferInstanceAs (Record.Lawful Slot)
  | .entry => inferInstanceAs (Record.Lawful Entry)
  | .node => inferInstanceAs (Record.Lawful Node)
  | .page => inferInstanceAs (Record.Lawful Page)

instance : (kind : Kind) → Record.Encoded kind.Value
  | .byte => inferInstanceAs (Record.Encoded UInt8)
  | .half => inferInstanceAs (Record.Encoded UInt16)
  | .word => inferInstanceAs (Record.Encoded UInt32)
  | .double => inferInstanceAs (Record.Encoded UInt64)
  | .slot => inferInstanceAs (Record.Encoded Slot)
  | .entry => inferInstanceAs (Record.Encoded Entry)
  | .node => inferInstanceAs (Record.Encoded Node)
  | .page => inferInstanceAs (Record.Encoded Page)

end Kind

/-! ## Views -/

/-- Who looks at an arena. -/
inductive View where
  | host
  | device
  deriving DecidableEq, Repr

namespace View

variable {α : Type} [Record α] {view : View} {arena : Arena} {address : UInt32}
  {length : Nat}

/-- What a view reaches. -/
def window : View → Arena → Window
  | .host, arena => arena.window
  | .device, arena => arena.deviceWindow

/-- Copy the record at an address out of the arena. -/
def load (α : Type) [Record α] (view : View) (address : UInt32) : Action Arena α := do
  Arena.onMemory ((view.window (← get)).load α address)

/-- Copy a record into the arena at an address. -/
def store (view : View) (address : UInt32) (value : α) : Action Arena Unit := do
  Arena.onMemory ((view.window (← get)).store address value)

/-- Where the bytes that a view reaches end. -/
def stop : View → Arena → Nat
  | .host, arena => arena.used
  | .device, arena => arena.capacity

/-- The bytes at an address lie behind the first granule and before the end of the
view. -/
def Admits (view : View) (arena : Arena) (address : UInt32) (length : Nat) : Prop :=
  arena.base.toNat + arena.granule ≤ address.toNat ∧
    address.toNat - arena.base.toNat + length ≤ view.stop arena

instance : Decidable (view.Admits arena address length) :=
  inferInstanceAs (Decidable (_ ∧ _))

theorem base_window (view : View) (arena : Arena) :
    (view.window arena).base = arena.base := by
  cases view <;> rfl

theorem low_window (view : View) (arena : Arena) :
    (view.window arena).low = arena.granule := by
  cases view <;> rfl

theorem high_window (view : View) (arena : Arena) :
    (view.window arena).high = view.stop arena := by
  cases view <;> rfl

/-- Each view of a sound arena is sound. -/
theorem window_sound (sound : arena.Sound) (view : View) :
    (view.window arena).Sound := by
  cases view with
  | host => exact sound.window_sound
  | device => exact sound.deviceWindow_sound

theorem locate_of_admits (admits : view.Admits arena address length) :
    (view.window arena).locate address length
      = .ok (address.toNat - arena.base.toNat) := by
  obtain ⟨lower, upper⟩ := admits
  rw [Window.locate_eq_ok_iff, base_window, low_window, high_window]
  exact ⟨by omega, by omega, upper⟩

theorem locate_of_not_admits (refused : ¬ view.Admits arena address length) :
    (view.window arena).locate address length
      = .error (.addressOutside address.toNat) := by
  apply if_neg
  rw [base_window, low_window, high_window, UInt32.le_iff_toNat_le]
  rintro ⟨above, lower, upper⟩
  exact refused ⟨by omega, upper⟩

/-! ## Loading and storing -/

theorem load_of_admits (admits : view.Admits arena address (Record.size α)) :
    view.load α address arena
      = .ok (Record.read arena.memory (address.toNat - arena.base.toNat)) arena := by
  have loaded : (view.window arena).load α address arena.memory
      = .ok (Record.read arena.memory (address.toNat - arena.base.toNat))
        arena.memory := by
    rw [Window.load, locate_of_admits admits]
    rfl
  exact focus_eq_ok loaded

theorem load_of_not_admits (refused : ¬ view.Admits arena address (Record.size α)) :
    view.load α address arena = .error (.addressOutside address.toNat) arena := by
  have failed : (view.window arena).load α address arena.memory
      = .error (.addressOutside address.toNat) arena.memory := by
    rw [Window.load, locate_of_not_admits refused]
    rfl
  exact focus_eq_error failed

theorem store_of_admits (admits : view.Admits arena address (Record.size α))
    (value : α) :
    view.store address value arena
      = .ok () (arena.withMemory
        (Record.write arena.memory (address.toNat - arena.base.toNat) value)) := by
  have stored : (view.window arena).store address value arena.memory
      = .ok ()
        (Record.write arena.memory (address.toNat - arena.base.toNat) value) := by
    rw [Window.store, locate_of_admits admits]
    rfl
  exact focus_eq_ok stored

theorem store_of_not_admits (refused : ¬ view.Admits arena address (Record.size α))
    (value : α) :
    view.store address value arena = .error (.addressOutside address.toNat) arena := by
  have failed : (view.window arena).store address value arena.memory
      = .error (.addressOutside address.toNat) arena.memory := by
    rw [Window.store, locate_of_not_admits refused]
    rfl
  exact focus_eq_error failed

/-- Whatever is written, a view admits the same bytes. -/
theorem admits_withMemory (memory : Memory) :
    view.Admits (arena.withMemory memory) address length ↔
    view.Admits arena address length := by
  cases view <;> rfl

/-- A byte that is not written loads as before, or is refused as before. -/
theorem result_load_byte {memory : Memory}
    (same : view.Admits arena address (Record.size UInt8) →
      memory.get (address.toNat - arena.base.toNat)
      = arena.memory.get (address.toNat - arena.base.toNat)) :
    (view.load UInt8 address).result (arena.withMemory memory)
      = (view.load UInt8 address).result arena := by
  by_cases admits : view.Admits arena address (Record.size UInt8)
  · have still := (admits_withMemory memory).mpr admits
    rw [result_of_ok (load_of_admits admits), result_of_ok (load_of_admits still),
      Record.read_byte, Record.read_byte]
    exact congrArg Except.ok (same admits)
  · have still := mt (admits_withMemory memory).mp admits
    rw [result_of_error (load_of_not_admits admits),
      result_of_error (load_of_not_admits still)]

end View

/-- What is seen of a record that was stored at an address, and of all else: its bytes
stand in their places, every view that admits it loads it, and all other bytes are as
before, through either view. -/
structure Arena.Stored {α : Type} [Record α] [Record.Encoded α] (arena : Arena)
    (address : UInt32) (value : α) (memory : Memory) : Prop where
  bytes_eq : memory.bytes (address.toNat - arena.base.toNat) (Record.size α)
    = Record.encode value
  load_eq : ∀ view : View, view.Admits arena address (Record.size α) →
    view.load α address (arena.withMemory memory) = .ok value (arena.withMemory memory)
  byte_eq : ∀ (view : View) (other : UInt32),
    other.toNat < address.toNat ∨ address.toNat + Record.size α ≤ other.toNat →
    (view.load UInt8 other).result (arena.withMemory memory)
      = (view.load UInt8 other).result arena
  same : Memory.SameExcept
    (Stretch (address.toNat - arena.base.toNat)
      (address.toNat - arena.base.toNat + Record.size α)) arena.memory memory

namespace Arena

variable {arena : Arena} {address : UInt32}

/-- A record that a view admits is stored. -/
theorem stored_write {α : Type} [Record α] [Record.Lawful α] [Record.Encoded α]
    {view : View} (admits : view.Admits arena address (Record.size α)) (value : α) :
    arena.Stored address value
      (Record.write arena.memory (address.toNat - arena.base.toNat) value) := by
  constructor
  case bytes_eq => rw [← Record.encode_read, Record.read_write]
  case load_eq =>
    intro other otherAdmits
    rw [View.load_of_admits ((View.admits_withMemory _).mpr otherAdmits)]
    exact congrArg (EStateM.Result.ok · _) (Record.read_write arena.memory _ value)
  case byte_eq =>
    intro other byte outside
    -- a byte that no view admits cannot be seen, so only positions in the arena are
    -- compared
    apply View.result_load_byte
    intro admitted
    have start := admits.1
    have otherStart := admitted.1
    exact Record.get_write _ _ (by omega)
  case same =>
    apply Memory.sameExcept_write
    exact fun query lower upper => ⟨lower, upper⟩

/-- Host and device load and store records of every kind exactly where the records lie
in their views, and fail elsewhere without changing anything. A load gives the value of
the bytes; a record that is stored stands as its bytes, for both of them, and nothing
else changes. Whatever the host reaches the device reaches as well. -/
theorem typed_access_coherent (obtainable : arena.Obtainable) (kind : Kind)
    (view : View) (address : UInt32) :
    (view.Admits arena address (Record.size kind.Value) →
      (∃ value, view.load kind.Value address arena = .ok value arena ∧
        Record.encode value
          = arena.memory.bytes (address.toNat - arena.base.toNat)
            (Record.size kind.Value)) ∧
      ∀ value : kind.Value, ∃ memory,
        view.store address value arena = .ok () (arena.withMemory memory) ∧
        arena.Stored address value memory) ∧
    (¬ view.Admits arena address (Record.size kind.Value) →
      view.load kind.Value address arena
        = .error (.addressOutside address.toNat) arena ∧
      ∀ value : kind.Value,
        view.store address value arena = .error (.addressOutside address.toNat) arena) ∧
    ∀ length, View.host.Admits arena address length →
      View.device.Admits arena address length := by
  refine ⟨?_, ?_, ?_⟩
  · intro admits
    refine ⟨⟨_, View.load_of_admits admits, Record.encode_read _ _⟩, ?_⟩
    exact fun value => ⟨_, View.store_of_admits admits value, stored_write admits value⟩
  · intro refused
    exact ⟨View.load_of_not_admits refused, View.store_of_not_admits refused⟩
  · intro length admits
    have room := obtainable.sound.used_le_capacity
    exact ⟨admits.1, Nat.le_trans admits.2 room⟩

/-- An arena that ends at the last address, with one block handed out. A double word
that fills the end of the block is stored by the host and loaded by the device. One byte
further it straddles the end of the block, where only the device can load it. At the
last address not even the device can load a half word. -/
theorem typed_access_coherent_at_ends :
    ∃ arena memory, arena.Obtainable ∧ arena.base = 0xFFFFFF00 ∧ arena.used = 64 ∧
      arena.capacity = 256 ∧
      View.host.store 0xFFFFFF38 (0x0102030405060708 : UInt64) arena
        = .ok () (arena.withMemory memory) ∧
      memory.bytes 56 8 = [8, 7, 6, 5, 4, 3, 2, 1] ∧
      View.device.load UInt64 0xFFFFFF38 (arena.withMemory memory)
        = .ok 0x0102030405060708 (arena.withMemory memory) ∧
      View.host.load UInt64 0xFFFFFF39 arena
        = .error (.addressOutside 0xFFFFFF39) arena ∧
      (∃ value, View.device.load UInt64 0xFFFFFF39 arena = .ok value arena) ∧
      View.device.load UInt16 0xFFFFFFFF arena
        = .error (.addressOutside 0xFFFFFFFF) arena := by
  have opened : ofBacking ⟨.heap, 0xFFFFFF00, 256, .zeros⟩ 16
      = .ok ⟨⟨.heap, 0xFFFFFF00, 256, .zeros⟩, 0xFFFFFF00, 16, 16, 0⟩ := rfl
  obtain ⟨arena, obtainable, base, granule, used, capacity⟩ :
      ∃ arena : Arena, arena.Obtainable ∧
      arena.base = 0xFFFFFF00 ∧ arena.granule = 16 ∧ arena.used = 64 ∧
      arena.capacity = 256 :=
    ⟨_, .allocate (.ofBacking opened) (rfl : allocate? 48 _ = _), rfl, rfl, rfl, rfl⟩
  have hostAdmits : View.host.Admits arena 0xFFFFFF38 8 := by
    rw [View.Admits, View.stop, base, granule, used]
    decide
  have hostRefuses : ¬ View.host.Admits arena 0xFFFFFF39 8 := by
    rw [View.Admits, View.stop, base, granule, used]
    decide
  have deviceAdmits : View.device.Admits arena 0xFFFFFF39 8 := by
    rw [View.Admits, View.stop, base, granule, capacity]
    decide
  have deviceRefuses : ¬ View.device.Admits arena 0xFFFFFFFF 2 := by
    rw [View.Admits, View.stop, base, granule, capacity]
    decide
  obtain ⟨accepted, _, wider⟩ :=
    typed_access_coherent obtainable .double .host 0xFFFFFF38
  obtain ⟨memory, stored, seen⟩ := (accepted hostAdmits).2 (0x0102030405060708 : UInt64)
  have bytes := seen.bytes_eq
  rw [base] at bytes
  obtain ⟨_, refused, _⟩ := typed_access_coherent obtainable .double .host 0xFFFFFF39
  obtain ⟨loaded, _⟩ := typed_access_coherent obtainable .double .device 0xFFFFFF39
  obtain ⟨value, load, _⟩ := (loaded deviceAdmits).1
  obtain ⟨_, beyond, _⟩ := typed_access_coherent obtainable .half .device 0xFFFFFFFF
  exact ⟨arena, memory, obtainable, base, used, capacity, stored, bytes,
    seen.load_eq .device (wider 8 hostAdmits),
    (refused hostRefuses).1, ⟨value, load⟩, (beyond deviceRefuses).1⟩

end Arena

end ArenaPaths
