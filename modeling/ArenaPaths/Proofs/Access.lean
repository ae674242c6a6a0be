import ArenaPaths.Proofs.Running
import ArenaPaths.Directory
import ArenaPaths.Record.Lawful
import Mathlib.Tactic.ByContra

/-!
# Access by position

Records refer to one another by physical address, but they are told apart by their
positions in memory. This module gives every position of a window its address and says
what loads, stores and entries of tables do in terms of positions, so that later proofs
reason about positions alone.
-/

namespace ArenaPaths

/-! ## What a change leaves alone -/

namespace Memory

variable {before between after : Memory} {touched : Nat → Prop}

/-- Two memories hold the same bytes at all positions but those that may be touched. -/
def SameExcept (touched : Nat → Prop) (before after : Memory) : Prop :=
  ∀ position, ¬touched position → after.get position = before.get position

theorem SameExcept.refl (memory : Memory) :
    SameExcept touched memory memory := fun _ _ => rfl

theorem SameExcept.trans (first : SameExcept touched before between)
    (second : SameExcept touched between after) :
    SameExcept touched before after :=
  fun position outside => (second position outside).trans (first position outside)

theorem SameExcept.mono {wider : Nat → Prop} (same : SameExcept touched before after)
    (within : ∀ position, touched position → wider position) :
    SameExcept wider before after :=
  fun position outside => same position fun inside => outside (within position inside)

/-- A record whose bytes are not touched reads the same. -/
theorem SameExcept.read_eq {α : Type} [Record α] [Record.Lawful α]
    (same : SameExcept touched before after) {position : Nat}
    (outside : ∀ query, position ≤ query → query < position + Record.size α →
      ¬touched query) :
    (Record.read after position : α) = Record.read before position :=
  Record.read_congr fun query lower upper => same query (outside query lower upper)

/-- Writing a record touches its own bytes. -/
theorem sameExcept_write {α : Type} [Record α] [Record.Lawful α] (memory : Memory)
    (position : Nat) (value : α) (own : ∀ query, position ≤ query →
      query < position + Record.size α → touched query) :
    SameExcept touched memory (Record.write memory position value) := by
  intro query outside
  apply Record.get_write
  by_contra inside
  exact outside (own query (by omega) (by omega))

theorem number_lt (memory : Memory) (position width : Nat) :
    memory.number position width < Nat.pow 256 width := by
  induction width generalizing position with
  | zero => exact Nat.one_pos
  | succ width ih =>
    have byte := (memory.get position).toNat_lt
    have above := ih (position + 1)
    have step : Nat.pow 256 (width + 1) = 256 * Nat.pow 256 width := Nat.mul_comm _ _
    rw [number, step]
    omega

/-- Numbers tell all of their bytes. -/
theorem get_eq_of_number_eq {position width query : Nat}
    (same : after.number position width = before.number position width)
    (lower : position ≤ query) (upper : query < position + width) :
    after.get query = before.get query := by
  induction width generalizing position with
  | zero => omega
  | succ width ih =>
    have byte := (after.get position).toNat_lt
    have otherByte := (before.get position).toNat_lt
    simp only [number] at same
    by_cases isFirst : query = position
    · subst isFirst
      rw [← UInt8.toNat_inj]
      omega
    · have above : after.number (position + 1) width
          = before.number (position + 1) width := by omega
      exact ih above (by omega) (by omega)

end Memory

/-! ## Sizes of records -/

namespace Record

@[simp] theorem size_word : size UInt32 = 4 := rfl

@[simp] theorem size_node : size Node = 16 := rfl

@[simp] theorem size_page : size Page = 72 := rfl

@[simp] theorem size_slot : size Slot = 8 := rfl

@[simp] theorem size_entry : size Entry = 12 := rfl

end Record

/-- Words tell all of their bytes. -/
theorem Record.get_eq_of_read_eq {before after : Memory} {position query : Nat}
    (same : (Record.read after position : UInt32) = Record.read before position)
    (lower : position ≤ query) (upper : query < position + 4) :
    after.get query = before.get query := by
  have small : after.number position 4 < UInt32.size := after.number_lt position 4
  have otherSmall : before.number position 4 < UInt32.size :=
    before.number_lt position 4
  apply Memory.get_eq_of_number_eq _ lower upper
  calc after.number position 4
      = (Record.read after position : UInt32).toNat :=
        (UInt32.toNat_ofNat_of_lt small).symm
    _ = (Record.read before position : UInt32).toNat := by rw [same]
    _ = before.number position 4 := UInt32.toNat_ofNat_of_lt otherSmall

/-! ## Cleared bytes -/

namespace Record

variable {α : Type} [Record α] [Lawful α]

/-- A record on cleared bytes reads as it would from a memory of zeros. -/
theorem read_of_zero {memory : Memory} {position : Nat}
    (cleared : ∀ query, position ≤ query → query < position + size α →
      memory.get query = 0) :
    (read memory position : α) = read Memory.zeros position :=
  read_congr fun query lower upper => by
    rw [cleared query lower upper, Memory.get_zeros]

/-- A byte reads as itself. -/
theorem read_byte (memory : Memory) (position : Nat) :
    (read memory position : UInt8) = memory.get position := by
  simp [read, Memory.number]

theorem read_zeros_word (position : Nat) :
    (read Memory.zeros position : UInt32) = 0 := by
  simp [read, Memory.number]

theorem read_zeros_edge (position : Nat) :
    (read Memory.zeros position : Edge) = ⟨nullAddress, 0⟩ := by
  rw [read_edge, read_zeros_word, read_zeros_word]
  rfl

end Record

@[simp] theorem wordSize_eq : wordSize = 4 := rfl

/-! ## Positions and addresses -/

namespace Window

variable {window : Window} {position other length : Nat} {memory : Memory}

/-- Physical address of a position. -/
def address (window : Window) (position : Nat) : UInt32 :=
  (window.base.toNat + position).toUInt32

/-- Every position of the window has an address of its own, and none of them is null. -/
structure Sound (window : Window) : Prop where
  low_pos : 0 < window.low
  base_add_high_le : window.base.toNat + window.high ≤ UInt32.size

/-- A run of bytes lies in the window. -/
structure Spans (window : Window) (position length : Nat) : Prop where
  low_le : window.low ≤ position
  le_high : position + length ≤ window.high

theorem toNat_address (sound : window.Sound) (inside : position < window.high) :
    (window.address position).toNat = window.base.toNat + position := by
  have fits := sound.base_add_high_le
  rw [address, Nat.toUInt32, UInt32.toNat_ofNat']
  exact Nat.mod_eq_of_lt (by simp only [UInt32.size] at fits; omega)

theorem address_inj (sound : window.Sound) (inside : position < window.high)
    (otherInside : other < window.high) :
    window.address position = window.address other ↔ position = other := by
  rw [← UInt32.toNat_inj, toNat_address sound inside, toNat_address sound otherInside]
  omega

theorem address_ne_null (sound : window.Sound) (spans : window.Spans position length)
    (positive : 0 < length) :
    window.address position ≠ nullAddress := by
  intro isNull
  have low := sound.low_pos
  have lower := spans.low_le
  have upper := spans.le_high
  have value := toNat_address sound (show position < window.high by omega)
  rw [isNull] at value
  simp only [nullAddress, UInt32.toNat_zero] at value
  omega

/-- The address of an entry of a table is that of its position. -/
theorem entryAddress_address {index stride : Nat} (sound : window.Sound)
    (inside : position + index * stride < window.high) :
    Word.entryAddress (window.address position) index stride
      = .ok (window.address (position + index * stride)) := by
  have fits := sound.base_add_high_le
  have table := toNat_address sound (show position < window.high by omega)
  rw [Word.entryAddress_eq_ok (by omega), table, address, Nat.add_assoc]

theorem locate_address (sound : window.Sound) (spans : window.Spans position length)
    (positive : 0 < length) :
    window.locate (window.address position) length = .ok position := by
  have upper := spans.le_high
  rw [locate_eq_ok_iff]
  exact ⟨toNat_address sound (by omega), spans.low_le, upper⟩

theorem Spans.part (spans : window.Spans position length) {offset inner : Nat}
    (inside : offset + inner ≤ length) :
    window.Spans (position + offset) inner := by
  obtain ⟨lower, upper⟩ := spans
  constructor <;> omega

theorem locate_eq_error {address : UInt32} {fault : Fault}
    (outside : window.locate address length = .error fault) :
    fault = .addressOutside address.toNat := by
  simp only [locate] at outside
  split at outside
  · cases outside
  · exact (Except.error.inj outside).symm

section Records

variable {α : Type} [Record α]

theorem load_of_locate {address : UInt32}
    (located : window.locate address (Record.size α) = .ok position) :
    window.load α address memory = .ok (Record.read memory position) memory := by
  rw [load, located]
  rfl

theorem load_of_outside {address : UInt32} {fault : Fault}
    (outside : window.locate address (Record.size α) = .error fault) :
    window.load α address memory = .error fault memory := by
  rw [load, outside]
  rfl

theorem store_of_locate {address : UInt32}
    (located : window.locate address (Record.size α) = .ok position) (value : α) :
    window.store address value memory
    = .ok () (Record.write memory position value) := by
  rw [store, located]
  rfl

/-- A record that lies in the window is loaded from its position. -/
theorem load_address (sound : window.Sound)
    (spans : window.Spans position (Record.size α)) (positive : 0 < Record.size α) :
    window.load α (window.address position) memory
      = .ok (Record.read memory position) memory := by
  rw [load, locate_address sound spans positive]
  rfl

/-- A record that lies in the window is stored at its position. -/
theorem store_address (sound : window.Sound)
    (spans : window.Spans position (Record.size α)) (positive : 0 < Record.size α)
    (value : α) :
    window.store (window.address position) value memory
      = .ok () (Record.write memory position value) := by
  rw [store, locate_address sound spans positive]
  rfl

end Records

/-! ## Two windows on one memory -/

/-- All that a window reaches, another one reaches under the same address. -/
structure Within (inner outer : Window) : Prop where
  base_eq : outer.base = inner.base
  low_le : outer.low ≤ inner.low
  high_le : inner.high ≤ outer.high

theorem Within.refl (window : Window) :
    window.Within window := ⟨rfl, Nat.le_refl _, Nat.le_refl _⟩

theorem Within.address_eq {inner outer : Window} (within : inner.Within outer)
    (position : Nat) :
    outer.address position = inner.address position := by
  rw [address, address, within.base_eq]

theorem Within.spans {inner outer : Window} (within : inner.Within outer)
    (spans : inner.Spans position length) :
    outer.Spans position length := by
  obtain ⟨lower, upper⟩ := spans
  have low := within.low_le
  have high := within.high_le
  constructor <;> omega

end Window

/-! ## References -/

theorem NodeRef.ofWord?_of_ne {word : UInt32} (present : word ≠ nullAddress) :
    NodeRef.ofWord? word = some ⟨word, present⟩ :=
  dif_pos present

@[simp] theorem NodeRef.ofWord?_null : NodeRef.ofWord? nullAddress = none := rfl

theorem NodeRef.address_of_ofWord? {word : UInt32} {node : NodeRef}
    (refers : NodeRef.ofWord? word = some node) :
    node.address = word := by
  rw [ofWord?] at refers
  split at refers
  · cases refers
    rfl
  · cases refers

theorem NodeRef.ext_address {left right : NodeRef}
    (equal : left.address = right.address) : left = right := by
  cases left
  cases right
  cases equal
  rfl

theorem PageRef.ofWord?_of_ne {word : UInt32} (present : word ≠ nullAddress) :
    PageRef.ofWord? word = some ⟨word, present⟩ :=
  dif_pos present

@[simp] theorem PageRef.ofWord?_null : PageRef.ofWord? nullAddress = none := rfl

end ArenaPaths
