import Std.Data.TreeMap

/-!
# Memory

Bytes at natural-number positions, all but finitely many of them zero. Only positions
that were written are kept, so a large memory that is hardly used stays small. The view
of a memory is `get`; what every operation does to it is said right beneath the
operation.
-/

namespace ArenaPaths

/-- Bytes by position; a position that is not kept holds zero. Positions from `bound` on
hold nothing but zeros, so there is never anything to clear among them. -/
structure Memory where
  cells : Std.TreeMap Nat UInt8 := ∅
  bound : Nat := 0
  getD_of_bound_le : ∀ position, bound ≤ position → cells.getD position 0 = 0 := by simp

namespace Memory

/-- The memory of zeros. -/
def zeros : Memory := {}

/-- The byte at a position. -/
def get (m : Memory) (position : Nat) : UInt8 :=
  m.cells.getD position 0

theorem get_of_bound_le (m : Memory) {position : Nat} (beyond : m.bound ≤ position) :
    m.get position = 0 :=
  m.getD_of_bound_le position beyond

/-- Put a byte at a position. -/
def set (m : Memory) (position : Nat) (byte : UInt8) : Memory where
  cells := m.cells.insert position byte
  bound := max m.bound (position + 1)
  getD_of_bound_le query beyond := by
    have different : position ≠ query := by omega
    have unchanged := m.getD_of_bound_le query (by omega)
    simpa [Std.TreeMap.getD_insert, different] using unchanged

@[simp] theorem get_zeros (position : Nat) : zeros.get position = 0 := by
  simp [zeros, get]

theorem get_set (m : Memory) (position query : Nat) (byte : UInt8) :
    (m.set position byte).get query
      = if query = position then byte else m.get query := by
  simp only [set, get, Std.TreeMap.getD_insert, Nat.compare_eq_eq,
    eq_comm (a := position)]

@[simp] theorem get_set_self (m : Memory) (position : Nat) (byte : UInt8) :
    (m.set position byte).get position = byte := by
  simp [get_set]

theorem get_set_of_ne (m : Memory) {position query : Nat} (byte : UInt8)
    (different : query ≠ position) :
    (m.set position byte).get query = m.get query := by
  simp [get_set, different]

/-- The bytes at positions that pass a test are kept and the others are zero. -/
private theorem getD_filter (cells : Std.TreeMap Nat UInt8) (keep : Nat → Bool)
    (query : Nat) :
    (cells.filter fun position _ => keep position).getD query 0
      = if keep query then cells.getD query 0 else 0 := by
  simp only [Std.TreeMap.getD_eq_getD_getElem?, Std.TreeMap.getElem?_filter']
  cases cells[query]? with
  | none => simp
  | some byte => cases keep query <;> simp [Option.filter]

/-- The memory with zeros wherever a test does not pass. -/
def restrict (m : Memory) (keep : Nat → Bool) : Memory where
  cells := m.cells.filter fun position _ => keep position
  bound := m.bound
  getD_of_bound_le query beyond := by
    simp [getD_filter, m.getD_of_bound_le query beyond]

theorem get_restrict (m : Memory) (keep : Nat → Bool) (query : Nat) :
    (m.restrict keep).get query = if keep query then m.get query else 0 :=
  getD_filter m.cells keep query

/-- Put a zero at a position. -/
def erase (m : Memory) (position : Nat) : Memory where
  cells := m.cells.erase position
  bound := m.bound
  getD_of_bound_le query beyond := by
    simp [Std.TreeMap.getD_erase, m.getD_of_bound_le query beyond]

theorem get_erase (m : Memory) (position query : Nat) :
    (m.erase position).get query = if query = position then 0 else m.get query := by
  simp only [erase, get, Std.TreeMap.getD_erase, Nat.compare_eq_eq,
    eq_comm (a := position)]

/-- Put zeros at the given number of positions from `start` on, one by one. -/
def eraseFrom (m : Memory) (start : Nat) : Nat → Memory
  | 0 => m
  | length + 1 => (m.erase start).eraseFrom (start + 1) length

theorem get_eraseFrom (m : Memory) (start length query : Nat) :
    (m.eraseFrom start length).get query
      = if start ≤ query ∧ query < start + length then 0 else m.get query := by
  induction length generalizing m start with
  | zero =>
    have outside : ¬(start ≤ query ∧ query < start + 0) := by omega
    simp only [eraseFrom, if_neg outside]
  | succ length ih =>
    rw [eraseFrom, ih, get_erase]
    grind

/-- Put zeros at `length` positions from `start` on. Few of them are dropped one by one,
and many at a time. -/
def clear (m : Memory) (start length : Nat) : Memory :=
  if m.bound ≤ start then m
  else if length < m.cells.size then m.eraseFrom start length
  else m.restrict fun position => position < start || start + length ≤ position

theorem get_clear (m : Memory) (start length query : Nat) :
    (m.clear start length).get query
      = if start ≤ query ∧ query < start + length then 0 else m.get query := by
  unfold clear
  split
  · split
    · exact m.get_of_bound_le (by omega)
    · rfl
  split
  · exact m.get_eraseFrom start length query
  · rw [get_restrict]
    by_cases inside : start ≤ query ∧ query < start + length
    · have dropped : (decide (query < start) || decide (start + length ≤ query))
          = false := by
        simp; omega
      simp [dropped, inside]
    · have kept : (decide (query < start) || decide (start + length ≤ query))
          = true := by
        simp; omega
      simp [kept, inside]

/-! ## Numbers in little-endian order -/

/-- The number whose `width` bytes stand at a position, least significant first. -/
def number (m : Memory) (position : Nat) : Nat → Nat
  | 0 => 0
  | width + 1 => (m.get position).toNat + 256 * m.number (position + 1) width

/-- Put the `width` lowest bytes of a number at a position, least significant first. -/
def setNumber (m : Memory) (position : Nat) : Nat → Nat → Memory
  | 0, _ => m
  | width + 1, value =>
    (m.set position value.toUInt8).setNumber (position + 1) width (value / 256)

/-- A number is written nowhere but on its own bytes. -/
theorem get_setNumber_of_not_mem (m : Memory) {position width query : Nat} (value : Nat)
    (outside : query < position ∨ position + width ≤ query) :
    (m.setNumber position width value).get query = m.get query := by
  induction width generalizing m position value with
  | zero => rfl
  | succ width ih =>
    rw [setNumber, ih _ _ (by omega)]
    exact get_set_of_ne _ _ (by omega)

/-- What is read depends on the bytes of the number alone. -/
theorem number_congr {m other : Memory} {position width : Nat}
    (agree : ∀ query, position ≤ query → query < position + width →
      m.get query = other.get query) :
    m.number position width = other.number position width := by
  induction width generalizing position with
  | zero => rfl
  | succ width ih =>
    simp only [number]
    rw [agree position (by omega) (by omega),
      ih fun query lower upper => agree query (by omega) (by omega)]

/-- A number reads back as far as its width goes. -/
theorem number_setNumber (m : Memory) (position width value : Nat) :
    (m.setNumber position width value).number position width
      = value % Nat.pow 256 width := by
  induction width generalizing m position value with
  | zero => simp [number, Nat.pow, Nat.mod_one]
  | succ width ih =>
    have lowest :
        ((m.set position value.toUInt8).setNumber (position + 1) width
          (value / 256)).get position
        = value.toUInt8 := by
      rw [get_setNumber_of_not_mem _ _ (by omega), get_set_self]
    simp only [setNumber, number]
    have step : Nat.pow 256 (width + 1) = 256 * Nat.pow 256 width := Nat.mul_comm _ _
    rw [ih, lowest, step, Nat.mod_mul]
    simp [Nat.toUInt8]

/-! ## Runs of bytes -/

/-- The bytes at `length` positions from `start` on. -/
def bytes (m : Memory) (start length : Nat) : List UInt8 :=
  (List.range length).map fun i => m.get (start + i)

/-- Put bytes one after another from a position on. -/
def setBytes (m : Memory) (position : Nat) : List UInt8 → Memory
  | [] => m
  | byte :: rest => (m.set position byte).setBytes (position + 1) rest

/-- The part of a memory at `length` positions from `start` on, moved down to zero. -/
def slice (m : Memory) (start length : Nat) : Memory :=
  m.cells.foldl
    (fun part position byte =>
      if start ≤ position ∧ position < start + length then
        part.set (position - start) byte
      else part)
    zeros

/-- Put the first `length` bytes of another memory in place of those from `start` on. -/
def splice (m : Memory) (start length : Nat) (part : Memory) : Memory :=
  part.cells.foldl
    (fun spliced position byte =>
      if position < length then spliced.set (start + position) byte else spliced)
    (m.clear start length)

end Memory

end ArenaPaths
