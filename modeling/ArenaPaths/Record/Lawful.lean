import ArenaPaths.Record

/-!
# Layouts behave

What is written reads back, writing touches the value's own bytes alone, and reading
looks at no others. This holds of every kind of record, because words stand side by side
in them.
-/

namespace ArenaPaths.Record

/-- A kind whose layout behaves. -/
class Lawful (α : Type) [Record α] : Prop where
  read_write : ∀ (m : Memory) (position : Nat) (value : α),
    read (write m position value) position = value
  get_write : ∀ (m : Memory) {position query : Nat} (value : α),
    query < position ∨ position + size α ≤ query →
    (write m position value).get query = m.get query
  read_congr : ∀ {m other : Memory} {position : Nat},
    (∀ query, position ≤ query → query < position + size α →
      m.get query = other.get query) →
      (read m position : α) = read other position

export Lawful (read_write get_write read_congr)

variable {α β : Type} [Record α] [Record β]

/-- A record that is written beside another one leaves it alone. -/
theorem read_write_of_disjoint [Lawful α] [Lawful β] (m : Memory) {position other : Nat}
    (value : β) (disjoint : position + size α ≤ other ∨ other + size β ≤ position) :
    (read (write m other value) position : α) = read m position :=
  read_congr fun _ lower upper => get_write m value (by omega)

/-! ## Words -/

instance : Lawful UInt8 where
  read_write m position value := by
    simp [read, write, Memory.number_setNumber]
  get_write m _ _ value := Memory.get_setNumber_of_not_mem m value.toNat
  read_congr agree := congrArg Nat.toUInt8 (Memory.number_congr agree)

instance : Lawful UInt16 where
  read_write m position value := by
    have small := value.toNat_lt
    simp [read, write, Memory.number_setNumber, Nat.mod_eq_of_lt small]
  get_write m _ _ value := Memory.get_setNumber_of_not_mem m value.toNat
  read_congr agree := congrArg Nat.toUInt16 (Memory.number_congr agree)

instance : Lawful UInt32 where
  read_write m position value := by
    have small := value.toNat_lt
    simp [read, write, Memory.number_setNumber, Nat.mod_eq_of_lt small]
  get_write m _ _ value := Memory.get_setNumber_of_not_mem m value.toNat
  read_congr agree := congrArg Nat.toUInt32 (Memory.number_congr agree)

instance : Lawful UInt64 where
  read_write m position value := by
    have small := value.toNat_lt
    simp [read, write, Memory.number_setNumber, Nat.mod_eq_of_lt small]
  get_write m _ _ value := Memory.get_setNumber_of_not_mem m value.toNat
  read_congr agree := congrArg Nat.toUInt64 (Memory.number_congr agree)

/-! ## Runs of values -/

/-- Values in a row are written nowhere but on their own bytes. -/
theorem get_writeAll [Lawful α] (m : Memory) {position query : Nat} (values : List α)
    (outside : query < position ∨ position + values.length * size α ≤ query) :
    (writeAll m position values).get query = m.get query := by
  induction values generalizing m position with
  | nil => rfl
  | cons value rest ih =>
    rw [List.length_cons, Nat.add_one_mul] at outside
    rw [writeAll, ih _ (by omega), get_write m value (by omega)]

/-- Each of the values in a row reads back. -/
theorem read_writeAll [Lawful α] (m : Memory) (position index : Nat) (values : List α)
    (bound : index < values.length) :
    (read (writeAll m position values) (position + index * size α) : α)
      = values[index] := by
  induction values generalizing m position index with
  | nil => simp at bound
  | cons value rest ih =>
    rw [writeAll]
    cases index with
    | zero =>
      rw [Nat.zero_mul, Nat.add_zero,
        read_congr fun query _ _ => get_writeAll _ rest (by omega)]
      exact read_write m position value
    | succ index =>
      rw [Nat.add_one_mul, Nat.add_comm (index * size α), ← Nat.add_assoc,
        ih _ _ _ (by simpa using bound)]
      rfl

instance {n : Nat} [Lawful α] : Lawful (Vector α n) where
  read_write m position values := by
    ext index bound
    have read := read_writeAll m position index values.toList (by simpa using bound)
    simpa [Record.read, Record.write] using read
  get_write m _ _ values outside :=
    get_writeAll m values.toList (by simpa [size] using outside)
  read_congr {m other position} agree := by
    ext index bound
    have within : index * size α + size α ≤ n * size α := by
      rw [← Nat.add_one_mul]; exact Nat.mul_le_mul_right _ bound
    simp only [read, Vector.getElem_ofFn]
    exact read_congr fun query lower upper =>
      agree query (by omega) (by simp only [size]; omega)

/-! ## Records

In each of them the fields stand one behind the other, so a field is left alone by the
writes to the others. -/

/-- A field depends on the bytes of its record alone. -/
private theorem read_field [Lawful α] {m other : Memory} {position length offset : Nat}
    (agree : ∀ query, position ≤ query → query < position + length →
      m.get query = other.get query)
    (inside : offset + size α ≤ length) :
    (read m (position + offset) : α) = read other (position + offset) :=
  read_congr fun query _ _ => agree query (by omega) (by omega)

theorem read_edge (m : Memory) (position : Nat) :
    (read m position : Edge) =
      { target := read m (position + Edge.targetOffset)
        cost := read m (position + Edge.costOffset) } := rfl

theorem write_edge (m : Memory) (position : Nat) (edge : Edge) :
    write m position edge =
      let m := write m (position + Edge.targetOffset) edge.target
      write m (position + Edge.costOffset) edge.cost := rfl

instance : Lawful Edge where
  read_write m position edge := by
    simp (disch := simp only [size, Edge.targetOffset, Edge.costOffset]; omega) only
      [read_edge, write_edge, read_write, read_write_of_disjoint]
  get_write m _ _ edge outside := by
    simp only [size] at outside
    simp (disch := simp only [size, Edge.targetOffset, Edge.costOffset]; omega) only
      [write_edge, get_write]
  read_congr agree := by
    simp only [read_edge, Edge.mk.injEq]
    refine ⟨?_, ?_⟩ <;> exact read_field agree (by decide)

theorem read_slot (m : Memory) (position : Nat) :
    (read m position : Slot) =
      { cost := read m (position + Slot.costOffset)
        node := read m (position + Slot.nodeOffset) } := rfl

theorem write_slot (m : Memory) (position : Nat) (slot : Slot) :
    write m position slot =
      let m := write m (position + Slot.costOffset) slot.cost
      write m (position + Slot.nodeOffset) slot.node := rfl

instance : Lawful Slot where
  read_write m position slot := by
    simp (disch := simp only [size, Slot.costOffset, Slot.nodeOffset]; omega) only
      [read_slot, write_slot, read_write, read_write_of_disjoint]
  get_write m _ _ slot outside := by
    simp only [size] at outside
    simp (disch := simp only [size, Slot.costOffset, Slot.nodeOffset]; omega) only
      [write_slot, get_write]
  read_congr agree := by
    simp only [read_slot, Slot.mk.injEq]
    refine ⟨?_, ?_⟩ <;> exact read_field agree (by decide)

theorem read_entry (m : Memory) (position : Nat) :
    (read m position : Entry) =
      { id := read m (position + Entry.idOffset)
        node := read m (position + Entry.nodeOffset)
        next := read m (position + Entry.nextOffset) } := rfl

theorem write_entry (m : Memory) (position : Nat) (entry : Entry) :
    write m position entry =
      let m := write m (position + Entry.idOffset) entry.id
      let m := write m (position + Entry.nodeOffset) entry.node
      write m (position + Entry.nextOffset) entry.next := rfl

instance : Lawful Entry where
  read_write m position entry := by
    simp (disch :=
        simp only [size, Entry.idOffset, Entry.nodeOffset, Entry.nextOffset]; omega)
      only [read_entry, write_entry, read_write, read_write_of_disjoint]
  get_write m _ _ entry outside := by
    simp only [size] at outside
    simp (disch :=
        simp only [size, Entry.idOffset, Entry.nodeOffset, Entry.nextOffset]; omega)
      only [write_entry, get_write]
  read_congr agree := by
    simp only [read_entry, Entry.mk.injEq]
    refine ⟨?_, ?_, ?_⟩ <;> exact read_field agree (by decide)

theorem read_node (m : Memory) (position : Nat) :
    (read m position : Node) =
      { parent := read m (position + Node.parentOffset)
        cost := read m (position + Node.costOffset)
        firstPage := read m (position + Node.firstPageOffset)
        visited := read m (position + Node.visitedOffset) } := rfl

theorem write_node (m : Memory) (position : Nat) (node : Node) :
    write m position node =
      let m := write m (position + Node.parentOffset) node.parent
      let m := write m (position + Node.costOffset) node.cost
      let m := write m (position + Node.firstPageOffset) node.firstPage
      write m (position + Node.visitedOffset) node.visited := rfl

instance : Lawful Node where
  read_write m position node := by
    simp (disch :=
        simp only [size, Node.parentOffset, Node.costOffset, Node.firstPageOffset,
          Node.visitedOffset]; omega)
      only [read_node, write_node, read_write, read_write_of_disjoint]
  get_write m _ _ node outside := by
    simp only [size] at outside
    simp (disch :=
        simp only [size, Node.parentOffset, Node.costOffset, Node.firstPageOffset,
          Node.visitedOffset]; omega)
      only [write_node, get_write]
  read_congr agree := by
    simp only [read_node, Node.mk.injEq]
    refine ⟨?_, ?_, ?_, ?_⟩ <;> exact read_field agree (by decide)

theorem read_page (m : Memory) (position : Nat) :
    (read m position : Page) =
      { count := read m (position + Page.countOffset)
        next := read m (position + Page.nextOffset)
        edges := read m (position + Page.edgesOffset) } := rfl

theorem write_page (m : Memory) (position : Nat) (page : Page) :
    write m position page =
      let m := write m (position + Page.countOffset) page.count
      let m := write m (position + Page.nextOffset) page.next
      write m (position + Page.edgesOffset) page.edges := rfl

instance : Lawful Page where
  read_write m position page := by
    simp (disch :=
        simp only [size, Page.countOffset, Page.nextOffset, Page.edgesOffset]; omega)
      only [read_page, write_page, read_write, read_write_of_disjoint]
  get_write m _ _ page outside := by
    simp only [size] at outside
    simp (disch :=
        simp only [size, Page.countOffset, Page.nextOffset, Page.edgesOffset,
          edgesPerPage]; omega)
      only [write_page, get_write]
  read_congr agree := by
    simp only [read_page, Page.mk.injEq]
    refine ⟨?_, ?_, ?_⟩ <;> exact read_field agree (by decide)

end ArenaPaths.Record
