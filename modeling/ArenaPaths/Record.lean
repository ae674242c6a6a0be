import ArenaPaths.Memory
import ArenaPaths.Text.Hexadecimal

/-!
# Records

The fixed layouts that host and accelerator share. A record is read from and written to
a run of bytes; its words are little-endian and stand at fixed offsets. The node, page,
frontier slot and directory entry refer to one another by 32-bit physical addresses,
where zero refers to nothing.
-/

namespace ArenaPaths

/-- A kind of value with a fixed layout in memory. -/
class Record (α : Type) where
  /-- Bytes taken. -/
  size : Nat
  /-- The value whose first byte stands at a position. -/
  read : Memory → Nat → α
  /-- Put a value at a position. -/
  write : Memory → Nat → α → Memory

namespace Record

instance : Record UInt8 where
  size := 1
  read m position := (m.number position 1).toUInt8
  write m position value := m.setNumber position 1 value.toNat

instance : Record UInt16 where
  size := 2
  read m position := (m.number position 2).toUInt16
  write m position value := m.setNumber position 2 value.toNat

instance : Record UInt32 where
  size := 4
  read m position := (m.number position 4).toUInt32
  write m position value := m.setNumber position 4 value.toNat

instance : Record UInt64 where
  size := 8
  read m position := (m.number position 8).toUInt64
  write m position value := m.setNumber position 8 value.toNat

/-- Put values one after another from a position on. -/
def writeAll {α : Type} [Record α] (m : Memory) (position : Nat) : List α → Memory
  | [] => m
  | value :: rest => writeAll (write m position value) (position + size α) rest

/-- A fixed number of values stands in memory one after another. -/
instance {α : Type} {n : Nat} [Record α] : Record (Vector α n) where
  size := n * size α
  read m position := Vector.ofFn fun i : Fin n => read m (position + i * size α)
  write m position values := writeAll m position values.toList

end Record

/-! ## References -/

/-- The address that refers to nothing. -/
def nullAddress : UInt32 := 0

/-- A reference to a node record, never null. -/
structure NodeRef where
  address : UInt32
  ne_null : address ≠ nullAddress
  deriving DecidableEq, Repr

/-- A reference to a page record, never null. -/
structure PageRef where
  address : UInt32
  ne_null : address ≠ nullAddress
  deriving DecidableEq, Repr

/-- The node that a word refers to, if any. -/
def NodeRef.ofWord? (word : UInt32) : Option NodeRef :=
  if present : word ≠ nullAddress then some ⟨word, present⟩ else none

/-- The page that a word refers to, if any. -/
def PageRef.ofWord? (word : UInt32) : Option PageRef :=
  if present : word ≠ nullAddress then some ⟨word, present⟩ else none

/-- How a node reference is shown. -/
def NodeRef.render (node : NodeRef) : String :=
  s!"node@{Text.hexAddress node.address.toNat}"

/-- The word that stands for an optional node. -/
def NodeRef.toWord : Option NodeRef → UInt32
  | some node => node.address
  | none => nullAddress

@[simp] theorem NodeRef.ofWord?_address (node : NodeRef) :
    NodeRef.ofWord? node.address = some node := by
  simp [NodeRef.ofWord?, node.ne_null]

@[simp] theorem PageRef.ofWord?_address (page : PageRef) :
    PageRef.ofWord? page.address = some page := by
  simp [PageRef.ofWord?, page.ne_null]

/-! ## Layouts -/

/-- The cost of a node that no walk has reached. -/
def unreached : UInt32 := 0xFFFFFFFF

/-- Edges that fit a page. -/
def edgesPerPage : Nat := 8

/-- A node: the node it was reached from, the cost so far, its first page of edges, and
whether it is settled. -/
structure Node where
  parent : UInt32
  cost : UInt32
  firstPage : UInt32
  visited : UInt32
  deriving DecidableEq, Repr

namespace Node

/-- Offset of the parent. -/
def parentOffset : Nat := 0

/-- Offset of the cost. -/
def costOffset : Nat := 4

/-- Offset of the first page. -/
def firstPageOffset : Nat := 8

/-- Offset of the mark of a settled node. -/
def visitedOffset : Nat := 12

instance : Record Node where
  size := 16
  read m position :=
    { parent := Record.read m (position + parentOffset)
      cost := Record.read m (position + costOffset)
      firstPage := Record.read m (position + firstPageOffset)
      visited := Record.read m (position + visitedOffset) }
  write m position node :=
    let m := Record.write m (position + parentOffset) node.parent
    let m := Record.write m (position + costOffset) node.cost
    let m := Record.write m (position + firstPageOffset) node.firstPage
    Record.write m (position + visitedOffset) node.visited

/-- A node as it is created: not reached, without edges. -/
def fresh : Node := ⟨nullAddress, unreached, nullAddress, 0⟩

/-- A node before a search: its edges are kept and all else forgotten. -/
def reset (node : Node) : Node := { fresh with firstPage := node.firstPage }

/-- Whether the node is settled. -/
def isVisited (node : Node) : Bool := node.visited != 0

end Node

/-- An edge: its target node and its cost. -/
structure Edge where
  target : UInt32
  cost : UInt32
  deriving DecidableEq, Repr

namespace Edge

/-- Offset of the target. -/
def targetOffset : Nat := 0

/-- Offset of the cost. -/
def costOffset : Nat := 4

instance : Record Edge where
  size := 8
  read m position :=
    { target := Record.read m (position + targetOffset)
      cost := Record.read m (position + costOffset) }
  write m position edge :=
    let m := Record.write m (position + targetOffset) edge.target
    Record.write m (position + costOffset) edge.cost

end Edge

/-- A page of edges: how many it holds, the page after it, and room for eight. -/
structure Page where
  count : UInt32
  next : UInt32
  edges : Vector Edge edgesPerPage
  deriving DecidableEq, Repr

namespace Page

/-- Offset of the number of edges. -/
def countOffset : Nat := 0

/-- Offset of the link to what follows. -/
def nextOffset : Nat := 4

/-- Offset of the first edge. -/
def edgesOffset : Nat := 8

instance : Record Page where
  size := 72
  read m position :=
    { count := Record.read m (position + countOffset)
      next := Record.read m (position + nextOffset)
      edges := Record.read m (position + edgesOffset) }
  write m position page :=
    let m := Record.write m (position + countOffset) page.count
    let m := Record.write m (position + nextOffset) page.next
    Record.write m (position + edgesOffset) page.edges

/-- Whether there is no room for a further edge. -/
def isFull (page : Page) : Bool := edgesPerPage ≤ page.count.toNat

/-- The edges that the page claims to hold, as far as it has room for them. -/
def claimed (page : Page) : List Edge := page.edges.toList.take page.count.toNat

/-- The page with a further edge behind those it holds; a full page has no place for
it. -/
def append (page : Page) (edge : Edge) : Page :=
  { page with
    edges := page.edges.setIfInBounds page.count.toNat edge, count := page.count + 1 }

end Page

/-- A slot of the frontier: a cost and the node it belongs to. -/
structure Slot where
  cost : UInt32
  node : UInt32
  deriving DecidableEq, Repr

namespace Slot

/-- Offset of the cost. -/
def costOffset : Nat := 0

/-- Offset of the node. -/
def nodeOffset : Nat := 4

instance : Record Slot where
  size := 8
  read m position :=
    { cost := Record.read m (position + costOffset)
      node := Record.read m (position + nodeOffset) }
  write m position slot :=
    let m := Record.write m (position + costOffset) slot.cost
    Record.write m (position + nodeOffset) slot.node

end Slot

/-- An entry of the hashed directory: an id, its node, and the entry after it in the
same bucket. -/
structure Entry where
  id : UInt32
  node : UInt32
  next : UInt32
  deriving DecidableEq, Repr

namespace Entry

/-- Offset of the id. -/
def idOffset : Nat := 0

/-- Offset of the node. -/
def nodeOffset : Nat := 4

/-- Offset of the link to what follows. -/
def nextOffset : Nat := 8

instance : Record Entry where
  size := 12
  read m position :=
    { id := Record.read m (position + idOffset)
      node := Record.read m (position + nodeOffset)
      next := Record.read m (position + nextOffset) }
  write m position entry :=
    let m := Record.write m (position + idOffset) entry.id
    let m := Record.write m (position + nodeOffset) entry.node
    Record.write m (position + nextOffset) entry.next

end Entry

end ArenaPaths
