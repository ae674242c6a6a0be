import ArenaPaths.Arena

/-!
# Directories

A directory finds the node of an external id. Its tables stand in the arena. A hashed
directory has a fixed number of buckets, each the head of a chain of entries, newest
first, from a slab of fixed size; a dense one has a word for every id up to a greatest
one.
-/

namespace ArenaPaths

/-- How ids are found. -/
inductive Strategy where
  | hashed (buckets : UInt32)
  /-- A table for the ids up to the greatest. -/
  | dense (greatest : UInt32)
  deriving DecidableEq, Repr

namespace Strategy

/-- Buckets of a hashed directory when nothing else is asked for. -/
def defaultBuckets : UInt32 := 1024

/-- The strategy when none is asked for. -/
def default : Strategy := .hashed defaultBuckets

/-- How a strategy is shown. -/
def render : Strategy → String
  | .hashed buckets => s!"hashed ({buckets.toNat} buckets)"
  | .dense greatest => s!"dense (ids 0..={greatest.toNat})"

end Strategy

/-- Bytes of a word, which is what a bucket and a dense table hold per place. -/
def wordSize : Nat := Record.size UInt32

/-- A chained hash table. -/
structure HashedDirectory where
  bucketsBase : UInt32
  buckets : UInt32
  entriesBase : UInt32
  capacity : Nat
  used : Nat
  deriving DecidableEq, Repr

namespace HashedDirectory

/-- Lay out a hashed directory in the arena. -/
def create (buckets : UInt32) (capacity : Nat) : Action Arena HashedDirectory := do
  if buckets = 0 then throw (.configuration .zeroBuckets)
  let bucketsBase ← Arena.reserve (buckets.toNat * wordSize)
  let entriesBase ← Arena.reserve (max capacity 1 * Record.size Entry)
  return ⟨bucketsBase, buckets, entriesBase, capacity, 0⟩

/-- Address of the bucket of an id. -/
def bucketAddress (directory : HashedDirectory) (id : UInt32) : Except Fault UInt32 :=
  Word.entryAddress directory.bucketsBase (id % directory.buckets).toNat wordSize

/-- Follow a chain of entries for at most the given number of them. -/
def follow (window : Window) (id : UInt32) :
    Nat → UInt32 → Action Memory (Option NodeRef)
  | 0, entry =>
    if entry = nullAddress then return none
    else throw (.corrupt entry.toNat .endlessIndexChain)
  | remaining + 1, entry => do
    if entry = nullAddress then return none
    let record ← window.load Entry entry
    if record.id = id then return NodeRef.ofWord? record.node
    follow window id remaining record.next

/-- The node of an id. A chain can only be one entry longer than there are entries, so a
longer one is corrupt. -/
def lookup (directory : HashedDirectory) (window : Window) (id : UInt32) :
    Action Memory (Option NodeRef) := do
  let head ← window.load UInt32 (← directory.bucketAddress id)
  follow window id (directory.used + 1) head

/-- Put a new entry for an id in front of its chain. -/
def insert (directory : HashedDirectory) (window : Window) (id : UInt32)
    (node : NodeRef) :
    Action Memory HashedDirectory := do
  if directory.used = directory.capacity then
    throw (.boundExceeded "index entries" directory.capacity)
  let bucket ← directory.bucketAddress id
  let entry ← Word.entryAddress directory.entriesBase directory.used (Record.size Entry)
  let head ← window.load UInt32 bucket
  window.store entry (⟨id, node.address, head⟩ : Entry)
  window.store bucket entry
  return { directory with used := directory.used + 1 }

end HashedDirectory

/-- A table of nodes by id. -/
structure DenseDirectory where
  tableBase : UInt32
  greatest : UInt32
  deriving DecidableEq, Repr

namespace DenseDirectory

/-- Lay out a dense directory in the arena. -/
def create (greatest : UInt32) : Action Arena DenseDirectory := do
  let tableBase ← Arena.reserve ((greatest.toNat + 1) * wordSize)
  return ⟨tableBase, greatest⟩

/-- Address of the place of an id. -/
def placeAddress (directory : DenseDirectory) (id : UInt32) : Except Fault UInt32 :=
  Word.entryAddress directory.tableBase id.toNat wordSize

/-- The node of an id; the table has none beyond the greatest id. -/
def lookup (directory : DenseDirectory) (window : Window) (id : UInt32) :
    Action Memory (Option NodeRef) := do
  if directory.greatest < id then return none
  let word ← window.load UInt32 (← directory.placeAddress id)
  return NodeRef.ofWord? word

/-- Put the node of an id in its place. -/
def insert (directory : DenseDirectory) (window : Window) (id : UInt32)
    (node : NodeRef) : Action Memory Unit := do
  if directory.greatest < id then
    throw (.idBeyondTable id.toNat directory.greatest.toNat)
  window.store (← directory.placeAddress id) node.address

end DenseDirectory

/-- A directory of either strategy. -/
inductive Directory where
  | hashed (directory : HashedDirectory)
  | dense (directory : DenseDirectory)
  deriving DecidableEq, Repr

namespace Directory

/-- Lay out a directory for the given number of nodes. -/
def create (strategy : Strategy) (nodeBound : Nat) : Action Arena Directory :=
  match strategy with
  | .hashed buckets => return .hashed (← HashedDirectory.create buckets nodeBound)
  | .dense greatest => return .dense (← DenseDirectory.create greatest)

/-- The strategy in use. -/
def strategy : Directory → Strategy
  | .hashed directory => .hashed directory.buckets
  | .dense directory => .dense directory.greatest

/-- The node of an id, if it has one. -/
def lookup (directory : Directory) (window : Window) (id : UInt32) :
    Action Memory (Option NodeRef) :=
  match directory with
  | .hashed directory => directory.lookup window id
  | .dense directory => directory.lookup window id

/-- Register the node of an id. -/
def insert (directory : Directory) (window : Window) (id : UInt32) (node : NodeRef) :
    Action Memory Directory :=
  match directory with
  | .hashed directory => return .hashed (← directory.insert window id node)
  | .dense directory => do
    directory.insert window id node
    return .dense directory

end Directory

end ArenaPaths
