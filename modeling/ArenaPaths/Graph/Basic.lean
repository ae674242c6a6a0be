import ArenaPaths.Directory
import ArenaPaths.Search

/-!
# Graphs

A sparse directed graph that stands in an arena as a whole: a slab of node records in
order of creation, a slab with their ids, a directory, the slots of a frontier, and
pages of edges that are reserved as they are needed. Nodes and edges are only ever
added. The edges of a node stand on a chain of pages; a new edge goes behind the last
one of the chain, on a new page if the chain is empty or its last page is full.
-/

namespace ArenaPaths

/-- Bounds of a graph, for which its tables are laid out, and how its ids are found. -/
structure GraphConfig where
  nodeBound : Nat
  edgeBound : Nat
  strategy : Strategy := .default
  deriving DecidableEq, Repr

/-- Entries that a search can need in its frontier: one per edge and one for the start,
and never fewer than nodes. As a 32-bit number it stops at the greatest one. -/
def GraphConfig.frontierCapacity (config : GraphConfig) : Nat :=
  max config.nodeBound (min (config.edgeBound + 1) (UInt32.size - 1))

/-- An edge as its source sees it. -/
structure Arc where
  target : NodeRef
  cost : UInt32
  deriving DecidableEq, Repr

/-- A graph in an arena. -/
structure Graph where
  arena : Arena
  config : GraphConfig
  directory : Directory
  frontier : Frontier
  nodesBase : UInt32
  idsBase : UInt32
  nodeCount : Nat
  edgeCount : Nat
  pageCount : Nat

namespace Graph

variable {α : Type}

/-- Lay out the tables of an empty graph in an arena. -/
def create (arena : Arena) (config : GraphConfig) : Except Fault Graph :=
  let layOut : Action Arena (UInt32 × UInt32 × Directory × Frontier) := do
    if config.nodeBound = 0 then throw (.configuration .zeroNodeBound)
    let nodesBase ← Arena.reserve (config.nodeBound * Record.size Node)
    let idsBase ← Arena.reserve (config.nodeBound * wordSize)
    let directory ← Directory.create config.strategy config.nodeBound
    let frontier ← Frontier.create config.frontierCapacity
    return (nodesBase, idsBase, directory, frontier)
  match layOut arena with
  | .error fault _ => .error fault
  | .ok (nodesBase, idsBase, directory, frontier) arena =>
    .ok
      { arena, config, directory, frontier, nodesBase, idsBase,
        nodeCount := 0, edgeCount := 0, pageCount := 0 }

/-! ## Steps on parts of a graph -/

/-- Run a step on the arena. -/
def onArena (step : Action Arena α) : Action Graph α :=
  Action.focus Graph.arena (fun graph arena => { graph with arena }) step

/-- Run a step on the bytes. -/
def onMemory (step : Action Memory α) : Action Graph α :=
  onArena (Arena.onMemory step)

/-- Run a step on the frontier and the bytes. -/
def onWorkspace (step : Action Workspace α) : Action Graph α :=
  Action.focus (fun graph => ⟨graph.frontier, graph.arena.memory⟩)
    (fun graph workspace =>
      { graph with
        arena := graph.arena.withMemory workspace.memory,
        frontier := workspace.frontier })
    step

/-- Copy the record at an address out of the arena. -/
def load (α : Type) [Record α] (address : UInt32) : Action Graph α := do
  onMemory ((← get).arena.window.load α address)

/-- Copy a record into the arena at an address. -/
def store [Record α] (address : UInt32) (value : α) : Action Graph Unit := do
  onMemory ((← get).arena.window.store address value)

/-! ## Building -/

/-- Address of the node record in a slot of the slab. -/
def nodeAddress (graph : Graph) (slot : Nat) : Except Fault UInt32 :=
  Word.entryAddress graph.nodesBase slot (Record.size Node)

/-- Address of the id of a slot of the slab. -/
def idAddress (graph : Graph) (slot : Nat) : Except Fault UInt32 :=
  Word.entryAddress graph.idsBase slot wordSize

/-- The node of an id, if it was ever added. -/
def find (id : UInt32) : Action Graph (Option NodeRef) := do
  let graph ← get
  onMemory (graph.directory.lookup graph.arena.window id)

/-- Give an id that has no node the next slot of the slab. -/
def createNode (id : UInt32) : Action Graph NodeRef := do
  let graph ← get
  if graph.nodeCount = graph.config.nodeBound then
    throw (.boundExceeded "nodes" graph.config.nodeBound)
  let address ← graph.nodeAddress graph.nodeCount
  match NodeRef.ofWord? address with
  | none => throw (.corrupt address.toNat .nodeAtZero)
  | some node =>
    let directory ← onMemory (graph.directory.insert graph.arena.window id node)
    modify ({ · with directory })
    store address Node.fresh
    store (← graph.idAddress graph.nodeCount) id
    modify fun graph => { graph with nodeCount := graph.nodeCount + 1 }
    return node

/-- The node of an id, created on its first use. -/
def addNode (id : UInt32) : Action Graph NodeRef := do
  match ← find id with
  | some node => return node
  | none => createNode id

/-- Reserve a page. -/
def createPage : Action Graph PageRef := do
  let address ← onArena (Arena.reserve (Record.size Page))
  modify fun graph => { graph with pageCount := graph.pageCount + 1 }
  match PageRef.ofWord? address with
  | none => throw (.corrupt address.toNat .pageAtZero)
  | some page => return page

/-- The last page of a chain, looked for on at most the given number of pages. -/
def lastPageFrom (first : PageRef) : Nat → PageRef → Action Graph PageRef
  | 0, _ => throw (.corrupt first.address.toNat .endlessPageChain)
  | remaining + 1, current => do
    let record ← load Page current.address
    match PageRef.ofWord? record.next with
    | some next => lastPageFrom first remaining next
    | none => return current

/-- The last page of a chain. A chain can only be one page longer than there are pages,
so a longer one is corrupt. -/
def lastPage (first : PageRef) : Action Graph PageRef := do
  lastPageFrom first ((← get).pageCount + 1) first

/-- The page that takes the next edge of a node: the last of its chain, or a new one
behind that. -/
def openPage (source : NodeRef) : Action Graph PageRef := do
  let record ← load Node source.address
  match PageRef.ofWord? record.firstPage with
  | none =>
    let page ← createPage
    store source.address { record with firstPage := page.address }
    return page
  | some first =>
    let last ← lastPage first
    let lastRecord ← load Page last.address
    if lastRecord.isFull then
      let page ← createPage
      store last.address { lastRecord with next := page.address }
      return page
    else
      return last

/-- Add an edge, creating either end if it is new. The edge bound is checked before
anything else. -/
def addEdge (source target cost : UInt32) : Action Graph Unit := do
  let graph ← get
  if graph.edgeCount = graph.config.edgeBound then
    throw (.boundExceeded "edges" graph.config.edgeBound)
  let sourceNode ← addNode source
  let targetNode ← addNode target
  let page ← openPage sourceNode
  let record ← load Page page.address
  store page.address (record.append ⟨targetNode.address, cost⟩)
  modify fun graph => { graph with edgeCount := graph.edgeCount + 1 }

/-! ## Looking at a graph -/

/-- The record of a node. -/
def nodeRecord (node : NodeRef) : Action Graph Node :=
  load Node node.address

/-- The slot of a node in the slab. -/
def slotOf (graph : Graph) (node : NodeRef) : Except Fault Nat :=
  let distance := node.address.toNat - graph.nodesBase.toNat
  let slot := distance / Record.size Node
  if graph.nodesBase ≤ node.address ∧ distance % Record.size Node = 0 ∧
      slot < graph.nodeCount then .ok slot
  else .error (.corrupt node.address.toNat .notNodeSlot)

/-- The id of a node. -/
def idOf (node : NodeRef) : Action Graph UInt32 := do
  let graph ← get
  let slot ← graph.slotOf node
  load UInt32 (← graph.idAddress slot)

/-- The arcs that a page claims. -/
def pageArcs (page : PageRef) (record : Page) : Except Fault (List Arc) :=
  record.claimed.mapM fun edge =>
    match NodeRef.ofWord? edge.target with
    | some target => .ok ⟨target, edge.cost⟩
    | none => .error (.corrupt page.address.toNat .edgeWithoutTarget)

/-- The arcs on a chain of pages, of which at most the given number is read. -/
def chainArcs : Nat → UInt32 → Action Graph (List Arc)
  | remaining, next =>
    match PageRef.ofWord? next with
    | none => return []
    | some page =>
      match remaining with
      | 0 => throw (.corrupt page.address.toNat .endlessPageChain)
      | remaining + 1 => do
        let record ← load Page page.address
        let arcs ← pageArcs page record
        let rest ← chainArcs remaining record.next
        return arcs ++ rest

/-- The arcs of a node, in the order in which they were added. -/
def arcs (node : NodeRef) : Action Graph (List Arc) := do
  let record ← nodeRecord node
  chainArcs ((← get).pageCount + 1) record.firstPage

/-- All nodes in order of creation. -/
def nodes (graph : Graph) : Except Fault (List NodeRef) := do
  let addresses ← (List.range graph.nodeCount).mapM graph.nodeAddress
  return addresses.filterMap NodeRef.ofWord?

/-- For every node in order of creation, its id and its arcs with the ids of their
targets. -/
def adjacency : Action Graph (List (UInt32 × List (UInt32 × UInt32))) := do
  let nodes ← (← get).nodes
  nodes.mapM fun node => do
    let targets ← (← arcs node).mapM fun arc => return (← idOf arc.target, arc.cost)
    return (← idOf node, targets)

/-- For every node in order of creation, its id and its record. -/
def records : Action Graph (List (UInt32 × Node)) := do
  let nodes ← (← get).nodes
  nodes.mapM fun node => do
    let record ← nodeRecord node
    return (← idOf node, record)

/-! ## Searching -/

/-- Reset the node in a slot. -/
def resetSlot (slot : Nat) : Action Graph Unit := do
  let address ← (← get).nodeAddress slot
  let record ← load Node address
  store address record.reset

/-- Put every node back to unreached and unvisited and empty the frontier; edges
stay. -/
def resetSearch : Action Graph Unit := do
  (List.range (← get).nodeCount).forM resetSlot
  modify fun graph => { graph with frontier := graph.frontier.clear }

/-- Search from one node to another through the host's window. -/
def search (start goal : NodeRef) : Action Graph SearchReport := do
  onWorkspace (Search.run (← get).arena.window start goal)

end Graph

end ArenaPaths
