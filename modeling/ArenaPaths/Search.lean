import ArenaPaths.Frontier

/-!
# Searches

Dijkstra's algorithm on the records in memory. A search settles the cheapest entry of
the frontier and relaxes the edges of its node, until the goal is settled or the
frontier is empty. Costs and parents are left in the node records. An entry whose node
is settled already is stale and skipped.

The search goes by addresses alone, through a window, so host and device run the same
one. It expects unreached, unvisited nodes and an empty frontier, and then it does not
fail; on other memory it reports what it stumbles over.
-/

namespace ArenaPaths

/-- How a search ended. -/
inductive Outcome where
  | found (cost : UInt32)
  | exhausted
  deriving DecidableEq, Repr

/-- The cost of a goal that was found. -/
def Outcome.cost? : Outcome → Option UInt32
  | .found cost => some cost
  | .exhausted => none

/-- How a search ended, the nodes it settled, and the costs it improved. -/
structure SearchReport where
  outcome : Outcome
  steps : Nat
  relaxations : Nat
  deriving DecidableEq, Repr

namespace Search

/-- A sum of costs, which stays at the unreached cost once it would pass it. -/
def addCost (a b : UInt32) : UInt32 :=
  if a.toNat + b.toNat < UInt32.size then a + b else unreached

/-- A walk along a page chain that takes as many pages as this never ends: the frontier
has room for fewer than `2 ^ 32` improvements, and between two of them memory does not
change, so no page comes twice. -/
def chainFuel : Nat := UInt64.size

/-- A search that takes out as many entries as this does not occur: the count of settled
nodes stops at `2 ^ 64`, and between two of them there are fewer than `2 ^ 32` stale
entries. -/
def searchFuel : Nat := UInt64.size * UInt32.size

/-- Relax an edge on a page, from a node that has the given cost: whether the cost of
its target went down. -/
def relaxEdge (window : Window) (current : NodeRef) (cost : UInt32) (page : PageRef)
    (edge : Edge) :
    Action Workspace Bool := do
  match NodeRef.ofWord? edge.target with
  | none => throw (.corrupt page.address.toNat .edgeWithoutTarget)
  | some target =>
    let candidate := addCost cost edge.cost
    let record ← Workspace.onMemory (window.load Node target.address)
    if candidate < record.cost then
      Workspace.onMemory
        (window.store target.address { record with
          cost := candidate, parent := current.address })
      Frontier.push window candidate target
      return true
    else
      return false

/-- Relax edges one after another, counting the improvements. -/
def relaxEdges (window : Window) (current : NodeRef) (cost : UInt32) (page : PageRef) :
    List Edge → Action Workspace Nat
  | [] => return 0
  | edge :: rest => do
    let improved ← relaxEdge window current cost page edge
    let more ← relaxEdges window current cost page rest
    return improved.toNat + more

/-- Relax the edges on a chain of pages, counting the improvements. -/
def relaxChain (window : Window) (current : NodeRef) (cost : UInt32) :
    Nat → UInt32 → Action Workspace Nat
  | 0, _ => throw (.abort .endlessWalk)
  | fuel + 1, next =>
    match PageRef.ofWord? next with
    | none => return 0
    | some page => do
      let record ← Workspace.onMemory (window.load Page page.address)
      if edgesPerPage < record.count.toNat then
        throw (.corrupt page.address.toNat (.overfullPage record.count.toNat))
      let improved ← relaxEdges window current cost page record.claimed
      let more ← relaxChain window current cost fuel record.next
      return improved + more

/-- Settle entries of the frontier until the goal is settled or none is left. -/
def settle (window : Window) (goal : NodeRef) :
    Nat → Nat → Nat → Action Workspace SearchReport
  | 0, _, _ => throw (.abort .endlessWalk)
  | fuel + 1, steps, relaxations => do
    match ← Frontier.pop window with
    | none => return ⟨.exhausted, steps, relaxations⟩
    | some (_, current) =>
      let record ← Workspace.onMemory (window.load Node current.address)
      if record.isVisited then settle window goal fuel steps relaxations
      else
        Workspace.onMemory (window.store current.address { record with visited := 1 })
        let steps ← Word.add UInt64.size steps 1
        if current = goal then return ⟨.found record.cost, steps, relaxations⟩
        else
          let improved ← relaxChain window current record.cost chainFuel
            record.firstPage
          settle window goal fuel steps (relaxations + improved)

/-- Search from one node to another. -/
def run (window : Window) (start goal : NodeRef) : Action Workspace SearchReport := do
  let record ← Workspace.onMemory (window.load Node start.address)
  Workspace.onMemory (window.store start.address { record with cost := 0 })
  Frontier.push window 0 start
  settle window goal searchFuel 0 0

end Search

end ArenaPaths
