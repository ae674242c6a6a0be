import ArenaPaths.Proofs.Heap
import ArenaPaths.Search
import Mathlib.Algebra.GroupWithZero.Nat

/-!
# Dijkstra's algorithm by slots

The search apart from memory: nodes are the slots of a slab, labels and frontier are
functions, and a node's arcs are a list of hops. Every choice of the search in memory is
made here in the same way, so the two give the same answer step by step; what the answer
means is proved of this machine.

The settled nodes are kept as a list, the newest first. It says which nodes are settled,
how many they are, and in what order they were.
-/

namespace ArenaPaths

/-- An arc by slots: where it leads and what it costs. -/
structure Hop where
  target : Nat
  cost : UInt32
  deriving DecidableEq, Repr

/-- A walk along edges, with its total cost counted in natural numbers. -/
inductive Walk {ν : Type} (edge : ν → ν → UInt32 → Prop) (start : ν) : ν → Nat → Prop
  | nil : Walk edge start start 0
  | snoc {node next : ν} {total : Nat} {cost : UInt32} :
      Walk edge start node total → edge node next cost →
      Walk edge start next (total + cost.toNat)

/-- A translation of nodes that keeps edges keeps walks. -/
theorem Walk.map {ν μ : Type} {edge : ν → ν → UInt32 → Prop}
    {edge' : μ → μ → UInt32 → Prop} (translate : ν → μ)
    (keeps : ∀ node next cost, edge node next cost →
      edge' (translate node) (translate next) cost)
    {start node : ν} {total : Nat} (walk : Walk edge start node total) :
    Walk edge' (translate start) (translate node) total := by
  induction walk with
  | nil => exact .nil
  | snoc _ arc ih => exact .snoc ih (keeps _ _ _ arc)

namespace Dijkstra

/-- An entry of the frontier: a cost and the slot of the node that can be had for it. -/
structure Offer where
  cost : UInt32
  node : Nat
  deriving DecidableEq, Repr

/-- What an offer is ordered by. -/
def Offer.key (offer : Offer) : Nat := offer.cost.toNat

/-- What a search knows: labels by slot, the nodes it settled, its frontier, and how
often it improved a label. -/
structure State where
  parent : Nat → Option Nat
  cost : Nat → UInt32
  settled : List Nat
  size : Nat
  heap : Nat → Offer
  improved : Nat

namespace State

/-- The offers in the frontier. -/
def offers (state : State) : Multiset Offer := Heap.entries state.size state.heap

/-- Add an offer. -/
def push (state : State) (offer : Offer) : State :=
  { state with
    size := state.size + 1
    heap := Heap.siftUp Offer.key state.heap offer (state.size + 1) }

/-- Take out the cheapest offer. -/
def pop (state : State) : State :=
  { state with
    size := state.size - 1
    heap := Heap.popped Offer.key state.size state.heap }

/-- Mark a node as settled. -/
def settle (state : State) (node : Nat) : State :=
  { state with settled := node :: state.settled }

/-- Give a node a better label, and make an offer of it. -/
def improve (state : State) (current target : Nat) (cost : UInt32) : State :=
  { state with
    parent := Function.update state.parent target (some current)
    cost := Function.update state.cost target cost
    improved := state.improved + 1 }.push ⟨cost, target⟩

end State

/-- Relax an arc of a node that has the given cost. -/
def relaxHop (current : Nat) (cost : UInt32) (state : State) (hop : Hop) : State :=
  if Search.addCost cost hop.cost < state.cost hop.target then
    state.improve current hop.target (Search.addCost cost hop.cost)
  else state

/-- Relax arcs one after another. -/
def relaxHops (current : Nat) (cost : UInt32) (hops : List Hop)
    (state : State) : State :=
  hops.foldl (relaxHop current cost) state

/-- Take out one offer and settle its node if it is not settled yet; the search may be
over with that. -/
def step (hops : Nat → List Hop) (goal : Nat) (state : State) :
    Option Outcome × State :=
  if state.size = 0 then (some .exhausted, state)
  else
    let current := (state.heap 1).node
    if current ∈ state.settled then (none, state.pop)
    else if current = goal then
      (some (.found (state.cost current)), state.pop.settle current)
    else
      (none, relaxHops current (state.cost current) (hops current)
        (state.pop.settle current))

/-- Take steps until the search is over, at most the given number. -/
def run (hops : Nat → List Hop) (goal : Nat) : Nat → State → Option (Outcome × State)
  | 0, _ => none
  | fuel + 1, state =>
    match step hops goal state with
    | (some outcome, after) => some (outcome, after)
    | (none, after) => run hops goal fuel after

/-- Before a search no node is reached and nothing is on offer. -/
def State.blank (heap : Nat → Offer) : State where
  parent _ := none
  cost _ := unreached
  settled := []
  size := 0
  heap := heap
  improved := 0

/-- The state from which a search starts: the start can be had for nothing, and no other
node is reached. -/
def initial (start : Nat) (heap : Nat → Offer) : State :=
  { State.blank heap with
    cost := Function.update (State.blank heap).cost start 0 }.push ⟨0, start⟩

/-- A whole search, with as much fuel as the search in memory has. What its unused slots
hold does not matter. -/
def search (hops : Nat → List Hop) (start goal : Nat) : Option (Outcome × State) :=
  run hops goal Search.searchFuel (initial start fun _ => ⟨0, start⟩)

/-! ## Fields after each operation -/

namespace State

variable (state : State) (offer : Offer) (node current target : Nat) (cost : UInt32)

@[simp] theorem parent_push : (state.push offer).parent = state.parent := rfl
@[simp] theorem cost_push : (state.push offer).cost = state.cost := rfl
@[simp] theorem settled_push : (state.push offer).settled = state.settled := rfl
@[simp] theorem size_push : (state.push offer).size = state.size + 1 := rfl
@[simp] theorem improved_push : (state.push offer).improved = state.improved := rfl

@[simp] theorem parent_pop : state.pop.parent = state.parent := rfl
@[simp] theorem cost_pop : state.pop.cost = state.cost := rfl
@[simp] theorem settled_pop : state.pop.settled = state.settled := rfl
@[simp] theorem size_pop : state.pop.size = state.size - 1 := rfl
@[simp] theorem improved_pop : state.pop.improved = state.improved := rfl

@[simp] theorem parent_settle : (state.settle node).parent = state.parent := rfl
@[simp] theorem cost_settle : (state.settle node).cost = state.cost := rfl
@[simp] theorem settled_settle : (state.settle node).settled = node :: state.settled :=
  rfl
@[simp] theorem size_settle : (state.settle node).size = state.size := rfl
@[simp] theorem heap_settle : (state.settle node).heap = state.heap := rfl
@[simp] theorem offers_settle : (state.settle node).offers = state.offers := rfl
@[simp] theorem improved_settle : (state.settle node).improved = state.improved := rfl

@[simp] theorem settled_improve :
    (state.improve current target cost).settled = state.settled := rfl
@[simp] theorem size_improve :
    (state.improve current target cost).size = state.size + 1 := rfl
@[simp] theorem improved_improve :
    (state.improve current target cost).improved = state.improved + 1 := rfl

variable {state node current target cost}

@[simp] theorem parent_improve_self :
    (state.improve current target cost).parent target = some current :=
  Function.update_self ..

theorem parent_improve_of_ne (different : node ≠ target) :
    (state.improve current target cost).parent node = state.parent node :=
  Function.update_of_ne different ..

@[simp] theorem cost_improve_self :
    (state.improve current target cost).cost target = cost :=
  Function.update_self ..

theorem cost_improve_of_ne (different : node ≠ target) :
    (state.improve current target cost).cost node = state.cost node :=
  Function.update_of_ne different ..

end State

/-- A frontier that is a heap. -/
def State.Ordered (state : State) : Prop := Heap.Ordered Offer.key state.size state.heap

namespace State.Ordered

variable {state : State}

theorem improve (ordered : state.Ordered) (current target : Nat) (cost : UInt32) :
    (state.improve current target cost).Ordered :=
  (Heap.push_spec ordered ⟨cost, target⟩).1

theorem offers_improve (ordered : state.Ordered) (current target : Nat)
    (cost : UInt32) :
    (state.improve current target cost).offers = ⟨cost, target⟩ ::ₘ state.offers :=
  (Heap.push_spec ordered ⟨cost, target⟩).2

theorem pop (ordered : state.Ordered) (positive : 0 < state.size) : state.pop.Ordered :=
  (Heap.popped_spec ordered positive).1

/-- The offer that is taken out is the cheapest one. -/
theorem offers_eq_cons (ordered : state.Ordered) (positive : 0 < state.size) :
    state.offers = state.heap 1 ::ₘ state.pop.offers :=
  (Heap.popped_spec ordered positive).2

theorem cheapest (ordered : state.Ordered) {offer : Offer}
    (member : offer ∈ state.offers) :
    (state.heap 1).cost.toNat ≤ offer.cost.toNat := by
  obtain ⟨index, lower, upper, rfl⟩ := Heap.mem_entries.mp member
  exact Heap.Ordered.root_le ordered lower upper

end State.Ordered

/-- The costs add up in natural numbers, except that a sum stays at the unreached cost
once it would pass it. -/
theorem toNat_addCost (left right : UInt32) :
    (Search.addCost left right).toNat
      = min (left.toNat + right.toNat) unreached.toNat := by
  have limit : unreached.toNat = 4294967295 := rfl
  simp only [Search.addCost, UInt32.size]
  split
  · rename_i fits
    rw [UInt32.toNat_add, Nat.mod_eq_of_lt (by omega)]
    omega
  · omega

theorem toNat_le_unreached (cost : UInt32) : cost.toNat ≤ unreached.toNat := by
  have small := cost.toNat_lt
  have limit : unreached.toNat = 4294967295 := rfl
  omega

theorem ne_unreached_iff {cost : UInt32} :
    cost ≠ unreached ↔ cost.toNat < unreached.toNat := by
  have small := toNat_le_unreached cost
  rw [ne_eq, ← UInt32.toNat_inj]
  omega

/-! ## How long a search takes -/

/-- Arcs of the nodes that are not settled yet. -/
def pending (hops : Nat → List Hop) (count : Nat) (settled : List Nat) : Nat :=
  ((List.range count).map fun node =>
    if node ∈ settled then 0 else (hops node).length).sum

/-- What bounds the rest of a search: offers that are there, and arcs from which some
may still come. -/
def budget (hops : Nat → List Hop) (count : Nat) (state : State) : Nat :=
  state.size + pending hops count state.settled

section Budget

variable {hops : Nat → List Hop} {count : Nat} {state : State}

/-- Settling a node takes its arcs off the pending ones. -/
theorem pending_cons (hops : Nat → List Hop) {settled : List Nat} {node : Nat}
    (inside : node < count) (fresh : node ∉ settled) :
    pending hops count (node :: settled) + (hops node).length
      = pending hops count settled := by
  simp only [pending]
  induction count with
  | zero => omega
  | succ count ih =>
    simp only [List.range_succ, List.map_append, List.map_cons, List.map_nil,
      List.sum_append, List.sum_cons, List.sum_nil]
    by_cases isLast : node = count
    · subst isLast
      have below : (List.range node).map (fun other =>
            if other ∈ node :: settled then 0 else (hops other).length)
          = (List.range node).map fun other =>
            if other ∈ settled then 0 else (hops other).length := by
        apply List.map_congr_left
        intro other member
        have different : other ≠ node := Nat.ne_of_lt (List.mem_range.mp member)
        simp [different]
      rw [below]
      simp [fresh]
    · have lastSame : count ∈ node :: settled ↔ count ∈ settled := by
        simp [Ne.symm isLast]
      have rest := ih (by omega)
      simp only [lastSame]
      omega

theorem size_relaxHop_le (state : State) (current : Nat) (cost : UInt32) (hop : Hop) :
    (relaxHop current cost state hop).size ≤ state.size + 1 := by
  rw [relaxHop]
  split
  · exact Nat.le_refl _
  · exact Nat.le_succ _

theorem settled_relaxHop (current : Nat) (cost : UInt32) (hop : Hop) :
    (relaxHop current cost state hop).settled = state.settled := by
  rw [relaxHop]
  split <;> rfl

theorem relaxHops_cons (current : Nat) (cost : UInt32) (hop : Hop) (rest : List Hop) :
    relaxHops current cost (hop :: rest) state
      = relaxHops current cost rest (relaxHop current cost state hop) := rfl

theorem relaxHops_append (current : Nat) (cost : UInt32) (first second : List Hop) :
    relaxHops current cost (first ++ second) state
      = relaxHops current cost second (relaxHops current cost first state) :=
  List.foldl_append

theorem size_relaxHops_le (state : State) (current : Nat) (cost : UInt32)
    (arcs : List Hop) :
    (relaxHops current cost arcs state).size ≤ state.size + arcs.length := by
  induction arcs generalizing state with
  | nil => exact Nat.le_refl _
  | cons hop rest ih =>
    have first := size_relaxHop_le state current cost hop
    have more := ih (relaxHop current cost state hop)
    rw [relaxHops_cons, List.length_cons]
    omega

theorem settled_relaxHops (current : Nat) (cost : UInt32) (arcs : List Hop) :
    (relaxHops current cost arcs state).settled = state.settled := by
  induction arcs generalizing state with
  | nil => rfl
  | cons hop rest ih => rw [relaxHops_cons, ih, settled_relaxHop]

/-- All that a step can do: find the frontier empty, drop a stale offer, settle the
goal, or settle another node and relax its arcs. -/
theorem step_cases (hops : Nat → List Hop) (goal : Nat) (state : State) :
    (state.size = 0 ∧ step hops goal state = (some .exhausted, state)) ∨
    (0 < state.size ∧ (state.heap 1).node ∈ state.settled ∧
      step hops goal state = (none, state.pop)) ∨
    (0 < state.size ∧ (state.heap 1).node ∉ state.settled ∧ (state.heap 1).node = goal ∧
      step hops goal state = (some (.found (state.cost goal)), state.pop.settle goal)) ∨
    (0 < state.size ∧ (state.heap 1).node ∉ state.settled ∧ (state.heap 1).node ≠ goal ∧
      step hops goal state
        = (none, relaxHops (state.heap 1).node (state.cost (state.heap 1).node)
        (hops (state.heap 1).node) (state.pop.settle (state.heap 1).node))) := by
  by_cases empty : state.size = 0
  · exact .inl ⟨empty, if_pos empty⟩
  have positive : 0 < state.size := Nat.pos_of_ne_zero empty
  rw [step, if_neg empty]
  by_cases stale : (state.heap 1).node ∈ state.settled
  · exact .inr (.inl ⟨positive, stale, if_pos stale⟩)
  by_cases isGoal : (state.heap 1).node = goal
  · subst isGoal
    refine .inr (.inr (.inl ⟨positive, stale, rfl, ?_⟩))
    simp only [if_neg stale, if_true]
  · refine .inr (.inr (.inr ⟨positive, stale, isGoal, ?_⟩))
    simp only [if_neg stale, if_neg isGoal]

/-- A step that does not end the search leaves less to do. -/
theorem budget_step_lt {goal : Nat} {after : State}
    (bounded : ∀ offer ∈ state.offers, offer.node < count)
    (taken : step hops goal state = (none, after)) :
    budget hops count after < budget hops count state := by
  rcases step_cases hops goal state with
    ⟨_, ended⟩ | ⟨positive, _, dropped⟩ | ⟨_, _, _, ended⟩ |
    ⟨positive, fresh, _, settled⟩
  · simp [ended] at taken
  · rw [dropped] at taken
    cases taken
    simp only [budget, State.size_pop, State.settled_pop]
    omega
  · simp [ended] at taken
  · rw [settled] at taken
    cases taken
    have inside : (state.heap 1).node < count :=
      bounded _ (Heap.mem_entries.mpr ⟨1, Nat.le_refl _, positive, rfl⟩)
    have fewer := pending_cons hops inside fresh
    have grown :=
      size_relaxHops_le (state.pop.settle (state.heap 1).node) (state.heap 1).node
      (state.cost (state.heap 1).node) (hops (state.heap 1).node)
    simp only [State.size_settle, State.size_pop] at grown
    simp only [budget, settled_relaxHops, State.settled_settle, State.settled_pop]
    omega

end Budget

end Dijkstra

end ArenaPaths
