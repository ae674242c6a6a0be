import ArenaPaths.Proofs.Chain
import ArenaPaths.Proofs.Dijkstra.Invariant
import ArenaPaths.Proofs.Frontier

/-!
# The search in memory

A search on the records in memory is the search by slots: after every step the node
records and the frontier show the state of the machine, and nothing else has changed. It
follows that the search does not fail as long as the frontier takes one offer per arc
and one for the start, and that what it reports and leaves in the records is what the
machine says. With a frontier that takes fewer it can stop at a full one, and then too
nothing else has changed.

Nothing here asks which of two windows the search looks through, so it holds for host
and device alike.
-/

namespace ArenaPaths

namespace Search

/-- A search that takes out at most the given number of entries. -/
def runFor (rounds : Nat) (window : Window) (start goal : NodeRef) :
    Action Workspace SearchReport := do
  let record ← Workspace.onMemory (window.load Node start.address)
  Workspace.onMemory (window.store start.address { record with cost := 0 })
  Frontier.push window 0 start
  settle window goal rounds 0 0

/-- No search takes out more entries than a search can. -/
theorem run_eq_runFor : run = runFor searchFuel := rfl

end Search

/-- A graph as a search meets it: where its records lie, on which pages the arcs of
every node stand, and what they are. There are slots for `capacity` entries of the
frontier, and the search allows for `limit` of them. -/
structure Terrain where
  window : Window
  nodes : Nat
  count : Nat
  frontier : Nat
  capacity : Nat
  limit : Nat
  pages : Nat → List Nat
  hops : Nat → List Hop

namespace Terrain

variable {terrain : Terrain} {memory after : Memory}

/-- Position of the record of a node. -/
def nodeAt (terrain : Terrain) (slot : Nat) : Nat := terrain.nodes + slot * 16

/-- The word that refers to a node. -/
def nodeWord (terrain : Terrain) (slot : Nat) : UInt32 :=
  terrain.window.address (terrain.nodeAt slot)

/-- An arc as a page has it. -/
def edge (terrain : Terrain) (hop : Hop) : Edge :=
  ⟨terrain.nodeWord hop.target, hop.cost⟩

/-- The word that a node record has for a parent. -/
def parentWord (terrain : Terrain) : Option Nat → UInt32
  | some slot => terrain.nodeWord slot
  | none => nullAddress

/-- The first page of a node. -/
def firstPage (terrain : Terrain) (memory : Memory) (slot : Nat) : UInt32 :=
  (Record.read memory (terrain.nodeAt slot) : Node).firstPage

/-- The bytes that a search may write: the records of the nodes and the slots of the
frontier. -/
def Touches (terrain : Terrain) (query : Nat) : Prop :=
  (terrain.nodes ≤ query ∧ query < terrain.nodes + terrain.count * 16) ∨
    Frontier.Touches terrain.frontier terrain.capacity query

/-- The parts lie in the window one behind the other. -/
structure Sound (terrain : Terrain) : Prop where
  window_sound : terrain.window.Sound
  nodes_spans : terrain.window.Spans terrain.nodes (terrain.count * 16)
  frontier_spans : terrain.window.Spans terrain.frontier ((terrain.capacity + 1) * 8)
  nodes_le_frontier : terrain.nodes + terrain.count * 16 ≤ terrain.frontier
  page_spans : ∀ slot, slot < terrain.count → ∀ position ∈ terrain.pages slot,
    terrain.window.Spans position 72 ∧
    terrain.frontier + (terrain.capacity + 1) * 8 ≤ position
  inRange : Dijkstra.InRange terrain.hops terrain.count

/-- The arcs of every node stand on its pages. -/
def Holds (terrain : Terrain) (memory : Memory) : Prop :=
  ∀ slot, slot < terrain.count →
    Chain terrain.window.address memory (terrain.pages slot)
      (terrain.firstPage memory slot)
      ((terrain.hops slot).map terrain.edge)

/-! ## Places -/

namespace Sound

variable {slot other : Nat}

theorem node_spans (sound : terrain.Sound) (inside : slot < terrain.count) :
    terrain.window.Spans (terrain.nodeAt slot) (Record.size Node) := by
  apply sound.nodes_spans.part
  simp only [Record.size_node]
  omega

theorem nodeWord_ne_null (sound : terrain.Sound) (inside : slot < terrain.count) :
    terrain.nodeWord slot ≠ nullAddress :=
  Window.address_ne_null sound.window_sound (sound.node_spans inside) (by decide)

theorem nodeWord_inj (sound : terrain.Sound) (inside : slot < terrain.count)
    (otherInside : other < terrain.count) :
    terrain.nodeWord slot = terrain.nodeWord other ↔ slot = other := by
  have upper := (sound.node_spans inside).le_high
  have otherUpper := (sound.node_spans otherInside).le_high
  simp only [Record.size_node] at upper otherUpper
  rw [nodeWord, nodeWord, Window.address_inj sound.window_sound (by omega) (by omega),
    nodeAt, nodeAt]
  omega

/-- The words of two nodes tell them apart, with no node for null. -/
theorem ref_eq_iff (sound : terrain.Sound) {node otherNode : NodeRef}
    (inside : slot < terrain.count) (otherInside : other < terrain.count)
    (refers : node.address = terrain.nodeWord slot)
    (otherRefers : otherNode.address = terrain.nodeWord other) :
    node = otherNode ↔ slot = other := by
  rw [← sound.nodeWord_inj inside otherInside, ← refers, ← otherRefers]
  exact ⟨fun same => congrArg NodeRef.address same, NodeRef.ext_address⟩

theorem ofWord?_nodeWord (sound : terrain.Sound) (inside : slot < terrain.count) :
    ∃ node : NodeRef, NodeRef.ofWord? (terrain.nodeWord slot) = some node ∧
      node.address = terrain.nodeWord slot :=
  ⟨_, NodeRef.ofWord?_of_ne (sound.nodeWord_ne_null inside), rfl⟩

theorem count_lt (sound : terrain.Sound) : terrain.count < UInt32.size := by
  have fits := sound.window_sound.base_add_high_le
  have upper := sound.nodes_spans.le_high
  have lower := sound.nodes_spans.low_le
  have low := sound.window_sound.low_pos
  omega

theorem capacity_lt (sound : terrain.Sound) : terrain.capacity < UInt32.size := by
  have fits := sound.window_sound.base_add_high_le
  have upper := sound.frontier_spans.le_high
  omega

/-- A node record is loaded from its place. -/
theorem load_node (sound : terrain.Sound) (inside : slot < terrain.count)
    {address : UInt32} (refers : address = terrain.nodeWord slot)
    (workspace : Workspace) :
    Workspace.onMemory (terrain.window.load Node address) workspace
      = .ok (Record.read workspace.memory (terrain.nodeAt slot)) workspace := by
  rw [refers]
  exact Action.focus_eq_ok
    (Window.load_address sound.window_sound (sound.node_spans inside) (by decide))

/-- A node record is stored at its place. -/
theorem store_node (sound : terrain.Sound) (inside : slot < terrain.count)
    {address : UInt32} (refers : address = terrain.nodeWord slot)
    (workspace : Workspace) (node : Node) :
    Workspace.onMemory (terrain.window.store address node) workspace
      = .ok () { workspace with
        memory := Record.write workspace.memory (terrain.nodeAt slot) node } := by
  rw [refers]
  exact Action.focus_eq_ok
    (Window.store_address sound.window_sound (sound.node_spans inside) (by decide) node)

/-- Writing a node record touches what a search may write. -/
theorem sameExcept_write (inside : slot < terrain.count) (memory : Memory)
    (node : Node) :
    Memory.SameExcept terrain.Touches memory
      (Record.write memory (terrain.nodeAt slot) node) := by
  apply Memory.sameExcept_write
  intro query lower upper
  simp only [nodeAt] at lower upper
  simp only [Record.size_node] at upper
  exact .inl ⟨by omega, by omega⟩

theorem read_write_node_of_ne (different : other ≠ slot) (memory : Memory)
    (node : Node) :
    (Record.read (Record.write memory (terrain.nodeAt slot) node)
      (terrain.nodeAt other) : Node)
      = Record.read memory (terrain.nodeAt other) := by
  apply Record.read_write_of_disjoint
  simp only [nodeAt, Record.size_node]
  omega

/-- A page is out of reach of a search. -/
theorem read_page (sound : terrain.Sound) (inside : slot < terrain.count)
    {position : Nat} (member : position ∈ terrain.pages slot)
    (same : Memory.SameExcept terrain.Touches memory after) :
    (Record.read after position : Page) = Record.read memory position := by
  apply same.read_eq
  intro query lower upper touched
  have behind := (sound.page_spans slot inside position member).2
  have order := sound.nodes_le_frontier
  rcases touched with node | slot
  · omega
  · have last := slot.2
    omega

/-- The slots of a frontier are out of reach of node records. -/
theorem tape_write_node (sound : terrain.Sound) (inside : slot < terrain.count)
    (memory : Memory) (node : Node) :
    Frontier.tape terrain.frontier (Record.write memory (terrain.nodeAt slot) node)
      = Frontier.tape terrain.frontier memory := by
  funext index
  apply Record.read_write_of_disjoint
  have order := sound.nodes_le_frontier
  simp only [nodeAt, Record.size_node]
  omega

/-- Node records are out of reach of the slots of a frontier. -/
theorem read_node (sound : terrain.Sound) (inside : slot < terrain.count)
    (same : Memory.SameExcept
      (Frontier.Touches terrain.frontier terrain.capacity) memory after) :
    (Record.read after (terrain.nodeAt slot) : Node)
      = Record.read memory (terrain.nodeAt slot) := by
  apply same.read_eq
  intro query lower upper touched
  have order := sound.nodes_le_frontier
  have first := touched.1
  simp only [nodeAt, Record.size_node] at upper
  omega

end Sound

/-- Nothing has changed but what a search may write, and of the node records not the
links to first pages. -/
structure Spares (terrain : Terrain) (memory after : Memory) : Prop where
  same : Memory.SameExcept terrain.Touches memory after
  firstPage_eq : ∀ slot, slot < terrain.count →
    terrain.firstPage after slot = terrain.firstPage memory slot

theorem Spares.refl (terrain : Terrain) (memory : Memory) :
    terrain.Spares memory memory := ⟨.refl _, fun _ _ => rfl⟩

/-- A step stops at a full frontier and has changed nothing but what a search may
write. -/
def StopsFull {α : Type} (terrain : Terrain) (memory : Memory)
    (step : Action Workspace α) (workspace : Workspace) :
    Prop :=
  ∃ after, step workspace = .error (.frontierFull terrain.limit) after ∧
    terrain.Spares memory after.memory

/-! ## Wider windows -/

/-- The same graph seen through another window, by a search that allows for the given
number of entries. -/
def through (terrain : Terrain) (view : Window) (limit : Nat) : Terrain :=
  { terrain with window := view, limit }

variable {view : Window} (within : terrain.window.Within view) {limit : Nat}
include within

theorem nodeWord_through (slot : Nat) :
    (terrain.through view limit).nodeWord slot = terrain.nodeWord slot :=
  within.address_eq _

theorem edge_through : (terrain.through view limit).edge = terrain.edge := by
  funext hop
  rw [edge, edge, nodeWord_through within]

/-- A wider window shows the same arcs. -/
theorem Holds.through (holds : terrain.Holds memory) :
    (terrain.through view limit).Holds memory := by
  intro slot inside
  have address_eq : (terrain.through view limit).window.address
      = terrain.window.address := funext within.address_eq
  rw [address_eq, edge_through within]
  exact holds slot inside

theorem Sound.through (sound : terrain.Sound) (viewSound : view.Sound) :
    (terrain.through view limit).Sound where
  window_sound := viewSound
  nodes_spans := within.spans sound.nodes_spans
  frontier_spans := within.spans sound.frontier_spans
  nodes_le_frontier := sound.nodes_le_frontier
  page_spans slot inside position member :=
    ⟨within.spans (sound.page_spans slot inside position member).1,
      (sound.page_spans slot inside position member).2⟩
  inRange := sound.inRange

end Terrain

namespace Dijkstra

/-! ## States in memory -/

variable {terrain : Terrain} {memory : Memory} {state : State} {workspace : Workspace}

/-- The word that a node record has for being settled or not. -/
def visitedWord (settled : List Nat) (slot : Nat) : UInt32 :=
  if slot ∈ settled then 1 else 0

theorem visitedWord_cons_self (settled : List Nat) (slot : Nat) :
    visitedWord (slot :: settled) slot = 1 :=
  if_pos List.mem_cons_self

theorem visitedWord_cons_of_ne {slot node : Nat} (settled : List Nat)
    (different : slot ≠ node) :
    visitedWord (node :: settled) slot = visitedWord settled slot := by
  simp [visitedWord, different]

theorem visitedWord_ne_zero_iff {settled : List Nat} {slot : Nat} :
    visitedWord settled slot ≠ 0 ↔ slot ∈ settled := by
  by_cases member : slot ∈ settled <;> simp [visitedWord, member]

/-- The record of a node in a state of the machine, over a memory with the links to
first pages. -/
def State.record (state : State) (terrain : Terrain) (memory : Memory)
    (slot : Nat) : Node :=
  { parent := terrain.parentWord (state.parent slot)
    cost := state.cost slot
    firstPage := terrain.firstPage memory slot
    visited := visitedWord state.settled slot }

theorem State.record_congr (state : State) {other : Memory} {slot : Nat}
    (same : terrain.firstPage other slot = terrain.firstPage memory slot) :
    state.record terrain other slot = state.record terrain memory slot := by
  rw [State.record, State.record, same]

theorem State.record_through {view : Window} (within : terrain.window.Within view)
    {limit : Nat} (state : State) (memory : Memory) (slot : Nat) :
    state.record (terrain.through view limit) memory slot
      = state.record terrain memory slot := by
  have parentWord_eq : ∀ parent,
      (terrain.through view limit).parentWord parent = terrain.parentWord parent := by
    rintro (_ | previous)
    · rfl
    · exact Terrain.nodeWord_through within previous
  simp only [State.record, parentWord_eq]
  rfl

/-- A slot of the frontier holds an offer. -/
def Offer.StandsIn (terrain : Terrain) (slot : Slot) (offer : Offer) : Prop :=
  slot = ⟨offer.cost, terrain.nodeWord offer.node⟩

theorem Offer.StandsIn.key_eq (slot : Slot) (offer : Offer)
    (stands : offer.StandsIn terrain slot) :
    Frontier.key slot = offer.key := by
  rw [stands]
  rfl

/-- A workspace shows a state of the machine, and has changed from a memory nowhere
else. -/
structure State.ShownBy (state : State) (terrain : Terrain) (memory : Memory)
    (workspace : Workspace) : Prop where
  frontier_eq :
    workspace.frontier = ⟨terrain.window.address terrain.frontier, terrain.limit,
      state.size⟩
  same : Memory.SameExcept terrain.Touches memory workspace.memory
  record_eq : ∀ slot, slot < terrain.count →
    (Record.read workspace.memory (terrain.nodeAt slot) : Node)
      = state.record terrain memory slot
  slots :
    Heap.SideBySide (fun slot offer => Offer.StandsIn terrain slot offer) state.size
    (Frontier.tape terrain.frontier workspace.memory) state.heap

namespace State.ShownBy

theorem placed (shown : state.ShownBy terrain memory workspace)
    (sound : terrain.Sound) :
    workspace.frontier.Placed terrain.window terrain.frontier terrain.capacity := by
  rw [shown.frontier_eq]
  exact ⟨sound.window_sound, rfl, sound.frontier_spans⟩

theorem firstPage_eq (shown : state.ShownBy terrain memory workspace) {slot : Nat}
    (inside : slot < terrain.count) :
    terrain.firstPage workspace.memory slot = terrain.firstPage memory slot := by
  rw [Terrain.firstPage, shown.record_eq slot inside]
  rfl

theorem spares (shown : state.ShownBy terrain memory workspace) :
    terrain.Spares memory workspace.memory :=
  ⟨shown.same, fun _ inside => shown.firstPage_eq inside⟩

theorem isVisited_record {slot : Nat} :
    (state.record terrain memory slot).isVisited = true ↔ slot ∈ state.settled := by
  rw [Node.isVisited, bne_iff_ne]
  exact visitedWord_ne_zero_iff

/-- Storing the record that a node has in another state of the same frontier. -/
theorem store (shown : state.ShownBy terrain memory workspace) (sound : terrain.Sound)
    {slot : Nat} (inside : slot < terrain.count) (next : State)
    (size_eq : next.size = state.size) (heap_eq : next.heap = state.heap)
    (others : ∀ other, other ≠ slot →
      next.record terrain memory other = state.record terrain memory other) :
    next.ShownBy terrain memory
      { workspace with
        memory := Record.write workspace.memory (terrain.nodeAt slot)
            (next.record terrain memory slot) } := by
  constructor
  · rw [size_eq]
    exact shown.frontier_eq
  · exact shown.same.trans (Terrain.Sound.sameExcept_write inside _ _)
  · intro other otherInside
    by_cases same : other = slot
    · subst same
      exact Record.read_write _ _ _
    · rw [others other same, ← shown.record_eq other otherInside]
      exact Terrain.Sound.read_write_node_of_ne same _ _
  · rw [size_eq, heap_eq, sound.tape_write_node inside]
    exact shown.slots

/-- What an operation on the frontier leaves is shown if the slots of the heap are. -/
theorem frontier (shown : state.ShownBy terrain memory workspace)
    (sound : terrain.Sound) (next : State) {after : Memory}
    (record_eq : ∀ slot,
      next.record terrain memory slot = state.record terrain memory slot)
    (same : Memory.SameExcept (Frontier.Touches terrain.frontier terrain.capacity)
      workspace.memory after)
    (slots : Heap.SideBySide (fun slot offer => Offer.StandsIn terrain slot offer)
      next.size (Frontier.tape terrain.frontier after) next.heap) :
    next.ShownBy terrain memory
      ⟨{ workspace.frontier with size := next.size }, after⟩ := by
  constructor
  · rw [shown.frontier_eq]
  · exact shown.same.trans (same.mono fun _ touched => .inr touched)
  · intro slot inside
    rw [record_eq slot, ← shown.record_eq slot inside]
    exact sound.read_node inside same
  · exact slots

/-- An offer is added as long as there is a slot for it and the frontier is not full. -/
theorem push (shown : state.ShownBy terrain memory workspace) (sound : terrain.Sound)
    (fits : state.size < terrain.capacity) (notFull : state.size ≠ terrain.limit)
    (offer : Offer) {node : NodeRef}
    (refers : node.address = terrain.nodeWord offer.node) :
    ∃ after, Frontier.push terrain.window offer.cost node workspace = .ok () after ∧
      (state.push offer).ShownBy terrain memory after := by
  obtain ⟨after, run, tape, same⟩ :=
    (shown.placed sound).push_eq (by rw [shown.frontier_eq]; exact fits)
      (by rw [shown.frontier_eq]; exact notFull)
      offer.cost node
  refine ⟨_, run, ?_⟩
  simp only [shown.frontier_eq] at tape same ⊢
  have next := shown.frontier sound (state.push offer) (fun _ => rfl) same ?_
  · rw [shown.frontier_eq] at next
    exact next
  · rw [tape, refers]
    exact shown.slots.push Offer.StandsIn.key_eq rfl

/-- No offer is added to a full frontier. -/
theorem push_of_full (shown : state.ShownBy terrain memory workspace)
    (full : state.size = terrain.limit) (cost : UInt32) (node : NodeRef) :
    terrain.StopsFull memory (Frontier.push terrain.window cost node) workspace := by
  refine ⟨workspace, ?_, shown.spares⟩
  rw [Frontier.push_of_full (by rw [shown.frontier_eq]; exact full), shown.frontier_eq]

/-- The cheapest offer is taken out. -/
theorem pop (shown : state.ShownBy terrain memory workspace) (sound : terrain.Sound)
    (positive : 0 < state.size) (fits : state.size ≤ terrain.capacity) {node : NodeRef}
    (refers : node.address = terrain.nodeWord (state.heap 1).node) :
    ∃ after,
      Frontier.pop terrain.window workspace
        = .ok (some ((state.heap 1).cost, node)) after ∧
      state.pop.ShownBy terrain memory after := by
  have top := shown.slots 1 (Nat.le_refl 1) positive
  obtain ⟨after, run, tape, same⟩ :=
    (shown.placed sound).pop_eq (by rw [shown.frontier_eq]; exact fits)
      (by rw [shown.frontier_eq]; exact positive)
      node (by rw [top, refers])
  rw [top] at run
  refine ⟨_, run, ?_⟩
  simp only [shown.frontier_eq] at tape same ⊢
  have next := shown.frontier sound state.pop (fun _ => rfl) same ?_
  · rw [shown.frontier_eq] at next
    exact next
  · rw [tape]
    exact shown.slots.popped Offer.StandsIn.key_eq positive

/-- A node is marked as settled. -/
theorem mark (shown : state.ShownBy terrain memory workspace) (sound : terrain.Sound)
    {slot : Nat} (inside : slot < terrain.count) {node : NodeRef}
    (refers : node.address = terrain.nodeWord slot) :
    ∃ after,
      Workspace.onMemory
          (terrain.window.store node.address { state.record terrain memory slot with
            visited := 1 }) workspace
        = .ok () after ∧
      (state.settle slot).ShownBy terrain memory after := by
  refine ⟨_, sound.store_node inside refers workspace _, ?_⟩
  have marked : { state.record terrain memory slot with visited := 1 }
      = (state.settle slot).record terrain memory slot := by
    simp only [State.record, State.settled_settle, visitedWord_cons_self]
    rfl
  rw [marked]
  apply shown.store sound inside (state.settle slot) rfl rfl
  intro other different
  simp only [State.record, State.settled_settle, visitedWord_cons_of_ne _ different]
  rfl

end State.ShownBy

/-! ## Relaxing in memory -/

variable {hop : Hop} {current : Nat} {currentRef : NodeRef}

/-- Relaxing an edge in memory relaxes the hop, unless the frontier is full. -/
theorem State.ShownBy.relaxEdge (shown : state.ShownBy terrain memory workspace)
    (sound : terrain.Sound) (inside : hop.target < terrain.count)
    (fits : state.size < terrain.capacity)
    (refers : currentRef.address = terrain.nodeWord current) (cost : UInt32)
    (page : PageRef) :
    (∃ improved after,
      Search.relaxEdge terrain.window currentRef cost page (terrain.edge hop) workspace
        = .ok improved after ∧
      (relaxHop current cost state hop).ShownBy terrain memory after ∧
      (relaxHop current cost state hop).improved = state.improved + improved.toNat) ∨
    (terrain.limit < state.size + 1 ∧
      terrain.StopsFull memory
        (Search.relaxEdge terrain.window currentRef cost page (terrain.edge hop))
        workspace) := by
  obtain ⟨target, named, targetRefers⟩ := sound.ofWord?_nodeWord inside
  change NodeRef.ofWord? (terrain.edge hop).target = some target at named
  have loaded := sound.load_node inside targetRefers workspace
  rw [shown.record_eq _ inside] at loaded
  rw [relaxHop]
  by_cases better : Search.addCost cost hop.cost < state.cost hop.target
  · let labelled : State :=
      { state with
        parent := Function.update state.parent hop.target (some current)
        cost := Function.update state.cost hop.target (Search.addCost cost hop.cost)
        improved := state.improved + 1 }
    have label : { state.record terrain memory hop.target with
        cost := Search.addCost cost hop.cost, parent := currentRef.address }
        = labelled.record terrain memory hop.target := by
      simp [State.record, labelled, Terrain.parentWord, refers]
    have stored := shown.store sound inside labelled rfl rfl (by
      intro other different
      simp only [State.record, labelled, Function.update_of_ne different])
    rw [if_pos better]
    change Search.addCost cost (terrain.edge hop).cost
      < (state.record terrain memory hop.target).cost at better
    by_cases full : state.size = terrain.limit
    · obtain ⟨after, refused, spared⟩ :=
        stored.push_of_full full (Search.addCost cost hop.cost) target
      refine .inr ⟨by omega, after, ?_, spared⟩
      rw [← label] at refused
      simp only [Search.relaxEdge, named, Action.bind_ok loaded, if_pos better,
        Action.bind_ok (sound.store_node inside targetRefers _ _)]
      exact Action.bind_error refused
    · obtain ⟨after, pushed, shownAfter⟩ :=
        stored.push sound fits full
          ⟨Search.addCost cost hop.cost, hop.target⟩ targetRefers
      refine .inl ⟨true, after, ?_, shownAfter, rfl⟩
      rw [← label] at pushed
      simp only [Search.relaxEdge, named, Action.bind_ok loaded, if_pos better,
        Action.bind_ok (sound.store_node inside targetRefers _ _)]
      exact Action.bind_ok pushed
  · rw [if_neg better]
    refine .inl ⟨false, workspace, ?_, shown, rfl⟩
    change ¬ Search.addCost cost (terrain.edge hop).cost
      < (state.record terrain memory hop.target).cost at better
    simp only [Search.relaxEdge, named, Action.bind_ok loaded, if_neg better,
      Action.pure_apply]

/-- Relaxing the edges of a page in memory relaxes the hops, unless the frontier takes
fewer offers than that. -/
theorem State.ShownBy.relaxEdges (shown : state.ShownBy terrain memory workspace)
    (sound : terrain.Sound) {arcs : List Hop}
    (inside : ∀ hop ∈ arcs, hop.target < terrain.count)
    (fits : state.size + arcs.length ≤ terrain.capacity)
    (refers : currentRef.address = terrain.nodeWord current) (cost : UInt32)
    (page : PageRef) :
    (∃ improved after,
      Search.relaxEdges terrain.window currentRef cost page
        (arcs.map terrain.edge) workspace = .ok improved after ∧
      (relaxHops current cost arcs state).ShownBy terrain memory after ∧
      (relaxHops current cost arcs state).improved = state.improved + improved) ∨
    (terrain.limit < state.size + arcs.length ∧
      terrain.StopsFull memory
        (Search.relaxEdges terrain.window currentRef cost page (arcs.map terrain.edge))
        workspace) := by
  induction arcs generalizing state workspace with
  | nil => exact .inl ⟨0, workspace, rfl, shown, rfl⟩
  | cons hop rest ih =>
    rw [List.length_cons] at fits ⊢
    obtain ⟨first, between, ran, shownBetween, counted⟩ |
        ⟨short, after, failed, spared⟩ :=
      shown.relaxEdge sound (inside hop List.mem_cons_self) (by omega) refers cost page
    case inr =>
      refine .inr ⟨by omega, after, ?_, spared⟩
      simp only [List.map_cons, Search.relaxEdges, Action.bind_error failed]
    have grown := size_relaxHop_le state current cost hop
    obtain ⟨more, after, ranRest, shownAfter, countedRest⟩ |
        ⟨short, after, failed, spared⟩ :=
      ih shownBetween (fun other member => inside other (List.mem_cons_of_mem _ member))
        (by omega)
    · refine .inl ⟨first.toNat + more, after, ?_, shownAfter, ?_⟩
      · simp only [List.map_cons, Search.relaxEdges, Action.bind_ok ran,
          Action.bind_ok ranRest, Action.pure_apply]
      · rw [relaxHops_cons, countedRest, counted, Nat.add_assoc]
    · refine .inr ⟨by omega, after, ?_, spared⟩
      simp only [List.map_cons, Search.relaxEdges, Action.bind_ok ran,
        Action.bind_error failed]

/-- Relaxing a chain of pages in memory relaxes the hops on it, unless the frontier
takes fewer offers than that. -/
theorem State.ShownBy.relaxChain (shown : state.ShownBy terrain memory workspace)
    (sound : terrain.Sound) {pages : List Nat} {word : UInt32} {arcs : List Hop}
    {fuel : Nat} (enough : pages.length < fuel)
    (spans : ∀ position ∈ pages, terrain.window.Spans position 72 ∧
      terrain.frontier + (terrain.capacity + 1) * 8 ≤ position)
    (chain : Chain terrain.window.address memory pages word (arcs.map terrain.edge))
    (inside : ∀ hop ∈ arcs, hop.target < terrain.count)
    (fits : state.size + arcs.length ≤ terrain.capacity)
    (refers : currentRef.address = terrain.nodeWord current) (cost : UInt32) :
    (∃ improved after,
      Search.relaxChain terrain.window currentRef cost fuel word workspace
        = .ok improved after ∧
      (relaxHops current cost arcs state).ShownBy terrain memory after ∧
      (relaxHops current cost arcs state).improved = state.improved + improved) ∨
    (terrain.limit < state.size + arcs.length ∧
      terrain.StopsFull memory
        (Search.relaxChain terrain.window currentRef cost fuel word) workspace) := by
  induction pages generalizing state workspace word arcs fuel with
  | nil =>
    obtain ⟨rfl, noArcs⟩ := chain
    obtain rfl := List.map_eq_nil_iff.mp noArcs
    obtain ⟨fuel, rfl⟩ : ∃ less, fuel = less + 1 := ⟨fuel - 1, by omega⟩
    exact .inl ⟨0, workspace, rfl, shown, rfl⟩
  | cons position rest ih =>
    obtain ⟨fuel, rfl⟩ : ∃ less, fuel = less + 1 := ⟨fuel - 1, by omega⟩
    obtain ⟨rfl, _, count, claimed, tail⟩ := chain
    obtain ⟨span, behind⟩ := spans position List.mem_cons_self
    have present :=
      PageRef.ofWord?_of_ne (Window.address_ne_null sound.window_sound span (by decide))
    have unchanged : (Record.read workspace.memory position : Page)
        = Record.read memory position := by
      apply shown.same.read_eq
      intro query lower upper touched
      have order := sound.nodes_le_frontier
      rcases touched with node | slot
      · omega
      · have last := slot.2
        omega
    have loaded : Workspace.onMemory
        (terrain.window.load Page (terrain.window.address position)) workspace
        = .ok (Record.read memory position) workspace := by
      rw [← unchanged]
      exact Action.focus_eq_ok (Window.load_address sound.window_sound span (by decide))
    have honest :
        ¬ edgesPerPage < (Record.read memory position : Page).count.toNat := by omega
    rw [← List.map_take] at claimed
    rw [← List.map_drop] at tail
    have whole := List.take_append_drop edgesPerPage arcs
    have lengths : (arcs.take edgesPerPage).length + (arcs.drop edgesPerPage).length
        = arcs.length := by
      rw [← List.length_append, whole]
    obtain ⟨first, between, ran, shownBetween, counted⟩ |
        ⟨short, after, failed, spared⟩ :=
      shown.relaxEdges sound
        (fun hop member => inside hop (List.mem_of_mem_take member))
        (show state.size + (arcs.take edgesPerPage).length ≤ terrain.capacity by omega)
          refers cost
        ⟨terrain.window.address position,
          Window.address_ne_null sound.window_sound span (by decide)⟩
    case inr =>
      refine .inr ⟨by omega, after, ?_, spared⟩
      simp only [Search.relaxChain, present, Action.bind_ok loaded, if_neg honest,
        claimed, Action.bind_error failed]
    have grown := size_relaxHops_le state current cost (arcs.take edgesPerPage)
    obtain ⟨more, after, ranRest, shownAfter, countedRest⟩ |
        ⟨short, after, failed, spared⟩ :=
      ih shownBetween (by simpa using enough)
        (fun other member => spans other (List.mem_cons_of_mem _ member)) tail
        (fun hop member => inside hop (List.mem_of_mem_drop member)) (by omega)
    · rw [← relaxHops_append, whole] at shownAfter countedRest
      refine .inl ⟨first + more, after, ?_, shownAfter, ?_⟩
      · simp only [Search.relaxChain, present, Action.bind_ok loaded, if_neg honest,
          claimed, Action.bind_ok ran, Action.bind_ok ranRest, Action.pure_apply]
      · rw [countedRest, counted, Nat.add_assoc]
    · refine .inr ⟨by omega, after, ?_, spared⟩
      simp only [Search.relaxChain, present, Action.bind_ok loaded, if_neg honest,
        claimed, Action.bind_ok ran, Action.bind_error failed]

/-! ## Whole searches in memory -/

variable {start goal : Nat} {startRef goalRef : NodeRef}

/-- One round of the search in memory is a step of the machine, unless the frontier
takes too few offers. -/
theorem State.ShownBy.settle_step (shown : state.ShownBy terrain memory workspace)
    (sound : terrain.Sound) (holds : terrain.Holds memory)
    (invariant : Invariant terrain.hops terrain.count start goal state)
    (fits : budget terrain.hops terrain.count state ≤ terrain.capacity)
    (goalInside : goal < terrain.count)
    (goalRefers : goalRef.address = terrain.nodeWord goal) (fuel : Nat) :
    (∃ after, (step terrain.hops goal state).2.ShownBy terrain memory after ∧
      Search.settle terrain.window goalRef
        (fuel + 1) state.settled.length state.improved workspace =
        match step terrain.hops goal state with
        | (some outcome, next) =>
          .ok ⟨outcome, next.settled.length, next.improved⟩ after
        | (none, next) =>
          Search.settle terrain.window goalRef fuel next.settled.length next.improved
            after) ∨
    (terrain.limit < budget terrain.hops terrain.count state ∧
      terrain.StopsFull memory
        (Search.settle terrain.window goalRef
          (fuel + 1) state.settled.length state.improved) workspace) := by
  by_cases empty : state.size = 0
  · refine .inl ⟨workspace, ?_, ?_⟩
    · rw [step, if_pos empty]
      exact shown
    · have nothing : Frontier.pop terrain.window workspace = .ok none workspace :=
        Frontier.pop_of_empty (by rw [shown.frontier_eq]; exact empty)
      simp only [Search.settle, Action.bind_ok nothing, Action.pure_apply, step,
        if_pos empty]
  have positive : 0 < state.size := Nat.pos_of_ne_zero empty
  have sizeFits : state.size ≤ terrain.capacity := by
    rw [budget] at fits
    omega
  have inside := invariant.node_lt _ (heap_one_mem_offers positive)
  obtain ⟨current, _, currentRefers⟩ := sound.ofWord?_nodeWord inside
  obtain ⟨popped, ranPop, shownPop⟩ := shown.pop sound positive sizeFits currentRefers
  have loaded := sound.load_node inside currentRefers popped
  rw [shownPop.record_eq _ inside] at loaded
  by_cases stale : (state.heap 1).node ∈ state.settled
  · have visited :
        (state.pop.record terrain memory (state.heap 1).node).isVisited = true :=
      State.ShownBy.isVisited_record.mpr stale
    refine .inl ⟨popped, ?_, ?_⟩
    · simp only [step, if_neg empty, if_pos stale]
      exact shownPop
    · simp only [Search.settle, Action.bind_ok ranPop, Action.bind_ok loaded,
        if_pos visited, step, if_neg empty,
        if_pos stale, State.settled_pop, State.improved_pop]
  have unvisited :
      ¬ (state.pop.record terrain memory (state.heap 1).node).isVisited = true :=
    mt State.ShownBy.isVisited_record.mp stale
  obtain ⟨marked, stored, shownSettled⟩ := shownPop.mark sound inside currentRefers
  have counted : Word.add UInt64.size state.settled.length 1
      = .ok (state.settled.length + 1) := by
    apply Word.add_eq_ok
    have atMost := invariant.length_settled_le
    have small := sound.count_lt
    have limit : UInt32.size < UInt64.size := by decide
    omega
  by_cases isGoal : (state.heap 1).node = goal
  · have reached : current = goalRef :=
      (sound.ref_eq_iff inside goalInside currentRefers goalRefers).mpr isGoal
    refine .inl ⟨marked, ?_, ?_⟩
    · simp only [step, if_neg empty, if_neg stale, if_pos isGoal]
      exact shownSettled
    · simp only [Search.settle, Action.bind_ok ranPop, Action.bind_ok loaded,
        if_neg unvisited, Action.bind_ok stored, counted, Action.liftM_ok_bind_apply,
        if_pos reached, Action.pure_apply, step, if_neg empty, if_neg stale,
        if_pos isGoal]
      rfl
  · have other : ¬ current = goalRef :=
      mt (sound.ref_eq_iff inside goalInside currentRefers goalRefers).mp isGoal
    have pendingArcs := pending_cons terrain.hops inside stale
    have shorter := (holds _ inside).length_le
    rw [List.length_map] at shorter
    have small := sound.capacity_lt
    have limit : UInt32.size < UInt64.size := by decide
    rw [budget] at fits
    obtain ⟨improved, after, ranChain, shownAfter, total⟩ |
        ⟨short, after, failed, spared⟩ :=
      shownSettled.relaxChain sound
        (show (terrain.pages (state.heap 1).node).length < Search.chainFuel by
          simp only [Search.chainFuel]; omega)
        (sound.page_spans _ inside) (holds _ inside) (sound.inRange _ inside)
        (by simp only [State.size_settle, State.size_pop]; omega) currentRefers
          (state.cost (state.heap 1).node)
    case inr =>
      simp only [State.size_settle, State.size_pop] at short
      refine .inr ⟨by rw [budget]; omega, after, ?_, spared⟩
      simp only [Search.settle, Action.bind_ok ranPop, Action.bind_ok loaded,
        if_neg unvisited, Action.bind_ok stored,
        counted, Action.liftM_ok_bind_apply, if_neg other]
      exact Action.bind_error failed
    refine .inl ⟨after, ?_, ?_⟩
    · simp only [step, if_neg empty, if_neg stale, if_neg isGoal]
      exact shownAfter
    · simp only [step, if_neg empty, if_neg stale, if_neg isGoal, settled_relaxHops,
        total]
      simp only [Search.settle, Action.bind_ok ranPop, Action.bind_ok loaded,
        if_neg unvisited, Action.bind_ok stored,
        counted, Action.liftM_ok_bind_apply, if_neg other]
      exact Action.bind_ok ranChain

/-- The rest of a search in memory is the rest of the machine's run, unless the frontier
takes too few offers. -/
theorem State.ShownBy.settle (sound : terrain.Sound) (holds : terrain.Holds memory)
    (goalInside : goal < terrain.count)
    (goalRefers : goalRef.address = terrain.nodeWord goal) {fuel : Nat}
    (shown : state.ShownBy terrain memory workspace)
    (invariant : Invariant terrain.hops terrain.count start goal state)
    (enough : budget terrain.hops terrain.count state < fuel)
    (fits : budget terrain.hops terrain.count state ≤ terrain.capacity) :
    (∃ outcome final after, run terrain.hops goal fuel state = some (outcome, final) ∧
      Search.settle terrain.window goalRef fuel state.settled.length state.improved
        workspace
        = .ok ⟨outcome, final.settled.length, final.improved⟩ after ∧
      final.ShownBy terrain memory after) ∨
    (terrain.limit < budget terrain.hops terrain.count state ∧
      terrain.StopsFull memory
        (Search.settle terrain.window goalRef fuel state.settled.length state.improved)
        workspace) := by
  induction fuel generalizing state workspace with
  | zero => omega
  | succ fuel ih =>
    obtain ⟨between, shownBetween, ran⟩ | stopped :=
      shown.settle_step sound holds invariant fits goalInside goalRefers fuel
    case inr => exact .inr stopped
    have kept := invariant.step sound.inRange
    rw [run]
    rcases taken : step terrain.hops goal state with ⟨_ | outcome, next⟩
    · rw [taken] at shownBetween ran kept
      change next.ShownBy terrain memory between at shownBetween
      have less := budget_step_lt invariant.node_lt taken
      obtain ⟨outcome, final, after, machine, ranRest, shownAfter⟩ |
          ⟨short, after, failed, spared⟩ :=
        ih shownBetween kept (by omega) (by omega)
      · exact .inl ⟨outcome, final, after, machine, ran.trans ranRest, shownAfter⟩
      · exact .inr ⟨by omega, after, ran.trans failed, spared⟩
    · rw [taken] at shownBetween ran
      exact .inl ⟨outcome, next, between, rfl, ran, shownBetween⟩

/-- The node records are as a reset leaves them. -/
def Unsearched (terrain : Terrain) (memory : Memory) : Prop :=
  ∀ slot, slot < terrain.count →
    (Record.read memory (terrain.nodeAt slot) : Node).reset = Record.read memory
      (terrain.nodeAt slot)

/-- Unsearched records and an empty frontier show the state before a search. -/
theorem shownBy_blank (unsearched : Unsearched terrain memory) (heap : Nat → Offer) :
    (State.blank heap).ShownBy terrain memory
      ⟨⟨terrain.window.address terrain.frontier, terrain.limit, 0⟩, memory⟩ where
  frontier_eq := rfl
  same := .refl memory
  record_eq slot inside := by
    rw [← unsearched slot inside]
    rfl
  slots index lower upper := absurd (Nat.le_trans lower upper) (Nat.not_succ_le_zero 0)

/-- The start gets its label and its offer, unless the frontier takes none. -/
theorem State.ShownBy.open {heap : Nat → Offer}
    (shown : (State.blank heap).ShownBy terrain memory workspace)
    (sound : terrain.Sound) (startInside : start < terrain.count)
    (startRefers : startRef.address = terrain.nodeWord start)
    (fits : 0 < terrain.capacity) (goalRef : NodeRef) (rounds : Nat) :
    (∃ after, (initial start heap).ShownBy terrain memory after ∧
      Search.runFor rounds terrain.window startRef goalRef workspace
        = Search.settle terrain.window goalRef rounds 0 0 after) ∨
    (terrain.limit = 0 ∧
      terrain.StopsFull memory (Search.runFor rounds terrain.window startRef goalRef)
        workspace) := by
  let labelled : State :=
    { State.blank heap with cost := Function.update (State.blank heap).cost start 0 }
  have loaded := sound.load_node startInside startRefers workspace
  rw [shown.record_eq start startInside] at loaded
  have label : { (State.blank heap).record terrain memory start with cost := 0 }
      = labelled.record terrain memory start := by
    simp [State.record, labelled]
  have stored := shown.store sound startInside labelled rfl rfl (by
    intro other different
    simp only [State.record, labelled, Function.update_of_ne different])
  by_cases full : labelled.size = terrain.limit
  · obtain ⟨after, refused, spared⟩ := stored.push_of_full full 0 startRef
    refine .inr ⟨full.symm, after, ?_, spared⟩
    rw [← label] at refused
    simp only [Search.runFor, Action.bind_ok loaded,
      Action.bind_ok (sound.store_node startInside startRefers _ _),
      Action.bind_error refused]
  · obtain ⟨after, pushed, shownAfter⟩ :=
      stored.push sound fits full ⟨0, start⟩ startRefers
    refine .inl ⟨after, shownAfter, ?_⟩
    rw [← label] at pushed
    simp only [Search.runFor, Action.bind_ok loaded,
      Action.bind_ok (sound.store_node startInside startRefers _ _),
      Action.bind_ok pushed]

/-- From unsearched records and an empty frontier, a search in memory reports and leaves
what the machine says, unless the frontier takes too few offers. -/
theorem State.ShownBy.run_or_stops
    (shown : (State.blank fun _ => ⟨0, start⟩).ShownBy terrain memory workspace)
    (sound : terrain.Sound) (holds : terrain.Holds memory)
    (startInside : start < terrain.count) (goalInside : goal < terrain.count)
    (startRefers : startRef.address = terrain.nodeWord start)
    (goalRefers : goalRef.address = terrain.nodeWord goal)
    (fits : 1 + pending terrain.hops terrain.count [] ≤ terrain.capacity) :
    (∃ outcome final after, search terrain.hops start goal = some (outcome, final) ∧
      Search.run terrain.window startRef goalRef workspace
        = .ok ⟨outcome, final.settled.length, final.improved⟩ after ∧
      final.ShownBy terrain memory after) ∨
    (terrain.limit < 1 + pending terrain.hops terrain.count [] ∧
      terrain.StopsFull memory
        (Search.run terrain.window startRef goalRef) workspace) := by
  have small := sound.capacity_lt
  have few : UInt32.size < Search.searchFuel := by decide
  have invariant : Invariant terrain.hops terrain.count start goal
      (initial start fun _ => ⟨0, start⟩) :=
    invariant_initial startInside _
  rw [Search.run_eq_runFor]
  obtain ⟨opened, shownOpened, ranOpen⟩ | ⟨none, stopped⟩ :=
    shown.open sound startInside startRefers
      (show 0 < terrain.capacity by omega) goalRef Search.searchFuel
  case inr => exact .inr ⟨by omega, stopped⟩
  obtain ⟨outcome, final, after, machine, ran, shownAfter⟩ |
      ⟨short, after, failed, spared⟩ :=
    State.ShownBy.settle sound holds goalInside goalRefers shownOpened invariant
      (show budget terrain.hops terrain.count (initial start _) < Search.searchFuel by
        rw [budget_initial]; omega)
      (by rw [budget_initial]; exact fits)
  · exact .inl ⟨outcome, final, after, machine, ranOpen.trans ran, shownAfter⟩
  · rw [budget_initial] at short
    exact .inr ⟨short, after, ranOpen.trans failed, spared⟩

end Dijkstra

end ArenaPaths
