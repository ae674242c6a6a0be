import ArenaPaths.Graph.Basic
import ArenaPaths.Proofs.Directory
import ArenaPaths.Proofs.Multigraph
import ArenaPaths.Proofs.Search

/-!
# Stored multigraphs

How a graph in an arena stands for a multigraph: the slabs, the directory, the frontier
and the pages lie one behind the other, the directory finds the slot of every id, the
slab of ids gives the id of every slot, and the arcs of every slot stand on its own
chain of pages. All that can be looked up in a graph is read off the multigraph; no
lookup fails.

What a search writes is no part of this, so a multigraph stays stored through any number
of searches.
-/

namespace ArenaPaths

/-- The node that a word refers to; null, which refers to none, is given some node. -/
def NodeRef.ofWord (word : UInt32) : NodeRef :=
  (NodeRef.ofWord? word).getD ⟨1, by decide⟩

theorem NodeRef.ofWord?_eq {word : UInt32} (present : word ≠ nullAddress) :
    NodeRef.ofWord? word = some (NodeRef.ofWord word) := by
  rw [ofWord, ofWord?_of_ne present]
  rfl

theorem NodeRef.address_ofWord {word : UInt32} (present : word ≠ nullAddress) :
    (NodeRef.ofWord word).address = word := by
  rw [ofWord, ofWord?_of_ne present]
  rfl

/-! ## Ids and nodes -/

/-- Ids with the nodes of their slots, the newest first. -/
def Roll.ofIds (refs : Nat → NodeRef) (ids : List UInt32) : Roll :=
  (ids.zipIdx.map fun entry => (entry.1, refs entry.2)).reverse

namespace Roll

variable {refs : Nat → NodeRef} {ids : List UInt32} {id : UInt32}

@[simp] theorem length_ofIds (refs : Nat → NodeRef) (ids : List UInt32) :
    (ofIds refs ids).length = ids.length := by
  simp [ofIds]

theorem ofIds_append (refs : Nat → NodeRef) (ids : List UInt32) (id : UInt32) :
    ofIds refs (ids ++ [id]) = (id, refs ids.length) :: ofIds refs ids := by
  simp [ofIds, List.zipIdx_append]

theorem lookup_ofIds_of_not_mem (absent : id ∉ ids) :
    (ofIds refs ids).lookup id = none := by
  rw [List.lookup_eq_none_iff]
  intro entry member
  simp only [ofIds, List.mem_reverse, List.mem_map] at member
  obtain ⟨indexed, inside, rfl⟩ := member
  simp only [bne_iff_ne]
  rintro rfl
  exact absent (List.fst_mem_of_mem_zipIdx inside)

theorem lookup_ofIds_of_mem (distinct : ids.Nodup) (present : id ∈ ids) :
    (ofIds refs ids).lookup id = some (refs (ids.idxOf id)) := by
  induction ids using List.reverseRecOn with
  | nil => exact absurd present List.not_mem_nil
  | append_singleton older newest ih =>
    obtain ⟨olderDistinct, _, apart⟩ := List.nodup_append.mp distinct
    rw [ofIds_append, List.lookup_cons]
    by_cases isNewest : id = newest
    · subst isNewest
      have absent : id ∉ older := fun member =>
        apart id member id List.mem_cons_self rfl
      rw [beq_self_eq_true, List.idxOf_append_of_notMem absent]
      simp
    · have different : (id == newest) = false := by simpa using isNewest
      have inOlder : id ∈ older := by simpa [isNewest] using present
      rw [different, List.idxOf_append_of_mem inOlder]
      exact ih olderDistinct inOlder

end Roll

/-! ## Layouts -/

/-- Where the parts of a graph start, in the order in which they follow one another: the
slab of nodes, that of ids, the directory, the frontier, and the pages. -/
structure Layout where
  nodes : Nat
  ids : Nat
  directory : Nat
  frontier : Nat
  floor : Nat

/-- Position of the record of a node. -/
def Layout.nodeAt (layout : Layout) (slot : Nat) : Nat := layout.nodes + slot * 16

/-- Position of the id of a slot. -/
def Layout.idAt (layout : Layout) (slot : Nat) : Nat := layout.ids + slot * 4

namespace Graph

variable {graph after : Graph} {layout : Layout} {pages : Nat → List Nat}
  {content : Multigraph}

/-- The bytes of a graph. -/
def memory (graph : Graph) : Memory := graph.arena.memory

/-- The graph with other bytes under it. -/
def withMemory (graph : Graph) (memory : Memory) : Graph :=
  { graph with arena := graph.arena.withMemory memory }

/-- The graph with other bytes under it and another number of entries in the
frontier. -/
def withSearch (graph : Graph) (memory : Memory) (entries : Nat) : Graph :=
  { graph.withMemory memory with frontier := { graph.frontier with size := entries } }

/-- Bytes that a page takes of the arena. -/
def pageLength (graph : Graph) : Nat := Arena.blockLength graph.arena.granule 72

/-- The parts of a graph lie one behind the other, and the graph refers to them. -/
structure LaidOut (graph : Graph) (layout : Layout) : Prop where
  arena_sound : graph.arena.Sound
  granule_le : graph.arena.granule ≤ layout.nodes
  nodes_le : layout.nodes + graph.config.nodeBound * 16 ≤ layout.ids
  ids_le : layout.ids + graph.config.nodeBound * 4 ≤ layout.directory
  directory_le : layout.directory ≤ layout.frontier
  frontier_le : layout.frontier + (graph.config.frontierCapacity + 1) * 8 ≤ layout.floor
  used_eq : graph.arena.used = layout.floor + graph.pageCount * graph.pageLength
  nodesBase_eq : graph.nodesBase = graph.arena.window.address layout.nodes
  idsBase_eq : graph.idsBase = graph.arena.window.address layout.ids
  frontierBase_eq : graph.frontier.base = graph.arena.window.address layout.frontier
  frontierCapacity_eq : graph.frontier.capacity = graph.config.frontierCapacity

/-- The node of a slot. -/
def nodeOf (graph : Graph) (layout : Layout) (slot : Nat) : NodeRef :=
  NodeRef.ofWord (graph.arena.window.address (layout.nodeAt slot))

/-- The arc for a hop. -/
def arcOf (graph : Graph) (layout : Layout) (hop : Hop) : Arc :=
  ⟨graph.nodeOf layout hop.target, hop.cost⟩

/-- The edge on a page for a hop. -/
def edgeOf (graph : Graph) (layout : Layout) (hop : Hop) : Edge :=
  ⟨graph.arena.window.address (layout.nodeAt hop.target), hop.cost⟩

/-- A graph as a search meets it. -/
def terrain (graph : Graph) (layout : Layout) (pages : Nat → List Nat)
    (content : Multigraph) : Terrain where
  window := graph.arena.window
  nodes := layout.nodes
  count := content.ids.length
  frontier := layout.frontier
  capacity := graph.config.frontierCapacity
  limit := graph.config.frontierCapacity
  pages := pages
  hops := content.hops

/-- A graph that is laid out stores a multigraph, with the pages of every slot at the
given positions. -/
structure Stores (graph : Graph) (layout : Layout) (pages : Nat → List Nat)
    (content : Multigraph) : Prop
    extends LaidOut graph layout where
  nodeCount_eq : graph.nodeCount = content.ids.length
  nodeCount_le : content.ids.length ≤ graph.config.nodeBound
  edgeCount_eq : graph.edgeCount = content.links.length
  edgeCount_le : content.links.length ≤ graph.config.edgeBound
  pageCount_le : content.pageCount ≤ graph.pageCount
  id_eq : ∀ slot id, content.ids[slot]? = some id →
    (Record.read graph.memory (layout.idAt slot) : UInt32) = id
  directory_holds : graph.directory.Holds graph.arena.window.address layout.directory
    layout.frontier graph.memory
    (.ofIds (graph.nodeOf layout) content.ids)
  directory_room : graph.directory.HasRoom graph.config.nodeBound
  pages_eq_nil : ∀ slot, content.ids.length ≤ slot → pages slot = []
  page_eq : ∀ slot, ∀ position ∈ pages slot,
    ∃ index, index < graph.pageCount ∧
      position = layout.floor + index * graph.pageLength
  pages_nodup : ∀ slot, (pages slot).Nodup
  pages_disjoint : ∀ slot other, slot ≠ other →
    ∀ position ∈ pages slot, position ∉ pages other
  chain : ∀ slot, slot < content.ids.length →
    Chain graph.arena.window.address graph.memory (pages slot)
      (Record.read graph.memory (layout.nodeAt slot) : Node).firstPage
        ((content.hops slot).map (graph.edgeOf layout))

/-! ## Steps on a graph -/

section Steps

variable {α : Type}

theorem onMemory_eq_ok {step : Action Memory α} {value : α} {rest : Memory}
    (ok : step graph.memory = .ok value rest) :
    onMemory step graph = .ok value (graph.withMemory rest) := by
  rw [onMemory, onArena, Arena.onMemory, Action.focus_eq_ok (Action.focus_eq_ok ok)]
  rfl

theorem onMemory_eq_error {step : Action Memory α} {fault : Fault} {rest : Memory}
    (failed : step graph.memory = .error fault rest) :
    onMemory step graph = .error fault (graph.withMemory rest) := by
  rw [onMemory, onArena, Arena.onMemory,
    Action.focus_eq_error (Action.focus_eq_error failed)]
  rfl

@[simp] theorem memory_withSearch (graph : Graph) (memory : Memory) (entries : Nat) :
    (graph.withSearch memory entries).memory = memory := rfl

variable [Record α] {position : Nat}

theorem load_of_locate {address : UInt32}
    (located : graph.arena.window.locate address (Record.size α) = .ok position) :
    load α address graph = .ok (Record.read graph.memory position) graph := by
  simp only [load, Action.get_bind_apply]
  exact onMemory_eq_ok (Window.load_of_locate located)

theorem load_of_outside {address : UInt32} {fault : Fault}
    (outside : graph.arena.window.locate address (Record.size α) = .error fault) :
    load α address graph = .error fault graph := by
  simp only [load, Action.get_bind_apply]
  exact onMemory_eq_error (Window.load_of_outside outside)

/-- A record of the graph is loaded from its position. -/
theorem load_eq (sound : graph.arena.Sound)
    (spans : graph.arena.window.Spans position (Record.size α))
    (positive : 0 < Record.size α) :
    load α (graph.arena.window.address position) graph
      = .ok (Record.read graph.memory position) graph := by
  simp only [load, Action.get_bind_apply]
  exact onMemory_eq_ok (Window.load_address sound.window_sound spans positive)

/-- A record of the graph is stored at its position. -/
theorem store_eq (sound : graph.arena.Sound)
    (spans : graph.arena.window.Spans position (Record.size α))
    (positive : 0 < Record.size α) (value : α) :
    store (graph.arena.window.address position) value graph
      = .ok () (graph.withMemory (Record.write graph.memory position value)) := by
  simp only [store, Action.get_bind_apply]
  exact onMemory_eq_ok (Window.store_address sound.window_sound spans positive value)

end Steps

/-! ## Places -/

namespace LaidOut

variable {slot : Nat} (laidOut : graph.LaidOut layout)
include laidOut

theorem withMemory (memory : Memory) : (graph.withMemory memory).LaidOut layout :=
  { laidOut with arena_sound := laidOut.arena_sound.withMemory memory }

theorem floor_le_used : layout.floor ≤ graph.arena.used := by
  have used := laidOut.used_eq
  omega

theorem low_le_directory : graph.arena.window.low ≤ layout.directory := by
  have first := laidOut.granule_le
  have second := laidOut.nodes_le
  have third := laidOut.ids_le
  simp only [Arena.window]
  omega

theorem frontier_le_high : layout.frontier ≤ graph.arena.window.high := by
  have first := laidOut.frontier_le
  have second := laidOut.floor_le_used
  simp only [Arena.window]
  omega

theorem node_spans (inside : slot < graph.config.nodeBound) :
    graph.arena.window.Spans (layout.nodeAt slot) (Record.size Node) := by
  have first := laidOut.granule_le
  have second := laidOut.nodes_le
  have third := laidOut.ids_le
  have fourth := laidOut.directory_le
  have fifth := laidOut.frontier_le
  have last := laidOut.floor_le_used
  constructor
  · simp only [Arena.window, Layout.nodeAt]
    omega
  · simp only [Arena.window, Layout.nodeAt, Record.size_node]
    omega

theorem id_spans (inside : slot < graph.config.nodeBound) :
    graph.arena.window.Spans (layout.idAt slot) (Record.size UInt32) := by
  have first := laidOut.granule_le
  have second := laidOut.nodes_le
  have third := laidOut.ids_le
  have fourth := laidOut.directory_le
  have fifth := laidOut.frontier_le
  have last := laidOut.floor_le_used
  constructor
  · simp only [Arena.window, Layout.idAt]
    omega
  · simp only [Arena.window, Layout.idAt, Record.size_word]
    omega

theorem nodeAddress_eq (inside : slot < graph.config.nodeBound) :
    graph.nodeAddress slot = .ok (graph.arena.window.address (layout.nodeAt slot)) := by
  have stop := (laidOut.node_spans inside).le_high
  rw [Record.size_node, Layout.nodeAt] at stop
  rw [nodeAddress, laidOut.nodesBase_eq, Record.size_node]
  exact Window.entryAddress_address laidOut.arena_sound.window_sound (by omega)

theorem idAddress_eq (inside : slot < graph.config.nodeBound) :
    graph.idAddress slot = .ok (graph.arena.window.address (layout.idAt slot)) := by
  have stop := (laidOut.id_spans inside).le_high
  rw [Record.size_word, Layout.idAt] at stop
  rw [idAddress, laidOut.idsBase_eq, wordSize_eq]
  exact Window.entryAddress_address laidOut.arena_sound.window_sound (by omega)

theorem address_ne_null (inside : slot < graph.config.nodeBound) :
    graph.arena.window.address (layout.nodeAt slot) ≠ nullAddress :=
  Window.address_ne_null laidOut.arena_sound.window_sound (laidOut.node_spans inside)
    (by decide)

theorem address_nodeOf (inside : slot < graph.config.nodeBound) :
    (graph.nodeOf layout slot).address
      = graph.arena.window.address (layout.nodeAt slot) :=
  NodeRef.address_ofWord (laidOut.address_ne_null inside)

/-- Slots are told apart by their nodes. -/
theorem nodeOf_inj {other : Nat} (inside : slot < graph.config.nodeBound)
    (otherInside : other < graph.config.nodeBound) :
    graph.nodeOf layout slot = graph.nodeOf layout other ↔ slot = other := by
  constructor
  · intro same
    have addresses := congrArg NodeRef.address same
    have upper := (laidOut.node_spans inside).le_high
    have otherUpper := (laidOut.node_spans otherInside).le_high
    simp only [Record.size_node] at upper otherUpper
    rw [laidOut.address_nodeOf inside, laidOut.address_nodeOf otherInside,
      Window.address_inj laidOut.arena_sound.window_sound (by omega) (by omega)]
        at addresses
    simp only [Layout.nodeAt] at addresses
    omega
  · rintro rfl
    rfl

/-- The slot of a node is found again. -/
theorem slotOf_nodeOf (inside : slot < graph.nodeCount)
    (bounded : graph.nodeCount ≤ graph.config.nodeBound) :
    graph.slotOf (graph.nodeOf layout slot) = .ok slot := by
  have withinBound : slot < graph.config.nodeBound := Nat.lt_of_lt_of_le inside bounded
  have upper := (laidOut.node_spans withinBound).le_high
  have sound := laidOut.arena_sound.window_sound
  rw [Record.size_node] at upper
  have slab : graph.nodesBase.toNat = graph.arena.window.base.toNat + layout.nodes := by
    rw [laidOut.nodesBase_eq]
    exact Window.toNat_address sound (by rw [Layout.nodeAt] at upper; omega)
  have place : (graph.nodeOf layout slot).address.toNat
      = graph.nodesBase.toNat + slot * 16 := by
    rw [laidOut.address_nodeOf withinBound, Window.toNat_address sound (by omega), slab,
      Layout.nodeAt]
    omega
  have distance : (graph.nodeOf layout slot).address.toNat - graph.nodesBase.toNat
      = slot * 16 := by omega
  simp only [slotOf, UInt32.le_iff_toNat_le, Record.size_node, distance,
    Nat.mul_mod_left, Nat.mul_div_cancel slot (show 0 < 16 by decide)]
  exact if_pos ⟨by omega, trivial, inside⟩

end LaidOut

/-! ## Looking things up -/

namespace Stores

section Lookups

variable {slot : Nat} {id : UInt32} (stores : graph.Stores layout pages content)
include stores

theorem slot_lt_bound (inside : slot < content.ids.length) :
    slot < graph.config.nodeBound :=
  Nat.lt_of_lt_of_le inside stores.nodeCount_le

theorem slot_lt_of_mem (present : id ∈ content.ids) :
    content.slot id < graph.config.nodeBound :=
  stores.slot_lt_bound (Multigraph.slot_lt_iff.mpr present)

theorem find_eq (id : UInt32) :
    find id graph
      = .ok ((Roll.ofIds (graph.nodeOf layout) content.ids).lookup id) graph := by
  simp only [find, Action.get_bind_apply]
  exact onMemory_eq_ok (stores.directory_holds.lookup_eq stores.arena_sound.window_sound
    stores.low_le_directory
    stores.frontier_le_high id)

/-- An id that was added is found in its slot. -/
theorem find_of_mem (present : id ∈ content.ids) :
    find id graph = .ok (some (graph.nodeOf layout (content.slot id))) graph := by
  rw [stores.find_eq, Roll.lookup_ofIds_of_mem content.ids_nodup present]
  rfl

/-- An id that was never added is not found. -/
theorem find_of_not_mem (absent : id ∉ content.ids) :
    find id graph = .ok none graph := by
  rw [stores.find_eq, Roll.lookup_ofIds_of_not_mem absent]

/-- What is found is the node in the slot of an id that was added. -/
theorem of_find_eq_some {node : NodeRef} {rest : Graph}
    (found : find id graph = .ok (some node) rest) :
    id ∈ content.ids ∧ node = graph.nodeOf layout (content.slot id) ∧ rest = graph := by
  by_cases present : id ∈ content.ids
  · rw [stores.find_of_mem present] at found
    cases found
    exact ⟨present, rfl, rfl⟩
  · rw [stores.find_of_not_mem present] at found
    cases found

/-- The node of a slot has the id of the slot. -/
theorem idOf_nodeOf (here : content.ids[slot]? = some id) :
    idOf (graph.nodeOf layout slot) graph = .ok id graph := by
  obtain ⟨inside, _⟩ := List.getElem?_eq_some_iff.mp here
  have withinBound := stores.slot_lt_bound inside
  have slotFound : graph.slotOf (graph.nodeOf layout slot) = .ok slot :=
    stores.slotOf_nodeOf
    (by rw [stores.nodeCount_eq]; exact inside)
      (by rw [stores.nodeCount_eq]; exact stores.nodeCount_le)
  simp only [idOf, Action.get_bind_apply, slotFound, Action.liftM_ok_bind_apply,
    stores.idAddress_eq withinBound]
  rw [← stores.id_eq slot id here]
  exact load_eq stores.arena_sound (stores.id_spans withinBound) (by decide)

/-- The record of a node is read from its slot. -/
theorem nodeRecord_nodeOf (inside : slot < content.ids.length) :
    nodeRecord (graph.nodeOf layout slot) graph
      = .ok (Record.read graph.memory (layout.nodeAt slot)) graph := by
  have withinBound := stores.slot_lt_bound inside
  rw [nodeRecord, stores.address_nodeOf withinBound]
  exact load_eq stores.arena_sound (stores.node_spans withinBound) (by decide)

/-- Adding an id again gives its node and changes nothing. -/
theorem addNode_of_mem (present : id ∈ content.ids) :
    addNode id graph = .ok (graph.nodeOf layout (content.slot id)) graph := by
  simp only [addNode, Action.bind_ok (stores.find_of_mem present), Action.pure_apply]

/-- The nodes are those of the slots in order. -/
theorem nodes_eq :
    graph.nodes = .ok ((List.range content.ids.length).map (graph.nodeOf layout)) := by
  have addresses : (List.range graph.nodeCount).mapM graph.nodeAddress
      = .ok ((List.range graph.nodeCount).map fun slot =>
        graph.arena.window.address (layout.nodeAt slot)) := by
    apply Action.mapM_eq_ok
    intro slot member
    rw [List.mem_range, stores.nodeCount_eq] at member
    exact stores.nodeAddress_eq (stores.slot_lt_bound member)
  have references : ((List.range graph.nodeCount).map fun slot =>
        graph.arena.window.address (layout.nodeAt slot)).filterMap NodeRef.ofWord?
      = (List.range content.ids.length).map (graph.nodeOf layout) := by
    rw [stores.nodeCount_eq, List.filterMap_map, ← List.filterMap_eq_map]
    apply List.filterMap_congr
    intro slot member
    have inside := stores.slot_lt_bound (List.mem_range.mp member)
    exact NodeRef.ofWord?_eq (stores.address_ne_null inside)
  rw [nodes, addresses]
  exact congrArg Except.ok references

end Lookups

/-! ## Arcs -/

theorem page_spans (stores : graph.Stores layout pages content) {slot position : Nat}
    (member : position ∈ pages slot) :
    graph.arena.window.Spans position 72 ∧ layout.floor ≤ position := by
  obtain ⟨index, below, rfl⟩ := stores.page_eq slot position member
  have enough : 72 ≤ graph.pageLength :=
    Arena.le_blockLength stores.arena_sound.granule_pos 72
  have whole : (index + 1) * graph.pageLength ≤ graph.pageCount * graph.pageLength :=
    Nat.mul_le_mul_right _ below
  have used := stores.used_eq
  have directory := stores.low_le_directory
  have frontier := stores.directory_le
  have floor := stores.frontier_le
  rw [Nat.add_one_mul] at whole
  refine ⟨⟨?_, ?_⟩, Nat.le_add_right _ _⟩
  · simp only [Arena.window] at directory ⊢
    omega
  · simp only [Arena.window]
    omega

/-- A stored graph is sound terrain for a search. -/
theorem terrain_sound (stores : graph.Stores layout pages content) :
    (graph.terrain layout pages content).Sound where
  window_sound := stores.arena_sound.window_sound
  nodes_spans := by
    have first := stores.granule_le
    have second := stores.nodes_le
    have third := stores.ids_le
    have fourth := stores.directory_le
    have fifth := stores.frontier_le
    have last := stores.floor_le_used
    have count := stores.nodeCount_le
    constructor
    · exact first
    · simp only [terrain, Arena.window]
      omega
  frontier_spans := by
    have first := stores.low_le_directory
    have fourth := stores.directory_le
    have fifth := stores.frontier_le
    have last := stores.floor_le_used
    constructor
    · exact Nat.le_trans first fourth
    · simp only [terrain, Arena.window]
      omega
  nodes_le_frontier := by
    have second := stores.nodes_le
    have third := stores.ids_le
    have fourth := stores.directory_le
    have count := stores.nodeCount_le
    simp only [terrain]
    omega
  page_spans := by
    intro slot _ position member
    obtain ⟨spans, behind⟩ := stores.page_spans member
    exact ⟨spans, Nat.le_trans stores.frontier_le behind⟩
  inRange := content.inRange

theorem terrain_holds (stores : graph.Stores layout pages content) :
    (graph.terrain layout pages content).Holds graph.memory :=
  stores.chain

section Arcs

variable (stores : graph.Stores layout pages content)
include stores

theorem pageArcs_eq {arcs : List Hop}
    (targets : ∀ hop ∈ arcs, hop.target < content.ids.length) (page : PageRef)
    {record : Page} (claimed : record.claimed = arcs.map (graph.edgeOf layout)) :
    pageArcs page record = .ok (arcs.map (graph.arcOf layout)) := by
  rw [pageArcs, claimed, List.mapM_map]
  apply Action.mapM_eq_ok
  intro hop member
  have present := stores.address_ne_null (stores.slot_lt_bound (targets hop member))
  have named : NodeRef.ofWord? (graph.edgeOf layout hop).target
      = some (graph.nodeOf layout hop.target) := NodeRef.ofWord?_eq present
  simp only [Function.comp_apply, named]
  rfl

/-- The arcs on a chain of pages are read off it. -/
theorem chainArcs_eq {positions : List Nat} {word : UInt32} {arcs : List Hop}
    {remaining : Nat}
    (spans : ∀ position ∈ positions, graph.arena.window.Spans position 72)
    (targets : ∀ hop ∈ arcs, hop.target < content.ids.length)
    (enough : positions.length ≤ remaining)
    (chain : Chain graph.arena.window.address graph.memory positions word
      (arcs.map (graph.edgeOf layout))) :
    chainArcs remaining word graph = .ok (arcs.map (graph.arcOf layout)) graph := by
  induction positions generalizing word arcs remaining with
  | nil =>
    obtain ⟨rfl, noArcs⟩ := chain
    obtain rfl := List.map_eq_nil_iff.mp noArcs
    rw [chainArcs]
    rfl
  | cons position rest ih =>
    obtain ⟨remaining, rfl⟩ : ∃ less, remaining = less + 1 :=
      ⟨remaining - 1, by simp at enough; omega⟩
    obtain ⟨rfl, _, _, claimed, tail⟩ := chain
    have span := spans position List.mem_cons_self
    have notNull :=
      Window.address_ne_null stores.arena_sound.window_sound span (by decide)
    have loaded : load Page (graph.arena.window.address position) graph = .ok _ graph :=
      load_eq stores.arena_sound span (by decide)
    rw [← List.map_take] at claimed
    rw [← List.map_drop] at tail
    have here :=
      stores.pageArcs_eq (fun hop member => targets hop (List.mem_of_mem_take member))
      ⟨graph.arena.window.address position, notNull⟩ claimed
    have further := ih (fun other member => spans other (List.mem_cons_of_mem _ member))
      (fun hop member => targets hop (List.mem_of_mem_drop member))
        (by simpa using enough) tail
    rw [chainArcs]
    simp only [PageRef.ofWord?_of_ne notNull, Action.bind_ok loaded, here,
      Action.liftM_ok_bind_apply, Action.bind_ok further, Action.pure_apply,
      ← List.map_append, List.take_append_drop]

theorem length_pages {slot : Nat} (inside : slot < content.ids.length) :
    (pages slot).length = ((content.hops slot).length + 7) / 8 := by
  have pageCount := (stores.chain slot inside).length_eq
  rw [List.length_map] at pageCount
  exact pageCount

theorem length_pages_le {slot : Nat} (inside : slot < content.ids.length) :
    (pages slot).length ≤ graph.pageCount := by
  have here := List.getElem?_eq_getElem inside
  rw [stores.length_pages inside, Multigraph.hops_of_getElem? here, List.length_map]
  apply Nat.le_trans _ stores.pageCount_le
  rw [Multigraph.pageCount]
  exact List.single_le_sum
    (fun _ _ => Nat.zero_le _) _ (List.mem_map_of_mem (List.getElem_mem inside))

/-- The arcs of a node are those of its slot. -/
theorem arcs_nodeOf {slot : Nat} (inside : slot < content.ids.length) :
    arcs (graph.nodeOf layout slot) graph
      = .ok ((content.hops slot).map (graph.arcOf layout)) graph := by
  simp only [arcs, Action.bind_ok (stores.nodeRecord_nodeOf inside),
    Action.get_bind_apply]
  apply stores.chainArcs_eq (fun position member => (stores.page_spans member).1)
    (content.inRange slot inside) _ (stores.chain slot inside)
  exact Nat.le_succ_of_le (stores.length_pages_le inside)

end Arcs

/-! ## What does not matter to a stored multigraph -/

section Tables

variable (stores : graph.Stores layout pages content) {memory : Memory}
  (tables : ∀ query, Stretch layout.ids layout.frontier query →
    memory.get query = graph.memory.get query)
include stores tables

/-- The ids stand in the tables. -/
theorem id_eq_of_tables (slot : Nat) (id : UInt32)
    (here : content.ids[slot]? = some id) :
    (Record.read memory (layout.idAt slot) : UInt32) = id := by
  obtain ⟨inside, _⟩ := List.getElem?_eq_some_iff.mp here
  have withinBound := stores.slot_lt_bound inside
  have idsEnd := stores.ids_le
  have directoryEnd := stores.directory_le
  rw [← stores.id_eq slot id here]
  apply Record.read_congr
  intro query lower upper
  rw [Record.size_word] at upper
  simp only [Layout.idAt] at lower upper
  exact tables query ⟨by omega, by omega⟩

/-- The directory stands in the tables. -/
theorem directory_holds_of_tables :
    graph.directory.Holds graph.arena.window.address layout.directory layout.frontier
      memory
      (.ofIds (graph.nodeOf layout) content.ids) := by
  have idsEnd := stores.ids_le
  apply stores.directory_holds.congr
  rintro query ⟨lower, upper⟩
  exact tables query ⟨by omega, upper⟩

end Tables

/-- A multigraph stays stored while the ids, the directory, the pages and the links to
first pages do. -/
theorem congr (stores : graph.Stores layout pages content) {memory : Memory}
    (tables : ∀ query, Stretch layout.ids layout.frontier query →
      memory.get query = graph.memory.get query)
    (above : ∀ query, Stretch layout.floor graph.arena.used query →
      memory.get query = graph.memory.get query)
    (links : ∀ slot, slot < content.ids.length →
      (Record.read memory (layout.nodeAt slot) : Node).firstPage
      = (Record.read graph.memory (layout.nodeAt slot) : Node).firstPage)
    (entries : Nat) :
    (graph.withSearch memory entries).Stores layout pages content := by
  constructor
  case toLaidOut => exact { stores.toLaidOut.withMemory memory with }
  case nodeCount_eq => exact stores.nodeCount_eq
  case nodeCount_le => exact stores.nodeCount_le
  case edgeCount_eq => exact stores.edgeCount_eq
  case edgeCount_le => exact stores.edgeCount_le
  case pageCount_le => exact stores.pageCount_le
  case id_eq => exact stores.id_eq_of_tables tables
  case directory_holds => exact stores.directory_holds_of_tables tables
  case directory_room => exact stores.directory_room
  case pages_eq_nil => exact stores.pages_eq_nil
  case page_eq => exact stores.page_eq
  case pages_nodup => exact stores.pages_nodup
  case pages_disjoint => exact stores.pages_disjoint
  case chain =>
    intro slot inside
    have old := stores.chain slot inside
    rw [← links slot inside] at old
    apply old.congr
    intro position member
    obtain ⟨spans, behind⟩ := stores.page_spans member
    have stop := spans.le_high
    apply Record.read_congr
    intro query lower upper
    rw [Record.size_page] at upper
    simp only [Arena.window] at stop
    exact above query ⟨by omega, by omega⟩

end Stores

end Graph

end ArenaPaths
