import ArenaPaths.Proofs.Dijkstra.Trail
import ArenaPaths.Proofs.Stored
import ArenaPaths.Query.Run

/-!
# Answering queries

A query resets the search state of the graph, searches, and reads the route back from
the parents that the search has left. On a graph that stores a multigraph all of this
succeeds, and the answer is what the search by slots finds on the multigraph.
-/

namespace ArenaPaths

open Dijkstra

/-! ## What there is to find -/

namespace Multigraph

variable {content : Multigraph} {start goal : UInt32} {outcome : Outcome}
  {route : List RouteStep} {final : State}

/-- A step on a route: the id of a slot, and the cost that its label gives. -/
def stepAt (content : Multigraph) (state : State) (slot : Nat) : RouteStep :=
  ⟨content.ids[slot]?.getD 0, state.cost slot⟩

theorem stepAt_slot (state : State) {id : UInt32} (present : id ∈ content.ids) :
    content.stepAt state (content.slot id) = ⟨id, state.cost (content.slot id)⟩ := by
  rw [stepAt, getElem?_slot present]
  rfl

/-- What a search finds on a multigraph: it comes to its conclusion in a state, and the
route is the trail to the goal if that was found. -/
structure Finds (content : Multigraph) (start goal : UInt32) (outcome : Outcome)
    (route : List RouteStep) (final : State) : Prop where
  search_eq : search content.hops (content.slot start) (content.slot goal)
    = some (outcome, final)
  concluded : Concluded content.hops content.ids.length (content.slot start)
    (content.slot goal) outcome final
  route_eq : match outcome with
    | .found _ =>
      ∃ trail, Trail final.parent (content.slot start) (content.slot goal) trail ∧
        trail ⊆ final.settled ∧ route = trail.map (content.stepAt final)
    | .exhausted => route = []

/-- Between two nodes there is something to find, be it that there is no way. -/
theorem exists_finds (hasStart : start ∈ content.ids)
    (few : 1 + content.links.length < Search.searchFuel) :
    ∃ outcome route final, content.Finds start goal outcome route final := by
  rw [← content.pending_hops] at few
  obtain ⟨outcome, final, searched, concluded⟩ :=
    search_concluded content.inRange (slot_lt_iff.mpr hasStart) few
  cases outcome with
  | found cost =>
    obtain ⟨_, older, newest⟩ := concluded.ending
    have settled : content.slot goal ∈ final.settled := by
      rw [newest]; exact List.mem_cons_self
    obtain ⟨trail, isTrail, within⟩ := concluded.exists_trail settled
    exact ⟨.found cost, _, final, searched, concluded, trail, isTrail, within, rfl⟩
  | exhausted => exact ⟨.exhausted, [], final, searched, concluded, rfl⟩

/-- A route along edges: from the start at no cost to the goal at the given cost, by
every node at most once, at the cost of the edges. -/
structure IsRoute (links : List Link) (start goal cost : UInt32)
    (route : List RouteStep) : Prop where
  head?_eq : route.head? = some ⟨start, 0⟩
  getLast?_eq : route.getLast? = some ⟨goal, cost⟩
  ids_nodup : (route.map RouteStep.id).Nodup
  isChain : route.IsChain fun step next => step.cost ≤ next.cost ∧
    ⟨step.id, next.id, next.cost - step.cost⟩ ∈ links

/-- Every slot has an id. -/
theorem exists_id {slot : Nat} (inside : slot < content.ids.length) :
    ∃ id ∈ content.ids, slot = content.slot id :=
  ⟨content.ids[slot], List.getElem_mem inside,
    (slot_eq_of_getElem? (List.getElem?_eq_getElem inside)).symm⟩

/-- The trail to a goal that was found is a route. -/
theorem Finds.isRoute {cost : UInt32}
    (finds : content.Finds start goal (.found cost) route final)
    (hasStart : start ∈ content.ids) (hasGoal : goal ∈ content.ids) :
    IsRoute content.links start goal cost route := by
  have concluded := finds.concluded
  obtain ⟨cost_eq, _⟩ := concluded.ending
  obtain ⟨trail, isTrail, within, rfl⟩ := finds.route_eq
  constructor
  case head?_eq =>
    rw [List.head?_map, isTrail.head?_eq, Option.map_some, stepAt_slot final hasStart,
      concluded.start_cost]
  case getLast?_eq =>
    rw [List.getLast?_map, isTrail.getLast?_eq, Option.map_some,
      stepAt_slot final hasGoal, cost_eq]
  case ids_nodup =>
    rw [List.map_map]
    apply isTrail.nodup.map_on
    intro slot member other otherMember same
    obtain ⟨id, present, rfl⟩ :=
      content.exists_id (concluded.settled_lt slot (within member))
    obtain ⟨otherId, otherPresent, rfl⟩ :=
      content.exists_id (concluded.settled_lt other (within otherMember))
    simp only [Function.comp_apply, stepAt_slot final present,
      stepAt_slot final otherPresent] at same
    rw [same]
  case isChain =>
    rw [List.isChain_map]
    apply isTrail.isChain.imp
    intro previous next isParent
    obtain ⟨settled, arc, leads, grows⟩ := concluded.parent_arc next previous isParent
    have previousInside := concluded.settled_lt previous settled
    obtain ⟨id, present, rfl⟩ := content.exists_id previousInside
    obtain ⟨nextId, nextPresent, rfl⟩ :=
      content.exists_id (content.inRange _ previousInside _ leads)
    rw [stepAt_slot final present, stepAt_slot final nextPresent]
    have increases : final.cost (content.slot id)
        ≤ final.cost (content.slot nextId) := by
      rw [UInt32.le_iff_toNat_le]
      omega
    have difference : final.cost (content.slot nextId) - final.cost (content.slot id)
        = arc := by
      rw [← UInt32.toNat_inj, UInt32.toNat_sub_of_le _ _ increases]
      omega
    refine ⟨increases, ?_⟩
    rw [difference]
    exact (hop_mem_iff present nextPresent).mp leads

/-- The cost of a goal that was found is the least total of a walk there, and if it was
not found, no walk there has a total that a cost can hold. -/
theorem Finds.outcome_spec (finds : content.Finds start goal outcome route final)
    (hasStart : start ∈ content.ids) (hasGoal : goal ∈ content.ids) :
    match outcome with
    | .found cost =>
      cost ≠ unreached ∧
        IsLeast { total | LinkWalk content.links start goal total } cost.toNat
    | .exhausted =>
      ∀ total, LinkWalk content.links start goal total → unreached.toNat ≤ total := by
  cases outcome with
  | found cost =>
    obtain ⟨walk, reached, least⟩ := finds.concluded.isLeast
    refine ⟨reached, (hopWalk_iff hasStart hasGoal).mp walk, ?_⟩
    intro total isWalk
    exact least total ((hopWalk_iff hasStart hasGoal).mpr isWalk)
  | exhausted =>
    intro total isWalk
    exact finds.concluded.no_walk ((hopWalk_iff hasStart hasGoal).mpr isWalk)

end Multigraph

/-! ## Resetting -/

namespace Graph

variable {graph : Graph} {layout : Layout} {pages : Nat → List Nat}
  {content : Multigraph}

namespace LaidOut

theorem resetSlot_eq (laidOut : graph.LaidOut layout) {slot : Nat}
    (inside : slot < graph.config.nodeBound) :
    resetSlot slot graph
      = .ok () (graph.withMemory (Record.write graph.memory (layout.nodeAt slot)
      (Record.read graph.memory (layout.nodeAt slot) : Node).reset)) := by
  have spans := laidOut.node_spans inside
  have loaded :
      load Node (graph.arena.window.address (layout.nodeAt slot)) graph = .ok _ graph :=
    load_eq laidOut.arena_sound spans (by decide)
  simp only [resetSlot, Action.get_bind_apply, laidOut.nodeAddress_eq inside,
    Action.liftM_ok_bind_apply, Action.bind_ok loaded]
  exact store_eq laidOut.arena_sound spans (by decide) _

/-- Slots that are reset one after another are reset, and nothing else changes. -/
theorem forM_resetSlot_eq (laidOut : graph.LaidOut layout) {slots : List Nat}
    (inside : ∀ slot ∈ slots, slot < graph.config.nodeBound) :
    ∃ memory, slots.forM resetSlot graph = .ok () (graph.withMemory memory) ∧
      Memory.SameExcept (fun query => ∃ slot ∈ slots,
        Stretch (layout.nodeAt slot) (layout.nodeAt slot + 16) query)
        graph.memory memory ∧
      (∀ slot ∈ slots, (Record.read memory (layout.nodeAt slot) : Node)
        = (Record.read graph.memory (layout.nodeAt slot) : Node).reset) ∧
      ∀ slot, slot ∉ slots → (Record.read memory (layout.nodeAt slot) : Node)
        = Record.read graph.memory (layout.nodeAt slot) := by
  induction slots generalizing graph with
  | nil =>
    exact ⟨graph.memory, rfl, .refl _,
      fun slot member => absurd member List.not_mem_nil, fun _ _ => rfl⟩
  | cons first rest ih =>
    have here := laidOut.resetSlot_eq (inside first List.mem_cons_self)
    obtain ⟨cleaned, cleaned_eq⟩ :
        ∃ cleaned, cleaned = Record.write graph.memory (layout.nodeAt first)
      (Record.read graph.memory (layout.nodeAt first) : Node).reset := ⟨_, rfl⟩
    rw [← cleaned_eq] at here
    have own : (Record.read cleaned (layout.nodeAt first) : Node)
        = (Record.read graph.memory (layout.nodeAt first) : Node).reset := by
      rw [cleaned_eq, Record.read_write]
    have others : ∀ slot, slot ≠ first →
        (Record.read cleaned (layout.nodeAt slot) : Node)
        = Record.read graph.memory (layout.nodeAt slot) := by
      intro slot different
      rw [cleaned_eq]
      apply Record.read_write_of_disjoint
      simp only [Layout.nodeAt, Record.size_node]
      omega
    obtain ⟨memory, ran, same, reset, kept⟩ := ih (laidOut.withMemory cleaned)
      fun slot member => inside slot (List.mem_cons_of_mem _ member)
    refine ⟨memory, (Action.bind_ok here).trans ran, ?_, ?_, ?_⟩
    · have sameFirst : Memory.SameExcept (fun query => ∃ slot ∈ first :: rest,
          Stretch (layout.nodeAt slot) (layout.nodeAt slot + 16) query) graph.memory
            cleaned := by
        rw [cleaned_eq]
        exact Memory.sameExcept_write _ _ _ fun query lower upper =>
          ⟨first, List.mem_cons_self, lower, upper⟩
      refine sameFirst.trans (same.mono ?_)
      rintro query ⟨slot, member, within⟩
      exact ⟨slot, List.mem_cons_of_mem _ member, within⟩
    · intro slot member
      by_cases later : slot ∈ rest
      · rw [reset slot later]
        by_cases isFirst : slot = first
        · rw [isFirst]
          exact (congrArg Node.reset own).trans rfl
        · exact congrArg Node.reset (others slot isFirst)
      · obtain rfl : slot = first := by simpa [later] using member
        rw [kept slot later]
        exact own
    · intro slot absent
      rw [List.mem_cons, not_or] at absent
      rw [kept slot absent.2]
      exact others slot absent.1

end LaidOut

/-- After a reset all nodes are unsearched, the frontier is empty, and the links to
first pages are as before. -/
theorem Stores.resetSearch_eq (stores : graph.Stores layout pages content) :
    ∃ memory, resetSearch graph = .ok () (graph.withSearch memory 0) ∧
      Memory.SameExcept
        (graph.terrain layout pages content).Touches graph.memory memory ∧
      Unsearched (graph.terrain layout pages content) memory ∧
      ∀ slot, slot < content.ids.length →
        (Record.read memory (layout.nodeAt slot) : Node).firstPage
        = (Record.read graph.memory (layout.nodeAt slot) : Node).firstPage := by
  have inside : ∀ slot ∈ List.range graph.nodeCount, slot < graph.config.nodeBound := by
    intro slot member
    rw [List.mem_range, stores.nodeCount_eq] at member
    exact stores.slot_lt_bound member
  obtain ⟨memory, ran, same, reset, _⟩ := stores.forM_resetSlot_eq inside
  rw [stores.nodeCount_eq] at same reset
  refine ⟨memory, ?_, ?_, ?_, ?_⟩
  · simp only [resetSearch, Action.get_bind_apply, Action.bind_ok ran,
      Action.modify_apply]
    rfl
  · apply same.mono
    rintro query ⟨slot, member, lower, upper⟩
    rw [List.mem_range] at member
    simp only [Layout.nodeAt] at lower upper
    refine .inl ⟨?_, ?_⟩
    · simp only [terrain]
      omega
    · simp only [terrain]
      omega
  · intro slot below
    have cleaned := reset slot (List.mem_range.mpr below)
    change (Record.read memory (layout.nodeAt slot) : Node).reset
      = Record.read memory (layout.nodeAt slot)
    rw [cleaned]
    rfl
  · intro slot below
    rw [reset slot (List.mem_range.mpr below)]
    rfl

/-! ## Searching -/

namespace Stores

variable {memory : Memory}

/-- What a search may write is no part of what is stored. -/
theorem searched (stores : graph.Stores layout pages content)
    (same : Memory.SameExcept (graph.terrain layout pages content).Touches graph.memory
      memory)
    (links : ∀ slot, slot < content.ids.length →
      (Record.read memory (layout.nodeAt slot) : Node).firstPage
      = (Record.read graph.memory (layout.nodeAt slot) : Node).firstPage)
    (entries : Nat) :
    (graph.withSearch memory entries).Stores layout pages content := by
  have nodesEnd := stores.nodes_le
  have idsEnd := stores.ids_le
  have directoryEnd := stores.directory_le
  have frontierEnd := stores.frontier_le
  have count := stores.nodeCount_le
  apply stores.congr _ _ links entries
  · rintro query ⟨lower, upper⟩
    apply same query
    simp only [Terrain.Touches, Frontier.Touches, terrain]
    omega
  · rintro query ⟨lower, _⟩
    apply same query
    simp only [Terrain.Touches, Frontier.Touches, terrain]
    omega

/-- The frontier has room for an offer per edge and one for the start. -/
theorem room (stores : graph.Stores layout pages content) :
    1 + content.links.length ≤ graph.config.frontierCapacity := by
  have enough : 72 ≤ graph.pageLength :=
    Arena.le_blockLength stores.arena_sound.granule_pos 72
  have places := content.length_links_le
  have pagesStored := stores.pageCount_le
  have bytes := Nat.mul_le_mul_left graph.pageCount enough
  have used := stores.used_eq
  have whole := stores.arena_sound.used_le_capacity
  have fits := stores.arena_sound.base_add_capacity_le
  have bound := stores.edgeCount_le
  have large : 8 < UInt32.size := by decide
  have few : 1 + content.links.length ≤ UInt32.size - 1 := by omega
  have perEdge : 1 + content.links.length ≤ graph.config.edgeBound + 1 := by omega
  exact Nat.le_trans (Nat.le_min.mpr ⟨perEdge, few⟩) (Nat.le_max_right _ _)

variable {start goal : UInt32} {outcome : Outcome} {route : List RouteStep}
  {final : State}

/-- In a graph that is stored there is something to find from every node. -/
theorem exists_finds (stores : graph.Stores layout pages content)
    (hasStart : start ∈ content.ids) :
    ∃ outcome route final, content.Finds start goal outcome route final := by
  have room := stores.room
  have small : graph.config.frontierCapacity < UInt32.size :=
    stores.terrain_sound.capacity_lt
  have limit : UInt32.size < Search.searchFuel := by decide
  exact Multigraph.exists_finds hasStart (by omega)

section Through

variable {view : Window} (within : graph.arena.window.Within view) {limit : Nat}
include within

theorem address_nodeOf_through (stores : graph.Stores layout pages content)
    {id : UInt32} (present : id ∈ content.ids) :
    (graph.nodeOf layout (content.slot id)).address
      = ((graph.terrain layout pages content).through view limit).nodeWord
        (content.slot id) := by
  rw [stores.address_nodeOf (stores.slot_lt_of_mem present)]
  exact (within.address_eq _).symm

/-- Unsearched nodes and an empty frontier show the state before a search through any
window on all of the graph. -/
theorem shownBy_blank (stores : graph.Stores layout pages content)
    (unsearched : Unsearched (graph.terrain layout pages content) graph.memory)
    (limit : Nat) (heap : Nat → Offer) :
    (State.blank heap).ShownBy
      ((graph.terrain layout pages content).through view limit) graph.memory
      ⟨⟨graph.frontier.base, limit, 0⟩, graph.memory⟩ := by
  change Unsearched ((graph.terrain layout pages content).through view limit)
    graph.memory at unsearched
  rw [stores.frontierBase_eq, ← within.address_eq]
  exact Dijkstra.shownBy_blank unsearched heap

/-- The frontier of a search is the graph's but for its size and its limit. -/
theorem frontier_eq_of_shownBy (stores : graph.Stores layout pages content)
    {state : State} {pristine : Memory} {workspace : Workspace}
    (shown : state.ShownBy ((graph.terrain layout pages content).through view limit)
      pristine workspace) :
    workspace.frontier = ⟨graph.frontier.base, limit, state.size⟩ := by
  rw [shown.frontier_eq, stores.frontierBase_eq, ← within.address_eq]
  rfl

/-- Through any window on all of the graph, a search on unsearched nodes with an empty
frontier finds what there is to find and leaves its labels in the records, unless the
frontier takes fewer entries than one per edge and one for the start. -/
theorem run_or_stops (stores : graph.Stores layout pages content)
    (viewSound : view.Sound) (limit : Nat)
    (unsearched : Unsearched (graph.terrain layout pages content) graph.memory)
    (hasStart : start ∈ content.ids) (hasGoal : goal ∈ content.ids)
    (finds : content.Finds start goal outcome route final) :
    (∃ after : Workspace,
      Search.run view (graph.nodeOf layout (content.slot start))
        (graph.nodeOf layout (content.slot goal))
          ⟨⟨graph.frontier.base, limit, 0⟩, graph.memory⟩
            = .ok ⟨outcome, final.settled.length, final.improved⟩ after ∧
      final.ShownBy
        ((graph.terrain layout pages content).through view limit) graph.memory after) ∨
    (limit < 1 + content.links.length ∧
      ((graph.terrain layout pages content).through view limit).StopsFull graph.memory
        (Search.run view (graph.nodeOf layout (content.slot start))
          (graph.nodeOf layout (content.slot goal)))
        ⟨⟨graph.frontier.base, limit, 0⟩, graph.memory⟩) := by
  have room := stores.room
  rw [← content.pending_hops] at room ⊢
  obtain ⟨machineOutcome, machineFinal, after, searched, ran, shown⟩ | stopped :=
    (stores.shownBy_blank within unsearched limit _).run_or_stops
      (stores.terrain_sound.through within viewSound)
      (stores.terrain_holds.through within) (Multigraph.slot_lt_iff.mpr hasStart)
        (Multigraph.slot_lt_iff.mpr hasGoal)
      (stores.address_nodeOf_through within hasStart)
        (stores.address_nodeOf_through within hasGoal) room
  · obtain ⟨rfl, rfl⟩ : machineOutcome = outcome ∧ machineFinal = final := by
      have same := searched.symm.trans finds.search_eq
      simpa using same
    exact .inl ⟨after, ran, shown⟩
  · exact .inr stopped

/-- The frontier of a graph takes enough entries. -/
theorem run_eq (stores : graph.Stores layout pages content) (viewSound : view.Sound)
    (unsearched : Unsearched (graph.terrain layout pages content) graph.memory)
    (hasStart : start ∈ content.ids) (hasGoal : goal ∈ content.ids)
    (finds : content.Finds start goal outcome route final) :
    ∃ after : Workspace,
      Search.run view (graph.nodeOf layout (content.slot start))
        (graph.nodeOf layout (content.slot goal))
          ⟨graph.frontier.clear, graph.memory⟩
            = .ok ⟨outcome, final.settled.length, final.improved⟩ after ∧
      after.frontier = { graph.frontier with size := final.size } ∧
      Memory.SameExcept
        (graph.terrain layout pages content).Touches graph.memory after.memory ∧
      ∀ slot, slot < content.ids.length →
        (Record.read after.memory (layout.nodeAt slot) : Node)
        = final.record (graph.terrain layout pages content) graph.memory slot := by
  obtain ⟨after, ran, shown⟩ | ⟨short, _⟩ :=
    stores.run_or_stops within viewSound graph.frontier.capacity unsearched hasStart
      hasGoal finds
  case inr =>
    rw [stores.frontierCapacity_eq] at short
    exact absurd stores.room (Nat.not_le.mpr short)
  refine ⟨after, ran, stores.frontier_eq_of_shownBy within shown, shown.same, ?_⟩
  intro slot inside
  rw [← State.record_through within]
  exact shown.record_eq slot inside

end Through

/-! ## Routes -/

section Routes

variable {pristine : Memory} (stores : graph.Stores layout pages content)
  (records : ∀ slot, slot < content.ids.length →
    (Record.read graph.memory (layout.nodeAt slot) : Node)
    = final.record (graph.terrain layout pages content) pristine slot)
include stores records

/-- Following the parents from a node gives its trail. -/
theorem routeFrom_eq {first last : Nat} {trail : List Nat}
    (isTrail : Trail final.parent first last trail)
    (inside : ∀ slot ∈ trail, slot < content.ids.length) {remaining : Nat}
    (enough : trail.length ≤ remaining) (target : NodeRef) (behind : List RouteStep) :
    routeFrom (graph.nodeOf layout first) target remaining
      (graph.nodeOf layout last) behind graph
      = .ok (trail.map (content.stepAt final) ++ behind) graph := by
  have record : ∀ slot, slot < content.ids.length →
      nodeRecord (graph.nodeOf layout slot) graph
      = .ok (final.record (graph.terrain layout pages content) pristine slot)
        graph := by
    intro slot below
    rw [← records slot below]
    exact stores.nodeRecord_nodeOf below
  have named : ∀ slot, slot < content.ids.length → idOf (graph.nodeOf layout slot) graph
      = .ok (content.stepAt final slot).id graph := by
    intro slot below
    have here := List.getElem?_eq_getElem below
    rw [Multigraph.stepAt, here]
    exact stores.idOf_nodeOf here
  induction isTrail generalizing remaining behind with
  | nil =>
    obtain ⟨remaining, rfl⟩ : ∃ less, remaining = less + 1 :=
      ⟨remaining - 1, by simp at enough; omega⟩
    have below := inside first List.mem_cons_self
    simp only [routeFrom, Action.bind_ok (record first below),
      Action.bind_ok (named first below), if_true]
    rfl
  | @snoc previous node nodes before isParent notFirst fresh ih =>
    rw [List.length_append, List.length_singleton] at enough
    obtain ⟨remaining, rfl⟩ : ∃ less, remaining = less + 1 := ⟨remaining - 1, by omega⟩
    have below := inside node (List.mem_append_right _ List.mem_cons_self)
    have beforeBelow : ∀ slot ∈ nodes, slot < content.ids.length := fun slot member =>
      inside slot (List.mem_append_left _ member)
    have firstBelow := beforeBelow first (List.mem_of_head? before.head?_eq)
    have previousBelow := beforeBelow previous (List.mem_of_getLast? before.getLast?_eq)
    have notStart : ¬ graph.nodeOf layout node = graph.nodeOf layout first := by
      rw [stores.nodeOf_inj (stores.slot_lt_bound below)
        (stores.slot_lt_bound firstBelow)]
      exact notFirst
    have parent : NodeRef.ofWord?
        (final.record (graph.terrain layout pages content) pristine node).parent
        = some (graph.nodeOf layout previous) := by
      simp only [State.record, isParent]
      exact NodeRef.ofWord?_eq
        (stores.address_ne_null (stores.slot_lt_bound previousBelow))
    simp only [routeFrom, Action.bind_ok (record node below),
      Action.bind_ok (named node below), if_neg notStart, parent]
    rw [ih beforeBelow (by omega), List.map_append, List.append_assoc]
    rfl

/-- The route is what there is to find. -/
theorem routeOf_eq (finds : content.Finds start goal outcome route final) :
    routeOf (graph.nodeOf layout (content.slot start))
      (graph.nodeOf layout (content.slot goal)) outcome graph
      = .ok route graph := by
  have route_eq := finds.route_eq
  cases outcome with
  | found cost =>
    obtain ⟨trail, isTrail, within, rfl⟩ := route_eq
    have shorter := finds.concluded.length_trail_le isTrail within
    have inside : ∀ slot ∈ trail, slot < content.ids.length := fun slot member =>
      finds.concluded.settled_lt slot (within member)
    simp only [routeOf, Graph.route, Action.get_bind_apply]
    rw [stores.routeFrom_eq records isTrail inside (by rw [stores.nodeCount_eq]; omega),
      List.append_nil]
  | exhausted =>
    rw [route_eq]
    rfl

end Routes

end Stores

/-! ## Answers of the host -/

/-- What a search that ended in the given state has made of a graph: the labels are in
the records of the nodes, and nothing has changed but what a search may write. -/
structure Searched (graph : Graph) (layout : Layout) (pages : Nat → List Nat)
    (content : Multigraph) (final : State) (after : Graph) : Prop where
  withSearch_eq : after = graph.withSearch after.memory after.frontier.size
  same : Memory.SameExcept (graph.terrain layout pages content).Touches graph.memory
    after.memory
  record_eq : ∀ slot, slot < content.ids.length →
    (Record.read after.memory (layout.nodeAt slot) : Node)
    = final.record (graph.terrain layout pages content) graph.memory slot

variable {after : Graph} {start goal : UInt32} {outcome : Outcome}
  {route : List RouteStep} {final : State}

theorem Searched.firstPage_eq
    (searched : graph.Searched layout pages content final after) {slot : Nat}
    (inside : slot < content.ids.length) :
    (Record.read after.memory (layout.nodeAt slot) : Node).firstPage
      = (Record.read graph.memory (layout.nodeAt slot) : Node).firstPage := by
  rw [searched.record_eq slot inside]
  rfl

/-- A graph still stores its multigraph after a search. -/
theorem Searched.stores (searched : graph.Searched layout pages content final after)
    (stores : graph.Stores layout pages content) :
    after.Stores layout pages content := by
  rw [searched.withSearch_eq]
  exact stores.searched searched.same (fun _ inside => searched.firstPage_eq inside) _

/-- After a search the route is read back from the records. -/
theorem Searched.routeOf_eq (searched : graph.Searched layout pages content final after)
    (stores : graph.Stores layout pages content)
    (finds : content.Finds start goal outcome route final) :
    routeOf (graph.nodeOf layout (content.slot start))
      (graph.nodeOf layout (content.slot goal)) outcome after
      = .ok route after := by
  have storesAfter := searched.stores stores
  obtain ⟨memory, entries, rfl⟩ :
      ∃ memory entries, after = graph.withSearch memory entries :=
    ⟨_, _, searched.withSearch_eq⟩
  exact storesAfter.routeOf_eq searched.record_eq finds

theorem onWorkspace_eq_ok {α : Type} {step : Action Workspace α} {value : α}
    {rest : Workspace} {entries : Nat}
    (ok : step ⟨graph.frontier, graph.memory⟩ = .ok value rest)
    (frontier_eq : rest.frontier = { graph.frontier with size := entries }) :
    onWorkspace step graph = .ok value (graph.withSearch rest.memory entries) := by
  have ran : onWorkspace step graph = .ok value
      { graph with
        arena := graph.arena.withMemory rest.memory, frontier := rest.frontier } :=
        Action.focus_eq_ok ok
  rw [ran, frontier_eq]
  rfl

/-- A search of the host after a reset finds what there is to find. -/
theorem Stores.search_eq (stores : graph.Stores layout pages content)
    (hasStart : start ∈ content.ids) (hasGoal : goal ∈ content.ids)
    (finds : content.Finds start goal outcome route final) :
    ∃ cleared after, resetSearch graph = .ok () cleared ∧
      search (graph.nodeOf layout (content.slot start))
        (graph.nodeOf layout (content.slot goal)) cleared
        = .ok ⟨outcome, final.settled.length, final.improved⟩ after ∧
      graph.Searched layout pages content final after := by
  obtain ⟨memory, reset, same, unsearched, links⟩ := stores.resetSearch_eq
  have storesCleared := stores.searched same links 0
  obtain ⟨workspace, ran, frontier_eq, sameSearch, record_eq⟩ :=
    storesCleared.run_eq (.refl _) storesCleared.arena_sound.window_sound unsearched
      hasStart hasGoal finds
  refine ⟨graph.withSearch memory 0, graph.withSearch workspace.memory final.size,
    reset, ?_, rfl, same.trans sameSearch, ?_⟩
  · simp only [search, Action.get_bind_apply]
    exact onWorkspace_eq_ok ran frontier_eq
  · intro slot inside
    rw [memory_withSearch, record_eq slot inside]
    exact State.record_congr final (links slot inside)

/-- The host answers a query between two nodes with what there is to find. -/
theorem Stores.run_software (stores : graph.Stores layout pages content) (query : Query)
    (hasStart : query.start ∈ content.ids) (hasGoal : query.goal ∈ content.ids)
    (finds : content.Finds query.start query.goal outcome route final)
    (byHost : query.mode ≠ .delegated) {κ : Type}
    (channel? : Option (Channel (κ × Memory))) (device : κ) :
    ∃ after, query.run channel? (graph, device)
        = .ok { query, outcome, route, steps := some final.settled.length }
          (after, device) ∧
      graph.Searched layout pages content final after := by
  obtain ⟨cleared, after, reset, ran, searched⟩ :=
    stores.search_eq hasStart hasGoal finds
  have routed := searched.routeOf_eq stores finds
  have answered : query.runLocal (graph.nodeOf layout (content.slot query.start))
      (graph.nodeOf layout (content.slot query.goal)) cleared
      = .ok { query, outcome, route, steps := some final.settled.length } after := by
    simp only [Query.runLocal, Action.bind_ok ran, Action.bind_ok routed,
      Action.pure_apply]
  refine ⟨after, ?_, searched⟩
  simp only [Query.run,
    Action.bind_ok (Action.onFirst_eq_ok (stores.find_of_mem hasStart)),
    Action.bind_ok (Action.onFirst_eq_ok (stores.find_of_mem hasGoal)),
    Action.bind_ok (Action.onFirst_eq_ok reset)]
  cases mode : query.mode with
  | software => exact Action.onFirst_eq_ok answered
  | softwareOnDevice => exact Action.onFirst_eq_ok answered
  | delegated => exact absurd mode byHost

/-- A query that names an id without a node is answered at once, whoever was to
search. -/
theorem Stores.run_of_not_mem (stores : graph.Stores layout pages content)
    (query : Query) (absent : query.start ∉ content.ids ∨ query.goal ∉ content.ids)
    {κ : Type} (channel? : Option (Channel (κ × Memory))) (device : κ) :
    query.run channel? (graph, device)
      = .ok { query, outcome := .exhausted } (graph, device) := by
  by_cases hasStart : query.start ∈ content.ids
  · have noGoal := absent.resolve_left (not_not_intro hasStart)
    simp only [Query.run,
      Action.bind_ok (Action.onFirst_eq_ok (stores.find_of_mem hasStart)),
      Action.bind_ok (Action.onFirst_eq_ok (stores.find_of_not_mem noGoal)),
      Action.pure_apply]
  · obtain ⟨found, goalFound⟩ : ∃ found, find query.goal graph = .ok found graph :=
      ⟨_, stores.find_eq _⟩
    simp only [Query.run,
      Action.bind_ok (Action.onFirst_eq_ok (stores.find_of_not_mem hasStart)),
      Action.bind_ok (Action.onFirst_eq_ok goalFound), Action.pure_apply]

end Graph

end ArenaPaths
