import ArenaPaths.Proofs.Dijkstra.Moments
import ArenaPaths.Proofs.Histories

/-!
# The labels that a search leaves

What the records of all nodes hold when a search on a graph is over, and in what order
they came to be marked. A search that is stopped after some number of rounds leaves the
records as they are at that moment, so the order in which nodes are settled can be
followed from round to round: they are marked one at a time, each of them once, and by
non-decreasing distance. A distance is the least total of a walk, added up in natural
numbers, as long as it is below the unreached cost.

Main statement: `Graph.search_leaves_distances`.
-/

namespace ArenaPaths

open ArenaPaths.Action Dijkstra

/-! ## Moments in memory -/

namespace Dijkstra.State.ShownBy

variable {terrain : Terrain} {memory : Memory} {state : State} {workspace : Workspace}
  {start goal : Nat} {startRef goalRef : NodeRef}

/-- After any number of rounds, memory shows the machine after as many steps. -/
theorem settle_stepped (sound : terrain.Sound) (holds : terrain.Holds memory)
    (goalInside : goal < terrain.count)
    (goalRefers : goalRef.address = terrain.nodeWord goal)
    (shown : state.ShownBy terrain memory workspace)
    (invariant : Invariant terrain.hops terrain.count start goal state)
    (fits : budget terrain.hops terrain.count state ≤ terrain.capacity)
    (takes : budget terrain.hops terrain.count state ≤ terrain.limit) (rounds : Nat) :
    (stepped terrain.hops goal rounds state).ShownBy terrain memory
      ((Search.settle terrain.window goalRef rounds state.settled.length
        state.improved).outcome workspace).2 := by
  induction rounds generalizing state workspace with
  | zero => exact shown
  | succ rounds ih =>
    obtain ⟨between, shownBetween, ran⟩ | ⟨short, _⟩ :=
      shown.settle_step sound holds invariant fits goalInside goalRefers rounds
    case inr => exact absurd takes (Nat.not_le.mpr short)
    have kept := invariant.step sound.inRange
    rcases taken : step terrain.hops goal state with ⟨_ | outcome, next⟩
    · rw [taken] at shownBetween ran kept
      have less := budget_step_lt invariant.node_lt taken
      rw [stepped_of_none taken, Action.outcome, ran]
      exact ih shownBetween kept (by omega) (by omega)
    · rw [taken] at shownBetween ran
      rw [stepped_of_some taken, outcome_of_ok ran]
      exact shownBetween

/-- The moments of a whole search. -/
theorem run_stepped
    (shown : (State.blank fun _ => ⟨0, start⟩).ShownBy terrain memory workspace)
    (sound : terrain.Sound) (holds : terrain.Holds memory)
    (startInside : start < terrain.count) (goalInside : goal < terrain.count)
    (startRefers : startRef.address = terrain.nodeWord start)
    (goalRefers : goalRef.address = terrain.nodeWord goal)
    (fits : 1 + pending terrain.hops terrain.count [] ≤ terrain.capacity)
    (takes : 1 + pending terrain.hops terrain.count [] ≤ terrain.limit) (rounds : Nat) :
    (stepped terrain.hops goal rounds (initial start fun _ => ⟨0, start⟩)).ShownBy
      terrain memory
      ((Search.runFor rounds terrain.window startRef goalRef).outcome workspace).2 := by
  obtain ⟨opened, shownOpened, ranOpen⟩ | ⟨none, _⟩ :=
    shown.open sound startInside startRefers
      (show 0 < terrain.capacity by omega) goalRef rounds
  case inr => omega
  rw [Action.outcome, ranOpen]
  exact shownOpened.settle_stepped sound holds goalInside goalRefers
    (invariant_initial startInside _)
    (by rw [budget_initial]; exact fits) (by rw [budget_initial]; exact takes) rounds

end Dijkstra.State.ShownBy

/-! ## Distances and the order of settling -/

namespace Multigraph

variable {content : Multigraph} {start id : UInt32} {settled older : List Nat}
  {state : State}

/-- The distance of a node: the least total of a walk there, if that is below the
unreached cost. -/
def Distance (links : List Link) (start id : UInt32) (distance : Nat) : Prop :=
  IsLeast { total | LinkWalk links start id total } distance ∧
  distance < unreached.toNat

theorem Distance.unique {links : List Link} {distance other : Nat}
    (first : Distance links start id distance)
    (second : Distance links start id other) : distance = other :=
  first.1.unique second.1

/-- Walks from a node lead to nodes. -/
theorem mem_ids_of_linkWalk (hasStart : start ∈ content.ids) {total : Nat}
    (walk : LinkWalk content.links start id total) : id ∈ content.ids := by
  cases walk with
  | nil => exact hasStart
  | snoc _ isLink => exact content.target_mem _ isLink

/-- The label of a settled node is its distance. -/
theorem distance_of_settled
    (consistent : Consistent content.hops content.ids.length (content.slot start) state)
    (hasStart : start ∈ content.ids) (present : id ∈ content.ids)
    (isSettled : content.slot id ∈ state.settled) :
    Distance content.links start id (state.cost (content.slot id)).toNat := by
  have reached := consistent.settled_reached _ isSettled
  refine ⟨⟨(hopWalk_iff hasStart present).mp (consistent.walk _ reached), ?_⟩,
    ne_unreached_iff.mp reached⟩
  intro total walk
  exact consistent.least _ isSettled total ((hopWalk_iff hasStart present).mpr walk)

/-- The ids of settled slots in the order in which they were settled. The list of slots
has the newest first. -/
def settledIds (content : Multigraph) (settled : List Nat) : List UInt32 :=
  settled.reverse.map fun slot => content.ids[slot]?.getD 0

theorem length_settledIds (settled : List Nat) :
    (content.settledIds settled).length = settled.length := by
  rw [settledIds, List.length_map, List.length_reverse]

theorem mem_settledIds (inside : ∀ slot ∈ settled, slot < content.ids.length) :
    id ∈ content.settledIds settled ↔ id ∈ content.ids ∧ content.slot id ∈ settled := by
  simp only [settledIds, List.mem_map, List.mem_reverse]
  constructor
  · rintro ⟨slot, member, rfl⟩
    obtain ⟨other, present, rfl⟩ := content.exists_id (inside slot member)
    rw [getElem?_slot present]
    exact ⟨present, member⟩
  · rintro ⟨present, member⟩
    exact ⟨content.slot id, member, by rw [getElem?_slot present]; rfl⟩

/-- A relation between settled slots holds between their ids, the other way round. -/
theorem pairwise_settledIds {relation : Nat → Nat → Prop}
    {byId : UInt32 → UInt32 → Prop}
    (inside : ∀ slot ∈ settled, slot < content.ids.length)
    (related : settled.Pairwise relation)
    (translate : ∀ id ∈ content.ids, ∀ other ∈ content.ids, content.slot id ∈ settled →
      content.slot other ∈ settled → relation (content.slot other) (content.slot id) →
      byId id other) :
    (content.settledIds settled).Pairwise byId := by
  rw [settledIds, List.pairwise_map, List.pairwise_reverse]
  refine List.Pairwise.imp_of_mem ?_ related
  intro newer older newerSettled olderSettled holds
  obtain ⟨id, present, rfl⟩ := content.exists_id (inside older olderSettled)
  obtain ⟨other, otherPresent, rfl⟩ := content.exists_id (inside newer newerSettled)
  rw [getElem?_slot present, getElem?_slot otherPresent]
  exact translate id present other otherPresent olderSettled newerSettled holds

/-- What was settled first comes first. -/
theorem take_settledIds (suffix : older <:+ settled) :
    (content.settledIds settled).take older.length = content.settledIds older := by
  obtain ⟨newer, rfl⟩ := suffix
  rw [settledIds, List.reverse_append, List.map_append,
    List.take_left' (by rw [List.length_map, List.length_reverse]), settledIds]

end Multigraph

/-! ## Rounds on a graph -/

namespace Graph

open Multigraph

variable {graph after : Graph} {layout : Layout} {pages : Nat → List Nat}
  {content : Multigraph} {start goal id : UInt32} {record : Node} {state : State}

/-- Search for at most the given number of rounds. -/
def searchWithin (rounds : Nat) (start goal : NodeRef) : Action Graph SearchReport := do
  onWorkspace (Search.runFor rounds (← get).arena.window start goal)

theorem search_eq_searchWithin (start goal : NodeRef) :
    search start goal = searchWithin Search.searchFuel start goal := by
  rw [search, searchWithin, Search.run_eq_runFor]

/-- The graph as it is after the given number of rounds of a search. -/
def afterRounds (graph : Graph) (start goal : NodeRef) (rounds : Nat) : Graph :=
  ((searchWithin rounds start goal).outcome graph).2

/-- The last moment of a search is what it leaves. -/
theorem afterRounds_searchFuel {startNode goalNode : NodeRef} {report : SearchReport}
    (ran : search startNode goalNode graph = .ok report after) :
    graph.afterRounds startNode goalNode Search.searchFuel = after := by
  rw [afterRounds, ← search_eq_searchWithin, outcome_of_ok ran]

theorem afterRounds_eq {startNode goalNode : NodeRef} {rounds entries : Nat}
    {ended : Workspace}
    (ran : ((Search.runFor rounds graph.arena.window startNode goalNode).outcome
      ⟨graph.frontier, graph.memory⟩).2 = ended)
    (frontier_eq : ended.frontier = { graph.frontier with size := entries }) :
    graph.afterRounds startNode goalNode rounds
      = graph.withSearch ended.memory entries := by
  have opened : (searchWithin rounds startNode goalNode).outcome graph
      = (onWorkspace (Search.runFor rounds graph.arena.window startNode
        goalNode)).outcome graph := by
    simp only [outcome, searchWithin, get_bind_apply]
  change ((Search.runFor rounds graph.arena.window startNode goalNode).outcome
    ⟨graph.frontier, graph.arena.memory⟩).2 = ended at ran
  rw [afterRounds, opened, onWorkspace, outcome_focus, ran, frontier_eq]
  rfl

/-- From unsearched records and an empty frontier, the records after any number of
rounds are those of the machine after as many steps. -/
theorem Stores.searched_rounds (stores : graph.Stores layout pages content)
    (hasStart : start ∈ content.ids) (hasGoal : goal ∈ content.ids)
    (unsearched : Unsearched (graph.terrain layout pages content) graph.memory)
    (empty : graph.frontier.size = 0) (rounds : Nat) :
    graph.Searched layout pages content
      (stepped content.hops (content.slot goal) rounds
        (initial (content.slot start) fun _ => ⟨0, content.slot start⟩))
      (graph.afterRounds (graph.nodeOf layout (content.slot start))
        (graph.nodeOf layout (content.slot goal))
        rounds) := by
  have within : graph.arena.window.Within graph.arena.window := .refl _
  have fits := stores.room
  rw [← content.pending_hops] at fits
  have takes : 1 + pending content.hops content.ids.length []
      ≤ graph.frontier.capacity := by
    rw [stores.frontierCapacity_eq]
    exact fits
  have shown :=
    (stores.shownBy_blank within unsearched graph.frontier.capacity _).run_stepped
    (stores.terrain_sound.through within stores.arena_sound.window_sound)
      (stores.terrain_holds.through within)
    (slot_lt_iff.mpr hasStart) (slot_lt_iff.mpr hasGoal)
      (stores.address_nodeOf_through within hasStart)
    (stores.address_nodeOf_through within hasGoal) fits takes rounds
  have frontier_eq : (⟨graph.frontier.base, graph.frontier.capacity, 0⟩ : Frontier)
      = graph.frontier := by
    rw [← empty]
  rw [frontier_eq] at shown
  rw [afterRounds_eq rfl (stores.frontier_eq_of_shownBy within shown)]
  refine ⟨rfl, shown.same, fun slot inside => ?_⟩
  rw [← State.record_through within]
  exact shown.record_eq slot inside

/-! ## Records by id -/

/-- The node of an id has the given record. -/
def HasRecord (graph : Graph) (id : UInt32) (record : Node) : Prop :=
  ∃ node, find id graph = .ok (some node) graph ∧
    nodeRecord node graph = .ok record graph

theorem Stores.hasRecord (stores : graph.Stores layout pages content)
    (present : id ∈ content.ids) :
    graph.HasRecord id (Record.read graph.memory (layout.nodeAt (content.slot id))) :=
  ⟨_, stores.find_of_mem present, stores.nodeRecord_nodeOf (slot_lt_iff.mpr present)⟩

/-- After a search the records are those of the state in which it has ended. -/
theorem Searched.hasRecord (searched : graph.Searched layout pages content state after)
    (stores : graph.Stores layout pages content) (present : id ∈ content.ids) :
    after.HasRecord id (state.record (graph.terrain layout pages content) graph.memory
      (content.slot id)) := by
  rw [← searched.record_eq _ (slot_lt_iff.mpr present)]
  exact (searched.stores stores).hasRecord present

/-! ## What a search leaves -/

/-- A search settles nodes one at a time in the given order, with `settled` the number
of those that it has settled after any number of rounds: the nodes that are marked by
then are the first ones. A round in which none is settled changes no record. -/
structure SettlesInOrder (graph : Graph) (start goal : NodeRef) (order : List UInt32)
    (settled : Nat → Nat) : Prop where
  settled_zero : settled 0 = 0
  settled_succ : ∀ rounds, settled (rounds + 1) = settled rounds ∨
    settled (rounds + 1) = settled rounds + 1
  settled_end : settled Search.searchFuel = order.length
  marked_iff : ∀ rounds id, graph.Has id →
    ∃ record, (graph.afterRounds start goal rounds).HasRecord id record ∧
    (record.isVisited = true ↔ id ∈ order.take (settled rounds))
  idle : ∀ rounds, settled (rounds + 1) = settled rounds → ∀ id, graph.Has id →
    ∃ record,
    (graph.afterRounds start goal rounds).HasRecord id record ∧
    (graph.afterRounds start goal (rounds + 1)).HasRecord id record

/-- What a search with the given report has left in the records of a graph after it has
settled nodes in the given order. -/
structure Labelled (graph after : Graph) (links : List Link) (start goal : UInt32)
    (report : SearchReport) (order : List UInt32) : Prop where
  nodup : order.Nodup
  sorted :
    order.Pairwise fun earlier later => ∀ near far, Distance links start earlier near →
    Distance links start later far → near ≤ far
  steps_eq : report.steps = order.length
  settled : ∀ id ∈ order, ∃ record, after.HasRecord id record ∧
    record.isVisited = true ∧
    Distance links start id record.cost.toNat
  ending :
    match report.outcome with
    | .found cost =>
      Distance links start goal cost.toNat ∧
      (∀ id distance, Distance links start id distance → distance < cost.toNat →
          id ∈ order) ∧
      (∀ id ∈ order, ∀ distance, Distance links start id distance →
          distance ≤ cost.toNat) ∧
      ∀ id, graph.Has id → id ∉ order → ∃ record, after.HasRecord id record ∧
        record.isVisited = false ∧
        (record.cost = unreached ∨ LinkWalk links start id record.cost.toNat)
    | .exhausted =>
      (∀ id, id ∈ order ↔ ∃ distance, Distance links start id distance) ∧
      ∀ id, graph.Has id → id ∉ order → ∃ record, after.HasRecord id record ∧
        record.isVisited = false ∧
        record.cost = unreached ∧ record.parent = nullAddress

section Ending

variable {outcome : Outcome} {route : List RouteStep} {final : State}

/-- The nodes are settled in the order that the final state tells. -/
theorem Stores.settlesInOrder (stores : graph.Stores layout pages content)
    (hasStart : start ∈ content.ids) (hasGoal : goal ∈ content.ids)
    (unsearched : Unsearched (graph.terrain layout pages content) graph.memory)
    (empty : graph.frontier.size = 0)
    (finds : content.Finds start goal outcome route final) :
    ∃ settled, graph.SettlesInOrder (graph.nodeOf layout (content.slot start))
      (graph.nodeOf layout (content.slot goal))
        (content.settledIds final.settled) settled := by
  have invariant :
      Invariant content.hops content.ids.length (content.slot start) (content.slot goal)
      (initial (content.slot start) fun _ => ⟨0, content.slot start⟩) :=
        invariant_initial (slot_lt_iff.mpr hasStart) _
  have following := fun rounds =>
    settled_stepped_succ content.hops (content.slot goal) rounds
    (initial (content.slot start) fun _ => ⟨0, content.slot start⟩)
  have searched := stores.searched_rounds hasStart hasGoal unsearched empty
  refine ⟨fun rounds => (stepped content.hops (content.slot goal) rounds
    (initial (content.slot start) fun _ => ⟨0, content.slot start⟩)).settled.length,
    rfl, ?_, ?_, ?_, ?_⟩
  · intro rounds
    rcases following rounds with same | ⟨node, newer⟩
    · exact .inl (by rw [same.settled_eq])
    · exact .inr (by rw [newer, List.length_cons])
  · rw [length_settledIds, stepped_of_run finds.search_eq (Nat.le_refl _)]
  · intro rounds id isNode
    have present := stores.has_iff.mp isNode
    have consistent := invariant.stepped content.inRange rounds
    -- the final list has the newest first, so what is settled by now is its end and
    -- comes first in the order
    have suffix :=
      settled_stepped_suffix content.hops (content.slot goal) rounds Search.searchFuel
      (initial (content.slot start) fun _ => ⟨0, content.slot start⟩)
    rw [stepped_of_run finds.search_eq (Nat.le_add_left _ _)] at suffix
    refine ⟨_, (searched rounds).hasRecord stores present, ?_⟩
    rw [take_settledIds suffix, mem_settledIds consistent.settled_lt,
      State.ShownBy.isVisited_record]
    exact ⟨fun isSettled => ⟨present, isSettled⟩, fun both => both.2⟩
  · intro rounds none id isNode
    have present := stores.has_iff.mp isNode
    rcases following rounds with same | ⟨node, newer⟩
    · have after := (searched (rounds + 1)).hasRecord stores present
      rw [State.record, same.parent_eq, same.cost_eq, same.settled_eq] at after
      exact ⟨_, (searched rounds).hasRecord stores present, after⟩
    · -- a node was settled, so the number has grown
      rw [newer, List.length_cons] at none
      omega

/-- The records of the state in which a search has ended hold the distances. -/
theorem Searched.labelled (searched : graph.Searched layout pages content final after)
    (stores : graph.Stores layout pages content) (hasStart : start ∈ content.ids)
    (hasGoal : goal ∈ content.ids)
    (finds : content.Finds start goal outcome route final) :
    graph.Labelled after content.links start goal
      ⟨outcome, final.settled.length, final.improved⟩
      (content.settledIds final.settled) := by
  have concluded := finds.concluded
  have member_iff : ∀ {id}, id ∈ content.settledIds final.settled ↔
      id ∈ content.ids ∧ content.slot id ∈ final.settled :=
        mem_settledIds concluded.settled_lt
  have distance : ∀ id ∈ content.ids, content.slot id ∈ final.settled →
      Distance content.links start id (final.cost (content.slot id)).toNat :=
    fun id present isSettled =>
      distance_of_settled concluded.toConsistent hasStart present isSettled
  have unsettled : ∀ id, graph.Has id → id ∉ content.settledIds final.settled →
      id ∈ content.ids ∧ content.slot id ∉ final.settled ∧
      (final.record (graph.terrain layout pages content) graph.memory
        (content.slot id)).isVisited = false := by
    intro id isNode absent
    have present := stores.has_iff.mp isNode
    have isOpen : content.slot id ∉ final.settled := fun isSettled =>
      absent (member_iff.mpr ⟨present, isSettled⟩)
    exact ⟨present, isOpen,
      Bool.eq_false_iff.mpr (mt State.ShownBy.isVisited_record.mp isOpen)⟩
  constructor
  case nodup =>
    apply pairwise_settledIds concluded.settled_lt concluded.settled_nodup
    intro id _ other _ _ _ different same
    exact different (by rw [same])
  case sorted =>
    apply pairwise_settledIds concluded.settled_lt concluded.sorted
    intro id present other otherPresent isSettled otherSettled ordered near far isNear
      isFar
    rw [isNear.unique (distance id present isSettled),
      isFar.unique (distance other otherPresent otherSettled)]
    exact ordered
  case steps_eq => exact (length_settledIds _).symm
  case settled =>
    intro id member
    obtain ⟨present, isSettled⟩ := member_iff.mp member
    exact ⟨_, searched.hasRecord stores present,
      State.ShownBy.isVisited_record.mpr isSettled, distance id present isSettled⟩
  case ending =>
    cases outcome with
    | found cost =>
      obtain ⟨walkToGoal, reached, least⟩ := concluded.isLeast
      refine ⟨⟨⟨(hopWalk_iff hasStart hasGoal).mp walkToGoal, ?_⟩,
          ne_unreached_iff.mp reached⟩, ?_, ?_, ?_⟩
      · intro total walk
        exact least total ((hopWalk_iff hasStart hasGoal).mpr walk)
      · intro id near isNear less
        have present := mem_ids_of_linkWalk hasStart isNear.1.1
        exact member_iff.mpr
          ⟨present, (concluded.settled_of_lt
            ((hopWalk_iff hasStart present).mpr isNear.1.1) less).1⟩
      · intro id member near isNear
        obtain ⟨present, isSettled⟩ := member_iff.mp member
        rw [isNear.unique (distance id present isSettled)]
        exact concluded.cost_le_found isSettled
      · intro id isNode absent
        obtain ⟨present, _, unmarked⟩ := unsettled id isNode absent
        refine ⟨_, searched.hasRecord stores present, unmarked, ?_⟩
        by_cases labelled : final.cost (content.slot id) = unreached
        · exact .inl labelled
        · exact .inr ((hopWalk_iff hasStart present).mp (concluded.walk _ labelled))
    | exhausted =>
      refine ⟨?_, ?_⟩
      · intro id
        rw [member_iff]
        constructor
        · rintro ⟨present, isSettled⟩
          exact ⟨_, distance id present isSettled⟩
        · rintro ⟨near, isNear⟩
          have present := mem_ids_of_linkWalk hasStart isNear.1.1
          refine ⟨present, ?_⟩
          -- with an empty frontier, whatever is not settled is too far for a cost
          by_contra isOpen
          have far := concluded.no_walk_of_open isOpen
              ((hopWalk_iff hasStart present).mpr isNear.1.1)
          exact absurd isNear.2 (Nat.not_lt.mpr far)
      · intro id isNode absent
        obtain ⟨present, isOpen, unmarked⟩ := unsettled id isNode absent
        have blank := concluded.unreached_of_open isOpen
        refine ⟨_, searched.hasRecord stores present, unmarked, blank, ?_⟩
        rw [State.record, concluded.parent_eq_none _ blank]
        rfl

end Ending

/-- After a reset, a search between two nodes of a graph that a program can hold
succeeds, whatever earlier queries and accelerators have left in the bytes of searches
(`Built` lets accelerators write no others). It settles nodes one at a time and by
non-decreasing distance, each of them once, it counts them, and it leaves their
distances in the records. If it runs out of entries, it has settled all nodes that have
a distance, and the others are as after the reset. If it finds the goal, it has settled
all nodes nearer than the goal and none farther, and the labels of the others are totals
of walks. -/
theorem search_leaves_distances {links : List Link} (built : Built graph links)
    {startNode goalNode : NodeRef}
    (foundStart : find start graph = .ok (some startNode) graph)
    (foundGoal : find goal graph = .ok (some goalNode) graph) :
    ∃ cleared report after order settled,
      resetSearch graph = .ok () cleared ∧ (∀ id, cleared.Has id ↔ graph.Has id) ∧
      search startNode goalNode cleared = .ok report after ∧
      cleared.afterRounds startNode goalNode Search.searchFuel = after ∧
      cleared.SettlesInOrder startNode goalNode order settled ∧
      graph.Labelled after links start goal report order := by
  obtain ⟨layout, pages, content, stores, rfl⟩ := built.stores
  obtain ⟨hasStart, rfl, _⟩ := stores.of_find_eq_some foundStart
  obtain ⟨hasGoal, rfl, _⟩ := stores.of_find_eq_some foundGoal
  obtain ⟨outcome, route, final, finds⟩ :
      ∃ outcome route final, content.Finds start goal outcome route final :=
    stores.exists_finds hasStart
  obtain ⟨memory, reset, same, unsearched, firstPages⟩ := stores.resetSearch_eq
  have storesCleared := stores.searched same firstPages 0
  obtain ⟨cleared, after, resetAgain, ran, searched⟩ :=
    stores.search_eq hasStart hasGoal finds
  obtain rfl : graph.withSearch memory 0 = cleared := by
    rw [reset] at resetAgain
    cases resetAgain
    rfl
  obtain ⟨settled, inOrder⟩ :=
    storesCleared.settlesInOrder hasStart hasGoal unsearched rfl finds
  refine ⟨_, _, after, _, settled, reset, ?_, ran, afterRounds_searchFuel ran, inOrder,
    searched.labelled stores hasStart hasGoal finds⟩
  intro id
  rw [storesCleared.has_iff, stores.has_iff]

/-- Three nodes can be reached and are settled in as many steps, although one of them is
offered twice; the goal is none of them. -/
theorem search_leaves_distances_past_stale_entry :
    ∃ graph startNode goalNode,
      Built graph [⟨1, 2, 10⟩, ⟨1, 3, 1⟩, ⟨3, 2, 2⟩, ⟨4, 1, 0⟩] ∧
      find 1 graph = .ok (some startNode) graph ∧
      find 4 graph = .ok (some goalNode) graph ∧
      ∃ cleared after order settled,
        resetSearch graph = .ok () cleared ∧ (∀ id, cleared.Has id ↔ graph.Has id) ∧
        search startNode goalNode cleared = .ok ⟨.exhausted, 3, 3⟩ after ∧
        cleared.afterRounds startNode goalNode Search.searchFuel = after ∧
        cleared.SettlesInOrder startNode goalNode order settled ∧
        graph.Labelled after [⟨1, 2, 10⟩, ⟨1, 3, 1⟩, ⟨3, 2, 2⟩, ⟨4, 1, 0⟩] 1 4
          ⟨.exhausted, 3, 3⟩ order := by
  obtain ⟨graph, built, isStart, isGoal, reported⟩ :
      ∃ graph, Built graph [⟨1, 2, 10⟩, ⟨1, 3, 1⟩, ⟨3, 2, 2⟩, ⟨4, 1, 0⟩] ∧
        (find 1).result graph = .ok (some (.ofWord 0x10000040)) ∧
        (find 4).result graph = .ok (some (.ofWord 0x10000070)) ∧
        (resetSearch >>= fun _ =>
          search (.ofWord 0x10000040) (.ofWord 0x10000070)).result graph
          = .ok ⟨.exhausted, 3, 3⟩ :=
    exists_built ⟨.heap, 0x10000000, 65536, .zeros⟩ 64 ⟨4, 4, .dense 9⟩
      [.addEdge ⟨1, 2, 10⟩, .addEdge ⟨1, 3, 1⟩, .addEdge ⟨3, 2, 2⟩,
        .addEdge ⟨4, 1, 0⟩] (by decide +kernel)
  obtain ⟨⟨startNode, foundStart⟩, _⟩ :=
    built.has_ends (show (⟨1, 2, 10⟩ : Link) ∈ _ by decide)
  obtain ⟨⟨goalNode, foundGoal⟩, _⟩ :=
    built.has_ends (show (⟨4, 1, 0⟩ : Link) ∈ _ by decide)
  rw [result_of_ok foundStart] at isStart
  rw [result_of_ok foundGoal] at isGoal
  cases isStart
  cases isGoal
  obtain ⟨cleared, report, after, order, settled, reset, nodes, ran, last, inOrder,
      labelled⟩ :=
    search_leaves_distances built foundStart foundGoal
  obtain rfl : report = ⟨.exhausted, 3, 3⟩ := by
    rw [result_of_ok ((bind_ok reset).trans ran)] at reported
    cases reported
    rfl
  exact ⟨graph, _, _, built, foundStart, foundGoal, cleared, after, order, settled,
    reset, nodes, ran, last, inOrder, labelled⟩

end Graph

end ArenaPaths
