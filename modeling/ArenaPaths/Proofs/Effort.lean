import ArenaPaths.Proofs.Histories

/-!
# The effort of a search

A search settles a node at most once, so it looks at every edge at most once and
improves at most one label on the way. Every improvement is one entry of the frontier,
and the start is one more: the frontier of a graph has room for all of them. Hence the
host answers every query on every graph that a program can hold.
-/

namespace ArenaPaths

/-! ## Improvements -/

namespace Dijkstra

variable {hops : Nat → List Hop} {count start goal : Nat} {state final : State}
  {outcome : Outcome}

theorem improved_relaxHop_le (state : State) (current : Nat) (cost : UInt32)
    (hop : Hop) :
    (relaxHop current cost state hop).improved ≤ state.improved + 1 := by
  rw [relaxHop]
  split
  · exact Nat.le_refl _
  · exact Nat.le_succ _

theorem improved_relaxHops_le (state : State) (current : Nat) (cost : UInt32)
    (arcs : List Hop) :
    (relaxHops current cost arcs state).improved ≤ state.improved + arcs.length := by
  induction arcs generalizing state with
  | nil => exact Nat.le_refl _
  | cons hop rest ih =>
    have first := improved_relaxHop_le state current cost hop
    have more := ih (relaxHop current cost state hop)
    rw [relaxHops_cons, List.length_cons]
    omega

/-- What bounds the improvements of a search: those that were made, and arcs from which
another one may come. -/
def effort (hops : Nat → List Hop) (count : Nat) (state : State) : Nat :=
  state.improved + pending hops count state.settled

/-- A step makes an improvement only for an arc that is looked at for the first and last
time. -/
theorem effort_step_le (hops : Nat → List Hop) (goal : Nat)
    (bounded : ∀ offer ∈ state.offers, offer.node < count) :
    effort hops count (step hops goal state).2 ≤ effort hops count state := by
  rcases step_cases hops goal state with
    ⟨_, ended⟩ | ⟨_, _, dropped⟩ | ⟨positive, fresh, rfl, ended⟩ |
    ⟨positive, fresh, _, settled⟩
  · rw [ended]
  · rw [dropped]
    exact Nat.le_refl _
  · have fewer := pending_cons hops (bounded _ (heap_one_mem_offers positive)) fresh
    simp only [ended, effort, State.improved_settle, State.improved_pop,
      State.settled_settle, State.settled_pop]
    omega
  · -- the arcs that are relaxed now are pending no longer
    have fewer := pending_cons hops (bounded _ (heap_one_mem_offers positive)) fresh
    have made :=
      improved_relaxHops_le (state.pop.settle (state.heap 1).node) (state.heap 1).node
      (state.cost (state.heap 1).node) (hops (state.heap 1).node)
    simp only [State.improved_settle, State.improved_pop] at made
    simp only [settled, effort, settled_relaxHops, State.settled_settle,
      State.settled_pop]
    omega

/-- All of the steps of a search together improve no more labels than there were arcs to
look at. -/
theorem Invariant.effort_run_le (invariant : Invariant hops count start goal state)
    (inRange : InRange hops count) {fuel : Nat}
    (ran : Dijkstra.run hops goal fuel state = some (outcome, final)) :
    effort hops count final ≤ effort hops count state := by
  induction fuel generalizing state with
  | zero => cases ran
  | succ fuel ih =>
    have kept := invariant.step inRange
    have here := effort_step_le hops goal invariant.node_lt
    rw [Dijkstra.run] at ran
    rcases taken : Dijkstra.step hops goal state with ⟨_ | ended, after⟩
    · rw [taken] at kept here ran
      exact Nat.le_trans (ih kept ran) here
    · rw [taken] at here ran
      cases ran
      exact here

theorem improved_search_le (inRange : InRange hops count) (inside : start < count)
    (searched : search hops start goal = some (outcome, final)) :
    final.improved ≤ pending hops count [] := by
  have invariant : Invariant hops count start goal
      (initial start fun _ => ⟨0, start⟩) := invariant_initial inside _
  have bound := invariant.effort_run_le inRange searched
  have initially : effort hops count (initial start fun _ => ⟨0, start⟩)
      = 0 + pending hops count [] := rfl
  rw [initially, effort] at bound
  omega

end Dijkstra

namespace Multigraph

variable {content : Multigraph} {start goal : UInt32} {outcome : Outcome}
  {route : List RouteStep} {final : Dijkstra.State}

/-- A search improves at most one label for every edge. -/
theorem Finds.improved_le (finds : content.Finds start goal outcome route final)
    (hasStart : start ∈ content.ids) :
    final.improved ≤ content.links.length := by
  rw [← content.pending_hops]
  exact Dijkstra.improved_search_le content.inRange
    (slot_lt_iff.mpr hasStart) finds.search_eq

end Multigraph

/-! ## Room -/

namespace Graph

variable {graph : Graph} {layout : Layout}

/-- The frontier is so small against the addresses that the number of a child of any of
its slots is a word. -/
theorem LaidOut.children_lt (laidOut : graph.LaidOut layout) :
    2 * graph.frontier.capacity + 1 < 2 ^ 32 := by
  have fits : graph.arena.base.toNat + graph.arena.capacity ≤ 2 ^ 32 :=
    laidOut.arena_sound.base_add_capacity_le
  have inside := laidOut.arena_sound.used_le_capacity
  have last := laidOut.frontier_le
  rw [laidOut.used_eq] at inside
  rw [laidOut.frontierCapacity_eq]
  omega

end Graph

namespace Query

open ArenaPaths.Graph

variable {graph : Graph} {links : List Link} {κ : Type}

/-- The host answers every query on a graph that a program can hold, also after queries
over accelerators that wrote no more than bytes of searches. Its frontier has the slots
that the bounds of the graph ask for, all with numbers that are words; a search puts one
entry there for the start and at most one for every edge, and settles no more nodes than
there are. -/
theorem run_succeeds (built : Built graph links) (query : Query)
    (byHost : query.mode ≠ .delegated) (channel? : Option (Channel (κ × Memory)))
    (device : κ) :
    graph.frontier.capacity
      = max graph.config.nodeBound (min (graph.config.edgeBound + 1) (2 ^ 32 - 1)) ∧
    2 * graph.frontier.capacity + 1 < 2 ^ 32 ∧
    1 + graph.edgeCount ≤ graph.frontier.capacity ∧
    ∃ answer after, query.run channel? (graph, device) = .ok answer (after, device) ∧
      ∀ start goal, find query.start graph = .ok (some start) graph →
        find query.goal graph = .ok (some goal) graph →
        ∃ cleared report searched,
          resetSearch graph = .ok () cleared ∧
          search start goal cleared = .ok report searched ∧
          answer.outcome = report.outcome ∧ answer.steps = some report.steps ∧
          report.steps ≤ graph.nodeCount ∧ report.relaxations ≤ graph.edgeCount := by
  obtain ⟨_, _, content, stores, rfl⟩ := built.stores
  have room := stores.room
  rw [← stores.edgeCount_eq, ← stores.frontierCapacity_eq] at room
  refine ⟨stores.frontierCapacity_eq, stores.children_lt, room, ?_⟩
  by_cases present : query.start ∈ content.ids ∧ query.goal ∈ content.ids
  · obtain ⟨hasStart, hasGoal⟩ := present
    obtain ⟨outcome, route, final, finds⟩ := stores.exists_finds hasStart
    obtain ⟨after, answered, _⟩ :=
      stores.run_software query hasStart hasGoal finds byHost channel? device
    refine ⟨_, after, answered, ?_⟩
    intro start goal foundStart foundGoal
    obtain ⟨_, rfl, _⟩ := stores.of_find_eq_some foundStart
    obtain ⟨_, rfl, _⟩ := stores.of_find_eq_some foundGoal
    obtain ⟨cleared, searched, reset, ran, _⟩ := stores.search_eq hasStart hasGoal finds
    refine ⟨cleared, _, searched, reset, ran, rfl, rfl, ?_, ?_⟩
    · rw [stores.nodeCount_eq]
      exact finds.concluded.length_settled_le
    · rw [stores.edgeCount_eq]
      exact finds.improved_le hasStart
  · refine ⟨_, graph,
      stores.run_of_not_mem query (not_and_or.mp present) channel? device, ?_⟩
    intro start goal foundStart foundGoal
    exact absurd ⟨(stores.of_find_eq_some foundStart).1,
      (stores.of_find_eq_some foundGoal).1⟩ present

/-- In an arena whose last byte has the last address, a search from a node with two
edges to the same other one puts three entries in a frontier of three slots. -/
theorem run_succeeds_up_to_last_address :
    ∃ graph, Built graph [⟨1, 2, 9⟩, ⟨1, 2, 5⟩] ∧
      graph.arena.base.toNat + graph.arena.capacity = 2 ^ 32 ∧
      graph.frontier.capacity = 3 ∧
      ∃ answer after, (⟨1, 2, .softwareOnDevice⟩ : Query).run (κ := Unit) none
        (graph, ()) = .ok answer (after, ()) ∧
        answer.outcome = .found 5 ∧ answer.route = [⟨1, 0⟩, ⟨2, 5⟩] := by
  obtain ⟨graph, built, ends, slots, evaluated⟩ :
      ∃ graph, Built graph [⟨1, 2, 9⟩, ⟨1, 2, 5⟩] ∧
      graph.arena.base.toNat + graph.arena.capacity = 2 ^ 32 ∧
      graph.frontier.capacity = 3 ∧
      (((⟨1, 2, .softwareOnDevice⟩ : Query).run (κ := Unit) none).result
        (graph, ())).map
        (fun answer => (answer.outcome, answer.route))
          = .ok (.found 5, [⟨1, 0⟩, ⟨2, 5⟩]) :=
    exists_built ⟨.heap, 0xFFFFF000, 4096, .zeros⟩ 64 ⟨2, 2, .hashed 1⟩
      [.addEdge ⟨1, 2, 9⟩, .addEdge ⟨1, 2, 5⟩] (by decide +kernel)
  obtain ⟨_, _, _, answer, after, answered, _⟩ :=
    run_succeeds built ⟨1, 2, .softwareOnDevice⟩ (by decide)
    (none : Option (Channel (Unit × Memory))) ()
  rw [Action.result_of_ok answered, Except.map, Except.ok.injEq] at evaluated
  exact ⟨graph, built, ends, slots, answer, after, answered, Prod.mk.inj evaluated⟩

end Query

end ArenaPaths
