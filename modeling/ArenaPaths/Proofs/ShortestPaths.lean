import ArenaPaths.Proofs.Histories

/-!
# Shortest paths

What the host answers to a query on a graph that a program can hold, by the edges that
were added to it: the cost of a goal is the least total of a walk there, added up in
natural numbers, and the route is such a walk without a node that comes twice. Costs
that stop at the greatest number neither beat a true one nor hide a walk whose total
they can hold.

The graph may have been queried before, as `Built` says: by the host, and over
accelerators that wrote no more than bytes of searches.

Main statements: `Query.run_finds_least` and `Query.run_gives_route`.
-/

namespace ArenaPaths.Query

open ArenaPaths.Graph Multigraph

variable {graph : Graph} {links : List Link} {κ : Type}

/-- On a graph that a program can hold, whatever was asked for before as long as
accelerators wrote no more than bytes of searches, the host finds the goal exactly if a
walk leads there whose total is below the unreached cost, and the cost that it answers
is the least total of all walks there. -/
theorem run_finds_least (built : Built graph links) (query : Query)
    (byHost : query.mode ≠ .delegated) (hasStart : graph.Has query.start)
    (hasGoal : graph.Has query.goal) (channel? : Option (Channel (κ × Memory)))
    (device : κ) :
    ∃ answer after, query.run channel? (graph, device) = .ok answer (after, device) ∧
      ((∃ cost, answer.outcome = .found cost) ↔
        ∃ total, LinkWalk links query.start query.goal total ∧ total ≤ 2 ^ 32 - 2) ∧
      (∀ cost, answer.outcome = .found cost →
        IsLeast { total | LinkWalk links query.start query.goal total } cost.toNat) ∧
      (answer.outcome = .exhausted ↔
        ∀ total, LinkWalk links query.start query.goal total → 2 ^ 32 - 1 ≤ total) := by
  obtain ⟨_, _, content, stores, rfl⟩ := built.stores
  rw [stores.has_iff] at hasStart hasGoal
  obtain ⟨outcome, route, final, finds⟩ := stores.exists_finds hasStart
  obtain ⟨after, answered, _⟩ :=
    stores.run_software query hasStart hasGoal finds byHost channel? device
  refine ⟨_, after, answered, ?_⟩
  have spec := finds.outcome_spec hasStart hasGoal
  cases outcome with
  | found cost =>
    obtain ⟨reached, least⟩ := spec
    rw [Dijkstra.ne_unreached_iff] at reached
    change cost.toNat < 2 ^ 32 - 1 at reached
    refine ⟨⟨fun _ => ⟨cost.toNat, least.1, by omega⟩, fun _ => ⟨cost, rfl⟩⟩, ?_, ?_⟩
    · rintro other ⟨⟩
      exact least
    · refine ⟨fun exhausted => absurd exhausted (by simp), fun none => ?_⟩
      have tooLarge := none cost.toNat least.1
      omega
  | exhausted =>
    change ∀ total, LinkWalk content.links query.start query.goal total →
      2 ^ 32 - 1 ≤ total at spec
    refine ⟨⟨?_, ?_⟩, ?_, fun _ => spec, fun _ => rfl⟩
    · rintro ⟨cost, ⟨⟩⟩
    · rintro ⟨total, walk, small⟩
      have tooLarge := spec total walk
      omega
    · rintro cost ⟨⟩

/-- Over an edge of cost five the goal is found. -/
theorem run_finds_least_of_link :
    ∃ graph, Built graph [⟨1, 2, 5⟩] ∧ graph.Has 1 ∧ graph.Has 2 ∧
      ∃ answer after, (⟨1, 2, .software⟩ : Query).run (κ := Unit) none (graph, ())
        = .ok answer (after, ()) ∧
        ∃ cost, answer.outcome = .found cost := by
  obtain ⟨graph, built, _, _⟩ := exists_built_of_link
  obtain ⟨hasStart, hasGoal⟩ := built.has_ends List.mem_cons_self
  obtain ⟨answer, after, answered, found_iff, _, _⟩ :=
    run_finds_least built ⟨1, 2, .software⟩ (by decide) hasStart hasGoal
      (none : Option (Channel (Unit × Memory))) ()
  have walk : LinkWalk [⟨1, 2, 5⟩] 1 2 (0 + (5 : UInt32).toNat) :=
    .snoc .nil List.mem_cons_self
  exact ⟨graph, built, hasStart, hasGoal, answer, after, answered,
    found_iff.mpr ⟨_, walk, by decide⟩⟩

/-- The host answers every query on a graph that a program can hold, earlier queries as
for the least cost. Its route goes from the start at no cost to the goal at the cost
that was found, by pairwise different nodes, over edges of exactly the costs between its
steps. There is no route to a goal that was not found. -/
theorem run_gives_route (built : Built graph links) (query : Query)
    (byHost : query.mode ≠ .delegated) (channel? : Option (Channel (κ × Memory)))
    (device : κ) :
    ∃ answer after, query.run channel? (graph, device) = .ok answer (after, device) ∧
      match answer.outcome with
      | .found cost => IsRoute links query.start query.goal cost answer.route
      | .exhausted => answer.route = [] := by
  obtain ⟨_, _, content, stores, rfl⟩ := built.stores
  by_cases present : query.start ∈ content.ids ∧ query.goal ∈ content.ids
  · obtain ⟨hasStart, hasGoal⟩ := present
    obtain ⟨outcome, route, final, finds⟩ := stores.exists_finds hasStart
    obtain ⟨after, answered, _⟩ :=
      stores.run_software query hasStart hasGoal finds byHost channel? device
    refine ⟨_, after, answered, ?_⟩
    cases outcome with
    | found cost => exact finds.isRoute hasStart hasGoal
    | exhausted => exact finds.route_eq
  · exact ⟨_, graph,
      stores.run_of_not_mem query (not_and_or.mp present) channel? device, rfl⟩

/-- Over an edge of cost five the route has two steps. -/
theorem run_gives_route_of_link :
    ∃ graph, Built graph [⟨1, 2, 5⟩] ∧
      ((⟨1, 2, .software⟩ : Query).run (κ := Unit) none).result (graph, ())
        = .ok
          { query := ⟨1, 2, .software⟩, outcome := .found 5,
            route := [⟨1, 0⟩, ⟨2, 5⟩], steps := some 2 } ∧
      IsRoute [⟨1, 2, 5⟩] 1 2 5 [⟨1, 0⟩, ⟨2, 5⟩] := by
  obtain ⟨graph, built, _, evaluated⟩ := exists_built_of_link
  obtain ⟨answer, after, answered, valid⟩ :=
    run_gives_route built ⟨1, 2, .software⟩ (by decide)
    (none : Option (Channel (Unit × Memory))) ()
  refine ⟨graph, built, evaluated, ?_⟩
  rw [Action.result_of_ok answered, Except.ok.injEq] at evaluated
  rw [evaluated] at valid
  exact valid

end ArenaPaths.Query
