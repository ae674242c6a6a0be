import ArenaPaths.Proofs.Replies

/-!
# Layouts

Where a graph stands in memory is of no account to the host: its arena, the size of a
granule, what the bytes held before, the bounds and the directory. As long as the calls
that build it succeed, they make the same multigraph everywhere, and the answer to a
query is told by that.
-/

namespace ArenaPaths

open ArenaPaths.Action

namespace Call

/-- What a call makes of a multigraph if nothing stands in its way. -/
def applied : Call → Multigraph → Multigraph
  | .addNode id, content => content.withId id
  | .addEdge link, content => content.connect link

/-- Under any limits, a call that succeeds makes the same of a multigraph. -/
theorem eq_applied_of_isOk {limits : Multigraph.Limits} {call : Call}
    {content next : Multigraph} {result : Except Fault Unit}
    (performed : (call.performOn limits).outcome content = (result, next))
    (succeeded : result.isOk) : next = call.applied content := by
  cases call with
  | addNode id =>
    rw [performOn] at performed
    rcases Multigraph.addNode_cases limits id content with added | ⟨fault, refused⟩
    · rw [outcome_of_ok added] at performed
      cases performed
      rfl
    · rw [outcome_of_error refused] at performed
      cases performed
      cases succeeded
  | addEdge link =>
    rw [performOn] at performed
    rcases Multigraph.addEdge_cases limits link content with
      added | ⟨fault, _, refused, _⟩
    · rw [outcome_of_ok added] at performed
      cases performed
      rfl
    · rw [outcome_of_error refused] at performed
      cases performed
      cases succeeded

/-- Under any limits, calls that all succeed make the same of a multigraph. -/
theorem eq_foldl_of_isOk {limits : Multigraph.Limits} {calls : List Call}
    {content final : Multigraph} {results : List (Except Fault Unit)}
    (performed : outcomes (calls.map (performOn limits)) content = (results, final))
    (succeeded : ∀ result ∈ results, result.isOk) :
    final = calls.foldl (fun content call => call.applied content) content := by
  induction calls generalizing content results with
  | nil =>
    cases performed
    rfl
  | cons call rest ih =>
    cases first : (call.performOn limits).outcome content with
    | mk result next =>
      cases others : outcomes (rest.map (performOn limits)) next with
      | mk more last =>
        simp only [List.map_cons, outcomes, first, others] at performed
        cases performed
        rw [List.foldl_cons,
          ← eq_applied_of_isOk first (succeeded _ List.mem_cons_self)]
        exact ih others fun result member =>
          succeeded result (List.mem_cons_of_mem _ member)

/-- An edge, a node that no edge reaches, and a cheaper way around the edge. -/
def detour : List Call :=
  [.addEdge ⟨1, 2, 9⟩, .addNode 7, .addEdge ⟨1, 3, 1⟩, .addEdge ⟨3, 2, 1⟩]

end Call

namespace Graph

/-- A graph on which all calls succeeded stores what they make of the empty
multigraph. -/
theorem exists_stores_of_isOk {arena : Arena} {config : GraphConfig}
    {graph after : Graph} {calls : List Call}
    {results : List (Except Fault (Option NodeRef))} (obtainable : arena.Obtainable)
    (created : create arena config = .ok graph)
    (made : outcomes (calls.map Call.perform) graph = (results, after))
    (succeeded : ∀ result ∈ results, result.isOk) :
    ∃ layout pages, after.Stores layout pages
      (calls.foldl (fun content call => call.applied content) .empty) := by
  obtain ⟨layout, represents⟩ := represents_of_create obtainable.sound created
  obtain ⟨_, _, content, performed, performedOn, representsAfter, _⟩ :=
    represents.performAll calls
  rw [made] at performed
  cases performed
  have succeededOn : ∀ result ∈ results.map (Except.map fun _ => ()), result.isOk := by
    intro result member
    obtain ⟨given, present, rfl⟩ := List.mem_map.mp member
    have ok := succeeded given present
    cases given with
    | error fault => cases ok
    | ok value => rfl
  obtain ⟨pages, stores⟩ := representsAfter.stored
  rw [Call.eq_foldl_of_isOk performedOn succeededOn] at stores
  exact ⟨layout, pages, stores⟩

end Graph

namespace Query

open ArenaPaths.Graph

/-- If the same calls succeed on two graphs, the host gives the same answer to a query
on either of them, whatever the arenas, the bounds and the directories are. -/
theorem run_same_across_layouts {arena otherArena : Arena}
    {config otherConfig : GraphConfig} {graph otherGraph after otherAfter : Graph}
    {results otherResults : List (Except Fault (Option NodeRef))}
    (obtainable : arena.Obtainable) (created : create arena config = .ok graph)
    (otherObtainable : otherArena.Obtainable)
    (otherCreated : create otherArena otherConfig = .ok otherGraph) (calls : List Call)
    (made : outcomes (calls.map Call.perform) graph = (results, after))
    (otherMade : outcomes (calls.map Call.perform) otherGraph
      = (otherResults, otherAfter))
    (succeeded : ∀ result ∈ results, result.isOk)
    (otherSucceeded : ∀ result ∈ otherResults, result.isOk) (query : Query)
    (byHost : query.mode ≠ .delegated) {κ ι : Type}
    (channel? : Option (Channel (κ × Memory))) (device : κ)
    (otherChannel? : Option (Channel (ι × Memory))) (otherDevice : ι) :
    ∃ answer rest otherRest,
      query.run channel? (after, device) = .ok answer (rest, device) ∧
      query.run otherChannel? (otherAfter, otherDevice)
        = .ok answer (otherRest, otherDevice) := by
  obtain ⟨_, _, stores⟩ := exists_stores_of_isOk obtainable created made succeeded
  obtain ⟨_, _, otherStores⟩ :=
    exists_stores_of_isOk otherObtainable otherCreated otherMade otherSucceeded
  obtain ⟨answer, rest, answered, _⟩ := stores.run_byHost byHost channel? device
  -- what there is to reply is a matter of the multigraph, which both graphs store
  obtain ⟨reply, replies⟩ := stores.exists_reply none query
  obtain ⟨_, ran, _⟩ := stores.run_unaided replies channel?
      (fun delegated => absurd delegated byHost) device
  obtain ⟨otherRest, otherRan, _⟩ :=
    otherStores.run_unaided replies otherChannel?
      (fun delegated => absurd delegated byHost) otherDevice
  rw [outcome_of_ok answered] at ran
  cases ran
  exact ⟨answer, rest, otherRest, answered, eq_ok_of_outcome otherRan⟩

/-- A table of ids in fresh memory, and a single bucket in used memory at the end of all
addresses with larger granules: the way around is found in both. -/
theorem run_same_across_layouts_of_detour :
    ∃ arena otherArena graph otherGraph, arena.Obtainable ∧
      create arena ⟨4, 3, .dense 9⟩ = .ok graph ∧
      otherArena.Obtainable ∧ create otherArena ⟨4, 3, .hashed 1⟩ = .ok otherGraph ∧
      ∃ results after otherResults otherAfter,
        outcomes (Call.detour.map Call.perform) graph = (results, after) ∧
        outcomes (Call.detour.map Call.perform) otherGraph
          = (otherResults, otherAfter) ∧
        (∀ result ∈ results, result.isOk) ∧ (∀ result ∈ otherResults, result.isOk) ∧
        ∃ answer rest otherRest,
          (⟨1, 2, .software⟩ : Query).run (κ := Unit) none (after, ())
            = .ok answer (rest, ()) ∧
          (⟨1, 2, .software⟩ : Query).run (κ := Unit) none (otherAfter, ())
            = .ok answer (otherRest, ()) ∧
          answer.route = [⟨1, 0⟩, ⟨3, 1⟩, ⟨2, 2⟩] := by
  obtain ⟨arena, graph, obtainable, created, succeeded, evaluated⟩ :
      ∃ arena graph, arena.Obtainable ∧
      create arena ⟨4, 3, .dense 9⟩ = .ok graph ∧
      (∀ result ∈ (outcomes (Call.detour.map Call.perform) graph).1, result.isOk) ∧
      (((⟨1, 2, .software⟩ : Query).run (κ := Unit) none).result
        ((outcomes (Call.detour.map Call.perform) graph).2, ())).map Answer.route
          = .ok [⟨1, 0⟩, ⟨3, 1⟩, ⟨2, 2⟩] :=
    exists_created ⟨.heap, 0x10000000, 65536, .zeros⟩ 64 ⟨4, 3, .dense 9⟩
      (by decide +kernel)
  obtain ⟨otherArena, otherGraph, otherObtainable, otherCreated, otherSucceeded⟩ :
      ∃ arena graph, arena.Obtainable ∧
      create arena ⟨4, 3, .hashed 1⟩ = .ok graph ∧
      ∀ result ∈ (outcomes (Call.detour.map Call.perform) graph).1, result.isOk :=
    exists_created ⟨.heap, 0xFFFFE000, 8192,
      Memory.zeros.setBytes 200 [1, 2, 3]⟩ 128 ⟨4, 3, .hashed 1⟩
      (by decide +kernel)
  obtain ⟨results, after, made⟩ : ∃ results after,
      outcomes (Call.detour.map Call.perform) graph = (results, after) :=
    ⟨_, _, rfl⟩
  obtain ⟨otherResults, otherAfter, otherMade⟩ : ∃ results after,
    outcomes (Call.detour.map Call.perform) otherGraph = (results, after) := ⟨_, _, rfl⟩
  rw [made] at succeeded evaluated
  rw [otherMade] at otherSucceeded
  obtain ⟨answer, rest, otherRest, answered, otherAnswered⟩ :=
    run_same_across_layouts obtainable created
    otherObtainable otherCreated Call.detour made otherMade succeeded otherSucceeded
      ⟨1, 2, .software⟩ (by decide)
    (none : Option (Channel (Unit × Memory))) ()
      (none : Option (Channel (Unit × Memory))) ()
  rw [result_of_ok answered] at evaluated
  exact ⟨arena, otherArena, graph, otherGraph, obtainable, created, otherObtainable,
    otherCreated, results, after, otherResults, otherAfter, made, otherMade, succeeded,
    otherSucceeded, answer, rest, otherRest, answered,
    otherAnswered, Except.ok.inj evaluated⟩

end Query

end ArenaPaths
