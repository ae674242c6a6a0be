import ArenaPaths.Proofs.Conversations
import ArenaPaths.Proofs.Histories

/-!
# The footprint of a query

However a query ends and whoever searches for it, it writes no bytes of the arena but
those that belong to searches, so whatever else a graph can be asked for stays the same.
The accelerator may allow for a frontier of any size, it may still have a response to
give, and it may as well look at other memory.

What it must not have is words of an unfinished request: they push the words of the
query back by their number, and the search takes for a frontier what is none. An
accelerator that only queries use never has any, so a graph that they run on stays one
that a program can hold (`Graph.Built.attached`).

Main statement: `Query.run_changes_search_state_only`.
-/

namespace ArenaPaths

open ArenaPaths.Action

namespace Action

variable {σ τ α β ω : Type} {view : σ → ω}

/-- Steps that keep what is seen do not matter behind another one. -/
theorem view_bind_of_keeps {step : Action σ α} {next : α → Action σ β}
    (kept : ∀ value, Keeps view (next value)) (state : σ) :
    view ((step >>= next).outcome state).2 = view (step.outcome state).2 := by
  cases ran : step state with
  | ok value rest =>
    rw [outcome_of_ok ran, outcome, bind_ok ran]
    exact kept value rest
  | error fault rest => rw [outcome_of_error ran, outcome_of_error (bind_error ran)]

/-- What is kept piece by piece is kept together. -/
theorem Keeps.and {other : σ → τ} {step : Action σ α} (first : Keeps view step)
    (second : Keeps other step) : Keeps (fun state => (view state, other state)) step :=
  fun state => Prod.ext (first state) (second state)

/-- A step on the first half keeps the second. -/
theorem keeps_snd_onFirst (step : Action σ α) :
    Keeps (Prod.snd : σ × τ → τ) (onFirst step) := by
  rintro ⟨state, other⟩
  rw [onFirst, outcome_focus]

end Action

namespace Replay

variable {replay : Replay}

/-- A read changes nothing but the response. -/
theorem keeps_receive :
    Keeps (fun state : Replay × Memory => (state.1.window, state.1.request, state.2))
      receive := by
  rintro ⟨replay, memory⟩
  cases pending : replay.response with
  | nil => rw [outcome_of_error (receive_nil pending memory)]
  | cons word rest => rw [outcome_of_ok (receive_cons pending memory)]

/-- A request that begins afresh is searched for, unless a response is still to be read,
and the device has no word of it afterwards. -/
theorem after_exchange (fresh : replay.request = []) (base start goal : UInt32)
    (memory : Memory) :
    let after := ((channel.exchange base start goal).outcome (replay, memory)).2
    (after.1.window, after.1.request, after.2)
      = (replay.window, [],
          if replay.response = [] then
            ((searchFor replay.window replay.capacity base start goal).outcome memory).2
          else memory) := by
  by_cases idle : replay.response = []
  · have received : ∀ _ : Unit, Keeps
        (fun state : Replay × Memory => (state.1.window, state.1.request, state.2)) (do
          let cost ← channel.receive
          let cycles ← channel.receive
          return (cost, cycles)) :=
      fun _ => .bind keeps_receive fun _ => .bind keeps_receive fun _ => .pure _
    have third : (channel.send goal).outcome
        ({ replay with request := [base, start] }, memory) = _ :=
      outcome_send_of_two
        (show ({ replay with request := [base, start] } : Replay).response = []
          from idle)
        rfl goal memory
    rw [if_pos idle, outcome, exchange_of_idle idle fresh]
    refine (view_bind_of_keeps received _).trans ?_
    rw [third]
    simp only [snd_conclude]
  · have refused : channel.send base (replay, memory) = .error _ _ :=
      send_of_pending idle base memory
    rw [if_neg idle, Channel.exchange, outcome_of_error (bind_error refused), ← fresh]

end Replay

namespace Graph

variable {α κ : Type} {graph after : Graph} {layout : Layout} {pages : Nat → List Nat}
  {content : Multigraph}

/-! ## What can be asked for -/

/-- All that a graph can be asked for apart from searches is the same afterwards, and so
are the bytes that do not belong to searches. -/
structure SameContents (graph after : Graph) : Prop where
  bytes_eq : Memory.SameExcept graph.SearchState graph.memory after.memory
  find_eq : ∀ id, (find id).result after = (find id).result graph
  idOf_eq : ∀ node, (idOf node).result after = (idOf node).result graph
  arcs_eq : ∀ node id, (idOf node).result graph = .ok id →
    (arcs node).result after = (arcs node).result graph
  nodeCount_eq : after.nodeCount = graph.nodeCount
  edgeCount_eq : after.edgeCount = graph.edgeCount
  pageCount_eq : after.pageCount = graph.pageCount
  capacity_eq : after.arena.capacity = graph.arena.capacity
  used_eq : after.arena.used = graph.arena.used
  allocations_eq : after.arena.allocations = graph.arena.allocations
  usage_eq : after.arena.usage = graph.arena.usage

namespace Stores

variable (stores : graph.Stores layout pages content)
include stores

/-- What has a slot is the node in it. -/
theorem of_slotOf_eq_ok {node : NodeRef} {slot : Nat}
    (found : graph.slotOf node = .ok slot) :
    slot < content.ids.length ∧ node = graph.nodeOf layout slot := by
  simp only [slotOf, Record.size_node, UInt32.le_iff_toNat_le] at found
  split at found
  · rename_i isSlot
    obtain ⟨above, whole, inside⟩ := isSlot
    cases found
    rw [stores.nodeCount_eq] at inside
    have withinBound := stores.slot_lt_bound inside
    have upper := (stores.node_spans withinBound).le_high
    rw [Record.size_node] at upper
    have sound := stores.arena_sound.window_sound
    have slab :
        graph.nodesBase.toNat = graph.arena.window.base.toNat + layout.nodes := by
      rw [stores.nodesBase_eq]
      exact Window.toNat_address sound (by rw [Layout.nodeAt] at upper; omega)
    refine ⟨inside, NodeRef.ext_address (UInt32.toNat_inj.mp ?_)⟩
    rw [stores.address_nodeOf withinBound, Window.toNat_address sound (by omega),
      Layout.nodeAt]
    omega
  · cases found

/-- The ids of all nodes, and what becomes of a question for any other id. -/
theorem result_idOf (node : NodeRef) :
    (idOf node).result graph = (graph.slotOf node).map fun slot =>
      content.ids.getD slot 0 := by
  cases found : graph.slotOf node with
  | ok slot =>
    obtain ⟨inside, rfl⟩ := stores.of_slotOf_eq_ok found
    have here := List.getElem?_eq_getElem inside
    rw [result_of_ok (stores.idOf_nodeOf here), Except.map, List.getD_eq_getElem?_getD,
      here, Option.getD_some]
  | error fault =>
    have failed : idOf node graph = .error fault graph := by
      simp only [idOf, get_bind_apply, found, liftM_error_bind_apply]
    rw [result_of_error failed, Except.map]

/-- A graph can be asked for the same as long as nothing but bytes of searches is
written. -/
theorem sameContents (kept : after.tables = graph.tables)
    (same : Memory.SameExcept graph.SearchState graph.memory after.memory) :
    graph.SameContents after := by
  obtain ⟨memory, entries, rfl⟩ :
      ∃ memory entries, after = graph.withSearch memory entries :=
    ⟨_, _, eq_withSearch kept⟩
  have storesAfter : (graph.withSearch memory entries).Stores layout pages content :=
    stores.of_sameExcept same entries
  refine ⟨same, ?_, ?_, ?_, rfl, rfl, rfl, rfl, rfl, rfl, rfl⟩
  · intro id
    rw [result_of_ok (storesAfter.find_eq id), result_of_ok (stores.find_eq id)]
    rfl
  · intro node
    rw [storesAfter.result_idOf, stores.result_idOf]
    rfl
  · intro node id named
    rw [stores.result_idOf] at named
    cases found : graph.slotOf node with
    | ok slot =>
      obtain ⟨inside, rfl⟩ := stores.of_slotOf_eq_ok found
      have after_eq := result_of_ok (storesAfter.arcs_nodeOf inside)
      exact after_eq.trans (result_of_ok (stores.arcs_nodeOf inside)).symm
    | error fault =>
      rw [found] at named
      cases named

/-- Whatever the number of entries that an accelerator allows for, its search writes no
more than it may. -/
theorem searchFor_spares {start goal : UInt32}
    (unsearched : Dijkstra.Unsearched (graph.terrain layout pages content) graph.memory)
    (hasStart : start ∈ content.ids) (hasGoal : goal ∈ content.ids) (limit : Nat) :
    (graph.terrain layout pages content).Spares graph.memory
      ((Replay.searchFor graph.arena.deviceWindow limit graph.frontier.base
        (graph.nodeOf layout (content.slot start)).address
        (graph.nodeOf layout (content.slot goal)).address).outcome graph.memory).2 := by
  obtain ⟨found, route, final, finds⟩ :
      ∃ found route final, content.Finds start goal found route final :=
    stores.exists_finds hasStart
  have sound := stores.arena_sound
  simp only [outcome, Replay.searchFor, NodeRef.ofWord?_address]
  obtain ⟨ended, ran, shown⟩ | ⟨_, ended, failed, spared⟩ :=
    stores.run_or_stops sound.window_within sound.deviceWindow_sound limit unsearched
      hasStart hasGoal finds
  · rw [ran]
    exact ⟨shown.spares.same, shown.spares.firstPage_eq⟩
  · rw [failed]
    exact ⟨spared.same, spared.firstPage_eq⟩

end Stores

/-! ## Queries -/

/-- What a query can be delegated to while the device sees the graph through the given
window: nothing at all; a model of the accelerator on the same memory that has no word
of an unfinished request; or whatever looks at other memory. -/
inductive Attached (window : Window) :
    (κ : Type) → Option (Channel (κ × Memory)) → κ → Prop
  | nothing {κ : Type} (device : κ) : Attached window κ none device
  | replay {replay : Replay} :
      replay.window = window → replay.request = [] →
      Attached window Replay (some Replay.channel) replay
  | apart {κ : Type} (channel : Channel κ) (device : κ) :
      Attached window κ (some channel.onFirst) device

theorem keeps_memory_exchange (channel : Channel κ) (base start goal : UInt32) :
    Keeps (Prod.snd : κ × Memory → Memory) (channel.onFirst.exchange base start goal) :=
  .bind (keeps_snd_onFirst _) fun _ => .bind (keeps_snd_onFirst _) fun _ =>
    .bind (keeps_snd_onFirst _) fun _ => .bind (keeps_snd_onFirst _) fun _ =>
      .bind (keeps_snd_onFirst _) fun _ => .pure _

/-- A request for a graph that was reset makes no one write more than a search may. -/
theorem Stores.exchange_spares (stores : graph.Stores layout pages content)
    (unsearched : Dijkstra.Unsearched (graph.terrain layout pages content) graph.memory)
    {start goal : UInt32} (hasStart : start ∈ content.ids)
    (hasGoal : goal ∈ content.ids) {channel : Channel (κ × Memory)} {device : κ}
    (attached : Attached graph.arena.deviceWindow κ (some channel) device) :
    (graph.terrain layout pages content).Spares graph.memory
      ((channel.exchange graph.frontier.base
        (graph.nodeOf layout (content.slot start)).address
        (graph.nodeOf layout (content.slot goal)).address).outcome
          (device, graph.memory)).2.2 := by
  cases attached with
  | replay isWindow fresh =>
    -- the first word is refused while a response is pending, and otherwise the third
    -- one starts the search
    have after := Replay.after_exchange fresh graph.frontier.base
      (graph.nodeOf layout (content.slot start)).address
      (graph.nodeOf layout (content.slot goal)).address graph.memory
    rw [(Prod.mk.inj (Prod.mk.inj after).2).2, isWindow]
    split
    · exact stores.searchFor_spares unsearched hasStart hasGoal _
    · exact .refl _ _
  | apart channel _ =>
    have kept := keeps_memory_exchange channel graph.frontier.base
      (graph.nodeOf layout (content.slot start)).address
      (graph.nodeOf layout (content.slot goal)).address (device, graph.memory)
    rw [kept]
    exact .refl _ _

/-- Of a delegated query only the request can write, and only it concerns the device. -/
theorem after_runDelegated (query : Query) (channel : Channel (κ × Memory))
    (start goal : NodeRef) (graph : Graph) (device : κ) :
    let after :=
      ((query.runDelegated (some channel) start goal).outcome (graph, device)).2
    (after.1.memory, after.2) = (graph.memory, device) ∨
    (after.1.memory, after.2)
      = (((channel.exchange graph.frontier.base start.address goal.address).outcome
          (device, graph.memory)).2).swap := by
  have behind : ∀ answered : UInt32 × UInt32,
      Keeps (fun state : Graph × κ => (state.1.memory, state.2)) (do
        graph.arena.syncAll .fromDevice
        let found : Outcome :=
          if answered.1 = unreached then .exhausted else .found answered.1
        let route ← onFirst (routeOf start goal found)
        return { query, outcome := found, route,
                 cycles := some answered.2 : Answer }) :=
    fun _ => .bind (.liftM _) fun _ =>
      .bind (.and (.onFirst (keeps_routeOf _ _ _)) (keeps_snd_onFirst _)) fun _ =>
        .pure _
  cases ready : graph.arena.syncAll .toDevice with
  | error fault =>
    have failed : query.runDelegated (some channel) start goal (graph, device)
        = .error fault (graph, device) := by
      simp only [Query.runDelegated, get_bind_apply, ready, liftM_error_bind_apply]
    rw [outcome_of_error failed]
    exact .inl rfl
  | ok =>
    right
    have exchanged : _ = (fun state : Graph × κ => (state.1.memory, state.2))
        ((onDevice (channel.exchange graph.frontier.base start.address
          goal.address)).outcome (graph, device)).2 := view_bind_of_keeps behind _
    rw [outcome_onDevice] at exchanged
    refine Eq.trans ?_ exchanged
    simp only [outcome, Query.runDelegated, get_bind_apply, ready, liftM_ok_bind_apply]

/-- A delegated query between two nodes goes on with a graph that was reset. -/
theorem Stores.outcome_run_delegated (stores : graph.Stores layout pages content)
    {query : Query} (delegated : query.mode = .delegated)
    (hasStart : query.start ∈ content.ids) (hasGoal : query.goal ∈ content.ids)
    {cleared : Graph} (reset : resetSearch graph = .ok () cleared)
    (channel? : Option (Channel (κ × Memory))) (device : κ) :
    (query.run channel?).outcome (graph, device)
      = (query.runDelegated channel? (graph.nodeOf layout (content.slot query.start))
          (graph.nodeOf layout (content.slot query.goal))).outcome
            (cleared, device) := by
  simp only [outcome, Query.run, bind_ok (onFirst_eq_ok (stores.find_of_mem hasStart)),
    bind_ok (onFirst_eq_ok (stores.find_of_mem hasGoal)), bind_ok (onFirst_eq_ok reset),
    delegated]

/-- A delegated query writes nothing but bytes of searches. -/
theorem Stores.sameExcept_delegated (stores : graph.Stores layout pages content)
    {query : Query} (delegated : query.mode = .delegated)
    {channel? : Option (Channel (κ × Memory))} {device : κ}
    (attached : Attached graph.arena.deviceWindow κ channel? device) :
    Memory.SameExcept graph.SearchState graph.memory
      ((query.run channel?).outcome (graph, device)).2.1.memory := by
  by_cases present : query.start ∈ content.ids ∧ query.goal ∈ content.ids
  case neg =>
    rw [outcome_of_ok
      (stores.run_of_not_mem query (not_and_or.mp present) channel? device)]
    exact .refl _
  obtain ⟨memory, reset, same, unsearched, links⟩ := stores.resetSearch_eq
  have sameCleared := stores.sameExcept_searchState same links
  rw [stores.outcome_run_delegated delegated present.1 present.2 reset]
  cases channel? with
  | none => exact sameCleared
  | some channel =>
    rcases after_runDelegated query channel
      (graph.nodeOf layout (content.slot query.start))
      (graph.nodeOf layout (content.slot query.goal)) (graph.withSearch memory 0) device
      with idle | requested
    · rw [(Prod.mk.inj idle).1]
      exact sameCleared
    · have storesCleared := stores.searched same links 0
      have spared :=
        storesCleared.exchange_spares unsearched present.1 present.2 attached
      rw [(Prod.mk.inj requested).1]
      apply stores.sameExcept_searchState (same.trans spared.same)
      intro slot inside
      exact (spared.firstPage_eq slot inside).trans (links slot inside)

/-- An accelerator that has no word of an unfinished request has none after a query. -/
theorem Stores.replay_run (stores : graph.Stores layout pages content) (query : Query)
    {replay : Replay} (fresh : replay.request = []) :
    let after := ((query.run (some Replay.channel)).outcome (graph, replay)).2.2
    (after.window, after.request) = (replay.window, []) := by
  have unchanged : (replay.window, replay.request) = (replay.window, []) := by
    rw [fresh]
  by_cases delegated : query.mode = .delegated
  case neg =>
    obtain ⟨answer, after, answered, _⟩ :=
      stores.run_byHost delegated (some Replay.channel) replay
    rw [outcome_of_ok answered]
    exact unchanged
  by_cases present : query.start ∈ content.ids ∧ query.goal ∈ content.ids
  case neg =>
    rw [outcome_of_ok (stores.run_of_not_mem query (not_and_or.mp present) _ replay)]
    exact unchanged
  obtain ⟨memory, reset, _⟩ := stores.resetSearch_eq
  rw [stores.outcome_run_delegated delegated present.1 present.2 reset]
  rcases after_runDelegated query Replay.channel
    (graph.nodeOf layout (content.slot query.start))
    (graph.nodeOf layout (content.slot query.goal)) (graph.withSearch memory 0) replay
    with idle | requested
  · rw [(Prod.mk.inj idle).2]
    exact unchanged
  · have after := Replay.after_exchange fresh (graph.withSearch memory 0).frontier.base
      (graph.nodeOf layout (content.slot query.start)).address
      (graph.nodeOf layout (content.slot query.goal)).address memory
    rw [(Prod.mk.inj requested).2]
    exact Prod.ext (Prod.mk.inj after).1 (Prod.mk.inj (Prod.mk.inj after).2).1

/-- Whatever a query is delegated to, it leaves a graph that a program can hold, at the
same place. -/
theorem Built.attached {links : List Link} (built : Built graph links) (query : Query)
    {channel? : Option (Channel (κ × Memory))} {device : κ}
    (attached : Attached graph.arena.deviceWindow κ channel? device) :
    let after := ((query.run channel?).outcome (graph, device)).2.1
    Built after links ∧ after.site = graph.site := by
  obtain ⟨_, _, _, represents, _⟩ := built.represents
  obtain ⟨_, stores⟩ := represents.stored
  have harmless : query.mode = .delegated → Memory.SameExcept graph.SearchState
      graph.memory ((query.run channel?).outcome (graph, device)).2.1.memory :=
    fun delegated => stores.sameExcept_delegated delegated attached
  exact ⟨.query query channel? built rfl harmless, (represents.run rfl harmless).2⟩

end Graph

namespace Query

open ArenaPaths.Graph

/-- Whatever a query asks for, whatever it is delegated to and however it ends, it
changes nothing but bytes of searches, and everything else that the graph can be asked
for is the same. So it leaves the graph as `Built` asks of accelerators, which for the
queries before this one is a condition. -/
theorem run_changes_search_state_only {graph : Graph} {links : List Link}
    (built : Built graph links) (query : Query) {κ : Type}
    {channel? : Option (Channel (κ × Memory))} {device : κ}
    (attached : Attached graph.arena.deviceWindow κ channel? device) :
    graph.SameContents ((query.run channel?).outcome (graph, device)).2.1 := by
  obtain ⟨_, _, _, stores, _⟩ := built.stores
  by_cases delegated : query.mode = .delegated
  · have kept := keeps_run delegated channel? (graph, device)
    exact stores.sameContents kept (stores.sameExcept_delegated delegated attached)
  · obtain ⟨answer, after, answered, kept, same⟩ :=
      stores.run_byHost delegated channel? device
    rw [outcome_of_ok answered]
    exact stores.sameContents kept same

/-- An accelerator that allows for one entry stops at the second neighbour of the start,
and has changed nothing but bytes of searches. -/
theorem run_changes_search_state_only_at_full_frontier :
    ∃ graph, Built graph [⟨1, 2, 5⟩, ⟨1, 3, 5⟩] ∧
      ((⟨1, 3, .delegated⟩ : Query).run (some Replay.channel)).result
          (graph, { window := graph.arena.deviceWindow, capacity := 1 })
        = .error (.protocol (.other (Fault.frontierFull 1).message)) ∧
      graph.SameContents
        (((⟨1, 3, .delegated⟩ : Query).run (some Replay.channel)).outcome
        (graph, { window := graph.arena.deviceWindow, capacity := 1 })).2.1 := by
  obtain ⟨graph, built, stopped⟩ : ∃ graph, Built graph [⟨1, 2, 5⟩, ⟨1, 3, 5⟩] ∧
      ((⟨1, 3, .delegated⟩ : Query).run (some Replay.channel)).result
          (graph, { window := graph.arena.deviceWindow, capacity := 1 })
        = .error (.protocol (.other (Fault.frontierFull 1).message)) :=
    exists_built ⟨.heap, 0x10000000, 65536, .zeros⟩ 64 ⟨3, 2, .dense 9⟩
      [.addEdge ⟨1, 2, 5⟩, .addEdge ⟨1, 3, 5⟩]
      (by decide +kernel)
  exact ⟨graph, built, stopped, run_changes_search_state_only built _ (.replay rfl rfl)⟩

/-- A word of an unfinished request shifts the words of the query, and the search
overwrites the ids of the nodes. -/
theorem run_overwrites_ids_of_unfinished_request :
    ∃ graph, Built graph [⟨1, 2, 5⟩] ∧ ∃ replay after,
      replay
        = ((Replay.send 0x10000078).outcome (Replay.ofGraph graph, graph.memory)).2.1 ∧
      after = (((⟨1, 2, .delegated⟩ : Query).run (some Replay.channel)).outcome
        (graph, replay)).2.1 ∧
      adjacency.result graph = .ok [(1, [(2, 5)]), (2, [])] ∧
      adjacency.result after = .ok [(0, [(0x10000100, 5)]), (0x10000100, [])] ∧
      ¬ Memory.SameExcept graph.SearchState graph.memory after.memory := by
  obtain ⟨graph, built, before, changed, named, renamed⟩ :
      ∃ graph, Built graph [⟨1, 2, 5⟩] ∧
      adjacency.result graph = .ok [(1, [(2, 5)]), (2, [])] ∧
      adjacency.result (((⟨1, 2, .delegated⟩ : Query).run (some Replay.channel)).outcome
        (graph, ((Replay.send 0x10000078).outcome
          (Replay.ofGraph graph, graph.memory)).2.1)).2.1
          = .ok [(0, [(0x10000100, 5)]), (0x10000100, [])] ∧
      (idOf (NodeRef.ofWord 0x10000040)).result graph = .ok 1 ∧
      (idOf (NodeRef.ofWord 0x10000040)).result
        (((⟨1, 2, .delegated⟩ : Query).run (some Replay.channel)).outcome
        (graph, ((Replay.send 0x10000078).outcome
          (Replay.ofGraph graph, graph.memory)).2.1)).2.1 = .ok 0 :=
    exists_built ⟨.heap, 0x10000000, 65536, .zeros⟩ 64 ⟨2, 1, .dense 9⟩
      [.addEdge ⟨1, 2, 5⟩] (by decide +kernel)
  refine ⟨graph, built, _, _, rfl, rfl, before, changed, fun same => ?_⟩
  -- the bytes are told by what they make a graph answer
  obtain ⟨_, _, _, stores, _⟩ := built.stores
  have idOf_eq :=
    (stores.sameContents (keeps_run rfl _ _) same).idOf_eq (NodeRef.ofWord 0x10000040)
  rw [named, renamed] at idOf_eq
  cases idOf_eq

end Query

end ArenaPaths
