import ArenaPaths.Proofs.Answering
import ArenaPaths.Proofs.Calls

/-!
# Histories of a graph

The graphs that a program can hold: laid out in an arena, then changed by calls that add
to them and by queries. An accelerator may write whatever it likes to the bytes that
belong to searches while it answers a query, and to no others. Every such graph
represents a multigraph with the edges of the calls that succeeded.

That an accelerator keeps to those bytes is a condition of `Built`, and so of every
statement about such graphs. A model of an accelerator that is only used by queries
meets it (`Built.attached`), so it holds of every history of calls and queries
(`Session.built_of_history`).
-/

namespace ArenaPaths.Graph

open ArenaPaths.Action

variable {α κ ω : Type} {graph after : Graph} {layout : Layout} {pages : Nat → List Nat}
  {content : Multigraph}

/-! ## What a query leaves alone -/

/-- What neither a reset nor a search changes in a graph. -/
def tables (graph : Graph) : Graph := graph.withSearch .zeros 0

theorem eq_withSearch (same : after.tables = graph.tables) :
    after = graph.withSearch after.memory after.frontier.size := by
  calc after
      = after.tables.withSearch after.memory after.frontier.size := rfl
    _ = graph.tables.withSearch after.memory after.frontier.size := by rw [same]
    _ = graph.withSearch after.memory after.frontier.size := rfl

theorem outcome_onMemory (step : Action Memory α) (graph : Graph) :
    (onMemory step).outcome graph
      = ((step.outcome graph.memory).1,
        graph.withMemory (step.outcome graph.memory).2) := by
  rw [onMemory, onArena, outcome_focus, Arena.onMemory, outcome_focus]
  rfl

theorem keeps_onMemory (step : Action Memory α) : Keeps tables (onMemory step) := by
  intro graph
  rw [outcome_onMemory]
  rfl

theorem onDevice_eq_ok {step : Action (κ × Memory) α} {value : α} {device rest : κ}
    {memory : Memory} (ok : step (device, graph.memory) = .ok value (rest, memory)) :
    onDevice step (graph, device) = .ok value (graph.withMemory memory, rest) := by
  change step (device, graph.arena.memory) = .ok value (rest, memory) at ok
  simp only [onDevice, focus, ok, withMemory]

theorem onDevice_eq_error {step : Action (κ × Memory) α} {fault : Fault}
    {device rest : κ} {memory : Memory}
    (failed : step (device, graph.memory) = .error fault (rest, memory)) :
    onDevice step (graph, device) = .error fault (graph.withMemory memory, rest) := by
  change step (device, graph.arena.memory) = .error fault (rest, memory) at failed
  simp only [onDevice, focus, failed, withMemory]

theorem outcome_onDevice (step : Action (κ × Memory) α) (graph : Graph) (device : κ) :
    (onDevice step).outcome (graph, device)
      = ((step.outcome (device, graph.memory)).1,
        graph.withMemory (step.outcome (device, graph.memory)).2.2,
          (step.outcome (device, graph.memory)).2.1) := by
  rw [onDevice, outcome_focus]
  rfl

theorem keeps_onDevice (step : Action (κ × Memory) α) :
    Keeps (fun state : Graph × κ => state.1.tables) (onDevice step) := by
  rintro ⟨graph, device⟩
  rw [outcome_onDevice]
  rfl

/-- Reading a record changes nothing, whatever is seen of the graph. -/
theorem keeps_load {view : Graph → ω} [Record α] (address : UInt32) :
    Keeps view (load α address) := by
  refine .bind .get fun source graph => ?_
  have reading : Keeps id (source.arena.window.load α address) :=
    .bind (.liftM _) fun _ => .bind .get fun _ => .pure _
  have same : ((source.arena.window.load α address).outcome graph.memory).2
      = graph.memory := reading graph.memory
  rw [outcome_onMemory, same]
  rfl

theorem keeps_find (id : UInt32) : Keeps tables (find id) :=
  .bind .get fun _ => keeps_onMemory _

theorem keeps_idOf {view : Graph → ω} (node : NodeRef) : Keeps view (idOf node) :=
  .bind .get fun _ => .bind (.liftM _) fun _ => .bind (.liftM _) fun _ => keeps_load _

theorem keeps_resetSlot (slot : Nat) : Keeps tables (resetSlot slot) :=
  .bind .get fun _ => .bind (.liftM _) fun _ => .bind (keeps_load _) fun _ => .bind .get
    fun _ => keeps_onMemory _

theorem keeps_resetSearch : Keeps tables resetSearch :=
  .bind .get fun _ => .bind (.forM keeps_resetSlot _) fun _ _ => rfl

theorem keeps_routeFrom {view : Graph → ω} (start goal : NodeRef) (remaining : Nat)
    (current : NodeRef) (route : List RouteStep) :
    Keeps view (routeFrom start goal remaining current route) := by
  induction remaining generalizing current route with
  | zero => exact .throw _
  | succ remaining ih =>
    refine .bind (keeps_load _) fun record => .bind (keeps_idOf _) fun id => ?_
    split
    · exact .pure _
    · split
      · exact .throw _
      · exact ih _ _

theorem keeps_routeOf {view : Graph → ω} (start goal : NodeRef) (outcome : Outcome) :
    Keeps view (routeOf start goal outcome) := by
  cases outcome with
  | found cost => exact .bind .get fun _ => keeps_routeFrom _ _ _ _ _
  | exhausted => exact .pure _

/-- A query for the accelerator changes no more than bytes and the number of entries in
the frontier, whatever is behind the channel. -/
theorem keeps_run {query : Query} (delegated : query.mode = .delegated)
    (channel? : Option (Channel (κ × Memory))) :
    Keeps (fun state : Graph × κ => state.1.tables) (query.run channel?) := by
  refine .bind (.onFirst (keeps_find _)) fun start? =>
    .bind (.onFirst (keeps_find _)) fun goal? => ?_
  split
  · refine .bind (.onFirst keeps_resetSearch) fun _ => ?_
    rw [delegated]
    cases channel? with
    | none => exact .throw _
    | some channel =>
      exact .bind .get fun _ => .bind (.liftM _) fun _ =>
        .bind (keeps_onDevice _) fun _ => .bind (.liftM _) fun _ =>
        .bind (.onFirst (keeps_routeOf _ _ _)) fun _ => .pure _
  · exact .pure _

/-! ## The bytes of searches -/

/-- The bytes that belong to searches: the parent, the cost and the mark of every node,
and the slots of the frontier. -/
def SearchState (graph : Graph) (query : Nat) : Prop :=
  (∃ slot < graph.nodeCount,
    ∃ offset ∈ [Node.parentOffset, Node.costOffset, Node.visitedOffset],
    Stretch (graph.nodesBase.toNat - graph.arena.base.toNat + slot * Record.size Node
      + offset)
      (graph.nodesBase.toNat - graph.arena.base.toNat + slot * Record.size Node + offset
        + wordSize) query) ∨
  Stretch (graph.frontier.base.toNat - graph.arena.base.toNat + Record.size Slot)
    (graph.frontier.base.toNat - graph.arena.base.toNat + (graph.frontier.capacity + 1)
      * Record.size Slot) query

namespace Stores

variable (stores : graph.Stores layout pages content)
include stores

/-- The bytes of searches by their positions. -/
theorem searchState_iff {query : Nat} :
    graph.SearchState query ↔
      (∃ slot < content.ids.length,
        Stretch (layout.nodeAt slot) (layout.nodeAt slot + 8) query ∨
        Stretch (layout.nodeAt slot + 12) (layout.nodeAt slot + 16) query) ∨
      Frontier.Touches layout.frontier graph.config.frontierCapacity query := by
  have sound := stores.arena_sound.window_sound
  have nodesEnd := stores.nodes_le
  have idsEnd := stores.ids_le
  have directoryEnd := stores.directory_le
  have frontierEnd := stores.frontier_le
  have floor : layout.floor ≤ graph.arena.window.high := stores.floor_le_used
  have nodesPlace : graph.nodesBase.toNat - graph.arena.base.toNat = layout.nodes := by
    rw [stores.nodesBase_eq, Window.toNat_address sound (by omega)]
    exact Nat.add_sub_cancel_left _ _
  have frontierPlace : graph.frontier.base.toNat - graph.arena.base.toNat
      = layout.frontier := by
    rw [stores.frontierBase_eq, Window.toNat_address sound (by omega)]
    exact Nat.add_sub_cancel_left _ _
  rw [SearchState, nodesPlace, frontierPlace, stores.nodeCount_eq,
    stores.frontierCapacity_eq]
  apply or_congr
  · apply exists_congr
    intro slot
    simp only [List.mem_cons, List.not_mem_nil, or_false, exists_eq_or_imp,
      exists_eq_left, Stretch, Layout.nodeAt, Node.parentOffset, Node.costOffset,
      Node.visitedOffset, Record.size_node, wordSize_eq]
    omega
  · simp only [Stretch, Frontier.Touches, Record.size_slot]

/-- A multigraph stays stored if nothing but bytes of searches is written. -/
theorem of_sameExcept {memory : Memory}
    (same : Memory.SameExcept graph.SearchState graph.memory memory) (entries : Nat) :
    (graph.withSearch memory entries).Stores layout pages content := by
  apply stores.searched
  · apply same.mono
    intro query belongs
    rcases stores.searchState_iff.mp belongs with ⟨slot, inside, within⟩ | within
    · left
      simp only [Stretch, Layout.nodeAt] at within
      simp only [terrain]
      omega
    · exact .inr within
  · intro slot inside
    change (Record.read memory (layout.nodeAt slot + Node.firstPageOffset) : UInt32)
      = Record.read graph.memory (layout.nodeAt slot + Node.firstPageOffset)
    apply same.read_eq
    intro query lower upper belongs
    have count := stores.nodeCount_le
    have nodesEnd := stores.nodes_le
    have idsEnd := stores.ids_le
    have directoryEnd := stores.directory_le
    rw [Record.size_word] at upper
    simp only [Node.firstPageOffset, Layout.nodeAt] at lower upper
    rw [stores.searchState_iff] at belongs
    simp only [Stretch, Frontier.Touches, Layout.nodeAt] at belongs
    omega

end Stores

/-- What is written to records and to the frontier is bytes of searches if the links to
first pages stay. -/
theorem Stores.sameExcept_searchState (stores : graph.Stores layout pages content)
    {memory : Memory}
    (same : Memory.SameExcept (graph.terrain layout pages content).Touches graph.memory
      memory)
    (links : ∀ slot, slot < content.ids.length →
      (Record.read memory (layout.nodeAt slot) : Node).firstPage
      = (Record.read graph.memory (layout.nodeAt slot) : Node).firstPage) :
    Memory.SameExcept graph.SearchState graph.memory memory := by
  intro query outside
  rw [stores.searchState_iff, not_or] at outside
  obtain ⟨noLabel, noSlot⟩ := outside
  by_cases inSlab : layout.nodes ≤ query ∧
    query < layout.nodes + content.ids.length * 16
  · -- of the record only the bytes of the link are left, and a word tells all of its
    -- bytes
    have inside : (query - layout.nodes) / 16 < content.ids.length := by omega
    have spared : layout.nodeAt ((query - layout.nodes) / 16) + 8 ≤ query ∧
        query < layout.nodeAt ((query - layout.nodes) / 16) + 8 + 4 := by
      have labels :=
        not_and.mp (not_exists.mp noLabel ((query - layout.nodes) / 16)) inside
      simp only [Stretch, Layout.nodeAt] at labels ⊢
      omega
    exact Record.get_eq_of_read_eq (links _ inside) spared.1 spared.2
  · apply same query
    rintro (inNodes | inFrontier)
    · exact inSlab inNodes
    · exact noSlot inFrontier

/-! ## Graphs that a program can hold -/

/-- Graphs that a program can hold, with the edges that were added to them: laid out in
an arena, then changed by calls that succeed or fail and by queries. A query for an
accelerator counts as long as the accelerator has written nothing but bytes of
searches. -/
inductive Built : Graph → List Link → Prop
  | create {arena : Arena} {config : GraphConfig} {graph : Graph} :
      arena.Obtainable → Graph.create arena config = .ok graph → Built graph []
  | call {graph : Graph} {links : List Link} (call : Call) :
      Built graph links → Built (call.perform.outcome graph).2
        (links ++ call.added (call.perform.outcome graph).1)
  | query {κ : Type} {graph after : Graph} {links : List Link} {device rest : κ}
      (query : Query)
      (channel? : Option (Channel (κ × Memory))) :
      Built graph links →
      ((query.run channel?).outcome (graph, device)).2 = (after, rest) →
      (query.mode = .delegated → Memory.SameExcept graph.SearchState graph.memory
        after.memory) → Built after links

variable {limits : Multigraph.Limits}

theorem Represents.withSearch (represents : graph.Represents layout limits content)
    {memory : Memory} {entries : Nat}
    (stored : ∃ pages, (graph.withSearch memory entries).Stores layout pages content) :
    (graph.withSearch memory entries).Represents layout limits content :=
  ⟨stored, represents.tight, represents.limits_eq⟩

/-- The host answers every query, and it changes no more than bytes of searches and the
number of entries in the frontier. -/
theorem Stores.run_byHost (stores : graph.Stores layout pages content) {query : Query}
    (byHost : query.mode ≠ .delegated) (channel? : Option (Channel (κ × Memory)))
    (device : κ) :
    ∃ answer after, query.run channel? (graph, device) = .ok answer (after, device) ∧
      after.tables = graph.tables ∧
      Memory.SameExcept graph.SearchState graph.memory after.memory := by
  by_cases present : query.start ∈ content.ids ∧ query.goal ∈ content.ids
  · obtain ⟨outcome, route, final, finds⟩ := stores.exists_finds present.1
    obtain ⟨after, answered, searched⟩ :=
      stores.run_software query present.1 present.2 finds byHost channel? device
    refine ⟨_, after, answered, ?_, ?_⟩
    · rw [searched.withSearch_eq]
      rfl
    · exact stores.sameExcept_searchState searched.same fun _ inside =>
        searched.firstPage_eq inside
  · exact ⟨_, graph,
      stores.run_of_not_mem query (not_and_or.mp present) channel? device, rfl, .refl _⟩

/-- A query leaves a graph that stands at the same place and represents the same
multigraph. -/
theorem Represents.run (represents : graph.Represents layout limits content)
    {query : Query} {channel? : Option (Channel (κ × Memory))} {device rest : κ}
    (ran : ((query.run channel?).outcome (graph, device)).2 = (after, rest))
    (harmless : query.mode = .delegated →
      Memory.SameExcept graph.SearchState graph.memory after.memory) :
    after.Represents layout limits content ∧ after.site = graph.site := by
  obtain ⟨pages, stores⟩ := represents.stored
  obtain ⟨kept, same⟩ : after.tables = graph.tables ∧
      Memory.SameExcept graph.SearchState graph.memory after.memory := by
    by_cases delegated : query.mode = .delegated
    · have kept := keeps_run delegated channel? (graph, device)
      rw [ran] at kept
      exact ⟨kept, harmless delegated⟩
    · obtain ⟨answer, searched, answered, kept, same⟩ :=
        stores.run_byHost delegated channel? device
      rw [outcome_of_ok answered] at ran
      cases ran
      exact ⟨kept, same⟩
  rw [eq_withSearch kept]
  exact ⟨represents.withSearch ⟨pages, stores.of_sameExcept same _⟩, rfl⟩

/-- Such a graph represents a multigraph with its edges. -/
theorem Built.represents {links : List Link} (built : Built graph links) :
    ∃ layout limits content, graph.Represents layout limits content ∧
      content.links = links := by
  induction built with
  | create obtainable created =>
    obtain ⟨layout, represents⟩ := represents_of_create obtainable.sound created
    exact ⟨layout, _, .empty, represents, rfl⟩
  | call call _ ih =>
    obtain ⟨layout, limits, content, represents, rfl⟩ := ih
    obtain ⟨result, after, next, performed, _, representsAfter, _, _, links_eq, _⟩ :=
      represents.perform call
    rw [performed]
    exact ⟨layout, limits, next, representsAfter, links_eq⟩
  | query query channel? _ ran harmless ih =>
    obtain ⟨layout, limits, content, represents, rfl⟩ := ih
    exact ⟨layout, limits, content, (represents.run ran harmless).1, rfl⟩

/-- The multigraph with its edges is stored in such a graph. -/
theorem Built.stores {links : List Link} (built : Built graph links) :
    ∃ layout pages content, graph.Stores layout pages content ∧
      content.links = links := by
  obtain ⟨layout, _, content, represents, links_eq⟩ := built.represents
  obtain ⟨pages, stores⟩ := represents.stored
  exact ⟨layout, pages, content, stores, links_eq⟩

/-- A graph finds an id. -/
def Has (graph : Graph) (id : UInt32) : Prop :=
  ∃ node, find id graph = .ok (some node) graph

theorem Stores.has_iff (stores : graph.Stores layout pages content) {id : UInt32} :
    graph.Has id ↔ id ∈ content.ids := by
  constructor
  · rintro ⟨node, found⟩
    exact (stores.of_find_eq_some found).1
  · intro present
    exact ⟨_, stores.find_of_mem present⟩

/-- A graph has the ends of its edges. -/
theorem Built.has_ends {links : List Link} (built : Built graph links) {link : Link}
    (member : link ∈ links) :
    graph.Has link.source ∧ graph.Has link.target := by
  obtain ⟨_, _, content, stores, rfl⟩ := built.stores
  exact ⟨stores.has_iff.mpr (content.source_mem link member),
    stores.has_iff.mpr (content.target_mem link member)⟩

/-- Calls made one after another add the edges of those that succeed. -/
theorem Built.calls {links : List Link} (built : Built graph links)
    (calls : List Call) :
    Built (outcomes (calls.map Call.perform) graph).2
      (links ++ (List.zipWith Call.added calls
        (outcomes (calls.map Call.perform) graph).1).flatten) := by
  induction calls generalizing graph links with
  | nil =>
    rw [List.zipWith_nil_left, List.flatten_nil, List.append_nil]
    exact built
  | cons call rest ih =>
    have following := ih (built.call call)
    simpa only [List.map_cons, outcomes, List.zipWith_cons_cons, List.flatten_cons,
      List.append_assoc] using following

/-- Lay an arena over a backing, and a graph out in the arena. -/
def ofBacking (backing : Backing) (granule : Nat) (config : GraphConfig) :
    Except Fault Graph := do
  create (← Arena.ofBacking backing granule) config

/-- What is seen to hold of a graph over a backing holds of a graph that was laid out in
an arena. -/
theorem exists_created {P : Graph → Prop} [DecidablePred P] (backing : Backing)
    (granule : Nat) (config : GraphConfig)
    (seen : (ofBacking backing granule config).map (fun graph => decide (P graph))
      = .ok true) :
    ∃ arena graph, arena.Obtainable ∧ create arena config = .ok graph ∧ P graph := by
  rw [ofBacking] at seen
  cases opened : Arena.ofBacking backing granule with
  | error fault =>
    rw [opened] at seen
    cases seen
  | ok arena =>
    rw [opened] at seen
    change (create arena config).map _ = _ at seen
    cases created : create arena config with
    | error fault =>
      rw [created] at seen
      cases seen
    | ok graph =>
      rw [created] at seen
      exact ⟨arena, graph, .ofBacking opened, created,
        of_decide_eq_true (Except.ok.inj seen)⟩

/-- What is seen to hold after calls holds of a graph that a program can hold. -/
theorem exists_built {P : Graph → Prop} [DecidablePred P] {links : List Link}
    (backing : Backing) (granule : Nat) (config : GraphConfig) (calls : List Call)
    (seen : (ofBacking backing granule config).map (fun graph => decide
      ((List.zipWith Call.added calls
      (outcomes (calls.map Call.perform) graph).1).flatten = links ∧
        P (outcomes (calls.map Call.perform) graph).2)) = .ok true) :
    ∃ graph, Built graph links ∧ P graph := by
  obtain ⟨arena, graph, obtainable, created, rfl, holds⟩ :=
    exists_created backing granule config seen
  exact ⟨_, (Built.create obtainable created).calls calls, holds⟩

/-- A graph on the heap with an edge, and the answer of the host to a query along it. -/
theorem exists_built_of_link :
    ∃ graph, Built graph [⟨1, 2, 5⟩] ∧ graph.arena.backing.source = .heap ∧
      ((⟨1, 2, .software⟩ : Query).run (κ := Unit) none).result (graph, ())
        = .ok
          { query := ⟨1, 2, .software⟩, outcome := .found 5,
            route := [⟨1, 0⟩, ⟨2, 5⟩], steps := some 2 } :=
  exists_built ⟨.heap, 0x10000000, 65536, .zeros⟩ 64 ⟨2, 2, .dense 9⟩
    [.addEdge ⟨1, 2, 5⟩] (by decide +kernel)

end ArenaPaths.Graph
