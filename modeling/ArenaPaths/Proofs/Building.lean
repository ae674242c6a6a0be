import ArenaPaths.Proofs.Stored

/-!
# Adding nodes

Laying out a graph stores the empty multigraph. A graph that stores a multigraph with no
page to spare represents it under the limits that its arena and its tables set. Adding a
node to the graph then is adding it to the multigraph: the same additions succeed, the
others fail with the same fault, and the graph represents what is left.
-/

namespace ArenaPaths.Graph

variable {graph after : Graph} {layout : Layout} {pages : Nat → List Nat}
  {content : Multigraph} {id : UInt32}

/-! ## An empty graph -/

/-- A graph that was laid out stores the empty multigraph, right behind the bytes that
were in use. -/
theorem stores_of_create {arena : Arena} {config : GraphConfig} (sound : arena.Sound)
    (created : create arena config = .ok graph) :
    graph.config = config ∧ graph.directory.strategy = config.strategy ∧
    arena.Extends graph.arena ∧
      graph.pageCount = 0 ∧ ∃ layout, graph.Stores layout (fun _ => []) .empty := by
  simp only [create] at created
  split at created
  · cases created
  rename_i nodesBase idsBase directory frontier last laid
  cases created
  split at laid
  · cases laid
  obtain ⟨_, first, nodesReserved, laid⟩ := Action.of_bind_eq_ok laid
  obtain ⟨_, second, idsReserved, laid⟩ := Action.of_bind_eq_ok laid
  obtain ⟨_, third, directoryCreated, laid⟩ := Action.of_bind_eq_ok laid
  obtain ⟨_, fourth, frontierCreated, laid⟩ := Action.of_bind_eq_ok laid
  obtain ⟨_, fifth, frontierReserved, made⟩ := Action.of_bind_eq_ok frontierCreated
  cases made
  cases laid
  obtain ⟨extendsNodes, rfl, nodesFit⟩ := Arena.extends_of_reserve sound nodesReserved
  obtain ⟨extendsIds, rfl, idsFit⟩ :=
    Arena.extends_of_reserve extendsNodes.sound idsReserved
  obtain ⟨extendsDirectory, room, strategy, holds⟩ :=
    Directory.holds_of_create extendsIds.sound directoryCreated
  obtain ⟨extendsFrontier, rfl, frontierFit⟩ :=
    Arena.extends_of_reserve extendsDirectory.sound frontierReserved
  have toIds := extendsNodes.trans extendsIds
  have toDirectory := toIds.trans extendsDirectory
  have whole := toDirectory.trans extendsFrontier
  refine ⟨rfl, strategy, whole, rfl,
    ⟨arena.used, first.used, second.used, third.used, last.used⟩, ?_⟩
  constructor
  case toLaidOut =>
    constructor
    case arena_sound => exact whole.sound
    case granule_le =>
      change last.granule ≤ arena.used
      rw [whole.granule_eq]
      exact sound.granule_le_used
    case nodes_le => exact nodesFit
    case ids_le => exact idsFit
    case directory_le => exact extendsDirectory.used_le
    case frontier_le => exact frontierFit
    case used_eq => exact (Nat.add_zero _).symm.trans (by rw [Nat.zero_mul])
    case nodesBase_eq => exact (congrFun whole.address_eq _).symm
    case idsBase_eq =>
      change first.window.address first.used = last.window.address first.used
      rw [whole.address_eq, extendsNodes.address_eq]
    case frontierBase_eq =>
      change third.window.address third.used = last.window.address third.used
      rw [whole.address_eq, toDirectory.address_eq]
    case frontierCapacity_eq => rfl
  case nodeCount_eq => rfl
  case nodeCount_le => exact Nat.zero_le _
  case edgeCount_eq => rfl
  case edgeCount_le => exact Nat.zero_le _
  case pageCount_le => exact Nat.le_refl 0
  case id_eq => exact fun slot id here => absurd here (by simp [Multigraph.empty])
  case directory_holds =>
    change directory.Holds last.window.address second.used third.used last.memory []
    rw [whole.address_eq, ← toIds.address_eq]
    exact holds.congr fun query within => extendsFrontier.same query within.2
  case directory_room => exact room
  case pages_eq_nil => exact fun _ _ => rfl
  case page_eq => exact fun _ _ member => absurd member List.not_mem_nil
  case pages_nodup => exact fun _ => List.nodup_nil
  case pages_disjoint => exact fun _ _ _ _ member => absurd member List.not_mem_nil
  case chain => exact fun slot inside => absurd inside (Nat.not_lt_zero slot)

/-- The limits under which a graph grows. -/
def limits (graph : Graph) : Multigraph.Limits where
  nodeBound := graph.config.nodeBound
  edgeBound := graph.config.edgeBound
  greatest? := graph.directory.greatest?
  room := graph.arena.remaining + graph.pageCount * graph.pageLength
  pageLength := graph.pageLength

/-- Where a graph stands: what its bytes come from, what a device reaches of them, and
the slots of its frontier. -/
structure Site where
  source : Source
  window : Window
  slots : Nat

def site (graph : Graph) : Site :=
  ⟨graph.arena.backing.source, graph.arena.deviceWindow, graph.frontier.capacity⟩

/-- Two states of one graph: it stands at the same place and grows under the same
limits. -/
structure Kin (graph after : Graph) : Prop where
  site_eq : after.site = graph.site
  limits_eq : after.limits = graph.limits

theorem Kin.refl (graph : Graph) : Kin graph graph := ⟨rfl, rfl⟩

theorem Kin.trans {between : Graph} (first : Kin graph between)
    (second : Kin between after) :
    Kin graph after :=
  ⟨second.site_eq.trans first.site_eq, second.limits_eq.trans first.limits_eq⟩

/-- At one site, positions have the same addresses. -/
theorem address_eq_of_site (same : after.site = graph.site) :
    after.arena.window.address = graph.arena.window.address := by
  have base_eq : after.arena.base = graph.arena.base :=
    congrArg (fun site => site.window.base) same
  funext position
  simp only [Window.address, Arena.window, base_eq]

/-- At one site, slots have the same nodes. -/
theorem nodeOf_eq_of_site (same : after.site = graph.site) :
    after.nodeOf layout = graph.nodeOf layout := by
  funext slot
  rw [nodeOf, nodeOf, address_eq_of_site same]

theorem Kin.edgeBound_eq (kin : Kin graph after) :
    after.config.edgeBound = graph.config.edgeBound :=
  congrArg Multigraph.Limits.edgeBound kin.limits_eq

theorem Kin.nodeOf_eq (kin : Kin graph after) :
    after.nodeOf layout = graph.nodeOf layout :=
  nodeOf_eq_of_site kin.site_eq

theorem kin_withMemory (graph : Graph) (memory : Memory) :
    Kin graph (graph.withMemory memory) :=
  ⟨rfl, rfl⟩

/-! ## Nodes -/

/-- The bytes that a new node touches: the directory, its record and its id. -/
def NodeTouches (layout : Layout) (slot query : Nat) : Prop :=
  Stretch layout.directory layout.frontier query ∨
  Stretch (layout.nodeAt slot) (layout.nodeAt slot + 16) query ∨
    Stretch (layout.idAt slot) (layout.idAt slot + 4) query

/-- A new node leaves the records of the others alone. -/
theorem Stores.nodeRecord_of_sameExcept (stores : graph.Stores layout pages content)
    (room : content.ids.length < graph.config.nodeBound) {memory : Memory}
    (same : Memory.SameExcept (NodeTouches layout content.ids.length) graph.memory
      memory)
    {slot : Nat} (inside : slot < content.ids.length) :
    (Record.read memory (layout.nodeAt slot) : Node)
      = Record.read graph.memory (layout.nodeAt slot) := by
  have nodesEnd := stores.nodes_le
  have idsEnd := stores.ids_le
  apply same.read_eq
  intro query lower upper touched
  rw [Record.size_node] at upper
  simp only [Layout.nodeAt] at lower upper
  simp only [NodeTouches, Stretch, Layout.nodeAt, Layout.idAt] at touched
  omega

/-- A graph stores a further node once the directory knows it and its record and id are
in place. -/
theorem Stores.withId (stores : graph.Stores layout pages content)
    (fresh : id ∉ content.ids) (room : content.ids.length < graph.config.nodeBound)
    {directory : Directory} {memory : Memory}
    (holds : directory.Holds graph.arena.window.address layout.directory layout.frontier
      memory ((id, graph.nodeOf layout content.ids.length) :: Roll.ofIds
      (graph.nodeOf layout) content.ids))
    (capacity : directory.HasRoom graph.config.nodeBound)
    (same : Memory.SameExcept (NodeTouches layout content.ids.length) graph.memory
      memory)
    (record : (Record.read memory (layout.nodeAt content.ids.length) : Node)
      = Node.fresh)
    (named : (Record.read memory (layout.idAt content.ids.length) : UInt32) = id) :
    Stores { graph.withMemory memory with
      directory, nodeCount := graph.nodeCount + 1 } layout pages
      (content.withId id) := by
  have nodesEnd := stores.nodes_le
  have idsEnd := stores.ids_le
  have directoryEnd := stores.directory_le
  have frontierEnd := stores.frontier_le
  have ids_eq := Multigraph.ids_withId_of_not_mem fresh
  have length_eq : (content.withId id).ids.length = content.ids.length + 1 := by
    simp [ids_eq]
  constructor
  case toLaidOut => exact { stores.toLaidOut.withMemory memory with }
  case nodeCount_eq =>
    rw [length_eq]
    exact congrArg (· + 1) stores.nodeCount_eq
  case nodeCount_le =>
    rw [length_eq]
    exact room
  case edgeCount_eq =>
    rw [Multigraph.links_withId]
    exact stores.edgeCount_eq
  case edgeCount_le =>
    rw [Multigraph.links_withId]
    exact stores.edgeCount_le
  case pageCount_le =>
    rw [Multigraph.pageCount_withId]
    exact stores.pageCount_le
  case id_eq =>
    intro slot other here
    rw [ids_eq] at here
    by_cases isNew : slot = content.ids.length
    · subst isNew
      rw [List.getElem?_append_right (Nat.le_refl _), Nat.sub_self,
        List.getElem?_cons_zero, Option.some.injEq] at here
      rw [← here]
      exact named
    · obtain ⟨inside, _⟩ := List.getElem?_eq_some_iff.mp here
      rw [List.length_append, List.length_singleton] at inside
      rw [List.getElem?_append_left (by omega)] at here
      rw [← stores.id_eq slot other here]
      apply same.read_eq
      intro query lower upper touched
      rw [Record.size_word] at upper
      simp only [Layout.idAt] at lower upper
      simp only [NodeTouches, Stretch, Layout.nodeAt, Layout.idAt] at touched
      omega
  case directory_holds =>
    rw [ids_eq, Roll.ofIds_append]
    exact holds
  case directory_room => exact capacity
  case pages_eq_nil => exact fun slot beyond => stores.pages_eq_nil slot (by omega)
  case page_eq => exact stores.page_eq
  case pages_nodup => exact stores.pages_nodup
  case pages_disjoint => exact stores.pages_disjoint
  case chain =>
    intro slot inside
    by_cases isNew : slot = content.ids.length
    · subst isNew
      rw [stores.pages_eq_nil _ (Nat.le_refl _), Multigraph.hops_withId_self fresh]
      exact ⟨congrArg Node.firstPage record, rfl⟩
    · have oldInside : slot < content.ids.length := by omega
      have old := stores.chain slot oldInside
      rw [← stores.nodeRecord_of_sameExcept room same oldInside] at old
      rw [Multigraph.hops_withId oldInside]
      apply old.congr
      intro position member
      have behind := (stores.page_spans member).2
      apply same.read_eq
      intro query lower upper touched
      simp only [NodeTouches, Stretch, Layout.nodeAt, Layout.idAt] at touched
      omega

/-- As long as there is a slot left, the next node stands in it. -/
theorem Stores.nextNode (stores : graph.Stores layout pages content)
    (room : content.ids.length < graph.config.nodeBound) :
    ¬ graph.nodeCount = graph.config.nodeBound ∧
      graph.nodeAddress graph.nodeCount
        = .ok (graph.arena.window.address (layout.nodeAt content.ids.length)) ∧
      NodeRef.ofWord? (graph.arena.window.address (layout.nodeAt content.ids.length))
        = some (graph.nodeOf layout content.ids.length) := by
  rw [stores.nodeCount_eq]
  exact ⟨Nat.ne_of_lt room, stores.nodeAddress_eq room,
    NodeRef.ofWord?_eq (stores.address_ne_null room)⟩

/-- What creating a node writes: an entry of the directory, a fresh record and the
id. -/
theorem Stores.createNode_writes (stores : graph.Stores layout pages content)
    (room : content.ids.length < graph.config.nodeBound)
    (allowed : ∀ greatest ∈ graph.directory.greatest?, id ≤ greatest) :
    ∃ directory memory,
      createNode id graph = .ok (graph.nodeOf layout content.ids.length)
        { graph.withMemory memory with directory, nodeCount := graph.nodeCount + 1 } ∧
      Memory.SameExcept (NodeTouches layout content.ids.length) graph.memory memory ∧
      (Record.read memory (layout.nodeAt content.ids.length) : Node) = Node.fresh ∧
      (Record.read memory (layout.idAt content.ids.length) : UInt32) = id ∧
      directory.Holds graph.arena.window.address layout.directory layout.frontier memory
        ((id, graph.nodeOf layout content.ids.length) :: Roll.ofIds
          (graph.nodeOf layout) content.ids) ∧
      directory.HasRoom graph.config.nodeBound ∧
      directory.greatest? = graph.directory.greatest? := by
  have sound := stores.arena_sound
  have nodesEnd := stores.nodes_le
  have idsEnd := stores.ids_le
  have nodeSpans := stores.node_spans room
  have idSpans := stores.id_spans room
  obtain ⟨directory, entered, inserted, holds, sameEntered, sameGreatest, capacity⟩ :=
    stores.directory_holds.insert_eq sound.window_sound stores.low_le_directory
      stores.frontier_le_high
      stores.directory_room (by rw [Roll.length_ofIds]; exact room) allowed
        (graph.nodeOf layout content.ids.length)
  obtain ⟨recorded, recorded_eq⟩ :
      ∃ recorded, recorded
        = Record.write entered (layout.nodeAt content.ids.length) Node.fresh := ⟨_, rfl⟩
  obtain ⟨named, named_eq⟩ : ∃ named,
      named = Record.write recorded (layout.idAt content.ids.length) id := ⟨_, rfl⟩
  refine ⟨directory, named, ?_, ?_, ?_, ?_, ?_, capacity, sameGreatest⟩
  · obtain ⟨notFull, address, present⟩ := stores.nextNode room
    have idAddress : graph.idAddress graph.nodeCount
        = .ok (graph.arena.window.address (layout.idAt content.ids.length)) := by
      rw [stores.nodeCount_eq]
      exact stores.idAddress_eq room
    have storedRecord :
        store (graph.arena.window.address (layout.nodeAt content.ids.length)) Node.fresh
        { graph.withMemory entered with directory }
        = .ok () { graph.withMemory recorded with directory } := by
      rw [recorded_eq]
      have soundEntered :
          ({ graph.withMemory entered with directory } : Graph).arena.Sound :=
        sound.withMemory entered
      exact (store_eq soundEntered nodeSpans (by decide) Node.fresh :)
    have storedId :
        store (graph.arena.window.address (layout.idAt content.ids.length)) id
        { graph.withMemory recorded with directory }
        = .ok () { graph.withMemory named with directory } := by
      rw [named_eq]
      have soundRecorded :
          ({ graph.withMemory recorded with directory } : Graph).arena.Sound :=
        sound.withMemory recorded
      exact (store_eq soundRecorded idSpans (by decide) id :)
    simp only [createNode, Action.get_bind_apply, if_neg notFull, address,
      Action.liftM_ok_bind_apply, present,
      Action.bind_ok (onMemory_eq_ok inserted), Action.modify_bind_apply, idAddress]
    refine (Action.bind_ok storedRecord).trans ?_
    exact Action.bind_ok storedId
  · rw [named_eq, recorded_eq]
    refine .trans (sameEntered.mono fun _ touched => .inl touched)
      (.trans (Memory.sameExcept_write _ _ _ ?_)
      (Memory.sameExcept_write _ _ _ ?_))
    · exact fun query lower upper => .inr (.inl ⟨lower, upper⟩)
    · exact fun query lower upper => .inr (.inr ⟨lower, upper⟩)
  · rw [named_eq, recorded_eq, Record.read_write_of_disjoint, Record.read_write]
    simp only [Layout.nodeAt, Layout.idAt, Record.size_node, Record.size_word]
    omega
  · rw [named_eq, Record.read_write]
  · apply holds.congr
    intro query within
    have start := within.1
    rw [named_eq, Record.get_write, recorded_eq, Record.get_write]
    · simp only [Layout.nodeAt, Record.size_node]
      omega
    · simp only [Layout.idAt, Record.size_word]
      omega

/-- A node is created as long as there is a slot for it and the directory takes its
id. -/
theorem Stores.createNode_eq_ok (stores : graph.Stores layout pages content)
    (fresh : id ∉ content.ids) (room : content.ids.length < graph.config.nodeBound)
    (allowed : ∀ greatest ∈ graph.directory.greatest?, id ≤ greatest) :
    ∃ after, createNode id graph = .ok (graph.nodeOf layout content.ids.length) after ∧
      after.Stores layout pages (content.withId id) ∧ Kin graph after ∧
      after.pageCount = graph.pageCount := by
  obtain ⟨directory, memory, created, same, record, named, holds, capacity,
      sameGreatest⟩ :=
    stores.createNode_writes room allowed
  refine ⟨_, created, stores.withId fresh room holds capacity same record named,
    ⟨rfl, ?_⟩, rfl⟩
  simp only [limits, sameGreatest]
  rfl

/-- An id that the directory does not take is refused before anything is written. -/
theorem Stores.createNode_of_beyond (stores : graph.Stores layout pages content)
    (room : content.ids.length < graph.config.nodeBound) {greatest : UInt32}
    (bounded : graph.directory.greatest? = some greatest) (beyond : greatest < id) :
    createNode id graph = .error (.idBeyondTable id.toNat greatest.toNat) graph := by
  obtain ⟨notFull, address, present⟩ := stores.nextNode room
  have refused := Directory.insert_of_greatest_lt bounded beyond graph.arena.window
    (graph.nodeOf layout content.ids.length) graph.memory
  simp only [createNode, Action.get_bind_apply, if_neg notFull, address,
    Action.liftM_ok_bind_apply, present]
  exact Action.bind_error (onMemory_eq_error refused)

/-- A graph stores a multigraph under limits, with no page to spare. -/
structure Represents (graph : Graph) (layout : Layout) (limits : Multigraph.Limits)
    (content : Multigraph) : Prop where
  stored : ∃ pages, graph.Stores layout pages content
  tight : graph.pageCount = content.pageCount
  limits_eq : graph.limits = limits

variable {limits : Multigraph.Limits}

/-- Adding a node to a graph is adding it to the multigraph that it represents. -/
theorem Represents.addNode (represents : graph.Represents layout limits content)
    (id : UInt32) :
    match Multigraph.addNode limits id content with
    | .ok _ next =>
      ∃ after, Graph.addNode id graph = .ok (graph.nodeOf layout (next.slot id)) after ∧
        id ∈ next.ids ∧ after.Represents layout limits next ∧ Kin graph after
    | .error fault next =>
      Graph.addNode id graph = .error fault graph ∧ next = content := by
  obtain ⟨⟨pages, stores⟩, tight, rfl⟩ := represents
  by_cases present : id ∈ content.ids
  · rw [Multigraph.addNode_of_mem present]
    exact ⟨graph, stores.addNode_of_mem present, present, ⟨⟨pages, stores⟩, tight, rfl⟩,
      .refl graph⟩
  have creating : Graph.addNode id graph = createNode id graph := by
    simp only [Graph.addNode, Action.bind_ok (stores.find_of_not_mem present)]
  rw [creating]
  by_cases full : content.ids.length = graph.config.nodeBound
  · rw [Multigraph.addNode_of_full present full]
    have noSlot : graph.nodeCount = graph.config.nodeBound :=
      stores.nodeCount_eq.trans full
    refine ⟨?_, rfl⟩
    simp only [createNode, Action.get_bind_apply, if_pos noSlot,
      Action.throw_bind_apply]
    rfl
  have room : content.ids.length < graph.config.nodeBound :=
    Nat.lt_of_le_of_ne stores.nodeCount_le full
  by_cases allowed : ∀ greatest ∈ graph.directory.greatest?, id ≤ greatest
  · rw [Multigraph.addNode_of_fresh present full allowed]
    obtain ⟨after, created, storesAfter, kin, samePages⟩ :=
      stores.createNode_eq_ok present room allowed
    refine ⟨after, ?_, Multigraph.mem_withId.mpr (.inr rfl),
      ⟨⟨pages, storesAfter⟩, ?_, kin.limits_eq⟩, kin⟩
    · rw [created, Multigraph.slot_withId_self present]
    · rw [samePages, tight, Multigraph.pageCount_withId]
  · simp only [not_forall, UInt32.not_le] at allowed
    obtain ⟨greatest, bounded, beyond⟩ := allowed
    rw [Multigraph.addNode_of_beyond present full bounded beyond]
    exact ⟨stores.createNode_of_beyond room bounded beyond, rfl⟩

end ArenaPaths.Graph
