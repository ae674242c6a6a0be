import ArenaPaths.Proofs.Blocks
import ArenaPaths.Proofs.Histories

/-!
# Refusals

When a graph refuses to grow, and with which fault. An id that is not there yet is
refused if the nodes have reached their bound, or else if it lies beyond the table of a
dense directory. An edge is refused if the edges have reached their bound, or else if
one of its ends is refused, or else if it takes a new page that does not fit. Nothing
else goes wrong: what the code checks besides never fails, no number outgrows a word,
and an edge only ever goes on a page that has room for it.
-/

namespace ArenaPaths

theorem Directory.greatest?_eq_some_iff {directory : Directory} {greatest : UInt32} :
    directory.greatest? = some greatest ↔ directory.strategy = .dense greatest := by
  cases directory with
  | hashed directory => simp [greatest?, strategy]
  | dense directory => simp [greatest?, strategy]

/-- The faults of a step are told exactly if it fails with each fault that is told, and
returns unless there is one. -/
theorem Action.result_eq_error_iff {σ α : Type} {step : Action σ α} {state : σ}
    {told : Fault → Prop}
    (sound : ∀ fault, told fault → step.result state = .error fault)
    (complete : (∃ value, step.result state = .ok value) ∨ ∃ fault, told fault)
    (fault : Fault) :
    step.result state = .error fault ↔ told fault := by
  constructor
  · intro failed
    rcases complete with ⟨value, returned⟩ | ⟨other, isTold⟩
    · rw [returned] at failed
      cases failed
    · have same := sound other isTold
      rw [failed] at same
      cases same
      exact isTold
  · exact sound fault

namespace Graph

variable {graph after : Graph} {layout : Layout} {limits : Multigraph.Limits}
  {content : Multigraph}
variable {id : UInt32} {node : NodeRef} {links : List Link} {link : Link}
  {fault : Fault}

/-! ## Nodes -/

/-- The faults with which a graph refuses an id. An id that it has is never refused. -/
inductive RefusesNode (graph : Graph) (id : UInt32) : Fault → Prop
  | full : ¬ graph.Has id → graph.nodeCount = graph.config.nodeBound →
      RefusesNode graph id (.boundExceeded "nodes" graph.config.nodeBound)
  | beyond {greatest : UInt32} :
      ¬ graph.Has id → graph.nodeCount ≠ graph.config.nodeBound →
      graph.directory.strategy = .dense greatest → greatest < id →
      RefusesNode graph id (.idBeyondTable id.toNat greatest.toNat)

theorem RefusesNode.addNode_eq (refuses : graph.RefusesNode id fault)
    (represents : graph.Represents layout limits content) :
    addNode id graph = .error fault graph := by
  have adding := represents.addNode id
  obtain ⟨⟨pages, stores⟩, _, rfl⟩ := represents
  cases refuses with
  | full absent full =>
    rw [stores.has_iff] at absent
    rw [stores.nodeCount_eq] at full
    rw [Multigraph.addNode_of_full absent full] at adding
    exact adding.1
  | beyond absent room strategy beyond =>
    rw [stores.has_iff] at absent
    rw [stores.nodeCount_eq] at room
    rw [Multigraph.addNode_of_beyond absent room
      (Directory.greatest?_eq_some_iff.mpr strategy) beyond] at adding
    exact adding.1

/-- An id is added to a graph and to the multigraph that it represents, unless it is
refused. -/
theorem Represents.addNode_or_refuses
    (represents : graph.Represents layout limits content) (id : UInt32) :
    (∃ after, Graph.addNode id graph
      = .ok (graph.nodeOf layout ((content.withId id).slot id)) after ∧
      after.Represents layout limits (content.withId id) ∧ Kin graph after) ∨
    ∃ fault, graph.RefusesNode id fault := by
  have adding := represents.addNode id
  obtain ⟨⟨pages, stores⟩, _, limits_eq⟩ := represents
  by_cases present : id ∈ content.ids
  · left
    rw [Multigraph.addNode_of_mem present] at adding
    obtain ⟨after, added, _, representsAfter, kin⟩ := adding
    rw [Multigraph.withId_of_mem present]
    exact ⟨after, added, representsAfter, kin⟩
  have absent := mt stores.has_iff.mp present
  by_cases full : content.ids.length = limits.nodeBound
  · have fullHere : graph.nodeCount = graph.config.nodeBound := by
      rw [stores.nodeCount_eq, full, ← limits_eq]
      rfl
    exact .inr ⟨_, .full absent fullHere⟩
  by_cases allowed : ∀ greatest ∈ limits.greatest?, id ≤ greatest
  · left
    rw [Multigraph.addNode_of_fresh present full allowed] at adding
    obtain ⟨after, added, _, representsAfter, kin⟩ := adding
    exact ⟨after, added, representsAfter, kin⟩
  · right
    simp only [not_forall, UInt32.not_le] at allowed
    obtain ⟨greatest, bounded, beyond⟩ := allowed
    rw [← limits_eq] at full bounded
    rw [← stores.nodeCount_eq] at full
    exact ⟨_, .beyond absent full (Directory.greatest?_eq_some_iff.mp bounded) beyond⟩

/-- What an added id leaves behind. -/
theorem Represents.of_addNode_eq_ok
    (represents : graph.Represents layout limits content)
    (added : Graph.addNode id graph = .ok node after) :
    node = graph.nodeOf layout ((content.withId id).slot id) ∧
    after.Represents layout limits (content.withId id) ∧
      Kin graph after := by
  rcases represents.addNode_or_refuses id with
    ⟨left, done, representsLeft, kin⟩ | ⟨fault, refuses⟩
  · rw [added] at done
    cases done
    exact ⟨rfl, representsLeft, kin⟩
  · rw [refuses.addNode_eq represents] at added
    cases added

/-! ## Edges -/

/-- The faults with which a graph refuses an edge, given the edges that it has. A new
page is due if the edges of the source fill whole pages, and it takes the bytes of a
page in whole granules. -/
inductive RefusesEdge (graph : Graph) (links : List Link) (link : Link) : Fault → Prop
  | full : graph.edgeCount = graph.config.edgeBound →
      RefusesEdge graph links link (.boundExceeded "edges" graph.config.edgeBound)
  | source {fault : Fault} :
      graph.edgeCount ≠ graph.config.edgeBound → graph.RefusesNode link.source fault →
      RefusesEdge graph links link fault
  | target {source : NodeRef} {between : Graph} {fault : Fault} :
      graph.edgeCount ≠ graph.config.edgeBound →
      addNode link.source graph = .ok source between →
      between.RefusesNode link.target fault →
      RefusesEdge graph links link fault
  | page {source target : NodeRef} {between both : Graph} {length : Nat} :
      graph.edgeCount ≠ graph.config.edgeBound →
      addNode link.source graph = .ok source between →
      addNode link.target between = .ok target both →
      (links.filter fun other => other.source = link.source).length % 8 = 0 →
      IsLeast {length | graph.arena.granule ∣ length ∧ 72 ≤ length} length →
      graph.arena.remaining < length →
      RefusesEdge graph links link (.arenaExhausted 72 graph.arena.remaining)

/-- Past the check of the bound, an edge is added by adding its ends and attaching it to
them. -/
theorem addEdge_of_room (room : graph.edgeCount ≠ graph.config.edgeBound)
    (link : Link) :
    addEdge link.source link.target link.cost graph =
      (do
        let source ← addNode link.source
        let target ← addNode link.target
        attach source target link.cost : Action Graph Unit) graph := by
  simp only [addEdge, attach, Action.get_bind_apply, if_neg room]

/-- The bytes of a page in whole granules. -/
theorem isLeast_pageLength (sound : graph.arena.Sound) :
    IsLeast {length | graph.arena.granule ∣ length ∧ 72 ≤ length} graph.pageLength :=
  Arena.isLeast_blockLength sound.granule_pos 72

namespace Represents

variable {source target : NodeRef} {between both : Graph}

/-- Once both ends are there, an edge is attached to them unless it takes a new page
that does not fit. The ends take nothing of what the arena has left. -/
theorem attach_ends (represents : graph.Represents layout limits content)
    (room : graph.edgeCount ≠ graph.config.edgeBound)
    (sourceAdded : Graph.addNode link.source graph = .ok source between)
    (targetAdded : Graph.addNode link.target between = .ok target both) :
    if (content.outgoing link.source).length % 8 = 0 ∧
        graph.arena.remaining < graph.pageLength then
      Graph.attach source target link.cost both
        = .error (.arenaExhausted 72 graph.arena.remaining) both
    else ∃ after, Graph.attach source target link.cost both = .ok () after := by
  obtain ⟨rfl, representsBetween, kinSource⟩ := represents.of_addNode_eq_ok sourceAdded
  obtain ⟨rfl, representsBoth, kinTarget⟩ :=
    representsBetween.of_addNode_eq_ok targetAdded
  have kin := kinSource.trans kinTarget
  have hasSource : link.source ∈ (content.withId link.source).ids :=
    Multigraph.mem_withId.mpr (.inr rfl)
  have sameRemaining : limits.remaining
      ((content.withId link.source).withId link.target) = graph.arena.remaining := by
    rw [← represents.remaining_eq, Multigraph.Limits.remaining,
      Multigraph.pageCount_withId,
      Multigraph.pageCount_withId, Multigraph.Limits.remaining]
  have bound : ((content.withId link.source).withId link.target).links.length
      < both.config.edgeBound := by
    obtain ⟨pages, stores⟩ := represents.stored
    have le := stores.edgeCount_le
    rw [stores.edgeCount_eq] at room
    rw [Multigraph.links_withId, Multigraph.links_withId, kin.edgeBound_eq]
    omega
  have attached := representsBoth.attach (Multigraph.mem_withId.mpr (.inl hasSource))
    (Multigraph.mem_withId.mpr (.inr rfl)) bound
  rw [Multigraph.outgoing_withId, Multigraph.outgoing_withId, sameRemaining,
    represents.pageLength_eq,
    Multigraph.slot_withId hasSource, kin.nodeOf_eq] at attached
  rw [kinSource.nodeOf_eq]
  split at attached
  · rename_i due
    rw [if_pos due]
    exact attached
  · rename_i fits
    obtain ⟨after, done, _⟩ := attached
    rw [if_neg fits]
    exact ⟨after, done⟩

/-- An edge that is refused fails with the fault with which it is refused. -/
theorem result_of_refusesEdge (represents : graph.Represents layout limits content)
    (refuses : graph.RefusesEdge content.links link fault) :
    (Graph.addEdge link.source link.target link.cost).result graph = .error fault := by
  cases refuses with
  | full full =>
    have failed : Graph.addEdge link.source link.target link.cost graph
        = .error (.boundExceeded "edges" graph.config.edgeBound) graph := by
      simp only [Graph.addEdge, Action.get_bind_apply, if_pos full,
        Action.throw_bind_apply]
    exact Action.result_of_error failed
  | source room refuses =>
    have refused := refuses.addNode_eq represents
    exact Action.result_of_error
      ((addEdge_of_room room link).trans (Action.bind_error refused))
  | target room sourceAdded refuses =>
    obtain ⟨_, representsBetween, _⟩ := represents.of_addNode_eq_ok sourceAdded
    have refused := refuses.addNode_eq representsBetween
    apply Action.result_of_error
    rw [addEdge_of_room room link, Action.bind_ok sourceAdded]
    exact Action.bind_error refused
  | page room sourceAdded targetAdded filled least short =>
    obtain ⟨pages, stores⟩ := represents.stored
    obtain rfl := least.unique (isLeast_pageLength stores.arena_sound)
    have attached := represents.attach_ends room sourceAdded targetAdded
    rw [if_pos ⟨filled, short⟩] at attached
    apply Action.result_of_error
    rw [addEdge_of_room room link, Action.bind_ok sourceAdded,
      Action.bind_ok targetAdded]
    exact attached

/-- An edge is added unless it is refused. -/
theorem addEdge_or_refuses (represents : graph.Represents layout limits content)
    (link : Link) :
    (∃ value,
      (Graph.addEdge link.source link.target link.cost).result graph = .ok value) ∨
      ∃ fault, graph.RefusesEdge content.links link fault := by
  by_cases full : graph.edgeCount = graph.config.edgeBound
  · exact .inr ⟨_, .full full⟩
  rcases represents.addNode_or_refuses link.source with
    ⟨between, sourceAdded, representsBetween, _⟩ | ⟨fault, refuses⟩
  case inr => exact .inr ⟨fault, .source full refuses⟩
  rcases representsBetween.addNode_or_refuses link.target with
    ⟨both, targetAdded, _⟩ | ⟨fault, refuses⟩
  case inr => exact .inr ⟨fault, .target full sourceAdded refuses⟩
  have attached := represents.attach_ends full sourceAdded targetAdded
  split at attached
  · rename_i due
    obtain ⟨pages, stores⟩ := represents.stored
    exact .inr ⟨_, .page full sourceAdded targetAdded due.1
      (isLeast_pageLength stores.arena_sound) due.2⟩
  · obtain ⟨after, done⟩ := attached
    refine .inl ⟨(), ?_⟩
    apply Action.result_of_ok
    rw [addEdge_of_room full link, Action.bind_ok sourceAdded,
      Action.bind_ok targetAdded]
    exact done

end Represents

/-! ## Pages and words -/

/-- A new page is blank, also once it is linked to its node. -/
theorem Stores.read_freshPage_linked {pages : Nat → List Nat}
    (stores : graph.Stores layout pages content) {slot : Nat}
    (inside : slot < content.ids.length) :
    (Record.read (graph.linked layout (pages slot) slot) graph.arena.used : Page)
      = Page.blank := by
  rw [← read_freshPage stores.arena_sound, linked]
  split
  · have below := (stores.node_spans (stores.slot_lt_bound inside)).le_high
    exact Record.read_write_of_disjoint _ _ (.inr below)
  · rename_i present
    have below := (stores.page_spans (List.getLast_mem present)).1.le_high
    exact Record.read_write_of_disjoint _ _ (.inr below)

/-- The page that is opened for a further edge has room for it. -/
theorem Stores.isFull_openPage {pages : Nat → List Nat}
    (stores : graph.Stores layout pages content) {slot : Nat}
    (inside : slot < content.ids.length) {page : PageRef}
    (opened : openPage (graph.nodeOf layout slot) graph = .ok page after) :
    ∃ record, load Page page.address after = .ok record after ∧
      record.isFull = false := by
  by_cases filled : (content.hops slot).length % 8 = 0
  · by_cases full : graph.arena.capacity < graph.arena.used + graph.pageLength
    · rw [stores.openPage_eq_error inside filled full] at opened
      cases opened
    · have room := Nat.not_lt.mp full
      rw [stores.openPage_of_filled inside filled room] at opened
      cases opened
      have sound : (graph.paged.withMemory
            (graph.linked layout (pages slot) slot)).arena.Sound :=
        (stores.paged room).arena_sound.withMemory _
      refine ⟨_, load_eq sound stores.freshPage_spans (by decide), ?_⟩
      exact congrArg Page.isFull (stores.read_freshPage_linked inside)
  · obtain ⟨present, last, refers, lastOpened⟩ := stores.openPage_of_open inside filled
    rw [lastOpened] at opened
    cases opened
    refine ⟨_, ?_,
      Bool.eq_false_iff.mpr (mt (stores.isFull_lastPage inside present).mp filled)⟩
    rw [refers]
    exact load_eq stores.arena_sound (stores.page_spans (List.getLast_mem present)).1
      (by decide)

/-- All that a graph counts would still fit in a word if there were one more of it, and
so do the addresses of all bytes of its arena. -/
structure FitsWords (graph : Graph) : Prop where
  nodeCount_lt : graph.nodeCount + 1 < UInt32.size
  edgeCount_lt : graph.edgeCount + 1 < UInt32.size
  pageCount_lt : graph.pageCount + 1 < UInt32.size
  entries_lt : ∀ directory, graph.directory = .hashed directory →
    directory.used + 1 < UInt32.size
  address_lt : ∀ position < graph.arena.capacity,
    graph.arena.base.toNat + position < UInt32.size

theorem Stores.fitsWords {pages : Nat → List Nat}
    (stores : graph.Stores layout pages content) : graph.FitsWords := by
  have nodesEnd := stores.nodes_le
  have idsEnd := stores.ids_le
  have directoryEnd := stores.directory_le
  have frontierEnd := stores.frontier_le
  have floor := stores.floor_le_used
  have used := stores.arena_sound.used_le_capacity
  have stop := stores.arena_sound.base_add_capacity_le
  have nodesFit := stores.nodeCount_le
  have large : 16 < UInt32.size := by decide
  have few : content.ids.length + 1 < UInt32.size := by omega
  constructor
  case nodeCount_lt =>
    rw [stores.nodeCount_eq]
    exact few
  case edgeCount_lt =>
    -- the frontier has a slot for every edge, and it stands in the arena
    have slots := stores.room
    rw [stores.edgeCount_eq]
    omega
  case pageCount_lt =>
    have enough : 72 ≤ graph.pageLength :=
      Arena.le_blockLength stores.arena_sound.granule_pos 72
    have pagesFit := Nat.mul_le_mul_left graph.pageCount enough
    have used_eq := stores.used_eq
    omega
  case entries_lt =>
    intro directory isHashed
    have holds := stores.directory_holds
    rw [isHashed] at holds
    obtain ⟨_, _, holds⟩ := holds
    rw [holds.used_eq, Roll.length_ofIds]
    exact few
  case address_lt =>
    intro position inside
    omega

/-- A graph that a program can hold refuses an id and an edge exactly with the faults
that are told, and with no other. Queries before it do not matter, over accelerators
neither if they wrote no more than bytes of searches. An edge that is not refused finds
room on the page that is opened for it, and no number outgrows a word. -/
theorem refuses_exactly (built : Built graph links) :
    (∀ id fault, (addNode id).result graph = .error fault ↔
      graph.RefusesNode id fault) ∧
    (∀ link fault,
      (addEdge link.source link.target link.cost).result graph = .error fault ↔
        graph.RefusesEdge links link fault) ∧
    (∀ id node page after, find id graph = .ok (some node) graph →
      openPage node graph = .ok page after →
      ∃ record, load Page page.address after = .ok record after ∧
        record.isFull = false) ∧
    graph.FitsWords := by
  obtain ⟨layout, limits, content, represents, rfl⟩ := built.represents
  obtain ⟨pages, stores⟩ := represents.stored
  refine ⟨?nodes, ?edges, ?page, stores.fitsWords⟩
  case nodes =>
    intro id
    apply Action.result_eq_error_iff
    · exact fun fault refuses => Action.result_of_error (refuses.addNode_eq represents)
    · rcases represents.addNode_or_refuses id with ⟨after, added, _⟩ | refused
      · exact .inl ⟨_, Action.result_of_ok added⟩
      · exact .inr refused
  case edges =>
    intro link
    apply Action.result_eq_error_iff
    · exact fun fault refuses => represents.result_of_refusesEdge refuses
    · exact represents.addEdge_or_refuses link
  case page =>
    intro id node page after found opened
    obtain ⟨present, rfl, _⟩ := stores.of_find_eq_some found
    exact stores.isFull_openPage (Multigraph.slot_lt_iff.mpr present) opened

/-- Two nodes and an edge in an arena that ends at the last address: a third node is
beyond the bound, and the first edge of the second node has no page left, while the
first node has room on its own. -/
theorem refuses_exactly_up_to_last_address :
    ∃ graph, Built graph [⟨1, 2, 5⟩] ∧ graph.RefusesNode 3 (.boundExceeded "nodes" 2) ∧
      graph.RefusesEdge [⟨1, 2, 5⟩] ⟨2, 1, 0⟩ (.arenaExhausted 72 64) ∧
      ∀ fault, ¬ graph.RefusesEdge [⟨1, 2, 5⟩] ⟨1, 2, 7⟩ fault := by
  obtain ⟨graph, built, noNode, noPage, added⟩ : ∃ graph, Built graph [⟨1, 2, 5⟩] ∧
      (addNode 3).result graph = .error (.boundExceeded "nodes" 2) ∧
      (addEdge 2 1 0).result graph = .error (.arenaExhausted 72 64) ∧
      (addEdge 1 2 7).result graph = .ok () :=
    exists_built ⟨.heap, 0xFFFFFE00, 512, .zeros⟩ 64 ⟨2, 3, .dense 9⟩
      [.addEdge ⟨1, 2, 5⟩] (by decide +kernel)
  obtain ⟨nodes, edges, _⟩ := refuses_exactly built
  refine ⟨graph, built, (nodes 3 _).mp noNode, (edges ⟨2, 1, 0⟩ _).mp noPage, ?_⟩
  intro fault refuses
  have failed := (edges ⟨1, 2, 7⟩ fault).mpr refuses
  rw [added] at failed
  cases failed

end Graph

end ArenaPaths
