import ArenaPaths.Proofs.Refusals

/-!
# Edges that fail

Adding an edge adds its ends first, and an end that was added stays when the edge fails.
That is all that stays. The graph is then the one that adding just those ends would have
left, so it goes on as if nobody had tried the edge: the nodes that were there have
their records, ids and arcs as before, the new ones have no arcs, and neither pages nor
bytes of the arena are taken. An edge that is refused for the bound on edges does not
even add its ends.

Main statement: `Graph.failed_edge_adds_ends_only`.
-/

namespace ArenaPaths.Graph

open ArenaPaths.Action

variable {graph between after : Graph} {layout : Layout} {pages : Nat → List Nat}
  {content : Multigraph}
variable {limits : Multigraph.Limits} {links : List Link} {link : Link} {fault : Fault}
variable {id : UInt32} {node : NodeRef} {ids more : List UInt32}

/-- What a graph tells about an id that it has: the node, whose id it is, the record and
the arcs. -/
structure Lists (graph : Graph) (id : UInt32) (node : NodeRef) (record : Node)
    (arcs : List Arc) : Prop where
  find_eq : find id graph = .ok (some node) graph
  idOf_eq : idOf node graph = .ok id graph
  nodeRecord_eq : nodeRecord node graph = .ok record graph
  arcs_eq : Graph.arcs node graph = .ok arcs graph

theorem Lists.unique {record otherRecord : Node} {arcs otherArcs : List Arc}
    {other : NodeRef} (lists : graph.Lists id node record arcs)
    (otherwise : graph.Lists id other otherRecord otherArcs) :
    other = node ∧ otherRecord = record ∧ otherArcs = arcs := by
  have sameNode := otherwise.find_eq.symm.trans lists.find_eq
  cases sameNode
  have sameRecord := otherwise.nodeRecord_eq.symm.trans lists.nodeRecord_eq
  have sameArcs := otherwise.arcs_eq.symm.trans lists.arcs_eq
  cases sameRecord
  cases sameArcs
  exact ⟨rfl, rfl, rfl⟩

theorem Stores.lists (stores : graph.Stores layout pages content)
    (present : id ∈ content.ids) :
    graph.Lists id (graph.nodeOf layout (content.slot id))
      (Record.read graph.memory (layout.nodeAt (content.slot id)))
      ((content.hops (content.slot id)).map (graph.arcOf layout)) := by
  have inside := Multigraph.slot_lt_iff.mpr present
  exact ⟨stores.find_of_mem present,
    stores.idOf_nodeOf (Multigraph.getElem?_slot present),
    stores.nodeRecord_nodeOf inside, stores.arcs_nodeOf inside⟩

/-- A graph has new nodes and is otherwise as it was: it is what adding their ids
leaves. -/
structure GrownBy (graph after : Graph) (ids : List UInt32) : Prop where
  added : ∃ nodes : List NodeRef,
    outcomes (ids.map addNode) graph = (nodes.map Except.ok, after)
  distinct : ids.Nodup
  created : ∀ id ∈ ids, ¬ graph.Has id ∧ ∃ node, after.Lists id node Node.fresh []
  kept : ∀ id, graph.Has id → ∃ node record arcs, graph.Lists id node record arcs ∧
    after.Lists id node record arcs
  has_iff : ∀ id, after.Has id ↔ graph.Has id ∨ id ∈ ids
  nodeCount_eq : after.nodeCount = graph.nodeCount + ids.length
  edgeCount_eq : after.edgeCount = graph.edgeCount
  pageCount_eq : after.pageCount = graph.pageCount
  used_eq : after.arena.used = graph.arena.used
  allocations_eq : after.arena.allocations = graph.arena.allocations

/-- A graph that stays as it is has grown by nothing. -/
theorem Stores.grownBy_nil (stores : graph.Stores layout pages content) :
    graph.GrownBy graph [] where
  added := ⟨[], rfl⟩
  distinct := List.nodup_nil
  created := fun _ member => absurd member List.not_mem_nil
  kept := fun _ has => ⟨_, _, _, stores.lists (stores.has_iff.mp has),
      stores.lists (stores.has_iff.mp has)⟩
  has_iff := fun _ => by simp
  nodeCount_eq := rfl
  edgeCount_eq := rfl
  pageCount_eq := rfl
  used_eq := rfl
  allocations_eq := rfl

theorem GrownBy.kept_lists (grown : graph.GrownBy after ids) {record : Node}
    {arcs : List Arc} (lists : graph.Lists id node record arcs) :
    after.Lists id node record arcs := by
  obtain ⟨other, otherRecord, otherArcs, before, still⟩ :=
    grown.kept id ⟨node, lists.find_eq⟩
  obtain ⟨rfl, rfl, rfl⟩ := lists.unique before
  exact still

/-- Growing twice is growing by all the nodes. -/
theorem GrownBy.trans (first : graph.GrownBy between ids)
    (second : between.GrownBy after more) :
    graph.GrownBy after (ids ++ more) := by
  constructor
  case added =>
    obtain ⟨nodes, ran⟩ := first.added
    obtain ⟨others, ranOthers⟩ := second.added
    refine ⟨nodes ++ others, ?_⟩
    rw [List.map_append, List.map_append]
    exact outcomes_append ran ranOthers
  case distinct =>
    refine List.nodup_append'.mpr ⟨first.distinct, second.distinct, ?_⟩
    intro id earlier later
    exact (second.created id later).1 ((first.has_iff id).mpr (.inr earlier))
  case created =>
    intro id member
    rcases List.mem_append.mp member with earlier | later
    · obtain ⟨absent, node, lists⟩ := first.created id earlier
      exact ⟨absent, node, second.kept_lists lists⟩
    · obtain ⟨absent, lists⟩ := second.created id later
      exact ⟨fun has => absent ((first.has_iff id).mpr (.inl has)), lists⟩
  case kept =>
    intro id has
    obtain ⟨node, record, arcs, before, still⟩ := first.kept id has
    exact ⟨node, record, arcs, before, second.kept_lists still⟩
  case has_iff =>
    intro id
    rw [second.has_iff, first.has_iff, List.mem_append, or_assoc]
  case nodeCount_eq =>
    rw [second.nodeCount_eq, first.nodeCount_eq, List.length_append, Nat.add_assoc]
  case edgeCount_eq => exact second.edgeCount_eq.trans first.edgeCount_eq
  case pageCount_eq => exact second.pageCount_eq.trans first.pageCount_eq
  case used_eq => exact second.used_eq.trans first.used_eq
  case allocations_eq => exact second.allocations_eq.trans first.allocations_eq

/-- A created node has a fresh record and no arcs, and the other nodes are as they
were. -/
theorem Stores.grownBy_createNode (stores : graph.Stores layout pages content)
    (fresh : id ∉ content.ids) (room : content.ids.length < graph.config.nodeBound)
    (allowed : ∀ greatest ∈ graph.directory.greatest?, id ≤ greatest) :
    ∃ after, createNode id graph = .ok (graph.nodeOf layout content.ids.length) after ∧
      graph.GrownBy after [id] := by
  obtain ⟨directory, memory, created, same, record, named, holds, capacity, _⟩ :=
    stores.createNode_writes room allowed
  have storesAfter := stores.withId fresh room holds capacity same record named
  have addNode_eq : addNode id graph = createNode id graph := by
    simp only [addNode, bind_ok (stores.find_of_not_mem fresh)]
  refine ⟨_, created, ?_⟩
  constructor
  case added =>
    exact ⟨[_], outcomes_cons (outcome_of_ok (addNode_eq.trans created)) rfl⟩
  case distinct => exact List.nodup_singleton id
  case created =>
    intro other isNew
    obtain rfl := List.mem_singleton.mp isNew
    have lists := storesAfter.lists (Multigraph.mem_withId.mpr (.inr rfl))
    rw [Multigraph.slot_withId_self fresh, Multigraph.hops_withId_self fresh] at lists
    exact ⟨mt stores.has_iff.mp fresh, _, record ▸ lists⟩
  case kept =>
    intro other has
    have present := stores.has_iff.mp has
    have inside := Multigraph.slot_lt_iff.mpr present
    have lists := storesAfter.lists (Multigraph.mem_withId.mpr (.inl present))
    rw [Multigraph.slot_withId present, Multigraph.hops_withId inside] at lists
    have record_eq := stores.nodeRecord_of_sameExcept room same inside
    exact ⟨_, _, _, stores.lists present, record_eq ▸ lists⟩
  case has_iff =>
    intro other
    rw [storesAfter.has_iff, stores.has_iff, Multigraph.mem_withId, List.mem_singleton]
  case nodeCount_eq => rfl
  case edgeCount_eq => rfl
  case pageCount_eq => rfl
  case used_eq => rfl
  case allocations_eq => rfl

/-- Adding an id makes the graph grow by the id, or by nothing if it was there. -/
theorem Represents.grownBy_addNode (represents : graph.Represents layout limits content)
    (added : Graph.addNode id graph = .ok node after) : ∃ ids, ids.Sublist [id] ∧
      graph.GrownBy after ids := by
  obtain ⟨pages, stores⟩ := represents.stored
  by_cases present : id ∈ content.ids
  · rw [stores.addNode_of_mem present] at added
    cases added
    exact ⟨[], List.nil_sublist _, stores.grownBy_nil⟩
  have accepted : ∀ fault, ¬ graph.RefusesNode id fault := by
    intro fault refuses
    rw [refuses.addNode_eq represents] at added
    cases added
  have absent := mt stores.has_iff.mp present
  have notFull : graph.nodeCount ≠ graph.config.nodeBound := fun full =>
    accepted _ (.full absent full)
  have allowed : ∀ greatest ∈ graph.directory.greatest?, id ≤ greatest := by
    intro greatest bounded
    apply UInt32.not_lt.mp
    intro beyond
    exact accepted
      _ (.beyond absent notFull (Directory.greatest?_eq_some_iff.mp bounded) beyond)
  rw [stores.nodeCount_eq] at notFull
  have room := Nat.lt_of_le_of_ne stores.nodeCount_le notFull
  obtain ⟨grownGraph, created, grown⟩ := stores.grownBy_createNode present room allowed
  simp only [Graph.addNode, bind_ok (stores.find_of_not_mem present), created] at added
  cases added
  exact ⟨[id], List.Sublist.refl _, grown⟩

/-- A node that is refused leaves the graph alone, and the bound on edges has no part in
it. -/
theorem Represents.of_addNode_eq_error
    (represents : graph.Represents layout limits content)
    (refused : Graph.addNode id graph = .error fault after) :
    after = graph ∧ ∀ bound, fault ≠ .boundExceeded "edges" bound := by
  rcases represents.addNode_or_refuses id with ⟨grown, added, _⟩ | ⟨told, refuses⟩
  · rw [added] at refused
    cases refused
  · rw [refuses.addNode_eq represents] at refused
    cases refused
    refine ⟨rfl, ?_⟩
    cases refuses <;> simp

/-- Once both ends are there, an edge that fails leaves the graph alone, and the bound
on edges has no part in it. -/
theorem Represents.of_attach_eq_error {source target : NodeRef} {both : Graph}
    (represents : graph.Represents layout limits content)
    (room : graph.edgeCount ≠ graph.config.edgeBound)
    (sourceAdded : Graph.addNode link.source graph = .ok source between)
    (targetAdded : Graph.addNode link.target between = .ok target both)
    (failed : Graph.attach source target link.cost both = .error fault after) :
    after = both ∧ ∀ bound, fault ≠ .boundExceeded "edges" bound := by
  have attached := represents.attach_ends room sourceAdded targetAdded
  split at attached
  · rw [attached] at failed
    cases failed
    exact ⟨rfl, by simp⟩
  · obtain ⟨done, attached⟩ := attached
    rw [attached] at failed
    cases failed

/-- All that an edge that fails can leave: the graph as it was, or grown by ends of the
edge, if it was not for the bound on edges. -/
theorem Represents.of_addEdge_eq_error
    (represents : graph.Represents layout limits content)
    (failed : Graph.addEdge link.source link.target link.cost graph
      = .error fault after) :
    (graph.edgeCount = graph.config.edgeBound ∧ after = graph) ∨
      (graph.edgeCount ≠ graph.config.edgeBound ∧
        (∀ bound, fault ≠ .boundExceeded "edges" bound) ∧
        ∃ ids, ids.Sublist [link.source, link.target] ∧ graph.GrownBy after ids) := by
  obtain ⟨pages, stores⟩ := represents.stored
  by_cases room : graph.edgeCount = graph.config.edgeBound
  · simp only [Graph.addEdge, get_bind_apply, if_pos room, throw_bind_apply] at failed
    cases failed
    exact .inl ⟨room, rfl⟩
  -- past the bound there are three steps that can fail, and what the ones before have
  -- added stays
  refine .inr ⟨room, ?_⟩
  rw [addEdge_of_room room link] at failed
  cases sourceAdded : Graph.addNode link.source graph with
  | error =>
    rw [bind_error sourceAdded] at failed
    cases failed
    obtain ⟨rfl, other⟩ := represents.of_addNode_eq_error sourceAdded
    exact ⟨other, [], List.nil_sublist _, stores.grownBy_nil⟩
  | ok source between =>
  obtain ⟨first, firstOf, grown⟩ := represents.grownBy_addNode sourceAdded
  obtain ⟨_, representsBetween, _⟩ := represents.of_addNode_eq_ok sourceAdded
  rw [bind_ok sourceAdded] at failed
  cases targetAdded : Graph.addNode link.target between with
  | error =>
    rw [bind_error targetAdded] at failed
    cases failed
    obtain ⟨rfl, other⟩ := representsBetween.of_addNode_eq_error targetAdded
    exact ⟨other, first,
      firstOf.trans (List.sublist_append_left [link.source] [link.target]), grown⟩
  | ok target both =>
  obtain ⟨second, secondOf, grownBoth⟩ := representsBetween.grownBy_addNode targetAdded
  rw [bind_ok targetAdded] at failed
  obtain ⟨rfl, other⟩ :=
    represents.of_attach_eq_error room sourceAdded targetAdded failed
  exact ⟨other, first ++ second, firstOf.append secondOf, grown.trans grownBoth⟩

/-- An edge that fails leaves a graph with the same edges that has grown by no more than
its ends: it is what adding just these ids would have left. If the bound on edges was
the cause, then nothing has changed. Queries before it make no difference, as long as
the accelerators that they used wrote no more than bytes of searches. -/
theorem failed_edge_adds_ends_only (built : Built graph links) (link : Link)
    (failed : addEdge link.source link.target link.cost graph = .error fault after) :
    Built after links ∧
    (∃ ids, ids.Sublist [link.source, link.target] ∧ graph.GrownBy after ids) ∧
      ((graph.edgeCount = graph.config.edgeBound ∨
        ∃ bound, fault = .boundExceeded "edges" bound) → after = graph) := by
  obtain ⟨layout, limits, content, represents, _⟩ := built.represents
  obtain ⟨pages, stores⟩ := represents.stored
  have builtAfter := built.call (.addEdge link)
  have performed : (Call.addEdge link).perform graph = .error fault after :=
    bind_error failed
  rw [outcome_of_error performed] at builtAfter
  refine ⟨?_, ?_⟩
  · simpa [Call.added] using builtAfter
  rcases represents.of_addEdge_eq_error failed with ⟨_, rfl⟩ | ⟨room, other, grown⟩
  · exact ⟨⟨[], List.nil_sublist _, stores.grownBy_nil⟩, fun _ => rfl⟩
  · refine ⟨grown, ?_⟩
    rintro (full | ⟨bound, isBound⟩)
    · exact absurd full room
    · exact absurd isBound (other bound)

/-- The arena ends at the last address and has no page left for an edge between two new
ids. Both are there when the edge has failed, without arcs; the node with an edge still
has it, and no more bytes are in use than before. -/
theorem failed_edge_adds_ends_only_at_last_address :
    ∃ graph after, Built graph [⟨1, 2, 5⟩] ∧
      addEdge 3 4 7 graph = .error (.arenaExhausted 72 64) after ∧
      Built after [⟨1, 2, 5⟩] ∧ graph.GrownBy after [3, 4] := by
  obtain ⟨graph, built, failed, before, behind⟩ : ∃ graph, Built graph [⟨1, 2, 5⟩] ∧
      (addEdge 3 4 7).result graph = .error (.arenaExhausted 72 64) ∧
      graph.nodeCount = 2 ∧
      ((addEdge 3 4 7).outcome graph).2.nodeCount = 4 :=
    exists_built ⟨.heap, 0xFFFFFE00, 512, .zeros⟩ 64 ⟨4, 3, .dense 9⟩
      [.addEdge ⟨1, 2, 5⟩] (by decide +kernel)
  obtain ⟨after, failedWith⟩ :
      ∃ after, addEdge 3 4 7 graph = .error (.arenaExhausted 72 64) after :=
    exists_of_result_eq_error failed
  obtain ⟨builtAfter, ⟨ids, ends, grown⟩, _⟩ :=
    failed_edge_adds_ends_only built ⟨3, 4, 7⟩ failedWith
  have both : ids.length = 2 := by
    have counted := grown.nodeCount_eq
    rw [outcome_of_error failedWith] at behind
    change after.nodeCount = 4 at behind
    omega
  rw [ends.eq_of_length both] at grown
  exact ⟨graph, after, built, failedWith, builtAfter, grown⟩

end ArenaPaths.Graph
