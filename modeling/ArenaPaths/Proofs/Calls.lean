import ArenaPaths.Proofs.Linking

/-!
# Calls that build a graph

A graph is built by calls that add a node or an edge, one after another; a call that
fails does not keep the next one from being made. Made on a graph and on the multigraph
that it represents, calls succeed and fail alike, and the graph that they leave
represents the multigraph that they leave. All that a graph shows of itself is read off
the multigraph.
-/

namespace ArenaPaths

/-- A call that adds to a graph. -/
inductive Call where
  | addNode (id : UInt32)
  | addEdge (link : Link)
  deriving DecidableEq, Repr

namespace Call

/-- Make a call on a graph. The addition of a node gives the node. -/
def perform : Call → Action Graph (Option NodeRef)
  | .addNode id => do return some (← Graph.addNode id)
  | .addEdge link => do
    Graph.addEdge link.source link.target link.cost
    return none

/-- Make a call on a multigraph. -/
def performOn (limits : Multigraph.Limits) : Call → Action Multigraph Unit
  | .addNode id => Multigraph.addNode limits id
  | .addEdge link => Multigraph.addEdge limits link

/-- The edge that a call has added, given how it ended. -/
def added {α : Type} : Call → Except Fault α → List Link
  | .addEdge link, .ok _ => [link]
  | .addEdge _, .error _ => []
  | .addNode _, _ => []

/-- What a call that succeeds gives, if the slots of the multigraph that it leaves have
the given nodes. -/
def given (nodeOf : Nat → NodeRef) (content : Multigraph) : Call → Option NodeRef
  | .addNode id => some (nodeOf (content.slot id))
  | .addEdge _ => none

end Call

namespace Graph

variable {graph after : Graph} {layout : Layout} {limits : Multigraph.Limits}
  {content : Multigraph}

/-- A call does to a graph what it does to the multigraph that the graph represents. -/
theorem Represents.perform (represents : graph.Represents layout limits content)
    (call : Call) :
    ∃ result after next,
      call.perform.outcome graph = (result, after) ∧
      (call.performOn limits).outcome content = (result.map fun _ => (), next) ∧
      after.Represents layout limits next ∧ Kin graph after ∧ content.ids <+: next.ids ∧
      next.links = content.links ++ call.added result ∧
      ∀ id node, call = .addNode id → result = .ok (some node) →
        id ∈ next.ids ∧ node = graph.nodeOf layout (next.slot id) := by
  cases call with
  | addNode id =>
    have adding := represents.addNode id
    rcases Multigraph.addNode_cases limits id content with added | ⟨fault, refused⟩
    · rw [added] at adding
      obtain ⟨after, done, present, representsAfter, kin⟩ := adding
      refine ⟨.ok (some (graph.nodeOf layout ((content.withId id).slot id))), after,
        content.withId id, Action.outcome_of_ok (Action.bind_ok done),
        Action.outcome_of_ok added, representsAfter, kin,
        content.ids_prefix_withId id, ?_, ?_⟩
      · rw [Multigraph.links_withId, Call.added, List.append_nil]
      · intro other node sameCall sameNode
        cases sameCall
        cases sameNode
        exact ⟨present, rfl⟩
    · rw [refused] at adding
      refine ⟨.error fault, graph, content,
        Action.outcome_of_error (Action.bind_error adding.1),
        Action.outcome_of_error refused, represents, .refl graph, List.prefix_rfl, ?_,
        ?_⟩
      · rw [Call.added, List.append_nil]
      · intro other node _ sameNode
        cases sameNode
  | addEdge link =>
    have adding := represents.addEdge link
    rcases Multigraph.addEdge_cases limits link content with
      added | ⟨fault, next, refused, sameLinks, grown⟩
    · rw [added] at adding
      obtain ⟨after, done, representsAfter, kin⟩ := adding
      have grown : content.ids <+: (content.connect link).ids :=
        (content.ids_prefix_withId link.source).trans
          (Multigraph.ids_prefix_withId _ link.target)
      refine ⟨.ok none, after, content.connect link,
        Action.outcome_of_ok (Action.bind_ok done), Action.outcome_of_ok added,
        representsAfter, kin, grown, content.links_connect link, ?_⟩
      intro id node sameCall
      cases sameCall
    · rw [refused] at adding
      obtain ⟨after, failed, representsAfter, kin⟩ := adding
      refine ⟨.error fault, after, next,
        Action.outcome_of_error (Action.bind_error failed),
        Action.outcome_of_error refused, representsAfter, kin, grown, ?_, ?_⟩
      · rw [sameLinks, Call.added, List.append_nil]
      · intro id node sameCall
        cases sameCall

/-- What a call returns is told by the multigraph and by the nodes of its slots. -/
theorem Represents.result_perform (represents : graph.Represents layout limits content)
    (call : Call) :
    call.perform.result graph = ((call.performOn limits).result content).map fun _ =>
      call.given (graph.nodeOf layout) ((call.performOn limits).outcome content).2 := by
  cases call with
  | addNode id =>
    have adding := represents.addNode id
    rcases Multigraph.addNode_cases limits id content with added | ⟨fault, refused⟩
    · rw [added] at adding
      obtain ⟨after, done, _⟩ := adding
      have performed : (Call.addNode id).perform graph = .ok (some _) after :=
        Action.bind_ok done
      rw [Action.result_of_ok performed, Call.performOn, Action.result_of_ok added,
        Action.outcome_of_ok added]
      rfl
    · rw [refused] at adding
      have failed : (Call.addNode id).perform graph = .error fault graph :=
        Action.bind_error adding.1
      rw [Action.result_of_error failed, Call.performOn, Action.result_of_error refused]
      rfl
  | addEdge link =>
    have adding := represents.addEdge link
    rcases Multigraph.addEdge_cases limits link content with
      added | ⟨fault, next, refused, _⟩
    · rw [added] at adding
      obtain ⟨after, done, _⟩ := adding
      have performed : (Call.addEdge link).perform graph = .ok none after :=
        Action.bind_ok done
      rw [Action.result_of_ok performed, Call.performOn, Action.result_of_ok added]
      rfl
    · rw [refused] at adding
      obtain ⟨after, failed, _⟩ := adding
      have failed : (Call.addEdge link).perform graph = .error fault after :=
        Action.bind_error failed
      rw [Action.result_of_error failed, Call.performOn, Action.result_of_error refused]
      rfl

/-- Calls made one after another do to a graph what they do to the multigraph that the
graph represents. -/
theorem Represents.performAll (represents : graph.Represents layout limits content)
    (calls : List Call) :
    ∃ results after next,
      Action.outcomes (calls.map Call.perform) graph = (results, after) ∧
      Action.outcomes (calls.map (Call.performOn limits)) content
        = (results.map (Except.map fun _ => ()), next) ∧
      after.Represents layout limits next ∧ Kin graph after ∧ content.ids <+: next.ids ∧
      next.links = content.links ++ (List.zipWith Call.added calls results).flatten ∧
      ∀ id node, (.addNode id, .ok (some node)) ∈ calls.zip results →
        id ∈ next.ids ∧ node = graph.nodeOf layout (next.slot id) := by
  induction calls generalizing graph content with
  | nil =>
    refine ⟨[], graph, content, rfl, rfl, represents, .refl graph, List.prefix_rfl, ?_,
      ?_⟩
    · simp
    · intro id node member
      simp at member
  | cons call rest ih =>
    obtain ⟨result, between, grownOnce, here, hereOn, representsBetween, kin,
        growsFirst, linksFirst, nodesFirst⟩ :=
      represents.perform call
    obtain ⟨results, after, next, there, thereOn, representsAfter, kinAfter, growsRest,
        linksRest, nodesRest⟩ :=
      ih representsBetween
    refine ⟨result :: results, after, next, Action.outcomes_cons here there,
      Action.outcomes_cons hereOn thereOn,
      representsAfter, kin.trans kinAfter, growsFirst.trans growsRest, ?_, ?_⟩
    · simp only [List.zipWith_cons_cons, List.flatten_cons, linksRest, linksFirst,
        List.append_assoc]
    · intro id node member
      rw [List.zip_cons_cons, List.mem_cons] at member
      rcases member with isFirst | isLater
      · obtain ⟨sameCall, sameResult⟩ := Prod.mk.inj isFirst
        obtain ⟨present, rfl⟩ := nodesFirst id node sameCall.symm sameResult.symm
        refine ⟨growsRest.subset present, ?_⟩
        rw [Multigraph.slot_of_grown growsRest present]
      · rw [← kin.nodeOf_eq]
        exact nodesRest id node isLater

/-! ## What a graph shows -/

/-- A graph shows a multigraph: it finds the nodes of exactly its ids, tells their ids
and lists them in order, gives the arcs of every node in order, and counts nodes, edges
and pages. -/
structure Shows (graph : Graph) (content : Multigraph) : Prop where
  find_none : ∀ id, id ∉ content.ids → find id graph = .ok none graph
  find_some : ∀ id, id ∈ content.ids → ∃ node, find id graph = .ok (some node) graph ∧
    idOf node graph = .ok id graph ∧ addNode id graph = .ok node graph
  find_injective : ∀ id other node, find id graph = .ok (some node) graph →
    find other graph = .ok (some node) graph →
    id = other
  nodes : ∃ nodes, graph.nodes = .ok nodes ∧ nodes.Nodup ∧
    nodes.length = graph.nodeCount ∧
    List.Forall₂ (fun node id => find id graph = .ok (some node) graph) nodes
      content.ids
  arcs : ∀ id node, find id graph = .ok (some node) graph →
    ∃ found, Graph.arcs node graph = .ok found graph ∧
    List.Forall₂ (fun arc link => find link.target graph = .ok (some arc.target) graph ∧
      idOf arc.target graph = .ok link.target graph ∧ arc.cost = link.cost) found
        (content.outgoing id)
  edgeCount : graph.edgeCount = content.links.length
  pageCount : graph.pageCount
    = (content.ids.map fun id => ((content.outgoing id).length + 7) / 8).sum

/-- The nodes are those of the ids in order. -/
theorem Stores.nodes_eq_map {pages : Nat → List Nat}
    (stores : graph.Stores layout pages content) :
    graph.nodes
      = .ok (content.ids.map fun id => graph.nodeOf layout (content.slot id)) := by
  rw [stores.nodes_eq]
  congr 1
  apply List.ext_getElem?
  intro index
  by_cases inside : index < content.ids.length
  · have here := List.getElem?_eq_getElem inside
    simp [inside, Multigraph.slot_eq_of_getElem? here]
  · simp [inside]

/-- A graph shows the multigraph that it represents. -/
theorem Represents.shows (represents : graph.Represents layout limits content) :
    graph.Shows content := by
  obtain ⟨⟨pages, stores⟩, tight, _⟩ := represents
  have telling : ∀ id, id ∈ content.ids →
      idOf (graph.nodeOf layout (content.slot id)) graph = .ok id graph :=
    fun id present => stores.idOf_nodeOf (Multigraph.getElem?_slot present)
  constructor
  case find_none => exact fun id absent => stores.find_of_not_mem absent
  case find_some =>
    intro id present
    exact ⟨_, stores.find_of_mem present, telling id present,
      stores.addNode_of_mem present⟩
  case find_injective =>
    intro id other node found otherFound
    obtain ⟨present, sameNode, _⟩ := stores.of_find_eq_some found
    obtain ⟨otherPresent, otherNode, _⟩ := stores.of_find_eq_some otherFound
    rw [← Multigraph.slot_inj present otherPresent,
      ← stores.nodeOf_inj (stores.slot_lt_of_mem present)
        (stores.slot_lt_of_mem otherPresent), ← sameNode, otherNode]
  case nodes =>
    refine ⟨_, stores.nodes_eq_map, ?_, ?_, ?_⟩
    · apply content.ids_nodup.map_on
      intro id present other otherPresent same
      rw [stores.nodeOf_inj (stores.slot_lt_of_mem present)
        (stores.slot_lt_of_mem otherPresent)] at same
      exact (Multigraph.slot_inj present otherPresent).mp same
    · rw [List.length_map, stores.nodeCount_eq]
    · rw [List.forall₂_map_left_iff, List.forall₂_same]
      exact fun id present => stores.find_of_mem present
  case arcs =>
    intro id node found
    obtain ⟨present, rfl, _⟩ := stores.of_find_eq_some found
    refine ⟨_, stores.arcs_nodeOf (Multigraph.slot_lt_iff.mpr present), ?_⟩
    rw [Multigraph.hops_slot present, List.map_map, List.forall₂_map_left_iff,
      List.forall₂_same]
    intro link leaving
    have targetPresent :=
      content.target_mem link (Multigraph.mem_of_mem_outgoing leaving).1
    exact ⟨stores.find_of_mem targetPresent, telling _ targetPresent, rfl⟩
  case edgeCount => exact stores.edgeCount_eq
  case pageCount => exact tight

/-- A graph that was laid out represents the empty multigraph. -/
theorem represents_of_create {arena : Arena} {config : GraphConfig}
    (sound : arena.Sound) (created : create arena config = .ok graph) :
    ∃ layout, graph.Represents layout graph.limits .empty := by
  obtain ⟨_, _, _, noPages, layout, stores⟩ := stores_of_create sound created
  exact ⟨layout, ⟨_, stores⟩, noPages, rfl⟩

end Graph

/-- Calls on a graph that was laid out in an arena succeed and fail as they do on a
multigraph under the limits of that graph, and afterwards the graph shows the
multigraph. The edges are those of the calls that succeeded, in the order of the calls,
and a node that a call has given is the one that is found. -/
theorem Graph.refines_multigraph {arena : Arena} {config : GraphConfig} {graph : Graph}
    (obtainable : arena.Obtainable) (created : Graph.create arena config = .ok graph)
    (calls : List Call) :
    ∃ results after content,
      Action.outcomes (calls.map Call.perform) graph = (results, after) ∧
      Action.outcomes (calls.map (Call.performOn graph.limits)) .empty
        = (results.map (Except.map fun _ => ()), content) ∧
      content.links = (List.zipWith Call.added calls results).flatten ∧
      after.Shows content ∧
      ∀ id node, (.addNode id, .ok (some node)) ∈ calls.zip results →
        Graph.find id after = .ok (some node) after := by
  obtain ⟨layout, represents⟩ := represents_of_create obtainable.sound created
  obtain ⟨results, after, content, made, madeOn, representsAfter, kin, _, links_eq,
      given⟩ :=
    represents.performAll calls
  refine ⟨results, after, content, made, madeOn, links_eq, representsAfter.shows, ?_⟩
  intro id node member
  obtain ⟨present, rfl⟩ := given id node member
  obtain ⟨⟨pages, stores⟩, _, _⟩ := representsAfter
  rw [stores.find_of_mem present, kin.nodeOf_eq]

/-- Two edges and a repeated node on a graph with room for two of each, and a third edge
that is refused. -/
theorem Graph.refines_multigraph_of_two_edges :
    ∃ arena graph results after content,
      Arena.ofBacking ⟨.heap, 0x10000000, 65536, .zeros⟩ 64 = .ok arena ∧
      Graph.create arena ⟨2, 2, .dense 9⟩ = .ok graph ∧
      Action.outcomes ([.addEdge ⟨7, 9, 5⟩, .addNode 7, .addEdge ⟨9, 9, 0⟩,
        .addEdge ⟨9, 7, 1⟩].map Call.perform) graph
        = (results, after) ∧
      results.map (Except.map fun _ => ())
        = [.ok (), .ok (), .ok (), .error (.boundExceeded "edges" 2)] ∧
      content.ids = [7, 9] ∧ content.links = [⟨7, 9, 5⟩, ⟨9, 9, 0⟩] ∧
      after.Shows content := by
  have laid : Arena.ofBacking ⟨.heap, 0x10000000, 65536, .zeros⟩ 64
      = .ok ⟨⟨.heap, 0x10000000, 65536, .zeros⟩, 0x10000000, 64, 64, 0⟩ := rfl
  have created : Graph.create
      ⟨⟨.heap, 0x10000000, 65536, .zeros⟩, 0x10000000, 64, 64, 0⟩ ⟨2, 2, .dense 9⟩
      = .ok _ := rfl
  obtain ⟨results, after, content, made, madeOn, _, shows, _⟩ :=
    Graph.refines_multigraph (.ofBacking laid) created
    [.addEdge ⟨7, 9, 5⟩, .addNode 7, .addEdge ⟨9, 9, 0⟩, .addEdge ⟨9, 7, 1⟩]
  obtain ⟨results_eq, rfl⟩ := Prod.mk.inj madeOn
  exact ⟨_, _, results, after, _, laid, created, made, results_eq.symm, rfl, rfl, shows⟩

end ArenaPaths
