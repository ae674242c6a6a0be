import ArenaPaths.Proofs.Layouts

/-!
# Useless edges

An edge that leads back to its own node, or that joins two nodes which an earlier edge
joins for no more, is never worth taking. When a search comes to such an edge, the label
of its target is as good already, so nothing is offered and the frontier stays as it is.
The search therefore takes the very same steps with the edge and without it, wherever
the edge pushes the other edges of its node to.

Main statement: `Query.run_same_without_useless_edge`.
-/

namespace ArenaPaths

open ArenaPaths.Action

/-! ## Arcs that a search passes over -/

namespace Dijkstra

variable {hops other : Nat → List Hop} {current node : Nat} {cost : UInt32}
  {state : State} {hop : Hop} {arcs earlier later : List Hop}

/-- Relaxing an arc makes no label dearer. -/
theorem cost_relaxHop_le (current : Nat) (cost : UInt32) (state : State) (hop : Hop)
    (node : Nat) :
    (relaxHop current cost state hop).cost node ≤ state.cost node := by
  rw [relaxHop]
  split
  · rename_i cheaper
    by_cases isTarget : node = hop.target
    · rw [isTarget, State.cost_improve_self]
      exact UInt32.le_of_lt cheaper
    · rw [State.cost_improve_of_ne isTarget]
      exact UInt32.le_refl _
  · exact UInt32.le_refl _

theorem cost_relaxHops_le (current : Nat) (cost : UInt32) (arcs : List Hop)
    (state : State) (node : Nat) :
    (relaxHops current cost arcs state).cost node ≤ state.cost node := by
  induction arcs generalizing state with
  | nil => exact UInt32.le_refl _
  | cons hop rest ih =>
    exact UInt32.le_trans (ih (relaxHop current cost state hop))
      (cost_relaxHop_le current cost state hop node)

/-- Once an arc is relaxed, its target costs no more than the arc makes it. -/
theorem cost_target_relaxHop_le (current : Nat) (cost : UInt32) (state : State)
    (hop : Hop) :
    (relaxHop current cost state hop).cost hop.target
      ≤ Search.addCost cost hop.cost := by
  rw [relaxHop]
  split
  · rw [State.cost_improve_self]
    exact UInt32.le_refl _
  · rename_i notCheaper
    exact UInt32.not_lt.mp notCheaper

theorem cost_target_relaxHops_le (member : hop ∈ arcs) (state : State) :
    (relaxHops current cost arcs state).cost hop.target
      ≤ Search.addCost cost hop.cost := by
  induction arcs generalizing state with
  | nil => exact absurd member List.not_mem_nil
  | cons first rest ih =>
    rw [relaxHops_cons]
    rcases List.mem_cons.mp member with rfl | isLater
    · exact UInt32.le_trans (cost_relaxHops_le _ _ _ _ _)
        (cost_target_relaxHop_le _ _ _ _)
    · exact ih isLater _

theorem le_addCost (left right : UInt32) : left ≤ Search.addCost left right := by
  rw [UInt32.le_iff_toNat_le, toNat_addCost]
  have bounded := toNat_le_unreached left
  omega

theorem addCost_le_addCost (left : UInt32) {right dearer : UInt32}
    (le : right ≤ dearer) :
    Search.addCost left right ≤ Search.addCost left dearer := by
  rw [UInt32.le_iff_toNat_le] at le ⊢
  rw [toNat_addCost, toNat_addCost]
  omega

/-- An arc of a node that is of no use behind other arcs: it leads back to the node, or
one of the others leads to the same target for no more. -/
def Useless (node : Nat) (earlier : List Hop) (hop : Hop) : Prop :=
  hop.target = node ∨ ∃ rival ∈ earlier, rival.target = hop.target ∧
    rival.cost ≤ hop.cost

/-- Behind the arcs that make it useless, an arc of a node improves nothing. -/
theorem Useless.relaxHop_eq (useless : Useless node earlier hop) (state : State) :
    relaxHop node (state.cost node) (relaxHops node (state.cost node) earlier state) hop
      = relaxHops node (state.cost node) earlier state := by
  refine if_neg (UInt32.not_lt.mpr ?_)
  rcases useless with rfl | ⟨rival, member, sameTarget, cheaper⟩
  · exact UInt32.le_trans (cost_relaxHops_le _ _ _ _ _) (le_addCost _ _)
  · rw [← sameTarget]
    exact UInt32.le_trans (cost_target_relaxHops_le member state)
      (addCost_le_addCost _ cheaper)

/-- All nodes have the same arcs, except that one of them has a useless arc besides. -/
def Pads (hops other : Nat → List Hop) : Prop :=
  ∃ node earlier hop later, Useless node earlier hop ∧ hops node = earlier ++ later ∧
    other node = earlier ++ hop :: later ∧
    ∀ index, index ≠ node → other index = hops index

namespace Pads

variable {goal start : Nat} (pads : Pads hops other)
include pads

/-- Relaxing all arcs of a node gives the same. -/
theorem relaxHops_eq (index : Nat) (state : State) :
    relaxHops index (state.cost index) (other index) state
      = relaxHops index (state.cost index) (hops index) state := by
  obtain ⟨node, earlier, hop, later, useless, hops_eq, other_eq, same⟩ := pads
  by_cases isNode : index = node
  · subst isNode
    rw [hops_eq, other_eq, relaxHops_append, relaxHops_append, relaxHops_cons,
      useless.relaxHop_eq]
  · rw [same index isNode]

theorem step_eq (state : State) : step other goal state = step hops goal state := by
  have relaxed :=
    pads.relaxHops_eq (state.heap 1).node (state.pop.settle (state.heap 1).node)
  rw [State.cost_settle, State.cost_pop] at relaxed
  simp only [step, relaxed]

theorem run_eq (fuel : Nat) (state : State) :
    run other goal fuel state = run hops goal fuel state := by
  induction fuel generalizing state with
  | zero => rfl
  | succ fuel ih => simp only [run, pads.step_eq, ih]

/-- The whole search is the same, up to the last entry of its frontier. -/
theorem search_eq : search other start goal = search hops start goal := pads.run_eq _ _

end Pads

end Dijkstra

/-! ## Edges between ids -/

/-- An edge that is of no use behind other edges: it leads back to its source, or one of
the others joins the same nodes for no more. -/
def Link.Useless (earlier : List Link) (link : Link) : Prop :=
  link.source = link.target ∨
  ∃ cost ≤ link.cost, (⟨link.source, link.target, cost⟩ : Link) ∈ earlier

namespace Multigraph

variable {content padded : Multigraph} {link : Link}

/-- A multigraph has a useless edge more than another one, and is otherwise the same. -/
structure Pads (content padded : Multigraph) : Prop where
  ids_eq : padded.ids = content.ids
  links_eq : ∃ earlier link later, link.Useless earlier ∧
    content.links = earlier ++ later ∧
    padded.links = earlier ++ link :: later

theorem ids_withId_congr (same : padded.ids = content.ids) (id : UInt32) :
    (padded.withId id).ids = (content.withId id).ids := by
  by_cases present : id ∈ content.ids
  · rw [withId_of_mem present, withId_of_mem (same ▸ present), same]
  · rw [ids_withId_of_not_mem present, ids_withId_of_not_mem (same ▸ present), same]

theorem pads_connect (hasSource : link.source ∈ content.ids)
    (hasTarget : link.target ∈ content.ids) (useless : link.Useless content.links) :
    content.Pads (content.connect link) where
  ids_eq := by rw [connect_of_mem hasSource hasTarget]; rfl
  links_eq := ⟨content.links, link, [], useless, (List.append_nil _).symm,
      content.links_connect link⟩

/-- Further calls add the same to both. -/
theorem Pads.applied (pads : content.Pads padded) (call : Call) :
    (call.applied content).Pads (call.applied padded) := by
  obtain ⟨ids_eq, earlier, link, later, useless, links_eq, padded_eq⟩ := pads
  cases call with
  | addNode id =>
    refine ⟨ids_withId_congr ids_eq id, earlier, link, later, useless, ?_, ?_⟩
    · exact (content.links_withId id).trans links_eq
    · exact (padded.links_withId id).trans padded_eq
  | addEdge further =>
    refine ⟨ids_withId_congr (ids_withId_congr ids_eq _) _, earlier, link,
      later ++ [further], useless, ?_, ?_⟩
    · rw [Call.applied, links_connect, links_eq, List.append_assoc]
    · rw [Call.applied, links_connect, padded_eq, List.append_assoc, List.cons_append]

theorem Pads.foldl_applied (pads : content.Pads padded) (calls : List Call) :
    (calls.foldl (fun content call => call.applied content) content).Pads
      (calls.foldl (fun content call => call.applied content) padded) := by
  induction calls generalizing content padded with
  | nil => exact pads
  | cons call rest ih => exact ih (pads.applied call)

theorem Pads.slot_eq (pads : content.Pads padded) (id : UInt32) :
    padded.slot id = content.slot id := by
  rw [slot, slot, pads.ids_eq]

/-- A useless edge is a useless arc of its source. -/
theorem Pads.hops (pads : content.Pads padded) :
    Dijkstra.Pads content.hops padded.hops := by
  have slot_eq := pads.slot_eq
  obtain ⟨ids_eq, earlier, link, later, useless, links_eq, padded_eq⟩ := pads
  have member : link ∈ padded.links := by
    rw [padded_eq]
    exact List.mem_append_right _ List.mem_cons_self
  have hasSource : link.source ∈ content.ids := ids_eq ▸ padded.source_mem link member
  let arcsOf (links : List Link) : List Hop :=
    (links.filter fun other => other.source = link.source).map
      fun other => ⟨content.slot other.target, other.cost⟩
  refine ⟨content.slot link.source, arcsOf earlier,
    ⟨content.slot link.target, link.cost⟩, arcsOf later, ?_, ?_, ?_, ?_⟩
  · rcases useless with loop | ⟨cost, cheaper, rival⟩
    · exact .inl (congrArg content.slot loop.symm)
    · have leaves : (⟨link.source, link.target, cost⟩ : Link)
          ∈ earlier.filter fun other => other.source = link.source := by
            simpa using rival
      exact .inr ⟨_, List.mem_map_of_mem leaves, rfl, cheaper⟩
  · rw [hops_slot hasSource, outgoing, links_eq, List.filter_append, List.map_append]
  · have here : padded.ids[content.slot link.source]? = some link.source :=
      ids_eq ▸ getElem?_slot hasSource
    have kept : (link :: later).filter (fun other => other.source = link.source)
        = link :: later.filter fun other => other.source = link.source :=
          List.filter_cons_of_pos (by simp)
    simp only [hops_of_getElem? here, outgoing, padded_eq, List.filter_append, kept,
      List.map_append, List.map_cons, slot_eq, arcsOf]
  · intro index elsewhere
    rw [Multigraph.hops, Multigraph.hops, ids_eq]
    cases here : content.ids[index]? with
    | none => rfl
    | some id =>
      have different : link.source ≠ id := by
        rintro rfl
        exact elsewhere (slot_eq_of_getElem? here).symm
      have dropped : (link :: later).filter (fun other => other.source = id)
          = later.filter fun other => other.source = id :=
            List.filter_cons_of_neg (by simpa using different)
      simp only [outgoing, padded_eq, links_eq, List.filter_append, dropped, slot_eq]

variable {start goal : UInt32} {outcome otherOutcome : Outcome}
  {route otherRoute : List RouteStep} {final otherFinal : Dijkstra.State}

/-- With a useless edge more there is the same to find, by the same route. -/
theorem Pads.finds (pads : content.Pads padded)
    (finds : content.Finds start goal outcome route final)
    (otherFinds : padded.Finds start goal otherOutcome otherRoute otherFinal) :
    padded.Finds start goal outcome route final := by
  have stepAt_eq : padded.stepAt final = content.stepAt final := by
    funext slot
    rw [stepAt, stepAt, pads.ids_eq]
  have searched := otherFinds.search_eq
  rw [pads.hops.search_eq, pads.slot_eq, pads.slot_eq, finds.search_eq] at searched
  cases searched
  refine ⟨otherFinds.search_eq, otherFinds.concluded, ?_⟩
  have route_eq := finds.route_eq
  cases outcome with
  | found cost =>
    obtain ⟨trail, isTrail, within, route_eq⟩ := route_eq
    rw [← pads.slot_eq start, ← pads.slot_eq goal] at isTrail
    exact ⟨trail, isTrail, within, stepAt_eq ▸ route_eq⟩
  | exhausted => exact route_eq

/-- A query has the same reply. -/
theorem Pads.replies (pads : content.Pads padded) {query : Query}
    {reply otherReply : Except Fault Answer}
    (replies : content.Replies none query reply)
    (otherReplies : padded.Replies none query otherReply) :
    padded.Replies none query reply := by
  simp only [Replies, pads.ids_eq] at replies otherReplies ⊢
  split at replies
  · rename_i present
    rw [if_pos present] at otherReplies ⊢
    obtain ⟨outcome, route, final, finds, rfl⟩ := replies
    obtain ⟨_, _, _, otherFinds, _⟩ := otherReplies
    exact ⟨outcome, route, final, pads.finds finds otherFinds, rfl⟩
  · rename_i absent
    rw [if_neg absent]
    exact replies

end Multigraph

/-- What calls make of the empty multigraph if nothing stands in their way. -/
def Multigraph.ofCalls (calls : List Call) : Multigraph :=
  calls.foldl (fun content call => call.applied content) .empty

namespace Call

/-- No edge of a call gets lost. -/
theorem mem_links_of_mem {calls : List Call} {content : Multigraph} {link : Link}
    (added : .addEdge link ∈ calls ∨ link ∈ content.links) :
    link ∈ (calls.foldl (fun content call => call.applied content) content).links := by
  induction calls generalizing content with
  | nil => exact added.resolve_left List.not_mem_nil
  | cons call rest ih =>
    apply ih
    rcases added with isCall | already
    · rcases List.mem_cons.mp isCall with rfl | later
      · right
        exact (content.links_connect link).symm ▸ List.mem_append_right
          _ List.mem_cons_self
      · exact .inl later
    · right
      cases call with
      | addNode id => exact (content.links_withId id).symm ▸ already
      | addEdge other =>
        exact (content.links_connect other).symm ▸ List.mem_append_left _ already

/-- Calls with a useless edge in between make the multigraph that has it besides. -/
theorem pads_of_useless {before : List Call} {link : Link}
    (hasSource : link.source ∈ (Multigraph.ofCalls before).ids)
    (hasTarget : link.target ∈ (Multigraph.ofCalls before).ids)
    (useless : link.source = link.target ∨
      ∃ cost ≤ link.cost, .addEdge ⟨link.source, link.target, cost⟩ ∈ before)
    (behind : List Call) :
    (Multigraph.ofCalls (before ++ behind)).Pads
      (Multigraph.ofCalls (before ++ .addEdge link :: behind)) := by
  have uselessBehind : link.Useless (Multigraph.ofCalls before).links := by
    rcases useless with loop | ⟨cost, cheaper, added⟩
    · exact .inl loop
    · exact .inr ⟨cost, cheaper, mem_links_of_mem (.inl added)⟩
  rw [Multigraph.ofCalls, Multigraph.ofCalls, List.foldl_append, List.foldl_append,
    List.foldl_cons]
  exact (Multigraph.pads_connect hasSource hasTarget uselessBehind).foldl_applied behind

/-- A single edge. -/
def direct : List Call := [.addEdge ⟨1, 2, 2⟩]

/-- A way around the edge that costs as much. -/
def bypass : List Call := [.addEdge ⟨1, 3, 1⟩, .addEdge ⟨3, 2, 1⟩]

end Call

namespace Query

open ArenaPaths.Graph

/-- Two graphs are built by the same calls, but that one of them gets a useless edge in
between: its ends are there already, and it leads back to its source or an earlier edge
joins its ends for no more. As long as all calls succeed, the host gives the same answer
to every query on both, whatever the arenas, the bounds and the directories are. -/
theorem run_same_without_useless_edge {arena otherArena : Arena}
    {config otherConfig : GraphConfig}
    {graph otherGraph between after otherAfter : Graph}
    {results otherResults earlierResults : List (Except Fault (Option NodeRef))}
    (obtainable : arena.Obtainable) (created : create arena config = .ok graph)
    (otherObtainable : otherArena.Obtainable)
    (otherCreated : create otherArena otherConfig = .ok otherGraph)
    (before behind : List Call) (link : Link)
    (made : outcomes ((before ++ behind).map Call.perform) graph = (results, after))
    (succeeded : ∀ result ∈ results, result.isOk)
    (otherMade : outcomes ((before ++ .addEdge link :: behind).map Call.perform)
      otherGraph = (otherResults, otherAfter))
    (otherSucceeded : ∀ result ∈ otherResults, result.isOk)
    (madeBefore : outcomes (before.map Call.perform) otherGraph
      = (earlierResults, between))
    (hasSource : between.Has link.source) (hasTarget : between.Has link.target)
    (useless : link.source = link.target ∨
      ∃ cost ≤ link.cost, .addEdge ⟨link.source, link.target, cost⟩ ∈ before)
    (query : Query) (byHost : query.mode ≠ .delegated) {κ ι : Type}
    (channel? : Option (Channel (κ × Memory))) (device : κ)
    (otherChannel? : Option (Channel (ι × Memory))) (otherDevice : ι) :
    ∃ answer rest otherRest,
      query.run channel? (after, device) = .ok answer (rest, device) ∧
      query.run otherChannel? (otherAfter, otherDevice)
        = .ok answer (otherRest, otherDevice) := by
  have succeededBefore : ∀ result ∈ earlierResults, result.isOk := by
    have madeAll := outcomes_append madeBefore
      (show outcomes ((.addEdge link :: behind).map Call.perform) between = (_, _)
        from rfl)
    rw [← List.map_append, otherMade] at madeAll
    cases madeAll
    exact fun result member => otherSucceeded result (List.mem_append_left _ member)
  obtain ⟨_, _, storesBefore⟩ :=
    exists_stores_of_isOk otherObtainable otherCreated madeBefore succeededBefore
  obtain ⟨_, _, stores⟩ := exists_stores_of_isOk obtainable created made succeeded
  obtain ⟨_, _, otherStores⟩ :=
    exists_stores_of_isOk otherObtainable otherCreated otherMade otherSucceeded
  have pads := Call.pads_of_useless (storesBefore.has_iff.mp hasSource)
      (storesBefore.has_iff.mp hasTarget) useless
    behind
  obtain ⟨answer, rest, answered, _⟩ := stores.run_byHost byHost channel? device
  -- both multigraphs have a reply, and that of the first is one of the second
  obtain ⟨reply, replies⟩ := stores.exists_reply none query
  obtain ⟨_, otherReplies⟩ := otherStores.exists_reply none query
  obtain ⟨_, ran, _⟩ := stores.run_unaided replies channel?
      (fun delegated => absurd delegated byHost) device
  obtain ⟨otherRest, otherRan, _⟩ :=
    otherStores.run_unaided (pads.replies replies otherReplies) otherChannel?
    (fun delegated => absurd delegated byHost) otherDevice
  rw [outcome_of_ok answered] at ran
  cases ran
  exact ⟨answer, rest, otherRest, answered, eq_ok_of_outcome otherRan⟩

/-- An edge that is there twice, once for more, and a way around it for the same cost:
with the second edge, in another arena and with another directory, the first one is
taken as it is without. -/
theorem run_same_without_useless_edge_of_bypass :
    ∃ arena otherArena graph otherGraph, arena.Obtainable ∧
      create arena ⟨3, 4, .dense 9⟩ = .ok graph ∧
      otherArena.Obtainable ∧ create otherArena ⟨3, 4, .hashed 1⟩ = .ok otherGraph ∧
      ∃ results after otherResults otherAfter,
        outcomes ((Call.direct ++ Call.bypass).map Call.perform) graph
          = (results, after) ∧
        (∀ result ∈ results, result.isOk) ∧
        outcomes ((Call.direct ++ .addEdge ⟨1, 2, 3⟩ :: Call.bypass).map Call.perform)
          otherGraph
          = (otherResults, otherAfter) ∧ (∀ result ∈ otherResults, result.isOk) ∧
        ∃ answer rest otherRest,
          (⟨1, 2, .software⟩ : Query).run (κ := Unit) none (after, ())
            = .ok answer (rest, ()) ∧
          (⟨1, 2, .software⟩ : Query).run (κ := Unit) none (otherAfter, ())
            = .ok answer (otherRest, ()) ∧
          answer.route = [⟨1, 0⟩, ⟨2, 2⟩] := by
  obtain ⟨arena, graph, obtainable, created, succeeded, evaluated⟩ :
      ∃ arena graph, arena.Obtainable ∧
      create arena ⟨3, 4, .dense 9⟩ = .ok graph ∧
      (∀ result ∈ (outcomes ((Call.direct ++ Call.bypass).map Call.perform) graph).1,
        result.isOk) ∧
      (((⟨1, 2, .software⟩ : Query).run (κ := Unit) none).result
        ((outcomes ((Call.direct ++ Call.bypass).map Call.perform) graph).2, ())).map
          Answer.route
          = .ok [⟨1, 0⟩, ⟨2, 2⟩] :=
    exists_created ⟨.heap, 0x10000000, 65536, .zeros⟩ 64 ⟨3, 4, .dense 9⟩
      (by decide +kernel)
  obtain ⟨otherArena, otherGraph, otherObtainable, otherCreated, succeededBefore,
      otherSucceeded⟩ :
      ∃ arena graph, arena.Obtainable ∧ create arena ⟨3, 4, .hashed 1⟩ = .ok graph ∧
      (∀ result ∈ (outcomes (Call.direct.map Call.perform) graph).1, result.isOk) ∧
      ∀ result ∈ (outcomes
        ((Call.direct ++ .addEdge ⟨1, 2, 3⟩ :: Call.bypass).map Call.perform) graph).1,
        result.isOk :=
    exists_created ⟨.heap, 0xFFFFE000, 8192, .zeros⟩ 128 ⟨3, 4, .hashed 1⟩
      (by decide +kernel)
  obtain ⟨results, after, made⟩ : ∃ results after,
    outcomes ((Call.direct ++ Call.bypass).map Call.perform) graph = (results, after) :=
      ⟨_, _, rfl⟩
  obtain ⟨earlierResults, between, madeBefore⟩ : ∃ results after,
    outcomes (Call.direct.map Call.perform) otherGraph = (results, after) := ⟨_, _, rfl⟩
  obtain ⟨otherResults, otherAfter, otherMade⟩ : ∃ results after,
    outcomes
      ((Call.direct ++ .addEdge ⟨1, 2, 3⟩ :: Call.bypass).map Call.perform) otherGraph
      = (results, after) := ⟨_, _, rfl⟩
  rw [made] at succeeded evaluated
  rw [madeBefore] at succeededBefore
  rw [otherMade] at otherSucceeded
  obtain ⟨_, _, storesBefore⟩ :=
    exists_stores_of_isOk otherObtainable otherCreated madeBefore succeededBefore
  obtain ⟨answer, rest, otherRest, answered, otherAnswered⟩ :=
    run_same_without_useless_edge obtainable created
    otherObtainable otherCreated Call.direct Call.bypass
      ⟨1, 2, 3⟩ made succeeded otherMade otherSucceeded
    madeBefore (storesBefore.has_iff.mpr (by decide))
      (storesBefore.has_iff.mpr (by decide))
    (.inr ⟨2, by decide, by decide⟩) ⟨1, 2, .software⟩ (by decide)
      (none : Option (Channel (Unit × Memory))) ()
    (none : Option (Channel (Unit × Memory))) ()
  rw [result_of_ok answered] at evaluated
  exact ⟨arena, otherArena, graph, otherGraph, obtainable, created, otherObtainable,
    otherCreated, results, after, otherResults, otherAfter, made, succeeded, otherMade,
    otherSucceeded, answer, rest, otherRest, answered,
    otherAnswered, Except.ok.inj evaluated⟩

end Query

end ArenaPaths
