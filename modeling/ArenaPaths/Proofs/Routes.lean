import ArenaPaths.Proofs.Histories

/-!
# Routes on any memory

An accelerator may leave anything in memory, so the parents that the host follows from
the goal may be null, wild, misaligned or lead around in circles. A walk along them
meets every slot at most once before it comes to the start: where it meets a slot again,
it goes on as it did before and never comes to the start. So no chain of parents has
more slots than there are nodes, the walk is long enough for all of them, and what it
returns is the chain as a whole.

Main statement: `route_eq_ok_iff_leads`.
-/

namespace ArenaPaths

open ArenaPaths.Action

/-- The faults of a walk along parents: a record outside of the arena, and what can be
wrong with a route. -/
def Fault.IsOfWalk : Fault → Prop
  | .addressOutside _ => True
  | .corrupt _ reason =>
    reason = .notNodeSlot ∨ reason = .brokenRoute ∨ reason = .endlessRoute
  | _ => False

namespace Graph

variable {graph : Graph} {layout : Layout} {start goal node : NodeRef} {slot : Nat}
  {slots : List Nat}

/-! ## Chains of parents -/

/-- A node is the one in a slot that is in use. -/
def InSlot (graph : Graph) (node : NodeRef) (slot : Nat) : Prop :=
  slot < graph.nodeCount ∧
  node.address.toNat = graph.nodesBase.toNat + slot * Record.size Node

/-- The record in a slot, as the bytes of the graph have it. -/
def recordAt (graph : Graph) (slot : Nat) : Node :=
  Record.read graph.memory
    (graph.nodesBase.toNat - graph.arena.base.toNat + slot * Record.size Node)

/-- The id of a slot, as the bytes of the graph have it. -/
def idAt (graph : Graph) (slot : Nat) : UInt32 :=
  Record.read graph.memory
    (graph.idsBase.toNat - graph.arena.base.toNat + slot * wordSize)

/-- The step of a route at a slot. -/
def routeStepAt (graph : Graph) (slot : Nat) : RouteStep :=
  ⟨graph.idAt slot, (graph.recordAt slot).cost⟩

/-- Parents lead from a node to the start, through slots that are in use; the slots are
listed from the start on. -/
inductive Leads (graph : Graph) (start : NodeRef) : NodeRef → List Nat → Prop where
  | start {slot : Nat} : graph.InSlot start slot → Leads graph start start [slot]
  | child {parent node : NodeRef} {slot : Nat} {slots : List Nat} :
      Leads graph start parent slots →
      graph.InSlot node slot → node ≠ start →
      (graph.recordAt slot).parent = parent.address →
      Leads graph start node (slots ++ [slot])

theorem InSlot.slot_eq {other : Nat} (inSlot : graph.InSlot node slot)
    (inOther : graph.InSlot node other) :
    slot = other := by
  have first := inSlot.2
  have second := inOther.2
  rw [Record.size_node] at first second
  omega

theorem InSlot.node_eq {other : NodeRef} (inSlot : graph.InSlot node slot)
    (otherInSlot : graph.InSlot other slot) :
    node = other :=
  NodeRef.ext_address (UInt32.toNat_inj.mp (inSlot.2.trans otherInSlot.2.symm))

namespace Leads

theorem exists_inSlot (leads : graph.Leads start node slots) :
    ∃ slot, graph.InSlot node slot := by
  cases leads with
  | start inSlot => exact ⟨_, inSlot⟩
  | child _ inSlot => exact ⟨_, inSlot⟩

theorem length_pos (leads : graph.Leads start node slots) : 0 < slots.length := by
  cases leads <;> simp

/-- The parent of a node that is not the start is on the way. -/
theorem exists_parent (leads : graph.Leads start node slots)
    (inSlot : graph.InSlot node slot) (notStart : node ≠ start) :
    ∃ parent earlier, (graph.recordAt slot).parent = parent.address ∧
      graph.Leads start parent earlier ∧
      slots = earlier ++ [slot] := by
  cases leads with
  | start => exact absurd rfl notStart
  | child leads inOther _ parent_eq =>
    obtain rfl := inSlot.slot_eq inOther
    exact ⟨_, _, parent_eq, leads, rfl⟩

theorem lt_of_mem (leads : graph.Leads start node slots) (member : slot ∈ slots) :
    slot < graph.nodeCount := by
  induction leads with
  | start inSlot =>
    rw [List.mem_singleton.mp member]
    exact inSlot.1
  | child _ inSlot _ _ ih =>
    rcases List.mem_append.mp member with earlier | last
    · exact ih earlier
    · rw [List.mem_singleton.mp last]
      exact inSlot.1

/-- There is one way from a node to the start. -/
theorem unique {others : List Nat} (leads : graph.Leads start node slots)
    (otherLeads : graph.Leads start node others) :
    slots = others := by
  induction leads generalizing others with
  | start inSlot =>
    cases otherLeads with
    | start inOther => rw [inSlot.slot_eq inOther]
    | child _ _ notStart _ => exact absurd rfl notStart
  | child _ inSlot notStart parent_eq ih =>
    cases otherLeads with
    | start => exact absurd rfl notStart
    | child otherLeads inOther _ otherParent_eq =>
      obtain rfl := inSlot.slot_eq inOther
      obtain rfl := NodeRef.ext_address (parent_eq.symm.trans otherParent_eq)
      rw [ih otherLeads]

/-- From each of its slots, the chain goes on to the start. -/
theorem exists_of_mem (leads : graph.Leads start node slots) (member : slot ∈ slots) :
    ∃ between earlier, graph.InSlot between slot ∧ graph.Leads start between earlier ∧
      earlier.length ≤ slots.length := by
  induction leads with
  | start inSlot =>
    rw [List.mem_singleton.mp member]
    exact ⟨_, _, inSlot, .start inSlot, Nat.le_refl _⟩
  | child leads inSlot notStart parent_eq ih =>
    rcases List.mem_append.mp member with earlier | last
    · obtain ⟨between, earlier, inSlot, leads, shorter⟩ := ih earlier
      refine ⟨between, earlier, inSlot, leads, ?_⟩
      rw [List.length_append]
      omega
    · rw [List.mem_singleton.mp last]
      exact ⟨_, _, inSlot, .child leads inSlot notStart parent_eq, Nat.le_refl _⟩

/-- No slot is on the chain twice: from there it would be as long the second time as the
first. -/
theorem nodup (leads : graph.Leads start node slots) : slots.Nodup := by
  induction leads with
  | start => exact List.nodup_singleton _
  | child leads inSlot notStart parent_eq ih =>
    rename_i node slot slots
    refine ih.append (List.nodup_singleton _)
      (List.disjoint_singleton.mpr fun again => ?_)
    obtain ⟨between, earlier, inAgain, leadsAgain, shorter⟩ := leads.exists_of_mem again
    obtain rfl := inAgain.node_eq inSlot
    have same := leadsAgain.unique (.child leads inSlot notStart parent_eq)
    rw [same, List.length_append, List.length_singleton] at shorter
    omega

theorem length_le (leads : graph.Leads start node slots) :
    slots.length ≤ graph.nodeCount := by
  have inside : slots ⊆ List.range graph.nodeCount := fun _ member =>
    List.mem_range.mpr (leads.lt_of_mem member)
  have fewer := (leads.nodup.subperm inside).length_le
  rwa [List.length_range] at fewer

end Leads

/-! ## Reading a node -/

/-- What is in no slot has no id. -/
theorem idOf_of_not_inSlot (noSlot : ∀ slot, ¬ graph.InSlot node slot) :
    idOf node graph = .error (.corrupt node.address.toNat .notNodeSlot) graph := by
  have refused :
      graph.slotOf node = .error (.corrupt node.address.toNat .notNodeSlot) := by
    refine if_neg fun ⟨above, whole, inside⟩ => noSlot _ ⟨inside, ?_⟩
    rw [UInt32.le_iff_toNat_le] at above
    rw [Record.size_node] at whole ⊢
    omega
  simp only [idOf, get_bind_apply, refused, liftM_error_bind_apply]

namespace LaidOut

variable (laidOut : graph.LaidOut layout)
include laidOut

theorem toNat_nodesBase :
    graph.nodesBase.toNat = graph.arena.base.toNat + layout.nodes := by
  have first := laidOut.nodes_le
  have second := laidOut.ids_le
  have third := laidOut.directory_le
  have fourth := laidOut.frontier_le
  have last := laidOut.floor_le_used
  rw [laidOut.nodesBase_eq]
  exact Window.toNat_address laidOut.arena_sound.window_sound
    (by simp only [Arena.window]; omega)

theorem toNat_idsBase : graph.idsBase.toNat = graph.arena.base.toNat + layout.ids := by
  have first := laidOut.ids_le
  have second := laidOut.directory_le
  have third := laidOut.frontier_le
  have last := laidOut.floor_le_used
  rw [laidOut.idsBase_eq]
  exact Window.toNat_address laidOut.arena_sound.window_sound
    (by simp only [Arena.window]; omega)

variable (bounded : graph.nodeCount ≤ graph.config.nodeBound)
  (inSlot : graph.InSlot node slot)
include bounded inSlot

theorem address_of_inSlot :
    node.address = graph.arena.window.address (layout.nodeAt slot) := by
  have spans := (laidOut.node_spans (Nat.lt_of_lt_of_le inSlot.1 bounded)).le_high
  have place := inSlot.2
  rw [laidOut.toNat_nodesBase, Record.size_node] at place
  rw [Record.size_node] at spans
  rw [← UInt32.toNat_inj,
    Window.toNat_address laidOut.arena_sound.window_sound (by omega), place,
    Layout.nodeAt]
  exact Nat.add_assoc _ _ _

theorem nodeRecord_of_inSlot :
    nodeRecord node graph = .ok (graph.recordAt slot) graph := by
  have spans := laidOut.node_spans (Nat.lt_of_lt_of_le inSlot.1 bounded)
  rw [nodeRecord, laidOut.address_of_inSlot bounded inSlot,
    load_eq laidOut.arena_sound spans (by decide), recordAt,
    laidOut.toNat_nodesBase, Nat.add_sub_cancel_left]
  rfl

theorem idOf_of_inSlot : idOf node graph = .ok (graph.idAt slot) graph := by
  have withinBound := Nat.lt_of_lt_of_le inSlot.1 bounded
  have found : graph.slotOf node = .ok slot := by
    rw [← laidOut.slotOf_nodeOf inSlot.1 bounded]
    refine congrArg _ (NodeRef.ext_address ?_)
    rw [laidOut.address_of_inSlot bounded inSlot, laidOut.address_nodeOf withinBound]
  simp only [idOf, get_bind_apply, found, laidOut.idAddress_eq withinBound,
    liftM_ok_bind_apply]
  rw [load_eq laidOut.arena_sound (laidOut.id_spans withinBound) (by decide), idAt,
    laidOut.toNat_idsBase, Nat.add_sub_cancel_left]
  rfl

end LaidOut

/-! ## The walk -/

/-- A walk along parents, on any state, given how a record and an id are read. -/
def walk {σ : Type} (recordOf : NodeRef → Action σ Node)
    (nameOf : NodeRef → Action σ UInt32) (start goal : NodeRef) :
    Nat → NodeRef → List RouteStep → Action σ (List RouteStep)
  | 0, _, _ => throw (.corrupt goal.address.toNat .endlessRoute)
  | remaining + 1, current, route => do
    let record ← recordOf current
    let id ← nameOf current
    let route := ⟨id, record.cost⟩ :: route
    if current = start then return route
    else
      match NodeRef.ofWord? record.parent with
      | none => throw (.corrupt current.address.toNat .brokenRoute)
      | some parent => walk recordOf nameOf start goal remaining parent route

theorem routeFrom_eq_walk (start goal : NodeRef) (remaining : Nat) (current : NodeRef)
    (route : List RouteStep) :
    routeFrom start goal remaining current route
      = walk nodeRecord idOf start goal remaining current route := by
  induction remaining generalizing current route with
  | zero => rfl
  | succ remaining ih =>
    refine congrArg (nodeRecord current >>= ·) (funext fun record => ?_)
    refine congrArg (idOf current >>= ·) (funext fun id => ?_)
    dsimp only
    cases NodeRef.ofWord? record.parent with
    | none => rfl
    | some parent =>
      dsimp only
      rw [ih]

/-- The route is a walk from the goal on. -/
theorem route_eq_walk (start goal : NodeRef) (graph : Graph) :
    route start goal graph
      = walk nodeRecord idOf start goal (graph.nodeCount + 1) goal [] graph := by
  rw [← routeFrom_eq_walk]
  rfl

/-- Read the record of a node and put the node in front of those whose records were read
before. -/
def noteRecord (node : NodeRef) : Action (Graph × List NodeRef) Node := do
  onSecond (modify (node :: ·))
  onFirst (nodeRecord node)

/-- Noting what is read changes nothing else, and every step of a walk reads one
record. -/
theorem outcome_walk_noteRecord (start goal : NodeRef) (remaining : Nat)
    (current : NodeRef) (route : List RouteStep) (graph : Graph)
    (notes : List NodeRef) : ∃ reads, reads.length ≤ remaining ∧
      (walk noteRecord (fun node => onFirst (idOf node)) start goal remaining current
        route).outcome (graph, notes)
        = (((walk nodeRecord idOf start goal remaining current route).outcome graph).1,
          ((walk nodeRecord idOf start goal remaining current route).outcome graph).2,
            reads ++ notes) := by
  induction remaining generalizing current route graph notes with
  | zero => exact ⟨[], Nat.le_refl _, rfl⟩
  | succ remaining ih =>
    simp only [walk]
    cases readRecord : nodeRecord current graph with
    | error fault between =>
      have noted : noteRecord current (graph, notes)
          = .error fault (between, current :: notes) :=
        onFirst_eq_error readRecord
      refine ⟨[current], Nat.succ_pos _, ?_⟩
      rw [outcome_of_error (bind_error readRecord), outcome_of_error (bind_error noted)]
      rfl
    | ok record between =>
      have noted :
          noteRecord current (graph, notes) = .ok record (between, current :: notes) :=
        onFirst_eq_ok readRecord
      rw [outcome_bind_ok readRecord, outcome_bind_ok noted]
      cases readId : idOf current between with
      | error fault after =>
        refine ⟨[current], Nat.succ_pos _, ?_⟩
        rw [outcome_of_error (bind_error readId),
          outcome_of_error (bind_error (onFirst_eq_error readId))]
        rfl
      | ok id after =>
        rw [outcome_bind_ok readId, outcome_bind_ok (onFirst_eq_ok readId)]
        split
        · exact ⟨[current], Nat.succ_pos _, rfl⟩
        · split
          · exact ⟨[current], Nat.succ_pos _, rfl⟩
          · obtain ⟨reads, fewer, ended⟩ :=
              ih _ (⟨id, record.cost⟩ :: route) after (current :: notes)
            refine ⟨reads ++ [current], ?_, ?_⟩
            · rw [List.length_append, List.length_singleton]
              exact Nat.succ_le_succ fewer
            · rw [ended, List.append_assoc]
              rfl

/-- The walk on the graph: it comes to the start along a chain of parents that is short
enough, or there is none and it fails. -/
theorem routeFrom_cases (laidOut : graph.LaidOut layout)
    (bounded : graph.nodeCount ≤ graph.config.nodeBound) (start goal : NodeRef)
    (remaining : Nat) (current : NodeRef) (route : List RouteStep) :
    (∃ slots, graph.Leads start current slots ∧
      routeFrom start goal remaining current route graph
        = .ok (slots.map graph.routeStepAt ++ route) graph) ∨
    (∀ slots, graph.Leads start current slots → remaining < slots.length) ∧
      ∃ fault, fault.IsOfWalk ∧
        routeFrom start goal remaining current route graph = .error fault graph := by
  induction remaining generalizing current route with
  | zero =>
    exact .inr ⟨fun slots leads => leads.length_pos, .corrupt _ .endlessRoute,
      .inr (.inr rfl), rfl⟩
  | succ remaining ih =>
    by_cases placed : ∃ slot, graph.InSlot current slot
    · obtain ⟨slot, inSlot⟩ := placed
      simp only [routeFrom, bind_ok (laidOut.nodeRecord_of_inSlot bounded inSlot),
        bind_ok (laidOut.idOf_of_inSlot bounded inSlot)]
      by_cases isStart : current = start
      · subst isStart
        rw [if_pos rfl]
        exact .inl ⟨[slot], .start inSlot, rfl⟩
      · rw [if_neg isStart]
        cases refers : NodeRef.ofWord? (graph.recordAt slot).parent with
        | none =>
          refine .inr ⟨fun slots leads => ?_, .corrupt _ .brokenRoute, .inr (.inl rfl),
            rfl⟩
          obtain ⟨parent, _, parent_eq, _⟩ := leads.exists_parent inSlot isStart
          rw [parent_eq, NodeRef.ofWord?_address] at refers
          cases refers
        | some parent =>
          have parent_eq := NodeRef.address_of_ofWord? refers
          rcases ih parent (graph.routeStepAt slot :: route) with
            ⟨slots, leads, ended⟩ | ⟨tooLong, fault, ofWalk, failed⟩
          · refine .inl ⟨slots ++ [slot], .child leads inSlot isStart parent_eq.symm,
              ?_⟩
            rw [List.map_append, List.append_assoc]
            exact ended
          · refine .inr ⟨fun slots leads => ?_, fault, ofWalk, failed⟩
            obtain ⟨other, earlier, other_eq, leads, rfl⟩ :=
              leads.exists_parent inSlot isStart
            obtain rfl := NodeRef.ext_address (parent_eq.trans other_eq)
            rw [List.length_append, List.length_singleton]
            exact Nat.succ_lt_succ (tooLong earlier leads)
    · have noSlot : ∀ slot, ¬ graph.InSlot current slot := fun slot inSlot =>
        placed ⟨slot, inSlot⟩
      have noChain : ∀ slots, ¬ graph.Leads start current slots := fun slots leads =>
        placed leads.exists_inSlot
      refine .inr ⟨fun slots leads => absurd leads (noChain slots), ?_⟩
      rw [routeFrom]
      cases located : graph.arena.window.locate current.address (Record.size Node) with
      | ok position =>
        rw [nodeRecord, bind_ok (load_of_locate located),
          bind_error (idOf_of_not_inSlot noSlot)]
        exact ⟨.corrupt _ .notNodeSlot, .inl rfl, rfl⟩
      | error fault =>
        obtain rfl := Window.locate_eq_error located
        rw [nodeRecord, bind_error (load_of_outside located)]
        exact ⟨.addressOutside _, trivial, rfl⟩

/-- The walk from the goal is long enough for every chain. -/
theorem route_cases (laidOut : graph.LaidOut layout)
    (bounded : graph.nodeCount ≤ graph.config.nodeBound) (start goal : NodeRef) :
    (∃ slots, graph.Leads start goal slots ∧
      route start goal graph = .ok (slots.map graph.routeStepAt) graph) ∨
    (∀ slots, ¬ graph.Leads start goal slots) ∧
      ∃ fault, fault.IsOfWalk ∧ route start goal graph = .error fault graph := by
  simp only [route, get_bind_apply]
  rcases routeFrom_cases laidOut bounded start goal (graph.nodeCount + 1) goal [] with
    ⟨slots, leads, ended⟩ | ⟨tooLong, failed⟩
  · rw [List.append_nil] at ended
    exact .inl ⟨slots, leads, ended⟩
  · refine .inr ⟨fun slots leads => ?_, failed⟩
    have long := tooLong slots leads
    have short := leads.length_le
    omega

theorem exists_reads (start goal : NodeRef) (graph : Graph) :
    ∃ reads, reads.length ≤ graph.nodeCount + 1 ∧
      (walk noteRecord (fun node => onFirst (idOf node)) start goal
        (graph.nodeCount + 1)
          goal []).outcome (graph, [])
        = ((route start goal).result graph, (graph, reads)) := by
  obtain ⟨reads, fewer, noted⟩ :=
    outcome_walk_noteRecord start goal (graph.nodeCount + 1) goal [] graph []
  refine ⟨reads, fewer, noted.trans ?_⟩
  have keeps : Keeps id (routeFrom start goal (graph.nodeCount + 1) goal []) :=
    keeps_routeFrom _ _ _ _ _
  have same : (outcome (routeFrom start goal (graph.nodeCount + 1) goal []) graph).2
      = graph := keeps graph
  rw [← routeFrom_eq_walk, same, List.append_nil]
  rfl

theorem route_eq_ok_iff (laidOut : graph.LaidOut layout)
    (bounded : graph.nodeCount ≤ graph.config.nodeBound) {steps : List RouteStep}
    {after : Graph} :
    route start goal graph = .ok steps after ↔
      after = graph ∧ ∃ slots, graph.Leads start goal slots ∧
        steps = slots.map graph.routeStepAt := by
  rcases route_cases laidOut bounded start goal with
    ⟨slots, leads, ended⟩ | ⟨noChain, fault, _, failed⟩
  · rw [ended]
    constructor
    · intro same
      cases same
      exact ⟨rfl, slots, leads, rfl⟩
    · rintro ⟨rfl, others, otherLeads, rfl⟩
      rw [leads.unique otherLeads]
  · rw [failed]
    constructor
    · intro same
      cases same
    · rintro ⟨_, slots, leads, _⟩
      exact absurd leads (noChain slots)

/-- On a graph that a program can hold, with any bytes under it: the walk from goal to
start reads at most one record more than there are nodes, as the same walk tells that
notes what it reads. It returns a route exactly if parents lead from goal to start
through slots in use, and then the route is that chain as a whole, no slot of which
comes twice. Else it fails. Nothing but the shape of the graph comes from `Built`, so
its condition on accelerators makes no difference here. -/
theorem route_eq_ok_iff_leads {graph shown : Graph} {links : List Link}
    (built : Built graph links)
    (overwritten : ∃ memory, shown = graph.withMemory memory) (start goal : NodeRef) :
    route start goal shown
      = walk nodeRecord idOf start goal (shown.nodeCount + 1) goal [] shown ∧
    (∃ reads, reads.length ≤ shown.nodeCount + 1 ∧
      (walk noteRecord (fun node => onFirst (idOf node)) start goal
          (shown.nodeCount + 1) goal []).outcome (shown, [])
        = ((route start goal).result shown, (shown, reads))) ∧
    (∀ steps after, route start goal shown = .ok steps after ↔
      after = shown ∧
        ∃ slots, shown.Leads start goal slots ∧ steps = slots.map shown.routeStepAt) ∧
    (∀ slots, shown.Leads start goal slots →
      slots.Nodup ∧ slots.length ≤ shown.nodeCount) ∧
    ((∀ slots, ¬ shown.Leads start goal slots) →
      ∃ fault, fault.IsOfWalk ∧ route start goal shown = .error fault shown) := by
  obtain ⟨memory, rfl⟩ := overwritten
  obtain ⟨layout, pages, content, stores, _⟩ := built.stores
  have bounded : graph.nodeCount ≤ graph.config.nodeBound :=
    stores.nodeCount_eq ▸ stores.nodeCount_le
  have laidOut := stores.toLaidOut.withMemory memory
  refine ⟨route_eq_walk start goal _, exists_reads start goal _,
    fun steps after => route_eq_ok_iff laidOut bounded,
    fun slots leads => ⟨leads.nodup, leads.length_le⟩, fun noChain => ?_⟩
  rcases route_cases laidOut bounded start goal with ⟨slots, leads, _⟩ | ⟨_, failed⟩
  · exact absurd leads (noChain slots)
  · exact failed

/-- A small graph with another record for its second node, which has the given
parent. -/
def withParent (graph : Graph) (parent : UInt32) : Graph :=
  graph.withMemory (Record.write graph.memory 80 (⟨parent, 7, 0, 0⟩ : Node))

/-- With the first node for the parent of the second there is a route, and with the
second for its own parent there is none. -/
theorem route_eq_ok_iff_leads_of_pair :
    ∃ graph shown circling, Built graph [⟨1, 2, 5⟩] ∧
      (∃ memory, shown = graph.withMemory memory) ∧
      (∃ memory, circling = graph.withMemory memory) ∧
      (∃ slots, shown.Leads (.ofWord 0x10000040) (.ofWord 0x10000050) slots ∧
        slots.length = 2) ∧
      ∀ slots, ¬ circling.Leads (.ofWord 0x10000040) (.ofWord 0x10000050) slots := by
  obtain ⟨graph, built, found, endless⟩ : ∃ graph, Built graph [⟨1, 2, 5⟩] ∧
      (route (.ofWord 0x10000040) (.ofWord 0x10000050)).result
        (graph.withParent 0x10000040)
        = .ok [⟨1, unreached⟩, ⟨2, 7⟩] ∧
      (route (.ofWord 0x10000040) (.ofWord 0x10000050)).result
        (graph.withParent 0x10000050)
        = .error (.corrupt 0x10000050 .endlessRoute) :=
    exists_built ⟨.heap, 0x10000000, 65536, .zeros⟩ 64 ⟨2, 2, .dense 9⟩
      [.addEdge ⟨1, 2, 5⟩] (by decide +kernel)
  have overwritten (parent : UInt32) :
      ∃ memory, graph.withParent parent = graph.withMemory memory := ⟨_, rfl⟩
  refine ⟨graph, graph.withParent 0x10000040, graph.withParent 0x10000050, built,
    overwritten _, overwritten _, ?_, ?_⟩
  · cases ran :
      route (.ofWord 0x10000040) (.ofWord 0x10000050) (graph.withParent 0x10000040) with
    | error fault rest =>
      rw [result_of_error ran] at found
      cases found
    | ok steps after =>
      rw [result_of_ok ran] at found
      cases found
      obtain ⟨_, slots, leads, steps_eq⟩ :=
        ((route_eq_ok_iff_leads built (overwritten _) _ _).2.2.1 _ _).mp ran
      refine ⟨slots, leads, ?_⟩
      rw [← List.length_map, ← steps_eq]
      rfl
  · intro slots leads
    have ended := ((route_eq_ok_iff_leads built (overwritten _) _ _).2.2.1 _ _).mpr
        ⟨rfl, slots, leads, rfl⟩
    rw [result_of_ok ended] at endless
    cases endless

end Graph

end ArenaPaths
