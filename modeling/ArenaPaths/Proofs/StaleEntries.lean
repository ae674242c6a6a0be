import ArenaPaths.Proofs.Labels
import ArenaPaths.Proofs.NotedSearch
import ArenaPaths.Proofs.PriorityQueue

/-!
# Stale entries

A frontier cannot lower the cost of an entry, so a search that improves the label of a
node adds a further entry and leaves the old one where it is. What records and frontier
have to do with each other is looked at here at every moment of a search. The entries
are then those in the frontier and at most one on its way: it is taken out and not
looked at yet, or it is to be added for the label that was stored last.

No entry is ever cheaper than the label of its node, and a node that is reached and not
marked has an entry of exactly its cost. So an entry that comes out for a node that is
not marked has the cost in the record, and the search need not look at it. Once a node
is marked, its cost and its parent stay.

Main statement: `Graph.stale_entries_decide_nothing`.
-/

namespace ArenaPaths

open ArenaPaths.Action

/-! ## Offers at every moment -/

namespace Dijkstra

open Search (Change Moment)

variable {hops : Nat → List Hop} {count start goal current target : Nat}
  {state next before after : State} {change : Change Offer} {offer : Offer}
  {cost : UInt32}

/-- An offer is in the frontier, or on its way into it or out of it. -/
def InPlay (change : Change Offer) (state : State) (offer : Offer) : Prop :=
  change.afoot = some offer ∨ offer ∈ state.offers

/-- What labels and offers have to do with each other after a change. -/
structure Backed (count : Nat) (change : Change Offer) (state : State) : Prop where
  node_lt : ∀ offer, InPlay change state offer → offer.node < count
  cost_le : ∀ offer, InPlay change state offer → state.cost offer.node ≤ offer.cost
  live : ∀ node, node ∉ state.settled → state.cost node ≠ unreached →
    InPlay change state ⟨state.cost node, node⟩
  popped_eq : ∀ offer, change = .popped offer → offer.node ∉ state.settled →
    state.cost offer.node = offer.cost

/-- A state differs from one in which labels and offers belong together by the offer
that is on its way. -/
theorem Consistent.backed (consistent : Consistent hops count start next)
    (cost_eq : next.cost = state.cost) (settled_eq : next.settled = state.settled)
    (inPlay_iff : ∀ offer, InPlay change state offer ↔ offer ∈ next.offers)
    (popped_eq : ∀ offer, change = .popped offer → offer.node ∉ state.settled →
      state.cost offer.node = offer.cost) :
    Backed count change state where
  node_lt offer inPlay := consistent.node_lt offer ((inPlay_iff offer).mp inPlay)
  cost_le offer inPlay := by
    rw [← cost_eq, UInt32.le_iff_toNat_le]
    exact consistent.cost_le_offer offer ((inPlay_iff offer).mp inPlay)
  live node isOpen reached := by
    rw [← settled_eq] at isOpen
    rw [← cost_eq] at reached ⊢
    exact (inPlay_iff _).mpr (consistent.live node isOpen reached)
  popped_eq := popped_eq

/-- Before the offer for a label is added. -/
theorem Consistent.backed_labelled (ordered : state.Ordered)
    (consistent : Consistent hops count start (state.push offer)) :
    Backed count (.labelled offer) state := by
  have offers : (state.push offer).offers = offer ::ₘ state.offers :=
    (Heap.push_spec ordered offer).2
  refine consistent.backed rfl rfl ?_ (by rintro _ ⟨⟩)
  intro other
  rw [offers, Multiset.mem_cons, InPlay, Change.afoot, Option.some.injEq, eq_comm]

/-- With no offer on its way. -/
theorem Consistent.backed_of_afoot (consistent : Consistent hops count start state)
    (change : Change Offer) (atRest : change.afoot = none) :
    Backed count change state := by
  refine consistent.backed rfl rfl ?_ ?_
  · intro offer
    simp [InPlay, atRest]
  · rintro offer rfl
    cases atRest

/-- After the cheapest offer is taken out. -/
theorem Consistent.backed_popped (consistent : Consistent hops count start state)
    (positive : 0 < state.size) :
    Backed count (.popped (state.heap 1)) state.pop := by
  refine consistent.backed rfl rfl ?_ ?_
  · intro other
    rw [consistent.ordered.offers_eq_cons positive, Multiset.mem_cons, InPlay,
      Change.afoot, Option.some.injEq, eq_comm]
  · intro offer isTop fresh
    cases isTop
    exact consistent.cost_eq_of_pop positive fresh

/-- What is settled in one state is so in another one, with the same cost and the same
parent. -/
def State.KeptBy (before after : State) : Prop :=
  ∀ node ∈ before.settled, node ∈ after.settled ∧ after.cost node = before.cost node ∧
    after.parent node = before.parent node

theorem State.KeptBy.trans (first : before.KeptBy state) (second : state.KeptBy after) :
    before.KeptBy after := by
  intro node isSettled
  obtain ⟨between, cost_eq, parent_eq⟩ := first node isSettled
  obtain ⟨later, costAfter, parentAfter⟩ := second node between
  exact ⟨later, costAfter.trans cost_eq, parentAfter.trans parent_eq⟩

theorem State.KeptBy.refl (state : State) : state.KeptBy state := fun _ isSettled =>
    ⟨isSettled, rfl, rfl⟩

theorem State.keptBy_push (state : State) (offer : Offer) :
    state.KeptBy (state.push offer) := .refl state

theorem State.keptBy_pop (state : State) : state.KeptBy state.pop := .refl state

theorem State.keptBy_settle (state : State) (node : Nat) :
    state.KeptBy (state.settle node) :=
  fun _ isSettled => ⟨List.mem_cons_of_mem _ isSettled, rfl, rfl⟩

/-- Give a node a better label, without an offer of it. -/
def State.label (state : State) (current target : Nat) (cost : UInt32) : State :=
  { state with
    parent := Function.update state.parent target (some current)
    cost := Function.update state.cost target cost
    improved := state.improved + 1 }

theorem State.keptBy_label (isOpen : target ∉ state.settled) :
    state.KeptBy (state.label current target cost) := by
  intro node isSettled
  have different : node ≠ target := ne_of_mem_of_not_mem isSettled isOpen
  exact ⟨isSettled, Function.update_of_ne different _ _,
    Function.update_of_ne different _ _⟩

/-! ## Moments in memory -/

variable {terrain : Terrain} {memory : Memory} {workspace : Workspace} {moment : Moment}
  {moments : List Moment}

/-- The slot for an offer. -/
def Offer.slot (terrain : Terrain) (offer : Offer) : Slot :=
  ⟨offer.cost, terrain.nodeWord offer.node⟩

/-- A moment shows a state in which labels and offers have to do with each other as they
should. -/
structure State.SeenAt (state : State) (terrain : Terrain) (memory : Memory)
    (moment : Moment) : Prop where
  shown : state.ShownBy terrain memory moment.workspace
  size_le : state.size ≤ terrain.capacity
  backed : ∃ change, moment.change = change.map (Offer.slot terrain) ∧
    Backed terrain.count change state

/-- The moments so far show such states, and from each of them on whatever is settled is
kept, up to the given state. -/
structure Noted (terrain : Terrain) (memory : Memory) (state : State)
    (moments : List Moment) : Prop where
  seen : ∀ moment ∈ moments, ∃ past : State, past.SeenAt terrain memory moment ∧
    past.KeptBy state
  kept : moments.Pairwise fun earlier later => ∃ before after : State,
    before.ShownBy terrain memory earlier.workspace ∧
    after.ShownBy terrain memory later.workspace ∧ before.KeptBy after

/-- Besides, the last moment is now. -/
structure Recorded (terrain : Terrain) (memory : Memory) (state : State)
    (workspace : Workspace) (moments : List Moment) :
    Prop extends Noted terrain memory state moments where
  shown : state.ShownBy terrain memory workspace
  latest : moments.getLast?.map Moment.workspace = some workspace

theorem noted_nil (terrain : Terrain) (memory : Memory) (state : State) :
    Noted terrain memory state [] :=
  ⟨fun _ member => absurd member List.not_mem_nil, .nil⟩

/-- A moment is added. -/
theorem Noted.note (noted : Noted terrain memory state moments)
    (keptBy : state.KeptBy next) (shown : next.ShownBy terrain memory workspace)
    (size_le : next.size ≤ terrain.capacity)
    (backed : Backed terrain.count change next) :
    Recorded terrain memory next workspace
      (moments ++ [⟨change.map (Offer.slot terrain), workspace⟩]) := by
  have seenAt :
      next.SeenAt terrain memory ⟨change.map (Offer.slot terrain), workspace⟩ :=
    ⟨shown, size_le, change, rfl, backed⟩
  constructor
  case shown => exact shown
  case latest => rw [List.getLast?_concat, Option.map_some]
  constructor
  case seen =>
    intro moment member
    rcases List.mem_append.mp member with earlier | new
    · obtain ⟨past, pastSeen, pastKept⟩ := noted.seen moment earlier
      exact ⟨past, pastSeen, pastKept.trans keptBy⟩
    · rw [List.mem_singleton.mp new]
      exact ⟨next, seenAt, .refl next⟩
  case kept =>
    refine List.pairwise_append.mpr ⟨noted.kept, List.pairwise_singleton _ _, ?_⟩
    intro earlier member later new
    rw [List.mem_singleton.mp new]
    obtain ⟨past, pastSeen, pastKept⟩ := noted.seen earlier member
    exact ⟨past, next, pastSeen.shown, shown, pastKept.trans keptBy⟩

/-! ### Relaxing -/

/-- The arcs of the node settled last are being relaxed, from the given cost. -/
structure Relaxing (terrain : Terrain) (start current : Nat) (cost : UInt32)
    (state : State) : Prop where
  consistent : Consistent terrain.hops terrain.count start state
  newest : ∃ older, state.settled = current :: older
  cost_eq : state.cost current = cost

/-- Relaxing arcs of a node goes on with its other arcs. -/
theorem Relaxing.relaxHops (relaxing : Relaxing terrain start current cost state)
    (sound : terrain.Sound) {arcs : List Hop}
    (own : ∀ hop ∈ arcs, hop ∈ terrain.hops current) :
    Relaxing terrain start current cost (relaxHops current cost arcs state) := by
  obtain ⟨consistent, ⟨older, newest⟩, rfl⟩ := relaxing
  have currentSettled : current ∈ state.settled := by
    rw [newest]; exact List.mem_cons_self
  obtain ⟨consistentAfter, improves, _⟩ := consistent.relaxHops sound.inRange newest own
  exact ⟨consistentAfter, ⟨older, improves.settled_eq.trans newest⟩,
    improves.cost_eq current currentSettled⟩

theorem Relaxing.relaxHop (relaxing : Relaxing terrain start current cost state)
    (sound : terrain.Sound) {hop : Hop} (own : hop ∈ terrain.hops current) :
    Relaxing terrain start current cost (relaxHop current cost state hop) := by
  have alone : ∀ other ∈ [hop], other ∈ terrain.hops current := by
    intro other member
    rw [List.mem_singleton.mp member]
    exact own
  exact relaxing.relaxHops sound alone

theorem Relaxing.current_lt (relaxing : Relaxing terrain start current cost state) :
    current < terrain.count := by
  obtain ⟨older, newest⟩ := relaxing.newest
  exact relaxing.consistent.settled_lt current
    (by rw [newest]; exact List.mem_cons_self)

variable {currentRef : NodeRef}

/-- Relaxing an arc in memory takes down a label and an entry, or nothing. -/
theorem Recorded.relaxHop (recorded : Recorded terrain memory state workspace moments)
    (sound : terrain.Sound) (relaxing : Relaxing terrain start current cost state)
    {hop : Hop} (own : hop ∈ terrain.hops current)
    (fits : state.size < terrain.capacity) (takes : state.size < terrain.limit)
    (refers : currentRef.address = terrain.nodeWord current) {targetRef : NodeRef}
    (targetRefers : targetRef.address = terrain.nodeWord hop.target) :
    ∃ improved after more,
      Search.noteRelaxing terrain.window currentRef cost ⟨targetRef, hop.cost⟩
        (workspace, moments)
        = .ok improved (after, more) ∧
      Recorded terrain memory (relaxHop current cost state hop) after more := by
  obtain ⟨consistent, ⟨older, newest⟩, rfl⟩ := relaxing
  have currentSettled : current ∈ state.settled := by
    rw [newest]; exact List.mem_cons_self
  have inside :=
    sound.inRange current (consistent.settled_lt current currentSettled) hop own
  have loaded := sound.load_node inside targetRefers workspace
  rw [recorded.shown.record_eq _ inside] at loaded
  rw [Dijkstra.relaxHop]
  by_cases better : Search.addCost (state.cost current) hop.cost < state.cost hop.target
  case neg =>
    rw [if_neg better]
    refine ⟨false, workspace, moments, ?_, recorded⟩
    change ¬ _ < (state.record terrain memory hop.target).cost at better
    simp only [Search.noteRelaxing, bind_ok (onFirst_eq_ok loaded), if_neg better,
      pure_apply]
  have lower := UInt32.lt_iff_toNat_lt.mp better
  have isOpen := consistent.not_settled_of_better newest lower
  have improved := consistent.improve sound.inRange newest own lower
  have label : { state.record terrain memory hop.target with
        cost := Search.addCost (state.cost current) hop.cost, parent :=
            currentRef.address }
      = (state.label current hop.target
            (Search.addCost (state.cost current) hop.cost)).record terrain memory
        hop.target := by
    simp [State.record, State.label, Terrain.parentWord, refers]
  have stored := recorded.shown.store sound inside
    (state.label current hop.target (Search.addCost (state.cost current) hop.cost))
    rfl rfl (by
      intro other different
      simp only [State.record, State.label, Function.update_of_ne different])
  obtain ⟨after, pushed, shown⟩ :=
    stored.push sound fits (Nat.ne_of_lt takes) ⟨_, hop.target⟩ targetRefers
  -- the entry for the label is on its way until it is added
  have labelled := recorded.note (State.keptBy_label isOpen) stored (Nat.le_of_lt fits)
    (improved.backed_labelled consistent.ordered)
  have recordedAfter := labelled.note (State.keptBy_push _ _) shown fits
      (improved.backed_of_afoot .pushed rfl)
  rw [if_pos better]
  refine ⟨true, after, _, ?_, recordedAfter⟩
  change _ < (state.record terrain memory hop.target).cost at better
  rw [← label] at pushed ⊢
  simp only [Search.noteRelaxing, bind_ok (onFirst_eq_ok loaded), if_pos better,
    bind_ok (onFirst_eq_ok (sound.store_node inside targetRefers _ _)),
    bind_ok (Search.note_apply _ _ _), bind_ok (onFirst_eq_ok pushed), pure_apply]
  rw [targetRefers]
  rfl

/-- Relaxing the edges of a page in memory. -/
theorem Recorded.relaxEdges (recorded : Recorded terrain memory state workspace moments)
    (sound : terrain.Sound) (relaxing : Relaxing terrain start current cost state)
    {arcs : List Hop} (own : ∀ hop ∈ arcs, hop ∈ terrain.hops current)
    (fits : state.size + arcs.length ≤ terrain.capacity)
    (takes : state.size + arcs.length ≤ terrain.limit)
    (refers : currentRef.address = terrain.nodeWord current) (page : PageRef) :
    ∃ improved after more,
      visitEdges (Search.noteRelaxing terrain.window currentRef cost) page
        (arcs.map terrain.edge) (workspace, moments)
        = .ok improved (after, more) ∧
      Recorded terrain memory (relaxHops current cost arcs state) after more := by
  induction arcs generalizing state workspace moments with
  | nil => exact ⟨0, workspace, moments, rfl, recorded⟩
  | cons hop rest ih =>
    rw [List.length_cons] at fits takes
    have ownFirst := own hop List.mem_cons_self
    have inside := sound.inRange current (relaxing.current_lt) hop ownFirst
    obtain ⟨target, named, targetRefers⟩ := sound.ofWord?_nodeWord inside
    obtain ⟨first, between, noted, ran, recordedBetween⟩ :=
      recorded.relaxHop sound relaxing ownFirst (by omega)
        (by omega) refers targetRefers
    have grown := size_relaxHop_le state current cost hop
    obtain ⟨more, after, all, ranRest, recordedAfter⟩ :=
      ih recordedBetween (relaxing.relaxHop sound ownFirst)
        (fun other member => own other (List.mem_cons_of_mem _ member)) (by omega)
          (by omega)
    refine ⟨first.toNat + more, after, all, ?_, recordedAfter⟩
    have visited : visitEdge (Search.noteRelaxing terrain.window currentRef cost) page
        (terrain.edge hop)
        (workspace, moments) = .ok first (between, noted) := by
      rw [visitEdge]
      change NodeRef.ofWord? (terrain.edge hop).target = _ at named
      rw [named]
      exact ran
    rw [List.map_cons, visitEdges, bind_ok visited, bind_ok ranRest, pure_apply]

/-- Relaxing a chain of pages in memory. -/
theorem Recorded.relaxChain (recorded : Recorded terrain memory state workspace moments)
    (sound : terrain.Sound) (relaxing : Relaxing terrain start current cost state)
    {pages : List Nat} {word : UInt32} {arcs : List Hop} {fuel : Nat}
    (enough : pages.length < fuel)
    (onChain : ∀ position ∈ pages, position ∈ terrain.pages current)
    (chain : Chain terrain.window.address memory pages word (arcs.map terrain.edge))
    (own : ∀ hop ∈ arcs, hop ∈ terrain.hops current)
    (fits : state.size + arcs.length ≤ terrain.capacity)
    (takes : state.size + arcs.length ≤ terrain.limit)
    (refers : currentRef.address = terrain.nodeWord current) :
    ∃ improved after more,
      visitChain (fun page => onFirst (Search.readPage terrain.window page))
          (Search.noteRelaxing terrain.window currentRef cost) fuel word
            (workspace, moments)
        = .ok improved (after, more) ∧
      Recorded terrain memory (relaxHops current cost arcs state) after more := by
  induction pages generalizing state workspace moments word arcs fuel with
  | nil =>
    obtain ⟨rfl, noArcs⟩ := chain
    obtain rfl := List.map_eq_nil_iff.mp noArcs
    obtain ⟨fuel, rfl⟩ : ∃ less, fuel = less + 1 := ⟨fuel - 1, by omega⟩
    exact ⟨0, workspace, moments, rfl, recorded⟩
  | cons position rest ih =>
    obtain ⟨fuel, rfl⟩ : ∃ less, fuel = less + 1 := ⟨fuel - 1, by omega⟩
    obtain ⟨rfl, _, count, claimed, tail⟩ := chain
    have onPages := onChain position List.mem_cons_self
    have span := (sound.page_spans current relaxing.current_lt position onPages).1
    have present :=
      PageRef.ofWord?_of_ne (Window.address_ne_null sound.window_sound span (by decide))
    have read : Search.readPage terrain.window
        ⟨terrain.window.address position,
          Window.address_ne_null sound.window_sound span (by decide)⟩ workspace
        = .ok (Record.read memory position) workspace := by
      change Workspace.onMemory
        (terrain.window.load Page (terrain.window.address position)) workspace = _
      rw [← sound.read_page relaxing.current_lt onPages recorded.shown.same]
      exact focus_eq_ok (Window.load_address sound.window_sound span (by decide))
    have honest :
        ¬ edgesPerPage < (Record.read memory position : Page).count.toNat := by omega
    rw [← List.map_take] at claimed
    rw [← List.map_drop] at tail
    have whole := List.take_append_drop edgesPerPage arcs
    have lengths : (arcs.take edgesPerPage).length + (arcs.drop edgesPerPage).length
        = arcs.length := by
      rw [← List.length_append, whole]
    have ownTaken : ∀ hop ∈ arcs.take edgesPerPage, hop ∈ terrain.hops current :=
      fun hop member => own hop (List.mem_of_mem_take member)
    obtain ⟨first, between, noted, ran, recordedBetween⟩ :=
      recorded.relaxEdges sound relaxing ownTaken (by omega) (by omega) refers
        ⟨terrain.window.address position,
          Window.address_ne_null sound.window_sound span (by decide)⟩
    have grown := size_relaxHops_le state current cost (arcs.take edgesPerPage)
    obtain ⟨more, after, all, ranRest, recordedAfter⟩ :=
      ih recordedBetween (relaxing.relaxHops sound ownTaken) (by simpa using enough)
        (fun other member => onChain other (List.mem_cons_of_mem _ member)) tail
        (fun hop member => own hop (List.mem_of_mem_drop member)) (by omega) (by omega)
    rw [← relaxHops_append, whole] at recordedAfter
    refine ⟨first + more, after, all, ?_, recordedAfter⟩
    simp only [visitChain, present, bind_ok (onFirst_eq_ok read), if_neg honest,
      claimed, bind_ok ran, bind_ok ranRest, pure_apply]

/-! ### Whole searches -/

variable {startRef goalRef : NodeRef}

/-- The nodes that are settled can be counted. -/
theorem Consistent.add_length_settled
    (consistent : Consistent terrain.hops terrain.count start state)
    (sound : terrain.Sound) :
    Word.add UInt64.size state.settled.length 1 = .ok (state.settled.length + 1) := by
  have atMost := consistent.length_settled_le
  have small := sound.count_lt
  have limit : UInt32.size < UInt64.size := by decide
  exact Word.add_eq_ok (by omega)

/-- A node with no more arcs than the frontier has slots has few pages. -/
theorem length_pages_lt (holds : terrain.Holds memory) (sound : terrain.Sound)
    {slot : Nat} (inside : slot < terrain.count)
    (few : (terrain.hops slot).length ≤ terrain.capacity) :
    (terrain.pages slot).length < Search.chainFuel := by
  have shorter := (holds slot inside).length_le
  rw [List.length_map] at shorter
  have small := sound.capacity_lt
  have limit : UInt32.size < Search.chainFuel := by decide
  omega

/-- Taking out the cheapest entry takes down the moment at which it is on its way. -/
theorem Recorded.pop (recorded : Recorded terrain memory state workspace moments)
    (sound : terrain.Sound)
    (consistent : Consistent terrain.hops terrain.count start state)
    (positive : 0 < state.size) (fits : state.size ≤ terrain.capacity) :
    ∃ (current : NodeRef) (popped : Workspace),
      current.address = terrain.nodeWord (state.heap 1).node ∧
      Frontier.pop terrain.window workspace
        = .ok (some ((state.heap 1).cost, current)) popped ∧
      Recorded terrain memory state.pop popped
        (moments ++ [⟨.popped ⟨(state.heap 1).cost, current.address⟩, popped⟩]) := by
  have inside := consistent.node_lt _ (heap_one_mem_offers positive)
  obtain ⟨current, _, refers⟩ := sound.ofWord?_nodeWord inside
  obtain ⟨popped, ran, shown⟩ := recorded.shown.pop sound positive fits refers
  refine ⟨current, popped, refers, ran, ?_⟩
  rw [refers]
  exact recorded.note state.keptBy_pop shown (Nat.le_trans (Nat.sub_le _ 1) fits)
    (consistent.backed_popped positive)

/-- Marking a node takes down the moment after it. -/
theorem Recorded.mark (recorded : Recorded terrain memory state workspace moments)
    (sound : terrain.Sound) {node : Nat}
    (consistent : Consistent terrain.hops terrain.count start (state.settle node))
    (inside : node < terrain.count) (fits : state.size ≤ terrain.capacity)
    (refers : currentRef.address = terrain.nodeWord node) :
    ∃ marked, Workspace.onMemory
          (terrain.window.store currentRef.address
            { state.record terrain memory node with visited := 1 }) workspace
        = .ok () marked ∧
      Recorded terrain memory (state.settle node) marked
        (moments ++ [⟨.marked, marked⟩]) := by
  obtain ⟨marked, stored, shown⟩ := recorded.shown.mark sound inside refers
  exact ⟨marked, stored, recorded.note (state.keptBy_settle node) shown fits
    (consistent.backed_of_afoot .marked rfl)⟩

/-- One round of the search in memory is a step of the machine, and its moments are
taken down. -/
theorem Recorded.settle_step
    (recorded : Recorded terrain memory state workspace moments) (sound : terrain.Sound)
    (holds : terrain.Holds memory)
    (invariant : Invariant terrain.hops terrain.count start goal state)
    (fits : budget terrain.hops terrain.count state ≤ terrain.capacity)
    (takes : budget terrain.hops terrain.count state ≤ terrain.limit)
    (goalInside : goal < terrain.count)
    (goalRefers : goalRef.address = terrain.nodeWord goal) (fuel relaxations : Nat) :
    ∃ after more total,
      Recorded terrain memory (step terrain.hops goal state).2 after more ∧
      Search.noteSettling terrain.window goalRef
        (fuel + 1) state.settled.length relaxations (workspace, moments) =
        match step terrain.hops goal state with
        | (some outcome, next) =>
          .ok ⟨outcome, next.settled.length, total⟩ (after, more)
        | (none, next) =>
          Search.noteSettling terrain.window goalRef fuel next.settled.length total
              (after, more) := by
  by_cases empty : state.size = 0
  · have taken : step terrain.hops goal state = (some .exhausted, state) := if_pos empty
    have nothing : Frontier.pop terrain.window workspace = .ok none workspace :=
      Frontier.pop_of_empty (by rw [recorded.shown.frontier_eq]; exact empty)
    rw [taken]
    refine ⟨workspace, moments, relaxations, recorded, ?_⟩
    simp only [Search.noteSettling, bind_ok (onFirst_eq_ok nothing), pure_apply]
  have positive : 0 < state.size := Nat.pos_of_ne_zero empty
  have inside := invariant.node_lt _ (heap_one_mem_offers positive)
  rw [budget] at fits takes
  obtain ⟨current, popped, refers, ranPop, recordedPop⟩ :=
    recorded.pop sound invariant.toConsistent positive (by omega)
  have loaded := sound.load_node inside refers popped
  rw [recordedPop.shown.record_eq _ inside] at loaded
  by_cases stale : (state.heap 1).node ∈ state.settled
  · have taken : step terrain.hops goal state = (none, state.pop) := by
      simp only [step, if_neg empty, if_pos stale]
    have visited :
        (state.pop.record terrain memory (state.heap 1).node).isVisited = true :=
      State.ShownBy.isVisited_record.mpr stale
    rw [taken]
    refine ⟨popped, _, relaxations, recordedPop, ?_⟩
    simp only [Search.noteSettling, bind_ok (onFirst_eq_ok ranPop),
      bind_ok (Search.note_apply _ _ _),
      bind_ok (onFirst_eq_ok loaded), if_pos visited, State.settled_pop]
  have unvisited :
      ¬ (state.pop.record terrain memory (state.heap 1).node).isVisited = true :=
    mt State.ShownBy.isVisited_record.mp stale
  have settling := invariant.pop_settle positive stale
  obtain ⟨marked, stored, recordedMark⟩ :=
    recordedPop.mark sound settling inside (by rw [State.size_pop]; omega) refers
  have counted := invariant.add_length_settled sound
  by_cases isGoal : (state.heap 1).node = goal
  · have taken : step terrain.hops goal state
        = (some (.found (state.cost (state.heap 1).node)),
          state.pop.settle (state.heap 1).node) := by
      simp only [step, if_neg empty, if_neg stale, if_pos isGoal]
    have reached : current = goalRef :=
      (sound.ref_eq_iff inside goalInside refers goalRefers).mpr isGoal
    rw [taken]
    refine ⟨marked, _, relaxations, recordedMark, ?_⟩
    simp only [Search.noteSettling, bind_ok (onFirst_eq_ok ranPop),
      bind_ok (Search.note_apply _ _ _), bind_ok (onFirst_eq_ok loaded),
      if_neg unvisited, bind_ok (onFirst_eq_ok stored), counted, liftM_ok_bind_apply,
      if_pos reached, pure_apply]
    rfl
  have taken : step terrain.hops goal state
      = (none, relaxHops (state.heap 1).node (state.cost (state.heap 1).node)
        (terrain.hops (state.heap 1).node)
        (state.pop.settle (state.heap 1).node)) := by
    simp only [step, if_neg empty, if_neg stale, if_neg isGoal]
  have other : ¬ current = goalRef :=
    mt (sound.ref_eq_iff inside goalInside refers goalRefers).mp isGoal
  have pendingArcs := pending_cons terrain.hops inside stale
  obtain ⟨improved, after, more, ranChain, recordedAfter⟩ :=
    recordedMark.relaxChain sound ⟨settling, ⟨_, rfl⟩, rfl⟩
      (length_pages_lt holds sound inside (by omega))
      (fun _ member => member) (holds _ inside) (fun _ member => member)
      (by simp only [State.size_settle, State.size_pop]; omega)
      (by simp only [State.size_settle, State.size_pop]; omega) refers
  rw [taken]
  refine ⟨after, more, relaxations + improved, recordedAfter, ?_⟩
  simp only [Search.noteSettling, bind_ok (onFirst_eq_ok ranPop),
    bind_ok (Search.note_apply _ _ _), bind_ok (onFirst_eq_ok loaded), if_neg unvisited,
    bind_ok (onFirst_eq_ok stored), counted, liftM_ok_bind_apply,
    if_neg other, settled_relaxHops]
  exact bind_ok ranChain

/-- The rest of a search comes to an end, and all its moments are taken down. -/
theorem Recorded.settle (sound : terrain.Sound) (holds : terrain.Holds memory)
    (goalInside : goal < terrain.count)
    (goalRefers : goalRef.address = terrain.nodeWord goal) {fuel relaxations : Nat}
    (recorded : Recorded terrain memory state workspace moments)
    (invariant : Invariant terrain.hops terrain.count start goal state)
    (enough : budget terrain.hops terrain.count state < fuel)
    (fits : budget terrain.hops terrain.count state ≤ terrain.capacity)
    (takes : budget terrain.hops terrain.count state ≤ terrain.limit) :
    ∃ report final after more,
      Search.noteSettling terrain.window goalRef fuel state.settled.length relaxations
        (workspace, moments)
        = .ok report (after, more) ∧
      Recorded terrain memory final after more := by
  induction fuel generalizing state workspace moments relaxations with
  | zero => omega
  | succ fuel ih =>
    obtain ⟨between, noted, total, recordedBetween, ran⟩ :=
      recorded.settle_step sound holds invariant fits takes goalInside goalRefers fuel
        relaxations
    have kept := invariant.step sound.inRange
    rcases taken : step terrain.hops goal state with ⟨_ | outcome, next⟩
    · rw [taken] at recordedBetween ran kept
      change Recorded terrain memory next between noted at recordedBetween
      have less := budget_step_lt invariant.node_lt taken
      obtain ⟨report, final, after, more, ranRest, recordedAfter⟩ :=
        ih recordedBetween kept (by omega) (by omega) (by omega)
      exact ⟨report, final, after, more, ran.trans ranRest, recordedAfter⟩
    · rw [taken] at recordedBetween ran
      exact ⟨_, next, between, noted, ran, recordedBetween⟩

/-- From unsearched records and an empty frontier, a search comes to an end, and all its
moments are taken down. -/
theorem State.ShownBy.noteRun
    (shown : (State.blank fun _ => ⟨0, start⟩).ShownBy terrain memory workspace)
    (sound : terrain.Sound) (holds : terrain.Holds memory)
    (startInside : start < terrain.count) (goalInside : goal < terrain.count)
    (startRefers : startRef.address = terrain.nodeWord start)
    (goalRefers : goalRef.address = terrain.nodeWord goal)
    (fits : 1 + pending terrain.hops terrain.count [] ≤ terrain.capacity)
    (takes : 1 + pending terrain.hops terrain.count [] ≤ terrain.limit) :
    ∃ report final after moments,
      Search.noteRun terrain.window startRef goalRef (workspace, [])
        = .ok report (after, moments) ∧
      Recorded terrain memory final after moments := by
  let labelled : State :=
    { State.blank fun _ => ⟨0, start⟩ with
      cost := Function.update (State.blank fun _ => ⟨0, start⟩).cost start 0 }
  have loaded := sound.load_node startInside startRefers workspace
  rw [shown.record_eq start startInside] at loaded
  have label :
      { (State.blank fun _ => ⟨0, start⟩).record terrain memory start with cost := 0 }
      = labelled.record terrain memory start := by
    simp [State.record, labelled]
  have stored := shown.store sound startInside labelled rfl rfl (by
    intro other different
    simp only [State.record, labelled, Function.update_of_ne different])
  have invariant : Invariant terrain.hops terrain.count start goal
      (initial start fun _ => ⟨0, start⟩) :=
    invariant_initial startInside _
  obtain ⟨opened, pushed, shownOpened⟩ :=
    stored.push sound (show labelled.size < terrain.capacity by
      simp only [labelled, State.blank]; omega)
      (show labelled.size ≠ terrain.limit by simp only [labelled, State.blank]; omega)
        ⟨0, start⟩ startRefers
  have noOrder : labelled.Ordered := fun index lower upper => by
    simp only [labelled, State.blank] at upper; omega
  have recordedLabel :=
    (noted_nil terrain memory labelled).note (.refl labelled) stored (Nat.zero_le _)
    (invariant.backed_labelled noOrder)
  have recordedOpened := recordedLabel.note (State.keptBy_push _ _) shownOpened
    (show 1 ≤ terrain.capacity by omega) (invariant.backed_of_afoot .pushed rfl)
  change Recorded terrain memory
    (initial start fun _ => ⟨0, start⟩) opened _ at recordedOpened
  have small := sound.capacity_lt
  have few : UInt32.size < Search.searchFuel := by decide
  obtain ⟨report, final, after, moments, ran, recorded⟩ :=
    Recorded.settle sound holds goalInside goalRefers recordedOpened invariant
      (show budget terrain.hops terrain.count (initial start _) < Search.searchFuel by
        rw [budget_initial]; omega)
      (by rw [budget_initial]; exact fits) (by rw [budget_initial]; exact takes)
  refine ⟨report, final, after, moments, ?_, recorded⟩
  rw [← label] at pushed ran
  simp only [Search.noteRun, bind_ok (onFirst_eq_ok loaded),
    bind_ok (onFirst_eq_ok (sound.store_node startInside startRefers _ _)),
    bind_ok (Search.note_apply _ _ _), bind_ok (onFirst_eq_ok pushed)]
  rw [startRefers]
  exact ran

end Dijkstra

/-! ## Moments of a graph -/

namespace Graph

open Dijkstra Multigraph
open Search (Change Moment)

variable {graph : Graph} {layout : Layout} {pages : Nat → List Nat}
  {content : Multigraph} {start goal : UInt32} {startNode goalNode : NodeRef}
  {state before after : State} {workspace : Workspace} {moment : Moment}

/-- The graph has a node with the given record. -/
def HasNode (graph : Graph) (node : NodeRef) (record : Node) : Prop :=
  (∃ id, find id graph = .ok (some node) graph) ∧
    nodeRecord node graph = .ok record graph

/-- The entries in the slots of the frontier. -/
def slots (graph : Graph) : List Slot :=
  graph.frontier.entries graph.arena.window graph.frontier.size graph.memory

/-- What records and entries have to do with each other after a change, with the entry
that is on its way counted among the others: a node that is reached and not marked has
an entry of exactly its cost, no entry is cheaper than the record of its node, and one
that was taken out for a node that is not marked has the cost in the record. -/
structure Accounts (graph : Graph) (change : Change Slot) : Prop where
  readable : graph.slots.length = graph.frontier.size
  offered : ∀ node record, graph.HasNode node record → record.isVisited = false →
    record.cost < unreached →
    ⟨record.cost, node.address⟩ ∈ change.afoot.toList ++ graph.slots
  covered : ∀ entry ∈ change.afoot.toList ++ graph.slots, ∃ node record,
    graph.HasNode node record ∧
    node.address = entry.node ∧ record.cost ≤ entry.cost
  popped_eq : ∀ entry, change = .popped entry →
    ∀ node record, graph.HasNode node record →
    node.address = entry.node → record.isVisited = false → entry.cost = record.cost

/-- With no entry on its way, a node that is reached and not marked has an entry of
exactly its cost in a slot. -/
theorem Accounts.mem_slots {change : Change Slot} (accounts : graph.Accounts change)
    (atRest : change.afoot = none) {node : NodeRef} {record : Node}
    (hasNode : graph.HasNode node record) (unmarked : record.isVisited = false)
    (reached : record.cost < unreached) :
    ⟨record.cost, node.address⟩ ∈ graph.slots := by
  have offered := accounts.offered node record hasNode unmarked reached
  rwa [atRest, Option.toList_none, List.nil_append] at offered

/-- Every node that is marked in one graph is so in another one, with the same cost and
the same parent. -/
def Retains (earlier later : Graph) : Prop :=
  ∀ node record, earlier.HasNode node record → record.isVisited = true →
    ∃ kept, later.HasNode node kept ∧
    kept.isVisited = true ∧ kept.cost = record.cost ∧ kept.parent = record.parent

namespace Stores

variable (stores : graph.Stores layout pages content)
include stores

theorem searched_amid
    (shown :
      state.ShownBy (graph.terrain layout pages content) graph.memory workspace) :
    graph.Searched layout pages content state (graph.amid workspace) := by
  have frontier_eq : workspace.frontier
      = ⟨graph.frontier.base, graph.frontier.capacity, state.size⟩ := by
    rw [shown.frontier_eq, stores.frontierBase_eq, stores.frontierCapacity_eq]
    rfl
  have amid_eq :
      graph.amid workspace = graph.withSearch workspace.memory state.size := by
    rw [amid, frontier_eq]
    rfl
  exact ⟨amid_eq.trans (by rw [amid_eq]; rfl), shown.same, shown.record_eq⟩

/-- The nodes of a graph at a moment have the records of the state that it shows. -/
theorem hasNode_amid_iff
    (shown : state.ShownBy (graph.terrain layout pages content) graph.memory workspace)
    (node : NodeRef) (record : Node) :
    (graph.amid workspace).HasNode node record ↔ ∃ slot, slot < content.ids.length ∧
      node = graph.nodeOf layout slot ∧
      record = state.record (graph.terrain layout pages content) graph.memory slot := by
  have searched := stores.searched_amid shown
  have storesAmid := searched.stores stores
  have recorded : ∀ slot, slot < content.ids.length →
      nodeRecord (graph.nodeOf layout slot) (graph.amid workspace)
      = .ok (state.record (graph.terrain layout pages content) graph.memory slot)
        (graph.amid workspace) := by
    intro slot inside
    rw [← searched.record_eq slot inside]
    exact storesAmid.nodeRecord_nodeOf inside
  constructor
  · rintro ⟨⟨id, found⟩, ran⟩
    obtain ⟨present, rfl, _⟩ := storesAmid.of_find_eq_some found
    have inside := slot_lt_iff.mpr present
    refine ⟨content.slot id, inside, rfl, ?_⟩
    rw [show nodeRecord ((graph.amid workspace).nodeOf layout (content.slot id))
      (graph.amid workspace) = _ from
      recorded _ inside] at ran
    cases ran
    rfl
  · rintro ⟨slot, inside, rfl, rfl⟩
    obtain ⟨id, present, rfl⟩ := content.exists_id inside
    exact ⟨⟨id, storesAmid.find_of_mem present⟩, recorded _ inside⟩

/-- The slots of the frontier at a moment hold the offers of the state that it shows. -/
theorem slots_amid
    (shown : state.ShownBy (graph.terrain layout pages content) graph.memory workspace)
    (fits : state.size ≤ graph.config.frontierCapacity) :
    (graph.amid workspace).slots = (List.range' 1 state.size).map fun index =>
      (state.heap index).slot (graph.terrain layout pages content) := by
  have size_eq : workspace.frontier.size = state.size := by rw [shown.frontier_eq]
  have entries_eq : (graph.amid workspace).slots
      = (List.range' 1 workspace.frontier.size).map
        (Frontier.tape layout.frontier workspace.memory) :=
    (shown.placed stores.terrain_sound).entries_eq (by rw [size_eq]; exact fits)
  rw [entries_eq, size_eq]
  apply List.map_congr_left
  intro index member
  rw [List.mem_range'_1] at member
  exact shown.slots index member.1 (by omega)

/-- The entries at a moment, with the one on its way, are the offers in play. -/
theorem mem_entries_amid_iff
    (shown : state.ShownBy (graph.terrain layout pages content) graph.memory workspace)
    (fits : state.size ≤ graph.config.frontierCapacity) (change : Change Offer)
    (entry : Slot) :
    entry ∈ (change.map (Offer.slot (graph.terrain layout pages content))).afoot.toList
        ++ (graph.amid workspace).slots ↔
      ∃ offer, InPlay change state offer ∧
        offer.slot (graph.terrain layout pages content) = entry := by
  have inSlots : entry ∈ (graph.amid workspace).slots ↔
      ∃ offer ∈ state.offers,
        offer.slot (graph.terrain layout pages content) = entry := by
    rw [stores.slots_amid shown fits, List.mem_map]
    constructor
    · rintro ⟨index, member, rfl⟩
      rw [List.mem_range'_1] at member
      exact ⟨_, Heap.mem_entries.mpr ⟨index, member.1, by omega, rfl⟩, rfl⟩
    · rintro ⟨offer, member, rfl⟩
      obtain ⟨index, lower, upper, rfl⟩ := Heap.mem_entries.mp member
      exact ⟨index, List.mem_range'_1.mpr ⟨lower, by omega⟩, rfl⟩
  rw [List.mem_append, inSlots, Change.afoot_map, Option.mem_toList,
    Option.map_eq_some_iff]
  simp only [InPlay, or_and_right, exists_or]

/-- A moment that shows labels and offers in order shows records and entries in
order. -/
theorem accounts_amid
    (seen : state.SeenAt (graph.terrain layout pages content) graph.memory moment) :
    (graph.amid moment.workspace).Accounts moment.change := by
  obtain ⟨shown, fits, change, change_eq, backed⟩ := seen
  have address_eq : ∀ slot, slot < content.ids.length →
      (graph.nodeOf layout slot).address
      = (graph.terrain layout pages content).nodeWord slot :=
    fun slot inside => stores.address_nodeOf (stores.slot_lt_bound inside)
  have isOpen_of : ∀ slot, (state.record
        (graph.terrain layout pages content) graph.memory slot).isVisited = false →
      slot ∉ state.settled := by
    intro slot unmarked isSettled
    rw [State.ShownBy.isVisited_record.mpr isSettled] at unmarked
    cases unmarked
  rw [change_eq]
  constructor
  case readable =>
    have size_eq : moment.workspace.frontier.size = state.size := by
      rw [shown.frontier_eq]
    rw [stores.slots_amid shown fits, List.length_map, List.length_range']
    exact size_eq.symm
  case offered =>
    intro node record hasNode unmarked reached
    obtain ⟨slot, inside, rfl, rfl⟩ :=
      (stores.hasNode_amid_iff shown node record).mp hasNode
    have live := backed.live slot (isOpen_of slot unmarked) (UInt32.ne_of_lt reached)
    refine (stores.mem_entries_amid_iff shown fits change _).mpr ⟨_, live, ?_⟩
    rw [address_eq slot inside]
    rfl
  case covered =>
    intro entry member
    obtain ⟨offer, inPlay, rfl⟩ :=
      (stores.mem_entries_amid_iff shown fits change entry).mp member
    have inside := backed.node_lt offer inPlay
    exact ⟨_, _, (stores.hasNode_amid_iff shown _ _).mpr ⟨offer.node, inside, rfl, rfl⟩,
      address_eq offer.node inside, backed.cost_le offer inPlay⟩
  case popped_eq =>
    intro entry isPopped node record hasNode refers unmarked
    obtain ⟨offer, rfl, rfl⟩ : ∃ offer, change = .popped offer ∧
        offer.slot (graph.terrain layout pages content) = entry := by
      cases change with
      | popped offer => exact ⟨offer, rfl, Change.popped.inj isPopped⟩
      | labelled offer => cases isPopped
      | pushed => cases isPopped
      | marked => cases isPopped
    obtain ⟨slot, inside, rfl, rfl⟩ :=
      (stores.hasNode_amid_iff shown node record).mp hasNode
    have same : slot = offer.node := by
      rw [address_eq slot inside] at refers
      exact (stores.terrain_sound.nodeWord_inj inside
          (backed.node_lt offer (.inl rfl))).mp refers
    subst same
    exact (backed.popped_eq offer rfl (isOpen_of _ unmarked)).symm

/-- What is settled is kept in the records. -/
theorem retains_amid {earlier later : Workspace}
    (shownBefore : before.ShownBy (graph.terrain layout pages content) graph.memory
      earlier)
    (shownAfter : after.ShownBy (graph.terrain layout pages content) graph.memory later)
    (kept : before.KeptBy after) : (graph.amid earlier).Retains (graph.amid later) := by
  intro node record hasNode isMarked
  obtain ⟨slot, inside, rfl, rfl⟩ :=
    (stores.hasNode_amid_iff shownBefore node record).mp hasNode
  obtain ⟨isSettled, cost_eq, parent_eq⟩ :=
    kept slot (State.ShownBy.isVisited_record.mp isMarked)
  exact ⟨_, (stores.hasNode_amid_iff shownAfter _ _).mpr ⟨slot, inside, rfl, rfl⟩,
    State.ShownBy.isVisited_record.mpr isSettled, cost_eq,
    congrArg (Terrain.parentWord _) parent_eq⟩

/-- From unsearched records and an empty frontier, a search on a graph comes to an end,
and all its moments are taken down. -/
theorem exists_noteSearch (hasStart : start ∈ content.ids)
    (hasGoal : goal ∈ content.ids)
    (unsearched : Unsearched (graph.terrain layout pages content) graph.memory)
    (empty : graph.frontier.size = 0) :
    ∃ report final workspace moments,
      noteSearch (graph.nodeOf layout (content.slot start))
        (graph.nodeOf layout (content.slot goal)) (graph, [])
        = .ok report (graph.amid workspace, moments) ∧
      Recorded (graph.terrain layout pages content) graph.memory final workspace
        moments := by
  have room := stores.room
  rw [← content.pending_hops] at room
  have address_eq : ∀ id ∈ content.ids, (graph.nodeOf layout (content.slot id)).address
      = (graph.terrain layout pages content).nodeWord (content.slot id) :=
    fun id present => stores.address_nodeOf (stores.slot_lt_of_mem present)
  have frontier_eq : (⟨graph.arena.window.address layout.frontier,
      graph.config.frontierCapacity, 0⟩ : Frontier)
      = graph.frontier := by
    rw [← stores.frontierBase_eq, ← stores.frontierCapacity_eq, ← empty]
  have shown := Dijkstra.shownBy_blank unsearched fun _ => ⟨0, content.slot start⟩
  obtain ⟨report, final, workspace, moments, ran, recorded⟩ :=
    shown.noteRun stores.terrain_sound stores.terrain_holds (slot_lt_iff.mpr hasStart)
      (slot_lt_iff.mpr hasGoal)
      (address_eq start hasStart) (address_eq goal hasGoal) room room
  have opened :
      Search.noteRun graph.arena.window (graph.nodeOf layout (content.slot start))
      (graph.nodeOf layout (content.slot goal))
        (⟨graph.frontier, graph.arena.memory⟩, [])
      = .ok report (workspace, moments) := by
    rw [← frontier_eq]
    exact ran
  refine ⟨report, final, workspace, moments, ?_, recorded⟩
  simp only [noteSearch, get_bind_apply, focus, opened]

end Stores

/-- After a reset, a search between two nodes of a graph that a program can hold
succeeds, whatever was left in the bytes of searches, the only ones that `Built` lets
accelerators write before, and the same search with its moments taken down gives the
same. At every moment records and entries belong together: an entry that comes out for a
node that is not marked has the cost in the record. While no entry is on its way, every
node that is reached and not marked has one of its cost in the slots. From every moment
on, what is marked keeps its cost and its parent. The last moment is what the search
leaves. -/
theorem stale_entries_decide_nothing {links : List Link} (built : Built graph links)
    (foundStart : find start graph = .ok (some startNode) graph)
    (foundGoal : find goal graph = .ok (some goalNode) graph) :
    ∃ cleared report searched moments,
      resetSearch graph = .ok () cleared ∧
      search startNode goalNode cleared = .ok report searched ∧
      noteSearch startNode goalNode (cleared, []) = .ok report (searched, moments) ∧
      (moments.getLast?.map fun moment => cleared.amid moment.workspace)
        = some searched ∧
      (∀ moment ∈ moments, (cleared.amid moment.workspace).Accounts moment.change) ∧
      (∀ moment ∈ moments, moment.change.afoot = none → ∀ node record,
        (cleared.amid moment.workspace).HasNode node record → record.isVisited = false →
        record.cost < unreached →
        ⟨record.cost, node.address⟩ ∈ (cleared.amid moment.workspace).slots) ∧
      moments.Pairwise fun earlier later =>
        (cleared.amid earlier.workspace).Retains (cleared.amid later.workspace) := by
  obtain ⟨layout, pages, content, stores, rfl⟩ := built.stores
  obtain ⟨hasStart, rfl, _⟩ := stores.of_find_eq_some foundStart
  obtain ⟨hasGoal, rfl, _⟩ := stores.of_find_eq_some foundGoal
  obtain ⟨memory, reset, same, unsearched, firstPages⟩ := stores.resetSearch_eq
  have storesCleared := stores.searched same firstPages 0
  obtain ⟨report, final, workspace, moments, noted, recorded⟩ :=
    storesCleared.exists_noteSearch hasStart hasGoal unsearched rfl
  have accounts : ∀ moment ∈ moments,
      ((graph.withSearch memory 0).amid moment.workspace).Accounts moment.change := by
    intro moment member
    obtain ⟨past, seen, _⟩ := recorded.seen moment member
    exact storesCleared.accounts_amid seen
  refine ⟨_, report, _, moments, reset, (noteSearch_follows _ _).eq_ok noted, noted, ?_,
    accounts, fun moment member atRest _ _ => (accounts moment member).mem_slots atRest,
    ?_⟩
  · have latest :=
      congrArg (Option.map (graph.withSearch memory 0).amid) recorded.latest
    rw [Option.map_map] at latest
    exact latest
  · refine recorded.kept.imp ?_
    rintro earlier later ⟨before, after, shownBefore, shownAfter, kept⟩
    exact storesCleared.retains_amid shownBefore shownAfter kept

/-- A node is offered twice, and the dearer entry comes out last, when the node has long
been marked. -/
theorem stale_entries_decide_nothing_at_second_offer :
    ∃ graph startNode goalNode,
      Built graph [⟨1, 2, 10⟩, ⟨1, 3, 1⟩, ⟨3, 2, 2⟩, ⟨4, 1, 0⟩] ∧
      find 1 graph = .ok (some startNode) graph ∧
      find 4 graph = .ok (some goalNode) graph ∧
      ∃ cleared report searched moments,
        resetSearch graph = .ok () cleared ∧
        search startNode goalNode cleared = .ok report searched ∧
        noteSearch startNode goalNode (cleared, []) = .ok report (searched, moments) ∧
        (moments.getLast?.map fun moment => cleared.amid moment.workspace)
          = some searched ∧
        (∀ moment ∈ moments, (cleared.amid moment.workspace).Accounts moment.change) ∧
        (moments.Pairwise fun earlier later =>
          (cleared.amid earlier.workspace).Retains (cleared.amid later.workspace)) ∧
        (moments.drop 12).map Moment.change
            = [.popped ⟨3, 0x10000050⟩, .marked, .popped ⟨10, 0x10000050⟩] := by
  obtain ⟨graph, built, isStart, isGoal, changes⟩ :
      ∃ graph, Built graph [⟨1, 2, 10⟩, ⟨1, 3, 1⟩, ⟨3, 2, 2⟩, ⟨4, 1, 0⟩] ∧
        (find 1).result graph = .ok (some (.ofWord 0x10000040)) ∧
        (find 4).result graph = .ok (some (.ofWord 0x10000070)) ∧
        ((((noteSearch (.ofWord 0x10000040) (.ofWord 0x10000070)).outcome
          ((resetSearch.outcome graph).2, [])).2.2.drop
          12).map Moment.change)
            = [.popped ⟨3, 0x10000050⟩, .marked, .popped ⟨10, 0x10000050⟩] :=
    exists_built ⟨.heap, 0x10000000, 65536, .zeros⟩ 64 ⟨4, 4, .dense 9⟩
      [.addEdge ⟨1, 2, 10⟩, .addEdge ⟨1, 3, 1⟩, .addEdge ⟨3, 2, 2⟩,
        .addEdge ⟨4, 1, 0⟩] (by decide +kernel)
  obtain ⟨⟨startNode, foundStart⟩, _⟩ :=
    built.has_ends (show (⟨1, 2, 10⟩ : Link) ∈ _ by decide)
  obtain ⟨⟨goalNode, foundGoal⟩, _⟩ :=
    built.has_ends (show (⟨4, 1, 0⟩ : Link) ∈ _ by decide)
  rw [result_of_ok foundStart] at isStart
  rw [result_of_ok foundGoal] at isGoal
  cases isStart
  cases isGoal
  obtain ⟨cleared, report, searched, moments, reset, ran, noted, last, accounts, _,
      retains⟩ :=
    stale_entries_decide_nothing built foundStart foundGoal
  rw [outcome_of_ok reset, outcome_of_ok noted] at changes
  exact ⟨graph, _, _, built, foundStart, foundGoal, cleared, report, searched, moments,
    reset, ran, noted, last, accounts, retains, changes⟩

end Graph

end ArenaPaths
