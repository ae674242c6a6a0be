import ArenaPaths.Proofs.Dijkstra.Machine

/-!
# What a search keeps

The labels and the frontier of a search belong together at every moment: a node that is
reached and not settled has an offer of exactly its cost, no offer undercuts the label
of its node, and a label is the total of a walk whose last arc comes from a settled
node. Settling and relaxing keep this, and once all arcs of the settled nodes are
relaxed, the cheapest offer is the least total of any walk to its node.
-/

namespace ArenaPaths.Dijkstra

variable {hops : Nat → List Hop} {count start goal current : Nat} {state after : State}

/-- Walks along arcs by slots. -/
abbrev HopWalk (hops : Nat → List Hop) (start : Nat) : Nat → Nat → Prop :=
  Walk (fun node next cost => (⟨next, cost⟩ : Hop) ∈ hops node) start

/-- The arcs of all nodes lead to nodes. -/
def InRange (hops : Nat → List Hop) (count : Nat) : Prop :=
  ∀ node, node < count → ∀ hop ∈ hops node, hop.target < count

/-- In a list of nodes, the newest first, the parent of each is an older one. -/
def Rooted (parent : Nat → Option Nat) : List Nat → Prop
  | [] => True
  | node :: older =>
    (∀ previous, parent node = some previous → previous ∈ older) ∧ Rooted parent older

theorem Rooted.congr {parent other : Nat → Option Nat} {nodes : List Nat}
    (rooted : Rooted parent nodes) (agree : ∀ node ∈ nodes, other node = parent node) :
    Rooted other nodes := by
  induction nodes with
  | nil => exact True.intro
  | cons node older ih =>
    obtain ⟨newest, rest⟩ := rooted
    refine ⟨?_, ih rest fun other member => agree other (List.mem_cons_of_mem _ member)⟩
    intro previous isParent
    rw [agree node List.mem_cons_self] at isParent
    exact newest previous isParent

/-- Labels, settled nodes and offers belong together. -/
structure Consistent (hops : Nat → List Hop) (count start : Nat)
    (state : State) : Prop where
  ordered : state.Ordered
  node_lt : ∀ offer ∈ state.offers, offer.node < count
  cost_le_offer :
    ∀ offer ∈ state.offers, (state.cost offer.node).toNat ≤ offer.cost.toNat
  offer_reached : ∀ offer ∈ state.offers, offer.cost ≠ unreached
  live : ∀ node, node ∉ state.settled → state.cost node ≠ unreached →
    ⟨state.cost node, node⟩ ∈ state.offers
  settled_le_offer : ∀ node ∈ state.settled, ∀ offer ∈ state.offers,
    (state.cost node).toNat ≤ offer.cost.toNat
  settled_lt : ∀ node ∈ state.settled, node < count
  settled_nodup : state.settled.Nodup
  settled_reached : ∀ node ∈ state.settled, state.cost node ≠ unreached
  sorted : state.settled.Pairwise fun newer older => (state.cost older).toNat
    ≤ (state.cost newer).toNat
  least : ∀ node ∈ state.settled, ∀ total, HopWalk hops start node total →
    (state.cost node).toNat ≤ total
  rooted : Rooted state.parent state.settled
  start_cost : state.cost start = 0
  start_parent : state.parent start = none
  walk : ∀ node, state.cost node ≠ unreached →
    HopWalk hops start node (state.cost node).toNat
  parent_eq_none : ∀ node, state.cost node = unreached → state.parent node = none
  parent_arc : ∀ node previous, state.parent node = some previous →
    previous ∈ state.settled ∧
    ∃ cost, ⟨node, cost⟩ ∈ hops previous ∧
      (state.cost node).toNat = (state.cost previous).toNat + cost.toNat
  exists_parent : ∀ node, state.cost node ≠ unreached → node ≠ start →
    ∃ previous, state.parent node = some previous

/-- The arcs of a node have been relaxed: none of them offers its target for less than
the target's label. -/
def Relaxed (state : State) (node : Nat) (arcs : List Hop) : Prop :=
  ∀ hop ∈ arcs, (state.cost node).toNat + hop.cost.toNat < unreached.toNat →
    (state.cost hop.target).toNat ≤ (state.cost node).toNat + hop.cost.toNat

/-- A state between two steps of a search that has not come to its goal. -/
structure Invariant (hops : Nat → List Hop) (count start goal : Nat)
    (state : State) : Prop
    extends Consistent hops count start state where
  relaxed : ∀ node ∈ state.settled, Relaxed state node (hops node)
  goal_open : goal ∉ state.settled

/-- Later labels are no dearer, and those of settled nodes stay. -/
structure Improves (before after : State) : Prop where
  settled_eq : after.settled = before.settled
  cost_le : ∀ node, (after.cost node).toNat ≤ (before.cost node).toNat
  cost_eq : ∀ node ∈ before.settled, after.cost node = before.cost node

theorem Improves.refl (state : State) : Improves state state :=
  ⟨rfl, fun _ => Nat.le_refl _, fun _ _ => rfl⟩

theorem Improves.trans {before between after : State} (first : Improves before between)
    (second : Improves between after) : Improves before after where
  settled_eq := second.settled_eq.trans first.settled_eq
  cost_le node := Nat.le_trans (second.cost_le node) (first.cost_le node)
  cost_eq node member := by
    rw [second.cost_eq node (first.settled_eq ▸ member), first.cost_eq node member]

/-- Lowering the label of a node that is not settled is an improvement. -/
theorem improves_improve {target : Nat} {cost : UInt32}
    (isOpen : target ∉ state.settled) (lower : cost.toNat ≤ (state.cost target).toNat) :
    Improves state (state.improve current target cost) := by
  refine ⟨rfl, ?_, ?_⟩
  · intro node
    by_cases same : node = target
    · rw [same, State.cost_improve_self]
      exact lower
    · rw [State.cost_improve_of_ne same]
  · intro node settled
    exact State.cost_improve_of_ne (ne_of_mem_of_not_mem settled isOpen)

theorem Relaxed.improve {before after : State} {node : Nat} {arcs : List Hop}
    (relaxed : Relaxed before node arcs) (improves : Improves before after)
    (settled : node ∈ before.settled) : Relaxed after node arcs := by
  intro hop member small
  rw [improves.cost_eq node settled] at small ⊢
  exact Nat.le_trans (improves.cost_le hop.target) (relaxed hop member small)

/-- No more nodes are settled than there are. -/
theorem Consistent.length_settled_le (consistent : Consistent hops count start state) :
    state.settled.length ≤ count := by
  have inside : state.settled ⊆ List.range count := fun node settled =>
    List.mem_range.mpr (consistent.settled_lt node settled)
  have shorter := (consistent.settled_nodup.subperm inside).length_le
  rwa [List.length_range] at shorter

/-! ## The state before the first step -/

theorem consistent_initial (inside : start < count) (heap : Nat → Offer) :
    Consistent hops count start (initial start heap) := by
  have empty : Heap.Ordered Offer.key 0 heap := fun index lower upper => by omega
  have offers : (initial start heap).offers = {⟨0, start⟩} :=
    (Heap.push_spec empty ⟨0, start⟩).2
  have startCost : (initial start heap).cost start = 0 := by simp [initial]
  have otherCost : ∀ node, node ≠ start →
      (initial start heap).cost node = unreached := by
    intro node different
    simp [initial, State.blank, different]
  have reached : ∀ node, (initial start heap).cost node ≠ unreached → node = start := by
    intro node isReached
    by_contra different
    exact isReached (otherCost node different)
  have zeroReached : (0 : UInt32) ≠ unreached := by decide
  constructor
  case ordered => exact (Heap.push_spec empty ⟨0, start⟩).1
  case node_lt =>
    intro offer member
    rw [offers, Multiset.mem_singleton] at member
    rw [member]
    exact inside
  case cost_le_offer =>
    intro offer member
    rw [offers, Multiset.mem_singleton] at member
    rw [member, startCost]
  case offer_reached =>
    intro offer member
    rw [offers, Multiset.mem_singleton] at member
    rw [member]
    exact zeroReached
  case live =>
    intro node _ isReached
    rw [reached node isReached, startCost, offers, Multiset.mem_singleton]
  case settled_le_offer | settled_lt | settled_reached | least =>
    intro node member
    exact absurd member (List.not_mem_nil)
  case settled_nodup => exact List.nodup_nil
  case sorted => exact List.Pairwise.nil
  case rooted => exact True.intro
  case start_cost => exact startCost
  case start_parent => rfl
  case walk =>
    intro node isReached
    rw [reached node isReached, startCost]
    exact .nil
  case parent_eq_none => exact fun _ _ => rfl
  case parent_arc =>
    exact fun _ _ isParent => absurd isParent (by simp [initial, State.blank])
  case exists_parent =>
    exact fun node isReached different => absurd (reached node isReached) different

/-- A search starts from a state that has the invariant. -/
theorem invariant_initial (inside : start < count) (heap : Nat → Offer) :
    Invariant hops count start goal (initial start heap) where
  toConsistent := consistent_initial inside heap
  relaxed _ member := absurd member (List.not_mem_nil)
  goal_open := List.not_mem_nil

/-! ## Taking out an offer -/

/-- Every walk that is not too long ends at a settled node that has no dearer label, or
passes a node that is reached for no more and not settled. -/
theorem Invariant.settled_or_open (invariant : Invariant hops count start goal state)
    {node total : Nat} (walk : HopWalk hops start node total)
    (small : total < unreached.toNat) :
    (node ∈ state.settled ∧ (state.cost node).toNat ≤ total) ∨
      ∃ other, other ∉ state.settled ∧ (state.cost other).toNat ≤ total := by
  induction walk with
  | nil =>
    have cost : (state.cost start).toNat = 0 := by rw [invariant.start_cost]; rfl
    by_cases settled : start ∈ state.settled
    · exact .inl ⟨settled, Nat.le_of_eq cost⟩
    · exact .inr ⟨start, settled, Nat.le_of_eq cost⟩
  | @snoc node next total cost _ arc ih =>
    rcases ih (by omega) with ⟨settled, bound⟩ | ⟨other, isOpen, bound⟩
    · have relaxed := invariant.relaxed node settled _ arc (by simp only; omega)
      simp only at relaxed
      by_cases nextSettled : next ∈ state.settled
      · exact .inl ⟨nextSettled, by omega⟩
      · exact .inr ⟨next, nextSettled, by omega⟩
    · exact .inr ⟨other, isOpen, by omega⟩

theorem heap_one_mem_offers (positive : 0 < state.size) : state.heap 1 ∈ state.offers :=
  Heap.mem_entries.mpr ⟨1, Nat.le_refl 1, positive, rfl⟩

/-- The cheapest offer, if it is not stale, is the label of its node. -/
theorem Consistent.cost_eq_of_pop (consistent : Consistent hops count start state)
    (positive : 0 < state.size) (fresh : (state.heap 1).node ∉ state.settled) :
    state.cost (state.heap 1).node = (state.heap 1).cost := by
  have lower := consistent.cost_le_offer _ (heap_one_mem_offers positive)
  have reached := consistent.offer_reached _ (heap_one_mem_offers positive)
  rw [ne_unreached_iff] at reached
  have offered := consistent.live _ fresh (ne_unreached_iff.mpr (by omega))
  have upper := consistent.ordered.cheapest offered
  exact UInt32.toNat_inj.mp (Nat.le_antisymm lower upper)

/-- The cheapest offer, if it is not stale, is the least total of a walk to its node. -/
theorem Invariant.least_of_pop (invariant : Invariant hops count start goal state)
    (positive : 0 < state.size) (fresh : (state.heap 1).node ∉ state.settled)
    (total : Nat) (walk : HopWalk hops start (state.heap 1).node total) :
    (state.cost (state.heap 1).node).toNat ≤ total := by
  have label := invariant.cost_eq_of_pop positive fresh
  by_cases small : total < unreached.toNat
  · rcases invariant.settled_or_open walk small with
      ⟨settled, _⟩ | ⟨other, isOpen, bound⟩
    · exact absurd settled fresh
    · have offered := invariant.live other isOpen (ne_unreached_iff.mpr (by omega))
      have cheapest := invariant.ordered.cheapest offered
      rw [label]
      exact Nat.le_trans cheapest bound
  · have limit := toNat_le_unreached (state.cost (state.heap 1).node)
    omega

/-- An offer that is left after taking one out was there before. -/
theorem Consistent.mem_of_mem_pop (consistent : Consistent hops count start state)
    (positive : 0 < state.size) {offer : Offer} (member : offer ∈ state.pop.offers) :
    offer ∈ state.offers := by
  rw [consistent.ordered.offers_eq_cons positive]
  exact Multiset.mem_cons_of_mem member

/-- An offer for another node is still there after taking one out. -/
theorem Consistent.mem_pop_of_mem (consistent : Consistent hops count start state)
    (positive : 0 < state.size) {offer : Offer} (member : offer ∈ state.offers)
    (different : offer.node ≠ (state.heap 1).node) :
    offer ∈ state.pop.offers := by
  rw [consistent.ordered.offers_eq_cons positive, Multiset.mem_cons] at member
  rcases member with taken | left
  · exact absurd (congrArg Offer.node taken) different
  · exact left

/-- A stale offer can be dropped. -/
theorem Consistent.pop_stale (consistent : Consistent hops count start state)
    (positive : 0 < state.size) (stale : (state.heap 1).node ∈ state.settled) :
    Consistent hops count start state.pop := by
  have before : ∀ offer ∈ state.pop.offers, offer ∈ state.offers :=
    fun offer member => consistent.mem_of_mem_pop positive member
  exact
    { consistent with
      ordered := consistent.ordered.pop positive
      node_lt := fun offer member => consistent.node_lt offer (before offer member)
      cost_le_offer := fun offer member =>
        consistent.cost_le_offer offer (before offer member)
      offer_reached := fun offer member =>
        consistent.offer_reached offer (before offer member)
      live := by
        intro node isOpen reached
        apply consistent.mem_pop_of_mem positive (consistent.live node isOpen reached)
        rintro rfl
        exact isOpen stale
      settled_le_offer := fun node settled offer member =>
        consistent.settled_le_offer node settled offer (before offer member) }

/-- A node whose offer is the cheapest one can be settled. -/
theorem Invariant.pop_settle (invariant : Invariant hops count start goal state)
    (positive : 0 < state.size) (fresh : (state.heap 1).node ∉ state.settled) :
    Consistent hops count start (state.pop.settle (state.heap 1).node) := by
  have label := invariant.cost_eq_of_pop positive fresh
  have top := heap_one_mem_offers positive
  have before : ∀ offer ∈ state.pop.offers, offer ∈ state.offers :=
    fun offer member => invariant.mem_of_mem_pop positive member
  constructor
  case ordered => exact invariant.ordered.pop positive
  case node_lt =>
    exact fun offer member => invariant.node_lt offer (before offer member)
  case cost_le_offer =>
    exact fun offer member => invariant.cost_le_offer offer (before offer member)
  case offer_reached =>
    exact fun offer member => invariant.offer_reached offer (before offer member)
  case live =>
    intro node isOpen reached
    simp only [State.settled_settle, State.settled_pop, List.mem_cons, not_or] at isOpen
    exact invariant.mem_pop_of_mem positive
      (invariant.live node isOpen.2 reached) isOpen.1
  case settled_le_offer =>
    intro node settled offer member
    simp only [State.settled_settle, State.settled_pop, List.mem_cons] at settled
    rcases settled with rfl | older
    · change (state.cost (state.heap 1).node).toNat ≤ offer.cost.toNat
      rw [label]
      exact invariant.ordered.cheapest (before offer member)
    · exact invariant.settled_le_offer node older offer (before offer member)
  case settled_lt =>
    intro node settled
    simp only [State.settled_settle, State.settled_pop, List.mem_cons] at settled
    rcases settled with rfl | older
    · exact invariant.node_lt _ top
    · exact invariant.settled_lt node older
  case settled_nodup => exact List.nodup_cons.mpr ⟨fresh, invariant.settled_nodup⟩
  case settled_reached =>
    intro node settled
    simp only [State.settled_settle, State.settled_pop, List.mem_cons] at settled
    rcases settled with rfl | older
    · change state.cost (state.heap 1).node ≠ unreached
      rw [label]
      exact invariant.offer_reached _ top
    · exact invariant.settled_reached node older
  case sorted =>
    refine List.pairwise_cons.mpr ⟨?_, invariant.sorted⟩
    intro older member
    change (state.cost older).toNat ≤ (state.cost (state.heap 1).node).toNat
    rw [label]
    exact invariant.settled_le_offer older member _ top
  case least =>
    intro node settled total walk
    simp only [State.settled_settle, State.settled_pop, List.mem_cons] at settled
    rcases settled with rfl | older
    · exact invariant.least_of_pop positive fresh total walk
    · exact invariant.least node older total walk
  case rooted =>
    exact ⟨fun previous isParent => (invariant.parent_arc _ previous isParent).1,
      invariant.rooted⟩
  case start_cost => exact invariant.start_cost
  case start_parent => exact invariant.start_parent
  case walk => exact invariant.walk
  case parent_eq_none => exact invariant.parent_eq_none
  case parent_arc =>
    intro node previous isParent
    obtain ⟨settled, arc⟩ := invariant.parent_arc node previous isParent
    exact ⟨List.mem_cons_of_mem _ settled, arc⟩
  case exists_parent => exact invariant.exists_parent

/-! ## Relaxing -/

/-- No settled node is dearer than the one settled last. -/
theorem Consistent.cost_le_newest (consistent : Consistent hops count start state)
    {older : List Nat} (newest : state.settled = current :: older) {node : Nat}
    (settled : node ∈ state.settled) :
    (state.cost node).toNat ≤ (state.cost current).toNat := by
  have sorted := consistent.sorted
  rw [newest] at sorted settled
  rcases List.mem_cons.mp settled with rfl | member
  · exact Nat.le_refl _
  · exact (List.pairwise_cons.mp sorted).1 node member

/-- An arc of the node settled last betters no label of a settled node. -/
theorem Consistent.not_settled_of_better
    (consistent : Consistent hops count start state) {older : List Nat}
    (newest : state.settled = current :: older) {hop : Hop}
    (better : (Search.addCost (state.cost current) hop.cost).toNat
      < (state.cost hop.target).toNat) :
    hop.target ∉ state.settled := by
  intro settled
  have bound := consistent.cost_le_newest newest settled
  have saturated := toNat_addCost (state.cost current) hop.cost
  have limit := toNat_le_unreached (state.cost hop.target)
  omega

/-- Lowering the label of a node that is not settled, for an arc of the node settled
last, keeps labels and offers together. -/
theorem Consistent.improve (consistent : Consistent hops count start state)
    (inRange : InRange hops count) {older : List Nat}
    (newest : state.settled = current :: older) {hop : Hop} (arc : hop ∈ hops current)
    (better : (Search.addCost (state.cost current) hop.cost).toNat
      < (state.cost hop.target).toNat) :
    Consistent hops count start
      (state.improve current hop.target
        (Search.addCost (state.cost current) hop.cost)) := by
  have sum : (Search.addCost (state.cost current) hop.cost).toNat
      = (state.cost current).toNat + hop.cost.toNat := by
    have saturated := toNat_addCost (state.cost current) hop.cost
    have limit := toNat_le_unreached (state.cost hop.target)
    omega
  have reachedBy : Search.addCost (state.cost current) hop.cost ≠ unreached := by
    have limit := toNat_le_unreached (state.cost hop.target)
    exact ne_unreached_iff.mpr (by omega)
  have currentSettled : current ∈ state.settled := by
    rw [newest]; exact List.mem_cons_self
  have isOpen := consistent.not_settled_of_better newest better
  have notStart : start ≠ hop.target := by
    intro same
    rw [← same, consistent.start_cost] at better
    exact absurd better (by simp)
  generalize Search.addCost (state.cost current) hop.cost
    = candidate at better sum reachedBy ⊢
  have improves : Improves state (state.improve current hop.target candidate) :=
    improves_improve isOpen (Nat.le_of_lt better)
  have offers := consistent.ordered.offers_improve current hop.target candidate
  constructor
  case ordered => exact consistent.ordered.improve current hop.target candidate
  case node_lt =>
    intro offer member
    rw [offers, Multiset.mem_cons] at member
    rcases member with rfl | old
    · exact inRange current (consistent.settled_lt current currentSettled) hop arc
    · exact consistent.node_lt offer old
  case cost_le_offer =>
    intro offer member
    rw [offers, Multiset.mem_cons] at member
    rcases member with rfl | old
    · rw [State.cost_improve_self]
    · exact Nat.le_trans (improves.cost_le offer.node)
        (consistent.cost_le_offer offer old)
  case offer_reached =>
    intro offer member
    rw [offers, Multiset.mem_cons] at member
    rcases member with rfl | old
    · exact reachedBy
    · exact consistent.offer_reached offer old
  case live =>
    intro node nodeOpen reached
    rw [offers, Multiset.mem_cons]
    by_cases same : node = hop.target
    · subst same
      rw [State.cost_improve_self]
      exact .inl rfl
    · rw [State.cost_improve_of_ne same] at reached ⊢
      exact .inr (consistent.live node nodeOpen reached)
  case settled_le_offer =>
    intro node settled offer member
    rw [improves.cost_eq node settled]
    rw [offers, Multiset.mem_cons] at member
    rcases member with rfl | old
    · have bound := consistent.cost_le_newest newest settled
      simp only
      omega
    · exact consistent.settled_le_offer node settled offer old
  case settled_lt => exact consistent.settled_lt
  case settled_nodup => exact consistent.settled_nodup
  case settled_reached =>
    intro node settled
    rw [improves.cost_eq node settled]
    exact consistent.settled_reached node settled
  case sorted =>
    refine List.Pairwise.imp_of_mem ?_ consistent.sorted
    intro newer older newerSettled olderSettled bound
    rw [improves.cost_eq newer newerSettled, improves.cost_eq older olderSettled]
    exact bound
  case least =>
    intro node settled
    rw [improves.cost_eq node settled]
    exact consistent.least node settled
  case rooted =>
    apply consistent.rooted.congr
    intro node settled
    exact State.parent_improve_of_ne (ne_of_mem_of_not_mem settled isOpen)
  case start_cost => rw [State.cost_improve_of_ne notStart, consistent.start_cost]
  case start_parent => rw [State.parent_improve_of_ne notStart, consistent.start_parent]
  case walk =>
    intro node reached
    by_cases same : node = hop.target
    · subst same
      rw [State.cost_improve_self, sum]
      exact .snoc (consistent.walk current
          (consistent.settled_reached current currentSettled)) arc
    · rw [State.cost_improve_of_ne same] at reached ⊢
      exact consistent.walk node reached
  case parent_eq_none =>
    intro node notReached
    by_cases same : node = hop.target
    · rw [same, State.cost_improve_self] at notReached
      exact absurd notReached reachedBy
    · rw [State.cost_improve_of_ne same] at notReached
      rw [State.parent_improve_of_ne same]
      exact consistent.parent_eq_none node notReached
  case parent_arc =>
    intro node previous isParent
    by_cases same : node = hop.target
    · subst same
      rw [State.parent_improve_self, Option.some.injEq] at isParent
      subst isParent
      refine ⟨currentSettled, hop.cost, arc, ?_⟩
      rw [State.cost_improve_self, improves.cost_eq current currentSettled, sum]
    · rw [State.parent_improve_of_ne same] at isParent
      obtain ⟨settled, cost, oldArc, total⟩ :=
        consistent.parent_arc node previous isParent
      refine ⟨settled, cost, oldArc, ?_⟩
      rw [State.cost_improve_of_ne same, improves.cost_eq previous settled]
      exact total
  case exists_parent =>
    intro node reached different
    by_cases same : node = hop.target
    · rw [same]
      exact ⟨current, State.parent_improve_self⟩
    · rw [State.cost_improve_of_ne same] at reached
      rw [State.parent_improve_of_ne same]
      exact consistent.exists_parent node reached different

/-- Relaxing an arc of the node settled last keeps labels and offers together, and
afterwards that arc is relaxed. -/
theorem Consistent.relaxHop (consistent : Consistent hops count start state)
    (inRange : InRange hops count) {older : List Nat}
    (newest : state.settled = current :: older) {hop : Hop} (arc : hop ∈ hops current) :
    Consistent hops count start (relaxHop current (state.cost current) state hop) ∧
      Improves state (relaxHop current (state.cost current) state hop) ∧
      Relaxed (relaxHop current (state.cost current) state hop) current [hop] := by
  have saturated := toNat_addCost (state.cost current) hop.cost
  rw [Dijkstra.relaxHop]
  by_cases better : Search.addCost (state.cost current) hop.cost < state.cost hop.target
  · rw [if_pos better]
    rw [UInt32.lt_iff_toNat_lt] at better
    have improves : Improves state
        (state.improve current hop.target
          (Search.addCost (state.cost current) hop.cost)) :=
      improves_improve (consistent.not_settled_of_better newest better)
        (Nat.le_of_lt better)
    refine ⟨consistent.improve inRange newest arc better, improves, ?_⟩
    intro relaxedHop member small
    rw [List.mem_singleton] at member
    subst member
    rw [improves.cost_eq current (by rw [newest]; exact List.mem_cons_self),
      State.cost_improve_self]
    omega
  · rw [if_neg better]
    rw [UInt32.lt_iff_toNat_lt] at better
    refine ⟨consistent, .refl state, ?_⟩
    intro relaxedHop member small
    rw [List.mem_singleton] at member
    subst member
    omega

/-- Relaxing arcs of the node settled last, one after another. -/
theorem Consistent.relaxHops (consistent : Consistent hops count start state)
    (inRange : InRange hops count) {older : List Nat}
    (newest : state.settled = current :: older) {arcs : List Hop}
    (own : ∀ hop ∈ arcs, hop ∈ hops current) :
    Consistent hops count start (relaxHops current (state.cost current) arcs state) ∧
      Improves state (relaxHops current (state.cost current) arcs state) ∧
      Relaxed (relaxHops current (state.cost current) arcs state) current arcs := by
  induction arcs generalizing state with
  | nil =>
    exact ⟨consistent, .refl state, fun hop member => absurd member List.not_mem_nil⟩
  | cons hop rest ih =>
    obtain ⟨first, improves, relaxed⟩ :=
      consistent.relaxHop inRange newest (own hop List.mem_cons_self)
    have settledSame :
        (Dijkstra.relaxHop current (state.cost current) state hop).settled
        = current :: older :=
      improves.settled_eq.trans newest
    have currentSettled : current ∈ state.settled := by
      rw [newest]; exact List.mem_cons_self
    have costSame := improves.cost_eq current currentSettled
    obtain ⟨consistentAfter, more, relaxedRest⟩ :=
      ih first settledSame fun other member => own other (List.mem_cons_of_mem _ member)
    rw [costSame] at consistentAfter more relaxedRest
    rw [relaxHops_cons]
    refine ⟨consistentAfter, improves.trans more, ?_⟩
    intro other member small
    rcases List.mem_cons.mp member with rfl | inRest
    · exact (relaxed.improve more (improves.settled_eq ▸ currentSettled)) other
        List.mem_cons_self small
    · exact relaxedRest other inRest small

/-! ## Whole searches -/

/-- What a search that is over leaves behind. Only the arcs of the goal need not be
relaxed. -/
structure Concluded (hops : Nat → List Hop) (count start goal : Nat) (outcome : Outcome)
    (state : State) : Prop
    extends Consistent hops count start state where
  relaxed : ∀ node ∈ state.settled, node ≠ goal → Relaxed state node (hops node)
  ending :
    match outcome with
    | .found cost => cost = state.cost goal ∧ ∃ older, state.settled = goal :: older
    | .exhausted => state.size = 0 ∧ goal ∉ state.settled

/-- A step keeps the invariant or concludes the search. -/
theorem Invariant.step (invariant : Invariant hops count start goal state)
    (inRange : InRange hops count) :
    match step hops goal state with
    | (none, after) => Invariant hops count start goal after
    | (some outcome, after) => Concluded hops count start goal outcome after := by
  rcases step_cases hops goal state with
    ⟨empty, taken⟩ | ⟨positive, stale, taken⟩ | ⟨positive, fresh, isGoal, taken⟩ |
    ⟨positive, fresh, notGoal, taken⟩
  · rw [taken]
    exact
      { toConsistent := invariant.toConsistent
        relaxed := fun node settled _ => invariant.relaxed node settled
        ending := ⟨empty, invariant.goal_open⟩ }
  · rw [taken]
    exact
      { toConsistent := invariant.pop_stale positive stale
        relaxed := invariant.relaxed
        goal_open := invariant.goal_open }
  · have settling := invariant.pop_settle positive fresh
    rw [isGoal] at settling
    rw [taken]
    refine
      { toConsistent := settling, relaxed := ?_, ending := ⟨rfl, state.settled, rfl⟩ }
    intro node settled different
    rcases List.mem_cons.mp settled with same | older
    · exact absurd same different
    · exact invariant.relaxed node older
  · have settling := invariant.pop_settle positive fresh
    obtain ⟨consistent, improves, relaxed⟩ :=
      settling.relaxHops inRange rfl fun _ member => member
    rw [taken]
    refine { toConsistent := consistent, relaxed := ?_, goal_open := ?_ }
    · intro node settled
      rw [settled_relaxHops] at settled
      rcases List.mem_cons.mp settled with rfl | older
      · exact relaxed
      · have before : Relaxed (state.pop.settle (state.heap 1).node) node (hops node) :=
          invariant.relaxed node older
        exact before.improve improves (List.mem_cons_of_mem _ older)
    · rw [settled_relaxHops]
      intro settled
      rcases List.mem_cons.mp settled with same | older
      · exact notGoal same.symm
      · exact invariant.goal_open older

/-- A search with enough fuel comes to a conclusion. -/
theorem Invariant.run (inRange : InRange hops count) {fuel : Nat}
    (invariant : Invariant hops count start goal state)
    (enough : budget hops count state < fuel) :
    ∃ outcome after, run hops goal fuel state = some (outcome, after) ∧
      Concluded hops count start goal outcome after := by
  induction fuel generalizing state with
  | zero => omega
  | succ fuel ih =>
    have kept := invariant.step inRange
    rw [Dijkstra.run]
    rcases taken : Dijkstra.step hops goal state with ⟨_ | outcome, after⟩
    · rw [taken] at kept
      have less := budget_step_lt invariant.node_lt taken
      exact ih kept (by omega)
    · rw [taken] at kept
      exact ⟨outcome, after, rfl, kept⟩

theorem budget_initial (start : Nat) (heap : Nat → Offer) :
    budget hops count (initial start heap) = 1 + pending hops count [] := rfl

/-- A search comes to a conclusion unless there are more arcs than steps. -/
theorem search_concluded (inRange : InRange hops count) (inside : start < count)
    (few : 1 + pending hops count [] < Search.searchFuel) :
    ∃ outcome after, search hops start goal = some (outcome, after) ∧
      Concluded hops count start goal outcome after :=
  (invariant_initial inside _).run inRange (by rw [budget_initial]; exact few)

/-! ## What a conclusion means -/

/-- The cost of a goal that was found is the least total of a walk to it. -/
theorem Concluded.isLeast {cost : UInt32}
    (concluded : Concluded hops count start goal (.found cost) state) :
    HopWalk hops start goal cost.toNat ∧ cost ≠ unreached ∧
      ∀ total, HopWalk hops start goal total → cost.toNat ≤ total := by
  obtain ⟨rfl, older, newest⟩ := concluded.ending
  have settled : goal ∈ state.settled := by rw [newest]; exact List.mem_cons_self
  have reached := concluded.settled_reached goal settled
  exact ⟨concluded.walk goal reached, reached, concluded.least goal settled⟩

/-- If the frontier runs empty, no node is reached that is not settled. -/
theorem Concluded.unreached_of_open
    (concluded : Concluded hops count start goal .exhausted state) {node : Nat}
    (isOpen : node ∉ state.settled) : state.cost node = unreached := by
  by_contra reached
  have offered := concluded.live node isOpen reached
  rw [State.offers, concluded.ending.1, Heap.entries_zero] at offered
  exact absurd offered (Multiset.notMem_zero _)

/-- If the frontier runs empty, no walk to a node that is not settled has a total that a
cost can hold. -/
theorem Concluded.no_walk_of_open
    (concluded : Concluded hops count start goal .exhausted state) {node total : Nat}
    (isOpen : node ∉ state.settled) (walk : HopWalk hops start node total) :
    unreached.toNat ≤ total := by
  obtain ⟨_, goalOpen⟩ := concluded.ending
  have invariant : Invariant hops count start goal state :=
    { toConsistent := concluded.toConsistent
      relaxed := fun node settled =>
        concluded.relaxed node settled fun same => goalOpen (same ▸ settled)
      goal_open := goalOpen }
  by_contra small
  rcases invariant.settled_or_open walk (by omega) with
    ⟨settled, _⟩ | ⟨other, otherOpen, bound⟩
  · exact isOpen settled
  · rw [concluded.unreached_of_open otherOpen] at bound
    omega

/-- If the frontier runs empty, no walk to the goal has a total that a cost can hold. -/
theorem Concluded.no_walk (concluded : Concluded hops count start goal .exhausted state)
    {total : Nat} (walk : HopWalk hops start goal total) : unreached.toNat ≤ total :=
  concluded.no_walk_of_open concluded.ending.2 walk

/-- If the goal is found, no settled node is dearer. -/
theorem Concluded.cost_le_found {cost : UInt32}
    (concluded : Concluded hops count start goal (.found cost) state) {node : Nat}
    (settled : node ∈ state.settled) : (state.cost node).toNat ≤ cost.toNat := by
  obtain ⟨rfl, older, newest⟩ := concluded.ending
  exact concluded.cost_le_newest newest settled

/-- If the goal is found, a node that is reached and not settled is no cheaper. -/
theorem Concluded.found_le_cost {cost : UInt32}
    (concluded : Concluded hops count start goal (.found cost) state) {node : Nat}
    (isOpen : node ∉ state.settled) : cost.toNat ≤ (state.cost node).toNat := by
  obtain ⟨rfl, older, newest⟩ := concluded.ending
  have goalSettled : goal ∈ state.settled := by rw [newest]; exact List.mem_cons_self
  by_cases reached : state.cost node = unreached
  · rw [reached]
    exact toNat_le_unreached _
  · exact concluded.settled_le_offer goal goalSettled
      _ (concluded.live node isOpen reached)

/-- If the goal is found, every walk with a smaller total ends at a settled node that
has no dearer label. -/
theorem Concluded.settled_of_lt {cost : UInt32}
    (concluded : Concluded hops count start goal (.found cost) state) {node total : Nat}
    (walk : HopWalk hops start node total) (less : total < cost.toNat) :
    node ∈ state.settled ∧ (state.cost node).toNat ≤ total := by
  -- what is reached for less than the goal is settled
  have settled_of_bound : ∀ node bound, (state.cost node).toNat ≤ bound →
      bound < cost.toNat →
      node ∈ state.settled ∧ (state.cost node).toNat ≤ bound := by
    intro node bound upper small
    refine ⟨?_, upper⟩
    by_contra isOpen
    have dearer := concluded.found_le_cost isOpen
    omega
  induction walk with
  | nil =>
    exact settled_of_bound start 0 (by rw [concluded.start_cost]; exact Nat.le_refl 0)
      less
  | @snoc node next total arcCost _ arc ih =>
    obtain ⟨settled, bound⟩ := ih (by omega)
    have notGoal : node ≠ goal := by
      rintro rfl
      rw [← concluded.ending.1] at bound
      omega
    have limit := toNat_le_unreached cost
    have relaxed := concluded.relaxed node settled notGoal _ arc (by simp only; omega)
    simp only at relaxed
    exact settled_of_bound next _ (by omega) less

end ArenaPaths.Dijkstra
