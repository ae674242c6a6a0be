import ArenaPaths.Proofs.Dijkstra.Invariant
import Mathlib.Data.List.Chain

/-!
# Trails

The parents that a search leaves lead from every settled node back to the start. A
parent is settled before its node is, so the way back comes to an end without meeting a
node twice, and the arcs on it have exactly the costs by which the labels grow.
-/

namespace ArenaPaths.Dijkstra

variable {hops : Nat → List Hop} {count start : Nat} {state : State}

/-- The nodes from the start to a node along the parents, none of them twice. -/
inductive Trail (parent : Nat → Option Nat) (start : Nat) : Nat → List Nat → Prop where
  | nil : Trail parent start start [start]
  | snoc {previous node : Nat} {nodes : List Nat} :
      Trail parent start previous nodes → parent node = some previous →
      node ≠ start → node ∉ nodes → Trail parent start node (nodes ++ [node])

namespace Trail

variable {parent : Nat → Option Nat} {node : Nat} {nodes : List Nat}

theorem getLast?_eq (trail : Trail parent start node nodes) :
    nodes.getLast? = some node := by
  cases trail with
  | nil => rfl
  | snoc => exact List.getLast?_concat

theorem head?_eq (trail : Trail parent start node nodes) :
    nodes.head? = some start := by
  induction trail with
  | nil => rfl
  | snoc _ _ _ _ ih => rw [List.head?_append, ih, Option.some_or]

theorem nodup (trail : Trail parent start node nodes) : nodes.Nodup := by
  induction trail with
  | nil => exact List.nodup_singleton start
  | snoc _ _ _ fresh ih =>
    rw [← List.concat_eq_append]
    exact ih.concat fresh

/-- Each node on a trail is the parent of the next. -/
theorem isChain (trail : Trail parent start node nodes) :
    nodes.IsChain fun previous next => parent next = some previous := by
  induction trail with
  | nil => exact List.isChain_singleton start
  | snoc before isParent _ _ ih =>
    apply ih.append (List.isChain_singleton _)
    intro last isLast next isNext
    rw [before.getLast?_eq] at isLast
    cases isLast
    cases isNext
    exact isParent

end Trail

/-- In a list of settled nodes that has the parents of its nodes behind them, every node
has a trail. -/
theorem Consistent.exists_trail_of_rooted
    (consistent : Consistent hops count start state) {nodes : List Nat}
    (settled : nodes ⊆ state.settled) (nodup : nodes.Nodup)
    (rooted : Rooted state.parent nodes) {node : Nat} (member : node ∈ nodes) :
    ∃ trail, Trail state.parent start node trail ∧ trail ⊆ nodes := by
  induction nodes generalizing node with
  | nil => exact absurd member List.not_mem_nil
  | cons newest older ih =>
    obtain ⟨parentOlder, olderRooted⟩ := rooted
    obtain ⟨notOlder, olderNodup⟩ := List.nodup_cons.mp nodup
    have olderSettled : older ⊆ state.settled := fun _ isOlder =>
      settled (List.mem_cons_of_mem _ isOlder)
    rcases List.mem_cons.mp member with rfl | isOlder
    · by_cases isStart : node = start
      · subst isStart
        exact ⟨[node], .nil,
          List.cons_subset.mpr ⟨List.mem_cons_self, List.nil_subset _⟩⟩
      have reached := consistent.settled_reached node (settled member)
      obtain ⟨previous, isParent⟩ := consistent.exists_parent node reached isStart
      obtain ⟨trail, before, within⟩ :=
        ih olderSettled olderNodup olderRooted (parentOlder previous isParent)
      refine ⟨trail ++ [node],
        .snoc before isParent isStart fun again => notOlder (within again), ?_⟩
      rw [List.append_subset]
      exact ⟨fun _ inTrail => List.mem_cons_of_mem _ (within inTrail),
        List.cons_subset.mpr ⟨List.mem_cons_self, List.nil_subset _⟩⟩
    · obtain ⟨trail, before, within⟩ := ih olderSettled olderNodup olderRooted isOlder
      exact ⟨trail, before, fun _ inTrail => List.mem_cons_of_mem _ (within inTrail)⟩

/-- Every settled node has a trail of settled nodes. -/
theorem Consistent.exists_trail (consistent : Consistent hops count start state)
    {node : Nat} (settled : node ∈ state.settled) :
    ∃ trail, Trail state.parent start node trail ∧ trail ⊆ state.settled :=
  consistent.exists_trail_of_rooted
    (List.Subset.refl _) consistent.settled_nodup consistent.rooted settled

/-- A trail of settled nodes has no more nodes than there are. -/
theorem Consistent.length_trail_le (consistent : Consistent hops count start state)
    {node : Nat} {trail : List Nat} (isTrail : Trail state.parent start node trail)
    (settled : trail ⊆ state.settled) : trail.length ≤ count :=
  Nat.le_trans (isTrail.nodup.subperm settled).length_le consistent.length_settled_le

end ArenaPaths.Dijkstra
