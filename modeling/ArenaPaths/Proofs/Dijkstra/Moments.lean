import ArenaPaths.Proofs.Dijkstra.Invariant

/-!
# Moments of a search

A search looked at after every step and not only when it is over. At every moment labels
and offers belong together. From one moment to the next one more node is settled, or
else no label has changed, and what is settled stays so. The order in which nodes are
settled is therefore told by the end: whatever is settled at some moment comes last in
the final list.
-/

namespace ArenaPaths.Dijkstra

variable {hops : Nat → List Hop} {count start goal rounds : Nat}
  {state after final : State} {outcome : Outcome}

/-- The state after the given number of steps. A search that is over stays as it is. -/
def stepped (hops : Nat → List Hop) (goal : Nat) : Nat → State → State
  | 0, state => state
  | rounds + 1, state =>
    match step hops goal state with
    | (some _, after) => after
    | (none, after) => stepped hops goal rounds after

theorem stepped_of_none (taken : step hops goal state = (none, after)) :
    stepped hops goal (rounds + 1) state = stepped hops goal rounds after := by
  rw [stepped, taken]

theorem stepped_of_some (taken : step hops goal state = (some outcome, after)) :
    stepped hops goal (rounds + 1) state = after := by
  rw [stepped, taken]

/-- The last moment is the end of the search. -/
theorem stepped_of_run {fuel : Nat}
    (ran : run hops goal fuel state = some (outcome, final)) (enough : fuel ≤ rounds) :
    stepped hops goal rounds state = final := by
  induction fuel generalizing state rounds with
  | zero => cases ran
  | succ fuel ih =>
    obtain ⟨rounds, rfl⟩ : ∃ fewer, rounds = fewer + 1 := ⟨rounds - 1, by omega⟩
    rw [run] at ran
    rcases taken : step hops goal state with ⟨_ | ended, next⟩
    · rw [taken] at ran
      rw [stepped_of_none taken]
      exact ih ran (by omega)
    · rw [taken] at ran
      cases ran
      exact stepped_of_some taken

/-- Two states say the same of all nodes. -/
structure SameLabels (state other : State) : Prop where
  parent_eq : other.parent = state.parent
  cost_eq : other.cost = state.cost
  settled_eq : other.settled = state.settled

/-- A step settles a node or changes no label. -/
theorem settled_step (hops : Nat → List Hop) (goal : Nat) (state : State) :
    SameLabels state (step hops goal state).2 ∨
    ∃ node, (step hops goal state).2.settled = node :: state.settled := by
  rcases step_cases hops goal state with
    ⟨_, taken⟩ | ⟨_, _, taken⟩ | ⟨_, _, _, taken⟩ | ⟨_, _, _, taken⟩
  · exact .inl (by rw [taken]; exact ⟨rfl, rfl, rfl⟩)
  · exact .inl (by rw [taken]; exact ⟨rfl, rfl, rfl⟩)
  · exact .inr ⟨goal, by rw [taken, State.settled_settle, State.settled_pop]⟩
  · exact .inr ⟨(state.heap 1).node, by
      rw [taken, settled_relaxHops, State.settled_settle, State.settled_pop]⟩

/-- From one moment to the next one more node is settled, or no label has changed. -/
theorem settled_stepped_succ (hops : Nat → List Hop) (goal rounds : Nat)
    (state : State) :
    SameLabels (stepped hops goal rounds state) (stepped hops goal (rounds + 1) state) ∨
      ∃ node, (stepped hops goal (rounds + 1) state).settled
        = node :: (stepped hops goal rounds state).settled := by
  induction rounds generalizing state with
  | zero =>
    have first := settled_step hops goal state
    rcases taken : step hops goal state with ⟨_ | ended, next⟩
    · rw [taken] at first
      rw [stepped_of_none taken]
      exact first
    · rw [taken] at first
      rw [stepped_of_some taken]
      exact first
  | succ rounds ih =>
    rcases taken : step hops goal state with ⟨_ | ended, next⟩
    · rw [stepped_of_none taken, stepped_of_none taken]
      exact ih next
    · rw [stepped_of_some taken, stepped_of_some taken]
      exact .inl ⟨rfl, rfl, rfl⟩

/-- What is settled stays settled, behind what is settled later. -/
theorem settled_stepped_suffix (hops : Nat → List Hop) (goal rounds more : Nat)
    (state : State) :
    (stepped hops goal rounds state).settled <:+
      (stepped hops goal (rounds + more) state).settled := by
  induction more with
  | zero => exact List.suffix_refl _
  | succ more ih =>
    apply ih.trans
    rcases settled_stepped_succ hops goal (rounds + more) state with
      same | ⟨node, newer⟩
    · rw [← Nat.add_assoc, same.settled_eq]
    · rw [← Nat.add_assoc, newer]
      exact List.suffix_cons _ _

/-- Labels and offers belong together at every moment. -/
theorem Invariant.stepped (invariant : Invariant hops count start goal state)
    (inRange : InRange hops count) (rounds : Nat) :
    Consistent hops count start (stepped hops goal rounds state) := by
  induction rounds generalizing state with
  | zero => exact invariant.toConsistent
  | succ rounds ih =>
    have kept := invariant.step inRange
    rcases taken : Dijkstra.step hops goal state with ⟨_ | ended, next⟩
    · rw [taken] at kept
      rw [stepped_of_none taken]
      exact ih kept
    · rw [taken] at kept
      rw [stepped_of_some taken]
      exact kept.toConsistent

end ArenaPaths.Dijkstra
