import ArenaPaths.Proofs.PageScans

/-!
# Searches with notes

A search writes records and the frontier one after the other. Here it takes down every
moment of this: the label that it has stored, the entry that it has added or taken out,
the node that it has marked, and the memory as that has left it. A search with notes
does what the search does without them, whatever it meets in memory, so what is said of
its moments is said of the search.

Adding an entry and taking one out are one change each. What they do to the slots on the
way is not looked at.

Main statement: `Graph.noteSearch_follows`.
-/

namespace ArenaPaths

open ArenaPaths.Action

/-! ## Notes on the side -/

namespace Action

variable {σ μ α β : Type}

theorem outcome_bind (step : Action σ α) (next : α → Action σ β) (state : σ) :
    (step >>= next).outcome state =
      match step.outcome state with
      | (.ok value, rest) => (next value).outcome rest
      | (.error fault, rest) => (.error fault, rest) := by
  cases ran : step state with
  | ok value rest => rw [outcome_of_ok ran, outcome_bind_ok ran]
  | error fault rest => rw [outcome_of_error ran, outcome_of_error (bind_error ran)]

/-- A step that takes notes does what another step does without them, and puts its notes
behind those it finds. -/
def Follows (noted : Action (σ × List μ) α) (step : Action σ α) : Prop :=
  ∀ state notes, ∃ more,
    noted.outcome (state, notes)
      = ((step.outcome state).1, (step.outcome state).2, notes ++ more)

namespace Follows

theorem pure (value : α) :
    Follows (μ := μ) (Pure.pure value) (Pure.pure value : Action σ α) := by
  intro state notes
  refine ⟨[], ?_⟩
  rw [List.append_nil]
  rfl

theorem throw (fault : Fault) :
    Follows (μ := μ) (MonadExcept.throw fault)
      (MonadExcept.throw fault : Action σ α) := by
  intro state notes
  refine ⟨[], ?_⟩
  rw [List.append_nil]
  rfl

theorem liftM (result : Except Fault α) :
    Follows (μ := μ) (MonadLiftT.monadLift result)
      (MonadLiftT.monadLift result : Action σ α) := by
  cases result with
  | ok value => exact pure value
  | error fault => exact throw fault

theorem onFirst (step : Action σ α) : Follows (μ := μ) (Action.onFirst step) step := by
  intro state notes
  refine ⟨[], ?_⟩
  rw [Action.onFirst, outcome_focus, List.append_nil]

theorem bind {noted : Action (σ × List μ) α} {step : Action σ α}
    {notedNext : α → Action (σ × List μ) β} {next : α → Action σ β}
    (first : Follows noted step)
    (second : ∀ value, Follows (notedNext value) (next value)) :
    Follows (noted >>= notedNext) (step >>= next) := by
  intro state notes
  obtain ⟨more, ran⟩ := first state notes
  rw [outcome_bind, outcome_bind, ran]
  rcases step.outcome state with ⟨fault | value, rest⟩
  · exact ⟨more, rfl⟩
  · obtain ⟨others, ranNext⟩ := second value rest (notes ++ more)
    exact ⟨more ++ others, by rw [← List.append_assoc]; exact ranNext⟩

theorem guard {condition : Prop} [Decidable condition] (fault : Fault)
    {notedNext : PUnit → Action (σ × List μ) α} {next : PUnit → Action σ α}
    (follows : Follows (notedNext ⟨⟩) (next ⟨⟩)) :
    Follows (if condition then MonadExcept.throw fault >>= notedNext else notedNext ⟨⟩)
      (if condition then MonadExcept.throw fault >>= next else next ⟨⟩) := by
  split
  · exact throw fault
  · exact follows

/-- A step that returns with its notes returns without them. -/
theorem eq_ok {noted : Action (σ × List μ) α} {step : Action σ α}
    (follows : Follows noted step) {state rest : σ} {notes left : List μ} {value : α}
    (ran : noted (state, notes) = .ok value (rest, left)) :
    step state = .ok value rest := by
  obtain ⟨more, same⟩ := follows state notes
  rw [outcome_of_ok ran, Prod.mk.injEq, Prod.mk.injEq] at same
  exact eq_ok_of_outcome (Prod.ext same.1.symm same.2.1.symm)

variable {noteRead : PageRef → Action (σ × List μ) Page}
  {read : PageRef → Action σ Page} {noteVisit : Arc → Action (σ × List μ) Bool}
  {visit : Arc → Action σ Bool}

theorem visitEdges (visits : ∀ arc, Follows (noteVisit arc) (visit arc))
    (page : PageRef) (edges : List Edge) :
    Follows (ArenaPaths.visitEdges noteVisit page edges)
      (ArenaPaths.visitEdges visit page edges) := by
  induction edges with
  | nil => exact pure 0
  | cons edge rest ih =>
    refine bind ?_ fun improved => bind ih fun more => pure _
    rw [visitEdge, visitEdge]
    cases NodeRef.ofWord? edge.target with
    | none => exact throw _
    | some target => exact visits _

/-- A walk along pages takes the notes that its readings and its visits take. -/
theorem visitChain (reads : ∀ page, Follows (noteRead page) (read page))
    (visits : ∀ arc, Follows (noteVisit arc) (visit arc)) (fuel : Nat) (next : UInt32) :
    Follows (ArenaPaths.visitChain noteRead noteVisit fuel next)
      (ArenaPaths.visitChain read visit fuel next) := by
  induction fuel generalizing next with
  | zero => exact throw _
  | succ fuel ih =>
    rw [ArenaPaths.visitChain, ArenaPaths.visitChain]
    cases PageRef.ofWord? next with
    | none => exact pure 0
    | some page =>
      refine bind (reads page) fun record => guard _ ?_
      exact bind (visitEdges visits page record.claimed) fun improved =>
        bind (ih record.next) fun more => pure _

end Follows

end Action

/-! ## The moments of a search -/

namespace Search

variable {ε δ : Type}

/-- What a search has done last: it has stored a label and is to add the entry for it,
has added an entry, has taken one out, or has marked a node. -/
inductive Change (ε : Type) where
  | labelled (entry : ε)
  | pushed
  | popped (entry : ε)
  | marked
  deriving DecidableEq, Repr

/-- The entry that is on its way into the frontier or out of it. -/
def Change.afoot : Change ε → Option ε
  | .labelled entry | .popped entry => some entry
  | .pushed | .marked => none

/-- The same change, with the entry in other terms. -/
def Change.map (translate : ε → δ) : Change ε → Change δ
  | .labelled entry => .labelled (translate entry)
  | .pushed => .pushed
  | .popped entry => .popped (translate entry)
  | .marked => .marked

theorem Change.afoot_map (translate : ε → δ) (change : Change ε) :
    (change.map translate).afoot = change.afoot.map translate := by
  cases change <;> rfl

/-- A moment of a search: what it has done last, and what it works on as that has left
it. -/
structure Moment where
  change : Change Slot
  workspace : Workspace

/-- Take down the moment after a change. -/
def note (change : Change Slot) : Action (Workspace × List Moment) Unit :=
  modify fun state => (state.1, state.2 ++ [⟨change, state.1⟩])

/-- Relax an arc and take down the moments. -/
def noteRelaxing (window : Window) (current : NodeRef) (cost : UInt32) (arc : Arc) :
    Action (Workspace × List Moment) Bool := do
  let candidate := addCost cost arc.cost
  let record ← onFirst (Workspace.onMemory (window.load Node arc.target.address))
  if candidate < record.cost then
    onFirst (Workspace.onMemory
      (window.store arc.target.address { record with
        cost := candidate, parent := current.address }))
    note (.labelled ⟨candidate, arc.target.address⟩)
    onFirst (Frontier.push window candidate arc.target)
    note .pushed
    return true
  else
    return false

/-- Settle entries of the frontier and take down the moments. -/
def noteSettling (window : Window) (goal : NodeRef) :
    Nat → Nat → Nat → Action (Workspace × List Moment) SearchReport
  | 0, _, _ => throw (.abort .endlessWalk)
  | fuel + 1, steps, relaxations => do
    match ← onFirst (Frontier.pop window) with
    | none => return ⟨.exhausted, steps, relaxations⟩
    | some (cost, current) =>
      note (.popped ⟨cost, current.address⟩)
      let record ← onFirst (Workspace.onMemory (window.load Node current.address))
      if record.isVisited then noteSettling window goal fuel steps relaxations
      else
        onFirst (Workspace.onMemory
            (window.store current.address { record with visited := 1 }))
        note .marked
        let steps ← Word.add UInt64.size steps 1
        if current = goal then return ⟨.found record.cost, steps, relaxations⟩
        else
          let improved ← visitChain (fun page => onFirst (readPage window page))
            (noteRelaxing window current record.cost) chainFuel record.firstPage
          noteSettling window goal fuel steps (relaxations + improved)

/-- Search from one node to another and take down the moments. -/
def noteRun (window : Window) (start goal : NodeRef) :
    Action (Workspace × List Moment) SearchReport := do
  let record ← onFirst (Workspace.onMemory (window.load Node start.address))
  onFirst (Workspace.onMemory (window.store start.address { record with cost := 0 }))
  note (.labelled ⟨0, start.address⟩)
  onFirst (Frontier.push window 0 start)
  note .pushed
  noteSettling window goal searchFuel 0 0

/-! ### Searches without the notes -/

variable {α : Type}

theorem note_apply (change : Change Slot) (workspace : Workspace)
    (moments : List Moment) :
    note change (workspace, moments)
      = .ok () (workspace, moments ++ [⟨change, workspace⟩]) := rfl

/-- Taking down a moment does nothing else. -/
theorem follows_note_bind (change : Change Slot)
    {noted : Unit → Action (Workspace × List Moment) α} {step : Action Workspace α}
    (follows : Follows (noted ()) step) : Follows (note change >>= noted) step := by
  intro workspace moments
  obtain ⟨more, ran⟩ := follows workspace (moments ++ [⟨change, workspace⟩])
  refine ⟨⟨change, workspace⟩ :: more, ?_⟩
  rw [outcome_bind_ok (note_apply change workspace moments), ran, List.append_assoc]
  rfl

theorem noteRelaxing_follows (window : Window) (current : NodeRef) (cost : UInt32)
    (arc : Arc) :
    Follows (noteRelaxing window current cost arc)
      (relaxArc window current cost arc) := by
  refine .bind (.onFirst _) fun record => ?_
  split
  · refine .bind (.onFirst _) fun _ => follows_note_bind _ ?_
    exact .bind (.onFirst _) fun _ => follows_note_bind _ (.pure true)
  · exact .pure false

theorem noteSettling_follows (window : Window) (goal : NodeRef)
    (fuel steps relaxations : Nat) :
    Follows (noteSettling window goal fuel steps relaxations)
      (settle window goal fuel steps relaxations) := by
  induction fuel generalizing steps relaxations with
  | zero => exact .throw _
  | succ fuel ih =>
    refine .bind (.onFirst _) fun taken => ?_
    rcases taken with _ | ⟨cost, current⟩
    · exact .pure _
    · refine follows_note_bind _ (.bind (.onFirst _) fun record => ?_)
      split
      · exact ih steps relaxations
      · refine .bind (.onFirst _) fun _ =>
          follows_note_bind _ (.bind (.liftM _) fun counted => ?_)
        split
        · exact .pure _
        · rw [relaxChain_eq_visitChain]
          refine .bind (.visitChain (fun page => .onFirst _) (fun arc => ?_) _ _)
            fun improved => ih _ _
          exact noteRelaxing_follows window current record.cost arc

/-- On any workspace at all, a search that takes down its moments is the search. -/
theorem noteRun_follows (window : Window) (start goal : NodeRef) :
    Follows (noteRun window start goal) (run window start goal) := by
  refine .bind (.onFirst _) fun record => .bind (.onFirst _) fun _ =>
    follows_note_bind _ ?_
  exact .bind (.onFirst _) fun _ =>
    follows_note_bind _ (noteSettling_follows window goal _ _ _)

end Search

namespace Graph

open Search (Moment)

/-- The graph as it is while a search works on it. -/
def amid (graph : Graph) (workspace : Workspace) : Graph :=
  { graph with
    arena := graph.arena.withMemory workspace.memory, frontier := workspace.frontier }

/-- Search from one node to another through the host's window and take down the
moments. -/
def noteSearch (start goal : NodeRef) : Action (Graph × List Moment) SearchReport := do
  let window := (← get).1.arena.window
  focus (fun state => (⟨state.1.frontier, state.1.arena.memory⟩, state.2))
    (fun state rest => (state.1.amid rest.1, rest.2)) (Search.noteRun window start goal)

/-- On any graph at all, a search that takes down its moments is the search. -/
theorem noteSearch_follows (start goal : NodeRef) :
    Follows (noteSearch start goal) (search start goal) := by
  intro graph moments
  obtain ⟨more, ran⟩ :=
    Search.noteRun_follows graph.arena.window start goal
      ⟨graph.frontier, graph.arena.memory⟩ moments
  refine ⟨more, ?_⟩
  have noted : (noteSearch start goal).outcome (graph, moments)
      = (focus (fun state : Graph × List Moment =>
        (⟨state.1.frontier, state.1.arena.memory⟩, state.2))
        (fun state rest => (state.1.amid rest.1, rest.2))
        (Search.noteRun graph.arena.window start goal)).outcome (graph, moments) := by
    simp only [outcome, noteSearch, get_bind_apply]
  have plain : (search start goal).outcome graph
      = (onWorkspace (Search.run graph.arena.window start goal)).outcome graph := by
    simp only [outcome, search, get_bind_apply]
  rw [noted, plain, outcome_focus, onWorkspace, outcome_focus, ran]
  rfl

end Graph

end ArenaPaths
