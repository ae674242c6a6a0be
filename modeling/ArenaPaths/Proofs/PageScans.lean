import ArenaPaths.Proofs.Routes

/-!
# Scans of page chains

Two walks go along the pages of a node: the host lists its edges, and a search relaxes
them. On any bytes at all both need every page to be readable and every edge that it
claims to have a target. A search also refuses a page that claims more edges than it has
room for, and the listing does not: it takes as many as there are. So the two agree on a
chain, and look at the same edges in the same order, unless it can be listed and one of
its pages is overfull.

Main statement: `Graph.listing_and_search_agree_unless_overfull`.
-/

namespace ArenaPaths

open ArenaPaths.Action

/-! ## Pages and what they claim -/

/-- The edge on a page for an arc. -/
def Arc.edge (arc : Arc) : Edge := ⟨arc.target.address, arc.cost⟩

theorem exists_map_edge_eq {edges : List Edge}
    (targeted : ∀ edge ∈ edges, edge.target ≠ nullAddress) :
    ∃ arcs : List Arc, arcs.map Arc.edge = edges := by
  induction edges with
  | nil => exact ⟨[], rfl⟩
  | cons edge rest ih =>
    obtain ⟨arcs, arcs_eq⟩ :=
      ih fun other member => targeted other (List.mem_cons_of_mem _ member)
    refine ⟨⟨⟨edge.target, targeted edge List.mem_cons_self⟩, edge.cost⟩ :: arcs, ?_⟩
    rw [List.map_cons, arcs_eq]
    rfl

/-- The record that an address shows through a window, if it lies there. -/
def Window.record? (α : Type) [Record α] (window : Window) (memory : Memory)
    (address : UInt32) : Option α :=
  match window.locate address (Record.size α) with
  | .ok position => some (Record.read memory position)
  | .error _ => none

section Shown

variable {α : Type} [Record α] {window : Window} {memory : Memory} {address : UInt32}
  {record : α}

theorem Window.load_of_record? (shown : window.record? α memory address = some record) :
    window.load α address memory = .ok record memory := by
  rw [record?] at shown
  split at shown
  · rename_i located
    cases shown
    exact load_of_locate located
  · cases shown

theorem Window.exists_load_eq_error
    (unreadable : window.record? α memory address = none) :
    ∃ fault, window.load α address memory = .error fault memory := by
  rw [record?] at unreadable
  split at unreadable
  · cases unreadable
  · rename_i fault located
    exact ⟨fault, load_of_outside located⟩

end Shown

/-- The pages of a chain, given what pages show and the word for the first of them. The
chain ends with a page that has none behind it or that cannot be read. -/
inductive PageChain (shown : UInt32 → Option Page) : UInt32 → List PageRef → Prop where
  | nil : PageChain shown nullAddress []
  | unreadable {page : PageRef} :
      shown page.address = none → PageChain shown page.address [page]
  | cons {page : PageRef} {record : Page} {pages : List PageRef} :
      shown page.address = some record →
      PageChain shown record.next pages → PageChain shown page.address (page :: pages)

/-- Every page can be read, and every edge that it claims has a target. -/
def Legible (shown : UInt32 → Option Page) (pages : List PageRef) : Prop :=
  ∀ page ∈ pages, ∃ record, shown page.address = some record ∧
    ∀ edge ∈ record.claimed, edge.target ≠ nullAddress

/-- A page claims more edges than it has room for. -/
def Overfull (shown : UInt32 → Option Page) (pages : List PageRef) : Prop :=
  ∃ page ∈ pages, ∃ record, shown page.address = some record ∧
    edgesPerPage < record.count.toNat

/-- The edges that pages claim, as far as they have room for them. -/
def claims (shown : UInt32 → Option Page) (pages : List PageRef) : List Edge :=
  (pages.filterMap fun page => shown page.address).flatMap Page.claimed

variable {shown : UInt32 → Option Page} {page : PageRef} {record : Page}
  {pages : List PageRef} {arcs : List Arc}

theorem claims_cons (readable : shown page.address = some record) :
    claims shown (page :: pages) = record.claimed ++ claims shown pages := by
  simp only [claims, List.filterMap_cons, readable, List.flatMap_cons]

theorem Legible.of_cons (legible : Legible shown (page :: pages))
    (readable : shown page.address = some record) :
    (∀ edge ∈ record.claimed, edge.target ≠ nullAddress) ∧ Legible shown pages := by
  obtain ⟨other, otherReadable, targeted⟩ := legible page List.mem_cons_self
  rw [readable] at otherReadable
  cases otherReadable
  exact ⟨targeted, fun page member => legible page (List.mem_cons_of_mem _ member)⟩

theorem Legible.cons (legible : Legible shown pages)
    (readable : shown page.address = some record)
    (targeted : ∀ edge ∈ record.claimed, edge.target ≠ nullAddress) :
    Legible shown (page :: pages) := by
  intro other member
  rcases List.mem_cons.mp member with rfl | later
  · exact ⟨record, readable, targeted⟩
  · exact legible other later

/-- Pages that are legible claim arcs. -/
theorem Legible.exists_arcs (legible : Legible shown pages) :
    ∃ arcs : List Arc, arcs.map Arc.edge = claims shown pages := by
  refine exists_map_edge_eq fun edge member => ?_
  obtain ⟨record, isShown, claimed⟩ := List.mem_flatMap.mp member
  obtain ⟨page, onChain, readable⟩ := List.mem_filterMap.mp isShown
  obtain ⟨other, otherReadable, targeted⟩ := legible page onChain
  rw [readable] at otherReadable
  cases otherReadable
  exact targeted edge claimed

/-! ## Visits

The walk of a search, with anything done at the arcs. -/

section Visits

variable {σ : Type}

/-- Visit an edge on a page. -/
def visitEdge (visit : Arc → Action σ Bool) (page : PageRef) (edge : Edge) :
    Action σ Bool :=
  match NodeRef.ofWord? edge.target with
  | none => throw (.corrupt page.address.toNat .edgeWithoutTarget)
  | some target => visit ⟨target, edge.cost⟩

/-- Visit edges one after another, counting those with an effect. -/
def visitEdges (visit : Arc → Action σ Bool) (page : PageRef) : List Edge → Action σ Nat
  | [] => return 0
  | edge :: rest => do
    let improved ← visitEdge visit page edge
    let more ← visitEdges visit page rest
    return improved.toNat + more

/-- Visit the edges on a chain of pages, given how a page is read. -/
def visitChain (read : PageRef → Action σ Page) (visit : Arc → Action σ Bool) :
    Nat → UInt32 → Action σ Nat
  | 0, _ => throw (.abort .endlessWalk)
  | fuel + 1, next =>
    match PageRef.ofWord? next with
    | none => return 0
    | some page => do
      let record ← read page
      if edgesPerPage < record.count.toNat then
        throw (.corrupt page.address.toNat (.overfullPage record.count.toNat))
      let improved ← visitEdges visit page record.claimed
      let more ← visitChain read visit fuel record.next
      return improved + more

/-- Visit arcs one after another. -/
def visitAll (visit : Arc → Action σ Bool) : List Arc → Action σ Nat
  | [] => return 0
  | arc :: rest => do
    let improved ← visit arc
    let more ← visitAll visit rest
    return improved.toNat + more

variable {read : PageRef → Action σ Page} {visit : Arc → Action σ Bool} {Inv : σ → Prop}
  {state : σ}

theorem visitEdges_map_edge (visit : Arc → Action σ Bool) (page : PageRef)
    (arcs : List Arc) :
    visitEdges visit page (arcs.map Arc.edge) = visitAll visit arcs := by
  induction arcs with
  | nil => rfl
  | cons arc rest ih =>
    have edge_eq : visitEdge visit page arc.edge = visit arc := by
      rw [visitEdge, Arc.edge, NodeRef.ofWord?_address]
    rw [List.map_cons, visitEdges, visitAll, edge_eq, ih]

theorem visitAll_append (visit : Arc → Action σ Bool) (first second : List Arc) :
    visitAll visit (first ++ second) = do
      let improved ← visitAll visit first
      let more ← visitAll visit second
      return improved + more := by
  induction first with
  | nil => simp only [List.nil_append, visitAll, pure_bind, Nat.zero_add, bind_pure]
  | cons arc rest ih =>
    simp only [List.cons_append, visitAll, ih, bind_assoc, pure_bind, Nat.add_assoc]

/-- An edge without a target is not passed over. -/
theorem exists_visitEdges_eq_error (visit : Arc → Action σ Bool) (page : PageRef)
    {edges : List Edge} (untargeted : ∃ edge ∈ edges, edge.target = nullAddress)
    (state : σ) :
    ∃ fault rest, visitEdges visit page edges state = .error fault rest := by
  induction edges generalizing state with
  | nil => exact absurd untargeted.choose_spec.1 List.not_mem_nil
  | cons edge rest ih =>
    rw [visitEdges]
    cases visited : visitEdge visit page edge state with
    | error fault after => exact ⟨fault, after, bind_error visited⟩
    | ok improved after =>
      have targeted : edge.target ≠ nullAddress := by
        intro isNull
        rw [visitEdge, isNull, NodeRef.ofWord?_null] at visited
        cases visited
      obtain ⟨other, member, isNull⟩ := untargeted
      have later : other ∈ rest :=
        (List.mem_cons.mp member).resolve_left fun same => targeted (same ▸ isNull)
      obtain ⟨fault, last, failed⟩ := ih ⟨other, later, isNull⟩ after
      exact ⟨fault, last, (bind_ok visited).trans (bind_error failed)⟩

theorem visitAll_keeps
    (keeps : ∀ arc ∈ arcs, ∀ state, Inv state → Inv ((visit arc).outcome state).2)
    (inv : Inv state) : Inv ((visitAll visit arcs).outcome state).2 := by
  induction arcs generalizing state with
  | nil => exact inv
  | cons arc rest ih =>
    have invAfter := keeps arc List.mem_cons_self state inv
    rw [visitAll]
    cases visited : visit arc state with
    | error fault after =>
      rw [outcome_of_error visited] at invAfter
      rw [outcome_of_error (bind_error visited)]
      exact invAfter
    | ok improved after =>
      rw [outcome_of_ok visited] at invAfter
      rw [outcome_bind_ok visited, outcome_map]
      exact ih (fun other member => keeps other (List.mem_cons_of_mem _ member))
        invAfter

/-- While an invariant holds pages show the same, and visits of the arcs that they claim
keep it. -/
structure Visiting (read : PageRef → Action σ Page) (visit : Arc → Action σ Bool)
    (shown : UInt32 → Option Page) (pages : List PageRef) (Inv : σ → Prop) : Prop where
  read_eq_ok : ∀ page ∈ pages, ∀ record, shown page.address = some record →
    ∀ state, Inv state →
    read page state = .ok record state
  read_eq_error : ∀ page ∈ pages, shown page.address = none → ∀ state, Inv state →
    ∃ fault, read page state = .error fault state
  keeps : ∀ arc : Arc, arc.edge ∈ claims shown pages → ∀ state, Inv state →
    Inv ((visit arc).outcome state).2

namespace Visiting

theorem tail (visiting : Visiting read visit shown (page :: pages) Inv)
    (readable : shown page.address = some record) :
    Visiting read visit shown pages Inv where
  read_eq_ok := fun other member =>
    visiting.read_eq_ok other (List.mem_cons_of_mem _ member)
  read_eq_error := fun other member =>
    visiting.read_eq_error other (List.mem_cons_of_mem _ member)
  keeps := fun arc member =>
    visiting.keeps arc (claims_cons readable ▸ List.mem_append_right _ member)

theorem keeps_of_claimed (visiting : Visiting read visit shown (page :: pages) Inv)
    (readable : shown page.address = some record)
    (arcs_eq : arcs.map Arc.edge = record.claimed) :
    ∀ arc ∈ arcs, ∀ state, Inv state → Inv ((visit arc).outcome state).2 := by
  intro arc member
  refine visiting.keeps arc ?_
  rw [claims_cons readable, ← arcs_eq]
  exact List.mem_append_left _ (List.mem_map_of_mem member)

/-- A chain of legible pages that are not overfull is walked to its end, unless a visit
fails. -/
theorem visitChain_eq (visiting : Visiting read visit shown pages Inv) {next : UInt32}
    (chain : PageChain shown next pages) (legible : Legible shown pages)
    (fit : ¬ Overfull shown pages) (arcs_eq : arcs.map Arc.edge = claims shown pages)
    {fuel : Nat} (short : pages.length < fuel) (inv : Inv state) :
    visitChain read visit fuel next state = visitAll visit arcs state := by
  induction chain generalizing arcs fuel state with
  | nil =>
    obtain ⟨fuel, rfl⟩ := Nat.exists_eq_add_of_lt short
    cases List.map_eq_nil_iff.mp arcs_eq
    rfl
  | unreadable unreadable =>
    obtain ⟨record, readable, _⟩ := legible _ List.mem_cons_self
    rw [unreadable] at readable
    cases readable
  | cons readable chain ih =>
    rename_i page record pages
    obtain ⟨fuel, rfl⟩ := Nat.exists_eq_add_of_lt (Nat.zero_lt_of_lt short)
    obtain ⟨_, legibleRest⟩ := legible.of_cons readable
    have fits : ¬ edgesPerPage < record.count.toNat := fun tooMany =>
      fit ⟨page, List.mem_cons_self, record, readable, tooMany⟩
    have fitRest : ¬ Overfull shown pages := fun ⟨other, member, tooMany⟩ =>
      fit ⟨other, List.mem_cons_of_mem _ member, tooMany⟩
    rw [claims_cons readable, List.map_eq_append_iff] at arcs_eq
    obtain ⟨here, behind, rfl, here_eq, behind_eq⟩ := arcs_eq
    rw [Nat.zero_add, visitChain, PageRef.ofWord?_address]
    dsimp only
    rw [bind_ok (visiting.read_eq_ok page List.mem_cons_self record readable state inv),
      if_neg fits, ← here_eq, visitEdges_map_edge, visitAll_append, bind_apply,
      bind_apply]
    have invAfter := visitAll_keeps (visiting.keeps_of_claimed readable here_eq) inv
    cases visited : visitAll visit here state with
    | error fault after => rfl
    | ok improved after =>
      rw [outcome_of_ok visited] at invAfter
      dsimp only
      rw [bind_apply, bind_apply,
        ih (visiting.tail readable) legibleRest fitRest behind_eq
        (by rw [List.length_cons] at short; omega) invAfter]

/-- A chain with a page that is not legible, or that is overfull, is not walked to its
end. -/
theorem exists_visitChain_eq_error (visiting : Visiting read visit shown pages Inv)
    {next : UInt32} (chain : PageChain shown next pages)
    (bad : Legible shown pages → Overfull shown pages) (fuel : Nat) (inv : Inv state) :
    ∃ fault rest, visitChain read visit fuel next state = .error fault rest := by
  induction chain generalizing fuel state with
  | nil =>
    obtain ⟨_, member, _⟩ := bad fun page member => absurd member List.not_mem_nil
    exact absurd member List.not_mem_nil
  | unreadable unreadable =>
    cases fuel with
    | zero => exact ⟨_, _, rfl⟩
    | succ fuel =>
      obtain ⟨fault, failed⟩ :=
        visiting.read_eq_error _ List.mem_cons_self unreadable state inv
      rw [visitChain, PageRef.ofWord?_address]
      exact ⟨fault, state, bind_error failed⟩
  | cons readable chain ih =>
    rename_i page record pages
    cases fuel with
    | zero => exact ⟨_, _, rfl⟩
    | succ fuel =>
      rw [visitChain, PageRef.ofWord?_address]
      dsimp only
      rw [bind_ok
        (visiting.read_eq_ok page List.mem_cons_self record readable state inv)]
      by_cases tooMany : edgesPerPage < record.count.toNat
      · rw [if_pos tooMany]
        exact ⟨_, _, rfl⟩
      rw [if_neg tooMany]
      by_cases targeted : ∀ edge ∈ record.claimed, edge.target ≠ nullAddress
      · -- the page is passed, so the fault is behind it
        obtain ⟨arcs, arcs_eq⟩ := exists_map_edge_eq targeted
        have invAfter := visitAll_keeps (visiting.keeps_of_claimed readable arcs_eq) inv
        rw [← arcs_eq, visitEdges_map_edge]
        cases visited : visitAll visit arcs state with
        | error fault after => exact ⟨fault, after, bind_error visited⟩
        | ok improved after =>
          rw [outcome_of_ok visited] at invAfter
          have badRest : Legible shown pages → Overfull shown pages := by
            intro legible
            obtain ⟨other, member, record', readable', tooMany'⟩ :=
              bad (legible.cons readable targeted)
            rcases List.mem_cons.mp member with rfl | later
            · rw [readable] at readable'
              cases readable'
              exact absurd tooMany' tooMany
            · exact ⟨other, later, record', readable', tooMany'⟩
          obtain ⟨fault, rest, failed⟩ :=
            ih (visiting.tail readable) badRest fuel invAfter
          exact ⟨fault, rest, (bind_ok visited).trans (bind_error failed)⟩
      · obtain ⟨edge, member, isNull⟩ : ∃ edge ∈ record.claimed,
            edge.target = nullAddress := by
          simpa using targeted
        obtain ⟨fault, rest, failed⟩ :=
          exists_visitEdges_eq_error visit page ⟨edge, member, isNull⟩ state
        exact ⟨fault, rest, bind_error failed⟩

end Visiting

end Visits

/-! ## Searches -/

namespace Search

variable (window : Window) (current : NodeRef) (cost : UInt32)

/-- Relax an arc, from a node that has the given cost. -/
def relaxArc (arc : Arc) : Action Workspace Bool := do
  let candidate := addCost cost arc.cost
  let record ← Workspace.onMemory (window.load Node arc.target.address)
  if candidate < record.cost then
    Workspace.onMemory
      (window.store arc.target.address { record with
        cost := candidate, parent := current.address })
    Frontier.push window candidate arc.target
    return true
  else
    return false

/-- Read a page. -/
def readPage (page : PageRef) : Action Workspace Page :=
  Workspace.onMemory (window.load Page page.address)

theorem relaxEdge_eq_visitEdge (page : PageRef) (edge : Edge) :
    relaxEdge window current cost page edge
      = visitEdge (relaxArc window current cost) page edge := by
  rw [relaxEdge, visitEdge]
  cases NodeRef.ofWord? edge.target <;> rfl

theorem relaxEdges_eq_visitEdges (page : PageRef) (edges : List Edge) :
    relaxEdges window current cost page edges
      = visitEdges (relaxArc window current cost) page edges := by
  induction edges with
  | nil => rfl
  | cons edge rest ih => rw [relaxEdges, visitEdges, relaxEdge_eq_visitEdge, ih]

/-- Relaxing the edges on a chain of pages is a walk that relaxes arcs. -/
theorem relaxChain_eq_visitChain (fuel : Nat) (next : UInt32) :
    relaxChain window current cost fuel next
      = visitChain (readPage window) (relaxArc window current cost) fuel next := by
  induction fuel generalizing next with
  | zero => rfl
  | succ fuel ih =>
    simp only [relaxChain, visitChain, relaxEdges_eq_visitEdges, ih]
    rfl

end Search

/-- Two ranges of addresses have none in common. -/
def Apart (first : UInt32) (length : Nat) (second : UInt32)
    (otherLength : Nat) : Prop :=
  first.toNat + length ≤ second.toNat ∨ second.toNat + otherLength ≤ first.toNat

/-- A search has not written where pages lie, and its frontier is where it was. -/
structure Workspace.Spares (workspace : Workspace) (window : Window)
    (frontier : Frontier) (memory : Memory) (pages : List PageRef) : Prop where
  base_eq : workspace.frontier.base = frontier.base
  capacity_eq : workspace.frontier.capacity = frontier.capacity
  size_le : workspace.frontier.size ≤ frontier.capacity
  page_eq : ∀ page ∈ pages, window.record? Page workspace.memory page.address
    = window.record? Page memory page.address

namespace Workspace.Spares

variable {workspace : Workspace} {window : Window} {frontier : Frontier}
  {memory : Memory} {position : Nat}

/-- Pages that lie apart from what is written show the same. -/
theorem of_sameExcept (spares : workspace.Spares window frontier memory pages)
    {after : Workspace} {touched : Nat → Prop}
    (base_eq : after.frontier.base = workspace.frontier.base)
    (capacity_eq : after.frontier.capacity = workspace.frontier.capacity)
    (size_le : after.frontier.size ≤ frontier.capacity)
    (same : Memory.SameExcept touched workspace.memory after.memory)
    (apart : ∀ page ∈ pages, ∀ start, page.address.toNat = window.base.toNat + start →
      ∀ query, start ≤ query → query < start + 72 → ¬ touched query) :
    after.Spares window frontier memory pages where
  base_eq := base_eq.trans spares.base_eq
  capacity_eq := capacity_eq.trans spares.capacity_eq
  size_le := size_le
  page_eq := by
    intro page member
    rw [← spares.page_eq page member, Window.record?, Window.record?]
    cases located : window.locate page.address (Record.size Page) with
    | error fault => rfl
    | ok start =>
      exact congrArg some
        (same.read_eq (apart page member start (Window.locate_eq_ok_iff.mp located).1))

theorem writeNode (spares : workspace.Spares window frontier memory pages)
    {target : UInt32} {place : Nat}
    (located : window.locate target (Record.size Node) = .ok place)
    (apart : ∀ page ∈ pages,
      Apart page.address (Record.size Page) target (Record.size Node))
    (value : Node) :
    Workspace.Spares { workspace with
      memory := Record.write workspace.memory place value } window frontier memory
      pages := by
  have same : Memory.SameExcept
      (fun query => place ≤ query ∧ query < place + 16) workspace.memory
      (Record.write workspace.memory place value) :=
    Memory.sameExcept_write _ _ _ fun query lower upper => ⟨lower, upper⟩
  refine spares.of_sameExcept rfl rfl spares.size_le same ?_
  intro page member start page_eq query lower upper touched
  have target_eq := (Window.locate_eq_ok_iff.mp located).1
  have separate := apart page member
  simp only [Apart, Record.size_page, Record.size_node] at separate
  omega

theorem push (spares : workspace.Spares window frontier memory pages)
    (placed : frontier.Placed window position frontier.capacity)
    (apart : ∀ page ∈ pages, Apart page.address (Record.size Page) frontier.base
      ((frontier.capacity + 1) * Record.size Slot))
    (cost : UInt32) (node : NodeRef) :
    ((Frontier.push window cost node).outcome workspace).2.Spares window frontier memory
      pages := by
  by_cases full : workspace.frontier.size = workspace.frontier.capacity
  · rw [outcome_of_error (Frontier.push_of_full full _ _)]
    exact spares
  · have placedHere : workspace.frontier.Placed window position frontier.capacity :=
      ⟨placed.sound, spares.base_eq.trans placed.base_eq, placed.spans⟩
    have room : workspace.frontier.size < frontier.capacity :=
      Nat.lt_of_le_of_ne spares.size_le (spares.capacity_eq ▸ full)
    obtain ⟨after, pushed, _, same⟩ := placedHere.push_eq room full cost node
    rw [outcome_of_ok pushed]
    refine spares.of_sameExcept rfl rfl room same ?_
    intro page member start page_eq query lower upper touched
    have separate := apart page member
    have stop := placed.spans.le_high
    rw [placed.base_eq, Apart, Window.toNat_address placed.sound (by omega)] at separate
    simp only [Record.size_page, Record.size_slot] at separate
    obtain ⟨_, _⟩ := touched
    omega

/-- Relaxing an arc whose target lies apart from the pages. -/
theorem relaxArc (spares : workspace.Spares window frontier memory pages)
    (placed : frontier.Placed window position frontier.capacity)
    (apartFrontier : ∀ page ∈ pages, Apart page.address (Record.size Page) frontier.base
      ((frontier.capacity + 1) * Record.size Slot))
    (current : NodeRef) (cost : UInt32) {arc : Arc}
    (apartTarget : ∀ page ∈ pages,
      Apart page.address (Record.size Page) arc.target.address (Record.size Node)) :
    ((Search.relaxArc window current cost arc).outcome workspace).2.Spares window
      frontier memory pages := by
  rw [Search.relaxArc]
  cases located : window.locate arc.target.address (Record.size Node) with
  | error fault =>
    have failed : Workspace.onMemory (window.load Node arc.target.address) workspace
        = .error fault workspace :=
      focus_eq_error (Window.load_of_outside located)
    rw [outcome_of_error (bind_error failed)]
    exact spares
  | ok place =>
    have loaded : Workspace.onMemory (window.load Node arc.target.address) workspace
        = .ok (Record.read workspace.memory place) workspace :=
          focus_eq_ok (Window.load_of_locate located)
    rw [outcome_bind_ok loaded]
    split
    · have stored (value : Node) :
          Workspace.onMemory (window.store arc.target.address value) workspace
          = .ok () { workspace with
            memory := Record.write workspace.memory place value } :=
        focus_eq_ok (Window.store_of_locate located value)
      rw [outcome_bind_ok (stored _), outcome_map]
      exact (spares.writeNode located apartTarget _).push placed apartFrontier _ _
    · exact spares

end Workspace.Spares

namespace Graph

variable {graph : Graph} {layout : Layout} {node : NodeRef} {slot : Nat} {next : UInt32}

/-- The page that an address shows to the host, if it lies in the arena. -/
def page? (graph : Graph) : UInt32 → Option Page :=
  graph.arena.window.record? Page graph.memory

theorem load_of_page? {address : UInt32}
    (readable : graph.page? address = some record) :
    load Page address graph = .ok record graph := by
  simp only [load, get_bind_apply]
  exact onMemory_eq_ok (Window.load_of_record? readable)

theorem load_page_eq_error {address : UInt32}
    (unreadable : graph.page? address = none) :
    ∃ fault, load Page address graph = .error fault graph := by
  obtain ⟨fault, failed⟩ := Window.exists_load_eq_error unreadable
  refine ⟨fault, ?_⟩
  simp only [load, get_bind_apply]
  exact onMemory_eq_error failed

/-! ### The listing -/

theorem pageArcs_eq_ok (page : PageRef) (arcs_eq : arcs.map Arc.edge = record.claimed) :
    pageArcs page record = .ok arcs := by
  rw [pageArcs, ← arcs_eq]
  clear arcs_eq
  induction arcs with
  | nil => rfl
  | cons arc rest ih =>
    rw [List.map_cons, List.mapM_cons, ih, Arc.edge, NodeRef.ofWord?_address]
    rfl

theorem pageArcs_eq_error (page : PageRef)
    (untargeted : ∃ edge ∈ record.claimed, edge.target = nullAddress) :
    pageArcs page record = .error (.corrupt page.address.toNat .edgeWithoutTarget) := by
  rw [pageArcs]
  generalize record.claimed = edges at untargeted
  induction edges with
  | nil => exact absurd untargeted.choose_spec.1 List.not_mem_nil
  | cons edge rest ih =>
    rw [List.mapM_cons]
    cases refers : NodeRef.ofWord? edge.target with
    | none => rfl
    | some target =>
      obtain ⟨other, member, isNull⟩ := untargeted
      have later : other ∈ rest := by
        refine (List.mem_cons.mp member).resolve_left fun same => ?_
        rw [← same, isNull, NodeRef.ofWord?_null] at refers
        cases refers
      rw [ih ⟨other, later, isNull⟩]
      rfl

/-- Legible pages are listed, overfull ones too. -/
theorem chainArcs_eq_ok (chain : PageChain graph.page? next pages)
    (legible : Legible graph.page? pages)
    (arcs_eq : arcs.map Arc.edge = claims graph.page? pages) {remaining : Nat}
    (short : pages.length ≤ remaining) :
    chainArcs remaining next graph = .ok arcs graph := by
  induction chain generalizing arcs remaining with
  | nil =>
    cases List.map_eq_nil_iff.mp arcs_eq
    rw [chainArcs]
    rfl
  | unreadable unreadable =>
    obtain ⟨record, readable, _⟩ := legible _ List.mem_cons_self
    rw [unreadable] at readable
    cases readable
  | cons readable chain ih =>
    rename_i page record pages
    obtain ⟨remaining, rfl⟩ :=
      Nat.exists_eq_add_of_lt (Nat.lt_of_lt_of_le (Nat.succ_pos _) short)
    rw [claims_cons readable, List.map_eq_append_iff] at arcs_eq
    obtain ⟨here, behind, rfl, here_eq, behind_eq⟩ := arcs_eq
    have listed := ih (legible.of_cons readable).2 behind_eq
      (show pages.length ≤ remaining by rw [List.length_cons] at short; omega)
    rw [Nat.zero_add, chainArcs, PageRef.ofWord?_address]
    dsimp only
    rw [bind_ok (load_of_page? readable), pageArcs_eq_ok page here_eq,
      liftM_ok_bind_apply, bind_ok listed]
    rfl

theorem exists_chainArcs_eq_error (chain : PageChain graph.page? next pages)
    (bad : ¬ Legible graph.page? pages) (remaining : Nat) :
    ∃ fault, chainArcs remaining next graph = .error fault graph := by
  induction chain generalizing remaining with
  | nil => exact absurd (fun page member => absurd member List.not_mem_nil) bad
  | unreadable unreadable =>
    rw [chainArcs, PageRef.ofWord?_address]
    cases remaining with
    | zero => exact ⟨_, rfl⟩
    | succ remaining =>
      obtain ⟨fault, failed⟩ := load_page_eq_error unreadable
      exact ⟨fault, bind_error failed⟩
  | cons readable chain ih =>
    rename_i page record pages
    rw [chainArcs, PageRef.ofWord?_address]
    cases remaining with
    | zero => exact ⟨_, rfl⟩
    | succ remaining =>
      dsimp only
      rw [bind_ok (load_of_page? readable)]
      by_cases targeted : ∀ edge ∈ record.claimed, edge.target ≠ nullAddress
      · -- the page is listed, so the fault is behind it
        obtain ⟨here, here_eq⟩ := exists_map_edge_eq targeted
        obtain ⟨fault, failed⟩ :=
          ih (fun legible => bad (legible.cons readable targeted)) remaining
        rw [pageArcs_eq_ok page here_eq, liftM_ok_bind_apply, bind_error failed]
        exact ⟨fault, rfl⟩
      · obtain ⟨edge, member, isNull⟩ : ∃ edge ∈ record.claimed,
            edge.target = nullAddress := by
          simpa using targeted
        rw [pageArcs_eq_error page ⟨edge, member, isNull⟩, liftM_error_bind_apply]
        exact ⟨_, rfl⟩

/-- The listing finds nothing wrong with legible pages, and gives what they claim. -/
theorem chainArcs_eq_ok_iff (chain : PageChain graph.page? next pages) {remaining : Nat}
    (short : pages.length ≤ remaining) {after : Graph} :
    chainArcs remaining next graph = .ok arcs after ↔
      after = graph ∧ Legible graph.page? pages ∧
      arcs.map Arc.edge = claims graph.page? pages := by
  by_cases legible : Legible graph.page? pages
  · constructor
    · intro ended
      obtain ⟨others, others_eq⟩ := legible.exists_arcs
      rw [chainArcs_eq_ok chain legible others_eq short] at ended
      cases ended
      exact ⟨rfl, legible, others_eq⟩
    · rintro ⟨rfl, _, arcs_eq⟩
      exact chainArcs_eq_ok chain legible arcs_eq short
  · obtain ⟨fault, failed⟩ := exists_chainArcs_eq_error chain legible remaining
    rw [failed]
    constructor
    · intro ended
      cases ended
    · rintro ⟨_, otherwise, _⟩
      exact absurd otherwise legible

theorem arcs_eq_ok_iff (laidOut : graph.LaidOut layout)
    (bounded : graph.nodeCount ≤ graph.config.nodeBound)
    (inSlot : graph.InSlot node slot)
    (chain : PageChain graph.page? (graph.recordAt slot).firstPage pages)
    (short : pages.length ≤ graph.pageCount) (list : List Arc) (after : Graph) :
    Graph.arcs node graph = .ok list after ↔
      after = graph ∧ Legible graph.page? pages ∧
      list.map Arc.edge = claims graph.page? pages := by
  rw [Graph.arcs, bind_ok (laidOut.nodeRecord_of_inSlot bounded inSlot), get_bind_apply]
  exact chainArcs_eq_ok_iff chain (Nat.le_succ_of_le short)

/-! ### What a search looks at -/

/-- Read a page, for a search that takes down what it looks at. -/
def notePage (page : PageRef) : Action (Graph × List Arc) Page :=
  onFirst (load Page page.address)

/-- Take down an arc instead of relaxing it. -/
def noteArc (arc : Arc) : Action (Graph × List Arc) Bool := do
  onSecond (modify (· ++ [arc]))
  return false

/-- The arcs that a search looks at on a chain of pages, if all it does is to take them
down. -/
def scan (graph : Graph) (next : UInt32) : Except Fault (List Arc) :=
  match visitChain notePage noteArc Search.chainFuel next (graph, []) with
  | .ok _ (_, notes) => .ok notes
  | .error fault _ => .error fault

theorem visitAll_noteArc (arcs notes : List Arc) :
    visitAll noteArc arcs (graph, notes) = .ok 0 (graph, notes ++ arcs) := by
  induction arcs generalizing notes with
  | nil =>
    rw [List.append_nil]
    rfl
  | cons arc rest ih =>
    have noted : noteArc arc (graph, notes) = .ok false (graph, notes ++ [arc]) := rfl
    rw [visitAll, bind_ok noted, bind_ok (ih _), List.append_assoc]
    rfl

theorem visiting_note (graph : Graph) (pages : List PageRef) :
    Visiting notePage noteArc graph.page? pages fun state => state.1 = graph where
  read_eq_ok := by
    rintro page _ record readable ⟨_, notes⟩ rfl
    exact onFirst_eq_ok (load_of_page? readable)
  read_eq_error := by
    rintro page _ unreadable ⟨_, notes⟩ rfl
    obtain ⟨fault, failed⟩ := load_page_eq_error unreadable
    exact ⟨fault, onFirst_eq_error failed⟩
  keeps := by
    rintro arc _ ⟨_, notes⟩ rfl
    rfl

/-- A search finds nothing wrong with legible pages that are not overfull, and looks at
what they claim. -/
theorem scan_eq_ok_iff (chain : PageChain graph.page? next pages)
    (short : pages.length < Search.chainFuel) (arcs : List Arc) :
    graph.scan next = .ok arcs ↔ Legible graph.page? pages ∧
    ¬ Overfull graph.page? pages ∧
      arcs.map Arc.edge = claims graph.page? pages := by
  have visiting := visiting_note graph pages
  by_cases good : Legible graph.page? pages ∧ ¬ Overfull graph.page? pages
  · obtain ⟨legible, fit⟩ := good
    have scanned {arcs : List Arc}
        (arcs_eq : arcs.map Arc.edge = claims graph.page? pages) :
        graph.scan next = .ok arcs := by
      rw [scan, visiting.visitChain_eq chain legible fit arcs_eq short
        (show (graph, []).1 = graph from rfl), visitAll_noteArc]
      rfl
    obtain ⟨others, others_eq⟩ := legible.exists_arcs
    constructor
    · intro ended
      rw [scanned others_eq] at ended
      cases ended
      exact ⟨legible, fit, others_eq⟩
    · rintro ⟨_, _, arcs_eq⟩
      exact scanned arcs_eq
  · obtain ⟨fault, rest, failed⟩ := visiting.exists_visitChain_eq_error chain
      (fun legible => by_contra fun fit => good ⟨legible, fit⟩) Search.chainFuel
        (show (graph, []).1 = graph from rfl)
    rw [scan, failed]
    constructor
    · intro ended
      cases ended
    · rintro ⟨legible, fit, _⟩
      exact absurd ⟨legible, fit⟩ good

/-! ### Relaxing -/

/-- Pages lie apart from all that relaxing their edges can write: the slots of the
frontier and the records of the targets. -/
structure Aside (graph : Graph) (pages : List PageRef) : Prop where
  frontier : ∀ page ∈ pages, Apart page.address (Record.size Page) graph.frontier.base
    ((graph.frontier.capacity + 1) * Record.size Slot)
  target : ∀ page ∈ pages, ∀ edge ∈ claims graph.page? pages,
    Apart page.address (Record.size Page) edge.target (Record.size Node)

theorem LaidOut.frontier_placed (laidOut : graph.LaidOut layout) :
    graph.frontier.Placed graph.arena.window layout.frontier
      graph.frontier.capacity where
  sound := laidOut.arena_sound.window_sound
  base_eq := laidOut.frontierBase_eq
  spans := by
    have first := laidOut.low_le_directory
    have second := laidOut.directory_le
    have third := laidOut.frontier_le
    have last := laidOut.floor_le_used
    rw [← laidOut.frontierCapacity_eq] at third
    constructor
    · omega
    · simp only [Arena.window]
      omega

/-- No graph has room for so many pages that a walk along all of them would count as
endless. -/
theorem LaidOut.pageCount_lt (laidOut : graph.LaidOut layout) :
    graph.pageCount < Search.chainFuel := by
  have enough : 72 ≤ graph.pageLength :=
    Arena.le_blockLength laidOut.arena_sound.granule_pos 72
  have whole : graph.pageCount * 72 ≤ graph.pageCount * graph.pageLength :=
    Nat.mul_le_mul_left _ enough
  have used := laidOut.used_eq
  have held := laidOut.arena_sound.used_le_capacity
  have fits := laidOut.arena_sound.base_add_capacity_le
  simp only [UInt32.size] at fits
  simp only [Search.chainFuel, UInt64.size]
  omega

theorem visiting_relax (laidOut : graph.LaidOut layout) (aside : graph.Aside pages)
    (current : NodeRef) (cost : UInt32) :
    Visiting (Search.readPage graph.arena.window)
      (Search.relaxArc graph.arena.window current cost) graph.page? pages
      fun workspace =>
        workspace.Spares graph.arena.window graph.frontier graph.memory pages where
  read_eq_ok := by
    intro page member record readable workspace spares
    rw [Search.readPage, Workspace.onMemory, focus_eq_ok
        (Window.load_of_record? ((spares.page_eq page member).trans readable))]
  read_eq_error := by
    intro page member unreadable workspace spares
    obtain ⟨fault, failed⟩ :=
      Window.exists_load_eq_error ((spares.page_eq page member).trans unreadable)
    refine ⟨fault, ?_⟩
    rw [Search.readPage, Workspace.onMemory, focus_eq_error failed]
  keeps := by
    intro arc claimed workspace spares
    exact spares.relaxArc laidOut.frontier_placed aside.frontier current cost
      fun page member => aside.target page member arc.edge claimed

/-- Relaxing the edges on pages that lie aside is relaxing the arcs of a scan one after
another, and it fails where the scan fails. -/
theorem relaxChain_of_scan (laidOut : graph.LaidOut layout)
    (chain : PageChain graph.page? next pages) (short : pages.length < Search.chainFuel)
    (aside : graph.Aside pages) {size : Nat} (fits : size ≤ graph.frontier.capacity)
    (current : NodeRef) (cost : UInt32) :
    (∀ list, graph.scan next = .ok list →
      Search.relaxChain graph.arena.window current cost Search.chainFuel next
          ⟨{ graph.frontier with size }, graph.memory⟩
        = visitAll (Search.relaxArc graph.arena.window current cost) list
          ⟨{ graph.frontier with size }, graph.memory⟩) ∧
    ((∀ list, graph.scan next ≠ .ok list) → ∃ fault rest,
      Search.relaxChain graph.arena.window current cost Search.chainFuel next
          ⟨{ graph.frontier with size }, graph.memory⟩
        = .error fault rest) := by
  have visiting := visiting_relax laidOut aside current cost
  have spares : Workspace.Spares
      ⟨{ graph.frontier with size }, graph.memory⟩ graph.arena.window graph.frontier
      graph.memory pages := ⟨rfl, rfl, fits, fun _ _ => rfl⟩
  rw [Search.relaxChain_eq_visitChain]
  constructor
  · intro list scanned
    obtain ⟨legible, fit, list_eq⟩ := (scan_eq_ok_iff chain short list).mp scanned
    exact visiting.visitChain_eq chain legible fit list_eq short spares
  · intro notScanned
    refine visiting.exists_visitChain_eq_error chain
      (fun legible => by_contra fun fit => ?_) Search.chainFuel spares
    obtain ⟨list, list_eq⟩ := legible.exists_arcs
    exact notScanned list
      ((scan_eq_ok_iff chain short list).mpr ⟨legible, fit, list_eq⟩)

/-- Whatever the bytes of a graph are that has the shape of one that a program can hold,
the edges of a node are listed exactly if the pages of its chain are legible, and the
scan of a search finds nothing wrong exactly if besides none of them is overfull; both
give the edges that the pages claim, in order. So the two agree unless legible pages are
overfull. As long as it writes on no page of the chain, a search relaxes the arcs of the
scan one after another, and it fails where there is no scan. -/
theorem listing_and_search_agree_unless_overfull {graph shown : Graph}
    {links : List Link} (built : Built graph links)
    (overwritten : ∃ memory, shown = graph.withMemory memory) {node : NodeRef}
    {slot : Nat} (inSlot : shown.InSlot node slot) {pages : List PageRef}
    (chain : PageChain shown.page? (shown.recordAt slot).firstPage pages)
    (short : pages.length ≤ shown.pageCount) :
    (∀ list after, Graph.arcs node shown = .ok list after ↔
      after = shown ∧ Legible shown.page? pages ∧
      list.map Arc.edge = claims shown.page? pages) ∧
    (∀ list, shown.scan (shown.recordAt slot).firstPage = .ok list ↔
      Legible shown.page? pages ∧ ¬ Overfull shown.page? pages ∧
      list.map Arc.edge = claims shown.page? pages) ∧
    ((∀ list, Graph.arcs node shown = .ok list shown ↔
      shown.scan (shown.recordAt slot).firstPage = .ok list) ↔
      ¬ (Legible shown.page? pages ∧ Overfull shown.page? pages)) ∧
    (shown.Aside pages → ∀ size ≤ shown.frontier.capacity, ∀ current cost,
      (∀ list, shown.scan (shown.recordAt slot).firstPage = .ok list →
        Search.relaxChain shown.arena.window current cost Search.chainFuel
            (shown.recordAt slot).firstPage
            ⟨{ shown.frontier with size }, shown.memory⟩
          = visitAll (Search.relaxArc shown.arena.window current cost) list
            ⟨{ shown.frontier with size }, shown.memory⟩) ∧
      ((∀ list, shown.scan (shown.recordAt slot).firstPage ≠ .ok list) → ∃ fault rest,
        Search.relaxChain shown.arena.window current cost Search.chainFuel
            (shown.recordAt slot).firstPage
            ⟨{ shown.frontier with size }, shown.memory⟩
          = .error fault rest)) := by
  obtain ⟨memory, rfl⟩ := overwritten
  obtain ⟨layout, _, content, stores, _⟩ := built.stores
  have bounded : graph.nodeCount ≤ graph.config.nodeBound :=
    stores.nodeCount_eq ▸ stores.nodeCount_le
  have laidOut := stores.toLaidOut.withMemory memory
  have shorter := Nat.lt_of_le_of_lt short laidOut.pageCount_lt
  have listing := arcs_eq_ok_iff laidOut bounded inSlot chain short
  have scanning := scan_eq_ok_iff chain shorter
  refine ⟨listing, scanning, ?_,
    fun aside size fits => relaxChain_of_scan laidOut chain shorter aside fits⟩
  constructor
  · rintro agree ⟨legible, overfull⟩
    obtain ⟨list, list_eq⟩ := legible.exists_arcs
    have scanned := (agree list).mp ((listing list _).mpr ⟨rfl, legible, list_eq⟩)
    exact ((scanning list).mp scanned).2.1 overfull
  · intro fit list
    rw [listing, scanning]
    constructor
    · rintro ⟨_, legible, list_eq⟩
      exact ⟨legible, fun overfull => fit ⟨legible, overfull⟩, list_eq⟩
    · rintro ⟨legible, _, list_eq⟩
      exact ⟨rfl, legible, list_eq⟩

/-- Where the first page of a small graph lies. -/
def firstPage : PageRef := ⟨0x10000140, by decide⟩

/-- A page that claims so many edges. -/
def pageOf (count : UInt32) : Page :=
  ⟨count, 0, (Vector.replicate 8 ⟨0x10000040, 1⟩).set 0 ⟨0x10000050, 5⟩⟩

/-- A graph with another page in place of its first one. -/
def withPageOf (graph : Graph) (count : UInt32) : Graph :=
  graph.withMemory (Record.write graph.memory 320 (pageOf count))

/-- A page with a further edge that nobody added: it is listed, and a search relaxes it
as well. -/
theorem listing_and_search_agree_on_pair :
    ∃ graph shown, Built graph [⟨1, 2, 5⟩] ∧
      (∃ memory, shown = graph.withMemory memory) ∧
      shown.InSlot (.ofWord 0x10000040) 0 ∧
      PageChain shown.page? (shown.recordAt 0).firstPage [firstPage] ∧
      shown.pageCount = 1 ∧ shown.Aside [firstPage] ∧
      Graph.arcs (.ofWord 0x10000040) shown
        = .ok [⟨.ofWord 0x10000050, 5⟩, ⟨.ofWord 0x10000040, 1⟩] shown ∧
      Search.relaxChain shown.arena.window (.ofWord 0x10000040) 0 Search.chainFuel
        (shown.recordAt 0).firstPage
          ⟨{ shown.frontier with size := 0 }, shown.memory⟩
        = visitAll (Search.relaxArc shown.arena.window (.ofWord 0x10000040) 0)
          [⟨.ofWord 0x10000050, 5⟩, ⟨.ofWord 0x10000040, 1⟩]
            ⟨{ shown.frontier with size := 0 }, shown.memory⟩ := by
  obtain ⟨graph, built, inUse, nodesBase_eq, firstPage_eq, readable, onePage, base_eq,
      capacity_eq⟩ :
      ∃ graph, Built graph [⟨1, 2, 5⟩] ∧
        0 < (graph.withPageOf 2).nodeCount ∧
        (graph.withPageOf 2).nodesBase = 0x10000040 ∧
        ((graph.withPageOf 2).recordAt 0).firstPage = firstPage.address ∧
        (graph.withPageOf 2).page? firstPage.address = some (pageOf 2) ∧
        (graph.withPageOf 2).pageCount = 1 ∧
        (graph.withPageOf 2).frontier.base = 0x10000100 ∧
        (graph.withPageOf 2).frontier.capacity = 2 :=
    exists_built ⟨.heap, 0x10000000, 65536, .zeros⟩ 64 ⟨2, 1, .dense 9⟩
      [.addEdge ⟨1, 2, 5⟩] (by decide +kernel)
  have overwritten : ∃ memory, graph.withPageOf 2 = graph.withMemory memory := ⟨_, rfl⟩
  generalize graph.withPageOf 2 = shown at *
  have inSlot : shown.InSlot (.ofWord 0x10000040) 0 := by
    refine ⟨inUse, ?_⟩
    rw [nodesBase_eq]
    rfl
  have chain : PageChain shown.page? (shown.recordAt 0).firstPage [firstPage] :=
    firstPage_eq ▸ .cons readable .nil
  have claims_eq : claims shown.page? [firstPage] = (pageOf 2).claimed :=
    (claims_cons readable).trans (List.append_nil _)
  have legible : Legible shown.page? [firstPage] :=
    Legible.cons (fun _ member => absurd member List.not_mem_nil) readable (by decide)
  have aside : shown.Aside [firstPage] := by
    constructor
    · intro page member
      rw [List.mem_singleton.mp member, base_eq, capacity_eq]
      exact .inr (by decide)
    · intro page member edge claimed
      have below : ∀ edge ∈ (pageOf 2).claimed,
          edge.target.toNat + 16 ≤ firstPage.address.toNat := by decide
      rw [List.mem_singleton.mp member]
      exact .inr (below edge (claims_eq ▸ claimed))
  have list_eq :
      ([⟨.ofWord 0x10000050, 5⟩, ⟨.ofWord 0x10000040, 1⟩] : List Arc).map Arc.edge
      = claims shown.page? [firstPage] := by
    rw [claims_eq]
    decide
  have fit : ¬ Overfull shown.page? [firstPage] := by
    rintro ⟨page, member, record, otherReadable, tooMany⟩
    rw [List.mem_singleton.mp member, readable] at otherReadable
    cases otherReadable
    revert tooMany
    decide
  obtain ⟨listing, scanning, _, relaxing⟩ :=
    listing_and_search_agree_unless_overfull built overwritten inSlot chain
      (by rw [onePage]; exact Nat.le_refl 1)
  exact ⟨graph, shown, built, overwritten, inSlot, chain, onePage, aside,
    (listing _ _).mpr ⟨rfl, legible, list_eq⟩, (relaxing aside 0 (Nat.zero_le _) _ _).1
      _ ((scanning _).mpr ⟨legible, fit, list_eq⟩)⟩

/-- A page that claims nine edges is listed with the eight that it has, and no search
gets past it. -/
theorem overfull_page_is_listed :
    ∃ graph shown, Built graph [⟨1, 2, 5⟩] ∧
      (∃ memory, shown = graph.withMemory memory) ∧
      (Graph.arcs (.ofWord 0x10000040)).result shown
        = .ok (⟨.ofWord 0x10000050, 5⟩ :: List.replicate 7 ⟨.ofWord 0x10000040, 1⟩) ∧
      shown.scan (shown.recordAt 0).firstPage
        = .error (.corrupt 0x10000140 (.overfullPage 9)) ∧
      (search (.ofWord 0x10000040) (.ofWord 0x10000050)).result shown
        = .error (.corrupt 0x10000140 (.overfullPage 9)) := by
  obtain ⟨graph, built, seen⟩ : ∃ graph, Built graph [⟨1, 2, 5⟩] ∧
      (Graph.arcs (.ofWord 0x10000040)).result (graph.withPageOf 9)
        = .ok (⟨.ofWord 0x10000050, 5⟩ :: List.replicate 7 ⟨.ofWord 0x10000040, 1⟩) ∧
      (graph.withPageOf 9).scan ((graph.withPageOf 9).recordAt 0).firstPage
        = .error (.corrupt 0x10000140 (.overfullPage 9)) ∧
      (search (.ofWord 0x10000040) (.ofWord 0x10000050)).result (graph.withPageOf 9)
        = .error (.corrupt 0x10000140 (.overfullPage 9)) :=
    exists_built ⟨.heap, 0x10000000, 65536, .zeros⟩ 64 ⟨2, 1, .dense 9⟩
      [.addEdge ⟨1, 2, 5⟩] (by decide +kernel)
  exact ⟨graph, graph.withPageOf 9, built, ⟨_, rfl⟩, seen⟩

end Graph

end ArenaPaths
