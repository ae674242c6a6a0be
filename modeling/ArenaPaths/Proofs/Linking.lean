import ArenaPaths.Proofs.Building

/-!
# Adding edges

An edge goes on the last page of its source, or on a new page behind that one if it is
full. Either way the chain of the source ends with the new edge and no other chain is
touched, so adding an edge to a graph is adding it to the multigraph that the graph
represents.
-/

namespace ArenaPaths.Graph

variable {graph after : Graph} {layout : Layout} {pages : Nat → List Nat}
  {content : Multigraph}
variable {limits : Multigraph.Limits}

/-! ## Pages -/

/-- The graph after a page was reserved. -/
def paged (graph : Graph) : Graph :=
  { graph with
    arena := graph.arena.grown graph.pageLength, pageCount := graph.pageCount + 1 }

/-- The page that is reserved next. -/
def freshPage (graph : Graph) : UInt32 := graph.arena.window.address graph.arena.used

namespace LaidOut

theorem freshPage_spans (laidOut : graph.LaidOut layout) :
    graph.paged.arena.window.Spans graph.arena.used (Record.size Page) := by
  have enough : 72 ≤ graph.pageLength :=
    Arena.le_blockLength laidOut.arena_sound.granule_pos 72
  refine ⟨laidOut.arena_sound.granule_le_used, ?_⟩
  change graph.arena.used + Record.size Page ≤ graph.arena.used + graph.pageLength
  rw [Record.size_page]
  omega

section Paged

variable (laidOut : graph.LaidOut layout)
  (room : graph.arena.used + graph.pageLength ≤ graph.arena.capacity)
include laidOut room

theorem paged : graph.paged.LaidOut layout :=
  { laidOut with
    arena_sound := laidOut.arena_sound.grown room
    used_eq := by
      have used := laidOut.used_eq
      change graph.arena.used + graph.pageLength
        = layout.floor + (graph.pageCount + 1) * graph.pageLength
      rw [used, Nat.add_one_mul, Nat.add_assoc] }

theorem freshPage_ne_null : graph.freshPage ≠ nullAddress := by
  change graph.paged.arena.window.address graph.arena.used ≠ nullAddress
  exact Window.address_ne_null
    (laidOut.paged room).arena_sound.window_sound laidOut.freshPage_spans (by decide)

/-- A page is reserved as long as there is room for it. -/
theorem createPage_eq_ok : createPage graph
    = .ok ⟨graph.freshPage, laidOut.freshPage_ne_null room⟩ graph.paged := by
  have reserved : onArena (Arena.reserve (Record.size Page)) graph
      = .ok graph.freshPage { graph with
        arena := graph.arena.grown graph.pageLength } :=
    Action.focus_eq_ok (Arena.reserve_eq_ok laidOut.arena_sound room)
  simp only [createPage, Action.bind_ok reserved, Action.modify_bind_apply,
    PageRef.ofWord?_of_ne (laidOut.freshPage_ne_null room)]
  rfl

end Paged

/-- A page that does not fit is refused, and nothing changes. -/
theorem createPage_eq_error (laidOut : graph.LaidOut layout)
    (full : graph.arena.capacity < graph.arena.used + graph.pageLength) :
    createPage graph = .error (.arenaExhausted 72 graph.arena.remaining) graph := by
  have refused : onArena (Arena.reserve (Record.size Page)) graph
      = .error (.arenaExhausted 72 graph.arena.remaining) graph :=
    Action.focus_eq_error (Arena.reserve_eq_error laidOut.arena_sound full)
  exact Action.bind_error refused

end LaidOut

/-- A page that is reserved counts against the same room as before. -/
theorem kin_paged (room : graph.arena.used + graph.pageLength ≤ graph.arena.capacity) :
    Kin graph graph.paged := by
  have sameRoom : graph.paged.arena.remaining + graph.paged.pageCount * graph.pageLength
      = graph.arena.remaining + graph.pageCount * graph.pageLength := by
    change graph.arena.capacity - (graph.arena.used + graph.pageLength)
      + (graph.pageCount + 1) * graph.pageLength
      = graph.arena.capacity - graph.arena.used + graph.pageCount * graph.pageLength
    rw [Nat.add_one_mul]
    omega
  exact ⟨rfl, congrArg (fun room => { graph.limits with room }) sameRoom⟩

theorem get_paged_of_lt {query : Nat} (earlier : query < graph.arena.used) :
    graph.paged.memory.get query = graph.memory.get query := by
  change (graph.arena.memory.clear graph.arena.used graph.pageLength).get query = _
  rw [Memory.get_clear, if_neg (by omega)]
  rfl

/-- A record in front of a new page stays as it is. -/
theorem read_paged {α : Type} [Record α] [Record.Lawful α] {position : Nat}
    (earlier : position + Record.size α ≤ graph.arena.used) :
    (Record.read graph.paged.memory position : α) = Record.read graph.memory position :=
  Record.read_congr fun query _ upper => get_paged_of_lt (by omega)

/-- A new page is blank. -/
theorem read_freshPage (sound : graph.arena.Sound) :
    (Record.read graph.paged.memory graph.arena.used : Page) = Page.blank := by
  have enough : 72 ≤ graph.pageLength := Arena.le_blockLength sound.granule_pos 72
  rw [Record.read_of_zero, Page.read_zeros]
  intro query lower upper
  rw [Record.size_page] at upper
  change (graph.arena.memory.clear graph.arena.used graph.pageLength).get query = 0
  rw [Memory.get_clear, if_pos ⟨lower, by omega⟩]

/-! ## The page for a further edge -/

/-- The last page of a chain is found by following it. -/
theorem lastPageFrom_eq (sound : graph.arena.Sound) {positions : List Nat}
    {word : UInt32} {edges : List Edge}
    (chain : Chain graph.arena.window.address graph.memory positions word edges)
    (present : positions ≠ [])
    (spans : ∀ position ∈ positions, graph.arena.window.Spans position 72)
    {remaining : Nat} (enough : positions.length ≤ remaining) (first : PageRef)
    {current : PageRef} (refers : current.address = word) :
    ∃ last : PageRef,
      last.address = graph.arena.window.address (positions.getLast present) ∧
      lastPageFrom first remaining current graph = .ok last graph := by
  induction positions generalizing word edges remaining current with
  | nil => exact absurd rfl present
  | cons position rest ih =>
    obtain ⟨remaining, rfl⟩ : ∃ less, remaining = less + 1 :=
      ⟨remaining - 1, by simp at enough; omega⟩
    obtain ⟨rfl, _, _, _, tail⟩ := chain
    have span := spans position List.mem_cons_self
    have loaded : load Page current.address graph
        = .ok (Record.read graph.memory position) graph := by
      rw [refers]
      exact load_eq sound span (by decide)
    cases rest with
    | nil =>
      obtain ⟨noNext, _⟩ := tail
      refine ⟨current, refers, ?_⟩
      simp only [lastPageFrom, Action.bind_ok loaded, noNext, PageRef.ofWord?_null,
        Action.pure_apply]
    | cons following others =>
      have referred := tail.1
      have notNull : (Record.read graph.memory position : Page).next ≠ nullAddress := by
        rw [referred]
        exact Window.address_ne_null sound.window_sound (spans following (by simp))
          (by decide)
      obtain ⟨last, lastRefers, found⟩ := ih tail (by simp)
        (fun other member => spans other (List.mem_cons_of_mem _ member))
          (by simpa using enough)
        (show (⟨_, notNull⟩ : PageRef).address = _ from rfl)
      refine ⟨last, ?_, ?_⟩
      · rw [lastRefers]
        rfl
      · simp only [lastPageFrom, Action.bind_ok loaded, PageRef.ofWord?_of_ne notNull]
        exact found

/-! ## Edges -/

/-- A page that is reserved and not used yet does not matter to what is stored. -/
theorem Stores.paged (stores : graph.Stores layout pages content)
    (room : graph.arena.used + graph.pageLength ≤ graph.arena.capacity) :
    graph.paged.Stores layout pages content := by
  have tables : ∀ query, Stretch layout.ids layout.frontier query →
      graph.paged.memory.get query = graph.memory.get query := by
    have frontierEnd := stores.frontier_le
    have floor := stores.floor_le_used
    rintro query ⟨_, upper⟩
    exact get_paged_of_lt (by omega)
  constructor
  case toLaidOut => exact stores.toLaidOut.paged room
  case nodeCount_eq => exact stores.nodeCount_eq
  case nodeCount_le => exact stores.nodeCount_le
  case edgeCount_eq => exact stores.edgeCount_eq
  case edgeCount_le => exact stores.edgeCount_le
  case pageCount_le => exact Nat.le_succ_of_le stores.pageCount_le
  case id_eq => exact stores.id_eq_of_tables tables
  case directory_holds => exact stores.directory_holds_of_tables tables
  case directory_room => exact stores.directory_room
  case pages_eq_nil => exact stores.pages_eq_nil
  case page_eq =>
    intro slot position member
    obtain ⟨index, below, place⟩ := stores.page_eq slot position member
    exact ⟨index, Nat.lt_succ_of_lt below, place⟩
  case pages_nodup => exact stores.pages_nodup
  case pages_disjoint => exact stores.pages_disjoint
  case chain =>
    intro slot inside
    have nodeStop := (stores.node_spans (stores.slot_lt_bound inside)).le_high
    have record_eq : (Record.read graph.paged.memory (layout.nodeAt slot) : Node)
        = Record.read graph.memory (layout.nodeAt slot) := read_paged nodeStop
    have old := stores.chain slot inside
    rw [← record_eq] at old
    apply old.congr
    intro position member
    exact read_paged (stores.page_spans member).1.le_high

/-- A graph stores a further edge once the chain of its source ends with it. -/
theorem Stores.withLink (stores : graph.Stores layout pages content) {link : Link}
    (hasSource : link.source ∈ content.ids) (hasTarget : link.target ∈ content.ids)
    (bound : content.links.length < graph.config.edgeBound)
    (enough : (content.withLink link hasSource hasTarget).pageCount ≤ graph.pageCount)
    {memory : Memory}
    (tables : ∀ query, Stretch layout.ids layout.frontier query →
      memory.get query = graph.memory.get query)
    (links : ∀ slot, slot < content.ids.length → slot ≠ content.slot link.source →
      (Record.read memory (layout.nodeAt slot) : Node).firstPage
      = (Record.read graph.memory (layout.nodeAt slot) : Node).firstPage)
    (others : ∀ slot, slot ≠ content.slot link.source → ∀ position ∈ pages slot,
      (Record.read memory position : Page) = Record.read graph.memory position)
    {own : List Nat}
    (own_eq : ∀ position ∈ own, ∃ index, index < graph.pageCount ∧
      position = layout.floor + index * graph.pageLength)
    (own_nodup : own.Nodup)
    (own_disjoint : ∀ slot, slot ≠ content.slot link.source →
      ∀ position ∈ own, position ∉ pages slot)
    (chain : Chain graph.arena.window.address memory own
      (Record.read memory (layout.nodeAt (content.slot link.source)) : Node).firstPage
      ((content.hops (content.slot link.source)).map (graph.edgeOf layout)
      ++ [graph.edgeOf layout ⟨content.slot link.target, link.cost⟩])) :
    Stores { graph.withMemory memory with edgeCount := graph.edgeCount + 1 } layout
      (Function.update pages (content.slot link.source) own)
        (content.withLink link hasSource hasTarget) := by
  have sourceInside := Multigraph.slot_lt_iff.mpr hasSource
  constructor
  case toLaidOut => exact { stores.toLaidOut.withMemory memory with }
  case nodeCount_eq => exact stores.nodeCount_eq
  case nodeCount_le => exact stores.nodeCount_le
  case edgeCount_eq =>
    change graph.edgeCount + 1 = (content.links ++ [link]).length
    rw [stores.edgeCount_eq, List.length_append, List.length_singleton]
  case edgeCount_le =>
    change (content.links ++ [link]).length ≤ graph.config.edgeBound
    rw [List.length_append, List.length_singleton]
    exact bound
  case pageCount_le => exact enough
  case id_eq => exact stores.id_eq_of_tables tables
  case directory_holds => exact stores.directory_holds_of_tables tables
  case directory_room => exact stores.directory_room
  case pages_eq_nil =>
    intro slot beyond
    change content.ids.length ≤ slot at beyond
    rw [Function.update_of_ne (by omega)]
    exact stores.pages_eq_nil slot beyond
  case page_eq =>
    intro slot position member
    by_cases isSource : slot = content.slot link.source
    · subst isSource
      rw [Function.update_self] at member
      exact own_eq position member
    · rw [Function.update_of_ne isSource] at member
      exact stores.page_eq slot position member
  case pages_nodup =>
    intro slot
    by_cases isSource : slot = content.slot link.source
    · subst isSource
      rw [Function.update_self]
      exact own_nodup
    · rw [Function.update_of_ne isSource]
      exact stores.pages_nodup slot
  case pages_disjoint =>
    intro slot other different position member
    by_cases isSource : slot = content.slot link.source
    · subst isSource
      rw [Function.update_self] at member
      rw [Function.update_of_ne (Ne.symm different)]
      exact own_disjoint other (Ne.symm different) position member
    · rw [Function.update_of_ne isSource] at member
      by_cases otherSource : other = content.slot link.source
      · subst otherSource
        rw [Function.update_self]
        exact fun inOwn => own_disjoint slot isSource position inOwn member
      · rw [Function.update_of_ne otherSource]
        exact stores.pages_disjoint slot other different position member
  case chain =>
    intro slot inside
    by_cases isSource : slot = content.slot link.source
    · subst isSource
      rw [Function.update_self, Multigraph.hops_withLink_self, List.map_append]
      exact chain
    · have old := stores.chain slot inside
      rw [← links slot inside isSource] at old
      rw [Function.update_of_ne isSource, Multigraph.hops_withLink_of_ne isSource]
      exact old.congr (others slot isSource)

/-- A page takes an edge: once it is appended there, the graph stores a multigraph with
no page to spare. -/
def Takes (graph : Graph) (page : PageRef) (layout : Layout) (edge : Edge)
    (content : Multigraph) : Prop :=
  ∃ record final pages, load Page page.address graph = .ok record graph ∧
    store page.address (record.append edge) graph = .ok () final ∧
    Stores { final with edgeCount := final.edgeCount + 1 } layout pages content ∧
    final.pageCount = content.pageCount ∧ Kin graph final

section OpenPage

variable {slot : Nat}

/-- The last page of a chain that is not empty is found and read. -/
theorem Stores.lastPage_eq (stores : graph.Stores layout pages content)
    (inside : slot < content.ids.length) (present : pages slot ≠ []) :
    ∃ first last : PageRef,
      PageRef.ofWord? (Record.read graph.memory (layout.nodeAt slot) : Node).firstPage
        = some first ∧
      last.address = graph.arena.window.address ((pages slot).getLast present) ∧
      lastPage first graph = .ok last graph ∧
      load Page last.address graph
        = .ok (Record.read graph.memory ((pages slot).getLast present)) graph := by
  have chain := stores.chain slot inside
  have notNull : (Record.read graph.memory (layout.nodeAt slot) : Node).firstPage
      ≠ nullAddress := by
    obtain ⟨position, rest, list_eq⟩ := List.exists_cons_of_ne_nil present
    have member : position ∈ pages slot := by rw [list_eq]; exact List.mem_cons_self
    have spans := (stores.page_spans member).1
    rw [list_eq] at chain
    rw [chain.1]
    exact Window.address_ne_null stores.arena_sound.window_sound spans (by decide)
  obtain ⟨last, refers, found⟩ := lastPageFrom_eq stores.arena_sound chain present
    (fun position member => (stores.page_spans member).1)
      (Nat.le_succ_of_le (stores.length_pages_le inside))
    ⟨_, notNull⟩ (show (⟨_, notNull⟩ : PageRef).address = _ from rfl)
  refine ⟨⟨_, notNull⟩, last, PageRef.ofWord?_of_ne notNull, refers, ?_, ?_⟩
  · simp only [lastPage, Action.get_bind_apply]
    exact found
  · rw [refers]
    exact load_eq stores.arena_sound (stores.page_spans (List.getLast_mem present)).1
      (by decide)

/-- The last page is full exactly if the arcs fill all pages. -/
theorem Stores.isFull_lastPage (stores : graph.Stores layout pages content)
    (inside : slot < content.ids.length) (present : pages slot ≠ []) :
    (Record.read graph.memory ((pages slot).getLast present) : Page).isFull = true
      ↔ (content.hops slot).length % 8 = 0 := by
  have count := ((stores.chain slot inside).last present).2
  have nonempty := mt (stores.chain slot inside).pages_eq_nil_iff.mpr present
  rw [List.map_eq_nil_iff] at nonempty
  have positive := List.length_pos_iff.mpr nonempty
  rw [List.length_map] at count
  rw [Page.isFull, decide_eq_true_eq, count, edgesPerPage]
  omega

/-- Two different pages do not overlap. -/
theorem Stores.pages_apart (stores : graph.Stores layout pages content)
    {otherSlot position other : Nat} (here : position ∈ pages slot)
    (there : other ∈ pages otherSlot) (different : position ≠ other) :
    position + 72 ≤ other ∨ other + 72 ≤ position := by
  have enough : 72 ≤ graph.pageLength :=
    Arena.le_blockLength stores.arena_sound.granule_pos 72
  obtain ⟨index, _, rfl⟩ := stores.page_eq _ _ here
  obtain ⟨otherIndex, _, rfl⟩ := stores.page_eq _ _ there
  rcases Nat.lt_trichotomy index otherIndex with before | same | behind
  · have next := Nat.mul_le_mul_right graph.pageLength (Nat.succ_le_of_lt before)
    rw [Nat.succ_mul] at next
    exact .inl (by omega)
  · exact absurd (by rw [same]) different
  · have next := Nat.mul_le_mul_right graph.pageLength (Nat.succ_le_of_lt behind)
    rw [Nat.succ_mul] at next
    exact .inr (by omega)

/-- Pages lie behind the records of all nodes. -/
theorem Stores.node_le_page (stores : graph.Stores layout pages content)
    {other position : Nat} (inside : other < content.ids.length)
    (member : position ∈ pages slot) : layout.nodeAt other + 16 ≤ position := by
  have withinBound := stores.slot_lt_bound inside
  have behind := (stores.page_spans member).2
  have nodesEnd := stores.nodes_le
  have idsEnd := stores.ids_le
  have directoryEnd := stores.directory_le
  have frontierEnd := stores.frontier_le
  simp only [Layout.nodeAt]
  omega

/-- If the arcs of a node do not fill all of its pages, the last page takes the next
one. -/
theorem Stores.openPage_of_open (stores : graph.Stores layout pages content)
    (inside : slot < content.ids.length)
    (notFilled : (content.hops slot).length % 8 ≠ 0) :
    ∃ (present : pages slot ≠ []) (page : PageRef),
      page.address = graph.arena.window.address ((pages slot).getLast present) ∧
      openPage (graph.nodeOf layout slot) graph = .ok page graph := by
  have present : pages slot ≠ [] := by
    intro empty
    have noArcs := (stores.chain slot inside).pages_eq_nil_iff.mp empty
    rw [List.map_eq_nil_iff] at noArcs
    rw [noArcs] at notFilled
    exact notFilled rfl
  obtain ⟨first, last, named, refers, found, loaded⟩ :=
    stores.lastPage_eq inside present
  have notFull := mt (stores.isFull_lastPage inside present).mp notFilled
  refine ⟨present, last, refers, ?_⟩
  have record := stores.nodeRecord_nodeOf inside
  rw [nodeRecord] at record
  simp only [openPage, Action.bind_ok record, named, Action.bind_ok found,
    Action.bind_ok loaded, if_neg notFull, Action.pure_apply]

/-- If the arcs of a node fill all of its pages and there is no room for another, the
next arc is refused. -/
theorem Stores.openPage_eq_error (stores : graph.Stores layout pages content)
    (inside : slot < content.ids.length) (filled : (content.hops slot).length % 8 = 0)
    (full : graph.arena.capacity < graph.arena.used + graph.pageLength) :
    openPage (graph.nodeOf layout slot) graph
      = .error (.arenaExhausted 72 graph.arena.remaining) graph := by
  have record := stores.nodeRecord_nodeOf inside
  rw [nodeRecord] at record
  have refused := stores.createPage_eq_error full
  by_cases present : pages slot = []
  · have chain := stores.chain slot inside
    rw [present] at chain
    simp only [openPage, Action.bind_ok record, chain.1, PageRef.ofWord?_null]
    exact Action.bind_error refused
  · obtain ⟨first, last, named, refers, found, loaded⟩ :=
      stores.lastPage_eq inside present
    have isFull := (stores.isFull_lastPage inside present).mpr filled
    simp only [openPage, Action.bind_ok record, named, Action.bind_ok found,
      Action.bind_ok loaded, if_pos isFull]
    exact Action.bind_error refused

/-- The memory in which a new page is linked to a node: from its record if it has no
page yet, else from the last of its pages. -/
def linked (graph : Graph) (layout : Layout) (positions : List Nat)
    (slot : Nat) : Memory :=
  if present : positions = [] then
    Record.write graph.paged.memory (layout.nodeAt slot)
      { (Record.read graph.memory (layout.nodeAt slot) : Node) with
        firstPage := graph.freshPage }
  else
    Record.write graph.paged.memory (positions.getLast present)
      { (Record.read graph.memory (positions.getLast present) : Page) with
        next := graph.freshPage }

/-- If the arcs of a node fill all of its pages and there is room for another, a new
page is linked to the node. -/
theorem Stores.openPage_of_filled (stores : graph.Stores layout pages content)
    (inside : slot < content.ids.length) (filled : (content.hops slot).length % 8 = 0)
    (room : graph.arena.used + graph.pageLength ≤ graph.arena.capacity) :
    openPage (graph.nodeOf layout slot) graph
      = .ok ⟨graph.freshPage, stores.freshPage_ne_null room⟩
          (graph.paged.withMemory (graph.linked layout (pages slot) slot)) := by
  have record := stores.nodeRecord_nodeOf inside
  rw [nodeRecord] at record
  have created := stores.createPage_eq_ok room
  have storesPaged := stores.paged room
  by_cases present : pages slot = []
  · have chain := stores.chain slot inside
    rw [present] at chain
    rw [linked, dif_pos present]
    simp only [openPage, Action.bind_ok record, chain.1, PageRef.ofWord?_null,
      Action.bind_ok created]
    have address := stores.address_nodeOf (stores.slot_lt_bound inside)
    have stored := store_eq storesPaged.arena_sound
        (storesPaged.node_spans (stores.slot_lt_bound inside)) (by decide)
      { (Record.read graph.memory (layout.nodeAt slot) : Node) with
        firstPage := graph.freshPage }
    rw [address]
    exact Action.bind_ok stored
  · obtain ⟨first, last, named, refers, found, loaded⟩ :=
      stores.lastPage_eq inside present
    have isFull := (stores.isFull_lastPage inside present).mpr filled
    rw [linked, dif_neg present]
    simp only [openPage, Action.bind_ok record, named, Action.bind_ok found,
      Action.bind_ok loaded, if_pos isFull, Action.bind_ok created]
    have stored := store_eq storesPaged.arena_sound
        (storesPaged.page_spans (List.getLast_mem present)).1 (by decide)
      { (Record.read graph.memory ((pages slot).getLast present) : Page) with
        next := graph.freshPage }
    rw [refers]
    exact Action.bind_ok stored

variable {link : Link} {hasSource : link.source ∈ content.ids}
  {hasTarget : link.target ∈ content.ids}

/-- An open last page takes an edge. -/
theorem Stores.takes_of_open (stores : graph.Stores layout pages content)
    (bound : content.links.length < graph.config.edgeBound)
    (tight : graph.pageCount = content.pageCount)
    (notFilled : (content.hops (content.slot link.source)).length % 8 ≠ 0)
    (present : pages (content.slot link.source) ≠ []) {page : PageRef}
    (refers : page.address = graph.arena.window.address
      ((pages (content.slot link.source)).getLast present)) :
    graph.Takes page layout (graph.edgeOf layout ⟨content.slot link.target, link.cost⟩)
      (content.withLink link hasSource hasTarget) := by
  have sourceInside := Multigraph.slot_lt_iff.mpr hasSource
  have member := List.getLast_mem present
  obtain ⟨last, last_eq⟩ :
      ∃ last, last = (pages (content.slot link.source)).getLast present := ⟨_, rfl⟩
  rw [← last_eq] at refers member
  obtain ⟨spans, behind⟩ := stores.page_spans member
  have frontierEnd := stores.frontier_le
  have samePages : (content.withLink link hasSource hasTarget).pageCount
      = content.pageCount := by
    rw [Multigraph.hops_slot hasSource, List.length_map] at notFilled
    rw [Multigraph.pageCount_withLink, if_neg notFilled, Nat.add_zero]
  refine ⟨Record.read graph.memory last,
    graph.withMemory (Record.write graph.memory last
    ((Record.read graph.memory last : Page).append
      (graph.edgeOf layout ⟨content.slot link.target, link.cost⟩))),
    Function.update pages (content.slot link.source) (pages (content.slot link.source)),
    ?_, ?_, ?_, tight.trans samePages.symm, kin_withMemory ..⟩
  · rw [refers]
    exact load_eq stores.arena_sound spans (by decide)
  · rw [refers]
    exact store_eq stores.arena_sound spans (by decide) _
  · apply stores.withLink hasSource hasTarget bound
    case enough => exact Nat.le_of_eq (samePages.trans tight.symm)
    case tables =>
      intro query within
      have stop := within.2
      exact Record.get_write _ _ (by omega)
    case links =>
      intro slot inside _
      rw [Record.read_write_of_disjoint _ _ (.inl (stores.node_le_page inside member))]
    case others =>
      intro slot different position inPages
      apply Record.read_write_of_disjoint
      apply stores.pages_apart inPages member
      rintro rfl
      exact stores.pages_disjoint slot _ different _ inPages member
    case own_eq => exact stores.page_eq _
    case own_nodup => exact stores.pages_nodup _
    case own_disjoint =>
      intro slot different position inOwn inPages
      exact stores.pages_disjoint slot _ different position inPages inOwn
    case chain =>
      rw [Record.read_write_of_disjoint
        _ _ (.inl (stores.node_le_page sourceInside member))]
      apply (stores.chain _ sourceInside).append_open present (stores.pages_nodup _)
      · rw [List.length_map]
        exact notFilled
      · rw [← last_eq]
        intro position inPages different
        apply Record.read_write_of_disjoint
        exact stores.pages_apart inPages member different
      · rw [← last_eq, Record.read_write]

/-- A new page takes an edge if its link is the only other thing that was written. -/
theorem Stores.takes_of_linked (stores : graph.Stores layout pages content)
    (bound : content.links.length < graph.config.edgeBound)
    (tight : graph.pageCount = content.pageCount)
    (filled : (content.hops (content.slot link.source)).length % 8 = 0)
    (room : graph.arena.used + graph.pageLength ≤ graph.arena.capacity)
    {memory : Memory}
    (tables : ∀ query, Stretch layout.ids layout.frontier query →
      memory.get query = graph.paged.memory.get query)
    (links : ∀ slot, slot < content.ids.length → slot ≠ content.slot link.source →
      (Record.read memory (layout.nodeAt slot) : Node).firstPage
      = (Record.read graph.paged.memory (layout.nodeAt slot) : Node).firstPage)
    (others : ∀ slot, slot ≠ content.slot link.source → ∀ position ∈ pages slot,
      (Record.read memory position : Page) = Record.read graph.paged.memory position)
    (blank : (Record.read memory graph.arena.used : Page) = Page.blank)
    (chain : ∀ after : Memory,
      (∀ query, query < graph.arena.used → after.get query = memory.get query) →
      (Record.read after graph.arena.used : Page) = Page.blank.append (graph.edgeOf
      layout ⟨content.slot link.target, link.cost⟩) → Chain graph.arena.window.address
      after (pages (content.slot link.source) ++ [graph.arena.used])
      (Record.read after (layout.nodeAt (content.slot link.source)) : Node).firstPage
      ((content.hops (content.slot link.source)).map (graph.edgeOf layout)
      ++ [graph.edgeOf layout ⟨content.slot link.target, link.cost⟩])) :
    (graph.paged.withMemory memory).Takes
      ⟨graph.freshPage, stores.freshPage_ne_null room⟩ layout
      (graph.edgeOf layout ⟨content.slot link.target, link.cost⟩)
        (content.withLink link hasSource hasTarget) := by
  have storesPaged := stores.paged room
  have spans := stores.freshPage_spans
  have floor := stores.floor_le_used
  have frontierEnd := stores.frontier_le
  have morePages : (content.withLink link hasSource hasTarget).pageCount
      = graph.pageCount + 1 := by
    rw [Multigraph.hops_slot hasSource, List.length_map] at filled
    rw [Multigraph.pageCount_withLink, if_pos filled, tight]
  have freshPlace : ∃ index, index < graph.pageCount + 1 ∧
      graph.arena.used = layout.floor + index * graph.pageLength :=
    ⟨graph.pageCount, Nat.lt_succ_self _, stores.used_eq⟩
  have notOld : ∀ slot, graph.arena.used ∉ pages slot := by
    intro slot member
    have stop := (stores.page_spans member).1.le_high
    simp only [Arena.window] at stop
    omega
  refine ⟨Record.read memory graph.arena.used,
    graph.paged.withMemory (Record.write memory graph.arena.used
    (Page.blank.append (graph.edgeOf layout ⟨content.slot link.target, link.cost⟩))),
    Function.update pages (content.slot link.source)
      (pages (content.slot link.source) ++ [graph.arena.used]),
    ?_, ?_, ?_, morePages.symm, kin_withMemory (graph.paged.withMemory memory) _⟩
  · exact load_eq (storesPaged.arena_sound.withMemory memory) spans (by decide)
  · rw [blank]
    have soundLinked : (graph.paged.withMemory memory).arena.Sound :=
      storesPaged.arena_sound.withMemory memory
    exact (store_eq soundLinked spans (by decide)
      (Page.blank.append (graph.edgeOf layout ⟨content.slot link.target, link.cost⟩)) :)
  · apply storesPaged.withLink hasSource hasTarget bound
    case enough => exact Nat.le_of_eq morePages
    case tables =>
      intro query within
      have stop := within.2
      rw [Record.get_write _ _ (by omega)]
      exact tables query within
    case links =>
      intro slot inside different
      have stop : _ ≤ graph.arena.used :=
        (stores.node_spans (stores.slot_lt_bound inside)).le_high
      rw [Record.read_write_of_disjoint _ _ (.inl stop)]
      exact links slot inside different
    case others =>
      intro slot different position member
      have stop : _ ≤ graph.arena.used := (stores.page_spans member).1.le_high
      rw [Record.read_write_of_disjoint _ _ (.inl stop)]
      exact others slot different position member
    case own_eq =>
      intro position member
      rcases List.mem_append.mp member with old | isNew
      · exact storesPaged.page_eq _ position old
      · rw [List.mem_singleton] at isNew
        rw [isNew]
        exact freshPlace
    case own_nodup =>
      rw [List.nodup_append]
      refine ⟨stores.pages_nodup _, List.nodup_singleton _, ?_⟩
      intro position old newest isNew same
      rw [List.mem_singleton] at isNew
      exact notOld _ (isNew ▸ same ▸ old)
    case own_disjoint =>
      intro slot different position inOwn inPages
      rcases List.mem_append.mp inOwn with old | isNew
      · exact stores.pages_disjoint slot _ different position inPages old
      · rw [List.mem_singleton] at isNew
        exact notOld slot (isNew ▸ inPages)
    case chain =>
      apply chain
      · intro query below
        exact Record.get_write _ _ (.inl below)
      · exact Record.read_write _ _ _

/-- The first page of a node takes an edge. -/
theorem Stores.takes_of_first (stores : graph.Stores layout pages content)
    (bound : content.links.length < graph.config.edgeBound)
    (tight : graph.pageCount = content.pageCount)
    (filled : (content.hops (content.slot link.source)).length % 8 = 0)
    (room : graph.arena.used + graph.pageLength ≤ graph.arena.capacity)
    (noPages : pages (content.slot link.source) = []) :
    (graph.paged.withMemory
      (Record.write graph.paged.memory (layout.nodeAt (content.slot link.source))
        { (Record.read graph.memory
            (layout.nodeAt (content.slot link.source)) : Node) with
          firstPage := graph.freshPage })).Takes
      ⟨graph.freshPage, stores.freshPage_ne_null room⟩ layout
      (graph.edgeOf layout ⟨content.slot link.target, link.cost⟩)
          (content.withLink link hasSource hasTarget) := by
  have sourceInside := Multigraph.slot_lt_iff.mpr hasSource
  have withinBound := stores.slot_lt_bound sourceInside
  have nodesEnd := stores.nodes_le
  have below : layout.nodeAt (content.slot link.source) + 16 ≤ graph.arena.used :=
    (stores.node_spans withinBound).le_high
  have noArcs := (stores.chain _ sourceInside).pages_eq_nil_iff.mp noPages
  apply stores.takes_of_linked bound tight filled room
  case tables =>
    intro query within
    have start := within.1
    apply Record.get_write
    simp only [Layout.nodeAt, Record.size_node]
    omega
  case links =>
    intro slot inside different
    rw [Record.read_write_of_disjoint]
    simp only [Layout.nodeAt, Record.size_node]
    omega
  case others =>
    intro slot different position member
    exact Record.read_write_of_disjoint
      _ _ (.inr (stores.node_le_page sourceInside member))
  case blank =>
    rw [Record.read_write_of_disjoint _ _ (.inr below)]
    exact read_freshPage stores.arena_sound
  case chain =>
    intro after unchanged fresh
    have linkedRecord :
        (Record.read after (layout.nodeAt (content.slot link.source)) : Node).firstPage
        = graph.arena.window.address graph.arena.used := by
      rw [Record.read_congr fun query _ upper =>
        unchanged query (Nat.lt_of_lt_of_le upper below), Record.read_write]
      rfl
    rw [linkedRecord, noArcs, noPages]
    exact Chain.single fresh

/-- The new page behind the last page of a node takes an edge. -/
theorem Stores.takes_of_further (stores : graph.Stores layout pages content)
    (bound : content.links.length < graph.config.edgeBound)
    (tight : graph.pageCount = content.pageCount)
    (filled : (content.hops (content.slot link.source)).length % 8 = 0)
    (room : graph.arena.used + graph.pageLength ≤ graph.arena.capacity)
    (present : pages (content.slot link.source) ≠ []) :
    (graph.paged.withMemory (Record.write graph.paged.memory
      ((pages (content.slot link.source)).getLast present)
      { (Record.read graph.memory
          ((pages (content.slot link.source)).getLast present) : Page) with
        next := graph.freshPage })).Takes
      ⟨graph.freshPage, stores.freshPage_ne_null room⟩ layout
      (graph.edgeOf layout ⟨content.slot link.target, link.cost⟩)
          (content.withLink link hasSource hasTarget) := by
  have sourceInside := Multigraph.slot_lt_iff.mpr hasSource
  have member := List.getLast_mem present
  obtain ⟨last, last_eq⟩ :
      ∃ last, last = (pages (content.slot link.source)).getLast present := ⟨_, rfl⟩
  rw [← last_eq] at member ⊢
  have behind := (stores.page_spans member).2
  have frontierEnd := stores.frontier_le
  have pageBelow :
      ∀ position ∈ pages (content.slot link.source), position + 72 ≤ graph.arena.used :=
    fun position inPages => (stores.page_spans inPages).1.le_high
  apply stores.takes_of_linked bound tight filled room
  case tables =>
    intro query within
    have below := within.2
    exact Record.get_write _ _ (by omega)
  case links =>
    intro slot inside different
    rw [Record.read_write_of_disjoint _ _ (.inl (stores.node_le_page inside member))]
  case others =>
    intro slot different position inPages
    apply Record.read_write_of_disjoint
    apply stores.pages_apart inPages member
    rintro rfl
    exact stores.pages_disjoint slot _ different _ inPages member
  case blank =>
    rw [Record.read_write_of_disjoint _ _ (.inr (pageBelow last member))]
    exact read_freshPage stores.arena_sound
  case chain =>
    intro after unchanged fresh
    have readAfter : ∀ position ∈ pages (content.slot link.source),
        (Record.read after position : Page)
        = Record.read (Record.write graph.paged.memory last
            { (Record.read graph.memory last : Page) with next := graph.freshPage })
              position :=
      fun position inPages => Record.read_congr fun query _ upper =>
        unchanged query (Nat.lt_of_lt_of_le upper (pageBelow position inPages))
    have recordAfter :
        (Record.read after (layout.nodeAt (content.slot link.source)) : Node)
        = Record.read graph.paged.memory
          (layout.nodeAt (content.slot link.source)) := by
      have below : _ ≤ graph.arena.used :=
        (stores.node_spans (stores.slot_lt_bound sourceInside)).le_high
      rw [Record.read_congr fun query _ upper =>
        unchanged query (Nat.lt_of_lt_of_le upper below), Record.read_write_of_disjoint
          _ _ (.inl (stores.node_le_page sourceInside member))]
    rw [recordAfter]
    apply ((stores.paged room).chain _ sourceInside).append_full present
      (stores.pages_nodup _)
    · rw [List.length_map]
      exact filled
    · rw [← last_eq]
      intro position inPages different
      rw [readAfter position inPages]
      exact Record.read_write_of_disjoint
        _ _ (stores.pages_apart inPages member different)
    · rw [← last_eq, readAfter last member, Record.read_write,
        read_paged (pageBelow last member)]
      rfl
    · exact fresh

/-- The new page for a node takes an edge. -/
theorem Stores.takes_of_filled (stores : graph.Stores layout pages content)
    (bound : content.links.length < graph.config.edgeBound)
    (tight : graph.pageCount = content.pageCount)
    (filled : (content.hops (content.slot link.source)).length % 8 = 0)
    (room : graph.arena.used + graph.pageLength ≤ graph.arena.capacity) :
    (graph.paged.withMemory (graph.linked layout (pages (content.slot link.source))
      (content.slot link.source))).Takes
      ⟨graph.freshPage, stores.freshPage_ne_null room⟩ layout
      (graph.edgeOf layout ⟨content.slot link.target, link.cost⟩)
        (content.withLink link hasSource hasTarget) := by
  by_cases present : pages (content.slot link.source) = []
  · rw [linked, dif_pos present]
    exact stores.takes_of_first bound tight filled room present
  · rw [linked, dif_neg present]
    exact stores.takes_of_further bound tight filled room present

end OpenPage

section AddEdge

variable {link : Link}

/-- What the limits say is left is what the arena has left. -/
theorem Represents.remaining_eq (represents : graph.Represents layout limits content) :
    limits.remaining content = graph.arena.remaining := by
  obtain ⟨⟨pages, stores⟩, tight, rfl⟩ := represents
  change graph.arena.remaining + graph.pageCount * graph.pageLength - content.pageCount
    * graph.pageLength = _
  rw [← tight, Nat.add_sub_cancel]

theorem Represents.pageLength_eq (represents : graph.Represents layout limits content) :
    limits.pageLength = graph.pageLength := by
  rw [← represents.limits_eq]
  rfl

/-- A page for the next arc of a node is opened unless a new one is needed and does not
fit. -/
theorem Represents.openPage (represents : graph.Represents layout limits content)
    (hasSource : link.source ∈ content.ids) (hasTarget : link.target ∈ content.ids)
    (bound : content.links.length < graph.config.edgeBound) :
    if (content.outgoing link.source).length % 8 = 0 ∧
        limits.remaining content < limits.pageLength then
      Graph.openPage (graph.nodeOf layout (content.slot link.source)) graph
        = .error (.arenaExhausted 72 (limits.remaining content)) graph
    else
      ∃ page between, Graph.openPage
          (graph.nodeOf layout (content.slot link.source)) graph = .ok page between ∧
        Kin graph between ∧
        between.Takes page layout
          (graph.edgeOf layout ⟨content.slot link.target, link.cost⟩)
          (content.withLink link hasSource hasTarget) := by
  have inside := Multigraph.slot_lt_iff.mpr hasSource
  have degree : (content.outgoing link.source).length
      = (content.hops (content.slot link.source)).length := by
    rw [Multigraph.hops_slot hasSource, List.length_map]
  rw [represents.remaining_eq, represents.pageLength_eq, degree]
  obtain ⟨⟨pages, stores⟩, tight, _⟩ := represents
  have used := stores.arena_sound.used_le_capacity
  by_cases filled : (content.hops (content.slot link.source)).length % 8 = 0
  · by_cases full : graph.arena.capacity < graph.arena.used + graph.pageLength
    · rw [if_pos ⟨filled, by rw [Arena.remaining]; omega⟩]
      exact stores.openPage_eq_error inside filled full
    · have room := Nat.not_lt.mp full
      rw [if_neg fun both =>
        full (by have less := both.2; rw [Arena.remaining] at less; omega)]
      exact ⟨_, _, stores.openPage_of_filled inside filled room,
        (kin_paged room).trans (kin_withMemory ..),
        stores.takes_of_filled bound tight filled room⟩
  · rw [if_neg fun both => filled both.1]
    obtain ⟨present, page, refers, opened⟩ := stores.openPage_of_open inside filled
    exact ⟨page, graph, opened, .refl graph,
      stores.takes_of_open bound tight filled present refers⟩

/-- Put an edge between two nodes that are there. -/
def attach (source target : NodeRef) (cost : UInt32) : Action Graph Unit := do
  let page ← openPage source
  let record ← load Page page.address
  store page.address (record.append ⟨target.address, cost⟩)
  modify fun graph => { graph with edgeCount := graph.edgeCount + 1 }

/-- Between nodes that are there, an edge is attached unless it needs a new page and
that does not fit. -/
theorem Represents.attach (represents : graph.Represents layout limits content)
    (hasSource : link.source ∈ content.ids) (hasTarget : link.target ∈ content.ids)
    (bound : content.links.length < graph.config.edgeBound) :
    if (content.outgoing link.source).length % 8 = 0 ∧
        limits.remaining content < limits.pageLength then
      Graph.attach (graph.nodeOf layout (content.slot link.source))
        (graph.nodeOf layout (content.slot link.target))
        link.cost graph = .error (.arenaExhausted 72 (limits.remaining content)) graph
    else
      ∃ after, Graph.attach (graph.nodeOf layout (content.slot link.source))
          (graph.nodeOf layout (content.slot link.target)) link.cost graph
            = .ok () after ∧
        after.Represents layout limits (content.connect link) ∧ Kin graph after := by
  have opening := represents.openPage hasSource hasTarget bound
  by_cases exhausted : (content.outgoing link.source).length % 8 = 0 ∧
    limits.remaining content < limits.pageLength
  · rw [if_pos exhausted] at opening ⊢
    exact Action.bind_error opening
  · rw [if_neg exhausted] at opening ⊢
    obtain ⟨page, between, opened, kinOpened, record, final, pages, loaded, stored,
        stores, tight, kinFinal⟩ := opening
    obtain ⟨⟨_, storesBefore⟩, _, limits_eq⟩ := represents
    have targetAddress :=
      storesBefore.address_nodeOf (storesBefore.slot_lt_of_mem hasTarget)
    have kin : Kin graph final := kinOpened.trans kinFinal
    rw [Multigraph.connect_of_mem hasSource hasTarget]
    refine ⟨{ final with edgeCount := final.edgeCount + 1 }, ?_,
      ⟨⟨pages, stores⟩, tight, ?_⟩, ⟨kin.site_eq, kin.limits_eq⟩⟩
    · simp only [Graph.attach, Action.bind_ok opened, Action.bind_ok loaded,
        targetAddress]
      exact Action.bind_ok stored
    · exact kin.limits_eq.trans limits_eq

/-- Adding an edge to a graph is adding it to the multigraph that it represents. -/
theorem Represents.addEdge (represents : graph.Represents layout limits content)
    (link : Link) :
    match Multigraph.addEdge limits link content with
    | .ok _ next =>
      ∃ after, Graph.addEdge link.source link.target link.cost graph = .ok () after ∧
        after.Represents layout limits next ∧ Kin graph after
    | .error fault next =>
      ∃ after, Graph.addEdge link.source link.target link.cost graph
          = .error fault after ∧
        after.Represents layout limits next ∧ Kin graph after := by
  obtain ⟨pages, stores⟩ := represents.stored
  have edgeBound_eq : limits.edgeBound = graph.config.edgeBound := by
    rw [← represents.limits_eq]
    rfl
  have boundLe := stores.edgeCount_le
  by_cases full : content.links.length = limits.edgeBound
  · have fullHere : graph.edgeCount = graph.config.edgeBound := by
      rw [stores.edgeCount_eq, full, edgeBound_eq]
    simp only [Multigraph.addEdge, Action.get_bind_apply, if_pos full,
      Action.throw_bind_apply]
    refine ⟨graph, ?_, represents, .refl graph⟩
    simp only [Graph.addEdge, Action.get_bind_apply, if_pos fullHere,
      Action.throw_bind_apply, edgeBound_eq]
  have notFull : ¬ graph.edgeCount = graph.config.edgeBound := by
    rw [stores.edgeCount_eq, ← edgeBound_eq]
    exact full
  simp only [Multigraph.addEdge, Graph.addEdge, Action.get_bind_apply, if_neg full,
    if_neg notFull]
  have first := represents.addNode link.source
  rcases Multigraph.addNode_cases limits link.source content with
    sourceAdded | ⟨fault, refused⟩
  case inr =>
    rw [refused] at first
    rw [Action.bind_error refused, Action.bind_error first.1]
    exact ⟨graph, rfl, represents, .refl graph⟩
  rw [sourceAdded] at first
  obtain ⟨between, sourceFound, sourceThere, representsSource, kinSource⟩ := first
  rw [Action.bind_ok sourceAdded, Action.bind_ok sourceFound]
  have second := representsSource.addNode link.target
  rcases Multigraph.addNode_cases limits link.target (content.withId link.source) with
    targetAdded | ⟨fault, refused⟩
  case inr =>
    rw [refused] at second
    rw [Action.bind_error refused, Action.bind_error second.1]
    exact ⟨between, rfl, representsSource, kinSource⟩
  rw [targetAdded] at second
  obtain ⟨both, targetFound, targetThere, representsBoth, kinTarget⟩ := second
  rw [Action.bind_ok targetAdded, Action.bind_ok targetFound]
  have kinBoth := kinSource.trans kinTarget
  have sourceStays :
      link.source ∈ ((content.withId link.source).withId link.target).ids :=
    Multigraph.mem_withId.mpr (.inl sourceThere)
  have sourceSlot : ((content.withId link.source).withId link.target).slot link.source
      = (content.withId link.source).slot link.source :=
        Multigraph.slot_withId sourceThere
  rw [← sourceSlot, ← kinBoth.nodeOf_eq, ← kinTarget.nodeOf_eq]
  have bound : ((content.withId link.source).withId link.target).links.length
      < both.config.edgeBound := by
    rw [Multigraph.links_withId, Multigraph.links_withId, kinBoth.edgeBound_eq]
    omega
  have attached := representsBoth.attach sourceStays targetThere bound
  rw [Action.get_bind_apply]
  split at attached
  · rename_i exhausted
    rw [if_pos exhausted]
    exact ⟨both, attached, representsBoth, kinBoth⟩
  · rename_i fits
    rw [if_neg fits]
    obtain ⟨after, attached, representsAfter, kinAfter⟩ := attached
    exact ⟨after, attached, representsAfter, kinBoth.trans kinAfter⟩

end AddEdge

end ArenaPaths.Graph
