import ArenaPaths.Proofs.Dijkstra.Invariant
import ArenaPaths.Proofs.Running
import Mathlib.Algebra.BigOperators.Ring.List
import Mathlib.Algebra.Order.BigOperators.Group.List
import Mathlib.Algebra.Order.Ring.Nat

/-!
# Multigraphs

What a graph in an arena stands for: ids in order of creation and edges in order of
addition, with no memory behind them. Adding to a multigraph under the limits of an
arena succeeds and fails as adding to the graph does, and leaves the same behind; a
failed addition of an edge may have created one or both of its ends.

The nodes of a multigraph also have slots, their places in the order of creation, and
its edges are hops by slots. Walks by ids and walks by slots are the same walks.
-/

namespace ArenaPaths

/-- An edge as it was added. -/
structure Link where
  source : UInt32
  target : UInt32
  cost : UInt32
  deriving DecidableEq, Repr

/-- Ids in order of creation and edges in order of addition. -/
structure Multigraph where
  ids : List UInt32
  links : List Link
  ids_nodup : ids.Nodup
  source_mem : ∀ link ∈ links, link.source ∈ ids
  target_mem : ∀ link ∈ links, link.target ∈ ids

namespace Multigraph

variable {content : Multigraph} {id other : UInt32} {link : Link}

/-- The multigraph without nodes. -/
def empty : Multigraph where
  ids := []
  links := []
  ids_nodup := List.nodup_nil
  source_mem _ member := absurd member List.not_mem_nil
  target_mem _ member := absurd member List.not_mem_nil

/-- The multigraph with a node for an id. -/
def withId (content : Multigraph) (id : UInt32) : Multigraph :=
  if fresh : id ∈ content.ids then content
  else
    { ids := content.ids ++ [id]
      links := content.links
      ids_nodup := by
        rw [List.nodup_append]
        refine ⟨content.ids_nodup, List.nodup_singleton id, ?_⟩
        intro older member newer isNew same
        rw [List.mem_singleton] at isNew
        exact fresh (isNew ▸ same ▸ member)
      source_mem := fun link member =>
        List.mem_append_left _ (content.source_mem link member)
      target_mem := fun link member =>
        List.mem_append_left _ (content.target_mem link member) }

theorem withId_of_mem (present : id ∈ content.ids) : content.withId id = content :=
  dif_pos present

theorem ids_withId_of_not_mem (fresh : id ∉ content.ids) :
    (content.withId id).ids = content.ids ++ [id] := by
  rw [withId, dif_neg fresh]

@[simp] theorem links_withId (content : Multigraph) (id : UInt32) :
    (content.withId id).links = content.links := by
  rw [withId]
  split <;> rfl

theorem mem_withId : other ∈ (content.withId id).ids ↔ other ∈ content.ids ∨
    other = id := by
  by_cases present : id ∈ content.ids
  · rw [withId_of_mem present]
    refine ⟨.inl, ?_⟩
    rintro (already | rfl)
    · exact already
    · exact present
  · rw [ids_withId_of_not_mem present, List.mem_append, List.mem_singleton]

/-- The multigraph with a further edge between nodes that it has. -/
def withLink (content : Multigraph) (link : Link)
    (hasSource : link.source ∈ content.ids)
    (hasTarget : link.target ∈ content.ids) : Multigraph where
  ids := content.ids
  links := content.links ++ [link]
  ids_nodup := content.ids_nodup
  source_mem := by
    intro other member
    rcases List.mem_append.mp member with older | isNew
    · exact content.source_mem other older
    · rw [List.mem_singleton] at isNew
      exact isNew ▸ hasSource
  target_mem := by
    intro other member
    rcases List.mem_append.mp member with older | isNew
    · exact content.target_mem other older
    · rw [List.mem_singleton] at isNew
      exact isNew ▸ hasTarget

/-- The multigraph with a further edge, and with nodes for its ends. -/
def connect (content : Multigraph) (link : Link) : Multigraph :=
  ((content.withId link.source).withId link.target).withLink link
    (mem_withId.mpr (.inl (mem_withId.mpr (.inr rfl))))
    (mem_withId.mpr (.inr rfl))

theorem connect_of_mem (hasSource : link.source ∈ content.ids)
    (hasTarget : link.target ∈ content.ids) :
    content.connect link = content.withLink link hasSource hasTarget := by
  simp only [connect, withId_of_mem hasSource, withId_of_mem hasTarget]

theorem connect_withId (content : Multigraph) (link : Link) :
    ((content.withId link.source).withId link.target).connect link
      = content.connect link :=
  connect_of_mem (mem_withId.mpr (.inl (mem_withId.mpr (.inr rfl))))
    (mem_withId.mpr (.inr rfl))

theorem links_connect (content : Multigraph) (link : Link) :
    (content.connect link).links = content.links ++ [link] := by
  change ((content.withId link.source).withId link.target).links ++ [link] = _
  rw [links_withId, links_withId]

/-- The edges that leave a node, in order of addition. -/
def outgoing (content : Multigraph) (id : UInt32) :
    List Link := content.links.filter fun link => link.source = id

@[simp] theorem outgoing_withId (content : Multigraph) (id other : UInt32) :
    (content.withId id).outgoing other = content.outgoing other := by
  rw [outgoing, links_withId, outgoing]

theorem outgoing_withLink_self {hasSource : link.source ∈ content.ids}
    {hasTarget : link.target ∈ content.ids} :
    (content.withLink link hasSource hasTarget).outgoing link.source
      = content.outgoing link.source ++ [link] := by
  simp [outgoing, withLink]

theorem outgoing_withLink_of_ne {hasSource : link.source ∈ content.ids}
    {hasTarget : link.target ∈ content.ids} (different : other ≠ link.source) :
    (content.withLink link hasSource hasTarget).outgoing other
      = content.outgoing other := by
  simp [outgoing, withLink, Ne.symm different]

theorem outgoing_of_not_mem (absent : id ∉ content.ids) : content.outgoing id = [] := by
  rw [outgoing, List.filter_eq_nil_iff]
  intro link member
  rw [decide_eq_true_eq]
  rintro rfl
  exact absent (content.source_mem link member)

/-! ## Slots -/

/-- The place of an id in the order of creation. -/
def slot (content : Multigraph) (id : UInt32) : Nat := content.ids.idxOf id

theorem slot_lt_iff : content.slot id < content.ids.length ↔ id ∈ content.ids :=
  List.idxOf_lt_length_iff

theorem getElem?_slot (present : id ∈ content.ids) :
    content.ids[content.slot id]? = some id :=
  List.getElem?_idxOf present

theorem slot_eq_of_getElem? {index : Nat} (here : content.ids[index]? = some id) :
    content.slot id = index := by
  obtain ⟨inside, rfl⟩ := List.getElem?_eq_some_iff.mp here
  exact content.ids_nodup.idxOf_getElem index inside

theorem slot_inj (present : id ∈ content.ids) (otherPresent : other ∈ content.ids) :
    content.slot id = content.slot other ↔ id = other := by
  constructor
  · intro same
    have here := getElem?_slot present
    rw [same, getElem?_slot otherPresent, Option.some.injEq] at here
    exact here.symm
  · rintro rfl
    rfl

theorem slot_withId (present : other ∈ content.ids) :
    (content.withId id).slot other = content.slot other := by
  by_cases already : id ∈ content.ids
  · rw [withId_of_mem already]
  · rw [slot, ids_withId_of_not_mem already, List.idxOf_append_of_mem present, slot]

theorem slot_withId_self (fresh : id ∉ content.ids) :
    (content.withId id).slot id = content.ids.length := by
  rw [slot, ids_withId_of_not_mem fresh, List.idxOf_append_of_notMem fresh]
  simp

theorem ids_prefix_withId (content : Multigraph) (id : UInt32) :
    content.ids <+: (content.withId id).ids := by
  by_cases present : id ∈ content.ids
  · rw [withId_of_mem present]
  · rw [ids_withId_of_not_mem present]
    exact List.prefix_append _ _

/-- An id keeps its slot while ids are added behind it. -/
theorem slot_of_grown {next : Multigraph} (grown : content.ids <+: next.ids)
    (present : id ∈ content.ids) :
    next.slot id = content.slot id := by
  obtain ⟨newer, grown⟩ := grown
  rw [slot, ← grown, List.idxOf_append_of_mem present, slot]

/-- The arcs of the node in a slot. -/
def hops (content : Multigraph) (index : Nat) : List Hop :=
  match content.ids[index]? with
  | some id => (content.outgoing id).map fun link =>
    ⟨content.slot link.target, link.cost⟩
  | none => []

theorem hops_of_getElem? {index : Nat} (here : content.ids[index]? = some id) :
    content.hops index = (content.outgoing id).map fun link =>
      ⟨content.slot link.target, link.cost⟩ := by
  rw [hops, here]

theorem hops_slot (present : id ∈ content.ids) :
    content.hops (content.slot id)
      = (content.outgoing id).map fun link => ⟨content.slot link.target, link.cost⟩ :=
  hops_of_getElem? (getElem?_slot present)

theorem mem_of_mem_outgoing (member : link ∈ content.outgoing id) :
    link ∈ content.links ∧ link.source = id := by
  rw [outgoing, List.mem_filter, decide_eq_true_eq] at member
  exact member

theorem inRange (content : Multigraph) :
    Dijkstra.InRange content.hops content.ids.length := by
  intro index inside hop member
  rw [hops_of_getElem? (List.getElem?_eq_getElem inside), List.mem_map] at member
  obtain ⟨link, leaving, rfl⟩ := member
  exact slot_lt_iff.mpr (content.target_mem link (mem_of_mem_outgoing leaving).1)

theorem hops_withId {index : Nat} (inside : index < content.ids.length) :
    (content.withId id).hops index = content.hops index := by
  by_cases already : id ∈ content.ids
  · rw [withId_of_mem already]
  · have here := List.getElem?_eq_getElem inside
    have there : (content.withId id).ids[index]? = some (content.ids[index]) := by
      rw [ids_withId_of_not_mem already, List.getElem?_append_left inside, here]
    rw [hops_of_getElem? here, hops_of_getElem? there, outgoing_withId]
    apply List.map_congr_left
    intro link leaving
    rw [slot_withId (content.target_mem link (mem_of_mem_outgoing leaving).1)]

theorem hops_withId_self (fresh : id ∉ content.ids) :
    (content.withId id).hops content.ids.length = [] := by
  have here : (content.withId id).ids[content.ids.length]? = some id := by
    rw [ids_withId_of_not_mem fresh, List.getElem?_append_right (Nat.le_refl _)]
    simp
  rw [hops_of_getElem? here, outgoing_withId, outgoing_of_not_mem fresh, List.map_nil]

theorem hops_withLink_self {hasSource : link.source ∈ content.ids}
    {hasTarget : link.target ∈ content.ids} :
    (content.withLink link hasSource hasTarget).hops (content.slot link.source)
      = content.hops (content.slot link.source)
        ++ [⟨content.slot link.target, link.cost⟩] := by
  have here := getElem?_slot hasSource
  have there :
      (content.withLink link hasSource hasTarget).ids[content.slot link.source]?
      = some link.source := here
  rw [hops_of_getElem? here, hops_of_getElem? there, outgoing_withLink_self,
    List.map_append]
  rfl

theorem hops_withLink_of_ne {hasSource : link.source ∈ content.ids}
    {hasTarget : link.target ∈ content.ids} {index : Nat}
    (different : index ≠ content.slot link.source) :
    (content.withLink link hasSource hasTarget).hops index = content.hops index := by
  by_cases inside : index < content.ids.length
  · have here := List.getElem?_eq_getElem inside
    have there : (content.withLink link hasSource hasTarget).ids[index]?
        = some (content.ids[index]) := here
    have otherId : content.ids[index] ≠ link.source := by
      intro same
      rw [same] at here
      exact different (slot_eq_of_getElem? here).symm
    rw [hops_of_getElem? here, hops_of_getElem? there, outgoing_withLink_of_ne otherId]
    rfl
  · have nothing := List.getElem?_eq_none (Nat.not_lt.mp inside)
    have nothingMore : (content.withLink link hasSource hasTarget).ids[index]? = none :=
      nothing
    rw [hops, hops, nothing, nothingMore]

/-! ## Walks by ids and by slots -/

/-- Walks along edges between ids. -/
abbrev LinkWalk (links : List Link) (start : UInt32) : UInt32 → Nat → Prop :=
  Walk (fun source target cost => (⟨source, target, cost⟩ : Link) ∈ links) start

theorem mem_hops_iff {index : Nat} {hop : Hop} :
    hop ∈ content.hops index ↔
      ∃ link ∈ content.links, content.slot link.source = index ∧
        hop = ⟨content.slot link.target, link.cost⟩ := by
  constructor
  · intro member
    rw [hops] at member
    split at member
    · rename_i id here
      obtain ⟨link, leaving, rfl⟩ := List.mem_map.mp member
      obtain ⟨isLink, rfl⟩ := mem_of_mem_outgoing leaving
      exact ⟨link, isLink, slot_eq_of_getElem? here, rfl⟩
    · exact absurd member List.not_mem_nil
  · rintro ⟨link, isLink, rfl, rfl⟩
    rw [hops_slot (content.source_mem link isLink)]
    apply List.mem_map.mpr
    exact ⟨link, by simp [outgoing, isLink], rfl⟩

/-- An edge between ids is a hop between their slots, and the other way round. -/
theorem hop_mem_iff {source target cost : UInt32} (hasSource : source ∈ content.ids)
    (hasTarget : target ∈ content.ids) :
    ⟨content.slot target, cost⟩ ∈ content.hops (content.slot source) ↔
    ⟨source, target, cost⟩ ∈ content.links := by
  rw [mem_hops_iff]
  constructor
  · rintro ⟨link, isLink, sameSource, sameHop⟩
    obtain ⟨sameTarget, rfl⟩ := Hop.mk.inj sameHop
    obtain rfl := (slot_inj (content.source_mem link isLink) hasSource).mp sameSource
    obtain rfl := (slot_inj hasTarget (content.target_mem link isLink)).mp sameTarget
    exact isLink
  · intro isLink
    exact ⟨_, isLink, rfl, rfl⟩

/-- Walks by slots are the walks by ids. -/
theorem hopWalk_iff {start goal : UInt32} (hasStart : start ∈ content.ids)
    (hasGoal : goal ∈ content.ids) {total : Nat} :
    Dijkstra.HopWalk content.hops (content.slot start) (content.slot goal) total
      ↔ LinkWalk content.links start goal total := by
  constructor
  · intro walk
    have keeps : ∀ node next cost, (⟨next, cost⟩ : Hop) ∈ content.hops node →
        (⟨content.ids[node]?.getD 0, content.ids[next]?.getD 0, cost⟩ : Link)
          ∈ content.links := by
      intro node next cost member
      obtain ⟨link, isLink, rfl, sameHop⟩ := mem_hops_iff.mp member
      obtain ⟨rfl, rfl⟩ := Hop.mk.inj sameHop
      simp only [getElem?_slot (content.source_mem link isLink),
        getElem?_slot (content.target_mem link isLink), Option.getD_some]
      exact isLink
    have byId : LinkWalk content.links _ _ total :=
      walk.map (fun index => content.ids[index]?.getD 0) keeps
    simpa only [getElem?_slot hasStart, getElem?_slot hasGoal,
      Option.getD_some] using byId
  · intro walk
    refine walk.map content.slot ?_
    intro source target cost isLink
    exact mem_hops_iff.mpr ⟨_, isLink, rfl, rfl⟩

/-! ## Counting edges and pages -/

/-- A sum over ids in which one id counts. -/
private theorem sum_indicator {ids : List UInt32} (nodup : ids.Nodup)
    (present : id ∈ ids) (amount : UInt32 → Nat)
    (elsewhere : ∀ other, other ≠ id → amount other = 0) :
    (ids.map amount).sum = amount id := by
  rw [List.sum_map_eq_nsmul_single id amount fun other different _ =>
    elsewhere other different, List.count_eq_one_of_mem nodup present, one_nsmul]

/-- Every edge leaves exactly one node. -/
theorem sum_outgoing (content : Multigraph) :
    (content.ids.map fun id => (content.outgoing id).length).sum
      = content.links.length := by
  have counted : ∀ links : List Link, (∀ link ∈ links, link.source ∈ content.ids) →
      (content.ids.map fun id => (links.filter fun link => link.source = id).length).sum
        = links.length := by
    intro links
    induction links with
    | nil => simp
    | cons link rest ih =>
      intro sources
      have fewer := ih fun other member => sources other (List.mem_cons_of_mem _ member)
      have own := sum_indicator content.ids_nodup (sources link List.mem_cons_self)
        (fun id => if link.source = id then 1 else 0)
          fun other different => if_neg (Ne.symm different)
      have split : ∀ id, ((link :: rest).filter fun link => link.source = id).length
          = (if link.source = id then 1 else 0)
            + (rest.filter fun link => link.source = id).length := by
        intro id
        rw [List.filter_cons]
        by_cases same : link.source = id
        · simp [same, Nat.add_comm]
        · simp [same]
      simp only [split, List.sum_map_add, fewer]
      rw [own, if_pos rfl, List.length_cons, Nat.add_comm]
  exact counted content.links content.source_mem

/-- All arcs together are the edges. -/
theorem pending_hops (content : Multigraph) :
    Dijkstra.pending content.hops content.ids.length [] = content.links.length := by
  rw [← sum_outgoing, Dijkstra.pending]
  congr 1
  apply List.ext_getElem?
  intro index
  by_cases inside : index < content.ids.length
  · have here := List.getElem?_eq_getElem inside
    simp [inside, hops_of_getElem? here]
  · simp [inside]

/-- Pages that the edges of all nodes take. -/
def pageCount (content : Multigraph) : Nat :=
  (content.ids.map fun id => ((content.outgoing id).length + 7) / 8).sum

theorem pageCount_withId (content : Multigraph) (id : UInt32) :
    (content.withId id).pageCount = content.pageCount := by
  by_cases already : id ∈ content.ids
  · rw [withId_of_mem already]
  · simp [pageCount, ids_withId_of_not_mem already, outgoing_of_not_mem already]

/-- A further edge takes a page exactly if its source has filled all of its pages. -/
theorem pageCount_withLink {hasSource : link.source ∈ content.ids}
    {hasTarget : link.target ∈ content.ids} :
    (content.withLink link hasSource hasTarget).pageCount
      = content.pageCount
        + if (content.outgoing link.source).length % 8 = 0 then 1 else 0 := by
  have own := sum_indicator content.ids_nodup hasSource
    (fun id =>
      if link.source = id then if (content.outgoing id).length % 8 = 0 then 1 else 0
      else 0)
    fun other different => if_neg (Ne.symm different)
  rw [if_pos rfl] at own
  rw [← own, pageCount, pageCount, ← List.sum_map_add]
  congr 1
  apply List.map_congr_left
  intro id _
  by_cases same : link.source = id
  · subst same
    rw [outgoing_withLink_self, List.length_append, List.length_singleton, if_pos rfl]
    split <;> omega
  · rw [outgoing_withLink_of_ne (Ne.symm same), if_neg same]
    rfl

/-- Edges fill at most all places on their pages. -/
theorem length_links_le (content : Multigraph) :
    content.links.length ≤ 8 * content.pageCount := by
  calc content.links.length
      = (content.ids.map fun id => (content.outgoing id).length).sum :=
        content.sum_outgoing.symm
    _ ≤ (content.ids.map fun id => 8 * (((content.outgoing id).length + 7) / 8)).sum :=
        List.sum_le_sum fun id _ => by omega
    _ = 8 * content.pageCount := List.sum_map_mul_left ..

/-! ## Adding under limits -/

/-- What bounds the growth of a graph: its own bounds, the greatest id that its
directory takes, the bytes that the arena has left for pages, and the bytes that a page
takes of them. -/
structure Limits where
  nodeBound : Nat
  edgeBound : Nat
  greatest? : Option UInt32
  room : Nat
  pageLength : Nat

/-- Bytes that are left when a multigraph has been stored. -/
def Limits.remaining (limits : Limits) (content : Multigraph) : Nat :=
  limits.room - content.pageCount * limits.pageLength

/-- Add a node. An id that has one is left alone; else the node bound is checked, then
the greatest id. -/
def addNode (limits : Limits) (id : UInt32) : Action Multigraph Unit := do
  let content ← get
  if id ∈ content.ids then return
  if content.ids.length = limits.nodeBound then
    throw (.boundExceeded "nodes" limits.nodeBound)
  match limits.greatest? with
  | some greatest =>
    if greatest < id then throw (.idBeyondTable id.toNat greatest.toNat)
    set (content.withId id)
  | none => set (content.withId id)

section AddNode

variable {limits : Limits}

theorem addNode_of_mem (present : id ∈ content.ids) :
    addNode limits id content = .ok () content := by
  simp only [addNode, Action.get_bind_apply, if_pos present, Action.pure_apply]

theorem addNode_of_full (absent : id ∉ content.ids)
    (full : content.ids.length = limits.nodeBound) :
    addNode limits id content
      = .error (.boundExceeded "nodes" limits.nodeBound) content := by
  simp only [addNode, Action.get_bind_apply, if_neg absent, if_pos full,
    Action.throw_bind_apply]

theorem addNode_of_beyond {greatest : UInt32} (absent : id ∉ content.ids)
    (room : content.ids.length ≠ limits.nodeBound)
    (bounded : limits.greatest? = some greatest) (beyond : greatest < id) :
    addNode limits id content
      = .error (.idBeyondTable id.toNat greatest.toNat) content := by
  simp only [addNode, Action.get_bind_apply, if_neg absent, if_neg room, bounded,
    if_pos beyond, Action.throw_bind_apply]

theorem addNode_of_fresh (absent : id ∉ content.ids)
    (room : content.ids.length ≠ limits.nodeBound)
    (allowed : ∀ greatest ∈ limits.greatest?, id ≤ greatest) :
    addNode limits id content = .ok () (content.withId id) := by
  simp only [addNode, Action.get_bind_apply, if_neg absent, if_neg room]
  cases bounded : limits.greatest? with
  | none => rfl
  | some greatest =>
    have inside := UInt32.not_lt.mpr (allowed greatest bounded)
    simp only [if_neg inside, Action.set_apply]

/-- Adding a node gives the id a node or fails with nothing changed. -/
theorem addNode_cases (limits : Limits) (id : UInt32) (content : Multigraph) :
    addNode limits id content = .ok () (content.withId id) ∨
      ∃ fault, addNode limits id content = .error fault content := by
  by_cases present : id ∈ content.ids
  · rw [withId_of_mem present]
    exact .inl (addNode_of_mem present)
  by_cases full : content.ids.length = limits.nodeBound
  · exact .inr ⟨_, addNode_of_full present full⟩
  by_cases allowed : ∀ greatest ∈ limits.greatest?, id ≤ greatest
  · exact .inl (addNode_of_fresh present full allowed)
  · simp only [not_forall, UInt32.not_le] at allowed
    obtain ⟨greatest, bounded, beyond⟩ := allowed
    exact .inr ⟨_, addNode_of_beyond present full bounded beyond⟩

end AddNode

/-- Add an edge: the edge bound is checked, then either end is added, then there has to
be room for a page if the source has filled all of its pages. -/
def addEdge (limits : Limits) (link : Link) : Action Multigraph Unit := do
  if (← get).links.length = limits.edgeBound then
    throw (.boundExceeded "edges" limits.edgeBound)
  addNode limits link.source
  addNode limits link.target
  let content ← get
  if (content.outgoing link.source).length % 8 = 0 ∧
    limits.remaining content < limits.pageLength then
    throw (.arenaExhausted 72 (limits.remaining content))
  set (content.connect link)

/-- Adding an edge connects its ends or fails with no more changed than that an end may
have been added. -/
theorem addEdge_cases (limits : Limits) (link : Link) (content : Multigraph) :
    addEdge limits link content = .ok () (content.connect link) ∨
      ∃ fault next, addEdge limits link content = .error fault next ∧
        next.links = content.links ∧
        content.ids <+: next.ids := by
  by_cases full : content.links.length = limits.edgeBound
  · refine .inr ⟨.boundExceeded "edges" limits.edgeBound, content, ?_, rfl,
      List.prefix_rfl⟩
    simp only [addEdge, Action.get_bind_apply, if_pos full, Action.throw_bind_apply]
  simp only [addEdge, Action.get_bind_apply, if_neg full]
  rcases addNode_cases limits link.source content with sourceAdded | ⟨fault, refused⟩
  case inr =>
    exact .inr ⟨fault, content, Action.bind_error refused, rfl, List.prefix_rfl⟩
  have sourceGrown := ids_prefix_withId content link.source
  rw [Action.bind_ok sourceAdded]
  rcases addNode_cases limits link.target (content.withId link.source) with
    targetAdded | ⟨fault, refused⟩
  case inr =>
    exact .inr ⟨fault, _, Action.bind_error refused, links_withId _ _, sourceGrown⟩
  have targetGrown :=
    sourceGrown.trans (ids_prefix_withId (content.withId link.source) link.target)
  rw [Action.bind_ok targetAdded, Action.get_bind_apply]
  split
  · refine .inr ⟨_, (content.withId link.source).withId link.target, rfl, ?_,
      targetGrown⟩
    rw [links_withId, links_withId]
  · exact .inl (congrArg _ (connect_withId content link))

end Multigraph

end ArenaPaths
