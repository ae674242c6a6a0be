import ArenaPaths.Proofs.Access

/-!
# Chains of pages

The edges of a node stand on a chain of pages, eight to a page, and only the last page
may have room left. A chain is described by the positions of its pages in order, so that
two chains are apart if their positions are. What a further edge does to a chain depends
on whether its last page is full.
-/

namespace ArenaPaths

/-! ## Edges on a page -/

namespace Page

/-- A page as it is reserved. -/
def blank : Page := ⟨0, nullAddress, Vector.replicate edgesPerPage ⟨nullAddress, 0⟩⟩

@[simp] theorem next_append (page : Page) (edge : Edge) :
    (page.append edge).next = page.next := rfl

theorem toNat_count_append {page : Page} (room : page.count.toNat < edgesPerPage)
    (edge : Edge) :
    (page.append edge).count.toNat = page.count.toNat + 1 := by
  simp only [edgesPerPage] at room
  simp only [append, UInt32.toNat_add, UInt32.toNat_one]
  omega

/-- A page with room claims a further edge behind the others. -/
theorem claimed_append {page : Page} (room : page.count.toNat < edgesPerPage)
    (edge : Edge) :
    (page.append edge).claimed = page.claimed ++ [edge] := by
  have inside : page.count.toNat < page.edges.toList.length := by simpa using room
  rw [claimed, claimed, toNat_count_append room]
  simp only [append, Vector.toList_setIfInBounds]
  rw [List.take_add_one, List.take_set_of_le (Nat.le_refl _),
    List.getElem?_set_self inside]
  rfl

theorem read_zeros (position : Nat) :
    (Record.read Memory.zeros position : Page) = blank := by
  rw [Record.read_page, Record.read_zeros_word, Record.read_zeros_word]
  have edges :
      (Record.read Memory.zeros (position + edgesOffset) : Vector Edge edgesPerPage)
      = Vector.replicate edgesPerPage ⟨nullAddress, 0⟩ := by
    ext index bound : 1
    rw [Vector.getElem_replicate]
    exact (Vector.getElem_ofFn bound).trans (Record.read_zeros_edge _)
  rw [edges]
  rfl

theorem claimed_blank_append (edge : Edge) : (blank.append edge).claimed = [edge] :=
  claimed_append (by decide) edge

@[simp] theorem count_blank_append (edge : Edge) :
    (blank.append edge).count.toNat = 1 :=
  toNat_count_append (by decide) edge

end Page

/-! ## Chains -/

/-- The pages at the given positions are a chain, to whose first page a word refers, and
hold the edges in order. -/
def Chain (address : Nat → UInt32) (memory : Memory) :
    List Nat → UInt32 → List Edge → Prop
  | [], word, edges => word = nullAddress ∧ edges = []
  | position :: rest, word, edges =>
    word = address position ∧ edges ≠ [] ∧
      (Record.read memory position : Page).count.toNat = min edgesPerPage edges.length ∧
      (Record.read memory position : Page).claimed = edges.take edgesPerPage ∧
      Chain address memory rest (Record.read memory position : Page).next
        (edges.drop edgesPerPage)

namespace Chain

variable {address : Nat → UInt32} {memory after : Memory} {pages : List Nat}
  {word : UInt32} {edges : List Edge}

/-- A chain stays as it is while its pages do. -/
theorem congr (chain : Chain address memory pages word edges)
    (same : ∀ position ∈ pages,
      (Record.read after position : Page) = Record.read memory position) :
    Chain address after pages word edges := by
  induction pages generalizing word edges with
  | nil => exact chain
  | cons position rest ih =>
    obtain ⟨refers, present, count, claimed, tail⟩ := chain
    have here := same position List.mem_cons_self
    refine ⟨refers, present, ?_, ?_, ?_⟩
    · rw [here, count]
    · rw [here, claimed]
    · rw [here]
      exact ih tail fun other member => same other (List.mem_cons_of_mem _ member)

/-- A chain has no more pages than it needs. -/
theorem length_eq (chain : Chain address memory pages word edges) :
    pages.length = (edges.length + 7) / 8 := by
  induction pages generalizing word edges with
  | nil =>
    obtain ⟨_, rfl⟩ := chain
    rfl
  | cons position rest ih =>
    obtain ⟨_, present, _, _, tail⟩ := chain
    have more := ih tail
    have positive := List.length_pos_iff.mpr present
    rw [List.length_drop, edgesPerPage] at more
    rw [List.length_cons]
    omega

theorem length_le (chain : Chain address memory pages word edges) :
    pages.length ≤ edges.length := by
  have pageCount := chain.length_eq
  omega

theorem pages_eq_nil_iff (chain : Chain address memory pages word edges) :
    pages = [] ↔ edges = [] := by
  have pageCount := chain.length_eq
  rw [← List.length_eq_zero_iff, ← List.length_eq_zero_iff]
  omega

/-! ## A further edge -/

/-- What stands on the last page of a chain. -/
theorem last (chain : Chain address memory pages word edges) (present : pages ≠ []) :
    (Record.read memory (pages.getLast present) : Page).next = nullAddress ∧
      (Record.read memory (pages.getLast present) : Page).count.toNat
        = (edges.length + 7) % 8 + 1 := by
  induction pages generalizing word edges with
  | nil => exact absurd rfl present
  | cons position rest ih =>
    obtain ⟨_, nonempty, count, _, tail⟩ := chain
    have positive := List.length_pos_iff.mpr nonempty
    by_cases isLast : rest = []
    · subst isLast
      obtain ⟨noNext, noMore⟩ := tail
      have short := List.drop_eq_nil_iff.mp noMore
      simp only [edgesPerPage] at short count
      simp only [List.getLast_singleton]
      exact ⟨noNext, by omega⟩
    · rw [List.getLast_cons isLast]
      obtain ⟨noNext, lastCount⟩ := ih tail isLast
      have more := mt (pages_eq_nil_iff tail).mpr isLast
      rw [List.drop_eq_nil_iff] at more
      rw [List.length_drop] at lastCount
      simp only [edgesPerPage] at more lastCount
      exact ⟨noNext, by omega⟩

/-- An edge behind a full page goes wherever the chain goes on after that page. -/
theorem cons_append {position : Nat} {rest further : List Nat} {next : UInt32}
    {edge : Edge} (chain : Chain address memory (position :: rest) word edges)
    (full : edgesPerPage ≤ edges.length)
    (page : (Record.read after position : Page)
      = { (Record.read memory position : Page) with next })
    (tail : Chain address after further next (edges.drop edgesPerPage ++ [edge])) :
    Chain address after (position :: further) word (edges ++ [edge]) := by
  obtain ⟨refers, _, count, claimed, _⟩ := chain
  refine ⟨refers, by simp, ?_, ?_, ?_⟩
  · rw [page, count, List.length_append, List.length_singleton]
    omega
  · rw [page, List.take_append_of_le_length full, ← claimed]
    rfl
  · rw [page, List.drop_append_of_le_length full]
    exact tail

/-- An edge goes on the last page of a chain if that has room. -/
theorem append_open (chain : Chain address memory pages word edges)
    (present : pages ≠ []) (distinct : pages.Nodup) (room : edges.length % 8 ≠ 0)
    {edge : Edge}
    (others : ∀ position ∈ pages, position ≠ pages.getLast present →
      (Record.read after position : Page) = Record.read memory position)
    (lastPage : (Record.read after (pages.getLast present) : Page)
      = (Record.read memory (pages.getLast present) : Page).append edge) :
    Chain address after pages word (edges ++ [edge]) := by
  induction pages generalizing word edges with
  | nil => exact absurd rfl present
  | cons position rest ih =>
    have whole := chain
    obtain ⟨refers, nonempty, count, claimed, tail⟩ := chain
    have positive := List.length_pos_iff.mpr nonempty
    obtain ⟨notLater, distinctRest⟩ := List.nodup_cons.mp distinct
    by_cases isLast : rest = []
    · subst isLast
      obtain ⟨noNext, noMore⟩ := tail
      have short : edges.length < edgesPerPage := by
        have atMost := List.drop_eq_nil_iff.mp noMore
        simp only [edgesPerPage] at atMost ⊢
        omega
      have appended : (edges ++ [edge]).length ≤ edgesPerPage := by
        rw [List.length_append, List.length_singleton]
        exact short
      have free : (Record.read memory position : Page).count.toNat < edgesPerPage := by
        omega
      rw [List.getLast_singleton] at lastPage
      refine ⟨refers, by simp, ?_, ?_, ?_⟩
      · rw [lastPage, Page.toNat_count_append free, count, List.length_append,
          List.length_singleton]
        omega
      · rw [lastPage, Page.claimed_append free, claimed,
          List.take_of_length_le (Nat.le_of_lt short), List.take_of_length_le appended]
      · rw [lastPage, Page.next_append]
        exact ⟨noNext, List.drop_eq_nil_iff.mpr appended⟩
    · have more := mt (pages_eq_nil_iff tail).mpr isLast
      rw [List.drop_eq_nil_iff, Nat.not_le] at more
      rw [List.getLast_cons isLast] at lastPage others
      apply cons_append whole (Nat.le_of_lt more)
      · apply others position List.mem_cons_self
        intro same
        exact notLater (same ▸ List.getLast_mem isLast)
      · apply ih tail isLast distinctRest
        · rw [List.length_drop]
          simp only [edgesPerPage] at more ⊢
          omega
        · exact fun other member => others other (List.mem_cons_of_mem _ member)
        · exact lastPage

/-- A page with one edge is a chain. -/
theorem single {position : Nat} {edge : Edge}
    (page : (Record.read memory position : Page) = Page.blank.append edge) :
    Chain address memory [position] (address position) [edge] := by
  refine ⟨rfl, by simp, ?_, ?_, ?_⟩
  · rw [page, Page.count_blank_append]
    rfl
  · rw [page, Page.claimed_blank_append]
    rfl
  · rw [page]
    exact ⟨rfl, rfl⟩

/-- An edge goes on a new page behind the last one if that is full. -/
theorem append_full (chain : Chain address memory pages word edges)
    (present : pages ≠ []) (distinct : pages.Nodup) (full : edges.length % 8 = 0)
    {edge : Edge} {fresh : Nat}
    (others : ∀ position ∈ pages, position ≠ pages.getLast present →
      (Record.read after position : Page) = Record.read memory position)
    (lastPage : (Record.read after (pages.getLast present) : Page)
      = { (Record.read memory (pages.getLast present) : Page) with
      next := address fresh })
    (freshPage : (Record.read after fresh : Page) = Page.blank.append edge) :
    Chain address after (pages ++ [fresh]) word (edges ++ [edge]) := by
  induction pages generalizing word edges with
  | nil => exact absurd rfl present
  | cons position rest ih =>
    have whole := chain
    obtain ⟨_, nonempty, _, _, tail⟩ := chain
    have positive := List.length_pos_iff.mpr nonempty
    obtain ⟨notLater, distinctRest⟩ := List.nodup_cons.mp distinct
    have enough : edgesPerPage ≤ edges.length := by
      simp only [edgesPerPage]
      omega
    by_cases isLast : rest = []
    · subst isLast
      rw [List.getLast_singleton] at lastPage
      apply cons_append whole enough lastPage
      rw [tail.2]
      exact single freshPage
    · rw [List.getLast_cons isLast] at lastPage others
      apply cons_append whole enough
      · apply others position List.mem_cons_self
        intro same
        exact notLater (same ▸ List.getLast_mem isLast)
      · apply ih tail isLast distinctRest
        · rw [List.length_drop]
          simp only [edgesPerPage] at enough ⊢
          omega
        · exact fun other member => others other (List.mem_cons_of_mem _ member)
        · exact lastPage

end Chain

end ArenaPaths
