import Mathlib.Data.Finset.Image
import Mathlib.Data.Multiset.MapFold
import Mathlib.Logic.Equiv.Basic
import Mathlib.Order.Interval.Finset.Nat

/-!
# Heaps on a tape

A binary min-heap on slots numbered from one, apart from any memory. Both sifts carry
the entry to be placed beside a hole; the tape with the hole filled by that entry is
what they keep in view. Moving the hole swaps two slots of the filled tape, so the
entries stay the same as a multiset, and at any time at most one pair of parent and
child is out of order.

The entries are of any type with a key, since nothing else of an entry decides where it
goes.
-/

namespace ArenaPaths.Heap

variable {α β : Type} {key : α → Nat} {size hole : Nat} {tape : Nat → α} {entry : α}

/-- Move the hole up while the entry is strictly cheaper than the parent, then fill
it. -/
def siftUp (key : α → Nat) (tape : Nat → α) (entry : α) (hole : Nat) : Nat → α :=
  if 1 < hole then
    if key (tape (hole / 2)) ≤ key entry then Function.update tape hole entry
    else siftUp key (Function.update tape hole (tape (hole / 2))) entry (hole / 2)
  else Function.update tape hole entry
termination_by hole

/-- The slot of the cheaper child of a hole whose left child is in slot `left`; of two
equal ones the left. -/
def cheaperChild (key : α → Nat) (size : Nat) (tape : Nat → α) (left : Nat) : Nat :=
  if left < size ∧ key (tape (left + 1)) < key (tape left) then left + 1 else left

theorem cheaperChild_cases (key : α → Nat) (size : Nat) (tape : Nat → α) (left : Nat) :
    cheaperChild key size tape left = left ∨
    cheaperChild key size tape left = left + 1 ∧ left < size := by
  simp only [cheaperChild]
  split
  · rename_i isRight
    exact Or.inr ⟨rfl, isRight.1⟩
  · exact Or.inl rfl

/-- Move the hole down while its cheaper child is strictly cheaper than the entry, then
fill it. -/
def siftDown (key : α → Nat) (size : Nat) (tape : Nat → α) (entry : α) (hole : Nat) :
    Nat → α :=
  if 0 < hole ∧ 2 * hole ≤ size then
    if key entry ≤ key (tape (cheaperChild key size tape (2 * hole))) then
      Function.update tape hole entry
    else
      siftDown key size
        (Function.update tape hole (tape (cheaperChild key size tape (2 * hole)))) entry
        (cheaperChild key size tape (2 * hole))
  else Function.update tape hole entry
termination_by size + 1 - hole
decreasing_by
  have cases := cheaperChild_cases key size tape (2 * hole)
  omega

/-- No slot is cheaper than its parent. -/
def Ordered (key : α → Nat) (size : Nat) (tape : Nat → α) : Prop :=
  ∀ index, 2 ≤ index → index ≤ size → key (tape (index / 2)) ≤ key (tape index)

/-- The entries on the first `size` slots. -/
def entries (size : Nat) (tape : Nat → α) :
    Multiset α := (Finset.Icc 1 size).val.map tape

theorem mem_entries {element : α} :
    element ∈ entries size tape ↔ ∃ index, 1 ≤ index ∧ index ≤ size ∧
      tape index = element := by
  simp only [entries, Multiset.mem_map, Finset.mem_val, Finset.mem_Icc, and_assoc]

@[simp] theorem entries_zero (tape : Nat → α) : entries 0 tape = 0 := rfl

theorem entries_congr {other : Nat → α}
    (agree : ∀ index, 1 ≤ index → index ≤ size → tape index = other index) :
    entries size tape = entries size other := by
  apply Multiset.map_congr rfl
  intro index member
  rw [Finset.mem_val, Finset.mem_Icc] at member
  exact agree index member.1 member.2

theorem entries_succ (size : Nat) (tape : Nat → α) :
    entries (size + 1) tape = tape (size + 1) ::ₘ entries size tape := by
  have split : Finset.Icc 1 (size + 1)
      = Finset.cons (size + 1) (Finset.Icc 1 size) (by simp) := by
    ext index
    simp only [Finset.mem_Icc, Finset.mem_cons]
    omega
  simp only [entries, split, Finset.cons_val, Multiset.map_cons]

/-- Swapping two slots changes no entry. -/
theorem entries_swap {left right : Nat} (leftIn : 1 ≤ left ∧ left ≤ size)
    (rightIn : 1 ≤ right ∧ right ≤ size) :
    entries size (tape ∘ Equiv.swap left right) = entries size tape := by
  have within : {index | Equiv.swap left right index ≠ index}
      ⊆ (Finset.Icc 1 size : Set Nat) := by
    intro index moved
    simp only [Set.mem_ofPred_eq] at moved
    by_cases isLeft : index = left
    · simpa [isLeft] using leftIn
    by_cases isRight : index = right
    · simpa [isRight] using rightIn
    exact absurd (Equiv.swap_apply_of_ne_of_ne isLeft isRight) moved
  have same := Finset.map_perm within
  calc entries size (tape ∘ Equiv.swap left right)
      = ((Finset.Icc 1 size).map (Equiv.swap left right : Nat ↪ Nat)).val.map tape := by
        simp [entries, Finset.map_val, Multiset.map_map]
    _ = entries size tape := by rw [same, entries]

/-- Moving the hole to a slot swaps the two slots of the filled tape. -/
theorem fill_move (tape : Nat → α) (entry : α) {target : Nat}
    (different : target ≠ hole) :
    Function.update (Function.update tape hole (tape target)) target entry
      = Function.update tape hole entry ∘ Equiv.swap hole target := by
  funext index
  by_cases isTarget : index = target
  · subst isTarget
    simp
  by_cases isHole : index = hole
  · subst isHole
    simp [isTarget, different]
  simp [isTarget, isHole, Equiv.swap_apply_of_ne_of_ne isHole isTarget]

/-! ## Sifting up -/

/-- The filled tape while the hole moves up: only the pair of the hole and its parent
may be out of order, and what stands below the hole is in order with the parent as
well. -/
structure UpReady (key : α → Nat) (size : Nat) (filled : Nat → α)
    (hole : Nat) : Prop where
  except : ∀ index, 2 ≤ index → index ≤ size → index ≠ hole →
    key (filled (index / 2)) ≤ key (filled index)
  grand : ∀ index, 2 ≤ index → index ≤ size → index / 2 = hole → 1 < hole →
    key (filled (hole / 2)) ≤ key (filled index)

theorem UpReady.move {filled : Nat → α} (ready : UpReady key size filled hole)
    (below : 1 < hole) (inside : hole ≤ size)
    (cheaper : key (filled hole) < key (filled (hole / 2))) :
    UpReady key size (filled ∘ Equiv.swap hole (hole / 2)) (hole / 2) := by
  have atHole : (filled ∘ Equiv.swap hole (hole / 2)) hole = filled (hole / 2) := by
    simp
  have atParent : (filled ∘ Equiv.swap hole (hole / 2)) (hole / 2) = filled hole := by
    simp
  have elsewhere : ∀ index, index ≠ hole → index ≠ hole / 2 →
      (filled ∘ Equiv.swap hole (hole / 2)) index = filled index := by
    intro index notHole notParent
    simp [Equiv.swap_apply_of_ne_of_ne notHole notParent]
  constructor
  · intro index lower upper notParent
    by_cases isHole : index = hole
    · rw [isHole, atHole, atParent]
      exact Nat.le_of_lt cheaper
    rw [elsewhere index isHole notParent]
    by_cases belowHole : index / 2 = hole
    · rw [belowHole, atHole]
      exact ready.grand index lower upper belowHole below
    by_cases sibling : index / 2 = hole / 2
    · have pair := ready.except index lower upper isHole
      rw [sibling] at pair ⊢
      rw [atParent]
      omega
    rw [elsewhere (index / 2) belowHole sibling]
    exact ready.except index lower upper isHole
  · intro index lower upper child positive
    have upward := ready.except (hole / 2) (by omega) (by omega) (by omega)
    rw [elsewhere (hole / 2 / 2) (by omega) (by omega)]
    by_cases isHole : index = hole
    · rw [isHole, atHole]
      exact upward
    rw [elsewhere index isHole (by omega)]
    have pair := ready.except index lower upper isHole
    rw [child] at pair
    omega

theorem UpReady.ordered {filled : Nat → α} (ready : UpReady key size filled hole)
    (stop : 1 < hole → key (filled (hole / 2)) ≤ key (filled hole)) :
    Ordered key size filled := by
  intro index lower upper
  by_cases isHole : index = hole
  · rw [isHole]
    exact stop (by omega)
  · exact ready.except index lower upper isHole

/-- Sifting up orders the heap and keeps the entries of the filled tape. -/
theorem siftUp_spec (positive : 0 < hole) (inside : hole ≤ size)
    (ready : UpReady key size (Function.update tape hole entry) hole) :
    Ordered key size (siftUp key tape entry hole) ∧
      entries size (siftUp key tape entry hole)
        = entries size (Function.update tape hole entry) := by
  fun_induction siftUp key tape entry hole with
  | case1 tape hole below cheap =>
    refine ⟨ready.ordered fun _ => ?_, rfl⟩
    simpa [show hole / 2 ≠ hole by omega] using cheap
  | case2 tape hole below dear ih =>
    have move := fill_move tape entry (show hole / 2 ≠ hole by omega)
    have moved : UpReady key size
        (Function.update (Function.update tape hole (tape (hole / 2))) (hole / 2) entry)
        (hole / 2) := by
      rw [move]
      refine ready.move below inside ?_
      simpa [show hole / 2 ≠ hole by omega] using dear
    obtain ⟨ordered, same⟩ := ih (by omega) (by omega) moved
    refine ⟨ordered, same.trans ?_⟩
    rw [move]
    exact entries_swap ⟨positive, inside⟩ (by omega)
  | case3 tape hole root => exact ⟨ready.ordered fun below => absurd below root, rfl⟩

/-- A new entry behind an ordered heap only has to be put in order with its parent. -/
theorem Ordered.upReady (ordered : Ordered key size tape) (entry : α) :
    UpReady key (size + 1) (Function.update tape (size + 1) entry) (size + 1) := by
  constructor
  · intro index lower upper notLast
    rw [Function.update_of_ne notLast, Function.update_of_ne (by omega)]
    exact ordered index lower (by omega)
  · intro index lower upper child
    omega

/-- Pushing an entry orders the heap again and adds that entry alone. -/
theorem push_spec (ordered : Ordered key size tape) (entry : α) :
    Ordered key (size + 1) (siftUp key tape entry (size + 1)) ∧
      entries (size + 1) (siftUp key tape entry (size + 1))
        = entry ::ₘ entries size tape := by
  obtain ⟨after, same⟩ :=
    siftUp_spec (Nat.succ_pos size) (Nat.le_refl _) (ordered.upReady entry)
  refine ⟨after, same.trans ?_⟩
  rw [entries_succ, Function.update_self]
  congr 1
  apply entries_congr
  intro index _ upper
  exact Function.update_of_ne (by omega) _ _

/-! ## Sifting down -/

/-- The filled tape while the hole moves down: only the pairs of the hole and its
children may be out of order, and the children are in order with the hole's parent. -/
structure DownReady (key : α → Nat) (size : Nat) (filled : Nat → α)
    (hole : Nat) : Prop where
  except : ∀ index, 2 ≤ index → index ≤ size → index / 2 ≠ hole →
    key (filled (index / 2)) ≤ key (filled index)
  grand : ∀ index, 2 ≤ index → index ≤ size → index / 2 = hole → 1 < hole →
    key (filled (hole / 2)) ≤ key (filled index)

theorem DownReady.move {filled : Nat → α} {child : Nat}
    (ready : DownReady key size filled hole) (isChild : child / 2 = hole)
    (inside : child ≤ size)
    (least : ∀ index, 2 ≤ index → index ≤ size → index / 2 = hole →
      key (filled child) ≤ key (filled index))
    (cheaper : key (filled child) < key (filled hole)) :
    DownReady key size (filled ∘ Equiv.swap hole child) child := by
  have atHole : (filled ∘ Equiv.swap hole child) hole = filled child := by simp
  have atChild : (filled ∘ Equiv.swap hole child) child = filled hole := by simp
  have elsewhere : ∀ index, index ≠ hole → index ≠ child →
      (filled ∘ Equiv.swap hole child) index = filled index := by
    intro index notHole notChild
    simp [Equiv.swap_apply_of_ne_of_ne notHole notChild]
  constructor
  · intro index lower upper notBelow
    by_cases isHole : index = hole
    · rw [isHole, atHole, elsewhere (hole / 2) (by omega) (by omega)]
      exact ready.grand child (by omega) inside isChild (by omega)
    by_cases taken : index = child
    · rw [taken, isChild, atHole, atChild]
      exact Nat.le_of_lt cheaper
    rw [elsewhere index isHole taken]
    by_cases sibling : index / 2 = hole
    · rw [sibling, atHole]
      exact least index lower upper sibling
    rw [elsewhere (index / 2) sibling notBelow]
    exact ready.except index lower upper sibling
  · intro index lower upper below _
    rw [isChild, atHole, elsewhere index (by omega) (by omega)]
    have pair := ready.except index lower upper (by omega)
    rw [below] at pair
    exact pair

theorem DownReady.ordered {filled : Nat → α} (ready : DownReady key size filled hole)
    (stop : ∀ index, 2 ≤ index → index ≤ size → index / 2 = hole →
      key (filled hole) ≤ key (filled index)) :
    Ordered key size filled := by
  intro index lower upper
  by_cases below : index / 2 = hole
  · rw [below]
    exact stop index lower upper below
  · exact ready.except index lower upper below

/-- No child of a slot is cheaper than its cheaper child. -/
theorem cheaperChild_le (key : α → Nat) (tape : Nat → α) {index : Nat}
    (upper : index ≤ size) (below : index / 2 = hole) :
    key (tape (cheaperChild key size tape (2 * hole))) ≤ key (tape index) := by
  have either : index = 2 * hole ∨ index = 2 * hole + 1 := by omega
  simp only [cheaperChild]
  rcases either with rfl | rfl
  · split
    · rename_i isRight
      exact Nat.le_of_lt isRight.2
    · exact Nat.le_refl _
  · split
    · exact Nat.le_refl _
    · rename_i notRight
      simp only [not_and, Nat.not_lt] at notRight
      exact notRight (by omega)

/-- Sifting down orders the heap and keeps the entries of the filled tape. -/
theorem siftDown_spec (positive : 0 < hole) (inside : hole ≤ size)
    (ready : DownReady key size (Function.update tape hole entry) hole) :
    Ordered key size (siftDown key size tape entry hole) ∧
      entries size (siftDown key size tape entry hole)
        = entries size (Function.update tape hole entry) := by
  fun_induction siftDown key size tape entry hole with
  | case1 tape hole hasChild cheap =>
    refine ⟨ready.ordered fun index lower upper below => ?_, rfl⟩
    have least := cheaperChild_le key tape upper below
    rw [Function.update_self, Function.update_of_ne (by omega)]
    omega
  | case2 tape hole hasChild dear ih =>
    have cases := cheaperChild_cases key size tape (2 * hole)
    have least : ∀ index, index ≤ size → index / 2 = hole →
        key (tape (cheaperChild key size tape (2 * hole))) ≤ key (tape index) :=
      fun index upper below => cheaperChild_le key tape upper below
    generalize cheaperChild key size tape (2 * hole) = child at cases least dear ih ⊢
    have move := fill_move tape entry (show child ≠ hole by omega)
    have moved : DownReady key size (Function.update
          (Function.update tape hole (tape child)) child entry) child := by
      rw [move]
      refine ready.move (by omega) (by omega) ?_ ?_
      · intro index lower upper below
        rw [Function.update_of_ne (by omega), Function.update_of_ne (by omega)]
        exact least index upper below
      · rw [Function.update_self, Function.update_of_ne (by omega)]
        omega
    obtain ⟨ordered, same⟩ := ih (by omega) (by omega) moved
    refine ⟨ordered, same.trans ?_⟩
    rw [move]
    exact entries_swap ⟨positive, inside⟩ (by omega)
  | case3 tape hole leaf =>
    refine ⟨ready.ordered fun index lower upper below => ?_, rfl⟩
    omega

/-- The root of an ordered heap is its cheapest entry. -/
theorem Ordered.root_le (ordered : Ordered key size tape) {index : Nat}
    (lower : 1 ≤ index) (upper : index ≤ size) :
    key (tape 1) ≤ key (tape index) := by
  induction index using Nat.strongRecOn with
  | ind index ih =>
    by_cases isRoot : index = 1
    · rw [isRoot]
    · have above := ih (index / 2) (by omega) (by omega) (by omega)
      exact Nat.le_trans above (ordered index (by omega) upper)

/-- The heap without its root: the last entry sinks from there, if there is room for it
to stand anywhere. -/
def popped (key : α → Nat) (size : Nat) (tape : Nat → α) : Nat → α :=
  if 0 < size - 1 then siftDown key (size - 1) tape (tape size) 1 else tape

/-- Taking out the root orders the heap again and removes that entry alone. -/
theorem popped_spec (ordered : Ordered key size tape) (positive : 0 < size) :
    Ordered key (size - 1) (popped key size tape) ∧
      entries size tape = tape 1 ::ₘ entries (size - 1) (popped key size tape) := by
  obtain ⟨rest, rfl⟩ : ∃ rest, size = rest + 1 := ⟨size - 1, by omega⟩
  simp only [Nat.add_sub_cancel, popped]
  by_cases more : 0 < rest
  · rw [if_pos more]
    have ready : DownReady key rest (Function.update tape 1 (tape (rest + 1))) 1 := by
      constructor
      · intro index lower upper notBelow
        rw [Function.update_of_ne (by omega), Function.update_of_ne (by omega)]
        exact ordered index lower (by omega)
      · intro index lower upper below impossible
        omega
    obtain ⟨after, same⟩ := siftDown_spec (Nat.succ_pos 0) more ready
    refine ⟨after, ?_⟩
    rw [same]
    have whole :
        entries (rest + 1) (tape ∘ Equiv.swap 1 (rest + 1)) = entries (rest + 1) tape :=
      entries_swap (by omega) (by omega)
    rw [← whole, entries_succ]
    congr 1
    · simp
    · apply entries_congr
      intro index lower upper
      by_cases isRoot : index = 1
      · subst isRoot
        simp
      · rw [Function.update_of_ne isRoot, Function.comp_apply,
          Equiv.swap_apply_of_ne_of_ne isRoot (by omega)]
  · obtain rfl : rest = 0 := by omega
    refine ⟨fun index lower upper => by omega, ?_⟩
    rw [if_neg more, entries_succ]

/-! ## Two heaps side by side

Where an entry goes depends on keys alone. Two heaps that hold entries of the same keys,
slot by slot, do the same with them, whatever else the entries say. -/

variable {keyOf : β → Nat} {other : Nat → β} {twin : β} {related : α → β → Prop}

/-- Slot by slot, the entries on two tapes are related. -/
def SideBySide (related : α → β → Prop) (size : Nat) (tape : Nat → α)
    (other : Nat → β) : Prop :=
  ∀ index, 1 ≤ index → index ≤ size → related (tape index) (other index)

/-- Two tapes whose holes are filled are related at the holes. -/
theorem SideBySide.at_hole (positive : 1 ≤ hole) (inside : hole ≤ size)
    (filled : SideBySide related size (Function.update tape hole entry)
      (Function.update other hole twin)) :
    related entry twin := by
  have here := filled hole positive inside
  rwa [Function.update_self, Function.update_self] at here

/-- Two tapes whose holes are filled are related beside the holes. -/
theorem SideBySide.beside_hole {index : Nat} (different : index ≠ hole)
    (positive : 1 ≤ index) (inside : index ≤ size)
    (filled : SideBySide related size (Function.update tape hole entry)
      (Function.update other hole twin)) :
    related (tape index) (other index) := by
  have there := filled index positive inside
  rwa [Function.update_of_ne different, Function.update_of_ne different] at there

theorem SideBySide.move {target : Nat} (different : target ≠ hole)
    (positive : 1 ≤ target) (inside : target ≤ size) (holePositive : 1 ≤ hole)
    (holeInside : hole ≤ size)
    (filled : SideBySide related size (Function.update tape hole entry)
      (Function.update other hole twin)) :
    SideBySide related size
      (Function.update (Function.update tape hole (tape target)) target entry)
      (Function.update (Function.update other hole (other target)) target twin) := by
  intro index lower upper
  by_cases isTarget : index = target
  · subst isTarget
    rw [Function.update_self, Function.update_self]
    exact SideBySide.at_hole holePositive holeInside filled
  · rw [Function.update_of_ne isTarget, Function.update_of_ne isTarget]
    by_cases isHole : index = hole
    · subst isHole
      rw [Function.update_self, Function.update_self]
      exact SideBySide.beside_hole different positive inside filled
    · rw [Function.update_of_ne isHole, Function.update_of_ne isHole]
      exact SideBySide.beside_hole isHole lower upper filled

theorem siftUp_sideBySide
    (keeps : ∀ element partner, related element partner → key element = keyOf partner)
    (positive : 1 ≤ hole) (inside : hole ≤ size)
    (filled : SideBySide related size (Function.update tape hole entry)
      (Function.update other hole twin)) :
    SideBySide related size (siftUp key tape entry hole)
      (siftUp keyOf other twin hole) := by
  induction hole using Nat.strongRecOn generalizing tape other with
  | ind hole ih =>
    have entries := keeps _ _ (SideBySide.at_hole positive inside filled)
    rw [siftUp.eq_def key, siftUp.eq_def keyOf]
    by_cases below : 1 < hole
    · have parents := keeps _ _ (SideBySide.beside_hole (show hole / 2 ≠ hole by omega)
            (by omega) (by omega) filled)
      rw [if_pos below, if_pos below]
      by_cases cheap : key (tape (hole / 2)) ≤ key entry
      · rw [if_pos cheap, if_pos (by omega)]
        exact filled
      · rw [if_neg cheap, if_neg (by omega)]
        apply ih (hole / 2) (by omega) (by omega) (by omega)
        exact SideBySide.move (by omega) (by omega) (by omega) positive inside filled
    · rw [if_neg below, if_neg below]
      exact filled

theorem siftDown_sideBySide
    (keeps : ∀ element partner, related element partner → key element = keyOf partner)
    (positive : 1 ≤ hole) (inside : hole ≤ size)
    (filled : SideBySide related size (Function.update tape hole entry)
      (Function.update other hole twin)) :
    SideBySide related size (siftDown key size tape entry hole)
      (siftDown keyOf size other twin hole) := by
  induction remaining :
    size + 1 - hole using Nat.strongRecOn generalizing hole tape other with
  | ind remaining ih =>
    have entries := keeps _ _ (SideBySide.at_hole positive inside filled)
    rw [siftDown.eq_def key, siftDown.eq_def keyOf]
    by_cases hasChild : 0 < hole ∧ 2 * hole ≤ size
    · have left := keeps _ _ (SideBySide.beside_hole (show 2 * hole ≠ hole by omega)
            (by omega) hasChild.2 filled)
      have child : cheaperChild keyOf size other (2 * hole)
          = cheaperChild key size tape (2 * hole) := by
        simp only [cheaperChild]
        by_cases hasRight : 2 * hole < size
        · have right := keeps _ _
            (SideBySide.beside_hole (show 2 * hole + 1 ≠ hole by omega)
              (by omega) hasRight filled)
          rw [left, right]
        · simp only [hasRight, false_and]
      have range := cheaperChild_cases key size tape (2 * hole)
      have children := keeps _ _ (SideBySide.beside_hole
            (show cheaperChild key size tape (2 * hole) ≠ hole by omega)
        (by omega) (by omega) filled)
      rw [if_pos hasChild, if_pos hasChild, child]
      by_cases cheap : key entry ≤ key (tape (cheaperChild key size tape (2 * hole)))
      · rw [if_pos cheap, if_pos (by omega)]
        exact filled
      · rw [if_neg cheap, if_neg (by omega)]
        apply ih (size + 1 - cheaperChild key size tape (2 * hole)) (by omega)
          (by omega) (by omega) _ rfl
        exact SideBySide.move (by omega) (by omega) (by omega) positive inside filled
    · rw [if_neg hasChild, if_neg hasChild]
      exact filled

/-- Pushing related entries keeps two heaps side by side. -/
theorem SideBySide.push
    (keeps : ∀ element partner, related element partner → key element = keyOf partner)
    (tapes : SideBySide related size tape other) (entries : related entry twin) :
    SideBySide related (size + 1) (siftUp key tape entry (size + 1))
      (siftUp keyOf other twin (size + 1)) := by
  apply siftUp_sideBySide keeps (Nat.succ_pos size) (Nat.le_refl _)
  intro index lower upper
  by_cases isLast : index = size + 1
  · subst isLast
    rwa [Function.update_self, Function.update_self]
  · rw [Function.update_of_ne isLast, Function.update_of_ne isLast]
    exact tapes index lower (by omega)

/-- Taking out the roots keeps two heaps side by side. -/
theorem SideBySide.popped
    (keeps : ∀ element partner, related element partner → key element = keyOf partner)
    (tapes : SideBySide related size tape other) (positive : 0 < size) :
    SideBySide related (size - 1) (popped key size tape) (popped keyOf size other) := by
  rw [Heap.popped, Heap.popped]
  by_cases more : 0 < size - 1
  · rw [if_pos more, if_pos more]
    apply siftDown_sideBySide keeps (Nat.le_refl 1) more
    intro index lower upper
    by_cases isRoot : index = 1
    · subst isRoot
      rw [Function.update_self, Function.update_self]
      exact tapes size positive (Nat.le_refl _)
    · rw [Function.update_of_ne isRoot, Function.update_of_ne isRoot]
      exact tapes index lower (by omega)
  · rw [if_neg more, if_neg more]
    intro index lower upper
    exact tapes index lower (by omega)

end ArenaPaths.Heap
