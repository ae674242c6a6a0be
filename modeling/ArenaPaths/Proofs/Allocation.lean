import ArenaPaths.Arena
import ArenaPaths.Proofs.Access

/-!
# Allocation

The arenas that a program can hold, and what they have in common: the blocks handed out
lie between the first granule and the end of the backing, and all of the backing has
32-bit addresses. From that, a request for a block either gets the bytes right behind
the ones in use, or is refused and changes nothing.
-/

namespace ArenaPaths.Arena

variable {arena after : Arena}

/-- Arenas that a program can hold: laid over a backing, then changed by handing out
blocks and by whatever is written to the bytes. -/
inductive Obtainable : Arena → Prop
  | ofBacking {backing : Backing} {granule : Nat} {arena : Arena} :
      ofBacking backing granule = .ok arena → Obtainable arena
  | allocate {arena after : Arena} {bytes : Nat} {block : Block} :
      Obtainable arena → arena.allocate? bytes = some (block, after) → Obtainable after
  | write {arena : Arena} (memory : Memory) :
      Obtainable arena → Obtainable (arena.withMemory memory)

/-- Where the blocks of an arena lie. -/
structure Sound (arena : Arena) : Prop where
  granule_pos : 0 < arena.granule
  granule_le_used : arena.granule ≤ arena.used
  used_le_capacity : arena.used ≤ arena.capacity
  base_add_capacity_le : arena.base.toNat + arena.capacity ≤ UInt32.size

@[simp] theorem memory_withMemory (arena : Arena) (memory : Memory) :
    (arena.withMemory memory).memory = memory := rfl

@[simp] theorem window_withMemory (arena : Arena) (memory : Memory) :
    (arena.withMemory memory).window = arena.window := rfl

@[simp] theorem deviceWindow_withMemory (arena : Arena) (memory : Memory) :
    (arena.withMemory memory).deviceWindow = arena.deviceWindow := rfl

/-- Bytes of a block for the given bytes, as a natural number: at least one byte, in
whole granules. -/
def blockLength (granule bytes : Nat) : Nat :=
  (max bytes 1 + granule - 1) / granule * granule

theorem le_blockLength {granule : Nat} (positive : 0 < granule) (bytes : Nat) :
    bytes ≤ blockLength granule bytes := by
  have rest := Nat.mod_lt (max bytes 1 + granule - 1) positive
  have whole := Nat.div_add_mod (max bytes 1 + granule - 1) granule
  rw [Nat.mul_comm] at whole
  simp only [blockLength]
  omega

/-- The arena after a block of the given length was handed out. -/
def grown (arena : Arena) (length : Nat) : Arena :=
  { arena.withMemory (arena.memory.clear arena.used length) with
    used := arena.used + length, allocations := arena.allocations + 1 }

@[simp] theorem memory_grown (arena : Arena) (length : Nat) :
    (arena.grown length).memory = arena.memory.clear arena.used length := rfl

@[simp] theorem used_grown (arena : Arena) (length : Nat) :
    (arena.grown length).used = arena.used + length := rfl

@[simp] theorem capacity_grown (arena : Arena) (length : Nat) :
    (arena.grown length).capacity = arena.capacity := rfl

@[simp] theorem granule_grown (arena : Arena) (length : Nat) :
    (arena.grown length).granule = arena.granule := rfl

@[simp] theorem window_grown (arena : Arena) (length : Nat) :
    (arena.grown length).window = { arena.window with high := arena.used + length } :=
  rfl

namespace Sound

theorem window_sound (sound : arena.Sound) : arena.window.Sound where
  low_pos := sound.granule_pos
  base_add_high_le := by
    have fits := sound.base_add_capacity_le
    have used := sound.used_le_capacity
    simp only [window]
    omega

theorem deviceWindow_sound (sound : arena.Sound) : arena.deviceWindow.Sound where
  low_pos := sound.granule_pos
  base_add_high_le := sound.base_add_capacity_le

/-- The device reaches all that the host reaches. -/
theorem window_within (sound : arena.Sound) :
    arena.window.Within arena.deviceWindow where
  base_eq := rfl
  low_le := Nat.le_refl _
  high_le := sound.used_le_capacity

theorem withMemory (sound : arena.Sound) (memory : Memory) :
    (arena.withMemory memory).Sound :=
  ⟨sound.granule_pos, sound.granule_le_used, sound.used_le_capacity,
    sound.base_add_capacity_le⟩

theorem grown (sound : arena.Sound) {length : Nat}
    (room : arena.used + length ≤ arena.capacity) :
    (arena.grown length).Sound where
  granule_pos := sound.granule_pos
  granule_le_used := Nat.le_trans sound.granule_le_used (Nat.le_add_right _ _)
  used_le_capacity := room
  base_add_capacity_le := sound.base_add_capacity_le

/-- A request is met exactly if the block fits behind the bytes in use, counted in
natural numbers: the machine's own limits on sizes lie far above every arena. -/
theorem allocate?_eq (sound : arena.Sound) (bytes : Nat) :
    arena.allocate? bytes =
      if arena.used + blockLength arena.granule bytes ≤ arena.capacity then
        some (⟨arena.used, blockLength arena.granule bytes⟩,
            arena.grown (blockLength arena.granule bytes))
      else none := by
  have fits := sound.base_add_capacity_le
  have limit : UInt32.size < UInt64.size := by decide
  by_cases room : arena.used + blockLength arena.granule bytes ≤ arena.capacity
  · have lengthFits : (max bytes 1 + arena.granule - 1) / arena.granule * arena.granule
        < UInt64.size := by
      simp only [blockLength] at room
      omega
    have stopFits : arena.used + blockLength arena.granule bytes < UInt64.size := by
      omega
    have block : blockLength? arena.granule bytes
        = some (blockLength arena.granule bytes) := if_pos lengthFits
    have stop : Word.add64? arena.used (blockLength arena.granule bytes)
        = some (arena.used + blockLength arena.granule bytes) := if_pos stopFits
    rw [if_pos room]
    simp only [allocate?, block, stop, Option.bind_eq_bind, Option.bind_some,
      if_neg (Nat.not_lt.mpr room)]
    rfl
  · rw [if_neg room]
    simp only [allocate?, blockLength?, Word.mul64?, Word.add64?]
    simp only [blockLength] at room
    split
    · simp only [Option.bind_eq_bind, Option.bind_some]
      split
      · simp only [Option.bind_some]
        exact if_pos (by omega)
      · rfl
    · rfl

end Sound

theorem isPowerOfTwo_eq_true_iff {n : Nat} :
    isPowerOfTwo n = true ↔ n.isPowerOfTwo := by
  simp only [isPowerOfTwo, Bool.and_eq_true, bne_iff_ne, beq_iff_eq, Nat.one_shiftLeft]
  constructor
  · rintro ⟨_, isPower⟩
    exact ⟨_, isPower⟩
  · rintro ⟨exponent, rfl⟩
    rw [Nat.log2_two_pow]
    exact ⟨Nat.ne_of_gt (Nat.two_pow_pos exponent), rfl⟩

/-- A granule as it has to be: a power of two, and four bytes or more. -/
def ProperGranule (granule : Nat) : Prop := 4 ≤ granule ∧ granule.isPowerOfTwo

instance (granule : Nat) : Decidable (ProperGranule granule) :=
  inferInstanceAs (Decidable (_ ∧ _))

/-- Laying an arena over a backing, with all of its checks in natural numbers. Only the
doubling of the granule can still leave the range of its word; the sum of base and
capacity is noticed before it does. -/
theorem ofBacking_eq (backing : Backing) (granule : Nat) :
    ofBacking backing granule =
      if ProperGranule granule then
        if UInt64.size ≤ 2 * granule then .error (.abort .multiplyOverflow)
        else if backing.capacity < 2 * granule then
          .error (.mapping (.backingTooSmall backing.capacity granule))
        else if UInt32.size < backing.base + backing.capacity then
          .error (.addressOutside backing.base)
        else .ok ⟨backing, backing.base.toUInt32, granule, granule, 0⟩
      else .error (.mapping (.badGranule granule)) := by
  have limit : UInt32.size < UInt64.size := by decide
  have granuleCheck : (granule < 4 || !isPowerOfTwo granule) = true ↔
      ¬ ProperGranule granule := by
    rw [ProperGranule, ← isPowerOfTwo_eq_true_iff]
    simp only [Bool.or_eq_true, decide_eq_true_eq, Bool.not_eq_true', not_and_or,
      Nat.not_le, Bool.not_eq_true]
  rw [ofBacking, if_congr granuleCheck rfl rfl, ite_not]
  split
  case isFalse => rfl
  case isTrue proper =>
    have enough : 4 ≤ granule := proper.1
    by_cases doubles : UInt64.size ≤ 2 * granule
    · rw [if_pos doubles, Word.mul, if_neg (Nat.not_lt.mpr doubles)]
      rfl
    rw [if_neg doubles, Word.mul_eq_ok (Nat.not_le.mp doubles)]
    change (if _ then _ else _) = _
    by_cases small : backing.capacity < 2 * granule
    · rw [if_pos small, if_pos small]
      rfl
    rw [if_neg small, if_neg small]
    by_cases wide : UInt32.size < backing.base + backing.capacity
    · rw [if_pos wide, Word.add64?]
      by_cases sums : backing.base + backing.capacity < UInt64.size
      · rw [if_pos sums]
        exact if_pos wide
      · rw [if_neg sums]
        rfl
    · have low : ¬ UInt32.size ≤ backing.base := by omega
      rw [if_neg wide, Word.add64?, if_pos (by omega)]
      exact (if_neg wide).trans (if_neg low)

/-- What an arena can be laid over: two granules fit the backing, and all of it has
32-bit addresses. -/
theorem of_ofBacking_eq_ok {backing : Backing} {granule : Nat}
    (opened : ofBacking backing granule = .ok arena) :
    4 ≤ granule ∧ 2 * granule ≤ backing.capacity ∧
    backing.base + backing.capacity ≤ UInt32.size ∧
      arena = ⟨backing, backing.base.toUInt32, granule, granule, 0⟩ := by
  rw [ofBacking_eq] at opened
  split at opened
  case isFalse => cases opened
  case isTrue proper =>
    split at opened
    · cases opened
    split at opened
    · cases opened
    rename_i large
    split at opened
    · cases opened
    rename_i narrow
    cases opened
    exact ⟨proper.1, Nat.not_lt.mp large, Nat.not_lt.mp narrow, rfl⟩

/-- The base of an arena is that of its backing. -/
theorem toNat_base_of_ofBacking {backing : Backing} {granule : Nat}
    (opened : ofBacking backing granule = .ok arena) :
    arena.base.toNat = backing.base := by
  obtain ⟨_, _, _, rfl⟩ := of_ofBacking_eq_ok opened
  exact UInt32.toNat_ofNat_of_lt (by omega)

theorem sound_of_ofBacking {backing : Backing} {granule : Nat}
    (opened : ofBacking backing granule = .ok arena) :
    arena.Sound := by
  have base_eq := toNat_base_of_ofBacking opened
  obtain ⟨_, _, _, rfl⟩ := of_ofBacking_eq_ok opened
  constructor
  · change 0 < granule
    omega
  · exact Nat.le_refl granule
  · change granule ≤ backing.capacity
    omega
  · rw [base_eq]
    assumption

theorem Obtainable.sound (obtainable : arena.Obtainable) : arena.Sound := by
  induction obtainable with
  | ofBacking opened => exact sound_of_ofBacking opened
  | allocate _ handedOut ih =>
    rw [ih.allocate?_eq] at handedOut
    split at handedOut
    · rename_i room
      cases handedOut
      exact ih.grown room
    · simp at handedOut
  | write memory _ ih => exact ih.withMemory memory

theorem base_add_eq_address (arena : Arena) (offset : Nat) :
    arena.base + offset.toUInt32 = arena.window.address offset := by
  rw [Window.address, ← UInt32.toNat_inj]
  simp [window, Nat.toUInt32]

/-- The physical address of a position is the one that the windows give it. -/
theorem physicalAddress_eq_ok {position : Nat} (inside : position ≤ arena.capacity) :
    arena.physicalAddress position = .ok (arena.window.address position) := by
  rw [physicalAddress, if_neg (Nat.not_lt.mpr inside), base_add_eq_address]

/-- A block that fits is reserved right behind the bytes in use. -/
theorem reserve_eq_ok (sound : arena.Sound) {bytes : Nat}
    (room : arena.used + blockLength arena.granule bytes ≤ arena.capacity) :
    reserve bytes arena =
      .ok (arena.window.address arena.used)
        (arena.grown (blockLength arena.granule bytes)) := by
  have inside : arena.used ≤ (arena.grown (blockLength arena.granule bytes)).capacity :=
    sound.used_le_capacity
  have found :
      arena.allocate? bytes = some (⟨arena.used, blockLength arena.granule bytes⟩,
      arena.grown (blockLength arena.granule bytes)) := by
    rw [sound.allocate?_eq, if_pos room]
  simp only [reserve, Action.get_bind_apply, found, Action.set_bind_apply, blockAddress,
    physicalAddress_eq_ok inside, Action.liftM_ok_apply]
  rfl

/-- A block that does not fit is refused, and the arena stays as it is. -/
theorem reserve_eq_error (sound : arena.Sound) {bytes : Nat}
    (full : arena.capacity < arena.used + blockLength arena.granule bytes) :
    reserve bytes arena = .error (.arenaExhausted bytes arena.remaining) arena := by
  have refused : arena.allocate? bytes = none := by
    rw [sound.allocate?_eq, if_neg (Nat.not_le.mpr full)]
  simp only [reserve, Action.get_bind_apply, refused, Action.throw_apply]

/-- A block that was reserved is the one right behind the bytes in use. -/
theorem of_reserve_eq_ok (sound : arena.Sound) {bytes : Nat} {address : UInt32}
    (reserved : reserve bytes arena = .ok address after) :
    arena.used + blockLength arena.granule bytes ≤ arena.capacity ∧
      address = arena.window.address arena.used ∧
      after = arena.grown (blockLength arena.granule bytes) := by
  by_cases room : arena.used + blockLength arena.granule bytes ≤ arena.capacity
  · rw [reserve_eq_ok sound room] at reserved
    cases reserved
    exact ⟨room, rfl, rfl⟩
  · rw [reserve_eq_error sound (Nat.not_le.mp room)] at reserved
    cases reserved

/-- An arena after some blocks were handed out: they hold zeros, and the bytes in front
of them are as before. -/
structure Extends (before after : Arena) : Prop where
  sound : after.Sound
  base_eq : after.base = before.base
  granule_eq : after.granule = before.granule
  capacity_eq : after.capacity = before.capacity
  source_eq : after.backing.source = before.backing.source
  used_le : before.used ≤ after.used
  same : ∀ query, query < before.used → after.memory.get query = before.memory.get query
  zero : ∀ query, before.used ≤ query → query < after.used → after.memory.get query = 0

theorem Extends.trans {before between : Arena} (first : before.Extends between)
    (second : between.Extends after) :
    before.Extends after where
  sound := second.sound
  base_eq := second.base_eq.trans first.base_eq
  granule_eq := second.granule_eq.trans first.granule_eq
  capacity_eq := second.capacity_eq.trans first.capacity_eq
  source_eq := second.source_eq.trans first.source_eq
  used_le := Nat.le_trans first.used_le second.used_le
  same query earlier := by
    rw [second.same query (Nat.lt_of_lt_of_le earlier first.used_le),
      first.same query earlier]
  zero query lower upper := by
    by_cases earlier : query < between.used
    · rw [second.same query earlier, first.zero query lower earlier]
    · exact second.zero query (Nat.not_lt.mp earlier) upper

theorem Extends.address_eq {before : Arena} (extends' : before.Extends after) :
    after.window.address = before.window.address := by
  funext position
  simp only [Window.address, window, extends'.base_eq]

/-- Handing out a block extends an arena. -/
theorem Sound.extends_grown (sound : arena.Sound) {length : Nat}
    (room : arena.used + length ≤ arena.capacity) :
    arena.Extends (arena.grown length) where
  sound := sound.grown room
  base_eq := rfl
  granule_eq := rfl
  capacity_eq := rfl
  source_eq := rfl
  used_le := Nat.le_add_right _ _
  same query earlier := by rw [memory_grown, Memory.get_clear, if_neg (by omega)]
  zero query lower upper := by
    rw [memory_grown, Memory.get_clear, if_pos ⟨lower, upper⟩]

/-- A reserved block lies between the old bytes in use and the new ones. -/
theorem extends_of_reserve (sound : arena.Sound) {bytes : Nat} {address : UInt32}
    (reserved : reserve bytes arena = .ok address after) :
    arena.Extends after ∧ address = arena.window.address arena.used ∧
    arena.used + bytes ≤ after.used := by
  obtain ⟨room, rfl, rfl⟩ := of_reserve_eq_ok sound reserved
  have enough := le_blockLength sound.granule_pos bytes
  refine ⟨sound.extends_grown room, rfl, ?_⟩
  rw [used_grown]
  omega

end ArenaPaths.Arena
