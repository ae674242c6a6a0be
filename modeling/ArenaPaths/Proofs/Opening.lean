import ArenaPaths.Proofs.Allocation

/-!
# Opening arenas

Which arenas can be laid over which backings. Granule, capacity and base come from
outside and may be any words of 64 bits. Every one of them is judged, and what is wrong
with it is said, by the first of the checks that it fails. There is one granule of which
this is not so: half of the range of its word is a power of two like any other, but it
cannot be doubled, and the program stops on it.

Main statement: `Arena.opening_judges_all_but_half_range`.
-/

namespace ArenaPaths.Arena

variable {backing : Backing} {granule : Nat}

/-- What an arena can be laid over: there are two granules or more, and every byte has a
32-bit address. -/
structure Admissible (backing : Backing) (granule : Nat) : Prop where
  proper : ProperGranule granule
  double_le : 2 * granule ≤ backing.capacity
  stop_le : backing.base + backing.capacity ≤ UInt32.size

/-- An arena right after it was laid over a backing: one granule is kept back, and no
block is handed out. -/
structure LaidOver (arena : Arena) (backing : Backing) (granule : Nat) : Prop where
  backing_eq : arena.backing = backing
  base_eq : arena.base.toNat = backing.base
  granule_eq : arena.granule = granule
  used_eq : arena.used = granule
  allocations_eq : arena.allocations = 0

/-- The doubled granule leaves the range of its word for one granule only. -/
theorem ProperGranule.double_eq (proper : ProperGranule granule)
    (word : granule < UInt64.size) (overflows : UInt64.size ≤ 2 * granule) :
    2 * granule = UInt64.size := by
  obtain ⟨_, exponent, rfl⟩ := proper
  have below : exponent < 64 := (Nat.pow_lt_pow_iff_right Nat.one_lt_two).mp word
  have above : 64 ≤ exponent + 1 := by
    rw [Nat.mul_comm, ← Nat.pow_succ] at overflows
    exact (Nat.pow_le_pow_iff_right Nat.one_lt_two).mp overflows
  obtain rfl : exponent = 63 := by omega
  rfl

/-- Half of the range of a word passes for a granule. -/
theorem properGranule_of_double_eq (half : 2 * granule = UInt64.size) :
    ProperGranule granule := by
  obtain rfl : granule = 0x8000000000000000 := by
    simp only [UInt64.size] at half
    omega
  exact ⟨by decide, 63, rfl⟩

/-! ## The checks one after another -/

theorem ofBacking_of_improper (improper : ¬ ProperGranule granule) :
    ofBacking backing granule = .error (.mapping (.badGranule granule)) := by
  rw [ofBacking_eq, if_neg improper]

theorem ofBacking_of_double_eq (half : 2 * granule = UInt64.size) :
    ofBacking backing granule = .error (.abort .multiplyOverflow) := by
  rw [ofBacking_eq, if_pos (properGranule_of_double_eq half),
    if_pos (Nat.le_of_eq half.symm)]

section Doubled

variable (proper : ProperGranule granule) (doubled : 2 * granule < UInt64.size)
include proper doubled

theorem ofBacking_of_small (small : backing.capacity < 2 * granule) :
    ofBacking backing granule
      = .error (.mapping (.backingTooSmall backing.capacity granule)) := by
  rw [ofBacking_eq, if_pos proper, if_neg (Nat.not_le.mpr doubled), if_pos small]

theorem ofBacking_of_wide (large : 2 * granule ≤ backing.capacity)
    (wide : UInt32.size < backing.base + backing.capacity) :
    ofBacking backing granule = .error (.addressOutside backing.base) := by
  rw [ofBacking_eq, if_pos proper, if_neg (Nat.not_le.mpr doubled),
    if_neg (Nat.not_lt.mpr large), if_pos wide]

end Doubled

theorem Admissible.ofBacking_eq_ok (admissible : Admissible backing granule) :
    ofBacking backing granule
      = .ok ⟨backing, backing.base.toUInt32, granule, granule, 0⟩ := by
  obtain ⟨proper, large, narrow⟩ := admissible
  have limit : UInt32.size < UInt64.size := by decide
  rw [ofBacking_eq, if_pos proper, if_neg (by omega), if_neg (by omega),
    if_neg (by omega)]

theorem admissible_of_ofBacking {arena : Arena}
    (opened : ofBacking backing granule = .ok arena) :
    Admissible backing granule := by
  have proper : ProperGranule granule := by
    by_contra improper
    rw [ofBacking_of_improper improper] at opened
    cases opened
  obtain ⟨_, large, narrow, _⟩ := of_ofBacking_eq_ok opened
  exact ⟨proper, large, narrow⟩

theorem laidOver_of_ofBacking {arena : Arena}
    (opened : ofBacking backing granule = .ok arena) :
    arena.LaidOver backing granule := by
  have base_eq := toNat_base_of_ofBacking opened
  obtain ⟨_, _, _, rfl⟩ := of_ofBacking_eq_ok opened
  exact ⟨rfl, base_eq, rfl, rfl, rfl⟩

/-- An arena is laid over a backing exactly if the granule is proper, two granules fit,
and all of the backing has 32-bit addresses. Otherwise the granule is refused first,
then a backing that is too small, and last one that reaches too far, and no granule but
half of the range of its word stops the program. That one does, over every backing. -/
theorem opening_judges_all_but_half_range (backing : Backing) {granule : Nat}
    (word : granule < UInt64.size) :
    ((∃ arena, ofBacking backing granule = .ok arena) ↔ Admissible backing granule) ∧
    (∀ arena, ofBacking backing granule = .ok arena → arena.LaidOver backing granule) ∧
    (2 * granule ≠ UInt64.size →
      (¬ ProperGranule granule →
        ofBacking backing granule = .error (.mapping (.badGranule granule))) ∧
      (ProperGranule granule → backing.capacity < 2 * granule →
        ofBacking backing granule
          = .error (.mapping (.backingTooSmall backing.capacity granule))) ∧
      (ProperGranule granule → 2 * granule ≤ backing.capacity →
        UInt32.size < backing.base + backing.capacity →
        ofBacking backing granule = .error (.addressOutside backing.base)) ∧
      ∀ abort, ofBacking backing granule ≠ .error (.abort abort)) ∧
    (2 * granule = UInt64.size →
      ProperGranule granule ∧
      ofBacking backing granule = .error (.abort .multiplyOverflow)) := by
  refine ⟨⟨fun ⟨arena, opened⟩ => admissible_of_ofBacking opened,
      fun admissible => ⟨_, admissible.ofBacking_eq_ok⟩⟩,
    fun arena => laidOver_of_ofBacking, ?_,
    fun half => ⟨properGranule_of_double_eq half, ofBacking_of_double_eq half⟩⟩
  intro notHalf
  have doubled : ProperGranule granule → 2 * granule < UInt64.size := fun proper =>
    Nat.not_le.mp fun overflows => notHalf (proper.double_eq word overflows)
  refine ⟨ofBacking_of_improper,
    fun proper => ofBacking_of_small proper (doubled proper),
    fun proper => ofBacking_of_wide proper (doubled proper), ?_⟩
  intro abort stopped
  by_cases proper : ProperGranule granule
  · rw [ofBacking_eq, if_pos proper,
      if_neg (Nat.not_le.mpr (doubled proper))] at stopped
    split at stopped
    · cases stopped
    split at stopped
    · cases stopped
    · cases stopped
  · rw [ofBacking_of_improper proper] at stopped
    cases stopped

/-- Words at the ends of their ranges. A backing of two granules up to the last address
is taken, and one byte further it is not. The largest granule that can be doubled is
compared with the largest backing at the largest base. -/
theorem opening_judges_all_but_half_range_at_limits :
    (∃ arena, ofBacking ⟨.heap, 0xFFFFF000, 4096, .zeros⟩ 2048 = .ok arena ∧
      arena.LaidOver ⟨.heap, 0xFFFFF000, 4096, .zeros⟩ 2048) ∧
    ofBacking ⟨.heap, 0xFFFFF001, 4096, .zeros⟩ 2048
      = .error (.addressOutside 0xFFFFF001) ∧
    ofBacking ⟨.heap, 0xFFFFF001, 4095, .zeros⟩ 2048
      = .error (.mapping (.backingTooSmall 4095 2048)) ∧
    ofBacking ⟨.heap, 0xFFFFFFFFFFFFFFFF, 0xFFFFFFFFFFFFFFFF, .zeros⟩ 0x4000000000000000
      = .error (.addressOutside 0xFFFFFFFFFFFFFFFF) := by
  have proper : ProperGranule 2048 := ⟨by decide, 11, rfl⟩
  have properLarge : ProperGranule 0x4000000000000000 := ⟨by decide, 62, rfl⟩
  have judges := fun backing =>
    opening_judges_all_but_half_range backing (show 2048 < UInt64.size by decide)
  obtain ⟨opens, laidOver, _⟩ := judges ⟨.heap, 0xFFFFF000, 4096, .zeros⟩
  obtain ⟨arena, opened⟩ := opens.mpr ⟨proper, by decide, by decide⟩
  obtain ⟨_, _, wideRefused, _⟩ := judges ⟨.heap, 0xFFFFF001, 4096, .zeros⟩
  obtain ⟨_, _, smallRefused, _⟩ := judges ⟨.heap, 0xFFFFF001, 4095, .zeros⟩
  obtain ⟨_, _, largeRefused, _⟩ := opening_judges_all_but_half_range
    ⟨.heap, 0xFFFFFFFFFFFFFFFF, 0xFFFFFFFFFFFFFFFF, .zeros⟩
      (show 0x4000000000000000 < UInt64.size by decide)
  exact ⟨⟨arena, opened, laidOver arena opened⟩,
    (wideRefused (by decide)).2.2.1 proper (by decide) (by decide),
    (smallRefused (by decide)).2.1 proper (by decide),
    (largeRefused (by decide)).2.2.1 properLarge (by decide) (by decide)⟩

/-- A power of two for which the backing is far too small stops the program in place of
being refused. -/
theorem half_range_granule_stops_opening :
    ProperGranule 0x8000000000000000 ∧ 65536 < 2 * 0x8000000000000000 ∧
      ofBacking ⟨.heap, 0x10000000, 65536, .zeros⟩ 0x8000000000000000
        = .error (.abort .multiplyOverflow) :=
  ⟨properGranule_of_double_eq rfl, by decide, ofBacking_of_double_eq rfl⟩

end ArenaPaths.Arena
