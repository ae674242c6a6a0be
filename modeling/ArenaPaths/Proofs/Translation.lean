import ArenaPaths.Proofs.Blocks

/-!
# Translation of offsets

Every byte of an arena has an offset and a physical address. An address is an offset
beyond the base, counted in natural numbers, and the offset of an address is found again
for the bytes that are handed out.

Both directions are exact up to the bytes themselves and fail right behind them. The
offset of the end of the bytes handed out is given although no byte is there, and where
the backing ends with the last address the address of its end is null.

Main statements: `Arena.translation_exact_below_range_end` and
`Arena.offsetOf_inverts_translation_before_end`.
-/

namespace ArenaPaths.Arena

variable {arena : Arena} {backing : Backing} {granule offset : Nat} {address : UInt32}

/-! ## Physical addresses -/

/-- The base of an arena is that of its backing, whatever was done to it. -/
theorem Obtainable.toNat_base (obtainable : arena.Obtainable) :
    arena.base.toNat = arena.backing.base := by
  induction obtainable with
  | ofBacking opened =>
    have base_eq := toNat_base_of_ofBacking opened
    obtain ⟨_, _, _, rfl⟩ := of_ofBacking_eq_ok opened
    exact base_eq
  | allocate before handedOut ih =>
    rw [before.sound.allocate?_eq] at handedOut
    split at handedOut
    · cases handedOut
      exact ih
    · cases handedOut
  | write memory _ ih => exact ih

theorem exists_physicalAddress (inside : offset ≤ arena.capacity)
    (fits : arena.base.toNat + offset < UInt32.size) :
    ∃ address, arena.physicalAddress offset = .ok address ∧
      address.toNat = arena.base.toNat + offset :=
  ⟨_, physicalAddress_eq_ok inside, UInt32.toNat_ofNat_of_lt fits⟩

/-- An address that is an offset beyond the base is the physical address of the
offset. -/
theorem physicalAddress_of_toNat_eq (inside : offset ≤ arena.capacity)
    (beyond : address.toNat = arena.base.toNat + offset) :
    arena.physicalAddress offset = .ok address := by
  obtain ⟨found, translated, toNat_eq⟩ :=
    exists_physicalAddress inside (beyond ▸ address.toNat_lt)
  obtain rfl : found = address := UInt32.toNat_inj.mp (toNat_eq.trans beyond.symm)
  exact translated

/-- The address behind the last of all addresses is null. -/
theorem physicalAddress_of_add_eq (inside : offset ≤ arena.capacity)
    (atEnd : arena.base.toNat + offset = UInt32.size) :
    arena.physicalAddress offset = .ok nullAddress := by
  rw [physicalAddress_eq_ok inside, Window.address]
  change Except.ok (arena.base.toNat + offset).toUInt32 = _
  rw [atEnd]
  rfl

/-- An offset has a physical address exactly if it does not lie behind the end of the
backing. The address is the offset beyond the base, counted in natural numbers, so it is
not null unless both are zero, and later offsets have higher addresses. The end of a
backing that ends with the last address is the one exception: its address is null. -/
theorem translation_exact_below_range_end (obtainable : arena.Obtainable)
    (offset : Nat) :
    ((∃ address, arena.physicalAddress offset = .ok address) ↔
      offset ≤ arena.capacity) ∧
    (offset ≤ arena.capacity → arena.backing.base + offset ≠ UInt32.size → ∃ address,
      arena.physicalAddress offset = .ok address ∧
      address.toNat = arena.backing.base + offset ∧
      (0 < offset → address ≠ nullAddress) ∧
      ∀ earlier < offset, ∃ lower, arena.physicalAddress earlier = .ok lower ∧
        lower < address) ∧
    (offset ≤ arena.capacity → arena.backing.base + offset = UInt32.size →
      offset = arena.capacity ∧ arena.physicalAddress offset = .ok nullAddress) := by
  have stop_le := obtainable.sound.base_add_capacity_le
  rw [← obtainable.toNat_base]
  refine ⟨⟨?_, fun inside => ⟨_, physicalAddress_eq_ok inside⟩⟩, ?_, ?_⟩
  · rintro ⟨address, translated⟩
    rw [physicalAddress] at translated
    split at translated
    · cases translated
    · rename_i inside
      exact Nat.not_lt.mp inside
  · intro inside notEnd
    obtain ⟨address, translated, toNat_eq⟩ := exists_physicalAddress inside (by omega)
    refine ⟨address, translated, toNat_eq, ?_, ?_⟩
    · rintro positive rfl
      rw [nullAddress, UInt32.toNat_zero] at toNat_eq
      omega
    · intro earlier before
      obtain ⟨lower, lowerTranslated, lower_eq⟩ :=
        exists_physicalAddress (show earlier ≤ arena.capacity by omega) (by omega)
      exact ⟨lower, lowerTranslated, UInt32.lt_iff_toNat_lt.mpr (by omega)⟩
  · intro inside atEnd
    exact ⟨by omega, physicalAddress_of_add_eq inside atEnd⟩

/-- A backing that ends with the last address: its last byte has that address, above the
one before it. -/
theorem translation_exact_below_range_end_at_last_byte :
    ∃ arena : Arena, arena.Obtainable ∧ arena.backing.base = 0xFFFFF000 ∧
      arena.capacity = 4096 ∧
      ∃ address lower, arena.physicalAddress 4095 = .ok address ∧
        address.toNat = 0xFFFFFFFF ∧
        address ≠ nullAddress ∧ arena.physicalAddress 4094 = .ok lower ∧
        lower < address := by
  have opened : ofBacking ⟨.heap, 0xFFFFF000, 4096, .zeros⟩ 64
      = .ok ⟨⟨.heap, 0xFFFFF000, 4096, .zeros⟩, 0xFFFFF000, 64, 64, 0⟩ := rfl
  have obtainable := Obtainable.ofBacking opened
  obtain ⟨_, translates, _⟩ := translation_exact_below_range_end obtainable 4095
  obtain ⟨address, translated, toNat_eq, notNull, increasing⟩ :=
    translates (by decide) (by decide)
  obtain ⟨lower, lowerTranslated, below⟩ := increasing 4094 (by decide)
  exact ⟨_, obtainable, rfl, rfl, address, lower, translated, toNat_eq,
    notNull (by decide), lowerTranslated, below⟩

/-- The end of the same backing is translated to null, far below the address of its last
byte. -/
theorem end_at_last_address_translates_to_null :
    ∃ arena, ofBacking ⟨.heap, 0xFFFFF000, 4096, .zeros⟩ 64 = .ok arena ∧
      4096 ≤ arena.capacity ∧
      arena.physicalAddress 4095 = .ok 0xFFFFFFFF ∧
      arena.physicalAddress 4096 = .ok nullAddress ∧
      nullAddress.toNat ≠ 0xFFFFF000 + 4096 :=
  ⟨_, rfl, by decide, rfl, rfl, by decide⟩

/-! ## Offsets of addresses -/

/-- A byte of one of the blocks that were handed out has the address. -/
def HandedOut (base : Nat) (grants : List Grant) (address : UInt32) : Prop :=
  ∃ block ∈ grants.map Grant.block, ∃ position, block.Has position ∧
    address.toNat = base + position

/-- The addresses of the bytes handed out lie between the first granule and the end of
the bytes in use. -/
theorem handedOut_iff {base used : Nat} {grants : List Grant}
    (follow : BackToBack granule used (grants.map Grant.block)) :
    HandedOut base grants address ↔ base + granule ≤ address.toNat ∧
    address.toNat < base + used := by
  constructor
  · rintro ⟨block, member, position, has, toNat_eq⟩
    have inside := follow.exists_has_iff.mp ⟨block, member, has⟩
    omega
  · rintro ⟨lower, upper⟩
    obtain ⟨block, member, has⟩ :=
      follow.exists_has_iff.mpr
        (show granule ≤ address.toNat - base ∧ address.toNat - base < used by omega)
    exact ⟨block, member, _, has, by omega⟩

/-- The end of the bytes in use counts as well. -/
theorem offsetOf_eq_ok_iff : arena.offsetOf address = .ok offset ↔
    address.toNat = arena.base.toNat + offset ∧ arena.granule ≤ offset ∧
    offset ≤ arena.used :=
  Window.locate_eq_ok_iff

theorem offsetOf_of_outside
    (outside : ∀ offset, arena.granule ≤ offset → offset ≤ arena.used →
    address.toNat ≠ arena.base.toNat + offset) :
    arena.offsetOf address = .error (.addressOutside address.toNat) := by
  cases found : arena.offsetOf address with
  | ok offset =>
    obtain ⟨toNat_eq, lower, upper⟩ := offsetOf_eq_ok_iff.mp found
    exact absurd toNat_eq (outside offset lower upper)
  | error fault => rw [Window.locate_eq_error found]

/-- Whatever is asked of an arena, the offset of an address of a byte handed out is
found, and its physical address is that address again. These are the bytes from the
first granule to the end of the bytes in use. An address of no such byte is refused, but
for one: that of the end of the bytes in use is given its offset. -/
theorem offsetOf_inverts_translation_before_end
    (opened : ofBacking backing granule = .ok arena) (demands : List Demand) :
    ∃ results after,
      Action.outcomes (demands.map Demand.perform) arena = (results, after) ∧
      ∀ address : UInt32,
        (HandedOut backing.base (grants demands results) address ↔
          backing.base + granule ≤ address.toNat ∧
          address.toNat < backing.base + after.used) ∧
        (HandedOut backing.base (grants demands results) address → ∃ offset,
          after.offsetOf address = .ok offset ∧ address.toNat = backing.base + offset ∧
          after.physicalAddress offset = .ok address) ∧
        (¬ HandedOut backing.base (grants demands results) address →
          address.toNat ≠ backing.base + after.used →
          after.offsetOf address = .error (.addressOutside address.toNat)) ∧
        (address.toNat = backing.base + after.used →
          after.offsetOf address = .ok after.used) := by
  obtain ⟨results, after, run, tally⟩ := (Tally.ofBacking opened).performAll demands
  rw [List.nil_append] at tally
  have room := tally.sound.used_le_capacity
  have reserved := tally.sound.granule_le_used
  refine ⟨results, after, run, fun address => ?_⟩
  have between : HandedOut backing.base (grants demands results) address ↔ _ :=
    handedOut_iff tally.backToBack
  have found : ∀ offset, after.offsetOf address = .ok offset ↔
      address.toNat = backing.base + offset ∧ granule ≤ offset ∧
      offset ≤ after.used := by
    rw [← tally.base_eq, ← tally.granule_eq]
    exact fun offset => offsetOf_eq_ok_iff
  rw [between]
  refine ⟨.rfl, ?_, ?_, ?_⟩
  · rintro ⟨lower, upper⟩
    have toNat_eq : address.toNat = backing.base + (address.toNat - backing.base) := by
      omega
    refine ⟨_, (found _).mpr ⟨toNat_eq, by omega, by omega⟩, toNat_eq, ?_⟩
    exact physicalAddress_of_toNat_eq (by omega) (tally.base_eq.symm ▸ toNat_eq)
  · intro notHandedOut notEnd
    apply offsetOf_of_outside
    intro offset lower upper
    rw [tally.base_eq]
    rw [tally.granule_eq] at lower
    omega
  · intro atEnd
    exact (found _).mpr ⟨atEnd, tally.granule_eq ▸ reserved, Nat.le_refl _⟩

/-- Two blocks are handed out, with a store between them. The last byte of the second
block is found, the end behind it as well, and neither the byte after that nor the last
one of the first granule. -/
theorem offsetOf_inverts_translation_before_end_of_two_blocks :
    ∃ arena results after,
      ofBacking ⟨.heap, 0xFFFFF000, 4096, .zeros⟩ 64 = .ok arena ∧
      Action.outcomes ([.allocate 65, .store 0xFFFFF040 (7 : UInt8), .allocate 1].map
        Demand.perform) arena
        = (results, after) ∧
      after.used = 256 ∧ after.offsetOf 0xFFFFF0FF = .ok 255 ∧
      after.physicalAddress 255 = .ok 0xFFFFF0FF ∧
      after.offsetOf 0xFFFFF100 = .ok 256 ∧
      after.offsetOf 0xFFFFF101 = .error (.addressOutside 0xFFFFF101) ∧
      after.offsetOf 0xFFFFF03F = .error (.addressOutside 0xFFFFF03F) := by
  have opened : ofBacking ⟨.heap, 0xFFFFF000, 4096, .zeros⟩ 64
      = .ok ⟨⟨.heap, 0xFFFFF000, 4096, .zeros⟩, 0xFFFFF000, 64, 64, 0⟩ := rfl
  obtain ⟨results, after, run, inverse⟩ :=
    offsetOf_inverts_translation_before_end opened
    [.allocate 65, .store 0xFFFFF040 (7 : UInt8), .allocate 1]
  have used_eq : after.used = 256 := by
    obtain ⟨_, rfl⟩ := Prod.mk.inj run
    rfl
  obtain ⟨lastBetween, lastFound, _⟩ := inverse 0xFFFFF0FF
  obtain ⟨_, _, _, endFound⟩ := inverse 0xFFFFF100
  obtain ⟨behindBetween, _, behindRefused, _⟩ := inverse 0xFFFFF101
  obtain ⟨keptBetween, _, keptRefused, _⟩ := inverse 0xFFFFF03F
  rw [used_eq]
    at lastBetween endFound behindBetween behindRefused keptBetween keptRefused
  obtain ⟨offset, found, toNat_eq, translated⟩ :=
    lastFound (lastBetween.mpr (by decide))
  obtain rfl : offset = 255 := by
    change 0xFFFFF0FF = 0xFFFFF000 + offset at toNat_eq
    omega
  exact ⟨_, results, after, opened, run, used_eq, found, translated,
    endFound (by decide), behindRefused (mt behindBetween.mp (by decide)) (by decide),
    keptRefused (mt keptBetween.mp (by decide)) (by decide)⟩

/-- With one block handed out the address behind it has an offset, and so has the
address behind the first granule before any block is. -/
theorem offset_of_end_is_given :
    ∃ arena after,
      ofBacking ⟨.heap, 0x10000000, 4096, .zeros⟩ 64 = .ok arena ∧
      Action.outcomes ([.allocate 8].map Demand.perform) arena
        = ([.ok (some ⟨64, 64⟩)], after) ∧
      ¬ HandedOut 0x10000000 (grants [.allocate 8] [.ok (some ⟨64, 64⟩)]) 0x10000080 ∧
      after.offsetOf 0x10000080 = .ok 128 ∧ arena.offsetOf 0x10000040 = .ok 64 := by
  refine ⟨_, _, rfl, rfl, ?_, rfl, rfl⟩
  rintro ⟨block, member, position, has, toNat_eq⟩
  rw [List.mem_singleton.mp member] at has
  change 0x10000080 = 0x10000000 + position at toNat_eq
  have upper : position < 64 + 64 := has.2
  omega

end ArenaPaths.Arena
