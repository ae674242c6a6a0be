import ArenaPaths.Proofs.Allocation
import Mathlib.Data.List.Basic
import Mathlib.Order.Bounds.Basic

/-!
# Blocks

What an arena hands out over its whole life. Blocks are asked for while host and device
store records through windows of their own, the device also where no block is yet. The
blocks stand one behind the other from the first granule on, each as long as it has to
be and no longer, and each of zeros when it is handed out, whatever was stored there
before.
-/

namespace ArenaPaths

/-- The positions of a block. -/
def Block.Has (block : Block) (position : Nat) : Prop :=
  block.offset ≤ position ∧ position < block.offset + block.length

/-- Blocks that follow one another without a gap from `start` to `stop`. -/
def BackToBack (start stop : Nat) : List Block → Prop
  | [] => start = stop
  | block :: rest => block.offset = start ∧ BackToBack (start + block.length) stop rest

namespace BackToBack

variable {start between stop : Nat} {blocks : List Block}

theorem append {others : List Block} (first : BackToBack start between blocks)
    (second : BackToBack between stop others) :
    BackToBack start stop (blocks ++ others) := by
  induction blocks generalizing start with
  | nil =>
    cases first
    exact second
  | cons block rest ih => exact ⟨first.1, ih first.2⟩

/-- Every block lies between the two ends. -/
theorem bounds (follow : BackToBack start stop blocks) :
    start ≤ stop ∧ ∀ block ∈ blocks, start ≤ block.offset ∧
      block.offset + block.length ≤ stop := by
  induction blocks generalizing start with
  | nil =>
    cases follow
    exact ⟨Nat.le_refl _, fun block member => absurd member List.not_mem_nil⟩
  | cons block rest ih =>
    obtain ⟨rfl, following⟩ := follow
    obtain ⟨below, inside⟩ := ih following
    refine ⟨by omega, ?_⟩
    intro other member
    rcases List.mem_cons.mp member with rfl | later
    · exact ⟨Nat.le_refl _, below⟩
    · have bound := inside other later
      omega

/-- An earlier block ends before a later one begins, so no two of them share a
position. -/
theorem pairwise (follow : BackToBack start stop blocks) :
    blocks.Pairwise fun earlier later => earlier.offset + earlier.length
      ≤ later.offset := by
  induction blocks generalizing start with
  | nil => exact .nil
  | cons block rest ih =>
    obtain ⟨rfl, following⟩ := follow
    exact .cons (fun later member => (following.bounds.2 later member).1) (ih following)

/-- The positions of the blocks are those between the two ends. -/
theorem exists_has_iff (follow : BackToBack start stop blocks) {position : Nat} :
    (∃ block ∈ blocks, block.Has position) ↔ start ≤ position ∧ position < stop := by
  constructor
  · rintro ⟨block, member, starts, stops⟩
    have bound := follow.bounds.2 block member
    omega
  · rintro ⟨lower, upper⟩
    induction blocks generalizing start with
    | nil =>
      cases follow
      omega
    | cons block rest ih =>
      obtain ⟨rfl, following⟩ := follow
      by_cases inFirst : position < block.offset + block.length
      · exact ⟨block, List.mem_cons_self, lower, inFirst⟩
      · obtain ⟨other, later, has⟩ := ih following (Nat.not_lt.mp inFirst)
        exact ⟨other, List.mem_cons_of_mem _ later, has⟩

end BackToBack

namespace Arena

variable {arena : Arena}

/-- A block is the shortest one in whole granules that holds the bytes asked for, and at
least one byte. -/
theorem isLeast_blockLength {granule : Nat} (positive : 0 < granule) (bytes : Nat) :
    IsLeast {length | granule ∣ length ∧ max bytes 1 ≤ length}
      (blockLength granule bytes) := by
  constructor
  · have enough := le_blockLength positive (max bytes 1)
    refine ⟨Nat.dvd_mul_left _ _, ?_⟩
    rwa [blockLength, Nat.max_assoc, Nat.max_self] at enough
  · rintro length ⟨⟨count, rfl⟩, enough⟩
    rw [blockLength, Nat.mul_comm granule count]
    apply Nat.mul_le_mul_right
    rw [Nat.div_le_iff_le_mul_add_pred positive]
    omega

/-- What is asked of an arena: a block, or that a record be stored through the window of
the host or of the device. -/
inductive Demand : Type 1
  | allocate (bytes : Nat)
  | store {α : Type} [Record α] (address : UInt32) (value : α)
  | storeByDevice {α : Type} [Record α] (address : UInt32) (value : α)

/-- A block that was handed out, and the bytes that were asked for. -/
structure Grant where
  bytes : Nat
  block : Block
  deriving DecidableEq, Repr

namespace Demand

/-- Meet a demand. It gives the block that is handed out, if there is one. -/
def perform : Demand → Action Arena (Option Block)
  | .allocate bytes => do
    let some (block, after) := (← get).allocate? bytes | return none
    set after
    return some block
  | @store _ _ address value => do
    onMemory ((← get).window.store address value)
    return none
  | @storeByDevice _ _ address value => do
    onMemory ((← get).deviceWindow.store address value)
    return none

/-- What was handed out for a demand, given how it ended. -/
def granted : Demand → Except Fault (Option Block) → List Grant
  | .allocate bytes, .ok (some block) => [⟨bytes, block⟩]
  | _, _ => []

theorem perform_allocate (sound : arena.Sound) (bytes : Nat) :
    (allocate bytes).perform arena =
      if arena.used + blockLength arena.granule bytes ≤ arena.capacity then
        .ok (some ⟨arena.used, blockLength arena.granule bytes⟩)
          (arena.grown (blockLength arena.granule bytes))
      else .ok none arena := by
  simp only [perform, Action.get_bind_apply, sound.allocate?_eq]
  split <;> rfl

/-- However a step on the bytes ends, it has changed nothing but bytes. -/
theorem outcome_onMemory (step : Action Memory Unit) (arena : Arena) :
    (do onMemory step; return none : Action Arena (Option Block)).outcome arena
      = ((step.outcome arena.memory).1.map fun _ => none,
        arena.withMemory (step.outcome arena.memory).2) := by
  rw [Action.outcome_map, onMemory, Action.outcome_focus]

/-- All that meeting a demand can do: hand out the block right behind the bytes in use,
or change bytes and nothing else. -/
theorem outcome_cases (sound : arena.Sound) (demand : Demand) :
    (∃ bytes, demand = .allocate bytes ∧
      arena.used + blockLength arena.granule bytes ≤ arena.capacity ∧
      demand.perform.outcome arena
        = (.ok (some ⟨arena.used, blockLength arena.granule bytes⟩),
        arena.grown (blockLength arena.granule bytes))) ∨
    ∃ result memory, demand.granted result = [] ∧
      demand.perform.outcome arena = (result, arena.withMemory memory) := by
  cases demand with
  | allocate bytes =>
    have run := perform_allocate sound bytes
    by_cases room : arena.used + blockLength arena.granule bytes ≤ arena.capacity
    · rw [if_pos room] at run
      exact .inl ⟨bytes, rfl, room, Action.outcome_of_ok run⟩
    · rw [if_neg room] at run
      exact .inr ⟨.ok none, arena.memory, rfl, Action.outcome_of_ok run⟩
  | store address value =>
    exact .inr ⟨_, _, rfl, outcome_onMemory (arena.window.store address value) arena⟩
  | storeByDevice address value =>
    exact .inr ⟨_, _, rfl,
      outcome_onMemory (arena.deviceWindow.store address value) arena⟩

end Demand

/-- An arena and the blocks that were handed out since it was laid over its backing. -/
structure Tally (backing : Backing) (granule : Nat) (grants : List Grant)
    (arena : Arena) : Prop where
  sound : arena.Sound
  base_eq : arena.base.toNat = backing.base
  granule_eq : arena.granule = granule
  capacity_eq : arena.capacity = backing.capacity
  allocations_eq : arena.allocations = grants.length
  length_eq : ∀ grant ∈ grants, grant.block.length = blockLength granule grant.bytes
  backToBack : BackToBack granule arena.used (grants.map Grant.block)

namespace Tally

variable {backing : Backing} {granule : Nat} {grants : List Grant}

theorem ofBacking (opened : Arena.ofBacking backing granule = .ok arena) :
    Tally backing granule [] arena := by
  have sound := sound_of_ofBacking opened
  have base_eq := toNat_base_of_ofBacking opened
  obtain ⟨_, _, _, rfl⟩ := of_ofBacking_eq_ok opened
  exact ⟨sound, base_eq, rfl, rfl, rfl,
    fun grant member => absurd member List.not_mem_nil, rfl⟩

/-- A demand leaves the blocks of earlier demands where they are and puts its own behind
them. -/
theorem perform (tally : Tally backing granule grants arena) (demand : Demand) :
    ∃ result after, demand.perform.outcome arena = (result, after) ∧
      Tally backing granule (grants ++ demand.granted result) after := by
  -- only a block that is handed out moves the end of what is in use
  rcases demand.outcome_cases tally.sound with
    ⟨bytes, rfl, room, ran⟩ | ⟨result, memory, nothing, ran⟩
  · refine ⟨_, _, ran, tally.sound.grown room, tally.base_eq, tally.granule_eq,
      tally.capacity_eq, ?_, ?_, ?_⟩
    · simp [Demand.granted, grown, tally.allocations_eq]
    · intro grant member
      rcases List.mem_append.mp member with earlier | new
      · exact tally.length_eq grant earlier
      · cases List.mem_singleton.mp new
        rw [tally.granule_eq]
    · rw [List.map_append]
      exact tally.backToBack.append ⟨rfl, rfl⟩
  · refine ⟨result, _, ran, ?_⟩
    rw [nothing, List.append_nil]
    exact ⟨tally.sound.withMemory memory, tally.base_eq, tally.granule_eq,
      tally.capacity_eq, tally.allocations_eq, tally.length_eq, tally.backToBack⟩

/-- Demands met one after another leave all of their blocks behind the earlier ones. -/
theorem performAll (tally : Tally backing granule grants arena)
    (demands : List Demand) :
    ∃ results after,
      Action.outcomes (demands.map Demand.perform) arena = (results, after) ∧
      Tally backing granule
        (grants ++ (List.zipWith Demand.granted demands results).flatten) after := by
  induction demands generalizing grants arena with
  | nil => exact ⟨[], arena, rfl, by simpa using tally⟩
  | cons demand rest ih =>
    obtain ⟨result, between, here, tallyBetween⟩ := tally.perform demand
    obtain ⟨results, after, there, tallyAfter⟩ := ih tallyBetween
    refine ⟨result :: results, after, Action.outcomes_cons here there, ?_⟩
    simpa only [List.zipWith_cons_cons, List.flatten_cons,
      List.append_assoc] using tallyAfter

end Tally

/-- The blocks handed out for demands, given how these ended. -/
def grants (demands : List Demand) (results : List (Except Fault (Option Block))) :
    List Grant :=
  (List.zipWith Demand.granted demands results).flatten

/-- A block as it has to be: whole granules, enough of them, and all of them at
addresses of their own. -/
structure Grant.Proper (backing : Backing) (granule : Nat) (arena : Arena)
    (grant : Grant) : Prop where
  length_pos : 0 < grant.block.length
  granule_dvd : granule ∣ grant.block.length
  bytes_le : grant.bytes ≤ grant.block.length
  blockAddress : ∃ address, arena.blockAddress grant.block = .ok address ∧
    address.toNat = backing.base + grant.block.offset ∧ address ≠ nullAddress
  physicalAddress : ∀ position, grant.block.Has position →
    ∃ address, arena.physicalAddress position = .ok address ∧
    address.toNat = backing.base + position ∧ address ≠ nullAddress

/-- What handing out a block changes: the block is of zeros, also when it is read by
address, and every other byte is as before. -/
structure HandsOut (before : Arena) (block : Block) (after : Arena) : Prop where
  used_eq : after.used = block.offset + block.length
  allocations_eq : after.allocations = before.allocations + 1
  zero : ∀ position, block.Has position → after.memory.get position = 0
  loads_zero : ∀ position, block.Has position →
    ∃ address, after.physicalAddress position = .ok address ∧
    after.window.load UInt8 address after.memory = .ok 0 after.memory
  same : ∀ position, ¬block.Has position →
    after.memory.get position = before.memory.get position

theorem Tally.proper {backing : Backing} {granule : Nat} {grants : List Grant}
    (tally : Tally backing granule grants arena) {grant : Grant}
    (member : grant ∈ grants) :
    grant.Proper backing granule arena := by
  have positive : 0 < granule := tally.granule_eq ▸ tally.sound.granule_pos
  obtain ⟨⟨divides, enough⟩, _⟩ := isLeast_blockLength positive grant.bytes
  obtain ⟨lower, upper⟩ :=
    tally.backToBack.bounds.2 grant.block (List.mem_map_of_mem member)
  rw [← tally.length_eq grant member] at divides enough
  have addressed : ∀ position, grant.block.Has position →
      ∃ address, arena.physicalAddress position = .ok address ∧
      address.toNat = backing.base + position ∧ address ≠ nullAddress := by
    rintro position ⟨starts, stops⟩
    have inside : position < arena.used := by omega
    have low : arena.window.low ≤ position :=
      Nat.le_trans (Nat.le_of_eq tally.granule_eq) (Nat.le_trans lower starts)
    have spans : arena.window.Spans position 1 := ⟨low, inside⟩
    refine ⟨_, physicalAddress_eq_ok
      (Nat.le_trans (Nat.le_of_lt inside) tally.sound.used_le_capacity), ?_,
      Window.address_ne_null tally.sound.window_sound spans Nat.one_pos⟩
    rw [Window.toNat_address tally.sound.window_sound inside, ← tally.base_eq]
    rfl
  exact ⟨by omega, divides, by omega,
    addressed grant.block.offset ⟨Nat.le_refl _, by omega⟩, addressed⟩

theorem Sound.handsOut (sound : arena.Sound) {length : Nat}
    (room : arena.used + length ≤ arena.capacity) :
    arena.HandsOut ⟨arena.used, length⟩ (arena.grown length) := by
  have zero : ∀ position, Block.Has ⟨arena.used, length⟩ position →
      (arena.grown length).memory.get position = 0 := by
    intro position inside
    rw [memory_grown, Memory.get_clear]
    exact if_pos inside
  refine ⟨rfl, rfl, zero, ?_, ?_⟩
  · intro position inside
    have spans : (arena.grown length).window.Spans position 1 :=
      ⟨Nat.le_trans sound.granule_le_used inside.1, inside.2⟩
    refine ⟨_, physicalAddress_eq_ok (Nat.le_trans (Nat.le_of_lt inside.2) room), ?_⟩
    rw [Window.load_address (sound.grown room).window_sound spans Nat.one_pos,
      Record.read_byte, zero position inside]
  · intro position outside
    rw [memory_grown, Memory.get_clear]
    exact if_neg outside

/-- Whatever is asked of an arena, the blocks handed out are long enough, stand back to
back from the first granule to the bytes in use and have addresses of their own, none of
them null. The next block is handed out exactly if it fits the rest of the backing: the
shortest one in whole granules, full of zeros, with every other byte as it was. A block
that is refused changes nothing. -/
theorem demands_lay_out_blocks {backing : Backing} {granule : Nat}
    (opened : ofBacking backing granule = .ok arena) (demands : List Demand) :
    ∃ results after,
      Action.outcomes (demands.map Demand.perform) arena = (results, after) ∧
      (∀ grant ∈ grants demands results, grant.Proper backing granule after) ∧
      BackToBack granule after.used ((grants demands results).map Grant.block) ∧
      ((grants demands results).map Grant.block).Pairwise
        (fun earlier later => earlier.offset + earlier.length ≤ later.offset) ∧
      after.used ≤ backing.capacity ∧
      after.allocations = (grants demands results).length ∧
      ∀ bytes, ∃ length,
        IsLeast {length | granule ∣ length ∧ max bytes 1 ≤ length} length ∧
        (backing.capacity - after.used < length →
          (Demand.allocate bytes).perform after = .ok none after) ∧
        (length ≤ backing.capacity - after.used → ∃ next,
          (Demand.allocate bytes).perform after = .ok (some ⟨after.used, length⟩) next ∧
          after.HandsOut ⟨after.used, length⟩ next) := by
  obtain ⟨results, after, run, tally⟩ := (Tally.ofBacking opened).performAll demands
  rw [List.nil_append] at tally
  have inside := tally.sound.used_le_capacity
  refine ⟨results, after, run, fun grant member => tally.proper member,
    tally.backToBack, tally.backToBack.pairwise,
    tally.capacity_eq ▸ inside, tally.allocations_eq, ?_⟩
  intro bytes
  have next := Demand.perform_allocate tally.sound bytes
  have least := isLeast_blockLength tally.sound.granule_pos bytes
  rw [← tally.capacity_eq, ← tally.granule_eq]
  refine ⟨_, least, ?_, ?_⟩
  · intro full
    rw [next, if_neg (by omega)]
  · intro fits
    have room : after.used + blockLength after.granule bytes ≤ after.capacity := by
      omega
    rw [next, if_pos room]
    exact ⟨_, rfl, tally.sound.handsOut room⟩

/-- An arena whose last byte has the last address. One granule too many is refused, the
device stores where the host cannot yet, and the rest of the arena is handed out as one
block of zeros. -/
theorem demands_lay_out_blocks_up_to_last_address :
    ∃ arena after,
      ofBacking ⟨.heap, 0xFFFFF000, 4096, .zeros⟩ 64 = .ok arena ∧
      Action.outcomes ([.allocate 65, .allocate 3905, .store 0xFFFFF0C0 (7 : UInt8),
        .storeByDevice 0xFFFFF0C0 (9 : UInt8)].map Demand.perform) arena
        = ([.ok (some ⟨64, 128⟩), .ok none, .error (.addressOutside 0xFFFFF0C0),
          .ok none], after) ∧
      after.used = 192 ∧ after.allocations = 1 ∧ after.memory.get 192 = 9 ∧
      ∃ next, (Demand.allocate 3841).perform after = .ok (some ⟨192, 3904⟩) next ∧
        after.HandsOut ⟨192, 3904⟩ next := by
  have opened : ofBacking ⟨.heap, 0xFFFFF000, 4096, .zeros⟩ 64
      = .ok ⟨⟨.heap, 0xFFFFF000, 4096, .zeros⟩, 0xFFFFF000, 64, 64, 0⟩ := rfl
  obtain ⟨results, after, run, _, _, _, _, _, next⟩ := demands_lay_out_blocks opened
    [.allocate 65, .allocate 3905, .store 0xFFFFF0C0 (7 : UInt8),
      .storeByDevice 0xFFFFF0C0 (9 : UInt8)]
  obtain ⟨rfl, rfl⟩ := Prod.mk.inj run
  obtain ⟨length, least, _, fits⟩ := next 3841
  have length_eq : length = 3904 := least.unique (isLeast_blockLength (by decide) 3841)
  subst length_eq
  refine ⟨_, _, opened, rfl, rfl, rfl, by decide +kernel, ?_⟩
  exact fits (by decide +kernel)

end Arena

end ArenaPaths
