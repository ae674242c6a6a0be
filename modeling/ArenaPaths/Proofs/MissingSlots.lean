import ArenaPaths.Proofs.PriorityQueue
import ArenaPaths.Proofs.TypedAccess

/-!
# Frontiers with slots out of reach

A frontier may be put anywhere, so some of its slots may lie outside the window through
which it is used. An entry is counted before its slot is touched. If a slot is missing
on its way up, the frontier has counted an entry that it does not hold.

As long as the entries themselves are in reach, such a failure writes nothing. But the
last slot is missing from then on, and taking out an entry starts with the last slot:
the entries are stuck until all of them are forgotten.

Main statement: `Frontier.failed_push_harmless_only_if_full`.
-/

namespace ArenaPaths.Frontier

open ArenaPaths.Action

variable {frontier : Frontier} {window : Window} {memory : Memory} {index hole : Nat}

/-! ## Slots in reach -/

/-- All bytes of a slot lie in the window. -/
def InReach (frontier : Frontier) (window : Window) (index : Nat) : Prop :=
  window.base.toNat + window.low ≤ frontier.base.toNat + index * 8 ∧
    frontier.base.toNat + (index + 1) * 8 ≤ window.base.toNat + window.high

instance : Decidable (frontier.InReach window index) :=
  inferInstanceAs (Decidable (_ ∧ _))

/-- Where a slot in reach stands in memory. -/
def slotPosition (frontier : Frontier) (window : Window) (index : Nat) : Nat :=
  frontier.base.toNat + index * 8 - window.base.toNat

/-- What an access to a slot out of reach fails with. A slot whose address would be no
32-bit word stops the program. -/
def slotFault (frontier : Frontier) (index : Nat) : Fault :=
  if frontier.base.toNat + index * 8 < UInt32.size then
    .addressOutside (frontier.base.toNat + index * 8)
  else if index * 8 < UInt32.size then .abort .addOverflow
  else .abort .multiplyOverflow

theorem slotFault_ne_full (frontier : Frontier) (index capacity : Nat) :
    frontier.slotFault index ≠ .frontierFull capacity := by
  intro isFull
  rw [slotFault] at isFull
  split at isFull
  · cases isFull
  split at isFull
  · cases isFull
  · cases isFull

/-- The bytes of the slots between two numbers, both included. -/
def SlotBytes (frontier : Frontier) (window : Window)
    (first last position : Nat) : Prop :=
  frontier.base.toNat + first * 8 ≤ window.base.toNat + position ∧
    window.base.toNat + position < frontier.base.toNat + (last + 1) * 8

theorem slotAddress_eq_ok (fits : frontier.base.toNat + index * 8 < UInt32.size) :
    ∃ address, frontier.slotAddress index = .ok address ∧
      address.toNat = frontier.base.toNat + index * 8 :=
  ⟨_, Word.entryAddress_eq_ok fits, UInt32.toNat_ofNat_of_lt fits⟩

theorem slotAddress_eq_error
    (beyond : ¬ frontier.base.toNat + index * 8 < UInt32.size) :
    frontier.slotAddress index = .error (frontier.slotFault index) := by
  rw [slotAddress, Record.size_slot, slotFault, if_neg beyond]
  by_cases small : index * 8 < UInt32.size
  · simp only [Word.entryAddress, Word.mul_eq_ok small, Word.add, if_neg beyond,
      if_pos small, bind, Except.bind]
  · simp only [Word.entryAddress, Word.mul, if_neg small, bind, Except.bind]

section Reached

variable (reached : frontier.InReach window index) (sound : window.Sound)
include reached sound

/-- A slot in reach is located at its position. -/
theorem InReach.locate_eq : ∃ address, frontier.slotAddress index = .ok address ∧
    window.locate address (Record.size Slot)
      = .ok (frontier.slotPosition window index) := by
  obtain ⟨lower, upper⟩ := reached
  have stop_le := sound.base_add_high_le
  obtain ⟨address, addressed, toNat_eq⟩ :=
    slotAddress_eq_ok (show frontier.base.toNat + index * 8 < UInt32.size by omega)
  refine ⟨address, addressed, Window.locate_eq_ok_iff.mpr ?_⟩
  rw [toNat_eq, slotPosition, Record.size_slot]
  omega

theorem InReach.read_eq (memory : Memory) :
    frontier.read window index memory
      = .ok (Record.read memory (frontier.slotPosition window index)) memory := by
  obtain ⟨address, addressed, located⟩ := reached.locate_eq sound
  rw [read, addressed, liftM_ok_bind_apply, Window.load_of_locate located]

theorem InReach.write_eq (memory : Memory) (entry : Slot) :
    frontier.write window index entry memory
      = .ok () (Record.write memory (frontier.slotPosition window index) entry) := by
  obtain ⟨address, addressed, located⟩ := reached.locate_eq sound
  rw [write, addressed, liftM_ok_bind_apply, Window.store_of_locate located]

omit sound in
/-- Writing a slot in reach touches its own bytes. -/
theorem InReach.sameExcept_write {first last : Nat} (lower : first ≤ index)
    (upper : index ≤ last) (memory : Memory) (entry : Slot) :
    Memory.SameExcept (frontier.SlotBytes window first last) memory
      (Record.write memory (frontier.slotPosition window index) entry) := by
  apply Memory.sameExcept_write
  intro query starts stops
  have inWindow := reached.1
  rw [slotPosition] at starts stops
  rw [Record.size_slot] at stops
  constructor <;> omega

end Reached

section Missing

variable (missing : ¬ frontier.InReach window index)
include missing

/-- A slot out of reach has no address, or one that is not located. -/
theorem slot_cases_of_missing :
    frontier.slotAddress index = .error (frontier.slotFault index) ∨
    ∃ address, frontier.slotAddress index = .ok address ∧
      window.locate address (Record.size Slot) = .error (frontier.slotFault index) := by
  by_cases fits : frontier.base.toNat + index * 8 < UInt32.size
  · obtain ⟨address, addressed, toNat_eq⟩ := slotAddress_eq_ok fits
    refine .inr ⟨address, addressed, ?_⟩
    cases found : window.locate address (Record.size Slot) with
    | ok position =>
      obtain ⟨beyond, lower, upper⟩ := Window.locate_eq_ok_iff.mp found
      rw [Record.size_slot] at upper
      exact absurd ⟨by omega, by omega⟩ missing
    | error fault => rw [Window.locate_eq_error found, slotFault, if_pos fits, toNat_eq]
  · exact .inl (slotAddress_eq_error fits)

theorem read_of_missing (memory : Memory) :
    frontier.read window index memory = .error (frontier.slotFault index) memory := by
  rcases slot_cases_of_missing missing with beyond | ⟨address, addressed, outside⟩
  · rw [read, beyond, liftM_error_bind_apply]
  · rw [read, addressed, liftM_ok_bind_apply, Window.load_of_outside outside]

theorem write_of_missing (memory : Memory) (entry : Slot) :
    frontier.write window index entry memory
      = .error (frontier.slotFault index) memory := by
  rcases slot_cases_of_missing missing with beyond | ⟨address, addressed, outside⟩
  · rw [write, beyond, liftM_error_bind_apply]
  · rw [write, addressed, liftM_ok_bind_apply, Window.store, outside,
      liftM_error_bind_apply]

end Missing

/-! ## Sifting up -/

theorem siftUp_of_parent_missing (below : 1 < hole)
    (missing : ¬ frontier.InReach window (hole / 2)) (entry : Slot) (memory : Memory) :
    frontier.siftUp window entry hole memory
      = .error (frontier.slotFault (hole / 2)) memory := by
  rw [siftUp, if_pos below, bind_error (read_of_missing missing memory)]

/-- Without a slot for the hole nothing is written. -/
theorem siftUp_of_hole_missing (sound : window.Sound)
    (missing : ¬ frontier.InReach window hole)
    (parent : 1 < hole → frontier.InReach window (hole / 2)) (entry : Slot)
    (memory : Memory) :
    frontier.siftUp window entry hole memory
      = .error (frontier.slotFault hole) memory := by
  rw [siftUp]
  by_cases below : 1 < hole
  · rw [if_pos below, bind_ok ((parent below).read_eq sound memory)]
    split
    · exact write_of_missing missing memory entry
    · exact bind_error (write_of_missing missing memory _)
  · rw [if_neg below, write_of_missing missing]

/-- Without the hole or its parent, sifting up meets one of the two before it writes
anything. -/
theorem siftUp_of_missing (sound : window.Sound) (positive : 1 ≤ hole)
    (missing : ¬ frontier.InReach window hole ∨ 1 < hole ∧
      ¬ frontier.InReach window (hole / 2))
    (entry : Slot) (memory : Memory) :
    ∃ index, 1 ≤ index ∧ index ≤ hole ∧ ¬ frontier.InReach window index ∧
      frontier.siftUp window entry hole memory
        = .error (frontier.slotFault index) memory := by
  by_cases parent : 1 < hole → frontier.InReach window (hole / 2)
  · have holeMissing : ¬ frontier.InReach window hole :=
      missing.resolve_right fun out => out.2 (parent out.1)
    exact ⟨hole, positive, Nat.le_refl _, holeMissing,
      siftUp_of_hole_missing sound holeMissing parent entry memory⟩
  · obtain ⟨below, parentMissing⟩ := Classical.not_imp.mp parent
    exact ⟨hole / 2, by omega, by omega, parentMissing,
      siftUp_of_parent_missing below parentMissing entry memory⟩

/-- Sifting up places the entry, or it meets a slot out of reach and has written none
but slots behind that one. -/
theorem siftUp_cases (sound : window.Sound) (positive : 1 ≤ hole) (entry : Slot)
    (memory : Memory) :
    (∃ after, frontier.siftUp window entry hole memory = .ok () after) ∨
    ∃ index after, 1 ≤ index ∧ index ≤ hole ∧ ¬ frontier.InReach window index ∧
      frontier.siftUp window entry hole memory
        = .error (frontier.slotFault index) after ∧
      Memory.SameExcept (frontier.SlotBytes window (index + 1) hole) memory after := by
  induction hole using Nat.strongRecOn generalizing memory with
  | ind hole ih =>
    by_cases missing : ¬ frontier.InReach window hole ∨ 1 < hole ∧
      ¬ frontier.InReach window (hole / 2)
    · obtain ⟨index, lower, upper, indexMissing, failed⟩ :=
        siftUp_of_missing sound positive missing entry memory
      exact .inr ⟨index, memory, lower, upper, indexMissing, failed, .refl _⟩
    · rw [not_or, not_not, not_and, not_not] at missing
      obtain ⟨reached, parent⟩ := missing
      rw [siftUp]
      by_cases below : 1 < hole
      · rw [if_pos below, bind_ok ((parent below).read_eq sound memory)]
        split
        · exact .inl ⟨_, reached.write_eq sound memory entry⟩
        · -- the parent moves down into the hole, which lies behind all slots that are
          -- touched later
          rw [bind_ok (reached.write_eq sound memory _)]
          rcases ih (hole / 2) (by omega) (by omega) _ with
            placed | ⟨index, after, lower, upper, missing, failed, same⟩
          · exact .inl placed
          · refine .inr ⟨index, after, lower, by omega, missing, failed, ?_⟩
            have own := reached.sameExcept_write (show index + 1 ≤ hole by omega)
                (Nat.le_refl hole) memory
            refine (own _).trans
              (same.mono fun position bytes => ⟨bytes.1, Nat.lt_of_lt_of_le bytes.2 ?_⟩)
            omega
      · rw [if_neg below]
        exact .inl ⟨_, reached.write_eq sound memory entry⟩

/-! ## Entries that get stuck -/

variable {workspace : Workspace}

/-- Without a slot behind its entries, a frontier counts a new one and does nothing
else. -/
theorem exists_push_eq_error (sound : window.Sound)
    (notFull : workspace.frontier.size ≠ workspace.frontier.capacity)
    (missing : ¬ workspace.frontier.InReach window (workspace.frontier.size + 1))
    (cost : UInt32) (node : NodeRef) :
    ∃ fault, push window cost node workspace
      = .error fault ⟨{ workspace.frontier with size := workspace.frontier.size + 1 },
        workspace.memory⟩ := by
  obtain ⟨index, _, _, _, failed⟩ :=
    siftUp_of_missing sound (Nat.succ_pos workspace.frontier.size) (.inl missing)
      ⟨cost, node.address⟩ workspace.memory
  exact ⟨workspace.frontier.slotFault index, push_of_siftUp_error notFull failed⟩

/-- To take out an entry the last slot is needed. -/
theorem pop_of_last_missing (sound : window.Sound)
    (positive : 0 < workspace.frontier.size)
    (first : workspace.frontier.InReach window 1)
    (last : ¬ workspace.frontier.InReach window workspace.frontier.size) :
    pop window workspace
      = .error (workspace.frontier.slotFault workspace.frontier.size) workspace := by
  have top : Workspace.onMemory (workspace.frontier.read window 1) workspace
      = .ok _ workspace :=
    focus_eq_ok (first.read_eq sound workspace.memory)
  have noLast : Workspace.onMemory
      (workspace.frontier.read window workspace.frontier.size) workspace
      = .error _ workspace := focus_eq_error (read_of_missing last workspace.memory)
  simp only [pop, get_bind_apply, if_neg (Nat.ne_of_gt positive), bind_ok top,
    bind_error noLast]

/-- A frontier that counts more entries than it has slots in reach, and has some. -/
structure Stuck (window : Window) (frontier : Frontier) : Prop where
  positive : 0 < frontier.size
  first : frontier.InReach window 1
  last : ¬ frontier.InReach window frontier.size

namespace Stuck

/-- If the first slot is in reach and the last one is not, the window ends between
them. -/
theorem missing_of_le (stuck : Stuck window frontier) (later : frontier.size ≤ index) :
    ¬ frontier.InReach window index := by
  obtain ⟨positive, ⟨lower, _⟩, last⟩ := stuck
  intro reached
  have upper := reached.2
  exact last ⟨by omega, by omega⟩

variable (stuck : Stuck window workspace.frontier) (sound : window.Sound)
include stuck sound

/-- No operation but to forget all entries does anything to a stuck frontier, except
that it may count one more. -/
theorem perform {operation : Operation} (lasting : operation ≠ .clear) :
    ∃ fault next, (operation.perform window).outcome workspace = (.error fault, next) ∧
      next.memory = workspace.memory ∧ Stuck window next.frontier := by
  cases operation with
  | push item =>
    by_cases full : workspace.frontier.size = workspace.frontier.capacity
    · exact ⟨_, workspace,
        outcome_of_error (bind_error (push_of_full full item.1 item.2)), rfl, stuck⟩
    · have beyond := stuck.missing_of_le (Nat.le_succ workspace.frontier.size)
      obtain ⟨fault, failed⟩ := exists_push_eq_error sound full beyond item.1 item.2
      exact ⟨fault, _, outcome_of_error (bind_error failed), rfl, Nat.succ_pos _,
        stuck.first, beyond⟩
  | pop =>
    exact ⟨_, workspace, outcome_of_error
      (pop_of_last_missing sound stuck.positive stuck.first stuck.last), rfl, stuck⟩
  | clear => exact absurd rfl lasting

/-- Operations one after another leave a stuck frontier stuck, as long as none of them
forgets all entries. -/
theorem performAll {operations : List Operation} (lasting : .clear ∉ operations) :
    ∃ results next,
      outcomes (operations.map (Operation.perform window)) workspace = (results, next) ∧
      (∀ result ∈ results, ∃ fault, result = .error fault) ∧
        next.memory = workspace.memory ∧
      Stuck window next.frontier := by
  induction operations generalizing workspace with
  | nil =>
    exact ⟨[], workspace, rfl, fun result member => absurd member List.not_mem_nil, rfl,
      stuck⟩
  | cons operation rest ih =>
    rw [List.mem_cons, not_or] at lasting
    obtain ⟨fault, between, failed, same, still⟩ :=
      stuck.perform sound (Ne.symm lasting.1)
    obtain ⟨results, next, ran, failures, sameLater, stillLater⟩ := ih still lasting.2
    refine ⟨_, next, outcomes_cons failed ran, ?_, sameLater.trans same, stillLater⟩
    intro result member
    rcases List.mem_cons.mp member with rfl | later
    · exact ⟨fault, rfl⟩
    · exact failures result later

end Stuck

/-! ## What a failed push leaves -/

/-- What a failure has to leave as it is: the count of the entries and all bytes of
their slots. -/
structure Untouched (window : Window) (before after : Workspace) : Prop where
  size_eq : after.frontier.size = before.frontier.size
  get_eq :
    ∀ position, before.frontier.SlotBytes window 1 before.frontier.size position →
    after.memory.get position = before.memory.get position

/-- What a failure leaves that met a slot out of reach: the entry is counted all the
same, and slots behind the one that is missing may have been written. -/
structure Miscounted (window : Window) (before : Workspace) (fault : Fault)
    (after : Workspace) (index : Nat) :
    Prop where
  positive : 1 ≤ index
  le_hole : index ≤ before.frontier.size + 1
  missing : ¬ before.frontier.InReach window index
  fault_eq : fault = before.frontier.slotFault index
  frontier_eq :
    after.frontier = { before.frontier with size := before.frontier.size + 1 }
  same : Memory.SameExcept (before.frontier.SlotBytes window (index + 1)
      (before.frontier.size + 1)) before.memory
    after.memory

/-- Whatever is done short of forgetting all entries fails, and changes no byte. -/
def Stalled (window : Window) (workspace : Workspace) : Prop :=
  ∀ operations : List Operation, .clear ∉ operations → ∃ results next,
    outcomes (operations.map (Operation.perform window)) workspace = (results, next) ∧
    (∀ result ∈ results, ∃ fault, result = .error fault) ∧
      next.memory = workspace.memory

/-- All entries can be read. -/
def EntriesInReach (frontier : Frontier) (window : Window) : Prop :=
  ∀ index, 1 ≤ index → index ≤ frontier.size → frontier.InReach window index

section Outcomes

variable (sound : window.Sound)
  (notFull : workspace.frontier.size ≠ workspace.frontier.capacity) {cost : UInt32}
  {node : NodeRef}
include sound notFull

theorem exists_miscounted {fault : Fault} {after : Workspace}
    (failed : push window cost node workspace = .error fault after) :
    ∃ index, Miscounted window workspace fault after index := by
  rcases siftUp_cases sound (Nat.succ_pos workspace.frontier.size)
    ⟨cost, node.address⟩ workspace.memory with
    ⟨memory, placed⟩ | ⟨index, memory, lower, upper, missing, met, same⟩
  · rw [push_of_siftUp_ok notFull placed] at failed
    cases failed
  · rw [push_of_siftUp_error notFull met] at failed
    cases failed
    exact ⟨index, lower, upper, missing, rfl, rfl, same⟩

variable (entries : workspace.frontier.EntriesInReach window)
include entries

theorem exists_push_eq_ok
    (last : workspace.frontier.InReach window (workspace.frontier.size + 1)) :
    ∃ memory, push window cost node workspace
      = .ok () ⟨{ workspace.frontier with size := workspace.frontier.size + 1 },
        memory⟩ := by
  rcases siftUp_cases sound (Nat.succ_pos workspace.frontier.size)
    ⟨cost, node.address⟩ workspace.memory with
    ⟨memory, placed⟩ | ⟨index, memory, lower, upper, missing, _⟩
  · exact ⟨memory, push_of_siftUp_ok notFull placed⟩
  · rcases Nat.lt_or_eq_of_le upper with earlier | rfl
    · exact absurd (entries index lower (Nat.le_of_lt_succ earlier)) missing
    · exact absurd last missing

theorem push_of_end_missing
    (missing : ¬ workspace.frontier.InReach window (workspace.frontier.size + 1)) :
    push window cost node workspace
      = .error (workspace.frontier.slotFault (workspace.frontier.size + 1))
          ⟨{ workspace.frontier with size := workspace.frontier.size + 1 },
            workspace.memory⟩ := by
  refine push_of_siftUp_error notFull
    (siftUp_of_hole_missing sound missing (fun below => ?_) _ _)
  exact entries _ (by omega) (by omega)

end Outcomes

/-- The entries of a frontier whose next slot is missing are stuck as soon as one more
is counted. -/
theorem stalled_of_end_missing (sound : window.Sound)
    (entries : frontier.EntriesInReach window)
    (missing : ¬ frontier.InReach window (frontier.size + 1)) (held : 0 < frontier.size)
    (memory : Memory) :
    Stalled window ⟨{ frontier with size := frontier.size + 1 }, memory⟩ := by
  intro operations lasting
  have stuck : Stuck window
      (Workspace.mk { frontier with size := frontier.size + 1 } memory).frontier :=
    ⟨Nat.succ_pos _, entries 1 (Nat.le_refl 1) held, missing⟩
  obtain ⟨results, next, ran, failures, same, _⟩ := stuck.performAll sound lasting
  exact ⟨results, next, ran, failures, same⟩

/-- A push that fails leaves count and entries as they were exactly if it fails because
the frontier is full, and then it changes nothing at all. Any other failure met a slot
out of reach: the entry is counted, and slots behind the missing one may have been
written. While the entries are in reach this happens exactly if the slot behind them is
not. Then no byte changes, but the count is wrong, and if there are entries no further
one gets in and none of them comes out any more. -/
theorem failed_push_harmless_only_if_full {arena : Arena}
    (obtainable : arena.Obtainable) (view : View) {window : Window}
    (seen : window = view.window arena) (workspace : Workspace) (cost : UInt32)
    (node : NodeRef) :
    (∀ fault after, push window cost node workspace = .error fault after →
      (Untouched window workspace after ↔
        fault = .frontierFull workspace.frontier.capacity) ∧
      (fault = .frontierFull workspace.frontier.capacity → after = workspace) ∧
      (fault ≠ .frontierFull workspace.frontier.capacity →
        ∃ index, Miscounted window workspace fault after index)) ∧
    (workspace.frontier.size = workspace.frontier.capacity →
      push window cost node workspace
        = .error (.frontierFull workspace.frontier.capacity) workspace) ∧
    (workspace.frontier.size ≠ workspace.frontier.capacity →
      workspace.frontier.EntriesInReach window →
      (workspace.frontier.InReach window (workspace.frontier.size + 1) → ∃ memory,
        push window cost node workspace
          = .ok ()
              ⟨{ workspace.frontier with size := workspace.frontier.size + 1 },
                memory⟩) ∧
      (¬ workspace.frontier.InReach window (workspace.frontier.size + 1) →
        push window cost node workspace
          = .error (workspace.frontier.slotFault (workspace.frontier.size + 1))
              ⟨{ workspace.frontier with size := workspace.frontier.size + 1 },
                workspace.memory⟩ ∧
        (0 < workspace.frontier.size →
          Stalled window
            ⟨{ workspace.frontier with size := workspace.frontier.size + 1 },
              workspace.memory⟩))) := by
  have sound : window.Sound := seen ▸ View.window_sound obtainable.sound view
  refine ⟨?_, fun full => push_of_full full cost node, ?_⟩
  · intro fault after failed
    by_cases full : workspace.frontier.size = workspace.frontier.capacity
    · rw [push_of_full full] at failed
      cases failed
      exact ⟨⟨fun _ => rfl, fun _ => ⟨rfl, fun _ _ => rfl⟩⟩, fun _ => rfl,
        fun other => absurd rfl other⟩
    · obtain ⟨index, miscounted⟩ := exists_miscounted sound full failed
      have notFull : fault ≠ .frontierFull workspace.frontier.capacity :=
        miscounted.fault_eq ▸ slotFault_ne_full _ _ _
      refine ⟨⟨?_, fun isFull => absurd isFull notFull⟩,
        fun isFull => absurd isFull notFull, fun _ => ⟨index, miscounted⟩⟩
      intro untouched
      have counted := untouched.size_eq
      rw [miscounted.frontier_eq] at counted
      exact absurd counted (Nat.succ_ne_self _)
  · intro notFull entries
    refine ⟨exists_push_eq_ok sound notFull entries, fun missing => ?_⟩
    exact ⟨push_of_end_missing sound notFull entries missing,
      fun held => stalled_of_end_missing sound entries missing held _⟩

/-- The device reaches two slots of a frontier at the end of a backing. With one entry
in them another one is taken; with two of them the next one is counted without a slot,
and the two are stuck. -/
theorem failed_push_harmless_only_if_full_at_backing_end :
    ∃ arena window, Arena.ofBacking ⟨.heap, 0x10000000, 65536, .zeros⟩ 64 = .ok arena ∧
      window = View.device.window arena ∧
      (∃ memory, push window 4 ⟨96, by decide⟩ ⟨⟨0x1000FFE8, 4, 1⟩, arena.memory⟩
        = .ok () ⟨⟨0x1000FFE8, 4, 2⟩, memory⟩) ∧
      push window 4 ⟨96, by decide⟩ ⟨⟨0x1000FFE8, 4, 2⟩, arena.memory⟩
        = .error (.addressOutside 0x10010000) ⟨⟨0x1000FFE8, 4, 3⟩, arena.memory⟩ ∧
      ¬ Untouched window ⟨⟨0x1000FFE8, 4, 2⟩, arena.memory⟩
        ⟨⟨0x1000FFE8, 4, 3⟩, arena.memory⟩ ∧
      Stalled window ⟨⟨0x1000FFE8, 4, 3⟩, arena.memory⟩ := by
  have opened : Arena.ofBacking ⟨.heap, 0x10000000, 65536, .zeros⟩ 64
      = .ok ⟨⟨.heap, 0x10000000, 65536, .zeros⟩, 0x10000000, 64, 64, 0⟩ := rfl
  have inReach : ∀ size index, 1 ≤ index → index ≤ 2 →
      InReach ⟨0x1000FFE8, 4, size⟩ ⟨0x10000000, 64, 65536⟩ index := by
    intro size index lower upper
    change InReach ⟨0x1000FFE8, 4, 0⟩ ⟨0x10000000, 64, 65536⟩ index
    obtain rfl | rfl : index = 1 ∨ index = 2 := by omega
    · decide
    · decide
  obtain ⟨_, _, taking⟩ :=
    failed_push_harmless_only_if_full (.ofBacking opened) .device rfl
    ⟨⟨0x1000FFE8, 4, 1⟩, .zeros⟩ 4 ⟨96, by decide⟩
  obtain ⟨failing, _, stalling⟩ :=
    failed_push_harmless_only_if_full (.ofBacking opened) .device rfl
    ⟨⟨0x1000FFE8, 4, 2⟩, .zeros⟩ 4 ⟨96, by decide⟩
  obtain ⟨taken, _⟩ := taking (by decide) fun index lower upper =>
    inReach 1 index lower (Nat.le_succ_of_le upper)
  obtain ⟨_, failed⟩ := stalling (by decide) (inReach 2)
  obtain ⟨pushed, stalled⟩ := failed (by decide)
  obtain ⟨harmless, _⟩ := failing _ _ pushed
  exact ⟨_, _, opened, rfl, taken (inReach 1 2 (by decide) (by decide)), pushed,
    mt harmless.mp (by decide), stalled (by decide)⟩

/-- Two items go into the same two slots, the cheaper one last, and then come other
operations. -/
def afterPair (arena : Arena) (operations : List Operation) :
    List (Except Fault (Option Item)) × Workspace :=
  outcomes
    ((.push (5, ⟨96, by decide⟩) :: .push (3, ⟨112, by decide⟩) :: operations).map
    (Operation.perform (View.device.window arena))) ⟨⟨0x1000FFE8, 4, 0⟩, arena.memory⟩

/-- Of two items the cheaper one comes out first. If a third one was refused in between,
three of them are counted, and the cheaper one does not come out any more. -/
theorem failed_push_keeps_items_in :
    ∃ arena, Arena.ofBacking ⟨.heap, 0x10000000, 65536, .zeros⟩ 64 = .ok arena ∧
      (afterPair arena [.pop]).1
        = [.ok none, .ok none, .ok (some (3, ⟨112, by decide⟩))] ∧
      (afterPair arena []).2.frontier.size = 2 ∧
      (afterPair arena [.push (4, ⟨96, by decide⟩)]).2.frontier.size = 3 ∧
      (afterPair arena [.push (4, ⟨96, by decide⟩), .pop]).1
        = [.ok none, .ok none, .error (.addressOutside 0x10010000),
          .error (.addressOutside 0x10010000)] :=
  ⟨_, rfl, by decide +kernel, by decide +kernel, by decide +kernel, by decide +kernel⟩

end ArenaPaths.Frontier
