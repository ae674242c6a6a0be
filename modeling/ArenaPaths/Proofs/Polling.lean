import ArenaPaths.Channel.Registers
import ArenaPaths.Proofs.Running

/-!
# Polling

What a guarded channel does to the registers, whatever is behind them. It looks at the
status until the bit in question is clear and then uses the data register once; or it
finds the bit set as often as it may look, and reports that number without having
touched the data register. Nothing else makes a difference: neither the other bits of
the status nor how often other threads get a chance. An unguarded channel uses the data
register once and never looks.

Main statement: `RegisterBank.errand_polls_exactly`.
-/

namespace ArenaPaths

open ArenaPaths.Action

/-- What goes through a register in an access. -/
inductive Transfer where
  | write (word : UInt32)
  | read (word : UInt32)
  deriving DecidableEq, Repr

namespace Polling

theorem yields_eq_ok (polling : Polling) (polls : Nat) :
    ∃ due, polling.yields polls = .ok due := by
  have positive : 0 < max polling.yieldInterval 1 := by omega
  rw [yields, Word.rem_eq_ok positive]
  exact ⟨_, rfl⟩

theorem reads_pos (polling : Polling) : 0 < polling.reads := by
  rw [reads]
  split
  · omega
  · decide

end Polling

namespace RegisterBank

variable {σ : Type} {bank : RegisterBank σ} {state next : σ} {mask word : UInt32}

/-! ## Waiting -/

theorem isClear_eq (read : bank.read Register.status state = .ok word next) :
    bank.isClear mask state = .ok (word &&& mask == 0) next := by
  rw [isClear, bind_ok read, pure_apply]

/-- What holds of the statuses read so far, and is carried on by each look, holds after
a wait. The wait has come upon a clear bit with its last look, or it has found the bit
set as often as it may look. -/
theorem poll_cases {Holds : List UInt32 → σ → Prop}
    (looks : ∀ statuses state, Holds statuses state → ∃ word next,
      bank.read Register.status state = .ok word next ∧ Holds (statuses ++ [word]) next)
    (polling : Polling) (mask : UInt32) (operation : String) (polls remaining : Nat)
    (before : List UInt32) (holds : Holds before state) :
    (∃ busy last next,
      bank.poll polling mask operation polls remaining state = .ok () next ∧
      Holds (before ++ (busy ++ [last])) next ∧ (∀ status ∈ busy, status &&& mask ≠ 0) ∧
        last &&& mask = 0 ∧
      busy.length ≤ remaining) ∨
    ∃ busy next, bank.poll polling mask operation polls remaining state
      = .error (polling.exhausted operation) next ∧
      Holds (before ++ busy) next ∧ (∀ status ∈ busy, status &&& mask ≠ 0) ∧
        busy.length = remaining + 1 := by
  induction remaining generalizing polls before state with
  | zero =>
    obtain ⟨word, next, read, holdsNext⟩ := looks before state holds
    rw [poll, bind_ok (isClear_eq read)]
    by_cases clear : word &&& mask = 0
    · exact .inl ⟨[], word, next, by simp [clear], holdsNext, by simp, clear,
        Nat.le_refl 0⟩
    · exact .inr ⟨[word], next, by simp [clear], holdsNext, by simpa using clear, rfl⟩
  | succ remaining ih =>
    obtain ⟨word, next, read, holdsNext⟩ := looks before state holds
    obtain ⟨due, yields⟩ := polling.yields_eq_ok (polls + 1)
    rw [poll, bind_ok (isClear_eq read)]
    by_cases clear : word &&& mask = 0
    · exact .inl ⟨[], word, next, by simp [clear], holdsNext, by simp, clear,
        Nat.zero_le _⟩
    have goesOn : ∀ status ∈ [word], status &&& mask ≠ 0 := by simpa using clear
    simp only [beq_iff_eq, clear, if_false, yields, liftM_ok_bind_apply]
    rcases ih (polls + 1) _ holdsNext with
      ⟨busy, last, rest, ran, holdsRest, set, lastClear, within⟩ |
      ⟨busy, rest, ran, holdsRest, set, all⟩
    · refine .inl ⟨word :: busy, last, rest, ran, ?_, ?_, lastClear,
        Nat.succ_le_succ within⟩
      · rwa [List.append_assoc] at holdsRest
      · exact List.forall_mem_append.mpr ⟨goesOn, set⟩
    · refine .inr ⟨word :: busy, rest, ran, ?_, ?_, congrArg (· + 1) all⟩
      · rwa [List.append_assoc] at holdsRest
      · exact List.forall_mem_append.mpr ⟨goesOn, set⟩

/-! ## Taking down the accesses -/

/-- No access fails. -/
structure Answers (bank : RegisterBank σ) : Prop where
  read : ∀ offset state, ∃ word next, bank.read offset state = .ok word next
  write : ∀ offset word state, ∃ next, bank.write offset word state = .ok () next

/-- The registers of a bank, with a list of all accesses to them in order. -/
def recorded (bank : RegisterBank σ) : RegisterBank (σ × List (Nat × Transfer)) where
  read offset := do
    let word ← onFirst (bank.read offset)
    onSecond (modify (· ++ [(offset, .read word)]))
    return word
  write offset word := do
    onFirst (bank.write offset word)
    onSecond (modify (· ++ [(offset, .write word)]))

/-- Looks at the status that gave the given words. -/
def looks (statuses : List UInt32) : List (Nat × Transfer) :=
  statuses.map fun word => (Register.status, .read word)

theorem looks_append (earlier later : List UInt32) :
    looks (earlier ++ later) = looks earlier ++ looks later :=
  List.map_append

theorem Answers.read_recorded (answers : bank.Answers) (offset : Nat) (state : σ)
    (accesses : List (Nat × Transfer)) :
    ∃ word next,
      bank.recorded.read offset (state, accesses)
        = .ok word (next, accesses ++ [(offset, .read word)]) := by
  obtain ⟨word, next, read⟩ := answers.read offset state
  exact ⟨word, next, bind_ok (onFirst_eq_ok read)⟩

theorem Answers.write_recorded (answers : bank.Answers) (offset : Nat) (word : UInt32)
    (state : σ) (accesses : List (Nat × Transfer)) :
    ∃ next,
      bank.recorded.write offset word (state, accesses)
        = .ok () (next, accesses ++ [(offset, .write word)]) := by
  obtain ⟨next, written⟩ := answers.write offset word state
  exact ⟨next, bind_ok (onFirst_eq_ok written)⟩

/-- A guarded wait looks at the status and makes no other access. -/
theorem Answers.await_guarded (answers : bank.Answers) (polling : Polling)
    (mask : UInt32) (operation : String) (state : σ) :
    (∃ busy last next,
      bank.recorded.await .guarded polling mask operation (state, [])
        = .ok () (next, looks (busy ++ [last])) ∧
      (∀ status ∈ busy, status &&& mask ≠ 0) ∧ last &&& mask = 0 ∧
        busy.length + 1 ≤ polling.reads) ∨
    ∃ busy next, bank.recorded.await .guarded polling mask operation (state, [])
        = .error (polling.exhausted operation) (next, looks busy) ∧
      (∀ status ∈ busy, status &&& mask ≠ 0) ∧ busy.length = polling.reads := by
  have step : ∀ (statuses : List UInt32) (state : σ × List (Nat × Transfer)),
      state.2 = looks statuses → ∃ word next,
      bank.recorded.read Register.status state = .ok word next ∧
      next.2 = looks (statuses ++ [word]) := by
    rintro statuses ⟨state, accesses⟩ rfl
    obtain ⟨word, next, read⟩ :=
      answers.read_recorded Register.status state (looks statuses)
    exact ⟨word, _, read, (looks_append statuses [word]).symm⟩
  have positive := polling.reads_pos
  rcases poll_cases step polling mask operation 0 (polling.reads - 1) []
    (rfl : (state, []).2 = looks []) with
    ⟨busy, last, ⟨next, accesses⟩, polled, rfl, set, clear,
      within⟩ | ⟨busy, ⟨next, accesses⟩, polled, rfl, set, all⟩
  · exact .inl ⟨busy, last, next, polled, set, clear, by omega⟩
  · exact .inr ⟨busy, next, polled, set, by omega⟩

/-! ## Other bits of the status -/

/-- The registers of a bank, but for the bits of the status outside a mask, which are
any bits at all. -/
def disturbed (bank : RegisterBank σ) (mask : UInt32) (noise : σ → UInt32) :
    RegisterBank σ where
  read offset := do
    let state ← get
    let word ← bank.read offset
    return if offset = Register.status then
      (word &&& mask) ||| (noise state &&& ~~~mask) else word
  write := bank.write

theorem disturbed_and_mask (word noise mask : UInt32) :
    ((word &&& mask) ||| (noise &&& ~~~mask)) &&& mask = word &&& mask := by
  apply UInt32.toBitVec_inj.mp
  ext index inside
  simp only [UInt32.toBitVec_and, UInt32.toBitVec_or, UInt32.toBitVec_not,
    BitVec.getElem_and, BitVec.getElem_or, BitVec.getElem_not]
  cases mask.toBitVec[index] <;> simp

theorem isClear_disturbed (bank : RegisterBank σ) (mask : UInt32) (noise : σ → UInt32) :
    (bank.disturbed mask noise).isClear mask = bank.isClear mask := by
  funext state
  cases read : bank.read Register.status state with
  | ok word next =>
    have disturbed : (bank.disturbed mask noise).read Register.status state
        = .ok ((word &&& mask) ||| (noise state &&& ~~~mask)) next :=
          (get_bind_apply _ _).trans (bind_ok read)
    rw [isClear_eq disturbed, isClear_eq read, disturbed_and_mask]
  | error fault next =>
    have disturbed :
        (bank.disturbed mask noise).read Register.status state = .error fault next :=
      (get_bind_apply _ _).trans (bind_error read)
    rw [isClear, isClear, bind_error disturbed, bind_error read]

theorem read_data_disturbed (bank : RegisterBank σ) (mask : UInt32)
    (noise : σ → UInt32) :
    (bank.disturbed mask noise).read Register.data = bank.read Register.data := by
  funext state
  cases read : bank.read Register.data state with
  | ok word next => exact (get_bind_apply _ _).trans (bind_ok read)
  | error fault next => exact (get_bind_apply _ _).trans (bind_error read)

/-- Neither the other bits nor the interval make a difference to a wait. -/
theorem await_disturbed (bank : RegisterBank σ) (guard : Guard) (polling : Polling)
    (mask : UInt32) (operation : String) (noise : σ → UInt32) (interval : Nat) :
    (bank.disturbed mask noise).await guard { polling with
      yieldInterval := interval } mask operation
      = bank.await guard polling mask operation := by
  cases guard with
  | unguarded => rfl
  | guarded =>
    have sameReads : ({ polling with yieldInterval := interval } : Polling).reads
        = polling.reads := rfl
    simp only [await, sameReads]
    generalize polling.reads - 1 = remaining
    generalize 0 = polls
    induction remaining generalizing polls with
    | zero =>
      rw [poll, poll, isClear_disturbed]
      rfl
    | succ remaining ih =>
      obtain ⟨due, yields⟩ := polling.yields_eq_ok (polls + 1)
      obtain ⟨otherDue, otherYields⟩ :=
        ({ polling with yieldInterval := interval } : Polling).yields_eq_ok (polls + 1)
      rw [poll, poll, isClear_disturbed, yields, otherYields]
      apply bind_congr
      intro clear
      split
      · rfl
      · exact ih (polls + 1)

end RegisterBank

/-! ## Errands -/

/-- What the data register is used for. -/
inductive Errand where
  | send (word : UInt32)
  | receive
  deriving DecidableEq, Repr

namespace Errand

variable {σ : Type} {bank : RegisterBank σ} {polling : Polling} {value : Option UInt32}
  {transfer : Transfer}

/-- The status bit that an errand waits for. -/
def mask : Errand → UInt32
  | .send _ => Register.inputFull
  | .receive => Register.outputEmpty

/-- The name of an errand in a timeout. -/
def operation : Errand → String
  | .send _ => "write_word"
  | .receive => "read_word"

/-- Run an errand over a channel. It returns the word that was received, if it was for
one. -/
def perform (bank : RegisterBank σ) (guard : Guard) (polling : Polling) :
    Errand → Action σ (Option UInt32)
  | .send word => do
    (bank.channel guard polling).send word
    return none
  | .receive => do
    let word ← (bank.channel guard polling).receive
    return some word

/-- The use of the data register, once there is nothing to wait for. -/
def transact (bank : RegisterBank σ) : Errand → Action σ (Option UInt32)
  | .send word => do
    bank.write Register.data word
    return none
  | .receive => do
    let word ← bank.read Register.data
    return some word

theorem perform_eq (errand : Errand) (bank : RegisterBank σ) (guard : Guard)
    (polling : Polling) :
    errand.perform bank guard polling =
      (do
        bank.await guard polling errand.mask errand.operation
        errand.transact bank : Action σ (Option UInt32)) := by
  cases errand with
  | send word => exact bind_assoc _ _ _
  | receive => exact bind_assoc _ _ _

/-- What an errand that is done moves through the data register and returns. -/
inductive Moves : Errand → Transfer → Option UInt32 → Prop
  | send (word : UInt32) : Moves (.send word) (.write word) none
  | receive (word : UInt32) : Moves .receive (.read word) (some word)

/-- How a guarded errand ends, given all accesses to the registers. -/
inductive Ends (errand : Errand) (polling : Polling) :
    List (Nat × Transfer) → Except Fault (Option UInt32) → Prop
  /-- The last look has found the bit clear for the first time. -/
  | done {busy : List UInt32} {last : UInt32} {transfer : Transfer}
      {value : Option UInt32} :
      (∀ status ∈ busy, status &&& errand.mask ≠ 0) → last &&& errand.mask = 0 →
      (∀ limit ∈ polling.limit, busy.length + 1 ≤ max 1 limit) →
        errand.Moves transfer value →
      Ends errand polling
        (RegisterBank.looks (busy ++ [last]) ++ [(Register.data, transfer)]) (.ok value)
  /-- As often as it may look, the bit was set. -/
  | timeout {busy : List UInt32} {limit : Nat} :
      polling.limit = some limit → busy.length = max 1 limit →
      (∀ status ∈ busy, status &&& errand.mask ≠ 0) →
      Ends errand polling (RegisterBank.looks busy)
        (.error (.timeout errand.operation (max 1 limit)))
  /-- There is no limit, and the bit was set for more looks than can be counted. -/
  | endless {busy : List UInt32} :
      polling.limit = none → busy.length = Polling.countable →
      (∀ status ∈ busy, status &&& errand.mask ≠ 0) →
      Ends errand polling (RegisterBank.looks busy) (.error (.abort .addOverflow))

/-- The data register is used once. -/
theorem transact_recorded (answers : bank.Answers) (errand : Errand) (state : σ)
    (accesses : List (Nat × Transfer)) :
    ∃ transfer value next, errand.Moves transfer value ∧
      errand.transact bank.recorded (state, accesses)
        = .ok value (next, accesses ++ [(Register.data, transfer)]) := by
  cases errand with
  | send word =>
    obtain ⟨next, written⟩ := answers.write_recorded Register.data word state accesses
    exact ⟨_, _, next, .send word, bind_ok written⟩
  | receive =>
    obtain ⟨word, next, read⟩ := answers.read_recorded Register.data state accesses
    exact ⟨_, _, next, .receive word, bind_ok read⟩

/-- A guarded errand ends in one of three ways. -/
theorem exists_ends (answers : bank.Answers) (errand : Errand) (polling : Polling)
    (state : σ) :
    ∃ result after accesses,
      (errand.perform bank.recorded .guarded polling).outcome (state, [])
        = (result, after, accesses) ∧
      errand.Ends polling accesses result := by
  rw [perform_eq]
  rcases answers.await_guarded polling errand.mask errand.operation state with
    ⟨busy, last, next, waited, set, clear, within⟩ | ⟨busy, next, waited, set, all⟩
  · obtain ⟨transfer, value, after, moves, moved⟩ :=
      errand.transact_recorded answers next (RegisterBank.looks (busy ++ [last]))
    refine ⟨.ok value, after, _, outcome_of_ok ((bind_ok waited).trans moved),
      .done set clear ?_ moves⟩
    intro limit isLimit
    rw [Polling.reads, Option.mem_def.mp isLimit] at within
    exact within
  · refine ⟨_, next, _, outcome_of_error (bind_error waited), ?_⟩
    cases limited : polling.limit with
    | some limit =>
      rw [Polling.reads, limited] at all
      rw [Polling.exhausted, Polling.reads, limited]
      exact .timeout limited all set
    | none =>
      rw [Polling.reads, limited] at all
      rw [Polling.exhausted, limited]
      exact .endless limited all set

theorem transact_disturbed (errand : Errand) (bank : RegisterBank σ) (mask : UInt32)
    (noise : σ → UInt32) :
    errand.transact (bank.disturbed mask noise) = errand.transact bank := by
  cases errand with
  | send word => rfl
  | receive => rw [transact, transact, RegisterBank.read_data_disturbed]

end Errand

/-- Whatever is behind the registers, a guarded errand looks at the status until its bit
is clear for the first time and then uses the data register once, or it finds the bit
set as often as it may look and says so. An unguarded one uses the data register once
and does not look. The other bits of the status and the interval make no difference. -/
theorem RegisterBank.errand_polls_exactly {σ : Type} {bank : RegisterBank σ}
    (answers : bank.Answers) (errand : Errand) (polling : Polling) (state : σ) :
    (∃ result after accesses,
      (errand.perform bank.recorded .guarded polling).outcome (state, [])
        = (result, after, accesses) ∧
      errand.Ends polling accesses result) ∧
    (∃ transfer value after,
      (errand.perform bank.recorded .unguarded polling).outcome (state, [])
        = (.ok value, after, [(Register.data, transfer)]) ∧
      errand.Moves transfer value) ∧
    ∀ guard noise interval,
      (errand.perform (bank.disturbed errand.mask noise) guard
          { polling with yieldInterval := interval }).outcome state
        = (errand.perform bank guard polling).outcome state := by
  refine ⟨errand.exists_ends answers polling state, ?_, ?_⟩
  · obtain ⟨transfer, value, after, moves, moved⟩ :=
      errand.transact_recorded answers state []
    rw [Errand.perform_eq]
    exact ⟨transfer, value, after, outcome_of_ok moved, moves⟩
  · intro guard noise interval
    rw [Errand.perform_eq, Errand.perform_eq, await_disturbed,
      Errand.transact_disturbed]

/-- Registers that count the accesses. At first both bits of the status are set, and
from the third access on there is room for a request word. -/
def RegisterBank.slow : RegisterBank Nat where
  read offset := do
    let accesses ← get
    set (accesses + 1)
    return if offset = Register.data then 7 else if accesses < 2 then 3 else 1
  write _ _ := modify (· + 1)

/-- A word goes out after the last of three looks. A limit of zero still allows one
look, which is too early for a word to come in; without a guard it is taken all the
same. An interval of zero does no harm. -/
theorem RegisterBank.errand_polls_exactly_within_three_looks :
    slow.Answers ∧
    ((Errand.send 9).perform slow.recorded .guarded ⟨some 3, 0⟩).outcome (0, [])
      = (.ok none, 4, looks [3, 3, 1] ++ [(Register.data, .write 9)]) ∧
    (Errand.send 9).Ends ⟨some 3, 0⟩ (looks [3, 3, 1] ++ [(Register.data, .write 9)])
      (.ok none) ∧
    Errand.receive.Ends ⟨some 0, 0⟩ (looks [3]) (.error (.timeout "read_word" 1)) ∧
    (Errand.receive.perform slow.recorded .unguarded ⟨some 0, 0⟩).outcome (0, [])
      = (.ok (some 7), 1, [(Register.data, .read 7)]) := by
  have answers : slow.Answers := ⟨fun _ _ => ⟨_, _, rfl⟩, fun _ _ _ => ⟨_, rfl⟩⟩
  have sent :
      ((Errand.send 9).perform slow.recorded .guarded ⟨some 3, 0⟩).outcome (0, [])
      = (.ok none, 4, looks [3, 3, 1] ++ [(Register.data, .write 9)]) := rfl
  obtain ⟨⟨_, _, _, sending, sendingEnds⟩, _⟩ :=
    errand_polls_exactly answers (.send 9) ⟨some 3, 0⟩ 0
  obtain ⟨⟨_, _, _, receiving, receivingEnds⟩, ⟨_, _, _, unguarded, _⟩, _⟩ :=
    errand_polls_exactly answers .receive ⟨some 0, 0⟩ 0
  cases sent.symm.trans sending
  cases receiving
  cases unguarded
  exact ⟨answers, sent, sendingEnds, receivingEnds, rfl⟩

end ArenaPaths
