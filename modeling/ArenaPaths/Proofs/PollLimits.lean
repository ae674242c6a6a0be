import ArenaPaths.Channel.Settings
import ArenaPaths.Proofs.Polling
import ArenaPaths.Proofs.Texts

/-!
# Limits of polls

A text says how often a guarded channel looks at the status before it gives up. It asks
for its value as a numeral, and with a value of zero, or in a word, for no limit at all.
The word and the single digit are known by their spelling, and all else is read as a
numeral, so zero in other digits is taken for a limit of zero. A channel with that limit
gives up after one look, as with a limit of one; with any other text it keeps to what is
asked for.

Main statement: `ChannelSettings.poll_limit_kept_unless_zero_respelled`.
-/

namespace ArenaPaths

open ArenaPaths.Action Text

/-! ## Texts -/

/-- What a text with no blanks around it asks for. -/
inductive AsksFor (text : String) : Option Nat → Prop
  | unbounded : text = "unbounded" → AsksFor text none
  | zero : IsDecimal text 0 → AsksFor text none
  | count {limit : Nat} : IsDecimal text limit → 0 < limit → limit < UInt64.size →
      AsksFor text (some limit)

/-- A numeral of value zero that is not the single digit. -/
def RespelledZero (text : String) : Prop := IsDecimal text 0 ∧ text ≠ "0"

theorem isDecimal_zero : IsDecimal "0" 0 := ⟨['0'], by simp, by simp, .inl rfl, rfl⟩

theorem not_isDecimal_unbounded (value : Nat) : ¬ IsDecimal "unbounded" value := by
  intro isDecimal
  obtain ⟨c, rest, chars_eq, first⟩ := isDecimal.exists_first
  cases chars_eq
  revert first
  decide

/-- The value of a numeral is told by the numeral. -/
theorem Text.IsDecimal.unique {text : String} {value other : Nat}
    (isDecimal : IsDecimal text value) (otherwise : IsDecimal text other) :
    value = other := by
  have limit : 0 < value + other + 1 := Nat.succ_pos _
  have first := (Numeral.read_ten_eq_ok_iff limit).mpr ⟨isDecimal, by omega⟩
  have second := (Numeral.read_ten_eq_ok_iff limit).mpr ⟨otherwise, by omega⟩
  exact Except.ok.inj (first.symm.trans second)

theorem parsePollLimit_of_word {text : String}
    (word : trim text = "unbounded" ∨ trim text = "0") :
    parsePollLimit text = some none :=
  if_pos word

/-- A text that is not one of the two words is read as a numeral. -/
theorem parsePollLimit_of_numeral {text : String}
    (noWord : ¬ (trim text = "unbounded" ∨ trim text = "0")) (limit : Option Nat) :
    parsePollLimit text = some limit ↔
      ∃ value, limit = some value ∧ IsDecimal (trim text) value ∧
        value < UInt64.size := by
  have read_iff (value : Nat) : Numeral.decimal64 (trim text) = .ok value ↔
      IsDecimal (trim text) value ∧ value < UInt64.size :=
        Numeral.read_ten_eq_ok_iff (by decide)
  rw [parsePollLimit, if_neg noWord]
  cases outcome : Numeral.decimal64 (trim text) with
  | ok value =>
    have numeral := (read_iff value).mp outcome
    constructor
    · intro read
      exact ⟨value, (Option.some.inj read).symm, numeral⟩
    · rintro ⟨other, rfl, otherwise, _⟩
      rw [numeral.1.unique otherwise]
  | error fault =>
    constructor
    · intro read
      cases read
    · rintro ⟨value, _, numeral⟩
      cases outcome.symm.trans ((read_iff value).mpr numeral)

/-- A text gives the limit that it asks for, unless it has zero in other digits. -/
theorem parsePollLimit_eq_some_iff {text : String}
    (asSpelled : ¬ RespelledZero (trim text)) (limit : Option Nat) :
    parsePollLimit text = some limit ↔ AsksFor (trim text) limit := by
  by_cases word : trim text = "unbounded" ∨ trim text = "0"
  · rw [parsePollLimit_of_word word, Option.some.injEq]
    constructor
    · rintro rfl
      rcases word with unbounded | zero
      · exact .unbounded unbounded
      · exact .zero (zero ▸ isDecimal_zero)
    · rintro (_ | _ | ⟨isDecimal, positive, _⟩)
      · rfl
      · rfl
      · rcases word with unbounded | zero
        · exact absurd (unbounded ▸ isDecimal) (not_isDecimal_unbounded _)
        · have value_eq := isDecimal_zero.unique (zero ▸ isDecimal)
          omega
  · rw [parsePollLimit_of_numeral word]
    constructor
    · rintro ⟨value, rfl, isDecimal, small⟩
      refine .count isDecimal (Nat.pos_of_ne_zero ?_) small
      rintro rfl
      exact asSpelled ⟨isDecimal, fun zero => word (.inr zero)⟩
    · rintro (unbounded | isZero | ⟨isDecimal, _, small⟩)
      · exact absurd (.inl unbounded) word
      · exact absurd ⟨isZero, fun zero => word (.inr zero)⟩ asSpelled
      · exact ⟨_, rfl, isDecimal, small⟩

/-- Zero in other digits gives a limit of zero. -/
theorem parsePollLimit_of_respelledZero {text : String}
    (respelled : RespelledZero (trim text)) :
    parsePollLimit text = some (some 0) := by
  refine (parsePollLimit_of_numeral ?_ _).mpr ⟨0, rfl, respelled.1, by decide⟩
  rintro (unbounded | zero)
  · exact not_isDecimal_unbounded 0 (unbounded ▸ respelled.1)
  · exact respelled.2 zero

/-! ## Looks at the status -/

namespace RegisterBank

variable {σ : Type} {bank : RegisterBank σ} {state between next : σ} {few many : Nat}
  {first all : List UInt32}

/-- Look at the status the given number of times and tell what it was. -/
def watch (bank : RegisterBank σ) : Nat → Action σ (List UInt32)
  | 0 => return []
  | looks + 1 => do
    let statuses ← bank.watch looks
    let status ← bank.read Register.status
    return statuses ++ [status]

theorem watch_succ {status : UInt32}
    (watched : bank.watch few state = .ok first between)
    (read : bank.read Register.status between = .ok status next) :
    bank.watch (few + 1) state = .ok (first ++ [status]) next := by
  rw [watch, bind_ok watched, bind_ok read, pure_apply]

/-- What the first looks tell does not depend on how many follow. -/
theorem watch_prefix (early : bank.watch few state = .ok first between)
    (late : bank.watch many state = .ok all next) (fewer : few ≤ many) :
    first <+: all := by
  induction many generalizing all next with
  | zero =>
    obtain rfl := Nat.le_zero.mp fewer
    cases early.symm.trans late
    exact List.prefix_rfl
  | succ many ih =>
    rcases Nat.le_add_one_iff.mp fewer with earlier | rfl
    · obtain ⟨before, mid, watched, last⟩ := of_bind_eq_ok late
      obtain ⟨status, after, _, done⟩ := of_bind_eq_ok last
      cases done
      exact (ih watched earlier).trans (List.prefix_append _ _)
    · cases early.symm.trans late
      exact List.prefix_rfl

/-- A guarded wait has looked until the bit was clear, or as often as it may. -/
theorem Answers.await_watches (answers : bank.Answers) (polling : Polling)
    (mask : UInt32) (operation : String) (state : σ) :
    (∃ busy last next, bank.await .guarded polling mask operation state = .ok () next ∧
      bank.watch (busy.length + 1) state = .ok (busy ++ [last]) next ∧
      last &&& mask = 0 ∧
      busy.length + 1 ≤ polling.reads) ∨
    ∃ busy next, bank.await .guarded polling mask operation state
      = .error (polling.exhausted operation) next ∧
      bank.watch polling.reads state = .ok busy next ∧
      ∀ status ∈ busy, status &&& mask ≠ 0 := by
  have step : ∀ (statuses : List UInt32) (reached : σ),
      bank.watch statuses.length state = .ok statuses reached →
      ∃ status after, bank.read Register.status reached = .ok status after ∧
        bank.watch (statuses ++ [status]).length state
          = .ok (statuses ++ [status]) after := by
    intro statuses reached watched
    obtain ⟨status, after, read⟩ := answers.read Register.status reached
    refine ⟨status, after, read, ?_⟩
    rw [List.length_append]
    exact watch_succ watched read
  have positive := polling.reads_pos
  rcases poll_cases step polling mask operation 0 (polling.reads - 1) [] rfl with
    ⟨busy, last, next, polled, watched, _, clear, within⟩ | ⟨busy, next, polled,
      watched, set, all⟩
  · refine .inl ⟨busy, last, next, polled, ?_, clear, by omega⟩
    rw [List.nil_append, List.length_append] at watched
    exact watched
  · refine .inr ⟨busy, next, polled, ?_, set⟩
    rw [List.nil_append, all, Nat.sub_add_cancel positive] at watched
    exact watched

end RegisterBank

/-- A guarded errand fails exactly if it has looked as often as it may and the bit was
set every time, and then it has done nothing else. -/
theorem Errand.perform_eq_error_iff {σ : Type} {bank : RegisterBank σ}
    (answers : bank.Answers) (errand : Errand) (polling : Polling) (state : σ)
    (fault : Fault) (next : σ) :
    errand.perform bank .guarded polling state = .error fault next ↔
      fault = polling.exhausted errand.operation ∧
      ∃ statuses, bank.watch polling.reads state = .ok statuses next ∧
        ∀ status ∈ statuses, status &&& errand.mask ≠ 0 := by
  rw [perform_eq]
  rcases answers.await_watches polling errand.mask errand.operation state with
    ⟨busy, last, between, waited, watched, clear, within⟩ | ⟨busy, between, waited,
      watched, set⟩
  · constructor
    · intro failed
      rw [bind_ok waited] at failed
      cases errand with
      | send word =>
        obtain ⟨after, written⟩ := answers.write Register.data word between
        cases (bind_ok written).symm.trans failed
      | receive =>
        obtain ⟨word, after, read⟩ := answers.read Register.data between
        cases (bind_ok read).symm.trans failed
    · -- the last look of the wait is among all the looks that found the bit set
      rintro ⟨_, statuses, watchedAll, set⟩
      have isLast : last ∈ statuses :=
        (RegisterBank.watch_prefix watched watchedAll within).subset (by simp)
      exact absurd clear (set last isLast)
  · rw [bind_error waited]
    constructor
    · intro failed
      cases failed
      exact ⟨rfl, busy, watched, set⟩
    · rintro ⟨rfl, statuses, watchedAll, _⟩
      cases watched.symm.trans watchedAll
      rfl

/-! ## Keeping to a limit -/

namespace Polling

/-- Whatever is behind the registers, guarded errands keep to a limit: one times out
exactly if it has looked at the status that many times, has found its bit set every time
and has done nothing else. Without a limit none times out. -/
def KeepsTo (polling : Polling) (limit : Option Nat) : Prop :=
  ∀ (σ : Type) (bank : RegisterBank σ), bank.Answers →
    ∀ (errand : Errand) (state : σ) (operation : String)
    (polls : Nat) (next : σ),
    errand.perform bank .guarded polling state = .error
      (.timeout operation polls) next ↔
      polls ∈ limit ∧ operation = errand.operation ∧
      ∃ statuses, bank.watch polls state = .ok statuses next ∧
        ∀ status ∈ statuses, status &&& errand.mask ≠ 0

/-- A limit is kept to, except that there is always one look. -/
theorem keepsTo_limit (polling : Polling) :
    polling.KeepsTo (polling.limit.map (max 1)) := by
  intro σ bank answers errand state operation polls next
  rw [errand.perform_eq_error_iff answers]
  cases limited : polling.limit with
  | none =>
    have exhausted_eq : polling.exhausted errand.operation = .abort .addOverflow := by
      rw [exhausted, limited]
    rw [exhausted_eq]
    simp
  | some limit =>
    have reads_eq : polling.reads = max 1 limit := by rw [reads, limited]
    have exhausted_eq : polling.exhausted errand.operation
        = .timeout errand.operation (max 1 limit) := by
      rw [exhausted, limited, reads_eq]
    rw [exhausted_eq, reads_eq, Option.map_some, Option.mem_some_iff,
      Fault.timeout.injEq]
    constructor
    · rintro ⟨⟨rfl, rfl⟩, watched⟩
      exact ⟨rfl, rfl, watched⟩
    · rintro ⟨rfl, rfl, watched⟩
      exact ⟨⟨rfl, rfl⟩, watched⟩

end Polling

theorem AsksFor.map_max_one {text : String} {limit : Option Nat}
    (asks : AsksFor text limit) :
    limit.map (max 1) = limit := by
  cases asks with
  | unbounded => rfl
  | zero => rfl
  | count _ positive => exact congrArg some (Nat.max_eq_right positive)

namespace ChannelSettings

theorem ofEnvironment_of_limit {environment : Environment} {text : String}
    {limit : Option Nat} (isSet : environment.pollLimit = some text)
    (parsed : parsePollLimit text = some limit) :
    (ofEnvironment environment).guard = .guarded ∧
    (ofEnvironment environment).polling.limit = limit := by
  rw [ofEnvironment, isSet, Option.bind_some, parsed]
  exact ⟨rfl, rfl⟩

/-- A text gives the limit of polls that it asks for, and no limit if it asks for none,
unless it has zero in digits other than the single one. A guarded channel whose limit
the text has set keeps to what is asked for. Zero in other digits gives a limit of zero,
and with it a channel gives up after the first look that finds the bit set. -/
theorem poll_limit_kept_unless_zero_respelled (text : String) :
    (¬ RespelledZero (trim text) →
      ∀ limit, parsePollLimit text = some limit ↔ AsksFor (trim text) limit) ∧
    (RespelledZero (trim text) → parsePollLimit text = some (some 0)) ∧
    (∀ limit environment, parsePollLimit text = some limit →
      environment.pollLimit = some text →
      (ofEnvironment environment).guard = .guarded ∧
      (ofEnvironment environment).polling.limit = limit) ∧
    (∀ limit (polling : Polling), parsePollLimit text = some limit →
      polling.limit = limit → ¬ RespelledZero (trim text) →
      polling.KeepsTo limit) ∧
    ∀ polling : Polling, RespelledZero (trim text) → polling.limit = some 0 →
      polling.KeepsTo (some 1) := by
  refine ⟨parsePollLimit_eq_some_iff, parsePollLimit_of_respelledZero,
    fun limit environment parsed isSet => ofEnvironment_of_limit isSet parsed, ?_, ?_⟩
  · rintro limit polling parsed rfl asSpelled
    have asks := (parsePollLimit_eq_some_iff asSpelled _).mp parsed
    have kept := polling.keepsTo_limit
    rwa [asks.map_max_one] at kept
  · intro polling _ limited
    have kept := polling.keepsTo_limit
    rwa [limited] at kept

/-- Seven with a sign, two zeros in front and blanks around it is a limit of seven. Two
zeros are a limit of zero, and the channel keeps to one look. -/
theorem poll_limit_kept_unless_zero_respelled_of_zeros :
    parsePollLimit "\t+007\n" = some (some 7) ∧ ¬ RespelledZero (trim "\t+007\n") ∧
    (ofEnvironment ⟨none, some "\t+007\n", none⟩).polling.KeepsTo (some 7) ∧
    RespelledZero (trim "00") ∧ parsePollLimit "00" = some (some 0) ∧
    (ofEnvironment ⟨none, some "00", none⟩).polling.KeepsTo (some 1) := by
  have seven : IsDecimal (trim "\t+007\n") 7 :=
    ⟨['0', '0', '7'], by decide, List.all_eq_true.mp (by decide),
      .inr (by decide +kernel), by decide⟩
  have asSpelled : ¬ RespelledZero (trim "\t+007\n") := by
    rintro ⟨isZero, _⟩
    cases isZero.unique seven
  have respelled : RespelledZero (trim "00") :=
    ⟨⟨['0', '0'], by decide, List.all_eq_true.mp (by decide),
      .inl (by decide +kernel), by decide⟩, by decide +kernel⟩
  obtain ⟨asAsked, _, fromEnvironment, kept, _⟩ :=
    poll_limit_kept_unless_zero_respelled "\t+007\n"
  obtain ⟨_, zero, zeroFromEnvironment, _, keptToOne⟩ :=
    poll_limit_kept_unless_zero_respelled "00"
  have parsed := (asAsked asSpelled (some 7)).mpr (.count seven (by decide) (by decide))
  exact ⟨parsed, asSpelled,
    kept _ _ parsed (fromEnvironment _ _ parsed rfl).2 asSpelled, respelled,
    zero respelled,
    keptToOne _ respelled (zeroFromEnvironment _ _ (zero respelled) rfl).2⟩

/-- Two zeros ask for no limit, and yet a channel times out after one look at the
status. -/
theorem zeros_set_limit :
    AsksFor (trim "00") none ∧ parsePollLimit "00" = some (some 0) ∧
    (Errand.receive.perform RegisterBank.slow
      (ofEnvironment ⟨none, some "00", none⟩).guard
      (ofEnvironment ⟨none, some "00", none⟩).polling).outcome 0
        = (.error (.timeout "read_word" 1), 1) := by
  have asksForNone : IsDecimal (trim "00") 0 :=
    ⟨['0', '0'], by decide, List.all_eq_true.mp (by decide),
      .inl (by decide +kernel), by decide⟩
  exact ⟨.zero asksForNone, by decide +kernel, rfl⟩

end ChannelSettings

end ArenaPaths
