import ArenaPaths.Fault

/-!
# Actions

A step of the program works on a state and either returns a value or fails. What it did
to the state before it failed stays done, so a failure carries a state as well.
-/

namespace ArenaPaths

variable {σ τ α : Type}

/-- A step on a state `σ` that returns a value or fails with a fault, leaving a state
either way. -/
abbrev Action (σ α : Type) := EStateM Fault σ α

/-- A result that needs no state is a step that leaves the state alone. -/
instance : MonadLift (Except Fault) (EStateM Fault σ) where
  monadLift
    | .ok value => pure value
    | .error fault => throw fault

namespace Action

/-- Run a step on a part of the state, given how to read the part and how to put it
back. -/
def focus (part : σ → τ) (restore : σ → τ → σ) (step : Action τ α) :
    Action σ α := fun state =>
  match step (part state) with
  | .ok value rest => .ok value (restore state rest)
  | .error fault rest => .error fault (restore state rest)

/-- Run a step on the first half of a pair. -/
def onFirst (step : Action σ α) : Action (σ × τ) α :=
  focus Prod.fst (fun state first => (first, state.2)) step

/-- Run a step on the second half of a pair. -/
def onSecond (step : Action τ α) : Action (σ × τ) α :=
  focus Prod.snd (fun state second => (state.1, second)) step

/-- What a step returns or fails with, and the state that it leaves. -/
def outcome (step : Action σ α) (state : σ) : Except Fault α × σ :=
  match step state with
  | .ok value rest => (.ok value, rest)
  | .error fault rest => (.error fault, rest)

/-- What a step returns or fails with. -/
def result (step : Action σ α) (state : σ) : Except Fault α :=
  (step.outcome state).1

@[simp] theorem focus_eq_ok {part : σ → τ} {restore : σ → τ → σ} {step : Action τ α}
    {state : σ} {rest : τ} {value : α} (ok : step (part state) = .ok value rest) :
    focus part restore step state = .ok value (restore state rest) := by
  simp [focus, ok]

@[simp] theorem focus_eq_error {part : σ → τ} {restore : σ → τ → σ} {step : Action τ α}
    {state : σ} {rest : τ} {fault : Fault}
    (failed : step (part state) = .error fault rest) :
    focus part restore step state = .error fault (restore state rest) := by
  simp [focus, failed]

end Action

/-! ## Machine words

Sizes and addresses are natural numbers below a power of two. Where a sum or product
leaves that range the program either notices, which is the `?` form, or stops. It also
stops where it divides by zero. -/

namespace Word

/-- A sum that fits 64 bits. -/
def add64? (a b : Nat) : Option Nat :=
  if a + b < UInt64.size then some (a + b) else none

/-- A product that fits 64 bits. -/
def mul64? (a b : Nat) : Option Nat :=
  if a * b < UInt64.size then some (a * b) else none

/-- A sum that has to stay below the limit of its kind of word. -/
def add (limit a b : Nat) : Except Fault Nat :=
  if a + b < limit then .ok (a + b) else .error (.abort .addOverflow)

/-- A product that has to stay below the limit of its kind of word. -/
def mul (limit a b : Nat) : Except Fault Nat :=
  if a * b < limit then .ok (a * b) else .error (.abort .multiplyOverflow)

/-- A remainder; by zero there is none. -/
def rem (a b : Nat) : Except Fault Nat :=
  if b = 0 then .error (.abort .remainderByZero) else .ok (a % b)

/-- Address of an entry of a table: the entries of size `stride` stand one after another
from `base` on. -/
def entryAddress (base : UInt32) (index stride : Nat) : Except Fault UInt32 := do
  let distance ← mul UInt32.size index stride
  let address ← add UInt32.size base.toNat distance
  return address.toUInt32

theorem add_eq_ok {limit a b : Nat} (fits : a + b < limit) :
    add limit a b = .ok (a + b) :=
  if_pos fits

theorem mul_eq_ok {limit a b : Nat} (fits : a * b < limit) :
    mul limit a b = .ok (a * b) :=
  if_pos fits

theorem rem_eq_ok {a b : Nat} (positive : 0 < b) : rem a b = .ok (a % b) :=
  if_neg (Nat.ne_of_gt positive)

/-- The entry's address is the natural one as long as that is an address at all. -/
theorem entryAddress_eq_ok {base : UInt32} {index stride : Nat}
    (fits : base.toNat + index * stride < UInt32.size) :
    entryAddress base index stride = .ok (base.toNat + index * stride).toUInt32 := by
  have productFits : index * stride < UInt32.size := by omega
  simp only [entryAddress, mul_eq_ok productFits, add_eq_ok fits, bind, Except.bind,
    pure, Except.pure]

end Word

end ArenaPaths
