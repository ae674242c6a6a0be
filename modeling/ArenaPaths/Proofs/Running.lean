import ArenaPaths.Action

/-!
# Running actions

How a step that is put together from smaller ones runs. A proof follows a step by naming
what each of its parts returns and the state that it leaves; the lemmas here carry the
name of a part over to the whole.
-/

namespace ArenaPaths.Action

variable {σ τ α β : Type}

@[simp] theorem pure_apply (value : α) (state : σ) :
    (pure value : Action σ α) state = .ok value state := rfl

@[simp] theorem get_apply (state : σ) : (get : Action σ σ) state = .ok state state :=
  rfl

@[simp] theorem set_apply (state rest : σ) :
    (set rest : Action σ Unit) state = .ok () rest := rfl

@[simp] theorem modify_apply (change : σ → σ) (state : σ) :
    (modify change : Action σ Unit) state = .ok () (change state) := rfl

@[simp] theorem throw_apply (fault : Fault) (state : σ) :
    (throw fault : Action σ α) state = .error fault state := rfl

@[simp] theorem liftM_ok_apply (value : α) (state : σ) :
    (liftM (.ok value : Except Fault α) : Action σ α) state = .ok value state := rfl

@[simp] theorem liftM_error_apply (fault : Fault) (state : σ) :
    (liftM (.error fault : Except Fault α) : Action σ α) state = .error fault state :=
  rfl

/-- A step and what follows it: what follows goes on in the state that the step leaves,
unless the step fails. -/
theorem bind_apply (step : Action σ α) (next : α → Action σ β) (state : σ) :
    (step >>= next) state =
      match step state with
      | .ok value rest => next value rest
      | .error fault rest => .error fault rest := by
  cases run : step state <;> simp only [bind, EStateM.bind, run]

theorem bind_ok {step : Action σ α} {next : α → Action σ β} {state rest : σ} {value : α}
    (ok : step state = .ok value rest) : (step >>= next) state = next value rest := by
  rw [bind_apply, ok]

theorem bind_error {step : Action σ α} {next : α → Action σ β} {state rest : σ}
    {fault : Fault} (failed : step state = .error fault rest) :
    (step >>= next) state = .error fault rest := by
  rw [bind_apply, failed]

/-- A step that returns went through both of its parts. -/
theorem of_bind_eq_ok {step : Action σ α} {next : α → Action σ β} {state rest : σ}
    {value : β} (ok : (step >>= next) state = .ok value rest) :
    ∃ between mid, step state = .ok between mid ∧
      next between mid = .ok value rest := by
  rw [bind_apply] at ok
  split at ok
  · rename_i between mid first
    exact ⟨between, mid, first, ok⟩
  · cases ok

@[simp] theorem pure_bind_apply (value : α) (next : α → Action σ β) (state : σ) :
    (pure value >>= next) state = next value state := rfl

@[simp] theorem get_bind_apply (next : σ → Action σ β) (state : σ) :
    (get >>= next) state = next state state := rfl

@[simp] theorem set_bind_apply (next : Unit → Action σ β) (state rest : σ) :
    ((set rest : Action σ Unit) >>= next) state = next () rest := rfl

@[simp] theorem modify_bind_apply (change : σ → σ) (next : Unit → Action σ β)
    (state : σ) :
    ((modify change : Action σ Unit) >>= next) state = next () (change state) := rfl

@[simp] theorem throw_bind_apply (fault : Fault) (next : α → Action σ β) (state : σ) :
    ((throw fault : Action σ α) >>= next) state = .error fault state := rfl

@[simp] theorem liftM_ok_bind_apply (value : α) (next : α → Action σ β) (state : σ) :
    ((liftM (.ok value : Except Fault α) : Action σ α) >>= next) state
      = next value state := rfl

@[simp] theorem liftM_error_bind_apply (fault : Fault) (next : α → Action σ β)
    (state : σ) :
    ((liftM (.error fault : Except Fault α) : Action σ α) >>= next) state
      = .error fault state := rfl

/-- Whatever a step returns, its outcome tells. -/
theorem outcome_of_ok {step : Action σ α} {state rest : σ} {value : α}
    (ok : step state = .ok value rest) :
    step.outcome state = (.ok value, rest) := by
  rw [outcome, ok]

theorem outcome_of_error {step : Action σ α} {state rest : σ} {fault : Fault}
    (failed : step state = .error fault rest) :
    step.outcome state = (.error fault, rest) := by
  rw [outcome, failed]

theorem outcome_bind_ok {step : Action σ α} {next : α → Action σ β} {state rest : σ}
    {value : α} (ok : step state = .ok value rest) :
    (step >>= next).outcome state = (next value).outcome rest := by
  rw [outcome, outcome, bind_ok ok]

theorem result_of_ok {step : Action σ α} {state rest : σ} {value : α}
    (ok : step state = .ok value rest) :
    step.result state = .ok value := by
  rw [result, outcome_of_ok ok]

/-- A step whose outcome is a value has returned it. -/
theorem eq_ok_of_outcome {step : Action σ α} {state rest : σ} {value : α}
    (returned : step.outcome state = (.ok value, rest)) :
    step state = .ok value rest := by
  cases ran : step state with
  | ok other left =>
    rw [outcome_of_ok ran] at returned
    cases returned
    rfl
  | error fault left =>
    rw [outcome_of_error ran] at returned
    cases returned

theorem result_of_error {step : Action σ α} {state rest : σ} {fault : Fault}
    (failed : step state = .error fault rest) : step.result state = .error fault := by
  rw [result, outcome_of_error failed]

/-- A step whose result is a fault has failed with it and left a state. -/
theorem exists_of_result_eq_error {step : Action σ α} {state : σ} {fault : Fault}
    (failed : step.result state = .error fault) :
    ∃ rest, step state = .error fault rest := by
  cases ran : step state with
  | ok value rest =>
    rw [result_of_ok ran] at failed
    cases failed
  | error other rest =>
    rw [result_of_error ran] at failed
    cases failed
    exact ⟨rest, rfl⟩

/-- What a step does to a part of the state it does to the whole. -/
theorem outcome_focus (part : σ → τ) (restore : σ → τ → σ) (step : Action τ α)
    (state : σ) :
    (focus part restore step).outcome state
      = ((step.outcome (part state)).1,
        restore state (step.outcome (part state)).2) := by
  cases ran : step (part state) with
  | ok value rest => rw [outcome_of_ok (focus_eq_ok ran), outcome_of_ok ran]
  | error fault rest => rw [outcome_of_error (focus_eq_error ran), outcome_of_error ran]

/-- What is made of the value of a step does not change the state. -/
theorem outcome_map (change : α → β) (step : Action σ α) (state : σ) :
    (step >>= fun value => pure (change value)).outcome state
      = ((step.outcome state).1.map change, (step.outcome state).2) := by
  cases ran : step state with
  | ok value rest =>
    rw [outcome_of_ok ran, outcome, bind_ok ran]
    rfl
  | error fault rest =>
    rw [outcome_of_error ran, outcome_of_error (bind_error ran)]
    rfl

theorem onFirst_eq_ok {step : Action σ α} {state rest : σ} {other : τ} {value : α}
    (ok : step state = .ok value rest) :
    onFirst step (state, other) = .ok value (rest, other) :=
  focus_eq_ok ok

theorem onFirst_eq_error {step : Action σ α} {state rest : σ} {other : τ}
    {fault : Fault} (failed : step state = .error fault rest) :
    onFirst step (state, other) = .error fault (rest, other) :=
  focus_eq_error failed

theorem onSecond_eq_ok {step : Action τ α} {state : σ} {other rest : τ} {value : α}
    (ok : step other = .ok value rest) :
    onSecond step (state, other) = .ok value (state, rest) :=
  focus_eq_ok ok

theorem onSecond_eq_error {step : Action τ α} {state : σ} {other rest : τ}
    {fault : Fault} (failed : step other = .error fault rest) :
    onSecond step (state, other) = .error fault (state, rest) :=
  focus_eq_error failed

/-- What steps return or fail with when they are taken one after another, and the state
that they leave. A step that fails does not stop the ones behind it. -/
def outcomes : List (Action σ α) → σ → List (Except Fault α) × σ
  | [], state => ([], state)
  | step :: rest, state =>
    let first := step.outcome state
    let others := outcomes rest first.2
    (first.1 :: others.1, others.2)

theorem outcomes_cons {step : Action σ α} {rest : List (Action σ α)}
    {state mid final : σ} {result : Except Fault α} {results : List (Except Fault α)}
    (first : step.outcome state = (result, mid))
    (others : outcomes rest mid = (results, final)) :
    outcomes (step :: rest) state = (result :: results, final) := by
  simp only [outcomes, first, others]

theorem outcomes_append {first second : List (Action σ α)} {state mid final : σ}
    {results more : List (Except Fault α)}
    (earlier : outcomes first state = (results, mid))
    (later : outcomes second mid = (more, final)) :
    outcomes (first ++ second) state = (results ++ more, final) := by
  induction first generalizing state results with
  | nil =>
    cases earlier
    exact later
  | cons step rest ih =>
    cases earlier
    exact outcomes_cons rfl (ih rfl)

/-- Results that are there one by one are there together. -/
theorem mapM_eq_ok {step : α → Except Fault β} {value : α → β} {items : List α}
    (each : ∀ item ∈ items, step item = .ok (value item)) :
    items.mapM step = .ok (items.map value) := by
  induction items with
  | nil => rfl
  | cons item rest ih =>
    rw [List.mapM_cons, each item List.mem_cons_self,
      ih fun other member => each other (List.mem_cons_of_mem _ member)]
    rfl

/-- Steps that each return a value and change nothing do so together. -/
theorem mapM_apply_eq_ok {step : α → Action σ β} {value : α → β} {items : List α}
    {state : σ} (each : ∀ item ∈ items, step item state = .ok (value item) state) :
    items.mapM step state = .ok (items.map value) state := by
  induction items with
  | nil => rfl
  | cons item rest ih =>
    have others := ih fun other member => each other (List.mem_cons_of_mem _ member)
    rw [List.mapM_cons, bind_ok (each item List.mem_cons_self), bind_ok others]
    rfl

/-- Tests that each pass and change nothing pass together. -/
theorem allM_apply_eq_true {test : α → Action σ Bool} {items : List α} {state : σ}
    (each : ∀ item ∈ items, test item state = .ok true state) :
    items.allM test state = .ok true state := by
  induction items with
  | nil => rfl
  | cons item rest ih =>
    have others := ih fun other member => each other (List.mem_cons_of_mem _ member)
    rw [List.allM, bind_ok (each item List.mem_cons_self)]
    exact others

/-! ## What steps keep -/

/-- However a step ends, what is seen of the state is as before. -/
def Keeps {ω : Type} (view : σ → ω) (step : Action σ α) : Prop :=
  ∀ state, view (step.outcome state).2 = view state

namespace Keeps

variable {ω : Type} {view : σ → ω}

theorem pure (value : α) : Keeps view (Pure.pure value) := fun _ => rfl

theorem get : Keeps view (MonadState.get : Action σ σ) := fun _ => rfl

theorem throw (fault : Fault) :
    Keeps view (MonadExcept.throw fault : Action σ α) := fun _ => rfl

theorem liftM (result : Except Fault α) :
    Keeps view (MonadLiftT.monadLift result : Action σ α) := by
  intro state
  cases result <;> rfl

/-- What both parts of a step keep the whole step keeps. -/
theorem bind {step : Action σ α} {next : α → Action σ β} (first : Keeps view step)
    (second : ∀ value, Keeps view (next value)) : Keeps view (step >>= next) := by
  intro state
  have kept := first state
  cases ran : step state with
  | ok value rest =>
    rw [outcome_of_ok ran] at kept
    rw [outcome, bind_ok ran]
    exact (second value rest).trans kept
  | error fault rest =>
    rw [outcome_of_error ran] at kept
    rw [outcome_of_error (bind_error ran)]
    exact kept

theorem onFirst {step : Action σ α} (kept : Keeps view step) :
    Keeps (fun state : σ × τ => view state.1) (Action.onFirst step) := by
  rintro ⟨state, other⟩
  have here := kept state
  cases ran : step state with
  | ok value rest =>
    rw [outcome_of_ok ran] at here
    rw [outcome_of_ok (onFirst_eq_ok ran)]
    exact here
  | error fault rest =>
    rw [outcome_of_error ran] at here
    rw [outcome_of_error (onFirst_eq_error ran)]
    exact here

theorem forM {step : β → Action σ Unit} (each : ∀ item, Keeps view (step item))
    (items : List β) :
    Keeps view (items.forM step) := by
  induction items with
  | nil => exact pure ()
  | cons item rest ih => exact bind (each item) fun _ => ih

end Keeps

end ArenaPaths.Action
